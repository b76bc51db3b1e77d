import CortexFlags.Logging.Activation

/-! What is left of an activation that fails. It opens the log file first, so that nothing has
happened if this fails; a format is looked at only when its handler is about to be added, and
what was done until then stays.

* `bind_apply`, `openFile_of_ok`, `install_of_some` and their like: what each step does;
* `Activates`: where an activation stops, with the journal it leaves;
* `activates_iff`: every activation stops at exactly one of these places;
* `activate_failure`: what a failed one has and has not changed;
* `activate_not_atomic`: a console handler that stays although the activation failed. -/

namespace CortexFlags

namespace LogRequest

/-- The layout of a handler, unless its format names no field. A record in JSON needs no
format. -/
def layout? (request : LogRequest) (format : String) : Option Layout :=
  if request.json then some .json else Layout.ofFormat? format

/-- A format that is used and not empty, and names no field. -/
def Rejects (request : LogRequest) (format : String) : Prop :=
  request.json = false ∧ format.isEmpty = false ∧ Text.Percent.namesField format = false

theorem layout?_eq_none_iff {request : LogRequest} {format : String} :
    request.layout? format = none ↔ request.Rejects format := by
  have hstandard : Text.Percent.namesField "%(message)s" := by decide +kernel
  unfold layout? Rejects Layout.ofFormat?
  cases request.json with
  | true => simp
  | false => cases format.isEmpty <;> simp [hstandard]

theorem not_rejects_of_layout {request : LogRequest} {format : String} {layout : Layout}
    (h : request.layout? format = some layout) : ¬ request.Rejects format := by
  rw [← layout?_eq_none_iff, h]
  simp

/-- The handler of the console. -/
def consoleHandler (request : LogRequest) (style : ConsoleStyle) (layout : Layout) : Handler :=
  ⟨.console (request.color && style.settings.pretty && style.isTerminal), request.level, layout⟩

end LogRequest

/-- Every record passes on to the handlers. -/
def Hub.letThrough (hub : Hub) : Hub := hub.setRootLevel .debug

/-- Debug traces are no longer silent, if they are asked for. -/
def Hub.withTraces (hub : Hub) (debug : Bool) : Hub :=
  if debug then hub.setDebugLevel .debug else hub

namespace Journal

variable {α β : Type} {style : ConsoleStyle} {request : LogRequest} {j j' : Journal}
  {o : Except ActivationFault Unit} {fault : ActivationFault}

/-! ## Steps -/

theorem bind_apply (step : Activation α) (next : α → Activation β) (j : Journal) :
    (step >>= next) j = match step j with
      | (.ok a, j') => next a j'
      | (.error fault, j') => (.error fault, j') := by
  show ExceptT.bindCont next (step j).1 (step j).2 = _
  obtain ⟨outcome, j'⟩ := step j
  cases outcome <;> rfl

theorem bind_of_ok {step : Activation α} {a : α} (h : step j = (.ok a, j'))
    (next : α → Activation β) : (step >>= next) j = next a j' := by
  rw [bind_apply, h]

theorem bind_of_error {step : Activation α} (h : step j = (.error fault, j'))
    (next : α → Activation β) : (step >>= next) j = (.error fault, j') := by
  rw [bind_apply, h]

theorem openFile_of_ok {path : String} {files : Files} {place : Place}
    (h : j.files.openToAppend path = .ok (files, place)) :
    openFile path j = (.ok place, { j with files }) := by
  unfold openFile
  rw [bind_of_ok (rfl : (get : Activation Journal) j = (.ok j, j)), h]
  rfl

theorem openFile_of_error {path : String} {cause : FileFault}
    (h : j.files.openToAppend path = .error cause) :
    openFile path j = (.error (.cannotOpen cause), j) := by
  unfold openFile
  rw [bind_of_ok (rfl : (get : Activation Journal) j = (.ok j, j)), h]
  rfl

/-- A handler is installed if there is a layout for it. -/
theorem install_eq (request : LogRequest) (sink : Sink) (level : Level) (format : String) :
    install request.json sink level format = match request.layout? format with
      | none => throw (.badFormat format)
      | some layout => modify fun j => { j with hub := j.hub.addHandler ⟨sink, level, layout⟩ } :=
  rfl

theorem install_of_some {sink : Sink} {level : Level} {format : String} {layout : Layout}
    (h : request.layout? format = some layout) :
    install request.json sink level format j =
      (.ok (), { j with hub := j.hub.addHandler ⟨sink, level, layout⟩ }) := by
  rw [install_eq, h]
  rfl

theorem install_of_none {sink : Sink} {level : Level} {format : String}
    (h : request.layout? format = none) :
    install request.json sink level format j = (.error (.badFormat format), j) := by
  rw [install_eq, h]
  rfl

theorem modify_apply (change : Journal → Journal) (j : Journal) :
    (modify change : Activation Unit) j = (.ok (), change j) := rfl

theorem traces_apply (debug : Bool) (j : Journal) :
    (if debug then modify fun j => { j with hub := j.hub.setDebugLevel .debug }
      else pure () : Activation Unit) j =
      (.ok (), { j with hub := j.hub.withTraces debug }) := by
  cases debug <;> rfl

/-! ## Where an activation stops -/

/-- The log file, if there is one, can be opened. -/
inductive Opens (files : Files) : Option String → Files → Option Place → Prop
  | nothing : Opens files none files none
  | file {path : String} {files' : Files} {place : Place} :
      files.openToAppend path = .ok (files', place) → Opens files (some path) files' (some place)

/-- The log file cannot be opened. -/
inductive Shut (files : Files) : Option String → FileFault → Prop
  | file {path : String} {cause : FileFault} :
      files.openToAppend path = .error cause → Shut files (some path) cause

theorem opens_or_shut (files : Files) (file : Option String) :
    (∃ files' place, Opens files file files' place) ∨ ∃ cause, Shut files file cause := by
  cases file with
  | none => exact .inl ⟨files, none, .nothing⟩
  | some path =>
    cases h : files.openToAppend path with
    | error cause => exact .inr ⟨cause, .file h⟩
    | ok opened => exact .inl ⟨opened.1, some opened.2, .file h⟩

theorem opens_of_toOption {files : Files} {path : String} {opened : Files × Place}
    (h : (files.openToAppend path).toOption = some opened) :
    Opens files (some path) opened.1 (some opened.2) := by
  cases hopen : files.openToAppend path with
  | error cause =>
    rw [hopen] at h
    cases h
  | ok =>
    rw [hopen] at h
    cases h
    exact .file hopen

theorem shut_of_toOption {files : Files} {path : String}
    (h : (files.openToAppend path).toOption = none) : ∃ cause, Shut files (some path) cause := by
  cases hopen : files.openToAppend path with
  | error cause => exact ⟨cause, .file hopen⟩
  | ok =>
    rw [hopen] at h
    cases h

theorem mapM_openFile_of_opens {file : Option String} {files : Files} {place : Option Place}
    (h : Opens j.files file files place) :
    (file.mapM openFile : Activation (Option Place)) j = (.ok place, { j with files }) := by
  cases h with
  | nothing => rfl
  | file h =>
    rw [Option.mapM_some, map_eq_pure_bind, bind_of_ok (openFile_of_ok h)]
    rfl

theorem mapM_openFile_of_shut {file : Option String} {cause : FileFault}
    (h : Shut j.files file cause) :
    (file.mapM openFile : Activation (Option Place)) j = (.error (.cannotOpen cause), j) := by
  cases h with
  | file h => rw [Option.mapM_some, map_eq_pure_bind, bind_of_error (openFile_of_error h)]

/-- Where an activation stops, with its outcome and the journal that it leaves. -/
inductive Activates (style : ConsoleStyle) (request : LogRequest) (j : Journal) :
    Except ActivationFault Unit → Journal → Prop
  | atFile {cause : FileFault} : Shut j.files request.file cause →
      Activates style request j (.error (.cannotOpen cause)) j
  | atConsoleFormat {files : Files} {place : Option Place} :
      Opens j.files request.file files place →
      request.layout? style.settings.streamFormat = none →
      Activates style request j (.error (.badFormat style.settings.streamFormat))
        { j with hub := j.hub.letThrough, files }
  | atFileFormat {files : Files} {place : Place} {layout : Layout} :
      Opens j.files request.file files (some place) →
      request.layout? style.settings.streamFormat = some layout →
      request.layout? style.settings.fileFormat = none →
      Activates style request j (.error (.badFormat style.settings.fileFormat))
        { j with hub := j.hub.letThrough.addHandler (request.consoleHandler style layout), files }
  | withConsole {files : Files} {layout : Layout} :
      Opens j.files request.file files none →
      request.layout? style.settings.streamFormat = some layout →
      Activates style request j (.ok ()) { j with
        hub := (j.hub.letThrough.addHandler (request.consoleHandler style layout)).withTraces
          request.debug
        files }
  | withFile {files : Files} {place : Place} {layout fileLayout : Layout} :
      Opens j.files request.file files (some place) →
      request.layout? style.settings.streamFormat = some layout →
      request.layout? style.settings.fileFormat = some fileLayout →
      Activates style request j (.ok ()) { j with
        hub := ((j.hub.letThrough.addHandler (request.consoleHandler style layout)).addHandler
          ⟨.file place, .debug, fileLayout⟩).withTraces request.debug
        files }

/-- The steps after the handler of the console is added. -/
def afterConsole (style : ConsoleStyle) (request : LogRequest) (place : Option Place) :
    Activation Unit := do
  if let some place := place then
    install request.json (.file place) .debug style.settings.fileFormat
  if request.debug then
    modify fun j => { j with hub := j.hub.setDebugLevel .debug }

theorem activate_of_opens {files : Files} {place : Option Place}
    (h : Opens j.files request.file files place) :
    j.activate style request =
      (install request.json
          (.console (request.color && style.settings.pretty && style.isTerminal)) request.level
          style.settings.streamFormat >>= fun _ => afterConsole style request place)
        { j with hub := j.hub.letThrough, files } := by
  show activating style request j = _
  unfold activating
  rw [bind_of_ok (mapM_openFile_of_opens h), bind_of_ok (modify_apply ..)]
  rfl

theorem activate_of_console {files : Files} {place : Option Place} {layout : Layout}
    (h : Opens j.files request.file files place)
    (hconsole : request.layout? style.settings.streamFormat = some layout) :
    j.activate style request = afterConsole style request place { j with
      hub := j.hub.letThrough.addHandler (request.consoleHandler style layout), files } := by
  rw [activate_of_opens h, bind_of_ok (install_of_some hconsole)]
  rfl

theorem Activates.activate_eq (h : Activates style request j o j') :
    j.activate style request = (o, j') := by
  cases h with
  | atFile hshut => exact bind_of_error (mapM_openFile_of_shut hshut) _
  | atConsoleFormat hopens hconsole =>
    rw [activate_of_opens hopens, bind_of_error (install_of_none hconsole)]
  | atFileFormat hopens hconsole hfile =>
    -- the console has its handler by the time the format of the file is looked at
    rw [activate_of_console hopens hconsole]
    exact bind_of_error (install_of_none hfile) _
  | withConsole hopens hconsole =>
    rw [activate_of_console hopens hconsole]
    exact traces_apply ..
  | withFile hopens hconsole hfile =>
    rw [activate_of_console hopens hconsole, afterConsole, bind_of_ok (install_of_some hfile)]
    exact traces_apply ..

theorem exists_activates (style : ConsoleStyle) (request : LogRequest) (j : Journal) :
    ∃ o j', Activates style request j o j' := by
  rcases opens_or_shut j.files request.file with ⟨files, place, hopens⟩ | ⟨cause, hshut⟩
  · cases hconsole : request.layout? style.settings.streamFormat with
    | none => exact ⟨_, _, .atConsoleFormat hopens hconsole⟩
    | some layout =>
      cases place with
      | none => exact ⟨_, _, .withConsole hopens hconsole⟩
      | some place =>
        cases hfile : request.layout? style.settings.fileFormat with
        | none => exact ⟨_, _, .atFileFormat hopens hconsole hfile⟩
        | some fileLayout => exact ⟨_, _, .withFile hopens hconsole hfile⟩
  · exact ⟨_, _, .atFile hshut⟩

/-- **An activation stops at exactly one place.** -/
theorem activates_iff :
    Activates style request j o j' ↔ j.activate style request = (o, j') := by
  constructor
  · exact Activates.activate_eq
  · intro h
    obtain ⟨o', k, hstop⟩ := exists_activates style request j
    cases h.symm.trans hstop.activate_eq
    exact hstop

theorem Opens.not_shut {files files' : Files} {file : Option String} {place : Option Place}
    (h : Opens files file files' place) : ¬ ∃ cause, Shut files file cause := by
  rintro ⟨cause, hshut⟩
  cases hshut with
  | file hshut =>
    cases h with
    | file h =>
      rw [hshut] at h
      cases h

theorem Opens.ne_none_iff {files files' : Files} {file : Option String} {place : Option Place}
    (h : Opens files file files' place) : file ≠ none ↔ place ≠ none := by
  cases h <;> simp

/-! ## What a failed activation leaves -/

/-- Why an activation with the console style cannot be completed. -/
def Fails (style : ConsoleStyle) (request : LogRequest) (j : Journal) : Prop :=
  (∃ cause, Shut j.files request.file cause) ∨
    request.Rejects style.settings.streamFormat ∨
    request.file ≠ none ∧ request.Rejects style.settings.fileFormat

theorem Activates.fails (h : Activates style request j (.error fault) j') :
    Fails style request j := by
  cases h with
  | atFile hshut => exact .inl ⟨_, hshut⟩
  | atConsoleFormat hopens hconsole =>
    exact .inr (.inl (LogRequest.layout?_eq_none_iff.mp hconsole))
  | atFileFormat hopens hconsole hfile =>
    exact .inr (.inr ⟨hopens.ne_none_iff.mpr (by simp), LogRequest.layout?_eq_none_iff.mp hfile⟩)

theorem Activates.not_fails (h : Activates style request j (.ok ()) j') :
    ¬ Fails style request j := by
  cases h with
  | withConsole hopens hconsole =>
    rintro (hshut | hrejects | ⟨hfile, _⟩)
    · exact hopens.not_shut hshut
    · exact LogRequest.not_rejects_of_layout hconsole hrejects
    · exact hopens.ne_none_iff.mp hfile rfl
  | withFile hopens hconsole hfile =>
    rintro (hshut | hrejects | ⟨_, hrejects⟩)
    · exact hopens.not_shut hshut
    · exact LogRequest.not_rejects_of_layout hconsole hrejects
    · exact LogRequest.not_rejects_of_layout hfile hrejects

/-- **After a failure** the debug traces are as they were. So is everything else if the file
cannot be opened; if a format is rejected, every record passes on to the handlers, and if it is
only that of the file, the handler of the console stays. -/
theorem activate_failure (style : ConsoleStyle) (request : LogRequest) (j : Journal) :
    ((∃ fault, (j.activate style request).1 = .error fault) ↔ Fails style request j) ∧
    ∀ fault j', j.activate style request = (.error fault, j') →
      j'.hub.debugLevel = j.hub.debugLevel ∧
      ((∃ cause, Shut j.files request.file cause) → j'.hub = j.hub) ∧
      ((¬ ∃ cause, Shut j.files request.file cause) → j'.hub.rootLevel = .debug ∧
        (request.Rejects style.settings.streamFormat → j'.hub.handlers = j.hub.handlers) ∧
        (¬ request.Rejects style.settings.streamFormat →
          ∃ layout, request.layout? style.settings.streamFormat = some layout ∧
            j'.hub.handlers = j.hub.handlers ++ [request.consoleHandler style layout])) := by
  constructor
  · obtain ⟨o, j', hstop⟩ := exists_activates style request j
    rw [hstop.activate_eq]
    cases o with
    | error fault => exact ⟨fun _ => hstop.fails, fun _ => ⟨fault, rfl⟩⟩
    | ok =>
      constructor
      · rintro ⟨fault, hfault⟩
        cases hfault
      · exact fun hfails => absurd hfails hstop.not_fails
  · intro fault j' h
    cases activates_iff.mpr h with
    | atFile hshut => exact ⟨rfl, fun _ => rfl, fun hopen => absurd ⟨_, hshut⟩ hopen⟩
    | atConsoleFormat hopens hconsole =>
      have hrejects := LogRequest.layout?_eq_none_iff.mp hconsole
      exact ⟨rfl, fun hshut => absurd hshut hopens.not_shut, fun _ =>
        ⟨rfl, fun _ => rfl, fun haccepts => absurd hrejects haccepts⟩⟩
    | atFileFormat hopens hconsole hfile =>
      have haccepts := LogRequest.not_rejects_of_layout hconsole
      exact ⟨rfl, fun hshut => absurd hshut hopens.not_shut, fun _ =>
        ⟨rfl, fun hrejects => absurd hrejects haccepts, fun _ => ⟨_, hconsole, rfl⟩⟩⟩

/-- A format without a field for the log file. -/
def plainFile : ConsoleStyle :=
  ⟨false, { Settings.LogSettings.standard with fileFormat := "plain" }⟩

def toFile (path : String) : LogRequest := { LogRequest.standard with file := some path }

theorem plainFile_opens : Opens [] (toFile "a.log").file [(["a.log"], "")] (some ["a.log"]) :=
  opens_of_toOption (by decide +kernel : _ = some ([(["a.log"], "")], ["a.log"]))

/-- A directory that is not there leaves the hub alone; a format without a field does not. -/
theorem plainFile_failure :
    (∃ fault j', empty.activate plainFile (toFile "missing/a.log") = (.error fault, j') ∧
      j'.hub = .initial) ∧
    ∃ fault j', empty.activate plainFile (toFile "a.log") = (.error fault, j') ∧
      j'.hub.rootLevel = .debug ∧ j'.hub.debugLevel = Level.critical + 1 ∧
      j'.hub.handlers.length = 1 := by
  have hshut : ∃ cause, Shut [] (toFile "missing/a.log").file cause :=
    shut_of_toOption (by decide +kernel)
  have hrejects : (toFile "a.log").Rejects "plain" := ⟨rfl, by decide, by decide +kernel⟩
  have haccepts : ¬ (toFile "a.log").Rejects plainFile.settings.streamFormat :=
    fun h => absurd h.2.2 (by decide +kernel)
  constructor
  · obtain ⟨hfails, hleft⟩ := activate_failure plainFile (toFile "missing/a.log") empty
    obtain ⟨fault, hfault⟩ := hfails.mpr (.inl hshut)
    obtain ⟨-, hsame, -⟩ := hleft fault _ (by rw [← hfault])
    exact ⟨fault, _, by rw [← hfault], hsame hshut⟩
  · obtain ⟨hfails, hleft⟩ := activate_failure plainFile (toFile "a.log") empty
    obtain ⟨fault, hfault⟩ := hfails.mpr (.inr (.inr ⟨by simp [toFile], hrejects⟩))
    obtain ⟨htraces, -, hopened⟩ := hleft fault _ (by rw [← hfault])
    obtain ⟨hroot, -, hconsole⟩ := hopened plainFile_opens.not_shut
    obtain ⟨layout, -, hhandlers⟩ := hconsole haccepts
    exact ⟨fault, _, by rw [← hfault], hroot, htraces, by rw [hhandlers]; rfl⟩

/-- **Not all or nothing**: the activation fails at the format of the file, and the root
logger keeps another level and a handler that it did not have. -/
theorem activate_not_atomic :
    ∃ j', empty.activate plainFile (toFile "a.log") = (.error (.badFormat "plain"), j') ∧
      empty.hub = ⟨.warning, 51, [], .initial⟩ ∧
      j'.hub = ⟨.debug, 51, [⟨.console false, .info, .percent "%(levelname)-8s %(message)s"⟩],
        .initial⟩ := by
  have hconsole : (toFile "a.log").layout? plainFile.settings.streamFormat =
      some (.percent "%(levelname)-8s %(message)s") := by decide +kernel
  have hfile : (toFile "a.log").layout? plainFile.settings.fileFormat = none := by decide +kernel
  exact ⟨_, (Activates.atFileFormat plainFile_opens hconsole hfile).activate_eq, rfl, rfl⟩

end Journal

end CortexFlags
