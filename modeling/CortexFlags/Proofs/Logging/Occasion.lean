import CortexFlags.Proofs.Logging.Transcript

/-! One activation of a run, and what its handlers put out.

* `Occasion.outputs_eq`: the records that a handler of the activation puts out, with their lines;
* `Occasion.lookup_file`: the text of a log file is that of its one handler;
* `Occasion.nothing_lost_or_doubled`: all of this for every activation of every run;
* `Occasion.not_all_put_out`: a record that no line can show, and one that its logger holds back
  because it was below the debug traces. -/

namespace CortexFlags

theorem LogRequest.Adds.first {request : LogRequest} {style : ConsoleStyle}
    {place : Option Place} {added : List Handler} (h : request.Adds style place added) :
    ∃ layout, request.layout? style.settings.streamFormat = some layout ∧
      added[0]? = some (request.consoleHandler style layout) := by
  cases h with
  | console hconsole => exact ⟨_, hconsole, rfl⟩
  | both hconsole => exact ⟨_, hconsole, rfl⟩

theorem LogRequest.Adds.second {request : LogRequest} {style : ConsoleStyle}
    {place : Option Place} {added : List Handler} {handler : Handler}
    (h : request.Adds style place added) (hhandler : added[1]? = some handler) :
    ∃ place layout, request.layout? style.settings.fileFormat = some layout ∧
      handler = fileHandler place layout := by
  cases h with
  | console => cases hhandler
  | both _ hfile =>
    cases hhandler
    exact ⟨_, _, hfile, rfl⟩

/-- The layout of a handler shows every record, if JSON is asked for or its format does. -/
theorem LogRequest.showsAll_of_layout {request : LogRequest} {format : String} {layout : Layout}
    (hlayout : request.layout? format = some layout)
    (hshows : request.json ∨ Text.Percent.shows Record.fieldNames format) : layout.ShowsAll := by
  unfold layout? at hlayout
  cases hjson : request.json with
  | true =>
    rw [if_pos hjson] at hlayout
    cases hlayout
    exact Layout.showsAll_json
  | false =>
    rw [hjson] at hshows hlayout
    exact Layout.showsAll_ofFormat (hshows.resolve_left (by decide)) hlayout

/-! ## One activation of a run -/

/-- A run of which one activation is looked at. -/
structure Occasion where
  start : Journal
  before : List LogStep
  style : ConsoleStyle
  request : LogRequest
  after : List LogStep

namespace Occasion

variable {o : Occasion} {added : List Handler} {n : Nat} {handler : Handler}

def activation (o : Occasion) : LogStep := .activate o.style o.request

/-- The steps up to a point after the activation. -/
def upTo (o : Occasion) (earlier : List LogStep) : List LogStep :=
  o.before ++ o.activation :: earlier

def steps (o : Occasion) : List LogStep := o.upTo o.after

/-- The journal that the activation finds. -/
def found (o : Occasion) : Journal := o.start.run o.before

/-- The journal that the activation leaves. -/
def left (o : Occasion) : Journal := o.found.step o.activation

/-- The records that pass their loggers after the activation. -/
def passed (o : Occasion) : List Record := o.left.passed o.after

/-- What one of the handlers of the activation puts out in the whole run: the records that it
shows, each with its line. -/
def outputs (o : Occasion) (n : Nat) : List (Record × String) :=
  writtenBy (o.found.hub.handlers.length + n) (o.start.deliveries o.steps)

/-- After the activation a logger is never that of the debug traces or below it. -/
def Free (o : Occasion) (logger : String) : Prop :=
  ∀ earlier later, o.after = earlier ++ later → isTraceLogger (o.upTo earlier) logger = false

theorem completes_iff (o : Occasion) : o.start.Completes o.steps ↔
    o.start.Completes o.before ∧ o.found.Succeeds o.activation ∧ o.left.Completes o.after :=
  Journal.completes_append ..

theorem run_upTo (o : Occasion) (earlier : List LogStep) :
    o.start.run (o.upTo earlier) = o.left.run earlier :=
  Journal.run_append ..

/-- A logger that is not named as one below that of the debug traces is never below it. -/
theorem free_of_name {logger : String} (hself : logger ≠ Event.debugName)
    (hbelow : ¬ (Event.debugName ++ ".").toList <+: logger.toList) : o.Free logger := by
  intro earlier later _
  rw [← Bool.not_eq_true]
  exact fun h => (Loggers.eq_or_prefix_of_isWithin h).elim hself hbelow

/-! ## What the handlers of the activation put out -/

/-- Before the activation its handlers put nothing out. -/
theorem outputs_eq_writtenBy (h : o.start.Completes o.steps) (n : Nat) :
    o.outputs n =
      writtenBy (o.found.hub.handlers.length + n) (o.left.deliveries o.after) := by
  obtain ⟨hbefore, -, -⟩ := o.completes_iff.mp h
  have hsplit : o.start.deliveries o.steps =
      o.start.deliveries o.before ++ o.left.deliveries o.after := Journal.along_append ..
  have hnone : writtenBy (o.found.hub.handlers.length + n) (o.start.deliveries o.before) = [] :=
    writtenBy_of_received_nil (Journal.received_of_length_le hbefore (Nat.le_add_right _ _))
  rw [outputs, hsplit, writtenBy_append, hnone, List.nil_append]

theorem outputs_eq (h : o.start.Completes o.steps)
    (hadded : o.left.hub.handlers = o.found.hub.handlers ++ added)
    (hn : added[n]? = some handler) :
    o.outputs n = handler.lines (o.passed.filter handler.accepts) := by
  obtain ⟨-, -, hafter⟩ := o.completes_iff.mp h
  have hthere : o.left.hub.handlers[o.found.hub.handlers.length + n]? = some handler := by
    rw [hadded, List.getElem?_append_right (Nat.le_add_right _ _), Nat.add_sub_cancel_left]
    exact hn
  rw [outputs_eq_writtenBy h]
  exact Journal.writtenBy_run hafter hthere

/-- What the activation opens and adds. -/
theorem left_eq (h : o.start.Completes o.steps) :
    ∃ files added, Journal.Opens o.found.files o.request.file files
        (o.request.file.map Place.ofPath) ∧
      o.request.Adds o.style (o.request.file.map Place.ofPath) added ∧
      o.left.hub.handlers = o.found.hub.handlers ++ added ∧
      o.left = { o.found with hub := o.found.hub.extended o.request.debug added, files } := by
  obtain ⟨-, hactivation, -⟩ := o.completes_iff.mp h
  obtain ⟨files, place, added, hopens, hadds, hleft⟩ := Journal.hub_activate hactivation
  obtain rfl := hopens.place_eq
  exact ⟨files, added, hopens, hadds, congrArg (·.hub.handlers) hleft, hleft⟩

theorem handlers_left_ne_nil (h : o.start.Completes o.steps) : o.left.hub.handlers ≠ [] := by
  obtain ⟨files, added, -, hadds, hadded, -⟩ := left_eq h
  obtain ⟨layout, -, hfirst⟩ := hadds.first
  rw [hadded]
  refine List.append_ne_nil_of_right_ne_nil _ fun hnil => ?_
  rw [hnil] at hfirst
  cases hfirst

theorem report_left (h : o.start.Completes o.steps) : o.left.report = o.start.report := by
  obtain ⟨hbefore, hactivation, -⟩ := o.completes_iff.mp h
  exact (Journal.report_step hactivation).trans (Journal.report_run hbefore)

/-- The hub fits what has happened, at each point of the run. -/
theorem fits_of_split (hstart : o.start.hub = .initial) (h : o.start.Completes o.steps)
    {earlier later : List LogStep} (hsplit : o.steps = earlier ++ later) :
    Journal.Fits earlier (o.start.run earlier).hub := by
  rw [hsplit] at h
  have hinitial : Journal.Fits [] o.start.hub := hstart ▸ Journal.Fits.start
  exact hinitial.run ((Journal.completes_append ..).mp h).1

theorem fits_upTo (hstart : o.start.hub = .initial) (h : o.start.Completes o.steps)
    {earlier later : List LogStep} (hsplit : o.after = earlier ++ later) :
    Journal.Fits (o.upTo earlier) (o.left.run earlier).hub := by
  have hsteps : o.steps = o.upTo earlier ++ later := by simp [steps, upTo, hsplit]
  rw [← run_upTo]
  exact fits_of_split hstart h hsteps

theorem passed_filter_fileHandler (h : o.start.Completes o.steps) (place : Place)
    (layout : Layout) : o.passed.filter (fileHandler place layout).accepts = o.passed :=
  List.filter_eq_self.mpr fun _ hr => decide_eq_true
    (Journal.debug_le_of_mem_passed (o.completes_iff.mp h).2.2 hr)

/-- Where a log file is opened by one activation alone, only its handler writes to it. -/
theorem position_of_target {console : Handler} {place : Place} {layout : Layout}
    (hstart : o.start.hub = .initial) (h : o.start.Completes o.steps)
    (hadded : o.left.hub.handlers =
      o.found.hub.handlers ++ [console, fileHandler place layout])
    (hconsole : console.sink.target = none)
    (honce : ∀ s ∈ o.before ++ o.after, ¬ s.OpensAt place)
    (hn : (o.left.run o.after).hub.handlers[n]? = some handler) :
    handler.sink.target = some place ↔ n = o.found.hub.handlers.length + 1 := by
  obtain ⟨hbefore, -, hafter⟩ := o.completes_iff.mp h
  obtain ⟨first, hfirst, hopensFirst⟩ := Journal.exists_added_run hbefore
  obtain ⟨last, hlast, hopensLast⟩ := Journal.exists_added_run hafter
  have hnotFirst : ∀ x ∈ o.found.hub.handlers, x.sink.target ≠ some place := by
    intro x hx htarget
    rw [found, hfirst, hstart] at hx
    obtain ⟨s, hs, hopens⟩ := hopensFirst x hx place (Sink.target_eq_some_iff.mp htarget)
    exact honce s (List.mem_append_left _ hs) hopens
  have hnotLast : ∀ x ∈ last, x.sink.target ≠ some place := by
    intro x hx htarget
    obtain ⟨s, hs, hopens⟩ := hopensLast x hx place (Sink.target_eq_some_iff.mp htarget)
    exact honce s (List.mem_append_right _ hs) hopens
  -- the two handlers stand between those of earlier and of later activations
  rw [hlast, hadded, List.append_assoc] at hn
  by_cases hbelow : n < o.found.hub.handlers.length
  · rw [List.getElem?_append_left hbelow] at hn
    exact iff_of_false (hnotFirst _ (List.mem_of_getElem? hn)) (by omega)
  · obtain ⟨k, rfl⟩ := Nat.exists_eq_add_of_le (Nat.le_of_not_lt hbelow)
    rw [List.getElem?_append_right (Nat.le_add_right _ _), Nat.add_sub_cancel_left] at hn
    match k with
    | 0 =>
      cases hn
      exact iff_of_false (by rw [hconsole]; simp) (by omega)
    | 1 =>
      cases hn
      exact iff_of_true rfl rfl
    | k + 2 => exact iff_of_false (hnotLast _ (List.mem_of_getElem? hn)) (by omega)

/-- A log file that no other activation opens has what was there, and the lines that its handler
puts out. -/
theorem lookup_file {path : String} (hstart : o.start.hub = .initial)
    (h : o.start.Completes o.steps) (hpath : o.request.file = some path)
    (hplace : Place.ofPath path ≠ Place.nullDevice)
    (honly : ∀ s ∈ o.before ++ o.after, ¬ s.OpensAt (Place.ofPath path)) :
    (o.start.run o.steps).files.lookup (Place.ofPath path) =
      some ((o.found.files.lookup (Place.ofPath path)).getD "" ++
        String.join ((o.outputs 1).map Prod.snd)) := by
  obtain ⟨files, added, hopens, hadds, hadded, hleft⟩ := left_eq h
  have hafter := (o.completes_iff.mp h).2.2
  rw [hpath, Option.map_some] at hopens hadds
  cases hadds with
  | @both _ layout fileLayout hconsole hfile =>
    have hopened : o.left.textAt (some (Place.ofPath path)) =
        some ((o.found.files.lookup (Place.ofPath path)).getD "") := by
      rw [hleft]
      exact hopens.opened.lookup_self hplace
    have hlines := textTo_eq_writtenBy o.left.report fun d hd =>
      position_of_target hstart h hadded rfl honly
        (Journal.getElem?_of_mem_deliveries hafter hd)
    rw [outputs_eq_writtenBy h, steps, run_upTo, ← hlines]
    exact Journal.textAt_run (handlers_left_ne_nil h) hafter hopened

theorem map_fst_outputs (h : o.start.Completes o.steps)
    (hadded : o.left.hub.handlers = o.found.hub.handlers ++ added)
    (hn : added[n]? = some handler) : (o.outputs n).map Prod.fst =
      (o.passed.filter handler.accepts).filter fun r => decide (handler.CanShow r) := by
  rw [outputs_eq h hadded hn, Handler.map_fst_lines]

theorem map_fst_outputs_file {place : Option Place} (h : o.start.Completes o.steps)
    (hadded : o.left.hub.handlers = o.found.hub.handlers ++ added)
    (hadds : o.request.Adds o.style place added) (hhandler : added[1]? = some handler) :
    (o.outputs 1).map Prod.fst = o.passed.filter fun r => decide (handler.CanShow r) := by
  obtain ⟨place, layout, -, rfl⟩ := hadds.second hhandler
  rw [map_fst_outputs h hadded hhandler, passed_filter_fileHandler h]

/-- The handler of the log file puts out the lines of all that passes. -/
theorem exists_outputs_file {path : String} (h : o.start.Completes o.steps)
    (hpath : o.request.file = some path) :
    ∃ layout, o.request.layout? o.style.settings.fileFormat = some layout ∧
      o.outputs 1 = (fileHandler (Place.ofPath path) layout).lines o.passed := by
  obtain ⟨files, added, -, hadds, hadded, -⟩ := left_eq h
  rw [hpath, Option.map_some] at hadds
  cases hadds with
  | both hconsole hfile =>
    exact ⟨_, hfile, by rw [outputs_eq h hadded rfl, passed_filter_fileHandler h]⟩

theorem console_run (h : o.start.Completes o.steps) : (o.start.run o.steps).console =
    o.found.console ++ textTo o.start.report none (o.left.deliveries o.after) := by
  obtain ⟨files, added, -, -, -, hleft⟩ := left_eq h
  have hopened : o.left.textAt none = some o.found.console := by
    rw [hleft]
    rfl
  have htext := Journal.textAt_run (handlers_left_ne_nil h) (o.completes_iff.mp h).2.2 hopened
  rw [report_left h, ← run_upTo] at htext
  exact Option.some_inj.mp htext

/-- What the handlers of an activation put out. The first of those that it adds is that of the
console, and the second, if there is one, that of the log file. -/
structure Accounted (o : Occasion) (added : List Handler) : Prop where
  /-- They come after those that are there. -/
  added_last : o.left.hub.handlers = o.found.hub.handlers ++ added
  /-- What passes after the activation is emitted after it, once each and in order. -/
  passed_emitted : o.passed.Sublist (emitted o.after)
  /-- Each puts out the records that pass after the activation, that it accepts and that it can
  show: each once, in the order of their emission, and no others. -/
  each_once : ∀ n handler, added[n]? = some handler → (o.outputs n).map Prod.fst =
    o.passed.filter fun r => handler.accepts r && decide (handler.CanShow r)
  /-- What is put out for a record is a line that shows it. -/
  each_shown : ∀ n handler, added[n]? = some handler →
    ∀ out ∈ o.outputs n, handler.Shows out.1 out.2
  /-- The log file leaves none out that it can show, whatever the level of the console. -/
  file_takes_all : ∀ handler, added[1]? = some handler →
    (o.outputs 1).map Prod.fst = o.passed.filter fun r => decide (handler.CanShow r)
  /-- Of loggers that are never below that of the debug traces it has all that is emitted. -/
  file_loses_none : ∀ handler, added[1]? = some handler →
    ∀ keep : String → Bool, (∀ logger, keep logger → o.Free logger) →
    ((o.outputs 1).map Prod.fst).filter (keep ·.event.logger) =
      ((emitted o.after).filter (keep ·.event.logger)).filter fun r => decide (handler.CanShow r)
  /-- A logger is below that of the debug traces if its name says so, unless it has two dots in a
  row. -/
  below_by_name : ∀ earlier logger, ¬ ['.', '.'] <:+: logger.toList →
    (isTraceLogger (o.upTo earlier) logger ↔
      logger = Event.debugName ∨ (Event.debugName ++ ".").toList <+: logger.toList)
  /-- Without a name that says so it never is. -/
  free_of_name : ∀ logger, logger ≠ Event.debugName →
    ¬ (Event.debugName ++ ".").toList <+: logger.toList → o.Free logger
  /-- What the console shows and the log file can show is in the log file, in the same order. -/
  console_within_file : ∀ handler, added[1]? = some handler →
    (((o.outputs 0).map Prod.fst).filter fun r => decide (handler.CanShow r)).Sublist
      ((o.outputs 1).map Prod.fst)
  /-- When it is first asked about a level since the last activation, only a logger that is then
  that of the debug traces or below it holds a record back, and only until an activation enables
  debug traces. -/
  passes_first : ∀ earlier r later, o.after = earlier ++ .emit r :: later →
    Unasked (o.upTo earlier) r.event →
    ((o.left.run earlier).hub.passes r.event ↔ (isTraceLogger (o.upTo earlier) r.event.logger →
      tracesOn (o.upTo earlier) ∨ .critical < r.event.level))
  /-- Until the next activation it does the same again. -/
  passes_again : ∀ earlier r between r' later,
    o.after = earlier ++ .emit r :: (between ++ .emit r' :: later) →
    r'.event.question = r.event.question → between.any LogStep.isActivation = false →
    (o.left.run (earlier ++ .emit r :: between)).hub.passes r'.event =
      (o.left.run earlier).hub.passes r.event
  traces_iff : ∀ earlier later message, o.steps = earlier ++ later →
    ((o.start.run earlier).hub.passes (Event.trace message) ↔ tracesOn earlier)
  /-- After the activation the console gets the lines of console handlers, and a report of each
  record that a handler cannot show. -/
  console_text : (o.start.run o.steps).console =
    o.found.console ++ textTo o.start.report none (o.left.deliveries o.after)
  console_parts : ∀ d ∈ o.left.deliveries o.after,
    d.handler.Puts o.start.report none d.record (d.handler.part? o.start.report none d.record)
  /-- A log file that no other activation opens has what was there and the lines of its handler. -/
  file_text : ∀ path, o.request.file = some path → Place.ofPath path ≠ Place.nullDevice →
    (∀ s ∈ o.before ++ o.after, ¬ s.OpensAt (Place.ofPath path)) →
    (o.start.run o.steps).files.lookup (Place.ofPath path) =
      some ((o.found.files.lookup (Place.ofPath path)).getD "" ++
        String.join ((o.outputs 1).map Prod.snd))
  /-- JSON, and formats that show fields of records as texts, can show every record. -/
  console_shows_all : (o.request.json ∨
      Text.Percent.shows Record.fieldNames o.style.settings.streamFormat) →
    ∀ handler, added[0]? = some handler → ∀ r, handler.CanShow r
  file_shows_all : (o.request.json ∨
      Text.Percent.shows Record.fieldNames o.style.settings.fileFormat) →
    ∀ handler, added[1]? = some handler → ∀ r, handler.CanShow r

theorem filter_passed {keep : String → Bool} (hstart : o.start.hub = .initial)
    (h : o.start.Completes o.steps) (hfree : ∀ logger, keep logger → o.Free logger) :
    o.passed.filter (keep ·.event.logger) = (emitted o.after).filter (keep ·.event.logger) := by
  obtain ⟨files, added, -, -, -, hleft⟩ := left_eq h
  have hpass : Journal.LetsPass keep o.left.hub := by
    rw [hleft]
    exact ⟨rfl, fun e _ _ hanswer => by cases hanswer⟩
  refine Journal.filter_passed (o.completes_iff.mp h).2.2 hpass
    fun earlier later hsplit logger hkeep => ?_
  rw [(fits_upTo hstart h hsplit).isDebugLogger_eq]
  exact hfree logger hkeep earlier later hsplit

theorem passes_first (hstart : o.start.hub = .initial) (h : o.start.Completes o.steps)
    {earlier later : List LogStep} {r : Record} (hsplit : o.after = earlier ++ .emit r :: later)
    (hunasked : Unasked (o.upTo earlier) r.event) :
    (o.left.run earlier).hub.passes r.event ↔ (isTraceLogger (o.upTo earlier) r.event.logger →
      tracesOn (o.upTo earlier) ∨ .critical < r.event.level) := by
  have hafter := (o.completes_iff.mp h).2.2
  rw [hsplit, Journal.completes_append] at hafter
  have hactive : (o.upTo earlier).any LogStep.isActivation := by
    simp [upTo, activation, LogStep.isActivation]
  exact (fits_upTo hstart h hsplit).passes_iff hactive hafter.2.1 hunasked

/-- **Nothing is lost, nothing is doubled**: in every run whose activations are completed, each
handler that an activation adds puts out what it is there for. -/
theorem nothing_lost_or_doubled (hstart : o.start.hub = .initial) (h : o.start.Completes o.steps) :
    ∃ added, o.request.Adds o.style (o.request.file.map Place.ofPath) added ∧
      o.Accounted added := by
  obtain ⟨files, added, -, hadds, hadded, -⟩ := left_eq h
  refine ⟨added, hadds, ?_⟩
  constructor
  case added_last => exact hadded
  case passed_emitted => exact Journal.passed_sublist _ _
  case each_once =>
    intro n handler hn
    rw [map_fst_outputs h hadded hn, List.filter_filter]
    exact List.filter_congr fun r _ => Bool.and_comm _ _
  case each_shown =>
    intro n handler hn out hout
    rw [outputs_eq h hadded hn] at hout
    exact Handler.shows_of_mem_lines hout
  case file_takes_all => exact fun handler => map_fst_outputs_file h hadded hadds
  case file_loses_none =>
    intro handler hhandler keep hfree
    rw [map_fst_outputs_file h hadded hadds hhandler, List.filter_comm,
      filter_passed hstart h hfree]
  case below_by_name => exact fun earlier logger hsingle => isTraceLogger_iff hsingle _
  case free_of_name => exact fun logger hself hbelow => free_of_name hself hbelow
  case console_within_file =>
    intro handler hhandler
    obtain ⟨layout, -, hconsole⟩ := hadds.first
    rw [map_fst_outputs_file h hadded hadds hhandler, map_fst_outputs h hadded hconsole]
    exact (List.filter_sublist.trans List.filter_sublist).filter _
  case passes_first =>
    exact fun earlier r later hsplit hunasked => passes_first hstart h hsplit hunasked
  case passes_again =>
    intro earlier r between r' later _ hsame hquiet
    rw [Journal.run_append]
    exact Journal.passes_again hsame hquiet
  case traces_iff =>
    exact fun earlier later message hsplit =>
      (fits_of_split hstart h hsplit).passes_trace_iff message
  case console_text => exact console_run h
  case console_parts => exact fun d _ => d.handler.puts_part? o.start.report none d.record
  case file_text => exact fun path hpath hplace honly => lookup_file hstart h hpath hplace honly
  case console_shows_all =>
    intro hformat handler hhandler r
    obtain ⟨layout, hlayout, hconsole⟩ := hadds.first
    cases hhandler.symm.trans hconsole
    exact Handler.canShow_of_showsAll (LogRequest.showsAll_of_layout hlayout hformat) r
  case file_shows_all =>
    intro hformat handler hhandler r
    obtain ⟨place, layout, hlayout, rfl⟩ := hadds.second hhandler
    exact Handler.canShow_of_showsAll (LogRequest.showsAll_of_layout hlayout hformat) r

/-- A record at the start of 1970. -/
def recordOf (logger : String) (level : Level) (message : String) : Record :=
  ⟨⟨0, 0⟩, .empty, logger, level, message⟩

/-- A console for warnings, then errors and a log file with debug traces, then another log file and
a console with colours. -/
def twoFiles : Occasion where
  start := .empty
  before := [.activate ⟨false, .standard⟩ ⟨.warning, none, false, true, false⟩,
    .emit (recordOf Event.debugName .debug "unheard"),
    .emit (recordOf "armtarget.cli" .info "early")]
  style := ⟨false, .standard⟩
  request := ⟨.error, some "a.log", false, true, true⟩
  after := [.emit (recordOf Event.debugName .debug "heard"), .know "armtarget.debug..",
    .activate ⟨true, .standard⟩ ⟨.info, some "b.log", false, true, false⟩,
    .emit (recordOf "armtarget" .info "late"), .emit (recordOf "armtarget.debug.x" .error "last")]

/-- The log file has the debug trace, the console of the same activation has the error alone. -/
theorem twoFiles_accounted :
    (∃ added, twoFiles.request.Adds twoFiles.style (some ["a.log"]) added ∧
      twoFiles.Accounted added) ∧
    (twoFiles.outputs 0).map Prod.snd = ["ERROR    last\n"] ∧
    (twoFiles.start.run twoFiles.steps).files.lookup ["a.log"] = some (
      "1970-01-01 00:00:00,000: armtarget.debug         : DEBUG    heard\n" ++
      "1970-01-01 00:00:00,000: armtarget               : INFO     late\n" ++
      "1970-01-01 00:00:00,000: armtarget.debug.x       : ERROR    last\n") ∧
    (twoFiles.start.run twoFiles.steps).console =
      "\x1b[2mINFO\x1b[0m     late\n" ++ "ERROR    last\n" ++ "ERROR    last\n" ++
      "\x1b[31mERROR\x1b[0m    last\n" := by
  have hcompletes : twoFiles.start.Completes twoFiles.steps := by decide +kernel
  obtain ⟨added, hadds, haccounted⟩ := nothing_lost_or_doubled (o := twoFiles) rfl hcompletes
  have hplace : twoFiles.request.file.map Place.ofPath = some ["a.log"] := by decide +kernel
  rw [hplace] at hadds
  exact ⟨⟨added, hadds, haccounted⟩, by decide +kernel, by decide +kernel, by decide +kernel⟩

/-- A format for the console that asks for what no record has. -/
def unshown : Occasion where
  start := .empty
  before := []
  style := ⟨false, { Settings.LogSettings.standard with streamFormat := "%(nosuch)s" }⟩
  request := .standard
  after := [.emit (recordOf "armtarget" .error "one")]

/-- A logger that is below that of the debug traces, until another is made between the two. -/
def moved : Occasion where
  start := .empty
  before := []
  style := ⟨false, .standard⟩
  request := { LogRequest.standard with file := some "a.log" }
  after := [.emit (recordOf "armtarget.debug...x" .error "one"),
    .emit (recordOf "armtarget.debug.." .error "two"),
    .emit (recordOf "armtarget.debug...x" .error "three")]

/-- **Not all that should be is put out**: a record passes its logger, its level is that of the
handler or above, and no line can show it; and an error of a logger that is no longer below that
of the debug traces is held back, because it was when it was first asked. -/
theorem not_all_put_out :
    (unshown.start.Completes unshown.steps ∧
      unshown.left.hub.handlers.map Handler.level = [.info] ∧
      unshown.passed.map (·.event) = [⟨"armtarget", .error, "one"⟩] ∧
      (unshown.outputs 0).map Prod.snd = []) ∧
    (moved.start.Completes moved.steps ∧
      moved.left.hub.handlers.map Handler.level = [.info, .debug] ∧
      (emitted moved.after).map (·.event.message) = ["one", "two", "three"] ∧
      isTraceLogger (moved.upTo (moved.after.take 2)) "armtarget.debug...x" = false ∧
      (moved.start.run moved.steps).console = "ERROR    two\n" ∧
      (moved.start.run moved.steps).files.lookup ["a.log"] =
        some "1970-01-01 00:00:00,000: armtarget.debug..       : ERROR    two\n") := by
  decide +kernel

end Occasion

end CortexFlags
