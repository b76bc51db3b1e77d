import CortexFlags.Program.Run
import CortexFlags.Proofs.Catalogue.Loading
import CortexFlags.Yaml.Document

/-! Endings of a run whose command line is read and whose catalogue loads.

* `Task.answer`: what a task prints, told by the operations on targets alone;
* `Task.Lacks`: the texts that a task uses although they were not given;
* `Catalogue.load_said`: the logger of the program says nothing while the catalogue loads;
* `Task.run_concludes`: each task ends in one of three ways, and is silent until then;
* `perform_eq`, `run_eq_perform`: what a run makes of its task;
* `run_all_or_nothing`: a run prints its complete answer, or tells one error instead. -/

namespace CortexFlags

open CommandLine (Given Use LogOptions Launcher)

/-! ## Answers -/

/-- The flags, with what messages show of those that were given nothing. -/
def GivenFlags.flags (given : GivenFlags) : Flags where
  cpu := given.cpu.map Given.shown
  floatAbi := given.floatAbi.map Given.shown
  fpu := given.fpu.map Given.shown
  thumb := given.thumb
  arm := given.arm
  bigEndian := given.bigEndian

namespace Task

/-- The complete result of a task, or why there is none. -/
def answer (writer : Yaml.Writer) (k : Catalogue) : Task → Except Fault String
  | .flags q => do
      let query ← (Query.parse q.triple.shown q.cpu.shown).mapError .resolution
      let r ← query.resolve.mapError .resolution
      let d ← (Descriptor.ofResolved k r).mapError (.conversion · (some .inference))
      return " ".intercalate d.gccFlags ++ "\n"
  | .info cpu yaml => do
      let cpu := cpu.map Given.shown
      let cpus ← (k.selectCpus cpu).mapError .flag
      return if yaml then writer (Catalogue.node cpus (k.selectFpus cpu cpus))
        else String.join (cpus.map fun c => c.info ++ "\n")
  | .translate given => do
      let d ← Descriptor.ofFlags k given.flags
      let q ← d.toQuery.mapError (.conversion · none)
      return translated q

/-- Where a text is used that was not given. Each use comes after the checks before it. -/
inductive Lacks (k : Catalogue) : Task → Use → Prop
  | listedCpu {yaml : Bool} : Lacks k (.info (some .nothing) yaml) .lookUp
  | cpu {given : GivenFlags} : given.cpu = some .nothing → Lacks k (.translate given) .lookUp
  | fpu {given : GivenFlags} {name : String} {c : Cpu} {abi : FloatAbi} :
      given.cpu = some (.text name) → k.cpu name = .ok c →
      given.flags.readFloatAbi = .ok abi → given.fpu = some .nothing →
      Lacks k (.translate given) .lookUp
  | target {q : WrittenQuery} : q.triple = .nothing → Lacks k (.flags q) .split
  | cpuText {q : WrittenQuery} {triple : String} {query : Query} :
      q.triple = .text triple → Query.parse triple q.cpu.shown = .ok query →
      q.cpu = .nothing → Lacks k (.flags q) .split

/-- What is printed of a task that is refused: the usage where a CPU is required. -/
def remark : Task → String
  | .translate ⟨none, _, _, _, _, _⟩ => translateCommand.manual.usage
  | _ => ""

end Task

namespace Program

/-- How a run ends, what it prints, and what its own logger says: a task is answered in
full, or it is refused with one error, or a text is used that was not given. -/
inductive Ending (writer : Yaml.Writer) (k : Catalogue) (task : Task) :
    Except RunFault Nat → String → List Event → Prop
  | answered {text : String} : (∀ use, ¬ task.Lacks k use) → task.answer writer k = .ok text →
      Ending writer k task (.ok 0) text []
  | refused {fault : Fault} : (∀ use, ¬ task.Lacks k use) → task.answer writer k = .error fault →
      Ending writer k task (.ok 1) task.remark [⟨loggerName, .error, fault.text⟩]
  | lacking {use : Use} : task.Lacks k use →
      Ending writer k task (.error (.nothingGiven use)) "" []

end Program

/-! ## The silence on the way -/

namespace Settings

theorem Field.read_said {title : String} {entries : Entries} {f : Field} {e : Event}
    (he : e ∈ (f.read title entries).2) : e.logger = loggerName := by
  unfold Field.read at he
  split at he
  · cases he
  · split at he
    · cases he
    · rw [List.mem_singleton.mp he]

theorem readSection_said {data : Entries} {title : String} {fields : List Field} {e : Event}
    (he : e ∈ (readSection data title fields).2) : e.logger = loggerName := by
  unfold readSection at he
  split at he
  · cases he
  · unfold readFields at he
    split at he
    · obtain ⟨f, _, hf⟩ := List.mem_flatMap.mp he
      exact Field.read_said hf
    · split at he <;> cases he

theorem CatalogueSettings.read_said {data : Entries} {e : Event}
    (he : e ∈ (CatalogueSettings.read data).2) : e.logger = loggerName :=
  readSection_said he

end Settings

namespace Catalogue

theorem pluginTrace_said {plugins : List Plugin} {e : Event} (he : e ∈ pluginTrace plugins) :
    e.logger = Event.debugName := by
  unfold pluginTrace at he
  split at he
  · cases he
  · rw [List.mem_singleton.mp he]
    rfl

/-- A load speaks through the traces, and about the settings. -/
theorem load_said {data : Settings.Entries} {plugins : List Plugin} {e : Event}
    (he : e ∈ (load data plugins).2) :
    e.logger = Event.debugName ∨ e.logger = Settings.loggerName := by
  have hsettings : e ∈ (Settings.CatalogueSettings.read data).2 → e.logger = Settings.loggerName :=
    Settings.CatalogueSettings.read_said
  simp only [load] at he
  generalize Settings.CatalogueSettings.read data = result at he hsettings
  obtain ⟨outcome, events⟩ := result
  cases outcome with
  | error fault =>
    rcases List.mem_cons.mp he with rfl | he
    · exact Or.inl rfl
    · exact Or.inr (hsettings he)
  | ok settings =>
    have hsaid : e ∈ Event.trace "loading catalogue" :: events ++ pluginTrace plugins := by
      cases hallowed : settings.loadPlugins <;> simp only [hallowed] at he
      · exact List.mem_append_left _ he
      · exact he
    rcases List.mem_append.mp hsaid with he | he
    · rcases List.mem_cons.mp he with rfl | he
      · exact Or.inl rfl
      · exact Or.inr (hsettings he)
    · exact Or.inl (pluginTrace_said he)

end Catalogue

namespace Program

/-- Nothing is said by the logger of the program. -/
def Silent (events : List Event) : Prop := ∀ e ∈ events, e.logger ≠ loggerName

theorem silent_nil : Silent [] := fun _ he => absurd he List.not_mem_nil

theorem silent_trace (message : String) : Silent [.trace message] := by
  intro e he
  rw [List.mem_singleton.mp he]
  show Event.debugName ≠ loggerName
  decide

theorem Silent.append {events more : List Event} (h : Silent events) (hmore : Silent more) :
    Silent (events ++ more) :=
  fun e he => (List.mem_append.mp he).elim (h e) (hmore e)

theorem silent_load (data : Settings.Entries) (plugins : List Plugin) :
    Silent (Catalogue.load data plugins).2 := by
  intro e he
  rcases Catalogue.load_said he with h | h <;> rw [h] <;> decide

theorem Silent.filter_eq {events : List Event} (h : Silent events) :
    events.filter (·.logger = loggerName) = [] :=
  List.filter_eq_nil_iff.mpr fun e he => by simpa using h e he

/-! ## Tasks -/

/-- How a run ends after a task, and what its logger says of it. -/
def concluded : Except TaskFault Unit → Except RunFault Nat × List Event
  | .ok () => (.ok 0, [])
  | .error (.refused fault) => (.ok 1, [⟨loggerName, .error, fault.text⟩])
  | .error (.load fault) => (.error (.load fault), [])
  | .error (.nothingGiven use) => (.error (.nothingGiven use), [])

/-- The result of a task, as it should be. -/
structure Concludes (writer : Yaml.Writer) (k : Catalogue) (task : Task) (result : TaskResult) :
    Prop where
  silent : Silent result.events
  ending : Ending writer k task (concluded result.outcome).1 result.output
    (concluded result.outcome).2

namespace Concludes

variable {writer : Yaml.Writer} {k : Catalogue} {task : Task} {events : List Event}

theorem finish (hsilent : Silent events) (hlacks : ∀ use, ¬ task.Lacks k use) {text : String}
    (h : task.answer writer k = .ok text) : Concludes writer k task (Task.finish events text) :=
  ⟨hsilent, .answered hlacks h⟩

theorem refuse (hsilent : Silent events) (hlacks : ∀ use, ¬ task.Lacks k use) {fault : Fault}
    {output : String} (hremark : task.remark = output) (h : task.answer writer k = .error fault) :
    Concludes writer k task (Task.refuse events output fault) :=
  ⟨hsilent, hremark ▸ .refused hlacks h⟩

theorem stopAt (hsilent : Silent events) {use : Use} (h : task.Lacks k use) :
    Concludes writer k task (Task.stopAt events use) :=
  ⟨hsilent, .lacking h⟩

end Concludes

end Program

namespace Task

open Program (Silent Concludes)

variable {writer : Yaml.Writer} {s : Session} {k : Catalogue}

theorem withCatalogue_eq (hload : (Catalogue.load s.settings s.plugins).1 = .ok k)
    (events : List Event) (next : Catalogue → List Event → TaskResult) :
    withCatalogue s events next = next k (events ++ (Catalogue.load s.settings s.plugins).2) := by
  unfold withCatalogue
  split
  · rename_i h
    rw [h] at hload
    cases hload
  · rename_i h
    rw [h] at hload ⊢
    cases hload
    rfl

theorem runInfo_concludes (hload : (Catalogue.load s.settings s.plugins).1 = .ok k)
    (cpu : Option Given) (yaml : Bool) :
    Concludes writer k (.info cpu yaml) (runInfo writer s cpu yaml) := by
  have hsilent : Silent ([] ++ (Catalogue.load s.settings s.plugins).2) :=
    Program.silent_load s.settings s.plugins
  rw [runInfo, withCatalogue_eq hload]
  by_cases hgiven : cpu = some .nothing
  · subst hgiven
    exact .stopAt hsilent .listedCpu
  · have hlacks : ∀ use, ¬ Lacks k (.info cpu yaml) use := by
      rintro _ ⟨⟩
      exact hgiven rfl
    have htexts : cpu.mapM (Given.textFor .lookUp) = .ok (cpu.map Given.shown) := by
      cases cpu with
      | none => rfl
      | some given =>
        cases given with
        | text name => rfl
        | nothing => exact absurd rfl hgiven
    simp only [htexts]
    cases hcpus : k.selectCpus (cpu.map Given.shown) with
    | error fault => exact .refuse hsilent hlacks rfl (by rw [answer, hcpus]; rfl)
    | ok cpus =>
      cases yaml with
      | true => exact .finish hsilent hlacks (by rw [answer, hcpus]; rfl)
      | false => exact .finish hsilent hlacks (by rw [answer, hcpus]; rfl)

theorem readQuery_malformed {triple : String} {cpu : Given} {fault : ResolutionFault}
    (h : Query.parse triple cpu.shown = .error fault) :
    readQuery ⟨.text triple, cpu⟩ = .error (.refused (.resolution fault)) := by
  simp only [readQuery, Given.textFor, Except.mapError, bind, Except.bind, h, Function.comp]

theorem readQuery_parsed {triple : String} {cpu : Given} {query : Query}
    (h : Query.parse triple cpu.shown = .ok query) :
    readQuery ⟨.text triple, cpu⟩ =
      ((cpu.textFor .split).mapError .nothingGiven).map fun _ => query := by
  simp only [readQuery, Given.textFor, Except.mapError, bind, Except.bind, h]
  cases cpu <;> rfl

theorem runFlags_concludes (hload : (Catalogue.load s.settings s.plugins).1 = .ok k)
    (q : WrittenQuery) : Concludes writer k (.flags q) (runFlags s q) := by
  obtain ⟨triple, cpu⟩ := q
  cases triple with
  | nothing => exact .stopAt Program.silent_nil (.target rfl)
  | text triple =>
    cases hparse : Query.parse triple cpu.shown with
    | error fault =>
      have hlacks : ∀ use, ¬ Lacks k (.flags ⟨.text triple, cpu⟩) use := by
        rintro _ (_ | _ | _ | ⟨⟨⟩⟩ | ⟨⟨⟩, hok, _⟩)
        rw [hparse] at hok
        cases hok
      rw [runFlags, readQuery_malformed hparse]
      exact .refuse Program.silent_nil hlacks rfl
        (by simp only [answer, Given.shown_text, hparse, Except.mapError, bind, Except.bind])
    | ok query =>
      rw [runFlags, readQuery_parsed hparse]
      cases cpu with
      | nothing => exact .stopAt Program.silent_nil (.cpuText rfl hparse rfl)
      | text cpu =>
        have hlacks : ∀ use, ¬ Lacks k (.flags ⟨.text triple, .text cpu⟩) use := by
          rintro _ (_ | _ | _ | ⟨⟨⟩⟩ | ⟨_, _, ⟨⟩⟩)
        rw [Given.shown_text] at hparse
        simp only [Given.textFor, Except.mapError, Except.map]
        cases hresolve : query.resolve with
        | error fault =>
          exact .refuse Program.silent_nil hlacks rfl (by simp only [answer, Given.shown_text,
            hparse, hresolve, Except.mapError, bind, Except.bind])
        | ok r =>
          have hsilent : ∀ message,
              Silent ([.trace message] ++ (Catalogue.load s.settings s.plugins).2) := fun message =>
            (Program.silent_trace message).append (Program.silent_load s.settings s.plugins)
          simp only [withCatalogue_eq hload]
          cases hinfer : Descriptor.ofResolved k r with
          | error fault =>
            exact .refuse (hsilent _) hlacks rfl (by simp only [answer, Given.shown_text,
              hparse, hresolve, hinfer, Except.mapError, bind, Except.bind])
          | ok d =>
            exact .finish (hsilent _) hlacks (by simp only [answer, Given.shown_text,
              hparse, hresolve, hinfer, Except.mapError, bind, Except.bind, pure, Except.pure])

theorem readFlags_text {given : GivenFlags} {name : String}
    (hname : given.cpu = some (.text name)) :
    readFlags k (.text name) given =
      match k.cpu name, given.flags.readFloatAbi with
      | .error fault, _ | .ok _, .error fault => .error (.refused (.flag fault))
      | .ok _, .ok _ =>
          if given.fpu = some .nothing then .error (.nothingGiven .lookUp) else .ok given.flags := by
  obtain ⟨cpu, floatAbi, fpu, thumb, arm, bigEndian⟩ := given
  cases hname
  have hflags : (⟨some name, floatAbi.map Given.shown, fpu.map Given.shown, thumb, arm,
      bigEndian⟩ : Flags) =
        GivenFlags.flags ⟨some (.text name), floatAbi, fpu, thumb, arm, bigEndian⟩ := rfl
  simp only [readFlags, Given.textFor, Except.mapError, bind, Except.bind, hflags]
  cases k.cpu name with
  | error fault => rfl
  | ok c =>
    cases (GivenFlags.flags ⟨some (.text name), floatAbi, fpu, thumb, arm,
      bigEndian⟩).readFloatAbi with
    | error fault => rfl
    | ok abi =>
      cases fpu with
      | none => rfl
      | some fpu => cases fpu <;> rfl

theorem lacks_translate_iff {given : GivenFlags} {name : String} {use : Use}
    (hname : given.cpu = some (.text name)) :
    Lacks k (.translate given) use ↔ use = .lookUp ∧ given.fpu = some .nothing ∧
      (∃ c, k.cpu name = .ok c) ∧ ∃ abi, given.flags.readFloatAbi = .ok abi := by
  constructor
  · intro h
    cases h with
    | cpu hnothing =>
      rw [hname] at hnothing
      cases hnothing
    | fpu htext hcpu habi hfpu =>
      rw [hname] at htext
      cases htext
      exact ⟨rfl, hfpu, ⟨_, hcpu⟩, ⟨_, habi⟩⟩
  · rintro ⟨rfl, hfpu, ⟨c, hcpu⟩, ⟨abi, habi⟩⟩
    exact .fpu hname hcpu habi hfpu

/-- The usage is shown of no translation for a CPU. -/
theorem remark_of_cpu {given : GivenFlags} {cpu : Given} (h : given.cpu = some cpu) :
    remark (.translate given) = "" := by
  obtain ⟨_, floatAbi, fpu, thumb, arm, bigEndian⟩ := given
  cases h
  rfl

theorem answer_of_readFlags_error {given : GivenFlags} {fault : FlagFault}
    (h : Descriptor.readFlags k given.flags = .error fault) :
    answer writer k (.translate given) = .error (.flag fault) := by
  simp only [answer, Descriptor.ofFlags, h, bind, Except.bind]

theorem runTranslate_concludes (hload : (Catalogue.load s.settings s.plugins).1 = .ok k)
    (given : GivenFlags) : Concludes writer k (.translate given) (runTranslate s given) := by
  have hsilent : Silent ([] ++ (Catalogue.load s.settings s.plugins).2) :=
    Program.silent_load s.settings s.plugins
  cases hgiven : given.cpu with
  | none =>
    obtain ⟨_, floatAbi, fpu, thumb, arm, bigEndian⟩ := given
    cases hgiven
    refine .refuse Program.silent_nil ?_ rfl rfl
    rintro _ (_ | ⟨⟨⟩⟩ | ⟨⟨⟩, _⟩)
  | some cpu =>
    have hremark := remark_of_cpu hgiven
    simp only [runTranslate, hgiven, withCatalogue_eq hload]
    cases cpu with
    | nothing => exact .stopAt hsilent (.cpu hgiven)
    | text name =>
      have hname : given.flags.cpu = some name := by rw [GivenFlags.flags, hgiven]; rfl
      rw [readFlags_text hgiven]
      cases hcpu : k.cpu name with
      | error fault =>
        refine .refuse hsilent (fun use h => ?_) hremark (answer_of_readFlags_error ?_)
        · obtain ⟨-, -, ⟨c, hc⟩, -⟩ := (lacks_translate_iff hgiven).mp h
          rw [hcpu] at hc
          cases hc
        · simp only [Descriptor.readFlags, hname, hcpu]
      | ok c =>
        cases habi : given.flags.readFloatAbi with
        | error fault =>
          refine .refuse hsilent (fun use h => ?_) hremark (answer_of_readFlags_error ?_)
          · obtain ⟨-, -, -, abi, ha⟩ := (lacks_translate_iff hgiven).mp h
            rw [habi] at ha
            cases ha
          · simp only [Descriptor.readFlags, hname, hcpu, habi]
        | ok abi =>
          by_cases hfpu : given.fpu = some .nothing
          · simp only [hfpu, if_true]
            exact .stopAt hsilent (.fpu hgiven hcpu habi hfpu)
          · have hlacks : ∀ use, ¬ Lacks k (.translate given) use := fun use h =>
              hfpu ((lacks_translate_iff hgiven).mp h).2.1
            simp only [hfpu, if_false]
            cases hflags : Descriptor.ofFlags k given.flags with
            | error fault =>
              exact .refuse hsilent hlacks hremark
                (by simp only [answer, hflags, bind, Except.bind])
            | ok d =>
              have hmore := hsilent.append (Program.silent_trace s!"translated target:\n{d.text}")
              cases hquery : d.toQuery with
              | error fault =>
                simp only [hquery]
                exact .refuse hmore hlacks hremark
                  (by simp only [answer, hflags, hquery, Except.mapError, bind, Except.bind])
              | ok q =>
                simp only [hquery]
                exact .finish hmore hlacks (by simp only [answer, hflags, hquery,
                  Except.mapError, bind, Except.bind, pure, Except.pure])

theorem run_concludes (hload : (Catalogue.load s.settings s.plugins).1 = .ok k) (task : Task) :
    Concludes writer k task (task.run writer s) := by
  cases task with
  | flags q => exact runFlags_concludes hload q
  | info cpu yaml => exact runInfo_concludes hload cpu yaml
  | translate given => exact runTranslate_concludes hload given

theorem remark_ne_empty_iff {task : Task} :
    task.remark ≠ "" ↔ ∃ given, task = .translate given ∧ given.cpu = none := by
  have husage : translateCommand.manual.usage ≠ "" := by decide +kernel
  constructor
  · intro h
    unfold remark at h
    split at h
    · exact ⟨_, rfl, rfl⟩
    · exact absurd rfl h
  · rintro ⟨⟨_, floatAbi, fpu, thumb, arm, bigEndian⟩, rfl, rfl⟩
    exact husage

end Task

namespace Program

/-! ## Runs -/

/-- What the launcher makes of a command line. -/
def started (c : Circumstances) (settings : Settings.LogSettings) (args : List String) :
    Except CommandLine.LaunchFault (LogOptions × Task) × Launcher (LogOptions × Task) :=
  (launcher c).launch ⟨c.isTerminal, settings⟩ args

/-- All that is said on a run, its own logger last. -/
def said (writer : Yaml.Writer) (s : Session) (task : Task) : List Event :=
  let names := ",".intercalate actionNames
  .trace s!"action plugins loaded: {names}" :: (task.run writer s).events ++
    (concluded (task.run writer s).outcome).2

theorem perform_eq (c : Circumstances) (task : Task) (j : Journal) :
    perform c task j =
      ended (concluded (task.run c.writer c.session).outcome).1 (task.run c.writer c.session).output
        (j.emitAll ((said c.writer c.session task).map c.record)) := by
  unfold perform said
  simp only [Journal.emitAll, List.map_append, List.foldl_append]
  cases (task.run c.writer c.session).outcome with
  | ok done => rfl
  | error fault => cases fault <;> rfl

/-- The logger of the program speaks at the end alone. -/
theorem filter_said {writer : Yaml.Writer} {s : Session} {task : Task}
    (h : Silent (task.run writer s).events) :
    (said writer s task).filter (·.logger = loggerName) =
      (concluded (task.run writer s).outcome).2 := by
  have hsilent : ∀ message, Silent (.trace message :: (task.run writer s).events) := fun message =>
    (silent_trace message).append h
  rw [said, List.filter_append, (hsilent _).filter_eq, List.nil_append]
  cases (task.run writer s).outcome with
  | ok done => rfl
  | error fault => cases fault <;> simp [concluded]

variable {c : Circumstances} {args : List String} {k : Catalogue} {writer : Yaml.Writer}
variable {settings : Settings.LogSettings} {options : LogOptions} {task : Task}

theorem run_eq_perform (hactions : c.lostActions = [])
    (hsettings : (Settings.LogSettings.read c.session.settings).1 = .ok settings)
    (hstart : (started c settings args).1 = .ok (options, task)) :
    run c args = perform c task (started c settings args).2.journal := by
  unfold started at hstart ⊢
  simp only [run, hsettings, hactions]
  generalize (launcher c).launch ⟨c.isTerminal, settings⟩ args = result at hstart ⊢
  obtain ⟨outcome, l⟩ := result
  cases hstart
  rfl

theorem Ending.of_answer_ok {status : Except RunFault Nat} {output text : String}
    {said : List Event} (h : Ending writer k task status output said)
    (hlacks : ∀ use, ¬ task.Lacks k use) (hanswer : task.answer writer k = .ok text) :
    status = .ok 0 ∧ output = text := by
  cases h with
  | answered _ h =>
    rw [hanswer] at h
    exact ⟨rfl, (Except.ok.inj h).symm⟩
  | refused _ h =>
    rw [hanswer] at h
    cases h
  | lacking h => exact absurd h (hlacks _)

theorem Ending.of_answer_error {status : Except RunFault Nat} {output : String} {fault : Fault}
    {said : List Event} (h : Ending writer k task status output said)
    (hlacks : ∀ use, ¬ task.Lacks k use) (hanswer : task.answer writer k = .error fault) :
    status = .ok 1 ∧ output = task.remark := by
  cases h with
  | answered _ h =>
    rw [hanswer] at h
    cases h
  | refused _ h => exact ⟨rfl, rfl⟩
  | lacking h => exact absurd h (hlacks _)

/-- **All or nothing**: a run whose command line is read, whose logging is activated and
whose catalogue loads prints the complete answer of its task, ends with status 0, and its
logger says nothing; or it says one error, ends with status 1 and prints nothing, but the
usage where a CPU is required; or it is cut short where a text is used that was not given. -/
theorem run_all_or_nothing
    (hload : (Catalogue.load c.session.settings c.session.plugins).1 = .ok k)
    (hactions : c.lostActions = [])
    (hsettings : (Settings.LogSettings.read c.session.settings).1 = .ok settings)
    (hstart : (started c settings args).1 = .ok (options, task)) :
    run c args = ended (run c args).status (run c args).output
      ((started c settings args).2.journal.emitAll
        ((said c.writer c.session task).map c.record)) ∧
    Ending c.writer k task (run c args).status (run c args).output
      ((said c.writer c.session task).filter (·.logger = loggerName)) ∧
    (task.remark ≠ "" ↔ ∃ given, task = .translate given ∧ given.cpu = none) := by
  obtain ⟨hsilent, hending⟩ := Task.run_concludes hload task
  rw [run_eq_perform hactions hsettings hstart, perform_eq, filter_said hsilent]
  exact ⟨rfl, hending, Task.remark_ne_empty_iff⟩

/-- A place without plugins, settings and files. -/
def bareCircumstances : Circumstances where
  session := .start []
  isTerminal := false
  time := ⟨0, 0⟩
  background := fun _ => .empty
  report := fun _ _ => ""
  lostActions := []
  files := []
  writer := Yaml.Node.document

theorem bare_logSettings : (Settings.LogSettings.read bareCircumstances.session.settings).1 =
    .ok .standard := by
  have hpath : Text.pieces '.' Settings.LogSettings.title = ["log"] := by decide
  show (Settings.LogSettings.read []).1 = _
  rw [Settings.LogSettings.read, Settings.readSection, Settings.findSection, hpath,
    Settings.Value.walk, Settings.Value.walk]
  rfl

theorem bare_catalogue : ∃ k, (Catalogue.load bareCircumstances.session.settings
    bareCircumstances.session.plugins).1 = .ok k := by
  obtain ⟨k, -, hk⟩ := Catalogue.ofPlugins_nil
  have hsection : (([] : Settings.Entries).lookup "catalogue").getD (.table []) = .table [] := rfl
  exact ⟨k, (Catalogue.load_eq hsection []).trans hk⟩

theorem bare_all_or_nothing :
    ∃ k, (Catalogue.load [] []).1 = .ok k ∧
      (run bareCircumstances ["info"]).status = .ok 0 ∧
      (run bareCircumstances ["info"]).output = String.join (k.cpus.map fun c => c.info ++ "\n") ∧
      (run bareCircumstances ["translate"]).status = .ok 1 ∧
      (run bareCircumstances ["translate"]).output = Task.translateCommand.manual.usage := by
  obtain ⟨k, hload⟩ := bare_catalogue
  have hinfo : (started bareCircumstances .standard ["info"]).1 =
      .ok (.none .info, .info none false) := by decide +kernel
  have htranslate : (started bareCircumstances .standard ["translate"]).1 =
      .ok (.none .info, .translate ⟨none, none, none, false, false, false⟩) := by decide +kernel
  obtain ⟨-, hlisted, -⟩ := run_all_or_nothing hload rfl bare_logSettings hinfo
  obtain ⟨-, hmissing, -⟩ := run_all_or_nothing hload rfl bare_logSettings htranslate
  obtain ⟨hdone, hlines⟩ := hlisted.of_answer_ok (by rintro _ ⟨⟩) rfl
  have hanswer : Task.answer bareCircumstances.writer k
      (.translate ⟨none, none, none, false, false, false⟩) = .error (.flag .missingCpu) := rfl
  obtain ⟨hrefused, husage⟩ := hmissing.of_answer_error
    (by rintro _ (_ | ⟨⟨⟩⟩ | ⟨⟨⟩, _⟩)) hanswer
  rw [Task.remark] at husage
  exact ⟨k, hload, hdone, hlines, hrefused, husage⟩

/-- A name that was not given is neither found nor refused. -/
theorem info_cut_short :
    ∃ k options task, (Catalogue.load [] []).1 = .ok k ∧ bareCircumstances.lostActions = [] ∧
      (Settings.LogSettings.read bareCircumstances.session.settings).1 = .ok .standard ∧
      (started bareCircumstances .standard ["info", "--mcpu=--"]).1 = .ok (options, task) ∧
      (run bareCircumstances ["info", "--mcpu=--"]).status = .error (.nothingGiven .lookUp) := by
  obtain ⟨k, hload⟩ := bare_catalogue
  have hstart : (started bareCircumstances .standard ["info", "--mcpu=--"]).1 =
      .ok (.none .info, .info (some .nothing) false) := by decide +kernel
  refine ⟨k, _, _, hload, rfl, bare_logSettings, hstart, ?_⟩
  rw [run_eq_perform rfl bare_logSettings hstart, perform_eq, Task.run, Task.runInfo,
    Task.withCatalogue_eq hload]
  rfl

end Program

end CortexFlags
