import CortexFlags.Proofs.Logging.Hierarchy
import CortexFlags.Proofs.Logging.Runs

/-! Which records pass their loggers, told from the steps of a run.

* `Journal.Fits.step`, `Journal.Fits.run`: levels, loggers and what these remember fit the steps;
* `Journal.Fits.passes_iff`: how a logger decides on what it was not asked before;
* `Journal.passes_again`: it decides alike until logging is activated again;
* `Journal.filter_passed`: loggers that are never below the debug traces let every record pass. -/

namespace CortexFlags

/-- The loggers that are there after the steps of a run. -/
def knownAfter (steps : List LogStep) : List String :=
  Loggers.initial.known ++ steps.filterMap LogStep.logger?

/-- The logger of the debug traces, or one that is below it after the steps of a run. -/
def isTraceLogger (steps : List LogStep) (logger : String) : Bool :=
  Loggers.isWithin (knownAfter steps) Event.debugName logger

/-- A logger whose name has no two dots in a row is below that of the debug traces if its name
says so. -/
theorem isTraceLogger_iff {logger : String} (hsingle : ¬ ['.', '.'] <:+: logger.toList)
    (steps : List LogStep) : isTraceLogger steps logger ↔
      logger = Event.debugName ∨ (Event.debugName ++ ".").toList <+: logger.toList := by
  have hknown : Event.debugName ∈ knownAfter steps :=
    List.mem_append_left _ (by simp [Loggers.initial])
  exact Loggers.isWithin_iff hknown (by decide) hsingle

/-- Since the last activation the logger of an event has not been asked about its level. -/
def Unasked (past : List LogStep) (e : Event) : Prop :=
  ∀ earlier r later, past = earlier ++ .emit r :: later → r.event.question = e.question →
    later.any LogStep.isActivation

/-- The record of a step, if its logger lets it pass. -/
def Hub.letPass (hub : Hub) : LogStep → List Record
  | .emit r => if hub.passes r.event then [r] else []
  | .activate _ _ | .know _ => []

theorem Unasked.of_append {past : List LogStep} {s : LogStep} {e : Event}
    (h : Unasked (past ++ [s]) e) (hs : s.isActivation = false) : Unasked past e := by
  rintro earlier r later rfl hsame
  simpa [hs] using h earlier r (later ++ [s]) (by simp) hsame

theorem Unasked.ne_of_append {past : List LogStep} {r : Record} {e : Event}
    (h : Unasked (past ++ [.emit r]) e) : e.question ≠ r.event.question := fun hsame =>
  absurd (h past r [] rfl hsame.symm) (by decide)

namespace Journal

variable {j : Journal} {s : LogStep} {past steps : List LogStep} {r : Record} {e : Event}
  {hub : Hub}

/-! ## Levels, loggers, and what they remember -/

/-- The hub is what the steps of a run have made of it. -/
structure Fits (past : List LogStep) (hub : Hub) : Prop where
  root : past.any LogStep.isActivation → hub.rootLevel = .debug
  traces : hub.debugLevel = if tracesOn past then .debug else Level.critical + 1
  known : hub.loggers.known = knownAfter past
  unasked : ∀ e, Unasked past e → hub.loggers.answer? e = none
  traceAnswers : ∀ message answer, hub.loggers.answer? (Event.trace message) = some answer →
    answer = tracesOn past

theorem Fits.start : Fits [] .initial where
  root h := absurd h (by decide)
  traces := rfl
  known := rfl
  unasked _ _ := rfl
  traceAnswers _ _ h := by cases h

theorem Fits.isDebugLogger_eq (h : Fits past hub) (logger : String) :
    hub.isDebugLogger logger = isTraceLogger past logger := by
  rw [Hub.isDebugLogger, h.known, isTraceLogger]

/-- Debug traces pass once they are enabled. -/
theorem Fits.passes_trace_iff (h : Fits past hub) (message : String) :
    hub.passes (Event.trace message) ↔ tracesOn past := by
  cases hanswer : hub.loggers.answer? (Event.trace message) with
  | some answer => rw [Hub.passes_of_answer hanswer, h.traceAnswers _ _ hanswer]
  | none =>
    have hlogger : hub.isDebugLogger (Event.trace message).logger :=
      Loggers.isWithin_self _ _
    rw [Hub.passes_of_none hanswer, Hub.admits, Hub.levelOf, if_pos hlogger, h.traces]
    by_cases htraces : tracesOn past
    · simp [htraces, Event.trace, Level.debug]
    · simp [htraces, Event.trace, Level.debug, Level.critical]

theorem knownAfter_append (past : List LogStep) (s : LogStep) :
    knownAfter (past ++ [s]) = knownAfter past ++ s.logger?.toList := by
  rw [knownAfter, knownAfter, List.filterMap_append, List.append_assoc]
  cases hlogger : s.logger? <;> simp [hlogger]

theorem active_append (hs : s.isActivation = false) :
    (past ++ [s]).any LogStep.isActivation = past.any LogStep.isActivation := by
  simp [hs]

theorem tracesOn_append (hs : s.isActivation = false) :
    tracesOn (past ++ [s]) = tracesOn past := by
  cases s with
  | activate style request => cases hs
  | know | emit => simp [tracesOn, LogStep.enablesTraces]

/-- Asking for a logger changes no level. -/
theorem Fits.know (h : Fits past hub) (logger : String) :
    Fits (past ++ [.know logger]) (hub.know logger) := by
  constructor
  case root => rw [active_append rfl]; exact h.root
  case traces => rw [tracesOn_append rfl]; exact h.traces
  case known => rw [knownAfter_append, ← h.known]; rfl
  case unasked => exact fun e hunasked => h.unasked e (hunasked.of_append rfl)
  case traceAnswers => rw [tracesOn_append rfl]; exact h.traceAnswers

/-- After a record its logger remembers what it did. -/
theorem Fits.heard (h : Fits past hub) (r : Record) :
    Fits (past ++ [.emit r]) (hub.heard r.event) := by
  constructor
  case root => rw [active_append rfl]; exact h.root
  case traces => rw [tracesOn_append rfl]; exact h.traces
  case known => rw [knownAfter_append, ← h.known]; rfl
  case unasked =>
    intro e hunasked
    rw [Hub.answer?_heard, if_neg hunasked.ne_of_append]
    exact h.unasked e (hunasked.of_append rfl)
  case traceAnswers =>
    intro message answer hanswer
    rw [tracesOn_append rfl]
    rw [Hub.answer?_heard] at hanswer
    split at hanswer
    · rename_i hsame
      rw [← Hub.passes_congr hsame, Option.some_inj] at hanswer
      rw [← hanswer, Bool.eq_iff_iff]
      exact h.passes_trace_iff message
    · exact h.traceAnswers message answer hanswer

/-- An activation sets the levels, and what loggers remember is forgotten. -/
theorem Fits.extended (h : Fits past hub) (style : ConsoleStyle) (request : LogRequest)
    (added : List Handler) :
    Fits (past ++ [.activate style request]) (hub.extended request.debug added) := by
  constructor
  case root => exact fun _ => rfl
  case traces =>
    show (if request.debug then Level.debug else hub.debugLevel) = _
    cases hdebug : request.debug <;> simp [tracesOn, LogStep.enablesTraces, hdebug, h.traces]
  case known =>
    rw [knownAfter_append, ← h.known]
    exact (List.append_nil _).symm
  case unasked => exact fun e _ => rfl
  case traceAnswers => exact fun message answer hanswer => by cases hanswer

theorem Fits.step (h : Fits past j.hub) (hs : j.Succeeds s) :
    Fits (past ++ [s]) (j.step s).hub := by
  cases s with
  | know logger => exact h.know logger
  | emit r =>
    rw [Journal.step, hub_emit]
    exact h.heard r
  | activate style request =>
    obtain ⟨files, place, added, -, -, hstep⟩ := hub_activate hs
    rw [hstep]
    exact h.extended style request added

theorem Fits.run (h : Fits past j.hub) (hsteps : j.Completes steps) :
    Fits (past ++ steps) (j.run steps).hub := by
  induction steps generalizing j past with
  | nil => simpa [Journal.run] using h
  | cons s steps ih =>
    rw [List.append_cons]
    exact ih (h.step hsteps.1) hsteps.2

/-! ## How a logger decides -/

/-- Once logging is activated, a logger lets a record pass, unless it is that of the debug traces
or below it: those are silent up to the highest level until an activation enables them. -/
theorem Fits.passes_iff (h : Fits past hub) (hactive : past.any LogStep.isActivation)
    (hlevel : .debug ≤ e.level) (hunasked : Unasked past e) :
    hub.passes e ↔ (isTraceLogger past e.logger → tracesOn past ∨ .critical < e.level) := by
  have hpositive : decide (0 < e.level) = true :=
    decide_eq_true (Int.lt_of_lt_of_le (by decide) hlevel)
  rw [Hub.passes_of_none (h.unasked e hunasked), Hub.admits, hpositive, Bool.true_and,
    decide_eq_true_eq, Hub.levelOf, h.isDebugLogger_eq]
  by_cases hlogger : isTraceLogger past e.logger
  · rw [if_pos hlogger, h.traces, forall_prop_of_true hlogger]
    by_cases htraces : tracesOn past
    · rw [if_pos htraces]
      exact iff_of_true hlevel (.inl htraces)
    · rw [if_neg htraces, or_iff_right htraces]
      exact Int.add_one_le_iff
  · rw [if_neg hlogger, h.root hactive]
    exact iff_of_true hlevel fun h => absurd h hlogger

/-- What a logger remembers stays until an activation. -/
theorem answer?_step {answer : Bool} (h : j.hub.loggers.answer? e = some answer)
    (hs : s.isActivation = false) : (j.step s).hub.loggers.answer? e = some answer := by
  cases s with
  | activate style request => cases hs
  | know logger => exact h
  | emit r =>
    rw [step, hub_emit, Hub.answer?_heard]
    split
    · rename_i hsame
      rw [← Hub.passes_congr hsame, Hub.passes_of_answer h]
    · exact h

theorem answer?_run {answer : Bool} (h : j.hub.loggers.answer? e = some answer)
    (hsteps : steps.any LogStep.isActivation = false) :
    (j.run steps).hub.loggers.answer? e = some answer := by
  induction steps generalizing j with
  | nil => exact h
  | cons s steps ih =>
    rw [List.any_cons, Bool.or_eq_false_iff] at hsteps
    exact ih (answer?_step h hsteps.1) hsteps.2

/-- **Until logging is activated again** a logger decides as it did, also if it has moved. -/
theorem passes_again {r' : Record} (hsame : r'.event.question = r.event.question)
    (hsteps : steps.any LogStep.isActivation = false) :
    (j.run (.emit r :: steps)).hub.passes r'.event = j.hub.passes r.event := by
  have hremembered : (j.step (.emit r)).hub.loggers.answer? r'.event =
      some (j.hub.passes r.event) := by
    rw [step, hub_emit, Hub.answer?_heard, if_pos hsame]
  have hlater := answer?_run hremembered hsteps
  exact Hub.passes_of_answer hlater

/-! ## What passes -/

/-- What the hub tells of each step of a run. -/
def along {α : Type} (tell : Hub → LogStep → List α) : Journal → List LogStep → List α
  | _, [] => []
  | j, s :: more => tell j.hub s ++ along tell (j.step s) more

theorem along_append {α : Type} (tell : Hub → LogStep → List α) (j : Journal)
    (a b : List LogStep) : j.along tell (a ++ b) = j.along tell a ++ (j.run a).along tell b := by
  induction a generalizing j with
  | nil => rfl
  | cons s a ih => rw [List.cons_append, along, along, ih, List.append_assoc]; rfl

/-- The records that their loggers let pass. -/
def passed : Journal → List LogStep → List Record := along Hub.letPass

theorem passed_sublist (j : Journal) (steps : List LogStep) :
    (j.passed steps).Sublist (emitted steps) := by
  induction steps generalizing j with
  | nil => exact List.Sublist.slnil
  | cons s steps ih =>
    cases s with
    | activate | know => exact ih _
    | emit r =>
      have hnow : (j.hub.letPass (.emit r)).Sublist [r] := by
        rw [Hub.letPass]
        split
        · exact List.Sublist.refl _
        · exact List.nil_sublist _
      exact hnow.append (ih _)

theorem debug_le_of_mem_passed (h : j.Completes steps) (hr : r ∈ j.passed steps) :
    .debug ≤ r.event.level := by
  induction steps generalizing j with
  | nil => cases hr
  | cons s steps ih =>
    rcases List.mem_append.mp hr with hr | hr
    · cases s with
      | activate | know => cases hr
      | emit r' =>
        simp only [Hub.letPass] at hr
        split at hr
        · rw [List.mem_singleton.mp hr]
          exact h.1
        · cases hr
    · exact ih h.2 hr

/-- Logging is activated, and some loggers remember no record that they held back. -/
structure LetsPass (keep : String → Bool) (hub : Hub) : Prop where
  root : hub.rootLevel = .debug
  answers : ∀ e, keep e.logger → .debug ≤ e.level → hub.loggers.answer? e ≠ some false

variable {keep : String → Bool}

theorem LetsPass.passes (h : LetsPass keep hub) (hkeep : keep e.logger)
    (hlevel : .debug ≤ e.level) (hfree : hub.isDebugLogger e.logger = false) : hub.passes e := by
  cases hanswer : hub.loggers.answer? e with
  | some answer =>
    rw [Hub.passes_of_answer hanswer]
    cases answer with
    | true => rfl
    | false => exact absurd hanswer (h.answers e hkeep hlevel)
  | none =>
    have hpositive : 0 < e.level := Int.lt_of_lt_of_le (by decide) hlevel
    have hlevelOf : hub.levelOf e.logger = .debug := by rw [Hub.levelOf, hfree]; exact h.root
    rw [Hub.passes_of_none hanswer, Hub.admits, hlevelOf, decide_eq_true hpositive]
    exact decide_eq_true hlevel

theorem LetsPass.step (h : LetsPass keep j.hub) (hs : j.Succeeds s)
    (hfree : ∀ logger, keep logger → j.hub.isDebugLogger logger = false) :
    LetsPass keep (j.step s).hub := by
  cases s with
  | know logger => exact ⟨h.root, h.answers⟩
  | activate style request =>
    obtain ⟨files, place, added, -, -, hstep⟩ := hub_activate hs
    rw [hstep]
    exact ⟨rfl, fun e _ _ hanswer => by cases hanswer⟩
  | emit r =>
    rw [Journal.step, hub_emit]
    refine ⟨h.root, fun e hkeep hlevel => ?_⟩
    rw [Hub.answer?_heard]
    split
    · rename_i hsame
      rw [← Hub.passes_congr hsame, h.passes hkeep hlevel (hfree _ hkeep)]
      simp
    · exact h.answers e hkeep hlevel

/-- **None is lost**: once logging is activated, loggers that are never that of the debug traces
or below it let every record pass. -/
theorem filter_passed (h : j.Completes steps) (hpass : LetsPass keep j.hub)
    (hfree : ∀ earlier later, steps = earlier ++ later → ∀ logger, keep logger →
      (j.run earlier).hub.isDebugLogger logger = false) :
    (j.passed steps).filter (keep ·.event.logger) =
      (emitted steps).filter (keep ·.event.logger) := by
  induction steps generalizing j with
  | nil => rfl
  | cons s steps ih =>
    have hnow := hfree [] (s :: steps) rfl
    have hlater : ((j.step s).passed steps).filter (keep ·.event.logger) =
        (emitted steps).filter (keep ·.event.logger) :=
      ih h.2 (hpass.step h.1 hnow) fun earlier later hsplit =>
        hfree (s :: earlier) later (by rw [hsplit]; rfl)
    rw [passed, along, List.filter_append]
    refine (congrArg _ hlater).trans ?_
    cases s with
    | activate | know => rfl
    | emit r =>
      have hemitted : emitted (.emit r :: steps) = r :: emitted steps := rfl
      rw [hemitted, List.filter_cons, Hub.letPass]
      by_cases hkeep : keep r.event.logger
      · rw [if_pos (hpass.passes hkeep h.1 (hnow _ hkeep))]
        simp [hkeep]
      · split <;> simp [hkeep]

end Journal

end CortexFlags
