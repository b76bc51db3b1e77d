import CortexFlags.Proofs.Files
import CortexFlags.Proofs.Logging.Handlers
import Mathlib.Data.List.Basic

/-! Runs in which logging is activated, loggers are asked for, and records are emitted.

* `Journal.Completes`: the runs whose activations are completed;
* `Journal.hub_emit`, `Journal.hub_activate`: what a step does to the hub;
* `Journal.exists_added_step`, `Journal.exists_added_run`: handlers stay where they are, and more
  come after them. -/

namespace CortexFlags

/-! ## Steps and runs -/

inductive LogStep
  | activate (style : ConsoleStyle) (request : LogRequest)
  | know (logger : String)
  | emit (record : Record)

namespace LogStep

def record? : LogStep → Option Record
  | emit r => some r
  | activate _ _ | know _ => none

/-- The logger that is asked for. -/
def logger? : LogStep → Option String
  | activate _ _ => none
  | know logger => some logger
  | emit r => some r.event.logger

/-- An activation that lets debug traces pass. -/
def enablesTraces : LogStep → Bool
  | activate _ request => request.debug
  | know _ | emit _ => false

def isActivation : LogStep → Bool
  | activate _ _ => true
  | know _ | emit _ => false

/-- An activation that opens the log file at a place. -/
def OpensAt (s : LogStep) (place : Place) : Prop :=
  ∃ style request path, s = .activate style request ∧ request.file = some path ∧
    Place.ofPath path = place

end LogStep

/-- The records that are emitted. -/
def emitted (steps : List LogStep) : List Record := steps.filterMap LogStep.record?

/-- Some activation lets debug traces pass. -/
def tracesOn (steps : List LogStep) : Bool := steps.any LogStep.enablesTraces

namespace Journal

def step (j : Journal) : LogStep → Journal
  | .activate style request => (j.activate style request).2
  | .know logger => j.know logger
  | .emit r => j.emit r

def run (j : Journal) (steps : List LogStep) : Journal := steps.foldl step j

/-- The activation is completed, the record is not below debug traces. -/
def Succeeds (j : Journal) : LogStep → Prop
  | .activate style request => (j.activate style request).1 = .ok ()
  | .know _ => True
  | .emit r => .debug ≤ r.event.level

def Completes : Journal → List LogStep → Prop
  | _, [] => True
  | j, s :: more => j.Succeeds s ∧ (j.step s).Completes more

instance (j : Journal) : (s : LogStep) → Decidable (j.Succeeds s)
  | .activate style request => inferInstanceAs (Decidable ((j.activate style request).1 = .ok ()))
  | .know _ => inferInstanceAs (Decidable True)
  | .emit r => inferInstanceAs (Decidable (.debug ≤ r.event.level))

instance decidableCompletes : (j : Journal) → (steps : List LogStep) → Decidable (j.Completes steps)
  | _, [] => inferInstanceAs (Decidable True)
  | j, s :: more =>
      have := decidableCompletes (j.step s) more
      inferInstanceAs (Decidable (j.Succeeds s ∧ (j.step s).Completes more))

variable {j : Journal} {s : LogStep} {steps : List LogStep} {style : ConsoleStyle}
  {request : LogRequest} {handler : Handler} {n : Nat}

theorem run_append (j : Journal) (a b : List LogStep) : j.run (a ++ b) = (j.run a).run b :=
  List.foldl_append

theorem completes_append (j : Journal) (a b : List LogStep) :
    j.Completes (a ++ b) ↔ j.Completes a ∧ (j.run a).Completes b := by
  induction a generalizing j with
  | nil => exact iff_of_eq (true_and _).symm
  | cons s a ih => rw [List.cons_append, Completes, Completes, ih, and_assoc]; rfl

theorem completes_singleton_iff : j.Completes [s] ↔ j.Succeeds s := iff_of_eq (and_true _)

/-! ## The log file of an activation -/

section

variable {files files' : Files} {file : Option String} {place : Place}

theorem Opens.place_eq {place : Option Place} (h : Opens files file files' place) :
    place = file.map Place.ofPath := by
  cases h with
  | nothing => rfl
  | file h => exact congrArg some (Files.opened_of_openToAppend h).1.symm

theorem Opens.opened (h : Opens files file files' (some place)) : files.Opened place files' := by
  cases h with
  | file h => exact (Files.opened_of_openToAppend h).2

theorem Opens.lookup_eq {place : Option Place} {other : Place} {old : String}
    (h : Opens files file files' place) (hold : files.lookup other = some old) :
    files'.lookup other = some old := by
  cases h with
  | nothing => exact hold
  | file h => exact (Files.opened_of_openToAppend h).2.lookup_eq hold

end

/-! ## What a step does to the hub -/

/-- Writing changes texts alone. -/
theorem writeRecord_frame (j : Journal) (r : Record) (h : Handler) :
    (j.writeRecord r h).hub = j.hub ∧ (j.writeRecord r h).report = j.report := by
  unfold writeRecord
  cases h.line r with
  | none => exact ⟨rfl, rfl⟩
  | some line => cases h.sink <;> exact ⟨rfl, rfl⟩

theorem emit_frame (j : Journal) (r : Record) :
    (j.emit r).hub = j.hub.heard r.event ∧ (j.emit r).report = j.report := by
  unfold emit
  refine List.foldlRecOn (motive := fun j' : Journal =>
    j'.hub = j.hub.heard r.event ∧ j'.report = j.report) _ _ ⟨rfl, rfl⟩ fun j' hj' h _ => ?_
  obtain ⟨hhub, hreport⟩ := writeRecord_frame j' r h
  exact ⟨hhub.trans hj'.1, hreport.trans hj'.2⟩

theorem hub_emit (j : Journal) (r : Record) : (j.emit r).hub = j.hub.heard r.event :=
  (emit_frame j r).1

theorem activate_of_succeeds (h : j.Succeeds (.activate style request)) :
    j.activate style request = (.ok (), j.step (.activate style request)) :=
  Prod.ext h rfl

theorem hub_activate (h : j.Succeeds (.activate style request)) :
    ∃ files place added, Opens j.files request.file files place ∧
      request.Adds style place added ∧
      j.step (.activate style request) =
        { j with hub := j.hub.extended request.debug added, files } :=
  activate_eq_ok_iff.mp (activate_of_succeeds h)

theorem report_step (h : j.Succeeds s) : (j.step s).report = j.report := by
  cases s with
  | emit r => exact (emit_frame j r).2
  | know logger => rfl
  | activate style request =>
    obtain ⟨files, place, added, -, -, hstep⟩ := hub_activate h
    rw [hstep]

theorem report_run {j : Journal} {steps : List LogStep} (h : j.Completes steps) :
    (j.run steps).report = j.report := by
  induction steps generalizing j with
  | nil => rfl
  | cons s steps ih => exact (ih h.2).trans (report_step h.1)

/-! ## Handlers stay -/

/-- What a step adds comes after the handlers that are there, and the handler of a log file is
added where the file is opened. -/
theorem exists_added_step (h : j.Succeeds s) :
    ∃ added, (j.step s).hub.handlers = j.hub.handlers ++ added ∧
      ∀ handler ∈ added, ∀ place, handler.sink = .file place → s.OpensAt place := by
  cases s with
  | know logger =>
    refine ⟨[], (List.append_nil _).symm, fun handler hmem => ?_⟩
    exact absurd hmem List.not_mem_nil
  | emit r =>
    refine ⟨[], ?_, fun handler hmem => absurd hmem List.not_mem_nil⟩
    rw [step, hub_emit, List.append_nil]
    rfl
  | activate style request =>
    obtain ⟨files, place, added, hopens, hadds, hstep⟩ := hub_activate h
    refine ⟨added, by rw [hstep]; rfl, fun handler hmem found hsink => ?_⟩
    cases hadds with
    | console =>
      rw [List.mem_singleton.mp hmem] at hsink
      cases hsink
    | both =>
      rcases List.mem_pair.mp hmem with rfl | rfl
      · cases hsink
      · cases hsink
        obtain ⟨path, hpath, rfl⟩ := Option.map_eq_some_iff.mp hopens.place_eq.symm
        exact ⟨style, request, path, rfl, hpath, rfl⟩

theorem exists_added_run (h : j.Completes steps) :
    ∃ added, (j.run steps).hub.handlers = j.hub.handlers ++ added ∧
      ∀ handler ∈ added, ∀ place, handler.sink = .file place → ∃ s ∈ steps, s.OpensAt place := by
  induction steps generalizing j with
  | nil => exact ⟨[], (List.append_nil _).symm, fun handler hmem => absurd hmem List.not_mem_nil⟩
  | cons s steps ih =>
    obtain ⟨first, hfirst, hopensFirst⟩ := exists_added_step h.1
    obtain ⟨more, hmore, hopensMore⟩ := ih h.2
    refine ⟨first ++ more, ?_, fun handler hmem place hsink => ?_⟩
    · show ((j.step s).run steps).hub.handlers = _
      rw [hmore, hfirst, List.append_assoc]
    · rcases List.mem_append.mp hmem with hmem | hmem
      · exact ⟨s, List.mem_cons_self, hopensFirst handler hmem place hsink⟩
      · obtain ⟨t, ht, hopens⟩ := hopensMore handler hmem place hsink
        exact ⟨t, List.mem_cons_of_mem _ ht, hopens⟩

/-- A handler keeps its position. -/
theorem getElem?_run (h : j.Completes steps) (hn : j.hub.handlers[n]? = some handler) :
    (j.run steps).hub.handlers[n]? = some handler := by
  obtain ⟨added, hadded, -⟩ := exists_added_run h
  rw [hadded, List.getElem?_append_left (List.getElem?_eq_some_iff.mp hn).1]
  exact hn

end Journal

end CortexFlags
