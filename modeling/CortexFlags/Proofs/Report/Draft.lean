import CortexFlags.Report.Basic
import Mathlib.Data.List.Basic

/-! What reports are written from, and how they are shown.

* `Draft.report_eq`: a report is written as it is asked for, and `Draft.exists_report_eq_create`:
  there is a draft for every report;
* `Report.shownAs_text`: the text of a report, told from its messages, its kind and its origin. -/

namespace CortexFlags

/-! ## What a report is written from -/

/-- Only a kind that stands for one flag fault has a wording of its own. -/
theorem Report.create_of_worded {kind : ReportKind} (hkind : ∀ cause : FlagFault, cause.kind ≠ kind)
    (messages : List String) (origin : Option String) (value : String) :
    create kind messages origin value = ⟨kind, messages, origin, none⟩ := by
  cases kind with
  | missingCpu => exact absurd rfl (hkind .missingCpu)
  | missingFpu => exact absurd rfl (hkind .missingFpu)
  | invalidCpu => exact absurd rfl (hkind (.invalidCpu value))
  | invalidFloatAbi => exact absurd rfl (hkind (.invalidFloatAbi value))
  | invalidFpu => exact absurd rfl (hkind (.invalidFpu value))
  | _ => rfl

/-- Words for a report: one message, or any number of them. -/
inductive Words
  | one (message : String)
  | several (messages : List String)

def Words.messages : Words → List String
  | one message => [message]
  | several messages => messages

/-- A report as it is asked for: with words and an origin of its own, or about a flag fault, which
has its own wording. -/
inductive Draft
  | worded (kind : ReportKind) (words : Option Words) (origin : Option String)
      (hkind : ∀ cause : FlagFault, cause.kind ≠ kind)
  | aboutFlag (cause : FlagFault)

namespace Draft

def kind : Draft → ReportKind
  | worded kind _ _ _ => kind
  | aboutFlag cause => cause.kind

def messages : Draft → List String
  | worded _ words _ _ => words.elim [] Words.messages
  | aboutFlag cause => [cause.message]

def origin : Draft → Option String
  | worded _ _ origin _ => origin
  | aboutFlag _ => none

def value? : Draft → Option String
  | worded _ _ _ _ => none
  | aboutFlag cause => cause.value?

def report : Draft → Report
  | worded kind words origin _ => .create kind (words.elim [] Words.messages) origin ""
  | aboutFlag cause => .create cause.kind [] none (cause.value?.getD "")

theorem report_eq (d : Draft) : d.report = ⟨d.kind, d.messages, d.origin, d.value?⟩ := by
  cases d with
  | worded kind words origin hkind => exact Report.create_of_worded hkind _ origin ""
  | aboutFlag cause => cases cause <;> rfl

/-- Every report that is written by hand is that of some draft. -/
theorem exists_report_eq_create (kind : ReportKind) (messages : List String)
    (origin : Option String) (value : String) :
    ∃ d : Draft, d.report = .create kind messages origin value := by
  by_cases hflag : ∃ cause : FlagFault, cause.kind = kind
  · obtain ⟨cause, rfl⟩ := hflag
    cases cause with
    | missingCpu => exact ⟨.aboutFlag .missingCpu, rfl⟩
    | invalidCpu _ => exact ⟨.aboutFlag (.invalidCpu value), rfl⟩
    | invalidFloatAbi _ => exact ⟨.aboutFlag (.invalidFloatAbi value), rfl⟩
    | missingFpu => exact ⟨.aboutFlag .missingFpu, rfl⟩
    | invalidFpu _ => exact ⟨.aboutFlag (.invalidFpu value), rfl⟩
  · have hkind : ∀ cause : FlagFault, cause.kind ≠ kind :=
      fun cause hcause => hflag ⟨cause, hcause⟩
    refine ⟨.worded kind (some (.several messages)) origin hkind, ?_⟩
    rw [report, Report.create_of_worded hkind, Report.create_of_worded hkind]
    rfl

end Draft

/-! ## How a report is shown -/

namespace Report

variable {r : Report}

@[simp]
theorem add_nil (r : Report) : r.add [] = r := by
  simp [add]

@[simp]
theorem add_add (r : Report) (a b : List String) : (r.add a).add b = r.add (a ++ b) := by
  simp [add]

/-- The last message of a report, or the name of its kind if it has none. -/
def Headed (r : Report) (headline : String) : Prop :=
  (∃ former, r.messages = former ++ [headline]) ∨ r.messages = [] ∧ headline = r.kind.name

/-- The headline, behind the origin and a colon just if there is an origin that is not empty. -/
def ShownAs (r : Report) (text : String) : Prop :=
  ∃ headline, r.Headed headline ∧ ((∀ origin ∈ r.origin, origin = "") → text = headline) ∧
    ∀ origin ∈ r.origin, (text = origin ++ ": " ++ headline ↔ origin ≠ "")

theorem headed_headline (r : Report) : r.Headed r.headline := by
  rcases List.eq_nil_or_concat r.messages with hnone | ⟨former, last, hlast⟩
  · exact .inr ⟨hnone, by simp [headline, hnone]⟩
  · exact .inl ⟨former, by simp [headline, hlast]⟩

theorem text_of_no_origin (h : ∀ origin ∈ r.origin, origin = "") : r.text = r.headline := by
  cases horigin : r.origin with
  | none => simp [text, horigin]
  | some origin => simp [text, horigin, h origin horigin]

theorem text_of_origin {origin : String} (h : r.origin = some origin) (hne : origin ≠ "") :
    r.text = origin ++ ": " ++ r.headline := by
  simp only [text, h, if_neg hne]
  rfl

theorem shownAs_text (r : Report) : r.ShownAs r.text := by
  refine ⟨r.headline, headed_headline r, text_of_no_origin, fun origin horigin => ⟨?_, ?_⟩⟩
  · rintro hprefixed rfl
    have hplain : r.text = r.headline :=
      text_of_no_origin fun _ ho => Option.some_inj.mp (ho.symm.trans horigin)
    -- a text that stood behind a colon would be longer than itself
    have hlength := congrArg String.length (hplain.symm.trans hprefixed)
    simp at hlength
  · exact text_of_origin horigin

end Report

end CortexFlags
