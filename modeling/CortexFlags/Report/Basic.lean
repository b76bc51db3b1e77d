import CortexFlags.Report.Kind

/-! Error reports: a kind, the messages gathered so far, and where the error
arose. A report is shown by its last message. -/

namespace CortexFlags

structure Report where
  kind : ReportKind
  messages : List String
  origin : Option String
  /-- The flag value that the report is about, for the kinds that have one. -/
  value : Option String
deriving DecidableEq, Repr

namespace Report

/-- The last message, or the name of the kind if there is none. -/
def headline (r : Report) : String := r.messages.getLast?.getD r.kind.name

/-- The headline, after the origin if there is a non-empty one. -/
def text (r : Report) : String :=
  match r.origin with
  | none => r.headline
  | some origin => if origin = "" then r.headline else s!"{origin}: {r.headline}"

/-- A report with more messages at the end. -/
def add (r : Report) (messages : List String) : Report :=
  { r with messages := r.messages ++ messages }

/-- The report of a fault has the wording of the fault as its one message. -/
def ofFault (f : Fault) : Report where
  kind := f.kind
  messages := [f.message]
  origin := f.origin?
  value :=
    match f with
    | .flag cause => cause.value?
    | _ => none

/-- A report written by hand. The kinds that stand for one flag fault each have its
wording, about the given value; the others have the given messages and origin. -/
def create (kind : ReportKind) (messages : List String) (origin : Option String)
    (value : String) : Report :=
  match kind with
  | .missingCpu => ofFault (.flag .missingCpu)
  | .missingFpu => ofFault (.flag .missingFpu)
  | .invalidCpu => ofFault (.flag (.invalidCpu value))
  | .invalidFloatAbi => ofFault (.flag (.invalidFloatAbi value))
  | .invalidFpu => ofFault (.flag (.invalidFpu value))
  | kind => ⟨kind, messages, origin, none⟩

end Report

/-- What is shown of a fault. -/
def Fault.text (f : Fault) : String := (Report.ofFault f).text

end CortexFlags
