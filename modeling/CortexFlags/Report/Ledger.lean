import CortexFlags.Report.Basic

/-! A ledger of error reports that grow while a program runs. A step writes a new
report or adds messages to one; what is added is fixed when the step is taken. -/

namespace CortexFlags

/-- The reports of a run, in order of creation. -/
abbrev Ledger := List Report

namespace Ledger

/-- What a step adds to a report: messages of its own, or those of a report. -/
inductive Contribution
  | messages (ms : List String)
  | messagesOf (index : Nat)
deriving DecidableEq, Repr

inductive Step
  | create (report : Report)
  | add (index : Nat) (contribution : Contribution)
deriving DecidableEq, Repr

/-- The messages of a contribution as the ledger stands now. -/
def contributed? (l : Ledger) : Contribution → Option (List String)
  | .messages ms => some ms
  | .messagesOf index => (l[index]?).map Report.messages

/-- Take a step: the new ledger and the place of the report it touched. A step
about a report that does not exist is refused. -/
def step? (l : Ledger) : Step → Option (Ledger × Nat)
  | .create report => some (l ++ [report], l.length)
  | .add index contribution => do
      let report ← l[index]?
      let ms ← l.contributed? contribution
      return (l.set index (report.add ms), index)

end Ledger

end CortexFlags
