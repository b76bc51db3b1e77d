import CortexFlags.Logging.Hub

/-! Journals: a hub together with all that its handlers have written. -/

namespace CortexFlags

structure Journal where
  hub : Hub
  /-- The text on the console. -/
  console : String
  /-- The log files below the working directory. -/
  files : Files
  /-- What the console is told of a record that a handler cannot show. -/
  report : Handler → Record → String

namespace Journal

/-- Nothing is written, and nothing is told of records that cannot be shown. -/
def empty : Journal := ⟨.initial, "", [], fun _ _ => ""⟩

/-- Add text to a sink. -/
def write (j : Journal) (sink : Sink) (text : String) : Journal :=
  match sink with
  | .console _ => { j with console := j.console ++ text }
  | .file place => { j with files := j.files.append place text }

/-- Let a handler write a record; one that its layout cannot show is reported. -/
def writeRecord (j : Journal) (r : Record) (h : Handler) : Journal :=
  match h.line r with
  | some line => j.write h.sink line
  | none => { j with console := j.console ++ j.report h r }

/-- Ask for a logger. -/
def know (j : Journal) (logger : String) : Journal := { j with hub := j.hub.know logger }

/-- Let every handler that receives a record write it. -/
def emit (j : Journal) (r : Record) : Journal :=
  (j.hub.receivers r).foldl (fun j h => j.writeRecord r h) { j with hub := j.hub.heard r.event }

def emitAll (j : Journal) (records : List Record) : Journal := records.foldl emit j

end Journal

end CortexFlags
