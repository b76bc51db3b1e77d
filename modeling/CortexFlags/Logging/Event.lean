import CortexFlags.Logging.Level

/-! Events: what a part of the program says, before anyone decides who hears it. -/

namespace CortexFlags

/-- A message of a logger at a level. -/
structure Event where
  logger : String
  level : Level
  message : String
deriving DecidableEq, Repr

namespace Event

/-- The logger from which all others descend. -/
def rootName : String := "armtarget"

/-- The name of a logger below the common one. -/
def childName (child : String) : String := s!"{rootName}.{child}"

/-- The logger of the debug traces, silent until it is enabled. -/
def debugName : String := childName "debug"

/-- What its logger is asked about an event. -/
def question (e : Event) : String × Level := (e.logger, e.level)

/-- A debug trace. -/
def trace (message : String) : Event := ⟨debugName, .debug, message⟩

end Event

end CortexFlags
