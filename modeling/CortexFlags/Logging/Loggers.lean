import CortexFlags.Logging.Event

/-! Loggers by name, and which of them hang below which. A logger is there once it has been asked
for; its parent is the nearest one that is there among those whose names are the parts of its own
before a dot. Of two dots in a row the first is passed over, unless the part before the second is
the name of a logger. A logger remembers which levels it lets pass, also when its parent changes
because others are made; it forgets that when a level is set. -/

namespace CortexFlags

structure Loggers where
  /-- The names of those that are there. -/
  known : List String
  /-- What they remember. -/
  answers : List ((String × Level) × Bool)
deriving DecidableEq, Repr

namespace Loggers

/-- The common logger and that of the debug traces are there from the start. -/
def initial : Loggers := ⟨[Event.rootName, Event.debugName], []⟩

/-! ## The hierarchy -/

/-- The names above a name, which is given in reverse, from that of the parent on. A part before a
dot that is not known is not one of them, and the character at its end is passed over. -/
def above (known : List String) : (passing : Bool) → List Char → List String
  | _, [] => []
  | true, _ :: rest => above known false rest
  | false, c :: rest =>
      if c = '.' && !rest.isEmpty then
        if known.contains (String.ofList rest.reverse) then
          String.ofList rest.reverse :: above known false rest
        else above known true rest
      else above known false rest

/-- Whether a logger is another one, or hangs below it. -/
def isWithin (known : List String) (top name : String) : Bool :=
  name = top || (above known false name.toList.reverse).contains top

/-! ## What loggers remember -/

/-- The loggers after one has been asked for. -/
def know (l : Loggers) (name : String) : Loggers := { l with known := l.known ++ [name] }

/-- What a logger remembers about events like this one. -/
def answer? (l : Loggers) (e : Event) : Option Bool := l.answers.lookup e.question

def remember (l : Loggers) (e : Event) (passes : Bool) : Loggers :=
  { l with answers := (e.question, passes) :: l.answers }

def forget (l : Loggers) : Loggers := { l with answers := [] }

end Loggers

end CortexFlags
