import CortexFlags.Files
import CortexFlags.Logging.Loggers
import CortexFlags.Logging.Record

/-! The hub: levels that decide which events pass, and handlers that write the
records of those which do, each to its own sink and from its own level on. -/

namespace CortexFlags

/-! ## Handlers -/

inductive Sink
  | console (coloured : Bool)
  | file (place : Place)
deriving DecidableEq, Repr

structure Handler where
  sink : Sink
  level : Level
  layout : Layout
deriving DecidableEq, Repr

/-- The colours of the level names. -/
def levelColours : List (String × String) :=
  [("DEBUG", "\x1b[36m"), ("INFO", "\x1b[2m"), ("WARNING", "\x1b[33m"), ("ERROR", "\x1b[31m"),
    ("CRITICAL", "\x1b[31m\x1b[1m")]

/-- Colour the name of a level at the start of a text. -/
def colourLevel (text : String) : String :=
  match levelColours.find? fun entry => entry.1.toList.isPrefixOf text.toList with
  | none => text
  | some (name, colour) =>
      colour ++ name ++ "\x1b[0m" ++ String.ofList (text.toList.drop name.length)

namespace Handler

def accepts (h : Handler) (r : Record) : Bool := decide (h.level ≤ r.event.level)

/-- The line that the handler writes for a record. -/
def line (h : Handler) (r : Record) : Option String := do
  let text ← h.layout.render r
  match h.sink with
  | .console true => return colourLevel text ++ "\n"
  | _ => return text ++ "\n"

/-- The handler that speaks where there is no other: it writes warnings on the console. -/
def lastResort : Handler := ⟨.console false, .warning, .percent "%(message)s"⟩

end Handler

/-! ## The hub -/

structure Hub where
  /-- The level of all loggers but those of debug traces. -/
  rootLevel : Level
  debugLevel : Level
  handlers : List Handler
  loggers : Loggers
deriving DecidableEq, Repr

namespace Hub

/-- Before activation there are no handlers, and debug traces are silent. -/
def initial : Hub := ⟨.warning, Level.critical + 1, [], .initial⟩

/-! ### Levels -/

/-- The logger of the debug traces, or one below it. -/
def isDebugLogger (hub : Hub) (logger : String) : Bool :=
  Loggers.isWithin hub.loggers.known Event.debugName logger

/-- The level from which a logger passes events on. -/
def levelOf (hub : Hub) (logger : String) : Level :=
  if hub.isDebugLogger logger then hub.debugLevel else hub.rootLevel

/-- Events at level zero or below never pass. -/
def admits (hub : Hub) (e : Event) : Bool :=
  decide (0 < e.level) && decide (hub.levelOf e.logger ≤ e.level)

/-- Whether the logger of an event lets it pass: it does as it remembers. -/
def passes (hub : Hub) (e : Event) : Bool := (hub.loggers.answer? e).getD (hub.admits e)

def know (hub : Hub) (logger : String) : Hub := { hub with loggers := hub.loggers.know logger }

/-- The hub after an event: its logger is there, and remembers what it did. -/
def heard (hub : Hub) (e : Event) : Hub :=
  { hub with loggers := (hub.loggers.know e.logger).remember e (hub.passes e) }

def setRootLevel (hub : Hub) (level : Level) : Hub :=
  { hub with rootLevel := level, loggers := hub.loggers.forget }

def setDebugLevel (hub : Hub) (level : Level) : Hub :=
  { hub with debugLevel := level, loggers := hub.loggers.forget }

/-! ### Handlers -/

def addHandler (hub : Hub) (h : Handler) : Hub := { hub with handlers := hub.handlers ++ [h] }

/-- The handlers of a logger, in the order they were added. The loggers below the common one do
not need the last resort. -/
def handlersOf (hub : Hub) (logger : String) : List Handler :=
  if hub.handlers.isEmpty && !Loggers.isWithin hub.loggers.known Event.rootName logger then
    [.lastResort]
  else hub.handlers

/-- The handlers that get a record. -/
def receivers (hub : Hub) (r : Record) : List Handler :=
  if hub.passes r.event then (hub.handlersOf r.event.logger).filter (·.accepts r) else []

end Hub

end CortexFlags
