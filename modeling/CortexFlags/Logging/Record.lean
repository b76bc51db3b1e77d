import CortexFlags.Logging.Event
import CortexFlags.Logging.Timestamp
import CortexFlags.Text.Json

/-! Records: events with the time at which they were made, and the two layouts in
which a record becomes a line. -/

namespace CortexFlags

/-- What a record tells of the place where it was made, for formats that ask for it. -/
structure Background where
  /-- A value by its name, such as the number of a line. -/
  value? : String → Option Text.Percent.Value
  /-- All values of the record as one. -/
  whole : Option Text.Percent.Value

def Background.empty : Background := ⟨fun _ => none, none⟩

structure Record where
  time : Timestamp
  background : Background
  event : Event

namespace Record

/-- The fields of a record under the names that layouts use. -/
def fields (r : Record) : List (String × String) :=
  [("asctime", r.time.text), ("levelname", r.event.level.name), ("name", r.event.logger),
    ("message", r.event.message)]

/-- A value of a record by its name. -/
def value? (r : Record) (name : String) : Option Text.Percent.Value :=
  match r.fields.lookup name with
  | some text => some (.text text)
  | none =>
      if name = "levelno" then some (.int r.event.level) else r.background.value? name

end Record

/-! ## Layouts -/

inductive Layout
  | percent (format : String)
  | json
deriving DecidableEq, Repr

namespace Layout

/-- The layout of a format that names some field; an empty one stands for the
message alone. -/
def ofFormat? (format : String) : Option Layout :=
  let format := if format.isEmpty then "%(message)s" else format
  if Text.Percent.namesField format then some (.percent format) else none

/-- The text of a record, unless the format asks for what the record does not have. -/
def render (layout : Layout) (r : Record) : Option String :=
  match layout with
  | percent format => Text.Percent.formatNamed r.value? r.background.whole format
  | json => some (Text.Json.encodeObject r.fields)

end Layout

end CortexFlags
