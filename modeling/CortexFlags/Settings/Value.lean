import CortexFlags.Settings.Calendar

/-! Values of the settings: scalars, lists and tables, nested at will. -/

namespace CortexFlags.Settings

/-- A value. A decimal is its sign, its digits and the number of those after the point; a
float may also be infinite, or no number at all. A moment is a day and a time of day, perhaps
with the minutes that its clock is ahead of universal time. -/
inductive Value
  | null
  | bool (b : Bool)
  | int (n : Int)
  | decimal (negative : Bool) (digits places : Nat)
  | infinite (negative : Bool)
  | undefined
  | text (s : String)
  | day (d : Day)
  | clock (t : Clock)
  | moment (d : Day) (t : Clock) (ahead : Option Int)
  | list (items : List Value)
  | table (entries : List (String × Value))
deriving Repr

/-- The entries of a table, in order. -/
abbrev Entries := List (String × Value)

/-! ## Shapes -/

/-- What a value is, without its content. -/
inductive Shape
  | null | bool | int | float | text | day | clock | moment | list | table
deriving DecidableEq, Repr

def Value.shape : Value → Shape
  | null => .null
  | bool _ => .bool
  | int _ => .int
  | decimal _ _ _ | infinite _ | undefined => .float
  | text _ => .text
  | day _ => .day
  | clock _ => .clock
  | moment _ _ _ => .moment
  | list _ => .list
  | table _ => .table

namespace Shape

/-- The word for a shape in messages about ill-typed fields. -/
def word : Shape → String
  | null => "None"
  | bool => "bool"
  | int => "int"
  | float => "float"
  | text => "str"
  | day => "datetime.date"
  | clock => "datetime.time"
  | moment => "datetime.datetime"
  | list => "list"
  | table => "dict"

/-- The word for a shape in messages about sections that are not tables. -/
def typeWord : Shape → String
  | null => "NoneType"
  | other => other.word

end Shape

/-! ## Field types -/

/-- The types that a field may be declared with. -/
inductive FieldType
  | bool | int | text | float
deriving DecidableEq, Repr

namespace FieldType

def word : FieldType → String
  | bool => "bool"
  | int => "int"
  | text => "str"
  | float => "float"

def ofWord? (s : String) : Option FieldType := [bool, int, text, float].find? (·.word = s)

/-- A truth value counts as an integer, and an integer as a float. -/
def accepts : FieldType → Shape → Bool
  | bool, .bool => true
  | int, .int | int, .bool => true
  | text, .text => true
  | float, .float | float, .int | float, .bool => true
  | _, _ => false

/-- Why a shape is not of the type. -/
def complaint (type : FieldType) (shape : Shape) : String :=
  match type with
  | float => s!"{shape.word} is neither float or int"
  | other => s!"{shape.word} is not an instance of {other.word}"

end FieldType

end CortexFlags.Settings
