/-! What an option is given: a text, or nothing at all. The mark `--` that ends the options
is taken away wherever it stands, also where it is attached to the name of an option,
which is left with nothing. -/

namespace CortexFlags.CommandLine

inductive Given
  | text (s : String)
  | nothing
deriving DecidableEq, Repr

/-- The uses of a text that cannot be made of nothing. -/
inductive Use
  | lookUp | split | fileName
deriving DecidableEq, Repr

def Use.complaint : Use → String
  | lookUp => "unhashable type: 'list'"
  | split => "'list' object has no attribute 'split'"
  | fileName => "expected str, bytes or os.PathLike object, not list"

namespace Given

/-- What an attached text gives. -/
def ofAttached (s : String) : Given := if s = "--" then nothing else text s

/-- How messages show what was given. -/
def shown : Given → String
  | text s => s
  | nothing => "[]"

@[simp] theorem shown_text (s : String) : (text s).shown = s := rfl

/-- The text for some use of it. -/
def textFor (use : Use) : Given → Except Use String
  | text s => .ok s
  | nothing => .error use

end Given

end CortexFlags.CommandLine
