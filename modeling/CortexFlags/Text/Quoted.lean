import CortexFlags.Text.Hex
import CortexFlags.Text.Unprintable

/-! Quoted text, as messages show a value: between single quotes, or between
double quotes if the text holds a single quote and no double one. -/

namespace CortexFlags.Text.Quoted

def singleQuote : Char := '\x27'
def doubleQuote : Char := '\x22'

/-- The quote that surrounds a text. -/
def quoteFor (cs : List Char) : Char :=
  if cs.contains singleQuote && !cs.contains doubleQuote then doubleQuote else singleQuote

/-- A character by its number, with as many digits as it needs of two, four or eight. -/
def numbered (c : Char) : String :=
  let n := c.toNat
  if n < 0x100 then s!"\\x{hex 2 n}"
  else if n < 0x10000 then s!"\\u{hex 4 n}"
  else s!"\\U{hex 8 n}"

def escape (quote c : Char) : String :=
  if c = quote ∨ c = '\\' then String.ofList ['\\', c]
  else if c = '\n' then "\\n"
  else if c = '\r' then "\\r"
  else if c = '\t' then "\\t"
  else if isUnprintable c then numbered c
  else String.ofList [c]

/-- A text between quotes, on one line of printable characters. -/
def render (s : String) : String :=
  let quote := quoteFor s.toList
  String.ofList [quote] ++ String.join (s.toList.map (escape quote)) ++ String.ofList [quote]

/-- A text between quotes, of ASCII characters alone. -/
def renderAscii (s : String) : String :=
  String.join ((render s).toList.map fun c =>
    if c.toNat < 128 then String.ofList [c] else numbered c)

/-- Several texts, each between quotes. -/
def renderAll (texts : List String) : String := ", ".intercalate (texts.map render)

end CortexFlags.Text.Quoted
