import CortexFlags.Text.Hex
import CortexFlags.Text.Quoted

/-! JSON strings and flat objects of strings in printable ASCII alone: any other
character is written by the numbers of its one or two UTF-16 units. -/

namespace CortexFlags.Text.Json

open Quoted (doubleQuote)

/-! ## Writing -/

/-- A UTF-16 unit by its number. -/
def unit (n : Nat) : List Char := '\\' :: 'u' :: (hex 4 n).toList

/-- The units of a character beyond the first plane. -/
def pair (n : Nat) : List Char :=
  unit (0xD800 + (n - 0x10000) / 0x400) ++ unit (0xDC00 + (n - 0x10000) % 0x400)

/-- The letters for characters that have one, after a backslash. -/
def letters : List (Char × Char) :=
  [('\n', 'n'), ('\r', 'r'), ('\t', 't'), ('\x08', 'b'), ('\x0c', 'f'),
    (doubleQuote, doubleQuote), ('\\', '\\')]

def isPlain (c : Char) : Bool := ' ' ≤ c && c ≤ '~'

def encodeChar (c : Char) : List Char :=
  match letters.lookup c with
  | some letter => ['\\', letter]
  | none =>
      if isPlain c then [c]
      else if c.toNat < 0x10000 then unit c.toNat
      else pair c.toNat

/-- A text between quotes. -/
def encode (s : String) : String :=
  String.ofList (doubleQuote :: s.toList.flatMap encodeChar ++ [doubleQuote])

/-- An object of texts, its members in order. -/
def encodeObject (members : List (String × String)) : String :=
  "\x7b" ++ ", ".intercalate (members.map fun m => encode m.1 ++ ": " ++ encode m.2) ++ "\x7d"

end CortexFlags.Text.Json
