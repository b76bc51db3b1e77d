import CortexFlags.Text.Numeral
import CortexFlags.Text.Quoted

/-! Strings in TOML: short ones on one line, and long ones between three quotes on each
side. In double quotes a backslash stands before an escape, in single ones for itself. -/

namespace CortexFlags.Settings.Toml

open Text.Quoted (singleQuote doubleQuote)

def isBlank (c : Char) : Bool := c = ' ' || c = '\t'

/-- A character that neither strings nor comments may hold. -/
def isControl (c : Char) : Bool := (c.toNat < 32 && c != '\t') || c = '\x7f'

/-! ## Escapes -/

/-- The characters that single letters stand for. -/
def letterEscapes : List (Char × Char) :=
  [('b', '\x08'), ('t', '\t'), ('n', '\n'), ('f', '\x0c'), ('r', '\r'), ('e', '\x1b'),
    (doubleQuote, doubleQuote), ('\\', '\\')]

/-- How many digits follow a letter for a code point. -/
def codeLengths : List (Char × Nat) := [('x', 2), ('u', 4), ('U', 8)]

/-- Whether four or more digits begin as those of a surrogate do. -/
def beginsSurrogate (digits : List Char) : Bool :=
  match digits with
  | a :: b :: _ :: _ => a.toLower = 'd' && !('0' ≤ b && b ≤ '7')
  | _ => false

/-- The character of a code point in digits. -/
def codePoint? (digits : List Char) : Option Char := do
  if beginsSurrogate digits then none
  let n ← Text.integer? 16 digits
  if 0 ≤ n && n.toNat.isValidChar then some (Char.ofNat n.toNat) else none

/-- What the characters after a backslash stand for, and how many of them it takes. In a
long string a backslash takes away blanks and line ends up to the next text. -/
def escape? (long : Bool) (cs : List Char) : Option (List Char × Nat) :=
  let gap := cs.takeWhile fun c => isBlank c || c = '\n'
  match cs with
  | [] => none
  | c :: rest =>
      if long && !gap.isEmpty then if gap.contains '\n' then some ([], gap.length) else none
      else
        match letterEscapes.lookup c, codeLengths.lookup c with
        | some meant, _ => some ([meant], 1)
        | none, some length =>
            if rest.length < length then none
            else (codePoint? (rest.take length)).map fun c => ([c], length + 1)
        | none, none => none

/-! ## Strings -/

/-- The text of a string up to its closing quotes, and what follows them. A long string
may end in up to two quotes of its own. -/
def quotedText (quote : Char) (long : Bool) : List Char → Option (List Char × List Char)
  | [] => none
  | c :: rest =>
      if c = quote then
        let more := (rest.takeWhile (· = quote)).length
        if !long then some ([], rest)
        else if more ≥ 5 then none
        else if more ≥ 2 then some (List.replicate (more - 2) quote, rest.drop more)
        else do
          let (text, after) ← quotedText quote long (rest.drop more)
          return (List.replicate (more + 1) quote ++ text, after)
      else if quote = doubleQuote && c = '\\' then do
        let (meant, taken) ← escape? long rest
        let (text, after) ← quotedText quote long (rest.drop taken)
        return (meant ++ text, after)
      else if isControl c && !(long && c = '\n') then none
      else do
        let (text, after) ← quotedText quote long rest
        return (c :: text, after)
termination_by cs => cs.length
decreasing_by
  all_goals first
    | exact Nat.lt_succ_self _
    | exact Nat.lt_succ_of_le (by rw [List.length_drop]; exact Nat.sub_le _ _)

/-- A string in some text. -/
structure Quotation where
  text : String
  isLong : Bool
  after : List Char

def isQuote (c : Char) : Bool := c = singleQuote || c = doubleQuote

/-- The string after an opening quote. A line end right after three quotes is left out. -/
def quotation? (quote : Char) (cs : List Char) : Option Quotation :=
  match cs.takeWhile (· = quote), cs.drop 2 with
  | [], _ => do
      let (text, after) ← quotedText quote false cs
      return ⟨String.ofList text, false, after⟩
  | [_], _ => some ⟨"", false, cs.drop 1⟩
  | _, cs => do
      let cs := if cs.head? = some '\n' then cs.drop 1 else cs
      let (text, after) ← quotedText quote true cs
      return ⟨String.ofList text, true, after⟩

end CortexFlags.Settings.Toml
