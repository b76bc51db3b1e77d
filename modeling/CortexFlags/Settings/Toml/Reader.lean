import CortexFlags.Settings.Toml.Document
import CortexFlags.Settings.Toml.Moment
import CortexFlags.Settings.Toml.Numeral
import CortexFlags.Settings.Toml.Quotation

/-! Reading the parts of a TOML text: gaps, keys and values. A reader takes a part off
the front of the text or stops. Line ends are line feeds. -/

namespace CortexFlags.Settings.Toml

/-- Why reading stops: at a character that does not fit, with the text from there on, or
for good. -/
inductive Stop
  | misfit (rest : List Char)
  | refused

abbrev Reader := StateT (List Char) (Except Stop)

namespace Reader

variable {α : Type}

def refuse : Reader α := throw .refused

/-- Stop at the character that stands in front. -/
def stopHere : Reader α := do throw (.misfit (← get))

def orRefuse : Option α → Reader α
  | some a => return a
  | none => refuse

def next? : Reader (Option Char) := do return (← get).head?

def skip : Reader Unit := modify (·.drop 1)

/-- Skip a character after which the text must go on. -/
def skipWithin : Reader Unit := do
  skip
  if (← get).isEmpty then refuse

def expect (c : Char) : Reader Unit := do
  if (← next?) = some c then skip else stopHere

/-- The longest run of characters that satisfy a test. -/
def run (test : Char → Bool) : Reader (List Char) := do
  let cs ← get
  set (cs.dropWhile test)
  return cs.takeWhile test

end Reader

/-! ## Gaps -/

def skipBlanks : Reader Unit := modify (·.dropWhile isBlank)

/-- What follows blanks, line ends and comments. -/
def dropGap? : (inComment : Bool) → List Char → Option (List Char)
  | _, [] => some []
  | true, c :: rest =>
      if c = '\n' then dropGap? false rest
      else if isControl c then none
      else dropGap? true rest
  | false, c :: rest =>
      if c = '#' then dropGap? true rest
      else if isBlank c || c = '\n' then dropGap? false rest
      else some (c :: rest)

def skipGap : Reader Unit := do set (← Reader.orRefuse (dropGap? false (← get)))

/-- The end of a line, after blanks and perhaps a comment. -/
def endOfLine : Reader Unit := do
  skipBlanks
  match ← Reader.next? with
  | none => return
  | some c =>
      if c = '#' then
        let comment ← Reader.run (· != '\n')
        if comment.any isControl then Reader.refuse
        Reader.skip
      else Reader.expect '\n'

/-! ## Keys -/

/-- The most parts that a dotted key may have. -/
def maxKeyParts : Nat := 100

/-- A character of a bare key, or a blank around it. A tab may also stand within. -/
def isBare (c : Char) : Bool := c.isAlphanum || c = '_' || c = '-' || isBlank c

/-- One part of a dotted key with the blanks around it. -/
def readKeyPart : Reader String := do
  skipBlanks
  match ← Reader.next? with
  | none => Reader.refuse
  | some c =>
      if isQuote c then
        Reader.skip
        let q ← Reader.orRefuse (quotation? c (← get))
        set q.after
        if q.isLong then Reader.stopHere
        skipBlanks
        return q.text
      else
        let name := ((← Reader.run isBare).reverse.dropWhile isBlank).reverse
        if name.isEmpty || name.contains ' ' then Reader.refuse
        return String.ofList name

/-- A dotted key of at most so many parts. -/
def readKeyUpTo : Nat → Reader (List String)
  | 0 => Reader.refuse
  | parts + 1 => do
      let part ← readKeyPart
      if (← Reader.next?) = some '.' then
        Reader.skip
        return part :: (← readKeyUpTo parts)
      else return [part]

def readKey : Reader (List String) := readKeyUpTo maxKeyParts

/-! ## Scalars -/

def openBrace : Char := '\x7b'
def closeBrace : Char := '\x7d'

def endsWord (c : Char) : Bool := [' ', '\t', '\n', '#', ',', ']', closeBrace].contains c

def truthValues : List (List Char × Bool) := [("true".toList, true), ("false".toList, false)]

def endsLine (c : Char) : Bool := endsWord c && c != ' '

/-- A day that a word stands for. A time of day may follow it after a blank; anything else on
the line but blanks is refused. -/
def readDay (word : List Char) (day : Value) : Reader Value := do
  let line := ((← get).takeWhile (!endsLine ·))
  let time := (line.reverse.dropWhile (· = ' ')).reverse
  modify (·.drop line.length)
  if time.isEmpty then return day
  else Reader.orRefuse (moment? (word ++ time))

/-- A number, a day or a time, up to the end of the word. -/
def readNumber : Reader Value := do
  let word := (← get).takeWhile (!endsWord ·)
  let isDigits := word.head?.any Char.isDigit
  let sign := ['+', '-'].any fun c => word.head? = some c
  if isDigits || sign || word = "inf".toList || word = "nan".toList then
    modify (·.drop word.length)
    match if isDigits then moment? word else none with
    | some (.day d) => readDay word (.day d)
    | some v => return v
    | none => Reader.orRefuse (number? word)
  else Reader.stopHere

/-- A string, a truth value, which may be followed by anything, a number, a day or a time. -/
def readScalar : Reader Value := do
  let cs ← get
  match cs, truthValues.find? fun entry => entry.1.isPrefixOf cs with
  | _, some (word, b) =>
      set (cs.drop word.length)
      return .bool b
  | [], none => Reader.stopHere
  | c :: rest, none =>
      if isQuote c then
        let q ← Reader.orRefuse (quotation? c rest)
        set q.after
        return .text q.text
      else readNumber

/-! ## Values -/

/-- The most arrays and inline tables that may stand within one another. -/
def maxNesting : Nat := 100

/-- A key with its value. -/
def readPair (value : Reader Node) : Reader (List String × Node) := do
  let path ← readKey
  Reader.expect '='
  skipBlanks
  return (path, ← value)

/-- An item of an array. One at which reading stops is left out, and the array goes on
from there. -/
def readItem (value : Reader Node) : Reader (Option Node) := fun cs =>
  match value cs with
  | .ok (node, rest) => .ok (some node, rest)
  | .error (.misfit rest) => .ok (none, rest)
  | .error .refused => .error .refused

/-- The items of an array up to its end; a comma may stand after the last. Each item
takes at least one character, so the bound is the length of the text. -/
def readItems (value : Reader Node) : Nat → Reader (List Node)
  | 0 => Reader.refuse
  | bound + 1 => do
      skipGap
      match ← readItem value with
      | none =>
          Reader.expect ']'
          return []
      | some node =>
          skipGap
          if (← Reader.next?) = some ',' then
            Reader.skipWithin
            return node :: (← readItems value bound)
          else
            Reader.expect ']'
            return [node]

/-- The pairs of an inline table up to its end, added to those before; a comma may stand
after the last. The bound is the length of the text. -/
def readPairs (value : Reader Node) (deep : Nat) : Nat → Body → Reader Body
  | 0, _ => Reader.refuse
  | bound + 1, body => do
      skipGap
      if (← Reader.next?) = some closeBrace then
        Reader.skip
        return body
      if (← Reader.next?) = some ',' then Reader.stopHere
      let (path, node) ← readPair value
      let body ← Reader.orRefuse (body.write? deep true path node)
      skipGap
      if (← Reader.next?) = some ',' then
        Reader.skipWithin
        readPairs value deep bound body
      else
        Reader.expect closeBrace
        return body

/-- A value in which arrays and inline tables stand within one another so many times at
most. -/
def readValueUpTo (bound : Nat) : Nat → Reader Node
  | 0 => do
      if [some '[', some openBrace].contains (← Reader.next?) then Reader.refuse
      return .scalar (← readScalar)
  | nesting + 1 => do
      let inner := readValueUpTo bound nesting
      if (← Reader.next?) = some '[' then
        Reader.skipWithin
        return .list (← readItems inner bound)
      else if (← Reader.next?) = some openBrace then
        Reader.skipWithin
        return .inline (← readPairs inner bound bound [])
      else return .scalar (← readScalar)

def readValue (bound : Nat) : Reader Node := readValueUpTo bound maxNesting

end CortexFlags.Settings.Toml
