import CortexFlags.Text.Hex
import CortexFlags.Text.Pad
import CortexFlags.Text.Quoted
import CortexFlags.Yaml.Plain

/-! Texts in YAML: plain, in single quotes or in double quotes, in ASCII alone. A long
text is folded at spaces once it has passed the eightieth column. -/

namespace CortexFlags.Yaml

open Text.Quoted (singleQuote doubleQuote)

/-! ## The style of a text -/

inductive Style
  | plain | single | double
deriving DecidableEq, Repr

def isBreak (c : Char) : Bool := ['\n', '\u0085', '\u2028', '\u2029'].contains c

def isGap (c : Char) : Bool := isBreak c || [' ', '\t', '\r', '\x00'].contains c

/-- Characters that only double quotes can show. -/
def isSpecial (c : Char) : Bool := !(c = '\n' || (' ' ≤ c && c ≤ '~'))

/-- Characters that may not stand at the front of a plain text. -/
def leadingMarks : List Char :=
  ['#', ',', '[', ']', '\x7b', '\x7d', '&', '*', '!', '|', '>', singleQuote, doubleQuote, '%',
    '@', '\x60']

/-- The front of a text would be read as a mark. -/
def leadsWithMark : List Char → Bool
  | [] => false
  | c :: rest =>
      let alone := match rest with
        | [] => true
        | d :: _ => isGap d
      leadingMarks.contains c || (['?', ':', '-'].contains c && alone)

/-- A colon before a gap, or a number sign after one, within a text. -/
def holdsMark : (afterGap : Bool) → List Char → Bool
  | _, [] => false
  | afterGap, c :: rest =>
      let beforeGap := match rest with
        | [] => true
        | d :: _ => isGap d
      (c = ':' && beforeGap) || (c = '#' && afterGap) || holdsMark (isGap c) rest

/-- The text starts like the mark of a document. -/
def startsDocument (cs : List Char) : Bool :=
  "---".toList.isPrefixOf cs || "...".toList.isPrefixOf cs

/-- A space stands next to a line break. -/
def spaceAtBreak : List Char → Bool
  | a :: b :: rest =>
      (a = ' ' && isBreak b) || (isBreak a && b = ' ') || spaceAtBreak (b :: rest)
  | _ => false

def isEdgeGap (c : Option Char) : Bool :=
  match c with
  | some c => c = ' ' || isBreak c
  | none => false

def mayBePlain (s : String) : Bool :=
  let cs := s.toList
  !(isEdgeGap cs.head? || isEdgeGap cs.getLast? || cs.any isBreak || cs.any isSpecial ||
    startsDocument cs || leadsWithMark cs || holdsMark true cs || standsForOther s)

def maySingle (s : String) : Bool :=
  let cs := s.toList
  !(spaceAtBreak cs || cs.any isSpecial)

/-- Plain if it can be, else in single quotes if it can be. -/
def styleOf (s : String) : Style :=
  if mayBePlain s then .plain else if maySingle s then .single else .double

/-! ## Where a text stands -/

/-- The column at which a text starts, the indentation of the lines after the first,
and whether there may be such lines. -/
structure Place where
  column : Nat
  indent : Nat
  folds : Bool
deriving DecidableEq, Repr

/-- Lines are folded after this column. -/
def foldColumn : Nat := 80

def newLine (p : Place) : List Char := '\n' :: List.replicate p.indent ' '

/-- Whether to fold at a space: it stands alone, past the last column. -/
def foldsAt (p : Place) (afterSpace : Bool) (column : Nat) (rest : List Char) : Bool :=
  p.folds && !afterSpace && rest.head? != some ' ' && decide (column > foldColumn)

/-! ## Plain texts -/

def plainChars (p : Place) : (afterSpace : Bool) → (column : Nat) → List Char → List Char
  | _, _, [] => []
  | afterSpace, column, c :: rest =>
      if c = ' ' then
        if foldsAt p afterSpace column rest then newLine p ++ plainChars p true p.indent rest
        else ' ' :: plainChars p true (column + 1) rest
      else c :: plainChars p false (column + 1) rest

/-! ## Single quotes -/

/-- What was written last. -/
inductive Last
  | opening | space | lineBreak | other
deriving DecidableEq, Repr

/-- Each line break is written by an empty line, and each quote twice. -/
def singleChars (p : Place) : Last → (column : Nat) → List Char → List Char
  | _, _, [] => []
  | last, column, c :: rest =>
      if c = '\n' then
        (if last = .lineBreak then ['\n'] else ['\n', '\n']) ++
          (if rest.head? = some '\n' then [] else List.replicate p.indent ' ') ++
            singleChars p .lineBreak p.indent rest
      else if c = ' ' then
        if last != .opening && !rest.isEmpty && foldsAt p (last = .space) column rest then
          newLine p ++ singleChars p .space p.indent rest
        else
          ' ' :: singleChars p .space (column + 1) rest
      else if c = singleQuote then c :: c :: singleChars p .other (column + 2) rest
      else c :: singleChars p .other (column + 1) rest

/-! ## Double quotes -/

/-- Characters with an escape of one letter. -/
def escapeLetters : List (Char × Char) :=
  [('\x00', '0'), ('\x07', 'a'), ('\x08', 'b'), ('\t', 't'), ('\n', 'n'), ('\x0b', 'v'),
    ('\x0c', 'f'), ('\r', 'r'), ('\x1b', 'e'), (doubleQuote, doubleQuote), ('\\', '\\'),
    ('\u0085', 'N'), ('\u00a0', '_'), ('\u2028', 'L'), ('\u2029', 'P')]

/-- The escape of a character that cannot be written as it is. -/
def escape? (c : Char) : Option (List Char) :=
  match escapeLetters.lookup c with
  | some letter => some ['\\', letter]
  | none =>
      let n := c.toNat
      if ' ' ≤ c && c ≤ '~' then none
      else if n < 0x100 then some ('\\' :: 'x' :: (Text.hexUpper 2 n).toList)
      else if n < 0x10000 then some ('\\' :: 'u' :: (Text.hexUpper 4 n).toList)
      else some ('\\' :: 'U' :: (Text.hexUpper 8 n).toList)

/-- A line that ends with a backslash, and the next one; a space at its start is
marked by another backslash. -/
def brokenLine (p : Place) (next : Option Char) : List Char :=
  '\\' :: newLine p ++ if next = some ' ' then ['\\'] else []

def columnAfterBreak (p : Place) (next : Option Char) : Nat :=
  if next = some ' ' then p.indent + 1 else p.indent

/-- `inner` tells that a character has been written, `afterEscape` that it was escaped.
A line may be broken before a space, and on either side of an escape. -/
def doubleChars (p : Place) : (inner afterEscape : Bool) → (column : Nat) →
    List Char → List Char
  | _, _, _, [] => []
  | inner, afterEscape, column, c :: rest =>
      let mayBreak := p.folds && inner && !rest.isEmpty
      match escape? c with
      | some e =>
          let column := column + e.length
          if mayBreak && decide (column - 1 > foldColumn) then
            e ++ brokenLine p rest.head? ++
              doubleChars p true true (columnAfterBreak p rest.head?) rest
          else e ++ doubleChars p true true column rest
      | none =>
          if mayBreak && (c = ' ' || afterEscape) && decide (column > foldColumn) then
            brokenLine p (some c) ++
              c :: doubleChars p true false (columnAfterBreak p (some c) + 1) rest
          else c :: doubleChars p true false (column + 1) rest

/-! ## Writing -/

/-- A text as it is written at a place. -/
def writeText (p : Place) (s : String) : String :=
  let cs := s.toList
  match styleOf s with
  | .plain => String.ofList (plainChars p false p.column cs)
  | .single =>
      String.ofList (singleQuote :: singleChars p .opening (p.column + 1) cs ++ [singleQuote])
  | .double =>
      String.ofList
        (doubleQuote :: doubleChars p false false (p.column + 1) cs ++ [doubleQuote])

end CortexFlags.Yaml
