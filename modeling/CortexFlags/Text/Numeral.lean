import CortexFlags.Text.DecimalDigit
import CortexFlags.Text.Hex

/-! Numerals: whole numbers in a base up to sixteen, with a sign, blanks around them,
digits of any script, a mark of the base in front, and underscores between digits. -/

namespace CortexFlags.Text

/-! ## Blanks and digits of all scripts -/

/-- A blank of the basic alphabet. -/
def isPlainBlank (c : Char) : Bool := c = ' ' || (9 ≤ c.toNat && c.toNat ≤ 13)

/-- Ranges of the other blanks, both ends included. -/
def wideBlankRanges : List (Nat × Nat) :=
  [(0x85, 0x85), (0xa0, 0xa0), (0x1680, 0x1680), (0x2000, 0x200a), (0x2028, 0x2029),
    (0x202f, 0x202f), (0x205f, 0x205f), (0x3000, 0x3000)]

def isWideBlank (c : Char) : Bool :=
  wideBlankRanges.any fun range => range.1 ≤ c.toNat && c.toNat ≤ range.2

/-- A digit or blank of any script in the basic alphabet; other characters stay. -/
def plainNumeral (c : Char) : Char :=
  if c.toNat < 128 then c
  else if isWideBlank c then ' '
  else
    match decimalValue? c with
    | some d => Char.ofNat ('0'.toNat + d)
    | none => c

def trim (cs : List Char) : List Char :=
  ((cs.dropWhile isPlainBlank).reverse.dropWhile isPlainBlank).reverse

/-- The characters of a numeral in the basic alphabet, without blanks around them. -/
def numeralChars (cs : List Char) : List Char := trim (cs.map plainNumeral)

/-! ## Digits -/

def isDigitOf (base : Nat) (c : Char) : Bool :=
  match hexValue? c with
  | some d => d < base
  | none => false

/-- The number that digits stand for, most significant first. -/
def digitsValue (base : Nat) (cs : List Char) : Nat :=
  cs.foldl (fun n c => n * base + (hexValue? c).getD 0) 0

/-- Take out underscores, each of which must stand between two digits. -/
def joinDigits (isDigit : Char → Bool) : List Char → Option (List Char)
  | [] => some []
  | a :: '_' :: b :: rest =>
      if isDigit a && isDigit b then do return a :: (← joinDigits isDigit (b :: rest)) else none
  | a :: rest => if a = '_' then none else do return a :: (← joinDigits isDigit rest)

/-! ## Whole numbers -/

/-- The most digits that a numeral of base ten may have. -/
def maxDecimalDigits : Nat := 4300

/-- A sign in front, told apart from what follows. -/
def splitSign : List Char → Bool × List Char
  | '-' :: rest => (true, rest)
  | '+' :: rest => (false, rest)
  | cs => (false, cs)

/-- What follows the mark of a base, which one underscore may end. -/
def dropBaseMark (base : Nat) (cs : List Char) : List Char :=
  match cs with
  | '0' :: mark :: rest =>
      if [(2, 'b'), (8, 'o'), (16, 'x')].lookup base = some mark.toLower then
        match rest with
        | '_' :: rest => rest
        | rest => rest
      else cs
  | _ => cs

/-- The digits of a numeral without sign. -/
def natural? (base : Nat) (cs : List Char) : Option Nat := do
  let digits ← joinDigits (isDigitOf base) (dropBaseMark base cs)
  if digits.isEmpty || !digits.all (isDigitOf base) then none
  else if base = 10 && digits.length > maxDecimalDigits then none
  else some (digitsValue base digits)

/-- The whole number that a text stands for. -/
def integer? (base : Nat) (cs : List Char) : Option Int := do
  let (negative, digits) := splitSign (numeralChars cs)
  let n ← natural? base digits
  return if negative then -Int.ofNat n else Int.ofNat n

example : integer? 16 " -0x_1F\u00a0".toList = some (-31) := by decide
example : integer? 10 "\u0661_2".toList = some 12 := by decide
example : integer? 10 "1__2".toList = none := by decide

end CortexFlags.Text
