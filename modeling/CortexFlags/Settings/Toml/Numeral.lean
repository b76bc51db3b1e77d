import CortexFlags.Settings.Value
import CortexFlags.Text.Numeral
import CortexFlags.Text.Rounding

/-! Numbers in TOML: whole numbers in four bases, decimals with a power of ten, the
infinities, and the float that is no number. -/

namespace CortexFlags.Settings.Toml

open Text (integer? joinDigits isDigitOf numeralChars splitSign)

/-! ## Floats -/

/-- Whether the float nearest to a number is infinite. -/
def overflows (n : Nat) : Bool := (Text.nearestFloat? n).isNone

/-- The float of digits and a power of ten. Powers that make it too large or too small
in any case are not worked out. -/
def float (negative : Bool) (digits : Nat) (power : Int) : Value :=
  let size := power + (Nat.toDigits 10 digits).length
  if digits = 0 ∨ size < -400 then .decimal negative 0 1
  else if size > 400 then .infinite negative
  else if power < 0 then
    if overflows (digits / Nat.pow 10 (-power).toNat) then .infinite negative
    else .decimal negative digits (-power).toNat
  else
    let n := digits * Nat.pow 10 power.toNat
    if overflows n then .infinite negative else .decimal negative (n * 10) 1

/-- A power of ten: digits after an optional sign. -/
def power? (cs : List Char) : Option Int := do
  let (negative, digits) := splitSign cs
  if digits.isEmpty || !digits.all Char.isDigit then none
  else
    let n := Int.ofNat (Text.digitsValue 10 digits)
    some (if negative then -n else n)

/-- Digits with perhaps a point among or beside them: all digits, and the number of
those after the point. -/
def mantissa? (cs : List Char) : Option (List Char × Nat) :=
  let whole := cs.takeWhile Char.isDigit
  match cs.dropWhile Char.isDigit with
  | [] => if whole.isEmpty then none else some (whole, 0)
  | '.' :: fraction =>
      if !fraction.all Char.isDigit || (whole ++ fraction).isEmpty then none
      else some (whole ++ fraction, fraction.length)
  | _ :: _ => none

/-- The float that lower-case characters without a sign stand for. -/
def unsignedFloat? (negative : Bool) (cs : List Char) : Option Value :=
  if cs = "inf".toList ∨ cs = "infinity".toList then some (.infinite negative)
  else if cs = "nan".toList then some .undefined
  else do
    let (digits, places) ← mantissa? (cs.takeWhile (· != 'e'))
    let power ← match cs.dropWhile (· != 'e') with
      | [] => some 0
      | _ :: power => power? power
    return float negative (Text.digitsValue 10 digits) (power - places)

/-- The float that a text stands for. -/
def float? (cs : List Char) : Option Value :=
  let (negative, cs) := splitSign (numeralChars cs)
  unsignedFloat? negative cs

/-! ## Numbers -/

/-- Marks that make a number one of another base than ten. -/
def baseOf (cs : List Char) : Nat :=
  match cs with
  | '0' :: 'x' :: _ => 16
  | '0' :: 'o' :: _ => 8
  | '0' :: 'b' :: _ => 2
  | _ => 10

/-- A zero may stand in front only by itself, or before a point, a power or the mark of
a base; a mark stands without sign, and a point after a sign needs a digit before it. -/
def startsWell (isSigned : Bool) (cs : List Char) : Bool :=
  match cs with
  | '0' :: c :: _ =>
      if ['x', 'o', 'b'].contains c then !isSigned else c = '.' || c = 'e'
  | '.' :: _ :: _ => !isSigned
  | _ => true

/-- A point ends neither the number nor what stands before its power of ten. -/
def endsWell (base : Nat) (cs : List Char) : Bool :=
  cs.getLast? != some '.' &&
    (base = 16 || (cs.takeWhile (· != 'e')).getLast? != some '.')

/-- The number that a word stands for, whole if it can be. Digits alone are never a
float, however many they are. -/
def number? (word : List Char) : Option Value := do
  let sign := word.takeWhile fun c => c = '+' || c = '-'
  let (sign, cs) := (sign.take 1, word.drop (sign.take 1).length)
  let base := baseOf cs
  if !startsWell (!sign.isEmpty) cs then none
  let cs := (← joinDigits (isDigitOf base) cs).map Char.toLower
  if !endsWell base cs then none
  match integer? base (sign ++ cs) with
  | some n => return .int n
  | none =>
      if cs.any fun c => ['.', 'e', 'n', 'i'].contains c then float? (sign ++ cs) else none

end CortexFlags.Settings.Toml
