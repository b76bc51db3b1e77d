import CortexFlags.Text.Rounding

/-! Whole numbers written as floats: in full, with a power of ten, or in whichever of the
two forms suits the number of digits asked for. -/

namespace CortexFlags.Text.FloatText

/-- How a number is written: with a number of decimal places, with one digit before the
point and a number of places after it, or with a number of digits in all. -/
inductive Form
  | fixed | scientific | general
deriving DecidableEq, Repr

def zeros (count : Nat) : String := String.ofList (List.replicate count '0')

/-- Digits before and after the point, which stands there only if digits follow or it is
asked for. -/
def pointed (keepPoint : Bool) (whole fraction : String) : String :=
  if fraction.isEmpty && !keepPoint then whole else whole ++ "." ++ fraction

/-- Digits without the zeros at their end. -/
def stripZeros (digits : String) : String :=
  String.ofList (digits.toList.reverse.dropWhile (· = '0')).reverse

/-- The digits of a number rounded to some of them, and the power of ten of the first. -/
def significant (count n : Nat) : String × Nat :=
  let l := leading 10 count n
  let digits := toString l.digits
  (digits ++ zeros (count - digits.length), digits.length + l.cut - 1)

def fixed (keepPoint : Bool) (places n : Nat) : String :=
  pointed keepPoint (toString n) (zeros places)

/-- A power of ten, shown with two digits at least. -/
def power (upper : Bool) (n : Nat) : String :=
  (if upper then "E+" else "e+") ++ (if n < 10 then "0" else "") ++ toString n

/-- The first digit, the other digits after a point, and the power of ten. -/
def withPower (keepPoint upper : Bool) (digits : String) (n : Nat) : String :=
  let cs := digits.toList
  pointed keepPoint (String.ofList (cs.take 1)) (String.ofList (cs.drop 1)) ++ power upper n

def scientific (keepPoint upper : Bool) (places n : Nat) : String :=
  let (digits, first) := significant (places + 1) n
  withPower keepPoint upper digits first

/-- A power of ten is shown if the number has more digits than are asked for. Zeros at the
end of a fraction are shown only with a point that is kept. -/
def general (keepPoint upper : Bool) (count n : Nat) : String :=
  let count := max count 1
  let (digits, first) := significant count n
  let strip (s : String) : String := if keepPoint then s else stripZeros s
  if first < count then
    let whole := digits.toList.take (first + 1)
    let fraction := String.ofList (digits.toList.drop (first + 1))
    pointed keepPoint (String.ofList whole) (strip fraction)
  else
    let fraction := strip (String.ofList (digits.toList.drop 1))
    withPower keepPoint upper (String.ofList (digits.toList.take 1) ++ fraction) first

/-- The float nearest to a number in some form, if there is one. -/
def render (form : Form) (keepPoint upper : Bool) (precision n : Nat) : Option String := do
  let n ← nearestFloat? n
  match form with
  | .fixed => return fixed keepPoint precision n
  | .scientific => return scientific keepPoint upper precision n
  | .general => return general keepPoint upper precision n

end CortexFlags.Text.FloatText
