/-! Rounding whole numbers to the nearest, a half to the even neighbour. -/

namespace CortexFlags.Text

/-- The whole number nearest to a quotient; of two equally near ones the even one. -/
def divNearest (n d : Nat) : Nat :=
  let q := n / d
  let twice := 2 * (n % d)
  if twice > d ∨ (twice = d ∧ q % 2 = 1) then q + 1 else q

example : divNearest 25 10 = 2 := by decide
example : divNearest 35 10 = 4 := by decide

/-- How many digits a number has in a base; zero has one. -/
def digitCount (base n : Nat) : Nat := (Nat.toDigits base n).length

/-- A number cut to some leading digits in a base: these digits as a number, and how many
digits were cut off. -/
structure Leading where
  digits : Nat
  cut : Nat
deriving DecidableEq, Repr

/-- The nearest number with so many digits at most, apart from zeros at its end. -/
def leading (base count n : Nat) : Leading :=
  let cut := digitCount base n - count
  let digits := divNearest n (Nat.pow base cut)
  if digits = Nat.pow base count then ⟨digits / base, cut + 1⟩ else ⟨digits, cut⟩

/-- The number that is left when the digits that were cut off are zeros. -/
def Leading.value (l : Leading) (base : Nat) : Nat := l.digits * Nat.pow base l.cut

example : (leading 10 2 995).value 10 = 1000 := by decide

/-! ## Floats -/

/-- The binary digits that a float keeps. -/
def floatDigits : Nat := 53

/-- No float reaches this number. -/
def floatBound : Nat := Nat.pow 2 1024

/-- The float nearest to a whole number, unless the number is too large for one. -/
def nearestFloat? (n : Nat) : Option Nat :=
  let nearest := (leading 2 floatDigits n).value 2
  if nearest < floatBound then some nearest else none

example : nearestFloat? 9007199254740993 = some 9007199254740992 := by decide +kernel

end CortexFlags.Text
