import CortexFlags.Text.Percent

/-! Points in time, shown as a date and a time of day in universal time. -/

namespace CortexFlags

/-- Seconds since the start of 1970, and milliseconds after them. -/
structure Timestamp where
  seconds : Int
  millis : Nat
deriving DecidableEq, Repr

/-- A day of the calendar. -/
structure Date where
  year : Int
  month : Nat
  day : Nat
deriving DecidableEq, Repr

/-- The day that comes a number of days after the first of January 1970. The count
goes in eras of 400 years, and in years that start in March. -/
def Date.ofDays (days : Int) : Date :=
  let fromMarch := days + 719468
  let era := fromMarch / 146097
  let dayOfEra := (fromMarch % 146097).toNat
  let yearOfEra := (dayOfEra - dayOfEra / 1460 + dayOfEra / 36524 - dayOfEra / 146096) / 365
  let dayOfYear := dayOfEra - (365 * yearOfEra + yearOfEra / 4 - yearOfEra / 100)
  let monthFromMarch := (5 * dayOfYear + 2) / 153
  let day := dayOfYear - (153 * monthFromMarch + 2) / 5 + 1
  let month := if monthFromMarch < 10 then monthFromMarch + 3 else monthFromMarch - 9
  let year := Int.ofNat yearOfEra + era * 400
  ⟨if month ≤ 2 then year + 1 else year, month, day⟩

example : Date.ofDays 0 = ⟨1970, 1, 1⟩ := by decide
example : Date.ofDays (-1) = ⟨1969, 12, 31⟩ := by decide
example : Date.ofDays 11016 = ⟨2000, 2, 29⟩ := by decide

namespace Timestamp

private def padded (width n : Nat) : String := Text.Percent.zeroPad width (toString n)

def date (t : Timestamp) : Date := Date.ofDays (t.seconds / 86400)

def secondOfDay (t : Timestamp) : Nat := (t.seconds % 86400).toNat

/-- Date, time of day and milliseconds. -/
def text (t : Timestamp) : String :=
  let d := t.date
  let s := t.secondOfDay
  let day := s!"{d.year}-{padded 2 d.month}-{padded 2 d.day}"
  let time := s!"{padded 2 (s / 3600)}:{padded 2 (s / 60 % 60)}:{padded 2 (s % 60)}"
  s!"{day} {time},{padded 3 t.millis}"

end Timestamp

end CortexFlags
