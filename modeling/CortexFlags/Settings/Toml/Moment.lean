import CortexFlags.Settings.Value
import CortexFlags.Text.Numeral

/-! Days and times in TOML: a day, a time of day, or both with a letter or a blank between
them and perhaps the zone of the clock. -/

namespace CortexFlags.Settings.Toml

/-- The number of two digits, and what follows them. -/
def twoDigits? : List Char → Option (Nat × List Char)
  | a :: b :: rest =>
      if a.isDigit && b.isDigit then some (Text.digitsValue 10 [a, b], rest) else none
  | _ => none

/-- What follows a character that must stand there. -/
def after? (c : Char) : List Char → Option (List Char)
  | [] => none
  | d :: rest => if d = c then some rest else none

/-- A year of any length, a month and a day. -/
def day? (cs : List Char) : Option (Day × List Char) := do
  let year := cs.takeWhile Char.isDigit
  if year.isEmpty then none
  let (month, rest) ← twoDigits? (← after? '-' (cs.drop year.length))
  let (day, rest) ← twoDigits? (← after? '-' rest)
  return (← Day.of? (Text.digitsValue 10 year) month day, rest)

/-- The millionths of a second that digits after a point stand for; further ones are left out. -/
def micros (digits : List Char) : Nat :=
  Text.digitsValue 10 ((digits ++ List.replicate 6 '0').take 6)

/-- Hours, minutes and seconds, and perhaps a point and a fraction of a second. -/
def clock? (cs : List Char) : Option (Clock × List Char) := do
  let (hour, rest) ← twoDigits? cs
  let (minute, rest) ← twoDigits? (← after? ':' rest)
  let (second, rest) ← twoDigits? (← after? ':' rest)
  match rest with
  | '.' :: rest =>
      let fraction := rest.takeWhile Char.isDigit
      if fraction.isEmpty then none
      return (← Clock.of? hour minute second (micros fraction), rest.drop fraction.length)
  | rest => return (← Clock.of? hour minute second 0, rest)

/-- The minutes that a clock is ahead of universal time, unless nothing is said of it. A bar
counts as a plus. -/
def zone? : List Char → Option (Option Int)
  | [] => some none
  | ['Z'] | ['z'] => some (some 0)
  | sign :: rest => do
      if !(['+', '-', '|'].contains sign) then none
      let (hours, rest) ← twoDigits? rest
      let (minutes, rest) ← twoDigits? (← after? ':' rest)
      if hours ≥ 24 || minutes ≥ 60 || !rest.isEmpty then none
      let ahead : Int := hours * 60 + minutes
      return some (if sign = '-' then -ahead else ahead)

/-- The day, the time of day or the moment that a text stands for. -/
def moment? (cs : List Char) : Option Value :=
  match day? cs with
  | some (d, []) => some (.day d)
  | some (d, sep :: rest) => do
      if !(['T', 't', ' '].contains sep) then none
      let (t, rest) ← clock? rest
      return .moment d t (← zone? rest)
  | none =>
      match clock? cs with
      | some (t, []) => some (.clock t)
      | _ => none

example : moment? "1979-05-27t07:32:00.5-01:30".toList =
    some (.moment ⟨1979, 5, 27, by decide⟩ ⟨7, 32, 0, 500000, by decide⟩ (some (-90))) := by
  cbv

end CortexFlags.Settings.Toml
