import IcuMessage.Failure

/-!
# Civil time

A point in time is a number of milliseconds since the beginning of 1970.  Its
civil date and time are those of the proleptic Gregorian calendar in UTC, for
the years from -9999 to 9999; the year 0 comes before the year 1.

The days are counted in years that begin in March, so that a leap day is the
last day of its year; 400 of these years have 146097 days.
-/

namespace IcuMessage

/-- A date and a time of day. -/
structure CivilDateTime where
  year : Int
  /-- From 1 to 12. -/
  month : Nat
  /-- From 1 to 31. -/
  day : Nat
  /-- From 0 for Monday to 6 for Sunday. -/
  weekday : Nat
  hour : Nat
  minute : Nat
  second : Nat
deriving DecidableEq, Repr

namespace CivilDateTime

/-- The year within a cycle of 400 years for a day of the cycle. -/
def yearOfCycle (day : Nat) : Nat :=
  (day - day / 1460 + day / 36524 - day / 146096) / 365

/-- The date of a day, counted from the beginning of 1970, at a second of it. -/
def ofDay (day : Int) (second : Nat) : CivilDateTime :=
  let fromMarch := day + 719468
  let cycle := fromMarch / 146097
  let dayOfCycle := (fromMarch % 146097).toNat
  let yearInCycle := yearOfCycle dayOfCycle
  let dayOfYear := dayOfCycle - (365 * yearInCycle + yearInCycle / 4 - yearInCycle / 100)
  let monthFromMarch := (5 * dayOfYear + 2) / 153
  let month := if monthFromMarch < 10 then monthFromMarch + 3 else monthFromMarch - 9
  { year := cycle * 400 + yearInCycle + if month ≤ 2 then 1 else 0
    month := month
    day := dayOfYear - (153 * monthFromMarch + 2) / 5 + 1
    weekday := ((day + 3) % 7).toNat
    hour := second / 3600
    minute := second / 60 % 60
    second := second % 60 }

/-- The date and time of a number of milliseconds, for a year in the range. -/
def ofEpochMillis? (millis : Int64) : Option CivilDateTime :=
  let seconds := millis.toInt / 1000
  let civil := ofDay (seconds / 86400) (seconds % 86400).toNat
  if -9999 ≤ civil.year ∧ civil.year ≤ 9999 then some civil else none

end CivilDateTime

end IcuMessage
