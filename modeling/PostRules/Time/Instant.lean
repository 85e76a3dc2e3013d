/-!
# Instants of time

An instant is a day of the proleptic Gregorian calendar, counted from 1970-01-01, the seconds
into that day in UTC, and nanoseconds. Nanoseconds stay below a second except within a leap
second, which is the last second of its minute stretched to twice its length: `23:59:59` with a
nanosecond count of a second or more is written `23:59:60`.

Instants are ordered by day, then second, then nanosecond, so a leap second falls between the
second before it and the next minute.

## Contents

* `daysFromCivil`, `civilFromDays`: the calendar, both ways.
* `Instant.shift`: moving an instant by whole seconds, keeping its fraction.
* `Instant.rfc3339`: the RFC 3339 text, with `+00:00` or `Z`, and 0, 3, 6 or 9 fraction digits.
-/

namespace PostRules.Time

/-- Whether a year of the Gregorian calendar is a leap year. -/
def isLeapYear (y : Int) : Bool :=
  (y % 4 == 0 && y % 100 != 0) || y % 400 == 0

/-- The number of days in a month of a year. -/
def daysInMonth (y : Int) (m : Nat) : Nat :=
  match m with
  | 1 | 3 | 5 | 7 | 8 | 10 | 12 => 31
  | 4 | 6 | 9 | 11 => 30
  | 2 => if isLeapYear y then 29 else 28
  | _ => 0

/-- The earliest year a date may have. -/
def minYear : Int := -262144

/-- The latest year a date may have. -/
def maxYear : Int := 262143

/-- Whether a year, month and day name a date that can be represented. -/
def validDate (y : Int) (m d : Nat) : Bool :=
  minYear ≤ y && y ≤ maxYear && 1 ≤ m && m ≤ 12 && 1 ≤ d && d ≤ daysInMonth y m

/-- The number of days from 1970-01-01 to a date. -/
def daysFromCivil (y : Int) (m d : Nat) : Int :=
  let y := if m ≤ 2 then y - 1 else y
  let era := Int.fdiv y 400
  let yoe := y - era * 400
  let mp : Int := if m > 2 then m - 3 else m + 9
  let doy := (153 * mp + 2) / 5 + d - 1
  let doe := yoe * 365 + yoe / 4 - yoe / 100 + doy
  era * 146097 + doe - 719468

/-- The date a number of days after 1970-01-01: year, month and day. -/
def civilFromDays (z : Int) : Int × Nat × Nat :=
  let z := z + 719468
  let era := Int.fdiv z 146097
  let doe := z - era * 146097
  let yoe := (doe - doe / 1460 + doe / 36524 - doe / 146096) / 365
  let doy := doe - (365 * yoe + yoe / 4 - yoe / 100)
  let mp := (5 * doy + 2) / 153
  let d := doy - (153 * mp + 2) / 5 + 1
  let m := if mp < 10 then mp + 3 else mp - 9
  let y := yoe + era * 400
  (if m ≤ 2 then y + 1 else y, m.toNat, d.toNat)

/-- A moment in UTC. -/
structure Instant where
  /-- Days since 1970-01-01. -/
  day : Int
  /-- Seconds into the day, below 86400. -/
  second : Nat
  /-- Nanoseconds into the second; a second or more only within a leap second. -/
  nano : Nat
  deriving DecidableEq, Repr, Inhabited

namespace Instant

/-- The order of instants: by day, then second, then nanosecond. -/
def compare (a b : Instant) : Ordering :=
  (Ord.compare a.day b.day).then ((Ord.compare a.second b.second).then (Ord.compare a.nano b.nano))

instance : Ord Instant := ⟨compare⟩

/-- The instant at a date and time of day. -/
def ofCivil (y : Int) (m d hour minute second nano : Nat) : Instant :=
  { day := daysFromCivil y m d, second := hour * 3600 + minute * 60 + second, nano }

/-- The instant a number of seconds later (or earlier, when negative); the fraction stays. -/
def shift (t : Instant) (seconds : Int) : Instant :=
  let total : Int := t.second + seconds
  { t with day := t.day + Int.fdiv total 86400, second := (Int.fmod total 86400).toNat }

/-- The year of an instant's date. -/
def year (t : Instant) : Int :=
  (civilFromDays t.day).1

/-- Whether an instant lies within the dates that can be represented. -/
def inRange (t : Instant) : Bool :=
  minYear ≤ t.year && t.year ≤ maxYear

/-- A number written with at least `width` digits. -/
def padded (width : Nat) (n : Nat) : String :=
  let s := toString n
  String.ofList (List.replicate (width - s.length) '0') ++ s

/-- The text of a year: four digits, or a sign and at least four digits outside 0 to 9999. -/
def yearText (y : Int) : String :=
  if 0 ≤ y && y ≤ 9999 then padded 4 y.toNat
  else (if y < 0 then "-" else "+") ++ padded 4 y.natAbs

/-- The fraction of a second as written: nothing for none, else 3, 6 or 9 digits, the fewest
that hold it exactly. -/
def fractionText (nano : Nat) : String :=
  if nano == 0 then ""
  else if nano % 1000000 == 0 then "." ++ padded 3 (nano / 1000000)
  else if nano % 1000 == 0 then "." ++ padded 6 (nano / 1000)
  else "." ++ padded 9 nano

/-- The RFC 3339 text of an instant in UTC, ending in `Z` when `zulu`, else in `+00:00`. -/
def rfc3339 (t : Instant) (zulu : Bool) : String :=
  let (y, m, d) := civilFromDays t.day
  let leap := t.nano ≥ 1000000000
  let nano := if leap then t.nano - 1000000000 else t.nano
  let sec := t.second % 60 + (if leap then 1 else 0)
  yearText y ++ "-" ++ padded 2 m ++ "-" ++ padded 2 d ++ "T" ++
    padded 2 (t.second / 3600) ++ ":" ++ padded 2 (t.second / 60 % 60) ++ ":" ++ padded 2 sec ++
    fractionText nano ++ (if zulu then "Z" else "+00:00")

end Instant

end PostRules.Time
