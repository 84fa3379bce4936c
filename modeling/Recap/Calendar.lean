/-!
# Dates and times of day

Times are milliseconds since the beginning of 1970. Dates are those of the Gregorian calendar,
extended in both directions.

## Contents
- `Moment`, `Moment.ofMillis` — a point in time, taken apart.
- `Moment.rfc3339`, `Moment.readable?` — its two texts.
-/

namespace Recap

/-- A point in time, taken apart. -/
structure Moment where
  year : Int
  month : Nat
  day : Nat
  hour : Nat
  minute : Nat
  second : Nat
  milli : Nat
  deriving DecidableEq, Repr

namespace Moment

/-- Days from the first of March of the year 0 to the beginning of 1970. -/
def epochDays : Int := 719468

/-- Days in four hundred years. -/
def eraDays : Int := 146097

/-- Year, month and day of a number of days since the beginning of 1970. Years are counted from
    March on, so that a leap day ends its year. -/
def dateOfDays (days : Int) : Int × Nat × Nat :=
  let z := days + epochDays
  let era := z.fdiv eraDays
  let doe := (z.fmod eraDays).toNat
  let yoe := (doe - doe / 1460 + doe / 36524 - doe / 146096) / 365
  let doy := doe - (365 * yoe + yoe / 4 - yoe / 100)
  let mp := (5 * doy + 2) / 153
  let day := doy - (153 * mp + 2) / 5 + 1
  let month := if mp < 10 then mp + 3 else mp - 9
  let year := (yoe : Int) + era * 400 + (if month ≤ 2 then 1 else 0)
  (year, month, day)

/-- Milliseconds in a day. -/
def dayMillis : Int := 86400000

/-- The point in time that many milliseconds after the beginning of 1970. -/
def ofMillis (millis : Int) : Moment :=
  let (year, month, day) := dateOfDays (millis.fdiv dayMillis)
  let rest := (millis.fmod dayMillis).toNat
  { year, month, day
    hour := rest / 3600000
    minute := rest / 60000 % 60
    second := rest / 1000 % 60
    milli := rest % 1000 }

/-- A number with zeros in front, up to the given width. -/
def padded (width n : Nat) : String :=
  let digits := Nat.repr n
  String.ofList (List.replicate (width - digits.length) '0') ++ digits

/-- A year has four digits; outside of 0 to 9999 it has a sign too. -/
def yearText (year : Int) : String :=
  let sign := if year < 0 then "-" else if 9999 < year then "+" else ""
  sign ++ padded 4 year.natAbs

/-- The date, with hyphens. -/
def dateText (m : Moment) : String :=
  yearText m.year ++ "-" ++ padded 2 m.month ++ "-" ++ padded 2 m.day

/-- The time of day, with colons. -/
def timeText (m : Moment) : String :=
  padded 2 m.hour ++ ":" ++ padded 2 m.minute ++ ":" ++ padded 2 m.second

/-- Date and time in one word; milliseconds only where there are some. -/
def rfc3339 (m : Moment) : String :=
  m.dateText ++ "T" ++ m.timeText ++ (if m.milli = 0 then "" else "." ++ padded 3 m.milli) ++ "+00:00"

/-- The years that have dates. -/
def isDated (year : Int) : Bool := -262143 ≤ year && year ≤ 262142

/-- Date and time for readers, if the year has dates. -/
def readable? (m : Moment) : Option String :=
  if isDated m.year then some (m.dateText ++ " " ++ m.timeText ++ " UTC") else none

end Moment

end Recap
