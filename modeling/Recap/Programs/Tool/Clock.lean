import Recap.Calendar

/-!
# Times in a format

A format has conversions of a percent sign and a letter, with flags and a width between them. Times are those
of the zone whose clocks show Greenwich time.

## Contents
- `Stamp`, `Stamp.ofSeconds` — a point in time, with its place in the week and the year.
- `timeText` — a time in a format.
-/

namespace Recap.Tool

/-- A point in time, with its place in the week and the year. -/
structure Stamp where
  /-- Seconds since the beginning of 1970. -/
  seconds : Int
  moment : Moment
  /-- Days since Sunday. -/
  weekday : Nat
  /-- Days since the beginning of the year. -/
  yearday : Nat

/-- The days before a month of a year. -/
def daysBefore (year : Int) (month : Nat) : Nat :=
  let leap := year % 4 == 0 && (year % 100 != 0 || year % 400 == 0)
  let lengths := [31, if leap then 29 else 28, 31, 30, 31, 30, 31, 31, 30, 31, 30, 31]
  (lengths.take (month - 1)).foldl (· + ·) 0

namespace Stamp

/-- A number of seconds since the beginning of 1970. -/
def ofSeconds (seconds : Int) : Stamp :=
  let moment := Moment.ofMillis (seconds * 1000)
  { seconds, moment, weekday := ((seconds.fdiv 86400 + 4) % 7).toNat
    yearday := daysBefore moment.year moment.month + (moment.day - 1) }

/-- The names of the days. -/
def dayNames : List String := ["Sunday", "Monday", "Tuesday", "Wednesday", "Thursday", "Friday", "Saturday"]

/-- The names of the months. -/
def monthNames : List String :=
  ["January", "February", "March", "April", "May", "June", "July", "August", "September", "October", "November",
    "December"]

/-- The week of the year, when weeks begin with a day and the first such day begins the first week. -/
def weekFrom (s : Stamp) (first : Nat) : Nat := (s.yearday + 7 - (s.weekday + 7 - first) % 7) / 7

/-- Whether a year has a week of which most days are in it after fifty-two others. -/
def hasLongYear (year : Int) : Bool :=
  let weekdayOfEnd (y : Int) : Int := (y + y.fdiv 4 - y.fdiv 100 + y.fdiv 400) % 7
  weekdayOfEnd year == 4 || weekdayOfEnd (year - 1) == 3

/-- The year and the week, when weeks begin with Monday and belong to the year that most of their days are in. -/
def isoWeek (s : Stamp) : Int × Nat :=
  let day : Int := ((s.weekday + 6) % 7 : Nat)
  let week := ((s.yearday : Int) - day + 10) / 7
  if week < 1 then (s.moment.year - 1, if hasLongYear (s.moment.year - 1) then 53 else 52)
  else if week == 53 && !hasLongYear s.moment.year then (s.moment.year + 1, 1)
  else (s.moment.year, week.toNat)

end Stamp

/-- What a conversion writes. -/
inductive TimePart where
  /-- A number, with a width and what stands before it. -/
  | number (i : Int) (width : Nat) (filler : Char)
  | text (s : String)
  /-- Another format. -/
  | format (cs : List Char)

/-- What a letter stands for. -/
def timePart? (s : Stamp) (letter : Char) : Option TimePart :=
  let m := s.moment
  let hour := if m.hour % 12 == 0 then 12 else m.hour % 12
  let two (n : Nat) : Option TimePart := some (.number n 2 '0')
  let name (names : List String) (i : Nat) : String := (names[i]?).getD ""
  let short (text : String) : String := String.ofList (text.toList.take 3)
  match letter with
  | 'a' => some (.text (short (name Stamp.dayNames s.weekday)))
  | 'A' => some (.text (name Stamp.dayNames s.weekday))
  | 'b' | 'h' => some (.text (short (name Stamp.monthNames (m.month - 1))))
  | 'B' => some (.text (name Stamp.monthNames (m.month - 1)))
  | 'c' => some (.format "%a %b %e %H:%M:%S %Y".toList)
  | 'C' => some (.number (m.year.fdiv 100) 2 '0')
  | 'd' => two m.day
  | 'D' | 'x' => some (.format "%m/%d/%y".toList)
  | 'e' => some (.number m.day 2 ' ')
  | 'F' => some (.format "%Y-%m-%d".toList)
  | 'g' => some (.number (s.isoWeek.1.fmod 100) 2 '0')
  | 'G' => some (.number s.isoWeek.1 1 '0')
  | 'H' => two m.hour
  | 'I' => two hour
  | 'j' => some (.number (s.yearday + 1 : Nat) 3 '0')
  | 'k' => some (.number m.hour 2 ' ')
  | 'l' => some (.number hour 2 ' ')
  | 'm' => two m.month
  | 'M' => two m.minute
  | 'n' => some (.text "\n")
  | 'p' => some (.text (if m.hour < 12 then "AM" else "PM"))
  | 'P' => some (.text (if m.hour < 12 then "am" else "pm"))
  | 'r' => some (.format "%I:%M:%S %p".toList)
  | 'R' => some (.format "%H:%M".toList)
  | 's' => some (.number s.seconds 1 '0')
  | 'S' => two m.second
  | 't' => some (.text "\t")
  | 'T' | 'X' => some (.format "%H:%M:%S".toList)
  | 'u' => some (.number (if s.weekday == 0 then 7 else s.weekday : Nat) 1 '0')
  | 'U' => two (s.weekFrom 0)
  | 'V' => two s.isoWeek.2
  | 'w' => some (.number s.weekday 1 '0')
  | 'W' => two (s.weekFrom 1)
  | 'y' => some (.number (m.year.fmod 100) 2 '0')
  | 'Y' => some (.number m.year 1 '0')
  | 'z' => some (.text "+0000")
  | 'Z' => some (.text "UTC")
  | '%' => some (.text "%")
  | _ => none

/-- A text behind fillers, up to a width. -/
def fillUp (width : Nat) (filler : Char) (sign text : String) : String :=
  let size := sign.length + text.length
  let fillers := String.ofList (List.replicate (width - size) filler)
  if filler == ' ' then fillers ++ sign ++ text else sign ++ fillers ++ text

/-- A time in a format. `depth` bounds formats within formats, `fuel` is at least the number of characters. -/
def timeTextFrom (s : Stamp) : (depth fuel : Nat) → List Char → String
  | _, 0, _ | _, _, [] => ""
  | depth, fuel + 1, '%' :: cs =>
    let flags := cs.takeWhile "_-0^#+".toList.contains
    let digits := (cs.drop flags.length).takeWhile Char.isDigit
    let width : Nat := digits.foldl (fun n d => n * 10 + (d.toNat - '0'.toNat)) 0
    let after := cs.drop (flags.length + digits.length)
    let after := match after with
      | e :: c :: rest => if e == 'E' || e == 'O' then c :: rest else after
      | after => after
    let chosen := (flags.filter "_-0+".toList.contains).getLast?
    let cased (t : String) : String := if flags.contains '^' then t.map Char.toUpper else t
    match after with
    | [] => "%" ++ String.ofList cs
    | letter :: rest =>
      let shown := match timePart? s letter, depth with
        | none, _ | some (.format _), 0 => "%" ++ String.ofList (cs.take (cs.length - rest.length))
        | some (.number i least filler), _ =>
          let filler := match chosen with
            | some '_' => ' '
            | some '0' | some '+' => '0'
            | _ => filler
          let least := if chosen == some '-' then width else max width least
          fillUp least filler (if i < 0 then "-" else "") (Nat.repr i.natAbs)
        | some (.text t), _ =>
          let t := if flags.contains '#' && letter == 'p' then t.map Char.toLower
            else if flags.contains '#' && letter == 'Z' then t.map Char.toLower
            else if flags.contains '#' then t.map Char.toUpper else cased t
          fillUp width (if chosen == some '0' || letter == 'z' then '0' else ' ') "" t
        | some (.format inner), depth + 1 =>
          fillUp width (if chosen == some '0' then '0' else ' ') "" (cased (timeTextFrom s depth (inner.length + 1) inner))
      shown ++ timeTextFrom s depth fuel rest
  | depth, fuel + 1, c :: cs => c.toString ++ timeTextFrom s depth fuel cs

/-- A time in a format. -/
def timeText (format : String) (seconds : Int) : String :=
  timeTextFrom (.ofSeconds seconds) 2 (format.length + 1) format.toList

end Recap.Tool
