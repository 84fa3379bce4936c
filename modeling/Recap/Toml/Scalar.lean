import Recap.Decimal.Rounding
import Recap.Toml.Item

/-!
# TOML numbers and dates

A value that is neither quoted nor bracketed is one word: a truth value, a number, a date or a time.
A number that is too large is still a number: it is missed only by a reader who comes to it.

## Contents
- `dropUnderscores?` — digits with underscores between them.
- `readInteger?`, `readRadix?`, `readDecimal?`, `readNumber?` — numbers.
- `isDate`, `isTime`, `isDatetime` — dates and times.
- `readWord?` — the value of a word.
-/

namespace Recap.Toml

/-! ## Digits -/

/-- Whether a character is a hexadecimal digit. -/
def isHex (c : Char) : Bool := c.isDigit || ('a' ≤ c && c ≤ 'f') || ('A' ≤ c && c ≤ 'F')

/-- The value of a digit, up to hexadecimal. -/
def digitValue (c : Char) : Nat :=
  if c.isDigit then c.toNat - '0'.toNat
  else if 'a' ≤ c && c ≤ 'f' then c.toNat - 'a'.toNat + 10
  else c.toNat - 'A'.toNat + 10

/-- A written number without its underscores, each of which stands between two digits. -/
def dropUnderscores? (isDigit : Char → Bool) : List Char → Option (List Char)
  | [] => some []
  | '_' :: _ => none
  | c :: '_' :: d :: cs =>
    if isDigit c && isDigit d then (dropUnderscores? isDigit (d :: cs)).map (c :: ·) else none
  | c :: cs => (dropUnderscores? isDigit cs).map (c :: ·)

/-- The number of digits in a base. -/
def digitsToNat (base : Nat) (ds : List Char) : Nat := ds.foldl (fun n d => n * base + digitValue d) 0

/-- The sign of a number: whether there is one, and whether it is a minus. -/
structure Sign where
  written : Bool
  negative : Bool
  deriving DecidableEq, Repr

/-- A word without its sign. -/
def splitSign : List Char → Sign × List Char
  | '-' :: cs => (⟨true, true⟩, cs)
  | '+' :: cs => (⟨true, false⟩, cs)
  | cs => (⟨false, false⟩, cs)

/-! ## Integers -/

/-- The range of integers that can be told apart: 128 bits, signed or unsigned. -/
def inWideRange (i : Int) : Bool :=
  -0x80000000000000000000000000000000 ≤ i && i < 0x100000000000000000000000000000000

/-- Whether a number begins with a zero that it does not need. -/
def hasIdleZero : List Char → Bool
  | '0' :: _ :: _ => true
  | _ => false

/-- An integer in base ten. Only the characters next to underscores are looked at: one that does not
    spell a number after all has no value. -/
def readInteger? (sign : Sign) (cs : List Char) : Option Item :=
  if cs.isEmpty || hasIdleZero cs then none
  else (dropUnderscores? isHex cs).map fun ds =>
    let n : Int := digitsToNat 10 ds
    let i := if sign.negative then -n else n
    .integer (if ds.all Char.isDigit && inWideRange i then some i else none)

/-- An integer in another base. -/
def readRadix? (base : Nat) (isDigit : Char → Bool) (cs : List Char) : Option Item :=
  match dropUnderscores? isDigit cs with
  | some (d :: ds) =>
    let i : Int := digitsToNat base (d :: ds)
    if (d :: ds).all isDigit then some (.integer (if inWideRange i then some i else none)) else none
  | _ => none

/-! ## Doubles -/

/-- No double other than zero is this many places away from the point. -/
def farPlaces : Int := 400

/-- The double nearest to `digits · 10^power`; `none` beyond the range of doubles. -/
def toFloat? (digits : List Char) (power : Int) : Option Float :=
  let n := digitsToNat 10 digits
  let top := (digits.dropWhile (· == '0')).length + power
  if n = 0 then some 0.0
  else if farPlaces < top then none
  else if top < -farPlaces then some 0.0
  else
    let x := if 0 ≤ power then Float.ofScientific (n * Decimal.pow10 power.toNat) false 0
      else Float.ofScientific n true power.natAbs
    if x.isInf then none else some x

/-- Digits, and at least one of them. -/
def digits? (cs : List Char) : Option (List Char) :=
  if cs.isEmpty || !cs.all Char.isDigit then none else some cs

/-- The power of ten that ends a number. -/
def readPower? (cs : List Char) : Option Int :=
  let (sign, digits) := splitSign cs
  (digits? digits).map fun ds =>
    let n : Int := digitsToNat 10 ds
    if sign.negative then -n else n

/-- Cuts a word at the first character of a class; that character is dropped. -/
def cutAt (p : Char → Bool) (cs : List Char) : List Char × Option (List Char) :=
  (cs.takeWhile (!p ·), (cs.dropWhile (!p ·)).tail?)

/-- The characters that only a double has. -/
def isFloatMark (c : Char) : Bool := c == '.' || c == 'e' || c == 'E'

/-- A number with a point, a power of ten, or both. -/
def readDecimal? (sign : Sign) (cs : List Char) : Option Item := do
  let plain ← dropUnderscores? Char.isDigit cs
  let (mantissa, power) := cutAt (fun c => c == 'e' || c == 'E') plain
  let (whole, fraction) := cutAt (· == '.') mantissa
  let ws ← digits? whole
  let fs ← match fraction with
    | some f => digits? f
    | none => some []
  let p ← match power with
    | some p => readPower? p
    | none => some 0
  if hasIdleZero ws then none
  else
    let magnitude := toFloat? (ws ++ fs) (p - fs.length)
    return .float (magnitude.map fun x => if sign.negative then -x else x)

/-- A number with or without a sign; only one in base ten may have one. -/
def readNumber? (cs : List Char) : Option Item :=
  let (sign, digits) := splitSign cs
  let signed (x : Float) : Float := if sign.negative then -x else x
  match digits with
  | ['i', 'n', 'f'] => some (.float (some (signed (1.0 / 0.0))))
  | ['n', 'a', 'n'] => some (.float (some (signed (0.0 / 0.0))))
  | '0' :: 'x' :: ds => if sign.written then none else readRadix? 16 isHex ds
  | '0' :: 'o' :: ds =>
    if sign.written then none else readRadix? 8 (fun c => '0' ≤ c && c ≤ '7') ds
  | '0' :: 'b' :: ds =>
    if sign.written then none else readRadix? 2 (fun c => c == '0' || c == '1') ds
  | ds =>
    match ds.dropWhile Char.isDigit with
    | [] => readInteger? sign ds
    | c :: rest =>
      if (c :: rest).any isFloatMark then readDecimal? sign ds
      else if c == '_' then readInteger? sign ds
      else none

/-! ## Dates and times -/

/-- A number of exactly `width` digits within bounds, and what follows it. -/
def takeNumber (width low high : Nat) (cs : List Char) : Option (Nat × List Char) :=
  let ds := cs.take width
  if ds.length = width && ds.all Char.isDigit then
    let n := digitsToNat 10 ds
    if low ≤ n && n ≤ high then some (n, cs.drop width) else none
  else none

/-- Passes one of the given characters. -/
def pass (allowed : List Char) : List Char → Option (List Char)
  | c :: cs => if allowed.contains c then some cs else none
  | [] => none

/-- The number of days in a month. -/
def daysIn (year month : Nat) : Nat :=
  if month = 2 then
    if year % 4 = 0 && (year % 100 ≠ 0 || year % 400 = 0) then 29 else 28
  else if month = 4 || month = 6 || month = 9 || month = 11 then 30
  else 31

/-- A date, and what follows it. -/
def takeDate (cs : List Char) : Option (List Char) := do
  let (year, cs) ← takeNumber 4 0 9999 cs
  let cs ← pass ['-'] cs
  let (month, cs) ← takeNumber 2 1 12 cs
  let cs ← pass ['-'] cs
  let (_, cs) ← takeNumber 2 1 (daysIn year month) cs
  return cs

/-- A part of a second. -/
def takeFraction : List Char → Option (List Char)
  | '.' :: c :: cs => if c.isDigit then some (cs.dropWhile Char.isDigit) else none
  | '.' :: [] => none
  | cs => some cs

/-- The seconds of a time, which may be missing. -/
def takeSeconds : List Char → Option (List Char)
  | ':' :: cs => do
    let (_, cs) ← takeNumber 2 0 60 cs
    takeFraction cs
  | cs => some cs

/-- A time of day, and what follows it. -/
def takeTime (cs : List Char) : Option (List Char) := do
  let (_, cs) ← takeNumber 2 0 23 cs
  let cs ← pass [':'] cs
  let (_, cs) ← takeNumber 2 0 59 cs
  takeSeconds cs

/-- A distance from the standard time, which may be missing. -/
def takeOffset : List Char → Option (List Char)
  | [] => some []
  | 'Z' :: cs | 'z' :: cs => some cs
  | cs => do
    let cs ← pass ['+', '-'] cs
    let (_, cs) ← takeNumber 2 0 23 cs
    let cs ← pass [':'] cs
    let (_, cs) ← takeNumber 2 0 59 cs
    return cs

/-- Whether a word is a date and nothing else. -/
def isDate (cs : List Char) : Bool := takeDate cs == some []

/-- Whether a word is a time and nothing else. -/
def isTime (cs : List Char) : Bool := takeTime cs == some []

/-- Whether a word is a date and a time. -/
def isDateWithTime (cs : List Char) : Bool :=
  (do takeOffset (← takeTime (← pass ['T', 't', ' '] (← takeDate cs)))) == some []

/-- Whether a word is a date, a time, or both. -/
def isDatetime (cs : List Char) : Bool := isDate cs || isTime cs || isDateWithTime cs

/-! ## Words -/

/-- The value of a word. -/
def readWord? (cs : List Char) : Option Item :=
  if cs = ['t', 'r', 'u', 'e'] then some (.boolean true)
  else if cs = ['f', 'a', 'l', 's', 'e'] then some (.boolean false)
  else if isDatetime cs then some (.datetime (String.ofList cs))
  else readNumber? cs

end Recap.Toml
