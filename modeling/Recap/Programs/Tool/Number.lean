import Recap.Programs.Precision
import Recap.Decimal.Shortest

/-!
# Numbers in columns

How numbers and texts are written where a width, a number of digits and signs are asked for.

## Contents
- `Conversion` — what is asked for.
- `Conversion.text`, `Conversion.whole`, `Conversion.real` — texts, whole numbers and other numbers.
- `takeWritten?`, `takeReal?` — reading numbers.
-/

namespace Recap.Tool

open Decimal (Binary Precision Size Written pow2 pow10 roundHalfEven)

/-- How something is to be written. -/
structure Conversion where
  flags : List Char
  width : Nat
  precision : Option Nat
  letter : Char

namespace Conversion

/-- Whether a flag was given. -/
def has (c : Conversion) (flag : Char) : Bool := c.flags.contains flag

/-- Something in its column. -/
def column {α : Type} (c : Conversion) (blank : α) (cs : List α) : List α :=
  let blanks := List.replicate (c.width - cs.length) blank
  if c.has '-' then cs ++ blanks else blanks ++ cs

/-- Something in its column, cut to the precision. -/
def cut {α : Type} (c : Conversion) (blank : α) (cs : List α) : List α :=
  c.column blank (match c.precision with
    | none => cs
    | some n => cs.take n)

/-- A text in its column. -/
def pad (c : Conversion) (s : String) : String := String.ofList (c.column ' ' s.toList)

/-- The sign of a number. -/
def sign (c : Conversion) (negative : Bool) : String :=
  if negative then "-" else if c.has '+' then "+" else if c.has ' ' then " " else ""

/-- A number in its column, with zeros behind its sign where they are asked for. -/
def number (c : Conversion) (zeros : Bool) (front digits : String) : String :=
  if zeros && c.has '0' && !c.has '-' then
    let size := front.length + digits.length
    front ++ String.ofList (List.replicate (c.width - size) '0') ++ digits
  else c.pad (front ++ digits)

/-- The digits of a number. -/
def digitsIn (base : Nat) (upper : Bool) (n : Nat) : String :=
  let s := String.ofList (Nat.toDigits base n)
  if upper then s.map Char.toUpper else s

/-- A whole number. -/
def whole (c : Conversion) (i : Int) : String :=
  let signed := c.letter == 'd' || c.letter == 'i'
  let n := if signed then i.natAbs else (i % 0x10000000000000000).toNat
  let (base, upper) := match c.letter with
    | 'x' => (16, false)
    | 'X' => (16, true)
    | 'o' => (8, false)
    | _ => (10, false)
  let digits := if n == 0 && c.precision == some 0 then "" else digitsIn base upper n
  let digits := String.ofList (List.replicate (c.precision.getD 0 - digits.length) '0') ++ digits
  let front := if signed then c.sign (i < 0)
    else if c.has '#' && n != 0 then
      match c.letter with
      | 'x' => "0x"
      | 'X' => "0X"
      | 'o' => "0"
      | _ => ""
    else ""
  c.number c.precision.isNone front digits

/-! ## Numbers that are not whole -/

/-- The number of units of the place `10^-places` in `m · 2^q`, rounded. -/
def units (m : Nat) (q places : Int) : Nat :=
  let up := fun (n : Nat) (i : Int) (f : Nat → Nat) => if 0 ≤ i then n * f i.toNat else n
  let num := up (up m q pow2) places pow10
  let den := up (up 1 (-q) pow2) (-places) pow10
  roundHalfEven num den

/-- Digits with a point before the last of them. -/
def pointed (alternate : Bool) (places units : Nat) : String :=
  let digits := Nat.repr units
  let digits := String.ofList (List.replicate (places + 1 - digits.length) '0') ++ digits
  let cs := digits.toList
  let front := String.ofList (cs.take (cs.length - places))
  let back := String.ofList (cs.drop (cs.length - places))
  if places == 0 then if alternate then front ++ "." else front else front ++ "." ++ back

/-- The exponent of the first digit, and the digits of `m · 2^q`, of which there is one before the point
    and `places` behind it. -/
def scientific (m : Nat) (q : Int) (places : Nat) : Int × Nat :=
  if m == 0 then (0, 0)
  else
    let num := if 0 ≤ q then m * pow2 q.toNat else m
    let den := if 0 ≤ q then 1 else pow2 (-q).toNat
    let exponent := Decimal.magnitude num den
    let d := units m q (places - exponent)
    if pow10 (places + 1) ≤ d then (exponent + 1, units m q (places - (exponent + 1))) else (exponent, d)

/-- The text of an exponent, which has at least two digits. -/
def exponentText (upper : Bool) (e : Int) : String :=
  let digits := Nat.repr e.natAbs
  (if upper then "E" else "e") ++ (if e < 0 then "-" else "+") ++ (if digits.length < 2 then "0" else "") ++
    digits

/-- A text without zeros at the end of what is behind a point. -/
def trimZeros (s : String) : String :=
  if s.toList.contains '.' then
    let kept := s.toList.reverse.dropWhile (· == '0')
    String.ofList ((if kept.head? == some '.' then kept.drop 1 else kept).reverse)
  else s

/-- The digits of `m · 2^q`, without a sign. -/
def realDigits (c : Conversion) (m : Nat) (q : Int) : String :=
  let upper := c.letter.isUpper
  let precision := c.precision.getD 6
  let alternate := c.has '#'
  match c.letter.toLower with
  | 'f' => pointed alternate precision (units m q precision)
  | 'e' =>
    let (e, d) := scientific m q precision
    pointed alternate precision d ++ exponentText upper e
  | _ =>
    let precision := max 1 precision
    let (e, d) := scientific m q (precision - 1)
    let trim (s : String) : String := if alternate then s else trimZeros s
    if -4 ≤ e && e < precision then
      let places := ((precision : Int) - 1 - e).toNat
      trim (pointed alternate places (units m q places))
    else trim (pointed alternate (precision - 1) d) ++ exponentText upper e

/-- The digits of `m · 2^q` in base sixteen behind the sign that they are such, and their power of two. The
    first digit holds what is left of the bits of the precision when the others hold four each. -/
def hexDigits (c : Conversion) (p : Precision) (m : Nat) (q : Int) : String :=
  let lead := if p.bits % 4 == 0 then 4 else p.bits % 4
  let places := (p.bits - lead) / 4
  let shift := min (p.bits - (m.log2 + 1)) (q - p.least).toNat
  let m := if m == 0 then 0 else m * pow2 shift
  let e : Int := if m == 0 then 0 else q - shift + (p.bits - lead : Nat)
  let kept := min (c.precision.getD places) places
  let cutOff := pow2 (4 * (places - kept))
  let rounded := roundHalfEven m cutOff
  let first := rounded / pow2 (4 * kept)
  let back := digitsIn 16 false (rounded % pow2 (4 * kept))
  let back := String.ofList (List.replicate (kept - back.length) '0') ++ back
  let back := if kept == 0 then "" else back
  let back := match c.precision with
    | some n => back ++ String.ofList (List.replicate (n - kept) '0')
    | none => String.ofList (back.toList.reverse.dropWhile (· == '0')).reverse
  let (first, e) := if 16 ≤ first then (first / 16, e + 4) else (first, e)
  digitsIn 16 false first ++ (if back.isEmpty && !c.has '#' then "" else ".") ++ back ++
    "p" ++ (if e < 0 then "-" else "+") ++ Nat.repr e.natAbs

/-- A number of a precision, which need not be whole. -/
def real (c : Conversion) (p : Precision) (x : Binary) : String :=
  let cased (s : String) : String := if c.letter.isUpper then s.map Char.toUpper else s
  match x with
  | .notANumber => c.number false (c.sign false) (cased "nan")
  | .infinite negative => c.number false (c.sign negative) (cased "inf")
  | .finite negative m q =>
    if c.letter.toLower == 'a' then c.number true (c.sign negative ++ cased "0x") (cased (c.hexDigits p m q))
    else c.number true (c.sign negative) (c.realDigits m q)

end Conversion

/-! ## Reading numbers -/

/-- The sign at the beginning of a text, and what comes after it. -/
def takeSign : List Char → Bool × List Char
  | '-' :: rest => (true, rest)
  | '+' :: rest => (false, rest)
  | rest => (false, rest)

/-- The exponent behind a number, which begins with one of some letters, and what comes after it. -/
def takeExponent (letters : List Char) (cs : List Char) : Int × List Char :=
  match cs with
  | e :: rest =>
    let (negative, digits) := takeSign rest
    let ds := digits.takeWhile Char.isDigit
    if !letters.contains e || ds.isEmpty then (0, cs)
    else
      let n : Nat := min (ds.foldl (fun n d => n * 10 + (d.toNat - '0'.toNat)) 0) 100000
      (if negative then -(n : Int) else n, digits.drop ds.length)
  | [] => (0, cs)

/-- The digits at the beginning of a text, with a point among them or not, as a whole number and the number of
    those behind the point, and what comes after them. -/
def takePointed? (base : Nat) (isDigit : Char → Bool) (valueOf : Char → Nat) (cs : List Char) :
    Option (Nat × Nat × List Char) :=
  let front := cs.takeWhile isDigit
  let rest := cs.drop front.length
  let (back, after) := match rest with
    | '.' :: more => (more.takeWhile isDigit, more.dropWhile isDigit)
    | rest => ([], rest)
  if front.isEmpty && back.isEmpty then none
  else some ((front ++ back).foldl (fun n d => n * base + valueOf d) 0, back.length, after)

/-- The value of a digit. -/
def digitValue (c : Char) : Nat :=
  if c.isDigit then c.toNat - '0'.toNat else c.toLower.toNat - 'a'.toNat + 10

/-- The number `n · 10^e` at the beginning of a text, and what comes after it. -/
def takeDecimal? (cs : List Char) : Option (Nat × Int × List Char) :=
  (takePointed? 10 Char.isDigit digitValue cs).map fun (n, places, after) =>
    let (e, after) := takeExponent ['e', 'E'] after
    (n, e - places, after)

/-- The number in base sixteen at the beginning of a text, and what comes after it. -/
def takeHexadecimal? (cs : List Char) : Option (Nat × Int × List Char) :=
  let isDigit (c : Char) : Bool := c.isDigit || (97 ≤ c.toLower.toNat && c.toLower.toNat ≤ 102)
  (takePointed? 16 isDigit digitValue cs).map fun (n, places, after) =>
    let (e, after) := takeExponent ['p', 'P'] after
    (n, e - 4 * places, after)

/-- A word at the beginning of a text, in letters of any size; what comes after it. -/
def takeWord? (word : String) (cs : List Char) : Option (List Char) :=
  if (cs.take word.length).map Char.toLower == word.toList then some (cs.drop word.length) else none

/-- The size of the number at the beginning of a text, and what comes after it. -/
def takeSize? (cs : List Char) : Option (Size × List Char) :=
  match takeWord? "infinity" cs, takeWord? "inf" cs, takeWord? "nan" cs, (takeWord? "0x" cs).bind takeHexadecimal? with
  | some rest, _, _, _ | none, some rest, _, _ => some (.infinite, rest)
  | none, none, some rest, _ =>
    match rest with
    | '(' :: more =>
      match more.dropWhile fun c => c.isAlphanum || c == '_' with
      | ')' :: after => some (.notANumber, after)
      | _ => some (.notANumber, rest)
    | _ => some (.notANumber, rest)
  | none, none, none, some (n, e, rest) => some (.binary n e, rest)
  | none, none, none, none => (takeDecimal? cs).map fun (n, e, rest) => (.decimal n e, rest)

/-- The number at the beginning of a text, and what comes after it. -/
def takeWritten? (cs : List Char) : Option (Written × List Char) :=
  let (negative, rest) := takeSign cs
  (takeSize? rest).map fun (size, after) => (⟨negative, size⟩, after)

/-- The double of `n · 10^e`. -/
def scaled (n : Nat) (e : Int) : Float :=
  if n == 0 then 0.0
  else if e > 400 then 1.0 / 0.0
  else if e < -5000 then 0.0
  else if 0 ≤ e then Float.ofScientific (n * pow10 e.toNat) false 0
  else Float.ofScientific n true e.natAbs

/-- The double at the beginning of a text, in digits alone, and what comes after it. -/
def takeReal? (cs : List Char) : Option (Float × List Char) :=
  let (negative, rest) := takeSign cs
  (takeDecimal? rest).map fun (n, e, after) => (if negative then -(scaled n e) else scaled n e, after)

end Recap.Tool
