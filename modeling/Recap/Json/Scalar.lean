import Recap.Json.Token
import Recap.Decimal.Style

/-!
# Numbers and strings of a JSON text

What a written number or string stands for where it is used. A number without fraction and power of
ten is an integer if it fits in 64 bits, signed or unsigned; every other number is a double. A
string is the text its escapes stand for; half of a surrogate pair stands for nothing.

## Contents
- `Num`, `Numeral.value?` — the number, or `none` beyond the range of doubles.
- `unescape?` — the text of a string.
- `quote` — the written form of a text.
- `numberStyle` — how doubles are written.
-/

namespace Recap.Json

open Recap.Decimal

/-! ## Numbers -/

/-- A number as a record reader sees it. -/
inductive Num where
  | int (i : Int)
  | float (x : Float)

/-- The digits, read from the left. -/
def digitsToNat (ds : List Char) : Nat := ds.foldl (fun n d => n * 10 + (d.toNat - '0'.toNat)) 0

/-- The unsigned 64-bit numbers end here. -/
def wordLimit : Nat := 0x10000000000000000

/-- Digits read into a 64-bit significand as long as they fit: the significand, and what is left. -/
def takeDigits : Nat → List Char → Nat × List Char
  | n, [] => (n, [])
  | n, d :: ds =>
    let n' := n * 10 + (d.toNat - '0'.toNat)
    if n' < wordLimit then takeDigits n' ds else (n, d :: ds)

/-- The powers of ten that are doubles. -/
def mostTens : Nat := 308

/-- `10^k` as a double. -/
def tens (k : Nat) : Float := Float.ofScientific 1 false k

/-- Divides by `10^k`, at most `10^308` at a time. -/
def scaleDown : Nat → Float → Nat → Float
  | 0, x, _ => x
  | fuel + 1, x, k =>
    if k ≤ mostTens then x / tens k
    else if x == 0.0 then x
    else scaleDown fuel (x / tens mostTens) (k - mostTens)

/-- A significand times a power of ten, rounded at each step. `none` beyond the range of doubles. -/
def scale? (significand : Nat) (power : Int) : Option Float :=
  let x := (UInt64.ofNat significand).toFloat
  if power < 0 then some (scaleDown 4 x power.natAbs)
  else if power ≤ mostTens then
    let y := x * tens power.toNat
    if y.isInf then none else some y
  else if x == 0.0 then some x
  else none

/-- The powers of ten that can be written out end here; larger ones count as unbounded. -/
def powerLimit : Nat := 0x80000000

/-- The significand and the power of ten that the digits of a number give. Digits after the first
    that no longer fits in the significand are dropped; before the point they still count as places. -/
def Numeral.parts (n : Numeral) : Nat × Int :=
  let (s, dropped) := takeDigits 0 n.whole
  let (s', left) := takeDigits s n.fraction
  (s', (dropped.length : Int) - ((n.fraction.length - left.length : Nat) : Int))

/-- The double a number stands for, its sign aside. -/
def Numeral.magnitude? (n : Numeral) : Option Float :=
  let (s, places) := n.parts
  match n.exponent with
  | none => scale? s places
  | some (negative, ds) =>
    let e := digitsToNat ds
    if powerLimit ≤ e then
      if s ≠ 0 ∧ negative = false then none else some 0.0
    else scale? s (if negative then places - e else places + e)

/-- The number: an integer where it is written as one and fits in 64 bits. A negative zero has no
    integer form. `none` beyond the range of doubles. -/
def Numeral.value? (n : Numeral) : Option Num :=
  let asFloat := n.magnitude?.map fun x => .float (if n.negative then -x else x)
  if n.isInteger then
    let i := digitsToNat n.whole
    if n.negative then
      if 0 < i ∧ i ≤ 0x8000000000000000 then some (.int (-(i : Int))) else asFloat
    else if i < wordLimit then some (.int i) else asFloat
  else asFloat

/-- Doubles keep a point, and leave positional writing at `10^16` and below `10^-5`. -/
def numberStyle : Style :=
  { wholeLimit := some 16, zerosLimit := some 4, keepsPoint := true, tie := .toEven
    nanText := "null", infinityText := "null" }

/-- The text of a double; what is not a finite number is `null`. -/
def writeFloat (x : Float) : String := if x.isFinite then numberStyle.write x else "null"

/-! ## Strings -/

/-- The value of a hexadecimal digit. -/
def hexValue (c : Char) : Nat :=
  if c.isDigit then c.toNat - '0'.toNat
  else if 'a' ≤ c && c ≤ 'f' then c.toNat - 'a'.toNat + 10
  else c.toNat - 'A'.toNat + 10

/-- What a one-letter escape stands for. -/
def shortEscape (c : Char) : Char :=
  match c with
  | 'b' => '\x08'
  | 'f' => '\x0c'
  | 'n' => '\n'
  | 'r' => '\r'
  | 't' => '\t'
  | c => c

/-- The code units of a string as written: a character stands for itself, an escape for its code. -/
def codeUnits : List Char → List Nat
  | '\\' :: 'u' :: a :: b :: c :: d :: rest =>
    (((hexValue a * 16 + hexValue b) * 16 + hexValue c) * 16 + hexValue d) :: codeUnits rest
  | '\\' :: c :: rest => (shortEscape c).toNat :: codeUnits rest
  | c :: rest => c.toNat :: codeUnits rest
  | [] => []

/-- The first half of a surrogate pair. -/
def isHighHalf (u : Nat) : Bool := 0xD800 ≤ u && u < 0xDC00

/-- The second half of a surrogate pair. -/
def isLowHalf (u : Nat) : Bool := 0xDC00 ≤ u && u < 0xE000

/-- Joins surrogate pairs; `none` for a half without its other half. -/
def joinUnits? : List Nat → Option (List Char)
  | [] => some []
  | u :: us =>
    if isLowHalf u then none
    else if isHighHalf u then
      match us with
      | v :: vs =>
        if isLowHalf v then
          (joinUnits? vs).map (Char.ofNat (0x10000 + (u - 0xD800) * 0x400 + (v - 0xDC00)) :: ·)
        else none
      | [] => none
    else (joinUnits? us).map (Char.ofNat u :: ·)

/-- The text of a string as written, or `none` if half of a surrogate pair stands alone in it. -/
def unescape? (raw : List Char) : Option String := (joinUnits? (codeUnits raw)).map String.ofList

/-- A hexadecimal digit. -/
def hexDigit (n : Nat) : Char := if n < 10 then Char.ofNat (48 + n) else Char.ofNat (87 + n)

/-- A character inside a string: quotes, backslashes and control characters are escaped. -/
def quoteChar (c : Char) : List Char :=
  match c with
  | '"' => ['\\', '"']
  | '\\' => ['\\', '\\']
  | '\x08' => ['\\', 'b']
  | '\x0c' => ['\\', 'f']
  | '\n' => ['\\', 'n']
  | '\r' => ['\\', 'r']
  | '\t' => ['\\', 't']
  | c =>
    if c.toNat < 0x20 then ['\\', 'u', '0', '0', hexDigit (c.toNat / 16), hexDigit (c.toNat % 16)]
    else [c]

/-- The characters between the quotes of a written text. -/
def escape (s : String) : List Char := s.toList.flatMap quoteChar

/-- A written text. -/
def quote (s : String) : List Char := '"' :: (escape s ++ ['"'])

end Recap.Json
