import Recap.Programs.Shell.Process
import Recap.Programs.Tool.Number

/-!
# Values of rules

A value is a number or a text, and can be taken for the other. A text that was read counts as a number
where it looks like one. Characters are bytes here.

## Contents
- `Value` — values, as numbers and as texts.
- `Value.compare` — their order.
- `tableOrder` — the order in which a table gives its keys.
- `convertValue`, `fill` — values in the places of a format.
-/

namespace Recap.Tool.Rules

open Recap.Shell (Bytes)

/-! ## Numbers -/

/-- The whole number in a number, without what is behind the point. -/
def truncated (x : Float) : Int :=
  match Decimal.Binary.ofFloat x with
  | .notANumber => 0
  | .infinite negative => if negative then -0x8000000000000000 else 0x7fffffffffffffff
  | .finite negative m q =>
    let n := if 0 ≤ q then m * Decimal.pow2 q.toNat else m / Decimal.pow2 (-q).toNat
    if negative then -(n : Int) else n

/-- The number of a whole number. -/
def ofWhole (i : Int) : Float := if i < 0 then -(Float.ofNat i.natAbs) else Float.ofNat i.natAbs

/-- The number at the beginning of a text; zero where there is none. -/
def leadingNumber (s : String) : Float :=
  ((takeReal? (s.toList.dropWhile Char.isWhitespace)).map (·.1)).getD 0.0

/-- Whether a text is a number, with blanks around it at most. -/
def looksNumeric (s : String) : Bool :=
  match takeReal? (s.toList.dropWhile Char.isWhitespace) with
  | some (_, rest) => rest.all Char.isWhitespace
  | none => false

/-- The conversion of a format such as `%.6g`. -/
def conversionOf (format : String) : Conversion :=
  let cs := (format.toList.dropWhile (· != '%')).drop 1
  let flags := cs.takeWhile "-+ #0".toList.contains
  let cs := cs.drop flags.length
  let width := cs.takeWhile Char.isDigit
  let cs := cs.drop width.length
  let number (ds : List Char) : Nat := ds.foldl (fun n d => n * 10 + (d.toNat - '0'.toNat)) 0
  match cs with
  | '.' :: more =>
    let ds := more.takeWhile Char.isDigit
    { flags, width := number width, precision := some (number ds), letter := (more.drop ds.length).headD 'g' }
  | cs => { flags, width := number width, precision := none, letter := cs.headD 'g' }

/-- A number as a conversion asks. What is not a number has a minus sign. -/
def realText (c : Conversion) (x : Float) : String :=
  if x.isNaN then c.number false "-" "nan" else c.real .double (.ofFloat x)

/-- Numbers below this are written as whole numbers if they are. -/
def wholeLimit : Nat := 0x80000000

/-- The text of a number; one that is not whole is written in a format. -/
def numberText (format : String) (x : Float) : String :=
  let i := truncated x
  if ofWhole i == x && i.natAbs < wholeLimit then
    if i < 0 then "-" ++ Nat.repr i.natAbs else Nat.repr i.natAbs
  else
    let c := conversionOf format
    if c.letter == 'd' || c.letter == 'i' then c.whole i else realText c x

/-! ## Values -/

/-- A value. -/
inductive Value where
  | nothing
  | number (x : Float)
  | text (s : String)
  /-- A text that was read. -/
  | given (s : String)

namespace Value

/-- The value as a number. -/
def toNumber : Value → Float
  | .nothing => 0.0
  | .number x => x
  | .text s | .given s => leadingNumber s

/-- The value as a text. -/
def toText (format : String) : Value → String
  | .nothing => ""
  | .number x => numberText format x
  | .text s | .given s => s

/-- Whether the value counts as a number. -/
def isNumeric : Value → Bool
  | .nothing | .number _ => true
  | .text _ => false
  | .given s => looksNumeric s

/-- Whether the value counts as true. -/
def holds : Value → Bool
  | .nothing => false
  | .number x => x != 0.0
  | .text s => !s.isEmpty
  | .given s => if looksNumeric s then leadingNumber s != 0.0 else !s.isEmpty

/-- The order of two values: as numbers if both are, else as texts. -/
def compare (format : String) (a b : Value) : Ordering :=
  if a.isNumeric && b.isNumeric then
    let x := a.toNumber
    let y := b.toNumber
    if x < y then .lt else if x == y then .eq else .gt
  else
    let s := a.toText format
    let t := b.toText format
    if s < t then .lt else if s == t then .eq else .gt

/-- One for what is true, and zero for what is not. -/
def ofBool (b : Bool) : Value := .number (if b then 1.0 else 0.0)

/-- A whole number. -/
def ofNat (n : Nat) : Value := .number (Float.ofNat n)

end Value

/-! ## Tables -/

/-- The place of a key among the 64 of a table. -/
def tablePlace (key : String) : Nat :=
  ((Text.toBytes key).foldl (fun (h : UInt32) b => (h ^^^ b.toUInt32) * 0x01000193) 0x811c9dc5).toNat % 64

/-- Keys, the last that came first, in the order in which a table gives them: by their places. -/
def tableOrder (keys : List String) : List String :=
  (List.range 64).flatMap fun place => keys.filter fun k => tablePlace k == place

/-! ## Formats -/

/-- A whole number that fits in 64 bits, the nearest to a number. -/
def clamped (x : Float) : Int := max (-0x8000000000000000) (min 0x7fffffffffffffff (truncated x))

/-- The character that a value stands for: that of a number, or the first of a text. -/
def characterOf : Value → Char
  | .nothing => '\x00'
  | .number x => Char.ofNat (clamped x % 256).toNat
  | .text s => s.toList.headD '\x00'
  | .given s =>
    if looksNumeric s then Char.ofNat (clamped (leadingNumber s) % 256).toNat else s.toList.headD '\x00'

/-- A value as a conversion asks; `format` is for numbers as texts. -/
def convertValue (format : String) (c : Conversion) (v : Value) : String :=
  match c.letter with
  | 's' =>
    String.ofList (c.cut ' ' (v.toText format).toList)
  | 'c' => c.pad (characterOf v).toString
  | 'd' | 'i' | 'o' | 'x' | 'X' | 'u' => c.whole (clamped v.toNumber)
  | _ => realText c v.toNumber

/-- A text being written in a format. -/
structure Filling where
  out : String
  values : List Value
  /-- The number of conversions so far. -/
  count : Nat
  /-- Why nothing more can be written. -/
  failure : Option String

namespace Filling

/-- Takes a value. -/
def take (f : Filling) : Value × Filling :=
  match f.values with
  | [] => (.nothing, { f with failure := some "not enough arguments passed to " })
  | v :: vs => (v, { f with values := vs })

/-- A width or a precision, which can be taken from the values. -/
def takeCount (f : Filling) (cs : List Char) : Int × Filling × List Char :=
  match cs with
  | '*' :: rest =>
    let (v, f) := f.take
    (clamped v.toNumber, f, rest)
  | cs =>
    let digits := cs.takeWhile Char.isDigit
    (digits.foldl (fun n d => n * 10 + (d.toNat - '0'.toNat)) 0, f, cs.drop digits.length)

/-- Follows one conversion after its percent sign; also what comes after it. -/
def directive (format : String) (f : Filling) (cs : List Char) : Filling × List Char :=
  let f := { f with count := f.count + 1 }
  let flags := cs.takeWhile "-+ #0".toList.contains
  let (width, f, cs) := f.takeCount (cs.drop flags.length)
  let (precision, f, cs) := match cs with
    | '.' :: more =>
      let (n, f, rest) := f.takeCount more
      (if n < 0 then none else some n.toNat, f, rest)
    | cs => (none, f, cs)
  match cs.dropWhile "hlL".toList.contains with
  | letter :: rest =>
    if "scdioxXufFeEgG".toList.contains letter then
      let (v, f) := f.take
      let flags := if width < 0 then '-' :: flags else flags
      if f.failure.isSome then (f, [])
      else ({ f with out := f.out ++ convertValue format ⟨flags, width.natAbs, precision, letter⟩ v }, rest)
    else
      let (_, f) := f.take
      if f.failure.isSome then (f, [])
      else ({ f with failure := some ("improper conversion(number " ++ Nat.repr f.count ++ ") in ") }, [])
  | [] => ({ f with failure := some ("improper conversion(number " ++ Nat.repr f.count ++ ") in ") }, [])

/-- Follows a format. `fuel` is at least the number of characters. -/
def follow (format : String) : Nat → List Char → Filling → Filling
  | 0, _, f | _, [], f => f
  | fuel + 1, '%' :: '%' :: cs, f => follow format fuel cs { f with out := f.out.push '%' }
  | fuel + 1, '%' :: cs, f =>
    let (f, rest) := f.directive format cs
    if f.failure.isSome then f else follow format fuel rest f
  | fuel + 1, c :: cs, f => follow format fuel cs { f with out := f.out.push c }

end Filling

/-- Values in the places of a text, and why not all of it could be written; `format` is for numbers as
    texts. -/
def fill (format text : String) (values : List Value) : String × Option String :=
  let f := Filling.follow format text.length text.toList { out := "", values, count := 0, failure := none }
  (f.out, f.failure)

end Recap.Tool.Rules
