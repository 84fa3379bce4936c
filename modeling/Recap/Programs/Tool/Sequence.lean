import Recap.Programs.Tool.Number
import Recap.Programs.Tool.Options

/-!
# Numbers one after the other

Whole numbers are counted up exactly. Other numbers are multiples of a step, counted in binary numbers of
eighty bits and written with as many places as the first number and the step have.

## Contents
- `Bound` — one of the numbers that a sequence is given by.
- `Layout` — formats with one conversion.
- `seq` — numbers from one to another.
- `yes` — the same line again and again.
-/

namespace Recap.Tool

open Recap.Shell
open Decimal (Binary Precision Written)

/-! ## Bounds -/

/-- One of the numbers that a sequence is given by. -/
structure Bound where
  text : String
  value : Binary
  /-- The columns that it takes, where that can be seen. -/
  width : Nat
  /-- The places behind its point, where that can be seen. -/
  places : Option Nat

namespace Bound

/-- The exponent behind the first letter e, and the characters from that letter on. -/
def exponentOf? (cs : List Char) : Option (Int × List Char) :=
  match cs.dropWhile fun c => c != 'e' && c != 'E' with
  | [] => none
  | e :: rest =>
    let (negative, ds) := takeSign rest
    let n := (natOf? (String.ofList (ds.takeWhile Char.isDigit))).getD 0
    some (if negative then -(n : Int) else n, e :: rest)

/-- The columns and places of a number in decimal digits. -/
def shapeOf (cs : List Char) : Nat × Option Nat :=
  let front := cs.takeWhile (· != '.')
  let fraction? := (cs.dropWhile (· != '.')).tail?
  let fraction := (fraction?.getD []).takeWhile fun c => c != 'e' && c != 'E'
  let width : Int := match fraction? with
    | none => cs.length
    | some _ =>
      (cs.length : Int) + (if fraction.isEmpty then -1
        else if (front.getLast?.map Char.isDigit).getD false then 0 else 1)
  let places : Int := fraction.length
  match exponentOf? cs with
  | none => (width.toNat, some places.toNat)
  | some (e, tail) =>
    let width := width - tail.length
    let places' := places + (if e < 0 then -e else -(min places e))
    let width := if e < 0 then
        (match fraction? with
          | some _ => if fraction.isEmpty then width + 1 else width
          | none => width + 1) - e
      else
        (if fraction?.isSome && places' == 0 && !fraction.isEmpty then width - 1 else width) +
          (e - min (fraction.length : Int) e)
    (width.toNat, some places'.toNat)

/-- Reads a number. -/
def ofText? (text : String) : Option Bound :=
  match takeWritten? (text.toList.dropWhile Char.isWhitespace) with
  | some (x, []) =>
    let value := (x.nearest .extended).1
    let cs := text.toList.dropWhile fun c => c.isWhitespace || c == '+'
    let isDecimal := !(cs.contains 'x' || cs.contains 'X') && value.parts?.isSome
    let (width, places) := if isDecimal then shapeOf cs
      else (0, if cs.contains '.' || cs.contains 'p' then none else some 0)
    some { text, value, width, places }
  | _ => none

/-- One. -/
def one : Bound := { text := "1", value := .finite false 1 0, width := 1, places := some 0 }

end Bound

/-! ## Formats -/

/-- A format with one conversion: what is written before and after it. -/
structure Layout where
  front : String
  conversion : Conversion
  back : String

namespace Layout

/-- The characters before a single percent sign, and what comes after that. -/
def takeFront : List Char → List Char × Option (List Char)
  | [] => ([], none)
  | '%' :: '%' :: cs =>
    let (front, rest) := takeFront cs
    ('%' :: front, rest)
  | '%' :: cs => ([], some cs)
  | c :: cs =>
    let (front, rest) := takeFront cs
    (c :: front, rest)

/-- Reads a format. -/
def ofText (format : String) : Except String Layout := do
  let wrong (what : String) : Except String Layout := .error ("format " ++ Text.quoted format ++ what)
  match takeFront format.toList with
  | (_, none) => wrong " has no % directive"
  | (front, some cs) =>
    let flags := cs.takeWhile "-+#0 '".toList.contains
    let cs := cs.drop flags.length
    let width := cs.takeWhile Char.isDigit
    let cs := cs.drop width.length
    let (precision, cs) : Option Nat × List Char := match cs with
      | '.' :: more =>
        let ds := more.takeWhile Char.isDigit
        (some ((natOf? (String.ofList ds)).getD 0), more.drop ds.length)
      | cs => (none, cs)
    match if cs.head? == some 'L' then cs.drop 1 else cs with
    | [] => wrong " ends in %"
    | letter :: rest =>
      if !"efgaEFGA".toList.contains letter then wrong (" has unknown %" ++ letter.toString ++ " directive")
      else
        match takeFront rest with
        | (_, some _) => wrong " has too many % directives"
        | (back, none) =>
          return { front := String.ofList front, back := String.ofList back
                   conversion := { flags, width := (natOf? (String.ofList width)).getD 0, precision, letter } }

/-- A number in a format, without what stands around it. -/
def bare (l : Layout) (x : Binary) : String := l.conversion.real .extended x

/-- A number in a format. -/
def text (l : Layout) (x : Binary) : String := l.front ++ l.bare x ++ l.back

/-- The format for numbers that are given without one. -/
def usual (equalWidth : Bool) (first step last : Bound) : Layout :=
  let plain (flags : List Char) (width : Nat) (precision : Option Nat) (letter : Char) : Layout :=
    { front := "", conversion := { flags, width, precision, letter }, back := "" }
  match first.places, step.places, last.places with
  | some a, some b, some c =>
    let places := max a b
    let firstWidth := first.width + (places - a) + (if a == 0 && places != 0 then 1 else 0)
    let lastWidth : Int := (last.width : Int) + ((places : Int) - c) - (if c != 0 && places == 0 then 1 else 0) +
      (if c == 0 && places != 0 then 1 else 0)
    if equalWidth then plain ['0'] (max firstWidth lastWidth.toNat) (some places) 'f'
    else plain [] 0 (some places) 'f'
  | _, _, _ => plain [] 0 none 'g'

end Layout

/-! ## Counting -/

/-- How many lines are written in the place of lines without end. -/
def endlessLines : Nat := 5000

/-- How many numbers are written at most. -/
def longestSequence : Nat := 1000000

/-- The multiples of a step from the first number on, up to the last. A number just past the last is one of
    them if it is written as the last is, and not as the one before it. `fuel` bounds their number. -/
def countOn (l : Layout) (first step last : Int × Int) : (fuel i : Nat) → Binary → List Binary
  | 0, _, _ => []
  | fuel + 1, i, x =>
    let next := Precision.extended.add first ((Precision.extended.times i step).parts?.getD (0, 0))
    let isPast (y : Int × Int) : Bool :=
      if step.1 < 0 then Decimal.compareScaled y last == .lt else Decimal.compareScaled last y == .lt
    match next.parts? with
    | none => [x]
    | some y =>
      if isPast y then
        let shown := l.bare next
        let isLast := match (takeWritten? (shown.toList.dropWhile (· == ' '))).map fun w => w.1.nearest .extended with
          | some (z, _) => (z.parts?.map fun z => Decimal.compareScaled z last == .eq).getD false
          | none => false
        if isLast && shown != l.bare x then [x, next] else [x]
      else x :: countOn l first step last fuel (i + 1) next

/-- Whether a text is digits alone. -/
def isDigits (text : String) : Bool := !text.isEmpty && text.toList.all Char.isDigit

/-- The greatest step that is counted in whole numbers. -/
def greatestWholeStep : Nat := 200

/-- The whole number that a number is, if it is one that is not below zero. -/
def wholeOf? (b : Bound) : Option Nat :=
  match b.value with
  | .finite false m q =>
    if b.places != some 0 then none
    else some (if 0 ≤ q then m * Decimal.pow2 q.toNat else m / Decimal.pow2 (-q).toNat)
  | _ => none

/-- Whole numbers from one to another. -/
def countWhole (first step last : Nat) : List Nat :=
  if last < first then []
  else (List.range (min ((last - first) / step + 1) longestSequence)).map fun i => first + i * step

/-- The numbers of a sequence as texts. -/
def sequenceTexts (o : Options) (layout : Option Layout) (first step last : Bound) : List String :=
  let separator := (o.value? 's').getD "\n"
  let isPlain := !o.has 'w' && layout.isNone && separator.length == 1
  let exact (b : Bound) : Option Nat := if isDigits b.text then natOf? b.text else wholeOf? b
  match exact first, exact step, exact last, isPlain && last.value != .infinite true with
  | some a, some d, some z, true =>
    if d ≤ greatestWholeStep then (countWhole a d z).map Nat.repr else inBinary layout
  | some a, some d, none, true =>
    if last.value == .infinite false && d ≤ greatestWholeStep then
      (List.range endlessLines).map fun i => Nat.repr (a + i * d)
    else inBinary layout
  | _, _, _, _ => inBinary layout
where
  /-- The texts of numbers that are counted in binary numbers. -/
  inBinary (layout : Option Layout) : List String :=
    let l := layout.getD (.usual (o.has 'w') first step last)
    match first.value.parts?, step.value.parts?, last.value.parts? with
    | some a, some d, some z =>
      let isPast := if d.1 < 0 then Decimal.compareScaled a z == .lt else Decimal.compareScaled z a == .lt
      if isPast then [] else (countOn l a d z longestSequence 1 first.value).map l.text
    | some a, some d, none =>
      let isPast := (last.value == .infinite true) == (0 ≤ d.1)
      if isPast then []
      else
        (List.range endlessLines).map fun i =>
          l.text (Precision.extended.add a ((Precision.extended.times i d).parts?.getD (0, 0)))
    | _, _, _ => []

/-- Whether an argument is a number below zero. -/
def isNegative (argument : String) : Bool :=
  match argument.toList with
  | '-' :: c :: _ => c.isDigit || c == '.'
  | _ => false

/-- Writes numbers from one to another. -/
def seq : Program := fun j =>
  let options := j.arguments.takeWhile (!isNegative ·)
  let negatives := j.arguments.dropWhile (!isNegative ·)
  withOptions
    { program := "seq", plain := "w", valued := "sf", mixed := false
      names := [("separator", 's'), ("equal-width", 'w'), ("format", 'f')] }
    (fun o j => do
      let operands := o.operands ++ negatives
      let refuse (what : String) : Running Output := j.refuse 1 (hinted "seq" what)
      let run (layout : Option Layout) (bounds : List Bound) : Running Output :=
        let write (first step last : Bound) : Running Output :=
          let shown := sequenceTexts o layout first step last
          return .said (if shown.isEmpty then "" else ((o.value? 's').getD "\n").intercalate shown ++ "\n") j.input
        match bounds with
        | [last] => write .one .one last
        | [first, last] => write first .one last
        | [first, step, last] =>
          if (step.value.parts?.map fun d => d.1 == 0).getD false then
            refuse ("invalid Zero increment value: " ++ Text.quoted step.text)
          else write first step last
        | _ => refuse "missing operand"
      match operands, (o.value? 'f').mapM Layout.ofText with
      | [], _ => refuse "missing operand"
      | _ :: _ :: _ :: extra :: _, _ => refuse ("extra operand " ++ Text.quoted extra)
      | _, .error complaint => j.refuse 1 ("seq: " ++ complaint)
      | _, .ok layout =>
        if layout.isSome && o.has 'w' then
          refuse "format string may not be specified when printing equal width strings"
        else
          match operands.find? fun a => (Bound.ofText? a).isNone || ((Bound.ofText? a).map (·.value)) == some .notANumber with
          | some bad =>
            if (Bound.ofText? bad).isSome then refuse ("invalid 'not-a-number' argument: " ++ Text.quoted bad)
            else refuse ("invalid floating point argument: " ++ Text.quoted bad)
          | none => run layout (operands.filterMap Bound.ofText?))
    { j with arguments := options }

/-- Writes the same line again and again, until nobody reads it. -/
def yes : Program := withOptions { program := "yes" } fun o j => do
  let line := if o.operands.isEmpty then "y" else " ".intercalate o.operands
  return .wrote (List.replicate endlessLines (Text.bytes (line ++ "\n"))).flatten j.input

end Recap.Tool
