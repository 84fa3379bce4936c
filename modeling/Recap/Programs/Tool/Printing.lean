import Recap.Programs.Shell.Quoting
import Recap.Programs.Tool.Clock
import Recap.Programs.Tool.Echo
import Recap.Programs.Tool.Number

/-!
# Arguments in a format

A format is passed over again and again until no argument is left. The shells and the program that write in
formats differ in what they know, and in how they complain.

## Contents
- `Flaw`, `wholeOf`, `realOf` — arguments as numbers.
- `Printing` — a format being followed.
- `printf` — writes its arguments in a format.
-/

namespace Recap.Tool

open Recap.Shell
open Decimal (Binary Precision)

/-! ## Arguments as numbers -/

/-- What is wrong with a number. -/
inductive Flaw where
  | noNumber
  | trailing
  | outOfRange

/-- The words for what is no number, which depend on how it begins. -/
def notNumberText (argument : String) : String :=
  argument ++ match argument.toList with
  | '0' :: c :: _ =>
    if c.isDigit then ": invalid octal number" else if c == 'x' then ": invalid hex number" else ": invalid number"
  | _ => ": invalid number"

/-- The complaint about a number. -/
def flawText (w : Writer) (argument : String) (f : Flaw) : String :=
  match w, f with
  | .largeShell, .outOfRange => "warning: " ++ argument ++ ": Numerical result out of range"
  | .largeShell, _ => notNumberText argument
  | .shell, .noNumber => argument ++ ": expected numeric value"
  | .shell, .trailing => argument ++ ": not completely converted"
  | .shell, .outOfRange => argument ++ ": Numerical result out of range"
  | .program, .noNumber => Text.quoted argument ++ ": expected a numeric value"
  | .program, .trailing => Text.quoted argument ++ ": value not completely converted"
  | .program, .outOfRange => Text.quoted argument ++ ": Numerical result out of range"

/-- The byte that an argument with a quote before it asks for, and what follows it. The program takes a quote
    alone for a text. -/
def byteAsked? (w : Writer) (argument : String) : Option (Nat × Bytes) :=
  match Text.bytes argument with
  | quote :: rest =>
    if quote != 39 && quote != 34 then none
    else
      match rest with
      | b :: more => some (b.toNat, more)
      | [] => if w == .program then none else some (0, [])
  | [] => none

/-- The whole number at the beginning of an argument, in the base that it says, and what is wrong with it. -/
def wholeOf (signed : Bool) (argument : String) : Int × Option Flaw :=
  let (negative, digits) := takeSign (argument.toList.dropWhile Char.isWhitespace)
  let (base, ds) := match digits with
    | '0' :: x :: d :: ds =>
      if x.toLower == 'x' && (Sum.digitValue? 16 d).isSome then (16, d :: ds) else (8, digits)
    | '0' :: _ => (8, digits)
    | _ => (10, digits)
  let (n, rest) := takeDigits base ds.length 0 ds
  let i : Int := if negative then -(n : Int) else n
  let least : Int := if signed then -0x8000000000000000 else -0xffffffffffffffff
  let most : Int := if signed then 0x7fffffffffffffff else 0xffffffffffffffff
  let trailing := if rest.isEmpty then none else some Flaw.trailing
  if argument.isEmpty then (0, none)
  else if rest.length == ds.length then (0, some .noNumber)
  else if i < least then (least, trailing.or (some .outOfRange))
  else if most < i then (if signed || !negative then most else least, trailing.or (some .outOfRange))
  else (i, trailing)

/-- The number of an argument, and what is wrong with it. -/
def realOf (p : Precision) (argument : String) : Binary × Option Flaw :=
  match takeWritten? (argument.toList.dropWhile Char.isWhitespace) with
  | none => (.finite false 0 0, if argument.isEmpty then none else some .noNumber)
  | some (x, rest) =>
    let (b, beyond) := x.nearest p
    (b, if !rest.isEmpty then some .trailing else if beyond then some .outOfRange else none)

/-- The precision in which a writer counts. -/
def Writer.precision (w : Writer) : Precision := if w == .shell then .double else .extended

/-! ## Formats -/

/-- A format being followed. -/
structure Printing where
  writer : Writer
  /-- The milliseconds since 1970. -/
  now : Int
  out : Bytes
  /-- Complaints, each without the name of the program. -/
  complaints : List String
  arguments : List String
  /-- Whether an argument was used. -/
  used : Bool
  /-- The status that it ends with, if it is to end here. -/
  ended : Option Nat
  /-- Whether an argument could not be understood. -/
  failed : Bool

namespace Printing

/-- Takes an argument. -/
def take (p : Printing) : Option String × Printing :=
  match p.arguments with
  | [] => (none, { p with used := true })
  | a :: as => (some a, { p with arguments := as, used := true })

/-- Writes. -/
def push (p : Printing) (bs : Bytes) : Printing := { p with out := p.out ++ bs }

/-- Writes a text. -/
def pushText (p : Printing) (s : String) : Printing := p.push (Text.bytes s)

/-- Ends with a complaint. -/
def stop (p : Printing) (code : Nat) (message : String) : Printing :=
  { p with complaints := p.complaints ++ [message], ended := some code }

/-- Notes what is wrong with an argument. To the larger shell, a number out of range is no failure. -/
def note (p : Printing) (argument : String) : Option Flaw → Printing
  | none => p
  | some f =>
    let harmless := p.writer == .largeShell && (match f with | .outOfRange => true | _ => false)
    { p with complaints := p.complaints ++ [flawText p.writer argument f], failed := p.failed || !harmless }

/-- Notes that more follows the character that an argument asks for. -/
def noteRest (p : Printing) (rest : Bytes) : Printing :=
  if rest.isEmpty || p.writer != .program then p
  else
    { p with complaints := p.complaints ++ ["warning: " ++ Text.decode rest ++
        ": character(s) following character constant have been ignored"] }

/-- A whole number among the arguments. -/
def takeWhole (p : Printing) (signed : Bool) : Int × Printing :=
  let (argument, p) := p.take
  let text := argument.getD ""
  match byteAsked? p.writer text with
  | some (n, rest) => (n, p.noteRest rest)
  | none =>
    let (i, flaw) := wholeOf signed text
    (i, p.note text flaw)

/-- A number among the arguments. -/
def takeBinary (p : Printing) : Binary × Printing :=
  let (argument, p) := p.take
  let text := argument.getD ""
  match byteAsked? p.writer text with
  | some (n, rest) => (p.writer.precision.nearest false n 1, p.noteRest rest)
  | none =>
    let (x, flaw) := realOf p.writer.precision text
    (x, p.note text flaw)

/-- A width or a precision, which can be taken from the arguments. -/
def takeCount (p : Printing) (cs : List Char) : Option Int × Printing × List Char :=
  match cs with
  | '*' :: rest =>
    let (i, p) := p.takeWhole true
    (some i, p, rest)
  | cs =>
    let digits := cs.takeWhile Char.isDigit
    (natOf? (String.ofList digits) |>.map fun n => (n : Int), p, cs.drop digits.length)

/-- What backslashes mean in an argument that is written with them. -/
def argumentEscapes (p : Printing) : Escapes := { p.writer.escapes with bareOctal := true }

/-- Writes an argument as a conversion asks. -/
def convert (p : Printing) (c : Conversion) : Printing :=
  match c.letter with
  | 's' =>
    let (a, p) := p.take
    p.push (c.cut 32 (Text.bytes (a.getD "")))
  | 'q' | 'Q' =>
    let (a, p) := p.take
    let text := a.getD ""
    if p.writer == .program then p.pushText (Text.forShell text)
    else if c.letter == 'Q' then
      let kept := match c.precision with
        | some n => Text.decode ((Text.bytes text).take n)
        | none => text
      p.push (c.column 32 (Text.bytes (quotedArgument kept)))
    else p.push (c.cut 32 (Text.bytes (quotedArgument text)))
  | 'b' =>
    let (a, p) := p.take
    let (bs, stopped) := escaped p.argumentEscapes (a.getD "")
    let p := p.push (c.cut 32 bs)
    if stopped then { p with ended := some 0 } else p
  | 'c' =>
    let (a, p) := p.take
    p.push (c.column 32 [((Text.bytes (a.getD "")).head?).getD 0])
  | 'd' | 'i' =>
    let (i, p) := p.takeWhole true
    p.pushText (c.whole i)
  | 'u' | 'x' | 'X' | 'o' =>
    let (i, p) := p.takeWhole false
    p.pushText (c.whole i)
  | _ =>
    let (x, p) := p.takeBinary
    p.pushText (c.real p.writer.precision x)

/-- The letters of conversions. -/
def isConversion (w : Writer) (c : Char) : Bool :=
  "sbcdiuxXofFeEgGaA".toList.contains c || (c == 'q' && w != .shell) || (c == 'Q' && w == .largeShell)

/-- Whether the program takes a conversion with some flags and a precision. -/
def isSensible (flags : List Char) (hasPrecision : Bool) (letter : Char) : Bool :=
  let among (letters : String) : Bool := letters.toList.contains letter
  among "aAcdeEfFgGiosuxX" &&
    !((flags.contains 'I' || flags.contains '\'') && among "aAceEosxX") &&
    !(flags.contains '#' && among "cdisu") && !(flags.contains '0' && among "cs") && !(hasPrecision && letter == 'c')

/-- Ends because of a conversion that is not known; `directive` is what comes before its letter. -/
def unknown (p : Printing) (directive : String) (cs : List Char) : Printing :=
  match p.writer, cs with
  | .shell, [] => p.stop 2 "missing format character"
  | .shell, c :: _ => p.stop 2 (directive ++ c.toString ++ ": invalid directive")
  | .largeShell, [] => p.stop 1 ("\x60" ++ directive ++ "': missing format character")
  | .largeShell, c :: _ => p.stop 1 ("\x60" ++ c.toString ++ "': invalid format character")
  | .program, cs => p.stop 1 (directive ++ String.ofList (cs.take 1) ++ ": invalid conversion specification")

/-- The text up to the parenthesis that closes one, and what comes after it. -/
def takeClosed : Nat → List Char → List Char × List Char
  | _, [] => ([], [])
  | depth, c :: cs =>
    if c == ')' && depth == 0 then ([], cs)
    else
      let (inside, rest) := takeClosed (if c == '(' then depth + 1 else if c == ')' then depth - 1 else depth) cs
      (c :: inside, rest)

/-- The time that an argument says, in seconds since 1970. -/
def takeTime (p : Printing) : Int × Printing :=
  if p.arguments.isEmpty then (p.now.fdiv 1000, { p with used := true })
  else
    let (i, p) := p.takeWhole true
    (if i == -1 || i == -2 then p.now.fdiv 1000 else i, p)

/-- Follows one conversion after its percent sign; also what comes after it. -/
def directive (p : Printing) (cs : List Char) : Printing × List Char :=
  let flagSigns := match p.writer with
    | .shell => "#-+ 0"
    | .largeShell => "#'-+ 0"
    | .program => "#'-+ 0I"
  let flags := cs.takeWhile flagSigns.toList.contains
  let (width, p, afterWidth) := p.takeCount (cs.drop flags.length)
  let (precision, p, rest) : Option Int × Printing × List Char := match afterWidth with
    | '.' :: more =>
      let negative := p.writer == .largeShell && more.head? == some '-'
      let (n, p, rest) := p.takeCount (if negative then more.drop 1 else more)
      (some (if negative then -1 else n.getD 0), p, rest)
    | rest => (none, p, rest)
  let width := width.getD 0
  let rest := if p.writer == .shell then rest else rest.dropWhile "hlLjzt".toList.contains
  let before := "%" ++ String.ofList (cs.take (cs.length - rest.length))
  let conversion (letter : Char) : Conversion :=
    { flags := if width < 0 then '-' :: flags else flags, width := width.natAbs
      precision := match precision with
        | some n => if n < 0 then none else some n.toNat
        | none => none
      letter }
  match rest with
  | [] => (p.unknown before [], [])
  | '(' :: more =>
    let (format, after) := takeClosed 0 more
    if p.writer == .largeShell && after.head? == some 'T' then
      let (seconds, p) := p.takeTime
      let text := timeText (if format.isEmpty then "%X" else String.ofList format) seconds
      (p.push ((conversion 's').cut 32 (Text.bytes text)), after.drop 1)
    else (p.unknown before rest, [])
  | c :: more =>
    let known := match p.writer with
      | .program => isSensible flags precision.isSome c || (cs.length == rest.length && (c == 'b' || c == 'q'))
      | w => isConversion w c
    if known then (p.convert (conversion c), more)
    else if c == 'n' && p.writer == .largeShell then ((p.take).2, more)
    else (p.unknown before rest, [])

/-- What backslashes mean in a format. -/
def formatEscapes (p : Printing) : Escapes :=
  match p.writer with
  | .shell => ⟨false, true, false, false, false⟩
  | .largeShell => ⟨false, true, true, false, true⟩
  | .program => ⟨false, true, true, true, true⟩

/-- Whether a character after a backslash in a format stands for itself. -/
def standsForItself (w : Writer) (c : Char) : Bool :=
  match w with
  | .shell => false
  | .largeShell => c == '"' || c == '\'' || c == '?'
  | .program => c == '"'

/-- Passes over a format once. `fuel` is at least the number of its characters. -/
def pass : Nat → List Char → Printing → Printing
  | 0, _, p | _, [], p => p
  | fuel + 1, '%' :: '%' :: cs, p => pass fuel cs (p.push [37])
  | fuel + 1, '%' :: cs, p =>
    let (p, rest) := p.directive cs
    if p.ended.isSome then p else pass fuel rest p
  | fuel + 1, '\\' :: c :: cs, p =>
    if p.formatEscapes.stops && c == 'c' then { p with ended := some 0 }
    else if standsForItself p.writer c then pass fuel cs (p.pushText c.toString)
    else
      let (bs, rest) := escape p.formatEscapes c cs
      pass fuel rest (p.push bs)
  | fuel + 1, c :: cs, p => pass fuel cs (p.push (String.utf8EncodeChar c))

/-- Passes over a format until no argument is left. `fuel` is more than the number of arguments. -/
def passes (cs : List Char) : Nat → Printing → Printing
  | 0, p => p
  | fuel + 1, p =>
    let p := pass cs.length cs { p with used := false }
    if p.ended.isNone && p.used && !p.arguments.isEmpty then passes cs fuel p else p

end Printing

/-- Writes its arguments in a format. Complaints begin with a label. -/
def printf (w : Writer) (label : String) : Program := fun j => do
  let now ← Call.now.ask
  let refuse (message : String) : Running Output := do
    let code := if w == .program then 1 else 2
    return .failed code message j.input
  let usage := "printf: usage: printf [-v var] format [arguments]\n"
  let print (format : String) (arguments : List String) : Running Output := do
    let p := Printing.passes format.toList (arguments.length + 1)
      { writer := w, now := now.toInt, out := [], complaints := [], arguments, used := false, ended := none
        failed := false }
    let extra := if w == .program && !p.used && !p.arguments.isEmpty && p.ended.isNone then
        ["warning: ignoring excess arguments, starting with " ++ Text.quoted (p.arguments.headD "")]
      else []
    let err := String.join ((p.complaints ++ extra).map fun c => label ++ c ++ "\n")
    let code := p.ended.getD 0
    return { out := p.out, err := Text.bytes err, rest := j.input
             status := .exited (if code != 0 then code else if p.failed then 1 else 0) }
  match j.arguments with
  | "--" :: format :: rest => print format rest
  | [] | ["--"] =>
    match w with
    | .shell => refuse (label ++ "usage: printf format [arg ...]\n")
    | .largeShell => refuse usage
    | .program => refuse (label ++ "missing operand\nTry 'printf --help' for more information.\n")
  | format :: rest =>
    match w, format.toList with
    | .shell, '-' :: c :: _ => refuse (label ++ "Illegal option -" ++ c.toString ++ "\n")
    | .largeShell, '-' :: c :: _ =>
      refuse (label ++ (if c == 'v' then "-v: option requires an argument\n"
        else "-" ++ c.toString ++ ": invalid option\n") ++ usage)
    | _, _ => print format rest

end Recap.Tool
