import Recap.Programs.Shell.Process

/-!
# Options of programs

Options are letters behind a hyphen, several of which can share it, or names behind two hyphens. Some
take a value, which is attached or comes next. They can stand before, between and behind operands;
nothing behind two hyphens alone is an option.

## Contents
- `OptionTable`, `Options` — the options that a program knows, and those that it was given.
- `OptionTable.read` — reads arguments.
- `withOptions` — a program that reads its options first.
-/

namespace Recap.Tool

open Recap.Shell

/-- The options that a program knows. -/
structure OptionTable where
  program : String
  /-- Letters of options without a value. -/
  plain : String := ""
  /-- Letters of options with a value. -/
  valued : String := ""
  /-- Letters of options that can have a value, but only one that is attached. -/
  attached : String := ""
  /-- Names of options, and the letters that they stand for. -/
  names : List (String × Char) := []
  /-- The status for what is not understood. -/
  refusal : Nat := 1
  /-- Whether options can stand behind operands. -/
  mixed : Bool := true
  /-- What is said about how the program is used, before the hint. -/
  usage : String := ""

/-- The options and operands that a program was given. -/
structure Options where
  given : List (Char × String)
  operands : List String

/-- Whether an option was given. -/
def Options.has (o : Options) (letter : Char) : Bool := o.given.any (·.1 == letter)

/-- The last value that an option was given. -/
def Options.value? (o : Options) (letter : Char) : Option String :=
  (o.given.filter (·.1 == letter)).getLast?.map (·.2)

/-- All values that an option was given. -/
def Options.values (o : Options) (letter : Char) : List String :=
  (o.given.filter (·.1 == letter)).map (·.2)

namespace OptionTable

/-- Adds a hint to a complaint. -/
def complaint (t : OptionTable) (what : String) : String :=
  t.program ++ ": " ++ what ++ "\n" ++ t.usage ++ "Try '" ++ t.program ++ " --help' for more information.\n"

/-- Reads letters: the options, and the one whose value comes next. -/
def readLetters (t : OptionTable) : List Char → Except String (List (Char × String) × Option Char)
  | [] => .ok ([], none)
  | c :: cs =>
    if t.valued.toList.contains c then
      if cs.isEmpty then .ok ([], some c) else .ok ([(c, String.ofList cs)], none)
    else if t.attached.toList.contains c then .ok ([(c, String.ofList cs)], none)
    else if t.plain.toList.contains c then
      (t.readLetters cs).map fun (given, next) => ((c, "") :: given, next)
    else .error (t.complaint ("invalid option -- '" ++ c.toString ++ "'"))

/-- The letter of a name, which can be cut short where that is clear. -/
def letterOf? (t : OptionTable) (name : String) : Option Char :=
  match t.names.lookup name with
  | some c => some c
  | none =>
    match (t.names.filter fun e => e.1.startsWith name).map (·.2) with
    | [] => none
    | c :: cs => if cs.all (· == c) then some c else none

/-- Reads a name: the options, and the one whose value comes next. -/
def readName (t : OptionTable) (cs : List Char) : Except String (List (Char × String) × Option Char) :=
  let name := String.ofList (cs.takeWhile (· != '='))
  match t.letterOf? name, (cs.dropWhile (· != '=')).tail? with
  | none, _ => .error (t.complaint ("unrecognized option '--" ++ String.ofList cs ++ "'"))
  | some c, some value =>
    if (t.valued ++ t.attached).toList.contains c then .ok ([(c, String.ofList value)], none)
    else .error (t.complaint ("option '--" ++ name ++ "' doesn't allow an argument"))
  | some c, none => if t.valued.toList.contains c then .ok ([], some c) else .ok ([(c, "")], none)

/-- Reads arguments. -/
def readFrom (t : OptionTable) : List String → Options → Except String Options
  | [], o => .ok o
  | argument :: rest, o => do
    match argument.toList with
    | ['-', '-'] => return { o with operands := o.operands ++ rest }
    | '-' :: c :: cs =>
      let (given, next) ← if c == '-' then t.readName cs else t.readLetters (c :: cs)
      let o := { o with given := o.given ++ given }
      match next, rest with
      | none, rest => t.readFrom rest o
      | some letter, value :: rest =>
        t.readFrom rest { o with given := o.given ++ [(letter, value)] }
      | some letter, [] =>
        .error (t.complaint (
          if c == '-' then "option '" ++ argument ++ "' requires an argument"
          else "option requires an argument -- '" ++ letter.toString ++ "'"))
    | _ =>
      if t.mixed then t.readFrom rest { o with operands := o.operands ++ [argument] }
      else return { o with operands := o.operands ++ argument :: rest }
termination_by arguments => arguments.length

/-- Reads arguments. -/
def read (t : OptionTable) (arguments : List String) : Except String Options :=
  t.readFrom arguments { given := [], operands := [] }

end OptionTable

/-- A program that reads its options first. -/
def withOptions (t : OptionTable) (run : Options → Program) : Program := fun j =>
  match t.read j.arguments with
  | .ok o => run o j
  | .error complaint => return .failed t.refusal complaint j.input

/-- A complaint with a hint behind it. -/
def hinted (program what : String) : String :=
  program ++ ": " ++ what ++ "\nTry '" ++ program ++ " --help' for more information."

/-- A number without a sign. -/
def natOf? (text : String) : Option Nat :=
  if !text.isEmpty && text.toList.all Char.isDigit then
    some (text.toList.foldl (fun n d => n * 10 + (d.toNat - '0'.toNat)) 0)
  else none

/-- A number within bounds, or why it is none. Blanks and a sign can stand before its digits. -/
def boundedNumber (least most : Nat) (text : String) : Except String Nat :=
  let cs := text.toList.dropWhile Char.isWhitespace
  match natOf? (String.ofList (if cs.head? == some '+' then cs.drop 1 else cs)) with
  | none => .error ""
  | some n =>
    if 0xffffffffffffffff < n then .error ": Value too large for defined data type"
    else if n < least then .error ": Numerical result out of range"
    else if most < n then
      .error (if 0x3fffffff < n then ": Value too large for defined data type" else ": Numerical result out of range")
    else .ok n

/-- A number that may have a sign. -/
def intOf? (text : String) : Option Int :=
  match text.toList with
  | '-' :: ds => (natOf? (String.ofList ds)).map fun n => -(n : Int)
  | '+' :: ds => (natOf? (String.ofList ds)).map fun n => (n : Int)
  | _ => (natOf? text).map fun n => (n : Int)

/-- The text of a number. -/
def intText (i : Int) : String := if i < 0 then "-" ++ Nat.repr i.natAbs else Nat.repr i.natAbs

/-- A text at the right end of a column. -/
def padLeft (width : Nat) (text : String) : String :=
  String.ofList (List.replicate (width - text.length) ' ') ++ text

/-- A text at the left end of a column. -/
def padRight (width : Nat) (text : String) : String :=
  text ++ String.ofList (List.replicate (width - text.length) ' ')

end Recap.Tool
