import Recap.Programs.Shell.Arithmetic
import Recap.Programs.Tool.Options

/-!
# Writing what is given

## Contents
- `Escapes`, `escaped` — texts in which letters after a backslash stand for bytes.
- `Writer` — who writes.
- `echo` — writes its arguments.
-/

namespace Recap.Tool

open Recap.Shell

/-! ## Backslashes -/

/-- What letters after a backslash mean. -/
structure Escapes where
  /-- Whether digits in base eight need a zero before them, which is not one of them. -/
  zeroFirst : Bool
  /-- Whether digits can stand without that zero, too. -/
  bareOctal : Bool
  /-- Whether an x stands before digits in base sixteen. -/
  hex : Bool
  /-- Whether nothing is written behind a c. -/
  stops : Bool
  /-- Whether a u or U stands before the number of a character in base sixteen. -/
  wide : Bool

/-- Digits at the beginning, at most as many as given: their value and what follows. -/
def takeDigits (base : Nat) : Nat → Nat → List Char → Nat × List Char
  | 0, n, cs => (n, cs)
  | _ + 1, n, [] => (n, [])
  | most + 1, n, c :: cs =>
    match Sum.digitValue? base c with
    | some d => takeDigits base most (n * base + d) cs
    | none => (n, c :: cs)

/-- The byte that a letter after a backslash stands for. -/
def letterByte? : Char → Option UInt8
  | 'a' => some 7
  | 'b' => some 8
  | 'e' => some 27
  | 'f' => some 12
  | 'n' => some 10
  | 'r' => some 13
  | 't' => some 9
  | 'v' => some 11
  | '\\' => some 92
  | _ => none

/-- The bytes of a character after a backslash, and what follows. -/
def escape (e : Escapes) (c : Char) (cs : List Char) : Bytes × List Char :=
  let octal := (Sum.digitValue? 8 c).isSome
  if octal && e.zeroFirst && c == '0' then
    let (n, rest) := takeDigits 8 3 0 cs
    ([UInt8.ofNat n], rest)
  else if octal && (e.bareOctal || !e.zeroFirst) then
    let (n, rest) := takeDigits 8 3 0 (c :: cs)
    ([UInt8.ofNat n], rest)
  else if e.hex && c == 'x' && ((cs.head?.bind (Sum.digitValue? 16)).isSome) then
    let (n, rest) := takeDigits 16 2 0 cs
    ([UInt8.ofNat n], rest)
  else if e.wide && (c == 'u' || c == 'U') && ((cs.head?.bind (Sum.digitValue? 16)).isSome) then
    let (n, rest) := takeDigits 16 (if c == 'u' then 4 else 8) 0 cs
    (Text.bytes (Text.codeOrEscape n), rest)
  else
    match letterByte? c with
    | some b => ([b], cs)
    | none => (92 :: String.utf8EncodeChar c, cs)

/-- Bytes of a text with backslashes, and whether nothing is to follow. `fuel` is at least the number of
    characters. -/
def escapedFrom (e : Escapes) : Nat → List Char → Bytes × Bool
  | 0, _ | _, [] => ([], false)
  | fuel + 1, '\\' :: c :: cs =>
    if e.stops && c == 'c' then ([], true)
    else
      let (bs, rest) := escape e c cs
      let (more, stopped) := escapedFrom e fuel rest
      (bs ++ more, stopped)
  | fuel + 1, c :: cs =>
    let (more, stopped) := escapedFrom e fuel cs
    (String.utf8EncodeChar c ++ more, stopped)

/-- Bytes of a text with backslashes, and whether nothing is to follow. -/
def escaped (e : Escapes) (text : String) : Bytes × Bool := escapedFrom e text.length text.toList

/-! ## Plain writing -/

/-- Who writes. -/
inductive Writer where
  /-- The shell itself. -/
  | shell
  /-- The shell with the larger language. -/
  | largeShell
  /-- A program. -/
  | program
  deriving DecidableEq

/-- What backslashes mean to one who writes plainly. -/
def Writer.escapes : Writer → Escapes
  | .shell => ⟨true, true, false, true, false⟩
  | .largeShell => ⟨true, false, true, true, true⟩
  | .program => ⟨true, true, true, true, false⟩

/-- Whether an argument is made of option letters. -/
def isLetters (letters : List Char) (argument : String) : Bool :=
  match argument.toList with
  | '-' :: c :: cs => (c :: cs).all letters.contains
  | _ => false

/-- Writes its arguments. Backslashes mean something to the shell, and to others where an option asks for
    it. -/
def echo (w : Writer) : Program := fun j =>
  let (options, words) : List Char × List String := match w with
    | .shell => if j.arguments.head? == some "-n" then (['n'], j.arguments.drop 1) else ([], j.arguments)
    | _ =>
      let isOption := isLetters ['n', 'e', 'E']
      ((j.arguments.takeWhile isOption).flatMap (·.toList.drop 1), j.arguments.dropWhile isOption)
  let text := " ".intercalate words
  let meant := w == .shell || (options.filter (· != 'n')).getLast? == some 'e'
  let (bs, stopped) := if meant then escaped w.escapes text else (Text.bytes text, false)
  return .wrote (if stopped || options.contains 'n' then bs else bs ++ [newline]) j.input

end Recap.Tool
