import Recap.Text.Utf8

/-!
# Quoting texts

How the shell writes a text so that it reads the same text again.

## Contents
- `singleQuoted`, `plainQuoted`, `escapedQuoted`, `doubleQuoted`, `backslashQuoted` — kinds of quotes.
- `quotedAlways`, `quotedIfNeeded`, `tracedWord`, `quotedValue`, `quotedArgument` — which kind is used
  where.
-/

namespace Recap.Shell

/-- A text between single quotes. -/
def singleQuoted (s : String) : String :=
  "'" ++ s.toList.foldl (fun t c => if c == '\'' then t ++ "'\\''" else t.push c) "" ++ "'"

/-- A text between single quotes in the smaller language, where quotes stand between double ones. -/
def plainQuoted (s : String) : String :=
  "'" ++ s.toList.foldl (fun t c => if c == '\'' then t ++ "'\"'\"'" else t.push c) "" ++ "'"

/-- Whether a text can only be written with escapes. -/
def needsEscapes (s : String) : Bool := s.toList.any fun c => c.toNat < 32 || 126 < c.toNat

/-- A byte between a dollar sign's quotes. -/
def escapedByte (b : UInt8) : String :=
  let octal (n : Nat) : Char := Char.ofNat ('0'.toNat + n % 8)
  match b with
  | 27 => "\\E"
  | 7 => "\\a"
  | 8 => "\\b"
  | 11 => "\\v"
  | 10 => "\\n"
  | 13 => "\\r"
  | 9 => "\\t"
  | 12 => "\\f"
  | 92 => "\\\\"
  | 39 => "\\'"
  | b =>
    if 32 ≤ b && b ≤ 126 then (Char.ofNat b.toNat).toString
    else String.ofList ['\\', octal (b.toNat / 64), octal (b.toNat / 8), octal b.toNat]

/-- A text between a dollar sign's quotes. -/
def escapedQuoted (s : String) : String :=
  "$'" ++ (Text.bytes s).foldl (fun t b => t ++ escapedByte b) "" ++ "'"

/-- A text between double quotes. -/
def doubleQuoted (s : String) : String :=
  "\"" ++ s.toList.foldl (fun t c => if "\"\\$\x60".toList.contains c then (t.push '\\').push c else t.push c)
    "" ++ "\""

/-- Whether a character has a meaning of its own after another. -/
def isSpecialAfter (before : Option Char) (c : Char) : Bool :=
  " \t\n'\"\\|&;()<>!\x7b\x7d*[?]^$\x60".toList.contains c ||
    (c == '~' && (before == none || before == some '=' || before == some ':')) ||
    (c == '#' && before == none)

/-- Whether a text has characters with meanings of their own, after another character. -/
def hasSpecial : Option Char → List Char → Bool
  | _, [] => false
  | before, c :: cs => isSpecialAfter before c || hasSpecial (some c) cs

/-- A text with backslashes before characters with meanings of their own. -/
def backslashQuoted : Option Char → List Char → List Char
  | _, [] => []
  | before, c :: cs =>
    (if isSpecialAfter before c || c == ',' then ['\\', c] else [c]) ++ backslashQuoted (some c) cs

/-- A text between quotes, whatever it is. -/
def quotedAlways (s : String) : String := if needsEscapes s then escapedQuoted s else singleQuoted s

/-- A text between quotes if it has to be. -/
def quotedIfNeeded (s : String) : String :=
  if needsEscapes s then escapedQuoted s else if hasSpecial none s.toList then singleQuoted s else s

/-- A word of a command that is shown before it is carried out. -/
def tracedWord (s : String) : String :=
  if s.isEmpty then "''"
  else if hasSpecial none s.toList then singleQuoted s
  else if needsEscapes s then escapedQuoted s
  else s

/-- The value of a variable where variables are declared. -/
def quotedValue (s : String) : String := if needsEscapes s then escapedQuoted s else doubleQuoted s

/-- An argument with backslashes. -/
def quotedArgument (s : String) : String :=
  if s.isEmpty then "''"
  else if needsEscapes s then escapedQuoted s
  else String.ofList (backslashQuoted none s.toList)

end Recap.Shell
