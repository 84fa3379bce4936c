import Recap.Decimal.Style

/-!
# Writing TOML

## Contents
- `floatStyle` — doubles.
- `quote` — texts, in the plainest quotes that hold them.
- `writeArray` — lists of texts.
- `entry` — a line of a table.
-/

namespace Recap.Toml

open Recap.Decimal (Style)

/-- Doubles: never a power of ten, always a point. -/
def floatStyle : Style :=
  { Decimal.plain with keepsPoint := true, nanText := "nan" }

/-- A double; what is not a number has no sign. -/
def writeFloat (x : Float) : String := floatStyle.write x

/-! ## Texts -/

/-- Characters that can only be written as escapes. -/
def isControl (c : Char) : Bool :=
  (c.toNat < 0x20 && c ≠ '\t' && c ≠ '\n') || c.toNat == 0x7F

/-- Whether a character occurs `n` times in a row; `seen` of them came before. -/
def hasRun (q : Char) (n : Nat) : Nat → List Char → Bool
  | seen, [] => n ≤ seen
  | seen, c :: cs => n ≤ seen || hasRun q n (if c = q then seen + 1 else 0) cs

/-- A hexadecimal digit. -/
def hexDigit (n : Nat) : Char := if n < 10 then Char.ofNat (48 + n) else Char.ofNat (55 + n)

/-- A character as an escape. -/
def escapeChar (c : Char) : List Char :=
  match c with
  | '\x08' => ['\\', 'b']
  | '\t' => ['\\', 't']
  | '\n' => ['\\', 'n']
  | '\x0c' => ['\\', 'f']
  | '\r' => ['\\', 'r']
  | '"' => ['\\', '"']
  | '\\' => ['\\', '\\']
  | c => ['\\', 'u', '0', '0', hexDigit (c.toNat / 16), hexDigit (c.toNat % 16)]

/-- Whether a character is an escape within double quotes, the quote itself aside. -/
def needsEscape (c : Char) : Bool := c.toNat < 0x20 || c.toNat == 0x7F || c == '\\'

/-- A text between double quotes. -/
def basicChars (cs : List Char) : List Char :=
  cs.flatMap fun c => if needsEscape c || c == '"' then escapeChar c else [c]

/-- A text between three double quotes: line breaks stay, and of quotes in a row every third is an
    escape; `quotes` came before. -/
def multilineChars : Nat → List Char → List Char
  | _, [] => []
  | quotes, c :: cs =>
    if c = '"' then
      if quotes < 2 then '"' :: multilineChars (quotes + 1) cs
      else escapeChar c ++ multilineChars 0 cs
    else if needsEscape c && c ≠ '\n' then escapeChar c ++ multilineChars 0 cs
    else c :: multilineChars 0 cs

/-- The quotes that a text is written in. -/
inductive Quotes where
  | basic
  | literal
  | multilineBasic
  | multilineLiteral
  deriving DecidableEq, Repr

/-- The plainest quotes that hold a text: those without escapes, in one line, come first. -/
def chooseQuotes (cs : List Char) : Quotes :=
  let control := cs.any isControl
  let slash := cs.contains '\\'
  let lines := cs.contains '\n'
  if !control && !slash && !lines && !cs.contains '"' then .basic
  else if !control && !lines && !cs.contains '\'' then .literal
  else if !control && !slash && !hasRun '"' 3 0 cs then .multilineBasic
  else if !control && !hasRun '\'' 3 0 cs then .multilineLiteral
  else if lines then .multilineBasic
  else .basic

/-- A text in quotes. Texts of several lines begin on a line of their own. -/
def quoteChars (cs : List Char) : List Char :=
  let lead := if cs.contains '\n' then ['\n'] else []
  match chooseQuotes cs with
  | .basic => ['"'] ++ basicChars cs ++ ['"']
  | .literal => ['\''] ++ cs ++ ['\'']
  | .multilineBasic => ['"', '"', '"'] ++ lead ++ multilineChars 0 cs ++ ['"', '"', '"']
  | .multilineLiteral => ['\'', '\'', '\''] ++ lead ++ cs ++ ['\'', '\'', '\'']

/-- A text in quotes. -/
def quote (s : String) : String := String.ofList (quoteChars s.toList)

/-! ## Lists and lines -/

/-- A list of texts; two or more have a line each. -/
def writeArray : List String → String
  | [] => "[]"
  | [s] => "[" ++ quote s ++ "]"
  | ss => "[\n" ++ String.join (ss.map fun s => "    " ++ quote s ++ ",\n") ++ "]"

/-- A truth value. -/
def writeBool (b : Bool) : String := if b then "true" else "false"

/-- A line of a table. -/
def entry (key value : String) : String := key ++ " = " ++ value ++ "\n"

end Recap.Toml
