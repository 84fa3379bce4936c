/-!
# Tokens of a JSON text

A text is cut into tokens by a machine that reads one character at a time. The first character that
no token can hold ends the list with `Token.bad`, or with `Token.broken` inside a string; what follows
it is not looked at.

Strings are kept as they are written, escapes included, because only some of their uses resolve the
escapes. Numbers are kept digit by digit, because their reading depends on where they stand.

## Contents
- `Numeral`, `Token` — the pieces.
- `Mode`, `Mode.step`, `Mode.finish` — the machine.
- `tokenize` — the tokens of a text.
-/

namespace Recap.Json

/-! ## Tokens -/

/-- A number as it is written. An absent fraction has no digits. -/
structure Numeral where
  negative : Bool
  whole : List Char
  fraction : List Char
  /-- Whether the power of ten is negative, and its digits. -/
  exponent : Option (Bool × List Char)
  deriving DecidableEq, Repr

/-- Whether neither a fraction nor a power of ten is written. -/
def Numeral.isInteger (n : Numeral) : Bool := n.fraction.isEmpty && n.exponent.isNone

/-- A piece of a JSON text. -/
inductive Token where
  | openBrace
  | closeBrace
  | openBracket
  | closeBracket
  | colon
  | comma
  | null
  | bool (b : Bool)
  | number (n : Numeral)
  /-- The characters between the quotes, escapes unresolved. -/
  | string (raw : List Char)
  /-- A string that breaks off: the characters up to there. -/
  | broken (raw : List Char)
  /-- What no JSON text holds at this point, or the end of the text inside a token. -/
  | bad
  deriving DecidableEq, Repr

/-! ## The machine -/

/-- How far a number has been read. Digits are held last first. -/
inductive Phase where
  /-- After the minus sign. -/
  | sign
  /-- After a leading zero. -/
  | zero
  | whole (ds : List Char)
  /-- After the point. -/
  | point (whole : List Char)
  | fraction (whole ds : List Char)
  /-- After the letter of the power of ten. -/
  | mark (whole fraction : List Char)
  /-- After the sign of the power of ten. -/
  | markSign (whole fraction : List Char) (negative : Bool)
  | power (whole fraction : List Char) (negative : Bool) (ds : List Char)
  deriving DecidableEq, Repr

/-- What the machine is in the middle of. -/
inductive Mode where
  | between
  /-- Inside `null`, `true` or `false`: what is still to come. -/
  | word (rest : List Char) (token : Token)
  /-- Inside a string, its characters last first. -/
  | string (raw : List Char)
  | escape (raw : List Char)
  /-- Inside the hexadecimal digits of an escape. -/
  | hex (missing : Nat) (raw : List Char)
  | number (negative : Bool) (phase : Phase)
  | dead
  deriving DecidableEq, Repr

/-- The characters between tokens. -/
def isSpace (c : Char) : Bool := c == ' ' || c == '\n' || c == '\r' || c == '\t'

/-- The digits of a code point. -/
def isHexDigit (c : Char) : Bool :=
  c.isDigit || ('a' ≤ c && c ≤ 'f') || ('A' ≤ c && c ≤ 'F')

/-- The letters that may follow a backslash, the one of a code point apart. -/
def isShortEscape (c : Char) : Bool :=
  c == '"' || c == '\\' || c == '/' || c == 'b' || c == 'f' || c == 'n' || c == 'r' || c == 't'

/-- The number read so far, if it can end here. -/
def Phase.numeral? (negative : Bool) : Phase → Option Numeral
  | .zero => some ⟨negative, ['0'], [], none⟩
  | .whole ds => some ⟨negative, ds.reverse, [], none⟩
  | .fraction w ds => some ⟨negative, w.reverse, ds.reverse, none⟩
  | .power w f neg ds => some ⟨negative, w.reverse, f.reverse, some (neg, ds.reverse)⟩
  | .sign | .point _ | .mark .. | .markSign .. => none

/-- How one more character continues a number. `none`: it does not, and the number ends before it. -/
def Phase.next? (c : Char) : Phase → Option (Option Phase)
  | .sign =>
    if c == '0' then some (some .zero)
    else if c.isDigit then some (some (.whole [c]))
    else some none
  | .zero =>
    if c.isDigit then some none
    else if c == '.' then some (some (.point ['0']))
    else if c == 'e' || c == 'E' then some (some (.mark ['0'] []))
    else none
  | .whole ds =>
    if c.isDigit then some (some (.whole (c :: ds)))
    else if c == '.' then some (some (.point ds))
    else if c == 'e' || c == 'E' then some (some (.mark ds []))
    else none
  | .point w => if c.isDigit then some (some (.fraction w [c])) else some none
  | .fraction w ds =>
    if c.isDigit then some (some (.fraction w (c :: ds)))
    else if c == 'e' || c == 'E' then some (some (.mark w ds))
    else none
  | .mark w f =>
    if c == '+' then some (some (.markSign w f false))
    else if c == '-' then some (some (.markSign w f true))
    else if c.isDigit then some (some (.power w f false [c]))
    else some none
  | .markSign w f neg => if c.isDigit then some (some (.power w f neg [c])) else some none
  | .power w f neg ds =>
    if c.isDigit then some (some (.power w f neg (c :: ds))) else none

/-- The rest of a number, and what follows it. -/
def Phase.run (negative : Bool) : Phase → List Char → Option (Numeral × List Char)
  | p, [] => (p.numeral? negative).map (·, [])
  | p, c :: cs =>
    match p.next? c with
    | some (some p') => p'.run negative cs
    | some none => none
    | none => (p.numeral? negative).map (·, c :: cs)

/-- The number at the front of a text, and what follows it. -/
def takeNumeral? : List Char → Option (Numeral × List Char)
  | '-' :: cs => Phase.run true .sign cs
  | '0' :: cs => Phase.run false .zero cs
  | c :: cs => if c.isDigit then Phase.run false (.whole [c]) cs else none
  | [] => none

/-- The first character of a token, or a space before it. -/
def Mode.start (c : Char) : List Token × Mode :=
  if isSpace c then ([], .between)
  else match c with
    | '{' => ([.openBrace], .between)
    | '}' => ([.closeBrace], .between)
    | '[' => ([.openBracket], .between)
    | ']' => ([.closeBracket], .between)
    | ':' => ([.colon], .between)
    | ',' => ([.comma], .between)
    | '"' => ([], .string [])
    | 'n' => ([], .word ['u', 'l', 'l'] .null)
    | 't' => ([], .word ['r', 'u', 'e'] (.bool true))
    | 'f' => ([], .word ['a', 'l', 's', 'e'] (.bool false))
    | '-' => ([], .number true .sign)
    | '0' => ([], .number false .zero)
    | c => if c.isDigit then ([], .number false (.whole [c])) else ([.bad], .dead)

/-- Reads one character: the tokens it completes, and what the machine is in the middle of then. -/
def Mode.step (c : Char) : Mode → List Token × Mode
  | .between => Mode.start c
  | .word (d :: rest) token =>
    if c == d then
      if rest.isEmpty then ([token], .between) else ([], .word rest token)
    else ([.bad], .dead)
  | .word [] _ => ([.bad], .dead)
  | .string raw =>
    if c == '"' then ([.string raw.reverse], .between)
    else if c == '\\' then ([], .escape (c :: raw))
    else if c.toNat < 0x20 then ([.broken raw.reverse], .dead)
    else ([], .string (c :: raw))
  | .escape raw =>
    if isShortEscape c then ([], .string (c :: raw))
    else if c == 'u' then ([], .hex 4 (c :: raw))
    else ([.broken raw.reverse], .dead)
  | .hex missing raw =>
    if isHexDigit c then
      if missing ≤ 1 then ([], .string (c :: raw)) else ([], .hex (missing - 1) (c :: raw))
    else ([.broken raw.reverse], .dead)
  | .number negative phase =>
    match phase.next? c with
    | some (some phase') => ([], .number negative phase')
    | some none => ([.bad], .dead)
    | none =>
      match phase.numeral? negative with
      | some n => let (ts, m) := Mode.start c; (.number n :: ts, m)
      | none => ([.bad], .dead)
  | .dead => ([], .dead)

/-- What the end of the text completes. -/
def Mode.finish : Mode → List Token
  | .between | .dead => []
  | .number negative phase =>
    match phase.numeral? negative with
    | some n => [.number n]
    | none => [.bad]
  | .string raw | .escape raw | .hex _ raw => [.broken raw.reverse]
  | .word .. => [.bad]

/-- The tokens of the rest of a text. -/
def Mode.run : Mode → List Char → List Token
  | m, [] => m.finish
  | m, c :: cs =>
    match m.step c with
    | ([], m') => m'.run cs
    | (t :: ts, m') => t :: (ts ++ m'.run cs)

/-- The tokens of a text. -/
def tokenize (cs : List Char) : List Token := Mode.run .between cs

end Recap.Json
