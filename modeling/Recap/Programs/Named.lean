import Recap.Text.Utf8

/-!
# Names and texts in complaints

How programs write the names and texts that they complain about, so that nothing in them can be taken for
something else: every byte that cannot be seen is written as an escape.

## Contents
- `quoted` — a text between quotes.
- `forShell`, `named`, `namedAlways` — a name as a shell would read it, with quotes where they are needed or
  always.
-/

namespace Recap.Text

/-! ## Texts -/

/-- The letter behind the backslash of a byte that moves the place of writing. -/
def escapeLetter? (b : UInt8) : Option Char :=
  match b.toNat with
  | 7 => some 'a'
  | 8 => some 'b'
  | 9 => some 't'
  | 10 => some 'n'
  | 11 => some 'v'
  | 12 => some 'f'
  | 13 => some 'r'
  | _ => none

/-- Whether a byte can be seen. -/
def isPrintable (b : UInt8) : Bool := 32 ≤ b && b ≤ 126

/-- A byte as an escape, which is no character that can be seen. -/
def escapeOf (b : UInt8) : String :=
  let octal (n : Nat) : Char := Char.ofNat ('0'.toNat + n % 8)
  match escapeLetter? b with
  | some c => String.ofList ['\\', c]
  | none => String.ofList ['\\', octal (b.toNat / 64), octal (b.toNat / 8), octal b.toNat]

/-- A text between single quotes, with escapes. -/
def quoted (s : String) : String :=
  let one (b : UInt8) : String :=
    if b == 39 || b == 92 then String.ofList ['\\', Char.ofNat b.toNat]
    else if isPrintable b then (Char.ofNat b.toNat).toString
    else escapeOf b
  "'" ++ String.join ((bytes s).map one) ++ "'"

/-! ## Names -/

/-- Whether a shell takes a character for itself in any place. -/
def isPlainInShell (c : Char) : Bool :=
  c.isAlphanum || "%+,-./:]_@\x7b\x7d".toList.contains c

/-- Whether a name has to stand between quotes for a shell: it is empty, or the shell would take a part of it
    for something else. -/
def needsQuotes (s : String) : Bool :=
  s.isEmpty || s == "\x7b" || s == "\x7d" ||
    (s.toList.zipIdx.any fun (c, i) => !isPlainInShell c && !((c == '#' || c == '~') && i != 0))

/-- Whether a name can stand between double quotes as it is. -/
def fitsDoubleQuotes (s : String) : Bool :=
  s.toList.zipIdx.all fun (c, i) =>
    (isPlainInShell c && c != '\x7b' && c != '\x7d') || c == ' ' || c == '\'' ||
      ((c == '#' || c == '~') && i == 0)

/-- Bytes between single quotes; those that cannot be seen stand as escapes between quotes of their own, which
    are open or not. -/
def quotedBytes : Bool → List UInt8 → String
  | _, [] => ""
  | isOpen, b :: bs =>
    if !isPrintable b then (if isOpen then "" else "'$'") ++ escapeOf b ++ quotedBytes true bs
    else if b == 39 then "'\\''" ++ quotedBytes false bs
    else (if isOpen then "''" else "") ++ (Char.ofNat b.toNat).toString ++ quotedBytes false bs

/-- A name between quotes, as a shell would read it. A name with a single quote that ends in an escape begins
    as if the quotes of an escape were open. -/
def namedAlways (s : String) : String :=
  if s.contains '\'' && fitsDoubleQuotes s then "\"" ++ s ++ "\""
  else
    let bs := bytes s
    let isOpen := s.contains '\'' && (bs.getLast?.map (!isPrintable ·)).getD false
    "'" ++ quotedBytes isOpen bs ++ "'"

/-- A name, between quotes if a shell needs them. -/
def forShell (s : String) : String := if needsQuotes s then namedAlways s else s

/-- A name in a complaint, between quotes if a shell needs them or if it has a colon, which would end it. -/
def named (s : String) : String := if s.contains ':' then namedAlways s else forShell s

end Recap.Text
