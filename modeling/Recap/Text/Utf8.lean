/-!
# Bytes as text

Bytes are read as UTF-8. Where a text is wanted at any price, what is not UTF-8 is replaced: each
longest run of bytes that starts a character, but is not one, becomes one replacement character, and
so does each byte that cannot start a character.

## Contents
- `bytes` — a text in bytes.
- `Begun`, `Begun.ofLead?` — characters of which some bytes are still to come.
- `codeOrEscape` — characters by their numbers, where only some can be written.
- `decode`, `decode?` — bytes as a text, at any price or only if they are one.
- `ofBytes`, `toBytes` — bytes as characters of their own, and back; `spread`, `gathered` — texts so read.
-/

namespace Recap.Text

/-- A text in bytes. -/
def bytes (s : String) : List UInt8 := s.toList.flatMap String.utf8EncodeChar

/-- Stands for what is not text. -/
def replacementChar : Char := '\uFFFD'

/-- A character of which some bytes are still to come. -/
structure Begun where
  /-- The number of bytes to come. -/
  owed : Nat
  /-- The least that the next byte can be. -/
  least : Nat
  /-- The greatest that the next byte can be. -/
  greatest : Nat
  /-- The bits so far. -/
  bits : Nat
  deriving DecidableEq, Repr

/-- The character that a byte begins, if it begins one of several bytes. The next byte is bounded so
    that no character is written longer than needed, lies among the surrogates or is too large. -/
def Begun.ofLead? (b : Nat) : Option Begun :=
  if 0xC2 ≤ b ∧ b ≤ 0xDF then some ⟨1, 0x80, 0xBF, b - 0xC0⟩
  else if b = 0xE0 then some ⟨2, 0xA0, 0xBF, 0⟩
  else if b = 0xED then some ⟨2, 0x80, 0x9F, b - 0xE0⟩
  else if 0xE1 ≤ b ∧ b ≤ 0xEF then some ⟨2, 0x80, 0xBF, b - 0xE0⟩
  else if b = 0xF0 then some ⟨3, 0x90, 0xBF, 0⟩
  else if b = 0xF4 then some ⟨3, 0x80, 0x8F, b - 0xF0⟩
  else if 0xF1 ≤ b ∧ b ≤ 0xF3 then some ⟨3, 0x80, 0xBF, b - 0xF0⟩
  else none

/-- Whether a byte can come next. -/
def Begun.accepts (p : Begun) (b : Nat) : Bool := p.least ≤ b && b ≤ p.greatest

/-- The character with another byte. -/
def Begun.push (p : Begun) (b : Nat) : Begun := ⟨p.owed - 1, 0x80, 0xBF, p.bits * 64 + (b - 0x80)⟩

/-- A byte where a character begins: the characters that it completes, `none` for what is no
    character, and the one that it begins. -/
def beginChar (b : Nat) : List (Option Char) × Option Begun :=
  if b < 0x80 then ([some (Char.ofNat b)], none)
  else
    match Begun.ofLead? b with
    | some p => ([], some p)
    | none => ([none], none)

/-- A byte after a character that may have begun. -/
def stepByte (begun : Option Begun) (b : Nat) : List (Option Char) × Option Begun :=
  match begun with
  | none => beginChar b
  | some p =>
    if p.accepts b then
      let p' := p.push b
      if p'.owed = 0 then ([some (Char.ofNat p'.bits)], none) else ([], some p')
    else
      let (cs, begun') := beginChar b
      (none :: cs, begun')

/-- The characters of bytes, after a character that may have begun; `none` for what is no
    character. -/
def decodeFrom : Option Begun → List UInt8 → List (Option Char)
  | none, [] => []
  | some _, [] => [none]
  | begun, b :: bs =>
    let (cs, begun') := stepByte begun b.toNat
    cs ++ decodeFrom begun' bs

/-- Bytes as a text, with replacements for what is none. -/
def decode (bs : List UInt8) : String :=
  String.ofList ((decodeFrom none bs).map fun c => c.getD replacementChar)

/-- A character by its number; one beyond the first 128 is written as an escape with capital digits. -/
def codeOrEscape (n : Nat) : String :=
  let digits (width : Nat) : String :=
    let ds := (Nat.toDigits 16 n).map Char.toUpper
    String.ofList (List.replicate (width - ds.length) '0' ++ ds)
  if n < 128 then (Char.ofNat n).toString
  else if n < 0x10000 then "\\u" ++ digits 4
  else "\\U" ++ digits 8

/-- Bytes as a text, if all of them are. -/
def decode? (bs : List UInt8) : Option String := ((decodeFrom none bs).mapM id).map String.ofList

/-! ## Bytes as characters -/

/-- Bytes as characters of their own. -/
def ofBytes (bs : List UInt8) : String := String.ofList (bs.map fun b => Char.ofNat b.toNat)

/-- Characters that are bytes, as bytes. -/
def toBytes (s : String) : List UInt8 := s.toList.map fun c => UInt8.ofNat c.toNat

/-- A text with its bytes as characters. -/
def spread (s : String) : String := ofBytes (bytes s)

/-- The text whose bytes are characters. -/
def gathered (s : String) : String := decode (toBytes s)

end Recap.Text
