import Recap.Text.Alphanumeric

/-!
# Directory names of chats

Each chat has a directory of its own, whose name is made from the chat's id. Letters, digits, hyphens
and underscores stand for themselves; every other character is written as its bytes in hexadecimal,
each after a percent sign. The chat without an id has a lone percent sign.

## Contents
- `hexByte`, `encodeChar` — bytes and characters.
- `encodeName` — names, for any class of plain characters.
- `chatDirectory` — names, letters and digits of all scripts being plain.
-/

namespace Recap.Disk

/-- A hexadecimal digit. -/
def hexDigit (n : Nat) : Char := if n < 10 then Char.ofNat (48 + n) else Char.ofNat (55 + n)

/-- A byte after a percent sign. -/
def hexByte (b : UInt8) : List Char := ['%', hexDigit (b.toNat / 16), hexDigit (b.toNat % 16)]

/-- Whether a character stands for itself. -/
def isPlainChar (isLetter : Char → Bool) (c : Char) : Bool := isLetter c || c == '-' || c == '_'

/-- A character in a name. -/
def encodeChar (isLetter : Char → Bool) (c : Char) : List Char :=
  if isPlainChar isLetter c then [c] else (String.utf8EncodeChar c).flatMap hexByte

/-- The name for an id. -/
def encodeName (isLetter : Char → Bool) (id : String) : String :=
  if id.isEmpty then "%" else String.ofList (id.toList.flatMap (encodeChar isLetter))

/-- The directory of a chat. -/
def chatDirectory (id : String) : String := encodeName Text.isAlphanumeric id

end Recap.Disk
