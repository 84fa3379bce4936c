import Recap.Programs.Tool.Copy
import Recap.Programs.Tool.Digest
import Recap.Programs.Tool.Number

/-!
# Bytes in other signs

## Contents
- `Alphabet`, `base64`, `base32`, `basenc` — bytes in the signs of an alphabet, and back.
- `od` — bytes as numbers and characters.
-/

namespace Recap.Tool

open Recap.Shell

/-! ## Alphabets -/

/-- Signs for groups of bits. -/
structure Alphabet where
  signs : List Char
  /-- The bits of a sign. -/
  bits : Nat
  /-- The bytes of a group, and the signs that they need. -/
  bytes : Nat
  places : Nat

/-- The alphabet of 64 signs. -/
def Alphabet.large : Alphabet :=
  { signs := "ABCDEFGHIJKLMNOPQRSTUVWXYZabcdefghijklmnopqrstuvwxyz0123456789+/".toList
    bits := 6, bytes := 3, places := 4 }

/-- The alphabet of 64 signs that names of files can hold. -/
def Alphabet.largeNames : Alphabet :=
  { Alphabet.large with
    signs := "ABCDEFGHIJKLMNOPQRSTUVWXYZabcdefghijklmnopqrstuvwxyz0123456789-_".toList }

/-- The alphabet of 32 signs. -/
def Alphabet.small : Alphabet :=
  { signs := "ABCDEFGHIJKLMNOPQRSTUVWXYZ234567".toList, bits := 5, bytes := 5, places := 8 }

/-- The alphabet of 32 signs in the order of digits. -/
def Alphabet.smallDigits : Alphabet :=
  { Alphabet.small with signs := "0123456789ABCDEFGHIJKLMNOPQRSTUV".toList }

/-- The alphabet of sixteen signs. -/
def Alphabet.hex : Alphabet :=
  { signs := "0123456789ABCDEF".toList, bits := 4, bytes := 1, places := 2 }

namespace Alphabet

/-- The signs of a group of bytes; signs without bytes are equals signs. -/
def group (a : Alphabet) (bs : Bytes) : List Char :=
  let n := numberOf (bs ++ List.replicate (a.bytes - bs.length) 0)
  let used := (bs.length * 8 + a.bits - 1) / a.bits
  let digit (i : Nat) : Nat := (n >>> (a.bits * (a.places - 1 - i))) % a.signs.length
  (List.range used).map (fun i => a.signs.getD (digit i) '=') ++ List.replicate (a.places - used) '='

/-- Bytes in signs. -/
def text (a : Alphabet) (bs : Bytes) : List Char := (inPieces a.bytes bs.length bs).flatMap a.group

/-- The bytes of a group of signs. -/
def bytesOf? (a : Alphabet) (signs : List Char) : Option Bytes := do
  let kept := (signs.reverse.dropWhile (· == '=')).reverse
  let digits ← kept.mapM fun c => a.signs.idxOf? c
  let whole := kept.length * a.bits / 8
  if signs.length != a.places || whole == 0 || (whole * 8 + a.bits - 1) / a.bits != kept.length then none
  else
    let n := (digits ++ List.replicate (a.places - kept.length) 0).foldl (fun n d => n * a.signs.length + d) 0
    some ((bytesOf a.bytes n).take whole)

/-- The bytes of signs as far as they can be read, and whether all could be. -/
def decode (a : Alphabet) (cs : List Char) : Bytes × Bool :=
  (inPieces a.places cs.length cs).foldl
    (fun (done : Bytes × Bool) group =>
      if done.2 then
        match a.bytesOf? group with
        | some bs => (done.1 ++ bs, true)
        | none => (done.1, false)
      else done)
    ([], true)

end Alphabet

/-- Writes bytes in signs, or reads them. -/
def runAlphabet (program : String) (a : Alphabet) (o : Options) : Program := fun j => do
  match o.operands with
  | _ :: extra :: _ =>
    j.refuse 1 (program ++ ": extra operand " ++ Text.quoted extra ++ "\nTry '" ++ program ++ " --help' for more information.")
  | operands =>
    let g ← j.gather program operands
    let widthText := (o.value? 'w').getD "76"
    if o.has 'd' then
      let signs := (Text.decode g.bytes).toList.filter fun c =>
        c != '\n' && (!o.has 'i' || a.signs.contains c || c == '=')
      let (bytes, whole) := a.decode signs
      if whole then return g.finish bytes
      else return { g.finish bytes with err := Text.bytes (program ++ ": invalid input\n"), status := .exited 1 }
    else
      match natOf? widthText with
      | none => j.refuse 1 (program ++ ": invalid wrap size: " ++ Text.quoted widthText)
      | some width =>
        let cs := a.text g.bytes
        if width == 0 then return g.finish (Text.bytes (String.ofList cs))
        else
          return g.finish (Text.bytes (String.join ((inPieces width cs.length cs).map fun l =>
            String.ofList l ++ "\n")))

/-- The options of programs that write bytes in signs. -/
def alphabetOptions (program : String) : OptionTable :=
  { program, plain := "di", valued := "w", names := [("decode", 'd'), ("ignore-garbage", 'i'), ("wrap", 'w')] }

/-- Writes bytes in 64 signs, or reads them. -/
def base64 : Program := withOptions (alphabetOptions "base64") (runAlphabet "base64" .large)

/-- Writes bytes in 32 signs, or reads them. -/
def base32 : Program := withOptions (alphabetOptions "base32") (runAlphabet "base32" .small)

/-- The alphabets that can be asked for by name. -/
def namedAlphabets : List (String × Char × Alphabet) :=
  [("base64", '1', .large), ("base64url", '2', .largeNames), ("base32", '3', .small),
    ("base32hex", '4', .smallDigits), ("base16", '5', .hex)]

/-- Writes bytes in the signs of an alphabet, or reads them. -/
def basenc : Program :=
  let t := alphabetOptions "basenc"
  withOptions
    { t with plain := t.plain ++ "12345", names := t.names ++ namedAlphabets.map fun (name, c, _) => (name, c) }
    fun o j =>
      match (namedAlphabets.filter fun (_, c, _) => o.has c).getLast? with
      | some (_, _, a) => runAlphabet "basenc" a o j
      | none => j.refuse 1 "basenc: missing encoding type\nTry 'basenc --help' for more information."

/-! ## Numbers and characters -/

/-- How bytes are shown: a letter, and how many bytes make one number. -/
structure Shape where
  letter : Char
  size : Nat

/-- The shapes that a text asks for. `fuel` is at least the number of characters. -/
def shapesOf? : Nat → List Char → Option (List Shape)
  | 0, _ => none
  | _, [] => some []
  | fuel + 1, 'z' :: cs => shapesOf? fuel cs
  | fuel + 1, c :: cs =>
    if c == 'c' || c == 'a' then (shapesOf? fuel cs).map (⟨c, 1⟩ :: ·)
    else if "xoud".toList.contains c then
      let digits := cs.takeWhile Char.isDigit
      let (size, rest) := match natOf? (String.ofList digits), cs with
        | some n, _ => (n, cs.drop digits.length)
        | none, 'C' :: rest => (1, rest)
        | none, 'S' :: rest => (2, rest)
        | none, 'I' :: rest => (4, rest)
        | none, 'L' :: rest => (8, rest)
        | none, rest => (4, rest)
      if [1, 2, 4, 8].contains size then (shapesOf? fuel rest).map (⟨c, size⟩ :: ·) else none
    else none

/-- How wide a number is shown. -/
def Shape.width (s : Shape) : Nat :=
  match s.letter, s.size with
  | 'c', _ | 'a', _ => 3
  | 'x', n => 2 * n
  | 'o', 1 => 3
  | 'o', 2 => 6
  | 'o', 4 => 11
  | 'o', _ => 22
  | 'u', 1 => 3
  | 'u', 2 => 5
  | 'u', 4 => 10
  | 'u', _ => 20
  | _, 1 => 4
  | _, 2 => 6
  | _, 4 => 11
  | _, _ => 20

/-- A byte as a character. -/
def shownChar (b : UInt8) : String :=
  match b.toNat with
  | 0 => "\\0"
  | 7 => "\\a"
  | 8 => "\\b"
  | 9 => "\\t"
  | 10 => "\\n"
  | 11 => "\\v"
  | 12 => "\\f"
  | 13 => "\\r"
  | n =>
    if 32 ≤ n && n < 127 then (Char.ofNat n).toString
    else Nat.repr (n / 64) ++ Nat.repr (n / 8 % 8) ++ Nat.repr (n % 8)

/-- Names of bytes that are no characters. -/
def byteNames : List String :=
  ["nul", "soh", "stx", "etx", "eot", "enq", "ack", "bel", "bs", "ht", "nl", "vt", "ff", "cr", "so", "si",
    "dle", "dc1", "dc2", "dc3", "dc4", "nak", "syn", "etb", "can", "em", "sub", "esc", "fs", "gs", "rs",
    "us", "sp"]

/-- A byte by its name. -/
def namedByte (b : UInt8) : String :=
  let n := b.toNat % 128
  if n == 127 then "del" else (byteNames[n]?).getD (Char.ofNat n).toString

/-- A number with zeros before it. -/
def zeroPadded (width : Nat) (digits : String) : String :=
  String.ofList (List.replicate (width - digits.length) '0') ++ digits

/-- One number or character. -/
def Shape.item (s : Shape) (bs : Bytes) : String :=
  let n := numberOf (bs ++ List.replicate (s.size - bs.length) 0).reverse
  let text := match s.letter with
    | 'c' => shownChar (bs.headD 0)
    | 'a' => namedByte (bs.headD 0)
    | 'x' => zeroPadded s.width (Conversion.digitsIn 16 false n)
    | 'o' => zeroPadded s.width (Conversion.digitsIn 8 false n)
    | 'u' => Nat.repr n
    | _ =>
      let half := Decimal.pow2 (8 * s.size - 1)
      if n < half then Nat.repr n else "-" ++ Nat.repr (2 * half - n)
  " " ++ padLeft s.width text

/-- A line in a shape. -/
def Shape.line (s : Shape) (bs : Bytes) : String :=
  String.join ((inPieces s.size bs.length bs).map s.item)

/-- Where a line begins. -/
def addressText (base : Char) (n : Nat) : String :=
  match base with
  | 'd' => zeroPadded 7 (Nat.repr n)
  | 'x' => zeroPadded 6 (Conversion.digitsIn 16 false n)
  | 'n' => ""
  | _ => zeroPadded 7 (Conversion.digitsIn 8 false n)

/-- Lines of bytes, where lines that repeat are shown once. -/
def dumpLines (shapes : List Shape) (base : Char) (showsAll : Bool) :
    Nat → Option Bytes → Bool → List Bytes → String
  | _, _, _, [] => ""
  | place, before, starred, line :: lines =>
    let next := place + line.length
    if !showsAll && before == some line && !lines.isEmpty then
      (if starred then "" else "*\n") ++ dumpLines shapes base showsAll next before true lines
    else
      let front := addressText base place
      let blank := String.ofList (List.replicate front.length ' ')
      let shown := shapes.zipIdx.map fun (s, i) => (if i == 0 then front else blank) ++ s.line line ++ "\n"
      String.join shown ++ dumpLines shapes base showsAll next (some line) false lines

/-- Writes bytes as numbers and characters. -/
def od : Program := withOptions
  { program := "od", plain := "vcbxoda", valued := "AtNjw"
    names := [("address-radix", 'A'), ("format", 't'), ("output-duplicates", 'v'), ("read-bytes", 'N'),
      ("skip-bytes", 'j'), ("width", 'w')] }
  fun o j => do
    let shapes := o.given.flatMap fun (letter, value) =>
      match letter with
      | 't' => ((shapesOf? (value.length + 1) value.toList).getD [])
      | 'c' => [⟨'c', 1⟩]
      | 'a' => [⟨'a', 1⟩]
      | 'b' => [⟨'o', 1⟩]
      | 'x' => [⟨'x', 2⟩]
      | 'o' => [⟨'o', 2⟩]
      | 'd' => [⟨'u', 2⟩]
      | _ => []
    let shapes := if shapes.isEmpty then [⟨'o', 2⟩] else shapes
    let base := ((o.value? 'A').bind (·.toList.head?)).getD 'o'
    let g ← j.gather "od" o.operands
    let skipped := ((o.value? 'j').bind natOf?).getD 0
    let bytes := g.bytes.drop skipped
    let bytes := match (o.value? 'N').bind natOf? with
      | some n => bytes.take n
      | none => bytes
    let width := ((o.value? 'w').bind natOf?).getD 16
    let body := dumpLines shapes base (o.has 'v') skipped none false (inPieces width bytes.length bytes)
    let last := addressText base (skipped + bytes.length)
    return g.finish (Text.bytes (body ++ (if last.isEmpty then "" else last ++ "\n")))

end Recap.Tool
