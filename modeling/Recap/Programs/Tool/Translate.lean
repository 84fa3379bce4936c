import Recap.Programs.Tool.Options

/-!
# Replacing bytes

Bytes of one set become bytes of another, at the same places. A set is written as bytes, spans of bytes,
classes, and bytes that are repeated; a class of letters of one size stands for turning letters into those of
the other size where both sets have one at the same place.

## Contents
- `SetSign`, `signsOf` — sets as they are written, with backslashes resolved.
- `SetPiece`, `readSet` — sets in pieces.
- `Replacement`, `pairUp` — what becomes what.
- `tr` — replaces or deletes bytes.
-/

namespace Recap.Tool

open Recap.Shell

/-! ## Sets as they are written -/

/-- The bytes from one to another. -/
def byteRange (a b : UInt8) : Bytes :=
  (List.range (b.toNat + 1 - a.toNat)).map fun i => UInt8.ofNat (a.toNat + i)

/-- Classes of bytes by their names. -/
def byteClasses : List (String × Bytes) :=
  let upper := byteRange 65 90
  let lower := byteRange 97 122
  let digit := byteRange 48 57
  [("upper", upper), ("lower", lower), ("digit", digit), ("alpha", upper ++ lower),
    ("alnum", digit ++ upper ++ lower), ("space", byteRange 9 13 ++ [32]), ("blank", [9, 32]),
    ("punct", byteRange 33 47 ++ byteRange 58 64 ++ byteRange 91 96 ++ byteRange 123 126),
    ("print", byteRange 32 126), ("graph", byteRange 33 126), ("cntrl", byteRange 0 31 ++ [127]),
    ("xdigit", digit ++ byteRange 65 70 ++ byteRange 97 102)]

/-- A byte of a set, and whether a backslash makes it stand for itself. -/
structure SetSign where
  byte : UInt8
  escaped : Bool

/-- Whether a sign is a byte that has a meaning. -/
def SetSign.means (s : SetSign) (b : UInt8) : Bool := s.byte == b && !s.escaped

/-- The byte that a letter after a backslash stands for. -/
def escapedSign (c : UInt8) : UInt8 :=
  match c.toNat with
  | 97 => 7
  | 98 => 8
  | 102 => 12
  | 110 => 10
  | 114 => 13
  | 116 => 9
  | 118 => 11
  | _ => c

/-- Resolves the backslashes of a set; also what there is to warn about. `fuel` is at least the number of
    bytes. -/
def signsOf : (fuel : Nat) → Bytes → List SetSign × List String
  | 0, _ | _, [] => ([], [])
  | fuel + 1, 92 :: bs =>
    match bs with
    | [] => ([⟨92, true⟩], ["warning: an unescaped backslash at end of string is not portable"])
    | c :: rest =>
      if 48 ≤ c && c ≤ 55 then
        let digits := (bs.takeWhile fun d => 48 ≤ d && d ≤ 55).take 3
        let n := digits.foldl (fun n d => n * 8 + (d.toNat - 48)) 0
        let shown (ds : Bytes) : String := Text.decode ds
        let (size, warnings) : Nat × List String :=
          if 255 < n then
            (2, ["warning: the ambiguous octal escape \\" ++ shown digits ++
              " is being\n\tinterpreted as the 2-byte sequence \\0" ++ shown (digits.take 2) ++ ", " ++
              shown (digits.drop 2)])
          else (digits.length, [])
        let (signs, more) := signsOf fuel (bs.drop size)
        (⟨UInt8.ofNat (if 255 < n then n / 8 else n), true⟩ :: signs, warnings ++ more)
      else
        let (signs, more) := signsOf fuel rest
        (⟨escapedSign c, true⟩ :: signs, more)
  | fuel + 1, b :: bs =>
    let (signs, more) := signsOf fuel bs
    (⟨b, false⟩ :: signs, more)

/-- Bytes in a complaint. -/
def shownBytes (bs : Bytes) : String :=
  String.join (bs.map fun b =>
    if b == 92 then "\\\\" else if Text.isPrintable b then (Char.ofNat b.toNat).toString else Text.escapeOf b)

/-- A byte in a complaint. -/
def shownByte (b : UInt8) : String :=
  let octal (n : Nat) : Char := Char.ofNat ('0'.toNat + n % 8)
  if Text.isPrintable b then (Char.ofNat b.toNat).toString
  else String.ofList ['\\', octal (b.toNat / 64), octal (b.toNat / 8), octal b.toNat]

/-! ## Sets in pieces -/

/-- A piece of a set. -/
inductive SetPiece where
  | one (b : UInt8)
  | range (first last : UInt8)
  | klass (name : String)
  /-- All that is equal to a byte. -/
  | equals (b : UInt8)
  /-- A byte a number of times; zero times stands for as often as it takes to fill the set. -/
  | repeated (b : UInt8) (count : Nat)

/-- The bytes of a piece. -/
def SetPiece.bytes : SetPiece → Bytes
  | .one b | .equals b => [b]
  | .range first last => byteRange first last
  | .klass name => (byteClasses.lookup name).getD []
  | .repeated b count => List.replicate count b

/-- How often a byte can be repeated. -/
def mostRepeats : Nat := 0x7fffffffffffffff

/-- A byte that is repeated, after its bracket, and what follows it. -/
def repeated? (signs : List SetSign) : Option (Except String (SetPiece × List SetSign)) :=
  match signs with
  | c :: star :: rest =>
    let count := rest.takeWhile fun s => !s.escaped && s.byte != 93
    match rest.drop count.length with
    | close :: after =>
      if !star.means 42 || close.escaped then none
      else
        let digits := count.map (·.byte)
        let isOctal := digits.head? == some 48
        let base := if isOctal then 8 else 10
        let most : UInt8 := if isOctal then 55 else 57
        let n := digits.foldl (fun n d => n * base + (d.toNat - 48)) 0
        if digits.all (fun d => 48 ≤ d && d ≤ most) && n ≤ mostRepeats then some (.ok (.repeated c.byte n, after))
        else some (.error ("invalid repeat count " ++ Text.quoted (shownBytes digits) ++ " in [c*n] construct"))
    | [] => none
  | _ => none

/-- What stands up to a byte and a closing bracket, and what follows them. -/
def takeClosing (b : UInt8) : List SetSign → Option (Bytes × List SetSign)
  | s :: t :: rest =>
    if s.means b && t.means 93 then some ([], rest)
    else (takeClosing b (t :: rest)).map fun (name, after) => (s.byte :: name, after)
  | _ => none

/-- A class, after its bracket, and what follows it. -/
def classAt? (signs : List SetSign) : Option (Except String (SetPiece × List SetSign)) :=
  match signs with
  | kind :: rest =>
    if !kind.means 58 && !kind.means 61 then none
    else
      match takeClosing kind.byte rest with
      | none => none
      | some (name, after) =>
        let isRepeated : Bool := match rest with
          | star :: more => star.means 42 && ((more.dropWhile fun s => 48 ≤ s.byte && s.byte ≤ 57).head?.map
              (·.means 93)).getD false
          | [] => false
        if name.isEmpty then
          some (.error (if kind.byte == 58 then "missing character class name '[::]'"
            else "missing equivalence class character '[==]'"))
        else if kind.byte == 58 then
          match byteClasses.find? fun c => Text.bytes c.1 == name with
          | some (known, _) => some (.ok (.klass known, after))
          | none =>
            if isRepeated then none
            else some (.error ("invalid character class " ++ Text.quoted (shownBytes name)))
        else
          match name with
          | [b] => some (.ok (.equals b, after))
          | _ =>
            if isRepeated then none
            else some (.error (shownBytes name ++ ": equivalence class operand must be a single character"))
  | [] => none

/-- The pieces of a set. `fuel` is at least the number of signs. -/
def readSet : (fuel : Nat) → List SetSign → Except String (List SetPiece)
  | 0, _ | _, [] => .ok []
  | fuel + 1, s :: rest => do
    let special := if s.means 91 && 2 ≤ rest.length then (classAt? rest).or (repeated? rest) else none
    match special, rest with
    | some (.error complaint), _ => throw complaint
    | some (.ok (piece, after)), _ => return piece :: (← readSet fuel after)
    | none, hyphen :: last :: after =>
      if !hyphen.means 45 then return .one s.byte :: (← readSet fuel rest)
      else if last.byte < s.byte then
        throw ("range-endpoints of '" ++ shownByte s.byte ++ "-" ++ shownByte last.byte ++
          "' are in reverse collating sequence order")
      else return .range s.byte last.byte :: (← readSet fuel after)
    | none, _ => return .one s.byte :: (← readSet fuel rest)

/-- The number of bytes in pieces. -/
def sizeOfPieces (pieces : List SetPiece) : Nat := pieces.foldl (fun n p => n + p.bytes.length) 0

/-- Whether a piece fills its set. -/
def SetPiece.isFilling : SetPiece → Bool
  | .repeated _ 0 => true
  | _ => false

/-- Pieces of a set that is filled up to a size. -/
def fillPieces (size : Nat) (pieces : List SetPiece) : List SetPiece :=
  let missing := size - sizeOfPieces pieces
  pieces.map fun
    | .repeated b 0 => .repeated b missing
    | p => p

/-! ## What becomes what -/

/-- A byte, and what it becomes. -/
abbrev Replacement := UInt8 × UInt8

/-- The letters of a class of letters of one size. -/
def caseLetters? : SetPiece → Option Bytes
  | .klass "upper" => some (byteRange 65 90)
  | .klass "lower" => some (byteRange 97 122)
  | _ => none

/-- What becomes what, and how many bytes of the first set are left when the second is used up. Each of the
    bytes of a piece that have not been used stands before the pieces to come. `fuel` is more than the number of
    bytes. -/
def pairUp : (fuel : Nat) → Bytes → List SetPiece → Bytes → List SetPiece → Except String (List Replacement × Bytes)
  | 0, _, _, _, _ => .ok ([], [])
  | fuel + 1, olds, oldPieces, news, newPieces =>
    match olds, oldPieces, news, newPieces with
    | [], oldPieces, [], n :: newPieces =>
      match caseLetters? n, oldPieces with
      | some ns, o :: oldPieces =>
        match caseLetters? o with
        | some os => do
          let (pairs, left) ← pairUp fuel [] oldPieces [] newPieces
          return (os.zip ns ++ pairs, left)
        | none => .error "misaligned [:upper:] and/or [:lower:] construct"
      | some _, [] => .error "misaligned [:upper:] and/or [:lower:] construct"
      | none, oldPieces => pairUp fuel [] oldPieces n.bytes newPieces
    | olds, oldPieces, [], n :: newPieces =>
      if (caseLetters? n).isSome then .error "misaligned [:upper:] and/or [:lower:] construct"
      else pairUp fuel olds oldPieces n.bytes newPieces
    | olds, oldPieces, [], [] => .ok ([], olds ++ oldPieces.flatMap SetPiece.bytes)
    | [], o :: oldPieces, news, newPieces => pairUp fuel o.bytes oldPieces news newPieces
    | [], [], _, _ => .ok ([], [])
    | o :: olds, oldPieces, n :: news, newPieces => do
      let (pairs, left) ← pairUp fuel olds oldPieces news newPieces
      return ((o, n) :: pairs, left)

/-- What a byte becomes; the last replacement counts. -/
def replaceByte (pairs : List Replacement) (b : UInt8) : UInt8 := (pairs.reverse.lookup b).getD b

/-- Leaves one of bytes of a set that repeat. -/
def squeeze (set : Bytes) : Bytes → Bytes
  | a :: b :: bs => if a == b && set.contains a then squeeze set (b :: bs) else a :: squeeze set (b :: bs)
  | bs => bs

/-- Bytes that are in no set. -/
def otherBytes (set : Bytes) : Bytes := (byteRange 0 255).filter (!set.contains ·)

/-- What the bytes of one set become in another. Those for which the other has none become its last byte, if
    they are not to be left as they are. -/
def replacements (complemented truncated : Bool) (old new : List SetPiece) : Except String (List Replacement) := do
  let oldBytes := old.flatMap SetPiece.bytes
  let others := otherBytes oldBytes
  let olds := if complemented then others.map SetPiece.one else old
  let new := fillPieces (if complemented then others.length else oldBytes.length) new
  if new.any fun | .equals _ => true | _ => false then
    throw "[=c=] expressions may not appear in string2 when translating"
  if new.any fun | .klass name => name != "upper" && name != "lower" | _ => false then
    throw "when translating, the only character classes that may appear in\nstring2 are 'upper' and 'lower'"
  let size := sizeOfPieces olds + sizeOfPieces new + olds.length + new.length + 2
  let news := if complemented then (new.flatMap SetPiece.bytes).map SetPiece.one else new
  let (pairs, left) ← pairUp size [] olds [] news
  let isLonger := !left.isEmpty && !truncated
  if isLonger && (new.flatMap SetPiece.bytes).isEmpty then
    throw "when not truncating set1, string2 must be non-empty"
  match isLonger, new.getLast? with
  | true, some (.klass _) =>
    throw "when translating with string1 longer than string2,\nthe latter string must not end with a character class"
  | _, _ => pure ()
  let last := ((new.flatMap SetPiece.bytes).getLast?).getD 0
  let pairs := if truncated then pairs else pairs ++ left.map fun b => (b, last)
  let hasClass := old.any fun | .klass _ => true | _ => false
  let targets := (new.flatMap SetPiece.bytes).eraseDups
  let size := if isLonger then others.length else sizeOfPieces new
  if complemented && hasClass && (1 < targets.length || size != others.length) then
    throw ("when translating with complemented character classes,\n" ++
      "string2 must map all characters in the domain to one")
  return pairs

/-- Replaces or deletes bytes. -/
def tr : Program := withOptions
  { program := "tr", plain := "cCdst", mixed := false
    names := [("complement", 'c'), ("delete", 'd'), ("squeeze-repeats", 's'), ("truncate-set1", 't')] }
  fun o j => do
    let deletes := o.has 'd'
    let squeezes := o.has 's'
    let complemented := o.has 'c' || o.has 'C'
    let hint := "\nTry 'tr --help' for more information."
    let signs (text : String) : List SetSign × List String :=
      let bs := Text.bytes text
      signsOf bs.length bs
    let read (text : String) : Except String (List SetPiece) := readSet (signs text).1.length (signs text).1
    let chosen (pieces : List SetPiece) : Bytes :=
      let bs := pieces.flatMap SetPiece.bytes
      if complemented then otherBytes bs else bs
    let fewest := if deletes == squeezes then 2 else 1
    let most := if deletes && !squeezes then 1 else 2
    let warnings := match o.operands with
      | text :: rest =>
        (signs text).2 ++ match read text, rest with
          | .ok _, by' :: _ => (signs by').2
          | _, _ => []
      | [] => []
    let result : Except String Bytes := do
      match o.operands[most]?, o.operands with
      | _, [] => throw ("missing operand" ++ hint)
      | some extra, operands =>
        throw ("extra operand " ++ Text.quoted extra ++ (if operands.length == 2 then
          "\nOnly one string may be given when deleting without squeezing repeats." else "") ++ hint)
      | none, [text] =>
        if 1 < fewest then
          throw ("missing operand after " ++ Text.quoted text ++ (if squeezes then
            "\nTwo strings must be given when both deleting and squeezing repeats."
            else "\nTwo strings must be given when translating.") ++ hint)
        let old ← read text
        if old.any SetPiece.isFilling then throw "the [c*] repeat construct may not appear in string1"
        let set := chosen old
        return if deletes then j.input.filter (!set.contains ·) else squeeze set j.input
      | none, text :: by' :: _ =>
        let old ← read text
        let new ← read by'
        if old.any SetPiece.isFilling then throw "the [c*] repeat construct may not appear in string1"
        if 1 < (new.filter SetPiece.isFilling).length then
          throw "only one [c*] repeat construct may appear in string2"
        if deletes then
          if new.any SetPiece.isFilling then
            throw "the [c*] construct may appear in string2 only when translating"
          let set := chosen old
          return squeeze (new.flatMap SetPiece.bytes) (j.input.filter (!set.contains ·))
        else
          let pairs ← replacements complemented (o.has 't') old new
          let out := j.input.map (replaceByte pairs)
          let set := new.flatMap SetPiece.bytes ++ new.filterMap fun
            | .repeated b 0 => some b
            | _ => none
          return if squeezes then squeeze set out else out
    let warned := String.join (warnings.map fun w => "tr: " ++ w ++ "\n")
    let isMiscounted := o.operands.length < fewest || most < o.operands.length
    match result with
    | .ok out => return { Output.wrote out [] with err := Text.bytes warned }
    | .error complaint => j.refuse 1 ((if isMiscounted then "" else warned) ++ "tr: " ++ complaint)

end Recap.Tool
