import Recap.Programs.Tool.Count
import Recap.Programs.Tool.Copy
import Recap.Programs.Tool.Number

/-!
# Order

Lines are compared by keys, which are parts of them. Where no key tells lines apart, all of their bytes
do.

## Contents
- `Numeral`, `Scaled`, `monthOf`, `compareVersions` — what keys can be compared as.
- `KeyManner`, `SortKey` — how keys are compared, and where they are in a line.
- `sort` — lines in order.
-/

namespace Recap.Tool

open Recap.Shell

/-! ## Comparing -/

/-- How bytes compare. -/
def compareBytes : Bytes → Bytes → Ordering
  | [], [] => .eq
  | [], _ :: _ => .lt
  | _ :: _, [] => .gt
  | a :: as, b :: bs => if a < b then .lt else if b < a then .gt else compareBytes as bs

/-- Whether a byte is a space or a tab. -/
def isGap (b : UInt8) : Bool := b == 32 || b == 9 || b == newline

/-- The number at the beginning of a text, by its digits. -/
structure Numeral where
  negative : Bool
  whole : List Char
  fraction : List Char

/-- Reads the number at the beginning of a text, and what comes after it; without digits it is zero. -/
def Numeral.ofText (text : String) : Numeral × List Char :=
  let cs := text.toList.dropWhile fun c => c == ' ' || c == '\t'
  let (negative, cs) := match cs with
    | '-' :: cs => (true, cs)
    | cs => (false, cs)
  let whole := (cs.takeWhile Char.isDigit).dropWhile (· == '0')
  let (fraction, rest) := match cs.dropWhile Char.isDigit with
    | '.' :: cs => (((cs.takeWhile Char.isDigit).reverse.dropWhile (· == '0')).reverse, cs.dropWhile Char.isDigit)
    | cs => ([], cs)
  if whole.isEmpty && fraction.isEmpty then (⟨false, [], []⟩, rest) else (⟨negative, whole, fraction⟩, rest)

/-- How digits of fractions compare. -/
def compareDigits : List Char → List Char → Ordering
  | [], [] => .eq
  | [], _ => .lt
  | _, [] => .gt
  | a :: as, b :: bs => if a < b then .lt else if b < a then .gt else compareDigits as bs

/-- How numbers compare. -/
def Numeral.compare (a b : Numeral) : Ordering :=
  let magnitude :=
    (Ord.compare a.whole.length b.whole.length).then
      ((compareDigits a.whole b.whole).then (compareDigits a.fraction b.fraction))
  match a.negative, b.negative with
  | false, false => magnitude
  | true, true => magnitude.swap
  | true, false => .lt
  | false, true => .gt

/-- The place of the suffix of a number among suffixes; below zero for numbers below zero. -/
def suffixPlace (text : String) : Int :=
  let (n, rest) := Numeral.ofText text
  if n.whole.isEmpty && n.fraction.isEmpty then 0
  else
    let place : Int := match rest with
      | 'k' :: _ => 1
      | c :: _ => (("KMGTPEZY".toList.idxOf? c).map fun (i : Nat) => (i : Int) + 1).getD 0
      | [] => 0
    if n.negative then -place else place

/-- How numbers with suffixes compare. -/
def compareScaled (a b : String) : Ordering :=
  (Ord.compare (suffixPlace a) (suffixPlace b)).then ((Numeral.ofText a).1.compare (Numeral.ofText b).1)

/-- How numbers in any writing compare: what is none comes first, then what is not a number. -/
def compareReals (a b : String) : Ordering :=
  let rank (s : String) : Nat × Float :=
    match takeReal? (s.toList.dropWhile Char.isWhitespace) with
    | none => (0, 0.0)
    | some (x, _) => if x.isNaN then (1, 0.0) else (2, x)
  let (x, y) := (rank a, rank b)
  (Ord.compare x.1 y.1).then (if x.2 < y.2 then .lt else if y.2 < x.2 then .gt else .eq)

/-- The number of the month that a text begins with, or zero. -/
def monthOf (text : String) : Nat :=
  let cs := ((text.toList.dropWhile fun c => c == ' ' || c == '\t').take 3).map Char.toUpper
  (((["JAN", "FEB", "MAR", "APR", "MAY", "JUN", "JUL", "AUG", "SEP", "OCT", "NOV", "DEC"].map String.toList).idxOf?
    cs).map (· + 1)).getD 0

/-! ## Versions -/

/-- The rank of what stands between the numbers of versions. -/
def versionRank : List Char → Int
  | [] => -1
  | c :: _ =>
    if c.isDigit then 0
    else if c.isAlpha then c.toNat
    else if c == '~' then -2
    else c.toNat + 256

/-- How the parts of versions compare, numbers as such. `fuel` is more than the number of characters. -/
def compareParts : Nat → List Char → List Char → Ordering
  | 0, _, _ => .eq
  | fuel + 1, a, b =>
    let startsText (cs : List Char) : Bool := (cs.head?.map fun c => !c.isDigit).getD false
    if a.isEmpty && b.isEmpty then .eq
    else if startsText a || startsText b then
      match Ord.compare (versionRank a) (versionRank b) with
      | .eq => compareParts fuel (a.drop 1) (b.drop 1)
      | order => order
    else
      let number (cs : List Char) : List Char := (cs.takeWhile Char.isDigit).dropWhile (· == '0')
      let (x, y) := (number a, number b)
      match (Ord.compare x.length y.length).then (compareDigits x y) with
      | .eq => compareParts fuel (a.dropWhile Char.isDigit) (b.dropWhile Char.isDigit)
      | order => order

/-- A name without the suffixes behind points at its end. `fuel` is more than the number of characters. -/
def withoutSuffixes : Nat → List Char → List Char
  | 0, cs => cs
  | fuel + 1, cs =>
    let last := cs.reverse.takeWhile fun c => c.isAlphanum || c == '~'
    match cs.reverse.drop last.length, last.reverse with
    | '.' :: before, c :: _ =>
      if c.isDigit || before.isEmpty then cs else withoutSuffixes fuel before.reverse
    | _, _ => cs

/-- How versions compare. -/
def compareVersions (a b : String) : Ordering :=
  let (a, b) := (a.toList, b.toList)
  let dotted (cs : List Char) : Nat :=
    match cs with
    | [] => 0
    | ['.'] => 1
    | ['.', '.'] => 2
    | '.' :: _ => 3
    | _ => 4
  let size := a.length + b.length + 1
  (Ord.compare (dotted a) (dotted b)).then
    ((compareParts size (withoutSuffixes size a) (withoutSuffixes size b)).then (compareParts size a b))

/-! ## Keys -/

/-- What keys are compared as. -/
inductive Sense where
  | text
  | number
  | anyNumber
  | scaled
  | month
  | version
  deriving DecidableEq

/-- How keys are compared. -/
structure KeyManner where
  letters : List Char

/-- Whether a letter was given. -/
def KeyManner.has (m : KeyManner) (c : Char) : Bool := m.letters.contains c

/-- What keys are compared as. -/
def KeyManner.sense (m : KeyManner) : Sense :=
  if m.has 'n' then .number
  else if m.has 'g' then .anyNumber
  else if m.has 'h' then .scaled
  else if m.has 'M' then .month
  else if m.has 'V' then .version
  else .text

/-- The letters that say how keys are compared. -/
def mannerLetters : List Char := "bdfghiMnRrV".toList

/-- The letters of a manner that do not go together, if any do not. -/
def KeyManner.clash? (m : KeyManner) : Option String :=
  let kinds := ["n", "g", "h", "M", "VRdi"].filter fun k => k.toList.any m.has
  if 1 < kinds.length then
    some (String.ofList ((mannerLetters.filter fun c => c != 'b' && c != 'r').filter m.has))
  else none

/-- A part of a line that is compared. -/
structure SortKey where
  /-- The fields and the characters before the part. -/
  field : Nat
  char : Nat
  /-- The fields before the last one, and the characters of the last one that belong to the part: all of
      them if the number is zero. Without a last field, the part goes to the end of the line. -/
  stop : Option (Nat × Nat)
  manner : KeyManner
  /-- Whether blanks are left out before characters are counted. -/
  skipsAtStart : Bool
  skipsAtEnd : Bool

/-- The part of a line behind some fields. -/
def afterFields (separator : Option UInt8) : Nat → Bytes → Bytes
  | 0, bs => bs
  | n + 1, bs =>
    match separator with
    | some b => afterFields separator n ((bs.dropWhile (· != b)).drop 1)
    | none => afterFields separator n ((bs.dropWhile isGap).dropWhile fun b => !isGap b)

/-- The number of bytes up to the end of a key. -/
def SortKey.limit (k : SortKey) (separator : Option UInt8) (line : Bytes) : Nat :=
  match k.stop with
  | none => line.length
  | some (fields, 0) =>
    let before := line.length - (afterFields separator fields line).length
    let rest := line.drop before
    match separator with
    | some b => before + (rest.takeWhile (· != b)).length
    | none => line.length - (afterFields none 1 rest).length
  | some (fields, chars) =>
    let rest := afterFields separator fields line
    let rest := if k.skipsAtEnd then rest.dropWhile isGap else rest
    min line.length (line.length - rest.length + chars)

/-- The part of a line that a key compares. -/
def SortKey.part (k : SortKey) (separator : Option UInt8) (line : Bytes) : Bytes :=
  let rest := afterFields separator k.field line
  let rest := if k.skipsAtStart then rest.dropWhile isGap else rest
  let start := min line.length (line.length - rest.length + k.char)
  (line.take (k.limit separator line)).drop start

/-- A small letter as a capital one. -/
def capital (b : UInt8) : UInt8 := if 97 ≤ b && b ≤ 122 then b - 32 else b

/-- Whether a byte is a letter or a digit. -/
def isPlainByte (b : UInt8) : Bool :=
  (48 ≤ b && b ≤ 57) || (65 ≤ b && b ≤ 90) || (97 ≤ b && b ≤ 122)

/-- How lines compare by a key. -/
def SortKey.compare (k : SortKey) (separator : Option UInt8) (a b : Bytes) : Ordering :=
  let (a, b) := (k.part separator a, k.part separator b)
  let (s, t) := (Text.ofBytes a, Text.ofBytes b)
  let order := match k.manner.sense with
    | .number => (Numeral.ofText s).1.compare (Numeral.ofText t).1
    | .anyNumber => compareReals s t
    | .scaled => compareScaled s t
    | .month => Ord.compare (monthOf s) (monthOf t)
    | .version => compareVersions s t
    | .text =>
      let shape (bs : Bytes) : Bytes :=
        let bs := if k.manner.has 'd' then bs.filter fun b => isPlainByte b || isGap b
          else if k.manner.has 'i' then bs.filter fun b => 32 ≤ b && b < 127
          else bs
        if k.manner.has 'f' then bs.map capital else bs
      compareBytes (shape a) (shape b)
  if k.manner.has 'r' then order.swap else order

/-- A number in a key, and what comes after it. -/
def keyNumber (complaint : String) (cs : List Char) : Except String (Nat × List Char) :=
  match natOf? (String.ofList (cs.takeWhile Char.isDigit)) with
  | some n => .ok (n, cs.dropWhile Char.isDigit)
  | none => .error (complaint ++ ": invalid count at start of " ++ Text.quoted (String.ofList cs))

/-- A field and a character of it, with the letters behind them, and what comes after them. -/
def keyPlace (whole complaint : String) (cs : List Char) :
    Except String ((Nat × Option Nat × List Char) × List Char) := do
  let wrong (what : String) : Except String Unit := .error (what ++ ": invalid field specification " ++ Text.quoted whole)
  let (field, cs) ← keyNumber complaint cs
  if field == 0 then wrong "field number is zero"
  let (char, cs) ← match cs with
    | '.' :: rest => do
      let (n, rest) ← keyNumber "invalid number after '.'" rest
      pure (some n, rest)
    | cs => pure (none, cs)
  let letters := cs.takeWhile mannerLetters.contains
  return ((field, char, letters), cs.drop letters.length)

/-- The key that a text says; without letters of its own it takes the shared ones. -/
def SortKey.ofText (shared : List Char) (text : String) : Except String SortKey := do
  let wrong (what : String) : Except String SortKey := .error (what ++ ": invalid field specification " ++ Text.quoted text)
  let ((field, char, letters), rest) ← keyPlace text "invalid number at field start" text.toList
  if char == some 0 then return ← wrong "character offset is zero"
  let (stop, more, rest) ← match rest with
    | ',' :: rest => do
      let ((last, chars, more), rest) ← keyPlace text "invalid number after ','" rest
      pure (some (last - 1, chars.getD 0), more, rest)
    | rest => pure (none, [], rest)
  if !rest.isEmpty then return ← wrong "stray character in field spec"
  let own := letters ++ more
  let shared := shared.filter mannerLetters.contains
  let inherits := own.isEmpty
  return { field := field - 1, char := char.getD 1 - 1, stop
           manner := ⟨if inherits then shared else own⟩
           skipsAtStart := if inherits then shared.contains 'b' else letters.contains 'b'
           skipsAtEnd := if inherits then shared.contains 'b' else more.contains 'b' }

/-- Keeps the first of lines that compare alike. -/
def dropAlike (compare : Bytes → Bytes → Ordering) : List Bytes → List Bytes
  | a :: b :: lines =>
    if compare a b == .eq then dropAlike compare (a :: lines) else a :: dropAlike compare (b :: lines)
  | lines => lines
termination_by lines => lines.length

/-! ## The program -/

/-- The options of sorting. -/
def sortOptions : OptionTable :=
  { program := "sort", plain := "bdfghiMnRrVsucCmz", valued := "ktoST%@", attached := "#", refusal := 2
    names := [("reverse", 'r'), ("numeric-sort", 'n'), ("unique", 'u'), ("key", 'k'), ("stable", 's'),
      ("field-separator", 't'), ("ignore-case", 'f'), ("ignore-leading-blanks", 'b'), ("output", 'o'),
      ("check", '#'), ("general-numeric-sort", 'g'), ("human-numeric-sort", 'h'),
      ("dictionary-order", 'd'), ("ignore-nonprinting", 'i'), ("month-sort", 'M'), ("random-sort", 'R'),
      ("version-sort", 'V'), ("merge", 'm'), ("zero-terminated", 'z'), ("buffer-size", 'S'),
      ("temporary-directory", 'T'), ("sort", '%'), ("parallel", '@')] }

/-- The words for what keys are compared as, and their letters. -/
def sortWords : List (String × Char) :=
  [("general-numeric", 'g'), ("human-numeric", 'h'), ("month", 'M'), ("numeric", 'n'), ("random", 'R'),
    ("version", 'V')]

/-- How sorting is asked for. -/
structure SortPlan where
  keys : List SortKey
  separator : Option UInt8
  /-- Whether lines that no key tells apart are told apart by all of their bytes. -/
  resorts : Bool
  reversed : Bool

/-- How lines compare by the keys alone. -/
def SortPlan.byKeys (p : SortPlan) (a b : Bytes) : Ordering :=
  p.keys.foldl (fun order k => order.then (k.compare p.separator a b)) .eq

/-- How lines compare. -/
def SortPlan.compare (p : SortPlan) (a b : Bytes) : Ordering :=
  (p.byKeys a b).then
    (if p.resorts then if p.reversed then compareBytes b a else compareBytes a b else .eq)

/-- The plan that options ask for. -/
def SortPlan.ofOptions (o : Options) : Except String SortPlan := do
  let words ← (o.values '%').mapM fun word =>
    match sortWords.lookup word with
    | some c => .ok c
    | none =>
      .error ("invalid argument " ++ Text.quoted word ++ " for '--sort'\nValid arguments are:\n" ++
        String.join (sortWords.map fun (w, _) => "  - '" ++ w ++ "'\n") ++
        "Try 'sort --help' for more information.")
  let shared := o.given.map (·.1) ++ words
  let separator ← match o.value? 't' with
    | none => pure none
    | some "\\0" => pure (some 0)
    | some text =>
      match Text.bytes text with
      | [] => throw "empty tab"
      | [b] => pure (some b)
      | _ => throw ("multi-character tab " ++ Text.quoted text)
  let own ← (o.values 'k').mapM (SortKey.ofText shared)
  let whole : SortKey :=
    { field := 0, char := 0, stop := none, manner := ⟨shared⟩, skipsAtStart := shared.contains 'b'
      skipsAtEnd := false }
  let keys := if own.isEmpty then [whole] else own
  match keys.findSome? (·.manner.clash?) with
  | some letters => throw ("options '-" ++ letters ++ "' are incompatible")
  | none =>
    return { keys, separator, resorts := !o.has 's' && !o.has 'u', reversed := o.has 'r' }

/-- Writes lines in order. -/
def sort : Program := withOptions sortOptions fun o j => do
  match SortPlan.ofOptions o with
  | .error complaint => j.refuse (if complaint.startsWith "invalid argument" then 1 else 2) ("sort: " ++ complaint)
  | .ok p =>
    let g ← j.gatherWith
      (fun name fault =>
        "sort: " ++ (if fault == .isDirectory then "read failed: " else "cannot read: ") ++ Text.named name ++ ": " ++
          fault.phrase)
      o.operands
    if !g.err.isEmpty then
      return { g.finish [] with err := (keptLines g.err).headD [], status := .exited 2 }
    let ending := if o.has 'z' then 0 else newline
    let linesOf (bs : Bytes) : List Bytes := (keptPieces ending bs).map fun l => l.filter (· != ending)
    let files := g.sources.map fun s => linesOf s.bytes
    let lines := files.flatten
    if o.has 'c' || o.has 'C' || o.has '#' then
      let wrong := (lines.zip lines.tail).zipIdx.find? fun ((a, b), _) =>
        p.compare a b == .gt || (o.has 'u' && p.compare a b == .eq)
      match wrong with
      | none => return g.finish []
      | some ((_, b), i) =>
        let quiet := o.has 'C' || (o.value? '#').any ["quiet", "silent"].contains
        let name := (g.sources.head?.map (·.name)).getD "-"
        let complaint := "sort: " ++ name ++ ":" ++ Nat.repr (i + 2) ++ ": disorder: " ++ Text.decode b ++ "\n"
        return { g.finish [] with err := if quiet then [] else Text.bytes complaint, status := .exited 1 }
    let below (a b : Bytes) : Bool := p.compare a b != .gt
    let sorted := if o.has 'm' then files.foldl (fun done more => done.merge more below) []
      else lines.mergeSort below
    let kept := if o.has 'u' then dropAlike p.byKeys sorted else sorted
    let out := kept.flatMap (· ++ [ending])
    match o.value? 'o' with
    | none => return g.finish out
    | some name =>
      match ← (Call.writeBytes (j.path name) out false).ask with
      | .ok () => return g.finish []
      | .error fault => j.refuse 2 ("sort: open failed: " ++ name ++ ": " ++ fault.phrase)

end Recap.Tool
