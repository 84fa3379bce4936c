import Recap.Decimal.Rounding
import Recap.Programs.Tool.Options

/-!
# Beginnings and ends

## Contents
- `sizeOf?` — numbers with suffixes that multiply them.
- `Amount` — how much is taken, and from where.
- `head`, `tail` — write the beginnings and ends of files.
-/

namespace Recap.Tool

open Recap.Shell

/-! ## Amounts -/

/-- The factor of a suffix behind a number: a letter, which can have others behind it that say whether it stands
    for powers of ten or of two. -/
def suffixFactor? (cs : List Char) : Option Nat :=
  let letters := "kMGTPEZY".toList
  let place (c : Char) : Option Nat :=
    (letters.idxOf? (if c == 'K' then 'k' else if c == 'm' then 'M' else c)).map (· + 1)
  match cs with
  | [] => some 1
  | ['b'] => some 512
  | [c] | [c, 'i', 'B'] => (place c).map fun n => Decimal.pow2 (10 * n)
  | [c, 'B'] | [c, 'D'] => (place c).map fun n => Decimal.pow10 (3 * n)
  | _ => none

/-- A number with a suffix, or why it is none. A suffix alone stands for one of its units. -/
def sizeOf? (text : String) : Except String Nat :=
  let cs := text.toList.dropWhile Char.isWhitespace
  let cs := if cs.head? == some '+' then cs.drop 1 else cs
  let digits := cs.takeWhile Char.isDigit
  let suffix := cs.drop digits.length
  match suffixFactor? suffix with
  | none => .error ""
  | some factor =>
    if digits.isEmpty && suffix.isEmpty then .error ""
    else
      let n := if digits.isEmpty then 1 else (natOf? (String.ofList digits)).getD 0
      if 0xffffffffffffffff < n * factor then .error ": Value too large for defined data type" else .ok (n * factor)

/-- How much to take. -/
structure Amount where
  /-- Counted in bytes, not in lines. -/
  inBytes : Bool
  /-- Counted from the other end. -/
  turned : Bool
  count : Nat

/-- The pieces of bytes that are counted. -/
def Amount.pieces (a : Amount) (ending : UInt8) (bs : Bytes) : List Bytes :=
  if a.inBytes then bs.map ([·]) else keptPieces ending bs

/-- Takes an amount from the beginning. -/
def Amount.first (a : Amount) (ending : UInt8) (bs : Bytes) : Bytes :=
  let pieces := a.pieces ending bs
  (pieces.take (if a.turned then pieces.length - a.count else a.count)).flatten

/-- Takes an amount from the end. -/
def Amount.last (a : Amount) (ending : UInt8) (bs : Bytes) : Bytes :=
  let pieces := a.pieces ending bs
  (pieces.drop (if a.turned then a.count - 1 else pieces.length - a.count)).flatten

/-- The amount that options ask for; `sign` is the sign before a number that turns it around. -/
def Options.amount (o : Options) (sign : Char) : Except String Amount :=
  match (o.given.filter fun e => e.1 == 'n' || e.1 == 'c').getLast? with
  | none => .ok ⟨false, false, 10⟩
  | some (letter, text) =>
    let cs := text.toList
    let turned := cs.head? == some sign
    let bare := if cs.head? == some '-' then String.ofList (cs.drop 1) else text
    match sizeOf? bare with
    | .ok n => .ok ⟨letter == 'c', turned, n⟩
    | .error why =>
      if sign == '+' && !why.isEmpty then .ok ⟨letter == 'c', turned, 0xffffffffffffffff⟩
      else
        .error ("invalid number of " ++ (if letter == 'c' then "bytes" else "lines") ++ ": " ++ Text.quoted bare ++ why)

/-! ## Parts of files -/

/-- The words for what cannot be read where a part of it is wanted. -/
def partWording (program : String) : Wording := fun name fault =>
  program ++ (if fault == .isDirectory then ": error reading " else ": cannot open ") ++ Text.namedAlways name ++
    (if fault == .isDirectory then ": " else " for reading: ") ++ fault.phrase

/-- Writes a part of each file, with a title if there are several. -/
def writeParts (t : OptionTable) (sign : Char) (part : Amount → UInt8 → Bytes → Bytes) : Program :=
  withOptions t fun o j => do
    match o.given.find? fun e => e.1.isDigit, o.amount sign with
    | some (digit, _), _ =>
      if sign == '+' then j.refuse 1 (t.program ++ ": option used in invalid context -- " ++ digit.toString)
      else j.refuse 1 (hinted t.program ("invalid trailing option -- " ++ digit.toString))
    | none, .error complaint => j.refuse 1 (t.program ++ ": " ++ complaint)
    | none, .ok a =>
      let g ← j.gatherWith (partWording t.program) o.operands
      let ending := if o.has 'z' then 0 else newline
      let header := (o.given.filter fun e => e.1 == 'q' || e.1 == 'v').getLast?
      let titled := match header with
        | some (letter, _) => letter == 'v'
        | none => 1 < o.operands.length
      let title (i : Nat) (s : Source) : Bytes :=
        if titled then
          Text.bytes ((if i == 0 then "" else "\n") ++ "==> " ++
            (if s.name == "-" then "standard input" else s.name) ++ " <==\n")
        else []
      let parts := g.sources.zipIdx.flatMap fun (s, i) => title i s ++ part a ending s.bytes
      let rest := if j.inputIsFile && sign == '-' && o.operands.isEmpty && !a.turned then
        j.input.drop (part a ending j.input).length else g.rest
      return { g.finish parts with rest }

/-- The names of options of both programs. -/
def partNames : List (String × Char) :=
  [("bytes", 'c'), ("lines", 'n'), ("quiet", 'q'), ("silent", 'q'), ("verbose", 'v'), ("zero-terminated", 'z')]

/-- The options that letters behind a bare number stand for. -/
def spellHead (digits : List Char) : (letters : List Char) → (unit : Char) → (multiple : List Char) →
    (more : List String) → Except Char (List String)
  | [], unit, multiple, more => .ok (more ++ [String.ofList (['-', unit] ++ digits ++ multiple)])
  | c :: cs, unit, multiple, more =>
    match c with
    | 'c' => spellHead digits cs 'c' [] more
    | 'b' | 'k' | 'm' => spellHead digits cs 'c' [c] more
    | 'l' => spellHead digits cs 'n' multiple more
    | 'q' | 'v' | 'z' => spellHead digits cs unit multiple (more ++ [String.ofList ['-', c]])
    | c => .error c

/-- Writes the beginning of what is in files. -/
def head : Program := fun j =>
  let run := writeParts { program := "head", plain := "qvz0123456789", valued := "nc", names := partNames } '-'
    Amount.first
  match j.arguments with
  | first :: rest =>
    match first.toList with
    | '-' :: c :: cs =>
      if c.isDigit then
        let digits := (c :: cs).takeWhile Char.isDigit
        match spellHead digits ((c :: cs).drop digits.length) 'n' [] [] with
        | .ok options => run { j with arguments := options ++ rest }
        | .error letter => j.refuse 1 (hinted "head" ("invalid trailing option -- " ++ letter.toString))
      else run j
    | _ => run j
  | [] => run j

/-- The options that a sign, a bare number and letters stand for. -/
def spellTail? (text : String) : Option (List String) :=
  match text.toList with
  | [] => none
  | sign :: cs =>
    let digits := cs.takeWhile Char.isDigit
    let after := cs.drop digits.length
    let (unit, count, after) : Char × List Char × List Char := match after with
      | 'b' :: more => ('c', (if digits.isEmpty then "10".toList else digits) ++ ['b'], more)
      | 'c' :: more => ('c', if digits.isEmpty then "10".toList else digits, more)
      | 'l' :: more => ('n', if digits.isEmpty then "10".toList else digits, more)
      | more => ('n', if digits.isEmpty then "10".toList else digits, more)
    let isHyphen := sign == '-' && (match cs with
      | [] | ['c'] => false
      | _ => true)
    if (sign == '+' || isHyphen) && (after.isEmpty || after == ['f']) then
      some [String.ofList (['-', unit] ++ (if sign == '+' then ['+'] else []) ++ count)]
    else none

/-- Writes the end of what is in files. -/
def tail : Program := fun j =>
  let run := writeParts
    { program := "tail", plain := "fFqvz0123456789@", valued := "ncs#%", attached := "&"
      names := partNames ++ [("follow", '&'), ("pid", '#'), ("retry", '@'), ("sleep-interval", 's'),
        ("max-unchanged-stats", '%')] } '+' Amount.last
  let isBare := match j.arguments.drop 1 with
    | [] => true
    | [name] => !(name.startsWith "-" && name != "-")
    | "--" :: more => more.length ≤ 1
    | _ => false
  match j.arguments.head?.bind spellTail?, isBare with
  | some options, true => run { j with arguments := options ++ j.arguments.drop 1 }
  | _, _ => run j

end Recap.Tool
