import Recap.Programs.Shell.Token

/-!
# Braces

A word with braces is several words: one for each of the texts between commas, or for each number or
letter of a sequence such as `1..4`. Braces that hold neither stand for themselves.

## Contents
- `Atom` — the signs of a word.
- `takeBraced` — what stands between braces.
- `sequence?` — numbers and letters in sequence.
- `expandBraces` — the words that a word is.
-/

namespace Recap.Shell

/-- A sign of a word: a character without quotes, or another part. -/
inductive Atom where
  | char (c : Char)
  | part (p : Part)

/-- Whether a sign is a character. -/
def Atom.is (a : Atom) (c : Char) : Bool :=
  match a with
  | .char d => c == d
  | .part _ => false

/-- The signs of a word. -/
def atomsOf (w : Word) : List Atom :=
  w.flatMap fun
    | .text s false => s.toList.map Atom.char
    | p => [.part p]

/-- The word of signs. -/
def wordOf (as : List Atom) : Word :=
  as.foldl (fun w a => addPart w (match a with
    | .char c => .text c.toString false
    | .part p => p)) []

/-- Whether two full stops come next, and not right before a closing brace. -/
def startsRange : List Atom → Bool
  | .char '.' :: .char '.' :: a :: _ => !a.is '\x7d'
  | _ => false

/-- What stands between an opening brace and the one that closes it, and what comes after it. A brace
    closes another only if there is a comma or a range between them. -/
def takeBraced : Nat → Bool → List Atom → Option (List Atom × List Atom)
  | _, _, [] => none
  | level, divided, a :: as =>
    if a.is '\x7d' && level == 0 && divided then some ([], as)
    else
      let divided := divided || (level == 0 && (a.is ',' || startsRange (a :: as)))
      let level := if a.is '\x7b' then level + 1 else if a.is '\x7d' then level - 1 else level
      (takeBraced level divided as).map fun (inner, rest) => (a :: inner, rest)

/-- Signs divided at the commas that stand outside of other braces. -/
def splitAtCommas : Nat → List Atom → List (List Atom)
  | _, [] => [[]]
  | level, a :: as =>
    if a.is ',' && level == 0 then [] :: splitAtCommas 0 as
    else
      let level := if a.is '\x7b' then level + 1 else if a.is '\x7d' then level - 1 else level
      match splitAtCommas level as with
      | [] => [[a]]
      | first :: more => (a :: first) :: more

/-! ## Sequences -/

/-- The whole number that a text is. -/
def wholeNumber? (text : String) : Option Int :=
  let (negative, digits) := match text.toList with
    | '-' :: ds => (true, ds)
    | '+' :: ds => (false, ds)
    | ds => (false, ds)
  if digits.isEmpty || !digits.all Char.isDigit then none
  else
    let n : Int := digits.foldl (fun n d => n * 10 + (d.toNat - '0'.toNat)) 0
    some (if negative then -n else n)

/-- The most words that a sequence has. -/
def sequenceLimit : Nat := 100000

/-- The numbers from one to another, by a step. -/
def numbersBetween (first last : Int) (step : Nat) : List Int :=
  let step := if step == 0 then 1 else step
  let count := min ((last - first).natAbs / step + 1) sequenceLimit
  (List.range count).map fun i =>
    if first ≤ last then first + (i * step : Nat) else first - (i * step : Nat)

/-- Whether zeros before a number make it as wide as it is. -/
def isPadded (text : String) : Bool :=
  match text.toList with
  | '0' :: _ :: _ | '-' :: '0' :: _ :: _ => true
  | _ => false

/-- A number with zeros before its digits, up to a width. -/
def padded (width : Nat) (n : Int) : String :=
  let digits := Nat.repr n.natAbs
  let sign := if n < 0 then "-" else ""
  sign ++ String.ofList (List.replicate (width - sign.length - digits.length) '0') ++ digits

/-- The part that a letter of a sequence is: a backslash takes the meaning of nothing. -/
def letterPart (c : Char) : Part := if c == '\\' then .text "" true else .text c.toString false

/-- The words of a sequence: numbers or letters, by a step. -/
def sequence? (text : String) : Option (List Part) := do
  let (first, last, step) ← match text.splitOn ".." with
    | [first, last] => some (first, last, 1)
    | [first, last, step] => (wholeNumber? step).map fun n => (first, last, n.natAbs)
    | _ => none
  match wholeNumber? first, wholeNumber? last, first.toList, last.toList with
  | some a, some b, _, _ =>
    let width := if isPadded first || isPadded last then max first.length last.length else 0
    some ((numbersBetween a b step).map fun n => .text (padded width n) false)
  | none, none, [a], [b] =>
    if a.isAlpha && b.isAlpha then
      some ((numbersBetween a.toNat b.toNat step).map fun n => letterPart (Char.ofNat n.toNat))
    else none
  | _, _, _, _ => none

/-- The character that a sign is. -/
def Atom.char? : Atom → Option Char
  | .char c => some c
  | .part _ => none

/-- The text of signs that are all characters. -/
def plainAtoms? (as : List Atom) : Option String := (as.mapM Atom.char?).map String.ofList

/-! ## Words -/

/-- The words that signs are. `fuel` is more than their number. -/
def expandAtoms : Nat → List Atom → List (List Atom)
  | 0, as => [as]
  | _, [] => [[]]
  | fuel + 1, a :: as =>
    let braced := if a.is '\x7b' then takeBraced 0 false as else none
    match braced with
    | none => (expandAtoms fuel as).map (a :: ·)
    | some (inner, rest) =>
      let after := expandAtoms fuel rest
      let choices := if inner.any (·.is ',') then (splitAtCommas 0 inner).flatMap (expandAtoms fuel)
        else
          match (plainAtoms? inner).bind sequence? with
          | some parts => parts.map fun p => [Atom.part p]
          | none => [a :: inner ++ [.char '\x7d']]
      choices.flatMap fun choice => after.map (choice ++ ·)

/-- The words that a word is. Those of which nothing is left are no words. -/
def expandBraces (w : Word) : List Word :=
  let as := atomsOf w
  if as.any (·.is '\x7b') then ((expandAtoms (as.length + 1) as).map wordOf).filter (!·.isEmpty) else [w]

end Recap.Shell
