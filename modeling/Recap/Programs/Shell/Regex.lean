/-!
# Regular expressions

Patterns that are looked for in a text. Where a pattern fits in several ways, the place furthest to
the left counts, and there the longest piece.

The positions that a pattern can lead to are kept as the bits of one number, so that a pattern is
followed from many positions at once.

## Contents
- `Regex` — patterns.
- `Regex.reach` — the positions that a pattern leads to.
- `Regex.trace`, `Regex.firstAt?`, `Regex.searchFrom?` — where a pattern fits, and its groups.
-/

namespace Recap.Shell

/-! ## Patterns -/

/-- Places between characters. -/
inductive Border where
  | textStart
  | textEnd
  /-- Also behind a newline. -/
  | lineStart
  /-- Also before a newline. -/
  | lineEnd
  | wordStart
  | wordEnd
  /-- Either end of a word. -/
  | wordEdge
  | noWordEdge
  deriving DecidableEq

/-- A pattern. -/
inductive Regex where
  /-- Fits nothing but the empty text. -/
  | empty
  | char (c : Char)
  | any
  /-- Characters in ranges, or outside of all of them. -/
  | oneOf (negated : Bool) (ranges : List (Char × Char))
  | border (b : Border)
  | group (number : Nat) (r : Regex)
  /-- What a group was. -/
  | again (number : Nat)
  | seq (a b : Regex)
  | either (a b : Regex)
  /-- Repeated, without end if there is no upper bound. -/
  | many (least : Nat) (most : Option Nat) (r : Regex)
  /-- Repeated as seldom as possible. -/
  | few (least : Nat) (most : Option Nat) (r : Regex)
  /-- Fits what another pattern does not. -/
  | other (r : Regex)
  /-- Fits the empty text where another pattern fits behind it or before it, or does not. -/
  | near (ahead negated : Bool) (r : Regex)
  /-- What is before it does not belong to the piece that fits. -/
  | mark

namespace Regex

/-- Whether a character belongs to a word. -/
def isWordChar (c : Char) : Bool := c.isAlphanum || c == '_'

/-- Whether a position is at a border. -/
def isAtBorder (t : Array Char) (b : Border) (i : Nat) : Bool :=
  let before := i != 0 && (t[i - 1]?.map isWordChar).getD false
  let after := (t[i]?.map isWordChar).getD false
  match b with
  | .textStart => i == 0
  | .textEnd => i == t.size
  | .lineStart => i == 0 || t[i - 1]? == some '\n'
  | .lineEnd => i == t.size || t[i]? == some '\n'
  | .wordStart => !before && after
  | .wordEnd => before && !after
  | .wordEdge => before != after
  | .noWordEdge => before == after

/-- Whether a character lies in ranges, or outside of them. -/
def isMember (negated : Bool) (ranges : List (Char × Char)) (c : Char) : Bool :=
  ranges.any (fun r => r.1 ≤ c && c ≤ r.2) != negated

/-! ## Positions -/

/-- The positions of a text that satisfy a condition, as bits. -/
def positions (size : Nat) (p : Nat → Bool) : Nat :=
  (List.range size).foldl (fun set i => if p i then set ||| (1 <<< i) else set) 0

/-- The positions after characters that satisfy a condition, from a set of positions. -/
def afterChar (t : Array Char) (p : Char → Bool) (set : Nat) : Nat :=
  (set &&& positions t.size fun i => (t[i]?.map p).getD false) <<< 1

/-- The positions that a step leads to, taken between `least` and `least + fuel` times. -/
def iterate (step : Nat → Nat) : Nat → Nat → Nat → Nat
  | 0, 0, set => set
  | 0, fuel + 1, set =>
    let next := set ||| step set
    if next == set then set else iterate step 0 fuel next
  | least + 1, fuel, set => iterate step least fuel (step set)

/-- The positions that a pattern leads to from a set of positions. What a group was is not known here,
    so a pattern that asks for it leads nowhere. -/
def reach (t : Array Char) : Regex → Nat → Nat
  | .empty, set => set
  | .char c, set => afterChar t (· == c) set
  | .any, set => afterChar t (fun _ => true) set
  | .oneOf negated ranges, set => afterChar t (isMember negated ranges) set
  | .border b, set => set &&& positions (t.size + 1) (isAtBorder t b)
  | .group _ r, set => r.reach t set
  | .again _, _ => 0
  | .seq a b, set => b.reach t (a.reach t set)
  | .either a b, set => a.reach t set ||| b.reach t set
  | .many least most r, set | .few least most r, set =>
    iterate (fun s => r.reach t s) least ((most.map (· - least)).getD (t.size + 1)) set
  | .mark, set => set
  | .near true negated r, set =>
    set &&& positions (t.size + 1) fun i => (r.reach t (1 <<< i) != 0) != negated
  | .near false negated r, set =>
    let ends := (List.range (t.size + 1)).foldl (fun ends i => ends ||| r.reach t (1 <<< i)) 0
    set &&& positions (t.size + 1) fun i => ends.testBit i != negated
  | .other r, set =>
    (List.range (t.size + 1)).foldl
      (fun ends i =>
        if set.testBit i then
          let own := r.reach t (1 <<< i)
          ends ||| positions (t.size + 1) fun j => i ≤ j && !own.testBit j
        else ends) 0

/-- Whether a pattern asks for what a group was. -/
def looksBack : Regex → Bool
  | .again _ => true
  | .group _ r | .many _ _ r | .few _ _ r | .other r | .near _ _ r => r.looksBack
  | .seq a b | .either a b => a.looksBack || b.looksBack
  | .empty | .char _ | .any | .oneOf .. | .border _ | .mark => false

/-! ## Groups -/

/-- Where groups begin and end. -/
abbrev Groups := List (Nat × Nat × Nat)

/-- Goes on from a position. -/
abbrev Onward := Nat → Groups → Option (Nat × Groups)

/-- Goes on after a body as often as possible, but no more than `most` times. -/
def traceMany (body : Nat → Groups → Onward → Option (Nat × Groups)) (onward : Onward) :
    Nat → Nat → Nat → Groups → Option (Nat × Groups)
  | 0, least, i, gs => if least == 0 then onward i gs else none
  | most + 1, least, i, gs =>
    (body i gs fun j gs' =>
      if j == i then none else traceMany body onward most (least - 1) j gs').or
        (if least == 0 then onward i gs else none)

/-- Goes on after a body as seldom as possible, but no more than `most` times. -/
def traceFew (body : Nat → Groups → Onward → Option (Nat × Groups)) (onward : Onward) :
    Nat → Nat → Nat → Groups → Option (Nat × Groups)
  | 0, least, i, gs => if least == 0 then onward i gs else none
  | most + 1, least, i, gs =>
    (if least == 0 then onward i gs else none).or
      (body i gs fun j gs' => if j == i then none else traceFew body onward most (least - 1) j gs')

/-- The piece of a text. -/
def slice (t : Array Char) (start stop : Nat) : List Char := (t.extract start stop).toList

/-- Follows a pattern from a position, the longest repetitions first, until what comes after it goes
    well. -/
def trace (t : Array Char) : Regex → Nat → Groups → Onward → Option (Nat × Groups)
  | .empty, i, gs, onward => onward i gs
  | .char c, i, gs, onward => if t[i]? == some c then onward (i + 1) gs else none
  | .any, i, gs, onward => if i < t.size then onward (i + 1) gs else none
  | .oneOf negated ranges, i, gs, onward =>
    if (t[i]?.map (isMember negated ranges)).getD false then onward (i + 1) gs else none
  | .border b, i, gs, onward => if isAtBorder t b i then onward i gs else none
  | .group n r, i, gs, onward => r.trace t i gs fun j gs' => onward j ((n, i, j) :: gs')
  | .again n, i, gs, onward =>
    match gs.lookup n with
    | none => none
    | some (start, stop) =>
      let piece := slice t start stop
      if slice t i (i + piece.length) == piece then onward (i + piece.length) gs else none
  | .seq a b, i, gs, onward => a.trace t i gs fun j gs' => b.trace t j gs' onward
  | .either a b, i, gs, onward => (a.trace t i gs onward).or (b.trace t i gs onward)
  | .many least most r, i, gs, onward =>
    let body := fun i gs onward => r.trace t i gs onward
    (traceMany body onward (most.getD (least + t.size + 1)) least i gs).or
      (if (r.reach t (1 <<< i)).testBit i then onward i gs else none)
  | .few least most r, i, gs, onward =>
    let body := fun i gs onward => r.trace t i gs onward
    traceFew body onward (most.getD (least + t.size + 1)) least i gs
  | .mark, i, gs, onward => onward i ((0, i, i) :: gs)
  | .near ahead negated r, i, gs, onward =>
    if ((Regex.near ahead negated r).reach t (1 <<< i)).testBit i then onward i gs else none
  | .other r, i, gs, onward =>
    let own := r.reach t (1 <<< i)
    ((List.range (t.size + 1)).filter fun j => i ≤ j && !own.testBit j).reverse.findSome? fun j =>
      onward j gs

/-- Where a pattern fits: the piece, and its groups. -/
structure Fit where
  start : Nat
  stop : Nat
  groups : Groups

/-- How a pattern fits at a position. -/
def fitAt? (r : Regex) (t : Array Char) (i : Nat) : Option Fit :=
  if r.looksBack then (r.trace t i [] fun j gs => some (j, gs)).map fun (j, gs) => ⟨i, j, gs⟩
  else
    match r.reach t (1 <<< i) with
    | 0 => none
    | ends =>
      let stop := ends.log2
      let groups := (r.trace t i [] fun j gs => if j == stop then some (j, gs) else none).map (·.2)
      some ⟨i, stop, groups.getD []⟩

/-- How a pattern fits at a position if the first way counts, not the longest piece. -/
def firstAt? (r : Regex) (t : Array Char) (i : Nat) : Option Fit :=
  (r.trace t i [] fun j gs => some (j, gs)).map fun (j, gs) => ⟨((gs.lookup 0).map (·.1)).getD i, j, gs⟩

/-- The first place from a position on where a pattern fits. -/
def searchFrom? (r : Regex) (t : Array Char) (start : Nat) : Option Fit :=
  (List.range (t.size + 1 - start)).findSome? fun d => r.fitAt? t (start + d)

/-- Whether a pattern fits anywhere. -/
def isIn (r : Regex) (t : Array Char) : Bool :=
  if r.looksBack then (r.searchFrom? t 0).isSome
  else r.reach t (positions (t.size + 1) fun _ => true) != 0

/-- Whether a pattern fits all of a text. -/
def fitsAll (r : Regex) (t : Array Char) : Bool :=
  if r.looksBack then
    (r.trace t 0 [] fun j gs => if j == t.size then some (j, gs) else none).isSome
  else (r.reach t 1).testBit t.size

/-- The places where a pattern fits, none inside another, from a position on. An empty piece right
    behind another does not count. `fuel` is more than the number of positions. -/
def allFits (r : Regex) (t : Array Char) : Nat → Nat → Option Nat → List Fit
  | 0, _, _ => []
  | fuel + 1, start, last =>
    match r.searchFrom? t start with
    | none => []
    | some fit =>
      if fit.start == fit.stop then
        let more := if t.size ≤ fit.stop then [] else r.allFits t fuel (fit.stop + 1) none
        if last == some fit.start then more else fit :: more
      else fit :: r.allFits t fuel fit.stop (some fit.stop)

/-- The places where a pattern fits, none inside another. -/
def fits (r : Regex) (t : Array Char) : List Fit := r.allFits t (t.size + 2) 0 none

end Regex

end Recap.Shell
