import Recap.Programs.Tool.Order

/-!
# Differences

Two lists of lines are made equal by as few deletions and insertions as possible. A search goes from
both ends at once, one change at a time; where the two meet, the lists are divided. Of changes that can
be moved without harm, those that are next to each other are put together.

## Contents
- `meet` — where the searches from both ends meet.
- `changedLines` — the lines that are not in both lists.
- `settle` — moves changes.
- `Change`, `changesOf` — what is to be changed.
- `cmp`, `diff` — the programs that write differences.
-/

namespace Recap.Tool

open Recap.Shell

/-! ## The search -/

/-- Two lists of lines, by numbers that are equal where lines are. -/
structure Pair where
  old : Array Nat
  new : Array Nat

/-- Whether two lines are equal. -/
def Pair.same (p : Pair) (x y : Nat) : Bool :=
  match p.old[x]?, p.new[y]? with
  | some a, some b => a == b
  | _, _ => false

/-- A part of two lists: the first and the last places in both. -/
structure Part where
  x : Nat
  xEnd : Nat
  y : Nat
  yEnd : Nat

/-- How far lines are equal from two places on. `fuel` is at least the number of lines. -/
def Pair.slide (p : Pair) (b : Part) : Nat → Nat → Nat → Nat
  | 0, x, _ => x
  | fuel + 1, x, y => if x < b.xEnd && y < b.yEnd && p.same x y then p.slide b fuel (x + 1) (y + 1) else x

/-- How far lines are equal before two places. `fuel` is at least the number of lines. -/
def Pair.slideBack (p : Pair) (b : Part) : Nat → Nat → Nat → Nat
  | 0, x, _ => x
  | fuel + 1, x, y =>
    if b.x < x && b.y < y && p.same (x - 1) (y - 1) then p.slideBack b fuel (x - 1) (y - 1) else x

/-- A search: how far it has come on each diagonal, and the diagonals that it has reached. -/
structure Frontier where
  reached : Array Int
  least : Int
  most : Int

/-- What a search has reached on a diagonal; diagonals are counted from `base`. -/
def Frontier.at (f : Frontier) (base d : Int) : Int := f.reached.getD (d + base).toNat 0

/-- Notes what has been reached on a diagonal. -/
def Frontier.put (f : Frontier) (base d x : Int) : Frontier :=
  { f with reached := f.reached.setIfInBounds (d + base).toNat x }

/-- Widens the diagonals of a search by one on both sides; `edge` stands for what has not been reached. -/
def Frontier.widen (f : Frontier) (base low high edge : Int) : Frontier :=
  let f := if low < f.least then
      { (f.put base (f.least - 2) edge) with least := f.least - 1 }
    else { f with least := f.least + 1 }
  if f.most < high then { (f.put base (f.most + 2) edge) with most := f.most + 1 }
  else { f with most := f.most - 1 }

/-- The diagonals of a search, every second one, the highest first. -/
def Frontier.diagonals (f : Frontier) : List Int :=
  (List.range ((f.most - f.least) / 2 + 1).toNat).map fun (i : Nat) => f.most - 2 * (i : Int)

/-- Goes one change further from the front; also where it met the search from the end. -/
def Pair.goForward (p : Pair) (b : Part) (base : Int) (odd : Bool) (back : Frontier) (f : Frontier) :
    Frontier × Option (Nat × Nat) :=
  f.diagonals.foldl
    (fun (done : Frontier × Option (Nat × Nat)) d =>
      if done.2.isSome then done
      else
        let f := done.1
        let low := f.at base (d - 1)
        let high := f.at base (d + 1)
        let start := if low < high then high else low + 1
        let x := p.slide b (p.old.size + 1) start.toNat (start - d).toNat
        let f := f.put base d x
        if odd && back.least ≤ d && d ≤ back.most && back.at base d ≤ x then
          (f, some (x, ((x : Int) - d).toNat))
        else (f, none))
    (f, none)

/-- Goes one change further from the end; also where it met the search from the front. -/
def Pair.goBackward (p : Pair) (b : Part) (base : Int) (odd : Bool) (front : Frontier) (f : Frontier) :
    Frontier × Option (Nat × Nat) :=
  f.diagonals.foldl
    (fun (done : Frontier × Option (Nat × Nat)) d =>
      if done.2.isSome then done
      else
        let f := done.1
        let low := f.at base (d - 1)
        let high := f.at base (d + 1)
        let start := if low < high then low else high - 1
        let x := p.slideBack b (p.old.size + 1) start.toNat (start - d).toNat
        let f := f.put base d x
        if !odd && front.least ≤ d && d ≤ front.most && (x : Int) ≤ front.at base d then
          (f, some (x, ((x : Int) - d).toNat))
        else (f, none))
    (f, none)

/-- Searches from both ends, change by change, until they meet. -/
def Pair.search (p : Pair) (b : Part) (base : Int) (odd : Bool) :
    Nat → Frontier → Frontier → Option (Nat × Nat)
  | 0, _, _ => none
  | fuel + 1, front, back =>
    let low : Int := (b.x : Int) - b.yEnd
    let high : Int := (b.xEnd : Int) - b.y
    match p.goForward b base odd back (front.widen base low high (-1)) with
    | (_, some place) => some place
    | (front, none) =>
      match p.goBackward b base odd front (back.widen base low high 0x7fffffff) with
      | (_, some place) => some place
      | (back, none) => p.search b base odd fuel front back

/-- Where the searches from both ends of a part meet. -/
def Pair.meet (p : Pair) (b : Part) : Option (Nat × Nat) :=
  let base : Int := p.new.size + 2
  let size := p.old.size + p.new.size + 5
  let start (d x : Int) : Frontier :=
    Frontier.put { reached := Array.replicate size 0, least := d, most := d } base d x
  let front : Int := (b.x : Int) - b.y
  let back : Int := (b.xEnd : Int) - b.yEnd
  p.search b base ((front - back) % 2 != 0) (size + 1) (start front b.x) (start back b.xEnd)

/-- The lines of a part that are not in both lists. `fuel` is more than the number of lines. -/
def Pair.changed (p : Pair) : Nat → Part → List Nat × List Nat
  | 0, _ => ([], [])
  | fuel + 1, b =>
    let forward := p.slide b (p.old.size + 1) b.x b.y - b.x
    let b := { b with x := b.x + forward, y := b.y + forward }
    let back := b.xEnd - p.slideBack b (p.old.size + 1) b.xEnd b.yEnd
    let b := { b with xEnd := b.xEnd - back, yEnd := b.yEnd - back }
    let span (start stop : Nat) : List Nat := (List.range (stop - start)).map (start + ·)
    if b.x == b.xEnd then ([], span b.y b.yEnd)
    else if b.y == b.yEnd then (span b.x b.xEnd, [])
    else
      match p.meet b with
      | none => (span b.x b.xEnd, span b.y b.yEnd)
      | some (x, y) =>
        let (old, new) := p.changed fuel { b with xEnd := x, yEnd := y }
        let (old', new') := p.changed fuel { b with x, y }
        (old ++ old', new ++ new')

/-! ## Changes -/

/-- Numbers for lines, equal where lines are. -/
def numbered (old new : List Bytes) : Pair :=
  let kinds := (old ++ new).eraseDups
  let number (l : Bytes) : Nat := (kinds.idxOf? l).getD 0
  ⟨(old.map number).toArray, (new.map number).toArray⟩

/-- Which lines are changed, as flags. -/
def flags (size : Nat) (changed : List Nat) : Array Bool :=
  changed.foldl (fun fs i => fs.setIfInBounds i true) (Array.replicate size false)

/-- Which lines of two lists are not in both. Lines that the other list does not have at all are left out
    of the search. -/
def changedLines (p : Pair) : Array Bool × Array Bool :=
  let kept (own other : Array Nat) : List (Nat × Nat) :=
    own.toList.zipIdx.filter fun (l, _) => other.contains l
  let old := kept p.old p.new
  let new := kept p.new p.old
  let small : Pair := ⟨(old.map (·.1)).toArray, (new.map (·.1)).toArray⟩
  let (a, b) := small.changed (p.old.size + p.new.size + 1) ⟨0, old.length, 0, new.length⟩
  let places (entries : List (Nat × Nat)) (chosen : List Nat) : List Nat :=
    let table := entries.toArray
    chosen.filterMap fun i => (table[i]?).map (·.2)
  let lost (own other : Array Nat) : List Nat :=
    (own.toList.zipIdx.filter fun (l, _) => !other.contains l).map (·.2)
  (flags p.old.size (places old a ++ lost p.old p.new), flags p.new.size (places new b ++ lost p.new p.old))

/-- A run of changes that is moved: its flags, its first line, the line behind it, and the place in the
    other list. -/
structure Moving where
  flags : Array Bool
  start : Nat
  stop : Nat
  other : Nat
  /-- The line behind the run where it last stood beside a run of the other list. -/
  beside : Nat

/-- The first place from one on that is not changed. `fuel` is at least the number of lines. -/
def pastChanged (flags : Array Bool) : Nat → Nat → Nat
  | 0, i => i
  | fuel + 1, i => if flags.getD i false then pastChanged flags fuel (i + 1) else i

/-- The first place of the run of changes that ends before one. -/
def runStart (flags : Array Bool) : Nat → Nat
  | 0 => 0
  | i + 1 => if flags.getD i false then runStart flags i else i + 1

/-- Moves a run back as long as the line before it equals its last line. `fuel` is at least the number of
    lines. -/
def moveBack (lines : Array Nat) (others : Array Bool) : Nat → Moving → Moving
  | 0, m => m
  | fuel + 1, m =>
    if m.start != 0 && lines[m.start - 1]? == lines[m.stop - 1]? then
      let flags := (m.flags.setIfInBounds (m.start - 1) true).setIfInBounds (m.stop - 1) false
      moveBack lines others fuel
        { m with flags, start := runStart flags (m.start - 1), stop := m.stop - 1
                 other := runStart others (m.other - 1) }
    else m

/-- Moves a run forward as long as its first line equals the line behind it. `fuel` is at least the number
    of lines. -/
def moveForward (lines : Array Nat) (others : Array Bool) : Nat → Moving → Moving
  | 0, m => m
  | fuel + 1, m =>
    if m.stop < lines.size && lines[m.start]? == lines[m.stop]? then
      let flags := (m.flags.setIfInBounds m.start false).setIfInBounds m.stop true
      let stop := pastChanged flags lines.size (m.stop + 1)
      let next := m.other + 1
      let other := pastChanged others others.size next
      moveForward lines others fuel
        { flags, start := m.start + 1, stop, other, beside := if next < other then stop else m.beside }
    else m

/-- Moves a run back and forward until it does not grow any more. `fuel` is more than the number of
    lines. -/
def moveAbout (lines : Array Nat) (others : Array Bool) : Nat → Moving → Moving
  | 0, m => m
  | fuel + 1, m =>
    let size := m.stop - m.start
    let m := moveBack lines others (lines.size + 1) m
    let m := { m with beside := if m.other != 0 && others.getD (m.other - 1) false then m.stop else lines.size }
    let m := moveForward lines others (lines.size + 1) m
    if size == m.stop - m.start then m else moveAbout lines others fuel m

/-- Moves a run back to where it stood beside a run of the other list. `fuel` is at least the number of
    lines. -/
def moveBeside (others : Array Bool) : Nat → Moving → Moving
  | 0, m => m
  | fuel + 1, m =>
    if m.beside < m.stop then
      moveBeside others fuel
        { m with flags := (m.flags.setIfInBounds (m.start - 1) true).setIfInBounds (m.stop - 1) false
                 start := m.start - 1, stop := m.stop - 1, other := runStart others (m.other - 1) }
    else m

/-- Moves the runs of changes of one list, from a place on. `fuel` is more than the number of lines. -/
def settleFrom (lines : Array Nat) (others : Array Bool) : Nat → Nat → Nat → Array Bool → Array Bool
  | 0, _, _, flags => flags
  | fuel + 1, i, j, flags =>
    if lines.size ≤ i then flags
    else if !flags.getD i false then settleFrom lines others fuel (i + 1) (pastChanged others others.size j + 1) flags
    else
      let stop := pastChanged flags lines.size i
      let m := moveAbout lines others (lines.size + 1)
        { flags, start := i, stop, other := pastChanged others others.size j, beside := lines.size }
      let m := moveBeside others (lines.size + 1) m
      settleFrom lines others fuel m.stop m.other m.flags

/-- Moves the runs of changes of both lists. -/
def settle (p : Pair) (changed : Array Bool × Array Bool) : Array Bool × Array Bool :=
  let old := settleFrom p.old changed.2 (2 * p.old.size + 2) 0 0 changed.1
  let new := settleFrom p.new old (2 * p.new.size + 2) 0 0 changed.2
  (old, new)

/-- Lines that take the place of others: where they are, and how many. -/
structure Change where
  old : Nat
  oldCount : Nat
  new : Nat
  newCount : Nat

/-- The changes that flags stand for. `fuel` is more than the number of lines. -/
def changesFrom (old new : Array Bool) : Nat → Nat → Nat → List Change
  | 0, _, _ => []
  | fuel + 1, i, j =>
    if old.size ≤ i && new.size ≤ j then []
    else
      let i' := pastChanged old old.size i
      let j' := pastChanged new new.size j
      if i == i' && j == j' then changesFrom old new fuel (i + 1) (j + 1)
      else ⟨i, i' - i, j, j' - j⟩ :: changesFrom old new fuel i' j'

/-- The changes that make one list of lines another. What both begin and end with does not change. -/
def changesOf (old new : List Bytes) : List Change :=
  let front := ((old.zip new).takeWhile fun (a, b) => a == b).length
  let (old, new) := (old.drop front, new.drop front)
  let back := ((old.reverse.zip new.reverse).takeWhile fun (a, b) => a == b).length
  let p := numbered (old.take (old.length - back)) (new.take (new.length - back))
  let (a, b) := settle p (changedLines p)
  (changesFrom a b (p.old.size + p.new.size + 2) 0 0).map fun c =>
    { c with old := c.old + front, new := c.new + front }

/-! ## Reports -/

/-- A line with a sign before it. -/
def signedLine (sign : String) (line : Bytes) : Bytes :=
  Text.bytes sign ++ line ++
    (if line.contains newline then [] else Text.bytes "\n\\ No newline at end of file\n")

/-- The numbers of lines from a place on; without lines, that of the line before them. -/
def numberRange (start count : Nat) : String :=
  if count ≤ 1 then Nat.repr (start + count) else Nat.repr (start + 1) ++ "," ++ Nat.repr (start + count)

/-- Lines from a place on. -/
def linesAt (lines : Array Bytes) (start count : Nat) : List Bytes := (lines.extract start (start + count)).toList

/-- A change by the numbers of its lines. -/
def plainChange (old new : Array Bytes) (c : Change) : Bytes :=
  let letter := if c.oldCount == 0 then "a" else if c.newCount == 0 then "d" else "c"
  Text.bytes (numberRange c.old c.oldCount ++ letter ++ numberRange c.new c.newCount ++ "\n") ++
    (linesAt old c.old c.oldCount).flatMap (signedLine "< ") ++
    (if letter == "c" then Text.bytes "---\n" else []) ++
    (linesAt new c.new c.newCount).flatMap (signedLine "> ")

/-- Changes that are near to each other. -/
def nearChanges (around : Nat) : List Change → List (List Change)
  | [] => []
  | c :: cs =>
    match nearChanges around cs with
    | (d :: ds) :: more =>
      if d.old ≤ c.old + c.oldCount + 2 * around then (c :: d :: ds) :: more else [c] :: (d :: ds) :: more
    | more => [c] :: more

/-- The place and the number of lines. -/
def unifiedRange (start count : Nat) : String :=
  if count == 0 then Nat.repr start ++ ",0"
  else if count == 1 then Nat.repr (start + 1)
  else Nat.repr (start + 1) ++ "," ++ Nat.repr count

/-- The lines of changes, with those that stay between them; the place in the old lines is known. -/
def unifiedLines (old new : Array Bytes) (stop : Nat) : Nat → List Change → Bytes
  | place, [] => (linesAt old place (stop - place)).flatMap (signedLine " ")
  | place, c :: cs =>
    (linesAt old place (c.old - place)).flatMap (signedLine " ") ++
      (linesAt old c.old c.oldCount).flatMap (signedLine "-") ++
      (linesAt new c.new c.newCount).flatMap (signedLine "+") ++
      unifiedLines old new stop (c.old + c.oldCount) cs

/-- Changes with the lines around them. -/
def unifiedHunk (around : Nat) (old new : Array Bytes) (cs : List Change) : Bytes :=
  match cs.head?, cs.getLast? with
  | some first, some last =>
    let before := min around (min first.old first.new)
    let behind := min around (old.size - (last.old + last.oldCount))
    let oldStop := last.old + last.oldCount + behind
    let newStop := last.new + last.newCount + behind
    let (oldStart, newStart) := (first.old - before, first.new - before)
    Text.bytes ("@@ -" ++ unifiedRange oldStart (oldStop - oldStart) ++ " +" ++
      unifiedRange newStart (newStop - newStart) ++ " @@\n") ++ unifiedLines old new oldStop oldStart cs
  | _, _ => []

/-- Blanks from a column to another, with tabs. -/
def tabsTo (start stop : Nat) : Bytes :=
  if stop / 8 > start / 8 then List.replicate (stop / 8 - start / 8) 9 ++ List.replicate (stop % 8) 32
  else List.replicate (stop - start) 32

/-- As much of a line as fits in columns, and the column behind it. -/
def halfLine (limit : Nat) : Nat → Nat → Bytes → Bytes × Nat
  | _, column, [] => ([], column)
  | place, column, b :: bs =>
    if b == newline then ([], column)
    else if b == 9 then
      let stop := (place / 8 + 1) * 8
      if place == column && stop < limit then
        let (more, last) := halfLine limit stop stop bs
        (9 :: more, last)
      else halfLine limit stop column bs
    else if place < limit then
      let (more, last) := halfLine limit (place + 1) (place + 1) bs
      (b :: more, last)
    else halfLine limit (place + 1) column bs

/-- Two lines side by side, with a sign between them. -/
def sideLine (width : Nat) (left : Option Bytes) (sign : Char) (right : Option Bytes) : Bytes :=
  let unaligned := width / 2 + 5 + (if width % 2 == 1 then 1 else 0)
  let second := unaligned - unaligned % 8
  let half := min (second - 3) (width - second)
  let (front, column) := (left.map (halfLine half 0 0)).getD ([], 0)
  let middle := (half + second - 1) / 2
  let (gap, column) := if sign == ' ' then ([], column)
    else (tabsTo column middle ++ [UInt8.ofNat sign.toNat], middle + 1)
  let back := match right with
    | some line => if line == [newline] then [] else tabsTo column second ++ (halfLine half 0 0 line).1
    | none => []
  front ++ gap ++ back ++ [newline]

/-- All lines side by side; the places in both lists are known. -/
def sideLines (width : Nat) (old new : Array Bytes) (onlyChanges : Bool) : Nat → Nat → List Change → Bytes
  | i, j, [] =>
    if onlyChanges then []
    else
      ((linesAt old i (old.size - i)).zip (linesAt new j (new.size - j))).flatMap fun (a, b) =>
        sideLine width (some a) ' ' (some b)
  | i, j, c :: cs =>
    let same := (linesAt old i (c.old - i)).zip (linesAt new j (c.new - j))
    let both := min c.oldCount c.newCount
    let pairs := (linesAt old c.old both).zip (linesAt new c.new both)
    (if onlyChanges then [] else same.flatMap fun (a, b) => sideLine width (some a) ' ' (some b)) ++
      (pairs.flatMap fun (a, b) => sideLine width (some a) '|' (some b)) ++
      ((linesAt old (c.old + both) (c.oldCount - both)).flatMap fun a => sideLine width (some a) '<' none) ++
      ((linesAt new (c.new + both) (c.newCount - both)).flatMap fun b => sideLine width none '>' (some b)) ++
      sideLines width old new onlyChanges (c.old + c.oldCount) (c.new + c.newCount) cs

/-! ## Programs -/

/-- The options of `diff`. -/
def diffOptions : OptionTable :=
  { program := "diff", plain := "iwbBEZquscyraNtT@#", valued := "UWL", refusal := 2
    names := [("ignore-case", 'i'), ("ignore-all-space", 'w'), ("ignore-space-change", 'b'),
      ("ignore-blank-lines", 'B'), ("ignore-tab-expansion", 'E'), ("ignore-trailing-space", 'Z'),
      ("brief", 'q'), ("unified", 'u'), ("report-identical-files", 's'), ("side-by-side", 'y'),
      ("label", 'L'), ("width", 'W'), ("text", 'a'), ("normal", '@'), ("suppress-common-lines", '#')] }

/-- Blanks in a row as one blank, none at the end. -/
def squeezed : Bytes → Bytes
  | [] => []
  | b :: bs =>
    let rest := squeezed bs
    if isBlankByte b then
      match rest with
      | [] => []
      | c :: _ => if c == 32 then rest else 32 :: rest
    else b :: rest

/-- What of a line is compared. -/
def comparedLine (o : Options) (line : Bytes) : Bytes :=
  let bs := if o.has 'w' then line.filter (!isBlankByte ·)
    else if o.has 'b' then squeezed line
    else if o.has 'Z' then (line.reverse.dropWhile isBlankByte).reverse
    else line
  if o.has 'i' then bs.map capital else bs

/-- Complaints about how a program of two files is used. -/
def twoFiles (program : String) (operands : List String) : Except String (String × String) :=
  let hint := "\n" ++ program ++ ": Try '" ++ program ++ " --help' for more information."
  match operands with
  | [a, b] => .ok (a, b)
  | _ :: _ :: extra :: _ => .error (program ++ ": extra operand " ++ Text.quoted extra ++ hint)
  | operands => .error (program ++ ": missing operand after " ++ Text.quoted (operands.headD program) ++ hint)

/-- Writes the differences of two files; its status says whether there are any. -/
def diff : Program := fun j => do
  match diffOptions.read j.arguments with
  | .error complaint =>
    let complaint := complaint.replace "\nTry '" "\ndiff: Try '"
    return .failed 2 complaint j.input
  | .ok o =>
    match twoFiles "diff" o.operands with
    | .error complaint => j.refuse 2 complaint
    | .ok (first, second) =>
      let g ← j.gather "diff" [first, second]
      match g.sources with
      | [a, b] =>
        let ignoresBlank (c : Change) (old new : Array Bytes) : Bool :=
          o.has 'B' && (linesAt old c.old c.oldCount ++ linesAt new c.new c.newCount).all fun l =>
            (bareLine l).isEmpty
        let (old, new) := (keptLines a.bytes, keptLines b.bytes)
        let (oldArray, newArray) := (old.toArray, new.toArray)
        let all := changesOf (old.map (comparedLine o)) (new.map (comparedLine o))
        let changes := all.filter fun c => !ignoresBlank c oldArray newArray
        let labels := o.values 'L'
        let label (i : Nat) (name : String) : String :=
          (labels[i]?).getD (name ++ "\t1970-01-01 00:00:00.000000000 +0000")
        let width := ((o.value? 'W').bind natOf?).getD 130
        let around := if o.has 'U' then ((o.value? 'U').bind natOf?).getD 3 else 3
        if o.has 'y' then
          let out := sideLines width oldArray newArray (o.has '#') 0 0 changes
          return { g.finish out with status := .exited (if changes.isEmpty then 0 else 1) }
        else if changes.isEmpty then
          let said := if o.has 's' then "Files " ++ first ++ " and " ++ second ++ " are identical\n" else ""
          return g.finish (Text.bytes said)
        else
          let out := if o.has 'q' then Text.bytes ("Files " ++ first ++ " and " ++ second ++ " differ\n")
            else if o.has 'u' || o.has 'U' then
              Text.bytes ("--- " ++ label 0 first ++ "\n+++ " ++ label 1 second ++ "\n") ++
                (nearChanges around changes).flatMap (unifiedHunk around oldArray newArray)
            else changes.flatMap (plainChange oldArray newArray)
          return { g.finish out with status := .exited 1 }
      | _ => return { g.finish [] with status := .exited 2 }

/-- A byte as it is shown. -/
def shownByteText (b : UInt8) : String :=
  let low (n : Nat) : String :=
    if n < 32 then "^" ++ (Char.ofNat (n + 64)).toString
    else if n == 127 then "^?"
    else (Char.ofNat n).toString
  if b < 128 then low b.toNat else "M-" ++ low (b.toNat - 128)

/-- A number in base eight, in three columns. -/
def octalText (b : UInt8) : String := padLeft 3 (String.ofList (Nat.toDigits 8 b.toNat))

/-- The options of `cmp`. -/
def cmpOptions : OptionTable :=
  { program := "cmp", plain := "bls", valued := "in", refusal := 2
    names := [("print-bytes", 'b'), ("verbose", 'l'), ("quiet", 's'), ("silent", 's'),
      ("ignore-initial", 'i'), ("bytes", 'n')] }

/-- Writes where two files begin to differ; its status says whether they do. -/
def cmp : Program := fun j => do
  match cmpOptions.read j.arguments with
  | .error complaint => return .failed 2 (complaint.replace "\nTry '" "\ncmp: Try '") j.input
  | .ok o =>
    match o.operands with
    | [] =>
      j.refuse 2 "cmp: missing operand after 'cmp'\ncmp: Try 'cmp --help' for more information."
    | first :: rest =>
      let second := rest.headD "-"
      let g ← j.gather "cmp" [first, second]
      match g.sources with
      | [a, b] =>
        let skipped := ((o.value? 'i').bind natOf?).getD 0
        let most := (o.value? 'n').bind natOf?
        let part (bs : Bytes) : Bytes :=
          let bs := bs.drop skipped
          match most with
          | some n => bs.take n
          | none => bs
        let (x, y) := (part a.bytes, part b.bytes)
        let wrong := (x.zip y).zipIdx.filter fun ((p, q), _) => p != q
        let common := min x.length y.length
        let width := (Nat.repr (max x.length y.length)).length
        let ended (inLines : Bool) : String :=
          let (shorter, bytes) := if x.length < y.length then (first, x) else (second, y)
          if common == 0 then "cmp: EOF on " ++ shorter ++ " which is empty\n"
          else
            let lines := bytes.count newline
            let place := if !inLines then ""
              else if bytes.getLast? == some newline then ", line " ++ Nat.repr lines
              else ", in line " ++ Nat.repr (lines + 1)
            "cmp: EOF on " ++ shorter ++ " after byte " ++ Nat.repr common ++ place ++ "\n"
        let code := if x == y then 0 else 1
        let finish (out err : String) : Output :=
          { g.finish (Text.bytes out) with err := Text.bytes err, status := .exited code }
        if o.has 's' || x == y then return finish "" ""
        else if o.has 'l' then
          let row (e : (UInt8 × UInt8) × Nat) : String :=
            let ((p, q), i) := e
            padLeft width (Nat.repr (i + 1)) ++ " " ++ octalText p ++
              (if o.has 'b' then " " ++ padRight 4 (shownByteText p) else "") ++ " " ++ octalText q ++
              (if o.has 'b' then " " ++ shownByteText q else "") ++ "\n"
          return finish (String.join (wrong.map row)) (if x.length == y.length then "" else ended false)
        else
          match wrong with
          | [] => return finish "" (ended true)
          | ((p, q), i) :: _ =>
            let line := (x.take i).count newline + 1
            let front := first ++ " " ++ second ++ " differ: "
            let place := Nat.repr (i + 1) ++ ", line " ++ Nat.repr line
            if o.has 'b' then
              return finish (front ++ "byte " ++ place ++ " is " ++ octalText p ++ " " ++ shownByteText p ++ " " ++
                octalText q ++ " " ++ shownByteText q ++ "\n") ""
            else return finish (front ++ "char " ++ place ++ "\n") ""
      | _ => return { g.finish [] with status := .exited 2 }

end Recap.Tool
