import Recap.Programs.Tool.Options

/-!
# Tab stops

A tab leads to the next tab stop. Stops are at all multiples of a number, or in a list behind which there
can be more at a distance.

## Contents
- `TabStops` — where tab stops are; `TabStops.next?` gives the next one.
- `expand`, `unexpand` — tabs as spaces, and spaces as tabs.
-/

namespace Recap.Tool

open Recap.Shell

/-- Where tab stops are. -/
structure TabStops where
  /-- Stops in ascending order. -/
  listed : List Nat
  /-- Behind the listed stops, all multiples of this are stops. -/
  multiples : Option Nat
  /-- Behind the listed stops, stops are at this distance from the last. -/
  distance : Option Nat

namespace TabStops

/-- A stop at every eighth column. -/
def usual : TabStops := { listed := [], multiples := some 8, distance := none }

/-- The next stop behind a column. -/
def next? (t : TabStops) (column : Nat) : Option Nat :=
  match t.listed.find? (column < ·), t.multiples, t.distance with
  | some stop, _, _ => some stop
  | none, some m, _ => some (column + (m - column % m))
  | none, none, some d => some (column + (d - (column - t.listed.getLast?.getD 0) % d))
  | none, none, none => none

/-- Takes one entry of a list of stops. -/
def push (t : TabStops) (entry : String) : Except String TabStops := do
  let number (digits : List Char) : Except String Nat :=
    match natOf? (String.ofList digits) with
    | some n => .ok n
    | none =>
      .error ("tab size contains invalid character(s): " ++ Text.quoted (String.ofList (digits.dropWhile Char.isDigit)))
  match entry.toList with
  | '/' :: ds => return { t with multiples := some (← number ds) }
  | '+' :: ds => return { t with distance := some (← number ds) }
  | ds => return { t with listed := t.listed ++ [← number ds] }

/-- Whether a number is repeated or followed by a smaller one. -/
def isAscending : List Nat → Bool
  | a :: b :: rest => a < b && isAscending (b :: rest)
  | _ => true

/-- The stops of lists. A single number stands for its multiples. -/
def ofTexts (texts : List String) : Except String TabStops := do
  let entries := texts.flatMap fun t => ((t.map fun c => if c == ' ' then ',' else c).splitOn ",").filter (· != "")
  let t ← entries.foldlM push { listed := [], multiples := none, distance := none }
  if t.listed.contains 0 then .error "tab size cannot be 0"
  else if !isAscending t.listed then .error "tab sizes must be ascending"
  else if t.multiples.isSome && t.distance.isSome then
    .error "'/' specifier is mutually exclusive with '+'"
  else
    let some (n : Nat) := t.multiples.or t.distance |
      match t.listed with
      | [] => return usual
      | [n] => return { t with listed := [], multiples := some n }
      | _ => return t
    if n == 0 then return if t.listed.isEmpty then usual else { t with multiples := none, distance := none }
    else if t.listed.isEmpty then return { t with multiples := some n, distance := none }
    else return t

end TabStops

/-- Arguments with stops behind a hyphen written as options. -/
def spellStops (arguments : List String) : List String :=
  arguments.map fun a =>
    match a.toList with
    | '-' :: c :: cs => if c.isDigit then "-t" ++ String.ofList (c :: cs) else a
    | _ => a

/-- A line with tabs as spaces, from a column on. Where `everywhere` does not hold, only the tabs before
    the text count. -/
def expandLine (t : TabStops) (everywhere : Bool) : Nat → Bytes → Bytes
  | _, [] => []
  | column, b :: bs =>
    if b == 9 then
      let stop := (t.next? column).getD (column + 1)
      List.replicate (stop - column) 32 ++ expandLine t everywhere stop bs
    else if !everywhere && b != 32 then b :: bs
    else b :: expandLine t everywhere (if b == 8 then column - 1 else column + 1) bs

/-- A program that is given tab stops. -/
def withStops (program : String) (plain : String) (names : List (String × Char))
    (line : TabStops → Options → Bytes → Bytes) : Program := fun j =>
  withOptions { program, plain, valued := "t", names := ("tabs", 't') :: names }
    (fun o j =>
      match if o.has 't' then TabStops.ofTexts (o.values 't') else .ok .usual with
      | .error complaint => j.refuse 1 (program ++ ": " ++ complaint)
      | .ok stops => j.filter program o.operands fun bs => (keptLines bs).flatMap (line stops o))
    { j with arguments := spellStops j.arguments }

/-- Writes tabs as spaces. -/
def expand : Program :=
  withStops "expand" "i" [("initial", 'i')] fun stops o => expandLine stops (!o.has 'i') 0

/-! ## Spaces as tabs -/

/-- How far a line has been read. -/
structure Squeezing where
  column : Nat
  /-- Blanks that may become a tab. -/
  held : Bytes
  /-- Whether the first of the held blanks stands right before a stop. -/
  leadsToStop : Bool
  afterBlank : Bool

/-- The blanks that were held, as they are written. -/
def Squeezing.flush (s : Squeezing) : Bytes :=
  match s.held with
  | _ :: b :: bs => if s.leadsToStop then 9 :: b :: bs else s.held
  | held => held

/-- A line with spaces as tabs. Where `everywhere` does not hold, only the spaces before the text count. -/
def unexpandFrom (t : TabStops) (everywhere : Bool) : Squeezing → Bytes → Bytes
  | s, [] => s.flush
  | s, b :: bs =>
    let go (s : Squeezing) (b : UInt8) (blank : Bool) : Bytes :=
      s.flush ++ b ::
        (if everywhere || blank then
          unexpandFrom t everywhere { s with held := [], leadsToStop := false, afterBlank := blank } bs
        else bs)
    if b == 32 || b == 9 then
      match t.next? s.column with
      | none => s.flush ++ b :: bs
      | some stop =>
        let kept (held : Bytes) : Bytes := if s.leadsToStop then held.take 1 else []
        if b == 9 then
          go { s with column := stop, held := kept (if s.held.isEmpty then [] else 9 :: s.held.drop 1) } b true
        else if s.afterBlank && s.column + 1 == stop then
          go { s with column := s.column + 1, held := kept (9 :: s.held.drop 1) } 9 true
        else
          unexpandFrom t everywhere
            { column := s.column + 1, held := s.held ++ [b]
              leadsToStop := s.leadsToStop || s.column + 1 == stop, afterBlank := true } bs
    else
      go { s with column := if b == 8 then s.column - 1 else s.column + 1 } b false

/-- Writes spaces as tabs. -/
def unexpand : Program :=
  withStops "unexpand" "af" [("all", 'a'), ("first-only", 'f')] fun stops o =>
    unexpandFrom stops ((o.has 'a' || o.has 't') && !o.has 'f')
      { column := 0, held := [], leadsToStop := false, afterBlank := true }

end Recap.Tool
