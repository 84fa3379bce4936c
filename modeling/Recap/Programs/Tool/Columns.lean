import Recap.Programs.Tool.Copy

/-!
# Columns

## Contents
- `Selection`, `cut` — parts of lines.
- `fold` — lines of a width.
-/

namespace Recap.Tool

open Recap.Shell

/-! ## Parts of lines -/

/-- Positions from one to another, the first being 1; without an upper bound, to the end. -/
abbrev Span := Nat × Option Nat

/-- The words for what is wrong with a list of positions, which are those of fields or not. -/
structure PositionWords where
  start : String
  badRange : String
  invalid : String
  tooLarge : String

/-- The words for fields. -/
def fieldWords : PositionWords :=
  ⟨"fields are numbered from 1", "invalid field range", "invalid field value ", "field number "⟩

/-- The words for bytes and characters. -/
def byteWords : PositionWords :=
  ⟨"byte/character positions are numbered from 1", "invalid byte or character range",
    "invalid byte/character position ", "byte/character offset "⟩

/-- Positions are below this. -/
def positionLimit : Nat := 0xffffffffffffffff

/-- A list of positions that is being read. -/
structure SpanDraft where
  /-- The number that is being read. -/
  value : Nat
  /-- The number before the hyphen, if there was one. -/
  initial : Option Nat
  /-- Whether there are digits before the hyphen. -/
  hasLow : Bool
  /-- Whether there are digits behind the hyphen. -/
  hasHigh : Bool

namespace SpanDraft

/-- Nothing has been read. -/
def empty : SpanDraft := ⟨0, none, false, false⟩

/-- The span that has been read. -/
def close (d : SpanDraft) (w : PositionWords) : Except String Span :=
  match d.initial with
  | some low =>
    if !d.hasLow && !d.hasHigh then .error "invalid range with no endpoint: -"
    else if !d.hasHigh then .ok (low, none)
    else if d.value < low then .error "invalid decreasing range"
    else .ok (low, some d.value)
  | none => if d.value == 0 then .error w.start else .ok (d.value, some d.value)

end SpanDraft

/-- Reads spans with commas or blanks between them. -/
def readSpans (w : PositionWords) : List Char → SpanDraft → Except String (List Span)
  | [], d => do return [← d.close w]
  | c :: cs, d => do
    if c == '-' then
      if d.initial.isSome then throw w.badRange
      else if d.hasLow && d.value == 0 then throw w.start
      else readSpans w cs { d with initial := some (if d.hasLow then d.value else 1), value := 0 }
    else if c == ',' || c == ' ' || c == '\t' then
      let span ← d.close w
      return span :: (← readSpans w cs .empty)
    else if c.isDigit then
      let value := d.value * 10 + (c.toNat - '0'.toNat)
      if positionLimit ≤ value then
        throw (w.tooLarge ++ Text.quoted (Nat.repr d.value ++ String.ofList ((c :: cs).takeWhile Char.isDigit)) ++
          " is too large")
      else if d.initial.isSome then readSpans w cs { d with value, hasHigh := true }
      else readSpans w cs { d with value, hasLow := true }
    else throw (w.invalid ++ Text.quoted (String.ofList (c :: cs)))

/-- Whether a position is chosen. -/
def isChosen (spans : List Span) (complement : Bool) (i : Nat) : Bool :=
  spans.any (fun s => s.1 ≤ i && s.2.all (i ≤ ·)) != complement

/-- The items at chosen positions. -/
def chooseFrom {α : Type} (spans : List Span) (complement : Bool) (items : List α) : List α :=
  (items.zipIdx.filter fun (_, i) => isChosen spans complement (i + 1)).map (·.1)

/-- The pieces of a line between a byte. -/
def splitAtByte (separator : UInt8) : Bytes → List Bytes
  | [] => [[]]
  | b :: bs =>
    if b == separator then [] :: splitAtByte separator bs
    else
      match splitAtByte separator bs with
      | [] => [[b]]
      | piece :: pieces => (b :: piece) :: pieces

/-- Chosen items in runs that are next to each other and stand in the same spans, with something between the
    runs. -/
def joinRuns (spans : List Span) (complement : Bool) (joint items : Bytes) : Bytes :=
  let starts (i : Nat) : Bool :=
    if complement then !isChosen spans true (i - 1) else spans.any fun s => s.1 == i && !spans.any fun t =>
      t.1 < i && t.2.all (i ≤ ·)
  let chosen := items.zipIdx.filter fun (_, i) => isChosen spans complement (i + 1)
  match chosen with
  | [] => []
  | (b, _) :: more => b :: more.flatMap fun (b, i) => (if starts (i + 1) then joint else []) ++ [b]

/-- Writes parts of lines. -/
def cut : Program := withOptions
  { program := "cut", plain := "snzC", valued := "bcfdO"
    names := [("bytes", 'b'), ("characters", 'c'), ("fields", 'f'), ("delimiter", 'd'),
      ("only-delimited", 's'), ("complement", 'C'), ("output-delimiter", 'O'),
      ("zero-terminated", 'z')] }
  fun o j => do
    let lists := o.given.filter fun e => ['b', 'c', 'f'].contains e.1
    let refuse (what : String) : Running Output := j.refuse 1 (hinted "cut" what)
    let separator := Text.bytes ((o.value? 'd').getD "\t")
    let wrong := o.given.findSome? fun (letter, value) =>
      if letter == 'd' && 1 < (Text.bytes value).length then some "the delimiter must be a single character"
      else none
    match lists, wrong with
    | _ :: _ :: _, _ => refuse "only one list may be specified"
    | _, some what => refuse what
    | [], _ => refuse "you must specify a list of bytes, characters, or fields"
    | [(letter, text)], none =>
      if letter != 'f' && o.has 'd' then
        refuse "an input delimiter may be specified only when operating on fields"
      else if letter != 'f' && o.has 's' then
        refuse "suppressing non-delimited lines makes sense\n\tonly when operating on fields"
      else
        match readSpans (if letter == 'f' then fieldWords else byteWords) text.toList .empty with
        | .error what => refuse what
        | .ok spans =>
          let byte := separator.head?.getD 0
          let ending := if o.has 'z' then 0 else newline
          let joint := match o.value? 'O' with
            | some text => if text.isEmpty then [0] else Text.bytes text
            | none => if letter == 'f' then [byte] else []
          let part (line : Bytes) : List Bytes :=
            if letter == 'f' then
              if line.contains byte then
                [joint.intercalate (chooseFrom spans (o.has 'C') (splitAtByte byte line))]
              else if o.has 's' then [] else [line]
            else [joinRuns spans (o.has 'C') joint line]
          let isWhole := letter == 'f' && byte == ending
          let linesOf (bs : Bytes) : List Bytes :=
            if isWhole && !bs.isEmpty then [if bs.getLast? == some ending then bs.dropLast else bs]
            else (keptPieces ending bs).map fun line => line.filter (· != ending)
          j.filter "cut" o.operands fun bs => ((linesOf bs).flatMap part).flatMap (· ++ [ending])

/-! ## Widths -/

/-- The column after a byte. -/
def columnAfter (inBytes : Bool) (column : Nat) (b : UInt8) : Nat :=
  if inBytes then column + 1
  else if b == 8 then column - 1
  else if b == 13 then 0
  else if b == 9 then column / 8 * 8 + 8
  else column + 1

/-- The part of a line up to its last blank, and what comes after it. -/
def breakAtBlank (line : Bytes) : Option (Bytes × Bytes) :=
  let after := (line.reverse.takeWhile fun b => b != 32 && b != 9).reverse
  if after.length == line.length then none else some (line.take (line.length - after.length), after)

/-- The column that bytes lead to. -/
def columnOf (inBytes : Bool) (bs : Bytes) : Nat := bs.foldl (columnAfter inBytes) 0

/-- A line in pieces that are no wider than a width; `piece` is the one that has begun. -/
def foldLine (inBytes atBlanks : Bool) (width : Nat) : Bytes → Bytes → List Bytes
  | piece, [] => [piece]
  | piece, b :: bs =>
    if columnAfter inBytes (columnOf inBytes piece) b ≤ width || piece.isEmpty then
      foldLine inBytes atBlanks width (piece ++ [b]) bs
    else
      match if atBlanks then breakAtBlank piece else none with
      | some (done, begun) =>
        if columnAfter inBytes (columnOf inBytes begun) b ≤ width then
          done :: foldLine inBytes atBlanks width (begun ++ [b]) bs
        else done :: begun :: foldLine inBytes atBlanks width [b] bs
      | none => piece :: foldLine inBytes atBlanks width [b] bs

/-- Writes lines in pieces that are no wider than a width. -/
def fold : Program := fun j =>
  let spelled := match j.arguments with
    | first :: rest =>
      match first.toList with
      | '-' :: c :: cs => if c.isDigit then "-w" :: String.ofList (c :: cs) :: rest else first :: rest
      | _ => first :: rest
    | [] => []
  withOptions
    { program := "fold", plain := "bs", valued := "w", names := [("width", 'w'), ("bytes", 'b'), ("spaces", 's')] }
    (fun o j =>
      let text := (o.value? 'w').getD "80"
      match boundedNumber 1 0xfffffffffffffff6 text with
      | .error why => j.refuse 1 ("fold: invalid number of columns: " ++ Text.quoted text ++ why)
      | .ok width =>
        j.filter "fold" o.operands fun bs =>
          (keptLines bs).flatMap fun line =>
            let pieces := foldLine (o.has 'b') (o.has 's') width [] (bareLine line)
            [newline].intercalate pieces ++ (if line.contains newline then [newline] else []))
    { j with arguments := spelled }

end Recap.Tool
