import Recap.Programs.Shell.RegexText
import Recap.Programs.Tool.Options

/-!
# Copying

## Contents
- `cat`, `tac`, `rev`, `tee` — all of what is read.
- `paste` — lines side by side.
-/

namespace Recap.Tool

open Recap.Shell

/-! ## Everything -/

/-- A byte in visible signs. -/
def visibleByte (tabs : Bool) (b : UInt8) : Bytes :=
  let low (b : UInt8) : Bytes :=
    if b < 32 then [94, b + 64] else if b == 127 then [94, 63] else [b]
  if b == 9 && !tabs then [b]
  else if b == newline then [b]
  else if b < 128 then low b
  else [77, 45] ++ low (b - 128)

/-- How `cat` shows lines. -/
structure CatStyle where
  numbers : Bool
  numbersText : Bool
  ends : Bool
  tabs : Bool
  visible : Bool
  squeezes : Bool

/-- A line as `cat` shows it. -/
def CatStyle.line (s : CatStyle) (number : Option Nat) (line : Bytes) : Bytes :=
  let front := (number.map fun n => Text.bytes (padLeft 6 (Nat.repr n) ++ "\t")).getD []
  let body := (bareLine line).flatMap fun b =>
    if s.visible then visibleByte s.tabs b
    else if s.tabs && b == 9 then [94, 73]
    else [b]
  front ++ body ++ (if line.contains newline then (if s.ends then [36, newline] else [newline]) else [])

/-- Lines as `cat` shows them, from a number on. -/
def CatStyle.lines (s : CatStyle) : Nat → Bool → List Bytes → Bytes
  | _, _, [] => []
  | n, afterBlank, line :: lines =>
    let blank := line == [newline]
    if s.squeezes && blank && afterBlank then s.lines n true lines
    else if (s.numbersText && !blank) || (s.numbers && !s.numbersText) then
      s.line (some n) line ++ s.lines (n + 1) blank lines
    else s.line none line ++ s.lines n blank lines

/-- Writes what is in files. -/
def cat : Program := withOptions
  { program := "cat", plain := "AbeEnstTuv"
    names := [("show-all", 'A'), ("number-nonblank", 'b'), ("show-ends", 'E'), ("number", 'n'),
      ("squeeze-blank", 's'), ("show-tabs", 'T'), ("show-nonprinting", 'v')] }
  fun o j =>
    let style : CatStyle :=
      { numbers := o.has 'n', numbersText := o.has 'b', squeezes := o.has 's'
        ends := o.has 'E' || o.has 'e' || o.has 'A', tabs := o.has 'T' || o.has 't' || o.has 'A'
        visible := o.has 'v' || o.has 'e' || o.has 't' || o.has 'A' }
    j.filter "cat" o.operands fun bs =>
      if o.given.all (·.1 == 'u') then bs else style.lines 1 false (keptLines bs)

/-- Where separators begin and end, the last first. A separator that begins at a place has to end before a
    limit. -/
def placesFromEnd (endsAt : Nat → Nat → Option Nat) : Nat → Nat → List (Nat × Nat)
  | 0, _ => []
  | place + 1, limit =>
    match endsAt place limit with
    | some stop => (place, stop) :: placesFromEnd endsAt place place
    | none => placesFromEnd endsAt place limit

/-- A text cut at places, in ascending order. -/
def cutAt {α : Type} (text : List α) : Nat → List Nat → List (List α)
  | _, [] => [text]
  | before, place :: places => text.take (place - before) :: cutAt (text.drop (place - before)) place places

/-- Pieces in reverse order; each ends with a separator, or begins with one. -/
def reversed {α : Type} (endsAt : Nat → Nat → Option Nat) (before : Bool) (text : List α) : List α :=
  let places := (placesFromEnd endsAt text.length text.length).reverse
  (cutAt text 0 (places.map fun (start, stop) => if before then start else stop)).reverse.flatten

/-- Writes the lines, or pieces with another separator, in reverse order. -/
def tac : Program := withOptions
  { program := "tac", plain := "br", valued := "s"
    names := [("before", 'b'), ("regex", 'r'), ("separator", 's')] }
  fun o j => do
    let separator := (o.value? 's').getD "\n"
    let g ← j.gatherWith
      (fun name fault =>
        if fault == .isDirectory then "tac: " ++ Text.named name ++ ": read error: Invalid argument"
        else "tac: failed to open " ++ Text.namedAlways name ++ " for reading: " ++ fault.phrase)
      o.operands
    if o.has 'r' then
      match Regex.ofText { extended := false } (Text.spread separator) with
      | .error flaw => j.refuse 1 ("tac: " ++ flaw.message)
      | .ok r =>
        return g.finish (g.sources.flatMap fun s =>
          let t := (Text.ofBytes s.bytes).toList.toArray
          let endsAt (place limit : Nat) : Option Nat :=
            ((r.fitAt? (t.extract 0 limit) place).filter fun f => place < f.stop).map (·.stop)
          reversed endsAt (o.has 'b') s.bytes)
    else
      let sign := if separator.isEmpty then [0] else Text.bytes separator
      return g.finish (g.sources.flatMap fun s =>
        let bytes := s.bytes.toArray
        let endsAt (place limit : Nat) : Option Nat :=
          let stop := place + sign.length
          if stop ≤ limit && (bytes.extract place stop).toList == sign then some stop else none
        reversed endsAt (o.has 'b') s.bytes)

/-- Writes the characters of each line in reverse order. -/
def rev : Program := withOptions { program := "rev" } fun o j =>
  j.filterWith (fun name fault => "rev: cannot open " ++ name ++ ": " ++ fault.phrase) o.operands fun bs =>
    (keptLines bs).flatMap fun line =>
      let turned := (Text.decode (bareLine line)).toList.reverse
      Text.bytes (String.ofList turned) ++ (if line.contains newline then [newline] else [])

/-- Writes the input, also to files. -/
def tee : Program := withOptions
  { program := "tee", plain := "ai", names := [("append", 'a'), ("ignore-interrupts", 'i')] }
  fun o j => do
    let mut out := j.input
    let mut err := []
    let mut beyond := []
    let mut code := 0
    for operand in o.operands do
      match channelOf? (j.path operand) with
      | some 1 => out := out ++ j.input
      | some 2 => err := err ++ j.input
      | some n => beyond := beyond ++ [(n, j.input)]
      | none =>
        match ← (Call.writeBytes (j.path operand) j.input (o.has 'a')).ask with
        | .ok () => pure ()
        | .error fault =>
          err := err ++ Text.bytes ("tee: " ++ operand ++ ": " ++ fault.phrase ++ "\n")
          code := 1
    return { out, err, status := .exited code, rest := [], beyond }

/-! ## Side by side -/

/-- The byte that a letter after a backslash stands for. -/
def delimiterByte (b : UInt8) : UInt8 :=
  match b.toNat with
  | 48 => 0
  | 98 => 8
  | 102 => 12
  | 110 => 10
  | 114 => 13
  | 116 => 9
  | 118 => 11
  | _ => b

/-- The bytes of a list with backslashes, none of which is the last byte. -/
def delimiters? : Bytes → Option Bytes
  | [92] => none
  | 92 :: b :: bs => (delimiters? bs).map (delimiterByte b :: ·)
  | b :: bs => (delimiters? bs).map (b :: ·)
  | [] => some []

/-- Pieces with separators between them, taken in turn; one that is zero is left out. -/
def interleave (separators : Bytes) (pieces : List Bytes) : Bytes :=
  (pieces.zipIdx.flatMap fun (piece, i) =>
    if i == 0 then piece
    else (separators[(i - 1) % separators.length]?.toList.filter (· != 0)) ++ piece)

/-- Columns of lines as rows; a column that has ended is empty. -/
def rowsOf (columns : List (List Bytes)) : List (List Bytes) :=
  (List.range (columns.foldl (fun n c => max n c.length) 0)).map fun i =>
    columns.map fun column => column[i]?.getD []

/-- Every so many of some lines, from one on. -/
def everyNth (count first : Nat) (lines : List Bytes) : List Bytes :=
  (lines.zipIdx.filter fun (_, i) => i % count == first).map (·.1)

/-- Writes the lines of files side by side, or those of each file in a row. The input can be several of the
    files, which then share its lines. -/
def paste : Program := withOptions
  { program := "paste", plain := "sz", valued := "d"
    names := [("delimiters", 'd'), ("serial", 's'), ("zero-terminated", 'z')] }
  fun o j => do
    let text := (o.value? 'd').getD "\t"
    match delimiters? (Text.bytes text) with
    | none => j.refuse 1 ("paste: delimiter list ends with an unescaped backslash: " ++ text)
    | some separators =>
      let separators := if separators.isEmpty then [0] else separators
      let ending := if o.has 'z' then 0 else newline
      let linesOf (bs : Bytes) : List Bytes := (keptPieces ending bs).map fun l => l.filter (· != ending)
      let operands := if o.operands.isEmpty then ["-"] else o.operands
      let g ← j.gather "paste" operands
      let inputs := operands.filter isInputName
      let shared (columns : List (List Bytes)) (s : Source) : List (List Bytes) :=
        let before := columns.length - (g.sources.take columns.length).countP (!isInputName ·.name)
        columns ++ [if isInputName s.name then everyNth inputs.length before (linesOf j.input) else linesOf s.bytes]
      let rows := if o.has 's' then g.sources.map fun s => linesOf s.bytes
        else rowsOf (g.sources.foldl shared [])
      return g.finish (if !o.has 's' && !g.err.isEmpty then []
        else (rows.map (interleave separators)).flatMap (· ++ [ending]))

end Recap.Tool
