import Recap.Programs.Tool.Columns
import Recap.Programs.Tool.Order

/-!
# Two files in order

Two files whose lines are in order are gone through together.

## Contents
- `disorder?` — the first line of a file that is not in its place.
- `comm` — the lines that two files share.
- `JoinPlan`, `join` — lines of two files that have a field in common, put together.
-/

namespace Recap.Tool

open Recap.Shell

/-- The first line that is not in its place: its number and itself. -/
def disorder? (compare : Bytes → Bytes → Ordering) : Nat → List Bytes → Option (Nat × Bytes)
  | n, a :: b :: lines =>
    if compare a b == .gt then some (n + 1, b) else disorder? compare (n + 1) (b :: lines)
  | _, _ => none

/-! ## Lines that are shared -/

/-- Lines of two sorted lists with the column that each belongs to. `fuel` is at least the number of
    lines. -/
def mergeColumns : Nat → List Bytes → List Bytes → List (Nat × Bytes)
  | 0, _, _ => []
  | _, [], bs => bs.map fun b => (2, b)
  | _, as, [] => as.map fun a => (1, a)
  | fuel + 1, a :: as, b :: bs =>
    match compareBytes a b with
    | .lt => (1, a) :: mergeColumns fuel as (b :: bs)
    | .gt => (2, b) :: mergeColumns fuel (a :: as) bs
    | .eq => (3, a) :: mergeColumns fuel as bs

/-- The options of `comm`. -/
def commOptions : OptionTable :=
  { program := "comm", plain := "123z#%@", valued := "&"
    names := [("check-order", '#'), ("nocheck-order", '%'), ("total", '@'), ("output-delimiter", '&'),
      ("zero-terminated", 'z')] }

/-- Writes the lines of two sorted files in three columns: those of the first alone, those of the second
    alone, and those of both. -/
def comm : Program := withOptions commOptions fun o j => do
  let hint := "\nTry 'comm --help' for more information."
  match o.operands with
  | [] => j.refuse 1 ("comm: missing operand" ++ hint)
  | [a] => j.refuse 1 ("comm: missing operand after " ++ Text.quoted a ++ hint)
  | _ :: _ :: extra :: _ => j.refuse 1 ("comm: extra operand " ++ Text.quoted extra ++ hint)
  | operands =>
    let g ← j.gather "comm" operands
    match g.sources with
    | [a, b] =>
      let ending := if o.has 'z' then 0 else newline
      let linesOf (bs : Bytes) : List Bytes := (keptPieces ending bs).map fun l => l.filter (· != ending)
      let (as, bs) := (linesOf a.bytes, linesOf b.bytes)
      let isShown (column : Nat) : Bool := !o.has (Char.ofNat (48 + column))
      let separator := Text.bytes ((o.value? '&').getD "\t")
      let gaps (column : Nat) : Bytes :=
        ((List.range column).filter fun c => c != 0 && isShown c).flatMap fun _ => separator
      let all := mergeColumns (as.length + bs.length + 1) as bs
      let rows := all.filter fun r => isShown r.1
      let counts := [1, 2, 3].map fun c => Text.bytes (Nat.repr (all.countP (·.1 == c)))
      let total := if o.has '@' then separator.intercalate (counts ++ [Text.bytes "total"]) ++ [ending] else []
      let out := (rows.flatMap fun (column, line) => gaps column ++ line ++ [ending]) ++ total
      let checks := !o.has '%' && (o.has '#' || all.any (·.1 != 3))
      let wrong := if checks then
          [(1, as), (2, bs)].filterMap fun (n, lines) => (disorder? compareBytes 1 lines).map fun _ => n
        else []
      let complaints := wrong.map fun (n : Nat) => "comm: file " ++ Nat.repr n ++ " is not in sorted order\n"
      match complaints with
      | [] => return g.finish out
      | first :: _ =>
        let said := if o.has '#' then first
          else String.join complaints ++ "comm: input is not in sorted order\n"
        return { g.finish out with err := Text.bytes said, status := .exited 1 }
    | _ => return g.finish []

/-! ## Lines with a field in common -/

/-- A line and its fields. -/
structure JoinLine where
  text : Bytes
  fields : List Bytes

/-- The fields between blanks. -/
def blankPieces (line : Bytes) : List Bytes :=
  (splitAtByte 32 (line.map fun b => if b == 9 then 32 else b)).filter (!·.isEmpty)

/-- What of which file is written: the common field, or a field of a file. -/
inductive JoinField where
  | common
  | field (second : Bool) (index : Nat)

/-- How lines are put together. -/
structure JoinPlan where
  /-- The places of the fields that are compared. -/
  first : Nat
  second : Nat
  separator : Option UInt8
  ignoreCase : Bool
  filler : Bytes
  layout : Option (List JoinField)
  /-- Whether lines of a file that have no partner are written. -/
  keepsFirst : Bool
  keepsSecond : Bool
  keepsPairs : Bool

namespace JoinPlan

/-- A line in fields. -/
def line (p : JoinPlan) (text : Bytes) : JoinLine :=
  ⟨text, match p.separator with
    | some b => splitAtByte b text
    | none => blankPieces text⟩

/-- The field of a line that is compared. -/
def key (p : JoinPlan) (second : Bool) (l : JoinLine) : Bytes :=
  (l.fields[if second then p.second else p.first]?).getD []

/-- How two fields compare. -/
def compare (p : JoinPlan) (a b : Bytes) : Ordering :=
  if p.ignoreCase then compareBytes (a.map capital) (b.map capital) else compareBytes a b

/-- A field as it is written. -/
def shown (p : JoinPlan) (field : Option Bytes) : Bytes :=
  match field with
  | none | some [] => p.filler
  | some bs => bs

/-- The fields of a line but one. -/
def others (index : Nat) (l : JoinLine) : List Bytes :=
  (l.fields.zipIdx.filter fun (_, i) => i != index).map (·.1)

/-- Two lines put together; one can be missing. -/
def together (p : JoinPlan) (a b : Option JoinLine) : Bytes :=
  let joint := [p.separator.getD 32]
  let common : Bytes := match a, b with
    | some a, _ => p.key false a
    | none, some b => p.key true b
    | none, none => []
  let pieces := match p.layout with
    | some fields =>
      fields.map fun f => match f with
        | .common => p.shown (some common)
        | .field second index => p.shown ((if second then b else a).bind (·.fields[index]?))
    | none =>
      p.shown (some common) ::
        ((a.map (others p.first)).getD [] ++ (b.map (others p.second)).getD []).map fun f => p.shown (some f)
  joint.intercalate pieces

/-- The lines of two files put together. `fuel` is more than the number of lines. -/
def rows (p : JoinPlan) : Nat → List JoinLine → List JoinLine → List Bytes
  | 0, _, _ => []
  | _, [], bs => if p.keepsSecond then bs.map fun b => p.together none (some b) else []
  | _, as, [] => if p.keepsFirst then as.map fun a => p.together (some a) none else []
  | fuel + 1, a :: as, b :: bs =>
    match p.compare (p.key false a) (p.key true b) with
    | .lt => (if p.keepsFirst then [p.together (some a) none] else []) ++ p.rows fuel as (b :: bs)
    | .gt => (if p.keepsSecond then [p.together none (some b)] else []) ++ p.rows fuel (a :: as) bs
    | .eq =>
      let same (second : Bool) (l : JoinLine) : Bool := p.compare (p.key false a) (p.key second l) == .eq
      let firsts := a :: as.takeWhile (same false)
      let seconds := b :: bs.takeWhile (same true)
      let pairs := if p.keepsPairs then
          firsts.flatMap fun x => seconds.map fun y => p.together (some x) (some y)
        else []
      pairs ++ p.rows fuel (as.dropWhile (same false)) (bs.dropWhile (same true))

/-- Whether a line of one file has no partner in the other. -/
def leavesAlone (p : JoinPlan) (as bs : List JoinLine) : Bool :=
  let has (second : Bool) (ls : List JoinLine) (k : Bytes) : Bool :=
    ls.any fun l => p.compare (p.key second l) k == .eq
  as.any (fun a => !has true bs (p.key false a)) || bs.any fun b => !has false as (p.key true b)

end JoinPlan

/-- The fields of a layout. -/
def joinLayout (text : String) : Except String (List JoinField) :=
  let entries := ((text.map fun c => if c == ' ' || c == '\t' then ',' else c).splitOn ",").filter (· != "")
  entries.mapM fun entry =>
    match entry.splitOn "." with
    | ["0"] => .ok .common
    | [file, index] =>
      match file, natOf? index with
      | "1", some (n + 1) => .ok (.field false n)
      | "2", some (n + 1) => .ok (.field true n)
      | "1", _ | "2", _ => .error ("invalid field number: " ++ Text.quoted index)
      | _, _ => .error ("invalid file number in field spec: " ++ Text.quoted entry)
    | _ => .error ("invalid field specifier: " ++ Text.quoted entry)

/-- The options of `join`. -/
def joinOptions : OptionTable :=
  { program := "join", plain := "iz#%@", valued := "aejotv12"
    names := [("ignore-case", 'i'), ("check-order", '#'), ("nocheck-order", '%'), ("header", '@'),
      ("zero-terminated", 'z')] }

/-- How options ask for lines to be put together. -/
def JoinPlan.ofOptions (o : Options) : Except String JoinPlan := do
  let field (letter : Char) : Except String Nat :=
    match (o.given.filter fun e => e.1 == letter || e.1 == 'j').getLast? with
    | none => .ok 0
    | some (_, text) =>
      match natOf? text with
      | some (n + 1) => .ok n
      | _ => .error ("invalid field number: " ++ Text.quoted text)
  let file (letter : Char) (text : String) : Except String Bool :=
    match text with
    | "1" => .ok false
    | "2" => .ok true
    | _ => .error (if letter == 'a' || letter == 'v' then "invalid field number: " ++ Text.quoted text else text)
  let kept ← (o.values 'a').mapM (file 'a')
  let only ← (o.values 'v').mapM (file 'v')
  let separator ← match o.value? 't' with
    | none => pure none
    | some "\\0" => pure (some 0)
    | some text =>
      match Text.bytes text with
      | [] => pure (some newline)
      | [b] => pure (some b)
      | _ => throw ("multi-character tab " ++ Text.quoted text)
  let layouts := (o.values 'o').filter (· != "auto")
  let layout ← if layouts.isEmpty then pure none else do
    pure (some ((← layouts.mapM joinLayout).flatten))
  return { first := ← field '1', second := ← field '2', separator, ignoreCase := o.has 'i'
           filler := Text.bytes ((o.value? 'e').getD ""), layout
           keepsFirst := (kept ++ only).contains false, keepsSecond := (kept ++ only).contains true
           keepsPairs := only.isEmpty }

/-- Fields for as many as the first lines have. -/
def JoinPlan.automatic (p : JoinPlan) (as bs : List JoinLine) : JoinPlan :=
  let others (second : Bool) (index : Nat) (ls : List JoinLine) : List JoinField :=
    ((List.range ((ls.head?.map (·.fields.length)).getD 0)).filter (· != index)).map (.field second)
  { p with layout := some (.common :: others false p.first as ++ others true p.second bs) }

/-- Writes lines of two sorted files that have a field in common, put together. -/
def join : Program := withOptions joinOptions fun o j => do
  let hint := "\nTry 'join --help' for more information."
  match JoinPlan.ofOptions o, o.operands with
  | .error complaint, _ => j.refuse 1 ("join: " ++ complaint)
  | _, [] => j.refuse 1 ("join: missing operand" ++ hint)
  | _, [a] => j.refuse 1 ("join: missing operand after " ++ Text.quoted a ++ hint)
  | _, _ :: _ :: extra :: _ => j.refuse 1 ("join: extra operand " ++ Text.quoted extra ++ hint)
  | _, ["-", "-"] => j.refuse 1 "join: both files cannot be standard input"
  | .ok p, operands =>
    let g ← j.gather "join" operands
    match g.sources with
    | [a, b] =>
      let ending := if o.has 'z' then 0 else newline
      let linesOf (bs : Bytes) : List JoinLine :=
        (keptPieces ending bs).map fun l => p.line (l.filter (· != ending))
      let (as, bs) := (linesOf a.bytes, linesOf b.bytes)
      let p := if (o.values 'o').contains "auto" then p.automatic as bs else p
      let heads := if o.has '@' then 1 else 0
      let head := if o.has '@' && !(as.isEmpty && bs.isEmpty) then [p.together as.head? bs.head?] else []
      let (as, bs) := (as.drop heads, bs.drop heads)
      let rows := head ++ p.rows (as.length + bs.length + 1) as bs
      let out := rows.flatMap (· ++ [ending])
      let checks := !o.has '%' && (o.has '#' || p.leavesAlone as bs)
      let wrong (name : String) (second : Bool) (ls : List JoinLine) : Option String :=
        (disorder? p.compare (1 + heads) (ls.map (p.key second))).map fun (n, _) =>
          "join: " ++ name ++ ":" ++ Nat.repr n ++ ": is not sorted: " ++
            ((ls[n - 1 - heads]?).map fun l => Text.decode l.text).getD "" ++ "\n"
      let complaints := if checks then (wrong a.name false as).toList ++ (wrong b.name true bs).toList else []
      match complaints with
      | [] => return g.finish out
      | first :: _ =>
        let said := if o.has '#' then first else String.join complaints ++ "join: input is not in sorted order\n"
        return { g.finish out with err := Text.bytes said, status := .exited 1 }
    | _ => return g.finish []

end Recap.Tool
