import Recap.Programs.Tool.Order

/-!
# Repetitions

Lines that follow each other and look alike make a run.

## Contents
- `runsOf` — the runs of lines.
- `uniq` — writes one line of each run, or what else is asked for.
-/

namespace Recap.Tool

open Recap.Shell

/-- The runs of lines that look alike. -/
def runsOf (look : Bytes → Bytes) : List Bytes → List (List Bytes)
  | [] => []
  | line :: lines =>
    match runsOf look lines with
    | (next :: more) :: runs =>
      if look line == look next then (line :: next :: more) :: runs else [line] :: (next :: more) :: runs
    | runs => [line] :: runs

/-- Drops blanks and the text behind them. -/
def dropFields : Nat → Bytes → Bytes
  | 0, bs => bs
  | n + 1, bs => dropFields n ((bs.dropWhile isGap).dropWhile fun b => !isGap b)

/-- Where empty lines stand around groups. -/
inductive Spacing where
  | none
  | before
  | after
  | between
  | around
  deriving DecidableEq

/-- Groups with empty lines where they are asked for. -/
def Spacing.apply (s : Spacing) (groups : List (List Bytes)) : List Bytes :=
  match s with
  | .none => groups.flatten
  | .before => groups.flatMap ([] :: ·)
  | .after => groups.flatMap (· ++ [[]])
  | .between => [[]].intercalate groups
  | .around => groups.flatMap ([] :: ·) ++ (if groups.isEmpty then [] else [[]])

/-- The options of `uniq`. -/
def uniqOptions : OptionTable :=
  { program := "uniq", plain := "cduizD", valued := "fsw", attached := "@#"
    names := [("count", 'c'), ("repeated", 'd'), ("unique", 'u'), ("ignore-case", 'i'),
      ("skip-fields", 'f'), ("skip-chars", 's'), ("check-chars", 'w'), ("zero-terminated", 'z'),
      ("all-repeated", '@'), ("group", '#')] }

/-- The word that is meant, if one is and the words differ enough. -/
def chosenWord? (words : List String) (text : String) : Option String :=
  if words.contains text then some text
  else
    match words.filter fun w => w.startsWith text && !text.isEmpty with
    | [w] => some w
    | _ => none

/-- The spacing that an option asks for. -/
def readSpacing (option usual : String) (words : List (String × Spacing)) (text : String) : Except String Spacing :=
  match (chosenWord? (words.map (·.1)) (if text.isEmpty then usual else text)).bind (List.lookup · words) with
  | some s => .ok s
  | none =>
    .error ("invalid argument " ++ Text.quoted text ++ " for '--" ++ option ++ "'\nValid arguments are:\n" ++
      String.join (words.map fun (w, _) => "  - '" ++ w ++ "'\n") ++ "Try 'uniq --help' for more information.")

/-- What `uniq` is asked for. -/
structure UniqPlan where
  fields : Nat
  chars : Nat
  width : Option Nat
  repeated : Option Spacing
  grouped : Option Spacing

/-- Reads what `uniq` is asked for. -/
def UniqPlan.ofOptions (o : Options) : Except String UniqPlan := do
  let number (letter : Char) (what : String) : Except String (Option Nat) :=
    match o.value? letter with
    | none => .ok none
    | some text =>
      match natOf? text with
      | some n => .ok (some n)
      | none => .error (text ++ ": invalid number of " ++ what)
  let repeated ← match o.value? '@' with
    | some text =>
      (readSpacing "all-repeated" "none" [("none", .none), ("prepend", .before), ("separate", .between)] text).map some
    | none => pure (if o.has 'D' then some .none else none)
  let grouped ← (o.value? '#').mapM
    (readSpacing "group" "separate"
      [("prepend", .before), ("append", .after), ("separate", .between), ("both", .around)])
  let hint := "\nTry 'uniq --help' for more information."
  if grouped.isSome && (o.has 'c' || o.has 'd' || o.has 'u' || repeated.isSome) then
    throw ("--group is mutually exclusive with -c/-d/-D/-u" ++ hint)
  if repeated.isSome && o.has 'c' then
    throw ("printing all duplicated lines and repeat counts is meaningless" ++ hint)
  return { fields := (← number 'f' "fields to skip").getD 0, chars := (← number 's' "bytes to skip").getD 0
           width := ← number 'w' "bytes to compare", repeated, grouped }

/-- What of a line is compared. -/
def UniqPlan.look (p : UniqPlan) (ignoreCase : Bool) (line : Bytes) : Bytes :=
  let bs := (dropFields p.fields line).drop p.chars
  let bs := match p.width with
    | some n => bs.take n
    | none => bs
  if ignoreCase then bs.map capital else bs

/-- Writes one of lines that repeat. -/
def uniq : Program := withOptions uniqOptions fun o j => do
  match UniqPlan.ofOptions o, o.operands with
  | .error complaint, _ => j.refuse 1 ("uniq: " ++ complaint)
  | _, _ :: _ :: extra :: _ =>
    j.refuse 1 ("uniq: extra operand " ++ Text.quoted extra ++ "\nTry 'uniq --help' for more information.")
  | .ok p, operands =>
    let g ← j.gather "uniq" (operands.take 1)
    let ending := if o.has 'z' then 0 else newline
    let lines := (keptPieces ending g.bytes).map fun l => l.filter (· != ending)
    let runs := runsOf (p.look (o.has 'i')) lines
    let numbered (run : List Bytes) : Bytes :=
      (if o.has 'c' then Text.bytes (padLeft 7 (Nat.repr run.length) ++ " ") else []) ++ run.headD []
    let out : List Bytes := match p.grouped, p.repeated with
      | some spacing, _ => spacing.apply runs
      | none, some spacing =>
        spacing.apply (runs.filter fun (run : List Bytes) => 1 < run.length && !o.has 'u')
      | none, none =>
        let wanted (run : List Bytes) : Bool := (!o.has 'd' || 1 < run.length) && (!o.has 'u' || run.length == 1)
        (runs.filter wanted).map numbered
    let bytes := out.flatMap (· ++ [ending])
    match operands[1]? with
    | none | some "-" => return g.finish bytes
    | some name =>
      match ← (Call.writeBytes (j.path name) bytes false).ask with
      | .ok () => return g.finish []
      | .error fault => j.refuse 1 ("uniq: " ++ name ++ ": " ++ fault.phrase)

end Recap.Tool
