import Recap.Programs.Shell.RegexText
import Recap.Programs.Tool.Options

/-!
# Counting and numbering

## Contents
- `Counts`, `wc` — lines, words and bytes.
- `Numbered`, `NumberStyle`, `nl` — lines with numbers.
-/

namespace Recap.Tool

open Recap.Shell

/-! ## Counts -/

/-- Whether a byte is blank. -/
def isBlankByte (b : UInt8) : Bool := b == 32 || (9 ≤ b && b ≤ 13)

/-- The number of words. Bytes that cannot be seen neither make a word nor end one. -/
def wordCount : Bool → Bytes → Nat
  | _, [] => 0
  | inWord, b :: bs =>
    if isBlankByte b then wordCount false bs
    else if 32 < b && b < 127 then (if inWord then 0 else 1) + wordCount true bs
    else wordCount inWord bs

/-- The columns of the widest line, from a column on. -/
def widest : Nat → Nat → Bytes → Nat
  | most, column, [] => max most column
  | most, column, b :: bs =>
    if b == newline || b == 13 || b == 12 then widest (max most column) 0 bs
    else if b == 9 then widest most (column / 8 * 8 + 8) bs
    else if 32 ≤ b && b < 127 then widest most (column + 1) bs
    else widest most column bs

/-- What `wc` counts. -/
structure Counts where
  lines : Nat
  words : Nat
  chars : Nat
  bytes : Nat
  widest : Nat

/-- The counts of bytes. -/
def Counts.of (bs : Bytes) : Counts :=
  { lines := bs.count newline, words := wordCount false bs, chars := bs.length
    bytes := bs.length, widest := Tool.widest 0 0 bs }

/-- The counts of two together. -/
def Counts.add (a b : Counts) : Counts :=
  { lines := a.lines + b.lines, words := a.words + b.words, chars := a.chars + b.chars
    bytes := a.bytes + b.bytes, widest := max a.widest b.widest }

/-- The counts that options ask for. -/
def Counts.chosen (c : Counts) (letters : List Char) : List Nat :=
  (if letters.contains 'l' then [c.lines] else []) ++ (if letters.contains 'w' then [c.words] else []) ++
    (if letters.contains 'm' then [c.chars] else []) ++ (if letters.contains 'c' then [c.bytes] else []) ++
    (if letters.contains 'L' then [c.widest] else [])

/-- The width of the columns: that of the sizes of all files, but more for what has no size. -/
def columnWidth (j : Job) (operands : List String) : Running Nat := do
  let mut total := 0
  let mut least := 1
  for operand in (if operands.isEmpty then ["-"] else operands) do
    if operand == "-" then
      if j.inputIsFile then total := total + j.input.length else least := 7
    else
      match ← (Call.look (j.path operand)).ask with
      | .ok (.file size _) => total := total + size
      | .ok _ => least := 7
      | .error _ => pure ()
  return max least (Nat.repr total).length

/-- Writes the numbers of lines, words and bytes, or those that are asked for. -/
def wc : Program := withOptions
  { program := "wc", plain := "lwmcL"
    names := [("lines", 'l'), ("words", 'w'), ("chars", 'm'), ("bytes", 'c'), ("max-line-length", 'L')] }
  fun o j => do
    let letters := if o.given.isEmpty then ['l', 'w', 'c'] else o.given.map (·.1)
    let g ← j.gather "wc" o.operands
    let single := (Counts.chosen (.of []) letters).length == 1 && o.operands.length ≤ 1
    let width ← if single then pure 1 else columnWidth j o.operands
    let row (name : String) (c : Counts) : String :=
      " ".intercalate ((c.chosen letters).map fun n => padLeft width (Nat.repr n)) ++ name ++ "\n"
    let named (s : Source) : String := if o.operands.isEmpty then "" else " " ++ s.name
    let counts := g.sources.map fun s => (named s, Counts.of s.bytes)
    let total := if o.operands.length > 1 then
      row " total" (counts.foldl (fun c e => c.add e.2) (.of [])) else ""
    return g.finish (Text.bytes (String.join (counts.map fun (name, c) => row name c) ++ total))

/-! ## Numbers -/

/-- Which lines get numbers. -/
inductive Numbered where
  | all
  | withText
  | none
  /-- Lines that a pattern fits. -/
  | fitting (r : Regex)

/-- The lines that a text says. -/
def Numbered.ofText? (text : String) : Option (Except Regex.Flaw Numbered) :=
  match text.toList with
  | ['a'] => some (.ok .all)
  | ['t'] => some (.ok .withText)
  | ['n'] => some (.ok .none)
  | 'p' :: pattern =>
    some ((Regex.ofText { extended := false, turnedRanges := true } (Text.spread (String.ofList pattern))).map .fitting)
  | _ => Option.none

/-- How `nl` numbers lines. -/
structure NumberStyle where
  header : Numbered
  body : Numbered
  footer : Numbered
  width : Nat
  separator : String
  start : Int
  step : Int
  alignment : String
  /-- Of so many empty lines, the last gets a number. -/
  joined : Nat
  /-- What sections begin with, repeated. -/
  mark : Bytes
  /-- Whether each section begins with the first number. -/
  restarts : Bool

/-- A number before a line. -/
def NumberStyle.front (s : NumberStyle) (n : Int) : String :=
  let digits := intText n
  let column :=
    if s.alignment == "ln" then padRight s.width digits
    else if s.alignment == "rz" then
      let sign := if n < 0 then "-" else ""
      let digits := Nat.repr n.natAbs
      sign ++ String.ofList (List.replicate (s.width - digits.length - sign.length) '0') ++ digits
    else padLeft s.width digits
  column ++ s.separator

/-- The section that a line begins: which lines get numbers in it. -/
def NumberStyle.section? (s : NumberStyle) (line : Bytes) : Option Numbered :=
  if s.mark.length < 2 then none
  else if line == s.mark ++ s.mark ++ s.mark then some s.header
  else if line == s.mark ++ s.mark then some s.body
  else if line == s.mark then some s.footer
  else none

/-- Lines with their numbers; `empties` counts empty lines that got no number. -/
def NumberStyle.lines (s : NumberStyle) : Numbered → Int → Nat → List Bytes → Bytes
  | _, _, _, [] => []
  | which, n, empties, line :: lines =>
    match s.section? line with
    | some which => newline :: s.lines which (if s.restarts then s.start else n) empties lines
    | none =>
      let (numbered, empties) := match which with
        | .all =>
          if s.joined ≤ 1 || !line.isEmpty then (true, 0)
          else if empties + 1 == s.joined then (true, 0)
          else (false, empties + 1)
        | .withText => (!line.isEmpty, empties)
        | .none => (false, empties)
        | .fitting r => (r.isIn (Text.ofBytes line).toList.toArray, empties)
      if numbered then Text.bytes (s.front n) ++ line ++ newline :: s.lines which (n + s.step) empties lines
      else
        List.replicate (s.width + s.separator.utf8ByteSize) 32 ++ line ++ newline :: s.lines which n empties lines

/-- How options ask for lines to be numbered. -/
def NumberStyle.ofOptions (o : Options) : Except String NumberStyle := do
  let number (letter : Char) (what : String) (usual least : Int) : Except String Int :=
    match o.value? letter with
    | none => .ok usual
    | some text =>
      match intOf? text with
      | some n => if n < least then .error ("invalid " ++ what ++ ": " ++ Text.quoted text ++ ": Numerical result out of range") else .ok n
      | none => .error ("invalid " ++ what ++ ": " ++ Text.quoted text)
  let hint := "\nTry 'nl --help' for more information."
  let which (letter : Char) (what usual : String) : Except String Numbered :=
    let text := (o.value? letter).getD usual
    match Numbered.ofText? text with
    | some (.ok n) => .ok n
    | some (.error flaw) => .error flaw.message
    | none => .error ("invalid " ++ what ++ " numbering style: " ++ Text.quoted text ++ hint)
  let alignment := (o.value? 'n').getD "rn"
  if !(["ln", "rn", "rz"].contains alignment) then
    throw ("invalid line numbering format: " ++ Text.quoted alignment ++ hint)
  let mark := match Text.bytes ((o.value? 'd').getD "\\:") with
    | [b] => [b, 58]
    | bs => bs
  let least : Int := -0x8000000000000000
  return { header := ← which 'h' "header" "n", body := ← which 'b' "body" "t"
           footer := ← which 'f' "footer" "n", separator := (o.value? 's').getD "\t"
           start := ← number 'v' "starting line number" 1 least
           step := ← number 'i' "line number increment" 1 least
           joined := (← number 'l' "line number of blank lines" 1 1).toNat
           width := (← number 'w' "line number field width" 6 1).toNat, alignment, mark
           restarts := !o.has 'p' }

/-- Writes lines with their numbers. -/
def nl : Program := withOptions
  { program := "nl", plain := "p", valued := "bdfhilnsvw"
    names := [("body-numbering", 'b'), ("header-numbering", 'h'), ("footer-numbering", 'f'),
      ("number-width", 'w'), ("number-separator", 's'), ("starting-line-number", 'v'),
      ("line-increment", 'i'), ("number-format", 'n'), ("section-delimiter", 'd'),
      ("join-blank-lines", 'l'), ("no-renumber", 'p')] }
  fun o j =>
    match NumberStyle.ofOptions o with
    | .error complaint => j.refuse 1 ("nl: " ++ complaint)
    | .ok style =>
      j.filter "nl" o.operands fun bs => style.lines style.body style.start 0 (plainLines bs)

end Recap.Tool
