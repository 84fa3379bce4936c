import Recap.Programs.Tool.Edit.Script

/-!
# Editing lines

Lines are read one after the other; all steps of a script are applied to each, and what has become of it
is written.

## Contents
- `Line`, `Editing` — the line that is edited, and what is known while it is.
- `selects` — whether a step is for the line.
- `substitute` — replaces a pattern.
- `runSteps`, `runCycles` — applies steps to lines.
- `sed` — the program that edits.
-/

namespace Recap.Tool.Edit

open Recap.Shell

/-- A line, and whether a newline ends it. -/
structure Line where
  text : String
  ends : Bool

/-- What is known while lines are edited. -/
structure Editing where
  line : Line
  held : Line
  number : Nat
  /-- Lines that are still to come. -/
  coming : List Line
  /-- What was written, the last first. -/
  out : List String
  /-- Whether the last line that was written lacks its newline. -/
  owesNewline : Bool
  /-- What is written when the line is done. -/
  queue : List String
  /-- Ranges that have begun, by the number of their step; where a line number is known, they end
      there. -/
  ranges : List (Nat × Option Nat)
  /-- Ranges that have been looked at. -/
  begun : List Nat
  replaced : Bool
  lastPattern : Option Regex
  /-- What is written to files. -/
  files : List (String × String)
  /-- What is left of files that are read line by line. -/
  sources : List (String × List String)
  name : String
  /-- What ends lines. -/
  ending : String

namespace Editing

/-- Whether no line is to come. -/
def isLast (e : Editing) : Bool := e.coming.isEmpty

/-- Writes a text, after the newline that a line before it lacks. -/
def write (e : Editing) (text : String) (ends : Bool) : Editing :=
  { e with out := (if ends then e.ending else "") :: text :: (if e.owesNewline then e.ending else "") :: e.out
           owesNewline := !ends }

/-- Writes a text that ends its lines itself. -/
def writeLines (e : Editing) (text : String) : Editing :=
  { e with out := text :: (if e.owesNewline then e.ending else "") :: e.out, owesNewline := false }

/-- Writes the line. -/
def print (e : Editing) : Editing := e.write e.line.text e.line.ends

/-- Writes what was kept for when the line is done. -/
def flush (e : Editing) : Editing := { e.queue.foldl writeLines e with queue := [] }

/-- Writes to a file. -/
def writeTo (e : Editing) (name text : String) : Editing :=
  if name == "/dev/stdout" then { e with out := text :: e.out }
  else { e with files := e.files ++ [(name, text)] }

/-- Goes on to the next line. -/
def advance (e : Editing) : Editing :=
  match e.coming with
  | [] => e
  | line :: coming => { e with line, coming, number := e.number + 1 }

end Editing

/-! ## Selecting lines -/

/-- Whether an address is the line; also the pattern that was used. -/
def Address.isAt (a : Address) (e : Editing) : Bool × Editing :=
  match a with
  | .line n => (e.number == n, e)
  | .last => (e.isLast, e)
  | .every first step =>
    (if step == 0 then e.number == first else first ≤ e.number && (e.number - first) % step == 0, e)
  | .fits r =>
    let r := r.or e.lastPattern
    ((r.map fun r => r.isIn e.line.text.toList.toArray).getD false, { e with lastPattern := r })

/-- Begins a range at the line. -/
def beginRange (index : Nat) (x : Extent) (e : Editing) : Editing :=
  let last (n : Nat) : Editing :=
    if e.number < n then { e with ranges := (index, some n) :: e.ranges } else e
  match x with
  | .upTo (.line n) => last n
  | .upTo .last => if e.isLast then e else { e with ranges := (index, none) :: e.ranges }
  | .upTo _ => { e with ranges := (index, none) :: e.ranges }
  | .lines count => last (e.number + count)
  | .multiple n => if n == 0 then e else last ((e.number / n + 1) * n)

/-- Ends a range. -/
def endRange (index : Nat) (e : Editing) : Editing :=
  { e with ranges := e.ranges.filter (·.1 != index) }

/-- Whether a range that has begun holds the line, which may end it. -/
def goesOn (index : Nat) (x : Extent) (known : Option Nat) (e : Editing) : Bool × Editing :=
  match known, x with
  | some n, _ => (e.number ≤ n, if e.number < n then e else endRange index e)
  | none, .upTo a =>
    let (isEnd, e) := a.isAt e
    (true, if isEnd then endRange index e else e)
  | none, _ => (true, e)

/-- Whether a step is for the line. -/
def selects (index : Nat) (s : Selector) (e : Editing) : Bool × Editing :=
  let (yes, e) := match s.first, s.extent with
    | none, _ => (true, e)
    | some a, none => a.isAt e
    | some a, some x =>
      let zero := match a with
        | .line 0 => !e.begun.contains index
        | _ => false
      let e := if zero then { e with ranges := (index, none) :: e.ranges, begun := index :: e.begun } else e
      match e.ranges.lookup index with
      | some known =>
        match goesOn index x known e with
        | (true, e) => (true, e)
        | (false, e) =>
          let (yes, e) := a.isAt e
          (yes, if yes then beginRange index x e else e)
      | none =>
        let (yes, e) := a.isAt e
        (yes, if yes then beginRange index x e else e)
  (yes != s.negated, e)

/-! ## Replacing -/

/-- How letters are written: all that follow, and the next one. -/
structure Casing where
  all : Option Bool
  next : Option Bool

/-- A character in capital or small letters. -/
def cased (upper : Option Bool) (c : Char) : Char :=
  match upper with
  | some true => c.toUpper
  | some false => c.toLower
  | none => c

/-- Characters as they are to be written. -/
def Casing.apply (k : Casing) : List Char → List Char × Casing
  | [] => ([], k)
  | c :: cs => (cased (k.next.or k.all) c :: cs.map (cased k.all), { k with next := none })

/-- What takes the place of a piece that fits. -/
def replacement (pieces : List Piece) (t : Array Char) (fit : Regex.Fit) : List Char :=
  let step (done : List Char × Casing) (p : Piece) : List Char × Casing :=
    let add (cs : List Char) : List Char × Casing :=
      let (cs, k) := done.2.apply cs
      (done.1 ++ cs, k)
    match p with
    | .text s => add s.toList
    | .group 0 => add (Regex.slice t fit.start fit.stop)
    | .group n =>
      match fit.groups.lookup n with
      | some (start, stop) => add (Regex.slice t start stop)
      | none => done
    | .letters 'U' => (done.1, { done.2 with all := some true })
    | .letters 'L' => (done.1, { done.2 with all := some false })
    | .letters 'u' => (done.1, { done.2 with next := some true })
    | .letters 'l' => (done.1, { done.2 with next := some false })
    | .letters _ => (done.1, { all := none, next := none })
  (pieces.foldl step ([], { all := none, next := none })).1

/-- Replaces a pattern in the line. -/
def substitute (s : Substitution) (e : Editing) : Editing :=
  let r := s.pattern.or e.lastPattern
  let e := { e with lastPattern := r }
  let t := e.line.text.toList.toArray
  let fits := ((r.map fun r => r.fits t).getD []).drop (s.nth - 1)
  let chosen := if s.all then fits else fits.take 1
  if chosen.isEmpty then e
  else
    let (done, last) := chosen.foldl
      (fun (done : List Char × Nat) f =>
        (done.1 ++ Regex.slice t done.2 f.start ++ replacement s.pieces t f, f.stop))
      ([], 0)
    let text := String.ofList (done ++ Regex.slice t last t.size)
    let e := { e with line := { e.line with text }, replaced := true }
    let e := if s.prints then e.print else e
    match s.file with
    | some name => e.writeTo name (text ++ (if e.line.ends then "\n" else ""))
    | none => e

/-! ## Steps -/

/-- A byte in visible signs. -/
def shownByte (b : UInt8) : String :=
  match b.toNat with
  | 7 => "\\a"
  | 8 => "\\b"
  | 9 => "\\t"
  | 10 => "\\n"
  | 11 => "\\v"
  | 12 => "\\f"
  | 13 => "\\r"
  | 92 => "\\\\"
  | n =>
    if 32 ≤ n && n < 127 then (Char.ofNat n).toString
    else "\\" ++ Nat.repr (n / 64) ++ Nat.repr (n / 8 % 8) ++ Nat.repr (n % 8)

/-- A line in visible signs, on lines that are no longer than a width; with a width of at most one, on one
    line. -/
def shownLine (width : Nat) (text : String) : String :=
  let (done, last) := ((Text.toBytes text).map shownByte).foldl
    (fun (done : String × String) s =>
      if 1 < width && width ≤ done.2.length + s.length then (done.1 ++ done.2 ++ "\\\n", s)
      else (done.1, done.2 ++ s))
    ("", "")
  done ++ last ++ "$\n"

/-- The part of a text before its first newline, and what is behind it. -/
def splitFirst (text : String) : String × Option String :=
  let first := text.toList.takeWhile (· != '\n')
  match text.toList.drop first.length with
  | [] => (text, none)
  | _ :: rest => (String.ofList first, some (String.ofList rest))

/-- How the steps for a line ended. -/
inductive Outcome where
  /-- The line is done. -/
  | done (prints : Bool)
  /-- The steps start again with what is left of the line. -/
  | again
  | quit (code : Nat) (prints : Bool)

/-- What a script is run with. -/
structure Setting where
  steps : Array Step
  quiet : Bool
  /-- What is in the files that steps read. -/
  contents : List (String × String)
  /-- The length of lines in visible signs. -/
  width : Nat
  /-- What ends lines. -/
  ending : UInt8

/-- Where a label is. -/
def Setting.labelAt (s : Setting) (name : String) : Nat :=
  (s.steps.toList.findIdx? fun step => match step.edit with
    | .label n => n == name
    | _ => false).getD s.steps.size

/-- Applies a command that goes on with the next step. -/
def applyPlain (s : Setting) (edit : Action) (e : Editing) : Editing :=
  match edit with
  | .print => e.print
  | .printFirst => e.write (splitFirst e.line.text).1 true
  | .number => e.writeLines (Nat.repr e.number ++ "\n")
  | .list width => e.writeLines (shownLine (width.getD s.width) e.line.text)
  | .fileName => e.writeLines (e.name ++ "\n")
  | .append text => { e with queue := e.queue ++ [text] }
  | .insert text => e.writeLines text
  | .exchange pairs =>
    let text := String.ofList (e.line.text.toList.map fun c => (pairs.lookup c).getD c)
    { e with line := { e.line with text } }
  | .hold => { e with held := e.line }
  | .holdMore => { e with held := ⟨e.held.text ++ "\n" ++ e.line.text, e.line.ends⟩ }
  | .get => { e with line := e.held }
  | .getMore => { e with line := ⟨e.line.text ++ "\n" ++ e.held.text, e.held.ends⟩ }
  | .swap => { e with line := e.held, held := e.line }
  | .empty => { e with line := { e.line with text := "" } }
  | .substitute sub => substitute sub e
  | .readFile name =>
    { e with queue := e.queue ++ [(s.contents.lookup name).getD ""] }
  | .readLine name =>
    match e.sources.lookup name with
    | some (line :: lines) =>
      { e with queue := e.queue ++ [line ++ e.ending]
               sources := (name, lines) :: e.sources.filter (·.1 != name) }
    | _ => e
  | .writeFile name => e.writeTo name (e.line.text ++ (if e.line.ends then "\n" else ""))
  | .writeFirst name => e.writeTo name ((splitFirst e.line.text).1 ++ "\n")
  | _ => e

/-- Applies steps to the line from one on. `fuel` bounds their number. -/
def runSteps (s : Setting) : Nat → Nat → Editing → Outcome × Editing
  | 0, _, e => (.quit 4 false, e)
  | fuel + 1, index, e =>
    match s.steps[index]? with
    | none => (.done true, e)
    | some step =>
      let (yes, e) := selects index step.selector e
      if !yes then
        match step.edit with
        | .block size => runSteps s fuel (index + size + 1) e
        | _ => runSteps s fuel (index + 1) e
      else
        match step.edit with
        | .delete => (.done false, e)
        | .deleteFirst =>
          match splitFirst e.line.text with
          | (_, none) => (.done false, e)
          | (_, some rest) => (.again, { e with line := { e.line with text := rest } })
        | .quit code prints => (.quit code prints, e)
        | .change text =>
          let inRange := (e.ranges.lookup index).isSome && !step.selector.negated
          (.done false, if inRange then e else e.writeLines text)
        | .next =>
          if e.isLast then (.quit 0 true, e)
          else
            let e := if s.quiet then e else e.print
            runSteps s fuel (index + 1) e.flush.advance
        | .join =>
          if e.isLast then (.quit 0 true, e)
          else
            let before := e.line.text
            let e := e.flush.advance
            runSteps s fuel (index + 1) { e with line := { e.line with text := before ++ "\n" ++ e.line.text } }
        | .jump label condition =>
          let jumps := match condition with
            | none => true
            | some wanted => e.replaced == wanted
          let e := if condition.isSome then { e with replaced := false } else e
          let target := if label.isEmpty then s.steps.size else s.labelAt label
          runSteps s fuel (if jumps then target else index + 1) e
        | edit => runSteps s fuel (index + 1) (applyPlain s edit e)

/-- How many steps can be applied to a line. -/
def stepLimit : Nat := 1000000

/-- Applies steps to line after line; also the status. `fuel` is more than the number of characters. -/
def runCycles (s : Setting) : Nat → Bool → Editing → Nat × Editing
  | 0, _, e => (0, e)
  | fuel + 1, keeps, e =>
    if e.isLast && !keeps then (0, e)
    else
      let e := if keeps then e else { e.advance with replaced := false }
      let finish (prints : Bool) (e : Editing) : Editing :=
        (if prints && !s.quiet then e.print else e).flush
      match runSteps s stepLimit 0 e with
      | (.done prints, e) => runCycles s fuel false (finish prints e)
      | (.again, e) => runCycles s fuel true e.flush
      | (.quit code prints, e) => (code, finish prints e)

/-! ## The program -/

/-- The lines of what was read. -/
def linesOf (ending : UInt8) (bs : Bytes) : List Line :=
  (keptPieces ending bs).map fun l => ⟨Text.ofBytes (l.filter (· != ending)), l.contains ending⟩

/-- Nothing has been read yet. -/
def Editing.start (s : Setting) (name : String) (lines : List Line) : Editing :=
  { line := ⟨"", true⟩, held := ⟨"", true⟩, number := 0, coming := lines, out := [], owesNewline := false
    queue := [], ranges := [], begun := [], replaced := false, lastPattern := none, files := [], name
    sources := s.contents.map fun (file, text) => (file, (plainLines (Text.toBytes text)).map Text.ofBytes)
    ending := Text.ofBytes [s.ending] }

/-- Edits lines: what is written, what is written to files, and the status. -/
def editLines (s : Setting) (name : String) (lines : List Line) : String × List (String × String) × Nat :=
  let size := lines.foldl (fun n l => n + l.text.length + 1) 1
  let (code, e) := runCycles s (size + 1) false (.start s name lines)
  (String.join e.out.reverse, e.files, code)

/-- The files that steps name. -/
def namedFiles (steps : List Step) : List String × List String :=
  (steps.filterMap fun s => match s.edit with
      | .readFile name | .readLine name => some name
      | _ => none,
    steps.filterMap fun s => match s.edit with
      | .writeFile name | .writeFirst name => some name
      | .substitute sub => sub.file
      | _ => none)

/-- The options of editing. -/
def editOptions : OptionTable :=
  { program := "sed", plain := "nErsuzpSb", valued := "efl", attached := "i"
    names := [("quiet", 'n'), ("silent", 'n'), ("expression", 'e'), ("file", 'f'),
      ("regexp-extended", 'E'), ("separate", 's'), ("unbuffered", 'u'), ("null-data", 'z'),
      ("in-place", 'i'), ("line-length", 'l'), ("posix", 'p'), ("sandbox", 'S'), ("binary", 'b')] }

/-- The first line of what is said about how the program is used. -/
def usage : String := "Usage: sed [OPTION]... \x7bscript-only-if-no-other-script\x7d [input-file]...\n"

/-- The name that a file is kept under when another takes its place; `none` if it is not kept. -/
def keptName? (name suffix : String) : Option String :=
  if suffix.isEmpty then none
  else if suffix.toList.contains '*' then some (suffix.replace "*" name)
  else some (name ++ suffix)

/-- Runs a script on files, each for itself where its own result takes its place. -/
def runOnFiles (j : Job) (s : Setting) (inPlace : Option String) (separate : Bool) (files : List String) :
    Running Output := do
  let g ← j.gatherWith
    (fun name fault =>
      (if fault == .isDirectory then "sed: read error on " else "sed: can't read ") ++ name ++ ": " ++ fault.phrase)
    files
  if lacksPattern s.steps.toList && !g.bytes.isEmpty then
    return .failed 1 "sed: -e expression #1, char 0: no previous regular expression\n" g.rest
  let badly := if g.err.isEmpty then 0 else 2
  let mut out := []
  let mut written := []
  let mut code := 0
  if inPlace.isSome || separate then
    for source in g.sources do
      let (text, files, c) := editLines s source.name (linesOf s.ending source.bytes)
      written := written ++ files
      code := if code == 0 then c else code
      match inPlace with
      | some suffix =>
        if let some kept := keptName? source.name suffix then
          let _ ← (Call.writeBytes (j.path kept) source.bytes false).ask
        let _ ← (Call.writeBytes (j.path source.name) (Text.toBytes text) false).ask
      | none => out := out ++ Text.toBytes text
  else
    let (text, files, c) := editLines s "-" (linesOf s.ending g.bytes)
    out := Text.toBytes text
    written := files
    code := c
  let mut err := g.err
  for name in (namedFiles s.steps.toList).2.eraseDups do
    let bytes := Text.toBytes (String.join ((written.filter (·.1 == name)).map (·.2)))
    if name == "/dev/stderr" then err := err ++ bytes
    else if name != "/dev/stdout" then
      let _ ← (Call.writeBytes (j.path (Text.gathered name)) bytes false).ask
  return { out, err, status := .exited (if code != 0 then code else badly), rest := g.rest }

end Recap.Tool.Edit

namespace Recap.Tool

open Recap.Shell

/-- Edits lines by a script. -/
def sed : Program := withOptions Edit.editOptions fun o j => do
  let mut scripts := []
  for (letter, value) in o.given do
    if letter == 'e' then scripts := scripts ++ [Text.spread value]
    else if letter == 'f' then
      match ← j.read value with
      | .ok bytes => scripts := scripts ++ [Text.ofBytes (if bytes.getLast? == some newline then bytes.dropLast else bytes)]
      | .error fault =>
        return .failed 1 ("sed: couldn't open file " ++ value ++ ": " ++ fault.phrase ++ "\n") j.input
  let (parts, files) := if o.has 'e' || o.has 'f' then (scripts, o.operands)
    else ((o.operands.take 1).map Text.spread, o.operands.drop 1)
  if parts.isEmpty then return .failed 1 Edit.usage j.input
  match Edit.readScript (o.has 'E' || o.has 'r') parts with
  | .error (code, message) => return .failed code ("sed: " ++ Text.gathered message ++ "\n") j.input
  | .ok steps =>
    let mut contents := []
    for name in (Edit.namedFiles steps).1 do
      match ← j.read (Text.gathered name) with
      | .ok bytes => contents := contents ++ [(name, Text.ofBytes bytes)]
      | .error _ => pure ()
    let quiet := o.has 'n' || (parts.head?.map fun p => p == "#n" || p.startsWith "#n\n").getD false
    let width := ((o.value? 'l').bind natOf?).getD 70
    Edit.runOnFiles j
      { steps := steps.toArray, quiet, contents, width, ending := if o.has 'z' then 0 else newline }
      (o.value? 'i') (o.has 's') files

end Recap.Tool
