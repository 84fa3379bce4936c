import Recap.Programs.Shell.RegexText
import Recap.Programs.Tool.Options

/-!
# Searching lines

The characters of lines and patterns are bytes.

## Contents
- `Search` — what is looked for.
- `Search.finds`, `Search.fits` — whether a line is found, and where.
- `SearchReport` — how lines that are found are written.
- `grep` — writes the lines that are found.
-/

namespace Recap.Tool

open Recap.Shell

/-- What is looked for: any of some patterns. -/
structure Search where
  patterns : List Regex
  /-- The whole line has to fit. -/
  wholeLine : Bool
  /-- What fits has to be a word. -/
  word : Bool
  /-- Lines that do not fit are found. -/
  inverted : Bool
  /-- The first way in which a pattern fits counts, not the longest piece. -/
  firstCounts : Bool

/-- Whether a piece of a line is a word of its own. -/
def isOwnWord (t : Array Char) (start stop : Nat) : Bool :=
  let inWord (i : Nat) : Bool := (t[i]?.map Regex.isWordChar).getD false
  !(start != 0 && inWord (start - 1)) && !inWord stop

/-- The pieces that fit at a position, by their starts and ends. -/
def Search.piecesAt (s : Search) (t : Array Char) (i : Nat) : List (Nat × Nat) :=
  s.patterns.flatMap fun r =>
    if s.firstCounts then (r.firstAt? t i).toList.map fun f => (f.start, f.stop)
    else if r.looksBack then (r.fitAt? t i).toList.map fun f => (f.start, f.stop)
    else
      let ends := r.reach t (1 <<< i)
      ((List.range (t.size + 1)).filter ends.testBit).map fun stop => (i, stop)

/-- The longest piece that fits at a position. -/
def Search.fitAt? (s : Search) (t : Array Char) (i : Nat) : Option (Nat × Nat) :=
  let pieces := (s.piecesAt t i).filter fun (start, stop) =>
    (!s.wholeLine || (start == 0 && stop == t.size)) && (!s.word || isOwnWord t start stop)
  pieces.foldl (fun best p => match best with
    | some b => if b.2 < p.2 then some p else some b
    | none => some p) none

/-- Whether a pattern fits anywhere in a line. -/
def Search.isIn (s : Search) (t : Array Char) : Bool :=
  if s.wholeLine then s.patterns.any (·.fitsAll t)
  else if s.word then (List.range (t.size + 1)).any fun i => (s.fitAt? t i).isSome
  else s.patterns.any (·.isIn t)

/-- Whether a line is found. -/
def Search.finds (s : Search) (line : String) : Bool := s.isIn line.toList.toArray != s.inverted

/-- The pieces of a line that fit and are not empty, from a position on. `fuel` is more than the number of
    characters. -/
def Search.fitsFrom (s : Search) (t : Array Char) : Nat → Nat → List (Nat × Nat)
  | 0, _ => []
  | fuel + 1, i =>
    if t.size ≤ i then []
    else
      match s.fitAt? t i with
      | some (start, stop) =>
        if start < stop then (start, stop) :: s.fitsFrom t fuel stop else s.fitsFrom t fuel (i + 1)
      | none => s.fitsFrom t fuel (i + 1)

/-- The pieces of a line that fit, by their starts and ends. -/
def Search.fits (s : Search) (line : String) : List (Nat × Nat) :=
  if s.inverted then [] else s.fitsFrom line.toList.toArray (line.length + 1) 0

/-! ## Reports -/

/-- A line, its number and the place where it begins. -/
structure SearchLine where
  text : String
  number : Nat
  place : Nat

/-- Lines with their numbers and places. -/
def SearchLine.all : Nat → Nat → List String → List SearchLine
  | _, _, [] => []
  | number, place, text :: more =>
    ⟨text, number, place⟩ :: SearchLine.all (number + 1) (place + text.length + 1) more

/-- How lines that are found are written. -/
structure SearchReport where
  numbers : Bool
  places : Bool
  names : Bool
  onlyPieces : Bool
  /-- What is found is written in colours. -/
  coloured : Bool
  /-- Numbers are written in columns, with a tab behind them. -/
  tabbed : Bool
  before : Nat
  after : Nat
  /-- What stands between lines that are apart, if anything does. -/
  gap : Option String
  /-- No more lines are found than this. -/
  most : Option Nat
  /-- What stands behind a name. -/
  nameEnd : Option String
  ending : String

namespace SearchReport

/-- A text in a colour. -/
def colour (r : SearchReport) (code text : String) : String :=
  if r.coloured then "\x1b[" ++ code ++ "m\x1b[K" ++ text ++ "\x1b[m\x1b[K" else text

/-- What stands before a line. -/
def front (r : SearchReport) (name : String) (number place : Nat) (sign : String) : String :=
  let sign := r.colour "36" sign
  let count (n width : Nat) : String :=
    r.colour "32" (if r.tabbed then padLeft width (Nat.repr n) else Nat.repr n) ++ sign
  (if r.names then r.colour "35" name ++ r.nameEnd.getD sign else "") ++
    (if r.numbers then count number 19 else "") ++ (if r.places then count place 19 else "") ++
    (if r.tabbed && (r.names || r.numbers || r.places) then "\t" else "")

/-- A line with the pieces that fit in colours. -/
def lit (r : SearchReport) (s : Search) (line : String) : String :=
  if !r.coloured then line
  else
    let t := line.toList.toArray
    let (done, last) := (s.fits line).foldl
      (fun (done : String × Nat) (start, stop) =>
        (done.1 ++ String.ofList (Regex.slice t done.2 start) ++
          r.colour "01;31" (String.ofList (Regex.slice t start stop)), stop))
      ("", 0)
    done ++ String.ofList (Regex.slice t last t.size)

/-- The lines that are found. -/
def found (r : SearchReport) (s : Search) (lines : List SearchLine) : List SearchLine :=
  let all := lines.filter fun l => s.finds l.text
  match r.most with
  | some n => all.take n
  | none => all

/-- The pieces of lines that are found. -/
def writePieces (r : SearchReport) (s : Search) (name : String) (found : List SearchLine) : String :=
  String.join (found.map fun l =>
    let t := l.text.toList.toArray
    String.join ((s.fits l.text).map fun (start, stop) =>
      r.front name l.number (l.place + start) ":" ++
        r.colour "01;31" (String.ofList (Regex.slice t start stop)) ++ r.ending))

/-- The lines that are found, with those around them. -/
def write (r : SearchReport) (s : Search) (name : String) (lines found : List SearchLine) : String :=
  if r.onlyPieces then r.writePieces s name found
  else
    let numbers := found.map (·.number)
    let shown := lines.filter fun l =>
      numbers.any fun n => n ≤ l.number + r.before && l.number ≤ n + r.after
    let step (done : String × Option Nat) (l : SearchLine) : String × Option Nat :=
      let gap := match done.2, r.gap with
        | some last, some gap => if last + 1 < l.number then r.colour "36" gap ++ "\n" else ""
        | _, _ => ""
      let isFound := numbers.contains l.number
      let text := if isFound then r.lit s l.text else l.text
      (done.1 ++ gap ++ r.front name l.number l.place (if isFound then ":" else "-") ++ text ++ r.ending,
        some l.number)
    (shown.foldl step ("", none)).1

end SearchReport

/-! ## The program -/

/-- The options of searching. -/
def searchOptions : OptionTable :=
  { program := "grep", plain := "EFGPicvnoqwxshHlLabrRyzZUTI^~<", valued := "efmABCdD%>&*", attached := "@"
    refusal := 2, usage := "Usage: grep [OPTION]... PATTERNS [FILE]...\n"
    names := [("extended-regexp", 'E'), ("fixed-strings", 'F'), ("basic-regexp", 'G'), ("perl-regexp", 'P'),
      ("ignore-case", 'i'), ("no-ignore-case", '^'), ("count", 'c'), ("invert-match", 'v'),
      ("line-number", 'n'), ("only-matching", 'o'), ("quiet", 'q'), ("silent", 'q'), ("word-regexp", 'w'),
      ("line-regexp", 'x'), ("no-messages", 's'), ("no-filename", 'h'), ("with-filename", 'H'),
      ("files-with-matches", 'l'), ("files-without-match", 'L'), ("text", 'a'), ("regexp", 'e'),
      ("file", 'f'), ("max-count", 'm'), ("after-context", 'A'), ("before-context", 'B'), ("context", 'C'),
      ("color", '@'), ("colour", '@'), ("byte-offset", 'b'), ("null-data", 'z'), ("null", 'Z'),
      ("initial-tab", 'T'), ("label", '%'), ("line-buffered", '~'), ("no-group-separator", '<'),
      ("group-separator", '>'), ("binary", 'U'), ("binary-files", '&'), ("directories", 'd'),
      ("devices", 'D'), ("include", '*'), ("exclude", '*'), ("exclude-dir", '*'), ("recursive", 'r')] }

/-- Arguments with a bare number behind a hyphen written as an option. -/
def spellContext (arguments : List String) : List String :=
  arguments.map fun a =>
    match a.toList with
    | '-' :: c :: cs => if (c :: cs).all Char.isDigit then "-C" ++ String.ofList (c :: cs) else a
    | _ => a

/-- How patterns are written here. -/
def searchDialect (extended enlarged ignoreCase : Bool) : Dialect :=
  if enlarged then
    { extended := true, enlarged := true, namesControls := true, ignoreCase, strayRepeat := .refused
      unreadBounds := .literal }
  else if extended then
    { extended := true, ignoreCase, strayRepeat := .skipped, strayBounds := .skipped
      strayClosing := .literal, unreadBounds := .literal }
  else { extended := false, ignoreCase }

/-- What is said about a flaw of a pattern. -/
def searchFlaw (enlarged : Bool) (flaw : Regex.Flaw) : String :=
  if enlarged then
    match flaw with
    | .openParenthesis => "missing closing parenthesis"
    | .closingParenthesis => "unmatched closing parenthesis"
    | .openBracket | .noPattern => "missing terminating ] for character class"
    | .nothingToRepeat => "quantifier does not follow a repeatable item"
    | .badRange => "range out of order in character class"
    | .badBounds => "numbers out of order in \x7b\x7d quantifier"
    | .noSuchClass => "unknown POSIX class name"
    | .noSuchGroup => "reference to non-existent subpattern"
    | flaw => flaw.message
  else flaw.message

/-- A pattern without the sign at its beginning that says not to tell small letters from capital ones, and
    whether it was there. -/
def withoutCaseSign (text : String) : Bool × String :=
  if text.startsWith "(?i)" then (true, String.ofList (text.toList.drop 4)) else (false, text)

/-- The signs that repeat nothing where a pattern begins. -/
def strayStarts (extended : Bool) : Bool → List Char → List String
  | _, [] => []
  | starts, '\\' :: _ :: cs => strayStarts extended (starts && false) cs
  | starts, c :: cs =>
    let more := strayStarts extended (c == '(' || c == '|' || (c == '^' && starts)) cs
    if extended && starts && "*+?".toList.contains c then c.toString :: more
    else if extended && starts && c == '\x7b' && (cs.head?.map Char.isDigit).getD false then "\x7b...\x7d" :: more
    else more

/-- What the options look for, and what is to be said about it. -/
def readSearch (o : Options) (extended fixed : Bool) (texts : List String) :
    Except String (Search × String) := do
  let styles := (o.given.map (·.1)).filter "EFGP".toList.contains
  if 1 < styles.eraseDups.length then throw "conflicting matchers specified"
  let style := styles.head?
  let fixed := style == some 'F' || (style.isNone && fixed)
  let extended := style == some 'E' || (style.isNone && extended)
  let enlarged := style == some 'P'
  let ignoreCase := (o.has 'i' || o.has 'y') && !o.has '^'
  let texts := texts.flatMap (·.splitOn "\n")
  let read (text : String) : Except String Regex :=
    if fixed then .ok (Regex.ofLiteral ignoreCase text)
    else
      let (signed, text) := if enlarged then withoutCaseSign text else (false, text)
      if !enlarged && Regex.misplacesClass none text.toList then .error Regex.misplacedClass
      else
        (Regex.ofText (searchDialect extended enlarged (ignoreCase || signed)) text).mapError (searchFlaw enlarged)
  let patterns ← texts.mapM read
  let strays := if fixed || enlarged then []
    else (texts.flatMap fun text => strayStarts extended true text.toList).eraseDups
  let warnings := strays.map fun s => "grep: warning: " ++ s ++ " at start of expression\n"
  return ({ patterns, wholeLine := o.has 'x', word := o.has 'w', inverted := o.has 'v'
            firstCounts := enlarged }, String.join warnings)

/-- How the options ask for lines to be written. -/
def readReport (o : Options) (files : List String) : Except String SearchReport := do
  let around (c : Char) : Except String (Option Nat) :=
    match o.given.filter (fun e => e.1 == c || e.1 == 'C') |>.getLast? with
    | none => .ok none
    | some (_, text) =>
      match natOf? text with
      | some n => .ok (some n)
      | none => .error (text ++ ": invalid context length argument")
  let most ← match o.value? 'm' with
    | none => pure none
    | some text =>
      match intOf? text with
      | some n => pure (if n < 0 then none else some n.toNat)
      | none => throw "invalid max count"
  let before ← around 'B'
  let after ← around 'A'
  let gap := if (before.or after).isNone || o.has '<' then none else some ((o.value? '>').getD "--")
  return { numbers := o.has 'n', places := o.has 'b', onlyPieces := o.has 'o', tabbed := o.has 'T'
           before := before.getD 0, after := after.getD 0, gap, most
           coloured := (o.value? '@').any ["always", "yes", "force"].contains
           names := (files.length > 1 && !o.has 'h') || o.has 'H'
           nameEnd := if o.has 'Z' then some "\x00" else none
           ending := if o.has 'z' then "\x00" else "\n" }

/-- The lines of one thing that is read, as they are reported; also whether any was found. -/
def searchSource (o : Options) (s : Search) (r : SearchReport) (source : Source) : String × Bool :=
  let bytes := source.bytes
  let ending := if o.has 'z' then 0 else newline
  let texts := (keptPieces ending bytes).map fun l => Text.ofBytes (l.filter (· != ending))
  let lines := SearchLine.all 1 0 texts
  let found := r.found s lines
  let name := Text.spread (if source.name == "-" then (o.value? '%').getD "(standard input)" else source.name)
  let named := r.colour "35" name ++ r.nameEnd.getD "\n"
  let isBinary := bytes.contains 0 && !o.has 'a' && !o.has 'z' && o.value? '&' != some "text"
  let text :=
    if o.has 'q' then ""
    else if o.has 'l' then if found.isEmpty then "" else named
    else if o.has 'L' then if found.isEmpty then named else ""
    else if o.has 'c' then
      (if r.names then r.colour "35" name ++ r.nameEnd.getD (r.colour "36" ":") else "") ++
        Nat.repr found.length ++ "\n"
    else if isBinary then ""
    else r.write s name lines found
  (text, !found.isEmpty)

/-- Writes the lines that are found; its status says whether there are any. -/
def grepAs (extended fixed : Bool) : Program := fun j =>
  withOptions searchOptions
    (fun o j => do
      let given := (o.values 'e').map Text.spread
      let mut fromFiles := []
      for file in o.values 'f' do
        match ← j.read file with
        | .ok bytes => fromFiles := fromFiles ++ (plainLines bytes).map Text.ofBytes
        | .error fault => return .failed 2 ("grep: " ++ file ++ ": " ++ fault.phrase ++ "\n") j.input
      let named := !given.isEmpty || o.has 'f'
      match if named then some (given ++ fromFiles, o.operands)
        else o.operands.head?.map fun text => ([Text.spread text], o.operands.drop 1) with
      | none =>
        return .failed 2 (searchOptions.usage ++ "Try 'grep --help' for more information.\n") j.input
      | some (texts, files) =>
        match readReport o files, readSearch o extended fixed texts with
        | .error message, _ | _, .error message => return .failed 2 ("grep: " ++ message ++ "\n") j.input
        | .ok r, .ok (s, warnings) =>
          let g ← j.gatherWith (fun name fault => "grep: " ++ name ++ ": " ++ fault.phrase) files
          let results := g.sources.map (searchSource o s r)
          let any := results.any (·.2)
          let code := if !g.err.isEmpty && !(o.has 'q' && any) then 2 else if any then 0 else 1
          return { out := Text.toBytes (String.join (results.map (·.1)))
                   err := Text.bytes warnings ++ (if o.has 's' then [] else g.err)
                   status := .exited code, rest := g.rest })
    { j with arguments := spellContext j.arguments }

/-- Writes the lines that are found. -/
def grep : Program := grepAs false false

end Recap.Tool
