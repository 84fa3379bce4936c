import Recap.Programs.Shell.Session
import Recap.Programs.Tool.Start

/-!
# Programs started with the words of the input

A program is started again and again, each time with some of the words that are read. Words are divided by
blanks, and quotes and backslashes keep blanks in them; or they are divided by a character.

## Contents
- `Piece`, `Reading` — what is read.
- `Dealing`, `Hand` — the words that the program is started with each time.
- `xargs` — starts it.
-/

namespace Recap.Tool

open Recap.Shell
open Machine (Fault)

/-! ## Reading -/

/-- Something that is read, and whether it ends a line. -/
structure Piece where
  word : String
  endsLine : Bool

/-- What is read: pieces, and the quote that is not closed behind them. -/
structure Reading where
  pieces : List Piece
  open? : Option Char := none
  /-- Whether there are zero bytes in what was read. -/
  hasZero : Bool := false

/-- What has been read of a list of words. -/
structure WordReader where
  /-- Whether blanks divide words; otherwise lines are words. -/
  byBlanks : Bool
  /-- The word that ends the list. -/
  last? : Option String
  /-- Pieces that have been read, the last first. -/
  pieces : List Piece := []
  /-- The characters of the word that is being read, the last first. -/
  word : List Char := []
  /-- Whether blanks before a word are skipped. -/
  skipping : Bool := true
  /-- Whether the word has begun. -/
  begun : Bool := false
  /-- The quote that is open. -/
  quote? : Option Char := none
  escaped : Bool := false
  /-- The character before. -/
  before : Char := 'x'
  /-- Whether nothing more is read. -/
  closed : Bool := false

namespace WordReader

/-- The word that is being read. -/
def current (r : WordReader) : String := String.ofList (r.word.reverse.takeWhile (· != '\x00'))

/-- Ends a word. -/
def endWord (r : WordReader) (endsLine : Bool) : WordReader :=
  if r.last? == some r.current then { r with closed := true }
  else { r with pieces := ⟨r.current, endsLine⟩ :: r.pieces, word := [], skipping := true, begun := false }

/-- Reads a character that is not between quotes. -/
def readBare (r : WordReader) (c : Char) : WordReader :=
  let isBlank (c : Char) : Bool := c == ' ' || c == '\t'
  if r.skipping && (isBlank c || ('\n' ≤ c && c ≤ '\r')) then r
  else
    let r := { r with skipping := false }
    if c == '\n' then
      if r.begun then r.endWord (!isBlank r.before) else { r with skipping := true }
    else
      let r := { r with begun := true }
      if r.byBlanks && isBlank c then r.endWord false
      else if c == '\\' then { r with escaped := true }
      else if c == '\'' || c == '"' then { r with quote? := some c }
      else { r with word := c :: r.word }

/-- Reads a character. A line cannot end between quotes. -/
def read (r : WordReader) (c : Char) : WordReader :=
  if r.closed then r
  else
    let next : WordReader :=
      if r.escaped then { r with escaped := false, word := c :: r.word }
      else
        match r.quote? with
        | some q =>
          if c == '\n' then { r with closed := true }
          else if c == q then { r with quote? := none }
          else { r with word := c :: r.word }
        | none => r.readBare c
    { next with before := c }

/-- What has been read in the end. -/
def finish (r : WordReader) : Reading :=
  let r := if r.closed || r.word.isEmpty || r.quote?.isSome then r else r.endWord false
  { pieces := r.pieces.reverse, open? := r.quote? }

end WordReader

/-- Reads words with quotes in them. -/
def readWords (byBlanks : Bool) (last? : Option String) (text : String) : Reading :=
  { (text.toList.foldl WordReader.read { byBlanks, last? }).finish with hasZero := text.contains '\x00' }

/-- Reads words with a byte behind each of them. -/
def readDivided (divider : UInt8) (input : Bytes) : Reading :=
  { pieces := (keptPieces divider input).map fun p =>
      ⟨Text.decode ((if p.getLast? == some divider then p.dropLast else p).takeWhile (· != 0)), true⟩ }

/-! ## Dealing -/

/-- How words are dealt. -/
structure Dealing where
  /-- The most words each time. -/
  words? : Option Nat := none
  /-- The most lines each time. -/
  lines? : Option Nat := none
  /-- What a word takes the place of. -/
  place? : Option String := none
  /-- The most bytes of a command, with one more for each of its words. -/
  room : Nat := 131072
  /-- Whether words that do not fit are the end. -/
  strict : Bool := false

/-- A text with another in the place of each of its pieces that is equal to one. -/
def replacePiece (piece by' text : String) : String := by'.intercalate (text.splitOn piece)

/-- The words that have been dealt. -/
structure Hand where
  /-- Commands, the last first. -/
  dealt : List (List String) := []
  /-- The words of the next one, the last first. -/
  held : List String := []
  /-- The lines that they were on. -/
  lines : Nat := 0
  /-- Why nothing more can be dealt. -/
  flaw? : Option String := none

/-- The room that words take. -/
def roomOf (words : List String) : Nat := (words.map fun w => w.utf8ByteSize + 1).foldl (· + ·) 0

/-- Deals the words that are held. -/
def Hand.deal (h : Hand) (command : List String) : Hand :=
  { h with dealt := (command ++ h.held.reverse) :: h.dealt, held := [], lines := 0 }

/-- Adds a word to those that are held. -/
def Hand.add (d : Dealing) (command : List String) (h : Hand) (p : Piece) : Hand :=
  if h.flaw?.isSome then h
  else
    let fits (h : Hand) : Bool := roomOf (command ++ p.word :: h.held) ≤ d.room
    if !fits h && d.strict && (d.words?.isSome || d.lines?.isSome) && !h.held.isEmpty then
      { h with flaw? := some "argument list too long" }
    else
      let h := if fits h || h.held.isEmpty then h else h.deal command
      if d.room < roomOf command then { h with flaw? := some "cannot fit single argument within argument list size limit" }
      else if !fits h then { h with flaw? := some "argument line too long" }
      else
        let h := { h with held := p.word :: h.held, lines := h.lines + if p.endsLine then 1 else 0 }
        let isFull := d.words? == some h.held.length || (d.lines? == some h.lines && p.endsLine)
        if isFull then h.deal command else h

/-- The commands that come of what is read, and the complaint behind them. The name of a program is never
    replaced. -/
def Dealing.commands (d : Dealing) (always : Bool) (command : List String) (r : Reading) :
    List (List String) × Option String :=
  let unclosed := r.open?.map fun q => "unmatched " ++ (if q == '"' then "double" else "single") ++
    " quote; by default quotes are special to xargs unless you use the -0 option"
  match d.place? with
  | some place =>
    (r.pieces.map fun p => command.take 1 ++ (command.drop 1).map (replacePiece place p.word), unclosed)
  | none =>
    let h := r.pieces.foldl (Hand.add d command) {}
    let isLeft := !h.held.isEmpty && h.flaw?.isNone && !(r.open?.isSome && d.strict)
    let isFirst := h.dealt.isEmpty && h.flaw?.isNone && r.open?.isNone && always
    let h := if isLeft || isFirst then h.deal command else h
    (h.dealt.reverse, h.flaw?.or unclosed)

/-! ## Options -/

/-- A number that an option is given. -/
def countOf (option : Char) (text : String) : Except String Nat :=
  match intOf? (String.ofList (text.toList.dropWhile Char.isWhitespace)) with
  | none => .error (hinted "xargs" ("invalid number \"" ++ text ++ "\" for -" ++ option.toString ++ " option"))
  | some n =>
    if n < 1 then
      .error (hinted "xargs" ("value " ++ text ++ " for -" ++ option.toString ++ " option should be >= 1"))
    else .ok n.toNat

/-- The byte that an option names. -/
def dividerOf (text : String) : Except String UInt8 :=
  let number (base : Nat) (digits : String) (limit : String) : Except String UInt8 :=
    let valid := digits.toList.takeWhile fun c =>
      if base == 16 then c.isDigit || "abcdefABCDEF".toList.contains c else '0' ≤ c && c < '8'
    let digit (c : Char) : Nat := if c.isDigit then c.toNat - 48 else c.toLower.toNat - 87
    let n := valid.foldl (fun n c => n * base + digit c) 0
    let bad (why : String) : Except String UInt8 :=
      .error ("xargs: Invalid escape sequence " ++ text ++ " in input delimiter specification; " ++ why ++ ".")
    if 255 < n then bad ("character values must not exceed " ++ limit)
    else if valid.length < digits.length then
      bad ("trailing characters " ++ String.ofList (digits.toList.drop valid.length) ++ " not recognised")
    else .ok (UInt8.ofNat n)
  match Text.bytes text with
  | [b] => .ok b
  | bs =>
    match text.toList with
    | ['\\', c] =>
      match "abfnrtv\\".toList.findIdx? (· == c) with
      | some i => .ok ([7, 8, 12, 10, 13, 9, 11, 92].getD i 0)
      | none =>
        if c == 'x' then .ok 0
        else if '0' ≤ c && c < '8' then number 8 c.toString "377"
        else .error ("xargs: Invalid escape sequence " ++ text ++ " in input delimiter specification.")
    | '\\' :: 'x' :: digits => number 16 (String.ofList digits) "ff"
    | '\\' :: c :: digits =>
      if '0' ≤ c && c < '8' then number 8 (String.ofList (c :: digits)) "377"
      else .error ("xargs: Invalid escape sequence " ++ text ++ " in input delimiter specification.")
    | _ => if bs.isEmpty || bs.length ≠ 1 then
        .error ("xargs: Invalid input delimiter specification " ++ text ++
          ": the delimiter must be either a single character or an escape sequence starting with \\.")
      else .ok 0

/-- How words are dealt after one more option. Of the ways to divide words, the last one counts. -/
def Dealing.take (d : Dealing) (option : Char × String) : Except String Dealing := do
  match option.1 with
  | 'I' => return { d with place? := some option.2, words? := none, lines? := none }
  | 'i' =>
    return { d with place? := some (if option.2.isEmpty then "\x7b\x7d" else option.2), words? := none, lines? := none }
  | 'L' => return { d with lines? := some (← countOf 'L' option.2), words? := none, place? := none }
  | 'l' =>
    let n ← if option.2.isEmpty then pure 1 else countOf 'l' option.2
    return { d with lines? := some n, words? := none, place? := none }
  | 'n' =>
    let n ← countOf 'n' option.2
    if n == 1 && d.place?.isSome then return { d with lines? := none, words? := none }
    else return { d with words? := some n, lines? := none, place? := none }
  | 's' => return { d with room := min 131072 (← countOf 's' option.2) }
  | 'P' =>
    if option.2 != "0" then let _ ← countOf 'P' option.2
    return d
  | 'x' => return { d with strict := true }
  | 'd' =>
    let _ ← dividerOf option.2
    return d
  | _ => return d

/-! ## Starting -/

/-- What has come of the commands. -/
structure Rounds where
  out : List Bytes := []
  err : List Bytes := []
  code : Nat := 0
  slept : Nat := 0
  /-- Whether no more commands are started. -/
  stopped : Bool := false
  /-- What is left of the input, if the commands read it. -/
  input : Bytes

/-- Starts one command. -/
def Rounds.run (programs : Programs) (j : Job) (shown : Bool) (r : Rounds) (command : List String) :
    Running Rounds := do
  if r.stopped then return r
  else
    let name := command.headD ""
    let trace := if shown then Text.bytes (" ".intercalate (command.map Text.forShell) ++ "\n") else []
    match ← programs.launch (some "sh") name { j with arguments := command.drop 1, input := r.input } with
    | .error fault =>
      let code := if fault == .notFound || fault == .notDirectory then 127 else 126
      return { r with
        err := r.err ++ [trace, Text.bytes ("xargs: " ++ Text.named name ++ ": " ++ fault.phrase ++ "\n")]
        code, stopped := true }
    | .ok o =>
      let r := { r with
        out := r.out ++ [o.out], err := r.err ++ [trace, o.err], slept := r.slept + o.slept, input := o.rest }
      let stop (code : Nat) (why : String) : Rounds :=
        { r with err := r.err ++ [Text.bytes ("xargs: " ++ name ++ ": " ++ why ++ "\n")], code, stopped := true }
      match o.status with
      | .exited 0 => return r
      | .exited 255 => return stop 124 "exited with status 255; aborting"
      | .exited _ => return { r with code := 123 }
      | .killed n => return stop 125 ("terminated by signal " ++ Nat.repr n)

/-- Starts a program with the words of the input. -/
def xargs (programs : Programs) : Program := withOptions
  { program := "xargs", plain := "0rtpxo", valued := "nILdPsaE", attached := "eil", mixed := false
    names := [("arg-file", 'a'), ("delimiter", 'd'), ("eof", 'e'), ("exit", 'x'), ("interactive", 'p'),
      ("max-args", 'n'), ("max-chars", 's'), ("max-lines", 'l'), ("max-procs", 'P'), ("no-run-if-empty", 'r'),
      ("null", '0'), ("open-tty", 'o'), ("replace", 'i'), ("verbose", 't')] }
  fun o j => do
    let command := if o.operands.isEmpty then ["echo"] else o.operands
    match o.given.foldlM Dealing.take {} with
    | .error message => j.refuse 1 message
    | .ok d =>
      let file? := o.value? 'a'
      let bytes? ← match file? with
        | some name => if name == "-" then pure (.ok j.input) else j.read name
        | none => pure (.ok j.input)
      match bytes? with
      | .error fault =>
        j.refuse 1 ("xargs: Cannot open input file " ++ Text.quoted (file?.getD "") ++ ": " ++ fault.phrase)
      | .ok bytes =>
        let divider? := (o.given.filterMap fun g =>
          if g.1 == '0' then some 0 else if g.1 == 'd' then (dividerOf g.2).toOption else none).getLast?
        let last? := (o.given.filter fun g => g.1 == 'E' || g.1 == 'e').getLast?.map (·.2)
        let reading := match divider? with
          | some b => readDivided b bytes
          | none => readWords d.place?.isNone (last?.filter (!·.isEmpty)) (Text.decode bytes)
        let (commands, flaw?) := d.commands (!o.has 'r') command reading
        let (input, inputIsFile) := if file?.isSome then (j.input, j.inputIsFile) else ([], false)
        let r ← commands.foldlM (Rounds.run programs { j with inputIsFile } (o.has 't'))
          { input, err := if reading.hasZero then [Text.bytes ("xargs: WARNING: a NUL character occurred in the " ++
              "input.  It cannot be passed through in the argument list.  Did you mean to use the --null " ++
              "option?\n")] else [] }
        let (err, code) := match if r.stopped then none else flaw? with
          | some flaw => (r.err ++ [Text.bytes ("xargs: " ++ flaw ++ "\n")], 1)
          | none => (r.err, r.code)
        return { out := r.out.flatten, err := err.flatten, status := .exited code, rest := r.input, slept := r.slept }

end Recap.Tool
