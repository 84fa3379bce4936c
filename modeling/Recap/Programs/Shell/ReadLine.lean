import Recap.Programs.Shell.Signal

/-!
# Reading lines

## Contents
- `takeLine` — a line of an input.
- `wordsFor` — the words of a line for a number of variables.
- `read` — reads a line into variables.
- `mapfile` — reads lines into a row.
-/

namespace Recap.Shell

open Act

/-! ## Lines -/

/-- The glyphs of a line up to what ends it, where a backslash takes the meaning of what follows it, but
    no more of them than a number; also whether the line ended, and what comes after it. `fuel` is at
    least the number of characters. -/
def takeLine (raw : Bool) (ending : Option Char) : Nat → Option Nat → List Char →
    List Glyph × Bool × List Char
  | 0, _, cs => ([], false, cs)
  | _, some 0, cs => ([], true, cs)
  | _, _, [] => ([], false, [])
  | fuel + 1, most, c :: cs =>
    let onward (g : Option Glyph) (rest : List Char) : List Glyph × Bool × List Char :=
      let (gs, ended, rest) := takeLine raw ending fuel (if g.isSome then most.map (· - 1) else most) rest
      (g.toList ++ gs, ended, rest)
    if some c == ending then ([], true, cs)
    else if c == '\\' && !raw then
      match cs with
      | [] => onward none []
      | d :: rest => onward (if d == '\n' then none else some ⟨d, true⟩) rest
    else onward (some ⟨c, false⟩) cs

/-- Whether a glyph divides words. -/
def Glyph.isDivider (between : List Char) (g : Glyph) : Bool := !g.quoted && between.contains g.char

/-- Whether a glyph is a blank that divides words. -/
def Glyph.isBlankDivider (between : List Char) (g : Glyph) : Bool :=
  g.isDivider between && Shell.isBlankDivider g.char

/-- Glyphs without the dividers at the beginning: blanks, and one other. -/
def dropDivider (between : List Char) (gs : List Glyph) : List Glyph :=
  let rest := gs.dropWhile (Glyph.isBlankDivider between)
  match rest with
  | g :: more => if g.isDivider between then more.dropWhile (Glyph.isBlankDivider between) else rest
  | [] => []

/-- The words for a number of variables; the last gets all that is left. -/
def wordsFor (between : List Char) : Nat → List Glyph → List String
  | 0, _ => []
  | 1, gs =>
    let field := gs.takeWhile fun g => !g.isDivider between
    let rest := dropDivider between (gs.drop field.length)
    if rest.isEmpty then [glyphText field]
    else [glyphText (gs.reverse.dropWhile (Glyph.isBlankDivider between)).reverse]
  | count + 2, gs =>
    let field := gs.takeWhile fun g => !g.isDivider between
    glyphText field :: wordsFor between (count + 1) (dropDivider between (gs.drop field.length))

/-- All words of a line. -/
def wordsOf (between : List Char) (gs : List Glyph) : List String :=
  (fieldsOf between (gs.map fun g => .glyph g (!g.quoted))).map glyphText

/-! ## Into variables -/

/-- How a line is read. -/
structure LineRequest where
  raw : Bool := false
  /-- The row that the words are put into. -/
  row : Option String := none
  ending : Option Char := some '\n'
  most : Option Nat := none
  channel : Nat := 0
  names : List String := []

/-- How lines are read, in the larger language. -/
def readUsage : String :=
  "read [-ers] [-a array] [-d delim] [-i text] [-n nchars] [-N nchars] [-p prompt] [-t timeout] " ++
    "[-u fd] [name ...]"

/-- What a letter that takes a value asks for. -/
def LineRequest.withValue (r : LineRequest) (letter : Char) (value : String) : LineRequest :=
  match letter with
  | 'a' => { r with row := some value }
  | 'd' => { r with ending := some (value.toList.headD '\x00') }
  | 'n' => { r with most := Tool.natOf? value }
  | 'N' => { r with most := Tool.natOf? value, ending := none }
  | 'u' => { r with channel := (Tool.natOf? value).getD 99 }
  | _ => r

/-- Reads the letters of options; an unknown one is an error. -/
def LineRequest.ofLetters (enlarged : Bool) : List Char → List String → LineRequest →
    Except Char (LineRequest × List String)
  | [], rest, r => .ok (r, rest)
  | c :: cs, rest, r =>
    if c == 'r' then ofLetters enlarged cs rest { r with raw := true }
    else if c == 's' || (enlarged && c == 'e') then ofLetters enlarged cs rest r
    else if c == 'p' || (enlarged && "adinNtu".toList.contains c) then
      match cs, rest with
      | [], value :: rest => .ok (r.withValue c value, rest)
      | [], [] => .ok (r, [])
      | cs, rest => .ok (r.withValue c (String.ofList cs), rest)
    else .error c

/-- Reads the options before the names. `fuel` is at least the number of arguments. -/
def LineRequest.ofArguments (enlarged : Bool) : Nat → List String → LineRequest →
    Except Char LineRequest
  | 0, names, r | _, names@([]), r => .ok { r with names }
  | fuel + 1, argument :: rest, r =>
    match argument.toList with
    | ['-', '-'] => .ok { r with names := rest }
    | '-' :: c :: cs =>
      match ofLetters enlarged (c :: cs) rest r with
      | .ok (r, rest) => ofArguments enlarged fuel rest r
      | .error c => .error c
    | _ => .ok { r with names := argument :: rest }

/-- Reads a line as it is asked for. -/
def readRequested (r : LineRequest) : Act Unit := do
  let (bytes, _) ← input r.channel
  let text := (Text.decode bytes).toList
  let (gs, ended, rest) := takeLine r.raw r.ending (text.length + 1) r.most text
  setInput r.channel (Text.bytes (String.ofList rest))
  let between ← dividers
  let trimmed := gs.dropWhile (Glyph.isBlankDivider between)
  setStatus (if ended then 0 else 1)
  match r.row, r.names with
  | some name, _ =>
    let v := (← get).variable ((← get).target name)
    if v.readOnly then refuseReadOnly "" name
    else putVariable ((← get).target name) (some { v with held := .ofTexts (wordsOf between trimmed) })
  | none, [] =>
    if !(← trySet "REPLY" (glyphText gs)) then setStatus 1
  | none, names =>
    let values := if r.ending.isNone then glyphText gs :: List.replicate (names.length - 1) ""
      else wordsFor between names.length trimmed
    for (name, value) in names.zip values do
      if !(← trySet name value) then setStatus 1

/-- Reads a line. -/
def read : Builtin := fun arguments => do
  let enlarged ← isEnlarged
  match LineRequest.ofArguments enlarged (arguments.length + 1) arguments {} with
  | .error c =>
    if enlarged then refuseOption "read" ("-" ++ c.toString) readUsage
    else refuseAs "read" 2 ("Illegal option -" ++ c.toString)
  | .ok r =>
    let isOpen := ((← get).channels.lookup r.channel).isSome
    match r.names.find? fun n => !isName (splitKey n).1 with
    | some name =>
      if enlarged then refuseAs "read" 1 ("\x60" ++ name ++ "': not a valid identifier")
      else refuseAs "read" 2 (name ++ ": bad variable name")
    | none =>
      if !enlarged && r.names.isEmpty then refuseAs "read" 2 "arg count"
      else if enlarged && !isOpen && r.channel != 0 then
        refuseAs "read" 1 (Nat.repr r.channel ++ ": invalid file descriptor: Bad file descriptor")
      else readRequested r

/-! ## Into rows -/

/-- How lines are read into a row. -/
structure RowRequest where
  name : String := "MAPFILE"
  /-- Whether the ends of lines are left out. -/
  bare : Bool := false
  ending : UInt8 := newline
  most : Nat := 0
  skipped : Nat := 0
  /-- The number of the first item, where items that are there already are kept. -/
  first : Option Nat := none
  channel : Nat := 0

/-- How lines are read into a row. -/
def mapfileUsage : String :=
  "mapfile [-d delim] [-n count] [-O origin] [-s count] [-t] [-u fd] [-C callback] [-c quantum] [array]"

/-- What a letter that takes a value asks for. -/
def RowRequest.withValue (r : RowRequest) (letter : Char) (value : String) : RowRequest :=
  let number := (Tool.natOf? value).getD 0
  match letter with
  | 'd' => { r with ending := (Text.bytes value).headD 0 }
  | 'n' => { r with most := number }
  | 'O' => { r with first := some number }
  | 's' => { r with skipped := number }
  | 'u' => { r with channel := number }
  | _ => r

/-- Reads the options before the name of the row; an unknown one is an error. `fuel` is more than the
    number of characters. -/
def RowRequest.ofArguments : Nat → List String → RowRequest → Except Char RowRequest
  | 0, _, r | _, [], r => .ok r
  | fuel + 1, argument :: rest, r =>
    match argument.toList with
    | '-' :: 't' :: cs =>
      let r := { r with bare := true }
      if cs.isEmpty then ofArguments fuel rest r else ofArguments fuel (String.ofList ('-' :: cs) :: rest) r
    | ['-', '-'] => ofArguments fuel rest r
    | '-' :: c :: cs =>
      if "dnOsuCc".toList.contains c then
        match cs, rest with
        | [], value :: rest => ofArguments fuel rest (r.withValue c value)
        | [], [] => .ok r
        | cs, rest => ofArguments fuel rest (r.withValue c (String.ofList cs))
      else .error c
    | _ => .ok { r with name := argument }

/-- Reads lines into a row. -/
def mapfile (command : String) : Builtin := fun arguments => do
  match RowRequest.ofArguments ((arguments.map (·.length + 1)).foldl (· + ·) 1) arguments {} with
  | .error c => refuseOption command ("-" ++ c.toString) mapfileUsage
  | .ok r =>
    let (bytes, _) ← input r.channel
    let pieces := (keptPieces r.ending bytes).drop r.skipped
    let chosen := if r.most == 0 then pieces else pieces.take r.most
    setInput r.channel (if r.most == 0 then [] else (pieces.drop r.most).flatten)
    let texts := chosen.map fun piece =>
      Text.decode (if r.bare || r.ending == 0 then piece.filter (· != r.ending) else piece)
    let name := (← get).target r.name
    let v := (← get).variable name
    if v.readOnly then refuseReadOnly "" name
    else
      let start := r.first.getD 0
      let old := if r.first.isSome then v.held.asRow else []
      let items := texts.zipIdx.foldl (fun items (s, i) => Held.insertAt (start + i) s items) old
      putVariable name (some { v with held := .row items })
      setStatus 0

end Recap.Shell
