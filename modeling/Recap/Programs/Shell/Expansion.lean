import Recap.Programs.Shell.Braces
import Recap.Programs.Shell.Quoting
import Recap.Programs.Shell.Value

/-!
# Expanding words

Values take the places of parameters, commands and sums; what they leave is divided into words, and
words that are patterns become the names of the files that fit.

## Contents
- `parameterValue?`, `Subject` — the values of parameters.
- `expandParameter` — what is made of them.
- `expandPart`, `expandWord` — the marks that a word leaves.
- `fieldsOf` — the words that marks are divided into.
- `filesOf` — the files that a pattern fits.
- `expandFields`, `expandText`, `expandPattern` — words, texts and patterns.
-/

namespace Recap.Shell

open Act
open Machine (Path)

/-! ## Parameters -/

/-- The number that the first shell goes by. -/
def shellNumber : Nat := 4242

/-- The order in which options are shown. -/
def optionOrder : List Char := "abefhkmnptuvxBCEHPT".toList

/-- The letters of the options that are on, as they are shown. -/
def Session.shownOptions (s : Session) : String :=
  match s.flavour with
  | .plain => String.ofList s.options
  | .enlarged =>
    String.ofList (optionOrder.filter s.options.contains) ++ (match s.origin with
      | .argument => "c"
      | .input => "s"
      | .file => "")

/-- The value of a parameter that is no list. -/
def parameterValue? (name : String) : Act (Option String) := do
  let s ← get
  match name with
  | "?" => return some (Nat.repr s.status)
  | "#" => return some (Nat.repr s.parameters.length)
  | "$" => return some (Nat.repr shellNumber)
  | "-" => return some s.shownOptions
  | "0" => return some s.name
  | "!" => return s.jobs.head?.map fun j => Nat.repr j.number
  | name =>
    match numberOfDigits? name with
    | some n => return s.parameters[n - 1]?
    | none => getVariable? name

/-- Whether a parameter is all parameters of the script. -/
def isList (name : String) : Bool := name == "@" || name == "*"

/-- The characters that divide words. -/
def dividers : Act (List Char) := do
  return ((← getVariable? "IFS").getD " \t\n").toList

/-- The marks of a value. -/
def marksOf (quoted : Bool) (text : String) : List Mark :=
  if quoted && text.isEmpty then [.kept]
  else text.toList.map fun c => .glyph ⟨c, quoted⟩ (!quoted)

/-- Lists with a border between them. -/
def withBorders : List (List Mark) → List Mark
  | [] => []
  | [marks] => marks
  | marks :: more => marks ++ .border :: withBorders more

/-! ## Texts of marks -/

/-- The glyphs of marks; a border is a blank. -/
def glyphsOf (marks : List Mark) : List Glyph :=
  marks.filterMap fun
    | .glyph g _ => some g
    | .border => some ⟨' ', true⟩
    | .kept => none

/-- The text of marks. -/
def textOfMarks (marks : List Mark) : String := glyphText (glyphsOf marks)

/-- The marks of a word that takes the place of a value. -/
def asValue (quoted : Bool) (marks : List Mark) : List Mark :=
  if quoted then if marks.isEmpty then [.kept] else marks
  else marks.map fun
    | .glyph g divides => .glyph g (divides || !g.quoted)
    | m => m

/-! ## Subjects -/

/-- What a parameter stands for. -/
inductive Subject where
  /-- A text, or nothing where it is not set. -/
  | one (value : Option String)
  /-- Texts with their keys, which are joined between quotes if that is asked for. -/
  | many (items : List (String × String)) (joined : Bool)

/-- How complaints name a parameter. -/
def spokenName (name : String) (key : Option String) : String :=
  match key with
  | some k => name ++ "[" ++ k ++ "]"
  | none => name

/-- What a parameter stands for, which can have a key. -/
def subjectOf (name : String) (key : Option String) : Act Subject := do
  let s ← get
  match key with
  | none =>
    if isList name then
      return .many (s.parameters.zipIdx.map fun (p, i) => (Nat.repr (i + 1), p)) (name == "*")
    else return .one (← parameterValue? name)
  | some k =>
    let held := s.held name
    if k == "@" || k == "*" then return .many held.items (k == "*")
    else
      match ← keyOf? held k with
      | some k => return .one (held.item? k)
      | none =>
        complain ((if k.isEmpty then spokenName name key else name) ++ ": bad array subscript")
        return .one none

/-- The marks of texts: between quotes they can be joined, otherwise each is a word of its own. -/
def marksOfMany (texts : List String) (joined quoted : Bool) : Act (List Mark) := do
  if quoted && joined then
    let first := String.ofList ((← dividers).take 1)
    return marksOf true (first.intercalate texts)
  else return withBorders (texts.map (marksOf quoted))

/-- The text of a parameter, which has to be set where an option asks for it. -/
def requiredText (name : String) (key value : Option String) : Act String := do
  match value with
  | some text => return text
  | none =>
    if ← hasOption 'u' then
      if ← isEnlarged then
        let shown := if (numberOfDigits? name).isSome then "$" ++ name else spokenName name key
        abortMissing (shown ++ ": unbound variable")
      else abortMissing (name ++ ": parameter not set")
    else return ""

/-- The marks of what a parameter stands for, of each text of which something is made. -/
def marksOfSubject (name : String) (key : Option String) (s : Subject) (quoted : Bool)
    (f : String → Act String) : Act (List Mark) := do
  match s with
  | .one value => return marksOf quoted (← f (← requiredText name key value))
  | .many items joined => marksOfMany (← items.mapM fun i => f i.2) joined quoted

/-! ## Modifiers -/

/-- The number of bytes between two places of a text, as a text. -/
def bytesBetween (text : String) (start stop : Nat) : String :=
  Text.decode (((Text.bytes text).take stop).drop start)

/-- A piece of a text from an offset on; numbers below zero count from the end. -/
def pieceOf (text : String) (offset : Int) (length : Option Int) : Act String := do
  let size : Int := text.utf8ByteSize
  let start := if offset < 0 then size + offset else offset
  if start < 0 || size < start then return ""
  else
    let stop := match length with
      | none => size
      | some n => if n < 0 then size + n else min size (start + n)
    if stop < start then discard (Sum.textOf (length.getD 0) ++ ": substring expression < 0")
    else return bytesBetween text start.toNat stop.toNat

/-- Those of some items that a piece has: counted by their numbers, or one after the other. -/
def itemsFrom (numbered : Bool) (items : List (String × String)) (offset : Int) (length : Option Int) :
    Act (List (String × String)) := do
  let numberOf (i : String × String) : Int := ((numberOfDigits? i.1).getD 0 : Nat)
  let behind : Int := if numbered then ((items.getLast?.map numberOf).getD (-1)) + 1 else items.length
  let start := if offset < 0 then behind + offset else offset
  let rest := if start < 0 then []
    else if numbered then items.filter fun i => start ≤ numberOf i
    else items.drop start.toNat
  match length with
  | none => return rest
  | some n =>
    if n < 0 then discard (Sum.textOf n ++ ": substring expression < 0") else return rest.take n.toNat

/-- A piece of what a parameter stands for. -/
def pieceOfSubject (name : String) (key : Option String) (s : Subject) (quoted : Bool) (offset : Int)
    (length : Option Int) : Act (List Mark) := do
  match s with
  | .one value => return marksOf quoted (← pieceOf (← requiredText name key value) offset length)
  | .many items joined =>
    let session ← get
    let isOwn := key.isNone
    let all := if isOwn && offset == 0 then ("0", session.name) :: items else items
    let numbered := isOwn || !(session.held name).isTable
    marksOfMany ((← itemsFrom numbered all offset length).map (·.2)) joined quoted

/-- A replacement with the piece that was found in the places of the signs that ask for it. -/
def replacementFor (by' : List Glyph) (found : List Char) : List Char :=
  by'.flatMap fun g => if g == ⟨'&', false⟩ then found else [g.char]

/-- A text with another in the place of a pattern. -/
def replaceFits (spread : Spread) (r : Regex) (by' : List Glyph) (text : String) : String :=
  let t := (Text.spread text).toList.toArray
  let by' := Regex.spreadGlyphs by'
  let cut (start stop : Nat) : List Char :=
    Regex.slice t 0 start ++ replacementFor by' (Regex.slice t start stop) ++ Regex.slice t stop t.size
  let whole (cs : List Char) : String := Text.gathered (String.ofList cs)
  match spread with
  | .atFront =>
    match (bitPositions (t.size + 1) (r.reach t 1)).getLast? with
    | some stop => whole (cut 0 stop)
    | none => text
  | .atEnd =>
    let starts := (List.range (t.size + 1)).filter fun i => (r.reach t (1 <<< i)).testBit t.size
    match starts.head? with
    | some start => whole (cut start t.size)
    | none => text
  | .once | .everywhere =>
    let fits := (r.fits t).filter fun f => f.start < f.stop
    let chosen := if spread == .everywhere then fits else fits.take 1
    let (done, last) := chosen.foldl
      (fun (done : List Char × Nat) f =>
        (done.1 ++ Regex.slice t done.2 f.start ++ replacementFor by' (Regex.slice t f.start f.stop), f.stop))
      ([], 0)
    whole (done ++ Regex.slice t last t.size)

/-- A text in capital or small letters, the first or all, where they fit a pattern if there is one. -/
def casedText (upper all : Bool) (pattern : Option Regex) (text : String) : String :=
  let change (c : Char) : Char :=
    if (pattern.map (·.fitsText c.toString)).getD true then if upper then c.toUpper else c.toLower else c
  match text.toList with
  | [] => text
  | c :: cs => String.ofList (change c :: if all then cs.map change else cs)

/-- A text with escapes in the places of what they stand for. -/
def unescaped (text : String) : String :=
  match (readEscaped (text.length + 2) []).run (.ofText true (text ++ "'") 1 []) with
  | .ok (s, _) => s
  | .error _ => text

/-- The declaration of a variable. -/
def declaration (name : String) (v : Variable) : String :=
  let letters := if v.letters.isEmpty then "-" else v.letters
  let value := match v.held with
    | .nothing => ""
    | .text s => "=" ++ quotedValue s
    | .row [] | .table [] => ""
    | .row items =>
      "=(" ++ " ".intercalate (items.map fun (n, s) => "[" ++ Nat.repr n ++ "]=" ++ quotedValue s) ++ ")"
    | .table items =>
      "=(" ++ (Held.table items).items.foldl (fun t (k, s) =>
        let key := if hasSpecial none k.toList || needsEscapes k then quotedValue k else k
        t ++ "[" ++ key ++ "]=" ++ quotedValue s ++ " ") "" ++ ")"
  "declare -" ++ letters ++ " " ++ name ++ value

/-- A text in another form. -/
def convertedText (letter : Char) (text : String) : String :=
  match letter with
  | 'U' => text.map Char.toUpper
  | 'u' => casedText true false none text
  | 'L' => text.map Char.toLower
  | 'E' => unescaped text
  | 'Q' | 'K' | 'k' => quotedAlways text
  | _ => text

/-- What a parameter stands for in another form. -/
def expandConverted (name : String) (key : Option String) (s : Subject) (quoted : Bool) (letter : Char) :
    Act (List Mark) := do
  let v := (← get).variable ((← get).target name)
  match letter, s with
  | 'a', _ => return marksOf quoted v.letters
  | 'A', .many .. => return marksOf quoted (declaration name v)
  | 'A', .one (some text) =>
    let front := if v.letters.isEmpty then "" else "declare -" ++ v.letters ++ " "
    return marksOf quoted (front ++ name ++ "=" ++ quotedAlways text)
  | 'K', .many items joined =>
    let shown := " ".intercalate (items.map fun (k, t) => k ++ " " ++ quotedValue t)
    if key.isSome then return marksOf quoted (if v.held.isTable then shown ++ " " else shown)
    else marksOfMany (items.map fun i => quotedAlways i.2) joined quoted
  | 'k', .many items joined =>
    if key.isSome then marksOfMany (items.flatMap fun (k, t) => [k, t]) joined quoted
    else marksOfMany (items.map fun i => quotedAlways i.2) joined quoted
  | _, .one none => return marksOf quoted (← requiredText name key none)
  | letter, s => marksOfSubject name key s quoted fun text => return convertedText letter text

/-- The marks of a parameter, or those of a word in its place. -/
def expandFallback (perform : Perform) (name : String) (key : Option String) (s : Subject) (how : Fallback)
    (emptyToo quoted : Bool) (word : Word) : Act (List Mark) := do
  let value : Option String := match s with
    | .one value => value
    | .many [] _ => none
    | .many items _ => some (" ".intercalate (items.map (·.2)))
  let isSet := match value with
    | some text => !(emptyToo && text.isEmpty)
    | none => false
  let own : Act (List Mark) := marksOfSubject name key s quoted fun text => return text
  match how with
  | .use => if isSet then own else return asValue quoted (← perform (.expand word))
  | .instead =>
    if isSet then return asValue quoted (← perform (.expand word))
    else return if s matches .many _ false then [] else marksOf quoted ""
  | .assign =>
    if isSet then own
    else if !isName name then
      if ← isEnlarged then discard ("$" ++ name ++ ": cannot assign in this way")
      else abort (name ++ ": bad variable name")
    else
      let text := textOfMarks (← perform (.expand word))
      match key with
      | none => setVariable name text
      | some k =>
        let _ ← trySetItem name k false text
      return marksOf quoted text
  | .refuse =>
    if isSet then own
    else
      let text := textOfMarks (← perform (.expand word))
      let enlarged ← isEnlarged
      let usual := if !emptyToo then "parameter not set"
        else if enlarged then "parameter null or not set"
        else "parameter not set or null"
      abortMissing (spokenName name key ++ ": " ++ (if text.isEmpty then usual else text))

/-- How patterns are written in this session. -/
def globStyle : Act GlobStyle := do
  let s ← get
  return { grouped := s.switches.contains "extglob", caret := s.flavour == .enlarged
           ignoreCase := s.switches.contains "nocasematch" }

/-- The number of items or bytes that a parameter stands for. -/
def lengthOf (name : String) (key : Option String) : Subject → Act Nat
  | .one value => do return (← requiredText name key value).utf8ByteSize
  | .many items joined => do
    if key.isSome || (← isEnlarged) then return items.length
    else
      let between ← dividers
      let first := if joined then String.ofList (between.take 1) else " "
      return (first.intercalate (items.map (·.2))).utf8ByteSize

/-- The marks of what a parameter stands for, by what is made of it. -/
def expandSubject (perform : Perform) (name : String) (key : Option String) (s : Subject) (m : Modifier)
    (quoted : Bool) : Act (List Mark) := do
  let glyphs (w : Word) : Act (List Glyph) := do return glyphsOf (← perform (.expand w))
  let text (w : Word) : Act String := do return textOfMarks (← perform (.expand w))
  let each (f : String → String) : Act (List Mark) := marksOfSubject name key s quoted fun t => return f t
  match m with
  | .plain => each id
  | .length => return marksOf quoted (Nat.repr (← lengthOf name key s))
  | .fallback how emptyToo word => expandFallback perform name key s how emptyToo quoted word
  | .trimmed atEnd longest pattern =>
    let r := Regex.ofGlyphs (← globStyle) (← glyphs pattern)
    each fun t => if atEnd then trimBack longest r t else trimFront longest r t
  | .piece offset length =>
    let start ← evaluate (← text offset)
    let size ← length.mapM fun w => do evaluate (← text w)
    pieceOfSubject name key s quoted start size
  | .replaced spread pattern word =>
    let r := Regex.ofGlyphs (← globStyle) (← glyphs pattern)
    let by' ← glyphs word
    each (replaceFits spread r by')
  | .cased upper all pattern =>
    let gs ← glyphs pattern
    let r ← if gs.isEmpty then pure none else do pure (some (Regex.ofGlyphs (← globStyle) gs))
    each (casedText upper all r)
  | .converted letter => expandConverted name key s quoted letter
  | .keys =>
    match s with
    | .many items joined => marksOfMany (items.map (·.1)) joined quoted
    | .one _ => return marksOf quoted ""
  | .names =>
    let names := ((← get).bindings.map (·.1)).filter (·.startsWith name)
    marksOfMany (names.mergeSort fun a b => a ≤ b) false quoted
  | .indirect _ => return marksOf quoted ""
  | .bad source =>
    if ← isEnlarged then discard (source ++ ": bad substitution") else abort "Bad substitution"

/-- The name and key that a text is. -/
def splitKey (text : String) : String × Option String :=
  let name := text.toList.takeWhile (· != '[')
  match text.toList.drop name.length with
  | _ :: key =>
    if key.getLast? == some ']' then (String.ofList name, some (String.ofList key.dropLast)) else (text, none)
  | [] => (text, none)

/-- The marks of a parameter. -/
def expandParameter (perform : Perform) (name : String) (key : Option Word) (m : Modifier)
    (quoted : Bool) : Act (List Mark) := do
  let key ← key.mapM fun w => do return textOfMarks (← perform (.expand w))
  match m with
  | .indirect m =>
    match ← subjectOf name key with
    | .one none =>
      if m matches .fallback .. then expandSubject perform name none (.one none) m quoted
      else discard (spokenName name key ++ ": invalid indirect expansion")
    | .one (some other) =>
      let (base, k) := splitKey other
      let isParameter := isName base || (numberOfDigits? base).isSome ||
        (base.length == 1 && base.toList.all isSpecialParameter)
      if isParameter then expandSubject perform base k (← subjectOf base k) m quoted
      else discard (other ++ ": invalid variable name")
    | .many items _ =>
      let other := " ".intercalate (items.map (·.2))
      expandSubject perform other none (← subjectOf other none) m quoted
  | .names => expandSubject perform name key (.one none) m quoted
  | .bad _ => expandSubject perform name key (.one none) m quoted
  | m => expandSubject perform name key (← subjectOf name key) m quoted

/-! ## Words -/

/-- What a command writes, as it is wanted inside another command. -/
def commandBytes (perform : Perform) (c : Command) : Act Bytes := do
  let s ← get
  captured (apart do
    modify fun s' =>
      { s' with level := s.level + 1
                options := if s.flavour == .enlarged then s.options.filter (· != 'e') else s.options }
    perform (.run c))

/-- The file that is read where a command is nothing but a redirection from it. -/
def onlyFile? : Command → Option Word
  | .simple _ [] [] [.file 0 .read target] => some target
  | _ => none

/-- What a command writes, without newlines at its end. -/
def outputOf (perform : Perform) (c : Command) : Act String := do
  let before := (← get).status
  let file := if (← get).flavour == .enlarged then onlyFile? c else none
  let bytes ← match file with
    | some target => do
      let name := textOfMarks (← perform (.expand target))
      let path := (← get).directory.join (.ofText name)
      match channelOf? path with
      | some channel =>
        let (bytes, _) ← input channel
        setInput channel []
        setStatus 0
        pure bytes
      | none =>
        match ← ask (.readBytes path) with
        | .ok bytes =>
          setStatus 0
          pure bytes
        | .error fault => do
          refuse 1 (name ++ ": " ++ fault.phrase)
          pure []
    | none => commandBytes perform c
  modify fun s => { s with substituted := s.status, status := before }
  let kept := (bytes.filter (· != 0)).reverse.dropWhile (· == newline)
  return Text.decode kept.reverse

/-- The channel of the next file that stands for a command. -/
def Session.freeChannel (s : Session) : Nat :=
  ((List.range 54).map (63 - ·)).find? (fun n => (s.channels.lookup n).isNone) |>.getD 9

/-- The name of a file that holds what a command writes, or that a command is fed with. -/
def processName (perform : Perform) (c : Command) (fed : Bool) : Act String := do
  let stream ← if fed then pure (Stream.sink [])
    else do
      let before := (← get).status
      let bytes ← commandBytes perform c
      setStatus before
      pure (Stream.source bytes false)
  let channel := (← get).freeChannel
  modify fun s =>
    let (number, s) := s.addStream stream
    let s := s.connect channel number
    { s with feeds := if fed then s.feeds ++ [(number, c)] else s.feeds }
  return "/dev/fd/" ++ Nat.repr channel

/-- The marks of a part. -/
def expandPart (perform : Perform) : Part → Act (List Mark)
  | .text s quoted =>
    return if quoted && s.isEmpty then [.kept] else s.toList.map fun c => .glyph ⟨c, quoted⟩ false
  | .parameter name key m quoted => expandParameter perform name key m quoted
  | .command c quoted => do return marksOf quoted (← outputOf perform c)
  | .arithmetic sum quoted => do
    let value ← evaluate (textOfMarks (← perform (.expand sum)))
    return marksOf quoted (Sum.textOf value)
  | .process c fed => do return marksOf true (← processName perform c fed)
  | .key w => do
    let inner ← perform (.expand w)
    return .glyph ⟨'[', false⟩ false :: inner ++ [.glyph ⟨']', false⟩ false]
  | .table _ => return []

/-- The home directory that the beginning of a word stands for. -/
def homeOf? (user : List Char) : Act (Option String) := do
  match user with
  | ['~'] => getVariable? "HOME"
  | ['~', 'r', 'o', 'o', 't'] => return some "/root"
  | _ => return none

/-- A word whose first part begins with the sign for the home directory, with the directory in its
    place. -/
def expandHome : Word → Act Word
  | .text s false :: parts => do
    let user := s.toList.takeWhile (· != '/')
    if s.startsWith "~" && (parts.isEmpty || user.length < s.length) then
      match ← homeOf? user with
      | some home =>
        return .text home true :: .text (String.ofList (s.toList.drop user.length)) false :: parts
      | none => return .text s false :: parts
    else return .text s false :: parts
  | w => return w

/-- A text that is set, with home directories in the places of the signs behind its colons. -/
def expandHomesIn (text : String) : Act Word := do
  let mut done : Word := []
  for (piece, i) in (text.splitOn ":").zipIdx do
    if i != 0 then done := addPart done (.text ":" false)
    let parts ← if i == 0 then pure [Part.text piece false] else expandHome [.text piece false]
    done := addParts done parts
  return done

/-- A word that something is set to, with home directories in the places of the signs behind colons. -/
def expandHomes (w : Word) : Act Word := do
  let mut done : Word := []
  for p in w do
    match p with
    | .text s false => done := addParts done (← if s.toList.contains '~' then expandHomesIn s else pure [p])
    | p => done := addPart done p
  return done

/-- The marks of a word. -/
def expandWord (perform : Perform) (w : Word) : Act (List Mark) := do
  let mut marks := []
  for p in ← expandHome w do
    marks := marks ++ (← expandPart perform p)
  return marks

/-! ## Dividing -/

/-- How far marks have been divided. -/
structure Division where
  fields : List (List Glyph)
  /-- The word that has begun. -/
  current : Option (List Glyph)
  /-- Whether blanks ended the last word, so that one more divider belongs to them. -/
  afterBlank : Bool

/-- Ends the word that has begun. -/
def Division.close (d : Division) (afterBlank : Bool) : Division :=
  match d.current with
  | some field => { fields := d.fields ++ [field], current := none, afterBlank }
  | none => d

/-- Whether a character is a blank divider. -/
def isBlankDivider (c : Char) : Bool := c == ' ' || c == '\t' || c == '\n'

/-- Goes on dividing. -/
def Division.step (between : List Char) (d : Division) (m : Mark) : Division :=
  match m with
  | .kept => { d with current := some (d.current.getD []), afterBlank := false }
  | .border => d.close false
  | .glyph g divides =>
    if divides && between.contains g.char then
      if isBlankDivider g.char then d.close true
      else if d.current.isSome then d.close false
      else if d.afterBlank then { d with afterBlank := false }
      else { d with fields := d.fields ++ [[]] }
    else { d with current := some (d.current.getD [] ++ [g]), afterBlank := false }

/-- The words that marks are divided into. -/
def fieldsOf (between : List Char) (marks : List Mark) : List (List Glyph) :=
  ((marks.foldl (Division.step between) { fields := [], current := none, afterBlank := false }).close
    false).fields

/-! ## Files -/

/-- The pieces of a pattern between slashes. -/
def splitPattern : List Glyph → List (List Glyph)
  | [] => [[]]
  | g :: gs =>
    if g.char == '/' then [] :: splitPattern gs
    else
      match splitPattern gs with
      | [] => [[g]]
      | piece :: pieces => (g :: piece) :: pieces

/-- The path that a name leads to. -/
def pathOf (name : String) : Act Path := do
  let directory := (← get).directory
  return if name.isEmpty then .ofText name else directory.join (.ofText name)

/-- What a piece of a pattern fits below a path. -/
def fitsBelow (style : GlobStyle) (above : String) (piece : List Glyph) : Act (List String) := do
  if style.isPattern piece then
    match ← ask (.names (← pathOf (if above.isEmpty then "." else above))) with
    | .error _ => return []
    | .ok names =>
      let r := Regex.ofGlyphs style piece
      let hidden := (piece.head?.map (·.char)) == some '.' || (← get).switches.contains "dotglob"
      return (names.filter fun n => r.fitsText n && (hidden || !n.startsWith ".")).map
        (above ++ ·)
  else return [above ++ glyphText piece]

/-- How file names are found by patterns in this session. -/
def fileStyle : Act GlobStyle := do
  return { ← globStyle with ignoreCase := (← get).switches.contains "nocaseglob" }

/-- The files that a pattern fits. -/
def filesOf (pattern : List Glyph) : Act (List String) := do
  let style ← fileStyle
  let pieces := splitPattern pattern
  let mut paths := [""]
  for (piece, i) in pieces.zipIdx do
    let mut longer := []
    for above in paths do
      longer := longer ++ (← fitsBelow style above piece)
    paths := if i + 1 < pieces.length then longer.map (· ++ "/") else longer
  let mut found := []
  for path in paths do
    match ← ask (.look (← pathOf path)) with
    | .ok _ => found := found ++ [path]
    | .error _ => pure ()
  return found

/-- The names of the files that a word fits, or the word itself if there are none. -/
def namesOf (field : List Glyph) : Act (List String) := do
  if (← fileStyle).isPattern field && !(← hasOption 'f') then
    match ← filesOf field with
    | [] =>
      let switches := (← get).switches
      if switches.contains "failglob" then discard ("no match: " ++ glyphText field)
      else return if switches.contains "nullglob" then [] else [glyphText field]
    | found => return found
  else return [glyphText field]

/-! ## Results -/

/-- The words that words become. -/
def expandFields (perform : Perform) (ws : List Word) : Act (List String) := do
  let braces := (← isEnlarged) && (← hasOption 'B')
  let mut fields := []
  for w in if braces then ws.flatMap expandBraces else ws do
    let marks ← perform (.expand w)
    for field in fieldsOf (← dividers) marks do
      fields := fields ++ (← namesOf field)
  return fields

/-- The text that a word becomes where it is not divided. -/
def expandText (perform : Perform) (w : Word) : Act String := do
  return textOfMarks (← perform (.expand w))

/-- The pattern that a word becomes. -/
def expandPattern (perform : Perform) (w : Word) : Act Regex := do
  return Regex.ofGlyphs (← globStyle) (glyphsOf (← perform (.expand w)))

end Recap.Shell
