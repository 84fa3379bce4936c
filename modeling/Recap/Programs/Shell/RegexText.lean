import Recap.Programs.Shell.Regex

/-!
# Regular expressions in writing

Patterns are written in dialects that share most of their signs. They differ in which signs need a
backslash, and in what becomes of signs that make no sense where they stand.

## Contents
- `Regex.Flaw` — what can be wrong with a pattern.
- `Dialect` — how patterns are written.
- `Regex.classOf` — characters between brackets.
- `Regex.ofText` — reads a pattern.
-/

namespace Recap.Shell

/-- What can be wrong with a pattern. -/
inductive Regex.Flaw where
  | noPattern
  | noSuchCollation
  | noSuchClass
  | trailingBackslash
  | noSuchGroup
  | openBracket
  | openParenthesis
  | openBrace
  | badBounds
  | badRange
  | tooLarge
  | nothingToRepeat
  | closingParenthesis
  deriving DecidableEq, Repr

/-- What is said about a flaw. -/
def Regex.Flaw.message : Regex.Flaw → String
  | .noPattern => "Invalid regular expression"
  | .noSuchCollation => "Invalid collation character"
  | .noSuchClass => "Invalid character class name"
  | .trailingBackslash => "Trailing backslash"
  | .noSuchGroup => "Invalid back reference"
  | .openBracket => "Unmatched [, [^, [:, [., or [="
  | .openParenthesis => "Unmatched ( or \\("
  | .openBrace => "Unmatched \\\x7b"
  | .badBounds => "Invalid content of \\\x7b\\\x7d"
  | .badRange => "Invalid range end"
  | .tooLarge => "Regular expression too big"
  | .nothingToRepeat => "Invalid preceding regular expression"
  | .closingParenthesis => "Unmatched ) or \\)"

/-- What becomes of a sign that makes no sense where it stands. -/
inductive Stray where
  | refused
  | skipped
  /-- It stands for itself. -/
  | literal
  deriving DecidableEq, Repr

/-- How patterns are written. -/
structure Dialect where
  /-- Parentheses, braces, bars, plus signs and question marks have their meanings without a
      backslash. -/
  extended : Bool
  /-- Small letters are not told from capital ones. -/
  ignoreCase : Bool := false
  /-- A repetition of nothing. -/
  strayRepeat : Stray := .literal
  /-- Bounds of nothing. -/
  strayBounds : Stray := .literal
  /-- A closing parenthesis without an opening one. -/
  strayClosing : Stray := .refused
  /-- Bounds that cannot be read. -/
  unreadBounds : Stray := .refused
  /-- Whether what is repeated can be repeated again by an asterisk or bounds. -/
  repeatsAgain : Bool := true
  /-- Whether the ends of a range can be in the wrong order. -/
  turnedRanges : Bool := false
  /-- Whether braces have a meaning at all. -/
  hasBounds : Bool := true
  /-- Whether every alternative must have something in it. -/
  needsOperands : Bool := false
  /-- Whether letters behind a backslash stand for classes and borders. -/
  namesClasses : Bool := true
  /-- Whether letters behind a backslash stand for control characters, between brackets as well. -/
  namesControls : Bool := false
  /-- Whether a caret and a dollar sign also fit around newlines. -/
  byLine : Bool := false
  /-- Whether a question mark behind a parenthesis or a repetition has a meaning, and more letters behind
      a backslash have. -/
  enlarged : Bool := false

namespace Regex

/-! ## Characters between brackets -/

/-- Named classes. -/
def namedClasses : List (List Char × List (Char × Char)) :=
  [("alpha", [('a', 'z'), ('A', 'Z')]), ("digit", [('0', '9')]),
    ("alnum", [('a', 'z'), ('A', 'Z'), ('0', '9')]), ("upper", [('A', 'Z')]), ("lower", [('a', 'z')]),
    ("space", [(' ', ' '), ('\t', '\x0d')]), ("blank", [(' ', ' '), ('\t', '\t')]),
    ("punct", [('!', '/'), (':', '@'), ('[', '\x60'), ('\x7b', '~')]), ("print", [(' ', '~')]),
    ("graph", [('!', '~')]), ("cntrl", [('\x00', '\x1f'), ('\x7f', '\x7f')]),
    ("xdigit", [('0', '9'), ('a', 'f'), ('A', 'F')])].map fun (name, ranges) => (name.toList, ranges)

/-- A named class after its opening bracket and colon, and what comes after it. -/
def namedClass? (cs : List Char) : Option (List (Char × Char) × List Char) :=
  namedClasses.findSome? fun (name, ranges) =>
    if (name ++ [':', ']']).isPrefixOf cs then some (ranges, cs.drop (name.length + 2)) else none

/-- What letters after a backslash stand for. -/
def escapedLetter? : Char → Option Char
  | 'n' => some '\n'
  | 't' => some '\t'
  | 'r' => some '\r'
  | 'f' => some '\x0c'
  | 'v' => some '\x0b'
  | 'a' => some '\x07'
  | _ => none

/-- The characters before a sign that stands before a closing bracket, and what comes after both. -/
def beforeClosing? (sign : Char) : List Char → Option (List Char × List Char)
  | [] => none
  | c :: cs =>
    if c == sign && cs.head? == some ']' then some ([], cs.drop 1)
    else (beforeClosing? sign cs).map fun (inner, rest) => (c :: inner, rest)

/-- One character between brackets, and what comes after it. -/
def classChar (d : Dialect) : Char → List Char → Except Flaw (Char × List Char)
  | '\\', e :: rest =>
    if d.namesControls then
      match escapedLetter? e with
      | some x => .ok (x, rest)
      | none => if "\\]/\"".toList.contains e then .ok (e, rest) else .ok ('\\', e :: rest)
    else .ok ('\\', e :: rest)
  | '[', sign :: rest =>
    if !d.namesControls && (sign == '.' || sign == '=') then
      match beforeClosing? sign rest with
      | some ([c], rest) => .ok (c, rest)
      | some _ => .error .noSuchCollation
      | none => .error .openBracket
    else .ok ('[', sign :: rest)
  | c, rest => .ok (c, rest)

/-- The ranges of a class up to its closing bracket, and what comes after it. `fuel` is more than the
    number of characters. -/
def readClass (d : Dialect) : Nat → Bool → List Char → List (Char × Char) →
    Except Flaw (List (Char × Char) × List Char)
  | 0, _, _, _ => .error .openBracket
  | _, first, [], _ => .error (if first && !d.namesControls then .noPattern else .openBracket)
  | fuel + 1, first, c :: cs, ranges => do
    if c == ']' && !first then return (ranges, cs)
    let named := c == '[' && cs.head? == some ':'
    match if named then namedClass? (cs.drop 1) else none with
    | some (more, rest) => readClass d fuel false rest (ranges ++ more)
    | none =>
      if named then
        match beforeClosing? ':' (cs.drop 1) with
        | some _ => throw .noSuchClass
        | none => throw .openBracket
      if c == '-' && !first && !d.namesControls && cs.head? != some ']' then throw .badRange
      let (a, cs) ← classChar d c cs
      match cs with
      | '-' :: b :: rest =>
        if b == ']' then readClass d fuel false cs (ranges ++ [(a, a)])
        else
          let (b, rest) ← classChar d b rest
          if b < a && !d.turnedRanges then throw .badRange
          let range := if b < a && d.namesControls then [(a, a), ('-', '-'), (b, b)] else [(a, b)]
          readClass d fuel false rest (ranges ++ range)
      | cs => readClass d fuel false cs (ranges ++ [(a, a)])

/-- Letters in both cases. -/
def bothCases (r : Char × Char) : List (Char × Char) :=
  [r, (r.1.toLower, r.2.toLower), (r.1.toUpper, r.2.toUpper)]

/-- A character that stands for itself. -/
def literal (ignoreCase : Bool) (c : Char) : Regex :=
  if ignoreCase && c.isAlpha then .oneOf false [(c.toLower, c.toLower), (c.toUpper, c.toUpper)]
  else .char c

/-- A class after its opening bracket; a closing bracket at its beginning stands for itself. -/
def classOf (d : Dialect) (cs : List Char) : Except Flaw (Regex × List Char) := do
  let (negated, cs) := match cs with
    | '^' :: cs => (true, cs)
    | cs => (false, cs)
  let (ranges, rest) ← readClass d (cs.length + 1) true cs []
  return (.oneOf negated (if d.ignoreCase then ranges.flatMap bothCases else ranges), rest)

/-! ## Pieces -/

/-- The classes and borders that letters after a backslash stand for. -/
def escapedClass? : Char → Option Regex
  | 'w' => some (.oneOf false [('a', 'z'), ('A', 'Z'), ('0', '9'), ('_', '_')])
  | 'W' => some (.oneOf true [('a', 'z'), ('A', 'Z'), ('0', '9'), ('_', '_')])
  | 's' => some (.oneOf false [(' ', ' '), ('\t', '\x0d')])
  | 'S' => some (.oneOf true [(' ', ' '), ('\t', '\x0d')])
  | 'b' => some (.border .wordEdge)
  | 'B' => some (.border .noWordEdge)
  | '<' => some (.border .wordStart)
  | '>' => some (.border .wordEnd)
  | '\x60' => some (.border .textStart)
  | '\'' => some (.border .textEnd)
  | _ => none

/-- More classes and borders that letters after a backslash stand for. -/
def enlargedClass? : Char → Option Regex
  | 'd' => some (.oneOf false [('0', '9')])
  | 'D' => some (.oneOf true [('0', '9')])
  | 'h' => some (.oneOf false [(' ', ' '), ('\t', '\t')])
  | 'H' => some (.oneOf true [(' ', ' '), ('\t', '\t')])
  | 'A' => some (.border .textStart)
  | 'z' | 'Z' => some (.border .textEnd)
  | 'K' => some .mark
  | 'w' => escapedClass? 'w'
  | 'W' => escapedClass? 'W'
  | 's' => escapedClass? 's'
  | 'S' => escapedClass? 'S'
  | 'b' => escapedClass? 'b'
  | 'B' => escapedClass? 'B'
  | _ => none

/-- What is between an opening brace and its closing one, and what comes after it. -/
def splitBounds (extended : Bool) : List Char → Option (List Char × List Char)
  | [] => none
  | '\x7d' :: cs => if extended then some ([], cs) else (splitBounds extended cs).map fun (a, b) => ('\x7d' :: a, b)
  | '\\' :: '\x7d' :: cs =>
    if extended then (splitBounds extended cs).map fun (a, b) => ('\\' :: '\x7d' :: a, b) else some ([], cs)
  | c :: cs => (splitBounds extended cs).map fun (a, b) => (c :: a, b)

/-- The most that something can be repeated. -/
def repeatLimit : Nat := 32767

/-- The bounds of a repetition after its opening brace, and what comes after its closing one; nothing if
    they cannot be read and need not be. -/
def readBounds (d : Dialect) (cs : List Char) : Except Flaw (Option ((Nat × Option Nat) × List Char)) := do
  let number (ds : List Char) : Option Nat :=
    if ds.isEmpty || !ds.all Char.isDigit then none
    else some (ds.foldl (fun n d => n * 10 + (d.toNat - '0'.toNat)) 0)
  let unread (flaw : Flaw) : Except Flaw (Option ((Nat × Option Nat) × List Char)) :=
    if d.unreadBounds == .literal then .ok none else .error flaw
  match splitBounds d.extended cs with
  | none => unread .openBrace
  | some (inner, rest) =>
    let low := inner.takeWhile (· != ',')
    let high := (inner.dropWhile (· != ',')).drop 1
    let hasComma := inner.contains ','
    if inner.isEmpty then throw .badBounds
    match number low, number high with
    | least, most =>
      if (least.isNone && !low.isEmpty) || (most.isNone && !high.isEmpty) then unread .badBounds
      else
        let least := least.getD 0
        let most := if hasComma then most else some least
        if most.any (· < least) then throw .badBounds
        else if repeatLimit < most.getD least then throw .tooLarge
        else return some ((least, most), rest)

/-- What has been read: patterns that follow each other, last first, and alternatives to them. -/
structure Draft where
  parts : List Regex
  before : Option Regex
  /-- The number of groups so far. -/
  groups : Nat
  /-- The groups that have ended. -/
  closed : List Nat

/-- The pattern that has been read. -/
def Draft.close (d : Draft) : Regex :=
  let last := d.parts.foldl (fun r part => match r with
    | .empty => part
    | r => .seq part r) .empty
  match d.before with
  | none => last
  | some r => .either r last

/-- The pattern with another part. -/
def Draft.push (d : Draft) (r : Regex) : Draft := { d with parts := r :: d.parts }

/-- The pattern with its last part repeated. -/
def Draft.repeat (d : Draft) (least : Nat) (most : Option Nat) : Draft :=
  match d.parts with
  | [] => d
  | part :: parts => { d with parts := .many least most part :: parts }

/-- An alternative begins. -/
def Draft.alternate (d : Draft) : Draft := { d with before := some d.close, parts := [] }

/-- Whether there is nothing that could be repeated. -/
def Draft.isBare (d : Draft) : Bool :=
  match d.parts with
  | [] | .border _ :: _ => true
  | _ => false

/-- Whether the last part is a repetition. -/
def Draft.isRepeated (d : Draft) : Bool :=
  match d.parts with
  | .many .. :: _ => true
  | _ => false

/-- The pattern with its last repetition taken as seldom as possible. -/
def Draft.makeFew (d : Draft) : Draft :=
  match d.parts with
  | .many least most r :: parts => { d with parts := .few least most r :: parts }
  | _ => d

/-- What parentheses are for. -/
inductive Grouping where
  | numbered
  | plain
  | near (ahead negated : Bool)
  deriving DecidableEq

/-- What a piece of a pattern is. -/
inductive Piece where
  | part (r : Regex)
  | repeat (least : Nat) (most : Option Nat)
  | opening (how : Grouping)
  /-- What has been repeated is to be repeated as seldom as possible. -/
  | seldom
  | closing
  | bar
  | nothing

/-- Whether a line end can be meant: nothing follows in its group. -/
def isLast (extended : Bool) : List Char → Bool
  | [] => true
  | '\\' :: ')' :: _ | '\\' :: '|' :: _ => !extended
  | ')' :: _ | '|' :: _ => extended
  | _ => false

/-- A sign that repeats what stands before it, if something does. -/
def repetition (d : Dialect) (draft : Draft) (c : Char) (least : Nat) (most : Option Nat) (rest : List Char) :
    Except Flaw (Piece × List Char) :=
  if draft.isBare && (d.strayRepeat != .skipped || draft.parts.isEmpty) then
    match d.strayRepeat with
    | .refused => .error .nothingToRepeat
    | .skipped => .ok (.nothing, rest)
    | .literal => .ok (.part (literal d.ignoreCase c), rest)
  else if c == '*' && draft.isRepeated && !d.repeatsAgain then .error .nothingToRepeat
  else .ok (.repeat least most, rest)

/-- Bounds after their opening brace. -/
def bounded (d : Dialect) (draft : Draft) (cs : List Char) : Except Flaw (Piece × List Char) := do
  let plain := (Piece.part (.char '\x7b'), cs)
  if draft.isBare then
    match d.strayBounds with
    | .refused => throw .nothingToRepeat
    | .skipped => return ((← readBounds d cs).map fun (_, rest) => (.nothing, rest)).getD plain
    | .literal => return plain
  else if draft.isRepeated && !d.repeatsAgain then throw .nothingToRepeat
  else
    match ← readBounds d cs with
    | some ((least, most), rest) => return (.repeat least most, rest)
    | none => return plain

/-- A piece that begins with a backslash. -/
def escapedPiece (d : Dialect) (draft : Draft) (e : Char) (rest : List Char) : Except Flaw (Piece × List Char) :=
  if e.isDigit && e != '0' && d.namesClasses then
    let number := e.toNat - '0'.toNat
    if draft.closed.contains number then .ok (.part (.again number), rest) else .error .noSuchGroup
  else if !d.extended && e == '(' then .ok (.opening .numbered, rest)
  else if !d.extended && e == ')' then .ok (.closing, rest)
  else if !d.extended && e == '|' then .ok (.bar, rest)
  else if !d.extended && e == '+' then repetition d draft '+' 1 none rest
  else if !d.extended && e == '?' then repetition d draft '?' 0 (some 1) rest
  else if !d.extended && e == '\x7b' then bounded d draft rest
  else
    let classes := if d.enlarged then enlargedClass? e else escapedClass? e
    match if d.namesClasses then classes else none, if d.namesControls then escapedLetter? e else none with
    | some r, _ => .ok (.part r, rest)
    | none, some x => .ok (.part (.char x), rest)
    | none, none => .ok (.part (literal d.ignoreCase e), rest)

/-- What parentheses are for, after the opening one and a question mark, and what comes after that. -/
def groupingOf : List Char → Option (Piece × List Char)
  | ':' :: cs => some (.opening .plain, cs)
  | '=' :: cs => some (.opening (.near true false), cs)
  | '!' :: cs => some (.opening (.near true true), cs)
  | '<' :: '=' :: cs => some (.opening (.near false false), cs)
  | '<' :: '!' :: cs => some (.opening (.near false true), cs)
  | '#' :: cs => some (.nothing, (cs.dropWhile (· != ')')).drop 1)
  | _ => none

/-- The next piece of a pattern, and what comes after it. -/
def nextPiece (d : Dialect) (draft : Draft) (c : Char) (cs : List Char) : Except Flaw (Piece × List Char) :=
  let plain := (Piece.part (literal d.ignoreCase c), cs)
  match c with
  | '.' => .ok (.part .any, cs)
  | '[' => (classOf d cs).map fun (r, rest) => (.part r, rest)
  | '*' => repetition d draft '*' 0 none cs
  | '^' =>
    if draft.isBare || d.extended then .ok (.part (.border (if d.byLine then .lineStart else .textStart)), cs)
    else .ok plain
  | '$' =>
    if d.extended || isLast d.extended cs then .ok (.part (.border (if d.byLine then .lineEnd else .textEnd)), cs)
    else .ok plain
  | '+' =>
    if d.enlarged && draft.isRepeated then .ok (.nothing, cs)
    else if d.extended then repetition d draft '+' 1 none cs
    else .ok plain
  | '?' =>
    if d.enlarged && draft.isRepeated then .ok (.seldom, cs)
    else if d.extended then repetition d draft '?' 0 (some 1) cs
    else .ok plain
  | '(' =>
    match if d.enlarged && cs.head? == some '?' then groupingOf (cs.drop 1) else none with
    | some piece => .ok piece
    | none => .ok (if d.extended then (.opening .numbered, cs) else plain)
  | ')' => .ok (if d.extended then (.closing, cs) else plain)
  | '|' => .ok (if d.extended then (.bar, cs) else plain)
  | '\x7b' => if d.extended && d.hasBounds then bounded d draft cs else .ok plain
  | '\\' =>
    match cs with
    | [] => if d.namesControls then .ok plain else .error .trailingBackslash
    | e :: rest => escapedPiece d draft e rest
  | _ => .ok plain

/-- Whether an alternative lacks what it must have. -/
def lacksOperand (d : Dialect) (draft : Draft) : Bool := d.needsOperands && draft.parts.isEmpty

/-- Reads a pattern; the groups that are open, innermost first, and their numbers. `fuel` is more than
    the number of characters. -/
def readAll (d : Dialect) : Nat → List Char → Draft → List (Grouping × Nat × Draft) → Except Flaw Regex
  | 0, _, draft, outer | _, [], draft, outer =>
    if !outer.isEmpty then .error .openParenthesis
    else if lacksOperand d draft && draft.before.isSome then .error .nothingToRepeat
    else .ok draft.close
  | fuel + 1, c :: cs, draft, outer => do
    match ← nextPiece d draft c cs with
    | (.part r, rest) => readAll d fuel rest (draft.push r) outer
    | (.repeat least most, rest) => readAll d fuel rest (draft.repeat least most) outer
    | (.nothing, rest) => readAll d fuel rest draft outer
    | (.seldom, rest) => readAll d fuel rest draft.makeFew outer
    | (.bar, rest) =>
      if lacksOperand d draft then throw .nothingToRepeat
      readAll d fuel rest draft.alternate outer
    | (.opening how, rest) =>
      let number := if how == .numbered then draft.groups + 1 else draft.groups
      readAll d fuel rest { parts := [], before := none, groups := number, closed := draft.closed }
        ((how, number, draft) :: outer)
    | (.closing, rest) =>
      match outer with
      | [] =>
        if d.strayClosing == .literal then readAll d fuel rest (draft.push (.char ')')) []
        else throw .closingParenthesis
      | (how, number, above) :: outer =>
        if lacksOperand d draft then throw .nothingToRepeat
        let (whole, closed) := match how with
          | .numbered => (Regex.group number draft.close, number :: draft.closed)
          | .plain => (.seq .empty draft.close, draft.closed)
          | .near ahead negated => (.near ahead negated draft.close, draft.closed)
        readAll d fuel rest { above.push whole with groups := draft.groups, closed } outer

/-- The pattern of a text. -/
def ofText (d : Dialect) (text : String) : Except Flaw Regex :=
  let cs := text.toList
  readAll d (cs.length + 1) cs { parts := [], before := none, groups := 0, closed := [] } []

/-- Whether brackets hold the name of a class that needs brackets of its own. Of brackets that are open,
    the characters are known. -/
def misplacesClass : Option (List Char) → List Char → Bool
  | _, [] => false
  | none, c :: cs => misplacesClass (if c == '[' then some [] else none) cs
  | some inner, c :: cs =>
    if c == ']' && inner.contains '[' && inner.getLast? == some ':' then
      misplacesClass (some ('-' :: inner.filter (· != '['))) cs
    else if c == ']' then
      (2 < inner.length && inner.head? == some ':' && inner.getLast? == some ':' && !inner.contains '-' &&
        !inner.contains '[') || misplacesClass none cs
    else misplacesClass (some (inner ++ [c])) cs

/-- What is said about the name of a class that needs brackets of its own. -/
def misplacedClass : String := "character class syntax is [[:space:]], not [:space:]"

/-- The pattern in which every character stands for itself. -/
def ofLiteral (ignoreCase : Bool) (text : String) : Regex :=
  text.toList.foldr (fun c r => .seq (literal ignoreCase c) r) .empty

end Regex

end Recap.Shell
