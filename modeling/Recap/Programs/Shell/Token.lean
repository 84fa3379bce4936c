import Recap.Programs.Shell.Command
import Recap.Text.Utf8

/-!
# Tokens of scripts

A script is read from its beginning, one token after the other. Inside words there can be commands
again, so that tokens and commands are read in turns: what is asked for is a `Goal`, and every function
here is given the means of reaching the goals inside its own.

## Contents
- `Reading`, `Reader` — what is left of a script, and what reads it.
- `Goal` — what can be asked for.
- `Token` — words, operators and redirections.
- `readWord`, `Reader.token` — reading words and tokens.
- `takeDocuments` — reading the texts that redirections lead to.
-/

namespace Recap.Shell

/-! ## Readers -/

/-- A token. -/
inductive Token where
  | ending
  | newline
  | operator (sign : String)
  | word (w : Word)
  | redirect (channel : Option Nat) (sign : String)

/-- A text in the script that a redirection leads to, whose lines come later. -/
structure Document where
  number : Nat
  /-- The line behind the last. -/
  ending : String
  /-- Whether tabs at the beginnings of lines do not count. -/
  indented : Bool
  /-- Whether nothing in it is replaced. -/
  literal : Bool

/-- What is left of a script. -/
structure Reading where
  rest : List Char
  line : Nat
  /-- A token that was read, but is still to be used. -/
  held : Option Token
  /-- Texts whose lines come after the next newline. -/
  awaited : List Document
  /-- Texts that have been read. -/
  documents : List (Nat × Word)
  /-- The number of texts that redirections lead to. -/
  documentCount : Nat
  /-- Whether the larger set of signs has a meaning. -/
  enlarged : Bool
  /-- Whether patterns can hold groups. -/
  grouped : Bool
  /-- The whole script. -/
  source : String
  /-- The token that was read last, as it is written, but for ends of lines. -/
  lastToken : String
  /-- The line of the quote that was opened last. -/
  openLine : Nat

/-- What is wrong with a script. -/
inductive Flaw where
  /-- A token that cannot stand where it does. -/
  | token (text : String)
  /-- A script that ends too early. -/
  | ending
  /-- A sign whose partner is missing. -/
  | unclosed (sign : String)
  /-- A place inside a condition, and the cause, if there is one to name. -/
  | near (cause : Option String) (text : String)
  | other

/-- What is wrong with a script, and on which line. -/
structure Misreading where
  line : Nat
  message : String
  flaw : Flaw

/-- A sign whose partner is missing, on another line. -/
def Misreading.onLine (line : Nat) (m : Misreading) : Misreading :=
  match m.flaw with
  | .unclosed _ => { m with line }
  | _ => m

/-- Reads a script. -/
abbrev Reader := StateT Reading (Except Misreading)

/-- How a list of commands ends. -/
inductive ListEnd where
  /-- At the end of a line. -/
  | line
  /-- At a word that ends it; it has a command. -/
  | sign
  /-- At a word that ends it; it can be empty. -/
  | signOrEmpty
  deriving DecidableEq

/-- Where parts of words stand. -/
inductive Surroundings where
  | bare
  | quotes
  | braces (quoted : Bool)
  /-- In a replacement, up to a slash or a brace. -/
  | slashes
  | sum
  | document
  /-- In a group of a pattern, up to a parenthesis. -/
  | group
  /-- Up to a closing bracket. -/
  | key
  /-- A pattern that a condition asks for, up to a blank. -/
  | regex
  deriving DecidableEq

/-- What can be asked for. -/
inductive Goal where
  | list (ending : ListEnd)
  | command
  | parts (s : Surroundings)

/-- What is had when a goal is reached. -/
@[reducible] def Goal.Result : Goal → Type
  | .list _ => Option Command
  | .command => Command
  | .parts _ => Word

/-- Reaches goals. -/
abbrev Reach := (g : Goal) → Reader g.Result

namespace Reader

/-- Complains about the script. -/
def fail {α : Type} (message : String) : Reader α := fun s => .error ⟨s.line, message, .other⟩

/-- Complains about a sign whose partner is missing. -/
def failOpen {α : Type} (sign message : String) : Reader α := fun s =>
  let line := if s.enlarged && sign != ")" then s.openLine else s.line
  .error ⟨line, message, .unclosed sign⟩

/-- What is wrong with a token, as it was read last. -/
def flawOf (t : Token) (s : Reading) : Flaw :=
  match t with
  | .ending => .ending
  | .newline => .token "newline"
  | _ => .token s.lastToken

/-- Complains about a token, which was read last. -/
def failToken {α : Type} (t : Token) (message : String) : Reader α := fun s =>
  let line := match t with
    | .newline => if s.enlarged then s.line - 1 else s.line
    | _ => s.line
  .error ⟨line, message, flawOf t s⟩

/-- Notes that a quote opens here. -/
def opened : Reader Unit := modify fun s => { s with openLine := s.line }

/-- The next character. -/
def peek : Reader (Option Char) := do return (← get).rest.head?

/-- Takes the next character. -/
def take : Reader (Option Char) := do
  match (← get).rest with
  | [] => return none
  | c :: cs =>
    modify fun s => { s with rest := cs, line := if c == '\n' then s.line + 1 else s.line }
    return some c

/-- Leaves out characters. -/
def skip (count : Nat) : Reader Unit :=
  modify fun s =>
    { s with rest := s.rest.drop count, line := s.line + (s.rest.take count).count '\n' }

/-- Takes the characters that satisfy a condition. -/
def takeWhile (p : Char → Bool) : Reader String := do
  let cs := (← get).rest.takeWhile p
  skip cs.length
  return String.ofList cs

/-- Whether a text comes next; if so, it is taken. -/
def accept (text : String) : Reader Bool := do
  if text.toList.isPrefixOf (← get).rest then
    skip text.length
    return true
  else return false

/-- Reads another text, then goes on with this one. -/
def within {α : Type} (text : List Char) (line : Nat) (r : Reader α) : Reader α := do
  let s ← get
  set { s with rest := text, line, held := none, awaited := [] }
  let a ← r
  modify fun s' => { s' with rest := s.rest, line := s.line, held := s.held, awaited := s.awaited }
  return a

/-- Reads in one way or, where that fails but not at the end, in another from the same place. -/
def insteadOf {α : Type} (one other : Reader α) : Reader α := fun s =>
  match one.run s with
  | .error m =>
    match m.flaw with
    | .unclosed _ => .error (m.onLine s.line)
    | _ => (other.run s).mapError (·.onLine s.line)
  | found => found

/-- Keeps a token for later. -/
def hold (t : Token) : Reader Unit := modify fun s => { s with held := some t }

end Reader

open Reader

/-! ## Parts of words -/

/-- Whether the values of parts stand between quotes. -/
def Surroundings.isQuoted : Surroundings → Bool
  | .bare | .braces false | .slashes | .group | .regex => false
  | .quotes | .braces true | .sum | .document | .key => true

/-- Adds a part; texts of one kind are joined. -/
def addPart (parts : Word) (p : Part) : Word :=
  match parts.getLast?, p with
  | some (.text s q), .text s' q' => if q == q' then parts.dropLast ++ [.text (s ++ s') q] else parts ++ [p]
  | _, p => parts ++ [p]

/-- Adds parts. -/
def addParts (parts more : Word) : Word := more.foldl addPart parts

/-- Characters up to a single quote. -/
def readSingle : Reader String := do
  opened
  let text ← takeWhile (· != '\'')
  if (← take).isNone then failOpen "'" "Unterminated quoted string"
  return text

/-- Whether a backslash takes the meaning of a character in double quotes. -/
def isEscapable (s : Surroundings) (c : Char) : Bool :=
  "$\x60\\".toList.contains c || (c == '"' && (s == .quotes || s == .braces true)) ||
    (c == '\x7d' && s == .braces true)

/-- Characters up to the end of a command between backward quotes, with backslashes taken away.
    `fuel` is at least the number of characters. -/
def readBackward (quoted : Bool) : Nat → List Char → Reader (List Char)
  | 0, _ => failOpen "\x60" "EOF in backquote substitution"
  | fuel + 1, done => do
    match ← take with
    | none => failOpen "\x60" "EOF in backquote substitution"
    | some '\x60' => return done.reverse
    | some '\\' =>
      match ← peek with
      | some '\n' =>
        skip 1
        readBackward quoted fuel done
      | some c =>
        if "$\x60\\".toList.contains c || (quoted && c == '"') then
          skip 1
          readBackward quoted fuel (c :: done)
        else readBackward quoted fuel ('\\' :: done)
      | none => readBackward quoted fuel ('\\' :: done)
    | some c => readBackward quoted fuel (c :: done)

/-- A command between backward quotes. -/
def readOldCommand (reach : Reach) (quoted : Bool) : Reader Part := do
  let line := (← get).line
  opened
  let text ← readBackward quoted ((← get).rest.length + 1) []
  let body ← within text line (reach (.list .signOrEmpty))
  return .command (body.getD .nothing) quoted

/-- A command between parentheses. -/
def readCommandPart (reach : Reach) (quoted : Bool) : Reader Part := do
  let s ← get
  set { s with held := none, awaited := [] }
  let body ← reach (.list .signOrEmpty)
  let last := (← get).held
  modify fun s' => { s' with held := s.held, awaited := s.awaited }
  let missing := " unexpected (expecting \")\")"
  match last.getD .newline with
  | .operator ")" => return .command (body.getD .nothing) quoted
  | .ending => failOpen ")" ("end of file" ++ missing)
  | .operator sign => failToken (.operator sign) ("\"" ++ sign ++ "\"" ++ missing)
  | .word w =>
    failToken (.word w) ((match bareText? w with | some t => "\"" ++ t ++ "\"" | none => "word") ++ missing)
  | .redirect channel sign => failToken (.redirect channel sign) ("redirection" ++ missing)
  | .newline => failToken .newline ("newline" ++ missing)

/-- A piece of a value, after its colon. -/
def readPiece (reach : Reach) : Reader Modifier := do
  let word ← reach (.parts (.braces false))
  let cut := splitAtColon word
  match cut with
  | (offset, none) => return .piece offset none
  | (offset, some length) => return .piece offset (some length)
where
  /-- A word up to its first colon that is written plainly and outside of a choice, and what comes after
      it. -/
  splitAtColon : Word → Word × Option Word
    | [] => ([], none)
    | .text s false :: parts =>
      let front := s.toList.takeWhile (· != ':')
      match s.toList.drop front.length with
      | _ :: back => ([.text (String.ofList front) false], some (.text (String.ofList back) false :: parts))
      | [] =>
        let (more, rest) := splitAtColon parts
        (.text s false :: more, rest)
    | p :: parts =>
      let (more, rest) := splitAtColon parts
      (p :: more, rest)

/-- A replacement in a value, after its slash. -/
def readReplacement (reach : Reach) : Reader Modifier := do
  let spread : Spread ← match (← get).rest with
    | '/' :: _ => (do skip 1; pure .everywhere)
    | '#' :: _ => (do skip 1; pure .atFront)
    | '%' :: _ => (do skip 1; pure .atEnd)
    | _ => pure .once
  let pattern ← reach (.parts .slashes)
  if ← accept "/" then return .replaced spread pattern (← reach (.parts (.braces false)))
  else
    skip 1
    return .replaced spread pattern []

/-- What only the larger language makes of a value, from its first sign on. -/
def readLargeModifier (reach : Reach) (c : Char) : Reader Modifier := do
  match c with
  | ':' =>
    match (← get).rest with
    | '\x7d' :: _ =>
      skip 1
      return .bad ""
    | _ => readPiece reach
  | '/' => readReplacement reach
  | '^' | ',' =>
    let all ← accept c.toString
    return .cased (c == '^') all (← reach (.parts (.braces false)))
  | '@' =>
    match (← get).rest with
    | letter :: '\x7d' :: _ =>
      skip 2
      return if "QUuLEPAaKk".toList.contains letter then .converted letter else .bad ""
    | _ =>
      let _ ← reach (.parts (.braces false))
      return .bad ""
  | _ =>
    let _ ← reach (.parts (.braces false))
    return .bad ""

/-- What is made of a parameter's value, after its name between braces and up to the closing brace. -/
def readModifier (reach : Reach) (quoted : Bool) : Reader Modifier := do
  let word := reach (.parts (.braces quoted))
  let trimmed (sign : Char) : Reader Modifier := do
    skip 1
    let longest ← accept sign.toString
    return .trimmed (sign == '%') longest (← reach (.parts (.braces false)))
  match (← get).rest with
  | '\x7d' :: _ => skip 1; return .plain
  | '-' :: _ => skip 1; return .fallback .use false (← word)
  | '=' :: _ => skip 1; return .fallback .assign false (← word)
  | '?' :: _ => skip 1; return .fallback .refuse false (← word)
  | '+' :: _ => skip 1; return .fallback .instead false (← word)
  | ':' :: '-' :: _ => skip 2; return .fallback .use true (← word)
  | ':' :: '=' :: _ => skip 2; return .fallback .assign true (← word)
  | ':' :: '?' :: _ => skip 2; return .fallback .refuse true (← word)
  | ':' :: '+' :: _ => skip 2; return .fallback .instead true (← word)
  | '#' :: _ => trimmed '#'
  | '%' :: _ => trimmed '%'
  | c :: _ =>
    if (← get).enlarged then
      skip 1
      readLargeModifier reach c
    else
      skip 1
      let _ ← reach (.parts (.braces quoted))
      return .bad ""
  | [] => failOpen "\x7d" "Missing '\x7d'"

/-- The name of a parameter. -/
def readParameterName : Reader String := do
  match (← get).rest with
  | c :: _ =>
    if startsName c then takeWhile continuesName
    else if c.isDigit then takeWhile Char.isDigit
    else if isSpecialParameter c then
      skip 1
      return c.toString
    else return ""
  | [] => failOpen "\x7d" "Missing '\x7d'"

/-- Whether the length of a parameter is asked for. -/
def isLengthSign : List Char → Bool
  | '#' :: c :: d :: _ =>
    if c == '-' || c == '?' then d == '\x7d' else startsName c || c.isDigit || isSpecialParameter c
  | ['#', c] => startsName c
  | _ => false

/-- Whether a parameter is named by another. -/
def isIndirectSign (enlarged : Bool) : List Char → Bool
  | '!' :: c :: _ => enlarged && (startsName c || c.isDigit || c == '@' || c == '*' || c == '#')
  | _ => false

/-- The key of a table behind its name. -/
def readKey? (reach : Reach) (name : String) : Reader (Option Word) := do
  if (← get).enlarged && isName name then
    if ← accept "[" then return some (← reach (.parts .key)) else return none
  else return none

/-- What is made of a parameter that is named by another. -/
def readIndirect (reach : Reach) (key : Option Word) (quoted : Bool) : Reader Modifier := do
  let isAll := match key.bind bareKey? with
    | some s => s == "@" || s == "*"
    | none => false
  match (← get).rest with
  | '*' :: '\x7d' :: _ | '@' :: '\x7d' :: _ =>
    skip 2
    return .names
  | '\x7d' :: _ =>
    skip 1
    return if isAll then .keys else .indirect .plain
  | _ => return .indirect (← readModifier reach quoted)
where
  /-- The text of a key that is one plain text. -/
  bareKey? : Word → Option String
    | [.text s _] => some s
    | _ => none

/-- A parameter after its opening brace. -/
def readBraced (reach : Reach) (quoted : Bool) : Reader Part := do
  opened
  let start := (← get).rest
  let isLength := isLengthSign start
  let isIndirect := isIndirectSign (← get).enlarged start
  if isLength || isIndirect then skip 1
  let name ← readParameterName
  let key ← if name.isEmpty then pure none else readKey? reach name
  let m ← if name.isEmpty then do
      let _ ← reach (.parts (.braces quoted))
      pure (Modifier.bad "")
    else if isLength then do
      if ← accept "\x7d" then pure Modifier.length
      else
        let _ ← reach (.parts (.braces quoted))
        pure (Modifier.bad "")
    else if isIndirect then readIndirect reach key quoted
    else readModifier reach quoted
  match m with
  | .bad _ =>
    let written := String.ofList (start.take (start.length - (← get).rest.length))
    return .parameter name none (.bad ("$\x7b" ++ written)) quoted
  | m => return .parameter name key m quoted

/-- What stands after a dollar sign. -/
def readDollar (reach : Reach) (s : Surroundings) : Reader Part := do
  let quoted := s.isQuoted
  match (← get).rest with
  | '(' :: '(' :: _ =>
    let sum : Reader Part := do
      skip 2
      return .arithmetic (← reach (.parts .sum)) quoted
    if (← get).enlarged then
      insteadOf sum do
        skip 1
        readCommandPart reach quoted
    else sum
  | '(' :: _ =>
    skip 1
    readCommandPart reach quoted
  | '\x7b' :: _ =>
    skip 1
    readBraced reach quoted
  | c :: _ =>
    if startsName c then return .parameter (← takeWhile continuesName) none .plain quoted
    else if c.isDigit || isSpecialParameter c then
      skip 1
      return .parameter c.toString none .plain quoted
    else return .text "$" quoted
  | [] => return .text "$" quoted

/-- The byte that a letter after a backslash stands for between a dollar sign's quotes. -/
def quotedEscape? : Char → Option UInt8
  | 'n' => some 10
  | 't' => some 9
  | 'r' => some 13
  | 'a' => some 7
  | 'b' => some 8
  | 'e' | 'E' => some 27
  | 'f' => some 12
  | 'v' => some 11
  | '\\' => some 92
  | '\'' => some 39
  | '"' => some 34
  | '?' => some 63
  | _ => none

/-- The value of a digit up to base sixteen. -/
def hexValue? (c : Char) : Option Nat :=
  if c.isDigit then some (c.toNat - '0'.toNat)
  else if 'a' ≤ c && c ≤ 'f' then some (c.toNat - 'a'.toNat + 10)
  else if 'A' ≤ c && c ≤ 'F' then some (c.toNat - 'A'.toNat + 10)
  else none

/-- A number of at most so many digits in a base; nothing where there are none. -/
def takeCoded (base most : Nat) : Reader (Option Nat) := do
  let digits := ((← get).rest.take most).takeWhile fun c => ((hexValue? c).filter (· < base)).isSome
  skip digits.length
  if digits.isEmpty then return none
  else return some (digits.foldl (fun n c => n * base + (hexValue? c).getD 0) 0)

/-- The bytes of what follows a backslash between a dollar sign's quotes. -/
def readEscape (c : Char) : Reader (List UInt8) := do
  let coded (base most : Nat) (bytes : Nat → List UInt8) : Reader (List UInt8) := do
    match ← takeCoded base most with
    | some n => return bytes n
    | none => return 92 :: String.utf8EncodeChar c
  let wide (n : Nat) : List UInt8 := Text.bytes (Text.codeOrEscape n)
  if c == 'x' then coded 16 2 fun n => [UInt8.ofNat n]
  else if c == 'u' then coded 16 4 wide
  else if c == 'U' then coded 16 8 wide
  else if c == 'c' then
    match ← take with
    | some d => return [UInt8.ofNat (d.toUpper.toNat % 32)]
    | none => return [92, 99]
  else if '0' ≤ c && c ≤ '7' then
    let more := ((← get).rest.take 2).takeWhile fun d => '0' ≤ d && d ≤ '7'
    skip more.length
    return [UInt8.ofNat ((c :: more).foldl (fun n d => n * 8 + (d.toNat - '0'.toNat)) 0)]
  else
    match quotedEscape? c with
    | some b => return [b]
    | none => return 92 :: String.utf8EncodeChar c

/-- Characters up to the single quote that closes those behind a dollar sign. `fuel` is at least the
    number of characters. -/
def readEscaped : Nat → List UInt8 → Reader String
  | 0, _ => failOpen "'" "Unterminated quoted string"
  | fuel + 1, done => do
    match ← take with
    | none => failOpen "'" "Unterminated quoted string"
    | some '\'' => return Text.decode (done.takeWhile (· != 0))
    | some '\\' =>
      match ← take with
      | none => failOpen "'" "Unterminated quoted string"
      | some c => readEscaped fuel (done ++ (← readEscape c))
    | some c => readEscaped fuel (done ++ String.utf8EncodeChar c)

/-! ## What is set -/

/-- What a word sets: a name or an element, in the place of its value or behind it, and its value. -/
def assignment? : Word → Option Assignment
  | .text s false :: parts =>
    let name := String.ofList (s.toList.takeWhile continuesName)
    let value (cs : List Char) (more : Word) : Word :=
      if cs.isEmpty then more else .text (String.ofList cs) false :: more
    if !isName name then none
    else
      match s.toList.drop name.length, parts with
      | '=' :: cs, parts => some (.mk name none false (value cs parts))
      | '+' :: '=' :: cs, parts => some (.mk name none true (value cs parts))
      | [], .key k :: .text t false :: parts =>
        match t.toList with
        | '=' :: cs => some (.mk name (some k) false (value cs parts))
        | '+' :: '=' :: cs => some (.mk name (some k) true (value cs parts))
        | _ => none
      | _, _ => none
  | _ => none

/-- Whether a word sets something whose value has not been read yet. -/
def awaitsValue (w : Word) : Bool :=
  match assignment? w with
  | some (.mk _ _ _ []) => true
  | _ => false

/-- Whether a key that is open is followed by a sign that sets something. `fuel` is at least the number of
    characters. -/
def keySets : Nat → Nat → List Char → Bool
  | 0, _, _ | _, _, [] => false
  | fuel + 1, depth, '[' :: cs => keySets fuel (depth + 1) cs
  | fuel + 1, depth, ']' :: cs =>
    if depth == 0 then cs.head? == some '=' || cs.take 2 == ['+', '='] else keySets fuel (depth - 1) cs
  | _ + 1, _, '\n' :: _ => false
  | fuel + 1, depth, _ :: cs => keySets fuel depth cs

/-- Whether a word is a name and nothing else, as it is written. -/
def isNameSoFar : Word → Bool
  | [.text s false] => isName s
  | _ => false

/-- Leaves out blanks, line ends and comments. `fuel` is at least the number of characters. -/
def skipSpace : Nat → Reader Unit
  | 0 => return
  | fuel + 1 => do
    match (← get).rest with
    | ' ' :: _ | '\t' :: _ | '\n' :: _ =>
      skip 1
      skipSpace fuel
    | '\\' :: '\n' :: _ =>
      skip 2
      skipSpace fuel
    | '#' :: _ =>
      let _ ← takeWhile (· != '\n')
      skipSpace fuel
    | _ => return

/-- The values of a table up to the closing parenthesis. `fuel` is at least the number of characters. -/
def readTable (reach : Reach) :
    Nat → List (Option Word × Word) → Reader (List (Option Word × Word))
  | 0, done => return done
  | fuel + 1, done => do
    skipSpace ((← get).rest.length + 1)
    match (← get).rest with
    | [] => failOpen ")" "Missing ')'"
    | ')' :: _ =>
      skip 1
      return done
    | '[' :: cs =>
      if keySets cs.length 0 cs then
        skip 1
        let key ← reach (.parts .key)
        let _ ← accept "+"
        skip 1
        readTable reach fuel (done ++ [(some key, ← reach (.parts .bare))])
      else readTable reach fuel (done ++ [(none, ← reach (.parts .bare))])
    | c :: _ =>
      match ← reach (.parts .bare) with
      | [] =>
        modify fun s => { s with lastToken := c.toString }
        failToken (.operator c.toString) ("\"" ++ c.toString ++ "\" unexpected")
      | w => readTable reach fuel (done ++ [(none, w)])

/-! ## Parts that stand together -/

/-- Whether a bare word ends before a character. -/
def endsWord (c : Char) : Bool := " \t\n;&|<>()".toList.contains c

/-- Reads the parts that stand together, up to the sign that ends them. `depth` counts open parentheses
    in a sum; `fuel` is at least the number of characters. -/
def readPartsFrom (reach : Reach) (s : Surroundings) : Nat → Nat → Word → Reader Word
  | 0, _, parts => return parts
  | fuel + 1, depth, parts => do
    let again (p : Part) : Reader Word := readPartsFrom reach s fuel depth (addPart parts p)
    let plain (c : Char) : Reader Word := do
      skip 1
      again (.text c.toString s.isQuoted)
    let enlarged := (← get).enlarged
    match (← get).rest with
    | [] =>
      match s with
      | .bare | .document | .regex => return parts
      | .quotes => failOpen "\"" "Unterminated quoted string"
      | .braces _ | .slashes => failOpen "\x7d" "Missing '\x7d'"
      | .sum | .group => failOpen ")" "Missing '))'"
      | .key => failOpen "]" "Missing ']'"
    | '\\' :: '\n' :: _ =>
      skip 2
      readPartsFrom reach s fuel depth parts
    | '\\' :: c :: _ =>
      if !s.isQuoted || isEscapable s c then
        skip 2
        again (.text c.toString true)
      else
        skip 1
        again (.text "\\" true)
    | '$' :: '\'' :: _ =>
      if enlarged && (!s.isQuoted || s == .key) then
        skip 2
        opened
        again (.text (← readEscaped ((← get).rest.length + 1) []) true)
      else
        skip 1
        again (.text "$" s.isQuoted)
    | '$' :: '"' :: _ =>
      skip 1
      if enlarged && !s.isQuoted then readPartsFrom reach s fuel depth parts
      else again (.text "$" s.isQuoted)
    | '$' :: _ =>
      skip 1
      again (← readDollar reach s)
    | '\x60' :: _ =>
      skip 1
      again (← readOldCommand reach s.isQuoted)
    | '\'' :: _ =>
      if s.isQuoted && s != .key then plain '\''
      else
        skip 1
        again (.text (← readSingle) true)
    | '"' :: _ =>
      match s with
      | .quotes =>
        skip 1
        return parts
      | .document => plain '"'
      | .sum =>
        if enlarged then
          skip 1
          readPartsFrom reach s fuel depth parts
        else plain '"'
      | .bare | .braces _ | .slashes | .group | .key | .regex =>
        skip 1
        opened
        let inner ← reach (.parts .quotes)
        readPartsFrom reach s fuel depth (addParts parts (if inner.isEmpty then [.text "" true] else inner))
    | c :: cs =>
      match s with
      | .bare =>
        if enlarged && (c == '<' || c == '>') && cs.head? == some '(' then
          skip 2
          match ← readCommandPart reach false with
          | .command body _ => again (.process body (c == '>'))
          | p => again p
        else if enlarged && c == '(' && awaitsValue parts then
          skip 1
          again (.table (← readTable reach ((← get).rest.length + 1) []))
        else if enlarged && c == '[' && isNameSoFar parts && keySets cs.length 0 cs then
          skip 1
          again (.key (← reach (.parts .key)))
        else if (← get).grouped && "?*+@!".toList.contains c && cs.head? == some '(' then
          skip 2
          let inner ← reach (.parts .group)
          readPartsFrom reach s fuel depth
            (addParts parts (.text (String.ofList [c, '(']) false :: inner ++ [.text ")" false]))
        else if endsWord c then return parts
        else plain c
      | .quotes | .document => plain c
      | .braces _ =>
        if c == '\x7d' then
          skip 1
          return parts
        else plain c
      | .slashes => if c == '\x7d' || c == '/' then return parts else plain c
      | .sum =>
        if c == '(' then
          skip 1
          readPartsFrom reach s fuel (depth + 1) (addPart parts (.text "(" true))
        else if c == ')' && depth == 0 then
          if cs.head? == some ')' then
            skip 2
            return parts
          else fail "Missing '))'"
        else if c == ')' then
          skip 1
          readPartsFrom reach s fuel (depth - 1) (addPart parts (.text ")" true))
        else plain c
      | .group =>
        if c == ')' && depth == 0 then
          skip 1
          return parts
        else
          skip 1
          let depth := if c == '(' then depth + 1 else if c == ')' then depth - 1 else depth
          readPartsFrom reach s fuel depth (addPart parts (.text c.toString false))
      | .key =>
        if c == ']' && depth == 0 then
          skip 1
          return parts
        else
          skip 1
          let depth := if c == '[' then depth + 1 else if c == ']' then depth - 1 else depth
          readPartsFrom reach s fuel depth (addPart parts (.text c.toString true))
      | .regex =>
        if depth == 0 && (c == ' ' || c == '\t' || c == '\n' || c == ';') then return parts
        else
          skip 1
          let depth := if c == '(' then depth + 1 else if c == ')' then depth - 1 else depth
          readPartsFrom reach s fuel depth (addPart parts (.text c.toString false))

/-- Reads the parts that stand together. -/
def readParts (reach : Reach) (s : Surroundings) : Reader Word := do
  readPartsFrom reach s ((← get).rest.length + 1) 0 []

/-! ## Documents -/

/-- The lines of a document, and what comes after it. `fuel` is at least the number of characters. -/
def splitDocument (d : Document) : Nat → List Char → List Char × List Char
  | 0, cs => ([], cs)
  | _, [] => ([], [])
  | fuel + 1, cs =>
    let cs := if d.indented then cs.dropWhile (· == '\t') else cs
    let line := cs.takeWhile (· != '\n')
    let after := cs.drop (line.length + 1)
    if line == d.ending.toList then ([], after)
    else
      let (more, rest) := splitDocument d fuel after
      (cs.take (line.length + 1) ++ more, rest)

/-- Reads the documents that begin at this line. -/
def takeDocuments (reach : Reach) : Reader Unit := do
  let awaited := (← get).awaited
  modify fun s => { s with awaited := [] }
  for d in awaited do
    let s ← get
    let (body, rest) := splitDocument d (s.rest.length + 1) s.rest
    let word ← if d.literal then pure [Part.text (String.ofList body) true]
      else within body s.line (reach (.parts .document))
    modify fun s' =>
      { s' with
        rest, documents := s'.documents ++ [(d.number, word)]
        line := s.line + (s.rest.take (s.rest.length - rest.length)).count '\n' }

/-! ## Tokens -/

/-- Operators, the longest first. -/
def operators (enlarged : Bool) : List String :=
  (if enlarged then [";;&", ";&", "|&"] else []) ++ ["&&", "||", ";;", "&", "|", ";", "(", ")"]

/-- Signs of redirections, the longest first. -/
def redirectSigns (enlarged : Bool) : List String :=
  (if enlarged then ["<<<"] else []) ++ ["<<-", "<<", "<&", "<>", ">>", ">&", ">|", "<", ">"]

/-- Leaves out blanks and comments. `fuel` is at least the number of characters. -/
def skipBlanks : Nat → Reader Unit
  | 0 => return
  | fuel + 1 => do
    match (← get).rest with
    | ' ' :: _ | '\t' :: _ =>
      skip 1
      skipBlanks fuel
    | '\\' :: '\n' :: _ =>
      skip 2
      skipBlanks fuel
    | '#' :: _ =>
      let _ ← takeWhile (· != '\n')
    | _ => return

/-- The first of some texts that comes next; it is taken. -/
def acceptAny : List String → Reader (Option String)
  | [] => return none
  | text :: texts => do if ← accept text then return some text else acceptAny texts

/-- The channel that digits before a redirection sign name; nothing where they belong to a word. -/
def channelBefore? (enlarged : Bool) (cs : List Char) : Option Nat :=
  let digits := cs.takeWhile Char.isDigit
  match cs.drop digits.length with
  | c :: _ =>
    if (c == '<' || c == '>') && !digits.isEmpty && (enlarged || digits.length == 1) then
      some (digits.foldl (fun n d => n * 10 + (d.toNat - '0'.toNat)) 0)
    else none
  | [] => none

/-- The next token that is not held, after blanks. -/
def freshTokenHere (reach : Reach) : Reader Token := do
  let s ← get
  let isProcess := s.enlarged && (s.rest.take 2 == ['<', '('] || s.rest.take 2 == ['>', '('])
  match s.rest with
  | [] => return .ending
  | '\n' :: _ =>
    skip 1
    return .newline
  | '&' :: '>' :: cs =>
    if s.enlarged then
      let appends := cs.head? == some '>'
      skip (if appends then 3 else 2)
      return .redirect none (if appends then "&>>" else "&>")
    else
      skip 1
      return .operator "&"
  | cs =>
    if isProcess then return .word (← reach (.parts .bare))
    else
      match channelBefore? s.enlarged cs with
      | some channel =>
        let _ ← takeWhile Char.isDigit
        match ← acceptAny (redirectSigns s.enlarged) with
        | some sign => return .redirect (some channel) sign
        | none => return .ending
      | none =>
        match ← acceptAny (redirectSigns s.enlarged) with
        | some sign => return .redirect none sign
        | none =>
          match ← acceptAny (operators s.enlarged) with
          | some sign => return .operator sign
          | none => return .word (← reach (.parts .bare))

/-- The next token that is not held. -/
def freshToken (reach : Reach) : Reader Token := do
  skipBlanks ((← get).rest.length + 1)
  let before := (← get).rest
  let t ← freshTokenHere reach
  modify fun s =>
    { s with lastToken := match t with
        | .newline => s.lastToken
        | _ => String.ofList (before.take (before.length - s.rest.length)) }
  return t

/-- The next token. -/
def Reader.token (reach : Reach) : Reader Token := do
  match (← get).held with
  | some t =>
    modify fun s => { s with held := none }
    return t
  | none => freshToken reach

/-- The next token that is no newline. `fuel` is at least the number of characters. -/
def tokenAfterLines (reach : Reach) : Nat → Reader Token
  | 0 => token reach
  | fuel + 1 => do
    match ← token reach with
    | .newline =>
      takeDocuments reach
      tokenAfterLines reach fuel
    | t => return t

/-- The next token that is no newline. -/
def Reader.tokenPastLines (reach : Reach) : Reader Token := do
  tokenAfterLines reach ((← get).rest.length + 1)

end Recap.Shell
