import Recap.Programs.Shell.RegexText
import Recap.Programs.Tool.Rules.Value

/-!
# Rules for records

A script is made of rules: a pattern that says for which records, and a body that says what is done.

## Contents
- `Expr`, `Stmt`, `Rule`, `Script` — scripts.
- `Token`, `tokens` — the pieces that they are written in.
- `readExpr`, `readStmt`, `readScript` — reading scripts.
-/

namespace Recap.Tool.Rules

open Recap.Shell (Dialect Regex)

/-! ## Scripts -/

/-- An expression. -/
inductive Expr where
  | number (x : Float)
  | text (s : String)
  | regex (r : Regex)
  | variable (name : String)
  | element (table : String) (keys : List Expr)
  | field (e : Expr)
  /-- Something is set to a value, or to what an operator makes of it and a value. -/
  | assign (target : Expr) (sign : String) (value : Expr)
  /-- One is added or taken away; the value is that before or after it. -/
  | step (target : Expr) (up before : Bool)
  | negate (e : Expr)
  | minus (e : Expr)
  | plus (e : Expr)
  | binary (sign : String) (a b : Expr)
  | compare (sign : String) (a b : Expr)
  | fits (negated : Bool) (a b : Expr)
  | isIn (keys : List Expr) (table : String)
  | both (a b : Expr)
  | either (a b : Expr)
  | choose (test yes no : Expr)
  | call (name : String) (arguments : List Expr)
  | builtin (name : String) (arguments : List Expr)
  /-- Expressions between parentheses. -/
  | group (es : List Expr)
  /-- Reads a line: from a file, from a command, or from the records. -/
  | readLine (source : Option (Bool × Expr)) (target : Option Expr)

/-- Where something is written. -/
inductive Outlet where
  | file
  | append
  | command
  deriving DecidableEq

/-- A statement. -/
inductive Stmt where
  | block (ss : List Stmt)
  | eval (e : Expr)
  | print (formatted : Bool) (es : List Expr) (outlet : Option (Outlet × Expr))
  | choose (test : Expr) (yes : Stmt) (no : Option Stmt)
  | loop (test : Expr) (body : Stmt)
  | loopAfter (body : Stmt) (test : Expr)
  | count (first : Option Stmt) (test : Option Expr) (step : Option Stmt) (body : Stmt)
  | each (name table : String) (body : Stmt)
  | leave
  | goOn
  | next
  | exit (e : Option Expr)
  | answer (e : Option Expr)
  | delete (table : String) (keys : Option (List Expr))

/-- The records that a rule is for. -/
inductive Pattern where
  | first
  | last
  | always
  | holds (e : Expr)
  | range (a b : Expr)

/-- A rule; without a body, records are written. -/
structure Rule where
  pattern : Pattern
  body : Option Stmt

/-- A function. -/
structure Function where
  name : String
  parameters : List String
  body : Stmt

/-- A script. -/
structure Script where
  rules : List Rule
  functions : List Function

/-! ## Tokens -/

/-- A piece of a script. -/
inductive Token where
  | number (x : Float)
  | text (s : String)
  | regex (s : String)
  /-- A name, and whether a parenthesis follows it directly. -/
  | name (s : String) (calls : Bool)
  | keyword (s : String)
  | builtin (s : String)
  | sign (s : String)
  | newline
  | ending
  /-- What is no piece, and what is said about it. -/
  | flawed (message : String)

/-- Words with a meaning of their own. -/
def keywords : List String :=
  ["BEGIN", "END", "function", "func", "if", "else", "while", "for", "do", "break", "continue", "next",
    "nextfile", "exit", "return", "delete", "in", "getline", "print", "printf"]

/-- Functions that are there already. -/
def builtins : List String :=
  ["length", "substr", "index", "split", "sub", "gsub", "match", "toupper", "tolower", "sprintf", "int",
    "sqrt", "exp", "log", "sin", "cos", "atan2", "rand", "srand", "system", "close", "fflush"]

/-- Signs, the longest first. -/
def signs : List String :=
  ["&&", "||", "==", "<=", ">=", "!=", "!~", "++", "--", "+=", "-=", "*=", "/=", "%=", "^=", ">>",
    "\x7b", "\x7d", "(", ")", "[", "]", ";", ",", "+", "-", "*", "/", "%", "^", "!", ">", "<", "|",
    "?", ":", "~", "$", "="]

/-- Whether a slash after a token divides. -/
def Token.endsValue : Token → Bool
  | .number _ | .text _ | .name .. | .builtin _ => true
  | .sign s => s == ")" || s == "]" || s == "$" || s == "++" || s == "--"
  | .regex _ | .keyword _ | .newline | .ending | .flawed _ => false

/-- Whether a character is a digit in base sixteen. -/
def isHexDigit (c : Char) : Bool := c.isDigit || ('a' ≤ c.toLower && c.toLower ≤ 'f')

/-- The value of a digit in base sixteen. -/
def hexValue (c : Char) : Nat :=
  if c.isDigit then c.toNat - '0'.toNat else c.toLower.toNat - 'a'.toNat + 10

/-- A text after its opening quote, and what comes after it; nothing where it is not closed. `fuel` is at
    least the number of characters. -/
def takeText? : Nat → List Char → List Char → Option (String × List Char)
  | 0, _, _ | _, [], _ => none
  | _ + 1, '"' :: cs, done => some (String.ofList done.reverse, cs)
  | fuel + 1, '\\' :: c :: cs, done =>
    if '0' ≤ c && c ≤ '7' then
      let digits := ((c :: cs).takeWhile fun d => '0' ≤ d && d ≤ '7').take 3
      let n := digits.foldl (fun n d => n * 8 + (d.toNat - '0'.toNat)) 0
      takeText? fuel ((c :: cs).drop digits.length) (Char.ofNat (n % 256) :: done)
    else if c == '\n' then takeText? fuel cs done
    else if c == 'x' && (cs.head?.map isHexDigit).getD false then
      let digits := (cs.takeWhile isHexDigit).take 2
      takeText? fuel (cs.drop digits.length) (Char.ofNat (digits.foldl (fun n d => n * 16 + hexValue d) 0) :: done)
    else
      match Regex.escapedLetter? c with
      | some x => takeText? fuel cs (x :: done)
      | none =>
        if c == '"' || c == '\\' then takeText? fuel cs (c :: done)
        else if c == 'b' then takeText? fuel cs ('\x08' :: done)
        else takeText? fuel cs (c :: '\\' :: done)
  | fuel + 1, c :: cs, done => takeText? fuel cs (c :: done)

/-- A pattern after its opening slash, and what comes after it; nothing where it is not closed. `fuel` is
    at least the number of characters. -/
def takeRegex? : Nat → Bool → List Char → List Char → Option (String × List Char)
  | 0, _, _, _ | _, _, [], _ | _, _, '\n' :: _, _ => none
  | fuel + 1, inClass, '\\' :: c :: cs, done =>
    takeRegex? fuel inClass cs (if c == '/' then c :: done else c :: '\\' :: done)
  | fuel + 1, inClass, c :: cs, done =>
    if c == '/' && !inClass then some (String.ofList done.reverse, cs)
    else
      let nowIn := if inClass then c != ']' || done.head? == some '[' else c == '['
      takeRegex? fuel nowIn cs (c :: done)

/-- What is wrong with a script, and on which line. -/
structure Misreading where
  line : Nat
  message : String

/-- Where a piece stands: on which line, and in how many parentheses. -/
structure Spot where
  line : Nat
  depth : Nat

/-- The depth after a piece. -/
def Token.depthAfter (depth : Nat) : Token → Nat
  | .sign "(" => depth + 1
  | .sign ")" => depth - 1
  | _ => depth

/-- The pieces of a script with their places. `fuel` is at least the number of characters. -/
def tokens : Nat → Spot → Bool → List Char → List (Token × Spot)
  | 0, spot, _, _ | _, spot, _, [] => [(.ending, spot)]
  | fuel + 1, spot, afterValue, c :: cs =>
    let below : Spot := { spot with line := spot.line + 1 }
    let go (t : Token) (rest : List Char) : List (Token × Spot) :=
      (t, spot) :: tokens fuel { spot with depth := t.depthAfter spot.depth } t.endsValue rest
    let flawed (message : String) : List (Token × Spot) := [(.flawed message, spot)]
    if c == '\n' then (.newline, spot) :: tokens fuel below false cs
    else if c.isWhitespace then tokens fuel spot afterValue cs
    else if c == '\\' && cs.head? == some '\n' then tokens fuel below afterValue (cs.drop 1)
    else if c == '\\' && cs.take 2 == ['\r', '\n'] then tokens fuel below afterValue (cs.drop 2)
    else if c == '#' then tokens fuel spot afterValue (cs.dropWhile (· != '\n'))
    else if c == '"' then
      match takeText? (cs.length + 1) cs [] with
      | some (s, rest) => go (.text s) rest
      | none => flawed ("runaway string constant \"" ++ String.ofList (cs.takeWhile (· != '\n')) ++ " ...")
    else if c.isDigit || (c == '.' && (cs.head?.map Char.isDigit).getD false) then
      match takeReal? (c :: cs) with
      | some (x, rest) => go (.number x) rest
      | none => flawed ("syntax error at or near " ++ c.toString)
    else if c.isAlpha || c == '_' then
      let word := (c :: cs).takeWhile fun d => d.isAlphanum || d == '_'
      let rest := (c :: cs).drop word.length
      let s := String.ofList word
      if keywords.contains s then go (.keyword s) rest
      else if builtins.contains s then go (.builtin s) rest
      else go (.name s (rest.head? == some '(')) rest
    else if c == '/' && !afterValue then
      match takeRegex? (cs.length + 1) false cs [] with
      | some (s, rest) => go (.regex s) rest
      | none => flawed ("runaway regular expression /" ++ String.ofList (cs.takeWhile (· != '\n')) ++ " ...")
    else
      match signs.find? fun s => s.toList.isPrefixOf (c :: cs) with
      | some s =>
        if s == ")" && spot.depth == 0 then flawed "extra ')'" else go (.sign s) ((c :: cs).drop s.length)
      | none =>
        if c.toNat < 127 then flawed ("unexpected character '" ++ c.toString ++ "'")
        else flawed ("unexpected character 0x" ++ String.ofList (Nat.toDigits 16 c.toNat))

/-! ## Reading -/

/-- Reads pieces. -/
abbrev Reader := StateT (List (Token × Spot)) (Except Misreading)

/-- What an expression may not hold at its top. -/
structure Without where
  /-- No membership in a table. -/
  isIn : Bool
  /-- No comparison that is a redirection. -/
  greater : Bool

/-- What can be asked for. -/
inductive Goal where
  | expr (w : Without)
  | unary (w : Without)
  | stmt

/-- What is had when a goal is reached. -/
@[reducible] def Goal.Result : Goal → Type
  | .expr _ | .unary _ => Expr
  | .stmt => Stmt

/-- Reaches goals. -/
abbrev Reach := (g : Goal) → Reader g.Result

/-- Anything may stand in an expression. -/
def anything : Without := ⟨false, false⟩

/-- The next piece. -/
def peek : Reader Token := do return ((← get).head?.map (·.1)).getD .ending

/-- Takes a piece. -/
def advance : Reader Unit := modify (·.drop 1)

/-- How complaints name a piece. -/
def Token.label : Token → String
  | .number x => numberText "%.6g" x
  | .text s => s
  | .regex s => "/" ++ s ++ "/"
  | .name s _ | .keyword s | .builtin s | .sign s => s
  | .newline => "end of line"
  | .ending => "end of file"
  | .flawed message => message

/-- Where the next piece stands. -/
def spot : Reader Spot := do return ((← get).head?.map (·.2)).getD ⟨1, 0⟩

/-- Whether a piece ends what is open, at the latest. -/
def Token.closesAll : Token → Bool
  | .newline | .ending => true
  | .sign s => s == ";" || s == "\x7d"
  | _ => false

/-- Complains about the next piece. -/
def unexpected {α : Type} : Reader α := do
  let here ← spot
  let next ← peek
  let what := match next with
    | .flawed _ => ""
    | _ => if here.depth != 0 && next.closesAll then "missing ) near " else "syntax error at or near "
  throw ⟨here.line, what ++ next.label⟩

/-- Whether a sign comes next; if so, it is taken. -/
def accept (s : String) : Reader Bool := do
  match ← peek with
  | .sign t =>
    if s == t then
      advance
      return true
    else return false
  | _ => return false

/-- Takes a sign. -/
def expect (s : String) : Reader Unit := do if ← accept s then return else unexpected

/-- Leaves out ends of lines. -/
def skipLines : Reader Unit := modify fun ts => ts.dropWhile fun (t, _) => match t with
  | .newline => true
  | _ => false

/-- Leaves out ends of lines and statements. -/
def skipEnds : Reader Unit := modify fun ts => ts.dropWhile fun (t, _) => match t with
  | .newline => true
  | .sign s => s == ";"
  | _ => false

/-- How patterns are written here. -/
def dialect : Dialect :=
  { extended := true, namesControls := true, namesClasses := false, hasBounds := false
    needsOperands := true, strayRepeat := .refused, strayClosing := .literal, turnedRanges := true }

/-- The pattern of a text, or why it has none. -/
def regexOf (s : String) : Except String Regex :=
  (Regex.ofText dialect s).mapError fun flaw =>
    let cause := match flaw with
      | .openParenthesis => "missing ')'"
      | .nothingToRepeat =>
        if s.startsWith "^*" || s.startsWith "^+" then "syntax error ^* or ^+" else "missing operand"
      | _ => "bad class -- [], [^] or ["
    "regular expression compile failed (" ++ cause ++ ")\n" ++ s

/-- Expressions with commas between them. `fuel` is at least the number of pieces. -/
def readCommas (reach : Reach) (w : Without) : Nat → List Expr → Reader (List Expr)
  | 0, done => return done
  | fuel + 1, done => do
    let e ← reach (.expr w)
    if ← accept "," then
      skipLines
      readCommas reach w fuel (done ++ [e])
    else return done ++ [e]

/-- Expressions up to a closing sign. -/
def readArguments (reach : Reach) (closing : String) : Reader (List Expr) := do
  skipLines
  if ← accept closing then return []
  let es ← readCommas reach anything (← get).length []
  skipLines
  expect closing
  return es

/-- Whether an expression can be set. -/
def Expr.isTarget : Expr → Bool
  | .variable _ | .element .. | .field _ => true
  | _ => false

/-- A name, and the keys behind it. -/
def readName (reach : Reach) (s : String) : Reader Expr := do
  if ← accept "[" then return .element s (← readArguments reach "]") else return .variable s

/-- What is set by reading a line: nothing but the record, or something that can be set. -/
def readTarget? (reach : Reach) : Reader (Option Expr) := do
  match ← peek with
  | .name s false =>
    advance
    return some (← readName reach s)
  | .sign "$" => return some (← reach (.unary anything))
  | _ => return none

/-- What has no operator on its outside. -/
def readPrimary (reach : Reach) : Reader Expr := do
  match ← peek with
  | .number x =>
    advance
    return .number x
  | .text s =>
    advance
    return .text s
  | .regex s =>
    advance
    match regexOf s with
    | .ok r => return .regex r
    | .error message => throw ⟨(← spot).line, message⟩
  | .name s true =>
    advance
    expect "("
    return .call s (← readArguments reach ")")
  | .name s false =>
    advance
    readName reach s
  | .builtin s =>
    advance
    if ← accept "(" then return .builtin s (← readArguments reach ")") else return .builtin s []
  | .sign "$" =>
    advance
    match ← peek with
    | .sign "++" | .sign "--" | .sign "-" => return .field (← reach (.unary anything))
    | _ =>
      let inner ← readOperand reach
      return .field inner
  | .sign "(" =>
    advance
    let es ← readArguments reach ")"
    return .group es
  | .keyword "getline" =>
    advance
    let target ← readTarget? reach
    if ← accept "<" then return .readLine (some (false, ← readOperand reach)) target
    else return .readLine none target
  | _ => unexpected
where
  /-- What can stand behind a dollar sign. -/
  readOperand (reach : Reach) : Reader Expr := do
    match ← peek with
    | .number x =>
      advance
      return .number x
    | .text s =>
      advance
      return .text s
    | .name s false =>
      advance
      readName reach s
    | .sign "(" =>
      advance
      return .group (← readArguments reach ")")
    | .sign "$" =>
      advance
      return .field (← reach (.unary anything))
    | _ => unexpected

/-- What can be stepped up and down. -/
def readStepped (reach : Reach) : Reader Expr := do
  match ← peek with
  | .sign "++" =>
    advance
    return .step (← reach (.unary anything)) true false
  | .sign "--" =>
    advance
    return .step (← reach (.unary anything)) false false
  | _ =>
    let e ← readPrimary reach
    if e.isTarget then
      if ← accept "++" then return .step e true true
      else if ← accept "--" then return .step e false true
      else return e
    else return e

/-- A power. -/
def readPower (reach : Reach) (w : Without) : Reader Expr := do
  let e ← readStepped reach
  if ← accept "^" then return .binary "^" e (← reach (.unary w)) else return e

/-- An expression with a sign before it. -/
def readUnary (reach : Reach) (w : Without) : Reader Expr := do
  if ← accept "!" then return .negate (← reach (.unary w))
  else if ← accept "-" then return .minus (← reach (.unary w))
  else if ← accept "+" then return .plus (← reach (.unary w))
  else readPower reach w

/-- The first of some signs that comes next; it is taken. -/
def acceptAny : List String → Reader (Option String)
  | [] => return none
  | s :: ss => do if ← accept s then return some s else acceptAny ss

/-- Operators of one level, from the left. `fuel` is at least the number of pieces. -/
def readLevel (level : List String) (operand : Reader Expr) : Nat → Expr → Reader Expr
  | 0, a => return a
  | fuel + 1, a => do
    match ← acceptAny level with
    | some s => readLevel level operand fuel (.binary s a (← operand))
    | none => return a

/-- Products. -/
def readProduct (reach : Reach) (w : Without) : Reader Expr := do
  let a ← readUnary reach w
  readLevel ["*", "/", "%"] (readUnary reach w) (← get).length a

/-- Sums. -/
def readSum (reach : Reach) (w : Without) : Reader Expr := do
  let a ← readProduct reach w
  readLevel ["+", "-"] (readProduct reach w) (← get).length a

/-- Whether a piece can begin an expression that is put behind another. -/
def Token.beginsOperand : Token → Bool
  | .number _ | .text _ | .regex _ | .name .. | .builtin _ => true
  | .sign s => s == "$" || s == "!" || s == "(" || s == "-" || s == "+" || s == "++" || s == "--"
  | .keyword _ | .newline | .ending | .flawed _ => false

/-- Texts one behind the other. `fuel` is at least the number of pieces. -/
def readJoined (reach : Reach) (w : Without) : Nat → Expr → Reader Expr
  | 0, a => return a
  | fuel + 1, a => do
    if (← peek).beginsOperand then
      let b ← readSum reach w
      readJoined reach w fuel (.binary "" a b)
    else
      match ← get with
      | (.sign "|", _) :: (.keyword "getline", _) :: rest =>
        set rest
        let target ← readTarget? reach
        readJoined reach w fuel (.readLine (some (true, a)) target)
      | _ => return a

/-- Comparisons. -/
def readComparison (reach : Reach) (w : Without) : Reader Expr := do
  let first ← readSum reach w
  let a ← readJoined reach w (← get).length first
  let levels := ["==", "<=", ">=", "!=", "<"] ++ (if w.greater then [] else [">"])
  match ← acceptAny levels with
  | some s =>
    let first ← readSum reach w
    return .compare s a (← readJoined reach w (← get).length first)
  | none => return a

/-- Patterns that have to fit. `fuel` is at least the number of pieces. -/
def readFits (reach : Reach) (w : Without) : Nat → Expr → Reader Expr
  | 0, a => return a
  | fuel + 1, a => do
    match ← acceptAny ["~", "!~"] with
    | some s => readFits reach w fuel (.fits (s == "!~") a (← readComparison reach w))
    | none => return a

/-- Membership in tables. `fuel` is at least the number of pieces. -/
def readMembers (w : Without) : Nat → Expr → Reader Expr
  | 0, a => return a
  | fuel + 1, a => do
    match ← get with
    | (.keyword "in", _) :: (.name table _, _) :: rest =>
      if w.isIn then return a
      else
        set rest
        let keys := match a with
          | .group es => es
          | e => [e]
        readMembers w fuel (.isIn keys table)
    | _ => return a

/-- Conditions that all have to hold. `fuel` is at least the number of pieces. -/
def readBoth (part : Reader Expr) : Nat → Expr → Reader Expr
  | 0, a => return a
  | fuel + 1, a => do
    if ← accept "&&" then
      skipLines
      readBoth part fuel (.both a (← part))
    else return a

/-- Conditions of which one has to hold. `fuel` is at least the number of pieces. -/
def readEither (part : Reader Expr) : Nat → Expr → Reader Expr
  | 0, a => return a
  | fuel + 1, a => do
    if ← accept "||" then
      skipLines
      readEither part fuel (.either a (← part))
    else return a

/-- An expression. -/
def readExpr (reach : Reach) (w : Without) : Reader Expr := do
  let fuel := (← get).length
  let member : Reader Expr := do readMembers w fuel (← readFits reach w fuel (← readComparison reach w))
  let both : Reader Expr := do readBoth member fuel (← member)
  let e ← readEither both fuel (← both)
  if ← accept "?" then
    skipLines
    let yes ← reach (.expr w)
    skipLines
    expect ":"
    skipLines
    return .choose e yes (← reach (.expr w))
  else if e.isTarget then
    match ← acceptAny ["=", "+=", "-=", "*=", "/=", "%=", "^="] with
    | some s =>
      skipLines
      return .assign e (String.ofList s.toList.dropLast) (← reach (.expr w))
    | none => return e
  else return e

/-! ## Statements -/

/-- Takes what ends a simple statement. -/
def endStmt : Reader Unit := do
  match ← peek with
  | .newline | .sign ";" =>
    advance
    skipLines
  | .sign "\x7d" | .ending => return
  | _ => unexpected

/-- What is written, and where. -/
def readPrint (reach : Reach) (formatted : Bool) : Reader Stmt := do
  let es ← match ← peek with
    | .newline | .sign ";" | .sign "\x7d" | .sign ">" | .sign ">>" | .sign "|" | .ending => pure []
    | _ => readCommas reach ⟨false, true⟩ (← get).length []
  let es := match es with
    | [.group inner] => inner
    | es => es
  let outlet? : Option Outlet ← match ← acceptAny [">>", ">", "|"] with
    | some ">>" => pure (some .append)
    | some ">" => pure (some .file)
    | some _ => pure (some .command)
    | none => pure none
  match outlet? with
  | none => return .print formatted es none
  | some o =>
    let first ← readStepped reach
    let target ← readJoined reach ⟨false, true⟩ (← get).length first
    return .print formatted es (some (o, target))

/-- A statement without a body. -/
def readSimple (reach : Reach) : Reader Stmt := do
  match ← peek with
  | .keyword "print" =>
    advance
    readPrint reach false
  | .keyword "printf" =>
    advance
    readPrint reach true
  | .keyword "delete" =>
    advance
    match ← peek with
    | .name s _ =>
      advance
      if ← accept "[" then return .delete s (some (← readArguments reach "]")) else return .delete s none
    | _ => unexpected
  | _ => return .eval (← reach (.expr anything))

/-- A simple statement that may be missing. -/
def readSimple? (reach : Reach) (closing : String) : Reader (Option Stmt) := do
  match ← peek with
  | .sign s => if s == closing then return none else return some (← readSimple reach)
  | _ => return some (← readSimple reach)

/-- A body after a condition. -/
def readBody (reach : Reach) : Reader Stmt := do
  skipLines
  if ← accept ";" then return .block [] else reach .stmt

/-- Statements up to a closing brace. `fuel` is at least the number of pieces. -/
def readBlock (reach : Reach) : Nat → List Stmt → Reader Stmt
  | 0, _ => unexpected
  | fuel + 1, done => do
    skipEnds
    if ← accept "\x7d" then return .block done
    match ← peek with
    | .ending => throw ⟨(← spot).line, "missing \x7d near end of file"⟩
    | _ => readBlock reach fuel (done ++ [← reach .stmt])

/-- A loop after its keyword. -/
def readFor (reach : Reach) : Reader Stmt := do
  expect "("
  match ← get with
  | (.name x _, _) :: (.keyword "in", _) :: (.name table _, _) :: (.sign ")", _) :: rest =>
    set rest
    return .each x table (← readBody reach)
  | _ =>
    let first ← readSimple? reach ";"
    expect ";"
    skipLines
    let test ← readSimple? reach ";"
    expect ";"
    skipLines
    let step ← readSimple? reach ")"
    expect ")"
    let body ← readBody reach
    match test with
    | some (.eval e) => return .count first (some e) step body
    | none => return .count first none step body
    | some _ => unexpected

/-- A statement. -/
def readStmt (reach : Reach) : Reader Stmt := do
  let value? : Reader (Option Expr) := do
    match ← peek with
    | .newline | .sign ";" | .sign "\x7d" | .ending => return none
    | _ => return some (← reach (.expr anything))
  match ← peek with
  | .sign "\x7b" =>
    advance
    readBlock reach ((← get).length + 1) []
  | .keyword "if" =>
    advance
    expect "("
    let test ← reach (.expr anything)
    expect ")"
    let yes ← readBody reach
    let before ← get
    skipEnds
    match ← peek with
    | .keyword "else" =>
      advance
      return .choose test yes (some (← readBody reach))
    | _ =>
      set before
      return .choose test yes none
  | .keyword "while" =>
    advance
    expect "("
    let test ← reach (.expr anything)
    expect ")"
    return .loop test (← readBody reach)
  | .keyword "do" =>
    advance
    let body ← readBody reach
    skipEnds
    match ← peek with
    | .keyword "while" =>
      advance
      expect "("
      let test ← reach (.expr anything)
      expect ")"
      endStmt
      return .loopAfter body test
    | _ => unexpected
  | .keyword "for" =>
    advance
    readFor reach
  | .keyword "break" =>
    advance
    endStmt
    return .leave
  | .keyword "continue" =>
    advance
    endStmt
    return .goOn
  | .keyword "next" | .keyword "nextfile" =>
    advance
    endStmt
    return .next
  | .keyword "exit" =>
    advance
    let e ← value?
    endStmt
    return .exit e
  | .keyword "return" =>
    advance
    let e ← value?
    endStmt
    return .answer e
  | .sign ";" =>
    advance
    return .block []
  | _ =>
    let s ← readSimple reach
    endStmt
    return s

/-- Reaches goals whose nesting is no deeper than a number. -/
def reachWithin : Nat → Reach
  | 0, _ => unexpected
  | depth + 1, .expr w => readExpr (reachWithin depth) w
  | depth + 1, .unary w => readUnary (reachWithin depth) w
  | depth + 1, .stmt => readStmt (reachWithin depth)

/-! ## Whole scripts -/

/-- The names of parameters up to the closing parenthesis. `fuel` is at least the number of pieces. -/
def readParameters : Nat → List String → Reader (List String)
  | 0, done => return done
  | fuel + 1, done => do
    skipLines
    match ← peek with
    | .name s _ =>
      advance
      let _ ← accept ","
      readParameters fuel (done ++ [s])
    | _ =>
      expect ")"
      return done

/-- A rule after its pattern. -/
def readRule (reach : Reach) (p : Pattern) : Reader Rule := do
  match ← peek with
  | .sign "\x7b" => return ⟨p, some (← reach .stmt)⟩
  | .newline | .sign ";" | .ending =>
    match p with
    | .first | .last => unexpected
    | _ => return ⟨p, none⟩
  | _ => unexpected

/-- Rules and functions up to the end. `fuel` is at least the number of pieces. -/
def readItems (reach : Reach) : Nat → Script → Reader Script
  | 0, s => return s
  | fuel + 1, s => do
    skipEnds
    let add (r : Rule) : Script := { s with rules := s.rules ++ [r] }
    match ← peek with
    | .ending => return s
    | .sign "\x7d" => throw ⟨(← spot).line, "extra '\x7d'"⟩
    | .keyword "BEGIN" =>
      advance
      readItems reach fuel (add (← readRule reach .first))
    | .keyword "END" =>
      advance
      readItems reach fuel (add (← readRule reach .last))
    | .keyword "function" | .keyword "func" =>
      advance
      match ← peek with
      | .name name _ =>
        advance
        expect "("
        let parameters ← readParameters (← get).length []
        skipLines
        let body ← reach .stmt
        readItems reach fuel { s with functions := s.functions ++ [⟨name, parameters, body⟩] }
      | _ => unexpected
    | .sign "\x7b" => readItems reach fuel (add (← readRule reach .always))
    | _ =>
      let a ← reach (.expr anything)
      if ← accept "," then
        skipLines
        let b ← reach (.expr anything)
        readItems reach fuel (add (← readRule reach (.range a b)))
      else readItems reach fuel (add (← readRule reach (.holds a)))

/-- The script of a text. -/
def readScript (text : String) : Except Misreading Script := do
  let cs := text.toList ++ ['\n']
  let ts := tokens (cs.length + 1) ⟨1, 0⟩ false cs
  let (s, _) ← (readItems (reachWithin (3 * ts.length + 10)) (ts.length + 1)
    { rules := [], functions := [] }).run ts
  let missing? := ts.findSome? fun (t, _) => match t with
    | .name f true => if s.functions.any (·.name == f) then none else some f
    | _ => none
  match missing? with
  | some f => throw ⟨(ts.getLast?.map (·.2.line)).getD 1, "function " ++ f ++ " never defined"⟩
  | none => return s

end Recap.Tool.Rules
