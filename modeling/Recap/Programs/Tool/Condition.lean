import Recap.Programs.Tool.Printing

/-!
# Conditions

Texts, numbers and files can be tested, and tests joined.

## Contents
- `Condition` — what is tested.
- `Condition.ofWords` — reading conditions.
- `Condition.holds` — whether they hold.
- `test` — the program that tests.
-/

namespace Recap.Tool

open Recap.Shell
open Machine (Fault Kind)

/-- What is tested. -/
inductive Condition where
  | never
  /-- A text is not empty. -/
  | text (s : String)
  | unary (sign s : String)
  | binary (sign a b : String)
  | not (c : Condition)
  | both (a b : Condition)
  | either (a b : Condition)

/-- What is wrong with a condition. -/
inductive ConditionError where
  | missingBracket
  | unexpected (word : String)
  | argumentExpected (sign : String)
  | closingExpected
  | notNumber (word : String)

namespace Condition

/-! ## Reading -/

/-- Signs before one word. -/
def isUnary (s : String) : Bool :=
  match s.toList with
  | ['-', c] => "rwxefdcbpugkstznhLSGO".toList.contains c
  | _ => false

/-- Signs between two words. -/
def isBinary (w : Writer) (s : String) : Bool :=
  ["=", "!=", "<", ">", "-eq", "-ne", "-ge", "-gt", "-le", "-lt", "-nt", "-ot", "-ef"].contains s ||
    (w != .shell && s == "==")

/-- Whether a sign before one word is itself a word, because of what follows it. -/
def isWordBefore (w : Writer) : List String → Bool
  | [] => true
  | [_] => false
  | s :: _ => isBinary w s

/-- What comes of reading: a condition and what follows it. -/
abbrev Taken := Except ConditionError (Condition × List String)

/-- A condition on one or two words, or one between parentheses. -/
def takePrimary (w : Writer) (whole : List String → Taken) : List String → Taken
  | [] => .ok (.never, [])
  | s :: rest =>
    if s == "(" && !rest.isEmpty then
      if rest.head? == some ")" then .ok (.never, rest.drop 1)
      else do
        let (c, rest) ← whole rest
        match rest with
        | ")" :: rest => .ok (c, rest)
        | _ => .error .closingExpected
    else if isUnary s && !isWordBefore w rest then
      match rest with
      | [] => .error (.argumentExpected s)
      | a :: rest => .ok (.unary s a, rest)
    else
      match rest with
      | sign :: more =>
        if isBinary w sign then
          match more with
          | [] => .error (.argumentExpected sign)
          | b :: rest => .ok (.binary sign s b, rest)
        else .ok (.text s, rest)
      | [] => .ok (.text s, [])

/-- A condition that can be negated. -/
def takeNot (w : Writer) (whole : List String → Taken) : List String → Taken
  | "!" :: rest =>
    if rest.isEmpty then .ok (.text "!", [])
    else (takeNot w whole rest).map fun (c, rest) => (.not c, rest)
  | words => takePrimary w whole words

/-- Conditions with a sign between them. `fuel` is at least the number of words. -/
def takeJoined (sign : String) (join : Condition → Condition → Condition) (part : List String → Taken) :
    Nat → List String → Taken
  | 0, words => part words
  | fuel + 1, words => do
    let (a, rest) ← part words
    match rest with
    | s :: more =>
      if s == sign && !more.isEmpty then do
        let (b, rest) ← takeJoined sign join part fuel more
        .ok (join a b, rest)
      else .ok (a, rest)
    | [] => .ok (a, [])

/-- Any condition. `depth` is more than the depth of its parentheses. -/
def take (w : Writer) : Nat → List String → Taken
  | 0, _ => .error .closingExpected
  | depth + 1, words =>
    takeJoined "-o" .either (takeJoined "-a" .both (takeNot w (take w depth)) words.length) words.length
      words

/-- The condition that words are. What three or four words mean is settled before signs join them. -/
def ofWords (w : Writer) : List String → Except ConditionError Condition
  | [] => .ok .never
  | [a, sign, b] =>
    if isBinary w sign then .ok (.binary sign a b)
    else if a == "(" && b == ")" then .ok (.text sign)
    else if a == "!" then (ofWords w [sign, b]).map .not
    else general [a, sign, b]
  | [a, b, c, d] =>
    if a == "(" && d == ")" then ofWords w [b, c]
    else if a == "!" then (ofWords w [b, c, d]).map .not
    else general [a, b, c, d]
  | words => general words
where
  /-- The condition that any number of words is. -/
  general (words : List String) : Except ConditionError Condition := do
    let (c, rest) ← take w (words.length + 1) words
    if rest.isEmpty then return c
    else throw (.unexpected (((words.take (words.length - rest.length)).getLast?).getD ""))

/-! ## Meaning -/

/-- Conditions that machines decide. -/
abbrev Deciding := ExceptT ConditionError (Running)

/-- A number. -/
def numberOf (word : String) : Except ConditionError Int :=
  let trimmed := ((word.toList.dropWhile Char.isWhitespace).reverse.dropWhile Char.isWhitespace).reverse
  match intOf? (String.ofList trimmed) with
  | some i => .ok i
  | none => .error (.notNumber word)

/-- Whether what is at a path is as a sign asks. -/
def fileHolds (sign : Char) : Except Fault Kind → Bool
  | .error _ => false
  | .ok kind =>
    match sign, kind with
    | 'f', .file .. => true
    | 'x', .file _ mode => mode &&& 0o111 != 0
    | 'd', .directory | 'x', .directory => true
    | 'c', .device => true
    | 's', .file size _ => size != 0
    | 's', .directory => true
    | 'e', _ | 'r', _ | 'w', _ | 'O', _ | 'G', _ => true
    | _, _ => false

/-- Whether a condition on one word holds. -/
def unaryHolds (j : Job) (sign s : String) : Deciding Bool := do
  match sign with
  | "-z" => return s.isEmpty
  | "-n" => return !s.isEmpty
  | "-t" =>
    let _ ← numberOf s
    return false
  | sign =>
    let letter := (sign.toList.drop 1).headD 'e'
    match sign, channelOf? (j.path s) with
    | "-p", some n => return n != 0 || !j.inputIsFile
    | _, _ => return fileHolds letter (← ExceptT.lift (Call.look (j.path s)).ask)

/-- Whether a condition on two words holds. -/
def binaryHolds (j : Job) (sign a b : String) : Deciding Bool := do
  let compare (p : Int → Int → Bool) : Deciding Bool := do
    let x ← numberOf a
    let y ← numberOf b
    return p x y
  match sign with
  | "=" | "==" => return a == b
  | "!=" => return a != b
  | "<" => return a < b
  | ">" => return b < a
  | "-eq" => compare (· == ·)
  | "-ne" => compare (· != ·)
  | "-lt" => compare fun x y => x < y
  | "-le" => compare fun x y => x ≤ y
  | "-gt" => compare fun x y => y < x
  | "-ge" => compare fun x y => y ≤ x
  | "-ef" => return (j.path a).place == (j.path b).place
  | "-nt" => return (← unaryHolds j "-e" a) && !(← unaryHolds j "-e" b)
  | _ => return (← unaryHolds j "-e" b) && !(← unaryHolds j "-e" a)

/-- Whether a condition holds. -/
def holds (j : Job) : Condition → Deciding Bool
  | .never => return false
  | .text s => return !s.isEmpty
  | .unary sign s => unaryHolds j sign s
  | .binary sign a b => binaryHolds j sign a b
  | .not c => do return !(← c.holds j)
  | .both a b => do
    let x ← a.holds j
    let y ← b.holds j
    return x && y
  | .either a b => do
    let x ← a.holds j
    let y ← b.holds j
    return x || y

end Condition

/-! ## The program -/

/-- The wording of an error; `count` is the number of words. -/
def ConditionError.message (w : Writer) (words : List String) (e : ConditionError) : String :=
  let quote (s : String) : String := if w == .program then Text.quoted s else s
  match w, e with
  | .shell, .missingBracket => "missing ]"
  | .largeShell, .missingBracket => "missing \x60]'"
  | .program, .missingBracket => "missing ']'"
  | .shell, .unexpected word => word ++ ": unexpected operator"
  | .shell, .argumentExpected sign => sign ++ ": argument expected"
  | .shell, .closingExpected => "closing paren expected"
  | .shell, .notNumber word => "Illegal number: " ++ word
  | .largeShell, .notNumber word => word ++ ": integer expression expected"
  | .program, .notNumber word => "invalid integer " ++ Text.quoted word
  | _, _ =>
    match words with
    | [a, _] => quote a ++ ": unary operator expected"
    | [_, b, _] => quote b ++ ": binary operator expected"
    | _ => if w == .program then "extra argument " ++ Text.quoted ((words[1]?).getD "") else "too many arguments"

/-- Says by its status whether a condition holds; in brackets, the last word has to be the closing one.
    Complaints begin with a label. -/
def test (w : Writer) (label : String) (inBrackets : Bool) : Program := fun j => do
  let words := if inBrackets then j.arguments.dropLast else j.arguments
  let refuse (e : ConditionError) : Output := .failed 2 (label ++ e.message w words ++ "\n") j.input
  if inBrackets && j.arguments.getLast? != some "]" then return refuse .missingBracket
  match Condition.ofWords w words with
  | .error e => return refuse e
  | .ok c =>
    match ← (c.holds j).run with
    | .error e => return refuse e
    | .ok yes => return .ended (if yes then 0 else 1) j.input

end Recap.Tool
