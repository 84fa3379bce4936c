import Recap.Programs.Shell.RegexText
import Recap.Programs.Tool.Options

/-!
# Expressions

Words are joined by operators: numbers are added and compared, texts searched and cut. The characters of
texts are bytes.

## Contents
- `Expression.evaluate` — the value of words.
- `expr` — writes the value.
-/

namespace Recap.Tool

open Recap.Shell

namespace Expression

/-- Whether a value counts as nothing. -/
def isNull (v : String) : Bool :=
  v.isEmpty || ((v.toList.dropWhile (· == '-')).all (· == '0') && v != "-" && (intOf? v).isSome)

/-- The number that a value is. -/
def number (v : String) : Except String Int :=
  match if v.startsWith "+" then none else intOf? v with
  | some i => .ok i
  | none => .error "non-integer argument"

/-- Where a pattern fits at the beginning of a text: its first group, or its length. -/
def fit (text pattern : String) : Except String String :=
  match Regex.ofText { extended := false, turnedRanges := true } pattern with
  | .error flaw => .error flaw.message
  | .ok r =>
    let t := text.toList.toArray
    let grouped := (pattern.toList.zip (pattern.toList.drop 1)).contains ('\\', '(')
    match r.fitAt? t 0 with
    | none => .ok (if grouped then "" else "0")
    | some f =>
      if grouped then
        .ok (match f.groups.lookup 1 with
          | some (start, stop) => String.ofList (Regex.slice t start stop)
          | none => "")
      else .ok (Nat.repr f.stop)

/-- The value of a comparison; numbers are compared as such. -/
def compare (sign a b : String) : String :=
  let order : Ordering := match intOf? a, intOf? b with
    | some x, some y => Ord.compare x y
    | _, _ => if a < b then .lt else if a == b then .eq else .gt
  let holds : Bool := match sign with
    | "<" => order == .lt
    | "<=" => order != .gt
    | "=" | "==" => order == .eq
    | "!=" => order != .eq
    | ">=" => order != .lt
    | _ => order == .gt
  if holds then "1" else "0"

/-- The value of an operator on numbers. -/
def calculate (sign a b : String) : Except String String := do
  let x ← number a
  let y ← number b
  match sign with
  | "+" => return intText (x + y)
  | "-" => return intText (x - y)
  | "*" => return intText (x * y)
  | "/" => if y == 0 then throw "division by zero" else return intText (Int.tdiv x y)
  | _ => if y == 0 then throw "division by zero" else return intText (Int.tmod x y)

/-- A position in a text, counted from one. -/
def positionOf (text chars : String) : Nat :=
  match text.toList.findIdx? chars.toList.contains with
  | some i => i + 1
  | none => 0

/-- A piece of a text from a position on, which is counted from one. -/
def pieceOf (text start size : String) : String :=
  match intOf? start, intOf? size with
  | some s, some n =>
    if s < 1 || n < 1 then "" else String.ofList ((text.toList.drop (s.toNat - 1)).take n.toNat)
  | _, _ => ""

/-! ## Reading -/

/-- Words that are still to be read, and the word before them. -/
structure Words where
  before : String
  rest : List String

/-- Reads words, or complains. -/
abbrev Reader (α : Type) := StateT Words (Except String) α

/-- The next word. -/
def next : Reader String := do
  let w ← get
  match w.rest with
  | word :: rest =>
    set { before := word, rest : Words }
    return word
  | [] => throw ("syntax error: missing argument after " ++ Text.quoted w.before)

/-- Takes the next word if it is one of some. -/
def accept (words : List String) : Reader (Option String) := do
  match (← get).rest with
  | word :: _ => if words.contains word then some <$> next else return none
  | [] => return none

/-- How tightly operators bind. -/
inductive Level where
  | either
  | both
  | comparison
  | sum
  | product
  | fitting
  | prefixed
  | primary

/-- The level of the operands, and the operators. -/
def Level.operators? : Level → Option (Level × List String)
  | .either => some (.both, ["|"])
  | .both => some (.comparison, ["&"])
  | .comparison => some (.sum, ["<", "<=", "=", "==", "!=", ">=", ">"])
  | .sum => some (.product, ["+", "-"])
  | .product => some (.fitting, ["*", "/", "%"])
  | .fitting => some (.prefixed, [":"])
  | .prefixed | .primary => none

/-- Whether the operand behind an operator matters. -/
def Level.needsRight (l : Level) (left : String) : Bool :=
  match l with
  | .either => isNull left
  | .both => !isNull left
  | _ => true

/-- The value of an operator. Where nothing is wanted, numbers and texts are left as they are. -/
def Level.apply (l : Level) (wanted : Bool) (sign a b : String) : Except String String :=
  match l with
  | .either => .ok (if !isNull a then a else if isNull b then "0" else b)
  | .both => .ok (if isNull a || isNull b then "0" else a)
  | .comparison => .ok (if wanted then compare sign a b else a)
  | .sum | .product => if wanted then calculate sign a b else .ok a
  | .fitting | .prefixed | .primary => if wanted then fit a b else .ok a

mutual

/-- The value of what a level begins with. Where nothing is wanted, nothing goes wrong in it. `fuel` is more than
    eight times the number of words. -/
def value : (fuel : Nat) → Level → (wanted : Bool) → Reader String
  | 0, _, _ => throw "syntax error"
  | fuel + 1, l, wanted => do
    match l, l.operators? with
    | _, some (operand, signs) => goOn fuel l operand signs wanted (← value fuel operand wanted)
    | .prefixed, none =>
      match ← accept ["+", "length", "match", "index", "substr"] with
      | some "+" => next
      | some "length" => return Nat.repr (← value fuel .prefixed wanted).length
      | some "match" =>
        let text ← value fuel .prefixed wanted
        let pattern ← value fuel .prefixed wanted
        if wanted then fit text pattern else return text
      | some "index" =>
        let text ← value fuel .prefixed wanted
        return Nat.repr (positionOf text (← value fuel .prefixed wanted))
      | some _ =>
        let text ← value fuel .prefixed wanted
        let start ← value fuel .prefixed wanted
        return pieceOf text start (← value fuel .prefixed wanted)
      | none => value fuel .primary wanted
    | _, none =>
      match ← next with
      | "(" =>
        let v ← value fuel .either wanted
        let w ← get
        match w.rest with
        | [] => throw ("syntax error: expecting ')' after " ++ Text.quoted w.before)
        | ")" :: _ => do
          let _ ← next
          return v
        | word :: _ => throw ("syntax error: expecting ')' instead of " ++ Text.quoted word)
      | ")" => throw "syntax error: unexpected ')'"
      | word => return word

/-- Goes on with the operators of a level. -/
def goOn : (fuel : Nat) → Level → Level → List String → (wanted : Bool) → String → Reader String
  | 0, _, _, _, _, a => return a
  | fuel + 1, l, operand, signs, wanted, a => do
    match ← accept signs with
    | none => return a
    | some sign =>
      let b ← value fuel operand (wanted && l.needsRight a)
      goOn fuel l operand signs wanted (← l.apply wanted sign a b)

end

/-- The value of words. -/
def evaluate (words : List String) : Except String String := do
  let (v, left) ← (value (10 * words.length + 20) .either true).run { before := "", rest := words }
  match left.rest with
  | [] => return v
  | word :: _ => throw ("syntax error: unexpected argument " ++ Text.quoted word)

end Expression

/-- Writes the value of an expression; its status says whether that counts as nothing. -/
def expr : Program := fun j => do
  let words := (if j.arguments.head? == some "--" then j.arguments.drop 1 else j.arguments).map Text.spread
  if words.isEmpty then j.refuse 2 (hinted "expr" "missing operand")
  else
    match Expression.evaluate words with
    | .error message => j.refuse 2 ("expr: " ++ Text.gathered message)
    | .ok v =>
      return { Output.wrote (Text.toBytes (v ++ "\n")) j.input with
               status := .exited (if Expression.isNull v then 1 else 0) }

end Recap.Tool
