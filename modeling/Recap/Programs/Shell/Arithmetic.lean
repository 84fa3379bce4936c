import Recap.Programs.Shell.Command

/-!
# Sums

Whole numbers of 64 bits, variables, and the operators on them. The larger language has more operators,
numbers in every base up to 64, and variables whose values are sums themselves.

## Contents
- `wrap` — numbers in their range.
- `Sum`, `Sum.ofText` — sums, and reading them.
- `Sum.value` — their values.
-/

namespace Recap.Shell

/-- The nearest number of 64 bits below, as it is when higher bits are lost. -/
def wrap (i : Int) : Int := Int.bmod i 0x10000000000000000

/-- What holds a number: a variable, or what a table has under a key. -/
structure Place where
  name : String
  key : Option String

/-- A sum. Some parts know the text at which they can fail. -/
inductive Sum where
  | number (n : Int)
  | place (p : Place)
  /-- An operator before a sum. -/
  | unary (sign : String) (a : Sum)
  | binary (sign : String) (a b : Sum) (token : String)
  | choose (test yes no : Sum)
  /-- A variable is set, to a sum or with an operator that is applied to it. -/
  | assign (p : Place) (sign : String) (a : Sum) (token : String)
  /-- A variable is counted up or down, before its value is used or afterwards. -/
  | step (p : Place) (up before : Bool)

/-- What is wrong with a sum, and the text from which on it is wrong. -/
inductive SumError where
  | expectingPrimary (token : String)
  | expectingEnd (token : String)
  | expectingParenthesis (token : String)
  | expectingColon (token : String)
  | expectingSum (token : String)
  | invalidOperator (token : String)
  | notVariable (token : String)
  | digitTooGreat (token : String)
  | badBase (token : String)
  | badConstant (token : String)
  | badKey (token : String)
  | divisionByZero (token : String)
  | negativeExponent (token : String)
  | tooDeep (token : String)
  | notNumber (text : String)
  /-- A variable that cannot be set. -/
  | readOnly (name : String)
  /-- A variable that has to be set. -/
  | unbound (name : String)
  /-- An error in the sum that a variable has for its value. -/
  | inside (sum : String) (e : SumError)

/-- What is said about an error in the larger language, and the text it is about. -/
def SumError.cause : SumError → String × String
  | .expectingPrimary token => ("syntax error: operand expected", token)
  | .expectingEnd token => ("syntax error in expression", token)
  | .expectingParenthesis token => ("missing \x60)'", token)
  | .expectingColon token => ("\x60:' expected for conditional expression", token)
  | .expectingSum token => ("expression expected", token)
  | .invalidOperator token => ("syntax error: invalid arithmetic operator", token)
  | .notVariable token => ("attempted assignment to non-variable", token)
  | .digitTooGreat token => ("value too great for base", token)
  | .badBase token => ("invalid arithmetic base", token)
  | .badConstant token => ("invalid integer constant", token)
  | .badKey token => ("bad array subscript", token)
  | .divisionByZero token => ("division by 0", token)
  | .negativeExponent token => ("exponent less than 0", token)
  | .tooDeep token => ("expression recursion level exceeded", token)
  | .notNumber text | .readOnly text | .unbound text => ("", text)
  | .inside _ e => e.cause

/-- The wording of an error in a sum of the smaller language. -/
def SumError.message (sum : String) (e : SumError) : String :=
  let inSum (what : String) : String := "arithmetic expression: " ++ what ++ ": \"" ++ sum ++ "\""
  match e with
  | .expectingEnd _ => inSum "expecting EOF"
  | .expectingParenthesis _ => inSum "expecting ')'"
  | .expectingColon _ => inSum "expecting ':'"
  | .divisionByZero _ => inSum "division by zero"
  | .notNumber text => "Illegal number: " ++ text
  | .readOnly name => name ++ ": is read only"
  | _ => inSum "expecting primary"

/-- The wording of an error in a sum of the larger language, for a command or for none. -/
def SumError.largeMessage (command sum : String) (e : SumError) : String :=
  match e with
  | .readOnly name => name ++ ": readonly variable"
  | .unbound name => name ++ ": unbound variable"
  | .inside sum e => spoken sum e
  | e => spoken sum e
where
  /-- The wording of an error that a text in a sum shows. -/
  spoken (sum : String) (e : SumError) : String :=
    let (what, token) := e.cause
    command ++ String.ofList (sum.toList.dropWhile Char.isWhitespace) ++ ": " ++ what ++
      " (error token is \"" ++ token ++ "\")"

/-! ## Pieces -/

namespace Sum

/-- Binary operators by how tightly they bind, the loosest first. -/
def levels : List (List String) :=
  [["||"], ["&&"], ["|"], ["^"], ["&"], ["==", "!="], ["<=", ">=", "<", ">"], ["<<", ">>"], ["+", "-"],
    ["*", "/", "%"]]

/-- All signs, the longest first. -/
def signs (enlarged : Bool) : List String :=
  ["<<=", ">>="] ++ (if enlarged then ["**"] else []) ++
    ["||", "&&", "==", "!=", "<=", ">=", "<<", ">>", "+=", "-=", "*=", "/=", "%=", "&=", "|=",
    "^=", "|", "^", "&", "<", ">", "+", "-", "*", "/", "%", "=", "!", "~", "(", ")", "?", ":"] ++
    (if enlarged then [","] else [])

/-- The kinds of pieces of a sum. -/
inductive PieceKind where
  | number (n : Int)
  | place (p : Place)
  | sign (s : String)
  /-- A variable is counted up or down; before it or behind it. -/
  | step (up before : Bool)
  /-- What cannot stand in a sum. -/
  | bad (e : SumError)
  | ending

/-- A piece of a sum, and the sum from there on. At the end, that is the last piece. -/
structure Piece where
  kind : PieceKind
  rest : String

/-- The value of a digit; small letters are not told from capital ones up to base 36. -/
def digitValue? (base : Nat) (c : Char) : Option Nat :=
  let v := if c.isDigit then some (c.toNat - '0'.toNat)
    else if 'a' ≤ c && c ≤ 'z' then some (c.toNat - 'a'.toNat + 10)
    else if 'A' ≤ c && c ≤ 'Z' then some (c.toNat - 'A'.toNat + (if base ≤ 36 then 10 else 36))
    else if c == '@' then some 62
    else if c == '_' then some 63
    else none
  v.filter (· < base)

/-- The number that digits are, and what comes after them. -/
def takeDigits (base : Nat) (cs : List Char) : Nat × List Char :=
  let digits := cs.takeWhile fun c => (digitValue? base c).isSome
  (digits.foldl (fun n c => n * base + (digitValue? base c).getD 0) 0, cs.drop digits.length)

/-- The largest number. -/
def most : Int := 0x7fffffffffffffff

/-- A number and what comes after it: a zero before it says that its base is eight, or sixteen where an
    x follows. -/
def takeNumber (cs : List Char) : Int × List Char :=
  let (n, rest) := match cs with
    | '0' :: 'x' :: c :: rest =>
      if (digitValue? 16 c).isSome then takeDigits 16 (c :: rest) else (0, 'x' :: c :: rest)
    | '0' :: rest => takeDigits 8 rest
    | cs => takeDigits 10 cs
  (min (n : Int) most, rest)

/-- Whether a character belongs to a number of the larger language. -/
def continuesNumber (c : Char) : Bool := c.isAlphanum || c == '#' || c == '@' || c == '_'

/-- The number of a text, which can name its base before a sharp sign. `shown` is the sum from there
    on. -/
def numberOfText (cs : List Char) (shown : String) : PieceKind :=
  let inBase (base : Nat) (digits : List Char) : PieceKind :=
    match takeDigits base digits with
    | (n, []) => .number (wrap n)
    | (_, _ :: _) => .bad (.digitTooGreat shown)
  let front := cs.takeWhile (· != '#')
  match cs.drop front.length with
  | _ :: digits =>
    let base := (takeDigits 10 front).1
    if base < 2 || 64 < base then .bad (.badBase shown)
    else if digits.isEmpty then .bad (.badConstant shown)
    else inBase base digits
  | [] =>
    match cs with
    | '0' :: 'x' :: digits | '0' :: 'X' :: digits => inBase 16 digits
    | '0' :: digits => inBase 8 digits
    | digits => inBase 10 digits

/-- The characters up to the bracket that closes one, and what comes after it. -/
def takeKey : Nat → List Char → Option (List Char × List Char)
  | _, [] => none
  | depth, c :: cs =>
    if c == ']' && depth == 0 then some ([], cs)
    else
      let depth := if c == '[' then depth + 1 else if c == ']' then depth - 1 else depth
      (takeKey depth cs).map fun (key, rest) => (c :: key, rest)

/-- Whether an operand has to follow a piece. -/
def PieceKind.awaitsOperand : PieceKind → Bool
  | .sign _ | .step _ true => true
  | .number _ | .place _ | .step _ false | .bad _ | .ending => false

/-- The first piece of a sum of the smaller language, and what comes after it. What is no sign becomes one that can
    stand nowhere. -/
def smallPiece (c : Char) (cs : List Char) : PieceKind × List Char :=
  if c.isDigit then
    let (n, rest) := takeNumber (c :: cs)
    (.number n, rest)
  else if startsName c then
    let name := (c :: cs).takeWhile continuesName
    (.place ⟨String.ofList name, none⟩, (c :: cs).drop name.length)
  else
    let s := ((signs false).find? fun s => s.toList.isPrefixOf (c :: cs)).getD ";"
    (.sign s, (c :: cs).drop s.length)

/-- The first piece of a sum of the larger language after another, and what comes after it. -/
def largePiece (before : Option PieceKind) (c : Char) (cs : List Char) : PieceKind × List Char :=
  let all := c :: cs
  let shown := String.ofList all
  if c.isDigit then
    let digits := all.takeWhile continuesNumber
    (numberOfText digits shown, all.drop digits.length)
  else if startsName c then
    let name := all.takeWhile continuesName
    match all.drop name.length with
    | '[' :: rest =>
      match takeKey 0 rest with
      | some (key, rest) => (.place ⟨String.ofList name, some (String.ofList key)⟩, rest)
      | none => (.bad (.badKey shown), [])
    | rest => (.place ⟨String.ofList name, none⟩, rest)
  else if (c == '+' || c == '-') && cs.head? == some c then
    let isAfterName := match before with
      | some (.place _) => true
      | _ => false
    let next := (cs.drop 1).dropWhile Char.isWhitespace
    if isAfterName then (.step (c == '+') false, cs.drop 1)
    else if (next.head?.map startsName).getD false then (.step (c == '+') true, cs.drop 1)
    else (.sign c.toString, cs)
  else
    match (signs true).find? fun s => s.toList.isPrefixOf all with
    | some s => (.sign s, all.drop s.length)
    | none =>
      let e := if (before.map PieceKind.awaitsOperand).getD true then SumError.expectingPrimary shown
        else .invalidOperator shown
      (.bad e, [])

/-- The pieces of a sum after another piece. `fuel` is at least the number of characters. -/
def piecesAfter (enlarged : Bool) : Nat → Option Piece → List Char → List Piece
  | 0, before, _ | _, before, [] => [⟨.ending, (before.map (·.rest)).getD ""⟩]
  | fuel + 1, before, c :: cs =>
    if c.isWhitespace then piecesAfter enlarged fuel before cs
    else
      let (kind, rest) := if enlarged then largePiece (before.map (·.kind)) c cs else smallPiece c cs
      let piece : Piece := ⟨kind, String.ofList (c :: cs)⟩
      piece :: piecesAfter enlarged fuel (some piece) rest

/-! ## Reading -/

/-- What is wrong with the first of some pieces, or with what it stands for. -/
def complaint (ps : List Piece) (e : String → SumError) : SumError :=
  match ps with
  | ⟨.bad e, _⟩ :: _ => e
  | ⟨_, rest⟩ :: _ => e rest
  | [] => e ""

/-- Reads a sum that binds at least as tightly as a level, and what comes after it. -/
abbrev Take := List Piece → Except SumError (Sum × List Piece)

/-- The text that the first of some pieces begins. -/
def textFrom (ps : List Piece) : String := (ps.head?.map (·.rest)).getD ""

/-- Goes on with the operators of a level. `fuel` is at least the number of pieces. -/
def takeMore (level : List String) (operand : Take) : Nat → Sum → Take
  | 0, a, ps => .ok (a, ps)
  | fuel + 1, a, ⟨.sign s, shown⟩ :: ps =>
    if level.contains s then do
      let (b, rest) ← operand ps
      takeMore level operand fuel (.binary s a b (textFrom ps)) rest
    else .ok (a, ⟨.sign s, shown⟩ :: ps)
  | _ + 1, a, ps => .ok (a, ps)

/-- Reads operators of levels, from the loosest on. -/
def takeLevels (primary : Take) : List (List String) → Take
  | [], ps => primary ps
  | level :: levels, ps => do
    let (a, rest) ← takeLevels primary levels ps
    takeMore level (takeLevels primary levels) rest.length a rest

/-- Reads powers, the last of which is taken first. `fuel` is at least the number of pieces. -/
def takePowers (operand : Take) : Nat → Take
  | 0, ps => operand ps
  | fuel + 1, ps => do
    let (a, rest) ← operand ps
    match rest with
    | ⟨.sign "**", _⟩ :: rest =>
      let (b, rest) ← takePowers operand fuel rest
      .ok (.binary "**" a b (textFrom rest), rest)
    | rest => .ok (a, rest)

/-- Signs that set a variable. -/
def isAssigning (s : String) : Bool :=
  ["=", "+=", "-=", "*=", "/=", "%=", "<<=", ">>=", "&=", "|=", "^="].contains s

/-- Reads what has no operator on its outside. -/
def takePrimary (whole : Take) (self : Take) (ps : List Piece) : Except SumError (Sum × List Piece) :=
  match ps with
  | ⟨.number n, _⟩ :: rest => .ok (.number n, rest)
  | ⟨.step up true, _⟩ :: ⟨.place p, _⟩ :: rest => .ok (.step p up true, rest)
  | ⟨.place p, _⟩ :: ⟨.step up false, _⟩ :: rest => .ok (.step p up false, rest)
  | ⟨.place p, _⟩ :: rest => .ok (.place p, rest)
  | ⟨.sign "(", _⟩ :: rest => do
    let (a, rest) ← whole rest
    match rest with
    | ⟨.sign ")", _⟩ :: rest => .ok (a, rest)
    | rest => .error (complaint rest .expectingParenthesis)
  | ⟨.sign s, shown⟩ :: rest =>
    if ["-", "+", "!", "~"].contains s then do
      let (a, rest) ← self rest
      .ok (.unary s a, rest)
    else .error (.expectingPrimary shown)
  | ps => .error (complaint ps .expectingPrimary)

/-- How much of a sum is read. -/
inductive Extent where
  /-- Up to its end. -/
  | whole
  /-- Up to a comma. -/
  | single
  /-- What has no binary operator on its outside. -/
  | primary

/-- Goes on with sums behind commas. `fuel` is at least the number of pieces. -/
def takeCommas (single : Take) : Nat → Sum → Take
  | 0, a, ps => .ok (a, ps)
  | fuel + 1, a, ⟨.sign ",", _⟩ :: ps => do
    let (b, rest) ← single ps
    takeCommas single fuel (.binary "," a b "") rest
  | _ + 1, a, ps => .ok (a, ps)

/-- Whether no sum begins with some pieces, but what should come after it. -/
def lacksSum : List Piece → Bool
  | ⟨.ending, _⟩ :: _ | ⟨.sign ":", _⟩ :: _ => true
  | _ => false

/-- Reads a sum. `depth` is more than the depth of its parentheses and signs. -/
def take (enlarged : Bool) : Nat → Extent → Take
  | 0, _, ps => .error (complaint ps .expectingPrimary)
  | depth + 1, .primary, ps =>
    takePrimary (take enlarged depth .whole) (take enlarged depth .primary) ps
  | depth + 1, .whole, ps => do
    let (a, rest) ← take enlarged depth .single ps
    takeCommas (take enlarged depth .single) rest.length a rest
  | depth + 1, .single, ps =>
    match ps with
    | ⟨.place p, before⟩ :: ⟨.sign s, shown⟩ :: rest =>
      if isAssigning s then do
        let (a, after) ← take enlarged depth .single rest
        .ok (.assign p s a (textFrom rest), after)
      else takeChoice depth (⟨.place p, before⟩ :: ⟨.sign s, shown⟩ :: rest)
    | ps => takeChoice depth ps
where
  /-- Reads a sum that can choose between two others. -/
  takeChoice (depth : Nat) (ps : List Piece) : Except SumError (Sum × List Piece) := do
    let operand := takePowers (take enlarged depth .primary) ps.length
    let (test, rest) ← takeLevels operand levels ps
    match rest with
    | ⟨.sign "?", _⟩ :: rest =>
      if enlarged && lacksSum rest then .error (complaint rest .expectingSum)
      let (yes, rest) ← take enlarged depth .whole rest
      match rest with
      | ⟨.sign ":", _⟩ :: rest =>
        if enlarged && lacksSum rest then .error (complaint rest .expectingSum)
        let (no, rest) ← take enlarged depth .single rest
        .ok (.choose test yes no, rest)
      | rest => .error (complaint rest .expectingColon)
    | ⟨.sign s, shown⟩ :: rest =>
      if enlarged && isAssigning s then .error (.notVariable shown)
      else .ok (test, ⟨.sign s, shown⟩ :: rest)
    | rest => .ok (test, rest)

/-- The sum of a text. One of nothing but blanks is zero in the larger language. -/
def ofText (enlarged : Bool) (text : String) : Except SumError Sum := do
  let ps := piecesAfter enlarged text.length none text.toList
  match enlarged, ps with
  | true, [⟨.ending, _⟩] => return .number 0
  | _, ps =>
    let (a, rest) ← take enlarged (3 * ps.length + 3) .whole ps
    match rest with
    | ⟨.ending, _⟩ :: _ | [] => return a
    | rest => .error (complaint rest .expectingEnd)

/-! ## Values -/

/-- One for what is true, and zero for what is not. -/
def ofBool (b : Bool) : Int := if b then 1 else 0

/-- The bits of a number, as one that is not negative. -/
def bitsOf (i : Int) : Nat := (i % 0x10000000000000000).toNat

/-- A power, whose bits beyond the last are lost, by the bits of its exponent. -/
def power (a : Int) (n : Nat) : Int :=
  (List.range 64).foldr
    (fun i r =>
      let square := wrap (r * r)
      if n.testBit i then wrap (square * a) else square) 1

/-- The value of an operator. `token` is the text of its second operand. -/
def apply (sign : String) (a b : Int) (token : String) : Except SumError Int :=
  match sign with
  | "+" => .ok (wrap (a + b))
  | "-" => .ok (wrap (a - b))
  | "*" => .ok (wrap (a * b))
  | "/" => if b == 0 then .error (.divisionByZero token) else .ok (wrap (Int.tdiv a b))
  | "%" => if b == 0 then .error (.divisionByZero token) else .ok (wrap (Int.tmod a b))
  | "**" =>
    if b < 0 then .error (.negativeExponent token) else .ok (power a b.toNat)
  | "==" => .ok (ofBool (a == b))
  | "!=" => .ok (ofBool (a != b))
  | "<" => .ok (ofBool (a < b))
  | ">" => .ok (ofBool (b < a))
  | "<=" => .ok (ofBool (a ≤ b))
  | ">=" => .ok (ofBool (b ≤ a))
  | "<<" => .ok (wrap (a * ((1 <<< (bitsOf b % 64) : Nat) : Int)))
  | ">>" => .ok (a >>> (bitsOf b % 64))
  | "&" => .ok (wrap (bitsOf a &&& bitsOf b : Nat))
  | "|" => .ok (wrap (bitsOf a ||| bitsOf b : Nat))
  | "^" => .ok (wrap (bitsOf a ^^^ bitsOf b : Nat))
  | _ => .ok b

/-- The number that the value of a variable is; one without a value is zero. -/
def numberOf (text : String) : Except SumError Int :=
  let trimmed := (text.toList.dropWhile Char.isWhitespace).reverse.dropWhile Char.isWhitespace
  let (negative, digits) := match trimmed.reverse with
    | '-' :: ds => (true, ds)
    | '+' :: ds => (false, ds)
    | ds => (false, ds)
  if trimmed.isEmpty then .ok 0
  else
    let (n, rest) := takeNumber digits
    if digits.isEmpty || !rest.isEmpty then .error (.notNumber text)
    else .ok (if negative then -n else n)

/-- Variables, and how they are set. -/
structure Variables (σ : Type) where
  /-- Finds out which key of a table is meant. -/
  locate : σ → Place → Except SumError (Place × σ)
  number : σ → Place → Except SumError (Int × σ)
  set : σ → Place → String → Except SumError σ

variable {σ : Type}

/-- The text of a value. -/
def textOf (i : Int) : String := if i < 0 then "-" ++ Nat.repr i.natAbs else Nat.repr i.natAbs

/-- The value of a sum, and the variables after it. -/
def value (vs : Variables σ) : Sum → σ → Except SumError (Int × σ)
  | .number n, s => .ok (n, s)
  | .place p, s => do
    let (p, s) ← vs.locate s p
    vs.number s p
  | .unary sign a, s => do
    let (x, s) ← a.value vs s
    match sign with
    | "-" => return (wrap (-x), s)
    | "!" => return (ofBool (x == 0), s)
    | "~" => return (-x - 1, s)
    | _ => return (x, s)
  | .binary "&&" a b _, s => do
    let (x, s) ← a.value vs s
    if x == 0 then return (0, s)
    let (y, s) ← b.value vs s
    return (ofBool (y != 0), s)
  | .binary "||" a b _, s => do
    let (x, s) ← a.value vs s
    if x != 0 then return (1, s)
    let (y, s) ← b.value vs s
    return (ofBool (y != 0), s)
  | .binary sign a b token, s => do
    let (x, s) ← a.value vs s
    let (y, s) ← b.value vs s
    return (← apply sign x y token, s)
  | .choose test yes no, s => do
    let (x, s) ← test.value vs s
    if x != 0 then yes.value vs s else no.value vs s
  | .assign p sign a token, s => do
    let (p, s) ← vs.locate s p
    let (y, s) ← a.value vs s
    let (x, s) ← if sign == "=" then pure (y, s)
      else do
        let (old, s) ← vs.number s p
        pure (← apply (String.ofList sign.toList.dropLast) old y token, s)
    return (x, ← vs.set s p (textOf x))
  | .step p up before, s => do
    let (p, s) ← vs.locate s p
    let (old, s) ← vs.number s p
    let x := wrap (if up then old + 1 else old - 1)
    return (if before then x else old, ← vs.set s p (textOf x))

end Sum

end Recap.Shell
