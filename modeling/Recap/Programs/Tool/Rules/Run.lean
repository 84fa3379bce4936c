import Recap.Programs.Tool.Rules.World

/-!
# Carrying out rules

## Contents
- `Deed`, `Perform` — what can be asked for: values and statements.
- `Place` — what can be set.
- `evalBuiltin`, `evalExpr` — values.
- `runStmt` — statements.
- `runRules`, `runScript` — rules for records.
- `awk` — the program.
-/

namespace Recap.Tool.Rules

open Recap.Shell (Call Job Output Program Programs Regex Running)
open Work

/-! ## Deeds -/

/-- What can be asked for. -/
inductive Deed where
  | eval (e : Expr)
  | run (s : Stmt)

/-- What comes of a deed. -/
@[reducible] def Deed.Result : Deed → Type
  | .eval _ => Value
  | .run _ => Unit

/-- Does what is asked. -/
abbrev Perform := (d : Deed) → Work d.Result

/-- The number of an expression. -/
def evalNumber (perform : Perform) (e : Expr) : Work Float := do return (← perform (.eval e)).toNumber

/-- The text of an expression. -/
def evalText (perform : Perform) (e : Expr) : Work String := do text (← perform (.eval e))

/-- Whether an expression is true. -/
def evalTest (perform : Perform) (e : Expr) : Work Bool := do return (← perform (.eval e)).holds

/-- The key that expressions stand for together. -/
def evalKey (perform : Perform) (keys : List Expr) : Work String := do
  let pieces ← keys.mapM (evalText perform)
  match pieces with
  | [key] => return key
  | pieces => return (← globalText "SUBSEP").intercalate pieces

/-- The pattern that an expression stands for. -/
def evalPattern (perform : Perform) : Expr → Work Regex
  | .regex r => return r
  | e => do
    match regexOf (← evalText perform e) with
    | .ok r => return r
    | .error message => fail message

/-! ## Places -/

/-- What can be set. -/
inductive Place where
  | named (name : String)
  | element (table key : String)
  | field (i : Int)

/-- The place of an expression; that of one which cannot be set is the record. -/
def evalPlace (perform : Perform) : Expr → Work Place
  | .variable name => return .named name
  | .element table keys => return .element table (← evalKey perform keys)
  | .field e => return .field (clamped (← evalNumber perform e))
  | _ => return .field 0

/-- What is at a place. -/
def Place.get : Place → Work Value
  | .named name => getVariable name
  | .element table key => getElement table key
  | .field i => getField i

/-- Puts a value at a place. -/
def Place.set (v : Value) : Place → Work Unit
  | .named name => setVariable name v
  | .element table key => setElement table key v
  | .field i => setField i v

/-! ## Numbers -/

/-- The remainder of a division, with the sign of what is divided. -/
def remainder (x y : Float) : Float :=
  match Decimal.Binary.ofFloat x, Decimal.Binary.ofFloat y with
  | .finite negative m q, .finite _ n r =>
    if n == 0 then 0.0 / 0.0
    else
      let low := min q r
      let left := (m * Decimal.pow2 (q - low).toNat) % (n * Decimal.pow2 (r - low).toNat)
      let z := (Float.ofNat left).scaleB low
      if negative then -z else z
  | .finite .., .infinite _ => x
  | _, _ => 0.0 / 0.0

/-- What an operator makes of two numbers. -/
def arithmetic (sign : String) (x y : Float) : Float :=
  match sign with
  | "+" => x + y
  | "-" => x - y
  | "*" => x * y
  | "/" => x / y
  | "%" => remainder x y
  | _ => x.pow y

/-- Whether an order is as a sign says. -/
def isAsSaid (sign : String) (o : Ordering) : Bool :=
  match sign with
  | "==" => o == .eq
  | "!=" => o != .eq
  | "<" => o == .lt
  | "<=" => o != .gt
  | ">" => o == .gt
  | _ => o != .lt

/-! ## Texts -/

/-- A replacement in which an ampersand stands for what was found. -/
def replaced (found : List Char) : List Char → List Char
  | '\\' :: '&' :: cs => '&' :: replaced found cs
  | '\\' :: '\\' :: '&' :: cs => '\\' :: found ++ replaced found cs
  | '&' :: cs => found ++ replaced found cs
  | c :: cs => c :: replaced found cs
  | [] => []

/-- A text with replacements at the places where a pattern fits, or at the first of them; also their
    number. -/
def substituted (everywhere : Bool) (r : Regex) (by' subject : String) : Nat × String :=
  let t := subject.toList.toArray
  let fits := if everywhere then r.fits t else (r.searchFrom? t 0).toList
  let (done, last) := fits.foldl (fun (done, last) fit =>
    (done ++ Regex.slice t last fit.start ++ replaced (Regex.slice t fit.start fit.stop) by'.toList, fit.stop))
    (([] : List Char), 0)
  (fits.length, String.ofList (done ++ Regex.slice t last t.size))

/-- The piece of a text from a place on, the first of which has the number one. What a place is below
    zero makes the piece longer. -/
def piece (subject : String) (start : Int) (count : Option Int) : String :=
  let from' := subject.toList.drop (start - 1).toNat
  String.ofList (match count with
    | some n => from'.take (n - min start 0).toNat
    | none => from')

/-- The number of the first place where a text begins in another; zero if it does not. -/
def placeIn (part : List Char) : Nat → List Char → Nat
  | n, [] => if part.isEmpty then n else 0
  | n, c :: cs => if part.isPrefixOf (c :: cs) then n else placeIn part (n + 1) cs

/-! ## Functions that are there already -/

/-- Replaces what a pattern fits. -/
def evalReplace (perform : Perform) (everywhere : Bool) (pattern by' : Expr) (target : Expr) :
    Work Value := do
  let r ← evalPattern perform pattern
  let by' ← evalText perform by'
  let target := match target with
    | .group [e] => e
    | e => e
  let place ← evalPlace perform target
  let subject ← if target.isTarget then text (← place.get) else evalText perform target
  let (count, result) := substituted everywhere r by' subject
  if count != 0 && target.isTarget then place.set (.text result)
  return .ofNat count

/-- Puts the pieces of a text in a table; their number. -/
def evalSplit (perform : Perform) (subject : Expr) (table : String) (separator : Option Expr) :
    Work Value := do
  let subject ← evalText perform subject
  let s ← match separator with
    | some (.regex r) => pure (.ok (Separator.pattern r))
    | some e => do pure (Separator.ofText (← evalText perform e))
    | none => do pure (Separator.ofText (← globalText "FS"))
  match s with
  | .error message => fail message
  | .ok s =>
    let pieces := splitText s subject
    setTable table (pieces.zipIdx.foldl (fun t (p, i) => (Nat.repr (i + 1), Value.given p) :: t) [])
    return .ofNat pieces.length

/-- The text of values in a format. -/
def formatValues (name : String) (vs : List Value) : Work String := do
  match vs with
  | [] => fail ("not enough arguments passed to " ++ name ++ "(\"\")")
  | format :: values =>
    let format ← text format
    match fill (← convFormat) format values with
    | (out, none) => return out
    | (out, some failure) =>
      if name == "printf" then emit none out
      fail (failure ++ name ++ "(\"" ++ format ++ "\")")

/-- The number after a number that looks as if by chance. -/
def nextSeed (seed : Nat) : Nat := (seed * 16807) % 0x7fffffff

/-- The value of a function that is there already. -/
def evalBuiltin (programs : Programs) (perform : Perform) (name : String) (arguments : List Expr) :
    Work Value := do
  let number (f : Float → Float) : Work Value := do
    match arguments with
    | e :: _ => return .number (f (← evalNumber perform e))
    | [] => return .number (f (leadingNumber (← recordText)))
  let cased (f : Char → Char) : Work Value := do
    match arguments with
    | e :: _ => return .text ((← evalText perform e).map f)
    | [] => return .text ((← recordText).map f)
  match name, arguments with
  | "length", [] => return .ofNat (← recordText).length
  | "length", e :: _ =>
    match e with
    | .variable x =>
      match (← cell x).value, (← cell x).table with
      | .nothing, some _ => return .ofNat (← getTable x).length
      | _, _ => return .ofNat (← evalText perform e).length
    | _ => return .ofNat (← evalText perform e).length
  | "substr", s :: i :: more =>
    let subject ← evalText perform s
    let start ← evalNumber perform i
    match more with
    | [] => return .text (piece subject (clamped start) none)
    | n :: _ => return .text (piece subject (clamped start) (some (clamped (← evalNumber perform n))))
  | "index", s :: t :: _ =>
    let subject ← evalText perform s
    let part ← evalText perform t
    return .ofNat (placeIn part.toList 1 subject.toList)
  | "split", s :: .variable table :: more => evalSplit perform s table more.head?
  | "sub", r :: s :: more => evalReplace perform false r s (more.headD (.field (.number 0.0)))
  | "gsub", r :: s :: more => evalReplace perform true r s (more.headD (.field (.number 0.0)))
  | "match", s :: r :: _ =>
    let subject ← evalText perform s
    let r ← evalPattern perform r
    let (start, length) : Nat × Int := match r.searchFrom? subject.toList.toArray 0 with
      | some fit => (fit.start + 1, fit.stop - fit.start)
      | none => (0, -1)
    setVariable "RSTART" (.ofNat start)
    setVariable "RLENGTH" (.number (ofWhole length))
    return .ofNat start
  | "toupper", _ => cased Char.toUpper
  | "tolower", _ => cased Char.toLower
  | "sprintf", es => return .text (← formatValues "sprintf" (← es.mapM fun e => perform (.eval e)))
  | "int", _ => number fun x => if x.isFinite then (if x < 0.0 then x.ceil else x.floor) else x
  | "sqrt", _ => number Float.sqrt
  | "exp", _ => number Float.exp
  | "log", _ => number Float.log
  | "sin", _ => number Float.sin
  | "cos", _ => number Float.cos
  | "atan2", y :: x :: _ =>
    let y ← evalNumber perform y
    return .number (y.atan2 (← evalNumber perform x))
  | "rand", _ =>
    modify fun w => { w with seed := nextSeed w.seed }
    return .number (Float.ofNat (← get).seed / 2147483647.0)
  | "srand", es =>
    let old := (← get).seed
    let seed ← match es with
      | e :: _ => do pure (clamped (← evalNumber perform e))
      | [] => do pure ((← ask .now).toInt / 1000)
    modify fun w => { w with seed := seed.natAbs }
    return .ofNat old
  | "system", e :: _ => return .ofNat (← commandAloud programs (← evalText perform e) none)
  | "close", e :: _ => close programs (← evalText perform e)
  | "fflush", _ =>
    flush
    return .number 0.0
  | name, _ => fail ("wrong number of arguments in call to " ++ name)

/-! ## Values -/

/-- Reads a line; one where there was one, zero where there was none, minus one where it failed. -/
def evalReadLine (programs : Programs) (perform : Perform) (source : Option (Bool × Expr))
    (target : Option Expr) : Work Value := do
  let place? ← target.mapM (evalPlace perform)
  let found? ← match source with
    | none => do pure (some (← nextRecord?))
    | some (isCommand, e) => nextLine? programs isCommand (← evalText perform e)
  match found? with
  | none => return .number (-1.0)
  | some none => return .number 0.0
  | some (some line) =>
    if (source.map (·.1)) == some true then countUp "NR"
    match place? with
    | some place => place.set (.given line)
    | none => setRecord line
    return .number 1.0

/-- Carries a function out; its value. -/
def evalCall (perform : Perform) (name : String) (arguments : List Expr) : Work Value := do
  match (← get).script.functions.find? (·.name == name) with
  | none => fail ("function " ++ name ++ " never defined")
  | some f =>
    let cells ← arguments.mapM fun e => do
      match e with
      | .variable x =>
        let _ ← tableOf x
        let c ← cell x
        return { c with value := ← getVariable x }
      | e => return { value := ← perform (.eval e) }
    let outer := (← get).locals
    let locals := f.parameters.zipIdx.map fun (p, i) => (p, (cells[i]?).getD {})
    modify fun w => { w with locals }
    let result ← tryCatch (do perform (.run f.body); return .nothing) fun
      | .function v => return v
      | l => throw l
    modify fun w => { w with locals := outer }
    return result

/-- The value of an expression. -/
def evalExpr (programs : Programs) (perform : Perform) : Expr → Work Value
  | .number x => return .number x
  | .text s => return .text s
  | .regex r => do return .ofBool (r.isIn (← recordText).toList.toArray)
  | .variable name => getVariable name
  | .element table keys => do getElement table (← evalKey perform keys)
  | .field e => do getField (clamped (← evalNumber perform e))
  | .assign target sign value => do
    let place ← evalPlace perform target
    let v ← perform (.eval value)
    let v ← if sign.isEmpty then pure v
      else do pure (Value.number (arithmetic sign (← place.get).toNumber v.toNumber))
    place.set v
    return v
  | .step target up before => do
    let place ← evalPlace perform target
    let old := (← place.get).toNumber
    let new := if up then old + 1.0 else old - 1.0
    place.set (.number new)
    return .number (if before then old else new)
  | .negate e => do return .ofBool (!(← evalTest perform e))
  | .minus e => do return .number (-(← evalNumber perform e))
  | .plus e => do return .number (← evalNumber perform e)
  | .binary sign a b => do
    if sign.isEmpty then
      let s ← evalText perform a
      return .text (s ++ (← evalText perform b))
    else
      let x ← evalNumber perform a
      return .number (arithmetic sign x (← evalNumber perform b))
  | .compare sign a b => do
    let x ← perform (.eval a)
    let y ← perform (.eval b)
    return .ofBool (isAsSaid sign (x.compare (← convFormat) y))
  | .fits negated a b => do
    let s ← evalText perform a
    let r ← evalPattern perform b
    return .ofBool (r.isIn s.toList.toArray != negated)
  | .isIn keys table => do
    let key ← evalKey perform keys
    return .ofBool ((← getTable table).any (·.1 == key))
  | .both a b => do
    if ← evalTest perform a then return .ofBool (← evalTest perform b) else return .ofBool false
  | .either a b => do
    if ← evalTest perform a then return .ofBool true else return .ofBool (← evalTest perform b)
  | .choose test yes no => do
    if ← evalTest perform test then perform (.eval yes) else perform (.eval no)
  | .call name arguments => evalCall perform name arguments
  | .builtin name arguments => evalBuiltin programs perform name arguments
  | .group [e] => perform (.eval e)
  | .group es => do return .text (← evalKey perform es)
  | .readLine source target => evalReadLine programs perform source target

/-! ## Statements -/

/-- How many rounds a loop can have. -/
def roundLimit : Nat := 1000000

/-- Carries out one round of a loop; whether another can follow. -/
def runRound (body : Work Unit) : Work Bool :=
  tryCatch (do body; return true) fun
    | .loop => return false
    | .round => return true
    | l => throw l

/-- Repeats a body, with a step behind each round, as long as a test goes well. -/
def runLoop (test : Work Bool) (body step : Work Unit) : Nat → Work Unit
  | 0 => throw .script
  | rounds + 1 => do
    if ← test then
      if ← runRound body then
        step
        runLoop test body step rounds

/-- Repeats a body for keys. -/
def runEach (name : String) (body : Work Unit) : List String → Work Unit
  | [] => return
  | key :: keys => do
    setVariable name (.text key)
    if ← runRound body then runEach name body keys

/-- A value as it is written. -/
def shown (v : Value) : Work String := do
  match v with
  | .number x => return numberText ((← global "OFMT").toText "%.6g") x
  | v => text v

/-- Writes values. -/
def runPrint (perform : Perform) (formatted : Bool) (es : List Expr)
    (outlet : Option (Outlet × Expr)) : Work Unit := do
  let vs ← es.mapM fun e => perform (.eval e)
  let outlet ← outlet.mapM fun (o, e) => do return (o, ← evalText perform e)
  if formatted then emit outlet (← formatValues "printf" vs)
  else
    let line ← if es.isEmpty then recordText else do
      pure ((← globalText "OFS").intercalate (← vs.mapM shown))
    emit outlet (line ++ (← globalText "ORS"))

/-- Carries a statement out. -/
def runStmt (perform : Perform) : Stmt → Work Unit
  | .block ss => ss.forM fun s => perform (.run s)
  | .eval e => do let _ ← perform (.eval e)
  | .print formatted es outlet => runPrint perform formatted es outlet
  | .choose test yes no => do
    if ← evalTest perform test then perform (.run yes)
    else
      match no with
      | some s => perform (.run s)
      | none => return
  | .loop test body =>
    runLoop (evalTest perform test) (perform (.run body)) (return) roundLimit
  | .loopAfter body test => do
    if ← runRound (perform (.run body)) then
      runLoop (evalTest perform test) (perform (.run body)) (return) roundLimit
  | .count first test step body => do
    first.forM fun s => perform (.run s)
    let test : Work Bool := match test with
      | some e => evalTest perform e
      | none => return true
    runLoop test (perform (.run body)) (step.forM fun s => perform (.run s)) roundLimit
  | .each name table body => do
    runEach name (perform (.run body)) (tableOrder ((← getTable table).map (·.1)))
  | .leave => throw .loop
  | .goOn => throw .round
  | .next => throw .record
  | .exit e => do
    if let some e := e then
      let code := clamped (← evalNumber perform e)
      modify fun w => { w with status := (code % 256).toNat }
    throw .script
  | .answer e => do
    match e with
    | some e => throw (.function (← perform (.eval e)))
    | none => throw (.function .nothing)
  | .delete table keys => do
    match keys with
    | none => setTable table []
    | some keys =>
      let key ← evalKey perform keys
      setTable table ((← getTable table).filter (·.1 != key))

/-- Does what is asked, with parts of parts to a depth. -/
def performWithin (programs : Programs) : Nat → Perform
  | 0, _ => fail "function call nesting too deep"
  | depth + 1, .eval e => evalExpr programs (performWithin programs depth) e
  | depth + 1, .run s => runStmt (performWithin programs depth) s

/-- How deep the parts of a script can be. -/
def depthLimit : Nat := 10000

/-! ## Rules -/

/-- Whether a rule is for the record. -/
def isMeant (perform : Perform) (number : Nat) : Pattern → Work Bool
  | .first | .last => return false
  | .always => return true
  | .holds e => evalTest perform e
  | .range a b => do
    let isOpen ← if (← get).inRange.contains number then pure true else evalTest perform a
    if isOpen then
      let ends ← evalTest perform b
      modify fun w =>
        let others := w.inRange.filter (· != number)
        { w with inRange := if ends then others else number :: others }
    return isOpen

/-- Carries out the rules for one record. -/
def runRules (perform : Perform) : List (Rule × Nat) → Work Unit
  | [] => return
  | (rule, number) :: rules => do
    if ← isMeant perform number rule.pattern then
      match rule.body with
      | some s => perform (.run s)
      | none => runPrint perform false [] none
    runRules perform rules

/-- How many records can be read. -/
def recordLimit : Nat := 10000000

/-- Carries out the rules for all records. -/
def runRecords (perform : Perform) (rules : List (Rule × Nat)) : Nat → Work Unit
  | 0 => return
  | records + 1 => do
    match ← nextRecord? with
    | none => return
    | some record =>
      setRecord record
      tryCatch (runRules perform rules) fun
        | .record => return
        | l => throw l
      runRecords perform rules records

/-- Carries out the bodies of rules. -/
def runBodies (perform : Perform) (bodies : List Stmt) : Work Unit := bodies.forM fun s => perform (.run s)

/-- Carries a script out: what comes first, the records, and what comes last. -/
def runScript (programs : Programs) (s : Script) : Work Unit := do
  let perform := performWithin programs depthLimit
  let bodies (isMeant : Pattern → Bool) : List Stmt :=
    s.rules.filterMap fun r => if isMeant r.pattern then r.body else none
  let first := bodies fun | .first => true | _ => false
  let last := bodies fun | .last => true | _ => false
  let others := s.rules.zipIdx.filter fun (r, _) => match r.pattern with
    | .first | .last => false
    | _ => true
  let upToEnd (work : Work Unit) : Work Bool := tryCatch (do work; return true) fun
    | .failure message => throw (.failure message)
    | .script => return false
    | _ => return true
  if ← upToEnd (runBodies perform first) then
    if !others.isEmpty || !last.isEmpty then
      let _ ← upToEnd (runRecords perform others recordLimit)
  let _ ← upToEnd (runBodies perform last)

/-! ## The program -/

/-- What the program is started with. -/
structure Setup where
  /-- Variables that are set before anything else. -/
  bindings : List (String × Value)
  /-- Files that hold the script. -/
  files : List String
  rest : List String

/-- Reads options up to the first operand, or says what is wrong. -/
def readSetup : List String → Setup → Except String Setup
  | [], s => .ok s
  | "--" :: rest, s => .ok { s with rest }
  | argument :: rest, s =>
    let set (letter : Char) (value : String) : Except String Setup :=
      if letter == 'F' then .ok { s with bindings := s.bindings ++ [("FS", givenText (Text.spread value))] }
      else if letter == 'v' then
        match assignment? (Text.spread value) with
        | some v => .ok { s with bindings := s.bindings ++ [v] }
        | none => .error ("improper assignment: -v " ++ value)
      else if letter == 'f' then .ok { s with files := s.files ++ [value] }
      else .ok s
    match argument.toList with
    | '-' :: c :: cs =>
      if !(['F', 'v', 'f', 'W'].contains c) then .error ("not an option: " ++ argument)
      else if !cs.isEmpty then (set c (String.ofList cs)).bind (readSetup rest)
      else
        match rest with
        | value :: rest => (set c value).bind (readSetup rest)
        | [] => .error ("option " ++ argument ++ " lacks argument")
    | _ => .ok { s with rest := argument :: rest }

/-- The variables that there are from the beginning. -/
def firstVariables : List (String × Value) :=
  [("NR", .number 0.0), ("FNR", .number 0.0), ("FS", .text " "), ("OFS", .text " "), ("ORS", .text "\n"),
    ("RS", .text "\n"), ("SUBSEP", .text "\x1c"), ("RSTART", .number 0.0), ("RLENGTH", .number (-1.0)),
    ("CONVFMT", .text "%.6g"), ("OFMT", .text "%.6g"), ("FILENAME", .nothing)]

/-- What rules work on at first. -/
def World.ofSetup (name : String) (j : Job) (script : Script) (operands : List String) : World :=
  let arguments : Table := (name :: operands).zipIdx.foldl
    (fun t (a, i) => (Nat.repr i, Value.given (Text.spread a)) :: t) []
  let bindings : Table := j.bindings.foldl (fun t (n, v) => (Text.spread n, .given (Text.spread v)) :: t) []
  { script, job := j, name, locals := [], tables := #[arguments, bindings]
    globals := ("ARGV", { table := some 0 }) :: ("ENVIRON", { table := some 1 }) ::
      ("ARGC", { value := .ofNat (operands.length + 1) }) ::
      firstVariables.map fun (n, v) => (n, { value := v })
    record := some "", fields := [], inRange := [], operand := 1, current := none, hasRead := false
    input := (Text.ofBytes j.input).toList, touched := false, readers := [], writers := [], held := []
    out := [], err := [], status := 0, slept := 0, seed := 1 }

/-- Carries a script out on operands. -/
def runSetup (programs : Programs) (name : String) (j : Job) (bindings : List (String × Value))
    (script : Script) (operands : List String) : Running Output := do
  let work : Work Unit := do
    bindings.forM fun (n, v) => setVariable n v
    runScript programs script
  let (result, w) ← (work.run).run (World.ofSetup name j script operands)
  let (_, w) ← ((closeAll programs).run).run w
  let (err, code) := match result with
    | .error (.failure message) => (Recap.Text.bytes (name ++ ": ") ++ Text.toBytes message, 2)
    | _ => ([], w.status)
  return {
    out := w.out.reverse.flatten, err := w.err.reverse.flatten ++ err, status := .exited code
    rest := if w.touched then [] else Text.toBytes (String.ofList w.input), slept := w.slept }

end Rules

open Rules Recap.Shell

/-- Does for records what rules say. -/
def awk (name : String) (programs : Programs) : Program := fun j => do
  let refuse (message : String) : Output := .failed 2 (name ++ ": " ++ message ++ "\n") j.input
  match readSetup j.arguments { bindings := [], files := [], rest := [] } with
  | .error message => return refuse message
  | .ok s =>
    let run (text : String) (operands : List String) : Running Output :=
      match readScript (Text.spread text) with
      | .error e =>
        let word := if e.message.startsWith "unexpected character" then "" else "line "
        return refuse (word ++ Nat.repr e.line ++ ": " ++ Text.gathered e.message)
      | .ok script => runSetup programs name j s.bindings script operands
    if s.files.isEmpty then
      match s.rest with
      | [] => return .failed 0 ("Usage: " ++ name ++ " [Options] [Program] [file ...]\n") j.input
      | text :: operands => run text operands
    else
      let mut texts : List String := []
      for file in s.files do
        if isInputName file then texts := texts ++ [Text.decode j.input]
        else
          match ← j.read file with
          | .ok bytes => texts := texts ++ [Text.decode bytes]
          | .error fault => return refuse ("cannot open \"" ++ file ++ "\" (" ++ fault.phrase ++ ")")
      run ("\n".intercalate texts) s.rest

end Recap.Tool
