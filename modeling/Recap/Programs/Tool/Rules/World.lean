import Recap.Programs.Shell.Session
import Recap.Programs.Tool.Options
import Recap.Programs.Tool.Rules.Script

/-!
# What rules work on

The record and its fields, variables and tables, and what is read and written.

## Contents
- `Separator`, `splitText` — what stands between fields.
- `takeRecord?` — records of a text.
- `World`, `Leave`, `Work` — the state, and how work on it is interrupted.
- `Work.getVariable`, `Work.setVariable`, `Work.getElement`, `Work.setElement` — variables and tables.
- `Work.getField`, `Work.setField` — fields.
- `Work.emit`, `Work.close` — what is written.
- `Work.nextRecord?`, `Work.nextLine?` — what is read.
-/

namespace Recap.Tool.Rules

open Recap.Shell (Bytes Call Job Output Programs Regex Running)
open Machine (Fault)

/-! ## Fields -/

/-- What stands between fields. -/
inductive Separator where
  | blanks
  | char (c : Char)
  | pattern (r : Regex)
  /-- Nothing: each character is a field. -/
  | nothing

/-- The separator that a text stands for. -/
def Separator.ofText (text : String) : Except String Separator :=
  match text.toList with
  | [] => .ok .nothing
  | [' '] => .ok .blanks
  | [c] => .ok (.char c)
  | _ => (regexOf text).map .pattern

/-- A separator, or the end of a line. -/
def Separator.orLine : Separator → Separator
  | .blanks => .blanks
  | .char c => .pattern (.oneOf false [(c, c), ('\n', '\n')])
  | .pattern r => .pattern (.either r (.char '\n'))
  | .nothing => .nothing

/-- Pieces between characters. -/
def splitAtChars (isBetween : Char → Bool) (text : List Char) : List String :=
  (text.splitOnP isBetween).map String.ofList

/-- Pieces between the places where a pattern fits, each of which has at least one character. -/
def splitAtFits (r : Regex) (text : Array Char) : List String :=
  let fits := (r.fits text).filter fun fit => fit.start != fit.stop
  let starts := 0 :: fits.map (·.stop)
  let stops := fits.map (·.start) ++ [text.size]
  (starts.zip stops).map fun (start, stop) => String.ofList (Regex.slice text start stop)

/-- The fields of a text. -/
def splitText (s : Separator) (text : String) : List String :=
  if text.isEmpty then []
  else
    match s with
    | .blanks => (splitAtChars Char.isWhitespace text.toList).filter (!·.isEmpty)
    | .char c => splitAtChars (· == c) text.toList
    | .pattern r => splitAtFits r text.toList.toArray
    | .nothing => text.toList.map Char.toString

/-! ## Records -/

/-- The characters before the first empty line, and what comes after it and all that follow it. -/
def takeParagraph : List Char → List Char × List Char
  | [] => ([], [])
  | '\n' :: '\n' :: cs => ([], cs.dropWhile (· == '\n'))
  | ['\n'] => ([], [])
  | c :: cs =>
    let (text, rest) := takeParagraph cs
    (c :: text, rest)

/-- The first record of a text, and what comes after it. -/
def takeRecord? (separator : String) (text : List Char) : Option (String × List Char) :=
  match separator.toList with
  | [] =>
    match text.dropWhile (· == '\n') with
    | [] => none
    | cs =>
      let (record, rest) := takeParagraph cs
      some (String.ofList record, rest)
  | [c] =>
    if text.isEmpty then none
    else some (String.ofList (text.takeWhile (· != c)), (text.dropWhile (· != c)).drop 1)
  | _ =>
    if text.isEmpty then none
    else
      match (regexOf separator).toOption.bind fun r =>
          (r.fits text.toArray).find? fun fit => fit.start != fit.stop with
      | some fit => some (String.ofList (text.take fit.start), text.drop fit.stop)
      | none => some (String.ofList text, [])

/-! ## State -/

/-- A table: keys and values, the last that came first. -/
abbrev Table := List (String × Value)

/-- What a name stands for: a value, or a table by its number. -/
structure Cell where
  value : Value := .nothing
  table : Option Nat := none

/-- What rules work on. -/
structure World where
  script : Script
  job : Job
  /-- The name that complaints begin with. -/
  name : String
  globals : List (String × Cell)
  /-- The parameters of the function being carried out. -/
  locals : List (String × Cell)
  tables : Array Table
  /-- The record; nothing where it has to be put together from its fields. -/
  record : Option String
  fields : List Value
  /-- The ranges that are open, by the numbers of their rules. -/
  inRange : List Nat
  /-- The number of the next operand. -/
  operand : Nat
  /-- What is left of the file being read; nothing stands for the input. -/
  current : Option (Option (List Char))
  /-- Whether a file has been read. -/
  hasRead : Bool
  /-- What is left of the input. -/
  input : List Char
  /-- Whether some of the input has been read. -/
  touched : Bool
  /-- Files and commands that lines are read from, and what is left of them. -/
  readers : List ((Bool × String) × List Char)
  /-- Files and commands that are written to, and what commands are to be given. -/
  writers : List ((Bool × String) × List String)
  /-- What is written when something else is, the last first. -/
  held : List String
  out : List Bytes
  err : List Bytes
  status : Nat
  slept : Nat
  seed : Nat

/-- The ways in which work is interrupted. -/
inductive Leave where
  /-- A loop ends. -/
  | loop
  /-- A round of a loop ends. -/
  | round
  /-- The next record is to be read. -/
  | record
  /-- A function ends with a value. -/
  | function (v : Value)
  | script
  /-- The program ends with a complaint. -/
  | failure (message : String)

/-- Work with rules. -/
abbrev Work := ExceptT Leave (StateT World Running)

namespace Work

/-- Carries on a dialogue with the machine. -/
def running {α : Type} (d : Running α) : Work α := ExceptT.lift (StateT.lift d)

/-- Asks the machine. -/
def ask (c : Call) : Work c.Answer := running c.ask

/-! ## Variables -/

/-- What a name stands for. -/
def cell (name : String) : Work Cell := do
  let w ← get
  match w.locals.lookup name with
  | some c => return c
  | none => return (w.globals.lookup name).getD {}

/-- Puts something in the place of what a name stands for. -/
def putCell (name : String) (c : Cell) : Work Unit := modify fun w =>
  let put (cells : List (String × Cell)) : List (String × Cell) :=
    cells.map fun e => if e.1 == name then (name, c) else e
  if (w.locals.lookup name).isSome then { w with locals := put w.locals }
  else if (w.globals.lookup name).isSome then { w with globals := put w.globals }
  else { w with globals := (name, c) :: w.globals }

/-- The value of a variable that always is a global one. -/
def global (name : String) : Work Value := do
  return (((← get).globals.lookup name).map (·.value)).getD .nothing

/-- The format of numbers in texts. -/
def convFormat : Work String := do return (← global "CONVFMT").toText "%.6g"

/-- A value as a text. -/
def text (v : Value) : Work String := do
  match v with
  | .number x => return numberText (← convFormat) x
  | v => return v.toText ""

/-- The text of a variable that always is a global one. -/
def globalText (name : String) : Work String := do text (← global name)

/-- Ends with a complaint about what happened while working. -/
def fail {α : Type} (message : String) : Work α := do
  let file ← globalText "FILENAME"
  let count ← globalText "FNR"
  let total ← globalText "NR"
  throw (.failure ("run time error: " ++ message ++ "\n\tFILENAME=\"" ++ file ++ "\" FNR=" ++ count ++
    " NR=" ++ total ++ "\n"))

/-! ## The record -/

/-- The record. -/
def recordText : Work String := do
  match (← get).record with
  | some s => return s
  | none =>
    let pieces ← (← get).fields.mapM text
    let record := (← globalText "OFS").intercalate pieces
    modify fun w => { w with record := some record }
    return record

/-- Puts another record in the place of the record, and its fields in the place of the fields. -/
def setRecord (record : String) : Work Unit := do
  match Separator.ofText (← globalText "FS") with
  | .error message => fail message
  | .ok s =>
    let s := if (← globalText "RS").isEmpty then s.orLine else s
    modify fun w => { w with record := some record, fields := (splitText s record).map .given }

/-- A field; that with the number zero is the record. -/
def getField (i : Int) : Work Value := do
  if i < 0 then fail ("negative field index $" ++ intText i)
  else if i == 0 then return .given (← recordText)
  else return ((← get).fields[i.toNat - 1]?).getD .nothing

/-- Sets the number of fields. -/
def setFieldCount (n : Nat) : Work Unit := modify fun w =>
  { w with
    record := none
    fields := w.fields.take n ++ List.replicate (n - w.fields.length) (.given "") }

/-- Sets a field. -/
def setField (i : Int) (v : Value) : Work Unit := do
  if i < 0 then fail ("negative field index $" ++ intText i)
  else if i == 0 then setRecord (← text v)
  else
    if (← get).fields.length < i.toNat then setFieldCount i.toNat
    modify fun w => { w with record := none, fields := w.fields.set (i.toNat - 1) v }

/-- The value of a variable. -/
def getVariable (name : String) : Work Value := do
  if name == "NF" then return .ofNat (← get).fields.length else return (← cell name).value

/-- Sets a variable. -/
def setVariable (name : String) (v : Value) : Work Unit := do
  if name == "NF" then setFieldCount (clamped v.toNumber).toNat
  else putCell name { ← cell name with value := v }

/-! ## Tables -/

/-- The number of the table of a name. -/
def tableOf (name : String) : Work Nat := do
  let c ← cell name
  match c.table with
  | some n => return n
  | none =>
    let n := (← get).tables.size
    modify fun w => { w with tables := w.tables.push [] }
    putCell name { c with table := some n }
    return n

/-- The table of a name. -/
def getTable (name : String) : Work Table := do
  let n ← tableOf name
  return (← get).tables.getD n []

/-- Puts a table in the place of the table of a name. -/
def setTable (name : String) (t : Table) : Work Unit := do
  let n ← tableOf name
  modify fun w => { w with tables := w.tables.setIfInBounds n t }

/-- Sets an element of a table. -/
def setElement (name key : String) (v : Value) : Work Unit := do
  let t ← getTable name
  if t.any (·.1 == key) then setTable name (t.map fun e => if e.1 == key then (key, v) else e)
  else setTable name ((key, v) :: t)

/-- An element of a table, which is there afterwards. -/
def getElement (name key : String) : Work Value := do
  match (← getTable name).lookup key with
  | some v => return v
  | none =>
    setElement name key .nothing
    return .nothing

/-! ## Commands -/

/-- Writes what is held. -/
def flush : Work Unit := modify fun w =>
  { w with out := Text.toBytes (String.join w.held.reverse) :: w.out, held := [] }

/-- Carries a command out; without an input of its own, it shares the input. -/
def command (programs : Programs) (text : String) (input : Option String) : Work Output := do
  flush
  let w ← get
  let given := match input with
    | some s => Text.toBytes s
    | none => Text.toBytes (String.ofList w.input)
  let job := { w.job with arguments := ["-c", Text.gathered text], input := given }
  match ← running (programs.launch none "sh" job) with
  | .ok o =>
    modify fun w => { w with
      err := o.err :: w.err, slept := w.slept + o.slept
      input := if input.isSome then w.input else (Text.ofBytes o.rest).toList }
    return o
  | .error _ => return .ended 127 given

/-- Carries a command out, and writes what it writes. -/
def commandAloud (programs : Programs) (text : String) (input : Option String) : Work Nat := do
  let o ← command programs text input
  modify fun w => { w with out := o.out :: w.out }
  return o.status.code

/-! ## Writing -/

/-- Writes a text to a file or a command. -/
def emit (outlet : Option (Outlet × String)) (text : String) : Work Unit := do
  let hold : Work Unit := modify fun w => { w with held := text :: w.held }
  match outlet with
  | none => hold
  | some (o, name) =>
    if o == .command then
      match (← get).writers.lookup (true, name) with
      | some pieces =>
        modify fun w => { w with
          writers := w.writers.map fun e => if e.1 == (true, name) then (e.1, text :: pieces) else e }
      | none =>
        flush
        modify fun w => { w with writers := ((true, name), [text]) :: w.writers }
    else if name == "/dev/stdout" || name == "-" then hold
    else if name == "/dev/stderr" then modify fun w => { w with err := Text.toBytes text :: w.err }
    else
      let path := (← get).job.path (Text.gathered name)
      if ((← get).writers.lookup (false, name)).isNone then
        match ← ask (.writeBytes path [] (o == .append)) with
        | .error fault =>
          throw (.failure ("cannot open \"" ++ name ++ "\" for output (" ++ fault.phrase ++ ")\n"))
        | .ok () => modify fun w => { w with writers := ((false, name), []) :: w.writers }
      let _ ← ask (.writeBytes path (Text.toBytes text) true)

/-- Ends what is written to a file or a command, and what is read from it; its status. -/
def close (programs : Programs) (name : String) : Work Value := do
  let w ← get
  set { w with
    writers := w.writers.filter (·.1.2 != name), readers := w.readers.filter (·.1.2 != name) }
  match w.writers.lookup (true, name) with
  | some pieces => return .ofNat (← commandAloud programs name (some (String.join pieces.reverse)))
  | none =>
    let isOpen := w.writers.any (·.1.2 == name) || w.readers.any (·.1.2 == name)
    return .number (if isOpen then 0.0 else -1.0)

/-- Ends all that is written to. -/
def closeAll (programs : Programs) : Work Unit := do
  for ((_, name), _) in (← get).writers do
    let _ ← close programs name
  flush

/-! ## Reading -/

/-- A value that was read from the outside, in which backslashes mean something. -/
def givenText (s : String) : Value :=
  .given (((takeText? (s.length + 2) (s.toList ++ ['"']) []).map (·.1)).getD s)

/-- The variable that an operand sets, and its value. -/
def assignment? (operand : String) : Option (String × Value) :=
  let name := operand.toList.takeWhile fun c => c.isAlphanum || c == '_'
  match name, operand.toList.drop name.length with
  | first :: _, '=' :: value =>
    if first.isDigit then none else some (String.ofList name, givenText (String.ofList value))
  | _, _ => none

/-- Goes on to the next file; whether there is one. `fuel` is at least the number of operands. -/
def nextFile : Nat → Work Bool
  | 0 => return false
  | fuel + 1 => do
    let w ← get
    if clamped (← global "ARGC").toNumber ≤ w.operand then
      if w.hasRead then return false
      else
        set { w with current := some none, hasRead := true }
        return true
    else
      set { w with operand := w.operand + 1 }
      let name := ((← getTable "ARGV").lookup (Nat.repr w.operand)).getD .nothing |>.toText ""
      if name.isEmpty then nextFile fuel
      else
        match assignment? name with
        | some (x, v) =>
          setVariable x v
          nextFile fuel
        | none =>
          setVariable "FILENAME" (.given name)
          setVariable "FNR" (.number 0.0)
          if name == "-" || name == "/dev/stdin" then
            modify fun w => { w with current := some none, hasRead := true }
            return true
          else
            match ← running (w.job.read (Text.gathered name)) with
            | .ok bytes =>
              modify fun w => { w with current := some (some (Text.ofBytes bytes).toList), hasRead := true }
              return true
            | .error fault =>
              throw (.failure ("cannot open \"" ++ name ++ "\" (" ++ fault.phrase ++ ")\n"))

/-- The next record of the input. -/
def nextOfInput? : Work (Option String) := do
  let separator ← globalText "RS"
  modify fun w => { w with touched := true }
  match takeRecord? separator (← get).input with
  | some (record, rest) =>
    modify fun w => { w with input := rest }
    return some record
  | none => return none

/-- The next record of the files. `fuel` is more than the number of operands. -/
def nextRecordWithin : Nat → Work (Option String)
  | 0 => return none
  | fuel + 1 => do
    let found? ← match (← get).current with
      | none => pure none
      | some none => nextOfInput?
      | some (some text) =>
        match takeRecord? (← globalText "RS") text with
        | some (record, rest) =>
          modify fun w => { w with current := some (some rest) }
          pure (some record)
        | none => pure none
    match found? with
    | some record => return some record
    | none =>
      modify fun w => { w with current := none }
      if ← nextFile ((clamped (← global "ARGC").toNumber).toNat + 1) then nextRecordWithin fuel
      else return none

/-- Adds one to a variable that counts. -/
def countUp (name : String) : Work Unit := do
  setVariable name (.number ((← global name).toNumber + 1.0))

/-- The next record of the files, which are counted. -/
def nextRecord? : Work (Option String) := do
  match ← nextRecordWithin ((clamped (← global "ARGC").toNumber).toNat + 2) with
  | none => return none
  | some record =>
    countUp "NR"
    countUp "FNR"
    return some record

/-- What is left of a file or of what a command writes; nothing if it cannot be read. -/
def reader? (programs : Programs) (isCommand : Bool) (name : String) : Work (Option (List Char)) := do
  match (← get).readers.lookup (isCommand, name) with
  | some text => return some text
  | none =>
    if isCommand then
      let o ← command programs name none
      return some (Text.ofBytes o.out).toList
    else
      match ← running ((← get).job.read (Text.gathered name)) with
      | .ok bytes => return some (Text.ofBytes bytes).toList
      | .error _ => return none

/-- The next record of a file or of what a command writes; the outer nothing says that it cannot be
    read. -/
def nextLine? (programs : Programs) (isCommand : Bool) (name : String) :
    Work (Option (Option String)) := do
  if !isCommand && (name == "-" || name == "/dev/stdin") then return some (← nextOfInput?)
  match ← reader? programs isCommand name with
  | none => return none
  | some text =>
    let key := (isCommand, name)
    let keep (rest : List Char) : Work Unit := modify fun w =>
      { w with readers := (key, rest) :: w.readers.filter (·.1 != key) }
    match takeRecord? (← globalText "RS") text with
    | some (record, rest) =>
      keep rest
      return some (some record)
    | none =>
      keep []
      return some none

end Work

end Recap.Tool.Rules
