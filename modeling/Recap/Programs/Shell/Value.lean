import Recap.Programs.Shell.Arithmetic
import Recap.Programs.Shell.Session

/-!
# Values of variables

How the variables of a session are read and set. Some variables of the larger language show what the
shell is doing; others have sums for their values.

## Contents
- `Session.target`, `Session.held` — which variable a name leads to, and what it holds.
- `sumVariables`, `evaluate` — variables in sums, and the values of sums.
- `keyOf?` — the keys of rows and tables.
- `Act.getVariable?`, `Act.trySet`, `Act.setVariable`, `Act.trySetItem` — variables.
-/

namespace Recap.Shell

open Act

/-! ## Reading -/

/-- How many variables can stand for each other. -/
def referenceLimit : Nat := 8

/-- The name that a variable leads to after a number of references. -/
def Session.targetWithin (s : Session) : Nat → String → String
  | 0, name => name
  | n + 1, name =>
    match s.bindings.lookup name with
    | some v =>
      match v.refers, v.value? with
      | true, some other => s.targetWithin n other
      | _, _ => name
    | none => name

/-- The variable that a name leads to. -/
def Session.target (s : Session) (name : String) : String := s.targetWithin referenceLimit name

/-- What variables hold that show what the shell is doing. -/
def Session.shown? (s : Session) (name : String) : Option Held :=
  match s.flavour, name with
  | .enlarged, "FUNCNAME" =>
    if s.called.isEmpty then none
    else some (.ofTexts (s.called ++ if s.origin == .file then ["main"] else []))
  | .enlarged, "PIPESTATUS" => some (.ofTexts (s.pipeStatus.map Nat.repr))
  | .enlarged, "_" => some (.text s.lastWord)
  | .enlarged, "RANDOM" => some (.text (Nat.repr (17767 * (s.clock + s.line + 1) % 32768)))
  | .enlarged, "BASH_SUBSHELL" => some (.text (Nat.repr s.depth))
  | .enlarged, "SECONDS" => some (.text (Nat.repr (s.clock / 1000)))
  | .enlarged, "LINENO" => some (.text (Nat.repr s.line))
  | _, _ => none

/-- What a variable holds. -/
def Session.held (s : Session) (name : String) : Held :=
  let name := s.target name
  (s.shown? name).getD (((s.bindings.lookup name).map (·.held)).getD .nothing)

/-- The item that a variable holds under a key. -/
def Held.item? (h : Held) (key : String) : Option String :=
  match h with
  | .nothing => none
  | .text s => if key == "0" then some s else none
  | .row items => (numberOfDigits? key).bind fun n => items.lookup n
  | .table items => items.lookup key

/-- What is held with an item under a key. -/
def Held.withItem (h : Held) (key value : String) : Held :=
  match h with
  | .table items => .table (Held.insertKey key value items)
  | h => .row (Held.insertAt ((numberOfDigits? key).getD 0) value h.asRow)

/-- What is held without the item under a key. -/
def Held.withoutItem (h : Held) (key : String) : Held :=
  match h with
  | .nothing => .nothing
  | .text s => if key == "0" then .nothing else .text s
  | .row items => .row (items.filter fun i => some i.1 != numberOfDigits? key)
  | .table items => .table (items.filter (·.1 != key))

/-- Puts a variable in the place of another. -/
def Session.put (s : Session) (name : String) (v : Option Variable) : Session :=
  let others := s.bindings.filter (·.1 != name)
  { s with bindings := match v with
      | some v => others ++ [(name, v)]
      | none => others }

/-- The variable of a name, or a new one. -/
def Session.variable (s : Session) (name : String) : Variable :=
  (s.bindings.lookup name).getD { held := .nothing, exported := s.options.contains 'a' }

/-! ## Sums -/

/-- The variables of a session, as sums of the smaller language use them. -/
def smallVariables : Sum.Variables Session where
  locate s p := .ok (p, s)
  number s p := do return (← Sum.numberOf ((s.held p.name).text?.getD ""), s)
  set s p value :=
    let old := s.variable p.name
    if old.readOnly then .error (.readOnly p.name)
    else .ok (s.put p.name (some { old with held := .text value }))

/-- The number of an item that is counted from the end of a row where it is below zero. -/
def Held.position? (h : Held) (i : Int) : Option Nat :=
  let i := if i < 0 then (h.nextNumber : Int) + i else i
  if i < 0 then none else some i.toNat

/-- The variables of a session, as sums of the larger language use them: the values of variables are sums
    again, to a depth. -/
def largeVariables : Nat → Sum.Variables Session
  | 0 =>
    { locate := fun _ p => .error (.tooDeep p.name), number := fun _ p => .error (.tooDeep p.name)
      set := fun s _ _ => .ok s }
  | depth + 1 =>
    let within (s : Session) (text : String) : Except SumError (Int × Session) :=
      match (Sum.ofText true text).bind fun sum => sum.value (largeVariables depth) s with
      | .error (.readOnly name) => .error (.readOnly name)
      | .error (.unbound name) => .error (.unbound name)
      | .error (.inside sum e) => .error (.inside sum e)
      | .error e => .error (.inside text e)
      | .ok found => .ok found
    { locate := fun s p =>
        let name := s.target p.name
        match p.key with
        | none => .ok (⟨name, none⟩, s)
        | some key =>
          if (s.held name).isTable then .ok (⟨name, some key⟩, s)
          else do
            let (i, s) ← within s key
            match (s.held name).position? i with
            | some n => .ok (⟨name, some (Nat.repr n)⟩, s)
            | none => .error (.badKey (name ++ "[" ++ key ++ "]"))
      number := fun s p =>
        let found := match p.key with
          | none => (s.held p.name).text?
          | some key => (s.held p.name).item? key
        match found with
        | some text => within s text
        | none => if s.options.contains 'u' then .error (.unbound p.name) else .ok (0, s)
      set := fun s p value =>
        let old := s.variable p.name
        if old.readOnly then .error (.readOnly p.name)
        else
          .ok (s.put p.name (some { old with held := match p.key with
            | none => old.held.withText value
            | some key => old.held.withItem key value })) }

/-- How deep sums can lead to sums. -/
def sumDepth : Nat := 1024

/-- The value of a sum; an error is complained about in the name of a command. -/
def tryEvaluate (command text : String) : Act (Option Int) := do
  let before ← get
  let enlarged := before.flavour == .enlarged
  let bindings := if enlarged then largeVariables sumDepth else smallVariables
  match (Sum.ofText enlarged text).bind fun sum => sum.value bindings before with
  | .error (.unbound name) => abortMissing (name ++ ": unbound variable")
  | .error e =>
    complain (if enlarged then e.largeMessage command text else e.message text)
    return none
  | .ok (value, after) =>
    set after
    return some value

/-- The value of a sum; an error ends the line. -/
def evaluateFor (command text : String) : Act Int := do
  match ← tryEvaluate command text with
  | some value => return value
  | none =>
    setStatus (← abortCode)
    throw (if (← isEnlarged) then .line else .script)

/-- The value of a sum. -/
def evaluate (text : String) : Act Int := evaluateFor "" text

/-- The key that a text stands for in what a variable holds: the value of a sum where items are counted;
    nothing where there can be none. -/
def keyOf? (h : Held) (text : String) : Act (Option String) := do
  if h.isTable then return if text.isEmpty then none else some text
  else if text.toList.all Char.isWhitespace then return none
  else return (h.position? (← evaluate text)).map Nat.repr

namespace Act

/-! ## Variables -/

/-- The text of a variable. -/
def getVariable? (name : String) : Act (Option String) := do return ((← get).held name).text?

/-- Puts a variable in the place of another. -/
def putVariable (name : String) (v : Option Variable) : Act Unit := modify fun s => s.put name v

/-- Complains that a variable cannot be set; in the smaller language, that ends the script. -/
def refuseReadOnly (command name : String) : Act Unit := do
  if ← isEnlarged then refuse 1 (command ++ name ++ ": readonly variable")
  else abort (name ++ ": is read only")

/-- A text as a variable keeps it. -/
def keptText (command : String) (v : Variable) (value : String) : Act String := do
  if v.isSum then return Sum.textOf (← evaluateFor command value) else return v.cased value

/-- What a text becomes behind another: a longer text, or the sum of both. -/
def joinedText (v : Variable) (old value : String) : String :=
  if v.isSum then (if old.isEmpty then "0" else old) ++ "+(" ++ value ++ ")" else old ++ value

/-- Sets a variable, in the name of a command; whether that was possible. -/
def trySetFor (command name : String) (adds : Bool) (value : String) : Act Bool := do
  let name := (← get).target name
  let old := (← get).variable name
  if old.readOnly then
    refuseReadOnly command name
    return false
  else
    let value := if adds then joinedText old (old.value?.getD "") value else value
    let value ← keptText command old value
    putVariable name (some { old with held := old.held.withText value })
    return true

/-- Sets a variable; whether that was possible. -/
def trySet (name value : String) : Act Bool := trySetFor "" name false value

/-- Sets a variable, or ends the line. -/
def setVariable (name value : String) : Act Unit := do
  if !(← trySet name value) then throw .line

/-- Sets an item of a variable; whether that was possible. -/
def trySetItem (name key : String) (adds : Bool) (value : String) : Act Bool := do
  let name := (← get).target name
  let old := (← get).variable name
  if old.readOnly then
    refuseReadOnly "" name
    return false
  else
    match ← keyOf? old.held key with
    | none =>
      refuse 1 (name ++ "[" ++ key ++ "]: bad array subscript")
      return false
    | some k =>
      let value := if adds then joinedText old ((old.held.item? k).getD "") value else value
      let value ← keptText "" old value
      let old := (← get).variable name
      putVariable name (some { old with held := old.held.withItem k value })
      return true

/-- The variables that programs are handed. -/
def exportedVariables : Act (List (String × String)) := do
  return (← get).bindings.filterMap fun (name, v) =>
    if v.exported && !v.held.isMany then v.value?.map fun value => (name, value) else none

end Act

end Recap.Shell
