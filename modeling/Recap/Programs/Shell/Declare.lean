import Recap.Programs.Shell.Signal

/-!
# Declaring variables

Variables are set by commands that consist of nothing else, and by commands that also say what is known
about them.

## Contents
- `Setting`, `settingOf`, `applySetting` — what is set, and setting it.
- `markVariables` — the commands of the smaller language that mark variables.
- `declareWith` — the commands of the larger language that declare variables.
- `makeLocal`, `unset` — variables of functions, and variables that are forgotten.
-/

namespace Recap.Shell

open Act

/-! ## Settings -/

/-- What a variable is set to: a text, or items of which some have keys. -/
inductive Given where
  | text (s : String)
  | items (items : List (Option String × String))

/-- What is set, in the place of what there is or behind it. -/
structure Setting where
  name : String
  key : Option String
  adds : Bool
  given : Given

/-- What is set by a word after its values have taken their places. -/
def settingOf (perform : Perform) : Assignment → Act Setting
  | .mk name key adds value => do
    let key ← key.mapM (expandText perform)
    match value with
    | [.table parts] =>
      let mut items := []
      for (k, w) in parts do
        match k with
        | some k => items := items ++ [(some (← expandText perform k), ← expandText perform w)]
        | none => items := items ++ (← expandFields perform [w]).map fun s => (none, s)
      return { name, key, adds, given := .items items }
    | value => return { name, key, adds, given := .text (← expandText perform (← expandHomes value)) }

/-- Puts items into a table; without keys, every other item is one. -/
def fillTable (v : Variable) : List (Option String × String) → List (String × String) →
    Act (List (String × String))
  | [], done => return done
  | (some k, s) :: items, done => do fillTable v items (Held.insertKey k (← keptText "" v s) done)
  | (none, k) :: (_, s) :: items, done => do fillTable v items (Held.insertKey k (← keptText "" v s) done)
  | [(none, k)], done => return Held.insertKey k "" done

/-- Puts items into a row, from a number on. -/
def fillRow (v : Variable) : List (Option String × String) → Nat → List (Nat × String) →
    Act (List (Nat × String))
  | [], _, done => return done
  | (none, s) :: items, next, done => do
    fillRow v items (next + 1) (Held.insertAt next (← keptText "" v s) done)
  | (some k, s) :: items, next, done => do
    match (Held.row done).position? (← evaluate k) with
    | some n => fillRow v items (n + 1) (Held.insertAt n (← keptText "" v s) done)
    | none =>
      complain ("[" ++ k ++ "]=" ++ s ++ ": bad array subscript")
      fillRow v items next done

/-- Sets a variable to items; whether that was possible. -/
def setItems (command name : String) (adds : Bool) (items : List (Option String × String)) : Act Bool := do
  let name := (← get).target name
  let v := (← get).variable name
  if v.readOnly then
    refuseReadOnly command name
    return false
  else
    let held ← match v.held with
      | .table old => Held.table <$> fillTable v items (if adds then old else [])
      | old =>
        let start := if adds then old else .nothing
        Held.row <$> fillRow v items start.nextNumber start.asRow
    putVariable name (some { (← get).variable name with held })
    return true

/-- Sets something, in the name of a command; whether that was possible. -/
def applySetting (command : String) (s : Setting) : Act Bool :=
  match s.given, s.key with
  | .text value, none => trySetFor command s.name s.adds value
  | .text value, some key => trySetItem s.name key s.adds value
  | .items items, none => setItems command s.name s.adds items
  | .items _, some key => do
    refuse 1 (s.name ++ "[" ++ key ++ "]: cannot assign list to array member")
    return false

/-- The name and value that an argument has on the sides of an equals sign. -/
def splitAssignment (argument : String) : String × Option String :=
  let name := argument.toList.takeWhile (· != '=')
  match argument.toList.drop name.length with
  | _ :: value => (String.ofList name, some (String.ofList value))
  | [] => (String.ofList name, none)

/-! ## The smaller language -/

/-- Marks variables, and sets those that have a value. -/
def markVariables (command : String) (isMarked : Variable → Bool) (mark : Variable → Variable) : Builtin :=
  fun arguments => do
    let operands := arguments.filter fun a => a != "-p" && a != "--"
    if operands.isEmpty then
      let marked := (← get).bindings.filter fun v => isMarked v.2
      for (name, v) in marked.mergeSort fun a b => a.1 ≤ b.1 do
        say (command ++ " " ++ name ++
          (match v.value? with
            | some value => "=" ++ plainQuoted value
            | none => "") ++ "\n")
    for argument in operands do
      let (name, value) := splitAssignment argument
      if !isName name then abortAs command (name ++ ": bad variable name")
      else
        match value with
        | some text => setVariable name text
        | none => pure ()
        putVariable name (some (mark ((← get).variable name)))
    setStatus 0

/-- Variables that are forgotten when a function ends. -/
def makeLocal : Builtin := fun arguments => do
  if (← get).calls == 0 then abortAs "local" "not in a function"
  for argument in arguments do
    let (name, value) := splitAssignment argument
    if !isName name then abortAs "local" (name ++ ": bad variable name")
    let old := (← get).bindings.lookup name
    modify fun s => { s with hidden := (name, old) :: s.hidden }
    match value with
    | some text => setVariable name text
    | none => pure ()
  setStatus 0

/-! ## The larger language -/

/-- What a command that declares variables is given: a text, or something that is set. -/
inductive Operand where
  | text (s : String)
  | setting (s : Setting)

/-- The text of an operand, as complaints show it. -/
def Operand.shown : Operand → String
  | .text s => s
  | .setting s => s.name ++ "=" ++ (match s.given with
    | .text value => value
    | .items _ => "")

/-- What an operand names, and what it sets. -/
def Operand.parts : Operand → String × Option Setting
  | .setting s => (s.name, some s)
  | .text s =>
    let (front, value) := splitAssignment s
    let adds := front.endsWith "+" && value.isSome
    let (name, key) := splitKey (if adds then String.ofList front.toList.dropLast else front)
    (name, value.map fun v => { name, key, adds, given := .text v })

/-- How a command declares variables. -/
structure DeclareStyle where
  command : String
  usage : String
  /-- The letters of the options that it has. -/
  letters : List Char
  /-- What becomes known about the variables in any case. -/
  always : List Char := []
  /-- Whether the variables belong to the function being carried out. -/
  isLocal : Bool

/-- What becomes known about a variable by the letter of an option. -/
def markWith (on : Bool) (letter : Char) (v : Variable) : Variable :=
  match letter with
  | 'x' => { v with exported := on }
  | 'i' => { v with isSum := on }
  | 'u' => { v with casing := if on then some true else none }
  | 'l' => { v with casing := if on then some false else none }
  | 'n' => { v with refers := on }
  | 'a' => if on && !v.held.isMany then { v with held := .row v.held.asRow } else v
  | 'A' =>
    if on && !v.held.isTable then
      { v with held := .table (match v.held with
          | .text s => [("0", s)]
          | _ => []) }
    else v
  | _ => v

/-- Lets a variable belong to the function being carried out. -/
def claimLocal (name : String) : Act Unit := do
  let s ← get
  if (s.hidden.lookup name).isNone then
    set { s with hidden := (name, s.bindings.lookup name) :: s.hidden }
    putVariable name (some { held := .nothing })

/-- Declares one variable; whether that was possible. -/
def declareOne (d : DeclareStyle) (on off : List Char) (o : Operand) : Act Bool := do
  let (name, setting) := o.parts
  if !isName name then
    complain (d.command ++ ": \x60" ++ o.shown ++ "': not a valid identifier")
    return false
  else
    let s ← get
    let old := s.bindings.lookup name
    let target := if on.contains 'n' then name else s.target name
    let isOwn := d.isLocal && s.calls != 0 && !on.contains 'g'
    let isFixed := (old.map (·.readOnly)).getD false
    if isFixed && setting.isSome then
      refuseReadOnly (if d.always.isEmpty then d.command ++ ": " else "") name
      return false
    else
      if isOwn then claimLocal name
      let target := if isOwn then name else target
      let marked := (off.foldl (fun v c => markWith false c v)
        (on.foldl (fun v c => markWith true c v) { (← get).variable target with refers := false }))
      let wasReference := ((← get).variable target).refers
      putVariable target (some { marked with refers := false })
      let done ← match setting with
        | some s => applySetting (d.command ++ ": ") { s with name := target }
        | none => pure true
      let v := (← get).variable target
      let refers := (wasReference || on.contains 'n') && !off.contains 'n'
      putVariable target (some { v with refers, readOnly := v.readOnly || on.contains 'r' })
      return done

/-- Splits arguments into the letters of options that are turned on, those that are turned off, and the
    rest. -/
def takeMarks : List Operand → List Char × List Char × List Operand
  | .text argument :: rest =>
    match argument.toList with
    | ['-', '-'] => ([], [], rest)
    | '-' :: c :: cs =>
      let (on, off, rest) := takeMarks rest
      (c :: cs ++ on, off, rest)
    | '+' :: c :: cs =>
      let (on, off, rest) := takeMarks rest
      (on, c :: cs ++ off, rest)
    | _ => ([], [], .text argument :: rest)
  | operands => ([], [], operands)

/-- Shows declarations. -/
def showDeclarations (command : String) (wanted : Variable → Bool) (names : List String) : Act Unit := do
  let bindings := (← get).bindings
  if names.isEmpty then
    for (name, v) in (bindings.filter fun v => wanted v.2).mergeSort fun a b => a.1 ≤ b.1 do
      say (declaration name v ++ "\n")
  else
    for name in names do
      match bindings.lookup name with
      | some v => say (declaration name v ++ "\n")
      | none => refuseAs command 1 (name ++ ": not found")

/-- Says which of some functions there are. -/
def showFunctions (named : Bool) (names : List String) : Act Unit := do
  let functions := (← get).functions
  if names.isEmpty then
    for (name, _) in functions.mergeSort fun a b => a.1 ≤ b.1 do
      say ("declare -f " ++ name ++ "\n")
  else
    for name in names do
      if (functions.lookup name).isNone then setStatus 1
      else if named then say (name ++ "\n")

/-- Declares variables. -/
def declareWith (d : DeclareStyle) (operands : List Operand) : Act Unit := do
  let (on, off, rest) := takeMarks operands
  let names := rest.map Operand.shown
  setStatus 0
  match (on ++ off).find? (!d.letters.contains ·) with
  | some c => refuseOption d.command ("-" ++ c.toString) d.usage
  | none =>
    if d.command == "local" && (← get).calls == 0 then refuseAs "local" 1 "can only be used in a function"
    else if on.contains 'F' || on.contains 'f' then showFunctions (on.contains 'F') names
    else if on.contains 'p' || rest.isEmpty then
      let on := on.filter (· != 'p') ++ d.always
      showDeclarations d.command (fun v => on.all (v.letters.toList.contains ·)) names
    else
      let (on, off) := if d.command == "export" && on.contains 'n' then ([], ['x']) else (on ++ d.always, off)
      let mut code := 0
      for o in rest do
        if !(← declareOne d on off o) then code := 1
      setStatus code

/-- The commands that declare variables, by their names. -/
def declareStyle? (name : String) : Option DeclareStyle :=
  let all := "aAfFgiIlnprtux".toList
  let usage := " [-aAfFgiIlnrtux] [name[=value] ...] or " ++ name ++ " -p [-aAfFilnrtux] [name ...]"
  match name with
  | "declare" | "typeset" =>
    some { command := name, usage := name ++ usage, letters := all, isLocal := true }
  | "local" =>
    some { command := name, usage := "local [option] name[=value] ...", letters := all, isLocal := true }
  | "export" =>
    some { command := name, usage := "export [-fn] [name[=value] ...] or export -p", letters := "fnp".toList
           always := ['x'], isLocal := false }
  | "readonly" =>
    some { command := name
           usage := "readonly [-aAf] [name[=value] ...] or readonly -p", letters := "aAfp".toList
           always := ['r'], isLocal := false }
  | _ => none

/-! ## Forgetting -/

/-- Forgets an item of a variable, or all of it. -/
def unsetOne (argument : String) : Act Unit := do
  let enlarged ← isEnlarged
  let (name, key) := splitKey argument
  let name := (← get).target name
  match (← get).bindings.lookup name with
  | some v =>
    if v.readOnly then
      if enlarged then refuseAs "unset" 1 (name ++ ": cannot unset: readonly variable")
      else abortAs "unset" (name ++ ": is read only")
    else
      match key with
      | none =>
        if enlarged && ((← get).hidden.lookup name).isSome then putVariable name (some { held := .nothing })
        else putVariable name none
      | some k =>
        if k == "@" || k == "*" then putVariable name none
        else
          match ← keyOf? v.held k with
          | some k => putVariable name (some { v with held := v.held.withoutItem k })
          | none => refuseAs "unset" 1 ("[" ++ k ++ "]: bad array subscript")
  | none => if enlarged then modify fun s => { s with functions := s.functions.filter (·.1 != argument) }

/-- Forgets variables or functions. -/
def unset : Builtin := fun arguments => do
  let options := arguments.takeWhile fun a => a == "-f" || a == "-v" || a == "-n"
  let enlarged ← isEnlarged
  setStatus 0
  let operands := (arguments.drop options.length).filter (· != "--")
  match operands.find? (·.startsWith "-") with
  | some option =>
    if enlarged then
      refuseOption "unset" (String.ofList (option.toList.take 2)) "unset [-f] [-v] [-n] [name ...]"
    else abortAs "unset" ("Illegal option " ++ String.ofList (option.toList.take 2))
  | none =>
    for name in operands do
      if options.contains "-f" then
        modify fun s => { s with functions := s.functions.filter (·.1 != name) }
      else if options.contains "-n" then putVariable name none
      else if !enlarged && !isName name then abortAs "unset" (name ++ ": bad variable name")
      else unsetOne name

end Recap.Shell
