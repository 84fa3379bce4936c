import Recap.Programs.Shell.Condition
import Recap.Programs.Shell.Declare
import Recap.Programs.Shell.ReadLine

/-!
# Commands of the shell itself

## Contents
- `exit`, `returnBack`, `leaveLoops` — ends of scripts, functions and loops.
- `shift`, `getopts` — parameters.
- `changeDirectory` — directories.
- `eval`, `source` — texts and files as scripts.
- `builtin?` — the commands that change the shell they are carried out by.
-/

namespace Recap.Shell

open Act
open Machine (Fault Path)

/-! ## Ends -/

/-- The number that an argument is, or `code` as the status of a script that cannot go on. -/
def countOf (command : String) (code : Nat) (argument : String) : Act Nat := do
  match Tool.natOf? argument with
  | some n => return n
  | none =>
    if ← isEnlarged then
      refuseAs command code (argument ++ ": numeric argument required")
      throw .script
    else abortAs command ("Illegal number: " ++ argument)

/-- The number that an argument is, where it can be below zero. -/
def statusOf (command argument : String) : Act Nat := do
  match ← isEnlarged, wholeNumber? argument with
  | true, some i => return (i % 256).toNat
  | _, _ => countOf command 2 argument

/-- Ends the script. -/
def exit : Builtin
  | [] => throw .script
  | n :: _ => do
    setStatus ((← statusOf "exit" n) % 256)
    throw .script

/-- Ends a function. -/
def returnBack : Builtin := fun arguments => do
  let s ← get
  if s.flavour == .enlarged && s.calls == 0 then
    refuseAs "return" 2 "can only \x60return' from a function or sourced script"
  else
    match arguments with
    | [] => pure ()
    | n :: _ =>
      match s.flavour, wholeNumber? n with
      | .enlarged, none =>
        refuseAs "return" 2 (n ++ ": numeric argument required")
        throw .function
      | _, _ => setStatus ((← statusOf "return" n) % 256)
    if s.calls == 0 then throw .script else throw .function

/-- Ends loops, or their rounds. -/
def leaveLoops (command : String) (leave : Nat → Leave) : Builtin := fun arguments => do
  let loops := (← get).loops
  let enlarged ← isEnlarged
  setStatus 0
  if loops == 0 then
    if enlarged then
      complain (command ++ ": only meaningful in a \x60for', \x60while', or \x60until' loop")
  else
    let count ← match arguments with
      | [] => pure 1
      | n :: _ => countOf command 128 n
    if enlarged && count == 0 then
      refuseAs command 1 "0: loop count out of range"
      throw (.loops loops)
    else throw (leave (min count loops))

/-! ## Parameters -/

/-- Leaves out parameters. -/
def shift : Builtin := fun arguments => do
  let s ← get
  let enlarged := s.flavour == .enlarged
  let by' (count : Nat) : Act Unit :=
    if s.parameters.length < count then
      if enlarged then setStatus 1 else abortAs "shift" "can't shift that many"
    else set { s with parameters := s.parameters.drop count, status := 0 }
  match arguments with
  | [] => by' 1
  | n :: _ =>
    match enlarged, wholeNumber? n with
    | true, none => refuseAs "shift" 1 (n ++ ": numeric argument required")
    | true, some i =>
      if i < 0 then refuseAs "shift" 1 (n ++ ": shift count out of range") else by' i.toNat
    | false, _ => by' (← countOf "shift" 2 n)

/-- Complains about an option of a script. -/
def complainOption (small large : String) : Act Unit := do
  if ← isEnlarged then write 2 (Text.bytes ((← get).name ++ ": " ++ large ++ "\n")) else complain small

/-- Reads one option of a script: the letters, and the arguments. -/
def getopts : Builtin
  | letters :: name :: given => do
    let arguments ← if given.isEmpty then do pure (← get).parameters else pure given
    let position := ((← getVariable? "OPTIND").bind Tool.natOf?).getD 1
    let offset := (← get).optionOffset
    let finish (letter : String) (value : Option String) (next offset code : Nat) : Act Unit := do
      setVariable name letter
      match value with
      | some text => setVariable "OPTARG" text
      | none => putVariable "OPTARG" none
      setVariable "OPTIND" (Nat.repr next)
      modify fun s => { s with optionOffset := offset, status := code }
    match arguments[position - 1]? with
    | none => finish "?" none position 1 1
    | some "--" => finish "?" none (position + 1) 1 1
    | some argument =>
      match argument.toList[0]?, argument.toList[offset]? with
      | some '-', some c =>
        let last := argument.length ≤ offset + 1
        let next := if last then position + 1 else position
        let nextOffset := if last then 1 else offset + 1
        let quiet := letters.startsWith ":"
        let known := c != ':' && letters.toList.contains c
        let valued := ((letters.toList.dropWhile (· != c)).drop 1).head? == some ':'
        if !known then
          if !quiet then complainOption ("Illegal option -" ++ c.toString) ("illegal option -- " ++ c.toString)
          finish "?" (if quiet then some c.toString else none) next nextOffset 0
        else if !valued then finish c.toString none next nextOffset 0
        else if !last then
          finish c.toString (some (String.ofList (argument.toList.drop (offset + 1)))) (position + 1) 1 0
        else
          match arguments[position]? with
          | some value => finish c.toString (some value) (position + 2) 1 0
          | none =>
            if !quiet then
              complainOption ("No arg for -" ++ c.toString ++ " option")
                ("option requires an argument -- " ++ c.toString)
            finish (if quiet then ":" else "?") (if quiet then some c.toString else none)
              (position + 1) 1 0
      | _, _ => finish "?" none position 1 1
  | _ => do
    if ← isEnlarged then showUsage "getopts" "getopts optstring name [arg ...]"
    else abortAs "getopts" "Usage: getopts optstring var [arg...]"

/-! ## Directories -/

/-- Goes to a directory. -/
def changeDirectory : Builtin := fun arguments => do
  let operands := arguments.filter fun a => a != "-P" && a != "-L" && a != "--"
  let old := (← get).directory
  let enlarged ← isEnlarged
  let target : Option String ← match operands with
    | [] => getVariable? "HOME"
    | "-" :: _ => getVariable? "OLDPWD"
    | name :: _ => pure (some name)
  if enlarged && 1 < operands.length then refuseAs "cd" 1 "too many arguments"
  else
    match enlarged, target with
    | true, none => refuseAs "cd" 1 (if operands.isEmpty then "HOME not set" else "OLDPWD not set")
    | _, target => go enlarged (operands.head? == some "-") old (target.getD old.text)
where
  /-- Goes to a directory, and says where that is if it is where the shell was before. -/
  go (enlarged back : Bool) (old : Path) (target : String) : Act Unit := do
    let place := (← pathOf target).place
    let path : Path := ⟨"" :: (if place.isEmpty then [""] else place)⟩
    match ← ask (.look path) with
    | .ok .directory =>
      modify fun s => { s with directory := path }
      setVariable "OLDPWD" old.text
      setVariable "PWD" path.text
      if back then say (path.text ++ "\n")
      setStatus 0
    | found =>
      if enlarged then
        let fault := match found with
          | .error fault => fault
          | .ok _ => .notDirectory
        refuseAs "cd" 1 (target ++ ": " ++ fault.phrase)
      else refuseAs "cd" 2 ("can't cd to " ++ target)

/-! ## Scripts -/

/-- Carries its arguments out as a script. -/
def eval (perform : Perform) : Builtin := fun arguments => do
  setStatus 0
  let level := (← get).level
  modify fun s => { s with level := level + 1 }
  thenAlways (runText perform (.inner "eval") (" ".intercalate arguments) (← get).line)
    (modify fun s => { s with level })

/-- Carries out the text of a file as a script, whose parameters can be others. -/
def runSourced (perform : Perform) (name text : String) (arguments : List String) : Act Unit := do
  let before ← get
  let enlarged := before.flavour == .enlarged
  modify fun s =>
    { s with calls := s.calls + 1, speaker := if enlarged then name else s.speaker
             parameters := if enlarged && !arguments.isEmpty then arguments else s.parameters }
  thenAlways
    (tryCatch (runText perform ⟨"", true, true⟩ text 1) fun
      | .function => pure ()
      | l => throw l)
    (modify fun s =>
      { s with calls := before.calls, speaker := before.speaker, line := before.line
               parameters := if enlarged && !arguments.isEmpty then before.parameters else s.parameters })

/-- Carries a file out as a script. -/
def source (command : String) (perform : Perform) : Builtin
  | [] => do
    if ← isEnlarged then
      complain (command ++ ": filename argument required")
      showUsage command (command ++ " filename [arguments]")
    else setStatus 2
  | name :: arguments => do
    match ← ask (.readBytes (← pathOf name)) with
    | .ok bytes =>
      setStatus 0
      runSourced perform name (Text.decode bytes) arguments
    | .error fault =>
      let flavour := (← get).flavour
      match flavour with
      | .plain => abortAs command ("cannot open " ++ name ++ ": " ++ faultText flavour true fault)
      | .enlarged => refuse 1 (name ++ ": " ++ fault.phrase)

/-! ## Sums and tools -/

/-- Sets variables to the values of sums. -/
def letSums : Builtin := fun arguments => do
  if arguments.isEmpty then refuseAs "let" 1 "expression expected"
  else
    let mut code := 1
    for argument in arguments do
      match ← tryEvaluate "let: " argument with
      | some value => code := if value == 0 then 1 else 0
      | none =>
        setStatus 1
        return
    setStatus code

/-- Runs a tool in the shell itself. -/
def runTool (p : Program) (arguments : List String) : Act Unit := do
  let (bytes, inputIsFile) ← input 0
  let s ← get
  let o ← running (p { arguments, input := bytes, inputIsFile, directory := s.directory, bindings := [] })
  write 1 o.out
  write 2 o.err
  setStatus o.status.code

/-- Who writes when this shell writes. -/
def writer : Act Tool.Writer := do return if ← isEnlarged then .largeShell else .shell

/-- Keeps what would be written in a format in a variable. -/
def printInto (format : Program) (name : String) (arguments : List String) : Act Unit := do
  let (base, key) := splitKey name
  if !isName base then refuseAs "printf" 2 ("\x60" ++ name ++ "': not a valid identifier")
  else
    let text := Text.decode (← captured (runTool format arguments))
    let done ← match key with
      | some k => trySetItem base k false text
      | none => trySet base text
    if !done then setStatus 1

/-- The commands of the shell that are tools, too. -/
def toolBuiltin? (name : String) : Option Builtin :=
  match name with
  | "echo" => some fun arguments => do runTool (Tool.echo (← writer)) arguments
  | "printf" => some fun arguments => do
    let format := Tool.printf (← writer) ((← label) ++ "printf: ")
    match ← isEnlarged, arguments with
    | true, "-v" :: name :: rest => printInto format name rest
    | _, _ => runTool format arguments
  | "test" => some fun arguments => do
    runTool (Tool.test (← writer) ((← label) ++ "test: ") false) arguments
  | "[" => some fun arguments => do
    runTool (Tool.test (← writer) ((← label) ++ "[: ") true) arguments
  | _ => none

/-! ## All commands -/

/-- The commands that only the larger language has. -/
def enlargedBuiltin? (perform : Perform) (name : String) : Option Builtin :=
  match name with
  | "source" => some (source "source" perform)
  | "let" => some letSums
  | "shopt" => some shopt
  | "mapfile" | "readarray" => some (mapfile name)
  | "disown" | "enable" | "history" | "bind" | "complete" | "compopt" => some fun _ => setStatus 0
  | name => (declareStyle? name).map fun d arguments => declareWith d (arguments.map .text)

/-- The commands that only the smaller language has, or has in another way. -/
def plainBuiltin? (name : String) : Option Builtin :=
  match name with
  | "export" => some (markVariables "export" (·.exported) fun v => { v with exported := true })
  | "readonly" => some (markVariables "readonly" (·.readOnly) fun v => { v with readOnly := true })
  | "local" => some makeLocal
  | "chdir" => some changeDirectory
  | _ => none

/-- The commands of the shell, but for those that start others. -/
def builtin? (perform : Perform) (flavour : Flavour) (name : String) : Option Builtin :=
  match name with
  | ":" | "true" | "hash" | "alias" | "unalias" | "jobs" | "bg" | "fg" | "ulimit" | "times" =>
    some fun _ => setStatus 0
  | "false" => some fun _ => setStatus 1
  | "exit" => some exit
  | "return" => some returnBack
  | "break" => some (leaveLoops "break" .loops)
  | "continue" => some (leaveLoops "continue" .rounds)
  | "shift" => some shift
  | "cd" => some changeDirectory
  | "pwd" => some fun _ => do
    say ((← get).directory.text ++ "\n")
    setStatus 0
  | "unset" => some unset
  | "set" => some setCommand
  | "trap" => some trap
  | "read" => some read
  | "kill" => some (kill perform)
  | "getopts" => some getopts
  | "eval" => some (eval perform)
  | "." => some (source "." perform)
  | "umask" => some fun arguments => do
    if arguments.isEmpty then say "0022\n"
    setStatus 0
  | "wait" => some (wait perform)
  | name =>
    (toolBuiltin? name).or
      (if flavour == .enlarged then enlargedBuiltin? perform name else plainBuiltin? name)

end Recap.Shell
