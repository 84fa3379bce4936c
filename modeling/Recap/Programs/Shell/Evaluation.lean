import Recap.Programs.Shell.Builtin
import Recap.Programs.Tool.Name

/-!
# Carrying out commands

## Contents
- `runProgram` — starts programs.
- `callFunction`, `runSimple` — simple commands.
- `runPipe`, `runLoop`, `runEach`, `runCount`, `runChoices` — compound commands.
- `performWithin` — does what is asked of a shell.
-/

namespace Recap.Shell

open Act
open Machine (Fault Kind Path)

/-! ## Programs -/

/-- Complains about a program that cannot be started. -/
def refuseProgram (name : String) (fault : Fault) : Act Unit := do
  let hasSlash := name.toList.contains '/'
  match (← get).flavour, fault with
  | .plain, .notFound | .plain, .notDirectory => refuse 127 (name ++ ": not found")
  | .plain, fault => refuse 126 (name ++ ": " ++ fault.phrase)
  | .enlarged, fault =>
    let kind ← if hasSlash then ask (.look (← pathOf name)) else pure (.error .notFound)
    match fault, kind with
    | .notFound, .ok _ => refuse 127 (name ++ ": cannot execute: required file not found")
    | .notFound, _ =>
      refuse 127 (name ++ ": " ++ (if hasSlash then "No such file or directory" else "command not found"))
    | _, .ok .directory => refuse 126 (name ++ ": Is a directory")
    | fault, _ => refuse 126 (name ++ ": " ++ fault.phrase)

/-- What a program is started with. -/
def jobFor (arguments : List String) : Act Job := do
  let (bytes, inputIsFile) ← input 0
  let bindings ← exportedVariables
  let s ← get
  let path := (← getVariable? "PATH").map fun p => ("PATH", p)
  let channels := s.channels.filterMap fun (channel, number) =>
    match s.streams[number]? with
    | some (.source bytes _) => if channel < 3 then none else some (channel, bytes)
    | _ => none
  return { arguments, input := bytes, inputIsFile, directory := s.directory, channels
           bindings := bindings.filter (·.1 != "PATH") ++ path.toList, niceness := s.niceness
           alarms := s.alarms.map fun a => { a with after := a.after - s.clock } }

/-- The status of a program that could not write, and its complaint. -/
def unwrittenText (name : String) (fault : Fault) : Nat × String :=
  let tool := Tool.lastName name
  let phrase := fault.phrase
  let usual := name ++ ": write error: " ++ phrase
  match tool with
  | "sort" => (2, name ++ ": fflush failed: 'standard output': " ++ phrase ++ "\n" ++ name ++ ": write error")
  | "awk" | "mawk" => (2, name ++ ": write failure (" ++ phrase ++ ")\n" ++ name ++ ": close failure")
  | "sed" => (4, name ++ ": couldn't " ++ (if fault == .noSpace then "flush" else "close") ++ " stdout: " ++ phrase)
  | "grep" | "egrep" | "fgrep" | "ls" => (2, usual)
  | "cat" => (1, if fault == .noSpace then usual else name ++ ": standard output: " ++ phrase)
  | "tee" => (1, name ++ ": 'standard output': " ++ phrase)
  | "yes" | "diff" => (if tool == "yes" then 1 else 2, name ++ ": standard output: " ++ phrase)
  | "find" =>
    (1, name ++ ": 'standard output': " ++ phrase ++ "\n" ++ name ++ ": write error" ++
      if fault == .noSpace then "" else ": " ++ phrase)
  | _ => (1, usual)

/-- Complains if something could not be written: a command of the shell in the name of the shell. -/
def settleWrites (isOwn : Bool) (name : String) : Act Unit := do
  match (← get).unwritten with
  | none => return
  | some fault =>
    modify fun s => { s with unwritten := none }
    if !isOwn then
      let (code, text) := unwrittenText name fault
      write 2 (Text.bytes (text ++ "\n"))
      setStatus code
    else if ← isEnlarged then refuse 1 (name ++ ": write error: " ++ fault.phrase)
    else refuse 1 (name ++ ": " ++ name ++ ": I/O error")

/-- Starts a program and waits for its end; or complains with something else about one that cannot be
    started. -/
def runProgramOr (programs : Programs) (perform : Perform) (refuseIt : String → Fault → Act Unit)
    (name : String) (arguments : List String) : Act Unit := do
  let j ← jobFor arguments
  let enlarged ← isEnlarged
  if name.isEmpty && !enlarged then refuseIt name .denied
  else if (← getVariable? "PATH").isNone && !name.toList.contains '/' then refuseIt name .notFound
  else
    match ← running (programs.launch (some (if enlarged then "bash" else "sh")) name j) with
    | .error fault => refuseIt name fault
    | .ok o =>
      setInput 0 o.rest
      let done : Act Unit := do
        setStatus o.status.code
        write 1 o.out
        settleWrites false name
        write 2 o.err
        for (channel, bytes) in o.beyond do write channel bytes
      let told : Act Unit := match o.status with
        | .killed n => do if n != 2 && n != 13 then write 2 (Text.bytes (signalText n ++ "\n"))
        | .exited _ => pure ()
      if o.slept == 0 then
        done
        told
      else passTime perform ((← get).clock + o.slept) done told

/-- Starts a program and waits for its end. -/
def runProgram (programs : Programs) (perform : Perform) (name : String) (arguments : List String) : Act Unit :=
  runProgramOr programs perform
    (fun name fault =>
      if name.isEmpty && fault == .denied then refuse 127 ": Permission denied" else refuseProgram name fault)
    name arguments

/-! ## Failures -/

/-- Does what is kept for failures, and ends the script if a command failed and an option asks for it. -/
def checkFailure (perform : Perform) : Act Unit := do
  let s ← get
  if s.status != 0 && !s.tested then
    if s.flavour == .enlarged && (s.calls == 0 || s.options.contains 'E') then runTrap perform "ERR"
    if s.options.contains 'e' then throw .script

/-- Notes the status of a command that is no pipe, and looks whether it failed. -/
def settle (perform : Perform) : Act Unit := do
  modify fun s => { s with pipeStatus := [s.status] }
  checkFailure perform

/-! ## Functions and names -/

/-- Carries a function out. -/
def callFunction (perform : Perform) (name : String) (f : Function) (arguments : List String) :
    Act Unit := do
  let before ← get
  let speaker := if before.flavour == .enlarged then f.speaker else before.speaker
  set { before with
    parameters := arguments, calls := before.calls + 1, called := name :: before.called, loops := 0
    hidden := [], lineOffset := f.line - 1, speaker }
  thenAlways
    (tryCatch (perform (.run f.body)) fun
      | .function => pure ()
      | l => throw l)
    (do
      for (name, old) in (← get).hidden do putVariable name old
      modify fun s =>
        { s with parameters := before.parameters, calls := before.calls, called := before.called
                 loops := before.loops, hidden := before.hidden, lineOffset := before.lineOffset
                 speaker := before.speaker })

/-- Does something while variables have other values, which programs are handed. -/
def withVariables (settings : List Setting) (act : Act Unit) : Act Unit := do
  let before := (← get).bindings
  for s in settings do
    if ← applySetting "" s then
      putVariable s.name (some { (← get).variable s.name with exported := true })
  thenAlways act do
    for s in settings do putVariable s.name (before.lookup s.name)

/-- What a name stands for. -/
inductive Meaning where
  | keyword
  | function
  | special
  | builtin
  | file (path : String)

/-- Commands that start others by their names. -/
def leaders (flavour : Flavour) : List String :=
  ["command", "type", "exec"] ++ if flavour == .enlarged then ["builtin"] else []

/-- The file that a name stands for. -/
def fileOf (programs : Programs) (name : String) : Act (Option Meaning) := do
  match ← running (programs.find (← jobFor []) name) with
  | .ok path => return some (.file path)
  | .error _ => return none

/-- What a name stands for. -/
def meaningOf (programs : Programs) (perform : Perform) (name : String) : Act (Option Meaning) := do
  let s ← get
  let isKeyword := keywords.contains name || (s.flavour == .enlarged && largeKeywords.contains name)
  if isKeyword then return some .keyword
  else if (s.functions.lookup name).isSome then return some .function
  else if specialBuiltins.contains name then return some .special
  else if (builtin? perform s.flavour name).isSome || (leaders s.flavour).contains name then
    return some .builtin
  else fileOf programs name

/-- What a name stands for, in words. -/
def Meaning.words (flavour : Flavour) : Meaning → String
  | .keyword => "a shell keyword"
  | .function => if flavour == .plain then "a shell function" else "a function"
  | .special => if flavour == .plain then "a special shell builtin" else "a shell builtin"
  | .builtin => "a shell builtin"
  | .file path => path

/-- What a name stands for, in one word. -/
def Meaning.kind : Meaning → String
  | .keyword => "keyword"
  | .function => "function"
  | .special | .builtin => "builtin"
  | .file _ => "file"

/-- Says what a name stands for, as letters of options ask. -/
def sayMeaning (letters : List Char) (name : String) (m : Meaning) : Act Unit := do
  let flavour := (← get).flavour
  if letters.contains 't' then say (m.kind ++ "\n")
  else if letters.contains 'p' || letters.contains 'P' then
    match m with
    | .file path => say (path ++ "\n")
    | _ => pure ()
  else say (name ++ " is " ++ m.words flavour ++ "\n")

/-- Says what names stand for. -/
def typeOf (programs : Programs) (perform : Perform) : Builtin := fun arguments => do
  let enlarged ← isEnlarged
  let isOption (a : String) : Bool := enlarged && a.startsWith "-" && 1 < a.length
  let letters := (arguments.takeWhile isOption).flatMap (·.toList.drop 1)
  setStatus 0
  for name in arguments.dropWhile isOption do
    let meaning ← if letters.contains 'P' then fileOf programs name else meaningOf programs perform name
    match meaning with
    | some m => sayMeaning letters name m
    | none =>
      if !enlarged then say (name ++ ": not found\n")
      else if !letters.any ("tpP".toList.contains ·) then complain ("type: " ++ name ++ ": not found")
      setStatus (if enlarged then 1 else 127)

/-- Says where names lead, or what they stand for. -/
def whereIs (programs : Programs) (perform : Perform) (inWords : Bool) : Builtin := fun names => do
  let enlarged ← isEnlarged
  let mut code := if enlarged then 1 else 127
  for name in if enlarged then names else names.take 1 do
    match ← meaningOf programs perform name with
    | some m =>
      if inWords then sayMeaning [] name m
      else
        match m with
        | .file path => say (path ++ "\n")
        | _ => say (name ++ "\n")
      code := 0
    | none =>
      if inWords then
        if enlarged then complain ("command: " ++ name ++ ": not found") else say (name ++ ": not found\n")
  setStatus code

/-- Carries out a command that is no function. -/
def runUnnamed (programs : Programs) (perform : Perform) (name : String) (arguments : List String) :
    Act Unit := do
  match builtin? perform (← get).flavour name with
  | some b =>
    b arguments
    settleWrites true name
  | none =>
    match name, arguments with
    | "type", names =>
      typeOf programs perform names
      settleWrites true name
    | name, arguments => runProgram programs perform name arguments

/-- Carries out a command of the shell itself, and no other. -/
def runOwn (programs : Programs) (perform : Perform) (name : String) (arguments : List String) :
    Act Unit := do
  if name == "type" || (builtin? perform (← get).flavour name).isSome then
    runUnnamed programs perform name arguments
  else refuseAs "builtin" 1 (name ++ ": not a shell builtin")

/-- Carries out a command by its name. -/
def runNamed (programs : Programs) (perform : Perform) (name : String) (arguments : List String) :
    Act Unit := do
  let s ← get
  let isSpecial := s.flavour == .plain && specialBuiltins.contains name
  match if isSpecial then none else s.functions.lookup name with
  | some f => callFunction perform name f arguments
  | none =>
    match name, arguments with
    | "command", "-v" :: names => whereIs programs perform false names
    | "command", "-V" :: names => whereIs programs perform true names
    | "command", "-p" :: name :: rest | "command", "--" :: name :: rest | "command", name :: rest =>
      runUnnamed programs perform name rest
    | "command", [] => setStatus 0
    | "builtin", name :: rest =>
      if s.flavour == .enlarged then runOwn programs perform name rest
      else runUnnamed programs perform "builtin" (name :: rest)
    | name, arguments => runUnnamed programs perform name arguments

/-! ## Simple commands -/

/-- What is set, as it is shown before it is carried out. -/
def Setting.traced (enlarged : Bool) (s : Setting) : String :=
  let quote (t : String) : String :=
    if enlarged then (if t.isEmpty then t else tracedWord t) else t
  let value := match s.given with
    | .text t => quote t
    | .items items =>
      "(" ++ " ".intercalate (items.map fun (k, t) =>
        (k.map fun k => "[" ++ k ++ "]=").getD "" ++ tracedWord t) ++ ")"
  spokenName s.name s.key ++ (if s.adds then "+=" else "=") ++ value

/-- Shows a command before it is carried out, if an option asks for it. -/
def traceCommand (settings : List Setting) (fields : List String) : Act Unit := do
  if ← isEnlarged then
    for s in settings do traceLine (return s.traced true)
    if !fields.isEmpty then traceLine (return " ".intercalate (fields.map tracedWord))
  else traceLine (return " ".intercalate (settings.map (Setting.traced false) ++ fields))

/-- Feeds commands with what was written for them. -/
def runFeeds (perform : Perform) : Act Unit := do
  let feeds := (← get).feeds
  modify fun s => { s with feeds := [] }
  for (number, c) in feeds do
    let s ← get
    openSource 0 (s.written number) false
    apart (perform (.run c))
    modify fun s' => { s' with channels := s.channels, status := s.status }

/-- Complains about a program that cannot take the place of the shell. -/
def refuseExecution (name : String) (fault : Fault) : Act Unit := do
  match (← get).flavour, fault with
  | .plain, .denied => refuse 126 ("exec: " ++ name ++ ": Permission denied")
  | .enlarged, fault =>
    if name.toList.contains '/' then refuseProgram ("/" ++ "/".intercalate (← pathOf name).place) fault
    else refuse 127 ("exec: " ++ name ++ ": not found")
  | .plain, fault => refuseProgram ("exec: " ++ name) fault

/-- Replaces the shell by a program, or lets its own channels lead somewhere else. -/
def execute (programs : Programs) (perform : Perform) (redirects : List Redirect)
    (arguments : List String) : Act Unit := do
  let arguments := match ← isEnlarged, arguments with
    | true, "-a" :: _ :: rest => rest
    | true, "-c" :: rest | true, "-l" :: rest => rest
    | _, arguments => arguments
  match arguments with
  | [] =>
    if ← redirectAll perform redirects then setStatus 0
    else if ← isEnlarged then return
    else throw .script
  | name :: rest =>
    let _ ← withRedirects perform redirects (runProgramOr programs perform refuseExecution name rest)
    throw .script

/-- What a command that declares variables is given. -/
def operandsOf (perform : Perform) : List Word → Act (List Operand)
  | [] => return []
  | w :: ws => do
    let here ← match assignment? w with
      | some a => do pure [Operand.setting (← settingOf perform a)]
      | none => do pure ((← expandFields perform [w]).map .text)
    return here ++ (← operandsOf perform ws)

/-- How the command declares variables that a word names, in the larger language. -/
def declaring? (words : List Word) : Act (Option (DeclareStyle × List Word)) := do
  let s ← get
  match words with
  | w :: ws =>
    let style := (bareText? w).bind declareStyle?
    match s.flavour, style with
    | .enlarged, some d => return if (s.functions.lookup d.command).isNone then some (d, ws) else none
    | _, _ => return none
  | [] => return none

/-- Sets what a command that consists of nothing else sets. -/
def runSettings (perform : Perform) (assignments : List Assignment) : Act Unit := do
  for a in assignments do
    let s ← settingOf perform a
    traceCommand [s] []
    if !(← applySetting "" s) then throw .line
  modify fun s => { s with status := s.substituted }

/-- Carries out a command of which at least the name is left. -/
def runFields (programs : Programs) (perform : Perform) (assignments : List Assignment)
    (redirects : List Redirect) (name : String) (arguments : List String) : Act Unit := do
  let settings : Act (List Setting) := assignments.mapM (settingOf perform)
  if name == "exec" then
    traceCommand [] (name :: arguments)
    for s in ← settings do
      let _ ← applySetting "" s
    execute programs perform redirects arguments
  else
    let special := specialBuiltins.contains name && !(← isEnlarged)
    let act : Act Unit := do
      let settings ← settings
      traceCommand settings (name :: arguments)
      if special then
        for s in settings do
          let _ ← applySetting "" s
        runNamed programs perform name arguments
      else withVariables settings (runNamed programs perform name arguments)
    if !(← withRedirects perform redirects act) && special then throw .script

/-- Carries out a simple command. -/
def runSimple (programs : Programs) (perform : Perform) (line : Nat) (assignments : List Assignment)
    (words : List Word) (redirects : List Redirect) : Act Unit := do
  modify fun s => { s with line, substituted := 0 }
  let channels := (← get).channels
  match ← declaring? words with
  | some (d, ws) =>
    let operands ← operandsOf perform ws
    traceCommand [] (d.command :: operands.map Operand.shown)
    let _ ← withRedirects perform redirects (declareWith d operands)
  | none =>
    match ← expandFields perform words with
    | [] => if ← withRedirects perform redirects (pure ()) then runSettings perform assignments
    | name :: arguments =>
      runFields programs perform assignments redirects name arguments
      modify fun s => { s with lastWord := arguments.getLast?.getD name }
  runFeeds perform
  modify fun s => { s with channels := s.channels.filter fun c =>
    c.1 < 10 || (channels.lookup c.1).isSome }
  settle perform

/-! ## Compound commands -/

/-- Carries out commands of which each reads what the one before writes; their statuses. -/
def runPipe (perform : Perform) : List Command → Act (List Nat)
  | [] => return []
  | [c] => do
    if (← get).switches.contains "lastpipe" then perform (.run c) else apart (perform (.run c))
    return [(← get).status]
  | c :: cs => do
    let bytes ← captured (apart (perform (.run c)))
    let status := (← get).status
    let channels := (← get).channels
    openSource 0 bytes false
    return status :: (← thenAlways (runPipe perform cs) (modify fun s => { s with channels }))

/-- The status of a pipe whose commands have statuses. -/
def pipeStatusOf (s : Session) (statuses : List Nat) : Nat :=
  if s.switches.contains "pipefail" then (statuses.reverse.find? (· != 0)).getD 0
  else statuses.getLast?.getD 0

/-- How many rounds a loop can have. -/
def roundLimit : Nat := 100000

/-- Carries out one round of a loop; whether another can follow. -/
def runRound (body : Act Unit) : Act Bool :=
  tryCatch (do body; return true) fun
    | .loops n => if n ≤ 1 then return false else throw (.loops (n - 1))
    | .rounds n => if n ≤ 1 then return true else throw (.rounds (n - 1))
    | l => throw l

/-- Does something inside a loop. -/
def inLoop (act : Act Unit) : Act Unit := do
  modify fun s => { s with loops := s.loops + 1 }
  thenAlways act (modify fun s => { s with loops := s.loops - 1 })

/-- Repeats a body as long as a test goes well, or does not; the status is that of the last round. -/
def runLoop (perform : Perform) (untilTrue : Bool) (test body : Command) : Nat → Nat → Act Unit
  | 0, _ => throw .script
  | rounds + 1, status => do
    let goesOn ← runRound do
      tested (perform (.run test))
      if ((← get).status == 0) == untilTrue then
        setStatus status
        throw (.loops 1)
      perform (.run body)
    if goesOn then runLoop perform untilTrue test body rounds (← get).status

/-- Repeats a body for words. -/
def runEach (perform : Perform) (name : String) (body : Command) : List String → Act Unit
  | [] => return
  | word :: words => do
    if ← trySet name word then
      if ← runRound (perform (.run body)) then runEach perform name body words

/-- The value of a sum that a repetition is counted by; without a sum, one. -/
def countingValue (perform : Perform) (sum : Word) : Act (Option Int) := do
  let text ← expandText perform sum
  if text.toList.all Char.isWhitespace then return some 1
  else
    traceLine (return "(( " ++ text ++ " ))")
    tryEvaluate "((: " text

/-- Repeats a body while a sum is not zero; the status is that of the last round. -/
def runCount (perform : Perform) (test step : Word) (body : Command) : Nat → Nat → Act Unit
  | 0, _ => throw .script
  | rounds + 1, status => do
    match ← countingValue perform test with
    | none => setStatus 1
    | some 0 => setStatus status
    | some _ =>
      if ← runRound (perform (.run body)) then
        let status := (← get).status
        match ← countingValue perform step with
        | none => setStatus 1
        | some _ => runCount perform test step body rounds status

/-- Carries out the choices that have a pattern which a text fits, as far as they say; `falls` says that
    the first is carried out in any case. -/
def runChoices (perform : Perform) (text : String) :
    Bool → List (List Word × Command × AfterChoice) → Act Unit
  | _, [] => return
  | falls, (patterns, body, after) :: choices => do
    let fits ← if falls then pure true
      else patterns.anyM fun w => do return (← expandPattern perform w).fitsText text
    if fits then
      perform (.run body)
      match after with
      | .stop => return
      | .fallThrough => runChoices perform text true choices
      | .lookOn => runChoices perform text false choices
    else runChoices perform text false choices

/-- Does not wait for a command: it goes its own way from now on. -/
def runBackground (perform : Perform) (c : Command) : Act Unit := do
  let before ← get
  let number := shellNumber + 1 + before.jobs.length
  modify fun s => { s with job := number }
  openSource 0 [] false
  apart (perform (.run c))
  modify fun s =>
    { s with
      channels := before.channels, job := before.job, clock := before.clock, status := 0
      jobs := { number, status := s.status, ends := s.clock } :: before.jobs }

/-- The name that complaints inside a function begin with. -/
def Session.functionSpeaker (s : Session) : String :=
  if s.speaker != s.name then s.speaker
  else
    match s.origin with
    | .argument => "environment"
    | .file => s.name
    | .input => "main"

/-- Carries out a command. -/
def runCommand (programs : Programs) (perform : Perform) : Command → Act Unit
  | .nothing => setStatus 0
  | .simple line assignments words redirects => runSimple programs perform line assignments words redirects
  | .sequence cs => cs.forM fun c => perform (.run c)
  | .pipe cs => do
    let statuses ← runPipe perform cs
    modify fun s => { s with status := pipeStatusOf s statuses, pipeStatus := statuses }
    checkFailure perform
  | .negate c => do
    tested (perform (.run c))
    modify fun s => { s with status := if s.status == 0 then 1 else 0 }
  | .both a b => do
    tested (perform (.run a))
    if (← get).status == 0 then perform (.run b)
  | .either a b => do
    tested (perform (.run a))
    if (← get).status != 0 then perform (.run b)
  | .background c => runBackground perform c
  | .subshell c => do
    apart (perform (.run c))
    settle perform
  | .redirected c redirects => do
    let channels := (← get).channels
    let done ← withRedirects perform redirects (perform (.run c))
    runFeeds perform
    modify fun s => { s with channels }
    if !done then checkFailure perform
  | .choose test yes no => do
    tested (perform (.run test))
    if (← get).status == 0 then perform (.run yes) else perform (.run no)
  | .loop untilTrue test body => inLoop (runLoop perform untilTrue test body roundLimit 0)
  | .each line name words body => do
    modify fun s => { s with line }
    if !isName name then refuse 1 ("\x60" ++ name ++ "': not a valid identifier")
    else
      let fields ← match words with
        | some ws => expandFields perform ws
        | none => do pure (← get).parameters
      setStatus 0
      inLoop (runEach perform name body fields)
  | .count line first test step body => do
    modify fun s => { s with line }
    match ← countingValue perform first with
    | none => setStatus 1
    | some _ => inLoop (runCount perform test step body roundLimit 0)
  | .select line word choices => do
    modify fun s => { s with line }
    let text ← expandText perform word
    setStatus 0
    runChoices perform text false choices
  | .define line name body => modify fun s =>
    let f : Function := { line, body, speaker := s.functionSpeaker }
    { s with functions := (name, f) :: s.functions.filter (·.1 != name), status := 0 }
  | .condition line t => do
    modify fun s => { s with line, status := 0 }
    let yes ← t.holds perform
    modify fun s => { s with status := if yes then 0 else if s.status == 2 then 2 else 1 }
    settle perform
  | .sum line w => do
    modify fun s => { s with line }
    let text ← expandText perform w
    traceLine (return "(( " ++ text ++ " ))")
    match ← tryEvaluate "((: " text with
    | some value => setStatus (if value == 0 then 1 else 0)
    | none => setStatus 1
    settle perform

/-- Does what is asked, no deeper than a number of levels. -/
def performWithin (programs : Programs) : Nat → Perform
  | 0, _ => throw .script
  | depth + 1, .run c => runCommand programs (performWithin programs depth) c
  | depth + 1, .expand w => expandWord (performWithin programs depth) w

/-- How deep commands can be nested. -/
def depthLimit : Nat := 4000

end Recap.Shell
