import Recap.Programs.Shell.Evaluation

/-!
# The shell as a program

## Contents
- `Session.ofStart`, `runStart` — carrying a script out from its beginning.
- `takeOptions` — the options that a shell is started with.
- `shell` — the shell as a program.
-/

namespace Recap.Shell

open Act
open Machine (Fault)

/-- What a shell is started with. -/
structure Start where
  name : String
  options : List Char
  switches : List String
  parameters : List String
  origin : Origin
  text : String
  input : Bytes

/-- The variables that a shell has at first, besides those that it is handed. -/
def ownVariables (flavour : Flavour) : List (String × Variable) :=
  let texts (vs : List (String × String)) : List (String × Variable) :=
    vs.map fun (name, s) => (name, Variable.ofText s)
  texts [("IFS", " \t\n"), ("OPTIND", "1"), ("PPID", "4241"), ("PS4", "+ "),
    ("PATH", "/usr/local/sbin:/usr/local/bin:/usr/sbin:/usr/bin:/sbin:/bin")] ++
    match flavour with
    | .plain => []
    | .enlarged =>
      texts [("BASH", "/usr/bin/bash"), ("BASH_VERSION", "5.2.15(1)-release"),
        ("HOSTTYPE", "x86_64"), ("MACHTYPE", "x86_64-pc-linux-gnu"), ("OSTYPE", "linux-gnu"),
        ("UID", "0"), ("EUID", "0"), ("SHELL", "/bin/bash")] ++
      [("BASH_VERSINFO", { held := .ofTexts ["5", "2", "15", "1", "release", "x86_64-pc-linux-gnu"] }),
        ("SHLVL", { held := .text "1", exported := true })]

/-- The state of a shell that starts. -/
def Session.ofStart (flavour : Flavour) (j : Job) (b : Start) : Session :=
  let handed := (j.bindings.filter (·.1 != "PWD")).map fun (name, value) =>
    (name, { Variable.ofText value with exported := true })
  let isHanded := (j.bindings.lookup "PWD").isSome || flavour == .enlarged
  let directory := { Variable.ofText j.directory.text with exported := isHanded }
  let own := (ownVariables flavour).filter fun v => (handed.lookup v.1).isNone
  { flavour, origin := b.origin, name := b.name, speaker := b.name, line := 1, lineOffset := 0
    bindings := handed ++ ("PWD", directory) :: own, hidden := [], parameters := b.parameters
    functions := [], called := [], calls := 0, loops := 0, status := 0, pipeStatus := [], substituted := 0
    options := b.options, switches := b.switches, tested := false, directory := j.directory, traps := []
    channels := [(0, 0), (1, 1), (2, 2)], streams := [.source b.input j.inputIsFile, .sink [], .sink []]
    unwritten := none, documents := [], feeds := [], clock := 0, alarms := j.alarms, niceness := j.niceness, jobs := [], job := 0, optionOffset := 1, depth := 0
    level := 0, lastWord := "/usr/bin/bash" }

/-- Carries out what is kept for the end of the script. -/
def atEnd (perform : Perform) : Act Unit := do
  match (← get).traps.lookup "EXIT" with
  | none => return
  | some text =>
    let status := (← get).status
    modify fun s => { s with traps := s.traps.filter (·.1 != "EXIT") }
    runText perform (.inner "exit trap") text (← get).line
    setStatus status

/-- How the script of a shell is carried out. -/
def Origin.manner : Origin → Manner
  | .argument => ⟨"-c: ", false, false⟩
  | .file | .input => ⟨"", true, false⟩

/-- Carries a script out. -/
def runStart (programs : Programs) (flavour : Flavour) (j : Job) (b : Start) : Running Output := do
  let perform := performWithin programs depthLimit
  let upTo (act : Act Unit) : Act Unit := tryCatch act fun
    | .killed n => throw (.killed n)
    | _ => pure ()
  let act : Act Unit := do
    upTo (runText perform b.origin.manner b.text 1)
    upTo (atEnd perform)
  let (result, s) ← (act.run).run (Session.ofStart flavour j b)
  let rest := match s.streams[0]? with
    | some (.source bytes _) => bytes
    | _ => []
  let status : ExitStatus := match result with
    | .error (.killed n) => .killed n
    | _ => .exited (s.status % 256)
  return { out := s.written 1, err := s.written 2, status, rest, slept := s.clock }

/-! ## Options -/

/-- What the arguments of a shell ask for. -/
structure Request where
  letters : List Char := []
  switches : List String := []
  /-- An argument that asks for what there is not. -/
  unknown : Option String := none
  operands : List String := []

/-- Options of the larger language that are written out, and change nothing here. -/
def longOptions : List String :=
  ["--norc", "--noprofile", "--login", "--posix", "--noediting", "--verbose", "--restricted"]

/-- The options before the first operand, and what comes after them. -/
def takeOptions (flavour : Flavour) : List String → Request
  | [] => {}
  | "--" :: rest | "-" :: rest => { operands := rest }
  | "-o" :: name :: rest =>
    let r := takeOptions flavour rest
    match optionOf? flavour name with
    | some (some c) => { r with letters := c :: r.letters }
    | some none => { r with switches := name :: r.switches }
    | none => { r with unknown := some name }
  | "-O" :: name :: rest =>
    let r := takeOptions flavour rest
    if flavour == .enlarged then { r with switches := name :: r.switches }
    else { r with letters := 'O' :: r.letters }
  | argument :: rest =>
    match argument.toList with
    | '-' :: '-' :: _ =>
      let r := takeOptions flavour rest
      if flavour == .plain || longOptions.contains argument then r else { r with unknown := some argument }
    | '-' :: c :: cs =>
      let r := takeOptions flavour rest
      { r with letters := c :: cs ++ r.letters }
    | '+' :: _ :: _ => takeOptions flavour rest
    | _ => { operands := argument :: rest }

/-- Letters that a shell can be started with. -/
def startLetters : Flavour → List Char
  | .plain => "cesuxfnvaCimbIlhEVr".toList
  | .enlarged => "cesuxfnvaCimblhrktpBDEHPT".toList

/-- How a shell is started, in the larger language. -/
def startUsage (name : String) : String :=
  "Usage:\t" ++ name ++ " [GNU long option] [option] ...\n\t" ++ name ++
    " [GNU long option] [option] script-file ...\nGNU long options:\n" ++
    ["debug", "debugger", "dump-po-strings", "dump-strings", "help", "init-file", "login", "noediting",
      "noprofile", "norc", "posix", "pretty-print", "rcfile", "restricted", "verbose", "version"].foldl
      (fun t o => t ++ "\t--" ++ o ++ "\n") "" ++
    "Shell options:\n\t-ilrsD or -c command or -O shopt_option\t\t(invocation only)\n" ++
    "\t-abefhkmnptuvxBCEHPT or -o option\n"

/-- Complains about an option that there is not. -/
def refuseStart (flavour : Flavour) (name option : String) (j : Job) : Output :=
  match flavour with
  | .plain => .failed 2 (name ++ ": 0: Illegal option " ++ option ++ "\n") j.input
  | .enlarged =>
    if option.startsWith "-" then
      .failed 2 (name ++ ": " ++ option ++ ": invalid option\n" ++ startUsage name) j.input
    else .failed 2 (name ++ ": line 0: " ++ name ++ ": " ++ option ++ ": invalid option name\n") j.input

/-! ## The program -/

/-- Carries out the script of a file. -/
def runFile (programs : Programs) (flavour : Flavour) (name : String) (j : Job) (start : Start)
    (file : String) : Running Output := do
  match ← (Call.readBytes (j.path file)).ask with
  | .ok bytes => runStart programs flavour j { start with name := file, text := Text.decode bytes }
  | .error fault =>
    match flavour with
    | .plain =>
      return .failed 2 (name ++ ": 0: cannot open " ++ file ++ ": " ++ faultText flavour true fault ++ "\n")
        j.input
    | .enlarged =>
      let code := if fault == .notFound then 127 else 126
      return .failed code (name ++ ": " ++ file ++ ": " ++ fault.phrase ++ "\n") j.input

/-- The shell as a program, by the name it is started with. -/
def shell (programs : Programs) (flavour : Flavour) (name : String) : Program := fun j => do
  let r := takeOptions flavour j.arguments
  match r.unknown, r.letters.find? (!(startLetters flavour).contains ·) with
  | some option, _ =>
    return refuseStart flavour name (if flavour == .plain then "-o " ++ option else option) j
  | none, some c => return refuseStart flavour name ("-" ++ c.toString) j
  | none, none =>
    let kept := r.letters.filter fun c => c != 'c' && c != 's'
    let start : Start :=
      { name, options := if flavour == .enlarged then 'h' :: 'B' :: kept else kept
        switches := if flavour == .enlarged then r.switches ++ usualSwitches else r.switches
        parameters := [], origin := .argument, text := "", input := j.input }
    if r.letters.contains 'c' then
      match r.operands with
      | [] =>
        return .failed 2 (name ++ (if flavour == .plain then ": 0: -c requires an argument"
          else ": -c: option requires an argument") ++ "\n") j.input
      | text :: rest =>
        runStart programs flavour j { start with name := rest.headD name, parameters := rest.drop 1, text }
    else
      match if r.letters.contains 's' then [] else r.operands with
      | [] =>
        runStart programs flavour j
          { start with
            parameters := r.operands, origin := .input, text := Text.decode j.input, input := [] }
      | file :: rest => runFile programs flavour name j { start with parameters := rest, origin := .file } file

end Recap.Shell
