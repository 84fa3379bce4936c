import Recap.Programs.Shell.Redirection
import Recap.Programs.Tool.Options

/-!
# Signals

Signals come to the shell and to the commands that it does not wait for; what is to be done when they
come, or when the script ends, is kept until then.

## Contents
- `signals`, `signalNumber?` — signals by their numbers and names.
- `signalSelf`, `kill` — sending signals.
- `trap` — what is to be done when they come.
- `wait` — the ends of commands that are not waited for.
-/

namespace Recap.Shell

open Act

/-- A command of the shell: what it does with its arguments. -/
abbrev Builtin := List String → Act Unit

/-- Complains in the name of a command. -/
def refuseAs (command : String) (code : Nat) (message : String) : Act Unit :=
  refuse code (command ++ ": " ++ message)

/-- Ends the script because a command was not given what it needs. -/
def abortAs {α : Type} (command : String) (message : String) : Act α := abort (command ++ ": " ++ message)

/-- Shows how a command of the larger language is used. -/
def showUsage (command usage : String) : Act Unit := do
  write 2 (Text.bytes (command ++ ": usage: " ++ usage ++ "\n"))
  setStatus 2

/-- Complains about an option that a command of the larger language does not have. -/
def refuseOption (command option usage : String) : Act Unit := do
  complain (command ++ ": " ++ option ++ ": invalid option")
  showUsage command usage

/-! ## Names -/

/-- Signals by their numbers. -/
def signals : List (Nat × String) :=
  [(1, "HUP"), (2, "INT"), (3, "QUIT"), (4, "ILL"), (5, "TRAP"), (6, "ABRT"), (7, "BUS"), (8, "FPE"),
    (9, "KILL"), (10, "USR1"), (11, "SEGV"), (12, "USR2"), (13, "PIPE"), (14, "ALRM"), (15, "TERM"),
    (16, "STKFLT"), (17, "CHLD"), (18, "CONT"), (19, "STOP"), (20, "TSTP"), (21, "TTIN"), (22, "TTOU"),
    (23, "URG"), (24, "XCPU"), (25, "XFSZ"), (26, "VTALRM"), (27, "PROF"), (28, "WINCH"), (29, "IO"),
    (30, "PWR"), (31, "SYS")] ++
    (List.range 16).map (fun i => (34 + i, "RTMIN" ++ if i == 0 then "" else "+" ++ Nat.repr i)) ++
    (List.range 15).map fun i => (50 + i, "RTMAX" ++ if i == 14 then "" else "-" ++ Nat.repr (14 - i))

/-- The number of a signal, by its number or by its name without regard to case. -/
def signalNumber? (withStem : Bool) (name : String) : Option Nat :=
  match Tool.natOf? name with
  | some n => if n ≤ 64 then some n else none
  | none =>
    let upper := name.map Char.toUpper
    let bare := if withStem && upper.startsWith "SIG" then String.ofList (upper.toList.drop 3) else upper
    (signals.find? fun s => s.2 == bare && (withStem || s.1 != 16)).map (·.1)

/-- What is written about a program that a signal ended. -/
def signalText (n : Nat) : String :=
  match n with
  | 1 => "Hangup"
  | 3 => "Quit"
  | 6 => "Aborted"
  | 8 => "Floating point exception"
  | 9 => "Killed"
  | 11 => "Segmentation fault"
  | 14 => "Alarm clock"
  | 15 => "Terminated"
  | _ => "Signal " ++ Nat.repr n

/-- Signals in rows. -/
def signalRows (cells : List String) : Nat → String
  | 0 => ""
  | fuel + 1 =>
    match cells with
    | [] => ""
    | cells =>
      let row := "\t".intercalate (cells.take 5)
      row ++ (if cells.length < 5 then "\t\n" else "\n") ++ signalRows (cells.drop 5) fuel

/-- Shows all signals. -/
def showSignals : Act Unit := do
  if ← isEnlarged then
    let cells := signals.map fun (n, name) => Tool.padLeft 2 (Nat.repr n) ++ ") SIG" ++ name
    say (signalRows cells cells.length)
  else (List.range 65).forM fun n =>
    say (((signals.filter (·.1 != 16)).lookup n).getD (Nat.repr n) ++ "\n")

/-! ## Traps -/

/-- Occasions for which something can be kept, besides signals. -/
def occasions (enlarged : Bool) : List String :=
  "EXIT" :: if enlarged then ["ERR", "DEBUG", "RETURN"] else []

/-- The name that a trap is kept under. -/
def trapName? (enlarged : Bool) (name : String) : Option String :=
  let upper := name.map Char.toUpper
  if (occasions enlarged).contains upper then some upper
  else
    match signalNumber? enlarged name with
    | some 0 => some "EXIT"
    | some n => signals.lookup n
    | none => none

/-- Carries out what is kept for an occasion, after which the status is what it was. -/
def runTrap (perform : Perform) (name : String) : Act Unit := do
  match (← get).traps.lookup name with
  | none | some "" => return
  | some text =>
    let status := (← get).status
    runText perform (.inner "trap") text (← get).line
    setStatus status

/-- The place of a trap among those that are shown. -/
def trapPlace (name : String) : Nat :=
  if name == "EXIT" then 0
  else ((signals.find? fun s => s.2 == name).map (·.1)).getD 100

/-- Shows what is kept. -/
def showTraps (names : List String) : Act Unit := do
  let enlarged ← isEnlarged
  let shown (name : String) : String :=
    if enlarged && !(occasions true).contains name then "SIG" ++ name else name
  for (name, text) in (← get).traps.mergeSort fun a b => trapPlace a.1 ≤ trapPlace b.1 do
    if names.isEmpty || names.contains name then
      let quoted := if enlarged then singleQuoted text else plainQuoted text
      say ("trap -- " ++ quoted ++ " " ++ shown name ++ "\n")

/-- Keeps what is to be done for an occasion, or forgets it. -/
def putTrap (action : Option String) (name : String) : Act Bool := do
  let enlarged ← isEnlarged
  match trapName? enlarged name with
  | some known =>
    modify fun s =>
      let others := s.traps.filter (·.1 != known)
      { s with traps := match action with
          | some text => others ++ [(known, text)]
          | none => others }
    return true
  | none =>
    if enlarged then complain ("trap: " ++ name ++ ": invalid signal specification")
    else write 2 (Text.bytes ("trap: " ++ name ++ ": bad trap\n"))
    setStatus 1
    return false

/-- Keeps what is to be done for occasions; the smaller language stops at the first that it does not know. -/
def putTraps (action : Option String) : List String → Act Unit
  | [] => return
  | name :: names => do
    if (← putTrap action name) || (← isEnlarged) then putTraps action names

/-- Keeps what is to be done when the script ends or a signal comes. -/
def trap : Builtin := fun arguments => do
  let enlarged ← isEnlarged
  setStatus 0
  let put : List String → Act Unit
    | [] => showTraps []
    | [name] => putTraps none [name]
    | action :: names => putTraps (if action == "-" then none else some action) names
  match arguments, enlarged with
  | "-l" :: _, true => showSignals
  | "-p" :: names, true => showTraps (names.filterMap (trapName? enlarged))
  | "--" :: operands, _ => put operands
  | first :: _, _ =>
    match first.toList with
    | '-' :: c :: _ =>
      if enlarged then refuseOption "trap" ("-" ++ c.toString) "trap [-lp] [[arg] signal_spec ...]"
      else refuseAs "trap" 2 ("Illegal option -" ++ c.toString)
    | _ => put arguments
  | [], _ => put []

/-! ## Sending -/

/-- Sends a signal to the shell. -/
def signalSelf (perform : Perform) (n : Nat) : Act Unit := do
  match (← get).traps.lookup ((signals.lookup n).getD "") with
  | some "" => return
  | some text => runText perform (.inner "trap") text (← get).line
  | none => if isFatal n then throw (.killed n)

/-- Lets time go by; the signals that come meanwhile are dealt with when it is over. `done` is done however it
    ends, and `told` if the shell goes on. -/
def passTime (perform : Perform) (stop : Nat) (done told : Act Unit) : Act Unit := do
  let s ← get
  let due := s.alarms.filter (·.after ≤ stop)
  let isKept (a : Alarm) : Bool := (s.traps.lookup ((signals.lookup a.signal).getD "")).isSome
  let fatal := due.find? fun a => isFatal a.signal && !isKept a
  let time := (fatal.map (·.after)).getD stop
  set { s with alarms := s.alarms.filter (stop < ·.after), clock := max s.clock time }
  done
  match fatal with
  | some a => throw (.killed a.signal)
  | none =>
    told
    due.forM fun a => signalSelf perform a.signal

/-- Sends a signal to a command that is not waited for: what it would have done from now on does not
    happen. -/
def signalJob (job : Background) (n : Nat) : Act Unit := modify fun s =>
  if n == 0 || job.ends ≤ s.clock then s
  else
    let ended := { job with status := 128 + n, ends := s.clock }
    { s.silence job.number with jobs := s.jobs.map fun j => if j.number == job.number then ended else j }

/-- Sends a signal to what an operand names. -/
def signalOperand (perform : Perform) (n : Nat) (operand : String) : Act Unit := do
  let s ← get
  let enlarged := s.flavour == .enlarged
  match s.jobs.find? fun j => Nat.repr j.number == operand || operand == "%1" with
  | some job =>
    if job.ends ≤ s.clock then
      refuseAs "kill" 1 (if enlarged then "(" ++ operand ++ ") - No such process" else "No such process\n")
    else
      setStatus 0
      signalJob job n
  | none =>
    if operand == Nat.repr shellNumber || operand == "0" then
      setStatus 0
      signalSelf perform n
    else if operand.startsWith "%" then
      refuseAs "kill" (if enlarged then 1 else 2)
        (if enlarged then operand ++ ": no such job" else "No such job: " ++ operand)
    else if operand.startsWith "-" && (Tool.intOf? operand).isSome then setStatus 0
    else if operand.startsWith "-" && !enlarged then
      refuseAs "kill" 2 ("Illegal number: " ++ String.ofList (operand.toList.drop 1))
    else if (Tool.natOf? operand).isNone && !enlarged then refuseAs "kill" 2 ("Illegal number: " ++ operand)
    else if !enlarged then refuseAs "kill" 1 "No such process\n"
    else if (Tool.natOf? operand).isSome then refuseAs "kill" 1 ("(" ++ operand ++ ") - No such process")
    else if operand.isEmpty then refuseAs "kill" 1 "\x60': not a pid or valid job spec"
    else refuseAs "kill" 1 (operand ++ ": arguments must be process or job IDs")

/-- Says what numbers and names of signals stand for; the smaller language looks at the first only. -/
def listSignals (operands : List String) : Act Unit := do
  setStatus 0
  let enlarged ← isEnlarged
  if operands.isEmpty then showSignals
  else
    for operand in if enlarged then operands else operands.take 1 do
      match Tool.natOf? operand, enlarged with
      | some 0, true => say "EXIT\n"
      | some n, enlarged =>
        match signals.lookup (if 128 < n then n - 128 else n), enlarged with
        | some name, _ => say (name ++ "\n")
        | none, true => refuseAs "kill" 1 (operand ++ ": invalid signal specification")
        | none, false => refuseAs "kill" 2 ("invalid signal number or exit status: " ++ operand)
      | none, true =>
        match signalNumber? true operand with
        | some n => say (Nat.repr n ++ "\n")
        | none => refuseAs "kill" 1 (operand ++ ": invalid signal specification")
      | none, false => refuseAs "kill" 2 ("Illegal number: " ++ operand)

/-- How signals are sent. -/
def killUsage (enlarged : Bool) : String :=
  if enlarged then "kill [-s sigspec | -n signum | -sigspec] pid | jobspec ... or kill -l [sigspec]"
  else "Usage: kill [-s sigspec | -signum | -sigspec] [pid | job]... or\nkill -l [exitstatus]"

/-- Sends a signal to what operands name. -/
def sendSignal (perform : Perform) (signal : Option Nat) (name : String) (operands : List String) : Act Unit := do
  match signal, operands, ← isEnlarged with
  | none, _, true => refuseAs "kill" 1 (name ++ ": invalid signal specification")
  | none, _, false => refuseAs "kill" 2 ("invalid signal number or name: " ++ name)
  | some _, [], true => showUsage "kill" (killUsage true)
  | some _, [], false => refuseAs "kill" 2 (killUsage false)
  | some n, operands, _ => operands.forM (signalOperand perform n)

/-- Sends signals. -/
def kill (perform : Perform) : Builtin := fun arguments => do
  let enlarged ← isEnlarged
  let behindMark (operands : List String) : List String :=
    if enlarged && operands.head? == some "--" then operands.drop 1 else operands
  match arguments with
  | "-l" :: operands => listSignals operands
  | "-L" :: operands =>
    if enlarged then listSignals operands else refuseAs "kill" 2 "Illegal option -L"
  | ["-s"] => if enlarged then refuseAs "kill" 1 "-s: option requires an argument" else refuseAs "kill" 2 "No arg for -s option"
  | "-s" :: name :: rest => sendSignal perform (signalNumber? enlarged name) name (behindMark rest)
  | "-n" :: name :: rest =>
    if enlarged then sendSignal perform (signalNumber? true name) name (behindMark rest)
    else refuseAs "kill" 2 "Illegal option -n"
  | "--" :: rest => sendSignal perform (some 15) "" rest
  | first :: rest =>
    match first.toList with
    | '-' :: 's' :: c :: cs =>
      let name := String.ofList (c :: cs)
      let whole := signalNumber? enlarged ("s" ++ name)
      sendSignal perform (whole.or (signalNumber? enlarged name)) name (behindMark rest)
    | '-' :: c :: cs =>
      let name := String.ofList (c :: cs)
      match signalNumber? enlarged name with
      | some n => sendSignal perform (some n) name (behindMark rest)
      | none =>
        if enlarged then sendSignal perform none name rest
        else refuseAs "kill" 2 ("Illegal option -" ++ c.toString)
    | _ => sendSignal perform (some 15) "" arguments
  | [] => sendSignal perform (some 15) "" []

/-! ## Waiting -/

/-- Lets time go by until a command ends, which is then no longer waited for. -/
def awaitJob (perform : Perform) (job : Background) : Act Unit :=
  passTime perform job.ends (setStatus job.status) (pure ())

/-- Waits for the end of commands. -/
def wait (perform : Perform) : Builtin := fun arguments => do
  let jobs := (← get).jobs
  let enlarged ← isEnlarged
  match arguments with
  | [] =>
    jobs.forM (awaitJob perform)
    setStatus 0
  | "-n" :: _ =>
    match jobs.mergeSort fun a b => a.ends ≤ b.ends with
    | job :: _ =>
      awaitJob perform job
      modify fun s => { s with jobs := s.jobs.filter (·.number != job.number) }
    | [] => setStatus 127
  | operands =>
    for operand in operands do
      match jobs.find? fun j => Nat.repr j.number == operand || operand == "%1" with
      | some job => awaitJob perform job
      | none =>
        if !enlarged then setStatus 127
        else if (Tool.natOf? operand).isSome then
          refuseAs "wait" 127 ("pid " ++ operand ++ " is not a child of this shell")
        else refuseAs "wait" 1 ("\x60" ++ operand ++ "': not a pid or valid job spec")

end Recap.Shell
