import Recap.Programs.Shell.Signal
import Recap.Programs.Tool.Ends
import Recap.Programs.Tool.Name

/-!
# Programs that start others

## Contents
- `handOver` — starts another program in the place of this one.
- `timeout` — ends it when it takes too long.
- `nice`, `nohup`, `setsid`, `stdbuf` — under other circumstances.
-/

namespace Recap.Tool

open Recap.Shell
open Machine (Fault)

/-- Starts another program in the place of this one. A program that cannot be started is complained about
    in words that stand before the reason. -/
def handOver (programs : Programs) (words : String → String) (j : Job) : List String → Running Output
  | [] => return .ended 0 j.input
  | name :: arguments => do
    match ← programs.launch (some "sh") name { j with arguments } with
    | .ok o => return o
    | .error fault =>
      let code := if fault == .notFound || fault == .notDirectory then 127 else 126
      j.refuse code (words name ++ ": " ++ fault.phrase)

/-- The words for a program that another cannot start. -/
def failedToRun (program name : String) : String :=
  program ++ ": failed to run command " ++ Text.quoted name

/-! ## Time -/

/-- The number of a signal that a program is told to send. -/
def signalOf? (text : String) : Option Nat :=
  match natOf? text with
  | some n => if n ≤ 64 then some n else if 128 < n && n ≤ 192 then some (n - 128) else none
  | none => if text.map Char.toUpper == "EXIT" then some 0 else signalNumber? true text

/-- What comes of a program that was sent signals. -/
def afterAlarms (o : Options) (limit : Nat) (alarms : List Alarm) (name : String) (ended : Output) : Output :=
  if limit == 0 || ended.slept < limit then ended
  else
    let told := (alarms.filter (·.after ≤ ended.slept)).map fun a =>
      "timeout: sending signal " ++ (signals.lookup a.signal).getD (Nat.repr a.signal) ++ " to command " ++
        Text.quoted name ++ "\n"
    let status : ExitStatus := match ended.status with
      | .killed 9 => if o.has 'f' then .exited 137 else .killed 9
      | status => .exited (if o.has 'p' then status.code else 124)
    { ended with status, err := ended.err ++ if o.has 'v' then Text.bytes (String.join told) else [] }

/-- Starts a program, and sends it signals when it takes too long. -/
def timeout (programs : Programs) : Program := withOptions
  { program := "timeout", plain := "v", valued := "sk", refusal := 125, mixed := false
    names := [("signal", 's'), ("kill-after", 'k'), ("preserve-status", 'p'), ("foreground", 'f'),
      ("verbose", 'v')] }
  fun o j => do
    let badInterval (text : String) : Running Output :=
      j.refuse 125 (hinted "timeout" ("invalid time interval " ++ Text.quoted text))
    let complaint? := o.given.findSome? fun (c, value) =>
      if c == 's' && (signalOf? value).isNone then some (Text.quoted value ++ ": invalid signal")
      else if c == 'k' && (intervalOf? value).isNone then some ("invalid time interval " ++ Text.quoted value)
      else none
    match complaint?, o.operands with
    | some complaint, _ => j.refuse 125 (hinted "timeout" complaint)
    | none, duration :: name :: rest =>
      match intervalOf? duration with
      | none => badInterval duration
      | some limit =>
        let first : Alarm := ⟨limit, ((o.value? 's').bind signalOf?).getD 15⟩
        let second := ((o.value? 'k').bind intervalOf?).filter (· != 0)
        let alarms := first :: (second.map fun k => Alarm.mk (limit + k) 9).toList
        let all := if limit == 0 then j.alarms else (j.alarms ++ alarms).mergeSort fun a b => a.after ≤ b.after
        let ended ← handOver programs (failedToRun "timeout") { j with alarms := all } (name :: rest)
        return afterAlarms o limit alarms name ended
    | none, _ => j.refuse 125 "Try 'timeout --help' for more information."

/-! ## Other circumstances -/

/-- Starts a program that others go before; without one, tells how many do. -/
def nice (programs : Programs) : Program := fun j =>
  let obsolete? (argument : String) : Option String :=
    match argument.toList with
    | '-' :: '-' :: d :: ds => if d.isDigit then some (String.ofList ('-' :: d :: ds)) else none
    | '-' :: '+' :: d :: ds | '-' :: d :: ds => if d.isDigit then some (String.ofList (d :: ds)) else none
    | _ => none
  let rec spell : List String → List String
    | argument :: rest => match obsolete? argument with
      | some n => "-n" :: n :: spell rest
      | none => argument :: rest
    | [] => []
  withOptions { program := "nice", valued := "n", refusal := 125, mixed := false, names := [("adjustment", 'n')] }
    (fun o j =>
      let change := (o.value? 'n').getD "10"
      match intOf? change, o.operands with
      | none, _ => j.refuse 125 ("nice: invalid adjustment " ++ Text.quoted change)
      | some _, [] =>
        if o.has 'n' then j.refuse 125 (hinted "nice" "a command must be given with an adjustment")
        else return .said (intText j.niceness ++ "\n") j.input
      | some n, command =>
        handOver programs (fun name => "nice: " ++ Text.quoted name)
          { j with niceness := max (-20) (min 19 (j.niceness + n)) } command)
    { j with arguments := spell j.arguments }

/-- Starts a program that goes on when nobody is there. -/
def nohup (programs : Programs) : Program := withOptions { program := "nohup", refusal := 125, mixed := false }
  fun o j =>
    if o.operands.isEmpty then j.refuse 125 (hinted "nohup" "missing operand")
    else handOver programs (failedToRun "nohup") j o.operands

/-- Starts a program that stands alone. -/
def setsid (programs : Programs) : Program := withOptions
  { program := "setsid", plain := "cfw", mixed := false, names := [("ctty", 'c'), ("fork", 'f'), ("wait", 'w')] }
  fun o j =>
    if o.operands.isEmpty then j.refuse 1 (hinted "setsid" "no command specified")
    else handOver programs (fun name => "setsid: failed to execute " ++ name) j o.operands

/-- The complaint about the way in which something is to be kept back. -/
def bufferingFlaw? (letter : Char) (value : String) : Option String :=
  let bad (why : String) : Option String := some ("stdbuf: invalid mode " ++ Text.quoted value ++ why)
  if value == "L" then
    if letter == 'i' then some (hinted "stdbuf" "line buffering stdin is meaningless") else none
  else
    match sizeOf? value with
    | .ok _ => none
    | .error "" => bad ""
    | .error _ => bad ": Value too large for defined data type"

/-- Starts a program that does not keep what it reads and writes. -/
def stdbuf (programs : Programs) : Program := withOptions
  { program := "stdbuf", valued := "ioe", refusal := 125, mixed := false
    names := [("input", 'i'), ("output", 'o'), ("error", 'e')] }
  fun o j =>
    match o.given.findSome? fun (c, value) => bufferingFlaw? c value, o.operands with
    | some flaw, _ => j.refuse 125 flaw
    | none, [] => j.refuse 125 (hinted "stdbuf" "missing operand")
    | none, command =>
      if o.given.isEmpty then j.refuse 125 (hinted "stdbuf" "you must specify a buffering mode option")
      else handOver programs (failedToRun "stdbuf") j command

end Recap.Tool
