import Recap.Programs.Shell.Glob
import Recap.Programs.Shell.Process
import Recap.Programs.Shell.Script
import Recap.Programs.Shell.Variable

/-!
# Sessions of the shell

What a shell knows while it carries a script out: variables, functions, options, and where its channels
lead.

## Contents
- `Session`, `Stream` — the state of a shell.
- `Leave`, `Act` — what a shell does, and how it can be interrupted.
- `Deed`, `Perform` — what can be asked of a shell.
- `Act.write`, `Act.input` — channels.
- `Act.complain`, `Act.abort`, `Act.discard` — complaints.
- `Act.apart` — a part of a script whose changes are forgotten.
-/

namespace Recap.Shell

open Machine (Fault Path)

/-! ## State -/

/-- Something that was written, when, and by which of the commands that are not waited for. -/
structure Written where
  time : Nat
  writer : Nat
  bytes : Bytes

/-- Where channels lead. -/
inductive Stream where
  /-- Something to read, by what is left of it. -/
  | source (bytes : Bytes) (isFile : Bool)
  /-- What is written is kept, the last first. -/
  | sink (pieces : List Written)
  /-- What is written is put at the end of a file. -/
  | file (path : Path)

/-- The kinds of shells. -/
inductive Flavour where
  | plain
  /-- The one with a larger language. -/
  | enlarged
  deriving DecidableEq

/-- Where a script comes from. -/
inductive Origin where
  | argument
  | file
  | input
  deriving DecidableEq

/-- A function: the line that it begins on, what it does, and the name that complaints inside it begin
    with. -/
structure Function where
  line : Nat
  body : Command
  speaker : String

/-- A command that is not waited for: its number, its status, and when it ends. -/
structure Background where
  number : Nat
  status : Nat
  ends : Nat

/-- The state of a shell. -/
structure Session where
  flavour : Flavour
  origin : Origin
  name : String
  /-- The name that complaints begin with. -/
  speaker : String
  line : Nat
  /-- The line before the one that the function being carried out begins on. -/
  lineOffset : Nat
  bindings : List (String × Variable)
  /-- Variables as they were before the function being carried out made them its own. -/
  hidden : List (String × Option Variable)
  parameters : List String
  functions : List (String × Function)
  /-- The functions that are being carried out, the innermost first. -/
  called : List String
  /-- The number of functions that can be left. -/
  calls : Nat
  /-- The number of loops that are being carried out. -/
  loops : Nat
  status : Nat
  /-- The statuses of the commands of the last pipe. -/
  pipeStatus : List Nat
  /-- The status of the last command whose output took a place in the command being carried out. -/
  substituted : Nat
  /-- The letters of the options that are on. -/
  options : List Char
  /-- The names of the other options that are on. -/
  switches : List String
  /-- Whether a failure is not the end of the script. -/
  tested : Bool
  directory : Path
  /-- What to do when the script ends or a signal comes. -/
  traps : List (String × String)
  channels : List (Nat × Nat)
  streams : List Stream
  /-- Why something could not be written, since the last command. -/
  unwritten : Option Fault
  documents : List (Nat × Word)
  /-- Streams that commands are to be fed with when the command being carried out ends. -/
  feeds : List (Nat × Command)
  /-- The milliseconds that have gone by. -/
  clock : Nat
  /-- The signals that are still to come, the first first. -/
  alarms : List Alarm
  /-- How far it lets others go before. -/
  niceness : Int
  /-- Commands that are not waited for, the last first. -/
  jobs : List Background
  /-- The number of the command that is not waited for of which this is a part. -/
  job : Nat
  /-- The place of the next letter in the argument that options are read from. -/
  optionOffset : Nat
  /-- The last word of the command before. -/
  lastWord : String
  /-- How many levels below the first shell this is. -/
  depth : Nat
  /-- How many scripts inside the script lead to the command being carried out. -/
  level : Nat

/-- The ways in which carrying out a command is interrupted. -/
inductive Leave where
  /-- Loops end. -/
  | loops (count : Nat)
  /-- Loops end but for the last of them, which goes on. -/
  | rounds (count : Nat)
  /-- A function ends. -/
  | function
  /-- A line ends, and with it a script that is an argument. -/
  | line
  | script
  | killed (signal : Nat)

/-- What a shell does. -/
abbrev Act := ExceptT Leave (StateT Session (Running))

/-- A piece of a word after its values have taken their places. -/
inductive Mark where
  /-- A character; one of a value can divide words. -/
  | glyph (g : Glyph) (divides : Bool)
  /-- Nothing between quotes, which is a word all the same. -/
  | kept
  /-- The end of a word. -/
  | border

/-- What can be asked of a shell. -/
inductive Deed where
  | run (c : Command)
  | expand (w : Word)

/-- What comes of a deed. -/
@[reducible] def Deed.Result : Deed → Type
  | .run _ => Unit
  | .expand _ => List Mark

/-- Does what is asked. -/
abbrev Perform := (d : Deed) → Act d.Result

/-- The programs that a shell can start. -/
structure Programs where
  /-- The path of the one that a name or path leads to. -/
  find : Job → String → Running (Except Fault String)
  /-- Starts one by its name or path. A file that is no program is given to the program of a name. -/
  launch : Option String → String → Job → Running (Except Fault Output)

namespace Act

/-- Asks the machine. -/
def ask (c : Call) : Act c.Answer := ExceptT.lift (StateT.lift c.ask)

/-- Carries on a dialogue with the machine. -/
def running {α : Type} (d : Running α) : Act α := ExceptT.lift (StateT.lift d)

/-- Sets the status of the last command. -/
def setStatus (code : Nat) : Act Unit := modify fun s => { s with status := code }

/-- Whether an option is on. -/
def hasOption (letter : Char) : Act Bool := do return (← get).options.contains letter

/-- Whether this is the shell with the larger language. -/
def isEnlarged : Act Bool := do return (← get).flavour == .enlarged

/-- Does something, and something else afterwards, however it ended. -/
def thenAlways {α : Type} (act : Act α) (after : Act Unit) : Act α := do
  let result ← tryCatch (do return Except.ok (← act)) fun l => return Except.error l
  after
  match result with
  | .ok a => return a
  | .error l => throw l

end Act

/-! ## Channels -/

/-- The stream that a channel leads to. -/
def Session.stream? (s : Session) (channel : Nat) : Option (Nat × Stream) := do
  let number ← s.channels.lookup channel
  let stream ← s.streams[number]?
  return (number, stream)

/-- Adds a stream. -/
def Session.addStream (s : Session) (stream : Stream) : Nat × Session :=
  (s.streams.length, { s with streams := s.streams ++ [stream] })

/-- Lets a channel lead to a stream. -/
def Session.connect (s : Session) (channel number : Nat) : Session :=
  { s with channels := (channel, number) :: s.channels.filter (·.1 != channel) }

/-- Lets a channel lead nowhere. -/
def Session.disconnect (s : Session) (channel : Nat) : Session :=
  { s with channels := s.channels.filter (·.1 != channel) }

/-- All that was written to a stream, in the order of the times when it was. -/
def Session.written (s : Session) (number : Nat) : Bytes :=
  match s.streams[number]? with
  | some (.sink pieces) => (pieces.reverse.mergeSort fun a b => a.time ≤ b.time).flatMap (·.bytes)
  | _ => []

/-- Forgets what a command that is not waited for would have written from now on. -/
def Session.silence (s : Session) (writer : Nat) : Session :=
  let keeps (w : Written) : Bool := w.writer != writer || w.time ≤ s.clock
  { s with streams := s.streams.map fun
      | .sink pieces => .sink (pieces.filter keeps)
      | stream => stream }

namespace Act

/-- Changes a stream. -/
def setStream (number : Nat) (stream : Stream) : Act Unit :=
  modify fun s => { s with streams := s.streams.set number stream }

/-- Writes to a channel. -/
def write (channel : Nat) (bytes : Bytes) : Act Unit := do
  if bytes.isEmpty then return
  let s ← get
  match s.stream? channel with
  | some (number, .sink pieces) =>
    setStream number (.sink ({ time := s.clock, writer := s.job, bytes } :: pieces))
  | some (_, .file path) =>
    match ← ask (.writeBytes path bytes true) with
    | .error fault => if channel == 1 then modify fun s => { s with unwritten := some fault }
    | .ok () => return
  | _ => if channel == 1 then modify fun s => { s with unwritten := some .noChannel }

/-- Writes a text. -/
def say (text : String) : Act Unit := write 1 (Text.bytes text)

/-- What is left to read from a channel, and whether it is a file. -/
def input (channel : Nat) : Act (Bytes × Bool) := do
  match (← get).stream? channel with
  | some (_, .source bytes isFile) => return (bytes, isFile)
  | some (_, .file path) =>
    match ← ask (.readBytes path) with
    | .ok bytes => return (bytes, true)
    | .error _ => return ([], true)
  | _ => return ([], false)

/-- Leaves something to read from a channel. -/
def setInput (channel : Nat) (bytes : Bytes) : Act Unit := do
  match (← get).stream? channel with
  | some (number, .source _ isFile) => setStream number (.source bytes isFile)
  | _ => return

/-- Lets a channel lead to something to read. -/
def openSource (channel : Nat) (bytes : Bytes) (isFile : Bool) : Act Unit := modify fun s =>
  let (number, s) := s.addStream (.source bytes isFile)
  s.connect channel number

/-! ## Complaints -/

/-- What complaints begin with. -/
def label : Act String := do
  let s ← get
  match s.flavour with
  | .plain => return s.speaker ++ ": " ++ Nat.repr (s.line - s.lineOffset) ++ ": "
  | .enlarged => return s.speaker ++ ": line " ++ Nat.repr s.line ++ ": "

/-- Complains. -/
def complain (message : String) : Act Unit := do
  write 2 (Text.bytes ((← label) ++ message ++ "\n"))

/-- Complains, and fails. -/
def refuse (code : Nat) (message : String) : Act Unit := do
  complain message
  setStatus code

/-- The status of a script that cannot go on. -/
def abortCode : Act Nat := do return if (← isEnlarged) then 1 else 2

/-- Complains, and ends the script. -/
def abort {α : Type} (message : String) : Act α := do
  complain message
  setStatus (← abortCode)
  throw .script

/-- Complains about a value that is missing, and ends the script. -/
def abortMissing {α : Type} (message : String) : Act α := do
  complain message
  let s ← get
  setStatus (match s.flavour, s.origin with
    | .plain, _ => 2
    | .enlarged, .argument => 127
    | .enlarged, _ => 1)
  throw .script

/-- Complains, and ends the line; in the smaller language, the script. -/
def discard {α : Type} (message : String) : Act α := do
  complain message
  setStatus (← abortCode)
  throw (if (← isEnlarged) then .line else .script)

/-! ## Parts of scripts -/

/-- Does something whose changes are forgotten, but for what is read and written. -/
def apart (act : Act Unit) : Act Unit := do
  let before ← get
  modify fun s =>
    { s with traps := s.traps.filter (·.2.isEmpty), loops := 0, calls := 0, depth := s.depth + 1 }
  let result ← tryCatch (do act; return none) fun l => return some l
  let after ← get
  set { before with
    streams := after.streams, status := after.status, documents := after.documents, clock := after.clock }
  match result with
  | some (.killed signal) => throw (.killed signal)
  | _ => return

/-- What something writes. -/
def captured (act : Act Unit) : Act Bytes := do
  let channels := (← get).channels
  let number := (← get).streams.length
  modify fun s => (s.addStream (.sink [])).2.connect 1 number
  thenAlways act (modify fun s => { s with channels })
  return (← get).written number

/-- Does something while its failures are tested. -/
def tested {α : Type} (act : Act α) : Act α := do
  let before := (← get).tested
  modify fun s => { s with tested := true }
  thenAlways act (modify fun s => { s with tested := before })

end Act

end Recap.Shell
