import Recap.Machine.FileTree
import Recap.Programs.Named

/-!
# Programs

A program is started with arguments and an input, reads and writes files, and leaves behind what it
has written and a status.

## Contents
- `Call`, `Running` — what programs ask of the machine that they run on.
- `Output` — what a program leaves behind.
- `Alarm`, `Job`, `Program` — what a program is started with, and programs.
- `keptLines`, `plainLines` — lines of bytes.
- `Job.gather`, `Job.filter` — what is in the files that a program is given.
-/

namespace Recap.Shell

open Machine (Fault FileTree Kind Path)

/-- Bytes of a stream. -/
abbrev Bytes := List UInt8

/-! ## The machine -/

/-- A question of a program to the machine that it runs on. -/
inductive Call where
  /-- The time, in milliseconds since the beginning of 1970. -/
  | now
  /-- The directory that programs run in. -/
  | workingDirectory
  /-- What is at a path. -/
  | look (path : Path)
  | readBytes (path : Path)
  /-- Write bytes to a file, in place of what may be there or behind it. -/
  | writeBytes (path : Path) (bytes : Bytes) (append : Bool)
  /-- The names in a directory, in order. -/
  | names (path : Path)
  | makeDirectory (path : Path)
  /-- Make a directory, and those above it that are missing. -/
  | makeDirectories (path : Path)
  | removeFile (path : Path)
  /-- Remove a directory that is empty. -/
  | removeDirectory (path : Path)
  /-- Say who may do what with a file: bits, as they are usually written in base eight. -/
  | setMode (path : Path) (mode : Nat)
  deriving DecidableEq, Repr

/-- What a question is answered with. -/
@[reducible] def Call.Answer : Call → Type
  | .now => Int64
  | .workingDirectory => Path
  | .look _ => Except Fault Kind
  | .readBytes _ => Except Fault Bytes
  | .names _ => Except Fault (List String)
  | .writeBytes .. | .makeDirectory _ | .makeDirectories _ => Except Fault Unit
  | .removeFile _ | .removeDirectory _ | .setMode .. => Except Fault Unit

/-- A dialogue of a program with its machine. -/
abbrev Running (α : Type) := Dialogue Call Call.Answer α

/-- Asks one question. -/
def Call.ask (c : Call) : Running c.Answer := .call c

/-- What programs find: the directory that they run in, the time, and the files. -/
structure Site where
  home : Path
  clock : Int
  tree : FileTree

namespace Site

/-- Changes the files. -/
def change (m : Site) (tree? : Except Fault FileTree) : Except Fault Unit × Site :=
  match tree? with
  | .ok tree => (.ok (), { m with tree })
  | .error fault => (.error fault, m)

/-- The answer to a question. -/
def answer : (c : Call) → Site → c.Answer × Site
  | .now, m => (.ofInt m.clock, m)
  | .workingDirectory, m => (m.home, m)
  | .look p, m => (m.tree.look m.home.place p, m)
  | .readBytes p, m => (m.tree.readBytes m.home.place p, m)
  | .writeBytes p bytes append, m => m.change (m.tree.writeBytes m.home.place p bytes append)
  | .names p, m => (m.tree.names m.home.place p, m)
  | .makeDirectory p, m => m.change (m.tree.makeDirectory m.home.place p)
  | .makeDirectories p, m => m.change (m.tree.makeDirectories m.home.place p)
  | .removeFile p, m => m.change (m.tree.removeFile m.home.place p)
  | .removeDirectory p, m => m.change (m.tree.removeDirectory m.home.place p)
  | .setMode p mode, m => m.change (m.tree.setMode m.home.place p mode)

end Site

/-! ## Endings -/

/-- How a program ended. -/
abbrev ExitStatus := Machine.ExitStatus

/-- The code that a status is known by. -/
def ExitStatus.code : ExitStatus → Nat
  | .exited code => code
  | .killed signal => 128 + signal

/-- What a program leaves behind. -/
structure Output where
  out : Bytes
  err : Bytes
  status : ExitStatus
  /-- What it did not read of its input. -/
  rest : Bytes
  /-- The milliseconds that it slept. -/
  slept : Nat := 0
  /-- What it wrote to channels beyond the usual ones. -/
  beyond : List (Nat × Bytes) := []

namespace Output

/-- Ended well. -/
def wrote (out rest : Bytes) : Output := { out, err := [], status := .exited 0, rest }

/-- Ended well, having written a text. -/
def said (text : String) (rest : Bytes) : Output := .wrote (Text.bytes text) rest

/-- Ended with a status, having written nothing. -/
def ended (code : Nat) (rest : Bytes) : Output := { out := [], err := [], status := .exited code, rest }

/-- Ended with a status and a complaint. -/
def failed (code : Nat) (complaint : String) (rest : Bytes) : Output :=
  { out := [], err := Text.bytes complaint, status := .exited code, rest }

end Output

/-! ## Beginnings -/

/-- A signal that comes after a number of milliseconds. -/
structure Alarm where
  after : Nat
  signal : Nat

/-- Whether a signal ends a program that does not expect it. -/
def isFatal (signal : Nat) : Bool := !([0, 17, 18, 23, 28].contains signal)

/-- What a program is started with. -/
structure Job where
  arguments : List String
  input : Bytes
  /-- Whether the input is a file. -/
  inputIsFile : Bool
  /-- The directory that it runs in. -/
  directory : Path
  /-- The variables that are handed on to it. -/
  bindings : List (String × String)
  /-- What can be read from channels beyond the usual ones. -/
  channels : List (Nat × Bytes) := []
  /-- How far it lets others go before. -/
  niceness : Int := 0
  /-- The signals that come while it runs, the first first. -/
  alarms : List Alarm := []

/-- A program. -/
abbrev Program := Job → Running Output

/-- The path that a name leads to. -/
def Job.path (j : Job) (name : String) : Path :=
  if name.isEmpty then .ofText name else j.directory.join (.ofText name)

/-- Ends after having slept, unless a signal ends it before. -/
def Job.wake (j : Job) (slept : Nat) (o : Output) : Running Output :=
  match j.alarms.find? fun a => isFatal a.signal && a.after ≤ slept with
  | some a => return { o with status := .killed a.signal, slept := a.after }
  | none => return { o with slept }

/-- Ends with a complaint. -/
def Job.refuse (j : Job) (code : Nat) (complaint : String) : Running Output :=
  return .failed code (complaint ++ "\n") j.input

/-! ## Lines -/

/-- The end of a line. -/
def newline : UInt8 := 10

/-- Pieces, each with the byte that ends it; the last may have none. -/
def keptPieces (ending : UInt8) : Bytes → List Bytes
  | [] => []
  | b :: bs =>
    if b == ending then [b] :: keptPieces ending bs
    else
      match keptPieces ending bs with
      | [] => [[b]]
      | line :: lines => (b :: line) :: lines

/-- Lines, each with the newline that ends it; the last may have none. -/
def keptLines (bs : Bytes) : List Bytes := keptPieces newline bs

/-- A line without its newline. -/
def bareLine (line : Bytes) : Bytes := line.filter (· != newline)

/-- Lines without their newlines. -/
def plainLines (bs : Bytes) : List Bytes := (keptLines bs).map bareLine

/-- Lines as texts. -/
def textLines (bs : Bytes) : List String := (plainLines bs).map Text.decode

/-! ## Files that a program is given -/

/-- One of the things that a program reads. -/
structure Source where
  name : String
  bytes : Bytes

/-- What was read, complaints about what could not be, and what is left of the input. -/
structure Gathered where
  sources : List Source
  err : Bytes
  rest : Bytes

/-- All that was read. -/
def Gathered.bytes (g : Gathered) : Bytes := g.sources.flatMap (·.bytes)

/-- The number that digits are. -/
def numberOfDigits? (digits : String) : Option Nat :=
  if digits.isEmpty || !digits.toList.all Char.isDigit then none
  else some (digits.toList.foldl (fun n d => n * 10 + (d.toNat - '0'.toNat)) 0)

/-- The channel that a path is another name of. -/
def channelOf? (p : Path) : Option Nat :=
  match p.place with
  | ["dev", "stdin"] => some 0
  | ["dev", "stdout"] => some 1
  | ["dev", "stderr"] => some 2
  | ["dev", "fd", n] | ["proc", "self", "fd", n] => numberOfDigits? n
  | _ => none

/-- The names of the input. -/
def isInputName (name : String) : Bool := name == "-" || channelOf? (.ofText name) == some 0

/-- The bytes that can be read at a path. -/
def Job.read (j : Job) (name : String) : Running (Except Fault Bytes) := do
  match channelOf? (j.path name) with
  | some 0 => return .ok j.input
  | some n =>
    match j.channels.lookup n with
    | some bytes => return .ok bytes
    | none => return .error .notFound
  | none => (Call.readBytes (j.path name)).ask

/-- The words for what cannot be read, and why. -/
abbrev Wording := String → Fault → String

/-- The words for what a program cannot read, if it has no words of its own. -/
def Wording.usual (program : String) : Wording := fun name fault =>
  program ++ ": " ++ Text.named name ++ ": " ++ fault.phrase

/-- Reads one operand. -/
def Job.gatherOne (j : Job) (wording : Wording) (g : Gathered) (operand : String) : Running Gathered := do
  if isInputName operand then
    return { g with sources := g.sources ++ [⟨operand, g.rest⟩], rest := [] }
  match ← j.read operand with
  | .ok bytes => return { g with sources := g.sources ++ [⟨operand, bytes⟩] }
  | .error fault => return { g with err := g.err ++ Text.bytes (wording operand fault ++ "\n") }

/-- Reads operands one after the other; without operands, the input. -/
def Job.gatherWith (j : Job) (wording : Wording) (operands : List String) : Running Gathered :=
  (if operands.isEmpty then ["-"] else operands).foldlM (j.gatherOne wording)
    { sources := [], err := [], rest := j.input }

/-- Reads operands one after the other for a program; without operands, the input. -/
def Job.gather (j : Job) (program : String) (operands : List String) : Running Gathered :=
  j.gatherWith (.usual program) operands

/-- Ends after reading, having written something. -/
def Gathered.finish (g : Gathered) (out : Bytes) : Output :=
  { out, err := g.err, status := .exited (if g.err.isEmpty then 0 else 1), rest := g.rest }

/-- Makes something of all that is read. -/
def Job.filterWith (j : Job) (wording : Wording) (operands : List String) (f : Bytes → Bytes) :
    Running Output := do
  let g ← j.gatherWith wording operands
  return g.finish (f g.bytes)

/-- Makes something of all that is read. -/
def Job.filter (j : Job) (program : String) (operands : List String) (f : Bytes → Bytes) : Running Output :=
  j.filterWith (.usual program) operands f

end Recap.Shell
