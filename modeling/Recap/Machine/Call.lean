import Recap.Dialogue
import Recap.Machine.Path

/-!
# What programs ask of the machine they run on

Programs use its clock and its files, and start other programs. What a program does that is started is up
to the machine.

## Contents
- `Fault` — what the machine can refuse, and the wording.
- `Invocation`, `ExitStatus`, `Ending` — a program that is started, and what it leaves behind.
- `Call`, `Call.Answer` — the questions and their answers.
- `Running`, `Call.ask` — dialogues with a machine.
- `Task` — dialogues that can fail.
-/

namespace Recap.Machine

/-- Why the machine refused something. -/
inductive Fault where
  | notFound
  | denied
  | taken
  | notDirectory
  | isDirectory
  | nameTooLong
  /-- A directory that is not empty. -/
  | notEmpty
  /-- A device that takes nothing. -/
  | noSpace
  /-- A device that is not there. -/
  | noDevice
  /-- A channel that leads nowhere. -/
  | noChannel
  /-- A file that is no program. -/
  | notProgram
  /-- A name with a zero byte, which no file can have. -/
  | unnameable
  /-- An argument with a zero byte, which no program can be given. -/
  | unsayable
  /-- Bytes that are no text. -/
  | notText
  | other (details : String)
  deriving DecidableEq, Repr

/-- What was refused, in words. -/
def Fault.phrase : Fault → String
  | .notFound => "No such file or directory"
  | .denied => "Permission denied"
  | .taken => "File exists"
  | .notDirectory => "Not a directory"
  | .isDirectory => "Is a directory"
  | .nameTooLong => "File name too long"
  | .notEmpty => "Directory not empty"
  | .noSpace => "No space left on device"
  | .noDevice => "No such device or address"
  | .noChannel => "Bad file descriptor"
  | .notProgram => "Exec format error"
  | .unnameable => "file name contained an unexpected NUL byte"
  | .unsayable => "nul byte found in provided data"
  | .notText => "stream did not contain valid UTF-8"
  | .other details => details

/-- The number that a refusal goes by. -/
def Fault.number? : Fault → Option Nat
  | .notFound => some 2
  | .noDevice => some 6
  | .notProgram => some 8
  | .noChannel => some 9
  | .denied => some 13
  | .taken => some 17
  | .notDirectory => some 20
  | .isDirectory => some 21
  | .noSpace => some 28
  | .nameTooLong => some 36
  | .notEmpty => some 39
  | .unnameable | .unsayable | .notText | .other _ => none

/-- The wording of a refusal. -/
def Fault.message (f : Fault) : String :=
  match f.number? with
  | some n => f.phrase ++ " (os error " ++ Nat.repr n ++ ")"
  | none => f.phrase

/-! ## Other programs -/

/-- A program that is started. -/
structure Invocation where
  /-- Its name or its path. -/
  program : String
  arguments : List String
  /-- All that it can read, with nothing behind it. -/
  input : List UInt8
  deriving DecidableEq, Repr

/-- How a program ended. -/
inductive ExitStatus where
  | exited (code : Nat)
  | killed (signal : Nat)
  deriving DecidableEq, Repr

/-- Whether a program ended well. -/
def ExitStatus.isSuccess (s : ExitStatus) : Bool := s == .exited 0

/-- What a program leaves behind: what it has written, also where errors are written, and how it ended. -/
structure Ending where
  out : List UInt8
  err : List UInt8
  status : ExitStatus
  deriving DecidableEq, Repr

/-! ## Questions -/

/-- A question to the machine. -/
inductive Call where
  /-- The time, in milliseconds since the beginning of 1970. -/
  | now
  /-- An id that nothing else has. -/
  | freshId
  /-- Whether there is a file or directory. -/
  | isThere (path : Path)
  | readText (path : Path)
  /-- Write a file, in place of the one that may be there. -/
  | writeText (path : Path) (text : String)
  /-- Make a directory, and those above it that are missing. -/
  | makeDirectories (path : Path)
  | removeFile (path : Path)
  /-- Start a program, and wait for its end. -/
  | start (i : Invocation)
  | print (text : String)
  /-- Print where errors are printed. -/
  | complain (text : String)
  deriving DecidableEq, Repr

/-- What a question is answered with. -/
@[reducible] def Call.Answer : Call → Type
  | .now => Int64
  | .freshId => String
  | .isThere _ => Bool
  | .readText _ => Except Fault String
  | .writeText .. | .makeDirectories _ | .removeFile _ => Except Fault Unit
  -- Refused where there is no such program, or the machine does not run it.
  | .start _ => Except Fault Ending
  | .print _ | .complain _ => Unit

/-- A dialogue with a machine. -/
abbrev Running (α : Type) := Dialogue Call Call.Answer α

/-- Asks one question. -/
def Call.ask (c : Call) : Running c.Answer := .call c

/-! ## Tasks -/

/-- A dialogue that can fail. -/
abbrev Task (ε α : Type) := ExceptT ε (Dialogue Call Call.Answer) α

namespace Task

variable {ε α : Type}

/-- Asks a question whose answer does not fail. -/
def ask (c : Call) : Task ε c.Answer := ExceptT.lift (Call.ask c)

/-- Goes on with an answer, or fails with what becomes of the refusal. -/
def attempt (d : Running (Except Fault α)) (failure : Fault → ε) : Task ε α := ExceptT.mk do
  match ← d with
  | .ok a => return .ok a
  | .error fault => return .error (failure fault)

/-- Fails in other words. -/
def rephrase {δ : Type} (t : Task δ α) (f : δ → ε) : Task ε α := ExceptT.adapt f t

end Task

end Recap.Machine
