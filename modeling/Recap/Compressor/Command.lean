import Recap.Machine.Call
import Recap.Settings.Basic
import Recap.Text.Utf8
import Recap.Text.Words

/-!
# Summaries by a command

A command reads a prompt and writes a summary. It fails if it cannot be started, and if it does not
end well. What the program of the command does is up to the machine. The prompt is handed over as a whole: a
program that ends without having read all of it is judged by its end alone.

## Contents
- `CommandError`, `CommandError.message` — what goes wrong, and the wording.
- `SummarizerCommand.generate` — the answer of a command to a prompt.
-/

namespace Recap

open Machine (Call Ending ExitStatus Task)

/-- What goes wrong with a command. -/
inductive CommandError where
  | notStarted (program : String) (fault : Machine.Fault)
  | endedBadly (program : String) (status : ExitStatus) (complaint : String)
  deriving DecidableEq, Repr

/-- The code of a status; one that is not the program's own is negative. -/
def exitCode : ExitStatus → String
  | .exited code => Nat.repr code
  | .killed _ => "-1"

/-- The wording of an error. -/
def CommandError.message : CommandError → String
  | .notStarted program fault =>
    "Failed to spawn summarizer command '" ++ program ++ "': " ++ fault.message
  | .endedBadly program status complaint =>
    "Summarizer command '" ++ program ++ "' exited with code " ++ exitCode status ++ ": " ++ complaint

/-- What a program that has ended has to say. -/
def answerOf (program : String) (e : Ending) : Except CommandError String :=
  if e.status.isSuccess then .ok (Text.trimEnd (Text.decode e.out))
  else .error (.endedBadly program e.status (Text.trim (Text.decode e.err)))

/-- The program of a command, with a prompt to read. -/
def SummarizerCommand.invocation (c : SummarizerCommand) (prompt : String) : Machine.Invocation :=
  { program := c.program, arguments := c.arguments, input := Text.bytes prompt }

/-- The answer of a command to a prompt. -/
def SummarizerCommand.generate (c : SummarizerCommand) (prompt : String) : Task CommandError String := do
  let e ← Task.attempt (Call.start (c.invocation prompt)).ask (.notStarted c.program)
  ExceptT.mk (pure (answerOf c.program e))

end Recap
