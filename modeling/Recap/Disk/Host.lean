import Recap.Compressor.Command
import Recap.Disk.Project
import Recap.Disk.Records
import Recap.Engine.Host

/-!
# A host on disk

A host whose chat is a file, whose records are files, and whose summaries come from the stand-in or
from a command. There are no connection profiles, and no two passes at a time.

## Contents
- `Host`, `Host.answer` — the host and its answers.
- `Host.serve` — carries an engine's dialogue on with the machine.
-/

namespace Recap.Disk

open Machine (Call Path Running)

/-- Where everything is. -/
structure Host where
  /-- The file of the chat. -/
  chat : Path
  /-- The directory below which records are kept. -/
  root : Path
  /-- The directory for what goes into the prompt. -/
  slot : Path
  summarizer : Summarizer

/-- What became of something done with files, its error in words. -/
def settle {α : Type} (t : FileTask α) : Running (Except String α) := do
  return (← t.run).mapError (·.message)

/-- The summary of a chunk, unless it cannot be had. -/
def summarize (s : Summarizer) (messages : List Message) (chapter : Nat) : Running (Option String) :=
  match s with
  | .standIn form => return some (form.summarize messages)
  | .command command template => do
    return (← (command.generate (chunkPrompt template messages chapter)).run).toOption

/-- The answer to a question of the engine. -/
def Host.answer (h : Host) : (c : HostCall) → Running c.Answer
  | .begin => return true
  | .finish => return ()
  | .now => Call.now.ask
  | .freshId => Call.freshId.ask
  | .currentChat => do return (← (loadChat h.chat).run).toOption
  | .loadStorage chatId => settle (loadStorage h.root chatId)
  | .saveStorage chatId storage => settle (saveStorage h.root chatId storage)
  | .loadTags chatId => settle (loadTags h.root chatId)
  | .saveTags chatId tags => settle (saveTags h.root chatId tags)
  | .setBlock block => do
    let _ ← (setBlock h.slot block).run
    return ()
  | .currentProfile => return none
  | .switchProfile _ => return .failed
  | .compress messages chapter => summarize h.summarizer messages chapter
  | .report _ => return ()

/-- Carries an engine's dialogue on with the machine. -/
def Host.serve {α : Type} (h : Host) (d : Hosted α) : Running α := d.delegate h.answer

end Recap.Disk
