import Recap.Dialogue
import Recap.Storage.Basic

/-!
# What the engine asks of its host

Everything that the engine does not decide itself is a question to the host: the chat, the kept
records, the prompt, connection profiles, summaries, the clock, and the lock that keeps passes apart.

## Contents
- `ProgressEvent`, `Switch` — what is reported, and the outcome of a change of profile.
- `HostCall`, `HostCall.Answer` — the questions and their answers.
- `Hosted` — dialogues with a host.
-/

namespace Recap

/-- A report on a pass. -/
inductive ProgressEvent where
  /-- A pass of that many batches begins. -/
  | start (total : Nat)
  | update (done total : Nat)
  | complete (success : Bool) (message : String)
  deriving DecidableEq, Repr

/-- The outcome of a change of profile. -/
inductive Switch where
  | switched
  | declined
  | failed
  deriving DecidableEq, Repr

/-- A question to the host. -/
inductive HostCall where
  /-- Take the lock, unless a pass holds it. -/
  | begin
  /-- Give the lock back. -/
  | finish
  /-- The time, in milliseconds. -/
  | now
  /-- An id for a summary that no other summary has. -/
  | freshId
  | currentChat
  | loadStorage (chatId : String)
  | saveStorage (chatId : String) (storage : Storage)
  | loadTags (chatId : String)
  | saveTags (chatId : String) (tags : TagStore)
  /-- Put a text into the prompt. -/
  | setBlock (block : PromptBlock)
  /-- The connection profile in use. -/
  | currentProfile
  | switchProfile (profile : String)
  /-- Summarize a chunk. -/
  | compress (messages : List Message) (chapter : Nat)
  | report (event : ProgressEvent)

/-- What a question is answered with. What can fail says why. -/
@[reducible] def HostCall.Answer : HostCall → Type
  | .begin => Bool
  | .finish => Unit
  | .now => Int64
  | .freshId => String
  | .currentChat => Option Chat
  | .loadStorage _ => Except String (Option Storage)
  | .saveStorage .. => Except String Unit
  | .loadTags _ => Except String TagStore
  | .saveTags .. => Except String Unit
  | .setBlock _ => Unit
  -- Nothing where the host has no profiles or does not know which one is in use.
  | .currentProfile => Option String
  | .switchProfile _ => Switch
  -- Nothing where the chunk could not be summarized.
  | .compress .. => Option String
  | .report _ => Unit

/-- A dialogue with a host. -/
abbrev Hosted (α : Type) := Dialogue HostCall HostCall.Answer α

/-- Asks one question. -/
def HostCall.ask (c : HostCall) : Hosted c.Answer := .call c

end Recap
