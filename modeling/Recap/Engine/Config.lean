import Recap.Record.Fault
import Recap.Storage.Basic
import Recap.Trigger

/-!
# Settings and outcomes of the engine

## Contents
- `Config`, `Config.standard` — what a pass goes by.
- `SkipReason`, `Report`, `Outcome` — what becomes of a pass.
- `Kept`, `EngineError` — what can go wrong, and the wording.
- `Config.isDue` — whether a pass should start by itself.
-/

namespace Recap

/-! ## Settings -/

/-- What a pass goes by. -/
structure Config where
  /-- Whether anything happens by itself. -/
  enabled : Bool
  /-- Whether passes start by themselves. -/
  autoCompact : Bool
  thresholds : Thresholds
  chunkSize : UInt64
  /-- The share of the messages that a pass is to cover, in percent. -/
  targetCompression : UInt32
  /-- The connection profile to summarize with. -/
  profile : Option String
  /-- The injection settings of a new record. -/
  defaultInjection : InjectionSettings

/-- The settings where none are given. -/
def Config.standard : Config :=
  { enabled := true, autoCompact := true, thresholds := { messages := 120, context := 75.0 }
    chunkSize := 10, targetCompression := 55, profile := none, defaultInjection := .standard }

/-- Whether a pass over a chat should start by itself. -/
def Config.isDue (c : Config) (chat : Chat) (tags : TagStore) : Bool :=
  c.enabled && c.autoCompact &&
    c.thresholds.reached (tags.unsummarizedCount chat.messages) chat.maxContextTokens
      chat.contextTokens

/-! ## Outcomes -/

/-- Why a pass did nothing. -/
inductive SkipReason where
  | noChat
  | noStorage
  | nothingToCompact
  | alreadyRunning
  | notTriggered
  deriving DecidableEq, Repr

/-- What a pass did. -/
structure Report where
  chunks : Nat
  messagesCompacted : Nat
  summaryIds : List String
  /-- Whether the pass ended early because a chunk could not be summarized. -/
  halted : Bool
  deriving DecidableEq, Repr

/-- Nothing done yet. -/
def Report.empty : Report :=
  { chunks := 0, messagesCompacted := 0, summaryIds := [], halted := false }

/-- What became of a pass. -/
inductive Outcome where
  | skipped (reason : SkipReason)
  | completed (report : Report)
  deriving DecidableEq, Repr

/-! ## Errors -/

/-- What is kept for a chat. -/
inductive Kept where
  | storage
  | tags
  deriving DecidableEq, Repr

/-- What is kept, in words. -/
def Kept.describe : Kept → String
  | .storage => "chat storage"
  | .tags => "message tags"

/-- What the engine cannot deal with itself. -/
inductive EngineError where
  /-- Something could not be saved. -/
  | persistence (kept : Kept) (chatId cause : String)
  | noChat
  /-- A document to import cannot be read. -/
  | unreadable (fault : Record.Fault)
  /-- The host failed otherwise. -/
  | host (cause : String)
  deriving DecidableEq, Repr

/-- The wording of an error, `words` being those of the reader of documents. -/
def EngineError.message (e : EngineError) (words : Record.Wording := .silent) : String :=
  match e with
  | .persistence kept chatId cause =>
    "Failed to persist " ++ kept.describe ++ " for chat " ++ chatId ++ ": " ++ cause
  | .noChat => "No chat is currently loaded"
  | .unreadable fault => "Invalid chat data" ++ words.details fault
  | .host cause => cause

end Recap
