import Recap.Engine.Config
import Recap.Engine.Host
import Recap.Injection
import Recap.Plan

/-!
# Passes

A pass folds the oldest messages that no summary stands for into summaries, chunk by chunk, until its
plan is done or a chunk cannot be summarized; then it saves the record and the tags, and puts the
summaries into the prompt. Only one pass runs at a time.

## Contents
- `workingSet` — what a pass works on.
- `PassState`, `PassState.fold`, `foldChunks` — folding chunks.
- `borrowProfile`, `returnProfile` — the connection profile for the time of a pass.
- `passBody`, `perform`, `maybePerform` — the pass, behind its lock, and behind its trigger.
-/

namespace Recap

open HostCall (ask)
open Text (estimateTokens allBlank)

/-! ## Loading -/

/-- The record of a chat, or a fresh one; says whether it is fresh. -/
def loadOrInit (c : Config) (chatId : String) : Hosted (Except String (Storage × Bool)) := do
  match ← ask (.loadStorage chatId) with
  | .error cause => return .error cause
  | .ok (some storage) => return .ok (storage, false)
  | .ok none => return .ok (.fresh c.defaultInjection, true)

/-- Record and tags of a chat. -/
def loadState (c : Config) (chatId : String) : Hosted (Except String (Storage × TagStore)) := do
  match ← loadOrInit c chatId with
  | .error cause => return .error cause
  | .ok (storage, _) =>
    match ← ask (.loadTags chatId) with
    | .error cause => return .error cause
    | .ok tags => return .ok (storage, tags)

/-- The messages that a pass works on, each with its position in the chat: neither system messages
    nor messages that a summary stands for. -/
def workingSet (messages : List Message) (tags : TagStore) : List (Nat × Message) :=
  (messages.zipIdx.filter fun (m, _) => !m.isSystem && !tags.isSummarized m).map fun (m, i) => (i, m)

/-! ## Folding chunks -/

/-- How far a pass has come. -/
structure PassState where
  storage : Storage
  tags : TagStore
  /-- The messages that are still to be covered. -/
  left : List (Nat × Message)
  report : Report

/-- The summary of a chunk that is not empty. -/
def chunkSummary (id text : String) (now : Int64) (chunk : List (Nat × Message)) : Summary :=
  { id, text
    startIndex := .ofNat ((chunk.head?.map (·.1)).getD 0)
    endIndex := .ofNat ((chunk.getLast?.map (·.1)).getD 0)
    timestamp := now
    tokenCount := .ofNat (estimateTokens text) }

/-- Folds the next `size` messages into a summary. -/
def PassState.fold (s : PassState) (size : Nat) (id text : String) (now : Int64) : PassState :=
  let chunk := s.left.take size
  { storage := { s.storage with level1 := s.storage.level1.append (chunkSummary id text now chunk) }
    tags := chunk.foldl (fun tags (_, m) => tags.markSummarized m .chunk id now) s.tags
    left := s.left.drop size
    report :=
      { s.report with
        chunks := s.report.chunks + 1
        messagesCompacted := s.report.messagesCompacted + size
        summaryIds := s.report.summaryIds ++ [id] } }

/-- The pass, ended early. -/
def PassState.halt (s : PassState) : PassState := { s with report := { s.report with halted := true } }

/-- Folds chunk after chunk, and ends early at the first that comes back without text. -/
def foldChunks (total : Nat) : List Nat → PassState → Hosted PassState
  | [], s => return s
  | size :: sizes, s => do
    let messages := (s.left.take size).map (·.2)
    match ← ask (.compress messages (s.storage.level1.length + 1)) with
    | none => return s.halt
    | some text =>
      if allBlank text then return s.halt
      let id ← ask .freshId
      let now ← ask .now
      let s' := s.fold size id text now
      ask (.report (.update s'.report.chunks total))
      foldChunks total sizes s'

/-! ## Profiles -/

/-- Changes to the configured profile, if there is one and another is in use; gives the profile to
    return to. -/
def borrowProfile (c : Config) : Hosted (Option String) := do
  match c.profile.filter (!·.isEmpty) with
  | none => return none
  | some target =>
    match ← ask .currentProfile with
    | none => return none
    | some previous =>
      if previous = target then return none
      match ← ask (.switchProfile target) with
      | .switched => return some previous
      | .declined | .failed => return none

/-- Returns to a profile. -/
def returnProfile : Option String → Hosted Unit
  | none => return ()
  | some previous => do
    let _ ← ask (.switchProfile previous)
    return ()

/-! ## Saving -/

/-- Saves a record. -/
def saveStorage (chatId : String) (storage : Storage) : Hosted (Except EngineError Unit) := do
  match ← ask (.saveStorage chatId storage) with
  | .ok () => return .ok ()
  | .error cause => return .error (.persistence .storage chatId cause)

/-- Saves tags. -/
def saveTags (chatId : String) (tags : TagStore) : Hosted (Except EngineError Unit) := do
  match ← ask (.saveTags chatId tags) with
  | .ok () => return .ok ()
  | .error cause => return .error (.persistence .tags chatId cause)

/-- Saves a record, and then tags if that went well. -/
def saveState (chatId : String) (storage : Storage) (tags : TagStore) :
    Hosted (Except EngineError Unit) := do
  match ← saveStorage chatId storage with
  | .error e => return .error e
  | .ok () => saveTags chatId tags

/-- Puts the summaries of a chat into its prompt, and gives their text. -/
def inject (chat : Chat) (storage : Storage) : Hosted String := do
  let block := injectedBlock chat storage
  ask (.setBlock block)
  return block.text

/-! ## The pass -/

/-- How a finished pass is reported. -/
def completionMessage (r : Report) (total : Nat) : String :=
  if r.halted then
    "Compaction stopped after " ++ Nat.repr r.chunks ++ " of " ++ Nat.repr total ++ " chunks"
  else "Compacted " ++ Nat.repr r.messagesCompacted ++ " messages"

/-- Works on the messages `working`, of which there is at least one. -/
def compact (c : Config) (chat : Chat) (storage : Storage) (tags : TagStore)
    (working : List (Nat × Message)) : Hosted (Except EngineError Outcome) := do
  let plan := planChunks working.length c.chunkSize.toNat c.targetCompression.toNat
  let previous ← borrowProfile c
  ask (.report (.start plan.totalBatches))
  let s ← foldChunks plan.totalBatches plan.chunks
    { storage, tags, left := working, report := .empty }
  returnProfile previous
  let now ← ask .now
  let timed := { s.storage with stats := { s.storage.stats with lastCompactTime := some now } }
  let final := timed.refresh chat s.tags
  match ← saveState chat.id final s.tags with
  | .error e =>
    ask (.report (.complete false "Compaction failed to save"))
    return .error e
  | .ok () =>
    let _ ← inject chat final
    ask (.report (.complete (!s.report.halted) (completionMessage s.report plan.totalBatches)))
    return .ok (.completed s.report)

/-- A pass, once it has the lock. -/
def passBody (c : Config) : Hosted (Except EngineError Outcome) := do
  match ← ask .currentChat with
  | none => return .ok (.skipped .noChat)
  | some chat =>
    match ← loadState c chat.id with
    | .error _ => return .ok (.skipped .noStorage)
    | .ok (storage, tags) =>
      let working := workingSet chat.messages tags
      if working.isEmpty then return .ok (.skipped .nothingToCompact)
      compact c chat storage tags working

/-- A pass over the current chat. It is skipped while another one runs. -/
def perform (c : Config) : Hosted (Except EngineError Outcome) := do
  if ← ask .begin then
    let result ← passBody c
    ask .finish
    return result
  else return .ok (.skipped .alreadyRunning)

/-- A pass, if one is due. -/
def maybePerform (c : Config) : Hosted (Except EngineError Outcome) := do
  match ← ask .currentChat with
  | none => return .ok (.skipped .noChat)
  | some chat =>
    match ← ask (.loadTags chat.id) with
    | .error _ => return .ok (.skipped .noStorage)
    | .ok tags =>
      if c.isDue chat tags then perform c else return .ok (.skipped .notTriggered)

end Recap
