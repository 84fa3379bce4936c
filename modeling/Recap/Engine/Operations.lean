import Recap.Engine.Pass
import Recap.Storage.Export

/-!
# Operations besides a pass

## Contents
- `Operation` — what can fail.
- `status`, `exportText`, `hidden` — what is known of the current chat.
- `importText`, `ensureStorage`, `refreshInjection` — its record and its prompt.
- `tagRendered`, `restoreSwipe` — tags of single messages.
- `HostEvent`, `handle` — what happens when something happens at the host.
-/

namespace Recap

/-- An operation that can fail. -/
abbrev Operation (α : Type) := ExceptT EngineError (Dialogue HostCall HostCall.Answer) α

namespace Operation

/-- Asks one question. -/
def ask (c : HostCall) : Operation c.Answer := ExceptT.lift (HostCall.ask c)

/-- Goes on with what was found, or fails for the host's reason. -/
def ofHost {α : Type} (d : Hosted (Except String α)) : Operation α := ExceptT.mk do
  match ← d with
  | .ok a => return .ok a
  | .error cause => return .error (.host cause)

/-- The current chat. -/
def currentChat : Operation Chat := do
  match ← ask .currentChat with
  | some chat => return chat
  | none => throw .noChat

/-! ## What is known -/

/-- The state of the current chat, its statistics computed anew. -/
def status (c : Config) : Operation Status := do
  let chat ← currentChat
  let (storage, tags) ← ofHost (loadState c chat.id)
  return .of chat storage tags

/-- The record of the current chat as a document, its statistics computed anew. -/
def exportText (c : Config) : Operation String := do
  let chat ← currentChat
  let (storage, tags) ← ofHost (loadState c chat.id)
  let now ← ask .now
  return exportDocument now chat.id (storage.refresh chat tags)

/-- The positions of the messages to leave out of the prompt. -/
def hidden (c : Config) (kind : GenerationKind) : Operation (List Nat) := do
  let chat ← currentChat
  let (storage, tags) ← ofHost (loadState c chat.id)
  return hiddenMessages chat storage tags kind

/-! ## Records and the prompt -/

/-- Replaces the record of the current chat by that of a document. -/
def importText (text : String) : Operation Storage := do
  let chat ← currentChat
  match importDocument text with
  | .error fault => throw (.unreadable fault)
  | .ok storage =>
    ExceptT.mk (saveStorage chat.id storage)
    let _ ← ExceptT.lift (inject chat storage)
    return storage

/-- The record of the current chat; a missing one is made and saved. -/
def ensureStorage (c : Config) : Operation Storage := do
  let chat ← currentChat
  let (storage, isFresh) ← ofHost (loadOrInit c chat.id)
  if isFresh then ofHost (HostCall.ask (.saveStorage chat.id storage))
  return storage

/-! ## Tags of single messages -/

/-- Tags a message that was just displayed as active; says whether it had no tag before. -/
def tagRendered (c : Config) (id : String) : Operation Bool := do
  if !c.enabled then return false
  let chat ← currentChat
  match chat.find? id with
  | none => return false
  | some message =>
    let tags ← ofHost (HostCall.ask (.loadTags chat.id))
    if (tags.tag? id).isSome then return false
    ExceptT.mk (saveTags chat.id (tags.markActive message))
    return true

/-- Gives a message the tag of the swipe it shows; says whether that changed its tag. -/
def restoreSwipe (id : String) : Operation Bool := do
  let chat ← currentChat
  match chat.find? id with
  | none => return false
  | some message =>
    let tags ← ofHost (HostCall.ask (.loadTags chat.id))
    match tags.restoreSwipe? message with
    | none => return false
    | some restored =>
      ExceptT.mk (saveTags chat.id restored)
      return true

end Operation

/-- Puts the summaries of the current chat into its prompt and gives their text. What fails leaves
    everything as it is. -/
def refreshInjection (c : Config) : Hosted String := do
  match ← HostCall.currentChat.ask with
  | none => return ""
  | some chat =>
    match ← loadOrInit c chat.id with
    | .error _ => return ""
    | .ok (storage, _) => inject chat storage

/-! ## Events -/

/-- Something that happens at the host. -/
inductive HostEvent where
  /-- Another chat was opened. -/
  | chatChanged
  /-- A message was displayed. -/
  | messageRendered (id : String)
  /-- A message shows another swipe. -/
  | swipeChanged (id : String)
  /-- A prompt is about to be built. -/
  | generationStarted
  deriving DecidableEq, Repr

/-- Reacts to an event; gives what became of the pass, if the event led to one. Errors go no
    further. -/
def handle (c : Config) : HostEvent → Hosted (Option Outcome)
  | .chatChanged => do
    let _ ← (Operation.ensureStorage c).run
    let _ ← refreshInjection c
    return none
  | .messageRendered id => do
    let _ ← (Operation.tagRendered c id).run
    match ← maybePerform c with
    | .ok outcome => return some outcome
    | .error _ => return none
  | .swipeChanged id => do
    let _ ← (Operation.restoreSwipe id).run
    return none
  | .generationStarted => do
    let _ ← refreshInjection c
    return none

end Recap
