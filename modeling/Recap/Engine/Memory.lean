import Recap.Compressor.Prompt
import Recap.Compressor.StandIn
import Recap.Engine.Operations
import Recap.Ids

/-!
# A host in memory

A host that keeps everything in maps, whose every part can be told to fail, and which keeps a journal
of what the engine did. Its summaries come from the stand-in or from replies given beforehand. On
chosen calls for a summary it starts another pass first, while the pass that called is suspended.

## Contents
- `Failures`, `Profiles`, `Compressor` — the parts.
- `MemoryHost`, `MemoryHost.answer` — the host and its answers.
- `MemoryHost.run` — carries a dialogue on with the host.
-/

namespace Recap

/-! ## Parts -/

/-- What fails. -/
structure Failures where
  loads : Bool
  storageSaves : Bool
  tagSaves : Bool
  slot : Bool
  deriving DecidableEq, Repr

/-- Nothing fails. -/
def Failures.none : Failures :=
  { loads := false, storageSaves := false, tagSaves := false, slot := false }

/-- Connection profiles. -/
structure Profiles where
  current : Option String
  /-- A change to one of these fails. -/
  failing : List String
  /-- A change to one of these is declined. -/
  declining : List String
  /-- The changes made, oldest first. -/
  history : List String
  deriving DecidableEq, Repr

/-- Changes to a profile. -/
def Profiles.switch (p : Profiles) (target : String) : Switch × Profiles :=
  if p.failing.contains target then (.failed, p)
  else if p.declining.contains target then (.declined, p)
  else (.switched, { p with current := some target, history := p.history ++ [target] })

/-- Where summaries come from. -/
inductive Compressor where
  | standIn (form : StandIn)
  /-- Replies to prompts; a missing one is a failure. -/
  | prompted (template : String) (replies : List (Option String))
  /-- Replies to chunks; a missing one is a failure. -/
  | scripted (replies : List (Option String))
  deriving DecidableEq, Repr

/-- The summary of a chunk, and what the compressor will go on with. -/
def Compressor.reply (c : Compressor) (messages : List Message) : Option String × Compressor :=
  match c with
  | .standIn form => (some (form.summarize messages), c)
  | .prompted template (r :: rs) => (r, .prompted template rs)
  | .scripted (r :: rs) => (r, .scripted rs)
  | .prompted _ [] | .scripted [] => (none, c)

/-! ## The host -/

/-- A host in memory. -/
structure MemoryHost where
  /-- The chat opened last. -/
  chat : Option Chat
  /-- Whether that chat can be seen. -/
  loaded : Bool
  storages : SortedMap String Storage
  tags : SortedMap String TagStore
  failures : Failures
  /-- The number of saves that went well. -/
  saves : Nat
  slot : Option PromptBlock
  profiles : Option Profiles
  clock : Int
  /-- How far the clock moves with each summary. -/
  clockStep : Int
  /-- Whether a pass holds the lock. -/
  running : Bool
  ids : Ids
  compressor : Compressor
  /-- The number of calls for a summary. -/
  calls : Nat
  /-- The calls during which another pass is started. -/
  reenter : List Nat
  progress : List ProgressEvent
  /-- The chunks that were to be summarized, with their chapter numbers. -/
  requests : List (List Message × Nat)
  /-- The passes started during a call: whether a pass was running, and what became of them. -/
  reentries : List (Bool × Except EngineError Outcome)

namespace MemoryHost

/-- The record of a chat. -/
def storageOf (w : MemoryHost) (chatId : String) : Option Storage := w.storages.get? chatId

/-- The tags of a chat. -/
def tagsOf (w : MemoryHost) (chatId : String) : TagStore := (w.tags.get? chatId).getD .empty

/-- Puts a record in its place. -/
def putStorage (w : MemoryHost) (chatId : String) (s : Storage) : MemoryHost :=
  { w with storages := w.storages.insert chatId s }

/-- Puts tags in their place. -/
def putTags (w : MemoryHost) (chatId : String) (t : TagStore) : MemoryHost :=
  { w with tags := w.tags.insert chatId t }

/-- The clock moves, but never to before its beginning. -/
def advance (w : MemoryHost) (millis : Int) : MemoryHost :=
  { w with clock := max 0 (w.clock + millis) }

/-- The host with an empty journal. -/
def clearJournal (w : MemoryHost) : MemoryHost :=
  { w with progress := [], requests := [], reentries := [] }

/-- Answers a call for a summary. -/
def compress (w : MemoryHost) (messages : List Message) (chapter : Nat) :
    Option String × MemoryHost :=
  let (reply, compressor) := w.compressor.reply messages
  (reply, { w with compressor, requests := w.requests ++ [(messages, chapter)] }.advance w.clockStep)

/-- Counts a call for a summary, and starts another pass first if this is one of the calls for it. -/
def interrupt (start : MemoryHost → Except EngineError Outcome × MemoryHost) (w : MemoryHost) :
    MemoryHost :=
  let counted := { w with calls := w.calls + 1 }
  if w.reenter.contains counted.calls then
    let (outcome, after) := start counted
    { after with reentries := after.reentries ++ [(w.running, outcome)] }
  else counted

/-- The answer to a question. `start` is a whole pass. -/
def answer (start : MemoryHost → Except EngineError Outcome × MemoryHost) :
    (c : HostCall) → MemoryHost → c.Answer × MemoryHost
  | .begin, w => if w.running then (false, w) else (true, { w with running := true })
  | .finish, w => ((), { w with running := false })
  | .now, w => (.ofInt w.clock, w)
  | .freshId, w => let (id, ids) := w.ids.draw; (id, { w with ids })
  | .currentChat, w => (if w.loaded then w.chat else none, w)
  | .loadStorage chatId, w =>
    (if w.failures.loads then .error "metadata unavailable" else .ok (w.storageOf chatId), w)
  | .saveStorage chatId s, w =>
    if w.failures.storageSaves then
      (.error "storage save rejected", { w with ids := w.ids.release })
    else (.ok (), { w.putStorage chatId s with saves := w.saves + 1, ids := w.ids.keep })
  | .loadTags chatId, w =>
    (if w.failures.loads then .error "metadata unavailable" else .ok (w.tagsOf chatId), w)
  | .saveTags chatId t, w =>
    if w.failures.tagSaves then (.error "chat save rejected", w)
    else (.ok (), { w.putTags chatId t with saves := w.saves + 1 })
  | .setBlock block, w => ((), if w.failures.slot then w else { w with slot := some block })
  | .currentProfile, w => (w.profiles.bind (·.current), w)
  | .switchProfile target, w =>
    match w.profiles with
    | none => (.failed, w)
    | some p => let (switch, p') := p.switch target; (switch, { w with profiles := some p' })
  | .compress messages chapter, w => (interrupt start w).compress messages chapter
  | .report event, w => ((), { w with progress := w.progress ++ [event] })

/-- Where no calls are chosen for it, a call for a summary starts no other pass. -/
theorem interrupt_of_reenter_nil (start : MemoryHost → Except EngineError Outcome × MemoryHost)
    {w : MemoryHost} (hw : w.reenter = []) : interrupt start w = { w with calls := w.calls + 1 } := by
  simp [interrupt, hw]

/-- The calls are chosen beforehand. -/
theorem answer_reenter (start : MemoryHost → Except EngineError Outcome × MemoryHost) {w : MemoryHost}
    (hw : w.reenter = []) (c : HostCall) : (answer start c w).2.reenter = [] := by
  cases c with
  | begin | saveStorage | saveTags | setBlock =>
    simp only [answer]
    split <;> exact hw
  | switchProfile target =>
    simp only [answer]
    split <;> exact hw
  | compress messages chapter =>
    simp only [answer, interrupt_of_reenter_nil start hw]
    exact hw
  | _ => exact hw

/-- Carries a dialogue on with the host; no further pass is started during calls. -/
def runAlone {α : Type} (d : Hosted α) (w : MemoryHost) : α × MemoryHost :=
  d.run (answer fun w => (.ok (.skipped .alreadyRunning), w)) w

/-- Carries a dialogue on with the host. Passes started during calls find the lock taken, so that
    none of them calls for a summary itself. -/
def run {α : Type} (c : Config) (d : Hosted α) (w : MemoryHost) : α × MemoryHost :=
  d.run (answer (runAlone (perform c))) w

end MemoryHost

end Recap
