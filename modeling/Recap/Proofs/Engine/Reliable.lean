import Recap.Engine.Memory
import Recap.Proofs.Engine.World

/-!
# Hosts that do not fail

What a pass does exactly can only be said of a host on which loads and saves go well. `Reliable` is
what is asked of such a host, by way of what is kept at it: nothing else of its state matters, and its
other answers can be any.

`Obliging` is one such host. It does as it is told, and it keeps the promises that are made of hosts of
any kind as well, so that runs on it are runs in the sense of all other modules.

## Contents
- `Shown`, `Reliable` — hosts on which loads and saves go well.
- `Obliging`, `Obliging.answer` — a host that does as it is told.
- `Obliging.reliable`, `Obliging.step`, `Obliging.ends` — it is a host of either kind.
- `Chat.brief`, `MemoryHost.brief` — a short chat, and a host in memory on which it is open.
-/

namespace Recap

open Dialogue (answering)

/-! ## Hosts that do not fail -/

/-- What is kept at a host, and what its compressor goes by. -/
structure Shown (τ : Type) where
  storages : String → Option Storage
  tags : String → TagStore
  /-- The saves so far, oldest first. -/
  saves : List HostCall
  mind : τ

namespace Shown

variable {τ : Type}

/-- What is kept once a record is saved. -/
def saveStorage (w : Shown τ) (chatId : String) (s : Storage) : Shown τ :=
  { w with
    storages := Function.update w.storages chatId (some s)
    saves := w.saves ++ [.saveStorage chatId s] }

/-- What is kept once tags are saved. -/
def saveTags (w : Shown τ) (chatId : String) (t : TagStore) : Shown τ :=
  { w with
    tags := Function.update w.tags chatId t
    saves := w.saves ++ [.saveTags chatId t] }

end Shown

variable {σ τ : Type}

/-- A host with an open chat and a compressor. It can be asked anything in any state; loads and saves
    go well, and nothing else changes what is kept. -/
structure Reliable (answer : (q : HostCall) → σ → q.Answer × σ) (view : σ → Shown τ) (chat : Chat)
    (compress : List Message → Nat → τ → Option String × τ) : Prop where
  currentChat : ∀ {s a t}, answer .currentChat s = (a, t) → a = some chat
  loadStorage : ∀ {s id a t}, answer (.loadStorage id) s = (a, t) → a = .ok ((view s).storages id)
  loadTags : ∀ {s id a t}, answer (.loadTags id) s = (a, t) → a = .ok ((view s).tags id)
  saveStorage : ∀ {s id r a t}, answer (.saveStorage id r) s = (a, t) →
    a = .ok () ∧ view t = (view s).saveStorage id r
  saveTags : ∀ {s id r a t}, answer (.saveTags id r) s = (a, t) →
    a = .ok () ∧ view t = (view s).saveTags id r
  compress : ∀ {s messages chapter a t}, answer (.compress messages chapter) s = (a, t) →
    a = (compress messages chapter (view s).mind).1 ∧
    view t = { view s with mind := (compress messages chapter (view s).mind).2 }
  quiet : ∀ {s q a t}, q.isQuiet = true → answer q s = (a, t) → view t = view s

/-! ## A host that does as it is told -/

/-- The state of a host that keeps what is shown of it, and the ids that it gave out. -/
structure Obliging (τ : Type) extends Shown τ where
  issued : List String

namespace Obliging

/-- Nothing is kept yet. -/
def blank (mind : τ) : Obliging τ :=
  { storages := fun _ => none, tags := fun _ => .empty, saves := [], mind, issued := [] }

/-- An id that is longer than the ones before. -/
def nextId (w : Obliging τ) : String := String.ofList (List.replicate w.issued.length 'x')

/-- The answers: the lock is free, the time stands still, and there are no profiles. -/
def answer (chat : Chat) (compress : List Message → Nat → τ → Option String × τ) :
    (q : HostCall) → Obliging τ → q.Answer × Obliging τ
  | .begin, w => (true, w)
  | .finish, w => ((), w)
  | .now, w => (0, w)
  | .freshId, w => (w.nextId, { w with issued := w.nextId :: w.issued })
  | .currentChat, w => (some chat, w)
  | .loadStorage id, w => (.ok (w.storages id), w)
  | .saveStorage id s, w => (.ok (), { w with toShown := w.toShown.saveStorage id s })
  | .loadTags id, w => (.ok (w.tags id), w)
  | .saveTags id t, w => (.ok (), { w with toShown := w.toShown.saveTags id t })
  | .setBlock _, w => ((), w)
  | .currentProfile, w => (none, w)
  | .switchProfile _, w => (.declined, w)
  | .compress messages chapter, w =>
    ((compress messages chapter w.mind).1,
      { w with mind := (compress messages chapter w.mind).2 })
  | .report _, w => ((), w)

/-- **For every chat and every compressor there is a host that does not fail.** -/
theorem reliable (chat : Chat) (compress : List Message → Nat → τ → Option String × τ) :
    Reliable (answer chat compress) toShown chat compress where
  currentChat h := by cases h; rfl
  loadStorage h := by cases h; rfl
  loadTags h := by cases h; rfl
  saveStorage h := by cases h; exact ⟨rfl, rfl⟩
  saveTags h := by cases h; exact ⟨rfl, rfl⟩
  compress h := by cases h; exact ⟨rfl, rfl⟩
  quiet {s q a t} hq h := by
    cases q with
    | saveStorage | saveTags | compress => cases hq
    | _ => cases h; rfl

/-- What other modules see of the host. -/
def world (chat : Chat) (w : Obliging τ) : World :=
  { chat, storages := w.storages, tags := w.tags, issued := w.issued }

/-- The ids given out are shorter than the next one. -/
def Fresh (w : Obliging τ) : Prop := ∀ id ∈ w.issued, id.length < w.issued.length

theorem fresh_blank (mind : τ) : (blank mind).Fresh := fun _ hid => nomatch hid

theorem length_nextId (w : Obliging τ) : w.nextId.length = w.issued.length := by
  simp [nextId]

/-- The next id is a new one. -/
theorem Fresh.nextId_notMem {w : Obliging τ} (hw : w.Fresh) : w.nextId ∉ w.issued := by
  intro hin
  have hlt := hw _ hin
  rw [length_nextId] at hlt
  exact Nat.lt_irrefl _ hlt

theorem Fresh.draw {w : Obliging τ} (hw : w.Fresh) :
    Fresh { w with issued := w.nextId :: w.issued } := by
  intro id hid
  rcases List.mem_cons.mp hid with rfl | hid
  · rw [length_nextId]
    exact Nat.lt_succ_self _
  · exact Nat.lt_succ_of_lt (hw id hid)

/-- **It answers as a host of any kind may**, and no chat goes on meanwhile. -/
theorem step (chat : Chat) (compress : List Message → Nat → τ → Option String × τ) (h : Habits)
    (q : HostCall) {w : Obliging τ} (hw : w.Fresh) :
    World.Step h (w.world chat) q (answer chat compress q w).1
        ((answer chat compress q w).2.world chat) ∧
      (answer chat compress q w).2.Fresh := by
  have done : ∀ {a : q.Answer} {v : Obliging τ}, v.Fresh →
      (w.world chat).Answers h.mayFail q a (v.world chat) →
      World.Step h (w.world chat) q a (v.world chat) ∧ v.Fresh :=
    fun hv ha => ⟨⟨_, ha, .refl, rfl⟩, hv⟩
  cases q with
  | freshId => exact done hw.draw ⟨hw.nextId_notMem, rfl⟩
  | currentChat | loadStorage | loadTags => exact done hw ⟨.inr rfl, rfl⟩
  | saveStorage | saveTags => exact done hw (.inr ⟨rfl, rfl⟩)
  | _ => exact done hw rfl

/-- Its runs are runs on a host of any kind. -/
theorem ends {α : Type} (chat : Chat) (compress : List Message → Nat → τ → Option String × τ)
    (h : Habits) (d : Hosted α) {w : Obliging τ} (hw : w.Fresh) :
    d.Ends (World.Step h) (w.world chat) (d.run (answer chat compress) w).1
        ((d.run (answer chat compress) w).2.world chat) ∧
      (d.run (answer chat compress) w).2.Fresh :=
  Dialogue.ends_run (world chat) Fresh (fun _ q hw => step chat compress h q hw) d hw

end Obliging

/-! ## A short chat -/

/-- Two messages, and one of the system's between them. -/
def Chat.brief : Chat :=
  { Chat.blank with
    id := "brief"
    messages :=
      [{ Message.blank with id := "a" }, { Message.blank with id := "s", isSystem := true },
        { Message.blank with id := "b" }] }

/-- Passes over everything, one message at a time. -/
def Config.thorough : Config := { Config.standard with chunkSize := 1, targetCompression := 100 }

/-- A compressor that replies as it was told beforehand. -/
def scripted (_ : List Message) (_ : Nat) (script : List (Option String)) :
    Option String × List (Option String) :=
  (script.headD none, script.tail)

/-- A host in memory on which the short chat is open. Nothing is kept there yet, and nothing fails. -/
def MemoryHost.brief : MemoryHost :=
  { chat := some .brief, loaded := true, storages := .empty, tags := .empty, failures := .none, saves := 0
    slot := none, profiles := none, clock := 0, clockStep := 0, running := false, ids := .none
    compressor := .scripted [some "They met.", some "They spoke."], calls := 0, reenter := [], progress := []
    requests := [], reentries := [] }

end Recap
