import Mathlib.Data.List.Nodup
import Mathlib.Logic.Function.Basic
import Mathlib.Logic.Relation
import Recap.Engine.Host
import Recap.Proofs.Dialogue.Throughout

/-!
# Hosts of any kind

What the engine keeps is in the hands of its host, and the host may be in any mood: a load or a save
can fail, a chunk can come back without a summary, the clock can stand still or go back, and while an
answer is awaited people go on writing in the chat. `World` is the part of a host that records of a
chat depend on, and `World.Step` is everything that a host can do at one question. A statement about
all steps is a statement about all hosts.

Two things are promised of every host. A load that goes well gives what was saved last, and a failed
save changes nothing (`World.Answers`); an id for a summary was never given out before. What else a
host can do is left to `Habits`: how the chat changes meanwhile, and which calls may fail.

## Contents
- `Chat.Sound`, `Chat.Grows`, `Chat.Moves` — chats, and how they change under the engine's hands.
- `World`, `Habits`, `World.Step` — hosts, and what they can do at one question.
- `World.Calm` — between two states nothing was saved.
- `World.Step.calm`, and a lemma for each call that is answered from the records.
-/

namespace Recap

open Relation (ReflTransGen)

/-! ## Chats that change -/

namespace Chat

/-- The messages of the chat can be told apart by their ids, and their positions are numbers of 64
    bits. -/
structure Sound (c : Chat) : Prop where
  distinct : (c.messages.map (·.id)).Nodup
  fits : c.messages.length ≤ UInt64.size

/-- The chat goes on. -/
inductive Grows : Chat → Chat → Prop where
  /-- Someone writes a message, under an id of its own. -/
  | append (c : Chat) (m : Message) (fresh : m.id ∉ c.messages.map (·.id))
      (room : c.messages.length < UInt64.size) : Grows c { c with messages := c.messages ++ [m] }
  /-- The host counts its tokens anew. -/
  | measure (c : Chat) (window context system character : UInt64) :
      Grows c { c with
        maxContextTokens := window, contextTokens := context
        systemPromptTokens := system, characterPromptTokens := character }

/-- The chat goes on, or one of its messages shows another swipe. -/
inductive Moves : Chat → Chat → Prop where
  | grow {c c' : Chat} (h : Grows c c') : Moves c c'
  | swipe (c : Chat) (i : Nat) (h : i < c.messages.length) (text : String) (swipeId : Option UInt64)
      (swipeCount : UInt64) :
      Moves c { c with messages := c.messages.set i { c.messages[i] with text, swipeId, swipeCount } }

/-- `c'` is `c` at a later time: no message is gone, and each is still where it was. -/
structure Extends (c c' : Chat) : Prop where
  id : c'.id = c.id
  ids : c.messages.map (·.id) <+: c'.messages.map (·.id)
  sound : c.Sound → c'.Sound

theorem Extends.refl (c : Chat) : Extends c c := ⟨rfl, List.prefix_refl _, fun h => h⟩

theorem Extends.trans {a b c : Chat} (h : Extends a b) (h' : Extends b c) : Extends a c :=
  ⟨h'.id.trans h.id, h.ids.trans h'.ids, fun hs => h'.sound (h.sound hs)⟩

/-- Positions stay numbers of 64 bits. -/
theorem Grows.fits {c c' : Chat} (h : Grows c c') (hc : c.messages.length ≤ UInt64.size) :
    c'.messages.length ≤ UInt64.size := by
  cases h with
  | append m fresh room =>
    rw [List.length_append]
    exact room
  | measure => exact hc

theorem Moves.fits {c c' : Chat} (h : Moves c c') (hc : c.messages.length ≤ UInt64.size) :
    c'.messages.length ≤ UInt64.size := by
  cases h with
  | grow h => exact h.fits hc
  | swipe i hi text swipeId swipeCount =>
    rw [List.length_set]
    exact hc

theorem Grows.extends {c c' : Chat} (h : Grows c c') : Extends c c' := by
  have hfits := h.fits
  cases h with
  | append m fresh room =>
    refine ⟨rfl, by simp, fun hs => ⟨?_, hfits hs.fits⟩⟩
    -- the new id is none of the old ones
    rw [List.map_append, List.nodup_append]
    refine ⟨hs.distinct, List.nodup_singleton _, ?_⟩
    rintro _ ha _ hb rfl
    rw [List.map_singleton, List.mem_singleton] at hb
    exact fresh (hb ▸ ha)
  | measure => exact ⟨rfl, List.prefix_refl _, fun hs => ⟨hs.distinct, hs.fits⟩⟩

theorem Moves.extends {c c' : Chat} (h : Moves c c') : Extends c c' := by
  have hfits := h.fits
  cases h with
  | grow h => exact h.extends
  | swipe i hi text swipeId swipeCount =>
    -- a message under another swipe has the id that it had
    have hids : (c.messages.set i { c.messages[i] with text, swipeId, swipeCount }).map (·.id)
        = c.messages.map (·.id) := by
      have hi' : i < (c.messages.map (·.id)).length := by simpa using hi
      calc (c.messages.set i { c.messages[i] with text, swipeId, swipeCount }).map (·.id)
          = (c.messages.map (·.id)).set i (c.messages.map (·.id))[i] := by simp [List.map_set]
        _ = c.messages.map (·.id) := List.set_getElem_self hi'
    refine ⟨rfl, ⟨[], ?_⟩, fun hs => ⟨?_, hfits hs.fits⟩⟩
    · rw [List.append_nil]
      exact hids.symm
    · rw [hids]
      exact hs.distinct

end Chat

/-- A chat that moves on in steps that only extend it is only extended. -/
theorem Chat.extends_of_moves {move : Chat → Chat → Prop} (hm : ∀ a b, move a b → a.Extends b)
    {a b : Chat} (h : ReflTransGen move a b) : a.Extends b := by
  induction h with
  | refl => exact Extends.refl a
  | tail _ hstep ih => exact ih.trans (hm _ _ hstep)

/-! ## Hosts -/

/-- A host, as far as records go. -/
structure World where
  /-- The chat that is open, as it stands now. -/
  chat : Chat
  storages : String → Option Storage
  tags : String → TagStore
  /-- The ids given out for summaries so far. -/
  issued : List String

/-- What a host does besides answering. -/
structure Habits where
  /-- How the chat can change from one moment to the next. -/
  move : Chat → Chat → Prop
  /-- The calls that may fail. -/
  mayFail : HostCall → Prop

/-- Whether a call changes what is kept. -/
def HostCall.isSave : HostCall → Bool
  | .saveStorage .. | .saveTags .. => true
  | _ => false

/-- Whether a call changes nothing that a pass depends on: it does not save, and it does not ask for a
    summary. -/
def HostCall.isQuiet : HostCall → Bool
  | .saveStorage .. | .saveTags .. | .compress .. => false
  | _ => true

/-- A quiet call saves nothing. -/
theorem HostCall.isSave_of_isQuiet {c : HostCall} (hc : c.isQuiet = true) : c.isSave = false := by
  cases c <;> first | rfl | cases hc

/-- Whether a call saves a record. -/
def HostCall.isRecord : HostCall → Bool
  | .saveStorage .. => true
  | _ => false

/-- Whether a call takes the lock or gives it back. -/
def HostCall.isLock : HostCall → Bool
  | .begin | .finish => true
  | _ => false

/-- Whether a call is a quiet one that leaves the lock alone. -/
def HostCall.isMinor (c : HostCall) : Bool := c.isQuiet && !c.isLock

/-- A minor call is quiet. -/
theorem HostCall.isQuiet_of_isMinor {c : HostCall} (hc : c.isMinor = true) : c.isQuiet = true :=
  (Bool.and_eq_true_iff.mp hc).1

/-- A minor call leaves the lock alone. -/
theorem HostCall.isLock_of_isMinor {c : HostCall} (hc : c.isMinor = true) : c.isLock = false := by
  cases c <;> first | rfl | cases hc

/-- A minor call saves no record. -/
theorem HostCall.isRecord_of_isMinor {c : HostCall} (hc : c.isMinor = true) :
    c.isRecord = false := by
  cases c <;> first | rfl | cases hc

namespace World

/-- The host with another record. -/
def putStorage (w : World) (chatId : String) (s : Storage) : World :=
  { w with storages := Function.update w.storages chatId (some s) }

/-- The host with other tags. -/
def putTags (w : World) (chatId : String) (t : TagStore) : World :=
  { w with tags := Function.update w.tags chatId t }

/-- The first-tier summaries kept for a chat. -/
def level1 (w : World) (chatId : String) : List Summary :=
  ((w.storages chatId).map (·.level1.summaries)).getD []

/-- The answers that a host can give, and what it keeps then. What is not listed concerns no record,
    and can be answered in any way. -/
def Answers (mayFail : HostCall → Prop) (w : World) : (c : HostCall) → c.Answer → World → Prop
  | .currentChat, a, v => (a = none ∧ mayFail .currentChat ∨ a = some w.chat) ∧ v = w
  | .loadStorage id, a, v =>
    (mayFail (.loadStorage id) ∧ (∃ cause, a = .error cause) ∨ a = .ok (w.storages id)) ∧ v = w
  | .saveStorage id s, a, v =>
    mayFail (.saveStorage id s) ∧ (∃ cause, a = .error cause) ∧ v = w ∨
      a = .ok () ∧ v = w.putStorage id s
  | .loadTags id, a, v =>
    (mayFail (.loadTags id) ∧ (∃ cause, a = .error cause) ∨ a = .ok (w.tags id)) ∧ v = w
  | .saveTags id t, a, v =>
    mayFail (.saveTags id t) ∧ (∃ cause, a = .error cause) ∧ v = w ∨
      a = .ok () ∧ v = w.putTags id t
  | .freshId, id, v => id ∉ w.issued ∧ v = { w with issued := id :: w.issued }
  | _, _, v => v = w

/-- A host answers a question, and then the chat goes on for a while. -/
def Step (h : Habits) : Dialogue.Conduct HostCall HostCall.Answer World := fun w c a v =>
  ∃ u, w.Answers h.mayFail c a u ∧ ReflTransGen h.move u.chat v.chat ∧ v = { u with chat := v.chat }

@[simp] theorem putStorage_storages (w : World) (id : String) (s : Storage) :
    (w.putStorage id s).storages id = some s := Function.update_self ..

@[simp] theorem putStorage_tags (w : World) (id : String) (s : Storage) :
    (w.putStorage id s).tags = w.tags := rfl

@[simp] theorem putTags_tags (w : World) (id : String) (t : TagStore) :
    (w.putTags id t).tags id = t := Function.update_self ..

@[simp] theorem putTags_storages (w : World) (id : String) (t : TagStore) :
    (w.putTags id t).storages = w.storages := rfl

@[simp] theorem level1_putStorage (w : World) (id : String) (s : Storage) :
    (w.putStorage id s).level1 id = s.level1.summaries := by
  simp [level1]

theorem putStorage_storages_of_ne {id id' : String} (hid : id' ≠ id) (w : World) (s : Storage) :
    (w.putStorage id s).storages id' = w.storages id' := Function.update_of_ne hid ..

theorem level1_putStorage_of_ne {id id' : String} (hid : id' ≠ id) (w : World) (s : Storage) :
    (w.putStorage id s).level1 id' = w.level1 id' := by
  unfold level1
  rw [putStorage_storages_of_ne hid]

/-- A fresh record has as many summaries as none. -/
theorem level1_putStorage_fresh {w : World} {id : String} (missing : w.storages id = none)
    (settings : InjectionSettings) (id' : String) :
    (w.putStorage id (.fresh settings)).level1 id' = w.level1 id' := by
  by_cases hid : id' = id
  · subst hid
    rw [level1_putStorage]
    unfold level1
    rw [missing]
    rfl
  · exact level1_putStorage_of_ne hid w _

@[simp] theorem level1_putTags (w : World) (id id' : String) (t : TagStore) :
    (w.putTags id t).level1 id' = w.level1 id' := rfl

/-! ## Nothing saved -/

/-- Between the two states nothing was saved; the chat may have gone on, and ids may have been given
    out. -/
structure Calm (h : Habits) (w v : World) : Prop where
  chat : ReflTransGen h.move w.chat v.chat
  storages : v.storages = w.storages
  tags : v.tags = w.tags
  issued : w.issued ⊆ v.issued

variable {h : Habits} {w u v : World}

theorem Calm.refl (w : World) : Calm h w w := ⟨.refl, rfl, rfl, List.Subset.refl _⟩

theorem Calm.trans (hu : Calm h w u) (hv : Calm h u v) : Calm h w v :=
  ⟨hu.chat.trans hv.chat, hv.storages.trans hu.storages, hv.tags.trans hu.tags,
    List.Subset.trans hu.issued hv.issued⟩

/-- A record put in place before or after makes no difference. -/
theorem Calm.putStorage (hc : Calm h w v) (chatId : String) (s : Storage) :
    Calm h (w.putStorage chatId s) (v.putStorage chatId s) := by
  refine ⟨hc.chat, ?_, hc.tags, hc.issued⟩
  show Function.update v.storages chatId (some s) = _
  rw [hc.storages]
  rfl

/-- Tags put in place before or after make no difference. -/
theorem Calm.putTags (hc : Calm h w v) (chatId : String) (t : TagStore) :
    Calm h (w.putTags chatId t) (v.putTags chatId t) := by
  refine ⟨hc.chat, hc.storages, ?_, hc.issued⟩
  show Function.update v.tags chatId t = _
  rw [hc.tags]
  rfl

theorem Calm.level1 (hc : Calm h w v) (chatId : String) : v.level1 chatId = w.level1 chatId := by
  unfold World.level1
  rw [hc.storages]

/-- While nothing is saved the chat is only extended, if no single move does more. -/
theorem Calm.extends (hc : Calm h w v) (hm : ∀ a b, h.move a b → a.Extends b) :
    w.chat.Extends v.chat :=
  Chat.extends_of_moves hm hc.chat

/-- What the chat does after an answer is calm. -/
theorem Calm.of_chat (hm : ReflTransGen h.move u.chat v.chat) (hv : v = { u with chat := v.chat }) :
    Calm h u v := by
  rw [hv]
  exact ⟨hm, rfl, rfl, List.Subset.refl _⟩

/-! ## One question -/

/-- An answer is about the chat as it is. -/
theorem Answers.chat {mayFail : HostCall → Prop} {c : HostCall} {a : c.Answer}
    (ha : w.Answers mayFail c a v) : v.chat = w.chat := by
  cases c with
  | saveStorage | saveTags =>
    rcases ha with ⟨-, -, rfl⟩ | ⟨-, rfl⟩
    · rfl
    · rfl
  | freshId | currentChat | loadStorage | loadTags =>
    obtain ⟨-, rfl⟩ := ha
    rfl
  | begin | finish | now | setBlock | currentProfile | switchProfile | compress | report =>
    cases ha
    rfl

/-- **Only a save changes what is kept.** -/
theorem Step.calm {c : HostCall} {a : c.Answer} (hs : Step h w c a v) (hc : c.isSave = false) :
    Calm h w v := by
  obtain ⟨u, ha, hm, hv⟩ := hs
  -- what the chat does afterwards is calm, so only the answer is left
  refine Calm.trans ?_ (Calm.of_chat hm hv)
  cases c with
  | saveStorage | saveTags => cases hc
  | freshId =>
    obtain ⟨-, rfl⟩ := ha
    exact ⟨.refl, rfl, rfl, List.subset_cons_self _ _⟩
  | currentChat | loadStorage | loadTags =>
    obtain ⟨-, rfl⟩ := ha
    exact .refl _
  | begin | finish | now | setBlock | currentProfile | switchProfile | compress | report =>
    cases ha
    exact .refl _

/-- The chat that is seen is the open one. -/
theorem Step.currentChat {a : Option Chat} (hs : Step h w .currentChat a v) :
    a = none ∨ a = some w.chat := by
  obtain ⟨u, ⟨ha, -⟩, -⟩ := hs
  exact ha.imp_left (·.1)

theorem Step.loadStorage {id : String} {a : Except String (Option Storage)}
    (hs : Step h w (.loadStorage id) a v) :
    (∃ cause, a = .error cause) ∨ a = .ok (w.storages id) := by
  obtain ⟨u, ⟨ha, -⟩, -⟩ := hs
  exact ha.imp_left (·.2)

theorem Step.loadTags {id : String} {a : Except String TagStore}
    (hs : Step h w (.loadTags id) a v) : (∃ cause, a = .error cause) ∨ a = .ok (w.tags id) := by
  obtain ⟨u, ⟨ha, -⟩, -⟩ := hs
  exact ha.imp_left (·.2)

/-- A save fails and changes nothing, or goes well. -/
theorem Step.saveStorage {id : String} {s : Storage} {a : Except String Unit}
    (hs : Step h w (.saveStorage id s) a v) :
    (∃ cause, a = .error cause) ∧ Calm h w v ∨ a = .ok () ∧ Calm h (w.putStorage id s) v := by
  obtain ⟨u, ha, hm, hv⟩ := hs
  rcases ha with ⟨-, ha, rfl⟩ | ⟨ha, rfl⟩
  · exact .inl ⟨ha, .of_chat hm hv⟩
  · exact .inr ⟨ha, .of_chat hm hv⟩

/-- Tags are saved, or that may fail and changes nothing. -/
theorem Step.saveTags {id : String} {t : TagStore} {a : Except String Unit}
    (hs : Step h w (.saveTags id t) a v) :
    h.mayFail (.saveTags id t) ∧ (∃ cause, a = .error cause) ∧ Calm h w v ∨
      a = .ok () ∧ Calm h (w.putTags id t) v := by
  obtain ⟨u, ha, hm, hv⟩ := hs
  rcases ha with ⟨hf, ha, rfl⟩ | ⟨ha, rfl⟩
  · exact .inl ⟨hf, ha, .of_chat hm hv⟩
  · exact .inr ⟨ha, .of_chat hm hv⟩

/-- **Only the save of a record changes records.** -/
theorem Step.storages {c : HostCall} {a : c.Answer} (hs : Step h w c a v)
    (hc : ¬ c.isRecord = true) : v.storages = w.storages := by
  cases c with
  | saveStorage => exact absurd rfl hc
  | saveTags id t =>
    rcases hs.saveTags with ⟨-, -, hv⟩ | ⟨-, hv⟩
    · exact hv.storages
    · exact hv.storages
  | _ => exact (hs.calm rfl).storages

/-- An id for a summary is a new one. -/
theorem Step.freshId {id : String} (hs : Step h w .freshId id v) :
    id ∉ w.issued ∧ id ∈ v.issued := by
  obtain ⟨u, ⟨hid, rfl⟩, -, hv⟩ := hs
  rw [hv]
  exact ⟨hid, List.mem_cons_self⟩

end World

/-- **A dialogue of minor calls leaves everything kept as it was**, whatever the host does. -/
theorem Dialogue.Asks.calm {α : Type} {d : Hosted α} (hd : d.Asks (·.isMinor = true)) {h : Habits}
    {w v : World} (hc : World.Calm h w v) :
    d.Throughout (World.Step h) (World.Calm h w) (fun _ t => World.Calm h w t) v :=
  hd.throughout (fun _ _ _ _ hI hq hs =>
    hI.trans (hs.calm (HostCall.isSave_of_isQuiet (HostCall.isQuiet_of_isMinor hq)))) hc

end Recap
