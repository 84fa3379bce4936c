import Mathlib.Logic.Function.Basic
import Mathlib.Logic.Relation
import Recap.Proofs.Tag.Store

/-!
# One tag for every swipe

A store keeps two maps, the tags of the messages as they are shown and the tags of their swipes, and
each change goes to both of them or to one. What callers rely on is simpler: every swipe of every
message has a tag of its own, a mark changes the tag of the swipe on display, and a change of swipe
changes no tag at all. `Tagging` runs the two side by side. `Tagging.InStep` says how they belong
together: what the store keeps is the tag that ought to be there, or it is missing where that is the
active one. Every step preserves it (`Tagging.Step.inStep`), so it holds in every run
(`store_keeps_one_tag_per_swipe`).

Messages are known by their ids. All of them show a swipe; of messages without swipes nothing of this
is true (`Recap.Proofs.Tag.Untracked`).

## Contents
- `Tag.HeldIn` — a tag that is kept, or left out because it is the active one.
- `Tagging`, `Tagging.Step` — a store, and the tags that ought to be in it.
- `Tagging.InStep`, `Tagging.Step.inStep` — they belong together, step by step.
- `store_keeps_one_tag_per_swipe` — and so in every run.
- `swipe_comes_back_with_its_tag` — a message that goes to another swipe and back.
-/

namespace Recap

open Relation (ReflTransGen)

/-! ## Kept or left out -/

/-- What is kept is the tag, or nothing where the tag is the active one. -/
def Tag.HeldIn (t : Tag) (kept : Option Tag) : Prop := kept = some t ∨ kept = none ∧ t = .active

namespace Tag.HeldIn

variable {t : Tag} {kept : Option Tag}

/-- A tag is held where it is what is read, the active tag standing for a missing one. -/
theorem iff_getD : t.HeldIn kept ↔ kept.getD .active = t := by
  unfold HeldIn
  cases kept with
  | none => simp [eq_comm]
  | some u => simp

theorem of_eq (h : kept = some t) : t.HeldIn kept := .inl h

/-- Whether a message is summarized can be seen from the tag that ought to be kept. -/
theorem any_not_isActive (h : t.HeldIn kept) : kept.any (!·.isActive) = !t.isActive := by
  rcases h with rfl | ⟨rfl, rfl⟩
  · rfl
  · rfl

/-- And so can its level. -/
theorem bind_level (h : t.HeldIn kept) : kept.bind (·.level) = t.level := by
  rcases h with rfl | ⟨rfl, rfl⟩
  · rfl
  · rfl

end Tag.HeldIn

/-! ## A store and the tags that ought to be in it -/

/-- A store in use. -/
structure Tagging where
  store : TagStore
  /-- The swipe that each message shows. -/
  shown : String → UInt64
  /-- The tag of each swipe of each message. -/
  tags : String → UInt64 → Tag

namespace Tagging

/-- Nothing is tagged yet. -/
def start (shown : String → UInt64) : Tagging :=
  { store := .empty, shown, tags := fun _ _ => .active }

/-- The message is as it is shown now. -/
def Displays (w : Tagging) (m : Message) : Prop := m.activeSwipe = some (w.shown m.id)

/-- The tags once the swipe that a message shows has got another one. -/
def assign (w : Tagging) (m : Message) (t : Tag) : String → UInt64 → Tag :=
  Function.update w.tags m.id (Function.update (w.tags m.id) (w.shown m.id) t)

/-- A message is folded into a summary. -/
def summarize (w : Tagging) (m : Message) (level : Level) (summaryId : String) (now : Int64) :
    Tagging :=
  { w with
    store := w.store.markSummarized m level summaryId now
    tags := w.assign m (.summarized level summaryId now) }

/-- A message is taken out of its summary. -/
def activate (w : Tagging) (m : Message) : Tagging :=
  { w with store := w.store.markActive m, tags := w.assign m .active }

/-- A message comes to show a swipe. No tag becomes another. -/
def turn (w : Tagging) (m : Message) (swipe : UInt64) : Tagging :=
  { w with store := w.store.restored m, shown := Function.update w.shown m.id swipe }

/-- What can happen next. -/
inductive Step (w : Tagging) : Tagging → Prop where
  | summarize (m : Message) (hm : w.Displays m) (level : Level) (summaryId : String) (now : Int64) :
      Step w (w.summarize m level summaryId now)
  | activate (m : Message) (hm : w.Displays m) : Step w (w.activate m)
  /-- The message as it is shown from now on. -/
  | turn (m : Message) (swipe : UInt64) (hm : m.activeSwipe = some swipe) : Step w (w.turn m swipe)

/-! ## Step by step -/

/-- The store keeps the tags that ought to be in it: those of the swipes, and for each message the one
    of the swipe on display. -/
structure InStep (w : Tagging) : Prop where
  shown : ∀ id, (w.tags id (w.shown id)).HeldIn (w.store.tag? id)
  swipes : ∀ id k, (w.tags id k).HeldIn (w.store.swipeTag? id k)

variable {w v : Tagging}

theorem inStep_start (shown : String → UInt64) : (start shown).InStep where
  shown _ := .inr ⟨rfl, rfl⟩
  swipes _ _ := .inr ⟨rfl, rfl⟩

/-- **A write goes to the swipe on display and to the message**, and to nothing else. -/
theorem InStep.write (hw : w.InStep) {m : Message} (hm : w.Displays m) (t : Tag) :
    InStep { w with store := w.store.write m t, tags := w.assign m t } where
  shown id := by
    show (w.assign m t id (w.shown id)).HeldIn ((w.store.write m t).tag? id)
    rw [TagStore.tag?_write, assign]
    by_cases hid : id = m.id
    · subst hid
      rw [if_pos rfl, Function.update_self, Function.update_self]
      exact .of_eq rfl
    · rw [if_neg hid, Function.update_of_ne hid]
      exact hw.shown id
  swipes id k := by
    show (w.assign m t id k).HeldIn ((w.store.write m t).swipeTag? id k)
    rw [TagStore.swipeTag?_write, hm, assign]
    by_cases hid : id = m.id
    · subst hid
      rw [Function.update_self]
      by_cases hk : w.shown m.id = k
      · subst hk
        rw [if_pos ⟨rfl, rfl⟩, Function.update_self]
        exact .of_eq rfl
      · rw [if_neg fun h => hk (Option.some.inj h.2), Function.update_of_ne (Ne.symm hk)]
        exact hw.swipes m.id k
    · rw [if_neg fun h => hid h.1, Function.update_of_ne hid]
      exact hw.swipes id k

/-- **A change of swipe brings the tag of the swipe to the message**, and changes none. -/
theorem InStep.turn (hw : w.InStep) {m : Message} {k : UInt64} (hm : m.activeSwipe = some k) :
    (w.turn m k).InStep where
  shown id := by
    show (w.tags id (Function.update w.shown m.id k id)).HeldIn ((w.store.restored m).tag? id)
    rw [TagStore.tag?_restored hm]
    by_cases hid : id = m.id
    · subst hid
      rw [if_pos rfl, Function.update_self]
      exact .of_eq (congrArg some (Tag.HeldIn.iff_getD.mp (hw.swipes m.id k)))
    · rw [if_neg hid, Function.update_of_ne hid]
      exact hw.shown id
  swipes id j := by
    rw [Tag.HeldIn.iff_getD]
    exact (TagStore.swipeTag?_restored_getD w.store m id j).trans
      (Tag.HeldIn.iff_getD.mp (hw.swipes id j))

/-- **Every step keeps the store and the tags together.** -/
theorem Step.inStep (h : Step w v) (hw : w.InStep) : v.InStep := by
  cases h with
  | summarize m hm level summaryId now => exact hw.write hm (.summarized level summaryId now)
  | activate m hm => exact hw.write hm .active
  | turn m swipe hm => exact hw.turn hm

/-- Every run does. -/
theorem inStep_of_run (h : ReflTransGen Step w v) (hw : w.InStep) : v.InStep := by
  induction h with
  | refl => exact hw
  | tail _ hstep ih => exact hstep.inStep ih

end Tagging

/-! ## Runs -/

/-- **A store keeps one tag for every swipe of every message.** In every run that starts without tags
    the tag of a message is the one of the swipe on display, and so are its level and whether a summary
    stands for it; and what is kept for a swipe is the tag of the swipe. The active tag may be missing
    each time. A change of swipe is reported exactly if it changes the tag of the message, and when it is
    made again it changes nothing. -/
theorem store_keeps_one_tag_per_swipe {shown : String → UInt64} {w : Tagging}
    (hw : ReflTransGen Tagging.Step (.start shown) w) :
    (∀ m, w.Displays m →
      let t := w.tags m.id (w.shown m.id)
      t.HeldIn (w.store.tag? m.id) ∧ w.store.isSummarized m = !t.isActive ∧
        w.store.level? m = t.level) ∧
    (∀ id k, (w.tags id k).HeldIn (w.store.swipeTag? id k)) ∧
    ∀ m, ((w.store.restoreSwipe? m).isSome = true ↔
        (w.store.restored m).tag? m.id ≠ w.store.tag? m.id) ∧
      (w.store.restored m).restoreSwipe? m = none := by
  have hin : w.InStep := Tagging.inStep_of_run hw (Tagging.inStep_start shown)
  refine ⟨fun m _ => ?_, hin.swipes, fun m => ?_⟩
  · have ht := hin.shown m.id
    exact ⟨ht, ht.any_not_isActive, ht.bind_level⟩
  · exact ⟨TagStore.restoreSwipe?_isSome_iff _ m, TagStore.restoreSwipe?_restored _ m⟩

/-- A message with a single reply. -/
def Message.lone : Message := { Message.blank with id := "7" }

/-- The same message with two swipes, of which it shows one. -/
def Message.pair (swipe : UInt64) : Message := lone.withSwipe swipe 2

/-- A message is summarized while it shows its second swipe, goes to the first one and back. -/
theorem swipe_comes_back_with_its_tag :
    let marked := (Tagging.start fun _ => 1).summarize (.pair 1) .chunk "s" 0
    let away := marked.turn (.pair 0) 0
    let back := away.turn (.pair 1) 1
    away.store.isSummarized (.pair 0) = false ∧ back.store.isSummarized (.pair 1) = true ∧
      back.store.level? (.pair 1) = some .chunk := by
  intro marked away back
  have hshown : (Tagging.start fun _ => 1).Displays (.pair 1) := rfl
  have hmarked : ReflTransGen Tagging.Step (.start fun _ => 1) marked :=
    .single (.summarize (.pair 1) hshown .chunk "s" 0)
  have haway : ReflTransGen Tagging.Step (.start fun _ => 1) away :=
    hmarked.tail (.turn (.pair 0) 0 rfl)
  have hback : ReflTransGen Tagging.Step (.start fun _ => 1) back :=
    haway.tail (.turn (.pair 1) 1 rfl)
  obtain ⟨-, hzero, -⟩ := (store_keeps_one_tag_per_swipe haway).1 (.pair 0) rfl
  obtain ⟨-, hone, hlevel⟩ := (store_keeps_one_tag_per_swipe hback).1 (.pair 1) rfl
  exact ⟨hzero.trans rfl, hone.trans rfl, hlevel.trans rfl⟩

end Recap
