import Recap.Engine.Pass
import Recap.Proofs.Tag.PerSwipe

/-!
# Messages that get their swipes later

A message has no swipes until its first reply is joined by another one; from then on the first reply
is its swipe 0. A mark that is made before that goes to the message alone, and no swipe keeps it. The
first change of swipe gives the message another tag, and after it nothing in the store tells of the
mark. `shown_swipe_is_summarized_iff` says which swipes bring a mark back: the one on display when the
mark was made, if the message had swipes then, and those that had the very tag already. So the first
reply of a message comes back without its mark (`first_reply_comes_back_active`), and the next pass
summarizes it again.

## Contents
- `TagStore.Aside` — changes of swipe of one message, and whatever happens to the others.
- `TagStore.Aside.swipeTag?_getD` — they change the tag of no swipe.
- `shown_swipe_is_summarized_iff` — the swipes that bring a mark back.
- `first_reply_comes_back_active` — the first reply is not one of them.
-/

namespace Recap

open Relation (ReflTransGen)

/-! ## Changes of swipe -/

namespace TagStore

/-- What can happen next while a message is only taken from swipe to swipe. -/
inductive Aside (id : String) (s : TagStore) : TagStore → Prop where
  | turn (m : Message) : Aside id s (s.restored m)
  | elsewhere (m : Message) (hm : m.id ≠ id) (t : Tag) : Aside id s (s.write m t)

variable {id : String} {s v : TagStore}

/-- **The swipes of the message keep their tags** at each step; -/
theorem Aside.swipeTag?_getD (h : Aside id s v) (k : UInt64) :
    (v.swipeTag? id k).getD .active = (s.swipeTag? id k).getD .active := by
  cases h with
  | turn m => exact swipeTag?_restored_getD s m id k
  | elsewhere m hm t => rw [swipeTag?_write, if_neg fun h => hm h.1.symm]

/-- and in every run. -/
theorem swipeTag?_getD_of_run (h : ReflTransGen (Aside id) s v) (k : UInt64) :
    (v.swipeTag? id k).getD .active = (s.swipeTag? id k).getD .active := by
  induction h with
  | refl => rfl
  | tail _ hstep ih => exact (hstep.swipeTag?_getD k).trans ih

/-- So a swipe that comes to be shown brings the tag that it had at first. -/
theorem tag?_restored_of_run (h : ReflTransGen (Aside id) s v) {m : Message} {k : UInt64}
    (hm : m.id = id) (hk : m.activeSwipe = some k) :
    (v.restored m).tag? id = some ((s.swipeTag? id k).getD .active) := by
  rw [tag?_restored hk, if_pos hm.symm, swipeTag, hm, swipeTag?_getD_of_run h k]

end TagStore

/-! ## Marks that come back -/

/-- **A swipe brings a mark back exactly if it was on display when the mark was made**, or if it had the
    same tag before. A mark on a message without swipes is there until the message first shows one; then
    each swipe brings what was kept for it before the mark. -/
theorem shown_swipe_is_summarized_iff (s : TagStore) (m : Message) (level : Level)
    (summaryId : String) (now : Int64) {v : TagStore}
    (later : ReflTransGen (TagStore.Aside m.id) (s.markSummarized m level summaryId now) v)
    {shown : Message} {k : UInt64} (same : shown.id = m.id) (hk : shown.activeSwipe = some k) :
    let t := Tag.summarized level summaryId now
    (s.markSummarized m level summaryId now).tag? m.id = some t ∧
    ((v.restored shown).tag? m.id = some t ↔
      m.activeSwipe = some k ∨ s.swipeTag? m.id k = some t) ∧
    (m.activeSwipe = none →
      (v.restored shown).tag? m.id = some ((s.swipeTag? m.id k).getD .active)) := by
  intro t
  have hmarked : ∀ j, (s.markSummarized m level summaryId now).swipeTag? m.id j
      = if m.activeSwipe = some j then some t else s.swipeTag? m.id j := by
    intro j
    rw [TagStore.markSummarized, TagStore.swipeTag?_write]
    simp only [true_and, t]
  have hshown := TagStore.tag?_restored_of_run later same hk
  rw [hmarked k] at hshown
  refine ⟨?_, ?_, ?_⟩
  · rw [TagStore.markSummarized, TagStore.tag?_write, if_pos rfl]
  · rw [hshown]
    split
    · rename_i hm
      exact ⟨fun _ => .inl hm, fun _ => rfl⟩
    · rename_i hm
      -- the active tag is not a mark, so a mark that is read is one that is kept
      have hread : some ((s.swipeTag? m.id k).getD .active) = some t
          ↔ s.swipeTag? m.id k = some t := by
        cases s.swipeTag? m.id k with
        | none => simp [t, Tag.active, Tag.summarized]
        | some u => simp
      rw [hread, or_iff_right hm]
  · intro hm
    rw [hshown, if_neg (by simp [hm])]

/-- A message is summarized while it shows its first swipe, and comes back to it. -/
theorem tracked_reply_comes_back_summarized :
    let marked := TagStore.empty.markSummarized (.pair 0) .chunk "s" 0
    ((marked.restored (.pair 1)).restored (.pair 0)).tag? "7"
      = some (.summarized .chunk "s" 0) := by
  intro marked
  have hlater : ReflTransGen (TagStore.Aside "7") marked (marked.restored (.pair 1)) :=
    .single (.turn (.pair 1))
  have hshown : (Message.pair 0).activeSwipe = some 0 := rfl
  obtain ⟨-, hback, -⟩ :=
    shown_swipe_is_summarized_iff TagStore.empty (.pair 0) .chunk "s" 0 hlater rfl hshown
  exact hback.mpr (.inl hshown)

/-- **The first reply comes back without its mark.** A message is summarized while it has a single
    reply; it gets another one, which is shown, and the first one is shown again. The raw text is back,
    and it is work for the next pass. -/
theorem first_reply_comes_back_active :
    let marked := TagStore.empty.markSummarized .lone .chunk "s" 0
    let back := (marked.restored (.pair 1)).restored (.pair 0)
    marked.tag? "7" = some (.summarized .chunk "s" 0) ∧ back.tag? "7" = some .active ∧
      workingSet [.lone] marked = [] ∧ workingSet [.pair 0] back = [(0, .pair 0)] := by
  decide +kernel

end Recap
