import Recap.Tag.Store

/-!
# What a tag store shows after a change

Every change of a tag store goes through `TagStore.write`, so the two views need one equation each:
what a message's tag is after a write, and what is kept for a swipe. Nothing below or in other modules
opens a store any further.

## Contents
- `tag?_write`, `swipeTag?_write` — a store after one write.
- `Keeps`, `keeps_write` — the tags that a store holds for a message, shown or set aside.
- `restoreSwipe?_eq_some` — a change of swipe is a write, or nothing.
- `restored`, `tag?_restored`, `swipeTag?_restored_getD` — a store after a change of swipe.
-/

namespace Recap.TagStore

/-! ## One write -/

/-- **The tag of a message after a write.** -/
theorem tag?_write (s : TagStore) (m : Message) (t : Tag) (id : String) :
    (s.write m t).tag? id = if id = m.id then some t else s.tag? id := by
  -- a snapshot comes first, but leaves the tags alone
  have hkept : ∀ k : TagStore, k.tags = s.tags →
      (k.tags.insert m.id t).get? id = if id = m.id then some t else s.tags.get? id := by
    intro k hk
    rw [hk]
    split
    · rename_i h
      rw [h, SortedMap.get?_insert_self]
    · rename_i h
      exact SortedMap.get?_insert_of_ne h s.tags t
  unfold write
  cases m.activeSwipe with
  | none => exact hkept s rfl
  | some swipe => exact hkept (s.snapshot m.id swipe t) rfl

/-- What is kept for a swipe after a snapshot. -/
theorem swipeTag?_snapshot (s : TagStore) (id : String) (k : UInt64) (t : Tag) (id' : String)
    (k' : UInt64) :
    (s.snapshot id k t).swipeTag? id' k'
      = if id' = id ∧ k = k' then some t else s.swipeTag? id' k' := by
  unfold snapshot swipeTag?
  by_cases hid : id' = id
  · subst hid
    rw [SortedMap.get?_insert_self]
    by_cases hk : k = k'
    · subst hk
      simp
    · have hk' : k' ≠ k := fun h => hk h.symm
      simp only [Option.bind_some, SortedMap.get?_insert_of_ne hk', hk, and_false, if_false]
      cases s.swipes.get? id' with
      | none => rfl
      | some kept => rfl
  · rw [SortedMap.get?_insert_of_ne hid]
    simp [hid]

/-- **What is kept for a swipe after a write.** -/
theorem swipeTag?_write (s : TagStore) (m : Message) (t : Tag) (id : String) (k : UInt64) :
    (s.write m t).swipeTag? id k
      = if id = m.id ∧ m.activeSwipe = some k then some t else s.swipeTag? id k := by
  unfold write
  cases m.activeSwipe with
  | none => simp [swipeTag?]
  | some swipe =>
    have h := swipeTag?_snapshot s m.id swipe t id k
    simp only [swipeTag?, Option.some.injEq] at h ⊢
    exact h

/-! ## All that is kept for a message -/

/-- The store holds the tag for the message, as its tag or for one of its swipes. -/
def Keeps (s : TagStore) (id : String) (t : Tag) : Prop :=
  s.tag? id = some t ∨ ∃ k, s.swipeTag? id k = some t

/-- A store without tags holds none. -/
theorem not_keeps_empty (id : String) (t : Tag) : ¬ TagStore.empty.Keeps id t := by
  rintro (h | ⟨k, h⟩)
  · cases h
  · cases h

/-- A write brings in its own tag for its own message, and nothing else. -/
theorem keeps_write {s : TagStore} {m : Message} {t u : Tag} {id : String}
    (h : (s.write m t).Keeps id u) : id = m.id ∧ u = t ∨ s.Keeps id u := by
  rcases h with h | ⟨k, h⟩
  · rw [tag?_write] at h
    split at h
    · rename_i hid
      exact .inl ⟨hid, (Option.some.inj h).symm⟩
    · exact .inr (.inl h)
  · rw [swipeTag?_write] at h
    split at h
    · rename_i hid
      exact .inl ⟨hid.1, (Option.some.inj h).symm⟩
    · exact .inr (.inr ⟨k, h⟩)

/-- The tag that a swipe brings back is one that the store held for the message, or the active one. -/
theorem swipeTag_keeps (s : TagStore) (m : Message) (k : UInt64) :
    s.swipeTag m k = .active ∨ s.Keeps m.id (s.swipeTag m k) := by
  unfold swipeTag
  cases hk : s.swipeTag? m.id k with
  | none => exact .inl rfl
  | some t => exact .inr (.inr ⟨k, hk⟩)

/-- **A change of swipe is a write of the tag that the swipe brings back**, or it is nothing. -/
theorem restoreSwipe?_eq_some {s s' : TagStore} {m : Message} (h : s.restoreSwipe? m = some s') :
    ∃ k, m.activeSwipe = some k ∧ s.tag? m.id ≠ some (s.swipeTag m k) ∧
      s' = s.write m (s.swipeTag m k) := by
  unfold restoreSwipe? at h
  cases hk : m.activeSwipe with
  | none => simp [hk] at h
  | some k =>
    simp only [hk] at h
    split at h
    · cases h
    · rename_i hne
      exact ⟨k, rfl, hne, (Option.some.inj h).symm⟩

/-! ## A change of swipe -/

/-- The store once a message has come to show a swipe, whether that changes a tag or not. -/
def restored (s : TagStore) (m : Message) : TagStore := (s.restoreSwipe? m).getD s

/-- A change of swipe that changes nothing leaves the store as it is. -/
theorem restored_of_none {s : TagStore} {m : Message} (h : s.restoreSwipe? m = none) :
    s.restored m = s := by
  rw [restored, h]
  rfl

/-- There is nothing to change exactly if the message has the tag of the swipe that it shows. -/
theorem restoreSwipe?_eq_none_iff {s : TagStore} {m : Message} :
    s.restoreSwipe? m = none ↔
      ∀ k, m.activeSwipe = some k → s.tag? m.id = some (s.swipeTag m k) := by
  unfold restoreSwipe?
  cases m.activeSwipe with
  | none => simp
  | some k => simp

/-- **A message that comes to show a swipe gets the tag of the swipe**, and no other message another
    tag. -/
theorem tag?_restored {s : TagStore} {m : Message} {k : UInt64} (hk : m.activeSwipe = some k)
    (id : String) :
    (s.restored m).tag? id = if id = m.id then some (s.swipeTag m k) else s.tag? id := by
  cases hr : s.restoreSwipe? m with
  | none =>
    rw [restored_of_none hr]
    split
    · rename_i hid
      rw [hid]
      exact restoreSwipe?_eq_none_iff.mp hr k hk
    · rfl
  | some s' =>
    obtain ⟨j, hj, -, hs'⟩ := restoreSwipe?_eq_some hr
    obtain rfl : j = k := Option.some.inj (hj.symm.trans hk)
    rw [restored, hr, Option.getD_some, hs', tag?_write]

/-- **A change of swipe changes the tag of no swipe.** At most it puts down the active tag for one that
    had none. -/
theorem swipeTag?_restored_getD (s : TagStore) (m : Message) (id : String) (k : UInt64) :
    ((s.restored m).swipeTag? id k).getD .active = (s.swipeTag? id k).getD .active := by
  cases hr : s.restoreSwipe? m with
  | none => rw [restored_of_none hr]
  | some s' =>
    obtain ⟨j, hj, -, hs'⟩ := restoreSwipe?_eq_some hr
    rw [restored, hr, Option.getD_some, hs', swipeTag?_write]
    split
    · rename_i h
      obtain ⟨rfl, hk⟩ := h
      obtain rfl : j = k := Option.some.inj (hj.symm.trans hk)
      rfl
    · rfl

/-- A change of swipe that was made once is not made again. -/
theorem restoreSwipe?_restored (s : TagStore) (m : Message) :
    (s.restored m).restoreSwipe? m = none := by
  refine restoreSwipe?_eq_none_iff.mpr fun k hk => ?_
  rw [tag?_restored hk, if_pos rfl]
  exact congrArg some (swipeTag?_restored_getD s m m.id k).symm

/-- **A change of swipe is reported exactly if it changes the tag of the message.** -/
theorem restoreSwipe?_isSome_iff (s : TagStore) (m : Message) :
    (s.restoreSwipe? m).isSome = true ↔ (s.restored m).tag? m.id ≠ s.tag? m.id := by
  cases hr : s.restoreSwipe? m with
  | none =>
    rw [restored_of_none hr]
    simp
  | some s' =>
    obtain ⟨k, hk, hne, -⟩ := restoreSwipe?_eq_some hr
    rw [tag?_restored hk, if_pos rfl]
    exact ⟨fun _ => hne.symm, fun _ => rfl⟩

end Recap.TagStore
