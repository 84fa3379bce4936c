import Mathlib.Algebra.GroupWithZero.Nat
import Mathlib.Algebra.Order.Floor.Div
import Recap.Plan

/-!
# The chunks of a plan

A plan can always be carried out: its chunks are never empty (`planChunks_pos`), and together they are
no more than the messages that are there (`planChunks_sum_le`). As long as numbers are held exactly as
doubles, more is known. Although the first chunk is planned by a rule of its own, it comes out as the
first of as many full chunks as go into all the messages that the plan is for
(`planChunks_eq_laterChunks`), so that whatever is known of `laterChunks` is known of plans.

## Contents
- `laterChunks_bounds`, `laterChunks_full`, `length_laterChunks`, `laterChunks_sum` — full chunks, and
  what is left.
- `planChunks_pos`, `planChunks_sum_le` — every plan can be carried out.
- `worthwhile`, `planChunks_eq_laterChunks`, `planChunks_sum`, `planChunks_eq_nil` — plans in closed form.
- `length_take_of_sum_le`, `sum_le_length_drop` — a list that is gone through chunk by chunk.
-/

namespace Recap

/-- No chunk is empty, and none is larger than a full one. -/
theorem laterChunks_bounds (size left : Nat) : ∀ n ∈ laterChunks size left, 0 < n ∧ n ≤ size := by
  fun_induction laterChunks size left with
  | case1 left h => simp
  | case2 left h ih =>
    intro n hn
    rcases List.mem_cons.mp hn with rfl | hn
    · omega
    · exact ih n hn

/-- The chunks cover exactly what they are to cover. -/
theorem laterChunks_sum {size : Nat} (hsize : 0 < size) (left : Nat) :
    (laterChunks size left).sum = left := by
  fun_induction laterChunks size left with
  | case1 left h =>
    rw [List.sum_nil]
    omega
  | case2 left h ih =>
    rw [List.sum_cons, ih]
    omega

/-- **Every chunk but the last is a full one.** -/
theorem laterChunks_full (size left : Nat) : ∀ n ∈ (laterChunks size left).dropLast, n = size := by
  fun_induction laterChunks size left with
  | case1 left h => simp
  | case2 left h ih =>
    intro n hn
    by_cases hlast : laterChunks size (left - min size left) = []
    · rw [hlast, List.dropLast_singleton] at hn
      cases hn
    · rw [List.dropLast_cons_of_ne_nil hlast] at hn
      rcases List.mem_cons.mp hn with rfl | hn
      · -- there are more chunks to come, so the first one did not take all there was
        refine Nat.min_eq_left (Nat.le_of_lt ?_)
        by_contra hle
        refine hlast ?_
        rw [Nat.min_eq_right (Nat.le_of_not_lt hle), Nat.sub_self, laterChunks]
        simp
      · exact ih n hn

/-- **There are no more chunks than are needed.** -/
theorem length_laterChunks {size : Nat} (hsize : 0 < size) (left : Nat) :
    (laterChunks size left).length = left ⌈/⌉ size := by
  fun_induction laterChunks size left with
  | case1 left h =>
    rw [show left = 0 by omega, zero_ceilDiv]
    rfl
  | case2 left h ih =>
    rw [List.length_cons, ih, Nat.ceilDiv_eq_add_pred_div, Nat.ceilDiv_eq_add_pred_div,
      ← Nat.add_div_right _ hsize]
    by_cases hle : left ≤ size
    · -- one chunk takes all there is, and the rest is rounded off
      rw [Nat.min_eq_right hle]
      rw [Nat.div_eq_of_lt_le (k := 1) (by omega) (by omega),
        Nat.div_eq_of_lt_le (k := 1) (by omega) (by omega)]
    · rw [Nat.min_eq_left (by omega)]
      congr 1
      omega

/-- A share is not more than the whole. -/
theorem targetOf_le (workingSet percent : Nat) : targetOf workingSet percent ≤ workingSet := by
  unfold targetOf
  calc workingSet * min percent 100 / 100
      ≤ workingSet * 100 / 100 := Nat.div_le_div_right (Nat.mul_le_mul_left _ (Nat.min_le_right _ _))
    _ = workingSet := Nat.mul_div_cancel _ (by decide)

/-- **Every chunk of a plan holds a message.** -/
theorem planChunks_pos (workingSet chunkSize percent : Nat) :
    ∀ n ∈ (planChunks workingSet chunkSize percent).chunks, 0 < n := by
  intro n hn
  simp only [planChunks] at hn
  split at hn
  · cases hn
  · rename_i h
    have hle := targetOf_le workingSet percent
    rcases List.mem_cons.mp hn with rfl | hn
    · rw [not_or] at h
      omega
    · exact (laterChunks_bounds _ _ n hn).1

/-- **A plan needs no more messages than there are.** -/
theorem planChunks_sum_le (workingSet chunkSize percent : Nat) :
    (planChunks workingSet chunkSize percent).chunks.sum ≤ workingSet := by
  simp only [planChunks]
  split
  · exact Nat.zero_le _
  · have hle := targetOf_le workingSet percent
    rw [List.sum_cons, laterChunks_sum (by omega)]
    omega

/-- Numbers that are held exactly are compared as they are. -/
theorem belowHalfChunk_iff {available size : Nat} (ha : available < Decimal.exactLimit)
    (hs : size < Decimal.exactLimit) :
    belowHalfChunk available size = true ↔ 2 * available < size := by
  unfold belowHalfChunk
  rw [Decimal.nearestDouble_of_lt ha, Decimal.nearestDouble_of_lt hs, decide_eq_true_eq]

/-- Whether a plan for that many messages has a chunk: there is a share to cover, and half a chunk of
    messages to begin with. -/
def worthwhile (workingSet chunkSize percent : Nat) : Prop :=
  1 ≤ targetOf workingSet percent ∧ max chunkSize 1 ≤ 2 * workingSet

/-- **A plan is made of full chunks, and what is left.** It is for the share, or for the first chunk if
    that is more. -/
theorem planChunks_eq_laterChunks {workingSet chunkSize percent : Nat}
    (hw : workingSet < Decimal.exactLimit) (hs : chunkSize < Decimal.exactLimit)
    (h : worthwhile workingSet chunkSize percent) :
    (planChunks workingSet chunkSize percent).chunks = laterChunks (max chunkSize 1)
      (max (targetOf workingSet percent) (min (max chunkSize 1) workingSet)) := by
  obtain ⟨htarget, hhalf⟩ := h
  have hle := targetOf_le workingSet percent
  have hsize : max chunkSize 1 < Decimal.exactLimit := Nat.max_lt.mpr ⟨hs, by decide⟩
  have hchunks : ¬ (targetOf workingSet percent = 0 ∨
      belowHalfChunk workingSet (max chunkSize 1) = true) := by
    rw [belowHalfChunk_iff hw hsize]
    omega
  have hfirst : min (max chunkSize 1) (max (targetOf workingSet percent)
      (min (max chunkSize 1) workingSet)) = min (max chunkSize 1) workingSet := by
    omega
  have hrest : max (targetOf workingSet percent) (min (max chunkSize 1) workingSet)
      - min (max chunkSize 1) workingSet
      = targetOf workingSet percent - min (max chunkSize 1) workingSet := by
    omega
  simp only [planChunks]
  rw [if_neg hchunks]
  conv_rhs => rw [laterChunks, if_neg (by omega), hfirst, hrest]

/-- **How many messages a plan is for.** -/
theorem planChunks_sum {workingSet chunkSize percent : Nat} (hw : workingSet < Decimal.exactLimit)
    (hs : chunkSize < Decimal.exactLimit) (h : worthwhile workingSet chunkSize percent) :
    (planChunks workingSet chunkSize percent).chunks.sum
      = max (targetOf workingSet percent) (min (max chunkSize 1) workingSet) := by
  rw [planChunks_eq_laterChunks hw hs h, laterChunks_sum (by omega)]

/-- **A plan that is not worthwhile is empty.** -/
theorem planChunks_eq_nil {workingSet chunkSize percent : Nat} (hw : workingSet < Decimal.exactLimit)
    (hs : chunkSize < Decimal.exactLimit) (h : ¬ worthwhile workingSet chunkSize percent) :
    (planChunks workingSet chunkSize percent).chunks = [] := by
  have hsize : max chunkSize 1 < Decimal.exactLimit := Nat.max_lt.mpr ⟨hs, by decide⟩
  have hchunks : targetOf workingSet percent = 0 ∨
      belowHalfChunk workingSet (max chunkSize 1) = true := by
    rw [belowHalfChunk_iff hw hsize]
    unfold worthwhile at h
    omega
  simp only [planChunks]
  rw [if_pos hchunks]

section Slices

variable {α : Type} {size : Nat} {sizes : List Nat} {left : List α}

/-- There are as many messages as the first chunk needs. -/
theorem length_take_of_sum_le (hsum : (size :: sizes).sum ≤ left.length) :
    (left.take size).length = size := by
  rw [List.sum_cons] at hsum
  rw [List.length_take]
  omega

/-- There are as many messages left as the other chunks need. -/
theorem sum_le_length_drop (hsum : (size :: sizes).sum ≤ left.length) :
    sizes.sum ≤ (left.drop size).length := by
  rw [List.sum_cons] at hsum
  rw [List.length_drop]
  omega

end Slices

end Recap
