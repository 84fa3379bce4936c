import Mathlib
import Recap.Selection

/-!
# The order in which selected summaries are told

A selection goes through the summaries from the newest back and is turned round at the end. Sorting
is stable, so summaries of the same time are gone through in the order of the tier, and turning the
selection round turns them round as well: two chapters that were written in the same millisecond are
told the later one first. The order of the tier is kept exactly where no two selected summaries have
the same time (`selectWithin_sublist_iff`).

## Contents
- `Tier.Ordered`, `Tier.append_ordered` — times that never go back.
- `takeFitting_sublist`, `selectWithin_sublist_reverse` — what a selection is made of.
- `selectWithin_sublist_iff`, `context_in_tier_order_iff` — when the order of the tier is kept.
- `later_chapter_is_told_later`, `same_time_is_told_backwards` — two chapters.
-/

namespace Recap

/-! ## Tiers -/

/-- The times of the summaries never go back. -/
def Tier.Ordered (t : Tier) : Prop := t.summaries.Pairwise fun a b => a.timestamp ≤ b.timestamp

/-- **A summary is added no earlier than the last one.** -/
theorem Tier.append_ordered {t : Tier} (ht : t.Ordered) (s : Summary) : (t.append s).Ordered := by
  unfold Tier.Ordered Tier.append at *
  rw [List.pairwise_append]
  refine ⟨ht, List.pairwise_singleton _ _, ?_⟩
  intro a ha b hb
  rw [List.mem_singleton] at hb
  subst hb
  cases hlast : t.summaries.getLast? with
  | none =>
    rw [List.getLast?_eq_none_iff.mp hlast] at ha
    cases ha
  | some last =>
    obtain ⟨before, hsplit⟩ := List.getLast?_eq_some_iff.mp hlast
    have hle : a.timestamp ≤ last.timestamp := by
      rw [hsplit] at ha ht
      rcases List.mem_append.mp ha with ha | ha
      · exact (List.pairwise_append.mp ht).2.2 a ha last (by simp)
      · rw [List.mem_singleton.mp ha]
        exact Int64.le_refl _
    show a.timestamp ≤ if s.timestamp ≤ last.timestamp then last.timestamp else s.timestamp
    split
    · exact hle
    · rename_i hlater
      exact Int64.le_trans hle (Int64.le_of_lt (Int64.not_le.mp hlater))

/-! ## Selections -/

/-- From the newest to the oldest, as a comparison. -/
theorem newestFirst_trans (a b c : Summary) (hab : decide (b.timestamp ≤ a.timestamp) = true)
    (hbc : decide (c.timestamp ≤ b.timestamp) = true) :
    decide (c.timestamp ≤ a.timestamp) = true := by
  rw [decide_eq_true_eq] at *
  exact Int64.le_trans hbc hab

theorem newestFirst_total (a b : Summary) :
    (decide (b.timestamp ≤ a.timestamp) || decide (a.timestamp ≤ b.timestamp)) = true := by
  rw [Bool.or_eq_true, decide_eq_true_eq, decide_eq_true_eq]
  exact Int64.le_total _ _

/-- Sorting puts the newest summaries first. -/
theorem newestFirst_sorted (ss : List Summary) :
    (newestFirst ss).Pairwise fun a b => decide (b.timestamp ≤ a.timestamp) = true :=
  List.pairwise_mergeSort newestFirst_trans newestFirst_total ss

/-- What is taken keeps its order. -/
theorem takeFitting_sublist (budget used : Int) (ss : List Summary) :
    (takeFitting budget used ss).Sublist ss := by
  induction ss generalizing used with
  | nil => exact List.Sublist.refl _
  | cons s ss ih =>
    unfold takeFitting
    split
    · exact (ih _).cons_cons s
    · exact (ih _).cons s

/-- **A selection is part of the tier turned round after sorting.** -/
theorem selectWithin_sublist_reverse (ss : List Summary) (budget : Int) :
    (selectWithin ss budget).Sublist (newestFirst ss).reverse := by
  unfold selectWithin
  split
  · exact List.nil_sublist _
  · exact (takeFitting_sublist budget 0 _).reverse

/-- A selection is made of summaries of the tier. -/
theorem selectWithin_subset (ss : List Summary) (budget : Int) : selectWithin ss budget ⊆ ss := by
  intro s hs
  have hin := (selectWithin_sublist_reverse ss budget).subset hs
  rw [List.mem_reverse] at hin
  exact List.mem_mergeSort.mp hin

/-! ## Order -/

/-- Where times only go up they say where a summary stands in the tier. -/
theorem sublist_of_increasing {rs ss : List Summary}
    (increasing : rs.Pairwise fun a b => a.timestamp < b.timestamp)
    (ordered : ss.Pairwise fun a b => a.timestamp ≤ b.timestamp) (hsub : rs ⊆ ss) :
    rs.Sublist ss := by
  induction ss generalizing rs with
  | nil =>
    rw [List.eq_nil_of_subset_nil hsub]
  | cons s ss ih =>
    obtain ⟨hfirst, ordered'⟩ := List.pairwise_cons.mp ordered
    cases rs with
    | nil => exact List.nil_sublist _
    | cons r rs =>
      obtain ⟨hlater, increasing'⟩ := List.pairwise_cons.mp increasing
      by_cases hrs : r = s
      · -- the others are later than `s`, and so after it
        subst hrs
        refine (ih increasing' ordered' fun x hx => ?_).cons_cons r
        rcases List.mem_cons.mp (hsub (List.mem_cons_of_mem _ hx)) with rfl | hx'
        · exact absurd (hlater x hx) Int64.lt_irrefl
        · exact hx'
      · -- `s` is not in the selection: it would have to be the first of it
        refine (ih increasing ordered' fun x hx => ?_).cons s
        have hr : r ∈ ss := (List.mem_cons.mp (hsub List.mem_cons_self)).resolve_left hrs
        rcases List.mem_cons.mp hx with rfl | hx'
        · exact hr
        · rcases List.mem_cons.mp (hsub hx) with rfl | hin
          · exact absurd (Int64.lt_of_lt_of_le (hlater x hx') (hfirst r hr)) Int64.lt_irrefl
          · exact hin

/-- Two elements of a list without repetitions stand in one order only. -/
theorem not_sublist_swap {α : Type} {l : List α} (hl : l.Nodup) {a b : α} (hab : [a, b].Sublist l) :
    ¬ [b, a].Sublist l := by
  induction l with
  | nil => cases hab
  | cons x l ih =>
    obtain ⟨hx, hl⟩ := List.nodup_cons.mp hl
    intro hba
    cases hab with
    | cons _ hab =>
      cases hba with
      | cons _ hba => exact ih hl hab hba
      | cons_cons _ hba => exact hx (hab.subset (by simp))
    | cons_cons _ hb =>
      cases hba with
      | cons _ hba => exact hx (hba.subset (by simp))
      | cons_cons _ _ => exact hx (hb.subset (by simp))

/-- **Summaries of the same time are turned round.** -/
theorem sublist_newestFirst_of_eq {ss : List Summary} {a b : Summary}
    (heq : a.timestamp = b.timestamp) (hab : [a, b].Sublist ss) : [a, b].Sublist (newestFirst ss) :=
  List.pair_sublist_mergeSort newestFirst_trans newestFirst_total
    (by rw [heq]; simp) hab

/-- **A selection keeps the order of the tier exactly if no two of its summaries have the same
    time.** -/
theorem selectWithin_sublist_iff {ss : List Summary} (distinct : ss.Nodup)
    (ordered : ss.Pairwise fun a b => a.timestamp ≤ b.timestamp) (budget : Int) :
    (selectWithin ss budget).Sublist ss ↔
      (selectWithin ss budget).Pairwise fun a b => a.timestamp < b.timestamp := by
  constructor
  · intro hsub
    refine List.pairwise_iff_forall_sublist.mpr fun {a b} hab => ?_
    have hle : a.timestamp ≤ b.timestamp :=
      List.pairwise_iff_forall_sublist.mp ordered (hab.trans hsub)
    refine Int64.lt_of_le_of_ne hle fun heq => ?_
    -- sorting leaves the two in the order of the tier, and then the selection is turned round
    have hnodup : (newestFirst ss).Nodup := (List.mergeSort_perm _ _).nodup_iff.mpr distinct
    have hforth := sublist_newestFirst_of_eq heq (hab.trans hsub)
    have hback : [b, a].Sublist (newestFirst ss) := by
      have h := (hab.trans (selectWithin_sublist_reverse ss budget)).reverse
      rwa [List.reverse_reverse] at h
    exact not_sublist_swap hnodup hforth hback
  · intro increasing
    exact sublist_of_increasing increasing ordered (selectWithin_subset ss budget)

/-- **When the chapters of a context are told in the order in which they were written.** At every
    budget the order of a tier is kept if no two of the summaries selected from it have the same time;
    and where no summary is there twice, it is kept only then. -/
theorem context_in_tier_order_iff (s : Storage) (ordered₁ : s.level1.Ordered)
    (ordered₂ : s.level2.Ordered) (budget : Int) :
    let Increasing (ss : List Summary) := ss.Pairwise fun a b => a.timestamp < b.timestamp
    let c := buildContext s budget
    (Increasing c.level1 → c.level1.Sublist s.level1.summaries) ∧
    (Increasing c.level2 → c.level2.Sublist s.level2.summaries) ∧
    (s.level1.summaries.Nodup → c.level1.Sublist s.level1.summaries → Increasing c.level1) ∧
    (s.level2.summaries.Nodup → c.level2.Sublist s.level2.summaries → Increasing c.level2) :=
  ⟨fun h => sublist_of_increasing h ordered₁ (selectWithin_subset _ _),
    fun h => sublist_of_increasing h ordered₂ (selectWithin_subset _ _),
    fun distinct => (selectWithin_sublist_iff distinct ordered₁ _).mp,
    fun distinct => (selectWithin_sublist_iff distinct ordered₂ _).mp⟩

/-! ## Two chapters -/

theorem selectWithin_nil (budget : Int) : selectWithin [] budget = [] :=
  List.eq_nil_of_subset_nil (selectWithin_subset [] budget)

/-- A record with nothing but a first tier gives all of the budget to it. -/
theorem buildContext_of_level1 (injection : InjectionSettings) (t : Tier) (budget : Int) :
    buildContext { Storage.fresh injection with level1 := t } budget
      = { story := none, level2 := [], level1 := selectWithin t.summaries budget } := by
  have hstory : storyWithin Story.none budget = none := rfl
  have hcost : storyCost none = 0 := rfl
  simp only [buildContext, Storage.fresh, hstory, hcost, Tier.empty, selectWithin_nil, Int.sub_zero]

/-- A chapter of one token. -/
def Summary.small (id text : String) (time : Int64) : Summary :=
  { id, startIndex := 0, endIndex := 0, text, timestamp := time, tokenCount := 1 }

/-- A chapter that was written at the time 1, and one that was written at the given time. -/
def Tier.pair (time : Int64) : Tier :=
  (Tier.empty.append (.small "a" "A" 1)).append (.small "b" "B" time)

theorem Tier.pair_ordered (time : Int64) : (Tier.pair time).Ordered :=
  append_ordered (append_ordered .nil _) _

/-- Chapters that were written at different times are told in their order. -/
theorem later_chapter_is_told_later :
    let c := buildContext { Storage.fresh .standard with level1 := .pair 2 } 100
    c.level1.length = 2 ∧ c.level1.Sublist (Tier.pair 2).summaries := by
  intro c
  have hc : c.level1 = (Tier.pair 2).summaries := by
    rw [show c = _ from buildContext_of_level1 .standard (.pair 2) 100]
    cbv
  refine ⟨by rw [hc]; rfl, ?_⟩
  refine (context_in_tier_order_iff { Storage.fresh .standard with level1 := .pair 2 }
    (Tier.pair_ordered 2) .nil 100).1 ?_
  rw [show (buildContext _ 100).level1 = (Tier.pair 2).summaries from hc]
  decide +kernel

/-- **Chapters that were written in the same millisecond are told the later one first.** -/
theorem same_time_is_told_backwards :
    (Tier.pair 1).Ordered ∧ (Tier.pair 1).summaries.map (·.id) = ["a", "b"] ∧
      (selectWithin (Tier.pair 1).summaries 100).map (·.id) = ["b", "a"] ∧
      ¬ (selectWithin (Tier.pair 1).summaries 100).Sublist (Tier.pair 1).summaries ∧
      (buildContext { Storage.fresh .standard with level1 := .pair 1 } 100).assemble
        = "[Recent Events]\nB\nA\n" := by
  have htold : selectWithin (Tier.pair 1).summaries 100 = (Tier.pair 1).summaries.reverse := by
    cbv
  refine ⟨Tier.pair_ordered 1, rfl, ?_, ?_, ?_⟩
  · rw [htold]
    rfl
  · rw [htold]
    decide +kernel
  · rw [buildContext_of_level1, htold]
    rfl

end Recap
