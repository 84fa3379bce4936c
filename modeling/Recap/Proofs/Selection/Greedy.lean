import Recap.Proofs.Selection.Fit

/-!
# What a selection prefers

A selection goes from the newest summary to the oldest. One that does not fit is passed over, and the
selection goes on with those before it. So a summary is left out only in favour of summaries that are at
least as new (`selectWithin_displaced`), never of older ones, however much cheaper they are; and if all
of them fit, all of them are taken (`selectWithin_perm`).

`selection_prefers_newest` says this in the counts that are written down in summaries. They are what a
selection reckons with as long as they stay below `2^63`.

## Contents
- `selectWithin_ordered` — what is selected is told oldest first.
- `selectWithin_perm` — where there is room for everything.
- `selection_prefers_newest` — a selection, its bound and its preference.
- `oversized_summary_is_passed_over` — a summary that does not fit between others that do.
-/

namespace Recap

/-! ## Order and room -/

/-- **What is selected is told oldest first.** -/
theorem selectWithin_ordered (ss : List Summary) (budget : Int) :
    (selectWithin ss budget).Pairwise fun a b => a.timestamp ≤ b.timestamp := by
  refine List.Pairwise.sublist (selectWithin_sublist_reverse ss budget) ?_
  rw [List.pairwise_reverse]
  exact (newestFirst_sorted ss).imp fun h => of_decide_eq_true h

theorem costOf_append (rs ss : List Summary) : costOf (rs ++ ss) = costOf rs + costOf ss := by
  induction rs with
  | nil => simp
  | cons r rs ih =>
    rw [List.cons_append, costOf_cons, costOf_cons, ih]
    omega

/-- **Where there is room for everything, everything is selected.** -/
theorem selectWithin_perm {ss : List Summary} (nonneg : ∀ s ∈ ss, 0 ≤ s.cost) {budget : Int}
    (h : costOf ss ≤ budget) : (selectWithin ss budget).Perm ss := by
  obtain ⟨left, hperm, hleft⟩ := selectWithin_left_out budget nonneg
  cases left with
  | nil => rwa [List.append_nil] at hperm
  | cons s rest =>
    -- a summary that is left out takes more room than there is, and all of them together do not
    have hover := hleft s List.mem_cons_self
    have htotal := costOf_perm hperm
    have hrest : 0 ≤ costOf rest := costOf_nonneg fun r hr => nonneg r (hperm.subset (by simp [hr]))
    rw [costOf_append, costOf_cons] at htotal
    omega

/-! ## Selections -/

/-- **A selection keeps its budget, and prefers what is newest.** Nothing is selected within a negative
    budget. Within any other the selection is made of the given summaries, none of them taken twice,
    in the order of their times, and counts no more than the budget. What is left out counts too much
    beside those selected summaries that are at least as new. So if the budget is enough for all of them,
    all of them are selected. -/
theorem selection_prefers_newest {ss : List Summary} (counts : Tier.cost ss < 2 ^ 63) (budget : Int) :
    let chosen := selectWithin ss budget
    (budget < 0 → chosen = []) ∧
    (0 ≤ budget →
      (chosen.Pairwise fun a b => a.timestamp ≤ b.timestamp) ∧
      (Tier.cost chosen : Int) ≤ budget ∧
      (∃ left, (chosen ++ left).Perm ss ∧ ∀ s ∈ left,
        budget < s.tokenCount.toNat + Tier.cost (chosen.filter (s.timestamp ≤ ·.timestamp))) ∧
      ((Tier.cost ss : Int) ≤ budget → chosen.Perm ss)) := by
  intro chosen
  have small : ∀ s ∈ ss, s.tokenCount.toNat < 2 ^ 63 := Tier.count_lt counts
  have nonneg : ∀ s ∈ ss, 0 ≤ s.cost := fun s hs => by
    rw [Summary.cost_eq (small s hs)]
    omega
  have small' : ∀ s ∈ chosen, s.tokenCount.toNat < 2 ^ 63 := fun s hs =>
    small s (selectWithin_subset ss budget hs)
  refine ⟨fun hneg => selectWithin_of_neg hneg ss, fun hpos => ⟨selectWithin_ordered ss budget, ?_,
    ?_, fun hroom => ?_⟩⟩
  · rw [← costOf_eq_cost small']
    exact selectWithin_cost_le hpos ss
  · obtain ⟨left, hperm, hleft⟩ := selectWithin_displaced budget nonneg
    refine ⟨left, hperm, fun s hs => ?_⟩
    have hover := hleft s hs
    rw [Summary.cost_eq (small s (hperm.subset (List.mem_append_right _ hs))),
      costOf_eq_cost fun r hr => small' r (List.mem_of_mem_filter hr)] at hover
    omega
  · exact selectWithin_perm nonneg (by rwa [costOf_eq_cost small])

/-! ## A summary that does not fit -/

/-- A chapter that counts the given number of tokens. -/
def Summary.counting (id : String) (time : Int64) (tokens : UInt64) : Summary :=
  { small id "" time with tokenCount := tokens }

/-- A long chapter between short ones, the last two of which were written at the same time. -/
def Tier.uneven : List Summary :=
  [.counting "a" 1 5, .counting "b" 2 500, .counting "c" 3 10, .counting "d" 3 10]

/-- The long chapter does not fit beside the two that are newer, and the oldest one still does. -/
theorem oversized_summary_is_passed_over :
    let chosen := selectWithin Tier.uneven 25
    Tier.cost Tier.uneven < 2 ^ 63 ∧ chosen.map (·.id) = ["a", "d", "c"] ∧
    (Tier.cost chosen : Int) ≤ 25 ∧
    ∃ left, (chosen ++ left).Perm Tier.uneven ∧ ∀ s ∈ left,
      (25 : Int) < s.tokenCount.toNat + Tier.cost (chosen.filter (s.timestamp ≤ ·.timestamp)) := by
  intro chosen
  have hcounts : Tier.cost Tier.uneven < 2 ^ 63 := by decide
  obtain ⟨-, hcost, hleft, -⟩ := (selection_prefers_newest hcounts 25).2 (by decide)
  have hchosen : chosen = [.counting "a" 1 5, .counting "d" 3 10, .counting "c" 3 10] := by
    show selectWithin Tier.uneven 25 = _
    cbv
  exact ⟨hcounts, by rw [hchosen]; rfl, hcost, hleft⟩

end Recap
