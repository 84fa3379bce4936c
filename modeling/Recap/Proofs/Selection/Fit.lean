import Recap.Proofs.Selection.Order

/-!
# What fits into a context

Story, first tier and second tier share one budget, in this order. Each tier is gone through once, and
what does not fit at its turn is passed over. It would not fit at the end either, since what is spent
only grows: so a selection leaves no room for anything that it left out (`selectWithin_left_out`), and
a context leaves none tier by tier (`context_keeps_budget`).

The budget is kept with signed costs, while the cost of a finished context is counted without a sign.
The two agree as long as no count reaches `2^63` (`Context.tokenCount_eq`).

## Contents
- `asSigned_eq`, `Summary.cost_eq`, `costOf_eq_cost` — the two ways of counting.
- `takeFitting_cost_le`, `takeFitting_displaced` — going through a list once.
- `selectWithin_cost_le`, `selectWithin_displaced`, `selectWithin_left_out` — one tier.
- `storyWithin_eq_some_iff`, `storyCost_storyWithin_le` — the story.
- `Context.tokenCount_eq`, `buildContext_tokenCount_le`, `context_keeps_budget` — all tiers.
- `newest_chapter_fills_budget` — a story, two chapters, and room for one of them.
-/

namespace Recap

/-! ## Costs -/

/-- A count below `2^63` is the same number with a sign and without. -/
theorem asSigned_eq {n : UInt64} (h : n.toNat < 2 ^ 63) : asSigned n = n.toNat := by
  show n.toBitVec.toInt = n.toBitVec.toNat
  exact BitVec.toInt_eq_toNat_of_lt (by rw [UInt64.toNat_toBitVec]; omega)

/-- A summary whose count is below `2^63` costs what it counts. -/
theorem Summary.cost_eq {s : Summary} (h : s.tokenCount.toNat < 2 ^ 63) :
    s.cost = s.tokenCount.toNat :=
  asSigned_eq h

@[simp] theorem costOf_nil : costOf [] = 0 := rfl

@[simp] theorem costOf_cons (s : Summary) (ss : List Summary) :
    costOf (s :: ss) = s.cost + costOf ss := rfl

@[simp] theorem Tier.cost_cons (s : Summary) (ss : List Summary) :
    Tier.cost (s :: ss) = s.tokenCount.toNat + Tier.cost ss := rfl

/-- No summary costs more than all of them. -/
theorem Tier.le_cost {ss : List Summary} {s : Summary} (hs : s ∈ ss) :
    s.tokenCount.toNat ≤ Tier.cost ss := by
  induction ss with
  | nil => cases hs
  | cons r ss ih =>
    rw [Tier.cost_cons]
    rcases List.mem_cons.mp hs with rfl | hs
    · omega
    · have := ih hs
      omega

/-- Where all of them together count less than a bound, each of them does. -/
theorem Tier.count_lt {ss : List Summary} {bound : Nat} (h : Tier.cost ss < bound) :
    ∀ s ∈ ss, s.tokenCount.toNat < bound := fun _ hs => Nat.lt_of_le_of_lt (Tier.le_cost hs) h

/-- Summaries whose counts are below `2^63` cost what they count. -/
theorem costOf_eq_cost {ss : List Summary} (h : ∀ s ∈ ss, s.tokenCount.toNat < 2 ^ 63) :
    costOf ss = Tier.cost ss := by
  induction ss with
  | nil => rfl
  | cons s ss ih =>
    obtain ⟨hs, hss⟩ := List.forall_mem_cons.mp h
    rw [costOf_cons, Tier.cost_cons, Summary.cost_eq hs, ih hss]
    omega

/-- The cost of summaries does not depend on their order. -/
theorem costOf_perm {rs ss : List Summary} (h : rs.Perm ss) : costOf rs = costOf ss := by
  induction h with
  | nil => rfl
  | cons s _ ih => rw [costOf_cons, costOf_cons, ih]
  | swap r s ss =>
    simp only [costOf_cons]
    omega
  | trans _ _ ih₁ ih₂ => exact ih₁.trans ih₂

theorem costOf_nonneg {ss : List Summary} (h : ∀ s ∈ ss, 0 ≤ s.cost) : 0 ≤ costOf ss := by
  induction ss with
  | nil => exact Int.le_refl 0
  | cons s ss ih =>
    obtain ⟨hs, hss⟩ := List.forall_mem_cons.mp h
    have := ih hss
    rw [costOf_cons]
    omega

/-- Some of the summaries cost no more than all of them. -/
theorem costOf_filter_le {ss : List Summary} (h : ∀ s ∈ ss, 0 ≤ s.cost) (p : Summary → Bool) :
    costOf (ss.filter p) ≤ costOf ss := by
  induction ss with
  | nil => exact Int.le_refl 0
  | cons s ss ih =>
    obtain ⟨hs, hss⟩ := List.forall_mem_cons.mp h
    have := ih hss
    rw [List.filter_cons]
    split
    · rw [costOf_cons, costOf_cons]
      omega
    · rw [costOf_cons]
      omega

/-! ## Going through a list -/

/-- What is taken fits, together with what was spent before. -/
theorem takeFitting_cost_le {budget used : Int} (h : used ≤ budget) (ss : List Summary) :
    used + costOf (takeFitting budget used ss) ≤ budget := by
  induction ss generalizing used with
  | nil =>
    rw [takeFitting, costOf_nil]
    omega
  | cons s ss ih =>
    rw [takeFitting]
    split
    · rename_i hfits
      have := ih hfits
      rw [costOf_cons]
      omega
    · exact ih h

/-- **What is passed over would not fit beside what was taken before it.** -/
theorem takeFitting_displaced {before : Summary → Summary → Bool} (budget used : Int)
    {ss : List Summary} (sorted : ss.Pairwise fun a b => before a b = true)
    (nonneg : ∀ s ∈ ss, 0 ≤ s.cost) :
    ∃ left, (takeFitting budget used ss ++ left).Perm ss ∧ ∀ s ∈ left,
      budget < used + costOf ((takeFitting budget used ss).filter (before · s)) + s.cost := by
  induction ss generalizing used with
  | nil => exact ⟨[], .nil, by simp⟩
  | cons s ss ih =>
    obtain ⟨hs, hss⟩ := List.forall_mem_cons.mp nonneg
    obtain ⟨hfirst, sorted'⟩ := List.pairwise_cons.mp sorted
    rw [takeFitting]
    split
    · -- what is left out of the rest comes after `s`, which is spent either way
      obtain ⟨left, hperm, hleft⟩ := ih (used + s.cost) sorted' hss
      refine ⟨left, hperm.cons s, fun r hr => ?_⟩
      have hover := hleft r hr
      have hr' : before s r = true := hfirst r (hperm.subset (List.mem_append_right _ hr))
      rw [List.filter_cons, if_pos hr', costOf_cons]
      omega
    · rename_i hover
      obtain ⟨left, hperm, hleft⟩ := ih used sorted' hss
      refine ⟨s :: left, List.perm_middle.trans (hperm.cons s), ?_⟩
      have htaken : 0 ≤ costOf ((takeFitting budget used ss).filter (before · s)) :=
        costOf_nonneg fun r hr =>
          hss r ((takeFitting_sublist budget used ss).subset (List.mem_of_mem_filter hr))
      exact List.forall_mem_cons.mpr ⟨by omega, hleft⟩

/-! ## One tier -/

/-- **A selection keeps to its budget.** -/
theorem selectWithin_cost_le {budget : Int} (h : 0 ≤ budget) (ss : List Summary) :
    costOf (selectWithin ss budget) ≤ budget := by
  have hle := takeFitting_cost_le h (newestFirst ss)
  rw [selectWithin, if_neg (by omega), costOf_perm (List.reverse_perm _)]
  omega

/-- Nothing is selected where there is no room at all. -/
theorem selectWithin_of_neg {budget : Int} (h : budget < 0) (ss : List Summary) :
    selectWithin ss budget = [] :=
  if_pos h

/-- **What a selection leaves out would not fit beside what is at least as new.** -/
theorem selectWithin_displaced (budget : Int) {ss : List Summary} (nonneg : ∀ s ∈ ss, 0 ≤ s.cost) :
    ∃ left, (selectWithin ss budget ++ left).Perm ss ∧ ∀ s ∈ left,
      budget < costOf ((selectWithin ss budget).filter (s.timestamp ≤ ·.timestamp)) + s.cost := by
  by_cases h : budget < 0
  · -- nothing fits, whatever it costs
    rw [selectWithin_of_neg h]
    refine ⟨ss, .refl _, fun s hs => ?_⟩
    have := nonneg s hs
    rw [List.filter_nil, costOf_nil]
    omega
  · have hsame : (newestFirst ss).Perm ss := List.mergeSort_perm _ _
    obtain ⟨left, hperm, hleft⟩ := takeFitting_displaced budget 0 (newestFirst_sorted ss)
      fun s hs => nonneg s (hsame.mem_iff.mp hs)
    rw [selectWithin, if_neg h]
    have hturned := List.reverse_perm (takeFitting budget 0 (newestFirst ss))
    refine ⟨left, (hturned.append_right left).trans (hperm.trans hsame), fun s hs => ?_⟩
    have := hleft s hs
    rw [costOf_perm (hturned.filter _)]
    omega

/-- **Nothing that a selection leaves out would fit beside it.** -/
theorem selectWithin_left_out (budget : Int) {ss : List Summary} (nonneg : ∀ s ∈ ss, 0 ≤ s.cost) :
    ∃ left, (selectWithin ss budget ++ left).Perm ss ∧
      ∀ s ∈ left, budget < costOf (selectWithin ss budget) + s.cost := by
  obtain ⟨left, hperm, hleft⟩ := selectWithin_displaced budget nonneg
  refine ⟨left, hperm, fun s hs => Int.lt_of_lt_of_le (hleft s hs) (Int.add_le_add_right ?_ _)⟩
  exact costOf_filter_le (fun r hr => nonneg r (selectWithin_subset ss budget hr)) _

/-- Nothing that a selection leaves out would fit beside it, counted without a sign. -/
theorem selectWithin_left_out_count (budget : Int) {ss : List Summary}
    (small : ∀ s ∈ ss, s.tokenCount.toNat < 2 ^ 63) :
    ∃ left, (selectWithin ss budget ++ left).Perm ss ∧
      ∀ s ∈ left, budget < costOf (selectWithin ss budget) + s.tokenCount.toNat := by
  have nonneg : ∀ s ∈ ss, 0 ≤ s.cost := fun s hs => by
    rw [Summary.cost_eq (small s hs)]
    omega
  obtain ⟨left, hperm, hleft⟩ := selectWithin_left_out budget nonneg
  refine ⟨left, hperm, fun s hs => ?_⟩
  rw [← Summary.cost_eq (small s (hperm.subset (List.mem_append_right _ hs)))]
  exact hleft s hs

/-! ## The story -/

/-- **The story is told exactly if there is one and it fits.** -/
theorem storyWithin_eq_some_iff {s : Story} {budget : Int} {text : String} :
    storyWithin s budget = some text ↔
      s.summary = some text ∧ text ≠ "" ∧ (Text.estimateTokens text : Int) ≤ budget := by
  unfold storyWithin Story.text?
  rw [Option.filter_eq_some_iff, Option.filter_eq_some_iff, decide_eq_true_eq, and_assoc]
  simp

/-- A story that is told keeps to the budget. -/
theorem storyCost_storyWithin_le {s : Story} {budget : Int} (h : 0 ≤ budget) :
    storyCost (storyWithin s budget) ≤ budget := by
  cases hstory : storyWithin s budget with
  | none => exact h
  | some text => exact (storyWithin_eq_some_iff.mp hstory).2.2

/-- No story fits where there is no room at all. -/
theorem storyWithin_of_neg {budget : Int} (h : budget < 0) (s : Story) :
    storyWithin s budget = none := by
  cases hstory : storyWithin s budget with
  | none => rfl
  | some text =>
    have := (storyWithin_eq_some_iff.mp hstory).2.2
    omega

/-! ## All tiers -/

/-- **What a context counts is what its parts cost.** -/
theorem Context.tokenCount_eq {c : Context} (h₁ : ∀ s ∈ c.level1, s.tokenCount.toNat < 2 ^ 63)
    (h₂ : ∀ s ∈ c.level2, s.tokenCount.toNat < 2 ^ 63) :
    (c.tokenCount : Int) = storyCost c.story + costOf c.level1 + costOf c.level2 := by
  have hstory : storyCost c.story = (c.story.map Text.estimateTokens).getD 0 := by
    cases c.story <;> rfl
  rw [costOf_eq_cost h₁, costOf_eq_cost h₂, hstory, Context.tokenCount]
  omega

/-- What is chosen from a tier whose counts add up to less than `2^63` counts less than that. -/
theorem small_of_selectWithin {t : Tier} (counts : t.totalTokens < 2 ^ 63) (budget : Int) :
    ∀ s ∈ selectWithin t.summaries budget, s.tokenCount.toNat < 2 ^ 63 := fun s hs =>
  Tier.count_lt counts s (selectWithin_subset _ _ hs)

/-- **A context counts no more than its budget.** What one part leaves is the budget of the next. -/
theorem buildContext_tokenCount_le {s : Storage} (counts₁ : s.level1.totalTokens < 2 ^ 63)
    (counts₂ : s.level2.totalTokens < 2 ^ 63) {budget : Int} (h : 0 ≤ budget) :
    ((buildContext s budget).tokenCount : Int) ≤ budget := by
  let c := buildContext s budget
  have total : (c.tokenCount : Int) = storyCost c.story + costOf c.level1 + costOf c.level2 :=
    Context.tokenCount_eq (small_of_selectWithin counts₁ _) (small_of_selectWithin counts₂ _)
  have hstory : storyCost c.story ≤ budget := storyCost_storyWithin_le h
  have hlevel1 : costOf c.level1 ≤ budget - storyCost c.story :=
    selectWithin_cost_le (Int.sub_nonneg_of_le hstory) _
  have hlevel2 : costOf c.level2 ≤ budget - storyCost c.story - costOf c.level1 :=
    selectWithin_cost_le (Int.sub_nonneg_of_le hlevel1) _
  show (c.tokenCount : Int) ≤ budget
  omega

/-- **A context keeps its budget, and its parts come in order of priority.** Where the counts stay below
    `2^63`, a context costs no more than its budget, and nothing goes into a negative one. The story is
    told exactly if there is one and it fits. It depends on nothing else, and the chosen part of the first
    tier on nothing but the story and that tier. No summary of the first tier that is left out would fit
    beside the story and the chosen part of its tier, and none of the second tier beside all that was
    chosen. -/
theorem context_keeps_budget (s : Storage)
    (counts : s.level1.totalTokens + s.level2.totalTokens < 2 ^ 63) (budget : Int) :
    let c := buildContext s budget
    (budget < 0 → c = { story := none, level2 := [], level1 := [] }) ∧
    (0 ≤ budget → (c.tokenCount : Int) ≤ budget) ∧
    (∀ text, c.story = some text ↔
      s.level3.summary = some text ∧ text ≠ "" ∧ (Text.estimateTokens text : Int) ≤ budget) ∧
    (∀ s' : Storage, s'.level3 = s.level3 → (buildContext s' budget).story = c.story ∧
      (s'.level1 = s.level1 → (buildContext s' budget).level1 = c.level1)) ∧
    (∃ left, (c.level1 ++ left).Perm s.level1.summaries ∧
      ∀ x ∈ left, budget < ({ c with level2 := [] } : Context).tokenCount + x.tokenCount.toNat) ∧
    ∃ left, (c.level2 ++ left).Perm s.level2.summaries ∧
      ∀ x ∈ left, budget < c.tokenCount + x.tokenCount.toNat := by
  intro c
  have counts₁ : s.level1.totalTokens < 2 ^ 63 := by omega
  have counts₂ : s.level2.totalTokens < 2 ^ 63 := by omega
  have small₁ : ∀ x ∈ s.level1.summaries, x.tokenCount.toNat < 2 ^ 63 := Tier.count_lt counts₁
  have small₂ : ∀ x ∈ s.level2.summaries, x.tokenCount.toNat < 2 ^ 63 := Tier.count_lt counts₂
  have chosen₁ : ∀ x ∈ c.level1, x.tokenCount.toNat < 2 ^ 63 := small_of_selectWithin counts₁ _
  have chosen₂ : ∀ x ∈ c.level2, x.tokenCount.toNat < 2 ^ 63 := small_of_selectWithin counts₂ _
  -- one total for the whole context, and one for what was chosen before the second tier
  have total : (c.tokenCount : Int) = storyCost c.story + costOf c.level1 + costOf c.level2 :=
    Context.tokenCount_eq chosen₁ chosen₂
  have total₁ : (({ c with level2 := [] } : Context).tokenCount : Int)
      = storyCost c.story + costOf c.level1 + 0 :=
    Context.tokenCount_eq (c := { c with level2 := [] }) chosen₁ (by simp)
  refine ⟨fun hneg => ?_, fun hpos => ?_, fun text => storyWithin_eq_some_iff,
    fun s' h₃ => ⟨?_, fun h₁ => ?_⟩, ?_, ?_⟩
  · have hstory : storyWithin s.level3 budget = none := storyWithin_of_neg hneg _
    show buildContext s budget = _
    simp [buildContext, hstory, storyCost, selectWithin_of_neg hneg]
  · exact buildContext_tokenCount_le counts₁ counts₂ hpos
  · show storyWithin s'.level3 budget = storyWithin s.level3 budget
    rw [h₃]
  · show (buildContext s' budget).level1 = (buildContext s budget).level1
    simp only [buildContext, h₃, h₁]
  · obtain ⟨left, hperm, hleft⟩ := selectWithin_left_out_count (budget - storyCost c.story) small₁
    refine ⟨left, hperm, fun x hx => ?_⟩
    have hover : budget - storyCost c.story < costOf c.level1 + x.tokenCount.toNat := hleft x hx
    omega
  · obtain ⟨left, hperm, hleft⟩ :=
      selectWithin_left_out_count (budget - storyCost c.story - costOf c.level1) small₂
    refine ⟨left, hperm, fun x hx => ?_⟩
    have hover : budget - storyCost c.story - costOf c.level1
        < costOf c.level2 + x.tokenCount.toNat := hleft x hx
    omega

/-! ## A small budget -/

/-- A story, two chapters and a section, each of one token. -/
def Storage.short : Storage :=
  { Storage.fresh .standard with
    level1 := .pair 2
    level2 := Tier.empty.append (.small "s" "S" 0)
    level3 := { summary := some "Once" } }

/-- Two tokens are enough for the story and the newest chapter. The other chapter and the section would
    not fit beside them. -/
theorem newest_chapter_fills_budget :
    let c := buildContext .short 2
    Storage.short.level1.totalTokens + Storage.short.level2.totalTokens < 2 ^ 63 ∧
    c.story = some "Once" ∧ c.level1.map (·.id) = ["b"] ∧ c.level2 = [] ∧
    (c.tokenCount : Int) ≤ 2 ∧
    (∃ left, (c.level1 ++ left).Perm Storage.short.level1.summaries ∧
      ∀ x ∈ left, (2 : Int) < ({ c with level2 := [] } : Context).tokenCount + x.tokenCount.toNat) ∧
    ∃ left, (c.level2 ++ left).Perm Storage.short.level2.summaries ∧
      ∀ x ∈ left, (2 : Int) < c.tokenCount + x.tokenCount.toNat := by
  intro c
  have hcounts : Storage.short.level1.totalTokens + Storage.short.level2.totalTokens < 2 ^ 63 := by
    decide
  obtain ⟨-, hcost, hstory, -, hleft₁, hleft₂⟩ := context_keeps_budget .short hcounts 2
  -- the story takes one token, and the newest chapter the other
  have hone : (2 : Int) - storyCost (storyWithin Storage.short.level3 2) = 1 := by
    decide
  have hzero : (1 : Int) - costOf [.small "b" "B" 2] = 0 := by
    decide
  have hlevel1 : c.level1 = [.small "b" "B" 2] := by
    show selectWithin (Tier.pair 2).summaries (2 - storyCost (storyWithin Storage.short.level3 2)) = _
    rw [hone]
    cbv
  have hlevel2 : c.level2 = [] := by
    show selectWithin (Tier.empty.append (.small "s" "S" 0)).summaries
      (2 - storyCost (storyWithin Storage.short.level3 2) - costOf c.level1) = _
    rw [hone, hlevel1, hzero]
    cbv
  exact ⟨hcounts, (hstory "Once").mpr ⟨rfl, by decide, by decide⟩, by rw [hlevel1]; rfl, hlevel2,
    hcost (by decide), hleft₁, hleft₂⟩

end Recap
