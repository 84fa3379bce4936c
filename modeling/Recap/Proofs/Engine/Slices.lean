import Recap.Proofs.Engine.PassEffect

/-!
# The slices that a pass summarizes

A pass cuts its working set at the places that its plan gives it. What it hands to the compressor are
therefore stretches of the working set, one after the other, each of the full length that was planned
(`compact_slices`): the plan never reaches beyond the messages that are there, and none of its chunks
is empty. How long the plan is and how large its chunks are is said by `plan_in_closed_form` without the
planner.

## Contents
- `IsSlice` — the messages of one planned chunk.
- `foldChunks_slices`, `compact_slices` — a pass summarizes such slices only.
- `plan_in_closed_form` — the plan, and the slices that are cut by it.
- `overshooting_plan` — a first chunk that is more than the share.
-/

namespace Recap

variable {sizes : List Nat} {left : List (Nat × Message)} {messages : List Message}

/-! ## Slices -/

/-- Whether these are the messages of one of the planned chunks: the chunk is not empty, and it ends
    where there still are messages. -/
def IsSlice (sizes : List Nat) (working : List (Nat × Message)) (messages : List Message) : Prop :=
  ∃ before size after, sizes = before ++ size :: after ∧ 0 < size ∧
    before.sum + size ≤ working.length ∧
    messages = ((working.drop before.sum).take size).map (·.2)

/-- The messages of the first chunk. -/
theorem IsSlice.first {size : Nat} (hpos : 0 < size) (hsum : (size :: sizes).sum ≤ left.length) :
    IsSlice (size :: sizes) left ((left.take size).map (·.2)) := by
  rw [List.sum_cons] at hsum
  exact ⟨[], size, sizes, rfl, hpos, by rw [List.sum_nil]; omega, rfl⟩

/-- The messages of a chunk after the first. -/
theorem IsSlice.later {size : Nat} (hsum : (size :: sizes).sum ≤ left.length)
    (h : IsSlice sizes (left.drop size) messages) : IsSlice (size :: sizes) left messages := by
  obtain ⟨before, n, after, rfl, hn, hends, rfl⟩ := h
  rw [List.sum_cons] at hsum
  rw [List.length_drop] at hends
  refine ⟨size :: before, n, after, rfl, hn, ?_, ?_⟩
  · rw [List.sum_cons]
    omega
  · rw [List.sum_cons, List.drop_drop]

/-- **Folding asks for the summaries of the planned slices**, and of nothing else. -/
theorem foldChunks_slices (total : Nat) {s : PassState} (hpos : ∀ n ∈ sizes, 0 < n)
    (hsum : sizes.sum ≤ s.left.length) :
    (foldChunks total sizes s).Asks fun q => ∀ messages chapter,
      q = .compress messages chapter → IsSlice sizes s.left messages := by
  induction sizes generalizing s with
  | nil => exact .finish _
  | cons size sizes ih =>
    rw [foldChunks]
    refine .call (fun messages chapter h => ?_) fun reply => ?_
    · cases h
      exact .first (hpos size List.mem_cons_self) hsum
    · cases reply with
      | none => exact .finish _
      | some text =>
        by_cases hblank : Text.allBlank text = true
        · simp only [hblank, if_true]
          exact .finish _
        · simp only [hblank, if_false, Bool.false_eq_true]
          refine .call (fun _ _ h => by cases h) fun id => .call (fun _ _ h => by cases h) fun now =>
            .call (fun _ _ h => by cases h) fun _ => ?_
          -- the rest of the plan is for what the first chunk leaves
          have hrest : (s.fold size id text now).left = s.left.drop size := rfl
          refine (ih (fun n hn => hpos n (List.mem_cons_of_mem _ hn)) ?_).mono
            fun q hq messages chapter h => .later hsum (hq messages chapter h)
          rw [hrest]
          exact sum_le_length_drop hsum

/-- **A pass asks for the summaries of the slices of its working set**, as its plan cuts it. -/
theorem compact_slices (c : Config) (chat : Chat) (storage : Storage) (tags : TagStore)
    (working : List (Nat × Message)) :
    let plan := planChunks working.length c.chunkSize.toNat c.targetCompression.toNat
    (compact c chat storage tags working).Asks fun q => ∀ messages chapter,
      q = .compress messages chapter → IsSlice plan.chunks working messages := by
  intro plan
  have hpos : ∀ n ∈ plan.chunks, 0 < n := planChunks_pos _ _ _
  have hsum : plan.chunks.sum ≤ working.length := planChunks_sum_le _ _ _
  have hfold := foldChunks_slices plan.totalBatches
    (s := { storage, tags, left := working, report := .empty }) hpos hsum
  refine compact_asks_only (fun q hq messages chapter h => ?_) hfold fun record tags' =>
    saveState_asks_only nofun nofun
  subst h
  cases hq

/-! ## The plan -/

theorem Plan.isEmpty_iff {p : Plan} : p.isEmpty = true ↔ p.chunks = [] := List.isEmpty_iff

/-- A plan is empty exactly if it is not worthwhile. -/
theorem planChunks_isEmpty_iff {workingSet chunkSize percent : Nat}
    (hw : workingSet < Decimal.exactLimit) (hs : chunkSize < Decimal.exactLimit) :
    (planChunks workingSet chunkSize percent).isEmpty = true ↔
      ¬ worthwhile workingSet chunkSize percent := by
  refine ⟨fun hempty h => ?_, fun h => Plan.isEmpty_iff.mpr (planChunks_eq_nil hw hs h)⟩
  have hsum := planChunks_sum hw hs h
  rw [Plan.isEmpty_iff.mp hempty, List.sum_nil] at hsum
  unfold worthwhile at h
  omega

/-- **A plan in closed form, and the slices that are cut by it.** With numbers below `2^53`, a plan is for
    its share of the messages, rounded down. It is empty exactly if that is none, or if there is less than
    half a chunk of messages. Otherwise it is for the share, or for the first chunk if that is more, and
    never for more than there are: in full chunks and what is left, as many as needed. So every chunk of a
    plan holds a message, and ends where there still are messages; and these chunks are what a pass with
    such a plan gives to the compressor. -/
theorem plan_in_closed_form {workingSet chunkSize : Nat} (hw : workingSet < 2 ^ 53)
    (hs : chunkSize < 2 ^ 53) (percent : Nat) :
    let full := max chunkSize 1
    let target := workingSet * min percent 100 / 100
    let plan := planChunks workingSet chunkSize percent
    plan.targetMessages = target ∧
    (plan.isEmpty = true ↔ target = 0 ∨ 2 * workingSet < full) ∧
    (plan.isEmpty = false →
      plan.plannedMessages = max target (min full workingSet) ∧
      plan.plannedMessages ≤ workingSet ∧
      plan.totalBatches = plan.plannedMessages ⌈/⌉ full ∧
      (∀ n ∈ plan.chunks, 1 ≤ n ∧ n ≤ full) ∧ ∀ n ∈ plan.chunks.dropLast, n = full) ∧
    (∀ before size after, plan.chunks = before ++ size :: after →
      0 < size ∧ before.sum + size ≤ workingSet) ∧
    ∀ (c : Config) (chat : Chat) (storage : Storage) (tags : TagStore)
      (working : List (Nat × Message)), working.length = workingSet →
      c.chunkSize.toNat = chunkSize → c.targetCompression.toNat = percent →
      (compact c chat storage tags working).Asks fun q => ∀ messages chapter,
        q = .compress messages chapter → IsSlice plan.chunks working messages := by
  intro full target plan
  have hlimit : Decimal.exactLimit = 2 ^ 53 := rfl
  rw [← hlimit] at hw hs
  have hpositive : ∀ n ∈ plan.chunks, 0 < n := planChunks_pos _ _ _
  have hsum : plan.chunks.sum ≤ workingSet := planChunks_sum_le _ _ _
  have hempty : plan.isEmpty = true ↔ ¬ worthwhile workingSet chunkSize percent :=
    planChunks_isEmpty_iff hw hs
  refine ⟨rfl, ?_, fun hplan => ?_, ?_, ?_⟩
  · rw [hempty]
    show ¬ (1 ≤ target ∧ full ≤ 2 * workingSet) ↔ _
    omega
  · have hworth : worthwhile workingSet chunkSize percent := by
      by_contra hnot
      rw [hempty.mpr hnot] at hplan
      cases hplan
    have hchunks : plan.chunks = laterChunks full (max target (min full workingSet)) :=
      planChunks_eq_laterChunks hw hs hworth
    have hplanned : plan.plannedMessages = max target (min full workingSet) :=
      planChunks_sum hw hs hworth
    refine ⟨hplanned, hsum, ?_, fun n hn => ⟨hpositive n hn, ?_⟩, ?_⟩
    · rw [hplanned, Plan.totalBatches, hchunks]
      exact length_laterChunks (by omega) _
    · rw [hchunks] at hn
      exact (laterChunks_bounds _ _ n hn).2
    · rw [hchunks]
      exact laterChunks_full _ _
  · intro before size after hsplit
    rw [hsplit] at hpositive hsum
    rw [List.sum_append, List.sum_cons] at hsum
    exact ⟨hpositive size (by simp), by omega⟩
  · rintro c chat storage tags working rfl rfl rfl
    exact compact_slices c chat storage tags working

/-- Of fourteen messages a pass with standard settings is to cover seven. Its first chunk is a full one
    all the same, and the only one: ten of the messages go to the compressor. -/
theorem overshooting_plan :
    let plan := planChunks 14 10 55
    let working := List.replicate 14 (0, Message.blank)
    plan.targetMessages = 7 ∧ plan.isEmpty = false ∧ plan.plannedMessages = 10 ∧
    plan.totalBatches = 1 ∧ (∀ n ∈ plan.chunks, 1 ≤ n ∧ n ≤ 10) ∧
    (compact .standard .blank (.fresh .standard) .empty working).Asks fun q =>
      ∀ messages chapter, q = .compress messages chapter →
        IsSlice plan.chunks working messages := by
  intro plan working
  have hw : 14 < 2 ^ 53 := by decide
  have hs : 10 < 2 ^ 53 := by decide
  obtain ⟨htarget, hempty, hform, -, hslices⟩ := plan_in_closed_form hw hs 55
  have hplan : plan.isEmpty = false := by
    rw [Bool.eq_false_iff, ne_eq, hempty]
    decide
  obtain ⟨hplanned, -, hbatches, hsizes, -⟩ := hform hplan
  rw [hplanned] at hbatches
  exact ⟨htarget, hplan, hplanned, hbatches, hsizes,
    hslices .standard .blank (.fresh .standard) .empty working rfl rfl rfl⟩

end Recap
