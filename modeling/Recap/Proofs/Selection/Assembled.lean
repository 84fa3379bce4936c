import Mathlib.Algebra.Order.Floor.Div
import Recap.Proofs.Selection.Fit

/-!
# The length of an assembled text

A budget pays for the texts that are told, and for nothing else: headings, line breaks and blank lines
come on top. They are counted here. Every part of a text takes its own length and a line break, and only
the last break is missing (`length_intercalate`), so a text is measured section by section: a story takes
seventeen characters more than it has, and a tier takes two more than its heading, and one for each of its
summaries. All headings together come to fifty-four characters, and a text goes beyond its budget
by no more than these and the breaks are estimated at (`assembled_text_keeps_budget`).

## Contents
- `lines`, `length_intercalate` — the length of parts that are joined.
- `lines_storySection`, `lines_tierSection` — the sections.
- `Context.length_assemble`, `Context.length_assemble_le`, `Context.assemble_eq_empty_iff` — the whole text.
- `assembled_text_keeps_budget` — the text of what fits into a budget.
- `short_record_overshoots` — four tokens that are told in sixteen.
-/

namespace Recap

/-! ## Parts -/

/-- The length of parts that are lines each. -/
def lines (parts : List String) : Nat := (parts.map (·.length + 1)).sum

@[simp] theorem lines_nil : lines [] = 0 := rfl

@[simp] theorem lines_cons (part : String) (parts : List String) :
    lines (part :: parts) = part.length + 1 + lines parts := by
  rw [lines, List.map_cons, List.sum_cons]
  rfl

@[simp] theorem lines_append (parts parts' : List String) :
    lines (parts ++ parts') = lines parts + lines parts' := by
  rw [lines, List.map_append, List.sum_append]
  rfl

/-- **Joined parts are lines, but for the break after the last.** -/
theorem length_intercalate (parts : List String) :
    ("\n".intercalate parts).length = lines parts - 1 := by
  induction parts with
  | nil => rfl
  | cons part parts ih =>
    cases parts with
    | nil =>
      rw [String.intercalate_singleton, lines_cons, lines_nil]
      omega
    | cons next parts =>
      have hbreak : "\n".length = 1 := by decide
      rw [String.intercalate_cons_cons, String.length_append, String.length_append, ih, hbreak]
      simp only [lines_cons]
      omega

/-! ## Sections -/

/-- The length of the texts of some summaries. -/
def textLength (ss : List Summary) : Nat := (ss.map (·.text.length)).sum

theorem lines_map_text (ss : List Summary) : lines (ss.map (·.text)) = textLength ss + ss.length := by
  induction ss with
  | nil => rfl
  | cons s ss ih =>
    rw [List.map_cons, lines_cons, ih, textLength, textLength, List.map_cons, List.sum_cons,
      List.length_cons]
    omega

/-- A story that is told, or the empty text. -/
def Context.storyText (c : Context) : String := c.story.getD ""

/-- A story takes a heading and two line breaks more than it has. -/
theorem lines_storySection (c : Context) :
    lines c.storySection = if c.storyText = "" then 0 else c.storyText.length + 17 := by
  unfold Context.storySection Context.storyText
  cases c.story with
  | none => rfl
  | some story =>
    by_cases hempty : story = ""
    · subst hempty
      rfl
    · have hheading : "[Story So Far]\n".length = 15 := by decide
      have hbreak : "\n".length = 1 := by decide
      have hne : story.isEmpty = false := by
        rw [Bool.eq_false_iff, ne_eq, String.isEmpty_iff]
        exact hempty
      simp only [hne, Option.getD_some, if_neg hempty, Bool.false_eq_true, if_false]
      rw [lines_cons, lines_nil, String.length_append, String.length_append, hheading, hbreak]
      omega

/-- A tier takes a heading, a line break for each of its summaries and two more. -/
theorem lines_tierSection (heading : String) (ss : List Summary) :
    lines (Context.tierSection heading ss)
      = if ss = [] then 0 else textLength ss + ss.length + heading.length + 2 := by
  unfold Context.tierSection
  by_cases hempty : ss = []
  · simp [hempty]
  · have hblank : "".length = 0 := rfl
    have hne : ss.isEmpty = false := by
      rw [Bool.eq_false_iff, ne_eq, List.isEmpty_iff]
      exact hempty
    rw [hne, if_neg hempty, if_neg Bool.false_ne_true, List.cons_append, lines_cons, lines_append,
      lines_map_text, lines_cons, lines_nil, hblank]
    omega

/-! ## The whole text -/

namespace Context

/-- **The length of a text**, section by section. -/
theorem length_assemble (c : Context) :
    c.assemble.length =
      (if c.storyText = "" then 0 else c.storyText.length + 17) +
      (if c.level2 = [] then 0 else textLength c.level2 + c.level2.length + 21) +
      (if c.level1 = [] then 0 else textLength c.level1 + c.level1.length + 17) - 1 := by
  have hchapters : "[Previous Chapters]".length = 19 := by decide
  have hevents : "[Recent Events]".length = 15 := by decide
  rw [assemble, length_intercalate, lines_append, lines_append, lines_storySection,
    lines_tierSection, lines_tierSection, hchapters, hevents]

/-- What a text has besides what is told: the headings and breaks of all sections at most. -/
theorem length_assemble_le (c : Context) :
    c.assemble.length ≤ c.storyText.length + textLength c.level2 + textLength c.level1
      + (54 + c.level1.length + c.level2.length) := by
  rw [length_assemble]
  split <;> split <;> split <;> omega

/-- **With all of its sections, a text has all of the headings and breaks.** -/
theorem length_assemble_of_full {c : Context} (hstory : c.storyText ≠ "") (h₁ : c.level1 ≠ [])
    (h₂ : c.level2 ≠ []) :
    c.assemble.length = c.storyText.length + textLength c.level2 + textLength c.level1
      + (54 + c.level1.length + c.level2.length) := by
  rw [length_assemble, if_neg hstory, if_neg h₁, if_neg h₂]
  omega

theorem isEmpty_iff {c : Context} :
    c.isEmpty = true ↔ c.storyText = "" ∧ c.level2 = [] ∧ c.level1 = [] := by
  unfold isEmpty storyText
  cases c.story with
  | none => simp
  | some story => simp [and_assoc]

/-- **A text is empty exactly if there is nothing to tell.** -/
theorem assemble_eq_empty_iff (c : Context) : c.assemble = "" ↔ c.isEmpty = true := by
  rw [isEmpty_iff, ← String.length_eq_zero_iff, length_assemble]
  constructor
  · -- a section that is there takes more than the one break that is missing at the end
    intro hlength
    refine ⟨?_, ?_, ?_⟩ <;> by_contra hne <;> rw [if_neg hne] at hlength <;> omega
  · rintro ⟨hstory, h₂, h₁⟩
    rw [if_pos hstory, if_pos h₂, if_pos h₁]

end Context

/-! ## Estimates -/

/-- No text is longer than it is estimated at. -/
theorem Text.length_le_estimateTokens (s : String) : s.length ≤ 4 * estimateTokens s := by
  have hchars : charsPerToken = 4 := rfl
  rw [estimateTokens, hchars]
  omega

/-- Where each summary counts no less than its text is estimated at, all texts keep to all counts. -/
theorem textLength_le_cost {ss : List Summary}
    (counted : ∀ s ∈ ss, Text.estimateTokens s.text ≤ s.tokenCount.toNat) :
    textLength ss ≤ 4 * Tier.cost ss := by
  induction ss with
  | nil => exact Nat.le_refl 0
  | cons s ss ih =>
    obtain ⟨hs, hss⟩ := List.forall_mem_cons.mp counted
    have hlength := Text.length_le_estimateTokens s.text
    have hrest := ih hss
    rw [textLength] at hrest ⊢
    rw [List.map_cons, List.sum_cons, Tier.cost_cons]
    omega

/-- **A text is estimated at what its context counts, and its headings and breaks.** -/
theorem Context.estimateTokens_assemble_le {c : Context}
    (counted : ∀ s ∈ c.level1 ++ c.level2, Text.estimateTokens s.text ≤ s.tokenCount.toNat) :
    Text.estimateTokens c.assemble
      ≤ c.tokenCount + (54 + c.level1.length + c.level2.length) ⌈/⌉ 4 := by
  have hstory : c.storyText.length ≤ 4 * (c.story.map Text.estimateTokens).getD 0 := by
    unfold storyText
    cases c.story with
    | none => exact Nat.le_refl 0
    | some story => exact Text.length_le_estimateTokens story
  have h₁ := textLength_le_cost fun s hs => counted s (List.mem_append_left _ hs)
  have h₂ := textLength_le_cost fun s hs => counted s (List.mem_append_right _ hs)
  have hlength := c.length_assemble_le
  have hchars : Text.charsPerToken = 4 := rfl
  rw [Nat.ceilDiv_eq_add_pred_div, Text.estimateTokens, hchars, tokenCount]
  omega

/-- **What an assembled text is over its budget.** In a record whose summaries count no less than their
    texts are estimated at, what fits into a budget is told in a text that is estimated at no more than the
    budget, the headings of all sections, and a line break for each summary. The text is empty exactly if
    nothing was chosen; and if a story and summaries of both tiers were chosen, then the headings and
    breaks are what it has besides their texts. -/
theorem assembled_text_keeps_budget {s : Storage}
    (counted : ∀ x ∈ s.level1.summaries ++ s.level2.summaries,
      Text.estimateTokens x.text ≤ x.tokenCount.toNat)
    (counts₁ : s.level1.totalTokens < 2 ^ 63) (counts₂ : s.level2.totalTokens < 2 ^ 63)
    {budget : Int} (room : 0 ≤ budget) :
    let c := buildContext s budget
    let headers := 54 + c.level1.length + c.level2.length
    (Text.estimateTokens c.assemble : Int) ≤ budget + (headers ⌈/⌉ 4 : Nat) ∧
    (c.assemble = "" ↔ c.isEmpty = true) ∧
    (∀ story, c.story = some story → c.level1 ≠ [] → c.level2 ≠ [] →
      c.assemble.length = story.length + textLength c.level2 + textLength c.level1 + headers) := by
  intro c headers
  refine ⟨?_, c.assemble_eq_empty_iff, fun story hstory h₁ h₂ => ?_⟩
  · have hcounted : ∀ x ∈ c.level1 ++ c.level2, Text.estimateTokens x.text ≤ x.tokenCount.toNat := by
      intro x hx
      refine counted x (List.mem_append.mpr ((List.mem_append.mp hx).imp ?_ ?_))
      · exact fun hx => selectWithin_subset _ _ hx
      · exact fun hx => selectWithin_subset _ _ hx
    have htokens : (c.tokenCount : Int) ≤ budget := buildContext_tokenCount_le counts₁ counts₂ room
    have htext : Text.estimateTokens c.assemble ≤ c.tokenCount + headers ⌈/⌉ 4 :=
      Context.estimateTokens_assemble_le hcounted
    omega
  · have htold : c.storyText = story := by
      rw [Context.storyText, hstory, Option.getD_some]
    have hne : c.storyText ≠ "" := by
      rw [htold]
      exact (storyWithin_eq_some_iff.mp hstory).2.1
    rw [← htold]
    exact Context.length_assemble_of_full hne h₁ h₂

/-- Story, chapters and section of the short record are estimated at one token each, and the four of them
    fit into a budget of four. They are told in a text of sixty-four characters, or sixteen tokens. -/
theorem short_record_overshoots :
    let c := buildContext .short 4
    (∀ x ∈ Storage.short.level1.summaries ++ Storage.short.level2.summaries,
      Text.estimateTokens x.text ≤ x.tokenCount.toNat) ∧
    Storage.short.level1.totalTokens < 2 ^ 63 ∧ Storage.short.level2.totalTokens < 2 ^ 63 ∧
    c.tokenCount = 4 ∧ c.assemble.length = 64 ∧ c.assemble ≠ "" ∧
    (Text.estimateTokens c.assemble : Int) ≤ 4 + 15 := by
  intro c
  have hcounted : ∀ x ∈ Storage.short.level1.summaries ++ Storage.short.level2.summaries,
      Text.estimateTokens x.text ≤ x.tokenCount.toNat := by
    decide
  have hcounts₁ : Storage.short.level1.totalTokens < 2 ^ 63 := by decide
  have hcounts₂ : Storage.short.level2.totalTokens < 2 ^ 63 := by decide
  have hroom : (0 : Int) ≤ 4 := by decide
  obtain ⟨htokens, hempty, hlength⟩ :=
    assembled_text_keeps_budget hcounted hcounts₁ hcounts₂ hroom
  -- the story takes one token, the chapters two, and the section the last one
  have hstory : storyWithin { summary := some "Once" } 4 = some "Once" := by decide
  have hthree : (4 : Int) - storyCost (some "Once") = 3 := by decide
  have hlevel1 : selectWithin (Tier.pair 2).summaries 3
      = [.small "a" "A" 1, .small "b" "B" 2] := by cbv
  have hone : (3 : Int) - costOf [.small "a" "A" 1, .small "b" "B" 2] = 1 := by decide
  have hlevel2 : selectWithin (Tier.empty.append (.small "s" "S" 0)).summaries 1
      = [.small "s" "S" 0] := by cbv
  have hc : c = { story := some "Once", level2 := [.small "s" "S" 0],
                  level1 := [.small "a" "A" 1, .small "b" "B" 2] } := by
    simp only [c, buildContext, Storage.short, hstory, hthree, hlevel1, hone, hlevel2]
  rw [show buildContext .short 4 = _ from hc] at htokens hempty hlength
  refine ⟨hcounted, hcounts₁, hcounts₂, ?_, ?_, ?_, ?_⟩
  · rw [hc]
    rfl
  · rw [hc]
    exact hlength "Once" rfl (by simp) (by simp)
  · rw [hc, ne_eq, hempty]
    decide
  · rw [hc]
    exact htokens

end Recap
