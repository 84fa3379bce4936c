import Recap.Proofs.Tag.Store

/-!
# Stores that come about by changes

Three operations change a tag store, and each of them writes one tag for one message, or nothing. A tag
that is written is made for the occasion, or it is one that the store kept for the message already
(`TagChange.apply_cases`). So whatever is true of tags that are made is true of all tags of a store that
came about by changes: level, summary and time are in a tag together, or none of them is.

A write goes to the swipe that the message shows as well, and no other message has a part in it. Until the
next write for the message its tag is therefore the one that is kept for that swipe
(`tag?_after_of_writes`).

## Contents
- `Tag.WellFormed`, `Tag.wellFormed_iff` — tags that fit together.
- `TagChange`, `TagChange.apply`, `TagChange.Writes` — the operations, and whether one of them writes.
- `TagStore.after` — the store that a sequence of changes leaves.
- `wellFormed_after`, `tag?_after_of_writes` — its tags.
-/

namespace Recap

/-! ## Tags that fit together -/

namespace Tag

/-- Level, summary and time are in the tag together, or none of them is, and just then the message itself
    goes into the prompt. -/
structure WellFormed (t : Tag) : Prop where
  summaryId : t.level = none ↔ t.summaryId = none
  included : t.summaryId = none ↔ t.included = true
  timestamp : t.included = true ↔ t.timestamp = none

theorem wellFormed_active : active.WellFormed := by
  constructor <;> simp [active]

theorem wellFormed_summarized (level : Level) (summaryId : String) (now : Int64) :
    (summarized level summaryId now).WellFormed := by
  constructor <;> simp [summarized]

/-- **The tags that fit together are the active one and those of summaries.** -/
theorem wellFormed_iff {t : Tag} :
    t.WellFormed ↔ t = active ∨ ∃ level summaryId now, t = summarized level summaryId now := by
  constructor
  · obtain ⟨level, summaryId, included, timestamp⟩ := t
    rintro ⟨hsummary, hincluded, htime⟩
    cases level with
    | none =>
      obtain rfl : summaryId = none := hsummary.mp rfl
      obtain rfl : included = true := hincluded.mp rfl
      obtain rfl : timestamp = none := htime.mp rfl
      exact .inl rfl
    | some level =>
      cases summaryId with
      | none => cases hsummary.mpr rfl
      | some summaryId =>
        cases included with
        | true => cases hincluded.mpr rfl
        | false =>
          cases timestamp with
          | none => cases htime.mpr rfl
          | some now => exact .inr ⟨level, summaryId, now, rfl⟩
  · rintro (rfl | ⟨level, summaryId, now, rfl⟩)
    · exact wellFormed_active
    · exact wellFormed_summarized level summaryId now

end Tag

/-! ## Changes -/

/-- A change of a tag store, on behalf of a message as it is shown at that moment. -/
inductive TagChange where
  /-- The message is folded into a summary. -/
  | summarize (m : Message) (level : Level) (summaryId : String) (now : Int64)
  /-- No summary stands for the message any more. -/
  | activate (m : Message)
  /-- The message has come to show its swipe. -/
  | restore (m : Message)

namespace TagChange

/-- The message that is changed for. -/
def message : TagChange → Message
  | summarize m _ _ _ => m
  | activate m => m
  | restore m => m

/-- The store after the change. -/
def apply (s : TagStore) : TagChange → TagStore
  | summarize m level summaryId now => s.markSummarized m level summaryId now
  | activate m => s.markActive m
  | restore m => s.restored m

/-- Whether a tag is written. A swipe that the message has the tag of already is not restored. -/
def Writes (s : TagStore) : TagChange → Prop
  | restore m => (s.restoreSwipe? m).isSome = true
  | _ => True

instance (s : TagStore) : (c : TagChange) → Decidable (c.Writes s)
  | summarize .. => inferInstanceAs (Decidable True)
  | activate _ => inferInstanceAs (Decidable True)
  | restore m => inferInstanceAs (Decidable ((s.restoreSwipe? m).isSome = true))

/-- A tag that is written for a message: one that is made, or one that the store kept for the message. -/
def Makes (s : TagStore) (m : Message) (t : Tag) : Prop := t.WellFormed ∨ s.Keeps m.id t

/-- **A change writes a tag for its message, or it does nothing.** -/
theorem apply_cases (c : TagChange) (s : TagStore) :
    c.Writes s ∧ (∃ t, Makes s c.message t ∧ c.apply s = s.write c.message t) ∨
      ¬ c.Writes s ∧ c.apply s = s := by
  cases c with
  | summarize m level summaryId now =>
    exact .inl ⟨trivial, _, .inl (Tag.wellFormed_summarized level summaryId now), rfl⟩
  | activate m => exact .inl ⟨trivial, _, .inl Tag.wellFormed_active, rfl⟩
  | restore m =>
    cases hr : s.restoreSwipe? m with
    | none =>
      refine .inr ⟨?_, TagStore.restored_of_none hr⟩
      rw [Writes, hr]
      exact Bool.false_ne_true
    | some s' =>
      obtain ⟨k, -, -, rfl⟩ := TagStore.restoreSwipe?_eq_some hr
      refine .inl ⟨?_, s.swipeTag m k, ?_, ?_⟩
      · rw [Writes, hr]
        rfl
      · rcases s.swipeTag_keeps m k with hactive | hkeeps
        · exact .inl (hactive ▸ Tag.wellFormed_active)
        · exact .inr hkeeps
      · rw [apply, TagStore.restored, hr]
        rfl

variable {s : TagStore} {c : TagChange}

/-- A change keeps well-formed tags well-formed. -/
theorem wellFormed_apply (hs : ∀ id t, s.Keeps id t → t.WellFormed) (c : TagChange) {id : String} {t : Tag}
    (ht : (c.apply s).Keeps id t) : t.WellFormed := by
  rcases c.apply_cases s with ⟨-, u, hu, heq⟩ | ⟨-, heq⟩
  · rw [heq] at ht
    -- the tag is the one that was written, or it was there before
    rcases TagStore.keeps_write ht with ⟨-, rfl⟩ | ht
    · exact hu.elim (fun hmade => hmade) (hs _ _)
    · exact hs _ _ ht
  · rw [heq] at ht
    exact hs _ _ ht

/-- Messages with other ids keep their tags, and so do their swipes. -/
theorem tag?_apply_of_ne {id : String} (hid : id ≠ c.message.id) :
    (c.apply s).tag? id = s.tag? id ∧ ∀ k, (c.apply s).swipeTag? id k = s.swipeTag? id k := by
  rcases c.apply_cases s with ⟨-, u, -, heq⟩ | ⟨-, heq⟩
  · rw [heq]
    exact ⟨by rw [TagStore.tag?_write, if_neg hid],
      fun k => by rw [TagStore.swipeTag?_write, if_neg fun h => hid h.1]⟩
  · rw [heq]
    exact ⟨rfl, fun _ => rfl⟩

/-- **What is written for a message is kept for the swipe that it shows.** -/
theorem tag?_apply_of_writes (hc : c.Writes s) {k : UInt64} (hk : c.message.activeSwipe = some k) :
    ∃ t, (c.apply s).tag? c.message.id = some t ∧ (c.apply s).swipeTag? c.message.id k = some t := by
  rcases c.apply_cases s with ⟨-, t, -, heq⟩ | ⟨hnot, -⟩
  · refine ⟨t, ?_, ?_⟩
    · rw [heq, TagStore.tag?_write, if_pos rfl]
    · rw [heq, TagStore.swipeTag?_write, if_pos ⟨rfl, hk⟩]
  · exact absurd hc hnot

end TagChange

/-! ## Sequences of changes -/

namespace TagStore

/-- The store that changes leave, one after the other. Nothing is tagged at first. -/
def after (changes : List TagChange) : TagStore := changes.foldl TagChange.apply .empty

theorem after_append (before later : List TagChange) :
    after (before ++ later) = later.foldl TagChange.apply (after before) := List.foldl_append

theorem after_concat (changes : List TagChange) (c : TagChange) :
    after (changes ++ [c]) = c.apply (after changes) := after_append changes [c]

/-- Changes keep well-formed tags well-formed. -/
theorem wellFormed_foldl {changes : List TagChange} {s : TagStore}
    (hs : ∀ id t, s.Keeps id t → t.WellFormed) :
    ∀ id t, (changes.foldl TagChange.apply s).Keeps id t → t.WellFormed := by
  induction changes generalizing s with
  | nil => exact hs
  | cons c changes ih => exact ih fun id t => TagChange.wellFormed_apply hs c

/-- **All tags that changes leave are well-formed**, those of messages as well as those of swipes. -/
theorem wellFormed_after (changes : List TagChange) {id : String} {t : Tag}
    (ht : (after changes).Keeps id t) : t.WellFormed :=
  wellFormed_foldl (fun id t h => absurd h (not_keeps_empty id t)) id t ht

/-- Changes for messages with other ids leave the tags of a message alone. -/
theorem tag?_foldl_of_ne {changes : List TagChange} {id : String}
    (hid : ∀ c ∈ changes, id ≠ c.message.id) (s : TagStore) :
    (changes.foldl TagChange.apply s).tag? id = s.tag? id ∧
      ∀ k, (changes.foldl TagChange.apply s).swipeTag? id k = s.swipeTag? id k := by
  induction changes generalizing s with
  | nil => exact ⟨rfl, fun _ => rfl⟩
  | cons c changes ih =>
    obtain ⟨htag, hswipes⟩ := ih (fun d hd => hid d (List.mem_cons_of_mem _ hd)) (c.apply s)
    obtain ⟨htag', hswipes'⟩ := TagChange.tag?_apply_of_ne (s := s) (hid c List.mem_cons_self)
    exact ⟨htag.trans htag', fun k => (hswipes k).trans (hswipes' k)⟩

/-- **Until the next change for a message, its tag is the one of the swipe that it was written for.** -/
theorem tag?_after_of_writes {before later : List TagChange} {c : TagChange} {k : UInt64}
    (hc : c.Writes (after before)) (hk : c.message.activeSwipe = some k)
    (hlater : ∀ d ∈ later, d.message.id ≠ c.message.id) :
    ∃ t, (after (before ++ c :: later)).tag? c.message.id = some t ∧
      (after (before ++ c :: later)).swipeTag? c.message.id k = some t := by
  obtain ⟨t, htag, hswipe⟩ := TagChange.tag?_apply_of_writes hc hk
  obtain ⟨htag', hswipes'⟩ :=
    tag?_foldl_of_ne (fun d hd => Ne.symm (hlater d hd)) (c.apply (after before))
  rw [after_append, List.foldl_cons]
  exact ⟨t, htag'.trans htag, (hswipes' k).trans hswipe⟩

end TagStore

end Recap
