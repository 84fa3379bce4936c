import Mathlib.Algebra.GroupWithZero.Nat
import Recap.Proofs.Engine.WorkingSet
import Recap.Proofs.Tag.Store

/-!
# Chapters

What a pass does to a record and to tags it does chapter by chapter. A `Chapter` holds what the answers
of the host contribute to one step: the text, the id and the time; with the chunk that was folded this
is all that the step depends on. A pass that has filed a list of chapters is in the state
`PassState.file`, and `file_eq` says what that state is, part by part, without the loop.

## Contents
- `Chapter`, `Chapter.summary`, `TagStore.markChapter` — one step.
- `PassState.file`, `file_eq` — all steps, in closed form.
- `tag?_markAll_of_mem`, `markAll_of_not_mem`, `keeps_markAll` — the tags after them.
- `Chapter.Files`, `appendAll_summaries` — the first tier after them.
- `Chapter.covers` — a summary reaches from the first to the last message of its chunk.
-/

namespace Recap

/-- A chunk that was folded into a summary. -/
structure Chapter where
  /-- The messages, with their positions in the chat. -/
  chunk : List (Nat × Message)
  id : String
  text : String
  time : Int64

namespace Chapter

/-- The summary of a chapter. A tier may give it a later time. -/
def summary (c : Chapter) : Summary := chunkSummary c.id c.text c.time c.chunk

/-- The tag of the messages of a chapter. -/
def tag (c : Chapter) : Tag := .summarized .chunk c.id c.time

/-- The ids of the messages of a chapter. -/
def messageIds (c : Chapter) : List String := c.chunk.map (·.2.id)

end Chapter

/-- The tags once a chapter is filed. -/
def TagStore.markChapter (t : TagStore) (c : Chapter) : TagStore :=
  c.chunk.foldl (fun tags p => tags.markSummarized p.2 .chunk c.id c.time) t

/-- The tags once all chapters are filed. -/
def TagStore.markAll (t : TagStore) (cs : List Chapter) : TagStore := cs.foldl TagStore.markChapter t

/-- The tier once all chapters are filed. -/
def Tier.appendAll (t : Tier) (cs : List Chapter) : Tier :=
  cs.foldl (fun t c => t.append c.summary) t

/-- A pass that goes on by these chapters. -/
def PassState.file (s : PassState) (cs : List Chapter) : PassState :=
  cs.foldl (fun s c => s.fold c.chunk.length c.id c.text c.time) s

/-- The messages of some chapters, in order. -/
def Chapter.covered (cs : List Chapter) : List (Nat × Message) := (cs.map (·.chunk)).flatten

/-! ## The state of a pass -/

/-- One chapter, filed from the front of what is left. -/
theorem fold_eq {s : PassState} {c : Chapter} {rest : List (Nat × Message)}
    (h : s.left = c.chunk ++ rest) :
    s.fold c.chunk.length c.id c.text c.time =
      { storage := { s.storage with level1 := s.storage.level1.append c.summary }
        tags := s.tags.markChapter c
        left := rest
        report :=
          { s.report with
            chunks := s.report.chunks + 1
            messagesCompacted := s.report.messagesCompacted + c.chunk.length
            summaryIds := s.report.summaryIds ++ [c.id] } } := by
  unfold PassState.fold Chapter.summary TagStore.markChapter
  rw [h, List.take_left, List.drop_left]

/-- **The state of a pass after some chapters**, part by part. -/
theorem file_eq {cs : List Chapter} {rest : List (Nat × Message)} {s : PassState}
    (h : s.left = Chapter.covered cs ++ rest) :
    s.file cs =
      { storage := { s.storage with level1 := s.storage.level1.appendAll cs }
        tags := s.tags.markAll cs
        left := rest
        report :=
          { s.report with
            chunks := s.report.chunks + cs.length
            messagesCompacted := s.report.messagesCompacted + (cs.map (·.chunk.length)).sum
            summaryIds := s.report.summaryIds ++ cs.map (·.id) } } := by
  induction cs generalizing s with
  | nil =>
    obtain ⟨storage, tags, left, report⟩ := s
    simp only [Chapter.covered, List.map_nil, List.flatten_nil, List.nil_append] at h
    subst h
    simp [PassState.file, TagStore.markAll, Tier.appendAll]
  | cons c cs ih =>
    -- the first chapter ends in a state that the others can be filed in: what is left begins with them
    have hc : s.left = c.chunk ++ (Chapter.covered cs ++ rest) := by
      rw [h, ← List.append_assoc]
      rfl
    have hstep : s.file (c :: cs) = (s.fold c.chunk.length c.id c.text c.time).file cs := rfl
    rw [hstep, fold_eq hc, ih rfl]
    simp [TagStore.markAll, Tier.appendAll, Nat.add_assoc, Nat.add_comm 1]

/-! ## Tags -/

/-- A chapter gives its messages its tag, and no other message another one. -/
theorem tag?_markChapter (t : TagStore) (c : Chapter) (id : String) :
    (t.markChapter c).tag? id = if id ∈ c.messageIds then some c.tag else t.tag? id := by
  obtain ⟨chunk, cid, text, time⟩ := c
  unfold TagStore.markChapter Chapter.messageIds Chapter.tag
  induction chunk generalizing t with
  | nil => rfl
  | cons p chunk ih =>
    rw [List.foldl_cons, ih, TagStore.markSummarized, TagStore.tag?_write]
    -- a message that is there twice gets the same tag twice, so the order of the cases does not matter
    by_cases hin : id ∈ chunk.map (·.2.id)
    · simp [hin]
    · by_cases hp : id = p.2.id <;> simp [hin, hp]

/-- All that a store holds after a chapter is the chapter's tag for the chapter's messages, and what it
    held before. -/
theorem keeps_markChapter {t : TagStore} {c : Chapter} {id : String} {u : Tag}
    (h : (t.markChapter c).Keeps id u) : id ∈ c.messageIds ∧ u = c.tag ∨ t.Keeps id u := by
  obtain ⟨chunk, cid, text, time⟩ := c
  unfold TagStore.markChapter Chapter.messageIds Chapter.tag at *
  induction chunk generalizing t with
  | nil => exact .inr h
  | cons p chunk ih =>
    rw [List.map_cons, List.mem_cons]
    rcases ih h with ⟨hin, hu⟩ | h
    · exact .inl ⟨.inr hin, hu⟩
    · rcases TagStore.keeps_write h with ⟨hid, hu⟩ | h
      · exact .inl ⟨.inl hid, hu⟩
      · exact .inr h

/-- What is kept for the swipes of other messages stays. -/
theorem swipeTag?_markChapter {t : TagStore} {c : Chapter} {id : String} (h : id ∉ c.messageIds)
    (k : UInt64) : (t.markChapter c).swipeTag? id k = t.swipeTag? id k := by
  obtain ⟨chunk, cid, text, time⟩ := c
  unfold TagStore.markChapter Chapter.messageIds at *
  induction chunk generalizing t with
  | nil => rfl
  | cons p chunk ih =>
    rw [List.map_cons, List.mem_cons, not_or] at h
    rw [List.foldl_cons, ih h.2, TagStore.markSummarized, TagStore.swipeTag?_write]
    simp [h.1]

/-- **A message outside all chapters keeps its tag**, and what is kept for its swipes. -/
theorem markAll_of_not_mem {t : TagStore} {cs : List Chapter} {id : String}
    (h : ∀ c ∈ cs, id ∉ c.messageIds) :
    (t.markAll cs).tag? id = t.tag? id ∧
      ∀ k, (t.markAll cs).swipeTag? id k = t.swipeTag? id k := by
  unfold TagStore.markAll
  induction cs generalizing t with
  | nil => exact ⟨rfl, fun _ => rfl⟩
  | cons c cs ih =>
    have hc : id ∉ c.messageIds := h c (by simp)
    obtain ⟨htag, hswipe⟩ := ih (t := t.markChapter c) fun d hd => h d (by simp [hd])
    refine ⟨?_, fun k => ?_⟩
    · rw [List.foldl_cons, htag, tag?_markChapter, if_neg hc]
    · rw [List.foldl_cons, hswipe, swipeTag?_markChapter hc]

/-- **A message of a chapter carries the chapter's tag**, where no message is in two places. -/
theorem tag?_markAll_of_mem {t : TagStore} {cs : List Chapter} {c : Chapter} {id : String}
    (distinct : ((Chapter.covered cs).map (·.2.id)).Nodup) (hc : c ∈ cs)
    (hid : id ∈ c.messageIds) : (t.markAll cs).tag? id = some c.tag := by
  unfold TagStore.markAll
  induction cs generalizing t with
  | nil => cases hc
  | cons d cs ih =>
    have hsplit : (Chapter.covered (d :: cs)).map (·.2.id)
        = d.messageIds ++ (Chapter.covered cs).map (·.2.id) := by
      simp [Chapter.covered, Chapter.messageIds]
    rw [hsplit] at distinct
    obtain ⟨-, hcs, hapart⟩ := List.nodup_append.mp distinct
    rw [List.foldl_cons]
    rcases List.mem_cons.mp hc with rfl | hc
    · -- no later chapter has the message, so none overwrites its tag
      have hlater : ∀ e ∈ cs, id ∉ e.messageIds := by
        intro e he hide
        refine hapart id hid id ?_ rfl
        obtain ⟨p, hp, rfl⟩ := List.mem_map.mp hide
        exact List.mem_map.mpr ⟨p, List.mem_flatten.mpr ⟨_, List.mem_map.mpr ⟨e, he, rfl⟩, hp⟩, rfl⟩
      have h := (markAll_of_not_mem (t := t.markChapter c) hlater).1
      unfold TagStore.markAll at h
      rw [h, tag?_markChapter, if_pos hid]
    · exact ih hcs hc

/-- All that a store holds after some chapters comes from one of them, or was there before. -/
theorem keeps_markAll {t : TagStore} {cs : List Chapter} {id : String} {u : Tag}
    (h : (t.markAll cs).Keeps id u) :
    (∃ c ∈ cs, id ∈ c.messageIds ∧ u = c.tag) ∨ t.Keeps id u := by
  unfold TagStore.markAll at h
  induction cs generalizing t with
  | nil => exact .inr h
  | cons c cs ih =>
    rcases ih h with ⟨d, hd, hu⟩ | h
    · exact .inl ⟨d, by simp [hd], hu⟩
    · rcases keeps_markChapter h with hu | h
      · exact .inl ⟨c, by simp, hu⟩
      · exact .inr h

/-! ## Summaries -/

/-- The summary is the one of the chapter, except that its time may be later. -/
structure Chapter.Files (c : Chapter) (s : Summary) : Prop where
  same : s = { c.summary with timestamp := s.timestamp }
  time : c.time ≤ s.timestamp

namespace Chapter.Files

variable {c : Chapter} {s : Summary}

theorem id (h : c.Files s) : s.id = c.id := by rw [h.same]; rfl

theorem text (h : c.Files s) : s.text = c.text := by rw [h.same]; rfl

theorem tokenCount (h : c.Files s) : s.tokenCount = .ofNat (Text.estimateTokens c.text) := by
  rw [h.same]
  rfl

theorem startIndex (h : c.Files s) : s.startIndex = c.summary.startIndex := by rw [h.same]

theorem endIndex (h : c.Files s) : s.endIndex = c.summary.endIndex := by rw [h.same]

end Chapter.Files

/-- What is added to a tier is what was given, perhaps at a later time. -/
theorem files_notBefore (c : Chapter) (last : Option Summary) :
    c.Files (Tier.notBefore last c.summary) := by
  cases last with
  | none => exact ⟨rfl, Int64.le_refl _⟩
  | some l =>
    refine ⟨rfl, ?_⟩
    show c.time ≤ if c.time ≤ l.timestamp then l.timestamp else c.time
    split
    · assumption
    · exact Int64.le_refl _

/-- **The first tier grows by one summary for each chapter**, in order, and loses none. -/
theorem appendAll_summaries (t : Tier) (cs : List Chapter) :
    ∃ new, (t.appendAll cs).summaries = t.summaries ++ new ∧
      List.Forall₂ Chapter.Files cs new := by
  unfold Tier.appendAll
  induction cs generalizing t with
  | nil => exact ⟨[], by simp, .nil⟩
  | cons c cs ih =>
    obtain ⟨new, hnew, hfiles⟩ := ih (t.append c.summary)
    refine ⟨Tier.notBefore t.summaries.getLast? c.summary :: new, ?_,
      .cons (files_notBefore c _) hfiles⟩
    rw [List.foldl_cons, hnew]
    simp [Tier.append]

/-- What is related pairwise has a partner on the other side. -/
theorem exists_partner {α β : Type} {R : α → β → Prop} {as : List α} {bs : List β}
    (h : List.Forall₂ R as bs) {a : α} (ha : a ∈ as) : ∃ b ∈ bs, R a b := by
  induction h with
  | nil => cases ha
  | cons hfirst _ ih =>
    rcases List.mem_cons.mp ha with rfl | ha
    · exact ⟨_, List.mem_cons_self, hfirst⟩
    · obtain ⟨b, hb, hab⟩ := ih ha
      exact ⟨b, List.mem_cons_of_mem _ hb, hab⟩

/-- What is related pairwise in one way is so in another way that follows from it. -/
theorem forall₂_imp_of_mem {α β : Type} {R S : α → β → Prop} {as : List α} {bs : List β}
    (h : List.Forall₂ R as bs) (himp : ∀ a ∈ as, ∀ b, R a b → S a b) : List.Forall₂ S as bs := by
  induction h with
  | nil => exact .nil
  | cons hfirst _ ih =>
    refine .cons (himp _ List.mem_cons_self _ hfirst) (ih fun a ha => himp a ?_)
    exact List.mem_cons_of_mem _ ha

/-- What a summary has from its chapter, the summaries have from their chapters. -/
theorem Chapter.map_of_files {β : Type} {f : Summary → β} {g : Chapter → β} {cs : List Chapter}
    {new : List Summary} (h : List.Forall₂ Chapter.Files cs new)
    (hfg : ∀ c s, c.Files s → f s = g c) : new.map f = cs.map g := by
  induction h with
  | nil => rfl
  | cons hfirst _ ih => rw [List.map_cons, List.map_cons, hfg _ _ hfirst, ih]

/-- The summaries have the ids that were given out for the chapters. -/
theorem Chapter.ids_of_files {cs : List Chapter} {new : List Summary}
    (h : List.Forall₂ Chapter.Files cs new) : new.map (·.id) = cs.map (·.id) :=
  map_of_files h fun _ _ hfile => hfile.id

/-! ## Positions -/

/-- A summary begins at the first message of its chunk. -/
theorem Chapter.startIndex_toNat {c : Chapter} {p : Nat × Message} (h : c.chunk.head? = some p)
    (fits : p.1 < UInt64.size) : c.summary.startIndex.toNat = p.1 := by
  have hstart : c.summary.startIndex = .ofNat p.1 := by
    simp [Chapter.summary, chunkSummary, h]
  rw [hstart]
  exact UInt64.toNat_ofNat_of_lt' fits

/-- A summary ends at the last message of its chunk. -/
theorem Chapter.endIndex_toNat {c : Chapter} {p : Nat × Message} (h : c.chunk.getLast? = some p)
    (fits : p.1 < UInt64.size) : c.summary.endIndex.toNat = p.1 := by
  have hend : c.summary.endIndex = .ofNat p.1 := by
    simp [Chapter.summary, chunkSummary, h]
  rw [hend]
  exact UInt64.toNat_ofNat_of_lt' fits

/-- **A summary reaches from the first to the last message of its chunk**, and so over all of them. -/
theorem Chapter.covers {c : Chapter} (ascending : c.chunk.Pairwise (·.1 < ·.1))
    (fits : ∀ p ∈ c.chunk, p.1 < UInt64.size) {p : Nat × Message} (hp : p ∈ c.chunk) :
    c.summary.startIndex.toNat ≤ p.1 ∧ p.1 ≤ c.summary.endIndex.toNat := by
  have hne : c.chunk ≠ [] := List.ne_nil_of_mem hp
  have hfirst := List.head?_eq_some_head hne
  have hlast := List.getLast?_eq_some_getLast hne
  rw [startIndex_toNat hfirst (fits _ (List.head_mem hne)),
    endIndex_toNat hlast (fits _ (List.getLast_mem hne))]
  exact ⟨head_le_of_ascending ascending hfirst hp, le_getLast_of_ascending ascending hlast hp⟩

end Recap
