import Mathlib.Algebra.GroupWithZero.Nat
import Mathlib.Data.List.SplitLengths
import Recap.Proofs.Engine.PassEffect
import Recap.Proofs.Engine.Reliable
import Recap.Proofs.Text.Words

/-!
# What one pass does

The other modules say what a pass can do on a host of any kind. On a host whose loads and saves go well
nothing is left open but the compressor's replies, and those decide everything: the pass goes through
the slices of its working set in the order of the chat, and stops before the first that comes back
without text. `perform_on_reliable_host` says what has been saved then, and what is reported.

A compressor is any function of the slice, the chapter number and its own memory. Which of its replies
count is said by `replies` and `tells`, without the pass.

## Contents
- `replies`, `tells` — the compressor, asked for slice after slice.
- `Chapter.front_of_slices`, `Chapter.nonempty_of_slices` — chapters of the first slices.
- `foldChunks_reliable`, `saveState_reliable` — the parts of a pass.
- `perform_on_reliable_host` — the whole of it.
-/

namespace Recap

open Dialogue (answering)

variable {σ τ : Type}

/-! ## The compressor -/

/-- The replies of a compressor that is asked for slice after slice, the first one being chapter
    `chapter`. -/
def replies (compress : List Message → Nat → τ → Option String × τ) :
    Nat → List (List Message) → τ → List (Option String)
  | _, [], _ => []
  | chapter, slice :: slices, mind =>
    (compress slice chapter mind).1
      :: replies compress (chapter + 1) slices (compress slice chapter mind).2

/-- Whether a reply has a text that something is left of when it is trimmed. -/
def tells (reply : Option String) : Bool := reply.any fun text => Text.trim text != ""

theorem tells_some (text : String) : tells (some text) = !Text.allBlank text := by
  unfold tells
  rw [Option.any_some, Bool.eq_iff_iff]
  rw [bne_iff_ne, Ne, Text.trim_eq_empty_iff]
  cases Text.allBlank text <;> decide

/-- Slices of a list whose elements are looked at in another way. -/
theorem map_splitLengths {α β : Type} (f : α → β) (sizes : List Nat) (l : List α) :
    (sizes.splitLengths l).map (List.map f) = sizes.splitLengths (l.map f) := by
  induction sizes generalizing l with
  | nil => rfl
  | cons size sizes ih => simp [ih]

/-- Slices from the front of a list are the front of the list. -/
theorem flatten_splitLengths_eq_take {α : Type} (sizes : List Nat) (l : List α) :
    (sizes.splitLengths l).flatten = l.take sizes.sum := by
  induction sizes generalizing l with
  | nil => rfl
  | cons size sizes ih =>
    rw [List.splitLengths_cons, List.flatten_cons, ih, List.sum_cons, List.take_add]

/-! ## Chapters of slices -/

section Slices

variable {sizes : List Nat} {left : List (Nat × Message)} {cs : List Chapter}

/-- Chapters of the first slices are taken from the front. -/
theorem Chapter.front_of_slices (h : cs.map (·.chunk) = (sizes.splitLengths left).take cs.length) :
    ∃ rest, left = Chapter.covered cs ++ rest := by
  refine ⟨left.drop (sizes.take cs.length).sum, ?_⟩
  unfold Chapter.covered
  rw [h, List.take_splitLength, flatten_splitLengths_eq_take, List.take_append_drop]

/-- Chapters of the first slices have the sizes that were planned. -/
theorem Chapter.lengths_of_slices (h : cs.map (·.chunk) = (sizes.splitLengths left).take cs.length)
    (hsum : sizes.sum ≤ left.length) : cs.map (·.chunk.length) = sizes.take cs.length := by
  have hmap : cs.map (·.chunk.length) = (cs.map (·.chunk)).map List.length := by
    rw [List.map_map]
    rfl
  rw [hmap, h, List.map_take, List.map_splitLengths_length _ _ hsum]

/-- No chapter of a planned slice is empty. -/
theorem Chapter.nonempty_of_slices
    (h : cs.map (·.chunk) = (sizes.splitLengths left).take cs.length)
    (hsum : sizes.sum ≤ left.length) (hpos : ∀ n ∈ sizes, 0 < n) {d : Chapter} (hd : d ∈ cs) :
    d.chunk ≠ [] := by
  have hmem : d.chunk.length ∈ sizes.take cs.length := by
    rw [← Chapter.lengths_of_slices h hsum]
    exact List.mem_map_of_mem hd
  exact List.ne_nil_of_length_pos (hpos _ (List.mem_of_mem_take hmem))

end Slices

/-! ## The parts of a pass -/

variable {answer : (q : HostCall) → σ → q.Answer × σ} {view : σ → Shown τ} {chat : Chat}
  {compress : List Message → Nat → τ → Option String × τ} {c : Config}

/-- A quiet part of a pass changes nothing that is kept. -/
theorem Reliable.asks {α : Type} (hr : Reliable answer view chat compress) {d : Hosted α}
    (hd : d.Asks (·.isMinor = true)) (s : σ) :
    d.Throughout (answering answer) (fun t => view t = view s) (fun _ t => view t = view s) s := by
  exact hd.throughout (c := answering answer)
    (fun _ _ _ _ ht hq hs => (hr.quiet (HostCall.isQuiet_of_isMinor hq) hs).trans ht) rfl

/-- The chapters that a pass files: the slices that the compressor has told, in order. -/
structure Told (compress : List Message → Nat → τ → Option String × τ) (chapter : Nat)
    (sizes : List Nat) (left : List (Nat × Message)) (mind : τ) (cs : List Chapter) : Prop where
  chunks : cs.map (·.chunk) = (sizes.splitLengths left).take cs.length
  texts : cs.map (fun d => some d.text)
    = (replies compress chapter ((sizes.splitLengths left).map (List.map (·.2))) mind).takeWhile tells

/-- No slice is told where the first one is not. -/
theorem Told.nil {chapter size : Nat} {sizes : List Nat} {left : List (Nat × Message)} {mind : τ}
    (h : tells (compress ((left.take size).map (·.2)) chapter mind).1 = false) :
    Told compress chapter (size :: sizes) left mind [] where
  chunks := rfl
  texts := by
    have hneg : ¬ tells (compress ((left.take size).map (·.2)) chapter mind).1 = true := by
      rw [h]
      exact Bool.false_ne_true
    rw [List.splitLengths_cons, List.map_cons, replies, List.takeWhile_cons_of_neg hneg]
    rfl

/-- The first slice is told, and then others are. -/
theorem Told.cons {chapter size : Nat} {sizes : List Nat} {left : List (Nat × Message)} {mind : τ}
    {d : Chapter} {cs : List Chapter} (hchunk : d.chunk = left.take size)
    (htext : (compress ((left.take size).map (·.2)) chapter mind).1 = some d.text)
    (htells : Text.allBlank d.text = false)
    (hcs : Told compress (chapter + 1) sizes (left.drop size)
      (compress ((left.take size).map (·.2)) chapter mind).2 cs) :
    Told compress chapter (size :: sizes) left mind (d :: cs) where
  chunks := by
    rw [List.splitLengths_cons, List.map_cons, List.length_cons, List.take_succ_cons, hcs.chunks,
      hchunk]
  texts := by
    have hpos : tells (some d.text) = true := by
      rw [tells_some, htells]
      rfl
    rw [List.splitLengths_cons, List.map_cons, List.map_cons, replies, htext,
      List.takeWhile_cons_of_pos hpos, ← hcs.texts]

namespace Told

variable {chapter : Nat} {sizes : List Nat} {left : List (Nat × Message)} {mind : τ}
  {cs : List Chapter}

/-- The slices that are told are taken from the front. -/
theorem front (h : Told compress chapter sizes left mind cs) :
    ∃ rest, left = Chapter.covered cs ++ rest := Chapter.front_of_slices h.chunks

/-- The slices that are told have the sizes that were planned. -/
theorem lengths (h : Told compress chapter sizes left mind cs) (hsum : sizes.sum ≤ left.length) :
    cs.map (·.chunk.length) = sizes.take cs.length := Chapter.lengths_of_slices h.chunks hsum

/-- No slice that is told is empty. -/
theorem nonempty (h : Told compress chapter sizes left mind cs) (hsum : sizes.sum ≤ left.length)
    (hpos : ∀ n ∈ sizes, 0 < n) {d : Chapter} (hd : d ∈ cs) : d.chunk ≠ [] :=
  Chapter.nonempty_of_slices h.chunks hsum hpos hd

/-- The messages of the slices that are told. -/
theorem slices (h : Told compress chapter sizes left mind cs) :
    cs.map (fun d => d.chunk.map (·.2))
      = (sizes.splitLengths (left.map (·.2))).take cs.length := by
  have hmap : cs.map (fun d => d.chunk.map (·.2)) = (cs.map (·.chunk)).map (List.map (·.2)) := by
    rw [List.map_map]
    rfl
  rw [hmap, h.chunks, List.map_take, map_splitLengths]

end Told

/-- **Folding files the slices that the compressor tells**, up to the first that it does not. -/
theorem foldChunks_reliable (hr : Reliable answer view chat compress) (total : Nat)
    {sizes : List Nat} {st : PassState} (s : σ) (hsum : sizes.sum ≤ st.left.length) :
    (foldChunks total sizes st).Throughout (answering answer) (fun _ => True)
      (fun st' t => (∃ mind, view t = { view s with mind }) ∧
        ∃ cs, Told compress (st.storage.level1.length + 1) sizes st.left (view s).mind cs ∧
          Folded sizes st st' cs) s := by
  induction sizes generalizing st s with
  | nil =>
    refine .finish trivial ⟨⟨(view s).mind, rfl⟩, [], ⟨rfl, rfl⟩, .inl ⟨rfl, rfl⟩⟩
  | cons size sizes ih =>
    rw [foldChunks]
    refine .call trivial fun reply s₁ h₁ => ?_
    obtain ⟨hreply, hview₁⟩ := hr.compress h₁
    -- a reply without text ends the loop before any chapter
    have halted : tells reply = false → (∃ mind, view s₁ = { view s with mind }) ∧
        ∃ cs, Told compress (st.storage.level1.length + 1) (size :: sizes) st.left (view s).mind cs ∧
          Folded (size :: sizes) st st.halt cs := by
      intro hnot
      rw [hreply] at hnot
      exact ⟨⟨_, hview₁⟩, [], .nil hnot, .inr ⟨Nat.succ_pos _, rfl⟩⟩
    cases reply with
    | none => exact .finish trivial (halted rfl)
    | some text =>
      by_cases hblank : Text.allBlank text = true
      · simp only [hblank, if_true]
        exact .finish trivial (halted (by rw [tells_some, hblank]; rfl))
      · simp only [hblank, if_false, Bool.false_eq_true]
        refine .call trivial fun id s₂ h₂ => ?_
        refine .call trivial fun now s₃ h₃ => ?_
        refine .call trivial fun _ s₄ h₄ => ?_
        have hview₄ : view s₄ = view s₁ := by
          rw [hr.quiet rfl h₄, hr.quiet rfl h₃, hr.quiet rfl h₂]
        have hlen : (st.left.take size).length = size := length_take_of_sum_le hsum
        obtain ⟨d, hd⟩ : ∃ d : Chapter, d = ⟨st.left.take size, id, text, now⟩ := ⟨_, rfl⟩
        have hlevel1 : (st.fold size id text now).storage.level1.length
            = st.storage.level1.length + 1 := by
          simp [PassState.fold, Tier.append, Tier.length]
        have hrest : (st.fold size id text now).left = st.left.drop size := rfl
        refine (ih s₄ ?_).mono (fun _ h => h) ?_
        · rw [hrest]
          exact sum_le_length_drop hsum
        · rintro st' t ⟨⟨mind, hmind⟩, cs, htold, hfolded⟩
          rw [hlevel1, hrest, hview₄, hview₁] at htold
          refine ⟨⟨mind, by rw [hmind, hview₄, hview₁]⟩, d :: cs, ?_, ?_⟩
          · refine .cons (by rw [hd]) ?_ ?_ htold
            · rw [← hreply, hd]
            · rw [hd]
              simpa using hblank
          · refine .cons (by rw [hd]; exact hlen) ?_
            rw [hd]
            exact hfolded

/-- A record and tags are loaded as they are kept. -/
theorem loadState_reliable (hr : Reliable answer view chat compress) (chatId : String) (s : σ) :
    (loadState c chatId).Throughout (answering answer) (fun _ => True)
      (fun r t => view t = view s ∧
        r = .ok (((view s).storages chatId).getD (.fresh c.defaultInjection),
          (view s).tags chatId)) s := by
  unfold loadState loadOrInit
  refine .bind (P := fun r t => view t = view s ∧
    r = .ok (((view s).storages chatId).getD (.fresh c.defaultInjection),
      ((view s).storages chatId).isNone)) ?_ ?_
  · refine .call trivial fun a t ht => ?_
    rw [hr.loadStorage ht]
    cases hstored : (view s).storages chatId with
    | none => exact .finish trivial ⟨hr.quiet rfl ht, rfl⟩
    | some storage => exact .finish trivial ⟨hr.quiet rfl ht, rfl⟩
  · rintro r t - ⟨ht, rfl⟩
    refine .call trivial fun a u hu => ?_
    rw [hr.loadTags hu]
    exact .finish trivial ⟨(hr.quiet rfl hu).trans ht, by rw [ht]⟩

/-- A record and tags are saved. -/
theorem saveState_reliable (hr : Reliable answer view chat compress) (chatId : String)
    (storage : Storage) (tags : TagStore) (s : σ) :
    (saveState chatId storage tags).Throughout (answering answer) (fun _ => True)
      (fun r t => r = .ok () ∧
        view t = ((view s).saveStorage chatId storage).saveTags chatId tags) s := by
  unfold saveState saveStorage saveTags
  refine .bind (P := fun r t => r = .ok () ∧ view t = (view s).saveStorage chatId storage) ?_ ?_
  · refine .call trivial fun a t ht => ?_
    obtain ⟨rfl, hview⟩ := hr.saveStorage ht
    exact .finish trivial ⟨rfl, hview⟩
  · rintro r t - ⟨rfl, ht⟩
    refine .call trivial fun a u hu => ?_
    obtain ⟨rfl, hview⟩ := hr.saveTags hu
    exact .finish trivial ⟨rfl, by rw [hview, ht]⟩

/-! ## The pass -/

/-- The plan of a pass. -/
abbrev planOf (c : Config) (chat : Chat) (tags : TagStore) : Plan :=
  planChunks (workingSet chat.messages tags).length c.chunkSize.toNat c.targetCompression.toNat

/-- What a pass does on a host with `w`: it files the slices that are told, saves the record and the
    tags, and reports. -/
def Completes (compress : List Message → Nat → τ → Option String × τ) (c : Config) (chat : Chat)
    (w : Shown τ) (r : Except EngineError Outcome) (v : Shown τ) : Prop :=
  ∃ cs time mind st', let st := PassState.initial c chat (w.storages chat.id) (w.tags chat.id)
    Told compress (st.storage.level1.length + 1) (planOf c chat (w.tags chat.id)).chunks st.left
      w.mind cs ∧
    Folded (planOf c chat (w.tags chat.id)).chunks st st' cs ∧
    r = .ok (.completed st'.report) ∧
    v = (Shown.saveStorage { w with mind } chat.id (st'.record chat time)).saveTags chat.id st'.tags

/-- A pass over a working set. -/
theorem compact_reliable (hr : Reliable answer view chat compress) (s : σ) :
    (compact c chat (((view s).storages chat.id).getD (.fresh c.defaultInjection))
      ((view s).tags chat.id) (workingSet chat.messages ((view s).tags chat.id))).Throughout
        (answering answer) (fun _ => True)
        (fun r t => Completes compress c chat (view s) r (view t)) s := by
  unfold compact
  refine .bind ((hr.asks (borrowProfile_asks c) s).mono (fun _ _ => trivial) fun _ _ => id)
    fun previous s₁ _ h₁ => ?_
  refine .call trivial fun _ s₂ h₂ => ?_
  refine .bind (foldChunks_reliable hr _ s₂ (planChunks_sum_le _ _ _)) ?_
  rintro st' s₃ - ⟨⟨mind, h₃⟩, cs, htold, hfolded⟩
  rw [hr.quiet rfl h₂, h₁] at h₃ htold
  refine .bind ((hr.asks (returnProfile_asks previous) s₃).mono (fun _ _ => trivial) fun _ _ => id)
    fun _ s₄ _ h₄ => ?_
  refine .call trivial fun now s₅ h₅ => ?_
  refine .bind (saveState_reliable hr chat.id (st'.record chat now) st'.tags s₅) ?_
  rintro r s₆ - ⟨rfl, h₆⟩
  rw [hr.quiet rfl h₅, h₄, h₃] at h₆
  refine .bind ((hr.asks (inject_asks chat _) s₆).mono (fun _ _ => trivial) fun _ _ => id)
    fun _ s₇ _ h₇ => ?_
  refine .call trivial fun _ s₈ h₈ => ?_
  refine .finish trivial ⟨cs, now, mind, st', htold, hfolded, rfl, ?_⟩
  rw [hr.quiet rfl h₈, h₇, h₆]

/-- What becomes of a pass that has the lock. -/
def Comes (compress : List Message → Nat → τ → Option String × τ) (c : Config) (chat : Chat)
    (w : Shown τ) (r : Except EngineError Outcome) (v : Shown τ) : Prop :=
  if (workingSet chat.messages (w.tags chat.id)).isEmpty then
    r = .ok (.skipped .nothingToCompact) ∧ v = w
  else Completes compress c chat w r v

theorem passBody_reliable (hr : Reliable answer view chat compress) (s : σ) :
    (passBody c).Throughout (answering answer) (fun _ => True)
      (fun r t => Comes compress c chat (view s) r (view t)) s := by
  unfold passBody
  refine .call trivial fun a s₁ h₁ => ?_
  rw [hr.currentChat h₁]
  refine .bind (loadState_reliable hr chat.id s₁) ?_
  rintro r s₂ - ⟨h₂, rfl⟩
  rw [hr.quiet rfl h₁] at h₂ ⊢
  unfold Comes
  by_cases hempty : (workingSet chat.messages ((view s).tags chat.id)).isEmpty = true
  · simp only [hempty, if_true]
    exact .finish trivial ⟨rfl, h₂⟩
  · simp only [hempty, if_false, Bool.false_eq_true]
    rw [← h₂]
    exact compact_reliable hr s₂

/-- A pass that gets the lock. -/
theorem perform_reliable (hr : Reliable answer view chat compress) (s : σ)
    (free : (answer .begin s).1 = true) :
    (perform c).Throughout (answering answer) (fun _ => True)
      (fun r t => Comes compress c chat (view s) r (view t)) s := by
  unfold perform
  refine .call trivial fun a s₁ h₁ => ?_
  rw [show answer .begin s = (a, s₁) from h₁] at free
  obtain rfl : a = true := free
  refine .bind (passBody_reliable hr s₁) fun r s₂ _ h₂ => ?_
  refine .call trivial fun _ s₃ h₃ => ?_
  rw [hr.quiet rfl h₁] at h₂
  rw [← hr.quiet rfl h₃] at h₂
  exact .finish trivial h₂

/-- What a pass reports. -/
theorem Folded.report {sizes : List Nat} {st st' : PassState} {cs : List Chapter}
    {rest : List (Nat × Message)} (hf : Folded sizes st st' cs)
    (hfront : st.left = Chapter.covered cs ++ rest) (hst : st.report = .empty) :
    st'.report =
      { chunks := cs.length
        messagesCompacted := (cs.map (·.chunk.length)).sum
        summaryIds := cs.map (·.id)
        halted := decide (cs.length < sizes.length) } := by
  rcases hf with ⟨hlen, rfl⟩ | ⟨hlen, rfl⟩
  · rw [file_eq hfront, hst]
    simp [Report.empty, hlen]
  · rw [PassState.halt, file_eq hfront, hst]
    simp [Report.empty, hlen]

/-- What a pass saves: its tags are those of the chapters, and its record has a longer first tier and is
    otherwise the one before. -/
theorem Folded.saved {sizes : List Nat} {st st' : PassState} {cs : List Chapter}
    {rest : List (Nat × Message)} (hf : Folded sizes st st' cs)
    (hfront : st.left = Chapter.covered cs ++ rest) (chat : Chat) (time : Int64) :
    st'.tags = st.tags.markAll cs ∧
      (st'.record chat time).level1 = st.storage.level1.appendAll cs ∧
      (st'.record chat time).level2 = st.storage.level2 ∧
      (st'.record chat time).level3 = st.storage.level3 ∧
      (st'.record chat time).injection = st.storage.injection := by
  obtain ⟨hstorage, htags⟩ := hf.storage_tags
  rw [file_eq hfront] at hstorage htags
  unfold PassState.record
  rw [hstorage]
  exact ⟨htags, rfl, rfl, rfl, rfl⟩

/-- The summary of a chapter, as it is seen in the chat: it begins and ends with the chapter, whose
    messages have its tag. -/
theorem Chapter.Files.shows {d : Chapter} {s : Summary} {messages : List Message} {tags : TagStore}
    (hfile : d.Files s) (hne : d.chunk ≠ []) (fits : messages.length ≤ UInt64.size)
    (hplaces : ∀ p ∈ d.chunk, messages[p.1]? = some p.2)
    (tagged : ∀ p ∈ d.chunk, tags.tag? p.2.id = some d.tag) :
    d.chunk.map (·.2) ≠ [] ∧ messages[s.startIndex.toNat]? = (d.chunk.map (·.2)).head? ∧
      messages[s.endIndex.toNat]? = (d.chunk.map (·.2)).getLast? ∧
      ∀ m ∈ d.chunk.map (·.2), ∃ time, tags.tag? m.id = some (.summarized .chunk s.id time) := by
  have hfits : ∀ p ∈ d.chunk, p.1 < UInt64.size := fun p hp =>
    Nat.lt_of_lt_of_le (List.getElem?_eq_some_iff.mp (hplaces p hp)).1 fits
  have hfirst := List.head?_eq_some_head hne
  have hlast := List.getLast?_eq_some_getLast hne
  refine ⟨by simpa using hne, ?_, ?_, ?_⟩
  · rw [hfile.startIndex, Chapter.startIndex_toNat hfirst (hfits _ (List.head_mem hne)),
      List.head?_map, hfirst, hplaces _ (List.head_mem hne)]
    rfl
  · rw [hfile.endIndex, Chapter.endIndex_toNat hlast (hfits _ (List.getLast_mem hne)),
      List.getLast?_map, hlast, hplaces _ (List.getLast_mem hne)]
    rfl
  · intro m hm
    obtain ⟨p, hp, rfl⟩ := List.mem_map.mp hm
    rw [hfile.id]
    exact ⟨d.time, tagged p hp⟩

/-- The summaries of the slices that are told, as they are seen in the chat once the messages are
    tagged. -/
theorem Told.shows {chapter : Nat} {sizes : List Nat} {tags : TagStore} {mind : τ}
    {cs : List Chapter} {new : List Summary}
    (h : Told compress chapter sizes (workingSet chat.messages tags) mind cs)
    (hsum : sizes.sum ≤ (workingSet chat.messages tags).length) (hpos : ∀ n ∈ sizes, 0 < n)
    (distinct : (chat.messages.map (·.id)).Nodup) (fits : chat.messages.length ≤ UInt64.size)
    (hfiles : List.Forall₂ Chapter.Files cs new) :
    List.Forall₂ (fun s slice =>
        slice ≠ [] ∧ chat.messages[s.startIndex.toNat]? = slice.head? ∧
        chat.messages[s.endIndex.toNat]? = slice.getLast? ∧
        ∀ m ∈ slice, ∃ time,
          (tags.markAll cs).tag? m.id = some (.summarized .chunk s.id time))
      new (cs.map fun d => d.chunk.map (·.2)) := by
  obtain ⟨rest, hfront⟩ := h.front
  have hnodup := nodup_ids_workingSet distinct tags
  rw [hfront, List.map_append] at hnodup
  refine List.forall₂_map_right_iff.mpr (forall₂_imp_of_mem hfiles fun d hd s hfile => ?_).flip
  have hmem : ∀ p ∈ d.chunk, p ∈ workingSet chat.messages tags := by
    intro p hp
    rw [hfront]
    exact List.mem_append_left _ (List.mem_flatten.mpr ⟨_, List.mem_map_of_mem hd, hp⟩)
  refine hfile.shows (h.nonempty hsum hpos hd) fits ?_ ?_
  · intro p hp
    exact (mem_workingSet.mp (hmem p hp)).1
  · intro p hp
    exact tag?_markAll_of_mem (List.nodup_append.mp hnodup).1 hd (List.mem_map_of_mem hp)

/-- A message of no slice keeps its tag, and what is kept for its swipes. -/
theorem markAll_of_not_mem_slices {tags : TagStore} {cs : List Chapter} {id : String}
    (hid : id ∉ (cs.map fun d => d.chunk.map (·.2)).flatten.map (·.id)) :
    (tags.markAll cs).tag? id = tags.tag? id ∧
      ∀ k, (tags.markAll cs).swipeTag? id k = tags.swipeTag? id k := by
  refine markAll_of_not_mem fun d hd hin => hid ?_
  obtain ⟨p, hp, rfl⟩ := List.mem_map.mp hin
  refine List.mem_map.mpr ⟨p.2, List.mem_flatten.mpr ⟨_, List.mem_map_of_mem hd, ?_⟩, rfl⟩
  exact List.mem_map_of_mem hp

/-- **What one pass does on a host whose loads and saves go well.** It works on the messages that are
    neither the system's nor summarized, in the order of the chat. If there are none it does nothing.
    Otherwise it files the longest front of the planned slices that the compressor tells, reports it, and
    saves one record and one set of tags: a new summary for each slice, and the tag of the summary for each
    message of the slice. Everything else stays. -/
theorem perform_on_reliable_host (hr : Reliable answer view chat compress)
    (distinct : (chat.messages.map (·.id)).Nodup) (fits : chat.messages.length ≤ UInt64.size)
    (c : Config) (s : σ) (free : (answer .begin s).1 = true) :
    let before := view s
    let tags := before.tags chat.id
    let old := (before.storages chat.id).getD (.fresh c.defaultInjection)
    let left := chat.messages.filter fun m => !m.isSystem && !tags.isSummarized m
    let sizes := (planChunks left.length c.chunkSize.toNat c.targetCompression.toNat).chunks
    let slices := sizes.splitLengths left
    let heard := (replies compress (old.level1.length + 1) slices before.mind).takeWhile tells
    let outcome := ((perform c).run answer s).1
    let after := view ((perform c).run answer s).2
    (left = [] → outcome = .ok (.skipped .nothingToCompact) ∧ after = before) ∧
    (left ≠ [] → ∃ record tags' new,
      outcome = .ok (.completed
        { chunks := heard.length
          messagesCompacted := (sizes.take heard.length).sum
          summaryIds := new.map (·.id)
          halted := decide (heard.length < sizes.length) }) ∧
      after.saves = before.saves ++ [.saveStorage chat.id record, .saveTags chat.id tags'] ∧
      after.storages = Function.update before.storages chat.id (some record) ∧
      after.tags = Function.update before.tags chat.id tags' ∧
      record.level1.summaries = old.level1.summaries ++ new ∧
      record.level2 = old.level2 ∧ record.level3 = old.level3 ∧
      record.injection = old.injection ∧
      new.map (fun s => some s.text) = heard ∧
      (∀ s ∈ new, s.tokenCount = .ofNat (Text.estimateTokens s.text)) ∧
      List.Forall₂ (fun s slice =>
          slice ≠ [] ∧ chat.messages[s.startIndex.toNat]? = slice.head? ∧
          chat.messages[s.endIndex.toNat]? = slice.getLast? ∧
          ∀ m ∈ slice, ∃ time, tags'.tag? m.id = some (.summarized .chunk s.id time))
        new (slices.take heard.length) ∧
      ∀ id, id ∉ (slices.take heard.length).flatten.map (·.id) →
        tags'.tag? id = tags.tag? id ∧ ∀ k, tags'.swipeTag? id k = tags.swipeTag? id k) := by
  intro before tags old left sizes slices heard outcome after
  have hleft : (workingSet chat.messages tags).map (·.2) = left := map_snd_workingSet _ _
  have hcomes : Comes compress c chat before outcome after := (perform_reliable hr s free).run
  have hnil : (workingSet chat.messages tags).isEmpty = true ↔ left = [] := by
    rw [List.isEmpty_iff, ← hleft, List.map_eq_nil_iff]
  refine ⟨fun hempty => ?_, fun hne => ?_⟩
  · rwa [Comes, if_pos (hnil.mpr hempty)] at hcomes
  rw [Comes, if_neg fun h => hne (hnil.mp h)] at hcomes
  obtain ⟨cs, time, mind, st', htold, hfolded, hout, hafter⟩ := hcomes
  -- the plan is one for the messages that are left
  have hsizes : (planOf c chat tags).chunks = sizes := by
    unfold planOf
    rw [← List.length_map (·.2), hleft]
  rw [hsizes] at htold hfolded
  replace htold : Told compress (old.level1.length + 1) sizes (workingSet chat.messages tags)
    before.mind cs := htold
  have hsum : sizes.sum ≤ (workingSet chat.messages tags).length := by
    rw [← hsizes]
    exact planChunks_sum_le _ _ _
  have hpos : ∀ n ∈ sizes, 0 < n := planChunks_pos _ _ _
  have htexts : cs.map (fun d => some d.text) = heard := by
    have h := htold.texts
    rw [map_splitLengths, hleft] at h
    exact h
  have hlen : heard.length = cs.length := by
    rw [← htexts, List.length_map]
  have hslices : cs.map (fun d => d.chunk.map (·.2)) = slices.take heard.length := by
    rw [hlen, htold.slices, hleft]
  obtain ⟨rest, hfront⟩ := htold.front
  obtain ⟨htags, hlevel1, hlevel2, hlevel3, hinjection⟩ := hfolded.saved hfront chat time
  obtain ⟨new, hnew, hfiles⟩ := appendAll_summaries old.level1 cs
  refine ⟨st'.record chat time, st'.tags, new, ?_, ?_, ?_, ?_, ?_, hlevel2, hlevel3, hinjection,
    ?_, ?_, ?_, ?_⟩
  · rw [hout, hfolded.report hfront rfl, htold.lengths hsum, hlen, Chapter.ids_of_files hfiles]
  · rw [hafter]
    simp [Shown.saveStorage, Shown.saveTags]
  · rw [hafter]
    rfl
  · rw [hafter]
    rfl
  · rw [← hnew, hlevel1]
    rfl
  · rw [← htexts]
    exact Chapter.map_of_files hfiles fun d s hfile => by rw [hfile.text]
  · intro s hs
    obtain ⟨d, -, hfile⟩ := exists_partner hfiles.flip hs
    rw [Chapter.Files.tokenCount hfile, Chapter.Files.text hfile]
  · rw [← hslices, htags]
    exact htold.shows hsum hpos distinct fits hfiles
  · rw [← hslices, htags]
    exact fun id hid => markAll_of_not_mem_slices hid

/-- A pass over the short chat that gets a blank reply for its second slice. -/
theorem pass_halts_at_blank_reply :
    let run := (perform .thorough).run (Obliging.answer .brief scripted)
      (Obliging.blank [some "They met.", some " "])
    ∃ record tags' new,
      run.1 = .ok (.completed
        { chunks := 1, messagesCompacted := 1, summaryIds := new.map (·.id), halted := true }) ∧
      run.2.saves = [.saveStorage "brief" record, .saveTags "brief" tags'] ∧
      record.level1.summaries = new ∧ new.map (fun s => some s.text) = [some "They met."] ∧
      tags'.tag? "b" = none := by
  intro run
  obtain ⟨record, tags', new, hout, hsaves, -, -, htier, -, -, -, htexts, -, -, hothers⟩ :=
    (perform_on_reliable_host (Obliging.reliable .brief scripted) (by decide) (by decide) .thorough
      (Obliging.blank [some "They met.", some " "]) rfl).2 (by decide)
  have hnew : new.map (fun s => some s.text) = [some "They met."] :=
    htexts.trans (by decide +kernel)
  refine ⟨record, tags', new, hout.trans ?_, hsaves, htier, hnew, ?_⟩
  · rw [← htexts, hnew]
    congr 3
    decide +kernel
  · exact (hothers "b" (by decide +kernel)).1

end Recap
