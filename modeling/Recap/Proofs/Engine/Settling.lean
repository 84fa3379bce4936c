import Recap.Proofs.Engine.Lock
import Recap.Proofs.Engine.PassOutcome

/-!
# Passes come to rest

A chat that nobody writes in is compacted pass after pass. The messages that a pass leaves are the ones
that the next pass works on, so what a pass does is fixed by how many there are: a plan that is worthwhile
covers that many of them (`planChunks_sum`), and one that is not covers none. The number goes down with
each worthwhile plan, and stays with any other; so passes come to rest, in general with messages left
over that are too few for a chunk or for a share.

## Contents
- `workingSet_markAll`, `isSummarized_markAll` — the messages that a pass leaves.
- `Rounds`, `Comes.round` — what one pass does to the number of messages that are left.
- `comes_to_rest` — a number that goes down or stays.
- `passes_come_to_rest` — every sequence of passes.
-/

namespace Recap

open Dialogue (answering)

variable {σ τ : Type} {chat : Chat} {messages : List Message} {tags : TagStore} {cs : List Chapter}
  {rest : List (Nat × Message)} {c : Config}

/-! ## The messages that a pass leaves -/

/-- A message of a chapter is summarized, and so is what was summarized before. -/
theorem isSummarized_markAll (distinct : ((Chapter.covered cs).map (·.2.id)).Nodup) (m : Message) :
    (tags.markAll cs).isSummarized m = true ↔
      m.id ∈ (Chapter.covered cs).map (·.2.id) ∨ tags.isSummarized m = true := by
  by_cases hin : m.id ∈ (Chapter.covered cs).map (·.2.id)
  · refine ⟨fun _ => .inl hin, fun _ => ?_⟩
    obtain ⟨p, hp, hid⟩ := List.mem_map.mp hin
    obtain ⟨chunk, hchunk, hp⟩ := List.mem_flatten.mp hp
    obtain ⟨d, hd, rfl⟩ := List.mem_map.mp hchunk
    have hmem : m.id ∈ d.messageIds := List.mem_map.mpr ⟨p, hp, hid⟩
    unfold TagStore.isSummarized
    rw [tag?_markAll_of_mem distinct hd hmem]
    rfl
  · have hout : ∀ d ∈ cs, m.id ∉ d.messageIds := by
      intro d hd hmem
      obtain ⟨p, hp, hid⟩ := List.mem_map.mp hmem
      refine hin (List.mem_map.mpr ⟨p, ?_, hid⟩)
      exact List.mem_flatten.mpr ⟨_, List.mem_map_of_mem hd, hp⟩
    unfold TagStore.isSummarized
    rw [(markAll_of_not_mem hout).1]
    exact ⟨.inr, fun h => h.resolve_left hin⟩

/-- **What a pass leaves is what comes after the chapters that it filed.** -/
theorem workingSet_markAll (distinct : (messages.map (·.id)).Nodup)
    (hfront : workingSet messages tags = Chapter.covered cs ++ rest) :
    workingSet messages (tags.markAll cs) = rest := by
  have hids := nodup_ids_workingSet distinct tags
  rw [hfront, List.map_append, List.nodup_append] at hids
  obtain ⟨hcovered, -, hapart⟩ := hids
  have hin : ∀ p ∈ Chapter.covered cs, (tags.markAll cs).isSummarized p.2 = true := fun p hp =>
    (isSummarized_markAll hcovered p.2).mpr (.inl (List.mem_map_of_mem hp))
  have hout : ∀ p ∈ rest, (tags.markAll cs).isSummarized p.2 = false := by
    intro p hp
    rw [Bool.eq_false_iff, Ne, isSummarized_markAll hcovered, not_or]
    refine ⟨fun hmem => hapart _ hmem _ (List.mem_map_of_mem hp) rfl, ?_⟩
    have hp' : p ∈ workingSet messages tags := hfront ▸ List.mem_append_right _ hp
    rw [(mem_workingSet.mp hp').2.2]
    exact Bool.false_ne_true
  -- a message is left now just if it was left before and is in no chapter
  have hfilter : workingSet messages (tags.markAll cs)
      = (workingSet messages tags).filter fun p => !(tags.markAll cs).isSummarized p.2 := by
    rw [workingSet_eq_filter, workingSet_eq_filter, List.filter_filter]
    refine List.filter_congr fun p _ => ?_
    by_cases hold : tags.isSummarized p.2 = true
    · rw [(isSummarized_markAll hcovered p.2).mpr (.inr hold)]
      rfl
    · rw [Bool.eq_false_iff.mpr hold, Bool.not_false, Bool.and_true]
  rw [hfilter, hfront, List.filter_append, List.filter_eq_nil_iff.mpr, List.filter_eq_self.mpr,
    List.nil_append]
  · intro p hp
    rw [hout p hp]
    rfl
  · intro p hp
    rw [hin p hp]
    exact Bool.false_ne_true

/-! ## A compressor that never fails -/

section Compressor

variable {compress : List Message → Nat → τ → Option String × τ}

/-- It has something to tell of each slice. -/
def NeverFails (compress : List Message → Nat → τ → Option String × τ) : Prop :=
  ∀ messages chapter mind, tells (compress messages chapter mind).1 = true

theorem length_replies (chapter : Nat) (slices : List (List Message)) (mind : τ) :
    (replies compress chapter slices mind).length = slices.length := by
  induction slices generalizing chapter mind with
  | nil => rfl
  | cons slice slices ih => rw [replies, List.length_cons, List.length_cons, ih]

theorem NeverFails.replies (hc : NeverFails compress) (chapter : Nat) (slices : List (List Message))
    (mind : τ) : ∀ reply ∈ replies compress chapter slices mind, tells reply = true := by
  induction slices generalizing chapter mind with
  | nil => exact fun _ hreply => nomatch hreply
  | cons slice slices ih =>
    rw [Recap.replies]
    exact List.forall_mem_cons.mpr ⟨hc _ _ _, ih _ _⟩

/-- All slices are told. -/
theorem Told.all {chapter : Nat} {sizes : List Nat} {left : List (Nat × Message)} {mind : τ}
    (h : Told compress chapter sizes left mind cs) (hc : NeverFails compress) :
    cs.length = sizes.length := by
  have hlen := congrArg List.length h.texts
  rw [List.takeWhile_eq_self_iff.mpr (hc.replies _ _ _), length_replies, List.length_map,
    List.length_map, List.length_splitLengths] at hlen
  exact hlen

/-! ## One pass -/

/-- How many messages a pass would work on. -/
def Shown.left (w : Shown τ) (chat : Chat) : Nat := (workingSet chat.messages (w.tags chat.id)).length

/-- The first-tier summaries kept for a chat. -/
def Shown.level1 (w : Shown τ) (chatId : String) : List Summary :=
  ((w.storages chatId).map (·.level1.summaries)).getD []

/-- What a pass does to the messages that are left. -/
structure Round (c : Config) (chat : Chat) (w : Shown τ) (r : Except EngineError Outcome)
    (v : Shown τ) : Prop where
  keeps : ∀ m, (w.tags chat.id).isSummarized m = true → (v.tags chat.id).isSummarized m = true
  covers : worthwhile (w.left chat) c.chunkSize.toNat c.targetCompression.toNat →
    v.left chat + max (targetOf (w.left chat) c.targetCompression.toNat)
      (min (max c.chunkSize.toNat 1) (w.left chat)) = w.left chat
  rests : ¬ worthwhile (w.left chat) c.chunkSize.toNat c.targetCompression.toNat →
    v.tags = w.tags ∧ ∀ id, v.level1 id = w.level1 id
  idle : w.left chat = 0 → r = .ok (.skipped .nothingToCompact) ∧ v = w

/-- Nothing is worthwhile where no message is left. -/
theorem not_worthwhile_zero (chunkSize percent : Nat) : ¬ worthwhile 0 chunkSize percent := by
  rintro ⟨-, hhalf⟩
  omega

/-- A pass without messages to work on. -/
theorem Round.of_idle {w v : Shown τ} {r : Except EngineError Outcome} (hleft : w.left chat = 0)
    (hr : r = .ok (.skipped .nothingToCompact)) (hv : v = w) : Round c chat w r v := by
  subst hv
  refine ⟨fun m hm => hm, fun hworth => ?_, fun _ => ⟨rfl, fun _ => rfl⟩, fun _ => ⟨hr, rfl⟩⟩
  rw [hleft] at hworth
  exact absurd hworth (not_worthwhile_zero _ _)

/-- A record that is saved over itself. -/
theorem Shown.level1_update {w : Shown τ} {chatId : String} {record : Storage}
    (hrecord : record.level1.summaries = w.level1 chatId) (id : String) :
    ((Function.update w.storages chatId (some record) id).map (·.level1.summaries)).getD []
      = w.level1 id := by
  by_cases hid : id = chatId
  · subst hid
    rw [Function.update_self]
    exact hrecord
  · rw [Function.update_of_ne hid]
    rfl

/-- A pass that goes through its plan. -/
theorem Completes.round {w v : Shown τ} {r : Except EngineError Outcome}
    (h : Completes compress c chat w r v) (hc : NeverFails compress)
    (distinct : (chat.messages.map (·.id)).Nodup) (hleft : w.left chat ≠ 0)
    (hsize : c.chunkSize.toNat < Decimal.exactLimit) (hw : w.left chat < Decimal.exactLimit) :
    Round c chat w r v := by
  obtain ⟨cs, time, mind, st', htold, hfolded, -, hv⟩ := h
  have hsum : (planOf c chat (w.tags chat.id)).chunks.sum
      ≤ (workingSet chat.messages (w.tags chat.id)).length := planChunks_sum_le _ _ _
  obtain ⟨rest, hfront⟩ := htold.front
  replace hfront : workingSet chat.messages (w.tags chat.id) = Chapter.covered cs ++ rest := hfront
  obtain ⟨htags, hlevel1, -⟩ := hfolded.saved hfront chat time
  replace htags : st'.tags = (w.tags chat.id).markAll cs := htags
  have hvtags : v.tags chat.id = (w.tags chat.id).markAll cs := by
    rw [hv, ← htags]
    exact Function.update_self ..
  have hids := nodup_ids_workingSet distinct (w.tags chat.id)
  rw [hfront, List.map_append, List.nodup_append] at hids
  refine ⟨fun m hm => ?_, fun hworth => ?_, fun hworth => ?_, fun hzero => absurd hzero hleft⟩
  · rw [hvtags]
    exact (isSummarized_markAll hids.1 m).mpr (.inr hm)
  · -- all chunks of the plan are filed, and what comes after them is left
    have hcovered : (Chapter.covered cs).length = (planOf c chat (w.tags chat.id)).chunks.sum := by
      unfold Chapter.covered
      rw [List.length_flatten, List.map_map]
      show (cs.map (·.chunk.length)).sum = _
      rw [htold.lengths hsum, htold.all hc, List.take_length]
    have hplan : (planOf c chat (w.tags chat.id)).chunks.sum = _ := planChunks_sum hw hsize hworth
    have hv' : v.left chat = rest.length := by
      unfold Shown.left
      rw [hvtags, workingSet_markAll distinct hfront]
    have hw' : w.left chat = (Chapter.covered cs).length + rest.length := by
      unfold Shown.left
      rw [hfront, List.length_append]
    rw [hcovered, hplan] at hw'
    rw [hv', Nat.add_comm]
    exact hw'.symm
  · -- the plan is empty, so nothing is filed and what was loaded is saved again
    have hnil : cs = [] := by
      rw [← List.length_eq_zero_iff, htold.all hc]
      exact congrArg List.length (planChunks_eq_nil hw hsize hworth)
    subst hnil
    refine ⟨?_, fun id => ?_⟩
    · rw [hv]
      show Function.update w.tags chat.id st'.tags = w.tags
      rw [htags]
      exact Function.update_eq_self _ _
    · rw [hv]
      refine Shown.level1_update ?_ id
      rw [hlevel1]
      show ((w.storages chat.id).getD (.fresh c.defaultInjection)).level1.summaries = _
      unfold Shown.level1
      cases w.storages chat.id <;> rfl

/-- **One pass covers a worthwhile plan, and rests where there is none.** -/
theorem Comes.round {w v : Shown τ} {r : Except EngineError Outcome}
    (h : Comes compress c chat w r v) (hc : NeverFails compress)
    (distinct : (chat.messages.map (·.id)).Nodup)
    (hsize : c.chunkSize.toNat < Decimal.exactLimit) (hw : w.left chat < Decimal.exactLimit) :
    Round c chat w r v := by
  unfold Comes at h
  by_cases hempty : (workingSet chat.messages (w.tags chat.id)).isEmpty = true
  · rw [if_pos hempty] at h
    refine .of_idle ?_ h.1 h.2
    rw [Shown.left, List.isEmpty_iff.mp hempty, List.length_nil]
  · rw [if_neg hempty] at h
    refine h.round hc distinct ?_ hsize hw
    rwa [Shown.left, Ne, List.length_eq_zero_iff, ← List.isEmpty_iff]

end Compressor

/-! ## Pass after pass -/

/-- A number that goes down as long as `P` holds of it, and stays otherwise, comes to rest where `P` does
    not hold, after no more steps than it is at first. -/
theorem comes_to_rest {P : Nat → Prop} {left : Nat → Nat}
    (down : ∀ n, P (left n) → left (n + 1) < left n)
    (stay : ∀ n, ¬ P (left n) → left (n + 1) = left n) :
    ∃ N ≤ left 0, ∀ n, N ≤ n → ¬ P (left n) := by
  induction hk : left 0 using Nat.strong_induction_on generalizing left with
  | _ k ih =>
    by_cases hP : P (left 0)
    · -- it goes down at first, and then it is a smaller number that comes to rest
      obtain ⟨N, hN, hrest⟩ := ih (left 1) (hk ▸ down 0 hP) (fun n => down (n + 1))
        (fun n => stay (n + 1)) rfl
      refine ⟨N + 1, ?_, fun n hn => ?_⟩
      · have hlt : left 1 < left 0 := down 0 hP
        omega
      · obtain ⟨m, rfl⟩ : ∃ m, n = m + 1 := ⟨n - 1, by omega⟩
        exact hrest m (by omega)
    · have hsame : ∀ n, left n = left 0 := by
        intro n
        induction n with
        | zero => rfl
        | succ n ihn => rw [stay n (by rwa [ihn]), ihn]
      exact ⟨0, Nat.zero_le _, fun n _ => by rwa [hsame n]⟩

section Passes

variable {answer : (q : HostCall) → σ → q.Answer × σ} {view : σ → Shown τ} {locked : σ → Bool}
  {compress : List Message → Nat → τ → Option String × τ}

/-- The number of messages that are left, as it is seen in the chat. -/
theorem Shown.left_eq (w : Shown τ) (chat : Chat) : w.left chat
    = (chat.messages.filter fun m => !m.isSystem && !(w.tags chat.id).isSummarized m).length := by
  rw [← map_snd_workingSet, List.length_map]
  rfl

/-- No pass leaves more messages than there were. -/
theorem Round.left_le {w v : Shown τ} {r : Except EngineError Outcome} (h : Round c chat w r v) :
    v.left chat ≤ w.left chat := by
  by_cases hworth : worthwhile (w.left chat) c.chunkSize.toNat c.targetCompression.toNat
  · have hcovers := h.covers hworth
    omega
  · rw [Shown.left, Shown.left, (h.rests hworth).1]

/-- **Each pass is such a round.** -/
theorem rounds (hr : Reliable answer view chat compress)
    (hlock : ∀ {s q a t}, answer q s = (a, t) → Locks (locked s) q a (locked t))
    (hc : NeverFails compress) (distinct : (chat.messages.map (·.id)).Nodup)
    (hsize : c.chunkSize.toNat < Decimal.exactLimit) {s : σ} (free : locked s = false)
    (hleft : (view s).left chat < Decimal.exactLimit) (n : Nat) :
    let after n := (fun s => ((perform c).run answer s).2)^[n] s
    locked (after n) = false ∧ (view (after n)).left chat < Decimal.exactLimit ∧
      Round c chat (view (after n)) ((perform c).run answer (after n)).1 (view (after (n + 1))) := by
  intro after
  -- one pass, from a state with the lock free and few enough messages left
  have hround : ∀ t, locked t = false → (view t).left chat < Decimal.exactLimit →
      Round c chat (view t) ((perform c).run answer t).1 (view ((perform c).run answer t).2) := by
    intro t hfree ht
    have hbegin : (answer .begin t).1 = true := by
      rw [(hlock (s := t) (q := .begin) rfl).1, hfree]
      rfl
    exact (perform_reliable hr t hbegin).run.round hc distinct hsize ht
  have hsucc : ∀ n, after (n + 1) = ((perform c).run answer (after n)).2 := fun n =>
    Function.iterate_succ_apply' _ _ _
  induction n with
  | zero => exact ⟨free, hleft, hround s free hleft⟩
  | succ n ih =>
    obtain ⟨hfree, hbelow, hn⟩ := ih
    have hfree' : locked (after (n + 1)) = false := by
      rw [hsucc]
      exact (perform_unlocks hlock hfree).run
    have hbelow' := Nat.lt_of_le_of_lt hn.left_le hbelow
    refine ⟨hfree', hbelow', ?_⟩
    rw [hsucc (n + 1)]
    exact hround _ hfree' hbelow'

/-- **Passes come to rest.** One pass after the other over a chat that nobody writes in, on a host whose
    loads and saves go well and with a compressor that never fails: a message once summarized stays so. A
    pass with a share to cover and half a chunk of messages left covers the share, or a first chunk if that
    is more; every other pass leaves first tiers and tags as they are. So after some passes, no more than
    there were messages, no share or less than half a chunk is left, and nothing changes any more; if no
    message is left, further passes are skipped and save nothing. -/
theorem passes_come_to_rest (hr : Reliable answer view chat compress)
    (hlock : ∀ {s q a t}, answer q s = (a, t) → Locks (locked s) q a (locked t))
    (hc : ∀ messages chapter mind, tells (compress messages chapter mind).1 = true)
    (distinct : (chat.messages.map (·.id)).Nodup) (hsize : c.chunkSize.toNat < 2 ^ 53) {s : σ}
    (free : locked s = false)
    (hleft : (chat.messages.filter fun m =>
      !m.isSystem && !((view s).tags chat.id).isSummarized m).length < 2 ^ 53) :
    let pass := (perform c).run answer
    let after (n : Nat) := (fun s => (pass s).2)^[n] s
    let kept (n : Nat) := view (after n)
    let left (n : Nat) := (chat.messages.filter fun m =>
      !m.isSystem && !((kept n).tags chat.id).isSummarized m).length
    let size := max c.chunkSize.toNat 1
    let target (n : Nat) := left n * min c.targetCompression.toNat 100 / 100
    (∀ n m, ((kept n).tags chat.id).isSummarized m = true →
      ((kept (n + 1)).tags chat.id).isSummarized m = true) ∧
    (∀ n, 1 ≤ target n ∧ size ≤ 2 * left n →
      left (n + 1) + max (target n) (min size (left n)) = left n ∧
        1 ≤ max (target n) (min size (left n))) ∧
    (∀ n, ¬ (1 ≤ target n ∧ size ≤ 2 * left n) →
      (kept (n + 1)).tags = (kept n).tags ∧ ∀ id, (kept (n + 1)).level1 id = (kept n).level1 id) ∧
    ∃ N ≤ left 0, ∀ n, N ≤ n →
      (target n = 0 ∨ 2 * left n < size) ∧ (kept n).tags = (kept N).tags ∧
      (∀ id, (kept n).level1 id = (kept N).level1 id) ∧
      (left n = 0 →
        (pass (after n)).1 = .ok (.skipped .nothingToCompact) ∧ kept (n + 1) = kept n) := by
  intro pass after kept left size target
  have hlimit : Decimal.exactLimit = 2 ^ 53 := rfl
  have heq : ∀ n, (kept n).left chat = left n := fun n => Shown.left_eq _ _
  have hround : ∀ n, Round c chat (kept n) (pass (after n)).1 (kept (n + 1)) := fun n =>
    (rounds hr hlock hc distinct (hlimit ▸ hsize) free
      (by rw [hlimit, Shown.left_eq]; exact hleft) n).2.2
  have hcovers : ∀ n, 1 ≤ target n ∧ size ≤ 2 * left n →
      left (n + 1) + max (target n) (min size (left n)) = left n := by
    intro n hworth
    have h := (hround n).covers (by rw [heq]; exact hworth)
    rwa [heq, heq] at h
  have hrests : ∀ n, ¬ (1 ≤ target n ∧ size ≤ 2 * left n) →
      (kept (n + 1)).tags = (kept n).tags ∧ ∀ id, (kept (n + 1)).level1 id = (kept n).level1 id := by
    intro n hworth
    exact (hround n).rests (by rw [heq]; exact hworth)
  refine ⟨fun n => (hround n).keeps, fun n hworth => ⟨hcovers n hworth, ?_⟩, hrests, ?_⟩
  · exact hworth.1.trans (Nat.le_max_left _ _)
  -- a worthwhile plan covers a message at least, and without one no tag changes
  have down : ∀ n, 1 ≤ target n ∧ size ≤ 2 * left n → left (n + 1) < left n := by
    intro n hworth
    have h := hcovers n hworth
    have hpos := hworth.1.trans (Nat.le_max_left (target n) (min size (left n)))
    omega
  have stay : ∀ n, ¬ (1 ≤ target n ∧ size ≤ 2 * left n) → left (n + 1) = left n := by
    intro n hworth
    rw [← heq, ← heq, Shown.left, Shown.left, (hrests n hworth).1]
  obtain ⟨N, hN, hrest⟩ := @comes_to_rest
    (fun k => 1 ≤ k * min c.targetCompression.toNat 100 / 100 ∧ size ≤ 2 * k) left down stay
  refine ⟨N, hN, fun n hn => ⟨?_, ?_, ?_, fun hzero => (hround n).idle ((heq n).trans hzero)⟩⟩
  · have h : ¬ (1 ≤ target n ∧ size ≤ 2 * left n) := hrest n hn
    omega
  · induction n, hn using Nat.le_induction with
    | base => rfl
    | succ n hn ih => rw [(hrests n (hrest n hn)).1, ih]
  · intro id
    induction n, hn using Nat.le_induction with
    | base => rfl
    | succ n hn ih => rw [(hrests n (hrest n hn)).2 id, ih]

end Passes

/-- Passes over half of what is left, one message at a time. -/
def Config.halving : Config := { Config.standard with chunkSize := 1, targetCompression := 50 }

/-- A compressor that always says the same. -/
def narrated (_ : List Message) (_ : Nat) (mind : Unit) : Option String × Unit :=
  (some "They met.", mind)

/-- Half of the short chat is one message, and half of the other one is none: passes come to rest with one
    message left. -/
theorem short_chat_comes_to_rest :
    let pass := (perform .halving).run (Obliging.guarded .brief narrated)
    let kept (n : Nat) := ((fun s => (pass s).2)^[n] (.blank (), false)).1
    let left (n : Nat) := (Chat.brief.messages.filter fun m =>
      !m.isSystem && !((kept n).tags "brief").isSummarized m).length
    left 0 = 2 ∧ left 1 = 1 ∧ (kept 2).tags = (kept 1).tags ∧
      (kept 2).toShown.level1 "brief" = (kept 1).toShown.level1 "brief" := by
  intro pass kept left
  have hzero : left 0 = 2 := by decide +kernel
  have htells : tells (some "They met.") = true := by decide +kernel
  obtain ⟨-, hcovers, hrests, -⟩ := passes_come_to_rest (c := .halving)
    (s := (Obliging.blank (), false)) (Obliging.guarded_reliable .brief narrated)
    (Obliging.guarded_locks .brief narrated) (fun _ _ _ => htells) (by decide) (by decide) rfl
    (by decide +kernel)
  have hone : left 1 + max (left 0 * 50 / 100) (min 1 (left 0)) = left 0 :=
    (hcovers 0 (by
      show 1 ≤ left 0 * 50 / 100 ∧ 1 ≤ 2 * left 0
      omega)).1
  obtain ⟨htags, hlevel1⟩ := hrests 1 (by
    show ¬ (1 ≤ left 1 * 50 / 100 ∧ 1 ≤ 2 * left 1)
    omega)
  exact ⟨hzero, by omega, htags, hlevel1 "brief"⟩

end Recap
