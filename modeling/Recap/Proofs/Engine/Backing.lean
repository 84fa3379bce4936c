import Recap.Proofs.Engine.Record
import Recap.Proofs.Engine.Reliable

/-!
# No message is hidden without a summary

A message that is left out of the prompt must be told somewhere else. Tags and summaries are saved
apart, and a save can fail, so this is not the work of a single step: it rests on the record being
saved first, and on no operation taking a summary out of the record again.

The invariant is `World.Covered`: each tag that is kept, for a message or for one of its swipes, is the
active one or names a kept summary that reaches over the place of the message. It is compared with
the ids of the chat and not with its messages, since a message keeps its id and its place while its
swipes change. `Covered.later` is the one lemma by which every operation is checked.

## Contents
- `Backed`, `World.Covered` — the invariant.
- `Covered.later` — what an operation has to show.
- `Covered.lasting` — the invariant holds at every moment of every request.
- `mem_hiddenMessages`, `Backed.told` — what is left out of a prompt.
- `Usage.withoutImport`, `hidden_messages_are_told` — every run.
-/

namespace Recap

open World (Calm Step)

variable {h : Habits} {c : Config} {w u v : World}

/-! ## The invariant -/

/-- The tag of the message is the active one, or it is that of a summary that reaches over the
    message's place. -/
def Backed (ids : List String) (summaries : List Summary) (id : String) (t : Tag) : Prop :=
  t = .active ∨ ∃ s ∈ summaries, t.summaryId = some s.id ∧
    ∃ i : Nat, ids[i]? = some id ∧ s.startIndex.toNat ≤ i ∧ i ≤ s.endIndex.toNat

/-- A backed tag stays backed while the chat goes on and no summary is taken away. -/
theorem Backed.mono {ids ids' : List String} {ss ss' : List Summary} {id : String} {t : Tag}
    (ht : Backed ids ss id t) (hids : ids <+: ids') (hss : ss ⊆ ss') : Backed ids' ss' id t := by
  rcases ht with ht | ⟨s, hs, hname, i, hi, hfirst, hlast⟩
  · exact .inl ht
  · obtain ⟨later, rfl⟩ := hids
    refine .inr ⟨s, hss hs, hname, i, ?_, hfirst, hlast⟩
    rw [List.getElem?_append_left (List.getElem?_eq_some_iff.mp hi).1]
    exact hi

/-- All tags kept for the open chat are backed. -/
structure World.Covered (w : World) : Prop where
  sound : w.chat.Sound
  backed : ∀ id t, (w.tags w.chat.id).Keeps id t →
    Backed (w.chat.messages.map (·.id)) (w.level1 w.chat.id) id t

namespace World.Covered

/-- A chat without tags is covered. -/
theorem of_untagged (sound : w.chat.Sound) (untagged : w.tags w.chat.id = .empty) : w.Covered where
  sound := sound
  backed := by
    rw [untagged]
    exact fun id t ht => absurd ht (TagStore.not_keeps_empty id t)

/-- **What an operation has to show**: it takes nothing back, and each tag that it brings in is
    backed. -/
theorem later (hw : w.Covered) (hv : w.Continues v)
    (htags : ∀ id t, (v.tags w.chat.id).Keeps id t → (w.tags w.chat.id).Keeps id t ∨
      Backed (v.chat.messages.map (·.id)) (v.level1 w.chat.id) id t) : v.Covered where
  sound := hv.chat.sound hw.sound
  backed := by
    rw [hv.chat.id]
    intro id t ht
    rcases htags id t ht with ht | ht
    · exact (hw.backed id t ht).mono hv.chat.ids hv.level1_subset
    · exact ht

/-- An operation that brings in no tag leaves everything covered. -/
theorem later_of_tags_eq (hw : w.Covered) (hv : w.Continues v) (htags : v.tags = w.tags) :
    v.Covered := by
  refine hw.later hv fun id t ht => .inl ?_
  rwa [htags] at ht

end World.Covered

/-! ## Passes -/

section Passes

variable {chat : Chat} {cs : List Chapter} {time : Int64}

/-- A tag that a pass brings in is backed by the summary that the pass has saved before. -/
theorem Underway.backed (hp : Underway h c w chat cs u) (hs : chat.Sound) {new : List Summary}
    (hfiles : List.Forall₂ Chapter.Files cs new) {d : Chapter} (hd : d ∈ cs) {id : String}
    (hid : id ∈ d.messageIds) : Backed (chat.messages.map (·.id)) new id d.tag := by
  obtain ⟨p, hmem, rfl⟩ := List.mem_map.mp hid
  obtain ⟨s, hsnew, hfile⟩ := exists_partner hfiles hd
  have hfits : ∀ q ∈ d.chunk, q.1 < UInt64.size := fun q hq =>
    Nat.lt_of_lt_of_le (List.getElem?_eq_some_iff.mp (hp.getElem?_of_mem hd hq)).1 hs.fits
  have hcovers := d.covers ((workingSet_ascending _ _).sublist (hp.chunk_sublist hd)) hfits hmem
  refine .inr ⟨s, hsnew, by rw [hfile.id]; rfl, p.1, ?_, ?_, ?_⟩
  · rw [List.getElem?_map, hp.getElem?_of_mem hd hmem]
    rfl
  · rw [hfile.startIndex]
    exact hcovers.1
  · rw [hfile.endIndex]
    exact hcovers.2

/-- Tags saved by a pass after its record keep everything covered. -/
theorem World.Covered.filed (hw : w.Covered) (hm : h.Extending) (hp : Underway h c w chat cs u)
    (hv : Calm h (u.withPass w c chat cs time) v) : v.Covered := by
  obtain ⟨hseen, hsince⟩ := hp.extends hm
  obtain ⟨new, hnew, hfiles⟩ := hp.level1_withRecord time
  refine hw.later (hp.continues_withPass hm hv) fun id t ht => ?_
  rw [hv.tags, ← hseen.id, hp.tags_withPass] at ht
  rcases keeps_markAll ht with ⟨d, hd, hid, rfl⟩ | ht
  · -- a tag of the pass: its summary was saved with the record, and the chat has only grown since
    right
    rw [hv.level1, ← hseen.id, Underway.level1_withPass, hnew]
    exact (hp.backed (hseen.sound hw.sound) hfiles hd hid).mono
      (hsince.trans (hv.extends hm)).ids (List.subset_append_right _ _)
  · left
    rwa [hseen.id] at ht

/-- **A pass leaves everything covered**, wherever it is interrupted. -/
theorem World.Covered.pass (hw : w.Covered) (hm : h.Extending) (hv : PassReaches h c w v) :
    v.Covered := by
  cases hv with
  | calm hv => exact hw.later_of_tags_eq (hv.continues hm) hv.tags
  | recorded hp hv =>
    -- the tags are missing yet, or for good: then the new summaries stand for no message
    exact hw.later_of_tags_eq (hp.continues hm hv) (hv.tags.trans (hp.tags_withRecord _))
  | filed hp hv => exact hw.filed hm hp hv

end Passes

/-! ## Other operations -/

/-- Tagging a message as active keeps everything covered. -/
theorem World.Covered.rendered (hw : w.Covered) (hm : h.Extending) (hv : Rendered h w v) :
    v.Covered := by
  have hlater := hv.continues hm
  cases hv with
  | calm hv => exact hw.later_of_tags_eq hlater hv.tags
  | tagged hmem untagged hv =>
    refine hw.later hlater fun id t ht => ?_
    rw [hv.tags, World.putTags_tags] at ht
    rcases TagStore.keeps_write ht with ⟨-, rfl⟩ | ht
    · exact .inr (.inl rfl)
    · exact .inl ht

/-- A swipe brings back a tag that was covered all the time. -/
theorem World.Covered.restored (hw : w.Covered) (hm : h.Extending) (hv : Restored h w v) :
    v.Covered := by
  have hlater := hv.continues hm
  cases hv with
  | calm hv => exact hw.later_of_tags_eq hlater hv.tags
  | @tagged m _ _ hmem hr hv =>
    obtain ⟨k, -, -, rfl⟩ := TagStore.restoreSwipe?_eq_some hr
    refine hw.later hlater fun id t ht => ?_
    rw [hv.tags, World.putTags_tags] at ht
    rcases TagStore.keeps_write ht with ⟨rfl, rfl⟩ | ht
    · -- the tag that is written was kept for the swipe all along
      exact (TagStore.swipeTag_keeps (w.tags w.chat.id) m k).elim (fun ha => .inr (.inl ha)) .inl
    · exact .inl ht

/-- A fresh record brings in no tag. -/
theorem World.Covered.ensured (hw : w.Covered) (hm : h.Extending) (hv : Ensured h c w v) :
    v.Covered := by
  have hlater := hv.continues hm
  cases hv with
  | calm hv => exact hw.later_of_tags_eq hlater hv.tags
  | recorded missing hv => exact hw.later_of_tags_eq hlater hv.tags

/-- **No request but an import uncovers a tag**, at any moment. -/
theorem World.Covered.lasting (hm : h.Extending) : Lasting h World.Covered where
  calm hw hv := hw.later_of_tags_eq (hv.continues hm) hv.tags
  pass hw hv := hw.pass hm hv
  rendered hw hv := hw.rendered hm hv
  restored hw hv := hw.restored hm hv
  ensured hw hv := hw.ensured hm hv

/-! ## Every run -/

/-- Any use of an engine but for imports: messages are appended and swiped at any time, and every call
    may fail. -/
def Usage.withoutImport : Usage where
  makes r := r.isImport = false
  move := Chat.Moves
  mayFail _ _ := True

/-- What may be left out of a prompt is in the chat. -/
theorem getElem?_candidates {kind : GenerationKind} {messages : List Message} {i : Nat} {m : Message}
    (hm : (kind.candidates messages)[i]? = some m) : messages[i]? = some m := by
  cases kind with
  | normal => exact hm
  | continuing =>
    change messages.dropLast[i]? = some m at hm
    obtain ⟨last, hlast⟩ := List.dropLast_prefix messages
    rw [← hlast, List.getElem?_append_left (List.getElem?_eq_some_iff.mp hm).1]
    exact hm

/-- **What is left out of the prompt**: nothing where injection is switched off, and otherwise what may be
    left out and is summarized. -/
theorem mem_hiddenMessages {chat : Chat} {storage : Storage} {tags : TagStore} {kind : GenerationKind}
    {i : Nat} : i ∈ hiddenMessages chat storage tags kind ↔ storage.injection.enabled = true ∧
      ∃ m, (kind.candidates chat.messages)[i]? = some m ∧ tags.isSummarized m = true := by
  unfold hiddenMessages
  by_cases henabled : storage.injection.enabled = true
  · rw [if_pos henabled, mem_hiddenIndices]
    exact ⟨fun hi => ⟨henabled, hi⟩, fun hi => hi.2⟩
  · rw [if_neg henabled]
    exact ⟨(nomatch ·), fun h => absurd h.1 henabled⟩

/-- A message that is left out of the prompt is tagged as summarized. -/
theorem summarized_of_mem_hiddenMessages {chat : Chat} {storage : Storage} {tags : TagStore}
    {kind : GenerationKind} {i : Nat} (hi : i ∈ hiddenMessages chat storage tags kind) :
    ∃ m t, chat.messages[i]? = some m ∧ tags.tag? m.id = some t ∧ t.isActive = false := by
  obtain ⟨-, m, hm, hsummarized⟩ := mem_hiddenMessages.mp hi
  refine ⟨m, ?_⟩
  unfold TagStore.isSummarized at hsummarized
  cases htag : tags.tag? m.id with
  | none => simp [htag] at hsummarized
  | some t => exact ⟨t, getElem?_candidates hm, rfl, by simpa [htag] using hsummarized⟩

/-- A backed tag that is not the active one names a summary that reaches over the message, where
    messages can be told apart. -/
theorem Backed.told {messages : List Message} {summaries : List Summary} {m : Message} {t : Tag} {i : Nat}
    (hb : Backed (messages.map (·.id)) summaries m.id t) (distinct : (messages.map (·.id)).Nodup)
    (hm : messages[i]? = some m) (hactive : t.isActive = false) :
    ∃ s ∈ summaries, t.summaryId = some s.id ∧ s.startIndex.toNat ≤ i ∧ i ≤ s.endIndex.toNat := by
  rcases hb with rfl | ⟨s, hs, hname, j, hj, hfirst, hlast⟩
  · cases hactive
  · -- ids are distinct, so the place that the summary reaches over is that of the message
    have hi : (messages.map (·.id))[i]? = some m.id := by
      rw [List.getElem?_map, hm]
      rfl
    have hij : j = i := (List.getElem?_inj (List.getElem?_eq_some_iff.mp hj).1
      distinct).mp (hj.trans hi.symm)
    subst hij
    exact ⟨s, hs, hname, hfirst, hlast⟩

/-- **No message is hidden without a summary that tells it.** In every state of a run that starts
    without record and tags, each tag that carries the id of a summary names exactly one summary of the
    first tier, and each message that is left out of the prompt has a tag of a summary that reaches over
    its place. -/
theorem hidden_messages_are_told {w₀ w : World} (sound : w₀.chat.Sound)
    (unrecorded : w₀.storages w₀.chat.id = none) (untagged : w₀.tags w₀.chat.id = .empty)
    (hw : Usage.withoutImport.Reaches w₀ w) :
    ((w.level1 w.chat.id).map (·.id)).Nodup ∧
    (∀ id t summaryId, (w.tags w.chat.id).Keeps id t → t.summaryId = some summaryId →
      ∃ s ∈ w.level1 w.chat.id, s.id = summaryId) ∧
    ∀ c kind is v, (Operation.hidden c kind).run.Ends
        (Step (Usage.withoutImport.habits (.hidden c kind))) w (.ok is) v →
      ∀ i ∈ is, ∃ m t s, w.chat.messages[i]? = some m ∧ (w.tags w.chat.id).tag? m.id = some t ∧
        s ∈ w.level1 w.chat.id ∧ t.summaryId = some s.id ∧
        s.startIndex.toNat ≤ i ∧ i ≤ s.endIndex.toNat := by
  have hcovered : w.Covered := hw.lasting (.of_untagged sound untagged) (fun _ hr => hr)
    fun _ => World.Covered.lasting fun _ _ => Chat.Moves.extends
  have hnumbered : w.Numbered := hw.numbered unrecorded (fun _ hr => hr)
    fun _ _ => Chat.Moves.extends
  refine ⟨hnumbered.distinct, fun id t summaryId ht hid => ?_, fun c kind is v hd i hi => ?_⟩
  · rcases hcovered.backed id t ht with rfl | ⟨s, hs, hname, -⟩
    · cases hid
    · exact ⟨s, hs, Option.some.inj (hname.symm.trans hid)⟩
  · obtain ⟨-, his⟩ := (Operation.hidden_throughout c kind w).ends hd
    rw [his is rfl] at hi
    obtain ⟨m, t, hm, ht, hactive⟩ := summarized_of_mem_hiddenMessages hi
    obtain ⟨s, hs, hname, hfirst, hlast⟩ :=
      (hcovered.backed m.id t (.inl ht)).told hcovered.sound.distinct hm hactive
    exact ⟨m, t, s, hm, ht, hs, hname, hfirst, hlast⟩

/-- The short chat after a pass that was halted at its second message: the first one is hidden, and
    told. -/
theorem hidden_message_of_short_chat_is_told :
    let run := (Request.compact .thorough).dialogue.run (Obliging.answer .brief scripted)
      (Obliging.blank [some "They met.", none])
    let w := run.2.world .brief
    ((Operation.hidden .thorough .normal).run.run (Obliging.answer .brief scripted) run.2).1
        = .ok [0] ∧
      ∃ m t s, w.chat.messages[0]? = some m ∧ (w.tags w.chat.id).tag? m.id = some t ∧
        s ∈ w.level1 w.chat.id ∧ t.summaryId = some s.id ∧
        s.startIndex.toNat ≤ 0 ∧ 0 ≤ s.endIndex.toNat := by
  intro run w
  have hrun := Obliging.ends .brief scripted
    (Usage.withoutImport.habits (.compact .thorough)) (Request.compact .thorough).dialogue
    (Obliging.fresh_blank [some "They met.", none])
  have hhidden := Obliging.ends .brief scripted
    (Usage.withoutImport.habits (.hidden .thorough .normal))
    (Operation.hidden .thorough .normal).run hrun.2
  have hout : ((Operation.hidden .thorough .normal).run.run (Obliging.answer .brief scripted)
      run.2).1 = .ok [0] := by
    decide +kernel
  refine ⟨hout, ?_⟩
  rw [hout] at hhidden
  exact (hidden_messages_are_told ⟨by decide, by decide⟩ rfl rfl
    (.between (.served (r := .compact .thorough) .start rfl hrun.1))).2.2 _ _ _ _ hhidden.1 0
      (by simp)

end Recap
