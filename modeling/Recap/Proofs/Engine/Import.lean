import Recap.Proofs.Engine.Backing

/-!
# What an import leaves hidden

An import puts the record of a document in the place of the chat's record. Which messages are left out of
the prompt is said by the tags, and an import does not touch them: they go on naming the summaries of
the record that was replaced. A document that lacks one of those leaves messages hidden that nothing
tells any more; the empty document leaves all of them so (`empty_import_leaves_messages_untold`).

What an import does keep is the other half of `hidden_messages_are_told`. Every hidden message still has
the tag of a summary that the replaced record had, reaching over its place; and it is told by the new
record just if that has a summary under the same id, so that nothing is lost where all ids come back
(`hidden_after_import`).

## Contents
- `Imported`, `Operation.importText_throughout` — what an import saves.
- `Obliging.compacted`, `Obliging.emptied` — the short chat, and the import of a document that says nothing.
- `hidden_after_import` — what is hidden after it, and by which summaries.
- `empty_import_leaves_messages_untold` — a message that is hidden and told nowhere.
-/

namespace Recap

open World (Calm Step)

variable {h : Habits} {w v : World}

/-! ## What an import saves -/

/-- From `w` to `v` nothing was saved, or the record of the document in the place of the chat's. -/
inductive Imported (h : Habits) (text : String) (w : World) : World → Prop where
  | calm {v : World} (hv : Calm h w v) : Imported h text w v
  | replaced {storage : Storage} {v : World} (hread : importDocument text = .ok storage)
      (hv : Calm h (w.putStorage w.chat.id storage) v) : Imported h text w v

/-- **An import that goes well has put the document's record in place**, and saved nothing else. -/
theorem Operation.importText_throughout (text : String) (w : World) :
    (importText text).run.Throughout (Step h) (Imported h text w)
      (fun r v => (∃ e, r = .error e ∧ Calm h w v) ∨
        ∃ storage, r = .ok storage ∧ importDocument text = .ok storage ∧
          Calm h (w.putStorage w.chat.id storage) v) w := by
  unfold importText
  refine onChat (fun _ => .calm) (fun e _ hv => .inl ⟨e, rfl, hv⟩) fun u hu => ?_
  cases hread : importDocument text with
  | error fault => exact .finish (.calm hu) (.inl ⟨_, rfl, hu⟩)
  | ok storage =>
    have saved : ∀ {t}, Calm h (u.putStorage w.chat.id storage) t →
        Calm h (w.putStorage w.chat.id storage) t := fun ht => (hu.putStorage _ _).trans ht
    refine .except ((saveStorage_throughout w.chat.id storage u).mono ?_ fun _ _ => id) ?_ ?_
    · rintro t (ht | ht)
      · exact .calm (hu.trans ht)
      · exact .replaced hread (saved ht)
    · rintro a t - (⟨⟨cause, ha⟩, -⟩ | ⟨-, ht⟩)
      · cases ha
      · -- the prompt is set last, and nothing of that can fail
        have hinject : (ExceptT.lift (inject w.chat storage) : Operation String).run.Throughout (Step h)
            (Imported h text w) (fun r v => (∃ shown, r = .ok shown) ∧
              Calm h (u.putStorage w.chat.id storage) v) t :=
          Dialogue.Throughout.bind (((inject_asks w.chat storage).calm ht).mono
            (fun _ hv => .replaced hread (saved hv)) fun _ _ => id)
            fun shown _ hI hv => .finish hI ⟨⟨shown, rfl⟩, hv⟩
        refine .except hinject ?_ ?_
        · exact fun _ v hI hv => .finish hI (.inr ⟨storage, rfl, rfl, saved hv.2⟩)
        · rintro e v - ⟨⟨shown, he⟩, -⟩
          cases he
    · rintro e t - (⟨-, ht⟩ | ⟨he, -⟩)
      · exact .inl ⟨e, rfl, hu.trans ht⟩
      · cases he

/-! ## A document that says nothing -/

/-- An object without fields. -/
def emptyDocument : String := "\x7b\x7d"

namespace Obliging

/-- The short chat before any pass. -/
def untold : Obliging (List (Option String)) := blank [some "They met.", some "They parted."]

/-- The short chat after a pass over all of it. -/
def compacted : Obliging (List (Option String)) :=
  ((Request.compact .thorough).dialogue.run (answer .brief scripted) untold).2

/-- The short chat after the import of a document that says nothing. -/
def emptied : Except EngineError Storage × Obliging (List (Option String)) :=
  (Operation.importText emptyDocument).run.run (answer .brief scripted) compacted

theorem compacted_reached :
    Usage.withoutImport.Reaches (untold.world .brief) (compacted.world .brief) ∧ compacted.Fresh := by
  have hrun := ends .brief scripted (Usage.withoutImport.habits (.compact .thorough))
    (Request.compact .thorough).dialogue (fresh_blank [some "They met.", some "They parted."])
  exact ⟨.between (.served (r := .compact .thorough) .start rfl hrun.1), hrun.2⟩

/-- The document is read as a record without summaries. -/
theorem emptied_ok : ∃ imported, emptied.1 = .ok imported ∧ imported.hasSummaries = false := by
  have hempty : emptied.1.toOption.any (fun s => !s.hasSummaries) = true := by decide +kernel
  cases hres : emptied.1 with
  | error e =>
    rw [hres] at hempty
    cases hempty
  | ok imported =>
    rw [hres] at hempty
    exact ⟨imported, rfl, by simpa [Except.toOption] using hempty⟩

theorem emptied_hidden :
    ((Operation.hidden .thorough .normal).run.run (answer .brief scripted) emptied.2).1
      = .ok [0, 2] := by
  decide +kernel

end Obliging

/-! ## What is hidden after it -/

/-- **What is hidden after an import.** The record is that of the document, and the tags are those from
    before. They alone say what is hidden, unless the new record switches injection off; and each hidden
    message has the tag of a summary that the replaced record had, and that reached over its place. So
    where the new record has summaries under all those ids, each hidden message is told by one of them. -/
theorem hidden_after_import {w₀ : World} (sound : w₀.chat.Sound)
    (unrecorded : w₀.storages w₀.chat.id = none) (untagged : w₀.tags w₀.chat.id = .empty)
    (hw : Usage.withoutImport.Reaches w₀ w) {text : String} {imported : Storage}
    (hi : (Operation.importText text).run.Ends
      (Step (Usage.withoutImport.habits (.importText text))) w (.ok imported) v) :
    importDocument text = .ok imported ∧ v.storages w.chat.id = some imported ∧ v.tags = w.tags ∧
    ((w.level1 w.chat.id).map (·.id)).Nodup ∧
    ∀ c kind is t, (Operation.hidden c kind).run.Ends
        (Step (Usage.withoutImport.habits (.hidden c kind))) v (.ok is) t →
      (∀ i, i ∈ is ↔ imported.injection.enabled = true ∧
        ∃ m, (kind.candidates v.chat.messages)[i]? = some m ∧
          (w.tags w.chat.id).isSummarized m = true) ∧
      (∀ i ∈ is, ∃ m tag s, v.chat.messages[i]? = some m ∧
        (w.tags w.chat.id).tag? m.id = some tag ∧ s ∈ w.level1 w.chat.id ∧
        tag.summaryId = some s.id ∧ s.startIndex.toNat ≤ i ∧ i ≤ s.endIndex.toNat) ∧
      ((∀ s ∈ w.level1 w.chat.id,
          ∃ s' ∈ imported.level1.summaries ++ imported.level2.summaries, s'.id = s.id) →
        ∀ i ∈ is, ∃ m tag s', v.chat.messages[i]? = some m ∧
          (v.tags v.chat.id).tag? m.id = some tag ∧
          s' ∈ imported.level1.summaries ++ imported.level2.summaries ∧
          tag.summaryId = some s'.id) := by
  have hcovered : w.Covered := hw.lasting (.of_untagged sound untagged) (fun _ hr => hr)
    fun _ => World.Covered.lasting fun _ _ => Chat.Moves.extends
  have hnumbered : w.Numbered := hw.numbered unrecorded (fun _ hr => hr)
    fun _ _ => Chat.Moves.extends
  obtain ⟨e, he, -⟩ | ⟨storage, hstorage, hread, hv⟩ :=
    (Operation.importText_throughout text w).ends hi
  · cases he
  obtain rfl : imported = storage := Except.ok.inj hstorage
  have hchat : w.chat.Extends v.chat := hv.extends fun _ _ => Chat.Moves.extends
  have hrecord : v.storages w.chat.id = some imported := by
    rw [hv.storages, World.putStorage_storages]
  have htags : v.tags = w.tags := hv.tags
  refine ⟨hread, hrecord, htags, hnumbered.distinct, fun c kind is t hd => ?_⟩
  obtain ⟨-, his⟩ := (Operation.hidden_throughout c kind v).ends hd
  have his := his is rfl
  rw [hchat.id, hrecord, htags] at his
  -- the tags were backed by the record that is replaced, and the chat has only been extended
  have htold : ∀ i ∈ is, ∃ m tag s, v.chat.messages[i]? = some m ∧
      (w.tags w.chat.id).tag? m.id = some tag ∧ s ∈ w.level1 w.chat.id ∧
      tag.summaryId = some s.id ∧ s.startIndex.toNat ≤ i ∧ i ≤ s.endIndex.toNat := by
    intro i hin
    rw [his] at hin
    obtain ⟨m, tag, hm, htag, hactive⟩ := summarized_of_mem_hiddenMessages hin
    obtain ⟨s, hs, hname, hreach⟩ :=
      ((hcovered.backed m.id tag (.inl htag)).mono hchat.ids (List.Subset.refl _)).told
        (hchat.sound hcovered.sound).distinct hm hactive
    exact ⟨m, tag, s, hm, htag, hs, hname, hreach⟩
  refine ⟨fun i => ?_, htold, fun hids i hin => ?_⟩
  · rw [his]
    exact mem_hiddenMessages
  · obtain ⟨m, tag, s, hm, htag, hs, hname, -⟩ := htold i hin
    obtain ⟨s', hs', hid⟩ := hids s hs
    refine ⟨m, tag, s', hm, ?_, hs', by rw [hname, hid]⟩
    rw [htags, hchat.id]
    exact htag

/-- The short chat is compacted and then the empty document is imported: what is hidden was told by the
    record that is gone. -/
theorem hidden_after_empty_import :
    let w := Obliging.compacted.world .brief
    ((Operation.hidden .thorough .normal).run.run (Obliging.answer .brief scripted)
        Obliging.emptied.2).1 = .ok [0, 2] ∧
      ∃ m tag s, Chat.brief.messages[2]? = some m ∧ (w.tags "brief").tag? m.id = some tag ∧
        s ∈ w.level1 "brief" ∧ tag.summaryId = some s.id ∧
        s.startIndex.toNat ≤ 2 ∧ 2 ≤ s.endIndex.toNat := by
  intro w
  obtain ⟨hreached, hfresh⟩ := Obliging.compacted_reached
  have himport := Obliging.ends .brief scripted (Usage.withoutImport.habits (.importText emptyDocument))
    (Operation.importText emptyDocument).run hfresh
  have hhidden := Obliging.ends .brief scripted
    (Usage.withoutImport.habits (.hidden .thorough .normal))
    (Operation.hidden .thorough .normal).run himport.2
  refine ⟨Obliging.emptied_hidden, ?_⟩
  obtain ⟨imported, hok, -⟩ := Obliging.emptied_ok
  have himported := himport.1
  have hafter := hhidden.1
  unfold Obliging.emptied at hok
  have hout := Obliging.emptied_hidden
  unfold Obliging.emptied at hout
  rw [hok] at himported
  rw [hout] at hafter
  obtain ⟨-, -, -, -, htold⟩ :=
    hidden_after_import ⟨by decide, by decide⟩ rfl rfl hreached himported
  exact (htold _ _ _ _ hafter).2.1 2 (by simp)

/-- **A hidden message can be told nowhere.** Once a pass over the short chat was followed by an import of
    the empty document, both spoken messages are hidden, and the record has no summary. -/
theorem empty_import_leaves_messages_untold :
    Usage.withoutImport.Reaches (Obliging.untold.world .brief) (Obliging.compacted.world .brief) ∧
    ∃ imported, Obliging.emptied.1 = .ok imported ∧
      ((Operation.hidden .thorough .normal).run.run (Obliging.answer .brief scripted)
        Obliging.emptied.2).1 = .ok [0, 2] ∧
      imported.hasSummaries = false ∧
      ∀ s, s ∉ imported.level1.summaries ++ imported.level2.summaries := by
  obtain ⟨imported, hok, hnone⟩ := Obliging.emptied_ok
  refine ⟨Obliging.compacted_reached.1, imported, hok, Obliging.emptied_hidden, hnone, fun s hs => ?_⟩
  simp only [Storage.hasSummaries, Tier.isEmpty, Bool.or_eq_false_iff, Bool.not_eq_false',
    List.isEmpty_iff] at hnone
  rw [hnone.1.1, hnone.1.2] at hs
  cases hs

end Recap
