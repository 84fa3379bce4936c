import Recap.Proofs.Engine.Chapter
import Recap.Proofs.Engine.World
import Recap.Proofs.Plan.Chunks

/-!
# What a pass can do to what is kept

A pass talks to its host for a long time, and saves twice at the end. For everything that is said of
records and tags it is enough to know which saves were made and what was in them. `PassReaches` lists
the states that a pass can be interrupted in, `PassEnds` the ends it can come to, each with what the
pass had filed by then; `perform_throughout` says that there are no others. All later statements about
passes are read off these two lists, and none follows the dialogue again.

## Contents
- `Filing` — chapters that can be filed between two states.
- `foldChunks_throughout` — folding files chapters, and saves nothing.
- `PassReaches`, `PassEnds` — the states a pass comes by, and its ends.
- `perform_throughout`, `maybePerform_throughout`.
-/

namespace Recap

open Relation (ReflTransGen)
open World (Calm Step)

variable {h : Habits} {c : Config}

/-! ## Folding -/

/-- Between the states `w` and `v` these chapters can have been filed: chunks of the given sizes from
    the front of `left`, each with a text and with an id that was new. -/
structure Filing (w v : World) (sizes : List Nat) (left : List (Nat × Message)) (cs : List Chapter) :
    Prop where
  front : ∃ rest, left = Chapter.covered cs ++ rest
  sizes : cs.map (·.chunk.length) <+: sizes
  nonempty : ∀ c ∈ cs, c.chunk ≠ []
  told : ∀ c ∈ cs, Text.allBlank c.text = false
  distinct : (cs.map (·.id)).Nodup
  fresh : ∀ c ∈ cs, c.id ∉ w.issued
  issued : ∀ c ∈ cs, c.id ∈ v.issued

/-- Nothing filed. -/
theorem Filing.nil (w v : World) (sizes : List Nat) (left : List (Nat × Message)) :
    Filing w v sizes left [] where
  front := ⟨left, rfl⟩
  sizes := List.nil_prefix
  nonempty := by simp
  told := by simp
  distinct := List.nodup_nil
  fresh := by simp
  issued := by simp

/-- Chapters that can be filed between two states can be filed in a longer time. -/
theorem Filing.mono {w w' v v' : World} {sizes : List Nat} {left : List (Nat × Message)}
    {cs : List Chapter} (hcs : Filing w v sizes left cs) (hw : w'.issued ⊆ w.issued)
    (hv : v.issued ⊆ v'.issued) : Filing w' v' sizes left cs :=
  { hcs with
    fresh := fun c hc hin => hcs.fresh c hc (hw hin)
    issued := fun c hc => hv (hcs.issued c hc) }

/-- Another chapter filed first. -/
theorem Filing.cons {w u v : World} {sizes : List Nat} {left rest : List (Nat × Message)}
    {d : Chapter} {cs : List Chapter} (hcs : Filing u v sizes rest cs) (hw : w.issued ⊆ u.issued)
    (hv : u.issued ⊆ v.issued) (hleft : left = d.chunk ++ rest) (hne : d.chunk ≠ [])
    (htold : Text.allBlank d.text = false) (hnew : d.id ∉ w.issued) (hid : d.id ∈ u.issued) :
    Filing w v (d.chunk.length :: sizes) left (d :: cs) where
  front := by
    obtain ⟨tail, htail⟩ := hcs.front
    exact ⟨tail, by rw [hleft, htail, ← List.append_assoc]; rfl⟩
  sizes := by
    rw [List.map_cons]
    exact (List.prefix_cons_inj _).mpr hcs.sizes
  nonempty := List.forall_mem_cons.mpr ⟨hne, hcs.nonempty⟩
  told := List.forall_mem_cons.mpr ⟨htold, hcs.told⟩
  distinct := by
    rw [List.map_cons, List.nodup_cons]
    refine ⟨fun hmem => ?_, hcs.distinct⟩
    obtain ⟨e, he, heq⟩ := List.mem_map.mp hmem
    exact hcs.fresh e he (heq ▸ hid)
  fresh := List.forall_mem_cons.mpr ⟨hnew, fun e he hin => hcs.fresh e he (hw hin)⟩
  issued := List.forall_mem_cons.mpr ⟨hv hid, hcs.issued⟩

/-- The state that folding ends in: all chapters are filed, or some are and the pass is halted. -/
def Folded (sizes : List Nat) (s s' : PassState) (cs : List Chapter) : Prop :=
  cs.length = sizes.length ∧ s' = s.file cs ∨ cs.length < sizes.length ∧ s' = (s.file cs).halt

/-- A chapter is folded, and then the others are. -/
theorem Folded.cons {size : Nat} {sizes : List Nat} {s s' : PassState} {d : Chapter}
    {cs : List Chapter} (hlen : d.chunk.length = size)
    (hf : Folded sizes (s.fold size d.id d.text d.time) s' cs) :
    Folded (size :: sizes) s s' (d :: cs) := by
  have hfold : s.fold size d.id d.text d.time = s.file [d] := by
    rw [← hlen]
    rfl
  rw [hfold] at hf
  rcases hf with ⟨hcs, hs'⟩ | ⟨hcs, hs'⟩
  · exact .inl ⟨by rw [List.length_cons, List.length_cons, hcs], hs'⟩
  · exact .inr ⟨Nat.succ_lt_succ hcs, hs'⟩

/-- **Folding files chapters from the front of what is left, and saves nothing.** -/
theorem foldChunks_throughout (total : Nat) {sizes : List Nat} {s : PassState} (w : World)
    (hpos : ∀ n ∈ sizes, 0 < n) (hsum : sizes.sum ≤ s.left.length) :
    (foldChunks total sizes s).Throughout (Step h) (Calm h w)
      (fun s' v => Calm h w v ∧ ∃ cs, Filing w v sizes s.left cs ∧ Folded sizes s s' cs) w := by
  induction sizes generalizing s w with
  | nil =>
    refine .finish (Calm.refl w) ⟨Calm.refl w, [], .nil .., .inl ⟨rfl, rfl⟩⟩
  | cons size sizes ih =>
    have halted : ∀ v, Calm h w v →
        Calm h w v ∧ ∃ cs, Filing w v (size :: sizes) s.left cs ∧
          Folded (size :: sizes) s s.halt cs := fun v hv =>
      ⟨hv, [], .nil .., .inr ⟨Nat.succ_pos _, rfl⟩⟩
    rw [foldChunks]
    refine .call (Calm.refl w) fun reply w₁ h₁ => ?_
    have c₁ : Calm h w w₁ := h₁.calm rfl
    cases reply with
    | none => exact .finish c₁ (halted w₁ c₁)
    | some text =>
      by_cases hblank : Text.allBlank text = true
      · simp only [hblank, if_true]
        exact .finish c₁ (halted w₁ c₁)
      · simp only [hblank, if_false, Bool.false_eq_true]
        refine .call c₁ fun id w₂ h₂ => ?_
        have c₂ : Calm h w w₂ := c₁.trans (h₂.calm rfl)
        refine .call c₂ fun now w₃ h₃ => ?_
        have c₃ : Calm h w w₃ := c₂.trans (h₃.calm rfl)
        refine .call c₃ fun _ w₄ h₄ => ?_
        have c₄ : Calm h w w₄ := c₃.trans (h₄.calm rfl)
        -- the answers make up the first chapter; the others are those of the rest of the loop
        have hlen : (s.left.take size).length = size := length_take_of_sum_le hsum
        have hsize : 0 < size := hpos size (by simp)
        obtain ⟨d, hd⟩ : ∃ d : Chapter, d = ⟨s.left.take size, id, text, now⟩ := ⟨_, rfl⟩
        have hchunk : d.chunk.length = size := by rw [hd]; exact hlen
        have hleft : s.left = d.chunk ++ s.left.drop size := by
          rw [hd]
          exact (List.take_append_drop size s.left).symm
        have hrest : (s.fold size id text now).left = s.left.drop size := rfl
        refine (ih w₄ (fun n hn => hpos n (by simp [hn])) ?_).mono (fun t ht => c₄.trans ht) ?_
        · rw [hrest]
          exact sum_le_length_drop hsum
        · rintro s' v ⟨hv, cs, hfiling, hfolded⟩
          rw [hrest] at hfiling
          refine ⟨c₄.trans hv, d :: cs, ?_, ?_⟩
          · rw [← hchunk]
            refine hfiling.cons c₄.issued hv.issued hleft ?_ ?_ ?_ ?_
            · intro hnil
              rw [hnil, List.length_nil] at hchunk
              omega
            · rw [hd]
              simpa using hblank
            · -- the id was new when it was given out, and ids are only added to
              rw [hd]
              exact fun hin => h₂.freshId.1 (c₁.issued hin)
            · rw [hd]
              exact ((h₃.calm rfl).trans (h₄.calm rfl)).issued h₂.freshId.2
          · refine .cons hchunk ?_
            rw [hd]
            exact hfolded

/-! ## Loading -/

/-- The record of a chat is loaded, or a fresh one stands for it. -/
theorem loadOrInit_throughout (c : Config) (chatId : String) (w : World) :
    (loadOrInit c chatId).Throughout (Step h) (Calm h w)
      (fun r v => Calm h w v ∧ ((∃ cause, r = .error cause) ∨
        r = .ok ((w.storages chatId).getD (.fresh c.defaultInjection),
          (w.storages chatId).isNone))) w := by
  unfold loadOrInit
  refine .call (.refl w) fun a v hs => ?_
  have hv : Calm h w v := hs.calm rfl
  rcases hs.loadStorage with ⟨cause, rfl⟩ | rfl
  · exact .finish hv ⟨hv, .inl ⟨cause, rfl⟩⟩
  · cases hstored : w.storages chatId with
    | none => exact .finish hv ⟨hv, .inr rfl⟩
    | some storage => exact .finish hv ⟨hv, .inr rfl⟩

/-- Record and tags of a chat are loaded as they are kept. -/
theorem loadState_throughout (c : Config) (chatId : String) (w : World) :
    (loadState c chatId).Throughout (Step h) (Calm h w)
      (fun r v => Calm h w v ∧ ((∃ cause, r = .error cause) ∨
        r = .ok ((w.storages chatId).getD (.fresh c.defaultInjection), w.tags chatId))) w := by
  unfold loadState
  refine .bind (loadOrInit_throughout c chatId w) ?_
  rintro r u - ⟨hu, ⟨cause, rfl⟩ | rfl⟩
  · exact .finish hu ⟨hu, .inl ⟨cause, rfl⟩⟩
  · refine .call hu fun a v hs => ?_
    have hv := hu.trans (hs.calm rfl)
    rcases hs.loadTags with ⟨cause, rfl⟩ | rfl
    · exact .finish hv ⟨hv, .inl ⟨cause, rfl⟩⟩
    · exact .finish hv ⟨hv, .inr (by rw [hu.tags])⟩

/-! ## Saving -/

/-- A record is saved, or nothing is. -/
theorem saveStorage_throughout (chatId : String) (storage : Storage) (w : World) :
    (saveStorage chatId storage).Throughout (Step h)
      (fun v => Calm h w v ∨ Calm h (w.putStorage chatId storage) v)
      (fun r v =>
        (∃ cause, r = .error (.persistence .storage chatId cause)) ∧ Calm h w v ∨
        r = .ok () ∧ Calm h (w.putStorage chatId storage) v) w := by
  unfold saveStorage
  refine .call (.inl (.refl w)) fun a v hs => ?_
  rcases hs.saveStorage with ⟨⟨cause, rfl⟩, hv⟩ | ⟨rfl, hv⟩
  · exact .finish (.inl hv) (.inl ⟨⟨cause, rfl⟩, hv⟩)
  · exact .finish (.inr hv) (.inr ⟨rfl, hv⟩)

/-- Tags are saved, or nothing is. -/
theorem saveTags_throughout (chatId : String) (tags : TagStore) (w : World) :
    (saveTags chatId tags).Throughout (Step h)
      (fun v => Calm h w v ∨ Calm h (w.putTags chatId tags) v)
      (fun r v =>
        (∃ cause, r = .error (.persistence .tags chatId cause)) ∧
          h.mayFail (.saveTags chatId tags) ∧ Calm h w v ∨
        r = .ok () ∧ Calm h (w.putTags chatId tags) v) w := by
  unfold saveTags
  refine .call (.inl (.refl w)) fun a v hs => ?_
  rcases hs.saveTags with ⟨hfail, ⟨cause, rfl⟩, hv⟩ | ⟨rfl, hv⟩
  · exact .finish (.inl hv) (.inl ⟨⟨cause, rfl⟩, hfail, hv⟩)
  · exact .finish (.inr hv) (.inr ⟨rfl, hv⟩)

/-- A record is saved and then tags, or the first save that fails ends it. -/
theorem saveState_throughout (chatId : String) (storage : Storage) (tags : TagStore) (w : World) :
    (saveState chatId storage tags).Throughout (Step h)
      (fun v => Calm h w v ∨ Calm h (w.putStorage chatId storage) v ∨
        Calm h ((w.putStorage chatId storage).putTags chatId tags) v)
      (fun r v =>
        (∃ cause, r = .error (.persistence .storage chatId cause)) ∧ Calm h w v ∨
        (∃ cause, r = .error (.persistence .tags chatId cause)) ∧
          h.mayFail (.saveTags chatId tags) ∧ Calm h (w.putStorage chatId storage) v ∨
        r = .ok () ∧ Calm h ((w.putStorage chatId storage).putTags chatId tags) v) w := by
  unfold saveState
  refine .bind ((saveStorage_throughout chatId storage w).mono (fun _ => Or.imp_right .inl)
    fun _ _ => id) ?_
  rintro r u - (⟨⟨cause, rfl⟩, hu⟩ | ⟨rfl, hu⟩)
  · exact .finish (.inl hu) (.inl ⟨⟨cause, rfl⟩, hu⟩)
  · refine (saveTags_throughout chatId tags u).mono ?_ ?_
    · rintro v (hv | hv)
      · exact .inr (.inl (hu.trans hv))
      · exact .inr (.inr ((hu.putTags chatId tags).trans hv))
    · rintro r v (⟨hr, hfail, hv⟩ | ⟨hr, hv⟩)
      · exact .inr (.inl ⟨hr, hfail, hu.trans hv⟩)
      · exact .inr (.inr ⟨hr, (hu.putTags chatId tags).trans hv⟩)

/-! ## The minor parts -/

/-- Borrowing a profile asks for the one in use and for the change, and for nothing else. -/
theorem borrowProfile_asks_only {p : HostCall → Prop} (hcurrent : p .currentProfile)
    (hswitch : ∀ profile, p (.switchProfile profile)) (c : Config) : (borrowProfile c).Asks p := by
  unfold borrowProfile
  split
  · exact .finish _
  · refine .call hcurrent fun current => ?_
    split
    · exact .finish _
    · split
      · exact .finish _
      · refine .call (hswitch _) fun outcome => ?_
        split <;> exact .finish _

theorem borrowProfile_asks (c : Config) : (borrowProfile c).Asks (·.isMinor = true) :=
  borrowProfile_asks_only (p := (·.isMinor = true)) rfl (fun _ => rfl) c

/-- Returning to a profile asks for that change only. -/
theorem returnProfile_asks_only {p : HostCall → Prop} (hswitch : ∀ profile, p (.switchProfile profile))
    (previous : Option String) : (returnProfile previous).Asks p := by
  cases previous with
  | none => exact .finish _
  | some previous => exact .call (hswitch previous) fun _ => .finish _

theorem returnProfile_asks (previous : Option String) :
    (returnProfile previous).Asks (·.isMinor = true) :=
  returnProfile_asks_only (p := (·.isMinor = true)) (fun _ => rfl) previous

/-- The prompt is set, and nothing else is asked. -/
theorem inject_asks_only {p : HostCall → Prop} (hset : ∀ block, p (.setBlock block)) (chat : Chat)
    (storage : Storage) : (inject chat storage).Asks p :=
  .call (hset _) fun _ => .finish _

theorem inject_asks (chat : Chat) (storage : Storage) :
    (inject chat storage).Asks (·.isMinor = true) :=
  inject_asks_only (p := (·.isMinor = true)) (fun _ => rfl) chat storage

/-- Folding asks for summaries, for their ids and times, and reports, and asks for nothing else. -/
theorem foldChunks_asks_only {p : HostCall → Prop}
    (hcompress : ∀ messages chapter, p (.compress messages chapter)) (hid : p .freshId)
    (hnow : p .now) (hreport : ∀ event, p (.report event)) (total : Nat) (sizes : List Nat)
    (s : PassState) : (foldChunks total sizes s).Asks p := by
  induction sizes generalizing s with
  | nil => exact .finish _
  | cons size sizes ih =>
    rw [foldChunks]
    refine .call (hcompress _ _) fun reply => ?_
    cases reply with
    | none => exact .finish _
    | some text =>
      by_cases hblank : Text.allBlank text = true
      · simp only [hblank, if_true]
        exact .finish _
      · simp only [hblank, if_false, Bool.false_eq_true]
        exact .call hid fun id => .call hnow fun now => .call (hreport _) fun _ => ih _

/-- Saving tags asks for nothing else. -/
theorem saveTags_asks_only {p : HostCall → Prop} {chatId : String} {tags : TagStore}
    (htags : p (.saveTags chatId tags)) : (saveTags chatId tags).Asks p := by
  refine .call htags fun r => ?_
  cases r with
  | ok _ => exact .finish _
  | error cause => exact .finish _

/-- Saving a record asks for nothing else. -/
theorem saveStorage_asks_only {p : HostCall → Prop} {chatId : String} {storage : Storage}
    (hstorage : p (.saveStorage chatId storage)) : (saveStorage chatId storage).Asks p := by
  refine .call hstorage fun r => ?_
  cases r with
  | ok _ => exact .finish _
  | error cause => exact .finish _

/-- Saving a record and tags asks for nothing else. -/
theorem saveState_asks_only {p : HostCall → Prop} {chatId : String} {storage : Storage} {tags : TagStore}
    (hstorage : p (.saveStorage chatId storage)) (htags : p (.saveTags chatId tags)) :
    (saveState chatId storage tags).Asks p := by
  refine (saveStorage_asks_only hstorage).bind fun r => ?_
  cases r with
  | error e => exact .finish _
  | ok _ => exact saveTags_asks_only htags

/-- A pass over a working set asks what folding and saving ask, and minor questions besides. -/
theorem compact_asks_only {p : HostCall → Prop} (hminor : ∀ q : HostCall, q.isMinor = true → p q)
    {c : Config} {chat : Chat} {storage : Storage} {tags : TagStore} {working : List (Nat × Message)}
    (hfold : let plan := planChunks working.length c.chunkSize.toNat c.targetCompression.toNat
      (foldChunks plan.totalBatches plan.chunks
        { storage, tags, left := working, report := .empty }).Asks p)
    (hsave : ∀ record tags', (saveState chat.id record tags').Asks p) :
    (compact c chat storage tags working).Asks p := by
  unfold compact
  refine ((borrowProfile_asks c).mono hminor).bind fun previous => ?_
  refine .call (hminor _ rfl) fun _ => hfold.bind fun s => ?_
  refine ((returnProfile_asks previous).mono hminor).bind fun _ => ?_
  refine .call (hminor _ rfl) fun now => (hsave _ _).bind fun r => ?_
  cases r with
  | error e => exact .call (hminor _ rfl) fun _ => .finish _
  | ok _ =>
    refine ((inject_asks chat _).mono hminor).bind fun _ => ?_
    exact .call (hminor _ rfl) fun _ => .finish _

/-! ## A pass -/

/-- The record that a pass saves at a time. -/
def PassState.record (s : PassState) (chat : Chat) (time : Int64) : Storage :=
  Storage.refresh { s.storage with stats := { s.storage.stats with lastCompactTime := some time } }
    chat s.tags

/-- What a pass over `chat` begins with, the record and the tags of the chat being these. -/
def PassState.initial (c : Config) (chat : Chat) (kept : Option Storage) (tags : TagStore) :
    PassState :=
  { storage := kept.getD (.fresh c.defaultInjection)
    tags
    left := workingSet chat.messages tags
    report := .empty }

namespace World

/-- What a pass over `chat` begins with. -/
def passStart (w : World) (c : Config) (chat : Chat) : PassState :=
  .initial c chat (w.storages chat.id) (w.tags chat.id)

/-- It begins with the first tier that is kept for the chat. -/
theorem level1_passStart (w : World) (c : Config) (chat : Chat) :
    (w.passStart c chat).storage.level1.summaries = w.level1 chat.id := by
  show ((w.storages chat.id).getD (.fresh c.defaultInjection)).level1.summaries = _
  unfold level1
  cases w.storages chat.id with
  | none => rfl
  | some storage => rfl

/-- The host once a pass over `chat` has saved its record. -/
def withRecord (u w : World) (c : Config) (chat : Chat) (cs : List Chapter) (time : Int64) : World :=
  u.putStorage chat.id (((w.passStart c chat).file cs).record chat time)

/-- The host once a pass over `chat` has saved its record and its tags. -/
def withPass (u w : World) (c : Config) (chat : Chat) (cs : List Chapter) (time : Int64) : World :=
  (u.withRecord w c chat cs time).putTags chat.id ((w.passStart c chat).file cs).tags

end World

/-- A pass that began in `w`, over the chat as it saw it, has come to `u` without a save and has filed
    these chapters. -/
structure Underway (h : Habits) (c : Config) (w : World) (chat : Chat) (cs : List Chapter)
    (u : World) : Prop where
  calm : Calm h w u
  seen : ReflTransGen h.move w.chat chat
  since : ReflTransGen h.move chat u.chat
  filing : Filing w u
    (planChunks (workingSet chat.messages (w.tags chat.id)).length c.chunkSize.toNat
      c.targetCompression.toNat).chunks
    (workingSet chat.messages (w.tags chat.id)) cs

/-- The states that a pass begun in `w` can come by. -/
inductive PassReaches (h : Habits) (c : Config) (w : World) : World → Prop where
  /-- Nothing is saved yet. -/
  | calm {v : World} (hv : Calm h w v) : PassReaches h c w v
  /-- The record is saved and the tags are not. -/
  | recorded {chat : Chat} {cs : List Chapter} {time : Int64} {u v : World}
      (hp : Underway h c w chat cs u) (hv : Calm h (u.withRecord w c chat cs time) v) :
      PassReaches h c w v
  /-- Both are saved. -/
  | filed {chat : Chat} {cs : List Chapter} {time : Int64} {u v : World}
      (hp : Underway h c w chat cs u) (hv : Calm h (u.withPass w c chat cs time) v) :
      PassReaches h c w v

/-- The ends that a pass begun in `w` can come to. -/
inductive PassEnds (h : Habits) (c : Config) (w : World) :
    Except EngineError Outcome → World → Prop where
  | skipped {reason : SkipReason} {v : World} (hv : Calm h w v) :
      PassEnds h c w (.ok (.skipped reason)) v
  | notRecorded {chatId cause : String} {v : World} (hv : Calm h w v) :
      PassEnds h c w (.error (.persistence .storage chatId cause)) v
  | notTagged {chat : Chat} {cs : List Chapter} {time : Int64} {cause : String} {u v : World}
      (hp : Underway h c w chat cs u)
      (hfail : h.mayFail (.saveTags chat.id ((w.passStart c chat).file cs).tags))
      (hv : Calm h (u.withRecord w c chat cs time) v) :
      PassEnds h c w (.error (.persistence .tags chat.id cause)) v
  | completed {chat : Chat} {cs : List Chapter} {time : Int64} {report : Report} {u v : World}
      (hp : Underway h c w chat cs u) (hv : Calm h (u.withPass w c chat cs time) v) :
      PassEnds h c w (.ok (.completed report)) v

/-- What comes after a state of a pass without a save is one of its states. -/
theorem PassReaches.calm_after {w v t : World} (hv : PassReaches h c w v) (ht : Calm h v t) :
    PassReaches h c w t := by
  cases hv with
  | calm hv => exact .calm (hv.trans ht)
  | recorded hp hv => exact .recorded hp (hv.trans ht)
  | filed hp hv => exact .filed hp (hv.trans ht)

/-- What comes after the end of a pass without a save is an end of it. -/
theorem PassEnds.calm_after {w v t : World} {r : Except EngineError Outcome}
    (hv : PassEnds h c w r v) (ht : Calm h v t) : PassEnds h c w r t := by
  cases hv with
  | skipped hv => exact .skipped (hv.trans ht)
  | notRecorded hv => exact .notRecorded (hv.trans ht)
  | notTagged hp hfail hv => exact .notTagged hp hfail (hv.trans ht)
  | completed hp hv => exact .completed hp (hv.trans ht)

/-- The end of a pass is one of its states. -/
theorem PassEnds.reaches {w v : World} {r : Except EngineError Outcome} (hv : PassEnds h c w r v) :
    PassReaches h c w v := by
  cases hv with
  | skipped hv => exact .calm hv
  | notRecorded hv => exact .calm hv
  | notTagged hp _ hv => exact .recorded hp hv
  | completed hp hv => exact .filed hp hv

/-- A halted pass has filed what it had filed. -/
theorem Folded.storage_tags {sizes : List Nat} {s s' : PassState} {cs : List Chapter}
    (hf : Folded sizes s s' cs) : s'.storage = (s.file cs).storage ∧ s'.tags = (s.file cs).tags := by
  rcases hf with ⟨-, rfl⟩ | ⟨-, rfl⟩
  · exact ⟨rfl, rfl⟩
  · exact ⟨rfl, rfl⟩

/-- A pass over a working set, once record and tags are loaded. -/
theorem compact_throughout {chat : Chat} {w₀ w : World} (hw : Calm h w₀ w)
    (seen : ReflTransGen h.move w₀.chat chat) (since : ReflTransGen h.move chat w.chat) :
    (compact c chat (w₀.passStart c chat).storage (w₀.passStart c chat).tags
      (w₀.passStart c chat).left).Throughout (Step h) (PassReaches h c w₀) (PassEnds h c w₀) w := by
  have quiet : ∀ {v}, Calm h w v → PassReaches h c w₀ v := fun hv => .calm (hw.trans hv)
  unfold compact
  refine .bind (((borrowProfile_asks c).calm (.refl w)).mono (fun _ => quiet) fun _ _ => id)
    fun previous w₁ _ h₁ => ?_
  refine .call (quiet h₁) fun _ w₂ s₂ => ?_
  have h₂ := h₁.trans (s₂.calm rfl)
  refine .bind ((foldChunks_throughout _ w₂ (planChunks_pos _ _ _)
    (planChunks_sum_le _ _ _)).mono (fun _ hv => quiet (h₂.trans hv)) fun _ _ => id) ?_
  rintro s w₃ - ⟨h₃, cs, hfiling, hfolded⟩
  have quiet₃ : ∀ {v}, Calm h w₃ v → PassReaches h c w₀ v := fun hv => quiet ((h₂.trans h₃).trans hv)
  refine .bind (((returnProfile_asks previous).calm (.refl w₃)).mono (fun _ => quiet₃)
    fun _ _ => id) fun _ w₄ _ h₄ => ?_
  refine .call (quiet₃ h₄) fun now w₅ s₅ => ?_
  have h₅ := h₄.trans (s₅.calm rfl)
  -- what is saved is what the chapters make of the record and the tags that were loaded
  obtain ⟨hstorage, htags⟩ := hfolded.storage_tags
  have hp : Underway h c w₀ chat cs w₅ := by
    have hcalm := (h₂.trans h₃).trans h₅
    exact ⟨hw.trans hcalm, seen, since.trans hcalm.chat,
      hfiling.mono (List.Subset.trans hw.issued h₂.issued) h₅.issued⟩
  rw [hstorage, htags]
  refine .bind ((saveState_throughout chat.id
    (((w₀.passStart c chat).file cs).record chat now) ((w₀.passStart c chat).file cs).tags w₅).mono
      ?_ fun _ _ => id) ?_
  · rintro v (hv | hv | hv)
    · exact quiet₃ (h₅.trans hv)
    · exact .recorded hp hv
    · exact .filed hp hv
  -- the first save can fail, then the second one; a pass that is through goes on to the prompt
  rintro r v - (⟨⟨cause, rfl⟩, hv⟩ | ⟨⟨cause, rfl⟩, hfail, hv⟩ | ⟨rfl, hv⟩)
  · refine .call (quiet₃ (h₅.trans hv)) fun _ u hs => ?_
    have hu := (hp.calm.trans hv).trans (hs.calm rfl)
    exact .finish (.calm hu) (.notRecorded hu)
  · refine .call (.recorded hp hv) fun _ u hs => ?_
    have hu := hv.trans (hs.calm rfl)
    exact .finish (.recorded hp hu) (.notTagged hp hfail hu)
  · refine .bind (((inject_asks chat _).calm hv).mono (fun _ => .filed hp) fun _ _ => id)
      fun _ u _ hu => ?_
    refine .call (.filed hp hu) fun _ t hs => ?_
    have ht := hu.trans (hs.calm rfl)
    exact .finish (.filed hp ht) (.completed hp ht)

/-- A pass with the lock, begun in `w₀` and come to `w`. -/
theorem passBody_throughout {w₀ w : World} (hw : Calm h w₀ w) :
    (passBody c).Throughout (Step h) (PassReaches h c w₀) (PassEnds h c w₀) w := by
  have quiet : ∀ {v}, Calm h w v → PassReaches h c w₀ v := fun hv => .calm (hw.trans hv)
  unfold passBody
  refine .call (quiet (.refl w)) fun a w₁ s₁ => ?_
  have h₁ : Calm h w w₁ := s₁.calm rfl
  rcases s₁.currentChat with rfl | rfl
  · exact .finish (quiet h₁) (.skipped (hw.trans h₁))
  refine .bind ((loadState_throughout c w.chat.id w₁).mono (fun _ hv => quiet (h₁.trans hv))
    fun _ _ => id) ?_
  rintro r w₂ - ⟨h₂, ⟨cause, rfl⟩ | rfl⟩
  · exact .finish (quiet (h₁.trans h₂)) (.skipped (hw.trans (h₁.trans h₂)))
  have h₁₂ := hw.trans (h₁.trans h₂)
  -- nothing was saved since `w₀`, so what was loaded is what was kept then
  rw [h₁.storages, h₁.tags, hw.storages, hw.tags]
  by_cases hempty : (workingSet w.chat.messages (w₀.tags w.chat.id)).isEmpty = true
  · simp only [hempty, if_true]
    exact .finish (.calm h₁₂) (.skipped h₁₂)
  · simp only [hempty, if_false, Bool.false_eq_true]
    exact compact_throughout h₁₂ hw.chat (h₁.trans h₂).chat

/-- **A pass comes by the listed states only, and to the listed ends.** -/
theorem perform_throughout {w₀ w : World} (hw : Calm h w₀ w) :
    (perform c).Throughout (Step h) (PassReaches h c w₀) (PassEnds h c w₀) w := by
  unfold perform
  refine .call (.calm hw) fun a u hs => ?_
  have hu := hw.trans (hs.calm rfl)
  cases a with
  | false => exact .finish (.calm hu) (.skipped hu)
  | true =>
    refine .bind (passBody_throughout hu) fun r v hI hv => ?_
    refine .call hI fun _ t ht => ?_
    exact .finish (hI.calm_after (ht.calm rfl)) (hv.calm_after (ht.calm rfl))

/-- **A pass that is started by itself does what any pass does.** -/
theorem maybePerform_throughout {w₀ w : World} (hw : Calm h w₀ w) :
    (maybePerform c).Throughout (Step h) (PassReaches h c w₀) (PassEnds h c w₀) w := by
  unfold maybePerform
  refine .call (.calm hw) fun a u hs => ?_
  have hu := hw.trans (hs.calm rfl)
  rcases hs.currentChat with rfl | rfl
  · exact .finish (.calm hu) (.skipped hu)
  refine .call (.calm hu) fun a v hs => ?_
  have hv := hu.trans (hs.calm rfl)
  rcases hs.loadTags with ⟨cause, rfl⟩ | rfl
  · exact .finish (.calm hv) (.skipped hv)
  · by_cases hdue : c.isDue w.chat (u.tags w.chat.id) = true
    · simp only [hdue, if_true]
      exact perform_throughout hv
    · simp only [hdue, if_false, Bool.false_eq_true]
      exact .finish (.calm hv) (.skipped hv)

/-! ## What a pass has saved -/

namespace Underway

variable {w u : World} {chat : Chat} {cs : List Chapter}

/-- The first tier of a record that a pass saved: that of the record before, and a summary for each
    chapter. -/
theorem level1_withRecord (hp : Underway h c w chat cs u) (time : Int64) :
    ∃ new, (u.withRecord w c chat cs time).level1 chat.id = w.level1 chat.id ++ new ∧
      List.Forall₂ Chapter.Files cs new := by
  obtain ⟨rest, hfront⟩ := hp.filing.front
  obtain ⟨new, hnew, hfiles⟩ := appendAll_summaries (w.passStart c chat).storage.level1 cs
  refine ⟨new, ?_, hfiles⟩
  unfold World.withRecord
  rw [World.level1_putStorage, file_eq (s := w.passStart c chat) hfront, ← w.level1_passStart c,
    ← hnew]
  rfl

theorem level1_withPass (u w : World) (c : Config) (chat : Chat) (cs : List Chapter) (time : Int64) :
    (u.withPass w c chat cs time).level1 chat.id
      = (u.withRecord w c chat cs time).level1 chat.id := rfl

/-- A pass that has saved its record only has changed no tag. -/
theorem tags_withRecord (hp : Underway h c w chat cs u) (time : Int64) :
    (u.withRecord w c chat cs time).tags = w.tags := hp.calm.tags

/-- The tags that a pass saved: those before, and the tags of its chapters. -/
theorem tags_withPass (hp : Underway h c w chat cs u) (time : Int64) :
    (u.withPass w c chat cs time).tags chat.id = (w.tags chat.id).markAll cs := by
  obtain ⟨rest, hfront⟩ := hp.filing.front
  unfold World.withPass
  rw [World.putTags_tags, file_eq (s := w.passStart c chat) hfront]
  rfl

/-- The messages of a chapter are ones that the pass was to work on. -/
theorem chunk_sublist (hp : Underway h c w chat cs u) {d : Chapter} (hd : d ∈ cs) :
    d.chunk.Sublist (workingSet chat.messages (w.tags chat.id)) := by
  obtain ⟨rest, hfront⟩ := hp.filing.front
  rw [hfront]
  refine List.Sublist.trans ?_ (List.sublist_append_left _ _)
  exact List.sublist_flatten_of_mem (List.mem_map.mpr ⟨d, hd, rfl⟩)

/-- A message of a chapter is in the chat, at the place that is noted with it. -/
theorem getElem?_of_mem (hp : Underway h c w chat cs u) {d : Chapter} (hd : d ∈ cs)
    {p : Nat × Message} (hmem : p ∈ d.chunk) : chat.messages[p.1]? = some p.2 :=
  (mem_workingSet.mp ((hp.chunk_sublist hd).subset hmem)).1

end Underway

end Recap
