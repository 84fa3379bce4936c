import Recap.Proofs.Engine.Runs

/-!
# What only grows

Whatever an engine is asked to do, imports aside, it takes nothing back: the chat is only extended, an
id is given out once, and the first tier is a log to which summaries under new ids are appended.
`World.Continues` says this of two states, and each thing that a request can do satisfies it. It is
what the properties of single messages rest on.

## Contents
- `World.Continues` — nothing is taken back between two states.
- `PassReaches.continues`, `Rendered.continues`, `Restored.continues`, `Ensured.continues`.
- `World.Numbered`, `Usage.Reaches.numbered` — summaries can be told apart by their ids.
-/

namespace Recap

open World (Calm)

variable {h : Habits} {c : Config} {w u v : World}

/-- The chat is never taken back. -/
def Habits.Extending (h : Habits) : Prop := ∀ a b, h.move a b → a.Extends b

/-- `v` is `w` at a later time: the chat is extended, no id is given out twice, and summaries under
    new ids are appended to the first tier. -/
structure World.Continues (w v : World) : Prop where
  chat : w.chat.Extends v.chat
  issued : w.issued ⊆ v.issued
  level1 : ∃ new, v.level1 w.chat.id = w.level1 w.chat.id ++ new ∧ (new.map (·.id)).Nodup ∧
    ∀ s ∈ new, s.id ∉ w.issued ∧ s.id ∈ v.issued

namespace World.Continues

/-- No summary is taken away. -/
theorem level1_subset (hv : w.Continues v) : w.level1 w.chat.id ⊆ v.level1 w.chat.id := by
  obtain ⟨new, hnew, -⟩ := hv.level1
  rw [hnew]
  exact List.subset_append_left _ _

/-- A tier that stays as it is goes on. -/
theorem of_level1_eq (hchat : w.chat.Extends v.chat) (hissued : w.issued ⊆ v.issued)
    (hlevel1 : v.level1 w.chat.id = w.level1 w.chat.id) : w.Continues v where
  chat := hchat
  issued := hissued
  level1 := ⟨[], by rw [hlevel1, List.append_nil], List.nodup_nil, by simp⟩

end World.Continues

/-! ## Each thing that a request can do -/

theorem World.Calm.continues (hv : Calm h w v) (hm : h.Extending) : w.Continues v :=
  .of_level1_eq (hv.extends hm) hv.issued (hv.level1 _)

section Passes

variable {chat : Chat} {cs : List Chapter} {time : Int64}

/-- A chat that a pass has seen is the open one, at an earlier time. -/
theorem Underway.extends (hp : Underway h c w chat cs u) (hm : h.Extending) :
    w.chat.Extends chat ∧ chat.Extends u.chat :=
  ⟨Chat.extends_of_moves hm hp.seen, Chat.extends_of_moves hm hp.since⟩

/-- A pass appends a summary for each of its chapters. -/
theorem Underway.continues (hp : Underway h c w chat cs u) (hm : h.Extending)
    (hv : Calm h (u.withRecord w c chat cs time) v) : w.Continues v := by
  obtain ⟨hseen, hsince⟩ := hp.extends hm
  obtain ⟨new, hnew, hfiles⟩ := hp.level1_withRecord time
  have hissued : u.issued ⊆ v.issued := hv.issued
  refine ⟨(hseen.trans hsince).trans (hv.extends hm), List.Subset.trans hp.calm.issued hissued,
    new, ?_, ?_, ?_⟩
  · rw [hv.level1, ← hseen.id, hnew]
  · rw [Chapter.ids_of_files hfiles]
    exact hp.filing.distinct
  · intro s hs
    have hid : s.id ∈ cs.map (·.id) := by
      rw [← Chapter.ids_of_files hfiles]
      exact List.mem_map_of_mem hs
    obtain ⟨d, hd, hds⟩ := List.mem_map.mp hid
    rw [← hds]
    exact ⟨hp.filing.fresh d hd, hissued (hp.filing.issued d hd)⟩

/-- Tags saved after a record make no difference to it. -/
theorem Underway.continues_withPass (hp : Underway h c w chat cs u) (hm : h.Extending)
    (hv : Calm h (u.withPass w c chat cs time) v) : w.Continues v := by
  have hrecord : w.Continues (u.withRecord w c chat cs time) := hp.continues hm (.refl _)
  obtain ⟨new, hnew, hdistinct, hids⟩ := hrecord.level1
  refine ⟨hrecord.chat.trans (hv.extends hm), List.Subset.trans hrecord.issued hv.issued, new, ?_,
    hdistinct, fun s hs => ⟨(hids s hs).1, hv.issued (hids s hs).2⟩⟩
  rw [hv.level1, ← (hp.extends hm).1.id, Underway.level1_withPass, (hp.extends hm).1.id, hnew]

/-- **A pass takes nothing back**, wherever it is interrupted. -/
theorem PassReaches.continues (hv : PassReaches h c w v) (hm : h.Extending) : w.Continues v := by
  cases hv with
  | calm hv => exact hv.continues hm
  | recorded hp hv => exact hp.continues hm hv
  | filed hp hv => exact hp.continues_withPass hm hv

end Passes

theorem Rendered.continues (hv : Rendered h w v) (hm : h.Extending) : w.Continues v := by
  cases hv with
  | calm hv => exact hv.continues hm
  | tagged _ _ hv => exact .of_level1_eq (hv.extends hm) hv.issued (hv.level1 _)

theorem Restored.continues (hv : Restored h w v) (hm : h.Extending) : w.Continues v := by
  cases hv with
  | calm hv => exact hv.continues hm
  | tagged _ _ hv => exact .of_level1_eq (hv.extends hm) hv.issued (hv.level1 _)

/-- A fresh record is only made where no summary can be lost. -/
theorem Ensured.continues (hv : Ensured h c w v) (hm : h.Extending) : w.Continues v := by
  cases hv with
  | calm hv => exact hv.continues hm
  | recorded missing hv =>
    refine .of_level1_eq (hv.extends hm) hv.issued ?_
    rw [hv.level1, World.level1_putStorage_fresh missing]

/-! ## Ids of summaries -/

/-- The summaries of the open chat can be told apart by their ids, all of which were given out. -/
structure World.Numbered (w : World) : Prop where
  distinct : ((w.level1 w.chat.id).map (·.id)).Nodup
  issued : ∀ s ∈ w.level1 w.chat.id, s.id ∈ w.issued

/-- A chat without a record is numbered. -/
theorem World.Numbered.of_unrecorded (unrecorded : w.storages w.chat.id = none) : w.Numbered := by
  have hnone : w.level1 w.chat.id = [] := by
    unfold World.level1
    rw [unrecorded]
    rfl
  refine ⟨?_, ?_⟩
  · rw [hnone]
    exact List.nodup_nil
  · rw [hnone]
    exact fun s hs => nomatch hs

/-- **New summaries have new ids.** -/
theorem World.Numbered.continues (hw : w.Numbered) (hv : w.Continues v) : v.Numbered := by
  obtain ⟨new, hnew, hdistinct, hids⟩ := hv.level1
  refine ⟨?_, ?_⟩
  · rw [hv.chat.id, hnew, List.map_append, List.nodup_append]
    refine ⟨hw.distinct, hdistinct, ?_⟩
    -- the ids of the old summaries were given out, and a new summary has none of those
    rintro _ hold _ hadded rfl
    obtain ⟨s, hs, hsid⟩ := List.mem_map.mp hold
    obtain ⟨t, ht, htid⟩ := List.mem_map.mp hadded
    refine (hids t ht).1 ?_
    rw [htid, ← hsid]
    exact hw.issued s hs
  · rw [hv.chat.id, hnew]
    intro s hs
    rcases List.mem_append.mp hs with hs | hs
    · exact hv.issued (hw.issued s hs)
    · exact (hids s hs).2

/-- What lasts while nothing is taken back. -/
theorem Lasting.of_continues {Inv : World → Prop} (hm : h.Extending)
    (hInv : ∀ w v, Inv w → w.Continues v → Inv v) : Lasting h Inv where
  calm hw hv := hInv _ _ hw (hv.continues hm)
  pass hw hv := hInv _ _ hw (hv.continues hm)
  rendered hw hv := hInv _ _ hw (hv.continues hm)
  restored hw hv := hInv _ _ hw (hv.continues hm)
  ensured hw hv := hInv _ _ hw (hv.continues hm)

/-- **All along a run without imports no two summaries have the same id.** -/
theorem Usage.Reaches.numbered {u : Usage} {w₀ w : World} (hw : u.Reaches w₀ w)
    (unrecorded : w₀.storages w₀.chat.id = none) (noImport : ∀ r, u.makes r → r.isImport = false)
    (hm : ∀ a b, u.move a b → a.Extends b) : w.Numbered :=
  hw.lasting (.of_unrecorded unrecorded) noImport fun _ =>
    .of_continues hm fun _ _ hI hv => World.Numbered.continues hI hv

end Recap
