import Recap.Proofs.Engine.Backing
import Recap.Proofs.Engine.Stage
import Recap.Proofs.Selection.Order

/-!
# The first tier is a log

Summaries are written once. Whatever happens in a run without imports, a record that was saved once is
only ever followed by records that continue it: summaries are added at the end of its first tier, and
nothing else of it changes but its statistics. What is added is what a pass wrote: a text that says
something, at its price, about messages that the chat had.

Three things are shown of each request from its beginning: it only continues records
(`Storage.Continues`), times never go back (`World.InOrder`), and what it adds was written by a pass
(`Written`, `World.Logs`). The first of them is then carried from stage to stage, so that any two stages
of a run can be compared, also two in the midst of requests.

## Contents
- `Storage.Continues`, `World.Keeps`, `World.Keeps.lasting` — records are continued.
- `World.InOrder`, `World.InOrder.lasting` — times do not go back.
- `Written`, `World.Logs`, `World.Logs.lasting` — what is added.
- `first_tier_is_a_log` — every run.
-/

namespace Recap

open Relation (ReflTransGen)
open World (Calm Step)

variable {h : Habits} {c : Config} {w w₀ u v : World}

/-! ## Records are continued -/

/-- A later record of a chat: summaries are added to the first tier, and the other tiers and the settings
    are those before. -/
structure Storage.Continues (kept later : Storage) : Prop where
  level1 : kept.level1.summaries <+: later.level1.summaries
  level2 : later.level2 = kept.level2
  level3 : later.level3 = kept.level3
  injection : later.injection = kept.injection

theorem Storage.Continues.refl (s : Storage) : s.Continues s := ⟨List.prefix_refl _, rfl, rfl, rfl⟩

theorem Storage.Continues.trans {a b d : Storage} (h : a.Continues b) (h' : b.Continues d) :
    a.Continues d :=
  ⟨h.level1.trans h'.level1, h'.level2.trans h.level2, h'.level3.trans h.level3,
    h'.injection.trans h.injection⟩

/-- No record is taken away, and each is continued. -/
def Keeps (before after : String → Option Storage) : Prop :=
  ∀ id kept, before id = some kept → ∃ later, after id = some later ∧ kept.Continues later

namespace Keeps

variable {s s' s'' : String → Option Storage}

theorem refl (s : String → Option Storage) : Keeps s s := fun _ kept hkept => ⟨kept, hkept, .refl kept⟩

theorem of_eq (h : s' = s) : Keeps s s' := h ▸ refl s

theorem trans (h : Keeps s s') (h' : Keeps s' s'') : Keeps s s'' := by
  intro id kept hkept
  obtain ⟨later, hlater, hcont⟩ := h id kept hkept
  obtain ⟨last, hlast, hcont'⟩ := h' id later hlater
  exact ⟨last, hlast, hcont.trans hcont'⟩

/-- One record is continued, or made where there was none. -/
theorem update {chatId : String} {record : Storage}
    (h : ∀ kept, s chatId = some kept → kept.Continues record) :
    Keeps s (Function.update s chatId (some record)) := by
  intro id kept hkept
  by_cases hid : id = chatId
  · subst hid
    exact ⟨record, Function.update_self .., h kept hkept⟩
  · rw [Function.update_of_ne hid]
    exact ⟨kept, hkept, .refl kept⟩

end Keeps

/-- The record that a pass saves continues the one that it began with. -/
theorem Underway.record_continues {chat : Chat} {cs : List Chapter}
    (hp : Underway h c w chat cs u) (time : Int64) {kept : Storage}
    (hkept : w.storages chat.id = some kept) :
    kept.Continues (((w.passStart c chat).file cs).record chat time) := by
  obtain ⟨rest, hfront⟩ := hp.filing.front
  obtain ⟨new, hnew, -⟩ := appendAll_summaries kept.level1 cs
  have hstart : (w.passStart c chat).storage = kept := by
    simp [World.passStart, PassState.initial, hkept]
  rw [file_eq (s := w.passStart c chat) hfront, hstart]
  exact ⟨⟨new, hnew.symm⟩, rfl, rfl, rfl⟩

/-- A pass only continues records, wherever it is interrupted. -/
theorem PassReaches.keeps (hv : PassReaches h c w v) : Keeps w.storages v.storages := by
  cases hv with
  | calm hv => exact .of_eq hv.storages
  | recorded hp hv | filed hp hv =>
    rw [hv.storages]
    show Keeps w.storages (Function.update _ _ _)
    rw [hp.calm.storages]
    exact .update fun kept => hp.record_continues _

theorem Ensured.keeps (hv : Ensured h c w v) : Keeps w.storages v.storages := by
  cases hv with
  | calm hv => exact .of_eq hv.storages
  | recorded missing hv =>
    rw [hv.storages]
    refine .update fun kept hkept => ?_
    rw [missing] at hkept
    cases hkept

/-- Between the two states the chat has gone on, and no record was saved. -/
def World.Unrecorded (h : Habits) (w v : World) : Prop :=
  ReflTransGen h.move w.chat v.chat ∧ v.storages = w.storages

theorem World.Calm.unrecorded (hv : Calm h w v) : World.Unrecorded h w v := ⟨hv.chat, hv.storages⟩

theorem Rendered.unrecorded (hv : Rendered h w v) : World.Unrecorded h w v := by
  cases hv with
  | calm hv => exact hv.unrecorded
  | tagged _ _ hv => exact ⟨hv.chat, hv.storages⟩

theorem Restored.unrecorded (hv : Restored h w v) : World.Unrecorded h w v := by
  cases hv with
  | calm hv => exact hv.unrecorded
  | tagged _ _ hv => exact ⟨hv.chat, hv.storages⟩

theorem World.Unrecorded.level1 (hv : World.Unrecorded h w v) (id : String) :
    v.level1 id = w.level1 id := by
  unfold World.level1
  rw [hv.2]

/-- **No request but an import breaks off a record**, at any moment. -/
theorem Keeps.lasting {s : String → Option Storage} : Lasting h fun v => Keeps s v.storages where
  calm hw hv := hw.trans (.of_eq hv.storages)
  pass hw hv := hw.trans hv.keeps
  rendered hw hv := hw.trans (.of_eq hv.unrecorded.2)
  restored hw hv := hw.trans (.of_eq hv.unrecorded.2)
  ensured hw hv := hw.trans hv.keeps

/-- **Records are continued from any stage of a run to any later one.** -/
theorem Usage.keeps {u : Usage} {m m' : Stage} (noImport : ∀ r, u.makes r → r.isImport = false)
    (hm : ReflTransGen u.Goes (.idle w₀) m) (hm' : ReflTransGen u.Goes m m') :
    Keeps m.world.storages m'.world.storages := by
  induction hm' with
  | refl => exact .refl _
  | tail hway hstep ih =>
    refine ih.trans (hstep.keeps Keeps.refl (fun r w hr => ?_) (Usage.follows (hm.trans hway)))
    exact Keeps.lasting.request r (noImport r hr) w (.refl _)

/-! ## Times do not go back -/

/-- The times of the first-tier summaries of each chat never go back. -/
def World.InOrder (w : World) : Prop :=
  ∀ id kept, w.storages id = some kept → kept.level1.Ordered

/-- Chapters are filed no earlier than the summaries before them. -/
theorem Tier.appendAll_ordered {t : Tier} (ht : t.Ordered) (cs : List Chapter) :
    (t.appendAll cs).Ordered := by
  unfold Tier.appendAll
  induction cs generalizing t with
  | nil => exact ht
  | cons c cs ih => exact ih (Tier.append_ordered ht c.summary)

/-- Another record in order. -/
theorem World.InOrder.putStorage (hw : w.InOrder) (hv : v.storages = w.storages) {chatId : String}
    {record : Storage} (hrecord : record.level1.Ordered) : (v.putStorage chatId record).InOrder := by
  intro id kept hkept
  change Function.update v.storages chatId (some record) id = some kept at hkept
  by_cases hid : id = chatId
  · subst hid
    rw [Function.update_self] at hkept
    cases hkept
    exact hrecord
  · rw [Function.update_of_ne hid, hv] at hkept
    exact hw id kept hkept

theorem fresh_ordered (settings : InjectionSettings) : (Storage.fresh settings).level1.Ordered :=
  List.Pairwise.nil

/-- What a pass saves is in order, whatever the clock says. -/
theorem World.InOrder.recorded (hw : w.InOrder) {chat : Chat} {cs : List Chapter}
    (hp : Underway h c w chat cs u) (time : Int64) : (u.withRecord w c chat cs time).InOrder := by
  obtain ⟨rest, hfront⟩ := hp.filing.front
  refine hw.putStorage hp.calm.storages ?_
  rw [file_eq (s := w.passStart c chat) hfront]
  refine Tier.appendAll_ordered ?_ cs
  show ((w.storages chat.id).getD (.fresh c.defaultInjection)).level1.Ordered
  cases hkept : w.storages chat.id with
  | none => exact fresh_ordered _
  | some kept => exact hw _ _ hkept

theorem World.InOrder.of_storages_eq (hw : w.InOrder) (hv : v.storages = w.storages) : v.InOrder := by
  unfold World.InOrder
  rw [hv]
  exact hw

/-- **No request but an import brings summaries out of order**, at any moment. -/
theorem World.InOrder.lasting : Lasting h World.InOrder where
  calm hw hv := hw.of_storages_eq hv.storages
  pass hw hv := by
    cases hv with
    | calm hv => exact hw.of_storages_eq hv.storages
    | recorded hp hv => exact (hw.recorded hp _).of_storages_eq hv.storages
    | filed hp hv => exact (hw.recorded hp _).of_storages_eq hv.storages
  rendered hw hv := hw.of_storages_eq hv.unrecorded.2
  restored hw hv := hw.of_storages_eq hv.unrecorded.2
  ensured hw hv := by
    cases hv with
    | calm hv => exact hw.of_storages_eq hv.storages
    | recorded missing hv =>
      exact (hw.putStorage rfl (fresh_ordered _)).of_storages_eq hv.storages

/-! ## What is added -/

/-- The summary says something, costs what its text costs, and is about messages of the chat. -/
structure Written (chat : Chat) (s : Summary) : Prop where
  told : Text.allBlank s.text = false
  cost : s.tokenCount = .ofNat (Text.estimateTokens s.text)
  order : s.startIndex ≤ s.endIndex
  inside : s.endIndex.toNat < chat.messages.length

/-- What a pass files is written about the chat as the pass saw it. -/
theorem Underway.written {chat : Chat} {cs : List Chapter} {d : Chapter} {s : Summary}
    (hp : Underway h c w chat cs u) (fits : chat.messages.length ≤ UInt64.size) (hd : d ∈ cs)
    (hfile : d.Files s) : Written chat s := by
  have hne : d.chunk ≠ [] := hp.filing.nonempty d hd
  have hinside : ∀ p ∈ d.chunk, p.1 < chat.messages.length := fun p hmem =>
    (List.getElem?_eq_some_iff.mp (hp.getElem?_of_mem hd hmem)).1
  have hfits : ∀ p ∈ d.chunk, p.1 < UInt64.size := fun p hmem =>
    Nat.lt_of_lt_of_le (hinside p hmem) fits
  have hlast := List.getLast?_eq_some_getLast hne
  have hcovers := d.covers ((workingSet_ascending _ _).sublist (hp.chunk_sublist hd)) hfits
    (List.getLast_mem hne)
  refine ⟨?_, ?_, ?_, ?_⟩
  · rw [hfile.text]
    exact hp.filing.told d hd
  · rw [hfile.tokenCount, hfile.text]
  · rw [hfile.startIndex, hfile.endIndex, UInt64.le_iff_toNat_le]
    exact hcovers.1.trans hcovers.2
  · rw [hfile.endIndex, Chapter.endIndex_toNat hlast (hfits _ (List.getLast_mem hne))]
    exact hinside _ (List.getLast_mem hne)

/-- From `w₀` to `v` summaries were added to first tiers that were written about the chat, as it had
    become in the meantime. -/
structure World.Logs (move : Chat → Chat → Prop) (w₀ v : World) : Prop where
  chat : ReflTransGen move w₀.chat v.chat
  added : ∀ id, ∃ new, v.level1 id = w₀.level1 id ++ new ∧
    ∀ s ∈ new, ∃ chat, ReflTransGen move w₀.chat chat ∧ chat.id = id ∧ Written chat s

namespace World.Logs

variable {move : Chat → Chat → Prop}

theorem refl (w : World) : w.Logs move w where
  chat := .refl
  added _ := ⟨[], (List.append_nil _).symm, fun _ hs => nomatch hs⟩

/-- The chat goes on, and further summaries are written. -/
theorem later (hw : w₀.Logs move w) (hchat : ReflTransGen move w.chat v.chat)
    (hadded : ∀ id, ∃ new, v.level1 id = w.level1 id ++ new ∧
      ∀ s ∈ new, ∃ chat, ReflTransGen move w.chat chat ∧ chat.id = id ∧ Written chat s) :
    w₀.Logs move v where
  chat := hw.chat.trans hchat
  added := by
    intro id
    obtain ⟨old, hold, hwritten⟩ := hw.added id
    obtain ⟨new, hnew, hwritten'⟩ := hadded id
    refine ⟨old ++ new, by rw [hnew, hold, List.append_assoc], fun s hs => ?_⟩
    rcases List.mem_append.mp hs with hs | hs
    · exact hwritten s hs
    · obtain ⟨chat, hseen, hid, hs⟩ := hwritten' s hs
      exact ⟨chat, hw.chat.trans hseen, hid, hs⟩

/-- No further summaries are written. -/
theorem unrecorded (hw : w₀.Logs h.move w) (hv : World.Unrecorded h w v) : w₀.Logs h.move v :=
  hw.later hv.1 fun id => ⟨[], by rw [hv.level1, List.append_nil], fun s hs => nomatch hs⟩

/-- A pass writes its summaries about the chat that it saw. -/
theorem recorded (hw : w₀.Logs h.move w) {chat : Chat} {cs : List Chapter}
    (fits : ∀ chat, ReflTransGen h.move w₀.chat chat → chat.messages.length ≤ UInt64.size)
    (hp : Underway h c w chat cs u) (time : Int64)
    (hv : Calm h (u.withRecord w c chat cs time) v) : w₀.Logs h.move v := by
  obtain ⟨new, hnew, hfiles⟩ := hp.level1_withRecord time
  refine hw.later ((hp.seen.trans hp.since).trans hv.chat) fun id => ?_
  rw [hv.level1]
  by_cases hid : id = chat.id
  · subst hid
    refine ⟨new, hnew, fun s hs => ⟨chat, hp.seen, rfl, ?_⟩⟩
    obtain ⟨d, hd, hfile⟩ := exists_partner hfiles.flip hs
    exact hp.written (fits chat (hw.chat.trans hp.seen)) hd hfile
  · refine ⟨[], ?_, fun s hs => nomatch hs⟩
    rw [List.append_nil]
    unfold World.withRecord
    rw [World.level1_putStorage_of_ne hid, hp.calm.level1]

/-- **All that is added, imports aside, was written by a pass**, at any moment. -/
theorem lasting (fits : ∀ chat, ReflTransGen h.move w₀.chat chat →
    chat.messages.length ≤ UInt64.size) : Lasting h (w₀.Logs h.move) where
  calm hw hv := hw.unrecorded hv.unrecorded
  pass hw hv := by
    cases hv with
    | calm hv => exact hw.unrecorded hv.unrecorded
    | recorded hp hv => exact hw.recorded fits hp _ hv
    -- the tags that are saved after the record make no difference to it
    | filed hp hv => exact (hw.recorded fits hp _ (.refl _)).unrecorded ⟨hv.chat, hv.storages⟩
  rendered hw hv := hw.unrecorded hv.unrecorded
  restored hw hv := hw.unrecorded hv.unrecorded
  ensured hw hv := by
    cases hv with
    | calm hv => exact hw.unrecorded hv.unrecorded
    | recorded missing hv =>
      refine hw.later hv.chat fun id => ⟨[], ?_, fun s hs => nomatch hs⟩
      rw [hv.level1, World.level1_putStorage_fresh missing, List.append_nil]

end World.Logs

/-! ## Every run -/

section Runs

variable {usage : Usage} {m m' : Stage}

/-- A chat that keeps to 64 bits goes on doing so. -/
theorem Usage.fits (moves : ∀ a b, usage.move a b → a.messages.length ≤ UInt64.size →
      b.messages.length ≤ UInt64.size)
    (hm : ReflTransGen usage.Goes m m') (hfits : m.world.chat.messages.length ≤ UInt64.size) :
    m'.world.chat.messages.length ≤ UInt64.size := by
  have hway : ∀ chat, ReflTransGen usage.move m.world.chat chat →
      chat.messages.length ≤ UInt64.size := by
    intro chat hchat
    induction hchat with
    | refl => exact hfits
    | tail _ hlast ih => exact moves _ _ hlast ih
  exact hway _ (usage.chat_moves hm)

/-- What a run adds was written about the chat as it was at a stage of the run. -/
theorem Usage.added (noImport : ∀ r, usage.makes r → r.isImport = false)
    (moves : ∀ a b, usage.move a b → a.messages.length ≤ UInt64.size →
      b.messages.length ≤ UInt64.size)
    (hfits : w.chat.messages.length ≤ UInt64.size) (hm : ReflTransGen usage.Goes (.idle w) m)
    (id : String) :
    ∃ new, m.world.level1 id = w.level1 id ++ new ∧ ∀ s ∈ new,
      ∃ m₁, ReflTransGen usage.Goes (.idle w) m₁ ∧ ReflTransGen usage.Goes m₁ m ∧
        m₁.world.chat.id = id ∧ Written m₁.world.chat s := by
  -- along the run the chat was only what it was at one of its stages
  have hstages : ∀ chat, ReflTransGen (usage.along (.idle w) m).move w.chat chat →
      chat.messages.length ≤ UInt64.size := by
    intro chat hchat
    obtain ⟨m₁, h₁, -, rfl⟩ := Usage.exists_stage_of_along hm hchat
    exact Usage.fits moves h₁ hfits
  have hlogs : w.Logs (usage.along (.idle w) m).move m.world :=
    (Usage.reaches (Usage.goes_along hm)).lasting (.refl w) noImport fun _ =>
      World.Logs.lasting hstages
  obtain ⟨new, hnew, hwritten⟩ := hlogs.added id
  refine ⟨new, hnew, fun s hs => ?_⟩
  obtain ⟨chat, hseen, hid, hs⟩ := hwritten s hs
  obtain ⟨m₁, h₁, h₁m, rfl⟩ := Usage.exists_stage_of_along hm hseen
  exact ⟨m₁, h₁, h₁m, hid, hs⟩

/-- **The first tier is a log.** In every run without imports, whatever the chat does, whatever fails and
    whatever the clock says: the times of a chat's summaries never go back, if they did not at first. What
    is added, from the beginning of a request or of the whole run on, has a text that says something,
    costs what its text costs, and is about messages that were in the chat at a stage in between. And from
    any stage on records are only continued: first tiers grow at the end, and the other tiers and the
    settings stay as they are. -/
theorem first_tier_is_a_log (noImport : ∀ r, usage.makes r → r.isImport = false)
    (fits : w₀.chat.messages.length ≤ UInt64.size)
    (moves : ∀ a b, usage.move a b → a.messages.length ≤ UInt64.size →
      b.messages.length ≤ UInt64.size)
    (ordered : ∀ id kept, w₀.storages id = some kept →
      kept.level1.summaries.Pairwise (·.timestamp ≤ ·.timestamp))
    (hm : ReflTransGen usage.Goes (.idle w₀) m) :
    (∀ id, (m.world.level1 id).Pairwise (·.timestamp ≤ ·.timestamp)) ∧
    (∀ w, ReflTransGen usage.Goes (.idle w₀) (.idle w) → ReflTransGen usage.Goes (.idle w) m →
      ∀ id, ∃ new, m.world.level1 id = w.level1 id ++ new ∧ ∀ s ∈ new,
        Text.allBlank s.text = false ∧ s.tokenCount = .ofNat (Text.estimateTokens s.text) ∧
        s.startIndex ≤ s.endIndex ∧
        ∃ m₁, ReflTransGen usage.Goes (.idle w) m₁ ∧ ReflTransGen usage.Goes m₁ m ∧
          m₁.world.chat.id = id ∧ s.endIndex.toNat < m₁.world.chat.messages.length) ∧
    ∀ m', ReflTransGen usage.Goes m m' → ∀ id,
      m.world.level1 id <+: m'.world.level1 id ∧
      ∀ kept, m.world.storages id = some kept → ∃ later, m'.world.storages id = some later ∧
        kept.level1.summaries <+: later.level1.summaries ∧ later.level2 = kept.level2 ∧
        later.level3 = kept.level3 ∧ later.injection = kept.injection := by
  refine ⟨fun id => ?_, fun w hw hm id => ?_, fun m' hm' id => ?_⟩
  · have horder : m.world.InOrder :=
      (Usage.reaches hm).lasting ordered noImport fun _ => World.InOrder.lasting
    unfold World.level1
    cases hkept : m.world.storages id with
    | none => exact List.Pairwise.nil
    | some kept => exact horder id kept hkept
  · obtain ⟨new, hnew, hwritten⟩ := Usage.added noImport moves (Usage.fits moves hw fits) hm id
    refine ⟨new, hnew, fun s hs => ?_⟩
    obtain ⟨m₁, h₁, h₁m, hid, hs⟩ := hwritten s hs
    exact ⟨hs.told, hs.cost, hs.order, m₁, h₁, h₁m, hid, hs.inside⟩
  · have hkeeps := Usage.keeps noImport hm hm'
    refine ⟨?_, fun kept hkept => ?_⟩
    · unfold World.level1
      cases hkept : m.world.storages id with
      | none => exact List.nil_prefix
      | some kept =>
        obtain ⟨later, hlater, hcont⟩ := hkeeps id kept hkept
        rw [hlater]
        exact hcont.level1
    · obtain ⟨later, hlater, hcont⟩ := hkeeps id kept hkept
      exact ⟨later, hlater, hcont.level1, hcont.level2, hcont.level3, hcont.injection⟩

end Runs

/-- Two passes over the short chat, the first of which was halted: the log has what they wrote, and the
    second one has continued what the first one left. -/
theorem log_of_short_chat :
    let pass := (Request.compact .thorough).dialogue
    let first := pass.run (Obliging.answer .brief scripted)
      (Obliging.blank [some "They met.", none, some "They parted."])
    let second := pass.run (Obliging.answer .brief scripted) first.2
    let w := second.2.world .brief
    (w.level1 "brief").map (·.text) = ["They met.", "They parted."] ∧
      (w.level1 "brief").Pairwise (·.timestamp ≤ ·.timestamp) ∧
      (∀ s ∈ w.level1 "brief", s.tokenCount = .ofNat (Text.estimateTokens s.text) ∧
        s.startIndex ≤ s.endIndex) ∧
      (first.2.world .brief).level1 "brief" <+: w.level1 "brief" := by
  intro pass first second w
  let u := Usage.withoutImport
  let w₀ := (Obliging.blank [some "They met.", none, some "They parted."]).world .brief
  have hfirst := Obliging.ends .brief scripted (u.habits (.compact .thorough)) pass
    (Obliging.fresh_blank [some "They met.", none, some "They parted."])
  have hsecond := Obliging.ends .brief scripted (u.habits (.compact .thorough)) pass hfirst.2
  have hrun₁ := Usage.goes_of_ends (u := u) (r := .compact .thorough) rfl hfirst.1
  have hrun₂ := Usage.goes_of_ends (u := u) (r := .compact .thorough) rfl hsecond.1
  have unrecorded : ∀ id kept, w₀.storages id = some kept →
      kept.level1.summaries.Pairwise (·.timestamp ≤ ·.timestamp) := fun _ _ h => nomatch h
  have hlog := fun m hm => @first_tier_is_a_log w₀ u m (fun _ hr => hr)
    (by decide) (fun _ _ => Chat.Moves.fits) unrecorded hm
  obtain ⟨horder, hadded, -⟩ := hlog _ (hrun₁.trans hrun₂)
  obtain ⟨new, hnew, hwritten⟩ := hadded w₀ .refl (hrun₁.trans hrun₂) "brief"
  obtain rfl : new = w.level1 "brief" := hnew.symm
  exact ⟨by decide +kernel, horder "brief",
    fun s hs => ⟨(hwritten s hs).2.1, (hwritten s hs).2.2.1⟩,
    ((hlog _ hrun₁).2.2 _ hrun₂ "brief").1⟩

end Recap
