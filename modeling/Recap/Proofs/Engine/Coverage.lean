import Recap.Proofs.Engine.Record
import Recap.Proofs.Engine.Reliable

/-!
# Each message is told once

In a chat that only grows, and where tags are saved whenever records are, passes tell the story without
gaps and without repetition: the summarized messages are the front of the spoken ones, and the first
tier divides them into consecutive blocks. `Divided` is this division, of messages, tags and summaries
at one moment; it is the invariant, and each pass adds blocks to it (`Divided.file`).

Between the two saves of a pass there is a moment at which summaries are kept that no message is tagged
with yet. The invariant is therefore one of the states between two requests.

## Contents
- `StandsFor`, `Divided` — summaries and their blocks.
- `Divided.grow`, `Divided.render`, `Divided.file` — how a division changes.
- `Divided.summarized_iff`, `Divided.carriers`, `Divided.separated`,
  `Divided.existsUnique_covering` — what it means.
- `Usage.growing`, `summaries_divide_the_chat` — every run.
-/

namespace Recap

open Relation (ReflTransGen)
open World (Calm Step)

/-! ## Divisions -/

/-- The summary stands for this block of messages: it begins and ends with it, and all messages of the
    block are tagged with it. -/
structure StandsFor (tags : TagStore) (s : Summary) (b : List (Nat × Message)) : Prop where
  first : b.head?.map (·.1) = some s.startIndex.toNat
  last : b.getLast?.map (·.1) = some s.endIndex.toNat
  tagged : ∀ p ∈ b, ∃ time, tags.tag? p.2.id = some (.summarized .chunk s.id time)

/-- The spoken messages are the blocks of the summaries, one after the other, and a rest; no other
    messages are tagged with a summary. -/
structure Divided (messages : List Message) (tags : TagStore) (tier : List Summary)
    (blocks : List (List (Nat × Message))) (rest : List (Nat × Message)) : Prop where
  split : spoken messages = blocks.flatten ++ rest
  stands : List.Forall₂ (StandsFor tags) tier blocks
  others : ∀ id t, tags.tag? id = some t → t = .active ∨ id ∈ blocks.flatten.map (·.2.id)

namespace StandsFor

variable {tags tags' : TagStore} {s : Summary} {b : List (Nat × Message)}

/-- A summary stands for its block as long as the tags of the block stay. -/
theorem mono (h : StandsFor tags s b) (htags : ∀ p ∈ b, tags'.tag? p.2.id = tags.tag? p.2.id) :
    StandsFor tags' s b where
  first := h.first
  last := h.last
  tagged := by
    intro p hp
    rw [htags p hp]
    exact h.tagged p hp

/-- The first message of the block. -/
theorem exists_first (h : StandsFor tags s b) : ∃ p, b.head? = some p ∧ p.1 = s.startIndex.toNat :=
  Option.map_eq_some_iff.mp h.first

/-- The last message of the block. -/
theorem exists_last (h : StandsFor tags s b) : ∃ p, b.getLast? = some p ∧ p.1 = s.endIndex.toNat :=
  Option.map_eq_some_iff.mp h.last

/-- The messages of the block name the summary. -/
theorem summaryId (h : StandsFor tags s b) {p : Nat × Message} {t : Tag} (hp : p ∈ b)
    (ht : tags.tag? p.2.id = some t) : t.summaryId = some s.id := by
  obtain ⟨time, htag⟩ := h.tagged p hp
  rw [Option.some.inj (ht.symm.trans htag)]
  rfl

/-- The summary reaches over its block. -/
theorem covers (h : StandsFor tags s b) (hb : b.Pairwise (·.1 < ·.1)) {p : Nat × Message}
    (hp : p ∈ b) : s.startIndex.toNat ≤ p.1 ∧ p.1 ≤ s.endIndex.toNat := by
  obtain ⟨first, hfirst, hstart⟩ := h.exists_first
  obtain ⟨last, hlast, hend⟩ := h.exists_last
  rw [← hstart, ← hend]
  exact ⟨head_le_of_ascending hb hfirst hp, le_getLast_of_ascending hb hlast hp⟩

end StandsFor

/-- Summaries that stand for blocks stand for them as long as the tags of the blocks stay. -/
theorem forall₂_standsFor_mono {tags tags' : TagStore} {tier : List Summary}
    {blocks : List (List (Nat × Message))} (h : List.Forall₂ (StandsFor tags) tier blocks)
    (htags : ∀ p ∈ blocks.flatten, tags'.tag? p.2.id = tags.tag? p.2.id) :
    List.Forall₂ (StandsFor tags') tier blocks := by
  refine (forall₂_imp_of_mem h.flip fun b hb s hs => ?_).flip
  exact StandsFor.mono hs fun p hp => htags p (List.mem_flatten.mpr ⟨b, hb, hp⟩)

/-- The summaries of chapters stand for their chunks once the messages are tagged. -/
theorem forall₂_standsFor_of_files {tags : TagStore} {cs : List Chapter} {new : List Summary}
    (h : List.Forall₂ Chapter.Files cs new) (nonempty : ∀ d ∈ cs, d.chunk ≠ [])
    (fits : ∀ d ∈ cs, ∀ p ∈ d.chunk, p.1 < UInt64.size)
    (tagged : ∀ d ∈ cs, ∀ p ∈ d.chunk, tags.tag? p.2.id = some d.tag) :
    List.Forall₂ (StandsFor tags) new (cs.map (·.chunk)) := by
  refine List.forall₂_map_right_iff.mpr (forall₂_imp_of_mem h fun d hd s hfile => ?_).flip
  have hfirst := List.head?_eq_some_head (nonempty d hd)
  have hlast := List.getLast?_eq_some_getLast (nonempty d hd)
  refine ⟨?_, ?_, fun p hp => ⟨d.time, ?_⟩⟩
  · rw [hfile.startIndex, Chapter.startIndex_toNat hfirst (fits d hd _ (List.head_mem _)), hfirst]
    rfl
  · rw [hfile.endIndex, Chapter.endIndex_toNat hlast (fits d hd _ (List.getLast_mem _)), hlast]
    rfl
  · rw [hfile.id]
    exact tagged d hd p hp

/-- Messages that carry the id of a summary are in its block, if they are in any. -/
theorem carriers_of_standsFor {messages : List Message} {tags : TagStore} {tier : List Summary}
    {blocks : List (List (Nat × Message))} (h : List.Forall₂ (StandsFor tags) tier blocks)
    (ids : (tier.map (·.id)).Nodup)
    (hall : ∀ i m t, ∀ s ∈ tier, messages[i]? = some m → tags.tag? m.id = some t →
      t.summaryId = some s.id → (i, m) ∈ blocks.flatten) :
    List.Forall₂ (fun s b => StandsFor tags s b ∧ ∀ i m, messages[i]? = some m →
      ((∃ t, tags.tag? m.id = some t ∧ t.summaryId = some s.id) ↔ (i, m) ∈ b)) tier blocks := by
  induction h with
  | nil => exact .nil
  | @cons s b tier blocks hs hrest ih =>
    obtain ⟨hnew, ids⟩ := List.nodup_cons.mp ids
    refine .cons ⟨hs, ?_⟩ (ih ids ?_)
    · intro i m hi
      constructor
      · rintro ⟨t, ht, hid⟩
        rcases List.mem_append.mp (hall i m t s List.mem_cons_self hi ht hid) with hb | hlater
        · exact hb
        · -- a message of a later block carries the id of that block's summary, which is another one
          obtain ⟨b', hb', hmem⟩ := List.mem_flatten.mp hlater
          obtain ⟨s', hs', hstands⟩ := exists_partner hrest.flip hb'
          have heq : s'.id = s.id := Option.some.inj ((hstands.summaryId hmem ht).symm.trans hid)
          exact absurd (List.mem_map.mpr ⟨s', hs', heq⟩) hnew
      · intro hb
        obtain ⟨time, ht⟩ := hs.tagged _ hb
        exact ⟨_, ht, rfl⟩
    · intro i m t s' hs' hi ht hid
      have hin := hall i m t s' (List.mem_cons_of_mem _ hs') hi ht hid
      rcases List.mem_append.mp hin with hb | hlater
      · have heq : s.id = s'.id := Option.some.inj ((hs.summaryId hb ht).symm.trans hid)
        exact absurd (List.mem_map.mpr ⟨s', hs', heq.symm⟩) hnew
      · exact hlater

/-- Where the positions go up, each summary ends before the next one begins. -/
theorem separated_of_standsFor {tags : TagStore} {tier : List Summary}
    {blocks : List (List (Nat × Message))} (h : List.Forall₂ (StandsFor tags) tier blocks)
    (ascending : blocks.flatten.Pairwise (·.1 < ·.1)) :
    tier.Pairwise fun a b => a.endIndex < b.startIndex := by
  induction h with
  | nil => exact .nil
  | @cons s b tier blocks hs hrest ih =>
    rw [List.flatten_cons, List.pairwise_append] at ascending
    obtain ⟨-, hlater, hapart⟩ := ascending
    refine List.pairwise_cons.mpr ⟨fun s' hs' => ?_, ih hlater⟩
    obtain ⟨b', hb', hstands⟩ := exists_partner hrest hs'
    obtain ⟨last, hlast, hend⟩ := hs.exists_last
    obtain ⟨first, hfirst, hstart⟩ := hstands.exists_first
    rw [UInt64.lt_iff_toNat_lt, ← hend, ← hstart]
    exact hapart _ (List.mem_of_getLast? hlast) _
      (List.mem_flatten.mpr ⟨b', hb', List.mem_of_head? hfirst⟩)

namespace Divided

variable {messages later : List Message} {tags : TagStore} {tier : List Summary}
  {blocks : List (List (Nat × Message))} {rest : List (Nat × Message)}

/-! ## How a division changes -/

/-- Without summaries and tags there are no blocks. -/
theorem nil (messages : List Message) : Divided messages .empty [] [] (spoken messages) where
  split := rfl
  stands := .nil
  others := fun id t ht => absurd (.inl ht) (TagStore.not_keeps_empty id t)

/-- New messages come to the rest. -/
theorem grow (hd : Divided messages tags tier blocks rest) (hlater : messages <+: later) :
    ∃ added, Divided later tags tier blocks (rest ++ added) := by
  obtain ⟨new, rfl⟩ := hlater
  obtain ⟨added, hadded, -⟩ := spoken_append messages new
  refine ⟨added, ?_, hd.stands, hd.others⟩
  rw [hadded, hd.split, List.append_assoc]

/-- A message of a block has a tag. -/
theorem tag?_isSome (hd : Divided messages tags tier blocks rest) {p : Nat × Message}
    (hp : p ∈ blocks.flatten) :
    ∃ s ∈ tier, ∃ time, tags.tag? p.2.id = some (.summarized .chunk s.id time) := by
  obtain ⟨b, hb, hpb⟩ := List.mem_flatten.mp hp
  obtain ⟨s, hs, hstands⟩ := exists_partner hd.stands.flip hb
  exact ⟨s, hs, hstands.tagged p hpb⟩

/-- A message that is tagged as active is in no block. -/
theorem render (hd : Divided messages tags tier blocks rest) {m : Message}
    (untagged : tags.tag? m.id = none) : Divided messages (tags.markActive m) tier blocks rest where
  split := hd.split
  stands := by
    refine forall₂_standsFor_mono hd.stands fun p hp => ?_
    have hne : p.2.id ≠ m.id := by
      intro heq
      obtain ⟨s, -, time, htag⟩ := hd.tag?_isSome hp
      rw [heq, untagged] at htag
      cases htag
    rw [TagStore.markActive, TagStore.tag?_write, if_neg hne]
  others := by
    intro id t ht
    rw [TagStore.markActive, TagStore.tag?_write] at ht
    split at ht
    · exact .inl (Option.some.inj ht).symm
    · exact hd.others id t ht

/-- **A pass works on the rest.** -/
theorem workingSet_eq (hd : Divided messages tags tier blocks rest)
    (distinct : (messages.map (·.id)).Nodup) : workingSet messages tags = rest := by
  have hblocks : ∀ p ∈ blocks.flatten, tags.isSummarized p.2 = true := by
    intro p hp
    obtain ⟨s, -, time, htag⟩ := hd.tag?_isSome hp
    unfold TagStore.isSummarized
    rw [htag]
    rfl
  have hrest : ∀ p ∈ rest, tags.isSummarized p.2 = false := by
    intro p hp
    have hapart := nodup_ids_spoken distinct
    rw [hd.split, List.map_append, List.nodup_append] at hapart
    unfold TagStore.isSummarized
    cases htag : tags.tag? p.2.id with
    | none => rfl
    | some t =>
      rcases hd.others _ t htag with rfl | hin
      · rfl
      · exact absurd rfl (hapart.2.2 _ hin _ (List.mem_map_of_mem hp))
  rw [workingSet_eq_filter, hd.split, List.filter_append, List.filter_eq_nil_iff.mpr,
    List.filter_eq_self.mpr, List.nil_append]
  · intro p hp
    rw [hrest p hp]
    rfl
  · intro p hp
    rw [hblocks p hp]
    simp

/-- **A pass divides off more blocks from the rest.** -/
theorem file {cs : List Chapter} {new : List Summary} {rest' : List (Nat × Message)}
    (hd : Divided messages tags tier blocks rest) (distinct : (messages.map (·.id)).Nodup)
    (fits : messages.length ≤ UInt64.size) (hfront : rest = Chapter.covered cs ++ rest')
    (nonempty : ∀ d ∈ cs, d.chunk ≠ []) (hfiles : List.Forall₂ Chapter.Files cs new) :
    Divided messages (tags.markAll cs) (tier ++ new) (blocks ++ cs.map (·.chunk)) rest' := by
  have hsplit : spoken messages = (blocks ++ cs.map (·.chunk)).flatten ++ rest' := by
    rw [hd.split, hfront, List.flatten_append, List.append_assoc]
    rfl
  have hmem : ∀ d ∈ cs, ∀ p ∈ d.chunk, p ∈ Chapter.covered cs := fun d hdc p hp =>
    List.mem_flatten.mpr ⟨d.chunk, List.mem_map_of_mem hdc, hp⟩
  have hapart := nodup_ids_spoken distinct
  rw [hd.split, hfront, List.map_append, List.map_append, List.nodup_append] at hapart
  obtain ⟨-, hnodup, hold⟩ := hapart
  refine ⟨hsplit, List.rel_append ?_ ?_, ?_⟩
  · -- the blocks before are untouched, since no message is in two places
    refine forall₂_standsFor_mono hd.stands fun p hp => ?_
    refine (markAll_of_not_mem fun d hdc hin => ?_).1
    obtain ⟨q, hq, hqid⟩ := List.mem_map.mp hin
    exact hold _ (List.mem_map_of_mem hp) _
      (List.mem_append_left _ (List.mem_map_of_mem (hmem d hdc q hq))) hqid.symm
  · refine forall₂_standsFor_of_files hfiles nonempty ?_ ?_
    · intro d hdc p hp
      have hspoken : p ∈ spoken messages := by
        rw [hd.split, hfront]
        exact List.mem_append_right _ (List.mem_append_left _ (hmem d hdc p hp))
      exact Nat.lt_of_lt_of_le (List.getElem?_eq_some_iff.mp (mem_spoken.mp hspoken).1).1 fits
    · intro d hdc p hp
      exact tag?_markAll_of_mem (List.nodup_append.mp hnodup).1 hdc (List.mem_map_of_mem hp)
  · intro id t ht
    rw [List.flatten_append, List.map_append, List.mem_append]
    by_cases hin : ∃ d ∈ cs, id ∈ d.messageIds
    · obtain ⟨d, hdc, hid⟩ := hin
      obtain ⟨p, hp, rfl⟩ := List.mem_map.mp hid
      exact .inr (.inr (List.mem_map_of_mem (hmem d hdc p hp)))
    · rw [(markAll_of_not_mem fun d hdc hid => hin ⟨d, hdc, hid⟩).1] at ht
      exact (hd.others id t ht).imp_right .inl

/-! ## What a division means -/

/-- A message that is tagged with a summary is in the blocks. -/
theorem mem_blocks (hd : Divided messages tags tier blocks rest)
    (distinct : (messages.map (·.id)).Nodup) {i : Nat} {m : Message} {t : Tag}
    (hi : messages[i]? = some m) (ht : tags.tag? m.id = some t) (hne : t ≠ .active) :
    (i, m) ∈ blocks.flatten := by
  rcases hd.others m.id t ht with rfl | hin
  · exact absurd rfl hne
  · obtain ⟨⟨j, m'⟩, hp, hid⟩ := List.mem_map.mp hin
    have hspoken : (j, m') ∈ spoken messages := by
      rw [hd.split]
      exact List.mem_append_left _ hp
    rw [same_place distinct hi (mem_spoken.mp hspoken).1 hid.symm]
    exact hp

/-- **The summarized messages are those of the blocks.** -/
theorem summarized_iff (hd : Divided messages tags tier blocks rest)
    (distinct : (messages.map (·.id)).Nodup) {i : Nat} {m : Message} (hi : messages[i]? = some m) :
    tags.isSummarized m = true ↔ (i, m) ∈ blocks.flatten := by
  unfold TagStore.isSummarized
  constructor
  · intro h
    cases ht : tags.tag? m.id with
    | none =>
      rw [ht] at h
      cases h
    | some t =>
      refine hd.mem_blocks distinct hi ht ?_
      rintro rfl
      rw [ht] at h
      cases h
  · intro hp
    obtain ⟨s, -, time, htag⟩ := hd.tag?_isSome hp
    rw [htag]
    rfl

/-- **The messages that carry the id of a summary are those of its block.** -/
theorem carriers (hd : Divided messages tags tier blocks rest)
    (distinct : (messages.map (·.id)).Nodup) (ids : (tier.map (·.id)).Nodup) :
    List.Forall₂ (fun s b => StandsFor tags s b ∧ ∀ i m, messages[i]? = some m →
      ((∃ t, tags.tag? m.id = some t ∧ t.summaryId = some s.id) ↔ (i, m) ∈ b)) tier blocks := by
  have hall : ∀ i m t (s : Summary), messages[i]? = some m → tags.tag? m.id = some t →
      t.summaryId = some s.id → (i, m) ∈ blocks.flatten := by
    intro i m t s hi ht hid
    refine hd.mem_blocks distinct hi ht ?_
    rintro rfl
    cases hid
  exact carriers_of_standsFor hd.stands ids fun i m t s _ => hall i m t s

/-- **Each summary ends before the next one begins.** -/
theorem separated (hd : Divided messages tags tier blocks rest) :
    tier.Pairwise fun a b => a.endIndex < b.startIndex := by
  have hascending := spoken_ascending messages
  rw [hd.split] at hascending
  exact separated_of_standsFor hd.stands (List.pairwise_append.mp hascending).1

/-- **A summarized message is covered by exactly one summary.** -/
theorem existsUnique_covering (hd : Divided messages tags tier blocks rest)
    (distinct : (messages.map (·.id)).Nodup) {i : Nat} {m : Message} (hi : messages[i]? = some m)
    (hm : tags.isSummarized m = true) :
    ∃! s, s ∈ tier ∧ s.startIndex.toNat ≤ i ∧ i ≤ s.endIndex.toNat := by
  obtain ⟨b, hb, hmem⟩ := List.mem_flatten.mp ((hd.summarized_iff distinct hi).mp hm)
  obtain ⟨s, hs, hstands⟩ := exists_partner hd.stands.flip hb
  have hascending : b.Pairwise (·.1 < ·.1) := by
    refine (spoken_ascending messages).sublist ?_
    rw [hd.split]
    exact (List.sublist_flatten_of_mem hb).trans (List.sublist_append_left _ _)
  have hcovers := hstands.covers hascending hmem
  refine ⟨s, ⟨hs, hcovers⟩, ?_⟩
  rintro s' ⟨hs', hfirst, hlast⟩
  by_contra hne
  -- two different summaries are apart, whichever of them comes first
  have happart : ∀ ⦃a⦄, a ∈ tier → ∀ ⦃b⦄, b ∈ tier → a ≠ b →
      a.endIndex < b.startIndex ∨ b.endIndex < a.startIndex :=
    List.Pairwise.forall_of_forall_of_flip (fun _ _ hne => absurd rfl hne)
      (hd.separated.imp fun hab _ => .inl hab) (hd.separated.imp fun hab _ => .inr hab)
  rcases happart hs hs' (Ne.symm hne) with hlt | hlt
  · rw [UInt64.lt_iff_toNat_lt] at hlt
    omega
  · rw [UInt64.lt_iff_toNat_lt] at hlt
    omega

end Divided

/-! ## Every run -/

/-- The open chat is divided by its first tier. -/
def World.Divides (w : World) : Prop :=
  w.chat.Sound ∧ ∃ blocks rest,
    Divided w.chat.messages (w.tags w.chat.id) (w.level1 w.chat.id) blocks rest

/-- Passes of any configuration and messages that are displayed, in a chat that only grows. Everything
    may fail but saving tags during a pass. -/
def Usage.growing : Usage where
  makes
    | .compact _ | .compactIfDue _ | .tagRendered .. => True
    | _ => False
  move := Chat.Grows
  mayFail
    | .tagRendered .., _ => True
    | _, .saveTags .. => False
    | _, _ => True

/-- A chat that grows keeps its messages. -/
theorem Chat.Grows.messages_prefix {a b : Chat} (h : ReflTransGen Chat.Grows a b) :
    a.messages <+: b.messages := by
  induction h with
  | refl => exact List.prefix_refl _
  | tail _ hstep ih =>
    refine ih.trans ?_
    cases hstep with
    | append m => exact List.prefix_append _ _
    | measure => exact List.prefix_refl _

/-- A chat that grows is extended. -/
theorem extending_of_grows {h : Habits} (hm : h.move = Chat.Grows) : h.Extending := by
  rw [Habits.Extending, hm]
  exact fun _ _ => Chat.Grows.extends

namespace World.Divides

variable {h : Habits} {c : Config} {w v : World}

/-- A division lasts while nothing is saved. -/
theorem calm (hw : w.Divides) (hm : h.move = Chat.Grows) (hv : Calm h w v) : v.Divides := by
  obtain ⟨sound, blocks, rest, hd⟩ := hw
  have hgrows : ReflTransGen Chat.Grows w.chat v.chat := hm ▸ hv.chat
  have hextends := Chat.extends_of_moves (fun _ _ => Chat.Grows.extends) hgrows
  obtain ⟨added, hadded⟩ := hd.grow (Chat.Grows.messages_prefix hgrows)
  refine ⟨hextends.sound sound, blocks, rest ++ added, ?_⟩
  rw [hextends.id, hv.tags, hv.level1]
  exact hadded

/-- A message that is displayed for the first time is in no block. -/
theorem rendered (hw : w.Divides) (hm : h.move = Chat.Grows) (hv : Rendered h w v) : v.Divides := by
  cases hv with
  | calm hv => exact hw.calm hm hv
  | @tagged m _ _ untagged hv =>
    obtain ⟨sound, blocks, rest, hd⟩ := hw
    refine calm (w := w.putTags w.chat.id ((w.tags w.chat.id).markActive m))
      ⟨sound, blocks, rest, ?_⟩ hm hv
    show Divided w.chat.messages ((w.putTags w.chat.id _).tags w.chat.id) _ blocks rest
    rw [World.putTags_tags]
    exact hd.render untagged

/-- A pass that saved both its record and its tags has divided off the blocks of its chapters. -/
theorem filed {chat : Chat} {cs : List Chapter} {time : Int64} {u : World} (hw : w.Divides)
    (hm : h.move = Chat.Grows) (hp : Underway h c w chat cs u)
    (hv : Calm h (u.withPass w c chat cs time) v) : v.Divides := by
  obtain ⟨sound, blocks, rest, hd⟩ := hw
  obtain ⟨hseen, hsince⟩ := hp.extends (extending_of_grows hm)
  obtain ⟨added, hadded⟩ := hd.grow (Chat.Grows.messages_prefix (hm ▸ hp.seen))
  obtain ⟨rest', hfront⟩ := hp.filing.front
  obtain ⟨new, hnew, hfiles⟩ := hp.level1_withRecord time
  have hs := hseen.sound sound
  rw [hseen.id, hadded.workingSet_eq hs.distinct] at hfront
  -- the pass works on the chat as it saw it; what was written since comes to the rest
  have hfiled := hadded.file hs.distinct hs.fits hfront hp.filing.nonempty hfiles
  obtain ⟨later, hlater⟩ := hfiled.grow (Chat.Grows.messages_prefix (hm ▸ hp.since))
  refine calm (w := u.withPass w c chat cs time) ⟨hsince.sound hs,
    blocks ++ cs.map (·.chunk), rest' ++ later, ?_⟩ hm hv
  show Divided u.chat.messages ((u.withPass w c chat cs time).tags u.chat.id)
    ((u.withPass w c chat cs time).level1 u.chat.id) _ _
  rw [hsince.id, hp.tags_withPass, Underway.level1_withPass, hnew, hseen.id]
  exact hlater

/-- **A pass divides the chat further**, or leaves the division as it is. -/
theorem pass {r : Except EngineError Outcome} (hw : w.Divides) (hm : h.move = Chat.Grows)
    (hsaves : ∀ chatId tags, ¬ h.mayFail (.saveTags chatId tags)) (hv : PassEnds h c w r v) :
    v.Divides := by
  cases hv with
  | skipped hv => exact hw.calm hm hv
  | notRecorded hv => exact hw.calm hm hv
  | notTagged _ hfail _ => exact absurd hfail (hsaves _ _)
  | completed hp hv => exact hw.filed hm hp hv

end World.Divides

/-- Between any two requests the chat is divided by its first tier. -/
theorem Usage.Between.divides {w₀ w : World} (hw : Usage.growing.Between w₀ w)
    (start : w₀.Divides) : w.Divides := by
  refine hw.invariant (I := fun _ => True) start ?_ ?_
  · intro w chat hw hmove
    exact hw.calm (h := Usage.growing.habits (.restoreSwipe "")) rfl
      ⟨.single hmove, rfl, rfl, List.Subset.refl _⟩
  · intro r w hr hw
    cases r with
    | compact c =>
      refine .bind ((perform_throughout (.refl w)).mono (fun _ _ => trivial) fun _ _ hv =>
        hw.pass rfl (fun _ _ => id) hv) fun _ _ _ hv => .finish trivial hv
    | compactIfDue c =>
      refine .bind ((maybePerform_throughout (.refl w)).mono (fun _ _ => trivial) fun _ _ hv =>
        hw.pass rfl (fun _ _ => id) hv) fun _ _ _ hv => .finish trivial hv
    | tagRendered c messageId =>
      refine .bind ((Operation.tagRendered_throughout c messageId w).mono (fun _ _ => trivial)
        fun _ _ hv => hw.rendered rfl hv) fun _ _ _ hv => .finish trivial hv
    | _ => cases hr

/-- **Each message is told once.** In every run that starts without record and tags, of any passes and
    displayed messages in a chat that only grows, the summarized messages are the front of the spoken
    ones; the first tier divides them into consecutive blocks, each with its first and last position, and
    the messages of a block are the ones that carry the id of its summary. So each summary ends before
    the next one begins, and a summarized message is covered by exactly one. -/
theorem summaries_divide_the_chat {w₀ w : World} (sound : w₀.chat.Sound)
    (unrecorded : w₀.storages w₀.chat.id = none) (untagged : w₀.tags w₀.chat.id = .empty)
    (hw : Usage.growing.Between w₀ w) :
    ∃ blocks rest, spoken w.chat.messages = blocks.flatten ++ rest ∧
      (∀ i m, w.chat.messages[i]? = some m →
        ((w.tags w.chat.id).isSummarized m = true ↔ (i, m) ∈ blocks.flatten)) ∧
      List.Forall₂ (fun s b =>
          b.head?.map (·.1) = some s.startIndex.toNat ∧
          b.getLast?.map (·.1) = some s.endIndex.toNat ∧
          ∀ i m, w.chat.messages[i]? = some m →
            ((∃ t, (w.tags w.chat.id).tag? m.id = some t ∧ t.summaryId = some s.id) ↔ (i, m) ∈ b))
        (w.level1 w.chat.id) blocks ∧
      (w.level1 w.chat.id).Pairwise (fun a b => a.endIndex < b.startIndex) ∧
      ∀ i m, w.chat.messages[i]? = some m → (w.tags w.chat.id).isSummarized m = true →
        ∃! s, s ∈ w.level1 w.chat.id ∧ s.startIndex.toNat ≤ i ∧ i ≤ s.endIndex.toNat := by
  have hstart : w₀.Divides := by
    refine ⟨sound, [], spoken w₀.chat.messages, ?_⟩
    rw [untagged, World.level1, unrecorded]
    exact .nil _
  have hnumbered : w.Numbered := (Usage.Reaches.between hw).numbered unrecorded
    (fun r hr => by cases r <;> first | rfl | cases hr) fun _ _ => Chat.Grows.extends
  obtain ⟨hs, blocks, rest, hd⟩ := hw.divides hstart
  refine ⟨blocks, rest, hd.split, fun i m => hd.summarized_iff hs.distinct, ?_, hd.separated,
    fun i m => hd.existsUnique_covering hs.distinct⟩
  exact (hd.carriers hs.distinct hnumbered.distinct).imp fun s b hsb =>
    ⟨hsb.1.first, hsb.1.last, hsb.2⟩

/-- Two passes over the short chat, the first of which was halted at the second message. -/
theorem two_passes_divide_short_chat :
    let pass := (Request.compact .thorough).dialogue
    let first := pass.run (Obliging.answer .brief scripted)
      (Obliging.blank [some "They met.", none, some "They parted."])
    let w := (pass.run (Obliging.answer .brief scripted) first.2).2.world .brief
    (w.level1 w.chat.id).length = 2 ∧
      ∃ (blocks : List (List (Nat × Message))) (rest : List (Nat × Message)),
        spoken w.chat.messages = blocks.flatten ++ rest ∧
        blocks.length = (w.level1 w.chat.id).length ∧
        (w.level1 w.chat.id).Pairwise (fun a b => a.endIndex < b.startIndex) := by
  intro pass first w
  have hfirst := Obliging.ends .brief scripted (Usage.growing.habits (.compact .thorough)) pass
    (Obliging.fresh_blank [some "They met.", none, some "They parted."])
  have hsecond := Obliging.ends .brief scripted (Usage.growing.habits (.compact .thorough)) pass
    hfirst.2
  obtain ⟨blocks, rest, hsplit, -, hblocks, hapart, -⟩ :=
    summaries_divide_the_chat ⟨by decide, by decide⟩ rfl rfl
      (.served (r := .compact .thorough) (.served (r := .compact .thorough) .start trivial hfirst.1)
        trivial hsecond.1)
  exact ⟨by decide +kernel, blocks, rest, hsplit, hblocks.length_eq.symm, hapart⟩

end Recap
