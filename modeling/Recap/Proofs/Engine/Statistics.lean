import Recap.Proofs.Dialogue.Alike
import Recap.Proofs.Dialogue.Relying
import Recap.Proofs.Engine.OperationEffect
import Recap.Proofs.Tag.Counts

/-!
# Statistics

A record carries numbers about its chat, and these can be out of date, or come from another chat altogether.
Nobody goes by them: whoever shows them or saves them computes them first, from the tags and the messages. So
records that differ in nothing else cannot be told apart by their status or their export
(`status_alike`, `exportText_alike`), and the numbers that a pass has saved are the ones that are computed
again right after it.

## Contents
- `Storage.AlikeButCounts`, `Storage.refresh_refresh`, `Storage.summarized_le_total` — numbers that are computed.
- `HostCall.Agree`, `status_alike`, `exportText_alike` — two hosts with other numbers.
- `status_throughout`, `status_answered` — a status, as the host keeps things.
- `statistics_are_computed_anew` — what the numbers in a record are worth.
-/

namespace Recap

open Dialogue (Alike Conduct OkAlike Relying answering)
open Relation (ReflTransGen)
open World (Calm Step)

/-! ## Numbers that are computed -/

namespace Storage

/-- The records are the same but for the numbers that are computed from tags. -/
structure AlikeButCounts (s t : Storage) : Prop where
  level1 : s.level1 = t.level1
  level2 : s.level2 = t.level2
  level3 : s.level3 = t.level3
  lastCompactTime : s.stats.lastCompactTime = t.stats.lastCompactTime
  injection : s.injection = t.injection

variable {s t : Storage}

theorem AlikeButCounts.refl (s : Storage) : s.AlikeButCounts s := ⟨rfl, rfl, rfl, rfl, rfl⟩

/-- **Computing the numbers changes nothing else.** -/
theorem refresh_alike (s : Storage) (chat : Chat) (tags : TagStore) :
    (s.refresh chat tags).AlikeButCounts s := ⟨rfl, rfl, rfl, rfl, rfl⟩

/-- **What the numbers were before does not matter.** -/
theorem AlikeButCounts.refresh (h : s.AlikeButCounts t) (chat : Chat) (tags : TagStore) :
    s.refresh chat tags = t.refresh chat tags := by
  obtain ⟨_, _, _, ⟨_, _, _, _⟩, _⟩ := s
  obtain ⟨_, _, _, ⟨_, _, _, _⟩, _⟩ := t
  obtain ⟨rfl, rfl, rfl, rfl, rfl⟩ := h
  rfl

/-- Numbers that were computed once are not changed by computing them again. -/
theorem refresh_refresh (s : Storage) (chat : Chat) (tags : TagStore) :
    (s.refresh chat tags).refresh chat tags = s.refresh chat tags :=
  (s.refresh_alike chat tags).refresh chat tags

theorem AlikeButCounts.status (h : s.AlikeButCounts t) (chat : Chat) (tags : TagStore) :
    Status.of chat s tags = Status.of chat t tags := by
  unfold Status.of
  rw [h.refresh, h.level1, h.level2, h.level3, h.lastCompactTime, h.injection]

end Storage

/-- No more messages are unsummarized than there are. -/
theorem TagStore.level0_le_total (tags : TagStore) {messages : List Message}
    (hfits : messages.length < UInt64.size) :
    (tags.counts messages).level0 ≤ (tags.counts messages).total := by
  have hlevels : (spokenLevels messages tags).length < UInt64.size := by
    rw [spokenLevels, List.length_map, length_spoken]
    exact Nat.lt_of_le_of_lt (List.length_filter_le _ _) hfits
  rw [tags.counts_eq, UInt64.le_iff_toNat_le, LevelCounts.toNat_total_of hlevels]
  omega

/-- No more messages are summarized than there are. -/
theorem Storage.summarized_le_total (s : Storage) {chat : Chat} (tags : TagStore)
    (hfits : chat.messages.length < UInt64.size) :
    (s.refresh chat tags).stats.summarizedMessages ≤ (s.refresh chat tags).stats.totalMessages :=
  UInt64.sub_le (tags.level0_le_total hfits)

/-! ## Two hosts -/

/-- Answers that differ at most in numbers that are computed from tags. -/
def HostCall.Agree : (q : HostCall) → q.Answer → q.Answer → Prop
  | .loadStorage _, a, b => OkAlike (Option.Rel Storage.AlikeButCounts) a b
  | _, a, b => a = b

/-- Records that are loaded differ as answers do. -/
theorem loadOrInit_alike (c : Config) (chatId : String) :
    (loadOrInit c chatId).Alike HostCall.Agree
      (OkAlike fun x y => x.1.AlikeButCounts y.1 ∧ x.2 = y.2) (loadOrInit c chatId) := by
  refine .call fun a b hab => ?_
  cases hab with
  | error cause => exact .finish (.error cause)
  | ok h =>
    cases h with
    | none => exact .finish (.ok ⟨.refl _, rfl⟩)
    | some h => exact .finish (.ok ⟨h, rfl⟩)

theorem loadState_alike (c : Config) (chatId : String) :
    (loadState c chatId).Alike HostCall.Agree
      (OkAlike fun x y => x.1.AlikeButCounts y.1 ∧ x.2 = y.2) (loadState c chatId) := by
  refine .bind (loadOrInit_alike c chatId) fun r r' hr => ?_
  cases hr with
  | error cause => exact .finish (.error cause)
  | ok h =>
    refine .call fun a b hab => ?_
    obtain rfl : a = b := hab
    cases a with
    | error cause => exact .finish (.error cause)
    | ok tags => exact .finish (.ok ⟨h.1, rfl⟩)

namespace Operation

/-- What is found for an operation is alike if what is found is. -/
theorem ofHost_alike {α β : Type} {P : α → β → Prop} {d : Hosted (Except String α)}
    {d' : Hosted (Except String β)} (h : d.Alike HostCall.Agree (OkAlike P) d') :
    (ofHost d).run.Alike HostCall.Agree (OkAlike P) (ofHost d').run := by
  refine .bind h fun r r' hr => ?_
  cases hr with
  | error cause => exact .finish (.error _)
  | ok h => exact .finish (.ok h)

theorem currentChat_alike : currentChat.run.Alike HostCall.Agree (OkAlike Eq) currentChat.run := by
  refine .call fun a b hab => ?_
  obtain rfl : a = b := hab
  cases a with
  | none => exact .finish (.error _)
  | some chat => exact .finish (.ok rfl)

/-- **A status does not go by the numbers in the record.** -/
theorem status_alike (c : Config) :
    (status c).run.Alike HostCall.Agree (OkAlike Eq) (status c).run := by
  refine .except currentChat_alike ?_
  rintro chat _ rfl
  refine .except (ofHost_alike (loadState_alike c chat.id)) ?_
  rintro ⟨s, tags⟩ ⟨t, _⟩ ⟨hst, rfl⟩
  exact .finish (.ok (hst.status chat tags))

/-- **Neither does an export.** -/
theorem exportText_alike (c : Config) :
    (exportText c).run.Alike HostCall.Agree (OkAlike Eq) (exportText c).run := by
  refine .except currentChat_alike ?_
  rintro chat _ rfl
  refine .except (ofHost_alike (loadState_alike c chat.id)) ?_
  rintro ⟨s, tags⟩ ⟨t, _⟩ ⟨hst, rfl⟩
  refine .call fun now _ hnow => ?_
  obtain rfl := hnow
  refine .finish (.ok ?_)
  rw [hst.refresh]

end Operation

/-! ## The status of what is kept -/

variable {h : Habits}

/-- Whether an answer is not a failure. -/
def HostCall.Succeeds : (q : HostCall) → q.Answer → Prop
  | .currentChat, a => a.isSome = true
  | .loadStorage _, a => a.isOk = true
  | .loadTags _, a => a.isOk = true
  | _, _ => True

/-- Where no call may fail none does. -/
theorem World.Step.succeeds (hsafe : ∀ q, ¬ h.mayFail q) {w v : World} {q : HostCall} {a : q.Answer}
    (hs : Step h w q a v) : q.Succeeds a := by
  obtain ⟨u, ha, -, -⟩ := hs
  cases q with
  | currentChat =>
    rcases ha.1 with ⟨-, hfails⟩ | rfl
    · exact absurd hfails (hsafe _)
    · rfl
  | loadStorage | loadTags =>
    rcases ha.1 with ⟨hfails, -⟩ | rfl
    · exact absurd hfails (hsafe _)
    · rfl
  | _ => trivial

/-- Where answers do not fail a record and tags are found. -/
theorem loadState_answered (c : Config) (chatId : String) :
    (loadState c chatId).Relying HostCall.Succeeds (fun _ => True) fun r => ∃ found, r = .ok found := by
  refine Relying.bind (P := fun r => ∃ found, r = .ok found) ?_ ?_
  · refine .call trivial fun a ha => ?_
    rcases a with cause | (_ | storage)
    · cases ha
    · exact .finish ⟨_, rfl⟩
    · exact .finish ⟨_, rfl⟩
  · rintro _ ⟨⟨storage, isFresh⟩, rfl⟩
    refine .call trivial fun a ha => ?_
    cases a with
    | error cause => cases ha
    | ok tags => exact .finish ⟨_, rfl⟩

namespace Operation

/-- **A status is that of what is kept**, and nothing is saved. -/
theorem status_throughout (c : Config) (w : World) :
    (status c).run.Throughout (Step h) (Calm h w)
      (fun r v => Calm h w v ∧ ∀ status, r = .ok status →
        status = .of w.chat ((w.storages w.chat.id).getD (.fresh c.defaultInjection))
          (w.tags w.chat.id)) w := by
  unfold status
  refine onChat (fun _ => id) (fun e v hv => ⟨hv, fun _ h => nomatch h⟩) fun u hu => ?_
  refine onLoaded (loadState_throughout c w.chat.id u) hu (fun _ => id)
    (fun e v hv => ⟨hv, fun _ h => nomatch h⟩) fun v hv => ?_
  rw [hu.storages, hu.tags]
  refine .finish hv ⟨hv, fun _ h => ?_⟩
  cases h
  rfl

/-- Where answers do not fail a status is given. -/
theorem status_answered (c : Config) :
    (status c).run.Relying HostCall.Succeeds (fun _ => True) fun r => ∃ status, r = .ok status := by
  refine Relying.bind (P := fun r => ∃ chat, r = .ok chat) ?_ ?_
  · refine ⟨trivial, fun a ha => ?_⟩
    cases a with
    | none => cases ha
    | some chat => exact ⟨chat, rfl⟩
  · rintro _ ⟨chat, rfl⟩
    refine Relying.bind (P := fun r => ∃ found, r = .ok found)
      (Relying.bind (loadState_answered c chat.id) ?_) ?_
    · rintro _ ⟨found, rfl⟩
      exact ⟨found, rfl⟩
    · rintro _ ⟨found, rfl⟩
      exact ⟨_, rfl⟩

end Operation

/-- The status shows the numbers of the record. -/
structure Status.Shows (status : Status) (s : Storage) : Prop where
  total : status.counts.total = s.stats.totalMessages
  summarized : status.counts.total - status.counts.level0 = s.stats.summarizedMessages
  compressionRatio : status.compressionRatio = s.stats.compressionRatio
  lastCompactTime : status.lastCompactTime = s.stats.lastCompactTime

/-- Where computing the numbers changes nothing, they are the ones that are shown. -/
theorem Status.shows_of_refresh {chat : Chat} {tags : TagStore} {s : Storage}
    (hs : s.refresh chat tags = s) : (Status.of chat s tags).Shows s where
  total := congrArg (·.stats.totalMessages) hs
  summarized := congrArg (·.stats.summarizedMessages) hs
  compressionRatio := congrArg (·.stats.compressionRatio) hs
  lastCompactTime := rfl

/-- **The record that a pass saves has the numbers that are computed from the tags that it saves.** -/
theorem PassEnds.refreshed {c : Config} {w v : World} {report : Report}
    (hv : PassEnds h c w (.ok (.completed report)) v) :
    ∃ chat s, ReflTransGen h.move w.chat chat ∧ ReflTransGen h.move chat v.chat ∧
      v.storages chat.id = some s ∧ s.refresh chat (v.tags chat.id) = s := by
  cases hv with
  | @completed chat cs time _ u _ hp hv =>
    -- the record was computed from the tags that were saved after it
    refine ⟨chat, ((w.passStart c chat).file cs).record chat time, hp.seen, hp.since.trans hv.chat, ?_, ?_⟩
    · rw [hv.storages]
      exact World.putStorage_storages ..
    · rw [hv.tags, World.withPass, World.putTags_tags]
      exact Storage.refresh_refresh ..

/-- **The numbers in a record are computed, and never relied on.** Two hosts that answer alike up to the
    numbers in records get the same status and the same export. Computing the numbers changes nothing else,
    does not depend on what they were, and changes nothing once it was done; in a chat of fewer than `2^64`
    messages no more of them count as summarized than there are. When a pass is completed, the numbers that
    it leaves are the ones that are computed from the tags that are kept, for the chat as the pass saw it; and
    a status of this chat, before anything else is saved, shows them. It fails only where a call may fail. -/
theorem statistics_are_computed_anew :
    (∀ (σ τ : Type) (host : Conduct HostCall HostCall.Answer σ) (other : Conduct HostCall HostCall.Answer τ)
      (S : σ → τ → Prop),
      (∀ s t q a b s' t', S s t → host s q a s' → other t q b t' → HostCall.Agree q a b ∧ S s' t') →
      ∀ c s t, S s t →
        (∀ r r' s' t', (Operation.status c).run.Ends host s r s' →
          (Operation.status c).run.Ends other t r' t' → r = r') ∧
        ∀ r r' s' t', (Operation.exportText c).run.Ends host s r s' →
          (Operation.exportText c).run.Ends other t r' t' → r = r') ∧
    (∀ (chat : Chat) (tags : TagStore) (s : Storage),
      (s.refresh chat tags).AlikeButCounts s ∧
      (∀ t, s.AlikeButCounts t →
        s.refresh chat tags = t.refresh chat tags ∧ Status.of chat s tags = .of chat t tags) ∧
      (s.refresh chat tags).refresh chat tags = s.refresh chat tags ∧
      (chat.messages.length < UInt64.size →
        (s.refresh chat tags).stats.summarizedMessages ≤ (s.refresh chat tags).stats.totalMessages)) ∧
    (∀ (h : Habits) (c : Config) (w v : World) (report : Report),
      (perform c).Ends (Step h) w (.ok (.completed report)) v ∨
        (maybePerform c).Ends (Step h) w (.ok (.completed report)) v →
      ∃ chat s, ReflTransGen h.move w.chat chat ∧ ReflTransGen h.move chat v.chat ∧
        v.storages chat.id = some s ∧ s.refresh chat (v.tags chat.id) = s ∧
        (v.chat = chat → ∀ h' c' r u, (Operation.status c').run.Ends (Step h') v r u →
          (∀ status, r = .ok status → status.Shows s) ∧
          ((∀ q, ¬ h'.mayFail q) → ∃ status, r = .ok status))) := by
  have same : ∀ {α : Type} {r r' : Except EngineError α}, OkAlike Eq r r' → r = r' := by
    rintro α r r' (rfl | e)
    · rfl
    · rfl
  refine ⟨?_, ?_, ?_⟩
  · intro σ τ host other S hagree c s t hS
    exact ⟨fun r r' s' t' hd hd' => same ((Operation.status_alike c).ends hagree hS hd hd').1,
      fun r r' s' t' hd hd' => same ((Operation.exportText_alike c).ends hagree hS hd hd').1⟩
  · intro chat tags s
    exact ⟨s.refresh_alike chat tags, fun t hst => ⟨hst.refresh chat tags, hst.status chat tags⟩,
      s.refresh_refresh chat tags, s.summarized_le_total tags⟩
  · intro h c w v report hrun
    have hends : PassEnds h c w (.ok (.completed report)) v := by
      rcases hrun with hrun | hrun
      · exact (perform_throughout (.refl w)).ends hrun
      · exact (maybePerform_throughout (.refl w)).ends hrun
    obtain ⟨chat, s, hseen, hsince, hkept, hfresh⟩ := hends.refreshed
    refine ⟨chat, s, hseen, hsince, hkept, hfresh, ?_⟩
    rintro rfl h' c' r u hstatus
    refine ⟨fun status hr => ?_, fun hsafe => ?_⟩
    · have hshown := ((Operation.status_throughout c' v).ends hstatus).2 status hr
      rw [hkept, Option.getD_some] at hshown
      rw [hshown]
      exact Status.shows_of_refresh hfresh
    · exact (Operation.status_answered c').ends (fun _ _ _ _ hs => hs.succeeds hsafe) hstatus

/-! ## Two records of one chat -/

namespace Obliging

variable {τ : Type}

/-- The hosts keep the same but for the numbers in records. -/
structure AlikeButCounts (w v : Obliging τ) : Prop where
  storages : ∀ id, Option.Rel Storage.AlikeButCounts (w.storages id) (v.storages id)
  tags : w.tags = v.tags
  mind : w.mind = v.mind
  issued : w.issued = v.issued

/-- They answer alike, and go on keeping the same. -/
theorem AlikeButCounts.answer (chat : Chat) (compress : List Message → Nat → τ → Option String × τ)
    {w v : Obliging τ} (hwv : w.AlikeButCounts v) (q : HostCall) :
    q.Agree (answer chat compress q w).1 (answer chat compress q v).1 ∧
      (answer chat compress q w).2.AlikeButCounts (answer chat compress q v).2 := by
  obtain ⟨hstorages, htags, hmind, hissued⟩ := hwv
  cases q with
  | loadStorage id => exact ⟨.ok (hstorages id), ⟨hstorages, htags, hmind, hissued⟩⟩
  | loadTags id =>
    have hread : (Except.ok (w.tags id) : Except String TagStore) = .ok (v.tags id) := by rw [htags]
    exact ⟨hread, ⟨hstorages, htags, hmind, hissued⟩⟩
  | saveStorage id s =>
    refine ⟨rfl, ⟨fun id' => ?_, htags, hmind, hissued⟩⟩
    show Option.Rel _ (Function.update w.storages id (some s) id')
      (Function.update v.storages id (some s) id')
    by_cases hid : id' = id
    · subst hid
      rw [Function.update_self, Function.update_self]
      exact .some (.refl s)
    · rw [Function.update_of_ne hid, Function.update_of_ne hid]
      exact hstorages id'
  | saveTags id t =>
    have hsaved : Function.update w.tags id t = Function.update v.tags id t := by rw [htags]
    exact ⟨rfl, ⟨hstorages, hsaved, hmind, hissued⟩⟩
  | freshId =>
    have hid : w.nextId = v.nextId := by rw [nextId, nextId, hissued]
    have hdrawn : w.nextId :: w.issued = v.nextId :: v.issued := by rw [hid, hissued]
    exact ⟨hid, ⟨hstorages, htags, hmind, hdrawn⟩⟩
  | compress messages chapter =>
    have hreply : compress messages chapter w.mind = compress messages chapter v.mind := by rw [hmind]
    have hsaid := congrArg Prod.fst hreply
    exact ⟨hsaid, ⟨hstorages, htags, congrArg Prod.snd hreply, hissued⟩⟩
  | _ => exact ⟨rfl, ⟨hstorages, htags, hmind, hissued⟩⟩

end Obliging

/-- A fresh record, and the same record with numbers that are not true of any chat, lead to the same status
    and the same export; and after a pass over the latter, the record has the true numbers, and they are
    shown. -/
theorem untrue_numbers_are_not_shown :
    let fresh := Storage.fresh .standard
    let untrue : Storage :=
      { fresh with stats :=
          { fresh.stats with totalMessages := 7, summarizedMessages := 9, compressionRatio := 0.5 } }
    let answer := Obliging.answer .brief scripted
    let host := { Obliging.blank [some "They met.", none] with storages := fun _ => some fresh }
    let other := { Obliging.blank [some "They met.", none] with storages := fun _ => some untrue }
    let final := (perform .thorough).run answer other
    let shown := (Operation.status .standard).run.run answer final.2
    ((Operation.status .standard).run.run answer host).1
      = ((Operation.status .standard).run.run answer other).1 ∧
    ((Operation.exportText .standard).run.run answer host).1
      = ((Operation.exportText .standard).run.run answer other).1 ∧
    (final.2.storages "brief").map (·.stats.totalMessages) = some 2 ∧
    ∃ s status, final.2.storages "brief" = some s ∧ shown.1 = .ok status ∧ status.Shows s := by
  intro fresh untrue answer host other final shown
  obtain ⟨hsame, -, hpass⟩ := statistics_are_computed_anew
  have hbeside : host.AlikeButCounts other :=
    ⟨fun _ => .some ⟨rfl, rfl, rfl, rfl, rfl⟩, rfl, rfl, rfl⟩
  have hagree : ∀ s t q a b s' t', s.AlikeButCounts t → answering answer s q a s' →
      answering answer t q b t' → HostCall.Agree q a b ∧ s'.AlikeButCounts t' := by
    intro s t q a b s' t' hst ha hb
    have h := hst.answer .brief scripted q
    rwa [show Obliging.answer .brief scripted q s = _ from ha,
      show Obliging.answer .brief scripted q t = _ from hb] at h
  obtain ⟨hstatus, hexport⟩ :=
    hsame _ _ (answering answer) (answering answer) _ hagree .standard host other hbeside
  have hends {α : Type} (d : Hosted α) := Dialogue.ends_answering answer d
  refine ⟨hstatus _ _ _ _ (hends _ host) (hends _ other), hexport _ _ _ _ (hends _ host) (hends _ other),
    by decide +kernel, ?_⟩
  -- the pass is a run on a host of any kind that does not fail and whose chat does not change
  let h : Habits := { move := fun _ _ => False, mayFail := fun _ => False }
  have hfresh : other.Fresh := fun _ hid => nomatch hid
  obtain ⟨hrun, hfresh'⟩ := Obliging.ends .brief scripted h (perform .thorough) hfresh
  obtain ⟨hshown, -⟩ := Obliging.ends .brief scripted h (Operation.status .standard).run hfresh'
  have hcompleted : final.1 = .ok (.completed
      { chunks := 1, messagesCompacted := 1, summaryIds := [""], halted := true }) := by decide +kernel
  rw [show ((perform .thorough).run (Obliging.answer .brief scripted) other).1 = _ from hcompleted] at hrun
  obtain ⟨chat, s, hseen, -, hkept, -, hstatus⟩ := hpass h .thorough _ _ _ (.inl hrun)
  obtain rfl : chat = .brief := by
    cases hseen with
    | refl => rfl
    | tail _ hmove => exact hmove.elim
  obtain ⟨hshows, hanswered⟩ := hstatus rfl h .standard _ _ hshown
  obtain ⟨status, hok⟩ := hanswered fun _ => id
  exact ⟨s, status, hkept, hok, hshows status hok⟩

end Recap
