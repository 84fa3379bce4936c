import Recap.Proofs.Engine.Runs
import Recap.Proofs.Engine.Scene
import Recap.Proofs.Tag.Store

/-!
# What operations leave alone

Passes are there to change records and tags. The other operations each name one thing that they may
change, or nothing, and they leave it as well if they fail. Whatever is asked of the engine, it is done to
the chat that is open: records and tags of other chats stay as they are.

`Scene` lists the scenes that operations can end in; here the lists are compared with the scene before.

## Contents
- `Scene.Elsewhere` — nothing is changed for other chats; `request_elsewhere`.
- `Scene.OneTag` — no more is changed than the tag of one message and of the swipe that it shows.
- `operations_touch_what_they_name` — what each operation leaves alone, and that failures leave all.
-/

namespace Recap

namespace Scene

variable {mayFail : HostCall → Prop} {s t u : Scene}

/-! ## Other chats -/

/-- From `s` to `t` nothing was saved for another chat than the open one, and that is still open. -/
structure Elsewhere (s t : Scene) : Prop where
  chat : t.chat = s.chat
  storages : ∀ id, (∀ chat, s.chat = some chat → id ≠ chat.id) → t.storages id = s.storages id
  tags : ∀ id, (∀ chat, s.chat = some chat → id ≠ chat.id) → t.tags id = s.tags id

namespace Elsewhere

theorem refl (s : Scene) : Elsewhere s s := ⟨rfl, fun _ _ => rfl, fun _ _ => rfl⟩

theorem trans (h : Elsewhere s t) (h' : Elsewhere t u) : Elsewhere s u where
  chat := h'.chat.trans h.chat
  storages := by
    intro id hid
    rw [h'.storages id (h.chat ▸ hid), h.storages id hid]
  tags := by
    intro id hid
    rw [h'.tags id (h.chat ▸ hid), h.tags id hid]

/-- A record of the open chat is saved. -/
theorem putStorage {chat : Chat} (hchat : s.chat = some chat) (storage : Storage) :
    Elsewhere s (s.putStorage chat.id storage) where
  chat := rfl
  storages := fun _ hid => putStorage_storages_of_ne _ _ _ (hid chat hchat)
  tags := fun _ _ => rfl

/-- Tags of the open chat are saved. -/
theorem putTags {chat : Chat} (hchat : s.chat = some chat) (tags : TagStore) :
    Elsewhere s (s.putTags chat.id tags) where
  chat := rfl
  storages := fun _ _ => rfl
  tags := fun _ hid => putTags_tags_of_ne _ _ _ (hid chat hchat)

/-- The prompt is no part of what is kept. -/
theorem shows {block : PromptBlock} (h : Shows mayFail block s t) : Elsewhere s t := by
  rcases h with rfl | ⟨-, rfl⟩
  · exact ⟨rfl, fun _ _ => rfl, fun _ _ => rfl⟩
  · exact refl _

theorem tagged {id : String} {r : Except EngineError Bool} (h : Tagged id s r t) :
    Elsewhere s t := by
  cases h with
  | unchanged hr => exact refl s
  | written hchat hm differs => exact putTags hchat _

theorem made {c : Config} {r : Except EngineError Storage} (h : Made c s r t) :
    Elsewhere s t := by
  cases h with
  | failed e => exact refl s
  | kept hchat hkept => exact refl s
  | made hchat missing => exact putStorage hchat _

theorem brought {text : String} {r : Except EngineError Storage} (h : Brought mayFail text s r t) :
    Elsewhere s t := by
  cases h with
  | failed e => exact refl s
  | replaced hchat hread hshows => exact (putStorage hchat _).trans (shows hshows)

theorem refreshed {c : Config} (h : Refreshed mayFail c s t) : Elsewhere s t := by
  cases h with
  | unchanged hfail => exact refl s
  | shown hchat hshows => exact shows hshows

theorem pass {r : Except EngineError Outcome} (h : PassLeaves mayFail s r t) :
    Elsewhere s t := by
  cases h with
  | skipped reason => exact refl s
  | failed e => exact refl s
  | recorded e storage hchat => exact putStorage hchat _
  | @completed _ chat storage tags _ hchat hshows =>
    have hrecord : Elsewhere s (s.putStorage chat.id storage) := putStorage hchat storage
    have hstill : (s.putStorage chat.id storage).chat = some chat := hchat
    exact (hrecord.trans (putTags hstill tags)).trans (shows hshows)

end Elsewhere

/-- An operation that leaves other chats alone does so too if its result goes nowhere. -/
theorem elsewhere_of_bind {α β : Type} {d : Hosted α} {b : β} {P : α → Scene → Prop}
    (hd : d.Throughout (Step mayFail) (fun _ => True) P s) (hP : ∀ a t, P a t → Elsewhere s t) :
    (d >>= fun _ => pure b).Throughout (Step mayFail) (fun _ => True) (fun _ t => Elsewhere s t) s :=
  .bind hd fun a t _ h => .finish trivial (hP a t h)

/-- Whatever happens at the host, other chats are left alone. -/
theorem handle_elsewhere (c : Config) (e : HostEvent) (s : Scene) :
    (handle c e).Throughout (Step mayFail) (fun _ => True) (fun _ t => Elsewhere s t) s := by
  cases e with
  | chatChanged =>
    unfold handle
    refine .bind (ensureStorage_scene c s) fun r t _ hmade => ?_
    refine .bind (refreshInjection_scene c t) fun _ u _ hrefreshed => ?_
    exact .finish trivial ((Elsewhere.made hmade).trans (Elsewhere.refreshed hrefreshed))
  | messageRendered id =>
    unfold handle
    refine .bind (tagRendered_scene c id s) fun r t _ htagged => ?_
    refine .bind (maybePerform_scene c t) fun outcome u _ hpass => ?_
    have helsewhere := (Elsewhere.tagged htagged).trans (Elsewhere.pass hpass)
    cases outcome with
    | ok outcome => exact .finish trivial helsewhere
    | error e => exact .finish trivial helsewhere
  | swipeChanged id => exact elsewhere_of_bind (restoreSwipe_scene id s) fun _ _ => Elsewhere.tagged
  | generationStarted =>
    exact elsewhere_of_bind (refreshInjection_scene c s) fun _ _ => Elsewhere.refreshed

/-- **Whatever is asked of the engine, other chats are left alone.** -/
theorem request_elsewhere (request : Request) (s : Scene) :
    request.dialogue.Throughout (Step mayFail) (fun _ => True) (fun _ t => Elsewhere s t) s := by
  have same : ∀ {t : Scene}, t = s → Elsewhere s t := fun ht => ht ▸ .refl s
  cases request with
  | compact c => exact elsewhere_of_bind (perform_scene c s) fun _ _ => Elsewhere.pass
  | compactIfDue c => exact elsewhere_of_bind (maybePerform_scene c s) fun _ _ => Elsewhere.pass
  | tagRendered c id => exact elsewhere_of_bind (tagRendered_scene c id s) fun _ _ => Elsewhere.tagged
  | restoreSwipe id => exact elsewhere_of_bind (restoreSwipe_scene id s) fun _ _ => Elsewhere.tagged
  | ensureStorage c => exact elsewhere_of_bind (ensureStorage_scene c s) fun _ _ => Elsewhere.made
  | refreshInjection c =>
    exact elsewhere_of_bind (refreshInjection_scene c s) fun _ _ => Elsewhere.refreshed
  | status c => exact elsewhere_of_bind (status_scene c s) fun _ _ => same
  | exportText c => exact elsewhere_of_bind (exportText_scene c s) fun _ _ => same
  | hidden c kind => exact elsewhere_of_bind (hidden_scene c kind s) fun _ _ => same
  | importText text => exact elsewhere_of_bind (importText_scene text s) fun _ _ => Elsewhere.brought
  | event c e => exact elsewhere_of_bind (handle_elsewhere c e s) fun _ _ => id

/-! ## One tag -/

/-- From `s` to `t` no more is changed than the tag of the message with the given id, and that of the swipe
    that the open chat shows for it. -/
structure OneTag (id : String) (s t : Scene) : Prop where
  storages : t.storages = s.storages
  slot : t.slot = s.slot
  elsewhere : ∀ chatId, (∀ chat, s.chat = some chat → chatId ≠ chat.id) →
    t.tags chatId = s.tags chatId
  tag : ∀ chat, s.chat = some chat → ∀ id', id' ≠ id →
    (t.tags chat.id).tag? id' = (s.tags chat.id).tag? id'
  swipe : ∀ chat, s.chat = some chat → ∀ id' k,
    (t.tags chat.id).swipeTag? id' k ≠ (s.tags chat.id).swipeTag? id' k →
      id' = id ∧ ∃ m, chat.find? id = some m ∧ m.activeSwipe = some k

/-- A write for a message changes its tag, and that of the swipe that it shows. -/
theorem Tagged.oneTag {id : String} {r : Except EngineError Bool} (h : Tagged id s r t) :
    OneTag id s t := by
  have helsewhere := Elsewhere.tagged h
  cases h with
  | unchanged hr => exact ⟨rfl, rfl, fun _ _ => rfl, fun _ _ _ _ => rfl, fun _ _ _ _ h => absurd rfl h⟩
  | @written chat m tag hchat hm differs =>
    have hid : m.id = id := Chat.id_of_find? hm
    refine ⟨rfl, rfl, helsewhere.tags, fun chat' hchat' id' hid' => ?_,
      fun chat' hchat' id' k hne => ?_⟩
    · obtain rfl : chat = chat' := Option.some.inj (hchat.symm.trans hchat')
      rw [putTags_tags_self, TagStore.tag?_write, if_neg (by rw [hid]; exact hid')]
    · obtain rfl : chat = chat' := Option.some.inj (hchat.symm.trans hchat')
      rw [putTags_tags_self, TagStore.swipeTag?_write] at hne
      by_cases hshown : id' = m.id ∧ m.activeSwipe = some k
      · exact ⟨hshown.1.trans hid, m, hm, hshown.2⟩
      · rw [if_neg hshown] at hne
        exact absurd rfl hne

/-- Only a change of the tag is reported as one. -/
theorem Tagged.eq_of_ne {id : String} {r : Except EngineError Bool} (h : Tagged id s r t)
    (hr : r ≠ .ok true) : t = s := by
  cases h with
  | unchanged => rfl
  | written => exact absurd rfl hr

/-! ## One record -/

/-- A record is made for the open chat if it has none, and no other is changed. -/
theorem Made.record {c : Config} {r : Except EngineError Storage} (h : Made c s r t) :
    t.tags = s.tags ∧ t.slot = s.slot ∧
      (∀ chatId, t.storages chatId ≠ s.storages chatId → s.storages chatId = none ∧
        t.storages chatId = some (.fresh c.defaultInjection) ∧
        ∃ chat, s.chat = some chat ∧ chatId = chat.id) ∧
      ∀ e, r = .error e → t = s := by
  cases h with
  | failed e => exact ⟨rfl, rfl, fun _ hne => absurd rfl hne, fun _ _ => rfl⟩
  | kept hchat hkept => exact ⟨rfl, rfl, fun _ hne => absurd rfl hne, fun _ _ => rfl⟩
  | @made chat hchat missing =>
    refine ⟨rfl, rfl, fun chatId hne => ?_, nofun⟩
    by_cases hid : chatId = chat.id
    · subst hid
      exact ⟨missing, putStorage_storages_self .., chat, hchat, rfl⟩
    · exact absurd (putStorage_storages_of_ne _ _ _ hid) hne

/-- An import replaces the record of the open chat, and leaves all tags alone. -/
theorem Brought.record {text : String} {r : Except EngineError Storage}
    (h : Brought mayFail text s r t) :
    t.tags = s.tags ∧
      (∀ chatId, t.storages chatId ≠ s.storages chatId →
        ∃ chat, s.chat = some chat ∧ chatId = chat.id) ∧
      ∀ e, r = .error e → t = s := by
  cases h with
  | failed e => exact ⟨rfl, fun _ hne => absurd rfl hne, fun _ _ => rfl⟩
  | @replaced chat storage t hchat hread shows =>
    have hkept : t.tags = s.tags ∧ t.storages = (s.putStorage chat.id storage).storages := by
      rcases shows with rfl | ⟨-, rfl⟩
      · exact ⟨rfl, rfl⟩
      · exact ⟨rfl, rfl⟩
    refine ⟨hkept.1, fun chatId hne => ?_, nofun⟩
    by_cases hid : chatId = chat.id
    · exact ⟨chat, hchat, hid⟩
    · rw [hkept.2] at hne
      exact absurd (putStorage_storages_of_ne _ _ _ hid) hne

/-- The prompt is no part of what is kept. -/
theorem Refreshed.kept {c : Config} (h : Refreshed mayFail c s t) :
    t.storages = s.storages ∧ t.tags = s.tags := by
  cases h with
  | unchanged => exact ⟨rfl, rfl⟩
  | shown hchat shows =>
    rcases shows with rfl | ⟨-, rfl⟩
    · exact ⟨rfl, rfl⟩
    · exact ⟨rfl, rfl⟩

end Scene

/-! ## All operations -/

open Scene (Step Elsewhere OneTag)

/-- **Operations touch only what they name, and not even that if they fail.** Whatever the scene is, and
    whichever calls may fail: to look at the state of a chat, to export it and to find the messages to leave
    out changes nothing; to put the summaries into the prompt changes no record and no tag; a message that
    was displayed or shows another swipe has at most its own tag changed and that of its swipe; a record is
    made only where none is; an import replaces the record of the open chat, and changes no tag; and none
    of them changes anything if it fails. Whatever is asked of the engine, passes and events included,
    nothing is changed for another chat. -/
theorem operations_touch_what_they_name {mayFail : HostCall → Prop} (c : Config) (s t : Scene) :
    (∀ r, (Operation.status c).run.Ends (Step mayFail) s r t → t = s) ∧
    (∀ r, (Operation.exportText c).run.Ends (Step mayFail) s r t → t = s) ∧
    (∀ kind r, (Operation.hidden c kind).run.Ends (Step mayFail) s r t → t = s) ∧
    (∀ text, (refreshInjection c).Ends (Step mayFail) s text t →
      t.storages = s.storages ∧ t.tags = s.tags) ∧
    (∀ id r, (Operation.tagRendered c id).run.Ends (Step mayFail) s r t →
      OneTag id s t ∧ (r ≠ .ok true → t = s)) ∧
    (∀ id r, (Operation.restoreSwipe id).run.Ends (Step mayFail) s r t →
      OneTag id s t ∧ (r ≠ .ok true → t = s)) ∧
    (∀ r, (Operation.ensureStorage c).run.Ends (Step mayFail) s r t →
      t.tags = s.tags ∧ t.slot = s.slot ∧
      (∀ chatId, t.storages chatId ≠ s.storages chatId → s.storages chatId = none ∧
        t.storages chatId = some (.fresh c.defaultInjection) ∧
        ∃ chat, s.chat = some chat ∧ chatId = chat.id) ∧
      ∀ e, r = .error e → t = s) ∧
    (∀ text r, (Operation.importText text).run.Ends (Step mayFail) s r t →
      t.tags = s.tags ∧
      (∀ chatId, t.storages chatId ≠ s.storages chatId →
        ∃ chat, s.chat = some chat ∧ chatId = chat.id) ∧
      ∀ e, r = .error e → t = s) ∧
    (∀ request : Request, request.dialogue.Ends (Step mayFail) s () t → Elsewhere s t) := by
  refine ⟨?_, ?_, ?_, ?_, ?_, ?_, ?_, ?_, ?_⟩
  · exact fun r h => (Scene.status_scene c s).ends h
  · exact fun r h => (Scene.exportText_scene c s).ends h
  · exact fun kind r h => (Scene.hidden_scene c kind s).ends h
  · exact fun text h => ((Scene.refreshInjection_scene c s).ends h).kept
  · intro id r h
    have htagged := (Scene.tagRendered_scene c id s).ends h
    exact ⟨htagged.oneTag, htagged.eq_of_ne⟩
  · intro id r h
    have htagged := (Scene.restoreSwipe_scene id s).ends h
    exact ⟨htagged.oneTag, htagged.eq_of_ne⟩
  · exact fun r h => ((Scene.ensureStorage_scene c s).ends h).record
  · exact fun text r h => ((Scene.importText_scene text s).ends h).record
  · exact fun request h => (Scene.request_elsewhere request s).ends h

/-- The short chat on a host that saves no records. -/
def MemoryHost.unrecording : MemoryHost :=
  { MemoryHost.brief with failures := { Failures.none with storageSaves := true } }

/-- On a host that saves no records a message can be tagged, and that changes nothing else; a record cannot be
    made, and that changes nothing at all. -/
theorem unrecording_host_keeps_tags :
    let w := MemoryHost.unrecording
    let tagged := w.run .standard (Operation.tagRendered .standard "a").run
    let made := w.run .standard (Operation.ensureStorage .standard).run
    tagged.1 = .ok true ∧ OneTag "a" w.scene tagged.2.scene ∧
      (∃ e, made.1 = .error e) ∧ made.2.scene = w.scene := by
  intro w tagged made
  have htagged : tagged.1 = .ok true := by decide +kernel
  have hmade : made.1.isOk = false := by decide +kernel
  have htagEnds := MemoryHost.ends_scene .standard (w := w) (Operation.tagRendered .standard "a").run rfl
  have hmadeEnds := MemoryHost.ends_scene .standard (w := w) (Operation.ensureStorage .standard).run rfl
  obtain ⟨-, -, -, -, htag, -, -, -, -⟩ :=
    operations_touch_what_they_name .standard w.scene tagged.2.scene
  obtain ⟨-, -, -, -, -, -, hensure, -, -⟩ :=
    operations_touch_what_they_name .standard w.scene made.2.scene
  obtain ⟨e, he⟩ : ∃ e, made.1 = .error e := by
    cases hresult : made.1 with
    | ok storage =>
      rw [hresult] at hmade
      cases hmade
    | error e => exact ⟨e, rfl⟩
  exact ⟨htagged, (htag "a" _ htagEnds).1, ⟨e, he⟩, (hensure _ hmadeEnds).2.2.2 e he⟩

end Recap
