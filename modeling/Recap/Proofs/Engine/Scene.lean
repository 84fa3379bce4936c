import Mathlib.Logic.Function.Basic
import Recap.Engine.Memory
import Recap.Proofs.Engine.OperationEffect
import Recap.Proofs.Engine.Reliable

/-!
# What one request leaves behind

A scene is all that a request can be told by afterwards: the chat that is open, the records and tags that
are kept, and the text in the prompt. Other modules follow a chat that goes on while the engine waits for
an answer; here it stays as it is during a request, so that what the request found and what it left can be
compared to the last detail, the prompt included.

`Scene.Step` answers from the scene. Of the calls that the parameter `mayFail` admits each may fail, now or
the next time: so with everything admitted all patterns of failures are covered, and with nothing admitted
no failure is. For every operation of the engine there is one lemma that lists the scenes it can end in,
with the result that goes with each.

## Contents
- `Scene`, `Scene.Step` — scenes, and how they answer.
- `Scene.onChat`, `Scene.loadState_scene`, `Scene.saveState_scene` and others — the parts of operations.
- `Tagged`, `Made`, `Brought`, `PassLeaves` — what single operations leave.
- `tagRendered_scene`, `perform_scene` and others — no operation leaves anything else.
- `MemoryHost.scene`, `MemoryHost.ends_scene` — runs of a host in memory are among those considered.
-/

namespace Recap

/-! ## Scenes -/

/-- All that a request can be told by afterwards. -/
structure Scene where
  /-- The chat that is open. -/
  chat : Option Chat
  storages : String → Option Storage
  tags : String → TagStore
  /-- The text that was last put into the prompt. -/
  slot : Option PromptBlock

/-- Whether a call changes nothing in a scene: it neither saves nor sets the prompt. -/
def HostCall.isIdle : HostCall → Bool
  | .saveStorage .. | .saveTags .. | .setBlock _ => false
  | _ => true

namespace Scene

/-- The scene with another record. -/
def putStorage (s : Scene) (chatId : String) (storage : Storage) : Scene :=
  { s with storages := Function.update s.storages chatId (some storage) }

/-- The scene with other tags. -/
def putTags (s : Scene) (chatId : String) (tags : TagStore) : Scene :=
  { s with tags := Function.update s.tags chatId tags }

/-- The scene with another text in the prompt. -/
def setSlot (s : Scene) (block : PromptBlock) : Scene := { s with slot := some block }

section Fields

variable (s : Scene) (id : String) (storage : Storage) (tags : TagStore) (block : PromptBlock)

@[simp] theorem putStorage_chat : (s.putStorage id storage).chat = s.chat := rfl
@[simp] theorem putStorage_tags : (s.putStorage id storage).tags = s.tags := rfl
@[simp] theorem putStorage_slot : (s.putStorage id storage).slot = s.slot := rfl
@[simp] theorem putTags_chat : (s.putTags id tags).chat = s.chat := rfl
@[simp] theorem putTags_storages : (s.putTags id tags).storages = s.storages := rfl
@[simp] theorem putTags_slot : (s.putTags id tags).slot = s.slot := rfl
@[simp] theorem setSlot_chat : (s.setSlot block).chat = s.chat := rfl
@[simp] theorem setSlot_storages : (s.setSlot block).storages = s.storages := rfl
@[simp] theorem setSlot_tags : (s.setSlot block).tags = s.tags := rfl
@[simp] theorem setSlot_slot : (s.setSlot block).slot = some block := rfl

@[simp] theorem putStorage_storages_self : (s.putStorage id storage).storages id = some storage :=
  Function.update_self ..

@[simp] theorem putTags_tags_self : (s.putTags id tags).tags id = tags := Function.update_self ..

variable {id' : String}

theorem putStorage_storages_of_ne (h : id' ≠ id) :
    (s.putStorage id storage).storages id' = s.storages id' := Function.update_of_ne h ..

theorem putTags_tags_of_ne (h : id' ≠ id) : (s.putTags id tags).tags id' = s.tags id' :=
  Function.update_of_ne h ..

end Fields

/-- How a scene answers, and what it is then. A call that may fail may also go well. Calls that are not
    listed can be answered in any way. -/
def Step (mayFail : HostCall → Prop) : Dialogue.Conduct HostCall HostCall.Answer Scene
  | s, .currentChat, a, t => a = s.chat ∧ t = s
  | s, .loadStorage id, a, t =>
    (a = .ok (s.storages id) ∨ mayFail (.loadStorage id) ∧ ∃ cause, a = .error cause) ∧ t = s
  | s, .saveStorage id storage, a, t =>
    a = .ok () ∧ t = s.putStorage id storage ∨
      mayFail (.saveStorage id storage) ∧ (∃ cause, a = .error cause) ∧ t = s
  | s, .loadTags id, a, t =>
    (a = .ok (s.tags id) ∨ mayFail (.loadTags id) ∧ ∃ cause, a = .error cause) ∧ t = s
  | s, .saveTags id tags, a, t =>
    a = .ok () ∧ t = s.putTags id tags ∨
      mayFail (.saveTags id tags) ∧ (∃ cause, a = .error cause) ∧ t = s
  | s, .setBlock block, _, t => t = s.setSlot block ∨ mayFail (.setBlock block) ∧ t = s
  | s, _, _, t => t = s

variable {mayFail : HostCall → Prop} {s t : Scene}

/-- An idle call changes nothing. -/
theorem Step.same {call : HostCall} {a : call.Answer} (h : Step mayFail s call a t)
    (hcall : call.isIdle = true) : t = s := by
  cases call with
  | saveStorage | saveTags | setBlock => cases hcall
  | currentChat | loadStorage | loadTags => exact h.2
  | _ => exact h

/-- A dialogue of idle calls changes nothing. -/
theorem untouched {α : Type} {d : Hosted α} (hd : d.Asks (·.isIdle = true)) (s : Scene) :
    d.Throughout (Step mayFail) (fun _ => True) (fun _ t => t = s) s := by
  have hsame := hd.throughout (c := Step mayFail) (I := (· = s))
    (fun s' q a t hs' hq h => (h.same hq).trans hs') rfl
  exact hsame.mono (fun _ _ => trivial) fun _ _ => id

/-! ## Parts of operations -/

/-- The record of a chat is loaded, or a fresh one stands for it. -/
theorem loadOrInit_scene (c : Config) (chatId : String) (s : Scene) :
    (loadOrInit c chatId).Throughout (Step mayFail) (fun _ => True)
      (fun r t => t = s ∧
        (r = .ok ((s.storages chatId).getD (.fresh c.defaultInjection), (s.storages chatId).isNone) ∨
          mayFail (.loadStorage chatId) ∧ ∃ cause, r = .error cause)) s := by
  unfold loadOrInit
  refine .call trivial fun a t ht => ?_
  obtain ⟨rfl | ⟨hfail, cause, rfl⟩, rfl⟩ := ht
  · cases hkept : t.storages chatId with
    | none => exact .finish trivial ⟨rfl, .inl rfl⟩
    | some storage => exact .finish trivial ⟨rfl, .inl rfl⟩
  · exact .finish trivial ⟨rfl, .inr ⟨hfail, cause, rfl⟩⟩

/-- Record and tags of a chat are loaded as they are kept. -/
theorem loadState_scene (c : Config) (chatId : String) (s : Scene) :
    (loadState c chatId).Throughout (Step mayFail) (fun _ => True)
      (fun r t => t = s ∧
        (r = .ok ((s.storages chatId).getD (.fresh c.defaultInjection), s.tags chatId) ∨
          (mayFail (.loadStorage chatId) ∨ mayFail (.loadTags chatId)) ∧
            ∃ cause, r = .error cause)) s := by
  unfold loadState
  refine .bind (loadOrInit_scene c chatId s) ?_
  rintro r t - ⟨rfl, rfl | ⟨hfail, cause, rfl⟩⟩
  · refine .call trivial fun a u hu => ?_
    obtain ⟨rfl | ⟨hfail, cause, rfl⟩, rfl⟩ := hu
    · exact .finish trivial ⟨rfl, .inl rfl⟩
    · exact .finish trivial ⟨rfl, .inr ⟨.inr hfail, cause, rfl⟩⟩
  · exact .finish trivial ⟨rfl, .inr ⟨.inl hfail, cause, rfl⟩⟩

/-- The tags of a chat are loaded as they are kept. -/
theorem loadTags_scene (chatId : String) (s : Scene) :
    (HostCall.ask (.loadTags chatId)).Throughout (Step mayFail) (fun _ => True)
      (fun r t => t = s ∧ ∀ tags, r = .ok tags → tags = s.tags chatId) s := by
  refine .call trivial fun a t ht => ?_
  obtain ⟨rfl | ⟨-, cause, rfl⟩, rfl⟩ := ht
  · exact .finish trivial ⟨rfl, fun tags htags => (Except.ok.inj htags).symm⟩
  · exact .finish trivial ⟨rfl, nofun⟩

/-- A record is saved, or nothing is. -/
theorem saveStorage_scene (chatId : String) (storage : Storage) (s : Scene) :
    (saveStorage chatId storage).Throughout (Step mayFail) (fun _ => True)
      (fun r t => r = .ok () ∧ t = s.putStorage chatId storage ∨
        (∃ cause, r = .error (.persistence .storage chatId cause)) ∧ t = s) s := by
  unfold saveStorage
  refine .call trivial fun a t ht => ?_
  rcases ht with ⟨rfl, rfl⟩ | ⟨-, ⟨cause, rfl⟩, rfl⟩
  · exact .finish trivial (.inl ⟨rfl, rfl⟩)
  · exact .finish trivial (.inr ⟨⟨cause, rfl⟩, rfl⟩)

/-- Tags are saved, or nothing is. -/
theorem saveTags_scene (chatId : String) (tags : TagStore) (s : Scene) :
    (saveTags chatId tags).Throughout (Step mayFail) (fun _ => True)
      (fun r t => r = .ok () ∧ t = s.putTags chatId tags ∨
        (∃ cause, r = .error (.persistence .tags chatId cause)) ∧ t = s) s := by
  unfold saveTags
  refine .call trivial fun a t ht => ?_
  rcases ht with ⟨rfl, rfl⟩ | ⟨-, ⟨cause, rfl⟩, rfl⟩
  · exact .finish trivial (.inl ⟨rfl, rfl⟩)
  · exact .finish trivial (.inr ⟨⟨cause, rfl⟩, rfl⟩)

/-- Record and tags are saved, or the record only, or nothing. -/
theorem saveState_scene (chatId : String) (storage : Storage) (tags : TagStore) (s : Scene) :
    (saveState chatId storage tags).Throughout (Step mayFail) (fun _ => True)
      (fun r t => r = .ok () ∧ t = (s.putStorage chatId storage).putTags chatId tags ∨
        ∃ e, r = .error e ∧ (t = s ∨ t = s.putStorage chatId storage)) s := by
  unfold saveState
  refine .bind (saveStorage_scene chatId storage s) ?_
  rintro r t - (⟨rfl, rfl⟩ | ⟨⟨cause, rfl⟩, rfl⟩)
  · refine (saveTags_scene chatId tags _).mono (fun _ => id) ?_
    rintro r u (⟨rfl, rfl⟩ | ⟨⟨cause, rfl⟩, rfl⟩)
    · exact .inl ⟨rfl, rfl⟩
    · exact .inr ⟨_, rfl, .inr rfl⟩
  · exact .finish trivial (.inr ⟨_, rfl, .inl rfl⟩)

/-- The prompt shows the summaries of a record, unless it cannot be set. -/
theorem inject_scene (chat : Chat) (storage : Storage) (s : Scene) :
    (inject chat storage).Throughout (Step mayFail) (fun _ => True)
      (fun _ t => t = s.setSlot (injectedBlock chat storage) ∨
        mayFail (.setBlock (injectedBlock chat storage)) ∧ t = s) s := by
  unfold inject
  refine .call trivial fun _ t ht => ?_
  exact .finish trivial ht

section Parts

variable {α β : Type} {P : Except EngineError α → Scene → Prop}

/-- An operation on the chat that is open. -/
theorem onChat {g : Chat → Operation α} (closed : s.chat = none → P (.error .noChat) s)
    (hg : ∀ chat, s.chat = some chat →
      (g chat).run.Throughout (Step mayFail) (fun _ => True) P s) :
    (Operation.currentChat >>= g).run.Throughout (Step mayFail) (fun _ => True) P s := by
  have hchat : Operation.currentChat.run.Throughout (Step mayFail) (fun _ => True)
      (fun r t => t = s ∧ (r = .error .noChat ∧ s.chat = none ∨ ∃ chat, r = .ok chat ∧
        s.chat = some chat)) s := by
    refine .call trivial fun a t ht => ?_
    obtain ⟨ha, rfl⟩ := ht
    cases a with
    | none => exact .finish trivial ⟨rfl, .inl ⟨rfl, ha.symm⟩⟩
    | some chat => exact .finish trivial ⟨rfl, .inr ⟨chat, rfl, ha.symm⟩⟩
  refine .except hchat ?_ ?_
  · rintro chat t - ⟨rfl, ⟨hr, -⟩ | ⟨chat', hr, hopen⟩⟩
    · cases hr
    · cases hr
      exact hg chat hopen
  · rintro e t - ⟨rfl, ⟨hr, hclosed⟩ | ⟨chat', hr, -⟩⟩
    · cases hr
      exact closed hclosed
    · cases hr

/-- An operation that goes on with what a dialogue finds. -/
theorem onFound {d : Hosted (Except String β)} {R : Except String β → Scene → Prop}
    {g : β → Operation α} (hd : d.Throughout (Step mayFail) (fun _ => True) R s)
    (hok : ∀ b t, R (.ok b) t → (g b).run.Throughout (Step mayFail) (fun _ => True) P t)
    (herr : ∀ cause t, R (.error cause) t → P (.error (.host cause)) t) :
    (Operation.ofHost d >>= g).run.Throughout (Step mayFail) (fun _ => True) P s := by
  have hfound : (Operation.ofHost d).run.Throughout (Step mayFail) (fun _ => True)
      (fun r t => (∃ b, r = .ok b ∧ R (.ok b) t) ∨
        ∃ cause, r = .error (.host cause) ∧ R (.error cause) t) s := by
    refine .bind hd fun r t _ hr => ?_
    cases r with
    | ok b => exact .finish trivial (.inl ⟨b, rfl, hr⟩)
    | error cause => exact .finish trivial (.inr ⟨cause, rfl, hr⟩)
  refine .except hfound ?_ ?_
  · rintro b t - (⟨b', hb, hR⟩ | ⟨cause, hb, -⟩)
    · cases hb
      exact hok b t hR
    · cases hb
  · rintro e t - (⟨b', hb, -⟩ | ⟨cause, hb, hR⟩)
    · cases hb
    · cases hb
      exact herr cause t hR

/-- The end of an operation that saves tags. -/
theorem thenSaveTags {chatId : String} {tags : TagStore} {a : α}
    (saved : P (.ok a) (s.putTags chatId tags)) (failed : ∀ e, P (.error e) s) :
    (ExceptT.mk (saveTags chatId tags) >>= fun _ => (pure a : Operation α)).run.Throughout
      (Step mayFail) (fun _ => True) P s := by
  refine .except (saveTags_scene chatId tags s) ?_ ?_
  · rintro _ t - (⟨-, rfl⟩ | ⟨⟨cause, hr⟩, -⟩)
    · exact .finish trivial saved
    · cases hr
  · rintro e t - (⟨hr, -⟩ | ⟨-, rfl⟩)
    · cases hr
    · exact failed e

end Parts

/-! ## Operations that look -/

/-- An operation that reads record and tags of the open chat, and then only looks, changes nothing. -/
theorem looking {α : Type} {c : Config} {g : Chat → Storage × TagStore → Operation α}
    (hg : ∀ chat loaded, (g chat loaded).run.Asks (·.isIdle = true)) (s : Scene) :
    (do let chat ← Operation.currentChat
        let loaded ← Operation.ofHost (loadState c chat.id)
        g chat loaded : Operation α).run.Throughout (Step mayFail) (fun _ => True)
      (fun _ t => t = s) s := by
  refine onChat (fun _ => rfl) fun chat _ => ?_
  refine onFound (loadState_scene c chat.id s) ?_ ?_
  · rintro loaded t ⟨rfl, -⟩
    exact untouched (hg chat loaded) t
  · rintro cause t ⟨rfl, -⟩
    rfl

theorem status_scene (c : Config) (s : Scene) :
    (Operation.status c).run.Throughout (Step mayFail) (fun _ => True) (fun _ t => t = s) s :=
  looking (fun _ _ => .finish _) s

theorem exportText_scene (c : Config) (s : Scene) :
    (Operation.exportText c).run.Throughout (Step mayFail) (fun _ => True) (fun _ t => t = s) s :=
  looking (fun _ _ => .call rfl fun _ => .finish _) s

theorem hidden_scene (c : Config) (kind : GenerationKind) (s : Scene) :
    (Operation.hidden c kind).run.Throughout (Step mayFail) (fun _ => True) (fun _ t => t = s) s :=
  looking (fun _ _ => .finish _) s

/-! ## Operations that change something -/

/-- The text is put into the prompt, unless the prompt cannot be set. -/
def Shows (mayFail : HostCall → Prop) (block : PromptBlock) (s t : Scene) : Prop :=
  t = s.setSlot block ∨ mayFail (.setBlock block) ∧ t = s

/-- What an operation on the tag of one message leaves. A change is a write for the message that is found
    in the open chat, and it is reported. -/
inductive Tagged (id : String) (s : Scene) : Except EngineError Bool → Scene → Prop where
  | unchanged {r : Except EngineError Bool} (hr : r ≠ .ok true) : Tagged id s r s
  | written {chat : Chat} {m : Message} {tag : Tag} (hchat : s.chat = some chat)
      (hm : chat.find? id = some m) (differs : (s.tags chat.id).tag? id ≠ some tag) :
      Tagged id s (.ok true) (s.putTags chat.id ((s.tags chat.id).write m tag))

/-- What is left where a record was called for: a new record only if there was none. -/
inductive Made (c : Config) (s : Scene) : Except EngineError Storage → Scene → Prop where
  | failed (e : EngineError) : Made c s (.error e) s
  | kept {chat : Chat} {storage : Storage} (hchat : s.chat = some chat)
      (hkept : s.storages chat.id = some storage) : Made c s (.ok storage) s
  | made {chat : Chat} (hchat : s.chat = some chat) (missing : s.storages chat.id = none) :
      Made c s (.ok (.fresh c.defaultInjection)) (s.putStorage chat.id (.fresh c.defaultInjection))

/-- What the import of a document leaves. -/
inductive Brought (mayFail : HostCall → Prop) (text : String) (s : Scene) :
    Except EngineError Storage → Scene → Prop where
  | failed (e : EngineError) : Brought mayFail text s (.error e) s
  | replaced {chat : Chat} {storage : Storage} {t : Scene} (hchat : s.chat = some chat)
      (hread : importDocument text = .ok storage)
      (shows : Shows mayFail (injectedBlock chat storage) (s.putStorage chat.id storage) t) :
      Brought mayFail text s (.ok storage) t

/-- What is left where the summaries were put into the prompt anew. -/
inductive Refreshed (mayFail : HostCall → Prop) (c : Config) (s : Scene) : Scene → Prop where
  | unchanged (h : ∀ chat, s.chat = some chat → mayFail (.loadStorage chat.id)) :
      Refreshed mayFail c s s
  | shown {chat : Chat} {t : Scene} (hchat : s.chat = some chat)
      (shows : Shows mayFail
        (injectedBlock chat ((s.storages chat.id).getD (.fresh c.defaultInjection))) s t) :
      Refreshed mayFail c s t

/-- What a pass leaves. One that cannot save the tags has saved its record by then. -/
inductive PassLeaves (mayFail : HostCall → Prop) (s : Scene) : Except EngineError Outcome → Scene → Prop where
  | skipped (reason : SkipReason) : PassLeaves mayFail s (.ok (.skipped reason)) s
  | failed (e : EngineError) : PassLeaves mayFail s (.error e) s
  | recorded (e : EngineError) {chat : Chat} (storage : Storage) (hchat : s.chat = some chat) :
      PassLeaves mayFail s (.error e) (s.putStorage chat.id storage)
  | completed (report : Report) {chat : Chat} {storage : Storage} {tags : TagStore} {t : Scene}
      (hchat : s.chat = some chat)
      (shows : Shows mayFail (injectedBlock chat storage)
        ((s.putStorage chat.id storage).putTags chat.id tags) t) :
      PassLeaves mayFail s (.ok (.completed report)) t

/-- **A message that was displayed is tagged if it has no tag.** -/
theorem tagRendered_scene (c : Config) (id : String) (s : Scene) :
    (Operation.tagRendered c id).run.Throughout (Step mayFail) (fun _ => True) (Tagged id s) s := by
  unfold Operation.tagRendered
  by_cases henabled : c.enabled = true
  · simp only [henabled, Bool.not_true, if_false, Bool.false_eq_true]
    refine onChat (fun _ => .unchanged nofun) fun chat hchat => ?_
    cases hfind : chat.find? id with
    | none => exact .finish trivial (.unchanged nofun)
    | some m =>
      refine onFound (loadTags_scene chat.id s) ?_ fun cause t ht => ht.1 ▸ .unchanged nofun
      rintro tags t ⟨rfl, htags⟩
      obtain rfl := htags tags rfl
      by_cases htag : ((t.tags chat.id).tag? id).isSome = true
      · simp only [htag, if_true]
        exact .finish trivial (.unchanged nofun)
      · simp only [htag, if_false, Bool.false_eq_true]
        have huntagged : (t.tags chat.id).tag? id = none := by simpa using htag
        refine thenSaveTags (.written hchat hfind ?_) fun e => .unchanged nofun
        rw [huntagged]
        nofun
  · simp only [henabled, Bool.not_false, if_true]
    exact .finish trivial (.unchanged nofun)

/-- **A message is given the tag of the swipe that it shows, if that is another one.** -/
theorem restoreSwipe_scene (id : String) (s : Scene) :
    (Operation.restoreSwipe id).run.Throughout (Step mayFail) (fun _ => True) (Tagged id s) s := by
  unfold Operation.restoreSwipe
  refine onChat (fun _ => .unchanged nofun) fun chat hchat => ?_
  cases hfind : chat.find? id with
  | none => exact .finish trivial (.unchanged nofun)
  | some m =>
    refine onFound (loadTags_scene chat.id s) ?_ fun cause t ht => ht.1 ▸ .unchanged nofun
    rintro tags t ⟨rfl, htags⟩
    obtain rfl := htags tags rfl
    cases hrestore : (t.tags chat.id).restoreSwipe? m with
    | none => exact .finish trivial (.unchanged nofun)
    | some restored =>
      obtain ⟨k, -, hdiffers, rfl⟩ := TagStore.restoreSwipe?_eq_some hrestore
      rw [Chat.id_of_find? hfind] at hdiffers
      exact thenSaveTags (.written hchat hfind hdiffers) fun e => .unchanged nofun

/-- **A record is made only where there is none.** -/
theorem ensureStorage_scene (c : Config) (s : Scene) :
    (Operation.ensureStorage c).run.Throughout (Step mayFail) (fun _ => True) (Made c s) s := by
  unfold Operation.ensureStorage
  refine onChat (fun _ => .failed _) fun chat hchat => ?_
  refine onFound (loadOrInit_scene c chat.id s) ?_ fun cause t ht => ht.1 ▸ .failed _
  rintro ⟨storage, isFresh⟩ t ⟨rfl, hloaded | ⟨-, cause, hloaded⟩⟩
  · cases hkept : t.storages chat.id with
    | some kept =>
      simp only [hkept, Option.getD_some, Option.isNone_some] at hloaded
      cases hloaded
      exact .finish trivial (.kept hchat hkept)
    | none =>
      simp only [hkept, Option.getD_none, Option.isNone_none] at hloaded
      cases hloaded
      have hsave : (HostCall.ask (.saveStorage chat.id (.fresh c.defaultInjection))).Throughout
          (Step mayFail) (fun _ => True)
          (fun r u => r = .ok () ∧ u = t.putStorage chat.id (.fresh c.defaultInjection) ∨
            (∃ cause, r = .error cause) ∧ u = t) t := by
        refine .call trivial fun a u hu => ?_
        rcases hu with ⟨rfl, rfl⟩ | ⟨-, ⟨cause, rfl⟩, rfl⟩
        · exact .finish trivial (.inl ⟨rfl, rfl⟩)
        · exact .finish trivial (.inr ⟨⟨cause, rfl⟩, rfl⟩)
      refine onFound hsave ?_ ?_
      · rintro _ u (⟨-, rfl⟩ | ⟨⟨cause, hr⟩, -⟩)
        · exact .finish trivial (.made hchat hkept)
        · cases hr
      · rintro cause u (⟨hr, -⟩ | ⟨-, rfl⟩)
        · cases hr
        · exact .failed _
  · cases hloaded

/-- **An import replaces the record, and shows the new one.** -/
theorem importText_scene (text : String) (s : Scene) :
    (Operation.importText text).run.Throughout (Step mayFail) (fun _ => True)
      (Brought mayFail text s) s := by
  unfold Operation.importText
  refine onChat (fun _ => .failed _) fun chat hchat => ?_
  cases hread : importDocument text with
  | error fault => exact .finish trivial (.failed _)
  | ok storage =>
    refine .except (saveStorage_scene chat.id storage s) ?_ ?_
    · rintro _ t - (⟨-, rfl⟩ | ⟨⟨cause, hr⟩, -⟩)
      · -- the prompt is set last, and nothing of that can fail the import
        have hinject : (ExceptT.lift (inject chat storage) : Operation String).run.Throughout
            (Step mayFail) (fun _ => True) (fun r u => (∃ shown, r = .ok shown) ∧
              Shows mayFail (injectedBlock chat storage) (s.putStorage chat.id storage) u)
            (s.putStorage chat.id storage) :=
          Dialogue.Throughout.bind (inject_scene chat storage _) fun shown _ _ hshows =>
            .finish trivial ⟨⟨shown, rfl⟩, hshows⟩
        refine .except hinject ?_ ?_
        · rintro _ u - ⟨-, hshows⟩
          exact .finish trivial (.replaced hchat hread hshows)
        · rintro e u - ⟨⟨shown, he⟩, -⟩
          cases he
      · cases hr
    · rintro e t - (⟨hr, -⟩ | ⟨-, rfl⟩)
      · cases hr
      · exact .failed e

/-- **The summaries of the open chat are put into the prompt as they are kept.** -/
theorem refreshInjection_scene (c : Config) (s : Scene) :
    (refreshInjection c).Throughout (Step mayFail) (fun _ => True)
      (fun _ => Refreshed mayFail c s) s := by
  unfold refreshInjection
  refine .call trivial fun a t ht => ?_
  obtain ⟨ha, rfl⟩ := ht
  cases a with
  | none =>
    refine .finish trivial (.unchanged fun chat hchat => ?_)
    rw [← ha] at hchat
    cases hchat
  | some chat =>
    refine .bind (loadOrInit_scene c chat.id t) ?_
    rintro r u - ⟨rfl, rfl | ⟨hfail, cause, rfl⟩⟩
    · refine (inject_scene chat _ u).mono (fun _ => id) fun _ v hshows => ?_
      exact .shown ha.symm hshows
    · refine .finish trivial (.unchanged fun chat' hchat' => ?_)
      obtain rfl : chat = chat' := Option.some.inj (ha.trans hchat')
      exact hfail

/-! ## Passes -/

/-- A pass over a working set of the open chat. -/
theorem compact_scene (c : Config) {chat : Chat} (hchat : s.chat = some chat) (storage : Storage)
    (tags : TagStore) (working : List (Nat × Message)) :
    (compact c chat storage tags working).Throughout (Step mayFail) (fun _ => True)
      (PassLeaves mayFail s) s := by
  unfold compact
  refine .bind (untouched (borrowProfile_asks_only (p := (·.isIdle = true)) rfl (fun _ => rfl) c) s)
    fun previous s₁ _ h₁ => ?_
  subst h₁
  refine .call trivial fun _ s₂ h₂ => ?_
  obtain rfl : s₂ = s₁ := h₂.same rfl
  have hfold := foldChunks_asks_only (p := (·.isIdle = true)) (fun _ _ => rfl) rfl rfl (fun _ => rfl)
  refine .bind (untouched (hfold _ _ _) s₂) fun folded s₃ _ h₃ => ?_
  subst h₃
  refine .bind (untouched (returnProfile_asks_only (p := (·.isIdle = true)) (fun _ => rfl) previous) s₃)
    fun _ s₄ _ h₄ => ?_
  subst h₄
  refine .call trivial fun now s₅ h₅ => ?_
  obtain rfl : s₅ = s₄ := h₅.same rfl
  -- until here nothing was changed
  refine .bind (saveState_scene chat.id _ folded.tags s₅) ?_
  rintro r s₆ - (⟨rfl, rfl⟩ | ⟨e, rfl, hsaved⟩)
  · refine .bind (inject_scene chat _ _) fun _ s₇ _ hshows => ?_
    refine .call trivial fun _ s₈ h₈ => ?_
    obtain rfl : s₈ = s₇ := h₈.same rfl
    exact .finish trivial (.completed _ hchat hshows)
  · refine .call trivial fun _ s₇ h₇ => ?_
    obtain rfl : s₇ = s₆ := h₇.same rfl
    rcases hsaved with rfl | rfl
    · exact .finish trivial (.failed e)
    · exact .finish trivial (.recorded e _ hchat)

/-- **A pass leaves the record, the tags and the prompt that belong together**, or it says what it did
    not come to. -/
theorem perform_scene (c : Config) (s : Scene) :
    (perform c).Throughout (Step mayFail) (fun _ => True) (PassLeaves mayFail s) s := by
  have hbody : (passBody c).Throughout (Step mayFail) (fun _ => True) (PassLeaves mayFail s) s := by
    unfold passBody
    refine .call trivial fun a t ht => ?_
    obtain ⟨ha, rfl⟩ := ht
    cases a with
    | none => exact .finish trivial (.skipped _)
    | some chat =>
      refine .bind (loadState_scene c chat.id t) ?_
      rintro r u - ⟨rfl, rfl | ⟨-, cause, rfl⟩⟩
      · by_cases hempty : (workingSet chat.messages (u.tags chat.id)).isEmpty = true
        · simp only [hempty, if_true]
          exact .finish trivial (.skipped _)
        · simp only [hempty, if_false, Bool.false_eq_true]
          exact compact_scene c ha.symm _ _ _
      · exact .finish trivial (.skipped _)
  unfold perform
  refine .call trivial fun a t ht => ?_
  obtain rfl : t = s := ht
  cases a with
  | false => exact .finish trivial (.skipped _)
  | true =>
    refine .bind hbody fun r u _ hr => ?_
    refine .call trivial fun _ v hv => ?_
    obtain rfl : v = u := hv
    exact .finish trivial hr

/-- **A pass that is started by itself leaves what any pass leaves.** -/
theorem maybePerform_scene (c : Config) (s : Scene) :
    (maybePerform c).Throughout (Step mayFail) (fun _ => True) (PassLeaves mayFail s) s := by
  unfold maybePerform
  refine .call trivial fun a t ht => ?_
  obtain ⟨-, rfl⟩ := ht
  cases a with
  | none => exact .finish trivial (.skipped _)
  | some chat =>
    refine .call trivial fun a u hu => ?_
    obtain ⟨-, rfl⟩ := hu
    cases a with
    | error cause => exact .finish trivial (.skipped _)
    | ok tags =>
      by_cases hdue : c.isDue chat tags = true
      · simp only [hdue, if_true]
        exact perform_scene c u
      · simp only [hdue, if_false, Bool.false_eq_true]
        exact .finish trivial (.skipped _)

end Scene

/-! ## A host in memory -/

/-- The calls that fail. -/
def Failures.fails (f : Failures) : HostCall → Prop
  | .loadStorage _ | .loadTags _ => f.loads = true
  | .saveStorage .. => f.storageSaves = true
  | .saveTags .. => f.tagSaves = true
  | .setBlock _ => f.slot = true
  | _ => False

namespace MemoryHost

variable (start : MemoryHost → Except EngineError Outcome × MemoryHost) {w : MemoryHost}

/-- What a request can be told by. -/
def scene (w : MemoryHost) : Scene :=
  { chat := if w.loaded then w.chat else none, storages := w.storageOf, tags := w.tagsOf, slot := w.slot }

/-- The scene after a save of a record. -/
theorem scene_putStorage (w : MemoryHost) (chatId : String) (storage : Storage) :
    (w.putStorage chatId storage).scene = w.scene.putStorage chatId storage := by
  have hstorages : (w.putStorage chatId storage).storageOf =
      Function.update w.storageOf chatId (some storage) := by
    funext id
    by_cases hid : id = chatId
    · subst hid
      rw [Function.update_self]
      exact SortedMap.get?_insert_self ..
    · rw [Function.update_of_ne hid]
      exact SortedMap.get?_insert_of_ne hid ..
  exact congrArg (fun storages => { w.scene with storages }) hstorages

/-- The scene after a save of tags. -/
theorem scene_putTags (w : MemoryHost) (chatId : String) (tags : TagStore) :
    (w.putTags chatId tags).scene = w.scene.putTags chatId tags := by
  have htags : (w.putTags chatId tags).tagsOf = Function.update w.tagsOf chatId tags := by
    funext id
    show ((w.tags.insert chatId tags).get? id).getD .empty = _
    by_cases hid : id = chatId
    · subst hid
      rw [Function.update_self, SortedMap.get?_insert_self]
      rfl
    · rw [Function.update_of_ne hid, SortedMap.get?_insert_of_ne hid]
      rfl
  exact congrArg (fun tags => { w.scene with tags }) htags

/-- What fails is settled beforehand. -/
theorem answer_failures (hw : w.reenter = []) (call : HostCall) :
    (answer start call w).2.failures = w.failures := by
  cases call with
  | begin | saveStorage | saveTags | setBlock =>
    simp only [answer]
    split <;> rfl
  | switchProfile target =>
    simp only [answer]
    split <;> rfl
  | compress messages chapter =>
    simp only [answer, interrupt_of_reenter_nil start hw]
    rfl
  | _ => rfl

/-- **A host in memory answers as its scene does**, if its calls for summaries start no other passes. -/
theorem answer_scene (hw : w.reenter = []) (call : HostCall) :
    Scene.Step w.failures.fails w.scene call (answer start call w).1 (answer start call w).2.scene := by
  cases call with
  | loadStorage chatId =>
    by_cases hfails : w.failures.loads = true
    · simp only [answer, hfails, if_true]
      exact ⟨.inr ⟨hfails, _, rfl⟩, rfl⟩
    · simp only [answer, hfails, if_false, Bool.false_eq_true]
      exact ⟨.inl rfl, rfl⟩
  | loadTags chatId =>
    by_cases hfails : w.failures.loads = true
    · simp only [answer, hfails, if_true]
      exact ⟨.inr ⟨hfails, _, rfl⟩, rfl⟩
    · simp only [answer, hfails, if_false, Bool.false_eq_true]
      exact ⟨.inl rfl, rfl⟩
  | saveStorage chatId storage =>
    by_cases hfails : w.failures.storageSaves = true
    · simp only [answer, hfails, if_true]
      exact .inr ⟨hfails, ⟨_, rfl⟩, rfl⟩
    · simp only [answer, hfails, if_false, Bool.false_eq_true]
      exact .inl ⟨rfl, w.scene_putStorage chatId storage⟩
  | saveTags chatId tags =>
    by_cases hfails : w.failures.tagSaves = true
    · simp only [answer, hfails, if_true]
      exact .inr ⟨hfails, ⟨_, rfl⟩, rfl⟩
    · simp only [answer, hfails, if_false, Bool.false_eq_true]
      exact .inl ⟨rfl, w.scene_putTags chatId tags⟩
  | setBlock block =>
    by_cases hfails : w.failures.slot = true
    · simp only [answer, hfails, if_true]
      exact .inr ⟨hfails, rfl⟩
    · simp only [answer, hfails, if_false, Bool.false_eq_true]
      exact .inl rfl
  | currentChat => exact ⟨rfl, rfl⟩
  | begin =>
    simp only [answer]
    split <;> rfl
  | switchProfile target =>
    simp only [answer]
    split <;> rfl
  | compress messages chapter =>
    simp only [answer, interrupt_of_reenter_nil start hw]
    rfl
  | _ => rfl

/-- Its runs are among those that are considered here. -/
theorem ends_scene {α : Type} (c : Config) (d : Hosted α) (hw : w.reenter = []) :
    d.Ends (Scene.Step w.failures.fails) w.scene (run c d w).1 (run c d w).2.scene := by
  refine (Dialogue.ends_run MemoryHost.scene
    (fun v => v.reenter = [] ∧ v.failures = w.failures) ?_ d ⟨hw, rfl⟩).1
  rintro v call ⟨hv, hfailures⟩
  have hstep := answer_scene (runAlone (perform c)) hv call
  rw [hfailures] at hstep
  exact ⟨hstep, answer_reenter _ hv call, (answer_failures _ hv call).trans hfailures⟩

end MemoryHost

end Recap
