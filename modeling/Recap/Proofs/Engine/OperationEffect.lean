import Recap.Engine.Operations
import Recap.Proofs.Engine.PassEffect

/-!
# What the other operations can do to what is kept

Besides passes there are three operations that save something, and each saves one thing: a tag for a
message that was just displayed, the tag that a change of swipe brings back, and a fresh record. The
others only look. As for passes, each operation gets the list of the states that it can come by, and
nothing later follows its dialogue again.

## Contents
- `onChat`, `onLoaded`, `onTags` — the parts that operations are made of.
- `status_asks`, `exportText_asks`, `refreshInjection_asks`, `hidden_throughout` — operations that look.
- `Rendered`, `Restored`, `Ensured` — what the others save.
-/

namespace Recap

open World (Calm Step)

variable {h : Habits} {c : Config} {w : World}

/-! ## Parts -/

namespace Operation

/-- Loading for an operation asks what loading asks. -/
theorem ofHost_asks {α : Type} {p : HostCall → Prop} {d : Hosted (Except String α)}
    (hd : d.Asks p) : (ofHost d).run.Asks p := by
  refine hd.bind fun r => ?_
  cases r with
  | ok a => exact .finish _
  | error cause => exact .finish _

/-- An operation that goes on asks what its parts ask. -/
theorem bind_asks {α β : Type} {p : HostCall → Prop} {d : Operation α} {f : α → Operation β}
    (hd : d.run.Asks p) (hf : ∀ a, (f a).run.Asks p) : (d >>= f).run.Asks p := by
  refine Dialogue.Asks.bind hd fun r => ?_
  cases r with
  | ok a => exact hf a
  | error e => exact .finish _

theorem currentChat_asks : currentChat.run.Asks (·.isMinor = true) := by
  refine .call rfl fun a => ?_
  cases a with
  | none => exact .finish _
  | some chat => exact .finish _

/-- The chat that an operation is about is the open one. -/
theorem currentChat_throughout (w : World) :
    currentChat.run.Throughout (Step h) (Calm h w)
      (fun r v => Calm h w v ∧ (r = .error .noChat ∨ r = .ok w.chat)) w := by
  refine .call (.refl w) fun a v hs => ?_
  have hv : Calm h w v := hs.calm rfl
  rcases hs.currentChat with rfl | rfl
  · exact .finish hv ⟨hv, .inl rfl⟩
  · exact .finish hv ⟨hv, .inr rfl⟩

/-- What is found for an operation is what is found, or the operation fails for the host's reason. -/
theorem ofHost_throughout {α : Type} {I : World → Prop} {P : Except String α → World → Prop}
    {d : Hosted (Except String α)} (hd : d.Throughout (Step h) I P w) :
    (ofHost d).run.Throughout (Step h) I
      (fun r v => (∃ cause, r = .error (.host cause) ∧ P (.error cause) v) ∨
        ∃ a, r = .ok a ∧ P (.ok a) v) w := by
  refine .bind hd fun r v hI hr => ?_
  cases r with
  | ok a => exact .finish hI (.inr ⟨a, rfl, hr⟩)
  | error cause => exact .finish hI (.inl ⟨cause, rfl, hr⟩)

section Parts

variable {α : Type} {I : World → Prop} {P : Except EngineError α → World → Prop}

/-- An operation on the open chat. Nothing is saved until the chat is known, and nothing at all if none
    is open. -/
theorem onChat {f : Chat → Operation α} (calm : ∀ v, Calm h w v → I v)
    (failed : ∀ e v, Calm h w v → P (.error e) v)
    (hf : ∀ v, Calm h w v → (f w.chat).run.Throughout (Step h) I P v) :
    (currentChat >>= f).run.Throughout (Step h) I P w := by
  refine .except ((currentChat_throughout w).mono calm fun _ _ => id) ?_ ?_
  · rintro chat v - ⟨hv, hchat⟩
    obtain rfl : chat = w.chat := by simpa using hchat
    exact hf v hv
  · rintro e v - ⟨hv, -⟩
    exact failed e v hv

/-- An operation that goes on with what is loaded. Nothing is saved meanwhile, and nothing at all if
    loading fails. -/
theorem onLoaded {β : Type} {b : β} {d : Hosted (Except String β)} {f : β → Operation α} {u : World}
    (hd : d.Throughout (Step h) (Calm h u)
      (fun r v => Calm h u v ∧ ((∃ cause, r = .error cause) ∨ r = .ok b)) u)
    (hu : Calm h w u) (calm : ∀ v, Calm h w v → I v) (failed : ∀ e v, Calm h w v → P (.error e) v)
    (hf : ∀ v, Calm h w v → (f b).run.Throughout (Step h) I P v) :
    (ofHost d >>= f).run.Throughout (Step h) I P u := by
  refine .except ((ofHost_throughout hd).mono (fun v hv => calm v (hu.trans hv)) fun _ _ => id) ?_ ?_
  · rintro b' v - (⟨cause, hr, -⟩ | ⟨a, hr, hv, hb⟩)
    · cases hr
    · cases hr
      obtain rfl : b' = b := by simpa using hb
      exact hf v (hu.trans hv)
  · rintro e v - (⟨cause, -, hv, -⟩ | ⟨a, hr, -⟩)
    · exact failed e v (hu.trans hv)
    · cases hr

/-- An operation that goes on with the tags of a chat. -/
theorem onTags {chatId : String} {f : TagStore → Operation α} {u : World} (hu : Calm h w u)
    (calm : ∀ v, Calm h w v → I v) (failed : ∀ e v, Calm h w v → P (.error e) v)
    (hf : ∀ v, Calm h w v → (f (w.tags chatId)).run.Throughout (Step h) I P v) :
    (ofHost (HostCall.ask (.loadTags chatId)) >>= f).run.Throughout (Step h) I P u := by
  refine onLoaded (b := w.tags chatId) ?_ hu calm failed hf
  refine .call (.refl u) fun a v hs => ?_
  have hv : Calm h u v := hs.calm rfl
  rw [← hu.tags]
  exact .finish hv ⟨hv, hs.loadTags⟩

end Parts

end Operation

/-- Loading a record asks for nothing else. -/
theorem loadOrInit_asks_only {p : HostCall → Prop} {chatId : String} (hload : p (.loadStorage chatId))
    (c : Config) : (loadOrInit c chatId).Asks p := by
  refine .call hload fun a => ?_
  rcases a with cause | (_ | storage)
  · exact .finish _
  · exact .finish _
  · exact .finish _

theorem loadOrInit_asks (c : Config) (chatId : String) :
    (loadOrInit c chatId).Asks (·.isMinor = true) :=
  loadOrInit_asks_only (p := (·.isMinor = true)) rfl c

/-- Loading a record and tags asks for nothing else. -/
theorem loadState_asks_only {p : HostCall → Prop} {chatId : String} (hstorage : p (.loadStorage chatId))
    (htags : p (.loadTags chatId)) (c : Config) : (loadState c chatId).Asks p := by
  refine (loadOrInit_asks_only hstorage c).bind fun r => ?_
  rcases r with cause | ⟨storage, isFresh⟩
  · exact .finish _
  · refine .call htags fun a => ?_
    cases a with
    | error cause => exact .finish _
    | ok tags => exact .finish _

theorem loadState_asks (c : Config) (chatId : String) :
    (loadState c chatId).Asks (·.isMinor = true) :=
  loadState_asks_only (p := (·.isMinor = true)) rfl rfl c

/-! ## Operations that look -/

namespace Operation

theorem status_asks (c : Config) : (status c).run.Asks (·.isMinor = true) := by
  refine bind_asks currentChat_asks fun chat => ?_
  refine bind_asks (ofHost_asks (loadState_asks c chat.id)) fun loaded => ?_
  exact .finish _

theorem exportText_asks (c : Config) : (exportText c).run.Asks (·.isMinor = true) := by
  refine bind_asks currentChat_asks fun chat => ?_
  refine bind_asks (ofHost_asks (loadState_asks c chat.id)) fun loaded => ?_
  exact .call rfl fun now => .finish _

theorem hidden_asks (c : Config) (kind : GenerationKind) :
    (hidden c kind).run.Asks (·.isMinor = true) := by
  refine bind_asks currentChat_asks fun chat => ?_
  refine bind_asks (ofHost_asks (loadState_asks c chat.id)) fun loaded => ?_
  exact .finish _

/-- **The messages to leave out are computed from what is kept**, and nothing is saved. -/
theorem hidden_throughout (c : Config) (kind : GenerationKind) (w : World) :
    (hidden c kind).run.Throughout (Step h) (Calm h w)
      (fun r v => Calm h w v ∧ ∀ is, r = .ok is →
        is = hiddenMessages w.chat ((w.storages w.chat.id).getD (.fresh c.defaultInjection))
          (w.tags w.chat.id) kind) w := by
  unfold hidden
  refine onChat (fun _ => id) (fun e v hv => ⟨hv, fun is his => nomatch his⟩) fun u hu => ?_
  refine onLoaded (loadState_throughout c w.chat.id u) hu (fun _ => id)
    (fun e v hv => ⟨hv, fun is his => nomatch his⟩) fun v hv => ?_
  rw [hu.storages, hu.tags]
  refine .finish hv ⟨hv, fun is his => ?_⟩
  cases his
  rfl

end Operation

theorem refreshInjection_asks (c : Config) : (refreshInjection c).Asks (·.isMinor = true) := by
  refine .call rfl fun a => ?_
  cases a with
  | none => exact .finish _
  | some chat =>
    refine (loadOrInit_asks c chat.id).bind fun r => ?_
    rcases r with cause | ⟨storage, isFresh⟩
    · exact .finish _
    · exact inject_asks chat storage

/-! ## Operations that save one thing -/

/-- From `w` to `v` nothing was saved, or an untagged message of the chat was tagged as active. -/
inductive Rendered (h : Habits) (w : World) : World → Prop where
  | calm {v : World} (hv : Calm h w v) : Rendered h w v
  | tagged {m : Message} {v : World} (hm : m ∈ w.chat.messages)
      (untagged : (w.tags w.chat.id).tag? m.id = none)
      (hv : Calm h (w.putTags w.chat.id ((w.tags w.chat.id).markActive m)) v) : Rendered h w v

/-- From `w` to `v` nothing was saved, or a message of the chat was given the tag of its swipe. -/
inductive Restored (h : Habits) (w : World) : World → Prop where
  | calm {v : World} (hv : Calm h w v) : Restored h w v
  | tagged {m : Message} {restored : TagStore} {v : World} (hm : m ∈ w.chat.messages)
      (hr : (w.tags w.chat.id).restoreSwipe? m = some restored)
      (hv : Calm h (w.putTags w.chat.id restored) v) : Restored h w v

/-- From `w` to `v` nothing was saved, or the chat, which had no record, was given a fresh one. -/
inductive Ensured (h : Habits) (c : Config) (w : World) : World → Prop where
  | calm {v : World} (hv : Calm h w v) : Ensured h c w v
  | recorded {v : World} (missing : w.storages w.chat.id = none)
      (hv : Calm h (w.putStorage w.chat.id (.fresh c.defaultInjection)) v) : Ensured h c w v

namespace Operation

/-- The end of an operation that saves tags. -/
theorem thenSaveTags_throughout {α : Type} {I : World → Prop} {w v : World} (hv : Calm h w v)
    (chatId : String) (tags : TagStore) (a : α) (calm : ∀ t, Calm h w t → I t)
    (saved : ∀ t, Calm h (w.putTags chatId tags) t → I t) :
    (ExceptT.mk (saveTags chatId tags) >>= fun _ => (pure a : Operation α)).run.Throughout (Step h) I
      (fun _ => I) v := by
  have hboth : ∀ t, Calm h v t ∨ Calm h (v.putTags chatId tags) t → I t := by
    rintro t (ht | ht)
    · exact calm t (hv.trans ht)
    · exact saved t ((hv.putTags chatId tags).trans ht)
  refine .except (R := fun _ => I) ((saveTags_throughout chatId tags v).mono hboth ?_) ?_ ?_
  · rintro r t (⟨-, -, ht⟩ | ⟨-, ht⟩)
    · exact hboth t (.inl ht)
    · exact hboth t (.inr ht)
  · exact fun _ t ht _ => .finish ht ht
  · exact fun _ t ht _ => ht

/-- **A message that was displayed is tagged at most once.** -/
theorem tagRendered_throughout (c : Config) (messageId : String) (w : World) :
    (tagRendered c messageId).run.Throughout (Step h) (Rendered h w) (fun _ => Rendered h w) w := by
  unfold tagRendered
  by_cases henabled : c.enabled = true
  · simp only [henabled, Bool.not_true, if_false, Bool.false_eq_true]
    refine onChat (fun _ => .calm) (fun _ _ => .calm) fun u hu => ?_
    cases hfind : w.chat.find? messageId with
    | none => exact .finish (.calm hu) (.calm hu)
    | some m =>
      refine onTags hu (fun _ => .calm) (fun _ _ => .calm) fun v hv => ?_
      by_cases htag : ((w.tags w.chat.id).tag? messageId).isSome = true
      · simp only [htag, if_true]
        exact .finish (.calm hv) (.calm hv)
      · simp only [htag, if_false, Bool.false_eq_true]
        obtain rfl : m.id = messageId := Chat.id_of_find? hfind
        exact thenSaveTags_throughout hv _ _ true (fun _ => .calm)
          fun _ => .tagged (Chat.mem_of_find? hfind) (by simpa using htag)
  · simp only [henabled, Bool.not_false, if_true]
    exact .finish (.calm (.refl w)) (.calm (.refl w))

/-- **A change of swipe gives a message the tag of the swipe, or nothing.** -/
theorem restoreSwipe_throughout (messageId : String) (w : World) :
    (restoreSwipe messageId).run.Throughout (Step h) (Restored h w) (fun _ => Restored h w) w := by
  unfold restoreSwipe
  refine onChat (fun _ => .calm) (fun _ _ => .calm) fun u hu => ?_
  cases hfind : w.chat.find? messageId with
  | none => exact .finish (.calm hu) (.calm hu)
  | some m =>
    refine onTags hu (fun _ => .calm) (fun _ _ => .calm) fun v hv => ?_
    cases hrestore : (w.tags w.chat.id).restoreSwipe? m with
    | none => exact .finish (.calm hv) (.calm hv)
    | some restored =>
      exact thenSaveTags_throughout hv _ _ true (fun _ => .calm)
        fun _ => .tagged (Chat.mem_of_find? hfind) hrestore

/-- The end of an operation that saves a fresh record. -/
theorem saveFresh_throughout {v : World} (hv : Calm h w v) (missing : w.storages w.chat.id = none) :
    (ofHost (HostCall.ask (.saveStorage w.chat.id (.fresh c.defaultInjection)))).run.Throughout
      (Step h) (Ensured h c w) (fun _ => Ensured h c w) v := by
  refine .call (.calm hv) fun a t hs => ?_
  have ht : Ensured h c w t := by
    rcases hs.saveStorage with ⟨-, ht⟩ | ⟨-, ht⟩
    · exact .calm (hv.trans ht)
    · exact .recorded missing ((hv.putStorage _ _).trans ht)
  cases a with
  | ok _ => exact .finish ht ht
  | error cause => exact .finish ht ht

/-- **A record is made only where there is none.** -/
theorem ensureStorage_throughout (c : Config) (w : World) :
    (ensureStorage c).run.Throughout (Step h) (Ensured h c w) (fun _ => Ensured h c w) w := by
  unfold ensureStorage
  refine onChat (fun _ => .calm) (fun _ _ => .calm) fun u hu => ?_
  refine onLoaded (loadOrInit_throughout c w.chat.id u) hu (fun _ => .calm) (fun _ _ => .calm)
    fun v hv => ?_
  rw [hu.storages]
  cases hstored : w.storages w.chat.id with
  | some kept => exact .finish (.calm hv) (.calm hv)
  | none =>
    refine .except (saveFresh_throughout hv hstored) ?_ ?_
    · exact fun _ t ht _ => .finish ht ht
    · exact fun _ t ht _ => ht

end Operation

end Recap
