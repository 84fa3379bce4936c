import Recap.Proofs.Dialogue.Relying
import Recap.Proofs.Engine.LostUpdate
import Recap.Proofs.Engine.Runs
import Recap.Proofs.Tag.Changes

/-!
# Tags that are kept come about by changes

Whatever an engine is asked to do, it saves tags that it has loaded, with changes made to them. Requests
may overtake each other, so that what is saved replaces what was kept meanwhile; but what is kept has come
about by changes even then, if by other ones.

The argument is about one request by itself. If the tags that it loads have a property that changes keep, so do
the tags that it saves (`Request.relying`); then the property never gets lost, however requests take turns
(`tags_of_turns`). To have come about by changes is such a property, so that what holds of the tags that changes
leave holds of all tags that are ever kept.

## Contents
- `Hereditary`, `Gives`, `Takes` — properties that changes keep, of tags that are loaded and that are saved.
- `Request.relying` — from good tags a request makes good tags.
- `tags_of_turns` — what changes keep, all requests together keep.
- `kept_tags_fit_together` — the tags that are ever kept for a chat.
-/

namespace Recap

open Dialogue (Relying Thread Turns)
open World (Step)

/-! ## Properties of tags -/

/-- What is true of the tags of a chat stays true when they are changed. -/
def Hereditary (R : String → TagStore → Prop) : Prop :=
  ∀ chatId s (change : TagChange), R chatId s → R chatId (change.apply s)

/-- It is true of tags that are loaded. -/
def Gives (R : String → TagStore → Prop) : (q : HostCall) → q.Answer → Prop
  | .loadTags chatId, .ok tags => R chatId tags
  | _, _ => True

/-- It is true of tags that are to be saved. -/
def Takes (R : String → TagStore → Prop) : HostCall → Prop
  | .saveTags chatId tags => R chatId tags
  | _ => True

section Requests

variable {R : String → TagStore → Prop} {α : Type}

/-- Minor calls save no tags. -/
theorem Takes.of_isMinor (q : HostCall) (hq : q.isMinor = true) : Takes R q := by
  cases q with
  | saveTags => cases hq
  | _ => trivial

/-- A dialogue of minor calls relies on nothing. -/
theorem Dialogue.Asks.gives {d : Hosted α} (hd : d.Asks (·.isMinor = true)) :
    d.Relying (Gives R) (Takes R) fun _ => True :=
  (hd.mono Takes.of_isMinor).relying

/-! ## Passes -/

/-- A chunk that is folded changes the tags of its messages, one after the other. -/
theorem Hereditary.markChapter (hR : Hereditary R) {chatId : String} {tags : TagStore}
    (htags : R chatId tags) (d : Chapter) : R chatId (tags.markChapter d) := by
  unfold TagStore.markChapter
  generalize d.chunk = chunk
  induction chunk generalizing tags with
  | nil => exact htags
  | cons entry chunk ih => exact ih (hR _ _ (.summarize entry.2 .chunk d.id d.time) htags)

theorem foldChunks_relying (hR : Hereditary R) {chatId : String} (total : Nat) {sizes : List Nat}
    {s : PassState} (hs : R chatId s.tags) :
    (foldChunks total sizes s).Relying (Gives R) (Takes R) fun s' => R chatId s'.tags := by
  induction sizes generalizing s with
  | nil => exact .finish hs
  | cons size sizes ih =>
    rw [foldChunks]
    refine .call trivial fun reply _ => ?_
    cases reply with
    | none => exact .finish hs
    | some text =>
      by_cases hblank : Text.allBlank text = true
      · simp only [hblank, if_true]
        exact .finish hs
      · simp only [hblank, if_false, Bool.false_eq_true]
        refine .call trivial fun id _ => .call trivial fun now _ => .call trivial fun _ _ => ?_
        exact ih (hR.markChapter hs ⟨s.left.take size, id, text, now⟩)

/-- Loading ends with tags that were loaded. -/
theorem loadState_relying (c : Config) (chatId : String) :
    (loadState c chatId).Relying (Gives R) (Takes R)
      fun r => ∀ storage tags, r = .ok (storage, tags) → R chatId tags := by
  refine (loadOrInit_asks c chatId).gives.bind fun r _ => ?_
  rcases r with cause | ⟨storage, isFresh⟩
  · exact .finish fun _ _ h => nomatch h
  · refine .call trivial fun a ha => ?_
    cases a with
    | error cause => exact .finish fun _ _ h => nomatch h
    | ok tags =>
      refine .finish fun storage' tags' h => ?_
      cases h
      exact ha

theorem compact_relying (hR : Hereditary R) (c : Config) {chat : Chat} (storage : Storage) {tags : TagStore}
    (htags : R chat.id tags) (working : List (Nat × Message)) :
    (compact c chat storage tags working).Relying (Gives R) (Takes R) fun _ => True := by
  unfold compact
  refine (borrowProfile_asks c).gives.bind fun previous _ => ?_
  refine .call trivial fun _ _ => ?_
  refine (foldChunks_relying hR _ htags).bind fun s hs => ?_
  refine (returnProfile_asks previous).gives.bind fun _ _ => ?_
  refine .call trivial fun now _ => ?_
  -- the tags that are saved are those that folding has left
  refine (saveState_asks_only (p := Takes R) trivial hs).relying.bind fun r _ => ?_
  cases r with
  | error e => exact .call trivial fun _ _ => .finish trivial
  | ok _ => exact (inject_asks chat _).gives.bind fun _ _ => .call trivial fun _ _ => .finish trivial

theorem passBody_relying (hR : Hereditary R) (c : Config) :
    (passBody c).Relying (Gives R) (Takes R) fun _ => True := by
  refine .call trivial fun a _ => ?_
  cases a with
  | none => exact .finish trivial
  | some chat =>
    refine (loadState_relying c chat.id).bind fun r hr => ?_
    rcases r with cause | ⟨storage, tags⟩
    · exact .finish trivial
    · by_cases hempty : (workingSet chat.messages tags).isEmpty = true
      · simp only [hempty, if_true]
        exact .finish trivial
      · simp only [hempty, if_false, Bool.false_eq_true]
        exact compact_relying hR c storage (hr storage tags rfl) _

theorem perform_relying (hR : Hereditary R) (c : Config) :
    (perform c).Relying (Gives R) (Takes R) fun _ => True := by
  refine .call trivial fun free _ => ?_
  cases free with
  | false => exact .finish trivial
  | true => exact (passBody_relying hR c).bind fun _ _ => .call trivial fun _ _ => .finish trivial

theorem maybePerform_relying (hR : Hereditary R) (c : Config) :
    (maybePerform c).Relying (Gives R) (Takes R) fun _ => True := by
  refine .call trivial fun a _ => ?_
  cases a with
  | none => exact .finish trivial
  | some chat =>
    refine .call trivial fun r _ => ?_
    cases r with
    | error cause => exact .finish trivial
    | ok tags =>
      by_cases hdue : c.isDue chat tags = true
      · simp only [hdue, if_true]
        exact perform_relying hR c
      · simp only [hdue, if_false, Bool.false_eq_true]
        exact .finish trivial

/-! ## The other operations -/

namespace Operation

/-- An operation that first looks relies on what it relies on afterwards. -/
theorem thenRelying {β : Type} {d : Operation α} {f : α → Operation β}
    (hd : d.run.Asks (·.isMinor = true))
    (hf : ∀ a, (f a).run.Relying (Gives R) (Takes R) fun _ => True) :
    (d >>= f).run.Relying (Gives R) (Takes R) fun _ => True := by
  refine Relying.bind hd.gives fun r _ => ?_
  cases r with
  | ok a => exact hf a
  | error e => exact .finish trivial

/-- An operation that goes on with the tags of a chat. -/
theorem onTags_relying {chatId : String} {f : TagStore → Operation α}
    (hf : ∀ tags, R chatId tags → (f tags).run.Relying (Gives R) (Takes R) fun _ => True) :
    (ofHost (HostCall.ask (.loadTags chatId)) >>= f).run.Relying (Gives R) (Takes R) fun _ => True := by
  refine ⟨trivial, fun a ha => ?_⟩
  cases a with
  | ok tags => exact hf tags ha
  | error cause => exact .finish trivial

/-- The end of an operation that saves tags. -/
theorem thenSaveTags_relying {chatId : String} {tags : TagStore} (htags : R chatId tags) (a : α) :
    (ExceptT.mk (saveTags chatId tags) >>= fun _ => (pure a : Operation α)).run.Relying (Gives R) (Takes R)
      fun _ => True :=
  (bind_asks (p := Takes R) (saveTags_asks_only htags) fun _ => .finish _).relying

theorem tagRendered_relying (hR : Hereditary R) (c : Config) (messageId : String) :
    (tagRendered c messageId).run.Relying (Gives R) (Takes R) fun _ => True := by
  unfold tagRendered
  by_cases henabled : c.enabled = true
  · simp only [henabled, Bool.not_true, if_false, Bool.false_eq_true]
    refine thenRelying currentChat_asks fun chat => ?_
    cases chat.find? messageId with
    | none => exact .finish trivial
    | some m =>
      refine onTags_relying fun tags htags => ?_
      by_cases htag : (tags.tag? messageId).isSome = true
      · simp only [htag, if_true]
        exact .finish trivial
      · simp only [htag, if_false, Bool.false_eq_true]
        exact thenSaveTags_relying (hR _ _ (.activate m) htags) true
  · simp only [henabled, Bool.not_false, if_true]
    exact .finish trivial

theorem restoreSwipe_relying (hR : Hereditary R) (messageId : String) :
    (restoreSwipe messageId).run.Relying (Gives R) (Takes R) fun _ => True := by
  refine thenRelying currentChat_asks fun chat => ?_
  cases chat.find? messageId with
  | none => exact .finish trivial
  | some m =>
    refine onTags_relying fun tags htags => ?_
    cases hr : tags.restoreSwipe? m with
    | none => exact .finish trivial
    | some restored =>
      -- a change of swipe that is reported is a change of the store
      have hrestored : tags.restored m = restored := by
        rw [TagStore.restored, hr]
        rfl
      exact thenSaveTags_relying (hrestored ▸ hR _ _ (.restore m) htags) true

/-- Making a record saves no tags. -/
theorem ensureStorage_relying (c : Config) :
    (ensureStorage c).run.Relying (Gives R) (Takes R) fun _ => True := by
  refine thenRelying currentChat_asks fun chat => ?_
  refine thenRelying (ofHost_asks (loadOrInit_asks c chat.id)) fun loaded => ?_
  obtain ⟨storage, isFresh⟩ := loaded
  cases isFresh with
  | false => exact .finish trivial
  | true =>
    refine ⟨trivial, fun r _ => ?_⟩
    cases r with
    | ok _ => exact .finish trivial
    | error cause => exact .finish trivial

/-- Neither does bringing in a record. -/
theorem importText_relying (text : String) :
    (importText text).run.Relying (Gives R) (Takes R) fun _ => True := by
  refine thenRelying currentChat_asks fun chat => ?_
  cases importDocument text with
  | error fault => exact .finish trivial
  | ok storage =>
    refine ⟨trivial, fun r _ => ?_⟩
    cases r with
    | ok _ => exact .call trivial fun _ _ => .finish trivial
    | error cause => exact .finish trivial

end Operation

/-! ## Requests -/

theorem handle_relying (hR : Hereditary R) (c : Config) (e : HostEvent) :
    (handle c e).Relying (Gives R) (Takes R) fun _ => True := by
  cases e with
  | chatChanged =>
    refine (Operation.ensureStorage_relying c).bind fun _ _ => ?_
    exact (refreshInjection_asks c).gives.bind fun _ _ => .finish trivial
  | messageRendered messageId =>
    refine (Operation.tagRendered_relying hR c messageId).bind fun _ _ => ?_
    refine (maybePerform_relying hR c).bind fun r _ => ?_
    cases r with
    | ok outcome => exact .finish trivial
    | error e => exact .finish trivial
  | swipeChanged messageId =>
    exact (Operation.restoreSwipe_relying hR messageId).bind fun _ _ => .finish trivial
  | generationStarted => exact (refreshInjection_asks c).gives.bind fun _ _ => .finish trivial

/-- **From good tags a request makes good tags.** -/
theorem Request.relying (hR : Hereditary R) (r : Request) :
    r.dialogue.Relying (Gives R) (Takes R) fun _ => True := by
  have alone : ∀ {β : Type} {d : Hosted β}, (d.Relying (Gives R) (Takes R) fun _ => True) →
      (d >>= fun _ => (pure () : Hosted Unit)).Relying (Gives R) (Takes R) fun _ => True :=
    fun hd => hd.bind fun _ _ => .finish trivial
  cases r with
  | compact c => exact alone (perform_relying hR c)
  | compactIfDue c => exact alone (maybePerform_relying hR c)
  | tagRendered c messageId => exact alone (Operation.tagRendered_relying hR c messageId)
  | restoreSwipe messageId => exact alone (Operation.restoreSwipe_relying hR messageId)
  | ensureStorage c => exact alone (Operation.ensureStorage_relying c)
  | refreshInjection c => exact alone (refreshInjection_asks c).gives
  | status c => exact alone (Operation.status_asks c).gives
  | exportText c => exact alone (Operation.exportText_asks c).gives
  | hidden c kind => exact alone (Operation.hidden_asks c kind).gives
  | importText text => exact alone (Operation.importText_relying text)
  | event c e => exact alone (handle_relying hR c e)

end Requests

/-! ## Requests that take turns -/

variable {R : String → TagStore → Prop} {h : Habits}

/-- **A host gives what it takes.** If all kept tags are good and good ones are saved, good ones are loaded, and
    all kept tags are good afterwards. -/
theorem World.Step.gives {w v : World} {q : HostCall} {a : q.Answer} (hs : Step h w q a v)
    (hw : ∀ chatId, R chatId (w.tags chatId)) (hq : Takes R q) :
    Gives R q a ∧ ∀ chatId, R chatId (v.tags chatId) := by
  cases q with
  | loadTags id =>
    refine ⟨?_, (hs.calm rfl).tags ▸ hw⟩
    rcases hs.loadTags with ⟨cause, rfl⟩ | rfl
    · trivial
    · exact hw id
  | saveTags id tags =>
    refine ⟨trivial, ?_⟩
    rcases hs.saveTags with ⟨-, -, hv⟩ | ⟨-, hv⟩
    · exact hv.tags ▸ hw
    · intro chatId
      rw [hv.tags]
      by_cases hid : chatId = id
      · subst hid
        rw [World.putTags_tags]
        exact hq
      · exact (congrArg (R chatId) (Function.update_of_ne hid ..)).mpr (hw chatId)
  | saveStorage =>
    refine ⟨trivial, ?_⟩
    rcases hs.saveStorage with ⟨-, hv⟩ | ⟨-, hv⟩
    · exact hv.tags ▸ hw
    · exact hv.tags ▸ hw
  | _ => exact ⟨trivial, (hs.calm rfl).tags ▸ hw⟩

/-- **What changes keep, all requests together keep**, in whatever order they take their turns. -/
theorem tags_of_turns (hR : Hereditary R) {requests : List Request} {w₀ : World}
    {x : List (Thread HostCall HostCall.Answer Unit) × World}
    (hrun : Turns (Step h) (requests.map fun r => .start r.dialogue, w₀) x)
    (hw₀ : ∀ chatId, R chatId (w₀.tags chatId)) (chatId : String) : R chatId (x.2.tags chatId) := by
  have hstart : ∀ t ∈ requests.map fun r => Thread.start r.dialogue,
      t.rest.Relying (Gives R) (Takes R) fun _ => True := by
    intro t ht
    obtain ⟨r, -, rfl⟩ := List.mem_map.mp ht
    exact r.relying hR
  exact (hrun.relying (fun _ _ _ _ hw hq hs => hs.gives hw hq) hw₀ hstart).1 chatId

/-- **Tags fit together, wherever they come from.** Level, summary and time are in a tag together or none of
    them is, for every tag that changes leave, and a tag that is written for a message on a swipe is kept for
    the swipe as well, up to the next change for the message. If nothing is tagged in a chat at first, then
    whatever requests are made, however they overtake each other, and whatever fails, the tags that are kept
    for it have come about by changes at every moment, and all of them fit together. -/
theorem kept_tags_fit_together :
    (∀ (changes : List TagChange) (id : String) (t : Tag),
      (TagStore.after changes).Keeps id t → t.WellFormed) ∧
    (∀ (before later : List TagChange) (change : TagChange) (k : UInt64),
      change.Writes (.after before) → change.message.activeSwipe = some k →
      (∀ d ∈ later, d.message.id ≠ change.message.id) →
      ∃ t, (TagStore.after (before ++ change :: later)).tag? change.message.id = some t ∧
        (TagStore.after (before ++ change :: later)).swipeTag? change.message.id k = some t) ∧
    (∀ (h : Habits) (requests : List Request) (w₀ : World)
      (x : List (Thread HostCall HostCall.Answer Unit) × World),
      Turns (Step h) (requests.map fun r => .start r.dialogue, w₀) x →
      ∀ chatId, w₀.tags chatId = .empty →
        (∃ changes, x.2.tags chatId = .after changes) ∧
        ∀ id t, (x.2.tags chatId).Keeps id t → t.WellFormed) := by
  refine ⟨fun changes id t => TagStore.wellFormed_after changes,
    fun before later change k => TagStore.tag?_after_of_writes, ?_⟩
  intro h requests w₀ x hrun chatId hempty
  -- of other chats nothing is said
  have hR : Hereditary fun id s => id = chatId → ∃ changes, s = .after changes := by
    intro id s change hs hid
    obtain ⟨changes, rfl⟩ := hs hid
    exact ⟨changes ++ [change], (TagStore.after_concat changes change).symm⟩
  have hw₀ : ∀ id, id = chatId → ∃ changes, w₀.tags id = .after changes := by
    rintro id rfl
    exact ⟨[], hempty⟩
  obtain ⟨changes, hchanges⟩ := tags_of_turns hR hrun hw₀ chatId rfl
  refine ⟨⟨changes, hchanges⟩, fun id t ht => ?_⟩
  rw [hchanges] at ht
  exact TagStore.wellFormed_after changes ht

/-- A message that was summarized under its second swipe is active under the first, and has the tag of the
    summary again when it comes back to the second. A pass that is overtaken by a change of swipe keeps a tag of
    this kind. -/
theorem reswiped_tags_fit_together :
    let second : Message := { Message.blank with id := "b", swipeId := some 1, swipeCount := 2 }
    let before : List TagChange :=
      [.summarize second .chunk "s" 0, .activate { second with swipeId := some 0 }]
    let requests : List Request := [.compact .halfway, .event .standard (.swipeChanged "b")]
    let final := Dialogue.takeTurns (Obliging.answer .reswiped scripted)
      (List.replicate 5 0 ++ List.replicate 3 1 ++ List.replicate 12 0)
      (requests.map fun r => .start r.dialogue, Obliging.blank [some "They met."])
    (TagStore.after before).tag? "b" = some .active ∧
    (TagStore.after (before ++ [.restore second])).tag? "b" = some (.summarized .chunk "s" 0) ∧
    (TagStore.after (before ++ [.restore second])).swipeTag? "b" 1 = some (.summarized .chunk "s" 0) ∧
    Tag.WellFormed (.summarized .chunk "s" 0) ∧
    (final.2.tags "reswiped").tag? "a" = some (.summarized .chunk "" 0) ∧
    Tag.WellFormed (.summarized .chunk "" 0) := by
  intro second before requests final
  obtain ⟨hfit, hwrite, hkept⟩ := kept_tags_fit_together
  have hshown : (TagStore.after (before ++ [.restore second])).tag? "b"
      = some (.summarized .chunk "s" 0) := by decide +kernel
  obtain ⟨t, htag, hswipe⟩ := hwrite before [] (.restore second) 1 (by decide +kernel) (by decide +kernel)
    fun d hd => nomatch hd
  obtain rfl : t = .summarized .chunk "s" 0 := Option.some.inj (htag.symm.trans hshown)
  let h : Habits := { move := fun _ _ => False, mayFail := fun _ => False }
  have hrun : Turns (Step h) (requests.map fun r => .start r.dialogue, (Obliging.blank _).world .reswiped)
      (final.1, final.2.world .reswiped) :=
    Dialogue.turns_takeTurns (Obliging.world .reswiped) Obliging.Fresh
      (fun _ q hw => Obliging.step .reswiped scripted h q hw) _ _ (Obliging.fresh_blank [some "They met."])
  have hlast : (final.2.tags "reswiped").tag? "a" = some (.summarized .chunk "" 0) := by decide +kernel
  refine ⟨by decide +kernel, hshown, hswipe, hfit _ "b" _ (.inl hshown), hlast, ?_⟩
  clear_value final
  exact (hkept h requests _ _ hrun "reswiped" rfl).2 "a" _ (.inl hlast)

end Recap
