import Recap.Proofs.Engine.Frame

/-!
# The prompt is up to date

The text in the prompt is put there by whoever changes the record, and it stays until the next one does.
Four ways lead to it: a pass injects the record that it has just computed, an import the one that it has
read, and the events inject what they load, or a fresh record where there is none. What they have in common
is that the prompt shows the record as it is kept afterwards, and this is all that is said here of either.

Nothing is asked of the scene before, so that it can be that of any moment in any run of the engine.
Saves may fail: a chat that is opened and cannot be given a record has none, and its prompt is cleared.

## Contents
- `Scene.Update` — what brings the prompt up to date.
- `Scene.Current` — the prompt shows what is kept.
- `prompt_is_current_after_update` — it does so after each update, and a refresh finds nothing to change.
-/

namespace Recap

open Scene (Step PassLeaves Brought Refreshed Shows)

/-! ## Records that say nothing -/

/-- A fresh record has nothing to tell. -/
@[simp] theorem Storage.hasSummaries_fresh (settings : InjectionSettings) :
    (Storage.fresh settings).hasSummaries = false := rfl

/-- The prompt is cleared for a fresh record. -/
theorem injectedBlock_fresh (chat : Chat) (settings : InjectionSettings) :
    injectedBlock chat (.fresh settings) = clearedBlock := by
  simp [injectedBlock]

/-- The settings of a record that is missing make no difference. -/
theorem injectedBlock_getD_fresh (chat : Chat) (kept : Option Storage)
    (settings settings' : InjectionSettings) :
    injectedBlock chat (kept.getD (.fresh settings)) =
      injectedBlock chat (kept.getD (.fresh settings')) := by
  cases kept with
  | none => rw [Option.getD_none, Option.getD_none, injectedBlock_fresh, injectedBlock_fresh]
  | some storage => rfl

/-- What goes into the prompt: nothing if that is switched off or there is nothing to tell, and else the
    context that is built within the budget of the chat, where the record wants it. -/
theorem injectedBlock_cases (chat : Chat) (storage : Storage) :
    (storage.injection.enabled = false ∨ storage.hasSummaries = false) ∧
        injectedBlock chat storage = clearedBlock ∨
      storage.injection.enabled = true ∧ storage.hasSummaries = true ∧
        injectedBlock chat storage =
          { key := injectionKey
            text := (buildContext storage (historyBudget chat)).assemble
            position := storage.injection.position
            depth := storage.injection.depth
            scan := storage.injection.scan
            role := storage.injection.role } := by
  unfold injectedBlock
  by_cases htold : (storage.injection.enabled && storage.hasSummaries) = true
  · obtain ⟨henabled, hsummaries⟩ := Bool.and_eq_true_iff.mp htold
    rw [if_pos htold]
    exact .inr ⟨henabled, hsummaries, rfl⟩
  · rw [if_neg htold]
    refine .inl ⟨?_, rfl⟩
    simpa [Classical.or_iff_not_imp_left] using htold

namespace Scene

variable {mayFail : HostCall → Prop} {c : Config} {s t : Scene} {chat : Chat}

/-! ## What is shown -/

/-- The prompt shows the record of the chat as it is kept, or that there is none. -/
def Current (c : Config) (chat : Chat) (s : Scene) : Prop :=
  s.slot = some (injectedBlock chat ((s.storages chat.id).getD (.fresh c.defaultInjection)))

/-- Whatever is shown is shown, if the prompt can be set. -/
theorem Shows.eq {block : PromptBlock} (hslot : ∀ block, ¬ mayFail (.setBlock block))
    (h : Shows mayFail block s t) : t = s.setSlot block := by
  rcases h with rfl | ⟨hfail, -⟩
  · rfl
  · exact absurd hfail (hslot block)

/-- The prompt shows a record that was just saved. -/
theorem Current.of_saved {storage : Storage} (hkept : s.storages chat.id = some storage) :
    Current c chat (s.setSlot (injectedBlock chat storage)) := by
  unfold Current
  rw [setSlot_storages, hkept]
  rfl

theorem PassLeaves.current {report : Report} (hslot : ∀ block, ¬ mayFail (.setBlock block))
    (hchat : s.chat = some chat) (h : PassLeaves mayFail s (.ok (.completed report)) t) :
    t.Current c chat := by
  cases h with
  | @completed _ chat' storage tags _ hchat' hshows =>
    obtain rfl : chat = chat' := Option.some.inj (hchat.symm.trans hchat')
    rw [hshows.eq hslot]
    exact .of_saved (putStorage_storages_self ..)

theorem Brought.current {text : String} {storage : Storage}
    (hslot : ∀ block, ¬ mayFail (.setBlock block)) (hchat : s.chat = some chat)
    (h : Brought mayFail text s (.ok storage) t) : t.Current c chat := by
  cases h with
  | @replaced chat' _ _ hchat' hread hshows =>
    obtain rfl : chat = chat' := Option.some.inj (hchat.symm.trans hchat')
    rw [hshows.eq hslot]
    exact .of_saved (putStorage_storages_self ..)

theorem Refreshed.eq_setSlot (hloads : ∀ id, ¬ mayFail (.loadStorage id))
    (hslot : ∀ block, ¬ mayFail (.setBlock block)) (hchat : s.chat = some chat)
    (h : Refreshed mayFail c s t) :
    t = s.setSlot (injectedBlock chat ((s.storages chat.id).getD (.fresh c.defaultInjection))) := by
  cases h with
  | unchanged hfail => exact absurd (hfail chat hchat) (hloads chat.id)
  | @shown chat' _ hchat' hshows =>
    obtain rfl : chat = chat' := Option.some.inj (hchat.symm.trans hchat')
    exact hshows.eq hslot

theorem Refreshed.current (hloads : ∀ id, ¬ mayFail (.loadStorage id))
    (hslot : ∀ block, ¬ mayFail (.setBlock block)) (hchat : s.chat = some chat)
    (h : Refreshed mayFail c s t) : t.Current c chat := by
  rw [h.eq_setSlot hloads hslot hchat]
  rfl

/-! ## Updates -/

/-- From `s` to `t` the prompt was brought up to date: by a pass that was completed, whoever started it, by
    an import that went well, or by an event that announces another chat or another prompt. -/
inductive Update (mayFail : HostCall → Prop) (c : Config) (s t : Scene) : Prop where
  | pass {report : Report} (h : (perform c).Ends (Step mayFail) s (.ok (.completed report)) t)
  | duePass {report : Report} (h : (maybePerform c).Ends (Step mayFail) s (.ok (.completed report)) t)
  | messageRendered {id : String} {report : Report}
      (h : (handle c (.messageRendered id)).Ends (Step mayFail) s (some (.completed report)) t)
  | imported {text : String} {storage : Storage}
      (h : (Operation.importText text).run.Ends (Step mayFail) s (.ok storage) t)
  | chatChanged {outcome : Option Outcome}
      (h : (handle c .chatChanged).Ends (Step mayFail) s outcome t)
  | generationStarted {outcome : Option Outcome}
      (h : (handle c .generationStarted).Ends (Step mayFail) s outcome t)

/-- A message that is displayed can lead to a pass. -/
theorem messageRendered_scene (id : String) (hslot : ∀ block, ¬ mayFail (.setBlock block))
    (hchat : s.chat = some chat) :
    (handle c (.messageRendered id)).Throughout (Step mayFail) (fun _ => True)
      (fun outcome t => ∀ report, outcome = some (.completed report) → t.Current c chat) s := by
  unfold handle
  refine .bind (tagRendered_scene c id s) fun r t _ htagged => ?_
  have hstill : t.chat = some chat := (Elsewhere.tagged htagged).chat.trans hchat
  refine .bind (maybePerform_scene c t) fun outcome u _ hpass => ?_
  cases outcome with
  | ok outcome =>
    refine .finish trivial fun report hreport => ?_
    cases hreport
    exact hpass.current hslot hstill
  | error e => exact .finish trivial nofun

/-- Another chat is given a record, if that can be saved, and then its prompt. -/
theorem chatChanged_scene (hloads : ∀ id, ¬ mayFail (.loadStorage id))
    (hslot : ∀ block, ¬ mayFail (.setBlock block)) (hchat : s.chat = some chat) :
    (handle c .chatChanged).Throughout (Step mayFail) (fun _ => True)
      (fun _ t => t.Current c chat) s := by
  unfold handle
  refine .bind (ensureStorage_scene c s) fun r t _ hmade => ?_
  have hstill : t.chat = some chat := (Elsewhere.made hmade).chat.trans hchat
  -- the record that is shown is the one that is kept by now, whether it was made or not
  refine .bind (refreshInjection_scene c t) fun _ u _ hrefreshed => ?_
  exact .finish trivial (hrefreshed.current hloads hslot hstill)

/-- A prompt that is about to be built is brought up to date first. -/
theorem generationStarted_scene (hloads : ∀ id, ¬ mayFail (.loadStorage id))
    (hslot : ∀ block, ¬ mayFail (.setBlock block)) (hchat : s.chat = some chat) :
    (handle c .generationStarted).Throughout (Step mayFail) (fun _ => True)
      (fun _ t => t.Current c chat) s := by
  unfold handle
  refine .bind (refreshInjection_scene c s) fun _ t _ hrefreshed => ?_
  exact .finish trivial (hrefreshed.current hloads hslot hchat)

/-- **Every update leaves a prompt that shows what is kept.** -/
theorem Update.current (hloads : ∀ id, ¬ mayFail (.loadStorage id))
    (hslot : ∀ block, ¬ mayFail (.setBlock block)) (hchat : s.chat = some chat)
    (h : Update mayFail c s t) : t.Current c chat := by
  cases h with
  | pass h => exact ((perform_scene c s).ends h).current hslot hchat
  | duePass h => exact ((maybePerform_scene c s).ends h).current hslot hchat
  | @messageRendered id report h => exact (messageRendered_scene id hslot hchat).ends h report rfl
  | imported h => exact ((importText_scene _ s).ends h).current hslot hchat
  | chatChanged h => exact (chatChanged_scene hloads hslot hchat).ends h
  | generationStarted h => exact (generationStarted_scene hloads hslot hchat).ends h

/-- An update leaves the chat open. -/
theorem Update.elsewhere (h : Update mayFail c s t) : Elsewhere s t := by
  cases h with
  | pass h => exact .pass ((perform_scene c s).ends h)
  | duePass h => exact .pass ((maybePerform_scene c s).ends h)
  | messageRendered h => exact (handle_elsewhere c _ s).ends h
  | imported h => exact .brought ((importText_scene _ s).ends h)
  | chatChanged h => exact (handle_elsewhere c _ s).ends h
  | generationStarted h => exact (handle_elsewhere c _ s).ends h

/-- **Where the prompt shows what is kept, a refresh changes nothing**, whatever the configuration is by
    then, and whether it comes to its end or not. -/
theorem Current.refresh {c' : Config} (hchat : s.chat = some chat) (hcurrent : s.Current c chat)
    (h : Refreshed mayFail c' s t) : t = s := by
  cases h with
  | unchanged => rfl
  | @shown chat' _ hchat' hshows =>
    obtain rfl : chat = chat' := Option.some.inj (hchat.symm.trans hchat')
    rcases hshows with rfl | ⟨-, rfl⟩
    · unfold Current at hcurrent
      rw [setSlot, injectedBlock_getD_fresh chat _ _ c.defaultInjection, ← hcurrent]
    · rfl

end Scene

/-! ## Updates in a run -/

open Scene (Update Current)

/-- **After an update the prompt is never stale.** Where a chat is open, and records can be loaded and the
    prompt be set, each update leaves the chat open and its prompt as the record requires that is kept by
    then: cleared if it is not to be used or no tier has a summary, or there is no record, and else with
    the context that is built of it. So a refresh that follows, with whatever configuration, changes neither
    the prompt nor what is kept. -/
theorem prompt_is_current_after_update {mayFail : HostCall → Prop} {c : Config} {s t : Scene} {chat : Chat}
    (hloads : ∀ id, ¬ mayFail (.loadStorage id)) (hslot : ∀ block, ¬ mayFail (.setBlock block))
    (hchat : s.chat = some chat) (h : Update mayFail c s t) :
    t.chat = some chat ∧
    (t.storages chat.id = none → t.slot = some clearedBlock) ∧
    (∀ storage, t.storages chat.id = some storage →
      (storage.injection.enabled = false ∨ storage.hasSummaries = false) ∧
          t.slot = some clearedBlock ∨
        storage.injection.enabled = true ∧ storage.hasSummaries = true ∧
          t.slot = some
            { key := injectionKey
              text := (buildContext storage (historyBudget chat)).assemble
              position := storage.injection.position
              depth := storage.injection.depth
              scan := storage.injection.scan
              role := storage.injection.role }) ∧
    ∀ c' text u, (refreshInjection c').Ends (Step mayFail) t text u → u = t := by
  have hcurrent : t.Current c chat := h.current hloads hslot hchat
  have hopen : t.chat = some chat := h.elsewhere.chat.trans hchat
  have hslotEq : t.slot = some (injectedBlock chat
      ((t.storages chat.id).getD (.fresh c.defaultInjection))) := hcurrent
  refine ⟨hopen, fun hnone => ?_, fun storage hkept => ?_, fun c' text u hrefresh => ?_⟩
  · rw [hslotEq, hnone, Option.getD_none, injectedBlock_fresh]
  · rw [hslotEq, hkept, Option.getD_some]
    rcases injectedBlock_cases chat storage with ⟨hwhy, hblock⟩ | ⟨henabled, htold, hblock⟩
    · exact .inl ⟨hwhy, congrArg some hblock⟩
    · exact .inr ⟨henabled, htold, congrArg some hblock⟩
  · exact hcurrent.refresh hopen ((Scene.refreshInjection_scene c' t).ends hrefresh)

/-- The pass over the short chat puts its two summaries into the prompt. -/
theorem prompt_tells_the_short_chat :
    let v := (MemoryHost.brief.run .thorough (perform .thorough)).2.scene
    ∃ storage, v.storages "brief" = some storage ∧ storage.level1.length = 2 ∧
      v.slot = some
        { key := injectionKey
          text := (buildContext storage (historyBudget .brief)).assemble
          position := storage.injection.position
          depth := storage.injection.depth
          scan := storage.injection.scan
          role := storage.injection.role } := by
  intro v
  have hcompleted : (MemoryHost.brief.run .thorough (perform .thorough)).1 = .ok (.completed
      { chunks := 2, messagesCompacted := 2, summaryIds := ["uuid-1", "uuid-2"], halted := false }) := by
    decide +kernel
  have hrecord : (v.storages "brief").map (fun s => (s.injection.enabled, s.hasSummaries, s.level1.length)) =
      some (true, true, 2) := by
    decide +kernel
  obtain ⟨storage, hkept, hstorage⟩ := Option.map_eq_some_iff.mp hrecord
  obtain ⟨henabled, htold, hlength⟩ : storage.injection.enabled = true ∧ storage.hasSummaries = true ∧
      storage.level1.length = 2 := by simpa using hstorage
  have hends := MemoryHost.ends_scene .thorough (w := .brief) (perform .thorough) rfl
  rw [hcompleted] at hends
  have hchat : MemoryHost.brief.scene.chat = some .brief := rfl
  have hloads : ∀ id, ¬ Failures.none.fails (.loadStorage id) := fun _ => Bool.false_ne_true
  have hslot : ∀ block, ¬ Failures.none.fails (.setBlock block) := fun _ => Bool.false_ne_true
  obtain ⟨-, -, hshown, -⟩ := prompt_is_current_after_update hloads hslot hchat (.pass hends)
  refine ⟨storage, hkept, hlength, ?_⟩
  rcases hshown storage hkept with ⟨hwhy, -⟩ | ⟨-, -, hslot⟩
  · rw [henabled, htold] at hwhy
    rcases hwhy with h | h <;> cases h
  · exact hslot

end Recap
