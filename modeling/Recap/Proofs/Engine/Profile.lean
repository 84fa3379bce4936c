import Recap.Engine.Memory
import Recap.Proofs.Engine.OperationEffect
import Recap.Proofs.Engine.Reliable

/-!
# The connection profile comes back

A pass may change to another connection profile for the time that it summarizes in. There is no guard that
changes back: `compact` does so itself, after the last chunk and before it saves. So it has to be on every
path that follows a change, whether a chunk was given up or a save fails later, and on no other path.

`Profiles.Step` is all that is assumed of a host here. Its profiles answer as `Profiles.switch` says, if it
has any; everything else can be answered in any way, so compressors of all kinds and failures of all kinds
are among its runs.

## Contents
- `Profiles.accepts`, `Profiles.moveTo`, `Profiles.Step` — profiles, and how they answer.
- `Borrows` — when a pass changes to another profile.
- `Lent`, `Returned` — the profiles while a pass summarizes, and after it.
- `perform_gives_profile_back` — what a pass leaves of the profiles.
-/

namespace Recap

/-! ## Profiles that answer -/

/-- Whether a call is about connection profiles. -/
def HostCall.isProfile : HostCall → Bool
  | .currentProfile | .switchProfile _ => true
  | _ => false

namespace Profiles

/-- Whether a change to a profile goes well. -/
def accepts (p : Profiles) (target : String) : Bool :=
  !p.failing.contains target && !p.declining.contains target

/-- The profiles after a change that went well. -/
def moveTo (p : Profiles) (target : String) : Profiles :=
  { p with current := some target, history := p.history ++ [target] }

@[simp] theorem moveTo_current (p : Profiles) (target : String) :
    (p.moveTo target).current = some target := rfl

@[simp] theorem moveTo_history (p : Profiles) (target : String) :
    (p.moveTo target).history = p.history ++ [target] := rfl

@[simp] theorem moveTo_failing (p : Profiles) (target : String) :
    (p.moveTo target).failing = p.failing := rfl

@[simp] theorem moveTo_declining (p : Profiles) (target : String) :
    (p.moveTo target).declining = p.declining := rfl

/-- A change that went well has no bearing on which ones go well. -/
@[simp] theorem moveTo_accepts (p : Profiles) (target : String) :
    (p.moveTo target).accepts = p.accepts := rfl

theorem switch_of_accepts {p : Profiles} {target : String} (h : p.accepts target = true) :
    p.switch target = (.switched, p.moveTo target) := by
  obtain ⟨hfailing, hdeclining⟩ := Bool.and_eq_true_iff.mp h
  rw [Bool.not_eq_true'] at hfailing hdeclining
  unfold switch
  rw [if_neg (by rw [hfailing]; simp), if_neg (by rw [hdeclining]; simp)]
  rfl

theorem switch_of_not_accepts {p : Profiles} {target : String} (h : p.accepts target = false) :
    (p.switch target).1 ≠ .switched ∧ (p.switch target).2 = p := by
  unfold switch
  by_cases hfailing : p.failing.contains target = true
  · rw [if_pos hfailing]
    exact ⟨nofun, rfl⟩
  · have hdeclining : p.declining.contains target = true := by
      have hfree : p.failing.contains target = false := by simpa using hfailing
      rw [accepts, hfree] at h
      simpa using h
    rw [if_neg hfailing, if_pos hdeclining]
    exact ⟨nofun, rfl⟩

/-- How the profiles of a host answer, if it has any. Other questions can be answered in any way, and do
    not concern them. -/
def Step : Dialogue.Conduct HostCall HostCall.Answer (Option Profiles)
  | p, .currentProfile, a, q => a = p.bind (·.current) ∧ q = p
  | none, .switchProfile _, a, q => a = .failed ∧ q = none
  | some p, .switchProfile target, a, q => a = (p.switch target).1 ∧ q = some (p.switch target).2
  | p, _, _, q => q = p

/-- All that is said of other questions is that they leave the profiles as they are. -/
theorem step_iff {p q : Option Profiles} {call : HostCall} {a : call.Answer}
    (hcall : call.isProfile = false) : Step p call a q ↔ q = p := by
  cases call with
  | currentProfile | switchProfile => cases hcall
  | _ => cases p <;> exact Iff.rfl

theorem Step.same {p q : Option Profiles} {call : HostCall} {a : call.Answer} (h : Step p call a q)
    (hcall : call.isProfile = false) : q = p := (step_iff hcall).mp h

/-- A dialogue about other things leaves the profiles as they are. -/
theorem untouched {α : Type} {d : Hosted α} (hd : d.Asks (·.isProfile = false))
    (p : Option Profiles) : d.Throughout Step (fun _ => True) (fun _ q => q = p) p := by
  have hsame := hd.throughout (c := Step) (I := (· = p)) (fun s q a t hs hq h => (h.same hq).trans hs) rfl
  exact hsame.mono (fun _ _ => trivial) fun _ _ => id

end Profiles

/-! ## A pass that borrows -/

/-- A pass changes to the profile `target`, and is to come back to `previous`. -/
structure Borrows (c : Config) (p : Profiles) (target previous : String) : Prop where
  configured : c.profile = some target
  named : target ≠ ""
  inUse : p.current = some previous
  other : previous ≠ target
  accepted : p.accepts target = true

/-- The profile that a pass has to come back to, and the profiles while it summarizes. -/
inductive Lent (c : Config) : Option Profiles → Option String → Option Profiles → Prop where
  | nothing {p : Option Profiles} (h : ∀ s ∈ p, ∀ target previous, ¬ Borrows c s target previous) :
      Lent c p none p
  | lent {p : Profiles} {target previous : String} (h : Borrows c p target previous) :
      Lent c (some p) (some previous) (some (p.moveTo target))

/-- The profiles before a pass and after it. -/
inductive Returned (c : Config) : Option Profiles → Option Profiles → Prop where
  | nothing {p : Option Profiles} (h : ∀ s ∈ p, ∀ target previous, ¬ Borrows c s target previous) :
      Returned c p p
  | returned {p : Profiles} {target previous : String} (h : Borrows c p target previous)
      (back : p.accepts previous = true) :
      Returned c (some p) (some ((p.moveTo target).moveTo previous))
  | stuck {p : Profiles} {target previous : String} (h : Borrows c p target previous)
      (back : p.accepts previous = false) : Returned c (some p) (some (p.moveTo target))

/-- **A profile is borrowed if it is another one than that in use, and can be changed to.** -/
theorem borrowProfile_throughout (c : Config) (p : Option Profiles) :
    (borrowProfile c).Throughout Profiles.Step (fun _ => True) (Lent c p) p := by
  unfold borrowProfile
  cases htarget : c.profile.filter (!·.isEmpty) with
  | none =>
    refine .finish trivial (.nothing fun s _ target previous h => ?_)
    have hnamed : (!target.isEmpty) = true := by simpa using h.named
    rw [h.configured, Option.filter_some, if_pos hnamed] at htarget
    cases htarget
  | some target =>
    obtain ⟨hconfigured, hnamed⟩ := Option.filter_eq_some_iff.mp htarget
    -- whatever is borrowed is the configured profile
    have hunique : ∀ {s target' previous}, Borrows c s target' previous → target' = target := by
      intro s target' previous h
      have := h.configured.symm.trans hconfigured
      simpa using this
    refine .call trivial fun current q hq => ?_
    obtain ⟨rfl, rfl⟩ := hq
    cases hinUse : q.bind (·.current) with
    | none =>
      refine .finish trivial (.nothing fun s hs _ previous h => ?_)
      obtain rfl : q = some s := hs
      rw [Option.bind_some, h.inUse] at hinUse
      cases hinUse
    | some previous =>
      obtain ⟨s, rfl, hcurrent⟩ := Option.bind_eq_some_iff.mp hinUse
      by_cases hsame : previous = target
      · simp only [hsame, if_true]
        refine .finish trivial (.nothing fun s' hs' target' previous' h => ?_)
        cases hs'
        have hprevious : previous' = previous := by
          simpa using h.inUse.symm.trans hcurrent
        exact h.other (hprevious.trans (hsame.trans (hunique h).symm))
      · simp only [hsame, if_false]
        refine .call trivial fun outcome q' hq' => ?_
        obtain ⟨rfl, rfl⟩ := hq'
        by_cases haccepts : s.accepts target = true
        · rw [Profiles.switch_of_accepts haccepts]
          have hborrows : Borrows c s target previous :=
            { configured := hconfigured
              named := by simpa using hnamed
              inUse := hcurrent
              other := hsame
              accepted := haccepts }
          exact .finish trivial (.lent hborrows)
        · have hrefused : s.accepts target = false := by simpa using haccepts
          obtain ⟨hswitch, hkept⟩ := Profiles.switch_of_not_accepts hrefused
          rw [hkept]
          have hnothing : Lent c (some s) none (some s) := by
            refine .nothing fun s' hs' target' previous' h => ?_
            cases hs'
            have haccepted := h.accepted
            rw [hunique h, hrefused] at haccepted
            cases haccepted
          cases houtcome : (s.switch target).1 with
          | switched => exact absurd houtcome hswitch
          | declined | failed => exact .finish trivial hnothing

/-- **What was borrowed is given back, if the host takes it.** -/
theorem returnProfile_throughout {c : Config} {p q : Option Profiles} {previous : Option String}
    (h : Lent c p previous q) :
    (returnProfile previous).Throughout Profiles.Step (fun _ => True) (fun _ t => Returned c p t) q := by
  cases h with
  | nothing hnone => exact .finish trivial (.nothing hnone)
  | @lent p target previous hborrows =>
    refine .call trivial fun outcome t ht => ?_
    obtain ⟨-, rfl⟩ := ht
    -- the change back is judged by what the host accepts, which the change to `target` left alone
    by_cases hback : p.accepts previous = true
    · have hswitch := Profiles.switch_of_accepts (p := p.moveTo target) hback
      rw [hswitch]
      exact .finish trivial (.returned hborrows hback)
    · have hrefused : (p.moveTo target).accepts previous = false := by simpa using hback
      rw [(Profiles.switch_of_not_accepts hrefused).2]
      exact .finish trivial (.stuck hborrows hrefused)

/-- What becomes of the profiles in a pass that is not skipped, and in one that is. -/
def GivenBack (c : Config) (p : Option Profiles) (r : Except EngineError Outcome)
    (q : Option Profiles) : Prop :=
  (∃ reason, r = .ok (.skipped reason)) ∧ q = p ∨
    (∀ reason, r ≠ .ok (.skipped reason)) ∧ Returned c p q

/-- **A pass over a working set gives the profile back**, before it knows whether it can save. -/
theorem compact_gives_back (c : Config) (chat : Chat) (storage : Storage) (tags : TagStore)
    (working : List (Nat × Message)) (p : Option Profiles) :
    (compact c chat storage tags working).Throughout Profiles.Step (fun _ => True)
      (fun r q => (∀ reason, r ≠ .ok (.skipped reason)) ∧ Returned c p q) p := by
  unfold compact
  refine .bind (borrowProfile_throughout c p) fun previous p₁ _ hlent => ?_
  refine .call trivial fun _ p₂ h₂ => ?_
  obtain rfl : p₂ = p₁ := h₂.same rfl
  have hfold := foldChunks_asks_only (p := (·.isProfile = false)) (fun _ _ => rfl) rfl rfl (fun _ => rfl)
  refine .bind (Profiles.untouched (hfold _ _ _) _) fun s p₃ _ h₃ => ?_
  subst h₃
  refine .bind (returnProfile_throughout hlent) fun _ p₄ _ hreturned => ?_
  -- nothing that follows is about profiles
  refine .call trivial fun now p₅ h₅ => ?_
  obtain rfl : p₅ = p₄ := h₅.same rfl
  refine .bind (Profiles.untouched (saveState_asks_only rfl rfl) _) fun r p₆ _ h₆ => ?_
  subst h₆
  cases r with
  | error e =>
    refine .call trivial fun _ p₇ h₇ => ?_
    obtain rfl : p₇ = p₆ := h₇.same rfl
    exact .finish trivial ⟨fun _ => nofun, hreturned⟩
  | ok _ =>
    refine .bind (Profiles.untouched (inject_asks_only (fun _ => rfl) chat _) _) fun _ p₇ _ h₇ => ?_
    subst h₇
    refine .call trivial fun _ p₈ h₈ => ?_
    obtain rfl : p₈ = p₇ := h₈.same rfl
    exact .finish trivial ⟨fun _ => nofun, hreturned⟩

theorem passBody_gives_back (c : Config) (p : Option Profiles) :
    (passBody c).Throughout Profiles.Step (fun _ => True) (GivenBack c p) p := by
  unfold passBody
  refine .call trivial fun a p₁ h₁ => ?_
  obtain rfl : p₁ = p := h₁.same rfl
  cases a with
  | none => exact .finish trivial (.inl ⟨⟨_, rfl⟩, rfl⟩)
  | some chat =>
    have hload : (loadState c chat.id).Asks (·.isProfile = false) :=
      loadState_asks_only (p := (·.isProfile = false)) rfl rfl c
    refine .bind (Profiles.untouched hload _) fun r p₂ _ h₂ => ?_
    subst h₂
    rcases r with cause | ⟨storage, tags⟩
    · exact .finish trivial (.inl ⟨⟨_, rfl⟩, rfl⟩)
    · by_cases hempty : (workingSet chat.messages tags).isEmpty = true
      · simp only [hempty, if_true]
        exact .finish trivial (.inl ⟨⟨_, rfl⟩, rfl⟩)
      · simp only [hempty, if_false, Bool.false_eq_true]
        exact (compact_gives_back c chat storage tags _ p₂).mono (fun _ => id) fun _ _ => .inr

/-- **Every pass gives the profile back**, or never took it. -/
theorem perform_gives_back (c : Config) (p : Option Profiles) :
    (perform c).Throughout Profiles.Step (fun _ => True) (GivenBack c p) p := by
  unfold perform
  refine .call trivial fun a p₁ h₁ => ?_
  obtain rfl : p₁ = p := h₁.same rfl
  cases a with
  | false => exact .finish trivial (.inl ⟨⟨_, rfl⟩, rfl⟩)
  | true =>
    refine .bind (passBody_gives_back c p₁) fun r p₂ _ hr => ?_
    refine .call trivial fun _ p₃ h₃ => ?_
    obtain rfl : p₃ = p₂ := h₃.same rfl
    exact .finish trivial hr

/-! ## What a pass leaves of the profiles -/

namespace Returned

variable {c : Config} {s : Profiles} {q : Option Profiles}

/-- The changes that were made, and where they lead. -/
theorem changes (h : Returned c (some s) q) :
    ∃ s', q = some s' ∧ s'.failing = s.failing ∧ s'.declining = s.declining ∧
      (s' = s ∧ (∀ target previous, ¬ Borrows c s target previous) ∨
        ∃ target previous, Borrows c s target previous ∧
          (s.accepts previous = true ∧ s'.history = s.history ++ [target, previous] ∧
              s'.current = some previous ∨
            s.accepts previous = false ∧ s'.history = s.history ++ [target] ∧
              s'.current = some target)) := by
  cases h with
  | nothing hnone => exact ⟨s, rfl, rfl, rfl, .inl ⟨rfl, hnone s rfl⟩⟩
  | @returned _ target previous hborrows hback =>
    refine ⟨_, rfl, rfl, rfl, .inr ⟨target, previous, hborrows, .inl ⟨hback, ?_, rfl⟩⟩⟩
    simp
  | @stuck _ target previous hborrows hback =>
    exact ⟨_, rfl, rfl, rfl, .inr ⟨target, previous, hborrows, .inr ⟨hback, rfl, rfl⟩⟩⟩

end Returned

/-- **A pass gives the connection profile back.** A host without profiles stays without any. On a host with
    profiles, a skipped pass changes nothing; any other one, whether it is completed, halted, or fails to
    save, makes no change at all, or changes to its own profile and back, and it stays with its own profile
    only if the change back is refused. So the profile in use afterwards is the one before, unless
    that one is refused. No change is made where no profile is configured, the profile in use is unknown, or
    it is the configured one already. -/
theorem perform_gives_profile_back (c : Config) (p q : Option Profiles)
    (r : Except EngineError Outcome) (h : (perform c).Ends Profiles.Step p r q) :
    (p = none → q = none) ∧
    ∀ s, p = some s → ∃ s', q = some s' ∧ s'.failing = s.failing ∧ s'.declining = s.declining ∧
      (s'.history = s.history ∧ s'.current = s.current ∨
        ∃ target previous, Borrows c s target previous ∧
          (s'.history = s.history ++ [target, previous] ∧ s'.current = some previous ∨
            s.accepts previous = false ∧ s'.history = s.history ++ [target] ∧
              s'.current = some target)) ∧
      ((∀ previous, s.current = some previous → s.accepts previous = true) →
        s'.current = s.current) ∧
      ((∃ reason, r = .ok (.skipped reason)) → s' = s) ∧
      ((c.profile = none ∨ c.profile = some "" ∨ s.current = none ∨ s.current = c.profile) →
        s' = s) ∧
      ((∀ reason, r ≠ .ok (.skipped reason)) →
        ∀ target previous, Borrows c s target previous →
          ∃ back, s'.history = s.history ++ target :: back) := by
  have hgiven := (perform_gives_back c p).ends h
  refine ⟨?_, ?_⟩
  · rintro rfl
    rcases hgiven with ⟨-, hq⟩ | ⟨-, hreturned⟩
    · exact hq
    · cases hreturned
      rfl
  · rintro s rfl
    rcases hgiven with ⟨hskipped, rfl⟩ | ⟨hran, hreturned⟩
    · refine ⟨s, rfl, rfl, rfl, .inl ⟨rfl, rfl⟩, fun _ => rfl, fun _ => rfl, fun _ => rfl, ?_⟩
      obtain ⟨reason, hreason⟩ := hskipped
      exact fun hran => absurd hreason (hran reason)
    · obtain ⟨s', hq, hfailing, hdeclining, hchanges⟩ := hreturned.changes
      have hnotSkipped : (∃ reason, r = .ok (.skipped reason)) → s' = s := by
        rintro ⟨reason, hreason⟩
        exact absurd hreason (hran reason)
      refine ⟨s', hq, hfailing, hdeclining, ?_⟩
      rcases hchanges with ⟨rfl, hnone⟩ | ⟨target, previous, hborrows, hchange⟩
      · refine ⟨.inl ⟨rfl, rfl⟩, fun _ => rfl, fun _ => rfl, fun _ => rfl, ?_⟩
        exact fun _ target previous hborrows => absurd hborrows (hnone target previous)
      · -- a pass that borrowed meets none of the conditions for doing without
        have hreason : ¬ (c.profile = none ∨ c.profile = some "" ∨ s.current = none ∨
            s.current = c.profile) := by
          rw [hborrows.configured, hborrows.inUse]
          simpa using ⟨hborrows.named, hborrows.other⟩
        have hsameTarget : ∀ target' previous', Borrows c s target' previous' → target' = target := by
          intro target' previous' h'
          have htarget := h'.configured.symm.trans hborrows.configured
          simpa using htarget
        refine ⟨.inr ⟨target, previous, hborrows, ?_⟩, ?_, hnotSkipped, fun h => absurd h hreason, ?_⟩
        · rcases hchange with ⟨-, hhistory, hcurrent⟩ | hstuck
          · exact .inl ⟨hhistory, hcurrent⟩
          · exact .inr hstuck
        · intro haccepts
          rcases hchange with ⟨-, -, hcurrent⟩ | ⟨hrefused, -, -⟩
          · rw [hcurrent, hborrows.inUse]
          · rw [haccepts previous hborrows.inUse] at hrefused
            cases hrefused
        · intro _ target' previous' h'
          obtain rfl := hsameTarget target' previous' h'
          rcases hchange with ⟨-, hhistory, -⟩ | ⟨-, hhistory, -⟩
          · exact ⟨[previous], hhistory⟩
          · exact ⟨[], hhistory⟩

/-! ### A host in memory -/

/-- A host in memory has its profiles changed only by asking for it. -/
theorem MemoryHost.answer_profiles_of_not_isProfile
    (start : MemoryHost → Except EngineError Outcome × MemoryHost) {w : MemoryHost} (hw : w.reenter = [])
    {call : HostCall} (hcall : call.isProfile = false) :
    (answer start call w).2.profiles = w.profiles := by
  cases call with
  | currentProfile | switchProfile => cases hcall
  | begin | saveStorage | saveTags | setBlock =>
    simp only [answer]
    split <;> rfl
  | compress messages chapter =>
    simp only [answer, interrupt_of_reenter_nil start hw]
    rfl
  | _ => rfl

/-- The profiles of a host in memory answer as all do, if its calls for summaries start no other
    passes. -/
theorem MemoryHost.answer_profiles (start : MemoryHost → Except EngineError Outcome × MemoryHost)
    {w : MemoryHost} (hw : w.reenter = []) (call : HostCall) :
    Profiles.Step w.profiles call (answer start call w).1 (answer start call w).2.profiles := by
  by_cases hcall : call.isProfile = true
  · cases call with
    | currentProfile => exact ⟨rfl, rfl⟩
    | switchProfile target =>
      cases hprofiles : w.profiles with
      | none =>
        simp only [answer, hprofiles]
        exact ⟨rfl, rfl⟩
      | some p =>
        simp only [answer, hprofiles]
        exact ⟨rfl, rfl⟩
    | _ => cases hcall
  · have hother : call.isProfile = false := by simpa using hcall
    exact (Profiles.step_iff hother).mpr (answer_profiles_of_not_isProfile start hw hother)

/-- Its passes are passes among such profiles. -/
theorem MemoryHost.perform_profiles (c : Config) {w : MemoryHost} (hw : w.reenter = []) :
    (perform c).Ends Profiles.Step w.profiles (run c (perform c) w).1
      (run c (perform c) w).2.profiles :=
  (Dialogue.ends_run MemoryHost.profiles (fun w => w.reenter = [])
    (fun _ call hw => ⟨answer_profiles _ hw call, answer_reenter _ hw call⟩) (perform c) hw).1

/-- Passes that summarize with a profile of their own. -/
def Config.frugal : Config := { Config.thorough with profile := some "cheap" }

/-- The short chat on a host with profiles that saves no tags. -/
def MemoryHost.untagging : MemoryHost :=
  { MemoryHost.brief with
    failures := { Failures.none with tagSaves := true }
    profiles := some { current := some "main", failing := [], declining := [], history := [] } }

/-- A pass that fails to save has given its profile back by then. -/
theorem profile_comes_back_from_failed_save :
    (MemoryHost.untagging.run .frugal (perform .frugal)).1 =
        .error (.persistence .tags "brief" "chat save rejected") ∧
      ∃ s, (MemoryHost.untagging.run .frugal (perform .frugal)).2.profiles = some s ∧
        s.current = some "main" ∧ s.history = ["cheap", "main"] := by
  have herror : (MemoryHost.untagging.run .frugal (perform .frugal)).1 =
      .error (.persistence .tags "brief" "chat save rejected") := by
    decide +kernel
  refine ⟨herror, ?_⟩
  have hends := MemoryHost.perform_profiles .frugal (w := .untagging) rfl
  obtain ⟨s, hs, -, -, hchanges, hsame, -, -, hborrowed⟩ :=
    (perform_gives_profile_back .frugal _ _ _ hends).2 _ rfl
  have hcurrent : s.current = some "main" := hsame fun previous hprevious => by
    cases hprevious
    decide
  have hborrows : Borrows .frugal { current := some "main", failing := [], declining := [], history := [] }
      "cheap" "main" := ⟨rfl, by decide, rfl, by decide, by decide⟩
  obtain ⟨back, hback⟩ := hborrowed (by rw [herror]; nofun) _ _ hborrows
  refine ⟨s, hs, hcurrent, ?_⟩
  rcases hchanges with ⟨hnone, -⟩ | ⟨target, previous, hb, ⟨hhistory, -⟩ | ⟨hrefused, -, -⟩⟩
  · rw [hnone] at hback
    cases hback
  · cases hb.configured
    cases hb.inUse
    exact hhistory
  · cases hb.inUse
    exact absurd hrefused (by decide)

end Recap
