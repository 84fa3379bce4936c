import Recap.Proofs.Engine.OperationEffect
import Recap.Proofs.Engine.Reliable

/-!
# The lock

Only one pass runs at a time: a pass begins by asking for the engine's lock, and the last thing it does is
to give it back. In between it leaves the lock alone (`passBody_asks`), so whatever becomes of the pass,
the lock is free again after it.

## Contents
- `Locks` — how the lock answers.
- `passBody_asks`, `perform_unlocks` — a pass that has the lock does not touch it, and gives it back.
- `Guarded`, `Obliging.guarded` — a host of any kind and one that does as it is told, with the lock.
-/

namespace Recap

open Dialogue (answering)
open World (Step)

/-! ## The lock by itself -/

/-- How the lock answers. It is taken by asking, and the answer says whether it was free; it is free once
    it is given back, and nothing else concerns it. -/
def Locks (locked : Bool) : (q : HostCall) → q.Answer → Bool → Prop
  | .begin, a, locked' => a = !locked ∧ locked' = true
  | .finish, _, locked' => locked' = false
  | _, _, locked' => locked' = locked

/-- Other questions leave the lock as it is. -/
theorem Locks.same {locked locked' : Bool} {q : HostCall} {a : q.Answer} (h : Locks locked q a locked')
    (hq : q.isLock = false) : locked' = locked := by
  cases q with
  | begin | finish => cases hq
  | _ => exact h

/-! ## A pass that has it -/

/-- Folding leaves the lock alone. -/
theorem foldChunks_asks_no_lock (total : Nat) (sizes : List Nat) (s : PassState) :
    (foldChunks total sizes s).Asks (·.isLock = false) :=
  foldChunks_asks_only (p := (·.isLock = false)) (fun _ _ => rfl) rfl rfl (fun _ => rfl) total sizes s

/-- Saving leaves the lock alone. -/
theorem saveState_asks_no_lock (chatId : String) (storage : Storage) (tags : TagStore) :
    (saveState chatId storage tags).Asks (·.isLock = false) :=
  saveState_asks_only rfl rfl

/-- A pass over a working set leaves the lock alone. -/
theorem compact_asks (c : Config) (chat : Chat) (storage : Storage) (tags : TagStore)
    (working : List (Nat × Message)) :
    (compact c chat storage tags working).Asks (·.isLock = false) :=
  compact_asks_only (p := (·.isLock = false)) (fun _ => HostCall.isLock_of_isMinor)
    (foldChunks_asks_no_lock _ _ _) fun _ _ => saveState_asks_no_lock _ _ _

/-- **A pass that has the lock does not touch it.** -/
theorem passBody_asks (c : Config) : (passBody c).Asks (·.isLock = false) := by
  unfold passBody
  refine .call rfl fun a => ?_
  cases a with
  | none => exact .finish _
  | some chat =>
    refine ((loadState_asks c chat.id).mono fun _ => HostCall.isLock_of_isMinor).bind fun r => ?_
    rcases r with cause | ⟨storage, tags⟩
    · exact .finish _
    · by_cases hempty : (workingSet chat.messages tags).isEmpty = true
      · simp only [hempty, if_true]
        exact .finish _
      · simp only [hempty, if_false, Bool.false_eq_true]
        exact compact_asks c chat storage tags _

section Answering

variable {σ : Type} {answer : (q : HostCall) → σ → q.Answer × σ} {locked : σ → Bool} {c : Config}

/-- **A pass gives the lock back**, whatever becomes of it. -/
theorem perform_unlocks
    (hlock : ∀ {s q a t}, answer q s = (a, t) → Locks (locked s) q a (locked t)) {s : σ}
    (free : locked s = false) :
    (perform c).Throughout (answering answer) (fun _ => True) (fun _ t => locked t = false) s := by
  unfold perform
  refine .call trivial fun a s₁ h₁ => ?_
  obtain ⟨ha, hs₁⟩ : a = !locked s ∧ locked s₁ = true := hlock h₁
  obtain rfl : a = true := by rw [ha, free]; rfl
  have hbody := (passBody_asks c).throughout (c := answering answer) (I := fun t => locked t = true)
    (fun _ _ _ _ ht hq h => ((hlock h).same hq).trans ht) hs₁
  refine .bind (hbody.mono (fun _ _ => trivial) fun _ _ => id) fun r s₂ _ h₂ => ?_
  refine .call trivial fun _ s₃ h₃ => ?_
  exact .finish trivial (hlock h₃)

end Answering

/-! ## Hosts with a lock -/

/-- A host of any kind, together with the lock. -/
def Guarded (h : Habits) : Dialogue.Conduct HostCall HostCall.Answer (World × Bool) := fun s q a t =>
  Step h s.1 q a t.1 ∧ Locks s.2 q a t.2

namespace Obliging

variable {τ : Type}

/-- The answers of a host that does as it is told, with the lock that the engine has. -/
def guarded (chat : Chat)
    (compress : List Message → Nat → τ → Option String × τ) :
    (q : HostCall) → Obliging τ × Bool → q.Answer × Obliging τ × Bool
  | .begin, (w, locked) => (!locked, w, true)
  | .finish, (w, _) => ((), w, false)
  | q, (w, locked) => ((answer chat compress q w).1, (answer chat compress q w).2, locked)

/-- What other modules see of it. -/
def guardedWorld (chat : Chat) (s : Obliging τ × Bool) : World × Bool :=
  (s.1.world chat, s.2)

/-- Its lock answers as the lock does. -/
theorem guarded_locks (chat : Chat) (compress : List Message → Nat → τ → Option String × τ)
    {s t : Obliging τ × Bool} {q : HostCall} {a : q.Answer} (h : guarded chat compress q s = (a, t)) :
    Locks s.2 q a t.2 := by
  cases q with
  | begin =>
    cases h
    exact ⟨rfl, rfl⟩
  | _ =>
    cases h
    rfl

/-- It answers as a guarded host of any kind may. -/
theorem guarded_step (chat : Chat)
    (compress : List Message → Nat → τ → Option String × τ) (h : Habits) (s : Obliging τ × Bool)
    (q : HostCall) (hs : s.1.Fresh) :
    Guarded h (guardedWorld chat s) q (guarded chat compress q s).1
        (guardedWorld chat (guarded chat compress q s).2) ∧
      (guarded chat compress q s).2.1.Fresh := by
  obtain ⟨hstep, hfresh⟩ := step chat compress h q hs
  have hlock := guarded_locks chat compress (s := s) (q := q) rfl
  cases q with
  | begin | finish => exact ⟨⟨⟨_, rfl, .refl, rfl⟩, hlock⟩, hs⟩
  | _ => exact ⟨⟨hstep, hlock⟩, hfresh⟩

/-- It is a host that does not fail. -/
theorem guarded_reliable (chat : Chat)
    (compress : List Message → Nat → τ → Option String × τ) :
    Reliable (guarded chat compress) (fun s => s.1.toShown) chat compress where
  currentChat h := by cases h; rfl
  loadStorage h := by cases h; rfl
  loadTags h := by cases h; rfl
  saveStorage h := by cases h; exact ⟨rfl, rfl⟩
  saveTags h := by cases h; exact ⟨rfl, rfl⟩
  compress h := by cases h; exact ⟨rfl, rfl⟩
  quiet {s q a t} hq h := by
    cases q with
    | saveStorage | saveTags | compress => cases hq
    | _ => cases h; rfl

end Obliging

end Recap
