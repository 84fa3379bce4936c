import Recap.Proofs.Dialogue.Throughout

/-!
# Two dialogues side by side

Whether something makes no difference is a question about two runs. Two dialogues are `Alike` if they ask the
same questions as long as they are answered alike, and come to results that are alike. What counts as alike is
given by two relations, one for answers and one for results. Surroundings that answer the two of them alike then
lead them to results that are alike (`Alike.ends`), whatever else the surroundings are.

## Contents
- `Alike`, `Alike.bind`, `Alike.call` — dialogues that can be told apart by their results at most.
- `Alike.ends` — two runs of them.
- `OkAlike`, `Alike.except` — results that may be failures.
-/

namespace Recap.Dialogue

variable {Q : Type} {A : Q → Type} {α β γ δ ε σ τ : Type}

/-- As long as answers are related by `R`, the dialogues ask the same questions, and their results are related
    by `P`. -/
inductive Alike (R : (q : Q) → A q → A q → Prop) (P : α → β → Prop) :
    Dialogue Q A α → Dialogue Q A β → Prop where
  | finish {a : α} {b : β} (h : P a b) : Alike R P (done a) (done b)
  | asked {q : Q} {next : A q → Dialogue Q A α} {next' : A q → Dialogue Q A β}
      (h : ∀ a b, R q a b → Alike R P (next a) (next' b)) : Alike R P (ask q next) (ask q next')

/-- Both fail, for the same reason, or neither does, and then the results are related by `P`. -/
inductive OkAlike (P : α → β → Prop) : Except ε α → Except ε β → Prop where
  | ok {a : α} {b : β} (h : P a b) : OkAlike P (.ok a) (.ok b)
  | error (e : ε) : OkAlike P (.error e) (.error e)

namespace Alike

variable {R : (q : Q) → A q → A q → Prop} {P : α → β → Prop} {P' : γ → δ → Prop}

/-- Sequences, part after part. -/
theorem bind {d : Dialogue Q A α} {d' : Dialogue Q A β} {f : α → Dialogue Q A γ} {f' : β → Dialogue Q A δ}
    (h : d.Alike R P d') (hf : ∀ a b, P a b → (f a).Alike R P' (f' b)) :
    (d >>= f).Alike R P' (d' >>= f') := by
  induction h with
  | finish h => exact hf _ _ h
  | asked _ ih => exact .asked ih

/-- The same question, and then the rest. -/
theorem call {q : Q} {f : A q → Dialogue Q A γ} {f' : A q → Dialogue Q A δ}
    (hf : ∀ a b, R q a b → (f a).Alike R P' (f' b)) :
    (Dialogue.call q >>= f).Alike R P' (Dialogue.call q >>= f') :=
  .asked hf

/-- Sequences that a failure of their first parts cuts short. -/
theorem except {d : ExceptT ε (Dialogue Q A) α} {d' : ExceptT ε (Dialogue Q A) β}
    {f : α → ExceptT ε (Dialogue Q A) γ} {f' : β → ExceptT ε (Dialogue Q A) δ}
    (h : d.run.Alike R (OkAlike P) d'.run)
    (hf : ∀ a b, P a b → (f a).run.Alike R (OkAlike P') (f' b).run) :
    (d >>= f).run.Alike R (OkAlike P') (d' >>= f').run := by
  refine bind h fun r r' hr => ?_
  cases hr with
  | ok hab => exact hf _ _ hab
  | error e => exact .finish (.error e)

/-- **Surroundings that answer alike lead to results that are alike.** The two may be of any kind, as long as
    their states can be related so that answers to the same question are alike and lead to related states. -/
theorem ends {c : Conduct Q A σ} {c' : Conduct Q A τ} {S : σ → τ → Prop}
    (hc : ∀ s t q a b s' t', S s t → c s q a s' → c' t q b t' → R q a b ∧ S s' t')
    {d : Dialogue Q A α} {d' : Dialogue Q A β} (h : d.Alike R P d') {s s' : σ} {t t' : τ} {a : α} {b : β}
    (hS : S s t) (hd : d.Ends c s a s') (hd' : d'.Ends c' t b t') : P a b ∧ S s' t' := by
  induction h generalizing s t with
  | finish h =>
    obtain ⟨rfl, rfl⟩ := hd
    obtain ⟨rfl, rfl⟩ := hd'
    exact ⟨h, hS⟩
  | asked _ ih =>
    -- one answer on each side, and what is left of the two is alike again
    obtain ⟨x, s₁, hx, hd⟩ := hd
    obtain ⟨y, t₁, hy, hd'⟩ := hd'
    obtain ⟨hxy, hS₁⟩ := hc _ _ _ _ _ _ _ hS hx hy
    exact ih x y hxy hS₁ hd hd'

end Alike

end Recap.Dialogue
