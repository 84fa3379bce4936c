import Mathlib.Logic.Relation
import Recap.Proofs.Dialogue.Throughout

/-!
# Dialogues, question by question

`Ends` and `Passes` follow a dialogue to a state and forget what is left of it there. Where something
is to be said of two moments, one after the other, or of several dialogues that take turns, the rest of
a dialogue belongs to the state: `Goes` is one answer, and a run is any number of them.

What holds all along a dialogue holds of the rest wherever it is left (`Throughout.goes`). `AsksOnce`
counts: a dialogue that asks one question of a kind at most has either asked none of the kind
yet, or will ask no more.

## Contents
- `Goes`, `ends_iff_goes`, `passes_of_goes` — one answer, and runs as sequences of answers.
- `Throughout.goes` — what the rest of a dialogue has from the whole.
- `AsksOnce`, `AsksOnce.goes` — dialogues that ask at most one question of a kind.
-/

namespace Recap.Dialogue

open Relation (ReflTransGen)

variable {Q : Type} {A : Q → Type} {α β ε σ : Type} {c : Conduct Q A σ}

/-! ## One answer -/

/-- A question is answered: what is left of the dialogue and the state of the surroundings, before and
    after. -/
inductive Goes (c : Conduct Q A σ) : Dialogue Q A α × σ → Dialogue Q A α × σ → Prop where
  | answered {q : Q} {next : A q → Dialogue Q A α} {s t : σ} {a : A q} (h : c s q a t) :
      Goes c (ask q next, s) (next a, t)

/-- **A run is a sequence of answers** that leaves nothing to be asked. -/
theorem ends_iff_goes {d : Dialogue Q A α} {s t : σ} {a : α} :
    d.Ends c s a t ↔ ReflTransGen (Goes c) (d, s) (done a, t) := by
  constructor
  · intro h
    induction d generalizing s with
    | done b =>
      obtain ⟨rfl, rfl⟩ := h
      exact .refl
    | ask q next ih =>
      obtain ⟨b, s', hc, hnext⟩ := h
      exact .head (.answered hc) (ih b hnext)
  · intro h
    -- from the end back: each answer is put before a run that is known to end
    have ends : ∀ {x y : Dialogue Q A α × σ}, Goes c x y → y.1.Ends c y.2 a t → x.1.Ends c x.2 a t := by
      rintro _ _ ⟨hc⟩ hy
      exact ⟨_, _, hc, hy⟩
    exact ReflTransGen.head_induction_on (motive := fun x _ => x.1.Ends c x.2 a t) h ⟨rfl, rfl⟩
      fun hstep _ hy => ends hstep hy

/-- A run comes by the states of its answers. -/
theorem passes_of_goes {d rest : Dialogue Q A α} {s t : σ}
    (h : ReflTransGen (Goes c) (d, s) (rest, t)) : d.Passes c s t := by
  have first : ∀ {x y : Dialogue Q A α × σ}, Goes c x y → y.1.Passes c y.2 t → x.1.Passes c x.2 t := by
    rintro _ _ ⟨hc⟩ hy
    exact .inr ⟨_, _, hc, hy⟩
  refine ReflTransGen.head_induction_on (motive := fun x _ => x.1.Passes c x.2 t) h ?_
    fun hstep _ hy => first hstep hy
  cases rest with
  | done a => rfl
  | ask q next => exact .inl rfl

/-! ## What is left -/

variable {I : σ → Prop} {P : α → σ → Prop} {p : Q → Prop} {x y : Dialogue Q A α × σ}

/-- What holds throughout a dialogue holds throughout the rest of it. -/
theorem Throughout.goes (hx : x.1.Throughout c I P x.2) (h : ReflTransGen (Goes c) x y) :
    y.1.Throughout c I P y.2 := by
  induction h with
  | refl => exact hx
  | tail _ hstep ih =>
    obtain ⟨hc⟩ := hstep
    exact ih.2 _ _ hc

/-! ## One question of a kind -/

/-- Along every run the dialogue asks at most one question of which `p` holds. -/
def AsksOnce (p : Q → Prop) : Dialogue Q A α → Prop
  | done _ => True
  | ask q next => (p q → ∀ a, (next a).Asks fun q => ¬ p q) ∧ ∀ a, (next a).AsksOnce p

/-- A dialogue that asks no such question asks at most one. -/
theorem Asks.once {d : Dialogue Q A α} (h : d.Asks fun q => ¬ p q) : d.AsksOnce p := by
  induction d with
  | done a => trivial
  | ask q next ih => exact ⟨fun hq => absurd hq h.1, fun a => ih a (h.2 a)⟩

/-- Another question, and then the rest. -/
theorem AsksOnce.call {q : Q} {f : A q → Dialogue Q A β} (hq : ¬ p q) (hf : ∀ a, (f a).AsksOnce p) :
    (Dialogue.call q >>= f).AsksOnce p :=
  ⟨fun h => absurd h hq, hf⟩

/-- The end of a dialogue. -/
theorem AsksOnce.finish (a : α) : (pure a : Dialogue Q A α).AsksOnce p := trivial

/-- The question may be in the second part of a sequence. -/
theorem Asks.thenOnce {d : Dialogue Q A α} {f : α → Dialogue Q A β} (h : d.Asks fun q => ¬ p q)
    (hf : ∀ a, (f a).AsksOnce p) : (d >>= f).AsksOnce p := by
  induction d with
  | done a => exact hf a
  | ask q next ih => exact ⟨fun hq => absurd hq h.1, fun a => ih a (h.2 a)⟩

/-- The question may be in the first part of a sequence. -/
theorem AsksOnce.bind {d : Dialogue Q A α} {f : α → Dialogue Q A β} (h : d.AsksOnce p)
    (hf : ∀ a, (f a).Asks fun q => ¬ p q) : (d >>= f).AsksOnce p := by
  induction d with
  | done a => exact (hf a).once
  | ask q next ih => exact ⟨fun hq a => (h.1 hq a).bind hf, fun a => ih a (h.2 a)⟩

/-- **Up to the one question, or after it.** What other questions leave as it is, is so until the
    question of the kind is asked; afterwards no other one is. -/
theorem AsksOnce.goes {K : σ → Prop} (hx : x.1.AsksOnce p) (hK : K x.2)
    (others : ∀ s q a t, ¬ p q → c s q a t → K s → K t) (h : ReflTransGen (Goes c) x y) :
    (y.1.Asks fun q => ¬ p q) ∨ y.1.AsksOnce p ∧ K y.2 := by
  induction h with
  | refl => exact .inr ⟨hx, hK⟩
  | tail _ hstep ih =>
    obtain @⟨q, _, _, _, _, hc⟩ := hstep
    rcases ih with hno | ⟨hone, hK⟩
    · exact .inl (hno.2 _)
    · by_cases hq : p q
      · exact .inl (hone.1 hq _)
      · exact .inr ⟨hone.2 _, others _ _ _ _ hq hc hK⟩

end Recap.Dialogue
