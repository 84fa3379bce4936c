import Recap.Proofs.Dialogue.Interleaving

/-!
# Dialogues that rely on their surroundings

Some dialogues only do well where they are dealt with well: what they ask is in order as long as the
answers before were. `Relying` puts the two conditions side by side, what is assumed of answers and what
is shown of questions, without a word about the state of the surroundings. That is why it holds among
others as well: surroundings that give orderly answers as long as they are asked orderly questions are never
asked any others, whichever of the dialogues has its turn (`Turns.relying`).

## Contents
- `Relying`, and its lemmas for sequences.
- `Asks.relying` — dialogues that rely on nothing.
- `Turns.relying` — relying dialogues that take turns.
-/

namespace Recap.Dialogue

variable {Q : Type} {A : Q → Type} {α β σ : Type}

/-- As long as `g` holds of every answer, `p` holds of every question, and `P` of the result. -/
def Relying (g : (q : Q) → A q → Prop) (p : Q → Prop) (P : α → Prop) : Dialogue Q A α → Prop
  | done a => P a
  | ask q next => p q ∧ ∀ a, g q a → (next a).Relying g p P

namespace Relying

variable {g : (q : Q) → A q → Prop} {p : Q → Prop} {P : α → Prop} {R : β → Prop}

/-- A sequence, part after part. -/
theorem bind {d : Dialogue Q A α} {f : α → Dialogue Q A β} (h : d.Relying g p P)
    (hf : ∀ a, P a → (f a).Relying g p R) : (d >>= f).Relying g p R := by
  induction d with
  | done a => exact hf a h
  | ask q next ih => exact ⟨h.1, fun a ha => ih a (h.2 a ha)⟩

/-- A question, and then the rest. -/
theorem call {q : Q} {f : A q → Dialogue Q A β} (hq : p q) (hf : ∀ a, g q a → (f a).Relying g p R) :
    (Dialogue.call q >>= f).Relying g p R :=
  ⟨hq, hf⟩

/-- The end of a dialogue. -/
theorem finish {a : α} (ha : P a) : (pure a : Dialogue Q A α).Relying g p P := ha

/-- Less can be said of the result. -/
theorem mono {P' : α → Prop} {d : Dialogue Q A α} (h : d.Relying g p P) (hP : ∀ a, P a → P' a) :
    d.Relying g p P' := by
  induction d with
  | done a => exact hP a h
  | ask q next ih => exact ⟨h.1, fun a ha => ih a (h.2 a ha)⟩

/-- A dialogue of which nothing is said. -/
theorem any (d : Dialogue Q A α) : d.Relying g (fun _ => True) fun _ => True := by
  induction d with
  | done a => trivial
  | ask q next ih => exact ⟨trivial, fun a _ => ih a⟩

/-- What a dialogue ends with, where all answers are good. -/
theorem ends {c : Conduct Q A σ} (hc : ∀ s q a t, c s q a t → g q a) {d : Dialogue Q A α}
    (h : d.Relying g p P) {s t : σ} {a : α} (hd : d.Ends c s a t) : P a := by
  induction d generalizing s with
  | done b =>
    obtain ⟨rfl, rfl⟩ := hd
    exact h
  | ask q next ih =>
    obtain ⟨b, s', hs, hd⟩ := hd
    exact ih b (h.2 b (hc _ _ _ _ hs)) hd

end Relying

/-- What is asked without relying on anything is asked in any case. -/
theorem Asks.relying {g : (q : Q) → A q → Prop} {p : Q → Prop} {d : Dialogue Q A α} (h : d.Asks p) :
    d.Relying g p fun _ => True := by
  induction d with
  | done a => trivial
  | ask q next ih => exact ⟨h.1, fun a _ => ih a (h.2 a)⟩

/-- **Among others each can rely on what it relies on by itself.** Where orderly questions get orderly
    answers and leave things in order, things stay in order, whichever of the dialogues has its turn. -/
theorem Turns.relying {g : (q : Q) → A q → Prop} {p : Q → Prop} {P : α → Prop} {c : Conduct Q A σ}
    {I : σ → Prop} (hc : ∀ s q a t, I s → p q → c s q a t → g q a ∧ I t)
    {x y : List (Thread Q A α) × σ} (h : Turns c x y) (hI : I x.2)
    (hx : ∀ t ∈ x.1, t.rest.Relying g p P) : I y.2 ∧ ∀ t ∈ y.1, t.rest.Relying g p P := by
  induction h with
  | refl => exact ⟨hI, hx⟩
  | tail _ hturn ih =>
    obtain ⟨hI, hall⟩ := ih
    obtain ⟨i, hturn⟩ := hturn
    cases hturn with
    | @answered ts t q next a s s' ht hq hanswer =>
      -- only this thread has moved on, by an answer that is as good as the question was
      have hown : (ask q next).Relying g p P := hq ▸ hall t (List.mem_of_getElem? ht)
      obtain ⟨hgood, hI'⟩ := hc _ _ _ _ hI hown.1 hanswer
      refine ⟨hI', fun u hu => ?_⟩
      rcases List.mem_or_eq_of_mem_set hu with hother | rfl
      · exact hall u hother
      · exact hown.2 a hgood

end Recap.Dialogue
