import Recap.Dialogue

/-!
# What holds all along a dialogue

A dialogue fixes what is asked; the answers are up to its surroundings, which may have a choice, may
fail, and may go on with affairs of their own between two questions. `Conduct` is what surroundings
are able to do, a relation and not a function, so that a statement about every run is a statement about
every choice.

`Throughout` is the one notion that the rest is proved by: an invariant in every state that a dialogue
passes through, and a condition on how it ends. It is defined by recursion over the dialogue, so it is
taken apart at the first question and put together at a sequence (`Throughout.bind`). What it gives
about runs is in `Throughout.ends` and `Throughout.passes`.

## Contents
- `Conduct`, `Ends`, `Passes` — surroundings, and the runs of a dialogue in them.
- `Ends.of_bind`, `Ends.of_call` — a run of a sequence, part after part.
- `Throughout` — an invariant all along, and a condition at the end.
- `Preserves` — an invariant from the beginning to the end.
- `Asks` — dialogues that keep to questions of one kind.
- `delegated`, `Ends.of_delegate` — surroundings that have others answer for them.
- `answering`, `ends_run`, `Throughout.run` — surroundings that leave no choice.
-/

namespace Recap.Dialogue

variable {Q : Type} {A : Q → Type} {α β ε σ : Type}

/-! ## Runs -/

/-- What surroundings are able to do: in which state a question can get which answer, and the state
    that they are in afterwards. -/
abbrev Conduct (Q : Type) (A : Q → Type) (σ : Type) := σ → (q : Q) → A q → σ → Prop

/-- The dialogue, begun in the first state, can end with the result in the second one. -/
def Ends (c : Conduct Q A σ) : Dialogue Q A α → σ → α → σ → Prop
  | done a, s, b, t => b = a ∧ t = s
  | ask q next, s, b, t => ∃ a s', c s q a s' ∧ (next a).Ends c s' b t

/-- The dialogue, begun in the first state, can come by the second one: at a question that is still
    open, or at its end. -/
def Passes (c : Conduct Q A σ) : Dialogue Q A α → σ → σ → Prop
  | done _, s, t => t = s
  | ask q next, s, t => t = s ∨ ∃ a s', c s q a s' ∧ (next a).Passes c s' t

/-- A run of a sequence is a run of its first part, and from there one of the second. -/
theorem Ends.of_bind {c : Conduct Q A σ} {d : Dialogue Q A α} {f : α → Dialogue Q A β} {s t : σ} {b : β}
    (h : (d >>= f).Ends c s b t) : ∃ a u, d.Ends c s a u ∧ (f a).Ends c u b t := by
  induction d generalizing s with
  | done a => exact ⟨a, s, ⟨rfl, rfl⟩, h⟩
  | ask q next ih =>
    obtain ⟨answer, s', hs, h⟩ := h
    obtain ⟨a, u, hd, hf⟩ := ih answer h
    exact ⟨a, u, ⟨answer, s', hs, hd⟩, hf⟩

/-- A run of a question, and then of the rest. -/
theorem Ends.of_call {c : Conduct Q A σ} {q : Q} {f : A q → Dialogue Q A β} {s t : σ} {b : β}
    (h : (Dialogue.call q >>= f).Ends c s b t) : ∃ a u, c s q a u ∧ (f a).Ends c u b t := h

/-! ## Invariants along a dialogue -/

/-- Whatever the surroundings do, `I` holds in every state that the dialogue comes by, and `P` of its
    result and the last state. -/
def Throughout (c : Conduct Q A σ) (I : σ → Prop) (P : α → σ → Prop) : Dialogue Q A α → σ → Prop
  | done a, s => I s ∧ P a s
  | ask q next, s => I s ∧ ∀ a t, c s q a t → (next a).Throughout c I P t

namespace Throughout

variable {c : Conduct Q A σ} {I J : σ → Prop} {P R : α → σ → Prop}

/-- The invariant holds at the beginning. -/
theorem start {d : Dialogue Q A α} {s : σ} (h : d.Throughout c I P s) : I s := by
  cases d with
  | done a => exact h.1
  | ask q next => exact h.1

/-- The condition holds at every end. -/
theorem ends {d : Dialogue Q A α} {s t : σ} {a : α} (h : d.Throughout c I P s)
    (hd : d.Ends c s a t) : P a t := by
  induction d generalizing s with
  | done b =>
    obtain ⟨rfl, rfl⟩ := hd
    exact h.2
  | ask q next ih =>
    obtain ⟨b, s', hc, hd⟩ := hd
    exact ih b (h.2 b s' hc) hd

/-- The invariant holds wherever the dialogue passes. -/
theorem passes {d : Dialogue Q A α} {s t : σ} (h : d.Throughout c I P s)
    (hd : d.Passes c s t) : I t := by
  induction d generalizing s with
  | done b =>
    cases hd
    exact h.1
  | ask q next ih =>
    rcases hd with rfl | ⟨b, s', hc, hd⟩
    · exact h.1
    · exact ih b (h.2 b s' hc) hd

/-- Less can be said of the same dialogue. -/
theorem mono {d : Dialogue Q A α} {s : σ} (h : d.Throughout c I P s) (hI : ∀ t, I t → J t)
    (hP : ∀ a t, P a t → R a t) : d.Throughout c J R s := by
  induction d generalizing s with
  | done a => exact ⟨hI s h.1, hP a s h.2⟩
  | ask q next ih => exact ⟨hI s h.1, fun a t hc => ih a (h.2 a t hc)⟩

/-- **A sequence, part after part.** What the first part ends with is what the second begins with. -/
theorem bind {d : Dialogue Q A α} {f : α → Dialogue Q A β} {P' : β → σ → Prop} {s : σ}
    (h : d.Throughout c I P s) (hf : ∀ a t, I t → P a t → (f a).Throughout c I P' t) :
    (d >>= f).Throughout c I P' s := by
  induction d generalizing s with
  | done a => exact hf a s h.1 h.2
  | ask q next ih => exact ⟨h.1, fun a t hc => ih a (h.2 a t hc)⟩

/-- A question, and then the rest. -/
theorem call {q : Q} {f : A q → Dialogue Q A β} {P' : β → σ → Prop} {s : σ} (hI : I s)
    (hf : ∀ a t, c s q a t → (f a).Throughout c I P' t) :
    (Dialogue.call q >>= f).Throughout c I P' s :=
  ⟨hI, hf⟩

/-- The end of a dialogue. -/
theorem finish {a : α} {s : σ} (hI : I s) (hP : P a s) :
    (pure a : Dialogue Q A α).Throughout c I P s :=
  ⟨hI, hP⟩

/-- A sequence that a failure of its first part cuts short. -/
theorem except {d : ExceptT ε (Dialogue Q A) α} {f : α → ExceptT ε (Dialogue Q A) β}
    {R : Except ε α → σ → Prop} {P' : Except ε β → σ → Prop} {s : σ}
    (h : d.run.Throughout c I R s)
    (hok : ∀ a t, I t → R (.ok a) t → (f a).run.Throughout c I P' t)
    (herr : ∀ e t, I t → R (.error e) t → P' (.error e) t) :
    (d >>= f).run.Throughout c I P' s := by
  refine Throughout.bind h fun r t hI hr => ?_
  cases r with
  | ok a => exact hok a t hI hr
  | error e => exact ⟨hI, herr e t hI hr⟩

end Throughout

/-! ## What a dialogue preserves -/

/-- Begun where `I` holds, the dialogue passes only through states where it holds. -/
def Preserves (c : Conduct Q A σ) (I : σ → Prop) (d : Dialogue Q A α) : Prop :=
  ∀ s, I s → d.Throughout c I (fun _ => I) s

namespace Preserves

variable {c : Conduct Q A σ} {I : σ → Prop}

/-- A sequence preserves what its parts preserve. -/
theorem bind {d : Dialogue Q A α} {f : α → Dialogue Q A β} (hd : d.Preserves c I)
    (hf : ∀ a, (f a).Preserves c I) : (d >>= f).Preserves c I := fun s hs =>
  (hd s hs).bind fun a t _ ht => hf a t ht

/-- The end of a dialogue preserves everything. -/
theorem finish (a : α) : (pure a : Dialogue Q A α).Preserves c I := fun _ hs => .finish hs hs

end Preserves

/-! ## Questions of one kind -/

/-- The dialogue asks only questions of which `p` holds. -/
def Asks (p : Q → Prop) : Dialogue Q A α → Prop
  | done _ => True
  | ask q next => p q ∧ ∀ a, (next a).Asks p

namespace Asks

variable {p : Q → Prop}

/-- A sequence asks what its parts ask. -/
theorem bind {d : Dialogue Q A α} {f : α → Dialogue Q A β} (h : d.Asks p)
    (hf : ∀ a, (f a).Asks p) : (d >>= f).Asks p := by
  induction d with
  | done a => exact hf a
  | ask q next ih => exact ⟨h.1, fun a => ih a (h.2 a)⟩

/-- A question, and then the rest. -/
theorem call {q : Q} {f : A q → Dialogue Q A β} (hq : p q) (hf : ∀ a, (f a).Asks p) :
    (Dialogue.call q >>= f).Asks p :=
  ⟨hq, hf⟩

/-- The end of a dialogue. -/
theorem finish (a : α) : (pure a : Dialogue Q A α).Asks p := trivial

/-- Questions of one kind are also of a wider kind. -/
theorem mono {r : Q → Prop} {d : Dialogue Q A α} (h : d.Asks p) (hpr : ∀ q, p q → r q) :
    d.Asks r := by
  induction d with
  | done a => trivial
  | ask q next ih => exact ⟨hpr q h.1, fun a => ih a (h.2 a)⟩

/-- **What no such question ends, holds all along.** -/
theorem throughout {c : Conduct Q A σ} {I : σ → Prop} {d : Dialogue Q A α} (h : d.Asks p)
    (hc : ∀ s q a t, I s → p q → c s q a t → I t) {s : σ} (hI : I s) :
    d.Throughout c I (fun _ t => I t) s := by
  induction d generalizing s with
  | done a => exact ⟨hI, hI⟩
  | ask q next ih => exact ⟨hI, fun a t hs => ih a (h.2 a) (hc s q a t hI h.1 hs)⟩

end Asks

/-! ## Surroundings with others behind them -/

/-- Surroundings that answer each question by a dialogue with the ones behind them. -/
def delegated {R : Type} {B : R → Type} (answer : (q : Q) → Dialogue R B (A q)) (c : Conduct R B σ) :
    Conduct Q A σ := fun s q a t => (answer q).Ends c s a t

/-- What a dialogue can end with by way of those behind, it can end with. -/
theorem Ends.of_delegate {R : Type} {B : R → Type} {answer : (q : Q) → Dialogue R B (A q)}
    {c : Conduct R B σ} {d : Dialogue Q A α} {s t : σ} {a : α} (h : (d.delegate answer).Ends c s a t) :
    d.Ends (delegated answer c) s a t := by
  induction d generalizing s with
  | done b => exact h
  | ask q next ih =>
    obtain ⟨b, u, hq, hnext⟩ := Ends.of_bind h
    exact ⟨b, u, hq, ih b hnext⟩

/-! ## Surroundings without a choice -/

/-- Surroundings that answer by a function. -/
def answering (answer : (q : Q) → σ → A q × σ) : Conduct Q A σ := fun s q a t => answer q s = (a, t)

/-- **Carrying a dialogue on is one of its runs**, where `view` shows the states of other surroundings
    that could answer the same. -/
theorem ends_run {τ : Type} {c : Conduct Q A τ} {answer : (q : Q) → σ → A q × σ} (view : σ → τ)
    (I : σ → Prop)
    (hc : ∀ s q, I s → c (view s) q (answer q s).1 (view (answer q s).2) ∧ I (answer q s).2)
    (d : Dialogue Q A α) {s : σ} (hI : I s) :
    d.Ends c (view s) (d.run answer s).1 (view (d.run answer s).2) ∧ I (d.run answer s).2 := by
  induction d generalizing s with
  | done a => exact ⟨⟨rfl, rfl⟩, hI⟩
  | ask q next ih =>
    obtain ⟨hs, hI'⟩ := hc s q hI
    obtain ⟨hends, hlast⟩ := ih _ hI'
    exact ⟨⟨_, _, hs, hends⟩, hlast⟩

/-- Surroundings without a choice leave one run. -/
theorem ends_answering (answer : (q : Q) → σ → A q × σ) (d : Dialogue Q A α) (s : σ) :
    d.Ends (answering answer) s (d.run answer s).1 (d.run answer s).2 :=
  (ends_run id (fun _ => True) (fun _ _ _ => ⟨rfl, trivial⟩) d trivial).1

/-- What is shown of all runs is true of the one that surroundings without a choice leave. -/
theorem Throughout.run {answer : (q : Q) → σ → A q × σ} {I : σ → Prop} {P : α → σ → Prop}
    {d : Dialogue Q A α} {s : σ} (h : d.Throughout (answering answer) I P s) :
    P (d.run answer s).1 (d.run answer s).2 :=
  h.ends (ends_answering answer d s)

end Recap.Dialogue
