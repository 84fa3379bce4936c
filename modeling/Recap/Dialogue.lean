/-!
# Dialogues

A dialogue is a computation that asks its surroundings questions and goes on with their answers. It
is a tree: at each node a question, below it one branch for every answer. Nothing happens by itself,
so a dialogue can be left suspended at any question, carried on by different surroundings, or
interleaved with others.

## Contents
- `Dialogue`, `Dialogue.bind` — dialogues and their sequence.
- `Dialogue.run`, `Dialogue.carryOn` — carry a dialogue on to its end, the surroundings being a state, or
  having effects.
- `Dialogue.delegate` — answers the questions of one kind by dialogues of another kind.
-/

namespace Recap

/-- A computation that asks questions `Q` and is answered in `A`. -/
inductive Dialogue (Q : Type) (A : Q → Type) (α : Type) : Type where
  /-- The end, with a result. -/
  | done (a : α)
  /-- A question, and how each answer is taken. -/
  | ask (q : Q) (next : A q → Dialogue Q A α)

namespace Dialogue

variable {Q : Type} {A : Q → Type} {α β : Type}

/-! ## Sequences -/

/-- First `d`, then what `f` makes of its result. -/
def bind : Dialogue Q A α → (α → Dialogue Q A β) → Dialogue Q A β
  | done a, f => f a
  | ask q next, f => ask q fun answer => (next answer).bind f

instance : Monad (Dialogue Q A) where
  pure := done
  bind := bind

/-- A single question. -/
def call (q : Q) : Dialogue Q A (A q) := ask q done

/-! ## Carrying on to the end -/

/-- Carries a dialogue on, each question being answered from a state that it may change. -/
def run {σ : Type} (answer : (q : Q) → σ → A q × σ) : Dialogue Q A α → σ → α × σ
  | done a, s => (a, s)
  | ask q next, s =>
    let (a, s') := answer q s
    (next a).run answer s'

/-- A sequence is carried on one part after the other. -/
theorem run_bind {σ : Type} (answer : (q : Q) → σ → A q × σ) (d : Dialogue Q A α)
    (f : α → Dialogue Q A β) (s : σ) :
    (d.bind f).run answer s = (f (d.run answer s).1).run answer (d.run answer s).2 := by
  induction d generalizing s with
  | done a => rfl
  | ask q next ih => exact ih (answer q s).1 (answer q s).2

/-- Carries a dialogue on where answers have effects. -/
def carryOn {m : Type → Type} [Monad m] (answer : (q : Q) → m (A q)) : Dialogue Q A α → m α
  | done a => pure a
  | ask q next => answer q >>= fun a => (next a).carryOn answer

/-! ## Other surroundings -/

/-- Answers each question by a dialogue with other surroundings. -/
def delegate {R : Type} {B : R → Type} (answer : (q : Q) → Dialogue R B (A q)) :
    Dialogue Q A α → Dialogue R B α
  | done a => .done a
  | ask q next => (answer q).bind fun a => (next a).delegate answer

end Dialogue

end Recap
