import Recap.Proofs.Dialogue.Stepwise

/-!
# Dialogues that take turns

Several dialogues are carried on by the same surroundings at the same time. Each of them is suspended at
its open question; at any moment the question of any one of them can be the next to be answered, and the
others wait. A `Thread` is one of these dialogues at a moment, with what it has asked and heard so far,
and a `Turn` is one answer. All interleavings are all sequences of turns (`Turns`).

## Contents
- `Thread`, `Turn`, `Turns` — dialogues that take turns.
- `Turn.own`, `Turn.others` — a turn is that of one thread.
- `Hears` — a turn with its question and its answer.
- `noting`, `alsoNoting`, `alsoNoted` — notes of what was asked and heard.
- `Thread.notes`, `Turns.noted` — what can be read off what a thread has asked and heard.
- `takeTurns`, `turns_takeTurns`, `hears_takeTurns` — turns in an order that is given beforehand.
-/

namespace Recap.Dialogue

open Relation (ReflTransGen)

variable {Q : Type} {A : Q → Type} {α σ τ : Type}

/-! ## Turns -/

/-- A dialogue among others. -/
structure Thread (Q : Type) (A : Q → Type) (α : Type) where
  /-- What it has asked and heard, oldest first. -/
  log : List ((q : Q) × A q)
  /-- What is left of it. -/
  rest : Dialogue Q A α

namespace Thread

/-- A dialogue before its first question. -/
def start (d : Dialogue Q A α) : Thread Q A α := { log := [], rest := d }

/-- The thread, its question being answered. -/
def hear (t : Thread Q A α) (q : Q) (a : A q) (rest : Dialogue Q A α) : Thread Q A α :=
  { log := t.log ++ [⟨q, a⟩], rest }

/-- The result, once nothing is left. -/
def result? (t : Thread Q A α) : Option α :=
  match t.rest with
  | done a => some a
  | ask _ _ => none

theorem result?_eq_some {t : Thread Q A α} {a : α} : t.result? = some a ↔ t.rest = done a := by
  obtain ⟨log, rest⟩ := t
  cases rest with
  | done b => simp [result?]
  | ask q next => simp [result?]

/-- The question that the thread is suspended at, unless nothing is left. -/
def open? (t : Thread Q A α) : Option Q :=
  match t.rest with
  | done _ => none
  | ask q _ => some q

theorem open?_eq_some {t : Thread Q A α} {q : Q} : t.open? = some q ↔ ∃ next, t.rest = ask q next := by
  obtain ⟨log, rest⟩ := t
  cases rest with
  | done b => simp [open?]
  | ask q' next =>
    constructor
    · intro h
      obtain rfl := Option.some.inj h
      exact ⟨next, rfl⟩
    · rintro ⟨next', h⟩
      exact congrArg some (Dialogue.ask.inj h).1

end Thread

/-- The question of thread `i` is answered. -/
inductive Turn (c : Conduct Q A σ) (i : Nat) :
    List (Thread Q A α) × σ → List (Thread Q A α) × σ → Prop where
  | answered {ts : List (Thread Q A α)} {t : Thread Q A α} {q : Q} {next : A q → Dialogue Q A α}
      {a : A q} {s s' : σ} (ht : ts[i]? = some t) (hq : t.rest = ask q next) (hc : c s q a s') :
      Turn c i (ts, s) (ts.set i (t.hear q a (next a)), s')

/-- Any number of turns, each of any thread. -/
abbrev Turns (c : Conduct Q A σ) :
    List (Thread Q A α) × σ → List (Thread Q A α) × σ → Prop :=
  ReflTransGen fun x y => ∃ i, Turn c i x y

section Set

variable {ts : List (Thread Q A α)} {t t' u : Thread Q A α} {i j : Nat}

/-- The thread whose turn it is has changed. -/
theorem Turn.own (ht : ts[i]? = some t) : (ts.set i t')[i]? = some t' := by
  rw [List.getElem?_set_self (List.getElem?_eq_some_iff.mp ht).1]

/-- The others have not. -/
theorem Turn.others (hij : i ≠ j) : (ts.set i t')[j]? = ts[j]? := List.getElem?_set_ne hij

/-- A thread after a turn is the one whose turn it was, or one from before. -/
theorem Turn.cases_getElem? (hu : (ts.set i t')[j]? = some u) :
    j = i ∧ u = t' ∨ j ≠ i ∧ ts[j]? = some u := by
  by_cases hij : i = j
  · subst hij
    have hlt : i < ts.length := by
      have := (List.getElem?_eq_some_iff.mp hu).1
      rwa [List.length_set] at this
    rw [List.getElem?_set_self hlt] at hu
    exact .inl ⟨rfl, (Option.some.inj hu).symm⟩
  · rw [List.getElem?_set_ne hij] at hu
    exact .inr ⟨fun h => hij h.symm, hu⟩

end Set

/-- Thread `i` asks `q` and hears `a`. -/
def Hears (c : Conduct Q A σ) (i : Nat) (q : Q) (a : A q) (x y : List (Thread Q A α) × σ) : Prop :=
  ∃ t next, x.1[i]? = some t ∧ t.rest = ask q next ∧ c x.2 q a y.2 ∧
    y.1 = x.1.set i (t.hear q a (next a))

/-! ## Notes -/

/-- Surroundings that answer in any way and take notes. -/
def noting (f : τ → (q : Q) → A q → τ) : Conduct Q A τ := fun n q a n' => n' = f n q a

/-- Questions of which nothing is noted leave the notes as they are. -/
theorem Asks.unnoted {f : τ → (q : Q) → A q → τ} {p : Q → Prop} {d : Dialogue Q A α} (h : d.Asks p)
    (hp : ∀ n q a, p q → f n q a = n) (n : τ) :
    d.Throughout (noting f) (· = n) (fun _ n' => n' = n) n := by
  refine h.throughout (fun n' q a n'' hn' hq hn => ?_) rfl
  rw [hn, hn', hp n q a hq]

/-- Surroundings of any kind that take notes besides. -/
def alsoNoted (c : Conduct Q A σ) (f : τ → (q : Q) → A q → τ) : Conduct Q A (σ × τ) :=
  fun s q a t => c s.1 q a t.1 ∧ t.2 = f s.2 q a

/-- A run with notes is a run without them, and the notes are notes of a run. -/
theorem Ends.of_alsoNoted {c : Conduct Q A σ} {f : τ → (q : Q) → A q → τ} {d : Dialogue Q A α}
    {s t : σ × τ} {a : α} (h : d.Ends (alsoNoted c f) s a t) :
    d.Ends c s.1 a t.1 ∧ d.Ends (noting f) s.2 a t.2 := by
  induction d generalizing s with
  | done b =>
    obtain ⟨rfl, rfl⟩ := h
    exact ⟨⟨rfl, rfl⟩, rfl, rfl⟩
  | ask q next ih =>
    obtain ⟨b, u, ⟨hc, hf⟩, hnext⟩ := h
    obtain ⟨hends, hnotes⟩ := ih b hnext
    exact ⟨⟨b, u.1, hc, hends⟩, b, u.2, hf, hnotes⟩

/-- **Of every run notes can be taken.** -/
theorem Ends.alsoNoted {c : Conduct Q A σ} {d : Dialogue Q A α} {s t : σ} {a : α} (h : d.Ends c s a t)
    (f : τ → (q : Q) → A q → τ) (n : τ) : ∃ n', d.Ends (alsoNoted c f) (s, n) a (t, n') := by
  induction d generalizing s n with
  | done b =>
    obtain ⟨rfl, rfl⟩ := h
    exact ⟨n, rfl, rfl⟩
  | ask q next ih =>
    obtain ⟨b, u, hc, hnext⟩ := h
    obtain ⟨n', hn'⟩ := ih b hnext (f n q b)
    exact ⟨n', b, (u, f n q b), ⟨hc, rfl⟩, hn'⟩

/-- Surroundings that answer by a function, and take notes besides. -/
def alsoNoting (answer : (q : Q) → σ → A q × σ) (f : τ → (q : Q) → A q → τ) (q : Q) (s : σ × τ) :
    A q × σ × τ :=
  ((answer q s.1).1, (answer q s.1).2, f s.2 q (answer q s.1).1)

/-- Notes do not make a difference to what is noted. -/
theorem run_alsoNoting (answer : (q : Q) → σ → A q × σ) (f : τ → (q : Q) → A q → τ) (d : Dialogue Q A α)
    (s : σ × τ) : (d.run (alsoNoting answer f) s).1 = (d.run answer s.1).1 ∧
      (d.run (alsoNoting answer f) s).2.1 = (d.run answer s.1).2 := by
  induction d generalizing s with
  | done a => exact ⟨rfl, rfl⟩
  | ask q next ih => exact ih _ _

/-- Carrying a dialogue on with notes is one of its runs with notes, where `view` shows the states of
    other surroundings that could answer the same. -/
theorem ends_run_alsoNoting {ρ : Type} {c : Conduct Q A ρ} {answer : (q : Q) → σ → A q × σ}
    (view : σ → ρ) (I : σ → Prop)
    (hc : ∀ s q, I s → c (view s) q (answer q s).1 (view (answer q s).2) ∧ I (answer q s).2)
    (f : τ → (q : Q) → A q → τ) (d : Dialogue Q A α) {s : σ} (hI : I s) (n : τ) :
    d.Ends (alsoNoted c f) (view s, n) (d.run answer s).1
        (view (d.run answer s).2, (d.run (alsoNoting answer f) (s, n)).2.2) ∧ I (d.run answer s).2 := by
  obtain ⟨hresult, hstate⟩ := run_alsoNoting answer f d (s, n)
  rw [← hresult, ← hstate]
  refine ends_run (c := Dialogue.alsoNoted c f) (fun x : σ × τ => (view x.1, x.2)) (fun x => I x.1) ?_ d
    (s := (s, n)) hI
  intro x q hx
  obtain ⟨hstep, hI'⟩ := hc x.1 q hx
  exact ⟨⟨hstep, rfl⟩, hI'⟩

/-- Their notes are notes of a run. -/
theorem ends_alsoNoting (answer : (q : Q) → σ → A q × σ) (f : τ → (q : Q) → A q → τ) (d : Dialogue Q A α)
    (s : σ × τ) :
    d.Ends (noting f) s.2 (d.run (alsoNoting answer f) s).1 (d.run (alsoNoting answer f) s).2.2 :=
  (ends_run Prod.snd (fun _ => True) (fun _ _ _ => ⟨rfl, trivial⟩) d trivial).1

/-- The notes that can be taken of what a thread has asked and heard. -/
def Thread.notes (f : τ → (q : Q) → A q → τ) (n : τ) (t : Thread Q A α) : τ :=
  t.log.foldl (fun n e => f n e.1 e.2) n

theorem Thread.notes_hear (f : τ → (q : Q) → A q → τ) (n : τ) (t : Thread Q A α) (q : Q) (a : A q)
    (rest : Dialogue Q A α) : (t.hear q a rest).notes f n = f (t.notes f n) q a := by
  unfold Thread.notes Thread.hear
  rw [List.foldl_append]
  rfl

/-- **Among others a thread is carried on as by itself**, with answers that can be any. -/
theorem Turns.noted {c : Conduct Q A σ} (f : τ → (q : Q) → A q → τ) (n : τ)
    {x y : List (Thread Q A α) × σ} (h : Turns c x y) {i : Nat} {t : Thread Q A α} (ht : x.1[i]? = some t) :
    ∃ t', y.1[i]? = some t' ∧
      ReflTransGen (Goes (noting f)) (t.rest, t.notes f n) (t'.rest, t'.notes f n) := by
  induction h with
  | refl => exact ⟨t, ht, .refl⟩
  | tail _ hturn ih =>
    obtain ⟨t₁, ht₁, hrun⟩ := ih
    obtain ⟨j, hturn⟩ := hturn
    cases hturn with
    | @answered ts u q next a s s' hu hq hc =>
      by_cases hij : j = i
      · subst hij
        obtain rfl := Option.some.inj (hu.symm.trans ht₁)
        refine ⟨_, Turn.own hu, hrun.tail ?_⟩
        rw [Thread.notes_hear, hq]
        exact .answered rfl
      · exact ⟨t₁, (Turn.others hij).trans ht₁, hrun⟩

/-! ## Turns in a given order -/

/-- Gives turns in the order of the list. A thread that has ended lets its turns pass. -/
def takeTurns (answer : (q : Q) → σ → A q × σ) :
    List Nat → List (Thread Q A α) × σ → List (Thread Q A α) × σ
  | [], x => x
  | i :: order, (ts, s) =>
    match ts[i]? with
    | some ⟨log, ask q next⟩ =>
      takeTurns answer order (ts.set i (Thread.hear ⟨log, ask q next⟩ q (answer q s).1
        (next (answer q s).1)), (answer q s).2)
    | _ => takeTurns answer order (ts, s)

/-- Turns in a given order are turns, where `view` shows the states of other surroundings that could
    answer the same. -/
theorem turns_takeTurns {c : Conduct Q A τ} {answer : (q : Q) → σ → A q × σ} (view : σ → τ)
    (I : σ → Prop)
    (hc : ∀ s q, I s → c (view s) q (answer q s).1 (view (answer q s).2) ∧ I (answer q s).2)
    (order : List Nat) (ts : List (Thread Q A α)) {s : σ} (hI : I s) :
    Turns c (ts, view s)
      ((takeTurns answer order (ts, s)).1, view (takeTurns answer order (ts, s)).2) := by
  induction order generalizing ts s with
  | nil => exact .refl
  | cons i order ih =>
    rw [takeTurns]
    split
    · rename_i log q next ht
      obtain ⟨hanswer, hI'⟩ := hc s q hI
      exact .head ⟨i, .answered ht rfl hanswer⟩ (ih _ hI')
    · exact ih _ hI

/-- One turn of a thread that has something left to ask. -/
theorem hears_takeTurns {c : Conduct Q A τ} {answer : (q : Q) → σ → A q × σ} (view : σ → τ)
    {ts : List (Thread Q A α)} {s : σ} {i : Nat} {t : Thread Q A α} {q : Q} {next : A q → Dialogue Q A α}
    (ht : ts[i]? = some t) (hq : t.rest = ask q next)
    (hc : c (view s) q (answer q s).1 (view (answer q s).2)) :
    Hears c i q (answer q s).1 (ts, view s)
      ((takeTurns answer [i] (ts, s)).1, view (takeTurns answer [i] (ts, s)).2) := by
  obtain ⟨log, rest⟩ := t
  cases hq
  refine ⟨_, next, ht, rfl, ?_, ?_⟩ <;> rw [takeTurns, ht]
  · exact hc
  · rfl

end Recap.Dialogue
