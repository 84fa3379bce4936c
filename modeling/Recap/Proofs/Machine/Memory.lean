import Recap.Machine.Memory.Basic
import Recap.Proofs.Machine.FileTree

/-!
# Carrying tasks on with a machine in memory

## Contents
- `Memory.run_ask`, `Memory.run_bind`, `Memory.run_attempt`, `Memory.run_attempt_bind` — a task is carried on
  one question after the other, and ends with the first that is refused.
- `Memory.writeText_refused`, `Memory.exists_writeText` — a text is refused, or it is in the tree of files
  afterwards.
-/

namespace Recap.Machine.Memory

variable {ε α β : Type}

/-! ## One question after the other -/

theorem run_ask (c : Call) (f : c.Answer → Task ε β) (m : Memory) :
    m.run (Task.ask c >>= f).run = (answer c m).2.run (f (answer c m).1).run := rfl

theorem run_bind (t : Task ε α) (f : α → Task ε β) (m : Memory) :
    m.run (t >>= f).run =
      match m.run t.run with
      | (.ok a, m') => m'.run (f a).run
      | (.error e, m') => (.error e, m') := by
  show Dialogue.run answer (Dialogue.bind t.run (ExceptT.bindCont f)) m = _
  rw [Dialogue.run_bind]
  unfold run
  rcases Dialogue.run answer t.run m with ⟨_ | _, _⟩ <;> rfl

theorem run_attempt (d : Running (Except Fault α)) (failure : Fault → ε) (m : Memory) :
    m.run (Task.attempt d failure).run =
      match m.run d with
      | (.ok a, m') => (.ok a, m')
      | (.error fault, m') => (.error (failure fault), m') := by
  show Dialogue.run answer (Dialogue.bind d _) m = _
  rw [Dialogue.run_bind]
  unfold run
  rcases Dialogue.run answer d m with ⟨_ | _, _⟩ <;> rfl

theorem run_attempt_bind (d : Running (Except Fault α)) (failure : Fault → ε) (f : α → Task ε β)
    (m : Memory) :
    m.run (Task.attempt d failure >>= f).run =
      match m.run d with
      | (.ok a, m') => m'.run (f a).run
      | (.error fault, m') => (.error (failure fault), m') := by
  rw [run_bind, run_attempt]
  rcases m.run d with ⟨_ | _, _⟩ <;> rfl

/-! ## Texts -/

variable {m : Memory} {p : Path} {text : String}

theorem writeText_refused {fault : Fault} (h : m.tree.writeText m.base p text = .error fault) :
    m.writeText p text = (.error fault, m) := by
  rw [writeText, h]
  rfl

/-- A text that is taken is in the tree of files, and the machine runs where it ran. -/
theorem exists_writeText {tree : FileTree} (h : m.tree.writeText m.base p text = .ok tree) :
    ∃ m', m.writeText p text = (.ok (), m') ∧ m'.tree = tree ∧ m'.home = m.home := by
  have hkeep : ∀ m' : Memory,
      (m'.keepWritten p text).tree = m'.tree ∧ (m'.keepWritten p text).home = m'.home := by
    intro m'
    unfold keepWritten
    split <;> exact ⟨rfl, rfl⟩
  obtain ⟨htree, hhome⟩ := hkeep { m with tree }
  rw [writeText, h]
  exact ⟨_, rfl, htree, hhome⟩

end Recap.Machine.Memory
