import Recap.Ids
import Recap.Machine.FileTree

/-!
# Machines in memory

A machine whose files are a tree in memory, whose clock stands still, and which keeps what is printed. Which
programs there are on it is left open: a program that is started can leave other files behind than it found.

## Contents
- `Installed`, `Memory` — the machine, and the programs on it.
- `Memory.answer`, `Memory.run` — its answers, and dialogues carried on with it.
-/

namespace Recap.Machine

/-- The programs of a machine. What becomes of one that is started depends on the directory that programs run
    in, on the time, and on the files; what is left is what it leaves behind, and the files then. -/
abbrev Installed := Invocation → (home : Path) → (clock : Int) → FileTree → Except Fault Ending × FileTree

/-- No programs. -/
def Installed.none : Installed := fun _ _ _ tree => (.error .notFound, tree)

/-- A machine in memory. -/
structure Memory where
  /-- The absolute path of the directory that programs run in. -/
  home : Path
  tree : FileTree
  clock : Int
  ids : Ids
  printed : String
  complaints : String
  programs : Installed := .none

namespace Memory

/-- The place where programs run. -/
def base (m : Memory) : List String := m.home.place

/-- Changes the tree. -/
def change (m : Memory) (tree? : Except Fault FileTree) : Except Fault Unit × Memory :=
  match tree? with
  | .ok tree => (.ok (), { m with tree })
  | .error fault => (.error fault, m)

/-- Keeps what is written to where programs print or complain. -/
def keepWritten (m : Memory) (p : Path) (text : String) : Memory :=
  match m.tree.find? m.base p with
  | some (.device .output) => { m with printed := m.printed ++ text }
  | some (.device .errors) => { m with complaints := m.complaints ++ text }
  | _ => m

/-- Writes a text. Ids that were drawn are in use from then on. -/
def writeText (m : Memory) (p : Path) (text : String) : Except Fault Unit × Memory :=
  match m.change (m.tree.writeText m.base p text) with
  | (.ok (), m') => (.ok (), { m'.keepWritten p text with ids := m.ids.keep })
  | failed => failed

/-- Starts a program. -/
def start (m : Memory) (i : Invocation) : Except Fault Ending × Memory :=
  let (ended, tree) := m.programs i m.home m.clock m.tree
  (ended, { m with tree })

/-- The answer to a question. -/
def answer : (c : Call) → Memory → c.Answer × Memory
  | .now, m => (.ofInt m.clock, m)
  | .freshId, m => let (id, ids) := m.ids.draw; (id, { m with ids })
  | .isThere p, m => ((m.tree.find? m.base p).isSome, m)
  | .readText p, m => (m.tree.readText m.base p, m)
  | .writeText p text, m => m.writeText p text
  | .makeDirectories p, m => m.change (m.tree.makeDirectories m.base p)
  | .removeFile p, m => m.change (m.tree.removeFile m.base p)
  | .start i, m => m.start i
  | .print text, m => ((), { m with printed := m.printed ++ text })
  | .complain text, m => ((), { m with complaints := m.complaints ++ text })

/-- Carries a dialogue on with the machine. -/
def run {α : Type} (d : Running α) (m : Memory) : α × Memory := Dialogue.run answer d m

/-- The machine as a new program finds it: nothing is printed yet, and ids that nothing was written
    with are free again. -/
def restart (m : Memory) (clock : Int) : Memory :=
  { m with clock, ids := m.ids.release, printed := "", complaints := "" }

end Memory

end Recap.Machine
