/-!
# Tags

A tag says whether a message is still part of the prompt as it stands or has been folded into a
summary, and into which.

## Contents
- `Level` — how far a message has been condensed.
- `Tag`, `Tag.active`, `Tag.summarized`, `Tag.isActive` — tags.
-/

namespace Recap

/-! ## Levels -/

/-- How far a message has been condensed: into the summary of a chunk, of a section, or of the whole
    story. -/
inductive Level where
  | chunk
  | passage
  | story
  deriving DecidableEq, Repr

namespace Level

/-- The number of a level. -/
def number : Level → UInt8
  | chunk => 1
  | passage => 2
  | story => 3

/-- The level of a number. -/
def ofNumber? (n : UInt8) : Option Level :=
  if n = 1 then some chunk else if n = 2 then some passage else if n = 3 then some story else none

/-- The name of a level. -/
def name : Level → String
  | chunk => "Chunk"
  | passage => "Section"
  | story => "Story"

/-- Why a number is not a level. -/
def refusal (n : UInt8) : String :=
  "Invalid compression level " ++ Nat.repr n.toNat ++ ": expected 1, 2 or 3"

/-- The number of a level gives it back. -/
@[simp] theorem ofNumber?_number (l : Level) : ofNumber? l.number = some l := by
  cases l <;> rfl

end Level

/-! ## Tags -/

/-- The state of one message, or of one of its swipes. -/
structure Tag where
  level : Option Level
  /-- The summary that stands for the message. -/
  summaryId : Option String
  /-- Whether the message itself goes into the prompt. -/
  included : Bool
  timestamp : Option Int64
  deriving DecidableEq, Repr

namespace Tag

/-- The tag of a message that no summary stands for. -/
def active : Tag := { level := none, summaryId := none, included := true, timestamp := none }

instance : Inhabited Tag := ⟨active⟩

/-- The tag of a message folded into a summary at the time `now`. -/
def summarized (level : Level) (summaryId : String) (now : Int64) : Tag :=
  { level := some level, summaryId := some summaryId, included := false, timestamp := some now }

/-- Whether no summary stands for the message. -/
def isActive (t : Tag) : Bool := t.level.isNone

@[simp] theorem isActive_active : active.isActive = true := rfl

@[simp] theorem isActive_summarized (l : Level) (s : String) (now : Int64) :
    (summarized l s now).isActive = false := rfl

end Tag

end Recap
