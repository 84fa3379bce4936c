/-!
# Summaries and tiers

A summary stands for a stretch of messages. Summaries of one tier are kept in the order they were
written, their times never going back.

## Contents
- `Summary`, `Tier`, `Story` — summaries, their tiers, and the summary of everything.
- `Tier.append` — adds a summary at the end, no earlier than the last.
-/

namespace Recap

/-- A text that stands for the messages of a chat from `startIndex` to `endIndex`. -/
structure Summary where
  id : String
  startIndex : UInt64
  endIndex : UInt64
  text : String
  /-- When it was written, in milliseconds. -/
  timestamp : Int64
  /-- What it costs in a prompt. -/
  tokenCount : UInt64
  deriving DecidableEq, Repr

/-- Summaries of the same breadth, oldest first. -/
structure Tier where
  summaries : List Summary
  deriving DecidableEq, Repr

/-- The summary of the whole story. -/
structure Story where
  summary : Option String
  deriving DecidableEq, Repr

namespace Tier

/-- A tier without summaries. -/
def empty : Tier := { summaries := [] }

instance : Inhabited Tier := ⟨empty⟩

/-- The summary with a time no earlier than `last`. -/
def notBefore (last : Option Summary) (s : Summary) : Summary :=
  match last with
  | some l => { s with timestamp := max s.timestamp l.timestamp }
  | none => s

/-- Adds a summary at the end. A time before that of the last summary becomes the last one's. -/
def append (t : Tier) (s : Summary) : Tier :=
  { summaries := t.summaries ++ [notBefore t.summaries.getLast? s] }

/-- The number of summaries. -/
def length (t : Tier) : Nat := t.summaries.length

/-- Whether there is no summary. -/
def isEmpty (t : Tier) : Bool := t.summaries.isEmpty

/-- The cost of a list of summaries. -/
def cost (ss : List Summary) : Nat := ss.foldr (fun s n => s.tokenCount.toNat + n) 0

/-- The cost of all summaries. -/
def totalTokens (t : Tier) : Nat := cost t.summaries

end Tier

/-- No story yet. -/
def Story.none : Story := { summary := .none }

/-- The text of the story, if there is one. -/
def Story.text? (s : Story) : Option String := s.summary.filter (!·.isEmpty)

/-- Whether there is a story. -/
def Story.isTold (s : Story) : Bool := s.text?.isSome

end Recap
