import Recap.Decimal.Rounding

/-!
# Planning a pass

A pass works on the oldest messages that no summary stands for yet. It takes them in consecutive
chunks until a given share of them is covered. The first chunk is a full one even where that is more
than the share, but is not taken at all when fewer than half a chunk of messages are there.

## Contents
- `Plan` — the sizes of the chunks, in order.
- `laterChunks` — full chunks, and what is left.
- `planChunks` — the plan.
-/

namespace Recap

/-- The chunks of one pass. -/
structure Plan where
  /-- How many messages the pass is to cover. -/
  targetMessages : Nat
  /-- The sizes of consecutive chunks from the oldest message on. -/
  chunks : List Nat
  deriving DecidableEq, Repr

namespace Plan

/-- The number of chunks. -/
def totalBatches (p : Plan) : Nat := p.chunks.length

/-- The number of messages in all chunks. -/
def plannedMessages (p : Plan) : Nat := p.chunks.foldr (· + ·) 0

/-- Whether there is nothing to do. -/
def isEmpty (p : Plan) : Bool := p.chunks.isEmpty

end Plan

/-- Chunks of `size` messages, the last one smaller if need be, that cover `left` messages. -/
def laterChunks (size left : Nat) : List Nat :=
  if left = 0 ∨ size = 0 then []
  else min size left :: laterChunks size (left - min size left)
termination_by left
decreasing_by omega

/-- Whether `available` messages are less than half a chunk. Both numbers are compared as doubles. -/
def belowHalfChunk (available size : Nat) : Bool :=
  2 * Decimal.nearestDouble available < Decimal.nearestDouble size

/-- How many of `workingSet` messages a share of `percent` is; a share above 100 is all of them. -/
def targetOf (workingSet percent : Nat) : Nat := workingSet * min percent 100 / 100

/-- The plan for `workingSet` messages. A chunk has at least one message. -/
def planChunks (workingSet chunkSize percent : Nat) : Plan :=
  let size := max chunkSize 1
  let target := targetOf workingSet percent
  let first := min size workingSet
  { targetMessages := target
    chunks :=
      if target = 0 ∨ belowHalfChunk workingSet size = true then []
      else first :: laterChunks size (target - first) }

/-- Completion in percent, rounded down; no batches are zero percent. -/
def progressPercent (done total : Nat) : Nat :=
  if total = 0 then 0 else min done total * 100 / total

end Recap
