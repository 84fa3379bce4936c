import Recap.Json.Document
import Recap.Json.Value
import Recap.Summary.Basic

/-!
# Summaries as JSON

## Contents
- `Summary.toJson`, `Summary.read` — summaries; every field must be given.
- `Tier.toJson`, `Tier.read`, `Story.toJson`, `Story.read` — tiers and the story, empty by default.
-/

namespace Recap

open Json (Value)
open Record

/-! ## Summaries -/

/-- The fields of a summary, in the order they are written. -/
def Summary.toJson (s : Summary) : Value :=
  .object
    [("id", .string s.id), ("startMessageIndex", .nat s.startIndex.toNat),
      ("endMessageIndex", .nat s.endIndex.toNat), ("text", .string s.text),
      ("timestamp", .int s.timestamp.toInt), ("tokenCount", .nat s.tokenCount.toNat)]

/-- The fields of a summary read so far. -/
structure Summary.Draft where
  id : Option String := none
  startIndex : Option UInt64 := none
  endIndex : Option UInt64 := none
  text : Option String := none
  timestamp : Option Int64 := none
  tokenCount : Option UInt64 := none

/-- Summaries. -/
def Summary.shape : Shape Summary.Draft Summary :=
  { name := "Summary"
    fields :=
      [field "id" string (·.id) fun v p => { p with id := some v },
        field "startMessageIndex" word64 (·.startIndex) fun v p => { p with startIndex := some v },
        field "endMessageIndex" word64 (·.endIndex) fun v p => { p with endIndex := some v },
        field "text" string (·.text) fun v p => { p with text := some v },
        field "timestamp" int64 (·.timestamp) fun v p => { p with timestamp := some v },
        field "tokenCount" word64 (·.tokenCount) fun v p => { p with tokenCount := some v }]
    blank := {}
    build := fun p => do
      let id ← required "id" p.id
      let startIndex ← required "startMessageIndex" p.startIndex
      let endIndex ← required "endMessageIndex" p.endIndex
      let text ← required "text" p.text
      let timestamp ← required "timestamp" p.timestamp
      let tokenCount ← required "tokenCount" p.tokenCount
      return { id, startIndex, endIndex, text, timestamp, tokenCount } }

/-- Reads a summary. -/
def Summary.read : Reader Summary := Summary.shape.read Json.dialect

/-! ## Tiers and the story -/

/-- A tier. -/
def Tier.toJson (t : Tier) : Value :=
  .object [("summaries", .array (t.summaries.map Summary.toJson))]

/-- Tiers; the summaries may be left out. -/
def Tier.shape : Shape (Option (List Summary)) Tier :=
  { name := "SummaryTier"
    fields := [(field "summaries" (list Summary.read) id fun v _ => some v).orDefault]
    blank := none
    build := fun p => .ok { summaries := p.getD [] } }

/-- Reads a tier. -/
def Tier.read : Reader Tier := Tier.shape.read Json.dialect

/-- The story. -/
def Story.toJson (s : Story) : Value := .object [("summary", .ofOption .string s.summary)]

/-- The story; its text may be left out. -/
def Story.shape : Shape (Option (Option String)) Story :=
  { name := "Level3"
    fields := [(field "summary" (optional string) id fun v _ => some v).orDefault]
    blank := .none
    build := fun p => .ok { summary := p.getD .none } }

/-- Reads the story. -/
def Story.read : Reader Story := Story.shape.read Json.dialect

end Recap
