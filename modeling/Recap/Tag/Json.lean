import Recap.Json.Document
import Recap.Json.Value
import Recap.Tag.Store

/-!
# Tags as JSON

## Contents
- `Level.read`, `Tag.toJson`, `Tag.read` — tags; whether the message is included must be given.
- `TagStore.toJson`, `TagStore.read` — stores; message ids in ascending order, swipes left out when
  there are none.
- `LevelCounts.toJson`, `LevelCounts.read` — counts; all of them must be given.
-/

namespace Recap

open Json (Value)
open Record

/-! ## Tags -/

/-- Reads a level from its number. -/
def Level.read : Reader Level := fun n => do
  let number ← word8 n
  match Level.ofNumber? number with
  | some level => return level
  | none => throw (.data (.refused (Level.refusal number)))

/-- The fields of a tag, in the order they are written. -/
def Tag.toJson (t : Tag) : Value :=
  .object
    [("compressionLevel", .ofOption (fun l => .nat l.number.toNat) t.level),
      ("summaryId", .ofOption .string t.summaryId),
      ("included", .bool t.included),
      ("timestamp", .ofOption (fun i => .int i.toInt) t.timestamp)]

/-- The fields of a tag read so far. -/
structure Tag.Draft where
  level : Option (Option Level) := none
  summaryId : Option (Option String) := none
  included : Option Bool := none
  timestamp : Option (Option Int64) := none

/-- Tags. -/
def Tag.shape : Shape Tag.Draft Tag :=
  { name := "CompressionTag"
    fields :=
      [field "compressionLevel" (optional Level.read) (·.level) fun v p => { p with level := some v },
        field "summaryId" (optional string) (·.summaryId) fun v p => { p with summaryId := some v },
        field "included" boolean (·.included) fun v p => { p with included := some v },
        field "timestamp" (optional int64) (·.timestamp) fun v p => { p with timestamp := some v }]
    blank := {}
    build := fun p => do
      let included ← required "included" p.included
      return { level := p.level.getD none, summaryId := p.summaryId.getD none, included
               timestamp := p.timestamp.getD none } }

/-- Reads a tag. -/
def Tag.read : Reader Tag := Tag.shape.read Json.dialect

/-! ## Stores -/

/-- The tags of the swipes of one message. -/
def swipesToJson (m : SortedMap UInt64 Tag) : Value :=
  .object (m.entries.map fun e => (Nat.repr e.1.toNat, e.2.toJson))

/-- The fields of a store, in the order they are written. -/
def TagStore.toJson (s : TagStore) : Value :=
  .object <|
    ("tags", .object (s.tags.entries.map fun e => (e.1, e.2.toJson))) ::
    (if s.swipes.isEmpty then []
      else [("swipes", .object (s.swipes.entries.map fun e => (e.1, swipesToJson e.2)))])

/-- The fields of a store read so far. -/
structure TagStore.Draft where
  tags : Option (SortedMap String Tag) := none
  swipes : Option (SortedMap String (SortedMap UInt64 Tag)) := none

/-- Stores; both fields may be left out. -/
def TagStore.shape : Shape TagStore.Draft TagStore :=
  { name := "TagStore"
    fields :=
      [(field "tags" (textMap Tag.read) (·.tags) fun v p => { p with tags := some v }).orDefault,
        (field "swipes" (textMap (indexMap Tag.read)) (·.swipes) fun v p =>
          { p with swipes := some v }).orDefault]
    blank := {}
    build := fun p => .ok { tags := p.tags.getD .empty, swipes := p.swipes.getD .empty } }

/-- Reads a store. -/
def TagStore.read : Reader TagStore := TagStore.shape.read Json.dialect

/-! ## Counts -/

/-- The counts, in the order they are written. -/
def LevelCounts.toJson (c : LevelCounts) : Value :=
  .object
    [("total", .nat c.total.toNat), ("level0", .nat c.level0.toNat), ("level1", .nat c.level1.toNat),
      ("level2", .nat c.level2.toNat), ("level3", .nat c.level3.toNat)]

/-- The counts read so far. -/
structure LevelCounts.Draft where
  total : Option UInt64 := none
  level0 : Option UInt64 := none
  level1 : Option UInt64 := none
  level2 : Option UInt64 := none
  level3 : Option UInt64 := none

/-- Counts. -/
def LevelCounts.shape : Shape LevelCounts.Draft LevelCounts :=
  { name := "LevelCounts"
    fields :=
      [field "total" word64 (·.total) fun v p => { p with total := some v },
        field "level0" word64 (·.level0) fun v p => { p with level0 := some v },
        field "level1" word64 (·.level1) fun v p => { p with level1 := some v },
        field "level2" word64 (·.level2) fun v p => { p with level2 := some v },
        field "level3" word64 (·.level3) fun v p => { p with level3 := some v }]
    blank := {}
    build := fun p => do
      let total ← required "total" p.total
      let level0 ← required "level0" p.level0
      let level1 ← required "level1" p.level1
      let level2 ← required "level2" p.level2
      let level3 ← required "level3" p.level3
      return { total, level0, level1, level2, level3 } }

/-- Reads counts. -/
def LevelCounts.read : Reader LevelCounts := LevelCounts.shape.read Json.dialect

end Recap
