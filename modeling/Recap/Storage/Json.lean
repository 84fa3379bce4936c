import Recap.Storage.Basic
import Recap.Summary.Json
import Recap.Tag.Json

/-!
# Storage records as JSON

## Contents
- `InjectionSettings.read` — also read from settings, in whichever dialect they are written.
- `Storage.toJson`, `Storage.read` — the record; everything may be left out.
- `PromptBlock.toJson`, `PromptBlock.read` — everything must be given.
- `Status.toJson`.
-/

namespace Recap

open Json (Value)
open Record

/-! ## Where summaries go -/

/-- Reads a position from its number. -/
def Position.read : Reader Position := fun n => do
  let number ← word8 n
  match Position.ofNumber? number with
  | some position => return position
  | none => throw (.data (.refused (Position.refusal number)))

/-- Reads a role from its name. -/
def Role.read (d : Dialect) : Reader Role := choice d Role.named

/-- The settings, in the order they are written. -/
def InjectionSettings.toJson (s : InjectionSettings) : Value :=
  .object
    [("enabled", .bool s.enabled), ("position", .nat s.position.number.toNat),
      ("depth", .nat s.depth.toNat), ("scan", .bool s.scan), ("role", .string s.role.name)]

/-- The settings read so far. -/
structure InjectionSettings.Draft where
  enabled : Option Bool := none
  position : Option Position := none
  depth : Option UInt32 := none
  scan : Option Bool := none
  role : Option Role := none

/-- Injection settings; what is left out is standard. -/
def InjectionSettings.shape (d : Dialect) : Shape InjectionSettings.Draft InjectionSettings :=
  { name := "InjectionConfig"
    fields :=
      [(field "enabled" boolean (·.enabled) fun v p => { p with enabled := some v }).orDefault,
        (field "position" Position.read (·.position) fun v p =>
          { p with position := some v }).orDefault,
        (field "depth" word32 (·.depth) fun v p => { p with depth := some v }).orDefault,
        (field "scan" boolean (·.scan) fun v p => { p with scan := some v }).orDefault,
        (field "role" (Role.read d) (·.role) fun v p => { p with role := some v }).orDefault]
    blank := {}
    build := fun p =>
      let s := InjectionSettings.standard
      .ok
        { enabled := p.enabled.getD s.enabled, position := p.position.getD s.position
          depth := p.depth.getD s.depth, scan := p.scan.getD s.scan, role := p.role.getD s.role } }

/-- Reads injection settings. -/
def InjectionSettings.read (d : Dialect) : Reader InjectionSettings :=
  (InjectionSettings.shape d).read d

/-! ## Records -/

/-- The statistics, in the order they are written. -/
def Stats.toJson (s : Stats) : Value :=
  .object
    [("totalMessages", .nat s.totalMessages.toNat),
      ("summarizedMessages", .nat s.summarizedMessages.toNat),
      ("currentCompressionRatio", .float s.compressionRatio),
      ("lastCompactTime", .ofOption (fun t => .int t.toInt) s.lastCompactTime)]

/-- The statistics read so far. -/
structure Stats.Draft where
  totalMessages : Option UInt64 := none
  summarizedMessages : Option UInt64 := none
  compressionRatio : Option Float := none
  lastCompactTime : Option (Option Int64) := none

/-- Statistics; what is left out is zero. -/
def Stats.shape : Shape Stats.Draft Stats :=
  { name := "ChatStats"
    fields :=
      [(field "totalMessages" word64 (·.totalMessages) fun v p =>
          { p with totalMessages := some v }).orDefault,
        (field "summarizedMessages" word64 (·.summarizedMessages) fun v p =>
          { p with summarizedMessages := some v }).orDefault,
        (field "currentCompressionRatio" real (·.compressionRatio) fun v p =>
          { p with compressionRatio := some v }).orDefault,
        (field "lastCompactTime" (optional int64) (·.lastCompactTime) fun v p =>
          { p with lastCompactTime := some v }).orDefault]
    blank := {}
    build := fun p => .ok
      { totalMessages := p.totalMessages.getD 0, summarizedMessages := p.summarizedMessages.getD 0
        compressionRatio := p.compressionRatio.getD 0.0
        lastCompactTime := p.lastCompactTime.getD none } }

/-- Reads statistics. -/
def Stats.read : Reader Stats := Stats.shape.read Json.dialect

/-- The fields of a record, in the order they are written. -/
def Storage.fields (s : Storage) : List (String × Value) :=
  [("level1", s.level1.toJson), ("level2", s.level2.toJson), ("level3", s.level3.toJson),
    ("stats", s.stats.toJson), ("injection", s.injection.toJson)]

/-- A record. -/
def Storage.toJson (s : Storage) : Value := .object s.fields

/-- The fields of a record read so far. -/
structure Storage.Draft where
  level1 : Option Tier := none
  level2 : Option Tier := none
  level3 : Option Story := none
  stats : Option Stats := none
  injection : Option InjectionSettings := none

/-- Records; what is left out is as for a chat that was never compacted. -/
def Storage.shape : Shape Storage.Draft Storage :=
  { name := "ChatStorage"
    fields :=
      [(field "level1" Tier.read (·.level1) fun v p => { p with level1 := some v }).orDefault,
        (field "level2" Tier.read (·.level2) fun v p => { p with level2 := some v }).orDefault,
        (field "level3" Story.read (·.level3) fun v p => { p with level3 := some v }).orDefault,
        (field "stats" Stats.read (·.stats) fun v p => { p with stats := some v }).orDefault,
        (field "injection" (InjectionSettings.read Json.dialect) (·.injection) fun v p =>
          { p with injection := some v }).orDefault]
    blank := {}
    build := fun p => .ok
      { level1 := p.level1.getD .empty, level2 := p.level2.getD .empty, level3 := p.level3.getD .none
        stats := p.stats.getD .zero, injection := p.injection.getD .standard } }

/-- Reads a record. -/
def Storage.read : Reader Storage := Storage.shape.read Json.dialect

/-! ## Prompt texts -/

/-- A text for the prompt. -/
def PromptBlock.toJson (b : PromptBlock) : Value :=
  .object
    [("key", .string b.key), ("text", .string b.text), ("position", .nat b.position.number.toNat),
      ("depth", .nat b.depth.toNat), ("scan", .bool b.scan), ("role", .string b.role.name)]

/-- The fields read so far. -/
structure PromptBlock.Draft where
  key : Option String := none
  text : Option String := none
  position : Option Position := none
  depth : Option UInt32 := none
  scan : Option Bool := none
  role : Option Role := none

/-- Texts for the prompt. -/
def PromptBlock.shape : Shape PromptBlock.Draft PromptBlock :=
  { name := "PromptInjection"
    fields :=
      [field "key" string (·.key) fun v p => { p with key := some v },
        field "text" string (·.text) fun v p => { p with text := some v },
        field "position" Position.read (·.position) fun v p => { p with position := some v },
        field "depth" word32 (·.depth) fun v p => { p with depth := some v },
        field "scan" boolean (·.scan) fun v p => { p with scan := some v },
        field "role" (Role.read Json.dialect) (·.role) fun v p => { p with role := some v }]
    blank := {}
    build := fun p => do
      let key ← required "key" p.key
      let text ← required "text" p.text
      let position ← required "position" p.position
      let depth ← required "depth" p.depth
      let scan ← required "scan" p.scan
      let role ← required "role" p.role
      return { key, text, position, depth, scan, role } }

/-- Reads a text for the prompt. -/
def PromptBlock.read : Reader PromptBlock := PromptBlock.shape.read Json.dialect

/-! ## Status -/

/-- A status, its fields in the order they are written. -/
def Status.toJson (s : Status) : Value :=
  .object
    [("chatId", .string s.chatId), ("counts", s.counts.toJson),
      ("level1Summaries", .nat s.level1Summaries), ("level2Summaries", .nat s.level2Summaries),
      ("hasStorySummary", .bool s.hasStory), ("compressionRatio", .float s.compressionRatio),
      ("lastCompactTime", .ofOption (fun t => .int t.toInt) s.lastCompactTime),
      ("injectionEnabled", .bool s.injectionEnabled)]

end Recap
