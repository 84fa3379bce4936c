import Recap.Proofs.Json.DoubleRange
import Recap.Proofs.Record.RoundTrip
import Recap.Storage.Export

/-!
# An export can be imported

A storage record comes back from what is written of it in every field but one: of the compression ratio, what
is read is what its digits are read as (`Storage.read_fields`). Whatever else stands in the object is passed
over, so the date and the chat's id of an export have no part in what is imported
(`import_undoes_export`).

## Contents
- `Story.read_toJson`, `Tier.read_toJson`, `InjectionSettings.read_toJson`, `Stats.read_toJson` — the parts.
- `Storage.read_fields`, `Storage.read_toJson` — the record, alone or among other entries.
- `import_undoes_export` — exports and imports.
-/

namespace Recap

open Json (Value decode writeFloat)
open Record

/-! ## The parts of a record -/

theorem Summary.read_toJson (s : Summary) : Summary.read s.toJson.node = .ok s := by
  obtain ⟨id, startIndex, endIndex, text, timestamp, tokenCount⟩ := s
  refine Shape.read_object
    (q := ⟨some id, some startIndex, some endIndex, some text, some timestamp, some tokenCount⟩) ?_ rfl
  exact .entry rfl rfl rfl (string_written id) <|
    .entry rfl rfl rfl (word64_written startIndex) <|
    .entry rfl rfl rfl (word64_written endIndex) <|
    .entry rfl rfl rfl (string_written text) <|
    .entry rfl rfl rfl (int64_written timestamp) <|
    .entry rfl rfl rfl (word64_written tokenCount) <| .nil _

theorem Tier.read_toJson (t : Tier) : Tier.read t.toJson.node = .ok t := by
  obtain ⟨summaries⟩ := t
  have hsummaries : list Summary.read (Value.array (summaries.map Summary.toJson)).node =
      .ok summaries :=
    list_written fun s _ => s.read_toJson
  refine Shape.read_object (q := some summaries) ?_ rfl
  exact .entry rfl rfl rfl hsummaries <| .nil _

theorem Story.read_toJson (s : Story) : Story.read s.toJson.node = .ok s := by
  obtain ⟨summary⟩ := s
  have hsummary : optional string (Value.ofOption .string summary).node = .ok summary :=
    optional_written string_node_ne_null string_written summary
  refine Shape.read_object (q := some summary) ?_ rfl
  exact .entry rfl rfl rfl hsummary <| .nil _

theorem InjectionSettings.read_toJson (s : InjectionSettings) :
    InjectionSettings.read Json.dialect s.toJson.node = .ok s := by
  obtain ⟨enabled, position, depth, scan, role⟩ := s
  refine Shape.read_object
    (q := ⟨some enabled, some position, some depth, some scan, some role⟩) ?_ rfl
  exact .entry rfl rfl rfl (boolean_written enabled) <|
    .entry rfl rfl rfl (Position.read_written position) <|
    .entry rfl rfl rfl (word32_written depth) <|
    .entry rfl rfl rfl (boolean_written scan) <|
    .entry rfl rfl rfl (Role.read_written role) <| .nil _

/-- A double is read as what its digits are read as. -/
theorem real_written (x : Float) : real (Value.float x).node = decode real (writeFloat x) := by
  have hcompact : (Value.float x).compact = writeFloat x := by
    rw [Value.compact, Value.compactChars, String.ofList_toList]
  rw [← hcompact, decode_compact]

/-- The digits of a finite double are read as a double. -/
theorem exists_real {x : Float} (h : x.isFinite = true) : ∃ y, decode real (writeFloat x) = .ok y := by
  obtain ⟨n, hn, -, hinteger, -⟩ := Json.exists_numeral_of_finite h
  obtain ⟨y, hy⟩ := Json.exists_toNode_of_finite h hn hinteger
  have hnode : Json.doubleNode x = n.toNode := by
    rw [Json.doubleNode, Json.doubleToken, hn]
    dsimp only
    rw [if_pos h]
  refine ⟨y, ?_⟩
  rw [← real_written, Value.node, hnode, hy]
  rfl

theorem Stats.read_toJson {s : Stats} {x : Float} (hx : decode real (writeFloat s.compressionRatio) = .ok x) :
    Stats.read s.toJson.node = .ok { s with compressionRatio := x } := by
  obtain ⟨totalMessages, summarizedMessages, compressionRatio, lastCompactTime⟩ := s
  have hratio : real (Value.float compressionRatio).node = .ok x := by rw [real_written, hx]
  have htime : optional int64 (Value.ofOption (fun t => .int t.toInt) lastCompactTime).node =
      .ok lastCompactTime :=
    optional_written (fun t => int_node_ne_null t.toInt) int64_written lastCompactTime
  refine Shape.read_object
    (q := ⟨some totalMessages, some summarizedMessages, some x, some lastCompactTime⟩) ?_ rfl
  exact .entry rfl rfl rfl (word64_written totalMessages) <|
    .entry rfl rfl rfl (word64_written summarizedMessages) <|
    .entry rfl rfl rfl hratio <|
    .entry rfl rfl rfl htime <| .nil _

/-! ## Records -/

/-- The record as it comes back: its compression ratio is what its digits are read as. -/
def Storage.withRatio (s : Storage) (x : Float) : Storage :=
  { s with stats := { s.stats with compressionRatio := x } }

/-- The entries of a record fill its draft. -/
theorem Storage.fills {s : Storage} {x : Float}
    (hx : decode real (writeFloat s.stats.compressionRatio) = .ok x) :
    Storage.shape.Fills {} s.fields
      ⟨some s.level1, some s.level2, some s.level3, some { s.stats with compressionRatio := x },
        some s.injection⟩ :=
  .entry rfl rfl rfl s.level1.read_toJson <|
  .entry rfl rfl rfl s.level2.read_toJson <|
  .entry rfl rfl rfl s.level3.read_toJson <|
  .entry rfl rfl rfl (Stats.read_toJson hx) <|
  .entry rfl rfl rfl s.injection.read_toJson <| .nil _

/-- **A record comes back from what is written of it**, up to the digits of its compression ratio. -/
theorem Storage.read_toJson {s : Storage} {x : Float}
    (hx : decode real (writeFloat s.stats.compressionRatio) = .ok x) :
    Storage.read s.toJson.node = .ok (s.withRatio x) :=
  Shape.read_object (Storage.fills hx) rfl

/-- It comes back from an export as well, whatever stands there as date and id. -/
theorem Storage.read_export {s : Storage} {x : Float} (date id : Value)
    (hx : decode real (writeFloat s.stats.compressionRatio) = .ok x) :
    Storage.read (Value.object (("exportDate", date) :: ("chatId", id) :: s.fields)).node =
      .ok (s.withRatio x) :=
  Shape.read_object (.skip rfl (.skip rfl (Storage.fills hx))) rfl

/-- **An import undoes an export** of every record with a finite ratio: it gives the record in every field,
    the ratio being what its digits are read as. The date and the id of the export have no part in it, whatever
    stands there. -/
theorem import_undoes_export (now : Int64) (chatId : String) (s : Storage)
    (hfinite : s.stats.compressionRatio.isFinite = true) :
    ∃ x, decode real (writeFloat s.stats.compressionRatio) = .ok x ∧
      importDocument (exportDocument now chatId s) = .ok (s.withRatio x) ∧
      ∀ date id : Value,
        importDocument
          (Value.object (("exportDate", date) :: ("chatId", id) :: s.fields)).pretty =
            .ok (s.withRatio x) := by
  obtain ⟨x, hx⟩ := exists_real hfinite
  have hwritten : ∀ date id : Value,
      importDocument (Value.object (("exportDate", date) :: ("chatId", id) :: s.fields)).pretty =
        .ok (s.withRatio x) := by
    intro date id
    rw [importDocument, decode_pretty, Storage.read_export date id hx]
  exact ⟨x, hx, hwritten _ _, hwritten⟩

/-- A record with a summary of a quote and a line break, and a ratio that has no exact decimal of few
    digits. -/
def Storage.quoted : Storage :=
  { level1 := { summaries := [⟨"1\"", 0, 3, "\u0001\n\\", -5, 2⟩] }
    level2 := .empty
    level3 := .none
    stats := { Stats.zero with compressionRatio := 1.0 / 3.0 }
    injection := .standard }

theorem import_undoes_export_quoted :
    Storage.quoted.stats.compressionRatio.isFinite = true ∧
      ∃ x, decode real (writeFloat Storage.quoted.stats.compressionRatio) = .ok x ∧
        importDocument (exportDocument 0 "" Storage.quoted) = .ok (Storage.quoted.withRatio x) := by
  have hfinite : Storage.quoted.stats.compressionRatio.isFinite = true := by decide +kernel
  obtain ⟨x, hx, himport, -⟩ := import_undoes_export 0 "" Storage.quoted hfinite
  exact ⟨hfinite, x, hx, himport⟩

end Recap
