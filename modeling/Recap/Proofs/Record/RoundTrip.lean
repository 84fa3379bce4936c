import Recap.Chat.Json
import Recap.Proofs.Record.Written
import Recap.Storage.Json

/-!
# Records come back as they were written

Every record that is kept is written as JSON in one of two layouts and read back from it as it was: messages
and chats, tags and stores of them under any message ids and swipe numbers, counts, and prompt blocks. No
text inside a record can get in the way, since all of them are escaped; a field that is left out when it is
empty is read as empty; and maps are written in the order of their keys, which is the order in which they are
kept (`persisted_records_round_trip`).

Storage records hold a double, which is read from its digits, and are not among them
(`Recap.Proofs.Storage.Export`).

## Contents
- `Message.read_toJson`, `Chat.read_toJson` — messages and chats.
- `Tag.read_toJson`, `TagStore.read_toJson`, `LevelCounts.read_toJson` — tags.
- `PromptBlock.read_toJson` — prompt blocks.
- `RoundTrips` — both layouts are read back, and writing again changes nothing.
- `persisted_records_round_trip` — all of them round trip.
-/

namespace Recap

open Json (Value decode)
open Record

/-! ## Messages and chats -/

theorem Message.read_toJson (m : Message) : Message.read m.toJson.node = .ok m := by
  obtain ⟨id, name, text, isSystem, swipeId, swipeCount⟩ := m
  cases swipeId with
  | none =>
      -- a swipe that is not tracked has no entry
      refine Shape.read_object (q := ⟨some id, some name, some text, some isSystem, none, some swipeCount⟩)
        ?_ rfl
      exact .entry rfl rfl rfl (string_written id) <|
        .entry rfl rfl rfl (string_written name) <|
        .entry rfl rfl rfl (string_written text) <|
        .entry rfl rfl rfl (boolean_written isSystem) <|
        .entry rfl rfl rfl (word64_written swipeCount) <| .nil _
  | some s =>
      have hswipe : optional word64 (Value.nat s.toNat).node = .ok (some s) :=
        optional_written (fun s => int_node_ne_null s.toNat) word64_written (some s)
      refine Shape.read_object
        (q := ⟨some id, some name, some text, some isSystem, some (some s), some swipeCount⟩) ?_ rfl
      exact .entry rfl rfl rfl (string_written id) <|
        .entry rfl rfl rfl (string_written name) <|
        .entry rfl rfl rfl (string_written text) <|
        .entry rfl rfl rfl (boolean_written isSystem) <|
        .entry rfl rfl rfl hswipe <|
        .entry rfl rfl rfl (word64_written swipeCount) <| .nil _

theorem Chat.read_toJson (c : Chat) : Chat.read c.toJson.node = .ok c := by
  obtain ⟨id, maxContextTokens, contextTokens, systemPromptTokens, characterPromptTokens, messages⟩ := c
  have hmessages : list Message.read (Value.array (messages.map Message.toJson)).node = .ok messages :=
    list_written fun m _ => m.read_toJson
  refine Shape.read_object
    (q := ⟨some id, some maxContextTokens, some contextTokens, some systemPromptTokens,
      some characterPromptTokens, some messages⟩) ?_ rfl
  exact .entry rfl rfl rfl (string_written id) <|
    .entry rfl rfl rfl (word64_written maxContextTokens) <|
    .entry rfl rfl rfl (word64_written contextTokens) <|
    .entry rfl rfl rfl (word64_written systemPromptTokens) <|
    .entry rfl rfl rfl (word64_written characterPromptTokens) <|
    .entry rfl rfl rfl hmessages <| .nil _

/-! ## Tags -/

theorem Level.read_written (l : Level) : Level.read (Value.nat l.number.toNat).node = .ok l := by
  rw [Level.read, word8_written]
  cases l <;> rfl

theorem Tag.read_toJson (t : Tag) : Tag.read t.toJson.node = .ok t := by
  obtain ⟨level, summaryId, included, timestamp⟩ := t
  have hlevel : optional Level.read (Value.ofOption (fun l => .nat l.number.toNat) level).node =
      .ok level :=
    optional_written (fun l => int_node_ne_null l.number.toNat) Level.read_written level
  have hsummary : optional string (Value.ofOption .string summaryId).node = .ok summaryId :=
    optional_written string_node_ne_null string_written summaryId
  have htimestamp : optional int64 (Value.ofOption (fun i => .int i.toInt) timestamp).node =
      .ok timestamp :=
    optional_written (fun i => int_node_ne_null i.toInt) int64_written timestamp
  refine Shape.read_object (q := ⟨some level, some summaryId, some included, some timestamp⟩) ?_ rfl
  exact .entry rfl rfl rfl hlevel <|
    .entry rfl rfl rfl hsummary <|
    .entry rfl rfl rfl (boolean_written included) <|
    .entry rfl rfl rfl htimestamp <| .nil _

theorem swipesToJson_read (m : SortedMap UInt64 Tag) :
    indexMap Tag.read (swipesToJson m).node = .ok m :=
  indexMap_written Tag.read_toJson m

theorem TagStore.read_toJson (s : TagStore) : TagStore.read s.toJson.node = .ok s := by
  obtain ⟨tags, swipes⟩ := s
  have htags : textMap Tag.read (Value.object (tags.entries.map fun e => (e.1, e.2.toJson))).node =
      .ok tags :=
    textMap_written Tag.read_toJson tags
  have hswipes : textMap (indexMap Tag.read)
      (Value.object (swipes.entries.map fun e => (e.1, swipesToJson e.2))).node = .ok swipes :=
    textMap_written swipesToJson_read swipes
  cases hempty : swipes.isEmpty with
  | true =>
      -- swipes are left out when there are none
      have hnone : swipes = .empty := SortedMap.ext (List.isEmpty_iff.mp hempty)
      rw [TagStore.toJson, hempty]
      refine Shape.read_object (q := ⟨some tags, none⟩) ?_ (by rw [hnone]; rfl)
      exact .entry rfl rfl rfl htags <| .nil _
  | false =>
      rw [TagStore.toJson, hempty]
      refine Shape.read_object (q := ⟨some tags, some swipes⟩) ?_ rfl
      exact .entry rfl rfl rfl htags <|
        .entry rfl rfl rfl hswipes <| .nil _

theorem LevelCounts.read_toJson (c : LevelCounts) : LevelCounts.read c.toJson.node = .ok c := by
  obtain ⟨total, level0, level1, level2, level3⟩ := c
  refine Shape.read_object (q := ⟨some total, some level0, some level1, some level2, some level3⟩) ?_ rfl
  exact .entry rfl rfl rfl (word64_written total) <|
    .entry rfl rfl rfl (word64_written level0) <|
    .entry rfl rfl rfl (word64_written level1) <|
    .entry rfl rfl rfl (word64_written level2) <|
    .entry rfl rfl rfl (word64_written level3) <| .nil _

/-! ## Prompt blocks -/

theorem Position.read_written (p : Position) :
    Position.read (Value.nat p.number.toNat).node = .ok p := by
  rw [Position.read, word8_written]
  cases p <;> rfl

theorem Role.read_written (r : Role) : Role.read Json.dialect (Value.string r.name).node = .ok r := by
  rw [Value.node]
  cases r <;> rfl

theorem PromptBlock.read_toJson (b : PromptBlock) : PromptBlock.read b.toJson.node = .ok b := by
  obtain ⟨key, text, position, depth, scan, role⟩ := b
  refine Shape.read_object
    (q := ⟨some key, some text, some position, some depth, some scan, some role⟩) ?_ rfl
  exact .entry rfl rfl rfl (string_written key) <|
    .entry rfl rfl rfl (string_written text) <|
    .entry rfl rfl rfl (Position.read_written position) <|
    .entry rfl rfl rfl (word32_written depth) <|
    .entry rfl rfl rfl (boolean_written scan) <|
    .entry rfl rfl rfl (Role.read_written role) <| .nil _

/-! ## Texts -/

/-- A record comes back from both of its texts, and whatever text a record was read from, the texts that are
    written for it are read as the same record. -/
structure RoundTrips {α : Type} (r : Reader α) (w : α → Value) : Prop where
  compact : ∀ a, decode r (w a).compact = .ok a
  pretty : ∀ a, decode r (w a).pretty = .ok a
  compact_again : ∀ text, ((decode r text).bind fun a => decode r (w a).compact) = decode r text
  pretty_again : ∀ text, ((decode r text).bind fun a => decode r (w a).pretty) = decode r text

/-- It is enough that the tree of a record is read as the record. -/
theorem RoundTrips.of_node {α : Type} {r : Reader α} {w : α → Value}
    (h : ∀ a, r (w a).node = .ok a) : RoundTrips r w := by
  have hcompact : ∀ a, decode r (w a).compact = .ok a := fun a => by rw [decode_compact, h]
  have hpretty : ∀ a, decode r (w a).pretty = .ok a := fun a => by rw [decode_pretty, h]
  refine ⟨hcompact, hpretty, ?_, ?_⟩
  · intro text
    cases decode r text with
    | error e => rfl
    | ok a => exact hcompact a
  · intro text
    cases decode r text with
    | error e => rfl
    | ok a => exact hpretty a

/-- **Every record that is kept comes back as it was written**, in either layout. -/
theorem persisted_records_round_trip :
    RoundTrips Message.read Message.toJson ∧ RoundTrips Chat.read Chat.toJson ∧
      RoundTrips Tag.read Tag.toJson ∧ RoundTrips TagStore.read TagStore.toJson ∧
      RoundTrips LevelCounts.read LevelCounts.toJson ∧
      RoundTrips PromptBlock.read PromptBlock.toJson :=
  ⟨.of_node Message.read_toJson, .of_node Chat.read_toJson, .of_node Tag.read_toJson,
    .of_node TagStore.read_toJson, .of_node LevelCounts.read_toJson,
    .of_node PromptBlock.read_toJson⟩

end Recap
