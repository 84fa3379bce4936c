import Recap.Chat.Basic
import Recap.Json.Document
import Recap.Json.Value

/-!
# Chats as JSON

## Contents
- `Message.toJson`, `Message.read` — messages; the text may also be called `mes`.
- `Chat.toJson`, `Chat.read` — chats. Every field may be left out.
-/

namespace Recap

open Json (Value)
open Record

/-! ## Messages -/

/-- The fields of a message, in the order they are written. A swipe that is not tracked is left out. -/
def Message.toJson (m : Message) : Value :=
  .object <|
    [("id", .string m.id), ("name", .string m.name), ("text", .string m.text),
      ("is_system", .bool m.isSystem)] ++
    (match m.swipeId with
      | some s => [("swipe_id", .nat s.toNat)]
      | none => []) ++
    [("swipe_count", .nat m.swipeCount.toNat)]

/-- The fields of a message read so far. -/
structure Message.Draft where
  id : Option String := none
  name : Option String := none
  text : Option String := none
  isSystem : Option Bool := none
  swipeId : Option (Option UInt64) := none
  swipeCount : Option UInt64 := none

/-- Messages; every field may be left out. -/
def Message.shape : Shape Message.Draft Message :=
  { name := "Message"
    fields :=
      [(field "id" string (·.id) fun v p => { p with id := some v }).orDefault,
        (field "name" string (·.name) fun v p => { p with name := some v }).orDefault,
        ((field "text" string (·.text) fun v p => { p with text := some v }).orDefault).alsoCalled "mes",
        (field "is_system" boolean (·.isSystem) fun v p => { p with isSystem := some v }).orDefault,
        (field "swipe_id" (optional word64) (·.swipeId) fun v p =>
          { p with swipeId := some v }).orDefault,
        (field "swipe_count" word64 (·.swipeCount) fun v p =>
          { p with swipeCount := some v }).orDefault]
    blank := {}
    build := fun p => .ok
      { id := p.id.getD "", name := p.name.getD "", text := p.text.getD ""
        isSystem := p.isSystem.getD false, swipeId := p.swipeId.getD none
        swipeCount := p.swipeCount.getD 0 } }

/-- Reads a message. -/
def Message.read : Reader Message := Message.shape.read Json.dialect

/-! ## Chats -/

/-- The fields of a chat, in the order they are written. -/
def Chat.toJson (c : Chat) : Value :=
  .object
    [("id", .string c.id), ("max_context_tokens", .nat c.maxContextTokens.toNat),
      ("context_tokens", .nat c.contextTokens.toNat),
      ("system_prompt_tokens", .nat c.systemPromptTokens.toNat),
      ("character_prompt_tokens", .nat c.characterPromptTokens.toNat),
      ("messages", .array (c.messages.map Message.toJson))]

/-- The fields of a chat read so far. -/
structure Chat.Draft where
  id : Option String := none
  maxContextTokens : Option UInt64 := none
  contextTokens : Option UInt64 := none
  systemPromptTokens : Option UInt64 := none
  characterPromptTokens : Option UInt64 := none
  messages : Option (List Message) := none

/-- Chats; every field may be left out. -/
def Chat.shape : Shape Chat.Draft Chat :=
  { name := "Chat"
    fields :=
      [(field "id" string (·.id) fun v p => { p with id := some v }).orDefault,
        (field "max_context_tokens" word64 (·.maxContextTokens) fun v p =>
          { p with maxContextTokens := some v }).orDefault,
        (field "context_tokens" word64 (·.contextTokens) fun v p =>
          { p with contextTokens := some v }).orDefault,
        (field "system_prompt_tokens" word64 (·.systemPromptTokens) fun v p =>
          { p with systemPromptTokens := some v }).orDefault,
        (field "character_prompt_tokens" word64 (·.characterPromptTokens) fun v p =>
          { p with characterPromptTokens := some v }).orDefault,
        (field "messages" (list Message.read) (·.messages) fun v p =>
          { p with messages := some v }).orDefault]
    blank := {}
    build := fun p => .ok
      { id := p.id.getD "", maxContextTokens := p.maxContextTokens.getD 0
        contextTokens := p.contextTokens.getD 0
        systemPromptTokens := p.systemPromptTokens.getD 0
        characterPromptTokens := p.characterPromptTokens.getD 0, messages := p.messages.getD [] } }

/-- Reads a chat. -/
def Chat.read : Reader Chat := Chat.shape.read Json.dialect

end Recap
