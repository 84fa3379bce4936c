/-!
# Chats

A chat is a list of messages with what its host knows about token usage. A message can have several
alternate replies, called swipes, one of which is shown.

## Contents
- `Message`, `Message.withSwipe`, `Message.activeSwipe` — messages and the swipe they show.
- `Chat`, `Chat.fillMissingIds` — chats, and ids for their messages.
- `Chat.find?` — the message with an id, one of the chat (`Chat.mem_of_find?`, `Chat.id_of_find?`).
-/

namespace Recap

/-! ## Messages -/

/-- One turn of a chat. -/
structure Message where
  /-- Identifies the message within its chat. -/
  id : String
  /-- Who speaks. -/
  name : String
  text : String
  isSystem : Bool
  /-- The swipe on display, if the host keeps track of swipes. -/
  swipeId : Option UInt64
  /-- How many swipes there are. -/
  swipeCount : UInt64
  deriving DecidableEq, Repr

namespace Message

/-- A message without content. -/
def blank : Message :=
  { id := "", name := "", text := "", isSystem := false, swipeId := none, swipeCount := 0 }

instance : Inhabited Message := ⟨blank⟩

/-- The message showing swipe `active` of `count`; there are at least enough swipes for that. -/
def withSwipe (m : Message) (active count : UInt64) : Message :=
  { m with swipeId := some active, swipeCount := max count (active + 1) }

/-- The swipe on display, if there is such a swipe. -/
def activeSwipe (m : Message) : Option UInt64 := m.swipeId.filter (· < m.swipeCount)

end Message

/-! ## Chats -/

/-- A conversation. Counts of tokens are the host's own; a window of size zero is unknown. -/
structure Chat where
  id : String
  maxContextTokens : UInt64
  contextTokens : UInt64
  systemPromptTokens : UInt64
  characterPromptTokens : UInt64
  messages : List Message
  deriving DecidableEq, Repr

namespace Chat

/-- A chat without messages. -/
def blank : Chat :=
  { id := "", maxContextTokens := 0, contextTokens := 0, systemPromptTokens := 0
    characterPromptTokens := 0, messages := [] }

instance : Inhabited Chat := ⟨blank⟩

/-- The message with an id: its own, or its position in the chat if it has none. -/
def fillId (index : Nat) (m : Message) : Message :=
  if m.id.isEmpty then { m with id := Nat.repr index } else m

/-- The chat with an id for every message. -/
def fillMissingIds (c : Chat) : Chat := { c with messages := c.messages.mapIdx fillId }

/-- The first message with that id. -/
def find? (c : Chat) (id : String) : Option Message := c.messages.find? (·.id == id)

/-- The message that is found under an id is one of the chat. -/
theorem mem_of_find? {c : Chat} {id : String} {m : Message} (hm : c.find? id = some m) :
    m ∈ c.messages :=
  List.mem_of_find?_eq_some hm

/-- The message that is found under an id has that id. -/
theorem id_of_find? {c : Chat} {id : String} {m : Message} (hm : c.find? id = some m) :
    m.id = id := by
  have h := List.find?_some hm
  simpa using h

end Chat

end Recap
