import Recap.Summary.Basic
import Recap.Tag.Store

/-!
# Storage records

What is kept for a chat besides its tags: the tiers of summaries, statistics, and where in the prompt
the summaries go.

## Contents
- `Position`, `Role`, `InjectionSettings` — where summaries go.
- `PromptBlock` — a text as it is handed to the host.
- `Stats`, `Storage` — the record.
- `Storage.refresh`, `Status` — statistics computed from the tags, and a view of them.
-/

namespace Recap

/-! ## Where summaries go -/

/-- The place of a text in the prompt. -/
inductive Position where
  | inPrompt
  | inChat
  | beforePrompt
  deriving DecidableEq, Repr

namespace Position

/-- The number of a position. -/
def number : Position → UInt8
  | inPrompt => 0
  | inChat => 1
  | beforePrompt => 2

/-- The position of a number. -/
def ofNumber? (n : UInt8) : Option Position :=
  if n = 0 then some inPrompt
  else if n = 1 then some inChat
  else if n = 2 then some beforePrompt
  else none

/-- The name of a position. -/
def name : Position → String
  | inPrompt => "InPrompt"
  | inChat => "InChat"
  | beforePrompt => "BeforePrompt"

/-- Why a number is not a position. -/
def refusal (n : UInt8) : String :=
  "Invalid injection position " ++ Nat.repr n.toNat ++ ": expected 0, 1 or 2"

/-- The number of a position gives it back. -/
@[simp] theorem ofNumber?_number (p : Position) : ofNumber? p.number = some p := by
  cases p <;> rfl

end Position

/-- On whose behalf a text is put into the prompt. -/
inductive Role where
  | system
  | user
  | assistant
  deriving DecidableEq, Repr

namespace Role

/-- The name of a role. -/
def name : Role → String
  | system => "system"
  | user => "user"
  | assistant => "assistant"

/-- All roles with their names. -/
def named : List (String × Role) :=
  [(system.name, system), (user.name, user), (assistant.name, assistant)]

/-- The role of a name in any mixture of cases. Only letters without accents have a lower case that
    occurs in a role's name. -/
def ofText? (s : String) : Option Role :=
  let lower := String.ofList (s.toList.map Char.toLower)
  (named.find? (·.1 == lower)).map (·.2)

/-- Why a text names no role. -/
def refusal (s : String) : String :=
  "Invalid role '" ++ s ++ "'. Valid values: system, user, assistant"

end Role

/-- How summaries are put into the prompt. -/
structure InjectionSettings where
  enabled : Bool
  position : Position
  depth : UInt32
  scan : Bool
  role : Role
  deriving DecidableEq, Repr

/-- Summaries go into the prompt, as a system text that is scanned. -/
def InjectionSettings.standard : InjectionSettings :=
  { enabled := true, position := .inPrompt, depth := 0, scan := true, role := .system }

instance : Inhabited InjectionSettings := ⟨.standard⟩

/-- A text for the host's prompt, under the key that the next text replaces it by. -/
structure PromptBlock where
  key : String
  /-- An empty text clears the place. -/
  text : String
  position : Position
  depth : UInt32
  scan : Bool
  role : Role
  deriving DecidableEq, Repr

/-! ## Records -/

/-- Numbers about a chat, as of their last computation. -/
structure Stats where
  totalMessages : UInt64
  summarizedMessages : UInt64
  /-- Tokens of first-tier summaries for each hundred summarized messages. -/
  compressionRatio : Float
  /-- The time of the last pass. -/
  lastCompactTime : Option Int64

/-- Nothing known. -/
def Stats.zero : Stats :=
  { totalMessages := 0, summarizedMessages := 0, compressionRatio := 0.0, lastCompactTime := none }

/-- The record of a chat. -/
structure Storage where
  level1 : Tier
  level2 : Tier
  level3 : Story
  stats : Stats
  injection : InjectionSettings

namespace Storage

/-- The record of a chat that was never compacted. -/
def fresh (injection : InjectionSettings) : Storage :=
  { level1 := .empty, level2 := .empty, level3 := .none, stats := .zero, injection }

instance : Inhabited Storage := ⟨fresh .standard⟩

/-- Whether any tier has something to tell. -/
def hasSummaries (s : Storage) : Bool := !s.level1.isEmpty || !s.level2.isEmpty || s.level3.isTold

/-! ## Statistics -/

/-- Tokens for each hundred of `summarized` messages; nothing when there are none. -/
def ratio (tokens : Nat) (summarized : UInt64) : Float :=
  if summarized > 0 then (UInt64.ofNat tokens).toFloat / (summarized.toFloat * 100.0) else 0.0

/-- The record with its statistics computed from counts. -/
def withCounts (s : Storage) (c : LevelCounts) : Storage :=
  let summarized := c.total - c.level0
  { s with stats :=
      { s.stats with
        totalMessages := c.total
        summarizedMessages := summarized
        compressionRatio := ratio s.level1.totalTokens summarized } }

/-- The record with its statistics computed from the chat's tags. -/
def refresh (s : Storage) (chat : Chat) (tags : TagStore) : Storage :=
  s.withCounts (tags.counts chat.messages)

end Storage

/-- A chat at a glance. -/
structure Status where
  chatId : String
  counts : LevelCounts
  level1Summaries : Nat
  level2Summaries : Nat
  hasStory : Bool
  compressionRatio : Float
  lastCompactTime : Option Int64
  injectionEnabled : Bool

/-- The state of a chat, its statistics computed anew. -/
def Status.of (chat : Chat) (storage : Storage) (tags : TagStore) : Status :=
  let refreshed := storage.refresh chat tags
  { chatId := chat.id
    counts := tags.counts chat.messages
    level1Summaries := storage.level1.length
    level2Summaries := storage.level2.length
    hasStory := storage.level3.isTold
    compressionRatio := refreshed.stats.compressionRatio
    lastCompactTime := storage.stats.lastCompactTime
    injectionEnabled := storage.injection.enabled }

end Recap
