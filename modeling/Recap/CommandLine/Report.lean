import Recap.Calendar
import Recap.Decimal.Style
import Recap.Engine.Config
import Recap.Machine.Path
import Recap.Settings.Basic
import Recap.Text.Shown

/-!
# What commands print

## Contents
- `lines`, `checkMark`, `warningMark`, `sparkleMark`, `bookMark` — texts in lines, and the signs before
  them.
- `outcomeReport`, `statusReport`, `settingsReport`, `warningReport`, `settingsCreatedReport`,
  `projectCreatedReport`, `projectFoundReport`, `usage` — what commands have to say.
-/

namespace Recap.CommandLine

open Machine (Path)

/-- Lines, each ended. -/
def lines (ls : List String) : String := String.join (ls.map (· ++ "\n"))

/-- A sign before what went well. -/
def checkMark : String := "✅ "

/-- A sign before a warning. -/
def warningMark : String := "⚠️  "

/-- A sign before something new. -/
def sparkleMark : String := "✨ "

/-- A sign before a chat. -/
def bookMark : String := "📖 "

/-! ## Passes -/

/-- Why a pass did nothing. -/
def describeSkip : SkipReason → String
  | .noChat => "no chat loaded"
  | .noStorage => "chat storage unavailable"
  | .nothingToCompact => "nothing to compact"
  | .alreadyRunning => "a compaction is already running"
  | .notTriggered => "not triggered"

/-- What became of a pass. -/
def outcomeReport : Outcome → List String
  | .skipped reason => ["Compaction skipped: " ++ describeSkip reason]
  | .completed r =>
    [checkMark ++ "Compacted " ++ Nat.repr r.messagesCompacted ++ " messages in " ++
      Nat.repr r.chunks ++ " chunks"] ++
    (if r.halted then
      [warningMark ++ "Summarizer failed; remaining messages were left uncompressed"] else [])

/-! ## Chats -/

/-- A time for readers. -/
def describeTime (millis : Option Int64) : String :=
  (millis.bind fun ms => (Moment.ofMillis ms.toInt).readable?).getD "never"

/-- The state of a chat. -/
def statusReport (s : Status) : List String :=
  ["", bookMark ++ "Chat " ++ s.chatId, "================================", "",
    "Messages: " ++ Nat.repr s.counts.total.toNat,
    "  Active:            " ++ Nat.repr s.counts.level0.toNat,
    "  Level 1:           " ++ Nat.repr s.counts.level1.toNat,
    "  Level 2:           " ++ Nat.repr s.counts.level2.toNat,
    "  Level 3:           " ++ Nat.repr s.counts.level3.toNat, "", "Summaries:",
    "  Chunk summaries:   " ++ Nat.repr s.level1Summaries,
    "  Chapter summaries: " ++ Nat.repr s.level2Summaries,
    "  Story summary:     " ++ (if s.hasStory then "yes" else "no"), "",
    "Compression ratio:   " ++ Decimal.fixedPlaces 2 s.compressionRatio,
    "Last compaction:     " ++ describeTime s.lastCompactTime,
    "Injection:           " ++ (if s.injectionEnabled then "enabled" else "disabled"), ""]

/-! ## Settings -/

/-- A truth value. -/
def describeBool (b : Bool) : String := if b then "true" else "false"

/-- A text between quotes. -/
def quoted (s : String) : String := "\"" ++ s ++ "\""

/-- The settings. -/
def settingsReport (s : Settings) : List String :=
  ["  enabled = " ++ describeBool s.enabled,
    "  auto_compact = " ++ describeBool s.autoCompact,
    "  compact_threshold = " ++ Nat.repr s.compactThreshold.toNat,
    "  context_threshold = " ++ Decimal.plain.write s.contextThreshold,
    "  level1_chunk_size = " ++ Nat.repr s.level1ChunkSize.toNat,
    "  level2_chunk_size = " ++ Nat.repr s.level2ChunkSize.toNat,
    "  target_compression = " ++ Nat.repr s.targetCompression.toNat,
    "  compression_profile_id = " ++ quoted s.compressionProfileId,
    "  debug_mode = " ++ describeBool s.debugMode,
    "  show_progress_bar = " ++ describeBool s.showProgressBar, "",
    "[summarizer]", "  kind = " ++ quoted s.summarizer.kind.name] ++
  (if s.summarizer.command.isEmpty then [] else
    ["  command = " ++ Text.shownList s.summarizer.command]) ++
  ["", "[injection]", "  enabled = " ++ describeBool s.injection.enabled,
    "  position = " ++ Nat.repr s.injection.position.number.toNat,
    "  depth = " ++ Nat.repr s.injection.depth.toNat,
    "  scan = " ++ describeBool s.injection.scan,
    "  role = " ++ quoted s.injection.role.name, ""]

/-- What looks wrong about the settings. -/
def warningReport (warnings : List String) : List String :=
  (if warnings.isEmpty then ["Configuration is valid."]
    else "Configuration warnings:" :: warnings.map ("  - " ++ ·)) ++ [""]

/-- That the settings are there now. -/
def settingsCreatedReport (path : Path) : List String :=
  ["Created chronicle.toml at " ++ path.text, "", "You can now customize:",
    "  - thresholds: compact_threshold, context_threshold", "  - [summarizer] kind, command",
    "  - [injection] position, depth, role", ""]

/-! ## Projects -/

/-- That there is a project now. -/
def projectCreatedReport (kept : Path) : List String :=
  [sparkleMark ++ "Initialized chronicle project at " ++ kept.text, "", "Created directory structure:",
    "  .chronicle/", "  ├── chronicle.toml   # Settings (use `chronicle config show`)",
    "  └── chats/           # Summaries and tags per chat", "", "Next steps:",
    "  1. Set [summarizer] in chronicle.toml or export CHRONICLE_SUMMARIZER_CMD",
    "  2. Run `chronicle compact --chat <file>` to summarize a chat",
    "  3. Run `chronicle context --chat <file>` to see the injected context"]

/-- That there was a project before. -/
def projectFoundReport (kept : Path) : List String :=
  ["Chronicle project already initialized at " ++ kept.text, "Directory structure verified."]

/-- How commands are used. -/
def usage : List String :=
  ["Tiered summarization for long-running chats", "",
    "Usage: chronicle [--verbose] [--project-dir DIR] COMMAND", "",
    "  init                            make a project",
    "  compact --chat FILE             summarize the oldest messages of a chat",
    "  auto --chat FILE                the same, if it is due",
    "  status --chat FILE [--json]     show the state of a chat",
    "  context --chat FILE             show what goes into the prompt",
    "  export --chat FILE [--output F] write the summaries of a chat",
    "  import --chat FILE INPUT        replace the summaries of a chat",
    "  config [show|validate|init]     show, check or make the settings"]

end Recap.CommandLine
