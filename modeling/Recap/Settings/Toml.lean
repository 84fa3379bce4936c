import Recap.Settings.Basic
import Recap.Storage.Json
import Recap.Toml.Document
import Recap.Toml.Printer

/-!
# Settings as TOML

## Contents
- `Settings.read`, `Settings.parse` — every key may be left out.
- `Settings.toToml` — all keys, the two tables last.
-/

namespace Recap

open Record

/-! ## Reading -/

/-- The summarizer settings read so far. -/
structure SummarizerSettings.Draft where
  kind : Option SummarizerKind := none
  form : Option StandIn := none
  command : Option (List String) := none

/-- Summarizer settings; what is left out is standard. -/
def SummarizerSettings.shape (d : Dialect) : Shape SummarizerSettings.Draft SummarizerSettings :=
  { name := "SummarizerSection"
    fields :=
      [(field "kind" (choice d SummarizerKind.named) (·.kind) fun v p =>
          { p with kind := some v }).orDefault,
        (field "fake_mode" (choice d StandIn.named) (·.form) fun v p =>
          { p with form := some v }).orDefault,
        (field "command" (list string) (·.command) fun v p => { p with command := some v }).orDefault]
    blank := {}
    build := fun p =>
      let s := SummarizerSettings.standard
      .ok
        { kind := p.kind.getD s.kind, form := p.form.getD s.form
          command := p.command.getD s.command } }

/-- The settings read so far. -/
structure Settings.Draft where
  enabled : Option Bool := none
  autoCompact : Option Bool := none
  compactThreshold : Option UInt64 := none
  contextThreshold : Option Float := none
  level1ChunkSize : Option UInt64 := none
  level2ChunkSize : Option UInt64 := none
  targetCompression : Option UInt32 := none
  compressionProfileId : Option String := none
  level1Prompt : Option String := none
  debugMode : Option Bool := none
  showProgressBar : Option Bool := none
  summarizer : Option SummarizerSettings := none
  injection : Option InjectionSettings := none

/-- Settings; what is left out is standard. -/
def Settings.shape (d : Dialect) : Shape Settings.Draft Settings :=
  { name := "Settings"
    fields :=
      [(field "enabled" boolean (·.enabled) fun v p => { p with enabled := some v }).orDefault,
        (field "auto_compact" boolean (·.autoCompact) fun v p =>
          { p with autoCompact := some v }).orDefault,
        (field "compact_threshold" word64 (·.compactThreshold) fun v p =>
          { p with compactThreshold := some v }).orDefault,
        (field "context_threshold" real (·.contextThreshold) fun v p =>
          { p with contextThreshold := some v }).orDefault,
        (field "level1_chunk_size" word64 (·.level1ChunkSize) fun v p =>
          { p with level1ChunkSize := some v }).orDefault,
        (field "level2_chunk_size" word64 (·.level2ChunkSize) fun v p =>
          { p with level2ChunkSize := some v }).orDefault,
        (field "target_compression" word32 (·.targetCompression) fun v p =>
          { p with targetCompression := some v }).orDefault,
        (field "compression_profile_id" string (·.compressionProfileId) fun v p =>
          { p with compressionProfileId := some v }).orDefault,
        (field "level1_prompt" string (·.level1Prompt) fun v p =>
          { p with level1Prompt := some v }).orDefault,
        (field "debug_mode" boolean (·.debugMode) fun v p => { p with debugMode := some v }).orDefault,
        (field "show_progress_bar" boolean (·.showProgressBar) fun v p =>
          { p with showProgressBar := some v }).orDefault,
        (field "summarizer" ((SummarizerSettings.shape d).read d) (·.summarizer) fun v p =>
          { p with summarizer := some v }).orDefault,
        (field "injection" (InjectionSettings.read d) (·.injection) fun v p =>
          { p with injection := some v }).orDefault]
    blank := {}
    build := fun p =>
      let s := Settings.standard
      .ok
        { enabled := p.enabled.getD s.enabled
          autoCompact := p.autoCompact.getD s.autoCompact
          compactThreshold := p.compactThreshold.getD s.compactThreshold
          contextThreshold := p.contextThreshold.getD s.contextThreshold
          level1ChunkSize := p.level1ChunkSize.getD s.level1ChunkSize
          level2ChunkSize := p.level2ChunkSize.getD s.level2ChunkSize
          targetCompression := p.targetCompression.getD s.targetCompression
          compressionProfileId := p.compressionProfileId.getD s.compressionProfileId
          level1Prompt := p.level1Prompt.getD s.level1Prompt
          debugMode := p.debugMode.getD s.debugMode
          showProgressBar := p.showProgressBar.getD s.showProgressBar
          summarizer := p.summarizer.getD s.summarizer
          injection := p.injection.getD s.injection } }

/-- Reads settings. -/
def Settings.read (d : Dialect) : Reader Settings := (Settings.shape d).read d

/-- The settings in a text. -/
def Settings.parse (text : String) : Except Fault Settings :=
  Toml.decode (Settings.read Toml.dialect) text

/-! ## Writing -/

/-- The settings as a text. -/
def Settings.toToml (s : Settings) : String :=
  String.join
    [Toml.entry "enabled" (Toml.writeBool s.enabled),
      Toml.entry "auto_compact" (Toml.writeBool s.autoCompact),
      Toml.entry "compact_threshold" (Nat.repr s.compactThreshold.toNat),
      Toml.entry "context_threshold" (Toml.writeFloat s.contextThreshold),
      Toml.entry "level1_chunk_size" (Nat.repr s.level1ChunkSize.toNat),
      Toml.entry "level2_chunk_size" (Nat.repr s.level2ChunkSize.toNat),
      Toml.entry "target_compression" (Nat.repr s.targetCompression.toNat),
      Toml.entry "compression_profile_id" (Toml.quote s.compressionProfileId),
      Toml.entry "level1_prompt" (Toml.quote s.level1Prompt),
      Toml.entry "debug_mode" (Toml.writeBool s.debugMode),
      Toml.entry "show_progress_bar" (Toml.writeBool s.showProgressBar),
      "\n[summarizer]\n",
      Toml.entry "kind" (Toml.quote s.summarizer.kind.name),
      Toml.entry "fake_mode" (Toml.quote s.summarizer.form.name),
      Toml.entry "command" (Toml.writeArray s.summarizer.command),
      "\n[injection]\n",
      Toml.entry "enabled" (Toml.writeBool s.injection.enabled),
      Toml.entry "position" (Nat.repr s.injection.position.number.toNat),
      Toml.entry "depth" (Nat.repr s.injection.depth.toNat),
      Toml.entry "scan" (Toml.writeBool s.injection.scan),
      Toml.entry "role" (Toml.quote s.injection.role.name)]

end Recap
