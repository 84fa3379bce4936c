import Recap.Proofs.Toml.Record
import Recap.Settings.Toml

/-!
# Settings come back

Settings are written as a document of eleven entries and two tables (`Settings.layout`), in the order of their
fields, and read from it in the order of their keys. Texts may hold anything: whatever quotes are chosen for
them, they are read as they were. The threshold is written with the fewest digits that lie nearest to it, and the
double nearest to these is the threshold again. Only what is not a number does not come back, since it does not
equal itself.

## Contents
- `Settings.layout`, `Settings.toList_toToml`, `Settings.proper_layout` — what is written is a proper document.
- `SummarizerSettings.read_entries`, `InjectionSettings.read_entries`, `Settings.read_pairs` — its entries are
  read as the settings.
- `settings_round_trip` — settings come back as they were written.
-/

namespace Recap

open Record (boolean string real word32 word64 list)
open Toml (Entry Layout Item linesChars sorted readEntries_entry readEntries_nil)

/-! ## The document -/

/-- The entries of the summarizer settings as they are written, -/
def SummarizerSettings.entries (s : SummarizerSettings) : List Entry :=
  [.ofString "kind" s.kind.name, .ofString "fake_mode" s.form.name, .ofStrings "command" s.command]

/-- those of the injection settings, -/
def InjectionSettings.entries (s : InjectionSettings) : List Entry :=
  [.ofBool "enabled" s.enabled, .ofNat "position" s.position.number.toNat, .ofNat "depth" s.depth.toNat,
    .ofBool "scan" s.scan, .ofString "role" s.role.name]

/-- and the whole document. -/
def Settings.layout (s : Settings) : Layout where
  entries :=
    [.ofBool "enabled" s.enabled,
      .ofBool "auto_compact" s.autoCompact,
      .ofNat "compact_threshold" s.compactThreshold.toNat,
      .ofFloat "context_threshold" s.contextThreshold,
      .ofNat "level1_chunk_size" s.level1ChunkSize.toNat,
      .ofNat "level2_chunk_size" s.level2ChunkSize.toNat,
      .ofNat "target_compression" s.targetCompression.toNat,
      .ofString "compression_profile_id" s.compressionProfileId,
      .ofString "level1_prompt" s.level1Prompt,
      .ofBool "debug_mode" s.debugMode,
      .ofBool "show_progress_bar" s.showProgressBar]
  sections :=
    [{ name := "summarizer", entries := s.summarizer.entries },
      { name := "injection", entries := s.injection.entries }]

/-! ## Entries in order -/

/-- The entries of the summarizer settings in the order of their keys. -/
theorem SummarizerSettings.sorted_entries (kind form command : Item) :
    sorted [("kind", kind), ("fake_mode", form), ("command", command)] =
      [("command", command), ("fake_mode", form), ("kind", kind)] := by
  cbv

/-- The entries of the injection settings in the order of their keys. -/
theorem InjectionSettings.sorted_entries (enabled position depth scan role : Item) :
    sorted [("enabled", enabled), ("position", position), ("depth", depth), ("scan", scan),
        ("role", role)] =
      [("depth", depth), ("enabled", enabled), ("position", position), ("role", role),
        ("scan", scan)] := by
  cbv

/-- The entries of the settings in the order of their keys. -/
theorem Settings.sorted_pairs (enabled autoCompact compactThreshold contextThreshold level1ChunkSize
    level2ChunkSize targetCompression compressionProfileId level1Prompt debugMode showProgressBar
    summarizer injection : Item) :
    sorted [("enabled", enabled), ("auto_compact", autoCompact),
        ("compact_threshold", compactThreshold), ("context_threshold", contextThreshold),
        ("level1_chunk_size", level1ChunkSize), ("level2_chunk_size", level2ChunkSize),
        ("target_compression", targetCompression), ("compression_profile_id", compressionProfileId),
        ("level1_prompt", level1Prompt), ("debug_mode", debugMode),
        ("show_progress_bar", showProgressBar), ("summarizer", summarizer), ("injection", injection)] =
      [("auto_compact", autoCompact), ("compact_threshold", compactThreshold),
        ("compression_profile_id", compressionProfileId), ("context_threshold", contextThreshold),
        ("debug_mode", debugMode), ("enabled", enabled), ("injection", injection),
        ("level1_chunk_size", level1ChunkSize), ("level1_prompt", level1Prompt),
        ("level2_chunk_size", level2ChunkSize), ("show_progress_bar", showProgressBar),
        ("summarizer", summarizer), ("target_compression", targetCompression)] := by
  cbv

/-! ## What is read -/

/-- A position is read from its number. -/
theorem Position.read_item (p : Position) :
    Position.read (Item.integer (some p.number.toNat)).toNode = .ok p := by
  simp only [Position.read, Toml.word8_item, bind, Except.bind, Position.ofNumber?_number]
  rfl

/-- The summarizer settings are read from their entries. -/
theorem SummarizerSettings.read_entries (s : SummarizerSettings) :
    (SummarizerSettings.shape Toml.dialect).read Toml.dialect
      (Item.table .header (sorted (s.entries.map Entry.pair))).toNode = .ok s := by
  obtain ⟨kind, form, command⟩ := s
  have hkind : Record.choice Toml.dialect SummarizerKind.named (Item.string kind.name).toNode =
      .ok kind := Toml.choice_item (by cases kind <;> rfl)
  have hform : Record.choice Toml.dialect StandIn.named (Item.string form.name).toNode =
      .ok form := Toml.choice_item (by cases form <;> rfl)
  have hsorted : sorted ((SummarizerSettings.mk kind form command).entries.map Entry.pair) =
      [("command", .array (command.map .string)), ("fake_mode", .string form.name),
        ("kind", .string kind.name)] := SummarizerSettings.sorted_entries _ _ _
  rw [hsorted]
  refine Toml.read_table (q := ⟨some kind, some form, some command⟩) ?_ rfl
  exact readEntries_entry rfl rfl rfl (Toml.strings_item command) <|
    readEntries_entry rfl rfl rfl hform <|
    readEntries_entry rfl rfl rfl hkind <| readEntries_nil _ _

/-- The injection settings are read from their entries. -/
theorem InjectionSettings.read_entries (s : InjectionSettings) :
    InjectionSettings.read Toml.dialect
      (Item.table .header (sorted (s.entries.map Entry.pair))).toNode = .ok s := by
  obtain ⟨enabled, position, depth, scan, role⟩ := s
  have hrole : Role.read Toml.dialect (Item.string role.name).toNode = .ok role :=
    Toml.choice_item (by cases role <;> rfl)
  have hsorted :
      sorted ((InjectionSettings.mk enabled position depth scan role).entries.map Entry.pair) =
        [("depth", .integer (some depth.toNat)), ("enabled", .boolean enabled),
          ("position", .integer (some position.number.toNat)), ("role", .string role.name),
          ("scan", .boolean scan)] := InjectionSettings.sorted_entries _ _ _ _ _
  rw [hsorted]
  refine Toml.read_table (q := ⟨some enabled, some position, some depth, some scan, some role⟩) ?_ rfl
  exact readEntries_entry rfl rfl rfl (Toml.word32_item depth) <|
    readEntries_entry rfl rfl rfl (Toml.boolean_item enabled) <|
    readEntries_entry rfl rfl rfl (Position.read_item position) <|
    readEntries_entry rfl rfl rfl hrole <|
    readEntries_entry rfl rfl rfl (Toml.boolean_item scan) <| readEntries_nil _ _

/-- **All settings are read from their entries**, of which none is missing. -/
theorem Settings.read_pairs (s : Settings) :
    Settings.read Toml.dialect (.map (Toml.entryNodes (sorted s.layout.pairs)) .closed) = .ok s := by
  obtain ⟨enabled, autoCompact, compactThreshold, contextThreshold, level1ChunkSize, level2ChunkSize,
    targetCompression, compressionProfileId, level1Prompt, debugMode, showProgressBar, summarizer,
    injection⟩ := s
  have hnode : ∀ es, Record.Node.map (Toml.entryNodes es) .closed = (Item.table .header es).toNode :=
    fun es => by rw [Item.toNode]
  have hsorted := Settings.sorted_pairs (.boolean enabled) (.boolean autoCompact)
    (.integer (some compactThreshold.toNat)) (.float (some contextThreshold))
    (.integer (some level1ChunkSize.toNat)) (.integer (some level2ChunkSize.toNat))
    (.integer (some targetCompression.toNat)) (.string compressionProfileId) (.string level1Prompt)
    (.boolean debugMode) (.boolean showProgressBar)
    (.table .header (sorted (summarizer.entries.map Entry.pair)))
    (.table .header (sorted (injection.entries.map Entry.pair)))
  rw [hnode]
  refine Toml.read_table (q := ⟨some enabled, some autoCompact, some compactThreshold,
    some contextThreshold, some level1ChunkSize, some level2ChunkSize, some targetCompression,
    some compressionProfileId, some level1Prompt, some debugMode, some showProgressBar,
    some summarizer, some injection⟩) ?_ rfl
  refine (congrArg (fun es => (Settings.shape Toml.dialect).readEntries {} (Toml.entryNodes es))
    hsorted).trans ?_
  -- one entry after the other, in the order of the keys
  exact readEntries_entry rfl rfl rfl (Toml.boolean_item autoCompact) <|
    readEntries_entry rfl rfl rfl (Toml.word64_item compactThreshold) <|
    readEntries_entry rfl rfl rfl (Toml.string_item compressionProfileId) <|
    readEntries_entry rfl rfl rfl (Toml.real_item contextThreshold) <|
    readEntries_entry rfl rfl rfl (Toml.boolean_item debugMode) <|
    readEntries_entry rfl rfl rfl (Toml.boolean_item enabled) <|
    readEntries_entry rfl rfl rfl injection.read_entries <|
    readEntries_entry rfl rfl rfl (Toml.word64_item level1ChunkSize) <|
    readEntries_entry rfl rfl rfl (Toml.string_item level1Prompt) <|
    readEntries_entry rfl rfl rfl (Toml.word64_item level2ChunkSize) <|
    readEntries_entry rfl rfl rfl (Toml.boolean_item showProgressBar) <|
    readEntries_entry rfl rfl rfl summarizer.read_entries <|
    readEntries_entry rfl rfl rfl (Toml.word32_item targetCompression) <| readEntries_nil _ _

/-! ## What is written -/

/-- **The settings are written in the lines of their layout.** -/
theorem Settings.toList_toToml (s : Settings) : s.toToml.toList = linesChars s.layout.lines := by
  have hsummarizer : "\n[summarizer]\n".toList =
      Toml.Line.blank.chars ++ (Toml.Line.header "summarizer").chars := rfl
  have hinjection : "\n[injection]\n".toList =
      Toml.Line.blank.chars ++ (Toml.Line.header "injection").chars := rfl
  rw [Settings.toToml, Toml.toList_join, linesChars, Layout.lines]
  simp only [Settings.layout, SummarizerSettings.entries, InjectionSettings.entries, Entry.line,
    Toml.Section.lines, Entry.ofBool, Entry.ofNat, Entry.ofFloat, Entry.ofString, Entry.ofStrings,
    List.map_cons, List.map_nil, List.flatMap_cons, List.flatMap_nil,
    List.append_nil, List.nil_append, List.append_assoc, List.cons_append, ← Toml.toList_entry,
    hsummarizer, hinjection]

/-- The keys of the settings differ, and every value can be read. -/
theorem Settings.proper_layout {s : Settings} (h : s.contextThreshold.isNaN = false) :
    s.layout.Proper := by
  -- the reader takes integers of twice as many bits
  have hword : ∀ n : UInt64, n.toNat < 2 ^ 128 := fun n => by
    have := n.toNat_lt
    omega
  have hsummarizer : Toml.Section.Proper { name := "summarizer", entries := s.summarizer.entries } := by
    have hname : Toml.BareKey "summarizer" := .of_all rfl
    refine ⟨hname, ?_, ?_⟩
    · simp only [SummarizerSettings.entries, List.forall_mem_cons]
      exact ⟨Entry.proper_ofString (.of_all rfl) _, Entry.proper_ofString (.of_all rfl) _,
        Entry.proper_ofStrings (.of_all rfl) _, by simp⟩
    · show ["kind", "fake_mode", "command"].Nodup
      decide
  have hinjection : Toml.Section.Proper { name := "injection", entries := s.injection.entries } := by
    have hposition := s.injection.position.number.toNat_lt
    have hdepth := s.injection.depth.toNat_lt
    have hname : Toml.BareKey "injection" := .of_all rfl
    refine ⟨hname, ?_, ?_⟩
    · simp only [InjectionSettings.entries, List.forall_mem_cons]
      exact ⟨Entry.proper_ofBool (.of_all rfl) _, Entry.proper_ofNat (.of_all rfl) (by omega),
        Entry.proper_ofNat (.of_all rfl) (by omega), Entry.proper_ofBool (.of_all rfl) _,
        Entry.proper_ofString (.of_all rfl) _, by simp⟩
    · show ["enabled", "position", "depth", "scan", "role"].Nodup
      decide
  have htarget := s.targetCompression.toNat_lt
  refine ⟨?_, ?_, ?_⟩
  · simp only [Settings.layout, List.forall_mem_cons]
    exact ⟨Entry.proper_ofBool (.of_all rfl) _, Entry.proper_ofBool (.of_all rfl) _,
      Entry.proper_ofNat (.of_all rfl) (hword _), Entry.proper_ofFloat (.of_all rfl) h,
      Entry.proper_ofNat (.of_all rfl) (hword _), Entry.proper_ofNat (.of_all rfl) (hword _),
      Entry.proper_ofNat (.of_all rfl) (by omega), Entry.proper_ofString (.of_all rfl) _,
      Entry.proper_ofString (.of_all rfl) _, Entry.proper_ofBool (.of_all rfl) _,
      Entry.proper_ofBool (.of_all rfl) _, by simp⟩
  · simp only [Settings.layout, List.forall_mem_cons]
    exact ⟨hsummarizer, hinjection, by simp⟩
  · show ["enabled", "auto_compact", "compact_threshold", "context_threshold", "level1_chunk_size",
      "level2_chunk_size", "target_compression", "compression_profile_id", "level1_prompt",
      "debug_mode", "show_progress_bar", "summarizer", "injection"].Nodup
    decide

/-! ## Both together -/

/-- **Settings come back as they were written**, whatever their texts are, if the threshold is a number. -/
theorem settings_round_trip (s : Settings) (h : s.contextThreshold.isNaN = false) :
    Settings.parse s.toToml = .ok s := by
  have hread := (Settings.proper_layout h).readDocument_eq s.toList_toToml
  rw [Settings.parse, Toml.decode, hread]
  exact s.read_pairs

/-- Settings whose texts need all kinds of quotes: a prompt of several lines that ends in quotes, a profile with a
    tab, a backslash and a bell, a command with an empty word and both sorts of quotes. -/
def Settings.quoted : Settings :=
  { Settings.standard with
    contextThreshold := 72.1
    compressionProfileId := "deep \\ 'slow'\t\x07\"\"\""
    level1Prompt := "\nTell it as she would:\n\"\"\"It's 'all' there\"\""
    summarizer :=
      { kind := .command, form := .perMessage
        command := ["sh", "-c", "echo '\"'\"", "", "it's \"one\"\n"] } }

/-- Texts of all kinds come back. -/
theorem quoted_settings_come_back :
    Settings.quoted.contextThreshold.isNaN = false ∧
      Settings.parse Settings.quoted.toToml = .ok Settings.quoted :=
  ⟨by decide +kernel, settings_round_trip Settings.quoted (by decide +kernel)⟩

end Recap
