import Recap.Compressor.Prompt
import Recap.Compressor.StandIn
import Recap.Decimal.Style
import Recap.Engine.Config

/-!
# Settings

What a project is configured with, and what follows from it. The summarizer command can also be given
by an environment variable, which then goes first.

## Contents
- `Settings`, `Settings.standard` — the settings.
- `Settings.command?`, `Settings.prompt`, `Settings.config` — what follows from them.
- `Settings.warnings` — what looks wrong about them.
- `Summarizer`, `Settings.summarizer?` — where summaries come from.
-/

namespace Recap

/-! ## Settings -/

/-- Where summaries come from. -/
inductive SummarizerKind where
  /-- No language model. -/
  | standIn
  /-- A command that reads the prompt. -/
  | command
  deriving DecidableEq, Repr

/-- The name of a kind. -/
def SummarizerKind.name : SummarizerKind → String
  | .standIn => "fake"
  | .command => "command"

/-- All kinds with their names. -/
def SummarizerKind.named : List (String × SummarizerKind) :=
  [(SummarizerKind.standIn.name, .standIn), (SummarizerKind.command.name, .command)]

/-- The settings of the summarizer. -/
structure SummarizerSettings where
  kind : SummarizerKind
  form : StandIn
  /-- A program and its arguments. -/
  command : List String
  deriving DecidableEq, Repr

/-- No language model, a line for every message. -/
def SummarizerSettings.standard : SummarizerSettings :=
  { kind := .standIn, form := .perMessage, command := [] }

/-- The settings of a project. -/
structure Settings where
  enabled : Bool
  autoCompact : Bool
  compactThreshold : UInt64
  contextThreshold : Float
  level1ChunkSize : UInt64
  level2ChunkSize : UInt64
  targetCompression : UInt32
  /-- Empty: the profile in use. -/
  compressionProfileId : String
  /-- Blank: the prompt that is built in. -/
  level1Prompt : String
  debugMode : Bool
  showProgressBar : Bool
  summarizer : SummarizerSettings
  /-- The injection settings of new records. -/
  injection : InjectionSettings

/-- The settings where none are given. -/
def Settings.standard : Settings :=
  { enabled := true, autoCompact := true, compactThreshold := 120, contextThreshold := 75.0
    level1ChunkSize := 10, level2ChunkSize := 5, targetCompression := 55, compressionProfileId := ""
    level1Prompt := "", debugMode := false, showProgressBar := true, summarizer := .standard
    injection := .standard }

/-- The environment variable that names the summarizer command. -/
def commandVariable : String := "CHRONICLE_SUMMARIZER_CMD"

namespace Settings

/-! ## What follows -/

/-- The command in the environment variable, if it names one. -/
def variableCommand? (environment : Option String) : Option (List String) :=
  (environment.map Text.words).filter (!·.isEmpty)

/-- The summarizer command: that of the environment variable, else that of the settings. -/
def command? (s : Settings) (environment : Option String) : Option (List String) :=
  (variableCommand? environment).or (some s.summarizer.command |>.filter (!·.isEmpty))

/-- The instruction for summaries of chunks. -/
def prompt (s : Settings) : String :=
  if Text.allBlank s.level1Prompt then defaultPrompt else s.level1Prompt

/-- What a pass goes by. -/
def config (s : Settings) : Config :=
  { enabled := s.enabled
    autoCompact := s.autoCompact
    thresholds := { messages := s.compactThreshold, context := s.contextThreshold }
    chunkSize := s.level1ChunkSize
    targetCompression := s.targetCompression
    profile := some s.compressionProfileId |>.filter (!·.isEmpty)
    defaultInjection := s.injection }

/-! ## Warnings -/

/-- Whether a number is a percentage. -/
def isPercentage (x : Float) : Bool := decide (0.0 ≤ x) && decide (x ≤ 100.0)

/-- The warning that there is no summarizer command. -/
def missingCommandWarning : String :=
  "summarizer.kind is \"command\" but no command is set (summarizer.command or " ++
    commandVariable ++ ")"

/-- Whether a command is asked for that is not there. -/
def lacksCommand (s : Settings) (environment : Option String) : Bool :=
  s.summarizer.kind == .command && (s.command? environment).isNone

/-- A warning that applies under a condition. -/
def warnIf (condition : Bool) (warning : String) : List String := if condition then [warning] else []

/-- What looks wrong, in order. -/
def warnings (s : Settings) (environment : Option String) : List String :=
  warnIf (s.level1ChunkSize == 0) "level1_chunk_size is 0; chunks of 1 message will be used" ++
  warnIf (s.level2ChunkSize == 0) "level2_chunk_size should be at least 1" ++
  warnIf (s.targetCompression == 0 || s.targetCompression > 100)
    ("target_compression " ++ Nat.repr s.targetCompression.toNat ++
      " is outside 1-100; values above 100 act as 100") ++
  warnIf (!isPercentage s.contextThreshold)
    ("context_threshold " ++ Decimal.plain.write s.contextThreshold ++
      " is not a percentage between 0 and 100") ++
  warnIf (s.compactThreshold == 0) "compact_threshold is 0; every message will trigger compaction" ++
  warnIf (s.lacksCommand environment) missingCommandWarning

end Settings

/-! ## Summarizers -/

/-- A command that reads a prompt: its program, which is not blank, and its arguments. -/
structure SummarizerCommand where
  program : String
  arguments : List String
  deriving DecidableEq, Repr

/-- The command of a list of words, if the first of them can be a program. -/
def SummarizerCommand.ofList? : List String → Option SummarizerCommand
  | [] => none
  | program :: arguments => if Text.allBlank program then none else some { program, arguments }

/-- Where summaries come from. -/
inductive Summarizer where
  | standIn (form : StandIn)
  | command (command : SummarizerCommand) (template : String)
  deriving DecidableEq, Repr

/-- Why there is no summarizer. -/
inductive SummarizerError where
  | notConfigured
  | emptyCommand
  deriving DecidableEq, Repr

/-- The wording of an error. -/
def SummarizerError.message : SummarizerError → String
  | .notConfigured =>
    "No summarizer command configured. Set summarizer.command or " ++ commandVariable
  | .emptyCommand => "Summarizer command is empty"

/-- The summarizer that the settings ask for. -/
def Settings.summarizer? (s : Settings) (environment : Option String) :
    Except SummarizerError Summarizer :=
  match s.summarizer.kind with
  | .standIn => .ok (.standIn s.summarizer.form)
  | .command =>
    match s.command? environment with
    | none => .error .notConfigured
    | some words =>
      match SummarizerCommand.ofList? words with
      | none => .error .emptyCommand
      | some command => .ok (.command command s.prompt)

end Recap
