import Recap.CommandLine.Arguments
import Recap.CommandLine.Report
import Recap.Disk.Host
import Recap.Engine.Operations

/-!
# Running commands

## Contents
- `Failure`, `Failure.message` — why a command fails.
- `Session`, `openSession` — an engine for one chat.
- `execute`, `run` — commands, and whole command lines with their exit codes.
-/

namespace Recap.CommandLine

open Machine (Call Path Running Task)
open Disk (keptDirectory chatsDirectory settingsName)

/-! ## Failures -/

/-- Why a command fails. -/
inductive Failure where
  | disk (e : Disk.Error)
  | summarizer (e : SummarizerError)
  | engine (e : EngineError)
  deriving DecidableEq, Repr

/-- The wording of a failure, `words` being those of the reader of chats and documents. -/
def Failure.message (f : Failure) (words : Record.Wording := .silent) : String :=
  match f with
  | .disk e => e.message words
  | .summarizer e => e.message
  | .engine e => e.message words

/-- Something that a command does. -/
abbrev Step (α : Type) := Task Failure α

/-- Something done with files. -/
def onDisk {α : Type} (t : Disk.FileTask α) : Step α := Task.rephrase t .disk

/-- Prints lines. -/
def say (ls : List String) : Step Unit := Task.ask (.print (lines ls))

/-! ## Sessions -/

/-- What a command knows of its surroundings. -/
structure Surroundings where
  /-- The directory of the project. -/
  project : Path
  /-- The value of the variable that can name the summarizer command. -/
  variableCommand : Option String

/-- An engine for one chat. -/
structure Session where
  chat : Chat
  config : Config
  host : Disk.Host

/-- Reads the settings and the chat, and finds the summarizer. -/
def openSession (s : Surroundings) (chatFile : Path) : Step Session := do
  let kept := keptDirectory s.project
  let settings ← onDisk (Disk.settingsOf kept)
  let chat ← onDisk (Disk.loadChat chatFile)
  let root := chatsDirectory kept
  match settings.summarizer? s.variableCommand with
  | .error e => throw (.summarizer e)
  | .ok summarizer =>
    return { chat, config := settings.config
             host := { chat := chatFile, root, slot := Disk.chatPath root chat.id, summarizer } }

/-- What the engine does in a session. -/
def Session.serve {α : Type} (s : Session) (d : Hosted α) : Step α := ExceptT.lift (s.host.serve d)

/-- What the engine does in a session, and fails to do. -/
def Session.attempt {α : Type} (s : Session) (d : Hosted (Except EngineError α)) : Step α :=
  ExceptT.mk do return (← s.host.serve d).mapError .engine

/-! ## Commands for a chat -/

/-- Summarizes a chat. -/
def compactChat (s : Surroundings) (chatFile : Path) (onlyIfDue : Bool) : Step Unit := do
  let session ← openSession s chatFile
  let outcome ← session.attempt
    (if onlyIfDue then maybePerform session.config else perform session.config)
  say (outcomeReport outcome)

/-- Shows the state of a chat. -/
def showStatus (s : Surroundings) (chatFile : Path) (asDocument : Bool) : Step Unit := do
  let session ← openSession s chatFile
  let status ← session.attempt (Operation.status session.config).run
  say (if asDocument then [status.toJson.pretty] else statusReport status)

/-- Shows what goes into the prompt of a chat. -/
def showContext (s : Surroundings) (chatFile : Path) : Step Unit := do
  let session ← openSession s chatFile
  let text ← session.serve (refreshInjection session.config)
  if text.isEmpty then
    Task.ask (.complain (lines ["No summaries to inject for chat " ++ session.chat.id]))
  else Task.ask (.print text)

/-- Writes the summaries of a chat. -/
def exportChat (s : Surroundings) (chatFile : Path) (output : Option Path) : Step Unit := do
  let session ← openSession s chatFile
  let document ← session.attempt (Operation.exportText session.config).run
  match output with
  | none => say [document]
  | some path =>
    onDisk (Task.attempt (Call.writeText path document).ask fun _ => .writeExport path)
    say [checkMark ++ "Exported chat " ++ session.chat.id ++ " to " ++ path.text]

/-- Replaces the summaries of a chat. -/
def importChat (s : Surroundings) (chatFile input : Path) : Step Unit := do
  let session ← openSession s chatFile
  let text ← onDisk (Task.attempt (Call.readText input).ask fun _ => .readImport input)
  let storage ← session.attempt (Operation.importText text).run
  say [checkMark ++ "Imported " ++ Nat.repr storage.level1.length ++ " chunk summaries and " ++
    Nat.repr storage.level2.length ++ " chapter summaries into chat " ++ session.chat.id]

/-! ## Commands for a project -/

/-- Makes a project. -/
def initProject (s : Surroundings) : Step Unit := do
  let isNew ← onDisk (Disk.initProject s.project)
  let kept := keptDirectory s.project
  say (if isNew then projectCreatedReport kept else projectFoundReport kept)

/-- Shows the settings. -/
def showSettings (s : Surroundings) : Step Unit := do
  let kept := keptDirectory s.project
  let path := kept.child settingsName
  say ["", "Chronicle Configuration", "=======================", ""]
  if ← Task.ask (.isThere path) then
    say ["Config file: " ++ path.text, ""]
    say (settingsReport (← onDisk (Disk.loadSettings path)))
  else
    say ["No chronicle.toml found at " ++ path.text, "", "Using default configuration:"]
    say (settingsReport .standard)
    say ["Run 'chronicle config init' to create a chronicle.toml file.", ""]
  match (← onDisk (Disk.settingsOf kept)).command? s.variableCommand with
  | none => return ()
  | some command => say ["Effective summarizer command: " ++ " ".intercalate command, ""]

/-- Checks the settings. -/
def validateSettings (s : Surroundings) : Step Unit := do
  let path := (keptDirectory s.project).child settingsName
  say ["", "Validating configuration...", ""]
  if ← Task.ask (.isThere path) then
    let settings ← onDisk (Disk.loadSettings path)
    say (warningReport (settings.warnings s.variableCommand))
  else say ["No chronicle.toml found. Using defaults (valid)."]

/-- Makes the file with the settings. -/
def createSettings (s : Surroundings) : Step Unit := do
  let kept := keptDirectory s.project
  let path := kept.child settingsName
  if ← Task.ask (.isThere path) then
    say ["chronicle.toml already exists at " ++ path.text, "Delete it first if you want to recreate it."]
  else
    if !(← Task.ask (.isThere kept)) then
      onDisk (Task.attempt (Call.makeDirectories kept).ask .machine)
    onDisk (Disk.saveSettings path .standard)
    say (settingsCreatedReport path)

/-! ## Command lines -/

/-- Runs a command. -/
def execute (s : Surroundings) : Command → Step Unit
  | .init => initProject s
  | .compact chat onlyIfDue => compactChat s chat onlyIfDue
  | .status chat asDocument => showStatus s chat asDocument
  | .context chat => showContext s chat
  | .exportRecord chat output => exportChat s chat output
  | .importRecord chat input => importChat s chat input
  | .config .display => showSettings s
  | .config .validate => validateSettings s
  | .config .create => createSettings s

/-- The name and the number of this program. -/
def versionText : String := "chronicle 0.1.0"

/-- Runs a command line in a directory, and gives its exit code. Failures are reported in the words of the
    reader. -/
def run (home : Path) (variableCommand : Option String) (arguments : List String)
    (words : Record.Wording := .silent) : Running Nat := do
  match Request.parse? arguments with
  | none =>
    (Call.complain (lines usage)).ask
    return 2
  | some .version =>
    (Call.print (lines [versionText])).ask
    return 0
  | some .help =>
    (Call.print (lines usage)).ask
    return 0
  | some (.run i) =>
    match ← (execute ⟨i.project.getD home, variableCommand⟩ i.command).run with
    | .ok () => return 0
    | .error failure =>
      (Call.complain (lines ["Error: " ++ failure.message words])).ask
      return 1

end Recap.CommandLine
