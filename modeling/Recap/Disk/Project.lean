import Recap.Chat.Json
import Recap.Disk.Error
import Recap.Settings.Toml

/-!
# Projects on disk

A project is a directory with a directory for everything that is kept: the settings, and below
another directory what is kept for each chat. Chats themselves are files anywhere.

## Contents
- `loadChat` — chats.
- `loadSettings`, `settingsOf`, `saveSettings` — settings.
- `keptDirectory`, `chatsDirectory`, `initProject` — the layout of a project.
-/

namespace Recap.Disk

open Machine (Call Path Task)

/-! ## Chats -/

/-- A chat without an id is called after its file. -/
def nameAfter (path : Path) (chat : Chat) : Chat :=
  if chat.id.isEmpty then { chat with id := path.stem?.getD "chat" } else chat

/-- Reads a chat. -/
def loadChat (path : Path) : FileTask Chat := do
  let text ← Task.attempt (Call.ask (.readText path)) (.readChat path)
  match Json.decode Chat.read text with
  | .ok chat => return (nameAfter path chat).fillMissingIds
  | .error fault => throw (.parseChat path fault)

/-! ## Settings -/

/-- The name of the file with the settings. -/
def settingsName : String := "chronicle.toml"

/-- Reads settings. -/
def loadSettings (path : Path) : FileTask Settings := do
  let text ← Task.attempt (Call.ask (.readText path)) fun _ => .readSettings path
  match Settings.parse text with
  | .ok settings => return settings
  | .error fault => throw (.parseSettings fault)

/-- The settings in a directory; those where none are given if there is no file. -/
def settingsOf (directory : Path) : FileTask Settings := do
  let path := directory.child settingsName
  if ← Task.ask (.isThere path) then loadSettings path else return .standard

/-- Writes settings. -/
def saveSettings (path : Path) (settings : Settings) : FileTask Unit :=
  Task.attempt (Call.ask (.writeText path settings.toToml)) fun _ => .writeSettings path

/-! ## The layout of a project -/

/-- The directory in which a project keeps everything. -/
def keptDirectory (project : Path) : Path := project.child ".chronicle"

/-- The directory of the chats of a project. -/
def chatsDirectory (kept : Path) : Path := kept.child "chats"

/-- Whether there is a project. -/
def isProject (project : Path) : FileTask Bool := Task.ask (.isThere (keptDirectory project))

/-- Makes what a project lacks, and nothing else; says whether there was no project before. -/
def initProject (project : Path) : FileTask Bool := do
  let kept := keptDirectory project
  let wasThere ← Task.ask (.isThere kept)
  let chats := chatsDirectory kept
  Task.attempt (Call.ask (.makeDirectories chats)) fun _ => .makeDirectory chats
  let settings := kept.child settingsName
  if !(← Task.ask (.isThere settings)) then saveSettings settings .standard
  return !wasThere

end Recap.Disk
