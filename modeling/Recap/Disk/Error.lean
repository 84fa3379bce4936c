import Recap.Machine.Call
import Recap.Record.Fault

/-!
# What goes wrong with files

## Contents
- `Error`, `Error.message` — causes and their wording.
-/

namespace Recap.Disk

open Machine (Path)

/-- What could not be done with a file. -/
inductive Error where
  | makeDirectory (path : Path)
  | readRecord (path : Path)
  | parseRecord (path : Path)
  | writeRecord (path : Path)
  | clearBlock (path : Path)
  | writeBlock (path : Path)
  | readChat (path : Path) (fault : Machine.Fault)
  | parseChat (path : Path) (fault : Record.Fault)
  | readSettings (path : Path)
  | parseSettings (fault : Record.Fault)
  | writeSettings (path : Path)
  | readImport (path : Path)
  | writeExport (path : Path)
  /-- The machine refused, and there is no more to say. -/
  | machine (fault : Machine.Fault)
  deriving DecidableEq, Repr

/-- The wording of an error, `words` being those of the reader of chats. -/
def Error.message (e : Error) (words : Record.Wording := .silent) : String :=
  match e with
  | .makeDirectory path => "Failed to create directory: " ++ path.text
  | .readRecord path => "Failed to read " ++ path.text
  | .parseRecord path => "Failed to parse " ++ path.text
  | .writeRecord path => "Failed to write " ++ path.text
  | .clearBlock path => "Failed to clear injection at " ++ path.text
  | .writeBlock path => "Failed to write injection at " ++ path.text
  | .readChat path fault => "Failed to read chat file at " ++ path.text ++ ": " ++ fault.message
  | .parseChat path fault => "Failed to parse chat file at " ++ path.text ++ words.details fault
  | .readSettings path => "Failed to read config file: " ++ path.text
  | .parseSettings _ => "Failed to parse chronicle.toml"
  | .writeSettings path => "Failed to write config file: " ++ path.text
  | .readImport path => "Failed to read import file: " ++ path.text
  | .writeExport path => "Failed to write export: " ++ path.text
  | .machine fault => fault.message

/-- Something done with files. -/
abbrev FileTask (α : Type) := Machine.Task Error α

end Recap.Disk
