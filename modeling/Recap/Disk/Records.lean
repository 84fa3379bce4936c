import Recap.Disk.ChatName
import Recap.Disk.Error
import Recap.Json.Document
import Recap.Storage.Json
import Recap.Tag.Json

/-!
# Records on disk

Each chat has a directory of its own below a common root. In it are its record, its tags, and the text
that is to go into its prompt.

## Contents
- `readRecord`, `writeRecord` — values in files.
- `loadStorage`, `saveStorage`, `loadTags`, `saveTags` — what is kept for a chat.
- `setBlock` — what goes into its prompt.
-/

namespace Recap.Disk

open Machine (Call Path Task)
open Record (Reader)

/-! ## Values in files -/

/-- Reads a value from a file; a file that is not there holds none. -/
def readRecord {α : Type} (r : Reader α) (path : Path) : FileTask (Option α) := do
  if ← Task.ask (.isThere path) then
    let text ← Task.attempt (Call.ask (.readText path)) fun _ => .readRecord path
    match Json.decode r text with
    | .ok value => return some value
    | .error _ => throw (.parseRecord path)
  else return none

/-- Writes a value to a file in a directory, which is made if it is missing. -/
def writeRecord (directory : Path) (name : String) (value : Json.Value) : FileTask Unit := do
  Task.attempt (Call.ask (.makeDirectories directory)) fun _ => .makeDirectory directory
  let path := directory.child name
  Task.attempt (Call.ask (.writeText path value.pretty)) fun _ => .writeRecord path

/-! ## What is kept for a chat -/

/-- The name of the file with a record. -/
def storageName : String := "storage.json"

/-- The name of the file with tags. -/
def tagsName : String := "tags.json"

/-- The directory of a chat. -/
def chatPath (root : Path) (chatId : String) : Path := root.child (chatDirectory chatId)

/-- The record of a chat, if it has one. -/
def loadStorage (root : Path) (chatId : String) : FileTask (Option Storage) :=
  readRecord Storage.read ((chatPath root chatId).child storageName)

/-- Saves the record of a chat. -/
def saveStorage (root : Path) (chatId : String) (storage : Storage) : FileTask Unit :=
  writeRecord (chatPath root chatId) storageName storage.toJson

/-- The tags of a chat; a chat without tags has the empty store. -/
def loadTags (root : Path) (chatId : String) : FileTask TagStore := do
  return (← readRecord TagStore.read ((chatPath root chatId).child tagsName)).getD .empty

/-- Saves the tags of a chat. -/
def saveTags (root : Path) (chatId : String) (tags : TagStore) : FileTask Unit :=
  writeRecord (chatPath root chatId) tagsName tags.toJson

/-! ## Prompts -/

/-- The file for a text in the prompt. -/
def blockPath (directory : Path) (key : String) : Path :=
  directory.join (.ofText (key ++ ".injection.json"))

/-- Puts a text into the prompt by writing it to a file; an empty text removes the file. -/
def setBlock (directory : Path) (block : PromptBlock) : FileTask Unit := do
  let path := blockPath directory block.key
  if block.text.isEmpty then
    if ← Task.ask (.isThere path) then
      Task.attempt (Call.ask (.removeFile path)) fun _ => .clearBlock path
  else
    Task.attempt (Call.ask (.makeDirectories directory)) fun _ => .makeDirectory directory
    Task.attempt (Call.ask (.writeText path block.toJson.pretty)) fun _ => .writeBlock path

end Recap.Disk
