import Recap.Calendar
import Recap.Storage.Json

/-!
# Export documents

A record can be written out with the chat's id and the date, and read back; id and date are then
passed over like every other field that a record does not have.

## Contents
- `exportDocument`, `importDocument`.
-/

namespace Recap

/-- The document of a chat's record, written at the time `now`. -/
def exportDocument (now : Int64) (chatId : String) (s : Storage) : String :=
  (Json.Value.object
    (("exportDate", .string (Moment.ofMillis now.toInt).rfc3339) ::
      ("chatId", .string chatId) :: s.fields)).pretty

/-- The record in a document. -/
def importDocument (text : String) : Except Record.Fault Storage := Json.decode Storage.read text

end Recap
