import Recap.Chat.Basic
import Recap.SortedMap
import Recap.Tag.Basic

/-!
# Tag stores

The tags of a chat by message id. A tag written while a message shows one of its swipes is also kept
for that swipe, so that it is found again when the message comes back to the swipe.

## Contents
- `TagStore`, `tag?`, `swipeTag?` — the store and its two views.
- `write`, `markSummarized`, `markActive`, `restoreSwipe?` — what changes it.
- `isSummarized`, `level?`, `counts` — what is known of messages.
-/

namespace Recap

/-- Messages by level. System messages are not counted. -/
structure LevelCounts where
  total : UInt64
  /-- Messages that no summary stands for. -/
  level0 : UInt64
  level1 : UInt64
  level2 : UInt64
  level3 : UInt64
  deriving DecidableEq, Repr

/-- No message. -/
def LevelCounts.zero : LevelCounts := { total := 0, level0 := 0, level1 := 0, level2 := 0, level3 := 0 }

/-- One more message of the given level. -/
def LevelCounts.add (c : LevelCounts) : Option Level → LevelCounts
  | none => { c with total := c.total + 1, level0 := c.level0 + 1 }
  | some .chunk => { c with total := c.total + 1, level1 := c.level1 + 1 }
  | some .passage => { c with total := c.total + 1, level2 := c.level2 + 1 }
  | some .story => { c with total := c.total + 1, level3 := c.level3 + 1 }

/-- Tags by message id, and by message id and swipe. -/
structure TagStore where
  tags : SortedMap String Tag
  swipes : SortedMap String (SortedMap UInt64 Tag)
  deriving DecidableEq

namespace TagStore

/-! ## Views -/

/-- A store without tags. -/
def empty : TagStore := { tags := .empty, swipes := .empty }

instance : Inhabited TagStore := ⟨empty⟩

/-- The tag of a message. -/
def tag? (s : TagStore) (id : String) : Option Tag := s.tags.get? id

/-- The tag kept for a swipe of a message. -/
def swipeTag? (s : TagStore) (id : String) (swipe : UInt64) : Option Tag :=
  (s.swipes.get? id).bind (·.get? swipe)

/-- Whether no message has a tag. -/
def isEmpty (s : TagStore) : Bool := s.tags.isEmpty

/-- How far a message is condensed; `none` for untagged and active messages alike. -/
def level? (s : TagStore) (m : Message) : Option Level := (s.tag? m.id).bind (·.level)

/-- Whether a summary stands for a message. -/
def isSummarized (s : TagStore) (m : Message) : Bool := (s.tag? m.id).any (!·.isActive)

/-! ## Changes -/

/-- Keeps `tag` for one swipe of a message. -/
def snapshot (s : TagStore) (id : String) (swipe : UInt64) (tag : Tag) : TagStore :=
  { s with swipes := s.swipes.insert id (((s.swipes.get? id).getD .empty).insert swipe tag) }

/-- Gives a message a tag, and keeps it for the swipe on display. -/
def write (s : TagStore) (m : Message) (tag : Tag) : TagStore :=
  let kept := match m.activeSwipe with
    | some swipe => s.snapshot m.id swipe tag
    | none => s
  { kept with tags := kept.tags.insert m.id tag }

/-- Records that a message was folded into a summary. -/
def markSummarized (s : TagStore) (m : Message) (level : Level) (summaryId : String)
    (now : Int64) : TagStore :=
  s.write m (.summarized level summaryId now)

/-- Records that no summary stands for a message. -/
def markActive (s : TagStore) (m : Message) : TagStore := s.write m .active

/-- The tag that belongs to the swipe a message shows. A swipe without a tag of its own has never
    been summarized. -/
def swipeTag (s : TagStore) (m : Message) (swipe : UInt64) : Tag :=
  (s.swipeTag? m.id swipe).getD .active

/-- Gives a message the tag of the swipe it shows, if that is not its tag already; `none` if there is
    nothing to change. -/
def restoreSwipe? (s : TagStore) (m : Message) : Option TagStore :=
  match m.activeSwipe with
  | none => none
  | some swipe =>
    let restored := s.swipeTag m swipe
    if s.tag? m.id = some restored then none else some (s.write m restored)

/-! ## Counts -/

/-- The messages by level, system messages aside. -/
def counts (s : TagStore) (messages : List Message) : LevelCounts :=
  (messages.filter (!·.isSystem)).foldl (fun c m => c.add (s.level? m)) .zero

/-- The number of messages that no summary stands for. -/
def unsummarizedCount (s : TagStore) (messages : List Message) : UInt64 :=
  (s.counts messages).level0

/-- The number of messages that a summary stands for. -/
def summarizedCount (s : TagStore) (messages : List Message) : UInt64 :=
  (s.counts messages).total - (s.counts messages).level0

end TagStore

end Recap
