import Recap.Selection

/-!
# Putting summaries into the prompt

## Contents
- `injectionKey`, `clearedBlock`, `injectedBlock` — the text for the host's prompt.
- `GenerationKind`, `hiddenIndices`, `hiddenMessages` — the messages that the host is to leave out.
- `mem_hiddenIndices` — which these are.
-/

namespace Recap

/-! ## The text -/

/-- The key of the host's place for summaries. -/
def injectionKey : String := "chronicle"

/-- The text that clears the place. -/
def clearedBlock : PromptBlock :=
  { key := injectionKey, text := "", position := .inChat, depth := 0, scan := false, role := .system }

/-- The summaries of a chat as they go into its prompt. They go nowhere when they are switched off
    or there are none. -/
def injectedBlock (chat : Chat) (s : Storage) : PromptBlock :=
  if s.injection.enabled && s.hasSummaries then
    { key := injectionKey
      text := (buildContext s (historyBudget chat)).assemble
      position := s.injection.position
      depth := s.injection.depth
      scan := s.injection.scan
      role := s.injection.role }
  else clearedBlock

/-! ## Messages to leave out -/

/-- What the host is about to generate. -/
inductive GenerationKind where
  | normal
  /-- More of the last message, which therefore stays in the prompt. -/
  | continuing
  deriving DecidableEq, Repr

/-- The part of a chat that may be left out. -/
def GenerationKind.candidates (kind : GenerationKind) (messages : List Message) : List Message :=
  match kind with
  | .normal => messages
  | .continuing => messages.dropLast

/-- The positions of the messages that a summary stands for, in ascending order. -/
def hiddenIndices (messages : List Message) (tags : TagStore) (kind : GenerationKind) : List Nat :=
  ((kind.candidates messages).zipIdx.filter fun (m, _) => tags.isSummarized m).map (·.2)

/-- **What is to be left out**: each message that may be left out and that a summary stands for. -/
theorem mem_hiddenIndices {messages : List Message} {tags : TagStore} {kind : GenerationKind} {i : Nat} :
    i ∈ hiddenIndices messages tags kind ↔
      ∃ m, (kind.candidates messages)[i]? = some m ∧ tags.isSummarized m = true := by
  constructor
  · intro hi
    obtain ⟨⟨m, i'⟩, hmem, rfl⟩ := List.mem_map.mp hi
    obtain ⟨hin, hsummarized⟩ := List.mem_filter.mp hmem
    exact ⟨m, List.mk_mem_zipIdx_iff_getElem?.mp hin, hsummarized⟩
  · rintro ⟨m, hm, hsummarized⟩
    refine List.mem_map.mpr ⟨(m, i), List.mem_filter.mpr ⟨?_, hsummarized⟩, rfl⟩
    exact List.mk_mem_zipIdx_iff_getElem?.mpr hm

/-- The positions of the messages to leave out; none when summaries are switched off. -/
def hiddenMessages (chat : Chat) (s : Storage) (tags : TagStore) (kind : GenerationKind) : List Nat :=
  if s.injection.enabled then hiddenIndices chat.messages tags kind else []

end Recap
