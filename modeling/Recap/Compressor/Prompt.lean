import Recap.Chat.Basic

/-!
# Prompts for summaries

## Contents
- `defaultPrompt` — the instruction for summaries of chunks.
- `chunkPrompt` — an instruction, followed by the chapter number and the messages.
-/

namespace Recap

/-- The instruction for summaries of chunks. -/
def defaultPrompt : String :=
  "You are a story summarizer for a roleplay conversation. Your task is to create a concise but comprehensive summary of the provided conversation segment.\n\nGuidelines:\n1. Focus on plot progression, character interactions, and key events\n2. Maintain the tone and style of the original conversation\n3. Preserve important details about relationships, locations, and world-building\n4. Keep dialogue minimal and paraphrased\n5. Structure the summary in narrative form, not a bulleted list\n6. Use the format: \"[Chapter N]\" followed by the summary text\n7. Aim for approximately 20-30% of the original text length\n\nFormat your response exactly like this:\n[Chapter N]\nYour summary text here...\n\nDo not include any explanations or additional text outside the summary format."

/-- A message as it stands in a prompt. -/
def spokenLine (m : Message) : String := m.name ++ ": " ++ m.text

/-- The prompt for a chunk. -/
def chunkPrompt (template : String) (messages : List Message) (chapter : Nat) : String :=
  template ++ "\n\nChapter Number: " ++ Nat.repr chapter ++ "\n\nConversation:\n" ++
    "\n\n".intercalate (messages.map spokenLine)

end Recap
