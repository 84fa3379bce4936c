import Mathlib.Data.List.DropRight
import Recap.Compressor.StandIn
import Recap.Proofs.Text.Words

/-!
# The form of a stand-in summary

A stand-in summary is made of words, which have no blank in them, and of what is put between them. So the
line breaks of a summary are those that it was given, and no text of a message adds one: a summary line
by line has a line for each message (`split_perMessage`), and one of beginning and end is a single
line (`newline_notMem_bookends`). Whatever the messages are, a summary begins with a bracket and is not
blank (`trim_summarize_ne_empty`).

## Contents
- `newline_notMem_joined` — joined words.
- `line_eq`, `newline_notMem_line`, `split_perMessage` — summaries line by line.
- `bookends_eq`, `newline_notMem_bookends` — summaries of beginning and end.
- `trim_summarize_ne_empty` — both.
-/

namespace Recap.StandIn

open Text (words trim isBlank head?_append)

/-! ## Line breaks -/

/-- Words of a text have no line break, even with spaces between them. -/
theorem newline_notMem_joined {ws : List String} {text : String} (h : ws ⊆ words text) :
    '\n' ∉ (" ".intercalate ws).toList := by
  intro hmem
  have hspace := Text.eq_space_of_mem_joined (fun w hw => Text.isWord_of_mem_words (h hw))
    Text.isBlank_newline hmem
  exact absurd hspace (by decide)

/-- Neither have the digits of a number. -/
theorem newline_notMem_toDigits (n : Nat) : '\n' ∉ Nat.toDigits 10 n := by
  intro hmem
  have hdigit := Nat.isDigit_of_mem_toDigits (by decide) (by decide) hmem
  exact absurd hdigit (by decide)

/-! ## Line by line -/

/-- The line of a message is its label, and its first words if it has any. -/
theorem line_eq (i : Nat) (m : Message) :
    line i m =
      if words m.text = [] then "[" ++ Nat.repr i ++ "]"
      else "[" ++ Nat.repr i ++ "] " ++
        " ".intercalate ((words m.text).take (min 25 (words m.text).length)) := by
  rw [← List.take_eq_take_min]
  have hlabel : "[" ++ Nat.repr i ++ "]" ++ " " = "[" ++ Nat.repr i ++ "] " := by
    rw [String.append_assoc]
    rfl
  by_cases hwords : words m.text = []
  · simp [line, hwords]
  · simp [line, lineWords, hwords, ← hlabel]

theorem newline_notMem_line (i : Nat) (m : Message) : '\n' ∉ (line i m).toList := by
  have hhead : '\n' ∉ (" ".intercalate ((words m.text).take (min 25 (words m.text).length))).toList :=
    newline_notMem_joined (List.take_subset _ _)
  rw [line_eq]
  split
  · simp [newline_notMem_toDigits]
  · rw [String.toList_append, List.mem_append, not_or]
    exact ⟨by simp [newline_notMem_toDigits], hhead⟩

/-- **A summary line by line has a header and a line for each message**, and no other line. -/
theorem split_perMessage {messages : List Message} (hne : messages ≠ []) :
    ((perMessage.summarize messages).split '\n').toList.map (·.copy)
      = "[Test Compressed Chunk]" :: messages.mapIdx line := by
  obtain ⟨first, rest, rfl⟩ := List.exists_cons_of_ne_nil hne
  have hlines : ∀ s ∈ "[Test Compressed Chunk]" :: (first :: rest).mapIdx line,
      '\n' ∉ s.toList := by
    intro s hs
    rcases List.mem_cons.mp hs with rfl | hs
    · decide
    · obtain ⟨i, hi, rfl⟩ := List.mem_mapIdx.mp hs
      exact newline_notMem_line i _
  have hbreak : "\n" = String.singleton '\n' := rfl
  show (("\n".intercalate ("[Test Compressed Chunk]" :: (first :: rest).mapIdx line)).split
    '\n').toList.map (·.copy) = _
  rw [hbreak, String.toList_split_intercalate hlines, if_neg (List.cons_ne_nil _ _)]

/-! ## Beginning and end -/

/-- What a summary of beginning and end consists of. -/
theorem bookends_eq {messages : List Message} {first last : Message}
    (hfirst : messages.head? = some first) (hlast : messages.getLast? = some last) :
    bookends.summarize messages =
      "[Test] " ++ " ".intercalate ((words first.text).take 5) ++ " ... " ++
        " ".intercalate ((words last.text).rtake 5) := by
  cases messages with
  | nil => cases hfirst
  | cons m ms =>
    rw [List.head?_cons, Option.some_inj] at hfirst
    rw [List.getLast?_eq_some_getLast (List.cons_ne_nil m ms), Option.some_inj] at hlast
    subst hfirst hlast
    rfl

/-- **A summary of beginning and end is a single line.** -/
theorem newline_notMem_bookends (messages : List Message) :
    '\n' ∉ (bookends.summarize messages).toList := by
  cases messages with
  | nil => decide
  | cons first rest =>
    have hlast := List.getLast?_eq_some_getLast (List.cons_ne_nil first rest)
    rw [bookends_eq List.head?_cons hlast]
    have hopening : '\n' ∉ (" ".intercalate ((words first.text).take 5)).toList :=
      newline_notMem_joined (List.take_subset _ _)
    have hclosing : ∀ text, '\n' ∉ (" ".intercalate ((words text).rtake 5)).toList := fun text =>
      newline_notMem_joined (List.drop_subset _ (words text))
    simp only [String.toList_append, List.mem_append, not_or]
    exact ⟨⟨⟨by decide, hopening⟩, by decide⟩, hclosing _⟩

/-! ## Both -/

/-- Every summary begins with a bracket. -/
theorem head?_summarize (form : StandIn) (messages : List Message) :
    (form.summarize messages).toList.head? = some '[' := by
  cases messages with
  | nil => simp [summarize]
  | cons first rest =>
    cases form with
    | perMessage => exact Text.head?_intercalate (by simp)
    | bookends => exact head?_append (head?_append (head?_append (by simp)))

/-- **No summary is blank.** -/
theorem trim_summarize_ne_empty (form : StandIn) (messages : List Message) :
    trim (form.summarize messages) ≠ "" :=
  Text.trim_ne_empty_of_head? (head?_summarize form messages) (by decide)

end Recap.StandIn
