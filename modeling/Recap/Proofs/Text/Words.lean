import Mathlib.Data.List.TakeWhile
import Recap.Text.Words

/-!
# Trimmed texts and words

Nothing is left of a text by trimming it exactly if it is blanks only (`trim_eq_empty_iff`). A text that
begins with another character is not of that kind, however it goes on (`trim_ne_empty_of_head?`).

A text is cut at its blanks, whichever they are and however many stand together. That a blank ends one
part of a text and begins another is said for stretches first (`pieces_append_blank`), where nothing is
left out and the induction goes through; words are the stretches that hold something, so the same is true
of them (`wordChars_append_blank`). Everything else about joined words is read off that one equation.

## Contents
- `trim_eq_empty_iff`, `trim_ne_empty_of_head?` — texts that are trimmed to nothing.
- `IsWord` — what a word is, without the text that it stands in.
- `pieces_append_blank`, `wordChars_append_blank` — a blank between two parts of a text.
- `wordChars_intercalate` — words that are joined by a blank and cut again.
- `eq_space_of_mem_joined` — the blanks of joined words are the spaces between them.
- `words_split_at_blanks` — the laws of words.
-/

namespace Recap.Text

/-! ## Trimming -/

theorem dropBlankEnd_eq_nil_iff (cs : List Char) :
    dropBlankEnd cs = [] ↔ ∀ c ∈ cs, isBlank c = true := by
  unfold dropBlankEnd
  rw [List.reverse_eq_nil_iff, List.dropWhile_eq_nil_iff]
  simp only [List.mem_reverse]

/-- **A text is trimmed to nothing if it is blank, and only then.** -/
theorem trim_eq_empty_iff (s : String) : trim s = "" ↔ allBlank s = true := by
  have hempty : trim s = "" ↔ dropBlankEnd (s.toList.dropWhile isBlank) = [] := by
    unfold trim
    rw [← String.ofList_nil, String.ofList_inj]
  rw [hempty, dropBlankEnd_eq_nil_iff, allBlank, List.all_eq_true]
  constructor
  · intro h
    -- the first character that is kept is not blank, so none is kept
    cases hkept : s.toList.dropWhile isBlank with
    | nil => exact List.dropWhile_eq_nil_iff.mp hkept
    | cons c cs =>
      have hhead := List.head?_dropWhile_not isBlank s.toList
      rw [hkept] at hhead h
      have hblank : isBlank c = true := h c List.mem_cons_self
      simp [hblank] at hhead
  · intro h c hc
    exact h c ((List.dropWhile_suffix isBlank).subset hc)

/-- A text is blank if it is without the blanks at its end, and only then. -/
theorem allBlank_trimEnd (s : String) : allBlank (trimEnd s) = allBlank s := by
  rw [Bool.eq_iff_iff, allBlank, allBlank, List.all_eq_true, List.all_eq_true, trimEnd,
    String.toList_ofList]
  constructor
  · -- the last character that is kept is not blank, so none is kept
    intro h
    refine (dropBlankEnd_eq_nil_iff _).mp ?_
    unfold dropBlankEnd at h ⊢
    cases hkept : s.toList.reverse.dropWhile isBlank with
    | nil => rfl
    | cons c cs =>
      have hhead := List.head?_dropWhile_not isBlank s.toList.reverse
      rw [hkept] at hhead h
      have hblank : isBlank c = true := h c (List.mem_reverse.mpr List.mem_cons_self)
      simp [hblank] at hhead
  · intro h c hc
    refine h c (List.mem_reverse.mp ?_)
    exact (List.dropWhile_suffix isBlank).subset (List.mem_reverse.mp hc)

/-! ## Beginnings -/

/-- A text begins as its first part does. -/
theorem head?_append {a b : String} {c : Char} (h : a.toList.head? = some c) :
    (a ++ b).toList.head? = some c := by
  simp [h]

/-- Joined texts begin as the first of them does. -/
theorem head?_intercalate {separator a : String} {as : List String} {c : Char}
    (h : a.toList.head? = some c) : (separator.intercalate (a :: as)).toList.head? = some c := by
  cases as with
  | nil => rwa [String.intercalate_singleton]
  | cons b bs =>
    rw [String.intercalate_cons_cons, String.append_assoc]
    exact head?_append h

/-- **A text that begins with something is not trimmed to nothing.** -/
theorem trim_ne_empty_of_head? {s : String} {c : Char} (h : s.toList.head? = some c)
    (hc : isBlank c = false) : trim s ≠ "" := by
  rw [Ne, trim_eq_empty_iff, allBlank, List.all_eq_true]
  intro hall
  rw [hall c (List.mem_of_head? h)] at hc
  cases hc

/-- Characters that are together a word: there are some, and none of them is a blank. -/
def IsWord (w : List Char) : Prop := w ≠ [] ∧ ∀ c ∈ w, isBlank c = false

/-! ## Stretches -/

/-- A character that is no blank goes to the stretch that comes after it. -/
theorem pieces_cons_letter {c : Char} (hc : isBlank c = false) {cs p : List Char}
    {ps : List (List Char)} (h : pieces cs = p :: ps) : pieces (c :: cs) = (c :: p) :: ps := by
  simp [pieces, hc, h]

/-- **A blank ends one stretch and begins the next.** -/
theorem pieces_append_blank {c : Char} (hc : isBlank c = true) (a b : List Char) :
    pieces (a ++ c :: b) = pieces a ++ pieces b := by
  induction a with
  | nil => simp [pieces_blank hc, pieces]
  | cons d a ih =>
    rw [List.cons_append]
    by_cases hd : isBlank d = true
    · rw [pieces_blank hd, pieces_blank hd, ih, List.cons_append]
    · -- the first stretch of `a` is the one that grows, and `b` has no part in it
      rw [Bool.not_eq_true] at hd
      obtain ⟨p, ps, hp⟩ := List.exists_cons_of_ne_nil (pieces_ne_nil a)
      have hsplit : pieces (a ++ c :: b) = p :: (ps ++ pieces b) := by
        rw [ih, hp, List.cons_append]
      rw [pieces_cons_letter hd hp, pieces_cons_letter hd hsplit, List.cons_append]

/-- No stretch has a blank in it. -/
theorem isBlank_of_mem_pieces {cs p : List Char} (hp : p ∈ pieces cs) :
    ∀ c ∈ p, isBlank c = false := by
  induction cs generalizing p with
  | nil =>
    simp only [pieces, List.mem_singleton] at hp
    simp [hp]
  | cons d cs ih =>
    by_cases hd : isBlank d = true
    · rw [pieces_blank hd] at hp
      rcases List.mem_cons.mp hp with rfl | hp
      · simp
      · exact ih hp
    · rw [Bool.not_eq_true] at hd
      obtain ⟨q, qs, hq⟩ := List.exists_cons_of_ne_nil (pieces_ne_nil cs)
      rw [pieces_cons_letter hd hq] at hp
      rw [hq] at ih
      rcases List.mem_cons.mp hp with rfl | hp
      · intro c hc
        rcases List.mem_cons.mp hc with rfl | hc
        · exact hd
        · exact ih List.mem_cons_self c hc
      · exact ih (List.mem_cons_of_mem q hp)

/-- Nothing but blanks is left out. -/
theorem flatten_pieces (cs : List Char) : (pieces cs).flatten = cs.filter (!isBlank ·) := by
  induction cs with
  | nil => rfl
  | cons c cs ih =>
    by_cases hc : isBlank c = true
    · rw [pieces_blank hc, List.flatten_cons, ih, List.nil_append]
      simp [hc]
    · rw [Bool.not_eq_true] at hc
      obtain ⟨p, ps, hp⟩ := List.exists_cons_of_ne_nil (pieces_ne_nil cs)
      rw [hp, List.flatten_cons] at ih
      rw [pieces_cons_letter hc hp, List.flatten_cons, List.cons_append, ih]
      simp [hc]

/-- A text without blanks is one stretch. -/
theorem pieces_of_forall {cs : List Char} (h : ∀ c ∈ cs, isBlank c = false) : pieces cs = [cs] := by
  induction cs with
  | nil => rfl
  | cons c cs ih =>
    exact pieces_cons_letter (h c List.mem_cons_self)
      (ih fun d hd => h d (List.mem_cons_of_mem c hd))

/-! ## Words -/

/-- **A blank ends one word and begins the next**, and is itself part of none. -/
theorem wordChars_append_blank {c : Char} (hc : isBlank c = true) (a b : List Char) :
    wordChars (a ++ c :: b) = wordChars a ++ wordChars b := by
  unfold wordChars
  rw [pieces_append_blank hc, List.filter_append]

/-- The words of a text are words. -/
theorem isWord_of_mem_wordChars {cs w : List Char} (hw : w ∈ wordChars cs) : IsWord w := by
  obtain ⟨hpiece, hfull⟩ := List.mem_filter.mp hw
  refine ⟨?_, isBlank_of_mem_pieces hpiece⟩
  rintro rfl
  simp at hfull

/-- Nothing but blanks is in no word. -/
theorem flatten_wordChars (cs : List Char) : (wordChars cs).flatten = cs.filter (!isBlank ·) := by
  unfold wordChars
  rw [List.flatten_filter_not_isEmpty, flatten_pieces]

/-- A word is its own only word. -/
theorem IsWord.wordChars_eq {w : List Char} (hw : IsWord w) : wordChars w = [w] := by
  unfold wordChars
  rw [pieces_of_forall hw.2]
  simp [hw.1]

/-- **Words that are joined by a blank are the words of the joined text.** -/
theorem wordChars_intercalate {c : Char} (hc : isBlank c = true) {ws : List (List Char)}
    (h : ∀ w ∈ ws, IsWord w) : wordChars ([c].intercalate ws) = ws := by
  induction ws with
  | nil => rfl
  | cons w ws ih =>
    have hw : IsWord w := h w List.mem_cons_self
    have hws : wordChars ([c].intercalate ws) = ws := ih fun v hv => h v (List.mem_cons_of_mem w hv)
    cases ws with
    | nil => rw [List.intercalate_singleton, hw.wordChars_eq]
    | cons v ws =>
      rw [List.intercalate_cons_cons, List.append_assoc, List.singleton_append,
        wordChars_append_blank hc, hw.wordChars_eq, hws, List.singleton_append]

/-! ## Texts -/

theorem isWord_of_mem_words {s word : String} (h : word ∈ words s) : IsWord word.toList := by
  obtain ⟨w, hw, rfl⟩ := List.mem_map.mp h
  rw [String.toList_ofList]
  exact isWord_of_mem_wordChars hw

theorem map_toList_words (s : String) : (words s).map String.toList = wordChars s.toList := by
  unfold words
  simp [Function.comp_def]

/-- The characters of joined words are their own, and spaces. -/
theorem eq_space_of_mem_joined {ws : List String} (h : ∀ w ∈ ws, IsWord w.toList) {c : Char}
    (hc : isBlank c = true) (hmem : c ∈ (" ".intercalate ws).toList) : c = ' ' := by
  induction ws with
  | nil => simp at hmem
  | cons w ws ih =>
    have hw : c ∉ w.toList := by
      intro hin
      rw [(h w List.mem_cons_self).2 c hin] at hc
      cases hc
    have hws := ih fun v hv => h v (List.mem_cons_of_mem w hv)
    cases ws with
    | nil =>
      rw [String.intercalate_singleton] at hmem
      exact absurd hmem hw
    | cons v ws =>
      rw [String.intercalate_cons_cons, String.toList_append, String.toList_append,
        List.mem_append, List.mem_append] at hmem
      rcases hmem with (hmem | hmem) | hmem
      · exact absurd hmem hw
      · simpa using hmem
      · exact hws hmem

/-- **The laws of words.** A blank between two texts separates the words of the one from those of the
    other. Words are not empty and have no blank in them, and together they are the text without its
    blanks. Joined by single spaces they are the words of what comes out. -/
theorem words_split_at_blanks :
    (∀ (a b : String) (c : Char), isBlank c = true →
      words (a ++ String.singleton c ++ b) = words a ++ words b) ∧
    (∀ s, ∀ word ∈ words s, word ≠ "" ∧ ∀ c ∈ word.toList, isBlank c = false) ∧
    (∀ s, String.join (words s) = String.ofList (s.toList.filter (!isBlank ·))) ∧
    ∀ s, words (" ".intercalate (words s)) = words s := by
  refine ⟨?_, ?_, ?_, ?_⟩
  · intro a b c hc
    unfold words
    rw [String.toList_append, String.toList_append, String.toList_singleton, List.append_assoc,
      List.singleton_append, wordChars_append_blank hc, List.map_append]
  · intro s word hword
    obtain ⟨hne, hblank⟩ := isWord_of_mem_words hword
    refine ⟨?_, hblank⟩
    rintro rfl
    exact hne rfl
  · intro s
    rw [← String.toList_inj, String.toList_join, String.toList_ofList, List.flatMap_def,
      map_toList_words, flatten_wordChars]
  · intro s
    have hjoined : wordChars (" ".intercalate (words s)).toList = wordChars s.toList := by
      rw [String.toList_intercalate, map_toList_words]
      exact wordChars_intercalate isBlank_space fun w hw => isWord_of_mem_wordChars hw
    unfold words at hjoined ⊢
    rw [hjoined]

/-- Blanks at both ends, a wide blank between two texts, and a run of blanks within one of them. -/
theorem words_of_spaced_texts :
    isBlank '\u2003' = true ∧
    words ("\t\nthey" ++ String.singleton '\u2003' ++ " met\u00a0 again ") = ["they"] ++ ["met", "again"] ∧
    ("again" ≠ "" ∧ ∀ c ∈ "again".toList, isBlank c = false) := by
  have hblank : isBlank '\u2003' = true := by decide
  have hsecond : words " met\u00a0 again " = ["met", "again"] := by decide +kernel
  refine ⟨hblank, ?_, ?_⟩
  · rw [words_split_at_blanks.1 _ _ _ hblank, hsecond]
    decide +kernel
  · exact words_split_at_blanks.2.1 " met\u00a0 again " "again" (by rw [hsecond]; decide)

end Recap.Text
