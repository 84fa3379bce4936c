/-!
# Blanks, words and token estimates

Blanks are the characters with the Unicode property `White_Space`. Everything in this library that splits
or trims text does so at exactly these characters: a text is cut at every blank, and the pieces that are
not empty are its words. A token is estimated at four characters, a started token counting in full.

## Contents
- `isBlank` — the class itself.
- `allBlank`, `trim`, `trimEnd` — a text without content, and a text without its blank ends.
- `pieces` — the text between blanks, empty pieces included, and how it meets a blank (`pieces_blank`).
- `words` — the pieces that hold something.
- `estimateTokens` — a quarter of the length, rounded up.
-/

namespace Recap.Text

/-! ## Blanks -/

/-- The characters with the Unicode property `White_Space`. -/
def isBlank (c : Char) : Bool :=
  let n := c.toNat
  (0x09 ≤ n && n ≤ 0x0D) || n == 0x20 || n == 0x85 || n == 0xA0 || n == 0x1680 ||
    (0x2000 ≤ n && n ≤ 0x200A) || n == 0x2028 || n == 0x2029 || n == 0x202F || n == 0x205F ||
    n == 0x3000

/-- A space separates. -/
@[simp] theorem isBlank_space : isBlank ' ' = true := by decide

/-- A line break separates. -/
@[simp] theorem isBlank_newline : isBlank '\n' = true := by decide

/-! ## Trimming -/

/-- A text of blanks only, the empty one included. -/
def allBlank (s : String) : Bool := s.toList.all isBlank

/-- `cs` without the blanks at its end. -/
def dropBlankEnd (cs : List Char) : List Char := (cs.reverse.dropWhile isBlank).reverse

/-- The text without the blanks at its end. -/
def trimEnd (s : String) : String := String.ofList (dropBlankEnd s.toList)

/-- The text without the blanks at either end. -/
def trim (s : String) : String := String.ofList (dropBlankEnd (s.toList.dropWhile isBlank))

/-! ## Words -/

/-- The stretches between blanks, in order. Two blanks in a row enclose an empty stretch, and a
    text without blanks is one stretch. -/
def pieces : List Char → List (List Char)
  | [] => [[]]
  | c :: cs =>
    if isBlank c then [] :: pieces cs
    else match pieces cs with
      | [] => [[c]]
      | p :: ps => (c :: p) :: ps

/-- The non-empty stretches between blanks. -/
def wordChars (cs : List Char) : List (List Char) := (pieces cs).filter (!·.isEmpty)

/-- The words of a text, in order. -/
def words (s : String) : List String := (wordChars s.toList).map String.ofList

/-- A blank starts a new stretch. -/
theorem pieces_blank {c : Char} (h : isBlank c = true) (cs : List Char) :
    pieces (c :: cs) = [] :: pieces cs := by
  simp [pieces, h]

/-- There is always at least one stretch. -/
theorem pieces_ne_nil (cs : List Char) : pieces cs ≠ [] := by
  cases cs with
  | nil => simp [pieces]
  | cons c cs =>
      simp only [pieces]
      split
      · simp
      · split <;> simp

/-! ## Token estimates -/

/-- Characters per estimated token. -/
def charsPerToken : Nat := 4

/-- The estimated number of tokens of a text: its length divided by four, rounded up. -/
def estimateTokens (s : String) : Nat := (s.length + (charsPerToken - 1)) / charsPerToken

end Recap.Text
