import Recap.Proofs.Json.Numeral

/-!
# Reading written texts

A text is written between quotes, with quotes, backslashes and control characters escaped. Read back it
is one token, and the escapes stand for the text (`unescape?_escape`). No character of a text is half of a
surrogate pair, so joining the halves neither fails nor joins anything.

## Contents
- `Quoting`, `quoting` — the three ways in which a character is written.
- `codeUnits_escape`, `joinUnits?_toNat`, `unescape?_escape` — the escapes stand for the text.
- `Mode.run_quote` — a written text is one token.
- `escape_repr` — the text of an integer has nothing to escape.
-/

namespace Recap.Json

open Recap.Record

/-! ## Characters -/

theorem isHexDigit_hexDigit : ∀ n < 16, isHexDigit (hexDigit n) = true := by decide

theorem hexValue_hexDigit : ∀ n < 16, hexValue (hexDigit n) = n := by decide

/-- A character is written as itself, or with a letter or its number after a backslash. -/
inductive Quoting (c : Char) : List Char → Prop where
  | plain (hquote : c ≠ '"') (hslash : c ≠ '\\') (hvisible : ¬ c.toNat < 0x20) : Quoting c [c]
  | letter (d : Char) (hshort : isShortEscape d = true) (hletter : d ≠ 'u') (hvalue : shortEscape d = c) :
      Quoting c ['\\', d]
  | number (hcontrol : c.toNat < 0x20) :
      Quoting c ['\\', 'u', '0', '0', hexDigit (c.toNat / 16), hexDigit (c.toNat % 16)]

theorem quoting (c : Char) : Quoting c (quoteChar c) := by
  unfold quoteChar
  split
  case h_8 hquote hslash _ _ _ _ _ =>
    split
    case isTrue hcontrol => exact .number hcontrol
    case isFalse hvisible => exact .plain hquote hslash hvisible
  all_goals exact .letter _ (by decide) (by decide) (by decide)

/-- What is written for a character is its code. -/
theorem codeUnits_quoteChar (c : Char) (rest : List Char) :
    codeUnits (quoteChar c ++ rest) = c.toNat :: codeUnits rest := by
  have hc := quoting c
  revert hc
  generalize quoteChar c = written
  rintro (⟨-, hslash, -⟩ | ⟨d, -, hletter, hvalue⟩ | ⟨hcontrol⟩)
  · exact codeUnits.eq_3 c rest (fun _ _ _ _ _ h => absurd h hslash) (fun _ _ h => absurd h hslash)
  · show codeUnits ('\\' :: d :: rest) = _
    rw [codeUnits.eq_2 d rest (fun _ _ _ _ _ h => absurd h hletter), hvalue]
  · show codeUnits ('\\' :: 'u' :: '0' :: '0' :: hexDigit (c.toNat / 16) :: hexDigit (c.toNat % 16) ::
      rest) = _
    have hzero : hexValue '0' = 0 := rfl
    rw [codeUnits.eq_1, hzero, hexValue_hexDigit _ (by omega), hexValue_hexDigit _ (by omega)]
    congr 1
    omega

/-! ## Texts -/

/-- A written text gives the codes of its characters. -/
theorem codeUnits_escape (s : String) : codeUnits (escape s) = s.toList.map Char.toNat := by
  rw [escape]
  induction s.toList with
  | nil => rfl
  | cons c cs ih => rw [List.flatMap_cons, codeUnits_quoteChar, ih, List.map_cons]

/-- No character is half of a surrogate pair. -/
theorem not_isHalf (c : Char) : isLowHalf c.toNat = false ∧ isHighHalf c.toNat = false := by
  have hvalid : c.toNat < 0xD800 ∨ 0xDFFF < c.toNat ∧ c.toNat < 0x110000 := c.valid
  constructor
  · simp only [isLowHalf, Bool.and_eq_false_iff, decide_eq_false_iff_not]
    omega
  · simp only [isHighHalf, Bool.and_eq_false_iff, decide_eq_false_iff_not]
    omega

/-- So the codes of characters are joined to the characters. -/
theorem joinUnits?_toNat (cs : List Char) : joinUnits? (cs.map Char.toNat) = some cs := by
  induction cs with
  | nil => rfl
  | cons c cs ih =>
      obtain ⟨hlow, hhigh⟩ := not_isHalf c
      have hjoin : joinUnits? (c.toNat :: cs.map Char.toNat) =
          (joinUnits? (cs.map Char.toNat)).map (Char.ofNat c.toNat :: ·) := by
        rw [joinUnits?.eq_def]
        simp [hlow, hhigh]
      rw [List.map_cons, hjoin, ih, Char.ofNat_toNat]
      rfl

/-- **The escapes of a text stand for the text.** -/
theorem unescape?_escape (s : String) : unescape? (escape s) = some s := by
  rw [unescape?, codeUnits_escape, joinUnits?_toNat]
  show some (String.ofList s.toList) = some s
  rw [String.ofList_toList]

theorem stringNode_escape (s : String) : stringNode (escape s) = .string s := by
  rw [stringNode, unescape?_escape]

/-! ## Tokens -/

/-- A written character stays within the string. -/
theorem Mode.run_quoteChar (c : Char) (raw rest : List Char) :
    (Mode.string raw).run (quoteChar c ++ rest) = (Mode.string ((quoteChar c).reverse ++ raw)).run rest := by
  have hc := quoting c
  revert hc
  generalize quoteChar c = written
  rintro (⟨hquote, hslash, hvisible⟩ | ⟨d, hshort, -, -⟩ | ⟨hcontrol⟩)
  · have hstep : (Mode.string raw).step c = ([], .string (c :: raw)) := by
      simp [Mode.step, hquote, hslash, hvisible]
    rw [List.singleton_append, Mode.run_cons, hstep]
    rfl
  · have hstep : (Mode.escape ('\\' :: raw)).step d = ([], .string (d :: '\\' :: raw)) := by
      simp [Mode.step, hshort]
    show (Mode.string raw).run ('\\' :: d :: rest) = _
    rw [Mode.run_cons]
    show (Mode.escape ('\\' :: raw)).run (d :: rest) = _
    rw [Mode.run_cons, hstep]
    rfl
  · have hfirst : isHexDigit (hexDigit (c.toNat / 16)) = true := isHexDigit_hexDigit _ (by omega)
    have hlast : isHexDigit (hexDigit (c.toNat % 16)) = true := isHexDigit_hexDigit _ (by omega)
    show (Mode.string raw).run ('\\' :: 'u' :: '0' :: '0' :: hexDigit (c.toNat / 16) ::
      hexDigit (c.toNat % 16) :: rest) = _
    -- four characters lead to the two that depend on the code
    rw [Mode.run_cons, Mode.run_cons, Mode.run_cons, Mode.run_cons]
    show (Mode.hex 2 ('0' :: '0' :: 'u' :: '\\' :: raw)).run (hexDigit (c.toNat / 16) ::
      hexDigit (c.toNat % 16) :: rest) = _
    rw [Mode.run_cons, Mode.run_cons]
    simp [Mode.step, hfirst, hlast]

/-- And so do all the characters of a text. -/
theorem Mode.run_flatMap_quoteChar (cs raw rest : List Char) :
    (Mode.string raw).run (cs.flatMap quoteChar ++ rest) =
      (Mode.string ((cs.flatMap quoteChar).reverse ++ raw)).run rest := by
  induction cs generalizing raw with
  | nil => rfl
  | cons c cs ih =>
      rw [List.flatMap_cons, List.append_assoc, Mode.run_quoteChar, ih, List.reverse_append,
        List.append_assoc]

/-- **A written text is one token**, its escapes unresolved. -/
theorem Mode.run_quote (s : String) (rest : List Char) :
    Mode.run .between (quote s ++ rest) = .string (Json.escape s) :: Mode.run .between rest := by
  have hclose : (Mode.string (Json.escape s).reverse).run ('"' :: rest) =
      .string (Json.escape s) :: Mode.run .between rest := by
    rw [Mode.run_cons]
    simp [Mode.step]
  show (Mode.string []).run ((Json.escape s ++ ['"']) ++ rest) = _
  rw [List.append_assoc, Json.escape, Mode.run_flatMap_quoteChar, List.append_nil]
  exact hclose

/-! ## Keys -/

/-- A written key is its text, and the number it begins with. -/
theorem toKey_escape (s : String) :
    toKey (escape s) = { text := some s, number := keyNumber? true (escape s) } := by
  rw [toKey, unescape?_escape]

/-- Digits are not escaped. -/
theorem quoteChar_of_isDigit {c : Char} (hc : c.isDigit = true) : quoteChar c = [c] := by
  have hvisible : ¬ c.toNat < 0x20 := by
    have hlow : '0'.toNat ≤ c.toNat := (Char.isDigit_iff_toNat.mp hc).1
    have hzero : '0'.toNat = 0x30 := rfl
    omega
  unfold quoteChar
  split
  case h_8 => rw [if_neg hvisible]
  all_goals exact absurd hc (by decide)

/-- The key of a natural number is its digits. -/
theorem escape_repr (n : Nat) : escape (Nat.repr n) = writeInt n := by
  have hdigits : ∀ cs : List Char, (∀ c ∈ cs, c.isDigit = true) → cs.flatMap quoteChar = cs := by
    intro cs
    induction cs with
    | nil => exact fun _ => rfl
    | cons c cs ih =>
        intro h
        rw [List.flatMap_cons, quoteChar_of_isDigit (h c (by simp)),
          ih fun d hd => h d (List.mem_cons_of_mem c hd), List.singleton_append]
  show (Nat.repr n).toList.flatMap quoteChar = (Nat.repr n).toList
  refine hdigits _ fun c hc => ?_
  rw [Nat.toList_repr] at hc
  exact Nat.isDigit_of_mem_toDigits (by decide) (by decide) hc

end Recap.Json
