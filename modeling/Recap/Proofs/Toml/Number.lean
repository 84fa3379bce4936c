import Recap.Proofs.Json.Double
import Recap.Toml.Parser
import Recap.Toml.Printer

/-!
# Words come back

A value without quotes is a word: a truth value or a number. A written number is its digits, with a minus in
front or a point among them, so it is neither a date, which has a minus among its digits, nor a time, which
has a colon; nor is it in any other base than ten, since its second character is no letter
(`readNumber?_of_splitSign`).

## Contents
- `isMark`, `readSimple_word` — the words that are written, up to the end of their line.
- `isDatetime_of_marks` — no number is a date.
- `digitsToNat_append`, `digitsToNat_bounds`, `digitsToNat_toDigits` — digits and their number.
- `readWord?_signChars` — a number in base ten, by what follows its first digits.
- `readWord?_writeBool`, `readWord?_repr` — truth values and integers.
-/

namespace Recap.Toml

open Json (Digits ProperWhole signChars)

/-! ## Words -/

/-- The characters of the words that are written. -/
def isMark (c : Char) : Bool := c.isAlphanum || c == '.' || c == '-'

theorem isMark_of_isDigit {c : Char} (h : c.isDigit = true) : isMark c = true := by
  simp [isMark, Char.isAlphanum, h]

/-- No character of a word ends it, or makes it a text in quotes. -/
theorem of_isMark {c : Char} (h : isMark c = true) : isWordChar c = true ∧ c ≠ '"' ∧ c ≠ '\'' := by
  refine ⟨?_, ?_, ?_⟩
  · by_contra hends
    have hends : endsWord c = true := by simpa [isWordChar] using hends
    simp only [endsWord, isGap, Bool.or_eq_true, beq_iff_eq] at hends
    rcases hends with ((((((((((rfl | rfl) | rfl) | rfl) | rfl) | rfl) | rfl) | rfl) | rfl) | rfl) | rfl) <;>
      cases h
  · rintro rfl
    cases h
  · rintro rfl
    cases h

/-- **A word is read** up to the end of its line. -/
theorem readSimple_word {word : List Char} (hmarks : ∀ c ∈ word, isMark c = true) (rest : List Char) :
    readSimple (word ++ '\n' :: rest) = (readWord? word).map fun item => (item, '\n' :: rest) := by
  have hchars : ∀ c ∈ word, isWordChar c = true := fun c hc => (of_isMark (hmarks c hc)).1
  have htake : takeWord (word ++ '\n' :: rest) = (word, '\n' :: rest) := by
    have hword : (word ++ '\n' :: rest).takeWhile isWordChar = word := by
      rw [List.takeWhile_append_of_pos hchars]
      exact List.append_nil word
    have hrest : (word ++ '\n' :: rest).dropWhile isWordChar = '\n' :: rest := by
      rw [List.dropWhile_append_of_pos hchars]
      rfl
    rw [takeWord, hword, hrest]
    rfl
  have hunquoted : ∀ c ∈ (word ++ '\n' :: rest).head?, c ≠ '"' ∧ c ≠ '\'' := by
    cases word with
    | nil => simp
    | cons d ds => simpa using (of_isMark (hmarks d List.mem_cons_self)).2
  generalize word ++ '\n' :: rest = cs at htake hunquoted
  unfold readSimple
  split
  case h_5 => rw [htake]
  all_goals simp at hunquoted

/-! ## Dates -/

theorem takeNumber_rest {width low high n : Nat} {cs rest : List Char}
    (h : takeNumber width low high cs = some (n, rest)) : rest = cs.drop width := by
  unfold takeNumber at h
  grind

theorem mem_of_pass {allowed cs rest : List Char} (h : pass allowed cs = some rest) :
    ∃ c ∈ allowed, c ∈ cs := by
  unfold pass at h
  grind

/-- A date has a minus after its first digits, -/
theorem mem_of_takeDate {cs rest : List Char} (h : takeDate cs = some rest) : '-' ∈ cs.tail := by
  simp only [takeDate, Option.bind_eq_bind, Option.bind_eq_some_iff] at h
  obtain ⟨⟨year, more⟩, hyear, _, hpass, -⟩ := h
  obtain ⟨c, hc, hmem⟩ := mem_of_pass hpass
  rw [takeNumber_rest hyear] at hmem
  rw [List.mem_singleton.mp hc] at hmem
  rw [← List.drop_one]
  exact List.mem_of_mem_drop (i := 3) (by simpa [List.drop_drop] using hmem)

/-- and a time has a colon. -/
theorem mem_of_takeTime {cs rest : List Char} (h : takeTime cs = some rest) : ':' ∈ cs := by
  simp only [takeTime, Option.bind_eq_bind, Option.bind_eq_some_iff] at h
  obtain ⟨⟨hour, more⟩, hhour, _, hpass, -⟩ := h
  obtain ⟨c, hc, hmem⟩ := mem_of_pass hpass
  rw [takeNumber_rest hhour] at hmem
  rw [List.mem_singleton.mp hc] at hmem
  exact List.mem_of_mem_drop hmem

/-- So a number is neither. -/
theorem isDatetime_of_marks {cs : List Char} (hminus : '-' ∉ cs.tail) (hcolon : ':' ∉ cs) :
    isDatetime cs = false := by
  have hdate : takeDate cs = none := by
    cases h : takeDate cs with
    | none => rfl
    | some rest => exact absurd (mem_of_takeDate h) hminus
  have htime : takeTime cs = none := by
    cases h : takeTime cs with
    | none => rfl
    | some rest => exact absurd (mem_of_takeTime h) hcolon
  simp [isDatetime, isDate, isTime, isDateWithTime, hdate, htime]

/-! ## Digits -/

/-- Nothing is dropped where there are no underscores. -/
theorem dropUnderscores?_of_not_mem {isDigit : Char → Bool} {cs : List Char} (h : '_' ∉ cs) :
    dropUnderscores? isDigit cs = some cs := by
  induction cs with
  | nil => rfl
  | cons c cs ih =>
    obtain ⟨hc, hcs⟩ := not_or.mp (List.mem_cons.not.mp h)
    rw [dropUnderscores?, ih hcs]
    · rfl
    · exact fun hc' => hc hc'.symm
    · rintro d ds rfl
      exact hcs List.mem_cons_self

theorem digitValue_of_isDigit {c : Char} (h : c.isDigit = true) : digitValue c = c.toNat - '0'.toNat :=
  if_pos h

/-- The digits that come first count for more. -/
theorem foldl_digits (ds : List Char) (n : Nat) :
    ds.foldl (fun n d => n * 10 + digitValue d) n = n * 10 ^ ds.length + digitsToNat 10 ds := by
  induction ds generalizing n with
  | nil => simp [digitsToNat]
  | cons d ds ih =>
    have hcons : digitsToNat 10 (d :: ds) = digitValue d * 10 ^ ds.length + digitsToNat 10 ds := by
      rw [digitsToNat, List.foldl_cons, ih]
      simp
    rw [List.foldl_cons, ih, hcons, List.length_cons]
    ring

theorem digitsToNat_append (ds es : List Char) :
    digitsToNat 10 (ds ++ es) = digitsToNat 10 ds * 10 ^ es.length + digitsToNat 10 es := by
  rw [digitsToNat, List.foldl_append, foldl_digits]
  rfl

theorem digitsToNat_cons (d : Char) (ds : List Char) :
    digitsToNat 10 (d :: ds) = digitValue d * 10 ^ ds.length + digitsToNat 10 ds := by
  rw [digitsToNat, List.foldl_cons, foldl_digits]
  simp

theorem digitsToNat_zeros (n : Nat) : digitsToNat 10 (List.replicate n '0') = 0 := by
  induction n with
  | zero => rfl
  | succ n ih =>
    have hzero : digitValue '0' = 0 := rfl
    rw [List.replicate_succ, digitsToNat_cons, ih, hzero, Nat.zero_mul]

theorem digitValue_lt {d : Char} (h : d.isDigit = true) : digitValue d < 10 := by
  rw [digitValue_of_isDigit h]
  have hd := Char.isDigit_iff_toNat.mp h
  have hzero : '0'.toNat = 48 := rfl
  have hnine : '9'.toNat = 57 := rfl
  omega

theorem digitValue_pos {d : Char} (h : d.isDigit = true) (hne : d ≠ '0') : 0 < digitValue d := by
  rw [digitValue_of_isDigit h]
  have hd := Char.isDigit_iff_toNat.mp h
  have hzero : '0'.toNat = 48 := rfl
  have hne' : d.toNat ≠ '0'.toNat := fun heq => hne (Char.toNat_inj.mp heq)
  omega

/-- The digits of a number after its zeros are as many as its size asks for. -/
theorem digitsToNat_bounds {ds : List Char} (h : ∀ d ∈ ds, d.isDigit = true) (hne : digitsToNat 10 ds ≠ 0) :
    ∃ t, (ds.dropWhile (· == '0')).length = t + 1 ∧ 10 ^ t ≤ digitsToNat 10 ds ∧
      digitsToNat 10 ds < 10 ^ (t + 1) := by
  have hlt : ∀ es : List Char, (∀ d ∈ es, d.isDigit = true) → digitsToNat 10 es < 10 ^ es.length := by
    intro es hes
    induction es with
    | nil => decide
    | cons d es ih =>
      obtain ⟨hd, hes⟩ := List.forall_mem_cons.mp hes
      have hvalue := digitValue_lt hd
      have hrest := ih hes
      rw [digitsToNat_cons, List.length_cons, Nat.pow_succ]
      nlinarith
  induction ds with
  | nil => exact absurd rfl hne
  | cons d ds ih =>
    obtain ⟨hd, hds⟩ := List.forall_mem_cons.mp h
    by_cases hzero : d = '0'
    · -- a zero in front
      subst hzero
      have hvalue : digitsToNat 10 ('0' :: ds) = digitsToNat 10 ds := by
        rw [digitsToNat_cons]
        exact (congrArg (· + digitsToNat 10 ds) (Nat.zero_mul _)).trans (Nat.zero_add _)
      rw [hvalue] at hne ⊢
      exact ih hds hne
    · have hdrop : (d :: ds).dropWhile (· == '0') = d :: ds := by simp [hzero]
      refine ⟨ds.length, by rw [hdrop, List.length_cons], ?_, hlt (d :: ds) h⟩
      have hpos := digitValue_pos hd hzero
      rw [digitsToNat_cons]
      nlinarith [Nat.pow_pos (n := ds.length) (show 0 < 10 by decide)]

theorem digitsToNat_toDigits (n : Nat) : digitsToNat 10 (Nat.toDigits 10 n) = n := by
  have hdigits : ∀ {ds : List Char} (n : Nat), (∀ d ∈ ds, d.isDigit = true) →
      ds.foldl (fun n d => n * 10 + digitValue d) n = Nat.ofDigitChars 10 ds n := by
    intro ds
    induction ds with
    | nil => exact fun _ _ => rfl
    | cons d ds ih =>
      intro n h
      obtain ⟨hd, hds⟩ := List.forall_mem_cons.mp h
      rw [List.foldl_cons, ih _ hds, Nat.ofDigitChars_cons, digitValue_of_isDigit hd, Nat.mul_comm]
  rw [digitsToNat, hdigits 0 (Json.digits_toDigits n).isDigit, Nat.ofDigitChars_ten_toDigits]

/-- A number needs the zero that it begins with if a zero is all that it is. -/
theorem hasIdleZero_of_properWhole {ds : List Char} (h : ProperWhole ds) : hasIdleZero ds = false := by
  rcases h with rfl | ⟨-, hhead⟩
  · rfl
  · unfold hasIdleZero
    split
    · exact absurd rfl hhead
    · rfl

theorem ProperWhole.digits {ds : List Char} (h : ProperWhole ds) : Digits ds := by
  rcases h with rfl | ⟨hds, -⟩
  · exact ⟨by simp, by simp⟩
  · exact hds

/-! ## Numbers in base ten -/

theorem ne_of_digit_or_point {c d : Char} (h : c.isDigit = true ∨ c = '.')
    (hd : d.isDigit = false ∧ d ≠ '.' := by decide) : c ≠ d := by
  rintro rfl
  rcases h with h | h
  · rw [hd.1] at h
    cases h
  · exact hd.2 h

/-- **A number in base ten** is an integer or a double, by what follows its first digits. -/
theorem readNumber?_of_splitSign {cs ds : List Char} {sign : Sign} (hsign : splitSign cs = (sign, ds))
    (hds : ∀ c ∈ ds, c.isDigit = true ∨ c = '.') :
    readNumber? cs =
      match ds.dropWhile Char.isDigit with
      | [] => readInteger? sign ds
      | c :: rest =>
        if (c :: rest).any isFloatMark then readDecimal? sign ds
        else if c == '_' then readInteger? sign ds
        else none := by
  have hfirst : ∀ c rest, ds = c :: rest → c ≠ 'i' ∧ c ≠ 'n' := by
    rintro c rest rfl
    exact ⟨ne_of_digit_or_point (hds c (by simp)), ne_of_digit_or_point (hds c (by simp))⟩
  have hsecond : ∀ b c rest, ds = b :: c :: rest → c ≠ 'x' ∧ c ≠ 'o' ∧ c ≠ 'b' := by
    rintro b c rest rfl
    exact ⟨ne_of_digit_or_point (hds c (by simp)), ne_of_digit_or_point (hds c (by simp)),
      ne_of_digit_or_point (hds c (by simp))⟩
  rw [readNumber?, hsign]
  dsimp only
  split
  case h_6 => rfl
  all_goals grind

/-- A number is not a truth value, nor a date. -/
theorem readWord?_of_splitSign {cs ds : List Char} {sign : Sign} (hsign : splitSign cs = (sign, ds))
    (htail : cs.tail ⊆ ds) (hds : ∀ c ∈ ds, c.isDigit = true ∨ c = '.')
    (hcs : ∀ c ∈ cs.head?, c.isDigit = true ∨ c = '-') : readWord? cs = readNumber? cs := by
  have hminus : '-' ∉ cs.tail := fun h => absurd rfl (ne_of_digit_or_point (hds _ (htail h)))
  have hcolon : ':' ∉ cs := by
    intro h
    cases cs with
    | nil => cases h
    | cons c cs =>
      rcases List.mem_cons.mp h with rfl | h
      · rcases hcs ':' rfl with h' | h' <;> cases h'
      · exact absurd rfl (ne_of_digit_or_point (hds _ (htail h)))
  have hletter : ∀ c ∈ cs.head?, c ≠ 't' ∧ c ≠ 'f' := by
    intro c hc
    constructor
    · rintro rfl
      rcases hcs 't' hc with h | h <;> cases h
    · rintro rfl
      rcases hcs 'f' hc with h | h <;> cases h
  rw [readWord?, isDatetime_of_marks hminus hcolon, if_neg, if_neg, if_neg Bool.false_ne_true]
  · rintro rfl
    exact (hletter 'f' rfl).2 rfl
  · rintro rfl
    exact (hletter 't' rfl).1 rfl

/-- The sign that a number is written with. -/
theorem splitSign_signChars (negative : Bool) {d : Char} (hd : d.isDigit = true) (ds : List Char) :
    splitSign (signChars negative ++ d :: ds) = (⟨negative, negative⟩, d :: ds) := by
  cases negative with
  | true => rfl
  | false =>
    have hplus : d ≠ '+' := by
      rintro rfl
      cases hd
    have hminus : d ≠ '-' := by
      rintro rfl
      cases hd
    show splitSign (d :: ds) = _
    unfold splitSign
    grind

/-- The first characters of a number with its sign. -/
theorem readWord?_signChars (negative : Bool) {ds : List Char} (hne : ds ≠ [])
    (hfirst : ∀ c ∈ ds.head?, c.isDigit = true) (hds : ∀ c ∈ ds, c.isDigit = true ∨ c = '.') :
    readWord? (signChars negative ++ ds) =
      match ds.dropWhile Char.isDigit with
      | [] => readInteger? ⟨negative, negative⟩ ds
      | c :: rest =>
        if (c :: rest).any isFloatMark then readDecimal? ⟨negative, negative⟩ ds
        else if c == '_' then readInteger? ⟨negative, negative⟩ ds
        else none := by
  obtain ⟨d, es, rfl⟩ := List.exists_cons_of_ne_nil hne
  have hsign := splitSign_signChars negative (hfirst d rfl) es
  rw [readWord?_of_splitSign hsign ?_ hds ?_, readNumber?_of_splitSign hsign hds]
  · cases negative with
    | true => exact List.Subset.refl _
    | false => exact List.subset_cons_self d es
  · cases negative with
    | true =>
      rintro c ⟨⟩
      exact .inr rfl
    | false =>
      rintro c ⟨⟩
      exact .inl (hfirst d rfl)

/-! ## Truth values and integers -/

theorem readWord?_writeBool (b : Bool) : readWord? (writeBool b).toList = some (.boolean b) := by
  cases b <;> rfl

/-- **A natural number is read as itself**, if it is not too large for every reader. -/
theorem readWord?_repr {n : Nat} (hn : n < 2 ^ 128) :
    readWord? (Nat.repr n).toList = some (.integer (some n)) := by
  have hds := Json.digits_toDigits n
  have hplain : '_' ∉ Nat.toDigits 10 n := fun h => by cases hds.isDigit '_' h
  have hwide : inWideRange n = true := by
    simp only [inWideRange, Bool.and_eq_true, decide_eq_true_eq]
    omega
  have hword := readWord?_signChars false hds.ne_nil
    (fun c hc => hds.isDigit c (List.mem_of_mem_head? hc)) (fun c hc => .inl (hds.isDigit c hc))
  rw [List.dropWhile_eq_nil_iff.mpr hds.isDigit] at hword
  rw [Nat.toList_repr]
  refine hword.trans ?_
  have hempty : (Nat.toDigits 10 n).isEmpty = false := List.isEmpty_eq_false_iff.mpr hds.ne_nil
  rw [readInteger?, hempty, hasIdleZero_of_properWhole (Json.properWhole_toDigits n),
    dropUnderscores?_of_not_mem hplain]
  simpa [digitsToNat_toDigits, hwide] using hds.isDigit

end Recap.Toml
