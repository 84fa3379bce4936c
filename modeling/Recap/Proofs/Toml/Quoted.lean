import Recap.Toml.Parser
import Recap.Toml.Printer

/-!
# Texts in quotes come back

A text is written in the plainest of four kinds of quotes that holds it, and each kind has rules of its own:
what is an escape, whether lines may break, how many quotes may stand in a row, and that a line break after
the first quotes does not count. So for each kind there is a lemma that its characters are read as the
text, up to the closing quotes; what it needs of the text is what `chooseQuotes` has looked at.

Two quotes may stand before the three that close a text of several lines. So what follows a text decides
whether the text ends where it should, and must not begin with a quote (`Unquoted`).

## Contents
- `Escaping`, `escaping` — the two ways in which a character is escaped.
- `basicString_basicChars`, `multilineBasic_multilineChars` — double quotes.
- `literalString_append`, `multilineLiteral_append` — single quotes.
- `readSimple_quoteChars` — a text in the quotes that are chosen for it.
-/

namespace Recap.Toml

/-! ## Characters -/

theorem consChar_some (c : Char) (s rest : List Char) :
    consChar c (some (s, rest)) = some (c :: s, rest) := rfl

/-- A character that needs no escape can stand in any quotes. -/
theorem isPlain_of_not_needsEscape {c : Char} (h : needsEscape c = false) : isPlain c = true := by
  simp only [needsEscape, Bool.or_eq_false_iff, decide_eq_false_iff_not, beq_eq_false_iff_ne] at h
  simp only [isPlain, Bool.or_eq_true, Bool.and_eq_true, decide_eq_true_eq]
  omega

/-- A character that is not one of control can stand in any quotes, unless it breaks a line. -/
theorem isPlain_of_not_isControl {c : Char} (h : isControl c = false) (hbreak : c ≠ '\n') :
    isPlain c = true := by
  by_cases htab : c = '\t'
  · subst htab
    rfl
  · simp only [isControl, Bool.or_eq_false_iff, Bool.and_eq_false_iff, decide_eq_false_iff_not,
      beq_eq_false_iff_ne] at h
    simp only [isPlain, Bool.or_eq_true, Bool.and_eq_true, decide_eq_true_eq]
    have hlow : ¬ c.toNat < 32 := by
      rcases h.1 with (h' | h') | h'
      · exact h'
      · exact absurd htab h'
      · exact absurd hbreak h'
    omega

/-- What stands for a character within double quotes: a letter after a backslash, or its number. -/
inductive Escaping (c : Char) : List Char → Prop where
  | letter {d : Char} (hvalue : shortEscape? d = some c) : Escaping c ['\\', d]
  | number {a b : Char} (hvalue : codePoint? ['0', '0', a, b] = some c) :
      Escaping c ['\\', 'u', '0', '0', a, b]

/-- Two digits are enough for the characters of control. -/
theorem codePoint?_hexDigit : ∀ n < 128,
    codePoint? ['0', '0', hexDigit (n / 16), hexDigit (n % 16)] = some (Char.ofNat n) := by
  decide +kernel

theorem escaping {c : Char} (h : needsEscape c = true ∨ c = '"') : Escaping c (escapeChar c) := by
  unfold escapeChar
  split
  case h_8 hquote hslash =>
    have hlow : c.toNat < 128 := by
      rcases h with h | h
      · simp only [needsEscape, Bool.or_eq_true, decide_eq_true_eq, beq_iff_eq] at h
        rcases h with (h | h) | h
        · omega
        · omega
        · exact absurd h hslash
      · exact absurd h hquote
    have hvalue := codePoint?_hexDigit c.toNat hlow
    rw [Char.ofNat_toNat] at hvalue
    exact .number hvalue
  all_goals exact .letter rfl

/-- No letter that is an escape is a blank, a line break or the beginning of a number. -/
theorem shortEscape?_cases {d c : Char} (h : shortEscape? d = some c) :
    d ∈ ['b', 't', 'n', 'f', 'r', 'e', '"', '\\'] := by
  unfold shortEscape? at h
  split at h
  case h_9 => cases h
  all_goals simp

/-! ## Double quotes in one line -/

theorem basicString_escape {c : Char} {written : List Char} (h : Escaping c written)
    (tail : List Char) : basicString (written ++ tail) = consChar c (basicString tail) := by
  cases h with
  | @letter d hvalue =>
    have hletter := shortEscape?_cases hvalue
    simp only [List.mem_cons, List.not_mem_nil, or_false] at hletter
    rcases hletter with rfl | rfl | rfl | rfl | rfl | rfl | rfl | rfl <;> cases hvalue <;> rfl
  | @number a b hvalue =>
    show (codePoint? ['0', '0', a, b]).bind (fun x => consChar x (basicString tail)) = _
    rw [hvalue]
    rfl

theorem basicString_plain {c : Char} (hquote : c ≠ '"') (hplain : needsEscape c = false)
    (tail : List Char) : basicString (c :: tail) = consChar c (basicString tail) := by
  have hslash : c ≠ '\\' := by
    rintro rfl
    cases hplain
  rw [basicString, if_pos (isPlain_of_not_needsEscape hplain)]
  all_goals grind

/-- **A text between double quotes** is read up to the closing quote. -/
theorem basicString_basicChars (cs rest : List Char) :
    basicString (basicChars cs ++ '"' :: rest) = some (cs, rest) := by
  induction cs with
  | nil => rfl
  | cons c cs ih =>
    have hcons : basicChars (c :: cs) =
        (if needsEscape c || c == '"' then escapeChar c else [c]) ++ basicChars cs := rfl
    rw [hcons, List.append_assoc]
    by_cases hescape : (needsEscape c || c == '"') = true
    · have hc : needsEscape c = true ∨ c = '"' := by simpa using hescape
      rw [if_pos hescape, basicString_escape (escaping hc), ih, consChar_some]
    · have hc : needsEscape c = false ∧ c ≠ '"' := by simpa using hescape
      rw [if_neg hescape, List.singleton_append, basicString_plain hc.2 hc.1, ih, consChar_some]

/-! ## Double quotes over several lines -/

/-- What follows a text begins with no quote. -/
def Unquoted (rest : List Char) : Prop := ∀ cs, rest ≠ '"' :: cs ∧ rest ≠ '\'' :: cs

theorem multilineBasic_escape {c : Char} {written : List Char} (h : Escaping c written)
    (tail : List Char) :
    multilineBasic .off (written ++ tail) = consChar c (multilineBasic .off tail) := by
  cases h with
  | @letter d hvalue =>
    have hletter := shortEscape?_cases hvalue
    simp only [List.mem_cons, List.not_mem_nil, or_false] at hletter
    rcases hletter with rfl | rfl | rfl | rfl | rfl | rfl | rfl | rfl <;> cases hvalue <;> rfl
  | @number a b hvalue =>
    show (codePoint? ['0', '0', a, b]).bind (fun x => consChar x (multilineBasic .off tail)) = _
    rw [hvalue]
    rfl

/-- A character stands for itself, a quote if it is not one of three. -/
theorem multilineBasic_single {c : Char} {tail : List Char} (hplain : isPlain c = true)
    (hslash : c ≠ '\\') (hquotes : c = '"' → ∀ cs, tail ≠ '"' :: '"' :: cs) :
    multilineBasic .off (c :: tail) = consChar c (multilineBasic .off tail) := by
  have hbreak : c ≠ '\n' := by
    rintro rfl
    cases hplain
  have hreturn : c ≠ '\r' := by
    rintro rfl
    cases hplain
  rw [multilineBasic, if_pos hplain]
  all_goals grind

/-- Up to two quotes before the closing ones belong to the text. -/
theorem multilineBasic_quotes {rest : List Char} (hrest : Unquoted rest) {k : Nat} (hk : k ≤ 2) :
    multilineBasic .off (List.replicate k '"' ++ '"' :: '"' :: '"' :: rest)
      = some (List.replicate k '"', rest) := by
  have hquote := fun cs => (hrest cs).1
  match k, hk with
  | 0, _ =>
    cases rest with
    | nil => rfl
    | cons c cs =>
      show multilineBasic .off ('"' :: '"' :: '"' :: c :: cs) = some ([], c :: cs)
      rw [multilineBasic] <;> grind
  | 1, _ =>
    cases rest with
    | nil => rfl
    | cons c cs =>
      show multilineBasic .off ('"' :: '"' :: '"' :: '"' :: c :: cs) = some (['"'], c :: cs)
      rw [multilineBasic] <;> grind
  | 2, _ => rfl

/-- How a character is written: a quote, an escape, or itself. -/
theorem multilineChars_cons (quotes : Nat) (c : Char) (cs : List Char) :
    (c = '"' ∧ quotes < 2 ∧ multilineChars quotes (c :: cs) = '"' :: multilineChars (quotes + 1) cs) ∨
    (∃ written, Escaping c written ∧
      multilineChars quotes (c :: cs) = written ++ multilineChars 0 cs) ∨
    c ≠ '"' ∧ c ≠ '\\' ∧ (isPlain c = true ∨ c = '\n') ∧
      multilineChars quotes (c :: cs) = c :: multilineChars 0 cs := by
  rw [multilineChars]
  by_cases hquote : c = '"'
  · by_cases hfew : quotes < 2
    · rw [if_pos hquote, if_pos hfew]
      exact .inl ⟨hquote, hfew, rfl⟩
    · rw [if_pos hquote, if_neg hfew]
      exact .inr (.inl ⟨_, escaping (.inr hquote), rfl⟩)
  · rw [if_neg hquote]
    by_cases hescape : (needsEscape c && decide (c ≠ '\n')) = true
    · rw [if_pos hescape]
      exact .inr (.inl ⟨_, escaping (.inl (Bool.and_eq_true_iff.mp hescape).1), rfl⟩)
    · rw [if_neg hescape]
      have hslash : c ≠ '\\' := by
        rintro rfl
        exact hescape rfl
      refine .inr (.inr ⟨hquote, hslash, ?_, rfl⟩)
      by_cases hbreak : c = '\n'
      · exact .inr hbreak
      · have hplain : needsEscape c = false := by simpa [hbreak] using hescape
        exact .inl (isPlain_of_not_needsEscape hplain)

/-- A quote is written for a quote only, and not after two others. -/
theorem multilineChars_ne_quote {quotes : Nat} {c : Char} (h : c = '"' → 2 ≤ quotes)
    (cs tail more : List Char) : multilineChars quotes (c :: cs) ++ tail ≠ '"' :: more := by
  rcases multilineChars_cons quotes c cs with ⟨hquote, hfew, -⟩ | ⟨written, hescape, heq⟩ |
    ⟨hquote, -, -, heq⟩
  · exact absurd (h hquote) (by omega)
  · rw [heq]
    cases hescape with
    | letter hvalue => simp
    | number hvalue => simp
  · rw [heq]
    simp [hquote]

/-- **A text between three double quotes** is read up to the closing ones, however many quotes came
    before. -/
theorem multilineBasic_multilineChars {rest : List Char} (hrest : Unquoted rest) (cs : List Char)
    (quotes : Nat) :
    multilineBasic .off (multilineChars quotes cs ++ '"' :: '"' :: '"' :: rest) = some (cs, rest) := by
  induction cs generalizing quotes with
  | nil => exact multilineBasic_quotes hrest (Nat.zero_le 2)
  | cons c cs ih =>
    rcases multilineChars_cons quotes c cs with ⟨rfl, hfew, heq⟩ | ⟨written, hescape, heq⟩ |
      ⟨hquote, hslash, hplain, heq⟩
    · rw [heq, List.cons_append]
      -- one or two quotes at the end of the text are read together with the closing ones
      have hsingle : (∀ more, multilineChars (quotes + 1) cs ++ '"' :: '"' :: '"' :: rest ≠
          '"' :: '"' :: more) → multilineBasic .off ('"' :: (multilineChars (quotes + 1) cs ++
            '"' :: '"' :: '"' :: rest)) = some ('"' :: cs, rest) := by
        intro hmore
        rw [multilineBasic_single rfl (by decide) fun _ => hmore, ih, consChar_some]
      cases cs with
      | nil => exact multilineBasic_quotes hrest (Nat.le_succ 1)
      | cons d ds =>
        by_cases hsecond : d = '"' ∧ quotes = 0
        · obtain ⟨rfl, rfl⟩ := hsecond
          cases ds with
          | nil => exact multilineBasic_quotes hrest (Nat.le_refl 2)
          | cons e es =>
            refine hsingle fun more hmore => ?_
            have htwo : multilineChars 1 ('"' :: e :: es) = '"' :: multilineChars 2 (e :: es) := rfl
            rw [Nat.zero_add, htwo, List.cons_append] at hmore
            exact multilineChars_ne_quote (fun _ => Nat.le_refl 2) es _ _ (List.cons.inj hmore).2
        · refine hsingle fun more => multilineChars_ne_quote (fun hd => ?_) ds _ _
          have hne : quotes ≠ 0 := fun hzero => hsecond ⟨hd, hzero⟩
          omega
    · rw [heq, List.append_assoc, multilineBasic_escape hescape, ih, consChar_some]
    · rw [heq, List.cons_append]
      rcases hplain with hplain | rfl
      · rw [multilineBasic_single hplain hslash fun h => absurd h hquote, ih, consChar_some]
      · show consChar '\n' (multilineBasic .off _) = _
        rw [ih, consChar_some]

/-! ## Single quotes -/

/-- **A text between single quotes** is read up to the closing quote. -/
theorem literalString_append {cs : List Char} (hplain : ∀ c ∈ cs, isPlain c = true)
    (hquote : '\'' ∉ cs) (rest : List Char) :
    literalString (cs ++ '\'' :: rest) = some (cs, rest) := by
  induction cs with
  | nil => rfl
  | cons c cs ih =>
    obtain ⟨hc, hcs⟩ := List.forall_mem_cons.mp hplain
    have hne : c ≠ '\'' := fun h => hquote (h ▸ List.mem_cons_self)
    rw [List.cons_append, literalString, if_pos hc,
      ih hcs fun hmem => hquote (List.mem_cons_of_mem c hmem), consChar_some]
    exact hne

theorem multilineLiteral_single {c : Char} {tail : List Char} (hplain : isPlain c = true)
    (hquotes : c = '\'' → ∀ cs, tail ≠ '\'' :: '\'' :: cs) :
    multilineLiteral (c :: tail) = consChar c (multilineLiteral tail) := by
  have hbreak : c ≠ '\n' := by
    rintro rfl
    cases hplain
  have hreturn : c ≠ '\r' := by
    rintro rfl
    cases hplain
  rw [multilineLiteral, if_pos hplain]
  all_goals grind

theorem multilineLiteral_quotes {rest : List Char} (hrest : Unquoted rest) {k : Nat} (hk : k ≤ 2) :
    multilineLiteral (List.replicate k '\'' ++ '\'' :: '\'' :: '\'' :: rest)
      = some (List.replicate k '\'', rest) := by
  have hquote := fun cs => (hrest cs).2
  match k, hk with
  | 0, _ =>
    cases rest with
    | nil => rfl
    | cons c cs =>
      show multilineLiteral ('\'' :: '\'' :: '\'' :: c :: cs) = some ([], c :: cs)
      rw [multilineLiteral] <;> grind
  | 1, _ =>
    cases rest with
    | nil => rfl
    | cons c cs =>
      show multilineLiteral ('\'' :: '\'' :: '\'' :: '\'' :: c :: cs) = some (['\''], c :: cs)
      rw [multilineLiteral]
      grind
  | 2, _ => rfl

theorem hasRun_of_le {q : Char} {n k : Nat} {cs : List Char} (h : n ≤ k) : hasRun q n k cs = true := by
  cases cs <;> simp [hasRun, h]

/-- A run that does not come about after some characters does not come about after fewer. -/
theorem hasRun_mono {q : Char} {n j k : Nat} {cs : List Char} (hjk : j ≤ k)
    (h : hasRun q n k cs = false) : hasRun q n j cs = false := by
  induction cs generalizing j k with
  | nil =>
    simp only [hasRun, decide_eq_false_iff_not] at h ⊢
    omega
  | cons c cs ih =>
    simp only [hasRun, Bool.or_eq_false_iff, decide_eq_false_iff_not] at h ⊢
    refine ⟨by omega, ih ?_ h.2⟩
    split
    · exact Nat.succ_le_succ hjk
    · exact Nat.le_refl 0

/-- The rest of a text without three quotes in a row has no three in a row either. -/
theorem hasRun_tail {q c : Char} {n : Nat} {cs : List Char} (h : hasRun q n 0 (c :: cs) = false) :
    hasRun q n 0 cs = false := by
  simp only [hasRun, Bool.or_eq_false_iff] at h
  exact hasRun_mono (Nat.zero_le _) h.2

/-- **A text between three single quotes** is read up to the closing ones. -/
theorem multilineLiteral_append {rest : List Char} (hrest : Unquoted rest) {cs : List Char}
    (hplain : ∀ c ∈ cs, isPlain c = true ∨ c = '\n') (hrun : hasRun '\'' 3 0 cs = false) :
    multilineLiteral (cs ++ '\'' :: '\'' :: '\'' :: rest) = some (cs, rest) := by
  induction cs with
  | nil => exact multilineLiteral_quotes hrest (Nat.zero_le 2)
  | cons c cs ih =>
    obtain ⟨hc, hcs⟩ := List.forall_mem_cons.mp hplain
    replace ih := ih hcs (hasRun_tail hrun)
    rw [List.cons_append]
    rcases hc with hc | rfl
    · have hsingle : (c = '\'' → ∀ more, cs ++ '\'' :: '\'' :: '\'' :: rest ≠ '\'' :: '\'' :: more) →
          multilineLiteral (c :: (cs ++ '\'' :: '\'' :: '\'' :: rest)) = some (c :: cs, rest) := by
        intro hmore
        rw [multilineLiteral_single hc hmore, ih, consChar_some]
      by_cases hquote : c = '\''
      · subst hquote
        -- one or two quotes at the end of the text are read together with the closing ones
        match cs, hrun with
        | [], _ => exact multilineLiteral_quotes hrest (Nat.le_succ 1)
        | [d], _ =>
          by_cases hd : d = '\''
          · subst hd
            exact multilineLiteral_quotes hrest (Nat.le_refl 2)
          · exact hsingle fun _ more hmore => hd (List.cons.inj hmore).1
        | d :: e :: ds, hrun =>
          refine hsingle fun _ more hmore => ?_
          obtain ⟨rfl, hrest'⟩ := List.cons.inj hmore
          obtain ⟨rfl, -⟩ := List.cons.inj hrest'
          rw [show hasRun '\'' 3 0 ('\'' :: '\'' :: '\'' :: ds) = hasRun '\'' 3 3 ds from rfl,
            hasRun_of_le (Nat.le_refl 3)] at hrun
          cases hrun
      · exact hsingle fun h => absurd h hquote
    · show consChar '\n' (multilineLiteral _) = _
      rw [ih, consChar_some]

/-! ## The quotes that are chosen -/

/-- Single quotes are chosen for what can stand there as it is. -/
theorem of_chooseQuotes_literal {cs : List Char} (h : chooseQuotes cs = .literal) :
    (∀ c ∈ cs, isPlain c = true) ∧ '\'' ∉ cs := by
  have hchosen : cs.any isControl = false ∧ '\n' ∉ cs ∧ '\'' ∉ cs := by
    unfold chooseQuotes at h
    grind
  obtain ⟨hcontrol, hline, hquote⟩ := hchosen
  refine ⟨fun c hc => ?_, hquote⟩
  have hcc : isControl c = false := by simpa using List.any_eq_false.mp hcontrol c hc
  exact isPlain_of_not_isControl hcc fun hbreak => hline (hbreak ▸ hc)

/-- Three single quotes are chosen for what can stand there as it is, and does not end there. -/
theorem of_chooseQuotes_multilineLiteral {cs : List Char} (h : chooseQuotes cs = .multilineLiteral) :
    (∀ c ∈ cs, isPlain c = true ∨ c = '\n') ∧ hasRun '\'' 3 0 cs = false := by
  have hchosen : cs.any isControl = false ∧ hasRun '\'' 3 0 cs = false := by
    unfold chooseQuotes at h
    grind
  refine ⟨fun c hc => ?_, hchosen.2⟩
  have hcc : isControl c = false := by simpa using List.any_eq_false.mp hchosen.1 c hc
  by_cases hbreak : c = '\n'
  · exact .inr hbreak
  · exact .inl (isPlain_of_not_isControl hcc hbreak)

/-- The line break that is written before a text of several lines is dropped, and there is no other to
    drop. -/
theorem dropFirstBreak_lead {cs written : List Char}
    (h : ∀ c ∈ written.head?, c = '\r' ∨ c = '\n' → '\n' ∈ cs) :
    dropFirstBreak ((if cs.contains '\n' then ['\n'] else []) ++ written) = written := by
  by_cases hlines : '\n' ∈ cs
  · rw [if_pos (List.contains_iff_mem.mpr hlines)]
    rfl
  · rw [if_neg (fun hc => hlines (List.contains_iff_mem.mp hc)), List.nil_append]
    cases written with
    | nil => rfl
    | cons c written =>
      have hc : c ≠ '\n' ∧ c ≠ '\r' := by
        have hc := h c rfl
        exact ⟨fun hbreak => hlines (hc (.inr hbreak)), fun hreturn => hlines (hc (.inl hreturn))⟩
      have hnone : newline? (c :: written) = none := by
        unfold newline?
        grind
      rw [dropFirstBreak, hnone, Option.getD_none]

/-- No text between double quotes begins with one that is not its end. -/
theorem head?_basicChars (cs : List Char) : ∀ c ∈ (basicChars cs).head?, c ≠ '"' := by
  cases cs with
  | nil => simp [basicChars]
  | cons c cs =>
    have hcons : basicChars (c :: cs) =
        (if needsEscape c || c == '"' then escapeChar c else [c]) ++ basicChars cs := rfl
    rw [hcons]
    by_cases hescape : (needsEscape c || c == '"') = true
    · rw [if_pos hescape]
      have hwritten : Escaping c (escapeChar c) := escaping (by simpa using hescape)
      generalize escapeChar c = written at hwritten
      cases hwritten <;> simp
    · rw [if_neg hescape]
      simpa using fun hc => hescape (by simp [hc])

/-- A text between three double quotes begins with a line break only where it has one, and never with a
    carriage return. -/
theorem head?_multilineChars (quotes : Nat) (cs : List Char) :
    ∀ c ∈ (multilineChars quotes cs).head?, c = '\r' ∨ c = '\n' → '\n' ∈ cs := by
  cases cs with
  | nil => simp [multilineChars]
  | cons c cs =>
    rcases multilineChars_cons quotes c cs with ⟨rfl, -, heq⟩ | ⟨written, hescape, heq⟩ |
      ⟨-, -, hplain, heq⟩
    · simp [heq]
    · rw [heq]
      cases hescape <;> simp
    · rw [heq]
      rintro d hd (rfl | rfl)
      · cases Option.some.inj hd
        rcases hplain with hplain | hbreak
        · cases hplain
        · cases hbreak
      · cases Option.some.inj hd
        exact List.mem_cons_self

theorem readSimple_basic {cs : List Char} (h : ∀ more, cs ≠ '"' :: '"' :: more) :
    readSimple ('"' :: cs) = (basicString cs).map fun (s, rest) => (.string (String.ofList s), rest) := by
  unfold readSimple
  split <;> grind

theorem readSimple_literal {cs : List Char} (h : ∀ more, cs ≠ '\'' :: '\'' :: more) :
    readSimple ('\'' :: cs) =
      (literalString cs).map fun (s, rest) => (.string (String.ofList s), rest) := by
  unfold readSimple
  split <;> grind

/-- **A text comes back** from the quotes that are chosen for it. -/
theorem readSimple_quoteChars (cs : List Char) {rest : List Char} (hrest : Unquoted rest) :
    readSimple (quoteChars cs ++ rest) = some (.string (String.ofList cs), rest) := by
  unfold quoteChars
  cases hquotes : chooseQuotes cs with
  | basic =>
    have hfew : ∀ more, basicChars cs ++ '"' :: rest ≠ '"' :: '"' :: more := by
      intro more hmore
      have hhead := head?_basicChars cs
      cases hwritten : basicChars cs with
      | nil =>
        rw [hwritten] at hmore
        exact (hrest more).1 (List.cons.inj hmore).2
      | cons c written =>
        rw [hwritten] at hmore hhead
        exact hhead c rfl (List.cons.inj hmore).1
    simp only [List.cons_append, List.nil_append, List.append_assoc]
    rw [readSimple_basic hfew, basicString_basicChars]
    rfl
  | literal =>
    obtain ⟨hplain, hquote⟩ := of_chooseQuotes_literal hquotes
    have hfew : ∀ more, cs ++ '\'' :: rest ≠ '\'' :: '\'' :: more := by
      intro more hmore
      cases cs with
      | nil => exact (hrest more).2 (List.cons.inj hmore).2
      | cons c cs => exact hquote ((List.cons.inj hmore).1 ▸ List.mem_cons_self)
    simp only [List.cons_append, List.nil_append, List.append_assoc]
    rw [readSimple_literal hfew, literalString_append hplain hquote]
    rfl
  | multilineBasic =>
    simp only [List.cons_append, List.nil_append, List.append_assoc]
    show (multilineBasic .off (dropFirstBreak _)).map _ = _
    rw [dropFirstBreak_lead, multilineBasic_multilineChars hrest]
    · rfl
    · cases hwritten : multilineChars 0 cs with
      | nil => simp
      | cons c written => simpa [hwritten] using head?_multilineChars 0 cs
  | multilineLiteral =>
    obtain ⟨hplain, hrun⟩ := of_chooseQuotes_multilineLiteral hquotes
    simp only [List.cons_append, List.nil_append, List.append_assoc]
    show (multilineLiteral (dropFirstBreak _)).map _ = _
    rw [dropFirstBreak_lead, multilineLiteral_append hrest hplain hrun]
    · rfl
    · cases cs with
      | nil => simp
      | cons c cs =>
        rintro d hd (rfl | rfl)
        · cases Option.some.inj hd
          rcases hplain _ List.mem_cons_self with hc | hc <;> cases hc
        · cases Option.some.inj hd
          exact List.mem_cons_self

end Recap.Toml
