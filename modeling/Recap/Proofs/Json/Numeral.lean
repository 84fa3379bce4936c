import Recap.Json.Document

/-!
# Reading written numbers

A number is written as its digits, a point and a power of ten where it has them. Read back, by itself or
at the front of a longer text, it gives the same digits, as long as nothing follows that would continue
it. The two machines that read numbers, one for keys and one for tokens, agree on where a number ends
(`Mode.run_between_of_takeNumeral?`), so this is shown for the first and holds for the second.

An integer of 64 bits comes back as itself, in a value and in a key.

## Contents
- `Digits`, `Numeral.Proper` — the numbers that can be written.
- `Numeral.chars` — how they are written.
- `NumberEnds` — what may follow a number.
- `Phase.run_chars`, `takeNumeral?_chars` — a written number is read as it is.
- `Mode.run_number`, `Mode.run_between_of_takeNumeral?` — numbers as tokens.
- `Numeral.ofInt`, `Numeral.toNode_ofInt` — integers.
-/

namespace Recap.Json

open Recap.Record

/-! ## Written numbers -/

/-- One digit or more. -/
structure Digits (ds : List Char) : Prop where
  ne_nil : ds ≠ []
  isDigit : ∀ d ∈ ds, d.isDigit

/-- The digits before the point: a zero alone, or digits that do not start with one. -/
def ProperWhole (ds : List Char) : Prop := ds = ['0'] ∨ Digits ds ∧ ds.head? ≠ some '0'

/-- A number that can be written. -/
structure Numeral.Proper (n : Numeral) : Prop where
  whole : ProperWhole n.whole
  fraction : ∀ d ∈ n.fraction, d.isDigit
  power : ∀ e ∈ n.exponent, Digits e.2

/-- The sign of a number; a positive one has none. -/
def signChars : Bool → List Char
  | true => ['-']
  | false => []

/-- The point and what follows it. -/
def fractionChars (ds : List Char) : List Char := if ds.isEmpty then [] else '.' :: ds

/-- The power of ten, always with its sign. -/
def powerChars : Option (Bool × List Char) → List Char
  | none => []
  | some (negative, ds) => 'e' :: (if negative then '-' else '+') :: ds

/-- A number as it is written. -/
def Numeral.chars (n : Numeral) : List Char :=
  signChars n.negative ++ (n.whole ++ (fractionChars n.fraction ++ powerChars n.exponent))

/-- What may follow a number: nothing that continues it. -/
def NumberEnds (cs : List Char) : Prop :=
  ∀ c ∈ cs.head?, c.isDigit = false ∧ c ≠ '.' ∧ c ≠ 'e' ∧ c ≠ 'E'

@[simp] theorem NumberEnds.nil : NumberEnds [] := by simp [NumberEnds]

/-! ## The phases -/

section Phases

variable {negative : Bool}

/-- Digits are taken one by one, in every phase that takes them. -/
theorem Phase.run_digits {phase : List Char → Phase}
    (htake : ∀ d ds, d.isDigit = true → (phase ds).next? d = some (some (phase (d :: ds))))
    {ds : List Char} (hds : ∀ d ∈ ds, d.isDigit = true) (taken rest : List Char) :
    Phase.run negative (phase taken) (ds ++ rest) =
      Phase.run negative (phase (ds.reverse ++ taken)) rest := by
  induction ds generalizing taken with
  | nil => rfl
  | cons d ds ih =>
      have hd : (phase taken).next? d = some (some (phase (d :: taken))) :=
        htake d taken (hds d (by simp))
      rw [List.cons_append, Phase.run, hd]
      show Phase.run negative (phase (d :: taken)) (ds ++ rest) = _
      rw [ih (fun e he => hds e (List.mem_cons_of_mem d he)), List.reverse_cons, List.append_assoc,
        List.singleton_append]

theorem Phase.next?_whole {d : Char} (hd : d.isDigit = true) (ds : List Char) :
    (Phase.whole ds).next? d = some (some (.whole (d :: ds))) := by
  simp [Phase.next?, hd]

theorem Phase.next?_fraction {d : Char} (hd : d.isDigit = true) (w ds : List Char) :
    (Phase.fraction w ds).next? d = some (some (.fraction w (d :: ds))) := by
  simp [Phase.next?, hd]

theorem Phase.next?_power {d : Char} (hd : d.isDigit = true) (w f : List Char) (neg : Bool)
    (ds : List Char) : (Phase.power w f neg ds).next? d = some (some (.power w f neg (d :: ds))) := by
  simp [Phase.next?, hd]

/-- Where a number can end and nothing continues it, it ends. -/
theorem Phase.run_of_ends {p : Phase} {n : Numeral} (hn : p.numeral? negative = some n)
    {rest : List Char} (hrest : NumberEnds rest) : p.run negative rest = some (n, rest) := by
  cases rest with
  | nil => simp [Phase.run, hn]
  | cons c cs =>
      obtain ⟨hdigit, hpoint, he, hE⟩ := hrest c (by simp)
      have hstop : p.next? c = none := by
        cases p <;> simp_all [Phase.numeral?, Phase.next?]
      simp [Phase.run, hstop, hn]

/-- A number whose power of ten is still to come. -/
theorem Phase.run_powerChars {p : Phase} {w f : List Char}
    (hend : p.numeral? negative = some ⟨negative, w, f, none⟩)
    (hmark : p.next? 'e' = some (some (.mark w.reverse f.reverse)))
    {power : Option (Bool × List Char)} (hpower : ∀ e ∈ power, Digits e.2)
    {rest : List Char} (hrest : NumberEnds rest) :
    p.run negative (powerChars power ++ rest) = some (⟨negative, w, f, power⟩, rest) := by
  cases power with
  | none => exact Phase.run_of_ends hend hrest
  | some e =>
      obtain ⟨neg, ds⟩ := e
      have hds : Digits ds := hpower _ rfl
      obtain ⟨d, ds', rfl⟩ := List.exists_cons_of_ne_nil hds.ne_nil
      have hd : d.isDigit = true := hds.isDigit d (by simp)
      -- the letter, the sign and the first digit lead to the phase that takes the other digits
      have hsign : (Phase.mark w.reverse f.reverse).next? (if neg then '-' else '+') =
          some (some (.markSign w.reverse f.reverse neg)) := by
        cases neg <;> rfl
      have hfirst : (Phase.markSign w.reverse f.reverse neg).next? d =
          some (some (.power w.reverse f.reverse neg [d])) := by
        simp [Phase.next?, hd]
      have hlast : (Phase.power w.reverse f.reverse neg (ds'.reverse ++ [d])).numeral? negative =
          some ⟨negative, w, f, some (neg, d :: ds')⟩ := by
        simp [Phase.numeral?]
      have hreach : p.run negative (powerChars (some (neg, d :: ds')) ++ rest) =
          Phase.run negative (.power w.reverse f.reverse neg [d]) (ds' ++ rest) := by
        simp only [powerChars, List.cons_append, Phase.run, hmark, hsign, hfirst]
      rw [hreach, Phase.run_digits (fun d ds hd => Phase.next?_power hd _ _ _ ds)
        (fun e he => hds.isDigit e (List.mem_cons_of_mem d he))]
      exact Phase.run_of_ends hlast hrest

/-- What follows the digits before the point. -/
theorem Phase.run_fractionChars {p : Phase} {w : List Char}
    (hend : p.numeral? negative = some ⟨negative, w, [], none⟩)
    (hpoint : p.next? '.' = some (some (.point w.reverse)))
    (hmark : p.next? 'e' = some (some (.mark w.reverse [])))
    {f : List Char} (hf : ∀ d ∈ f, d.isDigit = true)
    {power : Option (Bool × List Char)} (hpower : ∀ e ∈ power, Digits e.2)
    {rest : List Char} (hrest : NumberEnds rest) :
    p.run negative (fractionChars f ++ (powerChars power ++ rest)) =
      some (⟨negative, w, f, power⟩, rest) := by
  cases f with
  | nil => exact Phase.run_powerChars hend (by simpa using hmark) hpower hrest
  | cons d ds =>
      have hfirst : (Phase.point w.reverse).next? d = some (some (.fraction w.reverse [d])) := by
        simp [Phase.next?, hf d (by simp)]
      have hreach : p.run negative (fractionChars (d :: ds) ++ (powerChars power ++ rest)) =
          Phase.run negative (.fraction w.reverse [d]) (ds ++ (powerChars power ++ rest)) := by
        simp only [fractionChars, List.isEmpty_cons, Bool.false_eq_true, if_false, List.cons_append,
          Phase.run, hpoint, hfirst]
      rw [hreach, Phase.run_digits (fun d ds hd => Phase.next?_fraction hd _ ds)
        (fun e he => hf e (List.mem_cons_of_mem d he))]
      refine Phase.run_powerChars ?_ ?_ hpower hrest
      · simp [Phase.numeral?]
      · simp [Phase.next?]

end Phases

/-! ## Numbers by themselves -/

/-- The phase in which a number is after its first digit. -/
def Phase.ofDigit (d : Char) : Phase := if d = '0' then .zero else .whole [d]

/-- From its first digit on, a number is read as it is written. -/
theorem Phase.run_chars {n : Numeral} (hn : n.Proper) {d : Char} {ds : List Char}
    (hwhole : n.whole = d :: ds) {rest : List Char} (hrest : NumberEnds rest) :
    Phase.run n.negative (.ofDigit d)
      (ds ++ (fractionChars n.fraction ++ (powerChars n.exponent ++ rest))) = some (n, rest) := by
  obtain ⟨negative, whole, fraction, exponent⟩ := n
  obtain ⟨hproper, hf, hp⟩ := hn
  replace hwhole : whole = d :: ds := hwhole
  subst hwhole
  rcases hproper with hzero | ⟨hds, hhead⟩
  · -- a zero takes no further digit
    obtain ⟨rfl, rfl⟩ := List.cons.inj hzero
    exact Phase.run_fractionChars rfl rfl rfl hf hp hrest
  · have hd : d ≠ '0' := fun h => hhead (by rw [h]; rfl)
    have hlast : (Phase.whole (ds.reverse ++ [d])).numeral? negative =
        some ⟨negative, d :: ds, [], none⟩ := by
      simp [Phase.numeral?]
    rw [Phase.ofDigit, if_neg hd, Phase.run_digits (fun d ds hd => Phase.next?_whole hd ds)
      (fun e he => hds.isDigit e (List.mem_cons_of_mem d he))]
    exact Phase.run_fractionChars hlast (by simp [Phase.next?]) (by simp [Phase.next?]) hf hp hrest

theorem ProperWhole.exists_cons {ds : List Char} (h : ProperWhole ds) :
    ∃ d es, ds = d :: es ∧ d.isDigit = true := by
  rcases h with rfl | ⟨hds, -⟩
  · exact ⟨'0', [], rfl, rfl⟩
  · obtain ⟨d, es, rfl⟩ := List.exists_cons_of_ne_nil hds.ne_nil
    exact ⟨d, es, rfl, hds.isDigit d (by simp)⟩

/-- After a digit that starts a text, the rest is read from the phase that the digit leads to. -/
theorem takeNumeral?_digit {d : Char} (hd : d.isDigit = true) (cs : List Char) :
    takeNumeral? (d :: cs) = Phase.run false (.ofDigit d) cs := by
  by_cases hzero : d = '0'
  · subst hzero
    rfl
  · have hminus : d ≠ '-' := by
      rintro rfl
      exact absurd hd (by decide)
    rw [Phase.ofDigit, if_neg hzero, takeNumeral?.eq_3 d cs hminus hzero, if_pos hd]

/-- After the minus sign, too. -/
theorem takeNumeral?_minus {d : Char} (hd : d.isDigit = true) (cs : List Char) :
    takeNumeral? ('-' :: d :: cs) = Phase.run true (.ofDigit d) cs := by
  have hnext : Phase.sign.next? d = some (some (.ofDigit d)) := by
    by_cases hzero : d = '0'
    · subst hzero
      rfl
    · simp [Phase.next?, Phase.ofDigit, hzero, hd]
  rw [takeNumeral?, Phase.run, hnext]

/-- **A written number is read as it is**, up to where it ends. -/
theorem takeNumeral?_chars {n : Numeral} (hn : n.Proper) {rest : List Char} (hrest : NumberEnds rest) :
    takeNumeral? (n.chars ++ rest) = some (n, rest) := by
  obtain ⟨d, ds, hwhole, hd⟩ := hn.whole.exists_cons
  have hrun := Phase.run_chars hn hwhole hrest
  cases hsign : n.negative with
  | false =>
      rw [hsign] at hrun
      rw [Numeral.chars, hsign, hwhole]
      simp only [signChars, List.nil_append, List.cons_append, List.append_assoc]
      rw [takeNumeral?_digit hd]
      exact hrun
  | true =>
      rw [hsign] at hrun
      rw [Numeral.chars, hsign, hwhole]
      simp only [signChars, List.nil_append, List.cons_append, List.append_assoc]
      rw [takeNumeral?_minus hd]
      exact hrun

/-! ## Numbers as tokens -/

/-- Tokens that a step completes come before those of the rest. -/
theorem Mode.run_cons (m : Mode) (c : Char) (cs : List Char) :
    m.run (c :: cs) = (m.step c).1 ++ (m.step c).2.run cs := by
  rw [Mode.run]
  split
  next m' h => simp [h]
  next t ts m' h => simp [h]

/-- Inside a number, the tokens are the number and those of what follows it. -/
theorem Mode.run_number {negative : Bool} {p : Phase} {cs rest : List Char} {n : Numeral}
    (h : p.run negative cs = some (n, rest)) :
    (Mode.number negative p).run cs = .number n :: Mode.run .between rest := by
  induction cs generalizing p with
  | nil =>
      obtain ⟨m, hm, heq⟩ := Option.map_eq_some_iff.mp h
      obtain ⟨rfl, rfl⟩ := Prod.mk.inj heq
      simp [Mode.run, Mode.finish, hm]
  | cons c cs ih =>
      rw [Phase.run] at h
      split at h
      next p' hnext =>
        rw [Mode.run_cons, Mode.step, hnext]
        exact ih h
      next => cases h
      next hnext =>
        obtain ⟨m, hm, heq⟩ := Option.map_eq_some_iff.mp h
        obtain ⟨rfl, rfl⟩ := Prod.mk.inj heq
        have hstep : (Mode.number negative p).step c = (.number m :: (Mode.start c).1, (Mode.start c).2) := by
          simp [Mode.step, hnext, hm]
        rw [Mode.run_cons, hstep, Mode.run_cons .between]
        rfl

/-- A digit starts a number. -/
theorem Mode.start_digit {d : Char} (hd : d.isDigit = true) :
    Mode.start d = ([], .number false (.ofDigit d)) := by
  have hne : ∀ c : Char, c.isDigit = false → d ≠ c := by
    rintro c hc rfl
    rw [hd] at hc
    cases hc
  have hspace : isSpace d = false := by
    simp [isSpace, hne ' ' rfl, hne '\n' rfl, hne '\r' rfl, hne '\t' rfl]
  by_cases hzero : d = '0'
  · subst hzero
    rfl
  · unfold Mode.start
    rw [hspace, Phase.ofDigit, if_neg hzero, if_neg Bool.false_ne_true]
    split
    case h_13 => simp [hd]
    -- no other first character but a zero is a digit
    all_goals first | exact absurd hd (by decide) | exact absurd rfl hzero

/-- A number at the front of a text is its first token. -/
theorem Mode.run_between_of_takeNumeral? {cs rest : List Char} {n : Numeral}
    (h : takeNumeral? cs = some (n, rest)) :
    Mode.run .between cs = .number n :: Mode.run .between rest := by
  cases cs with
  | nil => cases h
  | cons c cs =>
      by_cases hminus : c = '-'
      · subst hminus
        rw [Mode.run_cons]
        exact Mode.run_number h
      · by_cases hd : c.isDigit = true
        · rw [takeNumeral?_digit hd] at h
          rw [Mode.run_cons, Mode.step, Mode.start_digit hd]
          exact Mode.run_number h
        · have hzero : c ≠ '0' := by
            rintro rfl
            exact hd rfl
          rw [takeNumeral?.eq_3 c cs hminus hzero, if_neg hd] at h
          cases h

/-! ## Integers -/

/-- An integer as a number without fraction and power of ten. -/
def Numeral.ofInt (i : Int) : Numeral := ⟨decide (i < 0), Nat.toDigits 10 i.natAbs, [], none⟩

/-- The digits of a natural number. -/
theorem digits_toDigits (n : Nat) : Digits (Nat.toDigits 10 n) :=
  ⟨Nat.toDigits_ne_nil, fun _ hd => Nat.isDigit_of_mem_toDigits (by decide) (by decide) hd⟩

/-- Only zero starts with a zero. -/
theorem head?_toDigits {n : Nat} (h : n ≠ 0) : (Nat.toDigits 10 n).head? ≠ some '0' := by
  induction n using Nat.strongRecOn with
  | ind n ih =>
      by_cases hlt : n < 10
      · rw [Nat.toDigits_of_lt_base hlt]
        simpa using h
      · have hge : 10 ≤ n := by omega
        have hrest := ih (n / 10) (by omega) (by omega)
        obtain ⟨d, ds, hds⟩ := List.exists_cons_of_ne_nil (Nat.toDigits_ne_nil (n := n / 10) (b := 10))
        rw [hds] at hrest
        rw [Nat.toDigits_of_base_le (by decide) hge, hds]
        exact hrest

theorem properWhole_toDigits (n : Nat) : ProperWhole (Nat.toDigits 10 n) := by
  by_cases h : n = 0
  · subst h
    exact .inl (Nat.toDigits_zero 10)
  · exact .inr ⟨digits_toDigits n, head?_toDigits h⟩

theorem Numeral.proper_ofInt (i : Int) : (Numeral.ofInt i).Proper where
  whole := properWhole_toDigits i.natAbs
  fraction := by simp [Numeral.ofInt]
  power := by simp [Numeral.ofInt]

/-- The text of an integer is that of its number. -/
theorem Numeral.chars_ofInt (i : Int) : (Numeral.ofInt i).chars = writeInt i := by
  cases i with
  | ofNat n =>
      have hsign : decide (Int.ofNat n < 0) = false := by simp
      rw [Numeral.chars, Numeral.ofInt, hsign]
      simp [writeInt, signChars, fractionChars, powerChars, Nat.toList_repr]
  | negSucc n =>
      have hsign : decide (Int.negSucc n < 0) = true := by simp [Int.negSucc_lt_zero n]
      rw [Numeral.chars, Numeral.ofInt, hsign]
      simp [writeInt, signChars, fractionChars, powerChars, Nat.toList_repr]

theorem digitsToNat_eq_ofDigitChars (ds : List Char) : digitsToNat ds = Nat.ofDigitChars 10 ds 0 := by
  rw [digitsToNat, Nat.ofDigitChars_eq_foldl]
  congr 1
  funext n d
  rw [Nat.mul_comm]

/-- The digits of a natural number stand for it. -/
theorem digitsToNat_toDigits (n : Nat) : digitsToNat (Nat.toDigits 10 n) = n := by
  rw [digitsToNat_eq_ofDigitChars, Nat.ofDigitChars_ten_toDigits]

/-- An integer that fits in 64 bits is read as itself. -/
theorem Numeral.value?_ofInt {i : Int} (h : isWordSized i = true) :
    (Numeral.ofInt i).value? = some (.int i) := by
  have hbounds : -0x8000000000000000 ≤ i ∧ i < 0x10000000000000000 := by simpa [isWordSized] using h
  have hinteger : (Numeral.ofInt i).isInteger = true := rfl
  have hdigits : digitsToNat (Numeral.ofInt i).whole = i.natAbs := digitsToNat_toDigits i.natAbs
  rw [Numeral.value?, hinteger, hdigits]
  by_cases hneg : i < 0
  · have hsign : (Numeral.ofInt i).negative = true := decide_eq_true hneg
    have hfits : 0 < i.natAbs ∧ i.natAbs ≤ 0x8000000000000000 := by omega
    have habs : -(i.natAbs : Int) = i := by omega
    simp only [hsign, if_true, if_pos hfits, habs]
  · have hsign : (Numeral.ofInt i).negative = false := decide_eq_false hneg
    have hfits : i.natAbs < wordLimit := by
      unfold wordLimit
      omega
    have habs : (i.natAbs : Int) = i := by omega
    simp only [hsign, if_true, Bool.false_eq_true, if_false, if_pos hfits, habs]

/-- **An integer that fits in 64 bits is read as itself**, as data. -/
theorem Numeral.toNode_ofInt {i : Int} (h : isWordSized i = true) :
    (Numeral.ofInt i).toNode = .number (.int i) := by
  rw [Numeral.toNode, Numeral.value?_ofInt h]
  rfl

/-- **An integer as a key** is the number it is written for. -/
theorem keyNumber?_writeInt {i : Int} (h : isWordSized i = true) :
    keyNumber? true (writeInt i) = some { number := .int i, whole := true } := by
  have htake : takeNumeral? (writeInt i) = some (Numeral.ofInt i, []) := by
    have := takeNumeral?_chars (Numeral.proper_ofInt i) NumberEnds.nil
    rwa [Numeral.chars_ofInt, List.append_nil] at this
  rw [keyNumber?, htake]
  show ((Numeral.ofInt i).value?.bind fun value => _) = _
  rw [Numeral.value?_ofInt h]
  rfl

end Recap.Json
