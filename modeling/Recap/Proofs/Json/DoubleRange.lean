import Recap.Proofs.Decimal.Rounding
import Recap.Proofs.Json.Double

/-!
# Written doubles are within the range of doubles

Digits are read as a whole number times a power of ten, each of them rounded to a double, and their product
or quotient is rounded once more. So what is read need not be the double that was written, and the digits of a
number just below the largest double could be read as none at all. Those that are written never are: every
finite double is read as a double (`exists_toNode_of_finite`).

Only a power of ten above zero can lead out of the range. There the digits stand for one and a half units less
than the largest double could, save for the largest double itself, which is checked on its own, and the
roundings do not make up for that (`not_isInf_product`).

## Contents
- `not_isInf_product` — the product stays within the range.
- `exists_scale?`, `exists_scale?_of_neg` — so does what digits stand for.
- `Numeral.parts_eq` — the significand of a number with few digits is all of them.
- `Numeral.exists_magnitude?_ofDecimal` — a decimal is read as some double.
- `exists_scale?_shortest`, `exists_toNode_of_finite` — every finite double is.
-/

namespace Recap.Json

open Recap.Decimal

/-! ## Products -/

/-- Half a unit of the last place of the largest double. -/
def lastHalf : ℚ := 2 ^ (970 : Int)

theorem beyondMost_eq : beyondMost = 2 ^ 54 * lastHalf := by
  rw [beyondMost, lastHalf, ← zpow_natCast, ← zpow_add₀ (by norm_num)]
  rfl

theorem cast_lastHalf : lastHalf = ((2 ^ 970 : Nat) : ℚ) := by
  rw [lastHalf, Nat.cast_pow]
  exact zpow_natCast 2 970

theorem lastHalf_pos : 0 < lastHalf := zpow_pos (by norm_num) _

/-- One and a half units below the largest double, as a whole number. -/
theorem cast_bound : (((2 ^ 54 - 3) * 2 ^ 970 : Nat) : ℚ) = (2 ^ 54 - 3) * lastHalf := by
  have hfirst : ((2 ^ 54 - 3 : Nat) : ℚ) = 2 ^ 54 - 3 := by norm_num
  rw [Nat.cast_mul, cast_lastHalf, hfirst]

/-- A product of doubles that are at most two whole numbers, whose product is far enough below the largest
    double. -/
theorem not_isInf_of_nat {x y : Float} {a b : Nat} (hx : AtMost x a) (hy : AtMost y b)
    (h : a * b + 2 ^ 970 < 2 ^ 1024) : (x * y).isInf = false := by
  refine not_isInf_mul hx hy ?_
  have hbeyond : beyondMost = ((2 ^ 1024 : Nat) : ℚ) := by
    rw [beyondMost, Nat.cast_pow]
    exact zpow_natCast 2 1024
  show (a : ℚ) * b + lastHalf < beyondMost
  rw [cast_lastHalf, hbeyond, ← Nat.cast_mul, ← Nat.cast_add]
  exact Nat.cast_lt.mpr h

/-- The one power of ten for which the bound on all of them is too weak. -/
theorem isAtMost_tens : isAtMost (tens 292) (10 ^ 292 + 2 * 10 ^ 275) = true := by decide +kernel

/-- Where the largest double is among the powers of ten, and how far the products below stay away from it. -/
theorem most_among_tens :
    ((2 ^ 54 - 3) * 2 ^ 970 < 10 ^ 309 ∧ (2 ^ 54 - 3) * 2 ^ 970 < 17976931348623157 * 10 ^ 292 ∧
      (2 ^ 54 - 3) * 2 ^ 970 < 2 ^ 53 * (10 ^ 292 * 10)) ∧
    (10 ^ 17 + 8) * (11 * 10 ^ 290) + 2 ^ 970 < 2 ^ 1024 ∧
    17976931348623157 * (10 ^ 292 + 2 * 10 ^ 275) + 2 ^ 970 < 2 ^ 1024 := by
  decide +kernel

/-- A whole number that is no larger than that has no more than three hundred and nine digits. -/
theorem power_le_of_product {n p : Nat} (hn : n ≠ 0) (hvalue : n * 10 ^ p ≤ (2 ^ 54 - 3) * 2 ^ 970) :
    p ≤ 308 := by
  have hlt : (2 ^ 54 - 3) * 2 ^ 970 < 10 ^ 309 := most_among_tens.1.1
  have hle : 10 ^ p ≤ n * 10 ^ p := Nat.le_mul_of_pos_left _ (Nat.pos_of_ne_zero hn)
  by_contra hlarge
  obtain ⟨k, rfl⟩ := Nat.exists_eq_add_of_lt (not_le.mp hlarge)
  have hsplit : 10 ^ (308 + k + 1) = 10 ^ k * 10 ^ 309 := by
    rw [← Nat.pow_add]
    congr 1
    omega
  have hten : 10 ^ 309 ≤ 10 ^ k * 10 ^ 309 := Nat.le_mul_of_pos_left _ (by positivity)
  rw [hsplit] at hle hvalue
  exact absurd (hten.trans (hle.trans hvalue)) (not_le.mpr hlt)

section Product

variable {n p : Nat}

/-- Digits that are a double: only the power of ten is rounded. -/
theorem not_isInf_of_few_digits (hn : n ≠ 0) (hsmall : n < 2 ^ 53) (hp : p ≤ 308)
    (hvalue : n * 10 ^ p ≤ (2 ^ 54 - 3) * 2 ^ 970) :
    ((UInt64.ofNat n).toFloat * tens p).isInf = false := by
  have hfloat := atMost_toFloat hn (hsmall.trans (by decide))
  rw [if_pos hsmall] at hfloat
  refine not_isInf_mul hfloat (atMost_ofScientific hp) ?_
  have hvalue' : (n : ℚ) * 10 ^ p ≤ (2 ^ 54 - 3) * lastHalf := by
    have h : ((n * 10 ^ p : Nat) : ℚ) ≤ (((2 ^ 54 - 3) * 2 ^ 970 : Nat) : ℚ) := Nat.cast_le.mpr hvalue
    rw [cast_bound] at h
    exact_mod_cast h
  have hpos := lastHalf_pos
  show (n : ℚ) * (10 ^ p * (1 + 1 / 2 ^ 53)) + lastHalf < beyondMost
  rw [beyondMost_eq, ← mul_assoc]
  generalize (n : ℚ) * 10 ^ p = value at hvalue'
  generalize lastHalf = half at hvalue' hpos
  linarith

/-- How far digits are rounded that have one bit too many, or `k` bits more than that. -/
theorem atMost_many_digits {a : Nat} (k : Nat) (hn : n ≠ 0) (hlarge : ¬ n < 2 ^ 53) (hbits : n < 2 ^ (54 + k))
    (hk : k ≤ 10) (ha : n + 2 ^ k ≤ a) : AtMost (UInt64.ofNat n).toFloat (a : ℚ) := by
  have hword : n < 2 ^ 64 := hbits.trans_le (Nat.pow_le_pow_right (by decide) (by omega))
  have hfloat := atMost_toFloat hn hword
  rw [if_neg hlarge] at hfloat
  have hlog : n.log2 < 54 + k := (Nat.log2_lt hn).mpr hbits
  have hunit : (2 : ℚ) ^ ((n.log2 : Int) - 53) ≤ 2 ^ (k : Int) :=
    zpow_le_zpow_right₀ (by norm_num) (by omega)
  have ha' : (n : ℚ) + 2 ^ k ≤ a := by exact_mod_cast ha
  rw [zpow_natCast] at hunit
  exact hfloat.mono (by linarith)

/-- Products far below the largest double. -/
theorem not_isInf_of_low_power (hn : n ≠ 0) (hdigits : n ≤ 10 ^ 17) (hlarge : ¬ n < 2 ^ 53) (hp : p < 292) :
    ((UInt64.ofNat n).toFloat * tens p).isInf = false := by
  have ha : AtMost (UInt64.ofNat n).toFloat ((10 ^ 17 + 8 : Nat) : ℚ) :=
    atMost_many_digits 3 hn hlarge (hdigits.trans_lt (by decide)) (by decide) (by omega)
  have hb : AtMost (tens p) ((11 * 10 ^ 290 : Nat) : ℚ) := by
    refine (atMost_ofScientific (by omega : p ≤ 308)).mono ?_
    have hten : (10 : ℚ) ^ p ≤ 10 ^ 291 := pow_le_pow_right₀ (by norm_num) (by omega)
    calc (10 : ℚ) ^ p * (1 + 1 / 2 ^ 53) ≤ 10 ^ 291 * (11 / 10) :=
          mul_le_mul hten (by norm_num) (by norm_num) (by positivity)
      _ = ((11 * 10 ^ 290 : Nat) : ℚ) := by
          rw [pow_succ, Nat.cast_mul, Nat.cast_pow, Nat.cast_ofNat, Nat.cast_ofNat]
          generalize (10 : ℚ) ^ 290 = a
          ring
  exact not_isInf_of_nat ha hb most_among_tens.2.1

/-- Products just below the largest double: the digits are rounded by one at most. -/
theorem not_isInf_of_last_power (hn : n ≠ 0) (hlarge : ¬ n < 2 ^ 53)
    (hvalue : n * 10 ^ 292 ≤ (2 ^ 54 - 3) * 2 ^ 970) :
    ((UInt64.ofNat n).toFloat * tens 292).isInf = false := by
  have hn292 : n ≤ 17976931348623156 := by
    have hlt : (2 ^ 54 - 3) * 2 ^ 970 < 17976931348623157 * 10 ^ 292 := most_among_tens.1.2.1
    have h := Nat.lt_of_mul_lt_mul_right (hvalue.trans_lt hlt)
    omega
  have ha : AtMost (UInt64.ofNat n).toFloat ((17976931348623157 : Nat) : ℚ) :=
    atMost_many_digits 0 hn hlarge (hn292.trans_lt (by decide)) (by decide) (by omega)
  exact not_isInf_of_nat ha (AtMost.of_isAtMost isAtMost_tens) most_among_tens.2.2

/-- Many digits and a power of ten that is higher yet do not go together. -/
theorem power_le_of_many_digits (hlarge : ¬ n < 2 ^ 53) (hvalue : n * 10 ^ p ≤ (2 ^ 54 - 3) * 2 ^ 970) :
    p ≤ 292 := by
  by_contra hhigh
  obtain ⟨k, rfl⟩ := Nat.exists_eq_add_of_lt (not_le.mp hhigh)
  have hlt : (2 ^ 54 - 3) * 2 ^ 970 < 2 ^ 53 * (10 ^ 292 * 10) := most_among_tens.1.2.2
  rw [Nat.add_assoc, pow_add] at hvalue
  have hten : 10 ^ 292 * 10 ≤ 10 ^ 292 * 10 ^ (k + 1) :=
    Nat.mul_le_mul_left _ (Nat.le_self_pow (Nat.succ_ne_zero k) 10)
  have hmul := Nat.mul_le_mul (not_lt.mp hlarge) hten
  exact absurd (hmul.trans hvalue) (not_le.mpr hlt)

/-- **The product of digits and a power of ten is finite**, if it is at most one and a half units below the
    largest double. -/
theorem not_isInf_product (hn : n ≠ 0) (hdigits : n ≤ 10 ^ 17)
    (hvalue : n * 10 ^ p ≤ (2 ^ 54 - 3) * 2 ^ 970) :
    p ≤ 308 ∧ ((UInt64.ofNat n).toFloat * tens p).isInf = false := by
  have hp := power_le_of_product hn hvalue
  refine ⟨hp, ?_⟩
  by_cases hsmall : n < 2 ^ 53
  · exact not_isInf_of_few_digits hn hsmall hp hvalue
  · rcases Nat.lt_or_eq_of_le (power_le_of_many_digits hsmall hvalue) with hlow | rfl
    · exact not_isInf_of_low_power hn hdigits hsmall hlow
    · exact not_isInf_of_last_power hn hsmall hvalue

end Product

/-- What digits and a power of ten stand for is no double only beyond the range. -/
theorem exists_scale?_of_neg (n : Nat) {power : Int} (h : power < 0) : ∃ y, scale? n power = some y :=
  ⟨_, by rw [scale?, if_pos h]⟩

theorem exists_scale? {n p : Nat} (hn : n ≠ 0) (hdigits : n ≤ 10 ^ 17)
    (hvalue : n * 10 ^ p ≤ (2 ^ 54 - 3) * 2 ^ 970) : ∃ y, scale? n p = some y := by
  obtain ⟨hp, hfinite⟩ := not_isInf_product hn hdigits hvalue
  have hneg : ¬ ((p : Int) < 0) := by omega
  have hmost : (p : Int) ≤ mostTens := by
    unfold mostTens
    omega
  refine ⟨(UInt64.ofNat n).toFloat * tens p, ?_⟩
  rw [scale?, if_neg hneg, if_pos hmost, Int.toNat_natCast]
  show (if ((UInt64.ofNat n).toFloat * tens p).isInf then none
    else some ((UInt64.ofNat n).toFloat * tens p)) = _
  rw [hfinite, if_neg Bool.false_ne_true]

/-! ## Digits -/

/-- More digits make a number larger. -/
theorem le_readDigits (ds : List Char) (n : Nat) :
    n ≤ ds.foldl (fun n d => n * 10 + (d.toNat - '0'.toNat)) n := by
  induction ds generalizing n with
  | nil => exact Nat.le_refl n
  | cons d ds ih =>
      have h := ih (n * 10 + (d.toNat - '0'.toNat))
      rw [List.foldl_cons]
      omega

/-- Digits are taken into the significand as long as they fit. -/
theorem takeDigits_eq {n : Nat} {ds : List Char}
    (h : ds.foldl (fun n d => n * 10 + (d.toNat - '0'.toNat)) n < wordLimit) :
    takeDigits n ds = (ds.foldl (fun n d => n * 10 + (d.toNat - '0'.toNat)) n, []) := by
  induction ds generalizing n with
  | nil => rfl
  | cons d ds ih =>
      rw [List.foldl_cons] at h
      have hfits : n * 10 + (d.toNat - '0'.toNat) < wordLimit := (le_readDigits ds _).trans_lt h
      rw [takeDigits, List.foldl_cons]
      show (if n * 10 + (d.toNat - '0'.toNat) < wordLimit then _ else _) = _
      rw [if_pos hfits]
      exact ih h

/-- **The significand of a number** is all of its digits, if they fit in 64 bits. -/
theorem Numeral.parts_eq {n : Numeral} (h : digitsToNat (n.whole ++ n.fraction) < wordLimit) :
    n.parts = (digitsToNat (n.whole ++ n.fraction), -(n.fraction.length : Int)) := by
  have happend : digitsToNat (n.whole ++ n.fraction) =
      n.fraction.foldl (fun n d => n * 10 + (d.toNat - '0'.toNat)) (digitsToNat n.whole) :=
    List.foldl_append
  rw [happend] at h ⊢
  have hwhole : takeDigits 0 n.whole = (digitsToNat n.whole, []) :=
    takeDigits_eq ((le_readDigits n.fraction _).trans_lt h)
  rw [Numeral.parts, hwhole]
  show ((takeDigits (digitsToNat n.whole) n.fraction).1, ((List.length ([] : List Char) : Nat) : Int) -
    ((n.fraction.length - (takeDigits (digitsToNat n.whole) n.fraction).2.length : Nat) : Int)) = _
  rw [takeDigits_eq h]
  simp

/-- The digits of a number with zeros after them. -/
theorem digitsToNat_zeros (n k : Nat) :
    digitsToNat (Nat.toDigits 10 n ++ List.replicate k '0') = n * 10 ^ k := by
  rw [digitsToNat_eq_ofDigitChars, Nat.ofDigitChars_append, Nat.ofDigitChars_ten_toDigits,
    Nat.ofDigitChars_replicate_zero, Nat.mul_comm]

/-- And with zeros before them. -/
theorem zeros_digitsToNat (n k : Nat) :
    digitsToNat (List.replicate k '0' ++ Nat.toDigits 10 n) = n := by
  rw [digitsToNat_eq_ofDigitChars, Nat.ofDigitChars_append, Nat.ofDigitChars_replicate_zero, Nat.mul_zero,
    Nat.ofDigitChars_ten_toDigits]

/-! ## Decimals -/

/-- A number with digits after its point and no power of ten. -/
theorem Numeral.exists_magnitude?_of_point {n : Numeral} (hpower : n.exponent = none)
    (hword : digitsToNat (n.whole ++ n.fraction) < wordLimit) (hfraction : 0 < n.fraction.length) :
    ∃ y, n.magnitude? = some y := by
  have hneg : -(n.fraction.length : Int) < 0 := by omega
  obtain ⟨y, hy⟩ := exists_scale?_of_neg (digitsToNat (n.whole ++ n.fraction)) hneg
  refine ⟨y, ?_⟩
  rw [Numeral.magnitude?, Numeral.parts_eq hword, hpower]
  exact hy

/-- A decimal that is written without a power of ten: a digit stands after the point, so nothing is
    multiplied. -/
theorem Numeral.exists_magnitude?_positional (negative : Bool) {n : Nat} (hdigits : n ≤ 10 ^ 17) {point : Int}
    (hpositional : numberStyle.positional point = true) :
    ∃ y, (Numeral.ofDecimal negative (Nat.toDigits 10 n) point).magnitude? = some y := by
  have hpos : 0 < (Nat.toDigits 10 n).length := List.length_pos_iff.mpr Nat.toDigits_ne_nil
  have hlow : n < 10 ^ (Nat.toDigits 10 n).length :=
    (Nat.length_toDigits_le_iff (by decide) hpos).mp (Nat.le_refl _)
  have hword : n < wordLimit := hdigits.trans_lt (by decide)
  rw [Numeral.ofDecimal, if_pos hpositional]
  split
  case isTrue hwhole =>
    have h16 : point ≤ 16 := by
      rw [Style.positional, if_pos (show 0 < point by omega)] at hpositional
      exact of_decide_eq_true hpositional
    refine exists_magnitude?_of_point rfl ?_ Nat.one_pos
    show digitsToNat ((Nat.toDigits 10 n ++ List.replicate _ '0') ++ ['0']) < wordLimit
    rw [List.append_assoc, ← List.replicate_succ', digitsToNat_zeros]
    generalize hk : (point - (Nat.toDigits 10 n).length).toNat = k
    calc n * 10 ^ (k + 1) < 10 ^ (Nat.toDigits 10 n).length * 10 ^ (k + 1) :=
          Nat.mul_lt_mul_of_pos_right hlow (by positivity)
      _ = 10 ^ ((Nat.toDigits 10 n).length + (k + 1)) := (Nat.pow_add _ _ _).symm
      _ ≤ 10 ^ 17 := Nat.pow_le_pow_right (by decide) (by omega)
      _ < wordLimit := by decide
  case isFalse =>
    split
    case isTrue hpoint =>
      refine exists_magnitude?_of_point rfl ?_ ?_
      · rwa [List.take_append_drop, digitsToNat_toDigits]
      · show 0 < ((Nat.toDigits 10 n).drop _).length
        rw [List.length_drop]
        omega
    case isFalse hpoint =>
      refine exists_magnitude?_of_point rfl ?_ ?_
      · show digitsToNat ('0' :: (List.replicate _ '0' ++ Nat.toDigits 10 n)) < wordLimit
        rwa [← List.cons_append, ← List.replicate_succ, zeros_digitsToNat]
      · show 0 < (List.replicate _ '0' ++ Nat.toDigits 10 n).length
        rw [List.length_append]
        omega

/-- A decimal that is written with a power of ten: the places after the point and the power together are the
    exponent again. -/
theorem Numeral.magnitude?_scientific (negative : Bool) {n : Nat} (hword : n < wordLimit) {exponent : Int}
    (hscientific : ¬ numberStyle.positional ((Nat.toDigits 10 n).length + exponent) = true)
    (hnear : ¬ powerLimit ≤ (((Nat.toDigits 10 n).length : Int) + exponent - 1).natAbs) :
    (Numeral.ofDecimal negative (Nat.toDigits 10 n) ((Nat.toDigits 10 n).length + exponent)).magnitude? =
      scale? n exponent := by
  have hpos : 0 < (Nat.toDigits 10 n).length := List.length_pos_iff.mpr Nat.toDigits_ne_nil
  have hparts : (Numeral.mk negative ((Nat.toDigits 10 n).take 1) ((Nat.toDigits 10 n).drop 1)
      (some (decide (((Nat.toDigits 10 n).length : Int) + exponent - 1 < 0),
        Nat.toDigits 10 (((Nat.toDigits 10 n).length : Int) + exponent - 1).natAbs))).parts =
      (n, -(((Nat.toDigits 10 n).length - 1 : Nat) : Int)) := by
    rw [Numeral.parts_eq]
    · show (digitsToNat (_ ++ _), -(((Nat.toDigits 10 n).drop 1).length : Int)) = _
      rw [List.take_append_drop, digitsToNat_toDigits, List.length_drop]
    · show digitsToNat (_ ++ _) < wordLimit
      rwa [List.take_append_drop, digitsToNat_toDigits]
  rw [Numeral.ofDecimal, if_neg hscientific, Numeral.magnitude?, hparts]
  dsimp only
  rw [digitsToNat_toDigits, if_neg hnear]
  congr 1
  split
  · simp only [decide_eq_true_eq] at *
    omega
  · simp only [decide_eq_true_eq] at *
    omega

/-- A decimal that is so far below one is read as zero. -/
theorem Numeral.magnitude?_far (negative : Bool) {n : Nat} {exponent : Int}
    (hscientific : ¬ numberStyle.positional ((Nat.toDigits 10 n).length + exponent) = true)
    (hbelow : ((Nat.toDigits 10 n).length : Int) + exponent - 1 < 0)
    (hfar : powerLimit ≤ (((Nat.toDigits 10 n).length : Int) + exponent - 1).natAbs) :
    (Numeral.ofDecimal negative (Nat.toDigits 10 n) ((Nat.toDigits 10 n).length + exponent)).magnitude? =
      some 0.0 := by
  rw [Numeral.ofDecimal, if_neg hscientific, Numeral.magnitude?]
  dsimp only
  rw [digitsToNat_toDigits, if_pos hfar, decide_eq_true hbelow, if_neg (by simp)]

/-- **A decimal is read as some double**, if its digits times its power of ten are, where that is not
    negative. -/
theorem Numeral.exists_magnitude?_ofDecimal (negative : Bool) {n : Nat} (hdigits : n ≤ 10 ^ 17)
    {exponent : Int}
    (hscale : ∀ p : Nat, exponent = p → p ≤ 308 ∧ ∃ y, scale? n p = some y) :
    ∃ y, (Numeral.ofDecimal negative (Nat.toDigits 10 n)
      ((Nat.repr n).length + exponent)).magnitude? = some y := by
  have hlength : ((Nat.repr n).length : Int) = (Nat.toDigits 10 n).length := by
    rw [← Nat.toList_repr, String.length_toList]
  have hfew : (Nat.toDigits 10 n).length ≤ 18 :=
    (Nat.length_toDigits_le_iff (by decide) (by decide)).mpr (hdigits.trans_lt (by decide))
  have hword : n < wordLimit := hdigits.trans_lt (by decide)
  rw [hlength]
  by_cases hpositional : numberStyle.positional ((Nat.toDigits 10 n).length + exponent) = true
  · exact exists_magnitude?_positional negative hdigits hpositional
  · by_cases hexponent : exponent < 0
    · by_cases hfar : powerLimit ≤ (((Nat.toDigits 10 n).length : Int) + exponent - 1).natAbs
      · have hbelow : ((Nat.toDigits 10 n).length : Int) + exponent - 1 < 0 := by
          unfold powerLimit at hfar
          omega
        exact ⟨_, magnitude?_far negative hpositional hbelow hfar⟩
      · rw [magnitude?_scientific negative hword hpositional hfar]
        exact exists_scale?_of_neg n hexponent
    · obtain ⟨p, rfl⟩ := Int.eq_ofNat_of_zero_le (not_lt.mp hexponent)
      obtain ⟨hp, hy⟩ := hscale p rfl
      have hnear : ¬ powerLimit ≤ (((Nat.toDigits 10 n).length : Int) + p - 1).natAbs := by
        unfold powerLimit
        omega
      rw [magnitude?_scientific negative hword hpositional hnear]
      exact hy

/-! ## Doubles -/

/-- The digits of the largest double, which are read as a double. -/
theorem shortest_most :
    shortest numberStyle.tie (2 ^ 53 - 1) 971 = ⟨17976931348623157, 292⟩ ∧
      (scale? 17976931348623157 292).isSome = true := by
  decide +kernel

/-- What is below the largest double is at least one and a half units below. -/
theorem value_le {m : Nat} {q : Int} (hbits : m < 2 ^ 53) (hq : q ≤ 971)
    (hmost : ¬ (m = 2 ^ 53 - 1 ∧ q = 971)) :
    (2 * m + 1 : ℚ) * 2 ^ (q - 1) ≤ (2 ^ 54 - 3) * lastHalf := by
  by_cases hlast : q = 971
  · have hm : m + 2 ≤ 2 ^ 53 := by omega
    have hm' : (m : ℚ) + 2 ≤ 2 ^ 53 := by exact_mod_cast hm
    subst hlast
    show (2 * m + 1 : ℚ) * lastHalf ≤ (2 ^ 54 - 3) * lastHalf
    refine mul_le_mul_of_nonneg_right ?_ lastHalf_pos.le
    linarith
  · have hm : (m : ℚ) + 1 ≤ 2 ^ 53 := by exact_mod_cast hbits
    have hpower : (2 : ℚ) ^ (q - 1) * 2 ≤ lastHalf := by
      rw [lastHalf, ← zpow_add_one₀ (by norm_num)]
      exact zpow_le_zpow_right₀ (by norm_num) (by omega)
    have hpos : (0 : ℚ) < 2 ^ (q - 1) := by positivity
    have hhalf := lastHalf_pos
    nlinarith

/-- **The digits of every positive double are read as a double.** -/
theorem exists_scale?_shortest {m : Nat} (hm : m ≠ 0) (hbits : m < 2 ^ 53) {q : Int} (hq : q ≤ 971) {p : Nat}
    (hp : (shortest numberStyle.tie m q).exponent = p) :
    p ≤ 308 ∧ ∃ y, scale? (shortest numberStyle.tie m q).digits p = some y := by
  by_cases hmost : m = 2 ^ 53 - 1 ∧ q = 971
  · obtain ⟨rfl, rfl⟩ := hmost
    rw [shortest_most.1] at hp ⊢
    have hp' : p = 292 := by
      have h : (292 : Int) = p := hp
      omega
    subst hp'
    exact ⟨by decide, Option.isSome_iff_exists.mp shortest_most.2⟩
  · obtain ⟨hne, hdigits, hvalue⟩ := shortest_bounds numberStyle.tie hm hbits q
    rw [hp, zpow_natCast] at hvalue
    have hnat : (shortest numberStyle.tie m q).digits * 10 ^ p ≤ (2 ^ 54 - 3) * 2 ^ 970 := by
      have h := hvalue.trans (value_le hbits hq hmost)
      rw [← cast_bound] at h
      exact_mod_cast h
    exact ⟨(not_isInf_product hne hdigits hnat).1, exists_scale? hne hdigits hnat⟩

theorem Numeral.exists_magnitude?_ofBinary {negative : Bool} {m : Nat} (hbits : m < 2 ^ 53) {q : Int}
    (hq : q ≤ 971) {n : Numeral} (hn : Numeral.ofBinary? (.finite negative m q) = some n) :
    ∃ y, n.magnitude? = some y := by
  rw [Numeral.ofBinary?] at hn
  split at hn
  case isTrue hzero =>
    cases hn
    have hword : digitsToNat ['0', '0'] < wordLimit := by decide
    exact exists_magnitude?_of_point rfl hword Nat.one_pos
  case isFalse hm =>
    cases hn
    exact exists_magnitude?_ofDecimal negative (shortest_bounds numberStyle.tie hm hbits q).digits
      fun p hp => exists_scale?_shortest hm hbits hq hp

/-- **Every finite double is read as a double** from its digits. -/
theorem exists_toNode_of_finite {x : Float} (h : x.isFinite = true) {n : Numeral}
    (hn : Numeral.ofBinary? (Binary.ofFloat x) = some n) (hinteger : n.isInteger = false) :
    ∃ y, n.toNode = .number (.float y (writeFloat y)) := by
  obtain ⟨negative, m, q, hx, hbits, hq⟩ := exists_finite h
  rw [hx] at hn
  obtain ⟨y, hy⟩ := Numeral.exists_magnitude?_ofBinary hbits hq hn
  refine ⟨if n.negative then -y else y, ?_⟩
  rw [Numeral.toNode, Numeral.value?, hinteger, hy]
  rfl

end Recap.Json
