import Recap.Decimal.Binary
import Recap.Proofs.Decimal.Rounding

/-!
# To which double a number is rounded

Rounding cuts bits off a significand and keeps two of them: the one that is worth half a unit of the last
place, and whether any bit after it is set. Together they tell whether the number lies at the significand,
below the middle to the next one, at the middle, or above it; and cutting off one more bit keeps that
(`Holds.shiftRightOne`). So if a number lies closer to a significand than half a unit, or as far and the
significand is even, it is rounded to that (`Holds.roundedMantissa_eq`).

What remains is to find the place where the bits are cut off. It is the last place of the double, with one
exception: below a power of two the places are half as wide, so a number there is first rounded to twice the
significand, and loses one more bit after that (`roundWithAccuracy_eq`).

A quotient is computed with enough bits for this (`div_eq`).

## Contents
- `Canonical`, `Nearby` — doubles, and the numbers that are rounded to them.
- `Holds` — the number that a significand with its two bits stands for.
- `roundWithAccuracy_eq` — rounding.
- `div_eq` — quotients.
-/

namespace Recap.Decimal

open Float.Model Float.Model.UnpackedFloat

/-! ## Doubles and what is rounded to them -/

/-- The significand and the power of two of a double. -/
structure Canonical (m : Nat) (q : Int) : Prop where
  pos : 0 < m
  bits : m < 2 ^ 53
  least : -1074 ≤ q
  most : q ≤ 971
  /-- Only the least power of two has significands with fewer bits. -/
  small : m < 2 ^ 52 → q = -1074

/-- How far the numbers that are rounded to a double reach below it, in quarters of its last place. -/
def gapBelow (m : Nat) (q : Int) : Nat := if m = leastNormal ∧ leastPower < q then 1 else 2

/-- The numbers that are rounded to a double. The ends of the interval are among them where the significand
    is even. -/
structure Nearby (m : Nat) (q : Int) (v : ℚ) : Prop where
  low : (4 * m - gapBelow m q : ℚ) * 2 ^ (q - 2) ≤ v
  high : v ≤ (4 * m + 2 : ℚ) * 2 ^ (q - 2)
  ends : m % 2 = 1 →
    (4 * m - gapBelow m q : ℚ) * 2 ^ (q - 2) ≠ v ∧ v ≠ (4 * m + 2 : ℚ) * 2 ^ (q - 2)

/-! ## A significand and what was cut off -/

/-- What the next bit is worth. -/
def half (em : ExtendedMantissa) : ℚ := if em.roundBit then 1 / 2 else 0

/-- The number of units of the last place that a significand stands for, with what was cut off. -/
structure Holds (em : ExtendedMantissa) (w : ℚ) : Prop where
  exact : em.stickyBit = false → w = em.mantissa + half em
  inexact : em.stickyBit = true → em.mantissa + half em < w ∧ w < em.mantissa + half em + 1 / 2

theorem half_bounds (em : ExtendedMantissa) : 0 ≤ half em ∧ half em ≤ 1 / 2 := by
  unfold half
  split <;> norm_num

/-- It is the significand, or above it by less than a unit. -/
theorem Holds.bounds {em : ExtendedMantissa} {w : ℚ} (h : Holds em w) :
    em.mantissa ≤ w ∧ w < em.mantissa + 1 := by
  have hhalf := half_bounds em
  cases hsticky : em.stickyBit with
  | false =>
    have hw := h.exact hsticky
    constructor <;> linarith
  | true =>
    obtain ⟨hlow, hhigh⟩ := h.inexact hsticky
    constructor <;> linarith

/-- **One more bit is cut off.** -/
theorem Holds.shiftRightOne {em : ExtendedMantissa} {w : ℚ} (h : Holds em w) :
    Holds em.shiftRightOne (w / 2) := by
  obtain ⟨m, roundBit, stickyBit⟩ := em
  -- the bit that is cut off is the next one now
  have hhalf : half (ExtendedMantissa.shiftRightOne ⟨m, roundBit, stickyBit⟩) = (m % 2 : Nat) / 2 := by
    have hbit : (ExtendedMantissa.shiftRightOne ⟨m, roundBit, stickyBit⟩).roundBit = (m % 2 != 0) := rfl
    rw [half, hbit]
    rcases Nat.mod_two_eq_zero_or_one m with hm | hm <;> simp [hm]
  have hsplit : (m : ℚ) = 2 * (m / 2 : Nat) + (m % 2 : Nat) := by
    exact_mod_cast (Nat.div_add_mod m 2).symm
  have hmantissa : (ExtendedMantissa.shiftRightOne ⟨m, roundBit, stickyBit⟩).mantissa = m / 2 := rfl
  have hsticky : (ExtendedMantissa.shiftRightOne ⟨m, roundBit, stickyBit⟩).stickyBit =
      (roundBit || stickyBit) := rfl
  refine ⟨?_, ?_⟩
  · intro hnone
    rw [hsticky, Bool.or_eq_false_iff] at hnone
    obtain ⟨rfl, rfl⟩ := hnone
    have hw : w = m := by
      have := h.exact rfl
      simpa [half] using this
    rw [hmantissa, hhalf, hw]
    linarith
  · intro hsome
    rw [hsticky, Bool.or_eq_true] at hsome
    have hstrict : (m : ℚ) < w := by
      cases stickyBit with
      | false =>
        have hw := h.exact rfl
        rcases hsome with rfl | h'
        · simp only [half, if_true] at hw
          linarith
        · cases h'
      | true =>
        have hlow := (h.inexact rfl).1
        have hhalf := half_bounds ⟨m, roundBit, true⟩
        dsimp only at hlow
        linarith
    have hhigh := h.bounds.2
    dsimp only at hhigh
    rw [hmantissa, hhalf]
    constructor <;> linarith

/-- Any number of bits is cut off. -/
theorem Holds.shift {em : ExtendedMantissa} {w : ℚ} (h : Holds em w) (k : Nat) :
    Holds (em >>> k) (w / 2 ^ k) := by
  induction k with
  | zero =>
    rw [pow_zero, div_one]
    exact h
  | succ k ih =>
    rw [shift_succ, pow_succ, ← div_div]
    exact ih.shiftRightOne

/-- A significand no more than half a unit away is the one that stays, or the next one. -/
theorem eq_or_eq_succ {n m : Nat} {w : ℚ} (hn : n ≤ w) (hn' : w < n + 1) (hlow : (m : ℚ) - 1 / 2 ≤ w)
    (hhigh : w ≤ m + 1 / 2) : m = n ∨ m = n + 1 := by
  have hupper : (m : ℚ) < n + 2 := by linarith
  have hlower : (n : ℚ) < m + 1 := by linarith
  have hupper' : m < n + 2 := by exact_mod_cast hupper
  have hlower' : n < m + 1 := by exact_mod_cast hlower
  omega

/-- **A number is rounded to the significand** that is no more than half a unit away, and even if it is just
    as far. -/
theorem Holds.roundedMantissa_eq {em : ExtendedMantissa} {w : ℚ} (h : Holds em w) {m : Nat}
    (hlow : (m : ℚ) - 1 / 2 ≤ w) (hhigh : w ≤ m + 1 / 2)
    (hends : m % 2 = 1 → (m : ℚ) - 1 / 2 ≠ w ∧ w ≠ m + 1 / 2) : em.roundedMantissa = m := by
  obtain ⟨n, roundBit, stickyBit⟩ := em
  have hm := eq_or_eq_succ h.bounds.1 h.bounds.2 hlow hhigh
  dsimp only at hm
  cases roundBit with
  | false =>
    have hbelow : w < n + 1 / 2 := by
      cases stickyBit with
      | false =>
        have hw := h.exact rfl
        simp only [half, Bool.false_eq_true, if_false] at hw
        linarith
      | true => simpa [half] using (h.inexact rfl).2
    have hstay : (ExtendedMantissa.mk n false stickyBit).roundedMantissa = n := by
      cases stickyBit <;> rfl
    rw [hstay]
    rcases hm with rfl | rfl
    · rfl
    · push_cast at hlow
      linarith
  | true =>
    cases stickyBit with
    | false =>
      -- just in the middle: the even one of the two
      have hw : w = n + 1 / 2 := by simpa [half] using h.exact rfl
      show n + n % 2 = m
      rcases hm with rfl | rfl
      · have heven : ¬ m % 2 = 1 := fun hodd => (hends hodd).2 hw
        omega
      · have heven : ¬ (n + 1) % 2 = 1 := by
          intro hodd
          refine (hends hodd).1 ?_
          rw [hw]
          push_cast
          ring
        omega
    | true =>
      have habove : (n : ℚ) + 1 / 2 < w := by simpa [half] using (h.inexact rfl).1
      show n + 1 = m
      rcases hm with rfl | rfl
      · linarith
      · rfl

/-- Nothing is cut off yet. -/
theorem holds_exact (m : Nat) : Holds (.ofMantissaAndAccuracy m .exact) m := by
  refine ⟨fun _ => ?_, fun h => ?_⟩
  · simp [ExtendedMantissa.ofMantissaAndAccuracy, half]
  · cases h

/-- A quotient with what its remainder tells. -/
theorem holds_div (num : Nat) {den : Nat} (hden : 0 < den) :
    Holds (.ofMantissaAndAccuracy (num / den) (accuracyOfFraction (num % den) den))
      ((num : ℚ) / den) := by
  have hdenq : (0 : ℚ) < den := by exact_mod_cast hden
  have hvalue : (num : ℚ) / den = (num / den : Nat) + (num % den : Nat) / (den : ℚ) := by
    have hsplit : (num : ℚ) = den * (num / den : Nat) + (num % den : Nat) := by
      exact_mod_cast (Nat.div_add_mod num den).symm
    rw [hsplit]
    field_simp
  have hmod : num % den < den := Nat.mod_lt num hden
  rw [hvalue]
  generalize num / den = n
  generalize num % den = r at hmod
  have hlt : (r : ℚ) / den < 1 := by
    rw [div_lt_one hdenq]
    exact_mod_cast hmod
  unfold accuracyOfFraction
  by_cases hr : r = 0
  · rw [if_pos hr, hr]
    simpa using holds_exact n
  · have hpos : (0 : ℚ) < r / den := div_pos (by exact_mod_cast Nat.pos_of_ne_zero hr) hdenq
    rw [if_neg hr]
    cases hcompare : compare (2 * r) den with
    | lt =>
      have hbelow : (2 : ℚ) * r < den := by exact_mod_cast Nat.compare_eq_lt.mp hcompare
      have hless : (r : ℚ) / den < 1 / 2 := by
        rw [div_lt_div_iff₀ hdenq (by norm_num)]
        linarith
      refine ⟨fun h => (by cases h), fun _ => ?_⟩
      simp only [ExtendedMantissa.ofMantissaAndAccuracy, half, Bool.false_eq_true, if_false]
      constructor <;> linarith
    | eq =>
      have hequal : (2 : ℚ) * r = den := by exact_mod_cast Nat.compare_eq_eq.mp hcompare
      have hmiddle : (r : ℚ) / den = 1 / 2 := by
        rw [div_eq_div_iff hdenq.ne' (by norm_num)]
        linarith
      refine ⟨fun _ => ?_, fun h => (by cases h)⟩
      simp [ExtendedMantissa.ofMantissaAndAccuracy, half, hmiddle]
    | gt =>
      have habove : (den : ℚ) < 2 * r := by exact_mod_cast Nat.compare_eq_gt.mp hcompare
      have hmore : (1 : ℚ) / 2 < r / den := by
        rw [div_lt_div_iff₀ (by norm_num) hdenq]
        linarith
      refine ⟨fun h => (by cases h), fun _ => ?_⟩
      simp only [ExtendedMantissa.ofMantissaAndAccuracy, half, if_true]
      constructor <;> linarith

/-! ## The last place -/

theorem target_eq (n : Nat) (e : Int) :
    Format.binary64.targetExponent (totalExponent n e) = max (n.log2 + 1 + e - 53) (-1074) := rfl

/-- A double has the last place that its bits are cut off at. -/
theorem Canonical.target_eq {m : Nat} {q : Int} (h : Canonical m q) :
    Format.binary64.targetExponent (totalExponent m q) = q := by
  have hlog : m.log2 < 53 := (Nat.log2_lt h.pos.ne').mpr h.bits
  have hleast := h.least
  rw [Decimal.target_eq]
  by_cases hsmall : m < 2 ^ 52
  · have hq := h.small hsmall
    omega
  · have hlow : 52 ≤ m.log2 := (Nat.le_log2 h.pos.ne').mpr (not_lt.mp hsmall)
    omega

/-- Powers of two are compared by their exponents. -/
theorem lt_of_zpow_lt {a b : Int} {v : ℚ} (ha : (2 : ℚ) ^ a ≤ v) (hb : v < 2 ^ b) : a < b :=
  (zpow_lt_zpow_iff_right₀ (by norm_num : (1 : ℚ) < 2)).mp (ha.trans_lt hb)

/-- Where the first bit of a number stands. -/
theorem log2_bounds {n : Nat} (hn : n ≠ 0) {e : Int} {v : ℚ} (hlow : n ≤ v / 2 ^ e)
    (hhigh : v / 2 ^ e < n + 1) :
    (2 : ℚ) ^ ((n.log2 : Int) + e) ≤ v ∧ v < 2 ^ ((n.log2 : Int) + 1 + e) := by
  have hpos : (0 : ℚ) < 2 ^ e := by positivity
  have hle : ((2 ^ n.log2 : Nat) : ℚ) ≤ n := by exact_mod_cast Nat.log2_self_le hn
  have hlt : ((n + 1 : Nat) : ℚ) ≤ (2 ^ (n.log2 + 1) : Nat) := by
    exact_mod_cast (Nat.lt_log2_self : n < 2 ^ (n.log2 + 1))
  push_cast at hle hlt
  rw [le_div_iff₀ hpos] at hlow
  rw [div_lt_iff₀ hpos] at hhigh
  constructor
  · rw [zpow_add₀ (by norm_num), zpow_natCast]
    exact (mul_le_mul_of_nonneg_right hle hpos.le).trans hlow
  · have hexp : ((n.log2 : Int) + 1 + e) = ((n.log2 + 1 : Nat) : Int) + e := by push_cast; ring
    rw [hexp, zpow_add₀ (by norm_num), zpow_natCast]
    exact hhigh.trans_le (mul_le_mul_of_nonneg_right hlt hpos.le)

/-- The ends of what is rounded to a double, in units of its last place. -/
theorem Nearby.units {m : Nat} {q : Int} {v : ℚ} (h : Nearby m q v) :
    (4 * m - gapBelow m q : ℚ) / 4 ≤ v / 2 ^ q ∧ v / 2 ^ q ≤ m + 1 / 2 := by
  have hpos : (0 : ℚ) < 2 ^ q := by positivity
  have hquarter : (2 : ℚ) ^ (q - 2) = 2 ^ q / 4 := by
    rw [zpow_sub₀ (by norm_num)]
    norm_num
  obtain ⟨hlow, hhigh, -⟩ := h
  rw [hquarter] at hlow hhigh
  rw [le_div_iff₀ hpos, div_le_iff₀ hpos]
  constructor <;> linarith

theorem gapBelow_bounds (m : Nat) (q : Int) : (1 : ℚ) ≤ gapBelow m q ∧ (gapBelow m q : ℚ) ≤ 2 := by
  unfold gapBelow
  split <;> norm_num

/-- It is no more than half a unit away, -/
theorem Nearby.low_unit {m : Nat} {q : Int} {v : ℚ} (h : Nearby m q v) : (m : ℚ) - 1 / 2 ≤ v / 2 ^ q := by
  have hgap := gapBelow_bounds m q
  linarith [h.units.1, hgap.2]

/-- and closer if the significand is odd. -/
theorem Nearby.ends_unit {m : Nat} {q : Int} {v : ℚ} (h : Nearby m q v) (hodd : m % 2 = 1) :
    (m : ℚ) - 1 / 2 ≠ v / 2 ^ q ∧ v / 2 ^ q ≠ m + 1 / 2 := by
  have hpos : (0 : ℚ) < 2 ^ q := by positivity
  have hgap : gapBelow m q = 2 := by
    refine if_neg fun hpower => ?_
    have hm : m = 4503599627370496 := hpower.1
    omega
  have hquarter : (2 : ℚ) ^ (q - 2) = 2 ^ q / 4 := by
    rw [zpow_sub₀ (by norm_num)]
    norm_num
  obtain ⟨hlow, hhigh⟩ := h.ends hodd
  rw [hgap, hquarter] at hlow
  rw [hquarter] at hhigh
  constructor
  · intro heq
    rw [eq_div_iff hpos.ne'] at heq
    refine hlow ?_
    push_cast
    linarith
  · intro heq
    rw [div_eq_iff hpos.ne'] at heq
    refine hhigh ?_
    linarith

/-- A number that is rounded to a double lies between the same powers of two, or just below. -/
theorem Nearby.bounds {m : Nat} {q : Int} {v : ℚ} (hm : Canonical m q) (h : Nearby m q v) :
    v < 2 ^ (53 + q) ∧ (2 ^ 52 ≤ m → (2 : ℚ) ^ (51 + q) ≤ v) ∧
      (m < 2 ^ 52 → v < 2 ^ (52 + q)) ∧ (2 : ℚ) ^ (q - 1) ≤ v := by
  have hpos : (0 : ℚ) < 2 ^ q := by positivity
  obtain ⟨hlow, hhigh⟩ := h.units
  have hgap := gapBelow_bounds m q
  rw [le_div_iff₀ hpos] at hlow
  rw [div_le_iff₀ hpos] at hhigh
  refine ⟨?_, ?_, ?_, ?_⟩
  · have hbits : (m : ℚ) + 1 ≤ 2 ^ 53 := by exact_mod_cast hm.bits
    have hpower : (2 : ℚ) ^ (53 : Int) = 2 ^ 53 := rfl
    rw [zpow_add₀ (by norm_num), hpower]
    exact hhigh.trans_lt (mul_lt_mul_of_pos_right (by linarith) hpos)
  · intro hnormal
    have hbits : (2 : ℚ) ^ 52 ≤ m := by exact_mod_cast hnormal
    have hpower : (2 : ℚ) ^ (51 : Int) = 2 ^ 52 / 2 := by norm_num
    rw [zpow_add₀ (by norm_num), hpower]
    exact (mul_le_mul_of_nonneg_right (by linarith [hgap.2]) hpos.le).trans hlow
  · intro hsmall
    have hbits : (m : ℚ) + 1 ≤ 2 ^ 52 := by exact_mod_cast hsmall
    have hpower : (2 : ℚ) ^ (52 : Int) = 2 ^ 52 := rfl
    rw [zpow_add₀ (by norm_num), hpower]
    exact hhigh.trans_lt (mul_lt_mul_of_pos_right (by linarith) hpos)
  · have hone : (1 : ℚ) ≤ m := by exact_mod_cast hm.pos
    rw [zpow_sub₀ (by norm_num), zpow_one]
    have hhalf : (1 / 2 : ℚ) ≤ (4 * m - gapBelow m q) / 4 := by linarith [hgap.2]
    linarith [mul_le_mul_of_nonneg_right hhalf hpos.le]

/-- **The place where bits are cut off** is the last place of the double, or the one after it below a power of
    two. -/
theorem target_of_nearby {m n : Nat} {q e : Int} {v : ℚ} (hm : Canonical m q) (h : Nearby m q v)
    (hlow : n ≤ v / 2 ^ e) (hhigh : v / 2 ^ e < n + 1)
    (hfine : e ≤ Format.binary64.targetExponent (totalExponent n e)) :
    Format.binary64.targetExponent (totalExponent n e) = q ∨
      Format.binary64.targetExponent (totalExponent n e) = q - 1 ∧ m = 2 ^ 52 ∧ -1074 < q ∧
        v < 2 ^ (52 + q) := by
  obtain ⟨hupper, hnormal, hsmall, hleast⟩ := h.bounds hm
  have hq := hm.least
  rw [target_eq] at hfine ⊢
  by_cases hn : n = 0
  · -- then the number is less than the least power of two
    subst hn
    have hv : v < 2 ^ e := by
      rw [div_lt_iff₀ (by positivity)] at hhigh
      simpa using hhigh
    have hlog : Nat.log2 0 = 0 := rfl
    have he := lt_of_zpow_lt hleast hv
    rw [hlog] at hfine ⊢
    omega
  · obtain ⟨hfirst, hlast⟩ := log2_bounds hn hlow hhigh
    have htop := lt_of_zpow_lt hfirst hupper
    by_cases hbits : m < 2 ^ 52
    · have hq' := hm.small hbits
      have htop' := lt_of_zpow_lt hfirst (hsmall hbits)
      omega
    · have hbottom := lt_of_zpow_lt (hnormal (not_lt.mp hbits)) hlast
      by_cases hbelow : (n.log2 : Int) + e = 52 + q
      · omega
      · by_cases hq' : q = -1074
        · omega
        · -- the number lies below the power of two
          have hv : v < 2 ^ (52 + q) := by
            have hexp : (n.log2 : Int) + 1 + e = 52 + q := by omega
            rwa [hexp] at hlast
          refine .inr ⟨by omega, ?_, by omega, hv⟩
          have hunits := h.units.1
          have hpos : (0 : ℚ) < 2 ^ q := by positivity
          rw [le_div_iff₀ hpos] at hunits
          rw [zpow_add₀ (by norm_num)] at hv
          have hless : (4 * m - gapBelow m q : ℚ) / 4 < 2 ^ (52 : Int) :=
            lt_of_mul_lt_mul_right (hunits.trans_lt hv) hpos.le
          have hgap := gapBelow_bounds m q
          have hpower : (2 : ℚ) ^ (52 : Int) = 2 ^ 52 := rfl
          have hm' : (m : ℚ) < 2 ^ 52 + 1 := by linarith [hgap.2]
          have hm'' : m < 2 ^ 52 + 1 := by exact_mod_cast hm'
          omega

/-- Bits are cut off at the target. -/
theorem shiftToTargetExponent_of_le {n : Nat} {e t : Int} {accuracy : Accuracy}
    (ht : Format.binary64.targetExponent (totalExponent n e) = t) (he : e ≤ t) :
    shiftToTargetExponent .binary64 n e accuracy =
      (ExtendedMantissa.ofMantissaAndAccuracy n accuracy >>> (t - e).toNat, t) := by
  have hsum : e + ((t - e).toNat : Int) = t := by omega
  rw [shiftToTargetExponent, ht, shiftToExponent, hsum]

/-- A number just below a power of two is rounded to twice its significand first. -/
theorem Nearby.roundedMantissa_power {q : Int} {v : ℚ} (h : Nearby (2 ^ 52) q v) (hq : leastPower < q)
    (hv : v < 2 ^ (52 + q)) {em : ExtendedMantissa} (hholds : Holds em (v / 2 ^ (q - 1))) :
    em.roundedMantissa = 2 ^ 53 := by
  have hpos : (0 : ℚ) < 2 ^ q := by positivity
  have hdouble : v / 2 ^ (q - 1) = 2 * (v / 2 ^ q) := by
    rw [zpow_sub₀ (by norm_num), zpow_one]
    field_simp
  have hgap : gapBelow (2 ^ 52) q = 1 := if_pos ⟨rfl, hq⟩
  have hlow := h.units.1
  have hhigh : v / 2 ^ q < 2 ^ 52 := by
    rw [div_lt_iff₀ hpos]
    rwa [zpow_add₀ (by norm_num)] at hv
  refine hholds.roundedMantissa_eq ?_ ?_ (fun hodd => absurd hodd (by decide))
  · rw [hgap] at hlow
    rw [hdouble]
    push_cast at hlow ⊢
    linarith
  · rw [hdouble]
    push_cast
    linarith

/-- **A number is rounded to the double it is near to.** -/
theorem roundWithAccuracy_eq (s : Sign) {m n : Nat} {q e : Int} {accuracy : Accuracy} {v : ℚ}
    (hm : Canonical m q) (h : Nearby m q v)
    (hholds : Holds (.ofMantissaAndAccuracy n accuracy) (v / 2 ^ e))
    (hfine : e ≤ Format.binary64.targetExponent (totalExponent n e)) :
    roundWithAccuracy .binary64 s n e accuracy = .finite s m q hm.pos := by
  have hn : (ExtendedMantissa.ofMantissaAndAccuracy n accuracy).mantissa = n := by
    cases accuracy with
    | exact => rfl
    | inexact o => cases o <;> rfl
  have hbounds := hholds.bounds
  rw [hn] at hbounds
  have hcut : ∀ t, e ≤ t →
      Holds (ExtendedMantissa.ofMantissaAndAccuracy n accuracy >>> (t - e).toNat) (v / 2 ^ t) := by
    intro t ht
    have hvalue : v / 2 ^ t = v / 2 ^ e / 2 ^ (t - e).toNat := by
      rw [div_div, ← zpow_natCast, ← zpow_add₀ (by norm_num)]
      congr 2
      omega
    rw [hvalue]
    exact hholds.shift _
  rcases target_of_nearby hm h hbounds.1 hbounds.2 hfine with ht | ⟨ht, hpower, hq, hv⟩
  · have hrounded := (hcut q (ht ▸ hfine)).roundedMantissa_eq h.low_unit h.units.2 h.ends_unit
    have hsecond : shiftToTargetExponent .binary64 m q .exact = _ :=
      shiftToTargetExponent_of_le hm.target_eq (Int.le_refl q)
    rw [roundWithAccuracy, shiftToTargetExponent_of_le ht (ht ▸ hfine)]
    dsimp only
    rw [hrounded, hsecond, Int.sub_self]
    exact dif_neg hm.pos.ne'
  · -- twice the significand, which is even, and one more bit is cut off
    subst hpower
    have hrounded : (ExtendedMantissa.ofMantissaAndAccuracy n accuracy >>>
        (q - 1 - e).toNat).roundedMantissa = 2 ^ 53 :=
      h.roundedMantissa_power hq hv (hcut (q - 1) (ht ▸ hfine))
    have hsecond : Format.binary64.targetExponent (totalExponent (2 ^ 53) (q - 1)) = q := by
      have hlog : Nat.log2 (2 ^ 53) = 53 := by decide
      rw [target_eq, hlog]
      omega
    have hshift : (q - (q - 1)).toNat = 1 := by omega
    rw [roundWithAccuracy, shiftToTargetExponent_of_le ht (ht ▸ hfine)]
    dsimp only
    rw [hrounded, shiftToTargetExponent_of_le hsecond (by omega), hshift]
    rfl

/-! ## Quotients -/

/-- A quotient has enough bits. -/
theorem divCore_fine {m₁ m₂ : Nat} (h₁ : 0 < m₁) (h₂ : 0 < m₂) {e₁ e₂ te : Int}
    (hte : te = min (e₁ - e₂)
      (Format.binary64.targetExponent (totalExponent m₁ e₁ - totalExponent m₂ e₂))) :
    te ≤ Format.binary64.targetExponent
      (totalExponent ((m₁ <<< (e₁ - e₂ - te).toNat) / m₂) te) := by
  have htotal : Format.binary64.targetExponent (totalExponent m₁ e₁ - totalExponent m₂ e₂) =
      max (m₁.log2 + e₁ - (m₂.log2 + e₂) - 53) (-1074) := by
    show max (_ - 53) (-1074) = _
    unfold totalExponent
    congr 1
    omega
  rw [htotal] at hte
  rw [target_eq]
  by_cases hleast : te ≤ -1074
  · omega
  · -- the quotient has fifty-three bits
    obtain ⟨k, hk⟩ := Int.eq_ofNat_of_zero_le (show 0 ≤ e₁ - e₂ - te by omega)
    have hexp : 52 + (m₂.log2 + 1) ≤ m₁.log2 + k := by omega
    have hlog : 52 ≤ ((m₁ <<< k) / m₂).log2 := by
      have hquotient : 2 ^ 52 ≤ (m₁ <<< k) / m₂ := by
        rw [Nat.le_div_iff_mul_le h₂, Nat.shiftLeft_eq]
        calc 2 ^ 52 * m₂ ≤ 2 ^ 52 * 2 ^ (m₂.log2 + 1) :=
              Nat.mul_le_mul_left _ Nat.lt_log2_self.le
          _ = 2 ^ (52 + (m₂.log2 + 1)) := (Nat.pow_add 2 52 _).symm
          _ ≤ 2 ^ (m₁.log2 + k) := Nat.pow_le_pow_right (by decide) hexp
          _ = 2 ^ m₁.log2 * 2 ^ k := Nat.pow_add 2 _ _
          _ ≤ m₁ * 2 ^ k := Nat.mul_le_mul_right _ (Nat.log2_self_le h₁.ne')
      have hne : (m₁ <<< k) / m₂ ≠ 0 := by
        intro h0
        rw [h0] at hquotient
        exact absurd hquotient (by decide)
      exact (Nat.le_log2 hne).mpr hquotient
    rw [hk, Int.toNat_natCast]
    omega

/-- **A quotient is rounded to the double it is near to.** -/
theorem div_eq (s₁ s₂ : Sign) {m₁ m₂ m : Nat} {e₁ e₂ q : Int} (h₁ : 0 < m₁) (h₂ : 0 < m₂)
    (hm : Canonical m q) (h : Nearby m q ((m₁ * 2 ^ e₁) / (m₂ * 2 ^ e₂))) :
    UnpackedFloat.div .binary64 (.finite s₁ m₁ e₁ h₁) (.finite s₂ m₂ e₂ h₂) =
      .finite (s₁ / s₂) m q hm.pos := by
  generalize hte : min (e₁ - e₂)
    (Format.binary64.targetExponent (totalExponent m₁ e₁ - totalExponent m₂ e₂)) = te
  have hfine := divCore_fine h₁ h₂ hte.symm
  have hvalue : ((m₁ * 2 ^ e₁) / (m₂ * 2 ^ e₂) : ℚ) / 2 ^ te =
      ((m₁ <<< (e₁ - e₂ - te).toNat : Nat) : ℚ) / m₂ := by
    have hle : te ≤ e₁ - e₂ := by
      rw [← hte]
      exact min_le_left _ _
    have hm₂ : (m₂ : ℚ) ≠ 0 := by exact_mod_cast h₂.ne'
    have hpower : (2 : ℚ) ^ (e₁ - e₂ - te).toNat = 2 ^ e₁ / 2 ^ e₂ / 2 ^ te := by
      rw [← zpow_natCast, ← zpow_sub₀ (by norm_num), ← zpow_sub₀ (by norm_num)]
      congr 1
      omega
    rw [Nat.shiftLeft_eq]
    push_cast
    rw [hpower]
    field_simp
  have hholds := holds_div (m₁ <<< (e₁ - e₂ - te).toNat) h₂
  rw [← hvalue] at hholds
  have hdiv : UnpackedFloat.div .binary64 (.finite s₁ m₁ e₁ h₁) (.finite s₂ m₂ e₂ h₂) =
      roundWithAccuracy .binary64 (s₁ / s₂) ((m₁ <<< (e₁ - e₂ - te).toNat) / m₂) te
        (accuracyOfFraction ((m₁ <<< (e₁ - e₂ - te).toNat) % m₂) m₂) := by
    rw [UnpackedFloat.div, divCore, hte]
  rw [hdiv, roundWithAccuracy_eq (s₁ / s₂) hm h hholds hfine]

end Recap.Decimal
