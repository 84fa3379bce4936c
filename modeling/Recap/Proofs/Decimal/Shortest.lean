import Mathlib.Algebra.Order.Field.Power
import Mathlib.Data.Rat.Cast.Order
import Mathlib.Tactic.FieldSimp
import Mathlib.Tactic.Linarith
import Mathlib.Tactic.NormNum
import Mathlib.Tactic.Positivity
import Mathlib.Tactic.Ring
import Recap.Decimal.Shortest

/-!
# Seventeen digits suffice

The fewest digits of a double are looked for on one grid of decimals after another, each ten times as fine as
the one before. The numbers that read back as a double reach at least half a unit of its last place above it
and a quarter of one below, which is more than the distance of two decimals of seventeen digits. So there is
one of them on the seventeenth grid at the latest, and what is found has no more digits than that and does not
lie above the numbers that read back (`shortest_bounds`).

## Contents
- `digitCount_bounds`, `magnitude_bounds` — where the first digit stands.
- `Grid.ratio`, `Grid.ofDouble_bounds` — how many units of the last place a double has.
- `Grid.nearest?_bounds`, `Grid.isSome_nearest?` — what is found on one grid, and when.
- `exists_nearest?` — on which grid the fewest digits are found.
- `shortest_bounds` — the fewest digits.
-/

namespace Recap.Decimal

/-! ## Where the first digit stands -/

/-- The digits of a number are counted as long as the fuel lasts. -/
theorem digitCountAux_bounds {fuel n : Nat} (hn : n ≠ 0) (hfuel : n < 10 ^ fuel) :
    ∃ k, digitCountAux fuel n = k + 1 ∧ 10 ^ k ≤ n ∧ n < 10 ^ (k + 1) := by
  induction fuel generalizing n with
  | zero => omega
  | succ fuel ih =>
      rw [digitCountAux, if_neg hn]
      by_cases hsmall : n / 10 = 0
      · have hzero : digitCountAux fuel (n / 10) = 0 := by
          rw [hsmall]
          cases fuel <;> rfl
        exact ⟨0, by rw [hzero], by omega, by omega⟩
      · have hrest : n / 10 < 10 ^ fuel := by
          rw [Nat.pow_succ] at hfuel
          omega
        obtain ⟨k, hk, hlow, hhigh⟩ := ih hsmall hrest
        refine ⟨k + 1, by rw [hk], ?_, ?_⟩
        · rw [Nat.pow_succ]
          omega
        · rw [Nat.pow_succ]
          omega

theorem digitCount_bounds {n : Nat} (hn : n ≠ 0) :
    ∃ k, digitCount n = k + 1 ∧ 10 ^ k ≤ n ∧ n < 10 ^ (k + 1) := by
  apply digitCountAux_bounds hn
  calc n < 2 ^ (n.log2 + 1) := Nat.lt_log2_self
    _ ≤ 10 ^ (n.log2 + 1) := Nat.pow_le_pow_left (by decide) _

/-- **The magnitude of a fraction** is the place of its first digit. -/
theorem magnitude_bounds {num den : Nat} (hnum : 0 < num) (hden : 0 < den) :
    (10 : ℚ) ^ magnitude num den ≤ num / den ∧ (num / den : ℚ) < 10 ^ (magnitude num den + 1) := by
  have hden' : (0 : ℚ) < den := by exact_mod_cast hden
  rw [le_div_iff₀ hden', div_lt_iff₀ hden', magnitude]
  by_cases hle : den ≤ num
  · -- the digits of the whole part
    have hne : num / den ≠ 0 := (Nat.div_pos hle hden).ne'
    obtain ⟨k, hk, hlow, hhigh⟩ := digitCount_bounds hne
    rw [if_pos hle, hk, show ((k + 1 : Nat) : Int) - 1 = k by omega, zpow_natCast,
      show ((k : Int) + 1) = (k + 1 : Nat) by omega, zpow_natCast]
    constructor
    · have h : 10 ^ k * den ≤ num := (Nat.le_div_iff_mul_le hden).mp hlow
      exact_mod_cast h
    · have h : num < 10 ^ (k + 1) * den := (Nat.div_lt_iff_lt_mul hden).mp hhigh
      exact_mod_cast h
  · -- the zeros after the point
    have hne : (den - 1) / num ≠ 0 := (Nat.div_pos (by omega) hnum).ne'
    obtain ⟨k, hk, hlow, hhigh⟩ := digitCount_bounds hne
    have hlow' : 10 ^ k * num ≤ den - 1 := (Nat.le_div_iff_mul_le hnum).mp hlow
    have hhigh' : den - 1 < 10 ^ (k + 1) * num := (Nat.div_lt_iff_lt_mul hnum).mp hhigh
    rw [if_neg hle, hk, show -((k + 1 : Nat) : Int) + 1 = -(k : Nat) by omega, zpow_neg, zpow_neg,
      zpow_natCast, zpow_natCast]
    constructor
    · rw [inv_mul_le_iff₀ (by positivity)]
      have h : den ≤ 10 ^ (k + 1) * num := by omega
      exact_mod_cast h
    · rw [lt_inv_mul_iff₀ (by positivity)]
      have h : 10 ^ k * num < den := by omega
      exact_mod_cast h

/-! ## One grid of decimals -/

theorem cast_pow_toNat {b : ℚ} (hb : b ≠ 0) (z : Int) : b ^ z.toNat = b ^ (-z).toNat * b ^ z := by
  obtain ⟨n, rfl | rfl⟩ := z.eq_nat_or_neg
  · simp
  · simp [hb]

/-- A quarter of a unit of a double's last place, in units of the grid. -/
def Grid.ratio (q e : Int) : ℚ := 2 ^ (q - 2) / 10 ^ e

/-- The power of two that a grid is multiplied with. -/
def Grid.scale (q e : Int) : Nat := pow2 (q - 2).toNat * pow10 (-e).toNat

theorem Grid.cast_scale (m : Nat) (q e : Int) :
    (Grid.scale q e : ℚ) = (Grid.ofDouble m q e).den * Grid.ratio q e := by
  have h2 := cast_pow_toNat (b := 2) (by norm_num) (q - 2)
  have h10 := cast_pow_toNat (b := 10) (by norm_num) (-e)
  rw [neg_sub] at h2
  rw [neg_neg] at h10
  show ((2 ^ (q - 2).toNat * 10 ^ (-e).toNat : Nat) : ℚ) =
    ((2 ^ (2 - q).toNat * 10 ^ e.toNat : Nat) : ℚ) * (2 ^ (q - 2) / 10 ^ e)
  push_cast
  rw [h2, h10, zpow_neg]
  field_simp

theorem Grid.den_pos (m : Nat) (q e : Int) : 0 < (Grid.ofDouble m q e).den :=
  Nat.mul_pos (Nat.pow_pos (by decide)) (Nat.pow_pos (by decide))

/-- A double in units of the grid. -/
theorem Grid.cast_num (m : Nat) (q e : Int) :
    ((Grid.ofDouble m q e).num : ℚ) = 4 * m * Grid.ratio q e * (Grid.ofDouble m q e).den := by
  have h : (Grid.ofDouble m q e).num = 4 * m * Grid.scale q e := rfl
  rw [h]
  push_cast
  rw [Grid.cast_scale m]
  ring

/-- The value of a double, and the quotient whose magnitude is taken. -/
theorem cast_value (m : Nat) (q : Int) :
    ((m * pow2 q.toNat : Nat) : ℚ) / (pow2 (-q).toNat : Nat) = m * 2 ^ q := by
  have h2 := cast_pow_toNat (b := 2) (by norm_num) q
  show ((m * 2 ^ q.toNat : Nat) : ℚ) / ((2 ^ (-q).toNat : Nat) : ℚ) = _
  push_cast
  rw [h2]
  field_simp

/-- The number of units of a double on the grid that leaves `n` digits. -/
theorem Grid.ofDouble_bounds {m : Nat} (hm : m ≠ 0) (q : Int) {n : Nat} {e : Int}
    (he : e = magnitude (m * pow2 q.toNat) (pow2 (-q).toNat) + 1 - n) :
    10 ^ n * (Grid.ofDouble m q e).den ≤ 10 * (Grid.ofDouble m q e).num ∧
      (Grid.ofDouble m q e).num < 10 ^ n * (Grid.ofDouble m q e).den := by
  have hnum : 0 < m * pow2 q.toNat := Nat.mul_pos (Nat.pos_of_ne_zero hm) (Nat.pow_pos (by decide))
  have hden : 0 < pow2 (-q).toNat := Nat.pow_pos (by decide)
  obtain ⟨hlow, hhigh⟩ := magnitude_bounds hnum hden
  rw [cast_value] at hlow hhigh
  generalize magnitude (m * pow2 q.toNat) (pow2 (-q).toNat) = top at he hlow hhigh
  subst he
  have hdenq : (0 : ℚ) < (Grid.ofDouble m q (top + 1 - n)).den := by exact_mod_cast Grid.den_pos m q _
  have hvalue : 4 * m * Grid.ratio q (top + 1 - n) * 10 ^ (top + 1 - (n : Int)) = m * 2 ^ q := by
    rw [Grid.ratio, zpow_sub₀ (by norm_num) q 2]
    have hne : (10 : ℚ) ^ (top + 1 - (n : Int)) ≠ 0 := by positivity
    field_simp
    norm_num
  have hunit : (0 : ℚ) < 10 ^ (top + 1 - (n : Int)) := by positivity
  have hsplit : (10 : ℚ) ^ (top + 1) = 10 ^ n * 10 ^ (top + 1 - (n : Int)) := by
    rw [← zpow_natCast, ← zpow_add₀ (by norm_num)]
    congr 1
    ring
  have hten : (10 : ℚ) ^ (top + 1) = 10 * 10 ^ top := by
    rw [zpow_add₀ (by norm_num), zpow_one, mul_comm]
  have hcount : (10 : ℚ) ^ n ≤ 10 * (4 * m * Grid.ratio q (top + 1 - n)) ∧
      4 * m * Grid.ratio q (top + 1 - n) < 10 ^ n := by
    constructor
    · refine le_of_mul_le_mul_right ?_ hunit
      rw [mul_assoc, hvalue, ← hsplit, hten]
      linarith
    · refine lt_of_mul_lt_mul_right ?_ hunit.le
      rw [hvalue, ← hsplit]
      exact hhigh
  have hcast := Grid.cast_num m q (top + 1 - n)
  constructor
  · have h : (10 : ℚ) ^ n * (Grid.ofDouble m q (top + 1 - n)).den ≤
        10 * (Grid.ofDouble m q (top + 1 - n)).num := by
      rw [hcast, ← mul_assoc]
      exact mul_le_mul_of_nonneg_right hcount.1 hdenq.le
    exact_mod_cast h
  · have h : ((Grid.ofDouble m q (top + 1 - n)).num : ℚ) <
        10 ^ n * (Grid.ofDouble m q (top + 1 - n)).den := by
      rw [hcast]
      exact mul_lt_mul_of_pos_right hcount.2 hdenq
    exact_mod_cast h

/-- The lower end of what reads back as a positive double lies above zero. -/
theorem Grid.aboveLow_zero {m : Nat} (hm : m ≠ 0) (q e : Int) :
    (Grid.ofDouble m q e).aboveLow 0 = false := by
  have hscale : 0 < pow2 (q - 2).toNat * pow10 (-e).toNat :=
    Nat.mul_pos (Nat.pow_pos (by decide)) (Nat.pow_pos (by decide))
  have hlow : 0 < (Grid.ofDouble m q e).low := by
    refine Nat.mul_pos ?_ hscale
    split <;> omega
  simp only [Grid.aboveLow, Nat.zero_mul]
  split
  · exact decide_eq_false (by omega)
  · exact decide_eq_false (by omega)

theorem Grid.le_high_of_belowHigh {g : Grid} {d : Nat} (h : g.belowHigh d = true) :
    d * g.den ≤ g.high := by
  unfold Grid.belowHigh at h
  split at h
  · exact of_decide_eq_true h
  · exact (of_decide_eq_true h).le

theorem Grid.high_le_of_not_belowHigh {g : Grid} {d : Nat} (h : g.belowHigh d = false) :
    g.high ≤ d * g.den := by
  unfold Grid.belowHigh at h
  split at h
  · exact (not_le.mp (of_decide_eq_false h)).le
  · exact not_lt.mp (of_decide_eq_false h)

theorem Grid.low_le_of_aboveLow {g : Grid} {d : Nat} (h : g.aboveLow d = true) :
    g.low ≤ d * g.den := by
  unfold Grid.aboveLow at h
  split at h
  · exact of_decide_eq_true h
  · exact (of_decide_eq_true h).le

theorem Grid.le_low_of_not_aboveLow {g : Grid} {d : Nat} (h : g.aboveLow d = false) :
    d * g.den ≤ g.low := by
  unfold Grid.aboveLow at h
  split at h
  · exact (not_le.mp (of_decide_eq_false h)).le
  · exact not_lt.mp (of_decide_eq_false h)

/-- Where an end does not read back, what reads back lies strictly between the ends. -/
theorem Grid.low_lt_of_aboveLow {g : Grid} {d : Nat} (hopen : g.closed = false) (h : g.aboveLow d = true) :
    g.low < d * g.den := by
  rw [Grid.aboveLow, hopen] at h
  exact of_decide_eq_true h

theorem Grid.lt_high_of_belowHigh {g : Grid} {d : Nat} (hopen : g.closed = false)
    (h : g.belowHigh d = true) : d * g.den < g.high := by
  rw [Grid.belowHigh, hopen] at h
  exact of_decide_eq_true h

/-- What is found is one of the two neighbours of the double, and that one reads back. -/
theorem Grid.nearest?_cases {g : Grid} {tie : Tie} {d : Nat} (h : g.nearest? tie = some d) :
    d = g.num / g.den ∧ g.aboveLow (g.num / g.den) = true ∨
      d = g.num / g.den + 1 ∧ g.belowHigh (g.num / g.den + 1) = true := by
  unfold Grid.nearest? at h
  grind

/-- The neighbour that is found does not lie above the numbers that read back, and is not zero. -/
theorem Grid.nearest?_bounds {tie : Tie} {m : Nat} (hm : m ≠ 0) {q e : Int} {d : Nat}
    (h : (Grid.ofDouble m q e).nearest? tie = some d) :
    d ≠ 0 ∧ d ≤ (Grid.ofDouble m q e).num / (Grid.ofDouble m q e).den + 1 ∧
      d * (Grid.ofDouble m q e).den ≤ (Grid.ofDouble m q e).high := by
  have hzero := Grid.aboveLow_zero hm q e
  have hnum : (Grid.ofDouble m q e).num ≤ (Grid.ofDouble m q e).high :=
    Nat.mul_le_mul_right _ (Nat.le_add_right _ _)
  generalize Grid.ofDouble m q e = g at *
  rcases Grid.nearest?_cases h with ⟨rfl, habove⟩ | ⟨rfl, hhigh⟩
  · -- the neighbour below is taken only if it reads back, and zero does not
    refine ⟨?_, Nat.le_succ _, (Nat.div_mul_le_self g.num g.den).trans hnum⟩
    intro h0
    rw [h0, hzero] at habove
    cases habove
  · exact ⟨Nat.succ_ne_zero _, Nat.le_refl _, Grid.le_high_of_belowHigh hhigh⟩

/-- **On the grid that leaves seventeen digits, one of the neighbours is found.** -/
theorem Grid.isSome_nearest? {tie : Tie} {m : Nat} (hbits : m < 2 ^ 53) {q e : Int}
    (hfine : 10 ^ 16 * (Grid.ofDouble m q e).den ≤ (Grid.ofDouble m q e).num) :
    ((Grid.ofDouble m q e).nearest? tie).isSome := by
  have hwidth : (Grid.ofDouble m q e).low + (Grid.ofDouble m q e).den < (Grid.ofDouble m q e).high := by
    have hnum : (Grid.ofDouble m q e).num = 4 * m * Grid.scale q e := rfl
    have hhigh : (Grid.ofDouble m q e).high = (4 * m + 2) * Grid.scale q e := rfl
    have hlow : (Grid.ofDouble m q e).low =
        (4 * m - if m = leastNormal ∧ leastPower < q then 1 else 2) * Grid.scale q e := rfl
    have hden := Grid.den_pos m q e
    have hscale : 0 < Grid.scale q e := by
      have : 0 < (Grid.ofDouble m q e).num := by omega
      rw [hnum] at this
      exact Nat.pos_of_mul_pos_left this
    rw [hlow, hhigh]
    rw [hnum] at hfine
    generalize (Grid.ofDouble m q e).den = den at *
    generalize Grid.scale q e = scale at *
    split
    case isTrue hleast =>
      have hm : m = 4503599627370496 := hleast.1
      subst hm
      omega
    case isFalse =>
      have hmul : (m + 1) * scale ≤ 2 ^ 53 * scale := Nat.mul_le_mul_right scale hbits
      have hm : 4 * m - 2 + 4 = 4 * m + 2 := by
        have hpos : 0 < m := by
          rcases Nat.eq_zero_or_pos m with rfl | hpos
          · omega
          · exact hpos
        omega
      have hsplit : (4 * m + 2) * scale = (4 * m - 2) * scale + 4 * scale := by
        rw [← hm, Nat.add_mul]
      have hassoc : 4 * m * scale = 4 * (m * scale) := Nat.mul_assoc 4 m scale
      rw [Nat.add_mul] at hmul
      omega
  cases hfound : (Grid.ofDouble m q e).nearest? tie with
  | some d => rfl
  | none =>
      generalize Grid.ofDouble m q e = g at *
      have hnone : g.aboveLow (g.num / g.den) = false ∧ g.belowHigh (g.num / g.den + 1) = false := by
        unfold Grid.nearest? at hfound
        grind
      have hlow := Grid.le_low_of_not_aboveLow hnone.1
      have hhigh := Grid.high_le_of_not_belowHigh hnone.2
      rw [Nat.add_mul, Nat.one_mul] at hhigh
      omega

/-! ## The fewest digits -/

/-- A decimal with at most seventeen digits, or a one and zeros after it, and no larger than `high`. -/
structure Shortest.Within (s : Shortest) (high : ℚ) : Prop where
  ne_zero : s.digits ≠ 0
  digits : s.digits ≤ 10 ^ 17
  value : (s.digits : ℚ) * 10 ^ s.exponent ≤ high

/-- Zeros that are moved to the exponent leave the value as it is. -/
theorem Shortest.Within.dropZeros {s : Shortest} {high : ℚ} (h : s.Within high) (fuel : Nat) :
    (s.dropZeros fuel).Within high := by
  induction fuel generalizing s with
  | zero => exact h
  | succ fuel ih =>
      rw [Shortest.dropZeros]
      split
      case isFalse => exact h
      case isTrue hzero =>
        obtain ⟨hne, hdiv⟩ := hzero
        obtain ⟨k, hk⟩ := Nat.dvd_of_mod_eq_zero hdiv
        have hten : s.digits / 10 = k := by omega
        refine ih ⟨?_, ?_, ?_⟩
        · show s.digits / 10 ≠ 0
          omega
        · exact (Nat.div_le_self _ _).trans h.digits
        · have hvalue := h.value
          show ((s.digits / 10 : Nat) : ℚ) * 10 ^ (s.exponent + 1) ≤ high
          rw [hk] at hvalue
          rw [hten, zpow_add₀ (by norm_num), zpow_one]
          push_cast at hvalue
          linarith

/-- The fewest digits are found on one of the grids, the one that leaves seventeen digits at the latest. -/
theorem exists_nearest? (tie : Tie) {m : Nat} (hm : m ≠ 0) (hbits : m < 2 ^ 53) (q : Int) {top : Int}
    (htop : magnitude (m * pow2 q.toNat) (pow2 (-q).toNat) = top) :
    ∃ n : Nat, n ≤ 17 ∧ ∃ d, (Grid.ofDouble m q (top + 1 - n)).nearest? tie = some d ∧
      shortest tie m q = Shortest.dropZeros (mostDigits + 1) ⟨d, top + 1 - n⟩ := by
  unfold shortest
  rw [htop]
  dsimp only
  cases hfound : List.findSome? _ _ with
  | some s =>
      obtain ⟨n, hn, hs⟩ := List.exists_of_findSome?_eq_some hfound
      obtain ⟨d, hd, rfl⟩ := Option.map_eq_some_iff.mp hs
      rw [List.mem_range'_1] at hn
      exact ⟨n, by unfold mostDigits at hn; omega, d, hd, rfl⟩
  | none =>
      -- something is found with seventeen digits
      have hlast := List.findSome?_eq_none_iff.mp hfound 17 (List.mem_range'_1.mpr (by decide))
      have hsome : ((Grid.ofDouble m q (top + 1 - (17 : Nat))).nearest? tie).isSome := by
        obtain ⟨hfine, -⟩ := Grid.ofDouble_bounds hm q (n := 17) (e := top + 1 - (17 : Nat)) (by rw [htop])
        exact Grid.isSome_nearest? hbits (by omega)
      rw [Option.map_eq_none_iff.mp hlast] at hsome
      cases hsome

/-- **The fewest digits** of a positive double: no more than seventeen of them are needed, and they stand for
    no more than half a unit of the double's last place above it. -/
theorem shortest_bounds (tie : Tie) {m : Nat} (hm : m ≠ 0) (hbits : m < 2 ^ 53) (q : Int) :
    (shortest tie m q).Within ((2 * m + 1) * 2 ^ (q - 1)) := by
  generalize htop : magnitude (m * pow2 q.toNat) (pow2 (-q).toNat) = top
  obtain ⟨n, hn, d, hd, heq⟩ := exists_nearest? tie hm hbits q htop
  rw [heq]
  refine Shortest.Within.dropZeros ?_ _
  obtain ⟨hne, hcount, hhigh⟩ := Grid.nearest?_bounds hm hd
  obtain ⟨-, hnum⟩ := Grid.ofDouble_bounds hm q (n := n) (e := top + 1 - n) (by rw [htop])
  have hdigits : d ≤ 10 ^ n := by
    have hlt := (Nat.div_lt_iff_lt_mul (Grid.den_pos m q (top + 1 - n))).mpr hnum
    omega
  refine ⟨hne, hdigits.trans (Nat.pow_le_pow_right (by decide) hn), ?_⟩
  have hdenq : (0 : ℚ) < (Grid.ofDouble m q (top + 1 - n)).den := by
    exact_mod_cast Grid.den_pos m q _
  have hunits : (d : ℚ) ≤ (4 * m + 2) * Grid.ratio q (top + 1 - n) := by
    have h : (d : ℚ) * (Grid.ofDouble m q (top + 1 - n)).den ≤ (4 * m + 2) * Grid.scale q (top + 1 - n) := by
      have hhigh' : d * (Grid.ofDouble m q (top + 1 - n)).den ≤ (4 * m + 2) * Grid.scale q (top + 1 - n) :=
        hhigh
      exact_mod_cast hhigh'
    rw [Grid.cast_scale m] at h
    refine le_of_mul_le_mul_right ?_ hdenq
    linarith
  have hpos : (0 : ℚ) < 10 ^ (top + 1 - (n : Int)) := by positivity
  calc (d : ℚ) * 10 ^ (top + 1 - (n : Int))
      ≤ (4 * m + 2) * Grid.ratio q (top + 1 - n) * 10 ^ (top + 1 - (n : Int)) :=
        mul_le_mul_of_nonneg_right hunits hpos.le
    _ = (2 * m + 1) * 2 ^ (q - 1) := by
        rw [Grid.ratio, show q - 1 = q - 2 + 1 by ring, zpow_add₀ (by norm_num) (q - 2) 1]
        field_simp
        ring

end Recap.Decimal
