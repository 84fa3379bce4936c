import Recap.Proofs.Decimal.Bits
import Recap.Proofs.Decimal.Shortest

/-!
# The fewest digits are read back

The fewest digits of a double are looked for among the decimals that are rounded to it, so that is what they
stand for (`shortest_nearby`). A decimal with places after its point is read as the quotient of its digits and
a power of ten, in one of two ways: as a quotient of doubles where both are doubles, or else as one of whole
numbers. Either way it is rounded once, so a decimal that is near to a double is read as that double
(`ofScientific_of_nearby`).

## Contents
- `Grid.nearest?_inside`, `Grid.nearby_of_inside`, `shortest_nearby` — the fewest digits are near.
- `Stands`, `stands_toFloat`, `isExactly_pow10` — whole numbers and powers of ten that are doubles.
- `Nearby.powers` — between which powers of ten a decimal lies that is near to a double.
- `ofScientific_of_nearby` — a decimal is read as the double it is near to.
-/

namespace Recap.Decimal

open Float.Model Float.Model.UnpackedFloat

/-! ## The fewest digits are near -/

/-- What is found on a grid lies between the ends of what reads back. -/
theorem Grid.nearest?_inside {tie : Tie} {m : Nat} {q e : Int} {d : Nat}
    (h : (Grid.ofDouble m q e).nearest? tie = some d) :
    (Grid.ofDouble m q e).aboveLow d = true ∧ (Grid.ofDouble m q e).belowHigh d = true := by
  have hscale : 0 < Grid.scale q e := Nat.mul_pos (Nat.pow_pos (by decide)) (Nat.pow_pos (by decide))
  have hlow : (Grid.ofDouble m q e).low ≤ (Grid.ofDouble m q e).num :=
    Nat.mul_le_mul_right _ (Nat.sub_le _ _)
  have hhigh : (Grid.ofDouble m q e).num < (Grid.ofDouble m q e).high :=
    Nat.mul_lt_mul_of_pos_right (by omega) hscale
  have hden := Grid.den_pos m q e
  generalize Grid.ofDouble m q e = g at *
  -- the number of units lies between the two neighbours
  have hfloor : g.num / g.den * g.den ≤ g.num := Nat.div_mul_le_self _ _
  have hceil : g.num < (g.num / g.den + 1) * g.den := by
    rw [Nat.add_mul, Nat.one_mul]
    have := Nat.div_add_mod' g.num g.den
    have := Nat.mod_lt g.num hden
    omega
  have hbelow : g.belowHigh (g.num / g.den) = true := by
    unfold Grid.belowHigh
    split
    · exact decide_eq_true (by omega)
    · exact decide_eq_true (by omega)
  have habove : g.aboveLow (g.num / g.den + 1) = true := by
    unfold Grid.aboveLow
    split
    · exact decide_eq_true (by omega)
    · exact decide_eq_true (by omega)
  rcases Grid.nearest?_cases h with ⟨rfl, hd⟩ | ⟨rfl, hd⟩
  · exact ⟨hd, hbelow⟩
  · exact ⟨habove, hd⟩

section Quarters

variable (m : Nat) (q e : Int)

/-- The lower end of what reads back, -/
theorem Grid.cast_low (hm : 0 < m) :
    ((Grid.ofDouble m q e).low : ℚ) =
      (4 * m - gapBelow m q) * Grid.ratio q e * (Grid.ofDouble m q e).den := by
  have hdef : (Grid.ofDouble m q e).low = (4 * m - gapBelow m q) * Grid.scale q e := rfl
  have hgap : gapBelow m q ≤ 4 * m := by
    unfold gapBelow
    split <;> omega
  rw [hdef, Nat.cast_mul, Nat.cast_sub hgap, Grid.cast_scale m]
  push_cast
  ring

/-- and the upper one. -/
theorem Grid.cast_high :
    ((Grid.ofDouble m q e).high : ℚ) = (4 * m + 2) * Grid.ratio q e * (Grid.ofDouble m q e).den := by
  have hdef : (Grid.ofDouble m q e).high = (4 * m + 2) * Grid.scale q e := rfl
  rw [hdef, Nat.cast_mul, Grid.cast_scale m]
  push_cast
  ring

/-- Quarters of the last place are compared with a decimal in units of the grid. -/
theorem Grid.ratio_le_iff (a : ℚ) (d : Nat) :
    a * Grid.ratio q e * (Grid.ofDouble m q e).den ≤ d * (Grid.ofDouble m q e).den ↔
      a * 2 ^ (q - 2) ≤ d * 10 ^ e := by
  have hden : (0 : ℚ) < (Grid.ofDouble m q e).den := by exact_mod_cast Grid.den_pos m q e
  have hunit : (0 : ℚ) < 10 ^ e := by positivity
  rw [mul_le_mul_iff_left₀ hden, Grid.ratio, ← mul_div_assoc, div_le_iff₀ hunit]

theorem Grid.le_ratio_iff (a : ℚ) (d : Nat) :
    d * (Grid.ofDouble m q e).den ≤ a * Grid.ratio q e * (Grid.ofDouble m q e).den ↔
      d * 10 ^ e ≤ a * 2 ^ (q - 2) := by
  have hden : (0 : ℚ) < (Grid.ofDouble m q e).den := by exact_mod_cast Grid.den_pos m q e
  have hunit : (0 : ℚ) < 10 ^ e := by positivity
  rw [mul_le_mul_iff_left₀ hden, Grid.ratio, ← mul_div_assoc, le_div_iff₀ hunit]

end Quarters

/-- **What lies between the ends is rounded to the double.** -/
theorem Grid.nearby_of_inside {m : Nat} (hm : 0 < m) {q e : Int} {d : Nat}
    (hlow : (Grid.ofDouble m q e).aboveLow d = true) (hhigh : (Grid.ofDouble m q e).belowHigh d = true) :
    Nearby m q (d * 10 ^ e) := by
  refine ⟨?_, ?_, fun hodd => ?_⟩
  · have h := Grid.low_le_of_aboveLow hlow
    rw [← Grid.ratio_le_iff m, ← Grid.cast_low m q e hm]
    exact_mod_cast h
  · have h := Grid.le_high_of_belowHigh hhigh
    rw [← Grid.le_ratio_iff m, ← Grid.cast_high m q e]
    exact_mod_cast h
  · -- the ends do not read back where the significand is odd
    have hopen : (Grid.ofDouble m q e).closed = false := by
      show (m % 2 == 0) = false
      rw [hodd]
      rfl
    constructor
    · intro heq
      have hback := (Grid.le_ratio_iff m q e _ d).mpr heq.ge
      rw [← Grid.cast_low m q e hm] at hback
      exact absurd (Grid.low_lt_of_aboveLow hopen hlow) (not_lt.mpr (by exact_mod_cast hback))
    · intro heq
      have hback := (Grid.ratio_le_iff m q e _ d).mpr heq.ge
      rw [← Grid.cast_high m q e] at hback
      exact absurd (Grid.lt_high_of_belowHigh hopen hhigh) (not_lt.mpr (by exact_mod_cast hback))

/-- Zeros that are moved to the exponent leave the value as it is. -/
theorem Shortest.dropZeros_value (fuel : Nat) (s : Shortest) :
    ((s.dropZeros fuel).digits : ℚ) * 10 ^ (s.dropZeros fuel).exponent = s.digits * 10 ^ s.exponent := by
  induction fuel generalizing s with
  | zero => rfl
  | succ fuel ih =>
    rw [Shortest.dropZeros]
    split
    case isFalse => rfl
    case isTrue hzero =>
      obtain ⟨k, hk⟩ := Nat.dvd_of_mod_eq_zero hzero.2
      have hten : s.digits / 10 = k := by omega
      rw [ih]
      dsimp only
      rw [hten, hk, zpow_add₀ (by norm_num), zpow_one]
      push_cast
      ring

/-- **The fewest digits of a double are near to it.** -/
theorem shortest_nearby (tie : Tie) {m : Nat} {q : Int} (hm : Canonical m q) :
    Nearby m q ((shortest tie m q).digits * 10 ^ (shortest tie m q).exponent) := by
  obtain ⟨n, -, d, hd, heq⟩ := exists_nearest? tie hm.pos.ne' hm.bits q rfl
  obtain ⟨hlow, hhigh⟩ := Grid.nearest?_inside hd
  rw [heq, Shortest.dropZeros_value]
  exact Grid.nearby_of_inside hm.pos hlow hhigh

/-! ## Operands -/

/-- A positive double and its value. -/
structure Stands (x : Float) (v : ℚ) : Prop where
  exists_finite : ∃ m q, ∃ hm : 0 < m, x.toModel.unpack = .finite .positive m q hm ∧ (m : ℚ) * 2 ^ q = v

/-- Whole numbers of fifty-three bits are doubles. -/
theorem stands_toFloat {n : Nat} (hn : n ≠ 0) (hbits : n < 2 ^ 53) : Stands n.toUInt64.toFloat n := by
  have hlog : n.log2 < 53 := (Nat.log2_lt hn).mpr hbits
  have hlogm : (n * 2 ^ (52 - n.log2)).log2 = 52 := by
    rw [log2_mul_two_pow hn]
    omega
  obtain ⟨M, E, hround, heq⟩ := round_bounds .positive (m := n * 2 ^ (52 - n.log2))
    (e := -((52 - n.log2 : Nat) : Int)) hlogm.ge (by omega)
  obtain ⟨rfl, rfl⟩ := hround.exact hlogm
  have hcanonical : Canonical (n * 2 ^ (52 - n.log2)) (-((52 - n.log2 : Nat) : Int)) :=
    ⟨hround.pos, hround.high, by omega, by omega, fun h => absurd hround.low (not_le.mpr h)⟩
  have hfloat : n.toUInt64.toFloat = .ofModel (Float.Model.pack
      (.finite .positive (n * 2 ^ (52 - n.log2)) (-((52 - n.log2 : Nat) : Int)) hround.pos)) := by
    have h := toFloat_eq hn (lt_trans hbits (by decide))
    rw [round_eq, heq] at h
    exact h
  refine ⟨n * 2 ^ (52 - n.log2), -((52 - n.log2 : Nat) : Int), hround.pos, ?_, ?_⟩
  · rw [hfloat]
    exact unpack_of_ofFloat hround.pos (ofFloat_pack false hcanonical)
  · push_cast
    rw [mul_assoc, ← zpow_natCast, ← zpow_add₀ (by norm_num), add_neg_cancel, zpow_zero, mul_one]

/-- Whether a positive double stands for a whole number. -/
def isExactly (x : Float) (n : Nat) : Bool :=
  match x.toModel.unpack with
  | .finite .positive m q _ => -52 ≤ q && m * 2 ^ (q + 52).toNat == n * 2 ^ 52
  | _ => false

theorem Stands.of_isExactly {x : Float} {n : Nat} (h : isExactly x n = true) : Stands x n := by
  unfold isExactly at h
  split at h
  case h_1 m q hm hx =>
    simp only [Bool.and_eq_true, decide_eq_true_eq, beq_iff_eq] at h
    obtain ⟨hleast, heq⟩ := h
    refine ⟨m, q, hm, hx, ?_⟩
    obtain ⟨k, hk⟩ := Int.eq_ofNat_of_zero_le (show 0 ≤ q + 52 by omega)
    have heq' : (m : ℚ) * 2 ^ k = n * 2 ^ 52 := by
      rw [hk, Int.toNat_natCast] at heq
      exact_mod_cast heq
    rw [show q = (k : Int) - 52 by omega, zpow_sub₀ (by norm_num), zpow_natCast, ← mul_div_assoc,
      div_eq_iff (by positivity)]
    exact heq'
  case h_2 => cases h

/-- Small powers of ten are doubles. -/
theorem isExactly_pow10 : ∀ k (_ : k < Float.exactlyRepresentablePowersOfTen.size),
    isExactly Float.exactlyRepresentablePowersOfTen[k] (10 ^ k) = true := by
  decide +kernel

/-! ## Decimals -/

/-- A quotient of doubles is the double that the quotient of their values is near to. -/
theorem div_of_nearby {x y : Float} {a b : ℚ} (hx : Stands x a) (hy : Stands y b) {m : Nat} {q : Int}
    (hm : Canonical m q) (h : Nearby m q (a / b)) :
    x / y = .ofModel (Float.Model.pack (.finite .positive m q hm.pos)) := by
  obtain ⟨m₁, q₁, h₁, hx, rfl⟩ := hx
  obtain ⟨m₂, q₂, h₂, hy, rfl⟩ := hy
  have hdiv : x / y = .ofModel (Float.Model.pack
      (UnpackedFloat.div .binary64 x.toModel.unpack y.toModel.unpack)) := rfl
  rw [hdiv, hx, hy, div_eq .positive .positive h₁ h₂ hm h]
  rfl

/-- A decimal that is near to a double lies between powers of ten that doubles have. -/
theorem Nearby.powers {n t k m : Nat} {q : Int} (hm : Canonical m q) (h : Nearby m q (n / 10 ^ k))
    (hlow : 10 ^ t ≤ n) (hhigh : n < 10 ^ (t + 1)) : (t : Int) - k < 309 ∧ -324 < (t : Int) + 1 - k := by
  obtain ⟨hupper, -, -, hlower⟩ := h.bounds hm
  have hleast := hm.least
  have hmost := hm.most
  constructor
  · have hlow' : (10 : ℚ) ^ ((t : Int) - k) ≤ n / 10 ^ k := by
      rw [zpow_sub₀ (by norm_num), zpow_natCast, zpow_natCast]
      gcongr
      exact_mod_cast hlow
    have hmost' : (2 : ℚ) ^ (53 + q) ≤ 2 ^ (1024 : Int) := zpow_le_zpow_right₀ (by norm_num) (by omega)
    have hten : (2 : ℚ) ^ (1024 : Int) ≤ 10 ^ (309 : Int) := by
      have hnat : 2 ^ 1024 ≤ 10 ^ 309 := by decide +kernel
      exact_mod_cast hnat
    exact (zpow_lt_zpow_iff_right₀ (by norm_num : (1 : ℚ) < 10)).mp
      (hlow'.trans_lt (hupper.trans_le (hmost'.trans hten)))
  · have hhigh' : (n : ℚ) / 10 ^ k < 10 ^ ((t : Int) + 1 - k) := by
      have hcast : (n : ℚ) < 10 ^ (t + 1) := by exact_mod_cast hhigh
      have hexp : (10 : ℚ) ^ ((t : Int) + 1 - k) = 10 ^ (t + 1) / 10 ^ k := by
        rw [zpow_sub₀ (by norm_num), zpow_natCast]
        rfl
      rw [hexp]
      gcongr
    have hleast' : (2 : ℚ) ^ (-1075 : Int) ≤ 2 ^ (q - 1) := zpow_le_zpow_right₀ (by norm_num) (by omega)
    have hten : (10 : ℚ) ^ (-324 : Int) ≤ 2 ^ (-1075 : Int) := by
      have hnat : 2 ^ 1075 ≤ 10 ^ 324 := by decide +kernel
      rw [zpow_neg, zpow_neg]
      exact inv_anti₀ (by positivity) (by exact_mod_cast hnat)
    exact (zpow_lt_zpow_iff_right₀ (by norm_num : (1 : ℚ) < 10)).mp
      ((hten.trans (hleast'.trans hlower)).trans_lt hhigh')

/-- Nor is it zero. -/
theorem Nearby.ne_zero {n k m : Nat} {q : Int} (hm : Canonical m q) (h : Nearby m q (n / 10 ^ k)) : n ≠ 0 := by
  rintro rfl
  obtain ⟨-, -, -, hleast⟩ := h.bounds hm
  rw [Nat.cast_zero, zero_div] at hleast
  exact absurd hleast (not_le.mpr (by positivity))

/-- The places of a decimal that is near to a double are not too many for its digits. -/
theorem places_le_of_nearby {n k m : Nat} {q : Int} (hm : Canonical m q)
    (h : Nearby m q (n / 10 ^ k)) : k ≤ 2 ^ 11 + n.log2 := by
  obtain ⟨-, -, -, hleast⟩ := h.bounds hm
  have hsize : ((n : ℚ) / 10 ^ k) < 2 ^ ((n.log2 : Int) + 1 - k) := by
    have hn' : (n : ℚ) < 2 ^ (n.log2 + 1) := by exact_mod_cast (Nat.lt_log2_self : n < 2 ^ (n.log2 + 1))
    have hten : (2 : ℚ) ^ k ≤ 10 ^ k := pow_le_pow_left₀ (by norm_num) (by norm_num) k
    have hpower : (2 : ℚ) ^ ((n.log2 : Int) + 1 - k) = 2 ^ (n.log2 + 1) / 2 ^ k := by
      rw [zpow_sub₀ (by norm_num), zpow_natCast]
      rfl
    rw [hpower, div_lt_div_iff₀ (by positivity) (by positivity)]
    calc (n : ℚ) * 2 ^ k < 2 ^ (n.log2 + 1) * 2 ^ k := mul_lt_mul_of_pos_right hn' (by positivity)
      _ ≤ 2 ^ (n.log2 + 1) * 10 ^ k := mul_le_mul_of_nonneg_left hten (by positivity)
  have hlt := lt_of_zpow_lt hleast hsize
  have hq := hm.least
  omega

/-- **A decimal is read as the double that it is near to.** -/
theorem ofScientific_of_nearby {n k : Nat} (hk : k ≠ 0) {m : Nat} {q : Int} (hm : Canonical m q)
    (h : Nearby m q (n / 10 ^ k)) :
    Float.ofScientific n true k = .ofModel (Float.Model.pack (.finite .positive m q hm.pos)) := by
  have hn := h.ne_zero hm
  by_cases hfast : n < 2 ^ 53 ∧ k ≤ 22
  · -- both are doubles
    have hsize : k < Float.exactlyRepresentablePowersOfTen.size := Nat.lt_succ_of_le hfast.2
    have hpower := Stands.of_isExactly (isExactly_pow10 k hsize)
    rw [Float.ofScientific, dif_pos hfast, if_pos rfl]
    refine div_of_nearby (stands_toFloat hn hfast.1) hpower hm ?_
    push_cast
    exact h
  · -- a quotient of whole numbers
    have heq : Int.negOfNat k = -(k : Int) := Int.negOfNat_eq
    have hlarge : ¬ -(k : Int) > 2 ^ Format.binary64.exponentBits := by
      show ¬ (-(k : Int) > 2 ^ 11)
      omega
    have hsmall : ¬ -(k : Int) < -((2 ^ Format.binary64.exponentBits : Int) + n.log2) := by
      have hle := places_le_of_nearby hm h
      show ¬ (-(k : Int) < -(2 ^ 11 + (n.log2 : Int)))
      omega
    have hneg : ¬ 0 ≤ -(k : Int) := by omega
    have hpower : (-(-(k : Int))).toNat = k := by omega
    have hvalue : Nearby m q ((n * 2 ^ (0 : Int)) / ((10 ^ (-(-(k : Int))).toNat : Nat) * 2 ^ (0 : Int))) := by
      rw [hpower, zpow_zero, mul_one, mul_one]
      push_cast
      exact h
    have hmodel : UnpackedFloat.ofScientific .binary64 n (Int.negOfNat k) = .finite .positive m q hm.pos := by
      rw [heq, UnpackedFloat.ofScientific, dif_neg hn, if_neg hlarge, if_neg hsmall, if_neg hneg,
        div_eq .positive .positive (Nat.pos_of_ne_zero hn) _ hm hvalue]
      rfl
    rw [Float.ofScientific, dif_neg hfast]
    show Float.ofModel (Float.Model.pack (UnpackedFloat.ofScientific .binary64 n (Int.negOfNat k))) = _
    rw [hmodel]

end Recap.Decimal
