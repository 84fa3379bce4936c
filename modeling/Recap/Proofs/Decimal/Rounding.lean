import Mathlib

/-!
# How far doubles are rounded

Whole numbers and products of doubles are cut down to fifty-three bits, and what is cut off decides whether
the last bit that stays goes up. It goes up only where at least half of it is cut off, so the result is at
most half a unit of the last place above what is rounded (`round_bounds`). A product that lies below the
largest double by more than that is therefore finite (`not_isInf_mul`).

## Contents
- `roundedMantissa_shift_le` — what is left of a significand after some of its bits are cut off.
- `round_bounds` — rounding to fifty-three bits.
- `exists_unpack_pack` — a number of fifty-three bits is a double.
- `AtMost`, `atMost_toFloat`, `atMost_ofScientific` — doubles below bounds.
- `not_isInf_mul` — a product that does not get too large.
-/

namespace Recap.Decimal

open Float.Model Float.Model.UnpackedFloat

/-! ## Cutting off bits -/

theorem shift_succ (em : ExtendedMantissa) (k : Nat) :
    em >>> (k + 1) = (em >>> k).shiftRightOne := rfl

/-- What is cut off is less than a unit of what stays, and at least half of one where the next bit is set. -/
structure CutOff (m k : Nat) (em : ExtendedMantissa) : Prop where
  mantissa : em.mantissa = m / 2 ^ k
  half : em.roundBit = true → 2 * (em.mantissa * 2 ^ k) + 2 ^ k ≤ 2 * m

theorem cutOff_shift (m k : Nat) : CutOff m k (ExtendedMantissa.mk m false false >>> k) := by
  induction k with
  | zero => exact ⟨(Nat.div_one m).symm, fun h => absurd h Bool.false_ne_true⟩
  | succ k ih =>
      rw [shift_succ]
      have hmantissa : (ExtendedMantissa.mk m false false >>> k).mantissa = m / 2 ^ k := ih.mantissa
      have hdiv : (ExtendedMantissa.mk m false false >>> k).mantissa / 2 = m / 2 ^ (k + 1) := by
        rw [hmantissa, Nat.div_div_eq_div_mul, Nat.pow_succ]
      refine ⟨hdiv, fun hbit => ?_⟩
      -- the bit that is cut off now is the last one of what stayed before
      have hodd : m / 2 ^ k % 2 = 1 := by
        have hbit' : (ExtendedMantissa.mk m false false >>> k).mantissa % 2 ≠ 0 := by
          simpa [ExtendedMantissa.shiftRightOne] using hbit
        rw [hmantissa] at hbit'
        omega
      have hle : m / 2 ^ k * 2 ^ k ≤ m := Nat.div_mul_le_self m (2 ^ k)
      show 2 * ((ExtendedMantissa.mk m false false >>> k).mantissa / 2 * 2 ^ (k + 1)) + 2 ^ (k + 1) ≤ 2 * m
      rw [hmantissa, Nat.pow_succ]
      have hsplit : m / 2 ^ k = 2 * (m / 2 ^ k / 2) + 1 := by omega
      have hexpand : m / 2 ^ k * 2 ^ k = 2 * (m / 2 ^ k / 2) * 2 ^ k + 2 ^ k := by
        rw [hsplit, Nat.add_mul, Nat.one_mul]
        congr 3
        omega
      nlinarith

/-- **The last bit goes up only where at least half of a unit is cut off.** -/
theorem roundedMantissa_shift_le (m k : Nat) :
    2 * ((ExtendedMantissa.mk m false false >>> k).roundedMantissa * 2 ^ k) ≤ 2 * m + 2 ^ k := by
  have hcut := cutOff_shift m k
  have hle : m / 2 ^ k * 2 ^ k ≤ m := Nat.div_mul_le_self m (2 ^ k)
  generalize ExtendedMantissa.mk m false false >>> k = em at hcut
  obtain ⟨mantissa, roundBit, stickyBit⟩ := em
  obtain ⟨hmantissa, hhalf⟩ := hcut
  dsimp only at hmantissa hhalf
  subst hmantissa
  cases roundBit with
  | false =>
      have hstay : (ExtendedMantissa.mk (m / 2 ^ k) false stickyBit).roundedMantissa = m / 2 ^ k := by
        cases stickyBit <;> rfl
      rw [hstay]
      exact Nat.le_trans (Nat.mul_le_mul_left 2 hle) (Nat.le_add_right _ _)
  | true =>
      have hup : (ExtendedMantissa.mk (m / 2 ^ k) true stickyBit).roundedMantissa ≤ m / 2 ^ k + 1 := by
        cases stickyBit with
        | false =>
            show m / 2 ^ k + m / 2 ^ k % 2 ≤ m / 2 ^ k + 1
            omega
        | true => exact Nat.le_refl _
      have hhalf' := hhalf rfl
      have hmul := Nat.mul_le_mul_right (2 ^ k) hup
      rw [Nat.add_mul, Nat.one_mul] at hmul
      omega

theorem le_roundedMantissa (em : ExtendedMantissa) :
    em.mantissa ≤ em.roundedMantissa ∧ em.roundedMantissa ≤ em.mantissa + 1 := by
  obtain ⟨mantissa, roundBit, stickyBit⟩ := em
  cases roundBit <;> cases stickyBit
  · exact ⟨Nat.le_refl _, Nat.le_succ _⟩
  · exact ⟨Nat.le_refl _, Nat.le_succ _⟩
  · show mantissa ≤ mantissa + mantissa % 2 ∧ mantissa + mantissa % 2 ≤ mantissa + 1
    omega
  · exact ⟨Nat.le_succ _, Nat.le_refl _⟩

/-! ## Rounding to fifty-three bits -/

/-- The power of two that a number of at least fifty-three bits is rounded to. -/
theorem targetExponent_eq {m : Nat} {e : Int} (hleast : -1074 ≤ (m.log2 : Int) + e - 52) :
    Format.binary64.targetExponent (totalExponent m e) = m.log2 + e - 52 := by
  have hmin : Format.binary64.minExponent = -1074 := rfl
  have hbits : (Format.binary64.mantissaBits : Int) = 53 := rfl
  rw [Format.targetExponent, hmin, hbits, totalExponent]
  omega

theorem shiftToTargetExponent_eq {m k : Nat} {e : Int} (hlog : m.log2 = 52 + k)
    (hleast : -1074 ≤ e + k) :
    shiftToTargetExponent .binary64 m e .exact = (ExtendedMantissa.mk m false false >>> k, e + k) := by
  have hshift : ((m.log2 : Int) + e - 52 - e).toNat = k := by omega
  rw [shiftToTargetExponent, targetExponent_eq (by omega), shiftToExponent, hshift]
  rfl

/-- What a number of at least fifty-three bits is rounded to: fifty-three of them, and half a unit of the
    last place more at most. -/
structure RoundsTo (m : Nat) (e : Int) (M : Nat) (E : Int) : Prop where
  low : 2 ^ 52 ≤ M
  high : M < 2 ^ 53
  exponent : (m.log2 : Int) + e - 52 ≤ E
  value : (M : ℚ) * 2 ^ E ≤ m * 2 ^ e + 2 ^ ((m.log2 : Int) + e - 53)
  /-- Nothing is cut off of fifty-three bits. -/
  exact : m.log2 = 52 → M = m ∧ E = e

theorem RoundsTo.pos {m M : Nat} {e E : Int} (h : RoundsTo m e M E) : 0 < M :=
  Nat.lt_of_lt_of_le (by decide) h.low

/-- The place of the highest of fifty-three bits. -/
theorem log2_eq_of_bits {M : Nat} (hlow : 2 ^ 52 ≤ M) (hhigh : M < 2 ^ 53) : M.log2 = 52 := by
  have hle : 52 ≤ M.log2 := (Nat.le_log2 (by omega)).mpr hlow
  have hlt : M.log2 < 53 := (Nat.log2_lt (by omega)).mpr hhigh
  omega

/-- What is rounded by half of what one of its last bits stands for, as a number. -/
theorem rounded_value_le {m k r : Nat} {e : Int} (hk : m.log2 = 52 + k)
    (hup : 2 * (r * 2 ^ k) ≤ 2 * m + 2 ^ k) :
    (r : ℚ) * 2 ^ (e + k) ≤ m * 2 ^ e + 2 ^ ((m.log2 : Int) + e - 53) := by
  have hup' : (2 : ℚ) * (r * 2 ^ k) ≤ 2 * m + 2 ^ k := by exact_mod_cast hup
  have hunit : (2 : ℚ) ^ ((m.log2 : Int) + e - 53) = 2 ^ e * 2 ^ k / 2 := by
    rw [hk, show ((52 + k : Nat) : Int) + e - 53 = e + k - 1 by push_cast; ring,
      zpow_sub₀ (by norm_num), zpow_add₀ (by norm_num), zpow_natCast, zpow_one]
  have hpos : (0 : ℚ) < 2 ^ e := by positivity
  rw [hunit, zpow_add₀ (by norm_num), zpow_natCast]
  nlinarith

/-- **A number is rounded** to fifty-three bits, if it has that many and is not too small. -/
theorem round_bounds (s : Sign) {m : Nat} {e : Int} (hlog : 52 ≤ m.log2)
    (hleast : -1074 ≤ (m.log2 : Int) + e - 52) :
    ∃ M E, ∃ h : RoundsTo m e M E, roundWithAccuracy .binary64 s m e .exact = .finite s M E h.pos := by
  obtain ⟨k, hk⟩ := Nat.exists_eq_add_of_le hlog
  have hne : m ≠ 0 := by
    rintro rfl
    exact absurd hlog (by decide)
  have hlow : 2 ^ 52 ≤ m / 2 ^ k := by
    rw [Nat.le_div_iff_mul_le (by positivity), ← Nat.pow_add, ← hk]
    exact Nat.log2_self_le hne
  have hhigh : m / 2 ^ k < 2 ^ 53 := by
    rw [Nat.div_lt_iff_lt_mul (by positivity), ← Nat.pow_add]
    have hlt : m < 2 ^ (m.log2 + 1) := Nat.lt_log2_self
    rwa [hk, show 52 + k + 1 = 53 + k by omega] at hlt
  have hfirst := shiftToTargetExponent_eq hk (e := e) (by omega)
  have hmantissa : (ExtendedMantissa.mk m false false >>> k).mantissa = m / 2 ^ k :=
    (cutOff_shift m k).mantissa
  have hround := le_roundedMantissa (ExtendedMantissa.mk m false false >>> k)
  have hup := roundedMantissa_shift_le m k
  have hexact : k = 0 → (ExtendedMantissa.mk m false false >>> k).roundedMantissa = m := by
    rintro rfl
    rfl
  rw [hmantissa] at hround
  rw [roundWithAccuracy, hfirst]
  dsimp only
  generalize (ExtendedMantissa.mk m false false >>> k).roundedMantissa = r at *
  have hvalue : (r : ℚ) * 2 ^ (e + k) ≤ m * 2 ^ e + 2 ^ ((m.log2 : Int) + e - 53) :=
    rounded_value_le hk hup
  by_cases hcarry : r < 2 ^ 53
  · have hr : r.log2 = 52 := log2_eq_of_bits (by omega) hcarry
    rw [shiftToTargetExponent_eq (k := 0) hr (by omega)]
    refine ⟨r, e + k, ⟨by omega, hcarry, by omega, hvalue, ?_⟩, ?_⟩
    · intro h52
      have hzero : k = 0 := by omega
      exact ⟨hexact hzero, by omega⟩
    · have hstay : (ExtendedMantissa.mk r false false >>> 0).mantissa = r := rfl
      have hnz : r ≠ 0 := by omega
      simp [hstay, hnz]
  · -- all bits were set: one more is cut off, and it is a zero
    have hr : r = 2 ^ 53 := by omega
    subst hr
    rw [shiftToTargetExponent_eq (k := 1) (by decide) (by omega)]
    refine ⟨2 ^ 52, e + k + 1, ⟨Nat.le_refl _, by decide, by omega, ?_, ?_⟩, rfl⟩
    · have hcarried : ((2 ^ 52 : Nat) : ℚ) * 2 ^ (e + k + 1) = ((2 ^ 53 : Nat) : ℚ) * 2 ^ (e + k) := by
        rw [zpow_add₀ (by norm_num) (e + k) 1]
        push_cast
        ring
      rw [hcarried]
      exact hvalue
    · intro h52
      have hzero : k = 0 := by omega
      have hm : m.log2 = 53 := by rw [← hexact hzero]; decide
      omega

/-! ## Doubles of fifty-three bits -/

/-- **A number of fifty-three bits is a double**, if it is neither too small nor too large. -/
theorem exists_unpack_pack (s : Sign) {M : Nat} {E : Int} (hpos : 0 < M) (hlow : 2 ^ 52 ≤ M)
    (hhigh : M < 2 ^ 53) (hleast : -1074 ≤ E) (hmost : E ≤ 971) :
    ∃ s', (Float.Model.pack (.finite s M E hpos)).unpack = .finite s' M E hpos := by
  have hlog := log2_eq_of_bits hlow hhigh
  have hbias : (Format.binary64.exponentBias : Int) = 1023 := rfl
  obtain ⟨b, hb⟩ := Int.eq_ofNat_of_zero_le (show 0 ≤ E + 1075 by omega)
  have hpack : UnpackedFloat.pack .binary64 (.finite s M E hpos) =
      packComponents .binary64 s (BitVec.ofNat 11 b) (BitVec.ofNat 52 M) := by
    have hbits : M.log2 + 1 = Format.binary64.mantissaBits := by rw [hlog]; rfl
    have hbiased : (E + (Format.binary64.exponentBias : Int) + (52 : Nat)).toNat = b := by omega
    have hfits : ¬ 2 ^ 11 ≤ b + 1 := by omega
    rw [UnpackedFloat.pack]
    show (if 2 ^ 11 ≤ (E + (Format.binary64.exponentBias : Int) + (52 : Nat)).toNat + 1 then _
      else _) = _
    rw [hbiased, if_neg hfits, if_pos hbits]
  -- the exponent is neither that of the infinities nor that of the numbers with fewer bits
  have htoNat : (BitVec.ofNat 11 b).toNat = b := by
    rw [BitVec.toNat_ofNat]
    omega
  have hall : BitVec.ofNat 11 b ≠ -1#11 := by
    intro h
    have h' : (BitVec.ofNat 11 b).toNat = 2047 := congrArg BitVec.toNat h
    omega
  have hzero : BitVec.ofNat 11 b ≠ 0#11 := by
    intro h
    have h' : (BitVec.ofNat 11 b).toNat = 0 := congrArg BitVec.toNat h
    omega
  have hmantissa : (1#1 ++ BitVec.ofNat 52 M).toNat = M := by
    have hrest : (BitVec.ofNat 52 M).toNat = M - 2 ^ 52 := by
      rw [BitVec.toNat_ofNat]
      omega
    have hone : (1#1).toNat = 1 := rfl
    rw [BitVec.toNat_append, ← Nat.shiftLeft_add_eq_or_of_lt (BitVec.isLt _), hrest, hone,
      Nat.shiftLeft_eq]
    omega
  have hexponent : ((BitVec.ofNat 11 b).toNat : Int) - (Format.binary64.exponentBias + (52 : Nat)) = E := by
    omega
  have hunpack : (Float.Model.pack (.finite s M E hpos)).unpack =
      UnpackedFloat.unpack .binary64 (UnpackedFloat.pack .binary64 (.finite s M E hpos)) := rfl
  refine ⟨Sign.ofBitVec (unpackSign (packComponents .binary64 s (BitVec.ofNat 11 b)
    (BitVec.ofNat 52 M))), ?_⟩
  rw [hunpack, hpack, UnpackedFloat.unpack]
  simp only [unpackExponent_packComponents, unpackMantissa_packComponents, hall, hzero, if_false,
    hmantissa, hexponent]

/-! ## Doubles below a bound -/

/-- The double has fifty-three bits, one of them at least before the point, and its size is at most `a`. -/
structure AtMost (x : Float) (a : ℚ) : Prop where
  exists_finite : ∃ s M E, ∃ hpos : 0 < M, x.toModel.unpack = .finite s M E hpos ∧ 2 ^ 52 ≤ M ∧
    -52 ≤ E ∧ (M : ℚ) * 2 ^ E ≤ a

theorem AtMost.mono {x : Float} {a b : ℚ} (h : AtMost x a) (hab : a ≤ b) : AtMost x b := by
  obtain ⟨s, M, E, hpos, hx, hlow, hleast, hle⟩ := h
  exact ⟨s, M, E, hpos, hx, hlow, hleast, hle.trans hab⟩

/-- All doubles are below this. -/
def beyondMost : ℚ := 2 ^ (1024 : Int)

/-- A number that is rounded to less than that has a power of two that a double can have. -/
theorem RoundsTo.le_most {m M : Nat} {e E : Int} (h : RoundsTo m e M E)
    (hmost : (M : ℚ) * 2 ^ E < beyondMost) : E ≤ 971 := by
  by_contra hlarge
  have hE : (2 : ℚ) ^ (972 : Int) ≤ 2 ^ E := zpow_le_zpow_right₀ (by norm_num) (by omega)
  have hM : (2 : ℚ) ^ (52 : Int) ≤ M := by exact_mod_cast h.low
  have hsize : beyondMost ≤ M * 2 ^ E := by
    calc beyondMost = (2 : ℚ) ^ (52 : Int) * 2 ^ (972 : Int) := by
          rw [beyondMost, ← zpow_add₀ (by norm_num)]
          rfl
      _ ≤ 2 ^ (52 : Int) * 2 ^ E := mul_le_mul_of_nonneg_left hE (by positivity)
      _ ≤ M * 2 ^ E := mul_le_mul_of_nonneg_right hM (by positivity)
  exact absurd hmost (not_lt.mpr hsize)

/-- What a number of one or more is rounded to. -/
theorem AtMost.of_roundsTo (s : Sign) {m M : Nat} {e E : Int} (h : RoundsTo m e M E)
    (hone : 0 ≤ (m.log2 : Int) + e) {a : ℚ} (ha : (M : ℚ) * 2 ^ E ≤ a) (hmost : a < beyondMost) :
    AtMost (.ofModel (Float.Model.pack (.finite s M E h.pos))) a := by
  have hleast : -52 ≤ E := by
    have := h.exponent
    omega
  have hE : E ≤ 971 := h.le_most (lt_of_le_of_lt ha hmost)
  obtain ⟨s', hs'⟩ := exists_unpack_pack s h.pos h.low h.high (by omega) hE
  exact ⟨s', M, E, h.pos, hs', h.low, hleast, ha⟩

theorem log2_mul_two_pow {n : Nat} (hn : n ≠ 0) (j : Nat) : (n * 2 ^ j).log2 = n.log2 + j := by
  have hne : n * 2 ^ j ≠ 0 := Nat.mul_ne_zero hn (by positivity)
  rw [Nat.log2_eq_iff hne]
  constructor
  · rw [Nat.pow_add]
    exact Nat.mul_le_mul_right _ (Nat.log2_self_le hn)
  · rw [show n.log2 + j + 1 = n.log2 + 1 + j by omega, Nat.pow_add]
    exact Nat.mul_lt_mul_of_pos_right Nat.lt_log2_self (by positivity)

/-- Half a unit of the last of fifty-three bits. -/
theorem halfUnit_le {m : Nat} (hm : m ≠ 0) (e : Int) :
    (2 : ℚ) ^ ((m.log2 : Int) + e - 53) ≤ m * 2 ^ e / 2 ^ 53 := by
  have hle : ((2 ^ m.log2 : Nat) : ℚ) ≤ m := by exact_mod_cast Nat.log2_self_le hm
  have hsplit : (2 : ℚ) ^ ((m.log2 : Int) + e - 53) = ((2 ^ m.log2 : Nat) : ℚ) * 2 ^ e / 2 ^ 53 := by
    rw [zpow_sub₀ (by norm_num), zpow_add₀ (by norm_num), zpow_natCast]
    push_cast
    rfl
  have hpos : (0 : ℚ) < 2 ^ e := by positivity
  rw [hsplit]
  gcongr

/-- Rounding a whole number to a double. -/
theorem round_eq (n : Nat) (s : Sign) :
    round .binary64 s n 0 =
      roundWithAccuracy .binary64 s (n * 2 ^ (52 - n.log2)) (-((52 - n.log2 : Nat) : Int)) .exact := by
  have htarget : Format.binary64.targetExponent (totalExponent n 0) = (n.log2 : Int) - 52 := by
    rw [targetExponent_eq (by omega)]
    omega
  have hshift : (0 - ((n.log2 : Int) - 52)).toNat = 52 - n.log2 := by omega
  rw [UnpackedFloat.round, htarget, decreaseExponent, hshift, Nat.shiftLeft_eq, Int.zero_sub]

theorem toFloat_eq {n : Nat} (hn : n ≠ 0) (hword : n < 2 ^ 64) :
    (UInt64.ofNat n).toFloat = .ofModel (Float.Model.pack (round .binary64 .positive n 0)) := by
  have htoNat : (UInt64.ofNat n).toNat = n := UInt64.toNat_ofNat_of_lt' hword
  have hfloat : (UInt64.ofNat n).toFloat =
      .ofModel (Float.Model.pack
        (UnpackedFloat.normalize .binary64 ((UInt64.ofNat n).toNat : Int) 0 .positive)) := rfl
  have hpos : compare (n : Int) 0 = .gt := by
    rw [compare_gt_iff_gt]
    omega
  rw [hfloat, htoNat, UnpackedFloat.normalize, hpos]
  rfl

/-- **A whole number as a double**: itself, if it has no more than fifty-three bits. -/
theorem atMost_toFloat {n : Nat} (hn : n ≠ 0) (hword : n < 2 ^ 64) :
    AtMost (UInt64.ofNat n).toFloat
      (if n < 2 ^ 53 then (n : ℚ) else n + 2 ^ ((n.log2 : Int) - 53)) := by
  have hlog : n.log2 ≤ 63 := by
    have hlt : n.log2 < 64 := (Nat.log2_lt hn).mpr hword
    omega
  -- zeros are put behind the number, so that it has fifty-three bits at least
  have hlogm : (n * 2 ^ (52 - n.log2)).log2 = n.log2 + (52 - n.log2) := log2_mul_two_pow hn _
  have hvalue : ((n * 2 ^ (52 - n.log2) : Nat) : ℚ) * 2 ^ (-((52 - n.log2 : Nat) : Int)) = n := by
    push_cast
    rw [mul_assoc, ← zpow_natCast, ← zpow_add₀ (by norm_num), add_neg_cancel, zpow_zero, mul_one]
  obtain ⟨M, E, hround, heq⟩ :=
    round_bounds .positive (m := n * 2 ^ (52 - n.log2)) (e := -((52 - n.log2 : Nat) : Int))
      (by omega) (by omega)
  have hM : (M : ℚ) * 2 ^ E ≤ if n < 2 ^ 53 then (n : ℚ) else n + 2 ^ ((n.log2 : Int) - 53) := by
    split
    case isTrue hsmall =>
      have h52 : n.log2 ≤ 52 := by
        have hlt : n.log2 < 53 := (Nat.log2_lt hn).mpr hsmall
        omega
      obtain ⟨rfl, rfl⟩ := hround.exact (by omega)
      exact hvalue.le
    case isFalse hlarge =>
      have h := hround.value
      rw [hvalue, hlogm] at h
      have hexp : ((n.log2 + (52 - n.log2) : Nat) : Int) + -((52 - n.log2 : Nat) : Int) - 53 =
          n.log2 - 53 := by
        omega
      rwa [hexp] at h
  rw [toFloat_eq hn hword, round_eq, heq]
  refine AtMost.of_roundsTo .positive hround (by omega) hM ?_
  have hn64 : (n : ℚ) < 2 ^ 64 := by exact_mod_cast hword
  have hunit : (2 : ℚ) ^ ((n.log2 : Int) - 53) ≤ 2 ^ (10 : Int) :=
    zpow_le_zpow_right₀ (by norm_num) (by omega)
  have hbound : (if n < 2 ^ 53 then (n : ℚ) else n + 2 ^ ((n.log2 : Int) - 53)) ≤ n + 2 ^ (10 : Int) := by
    split
    · exact le_add_of_nonneg_right (by positivity)
    · linarith
  calc _ ≤ (n : ℚ) + 2 ^ (10 : Int) := hbound
    _ < 2 ^ 64 + 2 ^ (10 : Int) := by linarith
    _ ≤ 2 ^ (65 : Int) := by norm_num
    _ ≤ beyondMost := zpow_le_zpow_right₀ (by norm_num) (by norm_num)

/-- **A product is finite** where it is below the largest double by half a unit of its last place. -/
theorem not_isInf_mul {x y : Float} {a b : ℚ} (hx : AtMost x a) (hy : AtMost y b)
    (hab : a * b + 2 ^ (970 : Int) < beyondMost) : (x * y).isInf = false := by
  obtain ⟨s, M, E, hpos, hux, hlow, hleast, ha⟩ := hx
  obtain ⟨s', M', E', hpos', huy, hlow', hleast', hb⟩ := hy
  have hne : M * M' ≠ 0 := Nat.mul_ne_zero hpos.ne' hpos'.ne'
  have hlog : 104 ≤ (M * M').log2 := by
    rw [Nat.le_log2 hne, show 104 = 52 + 52 from rfl, Nat.pow_add]
    exact Nat.mul_le_mul hlow hlow'
  have hvalue : ((M * M' : Nat) : ℚ) * 2 ^ (E + E') ≤ a * b := by
    calc ((M * M' : Nat) : ℚ) * 2 ^ (E + E') = (M * 2 ^ E) * (M' * 2 ^ E') := by
          rw [zpow_add₀ (by norm_num)]
          push_cast
          ring
      _ ≤ a * b := mul_le_mul ha hb (by positivity) ((by positivity : (0 : ℚ) ≤ M * 2 ^ E).trans ha)
  obtain ⟨N, F, hround, heq⟩ :=
    round_bounds (s * s') (m := M * M') (e := E + E') (by omega) (by omega)
  have hfloat : (x * y) = .ofModel (Float.Model.pack (.finite (s * s') N F hround.pos)) := by
    have hmul : x * y = .ofModel (Float.Model.pack
        (UnpackedFloat.mul .binary64 x.toModel.unpack y.toModel.unpack)) := rfl
    rw [hmul, hux, huy, UnpackedFloat.mul, heq]
  -- half a unit of the last place is no more than that of the largest double
  have hunit : ((M * M').log2 : Int) + (E + E') - 53 ≤ 970 := by
    by_contra hlarge
    have h := halfUnit_le hne (E + E')
    have hbig : (2 : ℚ) ^ (971 : Int) ≤ 2 ^ (((M * M').log2 : Int) + (E + E') - 53) :=
      zpow_le_zpow_right₀ (by norm_num) (by omega)
    have hmost : beyondMost = 2 ^ (971 : Int) * 2 ^ 53 := by
      rw [beyondMost, ← zpow_natCast, ← zpow_add₀ (by norm_num)]
      rfl
    have hlow : beyondMost ≤ ((M * M' : Nat) : ℚ) * 2 ^ (E + E') := by
      rw [hmost, ← le_div_iff₀ (by positivity)]
      exact hbig.trans h
    have hpos : (0 : ℚ) ≤ 2 ^ (970 : Int) := zpow_nonneg (by norm_num) _
    exact absurd (hlow.trans (hvalue.trans (le_add_of_nonneg_right hpos))) (not_le.mpr hab)
  have hF : F ≤ 971 := by
    refine hround.le_most (lt_of_le_of_lt ?_ hab)
    have hstep : (2 : ℚ) ^ (((M * M').log2 : Int) + (E + E') - 53) ≤ 2 ^ (970 : Int) :=
      zpow_le_zpow_right₀ (by norm_num) hunit
    exact hround.value.trans (add_le_add hvalue hstep)
  obtain ⟨s'', hs''⟩ := exists_unpack_pack (s * s') hround.pos hround.low hround.high
    (by have := hround.exponent; omega) hF
  have hisInf : (x * y).isInf = (Float.Model.pack (.finite (s * s') N F hround.pos)).unpack.isInf := by
    rw [hfloat]
    rfl
  rw [hisInf, hs'']
  rfl

/-! ## Powers of ten -/

/-- Whether a double is known to be at most a whole number. -/
def isAtMost (x : Float) (n : Nat) : Bool :=
  match x.toModel.unpack with
  | .finite _ M E _ => 2 ^ 52 ≤ M && -52 ≤ E && M * 2 ^ (E + 52).toNat ≤ n * 2 ^ 52
  | _ => false

theorem AtMost.of_isAtMost {x : Float} {n : Nat} (h : isAtMost x n = true) : AtMost x n := by
  unfold isAtMost at h
  split at h
  case h_1 s M E hpos hx =>
    simp only [Bool.and_eq_true, decide_eq_true_eq] at h
    obtain ⟨⟨hlow, hleast⟩, hle⟩ := h
    refine ⟨s, M, E, hpos, hx, hlow, hleast, ?_⟩
    obtain ⟨k, hk⟩ := Int.eq_ofNat_of_zero_le (show 0 ≤ E + 52 by omega)
    have hle' : (M : ℚ) * 2 ^ k ≤ n * 2 ^ 52 := by
      rw [hk, Int.toNat_natCast] at hle
      exact_mod_cast hle
    rw [show E = (k : Int) - 52 by omega, zpow_sub₀ (by norm_num), zpow_natCast, ← mul_div_assoc,
      div_le_iff₀ (by positivity)]
    exact hle'
  case h_2 => cases h

/-- Small powers of ten are doubles. -/
theorem isAtMost_small : ∀ p < 23, isAtMost (Float.ofScientific 1 false p) (10 ^ p) = true := by
  decide +kernel

/-- A larger one is rounded once. -/
theorem ofScientific_eq {p : Nat} (hsmall : 23 ≤ p) (hp : p ≤ 308) :
    Float.ofScientific 1 false p =
      .ofModel (Float.Model.pack (roundWithAccuracy .binary64 .positive (10 ^ p * 2 ^ 53) (-53) .exact)) := by
  have hslow : ¬ (1 < 2 ^ 53 ∧ p ≤ 22) := by omega
  have hnotLarge : ¬ ((Int.ofNat p : Int) > 2 ^ Format.binary64.exponentBits) := by
    show ¬ ((p : Int) > 2 ^ 11)
    omega
  have hnotSmall : ¬ ((Int.ofNat p : Int) < -((2 ^ Format.binary64.exponentBits : Int) + (1 : Nat).log2)) := by
    show ¬ ((p : Int) < -(2 ^ 11 + 0))
    omega
  have hnonneg : (0 : Int) ≤ Int.ofNat p := Int.natCast_nonneg p
  have hshift : 1 <<< Format.binary64.mantissaBits * 10 ^ (Int.ofNat p).toNat = 10 ^ p * 2 ^ 53 := by
    show 1 <<< 53 * 10 ^ p = 10 ^ p * 2 ^ 53
    rw [Nat.shiftLeft_eq, Nat.one_mul, Nat.mul_comm]
  have hexp : -(Format.binary64.mantissaBits : Int) + 0 = -53 := rfl
  have hsign : Sign.positive * Sign.positive = Sign.positive := rfl
  have hmodel : UnpackedFloat.ofScientific .binary64 1 (Int.ofNat p) =
      roundWithAccuracy .binary64 .positive (10 ^ p * 2 ^ 53) (-53) .exact := by
    rw [UnpackedFloat.ofScientific, dif_neg Nat.one_ne_zero, if_neg hnotLarge, if_neg hnotSmall, if_pos hnonneg,
      UnpackedFloat.mul, hshift, hexp, hsign]
  rw [Float.ofScientific, dif_neg hslow]
  show Float.ofModel (Float.Model.pack (UnpackedFloat.ofScientific .binary64 1 (Int.ofNat p))) = _
  rw [hmodel]

/-- **A power of ten as a double**, rounded by half a unit of the last of fifty-three bits at most. -/
theorem atMost_ofScientific {p : Nat} (hp : p ≤ 308) :
    AtMost (Float.ofScientific 1 false p) (10 ^ p * (1 + 1 / 2 ^ 53)) := by
  by_cases hsmall : p < 23
  · refine (AtMost.of_isAtMost (isAtMost_small p hsmall)).mono ?_
    push_cast
    have hpos : (0 : ℚ) < 10 ^ p := by positivity
    nlinarith
  · have hne : 10 ^ p ≠ 0 := by positivity
    have hlog : (10 ^ p * 2 ^ 53).log2 = (10 ^ p).log2 + 53 := log2_mul_two_pow hne 53
    have hvalue : ((10 ^ p * 2 ^ 53 : Nat) : ℚ) * 2 ^ (-53 : Int) = 10 ^ p := by
      have hone : (2 : ℚ) ^ 53 * 2 ^ (-53 : Int) = 1 := by norm_num
      simp only [Nat.cast_mul, Nat.cast_pow, Nat.cast_ofNat]
      rw [mul_assoc, hone, mul_one]
    obtain ⟨M, E, hround, heq⟩ :=
      round_bounds .positive (m := 10 ^ p * 2 ^ 53) (e := -53) (by omega) (by omega)
    have hhalf := halfUnit_le (m := 10 ^ p * 2 ^ 53) (Nat.mul_ne_zero hne (by positivity)) (-53)
    have hM : (M : ℚ) * 2 ^ E ≤ 10 ^ p * (1 + 1 / 2 ^ 53) := by
      have h := hround.value
      rw [hvalue] at h hhalf
      rw [mul_add, mul_one, mul_one_div]
      exact h.trans (add_le_add_right hhalf _)
    rw [ofScientific_eq (by omega) hp, heq]
    refine AtMost.of_roundsTo .positive hround (by omega) hM ?_
    have hmost : (10 : ℚ) ^ 308 * 3 < 2 ^ 1024 * 2 := by
      have hnat : 10 ^ 308 * 3 < 2 ^ 1024 * 2 := by decide +kernel
      exact_mod_cast hnat
    have hbeyond : beyondMost = 2 ^ 1024 := zpow_natCast 2 1024
    have hten : (10 : ℚ) ^ p ≤ 10 ^ 308 := pow_le_pow_right₀ (by norm_num) hp
    have hcoarse : (10 : ℚ) ^ p * (1 + 1 / 2 ^ 53) ≤ 10 ^ 308 * (3 / 2) :=
      mul_le_mul hten (by norm_num) (by norm_num) (by positivity)
    rw [hbeyond]
    generalize (10 : ℚ) ^ 308 = a at hmost hcoarse
    generalize (2 : ℚ) ^ 1024 = b at hmost
    linarith

end Recap.Decimal
