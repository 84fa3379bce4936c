import Recap.Proofs.Decimal.Nearest

/-!
# The bits of a double

`Binary.ofFloat` takes the sign, the exponent and the significand from the bits of a double. They can be put
together again (`ofFloat_eq_finite`), so a finite double is determined by what it stands for
(`eq_of_ofFloat`), and they are the bits that a sign, a significand and a power of two are packed into
(`toBits_pack`).

## Contents
- `toNat_unpackExponent`, `toNat_unpackMantissa`, `toNat_unpackSign` — the parts of the bits as numbers.
- `Ranged`, `ofFloat_eq_finite`, `ofFloat_of_bits`, `eq_of_ofFloat` — what a finite double stands for, and its
  bits.
- `canonical_of_ofFloat`, `ofFloat_pack`, `unpack_of_ofFloat` — packed doubles.
- `eq_signed_pack`, `eq_zero`, `eq_infinity` — a double from its magnitude and its sign.
- `exists_of_isFinite`, `ofFloat_ne_notANumber` — which doubles are finite, and which are numbers.
-/

namespace Recap.Decimal

open Float.Model Float.Model.UnpackedFloat

/-! ## The parts of the bits -/

/-- The bits of the exponent, as a number. -/
theorem toNat_unpackExponent (x : Float) :
    (@unpackExponent .binary64 x.toBits.toBitVec).toNat = x.toBits.toNat / leastNormal % 2048 := by
  rw [unpackExponent, BitVec.toNat_cast, BitVec.extractLsb_toNat, Nat.shiftRight_eq_div_pow]
  rfl

/-- The bits of the significand, as a number. -/
theorem toNat_unpackMantissa (x : Float) :
    (@unpackMantissa .binary64 x.toBits.toBitVec).toNat = x.toBits.toNat % leastNormal := by
  rw [unpackMantissa, BitVec.toNat_cast, BitVec.extractLsb_toNat, Nat.shiftRight_zero]
  rfl

/-- The bit of the sign, as a number. -/
theorem toNat_unpackSign (x : Float) :
    (@unpackSign .binary64 x.toBits.toBitVec).toNat = x.toBits.toNat / 2 ^ 63 % 2 := by
  rw [unpackSign, BitVec.toNat_cast, BitVec.extractLsb_toNat, Nat.shiftRight_eq_div_pow]
  rfl

/-- An exponent with all bits set. -/
theorem unpackExponent_of_top {x : Float} (h : x.toBits.toNat / leastNormal % 2048 = 2047) :
    @unpackExponent .binary64 x.toBits.toBitVec = -1#11 := by
  apply BitVec.eq_of_toNat_eq
  rw [toNat_unpackExponent, h]
  rfl

/-- The three parts of the bits. -/
theorem bits_split {n : Nat} (hn : n < 2 ^ 64) :
    n = n / 2 ^ 63 * 2 ^ 63 + n / 2 ^ 52 % 2048 * 2 ^ 52 + n % 2 ^ 52 ∧ n / 2 ^ 63 < 2 := by
  omega

theorem bits_parts {e f : Nat} (s : Nat) (he : e < 2048) (hf : f < 2 ^ 52) :
    (s * 2 ^ 63 + e * 2 ^ 52 + f) / 2 ^ 63 = s ∧ (s * 2 ^ 63 + e * 2 ^ 52 + f) / 2 ^ 52 % 2048 = e ∧
      (s * 2 ^ 63 + e * 2 ^ 52 + f) % 2 ^ 52 = f := by
  omega

/-! ## What a double stands for -/

/-- The sign of what is negative or not. -/
def signOf (negative : Bool) : Sign := if negative then .negative else .positive

/-- The bit of the sign. -/
def signBit (negative : Bool) : Nat := if negative then 1 else 0

theorem signBit_beq {s : Nat} (h : s < 2) : signBit (s == 1) = s := by
  have hs : s = 0 ∨ s = 1 := by omega
  rcases hs with rfl | rfl <;> rfl

/-- The exponent in the bits: none for a significand of fewer bits. -/
def exponentBits (m : Nat) (q : Int) : Nat := if m < 2 ^ 52 then 0 else (q + 1075).toNat

/-- The bits of a finite double. -/
def bitsOf (negative : Bool) (m : Nat) (q : Int) : Nat :=
  signBit negative * 2 ^ 63 + exponentBits m q * 2 ^ 52 + m % 2 ^ 52

/-- A significand and a power of two that a double can have, zero among them. -/
structure Ranged (m : Nat) (q : Int) : Prop where
  bits : m < 2 ^ 53
  least : -1074 ≤ q
  most : q ≤ 971
  small : m < 2 ^ 52 → q = -1074

/-- The greatest exponent is kept for what is not finite. -/
theorem Ranged.exponentBits_lt {m : Nat} {q : Int} (h : Ranged m q) : exponentBits m q < 2047 := by
  obtain ⟨-, hleast, hmost, -⟩ := h
  unfold exponentBits
  split <;> omega

/-- The parts of the bits of a finite double. -/
theorem Ranged.parts {m : Nat} {q : Int} (h : Ranged m q) (negative : Bool) :
    bitsOf negative m q / 2 ^ 63 = signBit negative ∧
      bitsOf negative m q / 2 ^ 52 % 2048 = exponentBits m q ∧
      bitsOf negative m q % 2 ^ 52 = m % 2 ^ 52 :=
  bits_parts (signBit negative) (h.exponentBits_lt.trans (by decide)) (Nat.mod_lt m (by decide))

/-- What the three parts of the bits stand for. -/
def ofParts (sign exponent fraction : Nat) : Binary :=
  if exponent = 2047 then if fraction = 0 then .infinite (sign == 1) else .notANumber
  else if exponent = 0 then .finite (sign == 1) fraction (-1074)
  else .finite (sign == 1) (2 ^ 52 + fraction) (-1074 + (exponent - 1 : Nat))

theorem ofFloat_eq_ofParts (x : Float) :
    Binary.ofFloat x = ofParts (x.toBits.toNat / 2 ^ 63) (x.toBits.toNat / 2 ^ 52 % 2048)
      (x.toBits.toNat % 2 ^ 52) := by
  unfold Binary.ofFloat ofParts
  simp only [beq_iff_eq]
  rfl

/-- **What a finite double stands for**, and its bits. -/
theorem ofFloat_eq_finite {x : Float} {negative : Bool} {m : Nat} {q : Int}
    (hx : Binary.ofFloat x = .finite negative m q) :
    x.toBits.toNat = bitsOf negative m q ∧ Ranged m q := by
  obtain ⟨hsplit, hsign⟩ := bits_split x.toBits.toNat_lt
  have hexponent : x.toBits.toNat / 2 ^ 52 % 2048 < 2048 := Nat.mod_lt _ (by decide)
  have hfraction : x.toBits.toNat % 2 ^ 52 < 2 ^ 52 := Nat.mod_lt _ (by decide)
  rw [ofFloat_eq_ofParts] at hx
  generalize x.toBits.toNat % 2 ^ 52 = f at *
  generalize x.toBits.toNat / 2 ^ 52 % 2048 = e at *
  generalize x.toBits.toNat / 2 ^ 63 = s at *
  have hbit := signBit_beq hsign
  unfold ofParts at hx
  split at hx
  · split at hx <;> cases hx
  · split at hx
    · obtain ⟨rfl, rfl, rfl⟩ := Binary.finite.inj hx
      refine ⟨?_, by omega, by omega, by omega, fun _ => rfl⟩
      have hbits : exponentBits f (-1074) = 0 := if_pos hfraction
      rw [hsplit, bitsOf, hbit, hbits, Nat.mod_eq_of_lt hfraction]
      omega
    · obtain ⟨rfl, rfl, rfl⟩ := Binary.finite.inj hx
      refine ⟨?_, by omega, by omega, by omega, by omega⟩
      have hbits : exponentBits (2 ^ 52 + f) (-1074 + (e - 1 : Nat)) =
          (-1074 + ((e - 1 : Nat) : Int) + 1075).toNat := if_neg (by omega)
      rw [hsplit, bitsOf, hbit, hbits]
      omega

/-- Doubles with the same bits are equal. -/
theorem eq_of_toBits {x y : Float} (h : x.toBits.toNat = y.toBits.toNat) : x = y := by
  obtain ⟨⟨bits, hvalid⟩⟩ := x
  obtain ⟨⟨bits', hvalid'⟩⟩ := y
  have hbits : bits = bits' := UInt64.toNat_inj.mp h
  subst hbits
  rfl

/-- **A finite double is determined by what it stands for.** -/
theorem eq_of_ofFloat {x y : Float} {negative : Bool} {m : Nat} {q : Int}
    (hx : Binary.ofFloat x = .finite negative m q) (hy : Binary.ofFloat y = .finite negative m q) :
    x = y :=
  eq_of_toBits ((ofFloat_eq_finite hx).1.trans (ofFloat_eq_finite hy).1.symm)

/-- What stands in the bits of a double is what it stands for. -/
theorem ofFloat_of_bits {x : Float} {negative : Bool} {m : Nat} {q : Int} (hm : Ranged m q)
    (hx : x.toBits.toNat = bitsOf negative m q) : Binary.ofFloat x = .finite negative m q := by
  obtain ⟨hs, he, hf⟩ := hm.parts negative
  have hfinite : exponentBits m q ≠ 2047 := hm.exponentBits_lt.ne
  obtain ⟨hbits, hlow, hmost, hsmall⟩ := hm
  have hsign : (signBit negative == 1) = negative := by
    cases negative <;> rfl
  rw [ofFloat_eq_ofParts, hx, hs, he, hf, ofParts, hsign, if_neg hfinite]
  unfold exponentBits
  by_cases hnormal : m < 2 ^ 52
  · rw [if_pos hnormal, if_pos rfl, Nat.mod_eq_of_lt hnormal, hsmall hnormal]
  · have hm : 2 ^ 52 + m % 2 ^ 52 = m := by omega
    have hq : -1074 + (((q + 1075).toNat - 1 : Nat) : Int) = q := by omega
    rw [if_neg hnormal, if_neg (by omega), hm, hq]

/-! ## Packed doubles -/

theorem canonical_of_ofFloat {x : Float} {negative : Bool} {m : Nat} {q : Int}
    (hx : Binary.ofFloat x = .finite negative m q) (hm : 0 < m) : Canonical m q := by
  obtain ⟨-, hbits, hleast, hmost, hsmall⟩ := ofFloat_eq_finite hx
  exact ⟨hm, hbits, hleast, hmost, hsmall⟩

theorem toNat_packComponents (s : Sign) (e : BitVec 11) (f : BitVec 52) :
    (packComponents .binary64 s e f).toNat = s.toBitVec.toNat * 2 ^ 63 + e.toNat * 2 ^ 52 + f.toNat := by
  have he := e.isLt
  have hf := f.isLt
  rw [packComponents, BitVec.toNat_append, BitVec.toNat_append,
    ← Nat.shiftLeft_add_eq_or_of_lt he, ← Nat.shiftLeft_add_eq_or_of_lt hf,
    Nat.shiftLeft_eq, Nat.shiftLeft_eq]
  omega

/-- **The bits of a packed double.** -/
theorem toBits_pack (negative : Bool) {m : Nat} {q : Int} (hm : Canonical m q) :
    (Float.ofModel (Float.Model.pack (.finite (signOf negative) m q hm.pos))).toBits.toNat =
      bitsOf negative m q := by
  have hsign : (signOf negative).toBitVec.toNat = signBit negative := by
    cases negative <;> rfl
  have hleast := hm.least
  have hmost := hm.most
  have hbiased : (q + (Format.binary64.exponentBias : Int) + (52 : Nat)).toNat = (q + 1075).toNat := by
    have hbias : (Format.binary64.exponentBias : Int) = 1023 := rfl
    omega
  have hfits : ¬ 2 ^ 11 ≤ (q + 1075).toNat + 1 := by omega
  have hpack : UnpackedFloat.pack .binary64 (.finite (signOf negative) m q hm.pos) =
      packComponents .binary64 (signOf negative) (BitVec.ofNat 11 (exponentBits m q))
        (BitVec.ofNat 52 m) := by
    rw [UnpackedFloat.pack]
    show (if 2 ^ 11 ≤ (q + (Format.binary64.exponentBias : Int) + (52 : Nat)).toNat + 1 then _
      else _) = _
    rw [hbiased, if_neg hfits]
    unfold exponentBits
    by_cases hnormal : m < 2 ^ 52
    · have hlog : ¬ m.log2 + 1 = Format.binary64.mantissaBits := by
        have hlt : m.log2 < 52 := (Nat.log2_lt hm.pos.ne').mpr hnormal
        show ¬ m.log2 + 1 = 53
        omega
      rw [if_neg hlog, if_pos hnormal]
    · have hlog : m.log2 + 1 = Format.binary64.mantissaBits := by
        rw [log2_eq_of_bits (not_lt.mp hnormal) hm.bits]
        rfl
      rw [if_pos hlog, if_neg hnormal]
  have hexponent : exponentBits m q < 2 ^ 11 := by
    unfold exponentBits
    split <;> omega
  show (UnpackedFloat.pack .binary64 (.finite (signOf negative) m q hm.pos)).toNat = _
  rw [hpack, toNat_packComponents, hsign, BitVec.toNat_ofNat, BitVec.toNat_ofNat,
    Nat.mod_eq_of_lt hexponent]
  rfl

/-- **A packed double stands for what was packed.** -/
theorem ofFloat_pack (negative : Bool) {m : Nat} {q : Int} (hm : Canonical m q) :
    Binary.ofFloat (.ofModel (Float.Model.pack (.finite (signOf negative) m q hm.pos))) =
      .finite negative m q :=
  ofFloat_of_bits ⟨hm.bits, hm.least, hm.most, hm.small⟩ (toBits_pack negative hm)

theorem unpackSign_eq {x : Float} {negative : Bool} (h : x.toBits.toNat / 2 ^ 63 = signBit negative) :
    Sign.ofBitVec (@unpackSign .binary64 x.toBits.toBitVec) = signOf negative := by
  have hbit : (@unpackSign .binary64 x.toBits.toBitVec) = BitVec.ofNat 1 (signBit negative) := by
    apply BitVec.eq_of_toNat_eq
    rw [toNat_unpackSign, h]
    cases negative <;> rfl
  rw [hbit]
  cases negative <;> rfl

/-- **What a double stands for is what it is unpacked into.** -/
theorem unpack_of_ofFloat {x : Float} {negative : Bool} {m : Nat} {q : Int} (hm : 0 < m)
    (hx : Binary.ofFloat x = .finite negative m q) :
    x.toModel.unpack = .finite (signOf negative) m q hm := by
  obtain ⟨hbits, hranged⟩ := ofFloat_eq_finite hx
  have hlt := hranged.exponentBits_lt
  obtain ⟨hs, he, hf⟩ := hranged.parts negative
  rw [← hbits] at hs he hf
  have hexponent : (@unpackExponent .binary64 x.toBits.toBitVec).toNat = exponentBits m q :=
    (toNat_unpackExponent x).trans he
  have hmantissa : (@unpackMantissa .binary64 x.toBits.toBitVec).toNat = m % 2 ^ 52 :=
    (toNat_unpackMantissa x).trans hf
  have hsign := unpackSign_eq hs
  have hall : @unpackExponent .binary64 x.toBits.toBitVec ≠ -1#11 := by
    intro h
    rw [h] at hexponent
    have htop : (-1#11).toNat = 2047 := rfl
    omega
  -- a significand of fewer bits has no exponent, any other one hides its first bit
  have hbias : (Format.binary64.exponentBias : Int) = 1023 := rfl
  show UnpackedFloat.unpack .binary64 x.toBits.toBitVec = _
  rw [UnpackedFloat.unpack]
  by_cases hnormal : m < 2 ^ 52
  · have hzero : @unpackExponent .binary64 x.toBits.toBitVec = 0#11 := by
      apply BitVec.eq_of_toNat_eq
      rw [hexponent, exponentBits, if_pos hnormal]
      rfl
    have hne : @unpackMantissa .binary64 x.toBits.toBitVec ≠ 0#52 := by
      intro h
      have hnone : (0#52).toNat = 0 := rfl
      rw [h, Nat.mod_eq_of_lt hnormal] at hmantissa
      exact hm.ne' (hmantissa.symm.trans hnone)
    have hm' : (@unpackMantissa .binary64 x.toBits.toBitVec).toNat = m := by
      rw [hmantissa, Nat.mod_eq_of_lt hnormal]
    have hq : (((0#11).toNat : Int) - ((Format.binary64.exponentBias : Int) + (52 : Nat)) + 1) = q := by
      rw [hranged.small hnormal, hbias]
      rfl
    have hnotAll : (0#11) ≠ -1#11 := by decide
    simp only [hzero, hnotAll, hne, if_false, if_true, dif_neg, not_false_eq_true, hsign, hm', hq]
  · have hbits' : exponentBits m q = (q + 1075).toNat := if_neg hnormal
    have hleast := hranged.least
    have hzero : @unpackExponent .binary64 x.toBits.toBitVec ≠ 0#11 := by
      intro h
      have hnone : (0#11).toNat = 0 := rfl
      rw [h, hbits'] at hexponent
      omega
    have hm' : (1#1 ++ @unpackMantissa .binary64 x.toBits.toBitVec).toNat = m := by
      have hone : (1#1).toNat = 1 := rfl
      have hmost := hranged.bits
      rw [BitVec.toNat_append, ← Nat.shiftLeft_add_eq_or_of_lt (BitVec.isLt _), hmantissa, hone,
        Nat.shiftLeft_eq]
      show 1 * 2 ^ 52 + m % 2 ^ 52 = m
      omega
    have hq : (((@unpackExponent .binary64 x.toBits.toBitVec).toNat : Int) -
        ((Format.binary64.exponentBias : Int) + (52 : Nat))) = q := by
      rw [hexponent, hbits', hbias]
      omega
    simp only [hall, hzero, if_false, hsign, hm', hq]

/-! ## A double from its magnitude and its sign -/

theorem neg_pack {m : Nat} {q : Int} (hm : Canonical m q) :
    -Float.ofModel (Float.Model.pack (.finite .positive m q hm.pos)) =
      .ofModel (Float.Model.pack (.finite .negative m q hm.pos)) := by
  have hpositive : (Float.Model.pack (.finite .positive m q hm.pos)).unpack = .finite .positive m q hm.pos :=
    unpack_of_ofFloat hm.pos (ofFloat_pack false hm)
  show Float.ofModel (Float.Model.pack (Float.Model.unpack (Float.Model.pack
    (.finite .positive m q hm.pos))).neg) = _
  rw [hpositive]
  rfl

/-- **A finite double is its magnitude with its sign.** -/
theorem eq_signed_pack {x : Float} {negative : Bool} {m : Nat} {q : Int} (hm : 0 < m)
    (hx : Binary.ofFloat x = .finite negative m q) :
    (if negative then -Float.ofModel (Float.Model.pack (.finite .positive m q hm))
      else .ofModel (Float.Model.pack (.finite .positive m q hm))) = x := by
  have hcanonical := canonical_of_ofFloat hx hm
  cases negative with
  | false => exact eq_of_ofFloat (ofFloat_pack false hcanonical) hx
  | true =>
    rw [if_pos rfl, neg_pack hcanonical]
    exact eq_of_ofFloat (ofFloat_pack true hcanonical) hx

/-- So are both zeros, -/
theorem eq_zero {x : Float} {negative : Bool} {q : Int} (hx : Binary.ofFloat x = .finite negative 0 q) :
    (if negative then -(0.0 : Float) else 0.0) = x := by
  have hq : q = -1074 := (ofFloat_eq_finite hx).2.small (by decide)
  subst hq
  cases negative with
  | false =>
    have hzero : Binary.ofFloat 0.0 = .finite false 0 (-1074) := by decide +kernel
    exact eq_of_ofFloat hzero hx
  | true =>
    have hzero : Binary.ofFloat (-0.0) = .finite true 0 (-1074) := by decide +kernel
    exact eq_of_ofFloat hzero hx

/-- The bits of the infinities. -/
theorem toBits_infinite {x : Float} {negative : Bool} (hx : Binary.ofFloat x = .infinite negative) :
    x.toBits.toNat = signBit negative * 2 ^ 63 + 2047 * 2 ^ 52 := by
  obtain ⟨hsplit, hsign⟩ := bits_split x.toBits.toNat_lt
  rw [ofFloat_eq_ofParts] at hx
  generalize x.toBits.toNat % 2 ^ 52 = f at *
  generalize x.toBits.toNat / 2 ^ 52 % 2048 = e at *
  generalize x.toBits.toNat / 2 ^ 63 = s at *
  have hbit := signBit_beq hsign
  unfold ofParts at hx
  split at hx
  · next he =>
    split at hx
    · next hf =>
      have hs : signBit negative = s := by rw [← Binary.infinite.inj hx, hbit]
      rw [hs, hsplit, he, hf, Nat.add_zero]
    · cases hx
  · split at hx <;> cases hx

/-- and both infinities. -/
theorem eq_infinity {x : Float} {negative : Bool} (hx : Binary.ofFloat x = .infinite negative) :
    (if negative then -(1.0 / 0.0 : Float) else 1.0 / 0.0) = x := by
  apply eq_of_toBits
  rw [toBits_infinite hx]
  cases negative <;> decide +kernel

/-! ## Finite doubles and numbers -/

/-- A finite double stands for a number. -/
theorem exists_of_isFinite {x : Float} (h : x.isFinite = true) :
    ∃ negative m q, Binary.ofFloat x = .finite negative m q := by
  have hexponent : x.toBits.toNat / 2 ^ 52 % 2048 ≠ 2047 := by
    intro htop
    have hunpack : x.isFinite = (UnpackedFloat.unpack .binary64 x.toBits.toBitVec).isFinite := rfl
    rw [hunpack, UnpackedFloat.unpack] at h
    simp only [unpackExponent_of_top htop, if_true] at h
    split at h <;> cases h
  rw [ofFloat_eq_ofParts, ofParts, if_neg hexponent]
  split
  · exact ⟨_, _, _, rfl⟩
  · exact ⟨_, _, _, rfl⟩

/-- What is a number stands for one, or for an infinity. -/
theorem ofFloat_ne_notANumber {x : Float} (hx : x.isNaN = false) : Binary.ofFloat x ≠ .notANumber := by
  intro h
  rw [ofFloat_eq_ofParts] at h
  have hparts : x.toBits.toNat / 2 ^ 52 % 2048 = 2047 ∧ x.toBits.toNat % 2 ^ 52 ≠ 0 := by
    unfold ofParts at h
    split at h
    · next he =>
      split at h
      · cases h
      · next hf => exact ⟨he, hf⟩
    · split at h <;> cases h
  obtain ⟨he, hf⟩ := hparts
  have hne : @unpackMantissa .binary64 x.toBits.toBitVec ≠ 0#52 := by
    intro h0
    have hmantissa := toNat_unpackMantissa x
    rw [h0] at hmantissa
    exact hf hmantissa.symm
  have hunpack : x.isNaN = (UnpackedFloat.unpack .binary64 x.toBits.toBitVec).isNaN := rfl
  rw [hunpack, UnpackedFloat.unpack] at hx
  simp only [unpackExponent_of_top he, hne, if_true, if_false] at hx
  cases hx

end Recap.Decimal
