import Recap.Proofs.Decimal.ReadBack
import Recap.Proofs.Toml.Number

/-!
# Written doubles come back

A double is always written with a point and digits on both sides of it (`Places`), never with a power of ten,
and is read from all of these digits and the number of those after the point. What they stand for is the
decimal with the fewest digits (`Places.value_ofDecimal`), and that is read as the double again. No double is
as large or as small as the numbers that are not looked at closely (`toFloat?_of_nearby`).

## Contents
- `Places`, `Places.ofDecimal`, `Places.ofMagnitude` — the digits on both sides of a point.
- `Places.Proper.readWord?_chars` — the text of such digits.
- `Places.value_ofDecimal`, `toFloat?_of_nearby` — what they stand for, and the double that is read.
- `readWord?_writeFloat_self` — every double that is a number comes back.
-/

namespace Recap.Toml

open Json (Digits ProperWhole Significant signChars)
open Decimal (Binary Canonical Nearby shortest)

/-! ## The digits on both sides of a point -/

/-- The digits before and after a point. -/
structure Places where
  whole : List Char
  fraction : List Char
  deriving DecidableEq, Repr

/-- Digits on both sides, and no zero in front that is not needed. -/
structure Places.Proper (p : Places) : Prop where
  whole : ProperWhole p.whole
  fraction : Digits p.fraction

/-- The digits as they are written. -/
def Places.chars (p : Places) : List Char := p.whole ++ '.' :: p.fraction

/-- The double of these digits. -/
def Places.toFloat? (p : Places) : Option Float :=
  Toml.toFloat? (p.whole ++ p.fraction) (-(p.fraction.length : Int))

/-- A double with a sign. -/
def signed (negative : Bool) (x : Float) : Float := if negative then -x else x

theorem cutAt_of_forall {p : Char → Bool} {cs : List Char} (h : ∀ c ∈ cs, p c = false) :
    cutAt p cs = (cs, none) := by
  have hnot : ∀ c ∈ cs, (!p c) = true := fun c hc => by rw [h c hc]; rfl
  rw [cutAt, List.takeWhile_eq_self_iff.mpr hnot, List.dropWhile_eq_nil_iff.mpr hnot]
  rfl

theorem cutAt_append {p : Char → Bool} {cs : List Char} (h : ∀ c ∈ cs, p c = false) {d : Char}
    (hd : p d = true) (ds : List Char) : cutAt p (cs ++ d :: ds) = (cs, some ds) := by
  have hnot : ∀ c ∈ cs, (!p c) = true := fun c hc => by rw [h c hc]; rfl
  rw [cutAt, List.takeWhile_append_of_pos hnot, List.dropWhile_append_of_pos hnot]
  simp [hd]

theorem digits?_of_digits {ds : List Char} (h : Digits ds) : digits? ds = some ds := by
  have hempty : ds.isEmpty = false := List.isEmpty_eq_false_iff.mpr h.ne_nil
  have hall : ds.all Char.isDigit = true := List.all_eq_true.mpr h.isDigit
  simp [digits?, hempty, hall]

/-- **Digits on both sides of a point are read as a double.** -/
theorem Places.Proper.readWord?_chars {p : Places} (h : p.Proper) (negative : Bool) :
    readWord? (signChars negative ++ p.chars) = some (.float (p.toFloat?.map (signed negative))) := by
  obtain ⟨whole, fraction⟩ := p
  obtain ⟨hwhole, hfraction⟩ := h
  dsimp only at hwhole hfraction
  have hdigits := ProperWhole.digits hwhole
  have hchars : ∀ c ∈ whole ++ '.' :: fraction, c.isDigit = true ∨ c = '.' := by
    intro c hc
    rcases List.mem_append.mp hc with hc | hc
    · exact .inl (hdigits.isDigit c hc)
    · rcases List.mem_cons.mp hc with rfl | hc
      · exact .inr rfl
      · exact .inl (hfraction.isDigit c hc)
  have hfirst : ∀ c ∈ (whole ++ '.' :: fraction).head?, c.isDigit = true := by
    obtain ⟨d, ds, rfl⟩ := List.exists_cons_of_ne_nil hdigits.ne_nil
    rintro c ⟨⟩
    exact hdigits.isDigit d List.mem_cons_self
  have hpoint : (whole ++ '.' :: fraction).dropWhile Char.isDigit = '.' :: fraction := by
    rw [List.dropWhile_append_of_pos hdigits.isDigit]
    rfl
  have hword := readWord?_signChars negative (by simp) hfirst hchars
  rw [hpoint] at hword
  refine hword.trans ?_
  -- there are no underscores and no power of ten, and one point
  have hplain : '_' ∉ whole ++ '.' :: fraction := fun h' => absurd rfl (ne_of_digit_or_point (hchars _ h'))
  have hpower : cutAt (fun c => c == 'e' || c == 'E') (whole ++ '.' :: fraction) =
      (whole ++ '.' :: fraction, none) := by
    refine cutAt_of_forall fun c hc => ?_
    have he : c ≠ 'e' := ne_of_digit_or_point (hchars c hc)
    have hE : c ≠ 'E' := ne_of_digit_or_point (hchars c hc)
    simp [he, hE]
  have hcut : cutAt (· == '.') (whole ++ '.' :: fraction) = (whole, some fraction) := by
    refine cutAt_append (fun c hc => ?_) rfl fraction
    have hc' : c ≠ '.' := by
      rintro rfl
      cases hdigits.isDigit '.' hc
    simp [hc']
  show readDecimal? ⟨negative, negative⟩ (whole ++ '.' :: fraction) = _
  rw [readDecimal?, dropUnderscores?_of_not_mem hplain]
  simp only [Option.bind_eq_bind, Option.bind_some, hpower, hcut, digits?_of_digits hdigits,
    digits?_of_digits hfraction, hasIdleZero_of_properWhole hwhole, Bool.false_eq_true, if_false,
    Option.pure_def, Option.some.injEq, Item.float.injEq, Places.toFloat?, Int.zero_sub]
  rfl

/-! ## The digits of a double -/

/-- The digits that are written for a decimal whose point stands after `point` of its digits. -/
def Places.ofDecimal (ds : List Char) (point : Int) : Places :=
  if (ds.length : Int) ≤ point then ⟨ds ++ List.replicate (point - ds.length).toNat '0', ['0']⟩
  else if 0 < point then ⟨ds.take point.toNat, ds.drop point.toNat⟩
  else ⟨['0'], List.replicate (-point).toNat '0' ++ ds⟩

theorem Places.proper_ofDecimal {ds : List Char} (h : Significant ds) (point : Int) :
    (Places.ofDecimal ds point).Proper := by
  obtain ⟨hds, hhead⟩ := h
  unfold Places.ofDecimal
  split
  case isTrue hwhole =>
    refine ⟨.inr ⟨⟨by simp [hds.ne_nil], ?_⟩, ?_⟩, ⟨by simp, by simp⟩⟩
    · intro d hd
      rcases List.mem_append.mp hd with hd | hd
      · exact hds.isDigit d hd
      · exact Json.isDigit_of_mem_replicate hd
    · obtain ⟨d, es, rfl⟩ := List.exists_cons_of_ne_nil hds.ne_nil
      exact hhead
  case isFalse hfraction =>
    split
    case isTrue hpoint =>
      have hpos : 0 < point.toNat := by omega
      have hdrop : ds.drop point.toNat ≠ [] := by
        rw [Ne, List.drop_eq_nil_iff]
        omega
      exact ⟨.inr ⟨hds.take hpos, by rwa [Json.head?_take hpos]⟩,
        ⟨hdrop, fun d hd => hds.isDigit d (List.mem_of_mem_drop hd)⟩⟩
    case isFalse hpoint =>
      refine ⟨.inl rfl, ⟨by simp [hds.ne_nil], ?_⟩⟩
      intro d hd
      rcases List.mem_append.mp hd with hd | hd
      · exact Json.isDigit_of_mem_replicate hd
      · exact hds.isDigit d hd

theorem Places.chars_ofDecimal (digits : String) (point : Int) :
    (floatStyle.writePositional digits point).toList =
      (Places.ofDecimal digits.toList point).chars := by
  have hlength : (digits.length : Int) = digits.toList.length := by rw [String.length_toList]
  unfold Decimal.Style.writePositional Places.ofDecimal
  simp only [hlength]
  split
  · simp [Places.chars, Decimal.zeros, floatStyle]
  · split
    · simp [Places.chars]
    · simp [Places.chars, Decimal.zeros]

/-- The digits that are written for `m · 2^q`. -/
def Places.ofMagnitude (m : Nat) (q : Int) : Places :=
  if m = 0 then ⟨['0'], ['0']⟩
  else
    let s := shortest floatStyle.tie m q
    .ofDecimal (Nat.toDigits 10 s.digits) ((Nat.toDigits 10 s.digits).length + s.exponent)

theorem Places.proper_ofMagnitude {m : Nat} (hbits : m < 2 ^ 53) (q : Int) :
    (Places.ofMagnitude m q).Proper := by
  unfold Places.ofMagnitude
  split
  · exact ⟨.inl rfl, ⟨by simp, by simp⟩⟩
  case isFalse hm =>
    exact Places.proper_ofDecimal
      (Json.significant_toDigits (Decimal.shortest_bounds floatStyle.tie hm hbits q).ne_zero) _

/-- The text of what is not negative. -/
theorem Places.chars_ofMagnitude (m : Nat) (q : Int) :
    (floatStyle.writeMagnitude m q).toList = (Places.ofMagnitude m q).chars := by
  unfold Decimal.Style.writeMagnitude Places.ofMagnitude
  split
  · rfl
  · have hpositional : ∀ point, floatStyle.positional point = true := by
      intro point
      unfold Decimal.Style.positional
      split <;> rfl
    have hlength : (Nat.repr (shortest floatStyle.tie m q).digits).length =
        (Nat.toDigits 10 (shortest floatStyle.tie m q).digits).length := by
      rw [← String.length_toList, Nat.toList_repr]
    simp only [hpositional, if_true, hlength, Places.chars_ofDecimal, Nat.toList_repr]

/-- The text of a finite double is its sign and its digits. -/
theorem toList_writeFloat {x : Float} {negative : Bool} {m : Nat} {q : Int}
    (hx : Binary.ofFloat x = .finite negative m q) :
    (writeFloat x).toList = signChars negative ++ (Places.ofMagnitude m q).chars := by
  have hsign : (if negative = true then "-" else "").toList = signChars negative := by
    cases negative <;> rfl
  rw [writeFloat, Decimal.Style.write, hx, String.toList_append, hsign, Places.chars_ofMagnitude]

/-- The text of an infinity. -/
theorem toList_writeFloat_infinite {x : Float} {negative : Bool} (hx : Binary.ofFloat x = .infinite negative) :
    (writeFloat x).toList = signChars negative ++ ['i', 'n', 'f'] := by
  rw [writeFloat, Decimal.Style.write, hx]
  cases negative <;> rfl

/-- **A finite double is read from its digits**, and from their sign. -/
theorem readWord?_writeFloat {x : Float} {negative : Bool} {m : Nat} {q : Int}
    (hx : Binary.ofFloat x = .finite negative m q) (hbits : m < 2 ^ 53) :
    readWord? (writeFloat x).toList =
      some (.float ((Places.ofMagnitude m q).toFloat?.map (signed negative))) := by
  rw [toList_writeFloat hx, (Places.proper_ofMagnitude hbits q).readWord?_chars negative]

/-! ## Doubles come back -/

/-- **Digits are read as the double that their number is near to.** -/
theorem toFloat?_of_nearby {ds : List Char} (hds : ∀ d ∈ ds, d.isDigit = true) {k : Nat} (hk : k ≠ 0)
    {m : Nat} {q : Int} (hm : Canonical m q) (h : Nearby m q (digitsToNat 10 ds / 10 ^ k)) :
    toFloat? ds (-(k : Int)) =
      some (.ofModel (Float.Model.pack (.finite .positive m q hm.pos))) := by
  have hne := h.ne_zero hm
  obtain ⟨t, ht, hlow, hhigh⟩ := digitsToNat_bounds hds hne
  obtain ⟨htop, hbottom⟩ := h.powers hm hlow hhigh
  have hread := Decimal.ofScientific_of_nearby hk hm h
  have hfinite : (Float.ofModel (Float.Model.pack (.finite .positive m q hm.pos))).isInf = false := by
    have hunpack := Decimal.unpack_of_ofFloat hm.pos (Decimal.ofFloat_pack false hm)
    have hisInf : ∀ x : Float, x.isInf = x.toModel.unpack.isInf := fun _ => rfl
    rw [hisInf]
    exact congrArg Float.Model.UnpackedFloat.isInf hunpack
  have hfar : ¬ farPlaces < ((ds.dropWhile (· == '0')).length : Int) + -(k : Int) := by
    rw [ht, farPlaces]
    push_cast
    omega
  have hfar' : ¬ ((ds.dropWhile (· == '0')).length : Int) + -(k : Int) < -farPlaces := by
    rw [ht, farPlaces]
    push_cast
    omega
  have habs : (-(k : Int)).natAbs = k := by omega
  unfold toFloat?
  simp only [if_neg hne, if_neg hfar, if_neg hfar', if_neg (show ¬ (0 : Int) ≤ -(k : Int) by omega), habs,
    hread, hfinite, Bool.false_eq_true, if_false]

/-- **The places of a decimal stand for it**, wherever its point is. -/
theorem Places.value_ofDecimal (ds : List Char) (point : Int) :
    (digitsToNat 10 ((Places.ofDecimal ds point).whole ++ (Places.ofDecimal ds point).fraction) : ℚ) /
        10 ^ (Places.ofDecimal ds point).fraction.length =
      digitsToNat 10 ds * 10 ^ (point - ds.length) := by
  unfold Places.ofDecimal
  split
  case isTrue hwhole =>
    -- zeros fill the places up to the point, and there is one after it
    obtain ⟨k, hk⟩ := Int.eq_ofNat_of_zero_le (show 0 ≤ point - ds.length by omega)
    have hzero : digitsToNat 10 ['0'] = 0 := rfl
    have hdigits : digitsToNat 10 (ds ++ List.replicate k '0' ++ ['0']) =
        digitsToNat 10 ds * 10 ^ k * 10 := by
      rw [digitsToNat_append, digitsToNat_append, digitsToNat_zeros, hzero, List.length_replicate]
      rfl
    rw [hk, Int.toNat_natCast, zpow_natCast]
    dsimp only
    rw [hdigits]
    push_cast
    simp
  case isFalse hfraction =>
    split
    case isTrue hpoint =>
      dsimp only
      rw [List.take_append_drop, List.length_drop, div_eq_mul_inv, ← zpow_natCast, ← zpow_neg]
      congr 2
      omega
    case isFalse hpoint =>
      have hzero : digitsToNat 10 ['0'] = 0 := rfl
      have hdigits : digitsToNat 10 (['0'] ++ (List.replicate (-point).toNat '0' ++ ds)) =
          digitsToNat 10 ds := by
        rw [digitsToNat_append, digitsToNat_append, digitsToNat_zeros, hzero]
        simp
      dsimp only
      rw [hdigits, List.length_append, List.length_replicate, div_eq_mul_inv, ← zpow_natCast, ← zpow_neg]
      congr 2
      push_cast
      omega

/-- **The digits of a double are read as its magnitude.** -/
theorem Places.toFloat?_ofMagnitude {m : Nat} {q : Int} (hm : Canonical m q) :
    (Places.ofMagnitude m q).toFloat? =
      some (.ofModel (Float.Model.pack (.finite .positive m q hm.pos))) := by
  have hproper := Places.proper_ofMagnitude hm.bits q
  have hplaces : Places.ofMagnitude m q =
      .ofDecimal (Nat.toDigits 10 (shortest floatStyle.tie m q).digits)
        ((Nat.toDigits 10 (shortest floatStyle.tie m q).digits).length +
          (shortest floatStyle.tie m q).exponent) := if_neg hm.pos.ne'
  have hnear := Decimal.shortest_nearby floatStyle.tie hm
  have hvalue := Places.value_ofDecimal (Nat.toDigits 10 (shortest floatStyle.tie m q).digits)
    ((Nat.toDigits 10 (shortest floatStyle.tie m q).digits).length + (shortest floatStyle.tie m q).exponent)
  rw [← hplaces, digitsToNat_toDigits, add_sub_cancel_left] at hvalue
  rw [← hvalue] at hnear
  have hdigits : ∀ d ∈ (Places.ofMagnitude m q).whole ++ (Places.ofMagnitude m q).fraction,
      d.isDigit = true := by
    intro d hd
    rcases List.mem_append.mp hd with hd | hd
    · exact (ProperWhole.digits hproper.whole).isDigit d hd
    · exact hproper.fraction.isDigit d hd
  exact toFloat?_of_nearby hdigits (List.length_pos_iff.mpr hproper.fraction.ne_nil).ne' hm hnear

/-- **A double comes back from its text**, if it is a number. -/
theorem readWord?_writeFloat_self {x : Float} (hx : x.isNaN = false) :
    readWord? (writeFloat x).toList = some (.float (some x)) := by
  cases hbinary : Binary.ofFloat x with
  | notANumber => exact absurd hbinary (Decimal.ofFloat_ne_notANumber hx)
  | infinite negative =>
    have hread : readWord? (signChars negative ++ ['i', 'n', 'f']) =
        some (.float (some (signed negative (1.0 / 0.0)))) := by
      cases negative <;> rfl
    have hsigned : signed negative (1.0 / 0.0) = x := Decimal.eq_infinity hbinary
    rw [toList_writeFloat_infinite hbinary, hread, hsigned]
  | finite negative m q =>
    rw [readWord?_writeFloat hbinary (Decimal.ofFloat_eq_finite hbinary).2.bits]
    by_cases hm : m = 0
    · subst hm
      have hzero : (Places.ofMagnitude 0 q).toFloat? = some 0.0 := rfl
      have hsigned : signed negative 0.0 = x := Decimal.eq_zero hbinary
      rw [hzero, Option.map_some, hsigned]
    · have hpos := Nat.pos_of_ne_zero hm
      have hsigned : signed negative (.ofModel (Float.Model.pack (.finite .positive m q hpos))) = x :=
        Decimal.eq_signed_pack hpos hbinary
      rw [Places.toFloat?_ofMagnitude (Decimal.canonical_of_ofFloat hbinary hpos), Option.map_some, hsigned]

/-- Every double is written as a word. -/
theorem isMark_of_mem_writeFloat (x : Float) : ∀ c ∈ (writeFloat x).toList, isMark c = true := by
  have hsign : ∀ negative : Bool, ∀ c ∈ signChars negative, isMark c = true := by
    intro negative
    rw [← List.all_eq_true]
    cases negative <;> rfl
  have hnan : ∀ c ∈ ['n', 'a', 'n'], isMark c = true := by
    rw [← List.all_eq_true]
    rfl
  have hinf : ∀ c ∈ ['i', 'n', 'f'], isMark c = true := by
    rw [← List.all_eq_true]
    rfl
  intro c hc
  cases hbinary : Binary.ofFloat x with
  | notANumber =>
    rw [writeFloat, Decimal.Style.write, hbinary] at hc
    exact hnan c hc
  | infinite negative =>
    rw [toList_writeFloat_infinite hbinary] at hc
    exact (List.mem_append.mp hc).elim (hsign negative c) (hinf c)
  | finite negative m q =>
    have hproper := Places.proper_ofMagnitude (Decimal.ofFloat_eq_finite hbinary).2.bits q
    rw [toList_writeFloat hbinary] at hc
    rcases List.mem_append.mp hc with hc | hc
    · exact hsign negative c hc
    · rcases List.mem_append.mp hc with hc | hc
      · exact isMark_of_isDigit ((ProperWhole.digits hproper.whole).isDigit c hc)
      · rcases List.mem_cons.mp hc with rfl | hc
        · rfl
        · exact isMark_of_isDigit (hproper.fraction.isDigit c hc)

end Recap.Toml
