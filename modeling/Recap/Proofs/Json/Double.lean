import Mathlib
import Recap.Json.Value
import Recap.Proofs.Decimal.Bits
import Recap.Proofs.Decimal.Shortest
import Recap.Proofs.Json.Numeral

/-!
# Written doubles

A finite double is written with its fewest digits, positionally or with a power of ten. Either way the
text is a number that is not an integer (`exists_numeral_of_finite`), so it is read as a double again, and
not as an integer of the same value. What is not finite is written as `null`.

## Contents
- `Significant` — digits that start with no zero.
- `Numeral.ofDecimal`, `Numeral.proper_ofDecimal` — the written form of a decimal.
- `exists_finite` — a double is finite where its bits say so.
- `Numeral.ofBinary?`, `exists_numeral_of_finite`, `writeFloat_of_not_finite` — the text of a double.
-/

namespace Recap.Json

open Recap.Decimal

/-! ## The written form of a decimal -/

/-- The number that is written for digits whose point stands after `point` of them. -/
def Numeral.ofDecimal (negative : Bool) (ds : List Char) (point : Int) : Numeral :=
  if numberStyle.positional point then
    if (ds.length : Int) ≤ point then
      ⟨negative, ds ++ List.replicate (point - ds.length).toNat '0', ['0'], none⟩
    else if 0 < point then ⟨negative, ds.take point.toNat, ds.drop point.toNat, none⟩
    else ⟨negative, ['0'], List.replicate (-point).toNat '0' ++ ds, none⟩
  else
    ⟨negative, ds.take 1, ds.drop 1,
      some (decide (point - 1 < 0), Nat.toDigits 10 (point - 1).natAbs)⟩

/-- Digits that start with no zero. -/
structure Significant (ds : List Char) : Prop where
  digits : Digits ds
  head : ds.head? ≠ some '0'

/-- The digits of a positive number. -/
theorem significant_toDigits {n : Nat} (h : n ≠ 0) : Significant (Nat.toDigits 10 n) :=
  ⟨digits_toDigits n, head?_toDigits h⟩

theorem Digits.take {ds : List Char} (h : Digits ds) {n : Nat} (hn : 0 < n) : Digits (ds.take n) where
  ne_nil := by
    obtain ⟨d, es, rfl⟩ := List.exists_cons_of_ne_nil h.ne_nil
    obtain ⟨k, rfl⟩ := Nat.exists_eq_succ_of_ne_zero (Nat.pos_iff_ne_zero.mp hn)
    exact List.cons_ne_nil _ _
  isDigit := fun d hd => h.isDigit d (List.mem_of_mem_take hd)

theorem head?_take {ds : List Char} {n : Nat} (hn : 0 < n) : (ds.take n).head? = ds.head? := by
  obtain ⟨k, rfl⟩ := Nat.exists_eq_succ_of_ne_zero (Nat.pos_iff_ne_zero.mp hn)
  cases ds with
  | nil => rfl
  | cons d es => rfl

theorem isDigit_of_mem_replicate {n : Nat} {d : Char} (hd : d ∈ List.replicate n '0') :
    d.isDigit = true := by
  rw [List.eq_of_mem_replicate hd]
  rfl

/-- **A decimal is written as a number**, and never as an integer. -/
theorem Numeral.proper_ofDecimal (negative : Bool) {ds : List Char} (h : Significant ds) (point : Int) :
    (Numeral.ofDecimal negative ds point).Proper ∧
      (Numeral.ofDecimal negative ds point).isInteger = false := by
  obtain ⟨hds, hhead⟩ := h
  unfold Numeral.ofDecimal
  split
  case isTrue hpositional =>
    split
    case isTrue hwhole =>
      -- zeros fill the places up to the point
      refine ⟨⟨.inr ⟨⟨by simp [hds.ne_nil], ?_⟩, ?_⟩, ?_, ?_⟩, rfl⟩
      · intro d hd
        rcases List.mem_append.mp hd with hd | hd
        · exact hds.isDigit d hd
        · exact isDigit_of_mem_replicate hd
      · obtain ⟨d, es, rfl⟩ := List.exists_cons_of_ne_nil hds.ne_nil
        exact hhead
      · simp
      · simp
    case isFalse hfraction =>
      split
      case isTrue hpoint =>
        have hpos : 0 < point.toNat := by omega
        have hdrop : ds.drop point.toNat ≠ [] := by
          rw [Ne, List.drop_eq_nil_iff]
          omega
        refine ⟨⟨.inr ⟨hds.take hpos, by rwa [head?_take hpos]⟩, ?_, ?_⟩, ?_⟩
        · exact fun d hd => hds.isDigit d (List.mem_of_mem_drop hd)
        · simp
        · simp [Numeral.isInteger, hdrop]
      case isFalse hpoint =>
        refine ⟨⟨.inl rfl, ?_, ?_⟩, ?_⟩
        · intro d hd
          rcases List.mem_append.mp hd with hd | hd
          · exact isDigit_of_mem_replicate hd
          · exact hds.isDigit d hd
        · simp
        · simp [Numeral.isInteger, hds.ne_nil]
  case isFalse hscientific =>
    refine ⟨⟨.inr ⟨hds.take Nat.one_pos, by rwa [head?_take Nat.one_pos]⟩, ?_, ?_⟩, ?_⟩
    · exact fun d hd => hds.isDigit d (List.mem_of_mem_drop hd)
    · rintro e ⟨⟩
      exact digits_toDigits _
    · simp [Numeral.isInteger]

/-- A point that has digits after it is written. -/
theorem fractionChars_of_ne_nil {ds : List Char} (h : ds ≠ []) : fractionChars ds = '.' :: ds := by
  rw [fractionChars, List.isEmpty_eq_false_iff.mpr h, if_neg Bool.false_ne_true]

/-- The text of a decimal is that of its number. -/
theorem Numeral.chars_ofDecimal (negative : Bool) {digits : String} (hne : digits.toList ≠ [])
    (point : Int) :
    (Numeral.ofDecimal negative digits.toList point).chars =
      signChars negative ++ (if numberStyle.positional point then numberStyle.writePositional digits point
        else writeScientific digits point).toList := by
  have hlength : (digits.length : Int) = digits.toList.length := by rw [String.length_toList]
  unfold Numeral.ofDecimal
  split
  case isTrue hpositional =>
    unfold Style.writePositional
    simp only [hlength]
    split
    case isTrue hwhole => simp [Numeral.chars, fractionChars, powerChars, zeros, numberStyle]
    case isFalse hfraction =>
      split
      case isTrue hpoint =>
        have hdrop : digits.toList.drop point.toNat ≠ [] := by
          rw [Ne, List.drop_eq_nil_iff]
          omega
        simp [Numeral.chars, fractionChars_of_ne_nil hdrop, powerChars]
      case isFalse hpoint =>
        have hzeros : List.replicate (-point).toNat '0' ++ digits.toList ≠ [] := by simp [hne]
        simp [Numeral.chars, fractionChars_of_ne_nil hzeros, powerChars, zeros]
  case isFalse hscientific =>
    have hsign : (if (0 : Int) ≤ point - 1 then "+" else "-").toList =
        [if decide (point - 1 < 0) then '-' else '+'] := by
      by_cases h : point - 1 < 0
      · rw [if_neg (by omega), decide_eq_true h]
        rfl
      · rw [if_pos (by omega), decide_eq_false h]
        rfl
    have hfraction : (if (digits.toList.drop 1).isEmpty then ""
        else "." ++ String.ofList (digits.toList.drop 1)).toList =
        fractionChars (digits.toList.drop 1) := by
      unfold fractionChars
      split
      · rfl
      · simp
    simp only [writeScientific, Numeral.chars, powerChars, String.toList_append, hsign, hfraction,
      String.toList_ofList, Nat.toList_repr, List.append_assoc]
    rfl

/-! ## Doubles -/

/-- A finite double stands for a number of fifty-three bits at most. -/
theorem exists_finite {x : Float} (h : x.isFinite = true) :
    ∃ negative m q, Binary.ofFloat x = .finite negative m q ∧ m < 2 ^ 53 ∧ q ≤ 971 := by
  obtain ⟨negative, m, q, hx⟩ := exists_of_isFinite h
  have hranged := (ofFloat_eq_finite hx).2
  exact ⟨negative, m, q, hx, hranged.bits, hranged.most⟩

/-- The number that is written for what a double stands for. -/
def Numeral.ofBinary? : Binary → Option Numeral
  | .finite negative m q =>
    if m = 0 then some ⟨negative, ['0'], ['0'], none⟩
    else
      let s := shortest numberStyle.tie m q
      some (.ofDecimal negative (Nat.toDigits 10 s.digits) ((Nat.repr s.digits).length + s.exponent))
  | .notANumber | .infinite _ => none

/-- **A finite double is written as a number** that is not an integer. -/
theorem exists_numeral_of_finite {x : Float} (h : x.isFinite = true) :
    ∃ n, Numeral.ofBinary? (Binary.ofFloat x) = some n ∧ n.Proper ∧ n.isInteger = false ∧
      (writeFloat x).toList = n.chars := by
  obtain ⟨negative, m, q, hx, hbits, -⟩ := exists_finite h
  have hsign : (if negative = true then "-" else "").toList = signChars negative := by
    cases negative <;> rfl
  rw [writeFloat, if_pos h, Style.write, hx]
  by_cases hm : m = 0
  · refine ⟨⟨negative, ['0'], ['0'], none⟩, by rw [Numeral.ofBinary?, if_pos hm], ?_, rfl, ?_⟩
    · exact ⟨.inl rfl, by simp, by simp⟩
    · rw [String.toList_append, hsign, Style.writeMagnitude, if_pos hm]
      rfl
  · have hsignificant := significant_toDigits (shortest_bounds numberStyle.tie hm hbits q).ne_zero
    obtain ⟨hproper, hinteger⟩ := Numeral.proper_ofDecimal negative hsignificant
      ((Nat.repr (shortest numberStyle.tie m q).digits).length + (shortest numberStyle.tie m q).exponent)
    refine ⟨_, by rw [Numeral.ofBinary?, if_neg hm], hproper, hinteger, ?_⟩
    have hne : (Nat.repr (shortest numberStyle.tie m q).digits).toList ≠ [] := by
      rw [Nat.toList_repr]
      exact Nat.toDigits_ne_nil
    rw [String.toList_append, hsign, Style.writeMagnitude, if_neg hm, ← Nat.toList_repr,
      Numeral.chars_ofDecimal negative hne]

/-- What is not finite is written as no number. -/
theorem writeFloat_of_not_finite {x : Float} (h : ¬ x.isFinite = true) :
    (writeFloat x).toList = nullText := by
  rw [writeFloat, if_neg h]
  rfl

end Recap.Json
