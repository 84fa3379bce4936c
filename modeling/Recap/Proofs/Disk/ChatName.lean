import Mathlib.Logic.Function.Basic
import Recap.Disk.ChatName
import Recap.Text.Utf8

/-!
# No two chats share a directory

A name that was made from an id can be taken apart again: what follows a percent sign is a byte in
hexadecimal, and every other character stands for itself. The bytes so found are those of the id
(`unescaped_flatMap_encodeChar`), so two ids with one name are one id. The lone percent sign of the chat
without an id is no name of another chat, since two digits follow there.

## Contents
- `bytes_injective` — a text is known from its bytes.
- `unescaped` — what a name stands for.
- `encodeName_injective` — no two ids have one name.
- `of_mem_encodeName`, `notMem_encodeName`, `encodeName_ne_empty` — what is in a name, and what is not.
- `chatDirectory_injective` and what is not in the name of a directory.
-/

namespace Recap

/-- A text is known from its bytes. -/
theorem Text.bytes_injective : Function.Injective Text.bytes := by
  intro s t h
  have hbytes : ∀ u : String, u.toByteArray = (Text.bytes u).toByteArray := by
    intro u
    rw [← String.ofList_toList (s := u), String.toByteArray_ofList, String.ofList_toList]
    rfl
  apply String.toByteArray_inj.mp
  rw [hbytes s, hbytes t, h]

namespace Disk

/-! ## Taking names apart -/

/-- The number of a hexadecimal digit. -/
def hexNumber (c : Char) : Nat := if c.toNat < 58 then c.toNat - 48 else c.toNat - 55

/-- The bytes that a name stands for. -/
def unescaped : List Char → List UInt8
  | '%' :: high :: low :: cs => UInt8.ofNat (hexNumber high * 16 + hexNumber low) :: unescaped cs
  | c :: cs => String.utf8EncodeChar c ++ unescaped cs
  | [] => []

theorem hexNumber_hexDigit : ∀ n < 16, hexNumber (hexDigit n) = n := by decide

/-- A byte in hexadecimal stands for that byte. -/
theorem unescaped_hexByte (b : UInt8) (cs : List Char) :
    unescaped (hexByte b ++ cs) = b :: unescaped cs := by
  have hb : b.toNat < 256 := b.toNat_lt
  have hvalue : hexNumber (hexDigit (b.toNat / 16)) * 16 + hexNumber (hexDigit (b.toNat % 16)) = b.toNat := by
    rw [hexNumber_hexDigit _ (by omega), hexNumber_hexDigit _ (by omega)]
    omega
  show UInt8.ofNat (hexNumber (hexDigit (b.toNat / 16)) * 16 + hexNumber (hexDigit (b.toNat % 16))) ::
    unescaped cs = _
  rw [hvalue, UInt8.ofNat_toNat]

theorem unescaped_flatMap_hexByte (bs : List UInt8) (cs : List Char) :
    unescaped (bs.flatMap hexByte ++ cs) = bs ++ unescaped cs := by
  induction bs with
  | nil => rfl
  | cons b bs ih => rw [List.flatMap_cons, List.append_assoc, unescaped_hexByte, ih, List.cons_append]

theorem unescaped_of_ne {c : Char} (h : c ≠ '%') (cs : List Char) :
    unescaped (c :: cs) = String.utf8EncodeChar c ++ unescaped cs := by
  rw [unescaped]
  intro _ _ _ hc
  exact absurd hc h

section Names

variable {isLetter : Char → Bool}

theorem not_isPlainChar_percent (hletter : isLetter '%' = false) : isPlainChar isLetter '%' = false := by
  rw [isPlainChar, hletter]
  rfl

/-- What a character is written as stands for that character. -/
theorem unescaped_encodeChar (hletter : isLetter '%' = false) (c : Char) (cs : List Char) :
    unescaped (encodeChar isLetter c ++ cs) = String.utf8EncodeChar c ++ unescaped cs := by
  unfold encodeChar
  split
  case isTrue hplain =>
    apply unescaped_of_ne
    rintro rfl
    rw [not_isPlainChar_percent hletter] at hplain
    exact Bool.false_ne_true hplain
  case isFalse => exact unescaped_flatMap_hexByte _ cs

theorem unescaped_flatMap_encodeChar (hletter : isLetter '%' = false) (cs : List Char) :
    unescaped (cs.flatMap (encodeChar isLetter)) = cs.flatMap String.utf8EncodeChar := by
  induction cs with
  | nil => rfl
  | cons c cs ih => rw [List.flatMap_cons, unescaped_encodeChar hletter, ih, List.flatMap_cons]

/-! ## Names -/

theorem encodeName_empty : encodeName isLetter "" = "%" := rfl

theorem encodeName_of_ne {id : String} (h : id ≠ "") :
    encodeName isLetter id = String.ofList (id.toList.flatMap (encodeChar isLetter)) :=
  if_neg (by rwa [String.isEmpty_iff])

theorem encodeChar_ne_nil (c : Char) : encodeChar isLetter c ≠ [] := by
  unfold encodeChar
  split
  case isTrue => exact List.cons_ne_nil _ _
  case isFalse =>
    have hlength : (String.utf8EncodeChar c).length ≠ 0 := by
      rw [String.length_utf8EncodeChar]
      exact Nat.pos_iff_ne_zero.mp c.utf8Size_pos
    obtain ⟨b, bs, hbs⟩ := List.exists_cons_of_ne_nil (List.ne_nil_of_length_pos (Nat.pos_of_ne_zero hlength))
    rw [hbs, List.flatMap_cons]
    exact List.cons_ne_nil _ _

theorem length_flatMap_hexByte (bs : List UInt8) : (bs.flatMap hexByte).length = 3 * bs.length := by
  induction bs with
  | nil => rfl
  | cons b bs ih =>
      rw [List.flatMap_cons, List.length_append, ih, List.length_cons]
      show 3 + 3 * bs.length = _
      omega

/-- Only the chat without an id has the lone percent sign. -/
theorem encodeName_ne_percent (hletter : isLetter '%' = false) {id : String} (h : id ≠ "") :
    encodeName isLetter id ≠ "%" := by
  rw [encodeName_of_ne h]
  intro hname
  have hlist : id.toList.flatMap (encodeChar isLetter) = ['%'] := by
    rw [← String.toList_ofList (l := id.toList.flatMap (encodeChar isLetter)), hname]
    rfl
  cases hid : id.toList with
  | nil => exact h (String.toList_eq_nil_iff.mp hid)
  | cons c cs =>
      rw [hid, List.flatMap_cons, encodeChar] at hlist
      split at hlist
      case isTrue hplain =>
        obtain ⟨rfl, -⟩ := List.cons.inj hlist
        rw [not_isPlainChar_percent hletter] at hplain
        exact Bool.false_ne_true hplain
      case isFalse =>
        have hlength := congrArg List.length hlist
        have hsize := c.utf8Size_pos
        rw [List.length_append, length_flatMap_hexByte, String.length_utf8EncodeChar,
          List.length_singleton] at hlength
        omega

/-- **No two ids have one name**, as long as a percent sign does not stand for itself. -/
theorem encodeName_injective (hletter : isLetter '%' = false) : Function.Injective (encodeName isLetter) := by
  intro i j h
  by_cases hi : i = "" <;> by_cases hj : j = ""
  · rw [hi, hj]
  · rw [hi, encodeName_empty] at h
    exact absurd h.symm (encodeName_ne_percent hletter hj)
  · rw [hj, encodeName_empty] at h
    exact absurd h (encodeName_ne_percent hletter hi)
  · rw [encodeName_of_ne hi, encodeName_of_ne hj] at h
    have hbytes := congrArg unescaped (String.ofList_injective h)
    rw [unescaped_flatMap_encodeChar hletter, unescaped_flatMap_encodeChar hletter] at hbytes
    exact Text.bytes_injective hbytes

theorem encodeName_ne_empty (id : String) : encodeName isLetter id ≠ "" := by
  by_cases h : id = ""
  · rw [h, encodeName_empty]
    decide
  · rw [encodeName_of_ne h]
    intro hempty
    have hlist := congrArg String.toList hempty
    rw [String.toList_ofList] at hlist
    have hne : id.toList ≠ [] := by
      intro hnil
      exact h (String.toList_eq_nil_iff.mp hnil)
    obtain ⟨c, cs, hcs⟩ := List.exists_cons_of_ne_nil hne
    rw [hcs, List.flatMap_cons] at hlist
    exact encodeChar_ne_nil c (List.append_eq_nil_iff.mp hlist).1

/-- **Only plain characters, percent signs and hexadecimal digits are in a name.** -/
theorem of_mem_encodeName {id : String} {d : Char} (hd : d ∈ (encodeName isLetter id).toList) :
    isPlainChar isLetter d = true ∨ d = '%' ∨ ∃ n < 16, d = hexDigit n := by
  by_cases h : id = ""
  · rw [h, encodeName_empty] at hd
    exact .inr (.inl (List.mem_singleton.mp hd))
  · rw [encodeName_of_ne h, String.toList_ofList] at hd
    obtain ⟨c, -, hc⟩ := List.mem_flatMap.mp hd
    unfold encodeChar at hc
    split at hc
    case isTrue hplain =>
      rw [List.mem_singleton.mp hc]
      exact .inl hplain
    case isFalse =>
      obtain ⟨b, -, hb⟩ := List.mem_flatMap.mp hc
      have hbyte : b.toNat < 256 := b.toNat_lt
      rcases List.mem_cons.mp hb with rfl | hb
      · exact .inr (.inl rfl)
      · rcases List.mem_cons.mp hb with hb | hb
        · exact .inr (.inr ⟨_, by omega, hb⟩)
        · exact .inr (.inr ⟨_, by omega, List.mem_singleton.mp hb⟩)

/-- No other character is in a name. -/
theorem notMem_encodeName {d : Char} (hplain : isPlainChar isLetter d = false) (hpercent : d ≠ '%')
    (hdigit : ∀ n < 16, d ≠ hexDigit n) (id : String) : d ∉ (encodeName isLetter id).toList := by
  intro hd
  rcases of_mem_encodeName hd with h | h | ⟨n, hn, h⟩
  · rw [hplain] at h
    exact Bool.false_ne_true h
  · exact hpercent h
  · exact hdigit n hn h

end Names

/-! ## Directories -/

/-- **No two chats share a directory.** -/
theorem chatDirectory_injective : Function.Injective chatDirectory :=
  encodeName_injective (by decide +kernel)

theorem chatDirectory_ne_empty (id : String) : chatDirectory id ≠ "" := encodeName_ne_empty id

/-- There is no dot in the name of a directory, so it leads neither back nor nowhere, and it is not the name
    of a file with an extension. -/
theorem dot_notMem_chatDirectory (id : String) : '.' ∉ (chatDirectory id).toList :=
  notMem_encodeName (by decide +kernel) (by decide) (by decide) id

end Disk

end Recap
