import Mathlib
import Recap.Chat.Basic

/-!
# Ids of messages

Tags are kept by id, so two messages of one id share their tags. A message that comes without an id is
given its position, written in decimal. Different positions have different numerals, so two messages of
that kind never meet; one of them meets a message with an id of its own just if that id is the numeral.
`fillId_ids_ne_iff` says this of two messages, and `nodup_ids_fillMissingIds_iff` of a whole chat.

## Contents
- `fillId_of_ne`, `id_fillId` — one message.
- `fillId_ids_ne_iff` — two messages at different positions.
- `nodup_ids_iff`, `nodup_own_ids_iff` — distinct ids, as a condition on pairs of positions.
- `find?_of_nodup` — messages with distinct ids are found by them.
- `nodup_ids_fillMissingIds_iff` — when the ids of a chat come out distinct.
- `filled_ids_tell_messages_apart` — what filling in ids does to a chat.
-/

namespace Recap.Chat

/-! ## One message -/

variable {m : Message}

/-- A message with an id stays as it is. -/
theorem fillId_of_ne (i : Nat) (hm : m.id ≠ "") : fillId i m = m := by
  simp [fillId, hm]

theorem id_fillId (i : Nat) (m : Message) :
    (fillId i m).id = if m.id = "" then Nat.repr i else m.id := by
  by_cases hm : m.id = ""
  · simp [fillId, hm]
  · simp [fillId, hm]

/-- A numeral has a digit, so every message has an id in the end. -/
theorem id_fillId_ne_empty (i : Nat) (m : Message) : (fillId i m).id ≠ "" := by
  rw [id_fillId]
  split
  · exact Nat.repr_ne_empty
  · assumption

/-! ## Two messages -/

/-- **When two messages have different ids**: their own ids are different, and neither of them is the
    numeral that the other one is given. -/
theorem fillId_ids_ne_iff {i j : Nat} (hij : i ≠ j) (m n : Message) :
    (fillId i m).id ≠ (fillId j n).id ↔
      (m.id ≠ "" → n.id ≠ "" → m.id ≠ n.id) ∧
      (m.id = "" → Nat.repr i ≠ n.id) ∧ (n.id = "" → Nat.repr j ≠ m.id) := by
  have hi : Nat.repr i ≠ "" := Nat.repr_ne_empty
  have hj : Nat.repr j ≠ "" := Nat.repr_ne_empty
  rw [id_fillId, id_fillId]
  by_cases hm : m.id = "" <;> by_cases hn : n.id = ""
  · -- both ids are numerals, and of different positions
    have hrepr : Nat.repr i ≠ Nat.repr j := fun h => hij (Nat.repr_inj.mp h)
    simp [hm, hn, hrepr, hi, hj]
  · simp [hm, hn]
  · simp [hm, hn, ne_comm]
  · simp [hm, hn]

/-! ## All messages -/

/-- A symmetric relation between all elements of a list, position by position. -/
theorem pairwise_iff_of_symm {α : Type} {R : α → α → Prop} (symm : ∀ a b, R a b → R b a)
    {l : List α} :
    l.Pairwise R ↔ ∀ (i j : Nat) a b, i ≠ j → l[i]? = some a → l[j]? = some b → R a b := by
  rw [List.pairwise_iff_getElem]
  constructor
  · intro h i j a b hij ha hb
    obtain ⟨hi, rfl⟩ := List.getElem?_eq_some_iff.mp ha
    obtain ⟨hj, rfl⟩ := List.getElem?_eq_some_iff.mp hb
    rcases Nat.lt_or_gt_of_ne hij with hlt | hgt
    · exact h i j hi hj hlt
    · exact symm _ _ (h j i hj hi hgt)
  · intro h i j hi hj hlt
    exact h i j _ _ (Nat.ne_of_lt hlt) (List.getElem?_eq_getElem hi) (List.getElem?_eq_getElem hj)

variable {messages : List Message}

theorem nodup_ids_iff :
    (messages.map (·.id)).Nodup ↔ ∀ (i j : Nat) m n, i ≠ j → messages[i]? = some m →
      messages[j]? = some n → m.id ≠ n.id := by
  rw [List.nodup_iff_pairwise_ne, List.pairwise_map]
  exact pairwise_iff_of_symm fun _ _ => Ne.symm

/-- The ids that messages have of their own. -/
theorem nodup_own_ids_iff :
    ((messages.map (·.id)).filter (· ≠ "")).Nodup ↔ ∀ (i j : Nat) m n, i ≠ j →
      messages[i]? = some m → messages[j]? = some n → m.id ≠ "" → n.id ≠ "" → m.id ≠ n.id := by
  rw [List.nodup_iff_pairwise_ne, List.pairwise_filter, List.pairwise_map]
  simp only [decide_eq_true_eq]
  exact pairwise_iff_of_symm fun _ _ h hn hm => (h hm hn).symm

/-- **A message is found by its id**, where no other message has it. -/
theorem find?_of_nodup {c : Chat} (distinct : (c.messages.map (·.id)).Nodup)
    (hm : m ∈ c.messages) : c.find? m.id = some m := by
  cases hfind : c.find? m.id with
  | none =>
    have h := List.find?_eq_none.mp hfind m hm
    simp at h
  | some n =>
    have hn : n.id = m.id := id_of_find? hfind
    rw [List.inj_on_of_nodup_map distinct (mem_of_find? hfind) hm hn]

/-! ## A chat -/

theorem getElem?_fillMissingIds (c : Chat) (i : Nat) :
    c.fillMissingIds.messages[i]? = c.messages[i]?.map (fillId i) :=
  List.getElem?_mapIdx

/-- Every message has an id in the end. -/
theorem id_ne_empty_of_filled {c : Chat} (hm : m ∈ c.fillMissingIds.messages) : m.id ≠ "" := by
  obtain ⟨i, hi⟩ := List.mem_iff_getElem?.mp hm
  rw [getElem?_fillMissingIds] at hi
  obtain ⟨n, -, rfl⟩ := Option.map_eq_some_iff.mp hi
  exact id_fillId_ne_empty i n

/-- Where every message has an id, nothing is filled in. -/
theorem fillMissingIds_of_forall {c : Chat} (h : ∀ m ∈ c.messages, m.id ≠ "") :
    c.fillMissingIds = c := by
  have hmessages : c.fillMissingIds.messages = c.messages := by
    refine List.ext_getElem? fun i => ?_
    rw [getElem?_fillMissingIds]
    cases hi : c.messages[i]? with
    | none => rfl
    | some m => rw [Option.map_some, fillId_of_ne i (h m (List.mem_of_getElem? hi))]
  show { c with messages := c.fillMissingIds.messages } = c
  rw [hmessages]

/-- **The ids of all messages are different** if those that were there are, and none of them is the
    numeral of a position whose message had none; and not otherwise. -/
theorem nodup_ids_fillMissingIds_iff (c : Chat) :
    (c.fillMissingIds.messages.map (·.id)).Nodup ↔
      ((c.messages.map (·.id)).filter (· ≠ "")).Nodup ∧
      ∀ (i : Nat) m, c.messages[i]? = some m → m.id = "" →
        Nat.repr i ∉ c.messages.map (·.id) := by
  rw [nodup_ids_iff, nodup_own_ids_iff]
  simp only [getElem?_fillMissingIds]
  constructor
  · intro h
    have apart : ∀ {i j : Nat} {m n}, i ≠ j → c.messages[i]? = some m → c.messages[j]? = some n →
        (fillId i m).id ≠ (fillId j n).id := fun hij hm hn =>
      h _ _ _ _ hij (by rw [hm, Option.map_some]) (by rw [hn, Option.map_some])
    refine ⟨fun i j m n hij hm hn => ((fillId_ids_ne_iff hij m n).mp (apart hij hm hn)).1, ?_⟩
    intro i m hm hid hin
    obtain ⟨n, hn, hrepr⟩ := List.mem_map.mp hin
    obtain ⟨j, hj⟩ := List.mem_iff_getElem?.mp hn
    -- the message with the numeral is another one, since this one has no id
    have hij : i ≠ j := by
      rintro rfl
      rw [hm, Option.some_inj] at hj
      rw [← hj, hid] at hrepr
      exact Nat.repr_ne_empty hrepr.symm
    exact ((fillId_ids_ne_iff hij m n).mp (apart hij hm hj)).2.1 hid hrepr.symm
  · rintro ⟨hown, hnumeral⟩ i j m' n' hij hm' hn'
    obtain ⟨m, hm, rfl⟩ := Option.map_eq_some_iff.mp hm'
    obtain ⟨n, hn, rfl⟩ := Option.map_eq_some_iff.mp hn'
    refine (fillId_ids_ne_iff hij m n).mpr ⟨hown i j m n hij hm hn, ?_, ?_⟩
    · intro hid h
      exact hnumeral i m hm hid (List.mem_map.mpr ⟨n, List.mem_of_getElem? hn, h.symm⟩)
    · intro hid h
      exact hnumeral j n hn hid (List.mem_map.mpr ⟨m, List.mem_of_getElem? hm, h.symm⟩)

/-- **Filling in ids tells messages apart exactly where no id is in the way.** Every message has an id
    then, those that had one are as they were, and there is nothing left to fill in. The ids are distinct
    if and only if those that were there are, and none of them is the numeral of a position whose message
    had none; each message is then found by its id. -/
theorem filled_ids_tell_messages_apart (c : Chat) :
    let filled := c.fillMissingIds
    filled.messages.length = c.messages.length ∧
    (∀ m ∈ filled.messages, m.id ≠ "") ∧
    (∀ (i : Nat) m, c.messages[i]? = some m → m.id ≠ "" → filled.messages[i]? = some m) ∧
    filled.fillMissingIds = filled ∧
    ((filled.messages.map (·.id)).Nodup ↔
      ((c.messages.map (·.id)).filter (· ≠ "")).Nodup ∧
      ∀ (i : Nat) m, c.messages[i]? = some m → m.id = "" →
        Nat.repr i ∉ c.messages.map (·.id)) ∧
    ((filled.messages.map (·.id)).Nodup →
      ∀ (i : Nat) m, filled.messages[i]? = some m → filled.find? m.id = some m) := by
  intro filled
  refine ⟨List.length_mapIdx, fun m => id_ne_empty_of_filled, ?_,
    fillMissingIds_of_forall fun m => id_ne_empty_of_filled, nodup_ids_fillMissingIds_iff c, ?_⟩
  · intro i m hi hm
    rw [getElem?_fillMissingIds, hi, Option.map_some, fillId_of_ne i hm]
  · intro distinct i m hi
    exact find?_of_nodup distinct (List.mem_of_getElem? hi)

/-- Two messages without ids, and one between them whose id is a numeral. If that is the numeral of
    its own position all three are found; if it is that of the position after, two of them share it. -/
theorem numeral_ids_tell_messages_apart :
    let chat (id : String) : Chat :=
      { Chat.blank with messages := [Message.blank, { Message.blank with id }, Message.blank] }
    let near := (chat "1").fillMissingIds
    let far := (chat "2").fillMissingIds
    (near.messages.map (·.id)).Nodup ∧
    (∀ (i : Nat) m, near.messages[i]? = some m → near.find? m.id = some m) ∧
    ¬ (far.messages.map (·.id)).Nodup := by
  intro chat near far
  obtain ⟨-, -, -, -, hiff, hfind⟩ := filled_ids_tell_messages_apart (chat "1")
  obtain ⟨-, -, -, -, hiff', -⟩ := filled_ids_tell_messages_apart (chat "2")
  have hnear : (near.messages.map (·.id)).Nodup := by
    refine hiff.mpr ⟨by decide, ?_⟩
    intro i m hm hid
    obtain ⟨hi, rfl⟩ := List.getElem?_eq_some_iff.mp hm
    have hrange : i < 3 := hi
    interval_cases i
    · decide
    · exact absurd (show "1" = "" from hid) (by decide)
    · decide
  refine ⟨hnear, hfind hnear, fun h => ?_⟩
  exact (hiff'.mp h).2 2 Message.blank rfl rfl (by decide)

end Recap.Chat
