import Mathlib.Data.List.Nodup
import Recap.Engine.Pass

/-!
# What a pass works on

The working set of a pass is a list of messages with their positions in the chat. Three facts about it
carry everything that is said of passes: which messages are in it (`mem_workingSet`), that the positions
go up (`workingSet_ascending`), and that it is what the tags leave of the spoken messages
(`workingSet_eq_filter`).

## Contents
- `spoken` — the messages of a chat that are not the system's.
- `mem_workingSet`, `workingSet_ascending`, `workingSet_eq_filter`, `map_snd_workingSet`.
- `head_le_of_ascending`, `le_getLast_of_ascending` — the ends of a stretch of messages.
- `spoken_append` — a chat that goes on.
-/

namespace Recap

/-- The messages of a chat that are not the system's, each with its position in the chat. -/
def spoken (messages : List Message) : List (Nat × Message) :=
  (messages.zipIdx.filter fun (m, _) => !m.isSystem).map fun (m, i) => (i, m)

variable {messages : List Message} {tags : TagStore}

/-- The spoken messages at their positions. -/
theorem mem_spoken {i : Nat} {m : Message} :
    (i, m) ∈ spoken messages ↔ messages[i]? = some m ∧ m.isSystem = false := by
  unfold spoken
  rw [List.mem_map]
  constructor
  · rintro ⟨⟨m', i'⟩, hmem, heq⟩
    obtain ⟨rfl, rfl⟩ := Prod.mk.inj heq
    obtain ⟨hin, hkeep⟩ := List.mem_filter.mp hmem
    refine ⟨List.mk_mem_zipIdx_iff_getElem?.mp hin, ?_⟩
    simpa using hkeep
  · rintro ⟨hi, hs⟩
    refine ⟨(m, i), List.mem_filter.mpr ⟨List.mk_mem_zipIdx_iff_getElem?.mpr hi, ?_⟩, rfl⟩
    simp [hs]

/-- The positions of a list go up. -/
theorem zipIdx_ascending {α : Type} (xs : List α) : xs.zipIdx.Pairwise (·.2 < ·.2) := by
  have h : (xs.zipIdx.map (·.2)).Pairwise (· < ·) := by
    rw [List.zipIdx_map_snd]
    exact List.pairwise_lt_range'
  exact List.pairwise_map.mp h

/-- The positions of spoken messages go up. -/
theorem spoken_ascending (messages : List Message) :
    (spoken messages).Pairwise (·.1 < ·.1) := by
  unfold spoken
  rw [List.pairwise_map]
  exact (zipIdx_ascending messages).filter _

/-- The first message of a stretch has the lowest position. -/
theorem head_le_of_ascending {b : List (Nat × Message)} (hb : b.Pairwise (·.1 < ·.1))
    {first p : Nat × Message} (hfirst : b.head? = some first) (hp : p ∈ b) : first.1 ≤ p.1 := by
  cases b with
  | nil => cases hp
  | cons q rest =>
    obtain rfl : q = first := Option.some.inj hfirst
    rcases List.mem_cons.mp hp with rfl | hp
    · exact Nat.le_refl _
    · exact Nat.le_of_lt ((List.pairwise_cons.mp hb).1 p hp)

/-- The last message of a stretch has the highest position. -/
theorem le_getLast_of_ascending {b : List (Nat × Message)} (hb : b.Pairwise (·.1 < ·.1))
    {last p : Nat × Message} (hlast : b.getLast? = some last) (hp : p ∈ b) : p.1 ≤ last.1 := by
  obtain ⟨before, rfl⟩ := List.getLast?_eq_some_iff.mp hlast
  rcases List.mem_append.mp hp with hp | hp
  · exact Nat.le_of_lt ((List.pairwise_append.mp hb).2.2 p hp last (by simp))
  · exact Nat.le_of_eq (by rw [List.mem_singleton.mp hp])

/-- **A pass works on the spoken messages that no summary stands for.** -/
theorem workingSet_eq_filter (messages : List Message) (tags : TagStore) :
    workingSet messages tags = (spoken messages).filter fun p => !tags.isSummarized p.2 := by
  unfold workingSet spoken
  rw [List.filter_map, List.filter_filter]
  congr 1
  refine List.filter_congr fun p _ => ?_
  exact Bool.and_comm _ _

/-- **What a pass works on**: the messages at their positions that are neither the system's nor
    summarized. -/
theorem mem_workingSet {i : Nat} {m : Message} :
    (i, m) ∈ workingSet messages tags ↔
      messages[i]? = some m ∧ m.isSystem = false ∧ tags.isSummarized m = false := by
  rw [workingSet_eq_filter, List.mem_filter, mem_spoken, and_assoc, Bool.not_eq_true']

/-- The positions in a working set go up. -/
theorem workingSet_ascending (messages : List Message) (tags : TagStore) :
    (workingSet messages tags).Pairwise (·.1 < ·.1) := by
  rw [workingSet_eq_filter]
  exact (spoken_ascending messages).filter _

/-- The spoken messages, in the order of the chat. -/
theorem map_snd_spoken (messages : List Message) :
    (spoken messages).map (·.2) = messages.filter fun m => !m.isSystem := by
  unfold spoken
  rw [List.map_map]
  have hfst : messages.zipIdx.map (·.1) = messages := List.zipIdx_map_fst 0 messages
  conv_rhs => rw [← hfst, List.filter_map]
  rfl

/-- A message has one place in a chat whose messages can be told apart. -/
theorem same_place (distinct : (messages.map (·.id)).Nodup) {i j : Nat} {m m' : Message}
    (hi : messages[i]? = some m) (hj : messages[j]? = some m') (hid : m.id = m'.id) :
    (i, m) = (j, m') := by
  have hids : (messages.map (·.id))[i]? = (messages.map (·.id))[j]? := by
    rw [List.getElem?_map, List.getElem?_map, hi, hj]
    exact congrArg some hid
  have hlt : i < (messages.map (·.id)).length := by
    rw [List.length_map]
    exact (List.getElem?_eq_some_iff.mp hi).1
  obtain rfl : i = j := (List.getElem?_inj hlt distinct).mp hids
  rw [Option.some.inj (hi.symm.trans hj)]

/-- The messages of a working set, in the order of the chat. -/
theorem map_snd_workingSet (messages : List Message) (tags : TagStore) :
    (workingSet messages tags).map (·.2)
      = messages.filter fun m => !m.isSystem && !tags.isSummarized m := by
  have hsnd : ((spoken messages).filter fun p => !tags.isSummarized p.2).map (·.2)
      = ((spoken messages).map (·.2)).filter fun m => !tags.isSummarized m := by
    rw [List.filter_map]
    rfl
  rw [workingSet_eq_filter, hsnd, map_snd_spoken, List.filter_filter]
  exact List.filter_congr fun m _ => Bool.and_comm _ _

/-- No two spoken messages have the same id, if no two messages of the chat have. -/
theorem nodup_ids_spoken (distinct : (messages.map (·.id)).Nodup) :
    ((spoken messages).map (·.2.id)).Nodup := by
  have hids : (spoken messages).map (·.2.id) = ((spoken messages).map (·.2)).map (·.id) := by
    rw [List.map_map]
    rfl
  rw [hids, map_snd_spoken]
  exact distinct.sublist (List.filter_sublist.map _)

/-- No two messages that a pass works on have the same id, if no two messages of the chat have. -/
theorem nodup_ids_workingSet (distinct : (messages.map (·.id)).Nodup) (tags : TagStore) :
    ((workingSet messages tags).map (·.2.id)).Nodup := by
  rw [workingSet_eq_filter]
  exact (nodup_ids_spoken distinct).sublist (List.filter_sublist.map _)

/-- Messages that come later are spoken after the others. -/
theorem spoken_append (earlier later : List Message) :
    ∃ added, spoken (earlier ++ later) = spoken earlier ++ added ∧
      ∀ p ∈ added, p.2 ∈ later := by
  refine ⟨((later.zipIdx earlier.length).filter fun (m, _) => !m.isSystem).map fun (m, i) => (i, m),
    ?_, ?_⟩
  · unfold spoken
    rw [List.zipIdx_append, List.filter_append, List.map_append, Nat.zero_add]
  · rintro ⟨i, m⟩ hp
    obtain ⟨⟨m', i'⟩, hmem, heq⟩ := List.mem_map.mp hp
    obtain ⟨rfl, rfl⟩ := Prod.mk.inj heq
    exact List.fst_mem_of_mem_zipIdx (List.mem_filter.mp hmem).1

end Recap
