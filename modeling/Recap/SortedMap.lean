/-!
# Maps with their keys in order

A finite map kept as the list of its entries, keys strictly ascending. The order of the entries is
part of what callers see (it is the order they are written in), and since it is unique two maps with
the same entries are equal.

## Contents
- `insertEntry` — one pass over an ascending list: replaces an entry or puts it in its place.
- `SortedMap` — the list with its order; `get?`, `insert`, `erase`, `filter`, `isEmpty`.
- `get?_insert_self`, `get?_insert_of_ne`, `get?_erase_self`, `get?_erase_of_ne` — what a look-up sees
  after a change.
- `foldl_insert_entries` — inserting the entries of a map one by one rebuilds it.
-/

namespace Recap

variable {κ α : Type} [Ord κ]

/-! ## Entries -/

/-- Keys strictly ascending. -/
def Ascending (es : List (κ × α)) : Prop := es.Pairwise fun a b => compare a.1 b.1 = .lt

/-- Puts `v` at `k`: in place of the entry with that key, else before the first larger one. -/
def insertEntry (k : κ) (v : α) : List (κ × α) → List (κ × α)
  | [] => [(k, v)]
  | e :: es =>
    match compare k e.1 with
    | .lt => (k, v) :: e :: es
    | .eq => (k, v) :: es
    | .gt => e :: insertEntry k v es

/-- The value at `k`. -/
def lookupEntry (k : κ) : List (κ × α) → Option α
  | [] => none
  | e :: es => if compare k e.1 == .eq then some e.2 else lookupEntry k es

/-- An insertion adds its own entry and no other. -/
theorem mem_insertEntry {k : κ} {v : α} {e : κ × α} {es : List (κ × α)}
    (h : e ∈ insertEntry k v es) : e = (k, v) ∨ e ∈ es := by
  induction es with
  | nil => simp_all [insertEntry]
  | cons d ds ih =>
      simp only [insertEntry] at h
      split at h
      · simpa using h
      · rcases List.mem_cons.mp h with h | h
        · exact .inl h
        · exact .inr (List.mem_cons_of_mem _ h)
      · rcases List.mem_cons.mp h with h | h
        · exact .inr (by simp [h])
        · exact (ih h).imp id (List.mem_cons_of_mem _)

variable [Std.TransOrd κ] [Std.LawfulEqOrd κ]

/-- An insertion keeps the keys ascending. -/
theorem Ascending.insertEntry {es : List (κ × α)} (h : Ascending es) (k : κ) (v : α) :
    Ascending (insertEntry k v es) := by
  induction es with
  | nil => simp [Ascending, Recap.insertEntry]
  | cons d ds ih =>
      obtain ⟨hd, hs⟩ := List.pairwise_cons.mp h
      simp only [Recap.insertEntry]
      split
      · rename_i hlt
        refine List.pairwise_cons.mpr ⟨fun a ha => ?_, h⟩
        rcases List.mem_cons.mp ha with rfl | ha
        · exact hlt
        · exact Std.TransCmp.lt_trans hlt (hd a ha)
      · rename_i heq
        have hk : k = d.1 := Std.LawfulEqCmp.eq_of_compare heq
        subst hk
        exact List.pairwise_cons.mpr ⟨hd, hs⟩
      · rename_i hgt
        refine List.pairwise_cons.mpr ⟨fun a ha => ?_, ih hs⟩
        rcases mem_insertEntry ha with rfl | ha
        · exact Std.OrientedCmp.lt_of_gt hgt
        · exact hd a ha

omit [Std.TransOrd κ] in
/-- The inserted key holds the inserted value. -/
theorem lookupEntry_insertEntry_self (k : κ) (v : α) (es : List (κ × α)) :
    lookupEntry k (insertEntry k v es) = some v := by
  induction es with
  | nil => simp [insertEntry, lookupEntry]
  | cons d ds ih =>
      simp only [insertEntry]
      split
      · simp [lookupEntry]
      · simp [lookupEntry]
      · rename_i hgt
        simp [lookupEntry, hgt, ih]

omit [Std.TransOrd κ] in
/-- Every other key holds what it held. -/
theorem lookupEntry_insertEntry_of_ne {k j : κ} (hne : j ≠ k) (v : α) (es : List (κ × α)) :
    lookupEntry j (insertEntry k v es) = lookupEntry j es := by
  have hjk : (compare j k == .eq) = false := by
    apply Bool.eq_false_iff.mpr
    intro h
    exact hne (Std.LawfulEqCmp.eq_of_compare (eq_of_beq h))
  induction es with
  | nil => simp [insertEntry, lookupEntry, hjk]
  | cons d ds ih =>
      simp only [insertEntry]
      split
      · simp only [lookupEntry, hjk, Bool.false_eq_true, if_false]
      · rename_i heq
        have hk : k = d.1 := Std.LawfulEqCmp.eq_of_compare heq
        subst hk
        simp only [lookupEntry, hjk, Bool.false_eq_true, if_false]
      · simp only [lookupEntry, ih]

omit [Std.LawfulEqOrd κ] in
/-- A key above all others goes to the end. -/
theorem insertEntry_of_above {k : κ} {v : α} {es : List (κ × α)}
    (h : ∀ e ∈ es, compare e.1 k = .lt) : insertEntry k v es = es ++ [(k, v)] := by
  induction es with
  | nil => rfl
  | cons d ds ih =>
      have hd : compare k d.1 = .gt := Std.OrientedCmp.gt_of_lt (h d (by simp))
      simp [insertEntry, hd, ih fun e he => h e (by simp [he])]

/-! ## Maps -/

/-- A finite map, its entries in ascending order of their keys. -/
structure SortedMap (κ α : Type) [Ord κ] where
  entries : List (κ × α)
  ascending : Ascending entries

namespace SortedMap

omit [Std.TransOrd κ] [Std.LawfulEqOrd κ] in
/-- Maps with the same entries are equal. -/
@[ext] theorem ext {m n : SortedMap κ α} (h : m.entries = n.entries) : m = n := by
  cases m
  cases n
  cases h
  rfl

instance [DecidableEq κ] [DecidableEq α] : DecidableEq (SortedMap κ α) := fun m n =>
  if h : m.entries = n.entries then isTrue (ext h) else isFalse fun he => h (by rw [he])

/-- The map without entries. -/
def empty : SortedMap κ α := ⟨[], List.Pairwise.nil⟩

instance : Inhabited (SortedMap κ α) := ⟨empty⟩

/-- The value at a key. -/
def get? (m : SortedMap κ α) (k : κ) : Option α := lookupEntry k m.entries

/-- Whether the map has no entry. -/
def isEmpty (m : SortedMap κ α) : Bool := m.entries.isEmpty

/-- The map with `v` at `k`; an earlier value at `k` is replaced. -/
def insert (m : SortedMap κ α) (k : κ) (v : α) : SortedMap κ α :=
  ⟨insertEntry k v m.entries, m.ascending.insertEntry k v⟩

omit [Std.TransOrd κ] [Std.LawfulEqOrd κ] in
/-- Taking entries away keeps the order of the others. -/
theorem ascending_filter {es : List (κ × α)} (h : Ascending es) (keep : κ × α → Bool) :
    Ascending (es.filter keep) :=
  List.Pairwise.filter keep h

/-- The entries that are to be kept. -/
def filter (m : SortedMap κ α) (keep : κ × α → Bool) : SortedMap κ α :=
  ⟨m.entries.filter keep, ascending_filter m.ascending keep⟩

/-- The map without a value at `k`. -/
def erase (m : SortedMap κ α) (k : κ) : SortedMap κ α := m.filter fun e => compare k e.1 != .eq

omit [Std.TransOrd κ] [Std.LawfulEqOrd κ] in
@[simp] theorem get?_empty (k : κ) : (empty : SortedMap κ α).get? k = none := rfl

/-- The inserted key is found. -/
@[simp] theorem get?_insert_self (m : SortedMap κ α) (k : κ) (v : α) :
    (m.insert k v).get? k = some v :=
  lookupEntry_insertEntry_self k v m.entries

/-- Every other key is found as before. -/
theorem get?_insert_of_ne {j k : κ} (h : j ≠ k) (m : SortedMap κ α) (v : α) :
    (m.insert k v).get? j = m.get? j :=
  lookupEntry_insertEntry_of_ne h v m.entries

omit [Std.TransOrd κ] [Std.LawfulEqOrd κ] in
/-- Nothing is found at an erased key. -/
@[simp] theorem get?_erase_self (m : SortedMap κ α) (k : κ) : (m.erase k).get? k = none := by
  simp only [get?, erase, filter]
  induction m.entries with
  | nil => rfl
  | cons e es ih =>
    by_cases h : compare k e.1 = .eq <;> simp [lookupEntry, h, ih]

omit [Std.TransOrd κ] in
/-- Every other key keeps what it held. -/
theorem get?_erase_of_ne {j k : κ} (h : j ≠ k) (m : SortedMap κ α) :
    (m.erase k).get? j = m.get? j := by
  simp only [get?, erase, filter]
  induction m.entries with
  | nil => rfl
  | cons e es ih =>
    by_cases hk : compare k e.1 = .eq
    · have hj : compare j e.1 ≠ .eq := fun hj =>
        h ((Std.LawfulEqCmp.eq_of_compare hj).trans (Std.LawfulEqCmp.eq_of_compare hk).symm)
      simp [lookupEntry, hk, hj, ih]
    · simp [lookupEntry, hk, ih]

/-- Inserting ascending entries one by one appends them to what is below all of them. -/
theorem entries_foldl_insert (es : List (κ × α)) (m : SortedMap κ α)
    (h : Ascending (m.entries ++ es)) :
    (es.foldl (fun m e => m.insert e.1 e.2) m).entries = m.entries ++ es := by
  induction es generalizing m with
  | nil => simp
  | cons e es ih =>
      have hlast : (m.insert e.1 e.2).entries = m.entries ++ [e] := by
        apply insertEntry_of_above
        intro d hd
        exact (List.pairwise_append.mp h).2.2 d hd e (by simp)
      simp only [List.foldl_cons]
      rw [ih, hlast, List.append_assoc, List.singleton_append]
      rw [hlast, List.append_assoc, List.singleton_append]
      exact h

/-- Inserting the entries of a map into the empty one gives the map back. -/
theorem foldl_insert_entries (m : SortedMap κ α) :
    m.entries.foldl (fun n e => n.insert e.1 e.2) empty = m :=
  ext (entries_foldl_insert m.entries empty m.ascending)

end SortedMap

end Recap
