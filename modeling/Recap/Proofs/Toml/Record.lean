import Recap.Proofs.Toml.Layout
import Recap.Toml.Document

/-!
# Records come back from tables

## Contents
- `string_item`, `word64_item`, `strings_item`, … — plain values are read as themselves.
- `choice_item` — so are choices among names.
- `readEntries_entry`, `read_table` — a record, entry by entry.
-/

namespace Recap.Toml

open Record (Reader Shape Dialect Key boolean string real integer word8 word32 word64 list choice)

variable {α β π : Type}

/-! ## Plain values -/

theorem string_item (s : String) : string (Item.string s).toNode = .ok s := rfl

theorem boolean_item (b : Bool) : boolean (Item.boolean b).toNode = .ok b := rfl

theorem real_item (x : Float) : real (Item.float (some x)).toNode = .ok x := rfl

/-- A natural number within the bounds of a reader. -/
theorem integer_item {high : Int} {n : Nat} (name : String) (hhigh : (n : Int) < high) :
    integer 0 high name (Item.integer (some n)).toNode = .ok (n : Int) :=
  if_pos ⟨Int.natCast_nonneg n, hhigh⟩

theorem word8_item (n : UInt8) : word8 (Item.integer (some n.toNat)).toNode = .ok n := by
  have hn : n.toNat < 256 := n.toNat_lt
  rw [word8, integer_item "u8" (by omega)]
  show Except.ok (UInt8.ofNat n.toNat) = _
  rw [UInt8.ofNat_toNat]

theorem word32_item (n : UInt32) : word32 (Item.integer (some n.toNat)).toNode = .ok n := by
  have hn : n.toNat < 4294967296 := n.toNat_lt
  rw [word32, integer_item "u32" (by omega)]
  show Except.ok (UInt32.ofNat n.toNat) = _
  rw [UInt32.ofNat_toNat]

theorem word64_item (n : UInt64) : word64 (Item.integer (some n.toNat)).toNode = .ok n := by
  have hn : n.toNat < 18446744073709551616 := n.toNat_lt
  rw [word64, integer_item "usize" (by omega)]
  show Except.ok (UInt64.ofNat n.toNat) = _
  rw [UInt64.ofNat_toNat]

/-- A list of texts. -/
theorem strings_item (ss : List String) :
    list string (Item.array (ss.map .string)).toNode = .ok ss := by
  have hitems : Record.readItems string (itemNodes (ss.map .string)) = .ok ss := by
    induction ss with
    | nil => rfl
    | cons s ss ih =>
      show (do return (← string (Item.string s).toNode) ::
        (← Record.readItems string (itemNodes (ss.map .string)))) = _
      rw [string_item, ih]
      rfl
  show (Record.readItems string (itemNodes (ss.map .string))).bind _ = _
  rw [hitems]
  rfl

/-- The name of one of several values. -/
theorem choice_item {variants : List (String × α)} {name : String} {a : α}
    (hfind : variants.find? (·.1 == name) = some (name, a)) :
    choice dialect variants (Item.string name).toNode = .ok a := by
  have hmem : (name, a) ∈ variants := List.mem_of_find?_eq_some hfind
  have hknown : (variants.map (·.1)).contains name = true :=
    List.contains_iff_mem.mpr (List.mem_map.mpr ⟨_, hmem, rfl⟩)
  have hname : dialect.choice (variants.map (·.1)) (.string name) = .ok name := if_pos hknown
  simp only [Item.toNode, choice, hname, bind, Except.bind, hfind]
  rfl

/-! ## Records -/

/-- The entry of a field whose value is read as `b`, which is then put into the draft. -/
theorem readEntries_entry {s : Shape π α} {p q : π} {k : String} {i : Item} {es : Entries}
    {f : Record.Field π} {r : Reader β} {set : β → π → π} {b : β}
    (hfield : s.field? k = some f) (hfree : f.isSet p = false)
    (hread : f.read = fun n p => (r n).map fun b => set b p) (hb : r i.toNode = .ok b)
    (rest : s.readEntries (set b p) (entryNodes es) = .ok q) :
    s.readEntries p (entryNodes ((k, i) :: es)) = .ok q := by
  have hfill : f.read i.toNode p = .ok (set b p) := by
    rw [hread]
    show (r i.toNode).map (fun b => set b p) = _
    rw [hb]
    rfl
  rw [entryNodes, Shape.readEntries]
  simp only [Key.read, bind, Except.bind, hfield, hfree, hfill, Bool.false_eq_true, if_false]
  exact rest

theorem readEntries_nil (s : Shape π α) (p : π) : s.readEntries p (entryNodes []) = .ok p := by
  rw [entryNodes]
  rfl

/-- **A record is read from the table** whose entries fill its draft. -/
theorem read_table {s : Shape π α} {d : Dialect} {origin : Origin} {es : Entries} {q : π} {a : α}
    (hentries : s.readEntries s.blank (entryNodes es) = .ok q) (hbuild : s.build q = .ok a) :
    s.read d (Item.table origin es).toNode = .ok a := by
  rw [Item.toNode, Shape.read, hentries]
  show s.finish q = _
  rw [Shape.finish, hbuild]

end Recap.Toml
