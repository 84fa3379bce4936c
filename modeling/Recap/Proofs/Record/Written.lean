import Recap.Json.Document
import Recap.Proofs.Json.Value
import Recap.Record.Reader

/-!
# Reading written records

A record is written as an object, one entry for each field, and read by filling in a draft entry by entry.
`Shape.Fills` is the course of such a reading over the entries that are written: each is the entry of a
field that is not filled in yet, or of no field at all and passed over. From it the record is read
(`Shape.read_object`); that the entries of a record do fill its draft is then a list of the readings of its
fields.

The readings of plain values, optional ones, lists and maps come first. Everything that is written is well
formed throughout, so whatever is passed over can be passed over (`Value.skip_node`).

## Contents
- `decode_compact`, `decode_pretty` — either text of a value is read as its tree.
- `string_written`, `word64_written`, … — plain values.
- `optional_written`, `list_written`, `textMap_written`, `indexMap_written` — values made of others.
- `Value.skip_node` — written values can be passed over.
- `Shape.Fills`, `Shape.read_object` — records.
-/

namespace Recap.Record

open Recap.Json (Value dialect decode escape toKey Numeral Document)

variable {α β π : Type}

/-! ## Documents -/

/-- The compact text of a value is read as its tree. -/
theorem decode_compact (r : Reader α) (v : Value) : decode r v.compact = r v.node := by
  rw [decode, Document.ofText_compact]
  show (r v.node >>= fun a => if true = true then pure a else throw Fault.malformed) = r v.node
  cases r v.node <;> rfl

/-- And so is its text in lines. -/
theorem decode_pretty (r : Reader α) (v : Value) : decode r v.pretty = r v.node := by
  rw [decode, Document.ofText_pretty]
  show (r v.node >>= fun a => if true = true then pure a else throw Fault.malformed) = r v.node
  cases r v.node <;> rfl

/-! ## Plain values -/

theorem string_written (s : String) : string (Value.string s).node = .ok s := by
  rw [Value.node]
  rfl

theorem boolean_written (b : Bool) : boolean (Value.bool b).node = .ok b := by
  rw [Value.node]
  rfl

/-- An integer within the bounds of a reader. -/
theorem integer_written {low high i : Int} (name : String) (hlow : low ≤ i) (hhigh : i < high)
    (hword : isWordSized i = true) : integer low high name (Value.int i).node = .ok i := by
  rw [Value.node, Numeral.toNode_ofInt hword]
  exact if_pos ⟨hlow, hhigh⟩

theorem word8_written (n : UInt8) : word8 (Value.nat n.toNat).node = .ok n := by
  have hn : n.toNat < 256 := n.toNat_lt
  have hword : isWordSized n.toNat = true := by
    simp only [isWordSized, Bool.and_eq_true, decide_eq_true_eq]
    omega
  rw [word8, Value.nat, integer_written "u8" (by omega) (by omega) hword]
  show Except.ok (UInt8.ofNat n.toNat) = _
  rw [UInt8.ofNat_toNat]

theorem word32_written (n : UInt32) : word32 (Value.nat n.toNat).node = .ok n := by
  have hn : n.toNat < 4294967296 := n.toNat_lt
  have hword : isWordSized n.toNat = true := by
    simp only [isWordSized, Bool.and_eq_true, decide_eq_true_eq]
    omega
  rw [word32, Value.nat, integer_written "u32" (by omega) (by omega) hword]
  show Except.ok (UInt32.ofNat n.toNat) = _
  rw [UInt32.ofNat_toNat]

/-- Every unsigned integer of 64 bits is one for every reader. -/
theorem isWordSized_toNat (n : UInt64) : isWordSized n.toNat = true := by
  have hn : n.toNat < 18446744073709551616 := n.toNat_lt
  simp only [isWordSized, Bool.and_eq_true, decide_eq_true_eq]
  omega

theorem word64_written (n : UInt64) : word64 (Value.nat n.toNat).node = .ok n := by
  have hn : n.toNat < 18446744073709551616 := n.toNat_lt
  rw [word64, Value.nat, integer_written "usize" (by omega) (by omega) (isWordSized_toNat n)]
  show Except.ok (UInt64.ofNat n.toNat) = _
  rw [UInt64.ofNat_toNat]

theorem int64_written (i : Int64) : int64 (Value.int i.toInt).node = .ok i := by
  have hlow : -2 ^ 63 ≤ i.toInt := i.le_toInt
  have hhigh : i.toInt < 2 ^ 63 := i.toInt_lt
  have hword : isWordSized i.toInt = true := by
    simp only [isWordSized, Bool.and_eq_true, decide_eq_true_eq]
    omega
  rw [int64, integer_written "i64" (by omega) (by omega) hword]
  show Except.ok (Int64.ofInt i.toInt) = _
  rw [Int64.ofInt_toInt]

/-! ## Values made of others -/

/-- An optional value, if what is written for a value is never `null`. -/
theorem optional_written {r : Reader α} {w : α → Value} (hnull : ∀ a, (w a).node ≠ .null)
    (hw : ∀ a, r (w a).node = .ok a) (o : Option α) :
    optional r (Value.ofOption w o).node = .ok o := by
  cases o with
  | none =>
      show optional r Value.null.node = _
      rw [Value.node]
      rfl
  | some a =>
      have hskip : optional r (w a).node = (r (w a).node).map some := by
        unfold optional
        split
        next heq => exact absurd heq (hnull a)
        next => rfl
      show optional r (w a).node = _
      rw [hskip, hw a]
      rfl

/-- No integer is written as `null`, -/
theorem int_node_ne_null (i : Int) : (Value.int i).node ≠ .null := by
  rw [Value.node, Numeral.toNode]
  split <;> simp

/-- and no text. -/
theorem string_node_ne_null (s : String) : (Value.string s).node ≠ .null := by
  rw [Value.node]
  simp

/-- A list of values. -/
theorem list_written {r : Reader α} {w : α → Value} {as : List α}
    (hw : ∀ a ∈ as, r (w a).node = .ok a) : list r (Value.array (as.map w)).node = .ok as := by
  have hitems : readItems r (Value.itemNodes (as.map w)) = .ok as := by
    induction as with
    | nil => rw [List.map_nil, Value.itemNodes]; rfl
    | cons a as ih =>
        rw [List.map_cons, Value.itemNodes, readItems, hw a (by simp),
          ih fun b hb => hw b (List.mem_cons_of_mem a hb)]
        rfl
  rw [Value.node, list, hitems]
  rfl

section Maps

variable {κ : Type} [Ord κ] [Std.TransOrd κ] [Std.LawfulEqOrd κ]

/-- A map is read entry by entry, in the order in which it is written. -/
theorem mapOf_written {readKey : Key → Except Fault κ} (name : κ → String) {r : Reader α}
    {w : α → Value} (hkey : ∀ k, readKey (toKey (escape (name k))) = .ok k)
    (hw : ∀ a, r (w a).node = .ok a) (m : SortedMap κ α) :
    mapOf readKey r (Value.object (m.entries.map fun e => (name e.1, w e.2))).node = .ok m := by
  have hentries : ∀ (es : List (κ × α)) (n : SortedMap κ α),
      readEntries readKey r n (Value.fieldNodes (es.map fun e => (name e.1, w e.2))) =
        .ok (es.foldl (fun n e => n.insert e.1 e.2) n) := by
    intro es
    induction es with
    | nil =>
        intro n
        rw [List.map_nil, Value.fieldNodes]
        rfl
    | cons e es ih =>
        intro n
        rw [List.map_cons, Value.fieldNodes, readEntries, hkey, hw]
        exact ih _
  rw [Value.node, mapOf, hentries, m.foldl_insert_entries]
  rfl

end Maps

theorem Key.read_written (s : String) : (toKey (escape s)).read = .ok s := by
  rw [Json.toKey_escape]
  rfl

/-- A map from texts, whatever they are. -/
theorem textMap_written {r : Reader α} {w : α → Value} (hw : ∀ a, r (w a).node = .ok a)
    (m : SortedMap String α) :
    textMap r (Value.object (m.entries.map fun e => (e.1, w e.2))).node = .ok m :=
  mapOf_written id Key.read_written hw m

/-- A number is read from the key that it is written as. -/
theorem Key.readIndex_written (n : UInt64) :
    (toKey (escape (Nat.repr n.toNat))).readIndex = .ok n := by
  have hn : n.toNat < 18446744073709551616 := n.toNat_lt
  have hnumber : Json.keyNumber? true (escape (Nat.repr n.toNat)) =
      some { number := .int n.toNat, whole := true } := by
    rw [Json.escape_repr]
    exact Json.keyNumber?_writeInt (isWordSized_toNat n)
  have hrange : integerOf 0 0x10000000000000000 "usize" (.int n.toNat) = .ok (n.toNat : Int) := by
    have hbounds : 0 ≤ (n.toNat : Int) ∧ (n.toNat : Int) < 0x10000000000000000 := by omega
    rw [integerOf, if_pos hbounds]
  rw [Json.toKey_escape, hnumber]
  show (integerOf 0 0x10000000000000000 "usize" (.int n.toNat) >>= fun i =>
    if true = true then pure (UInt64.ofNat i.toNat) else throw Fault.malformed) = _
  rw [hrange]
  show Except.ok (UInt64.ofNat n.toNat) = _
  rw [UInt64.ofNat_toNat]

/-- A map from numbers. -/
theorem indexMap_written {r : Reader α} {w : α → Value} (hw : ∀ a, r (w a).node = .ok a)
    (m : SortedMap UInt64 α) :
    indexMap r (Value.object (m.entries.map fun e => (Nat.repr e.1.toNat, w e.2))).node = .ok m :=
  mapOf_written (fun n : UInt64 => Nat.repr n.toNat) Key.readIndex_written hw m

/-! ## Passing over -/

theorem intact_toNode (n : Numeral) : n.toNode.intact = true := by
  rw [Numeral.toNode]
  split
  next v _ => cases v <;> rw [Json.Num.toNumber, Node.intact] <;> simp
  next => rw [Node.intact]

mutual

/-- Whatever is written is well formed throughout. -/
theorem intact_node (v : Value) : v.node.intact = true := by
  cases v with
  | null => rw [Value.node, Node.intact]
  | bool b => rw [Value.node, Node.intact]
  | int i => rw [Value.node]; exact intact_toNode _
  | float x =>
      rw [Value.node, Json.doubleNode]
      split
      next n _ => exact intact_toNode n
      next => rw [Node.intact]
  | string s => rw [Value.node, Node.intact]
  | array items => rw [Value.node, Node.intact, intact_itemNodes items]; rfl
  | object fields => rw [Value.node, Node.intact, intact_fieldNodes fields]; rfl

theorem intact_itemNodes (vs : List Value) : Node.intactItems (Value.itemNodes vs) = true := by
  match vs with
  | [] => rw [Value.itemNodes, Node.intactItems]
  | v :: vs => rw [Value.itemNodes, Node.intactItems, intact_node v, intact_itemNodes vs]; rfl

theorem intact_fieldNodes (fs : List (String × Value)) :
    Node.intactEntries (Value.fieldNodes fs) = true := by
  match fs with
  | [] => rw [Value.fieldNodes, Node.intactEntries]
  | (k, v) :: fs =>
      rw [Value.fieldNodes, Node.intactEntries, intact_node v, intact_fieldNodes fs]
      rfl

end

/-- So it can be passed over. -/
theorem skip_node (v : Value) : v.node.skip = .ok () := if_pos (intact_node v)

/-! ## Records -/

/-- The entries of an object lead from one draft of a record to another. -/
inductive Shape.Fills (s : Shape π α) : π → List (String × Value) → π → Prop where
  | nil (p : π) : s.Fills p [] p
  /-- The entry of a field that is not filled in yet. -/
  | field {p p' q : π} {k : String} {v : Value} {fs : List (String × Value)} {f : Field π}
      (hfield : s.field? k = some f) (hfree : f.isSet p = false) (hread : f.read v.node p = .ok p')
      (rest : s.Fills p' fs q) : s.Fills p ((k, v) :: fs) q
  /-- An entry of no field. -/
  | skip {p q : π} {k : String} {v : Value} {fs : List (String × Value)}
      (hnone : s.field? k = none) (rest : s.Fills p fs q) : s.Fills p ((k, v) :: fs) q

/-- The entry of a field whose value is read as `b`, which is then put into the draft. -/
theorem Shape.Fills.entry {s : Shape π α} {p q : π} {k : String} {v : Value}
    {fs : List (String × Value)} {f : Field π} {r : Reader β} {set : β → π → π} {b : β}
    (hfield : s.field? k = some f) (hfree : f.isSet p = false)
    (hread : f.read = fun n p => (r n).map fun b => set b p) (hb : r v.node = .ok b)
    (rest : s.Fills (set b p) fs q) : s.Fills p ((k, v) :: fs) q := by
  refine .field hfield hfree ?_ rest
  rw [hread]
  show (r v.node).map (fun b => set b p) = _
  rw [hb]
  rfl

/-- Entries that fill a draft are read into it. -/
theorem Shape.Fills.readEntries_eq {s : Shape π α} {p q : π} {fs : List (String × Value)}
    (h : s.Fills p fs q) : s.readEntries p (Value.fieldNodes fs) = .ok q := by
  induction h with
  | nil p =>
      rw [Value.fieldNodes]
      rfl
  | field hfield hfree hread _ ih =>
      rw [Value.fieldNodes, Shape.readEntries, Key.read_written]
      simp only [bind, Except.bind, hfield, hfree, hread, Bool.false_eq_true, if_false]
      exact ih
  | skip hnone _ ih =>
      rw [Value.fieldNodes, Shape.readEntries, Key.read_written]
      simp only [bind, Except.bind, hnone, skip_node]
      exact ih

/-- **A record is read from the object** whose entries fill its draft. -/
theorem Shape.read_object {s : Shape π α} {d : Dialect} {fs : List (String × Value)} {q : π} {a : α}
    (hfills : s.Fills s.blank fs q) (hbuild : s.build q = .ok a) :
    s.read d (Value.object fs).node = .ok a := by
  rw [Value.node, Shape.read, hfills.readEntries_eq]
  show s.finish q = _
  rw [Shape.finish, hbuild]

end Recap.Record
