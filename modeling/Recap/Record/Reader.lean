import Recap.Record.Node
import Recap.SortedMap

/-!
# Reading records

A record is read from a map, its fields in any order, or from a sequence of its fields in their own
order. Everything is checked in the order of the tree, and the first thing wrong is reported.

## Contents
- `Reader` and the readers of plain values: `string`, `boolean`, `word8`, `word32`, `word64`, `int64`,
  `real`, `optional`, `list`, `textMap`, `indexMap`.
- `Dialect` — what formats disagree on.
- `Field`, `Shape`, `Shape.read` — records.
-/

namespace Recap.Record

/-- Reads a value of a data tree. -/
abbrev Reader (α : Type) := Node → Except Fault α

/-! ## Plain values -/

/-- A text. -/
def string : Reader String
  | .string s => .ok s
  | n => .error (n.wrong "a string")

/-- A truth value. -/
def boolean : Reader Bool
  | .bool b => .ok b
  | n => .error (n.wrong "a boolean")

/-- An integer from `low` up to but not including `high`, called `name`. -/
def integerOf (low high : Int) (name : String) (number : Number) : Except Fault Int :=
  match number with
  | .int i =>
    if low ≤ i ∧ i < high then .ok i
    else if isWordSized i then .error (.data (.invalidValue (.int i) name))
    else .error (.data (.invalidType (.int i) name))
  | .float _ text => .error (.data (.invalidType (.float text) name))
  | .beyond _ => .error .malformed

/-- An integer from `low` up to but not including `high`, called `name`. -/
def integer (low high : Int) (name : String) : Reader Int
  | .number n => integerOf low high name n
  | n => .error (n.wrong name)

/-- An unsigned integer of 8 bits. -/
def word8 : Reader UInt8 := fun n => (integer 0 256 "u8" n).map fun i => .ofNat i.toNat

/-- An unsigned integer of 32 bits. -/
def word32 : Reader UInt32 := fun n => (integer 0 0x100000000 "u32" n).map fun i => .ofNat i.toNat

/-- An unsigned integer of 64 bits. -/
def word64 : Reader UInt64 := fun n => (integer 0 0x10000000000000000 "usize" n).map fun i => .ofNat i.toNat

/-- A signed integer of 64 bits. -/
def int64 : Reader Int64 := fun n => (integer (-0x8000000000000000) 0x8000000000000000 "i64" n).map .ofInt

/-- The double nearest to an integer of 64 bits. -/
def intToFloat (i : Int) : Float :=
  let x := (UInt64.ofNat i.natAbs).toFloat
  if i < 0 then -x else x

/-- A double; integers are taken too. -/
def real : Reader Float
  | .number (.float x _) => .ok x
  | .number (.int i) =>
    if isWordSized i then .ok (intToFloat i) else .error (.data (.invalidType (.int i) "f64"))
  | n => .error (n.wrong "f64")

/-- A value, or `null` for none. -/
def optional {α : Type} (r : Reader α) : Reader (Option α)
  | .null => .ok none
  | n => (r n).map some

/-! ## Lists and maps -/

/-- Passes the end of a container. -/
def Ending.check : Ending → Except Fault Unit
  | .closed => .ok ()
  | .cut => .error .malformed

/-- Items, in order. -/
def readItems {α : Type} (r : Reader α) : List Node → Except Fault (List α)
  | [] => .ok []
  | n :: ns => do
    let a ← r n
    let rest ← readItems r ns
    return a :: rest

/-- A sequence of values. -/
def list {α : Type} (r : Reader α) : Reader (List α)
  | .sequence items ending => do
    let as ← readItems r items
    ending.check
    return as
  | n => .error (n.wrong "a sequence")

/-- The text of a key. -/
def Key.read (k : Key) : Except Fault String :=
  match k.text with
  | some s => .ok s
  | none => .error .malformed

/-- A key that must be an unsigned integer of 64 bits. What the number is comes before what follows
    it. -/
def Key.readIndex (k : Key) : Except Fault UInt64 :=
  match k.number with
  | some n => do
    let i ← integerOf 0 0x10000000000000000 "usize" n.number
    if n.whole then return .ofNat i.toNat else throw .malformed
  | none => .error .malformed

/-- The entries of a map, in order; a later entry replaces an earlier one with the same key. -/
def readEntries {κ α : Type} [Ord κ] [Std.TransOrd κ] [Std.LawfulEqOrd κ]
    (readKey : Key → Except Fault κ) (r : Reader α) :
    SortedMap κ α → List (Key × Node) → Except Fault (SortedMap κ α)
  | m, [] => .ok m
  | m, (k, n) :: es => do
    let key ← readKey k
    let a ← r n
    readEntries readKey r (m.insert key a) es

/-- A map whose keys are read by `readKey`. -/
def mapOf {κ α : Type} [Ord κ] [Std.TransOrd κ] [Std.LawfulEqOrd κ]
    (readKey : Key → Except Fault κ) (r : Reader α) : Reader (SortedMap κ α)
  | .map entries ending => do
    let m ← readEntries readKey r .empty entries
    ending.check
    return m
  | n => .error (n.wrong "a map")

/-- A map from texts. -/
def textMap {α : Type} (r : Reader α) : Reader (SortedMap String α) := mapOf Key.read r

/-- A map from unsigned integers. -/
def indexMap {α : Type} (r : Reader α) : Reader (SortedMap UInt64 α) := mapOf Key.readIndex r

/-! ## Records -/

/-- What formats disagree on. -/
structure Dialect where
  /-- Reads one of the given names. -/
  choice : List String → Reader String
  /-- Whether a record written as a sequence may be followed by further items. -/
  extraItems : Bool

/-- A choice among named values. -/
def choice {α : Type} (d : Dialect) (variants : List (String × α)) : Reader α := fun n => do
  let name ← d.choice (variants.map (·.1)) n
  match variants.find? (·.1 == name) with
  | some (_, a) => return a
  | none => throw (.data (.unknownVariant name (variants.map (·.1))))

/-- A field of a record that is read into `π`. -/
structure Field (π : Type) where
  /-- The field's name, and other names it may have. -/
  name : String
  aliases : List String
  /-- Whether a sequence that ends before this field still makes a record. -/
  defaulted : Bool
  isSet : π → Bool
  read : Node → π → Except Fault π

/-- A field that `get` shows and `set` fills. -/
def field {π β : Type} (name : String) (r : Reader β) (get : π → Option β) (set : β → π → π) :
    Field π :=
  { name
    aliases := []
    defaulted := false
    isSet := fun p => (get p).isSome
    read := fun n p => (r n).map fun b => set b p }

/-- The field, with a value of its own when nothing is given. -/
def Field.orDefault {π : Type} (f : Field π) : Field π := { f with defaulted := true }

/-- The field, which may also be called `other`. -/
def Field.alsoCalled {π : Type} (f : Field π) (other : String) : Field π :=
  { f with aliases := other :: f.aliases }

/-- A record `α`, read by filling in `π`. -/
structure Shape (π α : Type) where
  name : String
  fields : List (Field π)
  /-- Nothing filled in. -/
  blank : π
  /-- The record, or the first field that is missing. -/
  build : π → Except DataError α

variable {π α : Type}

/-- The field of that name. -/
def Shape.field? (s : Shape π α) (name : String) : Option (Field π) :=
  s.fields.find? fun f => f.name == name || f.aliases.contains name

/-- Fills in the fields of a map; entries of other names are passed over. -/
def Shape.readEntries (s : Shape π α) : π → List (Key × Node) → Except Fault π
  | p, [] => .ok p
  | p, (k, n) :: es => do
    let name ← k.read
    match s.field? name with
    | none =>
      n.skip
      s.readEntries p es
    | some f =>
      if f.isSet p then throw (.data (.duplicateField f.name))
      let p' ← f.read n p
      s.readEntries p' es

/-- What a sequence is expected to be. -/
def Shape.describe (s : Shape π α) : String :=
  let n := s.fields.length
  "struct " ++ s.name ++ " with " ++ Nat.repr n ++ (if n == 1 then " element" else " elements")

/-- Fills in the fields in their own order, from the field number `index` on: gives what is filled
    in and the items that are left. -/
def Shape.readSequence (s : Shape π α) :
    Nat → π → List (Field π) → List Node → Ending → Except Fault (π × List Node)
  | _, p, [], ns, _ => .ok (p, ns)
  | index, p, f :: fs, n :: ns, ending => do
    let p' ← f.read n p
    s.readSequence (index + 1) p' fs ns ending
  | index, p, f :: fs, [], ending => do
    ending.check
    if f.defaulted then s.readSequence (index + 1) p fs [] ending
    else throw (.data (.invalidLength index s.describe))

/-- Makes the record of what is filled in. -/
def Shape.finish (s : Shape π α) (p : π) : Except Fault α :=
  match s.build p with
  | .ok a => .ok a
  | .error e => .error (.data e)

/-- A record, from a map or from a sequence of its fields. -/
def Shape.read (s : Shape π α) (d : Dialect) : Reader α
  | .map entries ending => do
    let p ← s.readEntries s.blank entries
    ending.check
    s.finish p
  | .sequence items ending => do
    let (p, left) ← s.readSequence 0 s.blank s.fields items ending
    let a ← s.finish p
    if left.isEmpty || d.extraItems then
      ending.check
      return a
    else throw .malformed
  | n => .error (n.wrong ("struct " ++ s.name))

/-- A required field. -/
def required {β : Type} (name : String) : Option β → Except DataError β
  | some b => .ok b
  | none => .error (.missingField name)

end Recap.Record
