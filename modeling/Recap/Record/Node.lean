import Recap.Record.Fault

/-!
# Data trees

What records are read from, whichever format it was written in. Reading stops at the first thing
wrong, be it malformed text or a value of the wrong kind, whichever stands first. So a malformed text
is not refused as a whole: it is the tree it begins, with marks where the text stops making sense. A
reader that comes to a mark reports malformed text; one that finds a wrong value before it reports
the value.

## Contents
- `Number`, `Key`, `Ending`, `Node` — the trees.
- `Node.intact` — whether a value can be skipped.
- `Node.wrong` — the fault of a value that stands where another kind is expected.
-/

namespace Recap.Record

/-! ## Trees -/

/-- A number: an integer, or a double with the text its format gives it. -/
inductive Number where
  | int (i : Int)
  | float (x : Float) (text : String)
  /-- A number of the given kind that nothing can hold. -/
  | beyond (kind : String)

/-- A number at the front of a key, and whether it is all of the key. -/
structure KeyNumber where
  number : Number
  whole : Bool

/-- The key of a map entry. -/
structure Key where
  /-- The text, unless it stands for none. -/
  text : Option String
  /-- The number, if the key begins like one. -/
  number : Option KeyNumber := none
  /-- Whether the key is not in the text: the format writes the value in a way of its own. -/
  implied : Bool := false

/-- How a container ends: closed, or cut off at something that cannot stand there. -/
inductive Ending where
  | closed
  | cut
  deriving DecidableEq, Repr

/-- A value of a data tree. -/
inductive Node where
  | null
  | bool (b : Bool)
  | number (n : Number)
  | string (s : String)
  | sequence (items : List Node) (ending : Ending)
  | map (entries : List (Key × Node)) (ending : Ending)
  /-- Well formed, but stands for no value. -/
  | unusable
  /-- No value stands where one must. -/
  | missing

instance : Inhabited Node := ⟨.missing⟩

/-! ## Skipping -/

mutual

/-- Whether a value is well formed throughout. -/
def Node.intact : Node → Bool
  | .missing | .number (.beyond _) => false
  | .sequence items ending => Node.intactItems items && decide (ending = .closed)
  | .map entries ending => Node.intactEntries entries && decide (ending = .closed)
  | .null | .bool _ | .number _ | .string _ | .unusable => true

/-- Whether all items are well formed throughout. -/
def Node.intactItems : List Node → Bool
  | [] => true
  | n :: ns => n.intact && Node.intactItems ns

/-- Whether all values of a map are well formed throughout. -/
def Node.intactEntries : List (Key × Node) → Bool
  | [] => true
  | (_, n) :: es => n.intact && Node.intactEntries es

end

/-- Passes over a value that nobody reads. -/
def Node.skip (n : Node) : Except Fault Unit := if n.intact then .ok () else .error .malformed

/-! ## Values of the wrong kind -/

/-- The number, as found, unless nothing can hold it. -/
def Number.found? : Number → Option Found
  | .int i => some (.int i)
  | .float _ text => some (.float text)
  | .beyond _ => none

/-- The value, as found, or `none` if it is no value. -/
def Node.found? : Node → Option Found
  | .null => some .null
  | .bool b => some (.bool b)
  | .number n => n.found?
  | .string s => some (.string s)
  | .sequence .. => some .sequence
  | .map .. => some .map
  | .unusable | .missing => none

/-- The fault of `n` where `expected` is expected. -/
def Node.wrong (n : Node) (expected : String) : Fault :=
  match n.found? with
  | some found => .data (.invalidType found expected)
  | none => .malformed

end Recap.Record
