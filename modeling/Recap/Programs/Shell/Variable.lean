import Recap.Text.Utf8

/-!
# Variables of the shell

A variable holds a text, a row of texts that are counted from zero, or a table of texts under keys.

## Contents
- `Held` — what a variable holds, and its items.
- `bucketOf` — the order in which tables show their keys.
- `Variable`, `Variable.letters` — variables, and the letters of what is known about them.
-/

namespace Recap.Shell

/-- What a variable holds. -/
inductive Held where
  | nothing
  | text (s : String)
  /-- Texts by their numbers, in order. -/
  | row (items : List (Nat × String))
  /-- Texts by their keys, the newest first. -/
  | table (items : List (String × String))

/-! ## Order of tables -/

/-- The number of buckets that a table puts its keys into. -/
def bucketCount : Nat := 1024

/-- The bucket of a key: each byte is mixed into a number of 32 bits. Tables show their keys in the order
    of their buckets. -/
def bucketOf (key : String) : Nat :=
  let mixed := (Text.bytes key).foldl
    (fun (h : UInt32) b => (h * 16777619) ^^^ (if b < 128 then b.toUInt32 else b.toUInt32 ||| 0xffffff00))
    2166136261
  mixed.toNat % bucketCount

/-! ## Items -/

namespace Held

/-- Puts an item into a row. -/
def insertAt (n : Nat) (s : String) : List (Nat × String) → List (Nat × String)
  | [] => [(n, s)]
  | (m, t) :: items =>
    if n < m then (n, s) :: (m, t) :: items
    else if n == m then (n, s) :: items
    else (m, t) :: insertAt n s items

/-- Puts an item into a table. -/
def insertKey (key s : String) (items : List (String × String)) : List (String × String) :=
  if (items.lookup key).isSome then items.map fun i => if i.1 == key then (key, s) else i
  else (key, s) :: items

/-- Keys and texts, in the order in which they are shown. -/
def items : Held → List (String × String)
  | .nothing => []
  | .text s => [("0", s)]
  | .row items => items.map fun (n, s) => (Nat.repr n, s)
  | .table items => items.mergeSort fun a b => bucketOf a.1 ≤ bucketOf b.1

/-- The texts, in the order in which they are shown. -/
def texts (h : Held) : List String := h.items.map (·.2)

/-- The text where one is asked for without a key. -/
def text? : Held → Option String
  | .nothing => none
  | .text s => some s
  | .row items => items.lookup 0
  | .table items => items.lookup "0"

/-- Whether texts have keys that are no numbers. -/
def isTable : Held → Bool
  | .table _ => true
  | .nothing | .text _ | .row _ => false

/-- Whether there can be several texts. -/
def isMany : Held → Bool
  | .row _ | .table _ => true
  | .nothing | .text _ => false

/-- The items of a row, or what would be its items. -/
def asRow : Held → List (Nat × String)
  | .row items => items
  | .text s => [(0, s)]
  | .nothing | .table _ => []

/-- The number that the next item of a row would have. -/
def nextNumber (h : Held) : Nat := ((h.asRow.getLast?.map (·.1 + 1))).getD 0

/-- With a text in the place of the one that is had without a key. -/
def withText (h : Held) (s : String) : Held :=
  match h with
  | .row items => .row (insertAt 0 s items)
  | .table items => .table (insertKey "0" s items)
  | .nothing | .text _ => .text s

/-- A row of texts. -/
def ofTexts (texts : List String) : Held := .row (texts.zipIdx.map fun (s, i) => (i, s))

end Held

/-! ## Variables -/

/-- A variable. -/
structure Variable where
  held : Held
  /-- Whether programs are handed it. -/
  exported : Bool := false
  readOnly : Bool := false
  /-- Whether its values are sums. -/
  isSum : Bool := false
  /-- Whether its letters become capital ones, or small ones. -/
  casing : Option Bool := none
  /-- Whether it stands for the variable that it is the name of. -/
  refers : Bool := false

namespace Variable

/-- A variable with a text. -/
def ofText (s : String) : Variable := { held := .text s }

/-- The text of a variable. -/
def value? (v : Variable) : Option String := v.held.text?

/-- The letters of what is known about a variable. -/
def letters (v : Variable) : String :=
  let kind := match v.held with
    | .row _ => "a"
    | .table _ => "A"
    | .nothing | .text _ => ""
  let mark (letter : String) (on : Bool) : String := if on then letter else ""
  kind ++ mark "i" v.isSum ++ mark "l" (v.casing == some false) ++ mark "n" v.refers ++
    mark "r" v.readOnly ++ mark "u" (v.casing == some true) ++ mark "x" v.exported

/-- A text as the variable keeps it. -/
def cased (v : Variable) (s : String) : String :=
  match v.casing with
  | none => s
  | some true => s.map Char.toUpper
  | some false => s.map Char.toLower

end Variable

end Recap.Shell
