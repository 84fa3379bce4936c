import Recap.SortedMap

/-!
# TOML tables

A document builds up its tables piece by piece: by headers, by dotted keys and by inline tables. Each
table may be extended only in the way it was begun, so tables remember how that was.

## Contents
- `Origin`, `Item`, `Entries` — values, and tables with their keys in ascending order.
- `insertDotted`, `insertKey` — a value under a key.
- `openTable`, `openElement` — headers.
- `updateAt` — the table under a header.
-/

namespace Recap.Toml

/-- How a table came about. -/
inductive Origin where
  /-- By a header of its own. -/
  | header
  /-- As part of the path of a header. -/
  | path
  /-- As part of a dotted key. -/
  | dotted
  /-- Between braces. -/
  | inline
  deriving DecidableEq, Repr

/-- A value. -/
inductive Item where
  | string (s : String)
  /-- An integer, or `none` for one that no reader can hold. -/
  | integer (value : Option Int)
  /-- A double, or `none` for a number beyond the range of doubles. -/
  | float (value : Option Float)
  | boolean (b : Bool)
  /-- A date, a time, or both, as written. -/
  | datetime (text : String)
  | array (items : List Item)
  /-- Tables that headers with two brackets add to, first one first. -/
  | tables (elements : List (List (String × Item)))
  | table (origin : Origin) (entries : List (String × Item))

/-- The entries of a table, by ascending keys. -/
abbrev Entries := List (String × Item)

/-! ## Keys -/

/-- Whether dotted keys may still add to a table: no header or pair of braces has made it. -/
def Origin.isOpen : Origin → Bool
  | .path | .dotted => true
  | .header | .inline => false

/-- Puts a value under the rest of a dotted key. The table it goes into must be open, and counts as
    begun by a dotted key from then on; so must the tables on the way, but of an array of tables the
    last one is passed through. -/
def insertDotted (value : Item) : List String → Origin × Entries → Option (Origin × Entries)
  | [], _ => none
  | [k], (origin, es) =>
    if origin.isOpen && (lookupEntry k es).isNone then some (.dotted, insertEntry k value es) else none
  | k :: ks, (origin, es) =>
    match lookupEntry k es with
    | none =>
      (insertDotted value ks (.dotted, [])).map fun (o, sub) =>
        (origin, insertEntry k (.table o sub) es)
    | some (.table o sub) =>
      if o.isOpen then
        (insertDotted value ks (o, sub)).map fun (o', sub') =>
          (origin, insertEntry k (.table o' sub') es)
      else none
    | some (.tables elements) =>
      (insertDotted value ks (.header, elements.getLast?.getD [])).map fun (_, sub) =>
        (origin, insertEntry k (.tables (elements.dropLast ++ [sub])) es)
    | some _ => none

/-- Puts a value under a key, which must be new. -/
def insertKey (value : Item) (key : List String) (es : Entries) : Option Entries :=
  match key with
  | [k] => if (lookupEntry k es).isNone then some (insertEntry k value es) else none
  | key => (insertDotted value key (.header, es)).map (·.2)

/-! ## Headers -/

/-- Changes what a header's path leads to. Tables on the way that do not exist are made; of an array
    of tables, the last one is meant. -/
def updatePath (f : Option Item → Option Item) : List String → Entries → Option Entries
  | [], _ => none
  | [k], es => (f (lookupEntry k es)).map fun item => insertEntry k item es
  | k :: ks, es =>
    match lookupEntry k es with
    | none => (updatePath f ks []).map fun sub => insertEntry k (.table .path sub) es
    | some (.table .inline _) => none
    | some (.table origin sub) =>
      (updatePath f ks sub).map fun sub' => insertEntry k (.table origin sub') es
    | some (.tables elements) =>
      (updatePath f ks (elements.getLast?.getD [])).map fun sub =>
        insertEntry k (.tables (elements.dropLast ++ [sub])) es
    | some _ => none

/-- A header with one bracket: a table that is not there yet, or only as part of another path. -/
def openTable : Option Item → Option Item
  | none => some (.table .header [])
  | some (.table .path entries) => some (.table .header entries)
  | some _ => none

/-- A header with two brackets: one more element of an array of tables. -/
def openElement : Option Item → Option Item
  | none => some (.tables [[]])
  | some (.tables elements) => some (.tables (elements ++ [[]]))
  | some _ => none

/-- Changes the entries of the table that the last header opened. -/
def updateAt (f : Entries → Option Entries) : List String → Entries → Option Entries
  | [], es => f es
  | k :: ks, es =>
    match lookupEntry k es with
    | some (.table origin sub) =>
      (updateAt f ks sub).map fun sub' => insertEntry k (.table origin sub') es
    | some (.tables elements) =>
      (updateAt f ks (elements.getLast?.getD [])).map fun sub =>
        insertEntry k (.tables (elements.dropLast ++ [sub])) es
    | _ => none

end Recap.Toml
