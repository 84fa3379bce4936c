import Recap.Decimal.Style
import Recap.Record.Reader
import Recap.Toml.Parser

/-!
# Records in TOML

## Contents
- `Item.toNode` — a value as data. The keys of a table come in ascending order.
- `dialect`, `decode` — reading a record from a text.
-/

namespace Recap.Toml

open Recap.Record
open Recap.Decimal (Style)

/-- Doubles in error messages: never a power of ten, always a point. -/
def foundStyle : Style := { Decimal.plain with keepsPoint := true }

/-- A double in an error message. -/
def foundFloat (x : Float) : String := if x.isFinite then foundStyle.write x else Decimal.plain.write x

/-- The key under which a date is handed to readers. -/
def datetimeKey : String := "$__toml_private_datetime"

mutual

/-- A value as data. -/
def Item.toNode : Item → Node
  | .string s => .string s
  | .integer (some i) => .number (.int i)
  | .integer none => .number (.beyond "integer")
  | .float (some x) => .number (.float x (foundFloat x))
  | .float none => .number (.beyond "float")
  | .boolean b => .bool b
  | .datetime text => .map [({ text := some datetimeKey, implied := true }, .string text)] .closed
  | .array items => .sequence (itemNodes items) .closed
  | .tables elements => .sequence (elementNodes elements) .closed
  | .table _ entries => .map (entryNodes entries) .closed

/-- Items as data. -/
def itemNodes : List Item → List Node
  | [] => []
  | i :: is => i.toNode :: itemNodes is

/-- Tables as data. -/
def elementNodes : List (List (String × Item)) → List Node
  | [] => []
  | es :: rest => .map (entryNodes es) .closed :: elementNodes rest

/-- Entries as data. -/
def entryNodes : List (String × Item) → List (Key × Node)
  | [] => []
  | (k, i) :: es => ({ text := some k, number := none }, i.toNode) :: entryNodes es

end

/-- What a value is called. -/
def typeName : Node → String
  | .string _ => "string"
  | .number (.int _) => "integer"
  | .number (.float ..) => "float"
  | .number (.beyond kind) => kind
  | .bool _ => "boolean"
  | .sequence .. => "array"
  | .map .. | .null | .unusable | .missing => "table"

/-- One of the given names, as a string or as the only key of a table that holds nothing. -/
def readChoice (variants : List String) : Reader String
  | .string s => known s
  | .map [] _ => refuse "wanted exactly 1 element, found 0 elements"
  | .map [(k, n)] _ => do
    if k.implied then refuse "wanted string or table"
    else
      let name ← k.read >>= known
      match n with
      | .map [] _ | .sequence [] _ => return name
      | .map .. => refuse "expected empty table"
      | .sequence .. => refuse "expected empty array"
      | n => refuse ("expected table, found " ++ typeName n)
  | .map .. => refuse "wanted exactly 1 element, more than 1 element"
  | _ => refuse "wanted string or table"
where
  known (s : String) : Except Fault String :=
    if variants.contains s then .ok s else .error (.data (.unknownVariant s variants))
  refuse (reason : String) : Except Fault String := .error (.data (.refused reason))

/-- Records in TOML. -/
def dialect : Dialect := { choice := readChoice, extraItems := true }

/-- Reads a record from a whole text. -/
def decode {α : Type} (r : Reader α) (s : String) : Except Fault α :=
  match readDocument s with
  | some entries => r (.map (entryNodes entries) .closed)
  | none => .error .malformed

end Recap.Toml
