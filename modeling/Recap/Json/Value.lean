import Recap.Json.Scalar
import Recap.Record.Fault

/-!
# JSON values and their two layouts

Values are what records are turned into before they are written. Fields keep their order. A value is
written either without any space, or with every item and field on a line of its own, indented by two
spaces for each container around it.

## Contents
- `Value` — the values.
- `Value.compact`, `Value.pretty` — the two layouts.
-/

namespace Recap.Json

open Recap.Record (writeInt)

/-! ## Values -/

/-- A JSON value; the fields of an object are in the order they are written. -/
inductive Value where
  | null
  | bool (b : Bool)
  | int (i : Int)
  | float (x : Float)
  | string (s : String)
  | array (items : List Value)
  | object (fields : List (String × Value))

instance : Inhabited Value := ⟨.null⟩

/-- An optional value, `null` when there is none. -/
def Value.ofOption {α : Type} (f : α → Value) : Option α → Value
  | none => .null
  | some a => f a

/-- A natural number. -/
def Value.nat (n : Nat) : Value := .int n

/-- A list of texts. -/
def Value.strings (ss : List String) : Value := .array (ss.map .string)

/-! ## Layouts -/

/-- The text of `null`. -/
def nullText : List Char := ['n', 'u', 'l', 'l']

/-- The text of a truth value. -/
def writeBool : Bool → List Char
  | true => ['t', 'r', 'u', 'e']
  | false => ['f', 'a', 'l', 's', 'e']

mutual

/-- A value without spaces. -/
def Value.compactChars : Value → List Char
  | .null => nullText
  | .bool b => writeBool b
  | .int i => writeInt i
  | .float x => (writeFloat x).toList
  | .string s => quote s
  | .array items => '[' :: (Value.compactItems items ++ [']'])
  | .object fields => '{' :: (Value.compactFields fields ++ ['}'])

/-- Items with commas between them. -/
def Value.compactItems : List Value → List Char
  | [] => []
  | [v] => v.compactChars
  | v :: vs => v.compactChars ++ ',' :: Value.compactItems vs

/-- Fields with commas between them. -/
def Value.compactFields : List (String × Value) → List Char
  | [] => []
  | [(k, v)] => quote k ++ ':' :: v.compactChars
  | (k, v) :: fs => quote k ++ ':' :: v.compactChars ++ ',' :: Value.compactFields fs

end

/-- A value without spaces. -/
def Value.compact (v : Value) : String := String.ofList v.compactChars

/-- A line break, and the indentation inside `depth` containers. -/
def breakLine (depth : Nat) : List Char := '\n' :: List.replicate (2 * depth) ' '

mutual

/-- A value inside `depth` containers, each item and field on its own line. -/
def Value.prettyChars (depth : Nat) : Value → List Char
  | .null => nullText
  | .bool b => writeBool b
  | .int i => writeInt i
  | .float x => (writeFloat x).toList
  | .string s => quote s
  | .array [] => ['[', ']']
  | .array (v :: vs) =>
    '[' :: (Value.prettyItems (depth + 1) (v :: vs) ++ breakLine depth ++ [']'])
  | .object [] => ['{', '}']
  | .object (f :: fs) =>
    '{' :: (Value.prettyFields (depth + 1) (f :: fs) ++ breakLine depth ++ ['}'])

/-- Items, each after a line break. -/
def Value.prettyItems (depth : Nat) : List Value → List Char
  | [] => []
  | [v] => breakLine depth ++ v.prettyChars depth
  | v :: vs => breakLine depth ++ v.prettyChars depth ++ ',' :: Value.prettyItems depth vs

/-- Fields, each after a line break, with a space after the colon. -/
def Value.prettyFields (depth : Nat) : List (String × Value) → List Char
  | [] => []
  | [(k, v)] => breakLine depth ++ quote k ++ ':' :: ' ' :: v.prettyChars depth
  | (k, v) :: fs =>
    breakLine depth ++ quote k ++ ':' :: ' ' :: v.prettyChars depth ++
      ',' :: Value.prettyFields depth fs

end

/-- A value with each item and field on its own line. -/
def Value.pretty (v : Value) : String := String.ofList (v.prettyChars 0)

end Recap.Json
