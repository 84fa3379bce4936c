import Recap.Json.Scalar
import Recap.Record.Reader

/-!
# Reading JSON documents

Tokens are read into a data tree by a machine that holds the containers still open. A token that
cannot stand where it does ends the reading; the containers are then closed around it with marks, so
that readers of records see everything before it.

## Contents
- `Frame`, `Parse`, `Parse.step` — the machine.
- `Document.ofText` — the tree that a text begins.
- `dialect`, `decode` — reading a record from a text.
-/

namespace Recap.Json

open Recap.Record

/-! ## Scalars -/

/-- A number as data. -/
def Num.toNumber : Num → Number
  | .int i => .int i
  | .float x => .float x (writeFloat x)

/-- A written number as a value. -/
def Numeral.toNode (n : Numeral) : Node :=
  match n.value? with
  | some v => .number v.toNumber
  | none => .unusable

/-- A written string as a value. -/
def stringNode (raw : List Char) : Node :=
  match unescape? raw with
  | some s => .string s
  | none => .unusable

/-- The number that a key begins with; `closed` says whether the key has its closing quote. -/
def keyNumber? (closed : Bool) (raw : List Char) : Option KeyNumber := do
  let (numeral, rest) ← takeNumeral? raw
  let value ← numeral.value?
  return { number := value.toNumber, whole := closed && rest.isEmpty }

/-- A written key. -/
def toKey (raw : List Char) : Key := { text := unescape? raw, number := keyNumber? true raw }

/-- A key that breaks off. -/
def brokenKey (raw : List Char) : Key := { text := none, number := keyNumber? false raw }

/-! ## The machine -/

/-- A container whose next value is being read; what it holds already, last first. -/
inductive Frame where
  | item (items : List Node)
  | entry (entries : List (Key × Node)) (key : Key)

/-- What must come next, inside the containers still open, innermost first. -/
inductive Parse where
  | value (frames : List Frame)
  /-- After an opening bracket. -/
  | firstItem (frames : List Frame)
  /-- After an item: a comma or the closing bracket. -/
  | afterItem (frames : List Frame) (items : List Node)
  /-- After an opening brace. -/
  | firstKey (frames : List Frame)
  /-- After a comma between entries. -/
  | nextKey (frames : List Frame) (entries : List (Key × Node))
  | colon (frames : List Frame) (entries : List (Key × Node)) (key : Key)
  /-- After an entry: a comma or the closing brace. -/
  | afterEntry (frames : List Frame) (entries : List (Key × Node))
  /-- The whole document. -/
  | done (root : Node)
  /-- Something follows the whole document. -/
  | trailing (root : Node)
  /-- The text stopped being JSON. -/
  | failed (root : Node)

/-- Puts a whole value where it belongs. -/
def Parse.deliver (n : Node) : List Frame → Parse
  | [] => .done n
  | .item items :: fs => .afterItem fs (n :: items)
  | .entry entries key :: fs => .afterEntry fs ((key, n) :: entries)

/-- Closes every open container with a mark, around the place where reading stopped. -/
def Parse.abandon (n : Node) : List Frame → Node
  | [] => n
  | .item items :: fs => abandon (.sequence (n :: items).reverse .cut) fs
  | .entry entries key :: fs => abandon (.map ((key, n) :: entries).reverse .cut) fs

/-- A value starts with `t`, inside the containers `fs`. -/
def Parse.beginValue (fs : List Frame) (t : Token) : Parse :=
  match t with
  | .null => deliver .null fs
  | .bool b => deliver (.bool b) fs
  | .number n => deliver n.toNode fs
  | .string raw => deliver (stringNode raw) fs
  | .openBracket => .firstItem fs
  | .openBrace => .firstKey fs
  | .closeBrace | .closeBracket | .colon | .comma | .broken _ | .bad =>
    .failed (abandon .missing fs)

/-- Reads one token. -/
def Parse.step (p : Parse) (t : Token) : Parse :=
  match p with
  | .value fs => beginValue fs t
  | .firstItem fs =>
    match t with
    | .closeBracket => deliver (.sequence [] .closed) fs
    | t => beginValue (.item [] :: fs) t
  | .afterItem fs items =>
    match t with
    | .comma => .value (.item items :: fs)
    | .closeBracket => deliver (.sequence items.reverse .closed) fs
    | _ => .failed (abandon (.sequence items.reverse .cut) fs)
  | .firstKey fs =>
    match t with
    | .closeBrace => deliver (.map [] .closed) fs
    | .string raw => .colon fs [] (toKey raw)
    | .broken raw => .failed (abandon .missing (.entry [] (brokenKey raw) :: fs))
    | _ => .failed (abandon (.map [] .cut) fs)
  | .nextKey fs entries =>
    match t with
    | .string raw => .colon fs entries (toKey raw)
    | .broken raw => .failed (abandon .missing (.entry entries (brokenKey raw) :: fs))
    | _ => .failed (abandon (.map entries.reverse .cut) fs)
  | .colon fs entries key =>
    match t with
    | .colon => .value (.entry entries key :: fs)
    | _ => .failed (abandon .missing (.entry entries key :: fs))
  | .afterEntry fs entries =>
    match t with
    | .comma => .nextKey fs entries
    | .closeBrace => deliver (.map entries.reverse .closed) fs
    | _ => .failed (abandon (.map entries.reverse .cut) fs)
  | .done n => .trailing n
  | .trailing n => .trailing n
  | .failed n => .failed n

/-! ## Documents -/

/-- A tree, and whether nothing but spaces follows it. -/
structure Document where
  root : Node
  ends : Bool

/-- The document that has been read when the tokens run out. -/
def Parse.finish (p : Parse) : Document :=
  match p with
  | .done n => ⟨n, true⟩
  | p =>
    match p.step .bad with
    | .failed n | .trailing n | .done n => ⟨n, false⟩
    | _ => ⟨.missing, false⟩

/-- The document that a list of tokens begins. -/
def Document.ofTokens (ts : List Token) : Document := (ts.foldl Parse.step (.value [])).finish

/-- The document that a text begins. -/
def Document.ofText (s : String) : Document := .ofTokens (tokenize s.toList)

/-! ## Records -/

/-- One of the given names, as a string or as the only key of a map that holds `null`. -/
def readChoice (variants : List String) : Reader String
  | .string s => known s
  | .map ((k, n) :: rest) ending => do
    let name ← k.read >>= known
    match n with
    | .null => pure ()
    | n => throw (n.wrong "unit")
    if rest.isEmpty then
      ending.check
      return name
    else throw .malformed
  | _ => .error .malformed
where
  known (s : String) : Except Fault String :=
    if variants.contains s then .ok s else .error (.data (.unknownVariant s variants))

/-- Records in JSON. -/
def dialect : Dialect := { choice := readChoice, extraItems := false }

/-- Reads a record from a whole text. -/
def decode {α : Type} (r : Reader α) (s : String) : Except Fault α := do
  let doc := Document.ofText s
  let a ← r doc.root
  if doc.ends then return a else throw .malformed

end Recap.Json
