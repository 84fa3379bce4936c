import Recap.Text.Shown

/-!
# What can be wrong with data

Data is refused either because its text is malformed or because a well-formed value has the wrong
shape. The second kind names what was found and what was expected.

## Contents
- `Found` — the value that was found, in words.
- `DataError`, `DataError.message` — the ways a value can be wrong, and their wording.
- `Fault` — both kinds.
- `Wording` — what a reader says about them.
-/

namespace Recap.Record

/-! ## Values in words -/

/-- The text of an integer. -/
def writeInt : Int → List Char
  | .ofNat n => (Nat.repr n).toList
  | .negSucc n => '-' :: (Nat.repr (n + 1)).toList

/-- The value that stands where another was expected. -/
inductive Found where
  | null
  | bool (b : Bool)
  | int (i : Int)
  /-- A double, as its format writes it. -/
  | float (text : String)
  | string (s : String)
  | map
  | sequence
  deriving DecidableEq, Repr

/-- Integers of 64 bits, signed or unsigned. -/
def isWordSized (i : Int) : Bool := -0x8000000000000000 ≤ i && i < 0x10000000000000000

/-- An integer in words; one that needs more than 64 bits is named with its width. -/
def describeInt (i : Int) : String :=
  let text := "integer `" ++ String.ofList (writeInt i) ++ "`"
  if isWordSized i then text
  else if i < 0x80000000000000000000000000000000 then text ++ " as i128"
  else text ++ " as u128"

/-- A value in words. -/
def Found.describe : Found → String
  | .null => "null"
  | .bool b => "boolean `" ++ (if b then "true" else "false") ++ "`"
  | .int i => describeInt i
  | .float text => "floating point `" ++ text ++ "`"
  | .string s => "string " ++ Text.shown s
  | .map => "map"
  | .sequence => "sequence"

/-! ## Errors -/

/-- A well-formed value of the wrong shape. -/
inductive DataError where
  | invalidType (found : Found) (expected : String)
  | invalidValue (found : Found) (expected : String)
  | invalidLength (length : Nat) (expected : String)
  | missingField (name : String)
  | duplicateField (name : String)
  | unknownVariant (name : String) (variants : List String)
  /-- A rule of its own refuses the value. -/
  | refused (reason : String)
  deriving DecidableEq, Repr

/-- The names that a choice offers, in words. -/
def describeVariants : List String → String
  | [] => "there are no variants"
  | [a] => "expected `" ++ a ++ "`"
  | [a, b] => "expected `" ++ a ++ "` or `" ++ b ++ "`"
  | vs => "expected one of " ++ ", ".intercalate (vs.map fun v => "`" ++ v ++ "`")

/-- The wording of an error. -/
def DataError.message : DataError → String
  | .invalidType found expected => "invalid type: " ++ found.describe ++ ", expected " ++ expected
  | .invalidValue found expected => "invalid value: " ++ found.describe ++ ", expected " ++ expected
  | .invalidLength n expected => "invalid length " ++ Nat.repr n ++ ", expected " ++ expected
  | .missingField name => "missing field `" ++ name ++ "`"
  | .duplicateField name => "duplicate field `" ++ name ++ "`"
  | .unknownVariant name variants =>
    "unknown variant `" ++ name ++ "`, " ++ describeVariants variants
  | .refused reason => reason

/-- Why data is refused. -/
inductive Fault where
  /-- The text is malformed. -/
  | malformed
  | data (error : DataError)
  deriving DecidableEq, Repr

/-- What a reader says about data that it refuses. Its words are its own: besides the fault they can name
    the place in the text. A reader can also leave it at the refusal. -/
abbrev Wording := Fault → Option String

/-- A reader that says nothing. -/
def Wording.silent : Wording := fun _ => none

/-- What follows in a message after what could not be read. -/
def Wording.details (words : Wording) (fault : Fault) : String :=
  match words fault with
  | none => ""
  | some text => ": " ++ text

end Recap.Record
