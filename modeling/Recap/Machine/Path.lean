/-!
# Paths

A path is the list of the pieces between its slashes, so that its text can be given back exactly as
it was: empty pieces and single dots are kept here, and mean nothing only when the path is followed.

## Contents
- `splitSlashes` — the pieces of a text.
- `Path`, `Path.ofText`, `Path.text` — paths and their texts.
- `Path.child`, `Path.join` — going down.
- `Path.place` — the names on the way.
- `Path.stem?` — the name of a file without its last extension.
-/

namespace Recap.Machine

/-- The pieces between slashes; there is always at least one. -/
def splitSlashes : List Char → List (List Char)
  | [] => [[]]
  | c :: cs =>
    if c = '/' then [] :: splitSlashes cs
    else
      match splitSlashes cs with
      | [] => [[c]]
      | piece :: pieces => (c :: piece) :: pieces

/-- The place of a file or directory. -/
structure Path where
  /-- What stands between the slashes. -/
  segments : List String
  deriving DecidableEq, Repr

namespace Path

/-- The path that a text names. -/
def ofText (s : String) : Path := ⟨(splitSlashes s.toList).map String.ofList⟩

/-- The text of a path. -/
def text (p : Path) : String := "/".intercalate p.segments

/-- Whether a path starts at the root of all files. -/
def isAbsolute (p : Path) : Bool :=
  match p.segments with
  | "" :: _ :: _ => true
  | _ => false

/-! ## Going down -/

/-- The segments without the empty one behind a slash at the end. -/
def withoutSlash (segments : List String) : List String :=
  if segments.getLast? == some "" then segments.dropLast else segments

/-- The path without slashes at its end, except for the root of all files. -/
def trimSlashes (p : Path) : Path :=
  match (p.segments.reverse.dropWhile (· == "")).reverse with
  | [] => p
  | segments => ⟨segments⟩

/-- Something in a directory, by a name without slashes. -/
def child (p : Path) (name : String) : Path := ⟨withoutSlash p.segments ++ [name]⟩

/-- A path seen from a directory; an absolute path stays what it is. -/
def join (p q : Path) : Path := if q.isAbsolute then q else ⟨withoutSlash p.segments ++ q.segments⟩

/-- Whether a segment leads nowhere. -/
def isIdle (segment : String) : Bool := segment == "" || segment == "."

/-- The names on the way along a path, with steps back taken back. -/
def place (p : Path) : List String :=
  p.segments.foldl
    (fun names segment =>
      if isIdle segment then names
      else if segment == ".." then names.dropLast
      else names ++ [segment])
    []

/-- The segments up to the last that leads somewhere. -/
def trimIdle (segments : List String) : List String := (segments.reverse.dropWhile isIdle).reverse

/-! ## Names -/

/-- The characters before the last dot, where there is a dot that is not the first character. -/
def beforeLastDot (name : List Char) : List Char :=
  match (name.reverse.dropWhile (· ≠ '.')).drop 1 with
  | [] => name
  | before => before.reverse

/-- The name of a file without its last extension; nothing where a path does not end with a name. -/
def stem? (p : Path) : Option String :=
  match (trimIdle p.segments).getLast? with
  | none => none
  | some name => if name == ".." then none else some (String.ofList (beforeLastDot name.toList))

end Path

end Recap.Machine
