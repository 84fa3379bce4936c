import Recap.Machine.Call
import Recap.SortedMap
import Recap.Text.Utf8

/-!
# Trees of files

A tree of files is a map from places to what is there; a place is the list of the names on the way
to it from the root, which is always a directory. Paths are followed segment by segment: everything on
the way has to be a directory.

## Contents
- `Content`, `Device` — what is in a file, and what is in the place of one.
- `Entry`, `Kind`, `FileTree`, `FileTree.at?` — what is at a place.
- `FileTree.follow`, `FileTree.locate` — the place that a path leads to.
- `readText`, `writeText`, `readBytes`, `writeBytes`, `setMode`, `makeDirectory`, `makeDirectories`, `removeFile`,
  `removeDirectory`, `removeAll` — reading and changing.
- `FileTree.names`, `FileTree.listing` — what is in a directory, and everything below one.
-/

namespace Recap.Machine

/-! ## What is in files -/

/-- What is in a file: a text, or bytes that are none. -/
inductive Content where
  | text (s : String)
  | raw (bytes : List UInt8)
  deriving DecidableEq, Repr

/-- What bytes are. -/
def Content.ofBytes (bs : List UInt8) : Content :=
  match Text.decode? bs with
  | some s => .text s
  | none => .raw bs

/-- The bytes of what is in a file. -/
def Content.bytes : Content → List UInt8
  | .text s => Text.bytes s
  | .raw bs => bs

/-- What is in a file as a text, with replacements for what is none. -/
def Content.shown : Content → String
  | .text s => s
  | .raw bs => Text.decode bs

/-- What takes and gives bytes, but keeps none. -/
inductive Device where
  /-- Gives nothing and takes everything. -/
  | null
  /-- Takes nothing, and gives zero bytes. -/
  | full
  /-- Gives zero bytes and takes everything. -/
  | zero
  /-- The terminal that programs are used from, of which there is none. -/
  | terminal
  /-- Where programs read, print, and complain. -/
  | input
  | output
  | errors
  deriving DecidableEq, Repr

/-- How many zero bytes are given at once: more than anyone asks for. -/
def zeroCount : Nat := 65536

/-- What a device gives. -/
def Device.content : Device → Except Fault Content
  | .full | .zero => .ok (.raw (List.replicate zeroCount 0))
  | .terminal => .error .noDevice
  | .null | .input | .output | .errors => .ok (.text "")

/-- What can be at a place. -/
inductive Entry where
  /-- A file, and who may do what with it. -/
  | file (content : Content) (mode : Nat)
  | directory
  | device (d : Device)
  deriving DecidableEq, Repr

/-- Who may do what with a new file: all may read it, and its owner may change it. -/
def usualMode : Nat := 0o644

/-- What can be at a place, without what is in it. -/
inductive Kind where
  /-- A file, with the number of its bytes and with who may do what. -/
  | file (size mode : Nat)
  | directory
  /-- Something that takes and gives bytes, but keeps none. -/
  | device
  deriving DecidableEq, Repr

/-- What an entry is. -/
def Entry.kind : Entry → Kind
  | .file (.text s) mode => .file s.utf8ByteSize mode
  | .file (.raw bs) mode => .file bs.length mode
  | .directory => .directory
  | .device _ => .device

/-- Files and directories below the root. -/
structure FileTree where
  entries : SortedMap (List String) Entry

namespace FileTree

/-- The tree of an empty directory. -/
def empty : FileTree := ⟨.empty⟩

/-- What is at a place. -/
def at? (t : FileTree) : List String → Option Entry
  | [] => some .directory
  | place => t.entries.get? place

/-- The tree with something at a place. -/
def put (t : FileTree) (place : List String) (e : Entry) : FileTree := ⟨t.entries.insert place e⟩

/-! ## Following paths -/

/-- The most bytes that a name can have. -/
def longestName : Nat := 255

/-- The bytes that a path must stay below. -/
def pathLimit : Nat := 4096

/-- The place that segments lead to from another place. All on the way are directories; what is at
    the end is left open. Above the root is the root. -/
def follow (t : FileTree) (place : List String) : List String → Except Fault (List String)
  | [] => .ok place
  | segment :: rest =>
    match t.at? place with
    | none => .error .notFound
    | some .directory =>
      if Path.isIdle segment then t.follow place rest
      else if segment == ".." then t.follow place.dropLast rest
      else if longestName < segment.utf8ByteSize then .error .nameTooLong
      else t.follow (place ++ [segment]) rest
    | some _ => .error .notDirectory

/-- Whether segments hold a zero byte. -/
def isUnnameable (segments : List String) : Bool := segments.any (·.toList.contains '\x00')

/-- The place that a path leads to from a place, where it begins unless it is absolute. -/
def locate (t : FileTree) (base : List String) (p : Path) : Except Fault (List String) :=
  if isUnnameable p.segments then .error .unnameable
  else if pathLimit ≤ p.text.utf8ByteSize then .error .nameTooLong
  else if p.segments == [""] then .error .notFound
  else t.follow (if p.isAbsolute then [] else base) p.segments

/-- What a path leads to; nothing where it leads nowhere. -/
def find? (t : FileTree) (base : List String) (p : Path) : Option Entry :=
  match t.locate base p with
  | .ok place => t.at? place
  | .error _ => none

/-- Whether a path leads to a directory. -/
def isDirectory (t : FileTree) (base : List String) (p : Path) : Bool :=
  t.find? base p == some .directory

/-! ## Reading and changing -/

/-- What is at a path. -/
def look (t : FileTree) (base : List String) (p : Path) : Except Fault Kind := do
  match t.at? (← t.locate base p) with
  | none => .error .notFound
  | some e => .ok e.kind

/-- What is in a file. -/
def read (t : FileTree) (base : List String) (p : Path) : Except Fault Content := do
  match t.at? (← t.locate base p) with
  | none => .error .notFound
  | some .directory => .error .isDirectory
  | some (.device d) => d.content
  | some (.file content _) => .ok content

/-- The text of a file. -/
def readText (t : FileTree) (base : List String) (p : Path) : Except Fault String := do
  match ← t.read base p with
  | .text s => .ok s
  | .raw _ => .error .notText

/-- The bytes of a file. -/
def readBytes (t : FileTree) (base : List String) (p : Path) : Except Fault (List UInt8) :=
  (t.read base p).map Content.bytes

/-- Writes a file, making its content of what was there. -/
def write (t : FileTree) (base : List String) (p : Path) (f : Content → Content) :
    Except Fault FileTree := do
  let place ← t.locate base p
  match t.at? place with
  | some .directory => .error .isDirectory
  | some (.device .full) => if f (.text "") == .text "" then .ok t else .error .noSpace
  | some (.device .terminal) => .error .noDevice
  | some (.device _) => .ok t
  | some (.file content mode) => .ok (t.put place (.file (f content) mode))
  | none => .ok (t.put place (.file (f (.text "")) usualMode))

/-- Says who may do what with a file. -/
def setMode (t : FileTree) (base : List String) (p : Path) (mode : Nat) : Except Fault FileTree := do
  let place ← t.locate base p
  match t.at? place with
  | none => .error .notFound
  | some (.file content _) => .ok (t.put place (.file content mode))
  | some _ => .ok t

/-- Writes a text, in place of what may be there. -/
def writeText (t : FileTree) (base : List String) (p : Path) (text : String) :
    Except Fault FileTree :=
  t.write base p fun _ => .text text

/-- Writes bytes, in place of what may be there or behind it. -/
def writeBytes (t : FileTree) (base : List String) (p : Path) (bytes : List UInt8) (append : Bool) :
    Except Fault FileTree :=
  t.write base p fun before => .ofBytes (if append then before.bytes ++ bytes else bytes)

/-- Makes a directory where nothing is yet. A slash at the end of its path does not matter. -/
def makeDirectory (t : FileTree) (base : List String) (p : Path) : Except Fault FileTree := do
  let place ← t.locate base p.trimSlashes
  match t.at? place with
  | some _ => .error .taken
  | none => .ok (t.put place .directory)

/-- Makes a directory unless it is there. -/
def ensureDirectory (t : FileTree) (base : List String) (p : Path) : Except Fault FileTree :=
  match t.makeDirectory base p with
  | .ok t' => .ok t'
  | .error fault => if t.isDirectory base p then .ok t else .error fault

/-- Makes a directory and what is missing above it. The segments come last first. -/
def makeUpward (t : FileTree) (base : List String) : List String → Except Fault FileTree
  | [] => .ok t
  | segment :: above =>
    let p : Path := ⟨(segment :: above).reverse⟩
    match t.ensureDirectory base p with
    | .error .notFound => do
      let t' ← t.makeUpward base above
      t'.ensureDirectory base p
    | result => result

/-- Makes a directory and what is missing above it. -/
def makeDirectories (t : FileTree) (base : List String) (p : Path) : Except Fault FileTree :=
  if p.segments == [""] then .ok t else t.makeUpward base p.segments.reverse

/-- Removes a file. -/
def removeFile (t : FileTree) (base : List String) (p : Path) : Except Fault FileTree := do
  let place ← t.locate base p
  match t.at? place with
  | none => .error .notFound
  | some .directory => .error .isDirectory
  | some (.device _) => .error .denied
  | some (.file ..) => .ok ⟨t.entries.erase place⟩

/-- Whether nothing is below a place. -/
def isBare (t : FileTree) (place : List String) : Bool :=
  t.entries.entries.all fun e => e.1 == place || !place.isPrefixOf e.1

/-- Removes a directory that is empty. -/
def removeDirectory (t : FileTree) (base : List String) (p : Path) : Except Fault FileTree := do
  let place ← t.locate base p.trimSlashes
  match t.at? place with
  | none => .error .notFound
  | some .directory => if t.isBare place then .ok ⟨t.entries.erase place⟩ else .error .notEmpty
  | some _ => .error .notDirectory

/-- Removes a file, or a directory with everything in it. -/
def removeAll (t : FileTree) (base : List String) (p : Path) : Except Fault FileTree := do
  let place ← t.locate base p
  match t.at? place with
  | none => .error .notFound
  | some _ => .ok ⟨t.entries.filter fun e => !place.isPrefixOf e.1⟩

/-! ## Listing -/

/-- The names in a directory. -/
def names (t : FileTree) (base : List String) (p : Path) : Except Fault (List String) := do
  let place ← t.locate base p
  match t.at? place with
  | none => .error .notFound
  | some .directory =>
    .ok (t.entries.entries.filterMap fun (q, _) => if q.dropLast == place then q.getLast? else none)
  | some _ => .error .notDirectory

/-- Every file below a place with its text, and every empty directory, as seen from there. -/
def listing (t : FileTree) (base : List String) : List (Path × Option String) :=
  t.entries.entries.filterMap fun (place, e) =>
    if base.isPrefixOf place && place != base then
      let path : Path := ⟨place.drop base.length⟩
      match e with
      | .file content _ => some (path, some content.shown)
      | .device _ => some (path, some "")
      | .directory => if t.isBare place then some (path, none) else none
    else none

end FileTree

end Recap.Machine
