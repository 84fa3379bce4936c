import Recap.Programs.Shell.Glob
import Recap.Programs.Tool.Name

/-!
# Files and directories

## Contents
- `Deeds`, `forEach` — programs that do something with each of their operands.
- `walk` — all that is below a directory.
- `ls`, `find` — show what is there.
- `mkdir`, `rmdir`, `rm`, `touch`, `chmod` — make and remove.
- `cp`, `mv` — copy and move.
-/

namespace Recap.Tool

open Recap.Shell
open Machine (Fault Kind Path)

/-- What a program has said so far, and whether something went wrong. -/
structure Deeds where
  out : String
  err : String

/-- Notes a complaint. -/
def Deeds.complain (d : Deeds) (message : String) : Deeds := { d with err := d.err ++ message ++ "\n" }

/-- Does something with each operand. -/
def forEach (j : Job) (code : Nat) (operands : List String) (act : Deeds → String → Running Deeds) :
    Running Output := do
  let d ← operands.foldlM act { out := "", err := "" }
  return { out := Text.bytes d.out, err := Text.bytes d.err, rest := j.input
           status := .exited (if d.err.isEmpty then 0 else code) }

/-- Ends because an operand is missing. -/
def missingOperand (j : Job) (program what : String) : Running Output :=
  return .failed 1 (program ++ ": missing " ++ what ++ "\nTry '" ++ program ++
    " --help' for more information.\n") j.input

/-- How deep directories can be nested. -/
def treeLimit : Nat := 200

/-- A path below another. -/
def below (above name : String) : String := if above.endsWith "/" then above ++ name else above ++ "/" ++ name

/-- All that is at a path and below it, each directory before what is in it. -/
def walk (j : Job) : Nat → String → Running (List (String × Kind))
  | 0, _ => return []
  | depth + 1, path => do
    match ← (Call.look (j.path path)).ask with
    | .error _ => return []
    | .ok .directory =>
      match ← (Call.names (j.path path)).ask with
      | .error _ => return [(path, .directory)]
      | .ok names =>
        let inside ← names.mapM fun name => walk j depth (below path name)
        return (path, .directory) :: inside.flatten
    | .ok kind => return [(path, kind)]

/-! ## Showing -/

/-- Shows what is in directories. -/
def ls : Program := withOptions
  { program := "ls", plain := "aA1drFpCxhtSUNQRl", refusal := 2
    names := [("all", 'a'), ("almost-all", 'A'), ("directory", 'd'), ("reverse", 'r')] }
  fun o j => do
    let ordered (names : List String) : List String := if o.has 'r' then names.reverse else names
    let marked (path name : String) : Running String := do
      if o.has 'F' || o.has 'p' then
        match ← (Call.look (j.path (below path name))).ask with
        | .ok .directory => return name ++ "/\n"
        | _ => return name ++ "\n"
      else return name ++ "\n"
    let inside (path : String) : Running String := do
      match ← (Call.names (j.path path)).ask with
      | .error _ => return ""
      | .ok names =>
        let shown := names.filter fun n => !n.startsWith "." || o.has 'a' || o.has 'A'
        let all := ordered ((if o.has 'a' then [".", ".."] else []) ++ shown)
        return String.join (← all.mapM (marked path))
    let operands := ordered ((if o.operands.isEmpty then ["."] else o.operands).mergeSort (· ≤ ·))
    let mut err := ""
    let mut files := ""
    let mut directories := []
    for operand in operands do
      match ← (Call.look (j.path operand)).ask with
      | .error fault => err := err ++ "ls: cannot access " ++ Text.namedAlways operand ++ ": " ++ fault.phrase ++ "\n"
      | .ok .directory =>
        if o.has 'd' then files := files ++ operand ++ "\n" else directories := directories ++ [operand]
      | .ok _ => files := files ++ operand ++ "\n"
    let mut out := files
    for directory in directories do
      if !out.isEmpty then out := out ++ "\n"
      if o.operands.length > 1 then out := out ++ directory ++ ":\n"
      out := out ++ (← inside directory)
    return { out := Text.bytes out, err := Text.bytes err, rest := j.input
             status := .exited (if err.isEmpty then 0 else 2) }

/-- What is looked for. -/
structure Wanted where
  name : Option Regex
  path : Option Regex
  kind : Option Char
  least : Nat
  most : Option Nat
  removes : Bool

/-- Reads what is looked for; the word that is not understood. -/
def Wanted.read : List String → Wanted → Except String Wanted
  | [], w => .ok w
  | "-name" :: pattern :: rest, w =>
    read rest { w with name := some (Regex.ofGlyphs ⟨false, true, false⟩ (pattern.toList.map (⟨·, false⟩))) }
  | "-path" :: pattern :: rest, w =>
    read rest { w with path := some (Regex.ofGlyphs ⟨false, true, false⟩ (pattern.toList.map (⟨·, false⟩))) }
  | "-type" :: kind :: rest, w => read rest { w with kind := kind.toList.head? }
  | "-maxdepth" :: n :: rest, w => read rest { w with most := natOf? n }
  | "-mindepth" :: n :: rest, w => read rest { w with least := (natOf? n).getD 0 }
  | "-print" :: rest, w => read rest w
  | "-delete" :: rest, w => read rest { w with removes := true }
  | word :: _, _ => .error word

/-- Whether something is wanted. -/
def Wanted.holds (w : Wanted) (top : String) (path : String) (kind : Kind) : Bool :=
  let depth := path.toList.count '/' - top.toList.count '/'
  let fits (r : Option Regex) (s : String) : Bool := (r.map (·.fitsText s)).getD true
  let kindHolds := match w.kind, kind with
    | none, _ => true
    | some 'f', .file .. | some 'd', .directory | some 'c', .device => true
    | some _, _ => false
  fits w.name (lastName path) && fits w.path path && kindHolds && w.least ≤ depth &&
    (w.most.map fun n => decide (depth ≤ n)).getD true

/-- Shows all files of a kind. -/
def find : Program := fun j => do
  let tops := j.arguments.takeWhile fun a => !a.startsWith "-"
  match Wanted.read (j.arguments.drop tops.length)
      { name := none, path := none, kind := none, least := 0, most := none, removes := false } with
  | .error word => return .failed 1 ("find: unknown predicate '" ++ word ++ "'\n") j.input
  | .ok w =>
    forEach j 1 (if tops.isEmpty then ["."] else tops) fun d top => do
      match ← (Call.look (j.path top)).ask with
      | .error fault => return d.complain ("find: " ++ Text.namedAlways top ++ ": " ++ fault.phrase)
      | .ok _ =>
        let found := (← walk j treeLimit top).filter fun (path, kind) => w.holds top path kind
        if w.removes then
          for (path, kind) in found.reverse do
            let _ ← match kind with
              | .directory => (Call.removeDirectory (j.path path)).ask
              | _ => (Call.removeFile (j.path path)).ask
          return d
        else return { d with out := d.out ++ String.join (found.map fun (path, _) => path ++ "\n") }

/-! ## Making and removing -/

/-- Makes directories. -/
def mkdir : Program := withOptions
  { program := "mkdir", plain := "pv", valued := "m", names := [("parents", 'p'), ("mode", 'm')] }
  fun o j =>
    if o.operands.isEmpty then missingOperand j "mkdir" "operand"
    else forEach j 1 o.operands fun d operand => do
      let made ← if o.has 'p' then (Call.makeDirectories (j.path operand)).ask
        else (Call.makeDirectory (j.path operand)).ask
      match made with
      | .ok () => return d
      | .error fault =>
        return d.complain ("mkdir: cannot create directory " ++ Text.namedAlways operand ++ ": " ++ fault.phrase)

/-- Removes directories that are empty. -/
def rmdir : Program := withOptions { program := "rmdir", plain := "pv" } fun o j =>
  if o.operands.isEmpty then missingOperand j "rmdir" "operand"
  else forEach j 1 o.operands fun d operand => do
    match ← (Call.removeDirectory (j.path operand)).ask with
    | .ok () => return d
    | .error fault => return d.complain ("rmdir: failed to remove " ++ Text.namedAlways operand ++ ": " ++ fault.phrase)

/-- Removes all that is at a path and below it. -/
def removeAll (j : Job) (path : String) : Running (Except Fault Unit) := do
  let mut result := .ok ()
  for (inner, kind) in (← walk j treeLimit path).reverse do
    let removed ← match kind with
      | .directory => (Call.removeDirectory (j.path inner)).ask
      | _ => (Call.removeFile (j.path inner)).ask
    match removed with
    | .ok () => pure ()
    | .error fault => result := .error fault
  return result

/-- Removes files, and directories where an option asks for it. -/
def rm : Program := withOptions
  { program := "rm", plain := "frRivd", names := [("force", 'f'), ("recursive", 'r'), ("dir", 'd')] }
  fun o j =>
    if o.operands.isEmpty && !o.has 'f' then missingOperand j "rm" "operand"
    else forEach j 1 o.operands fun d operand => do
      let refuse (fault : Fault) : Deeds :=
        d.complain ("rm: cannot remove " ++ Text.namedAlways operand ++ ": " ++ fault.phrase)
      match ← (Call.look (j.path operand)).ask with
      | .error fault =>
        return if o.has 'f' && (fault == .notFound || fault == .notDirectory) then d else refuse fault
      | .ok .directory =>
        if o.has 'r' || o.has 'R' then
          match ← removeAll j operand with
          | .ok () => return d
          | .error fault => return refuse fault
        else return refuse .isDirectory
      | .ok _ =>
        match ← (Call.removeFile (j.path operand)).ask with
        | .ok () => return d
        | .error fault => return refuse fault

/-- Makes files that are not there. -/
def touch : Program := withOptions { program := "touch", plain := "acm", valued := "drt" } fun o j =>
  if o.operands.isEmpty then missingOperand j "touch" "file operand"
  else forEach j 1 o.operands fun d operand => do
    match ← (Call.look (j.path operand)).ask with
    | .ok _ => return d
    | .error .notFound =>
      if o.has 'c' then return d
      else
        match ← (Call.writeBytes (j.path operand) [] true).ask with
        | .ok () => return d
        | .error fault => return d.complain ("touch: cannot touch " ++ Text.namedAlways operand ++ ": " ++ fault.phrase)
    | .error fault => return d.complain ("touch: cannot touch " ++ Text.namedAlways operand ++ ": " ++ fault.phrase)

/-- The bits of a letter for those whom a change is for. -/
def whoMask : Char → Nat
  | 'u' => 0o700
  | 'g' => 0o070
  | 'o' => 0o007
  | _ => 0o777

/-- The bits of a letter for what may be done, for everyone. -/
def rightBits? (mode : Nat) : Char → Option Nat
  | 'r' => some 0o444
  | 'w' => some 0o222
  | 'x' => some 0o111
  | 'X' => some (if mode &&& 0o111 != 0 then 0o111 else 0)
  | 's' | 't' => some 0
  | 'u' => some ((mode / 64 % 8) * 0o111)
  | 'g' => some ((mode / 8 % 8) * 0o111)
  | 'o' => some ((mode % 8) * 0o111)
  | _ => none

/-- Who may do what after one change, such as `u+x`; nothing where it is not understood. -/
def changedMode? (mode : Nat) (change : List Char) : Option Nat := do
  let who := change.takeWhile "ugoa".toList.contains
  let masked := if who.isEmpty then 0o777 else who.foldl (fun m c => m ||| whoMask c) 0
  match change.drop who.length with
  | sign :: letters =>
    let rights ← letters.foldlM (fun bits c => do return bits ||| (← rightBits? mode c)) 0
    let bits := rights &&& masked &&& (if who.isEmpty then 0o755 else 0o777)
    match sign with
    | '+' => some (mode ||| bits)
    | '-' => some (mode &&& (0o7777 ^^^ bits))
    | '=' => some ((mode &&& (0o7777 ^^^ masked)) ||| bits)
    | _ => none
  | [] => none

/-- Who may do what after changes; nothing where they are not understood. -/
def newMode? (mode : Nat) (spec : String) : Option Nat :=
  if !spec.isEmpty && spec.toList.all fun c => '0' ≤ c && c ≤ '7' then
    some (spec.toList.foldl (fun n c => n * 8 + (c.toNat - '0'.toNat)) 0 % 0o10000)
  else (spec.splitOn ",").foldlM (fun m change => changedMode? m change.toList) mode

/-- Says who may do what with files. -/
def chmod : Program := fun j =>
  let isOption (a : String) : Bool := ["-R", "-v", "-f", "-c", "--"].contains a
  match j.arguments.filter (!isOption ·) with
  | [] => missingOperand j "chmod" "operand"
  | [mode] => missingOperand j "chmod" ("operand after " ++ Text.quoted mode)
  | spec :: files =>
    if (newMode? 0 spec).isNone then
      return .failed 1 ("chmod: invalid mode: " ++ Text.quoted spec ++
        "\nTry 'chmod --help' for more information.\n") j.input
    else forEach j 1 files fun d operand => do
      let paths ← if j.arguments.contains "-R" then do
          pure ((← walk j treeLimit operand).map (·.1))
        else pure [operand]
      match ← (Call.look (j.path operand)).ask with
      | .error fault => return d.complain ("chmod: cannot access " ++ Text.namedAlways operand ++ ": " ++ fault.phrase)
      | .ok _ =>
        for path in paths do
          match ← (Call.look (j.path path)).ask with
          | .ok (.file _ mode) =>
            let _ ← (Call.setMode (j.path path) ((newMode? mode spec).getD mode)).ask
          | _ => pure ()
        return d

/-! ## Copying and moving -/

/-- Copies all that is at a path to another. -/
def copyAll (j : Job) (source target : String) : Running (Except Fault Unit) := do
  let mut result := .ok ()
  for (inner, kind) in ← walk j treeLimit source do
    let there := target ++ String.ofList (inner.toList.drop source.length)
    let copied ← match kind with
      | .directory =>
        match ← (Call.look (j.path there)).ask with
        | .ok .directory => pure (.ok ())
        | _ => (Call.makeDirectory (j.path there)).ask
      | _ =>
        match ← (Call.readBytes (j.path inner)).ask with
        | .error fault => pure (.error fault)
        | .ok bytes =>
          let written ← (Call.writeBytes (j.path there) bytes false).ask
          match kind with
          | .file _ mode =>
            let _ ← (Call.setMode (j.path there) mode).ask
          | _ => pure ()
          pure written
    match copied with
    | .ok () => pure ()
    | .error fault => result := .error fault
  return result

/-- Brings files to another place; directories only where `recursive`, and what was there is removed
    where `moves`. -/
def transfer (program verb : String) (recursive moves : Bool) (o : Options) : Program := fun j => do
  match o.operands.reverse with
  | [] => missingOperand j program "file operand"
  | [only] =>
    return .failed 1 (program ++ ": missing destination file operand after " ++ Text.namedAlways only ++ "\nTry '" ++
      program ++ " --help' for more information.\n") j.input
  | target :: sources =>
    let isDirectory := match ← (Call.look (j.path target)).ask with
      | .ok .directory => true
      | _ => false
    if sources.length > 1 && !isDirectory then
      return .failed 1 (program ++ ": target " ++ Text.namedAlways target ++ ": Not a directory\n") j.input
    forEach j 1 sources.reverse fun d source => do
      match ← (Call.look (j.path source)).ask with
      | .error fault => return d.complain (program ++ ": cannot stat " ++ Text.namedAlways source ++ ": " ++ fault.phrase)
      | .ok kind =>
        if kind == .directory && !recursive then
          return d.complain (program ++ ": -r not specified; omitting directory " ++ Text.namedAlways source)
        else
          let there := if isDirectory then below target (lastName source) else target
          if (j.path source).place == (j.path there).place then
            return d.complain (program ++ ": " ++ Text.namedAlways source ++ " and " ++ Text.namedAlways there ++
              " are the same file")
          else
            match ← copyAll j source there with
            | .error fault =>
              return d.complain (program ++ ": cannot " ++ verb ++ " " ++ Text.namedAlways there ++ ": " ++ fault.phrase)
            | .ok () =>
              if moves then
                let _ ← removeAll j source
              return d

/-- Copies files. -/
def cp : Program := withOptions
  { program := "cp", plain := "rRafpvnud", names := [("recursive", 'r'), ("archive", 'a'), ("force", 'f')] }
  fun o => transfer "cp" "create regular file" (o.has 'r' || o.has 'R' || o.has 'a') false o

/-- Moves files. -/
def mv : Program := withOptions { program := "mv", plain := "fvnu", names := [("force", 'f')] } fun o =>
  transfer "mv" "move to" true true o

end Recap.Tool
