import Recap.Programs.Shell.Expansion

/-!
# Redirecting channels, and scripts line by line

A script is carried out one line after the other, so that lines before one that cannot be read have
their effects.

## Contents
- `openFile` — streams of files.
- `redirect` — lets a channel lead somewhere else.
- `withRedirects` — does something while channels lead somewhere else.
- `Manner`, `misreadLines`, `runText` — a text carried out as a script, and what is said if it cannot be read.
-/

namespace Recap.Shell

open Act
open Machine (Fault Kind Path)

/-- Why a file could not be opened, in words. -/
def faultText (flavour : Flavour) (reading : Bool) (fault : Fault) : String :=
  match flavour, fault with
  | .plain, .notFound | .plain, .notDirectory =>
    if reading then "No such file" else "Directory nonexistent"
  | _, fault => fault.phrase

/-- Complains about a file that could not be opened. -/
def refuseFile (name : String) (how : Opening) (fault : Fault) : Act Unit := do
  let flavour := (← get).flavour
  let what := faultText flavour (how == .read) fault
  match flavour with
  | .plain =>
    refuse 2 ((if how == .read then "cannot open " else "cannot create ") ++ name ++ ": " ++ what)
  | .enlarged => refuse 1 (name ++ ": " ++ what)

/-- The stream of a file, or why there is none. -/
def openFile (path : Path) (how : Opening) : Act (Except Fault Nat) := do
  let put (stream : Stream) : Act (Except Fault Nat) := do
    let (number, s) := (← get).addStream stream
    set s
    return .ok number
  match channelOf? path with
  | some channel =>
    match (← get).channels.lookup channel with
    | some number => return .ok number
    | none => return .error .notFound
  | none =>
    match how with
    | .read =>
      match ← ask (.readBytes path) with
      | .ok bytes => put (.source bytes true)
      | .error fault => return .error fault
    | .write =>
      match ← ask (.writeBytes path [] false) with
      | .ok () => put (.file path)
      | .error fault => return .error fault
    | .append | .both =>
      match ← ask (.writeBytes path [] true) with
      | .ok () => put (.file path)
      | .error fault => return .error fault

/-- Lets a channel lead to a file; whether that went well. -/
def redirectToFile (channel : Nat) (how : Opening) (name : String) : Act Bool := do
  match ← openFile (← pathOf name) how with
  | .ok number =>
    modify fun s => s.connect channel number
    return true
  | .error fault =>
    refuseFile name how fault
    return false

/-- Lets a channel lead somewhere else; whether that went well. -/
def redirect (perform : Perform) : Redirect → Act Bool
  | .file channel how target => do redirectToFile channel how (← expandText perform target)
  | .copy channel target => do
    let name ← expandText perform target
    if name == "-" then
      modify fun s => s.disconnect channel
      return true
    else if !name.isEmpty && name.toList.all Char.isDigit then
      let other := name.toList.foldl (fun n d => n * 10 + (d.toNat - '0'.toNat)) 0
      match (← get).channels.lookup other with
      | some number =>
        modify fun s => s.connect channel number
        return true
      | none =>
        refuse (← abortCode) (name ++ ": Bad file descriptor")
        return false
    else if (← get).flavour == .plain then abort "Syntax error: Bad fd number"
    else if ← redirectToFile channel .write name then
      match (← get).channels.lookup channel with
      | some number => modify fun s => s.connect 2 number
      | none => pure ()
      return true
    else return false
  | .document channel number => do
    let word := ((← get).documents.lookup number).getD []
    openSource channel (Text.bytes (← expandText perform word)) true
    return true
  | .word channel w => do
    openSource channel (Text.bytes (← expandText perform w) ++ [newline]) true
    return true

/-- Lets channels lead somewhere else, one after the other, until that fails; whether it did not. -/
def redirectAll (perform : Perform) : List Redirect → Act Bool
  | [] => return true
  | r :: rs => do if ← redirect perform r then redirectAll perform rs else return false

/-- Does something while channels lead somewhere else; whether they could be made to. -/
def withRedirects (perform : Perform) (rs : List Redirect) (act : Act Unit) : Act Bool := do
  let channels := (← get).channels
  thenAlways
    (do if ← redirectAll perform rs then (do act; return true) else return false)
    (modify fun s => { s with channels })

/-! ## Scripts -/

/-- How a text is carried out as a script. -/
structure Manner where
  /-- What stands between the name of the shell and the line in complaints about the text. -/
  front : String
  /-- Whether the next line follows one that was given up. -/
  goesOn : Bool
  /-- Whether a text that cannot be read ends only itself. -/
  isInner : Bool

/-- A text that is a command's argument. -/
def Manner.inner (command : String) : Manner := ⟨command ++ ": ", false, true⟩

/-- What is said about a script that cannot be read, in the larger language: lines with the front of
    complaints before each. -/
def misreadLines (source : String) (firstLine : Nat) (m : Misreading) : List String :=
  let shown := "\x60" ++ ((source.splitOn "\n")[m.line - firstLine]?.getD "") ++ "'"
  match m.flaw with
  | .token text => ["syntax error near unexpected token \x60" ++ text ++ "'", shown]
  | .ending => ["syntax error: unexpected end of file"]
  | .unclosed sign => ["unexpected EOF while looking for matching \x60" ++ sign ++ "'"]
  | .near cause text => cause.toList ++ ["syntax error near \x60" ++ text ++ "'", shown]
  | .other => ["syntax error: " ++ m.message]

/-- Complains about a script that cannot be read, and ends it. -/
def misread (manner : Manner) (source : String) (firstLine : Nat) (m : Misreading) : Act Unit := do
  modify fun s => { s with line := m.line, lineOffset := 0 }
  let s ← get
  setStatus 2
  match s.flavour with
  | .plain =>
    complain ((if manner.isInner then manner.front else "") ++ "Syntax error: " ++ m.message)
    throw .script
  | .enlarged =>
    let front := s.speaker ++ ": " ++ manner.front ++ "line " ++ Nat.repr m.line ++ ": "
    write 2 (Text.bytes ((misreadLines source firstLine m).foldl (fun t l => t ++ front ++ l ++ "\n") ""))
    if !manner.isInner then throw .script

/-- Carries out what is left of a script line by line. `fuel` is more than the number of characters. -/
def runReading (perform : Perform) (manner : Manner) (firstLine : Nat) : Nat → Reading → Act Unit
  | 0, _ => return
  | fuel + 1, r => do
    if r.isOver then return
    let r := { r with grouped := (← get).switches.contains "extglob" }
    match nextLine r with
    | .error m => misread manner r.source firstLine m
    | .ok (command, r) =>
      modify fun s => { s with documents := r.documents }
      match command with
      | some c =>
        tryCatch (perform (.run c)) fun
          | .line => if manner.goesOn then pure () else throw .line
          | l => throw l
      | none => pure ()
      runReading perform manner firstLine fuel r

/-- Carries a text out as a script. -/
def runText (perform : Perform) (manner : Manner) (text : String) (line : Nat) : Act Unit := do
  let s ← get
  runReading perform manner line (text.length + 2) (.ofText (s.flavour == .enlarged) text line s.documents)

end Recap.Shell
