import Recap.Programs.Tool.Number
import Recap.Programs.Tool.Options

/-!
# Names, and small answers

## Contents
- `basename`, `dirname` — parts of paths.
- `pwd`, `whoami`, `uname`, `printenv` — where and who one is, and what is known.
- `intervalOf?`, `sleep` — waiting.
- `succeed`, `failing` — ending well or badly.
-/

namespace Recap.Tool

open Recap.Shell

/-! ## Parts of paths -/

/-- A text without slashes at its end. -/
def dropSlashes (s : String) : String := String.ofList (s.toList.reverse.dropWhile (· == '/')).reverse

/-- What stands behind the last slash. -/
def lastName (path : String) : String :=
  let trimmed := dropSlashes path
  if trimmed.isEmpty then (if path.isEmpty then "" else "/")
  else String.ofList (trimmed.toList.reverse.takeWhile (· != '/')).reverse

/-- A name without an ending, unless it is nothing else. -/
def dropEnding (ending name : String) : String :=
  if name != ending && name.endsWith ending then
    String.ofList (name.toList.take (name.length - ending.length))
  else name

/-- What stands before the last slash. -/
def directoryOf (path : String) : String :=
  let trimmed := dropSlashes path
  let above := String.ofList (trimmed.toList.reverse.dropWhile (· != '/')).reverse
  if trimmed.isEmpty then (if path.isEmpty then "." else "/")
  else if above.isEmpty then "."
  else if (dropSlashes above).isEmpty then "/"
  else dropSlashes above

/-- Texts with what ends each of them. -/
def endedTexts (o : Options) (texts : List String) : String :=
  String.join (texts.map fun t => t ++ (if o.has 'z' || o.has '0' then "\x00" else "\n"))

/-- Writes the last names of paths. -/
def basename : Program := withOptions
  { program := "basename", plain := "az", valued := "s", mixed := false
    names := [("multiple", 'a'), ("suffix", 's'), ("zero", 'z')] }
  fun o j => do
    let write (ending : String) (paths : List String) : Running Output :=
      return .said (endedTexts o (paths.map fun p => dropEnding ending (lastName p))) j.input
    match o.operands, o.has 'a' || o.has 's' with
    | [], _ => j.refuse 1 (hinted "basename" "missing operand")
    | paths, true => write ((o.value? 's').getD "") paths
    | [p], false => write "" [p]
    | [p, ending], false => write ending [p]
    | _ :: _ :: extra :: _, false => j.refuse 1 (hinted "basename" ("extra operand " ++ Text.quoted extra))

/-- Writes the directories of paths. -/
def dirname : Program := withOptions { program := "dirname", plain := "z", mixed := false, names := [("zero", 'z')] }
  fun o j => do
    if o.operands.isEmpty then j.refuse 1 (hinted "dirname" "missing operand")
    else return .said (endedTexts o (o.operands.map directoryOf)) j.input

/-! ## Small answers -/

/-- Writes the directory that it runs in. -/
def pwd : Program := withOptions
  { program := "pwd", plain := "LP", names := [("logical", 'L'), ("physical", 'P')] }
  fun o j => do
    let err := if o.operands.isEmpty then "" else "pwd: ignoring non-option arguments\n"
    return { Output.said (j.directory.text ++ "\n") j.input with err := Text.bytes err }

/-- Writes who runs it. -/
def whoami : Program := withOptions { program := "whoami" } fun o j => do
  match o.operands with
  | [] => return .said "root\n" j.input
  | extra :: _ => j.refuse 1 (hinted "whoami" ("extra operand " ++ Text.quoted extra))

/-- Writes what system it runs on. -/
def uname : Program := withOptions
  { program := "uname", plain := "asnrvmpio"
    names := [("all", 'a'), ("kernel-name", 's'), ("sysname", 's'), ("nodename", 'n'), ("kernel-release", 'r'),
      ("release", 'r'), ("kernel-version", 'v'), ("machine", 'm'), ("processor", 'p'), ("hardware-platform", 'i'),
      ("operating-system", 'o')] }
  fun o j => do
    match o.operands with
    | extra :: _ => j.refuse 1 (hinted "uname" ("extra operand " ++ Text.quoted extra))
    | [] =>
      let answers := [('s', "Linux"), ('m', "x86_64"), ('p', "unknown"), ('i', "unknown"), ('o', "GNU/Linux")]
      let wanted := if o.given.isEmpty then ['s'] else o.given.map (·.1)
      let shown := answers.filter fun e => wanted.contains e.1 || (wanted.contains 'a' && e.2 != "unknown")
      return .said (" ".intercalate (shown.map (·.2)) ++ "\n") j.input

/-- Ends well. -/
def succeed : Program := fun j => return .ended 0 j.input

/-- Ends badly. -/
def failing : Program := fun j => return .ended 1 j.input

/-- Writes variables that it was handed. -/
def printenv : Program := withOptions
  { program := "printenv", plain := "0", refusal := 2, mixed := false, names := [("null", '0')] }
  fun o j => do
    match o.operands with
    | [] => return .said (endedTexts o (j.bindings.map fun (n, v) => n ++ "=" ++ v)) j.input
    | names =>
      let values := names.map fun n => j.bindings.lookup n
      return { Output.said (endedTexts o (values.filterMap id)) j.input with
               status := .exited (if values.all (·.isSome) then 0 else 1) }

/-! ## Waiting -/

/-- The milliseconds of what lasts forever. -/
def forever : Nat := Decimal.pow10 15

/-- The milliseconds of an interval, rounded up. -/
def intervalOf? (text : String) : Option Nat :=
  match takeWritten? (text.toList.dropWhile Char.isWhitespace) with
  | none => none
  | some (x, unit) =>
    let factor? : Option Nat := match unit with
      | [] | ['s'] => some 1
      | ['m'] => some 60
      | ['h'] => some 3600
      | ['d'] => some 86400
      | _ => none
    match factor?, x.size, Decimal.Written.quotient? x.size with
    | none, _, _ | _, .notANumber, _ => none
    | some _, _, none => if x.negative then none else some forever
    | some factor, _, some (num, den) =>
      if x.negative && num != 0 then none else some (min forever ((num * 1000 * factor + den - 1) / den))

/-- Waits. -/
def sleep : Program := withOptions { program := "sleep" } fun o j => do
  match o.operands.filter fun a => (intervalOf? a).isNone with
  | bad :: more =>
    let complaint (text : String) : String := "invalid time interval " ++ Text.quoted text
    j.refuse 1 (hinted "sleep" ((more.map fun text => "\nsleep: " ++ complaint text).foldl (· ++ ·) (complaint bad)))
  | [] =>
    if o.operands.isEmpty then j.refuse 1 (hinted "sleep" "missing operand")
    else
      j.wake ((o.operands.filterMap intervalOf?).foldl (· + ·) 0) (.ended 0 j.input)

end Recap.Tool
