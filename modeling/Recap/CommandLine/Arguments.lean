import Recap.Machine.Path

/-!
# Arguments

The words of a command line are read level by level: options before the name of a command, then the
options and words of that command. Options have a long and often a short form; short ones can share a
hyphen, and a value can be attached. No option comes twice at a level, and no value is empty.

## Contents
- `Flag`, `Item`, `readLevel` — options and words of one level.
- `ConfigAction`, `Command`, `Invocation`, `Request` — what can be asked for.
- `Request.parse?` — what the words of a command line ask for.
-/

namespace Recap.CommandLine

open Machine (Path)

/-! ## Levels -/

/-- An option. -/
structure Flag where
  long : String
  short : Option Char
  takesValue : Bool
  /-- Whether nothing after it matters. -/
  stops : Bool
  deriving DecidableEq, Repr

/-- What was read at a level. -/
inductive Item where
  | flag (name : String)
  | value (name value : String)
  | word (text : String)
  deriving DecidableEq, Repr

/-- The name of an option that was read. -/
def Item.name? : Item → Option String
  | .flag name | .value name _ => some name
  | .word _ => none

/-- What an argument holds: items, the option whose value comes next, and whether to stop. -/
structure Reading where
  items : List Item
  awaits : Option String
  stops : Bool
  deriving DecidableEq, Repr

/-- A flag that was read. -/
def Reading.ofFlag (f : Flag) : Reading := { items := [.flag f.long], awaits := none, stops := f.stops }

/-- An option whose value comes next. -/
def Reading.awaiting (f : Flag) : Reading := { items := [], awaits := some f.long, stops := false }

/-- An option with its value, which is not empty. -/
def Reading.ofValue? (f : Flag) (value : List Char) : Option Reading :=
  if value.isEmpty then none
  else some { items := [.value f.long (String.ofList value)], awaits := none, stops := false }

/-- Reads an option in its long form, without the hyphens. -/
def readLong (flags : List Flag) (cs : List Char) : Option Reading := do
  let name := String.ofList (cs.takeWhile (· ≠ '='))
  let f ← flags.find? (·.long == name)
  match cs.dropWhile (· ≠ '=') with
  | [] => return if f.takesValue then .awaiting f else .ofFlag f
  | _ :: value => if f.takesValue then Reading.ofValue? f value else none

/-- Reads options in their short forms, without the hyphen. -/
def readShort (flags : List Flag) : List Char → Option Reading
  | [] => some { items := [], awaits := none, stops := false }
  | c :: cs => do
    let f ← flags.find? (·.short == some c)
    if f.takesValue then
      match cs with
      | [] => return .awaiting f
      | '=' :: value => Reading.ofValue? f value
      | value => Reading.ofValue? f value
    else if f.stops then return .ofFlag f
    else
      let r ← readShort flags cs
      return { r with items := .flag f.long :: r.items }

/-- Reads an argument. A lone hyphen is a word. -/
def readArgument (flags : List Flag) (argument : String) : Option Reading :=
  match argument.toList with
  | '-' :: '-' :: cs => readLong flags cs
  | '-' :: c :: cs => readShort flags (c :: cs)
  | _ => some { items := [.word argument], awaits := none, stops := false }

/-- Whether an argument cannot be a value that stands by itself. -/
def isHyphened (argument : String) : Bool := argument.length > 1 && argument.startsWith "-"

/-- The words that were read. -/
def wordsOf (items : List Item) : List String :=
  items.filterMap fun
    | .word text => some text
    | _ => none

/-- What the words of a level are. -/
inductive Words where
  /-- The name of a command, which ends the level. -/
  | commands
  /-- At most so many words, none of which is empty. -/
  | atMost (count : Nat)
  deriving DecidableEq, Repr

/-- Whether a level can have words. -/
def Words.allow (w : Words) (words : List String) : Bool :=
  match w with
  | .commands => words.isEmpty
  | .atMost n => words.length ≤ n && words.all (!·.isEmpty)

/-- Items with more behind them, unless an option comes twice or a word is too many. -/
def addItems (w : Words) (items more : List Item) : Option (List Item) :=
  let all := items ++ more
  if (all.filterMap Item.name?).Nodup && w.allow (wordsOf all) then some all else none

/-- Reads the arguments of a level. At a level with commands the first word ends it; the words from
    there on are left. What comes first and is not understood ends the reading, even if help is asked for
    behind it. -/
def readLevel (flags : List Flag) (w : Words) :
    List String → List Item → Option (List Item × List String)
  | [], items => some (items, [])
  | argument :: rest, items => do
    if argument == "--" then return (← addItems w items (rest.map .word), [])
    else if w == .commands && !isHyphened argument then return (items, argument :: rest)
    else
      let r ← readArgument flags argument
      match r.awaits with
      | none =>
        let items ← addItems w items r.items
        if r.stops then some (items, []) else readLevel flags w rest items
      | some name =>
        match rest with
        | [] => none
        | value :: rest =>
          if isHyphened value || value.isEmpty then none
          else readLevel flags w rest (← addItems w items (r.items ++ [.value name value]))

/-- Whether a flag was read. -/
def hasFlag (items : List Item) (name : String) : Bool := items.contains (.flag name)

/-- The path that an option was given. -/
def path? (items : List Item) (name : String) : Option Path :=
  items.findSome? fun
    | .value n v => if n == name then some (.ofText v) else none
    | _ => none

/-! ## Commands -/

/-- What to do with the settings. -/
inductive ConfigAction where
  | display
  | validate
  | create
  deriving DecidableEq, Repr

/-- A command. -/
inductive Command where
  /-- Make a project. -/
  | init
  /-- Summarize a chat; maybe only if that is due. -/
  | compact (chat : Path) (onlyIfDue : Bool)
  /-- Show the state of a chat; maybe as a document. -/
  | status (chat : Path) (asDocument : Bool)
  /-- Show what goes into the prompt. -/
  | context (chat : Path)
  | exportRecord (chat : Path) (output : Option Path)
  | importRecord (chat input : Path)
  | config (action : ConfigAction)
  deriving DecidableEq, Repr

/-- A command and where to run it. -/
structure Invocation where
  /-- The directory of the project, if it is not the one that the command is run in. -/
  project : Option Path
  verbose : Bool
  command : Command
  deriving DecidableEq, Repr

/-- What can be asked for. -/
inductive Request where
  | version
  | help
  | run (i : Invocation)
  deriving DecidableEq, Repr

/-! ## Reading commands -/

/-- An option that asks for help. -/
def helpFlag : Flag := { long := "help", short := some 'h', takesValue := false, stops := true }

/-- The options that every level has. -/
def sharedFlags : List Flag :=
  [{ long := "verbose", short := some 'v', takesValue := false, stops := false },
    { long := "project-dir", short := none, takesValue := true, stops := false }, helpFlag]

/-- The option that asks for the version. -/
def versionFlag : Flag := { long := "version", short := some 'V', takesValue := false, stops := true }

/-- The option that names a chat. -/
def chatFlag : Flag := { long := "chat", short := some 'c', takesValue := true, stops := false }

/-- The option that asks for a document. -/
def jsonFlag : Flag := { long := "json", short := none, takesValue := false, stops := false }

/-- The option that names a file to write. -/
def outputFlag : Flag := { long := "output", short := some 'o', takesValue := true, stops := false }

/-- The number of words that a command takes. -/
def wordCount (name : String) : Nat := if name == "import" then 1 else 0

/-- The options of a command, if there is one of that name. -/
def flagsOf? : String → Option (List Flag)
  | "init" | "config" => some []
  | "compact" | "auto" | "context" | "import" => some [chatFlag]
  | "status" => some [chatFlag, jsonFlag]
  | "export" => some [chatFlag, outputFlag]
  | _ => none

/-- What is to be done with the settings. -/
def actionOf? : String → Option ConfigAction
  | "show" => some .display
  | "validate" => some .validate
  | "init" => some .create
  | _ => none

/-- The command of a name with its options and words; those it needs must be there, and no others. -/
def commandOf? (name : String) (items : List Item) : Option Command := do
  let chat := path? items chatFlag.long
  match name, wordsOf items with
  | "init", [] => return .init
  | "compact", [] => return .compact (← chat) false
  | "auto", [] => return .compact (← chat) true
  | "status", [] => return .status (← chat) (hasFlag items jsonFlag.long)
  | "context", [] => return .context (← chat)
  | "export", [] => return .exportRecord (← chat) (path? items outputFlag.long)
  | "import", [input] => return .importRecord (← chat) (.ofText input)
  | _, _ => none

/-- The options that levels share; those of the inner level go first. -/
def invocation (outer inner : List Item) (command : Command) : Invocation :=
  { project := (path? inner "project-dir").or (path? outer "project-dir")
    verbose := hasFlag outer "verbose" || hasFlag inner "verbose"
    command }

/-- Whether there is help on a part of the command for the settings. -/
def isConfigTopic : List String → Bool
  | [] => true
  | "help" :: names => isConfigTopic names
  | name :: names => (actionOf? name).isSome && names.isEmpty

/-- Whether there is help on a command, or on a part of it. -/
def isTopic : List String → Bool
  | [] => true
  | "help" :: names => isTopic names
  | "config" :: names => isConfigTopic names
  | name :: names => (flagsOf? name).isSome && names.isEmpty

/-- Reads what follows the name of the command for the settings. -/
def parseConfig? (outer : List Item) (arguments : List String) : Option Request := do
  let (items, rest) ← readLevel sharedFlags .commands arguments []
  if hasFlag items helpFlag.long then return .help
  let (action, inner) ← match rest with
    | [] => pure (ConfigAction.display, [])
    | name :: arguments => do
      if name == "help" then
        if isConfigTopic arguments then return .help else none
      let action ← actionOf? name
      let (inner, _) ← readLevel sharedFlags (.atMost 0) arguments []
      pure (action, inner)
  if hasFlag inner helpFlag.long then return .help
  let i := invocation items inner (.config action)
  return .run { i with project := i.project.or (path? outer "project-dir")
                       verbose := i.verbose || hasFlag outer "verbose" }

/-- What the words of a command line ask for; nothing where they are not understood. -/
def Request.parse? (arguments : List String) : Option Request := do
  let (outer, rest) ← readLevel (versionFlag :: sharedFlags) .commands arguments []
  if hasFlag outer versionFlag.long then return .version
  if hasFlag outer helpFlag.long then return .help
  match rest with
  | [] => none
  | "help" :: names => if isTopic names then return .help else none
  | "config" :: arguments => parseConfig? outer arguments
  | name :: arguments =>
    let flags ← flagsOf? name
    let (inner, _) ← readLevel (flags ++ sharedFlags) (.atMost (wordCount name)) arguments []
    if hasFlag inner helpFlag.long then return .help
    return .run (invocation outer inner (← commandOf? name inner))

end Recap.CommandLine
