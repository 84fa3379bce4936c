import Recap.Programs.Shell.Start
import Recap.Programs.Tool.Columns
import Recap.Programs.Tool.Copy
import Recap.Programs.Tool.Count
import Recap.Programs.Tool.Difference
import Recap.Programs.Tool.Dump
import Recap.Programs.Tool.Edit.Run
import Recap.Programs.Tool.Ends
import Recap.Programs.Tool.Environment
import Recap.Programs.Tool.Expression
import Recap.Programs.Tool.Factor
import Recap.Programs.Tool.Files
import Recap.Programs.Tool.Merge
import Recap.Programs.Tool.Paragraph
import Recap.Programs.Tool.Repetition
import Recap.Programs.Tool.Rules.Run
import Recap.Programs.Tool.Search
import Recap.Programs.Tool.Sequence
import Recap.Programs.Tool.Tabs
import Recap.Programs.Tool.Translate
import Recap.Programs.Tool.WordList

/-!
# Starting programs

Programs for a machine in memory, so that command lines can be tried out on it from beginning to end. Nothing
that is said of engines, hosts and commands is about them: to these a program is whatever the machine makes
of a call to start it (`Machine.Call.start`).

## Contents
- `tools`, `starters`, `shells` — the programs that there are.
- `findProgram` — the paths of programs.
- `launchWithin` — programs by their names and paths.
- `carryOut` — starts a program and waits for its end.
-/

namespace Recap.Shell

open Machine (Ending Fault Invocation Kind Path)

/-- The programs that write digests, by their names. -/
def digestTools : List (String × Program) :=
  Tool.digestKinds.map fun (name, label, digest) =>
    let program := if name == "blake2b" then "b2sum" else name ++ "sum"
    (program, Tool.digestProgram program label digest)

/-- The programs that run by themselves. -/
def tools : List (String × Program) :=
  digestTools ++
  [("[", Tool.test .program "[: " true), ("base32", Tool.base32), ("base64", Tool.base64),
    ("basename", Tool.basename), ("basenc", Tool.basenc), ("cat", Tool.cat), ("chmod", Tool.chmod),
    ("cksum", Tool.cksum), ("cmp", Tool.cmp), ("comm", Tool.comm), ("cp", Tool.cp), ("cut", Tool.cut),
    ("diff", Tool.diff), ("dirname", Tool.dirname), ("echo", Tool.echo .program),
    ("egrep", Tool.grepAs true false), ("expand", Tool.expand), ("expr", Tool.expr), ("factor", Tool.factor),
    ("false", Tool.failing), ("fgrep", Tool.grepAs false true), ("find", Tool.find), ("fmt", Tool.fmt),
    ("fold", Tool.fold), ("grep", Tool.grep), ("head", Tool.head), ("join", Tool.join), ("ls", Tool.ls),
    ("mkdir", Tool.mkdir), ("mv", Tool.mv), ("nl", Tool.nl), ("od", Tool.od), ("paste", Tool.paste),
    ("printenv", Tool.printenv), ("printf", Tool.printf .program "printf: "), ("pwd", Tool.pwd),
    ("rev", Tool.rev), ("rm", Tool.rm), ("rmdir", Tool.rmdir), ("sed", Tool.sed), ("seq", Tool.seq),
    ("sleep", Tool.sleep), ("sort", Tool.sort), ("sum", Tool.sum), ("tac", Tool.tac), ("tail", Tool.tail),
    ("tee", Tool.tee), ("test", Tool.test .program "test: " false), ("touch", Tool.touch), ("tr", Tool.tr),
    ("true", Tool.succeed), ("uname", Tool.uname), ("unexpand", Tool.unexpand), ("uniq", Tool.uniq),
    ("wc", Tool.wc), ("whoami", Tool.whoami), ("yes", Tool.yes)]

/-- The programs that start others. -/
def starters : List (String × (Programs → Program)) :=
  [("awk", Tool.awk "awk"), ("env", Tool.env), ("mawk", Tool.awk "mawk"), ("nice", Tool.nice),
    ("nohup", Tool.nohup), ("setsid", Tool.setsid), ("stdbuf", Tool.stdbuf), ("timeout", Tool.timeout), ("xargs", Tool.xargs)]

/-- The names that shells go by. -/
def shells : List (String × Flavour) :=
  [("bash", .enlarged), ("dash", .plain), ("sh", .plain)]

/-- Whether there is a program of a name. -/
def isProgram (name : String) : Bool :=
  (tools.lookup name).isSome || (starters.lookup name).isSome || (shells.lookup name).isSome

/-- Runs a program of a name; `path` is what it was asked for by. -/
def runByName (programs : Programs) (path name : String) : Program :=
  match shells.lookup name, starters.lookup name, tools.lookup name with
  | some flavour, _, _ => shell programs flavour path
  | none, some starter, _ => starter programs
  | none, none, some tool => tool
  | none, none, none => fun j => return .ended 127 j.input

/-- The longest name of a file. -/
def nameLimit : Nat := 255

/-- The name of the program that the names on the way to it lead to. -/
def programAtPlace? : List String → Option String
  | ["bin", name] | ["usr", "bin", name] => if isProgram name then some name else none
  | _ => none

/-- The name of the program that a path leads to. -/
def programAt? (p : Path) : Option String :=
  if (p.segments.getLast?.map Path.isIdle).getD true then none else programAtPlace? p.place

/-- Whether a path leads beyond a program, as if it were a directory. -/
def leadsThroughProgram (p : Path) : Bool :=
  (List.range (p.place.length + 1)).any fun n => (programAtPlace? (p.place.take n)).isSome

/-- Whether a file may be run by anyone. -/
def isRunnable (mode : Nat) : Bool := mode &&& 0o111 != 0

/-- Why what is at a path cannot be run, if it cannot. -/
def whyNot? (p : Path) : Running (Option Fault) := do
  if (programAt? p).isSome then return none
  else if leadsThroughProgram p then return some .notDirectory
  else
    match ← (Call.look p).ask with
    | .ok (.file _ mode) => return if isRunnable mode then none else some .denied
    | .ok _ => return some .denied
    | .error fault => return some fault

/-- Where programs are looked for, if nothing else is said. -/
def usualSearchPath : String := "/bin:/usr/bin"

/-- The first of some directories in which a program of a name is. -/
def searchIn (j : Job) (name : String) : List String → Fault → Running (Except Fault String)
  | [], fault => return .error fault
  | directory :: more, fault => do
    let path := if directory.isEmpty then name else directory ++ "/" ++ name
    match ← whyNot? (j.path path) with
    | none => return .ok path
    | some .denied => searchIn j name more .denied
    | some _ => searchIn j name more fault

/-- The path of the program that a name or path leads to. -/
def findProgram (j : Job) (name : String) : Running (Except Fault String) := do
  if name.toList.contains '/' then
    match ← whyNot? (j.path name) with
    | none => return .ok name
    | some fault => return .error fault
  else if name.isEmpty then return .error .notFound
  else if name == "." || name == ".." then return .error .denied
  else if nameLimit < name.utf8ByteSize then return .error .nameTooLong
  else searchIn j name (((j.bindings.lookup "PATH").getD usualSearchPath).splitOn ":") .notFound

/-- The program that the first line of a script asks for, and the argument that it is to be given. -/
def interpreter? (bytes : Bytes) : Option (String × Option String) :=
  match bytes with
  | 35 :: 33 :: rest =>
    let isBlank (c : Char) : Bool := c == ' ' || c == '\t'
    let line := (Text.decode (rest.takeWhile (· != newline))).toList.dropWhile isBlank
    let line := (line.reverse.dropWhile isBlank).reverse
    let program := line.takeWhile (!isBlank ·)
    let argument := (line.drop program.length).dropWhile isBlank
    if program.isEmpty then none
    else some (String.ofList program, if argument.isEmpty then none else some (String.ofList argument))
  | _ => none

/-- Starts a program by its name or path; a file that is no program is given to the program of another
    name, if there is one. Programs can be started by programs, to a depth. -/
def launchWithin : Nat → Option String → String → Job → Running (Except Fault Output)
  | 0, _, _, _ => return .error .denied
  | depth + 1, other, name, j => do
    let programs : Programs := { find := findProgram, launch := launchWithin depth }
    if name.toList.contains '\x00' || j.arguments.any (·.toList.contains '\x00') then
      return .error .unsayable
    match ← findProgram j name with
    | .error fault => return .error fault
    | .ok path =>
      match programAt? (j.path path) with
      | some program => return .ok (← runByName programs name program j)
      | none =>
        match ← (Call.readBytes (j.path path)).ask with
        | .error fault => return .error fault
        | .ok bytes =>
          match interpreter? bytes, other with
          | some (program, argument), _ =>
            launchWithin depth none program { j with arguments := argument.toList ++ path :: j.arguments }
          | none, some program =>
            launchWithin depth none program { j with arguments := path :: j.arguments }
          | none, none => return .error .notProgram

/-- How many programs can have been started by each other. -/
def startLimit : Nat := 40

/-- The variables that programs are handed at first. -/
def usualVariables : List (String × String) :=
  [("HOME", "/root"), ("PATH", "/usr/local/sbin:/usr/local/bin:/usr/sbin:/usr/bin:/sbin:/bin")]

/-- Starts a program, and waits for its end. -/
def carryOut (i : Invocation) : Running (Except Fault Ending) := do
  let directory ← Call.workingDirectory.ask
  let ended ← launchWithin startLimit none i.program
    { arguments := i.arguments, input := i.input, inputIsFile := false, directory, bindings := usualVariables }
  return ended.map fun o => { out := o.out, err := o.err, status := o.status }

end Recap.Shell
