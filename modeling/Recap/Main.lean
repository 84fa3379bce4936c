import Recap.CommandLine.Run
import Recap.Programs.Shell.Run
import Std.Time.DateTime.Timestamp

/-!
# The program

The command line on the machine it is run on. From here no programs of that machine can be started; those of
`Recap.Shell` stand in for them, and have its files.

## Contents
- `shellAnswer`, `answer` — the answers of the machine, to programs and to the command line.
- `main` — the program.
-/

namespace Recap.Main

open Machine (Call Fault Path)

/-- Why something was refused. -/
def faultOf : IO.Error → Fault
  | .noFileOrDirectory .. => .notFound
  | .permissionDenied .. => .denied
  | .alreadyExists .. => .taken
  | .inappropriateType _ 21 _ => .isDirectory
  | .inappropriateType .. => .notDirectory
  | .invalidArgument _ 36 _ => .nameTooLong
  | e => .other (toString e)

/-- What came of something that can be refused. -/
def attempt {α : Type} (act : IO α) : IO (Except Fault α) := do
  try
    return .ok (← act)
  catch e =>
    return .error (faultOf e)

/-- An id at random. -/
def freshId : IO String := do
  let digits := (← IO.getRandomBytes 16).toList.flatMap fun b =>
    [Disk.hexDigit (b.toNat / 16), Disk.hexDigit (b.toNat % 16)].map Char.toLower
  let part (start size : Nat) : String := String.ofList ((digits.drop start).take size)
  return "-".intercalate [part 0 8, part 8 4, "4" ++ part 13 3, "a" ++ part 17 3, part 20 12]

/-- What is at a path. -/
def look (path : Path) : IO Machine.Kind := do
  let metadata ← ((← IO.currentDir) / path.text).metadata
  match metadata.type with
  | .dir => return .directory
  | .file => return .file metadata.byteSize.toNat 0o644
  | _ => return .device

/-- Writes bytes, in place of what may be there or behind it. -/
def writeBytes (path : Path) (bytes : List UInt8) (append : Bool) : IO Unit := do
  let handle ← IO.FS.Handle.mk path.text (if append then .append else .write)
  handle.write (ByteArray.mk bytes.toArray)

/-- The names in a directory, in order. -/
def names (path : Path) : IO (List String) := do
  let entries ← ((← IO.currentDir) / path.text).readDir
  return (entries.toList.map (·.fileName)).mergeSort (· ≤ ·)

/-- Who may do what, by three bits. -/
def rightsOf (bits : Nat) : IO.AccessRight :=
  { read := bits.testBit 2, write := bits.testBit 1, execution := bits.testBit 0 }

/-- Says who may do what with a file. -/
def setMode (path : Path) (mode : Nat) : IO Unit :=
  IO.setAccessRights path.text
    { user := rightsOf (mode / 64), group := rightsOf (mode / 8), other := rightsOf mode }

/-- The time, in milliseconds since the beginning of 1970. -/
def now : IO Int64 := return .ofInt (← Std.Time.Timestamp.now).toMillisecondsSinceUnixEpoch.val

/-- The answers of the machine to programs. -/
def shellAnswer : (c : Shell.Call) → IO c.Answer
  | .now => now
  | .workingDirectory => return .ofText (← IO.currentDir).toString
  | .look path => attempt (look path)
  | .readBytes path => attempt do return (← IO.FS.readBinFile path.text).toList
  | .writeBytes path bytes append => attempt (writeBytes path bytes append)
  | .names path => attempt (names path)
  | .makeDirectory path => attempt (IO.FS.createDir path.text)
  | .makeDirectories path => attempt (IO.FS.createDirAll path.text)
  | .removeFile path => attempt (IO.FS.removeFile path.text)
  | .removeDirectory path => attempt (IO.FS.removeDir path.text)
  | .setMode path mode => attempt (setMode path mode)

/-- The answers of the machine. -/
def answer : (c : Call) → IO c.Answer
  | .now => now
  | .freshId => freshId
  | .isThere path => do return ← ((← IO.currentDir) / path.text).pathExists
  | .readText path => attempt (IO.FS.readFile path.text)
  | .writeText path text => attempt (IO.FS.writeFile path.text text)
  | .makeDirectories path => attempt (IO.FS.createDirAll path.text)
  | .removeFile path => attempt (IO.FS.removeFile path.text)
  | .start i => (Shell.carryOut i).carryOn shellAnswer
  | .print text => IO.print text
  | .complain text => IO.eprint text

end Recap.Main

/-- Runs the command line. -/
def main (arguments : List String) : IO UInt32 := do
  let home := Recap.Machine.Path.ofText (← IO.currentDir).toString
  let variableCommand ← IO.getEnv Recap.commandVariable
  let code ← (Recap.CommandLine.run home variableCommand arguments).carryOn Recap.Main.answer
  return code.toUInt32
