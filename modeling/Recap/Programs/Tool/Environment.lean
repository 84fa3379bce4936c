import Recap.Programs.Tool.Start

/-!
# Programs started with other variables

## Contents
- `Splitting`, `splitWords` — the words of a text that stands for arguments.
- `spellOut` — arguments with such words in their places.
- `env` — starts a program with other variables, or shows them.
-/

namespace Recap.Tool

open Recap.Shell

/-! ## Words of a text -/

/-- Words of a text that have been found. -/
structure Splitting where
  /-- The words, the last first. -/
  words : List String := []
  /-- The characters of the word at the end, if it goes on. -/
  current? : Option (List Char) := none
  /-- The quote that is open. -/
  quote? : Option Char := none

namespace Splitting

/-- Begins a word, if there is none. -/
def begin' (s : Splitting) : Splitting := { s with current? := some (s.current?.getD []) }

/-- Adds characters to the word. -/
def add (s : Splitting) (cs : List Char) : Splitting := { s with current? := some (s.current?.getD [] ++ cs) }

/-- Ends the word. -/
def endWord (s : Splitting) : Splitting :=
  match s.current? with
  | some cs => { s with words := String.ofList cs :: s.words, current? := none }
  | none => s

/-- Ends the text. -/
def finish (s : Splitting) : Except String (List String) :=
  if s.quote?.isSome then .error "no terminating quote in -S string" else .ok s.endWord.words.reverse

end Splitting

/-- The name behind a dollar and between braces, and the rest. -/
def takeName? (cs : List Char) : Option (String × List Char) :=
  match cs with
  | '\x7b' :: more =>
    let name := more.takeWhile fun c => c.isAlphanum || c == '_'
    match name, more.drop name.length with
    | c :: _, '\x7d' :: rest => if c.isDigit then none else some (String.ofList name, rest)
    | _, _ => none
  | _ => none

/-- The words of a text. Quotes keep blanks in words, backslashes write characters, and variables are named
    between braces. `fuel` is more than the number of characters. -/
def splitFrom (bindings : List (String × String)) : Nat → List Char → Splitting → Except String (List String)
  | 0, _, s | _, [], s => s.finish
  | fuel + 1, c :: cs, s =>
    let go (s : Splitting) (rest : List Char) : Except String (List String) := splitFrom bindings fuel rest s
    let double := s.quote? == some '"'
    let single := s.quote? == some '\''
    match c with
    | '\'' => if double then go (s.add [c]) cs else go { s.begin' with quote? := if single then none else some c } cs
    | '"' => if single then go (s.add [c]) cs else go { s.begin' with quote? := if double then none else some c } cs
    | '#' => if s.current?.isNone && s.quote?.isNone then s.finish else go (s.add [c]) cs
    | '\\' =>
      match cs with
      | [] => if single then go (s.add [c]) cs else .error "invalid backslash at end of string in -S"
      | d :: rest =>
        if single && d != '\\' && d != '\'' then go (s.add [c]) cs
        else if "\"#$'\\".toList.contains d then go (s.add [d]) rest
        else
          match d with
          | '_' => if double then go (s.add [' ']) rest else go s.endWord rest
          | 'c' => if double then .error "'\\c' must not appear in double-quoted -S string" else s.finish
          | 'f' => go (s.add ['\x0c']) rest
          | 'n' => go (s.add ['\n']) rest
          | 'r' => go (s.add ['\r']) rest
          | 't' => go (s.add ['\t']) rest
          | 'v' => go (s.add ['\x0b']) rest
          | _ => .error ("invalid sequence '\\" ++ d.toString ++ "' in -S")
    | '$' =>
      if single then go (s.add [c]) cs
      else
        match takeName? cs with
        | none => .error ("only $\x7bVARNAME\x7d expansion is supported, error at: " ++ String.ofList (c :: cs))
        | some (name, rest) =>
          match bindings.lookup name with
          | some value => go (s.add value.toList) rest
          | none => go s rest
    | _ =>
      if (c == ' ' || ('\t' ≤ c && c ≤ '\r')) && s.quote?.isNone then go s.endWord cs else go (s.add [c]) cs

/-- The words of a text. -/
def splitWords (bindings : List (String × String)) (text : String) : Except String (List String) :=
  splitFrom bindings (text.length + 1) text.toList {}

/-! ## Arguments -/

/-- Arguments with the words of texts that stand for arguments in their places. `fuel` is more than the number
    of arguments that there can be. -/
def spellOut (bindings : List (String × String)) : Nat → List String → Except String (List String)
  | 0, arguments => .ok arguments
  | _, [] => .ok []
  | fuel + 1, argument :: rest => do
    let kept (count : Nat) : Except String (List String) := do
      return argument :: rest.take count ++ (← spellOut bindings fuel (rest.drop count))
    let spelled (before : List String) (text : String) (rest : List String) : Except String (List String) := do
      return before ++ (← spellOut bindings fuel ((← splitWords bindings text) ++ rest))
    match argument.toList with
    | '-' :: '-' :: name =>
      if name.isEmpty then return argument :: rest
      else if argument == "--split-string" then spelled [] (rest.headD "") (rest.drop 1)
      else if argument.startsWith "--split-string=" then
        spelled [] (String.ofList (name.drop "split-string=".length)) rest
      else if argument == "--unset" || argument == "--chdir" then kept 1
      else kept 0
    | '-' :: letters@(_ :: _) =>
      let plain := letters.takeWhile "i0v".toList.contains
      let before := if plain.isEmpty then [] else [String.ofList ('-' :: plain)]
      match letters.drop plain.length with
      | ['S'] => if rest.isEmpty then return argument :: rest else spelled before (rest.headD "") (rest.drop 1)
      | 'S' :: text => spelled before (String.ofList text) rest
      | ['u'] | ['C'] => kept 1
      | _ => kept 0
    | _ => return argument :: rest

/-! ## Variables -/

/-- The variables that arguments set, and what comes after them. -/
def takeVariables : List String → List (String × String) × List String
  | [] => ([], [])
  | argument :: rest =>
    let name := argument.toList.takeWhile (· != '=')
    match argument.toList.drop name.length with
    | _ :: value =>
      let (more, rest) := takeVariables rest
      ((String.ofList name, String.ofList value) :: more, rest)
    | [] => ([], argument :: rest)

/-- Sets a variable among others. -/
def setAmong (bindings : List (String × String)) (v : String × String) : List (String × String) :=
  if bindings.any (·.1 == v.1) then bindings.map fun w => if w.1 == v.1 then v else w
  else bindings ++ [v]

/-- Starts a program with other variables, or in another directory. -/
def startWith (programs : Programs) (o : Options) (command : List String) (j : Job) : Running Output := do
  let words (name : String) : String := "env: " ++ Text.quoted name
  match o.value? 'C' with
  | none =>
    let ended ← handOver programs words j command
    let isSplit := (command.headD "").toList.any fun c => c == ' ' || ('\t' ≤ c && c ≤ '\r')
    let hint := if ended.status == .exited 127 && isSplit then
      Text.bytes "env: use -[v]S to pass options in shebang lines\n" else []
    return { ended with err := ended.err ++ hint }
  | some name =>
    let refuse (why : String) : Running Output :=
      j.refuse 125 ("env: cannot change directory to " ++ Text.quoted name ++ ": " ++ why)
    match ← (Call.look (j.path name)).ask with
    | .ok .directory => handOver programs words { j with directory := j.path name } command
    | .ok _ => refuse Machine.Fault.notDirectory.phrase
    | .error fault => refuse fault.phrase

/-- Starts a program with other variables; without one, shows them. -/
def env (programs : Programs) : Program := fun j =>
  let run := withOptions
    { program := "env", plain := "i0v", valued := "uCS", attached := "%", refusal := 125, mixed := false
      names := [("ignore-environment", 'i'), ("unset", 'u'), ("chdir", 'C'), ("null", '0'), ("split-string", 'S'), ("debug", 'v'),
        ("block-signal", '%'), ("default-signal", '%'), ("ignore-signal", '%')] }
    fun o j => do
      let operands := if o.operands.head? == some "-" then o.operands.drop 1 else o.operands
      let (set, command) := takeVariables operands
      let first := if o.has 'i' || o.operands.head? == some "-" then [] else j.bindings
      let bindings := set.foldl setAmong (first.filter fun v => !(o.values 'u').contains v.1)
      match (o.values 'u').find? fun name => name.isEmpty || name.contains '=' with
      | some name => j.refuse 125 ("env: cannot unset " ++ Text.quoted name ++ ": Invalid argument")
      | none =>
        if o.has '0' && !command.isEmpty then j.refuse 125 (hinted "env" "cannot specify --null (-0) with command")
        else if o.has 'C' && command.isEmpty then
          j.refuse 125 (hinted "env" "must specify command with --chdir (-C)")
        else if command.isEmpty then
          return .said (endedTexts o (bindings.map fun (n, v) => n ++ "=" ++ v)) j.input
        else startWith programs o command { j with bindings }
  match spellOut j.bindings (j.arguments.length + (j.arguments.map String.length).foldl (· + ·) 0 + 1) j.arguments with
  | .ok arguments => run { j with arguments }
  | .error flaw => j.refuse 125 ("env: " ++ flaw)

end Recap.Tool
