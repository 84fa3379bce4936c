/-!
# Commands of the shell

A script is made of commands. Commands have words, and words have parts: signs that stand for
themselves, and parameters, commands and sums whose values take their places.

## Contents
- `Part`, `Modifier` — the parts of words.
- `Assignment`, `Redirect` — what commands set, and where they read and write.
- `Test` — conditions.
- `Command` — commands.
-/

namespace Recap.Shell

/-- What becomes of a parameter that is not set. -/
inductive Fallback where
  /-- A word is used. -/
  | use
  /-- A word is used, and the parameter set to it. -/
  | assign
  /-- The script ends with a word as its complaint. -/
  | refuse
  /-- A word is used if the parameter is set. -/
  | instead
  deriving DecidableEq

/-- How a file is opened. -/
inductive Opening where
  | read
  | write
  | append
  /-- Made if it is not there, but not emptied. -/
  | both
  deriving DecidableEq

/-- Where a pattern is replaced. -/
inductive Spread where
  | once
  | everywhere
  | atFront
  | atEnd
  deriving DecidableEq

/-- What follows a choice that was carried out. -/
inductive AfterChoice where
  /-- Nothing. -/
  | stop
  /-- The next choice, whether it fits or not. -/
  | fallThrough
  /-- The next choice that fits. -/
  | lookOn
  deriving DecidableEq

mutual

/-- A part of a word. Values of parts that are not quoted are split at blanks. -/
inductive Part where
  | text (s : String) (quoted : Bool)
  /-- A parameter, or what a table has under a key. -/
  | parameter (name : String) (key : Option (List Part)) (m : Modifier) (quoted : Bool)
  | command (c : Command) (quoted : Bool)
  | arithmetic (sum : List Part) (quoted : Bool)
  /-- The name of a file that holds what a command writes, or, where `fed`, that a command reads. -/
  | process (c : Command) (fed : Bool)
  /-- A key between brackets, behind the name of a table that is set. -/
  | key (w : List Part)
  /-- The values of a table between parentheses, some of which have keys. -/
  | table (items : List (Option (List Part) × List Part))

/-- What is made of the value of a parameter. -/
inductive Modifier where
  | plain
  | length
  /-- Another word, if it is not set or, where `emptyToo`, if it is empty. -/
  | fallback (how : Fallback) (emptyToo : Bool) (word : List Part)
  /-- Without the shortest or longest piece at one end that fits a pattern. -/
  | trimmed (atEnd longest : Bool) (pattern : List Part)
  /-- A piece of it, from an offset on. -/
  | piece (offset : List Part) (length : Option (List Part))
  /-- With another word in the place of a pattern. -/
  | replaced (spread : Spread) (pattern word : List Part)
  /-- In capital or small letters, the first or all, where they fit a pattern. -/
  | cased (upper all : Bool) (pattern : List Part)
  /-- In another form, which a letter stands for. -/
  | converted (letter : Char)
  /-- The keys of a table. -/
  | keys
  /-- The names of the variables that begin with it. -/
  | names
  /-- The parameter that it is the name of. -/
  | indirect (m : Modifier)
  /-- Nothing that can be understood, as it is written. -/
  | bad (source : String)

/-- Something that is set. -/
inductive Assignment where
  | mk (name : String) (key : Option (List Part)) (adds : Bool) (value : List Part)

/-- Where a channel of a command leads. -/
inductive Redirect where
  | file (channel : Nat) (how : Opening) (target : List Part)
  /-- Where another channel leads, or nowhere for a hyphen. -/
  | copy (channel : Nat) (target : List Part)
  /-- To a text in the script. -/
  | document (channel : Nat) (number : Nat)
  /-- To a word. -/
  | word (channel : Nat) (word : List Part)

/-- A condition on words. -/
inductive Test where
  | unary (sign : String) (w : List Part)
  | binary (sign : String) (a b : List Part)
  | negate (t : Test)
  | both (a b : Test)
  | either (a b : Test)

/-- A command. -/
inductive Command where
  | nothing
  | simple (line : Nat) (assignments : List Assignment) (words : List (List Part))
      (redirects : List Redirect)
  | sequence (cs : List Command)
  /-- Each reads what the one before it writes. -/
  | pipe (cs : List Command)
  | negate (c : Command)
  | both (a b : Command)
  | either (a b : Command)
  | background (c : Command)
  | subshell (c : Command)
  | redirected (c : Command) (redirects : List Redirect)
  | choose (test yes no : Command)
  /-- Repeated while a test goes well, or until it does. -/
  | loop (untilTrue : Bool) (test body : Command)
  /-- Repeated for words, or for the parameters of the script. -/
  | each (line : Nat) (name : String) (words : Option (List (List Part))) (body : Command)
  /-- Repeated while a sum is not zero, with a sum before the first round and one after each. -/
  | count (line : Nat) (first test step : List Part) (body : Command)
  /-- The first that has a pattern which a word fits. -/
  | select (line : Nat) (word : List Part) (choices : List (List (List Part) × Command × AfterChoice))
  | define (line : Nat) (name : String) (body : Command)
  | condition (line : Nat) (t : Test)
  | sum (line : Nat) (w : List Part)

end

/-- A word. -/
abbrev Word := List Part

/-- The text of a word that is written without any quotes. -/
def bareText? : Word → Option String
  | [.text s false] => some s
  | _ => none

/-- The commands one after the other. -/
def Command.andThen : Command → Command → Command
  | .nothing, b => b
  | .sequence as, b => .sequence (as ++ [b])
  | a, b => .sequence [a, b]

/-! ## Names -/

/-- Whether a name can start with a character. -/
def startsName (c : Char) : Bool := c.isAlpha || c == '_'

/-- Whether a name can go on with a character. -/
def continuesName (c : Char) : Bool := c.isAlphanum || c == '_'

/-- Whether a text can be the name of a variable. -/
def isName (s : String) : Bool :=
  match s.toList with
  | [] => false
  | c :: cs => startsName c && cs.all continuesName

/-- The signs that are parameters by themselves. -/
def isSpecialParameter (c : Char) : Bool := "@*#?-$!0".toList.contains c

end Recap.Shell
