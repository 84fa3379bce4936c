import Recap.Programs.Shell.RegexText
import Recap.Programs.Tool.Options

/-!
# Scripts that edit lines

A script is a list of steps. Each has a command, and may say which lines the command is for. The
characters of scripts and lines are bytes.

## Contents
- `Address`, `Selector` — the lines that a step is for.
- `Substitution` — a pattern, and what takes its place.
- `Action`, `Step` — commands and steps.
- `normalized` — characters that are written with backslashes.
- `readScript`, `lacksPattern` — reading scripts, and whether they can be run.
-/

namespace Recap.Tool.Edit

open Recap.Shell

/-! ## Steps -/

/-- A line. -/
inductive Address where
  | line (n : Nat)
  | last
  /-- A line that a pattern fits; without one, the pattern that was used last. -/
  | fits (r : Option Regex)
  /-- Every so many lines from a first one on. -/
  | every (first step : Nat)

/-- Where a range of lines ends. -/
inductive Extent where
  | upTo (a : Address)
  /-- After so many lines more. -/
  | lines (count : Nat)
  /-- At the next line whose number is a multiple. -/
  | multiple (n : Nat)

/-- The lines that a step is for. -/
structure Selector where
  first : Option Address
  extent : Option Extent
  negated : Bool

/-- A piece of what takes the place of a pattern. -/
inductive Piece where
  | text (s : String)
  /-- What a group was, or with number zero the whole. -/
  | group (n : Nat)
  /-- What follows is written in other letters. -/
  | letters (how : Char)

/-- A pattern, and what takes its place. -/
structure Substitution where
  pattern : Option Regex
  pieces : List Piece
  /-- The first place that counts. -/
  nth : Nat
  all : Bool
  prints : Bool
  file : Option String

/-- A command. -/
inductive Action where
  /-- The steps up to the matching end, by their number. -/
  | block (size : Nat)
  | nothing
  | print
  | printFirst
  | delete
  | deleteFirst
  | quit (code : Nat) (prints : Bool)
  | number
  /-- In visible signs, on lines of a length; nothing if the usual length is meant. -/
  | list (width : Option Nat)
  | fileName
  | append (text : String)
  | insert (text : String)
  | change (text : String)
  | exchange (pairs : List (Char × Char))
  | next
  | join
  | hold
  | holdMore
  | get
  | getMore
  | swap
  | empty
  | substitute (s : Substitution)
  /-- Goes on at a label, or with the next line: always, after a replacement, or after none. -/
  | jump (label : String) (replaced : Option Bool)
  | label (name : String)
  | readFile (name : String)
  /-- Reads a line of a file, each time another. -/
  | readLine (name : String)
  | writeFile (name : String)
  | writeFirst (name : String)

/-- A step. -/
structure Step where
  selector : Selector
  edit : Action

/-! ## Reading -/

/-- What is wrong with a script, and what was left of it; nothing if the place does not matter. -/
structure Misreading where
  rest : Option (List Char) := none
  message : String
  /-- The status to end with; the place is told only for the usual one. -/
  status : Nat := 1

/-- Reads a script. -/
abbrev Reader := StateT (List Char) (Except Misreading)

/-- Complains about the script. -/
def fail {α : Type} (message : String) : Reader α := fun cs => .error { rest := some cs, message }

/-- Takes a character. -/
def take? : Reader (Option Char) := do
  match ← get with
  | [] => return none
  | c :: cs =>
    set cs
    return some c

/-- Leaves out characters. -/
def skipWhile (p : Char → Bool) : Reader Unit := modify (·.dropWhile p)

/-- Blanks within a line. -/
def isBlank (c : Char) : Bool := c == ' ' || c == '\t'

/-- A number. -/
def takeNumber? : Reader (Option Nat) := do
  let digits := (← get).takeWhile Char.isDigit
  modify (·.drop digits.length)
  return natOf? (String.ofList digits)

/-- Characters up to a sign. A backslash takes the sign's meaning, and in patterns it has none between
    brackets. `fuel` is at least the number of characters. -/
def takeUntil? (sign : Char) (inPattern : Bool) : Nat → Bool → List Char → Reader (Option (List Char))
  | 0, _, _ => return none
  | fuel + 1, inBrackets, done => do
    match ← take? with
    | none => return none
    | some c =>
      if inBrackets then
        let after ← get
        let s := after.headD ' '
        match if c == '[' && ":.=".toList.contains s then Regex.beforeClosing? s (after.drop 1) else none with
        | some (inner, rest) =>
          set rest
          takeUntil? sign inPattern fuel true (']' :: s :: inner.reverse ++ s :: '[' :: done)
        | none => takeUntil? sign inPattern fuel (c != ']') (c :: done)
      else if c == sign then return some done.reverse
      else if c == '\\' then
        match ← take? with
        | none => return none
        | some d =>
          if d == sign then takeUntil? sign inPattern fuel false (d :: done)
          else takeUntil? sign inPattern fuel false (d :: '\\' :: done)
      else if c == '\n' && inPattern then return none
      else if c == '\n' then
        modify ('\n' :: ·)
        return none
      else if c == '[' && inPattern then
        let first := (← get).takeWhile (· == '^')
        let after := (← get).drop first.length
        let closing := if after.head? == some ']' then [']'] else []
        set (after.drop closing.length)
        takeUntil? sign inPattern fuel true (closing ++ first ++ c :: done)
      else takeUntil? sign inPattern fuel false (c :: done)

/-- Characters up to a sign. -/
def takePart (sign : Char) (inPattern : Bool) (complaint : String) : Reader (List Char) := do
  match ← takeUntil? sign inPattern ((← get).length + 1) false [] with
  | some cs => return cs
  | none => fail complaint

/-- The number that up to some digits in a base are, and what comes after them. -/
def takeCode (base most : Nat) (cs : List Char) : Option (Nat × List Char) :=
  let value (c : Char) : Nat :=
    if c.isDigit then c.toNat - '0'.toNat
    else if 'a' ≤ c.toLower && c.toLower ≤ 'f' then c.toLower.toNat - 'a'.toNat + 10
    else 99
  let digits := (cs.take most).takeWhile fun c => value c < base
  if digits.isEmpty then none
  else some (digits.foldl (fun n c => n * base + value c) 0 % 256, cs.drop digits.length)

/-- The character that a letter behind a backslash stands for, and what comes after it; also whether it
    was given by its number. -/
def takeEscape? : List Char → Option (Char × Bool × List Char)
  | 'c' :: c :: cs => some (Char.ofNat (c.toUpper.toNat ^^^ 64), true, cs)
  | 'd' :: cs => (takeCode 10 3 cs).map fun (n, rest) => (Char.ofNat n, true, rest)
  | 'o' :: cs => (takeCode 8 3 cs).map fun (n, rest) => (Char.ofNat n, true, rest)
  | 'x' :: cs => (takeCode 16 2 cs).map fun (n, rest) => (Char.ofNat n, true, rest)
  | c :: cs => (Regex.escapedLetter? c).map fun x => (x, false, cs)
  | [] => none

/-- Characters with those in the places of what is written for them. Where `guarded` holds of one that was
    given by its number, it keeps a backslash before it. `fuel` is at least the number of characters. -/
def normalized (guarded : Char → Bool) : Nat → List Char → List Char
  | 0, cs => cs
  | _, [] => []
  | fuel + 1, '\\' :: cs =>
    match takeEscape? cs with
    | some (c, numbered, rest) =>
      (if numbered && guarded c then ['\\', c] else [c]) ++ normalized guarded fuel rest
    | none => '\\' :: cs.take 1 ++ normalized guarded fuel (cs.drop 1)
  | fuel + 1, c :: cs => c :: normalized guarded fuel cs

/-- How patterns are written here. -/
def dialect (extended ignoreCase byLine : Bool) : Dialect :=
  { extended, ignoreCase, byLine, repeatsAgain := extended, strayBounds := .refused
    strayRepeat := if extended then .refused else .literal }

/-- The pattern of a text; an empty one is the pattern that was used last. -/
def patternOf (extended ignoreCase byLine : Bool) (cs : List Char) : Reader (Option Regex) := do
  if cs.isEmpty then return none
  let cs := normalized (fun _ => false) cs.length cs
  match Regex.ofText (dialect extended ignoreCase byLine) (String.ofList cs) with
  | .ok r => if Regex.misplacesClass none cs then throw { message := Regex.misplacedClass, status := 4 } else return some r
  | .error flaw => fail flaw.message

/-- A pattern as an address, after its opening sign. -/
def takeFits (extended : Bool) (sign : Char) : Reader Address := do
  let cs ← takePart sign true "unterminated address regex"
  let flags := (← get).takeWhile fun c => c == 'I' || c == 'M'
  modify (·.drop flags.length)
  return .fits (← patternOf extended (flags.contains 'I') (flags.contains 'M') cs)

/-- An address. -/
def takeAddress? (extended : Bool) : Reader (Option Address) := do
  match ← get with
  | '$' :: cs =>
    set cs
    return some .last
  | '/' :: cs =>
    set cs
    return some (← takeFits extended '/')
  | '\\' :: sign :: cs =>
    set cs
    return some (← takeFits extended sign)
  | _ =>
    match ← takeNumber? with
    | none => return none
    | some n =>
      match ← get with
      | '~' :: cs =>
        set cs
        return some (.every n ((← takeNumber?).getD 0))
      | _ => return some (.line n)

/-- Where a range of lines ends. -/
def takeExtent (extended : Bool) : Reader Extent := do
  match ← get with
  | '+' :: cs =>
    set cs
    return .lines ((← takeNumber?).getD 0)
  | '~' :: cs =>
    set cs
    return .multiple ((← takeNumber?).getD 0)
  | _ =>
    match ← takeAddress? extended with
    | some a => return .upTo a
    | none =>
      let _ ← take?
      fail "unexpected \x60,'"

/-- The lines that a step is for. -/
def takeSelector (extended : Bool) : Reader Selector := do
  match ← get with
  | '+' :: cs | '~' :: cs =>
    set (cs.dropWhile Char.isDigit)
    fail "invalid usage of +N or ~N as first address"
  | _ => pure ()
  let first ← takeAddress? extended
  skipWhile isBlank
  let extent ← match first, ← get with
    | some _, ',' :: cs => do
      set cs
      skipWhile isBlank
      pure (some (← takeExtent extended))
    | _, _ => pure none
  skipWhile isBlank
  match first, extent with
  | some (.line 0), some (.upTo (.fits _)) => pure ()
  | some (.line 0), _ =>
    let _ ← take?
    fail "invalid usage of line address 0"
  | _, _ => pure ()
  let negated := (← get).head? == some '!'
  if negated then
    modify (·.drop 1)
    skipWhile isBlank
    if (← get).head? == some '!' then
      let _ ← take?
      fail "multiple \x60!'s"
  return { first, extent, negated }

/-- The pieces of what takes the place of a pattern. `fuel` is at least the number of characters. -/
def readPieces : Nat → List Char → List Piece
  | 0, _ | _, [] => []
  | fuel + 1, '&' :: cs => .group 0 :: readPieces fuel cs
  | fuel + 1, '\\' :: c :: cs =>
    if c.isDigit then .group (c.toNat - '0'.toNat) :: readPieces fuel cs
    else if "ULulE".toList.contains c then .letters c :: readPieces fuel cs
    else .text c.toString :: readPieces fuel cs
  | fuel + 1, c :: cs => .text c.toString :: readPieces fuel cs

/-- The number of the last group of a pattern. -/
def groupCount : Regex → Nat
  | .group n r => max n (groupCount r)
  | .seq a b | .either a b => max (groupCount a) (groupCount b)
  | .many _ _ r => groupCount r
  | _ => 0

/-- What stands behind a substitution. -/
structure Flags where
  all : Bool := false
  prints : Bool := false
  ignoreCase : Bool := false
  byLine : Bool := false
  nth : Option Nat := none
  file : Option String := none

/-- Reads what stands behind a substitution. `fuel` is at least the number of characters. -/
def takeFlags : Nat → Flags → Reader Flags
  | 0, f => return f
  | fuel + 1, f => do
    match ← get with
    | 'g' :: cs =>
      set cs
      if f.all then fail "multiple \x60g' options to \x60s' command"
      takeFlags fuel { f with all := true }
    | 'p' :: cs =>
      set cs
      if f.prints then fail "multiple \x60p' options to \x60s' command"
      takeFlags fuel { f with prints := true }
    | 'i' :: cs | 'I' :: cs =>
      set cs
      takeFlags fuel { f with ignoreCase := true }
    | 'm' :: cs | 'M' :: cs =>
      set cs
      takeFlags fuel { f with byLine := true }
    | ' ' :: cs =>
      set cs
      takeFlags fuel f
    | 'w' :: cs =>
      let name := (cs.dropWhile isBlank).takeWhile (· != '\n')
      set ((cs.dropWhile isBlank).drop name.length)
      return { f with file := some (String.ofList name) }
    | c :: _ =>
      if c.isDigit then
        let n := (← takeNumber?).getD 0
        if f.nth.isSome then fail "multiple number options to \x60s' command"
        if n == 0 then fail "number option to \x60s' command may not be zero"
        takeFlags fuel { f with nth := some n }
      else if "\x7d;#\n\r".toList.contains c then return f
      else
        let _ ← take?
        fail "unknown option to \x60s'"
    | [] => return f

/-- A substitution after its letter. -/
def takeSubstitution (extended : Bool) : Reader Action := do
  let complaint := "unterminated \x60s' command"
  match ← take? with
  | none => fail complaint
  | some sign =>
    let pattern ← takePart sign true complaint
    let by' ← takePart sign false complaint
    let flags ← takeFlags ((← get).length + 1) {}
    let r ← patternOf extended flags.ignoreCase flags.byLine pattern
    let by' := normalized (fun c => c == '&' || c == '\\') by'.length by'
    let pieces := readPieces by'.length by'
    let most := (r.map groupCount).getD 9
    match pieces.findSome? fun p => match p with
      | .group n => if most < n then some n else none
      | _ => none with
    | some n =>
      fail ("invalid reference \\" ++ Nat.repr n ++ " on \x60s' command's RHS")
    | none =>
      return .substitute { pattern := r, pieces, nth := flags.nth.getD 1, all := flags.all
                           prints := flags.prints, file := flags.file }

/-- Characters with backslashes taken away. -/
def plainChars : List Char → List Char
  | '\\' :: c :: cs => c :: plainChars cs
  | c :: cs => c :: plainChars cs
  | [] => []

/-- An exchange of characters after its letter. -/
def takeExchange : Reader Action := do
  let complaint := "unterminated \x60y' command"
  match ← take? with
  | none => fail complaint
  | some sign =>
    let plain (cs : List Char) : List Char := plainChars (normalized (· == '\\') cs.length cs)
    let old := plain (← takePart sign false complaint)
    let new := plain (← takePart sign false complaint)
    if old.length == new.length then return .exchange (old.zip new)
    else fail "strings for \x60y' command are different lengths"

/-- The lines of a text, up to a newline that no backslash stands before. `fuel` is at least the number of
    characters. -/
def takeLines : Nat → List Char → Reader String
  | 0, done => finish done
  | fuel + 1, done => do
    match ← take? with
    | none | some '\n' => finish done
    | some '\\' =>
      match ← take? with
      | none => finish done
      | some c => takeLines fuel (c :: '\\' :: done)
    | some c => takeLines fuel (c :: done)
where
  /-- The text of characters, the last first. -/
  finish (done : List Char) : Reader String :=
    let cs := normalized (· == '\\') done.length done.reverse
    return String.ofList (plainChars cs ++ ['\n'])

/-- A text after the letter of a command that writes it. -/
def takeText : Reader String := do
  skipWhile isBlank
  match ← get with
  | [] => fail "expected \\ after \x60a', \x60c' or \x60i'"
  | '\\' :: cs =>
    let after := match cs.dropWhile isBlank with
      | '\n' :: rest => rest
      | _ => cs
    set after
    if after.isEmpty then return "" else takeLines (after.length + 1) []
  | cs => takeLines (cs.length + 1) []

/-- A label. -/
def takeLabel : Reader String := do
  skipWhile isBlank
  let cs := (← get).takeWhile fun c => !c.isWhitespace && c != ';' && c != '\x7d'
  modify (·.drop cs.length)
  return String.ofList cs

/-- The name of a file, up to the end of the line. -/
def takeName : Reader String := do
  skipWhile isBlank
  let cs := (← get).takeWhile (· != '\n')
  modify (·.drop cs.length)
  if cs.isEmpty then fail "missing filename in r/R/w/W commands" else return String.ofList cs

/-- A command; its letter has been read. -/
def takeAction (extended : Bool) (letter : Char) : Reader Action := do
  match letter with
  | '=' => return .number
  | 'a' => return .append (← takeText)
  | 'b' => return .jump (← takeLabel) none
  | 'c' => return .change (← takeText)
  | 'd' => return .delete
  | 'D' => return .deleteFirst
  | 'F' => return .fileName
  | 'g' => return .get
  | 'G' => return .getMore
  | 'h' => return .hold
  | 'H' => return .holdMore
  | 'i' => return .insert (← takeText)
  | 'l' =>
    skipWhile isBlank
    return .list (← takeNumber?)
  | 'n' => return .next
  | 'N' => return .join
  | 'p' => return .print
  | 'P' => return .printFirst
  | 'q' =>
    skipWhile isBlank
    return .quit ((← takeNumber?).getD 0) true
  | 'Q' =>
    skipWhile isBlank
    return .quit ((← takeNumber?).getD 0) false
  | 'r' => return .readFile (← takeName)
  | 'R' => return .readLine (← takeName)
  | 's' => takeSubstitution extended
  | 't' => return .jump (← takeLabel) (some true)
  | 'T' => return .jump (← takeLabel) (some false)
  | 'v' =>
    let _ ← takeLabel
    return .nothing
  | 'w' => return .writeFile (← takeName)
  | 'W' => return .writeFirst (← takeName)
  | 'x' => return .swap
  | 'y' => takeExchange
  | 'z' => return .empty
  | ':' =>
    let name ← takeLabel
    if name.isEmpty then fail "\":\" lacks a label" else return .label name
  | c => fail ("unknown command: \x60" ++ c.toString ++ "'")

/-- What stands between steps. -/
def isBetween (c : Char) : Bool := c.isWhitespace || c == ';'

/-- Leaves out what may stand behind a command. -/
def takeEnd : Reader Unit := do
  skipWhile isBlank
  match ← get with
  | [] | '\n' :: _ | ';' :: _ | '\x7d' :: _ | '#' :: _ => return
  | _ =>
    let _ ← take?
    fail "extra characters after command"

/-- Whether a command takes the rest of its line. -/
def Action.takesLine : Action → Bool
  | .append _ | .insert _ | .change _ | .readFile _ | .readLine _ | .writeFile _ | .writeFirst _ => true
  | _ => false

/-- Steps up to the end of a script or a block. `fuel` is more than the number of characters. -/
def takeSteps (extended : Bool) : Nat → Bool → List Step → Reader (List Step)
  | 0, _, done => return done
  | fuel + 1, inBlock, done => do
    skipWhile isBetween
    match ← get with
    | [] => if inBlock then throw { message := "unmatched \x60\x7b'" } else return done
    | '#' :: _ =>
      skipWhile (· != '\n')
      takeSteps extended fuel inBlock done
    | '\x7d' :: cs =>
      set cs
      if inBlock then
        takeEnd
        return done
      else fail "unexpected \x60\x7d'"
    | _ =>
      let selector ← takeSelector extended
      match ← take? with
      | none | some '\n' | some ';' => fail "missing command"
      | some '\x7b' =>
        let inner ← takeSteps extended fuel true []
        takeSteps extended fuel inBlock (done ++ ⟨selector, .block inner.length⟩ :: inner)
      | some letter =>
        if selector.first.isSome then
          match letter with
          | '#' => fail "comments don't accept any addresses"
          | ':' => fail ": doesn't want any addresses"
          | '\x7d' => fail (if inBlock then "\x60\x7d' doesn't want any addresses" else "unexpected \x60\x7d'")
          | 'q' | 'Q' => if selector.extent.isSome then fail "command only uses one address"
          | _ => pure ()
        let edit ← takeAction extended letter
        if !edit.takesLine then takeEnd
        takeSteps extended fuel inBlock (done ++ [⟨selector, edit⟩])

/-- The label of a jump that leads nowhere. -/
def lostLabel? (steps : List Step) : Option String :=
  let names := steps.filterMap fun s => match s.edit with
    | .label name => some name
    | _ => none
  steps.findSome? fun s => match s.edit with
    | .jump label _ => if label.isEmpty || names.contains label then none else some label
    | _ => none

/-- The steps of a script given in parts, or what is wrong with it: the status, and the complaint. -/
def readScript (extended : Bool) (parts : List String) : Except (Nat × String) (List Step) :=
  let text := "\n".intercalate parts
  match (takeSteps extended (text.length + 2) false []).run text.toList with
  | .ok (steps, _) =>
    match lostLabel? steps with
    | some label => .error (4, "can't find label for jump to \x60" ++ label ++ "'")
    | none => .ok steps
  | .error m =>
    if m.status != 1 then .error (m.status, m.message) else
    let place := (m.rest.map fun rest => text.length - rest.length).getD 0
    let ends := parts.foldl (fun (ends : List Nat) p => ends ++ [(ends.getLast?.getD 0) + p.length + 1]) []
    let index := (ends.takeWhile (· < place)).length
    let before := if index == 0 then 0 else (ends[index - 1]?).getD 0
    .error (1, "-e expression #" ++ Nat.repr (index + 1) ++ ", char " ++ Nat.repr (place - before) ++ ": " ++
      m.message)

/-- Whether steps ask for a pattern that was used before, and none has one. -/
def lacksPattern (steps : List Step) : Bool :=
  let patterns := steps.flatMap fun s =>
    (match s.selector.first with
      | some (.fits r) => [r.isSome]
      | _ => []) ++
    (match s.selector.extent with
      | some (.upTo (.fits r)) => [r.isSome]
      | _ => []) ++
    (match s.edit with
      | .substitute sub => [sub.pattern.isSome]
      | _ => [])
  !patterns.isEmpty && !patterns.contains true

end Recap.Tool.Edit
