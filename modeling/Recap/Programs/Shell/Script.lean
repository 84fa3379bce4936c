import Recap.Programs.Shell.Token

/-!
# Scripts

How tokens make commands. A script is read line by line, so that a line can be carried out before the
next one is read.

## Contents
- `Token.keyword?`, `Token.label` — words with a meaning of their own, and how complaints name tokens.
- `readSimple`, `readCompound`, `readList` — commands.
- `nextLine` — the next line of a script.
-/

namespace Recap.Shell

open Reader

/-! ## Keywords -/

/-- Words that have a meaning of their own where a command can begin. -/
def keywords : List String :=
  ["!", "case", "do", "done", "elif", "else", "esac", "fi", "for", "if", "in", "then", "until", "while",
    "\x7b", "\x7d"]

/-- Words that only the larger language gives a meaning of their own. -/
def largeKeywords : List String := ["[[", "]]", "function", "time"]

/-- The keyword that a token is. -/
def Token.keyword? : Token → Option String
  | .word w => (bareText? w).filter keywords.contains
  | _ => none

/-- The keyword of the larger language that a token is. -/
def Token.largeKeyword? : Token → Option String
  | .word w => (bareText? w).filter largeKeywords.contains
  | _ => none

/-- What follows a choice behind an operator. -/
def afterChoice? : String → Option AfterChoice
  | ";;" => some .stop
  | ";&" => some .fallThrough
  | ";;&" => some .lookOn
  | _ => none

/-- Whether a list of commands ends before a token. -/
def Token.endsList (t : Token) : Bool :=
  match t, t.keyword? with
  | .ending, _ => true
  | .operator sign, _ => sign == ")" || (afterChoice? sign).isSome
  | _, some k => ["do", "done", "elif", "else", "esac", "fi", "then", "\x7d"].contains k
  | _, none => false

/-- A text between double quotes. -/
def inQuotes (s : String) : String := "\"" ++ s ++ "\""

/-- How complaints name a token. -/
def Token.label (t : Token) : String :=
  match t with
  | .ending => "end of file"
  | .newline => "newline"
  | .operator sign => inQuotes sign
  | .word _ => (t.keyword?.map inQuotes).getD "word"
  | .redirect .. => "redirection"

/-- Complains about a token. -/
def unexpected {α : Type} (t : Token) : Reader α := failToken t (t.label ++ " unexpected")

/-- Complains about a token in the place of another. -/
def unexpectedFor {α : Type} (t : Token) (wanted : String) : Reader α :=
  failToken t (t.label ++ " unexpected (expecting " ++ inQuotes wanted ++ ")")

/-- Takes a keyword. -/
def expectKeyword (reach : Reach) (wanted : String) : Reader Unit := do
  let t ← token reach
  if t.keyword? == some wanted then return else unexpectedFor t wanted

/-- Takes an operator. -/
def expectOperator (reach : Reach) (wanted : String) : Reader Unit := do
  match ← token reach with
  | .operator sign => if sign == wanted then return else unexpectedFor (.operator sign) wanted
  | t => unexpectedFor t wanted

/-- A list that has a command. -/
def readBody (reach : Reach) : Reader Command := do return (← reach (.list .sign)).getD .nothing

/-! ## Redirections -/

/-- The text of a word without its quotes. -/
def plainText (w : Word) : String :=
  w.foldl (fun s p => match p with
    | .text t _ => s ++ t
    | .parameter name .. => s ++ "$" ++ name
    | _ => s) ""

/-- Whether a part of a word stands between quotes. -/
def hasQuotes (w : Word) : Bool :=
  w.any fun
    | .text _ quoted => quoted
    | _ => false

/-- Complaints go where output does. -/
def errorsToo : Redirect := .copy 2 [.text "1" false]

/-- The rest of a redirection after its sign. -/
def readRedirect (reach : Reach) (channel : Option Nat) (sign : String) : Reader (List Redirect) := do
  match ← token reach with
  | .word w =>
    let input := channel.getD 0
    let output := channel.getD 1
    match sign with
    | "<" => return [.file input .read w]
    | "<>" => return [.file input .both w]
    | ">" | ">|" => return [.file output .write w]
    | ">>" => return [.file output .append w]
    | "<&" => return [.copy input w]
    | ">&" => return [.copy output w]
    | "&>" => return [.file 1 .write w, errorsToo]
    | "&>>" => return [.file 1 .append w, errorsToo]
    | "<<<" => return [.word input w]
    | _ =>
      let number := (← get).documentCount
      let d : Document :=
        { number, ending := plainText w, indented := sign == "<<-", literal := hasQuotes w }
      modify fun s => { s with awaited := s.awaited ++ [d], documentCount := number + 1 }
      return [.document input number]
  | t => unexpected t

/-- Redirections behind a command. `fuel` is at least the number of characters. -/
def readRedirects (reach : Reach) : Nat → List Redirect → Reader (List Redirect)
  | 0, done => return done
  | fuel + 1, done => do
    match ← token reach with
    | .redirect channel sign => readRedirects reach fuel (done ++ (← readRedirect reach channel sign))
    | t =>
      hold t
      return done

/-! ## Simple commands -/

/-- What has been read of a simple command. -/
structure SimpleDraft where
  line : Nat
  assignments : List Assignment
  words : List Word
  redirects : List Redirect

/-- The command that has been read. -/
def SimpleDraft.close (d : SimpleDraft) : Command := .simple d.line d.assignments d.words d.redirects

/-- The line of a command in the larger language is that on which the second of its tokens ends, if the first is a
    word. -/
def SimpleDraft.atSecondToken (d : SimpleDraft) (s : Reading) : SimpleDraft :=
  if s.enlarged && d.words.length == 1 && d.assignments.isEmpty && d.redirects.isEmpty then { d with line := s.line }
  else d

/-- Builtins that no function can be named for. -/
def specialBuiltins : List String :=
  [".", ":", "break", "continue", "eval", "exec", "exit", "export", "readonly", "return", "set", "shift",
    "times", "trap", "unset"]

/-- Whether a command that is no simple one begins with a token. -/
def Token.beginsCompound (t : Token) : Bool :=
  match t, t.keyword?, t.largeKeyword? with
  | .operator sign, _, _ => sign == "("
  | _, some k, _ => ["case", "for", "if", "until", "while", "\x7b"].contains k
  | _, none, some k => k == "[["
  | _, none, none => false

/-- The body of a function. -/
def readFunctionBody (reach : Reach) : Reader Command := do
  let t ← tokenPastLines reach
  if (← get).enlarged && !t.beginsCompound then unexpected t
  hold t
  reach .command

/-- A function after its name and opening parenthesis. -/
def readFunction (reach : Reach) (line : Nat) (name : Word) : Reader Command := do
  match ← token reach with
  | .operator ")" => pure ()
  | .word w => failToken (.word w) ("word unexpected (expecting " ++ inQuotes ")" ++ ")")
  | t => unexpectedFor t ")"
  let enlarged := (← get).enlarged
  match bareText? name with
  | some s =>
    if enlarged || (isName s && !specialBuiltins.contains s) then
      return .define line s (← readFunctionBody reach)
    else fail "Bad function name"
  | none => fail "Bad function name"

/-- A function after its keyword. -/
def readNamedFunction (reach : Reach) (line : Nat) : Reader Command := do
  match ← token reach with
  | .word w =>
    match ← token reach with
    | .operator "(" =>
      match ← token reach with
      | .operator ")" => return .define line (plainText w) (← readFunctionBody reach)
      | t =>
        hold t
        let body ← readBody reach
        expectOperator reach ")"
        return .define line (plainText w) (.subshell body)
    | t =>
      hold t
      return .define line (plainText w) (← readFunctionBody reach)
  | t => unexpected t

/-- The words of a simple command. `fuel` is at least the number of characters. -/
def readSimple (reach : Reach) : Nat → SimpleDraft → Reader Command
  | 0, d => return d.close
  | fuel + 1, d => do
    match ← token reach with
    | .word w =>
      let r ← get
      let d := d.atSecondToken r
      let isSetting : Assignment → Bool := fun (.mk _ _ adds _) => r.enlarged || !adds
      match if d.words.isEmpty then (assignment? w).filter isSetting else none with
      | some a => readSimple reach fuel { d with assignments := d.assignments ++ [a] }
      | none => readSimple reach fuel { d with words := d.words ++ [w] }
    | .redirect channel sign =>
      let d := d.atSecondToken (← get)
      let more ← readRedirect reach channel sign
      readSimple reach fuel { d with redirects := d.redirects ++ more }
    | .operator sign =>
      match d.words, d.assignments, d.redirects, sign with
      | [name], [], [], "(" => readFunction reach d.line name
      | _, _, _, _ =>
        hold (.operator sign)
        return d.close
    | t =>
      hold t
      return d.close

/-! ## Compound commands -/

/-- A choice after its first keyword. `fuel` is at least the number of characters. -/
def readChoice (reach : Reach) : Nat → Reader Command
  | 0 => return .nothing
  | fuel + 1 => do
    let test ← readBody reach
    expectKeyword reach "then"
    let yes ← readBody reach
    let t ← token reach
    match t.keyword? with
    | some "elif" => return .choose test yes (← readChoice reach fuel)
    | some "else" => return .choose test yes (← readBody reach)
    | _ =>
      hold t
      return .choose test yes .nothing

/-- Words up to another token, and that token. `fuel` is at least the number of characters. -/
def readWords (reach : Reach) : Nat → List Word → Reader (List Word × Token)
  | 0, done => return (done, .ending)
  | fuel + 1, done => do
    match ← token reach with
    | .word w => readWords reach fuel (done ++ [w])
    | t => return (done, t)

/-- The parts of a word between semicolons. -/
def splitAtSemicolons : Word → List Word
  | [] => [[]]
  | .text s q :: parts =>
    let pieces := (s.splitOn ";").map fun piece => if piece.isEmpty then [] else [Part.text piece q]
    match splitAtSemicolons parts with
    | [] => pieces
    | first :: more => pieces.dropLast ++ (pieces.getLast?.getD [] ++ first) :: more
  | p :: parts =>
    match splitAtSemicolons parts with
    | [] => [[p]]
    | first :: more => (p :: first) :: more

/-- The commands that a repetition repeats, between keywords or, in the larger language, braces. -/
def readRepeated (reach : Reach) : Reader Command := do
  let t ← tokenPastLines reach
  let body := do return (← reach (.list .sign)).getD .nothing
  if (← get).enlarged && t.keyword? == some "\x7b" then
    let c ← body
    expectKeyword reach "\x7d"
    return c
  else
    hold t
    expectKeyword reach "do"
    let c ← body
    expectKeyword reach "done"
    return c

/-- A repetition for numbers, after its keyword and parentheses. -/
def readCount (reach : Reach) (line : Nat) : Reader Command := do
  let sums := splitAtSemicolons (← reach (.parts .sum))
  match sums with
  | [first, test, step] =>
    match ← token reach with
    | .operator ";" | .newline => pure ()
    | t => hold t
    return .count line first test step (← readRepeated reach)
  | _ => fun s => .error ⟨s.line, "Bad for loop", .near none "(("⟩

/-- A repetition for words, after its keyword. -/
def readEach (reach : Reach) (line : Nat) : Reader Command := do
  let enlarged := (← get).enlarged
  let name ← match ← token reach with
    | .word w =>
      match (bareText? w).filter fun s => enlarged || isName s with
      | some name => pure name
      | none => fail "Bad for loop variable"
    | t => failToken t "Bad for loop variable"
  let t ← tokenPastLines reach
  let words ← if t.keyword? == some "in" then do
      let (words, last) ← readWords reach ((← get).rest.length + 1) []
      match last with
      | .newline =>
        takeDocuments reach
        pure (some words)
      | .operator ";" => pure (some words)
      | t => unexpected t
    else do
      match t with
      | .operator ";" => pure none
      | t =>
        hold t
        pure none
  return .each line name words (← readRepeated reach)

/-- The patterns of a choice among words, the first of which is given. `fuel` is at least the number of
    characters. -/
def readPatterns (reach : Reach) : Nat → Token → List Word → Reader (List Word)
  | 0, _, done => return done
  | fuel + 1, t, done => do
    let done := match t with
      | .word w => done ++ [w]
      | _ => done
    match ← token reach with
    | .operator "|" => readPatterns reach fuel (← token reach) done
    | .operator ")" => return done
    | t => unexpectedFor t ")"

/-- The choices among words up to the keyword that ends them. `fuel` is at least the number of
    characters. -/
def readChoices (reach : Reach) : Nat → List (List Word × Command × AfterChoice) →
    Reader (List (List Word × Command × AfterChoice))
  | 0, done => return done
  | fuel + 1, done => do
    let t ← tokenPastLines reach
    if t.keyword? == some "esac" then return done
    let first ← match t with
      | .operator "(" => token reach
      | t => pure t
    let patterns ← readPatterns reach ((← get).rest.length + 1) first []
    let body := (← reach (.list .signOrEmpty)).getD .nothing
    let last ← tokenPastLines reach
    match last, last.keyword? with
    | .operator sign, _ =>
      match afterChoice? sign with
      | some after => readChoices reach fuel (done ++ [(patterns, body, after)])
      | none => unexpectedFor last ";;"
    | _, some "esac" => return done ++ [(patterns, body, .stop)]
    | t, _ => unexpectedFor t ";;"

/-- A choice among words, after its keyword. -/
def readSelect (reach : Reach) (line : Nat) : Reader Command := do
  let word ← match ← token reach with
    | .word w => pure w
    | t => fail (t.label ++ " unexpected (expecting word)")
  hold (← tokenPastLines reach)
  expectKeyword reach "in"
  return .select line word (← readChoices reach ((← get).rest.length + 1) [])

/-! ## Conditions -/

/-- Signs of conditions on one word. -/
def unarySigns : List String := "abcdefghknoprstuvwxzGLNORS".toList.map fun c => String.ofList ['-', c]

/-- Signs of conditions on two words that are themselves words. -/
def binarySigns : List String :=
  ["=", "==", "!=", "=~", "-eq", "-ne", "-lt", "-le", "-gt", "-ge", "-nt", "-ot", "-ef"]

/-- Complains about a place inside a condition. -/
def failNear {α : Type} (t : Token) (cause : Option String) : Reader α := fun s =>
  let line := match t with
    | .newline => s.line - 1
    | _ => s.line
  .error ⟨line, "condition", .near cause s.lastToken⟩

/-- How complaints about conditions name a token. -/
def spokenToken (t : Token) : Reader String := do
  match t with
  | .newline => return "newline"
  | .ending => return "EOF"
  | _ => return (← get).lastToken

/-- The word that a condition compares with. -/
def readOperand (reach : Reach) (sign : String) : Reader Word := do
  if sign == "=~" then
    skipBlanks ((← get).rest.length + 1)
    reach (.parts .regex)
  else
    let grouped := (← get).grouped
    modify fun s => { s with grouped := grouped || ["=", "==", "!="].contains sign }
    let t ← token reach
    modify fun s => { s with grouped }
    let refuse : Reader Word := do
      failNear t (some ("unexpected argument \x60" ++ (← spokenToken t) ++ "' to conditional binary operator"))
    match t with
    | .word w => if bareText? w == some "]]" then refuse else return w
    | _ => refuse

/-- A condition on words, the first of which is given. -/
def readComparison (reach : Reach) (w : Word) : Reader Test := do
  let refuse (t : Token) : Reader Test :=
    match t with
    | .word _ => failNear t (some "conditional binary operator expected")
    | _ => do
      failNear t (some ("unexpected token \x60" ++ (← spokenToken t) ++
        "', conditional binary operator expected"))
  let alone (t : Token) : Reader Test := do
    hold t
    return .unary "-n" w
  let t ← token reach
  match t with
  | .redirect none "<" => return .binary "<" w (← readOperand reach "<")
  | .redirect none ">" => return .binary ">" w (← readOperand reach ">")
  | .word v =>
    match bareText? v with
    | some "]]" => alone t
    | some sign =>
      if binarySigns.contains sign then return .binary sign w (← readOperand reach sign) else refuse t
    | none => refuse t
  | .operator "&&" | .operator "||" | .operator ")" => alone t
  | t => refuse t

/-- A condition that is not made of others, or between parentheses. `depth` is at least the number of
    parentheses and negations. -/
def readTerm (reach : Reach) (whole : Reader Test) : Nat → Reader Test
  | 0 => fail "nested too deeply"
  | depth + 1 => do
    let t ← tokenPastLines reach
    match t with
    | .operator "(" =>
      let inner ← whole
      let last ← tokenPastLines reach
      match last with
      | .operator ")" => return inner
      | _ => failNear last (some ("unexpected token \x60" ++ (← spokenToken last) ++ "', expected \x60)'"))
    | .word w =>
      match bareText? w with
      | some "!" => return .negate (← readTerm reach whole depth)
      | some "]]" => failNear t none
      | some sign =>
        if unarySigns.contains sign then
          let next ← token reach
          match next with
          | .word v =>
            match bareText? v with
            | some "]]" =>
              failNear next (some "unexpected argument \x60]]' to conditional unary operator")
            | _ => return .unary sign v
          | _ =>
            failNear next (some ("unexpected argument \x60" ++ (← spokenToken next) ++
              "' to conditional unary operator"))
        else readComparison reach w
      | none => readComparison reach w
    | _ => failNear t none

/-- Conditions that all have to hold. `fuel` is at least the number of characters. -/
def readAllOf (term : Reader Test) (reach : Reach) : Nat → Test → Reader Test
  | 0, done => return done
  | fuel + 1, done => do
    match ← tokenPastLines reach with
    | .operator "&&" => readAllOf term reach fuel (.both done (← term))
    | t =>
      hold t
      return done

/-- Conditions one of which has to hold. `fuel` is at least the number of characters. -/
def readAnyOf (all : Reader Test) (reach : Reach) : Nat → Test → Reader Test
  | 0, done => return done
  | fuel + 1, done => do
    match ← tokenPastLines reach with
    | .operator "||" => readAnyOf all reach fuel (.either done (← all))
    | t =>
      hold t
      return done

/-- A condition. `depth` is at least the number of parentheses. -/
def readTest (reach : Reach) : Nat → Reader Test
  | 0 => fail "nested too deeply"
  | depth + 1 => do
    let fuel := (← get).rest.length + 1
    let term := readTerm reach (readTest reach depth) fuel
    let all := do readAllOf term reach fuel (← term)
    readAnyOf all reach fuel (← all)

/-- A condition after its opening brackets. -/
def readCondition (reach : Reach) (line : Nat) : Reader Command := do
  let test ← readTest reach ((← get).rest.length + 1)
  let last ← tokenPastLines reach
  if last.largeKeyword? == some "]]" then return .condition line test
  else failNear last (some ("unexpected token \x60" ++ (← spokenToken last) ++ "' in conditional command"))

/-! ## All commands -/

/-- A command between parentheses, or the sum between two of them. -/
def readParenthesised (reach : Reach) (line : Nat) : Reader Command := do
  let subshell : Reader Command := do
    let body ← readBody reach
    expectOperator reach ")"
    return .subshell body
  let s ← get
  if s.enlarged && s.rest.head? == some '(' then
    insteadOf (do skip 1; return .sum line (← reach (.parts .sum))) subshell
  else subshell

/-- A command that only the larger language has, whose first word is given. -/
def readLargeCompound? (reach : Reach) (line : Nat) : String → Reader (Option Command)
  | "[[" => do return some (← readCondition reach line)
  | "function" => do return some (← readNamedFunction reach line)
  | _ => return none

/-- A command whose first token is given; nothing where it is a simple one. -/
def readCompound? (reach : Reach) (t : Token) : Reader (Option Command) := do
  let line := (← get).line
  let fuel := (← get).rest.length + 1
  match t, t.keyword? with
  | .operator "(", _ => return some (← readParenthesised reach line)
  | _, some "if" =>
    let c ← readChoice reach fuel
    expectKeyword reach "fi"
    return some c
  | _, some "while" | _, some "until" =>
    let test ← readBody reach
    expectKeyword reach "do"
    let body ← readBody reach
    expectKeyword reach "done"
    return some (.loop (t.keyword? == some "until") test body)
  | _, some "for" =>
    skipBlanks fuel
    if (← get).enlarged && (← accept "((") then return some (← readCount reach line)
    else return some (← readEach reach line)
  | _, some "case" => return some (← readSelect reach line)
  | _, some "\x7b" =>
    let body ← readBody reach
    expectKeyword reach "\x7d"
    return some body
  | _, some _ => unexpected t
  | .word w, none =>
    match bareText? w with
    | some s => if (← get).enlarged then readLargeCompound? reach line s else return none
    | none => return none
  | .redirect .., none => return none
  | t, none => unexpected t

/-- A command. -/
def readCommand (reach : Reach) : Reader Command := do
  let t ← token reach
  let fuel := (← get).rest.length + 2
  match ← readCompound? reach t with
  | none =>
    hold t
    readSimple reach fuel { line := (← get).line, assignments := [], words := [], redirects := [] }
  | some c =>
    match ← readRedirects reach fuel [] with
    | [] => return c
    | rs => return .redirected c rs

/-! ## Lists -/

/-- A command whose complaints go where its output does. -/
def Command.withErrors : Command → Command
  | .simple line assignments words redirects => .simple line assignments words (redirects ++ [errorsToo])
  | .redirected c redirects => .redirected c (redirects ++ [errorsToo])
  | c => .redirected c [errorsToo]

/-- Commands that each read what the one before writes, the first of which has been read. `fuel` is at
    least the number of characters. -/
def readPipe (reach : Reach) : Nat → List Command → Reader Command
  | 0, done => return .pipe done
  | fuel + 1, done => do
    match ← token reach with
    | .operator "|" =>
      hold (← tokenPastLines reach)
      readPipe reach fuel (done ++ [← reach .command])
    | .operator "|&" =>
      hold (← tokenPastLines reach)
      let done := done.dropLast ++ (done.getLast?.map Command.withErrors).toList
      readPipe reach fuel (done ++ [← reach .command])
    | t =>
      hold t
      match done with
      | [c] => return c
      | cs => return .pipe cs

/-- A pipe, which keywords can negate or, in the larger language, measure. `fuel` is at least the number
    of characters. -/
def readPipelineFrom (reach : Reach) : Nat → Reader Command
  | 0 => fail "nested too deeply"
  | fuel + 1 => do
    let t ← token reach
    let enlarged := (← get).enlarged
    if t.keyword? == some "!" then
      if enlarged then return .negate (← readPipelineFrom reach fuel)
      else return .negate (← readPipe reach fuel [← reach .command])
    else if enlarged && t.largeKeyword? == some "time" then readPipelineFrom reach fuel
    else
      hold t
      readPipe reach fuel [← reach .command]

/-- A pipe, which keywords can negate. -/
def readPipeline (reach : Reach) : Reader Command := do
  readPipelineFrom reach ((← get).rest.length + 2)

/-- Pipes of which each depends on the one before. `fuel` is at least the number of characters. -/
def readChain (reach : Reach) : Nat → Command → Reader Command
  | 0, done => return done
  | fuel + 1, done => do
    let t ← token reach
    match t with
    | .operator "&&" =>
      hold (← tokenPastLines reach)
      readChain reach fuel (.both done (← readPipeline reach))
    | .operator "||" =>
      hold (← tokenPastLines reach)
      readChain reach fuel (.either done (← readPipeline reach))
    | t =>
      hold t
      return done

/-- A list of commands up to its end. `fuel` is at least the number of characters. -/
def readList (reach : Reach) (ending : ListEnd) : Nat → Option Command → Reader (Option Command)
  | 0, done => return done
  | fuel + 1, done => do
    let t ← if ending == .line then token reach else tokenPastLines reach
    match t with
    | .newline =>
      takeDocuments reach
      return done
    | .ending =>
      takeDocuments reach
      hold .ending
      return done
    | t =>
      hold t
      if ending != .line && (ending == .signOrEmpty || done.isSome) && t.endsList then return done
      let c ← readChain reach fuel (← readPipeline reach)
      let last ← token reach
      let c := match last with
        | .operator "&" => Command.background c
        | _ => c
      let done := some (match done with
        | none => c
        | some before => before.andThen c)
      match last with
      | .ending =>
        takeDocuments reach
        hold .ending
        return done
      | .newline =>
        hold .newline
        readList reach ending fuel done
      | .operator ";" | .operator "&" => readList reach ending fuel done
      | t =>
        if ending == .line then unexpected t
        else
          hold t
          return done

/-- Reaches goals whose nesting is no deeper than a number. -/
def reachWithin : Nat → Reach
  | 0, _ => fail "nested too deeply"
  | depth + 1, .list ending => do readList (reachWithin depth) ending ((← get).rest.length + 2) none
  | depth + 1, .command => readCommand (reachWithin depth)
  | depth + 1, .parts s => readParts (reachWithin depth) s

/-! ## Lines -/

/-- Whether a text ends with a backslash that is not itself behind one. -/
def endsWithBackslash (text : String) : Bool :=
  (text.toList.reverse.takeWhile (· == '\\')).length % 2 == 1

/-- A script before anything is read; numbers of its texts follow those that are there already. In the
    larger language, the last line ends like the others. -/
def Reading.ofText (enlarged : Bool) (text : String) (line : Nat) (documents : List (Nat × Word)) :
    Reading :=
  let ended := !enlarged || text.isEmpty || text.endsWith "\n" || endsWithBackslash text
  { rest := text.toList ++ (if ended then [] else ['\n']), line, held := none, awaited := [], documents
    documentCount := documents.length, enlarged, grouped := false, source := text, lastToken := ""
    openLine := line }

/-- Whether nothing is left to read. -/
def Reading.isOver (r : Reading) : Bool := r.rest.isEmpty

/-- The next line of a script, which holds no command if it is blank, and what is left. -/
def nextLine (r : Reading) : Except Misreading (Option Command × Reading) :=
  (reachWithin (r.rest.length + 4) (.list .line)).run { r with held := none }

end Recap.Shell
