import Recap.Toml.Scalar

/-!
# Reading TOML

A document is a list of lines: headers, and keys with their values. What does not fit the grammar, or
the rules on keys, makes the whole document malformed.

## Contents
- `isPlain`, `newline?`, `endLine?` — characters and lines.
- `basicString`, `literalString`, `multilineBasic`, `multilineLiteral` — strings.
- `readKey` — dotted keys.
- `readValue`, `readDocument` — values and documents.
-/

namespace Recap.Toml

/-- Reads something at the front of a text: what it is, and what follows. -/
abbrev Reading (α : Type) := Option (α × List Char)

/-! ## Characters and lines -/

/-- Characters other than control characters; the tab is not counted as one. -/
def isPlain (c : Char) : Bool := c == '\t' || (0x20 ≤ c.toNat && c.toNat ≠ 0x7F)

/-- Characters that separate within a line. -/
def isGap (c : Char) : Bool := c == ' ' || c == '\t'

/-- The text after gaps. -/
def skipGaps (cs : List Char) : List Char := cs.dropWhile isGap

/-- The text after a line break. -/
def newline? : List Char → Option (List Char)
  | '\n' :: cs => some cs
  | '\r' :: '\n' :: cs => some cs
  | _ => none

/-- The text after a comment, if there is one. -/
def skipComment : List Char → List Char
  | '#' :: cs => cs.dropWhile isPlain
  | cs => cs

/-- The text after the end of a line. -/
def endLine? (cs : List Char) : Option (List Char) :=
  match skipComment (skipGaps cs) with
  | [] => some []
  | cs => newline? cs

/-- The text after gaps, line breaks and comments; `none` if a comment holds what it must not. -/
def skipVoid : Bool → List Char → Option (List Char)
  | _, [] => some []
  | _, '\n' :: cs => skipVoid false cs
  | _, '\r' :: '\n' :: cs => skipVoid false cs
  | true, c :: cs => if isPlain c then skipVoid true cs else none
  | false, '#' :: cs => skipVoid true cs
  | false, c :: cs => if isGap c then skipVoid false cs else some (c :: cs)

/-! ## Strings -/

/-- The character of a code point, if there is one. -/
def codePoint? (digits : List Char) : Option Char :=
  if digits.all isHex then
    let n := digitsToNat 16 digits
    if n < 0xD800 || (0xDFFF < n && n < 0x110000) then some (Char.ofNat n) else none
  else none

/-- What a one-letter escape stands for. -/
def shortEscape? : Char → Option Char
  | 'b' => some '\x08'
  | 't' => some '\t'
  | 'n' => some '\n'
  | 'f' => some '\x0c'
  | 'r' => some '\r'
  | 'e' => some '\x1b'
  | '"' => some '"'
  | '\\' => some '\\'
  | _ => none

/-- Puts a character in front of what was read. -/
def consChar (c : Char) : Reading (List Char) → Reading (List Char) :=
  Option.map fun (s, rest) => (c :: s, rest)

/-- The rest of a string in double quotes. -/
def basicString : List Char → Reading (List Char)
  | [] => none
  | '"' :: cs => some ([], cs)
  | '\\' :: 'x' :: a :: b :: cs => (codePoint? [a, b]).bind fun x => consChar x (basicString cs)
  | '\\' :: 'u' :: a :: b :: c :: d :: cs =>
    (codePoint? [a, b, c, d]).bind fun x => consChar x (basicString cs)
  | '\\' :: 'U' :: a :: b :: c :: d :: e :: f :: g :: h :: cs =>
    (codePoint? [a, b, c, d, e, f, g, h]).bind fun x => consChar x (basicString cs)
  | '\\' :: c :: cs => (shortEscape? c).bind fun x => consChar x (basicString cs)
  | c :: cs => if isPlain c then consChar c (basicString cs) else none

/-- The rest of a string in single quotes, where nothing is escaped. -/
def literalString : List Char → Reading (List Char)
  | [] => none
  | '\'' :: cs => some ([], cs)
  | c :: cs => if isPlain c then consChar c (literalString cs) else none

/-- A string over several lines begins after a line break that follows its quotes. -/
def dropFirstBreak (cs : List Char) : List Char := (newline? cs).getD cs

/-- Where a backslash at the end of a line has led. -/
inductive Fold where
  /-- Nowhere. -/
  | off
  /-- The line must end. -/
  | ending
  /-- Blanks and line breaks are dropped. -/
  | dropping
  deriving DecidableEq, Repr

/-- The rest of a string in three double quotes. Up to two quotes may stand before the last three. -/
def multilineBasic : Fold → List Char → Reading (List Char)
  | _, [] => none
  | .ending, '\n' :: cs => multilineBasic .dropping cs
  | .ending, '\r' :: '\n' :: cs => multilineBasic .dropping cs
  | .ending, c :: cs => if isGap c then multilineBasic .ending cs else none
  | .dropping, '\n' :: cs => multilineBasic .dropping cs
  | .dropping, '\r' :: '\n' :: cs => multilineBasic .dropping cs
  | .dropping, ' ' :: cs => multilineBasic .dropping cs
  | .dropping, '\t' :: cs => multilineBasic .dropping cs
  | _, '"' :: '"' :: '"' :: '"' :: '"' :: cs => some (['"', '"'], cs)
  | _, '"' :: '"' :: '"' :: '"' :: cs => some (['"'], cs)
  | _, '"' :: '"' :: '"' :: cs => some ([], cs)
  | _, '\\' :: 'x' :: a :: b :: cs =>
    (codePoint? [a, b]).bind fun x => consChar x (multilineBasic .off cs)
  | _, '\\' :: 'u' :: a :: b :: c :: d :: cs =>
    (codePoint? [a, b, c, d]).bind fun x => consChar x (multilineBasic .off cs)
  | _, '\\' :: 'U' :: a :: b :: c :: d :: e :: f :: g :: h :: cs =>
    (codePoint? [a, b, c, d, e, f, g, h]).bind fun x => consChar x (multilineBasic .off cs)
  | _, '\\' :: '\n' :: cs => multilineBasic .dropping cs
  | _, '\\' :: '\r' :: '\n' :: cs => multilineBasic .dropping cs
  | _, '\\' :: c :: cs =>
    if isGap c then multilineBasic .ending cs
    else (shortEscape? c).bind fun x => consChar x (multilineBasic .off cs)
  | _, '\n' :: cs => consChar '\n' (multilineBasic .off cs)
  | _, '\r' :: '\n' :: cs => consChar '\r' (consChar '\n' (multilineBasic .off cs))
  | _, c :: cs => if isPlain c then consChar c (multilineBasic .off cs) else none

/-- The rest of a string in three single quotes. Up to two quotes may stand before the last three. -/
def multilineLiteral : List Char → Reading (List Char)
  | [] => none
  | '\'' :: '\'' :: '\'' :: '\'' :: '\'' :: cs => some (['\'', '\''], cs)
  | '\'' :: '\'' :: '\'' :: '\'' :: cs => some (['\''], cs)
  | '\'' :: '\'' :: '\'' :: cs => some ([], cs)
  | '\n' :: cs => consChar '\n' (multilineLiteral cs)
  | '\r' :: '\n' :: cs => consChar '\r' (consChar '\n' (multilineLiteral cs))
  | c :: cs => if isPlain c then consChar c (multilineLiteral cs) else none

/-! ## Keys -/

/-- Characters of a key without quotes. -/
def isBare (c : Char) : Bool := c.isAlphanum || c == '_' || c == '-'

/-- One part of a key. -/
def readKeyPart (cs : List Char) : Reading String :=
  match cs with
  | '"' :: cs => (basicString cs).map fun (s, rest) => (String.ofList s, rest)
  | '\'' :: cs => (literalString cs).map fun (s, rest) => (String.ofList s, rest)
  | cs =>
    let bare := cs.takeWhile isBare
    if bare.isEmpty then none else some (String.ofList bare, cs.dropWhile isBare)

/-- How deep values may be nested, and how many parts a key may have. -/
def depthLimit : Nat := 80

/-- A key of at most `n` parts, with points between them. -/
def readKeyParts : Nat → List Char → Option (List String × List Char)
  | 0, _ => none
  | n + 1, cs => do
    let (part, rest) ← readKeyPart (skipGaps cs)
    match skipGaps rest with
    | '.' :: rest =>
      let (parts, rest) ← readKeyParts n rest
      return (part :: parts, rest)
    | rest => return ([part], rest)

/-- A key, and the text after the gaps that follow it. -/
def readKey (cs : List Char) : Reading (List String) := readKeyParts depthLimit cs

/-! ## Values -/

/-- Characters that end a word. -/
def endsWord (c : Char) : Bool :=
  isGap c || c == '\n' || c == '\r' || c == '=' || c == ',' || c == '#' || c == '[' || c == ']' ||
    c == '\x7b' || c == '\x7d'

/-- Characters of a word. -/
def isWordChar (c : Char) : Bool := !endsWord c

/-- A word; a date may be followed by a space and a time. -/
def takeWord (cs : List Char) : List Char × List Char :=
  let word := cs.takeWhile isWordChar
  let rest := cs.dropWhile isWordChar
  match rest with
  | ' ' :: c :: more =>
    if isDate word && c.isDigit then
      (word ++ ' ' :: (c :: more).takeWhile isWordChar, (c :: more).dropWhile isWordChar)
    else (word, rest)
  | rest => (word, rest)

/-- A string or a word. -/
def readSimple (cs : List Char) : Reading Item :=
  let text (r : Reading (List Char)) : Reading Item :=
    r.map fun (s, rest) => (.string (String.ofList s), rest)
  match cs with
  | '"' :: '"' :: '"' :: cs => text (multilineBasic .off (dropFirstBreak cs))
  | '"' :: cs => text (basicString cs)
  | '\'' :: '\'' :: '\'' :: cs => text (multilineLiteral (dropFirstBreak cs))
  | '\'' :: cs => text (literalString cs)
  | cs =>
    let (word, rest) := takeWord cs
    (readWord? word).map fun item => (item, rest)

/-- A key of an inline table, and the text of its value. -/
def readAssigned (cs : List Char) : Option (List String × List Char) := do
  let (key, rest) ← readKey cs
  match skipVoid false rest with
  | some ('=' :: rest) => (skipVoid false rest).map fun rest => (key, rest)
  | _ => none

mutual

/-- A value that may hold values down to a depth. Every step into a value, and from one item to the
    next, takes from the fuel. -/
def readValue : Nat → Nat → List Char → Reading Item
  | 0, _, _ => none
  | _ + 1, 0, '[' :: _ | _ + 1, 0, '{' :: _ => none
  | fuel + 1, depth + 1, '[' :: cs => readItems fuel depth [] cs
  | fuel + 1, depth + 1, '{' :: cs => readPairs fuel depth [] cs
  | _ + 1, _, cs => readSimple cs

/-- The rest of an array; the items before it, last first. -/
def readItems : Nat → Nat → List Item → List Char → Reading Item
  | 0, _, _, _ => none
  | fuel + 1, depth, items, cs =>
    match skipVoid false cs with
    | none => none
    | some (']' :: rest) => some (.array items.reverse, rest)
    | some rest =>
      match readValue fuel depth rest with
      | none => none
      | some (item, rest) =>
        match skipVoid false rest with
        | some (',' :: rest) => readItems fuel depth (item :: items) rest
        | some (']' :: rest) => some (.array (item :: items).reverse, rest)
        | _ => none

/-- The rest of an inline table, whose parts may stand on lines of their own. -/
def readPairs : Nat → Nat → Entries → List Char → Reading Item
  | 0, _, _, _ => none
  | fuel + 1, depth, entries, cs =>
    match skipVoid false cs with
    | none => none
    | some ('}' :: rest) => some (.table .inline entries, rest)
    | some rest =>
      match readAssigned rest with
      | none => none
      | some (key, rest) =>
        match readValue fuel depth rest with
        | none => none
        | some (item, rest) =>
          match insertKey item key entries, skipVoid false rest with
          | some entries', some (',' :: rest) => readPairs fuel depth entries' rest
          | some entries', some ('}' :: rest) => some (.table .inline entries', rest)
          | _, _ => none

end

/-! ## Documents -/

/-- What has been read of a document: its tables, and the path of the last header. -/
structure Progress where
  root : Entries
  header : List String

/-- A header that opens its table by `f`. -/
def Progress.open (p : Progress) (f : Option Item → Option Item) (path : List String) :
    Option Progress :=
  (updatePath f path p.root).map fun root => { root, header := path }

/-- One line that is not empty: the rest of the text is at its end. -/
def readLine (p : Progress) (cs : List Char) : Option (Progress × List Char) :=
  match cs with
  | '[' :: '[' :: cs => do
    let (path, rest) ← readKey cs
    match rest with
    | ']' :: ']' :: rest => return (← p.open openElement path, rest)
    | _ => none
  | '[' :: cs => do
    let (path, rest) ← readKey cs
    match rest with
    | ']' :: rest => return (← p.open openTable path, rest)
    | _ => none
  | cs => do
    let (key, rest) ← readKey cs
    match rest with
    | '=' :: rest =>
      let (item, rest) ← readValue (rest.length + 1) depthLimit (skipGaps rest)
      let root ← updateAt (insertKey item key) p.header p.root
      return ({ p with root }, rest)
    | _ => none

/-- Whether nothing stands on the line but a comment. -/
def isVoidLine (cs : List Char) : Bool :=
  match cs with
  | [] | '#' :: _ => true
  | cs => (newline? cs).isSome

/-- Line after line; there are no more lines than `fuel`. -/
def readLines : Nat → Progress → List Char → Option Entries
  | 0, _, _ => none
  | fuel + 1, p, cs =>
    match skipGaps cs with
    | [] => some p.root
    | cs =>
      if isVoidLine cs then (endLine? cs).bind (readLines fuel p)
      else
        match readLine p cs with
        | none => none
        | some (p', rest) => (endLine? rest).bind (readLines fuel p')

/-- The text without a byte order mark. -/
def dropMark : List Char → List Char
  | '\uFEFF' :: cs => cs
  | cs => cs

/-- The tables of a document; `none` if it is malformed. -/
def readDocument (s : String) : Option Entries :=
  let cs := dropMark s.toList
  readLines (cs.length + 1) { root := [], header := [] } cs

end Recap.Toml
