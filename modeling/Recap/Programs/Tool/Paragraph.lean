import Recap.Programs.Tool.Options

/-!
# Paragraphs

The words of a paragraph are put on lines of about the same length. Of all ways to break them, the
one that costs least is chosen: lines should be near to a goal, differ little from the next, and end
where sentences do.

## Contents
- `TextWord` — words, and what is known about them.
- `breaks` — where lines end.
- `Shaping`, `paragraphs` — reading paragraphs.
- `fmt` — writes paragraphs anew.
-/

namespace Recap.Tool

open Recap.Shell

/-! ## Words -/

/-- A word, and what is known about it. -/
structure TextWord where
  text : Bytes
  /-- The columns between it and the next word. -/
  space : Nat
  /-- Whether it begins with a parenthesis or a quote. -/
  opens : Bool
  /-- Whether it ends with a sign. -/
  signed : Bool
  /-- Whether it ends with what can end a sentence. -/
  stops : Bool
  /-- Whether it ends a sentence. -/
  final : Bool

/-- Whether a byte is a sign. -/
def isSignByte (b : UInt8) : Bool :=
  (33 ≤ b && b ≤ 47) || (58 ≤ b && b ≤ 64) || (91 ≤ b && b ≤ 96) || (123 ≤ b && b ≤ 126)

/-- A word from its text; whether it ends a sentence is not known yet. -/
def TextWord.of (text : Bytes) : TextWord :=
  let contains (signs : String) (b : UInt8) : Bool := (Text.bytes signs).contains b
  let body := text.reverse.dropWhile (contains ")]'\"")
  let last := if body.isEmpty then text.take 1 else body.take 1
  { text, space := 0, opens := (text.head?.map (contains "(['\x60\"")).getD false
    signed := (text.getLast?.map isSignByte).getD false
    stops := (last.head?.map (contains ".?!")).getD false, final := false }

/-! ## Costs -/

/-- A square, as a cost. -/
def squareCost (n : Int) : Int := n * n

/-- What the difference of lines in length costs. -/
def raggedCost (n : Int) : Int := squareCost (n * 10) / 2

/-- What it costs to begin a line with a word, given the one and the two words before it. -/
def startCost (before : Option TextWord) (earlier : Option TextWord) (w : TextWord) : Int :=
  let cost := squareCost 70
  let cost := match before with
    | none => cost
    | some b =>
      if b.stops then if b.final then cost - squareCost 50 else cost + squareCost 600
      else if b.signed then cost - squareCost 40
      else if (earlier.map (·.final)).getD false then cost + squareCost 200 / (b.text.length + 2)
      else cost
  if w.opens then cost - squareCost 40
  else if w.final then cost + squareCost 150 / (w.text.length + 2)
  else cost

/-- The best way to go on from a word: its cost, the word after the line, and the length of the line. -/
structure Break where
  cost : Int
  next : Nat
  length : Int

/-- How lines are to be shaped. -/
structure LineShape where
  width : Int
  goal : Int
  firstIndent : Int
  otherIndent : Int
  /-- The length of the line before the paragraph; zero if there is none. -/
  lastLength : Int

/-- The best of the lines that begin with a word; `length` is that of the line up to a word. `fuel` is at
    least the number of words. -/
def bestLine (shape : LineShape) (words : Array TextWord) (later : Array Break) (start : Nat) :
    Nat → Nat → Int → Option Break → Option Break
  | 0, _, _, best => best
  | fuel + 1, next, length, best =>
    let isEnd := words.size ≤ next
    let ahead := later[next]?
    let lineCost : Int :=
      if isEnd then 0
      else
        squareCost ((shape.goal - length) * 10) +
          (match ahead with
            | some b => if b.next < words.size then raggedCost (length - b.length) else 0
            | none => 0)
    let cost := lineCost + (ahead.map (·.cost)).getD 0 +
      (if start == 0 && 0 < shape.lastLength then raggedCost (length - shape.lastLength) else 0)
    let best := match best with
      | some b => if cost < b.cost then some ⟨cost, next, length⟩ else some b
      | none => some ⟨cost, next, length⟩
    if isEnd then best
    else
      let size : Int := ((words[next]?).map fun w => (w.text.length : Int)).getD 0
      let space : Int := ((words[next - 1]?).map fun w => (w.space : Int)).getD 0
      let length := length + space + size
      if length < shape.width then bestLine shape words later start fuel (next + 1) length best else best

/-- The best way to go on from each word. -/
def breaks (shape : LineShape) (words : Array TextWord) : Array Break :=
  let first : Array Break := Array.replicate (words.size + 1) ⟨0, words.size, 0⟩
  (List.range words.size).reverse.foldl
    (fun later start =>
      match words[start]? with
      | none => later
      | some w =>
        let indent := if start == 0 then shape.firstIndent else shape.otherIndent
        let before := if start == 0 then none else words[start - 1]?
        let earlier := if start < 2 then none else words[start - 2]?
        match bestLine shape words later start (words.size + 1) (start + 1) (indent + w.text.length) none with
        | some b => later.setIfInBounds start { b with cost := b.cost + startCost before earlier w }
        | none => later)
    first

/-- Words by lines: the numbers of the first word of each and of the one behind it. `fuel` is more than the
    number of words. -/
def lineSpans (best : Array Break) (size : Nat) : Nat → Nat → List (Nat × Nat)
  | 0, _ => []
  | fuel + 1, start =>
    if size ≤ start then []
    else
      let next := ((best[start]?).map (·.next)).getD size
      (start, next) :: lineSpans best size fuel next

/-! ## Reading -/

/-- How paragraphs are to be read and written. -/
structure Shaping where
  width : Nat
  goal : Nat
  /-- The first line can have another indent than the second, which the others have. -/
  crown : Bool
  /-- The first line has another indent than the second. -/
  tagged : Bool
  /-- Lines are only broken, never joined. -/
  splits : Bool
  /-- One column between words, two between sentences. -/
  uniform : Bool
  /-- What lines of a paragraph begin with, without blanks. -/
  lead : Bytes
  /-- Blanks before and behind that. -/
  leadBefore : Nat
  leadSize : Nat

/-- A line in columns and words. -/
structure TextLine where
  /-- The columns before the mark that lines begin with. -/
  markIndent : Nat
  /-- The columns before the first word. -/
  indent : Nat
  /-- Whether the line has the mark, and words behind it. -/
  hasWords : Bool
  words : List TextWord
  /-- What is behind the blanks and the mark at its beginning. -/
  rest : Bytes
  ends : Bool
  /-- What is there of the mark. -/
  mark : Bytes

/-- The column behind blanks, and what comes after them. -/
def skipBlanks : Nat → Bytes → Nat × Bytes
  | column, 32 :: bs => skipBlanks (column + 1) bs
  | column, 9 :: bs => skipBlanks ((column / 8 + 1) * 8) bs
  | column, bs => (column, bs)

/-- Whether a byte ends a word. -/
def endsWord (b : UInt8) : Bool := b == 32 || (9 ≤ b && b ≤ 13)

/-- The words of a line from a column on. `fuel` is at least the number of bytes; the end of the text ends
    a sentence, too. -/
def wordsFrom (uniform atEnd : Bool) : Nat → Nat → Bytes → List TextWord
  | 0, _, _ | _, _, [] => []
  | fuel + 1, column, b :: bs =>
    let text := b :: bs.takeWhile fun b => !endsWord b
    let w := TextWord.of text
    let start := column + text.length
    let (stop, rest) := skipBlanks start ((b :: bs).drop text.length)
    let space := stop - start
    let isLast := rest.isEmpty
    let final := (isLast && atEnd) || (w.stops && (isLast || 1 < space))
    let space := if isLast || uniform then (if final then 2 else 1) else space
    { w with space, final } :: wordsFrom uniform atEnd fuel stop rest

/-- A line as it is read. -/
def TextLine.of (s : Shaping) (line : Bytes) : TextLine :=
  let bare := bareLine line
  let ends := line.contains newline
  let (column, rest) := skipBlanks 0 bare
  let markIndent := if s.lead.isEmpty then min s.leadBefore column else column
  let found := (s.lead.zip rest).takeWhile fun (a, b) => a == b
  let mark := found.map (·.1)
  let (indent, rest) := if s.lead.isEmpty then (column, rest)
    else if mark.length == s.lead.length then skipBlanks (column + mark.length) (rest.drop mark.length)
    else (column + mark.length, rest.drop mark.length)
  let hasWords := !rest.isEmpty && s.leadBefore ≤ markIndent && markIndent + s.leadSize ≤ indent &&
    mark.length == s.lead.length
  { markIndent, indent, hasWords, rest, ends, mark
    words := if hasWords then wordsFrom s.uniform (!ends) rest.length indent rest else [] }

/-- Blanks up to a column, as tabs where the text has tabs. -/
def blanksTo (tabs : Bool) (start stop : Nat) : Bytes :=
  if tabs && start + 1 < stop / 8 * 8 then
    List.replicate (stop / 8 - start / 8) 9 ++ List.replicate (stop % 8) 32
  else List.replicate (stop - start) 32

/-- A line that is not part of a paragraph. -/
def TextLine.kept (s : Shaping) (tabs : Bool) (l : TextLine) : Bytes :=
  let body := if l.markIndent < l.indent || !l.rest.isEmpty then
      blanksTo tabs 0 l.markIndent ++ l.mark ++
        (if l.rest.isEmpty then [] else blanksTo tabs (l.markIndent + l.mark.length) l.indent) ++
        (if l.rest.isEmpty && !l.ends && l.markIndent + s.lead.length ≤ l.indent then [newline] else [])
    else []
  body ++ l.rest ++ (if l.ends then [newline] else [])

/-- Whether a line can go on with a paragraph that another began. -/
def TextLine.continues (first l : TextLine) : Bool := l.hasWords && l.markIndent == first.markIndent

/-- The indent of all lines of a paragraph but the first. -/
def Shaping.otherIndent (s : Shaping) (before : Nat) (first : TextLine) (next : Option TextLine) : Nat :=
  let follows := (next.map first.continues).getD false
  let nextIndent := (next.map (·.indent)).getD 0
  if s.splits then first.indent
  else if s.crown then if follows then nextIndent else first.indent
  else if s.tagged then
    if follows && nextIndent != first.indent then nextIndent
    else if before == first.indent then (if first.indent == 0 then 3 else 0)
    else before
  else first.indent

/-- A paragraph on its lines; `tabs` says whether blanks are tabs. -/
def Shaping.write (s : Shaping) (tabs : Bool) (first : TextLine) (other : Nat) (words : List TextWord) : Bytes :=
  let words := match words.getLast? with
    | some last => (words.dropLast ++ [{ last with stops := true, final := true }]).toArray
    | none => #[]
  let shape : LineShape :=
    { width := s.width, goal := s.goal, firstIndent := first.indent, otherIndent := other, lastLength := 0 }
  let spans := lineSpans (breaks shape words) words.size (words.size + 1) 0
  spans.zipIdx.flatMap fun ((start, stop), i) =>
    let indent := if i == 0 then first.indent else other
    let front := blanksTo tabs 0 first.markIndent ++ s.lead
    let begin := front ++ blanksTo tabs (first.markIndent + s.lead.length) indent
    let step (done : Bytes × Nat) (w : TextWord × Nat) : Bytes × Nat :=
      let column := done.2 + w.1.text.length
      if w.2 + 1 == stop then (done.1 ++ w.1.text, column)
      else (done.1 ++ w.1.text ++ blanksTo tabs column (column + w.1.space), column + w.1.space)
    let chosen := ((words.extract start stop).toList.zipIdx).map fun (w, k) => (w, start + k)
    (chosen.foldl step (begin, max indent (first.markIndent + s.lead.length))).1 ++ [newline]

/-- Paragraphs on their lines, one after the other. `other` is the indent of the lines of the last one. -/
def paragraphs (s : Shaping) (tabs : Bool) : Nat → Nat → List TextLine → Bytes
  | 0, _, _ | _, _, [] => []
  | fuel + 1, other, first :: lines =>
    if !first.hasWords then first.kept s tabs ++ paragraphs s tabs fuel other lines
    else
      let other := s.otherIndent other first lines.head?
      let goesOn (l : TextLine) : Bool := first.continues l && l.indent == other
      let starts := match lines.head? with
        | none => false
        | some l =>
          first.continues l &&
            (if s.splits then false
            else if s.crown then true
            else if s.tagged then l.indent != first.indent
            else l.indent == other)
      let more := if starts then lines.takeWhile goesOn else []
      s.write tabs first other (first.words ++ more.flatMap (·.words)) ++
        paragraphs s tabs fuel other (lines.drop more.length)

/-! ## The program -/

/-- Arguments with a width behind a hyphen written as an option. -/
def spellWidth (arguments : List String) : List String :=
  match arguments with
  | first :: rest =>
    match first.toList with
    | '-' :: c :: cs => if c.isDigit then ("-w" ++ String.ofList (c :: cs)) :: rest else arguments
    | _ => arguments
  | [] => []

/-- How options ask for paragraphs to be shaped. -/
def Shaping.ofOptions (o : Options) : Except String Shaping := do
  let number (letter : Char) (most : Nat) : Except String (Option Nat) :=
    match o.value? letter with
    | none => .ok none
    | some text =>
      match natOf? text with
      | some n => if most < n then .error ("invalid width: " ++ Text.quoted text ++ ": Numerical result out of range") else .ok (some n)
      | none => .error ("invalid width: " ++ Text.quoted text)
  let width ← number 'w' 2500
  let goal ← number 'g' (width.getD 75)
  let width := width.getD (match goal with
    | some g => g + 10
    | none => 75)
  let mark := Text.bytes ((o.value? 'p').getD "")
  let bare := ((mark.dropWhile (· == 32)).reverse.dropWhile (· == 32)).reverse
  return { width, goal := goal.getD (width * 187 / 200), crown := o.has 'c', tagged := o.has 't'
           splits := o.has 's', uniform := o.has 'u', lead := bare
           leadBefore := (mark.takeWhile (· == 32)).length, leadSize := (mark.dropWhile (· == 32)).length }

/-- Writes paragraphs anew. -/
def fmt : Program := fun j =>
  withOptions
    { program := "fmt", plain := "cstu", valued := "wgp"
      names := [("crown-margin", 'c'), ("prefix", 'p'), ("split-only", 's'), ("tagged-paragraph", 't'),
        ("uniform-spacing", 'u'), ("width", 'w'), ("goal", 'g')] }
    (fun o j => do
      match Shaping.ofOptions o with
      | .error complaint => j.refuse 1 ("fmt: " ++ complaint)
      | .ok s =>
        let g ← j.gatherWith
          (fun name fault =>
            if fault == .isDirectory then "fmt: read error"
            else "fmt: cannot open " ++ Text.namedAlways name ++ " for reading: " ++ fault.phrase)
          o.operands
        let text (bs : Bytes) : Bytes :=
          let lines := (keptLines bs).map (TextLine.of s)
          paragraphs s (bs.contains 9) (lines.length + 1) 0 lines
        return g.finish (g.sources.flatMap fun source => text source.bytes))
    { j with arguments := spellWidth j.arguments }

end Recap.Tool
