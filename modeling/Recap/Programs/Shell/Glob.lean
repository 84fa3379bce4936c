import Recap.Programs.Shell.RegexText
import Recap.Text.Utf8

/-!
# Patterns of the shell

An asterisk fits any text, a question mark any character, and brackets any of some characters, unless
they stand between quotes. Where patterns can be grouped, a sign before parentheses says how often one of
the patterns between them can be there. A character is a byte here.

## Contents
- `Glyph` — characters that know whether they stand between quotes.
- `GlobStyle`, `Regex.ofGlyphs` — how patterns are written, and the pattern that glyphs are.
- `Regex.fitsText`, `trimFront`, `trimBack` — whether a text fits, and texts without a piece that does.
-/

namespace Recap.Shell

/-- A character, and whether it stands between quotes. -/
structure Glyph where
  char : Char
  quoted : Bool
  deriving DecidableEq

/-- The text of glyphs. -/
def glyphText (gs : List Glyph) : String := String.ofList (gs.map (·.char))

/-- Whether a glyph has a meaning in a pattern. -/
def Glyph.isActive (g : Glyph) : Bool := !g.quoted && "*?[".toList.contains g.char

/-- How patterns are written. -/
structure GlobStyle where
  /-- Whether a sign before parentheses says how often what they hold can be there. -/
  grouped : Bool
  /-- Whether a caret stands for other characters, too. -/
  caret : Bool
  /-- Whether small letters are not told from capital ones. -/
  ignoreCase : Bool := false

/-- Whether glyphs are a pattern, and not only a text. -/
def GlobStyle.isPattern (style : GlobStyle) : List Glyph → Bool
  | [] => false
  | g :: gs =>
    g.isActive || style.isPattern gs ||
      (style.grouped && !g.quoted && "+@!".toList.contains g.char && gs.head? == some ⟨'(', false⟩)

namespace Regex

/-- The ranges between brackets up to the closing one, and what comes after it. `fuel` is at least the
    number of glyphs. -/
def glyphRanges : Nat → List Glyph → List (Char × Char) → Option (List (Char × Char) × List Glyph)
  | 0, _, _ | _, [], _ => none
  | fuel + 1, g :: gs, ranges =>
    if g == ⟨']', false⟩ && !ranges.isEmpty then some (ranges, gs)
    else
      let named := if g == ⟨'[', false⟩ && (gs.head?.map (·.char)) == some ':' then
          namedClass? ((gs.drop 1).map (·.char))
        else none
      match named with
      | some (more, rest) => glyphRanges fuel (gs.drop (gs.length - rest.length)) (ranges ++ more)
      | none =>
        match gs with
        | ⟨'-', false⟩ :: h :: rest =>
          if h == ⟨']', false⟩ then glyphRanges fuel gs (ranges ++ [(g.char, g.char)])
          else glyphRanges fuel rest (ranges ++ [(g.char, h.char)])
        | gs => glyphRanges fuel gs (ranges ++ [(g.char, g.char)])

/-- The first piece of a pattern of glyphs, and what comes after it. -/
def glyphPiece (style : GlobStyle) (g : Glyph) (gs : List Glyph) : Regex × List Glyph :=
  let plain := literal style.ignoreCase g.char
  if g.quoted then (plain, gs)
  else
    match g.char with
    | '*' => (.many 0 none .any, gs)
    | '?' => (.any, gs)
    | '[' =>
      let (negated, body) := match gs with
        | ⟨'!', false⟩ :: body => (true, body)
        | ⟨'^', false⟩ :: body => if style.caret then (true, body) else (false, gs)
        | body => (false, body)
      match glyphRanges (body.length + 1) body [] with
      | some (ranges, rest) =>
        (.oneOf negated (if style.ignoreCase then ranges.flatMap bothCases else ranges), rest)
      | none => (plain, gs)
    | _ => (plain, gs)

/-- Glyphs up to the parenthesis that closes one, with those between bars apart, and what comes after
    it. -/
def glyphGroup : Nat → List Glyph → Option (List (List Glyph) × List Glyph)
  | _, [] => none
  | depth, g :: gs =>
    if g == ⟨')', false⟩ && depth == 0 then some ([[]], gs)
    else
      let isBar := g == ⟨'|', false⟩ && depth == 0
      let depth := if g == ⟨'(', false⟩ then depth + 1 else if g == ⟨')', false⟩ then depth - 1 else depth
      (glyphGroup depth gs).map fun (choices, rest) =>
        if isBar then ([] :: choices, rest)
        else
          match choices with
          | [] => ([[g]], rest)
          | first :: more => ((g :: first) :: more, rest)

/-- What a sign before parentheses makes of a pattern. -/
def grouped? (sign : Char) (r : Regex) : Option Regex :=
  match sign with
  | '?' => some (.many 0 (some 1) r)
  | '*' => some (.many 0 none r)
  | '+' => some (.many 1 none r)
  | '@' => some r
  | '!' => some (.other r)
  | _ => none

/-- A pattern that fits what one of some patterns fits. -/
def oneOfAll : List Regex → Regex
  | [] => .empty
  | [r] => r
  | r :: rs => .either r (oneOfAll rs)

/-- The pattern that glyphs are. `fuel` is at least their number. -/
def ofGlyphsFrom (style : GlobStyle) : Nat → List Glyph → Regex
  | 0, _ | _, [] => .empty
  | fuel + 1, g :: gs =>
    let group : Option (Regex × List Glyph) :=
      match style.grouped && !g.quoted, gs with
      | true, ⟨'(', false⟩ :: body => do
        let (choices, rest) ← glyphGroup 0 body
        let r ← grouped? g.char (oneOfAll (choices.map (ofGlyphsFrom style fuel)))
        return (r, rest)
      | _, _ => none
    let (piece, rest) := group.getD (glyphPiece style g gs)
    .seq piece (ofGlyphsFrom style fuel rest)

/-- Glyphs with their bytes as characters. -/
def spreadGlyphs (gs : List Glyph) : List Glyph :=
  gs.flatMap fun g => (Text.spread g.char.toString).toList.map (⟨·, g.quoted⟩)

/-- The pattern of bytes that glyphs are. -/
def ofGlyphs (style : GlobStyle) (gs : List Glyph) : Regex :=
  let gs := spreadGlyphs gs
  ofGlyphsFrom style gs.length gs

/-- Whether a pattern of bytes fits all of a text. -/
def fitsText (r : Regex) (text : String) : Bool := r.fitsAll (Text.spread text).toList.toArray

end Regex

/-! ## Trimming -/

/-- The positions among the bits of a number, in order. -/
def bitPositions (size bits : Nat) : List Nat := (List.range size).filter bits.testBit

/-- A text without a piece at its beginning. -/
def trimFront (longest : Bool) (r : Regex) (text : String) : String :=
  let cs := (Text.spread text).toList
  let t := cs.toArray
  let ends := bitPositions (t.size + 1) (r.reach t 1)
  match if longest then ends.getLast? else ends.head? with
  | some n => Text.gathered (String.ofList (cs.drop n))
  | none => text

/-- A text without a piece at its end. -/
def trimBack (longest : Bool) (r : Regex) (text : String) : String :=
  let cs := (Text.spread text).toList
  let t := cs.toArray
  let starts := (List.range (t.size + 1)).filter fun i => (r.reach t (1 <<< i)).testBit t.size
  match if longest then starts.head? else starts.getLast? with
  | some n => Text.gathered (String.ofList (cs.take n))
  | none => text

end Recap.Shell
