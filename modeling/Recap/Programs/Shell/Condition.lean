import Recap.Programs.Shell.Switch
import Recap.Programs.Tool.Condition

/-!
# Conditions of the larger language

## Contents
- `traceLine` — shows what is carried out.
- `fitsRegex` — whether a text has a piece that fits, and what that piece is.
- `Test.holds` — whether a condition holds.
-/

namespace Recap.Shell

open Act

/-- Shows what is carried out, if an option asks for it. -/
def traceLine (line : Act String) : Act Unit := do
  if ← hasOption 'x' then
    let s ← get
    let own ← getVariable? "PS4"
    let mark := if s.flavour == .plain then "+ " else own.getD "+ "
    let deeper := if s.flavour == .plain then [] else List.replicate s.level (mark.toList.headD '+')
    write 2 (Text.bytes (String.ofList deeper ++ mark ++ (← line) ++ "\n"))

/-- The text of a pattern whose characters between quotes stand for themselves. -/
def regexText (gs : List Glyph) : String :=
  String.ofList (gs.flatMap fun g =>
    if g.quoted && ".[]*^$+?()\x7b\x7d|\\".toList.contains g.char then ['\\', g.char] else [g.char])

/-- The number of groups of a pattern. -/
def groupCount : Regex → Nat
  | .group _ r => groupCount r + 1
  | .many _ _ r | .few _ _ r | .other r | .near _ _ r => groupCount r
  | .seq a b | .either a b => groupCount a + groupCount b
  | .empty | .char _ | .any | .oneOf .. | .border _ | .again _ | .mark => 0

/-- Whether a text has a piece that fits a pattern; that piece and those of its groups are kept. A pattern
    that cannot be read fits nothing. -/
def fitsRegex (text : String) (pattern : List Glyph) : Act Bool := do
  let ignoreCase := (← get).switches.contains "nocasematch"
  let keep (texts : List String) : Act Unit :=
    putVariable "BASH_REMATCH" (some { held := .ofTexts texts })
  let dialect : Dialect :=
    { extended := true, ignoreCase, strayRepeat := .refused, strayBounds := .refused, strayClosing := .literal }
  match Regex.ofText dialect (Text.spread (regexText pattern)) with
  | .error _ =>
    setStatus 2
    return false
  | .ok r =>
    let t := (Text.spread text).toList.toArray
    match r.searchFrom? t 0 with
    | none =>
      keep []
      return false
    | some fit =>
      let piece (start stop : Nat) : String := Text.gathered (String.ofList (Regex.slice t start stop))
      let groups := (List.range (groupCount r)).map fun i =>
        ((fit.groups.lookup (i + 1)).map fun (start, stop) => piece start stop).getD ""
      keep (piece fit.start fit.stop :: groups)
      return true

/-- Whether a variable is set. -/
def isSet (text : String) : Act Bool := do
  let (name, key) := splitKey text
  match ← subjectOf name key with
  | .one value => return value.isSome
  | .many items _ => return !items.isEmpty

/-- Whether a condition on one word holds. -/
def unaryHolds (sign text : String) : Act Bool := do
  match sign with
  | "-z" => return text.isEmpty
  | "-n" => return !text.isEmpty
  | "-v" => isSet text
  | "-R" => return ((← get).variable text).refers
  | "-o" =>
    let s ← get
    match largeOptions.lookup text with
    | some (some c) => return s.options.contains c
    | _ => return s.switches.contains text
  | "-t" => return false
  | sign =>
    let letter := (sign.toList.drop 1).headD 'e'
    let kind ← ask (.look (← pathOf text))
    return Tool.Condition.fileHolds (if letter == 'a' then 'e' else letter) kind

/-- Whether a condition on two numbers holds, which are values of sums. -/
def numbersHold (a b : String) (p : Int → Int → Bool) : Act Bool := do
  match ← tryEvaluate "[[: " a with
  | none => return false
  | some x =>
    match ← tryEvaluate "[[: " b with
    | none => return false
    | some y => return p x y

/-- Whether a condition on two words holds, the second of which can be a pattern. -/
def binaryHolds (sign a : String) (gs : List Glyph) : Act Bool := do
  let b := glyphText gs
  let fits : Act Bool := do
    let style := { ← globStyle with grouped := true }
    return (Regex.ofGlyphs style gs).fitsText a
  let there (name : String) : Act Bool := unaryHolds "-e" name
  match sign with
  | "=" | "==" => fits
  | "!=" => return !(← fits)
  | "=~" => fitsRegex a gs
  | "<" => return a < b
  | ">" => return b < a
  | "-eq" => numbersHold a b (· == ·)
  | "-ne" => numbersHold a b (· != ·)
  | "-lt" => numbersHold a b fun x y => x < y
  | "-le" => numbersHold a b fun x y => x ≤ y
  | "-gt" => numbersHold a b fun x y => y < x
  | "-ge" => numbersHold a b fun x y => y ≤ x
  | "-ef" => return (← pathOf a).place == (← pathOf b).place
  | "-nt" => return (← there a) && !(← there b)
  | _ => return (← there b) && !(← there a)

/-- Whether a condition holds. -/
def Test.holds (perform : Perform) : Test → Act Bool
  | .unary sign w => do
    let text ← expandText perform w
    traceLine (return "[[ " ++ sign ++ " " ++ (if text.isEmpty then "''" else text) ++ " ]]")
    unaryHolds sign text
  | .binary sign a b => do
    let text ← expandText perform a
    let gs := glyphsOf (← perform (.expand b))
    let shown (s : String) : String := if s.isEmpty then "''" else s
    traceLine (return "[[ " ++ shown text ++ " " ++ sign ++ " " ++ shown (glyphText gs) ++ " ]]")
    binaryHolds sign text gs
  | .negate t => do return !(← t.holds perform)
  | .both a b => do if ← a.holds perform then b.holds perform else return false
  | .either a b => do if ← a.holds perform then return true else b.holds perform

end Recap.Shell
