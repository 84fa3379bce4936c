import Recap.Proofs.Json.Double
import Recap.Proofs.Json.Quoted

/-!
# Reading written values

A value is written in one of two layouts. Both have the same tokens, since nothing but spaces and line
breaks stands between them (`Value.run_compactChars`, `Value.run_prettyChars`), and the tokens are read as
the tree of the value (`Value.foldl_tokens`). So either text is a whole document with that tree
(`Document.ofText_compact`, `Document.ofText_pretty`), whatever texts the value holds.

The tree is not quite the value: keys also carry the number they begin with, and what a double stands for is
read from its digits.

## Contents
- `Value.tokens`, `Value.node` — the tokens and the tree of a value.
- `Value.run_compactChars`, `Value.run_prettyChars` — the tokens of the two layouts.
- `Value.foldl_tokens` — the tokens are read as the tree.
- `Document.ofText_compact`, `Document.ofText_pretty` — reading a written value.
-/

namespace Recap.Json

open Recap.Decimal (Binary)
open Recap.Record

/-! ## Tokens and trees -/

/-- The token of a double. -/
def doubleToken (x : Float) : Token :=
  match Numeral.ofBinary? (Binary.ofFloat x) with
  | some n => if x.isFinite then .number n else .null
  | none => .null

/-- The tree of a double: what its digits are read as. -/
def doubleNode (x : Float) : Node :=
  match doubleToken x with
  | .number n => n.toNode
  | _ => .null

mutual

/-- The tokens of a value. -/
def Value.tokens : Value → List Token
  | .null => [.null]
  | .bool b => [.bool b]
  | .int i => [.number (.ofInt i)]
  | .float x => [doubleToken x]
  | .string s => [.string (escape s)]
  | .array items => .openBracket :: (Value.itemTokens items ++ [.closeBracket])
  | .object fields => .openBrace :: (Value.fieldTokens fields ++ [.closeBrace])

/-- The tokens of items, with commas between them. -/
def Value.itemTokens : List Value → List Token
  | [] => []
  | [v] => v.tokens
  | v :: vs => v.tokens ++ .comma :: Value.itemTokens vs

/-- The tokens of fields, with commas between them. -/
def Value.fieldTokens : List (String × Value) → List Token
  | [] => []
  | [(k, v)] => .string (escape k) :: .colon :: v.tokens
  | (k, v) :: fs => .string (escape k) :: .colon :: (v.tokens ++ .comma :: Value.fieldTokens fs)

end

mutual

/-- The tree of a value. -/
def Value.node : Value → Node
  | .null => .null
  | .bool b => .bool b
  | .int i => (Numeral.ofInt i).toNode
  | .float x => doubleNode x
  | .string s => .string s
  | .array items => .sequence (Value.itemNodes items) .closed
  | .object fields => .map (Value.fieldNodes fields) .closed

/-- The trees of items. -/
def Value.itemNodes : List Value → List Node
  | [] => []
  | v :: vs => v.node :: Value.itemNodes vs

/-- The trees of fields, with their keys. -/
def Value.fieldNodes : List (String × Value) → List (Key × Node)
  | [] => []
  | (k, v) :: fs => (toKey (escape k), v.node) :: Value.fieldNodes fs

end

/-! ## From texts to tokens -/

/-- The text is read as these tokens, whatever follows that does not continue a number. -/
def Lexes (cs : List Char) (ts : List Token) : Prop :=
  ∀ rest, NumberEnds rest → Mode.run .between (cs ++ rest) = ts ++ Mode.run .between rest

namespace Lexes

theorem null : Lexes nullText [.null] := fun _ _ => rfl

theorem bool (b : Bool) : Lexes (writeBool b) [.bool b] := by
  intro rest _
  cases b <;> rfl

theorem numeral {n : Numeral} (hn : n.Proper) : Lexes n.chars [.number n] := fun _ hrest =>
  Mode.run_between_of_takeNumeral? (takeNumeral?_chars hn hrest)

theorem int (i : Int) : Lexes (writeInt i) [.number (.ofInt i)] := by
  rw [← Numeral.chars_ofInt]
  exact numeral (Numeral.proper_ofInt i)

theorem quote (s : String) : Lexes (quote s) [.string (escape s)] := fun rest _ =>
  Mode.run_quote s rest

theorem double (x : Float) : Lexes (writeFloat x).toList [doubleToken x] := by
  by_cases hfinite : x.isFinite = true
  · obtain ⟨n, hn, hproper, -, hchars⟩ := exists_numeral_of_finite hfinite
    have htoken : doubleToken x = .number n := by
      rw [doubleToken, hn]
      exact if_pos hfinite
    rw [hchars, htoken]
    exact numeral hproper
  · have htoken : doubleToken x = .null := by
      rw [doubleToken]
      split
      · exact if_neg hfinite
      · rfl
    rw [writeFloat_of_not_finite hfinite, htoken]
    exact null

variable {cs ds : List Char} {ts us : List Token}

/-- Two texts with a comma between them. -/
theorem comma (hc : Lexes cs ts) (hd : Lexes ds us) : Lexes (cs ++ ',' :: ds) (ts ++ .comma :: us) := by
  intro rest hrest
  have hcomma : NumberEnds (',' :: (ds ++ rest)) := by rintro c ⟨⟩; decide
  rw [List.append_assoc, List.cons_append, hc _ hcomma]
  show ts ++ .comma :: Mode.run .between (ds ++ rest) = _
  rw [hd rest hrest, List.append_assoc, List.cons_append]

/-- A key before its value. -/
theorem entry (k : String) (hc : Lexes cs ts) :
    Lexes (Json.quote k ++ ':' :: cs) (.string (escape k) :: .colon :: ts) := by
  intro rest hrest
  rw [List.append_assoc, Mode.run_quote]
  show .string (escape k) :: .colon :: Mode.run .between (cs ++ rest) = _
  rw [hc rest hrest]
  rfl

/-- Brackets around items. -/
theorem brackets (hc : Lexes cs ts) :
    Lexes ('[' :: (cs ++ [']'])) (.openBracket :: (ts ++ [.closeBracket])) := by
  intro rest _
  have hclose : NumberEnds (']' :: rest) := by rintro c ⟨⟩; decide
  show .openBracket :: Mode.run .between ((cs ++ [']']) ++ rest) = _
  rw [List.append_assoc, List.singleton_append, hc _ hclose, List.cons_append, List.append_assoc]
  rfl

/-- Braces around entries. -/
theorem braces (hc : Lexes cs ts) :
    Lexes ('{' :: (cs ++ ['}'])) (.openBrace :: (ts ++ [.closeBrace])) := by
  intro rest _
  have hclose : NumberEnds ('}' :: rest) := by rintro c ⟨⟩; decide
  show .openBrace :: Mode.run .between ((cs ++ ['}']) ++ rest) = _
  rw [List.append_assoc, List.singleton_append, hc _ hclose, List.cons_append, List.append_assoc]
  rfl

/-- Nothing is read from a space. -/
theorem space (hc : Lexes cs ts) : Lexes (' ' :: cs) ts := hc

/-- Nothing is read from the spaces of a line. -/
theorem run_spaces (n : Nat) (rest : List Char) :
    Mode.run .between (List.replicate n ' ' ++ rest) = Mode.run .between rest := by
  induction n with
  | zero => rfl
  | succ n ih => exact ih

/-- Nor from a line break before a text -/
theorem afterBreak (depth : Nat) (hc : Lexes cs ts) : Lexes (breakLine depth ++ cs) ts := by
  intro rest hrest
  rw [List.append_assoc]
  show Mode.run .between (List.replicate (2 * depth) ' ' ++ (cs ++ rest)) = _
  rw [run_spaces, hc rest hrest]

/-- or after it. -/
theorem beforeBreak (hc : Lexes cs ts) (depth : Nat) : Lexes (cs ++ breakLine depth) ts := by
  intro rest _
  have hbreak : NumberEnds (breakLine depth ++ rest) := by rintro c ⟨⟩; decide
  rw [List.append_assoc, hc _ hbreak]
  show ts ++ Mode.run .between (List.replicate (2 * depth) ' ' ++ rest) = _
  rw [run_spaces]

/-- A whole text has just these tokens. -/
theorem tokenize_eq (hc : Lexes cs ts) : tokenize cs = ts := by
  have h := hc [] NumberEnds.nil
  rwa [List.append_nil, Mode.run, Mode.finish, List.append_nil] at h

end Lexes

mutual

/-- **The compact text of a value has its tokens.** -/
theorem Value.lexes_compactChars (v : Value) : Lexes v.compactChars v.tokens := by
  cases v with
  | null => rw [Value.compactChars, Value.tokens]; exact .null
  | bool b => rw [Value.compactChars, Value.tokens]; exact .bool b
  | int i => rw [Value.compactChars, Value.tokens]; exact .int i
  | float x => rw [Value.compactChars, Value.tokens]; exact .double x
  | string s => rw [Value.compactChars, Value.tokens]; exact .quote s
  | array items =>
      rw [Value.compactChars, Value.tokens]
      exact .brackets (Value.lexes_compactItems items)
  | object fields =>
      rw [Value.compactChars, Value.tokens]
      exact .braces (Value.lexes_compactFields fields)

theorem Value.lexes_compactItems (vs : List Value) :
    Lexes (Value.compactItems vs) (Value.itemTokens vs) := by
  match vs with
  | [] => rw [Value.compactItems, Value.itemTokens]; exact fun _ _ => rfl
  | [v] => rw [Value.compactItems, Value.itemTokens]; exact Value.lexes_compactChars v
  | v :: w :: vs =>
      rw [Value.compactItems, Value.itemTokens]
      · exact .comma (Value.lexes_compactChars v) (Value.lexes_compactItems (w :: vs))
      · exact List.cons_ne_nil w vs
      · exact List.cons_ne_nil w vs

theorem Value.lexes_compactFields (fs : List (String × Value)) :
    Lexes (Value.compactFields fs) (Value.fieldTokens fs) := by
  match fs with
  | [] => rw [Value.compactFields, Value.fieldTokens]; exact fun _ _ => rfl
  | [(k, v)] => rw [Value.compactFields, Value.fieldTokens]; exact .entry k (Value.lexes_compactChars v)
  | (k, v) :: g :: gs =>
      rw [Value.compactFields, Value.fieldTokens]
      · exact .comma (.entry k (Value.lexes_compactChars v)) (Value.lexes_compactFields (g :: gs))
      · exact List.cons_ne_nil g gs
      · exact List.cons_ne_nil g gs

end

mutual

/-- **The text of a value in lines has its tokens**, too. -/
theorem Value.lexes_prettyChars (depth : Nat) (v : Value) : Lexes (v.prettyChars depth) v.tokens := by
  match v with
  | .null => rw [Value.prettyChars, Value.tokens]; exact .null
  | .bool b => rw [Value.prettyChars, Value.tokens]; exact .bool b
  | .int i => rw [Value.prettyChars, Value.tokens]; exact .int i
  | .float x => rw [Value.prettyChars, Value.tokens]; exact .double x
  | .string s => rw [Value.prettyChars, Value.tokens]; exact .quote s
  | .array [] => rw [Value.prettyChars, Value.tokens, Value.itemTokens]; exact fun _ _ => rfl
  | .array (v :: vs) =>
      rw [Value.prettyChars, Value.tokens]
      exact .brackets (.beforeBreak (Value.lexes_prettyItems (depth + 1) (v :: vs)) depth)
  | .object [] => rw [Value.prettyChars, Value.tokens, Value.fieldTokens]; exact fun _ _ => rfl
  | .object (f :: fs) =>
      rw [Value.prettyChars, Value.tokens]
      exact .braces (.beforeBreak (Value.lexes_prettyFields (depth + 1) (f :: fs)) depth)

theorem Value.lexes_prettyItems (depth : Nat) (vs : List Value) :
    Lexes (Value.prettyItems depth vs) (Value.itemTokens vs) := by
  match vs with
  | [] => rw [Value.prettyItems, Value.itemTokens]; exact fun _ _ => rfl
  | [v] =>
      rw [Value.prettyItems, Value.itemTokens]
      exact .afterBreak depth (Value.lexes_prettyChars depth v)
  | v :: w :: vs =>
      rw [Value.prettyItems, Value.itemTokens]
      · exact .comma (.afterBreak depth (Value.lexes_prettyChars depth v))
          (Value.lexes_prettyItems depth (w :: vs))
      · exact List.cons_ne_nil w vs
      · exact List.cons_ne_nil w vs

theorem Value.lexes_prettyFields (depth : Nat) (fs : List (String × Value)) :
    Lexes (Value.prettyFields depth fs) (Value.fieldTokens fs) := by
  match fs with
  | [] => rw [Value.prettyFields, Value.fieldTokens]; exact fun _ _ => rfl
  | [(k, v)] =>
      rw [Value.prettyFields, Value.fieldTokens, List.append_assoc]
      exact .afterBreak depth (.entry k (.space (Value.lexes_prettyChars depth v)))
  | (k, v) :: g :: gs =>
      rw [Value.prettyFields, Value.fieldTokens]
      · have hfirst : Lexes (breakLine depth ++ quote k ++ ':' :: ' ' :: v.prettyChars depth)
            (.string (escape k) :: .colon :: v.tokens) := by
          rw [List.append_assoc]
          exact .afterBreak depth (.entry k (.space (Value.lexes_prettyChars depth v)))
        exact .comma hfirst (Value.lexes_prettyFields depth (g :: gs))
      · exact List.cons_ne_nil g gs
      · exact List.cons_ne_nil g gs

end

/-! ## From tokens to trees -/

/-- No value starts with a closing bracket. -/
theorem Value.tokens_eq_cons (v : Value) :
    ∃ t ts, v.tokens = t :: ts ∧ t ≠ .closeBracket := by
  cases v with
  | null => exact ⟨_, _, by rw [Value.tokens], by simp⟩
  | bool b => exact ⟨_, _, by rw [Value.tokens], by simp⟩
  | int i => exact ⟨_, _, by rw [Value.tokens], by simp⟩
  | float x =>
      refine ⟨_, _, by rw [Value.tokens], ?_⟩
      rw [doubleToken]
      split
      · split <;> simp
      · simp
  | string s => exact ⟨_, _, by rw [Value.tokens], by simp⟩
  | array items => exact ⟨_, _, by rw [Value.tokens], by simp⟩
  | object fields => exact ⟨_, _, by rw [Value.tokens], by simp⟩

/-- Reading tokens, one after the other. -/
def Parse.run (p : Parse) (ts : List Token) : Parse := ts.foldl Parse.step p

theorem Parse.run_append (p : Parse) (ts us : List Token) : p.run (ts ++ us) = (p.run ts).run us :=
  List.foldl_append

theorem Parse.run_cons (p : Parse) (t : Token) (ts : List Token) : p.run (t :: ts) = (p.step t).run ts :=
  rfl

/-- The first item of a sequence is read like every other one. -/
theorem Parse.run_firstItem (v : Value) (vs : List Value) (fs : List Frame) :
    (Parse.firstItem fs).run (Value.itemTokens (v :: vs)) =
      (Parse.value (.item [] :: fs)).run (Value.itemTokens (v :: vs)) := by
  obtain ⟨t, us, htokens, hopen⟩ := v.tokens_eq_cons
  have hstep : (Parse.firstItem fs).step t = (Parse.value (.item [] :: fs)).step t := by
    cases t <;> first | rfl | exact absurd rfl hopen
  have hitems : ∃ ts, Value.itemTokens (v :: vs) = t :: ts := by
    cases vs with
    | nil => exact ⟨us, by rw [Value.itemTokens, htokens]⟩
    | cons w ws =>
        refine ⟨us ++ .comma :: Value.itemTokens (w :: ws), ?_⟩
        rw [Value.itemTokens, htokens]
        · rfl
        · exact List.cons_ne_nil w ws
  obtain ⟨ts, hts⟩ := hitems
  rw [hts, Parse.run_cons, hstep]
  rfl

/-- And the first key like every other one. -/
theorem Parse.run_firstKey (f : String × Value) (gs : List (String × Value)) (fs : List Frame) :
    (Parse.firstKey fs).run (Value.fieldTokens (f :: gs)) =
      (Parse.nextKey fs []).run (Value.fieldTokens (f :: gs)) := by
  obtain ⟨k, v⟩ := f
  cases gs with
  | nil => rw [Value.fieldTokens]; rfl
  | cons g gs =>
      rw [Value.fieldTokens]
      · rfl
      · exact List.cons_ne_nil g gs

/-- A number that is read as a double, or nothing where it is none. -/
theorem Parse.step_doubleToken (x : Float) (fs : List Frame) :
    (Parse.value fs).step (doubleToken x) = Parse.deliver (doubleNode x) fs := by
  rw [doubleNode, doubleToken]
  split
  · split <;> rfl
  · rfl

mutual

/-- **The tokens of a value are read as its tree**, and delivered where it belongs. -/
theorem Value.run_tokens (v : Value) (fs : List Frame) :
    (Parse.value fs).run v.tokens = Parse.deliver v.node fs := by
  cases v with
  | null => rw [Value.tokens, Value.node]; rfl
  | bool b => rw [Value.tokens, Value.node]; rfl
  | int i => rw [Value.tokens, Value.node]; rfl
  | float x => rw [Value.tokens, Value.node]; exact Parse.step_doubleToken x fs
  | string s =>
      rw [Value.tokens, Value.node]
      show Parse.deliver (stringNode (escape s)) fs = _
      rw [stringNode_escape]
  | array items =>
      rw [Value.tokens, Value.node]
      show (Parse.firstItem fs).run (Value.itemTokens items ++ [.closeBracket]) = _
      cases items with
      | nil => rw [Value.itemTokens, Value.itemNodes]; rfl
      | cons v vs =>
          rw [Parse.run_append, Parse.run_firstItem, Value.run_itemTokens (v :: vs) (List.cons_ne_nil v vs) [] fs,
            List.append_nil]
          show Parse.deliver (.sequence (Value.itemNodes (v :: vs)).reverse.reverse .closed) fs = _
          rw [List.reverse_reverse]
  | object fields =>
      rw [Value.tokens, Value.node]
      show (Parse.firstKey fs).run (Value.fieldTokens fields ++ [.closeBrace]) = _
      cases fields with
      | nil => rw [Value.fieldTokens, Value.fieldNodes]; rfl
      | cons f gs =>
          rw [Parse.run_append, Parse.run_firstKey, Value.run_fieldTokens (f :: gs) (List.cons_ne_nil f gs) [] fs,
            List.append_nil]
          show Parse.deliver (.map (Value.fieldNodes (f :: gs)).reverse.reverse .closed) fs = _
          rw [List.reverse_reverse]

/-- Items are put before those that are read already, last first. -/
theorem Value.run_itemTokens (vs : List Value) (hne : vs ≠ []) (items : List Node) (fs : List Frame) :
    (Parse.value (.item items :: fs)).run (Value.itemTokens vs) =
      .afterItem fs ((Value.itemNodes vs).reverse ++ items) := by
  match vs with
  | [] => exact absurd rfl hne
  | [v] =>
      rw [Value.itemTokens, Value.run_tokens v, Value.itemNodes, Value.itemNodes]
      rfl
  | v :: w :: ws =>
      rw [Value.itemTokens, Value.itemNodes, List.reverse_cons, List.append_assoc]
      · rw [Parse.run_append, Value.run_tokens v]
        exact Value.run_itemTokens (w :: ws) (List.cons_ne_nil w ws) (v.node :: items) fs
      · exact List.cons_ne_nil w ws

/-- And so are entries. -/
theorem Value.run_fieldTokens (gs : List (String × Value)) (hne : gs ≠ [])
    (entries : List (Key × Node)) (fs : List Frame) :
    (Parse.nextKey fs entries).run (Value.fieldTokens gs) =
      .afterEntry fs ((Value.fieldNodes gs).reverse ++ entries) := by
  match gs with
  | [] => exact absurd rfl hne
  | [(k, v)] =>
      rw [Value.fieldTokens, Value.fieldNodes, Value.fieldNodes]
      show (Parse.value (.entry entries (toKey (escape k)) :: fs)).run v.tokens = _
      rw [Value.run_tokens v]
      rfl
  | (k, v) :: g :: hs =>
      rw [Value.fieldTokens, Value.fieldNodes, List.reverse_cons, List.append_assoc]
      · show (Parse.value (.entry entries (toKey (escape k)) :: fs)).run
          (v.tokens ++ .comma :: Value.fieldTokens (g :: hs)) = _
        rw [Parse.run_append, Value.run_tokens v]
        exact Value.run_fieldTokens (g :: hs) (List.cons_ne_nil g hs)
          ((toKey (escape k), v.node) :: entries) fs
      · exact List.cons_ne_nil g hs

end

/-! ## Documents -/

/-- A text with the tokens of a value is a whole document with its tree. -/
theorem Document.ofText_of_lexes {s : String} {v : Value} (h : Lexes s.toList v.tokens) :
    Document.ofText s = ⟨v.node, true⟩ := by
  rw [Document.ofText, h.tokenize_eq, Document.ofTokens]
  show ((Parse.value []).run v.tokens).finish = _
  rw [Value.run_tokens]
  rfl

/-- **The compact text of a value is read as its tree.** -/
theorem Document.ofText_compact (v : Value) : Document.ofText v.compact = ⟨v.node, true⟩ := by
  apply Document.ofText_of_lexes
  rw [Value.compact, String.toList_ofList]
  exact v.lexes_compactChars

/-- **The text of a value in lines is read as its tree.** -/
theorem Document.ofText_pretty (v : Value) : Document.ofText v.pretty = ⟨v.node, true⟩ := by
  apply Document.ofText_of_lexes
  rw [Value.pretty, String.toList_ofList]
  exact v.lexes_prettyChars 0

end Recap.Json
