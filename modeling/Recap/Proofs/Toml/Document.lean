import Recap.Proofs.Toml.Double
import Recap.Proofs.Toml.Quoted

/-!
# Documents come back

A written document is a list of lines: empty ones, headers of tables, and keys with their values. What a line
does to the tables read so far is `Line.step`, which knows nothing of characters; that a line is read in this
way is shown for each kind of line once (`Line.Proper.readLines_cons`), and a document is read by doing so
line after line (`readDocument_lines`).

Values are read with fuel. A list takes one unit for each of its items, and each of them has at least a
character, so a text has fuel enough for the values in it (`Spells`).

## Contents
- `Spells`, `spells_word`, `spells_quote`, `spells_writeArray` — the texts of values.
- `BareKey`, `readKey_bare` — keys without quotes.
- `Line`, `Line.chars`, `Line.step` — lines, their characters, and what they do.
- `Line.Proper`, `readLines_lines`, `readDocument_lines` — documents.
-/

namespace Recap.Toml

/-! ## Values -/

/-- The text of a value, which ends its line. -/
structure Spells (text : List Char) (item : Item) : Prop where
  head : ∀ c ∈ text.head?, isGap c = false
  read : ∀ fuel rest, text.length ≤ fuel →
    readValue (fuel + 1) depthLimit (text ++ '\n' :: rest) = some (item, '\n' :: rest)

theorem eq_of_isGap {c : Char} (h : ¬ isGap c = false) : c = ' ' ∨ c = '\t' := by
  simpa only [isGap, Bool.not_eq_false, Bool.or_eq_true, beq_iff_eq] using h

/-- What begins with no bracket is a text or a word. -/
theorem readValue_simple {fuel depth : Nat} {cs : List Char}
    (h : ∀ c ∈ cs.head?, c ≠ '[' ∧ c ≠ '\x7b') : readValue (fuel + 1) depth cs = readSimple cs := by
  unfold readValue
  split
  · cases ‹_ = 0›
  · exact absurd rfl (h _ rfl).1
  · exact absurd rfl (h _ rfl).2
  · exact absurd rfl (h _ rfl).1
  · exact absurd rfl (h _ rfl).2
  · rfl

theorem spells_word {word : List Char} {item : Item} (hmarks : ∀ c ∈ word, isMark c = true)
    (hread : readWord? word = some item) : Spells word item where
  head := by
    intro c hc
    have hc' := hmarks c (List.mem_of_mem_head? hc)
    by_contra hgap
    rcases eq_of_isGap hgap with rfl | rfl <;> cases hc'
  read := by
    intro fuel rest _
    rw [readValue_simple ?_, readSimple_word hmarks, hread]
    · rfl
    · cases word with
      | nil => simp
      | cons d ds =>
        rintro c ⟨⟩
        have hd := hmarks d List.mem_cons_self
        constructor
        · rintro rfl
          cases hd
        · rintro rfl
          cases hd

theorem spells_writeBool (b : Bool) : Spells (writeBool b).toList (.boolean b) := by
  have htext : (writeBool b).toList =
      if b then ['t', 'r', 'u', 'e'] else ['f', 'a', 'l', 's', 'e'] := by
    cases b <;> rfl
  refine spells_word ?_ (readWord?_writeBool b)
  rw [htext, ← List.all_eq_true]
  cases b <;> rfl

theorem spells_repr {n : Nat} (hn : n < 2 ^ 128) : Spells (Nat.repr n).toList (.integer (some n)) := by
  refine spells_word (fun c hc => ?_) (readWord?_repr hn)
  rw [Nat.toList_repr] at hc
  exact isMark_of_isDigit ((Json.digits_toDigits n).isDigit c hc)

theorem spells_writeFloat {x : Float} (hx : x.isNaN = false) :
    Spells (writeFloat x).toList (.float (some x)) :=
  spells_word (isMark_of_mem_writeFloat x) (readWord?_writeFloat_self hx)

/-! ## Texts -/

theorem unquoted_cons {c : Char} (h : c ≠ '"' ∧ c ≠ '\'') (cs : List Char) : Unquoted (c :: cs) :=
  fun _ => ⟨fun heq => h.1 (List.cons.inj heq).1, fun heq => h.2 (List.cons.inj heq).1⟩

/-- The quotes come first. -/
theorem quoteChars_eq_cons (cs : List Char) :
    ∃ q tail, quoteChars cs = q :: tail ∧ (q = '"' ∨ q = '\'') := by
  unfold quoteChars
  cases chooseQuotes cs <;> simp

/-- A text in quotes, as a value. -/
theorem readValue_quoteChars (fuel depth : Nat) (cs : List Char) {rest : List Char}
    (hrest : Unquoted rest) :
    readValue (fuel + 1) depth (quoteChars cs ++ rest) = some (.string (String.ofList cs), rest) := by
  rw [readValue_simple, readSimple_quoteChars cs hrest]
  obtain ⟨q, tail, htext, hq⟩ := quoteChars_eq_cons cs
  rw [htext]
  rintro c ⟨⟩
  rcases hq with rfl | rfl <;> decide

theorem toList_quote (s : String) : (quote s).toList = quoteChars s.toList := String.toList_ofList

theorem spells_quote (s : String) : Spells (quote s).toList (.string s) where
  head := by
    obtain ⟨q, tail, htext, hq⟩ := quoteChars_eq_cons s.toList
    rw [toList_quote, htext]
    rintro c ⟨⟩
    rcases hq with rfl | rfl <;> rfl
  read := by
    intro fuel rest _
    have hrest : Unquoted ('\n' :: rest) := unquoted_cons (by decide) rest
    rw [toList_quote, readValue_quoteChars fuel depthLimit _ hrest, String.ofList_toList]

/-! ## Lists of texts -/

theorem toList_join (ss : List String) : (String.join ss).toList = ss.flatMap String.toList := by
  induction ss with
  | nil => rfl
  | cons s ss ih => rw [String.join_cons, String.toList_append, ih, List.flatMap_cons]

/-- The lines of a list's items. -/
def itemLines (ss : List String) : List Char :=
  ss.flatMap fun s => [' ', ' ', ' ', ' '] ++ quoteChars s.toList ++ [',', '\n']

/-- Nothing is skipped in front of quotes. -/
theorem skipVoid_quoteChars (cs rest : List Char) :
    skipVoid false (quoteChars cs ++ rest) = some (quoteChars cs ++ rest) := by
  obtain ⟨q, tail, htext, hq⟩ := quoteChars_eq_cons cs
  rw [htext]
  rcases hq with rfl | rfl <;> rfl

/-- An item of a list, after what is skipped. -/
theorem readItems_item {fuel depth : Nat} {items : List Item} {cs rest : List Char} {s : String}
    (hskip : skipVoid false cs = some (quoteChars s.toList ++ rest)) (hrest : Unquoted rest) :
    readItems (fuel + 2) depth items cs =
      match skipVoid false rest with
      | some (',' :: rest) => readItems (fuel + 1) depth (.string s :: items) rest
      | some (']' :: rest) => some (.array (.string s :: items).reverse, rest)
      | _ => none := by
  have hbracket : ∀ more, quoteChars s.toList ++ rest ≠ ']' :: more := by
    obtain ⟨q, tail, htext, hq⟩ := quoteChars_eq_cons s.toList
    intro more hmore
    rw [htext] at hmore
    rcases hq with rfl | rfl
    · cases (List.cons.inj hmore).1
    · cases (List.cons.inj hmore).1
  rw [readItems, hskip]
  split
  · next heq => cases heq
  · next more heq => exact absurd (Option.some.inj heq) (hbracket more)
  · next more _ heq =>
    cases Option.some.inj heq
    rewrite [readValue_quoteChars fuel depth _ hrest, String.ofList_toList]
    rfl

/-- **Items in lines of their own are read one by one.** -/
theorem readItems_itemLines {fuel depth : Nat} (ss : List String) (items : List Item)
    (rest : List Char) (hfuel : ss.length < fuel) :
    readItems fuel depth items ('\n' :: (itemLines ss ++ ']' :: rest)) =
      some (.array (items.reverse ++ ss.map .string), rest) := by
  induction ss generalizing fuel items with
  | nil =>
    obtain ⟨fuel, rfl⟩ := Nat.exists_eq_succ_of_ne_zero (Nat.ne_of_gt hfuel)
    have hskip : skipVoid false ('\n' :: (itemLines [] ++ ']' :: rest)) = some (']' :: rest) := rfl
    rw [readItems, hskip]
    simp
  | cons s ss ih =>
    obtain ⟨fuel, rfl⟩ := Nat.exists_eq_add_of_le (show 2 ≤ fuel by simp at hfuel; omega)
    have hlines : itemLines (s :: ss) ++ ']' :: rest = [' ', ' ', ' ', ' '] ++
        (quoteChars s.toList ++ ',' :: '\n' :: (itemLines ss ++ ']' :: rest)) := by
      simp [itemLines]
    have hskip : skipVoid false ('\n' :: (itemLines (s :: ss) ++ ']' :: rest)) =
        some (quoteChars s.toList ++ ',' :: '\n' :: (itemLines ss ++ ']' :: rest)) := by
      rw [hlines]
      exact skipVoid_quoteChars s.toList _
    rw [Nat.add_comm 2 fuel, readItems_item hskip (unquoted_cons (by decide) _)]
    show readItems (fuel + 1) depth (.string s :: items) ('\n' :: (itemLines ss ++ ']' :: rest)) = _
    rw [ih _ (by simp at hfuel; omega)]
    simp

theorem toList_writeArray_lines (s t : String) (ss : List String) :
    (writeArray (s :: t :: ss)).toList = '[' :: '\n' :: (itemLines (s :: t :: ss) ++ [']']) := by
  have hjoin : ∀ ss : List String,
      (String.join (ss.map fun s => "    " ++ quote s ++ ",\n")).toList = itemLines ss := by
    intro ss
    have hitem : ∀ s, ("    " ++ quote s ++ ",\n").toList =
        [' ', ' ', ' ', ' '] ++ quoteChars s.toList ++ [',', '\n'] := by
      intro s
      simp [toList_quote]
    simp only [toList_join, List.flatMap_map, itemLines, hitem]
  have hlines : writeArray (s :: t :: ss) = "[\n" ++
      String.join ((s :: t :: ss).map fun s => "    " ++ quote s ++ ",\n") ++ "]" := rfl
  rw [hlines, String.toList_append, String.toList_append, hjoin]
  rfl

theorem length_le_itemLines (ss : List String) : ss.length ≤ (itemLines ss).length := by
  induction ss with
  | nil => exact Nat.le_refl 0
  | cons s ss ih =>
    have hcons : itemLines (s :: ss) =
        [' ', ' ', ' ', ' '] ++ quoteChars s.toList ++ [',', '\n'] ++ itemLines ss := rfl
    rw [hcons, List.length_append, List.length_cons]
    simp only [List.length_append, List.length_cons]
    omega

theorem spells_writeArray (ss : List String) :
    Spells (writeArray ss).toList (.array (ss.map .string)) := by
  match ss with
  | [] =>
    have htext : (writeArray []).toList = ['[', ']'] := rfl
    rw [htext]
    refine ⟨by simp [isGap], fun fuel rest hfuel => ?_⟩
    obtain ⟨fuel, rfl⟩ := Nat.exists_eq_add_of_le (show 2 ≤ fuel from hfuel)
    rw [Nat.add_comm 2 fuel]
    rfl
  | [s] =>
    have htext : (writeArray [s]).toList = '[' :: (quoteChars s.toList ++ [']']) := by
      rw [writeArray, String.toList_append, String.toList_append, toList_quote]
      rfl
    rw [htext]
    refine ⟨by simp [isGap], fun fuel rest hfuel => ?_⟩
    obtain ⟨fuel, rfl⟩ := Nat.exists_eq_add_of_le (show 2 ≤ fuel by simp at hfuel; omega)
    have hcs : '[' :: (quoteChars s.toList ++ [']']) ++ '\n' :: rest =
        '[' :: (quoteChars s.toList ++ ']' :: '\n' :: rest) := by simp
    rw [hcs, Nat.add_comm 2 fuel]
    show readItems (fuel + 2) 79 [] (quoteChars s.toList ++ ']' :: '\n' :: rest) = _
    rw [readItems_item (skipVoid_quoteChars _ _) (unquoted_cons (by decide) _)]
    rfl
  | s :: t :: ss =>
    rw [toList_writeArray_lines]
    refine ⟨by simp [isGap], fun fuel rest hfuel => ?_⟩
    have hcs : '[' :: '\n' :: (itemLines (s :: t :: ss) ++ [']']) ++ '\n' :: rest =
        '[' :: '\n' :: (itemLines (s :: t :: ss) ++ ']' :: '\n' :: rest) := by simp
    have hlength := length_le_itemLines (s :: t :: ss)
    rw [hcs]
    show readItems fuel 79 [] ('\n' :: (itemLines (s :: t :: ss) ++ ']' :: '\n' :: rest)) = _
    rw [readItems_itemLines]
    · rfl
    · simp only [List.length_cons, List.length_append] at hfuel hlength ⊢
      omega

/-! ## Keys -/

/-- A key that needs no quotes. -/
structure BareKey (key : String) : Prop where
  ne_nil : key.toList ≠ []
  isBare : ∀ c ∈ key.toList, isBare c = true

theorem BareKey.of_all {key : String} (h : (!key.toList.isEmpty && key.toList.all Toml.isBare) = true) :
    BareKey key := by
  obtain ⟨hne, hall⟩ := Bool.and_eq_true_iff.mp h
  exact ⟨by simpa using hne, List.all_eq_true.mp hall⟩

/-- Characters that a key without quotes does not begin with. -/
theorem ne_of_isBare {c : Char} (h : isBare c = true) :
    isGap c = false ∧ c ≠ '"' ∧ c ≠ '\'' ∧ c ≠ '[' ∧ c ≠ '#' ∧ c ≠ '\n' ∧ c ≠ '\r' := by
  refine ⟨?_, ?_, ?_, ?_, ?_, ?_, ?_⟩
  · by_contra hgap
    rcases eq_of_isGap hgap with rfl | rfl <;> cases h
  all_goals
    rintro rfl
    cases h

/-- **A key without quotes is read** up to what cannot stand in it. -/
theorem readKey_bare {key : String} (hkey : BareKey key) {tail : List Char}
    (htail : ∀ c ∈ tail.head?, isBare c = false) (hpoint : ∀ cs, skipGaps tail ≠ '.' :: cs) :
    readKey (key.toList ++ tail) = some ([key], skipGaps tail) := by
  obtain ⟨hne, hbare⟩ := hkey
  have htake : (key.toList ++ tail).takeWhile isBare = key.toList := by
    rw [List.takeWhile_append_of_pos hbare]
    cases tail with
    | nil => exact List.append_nil _
    | cons c cs => simp [htail c rfl]
  have hdrop : (key.toList ++ tail).dropWhile isBare = tail := by
    rw [List.dropWhile_append_of_pos hbare]
    cases tail with
    | nil => rfl
    | cons c cs => simp [htail c rfl]
  obtain ⟨d, ds, hds⟩ := List.exists_cons_of_ne_nil hne
  have hd := ne_of_isBare (hbare d (by simp [hds]))
  have hgaps : skipGaps (key.toList ++ tail) = key.toList ++ tail := by
    rw [hds]
    simp [skipGaps, hd.1]
  have hempty : key.toList.isEmpty = false := List.isEmpty_eq_false_iff.mpr hne
  have hpart : readKeyPart (key.toList ++ tail) = some (key, tail) := by
    have hbareKey : readKeyPart (key.toList ++ tail) =
        let bare := (key.toList ++ tail).takeWhile isBare
        if bare.isEmpty then none
        else some (String.ofList bare, (key.toList ++ tail).dropWhile isBare) := by
      rw [hds] at *
      unfold readKeyPart
      split <;> grind
    rw [hbareKey, htake, hdrop]
    simp [hempty]
  show readKeyParts 80 (key.toList ++ tail) = _
  rw [readKeyParts, hgaps, hpart]
  simp only [Option.bind_eq_bind, Option.bind_some, Option.pure_def]

/-! ## Lines -/

/-- A line of a written document. -/
inductive Line where
  | blank
  | header (name : String)
  /-- A key with the text of its value. -/
  | entry (key : String) (text : List Char) (item : Item)

/-- The characters of a line. -/
def Line.chars : Line → List Char
  | .blank => ['\n']
  | .header name => '[' :: (name.toList ++ [']', '\n'])
  | .entry key text _ => key.toList ++ (' ' :: '=' :: ' ' :: (text ++ ['\n']))

/-- What a line does to the tables that have been read. -/
def Line.step (p : Progress) : Line → Option Progress
  | .blank => some p
  | .header name => p.open openTable [name]
  | .entry key _ item =>
    (updateAt (insertKey item [key]) p.header p.root).map fun root => { p with root }

/-- A line that can be read. -/
def Line.Proper : Line → Prop
  | .blank => True
  | .header name => BareKey name
  | .entry key text item => BareKey key ∧ Spells text item

theorem Line.chars_ne_nil (l : Line) : l.chars ≠ [] := by
  cases l <;> simp [Line.chars]

theorem endLine?_newline (rest : List Char) : endLine? ('\n' :: rest) = some rest := rfl

/-- A line that begins with neither a gap, nor a comment, nor its end. -/
theorem readLines_of_readLine {fuel : Nat} {p q : Progress} {cs rest : List Char}
    (hhead : ∃ c tail, cs = c :: tail ∧ isGap c = false ∧ c ≠ '#' ∧ c ≠ '\n' ∧ c ≠ '\r')
    (hline : readLine p cs = some (q, '\n' :: rest)) :
    readLines (fuel + 1) p cs = readLines fuel q rest := by
  obtain ⟨c, tail, rfl, hgap, hcomment, hbreak, hreturn⟩ := hhead
  have hskip : skipGaps (c :: tail) = c :: tail := by simp [skipGaps, hgap]
  have hvoid : isVoidLine (c :: tail) = false := by
    have hnone : newline? (c :: tail) = none := by
      unfold newline?
      grind
    unfold isVoidLine
    grind
  rw [readLines, hskip]
  simp only [hvoid, Bool.false_eq_true, if_false, hline, endLine?_newline, Option.bind_some]

/-- The header of a table. -/
theorem readLine_header {name : String} (hname : BareKey name) (p : Progress) (rest : List Char) :
    readLine p ('[' :: (name.toList ++ ']' :: '\n' :: rest)) =
      (p.open openTable [name]).map fun q => (q, '\n' :: rest) := by
  obtain ⟨d, ds, hds⟩ := List.exists_cons_of_ne_nil hname.ne_nil
  have hd := ne_of_isBare (hname.isBare d (by simp [hds]))
  have hkey : readKey (name.toList ++ ']' :: '\n' :: rest) = some ([name], ']' :: '\n' :: rest) :=
    readKey_bare hname (by simp [isBare, Char.isAlphanum]) (by simp [skipGaps, isGap])
  unfold readLine
  split
  · -- two brackets would begin a table in a list of tables
    next heq =>
    rw [hds] at heq
    have hbracket : d = '[' := (List.cons.inj (List.cons.inj heq).2).1
    exact absurd hbracket hd.2.2.2.1
  · next heq =>
    cases (List.cons.inj heq).2
    cases hopen : p.open openTable [name] <;> simp [hkey, hopen]
  · next hnone => exact absurd rfl (hnone _)

/-- A key with its value. -/
theorem readLine_entry {key : String} (hkey : BareKey key) {text : List Char} {item : Item}
    (htext : Spells text item) (p : Progress) (rest : List Char) :
    readLine p (key.toList ++ (' ' :: '=' :: ' ' :: (text ++ '\n' :: rest))) =
      ((updateAt (insertKey item [key]) p.header p.root).map fun root => { p with root }).map
        fun q => (q, '\n' :: rest) := by
  obtain ⟨d, ds, hds⟩ := List.exists_cons_of_ne_nil hkey.ne_nil
  have hd := ne_of_isBare (hkey.isBare d (by simp [hds]))
  have hread : readKey (key.toList ++ (' ' :: '=' :: ' ' :: (text ++ '\n' :: rest))) =
      some ([key], '=' :: ' ' :: (text ++ '\n' :: rest)) :=
    readKey_bare hkey (by simp [isBare, Char.isAlphanum]) (by simp [skipGaps, isGap])
  have hgaps : skipGaps (' ' :: (text ++ '\n' :: rest)) = text ++ '\n' :: rest := by
    have hhead := htext.head
    cases text with
    | nil => rfl
    | cons c cs =>
      have hspace : isGap ' ' = true := rfl
      simp [skipGaps, hspace, hhead c rfl]
  have hvalue := htext.read (' ' :: (text ++ '\n' :: rest)).length rest (by simp; omega)
  unfold readLine
  split
  · next heq =>
    rw [hds] at heq
    exact absurd (List.cons.inj heq).1 hd.2.2.2.1
  · next heq =>
    rw [hds] at heq
    exact absurd (List.cons.inj heq).1 hd.2.2.2.1
  · simp only [hread, hgaps, hvalue, Option.bind_eq_bind, Option.bind_some, Option.pure_def]
    cases updateAt (insertKey item [key]) p.header p.root <;> rfl

/-- **A line is read** and does what it does. -/
theorem Line.Proper.readLines_cons {l : Line} (h : l.Proper) {p q : Progress}
    (hstep : l.step p = some q) (fuel : Nat) (rest : List Char) :
    readLines (fuel + 1) p (l.chars ++ rest) = readLines fuel q rest := by
  cases l with
  | blank =>
    cases hstep
    rfl
  | header name =>
    have hcs : (Line.header name).chars ++ rest = '[' :: (name.toList ++ ']' :: '\n' :: rest) := by
      simp [Line.chars]
    have hopen : p.open openTable [name] = some q := hstep
    rw [hcs]
    refine readLines_of_readLine ⟨'[', _, rfl, by decide⟩ ?_
    rw [readLine_header h, hopen]
    rfl
  | entry key text item =>
    obtain ⟨hkey, htext⟩ := h
    obtain ⟨d, ds, hds⟩ := List.exists_cons_of_ne_nil hkey.ne_nil
    have hd := ne_of_isBare (hkey.isBare d (by simp [hds]))
    have hcs : (Line.entry key text item).chars ++ rest =
        key.toList ++ (' ' :: '=' :: ' ' :: (text ++ '\n' :: rest)) := by
      simp [Line.chars]
    have hinsert : (updateAt (insertKey item [key]) p.header p.root).map (fun root => { p with root }) =
        some q := hstep
    rw [hcs]
    refine readLines_of_readLine ⟨d, ds ++ _, by rw [hds]; rfl, hd.1, hd.2.2.2.2.1, hd.2.2.2.2.2⟩ ?_
    rw [readLine_entry hkey htext, hinsert]
    rfl

/-! ## Documents -/

/-- The characters of a document. -/
def linesChars (ls : List Line) : List Char := ls.flatMap Line.chars

/-- **Lines are read one after the other.** -/
theorem readLines_lines {ls : List Line} (h : ∀ l ∈ ls, l.Proper) {p q : Progress}
    (hrun : ls.foldlM Line.step p = some q) {fuel : Nat} (hfuel : ls.length < fuel) :
    readLines fuel p (linesChars ls) = some q.root := by
  induction ls generalizing p fuel with
  | nil =>
    obtain ⟨fuel, rfl⟩ := Nat.exists_eq_succ_of_ne_zero (Nat.ne_of_gt hfuel)
    cases hrun
    rfl
  | cons l ls ih =>
    obtain ⟨hl, hls⟩ := List.forall_mem_cons.mp h
    obtain ⟨fuel, rfl⟩ := Nat.exists_eq_succ_of_ne_zero (Nat.ne_zero_of_lt hfuel)
    rw [List.foldlM_cons] at hrun
    obtain ⟨p', hstep, hrest⟩ := Option.bind_eq_some_iff.mp hrun
    have hcons : linesChars (l :: ls) = l.chars ++ linesChars ls := rfl
    rw [hcons, hl.readLines_cons hstep]
    exact ih hls hrest (Nat.lt_of_succ_lt_succ hfuel)

theorem length_le_linesChars (ls : List Line) : ls.length ≤ (linesChars ls).length := by
  induction ls with
  | nil => exact Nat.le_refl 0
  | cons l ls ih =>
    have hpos : 0 < l.chars.length := List.length_pos_iff.mpr l.chars_ne_nil
    have hcons : linesChars (l :: ls) = l.chars ++ linesChars ls := rfl
    rw [hcons, List.length_append, List.length_cons]
    omega

/-- No proper line begins with a byte order mark. -/
theorem Line.Proper.ne_mark {l : Line} (h : l.Proper) (rest cs : List Char) :
    l.chars ++ rest ≠ '\uFEFF' :: cs := by
  have hbare : ∀ key : String, BareKey key → ∀ more, key.toList ++ more ≠ '\uFEFF' :: cs := by
    intro key hkey more hmore
    obtain ⟨d, ds, hds⟩ := List.exists_cons_of_ne_nil hkey.ne_nil
    have hd : isBare d = true := hkey.isBare d (by simp [hds])
    rw [hds] at hmore
    rw [(List.cons.inj hmore).1] at hd
    cases hd
  cases l with
  | blank => simp [Line.chars]
  | header name => simp [Line.chars]
  | entry key text item =>
    rw [Line.chars, List.append_assoc]
    exact hbare key h.1 _

/-- **A document is read** as its lines say. -/
theorem readDocument_lines {ls : List Line} (h : ∀ l ∈ ls, l.Proper) {q : Progress}
    (hrun : ls.foldlM Line.step { root := [], header := [] } = some q) {s : String}
    (htext : s.toList = linesChars ls) : readDocument s = some q.root := by
  have hdrop : dropMark (linesChars ls) = linesChars ls := by
    cases ls with
    | nil => rfl
    | cons l ls =>
      have hmark := (h l List.mem_cons_self).ne_mark (linesChars ls)
      unfold dropMark
      split
      · next cs heq => exact absurd heq (hmark cs)
      · rfl
  show readLines ((dropMark s.toList).length + 1) _ (dropMark s.toList) = _
  rw [htext, hdrop]
  exact readLines_lines h hrun (Nat.lt_succ_of_le (length_le_linesChars ls))

end Recap.Toml
