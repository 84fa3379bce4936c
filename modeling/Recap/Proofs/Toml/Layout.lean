import Recap.Proofs.Toml.Document

/-!
# Tables come back

Entries are kept in the order of their keys, so the order in which they are written does not matter: if no key
comes twice, every entry finds its place free (`foldlM_entries`). This holds for the entries before the
first header and for those of a table alike, since a table that is being read lies under its name beside
what was read before (`Progress.within`).

A `Layout` is a document as a list of entries and a list of tables. If its keys differ, it is read as its
entries and tables in order (`Layout.Proper.readDocument_eq`).

## Contents
- `sorted` — entries in the order of their keys.
- `Entry`, `foldlM_entries` — entries.
- `Section`, `Section.foldlM_lines` — tables with headers.
- `Layout`, `Layout.Proper.readDocument_eq` — documents.
- `Entry.ofBool`, `Entry.ofNat`, … — the entries of plain values.
-/

namespace Recap.Toml

/-! ## Entries in order -/

/-- The entries in the order of their keys. -/
def sorted (es : List (String × Item)) : Entries := es.foldl (fun t e => insertEntry e.1 e.2 t) []

theorem sorted_append (es fs : List (String × Item)) :
    sorted (es ++ fs) = fs.foldl (fun t e => insertEntry e.1 e.2 t) (sorted es) := List.foldl_append

/-- A key that is not among the entries is not found. -/
theorem lookupEntry_sorted {k : String} {es : List (String × Item)} (h : k ∉ es.map (·.1)) :
    lookupEntry k (sorted es) = none := by
  have hfold : ∀ t, lookupEntry k t = none →
      lookupEntry k (es.foldl (fun t e => insertEntry e.1 e.2 t) t) = none := by
    induction es with
    | nil => exact fun t ht => ht
    | cons e es ih =>
      obtain ⟨he, hes⟩ := not_or.mp (List.mem_cons.not.mp h)
      intro t ht
      refine ih hes _ ?_
      rw [lookupEntry_insertEntry_of_ne he, ht]
  exact hfold [] rfl

/-- Of two values for one key, the later one stays. -/
theorem insertEntry_insertEntry (k : String) (v w : Item) (t : Entries) :
    insertEntry k w (insertEntry k v t) = insertEntry k w t := by
  induction t with
  | nil => simp [insertEntry]
  | cons e t ih =>
    cases h : compare k e.1 with
    | lt => simp [insertEntry, h]
    | eq => simp [insertEntry, h]
    | gt => simp [insertEntry, h, ih]

/-! ## Tables -/

/-- The entries of a table that is being read: the outermost one, or one with a header beside the entries
    that were read before. -/
def Progress.within (before : Entries) : Option String → Entries → Progress
  | none, t => { root := t, header := [] }
  | some name, t => { root := insertEntry name (.table .header t) before, header := [name] }

/-- A key with its value and the value's text. -/
structure Entry where
  key : String
  text : List Char
  item : Item

/-- The line of an entry. -/
def Entry.line (e : Entry) : Line := .entry e.key e.text e.item

/-- What an entry is read as. -/
def Entry.pair (e : Entry) : String × Item := (e.key, e.item)

/-- An entry that can be read. -/
structure Entry.Proper (e : Entry) : Prop where
  key : BareKey e.key
  text : Spells e.text e.item

theorem insertKey_of_new {item : Item} {key : String} {t : Entries} (h : lookupEntry key t = none) :
    insertKey item [key] t = some (insertEntry key item t) := by
  rw [insertKey, h]
  rfl

/-- A new entry goes into the table that is being read. -/
theorem step_entry (before : Entries) (header : Option String) {e : Entry} {t : Entries}
    (h : lookupEntry e.key t = none) :
    e.line.step (.within before header t) = some (.within before header (insertEntry e.key e.item t)) := by
  have hnew : insertKey e.item [e.key] t = some (insertEntry e.key e.item t) := insertKey_of_new h
  cases header with
  | none => simp [Entry.line, Line.step, Progress.within, updateAt, hnew]
  | some name =>
    simp [Entry.line, Line.step, Progress.within, updateAt, hnew, lookupEntry_insertEntry_self,
      insertEntry_insertEntry]

/-- **Entries with different keys are read in the order of their keys**, in whatever order they are
    written. -/
theorem foldlM_entries (before : Entries) (header : Option String) {es : List Entry}
    (hkeys : (es.map (·.key)).Nodup) :
    (es.map Entry.line).foldlM Line.step (.within before header []) =
      some (.within before header (sorted (es.map Entry.pair))) := by
  -- the entries that were read, and those that are left
  have hrun : ∀ read left : List Entry, ((read ++ left).map (·.key)).Nodup →
      (left.map Entry.line).foldlM Line.step (.within before header (sorted (read.map Entry.pair))) =
        some (.within before header (sorted ((read ++ left).map Entry.pair))) := by
    intro read left
    induction left generalizing read with
    | nil =>
      intro _
      rw [List.append_nil]
      rfl
    | cons e left ih =>
      intro hnodup
      have hnew : e.key ∉ (read.map Entry.pair).map (·.1) := by
        rw [List.map_append, List.map_cons, List.nodup_append] at hnodup
        intro hmem
        rw [List.map_map] at hmem
        exact hnodup.2.2 e.key hmem e.key List.mem_cons_self rfl
      have hassoc : read ++ e :: left = (read ++ [e]) ++ left := by simp
      have hsorted : insertEntry e.key e.item (sorted (read.map Entry.pair)) =
          sorted ((read ++ [e]).map Entry.pair) := by
        rw [List.map_append, sorted_append]
        rfl
      rw [List.map_cons, List.foldlM_cons, step_entry before header (lookupEntry_sorted hnew), hsorted]
      show (left.map Entry.line).foldlM Line.step _ = _
      rw [hassoc] at hnodup ⊢
      exact ih (read ++ [e]) hnodup
  exact hrun [] es hkeys

/-- A table with a header of its own. -/
structure Section where
  name : String
  entries : List Entry

/-- The lines of a table, after an empty one. -/
def Section.lines (s : Section) : List Line := .blank :: .header s.name :: s.entries.map Entry.line

/-- What a table is read as. -/
def Section.pair (s : Section) : String × Item :=
  (s.name, .table .header (sorted (s.entries.map Entry.pair)))

/-- A table that is new is read beside what was read before. -/
theorem Section.foldlM_lines {s : Section} (hkeys : (s.entries.map (·.key)).Nodup) {p : Progress}
    (hnew : lookupEntry s.name p.root = none) :
    s.lines.foldlM Line.step p =
      some { root := insertEntry s.name s.pair.2 p.root, header := [s.name] } := by
  have hopen : (Line.header s.name).step p = some (.within p.root (some s.name) []) := by
    simp [Line.step, Progress.open, updatePath, hnew, openTable, Progress.within]
  rw [Section.lines, List.foldlM_cons]
  show ((Line.header s.name).step p >>= fun p => (s.entries.map Entry.line).foldlM Line.step p) = _
  rw [hopen]
  exact foldlM_entries p.root (some s.name) hkeys

/-! ## Documents -/

/-- A document: entries, and tables after them. -/
structure Layout where
  entries : List Entry
  sections : List Section

/-- The lines of a document. -/
def Layout.lines (d : Layout) : List Line := d.entries.map Entry.line ++ d.sections.flatMap Section.lines

/-- What a document is read as, in the order in which it is written. -/
def Layout.pairs (d : Layout) : List (String × Item) :=
  d.entries.map Entry.pair ++ d.sections.map Section.pair

/-- A table that can be read, with no key twice. -/
structure Section.Proper (s : Section) : Prop where
  name : BareKey s.name
  entries : ∀ e ∈ s.entries, e.Proper
  keys : (s.entries.map (·.key)).Nodup

/-- Entries and tables that can be read, with no key twice. -/
structure Layout.Proper (d : Layout) : Prop where
  entries : ∀ e ∈ d.entries, e.Proper
  sections : ∀ s ∈ d.sections, s.Proper
  keys : (d.entries.map (·.key) ++ d.sections.map (·.name)).Nodup

/-- All lines of a document can be read. -/
theorem Layout.Proper.lines {d : Layout} (h : d.Proper) : ∀ l ∈ d.lines, l.Proper := by
  have hentries : ∀ es : List Entry, (∀ e ∈ es, e.Proper) → ∀ l ∈ es.map Entry.line, l.Proper := by
    intro es hes l hl
    obtain ⟨e, he, rfl⟩ := List.mem_map.mp hl
    exact ⟨(hes e he).key, (hes e he).text⟩
  intro l hl
  rcases List.mem_append.mp hl with hl | hl
  · exact hentries d.entries h.entries l hl
  · obtain ⟨s, hs, hl⟩ := List.mem_flatMap.mp hl
    have hsection := h.sections s hs
    rcases List.mem_cons.mp hl with rfl | hl
    · trivial
    · rcases List.mem_cons.mp hl with rfl | hl
      · exact hsection.name
      · exact hentries s.entries hsection.entries l hl

/-- Tables are read one after the other, if each is new. -/
theorem foldlM_sections {ss : List Section} (htables : ∀ s ∈ ss, s.Proper)
    {es : List (String × Item)} (hkeys : (es.map (·.1) ++ ss.map (·.name)).Nodup) {p : Progress}
    (hroot : p.root = sorted es) :
    ∃ q, (ss.flatMap Section.lines).foldlM Line.step p = some q ∧
      q.root = sorted (es ++ ss.map Section.pair) := by
  induction ss generalizing es p with
  | nil => exact ⟨p, rfl, by rw [hroot, List.map_nil, List.append_nil]⟩
  | cons s ss ih =>
    obtain ⟨hs, hss⟩ := List.forall_mem_cons.mp htables
    have hnew : lookupEntry s.name p.root = none := by
      rw [hroot]
      refine lookupEntry_sorted fun hmem => ?_
      exact (List.nodup_append.mp hkeys).2.2 s.name hmem s.name (by simp) rfl
    have hroot' : insertEntry s.name s.pair.2 p.root = sorted (es ++ [s.pair]) := by
      rw [hroot, sorted_append]
      rfl
    have hkeys' : ((es ++ [s.pair]).map (·.1) ++ ss.map (·.name)).Nodup := by
      rw [List.map_append, List.append_assoc]
      exact hkeys
    obtain ⟨q, hrun, hq⟩ := ih hss hkeys' (p := { root := sorted (es ++ [s.pair]), header := [s.name] }) rfl
    refine ⟨q, ?_, by rw [hq, List.map_cons, List.append_assoc]; rfl⟩
    rw [List.flatMap_cons, List.foldlM_append, Section.foldlM_lines hs.keys hnew, hroot']
    exact hrun

/-- **A document is read back**: every table with its entries, in the order of their keys. -/
theorem Layout.Proper.readDocument_eq {d : Layout} (h : d.Proper) {s : String}
    (htext : s.toList = linesChars d.lines) : readDocument s = some (sorted d.pairs) := by
  have hentries : (d.entries.map Entry.line).foldlM Line.step { root := [], header := [] } =
      some { root := sorted (d.entries.map Entry.pair), header := [] } :=
    foldlM_entries [] none (List.nodup_append.mp h.keys).1
  have hkeys : ((d.entries.map Entry.pair).map (·.1) ++ d.sections.map (·.name)).Nodup := by
    rw [List.map_map]
    exact h.keys
  obtain ⟨q, hsections, hq⟩ := foldlM_sections h.sections hkeys
    (p := { root := sorted (d.entries.map Entry.pair), header := [] }) rfl
  have hrun : d.lines.foldlM Line.step { root := [], header := [] } = some q := by
    rw [Layout.lines, List.foldlM_append, hentries]
    exact hsections
  rw [readDocument_lines h.lines hrun htext, hq]
  rfl

/-! ## Plain values -/

/-- The entry of a truth value, -/
def Entry.ofBool (key : String) (b : Bool) : Entry := ⟨key, (writeBool b).toList, .boolean b⟩

/-- of a natural number, -/
def Entry.ofNat (key : String) (n : Nat) : Entry := ⟨key, (Nat.repr n).toList, .integer (some n)⟩

/-- of a double, -/
def Entry.ofFloat (key : String) (x : Float) : Entry := ⟨key, (writeFloat x).toList, .float (some x)⟩

/-- of a text, -/
def Entry.ofString (key : String) (s : String) : Entry := ⟨key, (quote s).toList, .string s⟩

/-- and of a list of texts. -/
def Entry.ofStrings (key : String) (ss : List String) : Entry :=
  ⟨key, (writeArray ss).toList, .array (ss.map .string)⟩

section Proper

variable {key : String} (hkey : BareKey key)

include hkey

theorem Entry.proper_ofBool (b : Bool) : (Entry.ofBool key b).Proper := ⟨hkey, spells_writeBool b⟩

theorem Entry.proper_ofNat {n : Nat} (hn : n < 2 ^ 128) : (Entry.ofNat key n).Proper :=
  ⟨hkey, spells_repr hn⟩

theorem Entry.proper_ofFloat {x : Float} (hx : x.isNaN = false) : (Entry.ofFloat key x).Proper :=
  ⟨hkey, spells_writeFloat hx⟩

theorem Entry.proper_ofString (s : String) : (Entry.ofString key s).Proper := ⟨hkey, spells_quote s⟩

theorem Entry.proper_ofStrings (ss : List String) : (Entry.ofStrings key ss).Proper :=
  ⟨hkey, spells_writeArray ss⟩

end Proper

/-- The line that is written for a value. -/
theorem toList_entry (key value : String) (item : Item) :
    (entry key value).toList = (Line.entry key value.toList item).chars := by
  rw [entry, String.toList_append, String.toList_append, String.toList_append, Line.chars]
  simp

end Recap.Toml
