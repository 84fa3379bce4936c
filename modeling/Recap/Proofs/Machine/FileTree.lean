import Recap.Machine.FileTree

/-!
# Where files are, and what stays where it is

What can be done with files changes only what is at the place of the file, and never a directory that is there
already. Hence a path that leads to a place goes on leading there (`Changes.follow`), and files at other
places stay what they are.

## Contents
- `Path.IsName`, `Path.below`, `Path.fits` — names, paths below a directory, and paths that the machine takes.
- `at?_put`, `at?_erase_of_ne` — what is at a place after a change.
- `Changes` — a change at certain places that leaves all directories; `Changes.follow`, `Changes.locate`.
- `next`, `follow_cons`, `next_eq_ok` — a path, one segment at a time.
- `follow_append`, `exists_follow_of_snoc`, `eq_append_of_follow` — the place at the end of a path.
- `Leads`, `Leads.locate_below`, `Leads.eq_of_locate` — the places below a directory.
- `changes_of_writeText`, `changes_of_removeFile`, `Leads.makeDirectories` — what the machine does with files.
-/

namespace Recap.Machine

/-! ## Paths -/

namespace Path

/-- A text without slashes is one piece. -/
theorem splitSlashes_of_notMem {cs : List Char} (h : '/' ∉ cs) : splitSlashes cs = [cs] := by
  induction cs with
  | nil => rfl
  | cons c cs ih =>
    rw [List.mem_cons, not_or] at h
    rw [splitSlashes, if_neg (Ne.symm h.1), ih h.2]

/-- A segment that leads down. -/
def IsName (segment : String) : Prop := isIdle segment = false ∧ segment ≠ ".."

instance (segment : String) : Decidable (IsName segment) := inferInstanceAs (Decidable (_ ∧ _))

/-- A text without dots is a name, unless it is empty. -/
theorem isName_of_dot_notMem {s : String} (hne : s ≠ "") (hdot : '.' ∉ s.toList) : IsName s := by
  have hdots : ∀ t : String, '.' ∈ t.toList → s ≠ t := by
    rintro t ht rfl
    exact hdot ht
  refine ⟨?_, hdots ".." (by decide)⟩
  rw [isIdle, Bool.or_eq_false_iff]
  exact ⟨beq_eq_false_iff_ne.mpr hne, beq_eq_false_iff_ne.mpr (hdots "." (by decide))⟩

theorem IsName.ne_empty {s : String} (h : IsName s) : s ≠ "" := by
  rintro rfl
  exact Bool.true_eq_false.mp h.1

/-- Something below a directory, by the names on the way. -/
def below (p : Path) (names : List String) : Path := ⟨withoutSlash p.segments ++ names⟩

theorem withoutSlash_append {s : String} (h : s ≠ "") (segments : List String) :
    withoutSlash (segments ++ [s]) = segments ++ [s] := by
  rw [withoutSlash, List.getLast?_append]
  apply if_neg
  show ¬ ((some s == some "") = true)
  rwa [Option.some_beq_some, beq_iff_eq]

theorem child_below {s : String} (h : s ≠ "") (p : Path) (name : String) :
    (p.below [s]).child name = p.below [s, name] := by
  show Path.mk (withoutSlash (withoutSlash p.segments ++ [s]) ++ [name]) = _
  rw [withoutSlash_append h, List.append_assoc]
  rfl

theorem trimSlashes_below {s : String} (h : s ≠ "") (p : Path) :
    (p.below [s]).trimSlashes = p.below [s] := by
  have hkeep : ((p.below [s]).segments.reverse.dropWhile (· == "")).reverse = (p.below [s]).segments := by
    show ((withoutSlash p.segments ++ [s]).reverse.dropWhile (· == "")).reverse = _
    rw [List.reverse_append, List.reverse_singleton, List.singleton_append, List.dropWhile_cons_of_neg,
      List.reverse_cons, List.reverse_reverse]
    · rfl
    · rwa [beq_iff_eq]
  unfold trimSlashes
  rw [hkeep]
  split
  case h_1 => rfl
  case h_2 => rfl

theorem isAbsolute_cons_cons (a b : String) (rest : List String) :
    isAbsolute ⟨a :: b :: rest⟩ = (a == "") := by
  unfold isAbsolute
  split
  case h_1 heq =>
    obtain ⟨rfl, -⟩ := List.cons.inj heq
    rfl
  case h_2 hother =>
    symm
    rw [beq_eq_false_iff_ne]
    rintro rfl
    exact hother b rest rfl

theorem isAbsolute_singleton (a : String) : isAbsolute ⟨[a]⟩ = false := by
  unfold isAbsolute
  split
  case h_1 heq => cases heq
  case h_2 => rfl

/-- A path below a directory begins where the path of the directory begins. -/
theorem isAbsolute_below {s : String} (h : s ≠ "") (p : Path) (names : List String) :
    (p.below (s :: names)).isAbsolute = p.isAbsolute := by
  have hname : ∀ rest, isAbsolute ⟨s :: rest⟩ = false := by
    intro rest
    cases rest with
    | nil => exact isAbsolute_singleton s
    | cons b rest => rw [isAbsolute_cons_cons, beq_eq_false_iff_ne.mpr h]
  obtain ⟨segments⟩ := p
  match segments with
  | [] => exact hname names
  | [a] =>
      rw [isAbsolute_singleton]
      by_cases ha : a = ""
      · subst ha
        exact hname names
      · have hkeep : withoutSlash [a] = [a] := withoutSlash_append ha []
        rw [below, hkeep]
        show isAbsolute ⟨a :: s :: names⟩ = false
        rw [isAbsolute_cons_cons, beq_eq_false_iff_ne.mpr ha]
  | a :: b :: rest =>
      obtain ⟨tail, htail⟩ : ∃ tail, withoutSlash (a :: b :: rest) = a :: tail := by
        unfold withoutSlash
        split
        case isTrue => exact ⟨_, List.dropLast_cons_cons⟩
        case isFalse => exact ⟨_, rfl⟩
      obtain ⟨c, more, hmore⟩ := List.exists_cons_of_ne_nil
        (List.append_ne_nil_of_right_ne_nil tail (List.cons_ne_nil s names))
      rw [below, htail, isAbsolute_cons_cons]
      show isAbsolute ⟨a :: (tail ++ s :: names)⟩ = _
      rw [hmore, isAbsolute_cons_cons]

/-! ## Paths that are taken -/

/-- Whether the machine takes a path: there is no zero byte in it, it is not too long, and no name on the way
    is. -/
def fits (p : Path) : Bool :=
  !FileTree.isUnnameable p.segments && decide (p.text.utf8ByteSize < FileTree.pathLimit) &&
    p.segments.all fun segment => decide (segment.utf8ByteSize ≤ FileTree.longestName)

theorem fits_iff {p : Path} :
    p.fits = true ↔ (FileTree.isUnnameable p.segments = false ∧ p.text.utf8ByteSize < FileTree.pathLimit) ∧
      ∀ segment ∈ p.segments, segment.utf8ByteSize ≤ FileTree.longestName := by
  rw [fits, Bool.and_eq_true, Bool.and_eq_true, Bool.not_eq_true', decide_eq_true_iff, List.all_eq_true]
  simp only [decide_eq_true_iff]

theorem intercalate_snoc (a : String) (segments : List String) (name : String) :
    "/".intercalate ((a :: segments) ++ [name]) = "/".intercalate (a :: segments) ++ "/" ++ name := by
  apply String.ext
  rw [String.toList_append, String.toList_append, String.toList_intercalate, String.toList_intercalate]
  induction segments generalizing a with
  | nil => simp
  | cons b segments ih =>
      have hrest := ih b
      simp only [List.cons_append, List.map_cons, List.intercalate_cons_cons] at hrest ⊢
      rw [hrest]
      simp only [List.append_assoc]

/-- What is above a path that is taken is taken as well. -/
theorem fits_above {segments : List String} {name : String}
    (h : fits ⟨segments ++ [name]⟩ = true) : fits ⟨segments⟩ = true := by
  obtain ⟨⟨hzero, htext⟩, hnames⟩ := fits_iff.mp h
  refine fits_iff.mpr ⟨⟨?_, ?_⟩, fun segment hs => hnames segment (List.mem_append_left _ hs)⟩
  · rw [FileTree.isUnnameable, List.any_append, Bool.or_eq_false_iff] at hzero
    exact hzero.1
  · cases segments with
    | nil => decide
    | cons a segments =>
        have hsize := congrArg String.utf8ByteSize (intercalate_snoc a segments name)
        rw [String.utf8ByteSize_append, String.utf8ByteSize_append] at hsize
        have hlong : ("/".intercalate ((a :: segments) ++ [name])).utf8ByteSize < FileTree.pathLimit := htext
        show ("/".intercalate (a :: segments)).utf8ByteSize < _
        omega

end Path

namespace FileTree

variable {t t' : FileTree} {base place : List String} {p : Path}

/-! ## What is at a place -/

theorem at?_of_ne_nil (t : FileTree) (h : place ≠ []) : t.at? place = t.entries.get? place := by
  obtain ⟨name, names, rfl⟩ := List.exists_cons_of_ne_nil h
  rfl

theorem at?_put (t : FileTree) (h : place ≠ []) (e : Entry) : (t.put place e).at? place = some e := by
  rw [at?_of_ne_nil _ h]
  exact t.entries.get?_insert_self place e

theorem at?_put_of_ne (t : FileTree) {q : List String} (h : q ≠ place) (e : Entry) :
    (t.put place e).at? q = t.at? q := by
  cases q with
  | nil => rfl
  | cons name names => exact SortedMap.get?_insert_of_ne h t.entries e

theorem at?_erase_of_ne (t : FileTree) {q : List String} (h : q ≠ place) :
    at? ⟨t.entries.erase place⟩ q = t.at? q := by
  cases q with
  | nil => rfl
  | cons name names => exact SortedMap.get?_erase_of_ne h t.entries

/-- Nothing is below a place without entries. -/
theorem at?_of_isBare (h : t.isBare place = true) {names : List String} (hne : names ≠ []) :
    t.at? (place ++ names) = none := by
  have habsent : ∀ es : List (List String × Entry),
      (es.all fun e => e.1 == place || !place.isPrefixOf e.1) = true →
        lookupEntry (place ++ names) es = none := by
    intro es hes
    induction es with
    | nil => rfl
    | cons e es ih =>
        rw [List.all_cons, Bool.and_eq_true, Bool.or_eq_true, beq_iff_eq, Bool.not_eq_true'] at hes
        obtain ⟨he, hes⟩ := hes
        have hother : (compare (place ++ names) e.1 == .eq) = false := by
          rw [beq_eq_false_iff_ne]
          intro heq
          have heq := Std.LawfulEqCmp.eq_of_compare heq
          rcases he with he | he
          · rw [he] at heq
            exact hne (List.append_right_eq_self.mp heq)
          · rw [← heq, List.isPrefixOf_iff_prefix.mpr (List.prefix_append place names)] at he
            exact Bool.false_ne_true he.symm
        rw [lookupEntry, hother]
        exact ih hes
  rw [at?_of_ne_nil _ (List.append_ne_nil_of_right_ne_nil place hne)]
  exact habsent _ h

/-! ## Changes -/

/-- A change at certain places, none of which is a directory before it. -/
def Changes (touched : List String → Prop) (t t' : FileTree) : Prop :=
  ∀ q, t'.at? q = t.at? q ∨ touched q ∧ t.at? q ≠ some .directory

theorem Changes.refl (touched : List String → Prop) (t : FileTree) : Changes touched t t :=
  fun _ => .inl rfl

/-- A directory stays one. -/
theorem Changes.directory {touched : List String → Prop} (h : Changes touched t t') {q : List String}
    (hq : t.at? q = some .directory) : t'.at? q = some .directory := by
  rcases h q with hsame | ⟨-, hfile⟩
  · rw [hsame, hq]
  · exact absurd hq hfile

theorem Changes.trans {touched : List String → Prop} {u : FileTree} (h : Changes touched t t')
    (h' : Changes touched t' u) : Changes touched t u := by
  intro q
  rcases h q with hq | ⟨htouched, hfile⟩
  · rcases h' q with hq' | ⟨htouched, hfile⟩
    · exact .inl (hq'.trans hq)
    · exact .inr ⟨htouched, hq ▸ hfile⟩
  · exact .inr ⟨htouched, hfile⟩

theorem changes_put (t : FileTree) (e : Entry) (h : t.at? place ≠ some .directory) :
    Changes (· = place) t (t.put place e) := by
  intro q
  by_cases hq : q = place
  · rw [hq]
    exact .inr ⟨rfl, h⟩
  · exact .inl (at?_put_of_ne t hq e)

theorem changes_erase (t : FileTree) (h : t.at? place ≠ some .directory) :
    Changes (· = place) t ⟨t.entries.erase place⟩ := by
  intro q
  by_cases hq : q = place
  · rw [hq]
    exact .inr ⟨rfl, h⟩
  · exact .inl (at?_erase_of_ne t hq)

/-! ## Following paths -/

/-- Where one segment leads. -/
def next (t : FileTree) (place : List String) (segment : String) : Except Fault (List String) :=
  match t.at? place with
  | none => .error .notFound
  | some .directory =>
    if Path.isIdle segment then .ok place
    else if segment == ".." then .ok place.dropLast
    else if longestName < segment.utf8ByteSize then .error .nameTooLong
    else .ok (place ++ [segment])
  | some _ => .error .notDirectory

/-- **A path is followed segment by segment.** -/
theorem follow_cons (t : FileTree) (place : List String) (segment : String) (rest : List String) :
    t.follow place (segment :: rest) = t.next place segment >>= fun q => t.follow q rest := by
  rw [follow, next]
  cases t.at? place with
  | none => rfl
  | some e =>
      cases e with
      | file | device => rfl
      | directory =>
          show (if Path.isIdle segment then t.follow place rest else if segment == ".." then _ else _)
            = (if Path.isIdle segment then _ else if segment == ".." then _ else _) >>= _
          split
          case isTrue => rfl
          case isFalse =>
            split
            case isTrue => rfl
            case isFalse =>
              split
              case isTrue => rfl
              case isFalse => rfl

/-- **What one segment does**: from a directory it stays, leads back, or leads down. -/
theorem next_eq_ok {segment : String} {q : List String} (h : t.next place segment = .ok q) :
    t.at? place = some .directory ∧
      (Path.isIdle segment = true ∧ q = place ∨ segment = ".." ∧ q = place.dropLast ∨
        Path.IsName segment ∧ segment.utf8ByteSize ≤ longestName ∧ q = place ++ [segment]) := by
  rw [next] at h
  split at h
  case h_1 => cases h
  case h_2 hplace =>
    refine ⟨hplace, ?_⟩
    split at h
    case isTrue hidle => exact .inl ⟨hidle, (Except.ok.inj h).symm⟩
    case isFalse hidle =>
      split at h
      case isTrue hback => exact .inr (.inl ⟨beq_iff_eq.mp hback, (Except.ok.inj h).symm⟩)
      case isFalse hback =>
        split at h
        case isTrue => cases h
        case isFalse hshort =>
          exact .inr (.inr ⟨⟨Bool.eq_false_iff.mpr hidle, fun heq => hback (beq_iff_eq.mpr heq)⟩,
            Nat.le_of_not_lt hshort, (Except.ok.inj h).symm⟩)
  case h_3 => cases h

/-- A path that leads somewhere does so from where its first segment leads. -/
theorem follow_cons_eq_ok_iff {segment : String} {rest q : List String} :
    t.follow place (segment :: rest) = .ok q ↔
      ∃ above, t.next place segment = .ok above ∧ t.follow above rest = .ok q := by
  rw [follow_cons]
  cases t.next place segment with
  | error fault => exact ⟨fun h => (nomatch h), fun ⟨_, h, _⟩ => (nomatch h)⟩
  | ok above => exact ⟨fun h => ⟨above, rfl, h⟩, fun ⟨_, h, hrest⟩ => Except.ok.inj h ▸ hrest⟩

theorem follow_append (t : FileTree) (place xs ys : List String) :
    t.follow place (xs ++ ys) = t.follow place xs >>= fun q => t.follow q ys := by
  induction xs generalizing place with
  | nil => rfl
  | cons segment xs ih =>
      rw [List.cons_append, follow_cons, follow_cons]
      cases t.next place segment with
      | error fault => rfl
      | ok above => exact ih above

/-- A path that leads to a place leads there after a change. -/
theorem Changes.follow {touched : List String → Prop} (h : Changes touched t t')
    {segments : List String} {q : List String} (hq : t.follow place segments = .ok q) :
    t'.follow place segments = .ok q := by
  induction segments generalizing place with
  | nil => exact hq
  | cons segment segments ih =>
      obtain ⟨above, hnext, hrest⟩ := follow_cons_eq_ok_iff.mp hq
      refine follow_cons_eq_ok_iff.mpr ⟨above, ?_, ih hrest⟩
      -- a segment that leads somewhere starts from a directory, and that is still there
      obtain ⟨hplace, -⟩ := next_eq_ok hnext
      rw [next, hplace] at hnext
      rw [next, h.directory hplace]
      exact hnext

theorem follow_cons_name {name : String} (hname : Path.IsName name) (hplace : t.at? place = some .directory)
    (rest : List String) :
    t.follow place (name :: rest) =
      if longestName < name.utf8ByteSize then .error .nameTooLong else t.follow (place ++ [name]) rest := by
  have hback : ¬ (name == "..") = true := fun h => hname.2 (beq_iff_eq.mp h)
  rw [follow_cons, next, hplace]
  show (if Path.isIdle name then _ else if name == ".." then _ else _) >>= _ = _
  rw [hname.1, if_neg Bool.false_ne_true, if_neg hback]
  split
  case isTrue => rfl
  case isFalse => rfl

/-- Names lead down. -/
theorem follow_cons_eq_ok {name : String} (hname : Path.IsName name) {rest q : List String}
    (h : t.follow place (name :: rest) = .ok q) :
    name.utf8ByteSize ≤ longestName ∧ t.follow (place ++ [name]) rest = .ok q := by
  obtain ⟨above, hnext, hrest⟩ := follow_cons_eq_ok_iff.mp h
  obtain ⟨-, ⟨hidle, -⟩ | ⟨hback, -⟩ | ⟨-, hshort, rfl⟩⟩ := next_eq_ok hnext
  · exact absurd (hname.1.symm.trans hidle) Bool.false_ne_true
  · exact absurd hback hname.2
  · exact ⟨hshort, hrest⟩

theorem eq_append_of_follow {names q : List String} (hnames : ∀ name ∈ names, Path.IsName name)
    (h : t.follow place names = .ok q) : q = place ++ names := by
  induction names generalizing place with
  | nil =>
      obtain rfl := Except.ok.inj h
      exact (List.append_nil _).symm
  | cons name names ih =>
      obtain ⟨-, hrest⟩ := follow_cons_eq_ok (hnames name (by simp)) h
      rw [ih (fun n hn => hnames n (List.mem_cons_of_mem _ hn)) hrest, List.append_assoc,
        List.singleton_append]

/-- A path that ends with a name leads to that name. -/
theorem exists_follow_of_snoc {name : String} (hname : Path.IsName name) {segments q : List String}
    (h : t.follow place (segments ++ [name]) = .ok q) :
    ∃ above, t.follow place segments = .ok above ∧ q = above ++ [name] := by
  rw [follow_append] at h
  cases habove : t.follow place segments with
  | error fault =>
      rw [habove] at h
      cases h
  | ok above =>
      rw [habove] at h
      refine ⟨above, rfl, eq_append_of_follow ?_ h⟩
      intro n hn
      rw [List.mem_singleton.mp hn]
      exact hname

theorem size_of_isIdle {segment : String} (h : Path.isIdle segment = true) :
    segment.utf8ByteSize ≤ longestName := by
  rw [Path.isIdle, Bool.or_eq_true, beq_iff_eq, beq_iff_eq] at h
  rcases h with rfl | rfl <;> decide

/-- No name on the way is too long. -/
theorem size_of_follow {segments q : List String} (h : t.follow place segments = .ok q) :
    ∀ segment ∈ segments, segment.utf8ByteSize ≤ longestName := by
  induction segments generalizing place with
  | nil => intro segment hs; cases hs
  | cons name rest ih =>
      obtain ⟨above, hnext, hrest⟩ := follow_cons_eq_ok_iff.mp h
      have hname : name.utf8ByteSize ≤ longestName := by
        obtain ⟨-, ⟨hidle, -⟩ | ⟨rfl, -⟩ | ⟨-, hshort, -⟩⟩ := next_eq_ok hnext
        · exact size_of_isIdle hidle
        · decide
        · exact hshort
      intro segment hs
      rcases List.mem_cons.mp hs with rfl | hs
      · exact hname
      · exact ih hrest segment hs

theorem locate_eq_ok_iff {q : List String} :
    t.locate base p = .ok q ↔
      (isUnnameable p.segments = false ∧ p.text.utf8ByteSize < pathLimit ∧ p.segments ≠ [""]) ∧
        t.follow (if p.isAbsolute then [] else base) p.segments = .ok q := by
  rw [locate]
  by_cases hzero : isUnnameable p.segments = true
  · rw [if_pos hzero, hzero]
    exact ⟨fun h => (nomatch h), fun h => (nomatch h.1.1)⟩
  · rw [if_neg hzero]
    by_cases hlong : pathLimit ≤ p.text.utf8ByteSize
    · rw [if_pos hlong]
      exact ⟨fun h => (nomatch h), fun h => absurd h.1.2.1 (Nat.not_lt.mpr hlong)⟩
    · rw [if_neg hlong]
      by_cases hempty : p.segments = [""]
      · rw [if_pos (beq_iff_eq.mpr hempty)]
        exact ⟨fun h => (nomatch h), fun h => absurd hempty h.1.2.2⟩
      · rw [if_neg (by rwa [beq_iff_eq])]
        exact ⟨fun h => ⟨⟨Bool.eq_false_iff.mpr hzero, Nat.lt_of_not_le hlong, hempty⟩, h⟩, fun h => h.2⟩

theorem Changes.locate {touched : List String → Prop} (h : Changes touched t t') {q : List String}
    (hq : t.locate base p = .ok q) : t'.locate base p = .ok q := by
  obtain ⟨htaken, hfollow⟩ := locate_eq_ok_iff.mp hq
  exact locate_eq_ok_iff.mpr ⟨htaken, h.follow hfollow⟩

theorem fits_of_locate {q : List String} (h : t.locate base p = .ok q) : p.fits = true := by
  obtain ⟨⟨hzero, htext, -⟩, hfollow⟩ := locate_eq_ok_iff.mp h
  exact Path.fits_iff.mpr ⟨⟨hzero, htext⟩, size_of_follow hfollow⟩

/-! ## Below a directory -/

/-- A path leads to a directory, whether there is a slash at its end or not. -/
structure Leads (t : FileTree) (base : List String) (root : Path) (place : List String) : Prop where
  follow : t.follow (if root.isAbsolute then [] else base) (Path.withoutSlash root.segments) = .ok place
  directory : t.at? place = some .directory

namespace Leads

variable {root : Path} {name : String}

theorem change (h : Leads t base root place) {touched : List String → Prop} (hc : Changes touched t t') :
    Leads t' base root place :=
  ⟨hc.follow h.follow, hc.directory h.directory⟩

/-- What is below the directory is found from its place. -/
theorem locate_eq (h : Leads t base root place) (hname : Path.IsName name) (rest : List String) :
    t.locate base (root.below (name :: rest)) =
      if isUnnameable (root.below (name :: rest)).segments then .error .unnameable
      else if pathLimit ≤ (root.below (name :: rest)).text.utf8ByteSize then .error .nameTooLong
      else t.follow place (name :: rest) := by
  have hsegments : ¬ ((root.below (name :: rest)).segments == [""]) = true := by
    intro heq
    have hmem : name ∈ (root.below (name :: rest)).segments :=
      List.mem_append_right _ List.mem_cons_self
    rw [beq_iff_eq.mp heq, List.mem_singleton] at hmem
    exact hname.ne_empty hmem
  have hfollow : t.follow (if root.isAbsolute then [] else base) (root.below (name :: rest)).segments =
      t.follow place (name :: rest) := by
    show t.follow _ (Path.withoutSlash root.segments ++ name :: rest) = _
    rw [follow_append, h.follow]
    rfl
  rw [locate, if_neg hsegments, Path.isAbsolute_below hname.ne_empty, hfollow]

theorem locate_of_fits (h : Leads t base root place) (hname : Path.IsName name) {rest : List String}
    (hfits : (root.below (name :: rest)).fits = true) :
    t.locate base (root.below (name :: rest)) = t.follow place (name :: rest) := by
  obtain ⟨⟨hzero, htext⟩, -⟩ := Path.fits_iff.mp hfits
  rw [h.locate_eq hname, hzero, if_neg Bool.false_ne_true, if_neg (Nat.not_le.mpr htext)]

theorem locate_child (h : Leads t base root place) (hname : Path.IsName name)
    (hfits : (root.below [name]).fits = true) :
    t.locate base (root.below [name]) = .ok (place ++ [name]) := by
  have hsize := (Path.fits_iff.mp hfits).2 name (List.mem_append_right _ (List.mem_singleton_self name))
  rw [h.locate_of_fits hname hfits, follow_cons_name hname h.directory, if_neg (Nat.not_lt.mpr hsize)]
  rfl

theorem locate_file (h : Leads t base root place) (hname : Path.IsName name) {file : String}
    (hfile : Path.IsName file) (hfits : (root.below [name, file]).fits = true)
    (hdirectory : t.at? (place ++ [name]) = some .directory) :
    t.locate base (root.below [name, file]) = .ok (place ++ [name, file]) := by
  have hsize : ∀ n ∈ [name, file], ¬ longestName < n.utf8ByteSize := fun n hn =>
    Nat.not_lt.mpr ((Path.fits_iff.mp hfits).2 n (List.mem_append_right _ hn))
  rw [h.locate_of_fits hname hfits, follow_cons_name hname h.directory, if_neg (hsize name (by simp)),
    follow_cons_name hfile hdirectory, if_neg (hsize file (by simp)), List.append_assoc]
  rfl

theorem eq_of_locate (h : Leads t base root place) {rest q : List String}
    (hnames : ∀ n ∈ name :: rest, Path.IsName n)
    (hq : t.locate base (root.below (name :: rest)) = .ok q) : q = place ++ name :: rest := by
  rw [h.locate_of_fits (hnames name (by simp)) (fits_of_locate hq)] at hq
  exact eq_append_of_follow hnames hq

/-- A path just below a directory is refused for what it is, never because something is missing. -/
theorem ne_notFound_of_locate (h : Leads t base root place) (hname : Path.IsName name) {fault : Fault}
    (hfault : t.locate base (root.below [name]) = .error fault) : fault ≠ .notFound := by
  rw [h.locate_eq hname, follow_cons_name hname h.directory] at hfault
  rintro rfl
  split at hfault
  case isTrue => cases hfault
  case isFalse =>
    split at hfault
    case isTrue => cases hfault
    case isFalse => split at hfault <;> cases hfault

end Leads

/-! ## Making directories -/

theorem makeDirectory_eq {q : List String} (hp : p.trimSlashes = p) (hq : t.locate base p = .ok q) :
    t.makeDirectory base p = match t.at? q with
      | some _ => .error .taken
      | none => .ok (t.put q .directory) := by
  rw [makeDirectory, hp, hq]
  rfl

theorem ensureDirectory_eq {q : List String} (hp : p.trimSlashes = p) (hq : t.locate base p = .ok q) :
    t.ensureDirectory base p = match t.at? q with
      | none => .ok (t.put q .directory)
      | some .directory => .ok t
      | some _ => .error .taken := by
  have hthere : t.isDirectory base p = (t.at? q == some .directory) := by
    rw [isDirectory, find?, hq]
  rw [ensureDirectory, makeDirectory_eq hp hq, hthere]
  cases t.at? q with
  | none => rfl
  | some e => cases e <;> rfl

theorem ensureDirectory_of_locate {q : List String} (hp : p.trimSlashes = p) (hq : t.locate base p = .ok q)
    (hfree : t.at? q = none ∨ t.at? q = some .directory) :
    ∃ t', t.ensureDirectory base p = .ok t' ∧ t'.at? q = some .directory ∧ Changes (· = q) t t' := by
  rw [ensureDirectory_eq hp hq]
  rcases hfree with hnone | hdirectory
  · have hne : q ≠ [] := by
      rintro rfl
      cases hnone
    have hfile : t.at? q ≠ some .directory := by
      rw [hnone]
      exact nofun
    rw [hnone]
    exact ⟨t.put q .directory, rfl, at?_put t hne _, changes_put t _ hfile⟩
  · rw [hdirectory]
    exact ⟨t, rfl, hdirectory, .refl _ t⟩

theorem ensureDirectory_of_error {fault : Fault} (hp : p.trimSlashes = p)
    (h : t.locate base p = .error fault) : t.ensureDirectory base p = .error fault := by
  have hmake : t.makeDirectory base p = .error fault := by
    rw [makeDirectory, hp, h]
    rfl
  have habsent : t.isDirectory base p = false := by
    rw [isDirectory, find?, h]
    rfl
  rw [ensureDirectory, hmake]
  show (if t.isDirectory base p = true then _ else _) = _
  rw [habsent]
  rfl

namespace Leads

variable {root : Path} {name : String}

/-- Nothing is missing above, so that only the last directory is made. -/
theorem makeDirectories_eq (h : Leads t base root place) (hname : Path.IsName name) :
    t.makeDirectories base (root.below [name]) = t.ensureDirectory base (root.below [name]) := by
  have hreverse : (root.below [name]).segments.reverse = name :: (Path.withoutSlash root.segments).reverse := by
    show (Path.withoutSlash root.segments ++ [name]).reverse = _
    rw [List.reverse_append]
    rfl
  have hpath : Path.mk (name :: (Path.withoutSlash root.segments).reverse).reverse = root.below [name] := by
    rw [← hreverse, List.reverse_reverse]
  have hsegments : ¬ ((root.below [name]).segments == [""]) = true := by
    intro heq
    rw [beq_iff_eq.mp heq] at hreverse
    exact hname.ne_empty (List.cons.inj hreverse).1.symm
  rw [makeDirectories, if_neg hsegments, hreverse, makeUpward]
  simp only [hpath]
  split
  case h_1 hmissing =>
    cases hlocate : t.locate base (root.below [name]) with
    | error fault =>
        rw [ensureDirectory_of_error (Path.trimSlashes_below hname.ne_empty root) hlocate] at hmissing
        exact absurd (Except.error.inj hmissing) (h.ne_notFound_of_locate hname hlocate)
    | ok q =>
        rw [ensureDirectory_eq (Path.trimSlashes_below hname.ne_empty root) hlocate] at hmissing
        split at hmissing <;> cases hmissing
  case h_2 => rfl

theorem makeDirectories (h : Leads t base root place) (hname : Path.IsName name)
    (hfits : (root.below [name]).fits = true)
    (hfree : t.at? (place ++ [name]) = none ∨ t.at? (place ++ [name]) = some .directory) :
    ∃ t', t.makeDirectories base (root.below [name]) = .ok t' ∧
      t'.at? (place ++ [name]) = some .directory ∧ Changes (· = place ++ [name]) t t' := by
  rw [h.makeDirectories_eq hname]
  exact ensureDirectory_of_locate (Path.trimSlashes_below hname.ne_empty root)
    (h.locate_child hname hfits) hfree

/-- A directory whose path is not taken is not made. -/
theorem makeDirectories_refused (h : Leads t base root place) (hname : Path.IsName name)
    (hfits : (root.below [name]).fits ≠ true) :
    ∃ fault, t.makeDirectories base (root.below [name]) = .error fault := by
  rw [h.makeDirectories_eq hname]
  cases hlocate : t.locate base (root.below [name]) with
  | ok q => exact absurd (fits_of_locate hlocate) hfits
  | error fault =>
      exact ⟨fault, ensureDirectory_of_error (Path.trimSlashes_below hname.ne_empty root) hlocate⟩

end Leads

/-! ## Files -/

theorem writeText_eq {q : List String} (hlocate : t.locate base p = .ok q) (text : String) :
    t.writeText base p text = match t.at? q with
      | some .directory => .error .isDirectory
      | some (.device .full) => if Content.text text == Content.text "" then .ok t else .error .noSpace
      | some (.device .terminal) => .error .noDevice
      | some (.device _) => .ok t
      | some (.file _ mode) => .ok (t.put q (.file (.text text) mode))
      | none => .ok (t.put q (.file (.text text) usualMode)) := by
  rw [writeText, write, hlocate]
  rfl

/-- A file is written where nothing was, or in place of another file. -/
theorem writeText_file {q : List String} (hlocate : t.locate base p = .ok q) (hne : q ≠ [])
    (hfile : t.at? q = none ∨ ∃ content mode, t.at? q = some (.file content mode)) (text : String) :
    ∃ t' mode, t.writeText base p text = .ok t' ∧ t'.at? q = some (.file (.text text) mode) ∧
      Changes (· = q) t t' := by
  rw [writeText_eq hlocate]
  rcases hfile with hnone | ⟨content, mode, hfile⟩
  · have hchange := @changes_put q t (.file (.text text) usualMode) (by rw [hnone]; exact nofun)
    rw [hnone]
    exact ⟨_, usualMode, rfl, at?_put t hne _, hchange⟩
  · have hchange := @changes_put q t (.file (.text text) mode) (by rw [hfile]; exact nofun)
    rw [hfile]
    exact ⟨_, mode, rfl, at?_put t hne _, hchange⟩

theorem read_eq {q : List String} (hlocate : t.locate base p = .ok q) :
    t.read base p = match t.at? q with
      | none => .error .notFound
      | some .directory => .error .isDirectory
      | some (.device d) => d.content
      | some (.file content _) => .ok content := by
  rw [read, hlocate]
  rfl

theorem readText_file {q : List String} {text : String} {mode : Nat} (hlocate : t.locate base p = .ok q)
    (hfile : t.at? q = some (.file (.text text) mode)) : t.readText base p = .ok text := by
  rw [readText, read_eq hlocate, hfile]
  rfl

/-- Writing changes only the file that is written. -/
theorem changes_of_writeText {text : String} (h : t.writeText base p text = .ok t') :
    ∃ q, t.locate base p = .ok q ∧ Changes (· = q) t t' := by
  cases hlocate : t.locate base p with
  | error fault =>
      rw [writeText, write, hlocate] at h
      cases h
  | ok q =>
      refine ⟨q, rfl, ?_⟩
      rw [writeText_eq hlocate] at h
      cases hq : t.at? q with
      | none =>
          rw [hq] at h
          obtain rfl := Except.ok.inj h
          exact changes_put t _ (by rw [hq]; exact nofun)
      | some e =>
          rw [hq] at h
          cases e with
          | directory => cases h
          | file content mode =>
              obtain rfl := Except.ok.inj h
              exact changes_put t _ (by rw [hq]; exact nofun)
          | device d =>
              have hsame : t' = t := by
                cases d with
                | full =>
                    change (if _ then Except.ok t else _) = _ at h
                    split at h
                    case isTrue => exact (Except.ok.inj h).symm
                    case isFalse => cases h
                | terminal => cases h
                | null | zero | input | output | errors => exact (Except.ok.inj h).symm
              rw [hsame]
              exact .refl _ t

theorem removeFile_eq {q : List String} (hlocate : t.locate base p = .ok q) :
    t.removeFile base p = match t.at? q with
      | none => .error .notFound
      | some .directory => .error .isDirectory
      | some (.device _) => .error .denied
      | some (.file ..) => .ok ⟨t.entries.erase q⟩ := by
  rw [removeFile, hlocate]
  rfl

/-- Only a file is removed, and nothing else changes. -/
theorem changes_of_removeFile (h : t.removeFile base p = .ok t') :
    ∃ q content mode, t.locate base p = .ok q ∧ t.at? q = some (.file content mode) ∧
      Changes (· = q) t t' := by
  cases hlocate : t.locate base p with
  | error fault =>
      rw [removeFile, hlocate] at h
      cases h
  | ok q =>
      rw [removeFile_eq hlocate] at h
      cases hq : t.at? q with
      | none =>
          rw [hq] at h
          cases h
      | some e =>
          rw [hq] at h
          cases e with
          | directory => cases h
          | device d => cases h
          | file content mode =>
              obtain rfl := Except.ok.inj h
              exact ⟨q, content, mode, rfl, hq, changes_erase t (by rw [hq]; exact nofun)⟩

end FileTree

end Recap.Machine
