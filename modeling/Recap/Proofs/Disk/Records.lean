import Recap.Disk.Records
import Recap.Proofs.Disk.ChatName
import Recap.Proofs.Machine.Memory

/-!
# What is done with the files of a chat

## Contents
- `recordNames`, `filePlace`, `filePlace_inj` — the files that are kept for chats, each in a place of its own.
- `Aside` — what a task leaves as it is.
- `run_readRecord_absent`, `run_readRecord_present` — reading.
- `run_writeRecord`, `run_writeRecord_refused` — writing; a record is refused only for its path.
- `run_setBlock` — texts for prompts never touch what is kept for chats.
-/

namespace Recap.Disk

open Machine Machine.FileTree
open Record (Reader)

/-! ## Places -/

/-- The files that are kept for a chat. -/
def recordNames : List String := [storageName, tagsName]

theorem isName_of_mem_recordNames : ∀ name ∈ recordNames, Path.IsName name := by decide

theorem isName_chatDirectory (id : String) : Path.IsName (chatDirectory id) :=
  Path.isName_of_dot_notMem (chatDirectory_ne_empty id) (dot_notMem_chatDirectory id)

/-- The path of a file of a chat. -/
def filePath (root : Path) (id name : String) : Path := (chatPath root id).child name

theorem filePath_eq (root : Path) (id name : String) :
    filePath root id name = root.below [chatDirectory id, name] :=
  Path.child_below (chatDirectory_ne_empty id) root name

/-- The place of the directory of a chat. -/
def chatPlace (place : List String) (id : String) : List String := place ++ [chatDirectory id]

/-- The place of a file of a chat. -/
def filePlace (place : List String) (id name : String) : List String := place ++ [chatDirectory id, name]

variable {place : List String}

theorem filePlace_eq (place : List String) (id name : String) :
    filePlace place id name = chatPlace place id ++ [name] := by
  rw [filePlace, chatPlace, List.append_assoc]
  rfl

theorem filePlace_ne_nil (id name : String) : filePlace place id name ≠ [] :=
  List.append_ne_nil_of_right_ne_nil place (List.cons_ne_nil _ _)

/-- Files of different chats, and different files of one chat, have different places. -/
theorem filePlace_inj {id id' name name' : String} :
    filePlace place id name = filePlace place id' name' ↔ id = id' ∧ name = name' := by
  constructor
  · intro h
    obtain ⟨hid, hrest⟩ := List.cons.inj (List.append_cancel_left h)
    exact ⟨chatDirectory_injective hid, (List.cons.inj hrest).1⟩
  · rintro ⟨rfl, rfl⟩
    rfl

theorem filePlace_ne_chatPlace (id name id' : String) : filePlace place id name ≠ chatPlace place id' := by
  intro h
  have hlength := congrArg List.length h
  rw [filePlace, chatPlace, List.length_append, List.length_append] at hlength
  exact absurd (Nat.add_left_cancel hlength) (by decide : ¬ 2 = 1)

/-! ## What a task leaves as it is -/

variable {root : Path} {m m' m'' : Memory}

/-- There is nothing yet where the directory of a chat is to be, or the directory. -/
def Free (t : FileTree) (place : List String) : Prop := t.at? place = none ∨ t.at? place = some .directory

/-- A task changes what is at certain places. It leaves all directories, and puts nothing else where the
    directory of a chat is to be. -/
structure Aside (place : List String) (touched : List String → Prop) (m m' : Memory) : Prop where
  home : m'.home = m.home
  changes : Changes touched m.tree m'.tree
  free : ∀ id, Free m.tree (chatPlace place id) → Free m'.tree (chatPlace place id)

namespace Aside

variable {touched touched' : List String → Prop}

theorem refl (touched : List String → Prop) (m : Memory) : Aside place touched m m :=
  ⟨rfl, .refl touched m.tree, fun _ => id⟩

theorem base (h : Aside place touched m m') : m'.base = m.base := by
  rw [Memory.base, Memory.base, h.home]

theorem trans (h : Aside place touched m m') (h' : Aside place touched m' m'') : Aside place touched m m'' :=
  ⟨h'.home.trans h.home, h.changes.trans h'.changes, fun id hid => h'.free id (h.free id hid)⟩

theorem mono (h : Aside place touched m m') (hsub : ∀ q, touched q → touched' q) : Aside place touched' m m' :=
  ⟨h.home, fun q => (h.changes q).imp_right fun hq => ⟨hsub q hq.1, hq.2⟩, h.free⟩

/-- What was not touched is as it was. -/
theorem at?_eq (h : Aside place touched m m') {q : List String} (hq : ¬ touched q) :
    m'.tree.at? q = m.tree.at? q :=
  (h.changes q).resolve_right fun htouched => hq htouched.1

theorem leads (h : Aside place touched m m') (hroot : m.tree.Leads m.base root place) :
    m'.tree.Leads m'.base root place := by
  rw [h.base]
  exact hroot.change h.changes

end Aside

/-! ## Reading -/

section Reading

variable {α : Type} {r : Reader α} {path : Path}

theorem run_readRecord_absent (h : m.tree.find? m.base path = none) :
    m.run (readRecord r path).run = (.ok none, m) := by
  rw [readRecord, Memory.run_ask]
  show Memory.run (ExceptT.run (if (m.tree.find? m.base path).isSome = true then _ else _)) m = _
  rw [h]
  rfl

theorem run_readRecord_present {q : List String} {text : String} {mode : Nat} {value : α}
    (hlocate : m.tree.locate m.base path = .ok q) (hfile : m.tree.at? q = some (.file (.text text) mode))
    (hdecode : Json.decode r text = .ok value) :
    m.run (readRecord r path).run = (.ok (some value), m) := by
  have hfind : m.tree.find? m.base path = some (.file (.text text) mode) := by
    rw [find?, hlocate]
    exact hfile
  have hread : m.run (Call.readText path).ask = (.ok text, m) := by
    show (m.tree.readText m.base path, m) = _
    rw [readText_file hlocate hfile]
  rw [readRecord, Memory.run_ask]
  show Memory.run (ExceptT.run (if (m.tree.find? m.base path).isSome = true then _ else _)) m = _
  rw [hfind]
  show Memory.run (ExceptT.run (Task.attempt (Call.readText path).ask _ >>= _)) m = _
  rw [Memory.run_attempt_bind, hread]
  simp only [hdecode]
  rfl

end Reading

/-! ## Writing -/

/-- What is touched when a file of a chat is written: the file, and the directory of the chat. -/
def Written (place : List String) (id name : String) (q : List String) : Prop :=
  q = filePlace place id name ∨ q = chatPlace place id

theorem not_written_filePlace {id name id' name' : String} (h : id' = id → name' ≠ name) :
    ¬ Written place id name (filePlace place id' name') := by
  rintro (heq | heq)
  · obtain ⟨hid, hname⟩ := filePlace_inj.mp heq
    exact h hid hname
  · exact filePlace_ne_chatPlace id' name' id heq

/-- Making the directory of a chat is done, unless its path is not taken. -/
theorem run_makeDirectories (hroot : m.tree.Leads m.base root place) {id : String}
    (hfree : Free m.tree (chatPlace place id)) (hfits : (chatPath root id).fits = true) :
    ∃ m', m.run (Call.makeDirectories (chatPath root id)).ask = (.ok (), m') ∧
      Aside place (· = chatPlace place id) m m' ∧
      m'.tree.at? (chatPlace place id) = some .directory := by
  obtain ⟨tree, hmake, hdirectory, hchanges⟩ :=
    hroot.makeDirectories (isName_chatDirectory id) hfits hfree
  refine ⟨{ m with tree }, ?_, ⟨rfl, hchanges, ?_⟩, hdirectory⟩
  · show m.change (m.tree.makeDirectories m.base (root.below [chatDirectory id])) = _
    rw [hmake]
    rfl
  · intro id' hid'
    by_cases heq : chatPlace place id' = chatPlace place id
    · rw [heq]
      exact .inr hdirectory
    · rw [Free, show tree.at? _ = _ from (hchanges _).resolve_right fun h => heq h.1]
      exact hid'

theorem run_makeDirectories_refused (hroot : m.tree.Leads m.base root place) {id : String}
    (hfits : (chatPath root id).fits ≠ true) :
    ∃ fault, m.run (Call.makeDirectories (chatPath root id)).ask = (.error fault, m) := by
  obtain ⟨fault, hmake⟩ := hroot.makeDirectories_refused (isName_chatDirectory id) hfits
  refine ⟨fault, ?_⟩
  show m.change (m.tree.makeDirectories m.base (root.below [chatDirectory id])) = _
  rw [hmake]
  rfl

theorem fits_chatPath {id name : String} (h : (filePath root id name).fits = true) :
    (chatPath root id).fits = true := by
  have hsegments : filePath root id name = ⟨(chatPath root id).segments ++ [name]⟩ := by
    rw [filePath_eq]
    show Machine.Path.mk (Path.withoutSlash root.segments ++ [chatDirectory id, name]) =
      ⟨Path.withoutSlash root.segments ++ [chatDirectory id] ++ [name]⟩
    rw [List.append_assoc]
    rfl
  rw [hsegments] at h
  exact Path.fits_above h

/-- **A record whose path is taken is written**, and nothing else is touched but the directory of its chat. -/
theorem run_writeRecord (hroot : m.tree.Leads m.base root place) {id name : String} (hname : name ∈ recordNames)
    (hfree : Free m.tree (chatPlace place id))
    (hfile : m.tree.at? (filePlace place id name) = none ∨
      ∃ content mode, m.tree.at? (filePlace place id name) = some (.file content mode))
    (hfits : (filePath root id name).fits = true) (value : Json.Value) :
    ∃ m' mode, m.run (writeRecord (chatPath root id) name value).run = (.ok (), m') ∧
      Aside place (Written place id name) m m' ∧
      m'.tree.locate m'.base (filePath root id name) = .ok (filePlace place id name) ∧
      m'.tree.at? (filePlace place id name) = some (.file (.text value.pretty) mode) := by
  obtain ⟨m₁, hmake, haside, hdirectory⟩ := run_makeDirectories hroot hfree (fits_chatPath hfits)
  have hlocate : m₁.tree.locate m₁.base (filePath root id name) = .ok (filePlace place id name) := by
    have hleads := haside.leads hroot
    rw [filePath_eq] at hfits ⊢
    exact hleads.locate_file (isName_chatDirectory id) (isName_of_mem_recordNames name hname) hfits hdirectory
  have hfile₁ : m₁.tree.at? (filePlace place id name) = m.tree.at? (filePlace place id name) :=
    haside.at?_eq (filePlace_ne_chatPlace id name id)
  rw [← hfile₁] at hfile
  obtain ⟨tree, mode, hwrite, hwritten, hchanges⟩ :=
    writeText_file hlocate (filePlace_ne_nil id name) hfile value.pretty
  obtain ⟨m', hrun, htree, hhome⟩ := Memory.exists_writeText hwrite
  subst htree
  have haside' : Aside place (· = filePlace place id name) m₁ m' := by
    refine ⟨hhome, hchanges, fun id' hid' => ?_⟩
    rw [Free, (hchanges _).resolve_right fun h => filePlace_ne_chatPlace id name id' h.1.symm]
    exact hid'
  refine ⟨m', mode, ?_, (haside.mono fun q => .inr).trans (haside'.mono fun q => .inl), ?_, hwritten⟩
  · rw [writeRecord, Memory.run_attempt_bind, hmake]
    show Memory.run (ExceptT.run (Task.attempt
      (Call.writeText (filePath root id name) value.pretty).ask _)) m₁ = _
    have hanswer : m₁.run (Call.writeText (filePath root id name) value.pretty).ask = (.ok (), m') := hrun
    rw [Memory.run_attempt, hanswer]
  · rw [haside'.base]
    exact hchanges.locate hlocate

/-- A record is refused only where its path is not taken. No record is touched then. -/
theorem run_writeRecord_refused (hroot : m.tree.Leads m.base root place) {id name : String}
    (hfree : Free m.tree (chatPlace place id)) (hfits : (filePath root id name).fits ≠ true)
    (value : Json.Value) :
    ∃ m' e, m.run (writeRecord (chatPath root id) name value).run = (.error e, m') ∧
      Aside place (· = chatPlace place id) m m' := by
  by_cases hchat : (chatPath root id).fits = true
  · obtain ⟨m', hmake, haside, -⟩ := run_makeDirectories hroot hfree hchat
    obtain ⟨fault, hwrite⟩ : ∃ fault, m'.tree.writeText m'.base (filePath root id name) value.pretty =
        .error fault := by
      cases hlocate : m'.tree.locate m'.base (filePath root id name) with
      | ok q => exact absurd (fits_of_locate hlocate) hfits
      | error fault =>
          refine ⟨fault, ?_⟩
          rw [FileTree.writeText, FileTree.write, hlocate]
          rfl
    have hanswer : m'.run (Call.writeText (filePath root id name) value.pretty).ask = (.error fault, m') :=
      Memory.writeText_refused hwrite
    refine ⟨m', .writeRecord (filePath root id name), ?_, haside⟩
    rw [writeRecord, Memory.run_attempt_bind, hmake]
    show Memory.run (ExceptT.run (Task.attempt
      (Call.writeText (filePath root id name) value.pretty).ask _)) m' = _
    rw [Memory.run_attempt, hanswer]
    rfl
  · obtain ⟨fault, hanswer⟩ := run_makeDirectories_refused hroot hchat
    refine ⟨m, .makeDirectory (chatPath root id), ?_, .refl _ m⟩
    rw [writeRecord, Memory.run_attempt_bind, hanswer]

/-! ## Prompts -/

/-- The end of the name of every file with a text for a prompt. -/
def blockEnding : String := ".injection.json"

/-- A text that ends without a slash ends with one piece. -/
theorem exists_splitSlashes_append {ending : List Char} (hending : '/' ∉ ending) (cs : List Char) :
    ∃ above front, splitSlashes (cs ++ ending) = above ++ [front ++ ending] := by
  induction cs with
  | nil =>
      exact ⟨[], [], Path.splitSlashes_of_notMem hending⟩
  | cons c cs ih =>
      obtain ⟨above, front, hpieces⟩ := ih
      rw [List.cons_append, splitSlashes, hpieces]
      by_cases hslash : c = '/'
      · rw [if_pos hslash]
        exact ⟨[] :: above, front, rfl⟩
      · rw [if_neg hslash]
        cases above with
        | nil => exact ⟨[], c :: front, rfl⟩
        | cons piece above => exact ⟨(c :: piece) :: above, front, rfl⟩

/-- The last segment of the path for a text ends as all of them do, whatever the key is. -/
theorem exists_blockPath (directory : Path) (key : String) :
    ∃ above front, (blockPath directory key).segments = above ++ [front ++ blockEnding] := by
  obtain ⟨above, front, hpieces⟩ :=
    @exists_splitSlashes_append blockEnding.toList (by decide) key.toList
  have hsegments : (Path.ofText (key ++ blockEnding)).segments =
      above.map String.ofList ++ [String.ofList front ++ blockEnding] := by
    show (splitSlashes (key ++ blockEnding).toList).map String.ofList = _
    rw [String.toList_append, hpieces, List.map_append, List.map_singleton, String.ofList_append,
      String.ofList_toList]
  have hjoin : blockPath directory key = directory.join (Path.ofText (key ++ blockEnding)) := rfl
  rw [hjoin, Path.join]
  split
  case isTrue => exact ⟨_, _, hsegments⟩
  case isFalse =>
    refine ⟨Path.withoutSlash directory.segments ++ above.map String.ofList, String.ofList front, ?_⟩
    show Path.withoutSlash directory.segments ++ (Path.ofText (key ++ blockEnding)).segments = _
    rw [hsegments, List.append_assoc]

/-- What is touched when a text is put into a prompt: a file with a name of its own kind, and the directory. -/
def Prompted (place : List String) (id : String) (q : List String) : Prop :=
  (∃ above front, q = above ++ [front ++ blockEnding]) ∨ q = chatPlace place id

theorem length_blockName (front : String) : 15 ≤ (front ++ blockEnding).toList.length := by
  rw [String.toList_append, List.length_append]
  show 15 ≤ _ + 15
  omega

theorem isName_blockName (front : String) : Path.IsName (front ++ blockEnding) := by
  have hlong : ∀ t : String, t.toList.length < 15 → front ++ blockEnding ≠ t := by
    rintro t ht rfl
    exact absurd (length_blockName front) (by omega)
  refine ⟨?_, hlong ".." (by decide)⟩
  rw [Path.isIdle, Bool.or_eq_false_iff]
  exact ⟨beq_eq_false_iff_ne.mpr (hlong "" (by decide)), beq_eq_false_iff_ne.mpr (hlong "." (by decide))⟩

theorem prompted_of_locate {t : FileTree} {base q : List String} {directory : Path} {key : String}
    (h : t.locate base (blockPath directory key) = .ok q) :
    ∃ above front, q = above ++ [front ++ blockEnding] := by
  obtain ⟨above, front, hsegments⟩ := exists_blockPath directory key
  obtain ⟨-, hfollow⟩ := FileTree.locate_eq_ok_iff.mp h
  rw [hsegments] at hfollow
  obtain ⟨next, -, hq⟩ := exists_follow_of_snoc (isName_blockName front) hfollow
  exact ⟨next, front, hq⟩

/-- A text for a prompt is never put where something is kept for a chat, -/
theorem not_prompted_filePlace {id name id' : String} (hname : name ∈ recordNames) :
    ¬ Prompted place id' (filePlace place id name) := by
  rintro (⟨above, front, h⟩ | h)
  · rw [filePlace_eq] at h
    have hlast := (List.append_inj' h rfl).2
    have hlength := length_blockName front
    rw [← (List.cons.inj hlast).1] at hlength
    have hshort : ∀ n ∈ recordNames, n.toList.length < 15 := by decide
    exact absurd hlength (Nat.not_le.mpr (hshort name hname))
  · exact filePlace_ne_chatPlace id name id' h

/-- and never where the directory of a chat is to be. -/
theorem blockPlace_ne_chatPlace (above : List String) (front id : String) :
    above ++ [front ++ blockEnding] ≠ chatPlace place id := by
  intro h
  have hlast := (List.cons.inj (List.append_inj' h rfl).2).1
  have hdot : '.' ∈ (front ++ blockEnding).toList := by
    rw [String.toList_append]
    exact List.mem_append_right _ (by decide)
  rw [hlast] at hdot
  exact dot_notMem_chatDirectory id hdot

/-- A change at the place of a text is one that leaves records alone. -/
theorem aside_of_changes {above : List String} {front id : String} (hhome : m'.home = m.home)
    (hchanges : Changes (· = above ++ [front ++ blockEnding]) m.tree m'.tree) :
    Aside place (Prompted place id) m m' := by
  refine ⟨hhome, fun q => (hchanges q).imp_right fun hq => ⟨.inl ⟨above, front, hq.1⟩, hq.2⟩, fun id' hid' => ?_⟩
  rw [Free, (hchanges _).resolve_right fun h => blockPlace_ne_chatPlace above front id' h.1.symm]
  exact hid'

theorem run_removeBlock (path : Path) (hpath : ∃ directory key, path = blockPath directory key) (id : String) :
    Aside place (Prompted place id) m (m.run (Call.removeFile path).ask).2 := by
  show Aside place (Prompted place id) m (m.change (m.tree.removeFile m.base path)).2
  cases hremove : m.tree.removeFile m.base path with
  | error fault => exact .refl _ m
  | ok tree =>
      obtain ⟨q, content, mode, hlocate, -, hchanges⟩ := changes_of_removeFile hremove
      obtain ⟨directory, key, rfl⟩ := hpath
      obtain ⟨above, front, rfl⟩ := prompted_of_locate hlocate
      exact aside_of_changes rfl hchanges

theorem run_writeBlock (path : Path) (hpath : ∃ directory key, path = blockPath directory key)
    (text id : String) :
    Aside place (Prompted place id) m (m.run (Call.writeText path text).ask).2 := by
  show Aside place (Prompted place id) m (m.writeText path text).2
  cases hwrite : m.tree.writeText m.base path text with
  | error fault =>
      rw [Memory.writeText_refused hwrite]
      exact .refl _ m
  | ok tree =>
      obtain ⟨q, hlocate, hchanges⟩ := changes_of_writeText hwrite
      obtain ⟨directory, key, rfl⟩ := hpath
      obtain ⟨above, front, rfl⟩ := prompted_of_locate hlocate
      obtain ⟨m', hrun, rfl, hhome⟩ := Memory.exists_writeText hwrite
      rw [hrun]
      exact aside_of_changes hhome hchanges

/-- A task that can be refused leaves the machine as the question does. -/
theorem run_attempt_snd {ε α : Type} (d : Running (Except Machine.Fault α)) (failure : Machine.Fault → ε) :
    (m.run (Task.attempt d failure).run).2 = (m.run d).2 := by
  rw [Memory.run_attempt]
  rcases m.run d with ⟨_ | _, _⟩ <;> rfl

/-- **Putting a text into a prompt touches no record**, whatever its key is, and whether it succeeds or not. -/
theorem run_setBlock (hroot : m.tree.Leads m.base root place) {id : String}
    (hfree : Free m.tree (chatPlace place id)) (block : PromptBlock) :
    Aside place (Prompted place id) m (m.run (setBlock (chatPath root id) block).run).2 := by
  have hpath : ∃ directory key, blockPath (chatPath root id) block.key = blockPath directory key := ⟨_, _, rfl⟩
  unfold setBlock
  by_cases hempty : block.text.isEmpty = true
  · simp only [if_pos hempty]
    rw [Memory.run_ask]
    show Aside place (Prompted place id) m (Memory.run (ExceptT.run (if
      (m.tree.find? m.base (blockPath (chatPath root id) block.key)).isSome = true then _ else _)) m).2
    split
    case isTrue =>
      rw [run_attempt_snd]
      exact run_removeBlock _ hpath id
    case isFalse => exact .refl _ m
  · simp only [if_neg hempty]
    rw [Memory.run_attempt_bind]
    by_cases hfits : (chatPath root id).fits = true
    · obtain ⟨m₁, hmake, haside, -⟩ := run_makeDirectories hroot hfree hfits
      rw [hmake]
      show Aside place (Prompted place id) m (m₁.run (ExceptT.run (Task.attempt _ _))).2
      rw [run_attempt_snd]
      exact (haside.mono fun q => .inr).trans (run_writeBlock _ hpath _ id)
    · obtain ⟨fault, hanswer⟩ := run_makeDirectories_refused hroot hfits
      rw [hanswer]
      exact .refl _ m

end Recap.Disk
