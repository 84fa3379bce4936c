import Mathlib.Data.Bool.AllAny
import Mathlib.Data.List.Basic
import Recap.Disk.Records
import Recap.Proofs.Disk.ChatName
import Recap.Proofs.Machine.FileTree

/-!
# The directory of a chat is one step below the root

An id can be any text, and the directory of its chat is found by following a path. So that the directory is
neither above the root nor further below it than one step, the name that is made of the id has to be a
single segment, and one that leads down. It is: of the characters that mean something in a path, a name
has none (`Disk.notMem_of_reserved`), as long as they are not taken for letters. Nothing else is asked of the class
of letters, so that it makes no difference which scripts the machine knows.

## Contents
- `Machine.Path.ofText_of_notMem`, `Machine.Path.place_child` — texts that are one segment, and where they lead.
- `Disk.reserved`, `Disk.notMem_of_reserved` — characters that mean something in a path.
- `Disk.chats_have_places_of_their_own` — every chat has one place, right below the root.
- `Disk.lookalikes_have_places_of_their_own` — ids that are made to collide.
-/

namespace Recap

/-! ## One step down -/

namespace Machine.Path

/-- A text without slashes is one segment. -/
theorem ofText_of_notMem {s : String} (h : '/' ∉ s.toList) : ofText s = ⟨[s]⟩ := by
  rw [ofText, splitSlashes_of_notMem h, List.map_singleton, String.ofList_toList]

/-- Something that is one segment is found in the directory itself. -/
theorem join_ofText {s : String} (h : '/' ∉ s.toList) (p : Path) : p.join (ofText s) = p.child s := by
  rw [ofText_of_notMem h, join, isAbsolute_singleton]
  rfl

/-- A slash at the end leads nowhere. -/
theorem place_withoutSlash (segments : List String) :
    place ⟨withoutSlash segments⟩ = place ⟨segments⟩ := by
  rcases List.eq_nil_or_concat' segments with rfl | ⟨init, last, rfl⟩
  · rfl
  · by_cases hlast : last = ""
    · subst hlast
      have hdrop : withoutSlash (init ++ [""]) = init := by
        rw [withoutSlash, List.getLast?_concat, if_pos (by decide), List.dropLast_concat]
      rw [hdrop]
      simp [place, isIdle]
    · rw [withoutSlash_append hlast]

/-- **A name leads one step down from a directory.** -/
theorem place_child {name : String} (h : IsName name) (p : Path) :
    (p.child name).place = p.place ++ [name] := by
  obtain ⟨hidle, hback⟩ := h
  have hstep : place ⟨withoutSlash p.segments ++ [name]⟩ = place ⟨withoutSlash p.segments⟩ ++ [name] := by
    simp [place, hidle, hback]
  rw [child, hstep, place_withoutSlash]

end Machine.Path

namespace Disk

open Machine (FileTree Path)

/-! ## Characters that mean something -/

/-- The percent sign, and the characters that mean something in a path on one machine or another. -/
def reserved : List Char := ['%', '.', '/', '\\', '\x00']

/-- What a name has besides letters: the other characters that stand for themselves, and the percent
    sign. -/
def joiners : List Char := ['-', '_', '%']

variable {isLetter : Char → Bool}

/-- **Nothing but percent signs is in a name that means something in a path.** -/
theorem notMem_of_reserved (hreserved : ∀ c ∈ reserved, isLetter c = false) {c : Char} (hc : c ∈ reserved)
    (hpercent : c ≠ '%') (id : String) : c ∉ (encodeName isLetter id).toList := by
  have hmarks : ∀ c ∈ reserved, c ≠ '-' ∧ c ≠ '_' ∧ ∀ n < 16, c ≠ hexDigit n :=
    List.all_iff_forall_prop.mp (by decide)
  obtain ⟨hhyphen, hunderscore, hdigit⟩ := hmarks c hc
  refine notMem_encodeName ?_ hpercent hdigit id
  rw [isPlainChar, hreserved c hc, beq_eq_false_iff_ne.mpr hhyphen, beq_eq_false_iff_ne.mpr hunderscore]
  rfl

/-- What is in a name is a letter, a joiner, or a hexadecimal digit. -/
theorem letter_or_joiner {id : String} {c : Char} (hc : c ∈ (encodeName isLetter id).toList) :
    isLetter c = true ∨ c ∈ joiners ∨ ∃ n < 16, c = hexDigit n := by
  rcases of_mem_encodeName hc with hplain | rfl | hdigit
  · rw [isPlainChar, Bool.or_eq_true, Bool.or_eq_true, beq_iff_eq, beq_iff_eq] at hplain
    rcases hplain with (hletter | rfl) | rfl
    · exact .inl hletter
    · exact .inr (.inl (by decide))
    · exact .inr (.inl (by decide))
  · exact .inr (.inl (by decide))
  · exact .inr (.inr hdigit)

/-- A name leads down, by one step. -/
theorem isName_encodeName (hreserved : ∀ c ∈ reserved, isLetter c = false) (id : String) :
    Path.IsName (encodeName isLetter id) :=
  Path.isName_of_dot_notMem (encodeName_ne_empty id)
    (notMem_of_reserved hreserved (by decide) (by decide) id)

/-! ## Places -/

theorem isAlphanumeric_reserved : ∀ c ∈ reserved, Text.isAlphanumeric c = false :=
  List.all_iff_forall_prop.mp (by decide +kernel)

theorem isAlphanumeric_hexDigit : ∀ n < 16, Text.isAlphanumeric (hexDigit n) = true := by decide +kernel

/-- **Every chat has one place of its own, right below the root.** Whatever characters count as letters, as
    long as none does that means something in a path: no two ids have the same name. A name is never
    empty, and it is neither of the names for the directory itself and for the one above it. It is made of
    letters, of hexadecimal digits (which are letters as well, if the class has them), and of hyphens,
    underscores and percent signs. So it is a single segment of a path; joined to the path of the root it
    leads to a place one step below that of the root (in a tree of files as well, wherever the path is
    taken), and for different ids to different places. All of this is true of the directories that chats
    have. -/
theorem chats_have_places_of_their_own (hreserved : ∀ c ∈ reserved, isLetter c = false) :
    (∀ a b, encodeName isLetter a = encodeName isLetter b → a = b) ∧
    (∀ id, let name := encodeName isLetter id
      (name ≠ "" ∧ name ≠ "." ∧ name ≠ "..") ∧
      (∀ c ∈ name.toList, (isLetter c = true ∨ c.isAlphanum = true ∨ c ∈ joiners) ∧
        (c ∈ reserved → c = '%')) ∧
      ((∀ n < 16, isLetter (hexDigit n) = true) → ∀ c ∈ name.toList, isLetter c = true ∨ c ∈ joiners) ∧
      (Path.ofText name).segments = [name] ∧
      ∀ root : Path, root.join (.ofText name) = root.child name ∧
        (root.child name).place = root.place ++ [name] ∧
        ∀ t base place, FileTree.Leads t base root place → (root.child name).fits = true →
          t.locate base (root.child name) = .ok (place ++ [name])) ∧
    (∀ (root : Path) a b, (root.child (encodeName isLetter a)).place
      = (root.child (encodeName isLetter b)).place → a = b) ∧
    ∀ (root : Path) id,
      (chatPath root id).place = root.place ++ [chatDirectory id] ∧
      (∀ c ∈ (chatDirectory id).toList, Text.isAlphanumeric c = true ∨ c ∈ joiners) ∧
      ∀ id', (chatPath root id').place = (chatPath root id).place → id' = id := by
  have hinjective : ∀ a b, encodeName isLetter a = encodeName isLetter b → a = b :=
    encodeName_injective (hreserved _ (by decide))
  refine ⟨hinjective, fun id => ?_, fun root a b h => ?_, fun root id => ?_⟩
  · have hname := isName_encodeName hreserved id
    have hslash : '/' ∉ (encodeName isLetter id).toList :=
      notMem_of_reserved hreserved (by decide) (by decide) id
    refine ⟨⟨hname.ne_empty, ?_, hname.2⟩, fun c hc => ⟨?_, fun hin => ?_⟩, fun hdigits c hc => ?_, ?_,
      fun root => ⟨Path.join_ofText hslash root, Path.place_child hname root,
        fun t base place hleads hfits => hleads.locate_child hname hfits⟩⟩
    · intro hdot
      rw [hdot] at hname
      exact absurd hname (by decide)
    · have hascii : ∀ n < 16, (hexDigit n).isAlphanum = true := by decide
      rcases letter_or_joiner hc with hletter | hjoiner | ⟨n, hn, rfl⟩
      · exact .inl hletter
      · exact .inr (.inr hjoiner)
      · exact .inr (.inl (hascii n hn))
    · by_contra hpercent
      exact notMem_of_reserved hreserved hin hpercent id hc
    · rcases letter_or_joiner hc with hletter | hjoiner | ⟨n, hn, rfl⟩
      · exact .inl hletter
      · exact .inr hjoiner
      · exact .inl (hdigits n hn)
    · rw [Path.ofText_of_notMem hslash]
  · rw [Path.place_child (isName_encodeName hreserved a), Path.place_child (isName_encodeName hreserved b)] at h
    exact hinjective a b (List.cons.inj (List.append_cancel_left h)).1
  · -- the directories of chats are named so, letters and digits of all scripts being letters
    have hplace : ∀ id, (chatPath root id).place = root.place ++ [chatDirectory id] := fun id =>
      Path.place_child (isName_encodeName isAlphanumeric_reserved id) root
    refine ⟨hplace id, fun c hc => ?_, fun id' h => ?_⟩
    · rcases letter_or_joiner hc with hletter | hjoiner | ⟨n, hn, rfl⟩
      · exact .inl hletter
      · exact .inr hjoiner
      · exact .inl (isAlphanumeric_hexDigit n hn)
    · rw [hplace, hplace] at h
      exact chatDirectory_injective (List.cons.inj (List.append_cancel_left h)).1

/-- A path back to the root, a text that looks like its name, and no text at all: all of them are kept
    right below the root. No other letters than those of ASCII are known here. -/
theorem lookalikes_have_places_of_their_own :
    let name := encodeName Char.isAlphanum
    let root := Path.ofText "/data/../kept/"
    (∀ c ∈ reserved, Char.isAlphanum c = false) ∧
    name "../é" = "%2E%2E%2F%C3%A9" ∧ name "%2E%2E%2F%C3%A9" = "%252E%252E%252F%25C3%25A9" ∧
    name "" = "%" ∧
    (root.child (name "../é")).place = ["kept", "%2E%2E%2F%C3%A9"] ∧
    (root.child (name "../é")).place ≠ (root.child (name "%2E%2E%2F%C3%A9")).place ∧
    ∀ c ∈ (name "../é").toList, Char.isAlphanum c = true ∨ c ∈ joiners := by
  intro name root
  have hreserved : ∀ c ∈ reserved, Char.isAlphanum c = false := List.all_iff_forall_prop.mp (by decide)
  have hback : name "../é" = "%2E%2E%2F%C3%A9" := by decide +kernel
  obtain ⟨-, hnames, hplaces, -⟩ := chats_have_places_of_their_own hreserved
  obtain ⟨-, -, hletters, -, hroot⟩ := hnames "../é"
  refine ⟨hreserved, hback, by decide +kernel, rfl, ?_, fun h => ?_, hletters (by decide)⟩
  · rw [(hroot root).2.1]
    show root.place ++ [name "../é"] = _
    rw [hback]
    decide +kernel
  · exact absurd (hplaces root _ _ h) (by decide)

end Disk

end Recap
