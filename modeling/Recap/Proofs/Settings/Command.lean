import Recap.Proofs.Text.Words
import Recap.Settings.Basic

/-!
# The summarizer command and its warning

Settings are looked over before they are used, and a summarizer is built from them later. A command is
missing for the warning where there is no list of words for it; it is missing for the summarizer also
where the first word is blank, since no program has such a name. Words of the environment variable are
never blank, being cut at blanks (`ofList?_words`). Those of the settings are taken as they are, so a
blank program among them is not warned of and is refused all the same (`blank_program_is_not_warned_of`).
`warning_predicts_failure_iff` says that this is the only difference.

## Contents
- `variableCommand?_eq_none_iff`, `ofList?_of_variableCommand?` — commands from the environment.
- `missingCommandWarning_mem_iff` — when its absence is warned of.
- `UsesBlankProgram`, `summarizer?_eq_emptyCommand_iff` — when a command is there and refused.
- `warning_predicts_failure_iff` — where the two agree.
-/

namespace Recap.Settings

open Text (words trim allBlank head?_append)

variable {s : Settings} {environment : Option String}

/-! ## Commands -/

/-- The environment variable names no command if it is not set, and if it is set to blanks only. -/
theorem variableCommand?_eq_none_iff :
    variableCommand? environment = none ↔ ∀ text, environment = some text → words text = [] := by
  unfold variableCommand?
  cases environment with
  | none => simp
  | some text => simp

/-- A word of a text is the name of a program. -/
theorem ofList?_words {text : String} (h : words text ≠ []) :
    ∃ command, SummarizerCommand.ofList? (words text) = some command := by
  obtain ⟨program, arguments, hwords⟩ := List.exists_cons_of_ne_nil h
  have hword : Text.IsWord program.toList :=
    Text.isWord_of_mem_words (s := text) (by rw [hwords]; exact List.mem_cons_self)
  have hblank : allBlank program = false := by
    obtain ⟨c, cs, hc⟩ := List.exists_cons_of_ne_nil hword.1
    have hfirst : Text.isBlank c = false := hword.2 c (by rw [hc]; exact List.mem_cons_self)
    simp [allBlank, hc, hfirst]
  refine ⟨{ program, arguments }, ?_⟩
  rw [hwords, SummarizerCommand.ofList?, hblank]
  rfl

/-- The words of the environment variable can be run. -/
theorem ofList?_of_variableCommand? {list : List String}
    (h : variableCommand? environment = some list) :
    ∃ command, SummarizerCommand.ofList? list = some command := by
  unfold variableCommand? at h
  obtain ⟨hmap, hfull⟩ := Option.filter_eq_some_iff.mp h
  obtain ⟨text, -, rfl⟩ := Option.map_eq_some_iff.mp hmap
  exact ofList?_words (by simpa using hfull)

/-- A list of words is refused if the first of them is blank. -/
theorem ofList?_cons_eq_none_iff {program : String} {arguments : List String} :
    SummarizerCommand.ofList? (program :: arguments) = none ↔ trim program = "" := by
  rw [SummarizerCommand.ofList?, Text.trim_eq_empty_iff]
  simp

/-! ## The warning -/

theorem mem_warnIf {condition : Bool} {warning w : String} :
    w ∈ warnIf condition warning ↔ condition = true ∧ w = warning := by
  unfold warnIf
  split
  · simp [*]
  · simp [*]

theorem head?_missingCommandWarning : missingCommandWarning.toList.head? = some 's' := by
  unfold missingCommandWarning
  exact head?_append (head?_append (by simp))

/-- Texts that begin differently are different. -/
theorem ne_missingCommandWarning {w : String} {c : Char} (hw : w.toList.head? = some c)
    (hc : c ≠ 's') : missingCommandWarning ≠ w := by
  rintro rfl
  rw [head?_missingCommandWarning, Option.some_inj] at hw
  exact hc hw.symm

/-- **The absence of a command is warned of where one is asked for and there is none**; no other warning
    has that text, whatever the numbers in it are. -/
theorem missingCommandWarning_mem_iff :
    missingCommandWarning ∈ s.warnings environment ↔
      s.summarizer.kind = .command ∧ s.command? environment = none := by
  have hlevel₁ : missingCommandWarning ≠
      "level1_chunk_size is 0; chunks of 1 message will be used" :=
    ne_missingCommandWarning (c := 'l') (by simp) (by decide)
  have hlevel₂ : missingCommandWarning ≠ "level2_chunk_size should be at least 1" :=
    ne_missingCommandWarning (c := 'l') (by simp) (by decide)
  have hshare : ∀ number : String, missingCommandWarning ≠
      "target_compression " ++ number ++ " is outside 1-100; values above 100 act as 100" :=
    fun number => ne_missingCommandWarning (c := 't') (head?_append (head?_append (by simp)))
      (by decide)
  have hwindow : ∀ number : String, missingCommandWarning ≠
      "context_threshold " ++ number ++ " is not a percentage between 0 and 100" :=
    fun number => ne_missingCommandWarning (c := 'c') (head?_append (head?_append (by simp)))
      (by decide)
  have hcount : missingCommandWarning ≠
      "compact_threshold is 0; every message will trigger compaction" :=
    ne_missingCommandWarning (c := 'c') (by simp) (by decide)
  unfold warnings
  simp only [List.mem_append, mem_warnIf, hlevel₁, hlevel₂, hshare, hwindow, hcount, and_false,
    false_or, and_true]
  simp [lacksCommand]

/-! ## The summarizer -/

/-- The command of the settings is the one to be used, and its program is blank. -/
def UsesBlankProgram (s : Settings) (environment : Option String) : Prop :=
  s.summarizer.kind = .command ∧ (∀ text, environment = some text → words text = []) ∧
    ∃ program arguments, s.summarizer.command = program :: arguments ∧ trim program = ""

/-- The two ways for a summarizer not to be built: there is no command, or its words cannot be run. -/
theorem summarizer?_eq_error_iff {e : SummarizerError} :
    s.summarizer? environment = .error e ↔
      s.summarizer.kind = .command ∧
        (s.command? environment = none ∧ e = .notConfigured ∨
          ∃ list, s.command? environment = some list ∧ SummarizerCommand.ofList? list = none ∧
            e = .emptyCommand) := by
  unfold summarizer?
  cases s.summarizer.kind with
  | standIn => simp
  | command =>
    cases s.command? environment with
    | none => simp [eq_comm]
    | some list => cases h : SummarizerCommand.ofList? list <;> simp [h, eq_comm]

/-- No summarizer is configured where a command is asked for and there is none. -/
theorem summarizer?_eq_notConfigured_iff :
    s.summarizer? environment = .error .notConfigured ↔
      s.summarizer.kind = .command ∧ s.command? environment = none := by
  simp [summarizer?_eq_error_iff]

/-- **A command is refused where it comes from the settings and its program is blank.** -/
theorem summarizer?_eq_emptyCommand_iff :
    s.summarizer? environment = .error .emptyCommand ↔ s.UsesBlankProgram environment := by
  rw [summarizer?_eq_error_iff, UsesBlankProgram, ← variableCommand?_eq_none_iff]
  refine and_congr_right fun _ => ?_
  cases hvariable : variableCommand? environment with
  | some list =>
    -- the words of the variable go first, and they are never refused
    obtain ⟨command, hcommand⟩ := ofList?_of_variableCommand? hvariable
    simp [command?, hvariable, hcommand]
  | none =>
    cases hlist : s.summarizer.command with
    | nil => simp [command?, hvariable, hlist]
    | cons program arguments =>
      simp [command?, hvariable, hlist, ofList?_cons_eq_none_iff, Option.filter_some]

/-- **Where the warning predicts the failure.** It is given exactly if no summarizer is configured. A
    summarizer can fail to be built in one other way, which is not warned of: its command is that of the
    settings, and begins with a blank program. With all other settings, and any environment, there is an
    error if and only if there is the warning. -/
theorem warning_predicts_failure_iff (s : Settings) (environment : Option String) :
    (missingCommandWarning ∈ s.warnings environment ↔
      s.summarizer? environment = .error .notConfigured) ∧
    (s.summarizer? environment = .error .emptyCommand ↔ s.UsesBlankProgram environment) ∧
    (((∃ e, s.summarizer? environment = .error e) ↔
      missingCommandWarning ∈ s.warnings environment) ↔ ¬ s.UsesBlankProgram environment) := by
  have hwarned : missingCommandWarning ∈ s.warnings environment ↔
      s.summarizer? environment = .error .notConfigured := by
    rw [missingCommandWarning_mem_iff, summarizer?_eq_notConfigured_iff]
  refine ⟨hwarned, summarizer?_eq_emptyCommand_iff, ?_⟩
  rw [hwarned, ← summarizer?_eq_emptyCommand_iff]
  constructor
  · intro h hempty
    have hmissing := h.mp ⟨_, hempty⟩
    rw [hempty] at hmissing
    cases hmissing
  · intro hnever
    refine ⟨?_, fun h => ⟨_, h⟩⟩
    rintro ⟨e, he⟩
    cases e with
    | notConfigured => exact he
    | emptyCommand => exact absurd he hnever

/-- **A blank program is not warned of.** The settings ask for a command, and the only word of theirs is
    empty; nothing looks wrong about them, and no summarizer can be built. -/
theorem blank_program_is_not_warned_of :
    let s : Settings :=
      { Settings.standard with
        summarizer := { SummarizerSettings.standard with kind := .command, command := [""] } }
    s.warnings none = [] ∧ s.summarizer? none = .error .emptyCommand ∧
    ¬ ((∃ e, s.summarizer? none = .error e) ↔ missingCommandWarning ∈ s.warnings none) := by
  intro s
  have hwarnings : s.warnings none = [] := by decide +kernel
  have hrefused : s.summarizer? none = .error .emptyCommand := by decide +kernel
  refine ⟨hwarnings, hrefused, fun h => ?_⟩
  have hwarned := h.mp ⟨_, hrefused⟩
  rw [hwarnings] at hwarned
  cases hwarned

end Recap.Settings
