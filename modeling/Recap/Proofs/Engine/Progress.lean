import Recap.Proofs.Dialogue.Interleaving
import Recap.Proofs.Engine.OperationEffect
import Recap.Proofs.Engine.Reliable

/-!
# What a pass reports

A pass that is not skipped reports that it begins, then each chunk that it has folded, and at last that it is
over, once, whether it has done all chunks, ended early or could not save. The reports depend on what the pass
hears, and on nothing else of the host. So the pass is followed with notes of what it hears (`PassNotes`), and
what is shown of the notes holds for every host, in whatever state it is and whatever fails.

## Contents
- `PassNotes`, `PassNotes.note` — what is noted of a pass.
- `updates`, `Reported`, `foldChunks_reports` — folding reports each chunk.
- `PassNotes.Bracketed`, `compact_reports` — a pass over a working set reports its beginning and its end.
- `progress_is_bracketed` — the reports of a pass.
-/

namespace Recap

open Dialogue (noting)

/-! ## Notes -/

/-- What is noted of a pass as far as its reports go. -/
structure PassNotes where
  /-- The chat that was seen. -/
  chat : Option Chat
  /-- The tags that were loaded. -/
  tags : Option TagStore
  /-- The number of chunks that came back with a text. -/
  told : Nat
  /-- Whether a record was saved. -/
  recordSaved : Bool
  /-- Whether tags were saved. -/
  tagsSaved : Bool
  /-- The reports, oldest first. -/
  reports : List ProgressEvent

namespace PassNotes

/-- Nothing yet. -/
def none : PassNotes :=
  { chat := .none, tags := .none, told := 0, recordSaved := false, tagsSaved := false, reports := [] }

/-- Another question and its answer. -/
def note (n : PassNotes) : (q : HostCall) → q.Answer → PassNotes
  | .currentChat, chat => { n with chat }
  | .loadTags _, .ok tags => { n with tags := some tags }
  | .compress .., some text => if Text.allBlank text then n else { n with told := n.told + 1 }
  | .saveStorage .., .ok () => { n with recordSaved := true }
  | .saveTags .., .ok () => { n with tagsSaved := true }
  | .report event, () => { n with reports := n.reports ++ [event] }
  | _, _ => n

end PassNotes

/-- Whether nothing is noted of a question. -/
def HostCall.isUnnoted : HostCall → Bool
  | .currentChat | .loadTags _ | .compress .. | .saveStorage .. | .saveTags .. | .report _ => false
  | _ => true

theorem PassNotes.note_of_isUnnoted (n : PassNotes) (q : HostCall) (a : q.Answer)
    (hq : q.isUnnoted = true) : n.note q a = n := by
  cases q with
  | currentChat | loadTags | compress | saveStorage | saveTags | report => cases hq
  | _ => rfl

/-! ## Folding -/

/-- The reports on `k` chunks that are folded after `done` others. -/
def updates (total done k : Nat) : List ProgressEvent :=
  (List.range' (done + 1) k).map (ProgressEvent.update · total)

/-- The notes once `k` chunks more are folded, `done` having been folded before. -/
def PassNotes.folded (n : PassNotes) (total done k : Nat) : PassNotes :=
  { n with told := n.told + k, reports := n.reports ++ updates total done k }

theorem PassNotes.folded_zero (n : PassNotes) (total done : Nat) : n.folded total done 0 = n := by
  rw [folded, updates, List.range'_zero, List.map_nil, List.append_nil]
  rfl

/-- A chunk is folded, and then the others. -/
theorem PassNotes.folded_succ (n : PassNotes) (total done k : Nat) :
    n.folded total done (k + 1) =
      { n with
        told := n.told + 1
        reports := n.reports ++ [.update (done + 1) total] : PassNotes }.folded total (done + 1) k := by
  simp only [folded, updates, List.range'_succ, List.map_cons, List.append_assoc, List.singleton_append,
    Nat.add_assoc, Nat.add_comm 1 k]

/-- Some chunks are folded and reported, and folding has ended early just if they are not all. -/
def Reported (total : Nat) (sizes : List Nat) (s : PassState) (n : PassNotes) (s' : PassState)
    (n' : PassNotes) : Prop :=
  ∃ k ≤ sizes.length, n' = n.folded total s.report.chunks k ∧
    s'.report.chunks = s.report.chunks + k ∧ s'.report.halted = decide (k < sizes.length)

/-- **Each chunk that comes back with a text is reported**, and folding ends early just if one does not. -/
theorem foldChunks_reports (total : Nat) {sizes : List Nat} {s : PassState} {n : PassNotes}
    (hs : s.report.halted = false) :
    (foldChunks total sizes s).Throughout (noting PassNotes.note) (fun _ => True)
      (Reported total sizes s n) n := by
  induction sizes generalizing s n with
  | nil => exact .finish trivial ⟨0, Nat.le_refl _, (n.folded_zero ..).symm, rfl, hs⟩
  | cons size sizes ih =>
    have halted : (pure s.halt : Hosted PassState).Throughout (noting PassNotes.note) (fun _ => True)
        (Reported total (size :: sizes) s n) n :=
      .finish trivial ⟨0, Nat.zero_le _, (n.folded_zero ..).symm, rfl,
        (decide_eq_true (Nat.succ_pos _)).symm⟩
    rw [foldChunks]
    refine .call trivial fun reply n₁ h₁ => ?_
    subst h₁
    cases reply with
    | none => exact halted
    | some text =>
      by_cases hblank : Text.allBlank text = true
      · simp only [PassNotes.note, hblank, if_true]
        exact halted
      · simp only [PassNotes.note, hblank, if_false, Bool.false_eq_true]
        refine .call trivial fun id n₂ h₂ => ?_
        subst h₂
        refine .call trivial fun now n₃ h₃ => ?_
        subst h₃
        refine .call trivial fun _ n₄ h₄ => ?_
        subst h₄
        -- this chunk adds its report, and the rest of the loop adds the others
        refine (ih (s := s.fold size id text now) hs).mono (fun _ _ => trivial) ?_
        rintro s' n' ⟨k, hk, hn', hchunks, hhalted⟩
        refine ⟨k + 1, Nat.succ_le_succ hk, ?_, ?_, ?_⟩
        · rw [hn', PassNotes.folded_succ]
          rfl
        · rw [hchunks]
          exact Nat.add_right_comm ..
        · rw [hhalted, List.length_cons, decide_eq_decide]
          exact Nat.succ_lt_succ_iff.symm

/-! ## Saving -/

/-- A save goes well just if both the record and the tags are saved. -/
theorem saveState_reports (chatId : String) (storage : Storage) (tags : TagStore) {n : PassNotes}
    (hrecord : n.recordSaved = false) (htags : n.tagsSaved = false) :
    (saveState chatId storage tags).Throughout (noting PassNotes.note) (fun _ => True)
      (fun r n' => ∃ recordSaved tagsSaved, n' = { n with recordSaved, tagsSaved } ∧
        r.isOk = (recordSaved && tagsSaved)) n := by
  obtain ⟨chat, loaded, told, recordSaved, tagsSaved, reports⟩ := n
  obtain rfl : recordSaved = false := hrecord
  obtain rfl : tagsSaved = false := htags
  refine .call trivial fun r n₁ h₁ => ?_
  subst h₁
  cases r with
  | error cause => exact .finish trivial ⟨false, false, rfl, rfl⟩
  | ok _ =>
    refine .call trivial fun r n₂ h₂ => ?_
    subst h₂
    cases r with
    | error cause => exact .finish trivial ⟨true, false, rfl, rfl⟩
    | ok _ => exact .finish trivial ⟨true, true, rfl, rfl⟩

/-! ## The pass -/

namespace PassNotes

/-- Whether all chunks are folded and everything is saved. -/
def success (n : PassNotes) (total : Nat) : Bool := n.told = total && n.recordSaved && n.tagsSaved

/-- The reports of a pass over `total` chunks: its beginning, the chunks that were folded, and its end. -/
structure Bracketed (total : Nat) (r : Except EngineError Outcome) (n : PassNotes) : Prop where
  told : n.told ≤ total
  reports : ∃ message,
    n.reports = .start total :: updates total 0 n.told ++ [.complete (n.success total) message]
  begun : ∀ reason, r ≠ .ok (.skipped reason)
  saved : (∃ report, r = .ok (.completed report)) ↔ (n.recordSaved && n.tagsSaved) = true
  completed : ∀ report, r = .ok (.completed report) →
    report.chunks = n.told ∧ (report.halted = true ↔ n.told < total) ∧ n.success total = !report.halted

namespace Bracketed

variable {n : PassNotes} {total : Nat} {message : String}

/-- The last report of a pass that could not save. -/
theorem of_error {e : EngineError} (told : n.told ≤ total)
    (reports : n.reports = .start total :: updates total 0 n.told)
    (unsaved : (n.recordSaved && n.tagsSaved) = false) :
    (n.note (.report (.complete false message)) ()).Bracketed total (.error e) := by
  refine ⟨told, ⟨message, ?_⟩, fun _ h => (nomatch h), ⟨fun ⟨_, h⟩ => (nomatch h), fun h => ?_⟩,
    fun _ h => (nomatch h)⟩
  · have hsuccess : n.success total = false := by
      rw [success, Bool.and_assoc, unsaved, Bool.and_false]
    show n.reports ++ [.complete false message] = _ ++ [.complete (n.success total) message]
    rw [reports, hsuccess]
    rfl
  · exact Bool.noConfusion (unsaved.symm.trans h)

/-- The last report of a pass that has saved everything. -/
theorem of_ok {report : Report} (told : n.told ≤ total)
    (reports : n.reports = .start total :: updates total 0 n.told)
    (saved : (n.recordSaved && n.tagsSaved) = true) (chunks : report.chunks = n.told)
    (halted : report.halted = decide (n.told < total)) :
    (n.note (.report (.complete (!report.halted) message)) ()).Bracketed total
      (.ok (.completed report)) := by
  have hsuccess : n.success total = !report.halted := by
    rw [success, Bool.and_assoc, saved, Bool.and_true, halted, ← decide_not, decide_eq_decide, Nat.not_lt]
    exact ⟨fun h => h.ge, fun h => Nat.le_antisymm told h⟩
  refine ⟨told, ⟨message, ?_⟩, fun _ h => (nomatch h), ⟨fun _ => saved, fun _ => ⟨report, rfl⟩⟩, ?_⟩
  · show n.reports ++ [.complete (!report.halted) message] = _ ++ [.complete (n.success total) message]
    rw [reports, hsuccess]
    rfl
  · rintro report' h
    cases h
    refine ⟨chunks, ?_, hsuccess⟩
    rw [halted]
    exact decide_eq_true_iff

end Bracketed

/-- The notes of a pass that was begun over `total` chunks and has folded `k` of them. -/
def underway (chat : Chat) (tags : TagStore) (total k : Nat) : PassNotes :=
  { none with
    chat := some chat, tags := some tags, told := k, reports := .start total :: updates total 0 k }

theorem folded_begun (chat : Chat) (tags : TagStore) (total k : Nat) :
    ({ none with chat := some chat, tags := some tags, reports := [.start total] } : PassNotes).folded
      total 0 k = underway chat tags total k := by
  simp [folded, underway, none]

end PassNotes

/-- **A pass over a working set reports that it begins, what it folds, and that it is over.** -/
theorem compact_reports (c : Config) (chat : Chat) (storage : Storage) (tags : TagStore)
    (working : List (Nat × Message)) :
    (compact c chat storage tags working).Throughout (noting PassNotes.note) (fun _ => True)
      (fun r n => n.chat = some chat ∧ n.tags = some tags ∧
        n.Bracketed (planChunks working.length c.chunkSize.toNat c.targetCompression.toNat).totalBatches r)
      { PassNotes.none with chat := some chat, tags := some tags } := by
  unfold compact
  generalize planChunks working.length c.chunkSize.toNat c.targetCompression.toNat = plan
  have quiet : ∀ {α : Type} {d : Hosted α}, d.Asks (·.isUnnoted = true) → ∀ n : PassNotes,
      d.Throughout (noting PassNotes.note) (fun _ => True) (fun _ n' => n' = n) n := fun hd n =>
    (hd.unnoted PassNotes.note_of_isUnnoted n).mono (fun _ _ => trivial) fun _ _ => id
  refine .bind (quiet (borrowProfile_asks_only (p := (·.isUnnoted = true)) rfl (fun _ => rfl) c) _) ?_
  rintro previous n₁ - rfl
  refine .call trivial fun _ n₂ h₂ => ?_
  subst h₂
  refine .bind (foldChunks_reports plan.totalBatches rfl) ?_
  -- from here on only the two saves and the last report are noted
  rintro s n₃ - ⟨k, hk, hn₃, hchunks, hhalted⟩
  obtain rfl : n₃ = .underway chat tags plan.totalBatches k := hn₃.trans (PassNotes.folded_begun ..)
  replace hchunks : s.report.chunks = k := hchunks.trans (Nat.zero_add k)
  refine .bind (quiet (returnProfile_asks_only (p := (·.isUnnoted = true)) (fun _ => rfl) previous) _) ?_
  rintro _ n₄ - rfl
  refine .call trivial fun now n₅ h₅ => ?_
  subst h₅
  refine .bind (saveState_reports chat.id _ s.tags rfl rfl) ?_
  rintro r n₆ - ⟨recordSaved, tagsSaved, rfl, hsaved⟩
  cases r with
  | error e =>
    refine .call trivial fun _ n₇ h₇ => ?_
    subst h₇
    exact .finish trivial ⟨rfl, rfl, .of_error hk rfl hsaved.symm⟩
  | ok _ =>
    refine .bind (quiet (inject_asks_only (p := (·.isUnnoted = true)) (fun _ => rfl) chat _) _) ?_
    rintro _ n₇ - rfl
    refine .call trivial fun _ n₈ h₈ => ?_
    subst h₈
    exact .finish trivial ⟨rfl, rfl, .of_ok hk rfl hsaved.symm hchunks hhalted⟩

/-- Loading notes the tags. -/
theorem loadState_reports (c : Config) (chatId : String) (n : PassNotes) :
    (loadState c chatId).Throughout (noting PassNotes.note) (fun _ => True)
      (fun r n' => (∃ cause, r = .error cause ∧ n' = n) ∨
        ∃ storage tags, r = .ok (storage, tags) ∧ n' = { n with tags := some tags }) n := by
  refine .bind (((loadOrInit_asks_only (p := (·.isUnnoted = true)) rfl c).unnoted
    PassNotes.note_of_isUnnoted n).mono (fun _ _ => trivial) fun _ _ => id) ?_
  rintro r n₁ - rfl
  rcases r with cause | ⟨storage, isFresh⟩
  · exact .finish trivial (.inl ⟨cause, rfl, rfl⟩)
  · refine .call trivial fun a n₂ h₂ => ?_
    subst h₂
    cases a with
    | error cause => exact .finish trivial (.inl ⟨cause, rfl, rfl⟩)
    | ok tags => exact .finish trivial (.inr ⟨storage, tags, rfl, rfl⟩)

/-- What became of a pass, and what is noted of it: it was skipped without a report, or begun and ended. -/
def PassNotes.Accounts (c : Config) (r : Except EngineError Outcome) (n : PassNotes) : Prop :=
  n.reports = [] ∧ (∃ reason, r = .ok (.skipped reason)) ∨
    ∃ chat tags, n.chat = some chat ∧ n.tags = some tags ∧
      n.Bracketed (planChunks (workingSet chat.messages tags).length c.chunkSize.toNat
        c.targetCompression.toNat).totalBatches r

/-- A pass, once it has the lock. -/
theorem passBody_reports (c : Config) :
    (passBody c).Throughout (noting PassNotes.note) (fun _ => True) (fun r n => n.Accounts c r) .none := by
  refine .call trivial fun a n₁ h₁ => ?_
  subst h₁
  cases a with
  | none => exact .finish trivial (.inl ⟨rfl, _, rfl⟩)
  | some chat =>
    refine .bind (loadState_reports c chat.id _) ?_
    rintro r n₂ - (⟨cause, rfl, rfl⟩ | ⟨storage, tags, rfl, rfl⟩)
    · exact .finish trivial (.inl ⟨rfl, _, rfl⟩)
    · by_cases hempty : (workingSet chat.messages tags).isEmpty = true
      · simp only [hempty, if_true]
        exact .finish trivial (.inl ⟨rfl, _, rfl⟩)
      · simp only [hempty, if_false, Bool.false_eq_true]
        exact (compact_reports c chat storage tags _).mono (fun _ _ => trivial)
          fun r n hn => .inr ⟨chat, tags, hn⟩

theorem perform_reports (c : Config) :
    (perform c).Throughout (noting PassNotes.note) (fun _ => True) (fun r n => n.Accounts c r) .none := by
  refine .call trivial fun free n₁ h₁ => ?_
  subst h₁
  cases free with
  | false => exact .finish trivial (.inl ⟨rfl, _, rfl⟩)
  | true =>
    refine .bind (passBody_reports c) fun r n₂ _ hr => ?_
    refine .call trivial fun _ n₃ h₃ => ?_
    subst h₃
    exact .finish trivial hr

/-- **The reports of a pass are well bracketed**, whatever the host answers. There is none just if the pass
    is skipped. Otherwise the first one says how many chunks are planned for the chat that was seen and the tags
    that were loaded; then each chunk that came back with a text is reported, and last, once, that the pass is
    over: as a success just if all chunks did and both saves went well. The pass is completed just if both
    saves went well; then it counts the same chunks, and has ended early just if they are not all. -/
theorem progress_is_bracketed {c : Config} {r : Except EngineError Outcome} {n : PassNotes}
    (hrun : (perform c).Ends (noting PassNotes.note) .none r n) :
    (n.reports = [] ↔ ∃ reason, r = .ok (.skipped reason)) ∧
    (n.reports ≠ [] → ∃ chat tags success message, n.chat = some chat ∧ n.tags = some tags ∧
      let total := (planChunks (workingSet chat.messages tags).length c.chunkSize.toNat
        c.targetCompression.toNat).totalBatches
      n.told ≤ total ∧
      n.reports = .start total :: (List.range' 1 n.told).map (ProgressEvent.update · total) ++
        [.complete success message] ∧
      (success = true ↔ n.told = total ∧ n.recordSaved = true ∧ n.tagsSaved = true) ∧
      ((∃ report, r = .ok (.completed report)) ↔ n.recordSaved = true ∧ n.tagsSaved = true) ∧
      ∀ report, r = .ok (.completed report) →
        report.chunks = n.told ∧ (report.halted = true ↔ n.told < total) ∧ success = !report.halted) := by
  rcases (perform_reports c).ends hrun with ⟨hnone, hskipped⟩ | ⟨chat, tags, hchat, htags, hb⟩
  · exact ⟨⟨fun _ => hskipped, fun _ => hnone⟩, fun hne => absurd hnone hne⟩
  · obtain ⟨message, hreports⟩ := hb.reports
    have hne : n.reports ≠ [] := by
      rw [hreports]
      exact List.cons_ne_nil _ _
    refine ⟨⟨fun h => absurd h hne, fun ⟨reason, h⟩ => absurd h (hb.begun reason)⟩, fun _ => ?_⟩
    refine ⟨chat, tags, _, message, hchat, htags, hb.told, hreports, ?_, ?_, hb.completed⟩
    · rw [PassNotes.success, Bool.and_eq_true, Bool.and_eq_true, decide_eq_true_iff, and_assoc]
    · rw [hb.saved, Bool.and_eq_true]

/-- A pass over two chunks, the second of which comes back without a text, on a host that keeps the reports as
    well. -/
theorem halted_pass_is_bracketed :
    let host := { MemoryHost.brief with compressor := .scripted [some "They met.", none] }
    let answer := MemoryHost.answer fun w => (.ok (.skipped .alreadyRunning), w)
    let run := (perform .thorough).run (Dialogue.alsoNoting answer PassNotes.note) (host, .none)
    let report : Report :=
      { chunks := 1, messagesCompacted := 1, summaryIds := ["uuid-1"], halted := true }
    run.1 = .ok (.completed report) ∧ run.2.1.progress = run.2.2.reports ∧
    run.2.2.reports =
      [.start 2, .update 1 2, .complete false "Compaction stopped after 1 of 2 chunks"] ∧
    report.chunks = run.2.2.told ∧ run.2.2.told < 2 := by
  intro host answer run report
  have hreport : run.1 = .ok (.completed report) := by decide +kernel
  have hreports : run.2.2.reports =
      [.start 2, .update 1 2, .complete false "Compaction stopped after 1 of 2 chunks"] := by decide +kernel
  have hkept : run.2.1.progress = run.2.2.reports := by decide +kernel
  have hrun : (perform .thorough).Ends (noting PassNotes.note) .none run.1 run.2.2 :=
    Dialogue.ends_alsoNoting answer PassNotes.note (perform .thorough) (host, .none)
  clear_value run
  have hne : run.2.2.reports ≠ [] := by
    rw [hreports]
    exact List.cons_ne_nil _ _
  obtain ⟨-, hbracketed⟩ := progress_is_bracketed hrun
  obtain ⟨chat, tags, success, message, -, -, -, hreports', -, -, hcompleted⟩ := hbracketed hne
  obtain ⟨hchunks, hhalted, -⟩ := hcompleted report hreport
  -- the first report says how many chunks are planned
  obtain ⟨hstart, -⟩ := List.cons.inj (hreports.symm.trans hreports')
  rw [← ProgressEvent.start.inj hstart] at hhalted
  exact ⟨hreport, hkept, hreports, hchunks, hhalted.mp rfl⟩

end Recap
