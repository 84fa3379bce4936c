import Recap.Proofs.Compressor.StandIn
import Recap.Proofs.Dialogue.Relying
import Recap.Proofs.Engine.Course

/-!
# Passes with the stand-in

A pass ends early where a chunk comes back without text. Where every chunk comes back with one, a pass goes
through its plan, whatever else its host does: that is said without a word about the host's state
(`compact_fulfils`, `perform_fulfils`). The stand-in has a text for every chunk, so this is true of passes
that rely on it. Where these can still end is before their work, and at a save that fails; on a host whose
loads and saves go well they complete (`perform_with_stand_in`).

## Contents
- `Report.Fulfils` — a report of all that was planned.
- `HostCall.Tells`, `foldChunks_fulfils`, `compact_fulfils`, `perform_fulfils` — a pass that is always told.
- `StandIn.Gives`, `perform_with_stand_in` — a pass that relies on the stand-in.
- `stand_in_tells_all_that_is_planned` — the form of its summaries, and the passes with it.
-/

namespace Recap

open Dialogue (Conduct answering)
open Text (words trim)

variable {σ τ : Type} {form : StandIn} {c : Config}

/-! ## Reports -/

/-- The pass did not end early, and covered all that was planned. -/
structure Report.Fulfils (r : Report) (p : Plan) : Prop where
  halted : r.halted = false
  chunks : r.chunks = p.totalBatches
  messages : r.messagesCompacted = p.plannedMessages

/-! ## Relying on a text for every chunk -/

/-- A chunk comes back with a text; any other answer is as good. -/
def HostCall.Tells : (q : HostCall) → q.Answer → Prop
  | .compress .., reply => tells reply = true
  | _, _ => True

/-- **Folding goes through all chunks.** -/
theorem foldChunks_fulfils (total : Nat) (sizes : List Nat) (st : PassState) :
    (foldChunks total sizes st).Relying HostCall.Tells (fun _ => True) fun st' =>
      st'.report.halted = st.report.halted ∧
      st'.report.chunks = st.report.chunks + sizes.length ∧
      st'.report.messagesCompacted = st.report.messagesCompacted + sizes.sum := by
  induction sizes generalizing st with
  | nil => exact .finish ⟨rfl, rfl, rfl⟩
  | cons size sizes ih =>
    rw [foldChunks]
    refine .call trivial fun reply hreply => ?_
    replace hreply : tells reply = true := hreply
    obtain ⟨text, rfl⟩ : ∃ text, reply = some text := by
      cases reply with
      | none => cases hreply
      | some text => exact ⟨text, rfl⟩
    rw [tells_some, Bool.not_eq_true'] at hreply
    simp only [hreply, if_false, Bool.false_eq_true]
    refine .call trivial fun id _ => .call trivial fun now _ => .call trivial fun _ _ => ?_
    refine (ih (st.fold size id _ now)).mono ?_
    rintro st' ⟨hhalted, hchunks, hmessages⟩
    refine ⟨hhalted, ?_, ?_⟩
    · rw [hchunks, List.length_cons]
      show st.report.chunks + 1 + sizes.length = _
      omega
    · rw [hmessages, List.sum_cons]
      show st.report.messagesCompacted + size + sizes.sum = _
      omega

/-- **A pass over a working set that is reported fulfils its plan.** -/
theorem compact_fulfils (chat : Chat) (storage : Storage) (tags : TagStore)
    (working : List (Nat × Message)) :
    (compact c chat storage tags working).Relying HostCall.Tells (fun _ => True) fun r =>
      ∀ report, r = .ok (.completed report) →
        report.Fulfils (planChunks working.length c.chunkSize.toNat c.targetCompression.toNat) := by
  unfold compact
  refine (Dialogue.Relying.any (borrowProfile c)).bind fun previous _ => ?_
  refine .call trivial fun _ _ => ?_
  refine (foldChunks_fulfils _ _ _).bind ?_
  rintro st ⟨hhalted, hchunks, hmessages⟩
  refine (Dialogue.Relying.any (returnProfile previous)).bind fun _ _ => ?_
  refine .call trivial fun now _ => ?_
  refine (Dialogue.Relying.any (saveState chat.id (st.record chat now) st.tags)).bind fun r _ => ?_
  cases r with
  | error e => exact .call trivial fun _ _ => .finish nofun
  | ok _ =>
    refine (Dialogue.Relying.any (inject chat _)).bind fun _ _ => .call trivial fun _ _ => ?_
    refine .finish fun report hreport => ?_
    cases hreport
    exact ⟨hhalted, hchunks.trans (Nat.zero_add _), hmessages.trans (Nat.zero_add _)⟩

section Reads

variable {k : Conduct HostCall HostCall.Answer σ} {s t : σ} {report : Report}

/-- **A pass that is always told fulfils the plan for what it has read.** -/
theorem perform_fulfils (hk : ∀ s q a t, k s q a t → q.Tells a)
    (h : (perform c).Ends k s (.ok (.completed report)) t) :
    ∃ chat storage tags u, Reads k c s chat storage tags u ∧
      report.Fulfils (planOf c chat tags) := by
  obtain ⟨chat, storage, tags, u, v, hreads, hcompact, -⟩ := Reads.of_pass h nofun
  refine ⟨chat, storage, tags, u, hreads, ?_⟩
  exact (compact_fulfils chat storage tags _).ends hk hcompact report rfl

end Reads

/-! ## Relying on the stand-in -/

/-- Summaries are those of the stand-in; any other answer is as good. -/
def StandIn.Gives (form : StandIn) : (q : HostCall) → q.Answer → Prop
  | .compress messages _, reply => reply = some (form.summarize messages)
  | _, _ => True

/-- The stand-in has a text for every chunk. -/
theorem StandIn.Gives.tells {q : HostCall} {a : q.Answer} (h : form.Gives q a) : q.Tells a := by
  cases q with
  | compress messages chapter =>
    have hgives : a = some (form.summarize messages) := h
    show Recap.tells a = true
    rw [hgives, tells_some, Bool.not_eq_true', Bool.eq_false_iff, Ne, ← Text.trim_eq_empty_iff]
    exact form.trim_summarize_ne_empty messages
  | _ => trivial

/-! ## Hosts that do not fail -/

/-- The stand-in as a compressor: it needs no memory. -/
def StandIn.reply (form : StandIn) (messages : List Message) (_ : Nat) (mind : τ) :
    Option String × τ :=
  (some (form.summarize messages), mind)

variable {answer : (q : HostCall) → σ → q.Answer × σ} {view : σ → Shown τ} {chat : Chat}

theorem StandIn.gives_of_reliable (hr : Reliable answer view chat form.reply) (s : σ) (q : HostCall)
    (a : q.Answer) (t : σ) (h : answering answer s q a t) : form.Gives q a := by
  cases q with
  | compress messages chapter => exact (hr.compress h).1
  | _ => trivial

/-- What is read on such a host is what is kept there. -/
theorem Reads.of_reliable {compress : List Message → Nat → τ → Option String × τ}
    (hr : Reliable answer view chat compress) {s u : σ} {chat' : Chat} {storage : Storage}
    {tags : TagStore} (h : Reads (answering answer) c s chat' storage tags u) :
    chat' = chat ∧ tags = (view s).tags chat.id := by
  obtain ⟨s₁, s₂, hbegin, hchat, hload⟩ := h
  obtain rfl : chat' = chat := Option.some.inj (hr.currentChat hchat)
  obtain ⟨-, hkept⟩ := (loadState_reliable hr chat'.id s₂).ends hload
  refine ⟨rfl, ?_⟩
  rw [← hr.quiet rfl hbegin, ← hr.quiet rfl hchat]
  cases hkept
  rfl

/-- **A pass with the stand-in on a host whose loads and saves go well.** -/
theorem perform_with_stand_in (hr : Reliable answer view chat form.reply) (c : Config) (s : σ)
    (free : (answer .begin s).1 = true) :
    let tags := (view s).tags chat.id
    let outcome := ((perform c).run answer s).1
    (workingSet chat.messages tags = [] → outcome = .ok (.skipped .nothingToCompact)) ∧
    (workingSet chat.messages tags ≠ [] →
      ∃ report, outcome = .ok (.completed report) ∧ report.Fulfils (planOf c chat tags)) := by
  intro tags outcome
  have hcomes : Comes form.reply c chat (view s) outcome _ := (perform_reliable hr s free).run
  unfold Comes at hcomes
  refine ⟨fun hempty => ?_, fun hne => ?_⟩
  · rw [if_pos (List.isEmpty_iff.mpr hempty)] at hcomes
    exact hcomes.1
  · rw [if_neg fun h => hne (List.isEmpty_iff.mp h)] at hcomes
    obtain ⟨cs, time, mind, st', -, -, hout, -⟩ := hcomes
    refine ⟨st'.report, hout, ?_⟩
    have hends := Dialogue.ends_answering answer (perform c) s
    rw [show ((perform c).run answer s).1 = .ok (.completed st'.report) from hout] at hends
    obtain ⟨chat', storage, tags', u, hreads, hfulfils⟩ :=
      perform_fulfils (fun s q a t h => (StandIn.gives_of_reliable hr s q a t h).tells) hends
    obtain ⟨rfl, rfl⟩ := hreads.of_reliable hr
    exact hfulfils

/-- **The stand-in tells all that is planned.** A summary line by line is a header and a line for each
    message: its number, and its first words if it has any. A summary of beginning and end is one line of
    first and last words. No text of a message changes that, and no summary is blank. So a pass never ends
    early: whatever its host does besides, a pass that completes has covered the messages of its plan; and
    where loads and saves go well it completes, or there was nothing to do. -/
theorem stand_in_tells_all_that_is_planned (form : StandIn) :
    (∀ messages : List Message, messages ≠ [] →
      ((StandIn.perMessage.summarize messages).split '\n').toList.map (·.copy) =
        "[Test Compressed Chunk]" :: messages.mapIdx fun i m =>
          if words m.text = [] then "[" ++ Nat.repr i ++ "]"
          else "[" ++ Nat.repr i ++ "] " ++
            " ".intercalate ((words m.text).take (min 25 (words m.text).length))) ∧
    (∀ (messages : List Message) (first last : Message), messages.head? = some first →
      messages.getLast? = some last →
      StandIn.bookends.summarize messages =
        "[Test] " ++ " ".intercalate ((words first.text).take 5) ++ " ... " ++
          " ".intercalate ((words last.text).rtake 5) ∧
      '\n' ∉ (StandIn.bookends.summarize messages).toList) ∧
    (∀ messages, trim (form.summarize messages) ≠ "") ∧
    (∀ {σ : Type} {k : Conduct HostCall HostCall.Answer σ}, (∀ s q a t, k s q a t → form.Gives q a) →
      ∀ c s report t, (perform c).Ends k s (.ok (.completed report)) t →
        ∃ chat storage tags u, Reads k c s chat storage tags u ∧
          report.Fulfils (planOf c chat tags)) ∧
    ∀ {σ τ : Type} {answer : (q : HostCall) → σ → q.Answer × σ} {view : σ → Shown τ} {chat : Chat},
      Reliable answer view chat form.reply → ∀ c s, (answer .begin s).1 = true →
        let tags := (view s).tags chat.id
        let outcome := ((perform c).run answer s).1
        (workingSet chat.messages tags = [] → outcome = .ok (.skipped .nothingToCompact)) ∧
        (workingSet chat.messages tags ≠ [] →
          ∃ report, outcome = .ok (.completed report) ∧ report.Fulfils (planOf c chat tags)) := by
  refine ⟨fun messages hne => ?_, fun messages first last hfirst hlast => ?_,
    form.trim_summarize_ne_empty,
    fun hk c s report t => perform_fulfils fun s q a t h => (hk s q a t h).tells,
    fun hr c s => perform_with_stand_in hr c s⟩
  · rw [StandIn.split_perMessage hne]
    congr 2
    funext i m
    exact StandIn.line_eq i m
  · exact ⟨StandIn.bookends_eq hfirst hlast, StandIn.newline_notMem_bookends messages⟩

/-- A message with line breaks of two kinds. -/
def Message.broken : Message := { Message.blank with text := "they\u2028met\n" }

/-- Summaries of a text with line breaks and one without words, and a pass over a chat without a word. -/
theorem stand_in_tells_broken_texts :
    (((StandIn.perMessage.summarize [.broken, .blank]).split '\n').toList.map (·.copy) =
      ["[Test Compressed Chunk]", "[0] they met", "[1]"]) ∧
    (StandIn.bookends.summarize [.broken, .blank] = "[Test] they met ... " ∧
      '\n' ∉ (StandIn.bookends.summarize [.broken, .blank]).toList) ∧
    trim (StandIn.bookends.summarize []) ≠ "" ∧
    ∃ report, ((perform .thorough).run (Obliging.answer .brief StandIn.bookends.reply)
        (Obliging.blank ())).1 = .ok (.completed report) ∧
      report.halted = false ∧ report.chunks = 2 ∧ report.messagesCompacted = 2 := by
  obtain ⟨hlines, -, -, -, -⟩ := stand_in_tells_all_that_is_planned .perMessage
  obtain ⟨-, hbookends, hblank, hends, hruns⟩ := stand_in_tells_all_that_is_planned .bookends
  refine ⟨(hlines [.broken, .blank] (by simp)).trans (by decide +kernel), ?_, hblank [], ?_⟩
  · obtain ⟨htext, hline⟩ := hbookends [.broken, .blank] .broken .blank rfl rfl
    exact ⟨htext.trans (by decide +kernel), hline⟩
  · have hr := @Obliging.reliable Unit .brief StandIn.bookends.reply
    obtain ⟨report, hout, -⟩ := (hruns hr .thorough (Obliging.blank ()) rfl).2 (by decide)
    -- the run is one of those that rely on the stand-in, and what it has read is what is kept
    have hrun := Dialogue.ends_answering (Obliging.answer .brief StandIn.bookends.reply)
      (perform .thorough) (Obliging.blank ())
    rw [hout] at hrun
    obtain ⟨chat, storage, tags, u, hreads, hfulfils⟩ :=
      hends (StandIn.gives_of_reliable hr) .thorough _ report _ hrun
    obtain ⟨rfl, rfl⟩ := hreads.of_reliable hr
    exact ⟨report, hout, hfulfils.halted, hfulfils.chunks.trans (by decide +kernel),
      hfulfils.messages.trans (by decide +kernel)⟩

end Recap
