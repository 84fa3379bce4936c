import Recap.Disk.Host
import Recap.Proofs.Engine.Unfailing

/-!
# Where a host on disk has its summaries from

A host on disk has its summaries from the stand-in or from a command, as it is set. A command starts a
program, and what that does is up to the machine: a summary is what the program has written, if it ended
well (`ends_summarize_iff`). So of passes with a command no more is known than of the machine. Where the
program answers every prompt (`Answers`), a pass goes through its plan, as it does with the stand-in.

## Contents
- `replyOf`, `ends_summarize_iff` — a summary by a command.
- `SummarizerCommand.Answers`, `Summarizer.Answers` — machines on which there is a text for every chunk.
- `Disk.Host.tells`, `Disk.Host.serve_fulfils` — what a host on such a machine answers, and passes with it.
-/

namespace Recap

open Dialogue (Conduct delegated)
open Machine (Call Ending ExitStatus Fault)

variable {σ : Type} {k : Conduct Call Call.Answer σ} {s t : σ}

/-! ## A command -/

/-- The summary that a program gives by its end: what it has written, without the blanks behind it, if it
    ended well. -/
def replyOf : Except Fault Ending → Option String
  | .error _ => none
  | .ok e => if e.status = .exited 0 then some (Text.trimEnd (Text.decode e.out)) else none

theorem toOption_answerOf (program : String) (e : Ending) :
    (answerOf program e).toOption = replyOf (.ok e) := by
  unfold answerOf replyOf ExitStatus.isSuccess
  by_cases hgood : e.status = .exited 0
  · simp [hgood, Except.toOption]
  · simp [hgood, Except.toOption]

/-- **A summary by a command** is what its program gives that is started with the prompt to read, and there
    is nothing else that the machine is asked for. -/
theorem Disk.ends_summarize_iff {command : SummarizerCommand} {template : String}
    {messages : List Message} {chapter : Nat} {reply : Option String} :
    (summarize (.command command template) messages chapter).Ends k s reply t ↔
      ∃ ended, k s (.start (command.invocation (chunkPrompt template messages chapter))) ended t ∧
        reply = replyOf ended := by
  constructor
  · rintro ⟨ended, u, hstart, h⟩
    cases ended with
    | error fault =>
      obtain ⟨rfl, rfl⟩ := h
      exact ⟨_, hstart, rfl⟩
    | ok e =>
      obtain ⟨rfl, rfl⟩ := h
      exact ⟨_, hstart, toOption_answerOf _ e⟩
  · rintro ⟨ended, hstart, rfl⟩
    refine ⟨ended, t, hstart, ?_⟩
    cases ended with
    | error fault => exact ⟨rfl, rfl⟩
    | ok e => exact ⟨(toOption_answerOf _ e).symm, rfl⟩

/-! ## A text for every chunk -/

/-- The program answers every prompt: it is started, ends well, and has written something. -/
def SummarizerCommand.Answers (command : SummarizerCommand) (k : Conduct Call Call.Answer σ) : Prop :=
  ∀ s prompt ended t, k s (.start (command.invocation prompt)) ended t →
    ∃ e, ended = .ok e ∧ e.status = .exited 0 ∧ Text.allBlank (Text.decode e.out) = false

/-- There is a text for every chunk: from the stand-in, or from a program that answers. -/
def Summarizer.Answers (k : Conduct Call Call.Answer σ) : Summarizer → Prop
  | .standIn _ => True
  | .command c _ => c.Answers k

namespace Disk.Host

variable {h : Host}

/-- A host on disk that is set to the stand-in gives its summaries, whatever becomes of the files. -/
theorem gives_of_standIn {form : StandIn} (hform : h.summarizer = .standIn form) {q : HostCall}
    {a : q.Answer} (ha : delegated h.answer k s q a t) : form.Gives q a := by
  cases q with
  | compress messages chapter =>
    rw [delegated, answer, hform] at ha
    exact ha.1
  | _ => trivial

/-- **Where there is a text for every chunk, a host on disk tells it.** -/
theorem tells (hsource : h.summarizer.Answers k) {q : HostCall} {a : q.Answer}
    (ha : delegated h.answer k s q a t) : q.Tells a := by
  cases hsummarizer : h.summarizer with
  | standIn form => exact (gives_of_standIn hsummarizer ha).tells
  | command command template =>
    cases q with
    | compress messages chapter =>
      rw [hsummarizer] at hsource
      rw [delegated, answer, hsummarizer] at ha
      obtain ⟨ended, hstart, rfl⟩ := ends_summarize_iff.mp ha
      obtain ⟨e, rfl, hgood, htext⟩ := hsource _ _ _ _ hstart
      show Recap.tells (replyOf (.ok e)) = true
      rw [replyOf, if_pos hgood, tells_some, Text.allBlank_trimEnd, htext]
      rfl
    | _ => trivial

/-- **A pass on disk fulfils the plan for what it has read**, if there is a text for every chunk. -/
theorem serve_fulfils (hsource : h.summarizer.Answers k) {c : Config} {report : Report}
    (hends : (h.serve (perform c)).Ends k s (.ok (.completed report)) t) :
    ∃ chat storage tags u, Reads (delegated h.answer k) c s chat storage tags u ∧
      report.Fulfils (planOf c chat tags) :=
  perform_fulfils (fun _ _ _ _ => tells hsource) (Dialogue.Ends.of_delegate hends)

end Disk.Host

end Recap
