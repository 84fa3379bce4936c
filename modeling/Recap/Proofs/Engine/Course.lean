import Recap.Proofs.Dialogue.Interleaving
import Recap.Proofs.Engine.OperationEffect
import Recap.Proofs.Engine.PassOutcome

/-!
# The course of a pass

A pass that is not skipped goes one way: it reads a chat and what is kept for it, folds chunks, and saves
twice. Between these parts it asks only what changes nothing. `compact_course` and `Reads.of_pass` take a
run apart accordingly, whatever its surroundings are, so that what is known of the parts can be put
together for surroundings of any kind, and for surroundings that take notes as well.

What is noted here is what the compressor was asked and what it replied (`hear`). `foldChunks_hears` says
what folding has asked, and which chapters it has made of the replies, without a compressor in mind: the
replies are any.

## Contents
- `Idles` — runs of quiet questions.
- `Reads`, `Reads.of_pass` — what a pass that is not skipped has read before.
- `compact_course` — the rest of it, part by part.
- `Exchange`, `hear` — the compressor, asked and heard.
- `Answered`, `foldChunks_hears` — what folding hears, and makes of it.
-/

namespace Recap

open Dialogue (Conduct alsoNoted noting)
open Relation (ReflTransGen)

variable {σ τ : Type} {k : Conduct HostCall HostCall.Answer σ} {c : Config} {s t u : σ}

/-! ## Quiet times -/

/-- From the first state to the second one only quiet questions are answered. -/
def Idles (k : Conduct HostCall HostCall.Answer σ) : σ → σ → Prop :=
  ReflTransGen fun s t => ∃ (q : HostCall) (a : q.Answer), q.isQuiet = true ∧ k s q a t

theorem Idles.single {q : HostCall} {a : q.Answer} (hq : q.isQuiet = true) (h : k s q a t) :
    Idles k s t := ReflTransGen.single ⟨q, a, hq, h⟩

theorem Idles.trans (h : Idles k s t) (h' : Idles k t u) : Idles k s u := ReflTransGen.trans h h'

/-- A run of quiet questions. -/
theorem Idles.of_ends {α : Type} {d : Hosted α} (hd : d.Asks (·.isQuiet = true)) {a : α}
    (h : d.Ends k s a t) : Idles k s t := by
  induction d generalizing s with
  | done b =>
    obtain ⟨-, rfl⟩ := h
    exact .refl
  | ask q next ih =>
    obtain ⟨answer, u, hs, h⟩ := h
    exact (Idles.single hd.1 hs).trans (ih answer (hd.2 answer) h)

/-- A run of minor questions is a quiet one. -/
theorem Idles.of_minor {α : Type} {d : Hosted α} (hd : d.Asks (·.isMinor = true)) {a : α}
    (h : d.Ends k s a t) : Idles k s t :=
  .of_ends (hd.mono fun _ hq => HostCall.isQuiet_of_isMinor hq) h

/-! ## What a pass has read -/

/-- A pass that begins in the first state comes to the second one with this chat, record and tags: it has
    the lock, there is a chat, and what is kept for the chat is loaded. -/
def Reads (k : Conduct HostCall HostCall.Answer σ) (c : Config) (s : σ) (chat : Chat)
    (storage : Storage) (tags : TagStore) (t : σ) : Prop :=
  ∃ s₁ s₂, k s .begin true s₁ ∧ k s₁ .currentChat (some chat) s₂ ∧
    (loadState c chat.id).Ends k s₂ (.ok (storage, tags)) t

variable {r : Except EngineError Outcome}

/-- A pass with the lock that is not skipped works on the chat that it was given. -/
theorem passBody_course (h : (passBody c).Ends k s r t) (hr : ∀ reason, r ≠ .ok (.skipped reason)) :
    ∃ chat storage tags s₁ s₂, k s .currentChat (some chat) s₁ ∧
      (loadState c chat.id).Ends k s₁ (.ok (storage, tags)) s₂ ∧
      (compact c chat storage tags (workingSet chat.messages tags)).Ends k s₂ r t := by
  unfold passBody at h
  obtain ⟨found, s₁, hfound, h⟩ := Dialogue.Ends.of_call h
  cases found with
  | none => exact absurd h.1 (hr _)
  | some chat =>
    obtain ⟨loaded, s₂, hload, h⟩ := Dialogue.Ends.of_bind h
    cases loaded with
    | error cause => exact absurd h.1 (hr _)
    | ok kept =>
      obtain ⟨storage, tags⟩ := kept
      by_cases hempty : (workingSet chat.messages tags).isEmpty = true
      · simp only [hempty, if_true] at h
        exact absurd h.1 (hr _)
      · simp only [hempty, if_false, Bool.false_eq_true] at h
        exact ⟨chat, storage, tags, s₁, s₂, hfound, hload, h⟩

namespace Reads

variable {chat : Chat} {storage : Storage} {tags : TagStore}

/-- **A pass that is not skipped has read a chat and what is kept for it**, and works on that. -/
theorem of_pass (h : (perform c).Ends k s r t) (hr : ∀ reason, r ≠ .ok (.skipped reason)) :
    ∃ chat storage tags u v, Reads k c s chat storage tags u ∧
      (compact c chat storage tags (workingSet chat.messages tags)).Ends k u r v ∧ Idles k v t := by
  unfold perform at h
  obtain ⟨got, s₁, hgot, h⟩ := Dialogue.Ends.of_call h
  cases got with
  | false => exact absurd h.1 (hr _)
  | true =>
    obtain ⟨r', v, hbody, h⟩ := Dialogue.Ends.of_bind h
    obtain ⟨_, w, hfinish, rfl, rfl⟩ := Dialogue.Ends.of_call h
    obtain ⟨chat, storage, tags, s₂, u, hchat, hload, hcompact⟩ := passBody_course hbody hr
    exact ⟨chat, storage, tags, u, v, ⟨s₁, s₂, hgot, hchat, hload⟩, hcompact, .single rfl hfinish⟩

/-- A pass reads by quiet questions. -/
theorem idles (h : Reads k c s chat storage tags t) : Idles k s t := by
  obtain ⟨s₁, s₂, hbegin, hchat, hload⟩ := h
  exact (Idles.single rfl hbegin).trans
    ((Idles.single rfl hchat).trans (Idles.of_minor (loadState_asks c chat.id) hload))

/-- What is read with notes is read without them. -/
theorem of_alsoNoted {f : τ → (q : HostCall) → q.Answer → τ} {x y : σ × τ}
    (h : Reads (alsoNoted k f) c x chat storage tags y) : Reads k c x.1 chat storage tags y.1 := by
  obtain ⟨s₁, s₂, hbegin, hchat, hload⟩ := h
  exact ⟨s₁.1, s₂.1, hbegin.1, hchat.1, hload.of_alsoNoted.1⟩

end Reads

/-! ## What it does then -/

/-- **The course of a pass over a working set.** Quiet questions apart, it folds the planned chunks, saves
    the record and the tags that it has come to, and ends as the saves do. -/
theorem compact_course {chat : Chat} {storage : Storage} {tags : TagStore}
    {working : List (Nat × Message)} (h : (compact c chat storage tags working).Ends k s r t) :
    let plan := planChunks working.length c.chunkSize.toNat c.targetCompression.toNat
    ∃ st time saved s₁ s₂ s₃ s₄, Idles k s s₁ ∧
      (foldChunks plan.totalBatches plan.chunks
        { storage, tags, left := working, report := .empty }).Ends k s₁ st s₂ ∧
      Idles k s₂ s₃ ∧ (saveState chat.id (st.record chat time) st.tags).Ends k s₃ saved s₄ ∧
      Idles k s₄ t ∧ r = saved.map fun _ => .completed st.report := by
  intro plan
  unfold compact at h
  obtain ⟨previous, u₁, hborrow, h⟩ := Dialogue.Ends.of_bind h
  obtain ⟨_, u₂, hstart, h⟩ := Dialogue.Ends.of_call h
  obtain ⟨st, u₃, hfold, h⟩ := Dialogue.Ends.of_bind h
  obtain ⟨_, u₄, hreturn, h⟩ := Dialogue.Ends.of_bind h
  obtain ⟨time, u₅, hnow, h⟩ := Dialogue.Ends.of_call h
  obtain ⟨saved, u₆, hsave, h⟩ := Dialogue.Ends.of_bind h
  have hafter : Idles k u₆ t ∧ r = saved.map fun _ => .completed st.report := by
    cases saved with
    | error e =>
      obtain ⟨_, u₇, hreport, rfl, rfl⟩ := Dialogue.Ends.of_call h
      exact ⟨.single rfl hreport, rfl⟩
    | ok _ =>
      obtain ⟨text, u₇, hinject, h⟩ := Dialogue.Ends.of_bind h
      obtain ⟨_, u₈, hreport, rfl, rfl⟩ := Dialogue.Ends.of_call h
      exact ⟨(Idles.of_minor (inject_asks chat _) hinject).trans (Idles.single rfl hreport), rfl⟩
  exact ⟨st, time, saved, u₂, u₃, u₅, u₆,
    (Idles.of_minor (borrowProfile_asks c) hborrow).trans (Idles.single rfl hstart), hfold,
    (Idles.of_minor (returnProfile_asks previous) hreturn).trans (Idles.single rfl hnow), hsave, hafter⟩

/-! ## The compressor -/

/-- A chunk that the compressor was given, and what it replied. -/
structure Exchange where
  messages : List Message
  chapter : Nat
  reply : Option String

/-- What has been heard of the compressor, oldest first. -/
def hear (heard : List Exchange) : (q : HostCall) → q.Answer → List Exchange
  | .compress messages chapter, reply => heard ++ [{ messages, chapter, reply }]
  | _, _ => heard

theorem hear_of_isQuiet (heard : List Exchange) (q : HostCall) (a : q.Answer)
    (hq : q.isQuiet = true) : hear heard q a = heard := by
  cases q with
  | compress => cases hq
  | _ => rfl

/-- In quiet times nothing is heard of it, and nothing is saved. -/
theorem Idles.calm {h : Habits} {x y : World × List Exchange}
    (hidle : Idles (alsoNoted (World.Step h) hear) x y) : World.Calm h x.1 y.1 ∧ y.2 = x.2 := by
  induction hidle with
  | refl => exact ⟨.refl _, rfl⟩
  | tail _ hstep ih =>
    obtain ⟨q, a, hq, hanswer, hheard⟩ := hstep
    refine ⟨ih.1.trans (hanswer.calm (HostCall.isSave_of_isQuiet hq)), ?_⟩
    rw [hheard, hear_of_isQuiet _ q a hq, ih.2]

/-- What was heard for the slices of `left`, the first one being chapter `chapter`, and what was made of
    it: the compressor was given one slice after the other, up to the first that it did not tell, and each
    slice that it told is a chapter. -/
structure Answered (chapter : Nat) (sizes : List Nat) (left : List (Nat × Message))
    (heard : List Exchange) (cs : List Chapter) : Prop where
  asked : heard.map (fun e => (e.messages, e.chapter))
    = (((sizes.splitLengths left).map (List.map (·.2))).zipIdx chapter).take heard.length
  count : heard.length = min (cs.length + 1) sizes.length
  chunks : cs.map (·.chunk) = (sizes.splitLengths left).take cs.length
  texts : cs.map (fun d => some d.text) = (heard.map (·.reply)).takeWhile tells

namespace Answered

variable {chapter size : Nat} {sizes : List Nat} {left : List (Nat × Message)}

/-- No slices, no replies. -/
theorem nil : Answered chapter [] left [] [] := ⟨rfl, rfl, rfl, rfl⟩

/-- The first slice is not told. -/
theorem untold {reply : Option String} (h : tells reply = false) :
    Answered chapter (size :: sizes) left [⟨(left.take size).map (·.2), chapter, reply⟩] [] where
  asked := by simp
  count := (Nat.min_eq_left (Nat.succ_pos _)).symm
  chunks := rfl
  texts := by
    have hneg : ¬ tells reply = true := by
      rw [h]
      exact Bool.false_ne_true
    rw [List.map_singleton, List.takeWhile_cons_of_neg hneg]
    rfl

/-- The first slice is told, and then others are asked for. -/
theorem cons {d : Chapter} {heard : List Exchange} {cs : List Chapter}
    (hchunk : d.chunk = left.take size) (htells : Text.allBlank d.text = false)
    (hcs : Answered (chapter + 1) sizes (left.drop size) heard cs) :
    Answered chapter (size :: sizes) left
      (⟨(left.take size).map (·.2), chapter, some d.text⟩ :: heard) (d :: cs) where
  asked := by
    rw [List.map_cons, hcs.asked, List.splitLengths_cons, List.map_cons, List.zipIdx_cons,
      List.length_cons, List.take_succ_cons]
  count := by
    rw [List.length_cons, List.length_cons, List.length_cons, hcs.count]
    omega
  chunks := by
    rw [List.splitLengths_cons, List.map_cons, List.length_cons, List.take_succ_cons, hcs.chunks,
      hchunk]
  texts := by
    have hpos : tells (some d.text) = true := by
      rw [tells_some, htells]
      rfl
    rw [List.map_cons, List.map_cons, List.takeWhile_cons_of_pos hpos, hcs.texts]

end Answered

/-- **Folding asks for slice after slice and files what it is told**, up to the first slice that comes
    back without a text. -/
theorem foldChunks_hears (total : Nat) {sizes : List Nat} {st : PassState} (before : List Exchange)
    (hsum : sizes.sum ≤ st.left.length) :
    (foldChunks total sizes st).Throughout (noting hear) (fun _ => True)
      (fun st' after => ∃ heard cs, after = before ++ heard ∧
        Answered (st.storage.level1.length + 1) sizes st.left heard cs ∧ Folded sizes st st' cs)
      before := by
  induction sizes generalizing st before with
  | nil => exact .finish trivial ⟨[], [], (List.append_nil _).symm, .nil, .inl ⟨rfl, rfl⟩⟩
  | cons size sizes ih =>
    rw [foldChunks]
    refine .call trivial fun reply n₁ h₁ => ?_
    have halted (hnot : tells reply = false) : ∃ heard cs, n₁ = before ++ heard ∧
        Answered (st.storage.level1.length + 1) (size :: sizes) st.left heard cs ∧
        Folded (size :: sizes) st st.halt cs :=
      ⟨_, [], h₁, .untold hnot, .inr ⟨Nat.succ_pos _, rfl⟩⟩
    cases reply with
    | none => exact .finish trivial (halted rfl)
    | some text =>
      by_cases hblank : Text.allBlank text = true
      · simp only [hblank, if_true]
        exact .finish trivial (halted (by rw [tells_some, hblank]; rfl))
      · simp only [hblank, if_false, Bool.false_eq_true]
        refine .call trivial fun id n₂ h₂ => .call trivial fun now n₃ h₃ =>
          .call trivial fun _ n₄ h₄ => ?_
        obtain rfl : n₄ = n₁ := h₄.trans (h₃.trans h₂)
        obtain ⟨d, hd⟩ : ∃ d : Chapter, d = ⟨st.left.take size, id, text, now⟩ := ⟨_, rfl⟩
        have hlen : (st.left.take size).length = size := length_take_of_sum_le hsum
        have hlevel1 : (st.fold size id text now).storage.level1.length
            = st.storage.level1.length + 1 := by
          simp [PassState.fold, Tier.append, Tier.length]
        have hrest : (st.fold size id text now).left = st.left.drop size := rfl
        refine (ih n₄ ?_).mono (fun _ h => h) ?_
        · rw [hrest]
          exact sum_le_length_drop hsum
        · rintro st' after ⟨heard, cs, hafter, hanswered, hfolded⟩
          rw [hlevel1, hrest] at hanswered
          refine ⟨⟨_, _, some d.text⟩ :: heard, d :: cs, ?_, .cons (by rw [hd]) ?_ hanswered, ?_⟩
          · rw [hafter, h₁, hd]
            exact List.append_assoc ..
          · rw [hd]
            simpa using hblank
          · refine .cons (by rw [hd]; exact hlen) ?_
            rw [hd]
            exact hfolded

end Recap
