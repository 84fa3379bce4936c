import Recap.Proofs.Engine.Course

/-!
# Passes that cannot save

A pass saves its record and then its tags, by two calls that know nothing of each other, and no third
call takes the first one back. So it matters which of them fails. Without the record nothing was saved,
and all is as before. Without the tags the summaries are kept, but no message is known to be summarized:
the next pass works on the same messages, and files its summaries behind the others.
`failed_save_changes_no_tag` says so of every host, and `refused_tags_leave_summaries` shows it on one.

Which summaries a pass has built follows from what it has heard of the compressor. So runs are taken with
notes of that (`hear`); notes can be taken of every run (`Dialogue.Ends.alsoNoted`).

## Contents
- `slicesOf`, `Summarizes` — summaries of what a pass has to work on, made of the compressor's replies.
- `Reads.of_step`, `compact_hears`, `pass_builds` — what a pass that is not skipped builds of what it hears.
- `failed_save_changes_no_tag` — what is left by a pass that cannot save, and by the next one.
- `Obliging.refusing` — a host that refuses records, or tags.
- `refused_tags_leave_summaries` — two passes over the same messages.
-/

namespace Recap

open Dialogue (alsoNoted noting)
open Relation (ReflTransGen)
open World (Calm Step)

variable {h : Habits} {c : Config} {w v : World}

/-! ## What is told -/

/-- What a pass over the chat is to summarize, slice by slice: the messages that no summary stands for,
    from the front, as its plan cuts them. -/
def slicesOf (c : Config) (chat : Chat) (tags : TagStore) : List (List (Nat × Message)) :=
  (planOf c chat tags).chunks.splitLengths (workingSet chat.messages tags)

/-- The summaries are what a pass over the chat makes of what it hears, its first chapter being
    `chapter`. -/
structure Summarizes (c : Config) (chat : Chat) (tags : TagStore) (chapter : Nat)
    (heard : List Exchange) (told : List (Nat × Message)) (new : List Summary) : Prop where
  /-- The compressor was given one slice after the other, -/
  asked : heard.map (fun e => (e.messages, e.chapter))
    = (((slicesOf c chat tags).map (List.map (·.2))).zipIdx chapter).take heard.length
  /-- up to the first that it did not tell. -/
  count : heard.length = min (new.length + 1) (slicesOf c chat tags).length
  /-- There is a summary for each reply that tells, with its text, -/
  texts : new.map (fun s => some s.text) = (heard.map (·.reply)).takeWhile tells
  /-- and it is the summary of the slice. -/
  summaries : List.Forall₂
    (fun slice s => slice ≠ [] ∧ s = chunkSummary s.id s.text s.timestamp slice)
    ((slicesOf c chat tags).take new.length) new
  /-- These are the messages of the slices that were told, -/
  slices : ((slicesOf c chat tags).take new.length).flatten = told
  /-- from the front. -/
  front : told <+: workingSet chat.messages tags

namespace Summarizes

variable {chat : Chat} {tags : TagStore} {chapter : Nat} {heard : List Exchange}

/-- The summaries of the chapters that folding has made of what it heard. -/
theorem of_answered {cs : List Chapter} {new : List Summary}
    (hcs : Answered chapter (planOf c chat tags).chunks (workingSet chat.messages tags) heard cs)
    (hnew : List.Forall₂ Chapter.Files cs new) :
    Summarizes c chat tags chapter heard (Chapter.covered cs) new := by
  have hlen : new.length = cs.length := hnew.length_eq.symm
  have hchunks : cs.map (·.chunk) = (slicesOf c chat tags).take new.length := by
    rw [hlen]
    exact hcs.chunks
  have hslices : (slicesOf c chat tags).length = (planOf c chat tags).chunks.length :=
    List.length_splitLengths ..
  refine ⟨hcs.asked, ?_, ?_, ?_, ?_, ?_⟩
  · rw [hlen, hslices]
    exact hcs.count
  · rw [← hcs.texts]
    exact Chapter.map_of_files hnew fun d s hfile => by rw [hfile.text]
  · rw [← hchunks, List.forall₂_map_left_iff]
    refine forall₂_imp_of_mem hnew fun d hd s hfile => ⟨?_, ?_⟩
    · exact Chapter.nonempty_of_slices hcs.chunks (planChunks_sum_le _ _ _)
        (planChunks_pos _ _ _) hd
    · rw [hfile.id, hfile.text]
      exact hfile.same
  · rw [← hchunks]
    rfl
  · obtain ⟨rest, hfront⟩ := Chapter.front_of_slices hcs.chunks
    exact ⟨rest, hfront.symm⟩

/-- Of what is told of the same messages on two occasions, one is the front of the other. -/
theorem same_front {c' : Config} {chapter' : Nat} {heard' : List Exchange}
    {told told' : List (Nat × Message)} {new new' : List Summary}
    (hn : Summarizes c chat tags chapter heard told new)
    (hn' : Summarizes c' chat tags chapter' heard' told' new') : told <+: told' ∨ told' <+: told :=
  List.prefix_or_prefix_of_prefix hn.front hn'.front

end Summarizes

/-! ## What a pass builds -/

/-- What is read at a host is the chat that is open there, and what is kept for it. -/
theorem Reads.of_step {chat : Chat} {storage : Storage} {tags : TagStore}
    (hreads : Reads (Step h) c w chat storage tags v) :
    ReflTransGen h.move w.chat chat ∧ Calm h w v ∧ storage = (w.passStart c chat).storage ∧
      tags = w.tags chat.id := by
  obtain ⟨w₁, w₂, hbegin, hchat, hload⟩ := hreads
  have h₁ : Calm h w w₁ := hbegin.calm rfl
  have h₂ : Calm h w w₂ := h₁.trans (hchat.calm rfl)
  obtain rfl : chat = w₁.chat := by simpa using hchat.currentChat
  obtain ⟨hv, hloaded⟩ := (loadState_throughout c w₁.chat.id w₂).ends hload
  obtain ⟨rfl, rfl⟩ : storage = (w₂.storages w₁.chat.id).getD (.fresh c.defaultInjection) ∧
      tags = w₂.tags w₁.chat.id := by simpa using hloaded
  refine ⟨h₁.chat, h₂.trans hv, ?_, by rw [h₂.tags]⟩
  rw [h₂.storages]
  rfl

/-- Nothing is heard of the compressor while a record and tags are saved. -/
theorem saveState_hears_nothing (chatId : String) (storage : Storage) (tags : TagStore)
    (heard : List Exchange) :
    (saveState chatId storage tags).Throughout (noting hear) (· = heard) (fun _ n => n = heard)
      heard := by
  have hasks : (saveState chatId storage tags).Asks fun q => ∀ n a, hear n q a = n :=
    saveState_asks_only (fun _ _ => rfl) fun _ _ => rfl
  exact hasks.unnoted (fun n q a hq => hq n a) heard

/-- What a pass over a working set hears it hears while it folds chunks, and it saves nothing before that is
    done. -/
theorem compact_hears {chat : Chat} {storage : Storage} {tags : TagStore}
    {working : List (Nat × Message)} {r : Except EngineError Outcome} {x y : World × List Exchange}
    (ended : (compact c chat storage tags working).Ends (alsoNoted (Step h) hear) x r y) :
    let sizes := (planChunks working.length c.chunkSize.toNat c.targetCompression.toNat).chunks
    let start : PassState := { storage, tags, left := working, report := .empty }
    ∃ heard cs st time saved u v, y.2 = x.2 ++ heard ∧
      Answered (storage.level1.length + 1) sizes working heard cs ∧ Folded sizes start st cs ∧
      Calm h x.1 u ∧ (saveState chat.id (st.record chat time) st.tags).Ends (Step h) u saved v ∧
      Calm h v y.1 ∧ r = saved.map fun _ => .completed st.report := by
  intro sizes start
  obtain ⟨st, time, saved, x₁, x₂, x₃, x₄, hstart, hfold, hreturn, hsave, hend, hresult⟩ :=
    compact_course ended
  obtain ⟨hcalm₁, hheard₁⟩ := hstart.calm
  obtain ⟨hcalm₃, hheard₃⟩ := hreturn.calm
  obtain ⟨hcalm₅, hheard₅⟩ := hend.calm
  obtain ⟨hfoldSteps, hfoldHears⟩ := hfold.of_alsoNoted
  obtain ⟨hsaveSteps, hsaveHears⟩ := hsave.of_alsoNoted
  have hsum : sizes.sum ≤ start.left.length := planChunks_sum_le _ _ _
  have hcalm₂ := ((foldChunks_throughout _ x₁.1 (planChunks_pos _ _ _) hsum).ends hfoldSteps).1
  obtain ⟨heard, cs, hheard₂, hanswered, hfolded⟩ := (foldChunks_hears _ _ hsum).ends hfoldHears
  have hheard₄ := (saveState_hears_nothing ..).ends hsaveHears
  refine ⟨heard, cs, st, time, saved, x₃.1, x₄.1, ?_, hanswered, hfolded,
    (hcalm₁.trans hcalm₂).trans hcalm₃, hsaveSteps, hcalm₅, hresult⟩
  rw [hheard₅, hheard₄, hheard₃, hheard₂, hheard₁]

/-- **A pass that is not skipped builds a record of what it hears**, and ends as the saves of it do. -/
theorem pass_builds {r : Except EngineError Outcome} {heard : List Exchange}
    (ended : (perform c).Ends (alsoNoted (Step h) hear) (w, []) r (v, heard))
    (hr : ∀ reason, r ≠ .ok (.skipped reason)) :
    ∃ chat told record tags' new, ReflTransGen h.move w.chat chat ∧
      Summarizes c chat (w.tags chat.id) ((w.level1 chat.id).length + 1) heard told new ∧
      record.level1.summaries = w.level1 chat.id ++ new ∧
      record.level2 = (w.passStart c chat).storage.level2 ∧
      record.level3 = (w.passStart c chat).storage.level3 ∧
      record.injection = (w.passStart c chat).storage.injection ∧
      ((∃ cause, r = .error (.persistence .storage chat.id cause)) ∧ Calm h w v ∨
        (∃ cause, r = .error (.persistence .tags chat.id cause)) ∧
          Calm h (w.putStorage chat.id record) v ∨
        (∃ report, r = .ok (.completed report)) ∧
          Calm h ((w.putStorage chat.id record).putTags chat.id tags') v) := by
  obtain ⟨chat, storage, tags, x, y, hreads, hcompact, hlast⟩ := Reads.of_pass ended hr
  obtain ⟨-, hx⟩ := hreads.idles.calm
  obtain ⟨hseen, hread, rfl, rfl⟩ := hreads.of_alsoNoted.of_step
  obtain ⟨heard', cs, st, time, saved, u, u', hy, hanswered, hfolded, hu, hsave, hu', hresult⟩ :=
    compact_hears hcompact
  obtain ⟨hv, hheard⟩ := hlast.calm
  obtain rfl : heard = heard' := by
    rw [show heard = y.2 from hheard, hy, hx]
    rfl
  -- the first tier is that of the world, and a summary for each chapter
  obtain ⟨rest, hfront⟩ := Chapter.front_of_slices hanswered.chunks
  obtain ⟨-, hlevel1, hlevel2, hlevel3, hinjection⟩ := hfolded.saved hfront chat time
  obtain ⟨new, hnew, hfiles⟩ := appendAll_summaries (w.passStart c chat).storage.level1 cs
  have hlength : (w.passStart c chat).storage.level1.length = (w.level1 chat.id).length :=
    congrArg List.length (w.level1_passStart c chat)
  rw [hlength] at hanswered
  refine ⟨chat, Chapter.covered cs, st.record chat time, st.tags, new, hseen,
    .of_answered hanswered hfiles, ?_, hlevel2, hlevel3, hinjection, ?_⟩
  · rw [hlevel1, hnew, w.level1_passStart]
  have hbefore : Calm h w u := hread.trans hu
  have hafter : Calm h u' v := hu'.trans hv
  obtain ⟨⟨cause, rfl⟩, hsaved⟩ | ⟨⟨cause, rfl⟩, -, hsaved⟩ | ⟨rfl, hsaved⟩ :=
    (saveState_throughout chat.id (st.record chat time) st.tags u).ends hsave
  · exact .inl ⟨⟨cause, hresult⟩, (hbefore.trans hsaved).trans hafter⟩
  · exact .inr (.inl ⟨⟨cause, hresult⟩, ((hbefore.putStorage ..).trans hsaved).trans hafter⟩)
  · exact .inr (.inr ⟨⟨_, hresult⟩,
      (((hbefore.putStorage ..).putTags ..).trans hsaved).trans hafter⟩)

/-! ## After a failure -/

/-- **A pass that cannot save changes no tag.** If it was the record that could not be saved, no record
    is changed either. If it was the tags, the record of the chat is the one of the pass: behind the
    summaries that it had stand new ones, one for each slice that the compressor was heard to tell, of the
    messages that no summary stands for, from the front; and the other tiers and the settings stay. These
    messages are untagged still, so the next pass takes them up again, and where it goes well what it
    hears of them is filed behind those summaries. -/
theorem failed_save_changes_no_tag {kept : Kept} {chatId cause : String} {heard : List Exchange}
    (failed : (perform c).Ends (alsoNoted (Step h) hear) (w, [])
      (.error (.persistence kept chatId cause)) (v, heard)) :
    let old := (w.storages chatId).getD (.fresh c.defaultInjection)
    v.tags = w.tags ∧
    (kept = .storage → v.storages = w.storages) ∧
    (kept = .tags → ∃ chat told record new,
      chat.id = chatId ∧ ReflTransGen h.move w.chat chat ∧
      v.storages = Function.update w.storages chatId (some record) ∧
      record.level1.summaries = w.level1 chatId ++ new ∧ record.level2 = old.level2 ∧
      record.level3 = old.level3 ∧ record.injection = old.injection ∧
      Summarizes c chat (w.tags chatId) ((w.level1 chatId).length + 1) heard told new ∧
      ∀ (c' : Config) (report : Report) (v' : World) (heard' : List Exchange),
        (perform c').Ends (alsoNoted (Step h) hear) (v, []) (.ok (.completed report)) (v', heard') →
        ∃ chat' told' new', ReflTransGen h.move v.chat chat' ∧
          Summarizes c' chat' (w.tags chat'.id) ((v.level1 chat'.id).length + 1) heard' told' new' ∧
          v'.level1 chat'.id = v.level1 chat'.id ++ new' ∧
          (chat'.id = chatId → v'.level1 chatId = w.level1 chatId ++ new ++ new') ∧
          (chat' = chat → told <+: told' ∨ told' <+: told)) := by
  intro old
  obtain ⟨chat, told, record, tags', new, hseen, htold, hlevel1, hlevel2, hlevel3, hinjection, hends⟩ :=
    pass_builds failed nofun
  obtain ⟨⟨_, hr⟩, hv⟩ | ⟨⟨_, hr⟩, hv⟩ | ⟨⟨_, hr⟩, -⟩ := hends
  · cases hr
    exact ⟨hv.tags, fun _ => hv.storages, nofun⟩
  · cases hr
    have htags : v.tags = w.tags := hv.tags
    have hfound : v.level1 chat.id = w.level1 chat.id ++ new := by
      rw [hv.level1, World.level1_putStorage, hlevel1]
    refine ⟨htags, nofun, fun _ => ⟨chat, told, record, new, rfl, hseen, hv.storages, hlevel1,
      hlevel2, hlevel3, hinjection, htold, fun c' report v' heard' done => ?_⟩⟩
    -- the next pass finds the tags as they were, so what it builds is told of the same messages
    obtain ⟨chat', told', record', tags'', new', hseen', htold', hlevel1', -, -, -, hends'⟩ :=
      pass_builds done nofun
    obtain ⟨⟨_, hr⟩, -⟩ | ⟨⟨_, hr⟩, -⟩ | ⟨-, hv'⟩ := hends'
    · cases hr
    · cases hr
    have hadded : v'.level1 chat'.id = v.level1 chat'.id ++ new' := by
      rw [hv'.level1, World.level1_putTags, World.level1_putStorage, hlevel1']
    rw [htags] at htold'
    refine ⟨chat', told', new', hseen', htold', hadded, fun hid => ?_, fun hsame => ?_⟩
    · rw [hid, hfound] at hadded
      exact hadded
    · subst hsame
      exact htold.same_front htold'
  · cases hr

/-! ## A host that refuses -/

namespace Obliging

variable {τ : Type}

/-- The answers of a host that takes no records, or no tags. -/
def refusing (refused : Kept) (chat : Chat)
    (compress : List Message → Nat → τ → Option String × τ) :
    (q : HostCall) → Obliging τ → q.Answer × Obliging τ
  | .saveStorage id s, w =>
    if refused = .storage then (.error "refused", w)
    else answer chat compress (.saveStorage id s) w
  | .saveTags id t, w =>
    if refused = .tags then (.error "refused", w) else answer chat compress (.saveTags id t) w
  | q, w => answer chat compress q w

/-- It answers as a host whose saves may fail can answer. -/
theorem refusing_step (refused : Kept) (chat : Chat)
    (compress : List Message → Nat → τ → Option String × τ) {h : Habits}
    (hfail : ∀ q, q.isSave = true → h.mayFail q) (q : HostCall) {w : Obliging τ} (hw : w.Fresh) :
    World.Step h (w.world chat) q (refusing refused chat compress q w).1
        ((refusing refused chat compress q w).2.world chat) ∧
      (refusing refused chat compress q w).2.Fresh := by
  -- a refusal changes nothing, as it may be with any host; for the rest there is no difference
  have refusal : ∀ {q : HostCall} {a : q.Answer}, World.Answers h.mayFail (w.world chat) q a
      (w.world chat) → World.Step h (w.world chat) q a (w.world chat) ∧ w.Fresh :=
    fun ha => ⟨⟨_, ha, .refl, rfl⟩, hw⟩
  cases q with
  | saveStorage id s =>
    by_cases hrefused : refused = .storage
    · simp only [refusing, if_pos hrefused]
      exact refusal (.inl ⟨hfail _ rfl, ⟨_, rfl⟩, rfl⟩)
    · simp only [refusing, if_neg hrefused]
      exact step chat compress h _ hw
  | saveTags id t =>
    by_cases hrefused : refused = .tags
    · simp only [refusing, if_pos hrefused]
      exact refusal (.inl ⟨hfail _ rfl, ⟨_, rfl⟩, rfl⟩)
    · simp only [refusing, if_neg hrefused]
      exact step chat compress h _ hw
  | _ => exact step chat compress h _ hw

end Obliging

/-! ## Two passes over the short chat -/

/-- Nobody writes in the chat, and everything may fail. -/
def Habits.failing : Habits := { move := fun _ _ => False, mayFail := fun _ => True }

/-- A host that has kept nothing, with replies for two passes over the short chat. -/
def Obliging.unused : Obliging (List (Option String)) :=
  .blank [some "They met.", some "They spoke.", some "They met again.", some "They spoke again."]

/-- A pass that cannot save its tags. -/
def Obliging.untagged : Except EngineError Outcome × Obliging (List (Option String)) :=
  (perform .thorough).run (refusing .tags .brief scripted) unused

/-- The next pass, which can. -/
def Obliging.repeated : Except EngineError Outcome × Obliging (List (Option String)) :=
  (perform .thorough).run (answer .brief scripted) untagged.2

/-- What is heard of the compressor in the first pass. -/
def Obliging.untaggedHeard : List Exchange :=
  ((perform .thorough).run (Dialogue.alsoNoting (refusing .tags .brief scripted) hear) (unused, [])).2.2

/-- What is heard of it in the second pass. -/
def Obliging.repeatedHeard : List Exchange :=
  ((perform .thorough).run (Dialogue.alsoNoting (answer .brief scripted) hear) (untagged.2, [])).2.2

/-- Both passes are runs on a host where everything may fail. -/
theorem Obliging.untagged_repeated :
    (perform .thorough).Ends (alsoNoted (Step .failing) hear) (unused.world .brief, [])
      (.error (.persistence .tags "brief" "refused")) (untagged.2.world .brief, untaggedHeard) ∧
    (perform .thorough).Ends (alsoNoted (Step .failing) hear) (untagged.2.world .brief, [])
      (.ok (.completed
        { chunks := 2, messagesCompacted := 2, summaryIds := ["xx", "xxx"], halted := false }))
      (repeated.2.world .brief, repeatedHeard) := by
  obtain ⟨hfirst, hfresh⟩ := Dialogue.ends_run_alsoNoting (c := Step .failing) (world .brief) Fresh
    (fun _ q => refusing_step .tags .brief scripted (fun _ _ => trivial) q) hear (perform .thorough)
    (fresh_blank _ : unused.Fresh) []
  obtain ⟨hsecond, -⟩ := Dialogue.ends_run_alsoNoting (c := Step .failing) (world .brief) Fresh
    (fun _ q => step .brief scripted .failing q) hear (perform .thorough) hfresh []
  have hfails : untagged.1 = .error (.persistence .tags "brief" "refused") := by decide +kernel
  have hcompletes : repeated.1 = .ok (.completed
      { chunks := 2, messagesCompacted := 2, summaryIds := ["xx", "xxx"], halted := false }) := by
    decide +kernel
  rw [← hfails, ← hcompletes]
  exact ⟨hfirst, hsecond⟩

/-- The second pass over the short chat tells what the first one has told. -/
theorem second_pass_repeats_the_failed_one :
    let w := Obliging.unused.world .brief
    let v := Obliging.untagged.2.world .brief
    let v' := Obliging.repeated.2.world .brief
    v.tags = w.tags ∧
    Obliging.untaggedHeard.map (·.reply) = [some "They met.", some "They spoke."] ∧
    Obliging.repeatedHeard.map (·.reply) = [some "They met again.", some "They spoke again."] ∧
    ∃ told new told' new',
      Summarizes .thorough .brief (w.tags "brief") 1 Obliging.untaggedHeard told new ∧
      Summarizes .thorough .brief (w.tags "brief") 3 Obliging.repeatedHeard told' new' ∧
      (told <+: told' ∨ told' <+: told) ∧ v'.level1 "brief" = w.level1 "brief" ++ new ++ new' := by
  intro w v v'
  obtain ⟨hfirst, hsecond⟩ := Obliging.untagged_repeated
  obtain ⟨htags, -, hkept⟩ := failed_save_changes_no_tag hfirst
  obtain ⟨chat, told, record, new, -, hchat, -, -, -, -, -, htold, hretry⟩ := hkept rfl
  obtain ⟨chat', told', new', hchat', htold', -, hlevel1, hsame⟩ := hretry _ _ _ _ hsecond
  -- nobody writes in the chat, so both passes see the same one
  have still : ∀ {chat : Chat}, ReflTransGen Habits.failing.move .brief chat → chat = .brief :=
    fun hmoves => (Relation.reflTransGen_iff_eq fun _ hmove => hmove).mp hmoves
  obtain rfl := still hchat
  obtain rfl := still hchat'
  refine ⟨htags, by decide +kernel, by decide +kernel, told, new, told', new', htold, ?_, hsame rfl,
    hlevel1 rfl⟩
  rw [show 3 = (v.level1 "brief").length + 1 by decide +kernel]
  exact htold'

/-- **Refused tags leave summaries behind.** Nothing was kept for the short chat; after the pass that
    failed its record has two summaries, and after the next one four, of which each two have the same
    place in the chat. -/
theorem refused_tags_leave_summaries :
    Obliging.untagged.1 = .error (.persistence .tags "brief" "refused") ∧
      (Obliging.unused.world .brief).level1 "brief" = [] ∧
      ((Obliging.untagged.2.world .brief).level1 "brief").map (fun s => (s.startIndex, s.text))
        = [(0, "They met."), (2, "They spoke.")] ∧
      ((Obliging.repeated.2.world .brief).level1 "brief").map (fun s => (s.startIndex, s.text))
        = [(0, "They met."), (2, "They spoke."), (0, "They met again."), (2, "They spoke again.")] := by
  decide +kernel

end Recap
