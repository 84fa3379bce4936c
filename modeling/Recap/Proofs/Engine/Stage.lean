import Recap.Proofs.Dialogue.Stepwise
import Recap.Proofs.Engine.Runs

/-!
# Runs, stage by stage

`Usage.Reaches` says which states a run can come by. To compare two states of the same run, one after
the other and perhaps both in the middle of a request, a run has to be followed step by step: a `Stage`
is a state of the host together with what is left of the request that is under way.

A request saves a record once at most (`Request.asksOnce`), so at each stage of a request its record is
still to be saved, or will not change any more before the next request. This is what makes it enough to
know each request from its beginning (`Usage.Goes.keeps`).

## Contents
- `compact_asksOnce`, `Request.asksOnce` — a request saves one record at most.
- `Stage`, `Usage.Goes`, `Usage.follows`, `Usage.reaches` — runs, step by step.
- `Usage.Goes.keeps` — what no request takes back is taken back at no stage.
- `Usage.along`, `Usage.goes_along` — the chat as it was at the stages of a run.
-/

namespace Recap

open Relation (ReflTransGen)
open World (Calm Step)

variable {c : Config}

/-! ## One record at most -/

/-- A minor call saves no record. -/
theorem HostCall.not_isRecord_of_isMinor (q : HostCall) (hq : q.isMinor = true) :
    ¬ q.isRecord = true := by
  rw [HostCall.isRecord_of_isMinor hq]
  exact Bool.false_ne_true

/-- Folding saves no record. -/
theorem foldChunks_asks_no_record (total : Nat) (sizes : List Nat) (s : PassState) :
    (foldChunks total sizes s).Asks fun q => ¬ q.isRecord = true :=
  foldChunks_asks_only (p := fun q => ¬ q.isRecord = true) (fun _ _ => Bool.false_ne_true)
    Bool.false_ne_true Bool.false_ne_true (fun _ => Bool.false_ne_true) total sizes s

/-- Saving tags saves no record. -/
theorem saveTags_asks_no_record (chatId : String) (tags : TagStore) :
    (saveTags chatId tags).Asks fun q => ¬ q.isRecord = true :=
  saveTags_asks_only Bool.false_ne_true

/-- A record and tags are one record. -/
theorem saveState_asksOnce (chatId : String) (storage : Storage) (tags : TagStore) :
    (saveState chatId storage tags).AsksOnce (·.isRecord = true) := by
  unfold saveState
  refine Dialogue.AsksOnce.bind ⟨fun _ r => ?_, fun r => ?_⟩ fun r => ?_
  · cases r with
    | ok _ => exact .finish _
    | error cause => exact .finish _
  · cases r with
    | ok _ => exact .finish _
    | error cause => exact .finish _
  · cases r with
    | error e => exact .finish _
    | ok _ => exact saveTags_asks_no_record chatId tags

/-- A pass over a working set saves one record. -/
theorem compact_asksOnce (c : Config) (chat : Chat) (storage : Storage) (tags : TagStore)
    (working : List (Nat × Message)) :
    (compact c chat storage tags working).AsksOnce (·.isRecord = true) := by
  unfold compact
  refine ((borrowProfile_asks c).mono HostCall.not_isRecord_of_isMinor).thenOnce fun previous => ?_
  refine .call Bool.false_ne_true fun _ => ?_
  refine (foldChunks_asks_no_record _ _ _).thenOnce fun s => ?_
  refine ((returnProfile_asks previous).mono HostCall.not_isRecord_of_isMinor).thenOnce fun _ => ?_
  refine .call Bool.false_ne_true fun now => ?_
  refine (saveState_asksOnce _ _ _).bind fun r => ?_
  cases r with
  | error e => exact .call Bool.false_ne_true fun _ => .finish _
  | ok _ =>
    refine ((inject_asks chat _).mono HostCall.not_isRecord_of_isMinor).bind fun _ => ?_
    exact .call Bool.false_ne_true fun _ => .finish _

theorem perform_asksOnce (c : Config) : (perform c).AsksOnce (·.isRecord = true) := by
  unfold perform
  refine .call Bool.false_ne_true fun free => ?_
  cases free with
  | false => exact .finish _
  | true =>
    refine Dialogue.AsksOnce.bind ?_ fun r => .call Bool.false_ne_true fun _ => .finish _
    unfold passBody
    refine .call Bool.false_ne_true fun a => ?_
    cases a with
    | none => exact .finish _
    | some chat =>
      refine ((loadState_asks c chat.id).mono HostCall.not_isRecord_of_isMinor).thenOnce fun r => ?_
      rcases r with cause | ⟨storage, tags⟩
      · exact .finish _
      · by_cases hempty : (workingSet chat.messages tags).isEmpty = true
        · simp only [hempty, if_true]
          exact .finish _
        · simp only [hempty, if_false, Bool.false_eq_true]
          exact compact_asksOnce c chat storage tags _

theorem maybePerform_asksOnce (c : Config) :
    (maybePerform c).AsksOnce (·.isRecord = true) := by
  unfold maybePerform
  refine .call Bool.false_ne_true fun a => ?_
  cases a with
  | none => exact .finish _
  | some chat =>
    refine .call Bool.false_ne_true fun r => ?_
    cases r with
    | error cause => exact .finish _
    | ok tags =>
      by_cases hdue : c.isDue chat tags = true
      · simp only [hdue, if_true]
        exact perform_asksOnce c
      · simp only [hdue, if_false, Bool.false_eq_true]
        exact .finish _

namespace Operation

/-- An operation that goes on asks for one record, if only what comes later does. -/
theorem thenOnce {α β : Type} {d : Operation α} {f : α → Operation β}
    (hd : d.run.Asks fun q => ¬ q.isRecord = true)
    (hf : ∀ a, (f a).run.AsksOnce (·.isRecord = true)) :
    (d >>= f).run.AsksOnce (·.isRecord = true) := by
  refine Dialogue.Asks.thenOnce hd fun r => ?_
  cases r with
  | ok a => exact hf a
  | error e => exact .finish _

theorem currentChat_asks_no_record : currentChat.run.Asks fun q => ¬ q.isRecord = true :=
  currentChat_asks.mono HostCall.not_isRecord_of_isMinor

/-- Tags may be saved in the end, and no record is. -/
theorem thenSaveTags_asks_no_record {α : Type} (chatId : String) (tags : TagStore) (a : α) :
    (ExceptT.mk (saveTags chatId tags) >>= fun _ => (pure a : Operation α)).run.Asks
      fun q => ¬ q.isRecord = true :=
  bind_asks (saveTags_asks_no_record chatId tags) fun _ => .finish _

theorem loadTags_asks_no_record (chatId : String) :
    (ofHost (HostCall.ask (.loadTags chatId))).run.Asks fun q => ¬ q.isRecord = true :=
  ofHost_asks (.call Bool.false_ne_true fun _ => .finish _)

theorem tagRendered_asks_no_record (c : Config) (messageId : String) :
    (tagRendered c messageId).run.Asks fun q => ¬ q.isRecord = true := by
  unfold tagRendered
  by_cases henabled : c.enabled = true
  · simp only [henabled, Bool.not_true, if_false, Bool.false_eq_true]
    refine bind_asks currentChat_asks_no_record fun chat => ?_
    cases chat.find? messageId with
    | none => exact .finish _
    | some m =>
      refine bind_asks (loadTags_asks_no_record chat.id) fun tags => ?_
      by_cases htag : (tags.tag? messageId).isSome = true
      · simp only [htag, if_true]
        exact .finish _
      · simp only [htag, if_false, Bool.false_eq_true]
        exact thenSaveTags_asks_no_record _ _ _
  · simp only [henabled, Bool.not_false, if_true]
    exact .finish _

theorem restoreSwipe_asks_no_record (messageId : String) :
    (restoreSwipe messageId).run.Asks fun q => ¬ q.isRecord = true := by
  refine bind_asks currentChat_asks_no_record fun chat => ?_
  cases chat.find? messageId with
  | none => exact .finish _
  | some m =>
    refine bind_asks (loadTags_asks_no_record chat.id) fun tags => ?_
    cases tags.restoreSwipe? m with
    | none => exact .finish _
    | some restored => exact thenSaveTags_asks_no_record _ _ _

theorem ensureStorage_asksOnce (c : Config) :
    (ensureStorage c).run.AsksOnce (·.isRecord = true) := by
  refine thenOnce currentChat_asks_no_record fun chat => ?_
  refine thenOnce (ofHost_asks ((loadOrInit_asks c chat.id).mono HostCall.not_isRecord_of_isMinor))
    fun loaded => ?_
  obtain ⟨storage, isFresh⟩ := loaded
  cases isFresh with
  | false => exact .finish _
  | true =>
    refine ⟨fun _ r => ?_, fun r => ?_⟩
    · cases r with
      | ok _ => exact .finish _
      | error cause => exact .finish _
    · cases r with
      | ok _ => exact .finish _
      | error cause => exact .finish _

theorem importText_asksOnce (text : String) :
    (importText text).run.AsksOnce (·.isRecord = true) := by
  refine thenOnce currentChat_asks_no_record fun chat => ?_
  cases importDocument text with
  | error fault => exact .finish _
  | ok storage =>
    refine ⟨fun _ r => ?_, fun r => ?_⟩
    · cases r with
      | ok _ => exact .call Bool.false_ne_true fun _ => .finish _
      | error cause => exact .finish _
    · cases r with
      | ok _ => exact .call Bool.false_ne_true fun _ => .finish _
      | error cause => exact .finish _

end Operation

theorem handle_asksOnce (c : Config) (e : HostEvent) :
    (handle c e).AsksOnce (·.isRecord = true) := by
  have refresh := (refreshInjection_asks c).mono HostCall.not_isRecord_of_isMinor
  cases e with
  | chatChanged =>
    exact (Operation.ensureStorage_asksOnce c).bind fun _ => refresh.bind fun _ => .finish _
  | messageRendered messageId =>
    refine (Operation.tagRendered_asks_no_record c messageId).thenOnce fun _ => ?_
    refine (maybePerform_asksOnce c).bind fun r => ?_
    cases r with
    | ok outcome => exact .finish _
    | error e => exact .finish _
  | swipeChanged messageId =>
    exact (Operation.restoreSwipe_asks_no_record messageId).thenOnce fun _ => .finish _
  | generationStarted => exact refresh.thenOnce fun _ => .finish _

/-- **A request saves one record at most.** -/
theorem Request.asksOnce (r : Request) : r.dialogue.AsksOnce (·.isRecord = true) := by
  have looks : ∀ {α : Type} {d : Hosted α}, d.Asks (·.isMinor = true) →
      (d >>= fun _ => (pure () : Hosted Unit)).AsksOnce (·.isRecord = true) := fun hd =>
    (hd.mono HostCall.not_isRecord_of_isMinor).thenOnce fun _ => .finish _
  cases r with
  | compact c => exact (perform_asksOnce c).bind fun _ => .finish _
  | compactIfDue c => exact (maybePerform_asksOnce c).bind fun _ => .finish _
  | tagRendered c messageId =>
    exact (Operation.tagRendered_asks_no_record c messageId).thenOnce fun _ => .finish _
  | restoreSwipe messageId =>
    exact (Operation.restoreSwipe_asks_no_record messageId).thenOnce fun _ => .finish _
  | ensureStorage c => exact (Operation.ensureStorage_asksOnce c).bind fun _ => .finish _
  | refreshInjection c => exact looks (refreshInjection_asks c)
  | status c => exact looks (Operation.status_asks c)
  | exportText c => exact looks (Operation.exportText_asks c)
  | hidden c kind => exact looks (Operation.hidden_asks c kind)
  | importText text => exact (Operation.importText_asksOnce text).bind fun _ => .finish _
  | event c e => exact (handle_asksOnce c e).bind fun _ => .finish _

/-! ## Stages -/

/-- A stage of a run. -/
inductive Stage where
  /-- No request is under way. -/
  | idle (w : World)
  /-- A request is under way, and this is left of it. -/
  | during (w : World) (r : Request) (rest : Hosted Unit)

/-- The host at a stage. -/
def Stage.world : Stage → World
  | idle w => w
  | during w _ _ => w

namespace Usage

/-- One step of a run. -/
inductive Goes (u : Usage) : Stage → Stage → Prop where
  /-- The chat goes on. -/
  | moved {w : World} {chat : Chat} (hm : u.move w.chat chat) :
      u.Goes (.idle w) (.idle { w with chat })
  /-- A request is made. -/
  | taken {w : World} {r : Request} (hr : u.makes r) : u.Goes (.idle w) (.during w r r.dialogue)
  /-- A question of the request is answered. -/
  | answered {w v : World} {r : Request} {q : HostCall} {next : q.Answer → Hosted Unit}
      {a : q.Answer} (hs : Step (u.habits r) w q a v) :
      u.Goes (.during w r (.ask q next)) (.during v r (next a))
  /-- Nothing is left of the request. -/
  | served {w : World} {r : Request} : u.Goes (.during w r (.done ())) (.idle w)

variable {u : Usage} {w₀ : World} {m₀ m m' : Stage}

/-- How a run from `w₀` comes to a stage: to one between two requests, or to one along a request. -/
def Follows (u : Usage) (w₀ : World) : Stage → Prop
  | .idle w => u.Between w₀ w
  | .during v r rest => u.makes r ∧ ∃ w, u.Between w₀ w ∧
      ReflTransGen (Dialogue.Goes (Step (u.habits r))) (r.dialogue, w) (rest, v)

/-- **Step by step a run comes to nothing else.** -/
theorem follows (h : ReflTransGen u.Goes (.idle w₀) m) : u.Follows w₀ m := by
  induction h with
  | refl => exact .start
  | tail _ hstep ih =>
    cases hstep with
    | moved hm => exact .moved ih hm
    | taken hr => exact ⟨hr, _, ih, .refl⟩
    | answered hs =>
      obtain ⟨hr, w, hw, hgo⟩ := ih
      exact ⟨hr, w, hw, hgo.tail (.answered hs)⟩
    | served =>
      obtain ⟨hr, w, hw, hgo⟩ := ih
      exact .served hw hr (Dialogue.ends_iff_goes.mpr hgo)

/-- The states at the stages are the states of the run. -/
theorem reaches (h : ReflTransGen u.Goes (.idle w₀) m) : u.Reaches w₀ m.world := by
  have hm := follows h
  cases m with
  | idle w => exact .between hm
  | during v r rest =>
    obtain ⟨hr, w, hw, hgo⟩ := hm
    exact .during hw hr (Dialogue.passes_of_goes hgo)

/-- A request that is served from its beginning to its end. -/
theorem goes_of_ends {w v : World} {r : Request} (hr : u.makes r)
    (hd : r.dialogue.Ends (Step (u.habits r)) w () v) : ReflTransGen u.Goes (.idle w) (.idle v) := by
  have hrun : ReflTransGen u.Goes (.during w r r.dialogue) (.during v r (.done ())) := by
    refine (Dialogue.ends_iff_goes.mp hd).lift (fun x => Stage.during x.2 r x.1) ?_
    rintro _ _ ⟨hs⟩
    exact .answered hs
  exact .head (.taken hr) (hrun.tail .served)

/-- **What no request takes back is taken back at no stage.** If each request, from its beginning on,
    only does to records what `K` allows, then so does each step: until the request saves its record
    everything is as at its beginning, and afterwards it stays as it is. -/
theorem Goes.keeps {K : (String → Option Storage) → (String → Option Storage) → Prop}
    (refl : ∀ s, K s s)
    (serves : ∀ r w, u.makes r → r.dialogue.Throughout (Step (u.habits r))
      (fun v => K w.storages v.storages) (fun _ v => K w.storages v.storages) w)
    (hm : u.Follows w₀ m) (h : u.Goes m m') : K m.world.storages m'.world.storages := by
  cases h with
  | moved | taken | served => exact refl _
  | @answered v v' r q next a hs =>
    obtain ⟨hr, w, -, hgo⟩ := hm
    show K v.storages v'.storages
    by_cases hq : q.isRecord = true
    · -- the one record of the request: none was saved since its beginning
      have hsame : v.storages = w.storages := by
        rcases r.asksOnce.goes (K := fun t => t.storages = w.storages) rfl
          (fun s p b t hp hs hK => (hs.storages hp).trans hK) hgo with hnone | ⟨-, hsame⟩
        · exact absurd hq hnone.1
        · exact hsame
      rw [hsame]
      exact ((serves r w hr).goes (hgo.tail (.answered hs))).start
    · rw [hs.storages hq]
      exact refl _

/-! ## The chat along a run -/

/-- From stage to stage the chat changes as it can. -/
theorem chat_moves (h : ReflTransGen u.Goes m m') :
    ReflTransGen u.move m.world.chat m'.world.chat := by
  induction h with
  | refl => exact .refl
  | tail _ hstep ih =>
    refine ih.trans ?_
    cases hstep with
    | moved hm => exact .single hm
    | taken | served => exact .refl
    | answered hs =>
      obtain ⟨t, ha, hmove, -⟩ := hs
      rw [ha.chat] at hmove
      exact hmove

/-- The same use of an engine, where the chat changes as it did between the two stages and not
    otherwise. -/
def along (u : Usage) (m₀ m : Stage) : Usage where
  makes := u.makes
  move a b := ∃ m₁ m₂, ReflTransGen u.Goes m₀ m₁ ∧ u.Goes m₁ m₂ ∧ ReflTransGen u.Goes m₂ m ∧
    m₁.world.chat = a ∧ m₂.world.chat = b
  mayFail := u.mayFail

/-- A run keeps to how the chat changed along it. -/
theorem goes_along (h : ReflTransGen u.Goes m₀ m) : ReflTransGen (u.along m₀ m).Goes m₀ m := by
  -- the stages on the way are followed from the first one, and all lead to the last
  suffices hway : ∀ m', ReflTransGen u.Goes m₀ m' → ReflTransGen u.Goes m' m →
      ReflTransGen (u.along m₀ m).Goes m₀ m' from hway m h .refl
  intro m' hm' hrest
  induction hm' with
  | refl => exact .refl
  | @tail m₁ m₂ h₁ hstep ih =>
    refine (ih (.head hstep hrest)).tail ?_
    have hmove : (u.along m₀ m).move m₁.world.chat m₂.world.chat :=
      ⟨m₁, m₂, h₁, hstep, hrest, rfl, rfl⟩
    cases hstep with
    | moved hm => exact .moved hmove
    | taken hr => exact .taken hr
    | answered hs =>
      obtain ⟨t, ha, -, hv⟩ := hs
      refine .answered ⟨t, ha, .single ?_, hv⟩
      rw [ha.chat]
      exact hmove
    | served => exact .served

/-- The chat was, at some stage of the run, as it can have been. -/
theorem exists_stage_of_along {chat : Chat} (h : ReflTransGen u.Goes m₀ m)
    (hchat : ReflTransGen (u.along m₀ m).move m₀.world.chat chat) :
    ∃ m₁, ReflTransGen u.Goes m₀ m₁ ∧ ReflTransGen u.Goes m₁ m ∧ m₁.world.chat = chat := by
  cases hchat with
  | refl => exact ⟨m₀, .refl, h, rfl⟩
  | tail _ hlast =>
    obtain ⟨m₁, m₂, h₁, hstep, hrest, -, rfl⟩ := hlast
    exact ⟨m₂, h₁.tail hstep, hrest, rfl⟩

end Usage

end Recap
