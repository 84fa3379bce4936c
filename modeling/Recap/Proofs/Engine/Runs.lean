import Recap.Proofs.Engine.OperationEffect

/-!
# Runs of an engine

An engine serves one request after another. While it does, and between two requests, the host goes its
own way. A `Usage` says which requests are made, how the chat changes meanwhile, and what may fail; a
run is any sequence of requests that keeps to it. `Usage.Between` are the states between two requests,
`Usage.Reaches` all states, those included in which a request is under way.

What holds in a run is shown request by request (`Between.invariant`, `Reaches.invariant`), and for one
request by its `Throughout`.

## Contents
- `Request`, `Request.dialogue` — what an engine can be asked to do.
- `Usage`, `Usage.Between`, `Usage.Reaches` — runs.
- `Usage.Between.invariant`, `Usage.Reaches.invariant` — what every request preserves holds in every run.
- `Lasting`, `Usage.Reaches.lasting` — conditions that hold at every moment.
-/

namespace Recap

open World (Calm Step)

/-! ## Requests -/

/-- What an engine can be asked to do. The configuration may be another one each time. -/
inductive Request where
  | compact (c : Config)
  /-- A pass, if one is due. -/
  | compactIfDue (c : Config)
  | tagRendered (c : Config) (messageId : String)
  | restoreSwipe (messageId : String)
  | ensureStorage (c : Config)
  | refreshInjection (c : Config)
  | status (c : Config)
  | exportText (c : Config)
  | hidden (c : Config) (kind : GenerationKind)
  | importText (text : String)
  /-- Something happened at the host. -/
  | event (c : Config) (e : HostEvent)

namespace Request

/-- What the engine does on a request; its result goes to whoever asked. -/
def dialogue : Request → Hosted Unit
  | compact c => do let _ ← perform c
  | compactIfDue c => do let _ ← maybePerform c
  | tagRendered c messageId => do let _ ← (Operation.tagRendered c messageId).run
  | restoreSwipe messageId => do let _ ← (Operation.restoreSwipe messageId).run
  | ensureStorage c => do let _ ← (Operation.ensureStorage c).run
  | refreshInjection c => do let _ ← Recap.refreshInjection c
  | status c => do let _ ← (Operation.status c).run
  | exportText c => do let _ ← (Operation.exportText c).run
  | hidden c kind => do let _ ← (Operation.hidden c kind).run
  | importText text => do let _ ← (Operation.importText text).run
  | event c e => do let _ ← handle c e

/-- Whether a record is brought in from outside. -/
def isImport : Request → Bool
  | importText _ => true
  | _ => false

end Request

/-! ## Runs -/

/-- How an engine is used. -/
structure Usage where
  /-- The requests that are made. -/
  makes : Request → Prop
  /-- How the chat can change from one moment to the next. -/
  move : Chat → Chat → Prop
  /-- The calls that may fail during a request. -/
  mayFail : Request → HostCall → Prop

namespace Usage

/-- What the host does during a request. -/
def habits (u : Usage) (r : Request) : Habits := { move := u.move, mayFail := u.mayFail r }

/-- The states of a run from `w₀` between two requests. -/
inductive Between (u : Usage) (w₀ : World) : World → Prop where
  | start : u.Between w₀ w₀
  /-- The chat goes on. -/
  | moved {w : World} {chat : Chat} (hw : u.Between w₀ w) (hm : u.move w.chat chat) :
      u.Between w₀ { w with chat }
  /-- A request is served. -/
  | served {w v : World} {r : Request} (hw : u.Between w₀ w) (hr : u.makes r)
      (hd : r.dialogue.Ends (Step (u.habits r)) w () v) : u.Between w₀ v

/-- All states of a run from `w₀`. -/
inductive Reaches (u : Usage) (w₀ : World) : World → Prop where
  | between {w : World} (hw : u.Between w₀ w) : u.Reaches w₀ w
  /-- A request is under way. -/
  | during {w v : World} {r : Request} (hw : u.Between w₀ w) (hr : u.makes r)
      (hd : r.dialogue.Passes (Step (u.habits r)) w v) : u.Reaches w₀ v

variable {u : Usage} {w₀ w : World} {I Inv : World → Prop}

/-- **What every request preserves holds between any two requests.** -/
theorem Between.invariant (hw : u.Between w₀ w) (start : Inv w₀)
    (moves : ∀ w chat, Inv w → u.move w.chat chat → Inv { w with chat })
    (serves : ∀ r w, u.makes r → Inv w →
      r.dialogue.Throughout (Step (u.habits r)) I (fun _ => Inv) w) : Inv w := by
  induction hw with
  | start => exact start
  | moved hw hm ih => exact moves _ _ ih hm
  | served hw hr hd ih => exact (serves _ _ hr ih).ends hd

/-- **What holds all along every request holds all along a run.** -/
theorem Reaches.invariant (hw : u.Reaches w₀ w) (start : Inv w₀)
    (moves : ∀ w chat, Inv w → u.move w.chat chat → Inv { w with chat })
    (serves : ∀ r, u.makes r → r.dialogue.Preserves (Step (u.habits r)) Inv) : Inv w := by
  have serves' : ∀ r w, u.makes r → Inv w → r.dialogue.Throughout _ Inv (fun _ => Inv) w :=
    fun r w hr => serves r hr w
  cases hw with
  | between hw => exact hw.invariant start moves serves'
  | during hw hr hd => exact (serves' _ _ hr (hw.invariant start moves serves')).passes hd

end Usage

/-! ## What lasts -/

/-- A condition that no request breaks at any moment, imports aside: what has to be shown of it for
    each thing that a request can do. -/
structure Lasting (h : Habits) (Inv : World → Prop) : Prop where
  calm : ∀ {w v}, Inv w → Calm h w v → Inv v
  pass : ∀ {c w v}, Inv w → PassReaches h c w v → Inv v
  rendered : ∀ {w v}, Inv w → Rendered h w v → Inv v
  restored : ∀ {w v}, Inv w → Restored h w v → Inv v
  ensured : ∀ {c w v}, Inv w → Ensured h c w v → Inv v

namespace Lasting

variable {h : Habits} {Inv : World → Prop}

/-- An operation that only looks breaks nothing. -/
theorem asks {α : Type} {d : Hosted α} (hl : Lasting h Inv) (hd : d.Asks (·.isMinor = true)) :
    d.Preserves (Step h) Inv := fun w hw =>
  (hd.calm (.refl w)).mono (fun _ => hl.calm hw) fun _ _ => hl.calm hw

theorem perform (hl : Lasting h Inv) (c : Config) : (perform c).Preserves (Step h) Inv := fun w hw =>
  (perform_throughout (.refl w)).mono (fun _ => hl.pass hw) fun _ _ hv => hl.pass hw hv.reaches

theorem maybePerform (hl : Lasting h Inv) (c : Config) :
    (maybePerform c).Preserves (Step h) Inv := fun w hw =>
  (maybePerform_throughout (.refl w)).mono (fun _ => hl.pass hw) fun _ _ hv => hl.pass hw hv.reaches

theorem tagRendered (hl : Lasting h Inv) (c : Config) (messageId : String) :
    (Operation.tagRendered c messageId).run.Preserves (Step h) Inv := fun w hw =>
  (Operation.tagRendered_throughout c messageId w).mono (fun _ => hl.rendered hw)
    fun _ _ => hl.rendered hw

theorem restoreSwipe (hl : Lasting h Inv) (messageId : String) :
    (Operation.restoreSwipe messageId).run.Preserves (Step h) Inv := fun w hw =>
  (Operation.restoreSwipe_throughout messageId w).mono (fun _ => hl.restored hw)
    fun _ _ => hl.restored hw

theorem ensureStorage (hl : Lasting h Inv) (c : Config) :
    (Operation.ensureStorage c).run.Preserves (Step h) Inv := fun w hw =>
  (Operation.ensureStorage_throughout c w).mono (fun _ => hl.ensured hw) fun _ _ => hl.ensured hw

/-- Events lead to requests of the other kinds. -/
theorem handle (hl : Lasting h Inv) (c : Config) (e : HostEvent) :
    (handle c e).Preserves (Step h) Inv := by
  cases e with
  | chatChanged =>
    refine (hl.ensureStorage c).bind fun _ => ?_
    exact (hl.asks (refreshInjection_asks c)).bind fun _ => .finish _
  | messageRendered messageId =>
    refine (hl.tagRendered c messageId).bind fun _ => (hl.maybePerform c).bind fun r => ?_
    cases r with
    | ok outcome => exact .finish _
    | error e => exact .finish _
  | swipeChanged messageId => exact (hl.restoreSwipe messageId).bind fun _ => .finish _
  | generationStarted => exact (hl.asks (refreshInjection_asks c)).bind fun _ => .finish _

/-- **No request but an import breaks what lasts**, at any moment. -/
theorem request (hl : Lasting h Inv) (r : Request) (hr : r.isImport = false) :
    r.dialogue.Preserves (Step h) Inv := by
  cases r with
  | compact c => exact (hl.perform c).bind fun _ => .finish _
  | compactIfDue c => exact (hl.maybePerform c).bind fun _ => .finish _
  | tagRendered c messageId => exact (hl.tagRendered c messageId).bind fun _ => .finish _
  | restoreSwipe messageId => exact (hl.restoreSwipe messageId).bind fun _ => .finish _
  | ensureStorage c => exact (hl.ensureStorage c).bind fun _ => .finish _
  | refreshInjection c => exact (hl.asks (refreshInjection_asks c)).bind fun _ => .finish _
  | status c => exact (hl.asks (Operation.status_asks c)).bind fun _ => .finish _
  | exportText c => exact (hl.asks (Operation.exportText_asks c)).bind fun _ => .finish _
  | hidden c kind => exact (hl.asks (Operation.hidden_asks c kind)).bind fun _ => .finish _
  | importText text => cases hr
  | event c e => exact (hl.handle c e).bind fun _ => .finish _

end Lasting

/-- **What lasts holds in every state of a run without imports.** -/
theorem Usage.Reaches.lasting {u : Usage} {w₀ w : World} {Inv : World → Prop}
    (hw : u.Reaches w₀ w) (start : Inv w₀) (noImport : ∀ r, u.makes r → r.isImport = false)
    (hl : ∀ mayFail, Lasting { move := u.move, mayFail } Inv) : Inv w := by
  refine hw.invariant start (fun w chat hI hm => ?_) fun r hr => (hl _).request r (noImport r hr)
  exact (hl fun _ => False).calm hI ⟨.single hm, rfl, rfl, List.Subset.refl _⟩

end Recap
