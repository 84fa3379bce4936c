import Recap.Proofs.Dialogue.Interleaving
import Recap.Proofs.Engine.Lock

/-!
# Passes exclude each other

Any number of passes can be called for while one is under way, by someone or by themselves, and all of
them talk to the same host, which answers in whatever order it likes. What keeps them apart is the lock:
one call at most has it (`PassThread.holds`), and the others only look at the chat and its tags, or are
told to go away. So a pass that has the lock is alone with what is kept: what it does with the others
around is what it could have done by itself (`Orderly.taken`), and all passes together come to the same as
one after the other (`Serial`).

Each turn is of one of four kinds (`Effect`): something aside, the lock being taken, a turn of the pass that
has it, and the lock being given back. `Orderly.turn` is the step; it has one case for each kind.

## Contents
- `PassCall`, `PassThread.holds` — calls for passes, and which of them has the lock.
- `Ahead`, `Phase`, `Effect`, `Phase.turn` — how far a call has come, and what one turn does to it.
- `Serial`, `Lists` — passes one after the other.
- `Orderly`, `Orderly.turn` — what every turn preserves.
- `passes_exclude_each_other` — every interleaving.
-/

namespace Recap

open Dialogue (Goes Thread Turn Turns)
open HostCall (ask)
open Relation (ReflTransGen TransGen)
open World (Calm Step)

variable {h : Habits} {c : Config}

/-! ## Calls for passes -/

/-- What a call for a pass comes to. -/
abbrev PassResult := Except EngineError Outcome

/-- The pass was not made. -/
def Skipped (r : PassResult) : Prop := ∃ reason, r = .ok (.skipped reason)

/-- A call for a pass. -/
structure PassCall where
  config : Config
  /-- Whether nobody asked for it, and it is only made if it is due. -/
  automatic : Bool

/-- What a call does. -/
def PassCall.dialogue (p : PassCall) : Hosted PassResult :=
  if p.automatic then maybePerform p.config else perform p.config

/-- A call for a pass among others. -/
abbrev PassThread := Thread HostCall HostCall.Answer PassResult

/-- Whether a call has the lock after an answer. -/
def HostCall.keepsLock (held : Bool) : (q : HostCall) → q.Answer → Bool
  | .begin, a => a
  | .finish, _ => false
  | _, _ => held

/-- Other answers make no difference. -/
theorem HostCall.keepsLock_of_not_isLock {q : HostCall} (hq : q.isLock = false) (held : Bool)
    (a : q.Answer) : q.keepsLock held a = held := by
  cases q with
  | begin | finish => cases hq
  | _ => rfl

/-- Whether the call has the lock: it was told that the lock is its own, and has not given it back. -/
def PassThread.holds (t : PassThread) : Bool :=
  t.log.foldl (fun held e => e.1.keepsLock held e.2) false

theorem PassThread.holds_hear (t : PassThread) (q : HostCall) (a : q.Answer) (rest : Hosted PassResult) :
    PassThread.holds (t.hear q a rest) = q.keepsLock t.holds a := by
  unfold PassThread.holds Thread.hear
  rw [List.foldl_append]
  rfl

/-! ## How far a call has come -/

/-- Whether a call to the host only looks at the chat or at its tags. -/
def HostCall.isLook : HostCall → Bool
  | .currentChat | .loadTags _ => true
  | _ => false

theorem HostCall.isLock_of_isLook {q : HostCall} (hq : q.isLook = true) : q.isLock = false := by
  cases q <;> first | rfl | cases hq

/-- What is left of a call that has not asked for the lock: it looks around, then gives up or asks. -/
inductive Ahead (c : Config) : Hosted PassResult → Prop where
  | due : Ahead c (perform c)
  | gaveUp (reason : SkipReason) : Ahead c (.done (.ok (.skipped reason)))
  | looking {q : HostCall} {next : q.Answer → Hosted PassResult} (hq : q.isLook = true)
      (hnext : ∀ a, Ahead c (next a)) : Ahead c (.ask q next)

/-- A call begins by looking around, or at once. -/
theorem PassCall.dialogue_ahead (p : PassCall) : Ahead p.config p.dialogue := by
  unfold PassCall.dialogue
  split
  · refine .looking rfl fun a => ?_
    cases a with
    | none => exact .gaveUp _
    | some chat =>
      refine .looking rfl fun r => ?_
      cases r with
      | error cause => exact .gaveUp _
      | ok tags =>
        show Ahead p.config (if p.config.isDue chat tags then _ else _)
        split
        · exact .due
        · exact .gaveUp _
  · exact .due

/-- The end of a pass that has the lock. -/
def release (r : PassResult) : Hosted PassResult := do
  ask .finish
  return r

/-- A pass asks for the lock, and is made or refused. -/
theorem perform_eq (c : Config) : perform c = .ask .begin fun free =>
    if free then passBody c >>= release else .done (.ok (.skipped .alreadyRunning)) := rfl

/-- A call that ends without having asked for the lock has made no pass. -/
theorem Ahead.skipped {d : Hosted PassResult} (hd : Ahead c d) {r : PassResult} (hr : d = .done r) :
    Skipped r := by
  cases hd with
  | due => cases hr
  | gaveUp reason =>
    cases hr
    exact ⟨reason, rfl⟩
  | looking => cases hr

/-- How far a call has come. -/
inductive Phase (c : Config) (t : PassThread) : Prop where
  | ahead (hrest : Ahead c t.rest) (out : t.holds = false)
  | refused (hrest : t.rest = .done (.ok (.skipped .alreadyRunning))) (out : t.holds = false)
  | inside {d : Hosted PassResult} (hrest : t.rest = d >>= release) (hd : d.Asks (·.isLock = false))
      (has : t.holds = true)
  | finished {r : PassResult} (hrest : t.rest = .done r) (out : t.holds = false)

/-- A call that has the lock has something left to do. -/
theorem Phase.not_done {t : PassThread} (ht : Phase c t) (has : t.holds = true) (r : PassResult) :
    t.rest ≠ .done r := by
  cases ht with
  | ahead _ out | refused _ out | finished _ out =>
    rw [out] at has
    cases has
  | @inside d hrest =>
    rw [hrest]
    cases d <;> exact fun hdone => nomatch hdone

/-- Between the two states only the chat has gone on. -/
def World.Drifts (h : Habits) (w v : World) : Prop :=
  ReflTransGen h.move w.chat v.chat ∧ v = { w with chat := v.chat }

theorem World.Drifts.calm {w v : World} (hv : World.Drifts h w v) : Calm h w v := .of_chat hv.1 hv.2

/-- After a question about nothing that is kept, only the chat has gone on. -/
theorem World.Step.drifts {w v : World} {q : HostCall} {a : q.Answer} (hs : Step h w q a v)
    (hq : q.isLook = true ∨ q.isLock = true) : World.Drifts h w v := by
  obtain ⟨u, ha, hm, hv⟩ := hs
  have hu : u = w := by
    cases q with
    | currentChat | loadTags => exact ha.2
    | begin | finish => exact ha
    | _ => rcases hq with hq | hq <;> cases hq
  subst hu
  exact ⟨hm, hv⟩

/-- What the chat does after an answer it can do at once. -/
theorem World.Step.drift_after {w u v : World} {q : HostCall} {a : q.Answer} (hs : Step h w q a u)
    (hv : World.Drifts h u v) : Step h w q a v := by
  obtain ⟨t, ha, hm, hu⟩ := hs
  refine ⟨t, ha, hm.trans hv.1, ?_⟩
  rw [hv.2, hu]

/-- What one turn does to the call whose turn it is, and to host and lock. -/
inductive Effect (h : Habits) (c : Config) (t t' : PassThread) (s s' : World × Bool) : Prop where
  /-- A call without the lock looks around, gives up or is refused. -/
  | aside (out : t.holds = false) (out' : t'.holds = false) (lock : s'.2 = s.2)
      (drifts : World.Drifts h s.1 s'.1) (skips : ∀ r, t'.rest = .done r → Skipped r)
  | takes (first : t.rest = perform c) (has' : t'.holds = true) (lock : s.2 = false)
      (lock' : s'.2 = true)
  | goesOn (has : t.holds = true) (has' : t'.holds = true) (lock : s'.2 = s.2)
  | leaves {r : PassResult} (has : t.holds = true) (out' : t'.holds = false) (lock' : s'.2 = false)
      (last : t'.rest = .done r)

/-- **One turn takes a call from one phase to the next.** -/
theorem Phase.turn {t : PassThread} (ht : Phase c t) {q : HostCall}
    {next : q.Answer → Hosted PassResult} (hq : t.rest = .ask q next) {a : q.Answer}
    {s s' : World × Bool} (hc : Guarded h s q a s') :
    Phase c (t.hear q a (next a)) ∧ Effect h c t (t.hear q a (next a)) s s' := by
  obtain ⟨hs, hlock⟩ := hc
  have hholds := PassThread.holds_hear t q a (next a)
  cases ht with
  | refused hrest | finished hrest =>
    rw [hq] at hrest
    cases hrest
  | ahead hrest out =>
    rw [hq] at hrest
    generalize hd : Dialogue.ask q next = d at hrest
    cases hrest with
    | gaveUp reason => cases hd
    | @looking q' next' hlook hnext =>
      obtain ⟨rfl, hnext'⟩ := Dialogue.ask.inj hd
      obtain rfl := eq_of_heq hnext'
      have hfree := HostCall.isLock_of_isLook hlook
      have out' : PassThread.holds (t.hear q a (next a)) = false := by
        rw [hholds, HostCall.keepsLock_of_not_isLock hfree, out]
      refine ⟨.ahead (hnext a) out', .aside out out' (hlock.same hfree) (hs.drifts (.inl hlook)) ?_⟩
      exact fun r hr => (hnext a).skipped hr
    | due =>
      rw [perform_eq] at hd
      obtain ⟨rfl, hnext⟩ := Dialogue.ask.inj hd
      obtain rfl := eq_of_heq hnext
      obtain ⟨hfree, hlock'⟩ : a = !s.2 ∧ s'.2 = true := hlock
      cases a with
      | true =>
        exact ⟨.inside rfl (passBody_asks c) hholds,
          .takes (hq.trans (perform_eq c).symm) hholds (by simpa using hfree) hlock'⟩
      | false =>
        have hsame : s'.2 = s.2 := hlock'.trans (by simpa using hfree)
        refine ⟨.refused rfl hholds, .aside out hholds hsame (hs.drifts (.inr rfl)) ?_⟩
        rintro r ⟨⟩
        exact ⟨_, rfl⟩
  | @inside d hrest hd has =>
    rw [hq] at hrest
    cases d with
    | done r =>
      obtain ⟨rfl, hnext⟩ := Dialogue.ask.inj hrest
      obtain rfl := eq_of_heq hnext
      have out' : PassThread.holds (t.hear .finish a _) = false := hholds
      exact ⟨.finished rfl out', .leaves has out' hlock rfl⟩
    | ask q' next' =>
      obtain ⟨rfl, hnext⟩ := Dialogue.ask.inj hrest
      obtain rfl := eq_of_heq hnext
      have has' := hholds.trans ((HostCall.keepsLock_of_not_isLock hd.1 _ a).trans has)
      exact ⟨.inside rfl (hd.2 a) has', .goesOn has has' (hlock.same hd.1)⟩

/-! ## One pass after the other -/

/-- Passes made one after the other, each by itself, from the lock free to the lock free. Between two of
    them nothing is saved. -/
inductive Serial (h : Habits) (calls : List PassCall) (w₀ : World) :
    List (Nat × PassResult) → World → Prop where
  | start : Serial h calls w₀ [] w₀
  | calm {order : List (Nat × PassResult)} {w v : World} (hw : Serial h calls w₀ order w)
      (hv : Calm h w v) : Serial h calls w₀ order v
  /-- The pass of call `i`. -/
  | pass {order : List (Nat × PassResult)} {w v : World} {i : Nat} {p : PassCall} {r : PassResult}
      (hw : Serial h calls w₀ order w) (hp : calls[i]? = some p)
      (hd : (perform p.config).Ends (Guarded h) (w, false) r (v, false)) :
      Serial h calls w₀ (order ++ [(i, r)]) v

/-- The list has each call that has ended and was not skipped, once and with its result. -/
structure Lists (ts : List PassThread) (order : List (Nat × PassResult)) : Prop where
  distinct : (order.map (·.1)).Nodup
  mem : ∀ i r, (i, r) ∈ order ↔ (∃ t, ts[i]? = some t ∧ t.rest = .done r) ∧ ¬ Skipped r

section Lists

variable {ts : List PassThread} {t t' : PassThread} {order : List (Nat × PassResult)} {i : Nat}

/-- A call that has something left to do is not in the list. -/
theorem Lists.notMem (hl : Lists ts order) (ht : ts[i]? = some t) (unfinished : ∀ r, t.rest ≠ .done r)
    (r : PassResult) : (i, r) ∉ order := by
  intro hin
  obtain ⟨⟨t₁, ht₁, hr⟩, -⟩ := (hl.mem i r).mp hin
  rw [ht] at ht₁
  cases ht₁
  exact unfinished r hr

/-- A turn that brings no pass to its end leaves the list as it is. -/
theorem Lists.same (hl : Lists ts order) (ht : ts[i]? = some t) (unfinished : ∀ r, t.rest ≠ .done r)
    (skips : ∀ r, t'.rest = .done r → Skipped r) : Lists (ts.set i t') order where
  distinct := hl.distinct
  mem := by
    intro j r
    by_cases hij : i = j
    · subst hij
      rw [Turn.own ht]
      refine ⟨fun hin => absurd hin (hl.notMem ht unfinished r), ?_⟩
      rintro ⟨⟨t₁, ht₁, hr⟩, hskip⟩
      cases ht₁
      exact absurd (skips r hr) hskip
    · rw [Turn.others hij]
      exact hl.mem j r

/-- A pass that comes to its end is listed last. -/
theorem Lists.append (hl : Lists ts order) (ht : ts[i]? = some t) (unfinished : ∀ r, t.rest ≠ .done r)
    {r : PassResult} (hr : t'.rest = .done r) (made : ¬ Skipped r) :
    Lists (ts.set i t') (order ++ [(i, r)]) where
  distinct := by
    rw [List.map_append, List.nodup_append]
    refine ⟨hl.distinct, List.nodup_singleton _, ?_⟩
    rintro _ hin _ hi rfl
    obtain ⟨⟨j, r'⟩, hmem, rfl⟩ := List.mem_map.mp hin
    obtain rfl : j = i := by simpa using hi
    exact hl.notMem ht unfinished r' hmem
  mem := by
    intro j r'
    rw [List.mem_append, List.mem_singleton, Prod.mk.injEq]
    by_cases hij : i = j
    · subst hij
      rw [Turn.own ht]
      constructor
      · rintro (hin | ⟨-, rfl⟩)
        · exact absurd hin (hl.notMem ht unfinished r')
        · exact ⟨⟨t', rfl, hr⟩, made⟩
      · rintro ⟨⟨t₁, ht₁, hr'⟩, -⟩
        cases ht₁
        rw [hr] at hr'
        cases hr'
        exact .inr ⟨rfl, rfl⟩
    · rw [Turn.others hij, hl.mem j r']
      exact ⟨fun hin => hin.resolve_right fun heq => hij heq.1.symm, .inl⟩

end Lists

/-- What the chat does after the last answer of a run it can do at once. -/
theorem drift_last {x : Hosted PassResult × World × Bool} {rest : Hosted PassResult} {w v : World}
    {locked : Bool} (hx : TransGen (Goes (Guarded h)) x (rest, w, locked))
    (hv : World.Drifts h w v) : TransGen (Goes (Guarded h)) x (rest, v, locked) := by
  obtain ⟨y, hy, hlast⟩ := TransGen.tail'_iff.mp hx
  refine TransGen.tail'_iff.mpr ⟨y, hy, ?_⟩
  obtain ⟨hs, hlock⟩ := hlast
  exact .answered ⟨hs.drift_after hv, hlock⟩

/-- Seen without its lock, a guarded host is a host. -/
theorem ends_of_guarded {α : Type} {d : Hosted α} {s s' : World × Bool} {a : α}
    (hd : d.Ends (Guarded h) s a s') : d.Ends (Step h) s.1 a s'.1 := by
  induction d generalizing s with
  | done b =>
    obtain ⟨rfl, rfl⟩ := hd
    exact ⟨rfl, rfl⟩
  | ask q next ih =>
    obtain ⟨b, t, hc, hd⟩ := hd
    exact ⟨b, t.1, hc.1, ih b hd⟩

/-- A pass by itself that was not made has saved nothing. -/
theorem calm_of_skipped {w v : World} {r : PassResult} {locked locked' : Bool} (hr : Skipped r)
    (hd : (perform c).Ends (Guarded h) (w, locked) r (v, locked')) : Calm h w v := by
  obtain ⟨reason, rfl⟩ := hr
  have hends := (perform_throughout (.refl w)).ends (ends_of_guarded hd)
  cases hends with
  | skipped hv => exact hv

/-! ## What every turn preserves -/

/-- The calls before the first turn. -/
def begun (calls : List PassCall) : List PassThread := calls.map fun p => .start p.dialogue

/-- The calls at a moment, the host and the lock: one call at most has the lock, which is taken just then.
    The passes that have come to an end were made one after the other; and so was the one that has the
    lock, as far as it has come. -/
structure Orderly (h : Habits) (calls : List PassCall) (w₀ : World) (ts : List PassThread)
    (s : World × Bool) : Prop where
  phases : ∀ (i : Nat) (t : PassThread), ts[i]? = some t →
    ∃ p, calls[i]? = some p ∧ Phase p.config t
  alone : ∀ (i j : Nat) (t t' : PassThread), ts[i]? = some t → ts[j]? = some t' →
    t.holds = true → t'.holds = true → i = j
  locked : s.2 = true ↔ ∃ (i : Nat) (t : PassThread), ts[i]? = some t ∧ t.holds = true
  free : s.2 = false → ∃ order, Lists ts order ∧ Serial h calls w₀ order s.1
  taken : ∀ (i : Nat) (p : PassCall) (t : PassThread), calls[i]? = some p → ts[i]? = some t →
    t.holds = true → ∃ order u, Lists ts order ∧ Serial h calls w₀ order u ∧
      TransGen (Goes (Guarded h)) (perform p.config, u, false) (t.rest, s)

namespace Orderly

variable {calls : List PassCall} {w₀ : World} {ts : List PassThread} {t t' : PassThread} {i : Nat}
  {s s' : World × Bool} {p : PassCall}

/-- Before the first turn all calls are outside. -/
theorem start (calls : List PassCall) (w₀ : World) :
    Orderly h calls w₀ (begun calls) (w₀, false) := by
  have hget : ∀ (i : Nat) (t : PassThread), (begun calls)[i]? = some t →
      ∃ p, calls[i]? = some p ∧ t = .start p.dialogue := by
    intro i t ht
    unfold begun at ht
    rw [List.getElem?_map, Option.map_eq_some_iff] at ht
    obtain ⟨p, hp, rfl⟩ := ht
    exact ⟨p, hp, rfl⟩
  have out : ∀ (i : Nat) (t : PassThread), (begun calls)[i]? = some t → t.holds = false := by
    intro i t ht
    obtain ⟨p, -, rfl⟩ := hget i t ht
    rfl
  refine ⟨fun i t ht => ?_, fun i j t t' ht _ has => ?_, ⟨fun hlocked => ?_, ?_⟩, fun _ => ?_,
    fun i p t _ ht has => ?_⟩
  · obtain ⟨p, hp, rfl⟩ := hget i t ht
    exact ⟨p, hp, .ahead p.dialogue_ahead rfl⟩
  · rw [out i t ht] at has
    cases has
  · cases hlocked
  · rintro ⟨i, t, ht, has⟩
    rw [out i t ht] at has
    cases has
  · refine ⟨[], ⟨List.nodup_nil, fun i r => ⟨(nomatch ·), ?_⟩⟩, .start⟩
    -- a call that is over before its first question was made by nobody
    rintro ⟨⟨t, ht, hr⟩, hskip⟩
    obtain ⟨p, -, rfl⟩ := hget i t ht
    exact absurd (p.dialogue_ahead.skipped hr) hskip
  · rw [out i t ht] at has
    cases has

/-- The others are in the phases that they were in. -/
theorem phases_set (ho : Orderly h calls w₀ ts s) (hp : calls[i]? = some p)
    (ht' : Phase p.config t') (j : Nat) (u : PassThread) (hu : (ts.set i t')[j]? = some u) :
    ∃ p, calls[j]? = some p ∧ Phase p.config u := by
  rcases Turn.cases_getElem? hu with ⟨rfl, rfl⟩ | ⟨-, hu⟩
  · exact ⟨p, hp, ht'⟩
  · exact ho.phases j u hu

/-- A turn of a call that neither has the lock nor gets it. -/
theorem aside (ho : Orderly h calls w₀ ts s) (hp : calls[i]? = some p) (ht : ts[i]? = some t)
    (unfinished : ∀ r, t.rest ≠ .done r) (ht' : Phase p.config t') (out : t.holds = false)
    (out' : t'.holds = false) (lock : s'.2 = s.2) (drifts : World.Drifts h s.1 s'.1)
    (skips : ∀ r, t'.rest = .done r → Skipped r) : Orderly h calls w₀ (ts.set i t') s' := by
  -- who has the lock afterwards is another call, and has had it before
  have holder : ∀ {j : Nat} {u : PassThread}, (ts.set i t')[j]? = some u → u.holds = true →
      ts[j]? = some u := by
    intro j u hu has
    rcases Turn.cases_getElem? hu with ⟨-, rfl⟩ | ⟨-, hu⟩
    · rw [out'] at has
      cases has
    · exact hu
  refine ⟨ho.phases_set hp ht', fun j k u u' hu hu' has has' => ?_, ?_, fun hfree => ?_,
    fun j p' u hp' hu has => ?_⟩
  · exact ho.alone j k u u' (holder hu has) (holder hu' has') has has'
  · rw [lock, ho.locked]
    constructor
    · rintro ⟨j, u, hu, has⟩
      refine ⟨j, u, ?_, has⟩
      rw [Turn.others, hu]
      rintro rfl
      rw [ht] at hu
      cases hu
      rw [out] at has
      cases has
    · rintro ⟨j, u, hu, has⟩
      exact ⟨j, u, holder hu has, has⟩
  · obtain ⟨order, hl, hw⟩ := ho.free (lock ▸ hfree)
    exact ⟨order, hl.same ht unfinished skips, hw.calm drifts.calm⟩
  · obtain ⟨order, v, hl, hw, hrun⟩ := ho.taken j p' u hp' (holder hu has) has
    refine ⟨order, v, hl.same ht unfinished skips, hw, ?_⟩
    have hs' : s' = (s'.1, s.2) := by rw [← lock]
    rw [hs']
    exact drift_last hrun drifts

/-- A call gets the lock: what is kept is as the passes before have left it. -/
theorem takes (ho : Orderly h calls w₀ ts s) (hp : calls[i]? = some p) (ht : ts[i]? = some t)
    (unfinished : ∀ r, t.rest ≠ .done r) (ht' : Phase p.config t')
    (hgo : Goes (Guarded h) (t.rest, s) (t'.rest, s')) (first : t.rest = perform p.config)
    (has' : t'.holds = true) (lock : s.2 = false) (lock' : s'.2 = true) :
    Orderly h calls w₀ (ts.set i t') s' := by
  -- nobody had the lock before
  have holder : ∀ {j : Nat} {u : PassThread}, (ts.set i t')[j]? = some u → u.holds = true →
      j = i ∧ u = t' := by
    intro j u hu has
    rcases Turn.cases_getElem? hu with hnew | ⟨-, hu⟩
    · exact hnew
    · rw [ho.locked.mpr ⟨j, u, hu, has⟩] at lock
      cases lock
  refine ⟨ho.phases_set hp ht', fun j k u u' hu hu' has₁ has₂ => ?_, ?_, fun hfree => ?_,
    fun j p' u hp' hu has => ?_⟩
  · rw [(holder hu has₁).1, (holder hu' has₂).1]
  · exact ⟨fun _ => ⟨i, t', Turn.own ht, has'⟩, fun _ => lock'⟩
  · rw [lock'] at hfree
    cases hfree
  · obtain ⟨rfl, rfl⟩ := holder hu has
    obtain rfl : p = p' := Option.some.inj (hp.symm.trans hp')
    obtain ⟨order, hl, hw⟩ := ho.free lock
    refine ⟨order, s.1, hl.same ht unfinished fun r hr => ?_, hw, .single ?_⟩
    · exact absurd hr (ht'.not_done has' r)
    · have hs : s = (s.1, false) := by rw [← lock]
      rwa [first, hs] at hgo

/-- A turn of the pass that has the lock. -/
theorem goesOn (ho : Orderly h calls w₀ ts s) (hp : calls[i]? = some p) (ht : ts[i]? = some t)
    (unfinished : ∀ r, t.rest ≠ .done r) (ht' : Phase p.config t')
    (hgo : Goes (Guarded h) (t.rest, s) (t'.rest, s')) (has : t.holds = true) (has' : t'.holds = true)
    (lock : s'.2 = s.2) : Orderly h calls w₀ (ts.set i t') s' := by
  have hlocked : s.2 = true := ho.locked.mpr ⟨i, t, ht, has⟩
  -- nobody else has it
  have holder : ∀ {j : Nat} {u : PassThread}, (ts.set i t')[j]? = some u → u.holds = true →
      j = i ∧ u = t' := by
    intro j u hu hasu
    rcases Turn.cases_getElem? hu with hnew | ⟨hji, hu⟩
    · exact hnew
    · exact absurd (ho.alone j i u t hu ht hasu has) hji
  refine ⟨ho.phases_set hp ht', fun j k u u' hu hu' has₁ has₂ => ?_, ?_, fun hfree => ?_,
    fun j p' u hp' hu hasu => ?_⟩
  · rw [(holder hu has₁).1, (holder hu' has₂).1]
  · exact ⟨fun _ => ⟨i, t', Turn.own ht, has'⟩, fun _ => lock.trans hlocked⟩
  · rw [lock, hlocked] at hfree
    cases hfree
  · obtain ⟨rfl, rfl⟩ := holder hu hasu
    obtain ⟨order, v, hl, hw, hrun⟩ := ho.taken j p' t hp' ht has
    refine ⟨order, v, hl.same ht unfinished fun r hr => ?_, hw, hrun.tail hgo⟩
    exact absurd hr (ht'.not_done has' r)

/-- The pass that has the lock comes to its end: it was made after the others, by itself. -/
theorem leaves (ho : Orderly h calls w₀ ts s) (hp : calls[i]? = some p) (ht : ts[i]? = some t)
    (unfinished : ∀ r, t.rest ≠ .done r) (ht' : Phase p.config t')
    (hgo : Goes (Guarded h) (t.rest, s) (t'.rest, s')) (has : t.holds = true)
    (out' : t'.holds = false) (lock' : s'.2 = false) {r : PassResult} (last : t'.rest = .done r) :
    Orderly h calls w₀ (ts.set i t') s' := by
  have nobody : ∀ {j : Nat} {u : PassThread}, (ts.set i t')[j]? = some u → ¬ u.holds = true := by
    intro j u hu hasu
    rcases Turn.cases_getElem? hu with ⟨-, rfl⟩ | ⟨hji, hu⟩
    · rw [out'] at hasu
      cases hasu
    · exact absurd (ho.alone j i u t hu ht hasu has) hji
  refine ⟨ho.phases_set hp ht', fun j k u u' hu _ hasu => absurd hasu (nobody hu), ?_, fun _ => ?_,
    fun j p' u _ hu hasu => absurd hasu (nobody hu)⟩
  · rw [lock']
    exact ⟨(nomatch ·), fun ⟨j, u, hu, hasu⟩ => absurd hasu (nobody hu)⟩
  · obtain ⟨order, v, hl, hw, hrun⟩ := ho.taken i p t hp ht has
    have hs' : s' = (s'.1, false) := by rw [← lock']
    have hd : (perform p.config).Ends (Guarded h) (v, false) r (s'.1, false) := by
      rw [last, hs'] at hgo
      exact Dialogue.ends_iff_goes.mpr (hrun.tail hgo).to_reflTransGen
    by_cases hskip : Skipped r
    · refine ⟨order, hl.same ht unfinished fun r' hr' => ?_, hw.calm (calm_of_skipped hskip hd)⟩
      rw [last] at hr'
      cases hr'
      exact hskip
    · exact ⟨order ++ [(i, r)], hl.append ht unfinished last hskip, hw.pass hp hd⟩

/-- **Every turn leaves the calls in order.** -/
theorem turn (ho : Orderly h calls w₀ ts s) {ts' : List PassThread}
    (hturn : Turn (Guarded h) i (ts, s) (ts', s')) : Orderly h calls w₀ ts' s' := by
  cases hturn with
  | @answered _ t q next a _ _ ht hq hc =>
    obtain ⟨p, hp, hphase⟩ := ho.phases i t ht
    have unfinished : ∀ r, t.rest ≠ .done r := by
      intro r hr
      rw [hq] at hr
      cases hr
    have hgo : Goes (Guarded h) (t.rest, s) (next a, s') := by
      rw [hq]
      exact .answered hc
    obtain ⟨hphase', heffect⟩ := hphase.turn hq hc
    cases heffect with
    | aside out out' lock drifts skips =>
      exact ho.aside hp ht unfinished hphase' out out' lock drifts skips
    | takes first has' lock lock' => exact ho.takes hp ht unfinished hphase' hgo first has' lock lock'
    | goesOn has has' lock => exact ho.goesOn hp ht unfinished hphase' hgo has has' lock
    | leaves has out' lock' last => exact ho.leaves hp ht unfinished hphase' hgo has out' lock' last

/-- So does every interleaving. -/
theorem turns {ts : List PassThread} (hrun : Turns (Guarded h) (begun calls, w₀, false) (ts, s)) :
    Orderly h calls w₀ ts s := by
  have hall : ∀ x : List PassThread × World × Bool, Turns (Guarded h) (begun calls, w₀, false) x →
      Orderly h calls w₀ x.1 x.2 := by
    intro x hx
    induction hx with
    | refl => exact start calls w₀
    | tail _ hturn ih =>
      obtain ⟨i, hturn⟩ := hturn
      exact ih.turn hturn
  exact hall _ hrun

end Orderly

/-! ## Every interleaving -/

/-- A call that asks for the lock while another one has it is refused, and that is all it does. -/
theorem refused_of_taken {ts ts' : List PassThread} {t : PassThread} {i : Nat} {s s' : World × Bool}
    (ht : ts[i]? = some t) (hrest : t.rest = perform c) (taken : s.2 = true)
    (hturn : Turn (Guarded h) i (ts, s) (ts', s')) :
    ts' = ts.set i (t.hear .begin false (.done (.ok (.skipped .alreadyRunning)))) ∧
      World.Drifts h s.1 s'.1 ∧ s'.2 = true := by
  cases hturn with
  | @answered _ t₁ q next a _ _ ht₁ hq hc =>
    rw [ht] at ht₁
    cases ht₁
    rw [hrest, perform_eq] at hq
    obtain ⟨rfl, hnext⟩ := Dialogue.ask.inj hq
    obtain rfl := eq_of_heq hnext
    obtain ⟨hs, hanswer, hlocked⟩ := hc
    obtain rfl : a = false := by rw [hanswer, taken]; rfl
    exact ⟨rfl, hs.drifts (.inr rfl), hlocked⟩

/-- **Passes exclude each other.** However the answers to any number of calls for passes are interleaved:
    one call at most has the lock; the lock is taken just while a call has it, and a call that has come to
    an end, whichever way, has it no more; a call that asks for it meanwhile is refused, asks for nothing
    else after that and changes nothing. And when no pass is in progress, what is kept is what the passes
    that were made leave when each is made by itself, one after the other. -/
theorem passes_exclude_each_other {calls : List PassCall} {w₀ w : World} {locked : Bool}
    {ts : List PassThread}
    (hrun : Turns (Guarded h) (calls.map fun p => .start p.dialogue, w₀, false) (ts, w, locked)) :
    (∀ (i j : Nat) (t t' : PassThread), ts[i]? = some t → ts[j]? = some t' →
      t.holds = true → t'.holds = true → i = j) ∧
    (locked = true ↔ ∃ t ∈ ts, PassThread.holds t = true) ∧
    (∀ t ∈ ts, ∀ r, t.result? = some r → PassThread.holds t = false) ∧
    (∀ (i : Nat) (t : PassThread) (c : Config), ts[i]? = some t → t.rest = perform c →
      (∃ t' ∈ ts, PassThread.holds t' = true) →
      (∃ next, Turn (Guarded h) i (ts, w, locked) next) ∧
      ∀ ts' v locked', Turn (Guarded h) i (ts, w, locked) (ts', v, locked') →
        ts' = ts.set i (t.hear .begin false (.done (.ok (.skipped .alreadyRunning)))) ∧
        v.storages = w.storages ∧ v.tags = w.tags ∧ locked' = true) ∧
    ((∀ t ∈ ts, PassThread.holds t = false) → ∃ order : List (Nat × PassResult),
      (order.map (·.1)).Nodup ∧
      (∀ i r, (i, r) ∈ order ↔
        (∃ t, ts[i]? = some t ∧ t.result? = some r) ∧ ¬ ∃ reason, r = .ok (.skipped reason)) ∧
      Serial h calls w₀ order w) := by
  have ho : Orderly h calls w₀ ts (w, locked) := Orderly.turns hrun
  have hlocked : locked = true ↔ ∃ t ∈ ts, PassThread.holds t = true := by
    refine ho.locked.trans ⟨fun ⟨i, t, ht, has⟩ => ⟨t, List.mem_of_getElem? ht, has⟩, ?_⟩
    rintro ⟨t, ht, has⟩
    obtain ⟨i, hi⟩ := List.getElem?_of_mem ht
    exact ⟨i, t, hi, has⟩
  refine ⟨ho.alone, hlocked, fun t ht r hr => ?_, fun i t c ht hrest hbusy => ⟨?_, ?_⟩, fun hout => ?_⟩
  · obtain ⟨i, hi⟩ := List.getElem?_of_mem ht
    obtain ⟨p, -, hphase⟩ := ho.phases i t hi
    by_contra has
    exact hphase.not_done (by simpa using has) r (Thread.result?_eq_some.mp hr)
  · have hanswer : Guarded h (w, locked) .begin (!locked) (w, true) :=
      ⟨⟨w, rfl, .refl, rfl⟩, rfl, rfl⟩
    exact ⟨_, .answered ht (hrest.trans (perform_eq c)) hanswer⟩
  · intro ts' v locked' hturn
    obtain ⟨hts, hdrifts, hstill⟩ := refused_of_taken ht hrest (hlocked.mpr hbusy) hturn
    exact ⟨hts, hdrifts.calm.storages, hdrifts.calm.tags, hstill⟩
  · have hfree : locked = false := by
      rw [Bool.eq_false_iff, Ne, hlocked]
      rintro ⟨t, ht, has⟩
      rw [hout t ht] at has
      cases has
    obtain ⟨order, hl, hw⟩ := ho.free hfree
    refine ⟨order, hl.distinct, fun i r => ?_, hw⟩
    simp only [Thread.result?_eq_some]
    exact hl.mem i r

/-- Two calls on the short chat, the second of which asks for the lock while the first one waits for its
    second summary. -/
theorem second_call_is_refused :
    let calls : List PassCall := [⟨.thorough, false⟩, ⟨.thorough, false⟩]
    let turns := Dialogue.takeTurns (Obliging.guarded .brief scripted)
    let start := (calls.map fun p => Thread.start p.dialogue,
      Obliging.blank [some "They met.", none], false)
    let before := turns (List.replicate 9 0) start
    let final := turns (List.replicate 9 0 ++ 1 :: List.replicate 9 0) start
    before.1.map PassThread.holds = [true, false] ∧
    final.1.map (·.result?) = [some (.ok (.completed
        { chunks := 1, messagesCompacted := 1, summaryIds := [""], halted := true })),
      some (.ok (.skipped .alreadyRunning))] ∧
    final.2.2 = false ∧
    ∃ order, (∀ i r, (i, r) ∈ order → ¬ ∃ reason, r = .ok (.skipped reason)) ∧
      Serial { move := fun _ _ => False, mayFail := fun _ => False } calls
        ((Obliging.blank [some "They met.", none]).world .brief) order (final.2.1.world .brief) := by
  intro calls turns start before final
  have hfree : final.2.2 = false := by decide +kernel
  refine ⟨by decide +kernel, by decide +kernel, hfree, ?_⟩
  have hrun := Dialogue.turns_takeTurns (Obliging.guardedWorld .brief) (·.1.Fresh)
    (Obliging.guarded_step .brief scripted { move := fun _ _ => False, mayFail := fun _ => False })
    (List.replicate 9 0 ++ 1 :: List.replicate 9 0) (calls.map fun p => Thread.start p.dialogue)
    (s := (Obliging.blank [some "They met.", none], false)) (Obliging.fresh_blank _)
  obtain ⟨-, hlocked, -, -, hserial⟩ := passes_exclude_each_other hrun
  have hout : ∀ t ∈ final.1, PassThread.holds t = false := by
    intro t ht
    by_contra has
    have htaken := hlocked.mpr ⟨t, ht, by simpa using has⟩
    exact absurd (htaken.symm.trans hfree) (by decide)
  obtain ⟨order, -, hmem, hw⟩ := hserial hout
  exact ⟨order, fun i r hin => ((hmem i r).mp hin).2, hw⟩

end Recap
