import Recap.Proofs.Dialogue.Interleaving
import Recap.Proofs.Engine.Lock

/-!
# Tags that change during a pass

A pass loads the tags of its chat once, marks the messages of its chunks in what it has loaded, and saves all
of it at the end. The lock only keeps passes apart. Other operations go on meanwhile, and what they have saved
is replaced when the pass saves: outside its chunks a pass brings back the tags that it had loaded
(`pass_brings_back_its_tags`). Only where it ends without having saved tags does a change from meanwhile
stay.

What a pass saves depends on its own answers only, so it is shown for the pass by itself, from the notes that
can be taken of it (`TagNotes`, `perform_noted`), and holds among others as well.

## Contents
- `TagCall` — calls, of which some are passes and some change the tag of one message.
- `TagNotes` — the tags that were loaded and saved, and the messages of the chunks between.
- `TagNotes.Faithful`, `perform_noted` — what a pass saves, from its own answers.
- `pass_brings_back_its_tags` — what it saves among others.
- `saved_tag_is_lost` — a tag that is saved during a pass and gone after it.
-/

namespace Recap

open Dialogue (Goes Hears Thread Turn Turns noting)
open Relation (ReflTransGen)
open World (Step)

/-! ## Passes and changes of tags -/

/-- What a call comes to: an outcome for a pass, and for a change of one tag whether there was one. -/
abbrev TagResult := Except EngineError (Outcome ⊕ Bool)

/-- A call, of any kind. -/
abbrev TagCall := Hosted TagResult

namespace TagCall

/-- A pass. -/
def pass (c : Config) : TagCall := do return (← perform c).map .inl

/-- A message is displayed. -/
def rendered (c : Config) (messageId : String) : TagCall := do
  return (← (Operation.tagRendered c messageId).run).map .inr

/-- A message shows another swipe. -/
def swiped (messageId : String) : TagCall := do
  return (← (Operation.restoreSwipe messageId).run).map .inr

end TagCall

/-- A call among others. -/
abbrev TagThread := Thread HostCall HostCall.Answer TagResult

/-! ## Notes -/

/-- What is noted of a dialogue as far as tags go. -/
structure TagNotes where
  /-- The tags that were loaded, each with its chat. -/
  loads : List (String × TagStore)
  /-- The tags that were saved. -/
  saves : List (String × TagStore)
  /-- The messages of the chunks that were summarized. -/
  compacted : List Message

namespace TagNotes

/-- Nothing yet. -/
def none : TagNotes := { loads := [], saves := [], compacted := [] }

/-- Another question and its answer. -/
def note (n : TagNotes) : (q : HostCall) → q.Answer → TagNotes
  | .loadTags chatId, .ok tags => { n with loads := n.loads ++ [(chatId, tags)] }
  | .saveTags chatId tags, .ok () => { n with saves := n.saves ++ [(chatId, tags)] }
  | .compress messages _, some text =>
    if Text.allBlank text then n else { n with compacted := n.compacted ++ messages }
  | _, _ => n

/-- The stores agree about every message but these. -/
def Agree (messages : List Message) (old new : TagStore) : Prop :=
  ∀ id ∉ messages.map (·.id), new.tag? id = old.tag? id ∧ ∀ k, new.swipeTag? id k = old.swipeTag? id k

theorem Agree.refl (messages : List Message) (tags : TagStore) : Agree messages tags tags :=
  fun _ _ => ⟨rfl, fun _ => rfl⟩

/-- A chunk is marked, and its messages are noted. -/
theorem Agree.markChapter {messages : List Message} {old new : TagStore} (h : Agree messages old new)
    (d : Chapter) : Agree (messages ++ d.chunk.map (·.2)) old (new.markChapter d) := by
  intro id hid
  rw [List.map_append, List.mem_append, not_or, List.map_map] at hid
  obtain ⟨htag, hswipes⟩ := h id hid.1
  have hout : id ∉ d.messageIds := hid.2
  refine ⟨?_, fun k => ?_⟩
  · rw [tag?_markChapter, if_neg hout, htag]
  · rw [swipeTag?_markChapter hout, hswipes]

/-- Tags were saved once at most, and then they were those that were loaded, up to the messages of the
    chunks. -/
def Faithful (n : TagNotes) : Prop :=
  n.saves = [] ∨ ∃ chatId old new,
    n.loads = [(chatId, old)] ∧ n.saves = [(chatId, new)] ∧ Agree n.compacted old new

/-- A save that leaves the notes faithful is the first one, of the tags that were loaded. -/
theorem Faithful.of_save {n : TagNotes} {chatId : String} {new : TagStore}
    (h : (n.note (.saveTags chatId new) (.ok ())).Faithful) :
    ∃ old, n.loads = [(chatId, old)] ∧ n.saves = [] ∧ Agree n.compacted old new := by
  obtain hnone | ⟨chatId', old, new', hloads, hsaves, hagree⟩ := h
  · exact absurd hnone (List.append_ne_nil_of_right_ne_nil _ (List.cons_ne_nil _ _))
  · replace hsaves : n.saves ++ [(chatId, new)] = [(chatId', new')] := hsaves
    obtain ⟨hfirst, hlast⟩ := List.append_inj' (hsaves.trans (List.nil_append _).symm) rfl
    cases hlast
    exact ⟨old, hloads, hfirst, hagree⟩

/-- What is loaded is noted where it is heard. -/
theorem loads_note {n : TagNotes} {q : HostCall} (hq : ∀ chatId, q ≠ .loadTags chatId) (a : q.Answer) :
    (n.note q a).loads = n.loads := by
  cases q with
  | loadTags chatId => exact absurd rfl (hq chatId)
  | saveTags =>
    cases a with
    | error cause => rfl
    | ok _ => rfl
  | compress =>
    cases a with
    | none => rfl
    | some text =>
      show (if Text.allBlank text = true then n else _).loads = n.loads
      split
      · rfl
      · rfl
  | _ => rfl

end TagNotes

/-- Whether a question neither loads tags nor saves any, and asks for no summary. -/
def HostCall.isAside : HostCall → Bool
  | .loadTags _ | .saveTags .. | .compress .. => false
  | _ => true

theorem TagNotes.note_of_isAside {q : HostCall} (hq : q.isAside = true) (n : TagNotes) (a : q.Answer) :
    n.note q a = n := by
  cases q with
  | loadTags | saveTags | compress => cases hq
  | _ => rfl

/-- Such questions leave the notes as they are. -/
theorem Dialogue.Asks.noted {α : Type} {d : Hosted α} (hd : d.Asks (·.isAside = true)) (n : TagNotes) :
    d.Throughout (noting TagNotes.note) (· = n) (fun _ n' => n' = n) n :=
  hd.unnoted (fun n _ a hq => TagNotes.note_of_isAside hq n a) n

/-! ## A pass by itself -/

theorem borrowProfile_asks_aside (c : Config) : (borrowProfile c).Asks (·.isAside = true) :=
  borrowProfile_asks_only (p := (·.isAside = true)) rfl (fun _ => rfl) c

theorem returnProfile_asks_aside (previous : Option String) :
    (returnProfile previous).Asks (·.isAside = true) :=
  returnProfile_asks_only (p := (·.isAside = true)) (fun _ => rfl) previous

theorem inject_asks_aside (chat : Chat) (storage : Storage) :
    (inject chat storage).Asks (·.isAside = true) :=
  inject_asks_only (p := (·.isAside = true)) (fun _ => rfl) chat storage

theorem loadOrInit_asks_aside (c : Config) (chatId : String) :
    (loadOrInit c chatId).Asks (·.isAside = true) :=
  loadOrInit_asks_only (p := (·.isAside = true)) rfl c

/-- **Folding marks the messages of the chunks that are summarized, and no others.** -/
theorem foldChunks_noted (total : Nat) {sizes : List Nat} {s : PassState} {n : TagNotes} {old : TagStore}
    (hagree : TagNotes.Agree n.compacted old s.tags) :
    (foldChunks total sizes s).Throughout (noting TagNotes.note) (·.saves = n.saves)
      (fun s' n' => n'.loads = n.loads ∧ n'.saves = n.saves ∧ TagNotes.Agree n'.compacted old s'.tags) n := by
  induction sizes generalizing s n with
  | nil => exact .finish rfl ⟨rfl, rfl, hagree⟩
  | cons size sizes ih =>
    rw [foldChunks]
    refine .call rfl fun reply n₁ h₁ => ?_
    subst h₁
    cases reply with
    | none => exact .finish rfl ⟨rfl, rfl, hagree⟩
    | some text =>
      by_cases hblank : Text.allBlank text = true
      · simp only [TagNotes.note, hblank, if_true]
        exact .finish rfl ⟨rfl, rfl, hagree⟩
      · simp only [TagNotes.note, hblank, if_false, Bool.false_eq_true]
        refine .call rfl fun id n₂ h₂ => ?_
        subst h₂
        refine .call rfl fun now n₃ h₃ => ?_
        subst h₃
        refine .call rfl fun _ n₄ h₄ => ?_
        subst h₄
        -- the chunk is marked as a chapter is; the rest of the loop goes on from there
        have hnext : TagNotes.Agree (n.compacted ++ (s.left.take size).map (·.2)) old
            (s.fold size id text now).tags := hagree.markChapter ⟨s.left.take size, id, text, now⟩
        exact @ih (s.fold size id text now)
          { n with compacted := n.compacted ++ (s.left.take size).map (·.2) } hnext

/-- How a pass ends: it is completed just if it has saved tags. -/
def TagNotes.Closed (r : Except EngineError Outcome) (n : TagNotes) : Prop :=
  n.Faithful ∧ ((∃ report, r = .ok (.completed report)) ↔ n.saves ≠ [])

theorem TagNotes.closed_of_unsaved {r : Except EngineError Outcome} {n : TagNotes} (hn : n.saves = [])
    (hr : ∀ report, r ≠ .ok (.completed report)) : n.Closed r :=
  ⟨.inl hn, fun ⟨report, h⟩ => absurd h (hr report), fun h => absurd hn h⟩

/-- **The tags that are saved are those that were loaded, up to the messages of the chunks.** -/
theorem saveTags_noted {chatId : String} {old new : TagStore} {n : TagNotes}
    (hloads : n.loads = [(chatId, old)]) (hsaves : n.saves = []) (hagree : TagNotes.Agree n.compacted old new) :
    (saveTags chatId new).Throughout (noting TagNotes.note) TagNotes.Faithful
      (fun r n' => r.isOk = true ∧ n'.saves ≠ [] ∨ r.isOk = false ∧ n'.saves = []) n := by
  refine .call (.inl hsaves) fun r n' hn' => ?_
  subst hn'
  cases r with
  | error cause => exact .finish (.inl hsaves) (.inr ⟨rfl, hsaves⟩)
  | ok _ =>
    have hsaved : n.saves ++ [(chatId, new)] = [(chatId, new)] := by rw [hsaves]; rfl
    refine .finish (.inr ⟨chatId, old, new, hloads, hsaved, hagree⟩) (.inl ⟨rfl, ?_⟩)
    exact List.append_ne_nil_of_right_ne_nil _ (List.cons_ne_nil _ _)

/-- A record that cannot be saved keeps the tags from being saved. -/
theorem saveState_noted {chatId : String} {storage : Storage} {old new : TagStore} {n : TagNotes}
    (hloads : n.loads = [(chatId, old)]) (hsaves : n.saves = []) (hagree : TagNotes.Agree n.compacted old new) :
    (saveState chatId storage new).Throughout (noting TagNotes.note) TagNotes.Faithful
      (fun r n' => r.isOk = true ∧ n'.saves ≠ [] ∨ r.isOk = false ∧ n'.saves = []) n := by
  refine .call (.inl hsaves) fun r n' hn' => ?_
  subst hn'
  cases r with
  | error cause => exact .finish (.inl hsaves) (.inr ⟨rfl, hsaves⟩)
  | ok _ => exact saveTags_noted hloads hsaves hagree

/-- A pass over a working set, once the tags are loaded. -/
theorem compact_noted {c : Config} {chat : Chat} {storage : Storage} {tags : TagStore}
    {working : List (Nat × Message)} {n : TagNotes} (hloads : n.loads = [(chat.id, tags)])
    (hsaves : n.saves = []) :
    (compact c chat storage tags working).Throughout (noting TagNotes.note) TagNotes.Faithful
      (fun r n' => n'.Closed r) n := by
  unfold compact
  have unsaved : ∀ {n' : TagNotes}, n'.saves = [] → n'.Faithful := .inl
  refine .bind (((borrowProfile_asks_aside c).noted n).mono (fun n' hn' => unsaved (hn' ▸ hsaves))
    fun _ _ => id) fun previous n₁ _ h₁ => ?_
  subst h₁
  refine .call (unsaved hsaves) fun _ n₂ h₂ => ?_
  subst h₂
  have hbegin : ∀ messages, TagNotes.Agree messages tags tags := fun messages => .refl messages tags
  refine .bind ((foldChunks_noted _ (hbegin _)).mono
    (fun n' hn' => unsaved (hn'.trans hsaves)) fun _ _ => id) ?_
  rintro s n₃ - ⟨hloads₃, hsaves₃, hagree⟩
  replace hloads₃ := hloads₃.trans hloads
  replace hsaves₃ := hsaves₃.trans hsaves
  refine .bind (((returnProfile_asks_aside previous).noted n₃).mono
    (fun n' hn' => unsaved (hn' ▸ hsaves₃)) fun _ _ => id) fun _ n₄ _ h₄ => ?_
  subst h₄
  refine .call (unsaved hsaves₃) fun now n₅ h₅ => ?_
  subst h₅
  refine .bind (saveState_noted hloads₃ hsaves₃ hagree) fun r n₆ hfaithful hr => ?_
  cases r with
  | error e =>
    obtain ⟨hok, -⟩ | ⟨-, hunsaved⟩ := hr
    · cases hok
    refine .call hfaithful fun _ n₇ h₇ => ?_
    subst h₇
    exact .finish hfaithful (TagNotes.closed_of_unsaved hunsaved fun _ h => nomatch h)
  | ok _ =>
    obtain ⟨-, hsaved⟩ | ⟨hok, -⟩ := hr
    · refine .bind (((inject_asks_aside chat _).noted n₆).mono (fun n' hn' => hn' ▸ hfaithful)
        fun _ _ => id) fun _ n₇ _ h₇ => ?_
      subst h₇
      refine .call hfaithful fun _ n₈ h₈ => ?_
      subst h₈
      exact .finish hfaithful ⟨hfaithful, fun _ => hsaved, fun _ => ⟨_, rfl⟩⟩
    · cases hok

/-- Loading loads the tags last. -/
theorem loadState_noted (c : Config) (chatId : String) {n : TagNotes} :
    (loadState c chatId).Throughout (noting TagNotes.note) (·.saves = n.saves)
      (fun r n' => r.isOk = false ∧ n' = n ∨
        ∃ storage tags, r = .ok (storage, tags) ∧ n' = { n with loads := n.loads ++ [(chatId, tags)] }) n := by
  refine .bind (((loadOrInit_asks_aside c chatId).noted n).mono (fun _ => congrArg _) fun _ _ => id) ?_
  rintro r n₁ - h₁
  subst h₁
  rcases r with cause | ⟨storage, isFresh⟩
  · exact .finish rfl (.inl ⟨rfl, rfl⟩)
  · refine .call rfl fun a n₂ h₂ => ?_
    subst h₂
    cases a with
    | error cause => exact .finish rfl (.inl ⟨rfl, rfl⟩)
    | ok tags => exact .finish rfl (.inr ⟨storage, tags, rfl, rfl⟩)

/-- A pass, once it has the lock. -/
theorem passBody_noted (c : Config) :
    (passBody c).Throughout (noting TagNotes.note) TagNotes.Faithful (fun r n => n.Closed r) .none := by
  have skipped : ∀ (n : TagNotes) (reason : SkipReason), n.saves = [] →
      n.Closed (.ok (.skipped reason)) := fun n reason hn =>
    TagNotes.closed_of_unsaved hn fun _ h => nomatch h
  refine .call (.inl rfl) fun a n₁ h₁ => ?_
  subst h₁
  cases a with
  | none => exact .finish (.inl rfl) (skipped _ _ rfl)
  | some chat =>
    refine .bind ((loadState_noted c chat.id).mono (fun _ => .inl) fun _ _ => id) ?_
    rintro r n₂ - (⟨hr, rfl⟩ | ⟨storage, tags, rfl, rfl⟩)
    · cases r with
      | error cause => exact .finish (.inl rfl) (skipped _ _ rfl)
      | ok _ => cases hr
    · by_cases hempty : (workingSet chat.messages tags).isEmpty = true
      · simp only [hempty, if_true]
        exact .finish (.inl rfl) (skipped _ _ rfl)
      · simp only [hempty, if_false, Bool.false_eq_true]
        exact compact_noted rfl rfl

/-- **A pass saves tags once at most**, and they are those that it loaded, up to the messages of its chunks.
    It is completed just if it has saved them. -/
theorem perform_noted (c : Config) :
    (perform c).Throughout (noting TagNotes.note) TagNotes.Faithful (fun r n => n.Closed r) .none := by
  refine .call (.inl rfl) fun a n₁ h₁ => ?_
  subst h₁
  cases a with
  | false => exact .finish (.inl rfl) (TagNotes.closed_of_unsaved rfl fun _ h => nomatch h)
  | true =>
    refine .bind (passBody_noted c) fun r n₂ hfaithful hr => ?_
    refine .call hfaithful fun _ n₃ h₃ => ?_
    subst h₃
    exact .finish hfaithful hr

/-! ## A pass among others -/

/-- What is noted of a call. -/
def TagThread.noted (t : TagThread) : TagNotes := Thread.notes TagNotes.note .none t

variable {h : Habits} {i : Nat} {c : Config} {chatId : String} {old new : TagStore} {t : TagThread}
  {x y : List TagThread × World × Bool}

/-- What is noted as loaded was heard at some moment. -/
theorem exists_load {calls : List TagCall} {s₀ : World × Bool}
    (hrun : Turns (Guarded h) (calls.map .start, s₀) x) (ht : x.1[i]? = some t)
    (hin : (chatId, old) ∈ t.noted.loads) :
    ∃ x₁ x₂, Turns (Guarded h) (calls.map .start, s₀) x₁ ∧
      Hears (Guarded h) i (.loadTags chatId) (.ok old) x₁ x₂ ∧ Turns (Guarded h) x₂ x := by
  induction hrun generalizing t with
  | refl =>
    -- nothing is noted of a call before its first question
    rw [List.getElem?_map, Option.map_eq_some_iff] at ht
    obtain ⟨d, -, rfl⟩ := ht
    cases hin
  | @tail y z hbefore hturn ih =>
    have earlier : ∀ {u : TagThread}, y.1[i]? = some u → (chatId, old) ∈ u.noted.loads →
        ∃ x₁ x₂, Turns (Guarded h) (calls.map .start, s₀) x₁ ∧
          Hears (Guarded h) i (.loadTags chatId) (.ok old) x₁ x₂ ∧ Turns (Guarded h) x₂ z := by
      intro u hu hin
      obtain ⟨x₁, x₂, hfirst, hload, hrest⟩ := ih hu hin
      exact ⟨x₁, x₂, hfirst, hload, hrest.tail hturn⟩
    obtain ⟨j, hturn'⟩ := hturn
    cases hturn' with
    | @answered ts u q next a s s' hu hq hc =>
      rcases Turn.cases_getElem? ht with ⟨rfl, rfl⟩ | ⟨-, hother⟩
      · rw [TagThread.noted, Thread.notes_hear] at hin
        by_cases hload : ∃ id, q = .loadTags id
        · obtain ⟨id, rfl⟩ := hload
          cases a with
          | error cause => exact earlier hu hin
          | ok tags =>
            rcases List.mem_append.mp hin with hin | hin
            · exact earlier hu hin
            · cases List.mem_singleton.mp hin
              exact ⟨(ts, s), _, hbefore, ⟨u, next, hu, hq, hc, rfl⟩, .refl⟩
        · rw [TagNotes.loads_note fun id hid => hload ⟨id, hid⟩] at hin
          exact earlier hu hin
      · exact earlier hother hin

/-- A pass that was begun among others: what is left of it, and what has been noted of it. -/
theorem throughout_of_turns {calls : List TagCall} {w₀ : World} (hpass : calls[i]? = some (.pass c))
    (hrun : Turns (Guarded h) (calls.map .start, w₀, false) x) (ht : x.1[i]? = some t) :
    t.rest.Throughout (noting TagNotes.note) TagNotes.Faithful (fun r n => n.Faithful ∧
      ((∃ report, r = .ok (.inl (.completed report))) ↔ n.saves ≠ [])) t.noted := by
  have hstart : (calls.map Thread.start)[i]? = some (.start (TagCall.pass c)) := by
    rw [List.getElem?_map, hpass]
    rfl
  obtain ⟨t', ht', hgoes⟩ := hrun.noted TagNotes.note .none hstart
  obtain rfl := Option.some.inj (ht'.symm.trans ht)
  refine Dialogue.Throughout.goes ?_ hgoes
  refine .bind (perform_noted c) fun r n hfaithful hr => .finish hfaithful ⟨hfaithful, ?_⟩
  rw [← hr.2]
  -- what a pass comes to is what its call comes to
  constructor
  · rintro ⟨report, hreport⟩
    refine ⟨report, ?_⟩
    rcases r with e | outcome
    · cases hreport
    · cases hreport
      rfl
  · rintro ⟨report, rfl⟩
    exact ⟨report, rfl⟩

/-- Only a save of tags changes tags. -/
theorem tags_of_turn (hturn : Turn (Guarded h) i x y) :
    y.2.1.tags = x.2.1.tags ∨
      ∃ chatId new, Hears (Guarded h) i (.saveTags chatId new) (.ok ()) x y := by
  cases hturn with
  | @answered ts t q next a s s' ht hq hc =>
    obtain ⟨hs, hlock⟩ := hc
    cases q with
    | saveTags chatId new =>
      rcases hs.saveTags with ⟨-, -, hv⟩ | ⟨rfl, -⟩
      · exact .inl hv.tags
      · exact .inr ⟨chatId, new, t, next, ht, hq, ⟨hs, hlock⟩, rfl⟩
    | saveStorage =>
      rcases hs.saveStorage with ⟨-, hv⟩ | ⟨-, hv⟩
      · exact .inl hv.tags
      · exact .inl hv.tags
    | _ => exact .inl (hs.calm rfl).tags

/-! ## Calls to a host that does as it is told -/

/-- Passes over one message of two, one at a time. -/
def Config.halfway : Config := { Config.standard with chunkSize := 1, targetCompression := 50 }

/-- Whether a question asks for a summary. -/
def HostCall.isCompress : HostCall → Bool
  | .compress .. => true
  | _ => false

/-- The tags that a question saves, and their chat. -/
def HostCall.savedTags : HostCall → Option (String × TagStore)
  | .saveTags chatId tags => some (chatId, tags)
  | _ => none

theorem HostCall.eq_saveTags {q : HostCall} {chatId : String} {tags : TagStore}
    (h : q.savedTags = some (chatId, tags)) : q = .saveTags chatId tags := by
  cases q with
  | saveTags =>
    cases h
    rfl
  | _ => cases h

/-- Two messages, the last of which shows the second one of its two swipes. -/
def Chat.reswiped : Chat :=
  { Chat.blank with
    id := "reswiped"
    messages :=
      [{ Message.blank with id := "a" },
        { Message.blank with id := "b", swipeId := some 1, swipeCount := 2 }] }

section Seen

variable {τ : Type} {chat : Chat} {compress : List Message → Nat → τ → Option String × τ} {i : Nat}
  {x : List TagThread × Obliging τ × Bool} {t : TagThread} {chatId : String} {new : TagStore}

/-- Calls to a host that does as it is told, and what other modules see of the host. -/
def seen (chat : Chat) (x : List TagThread × Obliging τ × Bool) : List TagThread × World × Bool :=
  (x.1, Obliging.guardedWorld chat x.2)

/-- They take turns as with a host of any kind. -/
theorem turns_seen (h : Habits) {order : List Nat} (hx : x.2.1.Fresh) :
    Turns (Guarded h) (seen chat x)
      (seen chat (Dialogue.takeTurns (Obliging.guarded chat compress) order x)) :=
  Dialogue.turns_takeTurns (Obliging.guardedWorld chat) (·.1.Fresh) (Obliging.guarded_step chat compress h)
    order x.1 hx

theorem hears_saveTags (h : Habits) (ht : x.1[i]? = some t)
    (hopen : t.open? = some (.saveTags chatId new)) :
    Hears (Guarded h) i (.saveTags chatId new) (.ok ()) (seen chat x)
      (seen chat (Dialogue.takeTurns (Obliging.guarded chat compress) [i] x)) := by
  obtain ⟨next, hq⟩ := Thread.open?_eq_some.mp hopen
  exact Dialogue.hears_takeTurns (Obliging.guardedWorld chat) ht hq ⟨⟨_, .inr ⟨rfl, rfl⟩, .refl, rfl⟩, rfl⟩

end Seen

/-! ## What a pass brings back -/

/-- **A pass brings back the tags that it has loaded.** However the turns of others, which may load and save
    what they like, fall between those of a pass: where it saves tags, that is the first time, and there was
    a moment at which it has loaded those of the chat, once; for every message that is in no chunk of it, the
    tag and those of its swipes are what was kept at that moment, whatever was saved since. No other turn of
    the pass changes any tag, and the pass is completed just if it has saved tags. -/
theorem pass_brings_back_its_tags {calls : List TagCall} {w₀ : World} (hpass : calls[i]? = some (.pass c))
    (hrun : Turns (Guarded h) (calls.map .start, w₀, false) x) (ht : x.1[i]? = some t) :
    (∀ chatId new y, Hears (Guarded h) i (.saveTags chatId new) (.ok ()) x y →
      t.noted.saves = [] ∧ ∃ x₁ x₂, Turns (Guarded h) (calls.map .start, w₀, false) x₁ ∧
        Hears (Guarded h) i (.loadTags chatId) (.ok (x₁.2.1.tags chatId)) x₁ x₂ ∧ Turns (Guarded h) x₂ x ∧
        t.noted.loads = [(chatId, x₁.2.1.tags chatId)] ∧ ∀ id ∉ t.noted.compacted.map (·.id),
          (y.2.1.tags chatId).tag? id = (x₁.2.1.tags chatId).tag? id ∧
          ∀ k, (y.2.1.tags chatId).swipeTag? id k = (x₁.2.1.tags chatId).swipeTag? id k) ∧
    (∀ y, Turn (Guarded h) i x y → y.2.1.tags = x.2.1.tags ∨
      ∃ chatId new, Hears (Guarded h) i (.saveTags chatId new) (.ok ()) x y) ∧
    (∀ r, t.result? = some r →
      ((∃ report, r = .ok (.inl (.completed report))) ↔ t.noted.saves ≠ [])) := by
  have hthroughout := throughout_of_turns hpass hrun ht
  refine ⟨fun chatId new y hsave => ?_, fun y hturn => tags_of_turn hturn, fun r hr => ?_⟩
  · obtain ⟨t', next, ht', hq, ⟨hs, -⟩, -⟩ := hsave
    obtain rfl := Option.some.inj (ht'.symm.trans ht)
    rw [hq] at hthroughout
    obtain ⟨old, hloads, hsaves, hagree⟩ := (hthroughout.2 (.ok ()) _ rfl).start.of_save
    obtain ⟨x₁, x₂, hfirst, hload, hrest⟩ := exists_load hrun ht (hloads ▸ List.mem_singleton_self _)
    -- what was loaded is what was kept, and what is saved is kept
    have hold : old = x₁.2.1.tags chatId := by
      obtain ⟨-, -, -, -, ⟨hs₁, -⟩, -⟩ := hload
      rcases hs₁.loadTags with ⟨cause, hcause⟩ | hok
      · cases hcause
      · exact Except.ok.inj hok
    have hkept : y.2.1.tags chatId = new := by
      rcases hs.saveTags with ⟨-, ⟨cause, hcause⟩, -⟩ | ⟨-, hv⟩
      · cases hcause
      · rw [hv.tags, World.putTags_tags]
    subst hold
    rw [hkept]
    exact ⟨hsaves, x₁, x₂, hfirst, hload, hrest, hloads, hagree⟩
  · rw [Thread.result?_eq_some.mp hr] at hthroughout
    exact hthroughout.2.2

/-- While a pass over the first of two messages waits for its summary, the other one is given the tag of its
    swipe, and the pass brings back that it had none. -/
theorem saved_tag_is_taken_back :
    let calls : List TagCall := [.pass .halfway, .swiped "b"]
    let turns := Dialogue.takeTurns (Obliging.guarded .reswiped scripted)
    let start := (calls.map Thread.start, Obliging.blank [some "They met."], false)
    let saving := turns (List.replicate 5 0 ++ List.replicate 3 1 ++ List.replicate 6 0) start
    let saved := turns [0] saving
    saving.1[1]?.bind (·.result?) = some (.ok (.inr true)) ∧
    (saving.2.1.tags "reswiped").tag? "b" = some .active ∧
    (saved.2.1.tags "reswiped").tag? "b" = TagStore.empty.tag? "b" ∧
    ∀ k, (saved.2.1.tags "reswiped").swipeTag? "b" k = TagStore.empty.swipeTag? "b" k := by
  intro calls turns start saving saved
  refine ⟨by decide +kernel, by decide +kernel, ?_⟩
  let h : Habits := { move := fun _ _ => False, mayFail := fun _ => False }
  -- the pass has loaded no tags, and waits for having saved some
  have hwaits : ∃ t new, saving.1[0]? = some t ∧ t.open? = some (.saveTags "reswiped" new) ∧
      (TagThread.noted t).loads = [("reswiped", .empty)] ∧
      "b" ∉ (TagThread.noted t).compacted.map (·.id) := by
    have hall : (saving.1[0]?.any fun t =>
        t.open?.bind (·.savedTags) = some ("reswiped", saved.2.1.tags "reswiped") ∧
          (TagThread.noted t).loads = [("reswiped", .empty)] ∧
          "b" ∉ (TagThread.noted t).compacted.map (·.id)) = true := by decide +kernel
    obtain ⟨t, ht, hall⟩ := (Option.any_eq_true _ _).mp hall
    obtain ⟨hopen, hrest⟩ := of_decide_eq_true hall
    obtain ⟨q, hq, hsaved⟩ := Option.bind_eq_some_iff.mp hopen
    exact ⟨t, _, ht, HostCall.eq_saveTags hsaved ▸ hq, hrest⟩
  obtain ⟨t, new, ht, hopen, hloads, hout⟩ := hwaits
  have hrun : Turns (Guarded h) (seen .reswiped start) (seen .reswiped saving) :=
    turns_seen h (Obliging.fresh_blank _)
  have hsave : Hears (Guarded h) 0 _ _ (seen .reswiped saving) (seen .reswiped saved) :=
    hears_saveTags h ht hopen
  clear_value saving saved
  have hpass : calls[0]? = some (.pass .halfway) := rfl
  obtain ⟨hsaved, -⟩ := pass_brings_back_its_tags hpass hrun ht
  obtain ⟨-, x₁, -, -, -, -, hloads', hsame⟩ := hsaved "reswiped" new _ hsave
  have hempty : x₁.2.1.tags "reswiped" = .empty := by
    rw [hloads, List.cons.injEq, Prod.mk.injEq] at hloads'
    exact hloads'.1.2.symm
  rw [hempty] at hsame
  exact hsame "b" hout

/-- **A tag can be lost to a pass.** So it goes with a message that is displayed meanwhile: its tag is saved,
    and when the pass is completed, the message has no tag, and neither has its swipe. -/
theorem saved_tag_is_lost :
    let calls : List TagCall := [.pass .halfway, .rendered .standard "b"]
    let turns := Dialogue.takeTurns (Obliging.guarded .reswiped scripted)
    let start := (calls.map Thread.start, Obliging.blank [some "They met."], false)
    let suspended := turns (List.replicate 5 0) start
    let updated := turns (List.replicate 3 1) suspended
    let final := turns (List.replicate 10 0) updated
    (suspended.1[0]?.bind (·.open?)).any HostCall.isCompress = true ∧
    (updated.1[0]?.bind (·.open?)).any HostCall.isCompress = true ∧
    updated.1[1]?.bind (·.result?) = some (.ok (.inr true)) ∧
    (updated.2.1.tags "reswiped").tag? "b" = some .active ∧
    (updated.2.1.tags "reswiped").swipeTag? "b" 1 = some .active ∧
    final.1[0]?.bind (·.result?) = some (.ok (.inl (.completed
      { chunks := 1, messagesCompacted := 1, summaryIds := [""], halted := false }))) ∧
    final.1[0]?.map (fun t => (TagThread.noted t).compacted.map (·.id)) = some ["a"] ∧
    (final.2.1.tags "reswiped").tag? "b" = none ∧
    (final.2.1.tags "reswiped").swipeTag? "b" 1 = none := by
  decide +kernel

end Recap
