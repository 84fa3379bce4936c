import Recap.Engine.Memory
import Recap.Proofs.Disk.Records
import Recap.Proofs.Record.RoundTrip
import Recap.Proofs.Storage.Export

/-!
# Files keep what a host in memory keeps

Records and tags of any chats are saved to files below one directory, and texts are put into the prompts of the
chats, all in any order. What is read then is what was saved last for just that chat, as a host in memory
would have it: `Mirrors` says how what is in the files belongs to what is in the maps of that host, one step
keeps it (`Mirrors.step`), and so does a whole run (`Mirrors.run`).

A machine takes a path only up to a length. So a save for a very long id is refused, and the host in memory
is compared over the saves that were not (`keepAll`). Which ones those are is known beforehand
(`Keeping.fits`).

## Contents
- `Keeping`, `keepAll`, `keepInMemory` — saves and prompts, with files and in memory.
- `lastStorage`, `lastTags` — what was saved last for a chat.
- `Kept`, `Mirrors` — what is in the files.
- `files_keep_what_memory_keeps` — reading gives what was saved last.
-/

namespace Recap.Disk

open Machine Machine.FileTree
open Record (real)
open Json (decode writeFloat)

/-! ## Saves and prompts -/

/-- Something that is saved for a chat, or put into its prompt. -/
inductive Keeping where
  | storage (chatId : String) (s : Storage)
  | tags (chatId : String) (t : TagStore)
  | block (chatId : String) (b : PromptBlock)

namespace Keeping

/-- With files. -/
def task (root : Path) : Keeping → FileTask Unit
  | storage chatId s => saveStorage root chatId s
  | tags chatId t => saveTags root chatId t
  | block chatId b => setBlock (chatPath root chatId) b

/-- As a question to a host. -/
def call : Keeping → HostCall
  | storage chatId s => .saveStorage chatId s
  | tags chatId t => .saveTags chatId t
  | block _ b => .setBlock b

/-- Whether something is saved. -/
def isSave : Keeping → Bool
  | storage .. | tags .. => true
  | block .. => false

/-- Whether the path of what is saved is taken. -/
def fits (root : Path) : Keeping → Bool
  | storage chatId _ => (filePath root chatId storageName).fits
  | tags chatId _ => (filePath root chatId tagsName).fits
  | block .. => true

/-- The ratio in a record is what its digits are read as. -/
def ReadsBack : Keeping → Prop
  | storage _ s => decode real (writeFloat s.stats.compressionRatio) = .ok s.stats.compressionRatio
  | tags .. | block .. => True

/-- The record of a chat that is saved last. -/
def storageFor (chatId : String) (last : Option Storage) : Keeping → Option Storage
  | storage id s => if id = chatId then some s else last
  | tags .. | block .. => last

/-- The tags of a chat that are saved last. -/
def tagsFor (chatId : String) (last : Option TagStore) : Keeping → Option TagStore
  | tags id t => if id = chatId then some t else last
  | storage .. | block .. => last

end Keeping

/-- One after the other with files: what was not refused, and the machine afterwards. -/
def keepAll (root : Path) : List Keeping → Memory → List Keeping × Memory
  | [], m => ([], m)
  | k :: ks, m =>
    let (answer, m') := m.run (k.task root).run
    let (taken, m'') := keepAll root ks m'
    match answer with
    | .ok () => (k :: taken, m'')
    | .error _ => (taken, m'')

theorem keepAll_cons_ok {root : Path} {k : Keeping} {m m' : Memory} (h : m.run (k.task root).run = (.ok (), m'))
    (ks : List Keeping) :
    keepAll root (k :: ks) m = (k :: (keepAll root ks m').1, (keepAll root ks m').2) := by
  rw [keepAll, h]

theorem keepAll_cons_error {root : Path} {k : Keeping} {m m' : Memory} {e : Error}
    (h : m.run (k.task root).run = (.error e, m')) (ks : List Keeping) :
    keepAll root (k :: ks) m = keepAll root ks m' := by
  rw [keepAll, h]

/-- What passes are started with; a host in memory that is only asked to save starts none. -/
abbrev Start := MemoryHost → Except EngineError Outcome × MemoryHost

/-- One after the other in memory. -/
def keepInMemory (start : Start) (ks : List Keeping) (w : MemoryHost) : MemoryHost :=
  ks.foldl (fun w k => (MemoryHost.answer start k.call w).2) w

/-- The record that was saved last for a chat. -/
def lastStorage (chatId : String) (ks : List Keeping) : Option Storage :=
  ks.foldl (Keeping.storageFor chatId) none

/-- The tags that were saved last for a chat; there are none where none were saved. -/
def lastTags (chatId : String) (ks : List Keeping) : TagStore :=
  (ks.foldl (Keeping.tagsFor chatId) none).getD .empty

/-! ## In memory -/

section InMemory

variable {start : Start} {w : MemoryHost}

theorem answer_storage (h : w.failures = .none) (id : String) (s : Storage) :
    (MemoryHost.answer start (Keeping.storage id s).call w).2 =
      { w.putStorage id s with saves := w.saves + 1, ids := w.ids.keep } :=
  congrArg Prod.snd (if_neg (by rw [h]; exact Bool.false_ne_true))

theorem answer_tags (h : w.failures = .none) (id : String) (t : TagStore) :
    (MemoryHost.answer start (Keeping.tags id t).call w).2 = { w.putTags id t with saves := w.saves + 1 } :=
  congrArg Prod.snd (if_neg (by rw [h]; exact Bool.false_ne_true))

theorem answer_block (h : w.failures = .none) (id : String) (b : PromptBlock) :
    (MemoryHost.answer start (Keeping.block id b).call w).2 = { w with slot := some b } :=
  if_neg (by rw [h]; exact Bool.false_ne_true)

theorem failures_answer (start : Start) (k : Keeping) (h : w.failures = .none) :
    (MemoryHost.answer start k.call w).2.failures = .none := by
  cases k with
  | storage id s => rw [answer_storage h]; exact h
  | tags id t => rw [answer_tags h]; exact h
  | block id b => rw [answer_block h]; exact h

theorem storageOf_answer (k : Keeping) (h : w.failures = .none) (id : String) :
    (MemoryHost.answer start k.call w).2.storageOf id = k.storageFor id (w.storageOf id) := by
  cases k with
  | storage id' s =>
      rw [answer_storage h]
      show (w.storages.insert id' s).get? id = if id' = id then some s else w.storageOf id
      split
      case isTrue heq =>
        rw [heq]
        exact w.storages.get?_insert_self id s
      case isFalse hne => exact SortedMap.get?_insert_of_ne (Ne.symm hne) w.storages s
  | tags id' t => rw [answer_tags h]; rfl
  | block id' b => rw [answer_block h]; rfl

theorem tags_answer (k : Keeping) (h : w.failures = .none) (id : String) :
    (MemoryHost.answer start k.call w).2.tags.get? id = k.tagsFor id (w.tags.get? id) := by
  cases k with
  | storage id' s => rw [answer_storage h]; rfl
  | tags id' t =>
      rw [answer_tags h]
      show (w.tags.insert id' t).get? id = if id' = id then some t else w.tags.get? id
      split
      case isTrue heq =>
        rw [heq]
        exact w.tags.get?_insert_self id t
      case isFalse hne => exact SortedMap.get?_insert_of_ne (Ne.symm hne) w.tags t
  | block id' b => rw [answer_block h]; rfl

/-- **A host in memory has what was saved last.** -/
theorem keepInMemory_last (start : Start) (ks : List Keeping) (h : w.failures = .none) (id : String) :
    (keepInMemory start ks w).failures = .none ∧
      (keepInMemory start ks w).storageOf id = ks.foldl (Keeping.storageFor id) (w.storageOf id) ∧
      (keepInMemory start ks w).tags.get? id = ks.foldl (Keeping.tagsFor id) (w.tags.get? id) := by
  induction ks generalizing w with
  | nil => exact ⟨h, rfl, rfl⟩
  | cons k ks ih =>
      have hrest := ih (failures_answer start k h)
      rw [storageOf_answer k h, tags_answer k h] at hrest
      exact hrest

end InMemory

/-! ## In files -/

variable {place : List String} {root : Path} {m m' : Memory} {start : Start} {w : MemoryHost}

/-- What is in the file with a name for a chat. -/
def Kept (root : Path) (place : List String) (m : Memory) (id name : String) : Option String → Prop
  | none => m.tree.at? (filePlace place id name) = none
  | some text =>
    m.tree.locate m.base (filePath root id name) = .ok (filePlace place id name) ∧
      ∃ mode, m.tree.at? (filePlace place id name) = some (.file (.text text) mode)

theorem Kept.aside {id name : String} {text? : Option String} (h : Kept root place m id name text?)
    {touched : List String → Prop} (ha : Aside place touched m m') (hq : ¬ touched (filePlace place id name)) :
    Kept root place m' id name text? := by
  cases text? with
  | none =>
      rw [Kept, ha.at?_eq hq]
      exact h
  | some text =>
      obtain ⟨hlocate, hfile⟩ := h
      rw [Kept, ha.at?_eq hq, ha.base]
      exact ⟨ha.changes.locate hlocate, hfile⟩

/-- There is nothing else than the file. -/
theorem Kept.file {id name : String} {text? : Option String} (h : Kept root place m id name text?) :
    m.tree.at? (filePlace place id name) = none ∨
      ∃ content mode, m.tree.at? (filePlace place id name) = some (.file content mode) := by
  cases text? with
  | none => exact .inl h
  | some text =>
      obtain ⟨-, mode, hfile⟩ := h
      exact .inr ⟨_, mode, hfile⟩

/-- How the files belong to the maps of a host in memory: each file has the text of what is in its place in the
    maps. -/
structure Mirrors (root : Path) (place : List String) (w : MemoryHost) (m : Memory) : Prop where
  leads : m.tree.Leads m.base root place
  free : ∀ id, Free m.tree (chatPlace place id)
  storage : ∀ id, Kept root place m id storageName ((w.storageOf id).map fun s => s.toJson.pretty)
  tags : ∀ id, Kept root place m id tagsName ((w.tags.get? id).map fun t => t.toJson.pretty)
  reliable : w.failures = .none
  readable : ∀ id s, w.storageOf id = some s → (Keeping.storage id s).ReadsBack

namespace Mirrors

/-- What touches no file that is kept leaves the files as they belong. -/
theorem aside (h : Mirrors root place w m) {touched : List String → Prop} (ha : Aside place touched m m')
    (hq : ∀ id, ∀ name ∈ recordNames, ¬ touched (filePlace place id name)) : Mirrors root place w m' where
  leads := ha.leads h.leads
  free := fun id => ha.free id (h.free id)
  storage := fun id => (h.storage id).aside ha (hq id _ (by decide))
  tags := fun id => (h.tags id).aside ha (hq id _ (by decide))
  reliable := h.reliable
  readable := h.readable

/-- A record that is saved is in its file, and every other file is as it was. -/
theorem save_storage (h : Mirrors root place w m) {id : String} {s : Storage}
    (hreads : (Keeping.storage id s).ReadsBack) (ha : Aside place (Written place id storageName) m m')
    (hkept : Kept root place m' id storageName (some s.toJson.pretty)) :
    Mirrors root place (MemoryHost.answer start (Keeping.storage id s).call w).2 m' where
  leads := ha.leads h.leads
  free := fun id => ha.free id (h.free id)
  storage := by
    intro id'
    rw [storageOf_answer _ h.reliable]
    show Kept root place m' id' storageName (Option.map _ (if id = id' then some s else w.storageOf id'))
    split
    case isTrue heq =>
      rw [← heq]
      exact hkept
    case isFalse hne => exact (h.storage id').aside ha (not_written_filePlace fun heq => absurd heq.symm hne)
  tags := by
    intro id'
    rw [tags_answer _ h.reliable]
    exact (h.tags id').aside ha (not_written_filePlace fun _ => by decide)
  reliable := failures_answer start _ h.reliable
  readable := by
    intro id' s' hs'
    rw [storageOf_answer _ h.reliable] at hs'
    change (if id = id' then some s else w.storageOf id') = some s' at hs'
    split at hs'
    case isTrue =>
      obtain rfl := Option.some.inj hs'
      exact hreads
    case isFalse => exact h.readable id' s' hs'

theorem save_tags (h : Mirrors root place w m) {id : String} {t : TagStore}
    (ha : Aside place (Written place id tagsName) m m')
    (hkept : Kept root place m' id tagsName (some t.toJson.pretty)) :
    Mirrors root place (MemoryHost.answer start (Keeping.tags id t).call w).2 m' where
  leads := ha.leads h.leads
  free := fun id => ha.free id (h.free id)
  storage := by
    intro id'
    rw [storageOf_answer _ h.reliable]
    exact (h.storage id').aside ha (not_written_filePlace fun _ => by decide)
  tags := by
    intro id'
    rw [tags_answer _ h.reliable]
    show Kept root place m' id' tagsName (Option.map _ (if id = id' then some t else w.tags.get? id'))
    split
    case isTrue heq =>
      rw [← heq]
      exact hkept
    case isFalse hne => exact (h.tags id').aside ha (not_written_filePlace fun heq => absurd heq.symm hne)
  reliable := failures_answer start _ h.reliable
  readable := by
    intro id' s' hs'
    rw [storageOf_answer _ h.reliable] at hs'
    exact h.readable id' s' hs'

/-! ### One step -/

/-- A save whose path is taken is done. -/
theorem step_taken (start : Start) (h : Mirrors root place w m) {k : Keeping} (hsave : k.isSave = true)
    (hfits : k.fits root = true) (hreads : k.ReadsBack) :
    ∃ m', m.run (k.task root).run = (.ok (), m') ∧
      Mirrors root place (MemoryHost.answer start k.call w).2 m' := by
  cases k with
  | storage id s =>
      obtain ⟨m', mode, hrun, ha, hlocate, hfile⟩ :=
        run_writeRecord h.leads (by decide) (h.free id) (h.storage id).file hfits s.toJson
      exact ⟨m', hrun, h.save_storage hreads ha ⟨hlocate, mode, hfile⟩⟩
  | tags id t =>
      obtain ⟨m', mode, hrun, ha, hlocate, hfile⟩ :=
        run_writeRecord h.leads (by decide) (h.free id) (h.tags id).file hfits t.toJson
      exact ⟨m', hrun, h.save_tags ha ⟨hlocate, mode, hfile⟩⟩
  | block id b => cases hsave

/-- A save whose path is not taken is refused, and nothing is saved. -/
theorem step_refused (h : Mirrors root place w m) {k : Keeping} (hsave : k.isSave = true)
    (hfits : k.fits root ≠ true) :
    ∃ m' e, m.run (k.task root).run = (.error e, m') ∧ Mirrors root place w m' := by
  have hchat : ∀ id, ∀ id', ∀ name ∈ recordNames, filePlace place id' name ≠ chatPlace place id :=
    fun id id' name _ => filePlace_ne_chatPlace id' name id
  cases k with
  | storage id s =>
      obtain ⟨m', e, hrun, ha⟩ := run_writeRecord_refused h.leads (h.free id) hfits s.toJson
      exact ⟨m', e, hrun, h.aside ha (hchat id)⟩
  | tags id t =>
      obtain ⟨m', e, hrun, ha⟩ := run_writeRecord_refused h.leads (h.free id) hfits t.toJson
      exact ⟨m', e, hrun, h.aside ha (hchat id)⟩
  | block id b => cases hsave

/-- A text that is put into a prompt changes no record, neither in files nor in memory. -/
theorem step_block (h : Mirrors root place w m) (id : String) (b : PromptBlock) :
    Mirrors root place w (m.run ((Keeping.block id b).task root).run).2 :=
  h.aside (run_setBlock h.leads (h.free id) b) fun _ _ hname => not_prompted_filePlace hname

theorem in_memory_block (start : Start) (h : Mirrors root place w m) (id : String) (b : PromptBlock) :
    Mirrors root place (MemoryHost.answer start (Keeping.block id b).call w).2 m := by
  rw [answer_block h.reliable]
  exact ⟨h.leads, h.free, h.storage, h.tags, h.reliable, h.readable⟩

/-! ### Runs -/

/-- **What is in the files goes on belonging to what is in memory**, and of the saves just those are refused
    whose paths are not taken. -/
theorem run (start : Start) (h : Mirrors root place w m) (ks : List Keeping) (hreads : ∀ k ∈ ks, k.ReadsBack) :
    Mirrors root place (keepInMemory start (keepAll root ks m).1 w) (keepAll root ks m).2 ∧
      (keepAll root ks m).1.filter Keeping.isSave = ks.filter fun k => k.isSave && k.fits root := by
  induction ks generalizing w m with
  | nil => exact ⟨h, rfl⟩
  | cons k ks ih =>
      have hk := hreads k (by simp)
      have hks : ∀ k ∈ ks, k.ReadsBack := fun k hk => hreads k (List.mem_cons_of_mem _ hk)
      cases hsave : k.isSave with
      | true =>
          by_cases hfits : k.fits root = true
          · obtain ⟨m', hrun, hm'⟩ := h.step_taken start hsave hfits hk
            obtain ⟨hmirrors, htaken⟩ := ih hm' hks
            rw [keepAll_cons_ok hrun]
            refine ⟨hmirrors, ?_⟩
            rw [List.filter_cons_of_pos hsave, List.filter_cons_of_pos (by rw [hsave, hfits]; rfl), htaken]
          · obtain ⟨m', e, hrun, hm'⟩ := h.step_refused hsave hfits
            obtain ⟨hmirrors, htaken⟩ := ih hm' hks
            rw [keepAll_cons_error hrun]
            refine ⟨hmirrors, ?_⟩
            rw [List.filter_cons_of_neg (by rw [hsave, Bool.true_and]; exact hfits), htaken]
      | false =>
          -- whether the text is put into the prompt or not, no record changes on either side
          obtain ⟨id, b, rfl⟩ : ∃ id b, k = .block id b := by
            cases k with
            | storage id s => cases hsave
            | tags id t => cases hsave
            | block id b => exact ⟨id, b, rfl⟩
          have hm' := h.step_block id b
          have hskip : (Keeping.block id b :: ks).filter (fun k => k.isSave && k.fits root) =
              ks.filter fun k => k.isSave && k.fits root := List.filter_cons_of_neg Bool.false_ne_true
          rw [hskip]
          rcases hrun : m.run ((Keeping.block id b).task root).run with ⟨e | _, m'⟩
          · rw [hrun] at hm'
            rw [keepAll_cons_error hrun]
            exact ih hm' hks
          · rw [hrun] at hm'
            obtain ⟨hmirrors, htaken⟩ := ih (hm'.in_memory_block start id b) hks
            rw [keepAll_cons_ok hrun]
            refine ⟨hmirrors, ?_⟩
            rw [← htaken]
            exact List.filter_cons_of_neg Bool.false_ne_true

/-! ### Reading -/

theorem find?_of_kept_none (h : Mirrors root place w m) {id name : String} (hname : name ∈ recordNames)
    (hkept : Kept root place m id name none) : m.tree.find? m.base (filePath root id name) = none := by
  rw [find?]
  cases hlocate : m.tree.locate m.base (filePath root id name) with
  | error fault => rfl
  | ok q =>
      rw [filePath_eq] at hlocate
      have hq : q = filePlace place id name := by
        refine h.leads.eq_of_locate ?_ hlocate
        intro n hn
        rcases List.mem_cons.mp hn with rfl | hn
        · exact isName_chatDirectory id
        · rw [List.mem_singleton.mp hn]
          exact isName_of_mem_recordNames name hname
      rw [hq]
      exact hkept

theorem run_loadStorage (h : Mirrors root place w m) (id : String) :
    m.run (loadStorage root id).run = (.ok (w.storageOf id), m) := by
  have hkept := h.storage id
  cases hs : w.storageOf id with
  | none =>
      rw [hs] at hkept
      exact run_readRecord_absent (h.find?_of_kept_none (by decide) hkept)
  | some s =>
      rw [hs] at hkept
      obtain ⟨hlocate, mode, hfile⟩ := hkept
      have hdecode : decode Storage.read s.toJson.pretty = .ok s := by
        rw [Record.decode_pretty, Storage.read_toJson (h.readable id s hs)]
        rfl
      exact run_readRecord_present hlocate hfile hdecode

theorem run_loadTags (h : Mirrors root place w m) (id : String) :
    m.run (loadTags root id).run = (.ok (w.tagsOf id), m) := by
  have hkept := h.tags id
  have hread : m.run (Disk.readRecord TagStore.read (filePath root id tagsName)).run =
      (.ok (w.tags.get? id), m) := by
    cases ht : w.tags.get? id with
    | none =>
        rw [ht] at hkept
        exact run_readRecord_absent (h.find?_of_kept_none (by decide) hkept)
    | some t =>
        rw [ht] at hkept
        obtain ⟨hlocate, mode, hfile⟩ := hkept
        have hdecode : decode TagStore.read t.toJson.pretty = .ok t := by
          rw [Record.decode_pretty, t.read_toJson]
        exact run_readRecord_present hlocate hfile hdecode
  show m.run (Disk.readRecord TagStore.read (filePath root id tagsName) >>= fun t => pure (t.getD .empty)).run = _
  rw [Memory.run_bind, hread]
  rfl

end Mirrors

/-- An empty directory belongs to a host in memory that has nothing. -/
theorem mirrors_empty (hroot : m.tree.Leads m.base root place) (hbare : m.tree.isBare place = true)
    (hreliable : w.failures = .none) (hstorages : w.storages = .empty) (htags : w.tags = .empty) :
    Mirrors root place w m where
  leads := hroot
  free := fun id => .inl (at?_of_isBare hbare (List.cons_ne_nil _ _))
  storage := by
    intro id
    rw [MemoryHost.storageOf, hstorages]
    exact at?_of_isBare hbare (List.cons_ne_nil _ _)
  tags := by
    intro id
    rw [htags]
    exact at?_of_isBare hbare (List.cons_ne_nil _ _)
  reliable := hreliable
  readable := by
    intro id s hs
    rw [MemoryHost.storageOf, hstorages] at hs
    cases hs

/-- **Files keep what a host in memory keeps.** Records and tags are saved for any chats, and texts put into
    their prompts, in any order, beginning with an empty directory. Then for every chat what is read from the
    files is what was saved last for just that chat, which is also what a host in memory answers after the same
    saves, and reading changes nothing. Only saves whose paths the machine does not take are refused. -/
theorem files_keep_what_memory_keeps (start : Start) (hroot : m.tree.Leads m.base root place)
    (hbare : m.tree.isBare place = true) (hreliable : w.failures = .none) (hstorages : w.storages = .empty)
    (htags : w.tags = .empty) (ks : List Keeping) (hreads : ∀ k ∈ ks, k.ReadsBack) :
    (∀ id,
      (keepAll root ks m).2.run (loadStorage root id).run =
          (.ok (lastStorage id (keepAll root ks m).1), (keepAll root ks m).2) ∧
        (MemoryHost.answer start (.loadStorage id) (keepInMemory start (keepAll root ks m).1 w)).1 =
          .ok (lastStorage id (keepAll root ks m).1)) ∧
    (∀ id,
      (keepAll root ks m).2.run (loadTags root id).run =
          (.ok (lastTags id (keepAll root ks m).1), (keepAll root ks m).2) ∧
        (MemoryHost.answer start (.loadTags id) (keepInMemory start (keepAll root ks m).1 w)).1 =
          .ok (lastTags id (keepAll root ks m).1)) ∧
    (keepAll root ks m).1.filter Keeping.isSave = ks.filter fun k => k.isSave && k.fits root := by
  obtain ⟨hmirrors, htaken⟩ :=
    (mirrors_empty hroot hbare hreliable hstorages htags).run start ks hreads
  have hlast := fun id => keepInMemory_last start (keepAll root ks m).1 hreliable id
  have hstorage : ∀ id, (keepInMemory start (keepAll root ks m).1 w).storageOf id =
      lastStorage id (keepAll root ks m).1 := by
    intro id
    rw [(hlast id).2.1, MemoryHost.storageOf, hstorages]
    rfl
  have htagsOf : ∀ id, (keepInMemory start (keepAll root ks m).1 w).tagsOf id =
      lastTags id (keepAll root ks m).1 := by
    intro id
    rw [MemoryHost.tagsOf, (hlast id).2.2, htags]
    rfl
  refine ⟨fun id => ⟨?_, ?_⟩, fun id => ⟨?_, ?_⟩, htaken⟩
  · rw [hmirrors.run_loadStorage, hstorage]
  · show (if (keepInMemory start (keepAll root ks m).1 w).failures.loads then _ else _ : Except String _) = _
    rw [hmirrors.reliable, ← hstorage]
    rfl
  · rw [hmirrors.run_loadTags, htagsOf]
  · show (if (keepInMemory start (keepAll root ks m).1 w).failures.loads then _ else _ : Except String _) = _
    rw [hmirrors.reliable, ← htagsOf]
    rfl

/-! ### Ids that look alike -/

/-- A machine with nothing but the directory that programs run in. -/
def bareMachine : Memory :=
  { home := ⟨["", "work"]⟩, tree := FileTree.empty.put ["work"] .directory, clock := 0, ids := .none,
    printed := "", complaints := "" }

/-- A host in memory that has nothing yet. -/
def unusedHost : MemoryHost :=
  { chat := none, loaded := false, storages := .empty, tags := .empty, failures := .none, saves := 0, slot := none,
    profiles := none, clock := 0, clockStep := 0, running := false, ids := .none, compressor := .scripted [],
    calls := 0, reenter := [], progress := [], requests := [], reentries := [] }

/-- A record and a text for one chat and tags for another, the key of the text pointing from the first to
    the directory of the second. -/
def lookalikes : List Keeping :=
  [.storage "" { Storage.fresh .standard with stats := { Stats.zero with compressionRatio := 12.5 } },
    .block "" ⟨"../%25/storage.json", "Once.", .inPrompt, 0, true, .system⟩,
    .tags "%" (TagStore.empty.write ⟨"a", "Ann", "Hello.", false, none, 1⟩ .active)]

theorem readsBack_lookalikes : ∀ k ∈ lookalikes, k.ReadsBack := by
  have hratio : decode real (writeFloat 12.5) = .ok 12.5 := by
    have hoption : (decode real (writeFloat 12.5)).toOption = some 12.5 := by decide +kernel
    cases hdecode : decode real (writeFloat 12.5) with
    | error fault =>
        rw [hdecode] at hoption
        cases hoption
    | ok x =>
        rw [hdecode] at hoption
        exact congrArg Except.ok (Option.some.inj hoption)
  intro k hk
  rcases List.mem_cons.mp hk with rfl | hk
  · exact hratio
  · rcases List.mem_cons.mp hk with rfl | hk
    · exact trivial
    · rw [List.mem_singleton.mp hk]
      exact trivial

theorem lookalikes_are_kept_apart :
    bareMachine.tree.isBare ["work"] = true ∧ (∀ k ∈ lookalikes, k.ReadsBack) ∧
      ((keepAll ⟨["."]⟩ lookalikes bareMachine).2.run (loadStorage ⟨["."]⟩ "").run).1 =
        .ok (lastStorage "" (keepAll ⟨["."]⟩ lookalikes bareMachine).1) ∧
      ((keepAll ⟨["."]⟩ lookalikes bareMachine).2.run (loadTags ⟨["."]⟩ "%").run).1 =
        .ok (lastTags "%" (keepAll ⟨["."]⟩ lookalikes bareMachine).1) ∧
      (keepAll ⟨["."]⟩ lookalikes bareMachine).1.filter Keeping.isSave = lookalikes.filter Keeping.isSave := by
  have hbare : bareMachine.tree.isBare ["work"] = true := by decide +kernel
  have hfits : (lookalikes.all fun k => (k.isSave && k.fits ⟨["."]⟩) == k.isSave) = true := by decide +kernel
  obtain ⟨hstorage, htags, htaken⟩ :=
    @files_keep_what_memory_keeps ["work"] ⟨["."]⟩ bareMachine unusedHost
      (fun w => (.ok (.skipped .alreadyRunning), w)) ⟨rfl, rfl⟩ hbare rfl rfl rfl lookalikes readsBack_lookalikes
  refine ⟨hbare, readsBack_lookalikes, ?_, ?_, htaken.trans (List.filter_congr fun k hk => ?_)⟩
  · rw [(hstorage "").1]
  · rw [(htags "%").1]
  · exact eq_of_beq (List.all_eq_true.mp hfits k hk)

end Recap.Disk
