import Recap.Injection
import Recap.Proofs.Engine.Reliable
import Recap.Proofs.Engine.WorkingSet

/-!
# One view of what is summarized

Whether a summary stands for a message is asked in four places, and each of them asks in its own way. The
statistics go by the level in its tag; a pass and the prompt ask if its tag is active; the trigger goes by
the statistics; and all but the prompt leave out the system's messages. Tags can be read from anywhere and
need not make sense: one can name a summary and have no level. What is asked comes down to the level
alone (`TagStore.isSummarized_eq`), so the four places agree on every store, and on every list of messages
(`summarized_in_one_view`).

Counts are numbers of sixty-four bits. `LevelCounts.of` says what they are counts of.

## Contents
- `TagStore.isSummarized_eq` — all that matters of a tag.
- `LevelCounts.of`, `LevelCounts.total_of` — counts of a list of levels, and how they add up.
- `TagStore.counts_eq`, `count_unsummarized` — the levels that are counted.
- `hiddenIndices_ascending`, `hiddenIndices_continuing`, `filter_hiddenIndices` — what is left out of a
  prompt.
- `TagStore.total_counts`, `TagStore.unsummarizedCount_eq`, `TagStore.summarizedCount_eq` — each count is
  the length of a list.
- `summarized_in_one_view` — four places that agree.
- `odd_tags_in_one_view` — a tag without a level, and one on a system message.
-/

namespace Recap

/-! ## Tags -/

/-- **A summary stands for a message exactly if its tag has a level.** -/
theorem TagStore.isSummarized_eq (tags : TagStore) (m : Message) :
    tags.isSummarized m = (tags.level? m).isSome := by
  unfold isSummarized level?
  cases tags.tag? m.id with
  | none => rfl
  | some t =>
    show (!t.level.isNone) = t.level.isSome
    cases t.level <;> rfl

/-! ## Counts -/

/-- Every message has one of the levels, or none. -/
theorem count_levels (levels : List (Option Level)) :
    levels.count none + levels.count (some .chunk) + levels.count (some .passage)
      + levels.count (some .story) = levels.length := by
  induction levels with
  | nil => rfl
  | cons l levels ih =>
    rw [List.length_cons, ← ih]
    cases l with
    | none => simp; omega
    | some l => cases l <;> simp <;> omega

namespace LevelCounts

/-- The counts of messages with these levels. -/
def of (levels : List (Option Level)) : LevelCounts :=
  { total := .ofNat levels.length
    level0 := .ofNat (levels.count none)
    level1 := .ofNat (levels.count (some .chunk))
    level2 := .ofNat (levels.count (some .passage))
    level3 := .ofNat (levels.count (some .story)) }

/-- One more message is counted once, at its level. -/
theorem of_concat (levels : List (Option Level)) (l : Option Level) :
    of (levels ++ [l]) = (of levels).add l := by
  cases l with
  | none => simp [of, add, List.count_append, UInt64.ofNat_add]
  | some l => cases l <;> simp [of, add, List.count_append, UInt64.ofNat_add]

/-- Counting goes on from what was counted before. -/
theorem foldl_add (counted rest : List (Option Level)) :
    rest.foldl add (of counted) = of (counted ++ rest) := by
  induction rest generalizing counted with
  | nil => rw [List.foldl_nil, List.append_nil]
  | cons l rest ih => rw [List.foldl_cons, ← of_concat, ih, List.append_assoc, List.singleton_append]

/-- The levels add up to the total. -/
theorem total_of (levels : List (Option Level)) :
    (of levels).total
      = (of levels).level0 + (of levels).level1 + (of levels).level2 + (of levels).level3 := by
  show UInt64.ofNat levels.length = .ofNat _ + .ofNat _ + .ofNat _ + .ofNat _
  rw [← UInt64.ofNat_add, ← UInt64.ofNat_add, ← UInt64.ofNat_add, count_levels]

/-- They do so as numbers of any size, where there are no more messages than can be counted. -/
theorem toNat_total_of {levels : List (Option Level)} (h : levels.length < UInt64.size) :
    (of levels).total.toNat = (of levels).level0.toNat + (of levels).level1.toNat
      + (of levels).level2.toNat + (of levels).level3.toNat := by
  have hexact : ∀ l, (UInt64.ofNat (levels.count l)).toNat = levels.count l := fun l =>
    UInt64.toNat_ofNat_of_lt' (Nat.lt_of_le_of_lt List.count_le_length h)
  show (UInt64.ofNat levels.length).toNat = (UInt64.ofNat _).toNat + (UInt64.ofNat _).toNat
    + (UInt64.ofNat _).toNat + (UInt64.ofNat _).toNat
  rw [hexact, hexact, hexact, hexact, count_levels]
  exact UInt64.toNat_ofNat_of_lt' h

end LevelCounts

variable {messages : List Message} {tags : TagStore}

/-- The levels of the messages that are counted. -/
def spokenLevels (messages : List Message) (tags : TagStore) : List (Option Level) :=
  (spoken messages).map fun p => tags.level? p.2

/-- **Counts are those of the spoken messages.** -/
theorem TagStore.counts_eq (tags : TagStore) (messages : List Message) :
    tags.counts messages = .of (spokenLevels messages tags) := by
  have hlevels : spokenLevels messages tags = ((spoken messages).map (·.2)).map tags.level? := by
    rw [List.map_map]
    rfl
  rw [hlevels, map_snd_spoken, counts, ← List.foldl_map]
  exact LevelCounts.foldl_add [] _

/-- **What has no level is what a pass works on.** -/
theorem count_unsummarized (messages : List Message) (tags : TagStore) :
    (spokenLevels messages tags).count none = (workingSet messages tags).length := by
  rw [spokenLevels, workingSet_eq_filter, List.count_eq_countP, List.countP_map,
    List.countP_eq_length_filter]
  congr 2
  funext p
  rw [tags.isSummarized_eq]
  show (tags.level? p.2 == none) = !(tags.level? p.2).isSome
  cases tags.level? p.2 <;> rfl

/-! ## Positions in the prompt -/

/-- A list but for its last element, with positions. -/
theorem zipIdx_dropLast {α : Type} (xs : List α) :
    xs.dropLast.zipIdx = xs.zipIdx.filter (·.2 + 1 < xs.length) := by
  rcases List.eq_nil_or_concat' xs with rfl | ⟨init, last, rfl⟩
  · rfl
  · have hinit : init.zipIdx.filter (·.2 + 1 < (init ++ [last]).length) = init.zipIdx := by
      refine List.filter_eq_self.mpr fun p hp => ?_
      have hlt : p.2 < init.length := by
        have := List.snd_lt_add_of_mem_zipIdx hp
        omega
      simpa using hlt
    rw [List.dropLast_concat, List.zipIdx_append, List.filter_append, hinit]
    simp

/-- **The positions that are left out go up.** -/
theorem hiddenIndices_ascending (messages : List Message) (tags : TagStore) (kind : GenerationKind) :
    (hiddenIndices messages tags kind).Pairwise (· < ·) := by
  unfold hiddenIndices
  rw [List.pairwise_map]
  exact (zipIdx_ascending _).filter _

/-- **Where the last message is continued, it is left in, and no other.** -/
theorem hiddenIndices_continuing (messages : List Message) (tags : TagStore) :
    hiddenIndices messages tags .continuing
      = (hiddenIndices messages tags .normal).filter (· + 1 < messages.length) := by
  unfold hiddenIndices
  rw [List.filter_map, List.filter_filter]
  show List.map _ (messages.dropLast.zipIdx.filter _) = _
  rw [zipIdx_dropLast, List.filter_filter]
  exact congrArg _ (List.filter_congr fun p _ => Bool.and_comm _ _)

/-- What is left out, system messages aside, are the spoken messages that a summary stands for. -/
theorem filter_hiddenIndices (messages : List Message) (tags : TagStore) :
    ((hiddenIndices messages tags .normal).filter fun i => messages[i]?.any (!·.isSystem))
      = ((spoken messages).filter fun p => tags.isSummarized p.2).map (·.1) := by
  unfold hiddenIndices spoken
  rw [List.filter_map, List.filter_filter, List.filter_map, List.filter_filter, List.map_map]
  refine congrArg _ (List.filter_congr fun p hp => ?_)
  have hat : messages[p.2]? = some p.1 := List.mem_zipIdx_iff_getElem?.mp hp
  simp [hat, Bool.and_comm]

/-! ## Four places -/

/-- The spoken messages are those that are counted. -/
theorem length_spoken (messages : List Message) :
    (spoken messages).length = (messages.filter (!·.isSystem)).length := by
  rw [← map_snd_spoken, List.length_map]

namespace TagStore

/-- **All messages but the system's are counted.** -/
theorem total_counts (tags : TagStore) (messages : List Message) :
    (tags.counts messages).total = .ofNat (messages.filter (!·.isSystem)).length := by
  rw [tags.counts_eq, ← length_spoken, ← List.length_map fun p => tags.level? p.2]
  rfl

/-- **Those that no summary stands for are what a pass works on.** -/
theorem unsummarizedCount_eq (tags : TagStore) (messages : List Message) :
    tags.unsummarizedCount messages = .ofNat (workingSet messages tags).length := by
  rw [← count_unsummarized, unsummarizedCount, tags.counts_eq]
  rfl

/-- **The others are left out of the prompt.** -/
theorem summarizedCount_eq (tags : TagStore) (messages : List Message) :
    tags.summarizedCount messages = .ofNat ((hiddenIndices messages tags .normal).filter
      fun i => messages[i]?.any (!·.isSystem)).length := by
  -- the spoken messages are those that a summary stands for and those that a pass works on
  have hparts := List.length_eq_length_filter_add (l := spoken messages)
    (fun p => tags.isSummarized p.2)
  rw [← workingSet_eq_filter, length_spoken] at hparts
  have hunsummarized : (tags.counts messages).level0 = .ofNat (workingSet messages tags).length :=
    tags.unsummarizedCount_eq messages
  rw [summarizedCount, total_counts, hunsummarized, ← UInt64.ofNat_sub (by omega),
    filter_hiddenIndices, List.length_map]
  exact congrArg _ (by omega)

end TagStore

/-- **Four places agree on what is summarized**, whatever the tags and the messages are. The counts by
    level add up to that of all messages but the system's. Those that count as not summarized are the ones
    that a pass works on, so that the trigger goes by their number; those that count as summarized are the
    ones that are left out of the prompt, where the system's can be left out as well. No count is off as
    long as there are fewer than `2^64` messages. The prompt's positions go up, and where the last message
    is continued it is left in. -/
theorem summarized_in_one_view (tags : TagStore) (messages : List Message) :
    let n := tags.counts messages
    let counted := messages.filter (!·.isSystem)
    let working := workingSet messages tags
    let hidden := hiddenIndices messages tags .normal
    let hiddenCounted := hidden.filter fun i => messages[i]?.any (!·.isSystem)
    (n.total = n.level0 + n.level1 + n.level2 + n.level3 ∧ n.total = .ofNat counted.length ∧
      tags.unsummarizedCount messages = .ofNat working.length ∧
      tags.summarizedCount messages = .ofNat hiddenCounted.length) ∧
    (messages.length < UInt64.size →
      n.total.toNat = n.level0.toNat + n.level1.toNat + n.level2.toNat + n.level3.toNat ∧
      n.total.toNat = counted.length ∧
      (tags.unsummarizedCount messages).toNat = working.length ∧
      (tags.summarizedCount messages).toNat = hiddenCounted.length) ∧
    (∀ (c : Config) (chat : Chat), c.isDue { chat with messages } tags
      = (c.enabled && c.autoCompact && c.thresholds.reached (.ofNat working.length)
          chat.maxContextTokens chat.contextTokens)) ∧
    (∀ i m, messages[i]? = some m → m.isSystem = false → ((i, m) ∈ working ↔ i ∉ hidden)) ∧
    (∀ kind, (hiddenIndices messages tags kind).Pairwise (· < ·)) ∧
    hiddenIndices messages tags .continuing = hidden.filter (· + 1 < messages.length) := by
  intro n counted working hidden hiddenCounted
  have htotal : n.total = .ofNat counted.length := tags.total_counts messages
  have hunsummarized : tags.unsummarizedCount messages = .ofNat working.length :=
    tags.unsummarizedCount_eq messages
  have hsummarized : tags.summarizedCount messages = .ofNat hiddenCounted.length :=
    tags.summarizedCount_eq messages
  have hn : n = .of (spokenLevels messages tags) := tags.counts_eq messages
  refine ⟨⟨?_, htotal, hunsummarized, hsummarized⟩, fun hfits => ?_, fun c chat => ?_,
    fun i m hm hspeaks => ?_, hiddenIndices_ascending messages tags,
    hiddenIndices_continuing messages tags⟩
  · rw [hn]
    exact LevelCounts.total_of _
  · -- each count is of spoken messages, and there are no more of these than fit into a number
    have hspoken : (spoken messages).length < UInt64.size := by
      rw [length_spoken]
      exact Nat.lt_of_le_of_lt (List.length_filter_le _ _) hfits
    have hexact : ∀ k ≤ (spoken messages).length, (UInt64.ofNat k).toNat = k := fun k hk =>
      UInt64.toNat_ofNat_of_lt' (Nat.lt_of_le_of_lt hk hspoken)
    refine ⟨?_, ?_, ?_, ?_⟩
    · rw [hn]
      exact LevelCounts.toNat_total_of (by rwa [spokenLevels, List.length_map])
    · rw [htotal]
      exact hexact _ (Nat.le_of_eq (length_spoken messages).symm)
    · rw [hunsummarized]
      refine hexact _ ?_
      rw [show working = _ from workingSet_eq_filter messages tags]
      exact List.length_filter_le _ _
    · rw [hsummarized]
      refine hexact _ ?_
      rw [show hiddenCounted = _ from filter_hiddenIndices messages tags, List.length_map]
      exact List.length_filter_le _ _
  · rw [← hunsummarized]
    rfl
  · -- what a message of the system would add to either side is ruled out by `hspeaks`
    have hhidden : i ∈ hidden ↔ tags.isSummarized m = true := by
      refine mem_hiddenIndices.trans ⟨fun ⟨m', hm', h⟩ => ?_, fun h => ⟨m, hm, h⟩⟩
      rwa [← Option.some.inj (hm'.symm.trans hm)]
    rw [mem_workingSet, hhidden, Bool.not_eq_true]
    exact ⟨fun h => h.2.2, fun h => ⟨hm, hspeaks, h⟩⟩

/-- Tags as they are never written: one that names a summary and has no level, and one on a message of
    the system. -/
def TagStore.odd : TagStore where
  tags := ((SortedMap.empty.insert "a" { Tag.active with summaryId := some "x" }).insert "s"
    (.summarized .chunk "x" 0)).insert "b" (.summarized .story "y" 0)
  swipes := .empty

/-- The first of the three messages is one that a pass would work on, whatever its tag names. The last one
    is counted as summarized; the system's is not, but both are left out of the prompt. -/
theorem odd_tags_in_one_view :
    let messages := Chat.brief.messages
    let n := TagStore.odd.counts messages
    n.total.toNat = 2 ∧
    n.total.toNat = n.level0.toNat + n.level1.toNat + n.level2.toNat + n.level3.toNat ∧
    (TagStore.odd.unsummarizedCount messages).toNat = 1 ∧
    (TagStore.odd.summarizedCount messages).toNat = 1 ∧
    (0, { Message.blank with id := "a" }) ∈ workingSet messages .odd ∧
    hiddenIndices messages .odd .normal = [1, 2] ∧
    hiddenIndices messages .odd .continuing = [1] := by
  intro messages n
  have hhidden : hiddenIndices messages .odd .normal = [1, 2] := by decide
  have hworking : workingSet messages .odd = [(0, { Message.blank with id := "a" })] := by decide
  obtain ⟨-, hexact, -, hplaces, -, hcontinuing⟩ := summarized_in_one_view .odd messages
  obtain ⟨hlevels, htotal, hunsummarized, hsummarized⟩ := hexact (by decide)
  rw [hworking] at hunsummarized
  rw [hhidden] at hsummarized hcontinuing
  refine ⟨htotal, hlevels, hunsummarized, hsummarized, ?_, hhidden, hcontinuing⟩
  rw [hplaces 0 _ rfl rfl, hhidden]
  decide

end Recap
