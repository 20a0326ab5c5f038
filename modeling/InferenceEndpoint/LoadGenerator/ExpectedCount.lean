import InferenceEndpoint.DatasetManager.AgenticLoading
import InferenceEndpoint.LoadGenerator.TurnOutcomes

/-!
# The expected number of samples

`expected_agentic_sample_count` adds up the client turns of the trajectories that a phase will
start, from the counts in the metadata and a copy of the generator.  The strategy groups the
entries of the same metadata by conversation and draws from the generator itself.  The counts
are kept by the text of a conversation id: the sum is that of the issued turns if ids with one
text are one id.
-/

namespace InferenceEndpoint

open AgenticInference (Frame TurnRow RawId LoadedDataset ConversationSampleEntry)

/-- `sum(turn_counts[next(order)] for _ in range(trajectory_count))`; an index out of range
raises. -/
def sumDraws (turnCounts : List Nat) : Nat → SampleOrder → Option Nat
  | 0, _ => some 0
  | trajectories + 1, order =>
      let (index, later) := order.nextSampleIndex
      match turnCounts[index]? with
      | none => none
      | some turns => (sumDraws turnCounts trajectories later).map (turns + ·)

/-- `expected_agentic_sample_count`, and the generator as the call leaves it: only the copy is
drawn from. -/
def expectedAgenticSampleCount (datasetMetadata : AgenticInference.ConversationMetadata)
    (numTrajectoriesToIssue : Option Nat) (rngSampleIndex : Option Shuffler) :
    Option Nat × Option Shuffler :=
  let turnCounts := datasetMetadata.clientTurnsPerConversation.values
  if turnCounts.isEmpty then (some 0, rngSampleIndex)
  else
    let trajectoryCount := numTrajectoriesToIssue.getD turnCounts.length
    let order :=
      match rngSampleIndex with
      | none => SampleOrder.newSequential turnCounts.length
      | some rngCopy => SampleOrder.newWithoutReplacement turnCounts.length rngCopy
    (sumDraws turnCounts trajectoryCount order, rngSampleIndex)

/-- The strategy was made with the entries of the loaded dataset. -/
def AgenticConfig.Reads (config : AgenticConfig)
    (datasetMetadata : AgenticInference.ConversationMetadata) : Prop :=
  config.metadata.samples.map (fun sample =>
      (sample.conversationId, sample.turn, some sample.sampleIndex)) =
    datasetMetadata.samples.map fun entry =>
      (entry.conversationId, entry.turn, entry.sampleIndex)

/-! ## The drawn trajectories -/

/-- The draws from some point on add up. -/
theorem sumDraws_eq {turnCounts : List Nat} (positive : 0 < turnCounts.length)
    (rng : Option Shuffler) (trajectories draws : Nat) :
    sumDraws turnCounts trajectories (SampleOrder.afterDraws rng turnCounts.length draws) =
      some (∑ number ∈ Finset.range trajectories,
        turnCounts.getD (SampleOrder.drawAt rng turnCounts.length (draws + number)) 0) := by
  induction trajectories generalizing draws with
  | zero => rfl
  | succ trajectories ih =>
      have inside := SampleOrder.drawAt_lt positive rng draws
      have drawn : turnCounts[SampleOrder.drawAt rng turnCounts.length draws]? =
          some (turnCounts.getD (SampleOrder.drawAt rng turnCounts.length draws) 0) := by
        rw [List.getD_eq_getElem?_getD, List.getElem?_eq_getElem inside]
        rfl
      rw [sumDraws, SampleOrder.nextSampleIndex_afterDraws positive]
      dsimp only
      rw [drawn]
      dsimp only
      rw [ih (draws + 1), Option.map_some, Finset.sum_range_succ', Nat.add_zero, Nat.add_comm]
      refine congrArg some (congrArg (· + _) (Finset.sum_congr rfl fun number _ => ?_))
      rw [Nat.add_right_comm, Nat.add_assoc]

theorem expected_untouched (datasetMetadata : AgenticInference.ConversationMetadata)
    (numTrajectoriesToIssue : Option Nat) (rng : Option Shuffler) :
    (expectedAgenticSampleCount datasetMetadata numTrajectoriesToIssue rng).2 = rng := by
  unfold expectedAgenticSampleCount
  dsimp only
  rw [apply_ite Prod.snd, ite_self]

/-- What is expected is the sum over the drawn positions. -/
theorem expected_eq (datasetMetadata : AgenticInference.ConversationMetadata)
    (numTrajectoriesToIssue : Option Nat) (rng : Option Shuffler) {turnCounts : List Nat}
    (counts : datasetMetadata.clientTurnsPerConversation.values = turnCounts) :
    (expectedAgenticSampleCount datasetMetadata numTrajectoriesToIssue rng).1 =
      some (∑ number ∈ Finset.range (numTrajectoriesToIssue.getD turnCounts.length),
        turnCounts.getD (SampleOrder.drawAt rng turnCounts.length number) 0) := by
  unfold expectedAgenticSampleCount
  rw [counts]
  cases turnCounts with
  | nil => simp
  | cons first others =>
      have start : (match rng with
          | none => SampleOrder.newSequential (first :: others).length
          | some rngCopy => SampleOrder.newWithoutReplacement (first :: others).length rngCopy) =
          SampleOrder.afterDraws rng (first :: others).length 0 := by
        cases rng <;> rfl
      have nonempty : 0 < (first :: others).length := by simp
      have sum := sumDraws_eq nonempty rng
        (numTrajectoriesToIssue.getD (first :: others).length) 0
      simp only [List.isEmpty_cons, Bool.false_eq_true, if_false, start, sum, Nat.zero_add]

/-- The turns of the instance with the given number. -/
theorem elim_instanceAt? (config : AgenticConfig) (number : Nat) :
    (config.instanceAt? number).elim 0 (·.turns.length) =
      (config.metadata.baseConvs.map (·.2.length)).getD
        (SampleOrder.drawAt config.rngSampleIndex config.metadata.baseConvs.length number) 0 := by
  unfold AgenticConfig.instanceAt?
  dsimp only
  rw [List.getD_eq_getElem?_getD, List.getElem?_map]
  cases config.metadata.baseConvs[SampleOrder.drawAt config.rngSampleIndex
      config.metadata.baseConvs.length number]? with
  | none => rfl
  | some base => rfl

/-! ## The conversations of the strategy -/

theorem convSamples_eq_group (metadata : ConversationMetadata) :
    metadata.convSamples = OrderedDict.group (metadata.samples.map fun sample =>
      (sample.conversationId, (⟨sample.sampleIndex, sample.turn⟩ : ConversationTurn))) := by
  rw [OrderedDict.group, List.foldl_map]
  rfl

/-- The conversations are the ids in the order of their first entry, each with as many turns as
it has entries. -/
theorem baseConvs_lengths (metadata : ConversationMetadata) :
    metadata.baseConvs.map (·.2.length) =
      (OrderedDict.firsts (metadata.samples.map SampleMeta.conversationId)).map
        (metadata.samples.map SampleMeta.conversationId).count := by
  have sizes := OrderedDict.sizes_group (metadata.samples.map fun sample =>
    (sample.conversationId, (⟨sample.sampleIndex, sample.turn⟩ : ConversationTurn)))
  rw [OrderedDict.keys_group, ← convSamples_eq_group, OrderedDict.values, List.map_map,
    List.map_map] at sizes
  rw [ConversationMetadata.baseConvs, List.map_map]
  refine Eq.trans (List.map_congr_left fun conversation _ => ?_) sizes
  exact List.length_insertionSort _ _

/-! ## The counts of the metadata -/

namespace AgenticInference

/-- The number of client turns of a group. -/
def clientTurnsCount (group : String × List TurnRow) : Nat :=
  ((sortByTurn group.2).filter fun row => isClient row.role).length

theorem clientTurns_of_addConversation {group : String × List TurnRow}
    {metadata next : ConversationMetadata} (added : metadata.addConversation group = .ok next) :
    next.clientTurnsPerConversation =
      metadata.clientTurnsPerConversation.insert group.1 (clientTurnsCount group) := by
  obtain ⟨result, built, done⟩ := of_bind_ok added
  have formats := formats_of_buildConversation built
  rw [build_eq formats] at built
  obtain rfl := Except.ok.inj built
  obtain rfl := Except.ok.inj done
  rfl

theorem clientTurns_of_addConversations {groups : List (String × List TurnRow)}
    {metadata last : ConversationMetadata}
    (folded : groups.foldlM ConversationMetadata.addConversation metadata = .ok last) :
    last.clientTurnsPerConversation =
      (groups.map fun group => (group.1, clientTurnsCount group)).foldl
        (fun counts block => counts.insert block.1 block.2)
        metadata.clientTurnsPerConversation := by
  induction groups generalizing metadata with
  | nil =>
      obtain rfl := Except.ok.inj folded
      rfl
  | cons group groups ih =>
      rw [List.foldlM_cons] at folded
      obtain ⟨next, added, rest⟩ := of_bind_ok folded
      rw [ih rest, clientTurns_of_addConversation added]
      rfl

section Loaded

variable {frame : Frame}

/-- With one id for each text, the groups have different texts. -/
theorem texts_nodup (oneId : frame.OneIdPerText) : (frame.groups.map Prod.fst).Nodup := by
  rw [Frame.groups, List.map_map]
  have keys := (OrderedDict.group frame.pairs).nodupKeys
  rw [List.Nodup, List.pairwise_map] at keys
  rw [List.Nodup, List.pairwise_map]
  refine keys.imp_of_mem fun {first second} firstMember secondMember different sameText => ?_
  obtain ⟨firstRow, firstInside, firstSame⟩ := exists_row_of_entry firstMember
  obtain ⟨secondRow, secondInside, secondSame⟩ := exists_row_of_entry secondMember
  apply different
  have texts : first.1.str = second.1.str := sameText
  rw [← firstSame, ← secondSame] at texts ⊢
  exact oneId firstRow firstInside secondRow secondInside texts

theorem clientTurnsCount_pos (accepted : checkFrame frame = .ok ())
    {group : String × List TurnRow} (member : group ∈ frame.groups) :
    0 < clientTurnsCount group := by
  obtain ⟨entry, inside, rfl⟩ := List.mem_map.mp member
  have first := first_mem_turnKeys accepted inside
  have nonempty := List.length_pos_of_mem first
  rw [Frame.turnKeys, List.length_map] at nonempty
  exact nonempty

/-- The ids of the entries, group by group. -/
theorem ids_of_load {loaded : LoadedDataset} (loads : frame.load = .ok loaded) :
    loaded.metadata.samples.map ConversationSampleEntry.conversationId =
      (frame.groups.map fun group => (group.1, clientTurnsCount group)).flatMap fun block =>
        List.replicate block.2 block.1 := by
  have keys := congrArg (List.map Prod.fst) (entries_of_load loads)
  rw [List.map_map] at keys
  refine Eq.trans keys ?_
  rw [Frame.entryKeys, List.map_flatMap, Frame.groups, List.map_map, List.flatMap_map]
  apply List.flatMap_congr
  intro group _
  rw [Frame.turnKeys, List.map_map]
  exact List.map_const'

theorem turnCounts_of_load (oneId : frame.OneIdPerText) {loaded : LoadedDataset}
    (loads : frame.load = .ok loaded) :
    loaded.metadata.clientTurnsPerConversation.values = frame.groups.map clientTurnsCount := by
  obtain ⟨metadata, built, rfl⟩ := exists_of_load loads
  obtain ⟨last, folded, kept⟩ := of_bind_ok built
  have distinct : ((frame.groups.map fun group => (group.1, clientTurnsCount group)).map
      Prod.fst).Nodup := by
    rw [List.map_map]
    exact texts_nodup oneId
  have counts := OrderedDict.values_foldl_insert (∅ : OrderedDict String Nat) distinct (by simp)
  rw [List.map_map] at counts
  cases empty : frame.groups.isEmpty with
  | true =>
      rw [empty] at kept
      cases kept
  | false =>
      rw [empty] at kept
      obtain rfl := Except.ok.inj kept
      exact (congrArg OrderedDict.values (clientTurns_of_addConversations folded)).trans counts

end Loaded

end AgenticInference

open AgenticInference

/-- The strategy finds the conversations that were counted. -/
theorem AgenticConfig.Reads.lengths {config : AgenticConfig} {frame : Frame}
    {loaded : LoadedDataset} (reads : config.Reads loaded.metadata)
    (accepted : checkFrame frame = .ok ()) (loads : frame.load = .ok loaded)
    (oneId : frame.OneIdPerText) :
    config.metadata.baseConvs.map (·.2.length) = frame.groups.map clientTurnsCount := by
  have ids := congrArg (List.map Prod.fst) reads
  rw [List.map_map, List.map_map] at ids
  have blocks : config.metadata.samples.map SampleMeta.conversationId = _ :=
    ids.trans (ids_of_load loads)
  have distinct : ((frame.groups.map fun group => (group.1, clientTurnsCount group)).map
      Prod.fst).Nodup := by
    rw [List.map_map]
    exact texts_nodup oneId
  rw [baseConvs_lengths, blocks, OrderedDict.firsts_blocks distinct, List.map_map, List.map_map]
  · apply List.map_congr_left
    intro group member
    exact OrderedDict.count_blocks distinct
      (List.mem_map_of_mem (f := fun group => (group.1, clientTurnsCount group)) member)
  · intro block member
    obtain ⟨group, inside, rfl⟩ := List.mem_map.mp member
    exact clientTurnsCount_pos accepted inside

namespace AgenticInference

/-- The only turn of a conversation. -/
def userRow (rawId : RawId) : FrameRow where
  rawId := rawId
  row := { conversationId := rawId.str, turn := 1, role := .user, content := some (.text "hello") }
  named := rfl

theorem check_userRow (rawId : RawId) :
    checkStructure (rawId.str, [(userRow rawId).row]) = .ok () ∧
      checkNumbering (rawId.str, [(userRow rawId).row]) = .ok () := by
  refine ⟨?_, checkNumbering_sorted rfl⟩
  unfold checkStructure
  rw [sortByTurn_eq (List.pairwise_singleton _ _)]
  rfl

/-- The frame of the only conversation. -/
def singleFrame : Frame where
  hasColumns := true
  rows := [userRow (.text "conv")]

/-- Two conversations whose ids are printed alike, and a third one. -/
def mixedFrame : Frame where
  hasColumns := true
  rows := [userRow (.number 1), userRow (.text "1"), userRow (.text "chat")]

theorem checkFrame_singleFrame : checkFrame singleFrame = .ok () := by
  have groups : singleFrame.groups = [("conv", [(userRow (.text "conv")).row])] := rfl
  have grouping : (singleFrame.rows.map FrameRow.row).zipIdx.foldlM checkGrouping ([], none) =
      .ok (["conv"], some "conv") := rfl
  have checks : ∀ group ∈ singleFrame.groups,
      checkStructure group = .ok () ∧ checkNumbering group = .ok () := by
    rw [groups]
    exact List.forall_mem_singleton.mpr (check_userRow (.text "conv"))
  unfold checkFrame
  rw [grouping, forM_ok fun group member => (checks group member).1,
    forM_ok fun group member => (checks group member).2]
  rfl

theorem checkFrame_mixedFrame : checkFrame mixedFrame = .ok () := by
  have groups : mixedFrame.groups = [("1", [(userRow (.number 1)).row]),
      ("1", [(userRow (.text "1")).row]), ("chat", [(userRow (.text "chat")).row])] := rfl
  have grouping : (mixedFrame.rows.map FrameRow.row).zipIdx.foldlM checkGrouping ([], none) =
      .ok (["chat", "1"], some "chat") := rfl
  have checks : ∀ group ∈ mixedFrame.groups,
      checkStructure group = .ok () ∧ checkNumbering group = .ok () := by
    rw [groups, List.forall_mem_cons, List.forall_mem_cons, List.forall_mem_singleton]
    exact ⟨check_userRow (.number 1), check_userRow (.text "1"), check_userRow (.text "chat")⟩
  unfold checkFrame
  rw [grouping, forM_ok fun group member => (checks group member).1,
    forM_ok fun group member => (checks group member).2]
  rfl

theorem load_singleFrame : ∃ loaded, singleFrame.load = .ok loaded ∧
    OneTurn.config.Reads loaded.metadata := by
  have sorted := sortByTurn_eq (List.pairwise_singleton _ (userRow (.text "conv")).row)
  have groups : singleFrame.groups = [("conv", [(userRow (.text "conv")).row])] := rfl
  unfold Frame.load Frame.buildMetadata
  rw [groups]
  simp only [List.foldlM_cons, List.foldlM_nil, ConversationMetadata.addConversation,
    buildConversationMetadata, sorted]
  exact ⟨_, rfl, rfl⟩

/-- The strategy over the mixed frame. -/
def mixedConfig : AgenticConfig where
  metadata := { samples := [⟨"1", 1, 1⟩, ⟨"1", 1, 1⟩, ⟨"chat", 1, 2⟩] }

theorem load_mixedFrame : ∃ loaded, mixedFrame.load = .ok loaded ∧
    mixedConfig.Reads loaded.metadata ∧
    loaded.metadata.clientTurnsPerConversation.values = [1, 1] := by
  have sorted : ∀ rawId, sortByTurn [(userRow rawId).row] = [(userRow rawId).row] :=
    fun rawId => sortByTurn_eq (List.pairwise_singleton _ _)
  have groups : mixedFrame.groups = [("1", [(userRow (.number 1)).row]),
      ("1", [(userRow (.text "1")).row]), ("chat", [(userRow (.text "chat")).row])] := rfl
  unfold Frame.load Frame.buildMetadata
  rw [groups]
  simp only [List.foldlM_cons, List.foldlM_nil, ConversationMetadata.addConversation,
    buildConversationMetadata, sorted]
  exact ⟨_, rfl, rfl, rfl⟩

end AgenticInference

end InferenceEndpoint
