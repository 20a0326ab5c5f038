import InferenceEndpoint.Library.BlockDraws
import InferenceEndpoint.LoadGenerator.Instances

/-!
# Balanced draws

`_next_conversation_instance` takes the conversation from an order with a cursor of its own and
the repeat id from the number of trajectories started so far.  The two stay aligned: the
trajectories of one `execute` have different salt identities, no conversation is ahead of
another by more than one, and the repeat ids of a conversation count its trajectories.
-/

namespace InferenceEndpoint

open World

namespace SampleOrder

/-- Both permutation orders draw in blocks. -/
theorem blockDraws {nSamples : Nat} (positive : 0 < nSamples) (rng : Option Shuffler) :
    BlockDraws nSamples (drawAt rng nSamples) :=
  ⟨drawAt_lt positive rng, drawAt_injective_in_block positive rng⟩

end SampleOrder

namespace World

/-- Nothing that a draw reads has changed. -/
structure SameDraws (first second : World) : Prop where
  baseConvs : second.strategy.baseConvs = first.strategy.baseConvs
  order : second.strategy.conversationOrder = first.strategy.conversationOrder
  started : second.strategy.startedTrajectoryCount = first.strategy.startedTrajectoryCount

end World

/-- The worlds that one `execute` comes through, with the trajectory instances drawn so far.
Between two draws the rest of the world changes as it likes. -/
inductive Drawing (config : AgenticConfig) : World → List ConversationInstance → Prop
  | reset (world : World) : Drawing config (world.resetStrategy config) []
  | draw {world next : World} {drawn : List ConversationInstance}
      {started : ConversationInstance} (before : Drawing config world drawn)
      (draw : world.nextConversationInstance config = some (some (started, next))) :
      Drawing config next (drawn ++ [started])
  | between {world next : World} {drawn : List ConversationInstance}
      (before : Drawing config world drawn) (same : world.SameDraws next) :
      Drawing config next drawn

variable {config : AgenticConfig}

/-- The order and the counter agree with the number of draws. -/
structure Aligned (config : AgenticConfig) (world : World) (drawn : List ConversationInstance) :
    Prop where
  baseConvs : world.strategy.baseConvs = config.metadata.baseConvs
  order : config.metadata.baseConvs ≠ [] →
    world.strategy.conversationOrder = some (SampleOrder.afterDraws config.rngSampleIndex
      config.metadata.baseConvs.length drawn.length)
  started : world.strategy.startedTrajectoryCount = drawn.length
  instances : drawn.map some = (List.range drawn.length).map config.instanceAt?

namespace Aligned

variable {world next : World} {drawn : List ConversationInstance}

theorem reset (config : AgenticConfig) (world : World) :
    Aligned config (world.resetStrategy config) [] := by
  refine ⟨rfl, fun nonempty => ?_, rfl, rfl⟩
  have positive : config.metadata.baseConvs.length ≠ 0 := by simpa using nonempty
  change makeConversationOrder config config.metadata.baseConvs.length = some _
  rw [makeConversationOrder, if_neg positive]
  cases rng : config.rngSampleIndex with
  | none => rfl
  | some shuffler => rfl

theorem draw (aligned : Aligned config world drawn) {started : ConversationInstance}
    (draw : world.nextConversationInstance config = some (some (started, next))) :
    Aligned config next (drawn ++ [started]) := by
  obtain ⟨more, order, base, ordered, found, rfl, rfl⟩ := nextConversationInstance_eq_some draw
  rw [aligned.baseConvs] at found
  have positive : 0 < config.metadata.baseConvs.length :=
    List.length_pos_of_mem (List.mem_of_getElem? found)
  obtain rfl := Option.some.inj
    ((aligned.order (List.length_pos_iff.mp positive)).symm.trans ordered)
  have advanced := SampleOrder.nextSampleIndex_afterDraws positive config.rngSampleIndex
    drawn.length
  rw [advanced] at found
  have number : config.instanceAt? drawn.length =
      some (makeInstance world.strategy.baseConvs.length
        world.strategy.startedTrajectoryCount base) := by
    rw [AgenticConfig.instanceAt?, aligned.baseConvs, aligned.started]
    dsimp only at found ⊢
    rw [found]
    rfl
  refine ⟨aligned.baseConvs, fun _ => ?_, ?_, ?_⟩
  · rw [List.length_append, advanced]
    rfl
  · change world.strategy.startedTrajectoryCount + 1 = _
    rw [aligned.started, List.length_append]
    rfl
  · rw [List.length_append, List.length_singleton, List.range_succ, List.map_append,
      List.map_append, aligned.instances, List.map_singleton, List.map_singleton, number]

theorem between (aligned : Aligned config world drawn) (same : world.SameDraws next) :
    Aligned config next drawn :=
  ⟨same.baseConvs.trans aligned.baseConvs,
    fun nonempty => same.order.trans (aligned.order nonempty),
    same.started.trans aligned.started, aligned.instances⟩

/-- With budget left the next draw succeeds. -/
theorem exists_draw (aligned : Aligned config world drawn)
    (more : world.hasMoreConversationInstances config = true) :
    ∃ started next, world.nextConversationInstance config = some (some (started, next)) := by
  have nonempty : config.metadata.baseConvs ≠ [] := by
    unfold hasMoreConversationInstances at more
    rw [aligned.baseConvs, Bool.and_eq_true, Bool.not_eq_true', List.isEmpty_eq_false_iff] at more
    exact more.1
  have positive : 0 < config.metadata.baseConvs.length := List.length_pos_iff.mpr nonempty
  have inside := SampleOrder.drawAt_lt positive config.rngSampleIndex drawn.length
  have advanced := SampleOrder.nextSampleIndex_afterDraws positive config.rngSampleIndex
    drawn.length
  have notDone : ¬(!world.hasMoreConversationInstances config) = true := by simp [more]
  unfold nextConversationInstance
  rw [if_neg notDone, aligned.order nonempty, Option.bind_some, advanced, aligned.baseConvs,
    List.getElem?_eq_getElem inside]
  exact ⟨_, _, rfl⟩

end Aligned

theorem Drawing.aligned {world : World} {drawn : List ConversationInstance}
    (drawing : Drawing config world drawn) : Aligned config world drawn := by
  induction drawing with
  | reset world => exact Aligned.reset config world
  | draw _ draw ih => exact ih.draw draw
  | between _ same ih => exact ih.between same

/-! ## The first instances -/

/-- These are the instances with the first numbers. -/
def Enumerated (config : AgenticConfig) (drawn : List ConversationInstance) : Prop :=
  drawn.map some = (List.range drawn.length).map config.instanceAt?

namespace Enumerated

variable {drawn : List ConversationInstance}

theorem of_prefix (enumerated : Enumerated config drawn) {before : List ConversationInstance}
    (isPrefix : before <+: drawn) : Enumerated config before := by
  obtain ⟨rest, rfl⟩ := isPrefix
  have taken := congrArg (List.take before.length) enumerated
  rw [List.map_append, List.take_left' (List.length_map _), ← List.map_take, List.take_range,
    List.length_append, Nat.min_eq_left (Nat.le_add_right _ _)] at taken
  exact taken

theorem instanceAt? (enumerated : Enumerated config drawn) {number : Nat}
    (inside : number < drawn.length) : config.instanceAt? number = some drawn[number] := by
  have here := congrArg (fun instances => instances[number]?) enumerated
  simpa [inside] using here.symm

theorem last {started : ConversationInstance}
    (enumerated : Enumerated config (drawn ++ [started])) :
    config.instanceAt? drawn.length = some started := by
  have inside : drawn.length < (drawn ++ [started]).length := by simp
  simpa using enumerated.instanceAt? inside

/-- The instances of a conversation are those whose number draws it. -/
theorem repeatIds (enumerated : Enumerated config drawn) {index : Nat}
    {base : String × List ConversationTurn} (placed : config.metadata.baseConvs[index]? = some base) :
    (drawn.filter fun started => started.sourceId = base.1).map ConversationInstance.repeatId =
      (BlockDraws.numbers
        (SampleOrder.drawAt config.rngSampleIndex config.metadata.baseConvs.length) index
          drawn.length).map fun number => number / config.metadata.baseConvs.length + 1 := by
  induction drawn using List.reverseRecOn with
  | nil => rfl
  | append_singleton before started ih =>
      obtain ⟨other, found, made⟩ := Option.map_eq_some_iff.mp enumerated.last
      have earlier := ih (enumerated.of_prefix (List.prefix_append before [started]))
      have same : started.sourceId = base.1 ↔
          SampleOrder.drawAt config.rngSampleIndex config.metadata.baseConvs.length
            before.length = index := by
        rw [← made]
        constructor
        · intro sameId
          have inside : index < (config.metadata.baseConvs.map Prod.fst).length := by
            rw [List.length_map]
            exact (List.getElem?_eq_some_iff.mp placed).1
          refine ((List.getElem?_inj inside (baseConvs_nodup config.metadata)).mp ?_).symm
          rw [List.getElem?_map, List.getElem?_map, placed, found]
          exact congrArg some sameId.symm
        · intro sameIndex
          rw [sameIndex, placed] at found
          exact congrArg Prod.fst (Option.some.inj found).symm
      rw [List.filter_append, List.map_append, earlier, List.length_append, List.length_singleton,
        BlockDraws.numbers_succ, List.map_append]
      by_cases here : started.sourceId = base.1
      · rw [if_pos (same.mp here)]
        have repeatId : started.repeatId =
            before.length / config.metadata.baseConvs.length + 1 := by
          rw [← made]
          rfl
        simp [here, repeatId]
      · rw [if_neg (fun drawnHere => here (same.mpr drawnHere))]
        simp [here]

/-- No two instances have the same salt identity. -/
theorem nodup_pairs (enumerated : Enumerated config drawn) :
    (drawn.map fun started => (started.sourceId, started.repeatId)).Nodup := by
  rw [List.nodup_iff_injective_getElem]
  rintro ⟨first, firstInside⟩ ⟨second, secondInside⟩ same
  rw [List.length_map] at firstInside secondInside
  simp only [List.getElem_map, Prod.mk.injEq] at same
  apply Fin.ext
  exact instanceAt?_determined (enumerated.instanceAt? firstInside)
    (enumerated.instanceAt? secondInside) same.1 same.2

theorem blockDraws {base : String × List ConversationTurn}
    (member : base ∈ config.metadata.baseConvs) :
    BlockDraws config.metadata.baseConvs.length
      (SampleOrder.drawAt config.rngSampleIndex config.metadata.baseConvs.length) :=
  SampleOrder.blockDraws (List.length_pos_of_mem member) config.rngSampleIndex

/-- How many instances a conversation has. -/
theorem countP_source (enumerated : Enumerated config drawn)
    {base : String × List ConversationTurn} (member : base ∈ config.metadata.baseConvs) :
    drawn.length / config.metadata.baseConvs.length ≤
        drawn.countP (fun started => started.sourceId = base.1) ∧
      drawn.countP (fun started => started.sourceId = base.1) ≤
        drawn.length / config.metadata.baseConvs.length + 1 := by
  obtain ⟨index, placed⟩ := List.mem_iff_getElem?.mp member
  have lengths := congrArg List.length (enumerated.repeatIds placed)
  rw [List.length_map, List.length_map, ← List.countP_eq_length_filter] at lengths
  rw [lengths]
  exact (blockDraws member).length_numbers (List.getElem?_eq_some_iff.mp placed).1 drawn.length

theorem repeatIds_eq (enumerated : Enumerated config drawn)
    {base : String × List ConversationTurn} (member : base ∈ config.metadata.baseConvs) :
    (drawn.filter fun started => started.sourceId = base.1).map ConversationInstance.repeatId =
      List.range' 1 (drawn.countP fun started => started.sourceId = base.1) := by
  obtain ⟨index, placed⟩ := List.mem_iff_getElem?.mp member
  have ids := enumerated.repeatIds placed
  have lengths := congrArg List.length ids
  rw [List.length_map, List.length_map, ← List.countP_eq_length_filter] at lengths
  have blocks := (blockDraws member).blocks_numbers (List.getElem?_eq_some_iff.mp placed).1
    drawn.length
  calc (drawn.filter fun started => started.sourceId = base.1).map ConversationInstance.repeatId
      = ((BlockDraws.numbers (SampleOrder.drawAt config.rngSampleIndex
          config.metadata.baseConvs.length) index drawn.length).map
            (· / config.metadata.baseConvs.length)).map (· + 1) := by
        rw [ids, List.map_map]
        rfl
    _ = (List.range (drawn.countP fun started => started.sourceId = base.1)).map (· + 1) := by
        rw [blocks, lengths]
    _ = List.range' 1 (drawn.countP fun started => started.sourceId = base.1) := by
        rw [List.range'_eq_map_range]
        exact List.map_congr_left fun number _ => Nat.add_comm number 1

end Enumerated

/-- The trajectories of one `execute`: different salt identities, conversations never apart by
more than one, and repeat ids that count. -/
theorem trajectory_draws_balanced {world : World} {drawn : List ConversationInstance}
    (drawing : Drawing config world drawn) :
    (drawn.map fun started => (started.sourceId, started.repeatId)).Nodup ∧
    (∀ before, before <+: drawn → ∀ one ∈ config.metadata.baseConvs,
      ∀ other ∈ config.metadata.baseConvs,
        before.countP (fun started => started.sourceId = one.1) ≤
          before.countP (fun started => started.sourceId = other.1) + 1) ∧
    ∀ base ∈ config.metadata.baseConvs,
      (drawn.filter fun started => started.sourceId = base.1).map
          ConversationInstance.repeatId =
        List.range' 1 (drawn.countP fun started => started.sourceId = base.1) := by
  have enumerated : Enumerated config drawn := drawing.aligned.instances
  refine ⟨enumerated.nodup_pairs, fun before isPrefix one oneMember other otherMember => ?_,
    fun base member => enumerated.repeatIds_eq member⟩
  have first := (enumerated.of_prefix isPrefix).countP_source oneMember
  have second := (enumerated.of_prefix isPrefix).countP_source otherMember
  omega

/-- Two conversations, of which the first one is drawn twice. -/
def threeTrajectories : AgenticConfig where
  metadata := { samples := [⟨"first", 1, 0⟩, ⟨"second", 1, 1⟩] }
  numTrajectoriesToIssue := some 3

theorem trajectory_draws_balanced_three :
    ∃ world drawn, Drawing threeTrajectories world drawn ∧ drawn.length = 3 ∧
      ((drawn.filter fun started => started.sourceId = "first").map
        ConversationInstance.repeatId) = [1, 2] := by
  have drawing : Drawing threeTrajectories _ _ :=
    .draw (.draw (.draw (.reset OneTurn.start.world) rfl) rfl) rfl
  exact ⟨_, _, drawing, rfl,
    (trajectory_draws_balanced drawing).2.2 ("first", [⟨0, 1⟩]) (by decide)⟩

/-! ## The draws of the callbacks -/

namespace World

theorem sameDraws_acceptResult (world : World) (result : QueryResult) :
    world.SameDraws (world.acceptResult result) := by
  constructor <;> rw [acceptResult_strategy]

theorem sameDraws_expireQuery (world : World) (queryId : QueryId) :
    world.SameDraws (world.expireQuery queryId) := by
  constructor <;> rw [expireQuery_strategy]

theorem sameDraws_dropConversation (world : World) (conversationId : String) :
    world.SameDraws (world.dropConversation conversationId) := by
  constructor <;> rw [dropConversation_strategy]

theorem sameDraws_stopPerformanceTrackingOnce (world : World) :
    world.SameDraws world.stopPerformanceTrackingOnce := by
  constructor <;> rw [stopPerformanceTrackingOnce_strategy]

theorem SameDraws.trans {first second third : World} (left : first.SameDraws second)
    (right : second.SameDraws third) : first.SameDraws third :=
  ⟨right.baseConvs.trans left.baseConvs, right.order.trans left.order,
    right.started.trans left.started⟩

end World

/-- A move of a callback draws the next instance or leaves everything alone that a draw reads. -/
theorem Move.draws {first second : Moment} (move : Move config first second) :
    first.world.SameDraws second.world ∨
      ∃ started drawn,
        first.world.nextConversationInstance config = some (some (started, drawn)) ∧
          drawn.SameDraws second.world := by
  cases move with
  | started issuing draw => exact Or.inr ⟨_, _, draw, rfl, rfl, rfl⟩
  | @answered world result _ manager =>
      have accepted := sameDraws_acceptResult world result
      exact Or.inl ⟨accepted.baseConvs, accepted.order, accepted.started⟩
  | @rejected world result conversationId manager =>
      have accepted := sameDraws_acceptResult world result
      have managed : world.SameDraws ((world.acceptResult result).withManager manager) :=
        ⟨accepted.baseConvs, accepted.order, accepted.started⟩
      exact Or.inl (managed.trans (sameDraws_dropConversation _ conversationId))
  | @unroutable world result =>
      have accepted := sameDraws_acceptResult world result
      exact Or.inl ⟨accepted.baseConvs, accepted.order, accepted.started⟩
  | @timedOut world handle queryId conversationId waitingId manager =>
      have expired := sameDraws_expireQuery (world.cancelTimer handle) queryId
      have recorded : world.SameDraws ((((world.cancelTimer handle).expireQuery
          queryId).withManager manager).recordTimeout config queryId
            (if (world.issuer.uuidToIndex.get? queryId).isSome then world.convInfo queryId
              else ("", none))) :=
        ⟨expired.baseConvs, expired.order, expired.started⟩
      exact Or.inl (recorded.trans (sameDraws_dropConversation _ conversationId))
  | @timeoutUnroutable world handle queryId =>
      have expired := sameDraws_expireQuery (world.cancelTimer handle) queryId
      exact Or.inl ⟨expired.baseConvs, expired.order, expired.started⟩
  | @crashed _ world next conversationId _ _ _ _ _ effects =>
      have strategy : next.strategy = (world.popDelayHandle conversationId).strategy := by
        rcases effects with rfl | raised
        · rfl
        · cases raised with
          | unregistered | unannounced | unsent => rfl
      have same : world.SameDraws next := by
        constructor <;> rw [strategy] <;> rfl
      exact Or.inl same
  | @trackingStopped _ world => exact Or.inl (sameDraws_stopPerformanceTrackingOnce world)
  | _ => exact Or.inl ⟨rfl, rfl, rfl⟩

/-- A callback continues the draws of the `execute` it belongs to. -/
theorem Drawing.moves {first second : Moment} {drawn : List ConversationInstance}
    (drawing : Drawing config first.world drawn) (moves : Moves config first second) :
    ∃ more, Drawing config second.world (drawn ++ more) := by
  induction moves with
  | refl => exact ⟨[], by simpa using drawing⟩
  | tail _ move ih =>
      obtain ⟨more, before⟩ := ih
      obtain same | ⟨started, next, draw, same⟩ := move.draws
      · exact ⟨more, before.between same⟩
      · refine ⟨more ++ [started], ?_⟩
        rw [← List.append_assoc]
        exact (before.draw draw).between same

/-- What `execute` draws before its first `await`. -/
theorem executeStart_drawing (config : AgenticConfig) (world : World) :
    ∃ drawn, Drawing config (world.executeStart config).2 drawn := by
  refine executeStart_rule config (fun world => ∃ drawn, Drawing config world drawn)
    (fun world control next drawing moves => ?_) (fun world drawing => ?_) world
    ⟨[], .reset world⟩
  · obtain ⟨drawn, drawing⟩ := drawing
    obtain ⟨more, after⟩ := drawing.moves moves
    exact ⟨drawn ++ more, after⟩
  · obtain ⟨drawn, drawing⟩ := drawing
    have same : world.SameDraws world.cleanUp := by
      unfold World.cleanUp
      dsimp only
      rw [cancelTimers_eq, cancelTimers_eq]
      exact ⟨rfl, rfl, rfl⟩
    exact ⟨drawn, drawing.between same⟩

end InferenceEndpoint
