import InferenceEndpoint.LoadGenerator.Frames

/-!
# Callbacks are sequences of moves

Each function of the strategy is decomposed into moves, from the innermost
`_issue_turn_now` to the callbacks that the session and the event loop invoke.
The refill recursion is handled by induction on the number of instances that
may still start.
-/

namespace InferenceEndpoint

variable {config : AgenticConfig} {uncollected : Option QueryResult}

open World

/-- A call that may raise: it ends with nothing left to do unless it raised. -/
def CallMoves (config : AgenticConfig) (start : Moment)
    (result : Bool × World) : Prop :=
  Moves config start
    ⟨bif result.1 then .raising else .idle, start.uncollected, result.2⟩

/-- Storing the exception of a call that raised completes the callback. -/
theorem CallMoves.settled {start : Moment} {result : Bool × World}
    (call : CallMoves config start result) :
    Moves config start ⟨.idle, start.uncollected, storeIfRaised result⟩ := by
  obtain ⟨raised, world⟩ := result
  cases raised with
  | true => exact Relation.ReflTransGen.tail call .errorStored
  | false => exact call

theorem moves_signalDone {world : World}
    (stopping : world.strategy.stopping = true) :
    Moves config ⟨.filling, uncollected, world⟩
      ⟨.idle, uncollected, world.signalDoneIfNoInflight⟩ := by
  unfold signalDoneIfNoInflight
  cases noInflight : world.strategy.inflight.isEmpty with
  | true =>
      rw [if_pos rfl]
      exact .single (.completed (Or.inl ⟨stopping, noInflight⟩))
  | false =>
      rw [if_neg Bool.false_ne_true]
      exact .single (.waits (Or.inl ⟨stopping, noInflight⟩))

theorem moves_requestStopIssuing {world : World}
    (configured : config.stopIssuingOnFirstUserComplete = true) :
    Moves config ⟨.filling, uncollected, world⟩
      ⟨.idle, uncollected, world.requestStopIssuing⟩ := by
  unfold requestStopIssuing
  cases stopping : world.strategy.stopping with
  | true =>
      rw [if_pos rfl]
      exact moves_signalDone stopping
  | false =>
      rw [if_neg Bool.false_ne_true]
      exact .head (.issuingStopped configured stopping) (moves_signalDone rfl)

/-! ## Issuing -/

theorem issueTurnNow_moves (config : AgenticConfig)
    (uncollected : Option QueryResult) (world : World) (conversationId : String)
    (turn : ConversationTurn) :
    CallMoves config ⟨.due conversationId turn, uncollected, world⟩
      (world.issueTurnNow config conversationId turn) := by
  have outdated : (world.strategy.stopping = true ∨
      ∀ state, world.strategy.activeIters.get? conversationId = some state →
        state.turns[state.cursor]? ≠ some turn) →
      CallMoves config ⟨.due conversationId turn, uncollected, world⟩
        (false, world.popDelayHandle conversationId) := fun outdated =>
    .single (.stale outdated)
  unfold issueTurnNow
  cases stopping : world.strategy.stopping with
  | true => simpa [popDelayHandle, stopping] using outdated (Or.inl stopping)
  | false =>
  cases active : world.strategy.activeIters.get? conversationId with
  | none =>
      simpa [popDelayHandle, stopping, active] using
        outdated (Or.inr (by simp [active]))
  | some state =>
  by_cases next : state.turns[state.cursor]? = some turn
  · have crash : ∀ result, (result = world.popDelayHandle conversationId ∨
        IssueRaised (world.popDelayHandle conversationId) turn.sampleIndex
          conversationId (some turn.turn) result) →
        CallMoves config ⟨.due conversationId turn, uncollected, world⟩
          (true, result) := fun result effects =>
      .single (.crashed stopping active next effects)
    have unstopped : (world.popDelayHandle conversationId).strategy.stopping = false :=
      stopping
    have stillActive :
        (world.popDelayHandle conversationId).strategy.activeIters.get?
          conversationId = some state := active
    simp only [unstopped, stillActive, next, Bool.false_eq_true, if_false,
      ne_eq, not_true_eq_false]
    cases buildDataOverride config state.sourceId turn.turn state.repeatId with
    | none => exact crash _ (Or.inl rfl)
    | some dataOverride =>
        rcases issue_cases (world.popDelayHandle conversationId).issuer.issuedCount
            (world.popDelayHandle conversationId) turn.sampleIndex dataOverride
            conversationId (some turn.turn) with
          ⟨_, refused⟩ | ⟨result, raised, equal⟩ | ⟨query, prompt, fresh, permitted, issued⟩
        · simp only [refused]
          have request : (((world.popDelayHandle conversationId).afterStopCheck.observe
              (.refused conversationId (some turn.turn))).requestStopIssuing) =
              (((world.popDelayHandle conversationId).afterStopCheck.observe
                (.refused conversationId
                  (some turn.turn))).stopIssuing).signalDoneIfNoInflight := by
            rw [requestStopIssuing, if_neg]
            exact (Bool.not_eq_true _).mpr stopping
          rw [request]
          exact .head (.refused stopping active next) (moves_signalDone rfl)
        · simp only [equal]
          exact crash _ (Or.inr raised)
        · simp only [issued]
          have queryId : query.id = world.nextUuid := fresh
          have move : Move config ⟨.due conversationId turn, uncollected, world⟩
              ⟨.idle, uncollected,
                (((world.popDelayHandle conversationId).afterIssued query prompt
                  turn.sampleIndex conversationId (some turn.turn)).bookTurn query.id
                    conversationId state)⟩ :=
            .issued stopping active next permitted queryId
          rw [fresh] at move
          exact .single move
  · have mismatch : ∀ other,
        world.strategy.activeIters.get? conversationId = some other →
        other.turns[other.cursor]? ≠ some turn := by
      intro other found
      obtain rfl : state = other := by simpa [active] using found
      exact next
    simpa [popDelayHandle, stopping, active, next] using outdated (Or.inr mismatch)

/-! ## Refilling -/

/-- Trajectory instances that may still start. -/
def World.slack (config : AgenticConfig) (world : World) : Nat :=
  world.trajectoryBudget config - world.strategy.startedTrajectoryCount

/-- The refill that a function is given behaves as one, for worlds with less
slack than the bound. -/
def RefillMoves (config : AgenticConfig) (uncollected : Option QueryResult)
    (bound : Nat) (fill : World → World) : Prop :=
  ∀ world : World, world.slack config < bound →
    Moves config ⟨.filling, uncollected, world⟩ ⟨.idle, uncollected, fill world⟩

theorem slack_stopPerformanceTrackingOnce (world : World) :
    world.stopPerformanceTrackingOnce.slack config = world.slack config := by
  unfold stopPerformanceTrackingOnce stopPerformanceTracking
  split
  · rfl
  · dsimp only
    split <;> rfl

theorem finishConversation_moves {bound : Nat} {fill : World → World}
    (fills : RefillMoves config uncollected bound fill) (world : World)
    (conversationId : String) (room : world.slack config < bound) :
    Moves config ⟨.filling, uncollected, world.popActive conversationId⟩
      ⟨.idle, uncollected,
        world.finishConversation config fill conversationId⟩ := by
  have popped : (world.popActive conversationId).slack config < bound := room
  unfold finishConversation
  dsimp only
  split
  · exact fills _ popped
  · refine .head .trackingStopped ?_
    split
    · rename_i configured
      exact moves_requestStopIssuing configured
    · exact fills _ (by rwa [slack_stopPerformanceTrackingOnce])

theorem issueNextTurn_moves {bound : Nat} {fill : World → World}
    (fills : RefillMoves config uncollected bound fill) (world : World)
    (conversationId : String) (room : world.slack config < bound) :
    CallMoves config ⟨.holding conversationId, uncollected, world⟩
      (world.issueNextTurn config fill conversationId) := by
  unfold issueNextTurn
  cases stopping : world.strategy.stopping with
  | true => exact .single (.released (Or.inl stopping))
  | false =>
  simp only [Bool.false_eq_true, if_false]
  cases active : world.strategy.activeIters.get? conversationId with
  | none => exact .single (.released (Or.inr active))
  | some state =>
  dsimp only
  cases next : state.turns[state.cursor]? with
  | none =>
      exact .head (.finished active next)
        (finishConversation_moves fills world conversationId room)
  | some turn =>
      dsimp only
      split
      · exact .single (.delayed stopping active next)
      · exact .head (.becameDue active next)
          (issueTurnNow_moves config uncollected world conversationId turn)

/-- Drawing an instance uses up one unit of slack. -/
theorem slack_of_drawn {world drawn : World} {started : ConversationInstance}
    (draw : world.nextConversationInstance config = some (some (started, drawn))) :
    (drawn.enterInstance started).slack config < world.slack config := by
  obtain ⟨more, order, base, _, _, _, rfl⟩ := nextConversationInstance_eq_some draw
  simp only [hasMoreConversationInstances, hasTrajectoryBudget, Bool.and_eq_true,
    decide_eq_true_eq] at more
  have budget := more.2
  simp only [slack, enterInstance, createConversationState, setActive, countStarted,
    trajectoryBudget] at budget ⊢
  omega

theorem nextConversationInstance_exhausted {world : World}
    (draw : world.nextConversationInstance config = some none) :
    world.hasMoreConversationInstances config = false := by
  unfold nextConversationInstance at draw
  split at draw
  · rename_i more
    simpa using more
  · simp [Option.bind_eq_some_iff] at draw

theorem startConversation_moves {bound : Nat} {fill : World → World}
    (fills : RefillMoves config uncollected bound fill) (world : World)
    (issuing : world.strategy.stopping = false)
    (room : world.slack config ≤ bound)
    (more : world.hasMoreConversationInstances config = true ∨
      world.slack config < bound) :
    CallMoves config ⟨.filling, uncollected, world⟩
      (world.startConversation config fill) := by
  unfold startConversation
  simp only [issuing, Bool.false_eq_true, if_false]
  match draw : world.nextConversationInstance config with
  | none => exact .single (.drawFailed issuing draw)
  | some none =>
      have exhausted := nextConversationInstance_exhausted draw
      exact fills world (more.resolve_left (by simp [exhausted]))
  | some (some (started, drawn)) =>
      have spent := slack_of_drawn draw
      exact .head (.started issuing draw) (issueNextTurn_moves fills
        (drawn.enterInstance started) started.logicalId (by omega))

theorem fillSlot_moves (fuel : Nat) :
    RefillMoves config uncollected fuel (fillSlot config fuel) := by
  induction fuel with
  | zero => intro world room; omega
  | succ fuel fills =>
      intro world room
      unfold fillSlot
      cases stopping : world.strategy.stopping with
      | true => exact moves_signalDone stopping
      | false =>
      simp only [Bool.false_eq_true, if_false]
      cases more : world.hasMoreConversationInstances config with
      | true =>
          simp only [if_true]
          exact (startConversation_moves fills world stopping (by omega)
            (Or.inl more)).settled
      | false =>
          simp only [Bool.false_eq_true, if_false]
          cases work : world.hasWorkRemaining config with
          | true => exact .single (.waits (Or.inr ⟨stopping, more, work⟩))
          | false => exact .single (.completed (Or.inr ⟨stopping, work⟩))

theorem refill_moves (bound : Nat) :
    RefillMoves config uncollected bound (refill config) := by
  intro world _
  exact fillSlot_moves _ world (Nat.lt_succ_self _)

/-- One iteration of the seeding loop. -/
theorem seedIteration_moves (config : AgenticConfig)
    (uncollected : Option QueryResult) (world : World) :
    (world.strategy.stopping = true ∧
      world.startConversation config (refill config) = (false, world)) ∨
    CallMoves config ⟨.filling, uncollected, world⟩
      (world.startConversation config (refill config)) := by
  cases stopping : world.strategy.stopping with
  | true => exact Or.inl ⟨rfl, by simp [startConversation, stopping]⟩
  | false =>
      exact Or.inr (startConversation_moves (refill_moves (world.slack config + 1))
        world stopping (by omega) (Or.inr (by omega)))

/-! ## Failures -/

/-- No query id that was not drawn yet is waited for. -/
def World.InflightDrawn (world : World) : Prop :=
  ∀ queryId, world.nextUuid ≤ queryId →
    world.strategy.inflight.get? queryId = none

theorem publishSyntheticFailure_eq (config : AgenticConfig) {world : World}
    {queryId : QueryId}
    (absent : world.strategy.inflight.get? queryId = none)
    (conversationId : String) (turn : Option Nat) (errorType errorMessage : String) :
    publishSyntheticFailure (onSyntheticFailure config) world queryId
        conversationId turn errorType errorMessage =
      world.recordFailure queryId conversationId turn errorType errorMessage := by
  have unknown : ∀ events : World, events.strategy = world.strategy →
      onSyntheticFailure config events
          (syntheticResult queryId errorType errorMessage) =
        events.observe
          (.collected (syntheticResult queryId errorType errorMessage)) := by
    intro events sameStrategy
    simp [onSyntheticFailure, sessionOnSampleComplete, onSampleComplete,
      sameStrategy, syntheticResult, absent]
  exact unknown _ rfl

theorem markTurnFailed_eq_none {manager : ConversationManager}
    {conversationId : String} :
    manager.markTurnFailed conversationId = none ↔
      manager.get? conversationId = none := by
  unfold ConversationManager.markTurnFailed
  cases manager.get? conversationId <;> simp

theorem markTurnComplete_eq_none {manager : ConversationManager}
    {conversationId : String} :
    manager.markTurnComplete conversationId = none ↔
      manager.get? conversationId = none := by
  unfold ConversationManager.markTurnComplete
  cases manager.get? conversationId <;> simp

theorem skipTurns_moves (config : AgenticConfig)
    (uncollected : Option QueryResult) (reason conversationId : String)
    (turns : List ConversationTurn) (world : World) (drawn : world.InflightDrawn) :
    (∃ final, skipTurns (onSyntheticFailure config) reason conversationId turns
          world = (false, final) ∧
        Moves config ⟨.aborting conversationId turns, uncollected, world⟩
          ⟨.filling, uncollected, final.popActive conversationId⟩) ∨
      ∃ final, skipTurns (onSyntheticFailure config) reason conversationId turns
          world = (true, final) ∧
        Moves config ⟨.aborting conversationId turns, uncollected, world⟩
          ⟨.idle, uncollected, final⟩ := by
  induction turns generalizing world with
  | nil => exact Or.inl ⟨world, rfl, .single .aborted⟩
  | cons turn turns ih =>
      unfold skipTurns
      cases marked : world.manager.markTurnFailed conversationId with
      | none =>
          exact Or.inr ⟨world, rfl, .single
            (.skipUnroutable (markTurnFailed_eq_none.mp marked))⟩
      | some manager =>
          dsimp only
          rcases registerSkipped_cases (world.withManager manager) turn.sampleIndex
              conversationId (some turn.turn) with ⟨_, refused⟩ | ⟨_, skipped⟩
          · rw [withManager] at refused
            simp only [refused]
            exact Or.inl ⟨_, rfl, .single (.skipRefused marked)⟩
          · rw [withManager] at skipped
            simp only [skipped]
            have absent : ((world.withManager manager).afterSkipped turn.sampleIndex
                conversationId (some turn.turn)).strategy.inflight.get?
                  world.nextUuid = none := drawn _ (le_refl _)
            have published := publishSyntheticFailure_eq config absent
              conversationId (some turn.turn) "TurnAbortedByPriorFailure" reason
            rw [withManager] at published
            simp only [published]
            have stillDrawn : ((({ world with manager := manager } : World).afterSkipped
                turn.sampleIndex conversationId (some turn.turn)).recordFailure
                  world.nextUuid conversationId (some turn.turn)
                    "TurnAbortedByPriorFailure" reason).InflightDrawn := by
              intro queryId later
              exact drawn queryId (Nat.le_of_succ_le later)
            rcases ih _ stillDrawn with ⟨final, equal, moves⟩ | ⟨final, equal, moves⟩
            · exact Or.inl ⟨final, equal, .head (.skipped marked) moves⟩
            · exact Or.inr ⟨final, equal, .head (.skipped marked) moves⟩

/-! ## Entry points -/

theorem inflightDrawn_of_subset {world smaller : World} (drawn : world.InflightDrawn)
    (sameUuid : smaller.nextUuid = world.nextUuid)
    (subset : ∀ queryId, world.strategy.inflight.get? queryId = none →
      smaller.strategy.inflight.get? queryId = none) : smaller.InflightDrawn := by
  intro queryId later
  exact subset queryId (drawn queryId (sameUuid ▸ later))

/-- Abort a conversation and finish it, from the moment it was popped. -/
theorem abort_finish_moves (world : World) (conversationId reason : String)
    (remaining : List ConversationTurn)
    (turnsLeft : world.remainingTurns conversationId = remaining)
    (drawn : world.InflightDrawn) :
    Moves config
      ⟨.aborting conversationId remaining, uncollected,
        world.dropConversation conversationId⟩
      ⟨.idle, uncollected,
        match world.abortRemainingTurns (onSyntheticFailure config) conversationId
            reason with
        | (true, aborted) => aborted
        | (false, aborted) =>
            aborted.finishConversation config (refill config) conversationId⟩ := by
  have stillDrawn : (world.dropConversation conversationId).InflightDrawn :=
    inflightDrawn_of_subset drawn (dropConversation_nextUuid world conversationId)
      fun queryId absent => by rw [dropConversation_strategy]; exact absent
  unfold abortRemainingTurns
  rw [turnsLeft]
  rcases skipTurns_moves config uncollected reason conversationId remaining _
      stillDrawn with
    ⟨final, equal, moves⟩ | ⟨final, equal, moves⟩
  · rw [equal]
    exact moves.trans (finishConversation_moves (refill_moves _) final
      conversationId (Nat.lt_succ_self _))
  · rw [equal]
    exact moves

/-- A result that the strategy waits for. -/
theorem receive_waiting_moves {world : World} {result : QueryResult}
    {conversationId : String} (drawn : world.InflightDrawn)
    (waiting : world.strategy.inflight.get? result.id = some conversationId)
    (open_ : result.id ∉ world.issuer.completedUuids)
    (registered : (world.issuer.uuidToIndex.get? result.id).isSome)
    (measured : world.phaseType ≠ .warmup) :
    Moves config ⟨.idle, none, world⟩
      ⟨.idle, none, world.receive config (.result result)⟩ := by
  have stillDrawn : (world.acceptResult result).InflightDrawn := by
    apply inflightDrawn_of_subset drawn (acceptResult_nextUuid world result)
    intro queryId absent
    rw [acceptResult_strategy]
    dsimp only
    rw [OrderedDict.get?_erase]
    split
    · rfl
    · exact absent
  have handled : world.receive config (.result result) =
      (onSampleComplete config (onSyntheticFailure config)
        ((world.observe (.received result)).announceResult
          result).markInflightComplete result).observe (.collected result) := by
    have known : (world.issuer.uuidToIndex.get? result.id).isNone = false := by
      rw [← Option.not_isSome, registered]
      rfl
    simp [receive, handleResult, announceResult, open_, known, popConvInfo, observe,
      measured, onSampleCompleteCallback, onSyntheticFailure,
      sessionOnSampleComplete]
  rw [handled]
  refine .tail ?_ .collected
  have sameManager : (((((world.observe (.received result)).announceResult
      result).markInflightComplete).popInflight result.id).popTimeoutHandle
        result.id).manager = world.manager := acceptResult_manager world result
  have found : (((world.observe (.received result)).announceResult
      result).markInflightComplete).strategy.inflight.get? result.id =
        some conversationId := by
    simpa [observe, announceResult, popConvInfo] using waiting
  unfold onSampleComplete
  simp only [found]
  cases failed : result.error with
  | some error =>
      dsimp only
      rw [sameManager]
      cases marked : world.manager.markTurnFailed conversationId with
      | none =>
          exact .head (.unroutable waiting open_ registered measured
              (markTurnFailed_eq_none.mp marked))
            (refill_moves _ _ (Nat.lt_succ_self _))
      | some manager =>
          refine .head (.rejected waiting open_ registered measured
            (by simp [failed]) marked) ?_
          refine abort_finish_moves ((world.acceptResult result).withManager manager)
            conversationId _ _ ?_ stillDrawn
          rw [remainingTurns, withManager, acceptResult_strategy, remainingTurns]
  | none =>
      dsimp only
      rw [sameManager]
      cases marked : world.manager.markTurnComplete conversationId with
      | none =>
          exact .head (.unroutable waiting open_ registered measured
              (markTurnComplete_eq_none.mp marked))
            (refill_moves _ _ (Nat.lt_succ_self _))
      | some manager =>
          have stopping : ((world.acceptResult result).withManager
              manager).strategy.stopping = world.strategy.stopping := by
            rw [withManager, acceptResult_strategy]
          have move : Move config ⟨.idle, none, world⟩
              ⟨if world.strategy.stopping then .filling else .holding conversationId,
                some result, (world.acceptResult result).withManager manager⟩ :=
            .answered waiting open_ registered measured failed marked
          change Moves config _ ⟨.idle, some result,
            if ((world.acceptResult result).withManager manager).strategy.stopping
            then ((world.acceptResult result).withManager
              manager).signalDoneIfNoInflight
            else storeIfRaised (((world.acceptResult result).withManager
              manager).issueNextTurn config (refill config) conversationId)⟩
          rw [stopping]
          cases stopped : world.strategy.stopping with
          | true =>
              rw [stopped, if_pos rfl] at move
              exact .head move (moves_signalDone (stopping.trans stopped))
          | false =>
              rw [stopped, if_neg Bool.false_ne_true] at move
              exact .head move (issueNextTurn_moves (refill_moves _)
                ((world.acceptResult result).withManager manager) conversationId
                (Nat.lt_succ_self _)).settled

/-- A scheduled callback of the strategy. -/
theorem fireTimer_moves {world next : World} {handle : TimerHandle}
    (drawn : world.InflightDrawn)
    (fires : world.fireTimer config handle = some next) :
    Moves config ⟨.idle, none, world⟩ ⟨.idle, none, next⟩ := by
  obtain ⟨callback, scheduled, rfl⟩ := Option.map_eq_some_iff.mp fires
  cases callback with
  | issueTurnNowSafely conversationId turn =>
      exact .head (.delayElapsed scheduled)
        (issueTurnNow_moves config none (world.cancelTimer handle) conversationId
          turn).settled
  | handleTimeout queryId conversationId =>
      dsimp only
      unfold handleTimeout
      have sameInflight : (world.cancelTimer handle).strategy.inflight =
          world.strategy.inflight := rfl
      rw [sameInflight]
      cases waiting : world.strategy.inflight.get? queryId with
      | none => exact .single (.expired scheduled waiting)
      | some waitingId =>
      simp only [Option.isNone_some, Bool.false_eq_true, if_false]
      have sameManager : ((((world.cancelTimer handle).popInflight
          queryId).forgetTimeoutHandle queryId).terminateQuery queryId).2.manager =
            world.manager := by
        simp [popInflight, forgetTimeoutHandle, cancelTimer]
      rw [sameManager]
      cases marked : world.manager.markTurnFailed conversationId with
      | none =>
          exact .single (.timeoutUnroutable scheduled waiting
            (markTurnFailed_eq_none.mp marked))
      | some manager =>
      dsimp only
      have absent : (((world.cancelTimer handle).expireQuery queryId).withManager
          manager).strategy.inflight.get? queryId = none := by
        rw [withManager, expireQuery_strategy]
        exact OrderedDict.get?_erase_self _ _
      have published := publishSyntheticFailure_eq config absent
        ((((world.cancelTimer handle).popInflight queryId).forgetTimeoutHandle
          queryId).terminateQuery queryId).1.1
        ((((world.cancelTimer handle).popInflight queryId).forgetTimeoutHandle
          queryId).terminateQuery queryId).1.2 "TurnTimeout"
        ("turn timeout after " ++ config.turnTimeoutText ++ "s")
      rw [withManager, expireQuery] at published
      rw [published]
      refine .head (.timedOut scheduled waiting marked) ?_
      rw [terminateQuery_fst]
      refine abort_finish_moves (((((world.cancelTimer handle).expireQuery
        queryId).withManager manager).recordTimeout config queryId _))
        conversationId _ _ ?_ ?_
      · rw [remainingTurns, recordTimeout, recordFailure, observe, publish, publish,
          observe, observe, withManager, expireQuery_strategy, remainingTurns]
        rfl
      · refine inflightDrawn_of_subset drawn
          (expireQuery_nextUuid (world.cancelTimer handle) queryId) ?_
        intro other none_
        rw [recordTimeout, recordFailure, observe, publish, publish, observe,
          observe, withManager, expireQuery_strategy]
        dsimp only
        rw [OrderedDict.get?_erase]
        split
        · rfl
        · exact none_

/-! ## Responses that do not concern the strategy -/

/-- What the session does with a response that the strategy does not wait
for. -/
inductive Notice (world : World) : Response → World → Prop
  /-- A result of a query that was already terminated in this phase. -/
  | late {result : QueryResult}
      (sent : result.id ∈ world.sentIds)
      (unreceived : result.id ∉ world.receivedIds)
      (terminated : result.id ∈ world.issuer.completedUuids) :
      Notice world (.result result) (world.observe (.received result))
  /-- A result of a query of an earlier phase. -/
  | foreign {result : QueryResult}
      (sent : result.id ∈ world.sentIds)
      (unreceived : result.id ∉ world.receivedIds)
      (open_ : result.id ∉ world.issuer.completedUuids)
      (unregistered : world.issuer.uuidToIndex.get? result.id = none) :
      Notice world (.result result)
        ((world.observe (.received result)).announceResult result)
  /-- A result while warming up. -/
  | unmeasured {result : QueryResult}
      (sent : result.id ∈ world.sentIds)
      (unreceived : result.id ∉ world.receivedIds)
      (open_ : result.id ∉ world.issuer.completedUuids)
      (registered : (world.issuer.uuidToIndex.get? result.id).isSome)
      (warmup : world.phaseType = .warmup) :
      Notice world (.result result)
        ((world.observe (.received result)).announceResult result).markInflightComplete
  /-- A result that the strategy does not wait for. -/
  | untracked {result : QueryResult}
      (sent : result.id ∈ world.sentIds)
      (unreceived : result.id ∉ world.receivedIds)
      (open_ : result.id ∉ world.issuer.completedUuids)
      (registered : (world.issuer.uuidToIndex.get? result.id).isSome)
      (measured : world.phaseType ≠ .warmup)
      (notWaiting : world.strategy.inflight.get? result.id = none) :
      Notice world (.result result)
        ((((world.observe (.received result)).announceResult
          result).markInflightComplete).observe (.collected result))
  | chunk {chunk : StreamChunk} :
      Notice world (.chunk chunk) (world.handleChunk chunk)

/-- A response is a sequence of moves if the strategy waits for it, and a
notice otherwise. -/
theorem receive_cases (config : AgenticConfig) {world : World} (drawn : world.InflightDrawn)
    {response : Response} (deliverable : world.deliverable response = true) :
    (∃ queryId conversationId,
        world.strategy.inflight.get? queryId = some conversationId ∧
          Moves config ⟨.idle, none, world⟩
            ⟨.idle, none, world.receive config response⟩) ∨
      Notice world response (world.receive config response) := by
  cases response with
  | chunk chunk => exact Or.inr .chunk
  | result result =>
  obtain ⟨sent, unreceived⟩ : result.id ∈ world.sentIds ∧
      result.id ∉ world.receivedIds := by
    simpa [World.deliverable] using deliverable
  by_cases terminated : result.id ∈ world.issuer.completedUuids
  · right
    have handled : world.receive config (.result result) =
        world.observe (.received result) := by
      simp [receive, handleResult, observe, terminated]
    rw [handled]
    exact .late sent unreceived terminated
  cases registered : world.issuer.uuidToIndex.get? result.id with
  | none =>
      right
      have handled : world.receive config (.result result) =
          (world.observe (.received result)).announceResult result := by
        simp [receive, handleResult, announceResult, observe, terminated, popConvInfo, registered]
      rw [handled]
      exact .foreign sent unreceived terminated registered
  | some index =>
  have known : (world.issuer.uuidToIndex.get? result.id).isSome := by
    simp [registered]
  by_cases warmup : world.phaseType = .warmup
  · right
    have handled : world.receive config (.result result) =
        ((world.observe (.received result)).announceResult
          result).markInflightComplete := by
      simp [receive, handleResult, announceResult, observe, terminated, popConvInfo, registered,
        warmup]
    rw [handled]
    exact .unmeasured sent unreceived terminated known warmup
  cases waiting : world.strategy.inflight.get? result.id with
  | some conversationId =>
      exact Or.inl ⟨result.id, conversationId, waiting,
        receive_waiting_moves drawn waiting terminated known warmup⟩
  | none =>
      right
      have handled : world.receive config (.result result) =
          (((world.observe (.received result)).announceResult
            result).markInflightComplete).observe (.collected result) := by
        simp [receive, handleResult, announceResult, observe, terminated, popConvInfo, registered,
          warmup, waiting, onSampleCompleteCallback, sessionOnSampleComplete,
          onSampleComplete]
      rw [handled]
      exact .untracked sent unreceived terminated known warmup waiting

end InferenceEndpoint
