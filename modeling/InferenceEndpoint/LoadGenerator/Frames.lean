import InferenceEndpoint.LoadGenerator.AgenticMoves

/-!
# Frames

What the operations on worlds leave unchanged.  Most operations update one
record, so their frames hold by definition; this file states those of the
operations that branch, field by field, so that later proofs never unfold
them.
-/

namespace InferenceEndpoint

namespace World

/-! ## Counting a result -/

@[simp]
theorem markInflightComplete_strategy (world : World) :
    world.markInflightComplete.strategy = world.strategy := by
  unfold markInflightComplete
  split <;> rfl

@[simp]
theorem markInflightComplete_manager (world : World) :
    world.markInflightComplete.manager = world.manager := by
  unfold markInflightComplete
  split <;> rfl

@[simp]
theorem markInflightComplete_nextUuid (world : World) :
    world.markInflightComplete.nextUuid = world.nextUuid := by
  unfold markInflightComplete
  split <;> rfl

@[simp]
theorem markInflightComplete_phaseType (world : World) :
    world.markInflightComplete.phaseType = world.phaseType := by
  unfold markInflightComplete
  split <;> rfl

@[simp]
theorem markInflightComplete_history (world : World) :
    world.markInflightComplete.history = world.history := by
  unfold markInflightComplete
  split <;> rfl

@[simp]
theorem markInflightComplete_timeline (world : World) :
    world.markInflightComplete.timeline = world.timeline := by
  unfold markInflightComplete
  split <;> rfl

@[simp]
theorem markInflightComplete_timers (world : World) :
    world.markInflightComplete.timers = world.timers := by
  unfold markInflightComplete
  split <;> rfl

@[simp]
theorem markInflightComplete_nextTimer (world : World) :
    world.markInflightComplete.nextTimer = world.nextTimer := by
  unfold markInflightComplete
  split <;> rfl

@[simp]
theorem markInflightComplete_uuidToIndex (world : World) :
    world.markInflightComplete.issuer.uuidToIndex = world.issuer.uuidToIndex := by
  unfold markInflightComplete
  split <;> rfl

@[simp]
theorem markInflightComplete_completedUuids (world : World) :
    world.markInflightComplete.issuer.completedUuids =
      world.issuer.completedUuids := by
  unfold markInflightComplete
  split <;> rfl

@[simp]
theorem markInflightComplete_issuedCount (world : World) :
    world.markInflightComplete.issuer.issuedCount = world.issuer.issuedCount := by
  unfold markInflightComplete
  split <;> rfl

theorem markInflightComplete_inflight (world : World)
    (positive : 0 < world.issuer.inflight) :
    world.markInflightComplete.issuer.inflight = world.issuer.inflight - 1 := by
  unfold markInflightComplete
  rw [if_neg (by omega)]

/-! ## Timers and conversations -/

@[simp]
theorem popTimeoutHandle_strategy (world : World) (queryId : QueryId) :
    (world.popTimeoutHandle queryId).strategy =
      (world.forgetTimeoutHandle queryId).strategy := by
  unfold popTimeoutHandle
  split <;> rfl

@[simp]
theorem popTimeoutHandle_manager (world : World) (queryId : QueryId) :
    (world.popTimeoutHandle queryId).manager = world.manager := by
  unfold popTimeoutHandle
  split <;> rfl

@[simp]
theorem popTimeoutHandle_nextUuid (world : World) (queryId : QueryId) :
    (world.popTimeoutHandle queryId).nextUuid = world.nextUuid := by
  unfold popTimeoutHandle
  split <;> rfl

theorem acceptResult_strategy (world : World) (result : QueryResult) :
    (world.acceptResult result).strategy =
      { world.strategy with
          inflight := world.strategy.inflight.erase result.id
          timeoutHandles := world.strategy.timeoutHandles.erase result.id } := by
  simp [acceptResult, popInflight, forgetTimeoutHandle, observe, announceResult,
    popConvInfo]

theorem acceptResult_manager (world : World) (result : QueryResult) :
    (world.acceptResult result).manager = world.manager := by
  simp [acceptResult, popInflight, observe, announceResult, popConvInfo]

theorem acceptResult_nextUuid (world : World) (result : QueryResult) :
    (world.acceptResult result).nextUuid = world.nextUuid := by
  simp [acceptResult, popInflight, observe, announceResult, popConvInfo]

@[simp]
theorem dropConversation_strategy (world : World) (conversationId : String) :
    (world.dropConversation conversationId).strategy =
      { world.strategy with
          delayHandles := world.strategy.delayHandles.erase conversationId
          activeIters := world.strategy.activeIters.erase conversationId } := by
  unfold dropConversation
  dsimp only
  split <;> rfl

@[simp]
theorem dropConversation_nextUuid (world : World) (conversationId : String) :
    (world.dropConversation conversationId).nextUuid = world.nextUuid := by
  unfold dropConversation
  dsimp only
  split <;> rfl

@[simp]
theorem popTimeoutHandle_issuer (world : World) (queryId : QueryId) :
    (world.popTimeoutHandle queryId).issuer = world.issuer := by
  unfold popTimeoutHandle
  split <;> rfl

@[simp]
theorem popTimeoutHandle_history (world : World) (queryId : QueryId) :
    (world.popTimeoutHandle queryId).history = world.history := by
  unfold popTimeoutHandle
  split <;> rfl

@[simp]
theorem dropConversation_issuer (world : World) (conversationId : String) :
    (world.dropConversation conversationId).issuer = world.issuer := by
  unfold dropConversation
  dsimp only
  split <;> rfl

@[simp]
theorem dropConversation_history (world : World) (conversationId : String) :
    (world.dropConversation conversationId).history = world.history := by
  unfold dropConversation
  dsimp only
  split <;> rfl

@[simp]
theorem dropConversation_manager (world : World) (conversationId : String) :
    (world.dropConversation conversationId).manager = world.manager := by
  unfold dropConversation
  dsimp only
  split <;> rfl

/-- Timers are only cancelled between the two worlds. -/
def TimersShrink (first second : World) : Prop :=
  ∀ handle callback, second.timers.get? handle = some callback →
    first.timers.get? handle = some callback

theorem timersShrink_of_eq {first second : World}
    (same : second.timers = first.timers) : TimersShrink first second := by
  intro handle callback found
  rwa [same] at found

theorem TimersShrink.trans {first second third : World}
    (left : TimersShrink first second) (right : TimersShrink second third) :
    TimersShrink first third :=
  fun handle callback found => left handle callback (right handle callback found)

theorem timersShrink_cancelTimer (world : World) (handle : TimerHandle) :
    TimersShrink world (world.cancelTimer handle) := by
  intro other callback found
  have erased : (world.timers.erase handle).get? other = some callback := found
  rw [OrderedDict.get?_erase] at erased
  split at erased
  · simp at erased
  · exact erased

theorem timersShrink_popTimeoutHandle (world : World) (queryId : QueryId) :
    TimersShrink world (world.popTimeoutHandle queryId) := by
  unfold popTimeoutHandle
  split
  · exact timersShrink_of_eq rfl
  · exact timersShrink_cancelTimer (world.forgetTimeoutHandle queryId) _

theorem timersShrink_acceptResult (world : World) (result : QueryResult) :
    TimersShrink world (world.acceptResult result) := by
  unfold acceptResult
  refine TimersShrink.trans ?_ (timersShrink_popTimeoutHandle _ _)
  exact timersShrink_of_eq (markInflightComplete_timers _)

theorem timersShrink_dropConversation (world : World) (conversationId : String) :
    TimersShrink world (world.dropConversation conversationId) := by
  unfold dropConversation
  dsimp only
  split
  · exact timersShrink_of_eq rfl
  · exact timersShrink_cancelTimer (world.popDelayHandle conversationId) _

theorem timersShrink_stopIssuing (world : World) :
    TimersShrink world world.stopIssuing := by
  intro handle callback found
  rw [stopIssuing, cancelTimers_eq] at found
  dsimp only at found
  rw [OrderedDict.get?_foldl_erase] at found
  split at found
  · simp at found
  · exact found

/-! ## Tracking -/

@[simp]
theorem stopPerformanceTracking_strategy (world : World) :
    world.stopPerformanceTracking.strategy = world.strategy := by
  unfold stopPerformanceTracking
  split <;> rfl

@[simp]
theorem stopPerformanceTracking_manager (world : World) :
    world.stopPerformanceTracking.manager = world.manager := by
  unfold stopPerformanceTracking
  split <;> rfl

@[simp]
theorem stopPerformanceTracking_timers (world : World) :
    world.stopPerformanceTracking.timers = world.timers := by
  unfold stopPerformanceTracking
  split <;> rfl

theorem stopPerformanceTrackingOnce_strategy (world : World) :
    world.stopPerformanceTrackingOnce.strategy =
      { world.strategy with performanceTrackingStopped := true } := by
  unfold stopPerformanceTrackingOnce
  split
  · rename_i stopped
    rw [← stopped]
  · exact stopPerformanceTracking_strategy _

@[simp]
theorem stopPerformanceTrackingOnce_manager (world : World) :
    world.stopPerformanceTrackingOnce.manager = world.manager := by
  unfold stopPerformanceTrackingOnce
  split
  · rfl
  · exact stopPerformanceTracking_manager _

@[simp]
theorem stopPerformanceTrackingOnce_timers (world : World) :
    world.stopPerformanceTrackingOnce.timers = world.timers := by
  unfold stopPerformanceTrackingOnce
  split
  · rfl
  · exact stopPerformanceTracking_timers _

/-! ## Terminating a query -/

@[simp]
theorem terminateQuery_timers (world : World) (queryId : QueryId) :
    (world.terminateQuery queryId).2.timers = world.timers := by
  unfold terminateQuery
  split
  · exact markInflightComplete_timers world
  · rfl

theorem expireQuery_timers (world : World) (queryId : QueryId) :
    (world.expireQuery queryId).timers = world.timers := by
  rw [expireQuery, terminateQuery_timers]
  rfl

theorem terminateQuery_fst (world : World) (queryId : QueryId) :
    (world.terminateQuery queryId).1 =
      if (world.issuer.uuidToIndex.get? queryId).isSome then world.convInfo queryId
      else ("", none) := by
  unfold terminateQuery convInfo markInflightComplete
  split
  · dsimp only
    split <;> rfl
  · rfl

@[simp]
theorem terminateQuery_strategy (world : World) (queryId : QueryId) :
    (world.terminateQuery queryId).2.strategy = world.strategy := by
  unfold terminateQuery
  split
  · exact markInflightComplete_strategy world
  · rfl

@[simp]
theorem terminateQuery_manager (world : World) (queryId : QueryId) :
    (world.terminateQuery queryId).2.manager = world.manager := by
  unfold terminateQuery
  split
  · exact markInflightComplete_manager world
  · rfl

@[simp]
theorem terminateQuery_nextUuid (world : World) (queryId : QueryId) :
    (world.terminateQuery queryId).2.nextUuid = world.nextUuid := by
  unfold terminateQuery
  split
  · exact markInflightComplete_nextUuid world
  · rfl

theorem expireQuery_strategy (world : World) (queryId : QueryId) :
    (world.expireQuery queryId).strategy =
      { world.strategy with
          inflight := world.strategy.inflight.erase queryId
          timeoutHandles := world.strategy.timeoutHandles.erase queryId } := by
  simp [expireQuery, popInflight, forgetTimeoutHandle]

theorem expireQuery_nextUuid (world : World) (queryId : QueryId) :
    (world.expireQuery queryId).nextUuid = world.nextUuid := by
  simp [expireQuery, popInflight, forgetTimeoutHandle]

section TimedOut

variable (config : AgenticConfig) (world : World) (queryId : QueryId)
  (manager : ConversationManager) (convInfo : String × Option Nat)

theorem recordTimeout_strategy :
    (world.recordTimeout config queryId convInfo).strategy = world.strategy := rfl

theorem recordTimeout_timers :
    (world.recordTimeout config queryId convInfo).timers = world.timers := rfl

theorem recordTimeout_nextTimer :
    (world.recordTimeout config queryId convInfo).nextTimer = world.nextTimer := rfl

theorem recordTimeout_nextUuid :
    (world.recordTimeout config queryId convInfo).nextUuid = world.nextUuid := rfl

theorem recordTimeout_issuer :
    (world.recordTimeout config queryId convInfo).issuer = world.issuer := rfl

/-- The query is taken from the strategy when its time is over. -/
theorem timedOut_strategy :
    (((world.expireQuery queryId).withManager manager).recordTimeout config queryId
        convInfo).strategy =
      { world.strategy with
          inflight := world.strategy.inflight.erase queryId
          timeoutHandles := world.strategy.timeoutHandles.erase queryId } := by
  rw [recordTimeout_strategy]
  exact expireQuery_strategy world queryId

theorem timedOut_timers :
    (((world.expireQuery queryId).withManager manager).recordTimeout config queryId
        convInfo).timers = world.timers := by
  rw [recordTimeout_timers]
  exact expireQuery_timers world queryId

theorem timedOut_nextUuid :
    (((world.expireQuery queryId).withManager manager).recordTimeout config queryId
        convInfo).nextUuid = world.nextUuid := by
  rw [recordTimeout_nextUuid]
  exact expireQuery_nextUuid world queryId

end TimedOut

/-! ## The session's fields -/

/-- The fields that callbacks of the strategy only read. -/
structure SessionFields where
  phaseType : PhaseType
  stopRequested : Bool
  currentPhaseStopped : Bool
  nowNs : Nat
  earlier : List Observation

def sessionFields (world : World) : SessionFields where
  phaseType := world.phaseType
  stopRequested := world.stopRequested
  currentPhaseStopped := world.currentPhaseStopped
  nowNs := world.nowNs
  earlier := world.earlier

@[simp]
theorem markInflightComplete_sessionFields (world : World) :
    world.markInflightComplete.sessionFields = world.sessionFields := by
  unfold markInflightComplete
  split <;> rfl

@[simp]
theorem popTimeoutHandle_sessionFields (world : World) (queryId : QueryId) :
    (world.popTimeoutHandle queryId).sessionFields = world.sessionFields := by
  unfold popTimeoutHandle
  split <;> rfl

@[simp]
theorem dropConversation_sessionFields (world : World) (conversationId : String) :
    (world.dropConversation conversationId).sessionFields = world.sessionFields := by
  unfold dropConversation
  dsimp only
  split <;> rfl

theorem acceptResult_sessionFields (world : World) (result : QueryResult) :
    (world.acceptResult result).sessionFields = world.sessionFields := by
  rw [acceptResult, popTimeoutHandle_sessionFields]
  exact markInflightComplete_sessionFields _

theorem expireQuery_sessionFields (world : World) (queryId : QueryId) :
    (world.expireQuery queryId).sessionFields = world.sessionFields := by
  unfold expireQuery terminateQuery
  split
  · exact markInflightComplete_sessionFields _
  · rfl

theorem stopIssuing_sessionFields (world : World) :
    world.stopIssuing.sessionFields = world.sessionFields := by
  rw [stopIssuing, cancelTimers_eq]
  rfl

theorem stopPerformanceTracking_sessionFields (world : World) :
    world.stopPerformanceTracking.sessionFields = world.sessionFields := by
  unfold stopPerformanceTracking
  split <;> rfl

theorem stopPerformanceTrackingOnce_sessionFields (world : World) :
    world.stopPerformanceTrackingOnce.sessionFields = world.sessionFields := by
  unfold stopPerformanceTrackingOnce
  split
  · rfl
  · exact stopPerformanceTracking_sessionFields _

end World

theorem Move.sessionFields {config : AgenticConfig} {first second : Moment}
    (move : Move config first second) :
    second.world.sessionFields = first.world.sessionFields := by
  cases move with
  | @answered world result => exact World.acceptResult_sessionFields world result
  | @rejected world result =>
      exact (World.dropConversation_sessionFields _ _).trans
        (World.acceptResult_sessionFields world result)
  | @unroutable world result => exact World.acceptResult_sessionFields world result
  | @timedOut world handle queryId =>
      exact (World.dropConversation_sessionFields _ _).trans
        (World.expireQuery_sessionFields (world.cancelTimer handle) queryId)
  | @timeoutUnroutable world handle queryId =>
      exact World.expireQuery_sessionFields (world.cancelTimer handle) queryId
  | refused => exact World.stopIssuing_sessionFields _
  | crashed _ _ _ effects =>
      rcases effects with rfl | raised
      · rfl
      · cases raised <;> rfl
  | @started _ world drawn started issuing draw =>
      obtain ⟨_, order, base, _, _, _, rfl⟩ :=
        World.nextConversationInstance_eq_some draw
      rfl
  | trackingStopped => exact World.stopPerformanceTrackingOnce_sessionFields _
  | issuingStopped => exact World.stopIssuing_sessionFields _
  | collected | expired | delayElapsed | finished | delayed | becameDue | released
  | stale | issued | drawFailed | errorStored | completed | waits | skipped | skipRefused
  | skipUnroutable | aborted => rfl

theorem Moves.sessionFields {config : AgenticConfig} {first second : Moment}
    (moves : Moves config first second) :
    second.world.sessionFields = first.world.sessionFields :=
  moves.invariant
    (fun moment =>
      moment.world.sessionFields = first.world.sessionFields)
    (fun _ _ same move => move.sessionFields.trans same) rfl

end InferenceEndpoint
