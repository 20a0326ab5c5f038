import InferenceEndpoint.LoadGenerator.Turns

/-!
# Moves are steps of the schedule

Each move of the agentic strategy, seen through `Moment.schedule`, is one step of the
abstract schedule.  The manager knows every conversation and each instance holds one
token only; both facts go into the guards of the steps.
-/

namespace InferenceEndpoint

variable {config : AgenticConfig}

open World

theorem OrderedDict.get?_erase_update {Key Value : Type*} [DecidableEq Key]
    (dict : OrderedDict Key Value) (key : Key) :
    (dict.erase key).get? = Function.update dict.get? key none := by
  funext other
  rw [OrderedDict.get?_erase, Function.update_apply]

theorem OrderedDict.get?_insert_update {Key Value : Type*} [DecidableEq Key]
    (dict : OrderedDict Key Value) (key : Key) (value : Value) :
    (dict.insert key value).get? = Function.update dict.get? key (some value) := by
  funext other
  rw [OrderedDict.get?_insert, Function.update_apply]

/-! ## The manager -/

/-- The effect of either way of marking a turn. -/
structure Marks (manager : ConversationManager) (conversationId : String)
    (next : ConversationManager) (state marked : ConversationState) : Prop where
  found : manager.get? conversationId = some state
  updated : next.get? = Function.update manager.get? conversationId (some marked)
  completedTurns : marked.completedTurns = state.completedTurns + 1
  expected : marked.expectedClientTurns = state.expectedClientTurns

theorem marks_of_complete {manager next : ConversationManager} {conversationId : String}
    (marked : manager.markTurnComplete conversationId = some next) :
    ∃ state after, Marks manager conversationId next state after := by
  unfold ConversationManager.markTurnComplete at marked
  cases found : manager.get? conversationId with
  | none => simp [found] at marked
  | some state =>
      obtain rfl : _ = next := by simpa [found] using marked
      exact ⟨state, _, found, OrderedDict.get?_insert_update _ _ _, rfl, rfl⟩

theorem marks_of_failed {manager next : ConversationManager} {conversationId : String}
    (marked : manager.markTurnFailed conversationId = some next) :
    ∃ state after, Marks manager conversationId next state after := by
  unfold ConversationManager.markTurnFailed at marked
  cases found : manager.get? conversationId with
  | none => simp [found] at marked
  | some state =>
      obtain rfl : _ = next := by simpa [found] using marked
      exact ⟨state, _, found, OrderedDict.get?_insert_update _ _ _, rfl, rfl⟩

/-! ## The events of the operations -/

namespace World

theorem turnEvents_of_timeline {first second : World}
    (timeline : second.timeline = first.timeline) : second.turnEvents = first.turnEvents := by
  rw [turnEvents, turnEvents, timeline]

theorem turnEvents_append (first : World) {second : World} (news : List Observation)
    (timeline : second.timeline = first.timeline ++ news) :
    second.turnEvents = first.turnEvents ++ news.filterMap Observation.turnEvent? := by
  rw [turnEvents, turnEvents, timeline, List.filterMap_append]

theorem popTimeoutHandle_timeline (world : World) (queryId : QueryId) :
    (world.popTimeoutHandle queryId).timeline = world.timeline := by
  unfold popTimeoutHandle
  split <;> rfl

theorem dropConversation_timeline (world : World) (conversationId : String) :
    (world.dropConversation conversationId).timeline = world.timeline := by
  unfold dropConversation
  dsimp only
  split <;> rfl

theorem expireQuery_timeline (world : World) (queryId : QueryId) :
    (world.expireQuery queryId).timeline = world.timeline := by
  unfold expireQuery terminateQuery
  split
  · exact markInflightComplete_timeline _
  · rfl

theorem expireQuery_issuedCount (world : World) (queryId : QueryId) :
    (world.expireQuery queryId).issuer.issuedCount = world.issuer.issuedCount := by
  unfold expireQuery terminateQuery
  split
  · exact markInflightComplete_issuedCount _
  · rfl

/-- The events of a result that was received belong to no turn's issue. -/
theorem resultEvents_turnEvents (world : World) (result : QueryResult) :
    ((world.resultEvents result).map Observation.published).filterMap
      Observation.turnEvent? = [] := by
  rw [List.filterMap_eq_nil_iff]
  intro observation member
  obtain ⟨event, among, rfl⟩ := List.mem_map.mp member
  rcases List.mem_append.mp among with error | complete
  · obtain ⟨data, _, rfl⟩ := List.mem_map.mp error
    rfl
  · split at complete
    · simp at complete
    · obtain rfl := List.mem_singleton.mp complete
      rfl

theorem announceResult_turnEvents (world : World) (result : QueryResult) :
    (world.announceResult result).turnEvents = world.turnEvents := by
  have timeline : (world.announceResult result).timeline =
      world.timeline ++ (world.resultEvents result).map .published := rfl
  rw [turnEvents_append world _ timeline, resultEvents_turnEvents, List.append_nil]

theorem acceptResult_turnEvents (world : World) (result : QueryResult) :
    (world.acceptResult result).turnEvents = world.turnEvents ++ [TurnEvent.received result] := by
  unfold acceptResult
  dsimp only
  rw [turnEvents_of_timeline (popTimeoutHandle_timeline _ _)]
  refine (turnEvents_of_timeline (markInflightComplete_timeline _)).trans ?_
  rw [announceResult_turnEvents, turnEvents_append world [.received result] rfl]
  rfl

theorem acceptResult_issuedCount (world : World) (result : QueryResult) :
    (world.acceptResult result).issuer.issuedCount = world.issuer.issuedCount := by
  unfold acceptResult
  dsimp only
  rw [popTimeoutHandle_issuer]
  exact markInflightComplete_issuedCount _

theorem recordFailure_turnEvents (world : World) (queryId : QueryId)
    (conversationId : String) (turn : Option Nat) (errorType errorMessage : String) :
    (world.recordFailure queryId conversationId turn errorType errorMessage).turnEvents =
      world.turnEvents ++
        [TurnEvent.collected (syntheticResult queryId errorType errorMessage)] := by
  simp [turnEvents, recordFailure, publish, observe, Observation.turnEvent?]

theorem stopPerformanceTrackingOnce_turnEvents (world : World) :
    world.stopPerformanceTrackingOnce.turnEvents = world.turnEvents := by
  unfold stopPerformanceTrackingOnce stopPerformanceTracking
  split
  · rfl
  · split
    · rfl
    · simp [turnEvents, publish, observe, flush, Observation.turnEvent?]

theorem stopPerformanceTrackingOnce_issuedCount (world : World) :
    world.stopPerformanceTrackingOnce.issuer.issuedCount = world.issuer.issuedCount := by
  unfold stopPerformanceTrackingOnce stopPerformanceTracking
  split
  · rfl
  · split <;> rfl

theorem stopPerformanceTrackingOnce_nextUuid (world : World) :
    world.stopPerformanceTrackingOnce.nextUuid = world.nextUuid := by
  unfold stopPerformanceTrackingOnce stopPerformanceTracking
  split
  · rfl
  · split <;> rfl

end World

theorem mem_receivedIds_of_turnEvents {world : World} {result : QueryResult}
    (member : .received result ∈ world.turnEvents) : result.id ∈ world.receivedIds := by
  obtain ⟨observation, there, event⟩ := List.mem_filterMap.mp member
  have received : observation = .received result := by
    cases observation with
    | published event =>
        simp only [Observation.turnEvent?] at event
        split at event
        · split at event <;> simp at event
        · simp at event
    | sent query conversationId turn => cases turn <;> simp [Observation.turnEvent?] at event
    | received other => simpa [Observation.turnEvent?] using event
    | collected other => simp [Observation.turnEvent?] at event
    | refused conversationId turn => cases turn <;> simp [Observation.turnEvent?] at event
    | flushed => simp [Observation.turnEvent?] at event
  subst received
  exact List.mem_filterMap.mpr ⟨_, List.mem_append_right _ there, rfl⟩

theorem mem_collectedIds_of_turnEvents {world : World} {result : QueryResult}
    (member : .collected result ∈ world.turnEvents) : result.id ∈ world.collectedIds := by
  obtain ⟨observation, there, event⟩ := List.mem_filterMap.mp member
  have collected : observation = .collected result := by
    cases observation with
    | published event =>
        simp only [Observation.turnEvent?] at event
        split at event
        · split at event <;> simp at event
        · simp at event
    | sent query conversationId turn => cases turn <;> simp [Observation.turnEvent?] at event
    | received other => simp [Observation.turnEvent?] at event
    | collected other => simpa [Observation.turnEvent?] using event
    | refused conversationId turn => cases turn <;> simp [Observation.turnEvent?] at event
    | flushed => simp [Observation.turnEvent?] at event
  subst collected
  exact List.mem_filterMap.mpr ⟨_, List.mem_append_right _ there, rfl⟩

/-! ## The simulation -/

/-- A query that is waited for is the only one of its conversation. -/
theorem Staged.pending {world : World} (staged : Staged config .idle world)
    (ledger : Ledger none world) {queryId : QueryId} {conversationId : String}
    (waiting : world.strategy.inflight.get? queryId = some conversationId) :
    (Moment.schedule ⟨.idle, none, world⟩).Pending queryId conversationId where
  waiting := waiting
  alone other otherWaiting := by
    have same := staged.exclusive conversationId (.query other) (.query queryId)
      otherWaiting waiting
    simpa using same
  unreceived result member same :=
    (World.mem_unresolved.mp (ledger.waitingUnresolved queryId conversationId waiting)).2.2.1
      (same ▸ mem_receivedIds_of_turnEvents member)
  uncollected result member same :=
    (World.mem_unresolved.mp (ledger.waitingUnresolved queryId conversationId waiting)).2.2.2
      (same ▸ mem_collectedIds_of_turnEvents member)
  drawn := ledger.registeredDrawn queryId
    (ledger.waitingRegistered queryId conversationId waiting)
  seated issuing := by
    have here : Token.At .idle world conversationId (.query queryId) := waiting
    obtain ⟨state, active⟩ := staged.active issuing here
    exact Option.isSome_iff_exists.mpr ⟨state, active⟩
  idle := rfl
  free := rfl

/-- Whoever the running callback holds is not waited for. -/
theorem Staged.free {world : World} {control : Control} {conversationId : String}
    (staged : Staged config control world)
    (here : Token.At control world conversationId .control) (queryId : QueryId) :
    world.strategy.inflight.get? queryId ≠ some conversationId := by
  intro waiting
  have same := staged.exclusive conversationId (.query queryId) .control waiting here
  simp at same

theorem Marks.counted {world : World} {control : Control} {uncollected : Option QueryResult}
    {conversationId : String} {next : ConversationManager} {state marked : ConversationState}
    (marks : Marks world.manager conversationId next state marked) :
    (Moment.schedule ⟨control, uncollected, world⟩).Counted conversationId marked state :=
  ⟨marks.found, marks.completedTurns, marks.expected⟩

/-- A move that touches nothing the schedule shows but the control. -/
theorem Schedule.Step.of_turned {first second : Moment}
    (same : second.schedule = { first.schedule with control := second.control })
    (steady : first.control ≠ .raising)
    (lighter : second.control.vacating = true → first.control.vacating = true)
    (calm : ∀ conversationId remaining, second.control ≠ .aborting conversationId remaining)
    (spent : ∀ conversationId remaining,
      first.control = .aborting conversationId remaining → remaining = []) :
    Schedule.Step config first.schedule second.schedule := by
  rw [same]
  exact .turned steady lighter calm spent

theorem Move.schedule {first second : Moment} (plain : config.PlainIds)
    (move : Move config first second) (known : Known first.control first.world)
    (staged : Staged config first.control first.world)
    (ledger : Ledger first.uncollected first.world) :
    Schedule.Step config first.schedule second.schedule := by
  cases move with
  | @answered world result conversationId manager waiting _ _ _ succeeded marked =>
      obtain ⟨state, after, marks⟩ := marks_of_complete marked
      have same : Moment.schedule ⟨if world.strategy.stopping then .filling
          else .holding conversationId, some result,
          (world.acceptResult result).withManager manager⟩ =
          { Moment.schedule ⟨.idle, none, world⟩ with
            waiting := Function.update world.strategy.inflight.get? result.id none
            counters := Function.update world.manager.get? conversationId (some after)
            events := world.turnEvents ++ [.received result]
            uncollected := some result
            control := if world.strategy.stopping then .filling
              else .holding conversationId } := by
        have strategy := acceptResult_strategy world result
        ext1 <;> dsimp only [Moment.schedule, withManager]
        · rw [strategy]
        · rw [strategy]
          exact OrderedDict.get?_erase_update _ _
        · exact marks.updated
        · rw [strategy]
        · exact acceptResult_issuedCount world result
        · rw [strategy]
        · rw [strategy]
        · exact acceptResult_nextUuid world result
        · exact (answers_acceptResult world result).sentIds
        · exact acceptResult_turnEvents world result
      rw [same]
      exact .answered (staged.pending ledger waiting) succeeded marks.counted
  | @rejected world result conversationId manager waiting _ _ _ failed marked =>
      obtain ⟨state, after, marks⟩ := marks_of_failed marked
      have same : Moment.schedule ⟨.aborting conversationId
          (world.remainingTurns conversationId), some result,
          ((world.acceptResult result).withManager manager).dropConversation
            conversationId⟩ =
          { Moment.schedule ⟨.idle, none, world⟩ with
            active := Function.update world.strategy.activeIters.get? conversationId none
            waiting := Function.update world.strategy.inflight.get? result.id none
            counters := Function.update world.manager.get? conversationId (some after)
            events := world.turnEvents ++ [.received result]
            uncollected := some result
            control := .aborting conversationId (world.remainingTurns conversationId) } := by
        have strategy := acceptResult_strategy world result
        ext1 <;> dsimp only [Moment.schedule]
        · rw [dropConversation_strategy]
          dsimp only [withManager]
          rw [strategy]
          exact OrderedDict.get?_erase_update _ _
        · rw [dropConversation_strategy]
          dsimp only [withManager]
          rw [strategy]
          exact OrderedDict.get?_erase_update _ _
        · rw [dropConversation_manager]
          exact marks.updated
        · rw [dropConversation_strategy]
          dsimp only [withManager]
          rw [strategy]
        · rw [dropConversation_issuer]
          exact acceptResult_issuedCount world result
        · rw [dropConversation_strategy]
          dsimp only [withManager]
          rw [strategy]
        · rw [dropConversation_strategy]
          dsimp only [withManager]
          rw [strategy]
        · rw [dropConversation_nextUuid]
          exact acceptResult_nextUuid world result
        · rw [(sameBooks_dropConversation _ _).sentIds]
          exact (answers_acceptResult world result).sentIds
        · rw [turnEvents_of_timeline (dropConversation_timeline _ _)]
          exact acceptResult_turnEvents world result
      rw [same]
      exact .rejected (staged.pending ledger waiting) failed marks.counted
  | @unroutable world result conversationId waiting _ _ _ unknown =>
      have found := known.waiting result.id conversationId waiting
      rw [unknown] at found
      simp at found
  | @collected world result =>
      have same : Moment.schedule ⟨.idle, none, world.observe (.collected result)⟩ =
          { Moment.schedule ⟨.idle, some result, world⟩ with
            events := world.turnEvents ++ [.collected result], uncollected := none } := by
        ext1 <;> try rfl
        · exact (sentIds_observe world _).trans (List.append_nil _)
        · exact turnEvents_append world [.collected result] rfl
      rw [same]
      exact .collected rfl
  | @timedOut world handle queryId conversationId waitingId manager scheduled waiting marked =>
      obtain ⟨state, after, marks⟩ := marks_of_failed marked
      obtain ⟨_, _, unique⟩ := staged.timeouts handle queryId conversationId scheduled
      obtain rfl : waitingId = conversationId := unique waitingId waiting
      generalize (if (world.issuer.uuidToIndex.get? queryId).isSome then
        world.convInfo queryId else ("", none)) = convInfo
      have same : Moment.schedule ⟨.aborting waitingId (world.remainingTurns waitingId), none,
          (((((world.cancelTimer handle).expireQuery queryId).withManager
            manager).recordTimeout config queryId convInfo).dropConversation waitingId)⟩ =
          { Moment.schedule ⟨.idle, none, world⟩ with
            active := Function.update world.strategy.activeIters.get? waitingId none
            waiting := Function.update world.strategy.inflight.get? queryId none
            counters := Function.update world.manager.get? waitingId (some after)
            events := world.turnEvents ++ [.collected (syntheticResult queryId "TurnTimeout"
              ("turn timeout after " ++ config.turnTimeoutText ++ "s"))]
            control := .aborting waitingId (world.remainingTurns waitingId) } := by
        have strategy : (((world.cancelTimer handle).expireQuery queryId).withManager
            manager |>.recordTimeout config queryId convInfo).strategy =
              { world.strategy with
                inflight := world.strategy.inflight.erase queryId
                timeoutHandles := world.strategy.timeoutHandles.erase queryId } :=
          expireQuery_strategy (world.cancelTimer handle) queryId
        ext1 <;> dsimp only [Moment.schedule]
        · rw [dropConversation_strategy, strategy]
          exact OrderedDict.get?_erase_update _ _
        · rw [dropConversation_strategy, strategy]
          exact OrderedDict.get?_erase_update _ _
        · rw [dropConversation_manager]
          exact marks.updated
        · rw [dropConversation_strategy, strategy]
        · rw [dropConversation_issuer]
          exact expireQuery_issuedCount (world.cancelTimer handle) queryId
        · rw [dropConversation_strategy, strategy]
        · rw [dropConversation_strategy, strategy]
        · rw [dropConversation_nextUuid]
          exact expireQuery_nextUuid (world.cancelTimer handle) queryId
        · rw [(sameBooks_dropConversation _ _).sentIds]
          exact (expires_recordTimeout config (world.cancelTimer handle) queryId manager
            convInfo).sentIds
        · rw [turnEvents_of_timeline (dropConversation_timeline _ _), recordTimeout,
            recordFailure_turnEvents]
          congr 1
          exact turnEvents_of_timeline (expireQuery_timeline (world.cancelTimer handle) queryId)
      rw [same]
      exact .timedOut (staged.pending ledger waiting) marks.counted
  | @timeoutUnroutable world handle queryId conversationId waitingId scheduled waiting
      unknown =>
      have found := known.scheduled handle queryId conversationId scheduled
      rw [unknown] at found
      simp at found
  | expired => exact .of_turned rfl (by simp) (by simp [Control.vacating]) (by simp) (by simp)
  | delayElapsed => exact .of_turned rfl (by simp) (by simp [Control.vacating]) (by simp) (by simp)
  | @finished uncollected world conversationId state active exhausted =>
      have same : Moment.schedule ⟨.filling, uncollected, world.popActive conversationId⟩ =
          { Moment.schedule ⟨.holding conversationId, uncollected, world⟩ with
            active := Function.update world.strategy.activeIters.get? conversationId none
            control := .filling } := by
        ext1 <;> try rfl
        exact OrderedDict.get?_erase_update _ _
      rw [same]
      exact .finished rfl active exhausted (staged.free (Or.inl rfl))
  | delayed => exact .of_turned rfl (by simp) (by simp [Control.vacating]) (by simp) (by simp)
  | becameDue => exact .of_turned rfl (by simp) (by simp [Control.vacating]) (by simp) (by simp)
  | released => exact .of_turned rfl (by simp) (by simp [Control.vacating]) (by simp) (by simp)
  | stale => exact .of_turned rfl (by simp) (by simp [Control.vacating]) (by simp) (by simp)
  | @issued uncollected world conversationId turn state query prompt issuing active next permitted fresh =>
      have same : Moment.schedule ⟨.idle, uncollected,
          (((world.popDelayHandle conversationId).afterIssued query prompt
            turn.sampleIndex conversationId (some turn.turn)).bookTurn query.id
              conversationId state)⟩ =
          (Moment.schedule ⟨.due conversationId turn, uncollected, world⟩).issue conversationId
            turn state := by
        ext1 <;> try rfl
        · exact OrderedDict.get?_insert_update _ _ _
        · change (world.strategy.inflight.insert query.id conversationId).get? =
            Function.update world.strategy.inflight.get? world.nextUuid (some conversationId)
          rw [← fresh]
          exact OrderedDict.get?_insert_update _ _ _
        · exact (issues_bookTurn prompt turn.sampleIndex conversationId (some turn.turn) state
            fresh).sentIds
        · change _ = world.turnEvents ++
            [.announced world.nextUuid conversationId turn.turn,
              .sent world.nextUuid conversationId turn.turn]
          refine (turnEvents_append world
            [.published (world.issuedEvent world.nextUuid conversationId (some turn.turn) prompt),
              .sent query conversationId (some turn.turn)] ?_).trans ?_
          · exact List.append_assoc _ _ _
          · simp [Observation.turnEvent?, issuedEvent, fresh]
      rw [same]
      exact .issued rfl active next (staged.free (Or.inr ⟨turn, rfl⟩))
        (known.active conversationId (by rw [active]; rfl))
  | @refused uncollected world conversationId turn state issuing active next =>
      have same : Moment.schedule ⟨.filling, uncollected,
          ((world.popDelayHandle conversationId).afterStopCheck.observe
            (.refused conversationId (some turn.turn))).stopIssuing⟩ =
          { Moment.schedule ⟨.due conversationId turn, uncollected, world⟩ with
            active := fun _ => none
            stopping := true
            events := world.turnEvents ++ [.refused conversationId turn.turn]
            control := .filling } := by
        rw [stopIssuing, cancelTimers_eq]
        ext1 <;> try rfl
        · exact (sentIds_observe world _).trans (List.append_nil _)
        · exact turnEvents_append world [.refused conversationId (some turn.turn)] rfl
      rw [same]
      exact .stopped (by simp [Moment.schedule]) (Or.inl ⟨_, _, rfl⟩)
  | @crashed uncollected world next conversationId turn state issuing active current effects =>
      obtain ⟨nextUuid, news, drawn, announced, same⟩ :
          ∃ (nextUuid : QueryId) (news : List TurnEvent), world.nextUuid ≤ nextUuid ∧
            (news = [] ∨ ∃ conversationId turn,
              news = [.announced world.nextUuid conversationId turn] ∧
                world.nextUuid < nextUuid ∧ world.nextUuid ∉ world.sentIds ∧
                (world.manager.get? conversationId).isSome) ∧
            Moment.schedule ⟨.raising, uncollected, next⟩ =
              { Moment.schedule ⟨.due conversationId turn, uncollected, world⟩ with
                nextUuid := nextUuid, events := world.turnEvents ++ news
                control := .raising } := by
        rcases effects with rfl | raised
        · refine ⟨world.nextUuid, [], Nat.le_refl _, Or.inl rfl, ?_⟩
          ext1 <;> try rfl
          exact (List.append_nil _).symm
        · cases raised with
          | unregistered | unannounced =>
              refine ⟨world.nextUuid + 1, [], Nat.le_succ _, Or.inl rfl, ?_⟩
              ext1 <;> try rfl
              exact (List.append_nil _).symm
          | unsent prompt =>
              refine ⟨world.nextUuid + 1, [.announced world.nextUuid conversationId turn.turn],
                Nat.le_succ _, Or.inr ⟨_, _, rfl, Nat.lt_succ_self _, ?_, ?_⟩, ?_⟩
              · exact fun sent => absurd (ledger.sentDrawn _ sent) (Nat.lt_irrefl _)
              · exact known.active conversationId (by rw [active]; rfl)
              ext1 <;> try rfl
              · exact (sentIds_observe world (.published _)).trans (List.append_nil _)
              · exact turnEvents_append world
                  [.published (world.issuedEvent world.nextUuid conversationId
                    (some turn.turn) prompt)] rfl
      rw [same]
      exact .crashed (by simp [Moment.schedule]) drawn announced
  | @drawFailed uncollected world issuing failed =>
      have same : Moment.schedule ⟨.raising, uncollected, world⟩ =
          { Moment.schedule ⟨.filling, uncollected, world⟩ with
            nextUuid := world.nextUuid
            events := world.turnEvents ++ []
            control := .raising } := by
        ext1 <;> try rfl
        exact (List.append_nil _).symm
      rw [same]
      exact .crashed (by simp [Moment.schedule]) (Nat.le_refl _) (Or.inl rfl)
  | errorStored => exact .faulted rfl
  | @started uncollected world drawn started issuing draw =>
      have more := (nextConversationInstance_eq_some draw).1
      obtain ⟨instance_, unknown, rfl⟩ := staged.draws plain draw
      have budget : world.strategy.startedTrajectoryCount < config.trajectoryBudget := by
        have sameConvs : world.strategy.baseConvs = config.metadata.baseConvs := staged.drawn.1
        simp only [hasMoreConversationInstances, Bool.and_eq_true, hasTrajectoryBudget,
          World.trajectoryBudget, sameConvs] at more
        exact of_decide_eq_true more.2
      have same : Moment.schedule ⟨.holding started.logicalId, uncollected,
          (world.countStarted (SampleOrder.afterDraws config.rngSampleIndex
            config.metadata.baseConvs.length
              (world.strategy.startedTrajectoryCount + 1))).enterInstance started⟩ =
          (Moment.schedule ⟨.filling, uncollected, world⟩).start started := by
        ext1 <;> try rfl
        · exact OrderedDict.get?_insert_update _ _ _
        · change (world.manager.getOrCreate started.logicalId
            (some started.turns.length)).get? = _
          unfold ConversationManager.getOrCreate
          rw [if_neg (by simp [unknown])]
          exact OrderedDict.get?_insert_update _ _ _
      rw [same]
      exact .started rfl issuing instance_ budget unknown
  | @trackingStopped _ world =>
      have strategy := stopPerformanceTrackingOnce_strategy world
      refine .of_turned ?_ (by simp) (fun _ => rfl) (by simp) (by simp)
      ext1 <;> dsimp only [Moment.schedule]
      · rw [strategy]
      · rw [strategy]
      · rw [stopPerformanceTrackingOnce_manager]
      · rw [strategy]
      · exact stopPerformanceTrackingOnce_issuedCount world
      · rw [strategy]
      · rw [strategy]
      · exact stopPerformanceTrackingOnce_nextUuid world
      · exact (sameBooks_stopPerformanceTrackingOnce world).sentIds
      · exact stopPerformanceTrackingOnce_turnEvents world
  | @issuingStopped uncollected world configured issuing =>
      have same : Moment.schedule ⟨.filling, uncollected, world.stopIssuing⟩ =
          { Moment.schedule ⟨.filling, uncollected, world⟩ with
            active := fun _ => none
            stopping := true
            events := world.turnEvents ++ []
            control := .filling } := by
        rw [stopIssuing, cancelTimers_eq]
        ext1 <;> try rfl
        exact (List.append_nil _).symm
      rw [same]
      exact .stopped (by simp [Moment.schedule]) (Or.inr ⟨rfl, configured⟩)
  | completed => exact .of_turned rfl (by simp) (by simp [Control.vacating]) (by simp) (by simp)
  | waits => exact .of_turned rfl (by simp) (by simp [Control.vacating]) (by simp) (by simp)
  | @skipped uncollected world conversationId reason turn turns manager marked =>
      obtain ⟨state, after, marks⟩ := marks_of_failed marked
      have same : Moment.schedule ⟨.aborting conversationId turns, uncollected,
          ((world.withManager manager).afterSkipped turn.sampleIndex conversationId
            (some turn.turn)).recordFailure world.nextUuid conversationId
              (some turn.turn) "TurnAbortedByPriorFailure" reason⟩ =
          (Moment.schedule ⟨.aborting conversationId (turn :: turns), uncollected,
            world⟩).skip conversationId turn turns after reason := by
        ext1 <;> try rfl
        · exact marks.updated
        · exact (skips_recordFailure world manager turn.sampleIndex conversationId
            (some turn.turn) "TurnAbortedByPriorFailure" reason).sentIds
        · refine (recordFailure_turnEvents _ _ _ _ _ _).trans ?_
          rw [turnEvents_append world
            [.published (world.issuedEvent world.nextUuid conversationId (some turn.turn) {})]
              rfl, List.append_assoc]
          rfl
      rw [same]
      exact .skipped rfl marks.counted
  | @skipRefused uncollected world conversationId turn turns manager marked =>
      obtain ⟨state, after, marks⟩ := marks_of_failed marked
      have dropped := staged.dropped conversationId _ rfl
      have same : Moment.schedule ⟨.filling, uncollected,
          ((world.withManager manager).afterStopCheck.observe
            (.refused conversationId (some turn.turn))).popActive conversationId⟩ =
          { Moment.schedule ⟨.aborting conversationId (turn :: turns), uncollected, world⟩ with
            counters := Function.update world.manager.get? conversationId (some after)
            events := world.turnEvents ++ [.refused conversationId turn.turn]
            control := .filling } := by
        ext1 <;> try rfl
        · change (world.strategy.activeIters.erase conversationId).get? = _
          rw [OrderedDict.erase_of_absent dropped]
          rfl
        · exact marks.updated
        · exact (sentIds_observe world _).trans (List.append_nil _)
        · exact turnEvents_append world [.refused conversationId (some turn.turn)] rfl
      rw [same]
      exact .skipRefused rfl marks.counted
  | @skipUnroutable _ world conversationId turn turns unknown =>
      have found := known.aborting conversationId _ rfl
      rw [unknown] at found
      simp at found
  | @aborted _ world conversationId =>
      have dropped := staged.dropped conversationId _ rfl
      refine .of_turned ?_ (by simp) (fun _ => rfl) (by simp) ?_
      · ext1 <;> try rfl
        change (world.strategy.activeIters.erase conversationId).get? = _
        rw [OrderedDict.erase_of_absent dropped]
        rfl
      · intro other remaining aborting
        obtain ⟨_, empty⟩ := Control.aborting.inj aborting
        exact empty.symm

end InferenceEndpoint
