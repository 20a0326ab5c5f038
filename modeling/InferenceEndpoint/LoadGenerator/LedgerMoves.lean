import InferenceEndpoint.LoadGenerator.Terminals

/-!
# Effects of the operations

The operations of the strategy and the session have the effects on the books
that the ledger and the uniqueness of COMPLETE events were shown to survive.
-/

namespace InferenceEndpoint

/-! ## Effects of a move -/

/-- The effect of one move on the books. -/
inductive Effect : Moment → Moment → Prop
  | same {first second : Moment}
      (uncollected : second.uncollected = first.uncollected)
      (books : SameBooks first.world second.world) : Effect first second
  | draws {first second : Moment}
      (uncollected : second.uncollected = first.uncollected)
      (books : Draws first.world second.world) : Effect first second
  | issues {first second : Moment}
      (uncollected : second.uncollected = first.uncollected)
      (books : Issues first.world second.world) : Effect first second
  | skips {first second : Moment}
      (uncollected : second.uncollected = first.uncollected)
      (books : Skips first.world second.world) : Effect first second
  | answers {first second : Moment} {result : QueryResult} {conversationId : String}
      (collected : first.uncollected = none)
      (uncollected : second.uncollected = some result)
      (waiting : first.world.strategy.inflight.get? result.id = some conversationId)
      (books : Answers result.id first.world second.world) : Effect first second
  | expires {first second : Moment} {queryId : QueryId} {conversationId : String}
      (uncollected : second.uncollected = first.uncollected)
      (waiting : first.world.strategy.inflight.get? queryId = some conversationId)
      (books : Expires queryId first.world second.world) : Effect first second
  | collects {first second : Moment} {result : QueryResult}
      (uncollected : first.uncollected = some result)
      (collected : second.uncollected = none)
      (world : second.world = first.world.observe (.collected result)) :
      Effect first second

theorem Effect.ledger {first second : Moment} (effect : Effect first second)
    (ledger : Ledger first.uncollected first.world) :
    Ledger second.uncollected second.world := by
  cases effect with
  | same uncollected books => rw [uncollected]; exact books.ledger ledger
  | draws uncollected books => rw [uncollected]; exact ledger.draws books
  | issues uncollected books => rw [uncollected]; exact ledger.issues books
  | skips uncollected books => rw [uncollected]; exact ledger.skips books
  | answers collected uncollected waiting books =>
      have unresolved := ledger.waitingUnresolved _ _ waiting
      rw [collected] at ledger
      rw [uncollected]
      exact ledger.answers unresolved books
  | expires uncollected waiting books =>
      rw [uncollected]
      exact ledger.expires (ledger.waitingUnresolved _ _ waiting) books
  | collects uncollected collected world =>
      rw [collected, world]
      exact ledger.collects (ledger.uncollectedReceived _ uncollected)

theorem Effect.terminals {first second : Moment} (effect : Effect first second)
    (terminals : Terminals first.uncollected first.world) :
    Terminals second.uncollected second.world := by
  cases effect with
  | same uncollected books => rw [uncollected]; exact books.terminals terminals
  | draws uncollected books => rw [uncollected]; exact terminals.draws books
  | issues uncollected books => rw [uncollected]; exact terminals.issues books
  | skips uncollected books => rw [uncollected]; exact terminals.skips books
  | answers collected uncollected waiting books =>
      rw [collected] at terminals
      rw [uncollected]
      exact terminals.answers waiting books
  | expires uncollected waiting books =>
      rw [uncollected]
      exact terminals.expires waiting books
  | collects uncollected collected world =>
      rw [collected, world]
      obtain ⟨received, settled⟩ := terminals.uncollectedSettled _ uncollected
      exact terminals.collects received settled

/-! ## Books of the operations -/

theorem history_announceResult (world : World) (result : QueryResult) :
    (world.announceResult result).history =
      world.history ++ (world.resultEvents result).map .published := by
  simp [World.history, World.announceResult, World.popConvInfo]

@[simp]
theorem announceResult_sentIds (world : World) (result : QueryResult) :
    (world.announceResult result).sentIds = world.sentIds := by
  simp [World.sentIds, history_announceResult, List.filterMap_map,
    Function.comp_def, Observation.sentId?]

@[simp]
theorem announceResult_receivedIds (world : World) (result : QueryResult) :
    (world.announceResult result).receivedIds = world.receivedIds := by
  simp [World.receivedIds, history_announceResult, List.filterMap_map,
    Function.comp_def, Observation.receivedId?]

@[simp]
theorem announceResult_collectedIds (world : World) (result : QueryResult) :
    (world.announceResult result).collectedIds = world.collectedIds := by
  simp [World.collectedIds, history_announceResult, List.filterMap_map,
    Function.comp_def, Observation.collectedId?]

theorem announceResult_completeIds (world : World) (result : QueryResult) :
    (world.announceResult result).completeIds =
      world.completeIds ++ if world.phaseType = .warmup then [] else [result.id] := by
  have errors : (result.error.toList.map
      (world.errorEvent result (world.convInfo result.id))).filterMap
        (Observation.completeId? ∘ Observation.published) = [] := by
    cases result.error <;>
      simp [Observation.completeId?, World.errorEvent]
  rw [World.completeIds, history_announceResult, List.filterMap_append,
    List.filterMap_map, World.resultEvents, List.filterMap_append, errors,
    List.nil_append]
  split <;> simp [World.completeIds, Observation.completeId?, World.completeEvent]

theorem sentIds_congr {first second : World}
    (sameHistory : second.history = first.history) :
    second.sentIds = first.sentIds := by
  rw [World.sentIds, World.sentIds, sameHistory]

theorem receivedIds_congr {first second : World}
    (sameHistory : second.history = first.history) :
    second.receivedIds = first.receivedIds := by
  rw [World.receivedIds, World.receivedIds, sameHistory]

theorem collectedIds_congr {first second : World}
    (sameHistory : second.history = first.history) :
    second.collectedIds = first.collectedIds := by
  rw [World.collectedIds, World.collectedIds, sameHistory]

theorem completeIds_congr {first second : World}
    (sameHistory : second.history = first.history) :
    second.completeIds = first.completeIds := by
  rw [World.completeIds, World.completeIds, sameHistory]

/-- Announcing and counting the result of a query, followed by changes to the strategy that stop waiting for it. -/
theorem answers_of_announced {world second : World} {result : QueryResult}
    (history : second.history =
      ((world.observe (.received result)).announceResult
        result).markInflightComplete.history)
    (issuer : second.issuer =
      ((world.observe (.received result)).announceResult
        result).markInflightComplete.issuer)
    (nextUuid : second.nextUuid = world.nextUuid)
    (waiting : ∀ other conversationId,
      second.strategy.inflight.get? other = some conversationId →
        world.strategy.inflight.get? other = some conversationId ∧
          other ≠ result.id) :
    Answers result.id world second := by
  rw [World.markInflightComplete_history] at history
  refine ⟨waiting, ?_, ?_, ?_, nextUuid, ?_, ?_, ?_, ?_⟩
  · rw [issuer, World.markInflightComplete_uuidToIndex]
    rfl
  · rw [issuer, World.markInflightComplete_completedUuids]
    rfl
  · intro positive
    rw [issuer]
    exact World.markInflightComplete_inflight
      ((world.observe (.received result)).announceResult result) positive
  · rw [sentIds_congr history]
    simp [Observation.sentId?]
  · rw [receivedIds_congr history]
    simp [Observation.receivedId?]
  · rw [collectedIds_congr history]
    simp [Observation.collectedId?]
  · rw [completeIds_congr history, announceResult_completeIds]
    split
    · right
      simp [Observation.completeId?]
    · left
      simp [Observation.completeId?]

theorem answers_acceptResult (world : World) (result : QueryResult) :
    Answers result.id world (world.acceptResult result) := by
  refine answers_of_announced ?_ ?_ (World.acceptResult_nextUuid _ _) ?_
  · rw [World.acceptResult, World.popTimeoutHandle_history]
    rfl
  · rw [World.acceptResult, World.popTimeoutHandle_issuer]
    rfl
  · intro other conversationId waiting
    rw [World.acceptResult_strategy] at waiting
    dsimp only at waiting
    rw [OrderedDict.get?_erase] at waiting
    split at waiting
    · simp at waiting
    · rename_i different
      exact ⟨waiting, different⟩

theorem answers_announced {world : World} {result : QueryResult}
    (notWaiting : world.strategy.inflight.get? result.id = none) :
    Answers result.id world
      ((world.observe (.received result)).announceResult
        result).markInflightComplete := by
  refine answers_of_announced rfl rfl
    (World.markInflightComplete_nextUuid _) ?_
  intro other conversationId waiting
  rw [World.markInflightComplete_strategy] at waiting
  refine ⟨waiting, ?_⟩
  rintro rfl
  have found : world.strategy.inflight.get? result.id = some conversationId := waiting
  simp [notWaiting] at found

theorem Answers.then {queryId : QueryId} {first second third : World}
    (answers : Answers queryId first second) (same : SameBooks second third) :
    Answers queryId first third where
  waiting := by rw [same.waiting]; exact answers.waiting
  uuidToIndex := same.uuidToIndex.trans answers.uuidToIndex
  completedUuids := same.completedUuids.trans answers.completedUuids
  inflight positive := same.inflight.trans (answers.inflight positive)
  nextUuid := same.nextUuid.trans answers.nextUuid
  sentIds := same.sentIds.trans answers.sentIds
  receivedIds := same.receivedIds.trans answers.receivedIds
  collectedIds := same.collectedIds.trans answers.collectedIds
  completeIds := by rw [same.completeIds]; exact answers.completeIds

theorem sameBooks_popActive (world : World) (conversationId : String) :
    SameBooks world (world.popActive conversationId) :=
  ⟨rfl, rfl, rfl, rfl, rfl, rfl, rfl, rfl, rfl⟩

theorem sameBooks_withManager (world : World) (manager : ConversationManager) :
    SameBooks world (world.withManager manager) :=
  ⟨rfl, rfl, rfl, rfl, rfl, rfl, rfl, rfl, rfl⟩

theorem sameBooks_popDelayHandle (world : World) (conversationId : String) :
    SameBooks world (world.popDelayHandle conversationId) :=
  ⟨rfl, rfl, rfl, rfl, rfl, rfl, rfl, rfl, rfl⟩

theorem sameBooks_cancelTimer (world : World) (handle : TimerHandle) :
    SameBooks world (world.cancelTimer handle) :=
  ⟨rfl, rfl, rfl, rfl, rfl, rfl, rfl, rfl, rfl⟩

theorem sameBooks_dropConversation (world : World) (conversationId : String) :
    SameBooks world (world.dropConversation conversationId) := by
  have history := World.dropConversation_history world conversationId
  refine ⟨?_, ?_, ?_, ?_, World.dropConversation_nextUuid world conversationId,
    sentIds_congr history, receivedIds_congr history, collectedIds_congr history,
    completeIds_congr history⟩
  · rw [World.dropConversation_strategy]
  · rw [World.dropConversation_issuer]
  · rw [World.dropConversation_issuer]
  · rw [World.dropConversation_issuer]

theorem sameBooks_refused (world : World) (conversationId : String)
    (turn : Option Nat) :
    SameBooks world (world.afterStopCheck.observe (.refused conversationId turn)) :=
  (⟨rfl, rfl, rfl, rfl, rfl, rfl, rfl, rfl, rfl⟩ :
    SameBooks world world.afterStopCheck).trans (.observe _ rfl rfl rfl rfl)

theorem sameBooks_stopIssuing (world : World) :
    SameBooks world world.stopIssuing := by
  rw [World.stopIssuing, World.cancelTimers_eq]
  exact ⟨rfl, rfl, rfl, rfl, rfl, rfl, rfl, rfl, rfl⟩

theorem sameBooks_stopPerformanceTracking (world : World) :
    SameBooks world world.stopPerformanceTracking := by
  unfold World.stopPerformanceTracking
  split
  · exact ⟨rfl, rfl, rfl, rfl, rfl, rfl, rfl, rfl, rfl⟩
  · have flagged : SameBooks world { world with
        issuer := { world.issuer with performanceTrackingStopped := true } } :=
      ⟨rfl, rfl, rfl, rfl, rfl, rfl, rfl, rfl, rfl⟩
    exact flagged.trans ((SameBooks.observe _ rfl rfl rfl rfl).trans
      (SameBooks.observe _ rfl rfl rfl rfl))

theorem sameBooks_stopPerformanceTrackingOnce (world : World) :
    SameBooks world world.stopPerformanceTrackingOnce := by
  unfold World.stopPerformanceTrackingOnce
  split
  · exact ⟨rfl, rfl, rfl, rfl, rfl, rfl, rfl, rfl, rfl⟩
  · exact (⟨rfl, rfl, rfl, rfl, rfl, rfl, rfl, rfl, rfl⟩ : SameBooks world
      { world with strategy := { world.strategy with
          performanceTrackingStopped := true } }).trans
        (sameBooks_stopPerformanceTracking _)

theorem sameBooks_setAllDone (world : World) :
    SameBooks world world.setAllDone :=
  ⟨rfl, rfl, rfl, rfl, rfl, rfl, rfl, rfl, rfl⟩

theorem sameBooks_storeError (world : World) :
    SameBooks world world.storeError :=
  ⟨rfl, rfl, rfl, rfl, rfl, rfl, rfl, rfl, rfl⟩

theorem sameBooks_scheduleDelayedTurn (world : World) (conversationId : String)
    (turn : ConversationTurn) :
    SameBooks world (world.scheduleDelayedTurn conversationId turn) :=
  ⟨rfl, rfl, rfl, rfl, rfl, rfl, rfl, rfl, rfl⟩

/-! ## Issuing, skipping and timing out -/

theorem registered_insert {index : OrderedDict QueryId Nat} {new : QueryId}
    {sampleIndex : Nat} (queryId : QueryId) :
    ((index.insert new sampleIndex).get? queryId).isSome ↔
      (index.get? queryId).isSome ∨ queryId = new := by
  rw [OrderedDict.get?_insert]
  by_cases same : queryId = new <;> simp [same]

theorem draws_issueRaised {world next : World} {sampleIndex : Nat}
    {conversationId : String} {turn : Option Nat}
    (raised : World.IssueRaised world sampleIndex conversationId turn next) :
    Draws world next := by
  cases raised with
  | unregistered =>
      exact ⟨rfl, fun _ => Or.inl, fun _ => id, rfl, rfl, rfl, rfl, rfl, rfl, rfl⟩
  | unannounced =>
      exact ⟨rfl, fun _ => (registered_insert _).mp,
        fun _ known => (registered_insert _).mpr (Or.inl known),
        rfl, rfl, rfl, rfl, rfl, rfl, rfl⟩
  | unsent prompt =>
      have history : ({ (world.afterStopCheck.register sampleIndex conversationId
          turn).publish (world.issuedEvent world.nextUuid conversationId turn
            prompt) with sends := world.sends + 1 } : World).history =
          world.history ++
            [Observation.published (world.issuedEvent world.nextUuid conversationId turn prompt)] :=
        World.history_observe (world.afterStopCheck.register sampleIndex
          conversationId turn) _
      refine ⟨rfl, fun _ => (registered_insert _).mp,
        fun _ known => (registered_insert _).mpr (Or.inl known), rfl, rfl, rfl,
        ?_, ?_, ?_, ?_⟩
      · rw [World.sentIds, history]
        simp [World.sentIds, Observation.sentId?]
      · rw [World.receivedIds, history]
        simp [World.receivedIds, Observation.receivedId?]
      · rw [World.collectedIds, history]
        simp [World.collectedIds, Observation.collectedId?]
      · rw [World.completeIds, history]
        simp [World.completeIds, Observation.completeId?, World.issuedEvent]

theorem issues_bookTurn {world : World} {query : Query} (prompt : PromptData)
    (sampleIndex : Nat) (conversationId : String) (turn : Option Nat)
    (state : ActiveConversation) (fresh : query.id = world.nextUuid) :
    Issues world
      ((world.afterIssued query prompt sampleIndex conversationId turn).bookTurn
        query.id conversationId state) := by
  have history : ((world.afterIssued query prompt sampleIndex conversationId
      turn).bookTurn query.id conversationId state).history =
      world.history ++
        [Observation.published (world.issuedEvent world.nextUuid conversationId turn prompt),
          Observation.sent query conversationId turn] := by
    simp [World.history, World.bookTurn, World.callLater, World.afterIssued,
      World.sendQuery, World.publish, World.observe, World.register,
      World.afterStopCheck]
  refine ⟨?_, fun _ => registered_insert _, rfl, rfl, rfl, ?_, ?_, ?_, ?_⟩
  · intro other otherId waiting
    have inserted : (world.strategy.inflight.insert query.id conversationId).get?
        other = some otherId := waiting
    rw [OrderedDict.get?_insert] at inserted
    split at inserted
    · rename_i same
      exact Or.inr (same.trans fresh)
    · exact Or.inl inserted
  · rw [World.sentIds, history, List.filterMap_append, ← fresh]
    rfl
  · rw [World.receivedIds, history]
    simp [World.receivedIds, Observation.receivedId?]
  · rw [World.collectedIds, history]
    simp [World.collectedIds, Observation.collectedId?]
  · rw [World.completeIds, history]
    simp [World.completeIds, Observation.completeId?, World.issuedEvent]

/-- The observations of a synthetic failure. -/
theorem history_recordFailure (world : World) (queryId : QueryId)
    (conversationId : String) (turn : Option Nat) (errorType errorMessage : String) :
    (world.recordFailure queryId conversationId turn errorType errorMessage).history =
      world.history ++
        [Observation.published
            { eventType := .errorGeneric
              timestampNs := world.nowNs
              sampleUuid := some queryId
              data := some (.error
                { errorType := errorType, errorMessage := errorMessage })
              conversationId := conversationId
              turn := turn },
          Observation.published
            { eventType := .complete
              timestampNs := world.nowNs
              sampleUuid := some queryId
              conversationId := conversationId
              turn := turn },
          Observation.collected (World.syntheticResult queryId errorType errorMessage)] := by
  simp [World.history, World.recordFailure, World.publish, World.observe,
    World.syntheticResult]

section RecordFailure

variable (world : World) (queryId : QueryId) (conversationId : String)
  (turn : Option Nat) (errorType errorMessage : String)

@[simp]
theorem sentIds_recordFailure :
    (world.recordFailure queryId conversationId turn errorType
      errorMessage).sentIds = world.sentIds := by
  rw [World.sentIds, history_recordFailure, List.filterMap_append]
  exact List.append_nil _

@[simp]
theorem receivedIds_recordFailure :
    (world.recordFailure queryId conversationId turn errorType
      errorMessage).receivedIds = world.receivedIds := by
  rw [World.receivedIds, history_recordFailure, List.filterMap_append]
  exact List.append_nil _

@[simp]
theorem collectedIds_recordFailure :
    (world.recordFailure queryId conversationId turn errorType
      errorMessage).collectedIds = world.collectedIds ++ [queryId] := by
  rw [World.collectedIds, history_recordFailure, List.filterMap_append]
  rfl

@[simp]
theorem completeIds_recordFailure :
    (world.recordFailure queryId conversationId turn errorType
      errorMessage).completeIds = world.completeIds ++ [queryId] := by
  rw [World.completeIds, history_recordFailure, List.filterMap_append]
  rfl

end RecordFailure

theorem history_afterSkipped (world : World) (sampleIndex : Nat)
    (conversationId : String) (turn : Option Nat) :
    (world.afterSkipped sampleIndex conversationId turn).history =
      world.history ++
        [Observation.published (world.issuedEvent world.nextUuid conversationId turn {})] := by
  simp [World.history, World.afterSkipped, World.publish, World.observe,
    World.register, World.afterStopCheck]

theorem skips_recordFailure (world : World) (manager : ConversationManager)
    (sampleIndex : Nat) (conversationId : String) (turn : Option Nat)
    (errorType errorMessage : String) :
    Skips world
      (((world.withManager manager).afterSkipped sampleIndex conversationId
        turn).recordFailure world.nextUuid conversationId turn errorType
          errorMessage) := by
  have history := history_afterSkipped (world.withManager manager) sampleIndex
    conversationId turn
  refine ⟨rfl, fun _ => registered_insert _, rfl, rfl, rfl, ?_, ?_, ?_, ?_⟩
  · rw [sentIds_recordFailure, World.sentIds, history]
    simp [World.sentIds, Observation.sentId?, World.history, World.withManager]
  · rw [receivedIds_recordFailure, World.receivedIds, history]
    simp [World.receivedIds, Observation.receivedId?, World.history,
      World.withManager]
  · rw [collectedIds_recordFailure, World.collectedIds, history]
    simp [World.collectedIds, Observation.collectedId?, World.history,
      World.withManager]
  · rw [completeIds_recordFailure, World.completeIds, history]
    simp [World.completeIds, Observation.completeId?, World.history,
      World.withManager, World.issuedEvent]

theorem expireQuery_history (world : World) (queryId : QueryId) :
    (world.expireQuery queryId).history = world.history := by
  unfold World.expireQuery World.terminateQuery
  split
  · exact World.markInflightComplete_history _
  · rfl

/-- The books after a timeout, up to the failure it publishes. -/
theorem expires_recordTimeout (config : AgenticConfig) (world : World)
    (queryId : QueryId) (manager : ConversationManager) (convInfo : String × Option Nat) :
    Expires queryId world
      (((world.expireQuery queryId).withManager manager).recordTimeout config
        queryId convInfo) := by
  have history := expireQuery_history world queryId
  have terminated : (world.issuer.uuidToIndex.get? queryId).isSome → (world.expireQuery queryId).issuer =
      { ((world.popInflight queryId).forgetTimeoutHandle
          queryId).markInflightComplete.issuer with
        completedUuids := insert queryId
          ((world.popInflight queryId).forgetTimeoutHandle
            queryId).markInflightComplete.issuer.completedUuids
        uuidToConvInfo :=
          ((world.popInflight queryId).forgetTimeoutHandle
            queryId).markInflightComplete.issuer.uuidToConvInfo.erase queryId } := by
    intro registered
    unfold World.expireQuery World.terminateQuery
    rw [if_pos (show (((world.popInflight queryId).forgetTimeoutHandle
      queryId).issuer.uuidToIndex.get? queryId).isSome from registered)]
  have issuer : ((((world.expireQuery queryId).withManager manager).recordTimeout
      config queryId convInfo)).issuer = (world.expireQuery queryId).issuer := rfl
  refine ⟨?_, ?_, ?_, ?_, ?_, ?_, ?_, ?_, ?_⟩
  · intro other conversationId waiting
    have erased : (world.strategy.inflight.erase queryId).get? other =
        some conversationId := by
      have stillWaiting : (world.expireQuery queryId).strategy.inflight.get? other =
          some conversationId := waiting
      rwa [World.expireQuery_strategy] at stillWaiting
    rw [OrderedDict.get?_erase] at erased
    split at erased
    · simp at erased
    · rename_i different
      exact ⟨erased, different⟩
  · rw [issuer]
    unfold World.expireQuery World.terminateQuery
    split
    · exact World.markInflightComplete_uuidToIndex _
    · rfl
  · rw [issuer]
    split
    · rename_i registered
      rw [terminated registered]
      simp only [World.markInflightComplete_completedUuids]
      rfl
    · rename_i unregistered
      unfold World.expireQuery World.terminateQuery
      rw [if_neg]
      · rfl
      · exact unregistered
  · intro registered positive
    rw [issuer, terminated registered]
    exact World.markInflightComplete_inflight
      ((world.popInflight queryId).forgetTimeoutHandle queryId) positive
  · exact World.expireQuery_nextUuid world queryId
  · rw [World.recordTimeout, sentIds_recordFailure]
    exact sentIds_congr history
  · rw [World.recordTimeout, receivedIds_recordFailure]
    exact receivedIds_congr history
  · rw [World.recordTimeout, collectedIds_recordFailure]
    exact congrArg (· ++ [queryId]) (collectedIds_congr history)
  · rw [World.recordTimeout, completeIds_recordFailure]
    exact congrArg (· ++ [queryId]) (completeIds_congr history)

theorem Issues.after {first second third : World}
    (same : SameBooks first second) (issues : Issues second third) :
    Issues first third where
  waiting := by rw [← same.waiting, ← same.nextUuid]; exact issues.waiting
  registered := by rw [← same.uuidToIndex, ← same.nextUuid]; exact issues.registered
  completedUuids := issues.completedUuids.trans same.completedUuids
  inflight := by rw [← same.inflight]; exact issues.inflight
  nextUuid := by rw [← same.nextUuid]; exact issues.nextUuid
  sentIds := by rw [← same.sentIds, ← same.nextUuid]; exact issues.sentIds
  receivedIds := issues.receivedIds.trans same.receivedIds
  collectedIds := issues.collectedIds.trans same.collectedIds
  completeIds := issues.completeIds.trans same.completeIds

theorem Draws.after {first second third : World}
    (same : SameBooks first second) (draws : Draws second third) :
    Draws first third where
  waiting := draws.waiting.trans same.waiting
  registered := by rw [← same.uuidToIndex, ← same.nextUuid]; exact draws.registered
  stillRegistered := by rw [← same.uuidToIndex]; exact draws.stillRegistered
  completedUuids := draws.completedUuids.trans same.completedUuids
  inflight := draws.inflight.trans same.inflight
  nextUuid := by rw [← same.nextUuid]; exact draws.nextUuid
  sentIds := draws.sentIds.trans same.sentIds
  receivedIds := draws.receivedIds.trans same.receivedIds
  collectedIds := draws.collectedIds.trans same.collectedIds
  completeIds := draws.completeIds.trans same.completeIds

theorem Expires.after {queryId : QueryId} {first second third : World}
    (same : SameBooks first second) (expires : Expires queryId second third) :
    Expires queryId first third where
  waiting := by rw [← same.waiting]; exact expires.waiting
  uuidToIndex := expires.uuidToIndex.trans same.uuidToIndex
  completedUuids := by
    rw [← same.uuidToIndex, ← same.completedUuids]
    exact expires.completedUuids
  inflight := by rw [← same.uuidToIndex, ← same.inflight]; exact expires.inflight
  nextUuid := expires.nextUuid.trans same.nextUuid
  sentIds := expires.sentIds.trans same.sentIds
  receivedIds := expires.receivedIds.trans same.receivedIds
  collectedIds := by rw [expires.collectedIds, same.collectedIds]
  completeIds := by rw [expires.completeIds, same.completeIds]

theorem Expires.then {queryId : QueryId} {first second third : World}
    (expires : Expires queryId first second) (same : SameBooks second third) :
    Expires queryId first third where
  waiting := by rw [same.waiting]; exact expires.waiting
  uuidToIndex := same.uuidToIndex.trans expires.uuidToIndex
  completedUuids := same.completedUuids.trans expires.completedUuids
  inflight registered positive :=
    same.inflight.trans (expires.inflight registered positive)
  nextUuid := same.nextUuid.trans expires.nextUuid
  sentIds := same.sentIds.trans expires.sentIds
  receivedIds := same.receivedIds.trans expires.receivedIds
  collectedIds := same.collectedIds.trans expires.collectedIds
  completeIds := same.completeIds.trans expires.completeIds

theorem sameBooks_nextConversationInstance {config : AgenticConfig}
    {world drawn : World} {started : ConversationInstance}
    (draw : world.nextConversationInstance config = some (some (started, drawn))) :
    SameBooks world (drawn.enterInstance started) := by
  obtain ⟨_, order, base, _, _, _, rfl⟩ :=
    World.nextConversationInstance_eq_some draw
  exact ⟨rfl, rfl, rfl, rfl, rfl, rfl, rfl, rfl, rfl⟩

end InferenceEndpoint
