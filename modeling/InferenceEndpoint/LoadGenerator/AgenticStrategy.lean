import InferenceEndpoint.LoadGenerator.World
import Mathlib.Data.List.Sort

/-!
# Agentic inference strategy

The callbacks of `AgenticInferenceStrategy`, each as a function on worlds.  A
call that may raise returns whether it did, next to the world it left behind.

Two recursions of the source are tied through parameters.  `_fill_slot`,
`_start_conversation`, `_issue_next_turn` and `_finish_conversation` call each
other while slots are refilled: the last three take the refill as an argument,
and `fillSlot` recurses on the number of trajectory instances that may still
start.  A synthetic failure re-enters `on_sample_complete` through the session
callback: the functions that publish one take that callback as an argument.
-/

namespace InferenceEndpoint

/-! ## Configuration -/

structure SampleMeta where
  conversationId : String
  turn : Nat
  sampleIndex : Nat

/-- The parts of the dataset metadata that the strategy reads. -/
structure ConversationMetadata where
  samples : List SampleMeta
  delaySecondsByKey : String → Nat → Option ℚ := fun _ _ => none
  preBuiltMessagesByKey : String → Nat → Option (List ChatMessage) :=
    fun _ _ => none

/-- The constructor arguments, with the defaults of a missing
`AgenticInferenceConfig`.  `turnTimeoutText` is the turn timeout as Python
prints it and `saltDigest` the two-byte BLAKE2 hex digest. -/
structure AgenticConfig where
  metadata : ConversationMetadata
  numTrajectoriesToIssue : Option Nat := none
  stopIssuingOnFirstUserComplete : Bool := false
  injectToolDelay : Bool := false
  enableSalt : Bool := false
  turnTimeoutText : String := "86400.0"
  targetConcurrency : Option Nat := none
  rngSampleIndex : Option Shuffler := none
  saltDigest : String → String := fun _ => ""

/-- The `conv_samples` dictionary of `execute`. -/
def ConversationMetadata.convSamples (metadata : ConversationMetadata) :
    OrderedDict String (List ConversationTurn) :=
  metadata.samples.foldl
    (fun samples sample =>
      samples.insert sample.conversationId
        ((samples.get? sample.conversationId).getD [] ++
          [⟨sample.sampleIndex, sample.turn⟩]))
    ∅

/-- Conversations in dataset order, each with its turns in turn order. -/
def ConversationMetadata.baseConvs (metadata : ConversationMetadata) :
    List (String × List ConversationTurn) :=
  metadata.convSamples.entries.map fun conversation =>
    (conversation.1,
      conversation.2.insertionSort fun first second => first.turn ≤ second.turn)

/-- The key of a trajectory instance. -/
def logicalId (sourceId : String) (instanceId : Nat) : String :=
  if instanceId = 1 then sourceId
  else sourceId ++ "__repeat_" ++ toString instanceId

structure ConversationInstance where
  logicalId : String
  sourceId : String
  turns : List ConversationTurn
  repeatId : Nat
  deriving DecidableEq, Repr

/-! ## Salt -/

/-- `_messages_with_trajectory_salt`; `none` when no system message has a
string content. -/
def messagesWithTrajectorySalt (config : AgenticConfig) (repeatId : Nat)
    (conversationId : String) : List ChatMessage → Option (List ChatMessage)
  | [] => none
  | message :: messages =>
      match message.role, message.content with
      | some "system", some content =>
          let salted :=
            "[salt: " ++ config.saltDigest (toString repeatId) ++ "]\n\n" ++ content ++
              "\n\n[salt: " ++ config.saltDigest conversationId ++ "]"
          some ({ message with content := some salted } :: messages)
      | _, _ =>
          (messagesWithTrajectorySalt config repeatId conversationId messages).map
            (message :: ·)

/-- `_build_data_override`; the outer `none` is an `InputValidationError`. -/
def buildDataOverride (config : AgenticConfig) (sourceId : String)
    (turn repeatId : Nat) : Option (Option DataOverride) :=
  if config.enableSalt then
    match config.metadata.preBuiltMessagesByKey sourceId turn with
    | none => none
    | some messages =>
        (messagesWithTrajectorySalt config repeatId sourceId messages).map some
  else some none

/-- `_validate_salt_system_prompts` passes. -/
def saltSystemPromptsValid (config : AgenticConfig)
    (baseConvs : List (String × List ConversationTurn)) : Bool :=
  !config.enableSalt ||
    baseConvs.all fun conversation =>
      conversation.2.all fun turn =>
        match config.metadata.preBuiltMessagesByKey conversation.1 turn.turn with
        | none => false
        | some messages => messages.any fun message => message.role = some "system"

namespace World

/-! ## Timers -/

/-- `loop.call_later`; when it fires is left open. -/
def callLater (world : World) (callback : Callback) : World :=
  { world with
      timers := world.timers.insert world.nextTimer callback
      nextTimer := world.nextTimer + 1 }

def cancelTimer (world : World) (handle : TimerHandle) : World :=
  { world with timers := world.timers.erase handle }

def cancelTimers (world : World) (handles : List TimerHandle) : World :=
  handles.foldl cancelTimer world

theorem cancelTimers_eq (world : World) (handles : List TimerHandle) :
    world.cancelTimers handles =
      { world with timers := handles.foldl OrderedDict.erase world.timers } := by
  induction handles generalizing world with
  | nil => rfl
  | cons handle handles ih => exact ih (world.cancelTimer handle)

def forgetTimeoutHandle (world : World) (queryId : QueryId) : World :=
  { world with strategy := { world.strategy with
      timeoutHandles := world.strategy.timeoutHandles.erase queryId } }

/-- Pop the timeout of a query and cancel it. -/
def popTimeoutHandle (world : World) (queryId : QueryId) : World :=
  match world.strategy.timeoutHandles.get? queryId with
  | none => world.forgetTimeoutHandle queryId
  | some handle => (world.forgetTimeoutHandle queryId).cancelTimer handle

/-! ## Budget and completion -/

def trajectoryBudget (config : AgenticConfig) (world : World) : Nat :=
  config.numTrajectoriesToIssue.getD world.strategy.baseConvs.length

def hasTrajectoryBudget (config : AgenticConfig) (world : World) : Bool :=
  world.strategy.startedTrajectoryCount < world.trajectoryBudget config

def hasMoreConversationInstances (config : AgenticConfig) (world : World) : Bool :=
  !world.strategy.baseConvs.isEmpty && world.hasTrajectoryBudget config

def initialConversationsToStart (config : AgenticConfig) (world : World) : Nat :=
  if world.strategy.baseConvs.isEmpty || !world.hasTrajectoryBudget config then 0
  else
    let nToStart :=
      match config.targetConcurrency with
      | some (target + 1) => target + 1
      | _ => world.strategy.baseConvs.length
    min nToStart (world.trajectoryBudget config)

def hasWorkRemaining (config : AgenticConfig) (world : World) : Bool :=
  if world.strategy.stopping then
    !world.strategy.inflight.isEmpty || !world.strategy.delayHandles.isEmpty
  else
    !world.strategy.activeIters.isEmpty || !world.strategy.inflight.isEmpty ||
      !world.strategy.delayHandles.isEmpty ||
      world.hasMoreConversationInstances config

def setAllDone (world : World) : World :=
  { world with strategy := { world.strategy with allDone := true } }

/-- Store the exception for `execute` and wake it. -/
def storeError (world : World) : World :=
  { world with strategy := { world.strategy with error := true, allDone := true } }

/-- The `except Exception` clause around a call that may raise. -/
def storeIfRaised : Bool × World → World
  | (true, world) => world.storeError
  | (false, world) => world

def signalDoneIfNoInflight (world : World) : World :=
  if world.strategy.inflight.isEmpty then world.setAllDone else world

/-- The state changes of `_request_stop_issuing` before it signals. -/
def stopIssuing (world : World) : World :=
  { world.cancelTimers world.strategy.delayHandles.values with
      strategy := { world.strategy with
        stopping := true, delayHandles := ∅, activeIters := ∅ } }

def requestStopIssuing (world : World) : World :=
  if world.strategy.stopping then world.signalDoneIfNoInflight
  else world.stopIssuing.signalDoneIfNoInflight

def stopPerformanceTrackingOnce (world : World) : World :=
  if world.strategy.performanceTrackingStopped then world
  else
    stopPerformanceTracking
      { world with strategy := { world.strategy with
          performanceTrackingStopped := true } }

/-! ## Starting conversations and issuing turns -/

/-- The instance with the given number, drawn from the given conversation. -/
def makeInstance (nConvs started : Nat) (base : String × List ConversationTurn) :
    ConversationInstance where
  logicalId := logicalId base.1 (started / nConvs + 1)
  sourceId := base.1
  turns := base.2
  repeatId := started / nConvs + 1

/-- Keep the advanced order and count the instance. -/
def countStarted (world : World) (order : SampleOrder) : World :=
  { world with strategy := { world.strategy with
      conversationOrder := some order
      startedTrajectoryCount := world.strategy.startedTrajectoryCount + 1 } }

/-- `_next_conversation_instance`; the outer `none` is its assertion or the
list access failing. -/
def nextConversationInstance (config : AgenticConfig) (world : World) :
    Option (Option (ConversationInstance × World)) :=
  if !world.hasMoreConversationInstances config then some none
  else
    world.strategy.conversationOrder.bind fun order =>
      world.strategy.baseConvs[order.nextSampleIndex.1]?.map fun base =>
        some (makeInstance world.strategy.baseConvs.length
            world.strategy.startedTrajectoryCount base,
          world.countStarted order.nextSampleIndex.2)

theorem nextConversationInstance_eq_some {config : AgenticConfig} {world drawn : World}
    {started : ConversationInstance}
    (draw : world.nextConversationInstance config = some (some (started, drawn))) :
    world.hasMoreConversationInstances config = true ∧
      ∃ order base, world.strategy.conversationOrder = some order ∧
        world.strategy.baseConvs[order.nextSampleIndex.1]? = some base ∧
        started = makeInstance world.strategy.baseConvs.length
          world.strategy.startedTrajectoryCount base ∧
        drawn = world.countStarted order.nextSampleIndex.2 := by
  unfold nextConversationInstance at draw
  split at draw
  · simp at draw
  · rename_i more
    simp only [Option.bind_eq_some_iff, Option.map_eq_some_iff, Option.some.injEq,
      Prod.mk.injEq] at draw
    obtain ⟨order, ordered, base, found, rfl, rfl⟩ := draw
    exact ⟨by simpa using more, order, base, ordered, found, rfl, rfl⟩

def createConversationState (world : World) (logicalId : String)
    (turns : List ConversationTurn) : World :=
  { world with manager := world.manager.getOrCreate logicalId (some turns.length) }

def setActive (world : World) (conversationId : String)
    (state : ActiveConversation) : World :=
  { world with strategy := { world.strategy with
      activeIters := world.strategy.activeIters.insert conversationId state } }

def popActive (world : World) (conversationId : String) : World :=
  { world with strategy := { world.strategy with
      activeIters := world.strategy.activeIters.erase conversationId } }

def popDelayHandle (world : World) (conversationId : String) : World :=
  { world with strategy := { world.strategy with
      delayHandles := world.strategy.delayHandles.erase conversationId } }

/-- The bookkeeping of `_issue_turn_now` after the issuer accepted the turn. -/
def bookTurn (world : World) (queryId : QueryId) (conversationId : String)
    (state : ActiveConversation) : World :=
  let booked := world.callLater (.handleTimeout queryId conversationId)
  { booked with strategy := { world.strategy with
      activeIters := world.strategy.activeIters.insert conversationId
        { state with cursor := state.cursor + 1 }
      inflight := world.strategy.inflight.insert queryId conversationId
      timeoutHandles := world.strategy.timeoutHandles.insert queryId
        world.nextTimer } }

/-- `_issue_turn_now`; a delayed call may be stale, which the two comparisons
with the active state detect. -/
def issueTurnNow (config : AgenticConfig) (world : World)
    (conversationId : String) (turn : ConversationTurn) : Bool × World :=
  let world := world.popDelayHandle conversationId
  if world.strategy.stopping then (false, world)
  else
    match world.strategy.activeIters.get? conversationId with
    | none => (false, world)
    | some state =>
        if state.turns[state.cursor]? ≠ some turn then (false, world)
        else
          match buildDataOverride config state.sourceId turn.turn state.repeatId with
          | none => (true, world)
          | some dataOverride =>
              match world.issue world.issuer.issuedCount turn.sampleIndex
                  dataOverride conversationId (some turn.turn) with
              | (.raised, world) => (true, world)
              | (.refused, world) => (false, world.requestStopIssuing)
              | (.issued queryId, world) =>
                  (false, world.bookTurn queryId conversationId state)

/-- `_issue_turn_now_safely`, the callback of a delayed turn. -/
def issueTurnNowSafely (config : AgenticConfig) (world : World)
    (conversationId : String) (turn : ConversationTurn) : World :=
  storeIfRaised (world.issueTurnNow config conversationId turn)

def scheduleDelayedTurn (world : World) (conversationId : String)
    (turn : ConversationTurn) : World :=
  let scheduled := world.callLater (.issueTurnNowSafely conversationId turn)
  { scheduled with strategy := { world.strategy with
      delayHandles := world.strategy.delayHandles.insert conversationId
        world.nextTimer } }

def finishConversation (config : AgenticConfig) (fillSlot : World → World)
    (world : World) (conversationId : String) : World :=
  let world := world.popActive conversationId
  if world.hasMoreConversationInstances config then fillSlot world
  else
    let world := world.stopPerformanceTrackingOnce
    if config.stopIssuingOnFirstUserComplete then world.requestStopIssuing
    else fillSlot world

def turnDelay (config : AgenticConfig) (sourceId : String) (turn : Nat) : ℚ :=
  if config.injectToolDelay then
    (config.metadata.delaySecondsByKey sourceId turn).getD 0
  else 0

def issueNextTurn (config : AgenticConfig) (fillSlot : World → World)
    (world : World) (conversationId : String) : Bool × World :=
  if world.strategy.stopping then (false, world)
  else
    match world.strategy.activeIters.get? conversationId with
    | none => (false, world)
    | some state =>
        match state.turns[state.cursor]? with
        | none => (false, world.finishConversation config fillSlot conversationId)
        | some turn =>
            if 0 < turnDelay config state.sourceId turn.turn then
              (false, world.scheduleDelayedTurn conversationId turn)
            else world.issueTurnNow config conversationId turn

/-- Enter a drawn instance into the manager and the active conversations. -/
def enterInstance (world : World) (started : ConversationInstance) : World :=
  (world.createConversationState started.logicalId started.turns).setActive
    started.logicalId
    { sourceId := started.sourceId, turns := started.turns, cursor := 0
      repeatId := started.repeatId }

def startConversation (config : AgenticConfig) (fillSlot : World → World)
    (world : World) : Bool × World :=
  if world.strategy.stopping then (false, world)
  else
    match world.nextConversationInstance config with
    | none => (true, world)
    | some none => (false, fillSlot world)
    | some (some (started, world)) =>
        (world.enterInstance started).issueNextTurn config fillSlot
          started.logicalId

/-- `_fill_slot`, with a bound on the instances it may start. -/
def fillSlot (config : AgenticConfig) : Nat → World → World
  | 0, world => world
  | fuel + 1, world =>
      if world.strategy.stopping then world.signalDoneIfNoInflight
      else if world.hasMoreConversationInstances config then
        storeIfRaised (world.startConversation config (fillSlot config fuel))
      else if world.hasWorkRemaining config then world
      else world.setAllDone

/-- `_fill_slot` with as much fuel as the trajectory budget can use. -/
def refill (config : AgenticConfig) (world : World) : World :=
  fillSlot config
    (world.trajectoryBudget config - world.strategy.startedTrajectoryCount + 1) world

/-! ## Failures -/

/-- The result that stands in for a turn that never got one. -/
def syntheticResult (queryId : QueryId) (errorType errorMessage : String) :
    QueryResult where
  id := queryId
  error := some { errorType := errorType, errorMessage := errorMessage }

/-- `_publish_synthetic_failure`, with the session callback it invokes. -/
def publishSyntheticFailure (callback : World → QueryResult → World)
    (world : World) (queryId : QueryId) (conversationId : String)
    (turn : Option Nat) (errorType errorMessage : String) : World :=
  let failure := syntheticResult queryId errorType errorMessage
  let errorPublished := world.publish
    { eventType := .errorGeneric
      timestampNs := world.nowNs
      sampleUuid := some queryId
      data := failure.error.map .error
      conversationId := conversationId
      turn := turn }
  let completePublished := errorPublished.publish
    { eventType := .complete
      timestampNs := world.nowNs
      sampleUuid := some queryId
      conversationId := conversationId
      turn := turn }
  callback completePublished failure

/-- The loop of `_abort_remaining_turns`. -/
def skipTurns (callback : World → QueryResult → World) (reason : String)
    (conversationId : String) : List ConversationTurn → World → Bool × World
  | [], world => (false, world)
  | turn :: turns, world =>
      match world.manager.markTurnFailed conversationId with
      | none => (true, world)
      | some manager =>
          match ({ world with manager := manager } : World).registerSkipped
              turn.sampleIndex conversationId (some turn.turn) with
          | (none, world) => (false, world)
          | (some skippedId, world) =>
              skipTurns callback reason conversationId turns
                (publishSyntheticFailure callback world skippedId conversationId
                  (some turn.turn) "TurnAbortedByPriorFailure" reason)

/-- Cancel the delayed turn of a conversation and take it off the active
conversations, as `_abort_remaining_turns` does before its loop. -/
def dropConversation (world : World) (conversationId : String) : World :=
  let cancelled :=
    match world.strategy.delayHandles.get? conversationId with
    | none => world.popDelayHandle conversationId
    | some handle => (world.popDelayHandle conversationId).cancelTimer handle
  cancelled.popActive conversationId

/-- The turns of an active conversation that were not issued yet. -/
def remainingTurns (world : World) (conversationId : String) :
    List ConversationTurn :=
  match world.strategy.activeIters.get? conversationId with
  | none => []
  | some state => state.turns.drop state.cursor

/-- `_abort_remaining_turns`; the number of dropped turns is only logged. -/
def abortRemainingTurns (callback : World → QueryResult → World)
    (world : World) (conversationId : String) (reason : String) : Bool × World :=
  skipTurns callback reason conversationId (world.remainingTurns conversationId)
    (world.dropConversation conversationId)

/-- The issuer's side of `_handle_timeout`: the query no longer counts as in
flight, a late result will be dropped, and the entry saying which turn it was
is returned. -/
def terminateQuery (world : World) (queryId : QueryId) :
    (String × Option Nat) × World :=
  if (world.issuer.uuidToIndex.get? queryId).isSome then
    let world := world.markInflightComplete
    ((world.issuer.uuidToConvInfo.get? queryId).getD ("", none),
      { world with issuer := { world.issuer with
          completedUuids := insert queryId world.issuer.completedUuids
          uuidToConvInfo := world.issuer.uuidToConvInfo.erase queryId } })
  else (("", none), world)

def popInflight (world : World) (queryId : QueryId) : World :=
  { world with strategy := { world.strategy with
      inflight := world.strategy.inflight.erase queryId } }

/-- `_handle_timeout`; a `KeyError` of the manager escapes to the event loop,
which logs it. -/
def handleTimeout (config : AgenticConfig)
    (callback : World → QueryResult → World) (world : World)
    (queryId : QueryId) (conversationId : String) : World :=
  if (world.strategy.inflight.get? queryId).isNone then world
  else
    let popped := (world.popInflight queryId).forgetTimeoutHandle queryId
    let (convInfo, terminated) := popped.terminateQuery queryId
    match terminated.manager.markTurnFailed conversationId with
    | none => terminated
    | some manager =>
        let published := publishSyntheticFailure callback
          { terminated with manager := manager } queryId convInfo.1 convInfo.2
          "TurnTimeout" ("turn timeout after " ++ config.turnTimeoutText ++ "s")
        match published.abortRemainingTurns callback conversationId
            ("prior turn timed out (query=" ++ toString queryId ++ ")") with
        | (true, aborted) => aborted
        | (false, aborted) =>
            aborted.finishConversation config (refill config) conversationId

/-! ## Results -/

/-- `on_sample_complete` of the strategy; what it raises is logged by the
session callback. -/
def onSampleComplete (config : AgenticConfig)
    (callback : World → QueryResult → World) (world : World)
    (result : QueryResult) : World :=
  match world.strategy.inflight.get? result.id with
  | none => world
  | some conversationId =>
      let popped := (world.popInflight result.id).popTimeoutHandle result.id
      match result.error with
      | some error =>
          match popped.manager.markTurnFailed conversationId with
          | none => (popped.popActive conversationId).refill config
          | some manager =>
              match ({ popped with manager := manager } : World).abortRemainingTurns
                  callback conversationId
                  ("prior turn errored: " ++ error.errorType) with
              | (true, aborted) => aborted
              | (false, aborted) =>
                  aborted.finishConversation config (refill config) conversationId
      | none =>
          match popped.manager.markTurnComplete conversationId with
          | none => (popped.popActive conversationId).refill config
          | some manager =>
              let marked : World := { popped with manager := manager }
              if marked.strategy.stopping then marked.signalDoneIfNoInflight
              else
                storeIfRaised
                  (marked.issueNextTurn config (refill config) conversationId)

/-- The session callback wired by `_wire_on_sample_complete`: the strategy
first, then the response collector.  A synthetic failure enters it once more
from within the strategy; `depth` bounds that re-entry. -/
def sessionOnSampleComplete (config : AgenticConfig) :
    Nat → World → QueryResult → World
  | 0, world, _ => world
  | depth + 1, world, result =>
      (onSampleComplete config (sessionOnSampleComplete config depth) world
        result).observe (.collected result)

/-- The callback as the session invokes it. -/
def onSampleCompleteCallback (config : AgenticConfig) :
    World → QueryResult → World :=
  sessionOnSampleComplete config 2

/-- The callback as a synthetic failure re-enters it. -/
def onSyntheticFailure (config : AgenticConfig) : World → QueryResult → World :=
  sessionOnSampleComplete config 1

/-- The event loop runs a scheduled callback; `none` if it was cancelled or
has already run. -/
def fireTimer (config : AgenticConfig) (world : World) (handle : TimerHandle) :
    Option World :=
  (world.timers.get? handle).map fun callback =>
    let world := world.cancelTimer handle
    match callback with
    | .handleTimeout queryId conversationId =>
        world.handleTimeout config (onSyntheticFailure config) queryId conversationId
    | .issueTurnNowSafely conversationId turn =>
        world.issueTurnNowSafely config conversationId turn

/-! ## Execute -/

def makeConversationOrder (config : AgenticConfig) (nConvs : Nat) :
    Option SampleOrder :=
  if nConvs = 0 then none
  else
    match config.rngSampleIndex with
    | some rng => some (.newWithoutReplacement nConvs rng)
    | none => some (.newSequential nConvs)

/-- The resets at the head of `execute`. -/
def resetStrategy (config : AgenticConfig) (world : World) : World :=
  { world with strategy := { world.strategy with
      error := false
      allDone := false
      stopping := false
      activeIters := ∅
      inflight := ∅
      startedTrajectoryCount := 0
      performanceTrackingStopped := false
      baseConvs := config.metadata.baseConvs
      conversationOrder :=
        makeConversationOrder config config.metadata.baseConvs.length } }

/-- The seeding loop. -/
def seed (config : AgenticConfig) : Nat → World → Bool × World
  | 0, world => (false, world)
  | count + 1, world =>
      match world.startConversation config (refill config) with
      | (true, world) => (true, world)
      | (false, world) => seed config count world

/-- The `finally` block: cancel and forget every timer and in-flight entry. -/
def cleanUp (world : World) : World :=
  let world := (world.cancelTimers world.strategy.timeoutHandles.values).cancelTimers
    world.strategy.delayHandles.values
  { world with strategy := { world.strategy with
      timeoutHandles := ∅, delayHandles := ∅, inflight := ∅ } }

/-- Where the `execute` coroutine stands. -/
inductive ExecuteStatus
  | notStarted
  | waiting
  | returned (issuedCount : Nat)
  | raised
  | cancelled
  deriving DecidableEq, Repr

/-- `execute` up to its only `await`. -/
def executeStart (config : AgenticConfig) (world : World) :
    ExecuteStatus × World :=
  let reset := world.resetStrategy config
  if !saltSystemPromptsValid config reset.strategy.baseConvs then (.raised, reset)
  else
    match reset.seed config (reset.initialConversationsToStart config) with
    | (true, seeded) => (.raised, seeded.cleanUp)
    | (false, seeded) =>
        if !seeded.hasWorkRemaining config then
          (.returned seeded.issuer.issuedCount, seeded.cleanUp)
        else (.waiting, seeded)

/-- `execute` after `_all_done` was set. -/
def executeResume (world : World) : ExecuteStatus × World :=
  if world.strategy.error then (.raised, world.cleanUp)
  else (.returned world.issuer.issuedCount, world.cleanUp)

end World

end InferenceEndpoint
