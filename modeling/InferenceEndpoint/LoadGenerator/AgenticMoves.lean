import InferenceEndpoint.LoadGenerator.Responses
import Mathlib.Logic.Relation

/-!
# Moves of the agentic strategy

Every callback of the strategy is a sequence of small moves: a turn is issued,
a delayed turn is scheduled, an instance is started, a remaining turn is
skipped, and so on.  `Move` lists them once, each with the conditions under
which the code makes it, and the rest of this file shows that the callbacks
only make these moves.  All invariants of the strategy are proved against
`Move`.

A moment pairs the world with what the running callback is about to do, and
with the real result that the session callback has not passed to the response
collector yet.
-/

namespace InferenceEndpoint

inductive Control
  /-- No callback is running. -/
  | idle
  /-- A slot may be free: `_fill_slot` or its equivalent is due. -/
  | filling
  /-- `_issue_next_turn` is due for the conversation. -/
  | holding (conversationId : String)
  /-- `_issue_turn_now` is due for the conversation and turn. -/
  | due (conversationId : String) (turn : ConversationTurn)
  /-- An exception is on its way to `execute`. -/
  | raising
  /-- The conversation failed and these turns are left to skip. -/
  | aborting (conversationId : String) (remaining : List ConversationTurn)

structure Moment where
  control : Control
  uncollected : Option QueryResult
  world : World

namespace World

/-- The strategy's `pop`s after the session announced and counted a result. -/
def acceptResult (world : World) (result : QueryResult) : World :=
  let announced :=
    ((world.observe (.received result)).announceResult result).markInflightComplete
  (announced.popInflight result.id).popTimeoutHandle result.id

/-- A synthetic failure after its session callback, for a query the strategy
is not waiting for. -/
def recordFailure (world : World) (queryId : QueryId) (conversationId : String)
    (turn : Option Nat) (errorType errorMessage : String) : World :=
  let failure := syntheticResult queryId errorType errorMessage
  ((world.publish
    { eventType := .errorGeneric
      timestampNs := world.nowNs
      sampleUuid := some queryId
      data := failure.error.map .error
      conversationId := conversationId
      turn := turn }).publish
    { eventType := .complete
      timestampNs := world.nowNs
      sampleUuid := some queryId
      conversationId := conversationId
      turn := turn }).observe (.collected failure)

/-- The world in which a timed-out query was popped and terminated. -/
def expireQuery (world : World) (queryId : QueryId) : World :=
  (((world.popInflight queryId).forgetTimeoutHandle queryId).terminateQuery
    queryId).2

/-- The failure that a timeout publishes. -/
def recordTimeout (config : AgenticConfig) (world : World) (queryId : QueryId)
    (convInfo : String × Option Nat) : World :=
  world.recordFailure queryId convInfo.1 convInfo.2 "TurnTimeout"
    ("turn timeout after " ++ config.turnTimeoutText ++ "s")

def withManager (world : World) (manager : ConversationManager) : World :=
  { world with manager := manager }

end World

/-- One step of a running callback. -/
inductive Move (config : AgenticConfig) : Moment → Moment → Prop
  /-- A successful result reaches the strategy. -/
  | answered {world : World} {result : QueryResult} {conversationId : String}
      {manager : ConversationManager}
      (waiting : world.strategy.inflight.get? result.id = some conversationId)
      (open_ : result.id ∉ world.issuer.completedUuids)
      (registered : (world.issuer.uuidToIndex.get? result.id).isSome)
      (measured : world.phaseType ≠ .warmup)
      (succeeded : result.error = none)
      (marked : world.manager.markTurnComplete conversationId = some manager) :
      Move config ⟨.idle, none, world⟩
        ⟨if world.strategy.stopping then .filling else .holding conversationId,
          some result, (world.acceptResult result).withManager manager⟩
  /-- An error result reaches the strategy. -/
  | rejected {world : World} {result : QueryResult} {conversationId : String}
      {manager : ConversationManager}
      (waiting : world.strategy.inflight.get? result.id = some conversationId)
      (open_ : result.id ∉ world.issuer.completedUuids)
      (registered : (world.issuer.uuidToIndex.get? result.id).isSome)
      (measured : world.phaseType ≠ .warmup)
      (failed : result.error.isSome)
      (marked : world.manager.markTurnFailed conversationId = some manager) :
      Move config ⟨.idle, none, world⟩
        ⟨.aborting conversationId (world.remainingTurns conversationId), some result,
          ((world.acceptResult result).withManager manager).dropConversation
            conversationId⟩
  /-- A result of a conversation that the manager does not know. -/
  | unroutable {world : World} {result : QueryResult} {conversationId : String}
      (waiting : world.strategy.inflight.get? result.id = some conversationId)
      (open_ : result.id ∉ world.issuer.completedUuids)
      (registered : (world.issuer.uuidToIndex.get? result.id).isSome)
      (measured : world.phaseType ≠ .warmup)
      (unknown : world.manager.get? conversationId = none) :
      Move config ⟨.idle, none, world⟩
        ⟨.filling, some result,
          (world.acceptResult result).popActive conversationId⟩
  /-- The collector records the result that was just handled. -/
  | collected {world : World} {result : QueryResult} :
      Move config ⟨.idle, some result, world⟩
        ⟨.idle, none, world.observe (.collected result)⟩
  /-- A turn times out. -/
  | timedOut {world : World} {handle : TimerHandle} {queryId : QueryId}
      {conversationId waitingId : String} {manager : ConversationManager}
      (scheduled : world.timers.get? handle =
        some (.handleTimeout queryId conversationId))
      (waiting : world.strategy.inflight.get? queryId = some waitingId)
      (marked : world.manager.markTurnFailed conversationId = some manager) :
      Move config ⟨.idle, none, world⟩
        ⟨.aborting conversationId (world.remainingTurns conversationId), none,
          (((((world.cancelTimer handle).expireQuery queryId).withManager
            manager).recordTimeout config queryId
              (if (world.issuer.uuidToIndex.get? queryId).isSome then
                world.convInfo queryId
              else ("", none))).dropConversation conversationId)⟩
  /-- A timeout of a conversation that the manager does not know. -/
  | timeoutUnroutable {world : World} {handle : TimerHandle} {queryId : QueryId}
      {conversationId waitingId : String}
      (scheduled : world.timers.get? handle =
        some (.handleTimeout queryId conversationId))
      (waiting : world.strategy.inflight.get? queryId = some waitingId)
      (unknown : world.manager.get? conversationId = none) :
      Move config ⟨.idle, none, world⟩
        ⟨.idle, none, (world.cancelTimer handle).expireQuery queryId⟩
  /-- The timer of a query that is no longer waited for. -/
  | expired {world : World} {handle : TimerHandle} {queryId : QueryId}
      {conversationId : String}
      (scheduled : world.timers.get? handle =
        some (.handleTimeout queryId conversationId))
      (settled : world.strategy.inflight.get? queryId = none) :
      Move config ⟨.idle, none, world⟩ ⟨.idle, none, world.cancelTimer handle⟩
  /-- The delay of a turn has elapsed. -/
  | delayElapsed {world : World} {handle : TimerHandle} {conversationId : String}
      {turn : ConversationTurn}
      (scheduled : world.timers.get? handle =
        some (.issueTurnNowSafely conversationId turn)) :
      Move config ⟨.idle, none, world⟩
        ⟨.due conversationId turn, none, world.cancelTimer handle⟩
  /-- All turns of the conversation have been issued and answered. -/
  | finished {uncollected : Option QueryResult} {world : World}
      {conversationId : String} {state : ActiveConversation}
      (active : world.strategy.activeIters.get? conversationId = some state)
      (exhausted : state.turns[state.cursor]? = none) :
      Move config ⟨.holding conversationId, uncollected, world⟩
        ⟨.filling, uncollected, world.popActive conversationId⟩
  | delayed {uncollected : Option QueryResult} {world : World}
      {conversationId : String} {state : ActiveConversation}
      {turn : ConversationTurn}
      (issuing : world.strategy.stopping = false)
      (active : world.strategy.activeIters.get? conversationId = some state)
      (next : state.turns[state.cursor]? = some turn) :
      Move config ⟨.holding conversationId, uncollected, world⟩
        ⟨.idle, uncollected, world.scheduleDelayedTurn conversationId turn⟩
  | becameDue {uncollected : Option QueryResult} {world : World}
      {conversationId : String} {state : ActiveConversation}
      {turn : ConversationTurn}
      (active : world.strategy.activeIters.get? conversationId = some state)
      (next : state.turns[state.cursor]? = some turn) :
      Move config ⟨.holding conversationId, uncollected, world⟩
        ⟨.due conversationId turn, uncollected, world⟩
  /-- The conversation to continue is not active any more. -/
  | released {uncollected : Option QueryResult} {world : World}
      {conversationId : String}
      (gone : world.strategy.stopping = true ∨
        world.strategy.activeIters.get? conversationId = none) :
      Move config ⟨.holding conversationId, uncollected, world⟩
        ⟨.idle, uncollected, world⟩
  /-- A delayed turn that is no longer the next one. -/
  | stale {uncollected : Option QueryResult} {world : World}
      {conversationId : String} {turn : ConversationTurn}
      (outdated : world.strategy.stopping = true ∨
        ∀ state, world.strategy.activeIters.get? conversationId = some state →
          state.turns[state.cursor]? ≠ some turn) :
      Move config ⟨.due conversationId turn, uncollected, world⟩
        ⟨.idle, uncollected, world.popDelayHandle conversationId⟩
  | issued {uncollected : Option QueryResult} {world : World}
      {conversationId : String} {turn : ConversationTurn}
      {state : ActiveConversation} {query : Query} {prompt : PromptData}
      (issuing : world.strategy.stopping = false)
      (active : world.strategy.activeIters.get? conversationId = some state)
      (next : state.turns[state.cursor]? = some turn)
      (permitted : world.stopCheck world.issuer.issuedCount = false)
      (fresh : query.id = world.nextUuid) :
      Move config ⟨.due conversationId turn, uncollected, world⟩
        ⟨.idle, uncollected,
          (((world.popDelayHandle conversationId).afterIssued query prompt
            turn.sampleIndex conversationId (some turn.turn)).bookTurn query.id
              conversationId state)⟩
  /-- The issuer refused the turn: no further turn is issued. -/
  | refused {uncollected : Option QueryResult} {world : World}
      {conversationId : String} {turn : ConversationTurn}
      {state : ActiveConversation}
      (issuing : world.strategy.stopping = false)
      (active : world.strategy.activeIters.get? conversationId = some state)
      (next : state.turns[state.cursor]? = some turn) :
      Move config ⟨.due conversationId turn, uncollected, world⟩
        ⟨.filling, uncollected,
          ((world.popDelayHandle conversationId).afterStopCheck.observe
            (.refused conversationId (some turn.turn))).stopIssuing⟩
  /-- Building or issuing the turn raised. -/
  | crashed {uncollected : Option QueryResult} {world next : World}
      {conversationId : String} {turn : ConversationTurn}
      {state : ActiveConversation}
      (issuing : world.strategy.stopping = false)
      (active : world.strategy.activeIters.get? conversationId = some state)
      (current : state.turns[state.cursor]? = some turn)
      (effects : next = world.popDelayHandle conversationId ∨
        World.IssueRaised (world.popDelayHandle conversationId)
          turn.sampleIndex conversationId (some turn.turn) next) :
      Move config ⟨.due conversationId turn, uncollected, world⟩
        ⟨.raising, uncollected, next⟩
  /-- Drawing the next instance raised. -/
  | drawFailed {uncollected : Option QueryResult} {world : World}
      (issuing : world.strategy.stopping = false)
      (failed : world.nextConversationInstance config = none) :
      Move config ⟨.filling, uncollected, world⟩ ⟨.raising, uncollected, world⟩
  /-- An exception is stored for `execute`. -/
  | errorStored {uncollected : Option QueryResult} {world : World} :
      Move config ⟨.raising, uncollected, world⟩
        ⟨.idle, uncollected, world.storeError⟩
  | started {uncollected : Option QueryResult} {world drawn : World}
      {instance_ : ConversationInstance}
      (issuing : world.strategy.stopping = false)
      (draw : world.nextConversationInstance config = some (some (instance_, drawn))) :
      Move config ⟨.filling, uncollected, world⟩
        ⟨.holding instance_.logicalId, uncollected, drawn.enterInstance instance_⟩
  | trackingStopped {uncollected : Option QueryResult} {world : World} :
      Move config ⟨.filling, uncollected, world⟩
        ⟨.filling, uncollected, world.stopPerformanceTrackingOnce⟩
  /-- The first user completed and no new turn may be issued. -/
  | issuingStopped {uncollected : Option QueryResult} {world : World}
      (configured : config.stopIssuingOnFirstUserComplete = true)
      (issuing : world.strategy.stopping = false) :
      Move config ⟨.filling, uncollected, world⟩
        ⟨.filling, uncollected, world.stopIssuing⟩
  | completed {uncollected : Option QueryResult} {world : World}
      (noWork : (world.strategy.stopping = true ∧
          world.strategy.inflight.isEmpty = true) ∨
        (world.strategy.stopping = false ∧ world.hasWorkRemaining config = false)) :
      Move config ⟨.filling, uncollected, world⟩
        ⟨.idle, uncollected, world.setAllDone⟩
  | waits {uncollected : Option QueryResult} {world : World}
      (work : (world.strategy.stopping = true ∧
          world.strategy.inflight.isEmpty = false) ∨
        (world.strategy.stopping = false ∧
          world.hasMoreConversationInstances config = false ∧
          world.hasWorkRemaining config = true)) :
      Move config ⟨.filling, uncollected, world⟩ ⟨.idle, uncollected, world⟩
  /-- A remaining turn is skipped. -/
  | skipped {uncollected : Option QueryResult} {world : World}
      {conversationId reason : String} {turn : ConversationTurn}
      {turns : List ConversationTurn} {manager : ConversationManager}
      (marked : world.manager.markTurnFailed conversationId = some manager) :
      Move config ⟨.aborting conversationId (turn :: turns), uncollected, world⟩
        ⟨.aborting conversationId turns, uncollected,
          ((world.withManager manager).afterSkipped turn.sampleIndex conversationId
            (some turn.turn)).recordFailure world.nextUuid conversationId
              (some turn.turn) "TurnAbortedByPriorFailure" reason⟩
  /-- The issuer refused to register the skip: the rest is dropped. -/
  | skipRefused {uncollected : Option QueryResult} {world : World}
      {conversationId : String} {turn : ConversationTurn}
      {turns : List ConversationTurn} {manager : ConversationManager}
      (marked : world.manager.markTurnFailed conversationId = some manager) :
      Move config ⟨.aborting conversationId (turn :: turns), uncollected, world⟩
        ⟨.filling, uncollected,
          ((world.withManager manager).afterStopCheck.observe
            (.refused conversationId (some turn.turn))).popActive conversationId⟩
  | skipUnroutable {uncollected : Option QueryResult} {world : World}
      {conversationId : String} {turn : ConversationTurn}
      {turns : List ConversationTurn}
      (unknown : world.manager.get? conversationId = none) :
      Move config ⟨.aborting conversationId (turn :: turns), uncollected, world⟩
        ⟨.idle, uncollected, world⟩
  | aborted {uncollected : Option QueryResult} {world : World}
      {conversationId : String} :
      Move config ⟨.aborting conversationId [], uncollected, world⟩
        ⟨.filling, uncollected, world.popActive conversationId⟩

abbrev Moves (config : AgenticConfig) : Moment → Moment → Prop :=
  Relation.ReflTransGen (Move config)

/-- An invariant of every move is an invariant of every callback. -/
theorem Moves.invariant {config : AgenticConfig} (invariant : Moment → Prop)
    (preserved : ∀ first second, invariant first → Move config first second →
      invariant second)
    {first second : Moment} (moves : Moves config first second)
    (holds : invariant first) : invariant second := by
  induction moves with
  | refl => exact holds
  | tail _ move ih => exact preserved _ _ ih move

end InferenceEndpoint
