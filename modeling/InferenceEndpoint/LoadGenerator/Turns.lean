import InferenceEndpoint.LoadGenerator.Stages
import Mathlib.Logic.Function.Basic

/-!
# The schedule of turns

An abstract model of the agentic strategy: which conversations are active and how
far they are, which queries are waited for, what the conversation manager counted,
and what became of the turns.  Timers, handles and the issuer's maps are gone.
Every move of the strategy is a step of the schedule.
-/

namespace InferenceEndpoint

/-- What the timeline says about the turns of conversations. -/
inductive TurnEvent
  | announced (queryId : QueryId) (conversationId : String) (turn : Nat)
  | sent (queryId : QueryId) (conversationId : String) (turn : Nat)
  | received (result : QueryResult)
  | collected (result : QueryResult)
  | refused (conversationId : String) (turn : Nat)

/-- Single-turn samples carry no turn number. -/
def Observation.turnEvent? : Observation → Option TurnEvent
  | .published event =>
      if event.eventType = .issued then
        match event.sampleUuid, event.turn with
        | some queryId, some turn => some (.announced queryId event.conversationId turn)
        | _, _ => none
      else none
  | .sent query conversationId (some turn) => some (.sent query.id conversationId turn)
  | .sent _ _ none => none
  | .received result => some (.received result)
  | .collected result => some (.collected result)
  | .refused conversationId (some turn) => some (.refused conversationId turn)
  | .refused _ none => none
  | .flushed => none

namespace World

def turnEvents (world : World) : List TurnEvent :=
  world.timeline.filterMap Observation.turnEvent?

end World

/-- The callback that runs will free a slot. -/
def Control.vacating : Control → Bool
  | .filling => true
  | .aborting _ _ => true
  | _ => false

/-- The bound on started instances. -/
def AgenticConfig.trajectoryBudget (config : AgenticConfig) : Nat :=
  config.numTrajectoriesToIssue.getD config.metadata.baseConvs.length

@[ext]
structure Schedule where
  active : String → Option ActiveConversation
  waiting : QueryId → Option String
  counters : String → Option ConversationState
  started : Nat
  issuedCount : Nat
  stopping : Bool
  error : Bool
  nextUuid : QueryId
  /-- The queries handed to the client, of all phases. -/
  launched : List QueryId
  events : List TurnEvent
  uncollected : Option QueryResult
  control : Control

namespace Schedule

/-- The turns of a conversation that were not issued yet. -/
def remaining (schedule : Schedule) (conversationId : String) : List ConversationTurn :=
  match schedule.active conversationId with
  | none => []
  | some state => state.turns.drop state.cursor

/-- The next turn of an active conversation is issued. -/
def issue (schedule : Schedule) (conversationId : String) (turn : ConversationTurn)
    (state : ActiveConversation) : Schedule :=
  { schedule with
      active := Function.update schedule.active conversationId
        (some { state with cursor := state.cursor + 1 })
      waiting := Function.update schedule.waiting schedule.nextUuid (some conversationId)
      issuedCount := schedule.issuedCount + 1
      nextUuid := schedule.nextUuid + 1
      launched := schedule.launched ++ [schedule.nextUuid]
      events := schedule.events ++
        [.announced schedule.nextUuid conversationId turn.turn,
          .sent schedule.nextUuid conversationId turn.turn]
      control := .idle }

/-- A drawn instance becomes active. -/
def start (schedule : Schedule) (started : ConversationInstance) : Schedule :=
  { schedule with
      active := Function.update schedule.active started.logicalId
        (some
          { sourceId := started.sourceId
            turns := started.turns
            cursor := 0
            repeatId := started.repeatId })
      counters := Function.update schedule.counters started.logicalId
        (some
          { conversationId := started.logicalId
            expectedClientTurns := some started.turns.length })
      started := schedule.started + 1
      control := .holding started.logicalId }

/-- A turn of a failed conversation is registered, reported as failed and counted. -/
def skip (schedule : Schedule) (conversationId : String) (turn : ConversationTurn)
    (turns : List ConversationTurn) (marked : ConversationState) (reason : String) : Schedule :=
  { schedule with
      counters := Function.update schedule.counters conversationId (some marked)
      issuedCount := schedule.issuedCount + 1
      nextUuid := schedule.nextUuid + 1
      events := schedule.events ++
        [.announced schedule.nextUuid conversationId turn.turn,
          .collected (World.syntheticResult schedule.nextUuid
            "TurnAbortedByPriorFailure" reason)]
      control := .aborting conversationId turns }

/-- A query that is waited for, alone for its conversation, without a result. -/
structure Pending (schedule : Schedule) (queryId : QueryId) (conversationId : String) : Prop where
  waiting : schedule.waiting queryId = some conversationId
  alone : ∀ other, schedule.waiting other = some conversationId → other = queryId
  unreceived : ∀ result, .received result ∈ schedule.events → result.id ≠ queryId
  uncollected : ∀ result, .collected result ∈ schedule.events → result.id ≠ queryId
  drawn : queryId < schedule.nextUuid
  seated : schedule.stopping = false → (schedule.active conversationId).isSome
  idle : schedule.control = .idle
  free : schedule.uncollected = none

/-- The counters of a conversation after one more turn has ended. -/
structure Counted (schedule : Schedule) (conversationId : String) (marked : ConversationState)
    (state : ConversationState) : Prop where
  found : schedule.counters conversationId = some state
  completedTurns : marked.completedTurns = state.completedTurns + 1
  expected : marked.expectedClientTurns = state.expectedClientTurns

/-- One step of the strategy. -/
inductive Step (config : AgenticConfig) (schedule : Schedule) : Schedule → Prop
  /-- Nothing happens to any turn. -/
  | turned {control : Control}
      (steady : schedule.control ≠ .raising)
      (lighter : control.vacating = true → schedule.control.vacating = true)
      (calm : ∀ conversationId remaining, control ≠ .aborting conversationId remaining)
      (spent : ∀ conversationId remaining,
        schedule.control = .aborting conversationId remaining → remaining = []) :
      Step config schedule { schedule with control := control }
  /-- Issuing a turn or drawing an instance raised. -/
  | crashed {nextUuid : QueryId} {news : List TurnEvent}
      (calm : ∀ conversationId remaining,
        schedule.control ≠ .aborting conversationId remaining)
      (drawn : schedule.nextUuid ≤ nextUuid)
      (announced : news = [] ∨ ∃ conversationId turn,
        news = [.announced schedule.nextUuid conversationId turn] ∧
          schedule.nextUuid < nextUuid ∧ schedule.nextUuid ∉ schedule.launched ∧
          (schedule.counters conversationId).isSome) :
      Step config schedule { schedule with
        nextUuid := nextUuid, events := schedule.events ++ news, control := .raising }
  | faulted (raising : schedule.control = .raising) :
      Step config schedule { schedule with error := true, control := .idle }
  | answered {result : QueryResult} {conversationId : String} {state marked : ConversationState}
      (pending : schedule.Pending result.id conversationId)
      (succeeded : result.error = none)
      (counted : schedule.Counted conversationId marked state) :
      Step config schedule { schedule with
        waiting := Function.update schedule.waiting result.id none
        counters := Function.update schedule.counters conversationId (some marked)
        events := schedule.events ++ [.received result]
        uncollected := some result
        control := if schedule.stopping then .filling else .holding conversationId }
  | rejected {result : QueryResult} {conversationId : String} {state marked : ConversationState}
      (pending : schedule.Pending result.id conversationId)
      (failed : result.error.isSome)
      (counted : schedule.Counted conversationId marked state) :
      Step config schedule { schedule with
        active := Function.update schedule.active conversationId none
        waiting := Function.update schedule.waiting result.id none
        counters := Function.update schedule.counters conversationId (some marked)
        events := schedule.events ++ [.received result]
        uncollected := some result
        control := .aborting conversationId (schedule.remaining conversationId) }
  | timedOut {queryId : QueryId} {conversationId message : String}
      {state marked : ConversationState}
      (pending : schedule.Pending queryId conversationId)
      (counted : schedule.Counted conversationId marked state) :
      Step config schedule { schedule with
        active := Function.update schedule.active conversationId none
        waiting := Function.update schedule.waiting queryId none
        counters := Function.update schedule.counters conversationId (some marked)
        events := schedule.events ++
          [.collected (World.syntheticResult queryId "TurnTimeout" message)]
        control := .aborting conversationId (schedule.remaining conversationId) }
  | collected {result : QueryResult} (uncollected : schedule.uncollected = some result) :
      Step config schedule { schedule with
        events := schedule.events ++ [.collected result], uncollected := none }
  | finished {conversationId : String} {state : ActiveConversation}
      (holding : schedule.control = .holding conversationId)
      (active : schedule.active conversationId = some state)
      (exhausted : state.turns[state.cursor]? = none)
      (free : ∀ queryId, schedule.waiting queryId ≠ some conversationId) :
      Step config schedule { schedule with
        active := Function.update schedule.active conversationId none, control := .filling }
  | issued {conversationId : String} {turn : ConversationTurn} {state : ActiveConversation}
      (due : schedule.control = .due conversationId turn)
      (active : schedule.active conversationId = some state)
      (next : state.turns[state.cursor]? = some turn)
      (free : ∀ queryId, schedule.waiting queryId ≠ some conversationId)
      (known : (schedule.counters conversationId).isSome) :
      Step config schedule (schedule.issue conversationId turn state)
  /-- A turn was refused or the first user completed: issuing ends. -/
  | stopped {news : List TurnEvent}
      (calm : ∀ conversationId remaining,
        schedule.control ≠ .aborting conversationId remaining)
      (why : (∃ conversationId turn, news = [.refused conversationId turn]) ∨
        (news = [] ∧ config.stopIssuingOnFirstUserComplete = true)) :
      Step config schedule { schedule with
        active := fun _ => none
        stopping := true
        events := schedule.events ++ news
        control := .filling }
  | started {started : ConversationInstance}
      (filling : schedule.control = .filling)
      (issuing : schedule.stopping = false)
      (drawn : config.instanceAt? schedule.started = some started)
      (budget : schedule.started < config.trajectoryBudget)
      (fresh : schedule.counters started.logicalId = none) :
      Step config schedule (schedule.start started)
  | skipped {conversationId reason : String} {turn : ConversationTurn}
      {turns : List ConversationTurn} {state marked : ConversationState}
      (aborting : schedule.control = .aborting conversationId (turn :: turns))
      (counted : schedule.Counted conversationId marked state) :
      Step config schedule (schedule.skip conversationId turn turns marked reason)
  | skipRefused {conversationId : String} {turn : ConversationTurn}
      {turns : List ConversationTurn} {state marked : ConversationState}
      (aborting : schedule.control = .aborting conversationId (turn :: turns))
      (counted : schedule.Counted conversationId marked state) :
      Step config schedule { schedule with
        counters := Function.update schedule.counters conversationId (some marked)
        events := schedule.events ++ [.refused conversationId turn.turn]
        control := .filling }

/-- What happens to the schedule outside the strategy's callbacks. -/
inductive Aside (schedule : Schedule) : Schedule → Prop
  /-- Queries that belong to no turn. -/
  | drew {nextUuid : QueryId} {launched : List QueryId}
      (drawn : schedule.nextUuid ≤ nextUuid)
      (later : ∀ queryId ∈ launched,
        queryId ∈ schedule.launched ∨ schedule.nextUuid ≤ queryId) :
      Aside schedule { schedule with nextUuid := nextUuid, launched := launched }
  /-- A result that nobody waits for. -/
  | heard {result : QueryResult} {news : List TurnEvent}
      (free : schedule.uncollected = none)
      (notWaiting : schedule.waiting result.id = none)
      (launched : result.id ∈ schedule.launched)
      (unreceived : ∀ other, .received other ∈ schedule.events → other.id ≠ result.id)
      (drawn : result.id < schedule.nextUuid)
      (recorded : news = [.received result] ∨
        (news = [.received result, .collected result] ∧
          ∀ other, .collected other ∈ schedule.events → other.id ≠ result.id)) :
      Aside schedule { schedule with events := schedule.events ++ news }
  /-- `execute` has ended. -/
  | forgot : Aside schedule { schedule with waiting := fun _ => none }

end Schedule

/-- The schedule that a moment stands for. -/
def Moment.schedule (moment : Moment) : Schedule where
  active := moment.world.strategy.activeIters.get?
  waiting := moment.world.strategy.inflight.get?
  counters := moment.world.manager.get?
  started := moment.world.strategy.startedTrajectoryCount
  issuedCount := moment.world.issuer.issuedCount
  stopping := moment.world.strategy.stopping
  error := moment.world.strategy.error
  nextUuid := moment.world.nextUuid
  launched := moment.world.sentIds
  events := moment.world.turnEvents
  uncollected := moment.uncollected
  control := moment.control

end InferenceEndpoint
