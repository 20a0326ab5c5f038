import InferenceEndpoint.Core.Record
import InferenceEndpoint.LoadGenerator.ConversationManager
import InferenceEndpoint.LoadGenerator.SampleOrder
import Mathlib.Data.Finset.Basic
import Mathlib.Algebra.Order.Ring.Unbundled.Rat

/-!
# The load generator's world

Everything that the callbacks of one benchmark session read and write on the
event loop: the phase issuer of the current phase, the agentic strategy with
its conversation manager, the timers that are scheduled, the stop flags of the
session, and the timeline of what was published, sent and received.  Each
callback runs to completion before the next one starts, so a callback is a
function from worlds to worlds.

The issuing operations of `PhaseIssuer` are defined here as well; the strategy
and the session are built on them.
-/

namespace InferenceEndpoint

/-- What the load generator did to its surroundings and heard from them. -/
inductive Observation
  | published (event : EventRecord)
  | flushed
  /-- A query handed to the endpoint client, with the conversation and turn it
  was issued for. -/
  | sent (query : Query) (conversationId : String) (turn : Option Nat)
  /-- A final result returned by the client's `recv`. -/
  | received (result : QueryResult)
  /-- A result recorded by the response collector. -/
  | collected (result : QueryResult)
  /-- A call of `issue` or `register_skipped` that returned `None`. -/
  | refused (conversationId : String) (turn : Option Nat)
  deriving DecidableEq

/-! ## Phase issuer -/

/-- The inputs of a phase's stop check.  `deadlinePassed` answers whether the
n-th reading of the clock finds `max_issue_duration_ms` exceeded. -/
structure StopSettings where
  stopOnSampleCount : Bool
  totalSamples : Nat
  deadlinePassed : Nat → Bool

/-- Per-phase issuing state. -/
structure PhaseIssuer where
  dataset : Nat → Option SampleData
  routingHeaders : List String
  stopSettings : StopSettings
  uuidToIndex : OrderedDict QueryId Nat := ∅
  uuidToConvInfo : OrderedDict QueryId (String × Option Nat) := ∅
  completedUuids : Finset QueryId := ∅
  inflight : Int := 0
  issuedCount : Nat := 0
  performanceTrackingStopped : Bool := false

/-! ## Agentic strategy state -/

/-- One client turn of a conversation: its row in the dataset and its number. -/
structure ConversationTurn where
  sampleIndex : Nat
  turn : Nat
  deriving DecidableEq, Repr

/-- A started trajectory instance that still has turns to issue or to wait
for. -/
structure ActiveConversation where
  sourceId : String
  turns : List ConversationTurn
  cursor : Nat
  repeatId : Nat
  deriving DecidableEq, Repr

abbrev TimerHandle := Nat

/-- The callbacks that the strategy schedules with `call_later`. -/
inductive Callback
  | handleTimeout (queryId : QueryId) (conversationId : String)
  | issueTurnNowSafely (conversationId : String) (turn : ConversationTurn)
  deriving DecidableEq, Repr

/-- The mutable fields of `AgenticInferenceStrategy`; `error` records that an
exception was stored for `execute` to raise. -/
structure AgenticState where
  inflight : OrderedDict QueryId String := ∅
  baseConvs : List (String × List ConversationTurn) := []
  conversationOrder : Option SampleOrder := none
  activeIters : OrderedDict String ActiveConversation := ∅
  timeoutHandles : OrderedDict QueryId TimerHandle := ∅
  delayHandles : OrderedDict String TimerHandle := ∅
  error : Bool := false
  allDone : Bool := false
  stopping : Bool := false
  startedTrajectoryCount : Nat := 0
  performanceTrackingStopped : Bool := false

/-! ## World -/

structure World where
  issuer : PhaseIssuer
  phaseType : PhaseType
  strategy : AgenticState := {}
  manager : ConversationManager := ∅
  timers : OrderedDict TimerHandle Callback := ∅
  nextTimer : TimerHandle := 0
  stopRequested : Bool := false
  currentPhaseStopped : Bool := false
  drainEvent : Bool := false
  nextUuid : QueryId := 0
  nowNs : Nat := 0
  deadlineChecks : Nat := 0
  sends : Nat := 0
  /-- Whether the n-th `issue` call of the endpoint client raises. -/
  sendFails : Nat → Bool := fun _ => false
  /-- The observations of the phases before the current one. -/
  earlier : List Observation := []
  /-- The observations of the current phase. -/
  timeline : List Observation := []

namespace World

def history (world : World) : List Observation :=
  world.earlier ++ world.timeline

def observe (world : World) (observation : Observation) : World :=
  { world with timeline := world.timeline ++ [observation] }

def publish (world : World) (event : EventRecord) : World :=
  world.observe (.published event)

def flush (world : World) : World :=
  world.observe .flushed

/-- `PhaseIssuer.mark_inflight_complete`; the drained callback of the session
sets the drain event. -/
def markInflightComplete (world : World) : World :=
  if world.issuer.inflight ≤ 0 then world
  else
    { world with
        issuer := { world.issuer with inflight := world.issuer.inflight - 1 }
        drainEvent := world.drainEvent || world.issuer.inflight - 1 = 0 }

/-- `PhaseIssuer.stop_performance_tracking`. -/
def stopPerformanceTracking (world : World) : World :=
  if world.issuer.performanceTrackingStopped then world
  else
    let world := { world with
      issuer := { world.issuer with performanceTrackingStopped := true } }
    (world.publish
      { eventType := .stopPerformanceTracking, timestampNs := world.nowNs }).flush

/-- The closure built by `_make_stop_check`.  The sample count it compares is
that of the session's current phase issuer. -/
def stopCheck (currentIssued : Nat) (world : World) : Bool :=
  let settings := world.issuer.stopSettings
  world.stopRequested || world.currentPhaseStopped ||
    (settings.stopOnSampleCount && settings.totalSamples ≤ currentIssued) ||
    settings.deadlinePassed world.deadlineChecks

end World

/-! ## Issuing -/

/-- The messages that replace those of a dataset row; the override also blanks
both token fields. -/
abbrev DataOverride := List ChatMessage

/-- `{**data, **data_override}`; unpacking a non-mapping raises. -/
def SampleData.applyOverride (data : SampleData) :
    Option DataOverride → Option SampleData
  | none => some data
  | some messages =>
      match data with
      | .mapping row =>
          some (.mapping { row with
            messages := some messages, inputTokens := none, tokenIds := none })
      | .other _ => none

/-- The prompt attached to the ISSUED event; `none` when the row carries both
token fields, which `issue` refuses with a `ValueError`. -/
def SampleData.promptData : SampleData → Option PromptData
  | .other _ => some {}
  | .mapping row =>
      match row.inputTokens, row.tokenIds with
      | some _, some _ => none
      | some inputTokens, none => some { tokenIds := some inputTokens }
      | none, some tokenIds => some { tokenIds := some tokenIds }
      | none, none =>
          match row.messages with
          | some (message :: messages) =>
              some
                { messages := some (message :: messages)
                  tools := row.tools
                  chatTemplateKwargs := row.chatTemplateKwargs
                  chatTemplate := row.chatTemplate
                  toolChoice := row.toolChoice }
          | _ =>
              match row.prompt with
              | some text => some { text := some text }
              | none => some {}

/-- How a call of `issue` ends. -/
inductive IssueOutcome
  | issued (queryId : QueryId)
  | refused
  | raised
  deriving DecidableEq, Repr

namespace World

/-- Evaluate the stop check once. -/
def afterStopCheck (world : World) : World :=
  { world with deadlineChecks := world.deadlineChecks + 1 }

/-- Draw a uuid and enter it into the two maps of the issuer. -/
def register (world : World) (sampleIndex : Nat) (conversationId : String)
    (turn : Option Nat) : World :=
  { world with
      nextUuid := world.nextUuid + 1
      issuer := { world.issuer with
        uuidToIndex := world.issuer.uuidToIndex.insert world.nextUuid sampleIndex
        uuidToConvInfo := world.issuer.uuidToConvInfo.insert world.nextUuid
          (conversationId, turn) } }

def issuedEvent (world : World) (queryId : QueryId) (conversationId : String)
    (turn : Option Nat) (prompt : PromptData) : EventRecord where
  eventType := .issued
  timestampNs := world.nowNs
  sampleUuid := some queryId
  conversationId := conversationId
  turn := turn
  data := some (.prompt prompt)

/-- `dict.fromkeys(self._routing_headers, conversation_id)`. -/
def queryHeaders (world : World) (conversationId : String) :
    List (String × String) :=
  if conversationId = "" then []
  else
    world.issuer.routingHeaders.eraseDups.map fun header =>
      (header, conversationId)

/-- Hand the query to the client and count it. -/
def sendQuery (world : World) (query : Query) (conversationId : String)
    (turn : Option Nat) : World :=
  let world := { world with
    sends := world.sends + 1
    issuer := { world.issuer with
      inflight := world.issuer.inflight + 1
      issuedCount := world.issuer.issuedCount + 1 } }
  world.observe (.sent query conversationId turn)

/-- `PhaseIssuer.issue`. -/
def issue (currentIssued : Nat) (world : World) (sampleIndex : Nat)
    (dataOverride : Option DataOverride) (conversationId : String)
    (turn : Option Nat) : IssueOutcome × World :=
  if world.stopCheck currentIssued then
    (.refused, world.afterStopCheck.observe (.refused conversationId turn))
  else
    let queryId := world.nextUuid
    match (world.issuer.dataset sampleIndex).bind (·.applyOverride dataOverride) with
    | none => (.raised, { world.afterStopCheck with nextUuid := queryId + 1 })
    | some data =>
        let registered := world.afterStopCheck.register sampleIndex conversationId turn
        match data.promptData with
        | none => (.raised, registered)
        | some prompt =>
            let announced := registered.publish
              (world.issuedEvent queryId conversationId turn prompt)
            let query : Query :=
              { id := queryId, data := data
                headers := world.queryHeaders conversationId }
            if world.sendFails world.sends then
              (.raised, { announced with sends := world.sends + 1 })
            else (.issued queryId, announced.sendQuery query conversationId turn)

/-- `PhaseIssuer.register_skipped`; `none` when the session is stopping. -/
def registerSkipped (world : World) (sampleIndex : Nat)
    (conversationId : String) (turn : Option Nat) : Option QueryId × World :=
  if world.stopCheck world.issuer.issuedCount then
    (none, world.afterStopCheck.observe (.refused conversationId turn))
  else
    let queryId := world.nextUuid
    let registered := world.afterStopCheck.register sampleIndex conversationId turn
    let announced := registered.publish
      (world.issuedEvent queryId conversationId turn {})
    (some queryId,
      { announced with
          issuer := { announced.issuer with
            completedUuids := insert queryId announced.issuer.completedUuids
            issuedCount := announced.issuer.issuedCount + 1 } })

/-! ## What issuing can do -/

/-- The world after a query was issued and accepted by the client. -/
def afterIssued (world : World) (query : Query) (prompt : PromptData)
    (sampleIndex : Nat) (conversationId : String) (turn : Option Nat) : World :=
  ((world.afterStopCheck.register sampleIndex conversationId turn).publish
    (world.issuedEvent world.nextUuid conversationId turn prompt)).sendQuery
      query conversationId turn

/-- The effects of a call of `issue` that raised: a uuid is used up, and it may
already be registered and announced. -/
inductive IssueRaised (world : World) (sampleIndex : Nat)
    (conversationId : String) (turn : Option Nat) : World → Prop
  | unregistered :
      IssueRaised world sampleIndex conversationId turn
        { world.afterStopCheck with nextUuid := world.nextUuid + 1 }
  | unannounced :
      IssueRaised world sampleIndex conversationId turn
        (world.afterStopCheck.register sampleIndex conversationId turn)
  | unsent (prompt : PromptData) :
      IssueRaised world sampleIndex conversationId turn
        { (world.afterStopCheck.register sampleIndex conversationId turn).publish
            (world.issuedEvent world.nextUuid conversationId turn prompt) with
          sends := world.sends + 1 }

/-- The three ways a call of `issue` ends. -/
theorem issue_cases (currentIssued : Nat) (world : World) (sampleIndex : Nat)
    (dataOverride : Option DataOverride) (conversationId : String)
    (turn : Option Nat) :
    (world.stopCheck currentIssued = true ∧
      world.issue currentIssued sampleIndex dataOverride conversationId turn =
        (.refused, world.afterStopCheck.observe (.refused conversationId turn))) ∨
    (∃ next, IssueRaised world sampleIndex conversationId turn next ∧
      world.issue currentIssued sampleIndex dataOverride conversationId turn =
        (.raised, next)) ∨
    ∃ query prompt, query.id = world.nextUuid ∧
      world.stopCheck currentIssued = false ∧
      world.issue currentIssued sampleIndex dataOverride conversationId turn =
        (.issued world.nextUuid,
          world.afterIssued query prompt sampleIndex conversationId turn) := by
  unfold issue
  cases stopped : world.stopCheck currentIssued with
  | true => exact Or.inl ⟨rfl, by simp⟩
  | false =>
      right
      simp only [Bool.false_eq_true, if_false]
      cases (world.issuer.dataset sampleIndex).bind
          (·.applyOverride dataOverride) with
      | none => exact Or.inl ⟨_, .unregistered, rfl⟩
      | some data =>
          simp only
          cases data.promptData with
          | none => exact Or.inl ⟨_, .unannounced, rfl⟩
          | some prompt =>
              simp only
              cases world.sendFails world.sends with
              | true => exact Or.inl ⟨_, .unsent prompt, by simp⟩
              | false =>
                  refine Or.inr ⟨{ id := world.nextUuid, data := data, headers := world.queryHeaders conversationId }, prompt, rfl, trivial, ?_⟩
                  simp [afterIssued]

/-- The world after a turn was registered as skipped. -/
def afterSkipped (world : World) (sampleIndex : Nat) (conversationId : String)
    (turn : Option Nat) : World :=
  let announced :=
    (world.afterStopCheck.register sampleIndex conversationId turn).publish
      (world.issuedEvent world.nextUuid conversationId turn {})
  { announced with
      issuer := { announced.issuer with
        completedUuids := insert world.nextUuid announced.issuer.completedUuids
        issuedCount := announced.issuer.issuedCount + 1 } }

theorem registerSkipped_cases (world : World) (sampleIndex : Nat)
    (conversationId : String) (turn : Option Nat) :
    (world.stopCheck world.issuer.issuedCount = true ∧
      world.registerSkipped sampleIndex conversationId turn =
        (none, world.afterStopCheck.observe (.refused conversationId turn))) ∨
    (world.stopCheck world.issuer.issuedCount = false ∧
      world.registerSkipped sampleIndex conversationId turn =
        (some world.nextUuid,
          world.afterSkipped sampleIndex conversationId turn)) := by
  unfold registerSkipped
  cases stopped : world.stopCheck world.issuer.issuedCount with
  | true => exact Or.inl ⟨rfl, by simp⟩
  | false => exact Or.inr ⟨rfl, by simp [afterSkipped]⟩

end World

end InferenceEndpoint
