import InferenceEndpoint.Library.GuardedRuns
import InferenceEndpoint.LoadGenerator.MoveEffects

/-!
# Running phases

`BenchmarkSession._run_phase` as a state machine on the event loop: the
strategy task is created, runs and ends, the session drains the queries in
flight, and meanwhile responses arrive, timers fire, the session is stopped
and callbacks left over from earlier phases still issue.  The strategies for
single-turn phases only decide when to call `issue`, so here they may call it
whenever their task runs; the agentic strategy is modelled in full.
`BenchmarkSession.run` then strings phases together.
-/

namespace InferenceEndpoint

/-- The parts of `PhaseConfig` that running it depends on.  Only performance
and accuracy phases are given an agentic strategy. -/
structure PhaseConfig where
  phaseType : PhaseType
  dataset : Nat → Option SampleData
  stopSettings : StopSettings
  routingHeaders : List String := []
  drainAfter : Bool := true
  drainTimeout : Option ℚ := none
  agentic : Bool := false
  numTurns : Nat := 0
  numTrajectories : Nat := 0
  agenticMeasured : agentic = true → phaseType ≠ .warmup

inductive PhasePc
  | running
  | draining
  /-- `_run_phase` has returned. -/
  | ended
  /-- The exception of the strategy propagates. -/
  | failed
  deriving DecidableEq, Repr

/-- The issuer that the agentic strategy refers to. -/
inductive StrategyIssuer
  /-- It has not been executed yet. -/
  | unset
  /-- The issuer of the current phase. -/
  | current
  /-- The issuer of the earlier phase in which it was executed last. -/
  | former (issuer : PhaseIssuer)

def StrategyIssuer.isCurrent : StrategyIssuer → Bool
  | .current => true
  | _ => false

/-- A phase in progress.  `past` are the issuers of the earlier single-turn
phases. -/
structure PhaseState where
  phase : PhaseConfig
  pc : PhasePc
  execute : World.ExecuteStatus
  past : List PhaseIssuer
  strategyIssuer : StrategyIssuer
  world : World

/-- What can happen next. -/
inductive PhaseLabel
  /-- The strategy task takes its first step. -/
  | execute
  /-- A single-turn strategy issues a sample. -/
  | issueSample (sampleIndex : Nat)
  /-- A callback left over from the single-turn strategy of an earlier phase
  issues a sample. -/
  | issueLeftover (past sampleIndex : Nat)
  /-- A single-turn strategy returns. -/
  | strategyReturns
  /-- A single-turn strategy raises. -/
  | strategyRaises
  /-- The agentic strategy wakes up from waiting for `_all_done`. -/
  | resume
  /-- The cancelled strategy task unwinds. -/
  | cancel
  /-- `_run_phase` notices that the strategy task is done. -/
  | awaitStrategy
  | drained
  | drainTimeout
  | deliver (response : Response)
  | fire (handle : TimerHandle)
  /-- `stop`, or the receiver finding the transport closed. -/
  | stop
  | stopCurrentPhase
  | tick (nowNs : Nat)

namespace PhaseState

/-- `PhaseIssuer.issue` called by a single-turn strategy. -/
def issueSample (state : PhaseState) (sampleIndex : Nat) : PhaseState :=
  { state with
      world := (state.world.issue state.world.issuer.issuedCount sampleIndex none ""
        none).2 }

/-- `issue` through the issuer of an earlier phase; its stop check still reads
the sample count of the current one. -/
def issueLeftover (state : PhaseState) (past : Nat) (issuer : PhaseIssuer)
    (sampleIndex : Nat) : PhaseState :=
  let issued := (({ state.world with issuer := issuer } : World).issue
    state.world.issuer.issuedCount sampleIndex none "" none).2
  { state with
      past := state.past.set past issued.issuer
      world := { issued with issuer := state.world.issuer } }

/-- A strategy timer fires; the strategy acts on the issuer it refers to. -/
def fireTimer (config : AgenticConfig) (state : PhaseState)
    (handle : TimerHandle) : Option PhaseState :=
  match state.strategyIssuer with
  | .unset => none
  | .current =>
      (state.world.fireTimer config handle).map fun world =>
        { state with world := world }
  | .former issuer =>
      (({ state.world with issuer := issuer } : World).fireTimer config handle).map
        fun world =>
          { state with
              strategyIssuer := .former world.issuer
              world := { world with issuer := state.world.issuer } }

/-- The end of `_run_phase`. -/
def finish (state : PhaseState) : PhaseState :=
  { state with
      pc := .ended
      world :=
        if state.phase.phaseType = .performance then
          state.world.stopPerformanceTracking
        else state.world }

/-- `_drain_inflight` up to its wait. -/
def startDrain (state : PhaseState) : PhaseState :=
  if state.world.issuer.inflight ≤ 0 ∨ state.world.stopRequested then state.finish
  else
    { state with
        pc := .draining
        world := { state.world with drainEvent := false } }

def afterStrategy (state : PhaseState) : PhaseState :=
  if state.phase.drainAfter then state.startDrain else state.finish

def stop (state : PhaseState) : PhaseState :=
  { state with
      world := { state.world with stopRequested := true, drainEvent := true } }

/-- The strategy task exists and is not done. -/
def strategyRunning (state : PhaseState) : Bool :=
  state.pc = .running &&
    (state.execute = .notStarted || state.execute = .waiting)

/-- The task of the strategy was cancelled and has not unwound yet. -/
def cancelPending (state : PhaseState) : Bool :=
  state.strategyRunning &&
    (state.world.stopRequested || state.world.currentPhaseStopped)

/-- One step of the event loop. -/
def step (config : AgenticConfig) (state : PhaseState) :
    PhaseLabel → Option PhaseState
  | .execute =>
      if state.pc = .running ∧ state.execute = .notStarted then
        if state.phase.agentic then
          let started := state.world.executeStart config
          some { state with
            execute := started.1, world := started.2, strategyIssuer := .current }
        else some { state with execute := .waiting }
      else none
  | .issueSample sampleIndex =>
      if !state.phase.agentic ∧
          ((state.pc = .running ∧ state.execute = .waiting) ∨
            state.execute = .cancelled) then
        some (state.issueSample sampleIndex)
      else none
  | .issueLeftover past sampleIndex =>
      state.past[past]?.map fun issuer => state.issueLeftover past issuer sampleIndex
  | .strategyReturns =>
      if state.pc = .running ∧ state.execute = .waiting ∧ !state.phase.agentic then
        some { state with execute := .returned state.world.issuer.issuedCount }
      else none
  | .strategyRaises =>
      if state.pc = .running ∧ state.execute = .waiting ∧ !state.phase.agentic then
        some { state with execute := .raised }
      else none
  | .resume =>
      if state.pc = .running ∧ state.execute = .waiting ∧ state.phase.agentic ∧
          state.world.strategy.allDone then
        let resumed := state.world.executeResume
        some { state with execute := resumed.1, world := resumed.2 }
      else none
  | .cancel =>
      if state.cancelPending then
        some { state with
          execute := .cancelled
          world :=
            if state.execute = .waiting ∧ state.phase.agentic then state.world.cleanUp
            else state.world }
      else none
  | .awaitStrategy =>
      if state.pc = .running then
        match state.execute with
        | .returned _ => some state.afterStrategy
        | .cancelled => some state.afterStrategy
        | .raised => some { state with pc := .failed }
        | _ => none
      else none
  | .drained =>
      if state.pc = .draining ∧ state.world.drainEvent then some state.finish
      else none
  | .drainTimeout =>
      if state.pc = .draining ∧ state.phase.drainTimeout.isSome then
        some state.stop.finish
      else none
  | .deliver response =>
      if state.world.deliverable response then
        some { state with world := state.world.receive config response }
      else none
  | .fire handle => state.fireTimer config handle
  | .stop => some state.stop
  | .stopCurrentPhase =>
      some (if state.strategyRunning then
        { state with world := { state.world with currentPhaseStopped := true } }
      else state)
  | .tick nowNs => some { state with world := { state.world with nowNs := nowNs } }

/-- `_publish_session_event`. -/
def publishSessionEvent (world : World) (eventType : EventType)
    (data : Option PhaseData) : World :=
  (world.publish
    { eventType := eventType
      timestampNs := world.nowNs
      data := data.map .phase }).flush

/-- What `_run_phase` sets up before it announces the phase. -/
def freshWorld (phase : PhaseConfig) (world : World) : World :=
  { world with
    phaseType := phase.phaseType
    currentPhaseStopped := false
    issuer :=
      { dataset := phase.dataset
        routingHeaders := phase.routingHeaders
        stopSettings := phase.stopSettings }
    earlier := world.history
    timeline := [] }

/-- The head of `_run_phase`, in a world left by the previous phases. -/
def startWorld (phase : PhaseConfig) (world : World) : World :=
  let announced := publishSessionEvent (freshWorld phase world) .phaseStart
    (some
      { phaseType := phase.phaseType
        drainAfter := phase.drainAfter
        numTurns := phase.numTurns
        numTrajectories := phase.numTrajectories })
  if phase.phaseType = .performance then
    publishSessionEvent announced .startPerformanceTracking none
  else announced

end PhaseState

/-! ## Sessions -/

/-- `BenchmarkSession.run` before, during and after a phase.  The world of a
closed session is kept for its history. -/
inductive SessionState
  | starting (phases : List PhaseConfig) (world : World)
  | inPhase (remaining : List PhaseConfig) (current : PhaseState)
  | closed (world : World)

inductive SessionLabel
  | phase (label : PhaseLabel)
  /-- The next phase is entered. -/
  | begin
  /-- The session publishes its last events and returns or raises. -/
  | finish

namespace PhaseState

/-- The state in which the strategy task of a phase has just been created. -/
def enter (phase : PhaseConfig) (past : List PhaseIssuer)
    (strategyIssuer : StrategyIssuer) (world : World) : PhaseState where
  phase := phase
  pc := .running
  execute := .notStarted
  past := past
  strategyIssuer := strategyIssuer
  world := startWorld phase world

/-- The phase that follows the given one. -/
def next (state : PhaseState) (phase : PhaseConfig) : PhaseState :=
  let pastIssuers :=
    if state.phase.agentic then state.past else state.past ++ [state.world.issuer]
  let strategyIssuer :=
    match state.strategyIssuer with
    | .current => .former state.world.issuer
    | other => other
  enter phase pastIssuers strategyIssuer state.world

end PhaseState

namespace SessionState

/-- The events that end every session. -/
def close (world : World) : World :=
  let marked :=
    if world.stopRequested then
      PhaseState.publishSessionEvent world .interrupted none
    else world
  PhaseState.publishSessionEvent marked .ended none

def step (config : AgenticConfig) : SessionState → SessionLabel → Option SessionState
  | .starting (phase :: remaining) world, .begin =>
      if world.stopRequested then none
      else some (.inPhase remaining (.enter phase [] .unset world))
  | .starting phases world, .finish =>
      if phases.isEmpty ∨ world.stopRequested then some (.closed (close world)) else none
  | .inPhase (phase :: remaining) current, .begin =>
      if current.pc = .ended ∧ !current.world.stopRequested then
        some (.inPhase remaining (current.next phase))
      else none
  | .inPhase remaining current, .finish =>
      if current.pc = .failed ∨
          (current.pc = .ended ∧
            (remaining.isEmpty ∨ current.world.stopRequested)) then
        some (.closed (close current.world))
      else none
  | .inPhase remaining current, .phase label =>
      (current.step config label).map (.inPhase remaining)
  | _, _ => none

def world : SessionState → World
  | .starting _ world => world
  | .inPhase _ current => current.world
  | .closed world => world

/-- A session that has published STARTED.  The client's failures and the clock
are arbitrary. -/
def initial (phases : List PhaseConfig) (sendFails : Nat → Bool) (nowNs : Nat) :
    SessionState :=
  .starting phases (PhaseState.publishSessionEvent
    { issuer :=
        { dataset := fun _ => none
          routingHeaders := []
          stopSettings :=
            { stopOnSampleCount := false
              totalSamples := 0
              deadlinePassed := fun _ => false } }
      phaseType := .warmup
      nowNs := nowNs
      sendFails := sendFails } .started none)

end SessionState

/-- The states that a session with the given phases can reach. -/
abbrev SessionReachable (config : AgenticConfig) (phases : List PhaseConfig)
    (sendFails : Nat → Bool) (nowNs : Nat) : SessionState → Prop :=
  GuardedRuns.Reachable (SessionState.step config)
    (SessionState.initial phases sendFails nowNs)

/-! ## A single phase -/

/-- An agentic strategy whose `execute` ended in an earlier phase: it waits for
nothing, and its timers were cancelled. -/
structure FormerStrategy where
  issuer : PhaseIssuer
  strategy : AgenticState
  manager : ConversationManager
  cleanedUp : ∀ queryId, strategy.inflight.get? queryId = none
  managed : ∀ conversationId,
    (strategy.activeIters.get? conversationId).isSome →
      (manager.get? conversationId).isSome

/-- A session between two phases, as one phase finds it: whatever happened
before is in `earlier`, and no agentic strategy is executed twice. -/
structure PhaseStart where
  phase : PhaseConfig
  past : List PhaseIssuer := []
  former : Option FormerStrategy := none
  earlier : List Observation := []
  nextUuid : QueryId := 0
  nowNs : Nat := 0
  stopRequested : Bool := false
  drainEvent : Bool := false
  sendFails : Nat → Bool := fun _ => false
  executedOnce : phase.agentic = true → former = none
  sentDrawn : ∀ queryId ∈ earlier.filterMap Observation.sentId?, queryId < nextUuid
  receivedDrawn : ∀ queryId ∈ earlier.filterMap Observation.receivedId?,
    queryId < nextUuid
  collectedDrawn : ∀ queryId ∈ earlier.filterMap Observation.collectedId?,
    queryId < nextUuid

namespace PhaseStart

def strategy (start : PhaseStart) : AgenticState :=
  (start.former.map FormerStrategy.strategy).getD {}

def manager (start : PhaseStart) : ConversationManager :=
  (start.former.map FormerStrategy.manager).getD ∅

def strategyIssuer (start : PhaseStart) : StrategyIssuer :=
  (start.former.map fun former => StrategyIssuer.former former.issuer).getD .unset

/-- The world before the phase; `issuer` and `phaseType` are about to be
replaced. -/
def world (start : PhaseStart) : World where
  issuer :=
    { dataset := start.phase.dataset
      routingHeaders := start.phase.routingHeaders
      stopSettings := start.phase.stopSettings }
  phaseType := start.phase.phaseType
  strategy := start.strategy
  manager := start.manager
  stopRequested := start.stopRequested
  drainEvent := start.drainEvent
  nextUuid := start.nextUuid
  nowNs := start.nowNs
  sendFails := start.sendFails
  earlier := start.earlier

/-- The state in which the strategy task has just been created. -/
def state (start : PhaseStart) : PhaseState :=
  .enter start.phase start.past start.strategyIssuer start.world

end PhaseStart

/-- The states a phase can reach. -/
abbrev PhaseReachable (config : AgenticConfig) (start : PhaseStart) :
    PhaseState → Prop :=
  GuardedRuns.Reachable (PhaseState.step config) start.state

/-! ## The smallest agentic session -/

namespace OneTurn

/-- One conversation with one turn. -/
def config : AgenticConfig where
  metadata := { samples := [⟨"conv", 1, 0⟩] }

def settings : StopSettings where
  stopOnSampleCount := false
  totalSamples := 1
  deadlinePassed _ := false

/-- The conversation as a performance phase. -/
def performance : PhaseConfig where
  phaseType := .performance
  dataset _ := some (.mapping { prompt := some "hello" })
  stopSettings := settings
  agentic := true
  numTurns := 1
  numTrajectories := 1
  agenticMeasured _ := by decide

/-- A single-turn accuracy phase. -/
def accuracy : PhaseConfig where
  phaseType := .accuracy
  dataset _ := none
  stopSettings := settings
  agenticMeasured := nofun

/-- The performance phase at the head of a session. -/
def start : PhaseStart where
  phase := performance
  executedOnce _ := rfl
  sentDrawn := by simp
  receivedDrawn := by simp
  collectedDrawn := by simp

end OneTurn

end InferenceEndpoint
