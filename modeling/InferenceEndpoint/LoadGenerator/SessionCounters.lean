import InferenceEndpoint.LoadGenerator.SessionTerminals
import InferenceEndpoint.Metrics.Aggregator

/-!
# Counters of a session

The load generator publishes the events of a session, and the metrics aggregator counts them.
Its counters balance in a log that issues each sample once and reports at most one failure of
it.  A session without untimely results publishes such a log.
-/

namespace InferenceEndpoint

variable {config : AgenticConfig}

open World

namespace Observation

def event? : Observation → Option EventRecord
  | .published event => some event
  | _ => none

/-- No sample is issued and none reported as failed. -/
def quiet : Observation → Bool
  | .published event => event.eventType ≠ .issued && !event.eventType.isError
  | _ => true

end Observation

/-- The events published so far. -/
def World.events (world : World) : List EventRecord :=
  world.history.filterMap Observation.event?

/-- No sample is issued twice, and each failure of a sample comes with a COMPLETE event. -/
structure Fair (world : World) : Prop where
  issued : (world.events.filterMap EventRecord.issuedUuid).Nodup
  drawn : ∀ queryId ∈ world.events.filterMap EventRecord.issuedUuid, queryId < world.nextUuid
  failed : ∀ queryId, (world.events.filterMap EventRecord.errorUuid).count queryId ≤
    world.events.countP (·.isCompleteOf queryId)

/-! ## What is published -/

namespace Fair

variable {first second world : World}

theorem append (fair : Fair first) (news : List Observation)
    (history : second.history = first.history ++ news) (drawn : first.nextUuid ≤ second.nextUuid)
    (issued : ((news.filterMap Observation.event?).filterMap EventRecord.issuedUuid).Nodup)
    (fresh : ∀ queryId ∈ (news.filterMap Observation.event?).filterMap EventRecord.issuedUuid,
      first.nextUuid ≤ queryId ∧ queryId < second.nextUuid)
    (failed : ∀ queryId,
      ((news.filterMap Observation.event?).filterMap EventRecord.errorUuid).count queryId ≤
        (news.filterMap Observation.event?).countP (·.isCompleteOf queryId)) : Fair second := by
  have events : second.events = first.events ++ news.filterMap Observation.event? := by
    rw [World.events, history, List.filterMap_append]
    rfl
  constructor
  · rw [events, List.filterMap_append, List.nodup_append]
    refine ⟨fair.issued, issued, fun queryId earlier other later same => ?_⟩
    have below := fair.drawn queryId earlier
    have above := (fresh other later).1
    exact (below.trans_le above).ne same
  · intro queryId member
    rw [events, List.filterMap_append, List.mem_append] at member
    rcases member with earlier | later
    · exact (fair.drawn queryId earlier).trans_le drawn
    · exact (fresh queryId later).2
  · intro queryId
    rw [events, List.filterMap_append, List.count_append, List.countP_append]
    exact Nat.add_le_add (fair.failed queryId) (failed queryId)

theorem quiet (fair : Fair first) (news : List Observation)
    (drawn : first.nextUuid ≤ second.nextUuid)
    (history : second.history = first.history ++ news)
    (quiet : ∀ observation ∈ news, observation.quiet = true) : Fair second := by
  have silent : ∀ event ∈ news.filterMap Observation.event?,
      event.issuedUuid = none ∧ event.errorUuid = none := by
    intro event member
    obtain ⟨observation, there, isEvent⟩ := List.mem_filterMap.mp member
    have calm := quiet observation there
    cases observation with
    | published other =>
        obtain rfl : other = event := Option.some.inj isEvent
        simp_all [Observation.quiet, EventRecord.issuedUuid, EventRecord.errorUuid]
    | _ => cases isEvent
  have issued := List.filterMap_eq_nil_iff.mpr fun event member => (silent event member).1
  have failed := List.filterMap_eq_nil_iff.mpr fun event member => (silent event member).2
  apply fair.append news history drawn
  · rw [issued]
    exact List.nodup_nil
  · rw [issued]
    exact fun queryId member => absurd member List.not_mem_nil
  · rw [failed]
    exact fun _ => Nat.zero_le _

theorem same (fair : Fair first) (nextUuid : second.nextUuid = first.nextUuid)
    (history : second.history = first.history) : Fair second :=
  fair.quiet [] nextUuid.ge (by rw [history, List.append_nil])
    fun observation member => absurd member List.not_mem_nil

theorem announces (fair : Fair first) (event : EventRecord) (rest : List Observation)
    (nextUuid : second.nextUuid = first.nextUuid + 1)
    (history : second.history = first.history ++ .published event :: rest)
    (silent : rest.filterMap Observation.event? = [])
    (type : event.eventType = .issued) (sampleUuid : event.sampleUuid = some first.nextUuid) :
    Fair second := by
  apply fair.append _ history (nextUuid ▸ Nat.le_succ _) <;>
    simp [Observation.event?, silent, EventRecord.issuedUuid, EventRecord.errorUuid, type,
      sampleUuid, EventType.isError, nextUuid]

theorem fails {failure complete : EventRecord} {rest : List Observation} {queryId : QueryId}
    (fair : Fair first) (nextUuid : second.nextUuid = first.nextUuid)
    (history : second.history =
      first.history ++ .published failure :: .published complete :: rest)
    (silent : rest.filterMap Observation.event? = [])
    (types : failure.eventType = .errorGeneric ∧ complete.eventType = .complete)
    (uuids : failure.sampleUuid = some queryId ∧ complete.sampleUuid = some queryId) :
    Fair second := by
  apply fair.append _ history nextUuid.ge
  · simp [Observation.event?, silent, EventRecord.issuedUuid, types]
  · simp [Observation.event?, silent, EventRecord.issuedUuid, types]
  · intro other
    by_cases same : queryId = other <;>
      simp [Observation.event?, silent, EventRecord.errorUuid, EventRecord.isCompleteOf, types,
        uuids, EventType.isError, same]

theorem announceResult (fair : Fair world) {result : QueryResult}
    (calm : result.error = none ∨ world.phaseType ≠ .warmup) :
    Fair (world.announceResult result) := by
  have history := history_announceResult world result
  cases error : result.error with
  | none =>
      refine fair.quiet _ (le_refl _) history ?_
      intro observation member
      simp only [resultEvents, error, Option.toList_none, List.map_nil, List.nil_append] at member
      split at member
      · cases member
      · obtain rfl := List.mem_singleton.mp member
        rfl
  | some error_ =>
      have measured : world.phaseType ≠ .warmup := calm.resolve_left (by simp [error])
      simp only [resultEvents, error, Option.toList_some, List.map_cons, List.map_nil,
        measured, if_false, List.singleton_append] at history
      exact fair.fails rfl history rfl ⟨rfl, rfl⟩ ⟨rfl, rfl⟩

theorem observe (fair : Fair world) (observation : Observation)
    (quiet : observation.quiet = true) : Fair (world.observe observation) := by
  refine fair.quiet [observation] (le_refl _) (history_observe _ _) ?_
  intro other member
  rw [List.mem_singleton.mp member]
  exact quiet

theorem receivesResult (fair : Fair world) (result : QueryResult)
    (calm : result.error = none ∨ world.phaseType ≠ .warmup) :
    Fair ((world.observe (.received result)).announceResult result).markInflightComplete :=
  ((fair.observe (.received result) rfl).announceResult calm).same
    (markInflightComplete_nextUuid _) (markInflightComplete_history _)

theorem acceptResult (fair : Fair world) (result : QueryResult)
    (measured : world.phaseType ≠ .warmup) : Fair (world.acceptResult result) := by
  refine (fair.receivesResult result (Or.inr measured)).same ?_ ?_
  · exact popTimeoutHandle_nextUuid _ _
  · exact popTimeoutHandle_history _ _

theorem dropConversation (fair : Fair world) (conversationId : String) :
    Fair (world.dropConversation conversationId) :=
  fair.same (dropConversation_nextUuid _ _) (dropConversation_history _ _)

theorem recordFailure (fair : Fair world) (queryId : QueryId) (conversationId : String)
    (turn : Option Nat) (errorType errorMessage : String) :
    Fair (world.recordFailure queryId conversationId turn errorType errorMessage) :=
  fair.fails rfl (history_recordFailure _ _ _ _ _ _) rfl ⟨rfl, rfl⟩ ⟨rfl, rfl⟩

theorem stopPerformanceTracking (fair : Fair world) : Fair world.stopPerformanceTracking := by
  unfold World.stopPerformanceTracking
  split
  · exact fair
  · refine Fair.observe (Fair.observe ?_ (.published _) rfl) .flushed rfl
    exact fair.same rfl rfl

theorem stopPerformanceTrackingOnce (fair : Fair world) :
    Fair world.stopPerformanceTrackingOnce := by
  unfold World.stopPerformanceTrackingOnce
  split
  · exact fair
  · apply Fair.stopPerformanceTracking
    exact fair.same rfl rfl

theorem stopIssuing (fair : Fair world) : Fair world.stopIssuing := by
  rw [World.stopIssuing, cancelTimers_eq]
  exact fair.same rfl rfl

theorem register (fair : Fair world) (sampleIndex : Nat) (conversationId : String)
    (turn : Option Nat) (prompt : PromptData) :
    Fair ((world.afterStopCheck.register sampleIndex conversationId turn).publish
      (world.issuedEvent world.nextUuid conversationId turn prompt)) :=
  fair.announces (world.issuedEvent world.nextUuid conversationId turn prompt) [] rfl
    (history_observe (world.afterStopCheck.register sampleIndex conversationId turn) _) rfl rfl rfl

theorem issueRaised (fair : Fair first) {sampleIndex : Nat} {conversationId : String}
    {turn : Option Nat} (raised : IssueRaised first sampleIndex conversationId turn second) :
    Fair second := by
  cases raised with
  | unregistered => exact fair.quiet [] (Nat.le_succ _) (List.append_nil _).symm (by simp)
  | unannounced => exact fair.quiet [] (Nat.le_succ _) (List.append_nil _).symm (by simp)
  | unsent prompt => exact (fair.register _ _ _ prompt).same rfl rfl

theorem afterIssued (fair : Fair world) (query : Query) (prompt : PromptData)
    (sampleIndex : Nat) (conversationId : String) (turn : Option Nat) :
    Fair (world.afterIssued query prompt sampleIndex conversationId turn) := by
  refine fair.announces (world.issuedEvent world.nextUuid conversationId turn prompt)
    [.sent query conversationId turn] rfl ?_ rfl rfl rfl
  simp [World.history, World.afterIssued, World.sendQuery, World.publish, World.observe,
    World.register, World.afterStopCheck]

theorem issue (fair : Fair world) (currentIssued sampleIndex : Nat)
    (dataOverride : Option DataOverride) (conversationId : String) (turn : Option Nat) :
    Fair (world.issue currentIssued sampleIndex dataOverride conversationId turn).2 := by
  rcases issue_cases currentIssued world sampleIndex dataOverride conversationId turn with
    ⟨_, isRefused⟩ | ⟨next, raised, isRaised⟩ | ⟨query, prompt, _, _, isIssued⟩
  · rw [isRefused]
    refine Fair.observe ?_ (.refused conversationId turn) rfl
    exact fair.same rfl rfl
  · rw [isRaised]
    exact fair.issueRaised raised
  · rw [isIssued]
    exact fair.afterIssued query prompt sampleIndex conversationId turn

theorem move {first second : Moment} (move : Move config first second)
    (fair : Fair first.world) : Fair second.world := by
  cases move with
  | answered _ _ _ measured => exact (fair.acceptResult _ measured).same rfl rfl
  | rejected _ _ _ measured =>
      apply Fair.dropConversation
      exact (fair.acceptResult _ measured).same rfl rfl
  | unroutable _ _ _ measured => exact (fair.acceptResult _ measured).same rfl rfl
  | @timedOut world handle queryId =>
      have expired : Fair ((world.cancelTimer handle).expireQuery queryId) :=
        fair.same (expireQuery_nextUuid _ _) (expireQuery_history _ _)
      apply Fair.dropConversation
      apply Fair.recordFailure
      exact expired.same rfl rfl
  | timeoutUnroutable => exact fair.same (expireQuery_nextUuid _ _) (expireQuery_history _ _)
  | @issued _ world conversationId =>
      have popped : Fair (world.popDelayHandle conversationId) := fair.same rfl rfl
      exact (popped.afterIssued _ _ _ _ _).same rfl rfl
  | @refused _ world conversationId turn =>
      have checked : Fair (world.popDelayHandle conversationId).afterStopCheck :=
        fair.same rfl rfl
      exact (checked.observe (.refused conversationId (some turn.turn)) rfl).stopIssuing
  | crashed _ _ _ effects =>
      rcases effects with rfl | raised
      · exact fair.same rfl rfl
      · refine Fair.issueRaised ?_ raised
        exact fair.same rfl rfl
  | started _ draw =>
      obtain ⟨_, order, base, _, _, _, rfl⟩ := World.nextConversationInstance_eq_some draw
      exact fair.same rfl rfl
  | trackingStopped => exact fair.stopPerformanceTrackingOnce
  | collected => exact fair.observe (.collected _) rfl
  | @skipped _ world conversationId reason turn turns manager =>
      have managed : Fair (world.withManager manager) := fair.same rfl rfl
      apply Fair.recordFailure
      exact (managed.register turn.sampleIndex conversationId (some turn.turn) {}).same rfl rfl
  | issuingStopped => exact fair.stopIssuing
  | @skipRefused _ world conversationId turn turns manager =>
      have checked : Fair (world.withManager manager).afterStopCheck := fair.same rfl rfl
      exact (checked.observe (.refused conversationId (some turn.turn)) rfl).same rfl rfl
  | _ => exact fair.same rfl rfl

theorem moves {first second : Moment} (moves : Moves config first second)
    (fair : Fair first.world) : Fair second.world :=
  moves.invariant (fun moment => Fair moment.world) (fun _ _ fair move => fair.move move) fair

theorem withIssuer (fair : Fair world) (issuer : PhaseIssuer) :
    Fair { world with issuer := issuer } :=
  fair.same rfl rfl

theorem forgets (fair : Fair first) (forgets : Forgets first second) : Fair second :=
  fair.same forgets.nextUuid forgets.history

theorem executeStart (fair : Fair world) : Fair (world.executeStart config).2 :=
  executeStart_rule config Fair (fun _ _ _ fair moves => fair.moves moves)
    (fun world fair => fair.forgets (forgets_cleanUp world)) world
    (fair.forgets (forgets_resetStrategy config world))

theorem notice {response : Response} {next : World} (fair : Fair world)
    (notice : Notice world response next)
    (calm : ∀ result, response = .result result →
      result.error = none ∨ world.phaseType ≠ .warmup) : Fair next := by
  cases notice with
  | late => exact fair.observe (.received _) rfl
  | @foreign result =>
      exact (fair.observe (.received result) rfl).announceResult (calm result rfl)
  | @unmeasured result => exact fair.receivesResult result (calm result rfl)
  | @untracked result =>
      exact (fair.receivesResult result (calm result rfl)).observe (.collected result) rfl
  | @chunk chunk =>
      refine fair.observe (.published _) ?_
      cases chunk.firstChunk <;> simp [Observation.quiet, EventType.isError]

theorem sessionEvent (fair : Fair world) (eventType : EventType) (data : Option PhaseData)
    (quiet : eventType ≠ .issued ∧ eventType.isError = false) :
    Fair (PhaseState.publishSessionEvent world eventType data) := by
  refine Fair.observe (fair.observe (.published _) ?_) .flushed rfl
  simp [Observation.quiet, quiet]

/-! ## Steps -/

theorem finish {state : PhaseState} (fair : Fair state.world) : Fair state.finish.world := by
  unfold PhaseState.finish
  dsimp only
  split
  · exact fair.stopPerformanceTracking
  · exact fair

theorem afterStrategy {state : PhaseState} (fair : Fair state.world) :
    Fair state.afterStrategy.world := by
  unfold PhaseState.afterStrategy PhaseState.startDrain
  split
  · split
    · exact fair.finish
    · exact fair.same rfl rfl
  · exact fair.finish

theorem step {state next : PhaseState} {label : PhaseLabel} (fair : Fair state.world)
    (drawn : state.world.InflightDrawn)
    (calm : ∀ result, label = .deliver (.result result) →
      result.error = none ∨ state.world.phaseType ≠ .warmup)
    (edge : state.step config label = some next) : Fair next.world := by
  cases label with
  | execute =>
      simp only [PhaseState.step] at edge
      split at edge
      · split at edge <;> obtain rfl := Option.some.inj edge
        · exact fair.executeStart
        · exact fair
      · cases edge
  | issueSample sampleIndex =>
      simp only [PhaseState.step] at edge
      split at edge
      · obtain rfl := Option.some.inj edge
        exact fair.issue _ _ _ _ _
      · cases edge
  | issueLeftover past sampleIndex =>
      obtain ⟨issuer, _, rfl⟩ := Option.map_eq_some_iff.mp edge
      exact ((fair.withIssuer issuer).issue _ _ _ _ _).withIssuer _
  | strategyReturns | strategyRaises =>
      simp only [PhaseState.step] at edge
      split at edge
      · obtain rfl := Option.some.inj edge
        exact fair
      · cases edge
  | resume =>
      simp only [PhaseState.step] at edge
      split at edge
      · obtain rfl := Option.some.inj edge
        dsimp only
        unfold executeResume
        split <;> exact fair.forgets (forgets_cleanUp _)
      · cases edge
  | cancel =>
      simp only [PhaseState.step] at edge
      split at edge
      · obtain rfl := Option.some.inj edge
        dsimp only
        split
        · exact fair.forgets (forgets_cleanUp _)
        · exact fair
      · cases edge
  | awaitStrategy =>
      simp only [PhaseState.step] at edge
      split at edge
      · split at edge
        · obtain rfl := Option.some.inj edge
          exact fair.afterStrategy
        · obtain rfl := Option.some.inj edge
          exact fair.afterStrategy
        · obtain rfl := Option.some.inj edge
          exact fair
        · cases edge
      · cases edge
  | drained =>
      simp only [PhaseState.step] at edge
      split at edge
      · obtain rfl := Option.some.inj edge
        exact fair.finish
      · cases edge
  | drainTimeout =>
      simp only [PhaseState.step] at edge
      split at edge
      · obtain rfl := Option.some.inj edge
        apply Fair.finish
        exact fair.same rfl rfl
      · cases edge
  | deliver response =>
      simp only [PhaseState.step] at edge
      split at edge
      · rename_i deliverable
        obtain rfl := Option.some.inj edge
        rcases receive_cases config drawn deliverable with ⟨_, _, _, moves⟩ | notice
        · exact fair.moves moves
        · exact fair.notice notice fun result equal => calm result (by rw [equal])
      · cases edge
  | fire handle =>
      simp only [PhaseState.step, PhaseState.fireTimer] at edge
      split at edge
      · cases edge
      · obtain ⟨world, fires, rfl⟩ := Option.map_eq_some_iff.mp edge
        exact fair.moves (fireTimer_moves drawn fires)
      · rename_i issuer _
        obtain ⟨world, fires, rfl⟩ := Option.map_eq_some_iff.mp edge
        have formerDrawn : ({ state.world with issuer := issuer } : World).InflightDrawn := drawn
        have moved : Fair world :=
          (fair.withIssuer issuer).moves (fireTimer_moves formerDrawn fires)
        exact moved.withIssuer _
  | stop | tick =>
      obtain rfl := Option.some.inj edge
      exact fair.same rfl rfl
  | stopCurrentPhase =>
      obtain rfl := Option.some.inj edge
      split
      · exact fair.same rfl rfl
      · exact fair

theorem startWorld (fair : Fair world) (phase : PhaseConfig) :
    Fair (PhaseState.startWorld phase world) := by
  have fresh : Fair (PhaseState.freshWorld phase world) := fair.same rfl (List.append_nil _)
  unfold PhaseState.startWorld
  dsimp only
  split
  · exact (fresh.sessionEvent .phaseStart _ (by decide)).sessionEvent _ _ (by decide)
  · exact fresh.sessionEvent .phaseStart _ (by decide)

theorem close (fair : Fair world) : Fair (SessionState.close world) := by
  unfold SessionState.close
  dsimp only
  split
  · exact (fair.sessionEvent .interrupted none (by decide)).sessionEvent _ _ (by decide)
  · exact fair.sessionEvent _ _ (by decide)

end Fair

namespace SessionState

/-- The label delivers no error result to a warmup, which publishes no COMPLETE event for it. -/
def Calm : SessionState → SessionLabel → Prop
  | .inPhase _ current, .phase (.deliver (.result result)) =>
      result.error = none ∨ current.world.phaseType ≠ .warmup
  | _, _ => True

def isCalm : SessionState → SessionLabel → Bool
  | .inPhase _ current, .phase (.deliver (.result result)) =>
      result.error.isNone || current.world.phaseType != .warmup
  | _, _ => true

theorem isCalm_iff {state : SessionState} {label : SessionLabel} :
    state.isCalm label ↔ state.Calm label := by
  unfold isCalm Calm
  split
  · simp
  · simp

instance (state : SessionState) (label : SessionLabel) : Decidable (state.Calm label) :=
  decidable_of_iff _ isCalm_iff

theorem fair_step {state next : SessionState} {label : SessionLabel} (fair : Fair state.world)
    (orderly : state.Orderly) (calm : state.Calm label)
    (edge : state.step config label = some next) : Fair next.world := by
  match state, label with
  | .starting (phase :: remaining) world, .begin =>
      simp only [SessionState.step] at edge
      split at edge
      · cases edge
      · obtain rfl := Option.some.inj edge
        exact fair.startWorld phase
  | .starting phases world, .finish =>
      simp only [SessionState.step] at edge
      split at edge
      · obtain rfl := Option.some.inj edge
        exact fair.close
      · cases edge
  | .inPhase (phase :: remaining) current, .begin =>
      simp only [SessionState.step] at edge
      split at edge
      · obtain rfl := Option.some.inj edge
        exact fair.startWorld phase
      · cases edge
  | .inPhase remaining current, .finish =>
      simp only [SessionState.step] at edge
      split at edge
      · obtain rfl := Option.some.inj edge
        exact fair.close
      · cases edge
  | .inPhase remaining current, .phase label =>
      simp only [SessionState.step] at edge
      obtain ⟨after, phaseEdge, rfl⟩ := Option.map_eq_some_iff.mp edge
      refine fair.step orderly.terminals.inflightDrawn ?_ phaseEdge
      rintro result rfl
      exact calm
  | .starting [] world, .begin | .starting _ world, .phase _ | .inPhase [] _, .begin
  | .closed _, _ => simp [SessionState.step] at edge

end SessionState

/-! ## The whole session -/

/-- A session without untimely results and without failures while it warms up issues no sample
twice and reports no failure twice, and at any point of its log the counters balance. -/
theorem session_counters_balance (phases : List PhaseConfig) (sendFails : Nat → Bool)
    (nowNs : Nat) (labels : List SessionLabel) (final : SessionState)
    (undisturbed : GuardedRuns.Meets (SessionState.step config)
      (fun state label => state.Undisturbed label ∧ state.Calm label)
      (SessionState.initial phases sendFails nowNs) labels)
    (runs : GuardedRuns.run (SessionState.step config)
      (SessionState.initial phases sendFails nowNs) labels = some final) :
    MetricsAggregator.OnceOnly final.publishedEvents ∧
      ∀ (deliveries : List MetricsAggregator.Delivery) (current : List EventRecord),
        deliveries.flatMap MetricsAggregator.Delivery.records ++ current <+: final.publishedEvents →
          (current.foldl MetricsAggregator.processRecord
            (deliveries.foldl MetricsAggregator.deliver {})).Balanced := by
  have initially : Fair (SessionState.initial phases sendFails nowNs).world := by
    refine Fair.sessionEvent ?_ _ _ (by decide)
    exact ⟨List.nodup_nil, fun queryId member => absurd member List.not_mem_nil, fun _ => le_refl _⟩
  obtain ⟨orderly, fair⟩ := GuardedRuns.invariant_of_meets
    (fun _ _ _ (kept : SessionState.Orderly _ ∧ Fair (SessionState.world _)) guard edge =>
      And.intro (kept.1.step guard.1 edge) (SessionState.fair_step kept.2 kept.1 guard.2 edge))
    ⟨SessionState.orderly_initial phases sendFails nowNs, initially⟩ undisturbed runs
  have once : MetricsAggregator.OnceOnly final.publishedEvents := by
    refine ⟨fair.issued, List.nodup_iff_count_le_one.mpr fun queryId => ?_⟩
    refine (fair.failed queryId).trans ?_
    have completes := orderly.terminals.atMostOne queryId
    rw [← SessionState.countP_isCompleteOf] at completes
    exact completes
  refine ⟨once, fun deliveries current delivered => ?_⟩
  obtain ⟨rest, isLog⟩ := delivered
  rw [← isLog] at once
  have counted := MetricsAggregator.Accounts.initial.deliveries deliveries (current ++ rest)
    (by simpa using once)
  exact (counted.loop current rest (by simpa using once)).balanced

theorem session_counters_balance_inTime :
    ∃ final, GuardedRuns.run (SessionState.step OneTurn.config) OneTurn.session
        OneTurn.inTime = some final ∧
      (MetricsAggregator.deliver {} (.batch final.publishedEvents)).Balanced := by
  have undisturbed : GuardedRuns.Meets (SessionState.step OneTurn.config)
      (fun state label => state.Undisturbed label ∧ state.Calm label) OneTurn.session
        OneTurn.inTime := by decide
  have ends : (GuardedRuns.run (SessionState.step OneTurn.config) OneTurn.session
      OneTurn.inTime).isSome := by decide
  obtain ⟨final, runs⟩ := Option.isSome_iff_exists.mp ends
  refine ⟨final, runs, ?_⟩
  exact (session_counters_balance [OneTurn.performance, OneTurn.accuracy] (fun _ => false) 0
    OneTurn.inTime final undisturbed runs).2 [.batch final.publishedEvents] [] (by
      simp [MetricsAggregator.Delivery.records])

end InferenceEndpoint
