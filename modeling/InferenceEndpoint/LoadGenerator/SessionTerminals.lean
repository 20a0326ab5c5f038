import InferenceEndpoint.LoadGenerator.PhaseSteps

/-!
# Terminal events over a session

The session recognises a late result of a terminated query by the record of
the current phase issuer, which starts empty with every phase.  A sample
therefore gets a second COMPLETE event exactly when its query was terminated
by a timeout and the real result arrives in a later phase.  Runs in which no
result arrives for a query of an earlier phase in this way publish at most
one COMPLETE event for each sample.
-/

namespace InferenceEndpoint

variable {config : AgenticConfig}

open World

/-! ## One phase -/

/-- What makes COMPLETE events unique while a phase runs. -/
structure Orderly (state : PhaseState) : Prop where
  terminals : Terminals none state.world
  known : Known .idle state.world
  records : IssuerRecords state.world
  phaseType : state.world.phaseType = state.phase.phaseType
  owned : state.strategyIssuer = .current →
    state.phase.agentic = true ∧ state.world.Owned

/-- The result is not one of a query that was terminated in an earlier phase,
unless nothing is published for it because this phase is a warmup, and not one
of a query that the strategy waits for on behalf of an earlier phase. -/
def PhaseState.Timely (state : PhaseState) (result : QueryResult) : Prop :=
  (result.id ∈ state.world.collectedIds →
    result.id ∈ state.world.issuer.completedUuids ∨ state.world.phaseType = .warmup) ∧
  ((state.world.strategy.inflight.get? result.id).isSome →
    state.strategyIssuer.isCurrent)

instance (state : PhaseState) (result : QueryResult) : Decidable (state.Timely result) :=
  inferInstanceAs (Decidable (_ ∧ _))

theorem StrategyIssuer.isCurrent_iff {issuer : StrategyIssuer} :
    issuer.isCurrent = true ↔ issuer = .current := by
  cases issuer <;> simp [isCurrent]

/-- Nothing here depends on which issuer is the current one. -/
theorem Terminals.withIssuer {uncollected : Option QueryResult} {world : World}
    (terminals : Terminals uncollected world) (issuer : PhaseIssuer) :
    Terminals uncollected { world with issuer := issuer } :=
  ⟨terminals.atMostOne, terminals.ended, terminals.waitingUnreceived,
    terminals.waitingUncollected, terminals.waitingDrawn, terminals.sentDrawn,
    terminals.receivedDrawn, terminals.collectedDrawn, terminals.uncollectedSettled⟩

theorem Known.withIssuer {control : Control} {world : World}
    (known : Known control world) (issuer : PhaseIssuer) :
    Known control { world with issuer := issuer } :=
  known.same rfl rfl rfl

/-- The records of an issuer stay valid while others draw uuids. -/
theorem IssuerRecords.later {world : World} (records : IssuerRecords world)
    {next : World} (issuer : next.issuer = world.issuer)
    (nextUuid : world.nextUuid ≤ next.nextUuid) : IssuerRecords next := by
  constructor
  · rw [issuer]
    exact fun queryId registered =>
      Nat.lt_of_lt_of_le (records.registeredDrawn queryId registered) nextUuid
  · rw [issuer]
    exact records.completedRegistered

/-- Seeding keeps COMPLETE events unique, from a world in which the strategy
waits for nothing. -/
theorem executeStart_orderly (config : AgenticConfig) {world : World} (terminals : Terminals none world)
    (known : Known .idle world) (records : IssuerRecords world) :
    let executed := (world.executeStart config).2
    Terminals none executed ∧ Known .idle executed ∧ IssuerRecords executed ∧
      executed.Owned ∧ executed.phaseType = world.phaseType := by
  refine executeStart_rule config (fun executed =>
    Terminals none executed ∧ Known .idle executed ∧ IssuerRecords executed ∧
      executed.Owned ∧ executed.phaseType = world.phaseType) ?_ ?_ world ?_
  · rintro first control second ⟨terminals, known, records, owned, phaseType⟩ moves
    have fields := congrArg SessionFields.phaseType moves.sessionFields
    exact ⟨terminals.moves known.filling moves,
      (known.filling.moves moves).idle, records.moves known.filling moves,
      owned.moves records known.filling moves, fields.trans phaseType⟩
  · rintro before ⟨terminals, known, records, owned, phaseType⟩
    have forgets := forgets_cleanUp before
    have issuer := forgets.records records owned
    exact ⟨forgets.terminals terminals, forgets.known known, issuer.1, issuer.2,
      forgets.phaseType.trans phaseType⟩
  · have forgets := forgets_resetStrategy config world
    exact ⟨forgets.terminals terminals, forgets.known known,
      records.later rfl (le_refl _), nofun, rfl⟩

theorem Orderly.delivered {state : PhaseState} {response : Response}
    (orderly : Orderly state)
    (deliverable : state.world.deliverable response = true)
    (timely : ∀ result, response = .result result → state.Timely result) :
    Orderly { state with world := state.world.receive config response } := by
  obtain ⟨terminals, known, records, phaseType, owned⟩ := orderly
  rcases receive_cases config terminals.inflightDrawn deliverable with
    ⟨_, _, _, moves⟩ | notice
  · exact
      { terminals := terminals.moves known moves
        known := known.moves moves
        records := records.moves known moves
        phaseType :=
          (congrArg SessionFields.phaseType moves.sessionFields).trans phaseType
        owned := fun current =>
          (owned current).imp_right fun owned => owned.moves records known moves }
  · refine
      { terminals := notice.terminals terminals ?_ fun result equal =>
          (timely result equal).1
        known := known.notice notice
        records := notice.records records
        phaseType :=
          (congrArg SessionFields.phaseType notice.sessionFields).trans phaseType
        owned := fun current => (owned current).imp_right notice.owned }
    intro result equal waiting
    obtain ⟨agentic, owned⟩ :=
      owned (StrategyIssuer.isCurrent_iff.mp ((timely result equal).2 waiting))
    obtain ⟨conversationId, found⟩ := Option.isSome_iff_exists.mp waiting
    obtain ⟨registered, open_⟩ := owned result.id conversationId found
    exact ⟨registered, open_, by rw [phaseType]; exact state.phase.agenticMeasured agentic⟩

/-- A callback of the strategy on behalf of an earlier phase. -/
theorem Orderly.firedFormer {state : PhaseState} {issuer : PhaseIssuer}
    {handle : TimerHandle} {world : World} (orderly : Orderly state)
    (fires : ({ state.world with issuer := issuer } : World).fireTimer config handle =
      some world) :
    Orderly { state with
      strategyIssuer := .former world.issuer
      world := { world with issuer := state.world.issuer } } := by
  have terminals := orderly.terminals.withIssuer issuer
  have known := orderly.known.withIssuer issuer
  have moves := fireTimer_moves terminals.inflightDrawn fires
  exact
    { terminals := (terminals.moves known moves).withIssuer _
      known := (known.moves moves).withIssuer _
      records := orderly.records.later rfl (moves.nextUuid_le known)
      phaseType := (congrArg SessionFields.phaseType moves.sessionFields).trans
        orderly.phaseType
      owned := nofun }

theorem Orderly.leftover {state : PhaseState} (orderly : Orderly state)
    (past sampleIndex : Nat) (issuer : PhaseIssuer) :
    Orderly (state.issueLeftover past issuer sampleIndex) := by
  have effect := issue_effect state.world.issuer.issuedCount
    { state.world with issuer := issuer } sampleIndex none "" none
  have untouched := issue_untouched state.world.issuer.issuedCount
    { state.world with issuer := issuer } sampleIndex none "" none
  have terminals := effect.terminals (orderly.terminals.withIssuer issuer)
  exact
    { terminals := terminals.withIssuer _
      known := orderly.known.same untouched.1 untouched.2.1 untouched.2.2.1
      records := orderly.records.later rfl effect.nextUuid_le
      phaseType := (congrArg SessionFields.phaseType untouched.2.2.2).trans
        orderly.phaseType
      owned := fun current => by
        have strategy : (state.issueLeftover past issuer
            sampleIndex).world.strategy = state.world.strategy := untouched.2.1
        rw [World.Owned, strategy]
        exact orderly.owned current }

theorem Orderly.step {state next : PhaseState} {label : PhaseLabel}
    (orderly : Orderly state)
    (timely : ∀ result, label = .deliver (.result result) → state.Timely result)
    (edge : state.step config label = some next) : Orderly next := by
  cases PhaseState.step_change edge with
  | quiet phase strategyIssuer manager strategy timers phaseType _ effect =>
      exact
        { terminals := effect.terminals orderly.terminals
          known := orderly.known.same manager strategy timers
          records := effect.records orderly.records
          phaseType := by rw [phaseType, phase]; exact orderly.phaseType
          owned := by
            rw [strategyIssuer, phase]
            exact fun current => (orderly.owned current).imp_right
              fun owned => effect.owned orderly.records owned }
  | cleaned phase strategyIssuer world =>
      have forgets := forgets_cleanUp state.world
      rw [← world] at forgets
      exact
        { terminals := forgets.terminals orderly.terminals
          known := forgets.known orderly.known
          records := orderly.records.later forgets.issuer forgets.nextUuid.ge
          phaseType := by rw [forgets.phaseType, phase]; exact orderly.phaseType
          owned := by
            rw [strategyIssuer, phase]
            exact fun current => (orderly.owned current).imp_right
              fun owned => (forgets.records orderly.records owned).2 }
  | executed phase agentic strategyIssuer world =>
      obtain ⟨terminals, known, records, owned, phaseType⟩ :=
        executeStart_orderly config orderly.terminals orderly.known
          orderly.records
      rw [← world] at terminals known records owned phaseType
      exact ⟨terminals, known, records, by rw [phaseType, phase]; exact orderly.phaseType,
        fun _ => ⟨by rw [phase]; exact agentic, owned⟩⟩
  | @leftover past sampleIndex issuer equal =>
      subst equal
      exact orderly.leftover past sampleIndex issuer
  | delivered deliverable equal =>
      subst equal
      exact orderly.delivered deliverable fun result response =>
        timely result (by rw [response])
  | fired current fires equal =>
      subst equal
      have moves := fireTimer_moves orderly.terminals.inflightDrawn fires
      exact
        { terminals := orderly.terminals.moves orderly.known moves
          known := orderly.known.moves moves
          records := orderly.records.moves orderly.known moves
          phaseType := (congrArg SessionFields.phaseType moves.sessionFields).trans
            orderly.phaseType
          owned := fun current => (orderly.owned current).imp_right
            fun owned => owned.moves orderly.records orderly.known moves }
  | firedFormer former fires equal =>
      subst equal
      exact orderly.firedFormer fires

/-! ## The whole session -/

/-- Entering a phase replaces the issuer and nothing that was published. -/
theorem Terminals.freshWorld {world : World} (terminals : Terminals none world)
    (phase : PhaseConfig) : Terminals none (PhaseState.freshWorld phase world) := by
  have history : (PhaseState.freshWorld phase world).history = world.history :=
    List.append_nil _
  have sentIds := sentIds_congr history
  have receivedIds := receivedIds_congr history
  have collectedIds := collectedIds_congr history
  have completeIds := completeIds_congr history
  constructor
  · rw [completeIds]; exact terminals.atMostOne
  · rw [completeIds, receivedIds, collectedIds]; exact terminals.ended
  · rw [receivedIds]; exact terminals.waitingUnreceived
  · rw [collectedIds]; exact terminals.waitingUncollected
  · exact terminals.waitingDrawn
  · rw [sentIds]; exact terminals.sentDrawn
  · rw [receivedIds]; exact terminals.receivedDrawn
  · rw [collectedIds]; exact terminals.collectedDrawn
  · exact fun _ uncollected => by cases uncollected

theorem Orderly.enter {world : World} (terminals : Terminals none world)
    (known : Known .idle world) (phase : PhaseConfig) (past : List PhaseIssuer)
    {strategyIssuer : StrategyIssuer} (elsewhere : strategyIssuer ≠ .current) :
    Orderly (.enter phase past strategyIssuer world) := by
  have announced := sameBooks_startWorld phase world
  have untouched := startWorld_untouched phase world
  have records : IssuerRecords (PhaseState.freshWorld phase world) := ⟨nofun, nofun⟩
  refine
    { terminals := announced.terminals (terminals.freshWorld phase)
      known := known.same untouched.1 untouched.2.1 untouched.2.2.1
      records := ?_
      phaseType := untouched.2.2.2
      owned := fun current => absurd current elsewhere }
  have started : IssuerRecords (PhaseState.startWorld phase world) := by
    constructor
    · rw [announced.uuidToIndex, announced.nextUuid]
      exact records.registeredDrawn
    · rw [announced.uuidToIndex, announced.completedUuids]
      exact records.completedRegistered
  exact started

namespace SessionState

/-- The events published so far. -/
def publishedEvents (state : SessionState) : List EventRecord :=
  state.world.history.filterMap fun
    | .published event => some event
    | _ => none

theorem countP_isCompleteOf (state : SessionState) (queryId : QueryId) :
    state.publishedEvents.countP (·.isCompleteOf queryId) =
      state.world.completeIds.count queryId := by
  unfold publishedEvents World.completeIds
  induction state.world.history with
  | nil => rfl
  | cons observation history ih =>
      cases observation with
      | published event =>
          by_cases complete : event.eventType = .complete
          · cases uuid : event.sampleUuid with
            | none =>
                simpa [EventRecord.isCompleteOf, Observation.completeId?, complete,
                  uuid] using ih
            | some sample =>
                simp [EventRecord.isCompleteOf, Observation.completeId?, complete,
                  uuid, List.countP_cons, List.count_cons] at ih ⊢
                omega
          · simpa [EventRecord.isCompleteOf, Observation.completeId?, complete] using ih
      | flushed | sent | received | collected | refused => exact ih

/-- The label does not deliver an untimely result. -/
def Undisturbed : SessionState → SessionLabel → Prop
  | .inPhase _ current, .phase (.deliver (.result result)) => current.Timely result
  | _, _ => True

instance (state : SessionState) (label : SessionLabel) :
    Decidable (state.Undisturbed label) := by
  unfold Undisturbed
  split <;> infer_instance

/-- The invariant of a session. -/
def Orderly (state : SessionState) : Prop :=
  match state with
  | .starting _ world => Terminals none world ∧ Known .idle world
  | .inPhase _ current => InferenceEndpoint.Orderly current
  | .closed world => Terminals none world

theorem Orderly.terminals {state : SessionState} (orderly : state.Orderly) :
    Terminals none state.world := by
  cases state with
  | starting phases world => exact orderly.1
  | inPhase remaining current => exact InferenceEndpoint.Orderly.terminals orderly
  | closed world => exact orderly

theorem orderly_initial (phases : List PhaseConfig) (sendFails : Nat → Bool)
    (nowNs : Nat) : (initial phases sendFails nowNs).Orderly := by
  refine ⟨(sameBooks_publishSessionEvent _ _ _).terminals ?_,
    ⟨nofun, nofun, nofun, nofun⟩⟩
  exact ⟨fun _ => Nat.zero_le _, nofun, nofun, nofun, nofun, nofun, nofun, nofun,
    fun _ uncollected => by cases uncollected⟩

theorem terminals_close {world : World} (terminals : Terminals none world) :
    Terminals none (close world) := by
  unfold close
  dsimp only
  split
  · exact (sameBooks_publishSessionEvent _ _ _).terminals
      ((sameBooks_publishSessionEvent _ _ _).terminals terminals)
  · exact (sameBooks_publishSessionEvent _ _ _).terminals terminals

theorem Orderly.step {state next : SessionState} {label : SessionLabel}
    (orderly : state.Orderly) (undisturbed : state.Undisturbed label)
    (edge : state.step config label = some next) : next.Orderly := by
  match state, label with
  | .starting (phase :: remaining) world, .begin =>
      simp only [SessionState.step] at edge
      split at edge
      · simp at edge
      · obtain rfl := Option.some.inj edge
        exact InferenceEndpoint.Orderly.enter orderly.1 orderly.2 phase [] nofun
  | .starting phases world, .finish =>
      simp only [SessionState.step] at edge
      split at edge
      · obtain rfl := Option.some.inj edge
        exact terminals_close orderly.1
      · simp at edge
  | .inPhase (phase :: remaining) current, .begin =>
      simp only [SessionState.step] at edge
      split at edge
      · obtain rfl := Option.some.inj edge
        refine InferenceEndpoint.Orderly.enter
          (InferenceEndpoint.Orderly.terminals orderly)
          (InferenceEndpoint.Orderly.known orderly) phase _ ?_
        cases current.strategyIssuer <;> simp
      · simp at edge
  | .inPhase remaining current, .finish =>
      simp only [SessionState.step] at edge
      split at edge
      · obtain rfl := Option.some.inj edge
        exact terminals_close (InferenceEndpoint.Orderly.terminals orderly)
      · simp at edge
  | .inPhase remaining current, .phase label =>
      simp only [SessionState.step] at edge
      obtain ⟨after, phaseEdge, rfl⟩ := Option.map_eq_some_iff.mp edge
      refine InferenceEndpoint.Orderly.step orderly ?_ phaseEdge
      rintro result rfl
      exact undisturbed
  | .starting [] world, .begin | .starting _ world, .phase _ | .inPhase [] _, .begin
  | .closed _, _ => simp [SessionState.step] at edge

end SessionState

/-- In a session none of whose results is untimely, every sample has at most
one COMPLETE event, at every point of the run. -/
theorem complete_atMostOnce (phases : List PhaseConfig) (sendFails : Nat → Bool)
    (nowNs : Nat) (labels : List SessionLabel) (final : SessionState)
    (undisturbed : GuardedRuns.Meets (SessionState.step config)
      SessionState.Undisturbed (SessionState.initial phases sendFails nowNs) labels)
    (runs : GuardedRuns.run (SessionState.step config)
      (SessionState.initial phases sendFails nowNs) labels = some final)
    (queryId : QueryId) :
    final.publishedEvents.countP (·.isCompleteOf queryId) ≤ 1 := by
  have orderly : final.Orderly :=
    GuardedRuns.invariant_of_meets
      (fun _ _ _ orderly undisturbed edge => orderly.step undisturbed edge)
      (SessionState.orderly_initial phases sendFails nowNs) undisturbed runs
  rw [SessionState.countP_isCompleteOf]
  exact orderly.terminals.atMostOne queryId

/-! ## A late result -/

namespace OneTurn

/-- The performance phase and an accuracy phase. -/
def session : SessionState :=
  .initial [performance, accuracy] (fun _ => false) 0

/-- The only turn is issued and times out. -/
def timeout : List SessionLabel :=
  [.begin, .phase .execute, .phase (.fire 0)]

def result : SessionLabel :=
  .phase (.deliver (.result { id := 0 }))

/-- The real result arrives before the phase ends. -/
def inTime : List SessionLabel :=
  timeout ++ [result, .phase .resume, .phase .awaitStrategy, .begin]

/-- The real result arrives in the next phase. -/
def tooLate : List SessionLabel :=
  timeout ++ [.phase .resume, .phase .awaitStrategy, .begin, result]

end OneTurn

theorem complete_atMostOnce_inTime :
    ∃ final, GuardedRuns.run (SessionState.step OneTurn.config) OneTurn.session
        OneTurn.inTime = some final ∧
      final.publishedEvents.countP (·.isCompleteOf 0) ≤ 1 :=
  ⟨_, (Option.some_get (by decide)).symm,
    complete_atMostOnce [OneTurn.performance, OneTurn.accuracy]
      (fun _ => false) 0 OneTurn.inTime _ (by decide)
      (Option.some_get (by decide)).symm 0⟩

/-- A timeout in one phase and the real result in the next: the session
publishes two COMPLETE events for the sample. -/
theorem complete_twice_tooLate :
    ∃ final, GuardedRuns.run (SessionState.step OneTurn.config) OneTurn.session
        OneTurn.tooLate = some final ∧
      final.publishedEvents.countP (·.isCompleteOf 0) = 2 :=
  ⟨_, (Option.some_get (by decide)).symm, by decide⟩

end InferenceEndpoint
