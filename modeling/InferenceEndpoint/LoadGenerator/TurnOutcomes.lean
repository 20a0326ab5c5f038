import InferenceEndpoint.LoadGenerator.Drain
import InferenceEndpoint.LoadGenerator.StrategyEnd
import InferenceEndpoint.LoadGenerator.TurnAccounts
import InferenceEndpoint.LoadGenerator.TurnMoves

/-!
# The turns of an agentic phase

The schedule of a phase follows the strategy's callbacks; everything else that happens
while the phase runs only adds to its events.  When `execute` returns and nothing was
refused, every turn of every started trajectory has its outcome.
-/

namespace InferenceEndpoint

variable {config : AgenticConfig}

open World

/-! ## Callbacks and notices -/

theorem Moves.kept (plain : config.PlainIds) {first second : Moment}
    (moves : Moves config first second) (known : Known first.control first.world)
    (staged : Staged config first.control first.world)
    (ledger : Ledger first.uncollected first.world)
    (kept : Schedule.Kept config first.schedule) : Schedule.Kept config second.schedule := by
  have all := moves.invariant
    (fun moment => (Known moment.control moment.world ∧
        Staged config moment.control moment.world ∧ Ledger moment.uncollected moment.world) ∧
      Schedule.Kept config moment.schedule)
    (fun before after ⟨⟨known, staged, ledger⟩, kept⟩ move =>
      ⟨⟨move.known known, move.staged plain known staged, (move.effect known).ledger ledger⟩,
        (move.schedule plain known staged ledger).kept plain kept⟩)
    ⟨⟨known, staged, ledger⟩, kept⟩
  exact all.2

/-- A notice adds at most the result to the events. -/
theorem Notice.schedule {world next : World} {response : Response}
    (notice : Notice world response next) (ledger : Ledger none world)
    (measured : world.phaseType ≠ .warmup) :
    ∃ news, Moment.schedule ⟨.idle, none, next⟩ =
        { Moment.schedule ⟨.idle, none, world⟩ with events := world.turnEvents ++ news } ∧
      (news = [] ∨ ∃ result, result.id ∈ world.sentIds ∧ result.id ∉ world.receivedIds ∧
        world.strategy.inflight.get? result.id = none ∧
        (news = [.received result] ∨
          (news = [.received result, .collected result] ∧
            ∀ other, .collected other ∈ world.turnEvents → other.id ≠ result.id))) := by
  have announced : ∀ (result : QueryResult),
      ((world.observe (.received result)).announceResult result).turnEvents =
        world.turnEvents ++ [TurnEvent.received result] := by
    intro result
    rw [announceResult_turnEvents]
    exact turnEvents_append world [.received result] rfl
  have sentIds : ∀ (result : QueryResult),
      ((world.observe (.received result)).announceResult result).sentIds = world.sentIds := by
    intro result
    rw [announceResult_sentIds, sentIds_observe]
    exact List.append_nil _
  cases notice with
  | @late result sent unreceived terminated =>
      refine ⟨[.received result], ?_, Or.inr ⟨result, sent, unreceived, ?_, Or.inl rfl⟩⟩
      · ext1 <;> try rfl
        · exact (sentIds_observe world _).trans (List.append_nil _)
        · exact turnEvents_append world [.received result] rfl
      · cases waiting : world.strategy.inflight.get? result.id with
        | none => rfl
        | some conversationId =>
            exact absurd terminated (ledger.waitingOpen _ _ waiting)
  | @foreign result sent unreceived open_ unregistered =>
      refine ⟨[.received result], ?_, Or.inr ⟨result, sent, unreceived, ?_, Or.inl rfl⟩⟩
      · ext1 <;> try rfl
        · exact sentIds result
        · exact announced result
      · cases waiting : world.strategy.inflight.get? result.id with
        | none => rfl
        | some conversationId =>
            have registered := ledger.waitingRegistered _ _ waiting
            simp [unregistered] at registered
  | unmeasured _ _ _ _ warmup => exact absurd warmup measured
  | @untracked result sent unreceived open_ registered _ notWaiting =>
      refine ⟨[.received result, .collected result], ?_,
        Or.inr ⟨result, sent, unreceived, notWaiting, Or.inr ⟨rfl, ?_⟩⟩⟩
      · have timeline := markInflightComplete_timeline
          ((world.observe (.received result)).announceResult result)
        ext1 <;> dsimp only [Moment.schedule]
        · exact congrArg (fun strategy : AgenticState => strategy.activeIters.get?)
            (markInflightComplete_strategy _)
        · exact congrArg (fun strategy : AgenticState => strategy.inflight.get?)
            (markInflightComplete_strategy _)
        · exact congrArg OrderedDict.get? (markInflightComplete_manager _)
        · exact congrArg AgenticState.startedTrajectoryCount (markInflightComplete_strategy _)
        · exact markInflightComplete_issuedCount _
        · exact congrArg AgenticState.stopping (markInflightComplete_strategy _)
        · exact congrArg AgenticState.error (markInflightComplete_strategy _)
        · exact markInflightComplete_nextUuid _
        · rw [sentIds_observe]
          refine (List.append_nil _).trans ?_
          rw [sentIds_congr (markInflightComplete_history _)]
          exact sentIds result
        · rw [turnEvents_append _ [.collected result] rfl,
            turnEvents_of_timeline timeline, announced, List.append_assoc]
          rfl
      · intro other member same
        have unresolved := ledger.mem_unresolved_of_open sent unreceived registered open_
        exact (World.mem_unresolved.mp unresolved).2.2.2
          (same ▸ mem_collectedIds_of_turnEvents member)
  | @chunk chunk =>
      refine ⟨[], ?_, Or.inl rfl⟩
      ext1 <;> try rfl
      · exact (sentIds_observe world (.published _)).trans (List.append_nil _)
      · refine turnEvents_append world [.published _] rfl |>.trans ?_
        congr 1
        simp only [List.filterMap_cons, Observation.turnEvent?, List.filterMap_nil]
        cases chunk.firstChunk <;> simp

/-! ## The schedule of a phase -/

namespace PhaseState

/-- The schedule between two callbacks. -/
def schedule (state : PhaseState) : Schedule :=
  Moment.schedule ⟨.idle, none, state.world⟩

end PhaseState

namespace Schedule

/-- The schedule as `execute` finds it. -/
def reset (schedule : Schedule) : Schedule :=
  { schedule with
      active := fun _ => none
      waiting := fun _ => none
      started := 0
      stopping := false
      error := false }

end Schedule

theorem cleanUp_schedule (world : World) :
    Moment.schedule ⟨.idle, none, world.cleanUp⟩ =
      { Moment.schedule ⟨.idle, none, world⟩ with waiting := fun _ => none } := by
  unfold cleanUp
  dsimp only
  rw [cancelTimers_eq, cancelTimers_eq]
  rfl

theorem finish_schedule (state : PhaseState) : state.finish.schedule = state.schedule := by
  unfold PhaseState.finish PhaseState.schedule
  dsimp only
  split
  · unfold stopPerformanceTracking
    split
    · rfl
    · ext1 <;> try rfl
      · simp [Moment.schedule, sentIds, World.history, publish, flush, observe,
          Observation.sentId?]
      · simp [Moment.schedule, turnEvents, publish, flush, observe, Observation.turnEvent?]
  · rfl

theorem afterStrategy_schedule (state : PhaseState) :
    state.afterStrategy.schedule = state.schedule := by
  unfold PhaseState.afterStrategy PhaseState.startDrain
  split
  · split
    · exact finish_schedule state
    · rfl
  · exact finish_schedule state

/-- A callback left over from an earlier phase only draws uuids. -/
theorem leftover_schedule (state : PhaseState) (past sampleIndex : Nat) (issuer : PhaseIssuer) :
    ∃ nextUuid launched, state.schedule.nextUuid ≤ nextUuid ∧
      (∀ queryId ∈ state.schedule.launched, queryId ∈ launched) ∧
      (∀ queryId ∈ launched,
        queryId ∈ state.schedule.launched ∨ state.schedule.nextUuid ≤ queryId) ∧
      (state.issueLeftover past issuer sampleIndex).schedule =
        { state.schedule with nextUuid := nextUuid, launched := launched } := by
  have started := issue_cases state.world.issuer.issuedCount
    { state.world with issuer := issuer } sampleIndex none "" none
  unfold PhaseState.issueLeftover PhaseState.schedule
  dsimp only
  rcases started with ⟨_, refused⟩ | ⟨next, raised, equal⟩ | ⟨query, prompt, fresh, _, issued⟩
  · refine ⟨state.world.nextUuid, state.world.sentIds, Nat.le_refl _, fun _ => id,
      fun _ => Or.inl, ?_⟩
    rw [refused]
    ext1 <;> try rfl
    · exact (sentIds_observe state.world _).trans (List.append_nil _)
    · exact (turnEvents_append state.world [.refused "" none] rfl).trans (List.append_nil _)
  · refine ⟨state.world.nextUuid + 1, state.world.sentIds, Nat.le_succ _, fun _ => id,
      fun _ => Or.inl, ?_⟩
    rw [equal]
    cases raised with
    | unregistered | unannounced => rfl
    | unsent prompt =>
        ext1 <;> try rfl
        · exact (sentIds_observe state.world (.published _)).trans (List.append_nil _)
        · exact (turnEvents_append state.world [.published _] rfl).trans (List.append_nil _)
  · refine ⟨state.world.nextUuid + 1, state.world.sentIds ++ [state.world.nextUuid],
      Nat.le_succ _, fun _ => List.mem_append_left _, ?_, ?_⟩
    · intro queryId member
      exact (List.mem_append.mp member).imp id fun last =>
        Nat.le_of_eq (List.mem_singleton.mp last).symm
    · rw [issued]
      ext1 <;> try rfl
      · exact (issues_afterIssued prompt sampleIndex "" none fresh).sentIds
      · refine (turnEvents_append state.world
          [Observation.published (({ state.world with issuer := issuer } : World).issuedEvent
              state.world.nextUuid "" none prompt), .sent query "" none] ?_).trans
            (List.append_nil _)
        exact List.append_assoc _ _ _

namespace Schedule

variable {schedule : Schedule}

theorem Kept.drew (kept : Kept config schedule) {nextUuid : QueryId} {launched : List QueryId}
    (drawn : schedule.nextUuid ≤ nextUuid)
    (more : ∀ queryId ∈ schedule.launched, queryId ∈ launched)
    (later : ∀ queryId ∈ launched,
      queryId ∈ schedule.launched ∨ schedule.nextUuid ≤ queryId) :
    Kept config { schedule with nextUuid := nextUuid, launched := launched } :=
  ⟨kept.budget, fun unhindered =>
    have both := kept.accounts ⟨unhindered.continues, unhindered.unrefused⟩
    ⟨both.1, both.2.drew drawn more later⟩⟩

/-- The news of a notice keep the accounts. -/
theorem Accounts.noticed (accounts : Accounts config schedule) {news : List TurnEvent}
    (free : schedule.uncollected = none)
    (noticed : news = [] ∨ ∃ result, result.id ∈ schedule.launched ∧
      result.id < schedule.nextUuid ∧ schedule.waiting result.id = none ∧
      (news = [.received result] ∨
        (news = [.received result, .collected result] ∧
          ∀ other, .collected other ∈ schedule.events → other.id ≠ result.id))) :
    Accounts config { schedule with events := schedule.events ++ news } := by
  rcases noticed with rfl | ⟨result, launched, drawn, notWaiting, recorded⟩
  · rw [List.append_nil]
    exact accounts
  · exact accounts.heard free notWaiting launched drawn recorded

theorem Unhindered.shrink {news : List TurnEvent}
    (unhindered : Unhindered config { schedule with events := schedule.events ++ news }) :
    Unhindered config schedule :=
  ⟨unhindered.continues, fun conversationId turn member =>
    unhindered.unrefused conversationId turn (List.mem_append_left _ member)⟩

end Schedule

/-! ## An agentic phase -/

/-- Everything that was started is settled, and nothing is left to start. -/
structure Schedule.Finished (config : AgenticConfig) (schedule : Schedule) : Prop where
  settled : Schedule.Settled config schedule
  exhausted : config.metadata.baseConvs = [] ∨ schedule.started = config.trajectoryBudget

/-- The accounts of the phase before, during and after `execute`. -/
structure Tallied (config : AgenticConfig) (state : PhaseState) : Prop where
  before : state.strategyIssuer ≠ .current →
    Schedule.Accounts config state.schedule.reset
  kept : state.execute = .waiting → Schedule.Kept config state.schedule
  returned : ∀ issued, state.execute = .returned issued →
    Schedule.Unhindered config state.schedule →
      Schedule.Finished config state.schedule ∧ issued = state.schedule.issuedCount

theorem Schedule.kept_reset {schedule : Schedule}
    (accounts : Schedule.Accounts config schedule.reset) :
    Schedule.Kept config schedule.reset :=
  ⟨Nat.zero_le _, fun _ => ⟨rfl, accounts⟩⟩

theorem Schedule.Kept.filling {world : World}
    (kept : Schedule.Kept config (Moment.schedule ⟨.idle, none, world⟩)) :
    Schedule.Kept config (Moment.schedule ⟨.filling, none, world⟩) :=
  ⟨kept.budget, fun unhindered =>
    have both := kept.accounts ⟨unhindered.continues, unhindered.unrefused⟩
    ⟨both.1, both.2.turned nofun nofun⟩⟩

/-- Without work, everything that was started has ended. -/
theorem Schedule.Kept.finished {world : World} (staged : Staged config .idle world)
    (kept : Schedule.Kept config (Moment.schedule ⟨.idle, none, world⟩))
    (unhindered : Schedule.Unhindered config (Moment.schedule ⟨.idle, none, world⟩))
    (waiting : ∀ queryId, world.strategy.inflight.get? queryId = none)
    (active : ∀ conversationId, world.strategy.activeIters.get? conversationId = none)
    (noMore : world.hasMoreConversationInstances config = false) :
    Schedule.Finished config (Moment.schedule ⟨.idle, none, world⟩) := by
  refine ⟨⟨(kept.accounts unhindered).2, active, waiting, rfl, rfl⟩, ?_⟩
  have sameConvs : world.strategy.baseConvs = config.metadata.baseConvs := staged.drawn.1
  simp only [hasMoreConversationInstances, hasTrajectoryBudget, World.trajectoryBudget,
    sameConvs, Bool.and_eq_false_iff, Bool.not_eq_false', List.isEmpty_iff,
    decide_eq_false_iff_not] at noMore
  exact noMore.imp_right fun exhausted =>
    Nat.le_antisymm kept.budget (Nat.not_lt.mp exhausted)

theorem Schedule.Finished.cleanUp {world : World}
    (finished : Schedule.Finished config (Moment.schedule ⟨.idle, none, world⟩)) :
    Schedule.Finished config (Moment.schedule ⟨.idle, none, world.cleanUp⟩) := by
  have same : Moment.schedule ⟨.idle, none, world.cleanUp⟩ =
      Moment.schedule ⟨.idle, none, world⟩ := by
    rw [cleanUp_schedule]
    ext1 <;> try rfl
    exact (funext finished.settled.quiet).symm
  rw [same]
  exact finished

/-- The first step of `execute` starts the accounts. -/
theorem executeStart_tallied (plain : config.PlainIds) {world : World}
    (known : Known .idle world) (ledger : Ledger none world) (inert : world.Inert)
    (empty : ∀ conversationId, world.manager.get? conversationId = none)
    (accounts : Schedule.Accounts config (Moment.schedule ⟨.idle, none, world⟩).reset) :
    ((world.executeStart config).1 = .waiting → Schedule.Kept config
      (Moment.schedule ⟨.idle, none, (world.executeStart config).2⟩)) ∧
    ∀ issued, (world.executeStart config).1 = .returned issued →
      Schedule.Unhindered config
        (Moment.schedule ⟨.idle, none, (world.executeStart config).2⟩) →
      Schedule.Finished config
          (Moment.schedule ⟨.idle, none, (world.executeStart config).2⟩) ∧
        issued = (world.executeStart config).2.issuer.issuedCount := by
  have reset := forgets_resetStrategy config world
  have seeded := seed_rule config
    (fun _ seeding => (Known .idle seeding ∧ Staged config .idle seeding ∧
        Ledger none seeding) ∧
      Schedule.Kept config (Moment.schedule ⟨.idle, none, seeding⟩))
    (fun _ => True) (fun _ _ holds _ => holds) ?_ (fun _ _ _ _ _ _ => trivial)
    ((world.resetStrategy config).initialConversationsToStart config)
    (world.resetStrategy config)
    ⟨⟨reset.known known, staged_resetStrategy config inert empty, reset.ledger ledger⟩,
      Schedule.kept_reset accounts⟩
  · generalize result : world.executeStart config = executed
    have cases := executeStart_cases config world
    rw [result] at cases
    cases cases with
    | invalid | raised => exact ⟨nofun, nofun⟩
    | @returned final seeding noWork =>
        rw [seeding] at seeded
        obtain ⟨⟨_, staged, _⟩, kept⟩ := seeded.1 rfl
        refine ⟨nofun, fun issued is unhindered => ?_⟩
        have before : Schedule.Unhindered config (Moment.schedule ⟨.idle, none, final⟩) := by
          rw [cleanUp_schedule] at unhindered
          exact ⟨unhindered.continues, unhindered.unrefused⟩
        have issuing : final.strategy.stopping = false := (kept.accounts before).1
        simp only [hasWorkRemaining, issuing, Bool.false_eq_true, if_false,
          Bool.or_eq_false_iff, Bool.not_eq_false'] at noWork
        obtain ⟨⟨⟨active, waiting⟩, _⟩, noMore⟩ := noWork
        have finished := kept.finished staged before (OrderedDict.isEmpty_iff.mp waiting)
          (OrderedDict.isEmpty_iff.mp active) noMore
        refine ⟨finished.cleanUp, ?_⟩
        have same := congrArg Schedule.issuedCount (cleanUp_schedule final)
        exact (ExecuteStatus.returned.inj is).symm.trans same.symm
    | waiting seeding work =>
        rw [seeding] at seeded
        exact ⟨fun _ => (seeded.1 rfl).2, nofun⟩
  · rintro remaining seeding next ⟨⟨known, staged, ledger⟩, kept⟩ moves
    obtain ⟨later, seated⟩ := moves.staged plain known.filling staged.filling
    exact ⟨⟨later, seated, Ledger.moves ledger known.filling moves⟩,
      Moves.kept plain moves known.filling staged.filling ledger kept.filling⟩

namespace Tallied

variable {state next : PhaseState}

/-- Nothing happens to the schedule. -/
theorem same (tallied : Tallied config state) (schedule : next.schedule = state.schedule)
    (strategyIssuer : next.strategyIssuer = state.strategyIssuer)
    (execute : next.execute = state.execute) : Tallied config next where
  before := by
    rw [schedule, strategyIssuer]
    exact tallied.before
  kept := by
    rw [schedule, execute]
    exact tallied.kept
  returned := by
    rw [schedule, execute]
    exact tallied.returned

/-- A result or a chunk that the strategy does not wait for. -/
theorem noticed (tallied : Tallied config state) {world : World} {response : Response}
    (notice : Notice state.world response world) (ledger : Ledger none state.world)
    (measured : state.world.phaseType ≠ .warmup) :
    Tallied config { state with world := world } := by
  obtain ⟨news, same, noticed⟩ := notice.schedule ledger measured
  have drawn : news = [] ∨ ∃ result, result.id ∈ state.schedule.launched ∧
      result.id < state.schedule.nextUuid ∧ state.schedule.waiting result.id = none ∧
      (news = [.received result] ∨
        (news = [.received result, .collected result] ∧
          ∀ other, .collected other ∈ state.schedule.events → other.id ≠ result.id)) := by
    refine noticed.imp_right ?_
    rintro ⟨result, sent, -, notWaiting, recorded⟩
    exact ⟨result, sent, ledger.sentDrawn _ sent, notWaiting, recorded⟩
  have schedule : ({ state with world := world } : PhaseState).schedule =
      { state.schedule with events := state.schedule.events ++ news } := same
  constructor
  · intro elsewhere
    rw [schedule]
    refine (tallied.before elsewhere).noticed rfl ?_
    refine drawn.imp_right ?_
    rintro ⟨result, sent, below, _, recorded⟩
    exact ⟨result, sent, below, rfl, recorded⟩
  · intro waits
    rw [schedule]
    have kept := tallied.kept waits
    refine ⟨kept.budget, fun unhindered => ?_⟩
    have both := kept.accounts unhindered.shrink
    exact ⟨both.1, both.2.noticed rfl drawn⟩
  · intro issued returned unhindered
    rw [schedule] at unhindered ⊢
    obtain ⟨finished, count⟩ := tallied.returned issued returned unhindered.shrink
    obtain ⟨settled, exhausted⟩ := finished
    exact ⟨⟨⟨settled.accounts.noticed rfl drawn, settled.inactive, settled.quiet, rfl, rfl⟩,
      exhausted⟩, count⟩

theorem step {label : PhaseLabel} (tallied : Tallied config state) (plain : config.PlainIds)
    (settling : Settling config state) (booked : Booked state)
    (draining : Draining config state)
    (edge : state.step config label = some next) : Tallied config next := by
  have measured : state.world.phaseType ≠ .warmup := by
    rw [booked.phaseType]
    exact state.phase.agenticMeasured settling.agentic
  cases label with
  | execute =>
      simp only [PhaseState.step] at edge
      split at edge
      · rename_i enabled
        rw [if_pos settling.agentic] at edge
        obtain rfl := Option.some.inj edge
        have elsewhere := settling.unstarted enabled.2
        have executed := executeStart_tallied plain booked.known booked.ledger
          (booked.inert elsewhere) (settling.empty elsewhere) (tallied.before elsewhere)
        exact ⟨fun current => absurd rfl current, executed.1, executed.2⟩
      · simp at edge
  | issueSample | strategyReturns | strategyRaises =>
      simp only [PhaseState.step] at edge
      split at edge
      · rename_i enabled
        simp [settling.agentic] at enabled
      · simp at edge
  | issueLeftover past sampleIndex =>
      obtain ⟨issuer, _, rfl⟩ := Option.map_eq_some_iff.mp edge
      obtain ⟨nextUuid, launched, drawn, more, later, same⟩ :=
        leftover_schedule state past sampleIndex issuer
      constructor
      · intro elsewhere
        rw [same]
        exact (tallied.before elsewhere).drew drawn more later
      · intro waits
        rw [same]
        exact (tallied.kept waits).drew drawn more later
      · intro issued returned unhindered
        rw [same] at unhindered ⊢
        obtain ⟨⟨settled, exhausted⟩, count⟩ := tallied.returned issued returned
          ⟨unhindered.continues, unhindered.unrefused⟩
        exact ⟨⟨⟨settled.accounts.drew drawn more later, settled.inactive, settled.quiet,
          rfl, rfl⟩, exhausted⟩, count⟩
  | resume =>
      simp only [PhaseState.step] at edge
      split at edge
      · rename_i enabled
        obtain rfl := Option.some.inj edge
        have current := settling.waits enabled.2.1
        refine ⟨fun elsewhere => absurd current elsewhere, fun waits => ?_, ?_⟩
        · simp only [executeResume] at waits
          split at waits <;> simp at waits
        · intro issued returned unhindered
          simp only [executeResume] at returned unhindered ⊢
          cases error : state.world.strategy.error with
          | true => simp [error] at returned
          | false =>
              simp only [error, Bool.false_eq_true, if_false] at returned unhindered ⊢
              have kept := tallied.kept enabled.2.1
              have before : Schedule.Unhindered config state.schedule := by
                have same := cleanUp_schedule state.world
                rw [PhaseState.schedule, same] at unhindered
                exact ⟨unhindered.continues, unhindered.unrefused⟩
              have issuing : state.world.strategy.stopping = false :=
                (kept.accounts before).1
              rcases draining.completion enabled.2.1 current enabled.2.2.2 with
                failed | stopping | exhausted
              · simp [error] at failed
              · simp [issuing] at stopping
              · have finished := kept.finished (settling.staged current) before
                  exhausted.waiting exhausted.active exhausted.started
                refine ⟨finished.cleanUp, ?_⟩
                have same := congrArg Schedule.issuedCount (cleanUp_schedule state.world)
                exact (ExecuteStatus.returned.inj returned).symm.trans same.symm
      · simp at edge
  | cancel =>
      simp only [PhaseState.step] at edge
      split at edge
      · obtain rfl := Option.some.inj edge
        refine ⟨fun elsewhere => ?_, by simp, by simp⟩
        have before := tallied.before elsewhere
        dsimp only at elsewhere ⊢
        split
        · have same := congrArg Schedule.reset (cleanUp_schedule state.world)
          rw [PhaseState.schedule, same]
          exact before
        · exact before
      · simp at edge
  | awaitStrategy =>
      simp only [PhaseState.step] at edge
      split at edge
      · have executes : state.afterStrategy.execute = state.execute ∧
            state.afterStrategy.strategyIssuer = state.strategyIssuer := by
          unfold PhaseState.afterStrategy PhaseState.startDrain PhaseState.finish
          split <;> (try split) <;> exact ⟨rfl, rfl⟩
        have after : Tallied config state.afterStrategy :=
          tallied.same (afterStrategy_schedule state) executes.2 executes.1
        split at edge
        · obtain rfl := Option.some.inj edge
          exact after
        · obtain rfl := Option.some.inj edge
          exact after
        · obtain rfl := Option.some.inj edge
          exact tallied.same rfl rfl rfl
        · simp at edge
      · simp at edge
  | drained =>
      simp only [PhaseState.step] at edge
      split at edge
      · obtain rfl := Option.some.inj edge
        exact tallied.same (finish_schedule state) rfl rfl
      · simp at edge
  | drainTimeout =>
      simp only [PhaseState.step] at edge
      split at edge
      · obtain rfl := Option.some.inj edge
        exact tallied.same (finish_schedule state.stop) rfl rfl
      · simp at edge
  | deliver response =>
      simp only [PhaseState.step] at edge
      split at edge
      · rename_i deliverable
        obtain rfl := Option.some.inj edge
        rcases receive_cases config booked.ledger.inflightDrawn deliverable
          with ⟨queryId, conversationId, waiting, moves⟩ | notice
        · have waits : state.execute = .waiting := by
            by_contra elsewhere
            simp [(settling.inert elsewhere).1 queryId] at waiting
          have current := settling.waits waits
          refine ⟨fun elsewhere => absurd current elsewhere, fun _ => ?_, fun issued is => ?_⟩
          · exact Moves.kept plain moves booked.known (settling.staged current) booked.ledger
              (tallied.kept waits)
          · have returned : state.execute = .returned issued := is
            simp [waits] at returned
        · exact tallied.noticed notice booked.ledger measured
      · simp at edge
  | fire handle =>
      simp only [PhaseState.step, PhaseState.fireTimer] at edge
      split at edge
      · simp at edge
      · rename_i current
        obtain ⟨world, fires, rfl⟩ := Option.map_eq_some_iff.mp edge
        have waits : state.execute = .waiting := by
          by_contra elsewhere
          simp [World.fireTimer, (settling.inert elsewhere).2 handle] at fires
        refine ⟨fun elsewhere => absurd current elsewhere, fun _ => ?_, fun issued is => ?_⟩
        · exact Moves.kept plain (fireTimer_moves booked.ledger.inflightDrawn fires)
            booked.known (settling.staged current) booked.ledger (tallied.kept waits)
        · have returned : state.execute = .returned issued := is
          simp [waits] at returned
      · rename_i issuer former
        have noTimer := (booked.inert (by simp [former])).2 handle
        simp [World.fireTimer, noTimer] at edge
  | stopCurrentPhase =>
      obtain rfl := Option.some.inj edge
      refine tallied.same ?_ ?_ ?_ <;> split <;> rfl
  | stop | tick =>
      obtain rfl := Option.some.inj edge
      exact tallied.same rfl rfl rfl

end Tallied

theorem PhaseStart.tallied {start : PhaseStart} (agentic : start.phase.agentic = true) :
    Tallied config start.state := by
  refine ⟨fun elsewhere => ?_, nofun, nofun⟩
  have empty : ∀ conversationId, start.state.world.manager.get? conversationId = none :=
    (show Settling config start.state from PhaseStart.settling agentic).empty elsewhere
  have silent : start.state.world.turnEvents = [] := by
    unfold turnEvents PhaseStart.state PhaseState.enter PhaseState.startWorld
    split <;>
      simp [PhaseState.publishSessionEvent, PhaseState.freshWorld, publish, flush, observe,
        Observation.turnEvent?]
  have unissued : start.state.world.issuer.issuedCount = 0 := by
    unfold PhaseStart.state PhaseState.enter PhaseState.startWorld
    split <;> rfl
  have events : start.state.schedule.reset.events = [] := silent
  have uncollected : start.state.schedule.reset.uncollected = none := rfl
  have idle : start.state.schedule.reset.control = .idle := rfl
  have unwaited : ∀ queryId, start.state.schedule.reset.waiting queryId = none := fun _ => rfl
  constructor
  case eventsDrawn =>
    rw [events]
    exact List.forall_mem_nil _
  case waitingDrawn =>
    intro queryId conversationId waits
    rw [unwaited] at waits
    cases waits
  case waitingLaunched =>
    intro queryId conversationId waits
    rw [unwaited] at waits
    cases waits
  case tallies => exact fun number below => absurd below (Nat.not_lt_zero number)
  case known =>
    intro conversationId known
    have found : (start.state.world.manager.get? conversationId).isSome := known
    simp [empty] at found
  case dropped =>
    intro conversationId remaining aborting
    rw [idle] at aborting
    cases aborting
  case announced =>
    rw [events]
    exact fun _ _ _ member => absurd member List.not_mem_nil
  case kinds =>
    rw [events]
    exact fun _ member => absurd member List.not_mem_nil
  case received =>
    intro result held
    rw [uncollected] at held
    cases held
  case issued => exact unissued

theorem PhaseReachable.tallied {start : PhaseStart} {state : PhaseState}
    (plain : config.PlainIds) (agentic : start.phase.agentic = true)
    (reachable : PhaseReachable config start state) : Tallied config state := by
  have all : (Settling config state ∧ Booked state ∧ Draining config state) ∧
      Tallied config state := by
    refine reachable.invariant (fun state =>
      (Settling config state ∧ Booked state ∧ Draining config state) ∧
        Tallied config state) ?_
        ⟨⟨PhaseStart.settling agentic, start.booked, ⟨nofun, nofun, nofun, nofun, nofun⟩⟩,
          PhaseStart.tallied agentic⟩
    rintro before label after ⟨⟨settling, booked, draining⟩, tallied⟩ edge
    exact ⟨⟨settling.step plain booked edge, booked.step edge, draining.step booked edge⟩,
      tallied.step plain settling booked draining edge⟩
  exact all.2

/-! ## Every turn is accounted for -/

/-- What the collector recorded for the turns of a trajectory, by turn number. -/
def World.turnOutcomes (world : World) (conversationId : String) : List Nat :=
  outcomes conversationId world.turnEvents

/-- Nothing was refused in this phase. -/
def World.Unrefused (world : World) : Prop :=
  ∀ conversationId turn, .refused conversationId turn ∉ world.timeline

theorem World.Unrefused.unhindered {world : World} (unrefused : world.Unrefused)
    (continues : config.stopIssuingOnFirstUserComplete = false) :
    Schedule.Unhindered config (Moment.schedule ⟨.idle, none, world⟩) := by
  refine ⟨continues, fun conversationId turn member => ?_⟩
  obtain ⟨observation, there, event⟩ := List.mem_filterMap.mp member
  cases observation with
  | published record =>
      simp only [Observation.turnEvent?] at event
      split at event
      · split at event <;> simp at event
      · simp at event
  | sent query issuedFor number => cases number <;> simp [Observation.turnEvent?] at event
  | received | collected | flushed => simp [Observation.turnEvent?] at event
  | refused other number => exact unrefused other number there

theorem World.unrefused_of_all {world : World}
    (all : world.timeline.all (fun
      | .refused _ _ => false
      | _ => true) = true) : world.Unrefused := by
  intro conversationId turn member
  have passes := List.all_eq_true.mp all _ member
  simp at passes

theorem mem_timeline_of_received {world : World} {result : QueryResult}
    (member : .received result ∈ world.turnEvents) : .received result ∈ world.timeline := by
  obtain ⟨observation, there, event⟩ := List.mem_filterMap.mp member
  cases observation with
  | received other =>
      obtain rfl : other = result := by simpa [Observation.turnEvent?] using event
      exact there
  | published record =>
      simp only [Observation.turnEvent?] at event
      split at event
      · split at event <;> simp at event
      · simp at event
  | sent query issuedFor number => cases number <;> simp [Observation.turnEvent?] at event
  | refused other number => cases number <;> simp [Observation.turnEvent?] at event
  | collected | flushed => simp [Observation.turnEvent?] at event

/-- When an agentic strategy returns and nothing was refused, every client turn of every
started trajectory has one outcome, the conversation manager has counted all of them, and
so has the issuer. -/
theorem every_turn_accounted {start : PhaseStart} {state : PhaseState} {issued : Nat}
    (plain : config.PlainIds) (agentic : start.phase.agentic = true)
    (continues : config.stopIssuingOnFirstUserComplete = false)
    (reachable : PhaseReachable config start state)
    (returned : state.execute = .returned issued) (unrefused : state.world.Unrefused) :
    (issued = state.world.issuer.issuedCount ∧
      issued = ∑ number ∈ Finset.range state.world.strategy.startedTrajectoryCount,
        (config.instanceAt? number).elim 0 (·.turns.length)) ∧
    (∀ number < state.world.strategy.startedTrajectoryCount, ∃ started counters,
      config.instanceAt? number = some started ∧
        state.world.manager.getState started.logicalId = some counters ∧
        counters.completedTurns = started.turns.length ∧
        counters.expectedClientTurns = some started.turns.length ∧
        (state.world.turnOutcomes started.logicalId).Perm
          (started.turns.map ConversationTurn.turn)) ∧
    (∀ conversationId, (state.world.manager.getState conversationId).isSome →
      ∃ number < state.world.strategy.startedTrajectoryCount, ∃ started,
        config.instanceAt? number = some started ∧ started.logicalId = conversationId) ∧
    ∀ result, .collected result ∈ state.world.timeline →
      .received result ∈ state.world.timeline ∨
        (∃ message, result = syntheticResult result.id "TurnTimeout" message) ∨
        ∃ message, result = syntheticResult result.id "TurnAbortedByPriorFailure" message := by
  obtain ⟨⟨settled, _⟩, count⟩ := (reachable.tallied plain agentic).returned issued returned
    (unrefused.unhindered continues)
  refine ⟨⟨count, count.trans settled.issuedCount⟩, fun number below => ?_, ?_, ?_⟩
  · obtain ⟨started, counters, is, found, complete, expected, outcomes⟩ :=
      settled.instance_ below
    exact ⟨started, counters, is, found, complete, expected, outcomes⟩
  · intro conversationId known
    obtain ⟨counters, found⟩ := Option.isSome_iff_exists.mp known
    obtain ⟨number, below, started, is, same, _⟩ := settled.accounts.tally found
    exact ⟨number, below, started, is, same⟩
  · intro result collected
    have event : .collected result ∈ state.world.turnEvents :=
      List.mem_filterMap.mpr ⟨_, collected, rfl⟩
    exact (settled.accounts.kinds result event).imp_left mem_timeline_of_received

/-- The timeout of the only turn is its outcome. -/
theorem every_turn_accounted_timedOut :
    ∃ state, PhaseReachable OneTurn.config OneTurn.start state ∧
      state.execute = .returned 1 ∧ (state.world.turnOutcomes "conv").Perm [1] := by
  have runs : GuardedRuns.run (PhaseState.step OneTurn.config) OneTurn.start.state
      [.execute, .fire 0, .resume] = some _ := (Option.some_get (by decide)).symm
  have accounted := every_turn_accounted (by decide) rfl rfl ⟨_, runs⟩
    (show _ = ExecuteStatus.returned 1 by decide) (World.unrefused_of_all (by decide))
  obtain ⟨started, counters, is, _, _, _, outcomes⟩ := accounted.2.1 0 (by decide)
  obtain rfl := Option.some.inj (is.symm.trans (show OneTurn.config.instanceAt? 0 =
    some ⟨"conv", "conv", [⟨0, 1⟩], 1⟩ by decide))
  exact ⟨_, ⟨_, runs⟩, by decide, outcomes⟩

end InferenceEndpoint
