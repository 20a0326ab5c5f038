import InferenceEndpoint.LoadGenerator.Stages
import InferenceEndpoint.LoadGenerator.InflightAccounting

/-!
# The end of an agentic strategy

Every timer of the strategy is entered in one of its two handle tables, so the
clean-up at the end of `execute` cancels all of them and forgets all queries.
What arrives later is only announced, and nothing is issued any more.
-/

namespace InferenceEndpoint

variable {config : AgenticConfig}

open World

/-! ## Cleaning up -/

theorem Staged.idle {control : Control} {world : World}
    (staged : Staged config control world) : Staged config .idle world :=
  staged.same rfl rfl ⟨rfl, fun _ _ _ _ => rfl⟩ ⟨rfl, rfl, rfl⟩ rfl rfl (fun _ => rfl)
    (Nat.le_refl _) (by simp [Token.At]) nofun nofun

theorem Staged.filling {control : Control} {world : World}
    (staged : Staged config control world) : Staged config .filling world :=
  staged.same rfl rfl ⟨rfl, fun _ _ _ _ => rfl⟩ ⟨rfl, rfl, rfl⟩ rfl rfl (fun _ => rfl)
    (Nat.le_refl _) (by simp [Token.At]) nofun nofun

theorem Moves.staged {first second : Moment} (plain : config.PlainIds)
    (moves : Moves config first second) (known : Known first.control first.world)
    (staged : Staged config first.control first.world) :
    Known second.control second.world ∧ Staged config second.control second.world :=
  moves.invariant
    (fun moment => Known moment.control moment.world ∧
      Staged config moment.control moment.world)
    (fun _ _ both move => ⟨move.known both.1, move.staged plain both.1 both.2⟩)
    ⟨known, staged⟩

theorem cleanUp_timers (world : World) (handle : TimerHandle) :
    world.cleanUp.timers.get? handle =
      if handle ∈ world.strategy.timeoutHandles.values ∨
        handle ∈ world.strategy.delayHandles.values then none
      else world.timers.get? handle := by
  unfold cleanUp
  dsimp only
  rw [cancelTimers_eq, cancelTimers_eq]
  dsimp only
  rw [OrderedDict.get?_foldl_erase, OrderedDict.get?_foldl_erase]
  by_cases delay : handle ∈ world.strategy.delayHandles.values
  · simp [delay]
  · by_cases timeout : handle ∈ world.strategy.timeoutHandles.values
    · simp [timeout]
    · simp [delay, timeout]

/-- The clean-up leaves no timer and no query. -/
theorem Staged.inert_cleanUp {control : Control} {world : World}
    (staged : Staged config control world) : world.cleanUp.Inert := by
  refine ⟨fun _ => rfl, fun handle => ?_⟩
  rw [cleanUp_timers]
  split
  · rfl
  · rename_i unregistered
    cases scheduled : world.timers.get? handle with
    | none => rfl
    | some callback =>
        refine absurd ?_ unregistered
        cases callback with
        | handleTimeout queryId conversationId =>
            have registered := (staged.timeouts handle queryId conversationId scheduled).1
            exact Or.inl (OrderedDict.mem_values_iff.mpr ⟨queryId, registered⟩)
        | issueTurnNowSafely conversationId turn =>
            have registered := staged.delayed handle conversationId turn scheduled
            exact Or.inr (OrderedDict.mem_values_iff.mpr ⟨conversationId, registered⟩)

theorem Staged.cleanUp {control : Control} {world : World}
    (staged : Staged config control world) : Staged config .idle world.cleanUp := by
  have inert := staged.inert_cleanUp
  have fields : world.cleanUp.strategy = { world.strategy with
      timeoutHandles := ∅, delayHandles := ∅, inflight := ∅ } := by
    unfold World.cleanUp
    dsimp only
    rw [cancelTimers_eq, cancelTimers_eq]
  have manager : world.cleanUp.manager = world.manager := (forgets_cleanUp world).manager
  have unheld : ∀ conversationId token,
      ¬ Token.At .idle world.cleanUp conversationId token := by
    intro conversationId token here
    cases token with
    | query one =>
        have found : world.cleanUp.strategy.inflight.get? one = some conversationId := here
        simp [inert.1 one] at found
    | timer handle =>
        obtain ⟨turn, found⟩ := here
        simp [inert.2 handle] at found
    | control => simp [Token.At] at here
  refine ⟨?_, ?_, ?_, ?_, ?_, ?_, (by simp), ?_, ?_⟩
  · rw [fields]
    exact staged.drawn
  · rw [fields, manager]
    exact staged.entered
  · exact fun conversationId one _ oneAt _ => absurd oneAt (unheld conversationId one)
  · exact fun conversationId token here => absurd here (unheld conversationId token)
  · rintro conversationId turn (⟨handle, found⟩ | equal)
    · simp [inert.2 handle] at found
    · simp at equal
  · rw [fields]
    exact staged.stopped
  · intro handle queryId conversationId found
    simp [inert.2 handle] at found
  · intro handle conversationId turn found
    simp [inert.2 handle] at found

/-- A strategy that has just been reset has no instance. -/
theorem staged_resetStrategy (config : AgenticConfig) {world : World} (inert : world.Inert)
    (empty : ∀ conversationId, world.manager.get? conversationId = none) :
    Staged config .idle (world.resetStrategy config) := by
  have unheld : ∀ conversationId token,
      ¬ Token.At .idle (world.resetStrategy config) conversationId token := by
    intro conversationId token here
    cases token with
    | query one => simp [Token.At, resetStrategy] at here
    | timer handle =>
        obtain ⟨turn, found⟩ := here
        have scheduled : world.timers.get? handle = _ := found
        simp [inert.2 handle] at scheduled
    | control => simp [Token.At] at here
  have noTimer : ∀ handle, (world.resetStrategy config).timers.get? handle = none := inert.2
  refine ⟨⟨rfl, ?_⟩, ?_, ?_, ?_, ?_, (by simp [resetStrategy]), (by simp), ?_, ?_⟩
  · intro order ordered
    have made : makeConversationOrder config config.metadata.baseConvs.length = some order :=
      ordered
    unfold makeConversationOrder at made
    split at made
    · simp at made
    · change order = SampleOrder.afterDraws config.rngSampleIndex
        config.metadata.baseConvs.length 0
      cases rng : config.rngSampleIndex with
      | none => simpa [rng, SampleOrder.afterDraws] using made.symm
      | some shuffler => simpa [rng, SampleOrder.afterDraws] using made.symm
  · intro conversationId known
    have there : (world.manager.get? conversationId).isSome := known
    simp [empty conversationId] at there
  · exact fun conversationId one _ oneAt _ => absurd oneAt (unheld conversationId one)
  · exact fun conversationId token here => absurd here (unheld conversationId token)
  · rintro conversationId turn (⟨handle, found⟩ | equal)
    · simp [noTimer handle] at found
    · simp at equal
  · intro handle queryId conversationId found
    simp [noTimer handle] at found
  · intro handle conversationId turn found
    simp [noTimer handle] at found

/-- The first step of `execute` either waits or leaves nothing behind. -/
theorem executeStart_staged (plain : config.PlainIds) {world : World} (inert : world.Inert)
    (empty : ∀ conversationId, world.manager.get? conversationId = none)
    (known : Known .idle world) :
    Staged config .idle (world.executeStart config).2 ∧
      ((world.executeStart config).1 ≠ .waiting → (world.executeStart config).2.Inert) := by
  have reset := forgets_resetStrategy config world
  have start := staged_resetStrategy config inert empty
  have seeded := seed_rule config
    (fun _ world => Known .idle world ∧ Staged config .idle world)
    (fun world => Staged config .idle world)
    (fun _ _ holds _ => holds)
    (fun _ _ _ holds moves => by
      have after := moves.staged plain holds.1.filling holds.2.filling
      exact ⟨after.1, after.2⟩)
    (fun _ _ _ _ holds moves => (moves.staged plain holds.1.filling holds.2.filling).2.idle)
    ((world.resetStrategy config).initialConversationsToStart config)
    (world.resetStrategy config) ⟨reset.known known, start⟩
  generalize result : world.executeStart config = executed
  have cases := executeStart_cases config world
  rw [result] at cases
  cases cases with
  | invalid => exact ⟨start, fun _ => reset.inert inert⟩
  | raised seeding =>
      rw [seeding] at seeded
      have raised := seeded.2 rfl
      exact ⟨raised.cleanUp, fun _ => raised.inert_cleanUp⟩
  | returned seeding =>
      rw [seeding] at seeded
      have done := (seeded.1 rfl).2
      exact ⟨done.cleanUp, fun _ => done.inert_cleanUp⟩
  | waiting seeding =>
      rw [seeding] at seeded
      exact ⟨(seeded.1 rfl).2, fun notWaiting => absurd rfl notWaiting⟩

/-! ## An agentic phase -/

/-- While `execute` does not wait, the strategy has no timer and no query. -/
structure Settling (config : AgenticConfig) (state : PhaseState) : Prop where
  agentic : state.phase.agentic = true
  staged : state.strategyIssuer = .current → Staged config .idle state.world
  empty : state.strategyIssuer ≠ .current →
    ∀ conversationId, state.world.manager.get? conversationId = none
  unstarted : state.execute = .notStarted → state.strategyIssuer ≠ .current
  waits : state.execute = .waiting → state.strategyIssuer = .current
  inert : state.execute ≠ .waiting → state.world.Inert

namespace Settling

variable {state next : PhaseState}

theorem leftover_nextUuid (state : PhaseState) (past sampleIndex : Nat)
    (issuer : PhaseIssuer) :
    state.world.nextUuid ≤ (state.issueLeftover past issuer sampleIndex).world.nextUuid := by
  rcases issue_books state.world.issuer.issuedCount
      { state.world with issuer := issuer } sampleIndex none "" none with
    same | draws | ⟨_, issues⟩
  · exact Nat.le_of_eq same.nextUuid.symm
  · exact Nat.le_of_lt (Nat.lt_of_lt_of_eq (Nat.lt_succ_self _) draws.nextUuid.symm)
  · exact Nat.le_of_lt (Nat.lt_of_lt_of_eq (Nat.lt_succ_self _) issues.nextUuid.symm)

/-- The strategy is not involved in the step. -/
theorem untouched (settling : Settling config state)
    (phase : next.phase = state.phase) (strategyIssuer : next.strategyIssuer = state.strategyIssuer)
    (execute : next.execute = state.execute) (manager : next.world.manager = state.world.manager)
    (strategy : next.world.strategy = state.world.strategy)
    (timers : next.world.timers = state.world.timers)
    (nextUuid : state.world.nextUuid ≤ next.world.nextUuid) : Settling config next where
  agentic := phase ▸ settling.agentic
  staged current := by
    refine (settling.staged (strategyIssuer ▸ current)).same ?_ ?_ ⟨?_, fun _ _ _ _ => ?_⟩
      ⟨?_, ?_, ?_⟩ ?_ timers (fun _ => by rw [manager]) nextUuid (fun _ => id) nofun nofun
    all_goals rw [strategy]
  empty elsewhere := by
    rw [manager]
    exact settling.empty (strategyIssuer ▸ elsewhere)
  unstarted notStarted := strategyIssuer ▸ settling.unstarted (execute ▸ notStarted)
  waits waiting := strategyIssuer.trans (settling.waits (execute ▸ waiting))
  inert notWaiting := by
    rw [Inert, strategy, timers]
    exact settling.inert (execute ▸ notWaiting)

/-- A callback of the strategy, which waits. -/
theorem moved (settling : Settling config state) (plain : config.PlainIds)
    (booked : Booked state) (current : state.strategyIssuer = .current)
    (waiting : state.execute = .waiting) {world : World}
    (moves : Moves config ⟨.idle, none, state.world⟩ ⟨.idle, none, world⟩) :
    Settling config { state with world := world } where
  agentic := settling.agentic
  staged _ := (moves.staged plain booked.known (settling.staged current)).2
  empty elsewhere := absurd current elsewhere
  unstarted notStarted := by simp [waiting] at notStarted
  waits _ := current
  inert notWaiting := absurd waiting notWaiting

/-- A step that leaves the status of `execute` alone. -/
theorem change {label : PhaseLabel} (settling : Settling config state) (plain : config.PlainIds)
    (booked : Booked state) (change : PhaseState.Change config state next label)
    (execute : next.execute = state.execute) (notExecute : label ≠ .execute) :
    Settling config next := by
  cases change with
  | quiet phase strategyIssuer manager strategy timers phaseType halted effect =>
      exact settling.untouched phase strategyIssuer execute manager strategy timers
        effect.nextUuid_le
  | cleaned phase strategyIssuer world =>
      have forgets := forgets_cleanUp state.world
      rw [← world] at forgets
      exact
        { agentic := phase ▸ settling.agentic
          staged := fun current => by
            rw [world]
            exact (settling.staged (strategyIssuer ▸ current)).cleanUp
          empty := by
            rw [strategyIssuer, forgets.manager]
            exact settling.empty
          unstarted := by
            rw [execute, strategyIssuer]
            exact settling.unstarted
          waits := by
            rw [execute, strategyIssuer]
            exact settling.waits
          inert := by
            rw [execute]
            exact fun notWaiting => forgets.inert (settling.inert notWaiting) }
  | executed => exact absurd rfl notExecute
  | @leftover past sampleIndex issuer equal =>
      subst equal
      have untouched := issue_untouched state.world.issuer.issuedCount
        { state.world with issuer := issuer } sampleIndex none "" none
      exact settling.untouched rfl rfl rfl untouched.1 untouched.2.1 untouched.2.2.1
        (leftover_nextUuid state past sampleIndex issuer)
  | @delivered response deliverable equal =>
      subst equal
      rcases receive_cases config booked.ledger.inflightDrawn deliverable
        with ⟨queryId, conversationId, found, moves⟩ | notice
      · have waiting : state.execute = .waiting := by
          by_contra notWaiting
          simp [(settling.inert notWaiting).1 queryId] at found
        have current : state.strategyIssuer = .current := by
          by_contra elsewhere
          simp [(booked.inert elsewhere).1 queryId] at found
        exact settling.moved plain booked current waiting moves
      · obtain ⟨manager, strategy, timers⟩ := notice.conversations
        exact settling.untouched rfl rfl rfl manager strategy timers
          (Nat.le_of_eq notice.issuer.2.2.symm)
  | @fired handle world current fires equal =>
      subst equal
      have waiting : state.execute = .waiting := by
        by_contra notWaiting
        have noTimer := (settling.inert notWaiting).2 handle
        simp [World.fireTimer, noTimer] at fires
      exact settling.moved plain booked current waiting
        (fireTimer_moves booked.ledger.inflightDrawn fires)
  | @firedFormer handle issuer world former fires equal =>
      have noTimer := (booked.inert (by simp [former])).2 handle
      simp [World.fireTimer, noTimer] at fires

/-- The end of `execute` cleans up. -/
theorem cleaned {execute : ExecuteStatus} (settling : Settling config state)
    (current : state.strategyIssuer = .current) (ended : execute ≠ .notStarted) :
    Settling config { state with execute := execute, world := state.world.cleanUp } where
  agentic := settling.agentic
  staged _ := (settling.staged current).cleanUp
  empty elsewhere := absurd current elsewhere
  unstarted notStarted := absurd notStarted ended
  waits _ := current
  inert _ := (settling.staged current).inert_cleanUp

theorem step {label : PhaseLabel} (settling : Settling config state) (plain : config.PlainIds)
    (booked : Booked state) (edge : state.step config label = some next) :
    Settling config next := by
  have change := PhaseState.step_change edge
  cases label with
  | execute =>
      simp only [PhaseState.step] at edge
      split at edge
      · rename_i enabled
        split at edge
        · obtain rfl := Option.some.inj edge
          have elsewhere := settling.unstarted enabled.2
          have executed := executeStart_staged plain (booked.inert elsewhere)
            (settling.empty elsewhere) booked.known
          have started : (state.world.executeStart config).1 ≠ .notStarted := by
            generalize result : state.world.executeStart config = executed
            have cases := executeStart_cases config state.world
            rw [result] at cases
            cases cases <;> simp
          exact
            { agentic := settling.agentic
              staged := fun _ => executed.1
              empty := fun elsewhere => absurd rfl elsewhere
              unstarted := fun notStarted => absurd notStarted started
              waits := fun _ => rfl
              inert := executed.2 }
        · rename_i notAgentic
          exact absurd settling.agentic notAgentic
      · simp at edge
  | resume =>
      simp only [PhaseState.step] at edge
      split at edge
      · rename_i enabled
        obtain rfl := Option.some.inj edge
        have current := settling.waits enabled.2.1
        unfold executeResume
        split
        · exact settling.cleaned current (by simp)
        · exact settling.cleaned current (by simp)
      · simp at edge
  | cancel =>
      simp only [PhaseState.step] at edge
      split at edge
      · obtain rfl := Option.some.inj edge
        by_cases waiting : state.execute = .waiting
        · rw [if_pos ⟨waiting, settling.agentic⟩]
          exact settling.cleaned (settling.waits waiting) (by simp)
        · rw [if_neg (fun both => waiting both.1)]
          exact
            { agentic := settling.agentic
              staged := settling.staged
              empty := settling.empty
              unstarted := by simp
              waits := by simp
              inert := fun _ => settling.inert waiting }
      · simp at edge
  | issueSample | strategyReturns | strategyRaises =>
      simp only [PhaseState.step] at edge
      split at edge
      · rename_i enabled
        simp [settling.agentic] at enabled
      · simp at edge
  | awaitStrategy =>
      refine settling.change plain booked change ?_ (by simp)
      simp only [PhaseState.step] at edge
      split at edge
      · split at edge
        · obtain rfl := Option.some.inj edge
          unfold PhaseState.afterStrategy PhaseState.startDrain PhaseState.finish
          split <;> (try split) <;> rfl
        · obtain rfl := Option.some.inj edge
          unfold PhaseState.afterStrategy PhaseState.startDrain PhaseState.finish
          split <;> (try split) <;> rfl
        · obtain rfl := Option.some.inj edge
          rfl
        · simp at edge
      · simp at edge
  | drained | drainTimeout | deliver =>
      refine settling.change plain booked change ?_ (by simp)
      simp only [PhaseState.step] at edge
      split at edge
      · obtain rfl := Option.some.inj edge
        rfl
      · simp at edge
  | issueLeftover =>
      refine settling.change plain booked change ?_ (by simp)
      obtain ⟨issuer, _, rfl⟩ := Option.map_eq_some_iff.mp edge
      rfl
  | fire handle =>
      refine settling.change plain booked change ?_ (by simp)
      simp only [PhaseState.step, PhaseState.fireTimer] at edge
      split at edge
      · simp at edge
      · obtain ⟨world, _, rfl⟩ := Option.map_eq_some_iff.mp edge
        rfl
      · obtain ⟨world, _, rfl⟩ := Option.map_eq_some_iff.mp edge
        rfl
  | stopCurrentPhase =>
      refine settling.change plain booked change ?_ (by simp)
      obtain rfl := Option.some.inj edge
      split <;> rfl
  | stop | tick =>
      refine settling.change plain booked change ?_ (by simp)
      obtain rfl := Option.some.inj edge
      rfl

end Settling

theorem PhaseStart.settling {start : PhaseStart} (agentic : start.phase.agentic = true) :
    Settling config start.state := by
  have untouched := startWorld_untouched start.phase start.world
  have manager : start.state.world.manager = start.world.manager := untouched.1
  have elsewhere : start.state.strategyIssuer ≠ .current := start.strategyIssuer_ne
  refine
    { agentic := agentic
      staged := fun current => absurd current elsewhere
      empty := fun _ conversationId => ?_
      unstarted := fun _ => elsewhere
      waits := nofun
      inert := fun _ => start.booked.inert elsewhere }
  rw [manager]
  change start.manager.get? conversationId = none
  rw [PhaseStart.manager, start.executedOnce agentic]
  rfl

/-- The phase of a state never changes. -/
theorem PhaseReachable.phase {start : PhaseStart} {state : PhaseState}
    (reachable : PhaseReachable config start state) : state.phase = start.phase := by
  refine reachable.invariant (fun state => state.phase = start.phase) ?_ rfl
  intro state label next same edge
  cases PhaseState.step_change edge with
  | quiet phase => exact phase.trans same
  | cleaned phase => exact phase.trans same
  | executed phase => exact phase.trans same
  | leftover equal => exact equal ▸ same
  | delivered _ equal => exact equal ▸ same
  | fired _ _ equal => exact equal ▸ same
  | firedFormer _ _ equal => exact equal ▸ same

theorem PhaseReachable.settling {start : PhaseStart} {state : PhaseState}
    (plain : config.PlainIds) (agentic : start.phase.agentic = true)
    (reachable : PhaseReachable config start state) : Settling config state := by
  have both : Settling config state ∧ Booked state := by
    refine reachable.invariant (fun state => Settling config state ∧ Booked state) ?_
      ⟨PhaseStart.settling agentic, start.booked⟩
    exact fun _ _ _ both edge => ⟨both.1.step plain both.2 edge, both.2.step edge⟩
  exact both.1

/-! ## Nothing is issued afterwards -/

/-- The task of the strategy is done. -/
def PhaseState.strategyEnded (state : PhaseState) : Bool :=
  state.execute ≠ .notStarted && state.execute ≠ .waiting

theorem Notice.issuedCount {world next : World} {response : Response}
    (notice : Notice world response next) :
    next.issuer.issuedCount = world.issuer.issuedCount := by
  cases notice with
  | late | foreign | chunk => rfl
  | unmeasured => exact markInflightComplete_issuedCount _
  | untracked => exact markInflightComplete_issuedCount _

theorem finish_issuedCount (state : PhaseState) :
    state.finish.world.issuer.issuedCount = state.world.issuer.issuedCount := by
  unfold PhaseState.finish
  dsimp only
  split
  · unfold stopPerformanceTracking
    split <;> rfl
  · rfl

/-- After the end of the strategy no step issues through the issuer of the phase. -/
theorem issuedCount_step {state next : PhaseState} {label : PhaseLabel}
    (settling : Settling config state) (booked : Booked state)
    (ended : state.strategyEnded = true) (edge : state.step config label = some next) :
    next.world.issuer.issuedCount = state.world.issuer.issuedCount ∧
      next.strategyEnded = true := by
  simp only [PhaseState.strategyEnded, Bool.and_eq_true, decide_eq_true_eq] at ended
  obtain ⟨started, notWaiting⟩ := ended
  have inert := settling.inert notWaiting
  have stays : ∀ other : PhaseState, other.execute = state.execute →
      other.strategyEnded = true := by
    intro other same
    simp [PhaseState.strategyEnded, same, started, notWaiting]
  cases label with
  | execute | issueSample | strategyReturns | strategyRaises | resume | cancel =>
      simp only [PhaseState.step] at edge
      split at edge
      · rename_i enabled
        simp [settling.agentic, started, notWaiting, PhaseState.cancelPending,
          PhaseState.strategyRunning] at enabled
      · simp at edge
  | issueLeftover past sampleIndex =>
      obtain ⟨issuer, _, rfl⟩ := Option.map_eq_some_iff.mp edge
      exact ⟨rfl, stays _ rfl⟩
  | awaitStrategy =>
      simp only [PhaseState.step] at edge
      have after : state.afterStrategy.world.issuer.issuedCount =
          state.world.issuer.issuedCount ∧ state.afterStrategy.execute = state.execute := by
        unfold PhaseState.afterStrategy PhaseState.startDrain
        split
        · split
          · exact ⟨finish_issuedCount state, rfl⟩
          · exact ⟨rfl, rfl⟩
        · exact ⟨finish_issuedCount state, rfl⟩
      split at edge
      · split at edge
        · obtain rfl := Option.some.inj edge
          exact ⟨after.1, stays _ after.2⟩
        · obtain rfl := Option.some.inj edge
          exact ⟨after.1, stays _ after.2⟩
        · obtain rfl := Option.some.inj edge
          exact ⟨rfl, stays _ rfl⟩
        · simp at edge
      · simp at edge
  | drained =>
      simp only [PhaseState.step] at edge
      split at edge
      · obtain rfl := Option.some.inj edge
        exact ⟨finish_issuedCount state, stays _ rfl⟩
      · simp at edge
  | drainTimeout =>
      simp only [PhaseState.step] at edge
      split at edge
      · obtain rfl := Option.some.inj edge
        exact ⟨finish_issuedCount state.stop, stays _ rfl⟩
      · simp at edge
  | deliver response =>
      simp only [PhaseState.step] at edge
      split at edge
      · rename_i deliverable
        obtain rfl := Option.some.inj edge
        rcases receive_cases config booked.ledger.inflightDrawn deliverable
          with ⟨queryId, conversationId, found, _⟩ | notice
        · simp [inert.1 queryId] at found
        · exact ⟨notice.issuedCount, stays _ rfl⟩
      · simp at edge
  | fire handle =>
      simp only [PhaseState.step, PhaseState.fireTimer] at edge
      have noTimer := inert.2 handle
      split at edge
      · simp at edge
      · simp [World.fireTimer, noTimer] at edge
      · simp [World.fireTimer, noTimer] at edge
  | stopCurrentPhase =>
      obtain rfl := Option.some.inj edge
      split <;> exact ⟨rfl, stays _ rfl⟩
  | stop | tick =>
      obtain rfl := Option.some.inj edge
      exact ⟨rfl, stays _ rfl⟩

/-- Whatever happens after the end of an agentic strategy, its phase has issued all
it will ever issue. -/
theorem issuedCount_final {start : PhaseStart} {state final : PhaseState}
    (plain : config.PlainIds) (agentic : start.phase.agentic = true)
    (reachable : PhaseReachable config start state) (ended : state.strategyEnded = true)
    {labels : List PhaseLabel}
    (runs : GuardedRuns.run (PhaseState.step config) state labels = some final) :
    final.world.issuer.issuedCount = state.world.issuer.issuedCount := by
  have later : (Settling config final ∧ Booked final) ∧
      final.world.issuer.issuedCount = state.world.issuer.issuedCount ∧
        final.strategyEnded = true := by
    refine GuardedRuns.Reachable.invariant (fun later =>
      (Settling config later ∧ Booked later) ∧
        later.world.issuer.issuedCount = state.world.issuer.issuedCount ∧
          later.strategyEnded = true) ?_
      ⟨⟨reachable.settling plain agentic, reachable.booked⟩, rfl, ended⟩ ⟨labels, runs⟩
    rintro before label after ⟨⟨settling, booked⟩, count, done⟩ edge
    have next := issuedCount_step settling booked done edge
    exact ⟨⟨settling.step plain booked edge, booked.step edge⟩, next.1.trans count, next.2⟩
  exact later.2.1

/-- The issuer of a strategy that ended in an earlier phase stays as it is. -/
theorem PhaseReachable.former {start : PhaseStart} {state : PhaseState}
    (reachable : PhaseReachable config start state) {former : FormerStrategy}
    (isFormer : start.former = some former) :
    state.strategyIssuer = .former former.issuer := by
  have begins : start.state.strategyIssuer = .former former.issuer := by
    change start.strategyIssuer = _
    rw [PhaseStart.strategyIssuer, isFormer]
    rfl
  have single : start.phase.agentic = false := by
    cases agentic : start.phase.agentic with
    | false => rfl
    | true => simp [start.executedOnce agentic] at isFormer
  have both : (state.strategyIssuer = .former former.issuer ∧ state.phase = start.phase) ∧
      Booked state := by
    refine reachable.invariant (fun state =>
      (state.strategyIssuer = .former former.issuer ∧ state.phase = start.phase) ∧
        Booked state) ?_ ⟨⟨begins, rfl⟩, start.booked⟩
    rintro state label next ⟨⟨same, phase⟩, booked⟩ edge
    refine ⟨?_, booked.step edge⟩
    cases PhaseState.step_change edge with
    | quiet samePhase strategyIssuer =>
        exact ⟨strategyIssuer.trans same, samePhase.trans phase⟩
    | cleaned samePhase strategyIssuer =>
        exact ⟨strategyIssuer.trans same, samePhase.trans phase⟩
    | executed samePhase agentic =>
        rw [phase, single] at agentic
        simp at agentic
    | leftover equal => exact equal ▸ ⟨same, phase⟩
    | delivered _ equal => exact equal ▸ ⟨same, phase⟩
    | fired _ _ equal => exact equal ▸ ⟨same, phase⟩
    | @firedFormer handle issuer world current fires equal =>
        have noTimer := (booked.inert (by simp [current])).2 handle
        simp [World.fireTimer, noTimer] at fires
  exact both.1.1

end InferenceEndpoint
