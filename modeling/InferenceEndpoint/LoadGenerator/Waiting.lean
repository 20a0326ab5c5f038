import InferenceEndpoint.LoadGenerator.Wakeful

/-!
# An agentic phase that waits

`execute` waits only for the completion event.  The seeding loop leaves the
strategy wakeful, and so does everything that happens to the phase afterwards.
-/

namespace InferenceEndpoint

variable {config : AgenticConfig}

open World

/-- The strategy has no handle left from an earlier use. -/
def World.Vacant (world : World) : Prop :=
  (∀ conversationId, world.strategy.delayHandles.get? conversationId = none) ∧
    ∀ queryId, world.strategy.timeoutHandles.get? queryId = none

/-! ## The first step of `execute` -/

theorem placed_resetStrategy (config : AgenticConfig) {world : World} (inert : world.Inert)
    (vacant : world.Vacant) : Placed .filling (world.resetStrategy config) := by
  have noTimer : ∀ handle, (world.resetStrategy config).timers.get? handle = none := inert.2
  have noDelay : ∀ conversationId,
      (world.resetStrategy config).strategy.delayHandles.get? conversationId = none := vacant.1
  have noTimeout : ∀ queryId,
      (world.resetStrategy config).strategy.timeoutHandles.get? queryId = none := vacant.2
  refine ⟨⟨?_, ?_, fun _ _ => rfl⟩, ?_, ?_⟩
  · intro handle callback found
    simp [noTimer handle] at found
  · intro queryId handle found
    simp [noTimeout queryId] at found
  · intro conversationId handle found
    simp [noDelay conversationId] at found
  · intro conversationId busy
    simp [resetStrategy] at busy

/-- Without an instance to start there is no work. -/
theorem hasWorkRemaining_resetStrategy {world : World} (vacant : world.Vacant)
    (none_ : (world.resetStrategy config).initialConversationsToStart config = 0) :
    (world.resetStrategy config).hasWorkRemaining config = false := by
  have noDelay : world.strategy.delayHandles.isEmpty = true :=
    OrderedDict.isEmpty_iff.mpr vacant.1
  have exhausted : (world.resetStrategy config).hasMoreConversationInstances config = false := by
    cases more : (world.resetStrategy config).hasMoreConversationInstances config with
    | false => rfl
    | true =>
        simp only [hasMoreConversationInstances, Bool.and_eq_true, Bool.not_eq_true',
          hasTrajectoryBudget, decide_eq_true_eq] at more
        obtain ⟨nonempty, budget⟩ := more
        have conversations : 0 < (world.resetStrategy config).strategy.baseConvs.length := by
          rw [List.length_pos_iff_ne_nil]
          rintro empty
          simp [empty] at nonempty
        have positive : 0 < (world.resetStrategy config).trajectoryBudget config :=
          Nat.lt_of_le_of_lt (Nat.zero_le _) budget
        simp only [initialConversationsToStart, nonempty, hasTrajectoryBudget, budget,
          decide_true, Bool.not_true, Bool.or_self, Bool.false_eq_true, if_false] at none_
        split at none_ <;> omega
  simp [hasWorkRemaining, exhausted]
  exact ⟨⟨rfl, rfl⟩, noDelay⟩

theorem Wakeful.filling {world : World} (wakeful : Wakeful .idle world) :
    Wakeful .filling world :=
  wakeful.busy (by simp) rfl (by simp) fun placed =>
    placed.same rfl (Nat.le_refl _) (Nat.le_refl _) nofun (by simp [Token.At])

/-- `execute` waits only if it will be woken. -/
theorem executeStart_wakeful (plain : config.PlainIds) {world : World} (inert : world.Inert)
    (vacant : world.Vacant)
    (empty : ∀ conversationId, world.manager.get? conversationId = none)
    (known : Known .idle world) (waits : (world.executeStart config).1 = .waiting) :
    Wakeful .idle (world.executeStart config).2 := by
  have reset := forgets_resetStrategy config world
  -- Before the first iteration nothing is expected yet, and issuing goes on.
  have seeded := seed_rule config
    (fun remaining seeding => (Known .idle seeding ∧ Staged config .idle seeding) ∧
      (seeding = world.resetStrategy config ∧
          remaining = (world.resetStrategy config).initialConversationsToStart config ∨
        Wakeful .idle seeding))
    (fun _ => True) ?_ ?_ (fun _ _ _ _ _ _ => trivial)
    ((world.resetStrategy config).initialConversationsToStart config)
    (world.resetStrategy config)
    ⟨⟨reset.known known, staged_resetStrategy config inert empty⟩, Or.inl ⟨rfl, rfl⟩⟩
  · generalize result : world.executeStart config = executed at waits ⊢
    have cases := executeStart_cases config world
    rw [result] at cases
    cases cases with
    | invalid | raised | returned => simp at waits
    | waiting seeding work =>
        rw [seeding] at seeded
        rcases (seeded.1 rfl).2 with ⟨rfl, none_⟩ | wakeful
        · rw [hasWorkRemaining_resetStrategy vacant none_.symm] at work
          simp at work
        · exact wakeful
  · rintro remaining seeding ⟨invariants, place⟩ stopping
    refine ⟨invariants, Or.inr (place.resolve_left ?_)⟩
    rintro ⟨rfl, _⟩
    simp [resetStrategy] at stopping
  · rintro remaining seeding next ⟨⟨known, staged⟩, place⟩ moves
    have later := moves.staged plain known.filling staged.filling
    refine ⟨later, Or.inr ?_⟩
    have before : Wakeful .filling seeding := by
      rcases place with ⟨rfl, _⟩ | wakeful
      · exact Or.inr (Or.inr ⟨placed_resetStrategy config inert vacant, by simp⟩)
      · exact wakeful.filling
    exact moves.wakeful plain known.filling staged.filling before

/-! ## The steps of a phase -/

theorem Wakeful.untouched {first second : World} (wakeful : Wakeful .idle first)
    (strategy : second.strategy = first.strategy) (timers : second.timers = first.timers)
    (nextTimer : first.nextTimer ≤ second.nextTimer)
    (nextUuid : first.nextUuid ≤ second.nextUuid) : Wakeful .idle second := by
  refine wakeful.step (by simp) (by rw [strategy]) fun placed expecting => ⟨?_, ?_⟩
  · refine placed.same ?_ nextTimer nextUuid (fun _ _ => id) fun _ => id
    rw [tables, tables, strategy, timers]
  · intro idle
    rw [Expecting, strategy]
    exact expecting idle

theorem Notice.nextTimer {world next : World} {response : Response}
    (notice : Notice world response next) : next.nextTimer = world.nextTimer := by
  cases notice with
  | late | foreign | chunk => rfl
  | unmeasured => exact markInflightComplete_nextTimer _
  | untracked => exact markInflightComplete_nextTimer _

theorem issue_nextTimer (currentIssued : Nat) (world : World) (sampleIndex : Nat)
    (dataOverride : Option DataOverride) (conversationId : String) (turn : Option Nat) :
    (world.issue currentIssued sampleIndex dataOverride conversationId turn).2.nextTimer =
      world.nextTimer := by
  rcases issue_cases currentIssued world sampleIndex dataOverride conversationId turn
    with ⟨_, refused⟩ | ⟨next, raised, equal⟩ | ⟨query, prompt, _, _, issued⟩
  · rw [refused]
    rfl
  · rw [equal]
    cases raised <;> rfl
  · rw [issued]
    rfl

/-- While `execute` waits, the strategy is wakeful. -/
structure Waking (state : PhaseState) : Prop where
  vacant : state.strategyIssuer ≠ .current → state.world.Vacant
  awake : state.execute = .waiting → Wakeful .idle state.world

namespace Waking

variable {state next : PhaseState}

theorem finish_wakeful (wakeful : Wakeful .idle state.world) :
    Wakeful .idle state.finish.world := by
  unfold PhaseState.finish
  dsimp only
  split
  · refine wakeful.untouched (stopPerformanceTracking_strategy _)
      (stopPerformanceTracking_timers _) ?_ ?_
    all_goals
      unfold stopPerformanceTracking
      split <;> exact Nat.le_refl _
  · exact wakeful.untouched rfl rfl (Nat.le_refl _) (Nat.le_refl _)

theorem vacant_step {label : PhaseLabel} (waking : Waking state)
    (booked : Booked state) (edge : state.step config label = some next)
    (elsewhere : next.strategyIssuer ≠ .current) : next.world.Vacant := by
  have inert : state.strategyIssuer ≠ .current → state.world.Inert := booked.inert
  cases PhaseState.step_change edge with
  | quiet _ strategyIssuer _ strategy =>
      rw [Vacant, strategy]
      exact waking.vacant (strategyIssuer ▸ elsewhere)
  | cleaned _ strategyIssuer world =>
      rw [world]
      exact ⟨fun _ => rfl, fun _ => rfl⟩
  | executed _ _ current => exact absurd current elsewhere
  | @leftover past sampleIndex issuer equal =>
      subst equal
      have untouched := issue_untouched state.world.issuer.issuedCount
        { state.world with issuer := issuer } sampleIndex none "" none
      have vacant := waking.vacant elsewhere
      have strategy : (state.issueLeftover past issuer sampleIndex).world.strategy =
          state.world.strategy := untouched.2.1
      rw [Vacant, strategy]
      exact vacant
  | @delivered response deliverable equal =>
      subst equal
      rcases receive_cases config booked.ledger.inflightDrawn deliverable
        with ⟨queryId, conversationId, found, _⟩ | notice
      · simp [(inert elsewhere).1 queryId] at found
      · have strategy := notice.conversations.2.1
        rw [Vacant, strategy]
        exact waking.vacant elsewhere
  | fired current _ equal => exact absurd (equal ▸ current) elsewhere
  | @firedFormer handle issuer world former fires equal =>
      have noTimer := (inert (by simp [former])).2 handle
      simp [World.fireTimer, noTimer] at fires

theorem awake_step {label : PhaseLabel} (waking : Waking state) (plain : config.PlainIds)
    (settling : Settling config state) (booked : Booked state)
    (edge : state.step config label = some next) (waits : next.execute = .waiting) :
    Wakeful .idle next.world := by
  cases label with
  | execute =>
      simp only [PhaseState.step] at edge
      split at edge
      · rename_i enabled
        rw [if_pos settling.agentic] at edge
        obtain rfl := Option.some.inj edge
        have elsewhere := settling.unstarted enabled.2
        exact executeStart_wakeful plain (booked.inert elsewhere) (waking.vacant elsewhere)
          (settling.empty elsewhere) booked.known waits
      · simp at edge
  | issueSample | strategyReturns | strategyRaises =>
      simp only [PhaseState.step] at edge
      split at edge
      · rename_i enabled
        simp [settling.agentic] at enabled
      · simp at edge
  | issueLeftover past sampleIndex =>
      obtain ⟨issuer, _, rfl⟩ := Option.map_eq_some_iff.mp edge
      have untouched := issue_untouched state.world.issuer.issuedCount
        { state.world with issuer := issuer } sampleIndex none "" none
      have nextTimer := issue_nextTimer state.world.issuer.issuedCount
        { state.world with issuer := issuer } sampleIndex none "" none
      exact (waking.awake waits).untouched untouched.2.1 untouched.2.2.1
        (Nat.le_of_eq nextTimer.symm)
        (Settling.leftover_nextUuid state past sampleIndex issuer)
  | resume =>
      simp only [PhaseState.step] at edge
      split at edge
      · obtain rfl := Option.some.inj edge
        simp only [executeResume] at waits
        split at waits <;> simp at waits
      · simp at edge
  | cancel =>
      simp only [PhaseState.step] at edge
      split at edge
      · obtain rfl := Option.some.inj edge
        simp at waits
      · simp at edge
  | awaitStrategy =>
      simp only [PhaseState.step] at edge
      split at edge
      · have same : state.afterStrategy.execute = state.execute := by
          unfold PhaseState.afterStrategy PhaseState.startDrain PhaseState.finish
          split <;> (try split) <;> rfl
        split at edge
        · rename_i returned
          obtain rfl := Option.some.inj edge
          simp [same, returned] at waits
        · rename_i cancelled
          obtain rfl := Option.some.inj edge
          simp [same, cancelled] at waits
        · rename_i raised
          obtain rfl := Option.some.inj edge
          simp [raised] at waits
        · simp at edge
      · simp at edge
  | drained =>
      simp only [PhaseState.step] at edge
      split at edge
      · obtain rfl := Option.some.inj edge
        exact finish_wakeful (waking.awake waits)
      · simp at edge
  | drainTimeout =>
      simp only [PhaseState.step] at edge
      split at edge
      · obtain rfl := Option.some.inj edge
        have stopped : Wakeful .idle state.stop.world :=
          (waking.awake waits).untouched rfl rfl (Nat.le_refl _) (Nat.le_refl _)
        exact finish_wakeful stopped
      · simp at edge
  | deliver response =>
      simp only [PhaseState.step] at edge
      split at edge
      · rename_i deliverable
        obtain rfl := Option.some.inj edge
        have awake := waking.awake waits
        rcases receive_cases config booked.ledger.inflightDrawn deliverable
          with ⟨queryId, conversationId, _, moves⟩ | notice
        · exact moves.wakeful plain booked.known (settling.staged (settling.waits waits)) awake
        · obtain ⟨_, strategy, timers⟩ := notice.conversations
          exact awake.untouched strategy timers (Nat.le_of_eq notice.nextTimer.symm)
            (Nat.le_of_eq notice.issuer.2.2.symm)
      · simp at edge
  | fire handle =>
      simp only [PhaseState.step, PhaseState.fireTimer] at edge
      split at edge
      · simp at edge
      · rename_i current
        obtain ⟨world, fires, rfl⟩ := Option.map_eq_some_iff.mp edge
        exact (fireTimer_moves booked.ledger.inflightDrawn fires).wakeful plain booked.known
          (settling.staged current) (waking.awake waits)
      · rename_i issuer former
        have noTimer := (booked.inert (by simp [former])).2 handle
        simp [World.fireTimer, noTimer] at edge
  | stopCurrentPhase =>
      obtain rfl := Option.some.inj edge
      split at waits
      · rename_i running
        rw [if_pos running]
        exact (waking.awake waits).untouched rfl rfl (Nat.le_refl _) (Nat.le_refl _)
      · rename_i stopped
        rw [if_neg stopped]
        exact waking.awake waits
  | stop | tick =>
      obtain rfl := Option.some.inj edge
      exact (waking.awake waits).untouched rfl rfl (Nat.le_refl _) (Nat.le_refl _)

end Waking

theorem PhaseStart.waking {start : PhaseStart} (agentic : start.phase.agentic = true) :
    Waking start.state where
  vacant _ := by
    have untouched := startWorld_untouched start.phase start.world
    have strategy : start.state.world.strategy = start.world.strategy := untouched.2.1
    rw [Vacant, strategy]
    change (∀ conversationId, start.strategy.delayHandles.get? conversationId = none) ∧
      ∀ queryId, start.strategy.timeoutHandles.get? queryId = none
    rw [PhaseStart.strategy, start.executedOnce agentic]
    exact ⟨fun _ => rfl, fun _ => rfl⟩
  awake := nofun

theorem PhaseReachable.waking {start : PhaseStart} {state : PhaseState}
    (plain : config.PlainIds) (agentic : start.phase.agentic = true)
    (reachable : PhaseReachable config start state) : Waking state := by
  have all : (Settling config state ∧ Booked state) ∧ Waking state := by
    refine reachable.invariant (fun state =>
      (Settling config state ∧ Booked state) ∧ Waking state) ?_
        ⟨⟨PhaseStart.settling agentic, start.booked⟩, PhaseStart.waking agentic⟩
    rintro before label after ⟨⟨settling, booked⟩, waking⟩ edge
    exact ⟨⟨settling.step plain booked edge, booked.step edge⟩,
      ⟨waking.vacant_step booked edge, waking.awake_step plain settling booked edge⟩⟩
  exact all.2

/-- If an agentic strategy waits without a query in flight or a delay pending,
its completion event is set, and `execute` can go on. -/
theorem waits_on_something {start : PhaseStart} {state : PhaseState} (plain : config.PlainIds)
    (agentic : start.phase.agentic = true) (reachable : PhaseReachable config start state)
    (waits : state.execute = .waiting)
    (noQuery : state.world.strategy.inflight.isEmpty = true)
    (noDelay : state.world.strategy.delayHandles.isEmpty = true) :
    state.world.strategy.allDone = true ∧
      (state.pc = .running → (state.step config .resume).isSome) := by
  have allDone : state.world.strategy.allDone = true := by
    rcases (reachable.waking plain agentic).awake waits with done | raising | ⟨_, expecting⟩
    · exact done
    · simp at raising
    · rcases expecting rfl with
        ⟨queryId, conversationId, found⟩ | ⟨conversationId, handle, found⟩
      · simp [OrderedDict.isEmpty_iff.mp noQuery queryId] at found
      · simp [OrderedDict.isEmpty_iff.mp noDelay conversationId] at found
  refine ⟨allDone, fun running => ?_⟩
  have phase : state.phase.agentic = true := by
    rw [reachable.phase]
    exact agentic
  simp [PhaseState.step, running, waits, phase, allDone]

/-- After the timeout of its only turn the strategy is woken. -/
theorem waits_on_something_timedOut :
    ∃ state, PhaseReachable OneTurn.config OneTurn.start state ∧ state.execute = .waiting ∧
      state.world.strategy.allDone = true := by
  have runs : GuardedRuns.run (PhaseState.step OneTurn.config) OneTurn.start.state
      [.execute, .fire 0] = some _ := (Option.some_get (by decide)).symm
  exact ⟨_, ⟨_, runs⟩, by decide,
    (waits_on_something (by decide) rfl ⟨_, runs⟩ (by decide) (by decide) (by decide)).1⟩

end InferenceEndpoint
