import InferenceEndpoint.LoadGenerator.Completion

/-!
# Draining a phase

`_drain_inflight` returns early only when the session was stopped: while it
waits nothing is issued, so the drain event means that the last result has
arrived.
-/

namespace InferenceEndpoint

variable {config : AgenticConfig}

open World

/-- What holds while a phase runs and drains, besides its books. -/
structure Draining (config : AgenticConfig) (state : PhaseState) : Prop where
  bound : state.pc = .draining → state.world.DrainBound
  ended : state.pc = .draining →
    (∃ issued, state.execute = .returned issued) ∨ state.execute = .cancelled
  halted : state.execute = .cancelled → state.world.Halted
  completion : state.execute = .waiting → state.strategyIssuer = .current →
    Completion config ⟨.idle, none, state.world⟩
  quiet : ∀ issued, state.execute = .returned issued →
    state.strategyIssuer = .current → Quiet ⟨.idle, none, state.world⟩

theorem Completion.sameStrategy {first second : World}
    (completion : Completion config ⟨.idle, none, first⟩)
    (strategy : second.strategy = first.strategy) :
    Completion config ⟨.idle, none, second⟩ := by
  refine completion.keep (congrArg AgenticState.flags strategy) fun exhausted => ?_
  refine ⟨?_, ?_, ?_, Or.inl rfl⟩
  · rw [strategy]
    exact exhausted.waiting
  · rw [strategy]
    exact exhausted.active
  · rw [hasMoreConversationInstances, hasTrajectoryBudget, trajectoryBudget, strategy]
    exact exhausted.started

theorem Quiet.sameStrategy {first second : World}
    (quiet : Quiet ⟨.idle, none, first⟩) (strategy : second.strategy = first.strategy) :
    Quiet ⟨.idle, none, second⟩ := by
  obtain ⟨waiting, active, _, _⟩ := quiet
  refine ⟨?_, ?_, Or.inl rfl, rfl⟩
  · rw [strategy]
    exact waiting
  · rw [strategy]
    exact active

/-- Cleaning up after everything was issued leaves a quiet strategy. -/
theorem quiet_cleanUp {world : World}
    (active : world.strategy.stopping = true ∨
      ∀ conversationId, world.strategy.activeIters.get? conversationId = none) :
    Quiet ⟨.idle, none, world.cleanUp⟩ := by
  refine ⟨fun _ => rfl, ?_, Or.inl rfl, rfl⟩
  unfold cleanUp
  dsimp only
  rw [cancelTimers_eq, cancelTimers_eq]
  exact active

/-- The first step of `execute` either leaves the completion event justified or
has nothing left to issue. -/
theorem executeStart_completion (config : AgenticConfig) (world : World) :
    ((world.executeStart config).1 = .waiting →
        Completion config ⟨.idle, none, (world.executeStart config).2⟩) ∧
      ∀ issued, (world.executeStart config).1 = .returned issued →
        Quiet ⟨.idle, none, (world.executeStart config).2⟩ := by
  have seeded := seed_rule config
    (fun _ world => Completion config ⟨.idle, none, world⟩)
    (fun _ => True)
    (fun _ _ holds _ => holds)
    (fun _ _ _ holds moves => Completion.moves holds.filling moves)
    (fun _ _ _ _ _ _ => trivial)
    ((world.resetStrategy config).initialConversationsToStart config)
    (world.resetStrategy config) nofun
  generalize result : world.executeStart config = executed
  have cases := executeStart_cases config world
  rw [result] at cases
  cases cases with
  | invalid | raised => exact ⟨nofun, nofun⟩
  | @returned final seeding noWork =>
      refine ⟨nofun, fun _ _ => quiet_cleanUp ?_⟩
      unfold hasWorkRemaining at noWork
      cases stopping : final.strategy.stopping with
      | true => exact Or.inl rfl
      | false =>
          rw [stopping] at noWork
          simp only [Bool.false_eq_true, if_false, Bool.or_eq_false_iff,
            Bool.not_eq_false'] at noWork
          exact Or.inr (OrderedDict.isEmpty_iff.mp noWork.1.1.1)
  | waiting seeding =>
      rw [seeding] at seeded
      exact ⟨fun _ => seeded.1 rfl, nofun⟩

/-- A step that leaves the program counter and the strategy task alone. -/
theorem Draining.continues {state next : PhaseState} (draining : Draining config state)
    (pc : next.pc = state.pc) (execute : next.execute = state.execute)
    (strategyIssuer : next.strategyIssuer = state.strategyIssuer)
    (halted : state.world.Halted → next.world.Halted)
    (bound : state.pc = .draining → state.world.DrainBound → next.world.DrainBound)
    (completion : state.strategyIssuer = .current →
      Completion config ⟨.idle, none, state.world⟩ →
        Completion config ⟨.idle, none, next.world⟩)
    (quiet : state.strategyIssuer = .current → Quiet ⟨.idle, none, state.world⟩ →
      Quiet ⟨.idle, none, next.world⟩) : Draining config next where
  bound atDrain := bound (pc ▸ atDrain) (draining.bound (pc ▸ atDrain))
  ended atDrain := by rw [execute]; exact draining.ended (pc ▸ atDrain)
  halted := by
    rw [execute]
    exact fun cancelled => halted (draining.halted cancelled)
  completion := by
    rw [execute, strategyIssuer]
    exact fun waiting current => completion current (draining.completion waiting current)
  quiet := by
    rw [execute, strategyIssuer]
    exact fun issued returned current =>
      quiet current (draining.quiet issued returned current)

/-- A step of the session that the strategy takes no part in. -/
theorem Draining.keeps {state next : PhaseState} (draining : Draining config state)
    (pc : next.pc = state.pc) (execute : next.execute = state.execute)
    (strategyIssuer : next.strategyIssuer = state.strategyIssuer)
    (halted : state.world.Halted → next.world.Halted)
    (bound : state.pc = .draining → state.world.DrainBound → next.world.DrainBound)
    (strategy : next.world.strategy = state.world.strategy) : Draining config next :=
  draining.continues pc execute strategyIssuer halted bound
    (fun _ completion => completion.sameStrategy strategy)
    (fun _ quiet => quiet.sameStrategy strategy)

/-- A callback of the strategy. -/
theorem Draining.moves {state : PhaseState} (draining : Draining config state)
    (current : state.strategyIssuer = .current) {world : World}
    (moves : Moves config ⟨.idle, none, state.world⟩ ⟨.idle, none, world⟩) :
    Draining config { state with world := world } := by
  refine draining.continues rfl rfl rfl
    (fun halted => halted.of_fields moves.sessionFields) ?_
    (fun _ completion => completion.moves moves) (fun _ quiet => (quiet.moves moves).1)
  intro atDrain bound
  rcases draining.ended atDrain with ⟨issued, returned⟩ | cancelled
  · exact bound.same ((draining.quiet issued returned current).moves moves).2
  · exact bound.moves (draining.halted cancelled) moves

/-- While the stop flags are up, `issue` refuses. -/
theorem issue_halted {world : World} (halted : world.Halted) (currentIssued : Nat)
    (sampleIndex : Nat) (dataOverride : Option DataOverride) (conversationId : String)
    (turn : Option Nat) :
    (world.issue currentIssued sampleIndex dataOverride conversationId turn).2 =
      world.afterStopCheck.observe (.refused conversationId turn) := by
  have stopped : world.stopCheck currentIssued = true := by
    unfold stopCheck
    rcases halted with stop | cap
    · simp [stop]
    · simp [cap]
  simp [issue, stopped]

/-- Ending a phase leaves nothing of the drain. -/
theorem Draining.finished {state final : PhaseState} (draining : Draining config state)
    (execute : final.execute = state.execute)
    (strategyIssuer : final.strategyIssuer = state.strategyIssuer)
    (strategy : final.world.strategy = state.world.strategy)
    (halted : state.world.Halted → final.world.Halted) (ended : final.pc = .ended) :
    Draining config final where
  bound atDrain := by rw [ended] at atDrain; simp at atDrain
  ended atDrain := by rw [ended] at atDrain; simp at atDrain
  halted := by
    rw [execute]
    exact fun cancelled => halted (draining.halted cancelled)
  completion := by
    rw [execute, strategyIssuer]
    exact fun waiting current =>
      (draining.completion waiting current).sameStrategy strategy
  quiet := by
    rw [execute, strategyIssuer]
    exact fun issued returned current =>
      (draining.quiet issued returned current).sameStrategy strategy

theorem leftover_drainFields (state : PhaseState) (past sampleIndex : Nat)
    (issuer : PhaseIssuer) :
    (state.issueLeftover past issuer sampleIndex).world.drainFields =
      state.world.drainFields := by
  unfold PhaseState.issueLeftover
  dsimp only
  rcases issue_cases state.world.issuer.issuedCount
      { state.world with issuer := issuer } sampleIndex none "" none with
    ⟨_, refused⟩ | ⟨next, raised, equal⟩ | ⟨query, prompt, _, _, issued⟩
  · rw [refused]
    rfl
  · rw [equal]
    cases raised <;> rfl
  · rw [issued]
    rfl

theorem finish_strategy (state : PhaseState) :
    state.finish.world.strategy = state.world.strategy := by
  unfold PhaseState.finish
  dsimp only
  split
  · exact stopPerformanceTracking_strategy _
  · rfl

theorem finish_sessionFields (state : PhaseState) :
    state.finish.world.sessionFields = state.world.sessionFields := by
  unfold PhaseState.finish
  dsimp only
  split
  · exact stopPerformanceTracking_sessionFields _
  · rfl

theorem Draining.finish {state : PhaseState} (draining : Draining config state) :
    Draining config state.finish :=
  draining.finished rfl rfl (finish_strategy state)
    (fun halted => halted.of_fields (finish_sessionFields state)) rfl

/-- The strategy is done, and the drain begins. -/
theorem Draining.afterStrategy {state : PhaseState} (draining : Draining config state)
    (ended : (∃ issued, state.execute = .returned issued) ∨
      state.execute = .cancelled) : Draining config state.afterStrategy := by
  unfold PhaseState.afterStrategy PhaseState.startDrain
  split
  · split
    · exact draining.finish
    · exact
        { bound := nofun
          ended := fun _ => ended
          halted := draining.halted
          completion := fun waiting current =>
            (draining.completion waiting current).sameStrategy rfl
          quiet := fun issued returned current =>
            (draining.quiet issued returned current).sameStrategy rfl }
  · exact draining.finish

theorem draining_executed {state : PhaseState}
    (running : state.pc = .running) :
    Draining config { state with
      execute := (state.world.executeStart config).1
      world := (state.world.executeStart config).2
      strategyIssuer := .current } := by
  have completion := executeStart_completion config state.world
  refine
    { bound := fun atDrain => ?_
      ended := fun atDrain => ?_
      halted := fun cancelled => ?_
      completion := fun waiting _ => completion.1 waiting
      quiet := fun issued returned _ => completion.2 issued returned }
  · rw [running] at atDrain
    simp at atDrain
  · rw [running] at atDrain
    simp at atDrain
  · have cases := executeStart_cases config state.world
    generalize state.world.executeStart config = executed at cases cancelled
    cases cases <;> simp at cancelled

theorem Draining.resumed {state : PhaseState} (draining : Draining config state)
    (running : state.pc = .running) (waiting : state.execute = .waiting)
    (allDone : state.world.strategy.allDone = true) :
    Draining config { state with
      execute := state.world.executeResume.1
      world := state.world.executeResume.2 } := by
  refine
    { bound := fun atDrain => ?_
      ended := fun atDrain => ?_
      halted := fun cancelled => ?_
      completion := fun stillWaiting _ => ?_
      quiet := fun issued returned current => ?_ }
  · rw [running] at atDrain
    simp at atDrain
  · rw [running] at atDrain
    simp at atDrain
  · unfold executeResume at cancelled
    split at cancelled <;> simp at cancelled
  · unfold executeResume at stillWaiting
    split at stillWaiting <;> simp at stillWaiting
  · unfold executeResume at returned ⊢
    cases error : state.world.strategy.error with
    | true => simp [error] at returned
    | false =>
        simp only [Bool.false_eq_true, if_false]
        apply quiet_cleanUp
        rcases draining.completion waiting current allDone with
          failed | stopping | exhausted
        · rw [error] at failed
          simp at failed
        · exact Or.inl stopping
        · exact Or.inr exhausted.active

theorem Draining.step {state next : PhaseState} {label : PhaseLabel}
    (draining : Draining config state) (booked : Booked state)
    (edge : state.step config label = some next) : Draining config next := by
  have singleTurn : state.phase.agentic = false → state.strategyIssuer ≠ .current := by
    intro single current
    rw [booked.agentic current] at single
    simp at single
  cases label with
  | execute =>
      simp only [PhaseState.step] at edge
      split at edge
      · rename_i enabled
        split at edge
        · obtain rfl := Option.some.inj edge
          exact draining_executed enabled.1
        · rename_i single
          obtain rfl := Option.some.inj edge
          have elsewhere := singleTurn (by simpa using single)
          exact
            { bound := fun atDrain => by simp [enabled.1] at atDrain
              ended := fun atDrain => by simp [enabled.1] at atDrain
              halted := by simp
              completion := fun _ current => absurd current elsewhere
              quiet := by simp }
      · simp at edge
  | issueSample sampleIndex =>
      simp only [PhaseState.step] at edge
      split at edge
      · rename_i enabled
        obtain rfl := Option.some.inj edge
        have untouched := issue_untouched state.world.issuer.issuedCount state.world
          sampleIndex none "" none
        refine draining.keeps rfl rfl rfl
          (fun halted => halted.of_fields untouched.2.2.2) ?_ untouched.2.1
        intro atDrain bound
        have cancelled : state.execute = .cancelled :=
          enabled.2.resolve_left fun running => by simp [atDrain] at running
        have refused := issue_halted (draining.halted cancelled)
          state.world.issuer.issuedCount sampleIndex none "" none
        refine bound.same ?_
        rw [PhaseState.issueSample, refused]
        rfl
      · simp at edge
  | issueLeftover past sampleIndex =>
      obtain ⟨issuer, _, rfl⟩ := Option.map_eq_some_iff.mp edge
      have untouched := issue_untouched state.world.issuer.issuedCount
        { state.world with issuer := issuer } sampleIndex none "" none
      have fields : (state.issueLeftover past issuer
          sampleIndex).world.sessionFields = state.world.sessionFields :=
        untouched.2.2.2
      exact draining.keeps rfl rfl rfl (fun halted => halted.of_fields fields)
        (fun _ bound => bound.same (leftover_drainFields state past sampleIndex issuer))
        untouched.2.1
  | strategyReturns =>
      simp only [PhaseState.step] at edge
      split at edge
      · rename_i enabled
        obtain rfl := Option.some.inj edge
        have elsewhere := singleTurn (by simpa using enabled.2.2)
        exact
          { bound := fun atDrain => by simp [enabled.1] at atDrain
            ended := fun atDrain => by simp [enabled.1] at atDrain
            halted := by simp
            completion := by simp
            quiet := fun _ _ current => absurd current elsewhere }
      · simp at edge
  | strategyRaises =>
      simp only [PhaseState.step] at edge
      split at edge
      · rename_i enabled
        obtain rfl := Option.some.inj edge
        exact
          { bound := fun atDrain => by simp [enabled.1] at atDrain
            ended := fun atDrain => by simp [enabled.1] at atDrain
            halted := by simp
            completion := by simp
            quiet := by simp }
      · simp at edge
  | resume =>
      simp only [PhaseState.step] at edge
      split at edge
      · rename_i enabled
        obtain rfl := Option.some.inj edge
        exact draining.resumed enabled.1 enabled.2.1 enabled.2.2.2
      · simp at edge
  | cancel =>
      simp only [PhaseState.step] at edge
      split at edge
      · rename_i pending
        obtain rfl := Option.some.inj edge
        simp only [PhaseState.cancelPending, PhaseState.strategyRunning,
          Bool.and_eq_true, decide_eq_true_eq, Bool.or_eq_true] at pending
        obtain ⟨⟨running, _⟩, stopped⟩ := pending
        refine
          { bound := fun atDrain => by simp [running] at atDrain
            ended := fun atDrain => by simp [running] at atDrain
            halted := fun _ => ?_
            completion := by simp
            quiet := by simp }
        dsimp only
        split
        · have cleaned := forgets_cleanUp state.world
          exact World.Halted.of_fields stopped cleaned.fields
        · exact stopped
      · simp at edge
  | awaitStrategy =>
      simp only [PhaseState.step] at edge
      split at edge
      · rename_i running
        split at edge
        · rename_i issued returned
          obtain rfl := Option.some.inj edge
          exact draining.afterStrategy (Or.inl ⟨issued, returned⟩)
        · rename_i cancelled
          obtain rfl := Option.some.inj edge
          exact draining.afterStrategy (Or.inr cancelled)
        · obtain rfl := Option.some.inj edge
          exact
            { bound := by simp
              ended := by simp
              halted := draining.halted
              completion := draining.completion
              quiet := draining.quiet }
        · simp at edge
      · simp at edge
  | drained =>
      simp only [PhaseState.step] at edge
      split at edge
      · obtain rfl := Option.some.inj edge
        exact draining.finish
      · simp at edge
  | drainTimeout =>
      simp only [PhaseState.step] at edge
      split at edge
      · obtain rfl := Option.some.inj edge
        have stopped : Draining config state.stop :=
          draining.keeps rfl rfl rfl (fun _ => Or.inl rfl) (fun _ _ _ => Or.inl rfl) rfl
        exact stopped.finish
      · simp at edge
  | deliver response =>
      simp only [PhaseState.step] at edge
      split at edge
      · rename_i deliverable
        obtain rfl := Option.some.inj edge
        rcases receive_cases config booked.ledger.inflightDrawn deliverable
          with ⟨queryId, conversationId, waiting, moves⟩ | notice
        · refine draining.moves ?_ moves
          by_contra elsewhere
          simp [(booked.inert elsewhere).1 queryId] at waiting
        · exact draining.keeps rfl rfl rfl
            (fun halted => halted.of_fields notice.sessionFields)
            (fun _ bound => notice.drainBound bound) notice.conversations.2.1
      · simp at edge
  | fire handle =>
      simp only [PhaseState.step, PhaseState.fireTimer] at edge
      split at edge
      · simp at edge
      · rename_i current
        obtain ⟨world, fires, rfl⟩ := Option.map_eq_some_iff.mp edge
        exact draining.moves current
          (fireTimer_moves booked.ledger.inflightDrawn fires)
      · rename_i issuer former
        have noTimer := (booked.inert (by simp [former])).2 handle
        simp [World.fireTimer, noTimer] at edge
  | stop =>
      obtain rfl := Option.some.inj edge
      exact draining.keeps rfl rfl rfl (fun _ => Or.inl rfl) (fun _ _ _ => Or.inl rfl) rfl
  | stopCurrentPhase =>
      obtain rfl := Option.some.inj edge
      split
      · exact draining.keeps rfl rfl rfl (fun _ => Or.inr rfl) (fun _ bound => bound) rfl
      · exact draining
  | tick nowNs =>
      obtain rfl := Option.some.inj edge
      exact draining.keeps rfl rfl rfl id (fun _ bound => bound) rfl

theorem PhaseReachable.draining {start : PhaseStart} {state : PhaseState}
    (reachable : PhaseReachable config start state) : Draining config state := by
  have both : Draining config state ∧ Booked state := by
    refine reachable.invariant
      (fun state => Draining config state ∧ Booked state)
      (fun _ _ _ both edge => ⟨both.1.step both.2 edge, both.2.step edge⟩) ?_
    exact ⟨⟨nofun, nofun, nofun, nofun, nofun⟩, start.booked⟩
  exact both.1

/-! ## The end of a drain -/

theorem finish_drainFields (state : PhaseState) :
    state.finish.world.drainFields = state.world.drainFields := by
  unfold PhaseState.finish
  dsimp only
  split
  · exact stopPerformanceTracking_drainFields _
  · rfl

theorem afterStrategy_ended {state : PhaseState} (drainAfter : state.phase.drainAfter)
    (ended : state.afterStrategy.pc = .ended) :
    state.world.issuer.inflight ≤ 0 ∨ state.world.stopRequested = true := by
  unfold PhaseState.afterStrategy PhaseState.startDrain at ended
  rw [if_pos drainAfter] at ended
  split at ended
  · rename_i drained
    exact drained
  · simp at ended

/-- The step with which `_run_phase` returns after draining: the last query was
resolved or the session was stopped. -/
theorem drain_ends {state next : PhaseState} {label : PhaseLabel}
    (draining : Draining config state) (drainAfter : state.phase.drainAfter)
    (running : state.pc ≠ .ended) (ended : next.pc = .ended)
    (edge : state.step config label = some next) :
    next.world.stopRequested = true ∨ next.world.issuer.inflight ≤ 0 := by
  have finished : ∀ {middle : PhaseState},
      middle.world.stopRequested = true ∨ middle.world.issuer.inflight ≤ 0 →
        middle.finish.world.stopRequested = true ∨
          middle.finish.world.issuer.inflight ≤ 0 := by
    intro middle settled
    have fields := finish_drainFields middle
    have stopRequested : middle.finish.world.stopRequested = middle.world.stopRequested :=
      congrArg DrainFields.stopRequested fields
    have inflight : middle.finish.world.issuer.inflight = middle.world.issuer.inflight :=
      congrArg DrainFields.inflight fields
    rw [stopRequested, inflight]
    exact settled
  have unmoved : next.pc ≠ state.pc := fun same => running (same ▸ ended)
  cases label with
  | awaitStrategy =>
      simp only [PhaseState.step] at edge
      split at edge
      · have afterwards : state.afterStrategy = next →
            next.world.stopRequested = true ∨ next.world.issuer.inflight ≤ 0 := by
          rintro rfl
          have settled := afterStrategy_ended drainAfter ended
          have equal : state.afterStrategy = state.finish := by
            unfold PhaseState.afterStrategy PhaseState.startDrain
            rw [if_pos drainAfter, if_pos settled]
          rw [equal]
          exact finished settled.symm
        split at edge
        · exact afterwards (Option.some.inj edge)
        · exact afterwards (Option.some.inj edge)
        · obtain rfl := Option.some.inj edge
          simp at ended
        · simp at edge
      · simp at edge
  | drained =>
      simp only [PhaseState.step] at edge
      split at edge
      · rename_i enabled
        obtain rfl := Option.some.inj edge
        exact finished (draining.bound enabled.1 enabled.2)
      · simp at edge
  | drainTimeout =>
      simp only [PhaseState.step] at edge
      split at edge
      · obtain rfl := Option.some.inj edge
        exact finished (Or.inl rfl)
      · simp at edge
  | execute =>
      simp only [PhaseState.step] at edge
      split at edge
      · split at edge <;> exact absurd (Option.some.inj edge ▸ rfl) unmoved
      · simp at edge
  | issueSample | strategyReturns | strategyRaises | resume | cancel | deliver =>
      simp only [PhaseState.step] at edge
      split at edge
      · exact absurd (Option.some.inj edge ▸ rfl) unmoved
      · simp at edge
  | issueLeftover =>
      obtain ⟨issuer, _, rfl⟩ := Option.map_eq_some_iff.mp edge
      exact absurd rfl unmoved
  | fire handle =>
      simp only [PhaseState.step, PhaseState.fireTimer] at edge
      split at edge
      · simp at edge
      · obtain ⟨world, _, rfl⟩ := Option.map_eq_some_iff.mp edge
        exact absurd rfl unmoved
      · obtain ⟨world, _, rfl⟩ := Option.map_eq_some_iff.mp edge
        exact absurd rfl unmoved
  | stop | tick =>
      exact absurd (Option.some.inj edge ▸ rfl) unmoved
  | stopCurrentPhase =>
      obtain rfl := Option.some.inj edge
      refine absurd ?_ unmoved
      split <;> rfl

/-- Registering a skipped turn never changes the number of queries in
flight. -/
theorem registerSkipped_inflight (world : World) (sampleIndex : Nat)
    (conversationId : String) (turn : Option Nat) :
    (world.registerSkipped sampleIndex conversationId turn).2.issuer.inflight =
      world.issuer.inflight := by
  rcases registerSkipped_cases world sampleIndex conversationId turn with
    ⟨_, refused⟩ | ⟨_, skipped⟩
  · rw [refused]
    rfl
  · rw [skipped]
    rfl

end InferenceEndpoint
