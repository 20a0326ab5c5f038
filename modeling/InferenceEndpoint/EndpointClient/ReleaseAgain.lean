import InferenceEndpoint.EndpointClient.PoolOwnership

/-!
# Releasing a connection again

The worker releases a connection early and once more in its `finally` block.  What other
coroutines do in between leaves a connection that nobody holds as it was, so that the
second release does nothing to a connection on the idle stack.  A connection that was
closed is still marked in use: its second release wakes another waiter.
-/

namespace InferenceEndpoint

/-- Nobody holds the connection. -/
def PoolState.Unheld (id : ConnectionId) (state : PoolState) : Prop :=
  ∀ request, state.stage request ≠ .holding id

/-- What the pool keeps of a connection that is not handed out. -/
structure Retained (id : ConnectionId) (before after : ConnectionPool) : Prop where
  inUse : (after.connections id).inUse = (before.connections id).inUse
  closing : (before.connections id).closing = true → (after.connections id).closing = true
  tracked : id ∈ after.allConnections → id ∈ before.allConnections

namespace Retained

variable {id : ConnectionId}

theorem refl (pool : ConnectionPool) : Retained id pool pool :=
  ⟨rfl, fun closing => closing, fun tracked => tracked⟩

theorem trans {first second third : ConnectionPool} (before : Retained id first second)
    (after : Retained id second third) : Retained id first third where
  inUse := after.inUse.trans before.inUse
  closing := fun closing => after.closing (before.closing closing)
  tracked := fun tracked => before.tracked (after.tracked tracked)

theorem closeConnection (pool : ConnectionPool) (other : ConnectionId) :
    Retained id pool (pool.closeConnection other) := by
  refine ⟨?_, ?_, fun tracked => Finset.mem_of_mem_erase tracked⟩
  · by_cases same : id = other
    · subst same
      simp [ConnectionPool.closeConnection, ConnectionPool.setConnection]
    · simp [ConnectionPool.closeConnection, ConnectionPool.setConnection, same]
  · intro closing
    by_cases same : id = other
    · subst same
      simp [ConnectionPool.closeConnection, ConnectionPool.setConnection]
    · simpa [ConnectionPool.closeConnection, ConnectionPool.setConnection, same] using closing

/-- Another connection is set. -/
theorem setConnection (pool : ConnectionPool) {other : ConnectionId} (different : id ≠ other)
    (conn : PooledConnection) : Retained id pool (pool.setConnection other conn) := by
  have kept : (pool.setConnection other conn).connections id = pool.connections id := by
    simp [ConnectionPool.setConnection, different]
  exact ⟨by rw [kept], by rw [kept]; exact fun closing => closing, fun tracked => tracked⟩

/-- Idle connections are popped, but not this one. -/
theorem popIdle (id : ConnectionId) (readable : ConnectionId → Bool) (stack : List ConnectionId)
    (pool : ConnectionPool)
    (other : (ConnectionPool.popIdle readable stack pool).1 ≠ some id) :
    Retained id pool (ConnectionPool.popIdle readable stack pool).2 := by
  induction stack generalizing pool with
  | nil => exact ⟨rfl, fun closing => closing, fun tracked => tracked⟩
  | cons head rest ih =>
      unfold ConnectionPool.popIdle at other ⊢
      split
      · rename_i usable
        rw [if_pos usable] at other
        have different : id ≠ head := fun same => other (congrArg some same.symm)
        have kept := setConnection pool different
          { pool.connections head with
            inUse := true
            idleTimeOnAcquire := pool.now - (pool.connections head).lastUsed
            protocol := (pool.connections head).protocol.reset }
        exact ⟨kept.inUse, kept.closing, kept.tracked⟩
      · rename_i unusable
        rw [if_neg unusable] at other
        exact (closeConnection pool head).trans (ih _ other)

end Retained

namespace PoolState

variable {id : ConnectionId}

theorem notifyLoop_pool (queue : List RequestId) (state : PoolState) :
    ∃ waiters, (notifyLoop queue state).pool = { state.pool with waiters := waiters } := by
  induction queue with
  | nil => exact ⟨[], rfl⟩
  | cons head rest ih =>
      unfold notifyLoop
      split
      · exact ⟨rest, rfl⟩
      · exact ih

theorem retained_notifyWaiter (id : ConnectionId) (state : PoolState) :
    Retained id state.pool state.notifyWaiter.pool := by
  obtain ⟨waiters, pool⟩ := notifyLoop_pool state.pool.waiters state
  rw [notifyWaiter, pool]
  exact ⟨rfl, fun closing => closing, fun tracked => tracked⟩

theorem retained_takeOrCreate {state : PoolState} {request : RequestId}
    {readable : ConnectionId → Bool} (unheld : (state.takeOrCreate request readable).Unheld id) :
    Retained id state.pool (state.takeOrCreate request readable).pool := by
  have popped := Retained.popIdle id readable state.pool.idleStack state.pool
  unfold takeOrCreate ConnectionPool.tryGetIdle at *
  cases taken : ConnectionPool.popIdle readable state.pool.idleStack state.pool with
  | mk found pool =>
      rw [taken] at popped
      cases found with
      | some other =>
          simp only [taken] at unheld ⊢
          refine popped fun same => unheld request ?_
          simpa [setStage] using same
      | none =>
          have popped := popped (by simp)
          dsimp only
          split
          · exact ⟨popped.inUse, popped.closing, popped.tracked⟩
          · exact ⟨popped.inUse, popped.closing, popped.tracked⟩

/-- Releasing another connection, or one that is no longer in use or no longer alive. -/
theorem retained_release (state : PoolState) {other : ConnectionId}
    (apart : id = other → (state.pool.connections id).inUse = true →
      (state.pool.connections id).isAlive = false) :
    Retained id state.pool (state.release other).pool := by
  unfold release
  dsimp only
  split
  · exact Retained.refl _
  · rename_i inUse
    split
    · exact (Retained.closeConnection state.pool other).trans
        (retained_notifyWaiter id ⟨_, state.stage⟩)
    · rename_i alive
      have different : id ≠ other := by
        intro same
        subst same
        simp [apart rfl (by simpa using inUse)] at alive
      have kept := Retained.setConnection state.pool different
        { state.pool.connections other with
          inUse := false
          lastUsed := state.pool.now
          protocol := (state.pool.connections other).protocol.reset }
      refine Retained.trans ?_ (retained_notifyWaiter id ⟨_, state.stage⟩)
      exact ⟨kept.inUse, kept.closing, kept.tracked⟩

/-- A step after which nobody holds the connection. -/
theorem retained_step {state next : PoolState} {label : PoolLabel}
    (before : state.Unheld id) (edge : state.step label = some next) (after : next.Unheld id) :
    Retained id state.pool next.pool := by
  cases label with
  | acquire request readable =>
      simp only [step, Option.ite_none_right_eq_some, Option.some.injEq] at edge
      obtain ⟨-, rfl⟩ := edge
      exact retained_takeOrCreate after
  | resume request readable =>
      simp only [step, Option.ite_none_right_eq_some, Option.some.injEq] at edge
      obtain ⟨-, rfl⟩ := edge
      have retained := retained_takeOrCreate after
      exact ⟨retained.inUse, retained.closing, retained.tracked⟩
  | grant request readable =>
      simp only [step, Option.ite_none_right_eq_some] at edge
      obtain ⟨-, edge⟩ := edge
      have popped := Retained.popIdle id readable state.pool.idleStack state.pool
      rw [ConnectionPool.tryGetIdle] at edge
      cases taken : ConnectionPool.popIdle readable state.pool.idleStack state.pool with
      | mk found pool =>
          rw [taken] at edge popped
          cases found with
          | some other =>
              obtain rfl := Option.some.inj edge
              have kept := popped fun same => after request (by simpa [setStage] using same)
              exact ⟨kept.inUse, kept.closing, kept.tracked⟩
          | none =>
              obtain rfl := Option.some.inj edge
              have kept := popped (by simp)
              exact ⟨kept.inUse, kept.closing, kept.tracked⟩
  | connected request =>
      simp only [step, Option.ite_none_right_eq_some, Option.some.injEq] at edge
      obtain ⟨-, rfl⟩ := edge
      have different : id ≠ state.pool.nextConnection := by
        intro same
        exact after request (by simp [setStage, same])
      have kept := Retained.setConnection state.pool different { lastUsed := state.pool.now }
      refine ⟨kept.inUse, kept.closing, fun tracked => ?_⟩
      exact (Finset.mem_insert.mp tracked).resolve_left different
  | connectFailed request =>
      simp only [step, Option.ite_none_right_eq_some, Option.some.injEq] at edge
      obtain ⟨-, rfl⟩ := edge
      exact ⟨rfl, fun closing => closing, fun tracked => tracked⟩
  | cancel request =>
      simp only [step] at edge
      split at edge
      all_goals first
        | obtain rfl := Option.some.inj edge
          exact ⟨rfl, fun closing => closing, fun tracked => tracked⟩
        | simp at edge
  | unwind request =>
      simp only [step, Option.ite_none_right_eq_some, Option.some.injEq] at edge
      obtain ⟨-, rfl⟩ := edge
      exact ⟨rfl, fun closing => closing, fun tracked => tracked⟩
  | release request =>
      simp only [step] at edge
      split at edge
      · rename_i other holding
        obtain rfl := Option.some.inj edge
        exact retained_release (state.setStage request (.released other))
          fun same => absurd (same ▸ holding) (before request)
      · simp at edge
  | releaseAgain request =>
      simp only [step] at edge
      split at edge
      · rename_i other released
        split at edge
        · simp at edge
        · rename_i unused
          obtain rfl := Option.some.inj edge
          refine retained_release state fun same inUse => ?_
          subst same
          simpa [inUse] using unused
      · simp at edge
  | close =>
      obtain rfl := Option.some.inj edge
      refine ⟨?_, ?_, fun tracked => absurd tracked (Finset.notMem_empty _)⟩
      · simp only [close]
        split <;> rfl
      · intro closing
        simp only [close]
        split
        · rfl
        · exact closing
  | network other event =>
      obtain rfl := Option.some.inj edge
      by_cases same : id = other
      · subst same
        exact ⟨by simp [ConnectionPool.setConnection],
          by simp [ConnectionPool.setConnection], fun tracked => tracked⟩
      · exact Retained.setConnection state.pool same _
  | tick now =>
      obtain rfl := Option.some.inj edge
      exact ⟨rfl, fun closing => closing, fun tracked => tracked⟩

/-- A run in which the connection is not handed out. -/
theorem retained_run {state later : PoolState} {labels : List PoolLabel}
    (unheld : GuardedRuns.Meets step (fun state _ => state.Unheld id) state labels)
    (runs : GuardedRuns.run step state labels = some later) (after : later.Unheld id) :
    Retained id state.pool later.pool := by
  induction labels generalizing state with
  | nil =>
      obtain rfl := Option.some.inj runs
      exact Retained.refl _
  | cons label labels ih =>
      obtain ⟨next, edge, rest⟩ := GuardedRuns.run_cons_eq_some.mp runs
      have nextUnheld : next.Unheld id := by
        cases labels with
        | nil =>
            obtain rfl := Option.some.inj rest
            exact after
        | cons second labels => exact (unheld.2 next edge).1
      exact (retained_step unheld.1 edge nextUnheld).trans (ih (unheld.2 next edge) rest)

/-- Waking a waiter changes nothing only if no acquire is queued. -/
theorem notifyWaiter_eq_iff (state : PoolState) :
    state.notifyWaiter = state ↔ state.pool.waiters = [] := by
  have shorter : ∀ (queue : List RequestId),
      (notifyLoop queue state).pool.waiters.length ≤ queue.length - 1 := by
    intro queue
    induction queue with
    | nil => simp [notifyLoop]
    | cons head rest ih =>
        unfold notifyLoop
        split
        · simp
        · simp only [List.length_cons]
          omega
  constructor
  · intro same
    have less := shorter state.pool.waiters
    rw [← notifyWaiter, same] at less
    exact List.length_eq_zero_iff.mp (by omega)
  · intro empty
    rw [notifyWaiter, empty, notifyLoop, ← empty]

/-- Releasing a connection that was closed wakes another waiter and does nothing else. -/
theorem release_closed {state : PoolState} (inUse : (state.pool.connections id).inUse = true)
    (closing : (state.pool.connections id).closing = true)
    (untracked : id ∉ state.pool.allConnections) : state.release id = state.notifyWaiter := by
  have closed : state.pool.closeConnection id = state.pool := by
    have kept : { state.pool.connections id with closing := true } =
        state.pool.connections id := by
      rw [← closing]
    rw [ConnectionPool.closeConnection, ConnectionPool.setConnection, kept,
      Function.update_eq_self, Finset.erase_eq_of_notMem untracked]
  simp [release, inUse, PooledConnection.isAlive, closing, closed]

/-- What the first release does to the connection itself. -/
theorem release_connection (state : PoolState)
    (inUse : (state.pool.connections id).inUse = true) :
    ((state.pool.connections id).isAlive = true ∧
        (state.pool.connections id).protocol.shouldClose = false ∧
        ((state.release id).pool.connections id).inUse = false) ∨
      (¬ ((state.pool.connections id).isAlive = true ∧
          (state.pool.connections id).protocol.shouldClose = false) ∧
        ((state.release id).pool.connections id).inUse = true ∧
        ((state.release id).pool.connections id).closing = true ∧
        id ∉ (state.release id).pool.allConnections) := by
  by_cases kept : (state.pool.connections id).isAlive = true ∧
      (state.pool.connections id).protocol.shouldClose = false
  · refine Or.inl ⟨kept.1, kept.2, ?_⟩
    have retained := retained_notifyWaiter id
    rw [release]
    simp only [inUse, kept.1, kept.2]
    refine (retained ⟨_, state.stage⟩).inUse.trans ?_
    simp [ConnectionPool.setConnection]
  · refine Or.inr ⟨kept, ?_⟩
    have closes : (!(state.pool.connections id).isAlive ||
        (state.pool.connections id).protocol.shouldClose) = true := by
      revert kept
      cases (state.pool.connections id).isAlive <;>
        cases (state.pool.connections id).protocol.shouldClose <;> simp
    have retained := retained_notifyWaiter id
      { state with pool := state.pool.closeConnection id }
    rw [release]
    simp only [inUse, closes, Bool.not_true, Bool.false_eq_true, if_false, if_true]
    refine ⟨retained.inUse.trans ?_, retained.closing ?_, fun tracked => ?_⟩
    · simp [ConnectionPool.closeConnection, ConnectionPool.setConnection, inUse]
    · simp [ConnectionPool.closeConnection, ConnectionPool.setConnection]
    · exact absurd (retained.tracked tracked) (Finset.notMem_erase _ _)

end PoolState

/-- A connection that was released and not handed out since is released again: that changes
nothing exactly if it had gone back to the idle stack or no acquire is queued. -/
theorem release_again_iff {maxConnections : Option Nat} {maxIdleTime : ℚ} {connectLimiter : Nat}
    {state released later : PoolState} {request : RequestId} {id : ConnectionId}
    {labels : List PoolLabel}
    (reachable : PoolReachable maxConnections maxIdleTime connectLimiter state)
    (holding : state.stage request = .holding id)
    (release : state.step (.release request) = some released)
    (unheld : GuardedRuns.Meets PoolState.step (fun state _ => state.Unheld id) released labels)
    (runs : GuardedRuns.run PoolState.step released labels = some later)
    (after : later.Unheld id) :
    later.release id = later ↔
      ((state.pool.connections id).isAlive = true ∧
          (state.pool.connections id).protocol.shouldClose = false) ∨
        later.pool.waiters = [] := by
  have owned : state.Owned maxConnections :=
    reachable.invariant (fun state => state.Owned maxConnections)
      (fun _ _ _ owned edge => owned.step edge)
      (PoolState.initial_owned maxConnections maxIdleTime connectLimiter)
  have inUse := owned.heldUsed request id holding
  have retained := PoolState.retained_run unheld runs after
  simp only [PoolState.step, holding, Option.some.injEq] at release
  rcases PoolState.release_connection (state.setStage request (.released id)) inUse with
    ⟨alive, open', idle⟩ | ⟨closes, stillUsed, closing, untracked⟩
  · rw [release] at idle
    have idle := retained.inUse.trans idle
    have kept : later.release id = later := by simp [PoolState.release, idle]
    exact iff_of_true kept (Or.inl ⟨alive, open'⟩)
  · rw [release] at stillUsed closing untracked
    rw [PoolState.release_closed (retained.inUse.trans stillUsed) (retained.closing closing)
      fun tracked => untracked (retained.tracked tracked), PoolState.notifyWaiter_eq_iff]
    exact ⟨Or.inr, fun either => either.resolve_left closes⟩

/-- One connection, the limit: a request holds it, and two more wait for it. -/
def twoWaiters : List PoolLabel :=
  [.acquire 1 fun _ => false, .grant 1 fun _ => false, .connected 1,
    .acquire 2 fun _ => false, .acquire 3 fun _ => false]

theorem twoWaiters_unheld (request : RequestId) : Function.update (Function.update
    (Function.update (Function.update (Function.update (Function.update (Function.update
      (fun _ : RequestId => AcquireStage.outside) 1 .queued) 1 .connecting) 1 (.holding 0))
        2 .waiting) 3 .waiting) 1 (.released 0)) 2 .woken request ≠ .holding 0 := by
  simp only [Function.update_apply]
  split_ifs <;> simp

/-- The connection goes back to the stack, and the second release changes nothing. -/
theorem release_again_keepAlive :
    ∃ released : PoolState,
      released.pool.waiters = [3] ∧ released.pool.idleStack = [0] ∧
        released.release 0 = released := by
  obtain ⟨state, runs, holding, alive, released, release, waiters, idle, unheld⟩ :
      ∃ state : PoolState, GuardedRuns.run PoolState.step
          (PoolState.initial (some 1) 4 128) twoWaiters = some state ∧
        state.stage 1 = .holding 0 ∧
        ((state.pool.connections 0).isAlive = true ∧
          (state.pool.connections 0).protocol.shouldClose = false) ∧
        ∃ released, state.step (.release 1) = some released ∧ released.pool.waiters = [3] ∧
          released.pool.idleStack = [0] ∧ released.Unheld 0 :=
    ⟨_, rfl, rfl, ⟨rfl, rfl⟩, _, rfl, rfl, rfl, twoWaiters_unheld⟩
  have immediately : GuardedRuns.Meets PoolState.step (fun state _ => state.Unheld 0)
      released [] := trivial
  exact ⟨released, waiters, idle, (release_again_iff ⟨twoWaiters, runs⟩ holding
    release immediately rfl unheld).mpr (Or.inl alive)⟩

/-- The connection is lost: the first release wakes one waiter and the second another. -/
theorem release_again_wakes :
    ∃ state released : PoolState,
      PoolReachable (some 1) 4 128 state ∧ state.stage 1 = .holding 0 ∧
        state.step (.release 1) = some released ∧ released.Unheld 0 ∧
        released.pool.waiters = [3] ∧ (released.release 0).pool.waiters = [] ∧
        (released.release 0).stage 3 = .woken ∧ released.release 0 ≠ released := by
  have runs : GuardedRuns.run PoolState.step (PoolState.initial (some 1) 4 128)
      (twoWaiters ++ [.network 0 (.connectionLost false)]) = some _ := rfl
  refine ⟨_, _, ⟨_, runs⟩, rfl, rfl, twoWaiters_unheld, rfl, rfl, rfl, fun same => ?_⟩
  have waiters := congrArg (fun state => state.pool.waiters.length) same
  exact absurd waiters (by decide)

end InferenceEndpoint
