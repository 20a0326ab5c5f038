import InferenceEndpoint.EndpointClient.PoolOwnership

/-!
# Use of pooled connections by a worker

The warmup of the pool, `_fire_request` and `_process_response` as users of the
connection pool.  The main loop fires one request after the other; the tasks that process
responses run in any order and end in any way.  A connection that the pool counts is idle
or held by a request in progress, unless writing a request raises or a task is cancelled
before its first step.
-/

namespace InferenceEndpoint

/-- Where a request stands that acquires a connection. -/
inductive UsePhase
  | outside
  /-- `create_one` of the warmup. -/
  | warming
  /-- `_fire_request`. -/
  | firing
  /-- The request is written and its task has not taken its first step. -/
  | fired
  /-- `_process_response`. -/
  | processing
  | ended
  deriving DecidableEq

/-- The request is still being processed. -/
def UsePhase.busy : UsePhase → Bool
  | .warming | .firing | .fired | .processing => true
  | .outside | .ended => false

/-- How `_process_response` ends. -/
inductive ResponseEnd
  /-- The status was not 200. -/
  | errorStatus
  | answered
  /-- Reading raised, so only the `finally` block releases the connection. -/
  | readRaised
  /-- Decoding or sending raised, after the connection was released. -/
  | decodeRaised
  | cancelled
  deriving DecidableEq

/-- The connection is released before the `finally` block releases it. -/
def ResponseEnd.early : ResponseEnd → Bool
  | .errorStatus | .answered | .decodeRaised => true
  | .readRaised | .cancelled => false

inductive UseLoop
  | warming
  | receiving
  | firing (request : RequestId)
  | stopped
  deriving DecidableEq

structure ConnectionUse where
  state : PoolState
  phase : RequestId → UsePhase := fun _ => .outside
  loop : UseLoop := .warming
  /-- The requests of the warmup. -/
  warmers : List RequestId := []

inductive UseLabel
  | warm (request : RequestId) (readable : ConnectionId → Bool)
  /-- The warmup releases a connection, after all its attempts are over. -/
  | warmRelease (request : RequestId)
  /-- The main loop starts. -/
  | begin
  /-- The main loop has prepared a request and acquires a connection for it. -/
  | fire (request : RequestId) (readable : ConnectionId → Bool)
  | resume (request : RequestId) (readable : ConnectionId → Bool)
  | grant (request : RequestId) (readable : ConnectionId → Bool)
  | connected (request : RequestId)
  | connectFailed (request : RequestId)
  /-- The coroutine that acquires a connection is cancelled. -/
  | cancel (request : RequestId)
  | unwind (request : RequestId)
  /-- The request is written, or writing it raises. -/
  | write (written : Bool)
  /-- The task takes its first step. -/
  | start (request : RequestId)
  | finish (request : RequestId) (ending : ResponseEnd)
  /-- The main loop ends. -/
  | stop
  /-- The cleanup cancels a task before its first step. -/
  | drop (request : RequestId)
  | close
  | network (id : ConnectionId) (event : NetworkEvent)
  | tick (now : ℚ)

namespace AcquireStage

/-- The acquisition goes on. -/
def acquiring : AcquireStage → Bool
  | .waiting | .woken | .cancelled | .queued | .connecting => true
  | .outside | .holding _ | .released _ => false

/-- The acquisition goes on, or the connection is held. -/
def engaged : AcquireStage → Bool
  | .holding _ => true
  | stage => stage.acquiring

end AcquireStage

namespace ConnectionUse

def setPhase (use : ConnectionUse) (request : RequestId) (phase : UsePhase) :
    ConnectionUse :=
  { use with phase := Function.update use.phase request phase }

/-- A step of the pool. -/
def poolStep (use : ConnectionUse) (label : PoolLabel) : Option ConnectionUse :=
  (use.state.step label).map fun state => { use with state := state }

/-- The main loop is done with a request whose acquisition is over. -/
def leave (use : ConnectionUse) (request : RequestId) (loop : UseLoop) : ConnectionUse :=
  if use.state.stage request = .outside then
    { use.setPhase request .ended with
      loop := if use.loop = .firing request then loop else use.loop }
  else use

/-- The connection is released in the `finally` block, and possibly before it. -/
def giveBack (use : ConnectionUse) (request : RequestId) (early : Bool) :
    Option ConnectionUse :=
  (use.poolStep (.release request)).bind fun released =>
    if early then released.poolStep (.releaseAgain request) else some released

def step (use : ConnectionUse) : UseLabel → Option ConnectionUse
  | .warm request readable =>
      if use.loop = .warming ∧ use.phase request = .outside then
        ({ use.setPhase request .warming with
          warmers := use.warmers ++ [request] }).poolStep (.acquire request readable)
      else none
  | .warmRelease request =>
      if use.loop = .warming ∧ use.phase request = .warming ∧
          ∀ warmer ∈ use.warmers, ¬ (use.state.stage warmer).acquiring then
        (use.giveBack request false).map fun released => released.setPhase request .ended
      else none
  | .begin =>
      if use.loop = .warming ∧
          ∀ warmer ∈ use.warmers, ¬ (use.state.stage warmer).engaged then
        some { use with loop := .receiving }
      else none
  | .fire request readable =>
      if use.loop = .receiving ∧ use.phase request = .outside then
        ({ use.setPhase request .firing with
          loop := .firing request }).poolStep (.acquire request readable)
      else none
  | .resume request readable => use.poolStep (.resume request readable)
  | .grant request readable => use.poolStep (.grant request readable)
  | .connected request => use.poolStep (.connected request)
  | .connectFailed request =>
      (use.poolStep (.connectFailed request)).map fun next => next.leave request .receiving
  | .cancel request =>
      (use.poolStep (.cancel request)).map fun next => next.leave request .stopped
  | .unwind request =>
      (use.poolStep (.unwind request)).map fun next => next.leave request .stopped
  | .write written =>
      match use.loop with
      | .firing request =>
          match use.state.stage request with
          | .holding _ =>
              some { use.setPhase request (if written then .fired else .ended) with
                loop := .receiving }
          | _ => none
      | _ => none
  | .start request =>
      if use.phase request = .fired then some (use.setPhase request .processing) else none
  | .finish request ending =>
      if use.phase request = .processing then
        (use.giveBack request ending.early).map fun released =>
          released.setPhase request .ended
      else none
  | .stop => if use.loop = .receiving then some { use with loop := .stopped } else none
  | .drop request =>
      if use.loop = .stopped ∧ use.phase request = .fired then
        some (use.setPhase request .ended)
      else none
  | .close => if use.loop = .stopped then use.poolStep .close else none
  | .network id event => use.poolStep (.network id event)
  | .tick now => use.poolStep (.tick now)

/-- A worker before its warmup. -/
def initial (maxConnections : Option Nat) (maxIdleTime : ℚ) (connectLimiter : Nat) :
    ConnectionUse where
  state := PoolState.initial maxConnections maxIdleTime connectLimiter

/-- A connection that the pool counts is idle, or held by a request that is still being
processed. -/
def Accounted (use : ConnectionUse) : Prop :=
  ∀ id ∈ use.state.pool.allConnections, id ∈ use.state.pool.idleStack ∨
    ∃ request, use.state.stage request = .holding id ∧ (use.phase request).busy = true

/-- Writing does not raise, and no task is cancelled before its first step. -/
def GivesBack (_ : ConnectionUse) : UseLabel → Prop
  | .write written => written = true
  | .drop _ => False
  | _ => True

end ConnectionUse

/-! ## Connections are idle or held -/

/-- Popping hands out or closes what it takes off the stack. -/
theorem ConnectionPool.popIdle_counted (readable : ConnectionId → Bool)
    (stack : List ConnectionId) (pool : ConnectionPool) {id : ConnectionId}
    (counted : id ∈ (popIdle readable stack pool).2.allConnections) :
    id ∈ pool.allConnections ∧ (id ∈ stack →
      id ∈ (popIdle readable stack pool).2.idleStack ∨
        (popIdle readable stack pool).1 = some id) := by
  induction stack generalizing pool with
  | nil => exact ⟨counted, nofun⟩
  | cons head rest ih =>
      unfold popIdle at counted ⊢
      split at counted
      · rename_i usable
        rw [if_pos usable]
        refine ⟨counted, fun member => ?_⟩
        rcases List.mem_cons.mp member with rfl | below
        · exact Or.inr rfl
        · exact Or.inl below
      · rename_i unusable
        rw [if_neg unusable]
        obtain ⟨before, kept⟩ := ih (pool.closeConnection head) counted
        obtain ⟨different, before⟩ := Finset.mem_erase.mp before
        exact ⟨before, fun member => kept ((List.mem_cons.mp member).resolve_left different)⟩

namespace PoolState

/-- A connection that the pool counts is idle or held. -/
def Held (state : PoolState) : Prop :=
  ∀ id ∈ state.pool.allConnections, id ∈ state.pool.idleStack ∨
    ∃ request, state.stage request = .holding id

/-- A request that held nothing changes its stage. -/
theorem holding_update {stage : RequestId → AcquireStage} {request other : RequestId}
    {id : ConnectionId} (free : ∀ id, stage request ≠ .holding id) (after : AcquireStage)
    (holding : stage other = .holding id) :
    Function.update stage request after other = .holding id := by
  have different : other ≠ request := fun same => free id (same ▸ holding)
  simpa [different] using holding

/-- The idle connections and the holders stay, and nothing new is counted. -/
theorem Held.mono {state next : PoolState} (held : state.Held)
    (counted : next.pool.allConnections ⊆ state.pool.allConnections)
    (idle : ∀ id ∈ next.pool.allConnections, id ∈ state.pool.idleStack →
      id ∈ next.pool.idleStack ∨ ∃ request, next.stage request = .holding id)
    (holders : ∀ request id, state.stage request = .holding id →
      next.stage request = .holding id) : next.Held := by
  intro id member
  rcases held id (counted member) with before | ⟨request, holding⟩
  · exact idle id member before
  · exact Or.inr ⟨request, holders request id holding⟩

/-- A request that held nothing changes its stage, and the pool keeps its connections. -/
theorem Held.restage {state : PoolState} (held : state.Held) {pool : ConnectionPool}
    (idleStack : pool.idleStack = state.pool.idleStack)
    (allConnections : pool.allConnections = state.pool.allConnections)
    {request : RequestId} (free : ∀ id, state.stage request ≠ .holding id)
    (after : AcquireStage) :
    (({ state with pool := pool } : PoolState).setStage request after).Held :=
  held.mono allConnections.subset (fun _ _ before => Or.inl (idleStack ▸ before))
    fun _ _ holding => holding_update free after holding

theorem Held.notifyLoop {state : PoolState} (held : state.Held) (queue : List RequestId) :
    (PoolState.notifyLoop queue state).Held := by
  induction queue generalizing state with
  | nil => exact held
  | cons head rest ih =>
      unfold PoolState.notifyLoop
      split
      · rename_i waiting
        exact held.restage rfl rfl (by simp [waiting]) .woken
      · exact ih held

theorem Held.takeOrCreate {state : PoolState} (held : state.Held) {request : RequestId}
    (free : ∀ id, state.stage request ≠ .holding id) (readable : ConnectionId → Bool) :
    (state.takeOrCreate request readable).Held := by
  have popped := fun id => @ConnectionPool.popIdle_counted readable state.pool.idleStack
    state.pool id
  unfold PoolState.takeOrCreate ConnectionPool.tryGetIdle
  generalize ConnectionPool.popIdle readable state.pool.idleStack state.pool = outcome at popped
  obtain ⟨taken, pool⟩ := outcome
  cases taken with
  | some id =>
      refine held.mono (fun other counted => (popped other counted).1)
        (fun other counted before => ?_) fun _ _ holding => holding_update free _ holding
      rcases (popped other counted).2 before with idle | taken
      · exact Or.inl idle
      · obtain rfl := Option.some.inj taken
        exact Or.inr ⟨request, by simp [PoolState.setStage]⟩
  | none =>
      have after : ({ state with pool := pool } : PoolState).Held :=
        held.mono (fun other counted => (popped other counted).1)
          (fun other counted before => Or.inl
            (((popped other counted).2 before).resolve_right (by simp))) fun _ _ => id
      dsimp only
      split
      · exact after.restage rfl rfl free .queued
      · exact after.restage rfl rfl free .waiting

/-- What a release leaves on the idle stack or no longer counts. -/
theorem Held.release {state : PoolState} {id : ConnectionId}
    (others : ∀ other ∈ state.pool.allConnections, other ≠ id →
      other ∈ state.pool.idleStack ∨ ∃ request, state.stage request = .holding other)
    (used : (state.pool.connections id).inUse = false → state.Held) :
    (state.release id).Held := by
  unfold PoolState.release
  dsimp only
  split
  · rename_i unused
    exact used (by simpa using unused)
  · split
    · refine Held.notifyLoop ?_ _
      intro other counted
      obtain ⟨different, before⟩ := Finset.mem_erase.mp counted
      exact others other before different
    · refine Held.notifyLoop ?_ _
      intro other counted
      by_cases same : other = id
      · exact Or.inl (same ▸ List.mem_cons_self)
      · rcases others other counted same with idle | holding
        · exact Or.inl (List.mem_cons_of_mem id idle)
        · exact Or.inr holding

/-- Every step of the pool leaves what it counts idle or held. -/
theorem Held.step {limit : Option Nat} {state next : PoolState} (held : state.Held)
    (owned : state.Owned limit) {label : PoolLabel}
    (edge : state.step label = some next) : next.Held := by
  cases label with
  | acquire request readable =>
      simp only [PoolState.step] at edge
      split at edge
      · rename_i outside
        obtain rfl := Option.some.inj edge
        exact held.takeOrCreate (by simp [outside]) readable
      · simp at edge
  | resume request readable =>
      simp only [PoolState.step] at edge
      split at edge
      · rename_i woken
        have free : ∀ id, state.stage request ≠ .holding id := by simp [woken]
        obtain rfl := Option.some.inj edge
        refine Held.takeOrCreate ?_ ?_ readable
        · exact held
        · exact free
      · simp at edge
  | grant request readable =>
      simp only [PoolState.step] at edge
      split at edge
      · rename_i enabled
        have free : ∀ id, state.stage request ≠ .holding id := by simp [enabled.1]
        have popped := fun id => @ConnectionPool.popIdle_counted readable
          state.pool.idleStack state.pool id
        unfold ConnectionPool.tryGetIdle at edge
        generalize ConnectionPool.popIdle readable state.pool.idleStack state.pool =
          outcome at edge popped
        obtain ⟨taken, pool⟩ := outcome
        cases taken with
        | some id =>
            obtain rfl := Option.some.inj edge
            refine held.mono (fun other counted => (popped other counted).1)
              (fun other counted before => ?_)
              fun _ _ holding => holding_update free _ holding
            rcases (popped other counted).2 before with idle | taken
            · exact Or.inl idle
            · obtain rfl := Option.some.inj taken
              exact Or.inr ⟨request, by simp [PoolState.setStage]⟩
        | none =>
            obtain rfl := Option.some.inj edge
            exact held.mono (fun other counted => (popped other counted).1)
              (fun other counted before => Or.inl
                (((popped other counted).2 before).resolve_right (by simp)))
              fun _ _ holding => holding_update free _ holding
      · simp at edge
  | connected request =>
      simp only [PoolState.step] at edge
      split at edge
      · rename_i connecting
        obtain rfl := Option.some.inj edge
        intro id counted
        rcases Finset.mem_insert.mp counted with rfl | before
        · exact Or.inr ⟨request, by simp [PoolState.setStage]⟩
        · rcases held id before with idle | ⟨other, holding⟩
          · exact Or.inl idle
          · exact Or.inr ⟨other, holding_update (by simp [connecting]) _ holding⟩
      · simp at edge
  | connectFailed request =>
      simp only [PoolState.step] at edge
      split at edge
      · rename_i connecting
        obtain rfl := Option.some.inj edge
        exact held.restage rfl rfl (by simp [connecting]) .outside
      · simp at edge
  | cancel request =>
      simp only [PoolState.step] at edge
      split at edge
      · rename_i waiting
        obtain rfl := Option.some.inj edge
        exact held.restage rfl rfl (by simp [waiting]) .cancelled
      · rename_i woken
        obtain rfl := Option.some.inj edge
        exact held.restage rfl rfl (by simp [woken]) .cancelled
      · rename_i queued
        obtain rfl := Option.some.inj edge
        exact held.restage rfl rfl (by simp [queued]) .outside
      · rename_i connecting
        obtain rfl := Option.some.inj edge
        exact held.restage rfl rfl (by simp [connecting]) .outside
      · simp at edge
  | unwind request =>
      simp only [PoolState.step] at edge
      split at edge
      · rename_i cancelled
        obtain rfl := Option.some.inj edge
        exact held.restage rfl rfl (by simp [cancelled]) .outside
      · simp at edge
  | release request =>
      simp only [PoolState.step] at edge
      split at edge
      · rename_i id holding
        obtain rfl := Option.some.inj edge
        refine Held.release (fun other counted different => ?_) fun unused => ?_
        · rcases held other counted with idle | ⟨holder, holds⟩
          · exact Or.inl idle
          · refine Or.inr ⟨holder, ?_⟩
            have another : holder ≠ request := by
              rintro rfl
              rw [holding] at holds
              exact different (AcquireStage.holding.inj holds).symm
            simpa [PoolState.setStage, another] using holds
        · have inUse := owned.heldUsed request id holding
          rw [show (state.pool.connections id).inUse = false from unused] at inUse
          simp at inUse
      · simp at edge
  | releaseAgain request =>
      simp only [PoolState.step] at edge
      split at edge
      · split at edge
        · simp at edge
        · obtain rfl := Option.some.inj edge
          exact Held.release (fun other counted _ => held other counted) fun _ => held
      · simp at edge
  | close =>
      obtain rfl := Option.some.inj edge
      exact fun id counted => absurd counted (by simp [PoolState.close])
  | network id event =>
      obtain rfl := Option.some.inj edge
      exact held
  | tick now =>
      obtain rfl := Option.some.inj edge
      exact held

/-! ## Who is engaged -/

theorem notifyLoop_engaged (queue : List RequestId) (state : PoolState) (other : RequestId) :
    ((notifyLoop queue state).stage other).engaged = (state.stage other).engaged := by
  induction queue generalizing state with
  | nil => rfl
  | cons head rest ih =>
      unfold notifyLoop
      split
      · rename_i waiting
        by_cases same : other = head
        · subst same
          simp [PoolState.setStage, waiting, AcquireStage.engaged, AcquireStage.acquiring]
        · simp [PoolState.setStage, same]
      · exact ih state

theorem release_engaged (state : PoolState) (id : ConnectionId) (other : RequestId) :
    ((state.release id).stage other).engaged = (state.stage other).engaged := by
  unfold release
  dsimp only
  split
  · rfl
  · split
    · exact notifyLoop_engaged _ _ other
    · exact notifyLoop_engaged _ _ other

/-- Taking a connection, or reserving a slot, or queueing changes one request only. -/
theorem takeOrCreate_stage (state : PoolState) (request : RequestId)
    (readable : ConnectionId → Bool) {other : RequestId} (different : other ≠ request) :
    (state.takeOrCreate request readable).stage other = state.stage other := by
  unfold takeOrCreate
  split
  · simp [PoolState.setStage, different]
  · split <;> simp [PoolState.setStage, different]

/-- Only an acquisition engages a request. -/
theorem engaged_step {state next : PoolState} {label : PoolLabel}
    (edge : state.step label = some next) {other : RequestId}
    (engaged : (next.stage other).engaged = true) :
    (state.stage other).engaged = true ∨ ∃ readable, label = .acquire other readable := by
  have updated : ∀ {pool : ConnectionPool} {request : RequestId} {after : AcquireStage},
      (state.stage request).engaged = true →
      ((({ state with pool := pool } : PoolState).setStage request after).stage
        other).engaged = true → (state.stage other).engaged = true := by
    intro pool request after before engaged
    by_cases same : other = request
    · exact same ▸ before
    · simpa [PoolState.setStage, same] using engaged
  cases label with
  | acquire request readable =>
      simp only [PoolState.step] at edge
      split at edge
      · obtain rfl := Option.some.inj edge
        by_cases same : other = request
        · exact Or.inr ⟨readable, by rw [same]⟩
        · rw [takeOrCreate_stage _ _ _ same] at engaged
          exact Or.inl engaged
      · simp at edge
  | resume request readable =>
      simp only [PoolState.step] at edge
      split at edge
      · rename_i woken
        obtain rfl := Option.some.inj edge
        by_cases same : other = request
        · left
          simp [same, woken, AcquireStage.engaged, AcquireStage.acquiring]
        · rw [takeOrCreate_stage _ _ _ same] at engaged
          exact Or.inl engaged
      · simp at edge
  | grant request readable =>
      simp only [PoolState.step] at edge
      split at edge
      · rename_i enabled
        have before : (state.stage request).engaged = true := by
          simp [enabled.1, AcquireStage.engaged, AcquireStage.acquiring]
        split at edge
        · obtain rfl := Option.some.inj edge
          exact Or.inl (updated before engaged)
        · obtain rfl := Option.some.inj edge
          exact Or.inl (updated before engaged)
      · simp at edge
  | connected request =>
      simp only [PoolState.step] at edge
      split at edge
      · rename_i connecting
        obtain rfl := Option.some.inj edge
        exact Or.inl (updated
          (by simp [connecting, AcquireStage.engaged, AcquireStage.acquiring]) engaged)
      · simp at edge
  | connectFailed request =>
      simp only [PoolState.step] at edge
      split at edge
      · rename_i connecting
        obtain rfl := Option.some.inj edge
        exact Or.inl (updated
          (by simp [connecting, AcquireStage.engaged, AcquireStage.acquiring]) engaged)
      · simp at edge
  | cancel request =>
      simp only [PoolState.step] at edge
      split at edge
      all_goals first
        | (rename_i stage
           obtain rfl := Option.some.inj edge
           exact Or.inl (updated
             (by simp [stage, AcquireStage.engaged, AcquireStage.acquiring]) engaged))
        | simp at edge
  | unwind request =>
      simp only [PoolState.step] at edge
      split at edge
      · rename_i cancelled
        obtain rfl := Option.some.inj edge
        exact Or.inl (updated
          (by simp [cancelled, AcquireStage.engaged, AcquireStage.acquiring]) engaged)
      · simp at edge
  | release request =>
      simp only [PoolState.step] at edge
      split at edge
      · rename_i id holding
        obtain rfl := Option.some.inj edge
        rw [release_engaged] at engaged
        exact Or.inl (updated (by simp [holding, AcquireStage.engaged]) engaged)
      · simp at edge
  | releaseAgain request =>
      simp only [PoolState.step] at edge
      split at edge
      · split at edge
        · simp at edge
        · obtain rfl := Option.some.inj edge
          rw [release_engaged] at engaged
          exact Or.inl engaged
      · simp at edge
  | close =>
      obtain rfl := Option.some.inj edge
      left
      simp only [PoolState.close] at engaged
      split at engaged
      · rename_i waiting
        simp [waiting.2, AcquireStage.engaged, AcquireStage.acquiring]
      · exact engaged
  | network id event =>
      obtain rfl := Option.some.inj edge
      exact Or.inl engaged
  | tick now =>
      obtain rfl := Option.some.inj edge
      exact Or.inl engaged

/-- A request that released its connection is not engaged. -/
theorem engaged_release {state next : PoolState} {request : RequestId}
    (edge : state.step (.release request) = some next) :
    (next.stage request).engaged = false := by
  simp only [PoolState.step] at edge
  split at edge
  · obtain rfl := Option.some.inj edge
    rw [release_engaged]
    simp [PoolState.setStage, AcquireStage.engaged, AcquireStage.acquiring]
  · simp at edge

end PoolState

namespace ConnectionUse

/-! ## Every engaged request is in progress -/

/-- What the pool counts is idle or held, and who is engaged is in progress. -/
structure Kept (limit : Option Nat) (use : ConnectionUse) : Prop where
  owned : use.state.Owned limit
  held : use.state.Held
  busy : ∀ request, (use.state.stage request).engaged = true →
    (use.phase request).busy = true
  firing : ∀ request, use.loop = .firing request → use.phase request = .firing

theorem Kept.accounted {limit : Option Nat} {use : ConnectionUse} (kept : use.Kept limit) :
    use.Accounted := by
  intro id counted
  rcases kept.held id counted with idle | ⟨request, holding⟩
  · exact Or.inl idle
  · exact Or.inr ⟨request, holding,
      kept.busy request (by simp [holding, AcquireStage.engaged])⟩

/-- A step of the pool for a request in progress. -/
theorem Kept.poolStep {limit : Option Nat} {use next : ConnectionUse} (kept : use.Kept limit)
    {label : PoolLabel}
    (acquirer : ∀ request readable, label = .acquire request readable →
      (use.phase request).busy = true)
    (edge : use.poolStep label = some next) : next.Kept limit := by
  obtain ⟨state, stepped, rfl⟩ := Option.map_eq_some_iff.mp edge
  refine ⟨kept.owned.step stepped, kept.held.step kept.owned stepped,
    fun request engaged => ?_, kept.firing⟩
  rcases PoolState.engaged_step stepped engaged with before | ⟨readable, acquires⟩
  · exact kept.busy request before
  · exact acquirer request readable acquires

/-- A request changes to a phase in progress, or it is not engaged. -/
theorem Kept.setPhase {limit : Option Nat} {use : ConnectionUse} (kept : use.Kept limit)
    {request : RequestId} {phase : UsePhase}
    (busy : phase.busy = true ∨ (use.state.stage request).engaged = false)
    (loop : UseLoop)
    (firing : ∀ other, loop = .firing other →
      Function.update use.phase request phase other = .firing) :
    ({ use.setPhase request phase with loop := loop } : ConnectionUse).Kept limit := by
  refine ⟨kept.owned, kept.held, fun other engaged => ?_, firing⟩
  by_cases same : other = request
  · subst same
    simp only [ConnectionUse.setPhase, Function.update_self]
    exact busy.resolve_right (by simpa [ConnectionUse.setPhase] using engaged)
  · simp only [ConnectionUse.setPhase, Function.update_of_ne same]
    exact kept.busy other engaged

/-- What a step of the pool leaves alone. -/
theorem poolStep_frame {use next : ConnectionUse} {label : PoolLabel}
    (edge : use.poolStep label = some next) :
    next.phase = use.phase ∧ next.loop = use.loop := by
  obtain ⟨state, _, rfl⟩ := Option.map_eq_some_iff.mp edge
  exact ⟨rfl, rfl⟩

/-- Giving the connection back, once or twice, disengages the request. -/
theorem Kept.giveBack {limit : Option Nat} {use next : ConnectionUse} (kept : use.Kept limit)
    {request : RequestId} {early : Bool} (edge : use.giveBack request early = some next) :
    next.Kept limit ∧ next.phase = use.phase ∧ next.loop = use.loop ∧
      (next.state.stage request).engaged = false := by
  obtain ⟨released, first, second⟩ := Option.bind_eq_some_iff.mp edge
  have once := kept.poolStep (by nofun) first
  obtain ⟨phase, loop⟩ := poolStep_frame first
  have disengaged : (released.state.stage request).engaged = false := by
    obtain ⟨state, stepped, rfl⟩ := Option.map_eq_some_iff.mp first
    exact PoolState.engaged_release stepped
  cases early with
  | false =>
      obtain rfl := Option.some.inj second
      exact ⟨once, phase, loop, disengaged⟩
  | true =>
      have again : released.poolStep (.releaseAgain request) = some next := second
      obtain ⟨phase', loop'⟩ := poolStep_frame again
      refine ⟨once.poolStep (by nofun) again, phase'.trans phase, loop'.trans loop, ?_⟩
      obtain ⟨state, stepped, rfl⟩ := Option.map_eq_some_iff.mp again
      by_contra engaged
      rcases PoolState.engaged_step stepped (by simpa using engaged) with before | ⟨_, other⟩
      · rw [disengaged] at before
        simp at before
      · simp at other

/-- A request that is not being fired ends. -/
theorem Kept.ended {limit : Option Nat} {use : ConnectionUse} (kept : use.Kept limit)
    {request : RequestId} (disengaged : (use.state.stage request).engaged = false)
    (elsewhere : use.phase request ≠ .firing) : (use.setPhase request .ended).Kept limit := by
  refine kept.setPhase (Or.inr disengaged) use.loop fun other firing => ?_
  have before := kept.firing other firing
  have different : other ≠ request := fun same => elsewhere (same ▸ before)
  simpa [different] using before

theorem Kept.leave {limit : Option Nat} {use : ConnectionUse} (kept : use.Kept limit)
    (request : RequestId) {loop : UseLoop} (idle : ∀ other, loop ≠ .firing other) :
    (use.leave request loop).Kept limit := by
  unfold ConnectionUse.leave
  split
  · rename_i outside
    refine kept.setPhase (Or.inr (by rw [outside]; rfl)) _ fun other firing => ?_
    split at firing
    · exact absurd firing (idle other)
    · rename_i elsewhere
      have different : other ≠ request := fun same => elsewhere (same ▸ firing)
      simpa [different] using kept.firing other firing
  · exact kept

/-- Every step that gives connections back keeps the accounting. -/
theorem Kept.step {limit : Option Nat} {use next : ConnectionUse} (kept : use.Kept limit)
    {label : UseLabel} (gives : use.GivesBack label) (edge : use.step label = some next) :
    next.Kept limit := by
  cases label with
  | warm request readable =>
      simp only [ConnectionUse.step] at edge
      split at edge
      · rename_i enabled
        have begun : ({ use.setPhase request .warming with
            loop := use.loop } : ConnectionUse).Kept limit :=
          kept.setPhase (Or.inl rfl) use.loop fun other firing => by simp [enabled.1] at firing
        have listed : ({ use.setPhase request .warming with
            warmers := use.warmers ++ [request] } : ConnectionUse).Kept limit :=
          ⟨begun.owned, begun.held, begun.busy, begun.firing⟩
        refine listed.poolStep (fun other _ acquires => ?_) edge
        obtain ⟨rfl, -⟩ := PoolLabel.acquire.inj acquires
        simp [ConnectionUse.setPhase, UsePhase.busy]
      · simp at edge
  | warmRelease request =>
      simp only [ConnectionUse.step] at edge
      split at edge
      · rename_i enabled
        obtain ⟨released, gave, rfl⟩ := Option.map_eq_some_iff.mp edge
        obtain ⟨after, phase, -, disengaged⟩ := kept.giveBack gave
        exact after.ended disengaged (by rw [phase, enabled.2.1]; nofun)
      · simp at edge
  | begin =>
      simp only [ConnectionUse.step] at edge
      split at edge
      · obtain rfl := Option.some.inj edge
        exact ⟨kept.owned, kept.held, kept.busy, nofun⟩
      · simp at edge
  | fire request readable =>
      simp only [ConnectionUse.step] at edge
      split at edge
      · have begun : ({ use.setPhase request .firing with
            loop := .firing request } : ConnectionUse).Kept limit :=
          kept.setPhase (Or.inl rfl) (.firing request) fun other firing => by
            obtain rfl := UseLoop.firing.inj firing
            simp
        refine begun.poolStep (fun other _ acquires => ?_) edge
        obtain ⟨rfl, -⟩ := PoolLabel.acquire.inj acquires
        simp [ConnectionUse.setPhase, UsePhase.busy]
      · simp at edge
  | resume request readable => exact kept.poolStep (by nofun) edge
  | grant request readable => exact kept.poolStep (by nofun) edge
  | connected request => exact kept.poolStep (by nofun) edge
  | connectFailed request =>
      obtain ⟨failed, stepped, rfl⟩ := Option.map_eq_some_iff.mp edge
      exact (kept.poolStep (by nofun) stepped).leave request nofun
  | cancel request =>
      obtain ⟨cancelled, stepped, rfl⟩ := Option.map_eq_some_iff.mp edge
      exact (kept.poolStep (by nofun) stepped).leave request nofun
  | unwind request =>
      obtain ⟨unwound, stepped, rfl⟩ := Option.map_eq_some_iff.mp edge
      exact (kept.poolStep (by nofun) stepped).leave request nofun
  | write written =>
      obtain rfl : written = true := gives
      simp only [ConnectionUse.step] at edge
      split at edge
      · split at edge
        · obtain rfl := Option.some.inj edge
          exact kept.setPhase (Or.inl rfl) .receiving nofun
        · simp at edge
      · simp at edge
  | start request =>
      simp only [ConnectionUse.step] at edge
      split at edge
      · rename_i fired
        obtain rfl := Option.some.inj edge
        refine kept.setPhase (Or.inl rfl) use.loop fun other firing => ?_
        have before := kept.firing other firing
        have different : other ≠ request := by
          rintro rfl
          simp [fired] at before
        simpa [different] using before
      · simp at edge
  | finish request ending =>
      simp only [ConnectionUse.step] at edge
      split at edge
      · rename_i processing
        obtain ⟨released, gave, rfl⟩ := Option.map_eq_some_iff.mp edge
        obtain ⟨after, phase, -, disengaged⟩ := kept.giveBack gave
        exact after.ended disengaged (by rw [phase, processing]; nofun)
      · simp at edge
  | stop =>
      simp only [ConnectionUse.step] at edge
      split at edge
      · obtain rfl := Option.some.inj edge
        exact ⟨kept.owned, kept.held, kept.busy, nofun⟩
      · simp at edge
  | drop request => exact absurd gives (by simp [GivesBack])
  | close =>
      simp only [ConnectionUse.step] at edge
      split at edge
      · exact kept.poolStep (by nofun) edge
      · simp at edge
  | network id event => exact kept.poolStep (by nofun) edge
  | tick now => exact kept.poolStep (by nofun) edge

theorem initial_kept (maxConnections : Option Nat) (maxIdleTime : ℚ)
    (connectLimiter : Nat) :
    (ConnectionUse.initial maxConnections maxIdleTime connectLimiter).Kept maxConnections where
  owned := PoolState.initial_owned maxConnections maxIdleTime connectLimiter
  held := nofun
  busy := nofun
  firing := nofun

end ConnectionUse

/-- In a run in which every write succeeds and no task is cancelled before its first step,
each connection that the pool counts is idle or held by a request in progress. -/
theorem connections_accounted (maxConnections : Option Nat) (maxIdleTime : ℚ)
    (connectLimiter : Nat) {labels : List UseLabel} {use : ConnectionUse}
    (run : GuardedRuns.run ConnectionUse.step
      (ConnectionUse.initial maxConnections maxIdleTime connectLimiter) labels = some use)
    (gives : GuardedRuns.Meets ConnectionUse.step ConnectionUse.GivesBack
      (ConnectionUse.initial maxConnections maxIdleTime connectLimiter) labels) :
    use.Accounted := by
  have kept : use.Kept maxConnections := GuardedRuns.invariant_of_meets
    (fun _ _ _ kept guard edge => ConnectionUse.Kept.step kept guard edge)
    (ConnectionUse.initial_kept maxConnections maxIdleTime connectLimiter) gives run
  exact kept.accounted

/-- A connection is used by a request whose response cannot be decoded. -/
theorem connections_accounted_decodeRaised :
    ∃ use : ConnectionUse, use.state.pool.allConnections = {0} ∧
      use.state.pool.idleStack = [0] ∧ use.Accounted := by
  have run : GuardedRuns.run ConnectionUse.step (ConnectionUse.initial (some 1) 4 128)
      [.begin, .fire 1 fun _ => false, .grant 1 fun _ => false, .connected 1, .write true,
        .start 1, .finish 1 .decodeRaised] = some _ := rfl
  exact ⟨_, by decide, by decide, connections_accounted (some 1) 4 128 run
    (GuardedRuns.meets_of_forall_mem (by simp [ConnectionUse.GivesBack]) _)⟩

/-- Writing raises, and the connection stays counted with nobody to release it. -/
theorem connection_leaks_writeRaised :
    ∃ use, GuardedRuns.run ConnectionUse.step (ConnectionUse.initial (some 1) 4 128)
      [.begin, .fire 0 fun _ => false, .grant 0 fun _ => false, .connected 0, .write false] =
        some use ∧ ¬ use.Accounted := by
  refine ⟨_, rfl, fun accounted => ?_⟩
  rcases accounted 0 (by decide) with idle | ⟨request, holding, busy⟩
  · exact absurd idle (by decide)
  · match request with
    | 0 => exact absurd busy (by decide)
    | _ + 1 => exact AcquireStage.noConfusion holding

end InferenceEndpoint
