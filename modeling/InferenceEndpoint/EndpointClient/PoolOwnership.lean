import InferenceEndpoint.EndpointClient.ConnectionPool
import InferenceEndpoint.Library.GuardedRuns

/-!
# Ownership of pooled connections

Whatever the order in which connections are acquired, released, made, lost and
closed, the pool stays within its limit, the idle stack holds distinct
connections that nobody uses, and no connection has two users.
-/

namespace InferenceEndpoint

/-! ## Popping idle connections -/

/-- What popping idle connections does to a pool whose stack was given. -/
structure Popped (stack : List ConnectionId) (pool : ConnectionPool)
    (taken : Option ConnectionId) (next : ConnectionPool) : Prop where
  idle : next.idleStack.Sublist stack
  tracked : next.allConnections ⊆ pool.allConnections
  stillTracked : ∀ id ∈ next.idleStack, id ∈ pool.allConnections →
    id ∈ next.allConnections
  idleKept : ∀ id ∈ next.idleStack, next.connections id = pool.connections id
  used : ∀ id, (pool.connections id).inUse = true →
    (next.connections id).inUse = true
  taken : ∀ id, taken = some id →
    id ∈ stack ∧ id ∉ next.idleStack ∧ (next.connections id).inUse = true
  opened : ∀ id, (next.connections id).closing = false →
    (pool.connections id).closing = false ∧
      (id ∈ pool.allConnections → id ∈ next.allConnections)
  maxConnections : next.maxConnections = pool.maxConnections
  creating : next.creating = pool.creating
  nextConnection : next.nextConnection = pool.nextConnection

theorem popped_popIdle (readable : ConnectionId → Bool) (stack : List ConnectionId)
    (nodup : stack.Nodup) (pool : ConnectionPool) :
    Popped stack pool (ConnectionPool.popIdle readable stack pool).1
      (ConnectionPool.popIdle readable stack pool).2 := by
  induction stack generalizing pool with
  | nil =>
      exact ⟨.slnil, fun _ => id, fun _ _ => id, fun _ _ => rfl, fun _ => id, nofun,
        fun _ opened => ⟨opened, id⟩, rfl, rfl, rfl⟩
  | cons head rest ih =>
      obtain ⟨absent, nodup⟩ := List.nodup_cons.mp nodup
      unfold ConnectionPool.popIdle
      split
      · refine ⟨List.sublist_cons_self head rest, fun _ => id, fun _ _ => id, ?_, ?_, ?_,
          ?_, rfl, rfl, rfl⟩
        · intro id member
          have different : id ≠ head := fun same => absent (same ▸ member)
          simp [ConnectionPool.checkOut, ConnectionPool.setConnection, different]
        · intro id used
          by_cases same : id = head
          · simp [ConnectionPool.checkOut, ConnectionPool.setConnection, same]
          · simpa [ConnectionPool.checkOut, ConnectionPool.setConnection, same] using used
        · rintro id ⟨⟩
          exact ⟨List.mem_cons_self, absent,
            by simp [ConnectionPool.checkOut, ConnectionPool.setConnection]⟩
        · intro id opened
          refine ⟨?_, fun tracked => tracked⟩
          by_cases same : id = head
          · subst same
            simpa [ConnectionPool.checkOut, ConnectionPool.setConnection] using opened
          · simpa [ConnectionPool.checkOut, ConnectionPool.setConnection, same]
              using opened
      · have popped := ih nodup (pool.closeConnection head)
        have keptBelow : ∀ id ∈ rest, (pool.closeConnection head).connections id =
            pool.connections id := by
          intro id member
          have different : id ≠ head := fun same => absent (same ▸ member)
          simp [ConnectionPool.closeConnection, ConnectionPool.setConnection, different]
        refine ⟨popped.idle.trans (List.sublist_cons_self head rest), ?_, ?_, ?_, ?_, ?_,
          ?_, popped.maxConnections, popped.creating, popped.nextConnection⟩
        · exact popped.tracked.trans (Finset.erase_subset _ _)
        · intro id member tracked
          have below := popped.idle.subset member
          have different : id ≠ head := fun same => absent (same ▸ below)
          exact popped.stillTracked id member
            (Finset.mem_erase.mpr ⟨different, tracked⟩)
        · intro id member
          rw [popped.idleKept id member, keptBelow id (popped.idle.subset member)]
        · intro id used
          apply popped.used id
          by_cases same : id = head
          · subst same
            simpa [ConnectionPool.closeConnection, ConnectionPool.setConnection] using used
          · simpa [ConnectionPool.closeConnection, ConnectionPool.setConnection, same]
              using used
        · intro id taken
          obtain ⟨member, rest⟩ := popped.taken id taken
          exact ⟨List.mem_cons_of_mem _ member, rest⟩
        · intro id opened
          obtain ⟨before, tracked⟩ := popped.opened id opened
          by_cases same : id = head
          · subst same
            simp [ConnectionPool.closeConnection, ConnectionPool.setConnection] at before
          · have before : (pool.connections id).closing = false := by
              simpa [ConnectionPool.closeConnection, ConnectionPool.setConnection, same]
                using before
            exact ⟨before, fun member =>
              tracked (Finset.mem_erase.mpr ⟨same, member⟩)⟩

/-! ## Reserved slots -/

/-- `_creating` counts the requests that have reserved a slot. -/
def Reserved (creating : Nat) (stage : RequestId → AcquireStage) : Prop :=
  ∃ requests : Finset RequestId,
    (∀ request, request ∈ requests ↔ (stage request).reserves = true) ∧
      requests.card = creating

namespace Reserved

variable {creating : Nat} {stage : RequestId → AcquireStage}

theorem congr {other : RequestId → AcquireStage} (reserved : Reserved creating stage)
    (same : ∀ request, (other request).reserves = (stage request).reserves) :
    Reserved creating other := by
  obtain ⟨requests, members, card⟩ := reserved
  exact ⟨requests, fun request => by rw [members, same], card⟩

/-- A request that reserves as much as before. -/
theorem update (reserved : Reserved creating stage) {request : RequestId}
    {after : AcquireStage} (same : after.reserves = (stage request).reserves) :
    Reserved creating (Function.update stage request after) := by
  refine reserved.congr fun other => ?_
  by_cases equal : other = request
  · subst equal; simp [same]
  · simp [equal]

theorem add (reserved : Reserved creating stage) {request : RequestId}
    {after : AcquireStage} (before : (stage request).reserves = false)
    (reserves : after.reserves = true) :
    Reserved (creating + 1) (Function.update stage request after) := by
  obtain ⟨requests, members, card⟩ := reserved
  have absent : request ∉ requests := by simp [members, before]
  refine ⟨insert request requests, fun other => ?_, by
    rw [Finset.card_insert_of_notMem absent, card]⟩
  by_cases equal : other = request
  · subst equal; simp [reserves]
  · simp [equal, members]

theorem remove (reserved : Reserved creating stage) (request : RequestId)
    (after : AcquireStage) (before : (stage request).reserves = true)
    (reserves : after.reserves = false) :
    0 < creating ∧ Reserved (creating - 1) (Function.update stage request after) := by
  obtain ⟨requests, members, card⟩ := reserved
  have present : request ∈ requests := (members request).mpr before
  refine ⟨card ▸ Finset.card_pos.mpr ⟨request, present⟩, requests.erase request,
    fun other => ?_, by rw [Finset.card_erase_of_mem present, card]⟩
  by_cases equal : other = request
  · subst equal; simp [reserves]
  · simp [equal, members]

end Reserved

/-! ## The invariant -/

/-- Idle connections are tracked, distinct and unused, and a held connection
has one holder. -/
structure PoolState.Owned (limit : Option Nat) (state : PoolState) : Prop where
  configured : state.pool.maxConnections = limit
  idleNodup : state.pool.idleStack.Nodup
  idleTracked : ∀ id ∈ state.pool.idleStack, id ∈ state.pool.allConnections
  idleUnused : ∀ id ∈ state.pool.idleStack,
    (state.pool.connections id).inUse = false
  heldUsed : ∀ request id, state.stage request = .holding id →
    (state.pool.connections id).inUse = true
  heldOnce : ∀ first second id, state.stage first = .holding id →
    state.stage second = .holding id → first = second
  heldDrawn : ∀ request id, state.stage request = .holding id →
    id < state.pool.nextConnection
  trackedDrawn : ∀ id ∈ state.pool.allConnections, id < state.pool.nextConnection
  openTracked : ∀ id < state.pool.nextConnection,
    (state.pool.connections id).closing = false → id ∈ state.pool.allConnections
  reserved : Reserved state.pool.creating state.stage
  bounded : ∀ maxConnections, limit = some maxConnections →
    state.pool.allConnections.card + state.pool.creating ≤ maxConnections

namespace PoolState.Owned

variable {limit : Option Nat} {state : PoolState}

theorem idle_not_held (owned : state.Owned limit) {id : ConnectionId}
    (idle : id ∈ state.pool.idleStack) (request : RequestId) :
    state.stage request ≠ .holding id := by
  intro holding
  have unused := owned.idleUnused id idle
  rw [owned.heldUsed request id holding] at unused
  simp at unused

/-- A request that neither holds nor reserves changes its stage, and the
fields that ownership does not read change. -/
theorem restage (owned : state.Owned limit) {next : PoolState}
    (idleStack : next.pool.idleStack = state.pool.idleStack)
    (allConnections : next.pool.allConnections = state.pool.allConnections)
    (inUse : ∀ id, (next.pool.connections id).inUse =
      (state.pool.connections id).inUse)
    (closing : ∀ id, (next.pool.connections id).closing =
      (state.pool.connections id).closing)
    (maxConnections : next.pool.maxConnections = state.pool.maxConnections)
    (creating : next.pool.creating = state.pool.creating)
    (nextConnection : next.pool.nextConnection = state.pool.nextConnection)
    (holding : ∀ request id, next.stage request = .holding id →
      state.stage request = .holding id)
    (reserves : ∀ request, (next.stage request).reserves =
      (state.stage request).reserves) : next.Owned limit where
  configured := maxConnections.trans owned.configured
  idleNodup := by rw [idleStack]; exact owned.idleNodup
  idleTracked := by rw [idleStack, allConnections]; exact owned.idleTracked
  idleUnused := by
    rw [idleStack]
    exact fun id member => (inUse id).trans (owned.idleUnused id member)
  heldUsed request id held :=
    (inUse id).trans (owned.heldUsed request id (holding request id held))
  heldOnce first second id one two :=
    owned.heldOnce first second id (holding first id one) (holding second id two)
  heldDrawn request id held := by
    rw [nextConnection]
    exact owned.heldDrawn request id (holding request id held)
  trackedDrawn := by rw [allConnections, nextConnection]; exact owned.trackedDrawn
  openTracked := by
    rw [allConnections, nextConnection]
    exact fun id drawn opened => owned.openTracked id drawn ((closing id).symm.trans opened)
  reserved := by rw [creating]; exact owned.reserved.congr reserves
  bounded := by rw [allConnections, creating]; exact owned.bounded

/-- One request moves between stages that neither hold nor reserve. -/
theorem setStage (owned : state.Owned limit) {request : RequestId} {after : AcquireStage}
    (free : ∀ id, after ≠ .holding id)
    (reserves : after.reserves = (state.stage request).reserves) :
    (state.setStage request after).Owned limit := by
  refine owned.restage rfl rfl (fun _ => rfl) (fun _ => rfl) rfl rfl rfl ?_ ?_
  · intro other id held
    by_cases same : other = request
    · subst same
      simp only [PoolState.setStage, Function.update_self] at held
      exact absurd held (free id)
    · simpa [PoolState.setStage, same] using held
  · intro other
    by_cases same : other = request
    · subst same
      simp [PoolState.setStage, reserves]
    · simp [PoolState.setStage, same]

theorem notifyLoop (queue : List RequestId) (owned : state.Owned limit) :
    (PoolState.notifyLoop queue state).Owned limit := by
  induction queue generalizing state with
  | nil =>
      exact owned.restage rfl rfl (fun _ => rfl) (fun _ => rfl) rfl rfl rfl (fun _ _ => id) fun _ => rfl
  | cons head rest ih =>
      unfold PoolState.notifyLoop
      split
      · rename_i waiting
        have woken : (state.setStage head .woken).Owned limit :=
          owned.setStage nofun (by rw [waiting]; rfl)
        exact woken.restage rfl rfl (fun _ => rfl) (fun _ => rfl) rfl rfl rfl (fun _ _ => id) fun _ => rfl
      · exact ih owned

theorem notifyWaiter (owned : state.Owned limit) : state.notifyWaiter.Owned limit :=
  owned.notifyLoop _

/-- Closing a connection keeps the ownership of the others. -/
theorem closeConnection (owned : state.Owned limit) {id : ConnectionId}
    (notIdle : id ∉ state.pool.idleStack) :
    ({ state with pool := state.pool.closeConnection id } : PoolState).Owned limit := by
  have inUse : ∀ other, ((state.pool.closeConnection id).connections other).inUse =
      (state.pool.connections other).inUse := by
    intro other
    by_cases same : other = id
    · subst same; simp [ConnectionPool.closeConnection, ConnectionPool.setConnection]
    · simp [ConnectionPool.closeConnection, ConnectionPool.setConnection, same]
  exact
    { configured := owned.configured
      idleNodup := owned.idleNodup
      idleTracked := fun other idle => Finset.mem_erase.mpr
        ⟨fun same => notIdle (same ▸ idle), owned.idleTracked other idle⟩
      idleUnused := fun other idle => (inUse other).trans (owned.idleUnused other idle)
      heldUsed := fun request other held =>
        (inUse other).trans (owned.heldUsed request other held)
      heldOnce := owned.heldOnce
      heldDrawn := owned.heldDrawn
      trackedDrawn := fun other tracked =>
        owned.trackedDrawn other (Finset.mem_of_mem_erase tracked)
      openTracked := fun other drawn opened => by
        by_cases same : other = id
        · subst same
          simp [ConnectionPool.closeConnection, ConnectionPool.setConnection] at opened
        · have opened : (state.pool.connections other).closing = false := by
            simpa [ConnectionPool.closeConnection, ConnectionPool.setConnection, same]
              using opened
          exact Finset.mem_erase.mpr ⟨same, owned.openTracked other drawn opened⟩
      reserved := owned.reserved
      bounded := fun maxConnections equal =>
        (Nat.add_le_add_right (Finset.card_le_card (Finset.erase_subset _ _)) _).trans
          (owned.bounded maxConnections equal) }

/-- Popping idle connections keeps ownership; the one taken has no user yet. -/
theorem popped (owned : state.Owned limit) {taken : Option ConnectionId}
    {next : ConnectionPool} (popped : Popped state.pool.idleStack state.pool taken next) :
    ({ state with pool := next } : PoolState).Owned limit where
  configured := popped.maxConnections.trans owned.configured
  idleNodup := owned.idleNodup.sublist popped.idle
  idleTracked id idle :=
    popped.stillTracked id idle (owned.idleTracked id (popped.idle.subset idle))
  idleUnused id idle := by
    change (next.connections id).inUse = false
    rw [popped.idleKept id idle]
    exact owned.idleUnused id (popped.idle.subset idle)
  heldUsed request id held := popped.used id (owned.heldUsed request id held)
  heldOnce := owned.heldOnce
  heldDrawn request id held := by
    change id < next.nextConnection
    rw [popped.nextConnection]
    exact owned.heldDrawn request id held
  trackedDrawn id tracked := by
    change id < next.nextConnection
    rw [popped.nextConnection]
    exact owned.trackedDrawn id (popped.tracked tracked)
  openTracked id drawn opened := by
    obtain ⟨before, tracked⟩ := popped.opened id opened
    have drawn : id < next.nextConnection := drawn
    rw [popped.nextConnection] at drawn
    exact tracked (owned.openTracked id drawn before)
  reserved := by
    change Reserved next.creating state.stage
    rw [popped.creating]
    exact owned.reserved
  bounded := by
    change ∀ maxConnections, limit = some maxConnections →
      next.allConnections.card + next.creating ≤ maxConnections
    rw [popped.creating]
    exact fun maxConnections equal =>
      (Nat.add_le_add_right (Finset.card_le_card popped.tracked) _).trans
        (owned.bounded maxConnections equal)

/-- A request that held nothing takes a connection without a user. -/
theorem hold (owned : state.Owned limit) (request : RequestId) {id : ConnectionId}
    (notIdle : id ∉ state.pool.idleStack)
    (inUse : (state.pool.connections id).inUse = true)
    (free : ∀ other, state.stage other ≠ .holding id)
    (drawn : id < state.pool.nextConnection)
    (before : (state.stage request).reserves = false) :
    (state.setStage request (.holding id)).Owned limit := by
  have holders : ∀ other held, (state.setStage request (.holding id)).stage other =
      .holding held → other = request ∧ held = id ∨
        other ≠ request ∧ state.stage other = .holding held := by
    intro other held holding
    by_cases same : other = request
    · subst same
      simp only [PoolState.setStage, Function.update_self,
        AcquireStage.holding.injEq] at holding
      exact Or.inl ⟨rfl, holding.symm⟩
    · exact Or.inr ⟨same, by simpa [PoolState.setStage, same] using holding⟩
  exact
    { configured := owned.configured
      idleNodup := owned.idleNodup
      idleTracked := owned.idleTracked
      idleUnused := owned.idleUnused
      heldUsed := fun other held holding => by
        rcases holders other held holding with ⟨_, rfl⟩ | ⟨_, before⟩
        · exact inUse
        · exact owned.heldUsed other held before
      heldOnce := fun first second held one two => by
        rcases holders first held one with ⟨rfl, rfl⟩ | ⟨_, firstBefore⟩
        · rcases holders second held two with ⟨rfl, _⟩ | ⟨_, secondBefore⟩
          · rfl
          · exact absurd secondBefore (free second)
        · rcases holders second held two with ⟨_, rfl⟩ | ⟨_, secondBefore⟩
          · exact absurd firstBefore (free first)
          · exact owned.heldOnce first second held firstBefore secondBefore
      heldDrawn := fun other held holding => by
        rcases holders other held holding with ⟨_, rfl⟩ | ⟨_, before⟩
        · exact drawn
        · exact owned.heldDrawn other held before
      trackedDrawn := owned.trackedDrawn
      openTracked := owned.openTracked
      reserved := owned.reserved.update before.symm
      bounded := owned.bounded }

/-- A request gives up its reserved slot. -/
theorem unreserve (owned : state.Owned limit) (request : RequestId)
    (reserving : (state.stage request).reserves = true) (connectLimiter : Nat) :
    ({ state with pool := { state.pool.unreserve with
      connectLimiter := connectLimiter } }.setStage request .outside).Owned limit := by
  obtain ⟨_, reserved⟩ := owned.reserved.remove request .outside reserving rfl
  have holding : ∀ other id, Function.update state.stage request .outside other =
      .holding id → state.stage other = .holding id := by
    intro other id held
    by_cases same : other = request
    · subst same; simp at held
    · simpa [same] using held
  exact
    { configured := owned.configured
      idleNodup := owned.idleNodup
      idleTracked := owned.idleTracked
      idleUnused := owned.idleUnused
      heldUsed := fun other id held => owned.heldUsed other id (holding other id held)
      heldOnce := fun first second id one two => owned.heldOnce first second id
        (holding first id one) (holding second id two)
      heldDrawn := fun other id held => owned.heldDrawn other id (holding other id held)
      trackedDrawn := owned.trackedDrawn
      openTracked := owned.openTracked
      reserved := reserved
      bounded := fun maxConnections equal => by
        have room := owned.bounded maxConnections equal
        change state.pool.allConnections.card + (state.pool.creating - 1) ≤ _
        omega }

/-- A slot is reserved while there is room. -/
theorem reserve (owned : state.Owned limit) {request : RequestId}
    (room : state.pool.canCreateConnection = true)
    (free : (state.stage request).reserves = false) :
    ({ state with pool := { state.pool with
      creating := state.pool.creating + 1 } }.setStage request .queued).Owned limit := by
  have holding : ∀ other id, Function.update state.stage request .queued other =
      .holding id → state.stage other = .holding id := by
    intro other id held
    by_cases same : other = request
    · subst same; simp at held
    · simpa [same] using held
  exact
    { configured := owned.configured
      idleNodup := owned.idleNodup
      idleTracked := owned.idleTracked
      idleUnused := owned.idleUnused
      heldUsed := fun other id held => owned.heldUsed other id (holding other id held)
      heldOnce := fun first second id one two => owned.heldOnce first second id
        (holding first id one) (holding second id two)
      heldDrawn := fun other id held => owned.heldDrawn other id (holding other id held)
      trackedDrawn := owned.trackedDrawn
      openTracked := owned.openTracked
      reserved := owned.reserved.add free rfl
      bounded := fun maxConnections equal => by
        have configured := owned.configured.trans equal
        change state.pool.allConnections.card + (state.pool.creating + 1) ≤ _
        simp only [ConnectionPool.canCreateConnection, configured, decide_eq_true_eq] at room
        omega }

theorem takeOrCreate (owned : state.Owned limit) {request : RequestId}
    (free : (state.stage request).reserves = false)
    (readable : ConnectionId → Bool) : (state.takeOrCreate request readable).Owned limit := by
  have pops := popped_popIdle readable state.pool.idleStack owned.idleNodup state.pool
  have after := owned.popped pops
  unfold PoolState.takeOrCreate ConnectionPool.tryGetIdle
  generalize ConnectionPool.popIdle readable state.pool.idleStack state.pool =
    outcome at pops after
  obtain ⟨taken, next⟩ := outcome
  cases taken with
  | some id =>
      obtain ⟨idle, notIdle, inUse⟩ := pops.taken id rfl
      refine after.hold request notIdle inUse (owned.idle_not_held idle) ?_ free
      change id < next.nextConnection
      rw [pops.nextConnection]
      exact owned.trackedDrawn id (owned.idleTracked id idle)
  | none =>
      dsimp only
      split
      · rename_i room
        exact after.reserve room free
      · refine @PoolState.Owned.setStage limit ⟨_, state.stage⟩ ?_ _ _ nofun free.symm
        exact after.restage rfl rfl (fun _ => rfl) (fun _ => rfl) rfl rfl rfl (fun _ _ => id) fun _ => rfl

/-- Releasing a connection; only one that nobody holds is reusable. -/
theorem release (owned : state.Owned limit) {id : ConnectionId}
    (free : (state.pool.connections id).inUse = true →
      (state.pool.connections id).isAlive = true →
        id < state.pool.nextConnection ∧ ∀ request, state.stage request ≠ .holding id) :
    (state.release id).Owned limit := by
  unfold PoolState.release
  dsimp only
  split
  · exact owned
  · rename_i inUse
    have inUse : (state.pool.connections id).inUse = true := by simpa using inUse
    have notIdle : id ∉ state.pool.idleStack := by
      intro idle
      have unused := owned.idleUnused id idle
      rw [inUse] at unused
      simp at unused
    split
    · exact (owned.closeConnection notIdle).notifyWaiter
    · rename_i alive
      simp only [Bool.or_eq_true, Bool.not_eq_true', not_or, Bool.not_eq_false] at alive
      obtain ⟨drawn, free⟩ := free inUse alive.1
      have opened : (state.pool.connections id).closing = false := by
        have live := alive.1
        simp only [PooledConnection.isAlive, Bool.and_eq_true, Bool.not_eq_true'] at live
        exact live.2
      have tracked := owned.openTracked id drawn opened
      refine @PoolState.Owned.notifyWaiter limit ⟨_, state.stage⟩ ?_
      have others : ∀ other, other ≠ id →
          ((state.pool.setConnection id { state.pool.connections id with
            inUse := false
            lastUsed := state.pool.now
            protocol := (state.pool.connections id).protocol.reset }).connections
              other).inUse = (state.pool.connections other).inUse := by
        intro other different
        simp [ConnectionPool.setConnection, different]
      exact
        { configured := owned.configured
          idleNodup := List.nodup_cons.mpr ⟨notIdle, owned.idleNodup⟩
          idleTracked := fun other idle => by
            rcases List.mem_cons.mp idle with rfl | idle
            · exact tracked
            · exact owned.idleTracked other idle
          idleUnused := fun other idle => by
            by_cases same : other = id
            · subst same; simp [ConnectionPool.setConnection]
            · have idle := (List.mem_cons.mp idle).resolve_left same
              exact (others other same).trans (owned.idleUnused other idle)
          heldUsed := fun request other held => by
            have different : other ≠ id := fun same => free request (same ▸ held)
            exact (others other different).trans (owned.heldUsed request other held)
          heldOnce := owned.heldOnce
          heldDrawn := owned.heldDrawn
          trackedDrawn := owned.trackedDrawn
          openTracked := fun other otherDrawn otherOpened => by
            by_cases same : other = id
            · subst same; exact tracked
            · refine owned.openTracked other otherDrawn ?_
              simpa [ConnectionPool.setConnection, same] using otherOpened
          reserved := owned.reserved
          bounded := owned.bounded }

/-- A connection was made for a request that had reserved its slot. -/
theorem connected (owned : state.Owned limit) {request : RequestId}
    (connecting : state.stage request = .connecting) (connectLimiter : Nat) :
    ({ state with pool := { state.pool.addConnection.unreserve with
      connectLimiter := connectLimiter } }.setStage request
        (.holding state.pool.nextConnection)).Owned limit := by
  have unheld : ∀ other, state.stage other ≠ .holding state.pool.nextConnection :=
    fun other held => Nat.lt_irrefl _ (owned.heldDrawn other _ held)
  have untracked : state.pool.nextConnection ∉ state.pool.allConnections :=
    fun tracked => Nat.lt_irrefl _ (owned.trackedDrawn _ tracked)
  obtain ⟨positive, reserved⟩ := owned.reserved.remove request
    (.holding state.pool.nextConnection) (by rw [connecting]; rfl) rfl
  have older : ∀ id, id ≠ state.pool.nextConnection →
      state.pool.addConnection.connections id = state.pool.connections id := by
    intro id different
    simp [ConnectionPool.addConnection, ConnectionPool.setConnection, different]
  have newer : (state.pool.addConnection.connections
      state.pool.nextConnection).inUse = true := by
    simp [ConnectionPool.addConnection, ConnectionPool.setConnection]
  have idleOlder : ∀ id ∈ state.pool.idleStack, id ≠ state.pool.nextConnection :=
    fun id idle same => untracked (same ▸ owned.idleTracked id idle)
  have holders : ∀ other id, Function.update state.stage request
      (.holding state.pool.nextConnection) other = .holding id →
        other = request ∧ id = state.pool.nextConnection ∨
          other ≠ request ∧ state.stage other = .holding id := by
    intro other id held
    by_cases same : other = request
    · subst same
      simp only [Function.update_self, AcquireStage.holding.injEq] at held
      exact Or.inl ⟨rfl, held.symm⟩
    · exact Or.inr ⟨same, by simpa [same] using held⟩
  exact
    { configured := owned.configured
      idleNodup := owned.idleNodup
      idleTracked := fun id idle =>
        Finset.mem_insert_of_mem (owned.idleTracked id idle)
      idleUnused := fun id idle => by
        have same := congrArg PooledConnection.inUse (older id (idleOlder id idle))
        exact same.trans (owned.idleUnused id idle)
      heldUsed := fun other id held => by
        rcases holders other id held with ⟨_, rfl⟩ | ⟨_, before⟩
        · exact newer
        · have different : id ≠ state.pool.nextConnection :=
            fun same => unheld other (same ▸ before)
          have same := congrArg PooledConnection.inUse (older id different)
          exact same.trans (owned.heldUsed other id before)
      heldOnce := fun first second id one two => by
        rcases holders first id one with ⟨rfl, rfl⟩ | ⟨_, firstBefore⟩
        · rcases holders second _ two with ⟨rfl, _⟩ | ⟨_, secondBefore⟩
          · rfl
          · exact absurd secondBefore (unheld second)
        · rcases holders second id two with ⟨_, rfl⟩ | ⟨_, secondBefore⟩
          · exact absurd firstBefore (unheld first)
          · exact owned.heldOnce first second id firstBefore secondBefore
      heldDrawn := fun other id held => by
        rcases holders other id held with ⟨_, rfl⟩ | ⟨_, before⟩
        · exact Nat.lt_succ_self _
        · exact Nat.lt_succ_of_lt (owned.heldDrawn other id before)
      trackedDrawn := fun id tracked => by
        rcases Finset.mem_insert.mp tracked with rfl | before
        · exact Nat.lt_succ_self _
        · exact Nat.lt_succ_of_lt (owned.trackedDrawn id before)
      openTracked := fun id drawn opened => by
        rcases Nat.lt_succ_iff_lt_or_eq.mp drawn with older' | rfl
        · have same := congrArg PooledConnection.closing (older id (Nat.ne_of_lt older'))
          exact Finset.mem_insert_of_mem
            (owned.openTracked id older' (same.symm.trans opened))
        · exact Finset.mem_insert_self _ _
      reserved := reserved
      bounded := fun maxConnections equal => by
        have room := owned.bounded maxConnections equal
        change (insert state.pool.nextConnection state.pool.allConnections).card +
          (state.pool.creating - 1) ≤ maxConnections
        rw [Finset.card_insert_of_notMem untracked]
        omega }

/-- The connect limiter admitted a request, and an idle connection is there. -/
theorem admitted (owned : state.Owned limit) {request : RequestId} {id : ConnectionId}
    {next : ConnectionPool} (queued : state.stage request = .queued)
    (pops : Popped state.pool.idleStack state.pool (some id) next) :
    ({ state with pool := next.unreserve }.setStage request (.holding id)).Owned limit := by
  obtain ⟨idle, notIdle, inUse⟩ := pops.taken id rfl
  have after := owned.popped pops
  have freed := after.unreserve request (by
    change (state.stage request).reserves = true
    rw [queued]; rfl) next.connectLimiter
  have held := freed.hold request notIdle inUse ?_ ?_ ?_
  · refine held.restage rfl rfl (fun _ => rfl) (fun _ => rfl) rfl rfl rfl ?_ ?_
    · intro other other' holding
      simpa [PoolState.setStage] using holding
    · intro other
      simp [PoolState.setStage]
  · intro other holding
    by_cases same : other = request
    · subst same; simp [PoolState.setStage] at holding
    · refine owned.idle_not_held idle other ?_
      simpa [PoolState.setStage, same] using holding
  · change id < next.nextConnection
    rw [pops.nextConnection]
    exact owned.trackedDrawn id (owned.idleTracked id idle)
  · simp [PoolState.setStage, AcquireStage.reserves]

theorem close (owned : state.Owned limit) : state.close.Owned limit := by
  have holding : ∀ request id, state.close.stage request = .holding id →
      state.stage request = .holding id := by
    intro request id held
    simp only [PoolState.close] at held
    split at held
    · simp at held
    · exact held
  have inUse : ∀ id, (state.close.pool.connections id).inUse =
      (state.pool.connections id).inUse := by
    intro id
    simp only [PoolState.close]
    split <;> rfl
  exact
    { configured := owned.configured
      idleNodup := List.nodup_nil
      idleTracked := nofun
      idleUnused := nofun
      heldUsed := fun request id held =>
        (inUse id).trans (owned.heldUsed request id (holding request id held))
      heldOnce := fun first second id one two => owned.heldOnce first second id
        (holding first id one) (holding second id two)
      heldDrawn := fun request id held =>
        owned.heldDrawn request id (holding request id held)
      trackedDrawn := nofun
      openTracked := fun id drawn opened => by
        have tracked : id ∉ state.pool.allConnections := by
          intro member
          simp [PoolState.close, member] at opened
        have before : (state.pool.connections id).closing = false := by
          simpa [PoolState.close, tracked] using opened
        exact absurd (owned.openTracked id drawn before) tracked
      reserved := by
        refine owned.reserved.congr fun request => ?_
        simp only [PoolState.close]
        split
        · rename_i waiting
          rw [waiting.2]
          rfl
        · rfl
      bounded := fun maxConnections equal => by
        have room := owned.bounded maxConnections equal
        change (∅ : Finset ConnectionId).card + state.pool.creating ≤ maxConnections
        rw [Finset.card_empty]
        omega }

/-- Every step of the pool keeps ownership. -/
theorem step (owned : state.Owned limit) {label : PoolLabel} {next : PoolState}
    (edge : state.step label = some next) : next.Owned limit := by
  cases label with
  | acquire request readable =>
      simp only [PoolState.step] at edge
      split at edge
      · rename_i outside
        obtain rfl := Option.some.inj edge
        exact owned.takeOrCreate (by rw [outside]; rfl) readable
      · simp at edge
  | resume request readable =>
      simp only [PoolState.step] at edge
      split at edge
      · rename_i woken
        obtain rfl := Option.some.inj edge
        refine @PoolState.Owned.takeOrCreate limit ⟨_, state.stage⟩ ?_ _
          (by rw [woken]; rfl) readable
        exact owned.restage rfl rfl (fun _ => rfl) (fun _ => rfl) rfl rfl rfl
          (fun _ _ => id) fun _ => rfl
      · simp at edge
  | grant request readable =>
      simp only [PoolState.step] at edge
      split at edge
      · rename_i enabled
        have pops :=
          popped_popIdle readable state.pool.idleStack owned.idleNodup state.pool
        unfold ConnectionPool.tryGetIdle at edge
        generalize ConnectionPool.popIdle readable state.pool.idleStack state.pool =
          outcome at pops edge
        obtain ⟨taken, pool⟩ := outcome
        cases taken with
        | some id =>
            obtain rfl := Option.some.inj edge
            exact owned.admitted enabled.1 pops
        | none =>
            obtain rfl := Option.some.inj edge
            have after := owned.popped pops
            refine @PoolState.Owned.setStage limit ⟨_, state.stage⟩ ?_ _ _ nofun
              (by rw [enabled.1]; rfl)
            exact after.restage rfl rfl (fun _ => rfl) (fun _ => rfl) rfl rfl rfl
              (fun _ _ => id) fun _ => rfl
      · simp at edge
  | connected request =>
      simp only [PoolState.step] at edge
      split at edge
      · rename_i connecting
        obtain rfl := Option.some.inj edge
        exact owned.connected connecting _
      · simp at edge
  | connectFailed request =>
      simp only [PoolState.step] at edge
      split at edge
      · rename_i connecting
        obtain rfl := Option.some.inj edge
        exact owned.unreserve request (by rw [connecting]; rfl) _
      · simp at edge
  | cancel request =>
      simp only [PoolState.step] at edge
      split at edge
      · rename_i waiting
        obtain rfl := Option.some.inj edge
        exact owned.setStage nofun (by rw [waiting]; rfl)
      · rename_i woken
        obtain rfl := Option.some.inj edge
        exact owned.setStage nofun (by rw [woken]; rfl)
      · rename_i queued
        obtain rfl := Option.some.inj edge
        exact owned.unreserve request (by rw [queued]; rfl) state.pool.connectLimiter
      · rename_i connecting
        obtain rfl := Option.some.inj edge
        exact owned.unreserve request (by rw [connecting]; rfl) _
      · simp at edge
  | unwind request =>
      simp only [PoolState.step] at edge
      split at edge
      · rename_i cancelled
        obtain rfl := Option.some.inj edge
        refine @PoolState.Owned.setStage limit ⟨_, state.stage⟩ ?_ _ _ nofun
          (by rw [cancelled]; rfl)
        exact owned.restage rfl rfl (fun _ => rfl) (fun _ => rfl) rfl rfl rfl
          (fun _ _ => id) fun _ => rfl
      · simp at edge
  | release request =>
      simp only [PoolState.step] at edge
      split at edge
      · rename_i id holding
        obtain rfl := Option.some.inj edge
        have freed : (state.setStage request (.released id)).Owned limit :=
          owned.setStage nofun (by rw [holding]; rfl)
        apply freed.release
        refine fun _ _ => ⟨owned.heldDrawn request id holding, fun other held => ?_⟩
        by_cases same : other = request
        · subst same; simp [PoolState.setStage] at held
        · have held : state.stage other = .holding id := by
            simpa [PoolState.setStage, same] using held
          exact same (owned.heldOnce other request id held holding)
      · simp at edge
  | releaseAgain request =>
      simp only [PoolState.step] at edge
      split at edge
      · rename_i id released
        split at edge
        · simp at edge
        · rename_i unused
          obtain rfl := Option.some.inj edge
          exact owned.release fun inUse alive => by simp [inUse, alive] at unused
      · simp at edge
  | close =>
      obtain rfl := Option.some.inj edge
      exact owned.close
  | network id event =>
      obtain rfl := Option.some.inj edge
      refine owned.restage rfl rfl ?_ ?_ rfl rfl rfl (fun _ _ held => held) fun _ => rfl
      all_goals
        intro other
        by_cases same : other = id
        · subst same; simp [ConnectionPool.setConnection]
        · simp [ConnectionPool.setConnection, same]
  | tick now =>
      obtain rfl := Option.some.inj edge
      exact owned.restage rfl rfl (fun _ => rfl) (fun _ => rfl) rfl rfl rfl
        (fun _ _ => id) fun _ => rfl

end PoolState.Owned

/-- An empty pool that nobody uses yet. -/
def PoolState.initial (maxConnections : Option Nat) (maxIdleTime : ℚ)
    (connectLimiter : Nat) : PoolState where
  pool :=
    { maxConnections := maxConnections
      maxIdleTime := maxIdleTime
      connectLimiter := connectLimiter }

theorem PoolState.initial_owned (maxConnections : Option Nat) (maxIdleTime : ℚ)
    (connectLimiter : Nat) :
    (PoolState.initial maxConnections maxIdleTime connectLimiter).Owned
      maxConnections where
  configured := rfl
  idleNodup := List.nodup_nil
  idleTracked := nofun
  idleUnused := nofun
  heldUsed := nofun
  heldOnce := nofun
  heldDrawn := nofun
  trackedDrawn := nofun
  openTracked := nofun
  reserved := ⟨∅, fun _ => by simp [PoolState.initial, AcquireStage.reserves], rfl⟩
  bounded _ _ := Nat.zero_le _

/-- The states a pool and its users can reach. -/
abbrev PoolReachable (maxConnections : Option Nat) (maxIdleTime : ℚ)
    (connectLimiter : Nat) : PoolState → Prop :=
  GuardedRuns.Reachable PoolState.step
    (PoolState.initial maxConnections maxIdleTime connectLimiter)

/-- In every reachable state the pool is within its limit, the idle stack holds
distinct connections that are not in use, and no connection is handed out to
two requests. -/
theorem pool_ownership (maxConnections : Option Nat) (maxIdleTime : ℚ)
    (connectLimiter : Nat) {state : PoolState}
    (reachable : PoolReachable maxConnections maxIdleTime connectLimiter state) :
    (∀ limit, maxConnections = some limit →
        state.pool.allConnections.card + state.pool.creating ≤ limit) ∧
      state.pool.idleStack.Nodup ∧
      (∀ id ∈ state.pool.idleStack, (state.pool.connections id).inUse = false ∧
        ∀ request, state.stage request ≠ .holding id) ∧
      ∀ first second id, state.stage first = .holding id →
        state.stage second = .holding id → first = second := by
  have owned : state.Owned maxConnections :=
    reachable.invariant (fun state => state.Owned maxConnections)
      (fun _ _ _ owned edge => owned.step edge)
      (PoolState.initial_owned maxConnections maxIdleTime connectLimiter)
  exact ⟨owned.bounded, owned.idleNodup,
    fun id idle => ⟨owned.idleUnused id idle, owned.idle_not_held idle⟩, owned.heldOnce⟩

/-- A connection is made, used, released twice and sits on the idle stack. -/
theorem pool_ownership_reuse :
    ∃ state : PoolState,
      PoolReachable (some 1) 4 128 state ∧ state.pool.idleStack = [0] ∧
        state.pool.allConnections.card + state.pool.creating ≤ 1 := by
  have reachable : PoolReachable (some 1) 4 128 _ :=
    ⟨[.acquire 7 fun _ => false, .grant 7 fun _ => false, .connected 7, .release 7,
      .releaseAgain 7], rfl⟩
  exact ⟨_, reachable, rfl, (pool_ownership (some 1) 4 128 reachable).1 1 rfl⟩

end InferenceEndpoint
