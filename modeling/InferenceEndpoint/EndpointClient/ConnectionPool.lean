import InferenceEndpoint.EndpointClient.Http

/-!
# Connection pool

`ConnectionPool`, with the coroutines that call `acquire` cut at their await
points: an acquirer waits on a future, queues on the connect limiter or waits
for the connection to be made, and any number of them interleave.
-/

namespace InferenceEndpoint

abbrev ConnectionId := Nat

abbrev RequestId := Nat

structure ConnectionPool where
  maxConnections : Option Nat
  maxIdleTime : ℚ := 4
  now : ℚ := 0
  /-- The objects, also those that the pool no longer tracks. -/
  connections : ConnectionId → PooledConnection := fun _ => { lastUsed := 0 }
  nextConnection : ConnectionId := 0
  /-- The top of the stack comes first. -/
  idleStack : List ConnectionId := []
  allConnections : Finset ConnectionId := ∅
  creating : Nat := 0
  connectLimiter : Nat := 128
  /-- The waiters whose future is in the queue, in order. -/
  waiters : List RequestId := []

namespace ConnectionPool

def setConnection (pool : ConnectionPool) (id : ConnectionId)
    (conn : PooledConnection) : ConnectionPool :=
  { pool with connections := Function.update pool.connections id conn }

def closeConnection (pool : ConnectionPool) (id : ConnectionId) : ConnectionPool :=
  { pool.setConnection id { pool.connections id with closing := true } with
      allConnections := pool.allConnections.erase id }

/-- What `_try_get_idle` does to a connection it hands out. -/
def checkOut (pool : ConnectionPool) (id : ConnectionId) : ConnectionPool :=
  let conn := pool.connections id
  pool.setConnection id { conn with
    inUse := true
    idleTimeOnAcquire := pool.now - conn.lastUsed
    protocol := conn.protocol.reset }

/-- A popped connection can be handed out. -/
def usable (pool : ConnectionPool) (readable : ConnectionId → Bool)
    (id : ConnectionId) : Bool :=
  let conn := pool.connections id
  !(pool.maxIdleTime < pool.now - conn.lastUsed) &&
    conn.isAlive && !conn.isStale pool.now (readable id)

/-- The loop of `_try_get_idle` over the idle stack. -/
def popIdle (readable : ConnectionId → Bool) :
    List ConnectionId → ConnectionPool → Option ConnectionId × ConnectionPool
  | [], pool => (none, { pool with idleStack := [] })
  | id :: rest, pool =>
      if pool.usable readable id then
        (some id, { pool.checkOut id with idleStack := rest })
      else popIdle readable rest (pool.closeConnection id)

def tryGetIdle (readable : ConnectionId → Bool) (pool : ConnectionPool) :
    Option ConnectionId × ConnectionPool :=
  popIdle readable pool.idleStack pool

def canCreateConnection (pool : ConnectionPool) : Bool :=
  match pool.maxConnections with
  | none => true
  | some maxConnections => pool.allConnections.card + pool.creating < maxConnections

/-- `_create_connection` after the connection was made. -/
def addConnection (pool : ConnectionPool) : ConnectionPool :=
  { pool.setConnection pool.nextConnection { lastUsed := pool.now } with
      nextConnection := pool.nextConnection + 1
      allConnections := insert pool.nextConnection pool.allConnections }

/-- Give the reserved slot back. -/
def unreserve (pool : ConnectionPool) : ConnectionPool :=
  { pool with creating := pool.creating - 1 }

end ConnectionPool

/-- Where a coroutine that uses the pool stands. -/
inductive AcquireStage
  | outside
  /-- Its future is in the queue and not done. -/
  | waiting
  /-- Its future is done and it has not resumed yet. -/
  | woken
  /-- It was cancelled while waiting and has not resumed yet. -/
  | cancelled
  /-- It queues on the connect limiter, its slot reserved. -/
  | queued
  | connecting
  | holding (id : ConnectionId)
  /-- It released the connection, but still refers to it. -/
  | released (id : ConnectionId)
  deriving DecidableEq

namespace AcquireStage

/-- The stage accounts for one unit of `_creating`. -/
def reserves : AcquireStage → Bool
  | .queued => true
  | .connecting => true
  | _ => false

end AcquireStage

/-- The pool and the coroutines that use it. -/
structure PoolState where
  pool : ConnectionPool
  stage : RequestId → AcquireStage := fun _ => .outside

inductive PoolLabel
  /-- `acquire` is called. -/
  | acquire (request : RequestId) (readable : ConnectionId → Bool)
  /-- A woken waiter resumes. -/
  | resume (request : RequestId) (readable : ConnectionId → Bool)
  /-- The connect limiter lets a request through. -/
  | grant (request : RequestId) (readable : ConnectionId → Bool)
  | connected (request : RequestId)
  /-- Making the connection raised. -/
  | connectFailed (request : RequestId)
  /-- The task is cancelled at its await. -/
  | cancel (request : RequestId)
  /-- A cancelled waiter unwinds. -/
  | unwind (request : RequestId)
  | release (request : RequestId)
  /-- A connection is released again.  The caller does so without an await in
  between, so nobody else uses it by then. -/
  | releaseAgain (request : RequestId)
  | close
  | network (id : ConnectionId) (event : NetworkEvent)
  | tick (now : ℚ)

namespace PoolState

def setStage (state : PoolState) (request : RequestId) (stage : AcquireStage) :
    PoolState :=
  { state with stage := Function.update state.stage request stage }

/-- The loop of `_notify_waiter`: drop done futures until one is woken. -/
def notifyLoop : List RequestId → PoolState → PoolState
  | [], state => { state with pool := { state.pool with waiters := [] } }
  | request :: rest, state =>
      if state.stage request = .waiting then
        { state.setStage request .woken with
            pool := { state.pool with waiters := rest } }
      else notifyLoop rest state

def notifyWaiter (state : PoolState) : PoolState :=
  notifyLoop state.pool.waiters state

/-- Hand out an idle connection, or reserve a slot, or queue up again. -/
def takeOrCreate (state : PoolState) (request : RequestId)
    (readable : ConnectionId → Bool) : PoolState :=
  match state.pool.tryGetIdle readable with
  | (some id, pool) => { state with pool := pool }.setStage request (.holding id)
  | (none, pool) =>
      if pool.canCreateConnection then
        { state with pool := { pool with creating := pool.creating + 1 } }.setStage
          request .queued
      else
        { state with pool := { pool with waiters := pool.waiters ++ [request] } }.setStage
          request .waiting

/-- `release`. -/
def release (state : PoolState) (id : ConnectionId) : PoolState :=
  let conn := state.pool.connections id
  if !conn.inUse then state
  else if !conn.isAlive || conn.protocol.shouldClose then
    { state with pool := state.pool.closeConnection id }.notifyWaiter
  else
    let returned := { conn with
      inUse := false
      lastUsed := state.pool.now
      protocol := conn.protocol.reset }
    { state with pool := { state.pool.setConnection id returned with
        idleStack := id :: state.pool.idleStack } }.notifyWaiter

/-- `close`; cancelled waiters unwind later. -/
def close (state : PoolState) : PoolState where
  stage request :=
    if request ∈ state.pool.waiters ∧ state.stage request = .waiting then .cancelled
    else state.stage request
  pool := { state.pool with
    waiters := []
    connections := fun id =>
      if id ∈ state.pool.allConnections then
        { state.pool.connections id with closing := true }
      else state.pool.connections id
    allConnections := ∅
    idleStack := [] }

def step (state : PoolState) : PoolLabel → Option PoolState
  | .acquire request readable =>
      if state.stage request = .outside then
        some (state.takeOrCreate request readable)
      else none
  | .resume request readable =>
      if state.stage request = .woken then
        some (({ state with pool := { state.pool with
          waiters := state.pool.waiters.filter (· ≠ request) } } :
            PoolState).takeOrCreate request readable)
      else none
  | .grant request readable =>
      if state.stage request = .queued ∧ 0 < state.pool.connectLimiter then
        match state.pool.tryGetIdle readable with
        | (some id, pool) =>
            some ({ state with pool := pool.unreserve }.setStage request (.holding id))
        | (none, pool) =>
            some ({ state with pool := { pool with
              connectLimiter := pool.connectLimiter - 1 } }.setStage request .connecting)
      else none
  | .connected request =>
      if state.stage request = .connecting then
        some ({ state with pool := { state.pool.addConnection.unreserve with
            connectLimiter := state.pool.connectLimiter + 1 } }.setStage request
          (.holding state.pool.nextConnection))
      else none
  | .connectFailed request =>
      if state.stage request = .connecting then
        some ({ state with pool := { state.pool.unreserve with
          connectLimiter := state.pool.connectLimiter + 1 } }.setStage request .outside)
      else none
  | .cancel request =>
      match state.stage request with
      | .waiting => some (state.setStage request .cancelled)
      | .woken => some (state.setStage request .cancelled)
      | .queued =>
          some ({ state with pool := state.pool.unreserve }.setStage request .outside)
      | .connecting =>
          some ({ state with pool := { state.pool.unreserve with
            connectLimiter := state.pool.connectLimiter + 1 } }.setStage request .outside)
      | _ => none
  | .unwind request =>
      if state.stage request = .cancelled then
        some ({ state with pool := { state.pool with
          waiters := state.pool.waiters.filter (· ≠ request) } }.setStage request .outside)
      else none
  | .release request =>
      match state.stage request with
      | .holding id => some ((state.setStage request (.released id)).release id)
      | _ => none
  | .releaseAgain request =>
      match state.stage request with
      | .released id =>
          if (state.pool.connections id).inUse && (state.pool.connections id).isAlive
          then none
          else some (state.release id)
      | _ => none
  | .close => some state.close
  | .network id event =>
      let conn := state.pool.connections id
      let changed := { conn with protocol := conn.protocol.onNetwork event }
      some { state with pool := state.pool.setConnection id changed }
  | .tick now => some { state with pool := { state.pool with now := now } }

end PoolState

end InferenceEndpoint
