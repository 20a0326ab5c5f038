import Mathlib.Data.Finset.Card
import Mathlib.Algebra.Order.Ring.Unbundled.Rat

/-!
# HTTP connections

`HttpResponseProtocol` as the record of flags, buffers and futures that its
asyncio and parser callbacks update, and `PooledConnection` with the transport
state that the pool asks about.  The parser itself is outside the program: a
network read is given by the callbacks that the parser makes for it, and by
whether it raised.
-/

namespace InferenceEndpoint

abbrev Bytes := List UInt8

/-- A future that a coroutine may be waiting for. -/
inductive FutureState (Value : Type)
  | pending
  | result (value : Value)
  | exception
  deriving DecidableEq

namespace FutureState

/-- `set_result` on a future that is not done; done futures are left alone. -/
def setResult {Value : Type} (value : Value) :
    Option (FutureState Value) → Option (FutureState Value)
  | some .pending => some (.result value)
  | future => future

/-- `set_exception` on a future that is not done. -/
def setException {Value : Type} :
    Option (FutureState Value) → Option (FutureState Value)
  | some .pending => some .exception
  | future => future

end FutureState

structure HttpResponseProtocol where
  statusCode : Nat := 0
  bodyChunks : List Bytes := []
  shouldCloseFlag : Bool := false
  headersFuture : Option (FutureState Nat) := none
  bodyFuture : Option (FutureState Bytes) := none
  streaming : Bool := false
  streamChunks : List Bytes := []
  streamEvent : Bool := false
  headersComplete : Bool := false
  messageComplete : Bool := false
  connectionLost : Bool := false
  exc : Bool := false

/-- The callbacks of the parser that change the protocol. -/
inductive ParserCallback
  | headersComplete (statusCode : Nat) (shouldKeepAlive : Bool)
  | body (bytes : Bytes)
  | messageComplete
  deriving DecidableEq

namespace HttpResponseProtocol

/-- `reset`; the loss of the connection is kept. -/
def reset (protocol : HttpResponseProtocol) : HttpResponseProtocol where
  connectionLost := protocol.connectionLost

def signalStreamEnd (protocol : HttpResponseProtocol) : HttpResponseProtocol :=
  if protocol.streaming then { protocol with streamEvent := true } else protocol

/-- `on_headers_complete`, `on_body` and `on_message_complete`. -/
def onCallback (protocol : HttpResponseProtocol) :
    ParserCallback → HttpResponseProtocol
  | .headersComplete statusCode shouldKeepAlive =>
      { protocol with
          statusCode := statusCode
          shouldCloseFlag := !shouldKeepAlive
          headersComplete := true
          headersFuture := FutureState.setResult statusCode protocol.headersFuture }
  | .body bytes =>
      if protocol.streaming then
        { protocol with
            streamChunks := protocol.streamChunks ++ [bytes]
            streamEvent := true }
      else { protocol with bodyChunks := protocol.bodyChunks ++ [bytes] }
  | .messageComplete =>
      signalStreamEnd { protocol with
        messageComplete := true
        bodyFuture :=
          FutureState.setResult protocol.bodyChunks.flatten protocol.bodyFuture }

/-- `data_received`, given what the parser makes of the data. -/
def dataReceived (protocol : HttpResponseProtocol)
    (callbacks : List ParserCallback) (parserError : Bool) : HttpResponseProtocol :=
  let fed := callbacks.foldl onCallback protocol
  if parserError then
    { fed with
        exc := true
        headersFuture := FutureState.setException fed.headersFuture
        bodyFuture := FutureState.setException fed.bodyFuture }
  else fed

/-- `connection_lost`; `failed` says whether it carries an exception. -/
def onConnectionLost (protocol : HttpResponseProtocol) (failed : Bool) :
    HttpResponseProtocol :=
  signalStreamEnd { protocol with
    connectionLost := true
    exc := failed
    headersFuture := FutureState.setException protocol.headersFuture
    bodyFuture :=
      if failed || !protocol.messageComplete then
        FutureState.setException protocol.bodyFuture
      else FutureState.setResult protocol.bodyChunks.flatten protocol.bodyFuture }

def eofReceived (protocol : HttpResponseProtocol) : HttpResponseProtocol :=
  signalStreamEnd { protocol with connectionLost := true }

def shouldClose (protocol : HttpResponseProtocol) : Bool :=
  protocol.shouldCloseFlag || protocol.connectionLost || protocol.exc

@[simp]
theorem reset_connectionLost (protocol : HttpResponseProtocol) :
    protocol.reset.connectionLost = protocol.connectionLost :=
  rfl

@[simp]
theorem signalStreamEnd_messageComplete (protocol : HttpResponseProtocol) :
    protocol.signalStreamEnd.messageComplete = protocol.messageComplete := by
  unfold signalStreamEnd
  split <;> rfl

@[simp]
theorem signalStreamEnd_headersComplete (protocol : HttpResponseProtocol) :
    protocol.signalStreamEnd.headersComplete = protocol.headersComplete := by
  unfold signalStreamEnd
  split <;> rfl

@[simp]
theorem signalStreamEnd_headersFuture (protocol : HttpResponseProtocol) :
    protocol.signalStreamEnd.headersFuture = protocol.headersFuture := by
  unfold signalStreamEnd
  split <;> rfl

@[simp]
theorem signalStreamEnd_bodyFuture (protocol : HttpResponseProtocol) :
    protocol.signalStreamEnd.bodyFuture = protocol.bodyFuture := by
  unfold signalStreamEnd
  split <;> rfl

@[simp]
theorem signalStreamEnd_exc (protocol : HttpResponseProtocol) :
    protocol.signalStreamEnd.exc = protocol.exc := by
  unfold signalStreamEnd
  split <;> rfl

@[simp]
theorem signalStreamEnd_connectionLost (protocol : HttpResponseProtocol) :
    protocol.signalStreamEnd.connectionLost = protocol.connectionLost := by
  unfold signalStreamEnd
  split <;> rfl

@[simp]
theorem streaming_signalStreamEnd (protocol : HttpResponseProtocol) :
    protocol.signalStreamEnd.streaming = protocol.streaming := by
  unfold signalStreamEnd
  split <;> rfl

theorem signalStreamEnd_streaming {protocol : HttpResponseProtocol}
    (streaming : protocol.streaming = true) :
    protocol.signalStreamEnd = { protocol with streamEvent := true } := by
  rw [signalStreamEnd, if_pos streaming]

end HttpResponseProtocol

/-- A network event of one connection. -/
inductive NetworkEvent
  | dataReceived (callbacks : List ParserCallback) (parserError : Bool)
  | eofReceived
  | connectionLost (failed : Bool)

def HttpResponseProtocol.onNetwork (protocol : HttpResponseProtocol) :
    NetworkEvent → HttpResponseProtocol
  | .dataReceived callbacks parserError => protocol.dataReceived callbacks parserError
  | .eofReceived => protocol.eofReceived
  | .connectionLost failed => protocol.onConnectionLost failed

/-- `closing` is `transport.is_closing()`. -/
structure PooledConnection where
  protocol : HttpResponseProtocol := {}
  closing : Bool := false
  lastUsed : ℚ
  inUse : Bool := true
  idleTimeOnAcquire : ℚ := 0

namespace PooledConnection

def isAlive (conn : PooledConnection) : Bool :=
  !conn.protocol.connectionLost && !conn.closing

/-- `is_stale`; `readable` is what polling the socket answers. -/
def isStale (conn : PooledConnection) (now : ℚ) (readable : Bool) : Bool :=
  if now - conn.lastUsed < 1 then false else readable

end PooledConnection

end InferenceEndpoint
