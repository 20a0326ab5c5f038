import InferenceEndpoint.EndpointClient.Http
import InferenceEndpoint.Library.GuardedRuns

/-!
# Reads of a response

`read_headers`, `read_body` and `iter_body` on one connection, in any order with the
callbacks of the protocol.  A read that has to wait creates its future itself, so a
connection that is lost before, or a parser that has raised before, does not resolve it.
-/

namespace InferenceEndpoint

/-- The protocol of a connection and what waits on it. -/
structure ResponseReads where
  protocol : HttpResponseProtocol := {}
  /-- The pending futures that another read has replaced in the protocol. -/
  replaced : Nat := 0
  /-- The iterations that have waited for the event, and whether it was set since. -/
  iterations : List Bool := []
  /-- `connection_lost` has been called. -/
  lost : Bool := false
  /-- The parser has raised. -/
  parserRaised : Bool := false

inductive ReadCall
  | readHeaders
  | readBody
  | iterBody
  deriving DecidableEq

inductive ReadLabel
  | callback (event : NetworkEvent)
  | call (call : ReadCall)
  /-- An iteration whose wait is over runs on. -/
  | resume (iteration : Nat)

namespace ResponseReads

/-- The future that a read replaces, if it is pending. -/
def pendingCount {Value : Type} : Option (FutureState Value) → Nat
  | some .pending => 1
  | _ => 0

/-- A read that is started now has to wait for a callback. -/
def waits (reads : ResponseReads) : ReadCall → Bool
  | .readHeaders => !reads.protocol.headersComplete
  | .readBody => !reads.protocol.messageComplete
  | .iterBody => !(reads.protocol.messageComplete || reads.protocol.connectionLost)

/-- A read up to its return or its first wait. -/
def start (reads : ResponseReads) : ReadCall → ResponseReads
  | .readHeaders =>
      if reads.waits .readHeaders then
        { reads with
            replaced := reads.replaced + pendingCount reads.protocol.headersFuture
            protocol := { reads.protocol with headersFuture := some .pending } }
      else reads
  | .readBody =>
      if reads.waits .readBody then
        { reads with
            replaced := reads.replaced + pendingCount reads.protocol.bodyFuture
            protocol := { reads.protocol with bodyFuture := some .pending } }
      else reads
  | .iterBody =>
      -- without a wait, the message is complete or the chunks are drained
      let drained := { reads.protocol with
        streaming := true
        bodyChunks := []
        streamChunks :=
          if reads.protocol.messageComplete then reads.protocol.streamChunks else [] }
      if reads.waits .iterBody then
        { reads with
            protocol := { drained with streamEvent := false }
            iterations := reads.iterations ++ [false] }
      else { reads with protocol := drained }

/-- The loop of `iter_body` from one wait to the next. -/
def runOn (reads : ResponseReads) (iteration : Nat) : ResponseReads :=
  let drained := { reads.protocol with streamChunks := [] }
  if drained.messageComplete || drained.connectionLost then
    { reads with protocol := drained, iterations := reads.iterations.eraseIdx iteration }
  else
    { reads with
        protocol := { drained with streamEvent := false }
        iterations := reads.iterations.set iteration false }

/-- Setting the event ends every wait for it. -/
def wake (reads : ResponseReads) : ResponseReads :=
  if reads.protocol.streamEvent then
    { reads with iterations := reads.iterations.map fun _ => true }
  else reads

def onCallback (reads : ResponseReads) (event : NetworkEvent) : ResponseReads :=
  wake { reads with
    protocol := reads.protocol.onNetwork event
    lost := match event with
      | .connectionLost _ => true
      | _ => reads.lost
    parserRaised := match event with
      | .dataReceived _ true => true
      | _ => reads.parserRaised }

def step (reads : ResponseReads) : ReadLabel → Option ResponseReads
  | .callback event => some (reads.onCallback event)
  | .call call => some (reads.start call)
  | .resume iteration =>
      if reads.iterations[iteration]? = some true then some (reads.runOn iteration) else none

/-- The connection is lost or the parser has raised. -/
def dead (reads : ResponseReads) : Bool :=
  reads.lost || reads.parserRaised

/-- No read waits for a callback that has not come. -/
structure Quiet (reads : ResponseReads) : Prop where
  replaced : reads.replaced = 0
  headers : reads.protocol.headersFuture ≠ some .pending
  body : reads.protocol.bodyFuture ≠ some .pending
  iterations : false ∉ reads.iterations

/-- On a dead connection no read waits, and none that is started would. -/
def Responsive (reads : ResponseReads) : Prop :=
  reads.dead = true → reads.Quiet ∧ ∀ call, reads.waits call = false

end ResponseReads

/-! ## What waiting reads can rely on -/

@[simp]
theorem FutureState.setResult_ne_pending {Value : Type} (value : Value)
    (future : Option (FutureState Value)) :
    FutureState.setResult value future ≠ some .pending := by
  rcases future with - | (- | - | -) <;> simp [FutureState.setResult]

@[simp]
theorem FutureState.setException_ne_pending {Value : Type} (future : Option (FutureState Value)) :
    FutureState.setException future ≠ some .pending := by
  rcases future with - | (- | - | -) <;> simp [FutureState.setException]

/-- The futures are pending only while what they stand for has not happened. -/
structure HttpResponseProtocol.Resolving (protocol : HttpResponseProtocol) : Prop where
  headers : protocol.headersFuture = some .pending → protocol.headersComplete = false
  body : protocol.bodyFuture = some .pending → protocol.messageComplete = false

/-- An iteration has been signalled, or there is nothing to signal. -/
structure HttpResponseProtocol.Signalling (protocol : HttpResponseProtocol) : Prop where
  streaming : protocol.streaming = true
  signalled : protocol.streamEvent = true ∨
    (protocol.messageComplete = false ∧ protocol.connectionLost = false)

namespace HttpResponseProtocol

theorem Resolving.onCallback {protocol : HttpResponseProtocol} (resolving : protocol.Resolving)
    (callback : ParserCallback) : (protocol.onCallback callback).Resolving := by
  cases callback with
  | headersComplete statusCode shouldKeepAlive =>
      exact ⟨fun pending => absurd pending (FutureState.setResult_ne_pending _ _), resolving.body⟩
  | body bytes =>
      unfold HttpResponseProtocol.onCallback
      dsimp only
      split
      · exact ⟨resolving.headers, resolving.body⟩
      · exact ⟨resolving.headers, resolving.body⟩
  | messageComplete =>
      constructor
      · simpa [HttpResponseProtocol.onCallback] using resolving.headers
      · simp [HttpResponseProtocol.onCallback]

theorem Signalling.onCallback {protocol : HttpResponseProtocol}
    (signalling : protocol.Signalling) (callback : ParserCallback) :
    (protocol.onCallback callback).Signalling := by
  cases callback with
  | headersComplete statusCode shouldKeepAlive =>
      exact ⟨signalling.streaming, signalling.signalled⟩
  | body bytes =>
      simp only [HttpResponseProtocol.onCallback, signalling.streaming, if_true]
      exact ⟨rfl, .inl rfl⟩
  | messageComplete =>
      simp only [HttpResponseProtocol.onCallback]
      rw [signalStreamEnd_streaming (by exact signalling.streaming)]
      exact ⟨signalling.streaming, .inl rfl⟩

/-- What every callback of the parser keeps, a network read keeps. -/
theorem foldl_onCallback (holds : HttpResponseProtocol → Prop)
    (each : ∀ protocol callback, holds protocol → holds (protocol.onCallback callback))
    (callbacks : List ParserCallback) {protocol : HttpResponseProtocol}
    (initially : holds protocol) :
    holds (callbacks.foldl HttpResponseProtocol.onCallback protocol) := by
  induction callbacks generalizing protocol with
  | nil => exact initially
  | cons callback callbacks ih => exact ih (each protocol callback initially)

theorem onCallback_streaming (protocol : HttpResponseProtocol) (callback : ParserCallback) :
    (protocol.onCallback callback).streaming = protocol.streaming := by
  cases callback with
  | headersComplete statusCode shouldKeepAlive => rfl
  | body bytes =>
      unfold HttpResponseProtocol.onCallback
      dsimp only
      split <;> rfl
  | messageComplete => simp [HttpResponseProtocol.onCallback]

theorem onNetwork_streaming (protocol : HttpResponseProtocol) (event : NetworkEvent) :
    (protocol.onNetwork event).streaming = protocol.streaming := by
  cases event with
  | dataReceived callbacks parserError =>
      have fed : (callbacks.foldl HttpResponseProtocol.onCallback protocol).streaming =
          protocol.streaming :=
        foldl_onCallback (fun fed => fed.streaming = protocol.streaming)
          (fun fed callback same => (onCallback_streaming fed callback).trans same) callbacks rfl
      simp only [HttpResponseProtocol.onNetwork, HttpResponseProtocol.dataReceived]
      split <;> exact fed
  | eofReceived => simp [HttpResponseProtocol.onNetwork, HttpResponseProtocol.eofReceived]
  | connectionLost failed =>
      simp [HttpResponseProtocol.onNetwork, HttpResponseProtocol.onConnectionLost]

theorem Resolving.onNetwork {protocol : HttpResponseProtocol} (resolving : protocol.Resolving)
    (event : NetworkEvent) : (protocol.onNetwork event).Resolving := by
  cases event with
  | dataReceived callbacks parserError =>
      have fed := foldl_onCallback Resolving (fun _ callback holds => holds.onCallback callback)
        callbacks resolving
      simp only [HttpResponseProtocol.onNetwork, HttpResponseProtocol.dataReceived]
      split
      · exact ⟨by simp, by simp⟩
      · exact fed
  | eofReceived =>
      constructor
      · simpa [HttpResponseProtocol.onNetwork, HttpResponseProtocol.eofReceived] using
          resolving.headers
      · simpa [HttpResponseProtocol.onNetwork, HttpResponseProtocol.eofReceived] using
          resolving.body
  | connectionLost failed =>
      constructor
      · simp [HttpResponseProtocol.onNetwork, HttpResponseProtocol.onConnectionLost]
      · intro pending
        simp only [HttpResponseProtocol.onNetwork, HttpResponseProtocol.onConnectionLost,
          signalStreamEnd_bodyFuture] at pending
        split at pending
        · exact absurd pending (FutureState.setException_ne_pending _)
        · exact absurd pending (FutureState.setResult_ne_pending _ _)

theorem Signalling.onNetwork {protocol : HttpResponseProtocol}
    (signalling : protocol.Signalling) (event : NetworkEvent) :
    (protocol.onNetwork event).Signalling := by
  cases event with
  | dataReceived callbacks parserError =>
      have fed := foldl_onCallback Signalling (fun _ callback holds => holds.onCallback callback)
        callbacks signalling
      simp only [HttpResponseProtocol.onNetwork, HttpResponseProtocol.dataReceived]
      split
      · exact ⟨fed.streaming, fed.signalled⟩
      · exact fed
  | eofReceived =>
      simp only [HttpResponseProtocol.onNetwork, HttpResponseProtocol.eofReceived]
      rw [signalStreamEnd_streaming (by exact signalling.streaming)]
      exact ⟨signalling.streaming, .inl rfl⟩
  | connectionLost failed =>
      simp only [HttpResponseProtocol.onNetwork, HttpResponseProtocol.onConnectionLost]
      rw [signalStreamEnd_streaming (by exact signalling.streaming)]
      exact ⟨signalling.streaming, .inl rfl⟩

end HttpResponseProtocol

namespace ResponseReads

/-- Waiting reads wait for what has not happened. -/
structure Waiting (reads : ResponseReads) : Prop where
  resolving : reads.protocol.Resolving
  streaming : reads.iterations ≠ [] → reads.protocol.streaming = true
  iterations : false ∈ reads.iterations →
    reads.protocol.Signalling ∧ reads.protocol.streamEvent = false

theorem Waiting.unsignalled {reads : ResponseReads} (waiting : reads.Waiting)
    (iterating : false ∈ reads.iterations) :
    reads.protocol.messageComplete = false ∧ reads.protocol.connectionLost = false := by
  obtain ⟨signalling, event⟩ := waiting.iterations iterating
  rcases signalling.signalled with signalled | nothing
  · rw [event] at signalled
    cases signalled
  · exact nothing

theorem Waiting.onCallback {reads : ResponseReads} (waiting : reads.Waiting)
    (event : NetworkEvent) : (reads.onCallback event).Waiting := by
  have resolving := waiting.resolving.onNetwork event
  have streaming := reads.protocol.onNetwork_streaming event
  unfold ResponseReads.onCallback wake
  dsimp only
  split
  · refine ⟨resolving, fun some => ?_, fun iterating => ?_⟩
    · exact streaming.trans (waiting.streaming (by simpa using some))
    · obtain ⟨_, -, contra⟩ := List.mem_map.mp iterating
      cases contra
  · rename_i unset
    refine ⟨resolving, fun some => streaming.trans (waiting.streaming some), fun iterating => ?_⟩
    exact ⟨(waiting.iterations iterating).1.onNetwork event, by simpa using unset⟩

theorem Waiting.start {reads : ResponseReads} (waiting : reads.Waiting) (call : ReadCall) :
    (reads.start call).Waiting := by
  cases call with
  | readHeaders =>
      simp only [ResponseReads.start]
      split
      · rename_i mustWait
        have missing : reads.protocol.headersComplete = false := by
          simpa [ResponseReads.waits] using mustWait
        refine ⟨⟨fun _ => missing, waiting.resolving.body⟩, waiting.streaming, fun iterating => ?_⟩
        obtain ⟨signalling, event⟩ := waiting.iterations iterating
        exact ⟨⟨signalling.streaming, signalling.signalled⟩, event⟩
      · exact waiting
  | readBody =>
      simp only [ResponseReads.start]
      split
      · rename_i mustWait
        have missing : reads.protocol.messageComplete = false := by
          simpa [ResponseReads.waits] using mustWait
        refine ⟨⟨waiting.resolving.headers, fun _ => missing⟩, waiting.streaming,
          fun iterating => ?_⟩
        obtain ⟨signalling, event⟩ := waiting.iterations iterating
        exact ⟨⟨signalling.streaming, signalling.signalled⟩, event⟩
      · exact waiting
  | iterBody =>
      simp only [ResponseReads.start]
      split
      · rename_i mustWait
        have missing : reads.protocol.messageComplete = false ∧
            reads.protocol.connectionLost = false := by
          simpa [ResponseReads.waits] using mustWait
        exact ⟨⟨waiting.resolving.headers, waiting.resolving.body⟩, fun _ => rfl,
          fun _ => ⟨⟨rfl, .inr missing⟩, rfl⟩⟩
      · rename_i returns
        refine ⟨⟨waiting.resolving.headers, waiting.resolving.body⟩, fun _ => rfl,
          fun iterating => ?_⟩
        exact absurd (waiting.unsignalled iterating) (by simpa [ResponseReads.waits] using returns)

theorem Waiting.runOn {reads : ResponseReads} (waiting : reads.Waiting) {iteration : Nat}
    (signalled : reads.iterations[iteration]? = some true) :
    (reads.runOn iteration).Waiting := by
  have streaming : reads.protocol.streaming = true :=
    waiting.streaming (List.ne_nil_of_mem (List.mem_of_getElem? signalled))
  unfold ResponseReads.runOn
  dsimp only
  split
  · rename_i ends
    refine ⟨⟨waiting.resolving.headers, waiting.resolving.body⟩, fun _ => streaming,
      fun iterating => ?_⟩
    have before := waiting.unsignalled (List.mem_of_mem_eraseIdx iterating)
    simp [before] at ends
  · rename_i goesOn
    exact ⟨⟨waiting.resolving.headers, waiting.resolving.body⟩, fun _ => streaming,
      fun _ => ⟨⟨streaming, .inr (by simpa using goesOn)⟩, rfl⟩⟩

theorem Waiting.step {reads next : ResponseReads} (waiting : reads.Waiting) {label : ReadLabel}
    (edge : reads.step label = some next) : next.Waiting := by
  cases label with
  | callback event =>
      obtain rfl := Option.some.inj edge
      exact waiting.onCallback event
  | call call =>
      obtain rfl := Option.some.inj edge
      exact waiting.start call
  | resume iteration =>
      obtain ⟨signalled, rfl⟩ : reads.iterations[iteration]? = some true ∧
          reads.runOn iteration = next := by
        simpa [ResponseReads.step] using edge
      exact waiting.runOn signalled

theorem waiting_of_reachable {reads : ResponseReads}
    (reachable : GuardedRuns.Reachable step {} reads) : reads.Waiting :=
  reachable.invariant Waiting (fun _ _ _ waiting edge => waiting.step edge)
    ⟨⟨by simp, by simp⟩, by simp, by simp⟩

/-- Losing the connection ends every wait that the protocol knows of. -/
theorem quiet_of_lost {reads : ResponseReads} (waiting : reads.Waiting)
    (replaced : reads.replaced = 0) (failed : Bool) :
    (reads.onCallback (.connectionLost failed)).Quiet := by
  have headers := FutureState.setException_ne_pending reads.protocol.headersFuture
  have body : (reads.protocol.onConnectionLost failed).bodyFuture ≠ some .pending := by
    simp only [HttpResponseProtocol.onConnectionLost,
      HttpResponseProtocol.signalStreamEnd_bodyFuture]
    split
    · exact FutureState.setException_ne_pending _
    · exact FutureState.setResult_ne_pending _ _
  unfold ResponseReads.onCallback wake
  dsimp only
  split
  · exact ⟨replaced, by simpa [HttpResponseProtocol.onNetwork,
      HttpResponseProtocol.onConnectionLost] using headers, body, by simp⟩
  · rename_i unset
    refine ⟨replaced, by simpa [HttpResponseProtocol.onNetwork,
      HttpResponseProtocol.onConnectionLost] using headers, body, fun iterating => unset ?_⟩
    have streaming := (waiting.iterations iterating).1.streaming
    simp only [HttpResponseProtocol.onNetwork, HttpResponseProtocol.onConnectionLost]
    rw [HttpResponseProtocol.signalStreamEnd_streaming (by exact streaming)]

/-- However the reads and the network got there, the loss of the connection leaves no read
waiting, if no read was started while another one of its kind was waiting. -/
theorem lost_connection_quiets {reads : ResponseReads}
    (reachable : GuardedRuns.Reachable step {} reads) (replaced : reads.replaced = 0)
    (failed : Bool) : (reads.onCallback (.connectionLost failed)).Quiet :=
  quiet_of_lost (waiting_of_reachable reachable) replaced failed

/-- The headers have arrived and an iteration waits. -/
def iteratingBody : List ReadLabel :=
  [.call .readHeaders, .callback (.dataReceived [.headersComplete 200 true] false),
    .call .iterBody]

theorem lost_connection_quiets_iteratingBody :
    ∃ reads, GuardedRuns.run step {} iteratingBody = some reads ∧ reads.iterations = [false] ∧
      (reads.onCallback (.connectionLost true)).Quiet :=
  ⟨_, rfl, rfl, lost_connection_quiets ⟨iteratingBody, rfl⟩ rfl true⟩

/-- On a dead connection no read waits and none would, exactly if the message was complete
and no read was started while another one of its kind was waiting. -/
theorem responsive_iff {reads : ResponseReads} (reachable : GuardedRuns.Reachable step {} reads) :
    reads.Responsive ↔
      (reads.dead = true → reads.protocol.headersComplete = true ∧
        reads.protocol.messageComplete = true ∧ reads.replaced = 0) := by
  have waiting := waiting_of_reachable reachable
  constructor
  · intro responsive dead
    obtain ⟨quiet, returns⟩ := responsive dead
    refine ⟨?_, ?_, quiet.replaced⟩
    · simpa [waits] using returns .readHeaders
    · simpa [waits] using returns .readBody
  · intro complete dead
    obtain ⟨headers, message, replaced⟩ := complete dead
    refine ⟨⟨replaced, ?_, ?_, ?_⟩, ?_⟩
    · intro pending
      rw [waiting.resolving.headers pending] at headers
      cases headers
    · intro pending
      rw [waiting.resolving.body pending] at message
      cases message
    · intro iterating
      rw [(waiting.unsignalled iterating).1] at message
      cases message
    · intro call
      cases call <;> simp [waits, headers, message]

/-- The whole message is there before the connection is lost. -/
def lostAfterMessage : List ReadLabel :=
  [.call .readHeaders,
    .callback (.dataReceived [.headersComplete 200 true, .body [104], .messageComplete] false),
    .callback (.connectionLost false), .call .readBody]

theorem responsive_lostAfterMessage :
    ∃ reads, GuardedRuns.run step {} lostAfterMessage = some reads ∧ reads.dead = true ∧
      reads.Responsive :=
  ⟨_, rfl, rfl, (responsive_iff ⟨lostAfterMessage, rfl⟩).mpr fun _ => ⟨rfl, rfl, rfl⟩⟩

/-- The headers are read, and the parser raises while an iteration waits. -/
def raisedInStream : List ReadLabel :=
  [.call .readHeaders, .callback (.dataReceived [.headersComplete 200 true] false),
    .call .iterBody, .callback (.dataReceived [] true)]

/-- The connection is lost between the headers and the start of the read of the body. -/
def lostBeforeBody : List ReadLabel :=
  [.call .readHeaders, .callback (.dataReceived [.headersComplete 200 true] false),
    .callback (.connectionLost false), .call .readBody]

/-- An iteration and a body read that nothing resolves any more. -/
theorem unresponsive :
    (∃ reads, GuardedRuns.run step {} raisedInStream = some reads ∧
      reads.dead = true ∧ reads.iterations = [false] ∧ ¬reads.Responsive) ∧
    (∃ reads, GuardedRuns.run step {} lostBeforeBody = some reads ∧
      reads.dead = true ∧ reads.protocol.bodyFuture = some .pending ∧ ¬reads.Responsive) := by
  refine ⟨⟨_, rfl, rfl, rfl, fun responsive => ?_⟩, ⟨_, rfl, rfl, rfl, fun responsive => ?_⟩⟩
  · exact (responsive rfl).1.iterations List.mem_cons_self
  · exact (responsive rfl).1.body rfl

end ResponseReads

end InferenceEndpoint
