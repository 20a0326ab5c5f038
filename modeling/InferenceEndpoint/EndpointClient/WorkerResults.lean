import InferenceEndpoint.EndpointClient.StreamResults
import InferenceEndpoint.EndpointClient.WorkerTasks

/-!
# One result for each query

A query whose request can be prepared gets exactly one final result, unless the parser
gives up on a response in the middle while its task does not wait for the whole body:
nothing wakes the task then.
-/

namespace InferenceEndpoint

namespace WorkerState

variable {Delta Acc : Type}

/-- The final results that were sent for a request. -/
def finals (state : WorkerState Acc) (request : RequestId) : List QueryResult :=
  state.responses.filterMap fun response =>
    if response.1 = request then
      match response.2 with
      | .result result => some result
      | .chunk _ => none
    else none

/-- Nothing more comes for the response of a request. -/
def ended (state : WorkerState Acc) (request : RequestId) : Bool :=
  let protocol := (state.conn request).protocol
  protocol.messageComplete || protocol.exc || state.lost request

/-- No request is being fired, the responses of all requests have ended and no task can
run on. -/
structure Settled (state : WorkerState Acc) : Prop where
  loop : ∀ request, state.loop ≠ .acquiring request
  tasks : ∀ request, (state.stage request).active = true →
    state.ended request = true ∧ state.runnable request = false

/-- Every query that was received has one final result once the worker is settled, and
never two. -/
def ExactlyOne (state : WorkerState Acc) : Prop :=
  (∀ request, (state.finals request).length ≤ 1) ∧
    (state.shutdown = false → state.Settled →
      ∀ request query, state.received[request]? = some query →
        ∃ result, state.finals request = [result] ∧ result.id = query.id)

/-- The request of a query can be prepared, and the parser does not give up on a response
between its headers and its end, unless the whole body is waited for. -/
def Answerable (codec : WorkerCodec Delta Acc) (state : WorkerState Acc) :
    WorkerLabel → Prop
  | .recv query => (codec.prepareRequest query).isOk = true
  | .network request (.dataReceived callbacks true) =>
      let fed := callbacks.foldl HttpResponseProtocol.onCallback (state.conn request).protocol
      match state.stage request with
      | .readingHeaders => fed.headersComplete = false ∨ fed.messageComplete = true
      | .readingErrorBody _ | .readingBody => True
      | _ => fed.messageComplete = true
  | _ => True

end WorkerState

/-! ## What a waiting task can rely on -/

namespace HttpResponseProtocol

/-- Connected, and the request is not written yet. -/
structure Connected (protocol : HttpResponseProtocol) (lost : Bool) : Prop where
  kept : lost = false
  readable : protocol.exc = true → protocol.messageComplete = true
  headersFirst : protocol.messageComplete = true → protocol.headersComplete = true

/-- The headers are waited for, are there, or will not come. -/
def HeadersAwaited (protocol : HttpResponseProtocol) (lost : Bool) : Prop :=
  (protocol.headersFuture = some .pending ∧ protocol.headersComplete = false ∧
      protocol.messageComplete = false ∧ protocol.exc = false ∧ lost = false) ∨
    ((∃ statusCode, protocol.headersFuture = some (.result statusCode)) ∧
      protocol.headersComplete = true ∧ lost = false ∧
      (protocol.exc = true → protocol.messageComplete = true)) ∨
    protocol.headersFuture = some .exception

def BodyAwaited (protocol : HttpResponseProtocol) (lost : Bool) : Prop :=
  (protocol.bodyFuture = some .pending ∧ protocol.messageComplete = false ∧
      protocol.exc = false ∧ lost = false) ∨
    ∃ future, protocol.bodyFuture = some future ∧ future ≠ .pending

structure StreamAwaited (protocol : HttpResponseProtocol) (lost : Bool) : Prop where
  streaming : protocol.streaming = true
  signalled : protocol.streamEvent = true ∨
    (protocol.messageComplete = false ∧ protocol.exc = false ∧ lost = false)
  readable : protocol.exc = true →
    protocol.messageComplete = true ∨ protocol.connectionLost = true
  kept : lost = true → protocol.connectionLost = true

theorem ordered_cons {protocol : HttpResponseProtocol} {callback : ParserCallback}
    {callbacks : List ParserCallback}
    (ordered : protocol.ordered (callback :: callbacks) = true) :
    (protocol.headersComplete = true ∨ ∃ statusCode keepAlive,
        callback = .headersComplete statusCode keepAlive) ∧
      (protocol.onCallback callback).ordered callbacks = true := by
  obtain ⟨first, rest⟩ := Bool.and_eq_true_iff.mp ordered
  refine ⟨?_, rest⟩
  cases callback with
  | headersComplete statusCode keepAlive => exact .inr ⟨statusCode, keepAlive, rfl⟩
  | body bytes => exact .inl first
  | messageComplete => exact .inl first

/-- Callbacks in order keep what each of them keeps. -/
theorem foldl_ordered (holds : HttpResponseProtocol → Prop)
    (each : ∀ protocol callback, holds protocol →
      (protocol.headersComplete = true ∨ ∃ statusCode keepAlive,
        callback = .headersComplete statusCode keepAlive) →
      holds (protocol.onCallback callback))
    (callbacks : List ParserCallback) {protocol : HttpResponseProtocol}
    (ordered : protocol.ordered callbacks = true) (initially : holds protocol) :
    holds (callbacks.foldl onCallback protocol) := by
  induction callbacks generalizing protocol with
  | nil => exact initially
  | cons callback callbacks ih =>
      obtain ⟨first, rest⟩ := ordered_cons ordered
      exact ih rest (each protocol callback initially first)

theorem Connected.onCallback {protocol : HttpResponseProtocol} {lost : Bool}
    {callback : ParserCallback} (connected : protocol.Connected lost)
    (first : protocol.headersComplete = true ∨ ∃ statusCode keepAlive,
      callback = .headersComplete statusCode keepAlive) :
    (protocol.onCallback callback).Connected lost := by
  cases callback with
  | headersComplete statusCode keepAlive =>
      exact ⟨connected.kept, connected.readable, fun _ => rfl⟩
  | body bytes =>
      unfold HttpResponseProtocol.onCallback
      dsimp only
      split
      · exact ⟨connected.kept, connected.readable, connected.headersFirst⟩
      · exact ⟨connected.kept, connected.readable, connected.headersFirst⟩
  | messageComplete =>
      have headers : protocol.headersComplete = true := by simpa using first
      exact ⟨connected.kept, fun _ => by simp [HttpResponseProtocol.onCallback],
        fun _ => by simpa [HttpResponseProtocol.onCallback] using headers⟩

theorem HeadersAwaited.onCallback {protocol : HttpResponseProtocol} {lost : Bool}
    {callback : ParserCallback} (awaited : protocol.HeadersAwaited lost)
    (first : protocol.headersComplete = true ∨ ∃ statusCode keepAlive,
      callback = .headersComplete statusCode keepAlive) :
    (protocol.onCallback callback).HeadersAwaited lost := by
  rcases awaited with ⟨future, headers, -, exc, kept⟩ | ⟨⟨code, future⟩, headers, kept, readable⟩ |
      future
  · rcases first with complete | ⟨statusCode, keepAlive, rfl⟩
    · rw [headers] at complete
      cases complete
    · refine .inr (.inl ⟨⟨statusCode, ?_⟩, rfl, kept, fun raised => ?_⟩)
      · simp [HttpResponseProtocol.onCallback, future, FutureState.setResult]
      · exact absurd raised (by simp [HttpResponseProtocol.onCallback, exc])
  · refine .inr (.inl ?_)
    cases callback with
    | headersComplete statusCode keepAlive =>
        exact ⟨⟨code, by simp [HttpResponseProtocol.onCallback, future, FutureState.setResult]⟩,
          rfl, kept, readable⟩
    | body bytes =>
        unfold HttpResponseProtocol.onCallback
        dsimp only
        split
        · exact ⟨⟨code, future⟩, headers, kept, readable⟩
        · exact ⟨⟨code, future⟩, headers, kept, readable⟩
    | messageComplete =>
        exact ⟨⟨code, by simpa [HttpResponseProtocol.onCallback] using future⟩,
          by simpa [HttpResponseProtocol.onCallback] using headers, kept,
          fun _ => by simp [HttpResponseProtocol.onCallback]⟩
  · refine .inr (.inr ?_)
    cases callback with
    | headersComplete statusCode keepAlive =>
        simp [HttpResponseProtocol.onCallback, future, FutureState.setResult]
    | body bytes =>
        unfold HttpResponseProtocol.onCallback
        dsimp only
        split <;> exact future
    | messageComplete => simpa [HttpResponseProtocol.onCallback] using future

theorem BodyAwaited.onCallback {protocol : HttpResponseProtocol} {lost : Bool}
    {callback : ParserCallback} (awaited : protocol.BodyAwaited lost) :
    (protocol.onCallback callback).BodyAwaited lost := by
  cases callback with
  | headersComplete statusCode keepAlive => exact awaited
  | body bytes =>
      unfold HttpResponseProtocol.onCallback
      dsimp only
      split <;> exact awaited
  | messageComplete =>
      rcases awaited with ⟨future, -⟩ | ⟨future, found, done⟩
      · refine .inr ⟨.result protocol.bodyChunks.flatten, ?_, by simp⟩
        simp [HttpResponseProtocol.onCallback, future, FutureState.setResult]
      · refine .inr ⟨future, ?_, done⟩
        cases future with
        | pending => exact absurd rfl done
        | result value => simp [HttpResponseProtocol.onCallback, found, FutureState.setResult]
        | exception => simp [HttpResponseProtocol.onCallback, found, FutureState.setResult]

theorem StreamAwaited.onCallback {protocol : HttpResponseProtocol} {lost : Bool}
    {callback : ParserCallback} (awaited : protocol.StreamAwaited lost) :
    (protocol.onCallback callback).StreamAwaited lost := by
  cases callback with
  | headersComplete statusCode keepAlive =>
      exact ⟨awaited.streaming, awaited.signalled, awaited.readable, awaited.kept⟩
  | body bytes =>
      simp only [HttpResponseProtocol.onCallback, awaited.streaming, if_true]
      exact ⟨rfl, .inl rfl, awaited.readable, awaited.kept⟩
  | messageComplete =>
      simp only [HttpResponseProtocol.onCallback]
      rw [signalStreamEnd_streaming (by exact awaited.streaming)]
      exact ⟨awaited.streaming, .inl rfl, fun _ => .inl rfl, awaited.kept⟩

/-! The callbacks of one read, and a parser error after them. -/

theorem setException_of_pending {Value : Type} {future : Option (FutureState Value)}
    (pending : future = some .pending) : FutureState.setException future = some .exception := by
  rw [pending]
  rfl

theorem setException_of_done {Value : Type} {future : Option (FutureState Value)}
    (done : future ≠ some .pending) : FutureState.setException future = future := by
  match future, done with
  | none, _ => rfl
  | some (.result _), _ => rfl
  | some .exception, _ => rfl

theorem Connected.dataReceived {protocol : HttpResponseProtocol} {lost parserError : Bool}
    {callbacks : List ParserCallback} (connected : protocol.Connected lost)
    (ordered : protocol.ordered callbacks = true)
    (whole : parserError = true →
      (callbacks.foldl HttpResponseProtocol.onCallback protocol).messageComplete = true) :
    (protocol.dataReceived callbacks parserError).Connected lost := by
  have fed : (callbacks.foldl HttpResponseProtocol.onCallback protocol).Connected lost :=
    foldl_ordered (fun fed => fed.Connected lost)
      (fun _ _ holds first => Connected.onCallback holds first) callbacks ordered connected
  unfold HttpResponseProtocol.dataReceived
  dsimp only
  split
  · rename_i failed
    exact ⟨fed.kept, fun _ => whole failed, fed.headersFirst⟩
  · exact fed

theorem HeadersAwaited.dataReceived {protocol : HttpResponseProtocol} {lost parserError : Bool}
    {callbacks : List ParserCallback} (awaited : protocol.HeadersAwaited lost)
    (ordered : protocol.ordered callbacks = true)
    (whole : parserError = true →
      (callbacks.foldl HttpResponseProtocol.onCallback protocol).headersComplete = false ∨
        (callbacks.foldl HttpResponseProtocol.onCallback protocol).messageComplete = true) :
    (protocol.dataReceived callbacks parserError).HeadersAwaited lost := by
  have fed : (callbacks.foldl HttpResponseProtocol.onCallback protocol).HeadersAwaited lost :=
    foldl_ordered (fun fed => fed.HeadersAwaited lost)
      (fun _ _ holds first => HeadersAwaited.onCallback holds first) callbacks ordered awaited
  unfold HttpResponseProtocol.dataReceived
  dsimp only
  split
  · rename_i failed
    rcases fed with ⟨future, -⟩ | ⟨⟨code, future⟩, headers, kept, -⟩ | future
    · exact .inr (.inr (setException_of_pending future))
    · refine .inr (.inl ⟨⟨code, ?_⟩, headers, kept, fun _ => ?_⟩)
      · dsimp only
        rw [setException_of_done (by simp [future]), future]
      · rcases whole failed with incomplete | complete
        · rw [headers] at incomplete
          cases incomplete
        · exact complete
    · refine .inr (.inr ?_)
      dsimp only
      rw [setException_of_done (by simp [future]), future]
  · exact fed

theorem BodyAwaited.dataReceived {protocol : HttpResponseProtocol} {lost : Bool}
    (awaited : protocol.BodyAwaited lost) (callbacks : List ParserCallback) (parserError : Bool) :
    (protocol.dataReceived callbacks parserError).BodyAwaited lost := by
  have fed : (callbacks.foldl HttpResponseProtocol.onCallback protocol).BodyAwaited lost := by
    induction callbacks generalizing protocol with
    | nil => exact awaited
    | cons callback callbacks ih => exact ih awaited.onCallback
  unfold HttpResponseProtocol.dataReceived
  dsimp only
  split
  · rcases fed with ⟨future, -⟩ | ⟨future, found, done⟩
    · exact .inr ⟨.exception, setException_of_pending future, nofun⟩
    · refine .inr ⟨future, ?_, done⟩
      dsimp only
      rw [setException_of_done (by simp [found, done]), found]
  · exact fed

theorem StreamAwaited.dataReceived {protocol : HttpResponseProtocol} {lost parserError : Bool}
    {callbacks : List ParserCallback} (awaited : protocol.StreamAwaited lost)
    (whole : parserError = true →
      (callbacks.foldl HttpResponseProtocol.onCallback protocol).messageComplete = true) :
    (protocol.dataReceived callbacks parserError).StreamAwaited lost := by
  have fed : (callbacks.foldl HttpResponseProtocol.onCallback protocol).StreamAwaited lost := by
    clear whole
    induction callbacks generalizing protocol with
    | nil => exact awaited
    | cons callback callbacks ih => exact ih awaited.onCallback
  unfold HttpResponseProtocol.dataReceived
  dsimp only
  split
  · rename_i failed
    have complete := whole failed
    refine ⟨fed.streaming, ?_, fun _ => .inl complete, fed.kept⟩
    rcases fed.signalled with signalled | ⟨incomplete, -⟩
    · exact .inl signalled
    · rw [complete] at incomplete
      cases incomplete
  · exact fed

theorem HeadersAwaited.eofReceived {protocol : HttpResponseProtocol} {lost : Bool}
    (awaited : protocol.HeadersAwaited lost) : protocol.eofReceived.HeadersAwaited lost := by
  simpa [HeadersAwaited, HttpResponseProtocol.eofReceived] using awaited

theorem BodyAwaited.eofReceived {protocol : HttpResponseProtocol} {lost : Bool}
    (awaited : protocol.BodyAwaited lost) : protocol.eofReceived.BodyAwaited lost := by
  simpa [BodyAwaited, HttpResponseProtocol.eofReceived] using awaited

theorem Connected.eofReceived {protocol : HttpResponseProtocol} {lost : Bool}
    (connected : protocol.Connected lost) : protocol.eofReceived.Connected lost where
  kept := connected.kept
  readable := by simpa [HttpResponseProtocol.eofReceived] using connected.readable
  headersFirst := by simpa [HttpResponseProtocol.eofReceived] using connected.headersFirst

theorem StreamAwaited.eofReceived {protocol : HttpResponseProtocol} {lost : Bool}
    (awaited : protocol.StreamAwaited lost) : protocol.eofReceived.StreamAwaited lost := by
  unfold HttpResponseProtocol.eofReceived
  rw [signalStreamEnd_streaming (by exact awaited.streaming)]
  exact ⟨awaited.streaming, .inl rfl, fun _ => .inr rfl, fun _ => rfl⟩

theorem HeadersAwaited.onConnectionLost {protocol : HttpResponseProtocol}
    (pending : protocol.headersFuture = some .pending) (failed lost : Bool) :
    (protocol.onConnectionLost failed).HeadersAwaited lost := by
  refine .inr (.inr ?_)
  simp [HttpResponseProtocol.onConnectionLost, pending, FutureState.setException]

theorem BodyAwaited.onConnectionLost {protocol : HttpResponseProtocol}
    (pending : protocol.bodyFuture = some .pending) (failed lost : Bool) :
    (protocol.onConnectionLost failed).BodyAwaited lost := by
  refine .inr ?_
  simp only [HttpResponseProtocol.onConnectionLost, signalStreamEnd_bodyFuture, pending]
  split
  · exact ⟨.exception, rfl, nofun⟩
  · exact ⟨.result _, rfl, nofun⟩

theorem StreamAwaited.onConnectionLost {protocol : HttpResponseProtocol} {lost : Bool}
    (awaited : protocol.StreamAwaited lost) (failed lost' : Bool) :
    (protocol.onConnectionLost failed).StreamAwaited lost' := by
  unfold HttpResponseProtocol.onConnectionLost
  rw [signalStreamEnd_streaming (by exact awaited.streaming)]
  exact ⟨awaited.streaming, .inl rfl, fun _ => .inr rfl, fun _ => rfl⟩

end HttpResponseProtocol

namespace WorkerState

variable {Delta Acc : Type}

/-! ## The final results -/

section

variable {state before after : WorkerState Acc} {request : RequestId}

theorem finals_append {sent : List (RequestId × Response)}
    (responses : after.responses = before.responses ++ sent) (request : RequestId) :
    after.finals request = before.finals request ++
      (sent.filterMap fun response =>
        if response.1 = request then
          match response.2 with
          | .result result => some result
          | .chunk _ => none
        else none) := by
  rw [finals, responses, List.filterMap_append]
  rfl

@[simp]
theorem finals_setStage (stage : RequestStage Acc) (number : RequestId) :
    (state.setStage number stage).finals request = state.finals request :=
  rfl

@[simp]
theorem finals_setProtocol (protocol : HttpResponseProtocol) (number : RequestId) :
    (state.setProtocol number protocol).finals request = state.finals request :=
  rfl

@[simp]
theorem finals_sendChunks (chunks : List StreamChunk) (number : RequestId) :
    (state.sendChunks number chunks).finals request = state.finals request := by
  rw [finals_append rfl]
  have none_ : (chunks.map fun chunk => (number, Response.chunk chunk)).filterMap
      (fun response => if response.1 = request then
        match response.2 with
        | .result result => some result
        | .chunk _ => none
      else none) = [] := by
    rw [List.filterMap_eq_nil_iff]
    intro response member
    obtain ⟨chunk, -, rfl⟩ := List.mem_map.mp member
    simp
  rw [none_, List.append_nil]

@[simp]
theorem finals_send (result : QueryResult) :
    (state.send request (.result result)).finals request = state.finals request ++ [result] := by
  rw [finals_append rfl]
  simp

@[simp]
theorem finals_release (number : RequestId) :
    (state.release number).finals request = state.finals request := by
  unfold release
  dsimp only
  split
  · rfl
  · split <;> rfl

/-- What concerns one request adds no final result for another. -/
theorem Own.finals (own : Own request before after) {other : RequestId}
    (different : other ≠ request) : after.finals other = before.finals other := by
  obtain ⟨sent, responses⟩ := own.sent
  rw [finals_append responses, List.filterMap_eq_nil_iff.mpr, List.append_nil]
  intro response member
  obtain ⟨_, -, rfl⟩ := List.mem_map.mp member
  exact if_neg (Ne.symm different)

end

/-- The task has ended with one final result; after the shutdown perhaps without one. -/
structure Concluded (request : RequestId) (before after : WorkerState Acc) : Prop where
  finished : after.stage request = .finished
  answered :
    (∃ result, after.finals request = before.finals request ++ [result] ∧
      result.id = (before.request request).queryId) ∨
    before.shutdown = true ∧ after.finals request = before.finals request

section

variable (workerId : Nat) (state : WorkerState Acc) {request : RequestId}

theorem handleError_finals (error : ErrorData) :
    (∃ result, (state.handleError workerId request error).finals request =
        state.finals request ++ [result] ∧ result.id = (state.request request).queryId) ∨
      state.shutdown = true ∧
        (state.handleError workerId request error).finals request = state.finals request := by
  unfold handleError
  split
  · rename_i shutdown
    exact .inr ⟨shutdown, rfl⟩
  · exact .inl ⟨_, finals_send _, rfl⟩

theorem concluded_fail (error : ErrorData) :
    Concluded request state (state.fail workerId request error) where
  finished := by simp [fail, finish, setStage]
  answered := by
    simp only [fail, finish, finals_setStage, finals_release]
    exact handleError_finals workerId state error

theorem concluded_conclude {outcome : Except ErrorData QueryResult}
    (named : ∀ result, outcome = .ok result → result.id = (state.request request).queryId) :
    Concluded request state (state.conclude workerId request outcome) := by
  cases outcome with
  | error error => exact concluded_fail workerId state error
  | ok result =>
      refine ⟨by simp [conclude, finish, setStage],
        .inl ⟨{ result with workerId := some workerId }, ?_, named result rfl⟩⟩
      simp only [conclude, finish, finals_setStage, finals_release, finals_send]

variable {state}

/-- What is left as it was before a task concludes may be put in front. -/
theorem Concluded.after_quiet {middle after : WorkerState Acc}
    (concluded : Concluded request middle after)
    (finals : middle.finals request = state.finals request)
    (requests : middle.request = state.request) (shutdown : middle.shutdown = state.shutdown) :
    Concluded request state after := by
  refine ⟨concluded.finished, ?_⟩
  rw [← finals, ← requests, ← shutdown]
  exact concluded.answered

end

end WorkerState

/-! ## The accumulator keeps the id of its query -/

namespace WorkerCodec

variable {Delta Acc : Type} (codec : WorkerCodec Delta Acc)

theorem prepareRequest_id {query : Query} {request : InFlightRequest}
    (prepared : codec.prepareRequest query = .ok request) : request.queryId = query.id := by
  rw [prepareRequest] at prepared
  cases encoded : codec.encodeQuery query with
  | error error => simp [encoded, Except.bind] at prepared
  | ok bytes =>
      simp only [encoded, Except.bind] at prepared
      cases built : codec.buildRequest bytes (codec.isStreaming query) query.headers with
      | error error => simp [built, Except.map] at prepared
      | ok httpBytes =>
          simp only [built, Except.map, Except.ok.injEq] at prepared
          rw [← prepared]

theorem addChunks_id {acc next : Acc} {deltas : List Delta}
    (added : (codec.addChunks acc deltas).2 = .ok next) :
    codec.queryId next = codec.queryId acc := by
  induction deltas generalizing acc with
  | nil =>
      obtain rfl := Except.ok.inj added
      rfl
  | cons delta deltas ih =>
      rw [addChunks] at added
      split at added
      · cases added
      · rename_i step
        exact (ih added).trans (codec.addChunk_id step)

theorem takeEvents_id {acc next : Acc} {events : Bytes}
    (taken : (codec.takeEvents acc events).2 = .ok next) :
    codec.queryId next = codec.queryId acc := by
  rw [takeEvents] at taken
  split at taken
  · cases taken
  · exact codec.addChunks_id taken

theorem drain_id {incompleteChunk rest : Bytes} {acc next : Acc} {chunks : List Bytes}
    (drained : (codec.drain incompleteChunk acc chunks).2 = .ok (rest, next)) :
    codec.queryId next = codec.queryId acc := by
  rw [drain] at drained
  split at drained
  · obtain ⟨-, rfl⟩ := Prod.mk.inj (Except.ok.inj drained)
    rfl
  · dsimp only [takeRead] at drained
    split at drained
    · obtain ⟨-, rfl⟩ := Prod.mk.inj (Except.ok.inj drained)
      rfl
    · rename_i events rest' _
      cases taken : (codec.takeEvents acc events).2 with
      | error error => simp [taken, Except.map] at drained
      | ok later =>
          simp only [taken, Except.map, Except.ok.injEq, Prod.mk.injEq] at drained
          obtain ⟨-, rfl⟩ := drained
          exact codec.takeEvents_id taken

theorem endStream_id {incompleteChunk : Bytes} {acc : Acc} {result : QueryResult}
    (ended : (codec.endStream incompleteChunk acc).2 = .ok result) :
    result.id = codec.queryId acc := by
  dsimp only [endStream] at ended
  split at ended
  · exact codec.final_id ended
  · cases taken : (codec.takeEvents acc incompleteChunk).2 with
    | error error => simp [taken, Except.bind] at ended
    | ok later =>
        simp only [taken, Except.bind] at ended
        rw [codec.final_id ended, codec.takeEvents_id taken]

end WorkerCodec

namespace WorkerState

variable {Delta Acc : Type}

/-! ## The task of a request -/

/-- What a task between two steps waits for will come, or has come. -/
def Waiting (codec : WorkerCodec Delta Acc) (queryId : QueryId) (lost : Bool)
    (protocol : HttpResponseProtocol) : RequestStage Acc → Prop
  | .readingHeaders => protocol.HeadersAwaited lost
  | .readingErrorBody _ | .readingBody => protocol.BodyAwaited lost
  | .streaming _ acc => protocol.StreamAwaited lost ∧ codec.queryId acc = queryId
  | _ => False

/-- The task has ended, or waits. -/
def Proceeds (codec : WorkerCodec Delta Acc) (request : RequestId)
    (before after : WorkerState Acc) : Prop :=
  Concluded request before after ∨
    after.finals request = before.finals request ∧
      Waiting codec (before.request request).queryId (before.lost request)
        (after.conn request).protocol (after.stage request)

section

variable (codec : WorkerCodec Delta Acc) (workerId : Nat) {state : WorkerState Acc}
  {request : RequestId}

theorem concluded_errorBody (statusCode : Nat) (body : Bytes) :
    Concluded request state (errorBody codec workerId state request statusCode body) := by
  have own : Own request state (state.release request) := Own.release state
  exact (concluded_fail workerId _ _).after_quiet (finals_release request) own.requests
    own.shutdown

theorem concluded_wholeBody (body : Bytes) :
    Concluded request state (wholeBody codec workerId state request body) := by
  have own : Own request state (state.release request) := Own.release state
  refine (concluded_conclude workerId _ fun result decoded => ?_).after_quiet
    (finals_release request) own.requests own.shutdown
  rw [own.requests]
  exact codec.decode_id decoded

theorem concluded_endStream {incompleteChunk : Bytes} {acc : Acc}
    (named : codec.queryId acc = (state.request request).queryId) :
    Concluded request state (endStream codec workerId state request incompleteChunk acc) := by
  have own : Own request state ((state.sendChunks request
      (codec.endStream incompleteChunk acc).1).release request) :=
    (Own.sendChunks state _).trans (Own.release _)
  have later : ∀ result, (codec.endStream incompleteChunk acc).2 = .ok result →
      result.id = (((state.sendChunks request (codec.endStream incompleteChunk acc).1).release
        request).request request).queryId := by
    intro result ended
    rw [own.requests, codec.endStream_id ended, named]
  have concluded := concluded_conclude workerId _ later
  exact concluded.after_quiet (by rw [finals_release, finals_sendChunks]) own.requests
    own.shutdown

/-- The whole body is there, or will be waited for. -/
theorem proceeds_readBody {stage : RequestStage Acc} {next : Bytes → WorkerState Acc}
    (reads : ∀ protocol : HttpResponseProtocol, protocol.BodyAwaited (state.lost request) →
      Waiting codec (state.request request).queryId (state.lost request) protocol stage)
    (kept : state.lost request = false)
    (readable : (state.conn request).protocol.exc = true →
      (state.conn request).protocol.messageComplete = true)
    (continues : ∀ body, Concluded request state (next body)) :
    Proceeds codec request state (state.readBody request stage next) := by
  unfold readBody
  dsimp only
  split
  · exact .inl (continues _)
  · rename_i incomplete
    refine .inr ⟨rfl, ?_⟩
    simp only [setStage, setProtocol, Function.update_self]
    refine reads _ (.inl ⟨rfl, by simpa using incomplete, ?_, kept⟩)
    rw [← Bool.not_eq_true]
    exact fun raised => incomplete (readable raised)

/-- The stream may be read on. -/
structure StreamReady (protocol : HttpResponseProtocol) (lost : Bool) : Prop where
  streaming : protocol.streaming = true
  readable : protocol.exc = true →
    protocol.messageComplete = true ∨ protocol.connectionLost = true
  kept : lost = true → protocol.connectionLost = true

theorem proceeds_streamLoop {incompleteChunk : Bytes} {acc : Acc}
    (ready : StreamReady (state.conn request).protocol (state.lost request))
    (named : codec.queryId acc = (state.request request).queryId) :
    Proceeds codec request state
      (streamLoop codec workerId state request incompleteChunk acc) := by
  unfold streamLoop
  dsimp only
  split
  · rename_i error _
    exact .inl ((concluded_fail workerId _ error).after_quiet (finals_sendChunks ..) rfl rfl)
  · rename_i rest next drained
    have later := (codec.drain_id drained).trans named
    split
    · refine .inl ((concluded_endStream codec workerId (by exact later)).after_quiet ?_ rfl rfl)
      rw [finals_setProtocol, finals_sendChunks]
    · rename_i goesOn
      simp only [Bool.or_eq_true, not_or, Bool.not_eq_true] at goesOn
      obtain ⟨incomplete, connected⟩ := goesOn
      refine .inr ⟨by rw [finals_setStage, finals_setProtocol, finals_sendChunks], ?_⟩
      simp only [setStage, setProtocol, sendChunks, Function.update_self]
      refine ⟨⟨ready.streaming, .inr ⟨incomplete, ?_, ?_⟩, ready.readable, ready.kept⟩, later⟩
      · rw [← Bool.not_eq_true]
        intro raised
        rcases ready.readable raised with complete | lost
        · rw [incomplete] at complete
          cases complete
        · rw [connected] at lost
          cases lost
      · rw [← Bool.not_eq_true]
        intro lost
        have closed := ready.kept lost
        rw [connected] at closed
        cases closed

/-- Quiet changes before a task proceeds may be put in front. -/
theorem Proceeds.after_quiet {codec : WorkerCodec Delta Acc} {middle after : WorkerState Acc}
    (proceeds : Proceeds codec request middle after) (own : Own request state middle)
    (finals : middle.finals request = state.finals request) :
    Proceeds codec request state after := by
  rcases proceeds with concluded | ⟨same, waiting⟩
  · exact .inl (concluded.after_quiet finals own.requests own.shutdown)
  · refine .inr ⟨same.trans finals, ?_⟩
    rw [← own.requests, ← own.lost]
    exact waiting

theorem proceeds_startStream (kept : state.lost request = false)
    (readable : (state.conn request).protocol.exc = true →
      (state.conn request).protocol.messageComplete = true) :
    Proceeds codec request state (startStream codec workerId state request) := by
  unfold startStream
  dsimp only
  split
  · rename_i error _
    refine .inl ((concluded_fail workerId _ error).after_quiet ?_ rfl rfl)
    rw [finals_sendChunks, finals_setProtocol]
  · rename_i rest next drained
    have named : codec.queryId next = (state.request request).queryId := by
      rw [codec.drain_id drained, codec.accumulator_id]
    have finals : ∀ (chunks : List StreamChunk) (first second : HttpResponseProtocol),
        (((state.setProtocol request first).sendChunks request chunks).setProtocol request
          second).finals request = state.finals request := by
      intro chunks first second
      rw [finals_setProtocol, finals_sendChunks, finals_setProtocol]
    split
    · exact .inl ((concluded_endStream codec workerId (by exact named)).after_quiet
        (finals _ _ _) rfl rfl)
    · refine (proceeds_streamLoop codec workerId ?_ (by exact named)).after_quiet
        (((Own.setProtocol state _).trans (Own.sendChunks _ _)).trans (Own.setProtocol _ _))
        (finals _ _ _)
      simp only [setProtocol, sendChunks, Function.update_self]
      refine ⟨rfl, fun raised => .inl (readable raised), fun lost => ?_⟩
      rw [kept] at lost
      cases lost

theorem proceeds_afterHeaders (statusCode : Nat) (kept : state.lost request = false)
    (readable : (state.conn request).protocol.exc = true →
      (state.conn request).protocol.messageComplete = true) :
    Proceeds codec request state (afterHeaders codec workerId state request statusCode) := by
  unfold afterHeaders
  split
  · exact proceeds_readBody codec (fun _ awaited => awaited) kept readable
      fun body => concluded_errorBody codec workerId statusCode body
  · split
    · exact proceeds_startStream codec workerId kept readable
    · exact proceeds_readBody codec (fun _ awaited => awaited) kept readable
        fun body => concluded_wholeBody codec workerId body

theorem proceeds_startTask
    (connected : (state.conn request).protocol.Connected (state.lost request)) :
    Proceeds codec request state (startTask codec workerId state request) := by
  unfold startTask
  dsimp only
  split
  · exact proceeds_afterHeaders codec workerId _ connected.kept connected.readable
  · rename_i incomplete
    refine .inr ⟨rfl, ?_⟩
    simp only [setStage, setProtocol, Function.update_self]
    have unread : (state.conn request).protocol.messageComplete = false := by
      rw [← Bool.not_eq_true]
      exact fun complete => incomplete (connected.headersFirst complete)
    refine .inl ⟨rfl, by simpa using incomplete, unread, ?_, connected.kept⟩
    rw [← Bool.not_eq_true]
    intro raised
    rw [connected.readable raised] at unread
    cases unread

theorem proceeds_resume (waiting : Waiting codec (state.request request).queryId
      (state.lost request) (state.conn request).protocol (state.stage request))
    (runnable : state.runnable request = true) (error : ErrorData) :
    Proceeds codec request state (resume codec workerId state request error) := by
  unfold resume
  dsimp only
  split
  · rename_i reading
    rw [reading] at waiting
    simp only [WorkerState.runnable, reading, decide_eq_true_eq] at runnable
    rcases waiting with ⟨pending, -⟩ | ⟨⟨statusCode, result⟩, -, kept, readable⟩ | raised
    · exact absurd pending runnable
    · rw [result]
      exact proceeds_afterHeaders codec workerId statusCode kept readable
    · rw [raised]
      exact .inl (concluded_fail workerId state error)
  · split
    · exact .inl (concluded_errorBody codec workerId _ _)
    · exact .inl (concluded_fail workerId state error)
  · split
    · exact .inl (concluded_wholeBody codec workerId _)
    · exact .inl (concluded_fail workerId state error)
  · rename_i incompleteChunk acc reading
    rw [reading] at waiting
    obtain ⟨awaited, named⟩ := waiting
    exact proceeds_streamLoop codec workerId
      ⟨awaited.streaming, awaited.readable, awaited.kept⟩ named
  · rename_i noHeaders noErrorBody noBody noStream
    cases stage : state.stage request with
    | readingHeaders => exact (noHeaders stage).elim
    | readingErrorBody statusCode => exact (noErrorBody statusCode stage).elim
    | readingBody => exact (noBody stage).elim
    | streaming incompleteChunk acc => exact (noStream incompleteChunk acc stage).elim
    | absent => rw [stage] at waiting; cases waiting
    | acquiring => rw [stage] at waiting; cases waiting
    | connected => rw [stage] at waiting; cases waiting
    | finished => rw [stage] at waiting; cases waiting

end

/-! ## The invariant -/

/-- Where a request stands, and what has been sent for it. -/
def Answering (codec : WorkerCodec Delta Acc) (state : WorkerState Acc)
    (request : RequestId) : Prop :=
  match state.stage request with
  | .absent => state.finals request = [] ∧ state.lost request = false
  | .acquiring =>
      state.finals request = [] ∧ state.loop = .acquiring request ∧ state.lost request = false
  | .connected =>
      state.finals request = [] ∧ state.loop = .acquiring request ∧
        (state.conn request).protocol.Connected (state.lost request)
  | .finished =>
      (state.finals request).length ≤ 1 ∧ (state.shutdown = false →
        ∃ result, state.finals request = [result] ∧
          result.id = (state.request request).queryId)
  | stage =>
      state.finals request = [] ∧ Waiting codec (state.request request).queryId
        (state.lost request) (state.conn request).protocol stage

/-- The queries received so far are the requests that exist. -/
structure Answers (codec : WorkerCodec Delta Acc) (state : WorkerState Acc) : Prop where
  numbered : ∀ request, state.stage request = .absent ↔ state.received.length ≤ request
  named : ∀ request query, state.received[request]? = some query →
    (state.request request).queryId = query.id
  answering : ∀ request, Answering codec state request

section

variable {codec : WorkerCodec Delta Acc} {workerId : Nat} {state next : WorkerState Acc}
  {request : RequestId}

/-- Nothing that concerns a request changes, but perhaps the loop, which another one holds. -/
theorem Answering.transfer (answering : Answering codec state request)
    (stage : next.stage request = state.stage request)
    (finals : next.finals request = state.finals request)
    (conn : next.conn request = state.conn request)
    (lost : next.lost request = state.lost request)
    (shutdown : state.shutdown = true → next.shutdown = true)
    (requests : next.request request = state.request request)
    (loop : state.loop = .acquiring request → next.loop = .acquiring request) :
    Answering codec next request := by
  unfold Answering at answering ⊢
  rw [stage, finals, conn, lost, requests]
  cases here : state.stage request with
  | absent => simpa [here] using answering
  | acquiring =>
      simp only [here] at answering ⊢
      exact ⟨answering.1, loop answering.2.1, answering.2.2⟩
  | connected =>
      simp only [here] at answering ⊢
      exact ⟨answering.1, loop answering.2.1, answering.2.2⟩
  | finished =>
      simp only [here] at answering ⊢
      refine ⟨answering.1, fun running => answering.2 ?_⟩
      rw [← Bool.not_eq_true] at running ⊢
      exact mt shutdown running
  | readingHeaders => simpa only [here] using answering
  | readingErrorBody statusCode => simpa only [here] using answering
  | readingBody => simpa only [here] using answering
  | streaming incompleteChunk acc => simpa only [here] using answering

/-- A task that has proceeded. -/
theorem answering_of_proceeds (proceeds : Proceeds codec request state next)
    (own : Own request state next) (none_ : state.finals request = []) :
    Answering codec next request := by
  rcases proceeds with ⟨finished, answered⟩ | ⟨same, waiting⟩
  · simp only [Answering, finished]
    rw [own.shutdown, own.requests]
    rcases answered with ⟨result, finals, named⟩ | ⟨shutdown, finals⟩
    · rw [finals, none_]
      exact ⟨le_rfl, fun _ => ⟨result, rfl, named⟩⟩
    · rw [finals, none_, shutdown]
      exact ⟨Nat.zero_le 1, nofun⟩
  · rw [← own.requests, ← own.lost] at waiting
    unfold Answering
    rw [same, none_]
    cases here : next.stage request with
    | absent => rw [here] at waiting; cases waiting
    | acquiring => rw [here] at waiting; cases waiting
    | connected => rw [here] at waiting; cases waiting
    | finished => rw [here] at waiting; cases waiting
    | readingHeaders => rw [here] at waiting; exact ⟨rfl, waiting⟩
    | readingErrorBody statusCode => rw [here] at waiting; exact ⟨rfl, waiting⟩
    | readingBody => rw [here] at waiting; exact ⟨rfl, waiting⟩
    | streaming incompleteChunk acc => rw [here] at waiting; exact ⟨rfl, waiting⟩

/-- An active request is waited for, or connected. -/
theorem Answering.waiting (answering : Answering codec state request)
    (active : (state.stage request).active = true) (written : state.stage request ≠ .connected) :
    state.finals request = [] ∧ Waiting codec (state.request request).queryId
      (state.lost request) (state.conn request).protocol (state.stage request) := by
  unfold Answering at answering
  cases here : state.stage request with
  | absent => rw [here] at active; cases active
  | acquiring => rw [here] at active; cases active
  | connected => exact absurd here written
  | finished => rw [here] at active; cases active
  | readingHeaders => simpa only [here] using answering
  | readingErrorBody statusCode => simpa only [here] using answering
  | readingBody => simpa only [here] using answering
  | streaming incompleteChunk acc => simpa only [here] using answering

namespace Answers

/-- One request that exists goes on; the loop may leave it. -/
theorem one (answers : Answers codec state) {loop : WorkerLoop}
    (own : Own request { state with loop := loop } next)
    (held : ∀ other, other ≠ request → state.loop = .acquiring other → loop = .acquiring other)
    (present : state.stage request ≠ .absent) (still : next.stage request ≠ .absent)
    (answering : Answering codec next request) : Answers codec next where
  numbered other := by
    rw [own.received]
    by_cases same : other = request
    · subst same
      exact iff_of_false still (mt (answers.numbered other).mpr present)
    · rw [own.stages other same]
      exact answers.numbered other
  named other query := by
    rw [own.received, own.requests]
    exact answers.named other query
  answering other := by
    by_cases same : other = request
    · subst same
      exact answering
    · refine (answers.answering other).transfer (own.stages other same) (own.finals same)
        (own.conns other same) (congrFun own.lost other) ?_ (congrFun own.requests other) ?_
      · rw [own.shutdown]
        exact fun shutdown => shutdown
      · rw [own.loop]
        exact held other same

/-- The next query, whose request can be prepared. -/
theorem recv (answers : Answers codec state) {query : Query} {request : InFlightRequest}
    (prepared : codec.prepareRequest query = .ok request)
    (received : next.received = state.received ++ [query])
    (requests : next.request = Function.update state.request state.received.length request)
    (conns : next.conn = state.conn) (lost : next.lost = state.lost)
    (shutdown : next.shutdown = state.shutdown) (responses : next.responses = state.responses)
    (stage : RequestStage Acc) (still : stage ≠ .absent)
    (stages : next.stage = Function.update state.stage state.received.length stage)
    (loop : ∀ other, state.loop ≠ .acquiring other)
    (answering : Answering codec next state.received.length) : Answers codec next where
  numbered other := by
    rw [received, stages, List.length_append, List.length_singleton]
    by_cases same : other = state.received.length
    · rw [same, Function.update_self]
      exact iff_of_false still (Nat.not_succ_le_self _)
    · rw [Function.update_of_ne same, answers.numbered other]
      exact ⟨fun late => Nat.lt_of_le_of_ne late (Ne.symm same), Nat.le_of_succ_le⟩
  named other query' listed := by
    rw [received] at listed
    rw [requests]
    by_cases same : other = state.received.length
    · subst same
      rw [List.getElem?_append_right le_rfl, Nat.sub_self] at listed
      cases listed
      rw [Function.update_self]
      exact codec.prepareRequest_id prepared
    · rw [Function.update_of_ne same]
      apply answers.named other
      rw [List.getElem?_append] at listed
      split at listed
      · exact listed
      · rename_i late
        have beyond := Nat.lt_of_le_of_ne (Nat.le_of_not_lt late) (Ne.symm same)
        rw [List.getElem?_eq_none (Nat.sub_pos_of_lt beyond)] at listed
        cases listed
  answering other := by
    by_cases same : other = state.received.length
    · rw [same]
      exact answering
    · refine (answers.answering other).transfer ?_ ?_ ?_ ?_ ?_ ?_ ?_
      · rw [stages, Function.update_of_ne same]
      · rw [finals, finals, responses]
      · rw [conns]
      · rw [lost]
      · rw [shutdown]
        exact fun down => down
      · rw [requests, Function.update_of_ne same]
      · exact fun held => absurd held (loop other)

/-- An event on the connection of one request. -/
theorem network (answers : Answers codec state) (request : RequestId) (stages : next.stage = state.stage)
    (received : next.received = state.received) (requests : next.request = state.request)
    (shutdown : next.shutdown = state.shutdown) (loop : next.loop = state.loop)
    (responses : next.responses = state.responses)
    (conns : ∀ other, other ≠ request → next.conn other = state.conn other)
    (lost : ∀ other, other ≠ request → next.lost other = state.lost other)
    (answering : Answering codec next request) : Answers codec next where
  numbered other := by
    rw [stages, received]
    exact answers.numbered other
  named other query := by
    rw [received, requests]
    exact answers.named other query
  answering other := by
    by_cases same : other = request
    · rw [same]
      exact answering
    · refine (answers.answering other).transfer (congrFun stages other) ?_ (conns other same)
        (lost other same) ?_ (congrFun requests other) ?_
      · rw [finals, finals, responses]
      · rw [shutdown]
        exact fun down => down
      · rw [loop]
        exact fun held => held

end Answers

theorem Proceeds.still (proceeds : Proceeds codec request state next) :
    next.stage request ≠ .absent := by
  intro absent
  rcases proceeds with concluded | ⟨-, waiting⟩
  · rw [concluded.finished] at absent
    cases absent
  · rw [absent] at waiting
    exact waiting

/-- The connections reported lost after an event. -/
def lostAfter (state : WorkerState Acc) (request : RequestId) : NetworkEvent → RequestId → Bool
  | .connectionLost _ => Function.update state.lost request true
  | _ => state.lost

/-- The events on the connection of a task that waits. -/
theorem waiting_onNetwork {queryId : QueryId} {event : NetworkEvent}
    (waiting : Waiting codec queryId (state.lost request) (state.conn request).protocol
      (state.stage request))
    (answerable : Answerable codec state (.network request event))
    (possible : state.possible request event = true) :
    Waiting codec queryId (state.lostAfter request event request)
      ((state.conn request).protocol.onNetwork event) (state.stage request) := by
  obtain ⟨-, possible⟩ := Bool.and_eq_true_iff.mp possible
  cases event with
  | dataReceived callbacks parserError =>
      simp only [HttpResponseProtocol.onNetwork]
      cases here : state.stage request with
      | readingHeaders =>
          rw [here] at waiting
          refine HttpResponseProtocol.HeadersAwaited.dataReceived waiting possible ?_
          rintro rfl
          simpa only [Answerable, here] using answerable
      | readingErrorBody statusCode =>
          rw [here] at waiting
          exact HttpResponseProtocol.BodyAwaited.dataReceived waiting callbacks parserError
      | readingBody =>
          rw [here] at waiting
          exact HttpResponseProtocol.BodyAwaited.dataReceived waiting callbacks parserError
      | streaming incompleteChunk acc =>
          rw [here] at waiting
          refine ⟨HttpResponseProtocol.StreamAwaited.dataReceived waiting.1 ?_, waiting.2⟩
          rintro rfl
          simpa only [Answerable, here] using answerable
      | absent => rw [here] at waiting; exact waiting
      | acquiring => rw [here] at waiting; exact waiting
      | connected => rw [here] at waiting; exact waiting
      | finished => rw [here] at waiting; exact waiting
  | eofReceived =>
      simp only [HttpResponseProtocol.onNetwork]
      cases here : state.stage request with
      | readingHeaders =>
          rw [here] at waiting
          exact HttpResponseProtocol.HeadersAwaited.eofReceived waiting
      | readingErrorBody statusCode =>
          rw [here] at waiting
          exact HttpResponseProtocol.BodyAwaited.eofReceived waiting
      | readingBody =>
          rw [here] at waiting
          exact HttpResponseProtocol.BodyAwaited.eofReceived waiting
      | streaming incompleteChunk acc =>
          rw [here] at waiting
          exact ⟨HttpResponseProtocol.StreamAwaited.eofReceived waiting.1, waiting.2⟩
      | absent => rw [here] at waiting; exact waiting
      | acquiring => rw [here] at waiting; exact waiting
      | connected => rw [here] at waiting; exact waiting
      | finished => rw [here] at waiting; exact waiting
  | connectionLost failed =>
      rw [show state.lostAfter request (.connectionLost failed) request = true from
        Function.update_self ..]
      simp only [HttpResponseProtocol.onNetwork]
      obtain ⟨idle, -⟩ := Bool.and_eq_true_iff.mp possible
      cases here : state.stage request with
      | readingHeaders =>
          have pending : (state.conn request).protocol.headersFuture = some .pending := by
            simpa [WorkerState.runnable, here] using idle
          exact HttpResponseProtocol.HeadersAwaited.onConnectionLost pending failed true
      | readingErrorBody statusCode =>
          have pending : (state.conn request).protocol.bodyFuture = some .pending := by
            simpa [WorkerState.runnable, here] using idle
          exact HttpResponseProtocol.BodyAwaited.onConnectionLost pending failed true
      | readingBody =>
          have pending : (state.conn request).protocol.bodyFuture = some .pending := by
            simpa [WorkerState.runnable, here] using idle
          exact HttpResponseProtocol.BodyAwaited.onConnectionLost pending failed true
      | streaming incompleteChunk acc =>
          rw [here] at waiting
          exact ⟨HttpResponseProtocol.StreamAwaited.onConnectionLost waiting.1 failed true,
            waiting.2⟩
      | absent => rw [here] at waiting; exact waiting
      | acquiring => rw [here] at waiting; exact waiting
      | connected => rw [here] at waiting; exact waiting
      | finished => rw [here] at waiting; exact waiting

/-- A request that waits keeps what it has, with the protocol after an event. -/
theorem Answering.of_waiting (none_ : next.finals request = [])
    (waiting : Waiting codec (next.request request).queryId (next.lost request)
      (next.conn request).protocol (next.stage request)) : Answering codec next request := by
  unfold Answering
  cases here : next.stage request with
  | absent => rw [here] at waiting; cases waiting
  | acquiring => rw [here] at waiting; cases waiting
  | connected => rw [here] at waiting; cases waiting
  | finished => rw [here] at waiting; cases waiting
  | readingHeaders => rw [here] at waiting; exact ⟨none_, waiting⟩
  | readingErrorBody statusCode => rw [here] at waiting; exact ⟨none_, waiting⟩
  | readingBody => rw [here] at waiting; exact ⟨none_, waiting⟩
  | streaming incompleteChunk acc => rw [here] at waiting; exact ⟨none_, waiting⟩

theorem Answering.connected (answering : Answering codec state request)
    (connected : state.stage request = .connected) :
    state.finals request = [] ∧ state.loop = .acquiring request ∧
      (state.conn request).protocol.Connected (state.lost request) := by
  simpa only [Answering, connected] using answering

theorem Answering.none_of_active (answering : Answering codec state request)
    (active : (state.stage request).active = true) : state.finals request = [] := by
  by_cases connected : state.stage request = .connected
  · exact (answering.connected connected).1
  · exact (answering.waiting active connected).1

/-- A network event. -/
theorem answers_network (answers : Answers codec state) {event : NetworkEvent}
    (answerable : Answerable codec state (.network request event))
    (possible : state.possible request event = true)
    (changed : next = { state.setProtocol request
        ((state.conn request).protocol.onNetwork event) with
      lost := state.lostAfter request event }) : Answers codec next := by
  have active := (Bool.and_eq_true_iff.mp possible).1
  have answering := answers.answering request
  have conn : (next.conn request).protocol = (state.conn request).protocol.onNetwork event := by
    rw [changed]
    simp [setProtocol]
  have lost : next.lost = state.lostAfter request event := by rw [changed]
  have stages : next.stage = state.stage := by rw [changed]; rfl
  have requests : next.request = state.request := by rw [changed]; rfl
  have loop : next.loop = state.loop := by rw [changed]; rfl
  have finals : next.finals request = state.finals request := by rw [changed]; rfl
  refine answers.network request stages (by rw [changed]; rfl) requests
    (by rw [changed]; rfl) loop (by rw [changed]; rfl) (fun other different => ?_)
    (fun other different => ?_) ?_
  · rw [changed]
    exact Function.update_of_ne different _ _
  · rw [changed]
    cases event with
    | dataReceived callbacks parserError => rfl
    | eofReceived => rfl
    | connectionLost failed => exact Function.update_of_ne different _ _
  · by_cases connected : state.stage request = .connected
    · obtain ⟨none_, held, ready⟩ := answering.connected connected
      simp only [Answering, stages, connected]
      refine ⟨finals.trans none_, loop.trans held, ?_⟩
      rw [conn, lost]
      cases event with
      | dataReceived callbacks parserError =>
          refine ready.dataReceived ?_ ?_
          · exact (Bool.and_eq_true_iff.mp possible).2
          · rintro rfl
            simpa only [Answerable, connected] using answerable
      | eofReceived => exact ready.eofReceived
      | connectionLost failed =>
          have held := (Bool.and_eq_true_iff.mp (Bool.and_eq_true_iff.mp possible).2).2
          simp [connected] at held
    · obtain ⟨none_, waiting⟩ := answering.waiting active connected
      apply Answering.of_waiting (finals.trans none_)
      rw [conn, lost, stages, requests]
      exact waiting_onNetwork waiting answerable possible

variable (workerId) in
/-- A request that could not get or use a connection. -/
theorem answers_failed (answers : Answers codec state) {number : RequestId}
    (loop : state.loop = .acquiring number) (present : state.stage number ≠ .absent)
    (none_ : state.finals number = []) (error : ErrorData)
    (changed : next = { (state.handleError workerId number error).setStage number .finished with
      loop := .receiving }) : Answers codec next := by
  have own : Own number { state with loop := .receiving } next := by
    have before : Own number state
        ((state.handleError workerId number error).setStage number .finished) :=
      (Own.handleError workerId state error).trans (Own.setStage _ .finished)
    rw [changed]
    exact ⟨before.shutdown, rfl, before.received, before.requests, before.lost, before.stages,
      before.conns, before.sent⟩
  have finished : next.stage number = .finished := by
    rw [changed]
    exact Function.update_self ..
  have concluded : Concluded number { state with loop := .receiving } next := by
    refine ⟨finished, ?_⟩
    rw [changed]
    exact handleError_finals workerId state error
  refine answers.one own (fun other different held => ?_) present (by simp [finished])
    (answering_of_proceeds (.inl concluded) own none_)
  rw [loop] at held
  cases held
  exact absurd rfl different

theorem step_answers {label : WorkerLabel} (answers : Answers codec state)
    (answerable : Answerable codec state label)
    (edge : step codec workerId state label = some next) : Answers codec next := by
  cases label with
  | recv query =>
      simp only [step, Option.ite_none_right_eq_some] at edge
      obtain ⟨receiving, edge⟩ := edge
      have free : ∀ other, state.loop ≠ .acquiring other := by
        intro other held
        rw [receiving] at held
        cases held
      have unborn := answers.answering state.received.length
      rw [Answering, (answers.numbered _).mpr le_rfl] at unborn
      obtain ⟨none_, kept⟩ := unborn
      split at edge
      · rename_i failed
        rw [Answerable, failed] at answerable
        cases answerable
      · rename_i request prepared
        split at edge
        · rename_i shutdown
          obtain rfl := Option.some.inj edge
          refine answers.recv prepared rfl rfl rfl rfl rfl rfl .finished (by simp) rfl
            free ?_
          simp only [Answering, setStage, Function.update_self]
          refine ⟨?_, fun running => ?_⟩
          · exact le_of_eq_of_le (congrArg List.length none_) (Nat.zero_le 1)
          · rw [shutdown] at running
            cases running
        · obtain rfl := Option.some.inj edge
          refine answers.recv prepared rfl rfl rfl rfl rfl rfl .acquiring (by simp) rfl
            free ?_
          simp only [Answering, setStage, Function.update_self]
          exact ⟨none_, trivial, kept⟩
  | recvFailed =>
      simp only [step, Option.ite_none_right_eq_some, Option.some.injEq] at edge
      obtain ⟨-, rfl⟩ := edge
      exact answers
  | closed =>
      simp only [step, Option.ite_none_right_eq_some, Option.some.injEq] at edge
      obtain ⟨receiving, rfl⟩ := edge
      refine ⟨answers.numbered, answers.named, fun other => ?_⟩
      refine (answers.answering other).transfer rfl rfl rfl rfl (fun down => down) rfl ?_
      intro held
      rw [receiving] at held
      cases held
  | acquired =>
      simp only [step] at edge
      split at edge
      · rename_i number loop
        split at edge
        · rename_i acquiring
          obtain rfl := Option.some.inj edge
          have answering := answers.answering number
          simp only [Answering, acquiring] at answering
          have own : Own number { state with loop := state.loop }
              { state.setStage number .connected with
                conn := Function.update state.conn number { lastUsed := 0 } } :=
            ⟨rfl, rfl, rfl, rfl, rfl, fun _ different => Function.update_of_ne different _ _,
              fun _ different => Function.update_of_ne different _ _, [],
              (List.append_nil _).symm⟩
          refine answers.one own (fun _ _ held => held) (by simp [acquiring])
            (by simp [setStage]) ?_
          simp only [Answering, setStage, Function.update_self]
          exact ⟨answering.1, loop, answering.2.2, (by simp), (by simp)⟩
        · cases edge
      · cases edge
  | acquireFailed error =>
      simp only [step] at edge
      split at edge
      · rename_i number loop
        split at edge
        · rename_i acquiring
          obtain rfl := Option.some.inj edge
          have answering := answers.answering number
          simp only [Answering, acquiring] at answering
          exact answers_failed workerId answers loop (by simp [acquiring]) answering.1 error rfl
        · cases edge
      · cases edge
  | write outcome =>
      simp only [step] at edge
      split at edge
      · rename_i number loop
        split at edge
        · rename_i connected
          obtain ⟨none_, -, ready⟩ := (answers.answering number).connected connected
          split at edge
          · obtain rfl := Option.some.inj edge
            have own : Own number { state with loop := .receiving } _ :=
              Own.startTask workerId codec { state with loop := .receiving }
            have proceeds : Proceeds codec number { state with loop := .receiving }
                (startTask codec workerId { state with loop := .receiving } number) :=
              proceeds_startTask codec workerId (by exact ready)
            refine answers.one own (fun other different held => ?_) (by simp [connected])
              proceeds.still (answering_of_proceeds proceeds own none_)
            rw [loop] at held
            cases held
            exact absurd rfl different
          · rename_i error
            obtain rfl := Option.some.inj edge
            refine answers_failed workerId answers loop (by simp [connected]) none_ error ?_
            unfold handleError
            split <;> rfl
        · cases edge
      · cases edge
  | resume request error =>
      simp only [step, Option.ite_none_right_eq_some, Option.some.injEq] at edge
      obtain ⟨runnable, rfl⟩ := edge
      have active : (state.stage request).active = true ∧ state.stage request ≠ .connected := by
        cases here : state.stage request <;>
          simp_all [WorkerState.runnable, RequestStage.active]
      obtain ⟨none_, waiting⟩ := (answers.answering request).waiting active.1 active.2
      have own : Own request state (resume codec workerId state request error) :=
        Own.resume workerId codec state error
      have proceeds := proceeds_resume codec workerId waiting runnable error
      refine answers.one own (fun _ _ held => held) ?_ proceeds.still
        (answering_of_proceeds proceeds own none_)
      intro absent
      rw [absent] at active
      cases active.1
  | network request event =>
      simp only [step, Option.ite_none_right_eq_some, Option.some.injEq] at edge
      obtain ⟨possible, rfl⟩ := edge
      refine answers_network answers answerable possible ?_
      cases event <;> rfl
  | shutdown =>
      obtain rfl := Option.some.inj edge
      refine ⟨answers.numbered, answers.named, fun other => ?_⟩
      exact (answers.answering other).transfer rfl rfl rfl rfl (fun _ => rfl) rfl
        fun held => held
  | cancel request =>
      simp only [step, Option.ite_none_right_eq_some, Option.some.injEq] at edge
      obtain ⟨allowed, rfl⟩ := edge
      obtain ⟨shutdown, active⟩ := Bool.and_eq_true_iff.mp allowed
      have own : Own request state (state.finish request) := Own.finish state
      have finished : (state.finish request).stage request = .finished := by
        simp [finish, setStage]
      refine answers.one own (fun _ _ held => held) ?_ (by simp [finished]) ?_
      · intro absent
        rw [absent] at active
        cases active
      · simp only [Answering, finished]
        rw [own.shutdown, shutdown]
        have none_ := (answers.answering request).none_of_active active
        simp only [finish, finals_setStage, finals_release, none_]
        exact ⟨Nat.zero_le 1, (by simp)⟩

/-- A task that waits for what has come can run on. -/
theorem not_settled_of_waiting {queryId : QueryId}
    (waiting : Waiting codec queryId (state.lost request) (state.conn request).protocol
      (state.stage request)) (ended : state.ended request = true) :
    state.runnable request = true := by
  unfold WorkerState.runnable
  cases here : state.stage request with
  | readingHeaders =>
      rw [here] at waiting
      rcases waiting with ⟨-, -, unread, sound, kept⟩ | ⟨⟨statusCode, result⟩, -⟩ | raised
      · simp [WorkerState.ended, unread, sound, kept] at ended
      · simp [result]
      · simp [raised]
  | readingErrorBody statusCode =>
      rw [here] at waiting
      rcases waiting with ⟨-, unread, sound, kept⟩ | ⟨future, found, done⟩
      · simp [WorkerState.ended, unread, sound, kept] at ended
      · simp [found, done]
  | readingBody =>
      rw [here] at waiting
      rcases waiting with ⟨-, unread, sound, kept⟩ | ⟨future, found, done⟩
      · simp [WorkerState.ended, unread, sound, kept] at ended
      · simp [found, done]
  | streaming incompleteChunk acc =>
      rw [here] at waiting
      rcases waiting.1.signalled with signalled | ⟨unread, sound, kept⟩
      · exact signalled
      · simp [WorkerState.ended, unread, sound, kept] at ended
  | absent => rw [here] at waiting; cases waiting
  | acquiring => rw [here] at waiting; cases waiting
  | connected => rw [here] at waiting; cases waiting
  | finished => rw [here] at waiting; cases waiting

/-- At most one final result, and exactly one when the worker is settled. -/
theorem Answers.exactlyOne (answers : Answers codec state) : state.ExactlyOne := by
  constructor
  · intro request
    have answering := answers.answering request
    by_cases active : (state.stage request).active = true
    · rw [answering.none_of_active active]
      exact Nat.zero_le 1
    · unfold Answering at answering
      cases here : state.stage request with
      | absent => rw [here] at answering; rw [answering.1]; exact Nat.zero_le 1
      | acquiring => rw [here] at answering; rw [answering.1]; exact Nat.zero_le 1
      | finished => rw [here] at answering; exact answering.1
      | connected => exact absurd (by rw [here]; rfl) active
      | readingHeaders => exact absurd (by rw [here]; rfl) active
      | readingErrorBody statusCode => exact absurd (by rw [here]; rfl) active
      | readingBody => exact absurd (by rw [here]; rfl) active
      | streaming incompleteChunk acc => exact absurd (by rw [here]; rfl) active
  · intro running settled request query listed
    have answering := answers.answering request
    obtain ⟨inside, -⟩ := List.getElem?_eq_some_iff.mp listed
    by_cases active : (state.stage request).active = true
    · obtain ⟨ended, stuck⟩ := settled.tasks request active
      have written : state.stage request ≠ .connected :=
        fun connected => settled.loop request (answering.connected connected).2.1
      rw [not_settled_of_waiting (answering.waiting active written).2 ended] at stuck
      cases stuck
    · unfold Answering at answering
      cases here : state.stage request with
      | absent => exact absurd ((answers.numbered request).mp here) (Nat.not_le.mpr inside)
      | acquiring => rw [here] at answering; exact absurd answering.2.1 (settled.loop request)
      | finished =>
          rw [here] at answering
          obtain ⟨result, one, named⟩ := answering.2 running
          exact ⟨result, one, named.trans (answers.named request query listed)⟩
      | connected => exact absurd (by rw [here]; rfl) active
      | readingHeaders => exact absurd (by rw [here]; rfl) active
      | readingErrorBody statusCode => exact absurd (by rw [here]; rfl) active
      | readingBody => exact absurd (by rw [here]; rfl) active
      | streaming incompleteChunk acc => exact absurd (by rw [here]; rfl) active

end

end WorkerState

/-- The adapter cannot encode the query. -/
def rejectingCodec : WorkerCodec Bytes QueryId :=
  { streamingCodec with encodeQuery := fun _ => .error { errorType := "KeyError" } }

end InferenceEndpoint
