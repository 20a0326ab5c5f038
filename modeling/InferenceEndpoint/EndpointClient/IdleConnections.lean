import InferenceEndpoint.EndpointClient.StreamResults
import InferenceEndpoint.EndpointClient.WorkerTasks

/-!
# Idle connections

A task releases its connection when it has read the whole response, and in any case when it
ends.  A connection that was lost, or on which the parser gave up, is closed then; but a task
that ends because the decoder or the accumulator raises, or because it is cancelled, may
release a connection whose response is still coming.
-/

namespace InferenceEndpoint

namespace HttpResponseProtocol

/-- The connection is lost or the parser gave up. -/
def broken (protocol : HttpResponseProtocol) : Bool :=
  protocol.connectionLost || protocol.exc

/-- What the futures of a protocol say about it. -/
structure Sound (protocol : HttpResponseProtocol) : Prop where
  headers : protocol.headersFuture = some .exception → protocol.broken = true
  body : ∀ bytes, protocol.bodyFuture = some (.result bytes) → protocol.messageComplete = true
  failed : protocol.bodyFuture = some .exception → protocol.broken = true

theorem FutureState.setResult_eq_exception {Value : Type} {value : Value}
    {future : Option (FutureState Value)}
    (failed : FutureState.setResult value future = some .exception) :
    future = some .exception := by
  match future, failed with
  | some .exception, _ => rfl

/-- A future that is done and has no result has an exception. -/
theorem FutureState.exception_of_done {Value : Type} {future : Option (FutureState Value)}
    (made : future ≠ none) (done : future ≠ some .pending)
    (noResult : ∀ value, future = some (.result value) → False) : future = some .exception := by
  match future, made, done, noResult with
  | some .exception, _, _, _ => rfl
  | some (.result value), _, _, noResult => exact (noResult value rfl).elim

theorem sound_of_none {protocol : HttpResponseProtocol} (headers : protocol.headersFuture = none)
    (body : protocol.bodyFuture = none) : protocol.Sound where
  headers failed := by simp [headers] at failed
  body bytes result := by simp [body] at result
  failed failed := by simp [body] at failed

theorem shouldClose_of_broken {protocol : HttpResponseProtocol}
    (broken : protocol.broken = true) : protocol.shouldClose = true := by
  simp only [HttpResponseProtocol.broken, Bool.or_eq_true] at broken
  simp only [shouldClose, Bool.or_eq_true]
  tauto

namespace Sound

variable {protocol : HttpResponseProtocol}

theorem signalStreamEnd (sound : protocol.Sound) : protocol.signalStreamEnd.Sound := by
  unfold HttpResponseProtocol.signalStreamEnd
  split
  · exact ⟨sound.headers, sound.body, sound.failed⟩
  · exact sound

theorem onCallback (sound : protocol.Sound) (callback : ParserCallback) :
    (protocol.onCallback callback).Sound := by
  cases callback with
  | headersComplete statusCode keepAlive =>
      exact ⟨fun failed => sound.headers (FutureState.setResult_eq_exception failed), sound.body,
        sound.failed⟩
  | body bytes =>
      unfold HttpResponseProtocol.onCallback
      dsimp only
      split
      · exact ⟨sound.headers, sound.body, sound.failed⟩
      · exact ⟨sound.headers, sound.body, sound.failed⟩
  | messageComplete =>
      apply signalStreamEnd
      exact ⟨sound.headers, fun _ _ => rfl, fun failed =>
        sound.failed (FutureState.setResult_eq_exception failed)⟩

theorem dataReceived (sound : protocol.Sound) (callbacks : List ParserCallback)
    (parserError : Bool) : (protocol.dataReceived callbacks parserError).Sound := by
  have fed : (callbacks.foldl HttpResponseProtocol.onCallback protocol).Sound := by
    induction callbacks generalizing protocol with
    | nil => exact sound
    | cons callback callbacks ih => exact ih (sound.onCallback callback)
  unfold HttpResponseProtocol.dataReceived
  dsimp only
  split
  · refine ⟨fun _ => by simp [broken], fun bytes result => ?_, fun _ => by simp [broken]⟩
    apply fed.body bytes
    revert result
    dsimp only
    generalize (callbacks.foldl HttpResponseProtocol.onCallback protocol).bodyFuture = future
    intro result
    match future, result with
    | some (.result _), same => exact same
  · exact fed

theorem onConnectionLost (sound : protocol.Sound) (failed : Bool) :
    (protocol.onConnectionLost failed).Sound := by
  apply signalStreamEnd
  refine ⟨fun _ => by simp [broken], fun bytes result => ?_, fun _ => by simp [broken]⟩
  dsimp only at result ⊢
  have before := sound.body
  generalize protocol.bodyFuture = future at result before
  cases complete : protocol.messageComplete with
  | true => rfl
  | false =>
      rw [complete] at before
      match future, result with
      | some (.result bytes'), _ => exact before bytes' rfl
      | some .pending, same => simp [complete, FutureState.setException] at same
      | some .exception, same => simp [complete, FutureState.setException] at same
      | none, same => simp [complete, FutureState.setException] at same

theorem eofReceived (sound : protocol.Sound) : protocol.eofReceived.Sound := by
  apply signalStreamEnd
  exact ⟨fun _ => by simp [broken], sound.body, fun _ => by simp [broken]⟩

theorem onNetwork (sound : protocol.Sound) (event : NetworkEvent) :
    (protocol.onNetwork event).Sound := by
  cases event with
  | dataReceived callbacks parserError => exact sound.dataReceived callbacks parserError
  | eofReceived => exact sound.eofReceived
  | connectionLost failed => exact sound.onConnectionLost failed

end Sound

/-- A future that was made stays. -/
theorem onCallback_futures (protocol : HttpResponseProtocol) (callback : ParserCallback) :
    ((protocol.onCallback callback).headersFuture = none ↔ protocol.headersFuture = none) ∧
      ((protocol.onCallback callback).bodyFuture = none ↔ protocol.bodyFuture = none) := by
  cases callback with
  | headersComplete statusCode keepAlive =>
      refine ⟨?_, Iff.rfl⟩
      dsimp only [onCallback]
      cases protocol.headersFuture with
      | none => exact Iff.rfl
      | some future => cases future <;> simp [FutureState.setResult]
  | body bytes =>
      dsimp only [onCallback]
      split
      · exact ⟨Iff.rfl, Iff.rfl⟩
      · exact ⟨Iff.rfl, Iff.rfl⟩
  | messageComplete =>
      dsimp only [onCallback, signalStreamEnd]
      have body : FutureState.setResult protocol.bodyChunks.flatten protocol.bodyFuture = none ↔
          protocol.bodyFuture = none := by
        cases protocol.bodyFuture with
        | none => exact Iff.rfl
        | some future => cases future <;> simp [FutureState.setResult]
      split
      · exact ⟨Iff.rfl, body⟩
      · exact ⟨Iff.rfl, body⟩

theorem setException_eq_none_iff {Value : Type} (future : Option (FutureState Value)) :
    FutureState.setException future = none ↔ future = none := by
  cases future with
  | none => exact Iff.rfl
  | some state => cases state <;> simp [FutureState.setException]

theorem onNetwork_futures (protocol : HttpResponseProtocol) (event : NetworkEvent) :
    ((protocol.onNetwork event).headersFuture = none ↔ protocol.headersFuture = none) ∧
      ((protocol.onNetwork event).bodyFuture = none ↔ protocol.bodyFuture = none) := by
  cases event with
  | dataReceived callbacks parserError =>
      have fed : ((callbacks.foldl onCallback protocol).headersFuture = none ↔
            protocol.headersFuture = none) ∧
          ((callbacks.foldl onCallback protocol).bodyFuture = none ↔
            protocol.bodyFuture = none) := by
        induction callbacks generalizing protocol with
        | nil => exact ⟨Iff.rfl, Iff.rfl⟩
        | cons callback callbacks ih =>
            obtain ⟨headers, body⟩ := ih (protocol.onCallback callback)
            obtain ⟨headers', body'⟩ := onCallback_futures protocol callback
            exact ⟨headers.trans headers', body.trans body'⟩
      dsimp only [onNetwork, dataReceived]
      split
      · dsimp only
        rw [setException_eq_none_iff, setException_eq_none_iff]
        exact fed
      · exact fed
  | eofReceived =>
      dsimp only [onNetwork, eofReceived, signalStreamEnd]
      split
      · exact ⟨Iff.rfl, Iff.rfl⟩
      · exact ⟨Iff.rfl, Iff.rfl⟩
  | connectionLost failed =>
      have body : (if failed || !protocol.messageComplete then
            FutureState.setException protocol.bodyFuture
          else FutureState.setResult protocol.bodyChunks.flatten protocol.bodyFuture) = none ↔
          protocol.bodyFuture = none := by
        split
        · exact setException_eq_none_iff _
        · cases protocol.bodyFuture with
          | none => exact Iff.rfl
          | some future => cases future <;> simp [FutureState.setResult]
      dsimp only [onNetwork, onConnectionLost, signalStreamEnd]
      split
      · exact ⟨setException_eq_none_iff _, body⟩
      · exact ⟨setException_eq_none_iff _, body⟩

end HttpResponseProtocol

/-- The response is complete if the connection goes on the idle stack. -/
def PooledConnection.Releasable (conn : PooledConnection) : Prop :=
  conn.returned = true → conn.protocol.messageComplete = true

theorem PooledConnection.releasable_of_shouldClose {conn : PooledConnection}
    (closes : conn.protocol.shouldClose = true) : conn.Releasable := by
  intro returned
  simp [PooledConnection.returned, closes] at returned

namespace WorkerState

variable {Delta Acc : Type}

/-- The responses that the connections on the idle stack were last used for are complete. -/
def Clean (state : WorkerState Acc) : Prop :=
  ∀ conn ∈ state.pooled, conn.protocol.messageComplete = true

/-- A task that reads the headers or the body has made a future. -/
def Awaited (stage : RequestStage Acc) (protocol : HttpResponseProtocol) : Prop :=
  match stage with
  | .readingHeaders => protocol.headersFuture ≠ none
  | .readingErrorBody _ | .readingBody => protocol.bodyFuture ≠ none
  | _ => True

theorem Awaited.onNetwork {stage : RequestStage Acc} {protocol : HttpResponseProtocol}
    (awaited : Awaited stage protocol) (event : NetworkEvent) :
    Awaited stage (protocol.onNetwork event) := by
  obtain ⟨headers, body⟩ := protocol.onNetwork_futures event
  cases stage with
  | readingHeaders => exact mt headers.mp awaited
  | readingErrorBody statusCode => exact mt body.mp awaited
  | readingBody => exact mt body.mp awaited
  | absent => trivial
  | acquiring => trivial
  | connected => trivial
  | streaming incompleteChunk acc => trivial
  | finished => trivial

/-- The idle stack is clean, and one request is in order. -/
structure Tidy (request : RequestId) (state : WorkerState Acc) : Prop where
  clean : state.Clean
  sound : (state.conn request).protocol.Sound
  awaited : Awaited (state.stage request) (state.conn request).protocol

section

variable {state : WorkerState Acc} {request : RequestId}

theorem release_clean (clean : state.Clean) (releasable : (state.conn request).Releasable) :
    (state.release request).Clean := by
  unfold release
  dsimp only
  split
  · exact clean
  · rename_i used
    split
    · exact clean
    · rename_i kept
      intro conn member
      rcases List.mem_append.mp member with earlier | added
      · exact clean conn earlier
      · rw [List.mem_singleton.mp added]
        apply releasable
        simp only [Bool.not_eq_true, Bool.not_eq_false', Bool.or_eq_false_iff] at used kept
        simp only [PooledConnection.returned, Bool.and_eq_true]
        simpa [used] using kept

theorem release_sound (sound : (state.conn request).protocol.Sound) :
    ((state.release request).conn request).protocol.Sound := by
  unfold release
  dsimp only
  split
  · exact sound
  · split
    · simpa using sound
    · dsimp only
      rw [Function.update_self]
      exact HttpResponseProtocol.sound_of_none rfl rfl

/-- A connection that was released is not released again. -/
theorem release_releasable : ((state.release request).conn request).Releasable := by
  intro returned
  revert returned
  unfold release
  dsimp only
  split
  · rename_i unused
    simp only [Bool.not_eq_true'] at unused
    simp [PooledConnection.returned, unused]
  · split
    · simp [PooledConnection.returned, PooledConnection.isAlive]
    · simp [PooledConnection.returned]

theorem finish_tidy (clean : state.Clean) (sound : (state.conn request).protocol.Sound)
    (releasable : (state.conn request).Releasable) : (state.finish request).Tidy request where
  clean := release_clean clean releasable
  sound := release_sound sound
  awaited := by simp [finish, setStage, Awaited]

variable (workerId : Nat)

variable (state request) in
theorem handleError_pooled (error : ErrorData) :
    (state.handleError workerId request error).pooled = state.pooled ∧
      (state.handleError workerId request error).conn = state.conn := by
  unfold handleError
  split
  · exact ⟨rfl, rfl⟩
  · exact ⟨rfl, rfl⟩

theorem handleError_stage (error : ErrorData) :
    (state.handleError workerId request error).stage = state.stage := by
  unfold handleError
  split
  · rfl
  · rfl

theorem fail_tidy (error : ErrorData) (clean : state.Clean)
    (sound : (state.conn request).protocol.Sound) (releasable : (state.conn request).Releasable) :
    (state.fail workerId request error).Tidy request := by
  obtain ⟨pooled, conn⟩ := handleError_pooled state request workerId error
  apply finish_tidy
  · rw [Clean, pooled]
    exact clean
  · rw [conn]
    exact sound
  · rw [conn]
    exact releasable

theorem conclude_tidy (outcome : Except ErrorData QueryResult) (clean : state.Clean)
    (sound : (state.conn request).protocol.Sound) (releasable : (state.conn request).Releasable) :
    (state.conclude workerId request outcome).Tidy request := by
  cases outcome with
  | error error => exact fail_tidy workerId error clean sound releasable
  | ok result => exact finish_tidy clean sound releasable

variable (codec : WorkerCodec Delta Acc)

theorem errorBody_tidy (statusCode : Nat) (body : Bytes) (clean : state.Clean)
    (sound : (state.conn request).protocol.Sound) (releasable : (state.conn request).Releasable) :
    (errorBody codec workerId state request statusCode body).Tidy request :=
  fail_tidy workerId _ (release_clean clean releasable) (release_sound sound) release_releasable

theorem wholeBody_tidy (body : Bytes) (clean : state.Clean)
    (sound : (state.conn request).protocol.Sound) (releasable : (state.conn request).Releasable) :
    (wholeBody codec workerId state request body).Tidy request :=
  conclude_tidy workerId _ (release_clean clean releasable) (release_sound sound)
    release_releasable

theorem readBody_tidy {stage : RequestStage Acc} {next : Bytes → WorkerState Acc}
    (awaits : ∀ protocol : HttpResponseProtocol, protocol.bodyFuture ≠ none →
      Awaited stage protocol)
    (clean : state.Clean) (sound : (state.conn request).protocol.Sound)
    (continues : (state.conn request).protocol.messageComplete = true →
      ∀ body, (next body).Tidy request) :
    (state.readBody request stage next).Tidy request := by
  unfold readBody
  dsimp only
  split
  · rename_i whole
    exact continues whole _
  · refine ⟨clean, ?_, ?_⟩
    · simp only [setStage, setProtocol, Function.update_self]
      exact ⟨sound.headers, (by simp), (by simp)⟩
    · simp only [setStage, setProtocol, Function.update_self]
      exact awaits _ (by simp)

theorem endStream_tidy (incompleteChunk : Bytes) (acc : Acc) (clean : state.Clean)
    (sound : (state.conn request).protocol.Sound) (releasable : (state.conn request).Releasable) :
    (endStream codec workerId state request incompleteChunk acc).Tidy request := by
  have sent : (state.sendChunks request (codec.endStream incompleteChunk acc).1).Clean := clean
  exact conclude_tidy workerId _ (release_clean sent releasable) (release_sound sound)
    release_releasable

/-- The reading of a stream fails, or ends with the message or the connection. -/
theorem streamLoop_tidy (incompleteChunk : Bytes) (acc : Acc) (clean : state.Clean)
    (sound : (state.conn request).protocol.Sound)
    (raising : ∀ error,
      (codec.drain incompleteChunk acc (state.conn request).protocol.streamChunks).2 =
        .error error → (state.conn request).Releasable) :
    (streamLoop codec workerId state request incompleteChunk acc).Tidy request := by
  unfold streamLoop
  dsimp only
  split
  · rename_i error raised
    exact fail_tidy workerId error clean sound (raising error raised)
  · split
    · rename_i ends
      apply endStream_tidy workerId codec
      · exact clean
      · simp only [setProtocol, Function.update_self]
        exact ⟨sound.headers, sound.body, sound.failed⟩
      · simp only [setProtocol, sendChunks, Function.update_self]
        rcases Bool.or_eq_true_iff.mp ends with whole | lost
        · exact fun _ => whole
        · exact PooledConnection.releasable_of_shouldClose
            (by simp [HttpResponseProtocol.shouldClose, lost])
    · refine ⟨clean, ?_, by simp [setStage, Awaited]⟩
      simp only [setStage, setProtocol, Function.update_self]
      exact ⟨sound.headers, sound.body, sound.failed⟩

/-- What a stream makes of the bytes that came before it was read. -/
def startRead (state : WorkerState Acc) (request : RequestId) : Except ErrorData (Bytes × Acc) :=
  let protocol := (state.conn request).protocol
  (codec.drain [] (codec.accumulator (state.request request).queryId) protocol.bodyChunks).2.bind
    fun (rest, next) => (codec.drain rest next protocol.streamChunks).2

theorem startStream_tidy (clean : state.Clean) (sound : (state.conn request).protocol.Sound)
    (raising : ∀ error, startRead codec state request = .error error →
      (state.conn request).Releasable) :
    (startStream codec workerId state request).Tidy request := by
  unfold startStream
  dsimp only
  split
  · rename_i error raised
    apply fail_tidy workerId error
    · exact clean
    · simp only [setProtocol, sendChunks, Function.update_self]
      exact ⟨sound.headers, sound.body, sound.failed⟩
    · simp only [setProtocol, sendChunks, Function.update_self]
      exact raising error (by simp [startRead, raised, Except.bind])
  · rename_i rest next drained
    have sound' : HttpResponseProtocol.Sound
        { (state.conn request).protocol with streaming := true, bodyChunks := [] } :=
      ⟨sound.headers, sound.body, sound.failed⟩
    split
    · rename_i whole
      apply endStream_tidy workerId codec
      · exact clean
      · simp only [setProtocol, sendChunks, Function.update_self]
        exact sound'
      · simp only [setProtocol, sendChunks, Function.update_self]
        exact fun _ => whole
    · apply streamLoop_tidy workerId codec
      · exact clean
      · simp only [setProtocol, sendChunks, Function.update_self]
        exact sound'
      · simp only [setProtocol, sendChunks, Function.update_self]
        intro error raised
        exact raising error (by simp [startRead, drained, Except.bind, raised])

/-- With an error status the body is read; a plain body is read as well. -/
theorem afterHeaders_tidy (statusCode : Nat) (clean : state.Clean)
    (sound : (state.conn request).protocol.Sound)
    (raising : statusCode = 200 → (state.request request).isStreaming = true →
      ∀ error, startRead codec state request = .error error → (state.conn request).Releasable) :
    (afterHeaders codec workerId state request statusCode).Tidy request := by
  unfold afterHeaders
  split
  · exact readBody_tidy (fun _ made => made) clean sound fun whole body =>
      errorBody_tidy workerId codec statusCode body clean sound fun _ => whole
  · rename_i success
    split
    · rename_i streaming
      exact startStream_tidy workerId codec clean sound (raising (by simpa using success) streaming)
    · exact readBody_tidy (fun _ made => made) clean sound fun whole body =>
        wholeBody_tidy workerId codec body clean sound fun _ => whole

end

/-! ## The steps of a task -/

section

variable (codec : WorkerCodec Delta Acc) (workerId : Nat)

/-- The task of a request, if it runs on now, raises while it reads a stream. -/
def RaisesInStream (state : WorkerState Acc) (request : RequestId) : Prop :=
  let protocol := (state.conn request).protocol
  match state.stage request with
  | .connected =>
      protocol.headersComplete = true ∧ protocol.statusCode = 200 ∧
        (state.request request).isStreaming = true ∧
        ∃ error, startRead codec state request = .error error
  | .readingHeaders =>
      protocol.headersFuture = some (.result 200) ∧ (state.request request).isStreaming = true ∧
        ∃ error, startRead codec state request = .error error
  | .streaming incompleteChunk acc =>
      ∃ error, (codec.drain incompleteChunk acc protocol.streamChunks).2 = .error error
  | _ => False

/-- No task raises in a stream or is cancelled before the message on a connection that is kept
is complete. -/
def EndsClean (state : WorkerState Acc) : WorkerLabel → Prop
  | .resume request _ => RaisesInStream codec state request → (state.conn request).Releasable
  | .write (.ok _) =>
      ∀ request, state.loop = .acquiring request → RaisesInStream codec state request →
        (state.conn request).Releasable
  | .cancel request => (state.conn request).Releasable
  | _ => True

variable {codec workerId} {state next : WorkerState Acc} {request : RequestId}

variable (workerId) in
theorem startTask_tidy (tidy : state.Tidy request) (connected : state.stage request = .connected)
    (kept : RaisesInStream codec state request → (state.conn request).Releasable) :
    (startTask codec workerId { state with loop := .receiving } request).Tidy request := by
  unfold startTask
  dsimp only
  split
  · rename_i headers
    apply afterHeaders_tidy workerId codec
    · exact tidy.clean
    · exact tidy.sound
    · intro success streaming error raised
      apply kept
      unfold RaisesInStream
      rw [connected]
      exact ⟨headers, success, streaming, error, raised⟩
  · refine ⟨tidy.clean, ?_, ?_⟩
    · simp only [setStage, setProtocol, Function.update_self]
      exact ⟨(by simp), tidy.sound.body, tidy.sound.failed⟩
    · simp [setStage, setProtocol, Awaited]

theorem resume_tidy (tidy : state.Tidy request) (runnable : state.runnable request = true)
    (error : ErrorData)
    (kept : RaisesInStream codec state request → (state.conn request).Releasable) :
    (resume codec workerId state request error).Tidy request := by
  have sound := tidy.sound
  have awaited := tidy.awaited
  -- an exception on the way to the status or the body is one of the connection or the parser
  have headersFailed : state.stage request = .readingHeaders →
      (∀ statusCode, (state.conn request).protocol.headersFuture = some (.result statusCode) →
        False) → (state.conn request).Releasable := by
    intro reading noResult
    rw [reading] at awaited
    simp only [WorkerState.runnable, reading, decide_eq_true_eq] at runnable
    exact PooledConnection.releasable_of_shouldClose (HttpResponseProtocol.shouldClose_of_broken
      (sound.headers (HttpResponseProtocol.FutureState.exception_of_done awaited runnable noResult)))
  have bodyFailed : (state.conn request).protocol.bodyFuture ≠ none →
      (state.conn request).protocol.bodyFuture ≠ some .pending →
      (∀ body, (state.conn request).protocol.bodyFuture = some (.result body) → False) →
      (state.conn request).Releasable := by
    intro made done noResult
    exact PooledConnection.releasable_of_shouldClose (HttpResponseProtocol.shouldClose_of_broken
      (sound.failed (HttpResponseProtocol.FutureState.exception_of_done made done noResult)))
  unfold resume
  dsimp only
  split
  · rename_i reading
    split
    · rename_i statusCode future
      apply afterHeaders_tidy workerId codec _ tidy.clean sound
      intro success streaming error raised
      apply kept
      unfold RaisesInStream
      rw [reading]
      exact ⟨success ▸ future, streaming, error, raised⟩
    · rename_i noResult
      exact fail_tidy workerId error tidy.clean sound (headersFailed reading noResult)
  · rename_i statusCode reading
    rw [reading] at awaited
    simp only [WorkerState.runnable, reading, decide_eq_true_eq] at runnable
    split
    · rename_i body result
      exact errorBody_tidy workerId codec statusCode body tidy.clean sound
        fun _ => sound.body body result
    · rename_i noResult
      exact fail_tidy workerId error tidy.clean sound (bodyFailed awaited runnable noResult)
  · rename_i reading
    rw [reading] at awaited
    simp only [WorkerState.runnable, reading, decide_eq_true_eq] at runnable
    split
    · rename_i body result
      exact wholeBody_tidy workerId codec body tidy.clean sound fun _ => sound.body body result
    · rename_i noResult
      exact fail_tidy workerId error tidy.clean sound (bodyFailed awaited runnable noResult)
  · rename_i incompleteChunk acc reading
    apply streamLoop_tidy workerId codec _ _ tidy.clean sound
    intro error raised
    apply kept
    unfold RaisesInStream
    rw [reading]
    exact ⟨error, raised⟩
  · exact tidy

/-- The idle stack is clean and all requests are in order. -/
structure Orderly (state : WorkerState Acc) : Prop where
  clean : state.Clean
  sound : ∀ request, (state.conn request).protocol.Sound
  awaited : ∀ request, Awaited (state.stage request) (state.conn request).protocol

namespace Orderly

theorem tidy (orderly : state.Orderly) (request : RequestId) : state.Tidy request :=
  ⟨orderly.clean, orderly.sound request, orderly.awaited request⟩

/-- What one task does leaves the others in order. -/
theorem own (orderly : state.Orderly) (own : Own request state next)
    (tidy : next.Tidy request) : next.Orderly where
  clean := tidy.clean
  sound other := by
    by_cases same : other = request
    · rw [same]
      exact tidy.sound
    · rw [own.conns other same]
      exact orderly.sound other
  awaited other := by
    by_cases same : other = request
    · rw [same]
      exact tidy.awaited
    · rw [own.conns other same, own.stages other same]
      exact orderly.awaited other

/-- A new stage of a request that reads nothing. -/
theorem restage (orderly : state.Orderly) (stage : RequestStage Acc) (conn : PooledConnection)
    (sound : conn.protocol.Sound) (awaited : Awaited stage conn.protocol)
    (stages : next.stage = Function.update state.stage request stage)
    (conns : next.conn = Function.update state.conn request conn)
    (pooled : next.pooled = state.pooled) : next.Orderly where
  clean := by
    rw [Clean, pooled]
    exact orderly.clean
  sound other := by
    rw [conns]
    by_cases same : other = request
    · rw [same, Function.update_self]
      exact sound
    · rw [Function.update_of_ne same]
      exact orderly.sound other
  awaited other := by
    rw [conns, stages]
    by_cases same : other = request
    · rw [same, Function.update_self, Function.update_self]
      exact awaited
    · rw [Function.update_of_ne same, Function.update_of_ne same]
      exact orderly.awaited other

/-- Nothing changes for the requests and their connections. -/
theorem same (orderly : state.Orderly) (stages : next.stage = state.stage)
    (conns : next.conn = state.conn) (pooled : next.pooled = state.pooled) : next.Orderly where
  clean := by
    rw [Clean, pooled]
    exact orderly.clean
  sound other := by
    rw [conns]
    exact orderly.sound other
  awaited other := by
    rw [conns, stages]
    exact orderly.awaited other

/-- A request ends, or waits for a connection. -/
theorem idle (orderly : state.Orderly) (request : RequestId) (stage : RequestStage Acc)
    (awaited : ∀ protocol, Awaited stage protocol)
    (stages : next.stage = Function.update state.stage request stage)
    (conns : next.conn = state.conn) (pooled : next.pooled = state.pooled) : next.Orderly :=
  orderly.restage stage (state.conn request) (orderly.sound request) (awaited _) stages
    (by rw [conns, Function.update_eq_self]) pooled

end Orderly

theorem step_orderly {label : WorkerLabel} (orderly : state.Orderly)
    (ends : EndsClean codec state label) (edge : step codec workerId state label = some next) :
    next.Orderly := by
  cases label with
  | recv query =>
      simp only [step, Option.ite_none_right_eq_some] at edge
      obtain ⟨-, edge⟩ := edge
      split at edge
      · obtain rfl := Option.some.inj edge
        exact orderly.same rfl rfl rfl
      · split at edge
        · obtain rfl := Option.some.inj edge
          exact orderly.idle _ .finished (fun _ => trivial) rfl rfl rfl
        · obtain rfl := Option.some.inj edge
          exact orderly.idle _ .acquiring (fun _ => trivial) rfl rfl rfl
  | recvFailed =>
      simp only [step, Option.ite_none_right_eq_some, Option.some.injEq] at edge
      obtain ⟨-, rfl⟩ := edge
      exact orderly
  | closed =>
      simp only [step, Option.ite_none_right_eq_some, Option.some.injEq] at edge
      obtain ⟨-, rfl⟩ := edge
      exact orderly.same rfl rfl rfl
  | acquired =>
      simp only [step] at edge
      split at edge
      · split at edge
        · obtain rfl := Option.some.inj edge
          exact orderly.restage .connected { lastUsed := 0 }
            (HttpResponseProtocol.sound_of_none rfl rfl) trivial rfl rfl rfl
        · simp at edge
      · simp at edge
  | acquireFailed error =>
      simp only [step] at edge
      split at edge
      · rename_i number loop
        split at edge
        · obtain rfl := Option.some.inj edge
          obtain ⟨pooled, conns⟩ :=
            handleError_pooled state number workerId error
          refine orderly.idle number .finished (fun _ => trivial) ?_ conns pooled
          exact congrArg (fun stage => Function.update stage number .finished)
            (handleError_stage workerId error)
        · simp at edge
      · simp at edge
  | write outcome =>
      simp only [step] at edge
      split at edge
      · rename_i number loop
        split at edge
        · rename_i connected
          split at edge
          · obtain rfl := Option.some.inj edge
            have receiving : Own number { state with loop := .receiving } _ :=
              Own.startTask workerId codec _
            have tidy := startTask_tidy workerId (orderly.tidy number) connected
              (ends number loop)
            exact (orderly.same rfl rfl rfl : Orderly { state with loop := .receiving }).own
              receiving tidy
          · rename_i error
            obtain rfl := Option.some.inj edge
            obtain ⟨pooled, conns⟩ := handleError_pooled
              { state with loop := .receiving } number workerId error
            refine orderly.idle number .finished (fun _ => trivial) ?_ conns pooled
            exact congrArg (fun stage => Function.update stage number .finished)
              (handleError_stage workerId error)
        · simp at edge
      · simp at edge
  | resume request error =>
      simp only [step, Option.ite_none_right_eq_some, Option.some.injEq] at edge
      obtain ⟨runnable, rfl⟩ := edge
      exact orderly.own (Own.resume workerId codec state error)
        (resume_tidy (orderly.tidy request) runnable error ends)
  | network request event =>
      simp only [step, Option.ite_none_right_eq_some, Option.some.injEq] at edge
      obtain ⟨-, rfl⟩ := edge
      have changed : Orderly (state.setProtocol request
          ((state.conn request).protocol.onNetwork event)) := by
        refine orderly.own (Own.setProtocol state _) ⟨orderly.clean, ?_, ?_⟩
        · simp only [setProtocol, Function.update_self]
          exact (orderly.sound request).onNetwork event
        · simp only [setProtocol, Function.update_self]
          exact (orderly.awaited request).onNetwork event
      cases event with
      | dataReceived callbacks parserError => exact changed
      | eofReceived => exact changed
      | connectionLost failed => exact changed.same rfl rfl rfl
  | shutdown =>
      obtain rfl := Option.some.inj edge
      exact orderly.same rfl rfl rfl
  | cancel request =>
      simp only [step, Option.ite_none_right_eq_some, Option.some.injEq] at edge
      obtain ⟨-, rfl⟩ := edge
      exact orderly.own (Own.finish state) (finish_tidy orderly.clean (orderly.sound request) ends)

end

end WorkerState

/-- The decoder raises on every event. -/
def raisingCodec : WorkerCodec Bytes QueryId :=
  { streamingCodec with parseSseChunk := fun _ => .error { errorType := "DecodeError" } }

end InferenceEndpoint
