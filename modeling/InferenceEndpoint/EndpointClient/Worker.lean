import InferenceEndpoint.Core.Types
import InferenceEndpoint.EndpointClient.ConnectionPool
import InferenceEndpoint.Library.GuardedRuns

/-!
# HTTP worker

`Worker` with its main loop and the tasks that process responses, cut at their await
points.  The requests are numbered in the order in which their queries arrive.  The
connection that a request has acquired is its own until it is released, so it is kept
with the request; what the network makes of it comes in any order.  Adapter, template
and accumulator are parameters; whatever they raise is an `ErrorData`.
-/

namespace InferenceEndpoint

/-- The adapter, the template and the accumulator of a worker.  Results carry the id of
the query that they were made for. -/
structure WorkerCodec (Delta Acc : Type) where
  encodeQuery : Query → Except ErrorData Bytes
  isStreaming : Query → Bool
  buildRequest : Bytes → Bool → List (String × String) → Except ErrorData Bytes
  decodeResponse : Bytes → QueryId → Except ErrorData QueryResult
  decode_id : ∀ {bytes id result}, decodeResponse bytes id = .ok result → result.id = id
  /-- `decode("utf-8", errors="replace")`. -/
  decodeText : Bytes → String
  parseSseChunk : Bytes → Except ErrorData (List Delta)
  accumulator : QueryId → Acc
  addChunk : Acc → Delta → Except ErrorData (Acc × Option StreamChunk)
  getFinalOutput : Acc → Except ErrorData QueryResult
  queryId : Acc → QueryId
  accumulator_id : ∀ id, queryId (accumulator id) = id
  addChunk_id : ∀ {acc delta next chunk}, addChunk acc delta = .ok (next, chunk) →
    queryId next = queryId acc
  final_id : ∀ {acc result}, getFinalOutput acc = .ok result → result.id = queryId acc

structure InFlightRequest where
  queryId : QueryId := 0
  httpBytes : Bytes := []
  isStreaming : Bool := false

/-- Where a request stands. -/
inductive RequestStage (Acc : Type)
  /-- It does not exist. -/
  | absent
  | acquiring
  /-- It has a connection, the request is not written yet. -/
  | connected
  | readingHeaders
  | readingErrorBody (statusCode : Nat)
  | readingBody
  | streaming (incompleteChunk : Bytes) (accumulator : Acc)
  | finished

/-- The request has a connection and no result yet. -/
def RequestStage.active {Acc : Type} : RequestStage Acc → Bool
  | .absent | .acquiring | .finished => false
  | _ => true

inductive WorkerLoop
  | receiving
  | acquiring (request : RequestId)
  | stopped
  deriving DecidableEq

structure WorkerState (Acc : Type) where
  shutdown : Bool := false
  loop : WorkerLoop := .receiving
  received : List Query := []
  stage : RequestId → RequestStage Acc := fun _ => .absent
  request : RequestId → InFlightRequest := fun _ => {}
  conn : RequestId → PooledConnection := fun _ => { lastUsed := 0 }
  /-- The transport has reported the loss of the connection. -/
  lost : RequestId → Bool := fun _ => false
  responses : List (RequestId × Response) := []
  /-- The connections as they were when they went on the idle stack. -/
  pooled : List PooledConnection := []

inductive WorkerLabel
  /-- `recv` returns a query. -/
  | recv (query : Query)
  /-- `recv` raises. -/
  | recvFailed
  /-- `recv` returns `None`, or the main loop is cancelled. -/
  | closed
  | acquired
  | acquireFailed (error : ErrorData)
  | write (outcome : Except ErrorData Unit)
  /-- The task of the request runs on; `error` is what its future raises if it does. -/
  | resume (request : RequestId) (error : ErrorData)
  | network (request : RequestId) (event : NetworkEvent)
  | shutdown
  /-- The task is cancelled by the cleanup. -/
  | cancel (request : RequestId)

/-! ## Splitting the stream into events -/

/-- `b"\n\n"`. -/
def eventDelimiter : Bytes :=
  [10, 10]

/-- The bytes before the last delimiter and those after it. -/
def splitLastEvent : Bytes → Option (Bytes × Bytes)
  | [] => none
  | byte :: bytes =>
      match splitLastEvent bytes with
      | some (events, rest) => some (byte :: events, rest)
      | none => (List.isPrefixOf? eventDelimiter (byte :: bytes)).map fun rest => ([], rest)

namespace WorkerCodec

variable {Delta Acc : Type} (codec : WorkerCodec Delta Acc)

/-- `_prepare_request`. -/
def prepareRequest (query : Query) : Except ErrorData InFlightRequest :=
  (codec.encodeQuery query).bind fun bodyBytes =>
    (codec.buildRequest bodyBytes (codec.isStreaming query) query.headers).map fun httpBytes =>
      { queryId := query.id, httpBytes := httpBytes, isStreaming := codec.isStreaming query }

/-- The accumulator takes the chunks of a batch; the chunks to send, also if it raises. -/
def addChunks : Acc → List Delta → List StreamChunk × Except ErrorData Acc
  | acc, [] => ([], .ok acc)
  | acc, delta :: deltas =>
      match codec.addChunk acc delta with
      | .error error => ([], .error error)
      | .ok (next, chunk) =>
          let (sent, outcome) := addChunks next deltas
          (chunk.toList ++ sent, outcome)

/-- The decoded chunks of complete events go to the accumulator. -/
def takeEvents (acc : Acc) (events : Bytes) : List StreamChunk × Except ErrorData Acc :=
  match codec.parseSseChunk events with
  | .error error => ([], .error error)
  | .ok deltas => codec.addChunks acc deltas

/-- One round of `_iter_sse_lines`, with what it leaves incomplete. -/
def takeRead (incompleteChunk : Bytes) (acc : Acc) (chunks : List Bytes) :
    List StreamChunk × Except ErrorData (Bytes × Acc) :=
  let buffer := incompleteChunk ++ chunks.flatten
  match splitLastEvent buffer with
  | none => ([], .ok (buffer, acc))
  | some (events, rest) =>
      let (sent, outcome) := codec.takeEvents acc events
      (sent, outcome.map fun next => (rest, next))

/-- The rounds for what has been read, if anything has. -/
def drain (incompleteChunk : Bytes) (acc : Acc) (chunks : List Bytes) :
    List StreamChunk × Except ErrorData (Bytes × Acc) :=
  if chunks.isEmpty then ([], .ok (incompleteChunk, acc))
  else codec.takeRead incompleteChunk acc chunks

/-- What follows the stream: the rest of it, and the final output. -/
def endStream (incompleteChunk : Bytes) (acc : Acc) :
    List StreamChunk × Except ErrorData QueryResult :=
  let (sent, outcome) :=
    if incompleteChunk.isEmpty then ([], .ok acc) else codec.takeEvents acc incompleteChunk
  (sent, outcome.bind codec.getFinalOutput)

end WorkerCodec

/-- `release` puts the connection on the idle stack. -/
def PooledConnection.returned (conn : PooledConnection) : Bool :=
  conn.inUse && conn.isAlive && !conn.protocol.shouldClose

namespace WorkerState

variable {Delta Acc : Type} (codec : WorkerCodec Delta Acc) (workerId : Nat)

def setStage (state : WorkerState Acc) (request : RequestId) (stage : RequestStage Acc) :
    WorkerState Acc :=
  { state with stage := Function.update state.stage request stage }

def setProtocol (state : WorkerState Acc) (request : RequestId)
    (protocol : HttpResponseProtocol) : WorkerState Acc :=
  { state with
      conn := Function.update state.conn request
        { state.conn request with protocol := protocol } }

def send (state : WorkerState Acc) (request : RequestId) (response : Response) :
    WorkerState Acc :=
  { state with responses := state.responses ++ [(request, response)] }

def sendChunks (state : WorkerState Acc) (request : RequestId) (chunks : List StreamChunk) :
    WorkerState Acc :=
  { state with responses := state.responses ++ chunks.map fun chunk => (request, .chunk chunk) }

/-- `_handle_error`. -/
def handleError (state : WorkerState Acc) (request : RequestId) (error : ErrorData) :
    WorkerState Acc :=
  if state.shutdown then state
  else
    state.send request (.result
      { id := (state.request request).queryId, workerId := some workerId, error := some error })

/-- `release` of the pool, as far as the connection goes. -/
def release (state : WorkerState Acc) (request : RequestId) : WorkerState Acc :=
  let conn := state.conn request
  if !conn.inUse then state
  else if !conn.isAlive || conn.protocol.shouldClose then
    { state with conn := Function.update state.conn request { conn with closing := true } }
  else
    { state with
        conn := Function.update state.conn request
          { conn with inUse := false, protocol := conn.protocol.reset }
        pooled := state.pooled ++ [conn] }

/-- The `finally` block of `_process_response`. -/
def finish (state : WorkerState Acc) (request : RequestId) : WorkerState Acc :=
  (state.release request).setStage request .finished

/-- The `except` block of `_process_response`. -/
def fail (state : WorkerState Acc) (request : RequestId) (error : ErrorData) :
    WorkerState Acc :=
  (state.handleError workerId request error).finish request

/-- A result for the main rank, or the exception on the way to it. -/
def conclude (state : WorkerState Acc) (request : RequestId)
    (outcome : Except ErrorData QueryResult) : WorkerState Acc :=
  match outcome with
  | .error error => state.fail workerId request error
  | .ok result =>
      (state.send request (.result { result with workerId := some workerId })).finish request

/-- The body of a response with an error status. -/
def errorBody (state : WorkerState Acc) (request : RequestId) (statusCode : Nat)
    (body : Bytes) : WorkerState Acc :=
  (state.release request).fail workerId request
    { errorType := "error"
      errorMessage := "HTTP " ++ toString statusCode ++ ": " ++ codec.decodeText body }

/-- `_handle_non_streaming_body` with the body. -/
def wholeBody (state : WorkerState Acc) (request : RequestId) (body : Bytes) :
    WorkerState Acc :=
  (state.release request).conclude workerId request
    (codec.decodeResponse body (state.request request).queryId)

/-- `read_body`, which only waits if the message is not complete. -/
def readBody (state : WorkerState Acc) (request : RequestId) (stage : RequestStage Acc)
    (continue_ : Bytes → WorkerState Acc) : WorkerState Acc :=
  let protocol := (state.conn request).protocol
  if protocol.messageComplete then continue_ protocol.bodyChunks.flatten
  else
    (state.setProtocol request { protocol with bodyFuture := some .pending }).setStage
      request stage

/-- The end of `_handle_streaming_body`. -/
def endStream (state : WorkerState Acc) (request : RequestId) (incompleteChunk : Bytes)
    (acc : Acc) : WorkerState Acc :=
  let (sent, outcome) := codec.endStream incompleteChunk acc
  ((state.sendChunks request sent).release request).conclude workerId request outcome

/-- The loop of `iter_body`, up to the next await. -/
def streamLoop (state : WorkerState Acc) (request : RequestId) (incompleteChunk : Bytes)
    (acc : Acc) : WorkerState Acc :=
  let protocol := (state.conn request).protocol
  let (sent, outcome) := codec.drain incompleteChunk acc protocol.streamChunks
  let drained := state.sendChunks request sent
  match outcome with
  | .error error => drained.fail workerId request error
  | .ok (rest, next) =>
      if protocol.messageComplete || protocol.connectionLost then
        endStream codec workerId
          (drained.setProtocol request { protocol with streamChunks := [] }) request rest next
      else
        (drained.setProtocol request
          { protocol with streamChunks := [], streamEvent := false }).setStage request
            (.streaming rest next)

/-- `_handle_streaming_body`, up to the first await. -/
def startStream (state : WorkerState Acc) (request : RequestId) : WorkerState Acc :=
  let protocol := (state.conn request).protocol
  let streaming := state.setProtocol request { protocol with streaming := true }
  let (sent, outcome) := codec.drain [] (codec.accumulator (state.request request).queryId)
    protocol.bodyChunks
  match outcome with
  | .error error => (streaming.sendChunks request sent).fail workerId request error
  | .ok (rest, next) =>
      let drained := (streaming.sendChunks request sent).setProtocol request
        { protocol with streaming := true, bodyChunks := [] }
      if protocol.messageComplete then endStream codec workerId drained request rest next
      else streamLoop codec workerId drained request rest next

/-- `_process_response` once it has the status. -/
def afterHeaders (state : WorkerState Acc) (request : RequestId) (statusCode : Nat) :
    WorkerState Acc :=
  if statusCode ≠ 200 then
    state.readBody request (.readingErrorBody statusCode)
      (errorBody codec workerId state request statusCode)
  else if (state.request request).isStreaming then startStream codec workerId state request
  else state.readBody request .readingBody (wholeBody codec workerId state request)

/-- The start of `_process_response`: `read_headers`. -/
def startTask (state : WorkerState Acc) (request : RequestId) : WorkerState Acc :=
  let protocol := (state.conn request).protocol
  if protocol.headersComplete then
    afterHeaders codec workerId state request protocol.statusCode
  else
    (state.setProtocol request { protocol with headersFuture := some .pending }).setStage
      request .readingHeaders

/-- What the task waits for has happened. -/
def runnable (state : WorkerState Acc) (request : RequestId) : Bool :=
  let protocol := (state.conn request).protocol
  match state.stage request with
  | .readingHeaders => protocol.headersFuture ≠ some .pending
  | .readingErrorBody _ | .readingBody => protocol.bodyFuture ≠ some .pending
  | .streaming _ _ => protocol.streamEvent
  | _ => false

def resume (state : WorkerState Acc) (request : RequestId) (error : ErrorData) :
    WorkerState Acc :=
  let protocol := (state.conn request).protocol
  match state.stage request with
  | .readingHeaders =>
      match protocol.headersFuture with
      | some (.result statusCode) => afterHeaders codec workerId state request statusCode
      | _ => state.fail workerId request error
  | .readingErrorBody statusCode =>
      match protocol.bodyFuture with
      | some (.result body) => errorBody codec workerId state request statusCode body
      | _ => state.fail workerId request error
  | .readingBody =>
      match protocol.bodyFuture with
      | some (.result body) => wholeBody codec workerId state request body
      | _ => state.fail workerId request error
  | .streaming incompleteChunk acc =>
      streamLoop codec workerId state request incompleteChunk acc
  | _ => state

end WorkerState

namespace HttpResponseProtocol

/-- The parser reports the headers before anything else. -/
def ordered : HttpResponseProtocol → List ParserCallback → Bool
  | _, [] => true
  | protocol, callback :: callbacks =>
      (match callback with
        | .headersComplete _ _ => true
        | _ => protocol.headersComplete) &&
        ordered (protocol.onCallback callback) callbacks

end HttpResponseProtocol

namespace WorkerState

variable {Delta Acc : Type} (codec : WorkerCodec Delta Acc) (workerId : Nat)

/-- The event can come now.  Callbacks run in the order in which they were scheduled, so
a connection is not reported lost between the wakeup of its task and its next step. -/
def possible (state : WorkerState Acc) (request : RequestId) (event : NetworkEvent) : Bool :=
  (state.stage request).active &&
    match event with
    | .dataReceived callbacks _ => (state.conn request).protocol.ordered callbacks
    | .eofReceived => true
    | .connectionLost _ =>
        !state.runnable request &&
          match state.stage request with
          | .connected => false
          | _ => true

def step (state : WorkerState Acc) : WorkerLabel → Option (WorkerState Acc)
  | .recv query =>
      if state.loop = .receiving then
        let number := state.received.length
        let pulled := { state with received := state.received ++ [query] }
        match codec.prepareRequest query with
        | .error _ => some pulled
        | .ok request =>
            let prepared :=
              { pulled with request := Function.update state.request number request }
            if state.shutdown then some (prepared.setStage number .finished)
            else
              some { prepared.setStage number .acquiring with loop := .acquiring number }
      else none
  | .recvFailed => if state.loop = .receiving then some state else none
  | .closed => if state.loop = .receiving then some { state with loop := .stopped } else none
  | .acquired =>
      match state.loop with
      | .acquiring number =>
          match state.stage number with
          | .acquiring =>
              some { state.setStage number .connected with
                conn := Function.update state.conn number { lastUsed := 0 } }
          | _ => none
      | _ => none
  | .acquireFailed error =>
      match state.loop with
      | .acquiring number =>
          match state.stage number with
          | .acquiring =>
              some { (state.handleError workerId number error).setStage number .finished with
                loop := .receiving }
          | _ => none
      | _ => none
  | .write outcome =>
      match state.loop with
      | .acquiring number =>
          match state.stage number with
          | .connected =>
              let receiving := { state with loop := .receiving }
              match outcome with
              | .ok _ => some (startTask codec workerId receiving number)
              | .error error =>
                  some ((receiving.handleError workerId number error).setStage number .finished)
          | _ => none
      | _ => none
  | .resume request error =>
      if state.runnable request then some (resume codec workerId state request error) else none
  | .network request event =>
      if state.possible request event then
        let changed := state.setProtocol request
          ((state.conn request).protocol.onNetwork event)
        some (match event with
          | .connectionLost _ =>
              { changed with lost := Function.update changed.lost request true }
          | _ => changed)
      else none
  | .shutdown => some { state with shutdown := true }
  | .cancel request =>
      if state.shutdown && (state.stage request).active then some (state.finish request)
      else none

end WorkerState

end InferenceEndpoint
