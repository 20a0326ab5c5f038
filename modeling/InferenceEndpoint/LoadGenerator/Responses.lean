import InferenceEndpoint.LoadGenerator.AgenticStrategy

/-!
# Handling responses

`BenchmarkSession._handle_response`: results of queries that already ended are
dropped, all others are announced on the event bus, counted against the
current phase issuer and passed to the session callback.
-/

namespace InferenceEndpoint

namespace World

/-- The conversation and turn that the current issuer knows for a query. -/
def convInfo (world : World) (queryId : QueryId) : String × Option Nat :=
  (world.issuer.uuidToConvInfo.get? queryId).getD ("", none)

def popConvInfo (world : World) (queryId : QueryId) : World :=
  { world with issuer := { world.issuer with
      uuidToConvInfo := world.issuer.uuidToConvInfo.erase queryId } }

def errorEvent (world : World) (result : QueryResult)
    (convInfo : String × Option Nat) (error : ErrorData) : EventRecord where
  eventType := .errorGeneric
  timestampNs := world.nowNs
  sampleUuid := some result.id
  conversationId := convInfo.1
  turn := convInfo.2
  data := some (.error error)

def completeEvent (world : World) (result : QueryResult)
    (convInfo : String × Option Nat) : EventRecord where
  eventType := .complete
  timestampNs := result.completedAt.getD world.nowNs
  sampleUuid := some result.id
  conversationId := convInfo.1
  turn := convInfo.2
  data := result.responseOutput.map .output
  finishReason := result.finishReason
  workerId := result.workerId

/-- The events of a final result: ERROR first, then COMPLETE unless warming
up. -/
def resultEvents (world : World) (result : QueryResult) : List EventRecord :=
  let convInfo := world.convInfo result.id
  (result.error.toList.map (world.errorEvent result convInfo)) ++
    if world.phaseType = .warmup then [] else [world.completeEvent result convInfo]

/-- Publish the events of a final result and forget which turn it was. -/
def announceResult (world : World) (result : QueryResult) : World :=
  { world.popConvInfo result.id with
      timeline := world.timeline ++ (world.resultEvents result).map .published }

/-- `_handle_response` for a final result.  The strategies' `on_query_complete`
only releases a semaphore, which wakes its waiter in a later callback. -/
def handleResult (config : AgenticConfig) (world : World) (result : QueryResult) :
    World :=
  if result.id ∈ world.issuer.completedUuids then world
  else
    let world := world.announceResult result
    if (world.issuer.uuidToIndex.get? result.id).isNone then world
    else
      let world := world.markInflightComplete
      if world.phaseType = .warmup then world
      else onSampleCompleteCallback config world result

/-- `_handle_response` for a stream chunk. -/
def handleChunk (world : World) (chunk : StreamChunk) : World :=
  let convInfo := world.convInfo chunk.id
  world.publish
    { eventType := if chunk.firstChunk then .recvFirst else .recvNonFirst
      timestampNs := world.nowNs
      sampleUuid := some chunk.id
      conversationId := convInfo.1
      turn := convInfo.2 }

/-- One round of `_receive_responses`. -/
def receive (config : AgenticConfig) (world : World) : Response → World
  | .result result => (world.observe (.received result)).handleResult config result
  | .chunk chunk => world.handleChunk chunk

end World

/-! ## Reading the timeline -/

namespace Observation

def sentId? : Observation → Option QueryId
  | .sent query _ _ => some query.id
  | _ => none

def receivedId? : Observation → Option QueryId
  | .received result => some result.id
  | _ => none

def collectedId? : Observation → Option QueryId
  | .collected result => some result.id
  | _ => none

/-- The sample whose COMPLETE event was published. -/
def completeId? : Observation → Option QueryId
  | .published event =>
      if event.eventType = .complete then event.sampleUuid else none
  | _ => none

end Observation

namespace World

/-- Queries handed to the client so far. -/
def sentIds (world : World) : List QueryId :=
  world.history.filterMap Observation.sentId?

/-- Queries whose final result the client has delivered. -/
def receivedIds (world : World) : List QueryId :=
  world.history.filterMap Observation.receivedId?

/-- Samples whose result, real or synthetic, the collector has recorded. -/
def collectedIds (world : World) : List QueryId :=
  world.history.filterMap Observation.collectedId?

def completeIds (world : World) : List QueryId :=
  world.history.filterMap Observation.completeId?

theorem history_observe (world : World) (observation : Observation) :
    (world.observe observation).history = world.history ++ [observation] := by
  simp [history, observe]

@[simp]
theorem sentIds_observe (world : World) (observation : Observation) :
    (world.observe observation).sentIds =
      world.sentIds ++ observation.sentId?.toList := by
  rw [sentIds, history_observe, List.filterMap_append]
  cases found : observation.sentId? <;> simp [sentIds, found]

@[simp]
theorem receivedIds_observe (world : World) (observation : Observation) :
    (world.observe observation).receivedIds =
      world.receivedIds ++ observation.receivedId?.toList := by
  rw [receivedIds, history_observe, List.filterMap_append]
  cases found : observation.receivedId? <;> simp [receivedIds, found]

@[simp]
theorem collectedIds_observe (world : World) (observation : Observation) :
    (world.observe observation).collectedIds =
      world.collectedIds ++ observation.collectedId?.toList := by
  rw [collectedIds, history_observe, List.filterMap_append]
  cases found : observation.collectedId? <;> simp [collectedIds, found]

@[simp]
theorem completeIds_observe (world : World) (observation : Observation) :
    (world.observe observation).completeIds =
      world.completeIds ++ observation.completeId?.toList := by
  rw [completeIds, history_observe, List.filterMap_append]
  cases found : observation.completeId? <;> simp [completeIds, found]

/-- The client's contract: results only for queries it was given, at most one
for each. -/
def deliverable (world : World) : Response → Bool
  | .result result =>
      world.sentIds.contains result.id && !world.receivedIds.contains result.id
  | .chunk chunk => world.sentIds.contains chunk.id

end World

end InferenceEndpoint
