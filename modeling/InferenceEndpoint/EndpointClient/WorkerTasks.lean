import InferenceEndpoint.EndpointClient.Worker

/-!
# Tasks of the worker

What the task of a request does between two awaits concerns this request only: its stage, its
connection and the responses sent for it.  Everything else stays.
-/

namespace InferenceEndpoint

namespace WorkerState

variable {Delta Acc : Type}

/-- A change that concerns one request. -/
structure Own (request : RequestId) (before after : WorkerState Acc) : Prop where
  shutdown : after.shutdown = before.shutdown
  loop : after.loop = before.loop
  received : after.received = before.received
  requests : after.request = before.request
  lost : after.lost = before.lost
  stages : ∀ other, other ≠ request → after.stage other = before.stage other
  conns : ∀ other, other ≠ request → after.conn other = before.conn other
  sent : ∃ sent : List Response,
    after.responses = before.responses ++ sent.map fun response => (request, response)

namespace Own

variable {request : RequestId}

theorem refl (state : WorkerState Acc) : Own request state state :=
  ⟨rfl, rfl, rfl, rfl, rfl, fun _ _ => rfl, fun _ _ => rfl, [], (List.append_nil _).symm⟩

theorem trans {first second third : WorkerState Acc} (before : Own request first second)
    (after : Own request second third) : Own request first third where
  shutdown := after.shutdown.trans before.shutdown
  loop := after.loop.trans before.loop
  received := after.received.trans before.received
  requests := after.requests.trans before.requests
  lost := after.lost.trans before.lost
  stages other different := (after.stages other different).trans (before.stages other different)
  conns other different := (after.conns other different).trans (before.conns other different)
  sent := by
    obtain ⟨early, one⟩ := before.sent
    obtain ⟨late, two⟩ := after.sent
    exact ⟨early ++ late, by rw [two, one, List.map_append, List.append_assoc]⟩

theorem setProtocol (state : WorkerState Acc) (protocol : HttpResponseProtocol) :
    Own request state (state.setProtocol request protocol) where
  shutdown := rfl
  loop := rfl
  received := rfl
  requests := rfl
  lost := rfl
  stages _ _ := rfl
  conns _ different := Function.update_of_ne different _ _
  sent := ⟨[], (List.append_nil _).symm⟩

theorem setStage (state : WorkerState Acc) (stage : RequestStage Acc) :
    Own request state (state.setStage request stage) where
  shutdown := rfl
  loop := rfl
  received := rfl
  requests := rfl
  lost := rfl
  stages _ different := Function.update_of_ne different _ _
  conns _ _ := rfl
  sent := ⟨[], (List.append_nil _).symm⟩

theorem send (state : WorkerState Acc) (response : Response) :
    Own request state (state.send request response) where
  shutdown := rfl
  loop := rfl
  received := rfl
  requests := rfl
  lost := rfl
  stages _ _ := rfl
  conns _ _ := rfl
  sent := ⟨[response], rfl⟩

theorem sendChunks (state : WorkerState Acc) (chunks : List StreamChunk) :
    Own request state (state.sendChunks request chunks) where
  shutdown := rfl
  loop := rfl
  received := rfl
  requests := rfl
  lost := rfl
  stages _ _ := rfl
  conns _ _ := rfl
  sent := ⟨chunks.map Response.chunk, by
    rw [List.map_map]
    rfl⟩

theorem release (state : WorkerState Acc) : Own request state (state.release request) := by
  have conns : ∀ (conn : PooledConnection) (pooled : List PooledConnection),
      Own request state
        { state with conn := Function.update state.conn request conn, pooled := pooled } :=
    fun _ _ => ⟨rfl, rfl, rfl, rfl, rfl, fun _ _ => rfl,
      fun _ different => Function.update_of_ne different _ _, [], (List.append_nil _).symm⟩
  unfold WorkerState.release
  dsimp only
  split
  · exact refl state
  · split
    · exact conns _ state.pooled
    · exact conns _ _

variable (workerId : Nat)

theorem handleError (state : WorkerState Acc) (error : ErrorData) :
    Own request state (state.handleError workerId request error) := by
  unfold WorkerState.handleError
  split
  · exact refl state
  · exact send state _

theorem finish (state : WorkerState Acc) : Own request state (state.finish request) :=
  (release state).trans (setStage _ _)

theorem fail (state : WorkerState Acc) (error : ErrorData) :
    Own request state (state.fail workerId request error) :=
  (handleError workerId state error).trans (finish _)

theorem conclude (state : WorkerState Acc) (outcome : Except ErrorData QueryResult) :
    Own request state (state.conclude workerId request outcome) := by
  cases outcome with
  | error error => exact fail workerId state error
  | ok result => exact (send state _).trans (finish _)

variable (codec : WorkerCodec Delta Acc)

theorem errorBody (state : WorkerState Acc) (statusCode : Nat) (body : Bytes) :
    Own request state (WorkerState.errorBody codec workerId state request statusCode body) :=
  (release state).trans (fail workerId _ _)

theorem wholeBody (state : WorkerState Acc) (body : Bytes) :
    Own request state (WorkerState.wholeBody codec workerId state request body) :=
  (release state).trans (conclude workerId _ _)

theorem readBody (state : WorkerState Acc) (stage : RequestStage Acc)
    {next : Bytes → WorkerState Acc} (continues : ∀ body, Own request state (next body)) :
    Own request state (state.readBody request stage next) := by
  unfold WorkerState.readBody
  dsimp only
  split
  · exact continues _
  · exact (setProtocol state _).trans (setStage _ _)

theorem endStream (state : WorkerState Acc) (incompleteChunk : Bytes) (acc : Acc) :
    Own request state (WorkerState.endStream codec workerId state request incompleteChunk acc) :=
  ((sendChunks state _).trans (release _)).trans (conclude workerId _ _)

theorem streamLoop (state : WorkerState Acc) (incompleteChunk : Bytes) (acc : Acc) :
    Own request state
      (WorkerState.streamLoop codec workerId state request incompleteChunk acc) := by
  unfold WorkerState.streamLoop
  dsimp only
  split
  · exact (sendChunks state _).trans (fail workerId _ _)
  · split
    · exact ((sendChunks state _).trans (setProtocol _ _)).trans (endStream workerId codec _ _ _)
    · exact ((sendChunks state _).trans (setProtocol _ _)).trans (setStage _ _)

theorem startStream (state : WorkerState Acc) :
    Own request state (WorkerState.startStream codec workerId state request) := by
  unfold WorkerState.startStream
  dsimp only
  split
  · exact ((setProtocol state _).trans (sendChunks _ _)).trans (fail workerId _ _)
  · split
    · exact (((setProtocol state _).trans (sendChunks _ _)).trans (setProtocol _ _)).trans
        (endStream workerId codec _ _ _)
    · exact (((setProtocol state _).trans (sendChunks _ _)).trans (setProtocol _ _)).trans
        (streamLoop workerId codec _ _ _)

theorem afterHeaders (state : WorkerState Acc) (statusCode : Nat) :
    Own request state (WorkerState.afterHeaders codec workerId state request statusCode) := by
  unfold WorkerState.afterHeaders
  split
  · exact readBody state _ fun body => errorBody workerId codec state _ body
  · split
    · exact startStream workerId codec state
    · exact readBody state _ fun body => wholeBody workerId codec state body

theorem startTask (state : WorkerState Acc) :
    Own request state (WorkerState.startTask codec workerId state request) := by
  unfold WorkerState.startTask
  dsimp only
  split
  · exact afterHeaders workerId codec state _
  · exact (setProtocol state _).trans (setStage _ _)

theorem resume (state : WorkerState Acc) (error : ErrorData) :
    Own request state (WorkerState.resume codec workerId state request error) := by
  unfold WorkerState.resume
  dsimp only
  split
  · split
    · exact afterHeaders workerId codec state _
    · exact fail workerId state error
  · split
    · exact errorBody workerId codec state _ _
    · exact fail workerId state error
  · split
    · exact wholeBody workerId codec state _
    · exact fail workerId state error
  · exact streamLoop workerId codec state _ _
  · exact refl state

end Own

end WorkerState

end InferenceEndpoint
