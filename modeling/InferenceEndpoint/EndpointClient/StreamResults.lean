import InferenceEndpoint.EndpointClient.Worker

/-!
# Results of streamed responses

`iter_body` returns when its connection is lost, as it does when the message is complete.
A streamed response that is cut short is therefore answered with what has come of it and
without an error, where a response that is read as a whole raises.
-/

namespace InferenceEndpoint

namespace WorkerState

variable {Delta Acc : Type}

/-! ## Truthful results -/

/-- A result without an error for a streamed request is sent when its message is complete. -/
def Truthful (origin : WorkerState Acc) (entry : RequestId × Response) : Prop :=
  ∀ result, entry.2 = .result result → result.error = none →
    (origin.request entry.1).isStreaming = true →
    (origin.conn entry.1).protocol.messageComplete = true

/-- What the task of a request does between two states. -/
structure Advances (origin : WorkerState Acc) (request : RequestId)
    (before after : WorkerState Acc) : Prop where
  requests : after.request = before.request
  received : after.received = before.received
  others : ∀ other, other ≠ request → after.stage other = before.stage other
  own : after.stage request = .readingBody →
    before.stage request = .readingBody ∨ (before.request request).isStreaming = false
  sent : ∃ sent, after.responses = before.responses ++ sent ∧
    ∀ entry ∈ sent, origin.Truthful entry

namespace Advances

variable {origin : WorkerState Acc} {request : RequestId}

/-- Nothing is sent, and the stages stay. -/
theorem quiet {before after : WorkerState Acc} (requests : after.request = before.request)
    (received : after.received = before.received) (stage : after.stage = before.stage)
    (responses : after.responses = before.responses) : Advances origin request before after where
  requests := requests
  received := received
  others other _ := congrFun stage other
  own reading := Or.inl ((congrFun stage request).symm.trans reading)
  sent := ⟨[], by rw [responses, List.append_nil], List.forall_mem_nil _⟩

theorem refl (state : WorkerState Acc) : Advances origin request state state :=
  quiet rfl rfl rfl rfl

theorem trans {first second third : WorkerState Acc}
    (before : Advances origin request first second)
    (after : Advances origin request second third) : Advances origin request first third where
  requests := after.requests.trans before.requests
  received := after.received.trans before.received
  others other different := (after.others other different).trans (before.others other different)
  own reading := by
    rcases after.own reading with earlier | plain
    · exact before.own earlier
    · exact Or.inr (before.requests ▸ plain)
  sent := by
    obtain ⟨early, one, earlyTruthful⟩ := before.sent
    obtain ⟨late, two, lateTruthful⟩ := after.sent
    refine ⟨early ++ late, by rw [two, one, List.append_assoc], fun entry member => ?_⟩
    exact (List.mem_append.mp member).elim (earlyTruthful entry) (lateTruthful entry)

theorem setProtocol (state : WorkerState Acc) (protocol : HttpResponseProtocol) :
    Advances origin request state (state.setProtocol request protocol) :=
  quiet rfl rfl rfl rfl

theorem release (state : WorkerState Acc) :
    Advances origin request state (state.release request) := by
  unfold WorkerState.release
  dsimp only
  split
  · exact refl state
  · split
    · exact quiet rfl rfl rfl rfl
    · exact quiet rfl rfl rfl rfl

theorem setStage (state : WorkerState Acc) {stage : RequestStage Acc}
    (reading : stage = .readingBody → (state.request request).isStreaming = false) :
    Advances origin request state (state.setStage request stage) where
  requests := rfl
  received := rfl
  others other different := by simp [WorkerState.setStage, different]
  own now := Or.inr (reading (by simpa [WorkerState.setStage] using now))
  sent := ⟨[], (List.append_nil _).symm, List.forall_mem_nil _⟩

theorem sendChunks (state : WorkerState Acc) (chunks : List StreamChunk) :
    Advances origin request state (state.sendChunks request chunks) where
  requests := rfl
  received := rfl
  others _ _ := rfl
  own reading := Or.inl reading
  sent := by
    refine ⟨_, rfl, fun entry member result => ?_⟩
    obtain ⟨chunk, -, rfl⟩ := List.mem_map.mp member
    exact nofun

/-- A result that carries an error, or that may go out without one. -/
theorem send (state : WorkerState Acc) {result : QueryResult}
    (truthful : origin.Truthful (request, .result result)) :
    Advances origin request state (state.send request (.result result)) where
  requests := rfl
  received := rfl
  others _ _ := rfl
  own reading := Or.inl reading
  sent := ⟨_, rfl, fun entry member => by rw [List.mem_singleton.mp member]; exact truthful⟩

theorem handleError (state : WorkerState Acc) (workerId : Nat) (error : ErrorData) :
    Advances origin request state (state.handleError workerId request error) := by
  unfold WorkerState.handleError
  split
  · exact refl state
  · refine send state fun result same failed => ?_
    obtain rfl := Response.result.inj same
    exact nomatch failed

theorem finished (state : WorkerState Acc) :
    Advances origin request state (state.setStage request .finished) :=
  setStage state nofun

theorem finish (state : WorkerState Acc) : Advances origin request state (state.finish request) :=
  (release state).trans (finished _)

theorem fail (state : WorkerState Acc) (workerId : Nat) (error : ErrorData) :
    Advances origin request state (state.fail workerId request error) :=
  (handleError state workerId error).trans (finish _)

/-- The message of a streamed request is complete. -/
theorem conclude (state : WorkerState Acc) (workerId : Nat)
    (whole : (origin.request request).isStreaming = true →
      (origin.conn request).protocol.messageComplete = true)
    (outcome : Except ErrorData QueryResult) :
    Advances origin request state (state.conclude workerId request outcome) := by
  cases outcome with
  | error error => exact fail state workerId error
  | ok result => exact (send state fun _ _ _ => whole).trans (finish _)

end Advances

/-! ## The task of a request -/

section

variable (codec : WorkerCodec Delta Acc) (workerId : Nat) {origin : WorkerState Acc}
  {request : RequestId}

theorem advances_errorBody (state : WorkerState Acc) (statusCode : Nat) (body : Bytes) :
    Advances origin request state (errorBody codec workerId state request statusCode body) :=
  (Advances.release state).trans (Advances.fail _ workerId _)

theorem advances_wholeBody (state : WorkerState Acc)
    (plain : (origin.request request).isStreaming = false) (body : Bytes) :
    Advances origin request state (wholeBody codec workerId state request body) := by
  refine (Advances.release state).trans (Advances.conclude _ workerId ?_ _)
  rw [plain]
  exact nofun

theorem advances_readBody {state : WorkerState Acc} {stage : RequestStage Acc}
    {next : Bytes → WorkerState Acc}
    (reading : stage = .readingBody → (state.request request).isStreaming = false)
    (continues : ∀ body, Advances origin request state (next body)) :
    Advances origin request state (state.readBody request stage next) := by
  unfold readBody
  dsimp only
  split
  · exact continues _
  · exact (Advances.setProtocol state _).trans (Advances.setStage _ reading)

theorem advances_endStream (state : WorkerState Acc) (incompleteChunk : Bytes) (acc : Acc)
    (whole : (origin.request request).isStreaming = true →
      (origin.conn request).protocol.messageComplete = true) :
    Advances origin request state
      (endStream codec workerId state request incompleteChunk acc) := by
  unfold endStream
  exact ((Advances.sendChunks state _).trans (Advances.release _)).trans
    (Advances.conclude _ workerId whole _)

/-- The loop ends with the message, or goes on because the connection is not lost. -/
theorem advances_streamLoop (state : WorkerState Acc) (incompleteChunk : Bytes) (acc : Acc)
    (complete : (state.conn request).protocol.messageComplete = true →
      (origin.conn request).protocol.messageComplete = true)
    (connected : (origin.request request).isStreaming = true →
      (state.conn request).protocol.messageComplete = false →
      (state.conn request).protocol.connectionLost = false) :
    Advances origin request state
      (streamLoop codec workerId state request incompleteChunk acc) := by
  unfold streamLoop
  dsimp only
  have sent : Advances origin request state (state.sendChunks request
      (codec.drain incompleteChunk acc (state.conn request).protocol.streamChunks).1) :=
    Advances.sendChunks state _
  split
  · exact sent.trans (Advances.fail _ workerId _)
  · split
    · rename_i ends
      refine (sent.trans (Advances.setProtocol _ _)).trans
        (advances_endStream codec workerId _ _ _ fun streaming => ?_)
      cases whole : (state.conn request).protocol.messageComplete with
      | true => exact complete whole
      | false => simp [whole, connected streaming whole] at ends
    · exact (sent.trans (Advances.setProtocol _ _)).trans (Advances.setStage _ nofun)

theorem advances_startStream (state : WorkerState Acc)
    (complete : (state.conn request).protocol.messageComplete = true →
      (origin.conn request).protocol.messageComplete = true)
    (connected : (origin.request request).isStreaming = true →
      (state.conn request).protocol.messageComplete = false →
      (state.conn request).protocol.connectionLost = false) :
    Advances origin request state (startStream codec workerId state request) := by
  unfold startStream
  dsimp only
  split
  · exact ((Advances.setProtocol state _).trans (Advances.sendChunks _ _)).trans
      (Advances.fail _ workerId _)
  · split
    · rename_i whole
      exact (((Advances.setProtocol state _).trans (Advances.sendChunks _ _)).trans
        (Advances.setProtocol _ _)).trans
          (advances_endStream codec workerId _ _ _ fun _ => complete whole)
    · refine (((Advances.setProtocol state _).trans (Advances.sendChunks _ _)).trans
        (Advances.setProtocol _ _)).trans (advances_streamLoop codec workerId _ _ _ ?_ ?_)
      · simpa [WorkerState.setProtocol] using complete
      · simpa [WorkerState.setProtocol] using connected

theorem advances_afterHeaders (state : WorkerState Acc) (statusCode : Nat)
    (same : origin.request = state.request)
    (complete : (state.conn request).protocol.messageComplete = true →
      (origin.conn request).protocol.messageComplete = true)
    (connected : statusCode = 200 → (origin.request request).isStreaming = true →
      (state.conn request).protocol.messageComplete = false →
      (state.conn request).protocol.connectionLost = false) :
    Advances origin request state (afterHeaders codec workerId state request statusCode) := by
  unfold afterHeaders
  split
  · exact advances_readBody nofun fun body => advances_errorBody codec workerId state _ body
  · rename_i success
    have success : statusCode = 200 := by simpa using success
    split
    · exact advances_startStream codec workerId state complete (connected success)
    · rename_i plain
      have plain : (state.request request).isStreaming = false := by simpa using plain
      exact advances_readBody (fun _ => plain) fun body =>
        advances_wholeBody codec workerId state (same ▸ plain) body

end

/-- The task of a streamed request, if it runs on now, comes to the end of a stream whose
message is not complete. -/
def CutShort (state : WorkerState Acc) (request : RequestId) : Prop :=
  let protocol := (state.conn request).protocol
  (state.request request).isStreaming = true ∧ protocol.connectionLost = true ∧
    protocol.messageComplete = false ∧
    match state.stage request with
    | .connected => protocol.headersComplete = true ∧ protocol.statusCode = 200
    | .readingHeaders => protocol.headersFuture = some (.result 200)
    | .streaming _ _ => True
    | _ => False

/-- No task runs on that comes to the end of a stream whose message is not complete. -/
def WholeStreams (state : WorkerState Acc) : WorkerLabel → Prop
  | .resume request _ => ¬ state.CutShort request
  | .write (.ok _) => ∀ request, state.loop = .acquiring request → ¬ state.CutShort request
  | _ => True

/-- Requests are numbered, and only what is not streamed is read as a whole. -/
structure Sound (state : WorkerState Acc) : Prop where
  numbered : ∀ request, state.received.length ≤ request → state.stage request = .absent
  plain : ∀ request, state.stage request = .readingBody →
    (state.request request).isStreaming = false

namespace Sound

variable {state next : WorkerState Acc}

theorem drawn (sound : state.Sound) {request : RequestId}
    (present : state.stage request ≠ .absent) : request < state.received.length :=
  not_le.mp fun late => present (sound.numbered request late)

theorem advance (sound : state.Sound) {origin : WorkerState Acc} {request : RequestId}
    (drawn : request < state.received.length)
    (advances : Advances origin request state next) : next.Sound where
  numbered other late := by
    rw [advances.received] at late
    have different : other ≠ request := by
      rintro rfl
      exact absurd drawn (not_lt.mpr late)
    rw [advances.others other different]
    exact sound.numbered other late
  plain other reading := by
    rw [advances.requests]
    by_cases same : other = request
    · subst same
      exact (advances.own reading).elim (sound.plain other) fun plain => plain
    · rw [advances.others other same] at reading
      exact sound.plain other reading

end Sound

section

variable {codec : WorkerCodec Delta Acc} {workerId : Nat} {state next : WorkerState Acc}
  {label : WorkerLabel}

theorem advances_startTask {state : WorkerState Acc} {request : RequestId}
    (connected : state.stage request = .connected) (whole : ¬ state.CutShort request) :
    Advances state request state
      (startTask codec workerId { state with loop := .receiving } request) := by
  have receiving : Advances state request state { state with loop := .receiving } :=
    Advances.quiet rfl rfl rfl rfl
  refine receiving.trans ?_
  unfold startTask
  dsimp only
  split
  · rename_i headers
    refine advances_afterHeaders codec workerId _ _ rfl (fun complete => complete) ?_
    intro success streaming incomplete
    refine Bool.eq_false_iff.mpr fun lost => whole ?_
    refine ⟨streaming, lost, incomplete, ?_⟩
    rw [connected]
    exact ⟨headers, success⟩
  · exact (Advances.setProtocol _ _).trans (Advances.setStage _ nofun)

theorem advances_resume (sound : state.Sound) {request : RequestId} (error : ErrorData)
    (whole : ¬ state.CutShort request) :
    Advances state request state (resume codec workerId state request error) := by
  unfold resume
  dsimp only
  split
  · rename_i reading
    split
    · rename_i statusCode future
      refine advances_afterHeaders codec workerId _ _ rfl (fun complete => complete) ?_
      intro success streaming incomplete
      refine Bool.eq_false_iff.mpr fun lost => whole ⟨streaming, lost, incomplete, ?_⟩
      rw [reading]
      exact success ▸ future
    · exact Advances.fail state workerId error
  · split
    · exact advances_errorBody codec workerId state _ _
    · exact Advances.fail state workerId error
  · rename_i reading
    split
    · exact advances_wholeBody codec workerId state (sound.plain request reading) _
    · exact Advances.fail state workerId error
  · rename_i reading
    refine advances_streamLoop codec workerId state _ _ (fun complete => complete) ?_
    intro streaming incomplete
    refine Bool.eq_false_iff.mpr fun lost => whole ⟨streaming, lost, incomplete, ?_⟩
    rw [reading]
    trivial
  · exact Advances.refl state

/-- One step: what it sends is truthful. -/
theorem step_truthful (sound : state.Sound) (whole : state.WholeStreams label)
    (edge : step codec workerId state label = some next) :
    next.Sound ∧ ∃ sent, next.responses = state.responses ++ sent ∧
      ∀ entry ∈ sent, state.Truthful entry := by
  have quiet : ∀ {other : WorkerState Acc}, other.received = state.received →
      other.request = state.request → other.stage = state.stage →
      other.responses = state.responses →
      other.Sound ∧ ∃ sent, other.responses = state.responses ++ sent ∧
        ∀ entry ∈ sent, state.Truthful entry := by
    intro other received requests stage responses
    refine ⟨⟨?_, ?_⟩, [], by rw [responses, List.append_nil], List.forall_mem_nil _⟩
    · rw [received, stage]
      exact sound.numbered
    · rw [requests, stage]
      exact sound.plain
  have advance : ∀ request : RequestId, state.stage request ≠ .absent →
      Advances state request state next →
      next.Sound ∧ ∃ sent, next.responses = state.responses ++ sent ∧
        ∀ entry ∈ sent, state.Truthful entry :=
    fun _ present advances => ⟨sound.advance (sound.drawn present) advances, advances.sent⟩
  cases label with
  | recv query =>
      have later : ∀ request, state.received.length + 1 ≤ request →
          request ≠ state.received.length ∧ state.stage request = .absent := by
        intro request late
        exact ⟨Nat.ne_of_gt late, sound.numbered request (Nat.le_of_succ_le late)⟩
      simp only [step, Option.ite_none_right_eq_some] at edge
      obtain ⟨-, edge⟩ := edge
      split at edge
      · obtain rfl := Option.some.inj edge
        refine ⟨⟨fun request late => ?_, sound.plain⟩, [], (List.append_nil _).symm,
          List.forall_mem_nil _⟩
        exact (later request (by simpa using late)).2
      · have sound' : ∀ (stage : RequestStage Acc), stage ≠ .readingBody →
            ∀ prepared : WorkerState Acc,
            prepared.received = state.received ++ [query] →
            prepared.stage = Function.update state.stage state.received.length stage →
            (∀ request, request ≠ state.received.length →
              prepared.request request = state.request request) → prepared.Sound := by
          intro stage notReading prepared received stages requests
          refine ⟨fun request late => ?_, fun request reading => ?_⟩
          · obtain ⟨different, absent⟩ := later request (by simpa [received] using late)
            rw [stages, Function.update_of_ne different, absent]
          · rw [stages] at reading
            by_cases same : request = state.received.length
            · subst same
              rw [Function.update_self] at reading
              exact absurd reading notReading
            · rw [Function.update_of_ne same] at reading
              rw [requests request same]
              exact sound.plain request reading
        split at edge
        · obtain rfl := Option.some.inj edge
          exact ⟨sound' .finished nofun _ rfl rfl fun _ different =>
            Function.update_of_ne different _ _, [], (List.append_nil _).symm,
            List.forall_mem_nil _⟩
        · obtain rfl := Option.some.inj edge
          exact ⟨sound' .acquiring nofun _ rfl rfl fun _ different =>
            Function.update_of_ne different _ _, [], (List.append_nil _).symm,
            List.forall_mem_nil _⟩
  | recvFailed =>
      simp only [step, Option.ite_none_right_eq_some, Option.some.injEq] at edge
      obtain ⟨-, rfl⟩ := edge
      exact quiet rfl rfl rfl rfl
  | closed =>
      simp only [step, Option.ite_none_right_eq_some, Option.some.injEq] at edge
      obtain ⟨-, rfl⟩ := edge
      exact quiet rfl rfl rfl rfl
  | acquired =>
      simp only [step] at edge
      split at edge
      · rename_i number loop
        split at edge
        · rename_i acquiring
          obtain rfl := Option.some.inj edge
          refine advance number (by simp [acquiring]) ?_
          have connected : Advances state number state (state.setStage number .connected) :=
            Advances.setStage state nofun
          exact connected.trans (Advances.quiet rfl rfl rfl rfl)
        · simp at edge
      · simp at edge
  | acquireFailed error =>
      simp only [step] at edge
      split at edge
      · rename_i number loop
        split at edge
        · rename_i acquiring
          obtain rfl := Option.some.inj edge
          refine advance number (by simp [acquiring]) ?_
          exact ((Advances.handleError state workerId error).trans
            (Advances.finished _)).trans (Advances.quiet rfl rfl rfl rfl)
        · simp at edge
      · simp at edge
  | write outcome =>
      simp only [step] at edge
      split at edge
      · rename_i number loop
        split at edge
        · rename_i connected
          split at edge
          · obtain rfl := Option.some.inj edge
            exact advance number (by simp [connected])
              (advances_startTask connected (whole number loop))
          · rename_i error
            obtain rfl := Option.some.inj edge
            refine advance number (by simp [connected]) ?_
            have receiving : Advances state number state { state with loop := .receiving } :=
              Advances.quiet rfl rfl rfl rfl
            exact (receiving.trans (Advances.handleError _ workerId error)).trans
              (Advances.finished _)
        · simp at edge
      · simp at edge
  | resume request error =>
      simp only [step, Option.ite_none_right_eq_some, Option.some.injEq] at edge
      obtain ⟨runnable, rfl⟩ := edge
      refine advance request (fun absent => ?_) (advances_resume sound error whole)
      simp [WorkerState.runnable, absent] at runnable
  | network request event =>
      simp only [step, Option.ite_none_right_eq_some, Option.some.injEq] at edge
      obtain ⟨-, rfl⟩ := edge
      cases event with
      | dataReceived callbacks parserError => exact quiet rfl rfl rfl rfl
      | eofReceived => exact quiet rfl rfl rfl rfl
      | connectionLost failed => exact quiet rfl rfl rfl rfl
  | shutdown =>
      obtain rfl := Option.some.inj edge
      exact quiet rfl rfl rfl rfl
  | cancel request =>
      simp only [step, Option.ite_none_right_eq_some, Option.some.injEq] at edge
      obtain ⟨active, rfl⟩ := edge
      refine advance request (fun absent => ?_) (Advances.finish state)
      simp [absent, RequestStage.active] at active

end

end WorkerState

/-- In a run in which no task comes to the end of a stream whose message is not complete, a
result without an error is sent for a streamed request only when its message is complete. -/
theorem streamed_results {Delta Acc : Type} (codec : WorkerCodec Delta Acc) (workerId : Nat)
    {labels first second : List WorkerLabel} {label : WorkerLabel}
    (meets : GuardedRuns.Meets (WorkerState.step codec workerId) WorkerState.WholeStreams {} labels)
    (split : labels = first ++ label :: second) {state next : WorkerState Acc}
    (runs : GuardedRuns.run (WorkerState.step codec workerId) {} first = some state)
    (edge : WorkerState.step codec workerId state label = some next) :
    ∃ sent, next.responses = state.responses ++ sent ∧
      ∀ request result, (request, Response.result result) ∈ sent → result.error = none →
        (state.request request).isStreaming = true →
        (state.conn request).protocol.messageComplete = true := by
  have guarded := GuardedRuns.meets_iff_forall_split.mp meets
  have sound : state.Sound := by
    have early : GuardedRuns.Meets (WorkerState.step codec workerId) WorkerState.WholeStreams {}
        first := by
      refine GuardedRuns.meets_iff_forall_split.mpr fun before middle after same => ?_
      exact guarded before middle (after ++ label :: second) (by rw [split, same]; simp)
    have initially : WorkerState.Sound ({} : WorkerState Acc) :=
      ⟨fun _ _ => rfl, fun _ reading => nomatch reading⟩
    exact GuardedRuns.invariant_of_meets
      (fun _ _ _ sound whole edge => (WorkerState.step_truthful sound whole edge).1)
      initially early runs
  obtain ⟨-, sent, responses, truthful⟩ := WorkerState.step_truthful sound
    (guarded first label second split state runs) edge
  exact ⟨sent, responses, fun request result member failed =>
    truthful _ member result rfl failed⟩

/-- Queries are streamed; the final output is empty. -/
def streamingCodec : WorkerCodec Bytes QueryId where
  encodeQuery _ := .ok []
  isStreaming _ := true
  buildRequest bytes _ _ := .ok bytes
  decodeResponse _ id := .ok { id := id }
  decode_id same := by
    obtain rfl := Except.ok.inj same
    rfl
  decodeText _ := ""
  parseSseChunk bytes := .ok [bytes]
  accumulator id := id
  addChunk acc _ := .ok (acc, none)
  getFinalOutput id := .ok { id := id }
  queryId acc := acc
  accumulator_id _ := rfl
  addChunk_id same := by
    obtain ⟨rfl, -⟩ := Prod.mk.inj (Except.ok.inj same)
    rfl
  final_id same := by
    obtain rfl := Except.ok.inj same
    rfl

/-- A streamed query whose status and first bytes have come. -/
def streamedQuery : List WorkerLabel :=
  [.recv { id := 7, data := .other "", headers := [] }, .acquired, .write (.ok ()),
    .network 0 (.dataReceived [.headersComplete 200 true, .body [1]] false)]

/-- The message is complete before the stream ends. -/
theorem streamed_results_complete :
    ∃ state next : WorkerState QueryId,
      GuardedRuns.run (WorkerState.step streamingCodec 3) {}
        (streamedQuery ++ [.network 0 (.dataReceived [.messageComplete] false)]) = some state ∧
      WorkerState.step streamingCodec 3 state (.resume 0 { errorType := "" }) = some next ∧
      next.responses = [(0, .result { id := 7, workerId := some 3 })] ∧
      (state.conn 0).protocol.messageComplete = true := by
  let complete : WorkerLabel := .network 0 (.dataReceived [.messageComplete] false)
  have meets : GuardedRuns.Meets (WorkerState.step streamingCodec 3) WorkerState.WholeStreams {}
      (streamedQuery ++ [complete, .resume 0 { errorType := "" }]) := by
    have written : ∀ state : WorkerState QueryId,
        (∀ request, (state.conn request).protocol.connectionLost = false) →
        state.WholeStreams (.write (.ok ())) := by
      rintro state kept request - ⟨-, lost, -⟩
      rw [kept request] at lost
      exact nomatch lost
    refine GuardedRuns.meets_cons rfl trivial ?_
    refine GuardedRuns.meets_cons rfl trivial ?_
    refine GuardedRuns.meets_cons rfl (written _ fun request => ?_) ?_
    · change (Function.update (fun _ : RequestId => ({ lastUsed := 0 } : PooledConnection)) 0
        { lastUsed := 0 } request).protocol.connectionLost = false
      rw [Function.update_apply]
      split <;> rfl
    refine GuardedRuns.meets_cons rfl trivial ?_
    refine GuardedRuns.meets_cons rfl trivial ?_
    exact GuardedRuns.meets_cons rfl (fun cut => nomatch cut.2.1) trivial
  obtain ⟨state, next, runs, edge, empty, responses, streamed⟩ :
      ∃ state next : WorkerState QueryId,
        GuardedRuns.run (WorkerState.step streamingCodec 3) {} (streamedQuery ++ [complete]) =
          some state ∧
        WorkerState.step streamingCodec 3 state (.resume 0 { errorType := "" }) = some next ∧
        state.responses = [] ∧
        next.responses = [(0, .result { id := 7, workerId := some 3 })] ∧
        (state.request 0).isStreaming = true :=
    ⟨_, _, rfl, rfl, rfl, rfl, rfl⟩
  obtain ⟨sent, sentResponses, whole⟩ :=
    streamed_results streamingCodec 3 meets (List.append_assoc streamedQuery [complete] _).symm
      runs edge
  rw [empty, List.nil_append, responses] at sentResponses
  have member : (0, Response.result { id := 7, workerId := some 3 }) ∈ sent := by
    rw [← sentResponses]
    exact List.mem_cons_self
  exact ⟨state, next, runs, edge, responses, whole 0 _ member rfl streamed⟩

/-- The connection is lost in the middle of the stream: the query is answered without an
error, though the message is not complete. -/
theorem streamed_results_truncated :
    ∃ state next : WorkerState QueryId,
      GuardedRuns.run (WorkerState.step streamingCodec 3) {}
        (streamedQuery ++ [.resume 0 { errorType := "" }, .network 0 (.connectionLost false)]) =
          some state ∧
      WorkerState.step streamingCodec 3 state (.resume 0 { errorType := "" }) = some next ∧
      (state.request 0).isStreaming = true ∧
      (state.conn 0).protocol.messageComplete = false ∧ state.responses = [] ∧
      next.responses = [(0, .result { id := 7, workerId := some 3 })] := by
  exact ⟨_, _, rfl, rfl, rfl, rfl, rfl, rfl⟩

end InferenceEndpoint
