import InferenceEndpoint.Evaluation.BFCLConversation

/-!
# The multi-turn runner

One entry is run by sending requests until the conversation is completed.  A transport
error or a malformed body ends the run by force, as the step limit does.  Each turn
takes at most as many responses as the step limit, and the results have one list of
executed calls per closed turn.
-/

namespace InferenceEndpoint

open BFCLExecutionBridge

/-- What `_parse_response` makes of a body. -/
inductive ParsedResponse
  | malformed
  /-- An exception that is not caught. -/
  | raised
  | parsed (toolCalls : Option (List ResponseCall)) (toolCallIds : Option (List Json))
      (content : Json)

/-- The outcome of a request: a transport error or a body, and the executor that gets
the calls of the body. -/
structure Reply where
  body : Option Json
  execute : ExecuteCall → List String

/-- The results that are handed to the scorer. -/
structure EntryResults where
  entryId : String
  subset : String
  modelResultsPerTurn : List (List (List String))
  groundTruth : List Json
  initialConfig : Json
  involvedClasses : List String
  forceTerminated : Bool
  numTurnsCompleted : Nat
  numTurnsExpected : Nat
  totalRequests : Nat

inductive EntryPhase
  | running
  | returned
  | raised
  deriving DecidableEq

/-- A run of an entry: the next request, and the calls executed so far with their turns. -/
structure EntryRun where
  state : ConversationExecState
  messages : List HistoryMessage
  tools : List Json
  totalRequests : Nat := 0
  phase : EntryPhase := .running
  executions : List (Nat × List String) := []

namespace BFCLMultiTurnRunner

/-- `response_data["choices"][0]["message"]`. -/
def message? : Json → Option Json
  | .object data =>
      match Json.lookup data "choices" with
      | some (.array (.object choice :: _)) => Json.lookup choice "message"
      | _ => none
  | _ => none

/-- The calls with their ids; `none` if an item or its function is no object. -/
def parseToolCalls (count : Nat) : List Json → Option (List (ResponseCall × Json))
  | [] => some []
  | .object call :: calls =>
      match (Json.lookup call "function").getD (.object []) with
      | .object function =>
          (parseToolCalls (count + 1) calls).map
            ((⟨(Json.lookup function "name").getD (.string ""),
                (Json.lookup function "arguments").getD (.string "\x7b\x7d")⟩,
              (Json.lookup call "id").getD (.string ("call_" ++ toString count))) :: ·)
      | _ => none
  | _ => none

variable (bfcl : BfclEval) (py : Python) (maxSteps : Nat)

def parseResponse (responseData : Json) : ParsedResponse :=
  match message? responseData with
  | none => .malformed
  | some (.object message) =>
      let content := (Json.lookup message "content").getD .null
      let rawToolCalls := (Json.lookup message "tool_calls").getD .null
      if !rawToolCalls.truthy py then .parsed none none content
      else
        match rawToolCalls with
        | .array items =>
            match parseToolCalls 0 items with
            | some calls => .parsed (some (calls.map (·.1))) (some (calls.map (·.2))) content
            | none => .raised
        | _ => .raised
  | some _ => .raised

def start (entry : BFCLv4MultiTurnEntry) (hasTurns : 0 < entry.numTurns) : EntryRun :=
  let state := opening bfcl entry hasTurns
  { state := state, messages := state.messages, tools := state.tools }

def forceTerminate (state : ConversationExecState) : ConversationExecState :=
  { state with
    forceTerminated := true
    completed := true
    modelResultsPerTurn := state.modelResultsPerTurn ++ [state.currentTurnResults] }

/-- The response goes through the bridge. -/
def EntryRun.process (run : EntryRun) (response : ModelResponse) : EntryRun :=
  let processed := processResponse bfcl py maxSteps run.state response
  let executions :=
    match processed.executed with
    | some call => run.executions ++ [(run.state.currentTurn, call.funcCallList)]
    | none => run.executions
  match processed.action.actionType with
  | .continue | .nextTurn =>
      { run with
        state := processed.state
        messages := processed.action.messages.getD []
        tools := processed.action.tools.getD []
        executions := executions }
  | .complete | .forceTerminated =>
      { run with state := processed.state, phase := .returned, executions := executions }

/-- One request of a run that has not ended, with its reply. -/
def step (run : EntryRun) (reply : Reply) : Option EntryRun :=
  if run.phase ≠ .running then none
  else
    let run := { run with totalRequests := run.totalRequests + 1 }
    match reply.body with
    | none | some .null => some { run with state := forceTerminate run.state, phase := .returned }
    | some body =>
        match parseResponse py body with
        | .malformed => some { run with state := forceTerminate run.state, phase := .returned }
        | .raised => some { run with phase := .raised }
        | .parsed toolCalls toolCallIds content =>
            some (EntryRun.process bfcl py maxSteps run
              ⟨toolCalls, toolCallIds, content, reply.execute⟩)

/-- What `run_entry` returns. -/
def results (run : EntryRun) : EntryResults where
  entryId := run.state.entry.entryId
  subset := run.state.entry.subset
  modelResultsPerTurn := run.state.modelResultsPerTurn
  groundTruth := run.state.entry.groundTruth
  initialConfig := run.state.entry.initialConfig
  involvedClasses := run.state.entry.involvedClasses
  forceTerminated := run.state.forceTerminated
  numTurnsCompleted := run.state.currentTurn
  numTurnsExpected := run.state.entry.numTurns
  totalRequests := run.totalRequests

/-- The calls executed in a turn, in order. -/
def executedIn (executions : List (Nat × List String)) (turn : Nat) : List (List String) :=
  (executions.filter (·.1 = turn)).map (·.2)

variable {bfcl : BfclEval} {py : Python} {maxSteps : Nat} {entry : BFCLv4MultiTurnEntry}

/-! ## The calls of a parsed body -/

/-- Calls without ids are numbered. -/
theorem parseToolCalls_ids {count : Nat} {items : List Json}
    {calls : List (ResponseCall × Json)} (parses : parseToolCalls count items = some calls)
    (unnamed : ∀ call, .object call ∈ items → Json.lookup call "id" = none) :
    calls.map (·.2) =
      (List.range' count items.length).map fun index => .string ("call_" ++ toString index) := by
  fun_induction parseToolCalls count items generalizing calls with
  | case1 =>
      obtain rfl := Option.some_inj.mp parses
      rfl
  | case2 count call items function isFunction ih =>
      obtain ⟨rest, parsesRest, rfl⟩ := Option.map_eq_some_iff.mp parses
      rw [List.map_cons, ih parsesRest fun other member => unnamed other (.tail _ member),
        unnamed call List.mem_cons_self]
      rfl
  | case3 => cases parses
  | case4 => cases parses

/-- The parsed calls have distinct ids if none of them came with an id. -/
theorem parseResponse_distinctIds {data content : Json} {toolCalls : Option (List ResponseCall)}
    {toolCallIds : Option (List Json)} {items : List Json} {message : List (String × Json)}
    (found : message? data = some (.object message))
    (given : Json.lookup message "tool_calls" = some (.array items))
    (unnamed : ∀ call, .object call ∈ items → Json.lookup call "id" = none)
    (parses : parseResponse py data = .parsed toolCalls toolCallIds content)
    (execute : ExecuteCall → List String) :
    DistinctIds ⟨toolCalls, toolCallIds, content, execute⟩ := by
  simp only [parseResponse, found, given, Option.getD_some] at parses
  split at parses
  · cases parses
    exact Or.inl rfl
  · split at parses
    · next calls parsesCalls =>
        cases parses
        refine Or.inr ⟨_, rfl, ?_, by simp⟩
        have ids := parseToolCalls_ids parsesCalls unnamed
        rw [← List.range_eq_range'] at ids
        rw [ids]
        exact callIds_nodup items.length
    · cases parses

/-! ## The results by turn -/

@[simp]
theorem executedIn_append (first second : List (Nat × List String)) (turn : Nat) :
    executedIn (first ++ second) turn = executedIn first turn ++ executedIn second turn := by
  simp [executedIn]

@[simp]
theorem executedIn_singleton_self (turn : Nat) (calls : List String) :
    executedIn [(turn, calls)] turn = [calls] := by
  simp [executedIn]

theorem executedIn_singleton_of_ne {turn other : Nat} (differ : other ≠ turn)
    (calls : List String) : executedIn [(other, calls)] turn = [] := by
  simp [executedIn, differ]

/-- What holds while a run goes on after `consumed` responses. -/
structure Running (bfcl : BfclEval) (maxSteps : Nat) (entry : BFCLv4MultiTurnEntry)
    (run : EntryRun) : Prop where
  phase : run.phase = .running
  inTurn : InTurn bfcl entry run.state
  unforced : run.state.forceTerminated = false
  incomplete : run.state.completed = false
  messages : run.messages = run.state.messages
  tools : run.tools = run.state.tools
  /-- The closed turns list their calls. -/
  listed : ∀ turn < run.state.currentTurn,
    run.state.modelResultsPerTurn[turn]? = some (executedIn run.executions turn)
  current : run.state.currentTurnResults = executedIn run.executions run.state.currentTurn
  later : ∀ turn > run.state.currentTurn, executedIn run.executions turn = []
  steps : run.state.currentTurnResults.length = run.state.currentStep
  below : run.state.currentStep < maxSteps
  bounded : ∀ turn, (executedIn run.executions turn).length ≤ maxSteps
  requests : run.totalRequests ≤ run.state.currentTurn * maxSteps + run.state.currentStep

/-- The results of an ended run: one list for every turn up to the last one. -/
structure Closed (maxSteps : Nat) (entry : BFCLv4MultiTurnEntry) (run : EntryRun)
    (turns : Nat) : Prop where
  sameEntry : run.state.entry = entry
  length : run.state.modelResultsPerTurn.length = turns
  listed : ∀ turn < turns,
    run.state.modelResultsPerTurn[turn]? = some (executedIn run.executions turn)
  bounded : ∀ turn, (executedIn run.executions turn).length ≤ maxSteps
  requests : run.totalRequests ≤ entry.numTurns * maxSteps

/-- The states of a run. -/
inductive Shape (bfcl : BfclEval) (maxSteps : Nat) (entry : BFCLv4MultiTurnEntry)
    (run : EntryRun) : Prop
  | running (running : Running bfcl maxSteps entry run)
  | completed (phase : run.phase = .returned) (unforced : run.state.forceTerminated = false)
      (turns : run.state.currentTurn = entry.numTurns)
      (closed : Closed maxSteps entry run entry.numTurns)
  | forced (phase : run.phase = .returned) (forced : run.state.forceTerminated = true)
      (inRange : run.state.currentTurn < entry.numTurns)
      (closed : Closed maxSteps entry run (run.state.currentTurn + 1))
  | raised (phase : run.phase = .raised) (inRange : run.state.currentTurn < entry.numTurns)
      (closed : Closed maxSteps entry run run.state.currentTurn)

theorem shape_start (hasTurns : 0 < entry.numTurns) (positive : 0 < maxSteps) :
    Shape bfcl maxSteps entry (start bfcl entry hasTurns) :=
  .running
    { phase := rfl
      inTurn := inTurn_opening hasTurns
      unforced := rfl
      incomplete := rfl
      messages := rfl
      tools := rfl
      listed := fun turn earlier => absurd earlier (Nat.not_lt_zero turn)
      current := rfl
      later := fun _ _ => rfl
      steps := rfl
      below := positive
      bounded := fun _ => Nat.zero_le maxSteps
      requests := Nat.zero_le _ }

/-- A list per closed turn, with the current one added. -/
theorem Running.listed_append {run : EntryRun} (running : Running bfcl maxSteps entry run) :
    ∀ turn < run.state.currentTurn + 1,
      (run.state.modelResultsPerTurn ++ [run.state.currentTurnResults])[turn]? =
        some (executedIn run.executions turn) := by
  intro turn earlier
  have closed := running.inTurn.closed
  rcases Nat.lt_succ_iff_lt_or_eq.mp earlier with before | rfl
  · rw [List.getElem?_append_left (by omega)]
    exact running.listed turn before
  · rw [List.getElem?_append_right (by omega), closed, Nat.sub_self, List.getElem?_cons_zero,
      running.current]

/-- The requests of a turn fit before the next one. -/
theorem requests_le {requests turn numTurns steps maxSteps : Nat}
    (sent : requests ≤ turn * maxSteps + steps) (below : steps < maxSteps)
    (inRange : turn < numTurns) : requests + 1 ≤ numTurns * maxSteps := by
  have wholeTurns : (turn + 1) * maxSteps ≤ numTurns * maxSteps :=
    Nat.mul_le_mul_right maxSteps inRange
  rw [Nat.add_mul] at wholeTurns
  omega

theorem Running.forceTerminate {run : EntryRun} (running : Running bfcl maxSteps entry run) :
    Shape bfcl maxSteps entry
      { run with
        totalRequests := run.totalRequests + 1
        state := forceTerminate run.state
        phase := .returned } :=
  .forced rfl rfl running.inTurn.inRange
    { sameEntry := running.inTurn.sameEntry
      length := by simp [BFCLMultiTurnRunner.forceTerminate, running.inTurn.closed]
      listed := running.listed_append
      bounded := running.bounded
      requests := requests_le running.requests running.below running.inTurn.inRange }

theorem Running.raise {run : EntryRun} (running : Running bfcl maxSteps entry run) :
    Shape bfcl maxSteps entry
      { run with totalRequests := run.totalRequests + 1, phase := .raised } :=
  .raised rfl running.inTurn.inRange
    { sameEntry := running.inTurn.sameEntry
      length := running.inTurn.closed
      listed := running.listed
      bounded := running.bounded
      requests := requests_le running.requests running.below running.inTurn.inRange }

/-- A response without calls to execute closes the turn. -/
theorem Running.advance {run : EntryRun} {response : ModelResponse}
    (running : Running bfcl maxSteps entry run)
    (nothing : executedCalls bfcl run.state response = none) :
    Shape bfcl maxSteps entry
      (EntryRun.process bfcl py maxSteps
        { run with totalRequests := run.totalRequests + 1 } response) := by
  have processed := processResponse_of_none bfcl py maxSteps nothing
  have unexecuted : (processResponse bfcl py maxSteps run.state response).executed = none := by
    rw [executed_processResponse, nothing]
    rfl
  have requests := requests_le running.requests running.below running.inTurn.inRange
  simp only [EntryRun.process, unexecuted]
  rw [processed]
  have answeredTurn := running.inTurn.withMessages
    (run.state.messages ++ [assistantMessage py response])
  have listed := running.listed_append
  have closedTurns := running.inTurn.closed
  have currentEq := running.current
  have laterEmpty := running.later
  have sent := running.requests
  have below := running.below
  generalize told :
    { run.state with messages := run.state.messages ++ [assistantMessage py response] } =
      answered at answeredTurn ⊢
  have turnEq : answered.currentTurn = run.state.currentTurn := told ▸ rfl
  have unforced : answered.forceTerminated = false := told ▸ running.unforced
  have incomplete : answered.completed = false := told ▸ running.incomplete
  have resultsEq : answered.modelResultsPerTurn ++ [answered.currentTurnResults] =
      run.state.modelResultsPerTurn ++ [run.state.currentTurnResults] := told ▸ rfl
  by_cases more : answered.currentTurn + 1 < answered.entry.numTurns
  · obtain ⟨stateEq, actionEq⟩ := advanceTurn_next bfcl more
    rw [actionEq]
    refine .running
      { phase := running.phase
        inTurn := answeredTurn.advanceTurn more
        unforced := ?_
        incomplete := ?_
        messages := rfl
        tools := rfl
        listed := ?_
        current := ?_
        later := ?_
        steps := ?_
        below := ?_
        bounded := running.bounded
        requests := ?_ }
    all_goals simp only [stateEq, getInitialRequest, resultsEq, turnEq]
    · exact unforced
    · exact incomplete
    · exact listed
    · exact (laterEmpty _ (Nat.lt_succ_self _)).symm
    · exact fun turn after => laterEmpty turn (by omega)
    · rfl
    · omega
    · rw [Nat.add_mul]
      omega
  · have last : answered.entry.numTurns ≤ answered.currentTurn + 1 := Nat.not_lt.mp more
    rw [advanceTurn_last bfcl last]
    have turns : answered.currentTurn + 1 = entry.numTurns := by
      have inRange := answeredTurn.inRange
      rw [answeredTurn.sameEntry] at last
      omega
    refine .completed rfl unforced turns
      { sameEntry := answeredTurn.sameEntry
        length := ?_
        listed := ?_
        bounded := running.bounded
        requests := requests }
    · simp only [resultsEq, List.length_append, List.length_singleton, closedTurns, ← turnEq, turns]
    · simp only [resultsEq]
      intro turn before
      exact listed turn (by omega)

/-- A response whose calls are executed stays in the turn or reaches the step limit. -/
theorem Running.execute {run : EntryRun} {response : ModelResponse} {decoded : List String}
    (running : Running bfcl maxSteps entry run)
    (executes : executedCalls bfcl run.state response = some decoded) :
    Shape bfcl maxSteps entry
      (EntryRun.process bfcl py maxSteps
        { run with totalRequests := run.totalRequests + 1 } response) := by
  obtain ⟨executed, stateEq⟩ := processResponse_of_some bfcl py maxSteps executes
  have actionEq := action_processResponse_of_some bfcl py maxSteps executes
  have requests := requests_le running.requests running.below running.inTurn.inRange
  have below := running.below
  have sent := running.requests
  have inThisTurn : executedIn (run.executions ++ [(run.state.currentTurn, decoded)])
      run.state.currentTurn = run.state.currentTurnResults ++ [decoded] := by
    rw [executedIn_append, executedIn_singleton_self, running.current]
  have elsewhere : ∀ turn, turn ≠ run.state.currentTurn →
      executedIn (run.executions ++ [(run.state.currentTurn, decoded)]) turn =
        executedIn run.executions turn := by
    intro turn differ
    rw [executedIn_append, executedIn_singleton_of_ne differ.symm, List.append_nil]
  have bounded : ∀ turn, (executedIn (run.executions ++ [(run.state.currentTurn, decoded)])
      turn).length ≤ maxSteps := by
    intro turn
    by_cases here : turn = run.state.currentTurn
    · rw [here, inThisTurn, List.length_append, running.steps]
      exact below
    · rw [elsewhere turn here]
      exact running.bounded turn
  simp only [EntryRun.process, executed, actionEq]
  by_cases limit : maxSteps ≤ run.state.currentStep + 1
  · rw [if_pos limit] at stateEq ⊢
    rw [stateEq]
    refine .forced rfl rfl running.inTurn.inRange
      { sameEntry := running.inTurn.sameEntry
        length := ?_
        listed := ?_
        bounded := bounded
        requests := requests }
    · simp [recordExecution, running.inTurn.closed]
    · intro turn before
      have closed := running.inTurn.closed
      change (run.state.modelResultsPerTurn ++ _)[turn]? = _
      by_cases here : turn = run.state.currentTurn
      · rw [List.getElem?_append_right (by omega), here, closed, Nat.sub_self,
          List.getElem?_cons_zero, ← inThisTurn]
        rfl
      · have earlier : turn < run.state.currentTurn :=
          Nat.lt_of_le_of_ne (Nat.le_of_lt_succ before) here
        rw [List.getElem?_append_left (by omega), running.listed turn earlier]
        exact congrArg some (elsewhere turn here).symm
  · rw [if_neg limit] at stateEq ⊢
    simp only [stateEq]
    refine .running
      { phase := running.phase
        inTurn := (running.inTurn.withMessages _).recordExecution _ _
        unforced := running.unforced
        incomplete := running.incomplete
        messages := rfl
        tools := rfl
        listed := ?_
        current := inThisTurn.symm
        later := ?_
        steps := ?_
        below := Nat.not_le.mp limit
        bounded := bounded
        requests := ?_ }
    · intro turn earlier
      exact (running.listed turn earlier).trans
        (congrArg some (elsewhere turn (Nat.ne_of_lt earlier)).symm)
    · intro turn after
      exact (elsewhere turn (Nat.ne_of_gt after)).trans (running.later turn after)
    · simp [recordExecution, running.steps]
    · exact Nat.succ_le_succ sent

theorem Shape.step {run next : EntryRun} {reply : Reply} (shape : Shape bfcl maxSteps entry run)
    (edge : step bfcl py maxSteps run reply = some next) : Shape bfcl maxSteps entry next := by
  unfold BFCLMultiTurnRunner.step at edge
  split at edge
  · cases edge
  · next isRunning =>
      have running : Running bfcl maxSteps entry run := by
        cases shape with
        | running running => exact running
        | completed phase => simp [phase] at isRunning
        | forced phase => simp [phase] at isRunning
        | raised phase => simp [phase] at isRunning
      split at edge
      · obtain rfl := Option.some_inj.mp edge
        exact running.forceTerminate
      · obtain rfl := Option.some_inj.mp edge
        exact running.forceTerminate
      · split at edge
        · obtain rfl := Option.some_inj.mp edge
          exact running.forceTerminate
        · obtain rfl := Option.some_inj.mp edge
          exact running.raise
        · next toolCalls toolCallIds content _ =>
            obtain rfl := Option.some_inj.mp edge
            cases executes : executedCalls bfcl run.state
                ⟨toolCalls, toolCallIds, content, reply.execute⟩ with
            | none => exact running.advance executes
            | some decoded => exact running.execute executes

theorem totalRequests_step {run next : EntryRun} {reply : Reply}
    (edge : step bfcl py maxSteps run reply = some next) :
    next.totalRequests = run.totalRequests + 1 := by
  unfold step at edge
  split at edge
  · cases edge
  · split at edge
    · exact Option.some_inj.mp edge ▸ rfl
    · exact Option.some_inj.mp edge ▸ rfl
    · split at edge
      · exact Option.some_inj.mp edge ▸ rfl
      · exact Option.some_inj.mp edge ▸ rfl
      · obtain rfl := Option.some_inj.mp edge
        unfold EntryRun.process
        simp only
        split <;> rfl

theorem totalRequests_run {run final : EntryRun} {replies : List Reply}
    (runs : GuardedRuns.run (step bfcl py maxSteps) run replies = some final) :
    final.totalRequests = run.totalRequests + replies.length := by
  induction replies generalizing run with
  | nil =>
      obtain rfl : run = final := by simpa using runs
      rfl
  | cons reply replies ih =>
      obtain ⟨next, edge, rest⟩ := GuardedRuns.run_cons_eq_some.mp runs
      rw [ih rest, totalRequests_step edge, List.length_cons]
      omega

/-- A run that has not ended takes any reply. -/
theorem isSome_step {run : EntryRun} (phase : run.phase = .running) (reply : Reply) :
    (step bfcl py maxSteps run reply).isSome := by
  simp only [step, phase, ne_eq, not_true_eq_false, if_false]
  split
  · rfl
  · rfl
  · split <;> rfl

/-- What is known of a run after `consumed` responses. -/
structure EntryShape (bfcl : BfclEval) (py : Python) (maxSteps : Nat)
    (entry : BFCLv4MultiTurnEntry) (consumed : Nat) (run : EntryRun) : Prop where
  atMost : consumed ≤ entry.numTurns * maxSteps
  goesOn : run.phase = .running → consumed < entry.numTurns * maxSteps ∧
    ∀ reply, (step bfcl py maxSteps run reply).isSome
  requests : run.totalRequests = consumed
  running : run.phase = .running →
    run.state.modelResultsPerTurn.length = run.state.currentTurn
  completed : run.phase = .returned → run.state.forceTerminated = false →
    run.state.modelResultsPerTurn.length = entry.numTurns
  forced : run.phase = .returned → run.state.forceTerminated = true →
    run.state.modelResultsPerTurn.length = run.state.currentTurn + 1
  raised : run.phase = .raised →
    run.state.modelResultsPerTurn.length = run.state.currentTurn
  listed : ∀ turn < run.state.modelResultsPerTurn.length,
    run.state.modelResultsPerTurn[turn]? = some (executedIn run.executions turn)
  bounded : ∀ turn, (executedIn run.executions turn).length ≤ maxSteps
  tools : run.phase = .running → run.tools = entry.toolsAt bfcl run.state.currentTurn
  sameEntry : run.state.entry = entry

theorem Shape.entryShape {run : EntryRun} (shape : Shape bfcl maxSteps entry run) :
    EntryShape bfcl py maxSteps entry run.totalRequests run := by
  cases shape with
  | running running =>
      have phase := running.phase
      have sent := requests_le running.requests running.below running.inTurn.inRange
      exact
        { atMost := Nat.le_of_succ_le sent
          goesOn := fun _ => ⟨sent, isSome_step phase⟩
          requests := rfl
          running := fun _ => running.inTurn.closed
          completed := by simp [phase]
          forced := by simp [phase]
          raised := by simp [phase]
          listed := fun turn before => running.listed turn (running.inTurn.closed ▸ before)
          bounded := running.bounded
          tools := fun _ => running.tools.trans running.inTurn.tools
          sameEntry := running.inTurn.sameEntry }
  | completed phase unforced turns closed =>
      exact
        { atMost := closed.requests
          goesOn := by simp [phase]
          requests := rfl
          running := by simp [phase]
          completed := fun _ _ => closed.length
          forced := by simp [unforced]
          raised := by simp [phase]
          listed := fun turn before => closed.listed turn (closed.length ▸ before)
          bounded := closed.bounded
          tools := by simp [phase]
          sameEntry := closed.sameEntry }
  | forced phase forced inRange closed =>
      exact
        { atMost := closed.requests
          goesOn := by simp [phase]
          requests := rfl
          running := by simp [phase]
          completed := by simp [forced]
          forced := fun _ _ => closed.length
          raised := by simp [phase]
          listed := fun turn before => closed.listed turn (closed.length ▸ before)
          bounded := closed.bounded
          tools := by simp [phase]
          sameEntry := closed.sameEntry }
  | raised phase inRange closed =>
      exact
        { atMost := closed.requests
          goesOn := by simp [phase]
          requests := rfl
          running := by simp [phase]
          completed := by simp [phase]
          forced := by simp [phase]
          raised := fun _ => closed.length
          listed := fun turn before => closed.listed turn (closed.length ▸ before)
          bounded := closed.bounded
          tools := by simp [phase]
          sameEntry := closed.sameEntry }

/-- After any replies a run of an entry has its shape; it ends with its last turn, at the
step limit of a turn or at a failed request. -/
theorem runEntry_shape (bfcl : BfclEval) (py : Python) {maxSteps : Nat} (positive : 0 < maxSteps)
    (entry : BFCLv4MultiTurnEntry) (hasTurns : 0 < entry.numTurns) {replies : List Reply}
    {run : EntryRun}
    (runs : GuardedRuns.run (step bfcl py maxSteps) (start bfcl entry hasTurns) replies =
      some run) :
    EntryShape bfcl py maxSteps entry replies.length run := by
  have shape : Shape bfcl maxSteps entry run :=
    GuardedRuns.Reachable.invariant (Shape bfcl maxSteps entry)
      (fun _ _ _ shape edge => shape.step edge) (shape_start hasTurns positive) ⟨replies, runs⟩
  have sent := totalRequests_run runs
  rw [show (start bfcl entry hasTurns).totalRequests = 0 from rfl, Nat.zero_add] at sent
  exact sent ▸ shape.entryShape

/-- A body with one call without arguments. -/
def callBody (name : String) : Json :=
  .object [("choices", .array [.object [("message", .object [("tool_calls", .array
    [.object [("function", .object [("name", .string name), ("arguments", .object [])])]])])]])]

/-- A call that is executed, and then a transport error. -/
def callThenFailure : List Reply :=
  [⟨some (callBody "ls"), fun call => call.funcCallList⟩, ⟨none, fun _ => []⟩]

theorem runEntry_shape_callThenFailure :
    ∃ run, GuardedRuns.run (step plainBfcl BFCLv4Scorer.asciiPython 2)
        (start plainBfcl (listingEntry [listFiles]) (by decide)) callThenFailure = some run ∧
      (results run).modelResultsPerTurn = [[["ls()"]]] ∧
      EntryShape plainBfcl BFCLv4Scorer.asciiPython 2 (listingEntry [listFiles])
        callThenFailure.length run := by
  refine ⟨_, rfl, rfl, ?_⟩
  exact runEntry_shape plainBfcl BFCLv4Scorer.asciiPython (by decide) (listingEntry [listFiles])
    (by decide) rfl

end BFCLMultiTurnRunner

end InferenceEndpoint
