import InferenceEndpoint.Evaluation.BFCLv4Scorer
import InferenceEndpoint.Library.GuardedRuns
import Mathlib.Data.List.Infix

/-!
# The BFCL execution bridge

A multi-turn entry is run against an endpoint: every response is parsed, its tool
calls are filtered by the declared names, decoded and executed, and the results go
back to the model as tool messages.  A response without a call that can be executed
closes the turn, and so does the step limit.
-/

namespace Json

/-- Whether Python can use the value as a key of a dictionary. -/
def hashable : Json → Bool
  | .array _ => false
  | .object _ => false
  | _ => true

end Json

namespace InferenceEndpoint

/-- What the bridge uses of `bfcl_eval`. -/
structure BfclEval where
  convertToTool : List Json → List Json
  /-- `none` is an exception. -/
  convertToFunctionCall : List (Json × Json) → Option (List String)
  isEmptyExecuteResponse : List String → Bool

/-- One call of the given name is emitted for each entry, and no call at all is an
empty response.  `IsCallOf call name` says what a call of a name is. -/
structure BfclEval.Emits (bfcl : BfclEval) (IsCallOf : String → Json → Prop) : Prop where
  calls : ∀ entries decoded, bfcl.convertToFunctionCall entries = some decoded →
    List.Forall₂ (fun entry call => IsCallOf call entry.1) entries decoded
  empty : bfcl.isEmptyExecuteResponse [] = true

/-- A message of the dataset. -/
structure TurnMessage where
  role : String
  content : Option String

structure BFCLv4MultiTurnEntry where
  entryId : String
  subset : String
  turns : List (List TurnMessage)
  tools : List Json
  initialConfig : Json
  involvedClasses : List String
  groundTruth : List Json
  holdoutFunction : List (String × List Json)

namespace BFCLv4MultiTurnEntry

variable (entry : BFCLv4MultiTurnEntry)

def defaultUserPromptForAdditionalFunctionFc : String :=
  "I have updated the available functions. You have access to new functions now. " ++
    "Please re-evaluate the latest user request and " ++
    "use the appropriate function(s) to handle the request."

def numTurns : Nat :=
  entry.turns.length

/-- The functions held out until a turn. -/
def holdout? (turn : Nat) : Option (List Json) :=
  entry.holdoutFunction.lookup (toString turn)

def getTurnMessages (turn : Nat) (inRange : turn < entry.numTurns) : List TurnMessage :=
  if (entry.holdout? turn).isSome then
    [⟨"user", some defaultUserPromptForAdditionalFunctionFc⟩]
  else entry.turns[turn]

/-- The tools of an entry and those of the holdout functions of the turns up to `turn`. -/
def toolsAt (bfcl : BfclEval) : Nat → List Json
  | 0 => entry.tools ++ ((entry.holdout? 0).map bfcl.convertToTool).getD []
  | turn + 1 =>
      toolsAt bfcl turn ++ ((entry.holdout? (turn + 1)).map bfcl.convertToTool).getD []

end BFCLv4MultiTurnEntry

/-- A call in a response. -/
structure ResponseCall where
  name : Json
  arguments : Json

/-- A call as the assistant message repeats it. -/
structure AssistantToolCall where
  id : Json
  name : Json
  arguments : Json

inductive HistoryMessage
  | prompt (role : String) (content : String)
  | assistant (content : Json) (toolCalls : List AssistantToolCall)
  | tool (content : String) (toolCallId : Json)

structure ConversationExecState where
  entry : BFCLv4MultiTurnEntry
  currentTurn : Nat := 0
  currentStep : Nat := 0
  messages : List HistoryMessage := []
  tools : List Json := []
  modelResultsPerTurn : List (List (List String)) := []
  currentTurnResults : List (List String) := []
  forceTerminated : Bool := false
  completed : Bool := false

inductive ActionType
  | continue
  | nextTurn
  | complete
  | forceTerminated
  deriving DecidableEq

structure ExecutionAction where
  actionType : ActionType
  messages : Option (List HistoryMessage) := none
  tools : Option (List Json) := none

/-- The arguments of `execute_multi_turn_func_call`. -/
structure ExecuteCall where
  funcCallList : List String
  initialConfig : Json
  involvedClasses : List String
  modelName : String
  testEntryId : String
  longContext : Bool
  isEvalRun : Bool

/-- A response as `process_response` takes it, and the executor at that moment. -/
structure ModelResponse where
  toolCalls : Option (List ResponseCall)
  toolCallIds : Option (List Json)
  content : Json
  execute : ExecuteCall → List String

/-- What `process_response` leaves behind. -/
structure Processed where
  state : ConversationExecState
  action : ExecutionAction
  executed : Option ExecuteCall := none

namespace BFCLExecutionBridge

def modelNameForExecution : String :=
  "mlcommons_endpoints_eval"

def startConversation (entry : BFCLv4MultiTurnEntry) : ConversationExecState :=
  { entry := entry, tools := entry.tools }

/-- The names of the declared functions. -/
def allowedToolNames (tools : List Json) : List String :=
  tools.filterMap fun tool =>
    match tool with
    | .object members =>
        match Json.lookup members "function" with
        | some (.object function) =>
            match Json.lookup function "name" with
            | some (.string name) => some name
            | _ => none
        | _ => none
    | _ => none

/-- A call passes if its name is declared, or if no name is. -/
def passes (allowed : List String) (name : Json) : Bool :=
  allowed.isEmpty ||
    match name with
    | .string text => allowed.contains text
    | _ => false

/-- The loop over the calls: a dropped call is passed over, and a name that cannot be
a key or arguments that are no JSON text end it with an exception. -/
def decodable (allowed : List String) : List ResponseCall → Option (List (Json × Json))
  | [] => some []
  | call :: calls =>
      if !call.name.hashable then none
      else if !passes allowed call.name then decodable allowed calls
      else
        match call.arguments with
        | .string text =>
            (Json.loads text).bind fun arguments =>
              (decodable allowed calls).map ((call.name, arguments) :: ·)
        | arguments => (decodable allowed calls).map ((call.name, arguments) :: ·)

variable (bfcl : BfclEval)

/-- The decoded calls, if there are any to execute. -/
def decodedCalls (allowed : List String) (calls : List ResponseCall) : Option (List String) :=
  match (decodable allowed calls).bind bfcl.convertToFunctionCall with
  | none => none
  | some decoded => if bfcl.isEmptyExecuteResponse decoded then none else some decoded

/-- `[f"call_{i}" for i in range(count)]`. -/
def callIds (count : Nat) : List Json :=
  (List.range count).map fun index => .string ("call_" ++ toString index)

/-- `entry_id.rsplit("_", 1)[0]`. -/
def testCategory (entryId : String) : List Char :=
  if entryId.toList.contains '_' then
    ((entryId.toList.reverse.dropWhile (· ≠ '_')).drop 1).reverse
  else entryId.toList

def executeCall (entry : BFCLv4MultiTurnEntry) (decoded : List String) : ExecuteCall where
  funcCallList := decoded
  initialConfig := entry.initialConfig
  involvedClasses := entry.involvedClasses
  modelName := modelNameForExecution
  testEntryId := entry.entryId
  longContext :=
    "long_context".toList <:+: testCategory entry.entryId ∨
      "composite".toList <:+: testCategory entry.entryId
  isEvalRun := false

/-- The state in which the first request of the current turn is sent. -/
def getInitialRequest (state : ConversationExecState)
    (inRange : state.currentTurn < state.entry.numTurns) : ConversationExecState :=
  { state with
    tools := state.tools ++
      ((state.entry.holdout? state.currentTurn).map bfcl.convertToTool).getD []
    messages := state.messages ++
      (state.entry.getTurnMessages state.currentTurn inRange).map fun message =>
        .prompt message.role (message.content.getD "")
    currentStep := 0
    currentTurnResults := [] }

def advanceTurn (state : ConversationExecState) : Processed :=
  let state :=
    { state with
      modelResultsPerTurn := state.modelResultsPerTurn ++ [state.currentTurnResults]
      currentTurn := state.currentTurn + 1 }
  if inRange : state.currentTurn < state.entry.numTurns then
    let state := getInitialRequest bfcl state inRange
    { state := state, action := ⟨.nextTurn, some state.messages, some state.tools⟩ }
  else
    { state := { state with completed := true }, action := { actionType := .complete } }

variable (py : Python) (maxSteps : Nat)

/-- The calls of the assistant message, each with its id. -/
def assistantToolCalls (calls : List ResponseCall) (ids : Option (List Json)) :
    List AssistantToolCall :=
  let ids :=
    match ids with
    | some (id :: rest) => id :: rest
    | _ => callIds calls.length
  List.zipWith (fun call id =>
    { id := id
      name := call.name
      arguments :=
        match call.arguments with
        | .string text => .string text
        | arguments => .string (py.dumps arguments) }) calls ids

def assistantMessage (response : ModelResponse) : HistoryMessage :=
  .assistant (if response.content.truthy py then response.content else .string "")
    (assistantToolCalls py (response.toolCalls.getD []) response.toolCallIds)

/-- The results are paired with the ids from the first on. -/
def toolMessages (results : List String) (ids : Option (List Json)) (calls : List ResponseCall) :
    List HistoryMessage :=
  List.zipWith HistoryMessage.tool results (ids.getD (callIds calls.length))

/-- The decoded calls have been executed. -/
def recordExecution (state : ConversationExecState) (response : ModelResponse)
    (calls : List ResponseCall) (decoded : List String) : ConversationExecState :=
  { state with
    currentTurnResults := state.currentTurnResults ++ [decoded]
    messages := state.messages ++
      toolMessages (response.execute (executeCall state.entry decoded)) response.toolCallIds calls
    currentStep := state.currentStep + 1 }

def processResponse (state : ConversationExecState) (response : ModelResponse) : Processed :=
  let state := { state with messages := state.messages ++ [assistantMessage py response] }
  match response.toolCalls with
  | none | some [] => advanceTurn bfcl state
  | some (call :: calls) =>
      match decodedCalls bfcl (allowedToolNames state.tools) (call :: calls) with
      | none => advanceTurn bfcl state
      | some decoded =>
          let executed := executeCall state.entry decoded
          let state := recordExecution state response (call :: calls) decoded
          if maxSteps ≤ state.currentStep then
            { state :=
                { state with
                  forceTerminated := true
                  completed := true
                  modelResultsPerTurn :=
                    state.modelResultsPerTurn ++ [state.currentTurnResults] }
              action := { actionType := .forceTerminated }
              executed := some executed }
          else
            { state := state
              action := ⟨.continue, some state.messages, some state.tools⟩
              executed := some executed }

/-- The state after the first request of an entry. -/
def opening (entry : BFCLv4MultiTurnEntry) (hasTurns : 0 < entry.numTurns) :
    ConversationExecState :=
  getInitialRequest bfcl (startConversation entry) hasTurns

/-- A conversation goes on with the next response until it is completed. -/
def step (state : ConversationExecState) (response : ModelResponse) :
    Option ConversationExecState :=
  if state.completed then none
  else some (processResponse bfcl py maxSteps state response).state

/-! ## What a response does -/

/-- The calls that a response gets executed. -/
def executedCalls (state : ConversationExecState) (response : ModelResponse) :
    Option (List String) :=
  match response.toolCalls with
  | none | some [] => none
  | some (call :: calls) => decodedCalls bfcl (allowedToolNames state.tools) (call :: calls)

/-- A response either closes the turn or has its calls executed. -/
theorem processResponse_of_none {state : ConversationExecState} {response : ModelResponse}
    (nothing : executedCalls bfcl state response = none) :
    processResponse bfcl py maxSteps state response =
      advanceTurn bfcl
        { state with messages := state.messages ++ [assistantMessage py response] } := by
  unfold executedCalls at nothing
  unfold processResponse
  split at nothing <;> simp_all

theorem processResponse_of_some {state : ConversationExecState} {response : ModelResponse}
    {decoded : List String} (executes : executedCalls bfcl state response = some decoded) :
    (processResponse bfcl py maxSteps state response).executed =
        some (executeCall state.entry decoded) ∧
      (processResponse bfcl py maxSteps state response).state =
        (if maxSteps ≤ state.currentStep + 1 then
          { recordExecution
              { state with messages := state.messages ++ [assistantMessage py response] }
              response (response.toolCalls.getD []) decoded with
            forceTerminated := true
            completed := true
            modelResultsPerTurn :=
              state.modelResultsPerTurn ++ [state.currentTurnResults ++ [decoded]] }
        else
          recordExecution
            { state with messages := state.messages ++ [assistantMessage py response] }
            response (response.toolCalls.getD []) decoded) := by
  unfold executedCalls at executes
  split at executes
  · cases executes
  · cases executes
  · next call calls given =>
      have stepEq : ∀ state' : ConversationExecState,
          (recordExecution state' response (call :: calls) decoded).currentStep =
            state'.currentStep + 1 := fun _ => rfl
      constructor
      · simp only [processResponse, given, executes]
        split <;> rfl
      · simp only [processResponse, given, executes, stepEq, Option.getD_some]
        split <;> rfl

theorem action_processResponse_of_some {state : ConversationExecState}
    {response : ModelResponse} {decoded : List String}
    (executes : executedCalls bfcl state response = some decoded) :
    (processResponse bfcl py maxSteps state response).action =
      if maxSteps ≤ state.currentStep + 1 then { actionType := .forceTerminated }
      else
        ⟨.continue, some (processResponse bfcl py maxSteps state response).state.messages,
          some (processResponse bfcl py maxSteps state response).state.tools⟩ := by
  unfold executedCalls at executes
  split at executes
  · cases executes
  · cases executes
  · next call calls given =>
      have stepEq : ∀ state' : ConversationExecState,
          (recordExecution state' response (call :: calls) decoded).currentStep =
            state'.currentStep + 1 := fun _ => rfl
      simp only [processResponse, given, executes, stepEq]
      split <;> rfl

theorem executed_advanceTurn (state : ConversationExecState) :
    (advanceTurn bfcl state).executed = none := by
  simp only [advanceTurn]
  split <;> rfl

theorem executed_processResponse (state : ConversationExecState) (response : ModelResponse) :
    (processResponse bfcl py maxSteps state response).executed =
      (executedCalls bfcl state response).map (executeCall state.entry) := by
  cases executes : executedCalls bfcl state response with
  | none =>
      rw [processResponse_of_none bfcl py maxSteps executes]
      exact executed_advanceTurn bfcl _
  | some decoded => exact (processResponse_of_some bfcl py maxSteps executes).1

/-- The last turn is closed. -/
theorem advanceTurn_last {state : ConversationExecState}
    (last : state.entry.numTurns ≤ state.currentTurn + 1) :
    advanceTurn bfcl state =
      { state :=
          { state with
            modelResultsPerTurn := state.modelResultsPerTurn ++ [state.currentTurnResults]
            currentTurn := state.currentTurn + 1
            completed := true }
        action := { actionType := .complete } } := by
  simp only [advanceTurn, dif_neg (Nat.not_lt.mpr last)]

/-- Another turn is closed and the next one opened. -/
theorem advanceTurn_next {state : ConversationExecState}
    (more : state.currentTurn + 1 < state.entry.numTurns) :
    (advanceTurn bfcl state).state =
        getInitialRequest bfcl
          { state with
            modelResultsPerTurn := state.modelResultsPerTurn ++ [state.currentTurnResults]
            currentTurn := state.currentTurn + 1 } more ∧
      (advanceTurn bfcl state).action =
        ⟨.nextTurn, some (advanceTurn bfcl state).state.messages,
          some (advanceTurn bfcl state).state.tools⟩ := by
  simp only [advanceTurn, dif_pos more, and_self]

end BFCLExecutionBridge

end InferenceEndpoint
