import InferenceEndpoint.Evaluation.BFCLExecution

/-!
# Conversations of the execution bridge

Which calls reach the executor, and which call a tool message answers.  The filter of
the bridge is off when no name is declared, and the results are paired with the ids
of all calls although they belong to the calls that passed.
-/

/-- The tool is the function of that name. -/
def Json.IsFunction (tool : Json) (name : String) : Prop :=
  ∃ members function, tool = .object members ∧
    Json.lookup members "function" = some (.object function) ∧
    Json.lookup function "name" = some (.string name)

theorem List.Forall₂.exists_of_mem_right {α β : Type*} {Related : α → β → Prop}
    {first : List α} {second : List β} (related : List.Forall₂ Related first second) {value : β}
    (member : value ∈ second) : ∃ origin ∈ first, Related origin value := by
  induction related with
  | nil => cases member
  | cons here _ ih =>
      rcases List.mem_cons.mp member with rfl | later
      · exact ⟨_, List.mem_cons_self, here⟩
      · obtain ⟨origin, originMem, holds⟩ := ih later
        exact ⟨origin, List.mem_cons_of_mem _ originMem, holds⟩

namespace InferenceEndpoint

namespace BFCLv4MultiTurnEntry

variable (bfcl : BfclEval) (entry : BFCLv4MultiTurnEntry)

theorem mem_toolsAt {turn : Nat} {tool : Json} :
    tool ∈ entry.toolsAt bfcl turn ↔
      tool ∈ entry.tools ∨ ∃ reached ≤ turn, ∃ functions,
        entry.holdout? reached = some functions ∧ tool ∈ bfcl.convertToTool functions := by
  induction turn with
  | zero =>
      rw [toolsAt, List.mem_append]
      refine or_congr_right ⟨fun member => ?_, ?_⟩
      · cases held : entry.holdout? 0 with
        | none => simp [held] at member
        | some functions => exact ⟨0, le_rfl, functions, held, by simpa [held] using member⟩
      · rintro ⟨reached, reachedLe, functions, held, member⟩
        obtain rfl : reached = 0 := by omega
        simpa [held] using member
  | succ turn ih =>
      rw [toolsAt, List.mem_append, ih, or_assoc]
      refine or_congr_right ⟨?_, ?_⟩
      · rintro (⟨reached, reachedLe, rest⟩ | member)
        · exact ⟨reached, by omega, rest⟩
        · cases held : entry.holdout? (turn + 1) with
          | none => simp [held] at member
          | some functions =>
              exact ⟨turn + 1, le_rfl, functions, held, by simpa [held] using member⟩
      · rintro ⟨reached, reachedLe, functions, held, member⟩
        by_cases new : reached = turn + 1
        · subst new
          exact Or.inr (by simpa [held] using member)
        · exact Or.inl ⟨reached, by omega, functions, held, member⟩

end BFCLv4MultiTurnEntry

/-- A function of the entry's tools, or a holdout function of a turn up to `turn`. -/
def BFCLv4MultiTurnEntry.Declares (entry : BFCLv4MultiTurnEntry) (bfcl : BfclEval)
    (turn : Nat) (name : String) : Prop :=
  (∃ tool ∈ entry.tools, tool.IsFunction name) ∨
    ∃ reached ≤ turn, ∃ functions, entry.holdout? reached = some functions ∧
      ∃ tool ∈ bfcl.convertToTool functions, tool.IsFunction name

namespace BFCLExecutionBridge

open BFCLv4Scorer (asciiPython)

variable {bfcl : BfclEval} {py : Python} {maxSteps : Nat} {entry : BFCLv4MultiTurnEntry}
  {state : ConversationExecState} {response : ModelResponse}

theorem mem_allowedToolNames {tools : List Json} {name : String} :
    name ∈ allowedToolNames tools ↔ ∃ tool ∈ tools, tool.IsFunction name := by
  rw [allowedToolNames, List.mem_filterMap]
  refine exists_congr fun tool => and_congr_right' ⟨fun named => ?_, ?_⟩
  · split at named
    · next members =>
        split at named
        · next function hasFunction =>
            split at named
            · next text hasName =>
                obtain rfl : text = name := by simpa using named
                exact ⟨members, function, rfl, hasFunction, hasName⟩
            · cases named
        · cases named
    · cases named
  · rintro ⟨members, function, rfl, hasFunction, hasName⟩
    simp [hasFunction, hasName]

theorem mem_allowedToolNames_toolsAt {turn : Nat} {name : String} :
    name ∈ allowedToolNames (entry.toolsAt bfcl turn) ↔ entry.Declares bfcl turn name := by
  simp only [mem_allowedToolNames, entry.mem_toolsAt bfcl, BFCLv4MultiTurnEntry.Declares,
    or_and_right, exists_or]
  refine or_congr_right ⟨?_, ?_⟩
  · rintro ⟨tool, ⟨reached, reachedLe, functions, held, member⟩, named⟩
    exact ⟨reached, reachedLe, functions, held, tool, member, named⟩
  · rintro ⟨reached, reachedLe, functions, held, tool, member, named⟩
    exact ⟨tool, ⟨reached, reachedLe, functions, held, member⟩, named⟩

/-! ## The turn a conversation is in -/

/-- A conversation that goes on is in one of the turns of its entry, offers the tools
of that turn and has closed the turns before it. -/
structure InTurn (bfcl : BfclEval) (entry : BFCLv4MultiTurnEntry)
    (state : ConversationExecState) : Prop where
  sameEntry : state.entry = entry
  inRange : state.currentTurn < entry.numTurns
  tools : state.tools = entry.toolsAt bfcl state.currentTurn
  closed : state.modelResultsPerTurn.length = state.currentTurn

theorem inTurn_opening (hasTurns : 0 < entry.numTurns) :
    InTurn bfcl entry (opening bfcl entry hasTurns) where
  sameEntry := rfl
  inRange := hasTurns
  tools := rfl
  closed := rfl

theorem InTurn.advanceTurn (inTurn : InTurn bfcl entry state)
    (more : state.currentTurn + 1 < state.entry.numTurns) :
    InTurn bfcl entry (advanceTurn bfcl state).state := by
  rw [(advanceTurn_next bfcl more).1]
  obtain ⟨rfl, inRange, tools, closed⟩ := inTurn
  refine ⟨rfl, more, ?_, ?_⟩
  · simp [getInitialRequest, tools, BFCLv4MultiTurnEntry.toolsAt]
  · simp [getInitialRequest, closed]

theorem InTurn.withMessages (inTurn : InTurn bfcl entry state) (messages : List HistoryMessage) :
    InTurn bfcl entry { state with messages := messages } :=
  ⟨inTurn.sameEntry, inTurn.inRange, inTurn.tools, inTurn.closed⟩

theorem InTurn.recordExecution (inTurn : InTurn bfcl entry state) (calls : List ResponseCall)
    (decoded : List String) : InTurn bfcl entry (recordExecution state response calls decoded) :=
  ⟨inTurn.sameEntry, inTurn.inRange, inTurn.tools, inTurn.closed⟩

/-- A response leaves the conversation in a turn, or completes it. -/
theorem InTurn.processResponse (inTurn : InTurn bfcl entry state)
    (goesOn : (processResponse bfcl py maxSteps state response).state.completed = false) :
    InTurn bfcl entry (processResponse bfcl py maxSteps state response).state := by
  cases executes : executedCalls bfcl state response with
  | none =>
      rw [processResponse_of_none bfcl py maxSteps executes] at goesOn ⊢
      refine (inTurn.withMessages _).advanceTurn ?_
      by_contra last
      rw [advanceTurn_last bfcl (Nat.not_lt.mp last)] at goesOn
      cases goesOn
  | some decoded =>
      rw [(processResponse_of_some bfcl py maxSteps executes).2] at goesOn ⊢
      split at goesOn
      · cases goesOn
      · next below =>
          rw [if_neg below]
          exact (inTurn.withMessages _).recordExecution _ _

/-- The invariant of a conversation. -/
def Conversing (bfcl : BfclEval) (entry : BFCLv4MultiTurnEntry)
    (state : ConversationExecState) : Prop :=
  state.completed = false → InTurn bfcl entry state

theorem Conversing.step {next : ConversationExecState} (conversing : Conversing bfcl entry state)
    (edge : step bfcl py maxSteps state response = some next) : Conversing bfcl entry next := by
  unfold BFCLExecutionBridge.step at edge
  split at edge
  · cases edge
  · next going =>
      obtain rfl := Option.some_inj.mp edge
      exact (conversing (Bool.eq_false_iff.mpr going)).processResponse

/-! ## Which calls are executed -/

theorem decodable_mem {allowed : List String} {calls : List ResponseCall}
    {entries : List (Json × Json)} (decodes : decodable allowed calls = some entries)
    {named : Json × Json} (member : named ∈ entries) :
    ∃ call ∈ calls, call.name = named.1 ∧ passes allowed call.name = true := by
  induction calls generalizing entries with
  | nil =>
      obtain rfl : [] = entries := by simpa [decodable] using decodes
      cases member
  | cons call calls ih =>
      have fromTail {tail : List (Json × Json)} (decodesTail : decodable allowed calls = some tail)
          (inTail : named ∈ tail) :
          ∃ other ∈ call :: calls, other.name = named.1 ∧ passes allowed other.name = true := by
        obtain ⟨other, otherMem, rest⟩ := ih decodesTail inTail
        exact ⟨other, List.mem_cons_of_mem call otherMem, rest⟩
      rw [decodable] at decodes
      split at decodes
      · cases decodes
      · split at decodes
        · exact fromTail decodes member
        · next passed =>
            have kept : ∃ arguments tail, decodable allowed calls = some tail ∧
                entries = (call.name, arguments) :: tail := by
              split at decodes
              · obtain ⟨arguments, -, mapped⟩ := Option.bind_eq_some_iff.mp decodes
                obtain ⟨tail, decodesTail, rfl⟩ := Option.map_eq_some_iff.mp mapped
                exact ⟨arguments, tail, decodesTail, rfl⟩
              · obtain ⟨tail, decodesTail, rfl⟩ := Option.map_eq_some_iff.mp decodes
                exact ⟨_, tail, decodesTail, rfl⟩
            obtain ⟨arguments, tail, decodesTail, rfl⟩ := kept
            rcases List.mem_cons.mp member with rfl | inTail
            · exact ⟨call, List.mem_cons_self, rfl, by simpa using passed⟩
            · exact fromTail decodesTail inTail

theorem passes_iff {allowed : List String} {name : Json} (declares : allowed ≠ []) :
    passes allowed name = true ↔ ∃ text ∈ allowed, name = .string text := by
  cases allowed with
  | nil => exact absurd rfl declares
  | cons first rest => cases name <;> simp [passes]

theorem executedCalls_eq_some {decoded : List String} :
    executedCalls bfcl state response = some decoded ↔
      response.toolCalls.getD [] ≠ [] ∧
        decodedCalls bfcl (allowedToolNames state.tools) (response.toolCalls.getD []) =
          some decoded := by
  unfold executedCalls
  split
  · next given => simp [given]
  · next given => simp [given]
  · next given => simp [given]

theorem decodedCalls_eq_some {allowed : List String} {calls : List ResponseCall}
    {decoded : List String} :
    decodedCalls bfcl allowed calls = some decoded ↔
      ∃ entries, decodable allowed calls = some entries ∧
        bfcl.convertToFunctionCall entries = some decoded ∧
        bfcl.isEmptyExecuteResponse decoded = false := by
  unfold decodedCalls
  split
  · next failed =>
      simp only [reduceCtorEq, false_iff]
      rintro ⟨entries, decodes, converts, -⟩
      rw [decodes, Option.bind_some, converts] at failed
      cases failed
  · next found decodes =>
      obtain ⟨entries, decodes, converts⟩ := Option.bind_eq_some_iff.mp decodes
      simp only [decodes, Option.some.injEq, exists_eq_left', converts]
      split
      · next empty =>
          simp only [reduceCtorEq, false_iff]
          rintro ⟨rfl, full⟩
          rw [empty] at full
          cases full
      · next full =>
          simp only [Option.some.injEq]
          refine ⟨?_, And.left⟩
          rintro rfl
          exact ⟨rfl, Bool.eq_false_iff.mpr full⟩

/-- Every call that the response gets executed is a call of the name of one of its tool
calls, and that name is declared. -/
def ExecutesDeclared (bfcl : BfclEval) (py : Python) (maxSteps : Nat)
    (entry : BFCLv4MultiTurnEntry) (IsCallOf : String → Json → Prop)
    (state : ConversationExecState) (response : ModelResponse) : Prop :=
  ∀ executed, (processResponse bfcl py maxSteps state response).executed = some executed →
    ∀ call ∈ executed.funcCallList, ∃ toolCall ∈ response.toolCalls.getD [],
      IsCallOf call toolCall.name ∧
        ∃ name, toolCall.name = .string name ∧ entry.Declares bfcl state.currentTurn name

/-- A function is declared by then, or the calls of the response cannot be decoded or
are none. -/
def Guarded (bfcl : BfclEval) (entry : BFCLv4MultiTurnEntry) (state : ConversationExecState)
    (response : ModelResponse) : Prop :=
  (∃ name, entry.Declares bfcl state.currentTurn name) ∨
    decodedCalls bfcl [] (response.toolCalls.getD []) = none

theorem executesDeclared_iff_guarded {IsCallOf : String → Json → Prop}
    (emits : bfcl.Emits IsCallOf) (inTurn : InTurn bfcl entry state) :
    ExecutesDeclared bfcl py maxSteps entry IsCallOf state response ↔
      Guarded bfcl entry state response := by
  have declaredIff (name : String) :
      entry.Declares bfcl state.currentTurn name ↔ name ∈ allowedToolNames state.tools := by
    rw [inTurn.tools, mem_allowedToolNames_toolsAt]
  unfold ExecutesDeclared Guarded
  simp only [executed_processResponse, Option.map_eq_some_iff, declaredIff]
  constructor
  · intro safe
    by_contra unguarded
    obtain ⟨undeclared, executes⟩ := not_or.mp unguarded
    have nameless : allowedToolNames state.tools = [] :=
      List.eq_nil_iff_forall_not_mem.mpr fun name member => undeclared ⟨name, member⟩
    obtain ⟨decoded, decodes⟩ := Option.ne_none_iff_exists'.mp executes
    obtain ⟨entries, decodesEntries, converts, full⟩ := decodedCalls_eq_some.mp decodes
    have nonempty : decoded ≠ [] := by
      rintro rfl
      rw [emits.empty] at full
      cases full
    have given : response.toolCalls.getD [] ≠ [] := by
      intro none
      rw [none, decodable, Option.some.injEq] at decodesEntries
      subst decodesEntries
      exact nonempty (List.forall₂_nil_left_iff.mp (emits.calls [] decoded converts))
    obtain ⟨call, calls, rfl⟩ := List.exists_cons_of_ne_nil nonempty
    have executed : executedCalls bfcl state response = some (call :: calls) :=
      executedCalls_eq_some.mpr ⟨given, by rwa [nameless]⟩
    obtain ⟨toolCall, -, -, name, -, declared⟩ :=
      safe _ ⟨call :: calls, executed, rfl⟩ call List.mem_cons_self
    exact undeclared ⟨name, declared⟩
  · rintro guarded executed ⟨decoded, executes, rfl⟩ call member
    obtain ⟨given, decodes⟩ := executedCalls_eq_some.mp executes
    have declares : allowedToolNames state.tools ≠ [] := by
      intro nameless
      rw [nameless] at decodes
      rcases guarded with ⟨name, declared⟩ | undecodable
      · rw [nameless] at declared
        cases declared
      · rw [undecodable] at decodes
        cases decodes
    obtain ⟨entries, decodesEntries, converts, -⟩ := decodedCalls_eq_some.mp decodes
    obtain ⟨named, namedMem, isCall⟩ :=
      (emits.calls entries decoded converts).exists_of_mem_right member
    obtain ⟨toolCall, toolCallMem, nameEq, passed⟩ := decodable_mem decodesEntries namedMem
    obtain ⟨name, allowed, isName⟩ := (passes_iff declares).mp passed
    exact ⟨toolCall, toolCallMem, nameEq ▸ isCall, name, isName, allowed⟩

/-- In every conversation, the executor gets declared calls only exactly as long as every
response arrives guarded. -/
theorem executes_declared_iff_guarded {IsCallOf : String → Json → Prop}
    (emits : bfcl.Emits IsCallOf) (py : Python) (maxSteps : Nat) (entry : BFCLv4MultiTurnEntry)
    (hasTurns : 0 < entry.numTurns) {responses : List ModelResponse}
    {final : ConversationExecState}
    (runs : GuardedRuns.run (step bfcl py maxSteps) (opening bfcl entry hasTurns) responses =
      some final) :
    GuardedRuns.Meets (step bfcl py maxSteps)
        (ExecutesDeclared bfcl py maxSteps entry IsCallOf) (opening bfcl entry hasTurns)
        responses ↔
      GuardedRuns.Meets (step bfcl py maxSteps) (Guarded bfcl entry) (opening bfcl entry hasTurns)
        responses := by
  refine GuardedRuns.meets_congr (Conversing bfcl entry)
    (fun _ _ _ conversing edge => conversing.step edge) ?_
    (fun _ => inTurn_opening hasTurns) runs
  intro state response next conversing edge
  refine executesDeclared_iff_guarded emits (conversing ?_)
  by_contra ended
  simp [step, ended] at edge

/-! A decoder of calls without arguments, and an entry with its tools. -/

def emitCalls : List (Json × Json) → Option (List String)
  | [] => some []
  | (.string name, .object []) :: entries => (emitCalls entries).map ((name ++ "()") :: ·)
  | _ => none

def plainBfcl : BfclEval where
  convertToTool functions :=
    functions.map fun function => .object [("type", .string "function"), ("function", function)]
  convertToFunctionCall := emitCalls
  isEmptyExecuteResponse decoded := decoded.isEmpty || decoded == [""]

def IsPlainCall (call : String) (name : Json) : Prop :=
  ∃ text, name = .string text ∧ call = text ++ "()"

theorem plainBfcl_emits : plainBfcl.Emits IsPlainCall where
  calls entries decoded converts := by
    change emitCalls entries = some decoded at converts
    fun_induction emitCalls entries generalizing decoded with
    | case1 =>
        obtain rfl := Option.some_inj.mp converts
        exact .nil
    | case2 name entries ih =>
        obtain ⟨rest, converted, rfl⟩ := Option.map_eq_some_iff.mp converts
        exact .cons ⟨name, rfl, rfl⟩ (ih rest converted)
    | case3 => cases converts
  empty := rfl

def listingEntry (tools : List Json) : BFCLv4MultiTurnEntry where
  entryId := "multi_turn_base_0"
  subset := "multi_turn_base"
  turns := [[⟨"user", some "list the files"⟩]]
  tools := tools
  initialConfig := .object []
  involvedClasses := ["GorillaFileSystem"]
  groundTruth := []
  holdoutFunction := []

def listFiles : Json :=
  .object [("type", .string "function"), ("function", .object [("name", .string "ls")])]

/-- A response with calls of the given names. -/
def callsOf (names : List String) : ModelResponse where
  toolCalls := some (names.map fun name => ⟨.string name, .object []⟩)
  toolCallIds := none
  content := .null
  execute call := call.funcCallList.map fun text => "result of " ++ text

/-- Without tools, a call of any name is executed. -/
theorem undeclared_call_executed :
    ¬ GuardedRuns.Meets (step plainBfcl asciiPython 25)
      (ExecutesDeclared plainBfcl asciiPython 25 (listingEntry []) IsPlainCall)
      (opening plainBfcl (listingEntry []) (by decide)) [callsOf ["os.system"]] := by
  rintro ⟨safe, -⟩
  obtain ⟨toolCall, -, -, name, -, declared⟩ := safe
    (executeCall (listingEntry []) ["os.system()"]) (by rfl) "os.system()" List.mem_cons_self
  rcases declared with ⟨tool, member, -⟩ | ⟨reached, -, functions, held, -⟩
  · cases member
  · cases held

theorem executes_declared_listFiles :
    GuardedRuns.Meets (step plainBfcl asciiPython 25)
      (ExecutesDeclared plainBfcl asciiPython 25 (listingEntry [listFiles]) IsPlainCall)
      (opening plainBfcl (listingEntry [listFiles]) (by decide))
      [callsOf ["os.system", "ls"]] := by
  refine (executes_declared_iff_guarded plainBfcl_emits asciiPython 25
    (listingEntry [listFiles]) (by decide) rfl).mpr ⟨Or.inl ⟨"ls", Or.inl ?_⟩, fun _ _ => trivial⟩
  exact ⟨listFiles, List.mem_cons_self, _, _, rfl, rfl, rfl⟩

/-! ## Which call a tool message answers -/

/-- The results of the tool messages with the ids of the calls they answer. -/
def answersIn (messages : List HistoryMessage) : List (String × Json) :=
  messages.filterMap fun message =>
    match message with
    | .tool content toolCallId => some (content, toolCallId)
    | _ => none

/-- The calls of the assistant message that were executed. -/
def executedToolCalls (bfcl : BfclEval) (py : Python) (state : ConversationExecState)
    (response : ModelResponse) : List AssistantToolCall :=
  if (executedCalls bfcl state response).isSome then
    (assistantToolCalls py (response.toolCalls.getD []) response.toolCallIds).filter
      fun call => passes (allowedToolNames state.tools) call.name
  else []

/-- What the executor returned for a response. -/
def executionResults (bfcl : BfclEval) (state : ConversationExecState)
    (response : ModelResponse) : List String :=
  ((executedCalls bfcl state response).map fun decoded =>
    response.execute (executeCall state.entry decoded)).getD []

/-- The tool messages that the response adds carry, one for each executed call, the result
of the call under the id of the call, and no id twice. -/
def AnswersOwnCalls (bfcl : BfclEval) (py : Python) (maxSteps : Nat)
    (state : ConversationExecState) (response : ModelResponse) : Prop :=
  let answers := answersIn
    ((processResponse bfcl py maxSteps state response).state.messages.drop state.messages.length)
  answers = List.zipWith (fun call result => (result, call.id))
      (executedToolCalls bfcl py state response) (executionResults bfcl state response) ∧
    answers.length = (executedToolCalls bfcl py state response).length ∧
    (answers.map Prod.snd).Nodup

/-- The calls have distinct ids, or none was given. -/
def DistinctIds (response : ModelResponse) : Prop :=
  response.toolCallIds = none ∨ ∃ ids, response.toolCallIds = some ids ∧ ids.Nodup ∧
    ids.length = (response.toolCalls.getD []).length

/-- No call that passes the filter comes after a dropped one. -/
def DroppedLast (allowed : List String) (calls : List ResponseCall) : Prop :=
  calls.Pairwise fun earlier later =>
    passes allowed later.name = true → passes allowed earlier.name = true

theorem callIds_length (count : Nat) : (callIds count).length = count := by
  simp [callIds]

theorem callIds_nodup (count : Nat) : (callIds count).Nodup := by
  refine List.Nodup.map ?_ List.nodup_range
  intro first second same
  have digits : Nat.toDigits 10 first = Nat.toDigits 10 second := by
    simpa [Nat.toString_eq_repr, Nat.toList_repr] using congrArg String.toList (Json.string.inj same)
  simpa using congrArg (Nat.ofDigitChars 10 · 0) digits

/-- The ids with which both the calls and the results are paired. -/
theorem DistinctIds.elim (distinct : DistinctIds response) :
    ∃ ids : List Json, ids.Nodup ∧ ids.length = (response.toolCalls.getD []).length ∧
      response.toolCallIds.getD (callIds (response.toolCalls.getD []).length) = ids ∧
      ∀ py, assistantToolCalls py (response.toolCalls.getD []) response.toolCallIds =
        assistantToolCalls py (response.toolCalls.getD []) (some ids) := by
  rcases distinct with none | ⟨ids, given, distinct, lengthEq⟩
  · refine ⟨_, callIds_nodup _, callIds_length _, by rw [none]; rfl, fun py => ?_⟩
    rw [none]
    unfold assistantToolCalls
    cases callIds (response.toolCalls.getD []).length <;> simp
  · exact ⟨ids, distinct, lengthEq, by rw [given]; rfl, fun py => by rw [given]⟩

theorem decodable_length {allowed : List String} {calls : List ResponseCall}
    {entries : List (Json × Json)} (decodes : decodable allowed calls = some entries) :
    entries.length = (calls.filter fun call => passes allowed call.name).length := by
  induction calls generalizing entries with
  | nil =>
      obtain rfl : [] = entries := by simpa [decodable] using decodes
      rfl
  | cons call calls ih =>
      rw [decodable] at decodes
      split at decodes
      · cases decodes
      · split at decodes
        · next dropped =>
            rw [List.filter_cons_of_neg (by simpa using dropped)]
            exact ih decodes
        · next passed =>
            rw [List.filter_cons_of_pos (by simpa using passed), List.length_cons]
            split at decodes
            · obtain ⟨arguments, -, mapped⟩ := Option.bind_eq_some_iff.mp decodes
              obtain ⟨tail, decodesTail, rfl⟩ := Option.map_eq_some_iff.mp mapped
              rw [List.length_cons, ih decodesTail]
            · obtain ⟨tail, decodesTail, rfl⟩ := Option.map_eq_some_iff.mp decodes
              rw [List.length_cons, ih decodesTail]

@[simp]
theorem answersIn_append (first second : List HistoryMessage) :
    answersIn (first ++ second) = answersIn first ++ answersIn second :=
  List.filterMap_append

theorem answersIn_prompts (messages : List TurnMessage) :
    answersIn (messages.map fun message =>
      .prompt message.role (message.content.getD "")) = [] := by
  induction messages with
  | nil => rfl
  | cons message messages ih => simpa [answersIn] using ih

theorem answersIn_tools (results : List String) (ids : List Json) :
    answersIn (List.zipWith HistoryMessage.tool results ids) = results.zip ids := by
  induction results generalizing ids with
  | nil => rfl
  | cons result results ih =>
      cases ids with
      | nil => rfl
      | cons id ids => simpa [answersIn] using ih ids

/-- The tool messages that a response adds. -/
theorem answersIn_processResponse (state : ConversationExecState) (response : ModelResponse) :
    answersIn ((processResponse bfcl py maxSteps state response).state.messages.drop
        state.messages.length) =
      (executionResults bfcl state response).zip
        (response.toolCallIds.getD (callIds (response.toolCalls.getD []).length)) := by
  unfold executionResults
  cases executes : executedCalls bfcl state response with
  | none =>
      rw [processResponse_of_none bfcl py maxSteps executes]
      generalize told : { state with messages := state.messages ++ [assistantMessage py response] }
        = answered
      have answeredEq : answered.messages = state.messages ++ [assistantMessage py response] :=
        told ▸ rfl
      by_cases more : answered.currentTurn + 1 < answered.entry.numTurns
      · rw [(advanceTurn_next bfcl more).1]
        simp only [getInitialRequest, answeredEq, List.append_assoc, List.drop_left, answersIn_append,
          answersIn_prompts]
        rfl
      · rw [advanceTurn_last bfcl (Nat.not_lt.mp more)]
        simp only [answeredEq, List.drop_left]
        rfl
  | some decoded =>
      rw [(processResponse_of_some bfcl py maxSteps executes).2]
      have added : answersIn ((recordExecution
            { state with messages := state.messages ++ [assistantMessage py response] } response
            (response.toolCalls.getD []) decoded).messages.drop state.messages.length) =
          (response.execute (executeCall state.entry decoded)).zip
            (response.toolCallIds.getD (callIds (response.toolCalls.getD []).length)) := by
        simp only [recordExecution, toolMessages, List.append_assoc, List.drop_left,
          answersIn_append, answersIn_tools]
        rfl
      split <;> exact added

/-- The ids of the calls that pass are the first ids exactly if the dropped calls come
last. -/
theorem filter_ids_prefix_iff {passing : AssistantToolCall → Bool}
    {calls : List AssistantToolCall} (distinct : (calls.map (·.id)).Nodup) :
    (calls.filter passing).map (·.id) <+: calls.map (·.id) ↔
      calls.Pairwise fun earlier later => passing later = true → passing earlier = true := by
  induction calls with
  | nil => simp
  | cons call calls ih =>
      obtain ⟨fresh, distinctRest⟩ := List.nodup_cons.mp distinct
      rw [List.pairwise_cons]
      by_cases passed : passing call = true
      · rw [List.filter_cons_of_pos passed, List.map_cons, List.map_cons,
          List.cons_prefix_cons, ih distinctRest]
        simp [passed]
      · rw [List.filter_cons_of_neg passed]
        have noneLater : (calls.filter passing).map (·.id) <+: (call :: calls).map (·.id) ↔
            ∀ later ∈ calls, ¬ passing later = true := by
          cases kept : calls.filter passing with
          | nil => simpa using List.filter_eq_nil_iff.mp kept
          | cons first rest =>
              have firstMem : first ∈ calls.filter passing := kept ▸ List.mem_cons_self
              obtain ⟨inCalls, firstPasses⟩ := List.mem_filter.mp firstMem
              refine iff_of_false ?_ fun none => none first inCalls firstPasses
              rw [List.map_cons, List.map_cons, List.cons_prefix_cons]
              rintro ⟨same, -⟩
              exact fresh (List.mem_map.mpr ⟨first, inCalls, same⟩)
        rw [noneLater]
        constructor
        · intro none
          refine ⟨fun later member passes => absurd passes (none later member), ?_⟩
          exact List.pairwise_of_forall_mem_list
            fun _ _ later member passes => absurd passes (none later member)
        · rintro ⟨head, -⟩ later member passes
          exact passed (head later member passes)

/-- Pairing with a longer list uses its beginning. -/
theorem zip_eq_zip_iff_prefix {results : List String} {ids own : List Json}
    (lengthEq : results.length = own.length) (atMost : own.length ≤ ids.length) :
    results.zip ids = results.zip own ↔ own <+: ids := by
  induction results generalizing ids own with
  | nil =>
      obtain rfl := List.eq_nil_of_length_eq_zero lengthEq.symm
      simp
  | cons result results ih =>
      cases own with
      | nil => cases lengthEq
      | cons mine own =>
          cases ids with
          | nil => cases atMost
          | cons id ids =>
              have rest := ih (Nat.succ_injective lengthEq) (Nat.le_of_succ_le_succ atMost)
              rw [List.cons_prefix_cons, List.zip_cons_cons, List.zip_cons_cons,
                List.cons.injEq, Prod.mk.injEq, rest]
              simp [eq_comm]

theorem assistantToolCalls_ids (py : Python) {calls : List ResponseCall} {ids : List Json}
    (lengthEq : ids.length = calls.length) :
    (assistantToolCalls py calls (some ids)).map (·.id) = ids ∧
      (assistantToolCalls py calls (some ids)).map (·.name) = calls.map (·.name) := by
  cases ids with
  | nil =>
      obtain rfl := List.eq_nil_of_length_eq_zero lengthEq.symm
      exact ⟨rfl, rfl⟩
  | cons id ids =>
      simp only [assistantToolCalls, List.map_zipWith]
      generalize id :: ids = all at lengthEq
      induction calls generalizing all with
      | nil =>
          obtain rfl := List.eq_nil_of_length_eq_zero lengthEq
          exact ⟨rfl, rfl⟩
      | cons call calls ih =>
          cases all with
          | nil => cases lengthEq
          | cons first rest =>
              obtain ⟨idsEq, namesEq⟩ := ih rest (Nat.succ_injective lengthEq)
              exact ⟨congrArg (first :: ·) idsEq, congrArg (call.name :: ·) namesEq⟩

/-- With distinct ids and a result for every call, the tool messages answer their own
calls exactly if nothing is executed or the dropped calls come last. -/
theorem answersOwnCalls_iff_droppedLast {IsCallOf : String → Json → Prop}
    (emits : bfcl.Emits IsCallOf) (py : Python) (maxSteps : Nat)
    (state : ConversationExecState) (response : ModelResponse) (distinct : DistinctIds response)
    (oneResult : ∀ call, (response.execute call).length = call.funcCallList.length) :
    AnswersOwnCalls bfcl py maxSteps state response ↔
      executedCalls bfcl state response = none ∨
        DroppedLast (allowedToolNames state.tools) (response.toolCalls.getD []) := by
  unfold AnswersOwnCalls
  simp only [answersIn_processResponse]
  cases executes : executedCalls bfcl state response with
  | none => simp [executionResults, executedToolCalls, executes]
  | some decoded =>
      obtain ⟨ids, nodup, idsLength, idsEq, assistantEq⟩ := distinct.elim
      obtain ⟨entries, decodesEntries, converts, -⟩ :=
        decodedCalls_eq_some.mp (executedCalls_eq_some.mp executes).2
      obtain ⟨callIdsEq, namesEq⟩ := assistantToolCalls_ids py idsLength
      simp only [executionResults, executedToolCalls, executes, idsEq, assistantEq,
        Option.isSome_some, if_true, Option.map_some, Option.getD_some, reduceCtorEq, false_or]
      generalize assistant : assistantToolCalls py (response.toolCalls.getD []) (some ids) =
        calls at callIdsEq namesEq
      generalize returned : response.execute (executeCall state.entry decoded) = results
      have resultsLength : results.length =
          (calls.filter fun call => passes (allowedToolNames state.tools) call.name).length := by
        rw [← returned, oneResult]
        change decoded.length = _
        rw [← (emits.calls entries decoded converts).length_eq, decodable_length decodesEntries]
        have named := congrArg (List.countP (passes (allowedToolNames state.tools))) namesEq
        simp only [List.countP_map] at named
        simpa only [List.countP_eq_length_filter, Function.comp_def] using named.symm
      have pairs : ∀ own : List AssistantToolCall,
          List.zipWith (fun call result => (result, call.id)) own results =
            results.zip (own.map (·.id)) := by
        intro own
        rw [List.zipWith_comm, List.zip_eq_zipWith, List.zipWith_map_right]
      have fewer : (calls.filter fun call =>
          passes (allowedToolNames state.tools) call.name).length ≤ ids.length := by
        rw [← callIdsEq, List.length_map]
        exact List.length_filter_le _ _
      have inOrder : (calls.Pairwise fun earlier later =>
            passes (allowedToolNames state.tools) later.name = true →
              passes (allowedToolNames state.tools) earlier.name = true) ↔
          DroppedLast (allowedToolNames state.tools) (response.toolCalls.getD []) := by
        unfold DroppedLast
        rw [← List.pairwise_map (f := fun call : AssistantToolCall => call.name)
            (R := fun earlier later => passes (allowedToolNames state.tools) later = true →
              passes (allowedToolNames state.tools) earlier = true),
          namesEq, List.pairwise_map]
      have ownLength : results.length = ((calls.filter fun call =>
          passes (allowedToolNames state.tools) call.name).map (·.id)).length := by
        rw [resultsLength, List.length_map]
      have prefixIff : results.zip ids = results.zip _ ↔ _ :=
        zip_eq_zip_iff_prefix ownLength (by rwa [List.length_map])
      rw [pairs, prefixIff, ← inOrder, ← filter_ids_prefix_iff (callIdsEq ▸ nodup), callIdsEq]
      refine ⟨And.left, fun ownFirst => ⟨ownFirst, ?_, ?_⟩⟩
      · rw [List.length_zip, resultsLength, Nat.min_eq_left fewer]
      · rw [prefixIff.mpr ownFirst, List.map_snd_zip ownLength.ge]
        exact nodup.sublist ownFirst.sublist

/-- The result of a call after a dropped one goes to the id of the dropped call. -/
theorem result_under_dropped_id :
    ¬ AnswersOwnCalls plainBfcl asciiPython 25
      (opening plainBfcl (listingEntry [listFiles]) (by decide)) (callsOf ["rm", "ls"]) := by
  rintro ⟨answers, -⟩
  have ids := congrArg (List.map Prod.snd) answers
  have swapped : [Json.string "call_0"] = [Json.string "call_1"] := ids
  simp at swapped

theorem answersOwnCalls_droppedLast :
    AnswersOwnCalls plainBfcl asciiPython 25
      (opening plainBfcl (listingEntry [listFiles]) (by decide)) (callsOf ["ls", "rm"]) :=
  (answersOwnCalls_iff_droppedLast plainBfcl_emits asciiPython 25 _ (callsOf ["ls", "rm"])
    (Or.inl rfl) fun _ => List.length_map _).mpr (Or.inr (by simp [DroppedLast, callsOf]; decide))

end BFCLExecutionBridge

end InferenceEndpoint
