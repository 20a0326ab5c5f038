import InferenceEndpoint.Library.JsonRoundTrip
import InferenceEndpoint.Library.OrderedDict
import InferenceEndpoint.Metrics.FirstChunkViews
import Mathlib.Data.List.Forall2
import Mathlib.Data.Rat.Defs
import Mathlib.Algebra.Order.Field.Rat

/-!
# The text of an output and its chunks

One answer can be delivered whole or in chunks.  Its text, its message parts and the text
that the replay takes from the recorded array are compared over all deliveries of one
answer: tool calls that were streamed are merged in the first two and not in the third.
-/

namespace InferenceEndpoint

namespace OutputText

open FirstChunkViews

/-! ## The recorded tool calls -/

/-- A key of a dictionary that may be absent. -/
def textKey (key : String) : Option String → List (String × Json)
  | none => []
  | some text => [(key, .string text)]

def callJson (call : ToolCall) : Json :=
  .object (textKey "id" call.id ++ [("type", .string call.kind),
    ("function", .object (textKey "name" call.name ++ [("arguments", .string call.arguments)]))])

def partialJson (fragment : ToolCallPartial) : Json :=
  .object (("index", .int fragment.index) :: textKey "id" fragment.id ++
    textKey "type" fragment.kind ++
    [("function", .object (textKey "name" fragment.name ++
      textKey "arguments" fragment.arguments))])

def toolCallsJson : ToolCalls → Json
  | .complete calls => .array (calls.map callJson)
  | .streamed chunks => .array (chunks.map fun chunk => .array (chunk.map partialJson))

/-! ## The replay -/

/-- How Python prints values: floats inside JSON, and what `str` makes of a value that is
no string. -/
structure Printer where
  floatRepr : String → String
  str : Json → String

variable (printer : Printer)

def listed : Json → List Json
  | .array items => items
  | other => [other]

/-- `str(part)`. -/
def partText : Json → String
  | .string text => text
  | other => printer.str other

def fullOutputText : Json → String
  | .array data =>
      let reasoning := data.getD 2 .null
      let output := data.getD 1 (.string "")
      let toolCalls := data.getD 3 .null
      let parts :=
        (if truthy reasoning then listed reasoning else []) ++
          (if truthy output then listed output else []) ++
          (if truthy toolCalls then [.string (Json.dumps printer.floatRepr toolCalls)] else [])
      joinStrings (parts.map (partText printer))
  | _ => ""

/-- What the loop of `build_trajectory_natl` reads of a line. -/
structure LogLine where
  eventType : String
  timestampNs : Option Nat := none
  sampleUuid : String := ""
  conversationId : String := ""
  data : Json := .null

structure Trajectories where
  issue : OrderedDict String (String × Nat) := ∅
  latencyNs : OrderedDict String Int := ∅
  tokens : OrderedDict String Nat := ∅
  endNs : OrderedDict String Nat := ∅
  /-- `b_conv` and `b_text`. -/
  batch : List (String × String) := []
  tracking : Bool := false

section

variable (countTokens : List String → List Nat) (flushSize : Nat)

/-- `flush`; counts and texts that differ in number are a `ValueError`. -/
def flush (state : Trajectories) : Option Trajectories :=
  if state.batch = [] then some state
  else
    let counts := countTokens (state.batch.map (·.2))
    if counts.length = state.batch.length then
      some
        { state with
          tokens := ((state.batch.map (·.1)).zip counts).foldl (fun tokens counted =>
            tokens.insert counted.1 ((tokens.get? counted.1).getD 0 + counted.2)) state.tokens
          batch := [] }
    else none

def addComplete (state : Trajectories) (line : LogLine) : Option Trajectories :=
  match state.issue.get? line.sampleUuid with
  | none => some state
  | some (conversation, issuedNs) =>
      let state := { state with issue := state.issue.erase line.sampleUuid }
      match line.timestampNs with
      | none => some state
      | some timestampNs =>
          let state := { state with
            latencyNs := state.latencyNs.insert conversation
              ((state.latencyNs.get? conversation).getD 0 + ((timestampNs : Int) - issuedNs))
            endNs := state.endNs.insert conversation
              (max ((state.endNs.get? conversation).getD 0) timestampNs) }
          let text := fullOutputText printer line.data
          if text = "" then some state
          else
            let state := { state with batch := state.batch ++ [(conversation, text)] }
            if flushSize ≤ state.batch.length then flush countTokens state else some state

def addLine (state : Trajectories) (line : LogLine) : Option Trajectories :=
  if line.eventType = "session.start_performance_tracking" then
    some { state with tracking := true }
  else if line.eventType = "session.stop_performance_tracking" then
    some { state with tracking := false }
  else if line.eventType = "sample.issued" then
    match line.timestampNs with
    | some timestampNs =>
        if state.tracking ∧ line.sampleUuid ≠ "" then
          some { state with
            issue := state.issue.insert line.sampleUuid (line.conversationId, timestampNs) }
        else some state
    | none => some state
  else if line.eventType = "sample.complete" then
    addComplete printer countTokens flushSize state line
  else some state

def trajectories (lines : List LogLine) : Option Trajectories :=
  (lines.foldlM (addLine printer countTokens flushSize) {}).bind (flush countTokens)

/-- `build_trajectory_natl`: tokens by second, ordered by the last completion. -/
def buildTrajectoryNatl (lines : List LogLine) : Option (List (Nat × ℚ)) :=
  (trajectories printer countTokens flushSize lines).map fun state =>
    let pairs := state.latencyNs.entries.filterMap fun (conversation, latencyNs) =>
      let tokens := (state.tokens.get? conversation).getD 0
      if 0 < latencyNs ∧ 0 < tokens then
        some ((state.endNs.get? conversation).getD 0, tokens / (latencyNs / 10 ^ 9 : ℚ))
      else none
    pairs.mergeSort fun first second => first.1 ≤ second.1

end

/-! ## Recorded tool calls are told apart -/

theorem textKey_injective {key : String} {first second : Option String}
    {firstRest secondRest : List (String × Json)}
    (firstOther : ∀ member ∈ firstRest.head?, member.1 ≠ key)
    (secondOther : ∀ member ∈ secondRest.head?, member.1 ≠ key)
    (same : textKey key first ++ firstRest = textKey key second ++ secondRest) :
    first = second ∧ firstRest = secondRest := by
  cases first with
  | none =>
      cases second with
      | none => exact ⟨rfl, same⟩
      | some text =>
          have isHead : firstRest = (key, .string text) :: secondRest := same
          exact absurd rfl (firstOther (key, .string text) (by rw [isHead]; rfl))
  | some text =>
      cases second with
      | none =>
          have isHead : (key, .string text) :: firstRest = secondRest := same
          exact absurd rfl (secondOther (key, .string text) (by rw [← isHead]; rfl))
      | some other =>
          obtain ⟨sameText, sameRest⟩ := List.cons.inj same
          cases sameText
          exact ⟨rfl, sameRest⟩

theorem callJson_injective : Function.Injective callJson := by
  intro first second same
  obtain ⟨firstId, firstKind, firstName, firstArguments⟩ := first
  obtain ⟨secondId, secondKind, secondName, secondArguments⟩ := second
  simp only [callJson, Json.object.injEq] at same
  obtain ⟨rfl, rest⟩ := textKey_injective (by simp) (by simp) same
  simp only [List.cons.injEq, Prod.mk.injEq, Json.string.injEq, Json.object.injEq, true_and,
    and_true] at rest
  obtain ⟨rfl, function⟩ := rest
  obtain ⟨rfl, rest⟩ := textKey_injective (by simp) (by simp) function
  simp only [List.cons.injEq, Prod.mk.injEq, Json.string.injEq, true_and, and_true] at rest
  rw [rest]

theorem partialJson_injective : Function.Injective partialJson := by
  intro first second same
  obtain ⟨firstIndex, firstId, firstKind, firstName, firstArguments⟩ := first
  obtain ⟨secondIndex, secondId, secondKind, secondName, secondArguments⟩ := second
  simp only [partialJson, Json.object.injEq, List.cons_append, List.cons.injEq, Prod.mk.injEq,
    Json.int.injEq, Nat.cast_inj, true_and, List.append_assoc] at same
  obtain ⟨rfl, keys⟩ := same
  have typeOrFunction : ∀ (kind : Option String) (function : Json),
      ∀ member ∈ (textKey "type" kind ++ [("function", function)]).head?, member.1 ≠ "id" := by
    intro kind function
    cases kind <;> simp [textKey]
  obtain ⟨rfl, afterId⟩ := textKey_injective (typeOrFunction _ _) (typeOrFunction _ _) keys
  obtain ⟨rfl, function⟩ := textKey_injective (by simp) (by simp) afterId
  simp only [List.cons.injEq, Prod.mk.injEq, Json.object.injEq, true_and, and_true] at function
  have argumentsOnly : ∀ arguments : Option String,
      ∀ member ∈ (textKey "arguments" arguments).head?, member.1 ≠ "name" := by
    intro arguments
    cases arguments <;> simp [textKey]
  obtain ⟨rfl, afterName⟩ := textKey_injective (argumentsOnly _) (argumentsOnly _) function
  have noRest : ∀ member ∈ ([] : List (String × Json)).head?, member.1 ≠ "arguments" := by simp
  obtain ⟨rfl, -⟩ := textKey_injective noRest noRest (by simpa using afterName)
  rfl

/-- Tool calls that are there are recorded differently if they are different. -/
theorem toolCallsJson_injective {first second : ToolCalls} (firstSome : first.truthy = true)
    (secondSome : second.truthy = true) (same : toolCallsJson first = toolCallsJson second) :
    first = second := by
  cases first with
  | complete firstCalls =>
      cases second with
      | complete secondCalls =>
          simp only [toolCallsJson, Json.array.injEq] at same
          rw [List.map_injective_iff.mpr callJson_injective same]
      | streamed chunks =>
          cases firstCalls with
          | nil => cases firstSome
          | cons call calls =>
              cases chunks with
              | nil => cases secondSome
              | cons chunk chunks => simp [toolCallsJson, callJson] at same
  | streamed firstChunks =>
      cases second with
      | complete calls =>
          cases firstChunks with
          | nil => cases firstSome
          | cons chunk chunks =>
              cases calls with
              | nil => cases secondSome
              | cons call calls => simp [toolCallsJson, callJson] at same
      | streamed secondChunks =>
          simp only [toolCallsJson, Json.array.injEq] at same
          have chunkInjective : Function.Injective
              fun chunk : List ToolCallPartial => Json.array (chunk.map partialJson) := by
            intro firstChunk secondChunk sameChunk
            simp only [Json.array.injEq] at sameChunk
            exact List.map_injective_iff.mpr partialJson_injective sameChunk
          rw [List.map_injective_iff.mpr chunkInjective same]

/-! ## Recorded tool calls are read back -/

theorem readBack_callJson (floatRepr : String → String) (call : ToolCall) :
    Json.Clean floatRepr (callJson call) ∧
      Json.normal floatRepr (callJson call) = callJson call := by
  obtain ⟨id, kind, name, arguments⟩ := call
  cases id <;> cases name <;>
    simp [callJson, textKey, Json.Clean, Json.CleanMembers, Json.normal, Json.normalMembers]

theorem readBack_partialJson (floatRepr : String → String) (fragment : ToolCallPartial) :
    Json.Clean floatRepr (partialJson fragment) ∧
      Json.normal floatRepr (partialJson fragment) = partialJson fragment := by
  obtain ⟨index, id, kind, name, arguments⟩ := fragment
  cases id <;> cases kind <;> cases name <;> cases arguments <;>
    simp [partialJson, textKey, Json.Clean, Json.CleanMembers, Json.normal, Json.normalMembers]

theorem readBack_array {floatRepr : String → String} {items : List Json}
    (readBack : ∀ item ∈ items, Json.Clean floatRepr item ∧ Json.normal floatRepr item = item) :
    Json.Clean floatRepr (.array items) ∧
      Json.normal floatRepr (.array items) = .array items := by
  constructor
  · rw [Json.Clean, Json.cleanItems_iff]
    exact fun item member => (readBack item member).1
  · have same : Json.normalItems floatRepr items = items := by
      induction items with
      | nil => rw [Json.normalItems]
      | cons item items ih =>
          rw [Json.normalItems, (readBack item (by simp)).2,
            ih fun later member => readBack later (List.mem_cons_of_mem item member)]
    rw [Json.normal, same]

theorem readBack_toolCallsJson (floatRepr : String → String) (calls : ToolCalls) :
    Json.Clean floatRepr (toolCallsJson calls) ∧
      Json.normal floatRepr (toolCallsJson calls) = toolCallsJson calls := by
  cases calls with
  | complete calls =>
      apply readBack_array
      intro item member
      obtain ⟨call, -, rfl⟩ := List.mem_map.mp member
      exact readBack_callJson floatRepr call
  | streamed chunks =>
      apply readBack_array
      intro item member
      obtain ⟨chunk, -, rfl⟩ := List.mem_map.mp member
      apply readBack_array
      intro part partMem
      obtain ⟨fragment, -, rfl⟩ := List.mem_map.mp partMem
      exact readBack_partialJson floatRepr fragment

/-- The printed tool calls tell them apart. -/
theorem dumps_toolCallsJson_injective {floatRepr : String → String} {first second : ToolCalls}
    (firstSome : first.truthy = true) (secondSome : second.truthy = true)
    (same : Json.dumps floatRepr (toolCallsJson first) =
      Json.dumps floatRepr (toolCallsJson second)) : first = second := by
  obtain ⟨firstClean, firstNormal⟩ := readBack_toolCallsJson floatRepr first
  obtain ⟨secondClean, secondNormal⟩ := readBack_toolCallsJson floatRepr second
  have loaded := Json.loads_dumps firstClean
  rw [same, Json.loads_dumps secondClean, firstNormal, secondNormal] at loaded
  exact toolCallsJson_injective firstSome secondSome (Option.some_inj.mp loaded).symm

/-- Printed tool calls are not empty. -/
theorem dumps_toolCallsJson_ne_empty (floatRepr : String → String) (calls : ToolCalls) :
    Json.dumps floatRepr (toolCallsJson calls) ≠ "" := by
  obtain ⟨clean, -⟩ := readBack_toolCallsJson floatRepr calls
  obtain ⟨head, tail, starts, -⟩ := Json.dumps_starts clean.readable
  intro empty
  rw [empty] at starts
  cases starts

/-! ## The three renderings -/

def joinedReasoning (result : TextModelOutput) : String :=
  joinStrings (result.reasoning.elim [] OutputElem.parts)

def joinedContent (result : TextModelOutput) : String :=
  joinStrings result.output.parts

/-- The tool calls, if Python takes them for true. -/
def givenToolCalls (result : TextModelOutput) : Option ToolCalls :=
  result.toolCalls.filter ToolCalls.truthy

def recordedToolCalls (floatRepr : String → String) (result : TextModelOutput) : String :=
  ((givenToolCalls result).map fun calls => Json.dumps floatRepr (toolCallsJson calls)).getD ""

theorem str_eq (encode : List ToolCall → String) (result : TextModelOutput) :
    result.str encode = joinedReasoning result ++ joinedContent result ++
      renderToolCalls encode (mergeToolCalls result.toolCalls) := by
  have one : ∀ text, joinStrings [text] = text := fun text => by simp [joinStrings]
  unfold TextModelOutput.str renderToolCalls joinedReasoning joinedContent
  rcases mergeToolCalls result.toolCalls with - | (- | ⟨call, calls⟩)
  · simp [joinStrings_append]
  · simp [joinStrings_append]
  · simp [joinStrings_append, one, String.append_assoc]

theorem asMessageParts_reasoning (result : TextModelOutput) :
    result.asMessageParts.reasoning =
      if result.hasReasoning then some (joinedReasoning result) else none := by
  unfold TextModelOutput.asMessageParts TextModelOutput.hasReasoning joinedReasoning
  cases result.reasoning with
  | none => rfl
  | some reasoning =>
      by_cases isTrue : reasoning.truthy = true
      · simp [Option.filter, isTrue]
      · simp [Option.filter, isTrue]

/-- The third field of the recorded array. -/
theorem encodeOutput_fields (result : TextModelOutput) :
    ∃ data, encodeOutput toolCallsJson result = .array data ∧
      data.getD 1 (.string "") = elemJson result.output ∧
      data.getD 2 .null = (result.reasoning.map elemJson).getD .null ∧
      data.getD 3 .null = (result.toolCalls.map toolCallsJson).getD .null := by
  refine ⟨_, rfl, ?_⟩
  by_cases default : result.output = .whole ""
  · cases reasoning : result.reasoning with
    | none =>
        cases calls : result.toolCalls with
        | none => simp [omitDefaults, default, elemJson]
        | some calls => simp [omitDefaults]
    | some reasoning =>
        cases calls : result.toolCalls with
        | none => simp [omitDefaults]
        | some calls => simp [omitDefaults]
  · cases reasoning : result.reasoning with
    | none =>
        cases calls : result.toolCalls with
        | none => simp [omitDefaults, default]
        | some calls => simp [omitDefaults]
    | some reasoning =>
        cases calls : result.toolCalls with
        | none => simp [omitDefaults]
        | some calls => simp [omitDefaults]

theorem truthy_toolCallsJson (calls : ToolCalls) :
    truthy (toolCallsJson calls) = calls.truthy := by
  cases calls with
  | complete calls => cases calls <;> rfl
  | streamed chunks => cases chunks <;> rfl

theorem joined_listed (printer : Printer) (elem : OutputElem) :
    joinStrings ((if truthy (elemJson elem) then listed (elemJson elem) else []).map
      (partText printer)) = joinStrings elem.parts := by
  cases elem with
  | whole text =>
      by_cases empty : text = ""
      · simp [elemJson, truthy, empty, OutputElem.parts, joinStrings]
      · simp [elemJson, truthy, empty, OutputElem.parts, listed, partText]
  | chunks parts =>
      cases parts with
      | nil => rfl
      | cons part parts =>
          have texts : ∀ parts : List String, (parts.map Json.string).map (partText printer) =
              parts := by
            intro parts
            rw [List.map_map]
            exact List.map_id parts
          rw [elemJson, truthy, List.map_cons, List.isEmpty_cons]
          simp only [Bool.not_false, if_true, listed, OutputElem.parts]
          rw [← List.map_cons, texts]

theorem fullOutputText_encodeOutput (printer : Printer) (result : TextModelOutput) :
    fullOutputText printer (encodeOutput toolCallsJson result) =
      joinedReasoning result ++ joinedContent result ++
        recordedToolCalls printer.floatRepr result := by
  obtain ⟨data, encoded, output, reasoning, toolCalls⟩ := encodeOutput_fields result
  have reasoningText : joinStrings ((if truthy ((result.reasoning.map elemJson).getD .null) then
      listed ((result.reasoning.map elemJson).getD .null) else []).map (partText printer)) =
      joinedReasoning result := by
    unfold joinedReasoning
    cases result.reasoning with
    | none => rfl
    | some reasoning => exact joined_listed printer reasoning
  have callsText : joinStrings ((if truthy ((result.toolCalls.map toolCallsJson).getD .null) then
      [.string (Json.dumps printer.floatRepr ((result.toolCalls.map toolCallsJson).getD .null))]
      else []).map (partText printer)) = recordedToolCalls printer.floatRepr result := by
    unfold recordedToolCalls givenToolCalls
    cases result.toolCalls with
    | none => rfl
    | some calls =>
        simp only [Option.map_some, Option.getD_some, truthy_toolCallsJson, Option.filter]
        cases calls.truthy <;> simp [partText, joinStrings]
  rw [encoded, fullOutputText]
  simp only [output, reasoning, toolCalls, List.map_append, joinStrings_append, reasoningText,
    callsText, joined_listed]
  rfl

/-! ## Logs with the same texts -/

/-- The same line with another output, of which the replay takes the same text. -/
def SameText (printer : Printer) (first second : LogLine) : Prop :=
  second = { first with data := second.data } ∧
    fullOutputText printer first.data = fullOutputText printer second.data

theorem addLine_sameText {printer : Printer} {first second : LogLine}
    (same : SameText printer first second) (countTokens : List String → List Nat)
    (flushSize : Nat) (state : Trajectories) :
    addLine printer countTokens flushSize state first =
      addLine printer countTokens flushSize state second := by
  obtain ⟨fields, texts⟩ := same
  rw [fields]
  simp only [addLine, addComplete, texts]

theorem trajectories_sameText {printer : Printer} {first second : List LogLine}
    (same : List.Forall₂ (SameText printer) first second) (countTokens : List String → List Nat)
    (flushSize : Nat) :
    trajectories printer countTokens flushSize first =
      trajectories printer countTokens flushSize second := by
  unfold trajectories
  congr 1
  generalize ({} : Trajectories) = state
  induction same generalizing state with
  | nil => rfl
  | cons line lines ih =>
      rw [List.foldlM_cons, List.foldlM_cons, addLine_sameText line]
      congr 1
      funext state
      exact ih state

/-! ## Two deliveries of one answer -/

structure SameAnswer (first second : TextModelOutput) : Prop where
  reasoning : joinedReasoning first = joinedReasoning second
  content : joinedContent first = joinedContent second
  toolCalls : mergeToolCalls first.toolCalls = mergeToolCalls second.toolCalls

structure RendersAlike (printer : Printer) (first second : TextModelOutput) : Prop where
  str : ∀ encode, first.str encode = second.str encode
  messageParts : first.asMessageParts = second.asMessageParts
  replay : fullOutputText printer (encodeOutput toolCallsJson first) =
    fullOutputText printer (encodeOutput toolCallsJson second)
  trajectories : ∀ countTokens flushSize (before after : List LogLine) (line : LogLine),
    trajectories printer countTokens flushSize
        (before ++ { line with data := encodeOutput toolCallsJson first } :: after) =
      trajectories printer countTokens flushSize
        (before ++ { line with data := encodeOutput toolCallsJson second } :: after)

/-- The replay tells all tool calls apart that are there. -/
theorem givenToolCalls_of_replay {printer : Printer} {first second : TextModelOutput}
    (same : SameAnswer first second)
    (replay : fullOutputText printer (encodeOutput toolCallsJson first) =
      fullOutputText printer (encodeOutput toolCallsJson second)) :
    givenToolCalls first = givenToolCalls second := by
  rw [fullOutputText_encodeOutput, fullOutputText_encodeOutput, same.reasoning, same.content,
    String.append_right_inj] at replay
  unfold recordedToolCalls at replay
  cases isFirst : givenToolCalls first with
  | none =>
      cases isSecond : givenToolCalls second with
      | none => rfl
      | some calls =>
          rw [isFirst, isSecond] at replay
          exact absurd replay.symm (dumps_toolCallsJson_ne_empty _ calls)
  | some firstCalls =>
      cases isSecond : givenToolCalls second with
      | none =>
          rw [isFirst, isSecond] at replay
          exact absurd replay (dumps_toolCallsJson_ne_empty _ firstCalls)
      | some secondCalls =>
          rw [isFirst, isSecond] at replay
          have firstSome := (Option.filter_eq_some_iff.mp isFirst).2
          have secondSome := (Option.filter_eq_some_iff.mp isSecond).2
          rw [dumps_toolCallsJson_injective firstSome secondSome replay]

theorem hasReasoning_of_messageParts {first second : TextModelOutput}
    (same : first.asMessageParts = second.asMessageParts) :
    first.hasReasoning = second.hasReasoning := by
  have reasoning := congrArg MessageInput.reasoning same
  rw [asMessageParts_reasoning, asMessageParts_reasoning] at reasoning
  cases isFirst : first.hasReasoning <;> cases isSecond : second.hasReasoning <;>
    simp [isFirst, isSecond] at reasoning ⊢

theorem replay_of_givenToolCalls (printer : Printer) {first second : TextModelOutput}
    (same : SameAnswer first second) (given_ : givenToolCalls first = givenToolCalls second) :
    fullOutputText printer (encodeOutput toolCallsJson first) =
      fullOutputText printer (encodeOutput toolCallsJson second) := by
  rw [fullOutputText_encodeOutput, fullOutputText_encodeOutput, same.reasoning, same.content,
    recordedToolCalls, recordedToolCalls, given_]

end OutputText

end InferenceEndpoint
