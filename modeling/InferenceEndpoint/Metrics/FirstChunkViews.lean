import InferenceEndpoint.Library.Json
import InferenceEndpoint.Metrics.Tokenization

/-!
# What follows the first chunk

Three functions take the first chunk off an output: the text and the message parts of a
`TextModelOutput`, and the text that the replay takes from the recorded JSON array.  Each is
written out as its source has it; they agree on every output.
-/

namespace InferenceEndpoint

namespace FirstChunkViews

/-- The reasoning field is a tuple. -/
def tupleReasoning (result : TextModelOutput) : Bool :=
  result.reasoning.any OutputElem.isTuple

/-! ## The text -/

/-- The `parts` of `text_after_first_chunk` once the reasoning is handled. -/
def reasoningParts (result : TextModelOutput) : List String :=
  if result.hasReasoning then
    match result.reasoning with
    | some (.chunks chunks) => if 1 < chunks.length then chunks.drop 1 else []
    -- a string is a single chunk, the first one
    | _ => []
  else []

/-- The `parts` of `text_after_first_chunk` once the output is handled. -/
def textParts (result : TextModelOutput) : List String :=
  let parts := reasoningParts result
  if result.output.truthy then
    match result.output with
    | .whole text =>
        if !parts.isEmpty || (result.hasReasoning && tupleReasoning result) then
          parts ++ [text]
        else parts
    | .chunks chunks =>
        if !parts.isEmpty || result.hasReasoning then parts ++ chunks
        else if 1 < chunks.length then parts ++ chunks.drop 1
        else parts
  else parts

/-- The rendering of merged tool calls; `encode` is the JSON encoder. -/
def renderToolCalls (encode : List ToolCall → String) : Option (List ToolCall) → String
  | some (call :: calls) => encode (call :: calls)
  | _ => ""

/-- `TextModelOutput.text_after_first_chunk`. -/
def textAfterFirstChunk (encode : List ToolCall → String) (result : TextModelOutput) : String :=
  joinStrings (textParts result) ++ renderToolCalls encode (mergeToolCalls result.toolCallsTail)

/-! ## The message parts -/

def reasoningAfter (result : TextModelOutput) : Option String :=
  match result.reasoning with
  | some (.chunks chunks) =>
      if 1 < chunks.length then some (joinStrings (chunks.drop 1)) else none
  | _ => none

def contentAfter (result : TextModelOutput) : String :=
  let hasReasoningTail := (reasoningAfter result).isSome
  if result.output.truthy then
    match result.output with
    | .whole text =>
        if hasReasoningTail || (result.hasReasoning && tupleReasoning result) then text else ""
    | .chunks chunks =>
        if hasReasoningTail || result.hasReasoning then joinStrings chunks
        else if 1 < chunks.length then joinStrings (chunks.drop 1)
        else ""
  else ""

/-- `TextModelOutput.as_message_parts_after_first_chunk`. -/
def asMessagePartsAfterFirstChunk (result : TextModelOutput) : MessageInput where
  content := contentAfter result
  reasoning := reasoningAfter result
  toolCalls := mergeToolCalls result.toolCallsTail

/-! ## The replayed text -/

/-- Python truth value; a float is zero if all its digits before the exponent are. -/
def truthy : Json → Bool
  | .null => false
  | .bool value => value
  | .int value => value ≠ 0
  | .float literal =>
      (literal.toList.takeWhile fun char => char ≠ 'e' ∧ char ≠ 'E').any fun char =>
        '1' ≤ char ∧ char ≤ '9'
  | .string text => text ≠ ""
  | .array items => !items.isEmpty
  | .object members => !members.isEmpty

/-- `"".join(parts)`; `none` is a `TypeError`. -/
def joinJson : List Json → Option String
  | [] => some ""
  | .string text :: parts => (joinJson parts).map (text ++ ·)
  | _ :: _ => none

/-- The parts that the replay takes from the reasoning. -/
def replayReasoning : Json → List Json
  | .array chunks => if 1 < chunks.length then chunks.drop 1 else []
  | _ => []

/-- `text_after_first_chunk` of the replay. -/
def replayText : Json → Option String
  | .array [] => some ""
  | .array data =>
      let output := data.getD 1 (.string "")
      let reasoning := data.getD 2 .null
      let parts := if truthy reasoning then replayReasoning reasoning else []
      let isList := match reasoning with
        | .array _ => true
        | _ => false
      joinJson
        (if truthy output then
          match output with
          | .string _ =>
              if !parts.isEmpty || (truthy reasoning && isList) then parts ++ [output] else parts
          | .array chunks =>
              if !parts.isEmpty || truthy reasoning then parts ++ chunks
              else if 1 < chunks.length then parts ++ chunks.drop 1
              else parts
          | _ => parts
        else parts)
  | _ => some ""

/-! ## The recorded array -/

def elemJson : OutputElem → Json
  | .whole text => .string text
  | .chunks parts => .array (parts.map .string)

/-- The fields up to the last one that does not have its default. -/
def omitDefaults (fields : List (Json × Bool)) : List Json :=
  (fields.reverse.dropWhile Prod.snd).reverse.map Prod.fst

/-- The output as msgspec encodes it: the tag and the fields, without defaults at the end. -/
def encodeOutput (encodeToolCalls : ToolCalls → Json) (result : TextModelOutput) : Json :=
  .array (.string "TextModelOutput" :: omitDefaults
    [(elemJson result.output, result.output = .whole ""),
      ((result.reasoning.map elemJson).getD .null, result.reasoning.isNone),
      ((result.toolCalls.map encodeToolCalls).getD .null, result.toolCalls.isNone)])

/-! ## Agreement -/

theorem joinStrings_append (first second : List String) :
    joinStrings (first ++ second) = joinStrings first ++ joinStrings second := by
  induction first with
  | nil => simp [joinStrings]
  | cons part first ih => simp [joinStrings, ih, String.append_assoc]

theorem joinJson_strings (parts : List String) :
    joinJson (parts.map .string) = some (joinStrings parts) := by
  induction parts with
  | nil => rfl
  | cons part parts ih => simp [joinJson, joinStrings, ih]

theorem truthy_elemJson (elem : OutputElem) : truthy (elemJson elem) = elem.truthy := by
  cases elem with
  | whole text => rfl
  | chunks parts => simp [truthy, elemJson, OutputElem.truthy]

/-- The reasoning after its first chunk is there exactly if the text has parts of it. -/
theorem reasoningAfter_eq (result : TextModelOutput) :
    reasoningAfter result =
      if (reasoningParts result).isEmpty then none
      else some (joinStrings (reasoningParts result)) := by
  unfold reasoningAfter reasoningParts TextModelOutput.hasReasoning
  rcases result.reasoning with - | (text | (- | ⟨first, - | ⟨second, rest⟩⟩))
  · rfl
  · simp
  · rfl
  · rfl
  · simp [OutputElem.truthy]

theorem joinStrings_reasoningParts (result : TextModelOutput) :
    joinStrings (reasoningParts result) = (reasoningAfter result).getD "" := by
  rw [reasoningAfter_eq]
  cases reasoningParts result with
  | nil => rfl
  | cons part parts => rfl

theorem joinStrings_textParts (result : TextModelOutput) :
    joinStrings (textParts result) =
      (reasoningAfter result).getD "" ++ contentAfter result := by
  have tail : (reasoningAfter result).isSome = !(reasoningParts result).isEmpty := by
    rw [reasoningAfter_eq]
    cases reasoningParts result <;> rfl
  rw [← joinStrings_reasoningParts]
  unfold textParts contentAfter
  rw [tail]
  dsimp only
  have one : ∀ text, joinStrings [text] = text := fun text => by simp [joinStrings]
  split
  · split
    · split <;> simp [joinStrings_append, one]
    · split
      · rw [joinStrings_append]
      · split <;> simp [joinStrings_append]
  · rw [String.append_empty]

/-- Without the JSON around it, the replay sees the fields themselves. -/
theorem replayText_fields (encodeToolCalls : ToolCalls → Json) (result : TextModelOutput) :
    ∃ tag rest, encodeOutput encodeToolCalls result = .array (tag :: rest) ∧
      rest.getD 0 (.string "") = elemJson result.output ∧
      rest.getD 1 .null = (result.reasoning.map elemJson).getD .null := by
  refine ⟨_, _, rfl, ?_⟩
  by_cases default : result.output = .whole ""
  · cases reasoning : result.reasoning with
    | none =>
        cases calls : result.toolCalls with
        | none => simp [omitDefaults, default, elemJson]
        | some calls => simp [omitDefaults]
    | some reasoning =>
        cases calls : result.toolCalls with
        | none => simp [omitDefaults]
        | some calls => simp [omitDefaults]
  · cases reasoning : result.reasoning with
    | none =>
        cases calls : result.toolCalls with
        | none => simp [omitDefaults, default]
        | some calls => simp [omitDefaults]
    | some reasoning =>
        cases calls : result.toolCalls with
        | none => simp [omitDefaults]
        | some calls => simp [omitDefaults]

theorem replayText_encodeOutput (encodeToolCalls : ToolCalls → Json) (result : TextModelOutput) :
    replayText (encodeOutput encodeToolCalls result) = some (joinStrings (textParts result)) := by
  obtain ⟨tag, rest, encoded, output, reasoning⟩ := replayText_fields encodeToolCalls result
  have outputAt : (tag :: rest).getD 1 (.string "") = elemJson result.output := output
  have reasoningAt : (tag :: rest).getD 2 .null =
      (result.reasoning.map elemJson).getD .null := reasoning
  have truthyReasoning : truthy ((result.reasoning.map elemJson).getD .null) =
      result.hasReasoning := by
    unfold TextModelOutput.hasReasoning
    cases result.reasoning with
    | none => rfl
    | some elem => exact truthy_elemJson elem
  have parts : (if result.hasReasoning then
      replayReasoning ((result.reasoning.map elemJson).getD .null) else []) =
      (reasoningParts result).map .string := by
    unfold reasoningParts
    rcases result.reasoning with - | (text | chunks)
    · simp [replayReasoning]
    · simp [replayReasoning, elemJson]
    · simp only [Option.map_some, Option.getD_some, elemJson, replayReasoning, List.length_map]
      split
      · split
        · simp
        · rfl
      · rfl
  have isList : (match (result.reasoning.map elemJson).getD .null with
      | .array _ => true
      | _ => false) = tupleReasoning result := by
    unfold tupleReasoning
    rcases result.reasoning with - | (text | chunks) <;> rfl
  have nonempty : ((reasoningParts result).map Json.string).isEmpty =
      (reasoningParts result).isEmpty := by
    cases reasoningParts result <;> rfl
  rw [encoded, replayText]
  · simp only [outputAt, reasoningAt, truthyReasoning, truthy_elemJson, parts, isList, nonempty]
    rw [← joinJson_strings]
    congr 1
    unfold textParts
    dsimp only
    split
    · cases result.output with
      | whole text =>
          simp only [elemJson]
          split
          · simp
          · rfl
      | chunks chunks =>
          simp only [elemJson, List.length_map]
          split
          · simp
          · split
            · simp
            · rfl
    · rfl
  · simp

/-- The three views agree: the text is the reasoning and the content of the message parts and
the rendering of its tool calls, and without tool calls it is what the replay takes. -/
theorem views_agree (encode : List ToolCall → String) (encodeToolCalls : ToolCalls → Json)
    (result : TextModelOutput) :
    let parts := asMessagePartsAfterFirstChunk result
    textAfterFirstChunk encode result =
        parts.reasoning.getD "" ++ parts.content ++ renderToolCalls encode parts.toolCalls ∧
      (result.hasToolCalls = false →
        replayText (encodeOutput encodeToolCalls result) =
          some (textAfterFirstChunk encode result)) := by
  refine ⟨?_, fun noToolCalls => ?_⟩
  · rw [textAfterFirstChunk, joinStrings_textParts]
    rfl
  · have nothing : renderToolCalls encode (mergeToolCalls result.toolCallsTail) = "" := by
      revert noToolCalls
      unfold TextModelOutput.hasToolCalls TextModelOutput.toolCallsTail
      rcases result.toolCalls with - | ((- | ⟨call, calls⟩) | (- | ⟨chunk, chunks⟩))
      · exact fun _ => rfl
      · exact fun _ => rfl
      · exact fun truthy => nomatch truthy
      · intro
        dsimp only
        split <;> rfl
      · exact fun truthy => nomatch truthy
    rw [replayText_encodeOutput, textAfterFirstChunk, nothing, String.append_empty]

/-- Reasoning in two chunks and an output in one: all but the first chunk is left. -/
theorem views_agree_reasoning :
    let result : TextModelOutput :=
      { output := .chunks ["c"], reasoning := some (.chunks ["a", "b"]) }
    replayText (encodeOutput (fun _ => .null) result) =
      some (textAfterFirstChunk (fun _ => "") result) :=
  (views_agree (fun _ => "") (fun _ => .null) _).2 rfl

/-! ## The closed forms -/

theorem reasoningParts_eq (result : TextModelOutput) :
    reasoningParts result = result.reasoningTail := by
  unfold reasoningParts TextModelOutput.reasoningTail TextModelOutput.hasReasoning
  rcases result.reasoning with - | (text | (- | ⟨first, - | ⟨second, rest⟩⟩))
  · rfl
  · simp
  · rfl
  · rfl
  · simp [OutputElem.truthy]

theorem textParts_eq (result : TextModelOutput) :
    textParts result = result.reasoningTail ++ result.outputTail := by
  have tail : (!(reasoningParts result).isEmpty) = true → result.hasReasoning = true := by
    unfold reasoningParts
    cases result.hasReasoning
    · simp
    · exact fun _ => rfl
  have tuple : (!(reasoningParts result).isEmpty) = true → tupleReasoning result = true := by
    unfold reasoningParts tupleReasoning
    rcases result.reasoning with - | (text | chunks)
    · simp
    · simp
    · exact fun _ => rfl
  unfold textParts TextModelOutput.outputTail
  rw [← reasoningParts_eq]
  dsimp only
  cases result.output with
  | whole text =>
      by_cases empty : text = ""
      · simp [empty, OutputElem.truthy]
      · have both : (!(reasoningParts result).isEmpty || (result.hasReasoning &&
            tupleReasoning result)) = (result.hasReasoning && tupleReasoning result) := by
          cases present : !(reasoningParts result).isEmpty with
          | false => rfl
          | true => rw [tail present, tuple present]; rfl
        rw [both]
        simp only [OutputElem.truthy, ne_eq, empty, not_false_eq_true, decide_true, if_true,
          Bool.and_true]
        rw [tupleReasoning]
        split <;> simp
  | chunks chunks =>
      have either : (!(reasoningParts result).isEmpty || result.hasReasoning) =
          result.hasReasoning := by
        cases present : !(reasoningParts result).isEmpty with
        | false => rfl
        | true => rw [tail present]; rfl
      rw [either]
      rcases chunks with - | ⟨first, - | ⟨second, rest⟩⟩
      · simp [OutputElem.truthy]
      · simp only [OutputElem.truthy, List.isEmpty_cons, Bool.not_false, if_true]
        split <;> simp
      · simp only [OutputElem.truthy, List.isEmpty_cons, Bool.not_false, if_true]
        split <;> simp

/-- The text as the metrics and the scripts take it. -/
theorem textAfterFirstChunk_eq (encode : List ToolCall → String) (result : TextModelOutput) :
    textAfterFirstChunk encode result = result.textAfterFirstChunk encode := by
  rw [textAfterFirstChunk, TextModelOutput.textAfterFirstChunk, textParts_eq]
  rcases mergeToolCalls result.toolCallsTail with - | (- | ⟨call, calls⟩)
  · exact String.append_empty
  · exact String.append_empty
  · dsimp only
    rw [joinStrings_append (result.reasoningTail ++ result.outputTail)]
    simp [renderToolCalls, joinStrings]

/-- The message parts as the aggregator takes them. -/
theorem asMessagePartsAfterFirstChunk_eq (result : TextModelOutput) :
    asMessagePartsAfterFirstChunk result = result.asMessagePartsAfterFirstChunk := by
  have reasoning : reasoningAfter result = result.asMessagePartsAfterFirstChunk.reasoning := by
    rw [reasoningAfter_eq, reasoningParts_eq]
    rfl
  have content : contentAfter result = joinStrings result.outputTail := by
    have text := joinStrings_textParts result
    rw [← joinStrings_reasoningParts, textParts_eq, reasoningParts_eq, joinStrings_append] at text
    exact (String.append_right_inj _).mp text.symm
  rw [asMessagePartsAfterFirstChunk, reasoning, content]
  rfl

end FirstChunkViews

end InferenceEndpoint
