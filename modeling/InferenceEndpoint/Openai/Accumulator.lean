import InferenceEndpoint.Metrics.FirstChunkViews

/-!
# OpenAI accumulator

`OpenAISSEAccumulator` collects the deltas of a streamed response.  Tool calls are taken from
every delta, but content and reasoning stand in one chain of cases: a delta with content
gives up its reasoning.
-/

namespace InferenceEndpoint

structure SseDelta where
  role : Option String := none
  content : Option String := none
  reasoningContent : Option String := none
  reasoning : Option String := none
  toolCalls : Option (List ToolCallPartial) := none
  deriving DecidableEq, Repr

structure SseChoice where
  delta : Option SseDelta := none
  finishReason : Option String := none
  deriving DecidableEq, Repr

/-- `OpenAISSEAccumulator`. -/
structure OpenAISseAccumulator where
  queryId : QueryId
  streamAllChunks : Bool
  outputChunks : List String := []
  reasoningChunks : List String := []
  toolCallChunks : List (List ToolCallPartial) := []
  finishReason : Option String := none
  firstChunkSent : Bool := false
  deriving DecidableEq, Repr

/-- The final result with the metadata that goes with it. -/
structure FinalOutput where
  id : QueryId
  responseOutput : TextModelOutput
  firstChunk : Bool
  finalChunk : Bool := true
  finishReason : Option String
  toolCalls : Option (List ToolCall)
  deriving DecidableEq, Repr

namespace SseDelta

/-- `delta.reasoning_content or delta.reasoning`, if it is not empty. -/
def reasoningText (delta : SseDelta) : Option String :=
  (nonEmptyText delta.reasoningContent).or (nonEmptyText delta.reasoning)

/-- The tool-call fragments, if there are any. -/
def toolChunk (delta : SseDelta) : List (List ToolCallPartial) :=
  match delta.toolCalls with
  | some (call :: calls) => [call :: calls]
  | _ => []

end SseDelta

namespace OpenAISseAccumulator

/-- The end of `add_chunk` for a text. -/
def emit (acc : OpenAISseAccumulator) (content : String) :
    OpenAISseAccumulator × Option StreamChunk :=
  if acc.streamAllChunks || !acc.firstChunkSent then
    ({ acc with firstChunkSent := true },
      some { id := acc.queryId, responseChunk := content, firstChunk := !acc.firstChunkSent })
  else (acc, none)

/-- `add_chunk` from the delta on. -/
def addDelta (acc : OpenAISseAccumulator) (delta : SseDelta) :
    OpenAISseAccumulator × Option StreamChunk :=
  let called := { acc with toolCallChunks := acc.toolCallChunks ++ delta.toolChunk }
  match nonEmptyText delta.content with
  | some content =>
      emit { called with outputChunks := called.outputChunks ++ [content] } content
  | none =>
      match delta.reasoningText with
      | some reasoning =>
          emit { called with reasoningChunks := called.reasoningChunks ++ [reasoning] } reasoning
      | none =>
          if !delta.toolChunk.isEmpty && !called.firstChunkSent then
            ({ called with firstChunkSent := true },
              some { id := called.queryId, responseChunk := "", firstChunk := true })
          else (called, none)

/-- `add_chunk`. -/
def addChunk (acc : OpenAISseAccumulator) :
    Option SseChoice → OpenAISseAccumulator × Option StreamChunk
  | none => (acc, none)
  | some choice =>
      let finished :=
        match nonEmptyText choice.finishReason with
        | some reason => { acc with finishReason := some reason }
        | none => acc
      match choice.delta with
      | none => (finished, none)
      | some delta => finished.addDelta delta

/-- The deltas one after the other, with the chunks that they give. -/
def addChunks (acc : OpenAISseAccumulator) :
    List (Option SseChoice) → OpenAISseAccumulator × List StreamChunk
  | [] => (acc, [])
  | choice :: choices =>
      let (next, chunk) := acc.addChunk choice
      let (final, chunks) := addChunks next choices
      (final, chunk.toList ++ chunks)

/-- A first piece, and the others joined. -/
def firstAndRest : List String → List String
  | [] => []
  | [first] => [first]
  | first :: rest => [first, joinStrings rest]

/-- The `text_output` of `get_final_output`. -/
def textOutput (acc : OpenAISseAccumulator) : TextModelOutput :=
  let toolCalls := if acc.toolCallChunks.isEmpty then none else some (.streamed acc.toolCallChunks)
  if !acc.reasoningChunks.isEmpty then
    { output := .whole (joinStrings acc.outputChunks)
      reasoning := some (.chunks (firstAndRest acc.reasoningChunks))
      toolCalls := toolCalls }
  else if !acc.outputChunks.isEmpty then
    { output := .chunks (firstAndRest acc.outputChunks), toolCalls := toolCalls }
  else { output := .chunks [], toolCalls := toolCalls }

/-- `get_final_output`. -/
def getFinalOutput (acc : OpenAISseAccumulator) : FinalOutput where
  id := acc.queryId
  responseOutput := acc.textOutput
  firstChunk := !acc.firstChunkSent
  finishReason := acc.finishReason
  toolCalls :=
    match acc.textOutput.asMessageParts.toolCalls with
    | some (call :: calls) => some (call :: calls)
    | _ => none

end OpenAISseAccumulator

/-! ## What the deltas carry -/

/-- The deltas of a stream. -/
def deltasOf (choices : List (Option SseChoice)) : List SseDelta :=
  choices.filterMap fun choice => choice.bind SseChoice.delta

namespace SseDelta

def contentPieces (delta : SseDelta) : List String :=
  (nonEmptyText delta.content).toList

def reasoningPieces (delta : SseDelta) : List String :=
  delta.reasoningText.toList

/-- The reasoning that the accumulator takes. -/
def keptReasoning (delta : SseDelta) : List String :=
  if delta.contentPieces.isEmpty then delta.reasoningPieces else []

/-- A chunk can be emitted for the delta. -/
def carries (delta : SseDelta) : Bool :=
  !(delta.contentPieces.isEmpty && delta.reasoningPieces.isEmpty && delta.toolChunk.isEmpty)

theorem nonEmptyText_ne {text : Option String} {piece : String}
    (some_ : nonEmptyText text = some piece) : piece ≠ "" := by
  cases text with
  | none => simp [nonEmptyText] at some_
  | some text =>
      rw [nonEmptyText] at some_
      split at some_
      · exact nomatch some_
      · rename_i nonempty
        obtain rfl := Option.some.inj some_
        exact nonempty

theorem reasoningPieces_ne {delta : SseDelta} {piece : String}
    (member : piece ∈ delta.reasoningPieces) : piece ≠ "" := by
  rw [reasoningPieces, Option.mem_toList, reasoningText, Option.or_eq_some_iff] at member
  rcases member with first | ⟨-, second⟩
  · exact nonEmptyText_ne first
  · exact nonEmptyText_ne second

end SseDelta

namespace OpenAISseAccumulator

/-- What a delta adds to the accumulator. -/
structure Added (acc next : OpenAISseAccumulator) (content reasoning : List String)
    (tools : List (List ToolCallPartial)) (carries : Bool) (chunks : List StreamChunk) : Prop where
  queryId : next.queryId = acc.queryId
  streamAllChunks : next.streamAllChunks = acc.streamAllChunks
  output : next.outputChunks = acc.outputChunks ++ content
  reasoning : next.reasoningChunks = acc.reasoningChunks ++ reasoning
  tools : next.toolCallChunks = acc.toolCallChunks ++ tools
  sent : next.firstChunkSent = (acc.firstChunkSent || carries)
  /-- A chunk is marked as the first one when there was none before. -/
  first : chunks.countP StreamChunk.firstChunk = if !acc.firstChunkSent && carries then 1 else 0
  quiet : carries = false → chunks = []

theorem added_emit (acc : OpenAISseAccumulator) (content : String) :
    Added acc (acc.emit content).1 [] [] [] true (acc.emit content).2.toList := by
  unfold emit
  split
  · rename_i emits
    cases sent : acc.firstChunkSent <;> constructor <;> simp [sent]
  · rename_i quiet
    have sent : acc.firstChunkSent = true := by
      cases sent : acc.firstChunkSent
      · simp [sent] at quiet
      · rfl
    constructor <;> simp [sent]

theorem added_addDelta (acc : OpenAISseAccumulator) (delta : SseDelta) :
    Added acc (acc.addDelta delta).1 delta.contentPieces delta.keptReasoning delta.toolChunk
      delta.carries (acc.addDelta delta).2.toList := by
  unfold addDelta SseDelta.carries SseDelta.keptReasoning SseDelta.contentPieces
    SseDelta.reasoningPieces
  dsimp only
  cases nonEmptyText delta.content with
  | some content =>
      obtain ⟨queryId, streamAllChunks, output, reasoning, tools, sent, first, quiet⟩ :=
        added_emit { acc with
          toolCallChunks := acc.toolCallChunks ++ delta.toolChunk
          outputChunks := acc.outputChunks ++ [content] } content
      exact ⟨queryId, streamAllChunks, by simpa using output, by simpa using reasoning,
        by simpa using tools, by simpa using sent, by simpa using first, by simp⟩
  | none =>
      cases delta.reasoningText with
      | some reasoning =>
          obtain ⟨queryId, streamAllChunks, output, reasoning, tools, sent, first, quiet⟩ :=
            added_emit { acc with
              toolCallChunks := acc.toolCallChunks ++ delta.toolChunk
              reasoningChunks := acc.reasoningChunks ++ [reasoning] } reasoning
          exact ⟨queryId, streamAllChunks, by simpa using output, by simpa using reasoning,
            by simpa using tools, by simpa using sent, by simpa using first, by simp⟩
      | none =>
          cases tools : delta.toolChunk with
          | nil => constructor <;> simp
          | cons chunk rest =>
              cases sent : acc.firstChunkSent <;> constructor <;> simp [sent]

theorem added_addChunk (acc : OpenAISseAccumulator) (choice : Option SseChoice) :
    Added acc (acc.addChunk choice).1 ((deltasOf [choice]).flatMap SseDelta.contentPieces)
      ((deltasOf [choice]).flatMap SseDelta.keptReasoning)
      ((deltasOf [choice]).flatMap SseDelta.toolChunk)
      ((deltasOf [choice]).any SseDelta.carries) (acc.addChunk choice).2.toList := by
  have nothing : ∀ next : OpenAISseAccumulator, next.queryId = acc.queryId →
      next.streamAllChunks = acc.streamAllChunks → next.outputChunks = acc.outputChunks →
      next.reasoningChunks = acc.reasoningChunks → next.toolCallChunks = acc.toolCallChunks →
      next.firstChunkSent = acc.firstChunkSent → Added acc next [] [] [] false [] := by
    intro next queryId streamAllChunks output reasoning tools sent
    constructor <;> simp [queryId, streamAllChunks, output, reasoning, tools, sent]
  rcases choice with - | ⟨- | delta, reason⟩
  · exact nothing acc rfl rfl rfl rfl rfl rfl
  · unfold addChunk
    dsimp only
    split
    · exact nothing _ rfl rfl rfl rfl rfl rfl
    · exact nothing _ rfl rfl rfl rfl rfl rfl
  · have one : deltasOf [some { delta := some delta, finishReason := reason }] = [delta] := rfl
    rw [one]
    simp only [List.flatMap_cons, List.flatMap_nil, List.append_nil, List.any_cons, List.any_nil,
      Bool.or_false]
    unfold addChunk
    dsimp only
    split
    · rename_i finishReason _
      obtain ⟨queryId, streamAllChunks, output, reasoning, tools, sent, first, quiet⟩ :=
        added_addDelta { acc with finishReason := some finishReason } delta
      exact ⟨queryId, streamAllChunks, output, reasoning, tools, sent, first, quiet⟩
    · exact added_addDelta acc delta

/-- A whole stream. -/
theorem added_addChunks (acc : OpenAISseAccumulator) (choices : List (Option SseChoice)) :
    Added acc (acc.addChunks choices).1 ((deltasOf choices).flatMap SseDelta.contentPieces)
      ((deltasOf choices).flatMap SseDelta.keptReasoning)
      ((deltasOf choices).flatMap SseDelta.toolChunk)
      ((deltasOf choices).any SseDelta.carries) (acc.addChunks choices).2 := by
  induction choices generalizing acc with
  | nil => constructor <;> simp [addChunks, deltasOf]
  | cons choice choices ih =>
      have here := added_addChunk acc choice
      have later := ih (acc.addChunk choice).1
      have split : deltasOf (choice :: choices) = deltasOf [choice] ++ deltasOf choices := by
        rw [deltasOf, deltasOf, deltasOf, ← List.filterMap_append]
        rfl
      rw [split]
      simp only [List.flatMap_append, List.any_append, addChunks]
      constructor
      · rw [later.queryId, here.queryId]
      · rw [later.streamAllChunks, here.streamAllChunks]
      · rw [later.output, here.output, List.append_assoc]
      · rw [later.reasoning, here.reasoning, List.append_assoc]
      · rw [later.tools, here.tools, List.append_assoc]
      · rw [later.sent, here.sent, Bool.or_assoc]
      · have early := here.first
        have late := later.first
        rw [here.sent] at late
        rw [List.countP_append, early, late]
        cases acc.firstChunkSent <;> cases (deltasOf [choice]).any SseDelta.carries <;> simp
      · intro quiet
        rw [Bool.or_eq_false_iff] at quiet
        rw [here.quiet quiet.1, later.quiet quiet.2]
        rfl

/-- `OpenAISSEAccumulator(query_id, stream_all_chunks)`. -/
def start (queryId : QueryId) (streamAllChunks : Bool) : OpenAISseAccumulator where
  queryId := queryId
  streamAllChunks := streamAllChunks

theorem joinStrings_firstAndRest (pieces : List String) :
    joinStrings (firstAndRest pieces) = joinStrings pieces := by
  rcases pieces with - | ⟨first, - | ⟨second, rest⟩⟩
  · rfl
  · rfl
  · simp [firstAndRest, joinStrings]

theorem mergeToolCalls_chunks (chunks : List (List ToolCallPartial)) :
    mergeToolCalls (if chunks.isEmpty then none else some (.streamed chunks)) =
      mergeToolCalls (some (.streamed chunks)) := by
  cases chunks <;> rfl

/-- What the output of an accumulator says. -/
theorem asMessageParts_textOutput (acc : OpenAISseAccumulator) :
    acc.textOutput.asMessageParts.content = joinStrings acc.outputChunks ∧
      acc.textOutput.asMessageParts.reasoning.getD "" = joinStrings acc.reasoningChunks ∧
      acc.textOutput.asMessageParts.toolCalls =
        mergeToolCalls (some (.streamed acc.toolCallChunks)) := by
  unfold textOutput TextModelOutput.asMessageParts
  dsimp only
  cases reasoning : acc.reasoningChunks with
  | cons first rest =>
      have truthy : (OutputElem.chunks (firstAndRest (first :: rest))).truthy = true := by
        cases rest <;> rfl
      refine ⟨?_, ?_, ?_⟩
      · simp [OutputElem.parts, joinStrings]
      · simp only [List.isEmpty_cons, Bool.not_false, if_true, Option.filter, truthy,
          Option.map_some, Option.getD_some, OutputElem.parts, joinStrings_firstAndRest]
      · simpa using mergeToolCalls_chunks acc.toolCallChunks
  | nil =>
      cases output : acc.outputChunks with
      | cons first rest =>
          refine ⟨?_, rfl, ?_⟩
          · simp [OutputElem.parts, joinStrings_firstAndRest]
          · simpa using mergeToolCalls_chunks acc.toolCallChunks
      | nil => exact ⟨rfl, rfl, mergeToolCalls_chunks acc.toolCallChunks⟩

end OpenAISseAccumulator

/-! ## Lost text -/

/-- The output has the text and the tool calls of all deltas, and one chunk is the first. -/
structure Lossless (deltas : List SseDelta) (output : TextModelOutput)
    (sent : List StreamChunk) : Prop where
  content : output.asMessageParts.content = joinStrings (deltas.flatMap SseDelta.contentPieces)
  reasoning : output.asMessageParts.reasoning.getD "" =
    joinStrings (deltas.flatMap SseDelta.reasoningPieces)
  toolCalls : output.asMessageParts.toolCalls =
    mergeToolCalls (some (.streamed (deltas.flatMap SseDelta.toolChunk)))
  first : sent ≠ [] → sent.countP StreamChunk.firstChunk = 1

theorem length_joinStrings_append (first second : List String) :
    (joinStrings (first ++ second)).length =
      (joinStrings first).length + (joinStrings second).length := by
  rw [FirstChunkViews.joinStrings_append, String.length_append]

theorem length_keptReasoning (deltas : List SseDelta) :
    (joinStrings (deltas.flatMap SseDelta.keptReasoning)).length ≤
      (joinStrings (deltas.flatMap SseDelta.reasoningPieces)).length := by
  induction deltas with
  | nil => exact le_rfl
  | cons delta deltas ih =>
      rw [List.flatMap_cons, List.flatMap_cons, length_joinStrings_append,
        length_joinStrings_append, SseDelta.keptReasoning]
      split
      · omega
      · simp only [joinStrings, String.length_empty]
        omega

/-- Giving up the reasoning of a delta makes the joined reasoning shorter. -/
theorem keptReasoning_iff (deltas : List SseDelta) :
    joinStrings (deltas.flatMap SseDelta.keptReasoning) =
        joinStrings (deltas.flatMap SseDelta.reasoningPieces) ↔
      ∀ delta ∈ deltas, delta.contentPieces = [] ∨ delta.reasoningPieces = [] := by
  induction deltas with
  | nil => simp
  | cons delta deltas ih =>
      rw [List.flatMap_cons, List.flatMap_cons, List.forall_mem_cons, ← ih,
        FirstChunkViews.joinStrings_append, FirstChunkViews.joinStrings_append]
      by_cases content : delta.contentPieces = []
      · simp [SseDelta.keptReasoning, content, String.append_right_inj]
      · have kept : delta.keptReasoning = [] := by
          rw [SseDelta.keptReasoning, if_neg (by simpa using content)]
        rw [kept]
        cases reasoning : delta.reasoningPieces with
        | nil => simp [joinStrings]
        | cons piece pieces =>
            have nonempty : 0 < piece.length := by
              have different : piece ≠ "" :=
                SseDelta.reasoningPieces_ne (by rw [reasoning]; exact List.mem_cons_self)
              exact Nat.pos_of_ne_zero fun zero => different (String.length_eq_zero_iff.mp zero)
            have shorter := length_keptReasoning deltas
            constructor
            · intro same
              have lengths := congrArg String.length same
              simp only [joinStrings, String.length_append, String.length_empty] at lengths
              omega
            · rintro ⟨either, -⟩
              simp [content] at either

/-- The accumulator loses nothing exactly if no delta has both content and reasoning. -/
theorem lossless_iff (queryId : QueryId) (streamAllChunks : Bool)
    (choices : List (Option SseChoice)) :
    let run := (OpenAISseAccumulator.start queryId streamAllChunks).addChunks choices
    Lossless (deltasOf choices) run.1.getFinalOutput.responseOutput run.2 ↔
      ∀ delta ∈ deltasOf choices, delta.contentPieces = [] ∨ delta.reasoningPieces = [] := by
  have added := OpenAISseAccumulator.added_addChunks
    (OpenAISseAccumulator.start queryId streamAllChunks) choices
  obtain ⟨content, reasoning, toolCalls⟩ := OpenAISseAccumulator.asMessageParts_textOutput
    ((OpenAISseAccumulator.start queryId streamAllChunks).addChunks choices).1
  rw [added.output] at content
  rw [added.reasoning] at reasoning
  rw [added.tools] at toolCalls
  rw [← keptReasoning_iff]
  constructor
  · intro lossless
    exact reasoning.symm.trans lossless.reasoning
  · intro same
    refine ⟨content, reasoning.trans same, toolCalls, fun nonempty => ?_⟩
    rw [added.first]
    cases carries : (deltasOf choices).any SseDelta.carries with
    | true => rfl
    | false => exact absurd (added.quiet carries) nonempty

/-- A delta with content and reasoning: the reasoning is lost. -/
theorem reasoning_lost :
    let run := (OpenAISseAccumulator.start 7 false).addChunks
      [some { delta := some { content := some "a", reasoning := some "b" } }]
    run.1.getFinalOutput.responseOutput.asMessageParts.reasoning.getD "" = "" ∧
      ¬ Lossless (deltasOf [some { delta := some { content := some "a", reasoning := some "b" } }])
        run.1.getFinalOutput.responseOutput run.2 := by
  refine ⟨by decide, fun lossless => ?_⟩
  have reasoning := lossless.reasoning
  revert reasoning
  decide

/-! ## The text after the first chunk -/

/-- The reasoning, the content and the tool calls that `text_after_first_chunk` puts together. -/
def TextModelOutput.textByKind (output : TextModelOutput) :
    String × String × Option (List ToolCall) :=
  (joinStrings output.reasoningTail, joinStrings output.outputTail,
    mergeToolCalls output.toolCallsTail)

/-- What the output has of some deltas, by kind. -/
def textOf (deltas : List SseDelta) : String × String × Option (List ToolCall) :=
  (joinStrings (deltas.flatMap SseDelta.keptReasoning),
    joinStrings (deltas.flatMap SseDelta.contentPieces),
    mergeToolCalls (some (.streamed (deltas.flatMap SseDelta.toolChunk))))

/-- The tool-call fragments of a delta add nothing to those of later ones. -/
def SseDelta.AddsNoToolCall (delta : SseDelta) (later : List SseDelta) : Prop :=
  mergeToolCalls (some (.streamed (delta.toolChunk ++ later.flatMap SseDelta.toolChunk))) =
    mergeToolCalls (some (.streamed (later.flatMap SseDelta.toolChunk)))

/-- The first delta is of the kind that the convention takes for the first one: reasoning, or
content with no later reasoning, or tool calls with no later text. -/
def SseDelta.FirstByConvention (delta : SseDelta) (later : List SseDelta) : Prop :=
  if delta.contentPieces ≠ [] then
    later.flatMap SseDelta.keptReasoning = [] ∧ delta.AddsNoToolCall later
  else if delta.reasoningPieces ≠ [] then delta.AddsNoToolCall later
  else later.flatMap SseDelta.keptReasoning = [] ∧ later.flatMap SseDelta.contentPieces = []

namespace OpenAISseAccumulator

theorem drop_firstAndRest (first : String) (rest : List String) :
    joinStrings ((firstAndRest (first :: rest)).drop 1) = joinStrings rest := by
  cases rest with
  | nil => rfl
  | cons second rest => simp [firstAndRest, joinStrings]

/-- Which chunk the convention drops. -/
theorem textByKind_textOutput (acc : OpenAISseAccumulator) :
    acc.textOutput.textByKind =
      match acc.reasoningChunks, acc.outputChunks with
      | _ :: rest, output =>
          (joinStrings rest, joinStrings output,
            mergeToolCalls (some (.streamed acc.toolCallChunks)))
      | [], _ :: rest =>
          ("", joinStrings rest, mergeToolCalls (some (.streamed acc.toolCallChunks)))
      | [], [] => ("", "", mergeToolCalls (some (.streamed (acc.toolCallChunks.drop 1)))) := by
  have truthy : ∀ first rest, (OutputElem.chunks (firstAndRest (first :: rest))).truthy = true := by
    intro first rest
    cases rest <;> rfl
  unfold textOutput TextModelOutput.textByKind
  cases reasoning : acc.reasoningChunks with
  | cons first rest =>
      simp only [List.isEmpty_cons, Bool.not_false, if_true]
      refine Prod.ext ?_ (Prod.ext ?_ ?_)
      · exact drop_firstAndRest first rest
      · simp only [TextModelOutput.outputTail, TextModelOutput.hasReasoning, truthy]
        by_cases empty : joinStrings acc.outputChunks = ""
        · simp [empty, joinStrings]
        · simp [empty, joinStrings, OutputElem.isTuple]
      · cases acc.toolCallChunks with
        | nil => rfl
        | cons chunk chunks =>
            simp [TextModelOutput.toolCallsTail, TextModelOutput.hasReasoning, truthy]
  | nil =>
      cases output : acc.outputChunks with
      | cons first rest =>
          refine Prod.ext rfl (Prod.ext ?_ ?_)
          · exact drop_firstAndRest first rest
          · cases acc.toolCallChunks with
            | nil => rfl
            | cons chunk chunks => simp [TextModelOutput.toolCallsTail, truthy]
      | nil =>
          refine Prod.ext rfl (Prod.ext rfl ?_)
          cases acc.toolCallChunks with
          | nil => rfl
          | cons chunk chunks => rfl

/-- A chunk is marked as the first one for the first delta that carries anything. -/
theorem carries_of_first {acc : OpenAISseAccumulator} {choice : Option SseChoice}
    {chunk : StreamChunk} (emitted : (acc.addChunk choice).2 = some chunk)
    (first : chunk.firstChunk = true) :
    acc.firstChunkSent = false ∧ ∃ delta, deltasOf [choice] = [delta] ∧ delta.carries = true := by
  have count := (added_addChunk acc choice).first
  rw [emitted, Option.toList_some, List.countP_singleton, if_pos first] at count
  have marked : (!acc.firstChunkSent && (deltasOf [choice]).any SseDelta.carries) = true := by
    by_contra unmarked
    rw [if_neg unmarked] at count
    exact nomatch count
  obtain ⟨unsent, carries⟩ := Bool.and_eq_true_iff.mp marked
  refine ⟨by simpa using unsent, ?_⟩
  rcases choice with - | ⟨- | delta, reason⟩
  · exact nomatch carries
  · exact nomatch carries
  · exact ⟨delta, rfl, by simpa [deltasOf] using carries⟩

end OpenAISseAccumulator

theorem textOf_uncarried {deltas : List SseDelta} (uncarried : deltas.any SseDelta.carries = false) :
    deltas.flatMap SseDelta.contentPieces = [] ∧ deltas.flatMap SseDelta.keptReasoning = [] ∧
      deltas.flatMap SseDelta.toolChunk = [] := by
  have each : ∀ delta ∈ deltas, delta.contentPieces = [] ∧ delta.reasoningPieces = [] ∧
      delta.toolChunk = [] := by
    intro delta member
    have nothing := List.any_eq_false.mp uncarried delta member
    simpa [SseDelta.carries, and_assoc] using nothing
  refine ⟨?_, ?_, ?_⟩
  · exact List.flatMap_eq_nil_iff.mpr fun delta member => (each delta member).1
  · refine List.flatMap_eq_nil_iff.mpr fun delta member => ?_
    rw [SseDelta.keptReasoning, (each delta member).2.1]
    split <;> rfl
  · exact List.flatMap_eq_nil_iff.mpr fun delta member => (each delta member).2.2

theorem joinStrings_ne {piece : String} (nonempty : piece ≠ "") (rest : List String) :
    joinStrings rest ≠ joinStrings (piece :: rest) := by
  intro same
  have lengths := congrArg String.length same
  have positive := Nat.pos_of_ne_zero fun zero => nonempty (String.length_eq_zero_iff.mp zero)
  simp only [joinStrings, String.length_append] at lengths
  omega

theorem SseDelta.contentPieces_ne {delta : SseDelta} {piece : String}
    (member : piece ∈ delta.contentPieces) : piece ≠ "" :=
  SseDelta.nonEmptyText_ne (Option.mem_toList.mp member)

theorem SseDelta.keptReasoning_ne {delta : SseDelta} {piece : String}
    (member : piece ∈ delta.keptReasoning) : piece ≠ "" := by
  rw [SseDelta.keptReasoning] at member
  split at member
  · exact SseDelta.reasoningPieces_ne member
  · exact absurd member List.not_mem_nil

/-- Dropping the first chunk by the convention leaves the text of the other deltas exactly if
the first delta is of the kind that the convention takes for the first one. -/
theorem textByKind_iff {delta : SseDelta} (later : List SseDelta) (carries : delta.carries = true)
    {acc : OpenAISseAccumulator}
    (output : acc.outputChunks = delta.contentPieces ++ later.flatMap SseDelta.contentPieces)
    (reasoning : acc.reasoningChunks = delta.keptReasoning ++ later.flatMap SseDelta.keptReasoning)
    (tools : acc.toolCallChunks = delta.toolChunk ++ later.flatMap SseDelta.toolChunk) :
    acc.textOutput.textByKind = textOf later ↔ delta.FirstByConvention later := by
  have content_ne : ∀ piece ∈ later.flatMap SseDelta.contentPieces, piece ≠ "" := by
    intro piece member
    obtain ⟨other, -, member⟩ := List.mem_flatMap.mp member
    exact SseDelta.contentPieces_ne member
  have reasoning_ne : ∀ piece ∈ later.flatMap SseDelta.keptReasoning, piece ≠ "" := by
    intro piece member
    obtain ⟨other, -, member⟩ := List.mem_flatMap.mp member
    exact SseDelta.keptReasoning_ne member
  rw [OpenAISseAccumulator.textByKind_textOutput, output, reasoning, tools, textOf,
    SseDelta.FirstByConvention, SseDelta.AddsNoToolCall]
  generalize later.flatMap SseDelta.contentPieces = contents at *
  generalize later.flatMap SseDelta.keptReasoning = reasonings at *
  generalize later.flatMap SseDelta.toolChunk = calls at *
  cases content : delta.contentPieces with
  | cons first rest =>
      have alone : rest = [] := by
        rw [SseDelta.contentPieces] at content
        cases found : nonEmptyText delta.content <;> simp_all
      have kept : delta.keptReasoning = [] := by simp [SseDelta.keptReasoning, content]
      subst alone
      rw [kept, if_pos (List.cons_ne_nil _ _)]
      cases reasonings with
      | nil => simp [joinStrings]
      | cons head tail =>
          have different := joinStrings_ne (reasoning_ne head List.mem_cons_self) tail
          simp [different]
  | nil =>
      have kept : delta.keptReasoning = delta.reasoningPieces := by
        simp [SseDelta.keptReasoning, content]
      rw [kept, if_neg (by simp)]
      cases reasoningPieces : delta.reasoningPieces with
      | cons first rest =>
          have alone : rest = [] := by
            rw [SseDelta.reasoningPieces] at reasoningPieces
            cases found : delta.reasoningText <;> simp_all
          subst alone
          simp
      | nil =>
          have called : ∃ chunk, delta.toolChunk = [chunk] := by
            have some_ : delta.toolChunk ≠ [] := by
              simpa [SseDelta.carries, content, reasoningPieces] using carries
            rw [SseDelta.toolChunk] at some_ ⊢
            rcases found : delta.toolCalls with - | (- | ⟨call, fragments⟩)
            · simp [found] at some_
            · simp [found] at some_
            · exact ⟨_, rfl⟩
          obtain ⟨chunk, called⟩ := called
          rw [called, if_neg (by simp)]
          cases reasonings with
          | cons head tail =>
              have different := joinStrings_ne (reasoning_ne head List.mem_cons_self) tail
              simp [different]
          | nil =>
              cases contents with
              | cons head tail =>
                  have different := joinStrings_ne (content_ne head List.mem_cons_self) tail
                  simp [different]
              | nil => simp [joinStrings]

/-- The text after the first chunk has the text of all deltas but the one whose chunk was marked
as the first exactly if that delta is of the kind that the convention takes for the first. -/
theorem text_excludes_first_iff {queryId : QueryId} {streamAllChunks : Bool}
    {before after : List (Option SseChoice)} {choice : Option SseChoice} {chunk : StreamChunk}
    {delta : SseDelta}
    (emitted : (((OpenAISseAccumulator.start queryId streamAllChunks).addChunks before).1.addChunk
      choice).2 = some chunk)
    (first : chunk.firstChunk = true) (carried : choice.bind SseChoice.delta = some delta) :
    (((OpenAISseAccumulator.start queryId streamAllChunks).addChunks
        (before ++ choice :: after)).1.getFinalOutput.responseOutput.textByKind =
      textOf (deltasOf (before ++ after))) ↔ delta.FirstByConvention (deltasOf after) := by
  obtain ⟨unsent, marked, same, carries⟩ := OpenAISseAccumulator.carries_of_first emitted first
  have early := OpenAISseAccumulator.added_addChunks
    (OpenAISseAccumulator.start queryId streamAllChunks) before
  have added := OpenAISseAccumulator.added_addChunks
    (OpenAISseAccumulator.start queryId streamAllChunks) (before ++ choice :: after)
  have deltas : deltasOf (before ++ choice :: after) =
      deltasOf before ++ delta :: deltasOf after := by
    simp [deltasOf, carried]
  have rest : deltasOf (before ++ after) = deltasOf before ++ deltasOf after :=
    List.filterMap_append
  obtain rfl : delta = marked := by
    have one : deltasOf [choice] = [delta] := by simp [deltasOf, carried]
    exact List.singleton_inj.mp (one.symm.trans same)
  have uncarried : (deltasOf before).any SseDelta.carries = false := by
    have sent := early.sent
    rw [unsent] at sent
    exact (Bool.or_eq_false_iff.mp sent.symm).2
  obtain ⟨noContent, noReasoning, noTools⟩ := textOf_uncarried uncarried
  have kept : textOf (deltasOf (before ++ after)) = textOf (deltasOf after) := by
    rw [textOf, rest]
    simp [noContent, noReasoning, noTools, textOf]
  rw [kept]
  rw [deltas] at added
  apply textByKind_iff (deltasOf after) carries
  · rw [added.output]
    simp [noContent, OpenAISseAccumulator.start]
  · rw [added.reasoning]
    simp [noReasoning, OpenAISseAccumulator.start]
  · rw [added.tools]
    simp [noTools, OpenAISseAccumulator.start]

/-- Reasoning first: the text after the first chunk is the text of the second delta. -/
theorem text_excludes_first_reasoning :
    let first : Option SseChoice := some { delta := some { reasoning := some "a" } }
    let second : Option SseChoice := some { delta := some { content := some "b" } }
    ((OpenAISseAccumulator.start 7 false).addChunks
        ([] ++ [first, second])).1.getFinalOutput.responseOutput.textByKind =
      textOf (deltasOf ([] ++ [second])) := by
  have convention : ({ reasoning := some "a" } : SseDelta).FirstByConvention
      (deltasOf [some { delta := some { content := some "b" } }]) := by
    unfold SseDelta.FirstByConvention SseDelta.AddsNoToolCall
    decide
  exact (text_excludes_first_iff rfl rfl rfl).mpr convention

/-- Content before reasoning: the text after the first chunk is that of the first chunk, and
the text of the other delta is missing. -/
theorem content_before_reasoning :
    let first : Option SseChoice := some { delta := some { content := some "a" } }
    let second : Option SseChoice := some { delta := some { reasoning := some "b" } }
    let acc := OpenAISseAccumulator.start 7 false
    let output := (acc.addChunks [first, second]).1.getFinalOutput.responseOutput
    (acc.addChunk first).2 = some { id := 7, responseChunk := "a", firstChunk := true } ∧
      output.textAfterFirstChunk (fun _ => "") = "a" ∧
      output.textByKind ≠ textOf (deltasOf [second]) := by
  decide

end InferenceEndpoint
