import Mathlib.Data.List.Basic

/-!
# Core types

The records that travel between the load generator, the endpoint client and
the metrics services: queries, final results, stream chunks, prompts, model
outputs and structured errors.  Sample uuids are drawn from a counter, since
the program only relies on two draws of `uuid4` being different.  JSON values
that the modelled code passes on without looking inside are kept as text.
-/

namespace InferenceEndpoint

/-- A sample uuid; the k-th call of `uuid.uuid4()` returns `k`. -/
abbrev QueryId := Nat

/-- A JSON value that is only passed on. -/
abbrev JsonText := String

/-- `OUTPUT_ELEM_TYPE`: a string (non-streaming) or a tuple of strings. -/
inductive OutputElem
  | whole (text : String)
  | chunks (parts : List String)
  deriving DecidableEq, Repr

namespace OutputElem

/-- Python truth value of the element. -/
def truthy : OutputElem → Bool
  | .whole text => text ≠ ""
  | .chunks parts => !parts.isEmpty

/-- The pieces that joining concatenates. -/
def parts : OutputElem → List String
  | .whole text => [text]
  | .chunks parts => parts

def isTuple : OutputElem → Bool
  | .whole _ => false
  | .chunks _ => true

end OutputElem

/-- `"".join(parts)`. -/
def joinStrings : List String → String
  | [] => ""
  | part :: parts => part ++ joinStrings parts

/-- One streamed fragment of a tool call; absent keys are `none`. -/
structure ToolCallPartial where
  index : Nat := 0
  id : Option String := none
  kind : Option String := none
  name : Option String := none
  arguments : Option String := none
  deriving DecidableEq, Repr

/-- A complete tool call. -/
structure ToolCall where
  id : Option String := none
  kind : String := "function"
  name : Option String := none
  arguments : String := ""
  deriving DecidableEq, Repr

/-- The two shapes of `tool_calls`: complete calls, or one list of fragments
for each chunk of the stream. -/
inductive ToolCalls
  | complete (calls : List ToolCall)
  | streamed (chunks : List (List ToolCallPartial))
  deriving DecidableEq, Repr

namespace ToolCalls

/-- Python reads a tuple's truth value off its length. -/
def truthy : ToolCalls → Bool
  | .complete calls => !calls.isEmpty
  | .streamed chunks => !chunks.isEmpty

end ToolCalls

/-- `partial.get(key)` counts only when it is a non-empty string. -/
def nonEmptyText : Option String → Option String
  | some text => if text = "" then none else some text
  | none => none

/-- One step of the merge loop: fold a fragment into the call it extends. -/
def ToolCall.extend (call : ToolCall) (fragment : ToolCallPartial) : ToolCall where
  id := (nonEmptyText fragment.id).or call.id
  kind := (nonEmptyText fragment.kind).getD call.kind
  name := (nonEmptyText fragment.name).or call.name
  arguments := call.arguments ++ fragment.arguments.getD ""

/-- The dictionary of merged calls, kept sorted by index. -/
def mergePartial (fragment : ToolCallPartial) :
    List (Nat × ToolCall) → List (Nat × ToolCall)
  | [] => [(fragment.index, ToolCall.extend {} fragment)]
  | (index, call) :: rest =>
      if fragment.index = index then (index, call.extend fragment) :: rest
      else if fragment.index < index then
        (fragment.index, ToolCall.extend {} fragment) :: (index, call) :: rest
      else (index, call) :: mergePartial fragment rest

/-- `merge_tool_calls`. -/
def mergeToolCalls : Option ToolCalls → Option (List ToolCall)
  | none => none
  | some (.complete calls) => if calls.isEmpty then none else some calls
  | some (.streamed chunks) =>
      if chunks.isEmpty then none
      else
        some ((chunks.flatten.foldl
          (fun merged fragment => mergePartial fragment merged) []).map Prod.snd)

/-- Structured output of a text model. -/
structure TextModelOutput where
  output : OutputElem := .whole ""
  reasoning : Option OutputElem := none
  toolCalls : Option ToolCalls := none
  deriving DecidableEq, Repr

namespace TextModelOutput

/-- Python truth value of the optional reasoning field. -/
def hasReasoning (result : TextModelOutput) : Bool :=
  match result.reasoning with
  | some reasoning => reasoning.truthy
  | none => false

/-- The reasoning parts after the first chunk; a plain string is the first
chunk itself. -/
def reasoningTail (result : TextModelOutput) : List String :=
  match result.reasoning with
  | some (.chunks parts) => parts.drop 1
  | _ => []

/-- The output parts that follow the first chunk of the response. -/
def outputTail (result : TextModelOutput) : List String :=
  match result.output with
  | .whole text =>
      if result.hasReasoning && result.reasoning.any OutputElem.isTuple
        && text ≠ "" then [text] else []
  | .chunks parts => if result.hasReasoning then parts else parts.drop 1

/-- The tool-call chunks left after the first chunk of the response. -/
def toolCallsTail (result : TextModelOutput) : Option ToolCalls :=
  match result.toolCalls with
  | some (.streamed chunks) =>
      if result.output.truthy || result.hasReasoning then
        some (.streamed chunks)
      else some (.streamed (chunks.drop 1))
  | other => other

/-- `text_after_first_chunk`; `encode` is the JSON encoder of the merged tool
calls. -/
def textAfterFirstChunk (encode : List ToolCall → String)
    (result : TextModelOutput) : String :=
  let parts := result.reasoningTail ++ result.outputTail
  match mergeToolCalls result.toolCallsTail with
  | some (call :: calls) => joinStrings (parts ++ [encode (call :: calls)])
  | _ => joinStrings parts

end TextModelOutput

/-- A chat message; `content` is `none` when it is not a string, and `extra`
holds the remaining keys. -/
structure ChatMessage where
  role : Option String
  content : Option String
  extra : JsonText := ""
  deriving DecidableEq, Repr

/-- Prompt attached to an ISSUED event. -/
structure PromptData where
  text : Option String := none
  tokenIds : Option (List Nat) := none
  messages : Option (List ChatMessage) := none
  tools : Option (List JsonText) := none
  chatTemplateKwargs : Option JsonText := none
  chatTemplate : Option String := none
  toolChoice : Option JsonText := none
  deriving DecidableEq, Repr

structure ErrorData where
  errorType : String
  errorMessage : String := ""
  deriving DecidableEq, Repr

inductive PhaseType
  | performance
  | accuracy
  | warmup
  deriving DecidableEq, Repr

/-- Payload of a PHASE_START event. -/
structure PhaseData where
  phaseType : PhaseType
  drainAfter : Bool
  numTurns : Nat
  numTrajectories : Nat := 0
  deriving DecidableEq, Repr

/-- The keys of a dataset row that issuing reads.  A key whose value does not
have the type the code asks for is treated like an absent one; `extra` stands
for the keys that are only sent on. -/
structure SampleRow where
  inputTokens : Option (List Nat) := none
  tokenIds : Option (List Nat) := none
  messages : Option (List ChatMessage) := none
  prompt : Option String := none
  tools : Option (List JsonText) := none
  chatTemplateKwargs : Option JsonText := none
  chatTemplate : Option String := none
  toolChoice : Option JsonText := none
  extra : JsonText := ""
  deriving DecidableEq, Repr

/-- What `Dataset.load_sample` returns: a mapping, or anything else. -/
inductive SampleData
  | mapping (row : SampleRow)
  | other (value : JsonText)
  deriving DecidableEq, Repr

/-- A query as it is handed to the endpoint client. -/
structure Query where
  id : QueryId
  data : SampleData
  headers : List (String × String)
  deriving DecidableEq, Repr

/-- Final result of a query. -/
structure QueryResult where
  id : QueryId
  responseOutput : Option TextModelOutput := none
  finishReason : Option String := none
  workerId : Option Nat := none
  completedAt : Option Nat := none
  error : Option ErrorData := none
  deriving DecidableEq, Repr

/-- One streamed chunk; `firstChunk` is its `first_chunk` metadata. -/
structure StreamChunk where
  id : QueryId
  responseChunk : String := ""
  firstChunk : Bool := false
  deriving DecidableEq, Repr

/-- What the endpoint client hands to the session. -/
inductive Response
  | result (result : QueryResult)
  | chunk (chunk : StreamChunk)
  deriving DecidableEq, Repr

end InferenceEndpoint
