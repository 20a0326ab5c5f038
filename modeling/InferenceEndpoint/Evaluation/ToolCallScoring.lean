import InferenceEndpoint.Core.ToolCallMerge
import InferenceEndpoint.Evaluation.BFCLv4Scorer
import InferenceEndpoint.Metrics.OutputText
import Mathlib.Data.List.Forall2

/-!
# Structured tool calls on their way to the grader

The tool calls of a response are kept whole or in fragments.  They are merged, encoded as
one text and extracted from it again, with arguments that are JSON read as such.
-/

namespace InferenceEndpoint

namespace ToolCallScoring

/-- A call that the model made. -/
structure GivenCall where
  name : String
  arguments : String

namespace GivenCall

variable (given : GivenCall)

def extracted : Json :=
  FunctionCallExtractor.call (.string given.name)
    (FunctionCallExtractor.decodedArguments (.string given.arguments))

structure Is (call : ToolCall) : Prop where
  name : call.name = some given.name
  arguments : call.arguments = given.arguments

/-- The name is whole in one fragment, and the arguments are cut anywhere. -/
structure CutInto (fragments : List ToolCallPartial) : Prop where
  name : fragments.filterMap (fun fragment => nonEmptyText fragment.name) = [given.name]
  arguments : joinStrings (fragments.map fun fragment => fragment.arguments.getD "") =
    given.arguments

end GivenCall

/-- Fragments of different calls follow one another in any order, under their indices. -/
structure Streamed (given : List GivenCall) (chunks : List (List ToolCallPartial))
    (indices : List Nat) : Prop where
  increasing : indices.Pairwise (· < ·)
  known : ∀ fragment ∈ chunks.flatten, fragment.index ∈ indices
  cut : List.Forall₂ (fun call index =>
    GivenCall.CutInto call (chunks.flatten.filter fun fragment => fragment.index = index))
      given indices

def Stores (given : List GivenCall) : ToolCalls → Prop
  | .complete calls => List.Forall₂ GivenCall.Is given calls
  | .streamed chunks => ∃ indices, Streamed given chunks indices

/-! ## The libraries -/

/-- An item that spells a call; its other keys are free. -/
def Spells (call : ToolCall) (item : Json) : Prop :=
  ∃ members function, item = .object members ∧
    Json.lookup members "function" = some (.object function) ∧
    Json.lookup function "name" = call.name.map .string ∧
    Json.lookup function "arguments" = some (.string call.arguments)

/-- `msgspec.json.encode` writes an array that `json.loads` reads back. -/
structure Encodes (encode : List ToolCall → String) : Prop where
  readsBack : ∀ calls, ∃ items, Json.loads (encode calls) = some (.array items) ∧
    List.Forall₂ Spells calls items
  bracketed : ∀ calls, ∃ inside, encode calls = "[" ++ inside ++ "]"

/-- Brackets are no white space. -/
structure Brackets (py : Python) : Prop where
  opening : py.isSpace '[' = false
  closing : py.isSpace ']' = false

/-! ## Merging -/

theorem related_of_mem {First Second : Type} {relation : First → Second → Prop}
    {firsts : List First} {seconds : List Second} (related : List.Forall₂ relation firsts seconds)
    {second : Second} (member : second ∈ seconds) : ∃ first, relation first second := by
  induction related with
  | nil => cases member
  | cons here _ ih =>
      rcases List.mem_cons.mp member with rfl | inRest
      · exact ⟨_, here⟩
      · exact ih inRest

theorem mem_indices {given : List GivenCall} {chunks : List (List ToolCallPartial)}
    {indices : List Nat} (streamed : Streamed given chunks indices) (index : Nat) :
    index ∈ indices ↔ ∃ fragment ∈ chunks.flatten, fragment.index = index := by
  constructor
  · intro member
    obtain ⟨call, cut⟩ := related_of_mem streamed.cut member
    have nonempty : chunks.flatten.filter (fun fragment => fragment.index = index) ≠ [] := by
      intro empty
      have name := cut.name
      simp [empty] at name
    obtain ⟨fragment, inFilter⟩ := List.exists_mem_of_ne_nil _ nonempty
    obtain ⟨inChunks, same⟩ := List.mem_filter.mp inFilter
    exact ⟨fragment, inChunks, of_decide_eq_true same⟩
  · rintro ⟨fragment, member, rfl⟩
    exact streamed.known fragment member

theorem is_assembled {given : GivenCall} {fragments : List ToolCallPartial} {index : Nat}
    (cut : given.CutInto (fragments.filter fun fragment => fragment.index = index)) :
    given.Is (ToolCallMerge.assembled fragments index) := by
  constructor
  · rw [ToolCallMerge.assembled, ToolCallMerge.name_extend, cut.name]
    rfl
  · rw [ToolCallMerge.assembled, ToolCallMerge.arguments_extend, cut.arguments]
    exact String.empty_append

/-- The merge gives the calls, however they are stored. -/
theorem merged_calls {given : List GivenCall} (some : given ≠ []) {stored : ToolCalls}
    (stores : Stores given stored) :
    ∃ calls, mergeToolCalls (.some stored) = .some calls ∧
      List.Forall₂ GivenCall.Is given calls := by
  cases stored with
  | complete calls =>
      have nonempty : calls.isEmpty = false := by
        cases stores with
        | nil => exact absurd rfl some
        | cons => rfl
      exact ⟨calls, by simp [mergeToolCalls, nonempty], stores⟩
  | streamed chunks =>
      obtain ⟨indices, streamed⟩ := stores
      have nonempty : chunks.isEmpty = false := by
        cases chunks with
        | cons => rfl
        | nil =>
            have none : ∀ index, index ∉ indices := by
              intro index member
              simpa using (mem_indices streamed index).mp member
            have cut := streamed.cut
            rw [List.eq_nil_iff_forall_not_mem.mpr none, List.forall₂_nil_right_iff] at cut
            exact absurd cut some
      refine ⟨indices.map (ToolCallMerge.assembled chunks.flatten), ?_, ?_⟩
      · rw [← ToolCallMerge.calls_merge streamed.increasing (mem_indices streamed)]
        simp [mergeToolCalls, nonempty, ToolCallMerge.merge]
      · rw [List.forall₂_map_right_iff]
        exact streamed.cut.imp fun _ _ cut => is_assembled cut

/-! ## Extraction -/

theorem nativeCall?_spells {given : GivenCall} {call : ToolCall} {item : Json}
    (isCall : given.Is call) (spells : Spells call item) :
    FunctionCallExtractor.nativeCall? item = some given.extracted := by
  obtain ⟨members, function, rfl, hasFunction, hasName, hasArguments⟩ := spells
  rw [isCall.name, Option.map_some] at hasName
  rw [isCall.arguments] at hasArguments
  simp only [FunctionCallExtractor.nativeCall?, hasFunction, hasName, hasArguments,
    Option.getD_some, GivenCall.extracted]

theorem mapM_nativeCall? {given : List GivenCall} {calls : List ToolCall}
    (areCalls : List.Forall₂ GivenCall.Is given calls) {items : List Json}
    (spelled : List.Forall₂ Spells calls items) :
    items.mapM FunctionCallExtractor.nativeCall? = some (given.map GivenCall.extracted) := by
  induction areCalls generalizing items with
  | nil =>
      cases spelled
      rfl
  | cons isCall _ ih =>
      cases spelled with
      | cons spells rest =>
          simp [nativeCall?_spells isCall spells, ih rest]

/-- A text in brackets that lists calls is extracted as these calls. -/
theorem extract_calls {py : Python} (brackets : Brackets py) {given : List GivenCall}
    (nonempty : given ≠ []) {text inside : String} (bracketed : text = "[" ++ inside ++ "]")
    {items : List Json} (loaded : Json.loads text = some (.array items))
    (extracted : items.mapM FunctionCallExtractor.nativeCall? =
      some (given.map GivenCall.extracted)) (default : Option String) :
    FunctionCallExtractor.extract py text default =
      some (py.dumps (.array (given.map GivenCall.extracted))) := by
  have chars : text.toList = '[' :: inside.toList ++ [']'] := by
    rw [bracketed]
    simp
  have stripped : String.ofList (py.strip text.toList) = text := by
    rw [chars, Python.strip_bracketed brackets.opening brackets.closing, ← chars,
      String.ofList_toList]
  have someText : text ≠ "" := by
    intro empty
    simp [empty] at chars
  have native : FunctionCallExtractor.tryParseToolCallsJson py text =
      some (py.dumps (.array (given.map GivenCall.extracted))) := by
    cases given with
    | nil => exact absurd rfl nonempty
    | cons first rest =>
        rw [FunctionCallExtractor.tryParseToolCallsJson, FunctionCallExtractor.callsOf, loaded]
        simp only [extracted, List.map_cons]
  rw [FunctionCallExtractor.extract, stripped]
  simp only [if_neg someText, native, Option.some_or]

/-- Tool calls are extracted as the model made them, in their order, whether they came whole
or in fragments. -/
theorem tool_calls_reach_grader {py : Python} (brackets : Brackets py)
    {payloads : Payloads} (encodes : Encodes payloads.encode) {given : List GivenCall}
    (nonempty : given ≠ []) {result : TextModelOutput} {stored : ToolCalls}
    (holds : result.toolCalls = some stored) (stores : Stores given stored)
    (default : Option String) :
    FunctionCallExtractor.extract py
        (BFCLv4Scorer.scoringText payloads (some (.output result))) default =
      some (py.dumps (.array (given.map GivenCall.extracted))) := by
  obtain ⟨calls, merged, areCalls⟩ := merged_calls nonempty stores
  have text : BFCLv4Scorer.scoringText payloads (some (.output result)) =
      payloads.encode calls := by
    cases calls with
    | nil =>
        cases areCalls
        exact absurd rfl nonempty
    | cons first rest => simp only [BFCLv4Scorer.scoringText, holds, merged]
  obtain ⟨items, loaded, spelled⟩ := encodes.readsBack calls
  obtain ⟨inside, bracketed⟩ := encodes.bracketed calls
  rw [text]
  exact extract_calls brackets nonempty bracketed loaded (mapM_nativeCall? areCalls spelled) default

/-- A library that writes what `json.dumps` writes. -/
def plainEncode (calls : List ToolCall) : String :=
  Json.dumps id (.array (calls.map OutputText.callJson))

theorem spells_callJson (call : ToolCall) : Spells call (OutputText.callJson call) := by
  refine ⟨_, OutputText.textKey "name" call.name ++ [("arguments", .string call.arguments)],
    rfl, ?_, ?_, ?_⟩
  · cases call.id <;> simp [OutputText.textKey, Json.lookup, List.lookup_cons]
  · cases call.name <;> simp [OutputText.textKey, Json.lookup, List.lookup_cons]
  · cases call.name <;> simp [OutputText.textKey, Json.lookup, List.lookup_cons]

theorem plainEncode_encodes : Encodes plainEncode := by
  constructor
  · intro calls
    obtain ⟨clean, same⟩ := OutputText.readBack_toolCallsJson id (.complete calls)
    refine ⟨calls.map OutputText.callJson, ?_, ?_⟩
    · have loaded := Json.loads_dumps clean
      rw [same] at loaded
      exact loaded
    · rw [List.forall₂_map_right_iff, List.forall₂_same]
      exact fun call _ => spells_callJson call
  · intro calls
    exact ⟨_, rfl⟩

/-- Two calls whose fragments alternate; the arguments of the second are no JSON. -/
theorem two_streamed_calls :
    let py : Python :=
      { isSpace := fun char => char = ' ', isWord := Char.isAlphanum, isDecimal := Char.isDigit,
        sameLetter := fun first second => first = second, upper := fun char => char.toString,
        floatRepr := id, floatIsZero := fun _ => false, callKeywords := fun _ => none }
    let result : TextModelOutput :=
      { output := .whole "Sure."
        toolCalls := some (.streamed
          [[{ index := 0, name := some "f", arguments := some "[1" },
              { index := 1, name := some "g", arguments := some "x" }],
            [{ index := 0, arguments := some ", 2]" }, { index := 1, arguments := some "=1" }]]) }
    FunctionCallExtractor.extract py
        (BFCLv4Scorer.scoringText ⟨plainEncode, fun _ => ""⟩ (some (.output result))) none =
      some (py.dumps (.array [FunctionCallExtractor.call (.string "f") (.array [.int 1, .int 2]),
        FunctionCallExtractor.call (.string "g") (.string "x=1")])) := by
  intro py result
  have stores : Stores [⟨"f", "[1, 2]"⟩, ⟨"g", "x=1"⟩] (.streamed
      [[{ index := 0, name := some "f", arguments := some "[1" },
          { index := 1, name := some "g", arguments := some "x" }],
        [{ index := 0, arguments := some ", 2]" }, { index := 1, arguments := some "=1" }]]) :=
    ⟨[0, 1], by decide, by decide,
      .cons ⟨by decide, by decide⟩ (.cons ⟨by decide, by decide⟩ .nil)⟩
  exact tool_calls_reach_grader ⟨by decide, by decide⟩ plainEncode_encodes (by simp) rfl stores none

end ToolCallScoring

end InferenceEndpoint
