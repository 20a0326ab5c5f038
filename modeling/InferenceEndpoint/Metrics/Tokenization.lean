import InferenceEndpoint.Core.Types
import InferenceEndpoint.Metrics.TokenBatchQueue
import Mathlib.Data.List.Forall2
import Mathlib.Tactic.Ring

/-!
# Tokenization

What is counted of a prompt or of a model output, and the two ways to count it: one input
at a time, or a mixed batch whose texts are shared out among worker processes.  The
tokenizer is given by the lengths that it returns.
-/

namespace InferenceEndpoint

/-! ## Inputs -/

structure PromptInput where
  messages : List ChatMessage
  tools : Option (List JsonText)
  chatTemplateKwargs : Option JsonText
  chatTemplate : Option String
  toolChoice : Option JsonText
  deriving DecidableEq, Repr

/-- One assistant output for the chat template. -/
structure MessageInput where
  content : String
  reasoning : Option String
  toolCalls : Option (List ToolCall)
  deriving DecidableEq, Repr

inductive TokenizationInput
  | tokenIds (tokenIds : List Nat)
  | text (text : String)
  | message (message : MessageInput)
  | prompt (prompt : PromptInput)
  deriving DecidableEq, Repr

def TokenizationInput.inputType : TokenizationInput → InputType
  | tokenIds _ => .tokenIds
  | text _ => .text
  | message _ => .message
  | prompt _ => .prompt

namespace TextModelOutput

/-- Python truth value of the optional tool calls. -/
def hasToolCalls (result : TextModelOutput) : Bool :=
  result.toolCalls.any ToolCalls.truthy

/-- `__str__`; `encode` is the JSON encoder of the merged tool calls. -/
def str (encode : List ToolCall → String) (result : TextModelOutput) : String :=
  let reasoning := result.reasoning.elim [] OutputElem.parts
  match mergeToolCalls result.toolCalls with
  | some (call :: calls) =>
      joinStrings (reasoning ++ result.output.parts ++ [encode (call :: calls)])
  | _ => joinStrings (reasoning ++ result.output.parts)

def asMessageParts (result : TextModelOutput) : MessageInput where
  content := joinStrings result.output.parts
  reasoning := (result.reasoning.filter OutputElem.truthy).map fun reasoning =>
    joinStrings reasoning.parts
  toolCalls := mergeToolCalls result.toolCalls

/-- The reasoning after its first chunk counts also if it is empty. -/
def asMessagePartsAfterFirstChunk (result : TextModelOutput) : MessageInput where
  content := joinStrings result.outputTail
  reasoning :=
    if result.reasoningTail.isEmpty then none else some (joinStrings result.reasoningTail)
  toolCalls := mergeToolCalls result.toolCallsTail

end TextModelOutput

/-- `extract_tokenization_input`: the rule for output lengths. -/
def extractTokenizationInput (encode : List ToolCall → String) (result : TextModelOutput) :
    Option TokenizationInput :=
  if result.hasReasoning || result.hasToolCalls then some (.message result.asMessageParts)
  else
    let text := result.str encode
    if text ≠ "" then some (.text text) else none

/-! ## Counting one input -/

/-- An assistant message as the chat template gets it. -/
structure AssistantMessage where
  content : String
  reasoningContent : Option String := none
  toolCalls : Option (List ToolCall) := none
  deriving DecidableEq, Repr

/-- The lengths that a tokenizer returns. -/
structure Tokenizer where
  /-- Length of an encoded text, without special tokens. -/
  encodeLength : String → Nat
  /-- Number of tokens that `tokenize` splits a text into. -/
  tokenizeLength : String → Nat
  /-- Length of `apply_chat_template` for an empty user message with or without an
  assistant message; `none` is an exception. -/
  templateLength : Option AssistantMessage → Option Nat
  /-- Length of a structured prompt. -/
  promptLength : PromptInput → Nat
  /-- `msgspec.json.encode` of tool calls. -/
  encodeToolCalls : List ToolCall → String

namespace Tokenizer

variable (tokenizer : Tokenizer)

/-- `_prefix_len` and `_baseline`. -/
def frame : Int × Int :=
  match tokenizer.templateLength none, tokenizer.templateLength (some { content := "" }) with
  | some prefixLength, some withAssistant => (prefixLength, withAssistant - prefixLength)
  | _, _ => (0, 0)

/-- `_token_count_message`. -/
def tokenCountMessage (message : MessageInput) : Nat :=
  let reasoning := nonEmptyText message.reasoning
  let toolCalls := message.toolCalls.filter (· ≠ [])
  let rendered : AssistantMessage :=
    { content := message.content, reasoningContent := reasoning, toolCalls := toolCalls }
  match tokenizer.templateLength (some rendered) with
  | some encoded => (encoded - tokenizer.frame.1 - tokenizer.frame.2).toNat
  | none =>
      let parts := [nonEmptyText (some message.content), reasoning,
        toolCalls.map tokenizer.encodeToolCalls].filterMap id
      tokenizer.tokenizeLength (String.intercalate "\n" parts)

def countSync : TokenizationInput → Nat
  | .tokenIds tokenIds => tokenIds.length
  | .text text => tokenizer.encodeLength text
  | .message message => tokenizer.tokenCountMessage message
  | .prompt prompt => tokenizer.promptLength prompt

end Tokenizer

/-! ## Counting a batch -/

/-- `_even_chunks`. -/
def evenChunks {Item : Type*} (items : List Item) (n : Nat) : List (List Item) :=
  if n ≤ 1 ∨ items.length ≤ 1 then [items]
  else
    let size := (items.length + n - 1) / n
    (List.range ((items.length + size - 1) / size)).map fun chunk =>
      (items.drop (chunk * size)).take size

/-- What fails of a batch: all of its texts, or a structured input. -/
structure BatchFailure where
  texts : Bool := false
  structured : Nat → Bool := fun _ => false

namespace Tokenizer

variable (tokenizer : Tokenizer)

/-- `_fan_out`: each worker process encodes a chunk. -/
def fanOut (shards : Nat) (texts : List String) : List Nat :=
  (((List.range shards).zip (evenChunks texts shards)).map fun shard =>
    shard.2.map tokenizer.encodeLength).flatten

/-- `_count_texts_async`. -/
def countTexts (shards : Nat) (live : Bool) (texts : List String) : List Nat :=
  if texts.isEmpty then []
  else if 0 < shards && !live then tokenizer.fanOut shards texts
  else texts.map tokenizer.encodeLength

/-- `_count_indexed_texts_async`. -/
def countIndexedTexts (shards : Nat) (live fails : Bool) (indexedTexts : List (Nat × String)) :
    List (Nat × Option Nat) :=
  if fails then indexedTexts.map fun indexed => (indexed.1, none)
  else
    let counts := tokenizer.countTexts shards live (indexedTexts.map Prod.snd)
    if counts.length ≠ indexedTexts.length then
      indexedTexts.map fun indexed => (indexed.1, none)
    else (indexedTexts.zip counts).map fun counted => (counted.1.1, some counted.2)

def indexedText? : TokenizationInput × Nat → Option (Nat × String)
  | (.text text, index) => some (index, text)
  | _ => none

/-- The outcome of one input of a batch. -/
def outcomeOf (textOutcomes : List (Nat × Option Nat)) (failure : BatchFailure) :
    TokenizationInput × Nat → Option Nat
  | (.tokenIds tokenIds, _) => some tokenIds.length
  | (.text _, index) => (textOutcomes.lookup index).join
  | (.message message, index) =>
      if failure.structured index then none else some (tokenizer.tokenCountMessage message)
  | (.prompt prompt, index) =>
      if failure.structured index then none else some (tokenizer.promptLength prompt)

/-- `count_batch_async`: one count or error for each input, in their order. -/
def countBatch (shards : Nat) (live : Bool) (failure : BatchFailure)
    (inputs : List TokenizationInput) : List (Option Nat) :=
  let indexedTexts := inputs.zipIdx.filterMap indexedText?
  let textOutcomes := tokenizer.countIndexedTexts shards live failure.texts indexedTexts
  inputs.zipIdx.map (tokenizer.outcomeOf textOutcomes failure)

end Tokenizer

/-! ## A batch counts like single inputs -/

theorem flatten_chunks {Item : Type*} (items : List Item) (size count : Nat) :
    ((List.range count).map fun chunk => (items.drop (chunk * size)).take size).flatten =
      items.take (count * size) := by
  induction count with
  | zero => simp
  | succ count ih =>
      rw [List.range_succ, List.map_append, List.flatten_append, ih, Nat.succ_mul, List.take_add]
      simp

/-- The chunks keep every item. -/
theorem flatten_evenChunks {Item : Type*} (items : List Item) (n : Nat) :
    (evenChunks items n).flatten = items := by
  unfold evenChunks
  split
  · simp
  · dsimp only
    rename_i many
    rw [flatten_chunks]
    apply List.take_of_length_le
    have positive : 0 < (items.length + n - 1) / n := by
      apply Nat.div_pos
      · omega
      · omega
    generalize (items.length + n - 1) / n = size at positive ⊢
    have covered := Nat.lt_div_mul_add (a := items.length + size - 1) positive
    omega

/-- There is a worker for each chunk. -/
theorem length_evenChunks {Item : Type*} (items : List Item) {n : Nat} (some : 0 < n) :
    (evenChunks items n).length ≤ n := by
  unfold evenChunks
  split
  · exact some
  · rename_i many
    simp only [List.length_map, List.length_range]
    have positive : 0 < (items.length + n - 1) / n := by
      apply Nat.div_pos
      · omega
      · omega
    have covers : items.length ≤ n * ((items.length + n - 1) / n) := by
      have covered := Nat.lt_div_mul_add (a := items.length + n - 1) some
      rw [Nat.mul_comm]
      omega
    generalize (items.length + n - 1) / n = size at positive covers ⊢
    apply Nat.le_of_lt_succ
    rw [Nat.div_lt_iff_lt_mul positive, Nat.succ_mul]
    omega

namespace Tokenizer

variable (tokenizer : Tokenizer)

theorem fanOut_eq {shards : Nat} (some : 0 < shards) (texts : List String) :
    tokenizer.fanOut shards texts = texts.map tokenizer.encodeLength := by
  have chunks : ((List.range shards).zip (evenChunks texts shards)).map Prod.snd =
      evenChunks texts shards := by
    apply List.map_snd_zip
    rw [List.length_range]
    exact length_evenChunks texts some
  have shared : tokenizer.fanOut shards texts =
      ((((List.range shards).zip (evenChunks texts shards)).map Prod.snd).map
        (List.map tokenizer.encodeLength)).flatten := by
    rw [List.map_map]
    rfl
  rw [shared, chunks, ← List.map_flatten, flatten_evenChunks]

theorem countTexts_eq (shards : Nat) (live : Bool) (texts : List String) :
    tokenizer.countTexts shards live texts = texts.map tokenizer.encodeLength := by
  unfold countTexts
  split
  · rename_i empty
    rw [List.isEmpty_iff.mp empty, List.map_nil]
  · split
    · rename_i sharded
      exact tokenizer.fanOut_eq (of_decide_eq_true (Bool.and_eq_true_iff.mp sharded).1) texts
    · rfl

theorem countIndexedTexts_eq (shards : Nat) (live fails : Bool)
    (indexedTexts : List (Nat × String)) :
    tokenizer.countIndexedTexts shards live fails indexedTexts =
      indexedTexts.map fun indexed =>
        (indexed.1, if fails then none else some (tokenizer.encodeLength indexed.2)) := by
  unfold countIndexedTexts
  cases fails with
  | true => rfl
  | false =>
      have paired : indexedTexts.zip (indexedTexts.map (tokenizer.encodeLength ∘ Prod.snd)) =
          indexedTexts.map fun indexed => (indexed, tokenizer.encodeLength indexed.2) := by
        have mapped := @List.zip_map' _ _ _ id (tokenizer.encodeLength ∘ Prod.snd) indexedTexts
        rwa [List.map_id] at mapped
      simp only [countTexts_eq, List.map_map, Bool.false_eq_true, if_false, List.length_map, ne_eq,
        not_true_eq_false, paired]
      rfl

/-- A text that was counted has the count that it has on its own. -/
theorem mem_countIndexedTexts {shards : Nat} {live fails : Bool}
    {indexedTexts : List (Nat × String)} {index count : Nat}
    (member : (index, some count) ∈
      tokenizer.countIndexedTexts shards live fails indexedTexts) :
    ∃ text, (index, text) ∈ indexedTexts ∧ count = tokenizer.encodeLength text := by
  rw [countIndexedTexts_eq, List.mem_map] at member
  obtain ⟨⟨found, text⟩, textMember, equal⟩ := member
  obtain ⟨rfl, counted⟩ := Prod.mk.inj equal
  cases fails with
  | true => simp at counted
  | false => exact ⟨text, textMember, (Option.some.inj counted).symm⟩

theorem outcomeOf_eq_countSync {inputs : List TokenizationInput} {shards : Nat} {live : Bool}
    {failure : BatchFailure} {input : TokenizationInput} {index count : Nat}
    (member : (input, index) ∈ inputs.zipIdx)
    (counted : tokenizer.outcomeOf (tokenizer.countIndexedTexts shards live failure.texts
      (inputs.zipIdx.filterMap indexedText?)) failure (input, index) = some count) :
    count = tokenizer.countSync input := by
  cases input with
  | tokenIds tokenIds => exact (Option.some.inj counted).symm
  | message message =>
      simp only [outcomeOf] at counted
      split at counted
      · simp at counted
      · exact (Option.some.inj counted).symm
  | prompt prompt =>
      simp only [outcomeOf] at counted
      split at counted
      · simp at counted
      · exact (Option.some.inj counted).symm
  | text text =>
      simp only [outcomeOf, Option.join_eq_some_iff] at counted
      have found : (index, some count) ∈ tokenizer.countIndexedTexts shards live failure.texts
          (inputs.zipIdx.filterMap indexedText?) := by
        obtain ⟨before, after, split, -⟩ := List.lookup_eq_some_iff.mp counted
        rw [split]
        simp
      obtain ⟨other, otherMember, rfl⟩ := tokenizer.mem_countIndexedTexts found
      obtain ⟨⟨input, place⟩, inputMember, indexed⟩ := List.mem_filterMap.mp otherMember
      have sameInput : input = .text other ∧ place = index := by
        cases input with
        | text text => simpa [indexedText?, and_comm] using indexed
        | tokenIds tokenIds => simp [indexedText?] at indexed
        | message message => simp [indexedText?] at indexed
        | prompt prompt => simp [indexedText?] at indexed
      obtain ⟨rfl, rfl⟩ := sameInput
      have here := (List.mem_zipIdx' member).2
      have there := (List.mem_zipIdx' inputMember).2
      obtain ⟨rfl⟩ : TokenizationInput.text text = .text other := here.trans there.symm
      rfl

/-- Every input of a batch has an outcome, and a count is the one of the input alone. -/
theorem countBatch_forall₂ (shards : Nat) (live : Bool) (failure : BatchFailure)
    (inputs : List TokenizationInput) :
    List.Forall₂ (fun input outcome => ∀ count, outcome = some count →
        count = tokenizer.countSync input)
      inputs (tokenizer.countBatch shards live failure inputs) := by
  unfold countBatch
  dsimp only
  rw [List.forall₂_iff_get]
  refine ⟨by simp, ?_⟩
  intro index within outcomes count counted
  simp only [List.get_eq_getElem, List.getElem_map, List.getElem_zipIdx, Nat.zero_add] at counted
  apply tokenizer.outcomeOf_eq_countSync _ counted
  rw [List.mem_zipIdx_iff_getElem?]
  simp

/-- A batch of which nothing fails is counted completely. -/
theorem countBatch_complete (shards : Nat) (live : Bool) (inputs : List TokenizationInput) :
    ∀ outcome ∈ tokenizer.countBatch shards live {} inputs, outcome.isSome = true := by
  intro outcome member
  obtain ⟨⟨input, index⟩, indexed, rfl⟩ := List.mem_map.mp member
  cases input with
  | tokenIds tokenIds => rfl
  | message message => rfl
  | prompt prompt => rfl
  | text text =>
      have textMember : (index, text) ∈ inputs.zipIdx.filterMap indexedText? :=
        List.mem_filterMap.mpr ⟨_, indexed, rfl⟩
      generalize inputs.zipIdx.filterMap indexedText? = indexedTexts at textMember ⊢
      have outcomes : tokenizer.countIndexedTexts shards live false indexedTexts =
          indexedTexts.map fun indexed =>
            (indexed.1, some (tokenizer.encodeLength indexed.2)) :=
        tokenizer.countIndexedTexts_eq shards live false indexedTexts
      simp only [outcomeOf, outcomes]
      have found : ((indexedTexts.map fun indexed =>
          (indexed.1, some (tokenizer.encodeLength indexed.2))).lookup index).isSome = true := by
        rw [List.lookup_isSome_iff]
        exact ⟨_, List.mem_map_of_mem textMember, by simp⟩
      obtain ⟨count, lookup⟩ := Option.isSome_iff_exists.mp found
      obtain ⟨before, after, split, -⟩ := List.lookup_eq_some_iff.mp lookup
      have entry : (index, count) ∈ indexedTexts.map fun indexed =>
          (indexed.1, some (tokenizer.encodeLength indexed.2)) := by
        rw [split]
        simp
      obtain ⟨other, -, equal⟩ := List.mem_map.mp entry
      rw [lookup, ← (Prod.mk.inj equal).2]
      rfl

end Tokenizer

end InferenceEndpoint
