import InferenceEndpoint.DatasetManager.Transforms
import InferenceEndpoint.Library.JsonRoundTrip
import InferenceEndpoint.Library.RelabelKeys

/-!
# Loading datasets

A dataset applies its own transforms and those of the adapter to its frame and keeps the
rows as records.  The adapters for chats filter the columns for the prompt and what may
come with it, and add the model parameters.
-/

namespace InferenceEndpoint

open RelabelKeys

/-! ## Adapters for chats -/

inductive StreamingMode
  | auto
  | on
  | off
  deriving DecidableEq

/-- The parameters that the requests of a chat carry; floats by their literals. -/
structure ModelParams where
  name : String := ""
  temperature : Option String := none
  seed : Option Int := none
  topK : Option Int := none
  topP : Option String := none
  repetitionPenalty : Option String := none
  presencePenalty : Option String := none
  frequencyPenalty : Option String := none
  chatTemplateKwargs : Option (List (String × Json)) := none
  maxNewTokens : Int := 1024
  streaming : StreamingMode := .auto

namespace ModelParams

def float (literal : Option String) : Json :=
  (literal.map .float).getD .null

def int (value : Option Int) : Json :=
  (value.map .int).getD .null

end ModelParams

namespace OpenAIMsgspecAdapter

def metadata (modelParams : ModelParams) : List (String × Json) :=
  [("model", .string modelParams.name),
    ("temperature", ModelParams.float modelParams.temperature),
    ("seed", ModelParams.int modelParams.seed),
    ("top_p", ModelParams.float modelParams.topP),
    ("top_k", ModelParams.int modelParams.topK),
    ("repetition_penalty", ModelParams.float modelParams.repetitionPenalty),
    ("presence_penalty", ModelParams.float modelParams.presencePenalty),
    ("frequency_penalty", ModelParams.float modelParams.frequencyPenalty),
    ("chat_template_kwargs", (modelParams.chatTemplateKwargs.map .object).getD .null)] ++
  (if modelParams.streaming = .on then [("stream", .bool true)] else []) ++
  [("max_completion_tokens", .int modelParams.maxNewTokens)]

def allowed : List String :=
  ["system", "messages", "tools", "tool_choice", "name", "n", "stop", "logit_bias", "user",
    "chat_template"]

def datasetTransforms (modelParams : ModelParams) : List Transform :=
  [.columnFilter ⟨["prompt"], some allowed, by rintro optional ⟨⟩; decide⟩,
    .addStaticColumns (metadata modelParams) true]

end OpenAIMsgspecAdapter

namespace OpenAIAdapter

def metadata (modelParams : ModelParams) : List (String × Json) :=
  [("model", .string modelParams.name),
    ("stream", .bool (modelParams.streaming = .on)),
    ("max_completion_tokens", .int modelParams.maxNewTokens),
    ("temperature", ModelParams.float modelParams.temperature),
    ("seed", ModelParams.int modelParams.seed),
    ("top_p", ModelParams.float modelParams.topP),
    ("top_k", ModelParams.int modelParams.topK),
    ("repetition_penalty", ModelParams.float modelParams.repetitionPenalty),
    ("presence_penalty", ModelParams.float modelParams.presencePenalty),
    ("frequency_penalty", ModelParams.float modelParams.frequencyPenalty)]

def datasetTransforms (modelParams : ModelParams) : List Transform :=
  [.columnFilter ⟨["prompt"], some ["system", "tools"], by rintro optional ⟨⟩; decide⟩,
    .addStaticColumns (metadata modelParams) true]

end OpenAIAdapter

/-- The adapters whose samples hold a prompt and a system text. -/
inductive ChatAdapter
  | openAI
  | openAIMsgspec

def ChatAdapter.datasetTransforms (modelParams : ModelParams) : ChatAdapter → List Transform
  | .openAI => OpenAIAdapter.datasetTransforms modelParams
  | .openAIMsgspec => OpenAIMsgspecAdapter.datasetTransforms modelParams

/-! ## Loading -/

namespace Dataset

def isColumnFilter : Transform → Bool
  | .columnFilter _ => true
  | _ => false

/-- The transforms of `load`: the dataset's own, and those of the adapter without its
filter where the dataset has one. -/
def loadTransforms (transforms adapterTransforms : List Transform) : List Transform :=
  transforms ++
    adapterTransforms.filter fun transform =>
      !(transforms.any isColumnFilter && isColumnFilter transform)

/-- The transforms that `load` takes from an adapter. -/
def adapterTransforms : Option (ChatAdapter × ModelParams) → List Transform
  | some (adapter, modelParams) => adapter.datasetTransforms modelParams
  | none => []

/-- A record keeps the last of the columns with one name. -/
def toRecord (row : Row) : Row :=
  row.foldl (fun fields cell => Json.assign fields cell.1 cell.2) []

/-- `df.to_dict(orient="records")`, after a look at the first row of each column; without
columns there are no records. -/
def toRecords (frame : DataFrame) : Option (List Row) :=
  if frame.columns = [] then some []
  else if frame.rows = [] then none
  else some (frame.rows.map toRecord)

/-- `Dataset.load`; `none` is an exception. -/
def load (tools : TextTools) (transforms adapterTransforms : List Transform)
    (frame : DataFrame) : Option (List Row) :=
  (Transforms.applyTransforms tools frame (loadTransforms transforms adapterTransforms)
    true).bind toRecords

end Dataset

/-! ## Loading with an adapter -/

namespace Dataset

theorem lookup_assign_other {row : Row} {key target : String} (different : target ≠ key)
    (value : Json) : (Json.assign row key value).lookup target = row.lookup target := by
  by_cases present : row.any (·.1 = key) = true
  · rw [Json.assign, if_pos present]
    clear present
    induction row with
    | nil => rfl
    | cons cell row ih =>
        rw [List.map_cons]
        by_cases same : target = cell.1
        · subst same
          rw [if_neg different, lookup_cons_same, lookup_cons_same]
        · rw [lookup_cons_other same, ← ih]
          apply lookup_cons_other
          split
          · exact different
          · exact same
  · rw [Json.assign, if_neg present, List.lookup_append,
      @lookup_cons_other _ _ _ target (key, value) different]
    simp

theorem toRecord_of_nodup {row : Row} (distinct : (row.map (·.1)).Nodup) :
    toRecord row = row := by
  have grows : ∀ (rest start : Row), ((start ++ rest).map (·.1)).Nodup →
      rest.foldl (fun fields cell => Json.assign fields cell.1 cell.2) start =
        start ++ rest := by
    intro rest
    induction rest with
    | nil => simp
    | cons cell rest ih =>
        intro start distinct
        have fresh : cell.1 ∉ start.map (·.1) := by
          rw [List.map_append] at distinct
          intro old
          exact (List.nodup_append.mp distinct).2.2 _ old cell.1 (by simp) rfl
        rw [List.foldl_cons, Json.assign_new fresh, ih _ (by simpa using distinct)]
        simp
  exact grows row [] distinct

/-- Without row processors, nothing is fused. -/
theorem applyTransforms_of_noRows (tools : TextTools) {transforms : List Transform}
    (noRows : ∀ processor, .row processor ∉ transforms) (frame : DataFrame) :
    Transforms.applyTransforms tools frame transforms true =
      transforms.foldlM (fun frame transform => Transforms.call tools transform frame) frame := by
  have once : Transforms.HarmonizesOnce tools transforms frame := by
    intro before harmonize after reached split
    exact absurd (by rw [split]; simp) (noRows (.harmonize harmonize))
  exact Transforms.fuseRowProcessors_eq transforms [] frame once

/-- Setting a column to one value writes it into every row. -/
theorem setColumn_scalar (frame : DataFrame) (key : String) {value : Json}
    (scalar : ∀ items, value ≠ .array items) :
    Transforms.setColumn frame key value =
      some
        { columns := if key ∈ frame.columns then frame.columns else frame.columns ++ [key]
          rows := frame.rows.map fun row => Json.assign row key value } := by
  have values : Transforms.staticValues value frame.rows.length =
      some (List.replicate frame.rows.length value) := by
    cases value with
    | array items => exact absurd rfl (scalar items)
    | _ => rfl
  have zipped : ∀ rows : List Row,
      List.zipWith (fun row value => Json.assign row key value) rows
        (List.replicate rows.length value) = rows.map fun row => Json.assign row key value := by
    intro rows
    induction rows with
    | nil => rfl
    | cons row rows ih => simp [List.replicate_succ, ih]
  unfold Transforms.setColumn
  generalize (if key ∈ frame.columns then frame.columns else frame.columns ++ [key]) = columns
  dsimp only
  split
  · exact absurd rfl (scalar _)
  · simp [values, zipped]

/-- The static columns of an adapter. -/
structure PlainMetadata (metadata : List (String × Json)) : Prop where
  noTexts : ∀ item ∈ metadata, item.1 ≠ "prompt" ∧ item.1 ≠ "system"
  scalars : ∀ item ∈ metadata, ∀ items, item.2 ≠ .array items

/-- What static columns do to one row. -/
def withMetadata (metadata : List (String × Json)) (row : Row) : Row :=
  metadata.foldl (fun row item => Json.assign row item.1 item.2) row

theorem call_addStaticColumns (tools : TextTools) {metadata : List (String × Json)}
    (plain : PlainMetadata metadata) (frame : DataFrame) :
    ∃ out, Transforms.call tools (.addStaticColumns metadata true) frame = some out ∧
      out.rows = frame.rows.map (withMetadata metadata) ∧
      (frame.columns ≠ [] → out.columns ≠ []) := by
  simp only [Transforms.call]
  induction metadata generalizing frame with
  | nil =>
      have rows : frame.rows.map (withMetadata []) = frame.rows := List.map_id _
      exact ⟨frame, rfl, rows.symm, id⟩
  | cons item metadata ih =>
      have first := setColumn_scalar frame item.1 (plain.scalars item List.mem_cons_self)
      have rest : PlainMetadata metadata :=
        ⟨fun other member => plain.noTexts other (List.mem_cons_of_mem _ member),
          fun other member => plain.scalars other (List.mem_cons_of_mem _ member)⟩
      obtain ⟨out, runs, rows, columns⟩ := ih rest
        { columns := if item.1 ∈ frame.columns then frame.columns else frame.columns ++ [item.1]
          rows := frame.rows.map fun row => Json.assign row item.1 item.2 }
      refine ⟨out, ?_, ?_, ?_⟩
      · rw [List.foldlM_cons, Transforms.addStaticColumn, if_pos rfl, first]
        exact runs
      · rw [rows, List.map_map]
        rfl
      · intro notEmpty
        apply columns
        split <;> simp [notEmpty]

theorem lookup_withMetadata {metadata : List (String × Json)} (plain : PlainMetadata metadata)
    {target : String} (isText : target = "prompt" ∨ target = "system") (row : Row) :
    (withMetadata metadata row).lookup target = row.lookup target := by
  induction metadata generalizing row with
  | nil => rfl
  | cons item metadata ih =>
      have rest : PlainMetadata metadata :=
        ⟨fun other member => plain.noTexts other (List.mem_cons_of_mem _ member),
          fun other member => plain.scalars other (List.mem_cons_of_mem _ member)⟩
      have different : target ≠ item.1 := by
        obtain ⟨notPrompt, notSystem⟩ := plain.noTexts item List.mem_cons_self
        rintro rfl
        exact isText.elim notPrompt notSystem
      exact (ih rest (Json.assign row item.1 item.2)).trans (lookup_assign_other different _)

theorem nodup_withMetadata (metadata : List (String × Json)) {row : Row}
    (distinct : (row.map (·.1)).Nodup) : ((withMetadata metadata row).map (·.1)).Nodup := by
  induction metadata generalizing row with
  | nil => exact distinct
  | cons item metadata ih => exact ih (Json.nodup_assign distinct item.1 item.2)

/-- Every row is changed to one with the same texts. -/
structure KeepsTexts (frame out : DataFrame) (change : Row → Row) : Prop where
  rows : out.rows = frame.rows.map change
  columns : out.columns ≠ []
  distinct : ∀ row ∈ frame.rows, ((change row).map (·.1)).Nodup
  texts : ∀ row ∈ frame.rows, ∀ target, target = "prompt" ∨ target = "system" →
    (change row).lookup target = row.lookup target

section

variable {frame : DataFrame}
  (filled : ∀ row ∈ frame.rows, row.map (·.1) = frame.columns) (distinct : frame.columns.Nodup)

include filled distinct

theorem keepsTexts_filter {optional : List String} (system : "system" ∈ optional)
    (exclusive : ∀ columns, some optional = some columns → ∀ column ∈ ["prompt"],
      column ∉ columns)
    (prompt : "prompt" ∈ frame.columns) :
    ∃ out change, Transforms.filterColumns ⟨["prompt"], some optional, exclusive⟩ frame =
      some out ∧ KeepsTexts frame out change := by
  have found : ∀ column ∈ optional.dedup.filter (· ∈ frame.columns),
      column ∈ frame.columns := fun column member => by simpa using (List.mem_filter.mp member).2
  have present : ∀ column ∈ "prompt" :: optional.dedup.filter (· ∈ frame.columns),
      column ∈ frame.columns := by
    intro column member
    obtain rfl | later := List.mem_cons.mp member
    · exact prompt
    · exact found column later
  have keptDistinct : ("prompt" :: optional.dedup.filter (· ∈ frame.columns)).Nodup := by
    refine List.nodup_cons.mpr ⟨?_, (List.nodup_dedup optional).filter _⟩
    intro member
    exact exclusive optional rfl "prompt" List.mem_cons_self
      (List.mem_dedup.mp (List.mem_filter.mp member).1)
  have keys : ∀ row ∈ frame.rows,
      (select ("prompt" :: optional.dedup.filter (· ∈ frame.columns)) row).map (·.1) =
        "prompt" :: optional.dedup.filter (· ∈ frame.columns) := by
    intro row member
    apply map_fst_select
    · rw [filled row member]
      exact distinct
    · rw [filled row member]
      exact present
  refine ⟨_, select ("prompt" :: optional.dedup.filter (· ∈ frame.columns)), if_pos present,
    rfl, ?_, ?_, ?_⟩
  · intro none_
    have member : "prompt" ∈ ("prompt" :: optional.dedup.filter (· ∈ frame.columns)).flatMap
        fun column => frame.columns.filter (· = column) :=
      List.mem_flatMap.mpr ⟨"prompt", List.mem_cons_self, List.mem_filter.mpr ⟨prompt, by simp⟩⟩
    have empty : ("prompt" :: optional.dedup.filter (· ∈ frame.columns)).flatMap
        (fun column => frame.columns.filter (· = column)) = [] := none_
    rw [empty] at member
    cases member
  · intro row member
    rw [keys row member]
    exact keptDistinct
  · rintro row member target (rfl | rfl)
    · exact lookup_select List.mem_cons_self
    · by_cases there : "system" ∈ frame.columns
      · apply lookup_select
        exact List.mem_cons_of_mem _ (List.mem_filter.mpr ⟨List.mem_dedup.mpr system, by
          simpa using there⟩)
      · have absent : row.lookup "system" = none := by
          apply lookup_eq_none_of_notMem
          rw [filled row member]
          exact there
        rw [absent]
        apply lookup_eq_none_of_notMem
        rw [keys row member]
        exact fun member => there (present "system" member)

end

theorem keepsTexts_metadata (tools : TextTools) {metadata : List (String × Json)}
    (plain : PlainMetadata metadata) {frame middle : DataFrame} {change : Row → Row}
    (keeps : KeepsTexts frame middle change) :
    ∃ out, Transforms.call tools (.addStaticColumns metadata true) middle = some out ∧
      KeepsTexts frame out (withMetadata metadata ∘ change) := by
  obtain ⟨out, runs, rows, columns⟩ := call_addStaticColumns tools plain middle
  refine ⟨out, runs, ?_, columns keeps.columns, ?_, ?_⟩
  · rw [rows, keeps.rows, List.map_map]
  · intro row member
    exact nodup_withMetadata metadata (keeps.distinct row member)
  · intro row member target isText
    exact (lookup_withMetadata plain isText (change row)).trans
      (keeps.texts row member target isText)

theorem float_ne_array (literal : Option String) (items : List Json) :
    ModelParams.float literal ≠ .array items := by
  cases literal <;> simp [ModelParams.float]

theorem int_ne_array (value : Option Int) (items : List Json) :
    ModelParams.int value ≠ .array items := by
  cases value <;> simp [ModelParams.int]

theorem plainMetadata_openAI (modelParams : ModelParams) :
    PlainMetadata (OpenAIAdapter.metadata modelParams) where
  noTexts := by simp [OpenAIAdapter.metadata]
  scalars := by simp [OpenAIAdapter.metadata, float_ne_array, int_ne_array]

theorem plainMetadata_openAIMsgspec (modelParams : ModelParams) :
    PlainMetadata (OpenAIMsgspecAdapter.metadata modelParams) where
  noTexts := by
    intro item member
    simp only [OpenAIMsgspecAdapter.metadata, List.mem_append] at member
    obtain (first | stream) | last := member
    · revert item first
      simp
    · split at stream
      · simp [List.mem_singleton.mp stream]
      · cases stream
    · simp [List.mem_singleton.mp last]
  scalars := by
    intro item member
    simp only [OpenAIMsgspecAdapter.metadata, List.mem_append] at member
    obtain (first | stream) | last := member
    · revert item first
      have kwargs : ∀ items, (modelParams.chatTemplateKwargs.map Json.object).getD .null ≠
          .array items := by
        intro items
        cases modelParams.chatTemplateKwargs <;> simp
      simp [float_ne_array, int_ne_array, kwargs]
    · split at stream
      · simp [List.mem_singleton.mp stream]
      · cases stream
    · simp [List.mem_singleton.mp last]

/-- The chat adapters filter for the prompt and add plain columns. -/
theorem datasetTransforms_eq (adapter : ChatAdapter) (modelParams : ModelParams) :
    ∃ optional exclusive metadata, adapter.datasetTransforms modelParams =
        [.columnFilter ⟨["prompt"], some optional, exclusive⟩, .addStaticColumns metadata true] ∧
      "system" ∈ optional ∧ PlainMetadata metadata := by
  cases adapter with
  | openAI => exact ⟨_, _, _, rfl, by decide, plainMetadata_openAI modelParams⟩
  | openAIMsgspec => exact ⟨_, _, _, rfl, by decide, plainMetadata_openAIMsgspec modelParams⟩

/-- An adapter gives every row its texts, or raises where there is no prompt. -/
theorem adapter_run (tools : TextTools) {frame : DataFrame}
    (filled : ∀ row ∈ frame.rows, row.map (·.1) = frame.columns)
    (distinct : frame.columns.Nodup) (some_ : frame.columns ≠ [])
    (adapter : Option (ChatAdapter × ModelParams)) :
    if adapter.isSome ∧ "prompt" ∉ frame.columns then
      (adapterTransforms adapter).foldlM
        (fun frame transform => Transforms.call tools transform frame) frame = none
    else
      ∃ out change, (adapterTransforms adapter).foldlM
          (fun frame transform => Transforms.call tools transform frame) frame = some out ∧
        KeepsTexts frame out change := by
  match adapter with
  | none =>
      rw [if_neg (by simp)]
      refine ⟨frame, id, rfl, (List.map_id _).symm, some_, ?_, fun _ _ _ _ => rfl⟩
      intro row member
      rw [id, filled row member]
      exact distinct
  | some (adapter, modelParams) =>
      obtain ⟨optional, exclusive, metadata, shape, system, plain⟩ :=
        datasetTransforms_eq adapter modelParams
      simp only [adapterTransforms, shape, List.foldlM_cons, List.foldlM_nil,
        Transforms.call, Option.isSome_some, true_and]
      split
      · next absent =>
          have fails : Transforms.filterColumns ⟨["prompt"], some optional, exclusive⟩ frame =
              none := if_neg fun all => absent (all "prompt" (by simp))
          rw [fails]
          rfl
      · next present =>
          obtain ⟨middle, change, filters, keeps⟩ := keepsTexts_filter filled distinct system
            exclusive (Classical.not_not.mp present)
          obtain ⟨out, adds, keepsOut⟩ := keepsTexts_metadata tools plain keeps
          refine ⟨out, _, ?_, keepsOut⟩
          rw [filters]
          simp only [Option.bind_eq_bind, Option.bind_some]
          rw [Transforms.call] at adds
          rw [adds]
          rfl

end Dataset

end InferenceEndpoint
