import InferenceEndpoint.Library.Json
import Mathlib.Data.List.Basic
import Mathlib.Data.List.Dedup

/-!
# Dataset transforms

Transforms take a data frame to a data frame.  A row processor maps every row on its
own, and neighbouring row processors are fused into one pass over the rows.  A fused
pass runs `process_row` and leaves out what a processor does in `__call__`, which for
`Harmonize` is the look at the tokenized column.
-/

namespace InferenceEndpoint

/-- A row with its columns in order. -/
abbrev Row := List (String × Json)

structure DataFrame where
  columns : List String
  rows : List Row

/-- The settings of a `Harmonizer`. -/
structure HarmonizerSettings where
  tokenizerName : String := "openai/gpt-oss-120b"
  encodingName : String := "HARMONY_GPT_OSS"
  reasoningEffort : String := "high"
  conversationStartDate : Option String := none
  deriving DecidableEq

/-- `str.format` with the values of a row, and the Harmony library; `none` is an
exception. -/
structure TextTools where
  format : String → Row → Option String
  harmonize : HarmonizerSettings → Json → Option Json
  toText : HarmonizerSettings → Json → Option Json

structure Harmonize where
  settings : HarmonizerSettings := {}
  promptColumn : String := "prompt"
  tokenizedColumn : String := "input_tokens"
  harmonizedColumn : Option String := some "harmonized_prompt"

inductive RowProcessor
  | userPromptFormatter (userPromptFormat : String) (outputColumn : String)
  | harmonize (harmonize : Harmonize)

structure ColumnFilter where
  requiredColumns : List String
  optionalColumns : Option (List String)
  exclusive : ∀ optional, optionalColumns = some optional →
    ∀ column ∈ requiredColumns, column ∉ optional

/-- A column that must exist, or candidates of which the first one found is taken. -/
inductive RemapSource
  | explicit (column : String)
  | fuzzy (candidates : List String)

inductive Transform
  | row (processor : RowProcessor)
  | addStaticColumns (data : List (String × Json)) (overwrite : Bool)
  | columnFilter (filter : ColumnFilter)
  | columnRemap (remap : List (RemapSource × String)) (strict : Bool)

/-- A transform after fusion. -/
inductive FusedTransform
  | plain (transform : Transform)
  | fused (rowProcessors : List RowProcessor)

namespace Transforms

def makeAdapterCompatible : Transform :=
  .columnRemap
    [(.fuzzy ["user_prompt", "question", "input", "input_text", "problem", "query"], "prompt"),
      (.fuzzy ["system_prompt"], "system")]
    true

/-! ## Rows -/

/-- The value of a column that occurs once. -/
def valueOf (row : Row) (column : String) : Option Json :=
  match row.filter (·.1 = column) with
  | [(_, value)] => some value
  | _ => none

variable (tools : TextTools)

def harmonizeRow (harmonize : Harmonize) (row : Row) : Option Row :=
  (valueOf row harmonize.promptColumn).bind fun prompt =>
    (tools.harmonize harmonize.settings prompt).bind fun tokens =>
      let row := Json.assign row harmonize.tokenizedColumn tokens
      match harmonize.harmonizedColumn with
      | none => some row
      | some column =>
          (valueOf row harmonize.tokenizedColumn).bind fun tokens =>
            (tools.toText harmonize.settings tokens).map fun text => Json.assign row column text

def processRow : RowProcessor → Row → Option Row
  | .userPromptFormatter userPromptFormat outputColumn, row =>
      (tools.format userPromptFormat row).map fun prompt =>
        Json.assign row outputColumn (.string prompt)
  | .harmonize harmonize, row => harmonizeRow tools harmonize row

/-- The row processors of a fused pass, one after the other. -/
def processRowFused (rowProcessors : List RowProcessor) (row : Row) : Option Row :=
  rowProcessors.foldlM (fun row processor => processRow tools processor row) row

/-- `df.apply(process, axis=1, result_type="expand")`; a frame without rows is copied. -/
def applyRows (process : Row → Option Row) (frame : DataFrame) : Option DataFrame :=
  match frame.rows with
  | [] => some frame
  | first :: rest =>
      (process first).bind fun processed =>
        (rest.mapM process).map fun processedRest =>
          { columns := processed.map (·.1), rows := processed :: processedRest }

/-! ## Columns -/

/-- `pd.isna` of a value. -/
def isNa : Json → Bool
  | .null => true
  | .float literal => literal = "NaN"
  | _ => false

/-- The values of a static column; a list must have one item for each row. -/
def staticValues (value : Json) (rows : Nat) : Option (List Json) :=
  match value with
  | .array items => if items.length = rows then some items else none
  | value => some (List.replicate rows value)

/-- `df[key] = static_value`; a list gives its rows to a frame without rows. -/
def setColumn (frame : DataFrame) (key : String) (value : Json) : Option DataFrame :=
  let columns := if key ∈ frame.columns then frame.columns else frame.columns ++ [key]
  match frame.rows, value with
  | [], .array (item :: items) =>
      some
        { columns := columns
          rows := (item :: items).map fun value =>
            Json.assign (frame.columns.map fun column => (column, .float "NaN")) key value }
  | rows, value =>
      (staticValues value rows.length).map fun values =>
        { columns := columns
          rows := List.zipWith (fun row value => Json.assign row key value) rows values }

/-- Fill the rows that have no value in the column. -/
def fillColumn (frame : DataFrame) (key : String) (value : Json) : Option DataFrame :=
  (staticValues value frame.rows.length).map fun values =>
    { frame with
      rows := List.zipWith (fun row value =>
        if isNa ((Json.lookup row key).getD .null) then Json.assign row key value else row)
        frame.rows values }

def addStaticColumn (overwrite : Bool) (frame : DataFrame) (item : String × Json) :
    Option DataFrame :=
  if overwrite then setColumn frame item.1 item.2
  else
    match item.2 with
    | .null => some frame
    | value =>
        if item.1 ∈ frame.columns then fillColumn frame item.1 value
        else setColumn frame item.1 value

/-- `df[columns_to_keep]`. -/
def selectColumns (frame : DataFrame) (columns : List String) : Option DataFrame :=
  if ∀ column ∈ columns, column ∈ frame.columns then
    some
      { columns := columns.flatMap fun column => frame.columns.filter (· = column)
        rows := frame.rows.map fun row =>
          columns.flatMap fun column => row.filter (·.1 = column) }
  else none

def filterColumns (filter : ColumnFilter) (frame : DataFrame) : Option DataFrame :=
  let found :=
    match filter.optionalColumns with
    | some optional => optional.dedup.filter (· ∈ frame.columns)
    | none => []
  selectColumns frame (filter.requiredColumns ++ found)

/-- The new names that one item of the remap adds. -/
def remapItem (oldColumns : List String) (strict : Bool) (newColumns : List (String × String))
    (item : RemapSource × String) : Option (List (String × String)) :=
  match item.1 with
  | .explicit source =>
      if source ∈ oldColumns then some ((source, item.2) :: newColumns)
      else if strict then none
      else some newColumns
  | .fuzzy candidates =>
      match candidates.filter (· ∈ oldColumns) with
      | [] => some newColumns
      | found :: others =>
          if strict ∧ others ≠ [] then none else some ((found, item.2) :: newColumns)

def remapColumns (remap : List (RemapSource × String)) (strict : Bool) (frame : DataFrame) :
    Option DataFrame :=
  (remap.foldlM (remapItem frame.columns strict) []).map fun newColumns =>
    let rename := fun column => (newColumns.lookup column).getD column
    { columns := frame.columns.map rename
      rows := frame.rows.map fun row => row.map fun cell => (rename cell.1, cell.2) }

/-! ## Frames -/

/-- The `__call__` of a row processor; `Harmonize` skips frames with its tokenized
column. -/
def callRow (processor : RowProcessor) (frame : DataFrame) : Option DataFrame :=
  match processor with
  | .userPromptFormatter userPromptFormat outputColumn =>
      applyRows (processRow tools (.userPromptFormatter userPromptFormat outputColumn)) frame
  | .harmonize harmonize =>
      if harmonize.tokenizedColumn ∈ frame.columns then some frame
      else applyRows (processRow tools (.harmonize harmonize)) frame

def call (transform : Transform) (frame : DataFrame) : Option DataFrame :=
  match transform with
  | .row processor => callRow tools processor frame
  | .addStaticColumns data overwrite => data.foldlM (addStaticColumn overwrite) frame
  | .columnFilter filter => filterColumns filter frame
  | .columnRemap remap strict => remapColumns remap strict frame

def callFused (transform : FusedTransform) (frame : DataFrame) : Option DataFrame :=
  match transform with
  | .plain transform => call tools transform frame
  | .fused rowProcessors => applyRows (processRowFused tools rowProcessors) frame

/-- `_create_fused_transform`, with nothing for an empty list. -/
def createFusedTransform : List RowProcessor → List FusedTransform
  | [] => []
  | [processor] => [.plain (.row processor)]
  | rowProcessors => [.fused rowProcessors]

/-- The loop that collects neighbouring row processors. -/
def fuseRowProcessors (collected : List RowProcessor) : List Transform → List FusedTransform
  | [] => createFusedTransform collected
  | .row processor :: transforms => fuseRowProcessors (collected ++ [processor]) transforms
  | transform :: transforms =>
      createFusedTransform collected ++ .plain transform :: fuseRowProcessors [] transforms

def applyTransforms (frame : DataFrame) (transforms : List Transform) (fuse : Bool) :
    Option DataFrame :=
  if fuse then
    (fuseRowProcessors [] transforms).foldlM (fun frame transform =>
      callFused tools transform frame) frame
  else transforms.foldlM (fun frame transform => call tools transform frame) frame

/-! ## When fusion changes nothing -/

/-- A row processor at this place has a row processor as its neighbour. -/
def HasNeighbour (before after : List Transform) : Prop :=
  (∃ processor, before.getLast? = some (.row processor)) ∨
    ∃ processor, after.head? = some (.row processor)

/-- Each `Harmonize` that is fused gets a frame without its tokenized column, or a frame
that it would give back as it is. -/
def HarmonizesOnce (transforms : List Transform) (frame : DataFrame) : Prop :=
  ∀ before harmonize after reached,
    transforms = before ++ .row (.harmonize harmonize) :: after →
    HasNeighbour before after →
    before.foldlM (fun frame transform => call tools transform frame) frame = some reached →
    harmonize.tokenizedColumn ∈ reached.columns →
    applyRows (harmonizeRow tools harmonize) reached = some reached

variable {tools}

theorem mapM_bind (first second : Row → Option Row) (rows : List Row) :
    (rows.mapM first).bind (fun processed => processed.mapM second) =
      rows.mapM fun row => (first row).bind second := by
  induction rows with
  | nil => rfl
  | cons row rows ih =>
      simp only [List.mapM_cons, Option.bind_eq_bind, Option.pure_def]
      cases first row with
      | none => rfl
      | some processed =>
          simp only [Option.bind_some, ← ih]
          cases rows.mapM first with
          | none => cases second processed <;> rfl
          | some processedRows => simp [List.mapM_cons]

/-- Two passes over the rows are one. -/
theorem applyRows_bind (first second : Row → Option Row) (frame : DataFrame) :
    (applyRows first frame).bind (applyRows second) =
      applyRows (fun row => (first row).bind second) frame := by
  obtain ⟨columns, rows⟩ := frame
  cases rows with
  | nil => rfl
  | cons row rows =>
      have joined := mapM_bind first second rows
      simp only [applyRows]
      cases first row with
      | none => rfl
      | some processed =>
          simp only [Option.bind_some, ← joined]
          cases rows.mapM first with
          | none => cases second processed <;> rfl
          | some processedRows => rfl

theorem applyRows_fused (processor : RowProcessor) (rest : List RowProcessor)
    (frame : DataFrame) :
    applyRows (processRowFused tools (processor :: rest)) frame =
      (processor :: rest).foldlM
        (fun frame processor => applyRows (processRow tools processor) frame) frame := by
  induction rest generalizing processor frame with
  | nil =>
      have alone : processRowFused tools [processor] = processRow tools processor := by
        funext row
        simp [processRowFused]
      simp [alone]
  | cons next rest ih =>
      have split : processRowFused tools (processor :: next :: rest) =
          fun row => (processRow tools processor row).bind
            (processRowFused tools (next :: rest)) := by
        funext row
        rw [processRowFused, List.foldlM_cons]
        rfl
      rw [split, ← applyRows_bind, List.foldlM_cons]
      cases applyRows (processRow tools processor) frame with
      | none => rfl
      | some processed => exact ih next processed

/-- A processor on its own does what a fused one does, unless it skips. -/
theorem callRow_eq (processor : RowProcessor) (frame : DataFrame)
    (skips : ∀ harmonize, processor = .harmonize harmonize →
      harmonize.tokenizedColumn ∈ frame.columns →
      applyRows (harmonizeRow tools harmonize) frame = some frame) :
    applyRows (processRow tools processor) frame = callRow tools processor frame := by
  cases processor with
  | userPromptFormatter userPromptFormat outputColumn => rfl
  | harmonize harmonize =>
      have unfolded : applyRows (processRow tools (.harmonize harmonize)) frame =
          applyRows (harmonizeRow tools harmonize) frame := rfl
      by_cases present : harmonize.tokenizedColumn ∈ frame.columns
      · simp [callRow, present, unfolded, skips harmonize rfl present]
      · simp [callRow, present]

/-- A whole group of processors, with what each of its `Harmonize` gets. -/
theorem applyRows_group (rowProcessors : List RowProcessor) (frame : DataFrame)
    (skips : ∀ before harmonize after reached,
      rowProcessors = before ++ .harmonize harmonize :: after →
      before.foldlM (fun frame processor => callRow tools processor frame) frame =
        some reached →
      harmonize.tokenizedColumn ∈ reached.columns →
      applyRows (harmonizeRow tools harmonize) reached = some reached) :
    rowProcessors.foldlM
        (fun frame processor => applyRows (processRow tools processor) frame) frame =
      rowProcessors.foldlM (fun frame processor => callRow tools processor frame) frame := by
  induction rowProcessors generalizing frame with
  | nil => rfl
  | cons processor rest ih =>
      have here : applyRows (processRow tools processor) frame = callRow tools processor frame :=
        callRow_eq processor frame fun harmonize isHarmonize =>
          skips [] harmonize rest frame (by rw [isHarmonize]; rfl) rfl
      rw [List.foldlM_cons, List.foldlM_cons, here]
      cases called : callRow tools processor frame with
      | none => rfl
      | some processed =>
          apply ih processed
          intro before harmonize after reached split runs
          apply skips (processor :: before) harmonize after reached (by rw [split]; rfl)
          rw [List.foldlM_cons, called]
          exact runs

theorem foldlM_rows (rowProcessors : List RowProcessor) (frame : DataFrame) :
    (rowProcessors.map Transform.row).foldlM
        (fun frame transform => call tools transform frame) frame =
      rowProcessors.foldlM (fun frame processor => callRow tools processor frame) frame := by
  rw [List.foldlM_map]
  rfl

theorem HasNeighbour.extend {before after : List Transform} (pre : List Transform)
    (neighbour : HasNeighbour before after) : HasNeighbour (pre ++ before) after := by
  obtain ⟨processor, last⟩ | next := neighbour
  · exact .inl ⟨processor, by rw [List.getLast?_append, last]; rfl⟩
  · exact .inr next

theorem HarmonizesOnce.rest {pre rest : List Transform} {frame reached : DataFrame}
    (once : HarmonizesOnce tools (pre ++ rest) frame)
    (runs : pre.foldlM (fun frame transform => call tools transform frame) frame =
      some reached) :
    HarmonizesOnce tools rest reached := by
  intro before harmonize after later split neighbour runsOn
  apply once (pre ++ before) harmonize after later
  · rw [split, List.append_assoc]
  · exact neighbour.extend pre
  · rw [List.foldlM_append, runs]
    exact runsOn

/-- One group, fused or not, where `rest` is what follows it. -/
theorem callFused_group (rowProcessors : List RowProcessor) (rest : List Transform)
    (frame : DataFrame)
    (once : HarmonizesOnce tools (rowProcessors.map .row ++ rest) frame) :
    (createFusedTransform rowProcessors).foldlM
        (fun frame transform => callFused tools transform frame) frame =
      (rowProcessors.map Transform.row).foldlM
        (fun frame transform => call tools transform frame) frame := by
  match rowProcessors with
  | [] => rfl
  | [processor] => rfl
  | first :: second :: others =>
      rw [foldlM_rows, ← applyRows_group, ← applyRows_fused]
      · simp [createFusedTransform, callFused]
      · intro before harmonize after reached split runs
        refine once (before.map .row) harmonize (after.map .row ++ rest) reached ?_ ?_ ?_
        · rw [split]
          simp
        · cases before with
          | nil =>
              have next : after = second :: others := (List.cons.inj split).2.symm
              exact .inr ⟨second, by simp [next]⟩
          | cons earlier before =>
              refine .inl ⟨(earlier :: before).getLast (by simp), ?_⟩
              rw [List.getLast?_map, List.getLast?_eq_some_getLast (by simp)]
              rfl
        · rw [foldlM_rows]
          exact runs

theorem fuseRowProcessors_eq (transforms : List Transform) (collected : List RowProcessor)
    (frame : DataFrame)
    (once : HarmonizesOnce tools (collected.map .row ++ transforms) frame) :
    (fuseRowProcessors collected transforms).foldlM
        (fun frame transform => callFused tools transform frame) frame =
      (collected.map Transform.row ++ transforms).foldlM
        (fun frame transform => call tools transform frame) frame := by
  induction transforms generalizing collected frame with
  | nil =>
      rw [List.append_nil]
      exact callFused_group collected [] frame once
  | cons transform transforms ih =>
      by_cases isRow : ∃ processor, transform = .row processor
      · obtain ⟨processor, rfl⟩ := isRow
        have joined : collected.map Transform.row ++ .row processor :: transforms =
            (collected ++ [processor]).map .row ++ transforms := by simp
        rw [joined] at once ⊢
        exact ih (collected ++ [processor]) frame once
      · -- the group ends here
        have flushed : fuseRowProcessors collected (transform :: transforms) =
            createFusedTransform collected ++ .plain transform ::
              fuseRowProcessors [] transforms := by
          cases transform with
          | row processor => exact absurd ⟨processor, rfl⟩ isRow
          | _ => rfl
        rw [flushed, List.foldlM_append, List.foldlM_append,
          callFused_group collected (transform :: transforms) frame once]
        cases grouped : (collected.map Transform.row).foldlM
            (fun frame transform => call tools transform frame) frame with
        | none => rfl
        | some reached =>
            have onceLater := once.rest grouped
            simp only [Option.bind_eq_bind, Option.bind_some, List.foldlM_cons]
            change (call tools transform reached).bind _ = (call tools transform reached).bind _
            cases called : call tools transform reached with
            | none => rfl
            | some later =>
                apply ih [] later
                have calledAlone : [transform].foldlM
                    (fun frame transform => call tools transform frame) reached = some later := by
                  simp [called]
                exact HarmonizesOnce.rest onceLater calledAlone

/-- Fusion leaves the frame as it is without it, in particular its rows. -/
theorem applyTransforms_fuse (tools : TextTools) (transforms : List Transform)
    (frame : DataFrame) (once : HarmonizesOnce tools transforms frame) :
    applyTransforms tools frame transforms true = applyTransforms tools frame transforms false :=
  fuseRowProcessors_eq transforms [] frame once

/-- A host without the Harmony vocabulary, for the format `"{prompt}"`. -/
def offline : TextTools where
  format := fun _ row =>
    match valueOf row "prompt" with
    | some (.string prompt) => some prompt
    | _ => none
  harmonize := fun _ _ => none
  toText := fun _ _ => none

def formatPrompt : Transform := .row (.userPromptFormatter "\x7bprompt\x7d" "prompt")

/-- A frame whose prompts are tokenized already. -/
def tokenized : DataFrame where
  columns := ["prompt", "input_tokens"]
  rows := [[("prompt", .string "hi"), ("input_tokens", .array [.int 1])]]

theorem applyTransforms_fuse_tokenized :
    applyTransforms offline tokenized
        [formatPrompt, formatPrompt, .columnFilter ⟨["prompt", "input_tokens"], none, by simp⟩,
          .row (.harmonize {})] true =
      applyTransforms offline tokenized
        [formatPrompt, formatPrompt, .columnFilter ⟨["prompt", "input_tokens"], none, by simp⟩,
          .row (.harmonize {})] false := by
  apply applyTransforms_fuse
  intro before harmonize after reached split neighbour
  match before, split with
  | [], split => simp [formatPrompt] at split
  | [_], split => simp [formatPrompt] at split
  | [_, _], split => simp at split
  | [_, _, filter], split =>
      -- the only `Harmonize` stands after the filter
      simp only [List.cons_append, List.nil_append, List.cons.injEq] at split
      obtain ⟨-, -, rfl, -, rfl⟩ := split
      simp [HasNeighbour] at neighbour
  | _ :: _ :: _ :: _ :: _, split => simp at split

/-- Fused with the prompt format, `Harmonize` runs on prompts that are tokenized. -/
theorem applyTransforms_fuse_fails :
    ¬∀ (tools : TextTools) (transforms : List Transform) (frame : DataFrame),
      applyTransforms tools frame transforms true =
        applyTransforms tools frame transforms false := by
  intro same
  have fused : applyTransforms offline tokenized [formatPrompt, .row (.harmonize {})] true =
      none := rfl
  have plain : applyTransforms offline tokenized [formatPrompt, .row (.harmonize {})] false =
      some tokenized := rfl
  rw [same, plain] at fused
  cases fused

end Transforms

end InferenceEndpoint
