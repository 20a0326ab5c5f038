import InferenceEndpoint.DatasetManager.FileLoading
import InferenceEndpoint.Library.OrderedDict
import Mathlib.Data.List.Perm.Subperm

/-!
# Parser mappings of file datasets

A dataset file may name the columns that hold the prompts and the system texts.  The
loader turns this mapping round into a renaming, which is followed by a second one that
looks for columns with common names.
-/

namespace InferenceEndpoint

open RelabelKeys

namespace DataLoaderFactory

/-- `{src: dst for dst, src in remap.items()}`. -/
def flipped (remap : OrderedDict String String) : OrderedDict String String :=
  remap.entries.foldl (fun flipped item => flipped.insert item.2 item.1) ∅

def explicitRemap (remap : OrderedDict String String) : Transform :=
  .columnRemap ((flipped remap).entries.map fun item => (.explicit item.1, item.2)) true

/-- The transforms of a file dataset without agentic inference. -/
def fileTransforms (remap : Option (OrderedDict String String)) : List Transform :=
  (remap.map explicitRemap).toList ++ [Transforms.makeAdapterCompatible]

end DataLoaderFactory

/-! ## What a mapping asks for -/

/-- The columns of a file, and a mapping whose sources are among them. -/
structure FileRequest where
  columns : List String
  distinct : columns.Nodup
  remap : Option (OrderedDict String String)
  targets : ∀ mapping, remap = some mapping →
    ∀ target ∈ mapping.keys, target = "prompt" ∨ target = "system"
  sources : ∀ mapping, remap = some mapping → ∀ source ∈ mapping.values, source ∈ columns
  prompted : remap = none → "prompt" ∈ columns

namespace FileRequest

variable (request : FileRequest)

def mapping : OrderedDict String String :=
  request.remap.getD ∅

/-- The column that a field is to come from: the mapped one, or else its own. -/
def source? (target : String) : Option String :=
  match request.mapping.get? target with
  | some source => some source
  | none => if target ∈ request.columns then some target else none

/-- A file with these columns. -/
structure Reads (frame : DataFrame) : Prop where
  columns : frame.columns = request.columns
  filled : ∀ row ∈ frame.rows, row.map (·.1) = request.columns

/-- No step of a list of renamings gives two columns the same name. -/
def StepsDistinct (tools : TextTools) : List Transform → DataFrame → Prop
  | [], _ => True
  | transform :: transforms, frame =>
      ∀ renamed, Transforms.call tools transform frame = some renamed →
        renamed.columns.Nodup ∧ StepsDistinct tools transforms renamed

/-- What the mapping asks for, in every file with these columns. -/
structure Honoured (tools : TextTools) (adapter : Option (ChatAdapter × ModelParams)) :
    Prop where
  requested : ∀ target ∈ request.mapping.keys,
    target ∈ (DataLoaderFactory.flipped request.mapping).values
  distinct : ∀ frame, request.Reads frame →
    StepsDistinct tools (DataLoaderFactory.fileTransforms request.remap) frame
  samples : ∀ frame, request.Reads frame → ∀ samples,
    Dataset.load tools (DataLoaderFactory.fileTransforms request.remap)
        (Dataset.adapterTransforms adapter) frame = some samples →
      ∀ target ∈ ["prompt", "system"], ∀ source, request.source? target = some source →
        samples.map (Json.lookup · target) = frame.rows.map (Json.lookup · source)

/-- A name is taken once the mapping is applied. -/
def Taken (name : String) : Prop :=
  name ∈ request.mapping.keys ∨ name ∈ request.columns ∧ name ∉ request.mapping.values

instance : DecidablePred request.Taken :=
  fun _ => inferInstanceAs (Decidable (_ ∨ _))

/-- The columns that are left and may hold a prompt. -/
def promptCandidates : List String :=
  ["user_prompt", "question", "input", "input_text", "problem", "query"].filter
    (request.Taken ·)

/-- When the mapping is honoured. -/
structure Honourable (adapter : Option (ChatAdapter × ModelParams)) : Prop where
  /-- The two fields do not come from one column. -/
  apart : request.mapping.values.Nodup
  /-- A column with the name of a target is mapped, too. -/
  free : ∀ target ∈ request.mapping.keys, target ∈ request.columns →
    target ∈ request.mapping.values
  /-- No column is guessed to be the prompt when there is one. -/
  promptFree : request.promptCandidates.length = 1 → ¬ request.Taken "prompt"
  systemFree : request.promptCandidates.length ≤ 1 → request.Taken "system_prompt" →
    ¬ request.Taken "system"
  /-- A field's own column is not mapped away, or else loading raises. -/
  stays : ∀ target, target = "prompt" ∨ target = "system" → target ∈ request.columns →
    target ∈ request.mapping.values → target ∈ request.mapping.keys ∨
      1 < request.promptCandidates.length ∨
      target = "prompt" ∧ request.promptCandidates = [] ∧ adapter.isSome

end FileRequest

/-! ## Renaming the columns of a frame -/

namespace DataFrame

def relabel (rename : String → String) (frame : DataFrame) : DataFrame where
  columns := frame.columns.map rename
  rows := frame.rows.map (RelabelKeys.relabel rename)

theorem relabel_relabel (first second : String → String) (frame : DataFrame) :
    (frame.relabel first).relabel second = frame.relabel (second ∘ first) := by
  have rows : frame.rows.map (RelabelKeys.relabel second ∘ RelabelKeys.relabel first) =
      frame.rows.map (RelabelKeys.relabel (second ∘ first)) :=
    List.map_congr_left fun row _ => RelabelKeys.relabel_relabel first second row
  simp [relabel, rows]

theorem relabel_id (frame : DataFrame) : frame.relabel id = frame := by
  have rows : frame.rows.map (RelabelKeys.relabel id) = frame.rows :=
    (List.map_congr_left fun row _ => RelabelKeys.relabel_id row).trans (List.map_id _)
  simp [relabel, rows]

end DataFrame

namespace DataLoaderFactory

/-- Where the two fields come from different columns, turning the mapping round loses
nothing. -/
theorem entries_flipped_of_nodup {remap : OrderedDict String String}
    (apart : remap.values.Nodup) :
    (flipped remap).entries = remap.entries.map fun item => (item.2, item.1) := by
  have grows : ∀ (entries : List (String × String)) (start : OrderedDict String String),
      (start.keys ++ entries.map (·.2)).Nodup →
      (entries.foldl (fun flipped item => flipped.insert item.2 item.1) start).entries =
        start.entries ++ entries.map fun item => (item.2, item.1) := by
    intro entries
    induction entries with
    | nil => simp
    | cons item entries ih =>
        intro start distinct
        have fresh : item.2 ∉ start.keys := by
          intro old
          exact (List.nodup_append.mp distinct).2.2 _ old item.2 (by simp) rfl
        have inserted : (start.insert item.2 item.1).entries =
            start.entries ++ [(item.2, item.1)] := by
          simp [OrderedDict.insert, fresh]
        have keys : (start.insert item.2 item.1).keys = start.keys ++ [item.2] := by
          simp [OrderedDict.keys, inserted]
        rw [List.foldl_cons, ih _ (by rw [keys]; simpa using distinct), inserted]
        simp
  exact grows remap.entries ∅ (by simpa [OrderedDict.values] using apart)

theorem mem_keys_flipped {remap : OrderedDict String String} {source : String}
    (member : source ∈ (flipped remap).keys) : source ∈ remap.values := by
  have all : ∀ (entries : List (String × String)) (start : OrderedDict String String),
      source ∈ (entries.foldl (fun flipped item => flipped.insert item.2 item.1) start).keys →
      source ∈ start.keys ∨ source ∈ entries.map (·.2) := by
    intro entries
    induction entries with
    | nil => exact fun start there => .inl there
    | cons item entries ih =>
        intro start there
        rw [List.foldl_cons] at there
        obtain old | later := ih _ there
        · by_cases same : source = item.2
          · exact .inr (by simp [same])
          · rw [← OrderedDict.get?_isSome_iff, OrderedDict.get?_insert_of_ne _ _ same,
              OrderedDict.get?_isSome_iff] at old
            exact .inl old
        · exact .inr (by simp [later])
  obtain old | there := all remap.entries ∅ member
  · cases old
  · exact there

theorem size_flipped_le (remap : OrderedDict String String) :
    (flipped remap).keys.length ≤ remap.values.dedup.length := by
  apply (List.Nodup.subperm (flipped remap).nodup_keys _).length_le
  intro source member
  exact List.mem_dedup.mpr (mem_keys_flipped member)

/-- Two fields from one column: one of them is lost when the mapping is turned round. -/
theorem apart_of_requested {remap : OrderedDict String String}
    (requested : ∀ target ∈ remap.keys, target ∈ (flipped remap).values) :
    remap.values.Nodup := by
  have fits : remap.keys.length ≤ (flipped remap).values.length :=
    (List.Nodup.subperm remap.nodup_keys fun target member =>
      requested target member).length_le
  have small := size_flipped_le remap
  have sizes : (flipped remap).values.length = (flipped remap).keys.length := by
    simp [OrderedDict.values, OrderedDict.keys]
  have sameSize : remap.values.length = remap.keys.length := by
    simp [OrderedDict.values, OrderedDict.keys]
  have notShorter : remap.values.length ≤ remap.values.dedup.length := by omega
  have whole : remap.values.dedup = remap.values :=
    (List.dedup_sublist _).eq_of_length_le notShorter
  exact List.dedup_eq_self.mp whole

/-- The new name of a column under the mapping. -/
def mappedName (remap : OrderedDict String String) (column : String) : String :=
  ((flipped remap).entries.reverse.lookup column).getD column

theorem foldlM_explicit (columns : List String) (entries start : List (String × String))
    (there : ∀ item ∈ entries, item.1 ∈ columns) :
    (entries.map fun item => (RemapSource.explicit item.1, item.2)).foldlM
        (Transforms.remapItem columns true) start = some (entries.reverse ++ start) := by
  induction entries generalizing start with
  | nil => rfl
  | cons item entries ih =>
      have first : Transforms.remapItem columns true start (.explicit item.1, item.2) =
          some (item :: start) := by
        simp [Transforms.remapItem, there item List.mem_cons_self]
      rw [List.map_cons, List.foldlM_cons, first]
      simp only [Option.bind_eq_bind, Option.bind_some]
      rw [ih (item :: start) fun other member => there other (List.mem_cons_of_mem _ member)]
      simp

theorem call_explicitRemap (tools : TextTools) {remap : OrderedDict String String}
    {frame : DataFrame} (there : ∀ source ∈ remap.values, source ∈ frame.columns) :
    Transforms.call tools (explicitRemap remap) frame =
      some (frame.relabel (mappedName remap)) := by
  have all := foldlM_explicit frame.columns (flipped remap).entries []
    fun item member => there item.1 (mem_keys_flipped (List.mem_map_of_mem member))
  rw [List.append_nil] at all
  simp only [Transforms.call, explicitRemap, Transforms.remapColumns, all, Option.map_some]
  rfl

theorem mappedName_source {remap : OrderedDict String String} (apart : remap.values.Nodup)
    {target source : String} (mapped : (target, source) ∈ remap.entries) :
    mappedName remap source = target := by
  have entries := entries_flipped_of_nodup apart
  have member : (source, target) ∈ (flipped remap).entries := by
    rw [entries]
    exact List.mem_map.mpr ⟨_, mapped, rfl⟩
  cases found : (flipped remap).entries.reverse.lookup source with
  | none =>
      have absent := List.lookup_eq_none_iff.mp found _ (List.mem_reverse.mpr member)
      simp at absent
  | some other =>
      have there := List.mem_reverse.mp (mem_of_lookup found)
      have same : other = target :=
        Option.some_inj.mp ((OrderedDict.get?_eq_some_iff.mpr there).symm.trans
          (OrderedDict.get?_eq_some_iff.mpr member))
      simp [mappedName, found, same]

theorem mappedName_other {remap : OrderedDict String String} {column : String}
    (unmapped : column ∉ remap.values) : mappedName remap column = column := by
  have absent : (flipped remap).entries.reverse.lookup column = none := by
    apply lookup_eq_none_of_notMem
    intro member
    apply unmapped
    apply mem_keys_flipped
    simpa [OrderedDict.keys] using member
  simp [mappedName, absent]

/-! ## The guessed names -/

/-- The columns that may hold a prompt. -/
def promptColumns (columns : List String) : List String :=
  ["user_prompt", "question", "input", "input_text", "problem", "query"].filter (· ∈ columns)

/-- The new name of a column where at most one may hold a prompt. -/
def guessedName (columns : List String) (column : String) : String :=
  if column ∈ promptColumns columns then "prompt"
  else if column = "system_prompt" ∧ column ∈ columns then "system"
  else column

theorem guessedName_prompt (columns : List String) : guessedName columns "prompt" = "prompt" := by
  simp [guessedName, promptColumns]

theorem guessedName_system (columns : List String) : guessedName columns "system" = "system" := by
  simp [guessedName, promptColumns]

/-- The items of the second renaming, the last one first. -/
def guesses (columns : List String) : List (String × String) :=
  (if "system_prompt" ∈ columns then [("system_prompt", "system")] else []) ++
    (promptColumns columns).map (·, "prompt")

theorem lookup_map_const (names : List String) (target name : String) :
    (names.map (·, target)).lookup name = if name ∈ names then some target else none := by
  induction names with
  | nil => rfl
  | cons first names ih =>
      by_cases same : name = first
      · subst same
        rw [List.map_cons, if_pos List.mem_cons_self]
        exact lookup_cons_same (name, target) _
      · rw [List.map_cons, @lookup_cons_other _ _ _ name (first, target) same, ih]
        simp [same]

theorem lookup_guesses (columns : List String) (column : String) :
    ((guesses columns).lookup column).getD column = guessedName columns column := by
  rw [guesses, List.lookup_append, lookup_map_const]
  by_cases same : column = "system_prompt"
  · subst same
    have notPrompt : "system_prompt" ∉ promptColumns columns := by simp [promptColumns]
    by_cases there : "system_prompt" ∈ columns <;> simp [guessedName, notPrompt, there]
  · have elsewhere : (if "system_prompt" ∈ columns then [("system_prompt", "system")]
        else []).lookup column = none := by
      apply lookup_eq_none_of_notMem
      split <;> simp [same]
    rw [elsewhere, Option.none_or]
    by_cases isPrompt : column ∈ promptColumns columns <;> simp [guessedName, isPrompt, same]

theorem remapItem_system (columns : List String) (start : List (String × String)) :
    Transforms.remapItem columns true start (.fuzzy ["system_prompt"], "system") =
      some ((if "system_prompt" ∈ columns then [("system_prompt", "system")] else []) ++
        start) := by
  by_cases there : "system_prompt" ∈ columns <;> simp [Transforms.remapItem, there]

/-- The one column taken for the prompt: several are refused. -/
def onlyPrompt : List String → Option (List (String × String))
  | [] => some []
  | found :: others => if true = true ∧ others ≠ [] then none else some [(found, "prompt")]

theorem remapItem_prompt (columns : List String) :
    Transforms.remapItem columns true []
        (.fuzzy ["user_prompt", "question", "input", "input_text", "problem", "query"],
          "prompt") =
      if 1 < (promptColumns columns).length then none
      else some ((promptColumns columns).map (·, "prompt")) := by
  have unfolded : Transforms.remapItem columns true []
      (.fuzzy ["user_prompt", "question", "input", "input_text", "problem", "query"],
        "prompt") = onlyPrompt (promptColumns columns) := rfl
  rw [unfolded]
  rcases promptColumns columns with _ | ⟨found, _ | ⟨second, others⟩⟩
  · rfl
  · simp [onlyPrompt]
  · simp [onlyPrompt]

/-- The second renaming fails where several columns may hold a prompt. -/
theorem call_makeAdapterCompatible (tools : TextTools) (frame : DataFrame) :
    Transforms.call tools Transforms.makeAdapterCompatible frame =
      if 1 < (promptColumns frame.columns).length then none
      else some (frame.relabel (guessedName frame.columns)) := by
  have names : (fun column => ((guesses frame.columns).lookup column).getD column) =
      guessedName frame.columns := funext (lookup_guesses frame.columns)
  simp only [Transforms.call, Transforms.makeAdapterCompatible, Transforms.remapColumns,
    List.foldlM_cons, List.foldlM_nil, remapItem_prompt]
  by_cases several : 1 < (promptColumns frame.columns).length
  · simp [several]
  · simp only [if_neg several, Option.bind_eq_bind, Option.bind_some, remapItem_system,
      Option.pure_def, Option.map_some]
    rw [← names]
    rfl

/-- When the guessed names are different. -/
theorem nodup_guessed_iff {columns : List String} (distinct : columns.Nodup)
    (few : (promptColumns columns).length ≤ 1) :
    (columns.map (guessedName columns)).Nodup ↔
      ((promptColumns columns).length = 1 → "prompt" ∉ columns) ∧
        ("system_prompt" ∈ columns → "system" ∉ columns) := by
  constructor
  · intro guessed
    have same := List.inj_on_of_nodup_map guessed
    constructor
    · intro one prompt
      obtain ⟨found, isFound⟩ := List.length_eq_one_iff.mp one
      have member : found ∈ promptColumns columns := by simp [isFound]
      have inColumns : found ∈ columns := by simpa using (List.mem_filter.mp member).2
      have guess : guessedName columns found = guessedName columns "prompt" := by
        rw [guessedName_prompt, guessedName, if_pos member]
      obtain rfl := same inColumns prompt guess
      simp [promptColumns] at member
    · intro systemPrompt system
      have guess : guessedName columns "system_prompt" = guessedName columns "system" := by
        rw [guessedName_system]
        simp [guessedName, promptColumns, systemPrompt]
      have equal := same systemPrompt system guess
      revert equal
      decide
  · rintro ⟨promptFree, systemFree⟩
    have unique : ∀ first ∈ promptColumns columns, ∀ second ∈ promptColumns columns,
        first = second := by
      match found : promptColumns columns, few with
      | [], _ => simp
      | [only], _ => simp
      | _ :: _ :: _, few => simp at few
    have onePrompt : ∀ column ∈ promptColumns columns, "prompt" ∉ columns := by
      intro column member
      have some_ := List.length_pos_of_mem member
      exact promptFree (by omega)
    apply distinct.map_on
    intro first firstIn second secondIn equal
    unfold guessedName at equal
    split at equal
    · next firstPrompt =>
        split at equal
        · next secondPrompt => exact unique _ firstPrompt _ secondPrompt
        · split at equal
          · exact absurd equal (by decide)
          · exact absurd (equal ▸ secondIn) (onePrompt _ firstPrompt)
    · split at equal
      · next firstSystem =>
          split at equal
          · exact absurd equal (by decide)
          · split at equal
            · next secondSystem => exact firstSystem.1.trans secondSystem.1.symm
            · exact absurd (equal ▸ secondIn) (systemFree (firstSystem.1 ▸ firstSystem.2))
      · split at equal
        · next secondPrompt => exact absurd (equal ▸ firstIn) (onePrompt _ secondPrompt)
        · split at equal
          · next secondSystem =>
              exact absurd (equal ▸ firstIn) (systemFree (secondSystem.1 ▸ secondSystem.2))
          · exact equal

end DataLoaderFactory

/-! ## When a mapping is honoured -/

namespace FileRequest

open DataLoaderFactory Dataset

variable (request : FileRequest)

/-- The columns once the mapping is applied. -/
def mappedColumns : List String :=
  request.columns.map (mappedName request.mapping)

/-- The final name of a column. -/
def finalName (column : String) : String :=
  guessedName request.mappedColumns (mappedName request.mapping column)

variable {request}

theorem mapping_target {target : String} (member : target ∈ request.mapping.keys) :
    target = "prompt" ∨ target = "system" := by
  cases isRemap : request.remap with
  | none => simp [mapping, isRemap] at member
  | some remap =>
      exact request.targets remap isRemap target (by simpa [mapping, isRemap] using member)

theorem mapping_source {source : String} (member : source ∈ request.mapping.values) :
    source ∈ request.columns := by
  cases isRemap : request.remap with
  | none =>
      rw [mapping, isRemap] at member
      cases member
  | some remap =>
      exact request.sources remap isRemap source (by simpa [mapping, isRemap] using member)

theorem guessedName_target (columns : List String) {target : String}
    (isText : target = "prompt" ∨ target = "system") : guessedName columns target = target := by
  obtain rfl | rfl := isText
  · exact guessedName_prompt columns
  · exact guessedName_system columns

/-- Loading without a mapping is loading with an empty one. -/
theorem call_mapping (tools : TextTools) {frame : DataFrame} (reads : request.Reads frame) :
    Transforms.call tools (explicitRemap request.mapping) frame =
      some (frame.relabel (mappedName request.mapping)) := by
  apply call_explicitRemap
  intro source member
  rw [reads.columns]
  exact mapping_source member

theorem mappedName_mapping_none (noRemap : request.remap = none) :
    mappedName request.mapping = id := by
  funext column
  apply mappedName_other
  rw [mapping, noRemap]
  exact List.not_mem_nil

theorem call_guess (tools : TextTools) {frame : DataFrame} (reads : request.Reads frame) :
    Transforms.call tools Transforms.makeAdapterCompatible
        (frame.relabel (mappedName request.mapping)) =
      if 1 < (promptColumns request.mappedColumns).length then none
      else some (frame.relabel request.finalName) := by
  have columns : (frame.relabel (mappedName request.mapping)).columns =
      request.mappedColumns := by
    rw [DataFrame.relabel, reads.columns]
    rfl
  rw [call_makeAdapterCompatible, columns, DataFrame.relabel_relabel]
  rfl

theorem run_fileTransforms (tools : TextTools) {frame : DataFrame}
    (reads : request.Reads frame) :
    (fileTransforms request.remap).foldlM
        (fun frame transform => Transforms.call tools transform frame) frame =
      if 1 < (promptColumns request.mappedColumns).length then none
      else some (frame.relabel request.finalName) := by
  have guess := call_guess tools reads
  cases isRemap : request.remap with
  | none =>
      rw [mappedName_mapping_none isRemap, DataFrame.relabel_id] at guess
      rw [← guess]
      simp [fileTransforms]
  | some remap =>
      have isMapping : request.mapping = remap := by simp [mapping, isRemap]
      have first := call_mapping tools reads
      rw [isMapping] at first guess
      rw [← guess]
      simp [fileTransforms, first]

theorem stepsDistinct_iff (tools : TextTools) {frame : DataFrame}
    (reads : request.Reads frame) :
    StepsDistinct tools (fileTransforms request.remap) frame ↔
      request.mappedColumns.Nodup ∧
        (¬ 1 < (promptColumns request.mappedColumns).length →
          (request.mappedColumns.map (guessedName request.mappedColumns)).Nodup) := by
  have guess := call_guess tools reads
  have final : (frame.relabel request.finalName).columns =
      request.mappedColumns.map (guessedName request.mappedColumns) := by
    simp [DataFrame.relabel, reads.columns, mappedColumns, finalName]
  have guessed : (∀ renamed, (if 1 < (promptColumns request.mappedColumns).length then none
        else some (frame.relabel request.finalName)) = some renamed → renamed.columns.Nodup) ↔
      (¬ 1 < (promptColumns request.mappedColumns).length →
        (request.mappedColumns.map (guessedName request.mappedColumns)).Nodup) := by
    by_cases several : 1 < (promptColumns request.mappedColumns).length
    · simp [several]
    · rw [if_neg several]
      simp only [Option.some.injEq, forall_eq', final, several, not_false_eq_true, true_implies]
  cases isRemap : request.remap with
  | none =>
      have distinct : request.mappedColumns.Nodup := by
        rw [mappedColumns, mappedName_mapping_none isRemap, List.map_id]
        exact request.distinct
      rw [mappedName_mapping_none isRemap, DataFrame.relabel_id] at guess
      simp only [fileTransforms, Option.map_none, Option.toList_none, List.nil_append,
        StepsDistinct, guess, and_true, guessed, distinct, true_and]
  | some remap =>
      have isMapping : request.mapping = remap := by simp [mapping, isRemap]
      have first := call_mapping tools reads
      rw [isMapping] at first guess
      have mapped : (frame.relabel (mappedName remap)).columns = request.mappedColumns := by
        rw [DataFrame.relabel, reads.columns, mappedColumns, isMapping]
      simp only [fileTransforms, Option.map_some, Option.toList_some, List.singleton_append,
        StepsDistinct, first, Option.some.injEq, forall_eq', mapped, guess, and_true, guessed]

/-! ### Names -/

section

variable (apart : request.mapping.values.Nodup)

include apart

theorem mem_mappedColumns {name : String} :
    name ∈ request.mappedColumns ↔ request.Taken name := by
  rw [mappedColumns, List.mem_map]
  constructor
  · rintro ⟨column, member, rfl⟩
    by_cases mapped : column ∈ request.mapping.values
    · obtain ⟨⟨target, source⟩, entry, rfl⟩ := List.mem_map.mp mapped
      rw [mappedName_source apart entry]
      exact .inl (List.mem_map_of_mem entry)
    · rw [mappedName_other mapped]
      exact .inr ⟨member, mapped⟩
  · rintro (isTarget | ⟨member, unmapped⟩)
    · obtain ⟨⟨target, source⟩, entry, rfl⟩ := List.mem_map.mp isTarget
      exact ⟨source, mapping_source (List.mem_map_of_mem entry), mappedName_source apart entry⟩
    · exact ⟨name, member, mappedName_other unmapped⟩

theorem promptColumns_mapped :
    promptColumns request.mappedColumns = request.promptCandidates := by
  apply List.filter_congr
  intro column _
  exact decide_eq_decide.mpr (mem_mappedColumns apart)

theorem nodup_mapped_iff :
    request.mappedColumns.Nodup ↔ ∀ target ∈ request.mapping.keys,
      target ∈ request.columns → target ∈ request.mapping.values := by
  constructor
  · intro mapped target isTarget member
    by_contra unmapped
    obtain ⟨⟨target, source⟩, entry, rfl⟩ := List.mem_map.mp isTarget
    have isSource : source ∈ request.mapping.values := List.mem_map_of_mem entry
    have names : mappedName request.mapping source = mappedName request.mapping target := by
      rw [mappedName_source apart entry, mappedName_other unmapped]
    have same := List.inj_on_of_nodup_map mapped (mapping_source isSource) member names
    exact unmapped (same ▸ isSource)
  · intro free
    apply request.distinct.map_on
    intro first firstIn second secondIn equal
    by_cases firstMapped : first ∈ request.mapping.values
    · obtain ⟨⟨firstTarget, _⟩, firstEntry, rfl⟩ := List.mem_map.mp firstMapped
      rw [mappedName_source apart firstEntry] at equal
      by_cases secondMapped : second ∈ request.mapping.values
      · obtain ⟨⟨secondTarget, _⟩, secondEntry, rfl⟩ := List.mem_map.mp secondMapped
        rw [mappedName_source apart secondEntry] at equal
        subst equal
        have firstFound := OrderedDict.get?_eq_some_iff.mpr firstEntry
        have secondFound := OrderedDict.get?_eq_some_iff.mpr secondEntry
        exact Option.some_inj.mp (firstFound.symm.trans secondFound)
      · rw [mappedName_other secondMapped] at equal
        subst equal
        exact absurd (free _ (List.mem_map_of_mem firstEntry) secondIn) secondMapped
    · rw [mappedName_other firstMapped] at equal
      by_cases secondMapped : second ∈ request.mapping.values
      · obtain ⟨⟨secondTarget, _⟩, secondEntry, rfl⟩ := List.mem_map.mp secondMapped
        rw [mappedName_source apart secondEntry] at equal
        subst equal
        exact absurd (free _ (List.mem_map_of_mem secondEntry) firstIn) firstMapped
      · rw [mappedName_other secondMapped] at equal
        exact equal

theorem finalName_source {target source : String}
    (entry : (target, source) ∈ request.mapping.entries) :
    request.finalName source = target := by
  rw [finalName, mappedName_source apart entry]
  exact guessedName_target _ (mapping_target (List.mem_map_of_mem entry))

end

theorem finalName_own {target : String} (isText : target = "prompt" ∨ target = "system")
    (unmapped : target ∉ request.mapping.values) : request.finalName target = target := by
  rw [finalName, mappedName_other unmapped]
  exact guessedName_target _ isText

/-! ### Samples -/

theorem fileTransforms_remaps {remap : Option (OrderedDict String String)}
    {transform : Transform} (member : transform ∈ fileTransforms remap) :
    ∃ items strict, transform = .columnRemap items strict := by
  cases remap with
  | none =>
      rw [fileTransforms, Option.map_none, Option.toList_none, List.nil_append,
        List.mem_singleton] at member
      exact ⟨_, _, member⟩
  | some remap =>
      rw [fileTransforms, Option.map_some, Option.toList_some] at member
      obtain isExplicit | isGuess := List.mem_append.mp member
      · exact ⟨_, _, List.mem_singleton.mp isExplicit⟩
      · exact ⟨_, _, List.mem_singleton.mp isGuess⟩

theorem adapterTransforms_noRows (adapter : Option (ChatAdapter × ModelParams))
    (processor : RowProcessor) : .row processor ∉ adapterTransforms adapter := by
  match adapter with
  | none => exact List.not_mem_nil
  | some (adapter, modelParams) =>
      obtain ⟨_, _, _, shape, -, -⟩ := Dataset.datasetTransforms_eq adapter modelParams
      rw [adapterTransforms, shape]
      simp

theorem load_eq (tools : TextTools) (adapter : Option (ChatAdapter × ModelParams))
    (frame : DataFrame) :
    Dataset.load tools (fileTransforms request.remap) (adapterTransforms adapter) frame =
      (((fileTransforms request.remap).foldlM
          (fun frame transform => Transforms.call tools transform frame) frame).bind
        fun renamed => (adapterTransforms adapter).foldlM
          (fun frame transform => Transforms.call tools transform frame) renamed).bind
        Dataset.toRecords := by
  have noFilter : (fileTransforms request.remap).any isColumnFilter = false := by
    rw [List.any_eq_false]
    intro transform member
    obtain ⟨items, strict, rfl⟩ := fileTransforms_remaps member
    exact Bool.false_ne_true
  have all : Dataset.loadTransforms (fileTransforms request.remap) (adapterTransforms adapter) =
      fileTransforms request.remap ++ adapterTransforms adapter := by
    simp [Dataset.loadTransforms, noFilter]
  have noRows : ∀ processor, .row processor ∉
      fileTransforms request.remap ++ adapterTransforms adapter := by
    intro processor member
    obtain isFile | isAdapter := List.mem_append.mp member
    · obtain ⟨items, strict, isRemap⟩ := fileTransforms_remaps isFile
      cases isRemap
    · exact adapterTransforms_noRows adapter processor isAdapter
  rw [Dataset.load, all, Dataset.applyTransforms_of_noRows tools noRows, List.foldlM_append]
  rfl

/-- Loading where the names are distinct: it raises, or every sample holds the texts of its
row under their final names. -/
theorem load_cases (tools : TextTools) (adapter : Option (ChatAdapter × ModelParams))
    {frame : DataFrame} (reads : request.Reads frame)
    (distinct : (request.columns.map request.finalName).Nodup)
    (some_ : request.columns ≠ []) :
    if 1 < (promptColumns request.mappedColumns).length ∨ frame.rows = [] ∨
        adapter.isSome ∧ "prompt" ∉ request.columns.map request.finalName then
      Dataset.load tools (fileTransforms request.remap) (adapterTransforms adapter) frame = none
    else
      ∃ change : Row → Row,
        Dataset.load tools (fileTransforms request.remap) (adapterTransforms adapter) frame =
          some (frame.rows.map change) ∧
        ∀ row ∈ frame.rows, ∀ target, target = "prompt" ∨ target = "system" →
          Json.lookup (change row) target =
            (RelabelKeys.relabel request.finalName row).lookup target := by
  rw [load_eq, run_fileTransforms tools reads]
  by_cases several : 1 < (promptColumns request.mappedColumns).length
  · rw [if_pos (.inl several), if_pos several]
    rfl
  rw [if_neg several, Option.bind_some]
  have columns : (frame.relabel request.finalName).columns =
      request.columns.map request.finalName := by rw [DataFrame.relabel, reads.columns]
  have filled : ∀ row ∈ (frame.relabel request.finalName).rows,
      row.map (·.1) = (frame.relabel request.finalName).columns := by
    intro renamed member
    obtain ⟨row, isRow, rfl⟩ := List.mem_map.mp member
    rw [columns, map_fst_relabel, reads.filled row isRow]
  have runs := Dataset.adapter_run tools filled (columns ▸ distinct)
    (by rw [columns]; simpa using some_) adapter
  rw [columns] at runs
  by_cases noPrompt : adapter.isSome ∧ "prompt" ∉ request.columns.map request.finalName
  · rw [if_pos noPrompt] at runs
    rw [if_pos (.inr (.inr noPrompt)), runs]
    rfl
  rw [if_neg noPrompt] at runs
  obtain ⟨out, change, runsTo, keeps⟩ := runs
  have rows : out.rows = frame.rows.map (change ∘ RelabelKeys.relabel request.finalName) := by
    rw [keeps.rows, DataFrame.relabel, List.map_map]
  rw [runsTo, Option.bind_some, Dataset.toRecords, rows, if_neg keeps.columns]
  by_cases empty : frame.rows = []
  · rw [if_pos (.inr (.inl empty)), if_pos (by rw [empty]; rfl)]
  · have goes : ¬(1 < (promptColumns request.mappedColumns).length ∨ frame.rows = [] ∨
        adapter.isSome ∧ "prompt" ∉ request.columns.map request.finalName) :=
      fun raises => raises.elim several fun other => other.elim empty noPrompt
    rw [if_neg goes, if_neg (by simpa using empty), List.map_map]
    refine ⟨Dataset.toRecord ∘ change ∘ RelabelKeys.relabel request.finalName, rfl, ?_⟩
    intro row member target isText
    have renamed : RelabelKeys.relabel request.finalName row ∈
        (frame.relabel request.finalName).rows := List.mem_map_of_mem member
    simp only [Function.comp_apply]
    rw [Dataset.toRecord_of_nodup (keeps.distinct _ renamed)]
    exact keeps.texts _ renamed target isText

/-- The prompt that is left after both renamings. -/
theorem prompt_final_iff (apart : request.mapping.values.Nodup) :
    "prompt" ∈ request.columns.map request.finalName ↔
      request.Taken "prompt" ∨ request.promptCandidates ≠ [] := by
  have final : request.columns.map request.finalName =
      request.mappedColumns.map (guessedName request.mappedColumns) := by
    rw [mappedColumns, List.map_map]
    rfl
  rw [final, ← mem_mappedColumns apart, ← promptColumns_mapped apart]
  constructor
  · intro member
    obtain ⟨column, isColumn, isPrompt⟩ := List.mem_map.mp member
    unfold guessedName at isPrompt
    split at isPrompt
    · next candidate => exact .inr (List.ne_nil_of_mem candidate)
    · split at isPrompt
      · exact absurd isPrompt (by decide)
      · exact .inl (isPrompt ▸ isColumn)
  · rintro (taken | candidates)
    · exact List.mem_map.mpr ⟨"prompt", taken, guessedName_prompt _⟩
    · obtain ⟨column, rest, isFirst⟩ := List.exists_cons_of_ne_nil candidates
      have candidate : column ∈ promptColumns request.mappedColumns := by simp [isFirst]
      have isColumn : column ∈ request.mappedColumns := by
        simpa using (List.mem_filter.mp candidate).2
      exact List.mem_map.mpr ⟨column, isColumn, if_pos candidate⟩

/-- A file with one row, in which every column holds its own name. -/
def namesFile (request : FileRequest) : DataFrame where
  columns := request.columns
  rows := [request.columns.map fun column => (column, .string column)]

theorem reads_namesFile : request.Reads request.namesFile where
  columns := rfl
  filled := by
    intro row member
    rw [List.mem_singleton.mp member, List.map_map]
    exact List.map_id _

theorem distinct_final {adapter : Option (ChatAdapter × ModelParams)}
    (honourable : request.Honourable adapter)
    (few : request.promptCandidates.length ≤ 1) :
    (request.columns.map request.finalName).Nodup := by
  have mapped := (nodup_mapped_iff honourable.apart).mpr honourable.free
  have columns := promptColumns_mapped honourable.apart
  have guessed := (nodup_guessed_iff mapped (columns ▸ few)).mpr
    ⟨fun one taken => honourable.promptFree (columns ▸ one)
        ((mem_mappedColumns honourable.apart).mp taken),
      fun systemPrompt system => honourable.systemFree few
        ((mem_mappedColumns honourable.apart).mp systemPrompt)
        ((mem_mappedColumns honourable.apart).mp system)⟩
  rw [mappedColumns, List.map_map] at guessed
  exact guessed

/-- The column that a field is to come from gets the name of the field. -/
theorem final_source {adapter : Option (ChatAdapter × ModelParams)}
    (honourable : request.Honourable adapter)
    (few : request.promptCandidates.length ≤ 1)
    (goes : ¬(adapter.isSome ∧ "prompt" ∉ request.columns.map request.finalName))
    {target source : String} (isText : target = "prompt" ∨ target = "system")
    (isSource : request.source? target = some source) :
    source ∈ request.columns ∧ request.finalName source = target := by
  rw [source?] at isSource
  cases found : request.mapping.get? target with
  | some mapped =>
      rw [found] at isSource
      obtain rfl := Option.some_inj.mp isSource
      have entry := OrderedDict.get?_eq_some_iff.mp found
      exact ⟨mapping_source (List.mem_map_of_mem entry), finalName_source honourable.apart entry⟩
  | none =>
      simp only [found] at isSource
      split at isSource
      · next member =>
          obtain rfl := Option.some_inj.mp isSource
          refine ⟨member, finalName_own isText ?_⟩
          intro mappedAway
          have notTarget := OrderedDict.get?_eq_none_iff.mp found
          obtain isTarget | several | ⟨rfl, noCandidates, adapts⟩ :=
            honourable.stays target isText member mappedAway
          · exact notTarget isTarget
          · omega
          · have notTaken : ¬ request.Taken "prompt" :=
              fun taken => taken.elim notTarget fun kept => kept.2 mappedAway
            refine goes ⟨adapts, ?_⟩
            rw [prompt_final_iff honourable.apart]
            exact fun there => there.elim notTaken (absurd noCandidates)
      · cases isSource

theorem Honourable.honoured (tools : TextTools) {adapter : Option (ChatAdapter × ModelParams)}
    (honourable : request.Honourable adapter) : request.Honoured tools adapter where
  requested target isTarget := by
    rw [OrderedDict.values, entries_flipped_of_nodup honourable.apart, List.map_map]
    exact isTarget
  distinct frame reads := by
    have mapped := (nodup_mapped_iff honourable.apart).mpr honourable.free
    refine (stepsDistinct_iff tools reads).mpr ⟨mapped, fun few => ?_⟩
    rw [promptColumns_mapped honourable.apart] at few
    have final := distinct_final honourable (by omega)
    rw [mappedColumns, List.map_map]
    exact final
  samples frame reads samples loads target member source isSource := by
    have isText : target = "prompt" ∨ target = "system" := by simpa using member
    by_cases some_ : request.columns = []
    · have absent : request.mapping.get? target = none := by
        rw [OrderedDict.get?_eq_none_iff]
        intro isTarget
        obtain ⟨entry, isEntry, -⟩ := List.mem_map.mp isTarget
        have inColumns := mapping_source (List.mem_map_of_mem isEntry)
        rw [some_] at inColumns
        cases inColumns
      simp [source?, absent, some_] at isSource
    by_cases several : 1 < request.promptCandidates.length
    · -- Two columns may hold the prompt: loading raises.
      rw [load_eq, run_fileTransforms tools reads, promptColumns_mapped honourable.apart,
        if_pos several] at loads
      cases loads
    have few : request.promptCandidates.length ≤ 1 := by omega
    have distinct := distinct_final honourable few
    have cases_ := load_cases tools adapter reads distinct some_
    split at cases_
    · rw [cases_] at loads
      cases loads
    · next goes =>
        obtain ⟨change, loaded, texts⟩ := cases_
        rw [loads] at loaded
        obtain rfl := Option.some_inj.mp loaded
        obtain ⟨inColumns, final⟩ := final_source honourable few
          (fun stuck => goes (.inr (.inr stuck))) isText isSource
        rw [List.map_map]
        apply List.map_congr_left
        intro row isRow
        have keys := reads.filled row isRow
        rw [Function.comp_apply, texts row isRow target isText, ← final]
        exact lookup_relabel (keys ▸ distinct) (keys ▸ inColumns)

/-- A column that is found by name in the renamed row of names had that name's place. -/
theorem final_of_lookup {target name : String}
    (found : (RelabelKeys.relabel request.finalName
      (request.columns.map fun column => (column, Json.string column))).lookup target =
        some (.string name)) : request.finalName name = target := by
  have member := mem_of_lookup found
  rw [RelabelKeys.relabel, List.map_map] at member
  obtain ⟨column, -, isCell⟩ := List.mem_map.mp member
  simp only [Function.comp_apply, Prod.mk.injEq, Json.string.injEq] at isCell
  obtain ⟨isTarget, rfl⟩ := isCell
  exact isTarget

theorem lookup_names {column : String} (member : column ∈ request.columns) :
    (request.columns.map fun column => (column, Json.string column)).lookup column =
      some (.string column) := by
  cases found : (request.columns.map fun column => (column, Json.string column)).lookup
      column with
  | none =>
      have absent := List.lookup_eq_none_iff.mp found _ (List.mem_map_of_mem member)
      simp at absent
  | some value =>
      obtain ⟨other, -, isCell⟩ := List.mem_map.mp (mem_of_lookup found)
      cases isCell
      rfl

/-- A field whose own column is mapped away does not get what was in it. -/
theorem Honoured.stays {tools : TextTools} {adapter : Option (ChatAdapter × ModelParams)}
    (honoured : request.Honoured tools adapter) (apart : request.mapping.values.Nodup)
    (distinct : request.promptCandidates.length ≤ 1 →
      (request.columns.map request.finalName).Nodup)
    {target : String} (isText : target = "prompt" ∨ target = "system")
    (member : target ∈ request.columns) (mappedAway : target ∈ request.mapping.values) :
    target ∈ request.mapping.keys ∨ 1 < request.promptCandidates.length ∨
      target = "prompt" ∧ request.promptCandidates = [] ∧ adapter.isSome := by
  by_contra stuck
  simp only [not_or] at stuck
  obtain ⟨notTarget, notSeveral, notRaised⟩ := stuck
  have few : request.promptCandidates.length ≤ 1 := by omega
  obtain ⟨⟨other, source⟩, mapped, same⟩ := List.mem_map.mp mappedAway
  have entry : (other, target) ∈ request.mapping.entries := same ▸ mapped
  have isTarget : other ∈ request.mapping.keys := List.mem_map_of_mem entry
  have final : request.finalName target = other := finalName_source apart entry
  -- A prompt is left, so that an adapter does not raise.
  have prompt : adapter.isSome → "prompt" ∈ request.columns.map request.finalName := by
    intro adapts
    rw [prompt_final_iff apart]
    obtain rfl | rfl := isText
    · exact .inr fun noCandidates => notRaised ⟨rfl, noCandidates, adapts⟩
    · obtain rfl | rfl := mapping_target isTarget
      · exact .inl (.inl isTarget)
      · exact absurd isTarget notTarget
  have cases_ := load_cases tools adapter reads_namesFile (distinct few)
    (List.ne_nil_of_mem member)
  rw [promptColumns_mapped apart, if_neg] at cases_
  · obtain ⟨change, loaded, texts⟩ := cases_
    have isSource : request.source? target = some target := by
      rw [source?, OrderedDict.get?_eq_none_iff.mpr notTarget]
      exact if_pos member
    have kept := honoured.samples _ reads_namesFile _ loaded target (by simpa using isText)
      target isSource
    simp only [namesFile, List.map_cons, List.map_nil, List.cons.injEq, and_true] at kept
    rw [texts _ (by simp [namesFile]) target isText, Json.lookup, lookup_names member] at kept
    have stayed := final_of_lookup kept
    rw [final] at stayed
    exact notTarget (stayed ▸ isTarget)
  · rintro (several | empty | ⟨adapts, noPrompt⟩)
    · exact notSeveral several
    · cases empty
    · exact noPrompt (prompt adapts)

theorem Honoured.honourable {tools : TextTools} {adapter : Option (ChatAdapter × ModelParams)}
    (honoured : request.Honoured tools adapter) : request.Honourable adapter := by
  have apart := apart_of_requested honoured.requested
  have columns := promptColumns_mapped apart
  obtain ⟨mapped, guessed⟩ :=
    (stepsDistinct_iff tools reads_namesFile).mp (honoured.distinct _ reads_namesFile)
  have names : request.promptCandidates.length ≤ 1 →
      (request.promptCandidates.length = 1 → ¬ request.Taken "prompt") ∧
        (request.Taken "system_prompt" → ¬ request.Taken "system") := by
    intro few
    have distinct := guessed (by rw [columns]; omega)
    have clear := (nodup_guessed_iff mapped (by rw [columns]; exact few)).mp distinct
    simpa only [mem_mappedColumns apart, columns] using clear
  constructor
  · exact apart
  · exact (nodup_mapped_iff apart).mp mapped
  · exact fun one => (names (by omega)).1 one
  · exact fun few => (names few).2
  · intro target isText member mappedAway
    refine honoured.stays apart ?_ isText member mappedAway
    intro few
    have final := guessed (by rw [columns]; omega)
    rw [mappedColumns, List.map_map] at final
    exact final

/-- A mapping is honoured, whatever the file holds, exactly where its names do not
meet. -/
theorem honoured_iff (tools : TextTools) (request : FileRequest)
    (adapter : Option (ChatAdapter × ModelParams)) :
    request.Honoured tools adapter ↔ request.Honourable adapter :=
  ⟨Honoured.honourable, Honourable.honoured tools⟩

/-- The prompts of a file with a column of questions are to come from its articles. -/
def articles : FileRequest where
  columns := ["article", "question"]
  distinct := by decide
  remap := some ⟨[("prompt", "article")], by decide⟩
  targets := by
    rintro mapping ⟨⟩ target member
    exact .inl (List.mem_singleton.mp member)
  sources := by
    rintro mapping ⟨⟩ source member
    rw [List.mem_singleton.mp member]
    decide
  prompted := nofun

/-- The questions are renamed, too, and sent in place of the articles. -/
theorem articles_not_honoured :
    ¬ articles.Honoured Transforms.offline (some (.openAIMsgspec, {})) := by
  intro honoured
  have samples := honoured.samples articles.namesFile reads_namesFile _ rfl "prompt" (by simp)
    "article" rfl
  have names : "question" = "article" :=
    Json.string.inj (Option.some.inj (List.cons.inj samples).1)
  exact absurd names (by decide)

end FileRequest

end InferenceEndpoint
