import InferenceEndpoint.Commands.BuildPhases
import InferenceEndpoint.Library.CollectLoops

/-!
# The artifacts that scorers read

After a run the maps of its phases go into one file under the names of the phases, and
each scorer reads the map under the name of its dataset.  The performance phase has its
fixed name, which a configuration may also give to an accuracy dataset.
-/

namespace InferenceEndpoint.Benchmark

/-- `uuid_to_index` of a phase. -/
abbrev IndexMap := OrderedDict String Nat

structure PhaseResult where
  name : String
  phaseType : PhaseType
  uuidToIndex : IndexMap

/-- The results of the phases that ran, each with the map of its issuer; a warmup leaves
no result. -/
def phaseResults (ran : List (PhaseConfig × IndexMap)) : List PhaseResult :=
  (ran.filter (·.1.phaseType ≠ .warmup)).map fun (phase, uuidToIndex) =>
    { name := phase.name, phaseType := phase.phaseType, uuidToIndex := uuidToIndex }

/-- `sample_idx_map.setdefault(eval_cfg.dataset_name, {})` for an external scorer. -/
def setDefault (sampleIdxMap : OrderedDict String IndexMap) (evalConfig : EvalConfig) :
    OrderedDict String IndexMap :=
  if evalConfig.scorer.skipEndpointPhase ∧ !sampleIdxMap.contains evalConfig.datasetName then
    sampleIdxMap.insert evalConfig.datasetName ∅
  else sampleIdxMap

def writeResults (results : List PhaseResult) : OrderedDict String IndexMap :=
  results.foldl (fun written result => written.insert result.name result.uuidToIndex) ∅

/-- The map that `_write_scoring_artifacts` writes. -/
def sampleIdxMap (context : BenchmarkContext) (results : List PhaseResult) :
    OrderedDict String IndexMap :=
  context.evalConfigs.foldl setDefault (writeResults results)

/-- `Scorer._load_sample_index_map`; `none` is the `KeyError`. -/
def loadSampleIndexMap (written : OrderedDict String IndexMap) (datasetName : String) :
    Option IndexMap :=
  written.get? datasetName

/-- `load_performance_uuids`. -/
def loadPerformanceUuids (written : OrderedDict String IndexMap) : Option (List String) :=
  match written.get? "performance" with
  | some perPhase => if perPhase.isEmpty then none else some perPhase.keys
  | none => none

/-- A phase of the run issued the dataset and ended with the map. -/
def Issued (ran : List (PhaseConfig × IndexMap)) (dataset : Dataset) (uuidToIndex : IndexMap) :
    Prop :=
  ∃ phase, (phase, uuidToIndex) ∈ ran ∧ phase.phaseType ≠ .warmup ∧ phase.dataset = dataset

/-- What each scorer and the output lengths of the full run read belongs to the phase
that issued the dataset; a scorer whose dataset no phase issues finds an empty map. -/
structure OwnSamples (context : BenchmarkContext) (ran : List (PhaseConfig × IndexMap)) :
    Prop where
  scorers : ∀ evalConfig ∈ context.evalConfigs, ∀ uuidToIndex,
    loadSampleIndexMap (sampleIdxMap context (phaseResults ran)) evalConfig.datasetName =
        some uuidToIndex ↔
      Issued ran evalConfig.dataset uuidToIndex ∨
        (evalConfig.scorer.skipEndpointPhase = true ∧ uuidToIndex = ∅ ∧
          ∀ other, ¬Issued ran evalConfig.dataset other)
  fullRun : ∀ uuids,
    loadPerformanceUuids (sampleIdxMap context (phaseResults ran)) = some uuids →
      ∃ phase uuidToIndex, (phase, uuidToIndex) ∈ ran ∧ phase.phaseType = .performance ∧
        uuids = uuidToIndex.keys

/-- No accuracy dataset has the name of the performance phase, unless its scorer runs
externally and not beside a performance phase. -/
def NameIsFree (config : BenchmarkConfig) (testMode : TestMode) : Prop :=
  ∀ entry ∈ config.datasets, entry.type = .accuracy → entry.name = "performance" →
    testMode ≠ .both ∧
      ∃ components, resolveAccuracyComponents entry.accuracyConfig = some components ∧
        components.1.skipEndpointPhase = true

/-! ## Where evaluation entries and phases come from -/

variable {environment : Environment} {config : BenchmarkConfig} {testMode : TestMode}
  {context : BenchmarkContext}

/-- An entry for an accuracy dataset. -/
structure FromAccuracy (config : BenchmarkConfig) (testMode : TestMode) (entry : DatasetConfig)
    (evalConfig : EvalConfig) : Prop where
  member : entry ∈ config.datasets
  accuracy : entry.type = .accuracy
  type : evalConfig.datasetType = .accuracy
  name : evalConfig.datasetName = entry.name
  dataset : evalConfig.dataset.config = entry
  components : resolveAccuracyComponents entry.accuracyConfig =
    some (evalConfig.scorer, evalConfig.extractor)
  scored : ¬(testMode = .perf ∧ evalConfig.scorer.skipEndpointPhase = true)

/-- The entry for the outputs of the performance phase. -/
structure Inline (context : BenchmarkContext) (testMode : TestMode) (evalConfig : EvalConfig) :
    Prop where
  type : evalConfig.datasetType = .performance
  name : evalConfig.datasetName = "performance"
  dataset : context.dataloader = some evalConfig.dataset
  measured : testMode ≠ .acc

theorem loadAccuracy_cases {entry : DatasetConfig} {items : List EvalConfig}
    (loaded : loadAccuracy environment testMode entry = some items) :
    ∃ components, resolveAccuracyComponents entry.accuracyConfig = some components ∧
      ((items = [] ∧ testMode = .perf ∧ components.1.skipEndpointPhase = true) ∨
        ∃ evalConfig, items = [evalConfig] ∧ evalConfig.datasetType = .accuracy ∧
          evalConfig.datasetName = entry.name ∧ evalConfig.dataset.config = entry ∧
          components = (evalConfig.scorer, evalConfig.extractor) ∧
          ¬(testMode = .perf ∧ components.1.skipEndpointPhase = true)) := by
  unfold loadAccuracy at loaded
  obtain ⟨⟨scorer, extractor⟩, resolved, loaded⟩ := Option.bind_eq_some_iff.mp loaded
  refine ⟨(scorer, extractor), resolved, ?_⟩
  dsimp only at loaded
  split at loaded
  · rename_i skipped
    obtain rfl : items = [] := by simpa using loaded.symm
    exact .inl ⟨rfl, skipped⟩
  · rename_i kept
    obtain ⟨accuracyConfig, found, loaded⟩ := Option.bind_eq_some_iff.mp loaded
    split at loaded
    · simp at loaded
    · split at loaded
      · simp at loaded
      · obtain ⟨dataset, read, rfl⟩ := Option.map_eq_some_iff.mp loaded
        exact .inr ⟨_, rfl, rfl, rfl, (environment.loadConfig _ _ _ read).1, rfl, kept⟩

theorem inlineEval_cases {entry : DatasetConfig} {dataset : Dataset} {items : List EvalConfig}
    (loaded : inlineEval environment testMode entry dataset = some items) :
    items = [] ∨ ∃ evalConfig, items = [evalConfig] ∧ evalConfig.datasetType = .performance ∧
      evalConfig.datasetName = "performance" ∧ evalConfig.dataset = dataset := by
  unfold inlineEval at loaded
  split at loaded
  · exact .inl (by simpa using loaded.symm)
  · obtain ⟨⟨scorer, extractor⟩, -, loaded⟩ := Option.bind_eq_some_iff.mp loaded
    dsimp only at loaded
    split at loaded
    · exact .inl (by simpa using loaded.symm)
    · split at loaded
      · simp at loaded
      · split at loaded
        · simp at loaded
        · obtain rfl := Option.some.inj loaded
          exact .inr ⟨_, rfl, rfl, rfl, rfl⟩

/-- What the setup leaves: the entries of the accuracy datasets, then at most one entry
for the performance dataset. -/
structure Loaded (environment : Environment) (config : BenchmarkConfig) (testMode : TestMode)
    (context : BenchmarkContext) (added : List (List EvalConfig)) (inline : List EvalConfig) :
    Prop where
  configured : context.config = config
  settings : context.rtSettings = context.dataloader.map fun (dataset : Dataset) =>
    environment.runtimeSettings dataset.numSamples
  collected : (config.datasets.filter (·.type = .accuracy)).mapM
    (loadAccuracy environment testMode) = some added
  evalConfigs : context.evalConfigs = added.flatten ++ inline
  inlined : ∀ evalConfig ∈ inline, Inline context testMode evalConfig
  single : inline.length ≤ 1
  dataloader : ∀ dataset, context.dataloader = some dataset →
    dataset.config.type = .performance
  measured : testMode ≠ .acc ↔ context.dataloader.isSome = true

theorem loadPerformance_cases {entry : DatasetConfig} {dataset : Dataset}
    {inline : List EvalConfig}
    (loaded : loadPerformance environment config testMode entry = some (dataset, inline)) :
    dataset.config = entry ∧
      inlineEval environment testMode entry dataset = some inline := by
  unfold loadPerformance at loaded
  split at loaded
  · simp at loaded
  · obtain ⟨read, readEq, loaded⟩ := Option.bind_eq_some_iff.mp loaded
    split at loaded
    · simp at loaded
    · obtain ⟨items, inlineEq, equal⟩ := Option.map_eq_some_iff.mp loaded
      obtain ⟨rfl, rfl⟩ := Prod.mk.inj equal
      exact ⟨(environment.loadConfig _ _ _ readEq).1, inlineEq⟩

theorem setupBenchmark_loaded (setup : setupBenchmark environment config testMode = some context) :
    ∃ added inline, Loaded environment config testMode context added inline := by
  obtain ⟨⟨dataloader, evalConfigs⟩, loaded, rfl⟩ := Option.map_eq_some_iff.mp setup
  unfold loadDatasets at loaded
  dsimp only at loaded
  split at loaded
  · simp at loaded
  · obtain ⟨added, collected, loaded⟩ := Option.bind_eq_some_iff.mp loaded
    split at loaded
    · rename_i accuracyOnly
      obtain ⟨rfl, rfl⟩ := Prod.mk.inj (Option.some.inj loaded)
      exact ⟨added, [], rfl, rfl, collected, by simp, by simp, by simp, by simp, by
        simp [accuracyOnly]⟩
    · rename_i measured
      split at loaded
      · rename_i entry single
        obtain ⟨⟨dataset, inline⟩, performance, equal⟩ := Option.map_eq_some_iff.mp loaded
        obtain ⟨rfl, rfl⟩ := Prod.mk.inj equal
        obtain ⟨source, inlineEq⟩ := loadPerformance_cases performance
        have entryMember : entry ∈ config.datasets.filter (·.type = .performance) := by
          rw [single]
          exact List.mem_singleton_self entry
        have entryType : entry.type = .performance := by
          simpa using (List.mem_filter.mp entryMember).2
        refine ⟨added, inline, rfl, rfl, collected, rfl, ?_, ?_, ?_, by simp [measured]⟩
        · intro evalConfig member
          rcases inlineEval_cases inlineEq with rfl | ⟨only, rfl, type, name, same⟩
          · simp at member
          · obtain rfl := List.mem_singleton.mp member
            exact ⟨type, name, by rw [same], measured⟩
        · rcases inlineEval_cases inlineEq with rfl | ⟨only, rfl, -⟩
          · simp
          · simp
        · rintro _ ⟨⟩
          exact source ▸ entryType
      · simp at loaded

variable {added : List (List EvalConfig)} {inline : List EvalConfig}

theorem Loaded.mem_added (loaded : Loaded environment config testMode context added inline)
    {evalConfig : EvalConfig} (member : evalConfig ∈ added.flatten) :
    ∃ entry, FromAccuracy config testMode entry evalConfig := by
  obtain ⟨entry, entryMember, items, passed, itemMember⟩ :=
    (CollectLoops.mem_flatten_iff loaded.collected evalConfig).mp member
  obtain ⟨entryMember, accuracy⟩ := List.mem_filter.mp entryMember
  obtain ⟨components, resolved, ⟨rfl, -⟩ | ⟨only, rfl, type, name, dataset, rfl, scored⟩⟩ :=
    loadAccuracy_cases passed
  · simp at itemMember
  · obtain rfl := List.mem_singleton.mp itemMember
    exact ⟨entry, entryMember, by simpa using accuracy, type, name, dataset, resolved, scored⟩

theorem Loaded.cases (loaded : Loaded environment config testMode context added inline)
    {evalConfig : EvalConfig} (member : evalConfig ∈ context.evalConfigs) :
    (evalConfig ∈ added.flatten ∧ ∃ entry, FromAccuracy config testMode entry evalConfig) ∨
      (evalConfig ∈ inline ∧ Inline context testMode evalConfig) := by
  rw [loaded.evalConfigs] at member
  rcases List.mem_append.mp member with accuracy | performance
  · exact .inl ⟨accuracy, loaded.mem_added accuracy⟩
  · exact .inr ⟨performance, loaded.inlined evalConfig performance⟩

/-- Accuracy datasets with one name would be equal pairs of name and type. -/
theorem Loaded.nodup_added (loaded : Loaded environment config testMode context added inline) :
    (added.flatten.map (·.datasetName)).Nodup := by
  have kept : (added.flatten.map (·.datasetName)).Sublist
      ((config.datasets.filter (·.type = .accuracy)).map (·.name)) := by
    apply CollectLoops.keys_sublist _ loaded.collected
    intro entry items passed
    obtain ⟨components, -, ⟨rfl, -⟩ | ⟨only, rfl, -, name, -⟩⟩ := loadAccuracy_cases passed
    · simp
    · simp [name]
  apply List.Nodup.sublist kept
  apply List.Nodup.of_map fun name => (name, DatasetType.accuracy)
  have pairs : ((config.datasets.filter (·.type = .accuracy)).map (·.name)).map
        (fun name => (name, DatasetType.accuracy)) =
      (config.datasets.filter (·.type = .accuracy)).map
        fun dataset => (dataset.name, dataset.type) := by
    rw [List.map_map]
    apply List.map_congr_left
    intro dataset member
    have accuracy : dataset.type = .accuracy := by simpa using (List.mem_filter.mp member).2
    simp [accuracy]
  rw [pairs]
  exact config.distinct.sublist (List.filter_sublist.map _)

theorem accuracyPhase_cases {evalConfig : EvalConfig} {items : List PhaseConfig}
    (built : accuracyPhase context evalConfig = some items) :
    (items = [] ∧ (evalConfig.scorer.skipEndpointPhase = true ∨
        evalConfig.datasetType = .performance)) ∨
      ∃ phase, items = [phase] ∧ evalConfig.scorer.skipEndpointPhase = false ∧
        evalConfig.datasetType ≠ .performance ∧ phase.name = evalConfig.datasetName ∧
        phase.dataset = evalConfig.dataset ∧ phase.phaseType = .accuracy := by
  unfold accuracyPhase at built
  split at built
  · rename_i none
    exact .inl ⟨by simpa using built.symm, none⟩
  · rename_i issued
    split at built
    · simp at built
    · obtain rfl := Option.some.inj built
      rw [not_or, Bool.not_eq_true] at issued
      exact .inr ⟨_, rfl, issued.1, issued.2, rfl, rfl, rfl⟩

/-- A phase that issues an accuracy dataset. -/
structure ForAccuracy (context : BenchmarkContext) (evalConfig : EvalConfig)
    (phase : PhaseConfig) : Prop where
  member : evalConfig ∈ context.evalConfigs
  issues : evalConfig.scorer.skipEndpointPhase = false
  notInline : evalConfig.datasetType ≠ .performance
  name : phase.name = evalConfig.datasetName
  dataset : phase.dataset = evalConfig.dataset
  type : phase.phaseType = .accuracy

theorem performancePhases_cases {agenticStrategy : Bool} {phase : PhaseConfig}
    (member : phase ∈ performancePhases context agenticStrategy) :
    phase.phaseType = .warmup ∨
      (phase.phaseType = .performance ∧ phase.name = "performance" ∧
        context.dataloader = some phase.dataset) := by
  unfold performancePhases at member
  split at member
  · rename_i dataset settings found _
    rcases List.mem_append.mp member with warmup | performance
    · split at warmup
      · obtain rfl := List.mem_singleton.mp warmup
        exact .inl rfl
      · simp at warmup
    · obtain rfl := List.mem_singleton.mp performance
      exact .inr ⟨rfl, rfl, found⟩
  · simp at member

theorem buildPhases_cases {agenticStrategy : Bool} {phases : List PhaseConfig}
    (built : buildPhases context agenticStrategy = some phases) {phase : PhaseConfig}
    (member : phase ∈ phases) (recorded : phase.phaseType ≠ .warmup) :
    (phase.phaseType = .performance ∧ phase.name = "performance" ∧
        context.dataloader = some phase.dataset) ∨
      ∃ evalConfig, ForAccuracy context evalConfig phase := by
  obtain ⟨accuracyPhases, collected, rfl⟩ := Option.map_eq_some_iff.mp built
  rcases List.mem_append.mp member with performance | accuracy
  · exact .inl ((performancePhases_cases performance).resolve_left recorded)
  · obtain ⟨evalConfig, evalMember, items, passed, phaseMember⟩ :=
      (CollectLoops.mem_flatten_iff collected phase).mp accuracy
    rcases accuracyPhase_cases passed with ⟨rfl, -⟩ | ⟨only, rfl, issues, type, name, dataset, kind⟩
    · simp at phaseMember
    · obtain rfl := List.mem_singleton.mp phaseMember
      exact .inr ⟨evalConfig, evalMember, issues, type, name, dataset, kind⟩

/-! ## The file -/

theorem get?_results (ran : List (PhaseConfig × IndexMap))
    (distinct : ((ran.filter (·.1.phaseType ≠ .warmup)).map (·.1.name)).Nodup) (name : String)
    (uuidToIndex : IndexMap) :
    (writeResults (phaseResults ran)).get? name = some uuidToIndex ↔
      ∃ phase, (phase, uuidToIndex) ∈ ran ∧ phase.phaseType ≠ .warmup ∧ phase.name = name := by
  have entries : writeResults (phaseResults ran) =
      ((ran.filter (·.1.phaseType ≠ .warmup)).map fun entry => (entry.1.name, entry.2)).foldl
        (fun dict entry => dict.insert entry.1 entry.2) ∅ := by
    rw [writeResults, phaseResults, List.foldl_map, List.foldl_map]
  rw [entries, CollectLoops.get?_writeAll _ (by simpa [Function.comp_def] using distinct)]
  constructor
  · rintro (member | ⟨-, none⟩)
    · obtain ⟨⟨phase, map⟩, kept, equal⟩ := List.mem_map.mp member
      obtain ⟨rfl, rfl⟩ := Prod.mk.inj equal
      obtain ⟨inRan, recorded⟩ := List.mem_filter.mp kept
      exact ⟨phase, inRan, by simpa using recorded, rfl⟩
    · simp at none
  · rintro ⟨phase, inRan, recorded, rfl⟩
    exact .inl (List.mem_map.mpr ⟨(phase, uuidToIndex),
      List.mem_filter.mpr ⟨inRan, by simpa using recorded⟩, rfl⟩)

theorem get?_setDefaults (evalConfigs : List EvalConfig) (written : OrderedDict String IndexMap)
    (name : String) (uuidToIndex : IndexMap) :
    (evalConfigs.foldl setDefault written).get? name = some uuidToIndex ↔
      written.get? name = some uuidToIndex ∨
        (written.get? name = none ∧ uuidToIndex = ∅ ∧
          ∃ evalConfig ∈ evalConfigs, evalConfig.scorer.skipEndpointPhase = true ∧
            evalConfig.datasetName = name) := by
  induction evalConfigs generalizing written with
  | nil => simp
  | cons evalConfig evalConfigs ih =>
      rw [List.foldl_cons, ih]
      unfold setDefault
      split
      · rename_i sets
        obtain ⟨skips, absent⟩ := sets
        have missing : written.get? evalConfig.datasetName = none := by
          simpa [OrderedDict.contains] using absent
        rw [OrderedDict.get?_insert]
        by_cases same : name = evalConfig.datasetName
        · subst same
          rw [if_pos rfl, missing]
          constructor
          · rintro (inserted | ⟨none, -⟩)
            · exact .inr ⟨rfl, (Option.some.inj inserted).symm, evalConfig,
                List.mem_cons_self .., skips, rfl⟩
            · simp at none
          · rintro (none | ⟨-, rfl, -⟩)
            · simp at none
            · exact .inl rfl
        · simp [same, Ne.symm same]
      · rename_i keeps
        have idle : evalConfig.scorer.skipEndpointPhase = true →
            evalConfig.datasetName = name → written.get? name ≠ none := by
          rintro skips rfl
          simpa [OrderedDict.contains, skips, Option.isSome_iff_ne_none] using keeps
        constructor
        · rintro (found | ⟨none, empty, other, member, skips, same⟩)
          · exact .inl found
          · exact .inr ⟨none, empty, other, List.mem_cons_of_mem _ member, skips, same⟩
        · rintro (found | ⟨none, empty, other, member, skips, same⟩)
          · exact .inl found
          · rcases List.mem_cons.mp member with rfl | later
            · exact absurd none (idle skips same)
            · exact .inr ⟨none, empty, other, later, skips, same⟩

/-! ## When each scorer finds its own samples -/

theorem FromAccuracy.notPerformance {entry : DatasetConfig} {evalConfig : EvalConfig}
    (accuracy : FromAccuracy config testMode entry evalConfig) :
    evalConfig.dataset.config.type ≠ .performance := by
  rw [accuracy.dataset, accuracy.accuracy]
  decide

/-- With a free name no accuracy entry of a run that has a performance phase, and no
accuracy phase, is called like the performance phase. -/
theorem FromAccuracy.otherName {entry : DatasetConfig} {evalConfig : EvalConfig}
    (accuracy : FromAccuracy config testMode entry evalConfig)
    (free : NameIsFree config testMode)
    (beside : testMode ≠ .acc ∨ evalConfig.scorer.skipEndpointPhase = false) :
    evalConfig.datasetName ≠ "performance" := by
  intro called
  obtain ⟨notBoth, components, resolved, skips⟩ :=
    free entry accuracy.member accuracy.accuracy (accuracy.name ▸ called)
  obtain rfl := Option.some.inj (accuracy.components.symm.trans resolved)
  rcases beside with measured | issues
  · cases testMode with
    | perf => exact accuracy.scored ⟨rfl, skips⟩
    | acc => exact measured rfl
    | both => exact notBoth rfl
  · simp [issues] at skips

theorem nodup_of_single (names : List String) (single : names.length ≤ 1) : names.Nodup := by
  cases names with
  | nil => exact List.nodup_nil
  | cons name others =>
      obtain rfl : others = [] := by simpa using single
      exact List.nodup_singleton name

theorem Loaded.nodup_names (loaded : Loaded environment config testMode context added inline)
    (free : NameIsFree config testMode) : (context.evalConfigs.map (·.datasetName)).Nodup := by
  rw [loaded.evalConfigs, List.map_append, List.nodup_append]
  refine ⟨loaded.nodup_added, ?_, ?_⟩
  · exact nodup_of_single _ (by simpa using loaded.single)
  · rintro first firstMember second secondMember rfl
    obtain ⟨evalConfig, member, rfl⟩ := List.mem_map.mp firstMember
    obtain ⟨performance, performanceMember, same⟩ := List.mem_map.mp secondMember
    obtain ⟨entry, accuracy⟩ := loaded.mem_added member
    have inlined := loaded.inlined performance performanceMember
    exact accuracy.otherName free (.inl inlined.measured) (same ▸ inlined.name)

/-- A phase that leaves a result has the name of an entry exactly when it issues the
dataset of the entry. -/
theorem Loaded.name_iff (loaded : Loaded environment config testMode context added inline)
    (free : NameIsFree config testMode) {agenticStrategy : Bool} {phases : List PhaseConfig}
    (built : buildPhases context agenticStrategy = some phases) {phase : PhaseConfig}
    (member : phase ∈ phases) (recorded : phase.phaseType ≠ .warmup) {evalConfig : EvalConfig}
    (evalMember : evalConfig ∈ context.evalConfigs) :
    phase.name = evalConfig.datasetName ↔ phase.dataset = evalConfig.dataset := by
  rcases buildPhases_cases built member recorded with ⟨-, name, dataloader⟩ | ⟨issuing, issued⟩
  · have type := loaded.dataloader _ dataloader
    have measured : testMode ≠ .acc := loaded.measured.mpr (by simp [dataloader])
    rcases loaded.cases evalMember with ⟨-, entry, accuracy⟩ | ⟨-, inlined⟩
    · have different := accuracy.otherName free (.inl measured)
      refine ⟨fun same => absurd (same.symm.trans name) different, fun same => ?_⟩
      exact absurd (same ▸ type) accuracy.notPerformance
    · have same : phase.dataset = evalConfig.dataset :=
        Option.some.inj (dataloader.symm.trans inlined.dataset)
      exact ⟨fun _ => same, fun _ => name.trans inlined.name.symm⟩
  · rcases loaded.cases issued.member with ⟨issuingMember, source, issuingAccuracy⟩ |
      ⟨-, inlined⟩
    · rcases loaded.cases evalMember with ⟨accuracyMember, entry, accuracy⟩ | ⟨-, inlined⟩
      · constructor
        · intro same
          have names := issued.name.symm.trans same
          rw [issued.dataset, List.inj_on_of_nodup_map loaded.nodup_added issuingMember
            accuracyMember names]
        · intro same
          have entries : source = entry := by
            rw [← issuingAccuracy.dataset, ← accuracy.dataset, ← issued.dataset, same]
          rw [issued.name, issuingAccuracy.name, accuracy.name, entries]
      · constructor
        · intro same
          have called := issued.name.symm.trans (same.trans inlined.name)
          exact absurd called (issuingAccuracy.otherName free (.inr issued.issues))
        · intro same
          have type := loaded.dataloader _ inlined.dataset
          rw [← same, issued.dataset] at type
          exact absurd type issuingAccuracy.notPerformance
    · exact absurd inlined.type issued.notInline

theorem performancePhases_names (context : BenchmarkContext) (agenticStrategy : Bool) :
    (((performancePhases context agenticStrategy).filter (·.phaseType ≠ .warmup)).map
      (·.name)).Sublist ["performance"] := by
  unfold performancePhases
  split
  · by_cases warm : context.config.warmup.enabled = true <;> simp [warm]
  · simp

/-- The results of a run have different names. -/
theorem Loaded.nodup_phases (loaded : Loaded environment config testMode context added inline)
    (free : NameIsFree config testMode) {agenticStrategy : Bool} {phases : List PhaseConfig}
    (built : buildPhases context agenticStrategy = some phases) :
    ((phases.filter (·.phaseType ≠ .warmup)).map (·.name)).Nodup := by
  have names := loaded.nodup_names free
  have types : ∀ phase ∈ phases, phase.phaseType ≠ .warmup → _ := fun phase member recorded =>
    buildPhases_cases built member recorded
  obtain ⟨accuracyPhases, collected, rfl⟩ := Option.map_eq_some_iff.mp built
  have kept : (accuracyPhases.flatten.map (·.name)).Sublist
      (context.evalConfigs.map (·.datasetName)) := by
    apply CollectLoops.keys_sublist _ collected
    intro evalConfig items passed
    rcases accuracyPhase_cases passed with ⟨rfl, -⟩ | ⟨only, rfl, -, -, name, -⟩
    · simp
    · simp [name]
  rw [List.filter_append, List.map_append, List.nodup_append]
  refine ⟨(List.nodup_singleton _).sublist (performancePhases_names context agenticStrategy),
    names.sublist ((List.filter_sublist.map _).trans kept), ?_⟩
  rintro first firstMember second secondMember rfl
  have called : first = "performance" := by
    simpa using (performancePhases_names context agenticStrategy).subset firstMember
  obtain ⟨phase, phaseMember, name⟩ := List.mem_map.mp secondMember
  obtain ⟨evalConfig, evalMember, items, passed, itemMember⟩ :=
    (CollectLoops.mem_flatten_iff collected phase).mp (List.mem_filter.mp phaseMember).1
  rcases accuracyPhase_cases passed with ⟨rfl, -⟩ | ⟨only, rfl, issues, type, same, -⟩
  · simp at itemMember
  · obtain rfl := List.mem_singleton.mp itemMember
    rcases loaded.cases evalMember with ⟨-, entry, accuracy⟩ | ⟨-, inlined⟩
    · exact accuracy.otherName free (.inr issues) (same.symm.trans (name.trans called))
    · exact type inlined.type

theorem Loaded.ownSamples (loaded : Loaded environment config testMode context added inline)
    (free : NameIsFree config testMode) {agenticStrategy : Bool} {phases : List PhaseConfig}
    (built : buildPhases context agenticStrategy = some phases)
    {ran : List (PhaseConfig × IndexMap)} (prefixed : ran.map (·.1) <+: phases) :
    OwnSamples context ran := by
  have inPhases : ∀ phase map, (phase, map) ∈ ran → phase ∈ phases := fun phase map member =>
    prefixed.subset (List.mem_map.mpr ⟨_, member, rfl⟩)
  have distinct : ((ran.filter (·.1.phaseType ≠ .warmup)).map (·.1.name)).Nodup := by
    have projected : (ran.filter (·.1.phaseType ≠ .warmup)).map (·.1.name) =
        ((ran.map (·.1)).filter (·.phaseType ≠ .warmup)).map (·.name) := by
      rw [List.filter_map, List.map_map]
      rfl
    rw [projected]
    exact (loaded.nodup_phases free built).sublist ((prefixed.sublist.filter _).map _)
  constructor
  · intro evalConfig evalMember uuidToIndex
    have named : ∀ map, (writeResults (phaseResults ran)).get? evalConfig.datasetName = some map ↔
        Issued ran evalConfig.dataset map := by
      intro map
      rw [get?_results ran distinct]
      refine exists_congr fun phase => and_congr_right fun member => and_congr_right fun recorded => ?_
      exact loaded.name_iff free built (inPhases phase map member) recorded evalMember
    have defaults : (∃ other ∈ context.evalConfigs, other.scorer.skipEndpointPhase = true ∧
        other.datasetName = evalConfig.datasetName) ↔
          evalConfig.scorer.skipEndpointPhase = true := by
      constructor
      · rintro ⟨other, otherMember, skips, same⟩
        rw [← List.inj_on_of_nodup_map (loaded.nodup_names free) otherMember evalMember same]
        exact skips
      · exact fun skips => ⟨evalConfig, evalMember, skips, rfl⟩
    have absent : (writeResults (phaseResults ran)).get? evalConfig.datasetName = none ↔
        ∀ other, ¬Issued ran evalConfig.dataset other := by
      simp only [Option.eq_none_iff_forall_ne_some, ne_eq, named]
    rw [loadSampleIndexMap, sampleIdxMap, get?_setDefaults, named, absent, defaults]
    tauto
  · intro uuids read
    unfold loadPerformanceUuids at read
    split at read
    · rename_i perPhase found
      split at read
      · simp at read
      · rename_i filled
        obtain rfl := Option.some.inj read
        rw [sampleIdxMap, get?_setDefaults, get?_results ran distinct] at found
        rcases found with ⟨phase, member, recorded, name⟩ | ⟨-, rfl, -⟩
        · rcases buildPhases_cases built (inPhases phase _ member) recorded with
            ⟨type, -⟩ | ⟨issuing, issued⟩
          · exact ⟨phase, perPhase, member, type, rfl⟩
          · rcases loaded.cases issued.member with ⟨-, entry, accuracy⟩ | ⟨-, inlined⟩
            · have called := issued.name.symm.trans name
              exact absurd called (accuracy.otherName free (.inr issued.issues))
            · exact absurd inlined.type issued.notInline
        · simp at filled
    · simp at read

/-! ## When a name is taken -/

/-- A map with one sample. -/
def oneSample (uuid : String) : IndexMap :=
  (∅ : IndexMap).insert uuid 0

theorem mem_performancePhases {dataset : Dataset} {settings : RuntimeSettings}
    (dataloader : context.dataloader = some dataset) (rtSettings : context.rtSettings = some settings)
    (agenticStrategy : Bool) :
    ∃ phase ∈ performancePhases context agenticStrategy,
      phase.phaseType ≠ .warmup ∧ phase.name = "performance" := by
  unfold performancePhases
  rw [dataloader, rtSettings]
  exact ⟨_, List.mem_append_right _ (List.mem_singleton_self _), by simp, rfl⟩

theorem phases_mapped (phases : List PhaseConfig) (uuidToIndex : IndexMap) :
    (phases.map (·, uuidToIndex)).map (·.1) = phases := by
  simp [Function.comp_def]

theorem names_mapped (phases : List PhaseConfig) (uuidToIndex : IndexMap) :
    ((phases.map (·, uuidToIndex)).filter (·.1.phaseType ≠ .warmup)).map (·.1.name) =
      (phases.filter (·.phaseType ≠ .warmup)).map (·.name) := by
  rw [List.filter_map, List.map_map]
  rfl

/-- Beside a performance phase every accuracy entry of its name reads its map. -/
theorem Loaded.not_called_beside
    (loaded : Loaded environment config testMode context added inline) {agenticStrategy : Bool}
    {phases : List PhaseConfig} (built : buildPhases context agenticStrategy = some phases)
    (own : ∀ ran : List (PhaseConfig × IndexMap), ran.map (·.1) <+: phases →
      OwnSamples context ran)
    {evalConfig : EvalConfig} (member : evalConfig ∈ added.flatten) (measured : testMode ≠ .acc) :
    evalConfig.datasetName ≠ "performance" := by
  intro called
  obtain ⟨dataset, dataloader⟩ := Option.isSome_iff_exists.mp (loaded.measured.mp measured)
  have settings := loaded.settings
  rw [dataloader, Option.map_some] at settings
  obtain ⟨accuracyPhases, -, rfl⟩ := Option.map_eq_some_iff.mp built
  have evalMember : evalConfig ∈ context.evalConfigs := by
    rw [loaded.evalConfigs]
    exact List.mem_append_left _ member
  obtain ⟨entry, accuracy⟩ := loaded.mem_added member
  have owned := own ((performancePhases context agenticStrategy).map (·, oneSample "sample"))
    (by rw [phases_mapped]; exact List.prefix_append _ _)
  have distinct : ((((performancePhases context agenticStrategy).map
      (·, oneSample "sample")).filter (·.1.phaseType ≠ .warmup)).map (·.1.name)).Nodup := by
    rw [names_mapped]
    exact (List.nodup_singleton _).sublist (performancePhases_names context agenticStrategy)
  have read := (owned.scorers evalConfig evalMember (oneSample "sample")).mp (by
    rw [loadSampleIndexMap, sampleIdxMap, get?_setDefaults, called, get?_results _ distinct]
    obtain ⟨phase, phaseMember, recorded, name⟩ :=
      mem_performancePhases dataloader settings agenticStrategy
    exact .inl ⟨phase, List.mem_map.mpr ⟨phase, phaseMember, rfl⟩, recorded, name⟩)
  rcases read with ⟨phase, phaseMember, recorded, same⟩ | ⟨-, empty, -⟩
  · obtain ⟨other, otherMember, equal⟩ := List.mem_map.mp phaseMember
    obtain ⟨rfl, -⟩ := Prod.mk.inj equal
    obtain ⟨-, -, found⟩ := (performancePhases_cases otherMember).resolve_left recorded
    exact accuracy.notPerformance (same ▸ loaded.dataloader _ found)
  · exact absurd (congrArg OrderedDict.isEmpty empty) (by decide)

/-- In an accuracy run the lengths of the full run would be those of an accuracy phase. -/
theorem Loaded.not_called_alone
    (loaded : Loaded environment config testMode context added inline) {agenticStrategy : Bool}
    {phases : List PhaseConfig} (built : buildPhases context agenticStrategy = some phases)
    (own : ∀ ran : List (PhaseConfig × IndexMap), ran.map (·.1) <+: phases →
      OwnSamples context ran)
    {evalConfig : EvalConfig} (member : evalConfig ∈ added.flatten)
    (issues : evalConfig.scorer.skipEndpointPhase = false) (alone : testMode = .acc) :
    evalConfig.datasetName ≠ "performance" := by
  intro called
  have dataloader : context.dataloader = none := by
    cases found : context.dataloader with
    | none => rfl
    | some dataset => exact absurd alone (loaded.measured.mpr (by simp [found]))
  have owned := own (phases.map (·, oneSample "sample"))
    ((phases_mapped phases _).symm ▸ List.prefix_refl phases)
  have noInline : inline = [] := by
    refine List.eq_nil_iff_forall_not_mem.mpr fun performance performanceMember => ?_
    exact (loaded.inlined performance performanceMember).measured alone
  have types : ∀ phase ∈ phases, phase.phaseType ≠ .performance := by
    intro phase phaseMember type
    rcases buildPhases_cases built phaseMember (by simp [type]) with ⟨-, -, found⟩ | ⟨_, issued⟩
    · simp [dataloader] at found
    · simp [issued.type] at type
  obtain ⟨accuracyPhases, collected, rfl⟩ := Option.map_eq_some_iff.mp built
  have noPerformance : performancePhases context agenticStrategy = [] := by
    simp [performancePhases, dataloader]
  rw [noPerformance, List.nil_append] at owned types
  have distinct : (((accuracyPhases.flatten.map (·, oneSample "sample")).filter
      (·.1.phaseType ≠ .warmup)).map (·.1.name)).Nodup := by
    rw [names_mapped]
    have names := loaded.nodup_added
    have kept : (accuracyPhases.flatten.map (·.name)).Sublist
        (context.evalConfigs.map (·.datasetName)) := by
      apply CollectLoops.keys_sublist _ collected
      intro evalConfig items passed
      rcases accuracyPhase_cases passed with ⟨rfl, -⟩ | ⟨only, rfl, -, -, name, -⟩
      · simp
      · simp [name]
    rw [loaded.evalConfigs, noInline, List.append_nil] at kept
    exact names.sublist ((List.filter_sublist.map _).trans kept)
  obtain ⟨entry, accuracy⟩ := loaded.mem_added member
  have evalMember : evalConfig ∈ context.evalConfigs := by
    rw [loaded.evalConfigs]
    exact List.mem_append_left _ member
  obtain ⟨items, passed⟩ := CollectLoops.pass_of_mem collected evalMember
  rcases accuracyPhase_cases passed with ⟨-, skips | inlined⟩ | ⟨phase, rfl, -, -, name, -, type⟩
  · simp [issues] at skips
  · simp [accuracy.type] at inlined
  · have found : (sampleIdxMap context (phaseResults
        (accuracyPhases.flatten.map (·, oneSample "sample")))).get? "performance" =
          some (oneSample "sample") := by
      rw [sampleIdxMap, get?_setDefaults, get?_results _ distinct]
      refine .inl ⟨phase, List.mem_map.mpr ⟨phase, ?_, rfl⟩, by simp [type], name.trans called⟩
      exact (CollectLoops.mem_flatten_iff collected phase).mpr
        ⟨evalConfig, evalMember, [phase], passed, List.mem_singleton_self phase⟩
    obtain ⟨other, map, otherMember, performance, -⟩ := owned.fullRun ["sample"] (by
      rw [loadPerformanceUuids, found]
      rfl)
    obtain ⟨same, sameMember, equal⟩ := List.mem_map.mp otherMember
    obtain ⟨rfl, -⟩ := Prod.mk.inj equal
    exact types same sameMember performance

/-- Each scorer reads the samples of its own dataset, however far the session came,
exactly when no accuracy dataset takes the name of the performance phase. -/
theorem ownSamples_iff (environment : Environment) (config : BenchmarkConfig)
    (testMode : TestMode) (agenticStrategy : Bool) (context : BenchmarkContext)
    (phases : List PhaseConfig)
    (setup : setupBenchmark environment config testMode = some context)
    (built : buildPhases context agenticStrategy = some phases) :
    (∀ ran : List (PhaseConfig × IndexMap), ran.map (·.1) <+: phases → OwnSamples context ran) ↔
      NameIsFree config testMode := by
  obtain ⟨added, inline, loaded⟩ := setupBenchmark_loaded setup
  refine ⟨fun own entry member accuracy called => ?_,
    fun free ran prefixed => loaded.ownSamples free built prefixed⟩
  have filtered : entry ∈ config.datasets.filter (·.type = .accuracy) :=
    List.mem_filter.mpr ⟨member, by simpa using accuracy⟩
  obtain ⟨items, passed⟩ := CollectLoops.pass_of_mem loaded.collected filtered
  obtain ⟨components, resolved, ⟨-, rfl, skips⟩ | ⟨evalConfig, rfl, -, name, -, rfl, -⟩⟩ :=
    loadAccuracy_cases passed
  · exact ⟨by decide, components, resolved, skips⟩
  · have evalMember : evalConfig ∈ added.flatten :=
      (CollectLoops.mem_flatten_iff loaded.collected evalConfig).mpr
        ⟨entry, filtered, [evalConfig], passed, List.mem_singleton_self evalConfig⟩
    by_cases alone : testMode = .acc
    · refine ⟨by simp [alone], _, resolved, ?_⟩
      by_contra issues
      exact loaded.not_called_alone built own evalMember (by simpa using issues) alone
        (name.trans called)
    · exact absurd (name.trans called) (loaded.not_called_beside built own evalMember alone)

/-- Datasets of two samples that can all be read. -/
def twoSamples : Environment where
  load entry repeats := some { config := entry, numSamples := 2, repeats := repeats }
  prepares _ _ := true
  accuracyOnly _ := false
  saltable _ := true
  runtimeSettings nSamples :=
    { nSamplesFromDataset := nSamples
      minSampleCount := 1
      loadPattern := some { type := .maxThroughput } }
  loadConfig := by
    rintro entry repeats _ ⟨⟩
    exact ⟨rfl, rfl, rfl⟩

/-- A performance dataset and an accuracy dataset with the given name. -/
def besideRandom (name : String) : BenchmarkConfig where
  datasets :=
    [{ name := "random" },
      { name := name
        type := .accuracy
        accuracyConfig := some
          { evalMethod := some .passAt1, extractor := some "abcd_extractor" } }]
  distinct := by simp
  agenticPerformance := by simp

theorem ownSamples_gpqa :
    ∃ context phases, setupBenchmark twoSamples (besideRandom "gpqa") .both = some context ∧
      buildPhases context false = some phases ∧
      OwnSamples context (phases.map (·, oneSample "sample")) := by
  refine ⟨_, _, rfl, rfl, ?_⟩
  refine (ownSamples_iff twoSamples (besideRandom "gpqa") .both false _ _ rfl rfl).mpr ?_ _ ?_
  · intro entry member accuracy called
    rcases List.mem_cons.mp member with rfl | member
    · simp at accuracy
    · obtain rfl := List.mem_singleton.mp member
      simp at called
  · simp only [phases_mapped, List.prefix_refl]

def takenContext : BenchmarkContext :=
  (setupBenchmark twoSamples (besideRandom "performance") .both).get rfl

def takenPhases : List PhaseConfig :=
  (buildPhases takenContext false).get rfl

/-- An accuracy dataset named after the performance phase replaces its map. -/
theorem ownSamples_fails :
    ¬∀ (environment : Environment) (config : BenchmarkConfig) (testMode : TestMode)
      (agenticStrategy : Bool) (context : BenchmarkContext) (phases : List PhaseConfig),
      setupBenchmark environment config testMode = some context →
      buildPhases context agenticStrategy = some phases →
      ∀ ran : List (PhaseConfig × IndexMap), ran.map (·.1) = phases → OwnSamples context ran := by
  intro claimed
  have owned := claimed twoSamples (besideRandom "performance") .both false takenContext
    takenPhases rfl rfl (takenPhases.zip [oneSample "measured", oneSample "evaluated"]) rfl
  obtain ⟨phase, uuidToIndex, member, performance, uuids⟩ := owned.fullRun ["evaluated"] rfl
  rcases List.mem_cons.mp member with equal | member
  · obtain ⟨-, rfl⟩ := Prod.mk.inj equal
    exact absurd uuids (by decide)
  · obtain ⟨rfl, -⟩ := Prod.mk.inj (List.mem_singleton.mp member)
    exact absurd performance (by decide)

end InferenceEndpoint.Benchmark
