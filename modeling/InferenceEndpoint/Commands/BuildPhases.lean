import InferenceEndpoint.LoadGenerator.LoadStrategies
import InferenceEndpoint.Library.OrderedDict
import Mathlib.Data.Rat.Defs

/-!
# The phases of a benchmark

A run loads its datasets, keeps one evaluation entry for each dataset it scores and
builds the list of phases.  The performance phase has a fixed name, an accuracy phase
the name of its dataset.
-/

namespace InferenceEndpoint.Benchmark

open Issuance (LoadStrategy)

inductive DatasetType
  | performance
  | accuracy
  deriving DecidableEq, Repr

inductive TestMode
  | perf
  | acc
  | both
  deriving DecidableEq, Repr

inductive ScorerMethod
  | passAt1
  | stringMatch
  | rouge
  | codeBench
  | shopifyCategoryF1
  | agenticInferenceInline
  | vbench
  | bfclV4
  | legacyMlperfDeepseekR1
  | sweBench
  deriving DecidableEq, Repr

namespace ScorerMethod

/-- The scorer owns an external evaluation run. -/
def skipEndpointPhase : ScorerMethod → Bool
  | sweBench => true
  | _ => false

def requiresExtractor : ScorerMethod → Bool
  | agenticInferenceInline | vbench | legacyMlperfDeepseekR1 | sweBench => false
  | _ => true

end ScorerMethod

structure AccuracyConfig where
  evalMethod : Option ScorerMethod := none
  extractor : Option String := none
  numRepeats : Nat := 1
  repeats : 1 ≤ numRepeats := by decide
  deriving DecidableEq

structure DatasetConfig where
  name : String
  type : DatasetType := .performance
  accuracyConfig : Option AccuracyConfig := none
  agenticInference : Bool := false
  deriving DecidableEq

structure WarmupConfig where
  enabled : Bool := false
  nRequests : Option Nat := none
  salt : Bool := false
  drain : Bool := false

/-- The parts of a validated configuration that the phases depend on. -/
structure BenchmarkConfig where
  datasets : List DatasetConfig
  warmup : WarmupConfig := {}
  distinct : (datasets.map fun dataset => (dataset.name, dataset.type)).Nodup
  agenticPerformance : ∀ dataset ∈ datasets, dataset.agenticInference = true →
    dataset.type = .performance

inductive LoadPatternType
  | maxThroughput
  | poisson
  | concurrency
  | agenticInference
  | burst
  | step
  deriving DecidableEq, Repr

structure LoadPattern where
  type : LoadPatternType
  targetQps : Option ℚ := none
  targetConcurrency : Option Nat := none

/-- `expectedSamples` is the padded count that a metric target and a minimal duration
call for, if there is a target. -/
structure RuntimeSettings where
  minIssueDurationMs : Option Nat := none
  maxIssueDurationMs : Option Nat := none
  nSamplesFromDataset : Nat
  nSamplesToIssue : Option Nat := none
  minSampleCount : Nat
  expectedSamples : Option Nat := none
  loadPattern : Option LoadPattern := none

/-- A loaded dataset, with the entry of the configuration it comes from. -/
structure Dataset where
  config : DatasetConfig
  numSamples : Nat
  repeats : Nat
  agentic : Bool := false
  salted : Bool := false
  deriving DecidableEq

/-- `AccuracyConfiguration`. -/
structure EvalConfig where
  scorer : ScorerMethod
  extractor : Option String
  datasetName : String
  dataset : Dataset
  numRepeats : Nat
  datasetType : DatasetType

structure PhaseConfig where
  name : String
  runtimeSettings : RuntimeSettings
  dataset : Dataset
  phaseType : PhaseType
  drainAfter : Bool := true
  agenticStrategy : Bool := false

/-- What the run takes from its files: `load` reads a dataset with a number of repeats,
`prepares` is what the scorer checks before the run, `accuracyOnly` marks predefined
datasets, `saltable` is what the salt of a warmup needs, and `runtimeSettings` are the
settings for a number of samples. -/
structure Environment where
  load : DatasetConfig → Nat → Option Dataset
  prepares : ScorerMethod → DatasetConfig → Bool
  accuracyOnly : String → Bool
  saltable : Dataset → Bool
  runtimeSettings : Nat → RuntimeSettings
  loadConfig : ∀ entry repeats dataset, load entry repeats = some dataset →
    dataset.config = entry ∧ dataset.repeats = repeats ∧ dataset.salted = false

structure BenchmarkContext where
  config : BenchmarkConfig
  testMode : TestMode
  dataloader : Option Dataset
  rtSettings : Option RuntimeSettings
  evalConfigs : List EvalConfig

/-! ## Datasets -/

def extractors : List String :=
  ["abcd_extractor", "boxed_math_extractor", "identity_extractor", "python_code_extractor",
    "function_call_extractor"]

def resolveAccuracyComponents (accuracyConfig : Option AccuracyConfig) :
    Option (ScorerMethod × Option String) :=
  accuracyConfig.bind fun accuracyConfig =>
    accuracyConfig.evalMethod.bind fun scorer =>
      match accuracyConfig.extractor with
      | none => if scorer.requiresExtractor then none else some (scorer, none)
      | some extractor =>
          if extractor ∈ extractors then some (scorer, some extractor) else none

/-- One pass of the loop over the accuracy datasets; it adds an entry or skips. -/
def loadAccuracy (environment : Environment) (testMode : TestMode) (entry : DatasetConfig) :
    Option (List EvalConfig) :=
  (resolveAccuracyComponents entry.accuracyConfig).bind fun (scorer, extractor) =>
    if testMode = .perf ∧ scorer.skipEndpointPhase then some []
    else
      entry.accuracyConfig.bind fun accuracyConfig =>
        if scorer.skipEndpointPhase ∧ accuracyConfig.numRepeats ≠ 1 then none
        else if !environment.prepares scorer entry then none
        else
          (environment.load entry accuracyConfig.numRepeats).map fun dataset =>
            [{ scorer := scorer
               extractor := extractor
               datasetName := entry.name
               dataset := dataset
               numRepeats := accuracyConfig.numRepeats
               datasetType := .accuracy }]

/-- The entry that scores the outputs of the performance phase. -/
def inlineEval (environment : Environment) (testMode : TestMode) (entry : DatasetConfig)
    (dataset : Dataset) : Option (List EvalConfig) :=
  match entry.accuracyConfig with
  | none => some []
  | some accuracyConfig =>
      (resolveAccuracyComponents (some accuracyConfig)).bind fun (scorer, extractor) =>
        if testMode = .perf ∧ scorer.skipEndpointPhase then some []
        else if accuracyConfig.numRepeats ≠ 1 then none
        else if !environment.prepares scorer entry then none
        else
          some [{ scorer := scorer
                  extractor := extractor
                  datasetName := "performance"
                  dataset := dataset
                  numRepeats := accuracyConfig.numRepeats
                  datasetType := .performance }]

def loadPerformance (environment : Environment) (config : BenchmarkConfig) (testMode : TestMode)
    (entry : DatasetConfig) : Option (Dataset × List EvalConfig) :=
  if environment.accuracyOnly entry.name then none
  else
    (environment.load entry 1).bind fun dataset =>
      if config.warmup.enabled ∧ config.warmup.salt ∧ !environment.saltable dataset then none
      else (inlineEval environment testMode entry dataset).map (dataset, ·)

def loadDatasets (environment : Environment) (config : BenchmarkConfig) (testMode : TestMode) :
    Option (Option Dataset × List EvalConfig) :=
  let accuracyConfigs := config.datasets.filter (·.type = .accuracy)
  let performanceConfigs := config.datasets.filter (·.type = .performance)
  if testMode = .acc ∧ accuracyConfigs = [] then none
  else
    (accuracyConfigs.mapM (loadAccuracy environment testMode)).bind fun evalConfigs =>
      if testMode = .acc then some (none, evalConfigs.flatten)
      else
        match performanceConfigs with
        | [entry] =>
            (loadPerformance environment config testMode entry).map
              fun (dataset, inlineEvals) => (some dataset, evalConfigs.flatten ++ inlineEvals)
        | _ => none

def setupBenchmark (environment : Environment) (config : BenchmarkConfig) (testMode : TestMode) :
    Option BenchmarkContext :=
  (loadDatasets environment config testMode).map fun (dataloader, evalConfigs) =>
    { config := config
      testMode := testMode
      dataloader := dataloader
      rtSettings := dataloader.map fun (dataset : Dataset) =>
        environment.runtimeSettings dataset.numSamples
      evalConfigs := evalConfigs }

/-! ## Phases -/

/-- The warmup and the performance phase. -/
def performancePhases (context : BenchmarkContext) (agenticStrategy : Bool) : List PhaseConfig :=
  match context.dataloader, context.rtSettings with
  | some dataset, some settings =>
      let warmup := context.config.warmup
      (if warmup.enabled then
        [{ name := "warmup"
           runtimeSettings :=
             { settings with
               minIssueDurationMs := none
               maxIssueDurationMs := none
               nSamplesFromDataset := dataset.numSamples
               nSamplesToIssue := warmup.nRequests
               minSampleCount := 1 }
           dataset := { dataset with salted := warmup.salt }
           phaseType := .warmup
           drainAfter := warmup.drain }]
      else []) ++
        [{ name := "performance"
           runtimeSettings := settings
           dataset := dataset
           phaseType := .performance
           agenticStrategy := agenticStrategy }]
  | _, _ => []

/-- Accuracy mirrors the load pattern of the performance phase; the agentic one falls
back to the maximal throughput. -/
def accuracyLoadPattern (rtSettings : Option RuntimeSettings) : LoadPattern :=
  match rtSettings.bind (·.loadPattern) with
  | none => { type := .maxThroughput }
  | some pattern =>
      if pattern.type = .agenticInference then { type := .maxThroughput } else pattern

def accuracySettings (context : BenchmarkContext) (dataset : Dataset) : RuntimeSettings where
  nSamplesFromDataset := dataset.numSamples
  nSamplesToIssue := some (dataset.numSamples * dataset.repeats)
  minSampleCount := dataset.numSamples * dataset.repeats
  loadPattern := some (accuracyLoadPattern context.rtSettings)

/-- The phase of an evaluation entry: none for a scorer that runs externally and for the
performance dataset. -/
def accuracyPhase (context : BenchmarkContext) (evalConfig : EvalConfig) :
    Option (List PhaseConfig) :=
  if evalConfig.scorer.skipEndpointPhase ∨ evalConfig.datasetType = .performance then some []
  else if evalConfig.dataset.agentic then none
  else
    some [{ name := evalConfig.datasetName
            runtimeSettings := accuracySettings context evalConfig.dataset
            dataset := evalConfig.dataset
            phaseType := .accuracy }]

def buildPhases (context : BenchmarkContext) (agenticStrategy : Bool) :
    Option (List PhaseConfig) :=
  (context.evalConfigs.mapM (accuracyPhase context)).map fun accuracyPhases =>
    performancePhases context agenticStrategy ++ accuracyPhases.flatten

/-! ## Settings of a phase -/

namespace RuntimeSettings

def totalSamplesToIssue (settings : RuntimeSettings) : Option Nat :=
  match settings.nSamplesToIssue with
  | some samples => some samples
  | none =>
      if (settings.loadPattern.map (·.type)) = some .agenticInference then
        some settings.nSamplesFromDataset
      else if settings.minIssueDurationMs.getD 0 = 0 then
        some (max settings.minSampleCount settings.nSamplesFromDataset)
      else
        settings.expectedSamples.map fun (expected : Nat) =>
          let result := max settings.minSampleCount expected
          let remainder := result % settings.nSamplesFromDataset
          if 0 < settings.nSamplesFromDataset ∧ remainder ≠ 0 then
            result + (settings.nSamplesFromDataset - remainder)
          else result

def createLoadStrategy (settings : RuntimeSettings) : Option LoadStrategy :=
  settings.loadPattern.bind fun pattern =>
    match pattern.type with
    | .maxThroughput => some .burst
    | .poisson => if pattern.targetQps.any (0 < ·) then some .timed else none
    | .concurrency =>
        match pattern.targetConcurrency with
        | some (target + 1) => some (.concurrency (target + 1) (Nat.succ_pos target))
        | _ => none
    | .agenticInference | .burst | .step => none

end RuntimeSettings

/-- What `_run_phase` makes of a phase before it starts the strategy. -/
def PhaseConfig.settings (phase : PhaseConfig) : Option Issuance.PhaseSettings :=
  (if phase.agenticStrategy then some .agentic
    else phase.runtimeSettings.createLoadStrategy).bind fun strategy =>
      phase.runtimeSettings.totalSamplesToIssue.map fun (total : Nat) =>
        { strategy := strategy
          totalSamples := total
          maxDurationNs := phase.runtimeSettings.maxIssueDurationMs.getD 0 * 1000000
          drainAfter := phase.drainAfter }

end InferenceEndpoint.Benchmark
