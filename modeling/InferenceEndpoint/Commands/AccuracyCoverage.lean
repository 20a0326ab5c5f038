import InferenceEndpoint.Commands.ScoringArtifacts
import InferenceEndpoint.LoadGenerator.SampleLedger
import InferenceEndpoint.Evaluation.Scoring

/-!
# The coverage of an accuracy phase

An accuracy phase draws its samples in sequence and has as many samples to issue as its
dataset has rows, times the repeats.  When its strategy returns without a stop, its map
has every row as often as the dataset is repeated.
-/

namespace InferenceEndpoint.Benchmark

open Issuance

/-- `create_sample_order`; `other` is the order of a phase that is no accuracy phase. -/
def PhaseConfig.sampleOrder (phase : PhaseConfig) (other : SampleOrder) : SampleOrder :=
  if phase.phaseType = .accuracy then
    .newSequential phase.runtimeSettings.nSamplesFromDataset
  else other

theorem count_range_mod {nSamples index : Nat} (below : index < nSamples) (repeats : Nat) :
    ((List.range (nSamples * repeats)).map (· % nSamples)).count index = repeats := by
  induction repeats with
  | zero => simp
  | succ repeats ih =>
      have again : ((List.range nSamples).map (nSamples * repeats + ·)).map (· % nSamples) =
          List.range nSamples := by
        rw [List.map_map]
        conv_rhs => rw [← List.map_id (List.range nSamples)]
        apply List.map_congr_left
        intro row member
        have rowBelow := List.mem_range.mp member
        simp [Nat.mod_eq_of_lt rowBelow]
      rw [Nat.mul_succ, List.range_add, List.map_append, List.count_append, ih, again]
      rw [List.count_eq_one_of_mem List.nodup_range (List.mem_range.mpr below)]

/-- An accuracy phase has the settings of its dataset. -/
theorem accuracy_settings {context : BenchmarkContext} {agenticStrategy : Bool}
    {phases : List PhaseConfig} (built : buildPhases context agenticStrategy = some phases)
    {phase : PhaseConfig} (member : phase ∈ phases) (accuracy : phase.phaseType = .accuracy) :
    phase.runtimeSettings = accuracySettings context phase.dataset ∧
      phase.agenticStrategy = false := by
  obtain ⟨accuracyPhases, collected, rfl⟩ := Option.map_eq_some_iff.mp built
  rcases List.mem_append.mp member with performance | issued
  · rcases performancePhases_cases performance with type | ⟨type, -⟩
    · simp [accuracy] at type
    · simp [accuracy] at type
  · obtain ⟨evalConfig, evalMember, items, passed, phaseMember⟩ :=
      (CollectLoops.mem_flatten_iff collected phase).mp issued
    unfold accuracyPhase at passed
    split at passed
    · obtain rfl := Option.some.inj passed
      simp at phaseMember
    · split at passed
      · simp at passed
      · obtain rfl := Option.some.inj passed
        obtain rfl := List.mem_singleton.mp phaseMember
        exact ⟨rfl, rfl⟩

theorem createLoadStrategy_single {settings : RuntimeSettings} {strategy : LoadStrategy}
    (created : settings.createLoadStrategy = some strategy) : strategy ≠ .agentic := by
  rintro rfl
  obtain ⟨pattern, -, made⟩ := Option.bind_eq_some_iff.mp created
  split at made
  · simp at made
  · split at made <;> simp at made
  · split at made <;> simp at made
  · simp at made
  · simp at made
  · simp at made

/-- What the session makes of an accuracy phase. -/
theorem accuracy_phaseSettings {context : BenchmarkContext} {phase : PhaseConfig}
    (runtime : phase.runtimeSettings = accuracySettings context phase.dataset)
    (plain : phase.agenticStrategy = false) {settings : PhaseSettings}
    (made : phase.settings = some settings) :
    settings.strategy ≠ .agentic ∧
      settings.totalSamples = phase.dataset.numSamples * phase.dataset.repeats ∧
      settings.maxDurationNs = 0 := by
  unfold PhaseConfig.settings at made
  rw [plain, if_neg (by decide), runtime] at made
  obtain ⟨strategy, created, made⟩ := Option.bind_eq_some_iff.mp made
  obtain ⟨total, totalEq, rfl⟩ := Option.map_eq_some_iff.mp made
  refine ⟨createLoadStrategy_single created, ?_, by simp [runtime, accuracySettings]⟩
  simpa [RuntimeSettings.totalSamplesToIssue, accuracySettings] using totalEq.symm

theorem count_values {ledger : IndexLedger} {run : PhaseRun} {nSamples repeats : Nat}
    (recorded : Recorded run ledger) (order : ledger.initial = .newSequential nSamples)
    (issued : run.issued.length = nSamples * repeats) :
    ledger.uuidToIndex.values = (List.range (nSamples * repeats)).map (· % nSamples) := by
  rw [OrderedDict.values, recorded.entries, List.map_snd_zip (by simp), issued, order]
  apply List.map_congr_left
  intro draw _
  exact SampleOrder.indexAt_newSequential nSamples draw

/-- An accuracy phase whose strategy returned without a stop leaves every row of its
dataset as often as the dataset is repeated, whatever the session does later. -/
theorem accuracy_coverage (context : BenchmarkContext) (agenticStrategy : Bool)
    (phases : List PhaseConfig) (built : buildPhases context agenticStrategy = some phases)
    (phase : PhaseConfig) (member : phase ∈ phases) (accuracy : phase.phaseType = .accuracy)
    (nonempty : 0 < phase.dataset.numSamples)
    (labels : List IndexedLabel) (state : Indexed)
    (runs : GuardedRuns.run Indexed.step {} labels = some state)
    (run : PhaseRun) (current : state.session.current = some run)
    (settings : phase.settings = some run.settings)
    (ledger : IndexLedger) (ledgerFound : state.ledgers[state.session.past.length]? = some ledger)
    (other : SampleOrder) (order : ledger.initial = phase.sampleOrder other)
    (returned : ∃ issuedCount, run.position = .ended .returned issuedCount)
    (running : state.session.stopRequested = false)
    (unstopped : state.session.currentPhaseStopped = false)
    (later : List IndexedLabel) (final : Indexed)
    (goesOn : GuardedRuns.run Indexed.step state later = some final) :
    ∃ uuidToIndex : SampleIndexMap,
      (final.ledgers[state.session.past.length]?).map (·.uuidToIndex) = some uuidToIndex ∧
      uuidToIndex.size = phase.dataset.numSamples * phase.dataset.repeats ∧
      (∀ index < phase.dataset.numSamples,
        uuidToIndex.values.count index = phase.dataset.repeats) ∧
      (∀ index ∈ uuidToIndex.values, index < phase.dataset.numSamples) ∧
      ∀ (py : Python) (payloads : Payloads) (extractor : Option Extractor)
        (dataset : AccuracyDataset) (log : List EventRecord),
        dataset.numSamples = phase.dataset.numSamples →
          (PassAt1Scorer.score py payloads extractor dataset uuidToIndex log).2 =
            phase.dataset.repeats := by
  obtain ⟨runtime, plain⟩ := accuracy_settings built member accuracy
  obtain ⟨single, total, uncapped⟩ := accuracy_phaseSettings runtime plain settings
  obtain ⟨issuedCount, ended⟩ := returned
  have traced := Indexed.traced runs
  have found := Session.runs_current current
  have sequential : ledger.initial = .newSequential phase.dataset.numSamples := by
    rw [order, PhaseConfig.sampleOrder, if_pos accuracy, runtime]
    rfl
  have issued : run.issued.length = phase.dataset.numSamples * phase.dataset.repeats := by
    rw [← total]
    exact traced.capped.exhausted current running unstopped single uncapped ended
  have recorded : Recorded run ledger := by
    have orderly := traced.capped.orderly run (Session.mem_runs_current current)
    refine (traced.recorded _ run ledger found ledgerFound single).resolve_left ?_
    rintro (raised | ⟨_, failed⟩)
    · exact orderly.honest issuedCount ended single raised
    · simp [ended] at failed
  have values := count_values recorded sequential issued
  have size : ledger.uuidToIndex.size = phase.dataset.numSamples * phase.dataset.repeats := by
    rw [OrderedDict.size_eq_length_keys, keys_of_entries recorded.entries, issued]
  refine ⟨ledger.uuidToIndex, ?_, size, ?_, ?_, ?_⟩
  · rw [traced.returned_run later goesOn found ledgerFound ended]
    rfl
  · intro index below
    rw [values]
    exact count_range_mod below _
  · intro index indexMember
    rw [values] at indexMember
    obtain ⟨draw, -, rfl⟩ := List.mem_map.mp indexMember
    exact Nat.mod_lt draw nonempty
  · intro py payloads extractor dataset log sameSize
    unfold PassAt1Scorer.score
    rw [size, sameSize]
    dsimp only
    split
    · rename_i none
      rcases Nat.mul_eq_zero.mp none with empty | once
      · omega
      · exact once.symm
    · split <;> exact Nat.mul_div_cancel_left _ nonempty

/-- Two samples, issued in a burst. -/
def accuracyRun (settings : PhaseSettings) : List IndexedLabel :=
  [.startPhase settings (.newSequential 2), .step (.execute false) false,
    .step (.callback false false) false, .step (.response 0) false,
    .step (.callback false false) false, .step (.callback false false) false, .step .wake false]

def gpqaContext : BenchmarkContext :=
  (setupBenchmark twoSamples (besideRandom "gpqa") .acc).get rfl

def gpqaPhase : PhaseConfig where
  name := "gpqa"
  runtimeSettings :=
    { nSamplesFromDataset := 2
      nSamplesToIssue := some 2
      minSampleCount := 2
      loadPattern := some { type := .maxThroughput } }
  dataset := (gpqaContext.evalConfigs.head (by decide)).dataset
  phaseType := .accuracy

theorem accuracy_coverage_gpqa :
    ∃ uuidToIndex : SampleIndexMap, uuidToIndex.size = 2 ∧
      ∀ index < 2, uuidToIndex.values.count index = 1 := by
  have settings : gpqaPhase.settings = some { strategy := .burst, totalSamples := 2 } := rfl
  obtain ⟨uuidToIndex, -, size, count, -⟩ :=
    accuracy_coverage gpqaContext false [gpqaPhase] rfl gpqaPhase (List.mem_singleton_self _) rfl
      (by decide) (accuracyRun { strategy := .burst, totalSamples := 2 }) _ rfl _ rfl settings _ rfl
      (.newSequential 2) rfl ⟨_, rfl⟩ rfl rfl [] _ rfl
  exact ⟨uuidToIndex, size, count⟩

end InferenceEndpoint.Benchmark
