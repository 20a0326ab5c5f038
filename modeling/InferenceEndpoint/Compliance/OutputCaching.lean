import InferenceEndpoint.Metrics.Aggregator
import Mathlib.Algebra.Order.Field.Rat
import Mathlib.Algebra.Order.Field.Basic
import Mathlib.Tactic.Linarith
import Mathlib.Tactic.FieldSimp
import Mathlib.Tactic.NormNum

/-!
# The output-caching audit

The audit compares the throughput of a reference phase with that of a phase that
repeats one sample.  Its verdict counts completed samples, and a failed sample is a
completed one, so failures can carry a phase over the completion guard and weigh in
on both rates.
-/

namespace InferenceEndpoint

namespace Report

/-- The throughput of a report, over the legacy window where that is asked for. -/
def qps (useLegacyLoadgenQpsMetrics : Bool) (snapshot : MetricsSnapshot) : Option ℚ :=
  let report := fromSnapshot snapshot
  let rawLoadgenWindowNs := counter snapshot "legacy_loadgen_window_duration_ns"
  if useLegacyLoadgenQpsMetrics ∧ rawLoadgenWindowNs > 0 ∧ report.nSamplesCompleted ≥ 2 then
    some ((report.nSamplesCompleted - 1) / (rawLoadgenWindowNs / 10 ^ 9))
  else
    report.durationNs.map fun (durationNs : Int) =>
      (report.nSamplesCompleted : ℚ) / (durationNs / 10 ^ 9)

end Report

/-- The settings of the audit, as validation accepts them. -/
structure OutputCachingTestConfig where
  samples : Nat
  auditSamples : Option Nat
  sampleIndex : Nat
  threshold : ℚ
  samplesPos : 1 ≤ samples
  auditSamplesPos : ∀ count, auditSamples = some count → 1 ≤ count
  thresholdPos : 0 < threshold
  thresholdLt : threshold < 1

inductive SampleOrderSpec
  | withoutReplacement
  | single (index : Nat)

structure AuditRunSpec where
  label : String
  nSamples : Option Nat
  sampleOrder : SampleOrderSpec

/-- What a phase of the benchmark leaves to the audit. -/
structure PhaseOutcome where
  snapshot : Option MetricsSnapshot
  runTimedOut : Bool

structure AuditRunArtifacts where
  label : String
  snapshot : MetricsSnapshot
  nRequested : Int

inductive AuditError
  | noReport (label : String)
  | runTimeout (label : String)
  | interrupted (label : String)
  | incomplete (label : String)
  | noDuration
  | nonPositiveThroughput (qps : ℚ)
  | phaseCount (count : Nat)

structure AuditRunStats where
  qps : ℚ
  nCompleted : Int
  nRequested : Int

inductive AuditReason
  | phaseIncomplete
  | compared (passed : Bool) (limit : ℚ)

structure AuditResult where
  testId : String
  passed : Bool
  ref : AuditRunStats
  audit : AuditRunStats
  threshold : ℚ
  reason : AuditReason

namespace OutputCachingAudit

def planRuns (config : OutputCachingTestConfig) : List AuditRunSpec :=
  [⟨"reference", some config.samples, .withoutReplacement⟩,
    ⟨"output_caching", some (config.auditSamples.getD config.samples),
      .single config.sampleIndex⟩]

/-- The checks of `_run_phases` on what a phase has left. -/
def acceptPhase (spec : AuditRunSpec) (outcome : PhaseOutcome) :
    Except AuditError AuditRunArtifacts :=
  match outcome.snapshot with
  | none => .error (.noReport spec.label)
  | some snapshot =>
      if outcome.runTimedOut then .error (.runTimeout spec.label)
      else if (Report.fromSnapshot snapshot).state = "interrupted" then
        .error (.interrupted spec.label)
      else if !(Report.fromSnapshot snapshot).complete then .error (.incomplete spec.label)
      else
        .ok
          { label := spec.label
            snapshot := snapshot
            nRequested :=
              match spec.nSamples with
              | some nSamples => nSamples
              | none => (Report.fromSnapshot snapshot).nSamplesIssued }

/-- `AuditRunStats.from_report`; the load patterns of the audit use the native window. -/
def fromReport (artifacts : AuditRunArtifacts) : Except AuditError AuditRunStats :=
  match Report.qps false artifacts.snapshot with
  | none => .error .noDuration
  | some qps =>
      if qps ≤ 0 then .error (.nonPositiveThroughput qps)
      else .ok ⟨qps, (Report.fromSnapshot artifacts.snapshot).nSamplesCompleted,
        artifacts.nRequested⟩

def verifyOutputCaching (ref audit : AuditRunStats) (threshold : ℚ) : AuditResult :=
  let minCompletion := 1 - threshold
  let refOk := (ref.nCompleted : ℚ) ≥ ref.nRequested * minCompletion
  let auditOk := (audit.nCompleted : ℚ) ≥ audit.nRequested * minCompletion
  let limit := ref.qps * (1 + threshold)
  let passed := decide (refOk ∧ auditOk) && decide (audit.qps < limit)
  { testId := "output_caching_test"
    passed := passed
    ref := ref
    audit := audit
    threshold := threshold
    reason := if refOk ∧ auditOk then .compared passed limit else .phaseIncomplete }

def verify (runs : List AuditRunArtifacts) (threshold : ℚ) : Except AuditError AuditResult :=
  match runs with
  | [refArts, auditArts] =>
      match fromReport refArts, fromReport auditArts with
      | .ok ref, .ok audit => .ok (verifyOutputCaching ref audit threshold)
      | .error error, _ => .error error
      | _, .error error => .error error
  | _ => .error (.phaseCount runs.length)

/-! ## Phases that are accepted -/

/-- A phase of the plan whose report is complete. -/
structure Accepted (artifacts : AuditRunArtifacts) : Prop where
  complete : (Report.fromSnapshot artifacts.snapshot).complete = true
  requested : 0 < artifacts.nRequested

theorem accepted_of_acceptPhase {config : OutputCachingTestConfig} {spec : AuditRunSpec}
    {outcome : PhaseOutcome} {artifacts : AuditRunArtifacts} (planned : spec ∈ planRuns config)
    (accepts : acceptPhase spec outcome = .ok artifacts) : Accepted artifacts := by
  have sized : ∃ nSamples, spec.nSamples = some nSamples ∧ 1 ≤ nSamples := by
    simp only [planRuns, List.mem_cons, List.not_mem_nil, or_false] at planned
    rcases planned with rfl | rfl
    · exact ⟨_, rfl, config.samplesPos⟩
    · refine ⟨_, rfl, ?_⟩
      cases given : config.auditSamples with
      | none => exact config.samplesPos
      | some count => exact config.auditSamplesPos count given
  obtain ⟨nSamples, isSize, positive⟩ := sized
  unfold acceptPhase at accepts
  split at accepts
  · cases accepts
  · split_ifs at accepts with timedOut interrupted incomplete
    obtain rfl := Except.ok.inj accepts
    refine ⟨by simpa using incomplete, ?_⟩
    simp only [isSize]
    omega

/-- The successful responses of a phase. -/
def succeeded (artifacts : AuditRunArtifacts) : Int :=
  (Report.fromSnapshot artifacts.snapshot).nSamplesCompleted -
    (Report.fromSnapshot artifacts.snapshot).nSamplesFailed

def completed (artifacts : AuditRunArtifacts) : Int :=
  (Report.fromSnapshot artifacts.snapshot).nSamplesCompleted

/-- A count of a phase for each second of its duration. -/
def rate (artifacts : AuditRunArtifacts) (count : Int) : ℚ :=
  match (Report.fromSnapshot artifacts.snapshot).durationNs with
  | some durationNs => count / (durationNs / 10 ^ 9)
  | none => 0

theorem Accepted.succeeded_nonneg {artifacts : AuditRunArtifacts} (accepted : Accepted artifacts) :
    0 ≤ succeeded artifacts ∧ succeeded artifacts ≤ completed artifacts := by
  have complete := accepted.complete
  simp only [Report.fromSnapshot, Bool.and_eq_true, decide_eq_true_eq] at complete
  simp only [succeeded, completed, Report.fromSnapshot]
  omega

/-! ## When a pass rests on successes -/

/-- A bound for all thresholds above `floor` is the bound at `floor`, which is strict if the
threshold `floor` itself counts. -/
theorem forall_threshold_iff {missing lost speedUp refRate auditRate : ℚ}
    (missingLt : missing < 1) (lostLe : lost ≤ 1) (auditNonneg : 0 ≤ auditRate) :
    (∀ threshold, 0 < threshold → threshold < 1 → missing ≤ threshold → speedUp < threshold →
        lost ≤ threshold ∧ auditRate < refRate * (1 + threshold)) ↔
      1 ≤ speedUp ∨ (lost ≤ max (max 0 speedUp) missing ∧ 0 < refRate ∧
        auditRate ≤ refRate * (1 + max (max 0 speedUp) missing) ∧
        (max 0 speedUp < missing → auditRate < refRate * (1 + missing))) := by
  generalize least : max (max 0 speedUp) missing = floor
  have floorNonneg : 0 ≤ floor := least ▸ le_max_of_le_left (le_max_left 0 speedUp)
  have speedUpLe : speedUp ≤ floor := least ▸ le_max_of_le_left (le_max_right 0 speedUp)
  have missingLe : missing ≤ floor := least ▸ le_max_right _ missing
  constructor
  · intro holds
    rcases le_or_gt 1 speedUp with fast | slow
    · exact Or.inl fast
    have floorLt : floor < 1 := by
      rw [← least]
      exact max_lt (max_lt one_pos slow) missingLt
    -- the bounds at every threshold above the least one
    have above : ∀ threshold, floor < threshold → threshold < 1 →
        lost ≤ threshold ∧ auditRate < refRate * (1 + threshold) := by
      intro threshold greater less
      exact holds threshold (by linarith) less (by linarith) (by linarith)
    have ratePos : 0 < refRate := by
      obtain ⟨-, bound⟩ := above ((floor + 1) / 2) (by linarith) (by linarith)
      have factorPos : 0 < 1 + (floor + 1) / 2 := by linarith
      exact pos_of_mul_pos_left (auditNonneg.trans_lt bound) factorPos.le
    refine Or.inr ⟨?_, ratePos, ?_, ?_⟩
    · by_contra greater
      obtain ⟨bound, -⟩ := above ((floor + lost) / 2) (by linarith) (by linarith)
      linarith
    · by_contra greater
      -- a threshold between the least one and the one that the rates ask for
      have asked : floor < auditRate / refRate - 1 := by
        rw [lt_sub_iff_add_lt, lt_div_iff₀ ratePos]
        linarith
      obtain ⟨middle, greaterThan, lessThan⟩ := exists_between (lt_min asked floorLt)
      obtain ⟨-, bound⟩ := above middle greaterThan (lessThan.trans_le (min_le_right _ _))
      have below := lessThan.trans_le (min_le_left _ _)
      rw [lt_sub_iff_add_lt, lt_div_iff₀ ratePos] at below
      linarith
    · intro counts
      have missingPos : 0 < missing := (le_max_left 0 speedUp).trans_lt counts
      have faster : speedUp < missing := (le_max_right 0 speedUp).trans_lt counts
      exact (holds missing missingPos missingLt le_rfl faster).2
  · rintro (fast | ⟨lostLeFloor, ratePos, atFloor, strict⟩) threshold positive less reaches beyond
    · linarith
    · have floorLe : floor ≤ threshold := by
        rw [← least]
        exact max_le (max_le positive.le beyond.le) reaches
      refine ⟨lostLeFloor.trans floorLe, ?_⟩
      rcases floorLe.lt_or_eq with greater | rfl
      · have more : refRate * (1 + floor) < refRate * (1 + threshold) :=
          mul_lt_mul_of_pos_left (by linarith) ratePos
        linarith
      · have counts : max 0 speedUp < missing := by
          by_contra other
          have isSpeedUp : max 0 speedUp = floor := by
            rw [← least, max_eq_left (not_lt.mp other)]
          have lessThan : max 0 speedUp < floor := max_lt positive beyond
          linarith
        have isMissing : missing = floor := by
          rw [← least, max_eq_right counts.le]
        rw [← isMissing]
        exact strict counts

/-- The share of the requested samples that a count leaves out. -/
def leftOut (artifacts : AuditRunArtifacts) (count : Int) : ℚ :=
  (artifacts.nRequested - count) / artifacts.nRequested

/-- How much faster the audit phase was, by the completed samples. -/
def speedUp (ref audit : AuditRunArtifacts) : ℚ :=
  rate audit (completed audit) / rate ref (completed ref) - 1

/-- The share of samples that were not completed, in the phase with more of them. -/
def notCompleted (ref audit : AuditRunArtifacts) : ℚ :=
  max (leftOut ref (completed ref)) (leftOut audit (completed audit))

/-- The share of samples that did not succeed. -/
def notSucceeded (ref audit : AuditRunArtifacts) : ℚ :=
  max (leftOut ref (succeeded ref)) (leftOut audit (succeeded audit))

/-- The thresholds from here on let the audit pass. -/
def leastThreshold (ref audit : AuditRunArtifacts) : ℚ :=
  max (max 0 (speedUp ref audit)) (notCompleted ref audit)

/-- The report of the phase has a throughput. -/
def Measurable (artifacts : AuditRunArtifacts) : Prop :=
  (Report.fromSnapshot artifacts.snapshot).durationNs.isSome = true ∧ 0 < completed artifacts

/-- A phase has no throughput, no threshold lets the audit pass, or the least threshold
that does covers the failures too, in the counts and in the rates. -/
def FailuresCovered (ref audit : AuditRunArtifacts) : Prop :=
  Measurable ref → Measurable audit →
    1 ≤ speedUp ref audit ∨
      (notSucceeded ref audit ≤ leastThreshold ref audit ∧ 0 < rate ref (succeeded ref) ∧
        rate audit (succeeded audit) ≤
          rate ref (succeeded ref) * (1 + leastThreshold ref audit) ∧
        (max 0 (speedUp ref audit) < notCompleted ref audit →
          rate audit (succeeded audit) <
            rate ref (succeeded ref) * (1 + notCompleted ref audit)))

/-- A pass with any threshold holds for the successful responses alone. -/
def RestsOnSuccesses (ref audit : AuditRunArtifacts) : Prop :=
  ∀ threshold, 0 < threshold → threshold < 1 → ∀ result,
    verify [ref, audit] threshold = .ok result → result.passed = true →
      (succeeded ref : ℚ) ≥ ref.nRequested * (1 - threshold) ∧
        (succeeded audit : ℚ) ≥ audit.nRequested * (1 - threshold) ∧
        rate audit (succeeded audit) < (1 + threshold) * rate ref (succeeded ref)

theorem leftOut_le_iff {artifacts : AuditRunArtifacts} (accepted : Accepted artifacts)
    (count : Int) (threshold : ℚ) :
    leftOut artifacts count ≤ threshold ↔
      (count : ℚ) ≥ artifacts.nRequested * (1 - threshold) := by
  have positive : (0 : ℚ) < artifacts.nRequested := by exact_mod_cast accepted.requested
  rw [leftOut, div_le_iff₀ positive]
  constructor <;> intro bound <;> linarith

theorem durationNs_pos {artifacts : AuditRunArtifacts} {durationNs : Int}
    (measured : (Report.fromSnapshot artifacts.snapshot).durationNs = some durationNs) :
    (0 : ℚ) < durationNs / 10 ^ 9 := by
  simp only [Report.fromSnapshot] at measured
  split at measured
  · next positive =>
      obtain rfl := Option.some_inj.mp measured
      have : (0 : ℚ) < (Report.counter artifacts.snapshot "tracked_duration_ns" : ℚ) := by
        exact_mod_cast positive
      positivity
  · cases measured

theorem rate_nonneg {artifacts : AuditRunArtifacts} {count : Int} (nonneg : 0 ≤ count) :
    0 ≤ rate artifacts count := by
  unfold rate
  split
  · next durationNs measured =>
      have countNonneg : (0 : ℚ) ≤ count := by exact_mod_cast nonneg
      exact div_nonneg countNonneg (durationNs_pos measured).le
  · exact le_rfl

/-- The statistics of a phase are its completed samples and their rate. -/
theorem fromReport_eq_ok {artifacts : AuditRunArtifacts} {stats : AuditRunStats} :
    fromReport artifacts = .ok stats ↔
      Measurable artifacts ∧
        stats = ⟨rate artifacts (completed artifacts), completed artifacts,
          artifacts.nRequested⟩ := by
  have native : Report.qps false artifacts.snapshot =
      (Report.fromSnapshot artifacts.snapshot).durationNs.map fun (durationNs : Int) =>
        ((Report.fromSnapshot artifacts.snapshot).nSamplesCompleted : ℚ) /
          (durationNs / 10 ^ 9) := by
    simp [Report.qps]
  unfold fromReport Measurable rate
  rw [native]
  cases measured : (Report.fromSnapshot artifacts.snapshot).durationNs with
  | none => simp
  | some durationNs =>
      have durationPos := durationNs_pos measured
      have positiveIff : ((Report.fromSnapshot artifacts.snapshot).nSamplesCompleted : ℚ) /
          (durationNs / 10 ^ 9) ≤ 0 ↔ ¬ 0 < completed artifacts := by
        rw [not_lt, div_le_iff₀ durationPos, zero_mul]
        exact Int.cast_nonpos
      simp only [Option.map_some, Option.isSome_some, true_and]
      by_cases positive : 0 < completed artifacts
      · rw [if_neg (fun nonPositive => positiveIff.mp nonPositive positive)]
        simp only [Except.ok.injEq, positive, true_and]
        exact eq_comm
      · rw [if_pos (positiveIff.mpr positive)]
        simp [positive]

theorem Measurable.rate_pos {artifacts : AuditRunArtifacts} (measurable : Measurable artifacts) :
    0 < rate artifacts (completed artifacts) := by
  obtain ⟨timed, positive⟩ := measurable
  obtain ⟨durationNs, measured⟩ := Option.isSome_iff_exists.mp timed
  have countPos : (0 : ℚ) < completed artifacts := by exact_mod_cast positive
  simp only [rate, measured]
  exact div_pos countPos (durationNs_pos measured)

theorem speedUp_lt_iff {ref : AuditRunArtifacts} (measurable : Measurable ref)
    (audit : AuditRunArtifacts) (threshold : ℚ) :
    speedUp ref audit < threshold ↔
      rate audit (completed audit) < rate ref (completed ref) * (1 + threshold) := by
  rw [speedUp, sub_lt_iff_lt_add, div_lt_iff₀ measurable.rate_pos, add_comm, mul_comm]

/-- The audit passes exactly if both phases have a throughput, miss no larger share than the
threshold, and the audit phase is faster by less than it. -/
theorem passes_iff {ref audit : AuditRunArtifacts} (refAccepted : Accepted ref)
    (auditAccepted : Accepted audit) (threshold : ℚ) :
    (∃ result, verify [ref, audit] threshold = .ok result ∧ result.passed = true) ↔
      Measurable ref ∧ Measurable audit ∧ notCompleted ref audit ≤ threshold ∧
        speedUp ref audit < threshold := by
  have counted : (∃ result, verify [ref, audit] threshold = .ok result ∧
      result.passed = true) ↔
      ∃ refStats auditStats, fromReport ref = .ok refStats ∧ fromReport audit = .ok auditStats ∧
        (verifyOutputCaching refStats auditStats threshold).passed = true := by
    simp only [verify]
    cases fromReport ref <;> cases fromReport audit <;> simp
  rw [counted]
  simp only [fromReport_eq_ok]
  constructor
  · rintro ⟨refStats, auditStats, ⟨refMeasurable, rfl⟩, ⟨auditMeasurable, rfl⟩, passed⟩
    simp only [verifyOutputCaching, Bool.and_eq_true, decide_eq_true_eq] at passed
    obtain ⟨⟨refOk, auditOk⟩, slower⟩ := passed
    refine ⟨refMeasurable, auditMeasurable, max_le ?_ ?_, ?_⟩
    · exact (leftOut_le_iff refAccepted _ _).mpr refOk
    · exact (leftOut_le_iff auditAccepted _ _).mpr auditOk
    · exact (speedUp_lt_iff refMeasurable audit threshold).mpr slower
  · rintro ⟨refMeasurable, auditMeasurable, covered, slower⟩
    refine ⟨_, _, ⟨refMeasurable, rfl⟩, ⟨auditMeasurable, rfl⟩, ?_⟩
    obtain ⟨refCovered, auditCovered⟩ := max_le_iff.mp covered
    simp only [verifyOutputCaching, Bool.and_eq_true, decide_eq_true_eq]
    refine ⟨⟨?_, ?_⟩, ?_⟩
    · exact (leftOut_le_iff refAccepted _ _).mp refCovered
    · exact (leftOut_le_iff auditAccepted _ _).mp auditCovered
    · exact (speedUp_lt_iff refMeasurable audit threshold).mp slower

/-- Between accepted phases a pass rests on successful responses, whatever the threshold,
exactly if the failures are covered. -/
theorem restsOnSuccesses_iff {ref audit : AuditRunArtifacts} (refAccepted : Accepted ref)
    (auditAccepted : Accepted audit) :
    RestsOnSuccesses ref audit ↔ FailuresCovered ref audit := by
  have passes := passes_iff refAccepted auditAccepted
  -- the property, with the pass and the two guards in terms of shares
  have shares : RestsOnSuccesses ref audit ↔
      (Measurable ref → Measurable audit → ∀ threshold, 0 < threshold → threshold < 1 →
        notCompleted ref audit ≤ threshold → speedUp ref audit < threshold →
          notSucceeded ref audit ≤ threshold ∧
            rate audit (succeeded audit) < rate ref (succeeded ref) * (1 + threshold)) := by
    have guards (threshold : ℚ) : notSucceeded ref audit ≤ threshold ↔
        (succeeded ref : ℚ) ≥ ref.nRequested * (1 - threshold) ∧
          (succeeded audit : ℚ) ≥ audit.nRequested * (1 - threshold) := by
      rw [notSucceeded, max_le_iff, leftOut_le_iff refAccepted, leftOut_le_iff auditAccepted]
    constructor
    · intro rests refMeasurable auditMeasurable threshold positive less reaches beyond
      obtain ⟨result, verified, passed⟩ :=
        (passes threshold).mpr ⟨refMeasurable, auditMeasurable, reaches, beyond⟩
      obtain ⟨refEnough, auditEnough, slower⟩ :=
        rests threshold positive less result verified passed
      exact ⟨(guards threshold).mpr ⟨refEnough, auditEnough⟩, by rwa [mul_comm] at slower⟩
    · intro holds threshold positive less result verified passed
      obtain ⟨refMeasurable, auditMeasurable, reaches, beyond⟩ :=
        (passes threshold).mp ⟨result, verified, passed⟩
      obtain ⟨enough, slower⟩ :=
        holds refMeasurable auditMeasurable threshold positive less reaches beyond
      obtain ⟨refEnough, auditEnough⟩ := (guards threshold).mp enough
      exact ⟨refEnough, auditEnough, by rwa [mul_comm]⟩
  rw [shares]
  refine forall_congr' fun refMeasurable => forall_congr' fun auditMeasurable => ?_
  have share {artifacts : AuditRunArtifacts} (accepted : Accepted artifacts) {count : Int}
      (nonneg : 0 ≤ count) : leftOut artifacts count ≤ 1 := by
    have countNonneg : (0 : ℚ) ≤ count := by exact_mod_cast nonneg
    rw [leftOut_le_iff accepted]
    linarith
  have below {artifacts : AuditRunArtifacts} (accepted : Accepted artifacts)
      (measurable : Measurable artifacts) : leftOut artifacts (completed artifacts) < 1 := by
    have requestedPos : (0 : ℚ) < artifacts.nRequested := by exact_mod_cast accepted.requested
    have countPos : (0 : ℚ) < completed artifacts := by exact_mod_cast measurable.2
    rw [leftOut, div_lt_iff₀ requestedPos]
    linarith
  exact forall_threshold_iff
    (max_lt (below refAccepted refMeasurable) (below auditAccepted auditMeasurable))
    (max_le (share refAccepted refAccepted.succeeded_nonneg.1)
      (share auditAccepted auditAccepted.succeeded_nonneg.1))
    (rate_nonneg auditAccepted.succeeded_nonneg.1)

/-- Ten requested samples that are all completed in ten seconds, some of them failed. -/
def tenSamples (failed : Nat) : AuditRunArtifacts where
  label := "phase"
  snapshot :=
    { state := .complete
      nPendingTasks := 0
      metrics :=
        [⟨"tracked_duration_ns", 10 ^ 10⟩, ⟨"tracked_samples_issued", 10⟩,
          ⟨"tracked_samples_failed", failed⟩, ⟨"tracked_samples_completed", 10⟩] }
  nRequested := 10

@[simp]
theorem nRequested_tenSamples (failed : Nat) : (tenSamples failed).nRequested = 10 :=
  rfl

@[simp]
theorem completed_tenSamples (failed : Nat) : completed (tenSamples failed) = 10 :=
  rfl

@[simp]
theorem succeeded_tenSamples (failed : Nat) : succeeded (tenSamples failed) = 10 - failed :=
  rfl

@[simp]
theorem rate_tenSamples (failed : Nat) (count : Int) :
    rate (tenSamples failed) count = count / 10 := by
  have duration : (Report.fromSnapshot (tenSamples failed).snapshot).durationNs =
      some (10 ^ 10) := rfl
  rw [rate, duration]
  norm_num

theorem tenSamples_measurable (failed : Nat) : Measurable (tenSamples failed) :=
  ⟨rfl, by simp⟩

theorem tenSamples_accepted {failed : Nat} (atMost : failed ≤ 10) :
    Accepted (tenSamples failed) := by
  refine ⟨?_, by simp⟩
  have counters : Report.counter (tenSamples failed).snapshot "tracked_samples_failed" = failed ∧
      Report.counter (tenSamples failed).snapshot "tracked_samples_completed" = 10 ∧
      Report.counter (tenSamples failed).snapshot "tracked_samples_issued" = 10 :=
    ⟨rfl, rfl, rfl⟩
  simp only [Report.fromSnapshot, counters]
  simp [tenSamples, MetricsSessionState.value, atMost]

/-- An audit phase in which every request fails passes. -/
theorem failed_phase_passes : ¬ RestsOnSuccesses (tenSamples 0) (tenSamples 10) := by
  intro rests
  obtain ⟨result, verified, passed⟩ :=
    (passes_iff (tenSamples_accepted (Nat.zero_le 10)) (tenSamples_accepted le_rfl) (1 / 10)).mpr
      ⟨tenSamples_measurable 0, tenSamples_measurable 10, by norm_num [notCompleted, leftOut],
        by norm_num [speedUp]⟩
  obtain ⟨-, enough, -⟩ := rests (1 / 10) (by norm_num) (by norm_num) result verified passed
  norm_num at enough

theorem restsOnSuccesses_unfailed : RestsOnSuccesses (tenSamples 0) (tenSamples 0) := by
  refine (restsOnSuccesses_iff (tenSamples_accepted (Nat.zero_le 10))
    (tenSamples_accepted (Nat.zero_le 10))).mpr fun _ _ => Or.inr ⟨?_, ?_, ?_, ?_⟩
  · norm_num [notSucceeded, leastThreshold, leftOut]
  · norm_num
  · norm_num [leastThreshold, notCompleted, leftOut, speedUp]
  · norm_num [notCompleted, leftOut, speedUp]

end OutputCachingAudit

end InferenceEndpoint
