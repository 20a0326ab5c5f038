import InferenceEndpoint.Metrics.PlateauSelection

/-!
# Rejection reason

A run without plateaus that is trend-steady is said to scatter beyond the loosest bound.  The
scan has only looked at spans of four super-passes: the reason is true of the whole span
exactly if some such span is admissible, so that there is a plateau, or the whole span is not.
-/

namespace InferenceEndpoint

namespace SteadyStateDiagnostics

section

variable {lib : FloatLibrary} {gateAlgo : GateAlgo} {series : List SuperPassRollup}
  {covBounds : List ℚ} {gatedMetrics : List TrackedMetric}

/-- A metric has values in each super-pass of a window, enough of them and without a trend. -/
def TrendSteady (lib : FloatLibrary) (gateAlgo : GateAlgo) (series : List SuperPassRollup)
    (lo hi : Nat) (m : TrackedMetric) : Prop :=
  ∃ traj, windowPercentileSeries series lo hi m.sourceAttr m.percentile = some traj ∧
    minTrendN ≤ traj.length ∧ trends lib gateAlgo traj = false

/-- The CoV of a metric over a window. -/
def covOver (lib : FloatLibrary) (series : List SuperPassRollup) (lo hi : Nat)
    (m : TrackedMetric) : ℚ :=
  cov lib (superPassPercentileSeries (window series lo hi) m.sourceAttr m.percentile)

theorem windowPercentileSeries_eq {lo hi : Nat} {m : TrackedMetric} {traj : List ℚ}
    (sampled : windowPercentileSeries series lo hi m.sourceAttr m.percentile = some traj) :
    traj = superPassPercentileSeries (window series lo hi) m.sourceAttr m.percentile := by
  dsimp only [windowPercentileSeries] at sampled
  split at sampled
  · cases sampled
  · exact (Option.some_inj.mp sampled).symm

theorem windowGateLoop_eq_ok_iff {lo hi : Nat} {bound : ℚ} (worst : GateOutcome) :
    windowGateLoop lib gateAlgo series lo hi bound worst gatedMetrics = .ok ↔
      worst = .ok ∧ ∀ m ∈ gatedMetrics,
        TrendSteady lib gateAlgo series lo hi m ∧ covOver lib series lo hi m ≤ bound := by
  induction gatedMetrics generalizing worst with
  | nil => simp [windowGateLoop]
  | cons m metrics ih =>
      rw [windowGateLoop, List.forall_mem_cons]
      cases sampled : windowPercentileSeries series lo hi m.sourceAttr m.percentile with
      | none =>
          apply iff_of_false nofun
          rintro ⟨-, ⟨⟨traj, found, -⟩, -⟩, -⟩
          rw [sampled] at found
          cases found
      | some traj =>
          have spread : covOver lib series lo hi m = cov lib traj := by
            rw [covOver, ← windowPercentileSeries_eq sampled]
          have steady : TrendSteady lib gateAlgo series lo hi m ↔
              minTrendN ≤ traj.length ∧ trends lib gateAlgo traj = false := by
            simp [TrendSteady, sampled]
          rw [spread, steady]
          dsimp only
          split
          · rename_i short
            apply iff_of_false nofun
            rintro ⟨-, ⟨⟨long, -⟩, -⟩, -⟩
            omega
          · rename_i long
            split
            · rename_i trend
              apply iff_of_false nofun
              rintro ⟨-, ⟨⟨-, flat⟩, -⟩, -⟩
              rw [trend] at flat
              cases flat
            · rename_i flat
              rw [ih]
              have enough : minTrendN ≤ traj.length := not_lt.mp long
              have steadily : trends lib gateAlgo traj = false := by simpa using flat
              by_cases scattered : bound < cov lib traj
              · rw [if_pos scattered]
                apply iff_of_false
                · rintro ⟨impossible, -⟩
                  cases impossible
                · rintro ⟨-, ⟨-, within⟩, -⟩
                  exact absurd scattered (not_lt.mpr within)
              · rw [if_neg scattered]
                have within := not_lt.mp scattered
                constructor
                · rintro ⟨same, rest⟩
                  exact ⟨same, ⟨⟨enough, steadily⟩, within⟩, rest⟩
                · rintro ⟨same, -, rest⟩
                  exact ⟨same, rest⟩

/-- A window is admissible if each gated metric is trend-steady and within the loosest bound. -/
theorem windowAdmissible_iff {lo hi : Nat} :
    windowAdmissible lib gateAlgo series lo hi covBounds gatedMetrics = true ↔
      ∀ m ∈ gatedMetrics, TrendSteady lib gateAlgo series lo hi m ∧
        covOver lib series lo hi m ≤ loosest covBounds := by
  rw [windowAdmissible, decide_eq_true_iff, windowGate, windowGateLoop_eq_ok_iff]
  exact and_iff_right rfl

theorem gatedTrendDrifters_eq_nil_iff :
    gatedTrendDrifters lib gateAlgo series gatedMetrics = some [] ↔
      ∀ m ∈ gatedMetrics, TrendSteady lib gateAlgo series 0 series.length m := by
  induction gatedMetrics with
  | nil => simp [gatedTrendDrifters]
  | cons m metrics ih =>
      rw [gatedTrendDrifters, List.forall_mem_cons, ← ih]
      cases sampled : windowPercentileSeries series 0 series.length m.sourceAttr m.percentile with
      | none =>
          apply iff_of_false nofun
          rintro ⟨⟨traj, found, -⟩, -⟩
          rw [sampled] at found
          cases found
      | some traj =>
          have steady : TrendSteady lib gateAlgo series 0 series.length m ↔
              minTrendN ≤ traj.length ∧ trends lib gateAlgo traj = false := by
            simp [TrendSteady, sampled]
          rw [steady]
          dsimp only
          split
          · rename_i short
            apply iff_of_false nofun
            rintro ⟨⟨long, -⟩, -⟩
            omega
          · rename_i long
            have enough : minTrendN ≤ traj.length := not_lt.mp long
            cases trend : trends lib gateAlgo traj with
            | true => simp
            | false => simp [enough]

variable (lib gateAlgo series covBounds gatedMetrics) in
/-- There is no plateau exactly if no four super-passes in a row are admissible. -/
theorem segmentPlateaus_eq_nil_iff :
    segmentPlateaus lib gateAlgo series covBounds gatedMetrics = [] ↔
      ∀ lo, lo + minTrendN ≤ series.length →
        windowAdmissible lib gateAlgo series lo (lo + minTrendN) covBounds gatedMetrics = false :=
  GreedySegments.segments_eq_nil_iff

end

/-! ## The result -/

section

variable (lib : FloatLibrary) (gateAlgo : GateAlgo) (covBounds : List ℚ)
  (gatedMetrics : List TrackedMetric)

/-- What a rejection says of the span after the warmup, and what an admissible span promises. -/
structure TruthfulRejection (series : List SuperPassRollup) (result : SteadyState) : Prop where
  scattered : result.found = false → result.covBasis.isSome = true →
    ∃ m ∈ gatedMetrics, loosest covBounds <
      cov lib (superPassPercentileSeries series m.sourceAttr m.percentile)
  admissible :
    windowAdmissible lib gateAlgo series 0 series.length covBounds gatedMetrics = true →
      result.window.isSome = true

variable {lib gateAlgo covBounds gatedMetrics}

/-- A result names no window exactly if there is no plateau. -/
theorem computeSteadyStateMetrics_cases {fullSeries : List SuperPassRollup}
    {superpassSize : Nat} {warmup : Warmup} {warmupDriver : String} {warmupBand : ℚ}
    {enforceMinDuration : Bool} {result : SteadyState}
    (returned : computeSteadyStateMetrics lib fullSeries superpassSize warmup covBounds
      warmupDriver warmupBand gateAlgo gatedMetrics enforceMinDuration = .ok result) :
    (segmentPlateaus lib gateAlgo (fullSeries.drop result.warmup) covBounds gatedMetrics = [] ∧
      result = noPlateau lib gateAlgo covBounds gatedMetrics superpassSize fullSeries.length
        result.warmup (fullSeries.drop result.warmup)) ∨
    (segmentPlateaus lib gateAlgo (fullSeries.drop result.warmup) covBounds gatedMetrics ≠ [] ∧
      result.covBasis = none ∧ result.window.isSome = true) := by
  rw [computeSteadyStateMetrics] at returned
  split at returned
  · cases returned
  · rename_i w resolved
    dsimp only at returned
    split at returned
    · cases returned
    · split at returned
      · rename_i empty
        cases returned
        exact Or.inl ⟨empty, rfl⟩
      · rename_i nonempty
        cases returned
        exact Or.inr ⟨nonempty, rfl, rfl⟩

/-- With a fixed warmup and some bound there is a result. -/
theorem computeSteadyStateMetrics_returns (fullSeries : List SuperPassRollup)
    (superpassSize warmup : Nat) (warmupDriver : String) (warmupBand : ℚ)
    (enforceMinDuration : Bool) (bounded : covBounds ≠ []) :
    ∃ result, computeSteadyStateMetrics lib fullSeries superpassSize (.count warmup) covBounds
      warmupDriver warmupBand gateAlgo gatedMetrics enforceMinDuration = .ok result ∧
      result.warmup = warmup := by
  have resolved : resolveWarmup fullSeries warmupDriver warmupBand (.count warmup) = .ok warmup := by
    rw [resolveWarmup, if_neg (by omega), Int.toNat_natCast]
  rw [computeSteadyStateMetrics, resolved]
  dsimp only
  rw [if_neg (fun unbounded => bounded unbounded.1)]
  split
  · exact ⟨_, rfl, rfl⟩
  · exact ⟨_, rfl, rfl⟩

theorem noPlateau_covBasis (superpassSize nSuperPasses warmup : Nat)
    (series : List SuperPassRollup) :
    (noPlateau lib gateAlgo covBounds gatedMetrics superpassSize nSuperPasses warmup
      series).covBasis.isSome = true ↔
      gatedTrendDrifters lib gateAlgo series gatedMetrics = some [] := by
  simp [noPlateau]

theorem covOver_whole (series : List SuperPassRollup) (m : TrackedMetric) :
    covOver lib series 0 series.length m =
      cov lib (superPassPercentileSeries series m.sourceAttr m.percentile) := by
  rw [covOver, window, List.take_length, List.drop_zero]

/-- A rejection is truthful exactly if four super-passes in a row are admissible or the whole
span is not. -/
theorem truthful_rejection_iff {fullSeries : List SuperPassRollup} {superpassSize : Nat}
    {warmup : Warmup} {warmupDriver : String} {warmupBand : ℚ} {enforceMinDuration : Bool}
    {result : SteadyState}
    (returned : computeSteadyStateMetrics lib fullSeries superpassSize warmup covBounds
      warmupDriver warmupBand gateAlgo gatedMetrics enforceMinDuration = .ok result) :
    TruthfulRejection lib gateAlgo covBounds gatedMetrics (fullSeries.drop result.warmup) result ↔
      (∃ lo, lo + minTrendN ≤ (fullSeries.drop result.warmup).length ∧
        windowAdmissible lib gateAlgo (fullSeries.drop result.warmup) lo (lo + minTrendN)
          covBounds gatedMetrics = true) ∨
      windowAdmissible lib gateAlgo (fullSeries.drop result.warmup) 0
        (fullSeries.drop result.warmup).length covBounds gatedMetrics = false := by
  have plateaus := segmentPlateaus_eq_nil_iff lib gateAlgo (fullSeries.drop result.warmup)
    covBounds gatedMetrics
  rcases computeSteadyStateMetrics_cases returned with ⟨empty, same⟩ | ⟨nonempty, noBasis, reported⟩
  · have never := plateaus.mp empty
    generalize fullSeries.drop result.warmup = series at *
    have noWindow : result.window = none := by rw [same]; rfl
    constructor
    · intro truthful
      refine Or.inr ?_
      cases whole : windowAdmissible lib gateAlgo series 0 series.length covBounds gatedMetrics with
      | false => rfl
      | true =>
          have reported := truthful.admissible whole
          rw [noWindow] at reported
          cases reported
    · rintro (⟨lo, fits, admissible⟩ | whole)
      · rw [never lo fits] at admissible
        cases admissible
      · refine ⟨fun _ basis => ?_, fun admissible => ?_⟩
        · rw [same, noPlateau_covBasis, gatedTrendDrifters_eq_nil_iff] at basis
          by_contra within
          have admissible : windowAdmissible lib gateAlgo series 0 series.length covBounds
              gatedMetrics = true := by
            refine windowAdmissible_iff.mpr fun m member => ⟨basis m member, ?_⟩
            rw [covOver_whole]
            by_contra scattered
            exact within ⟨m, member, not_le.mp scattered⟩
          rw [whole] at admissible
          cases admissible
        · rw [whole] at admissible
          cases admissible
  · have some' : ∃ lo, lo + minTrendN ≤ (fullSeries.drop result.warmup).length ∧
        windowAdmissible lib gateAlgo (fullSeries.drop result.warmup) lo (lo + minTrendN)
          covBounds gatedMetrics = true := by
      by_contra none'
      refine nonempty (plateaus.mpr fun lo fits => ?_)
      rw [← Bool.not_eq_true]
      exact fun admissible => none' ⟨lo, fits, admissible⟩
    refine iff_of_true ⟨fun _ basis => ?_, fun _ => reported⟩ (Or.inl some')
    rw [noBasis] at basis
    cases basis

end

/-- Super-passes with one sample each. -/
def levels (values : List ℚ) : List SuperPassRollup :=
  values.map fun value => { tpotNs := [value] }

theorem truthful_rejection_steady :
    ∃ result, computeSteadyStateMetrics .approximate (levels [1000, 1000, 1000, 1000, 1000]) 1
      (.count (0 : Nat)) = .ok result ∧
      TruthfulRejection .approximate .mkHamedRao defaultCovBounds gatedMetrics
        ((levels [1000, 1000, 1000, 1000, 1000]).drop result.warmup) result := by
  obtain ⟨result, returned, noWarmup⟩ := computeSteadyStateMetrics_returns
    (levels [1000, 1000, 1000, 1000, 1000]) 1 0 "tpot_p50" (5 / 100) true
    (show defaultCovBounds ≠ [] from List.cons_ne_nil _ _)
  refine ⟨result, returned, (truthful_rejection_iff returned).mpr (Or.inl ⟨0, ?_, ?_⟩)⟩
  · rw [noWarmup]
    decide
  · rw [noWarmup]
    decide +kernel

/-- One super-pass in five is slower: no four in a row are admissible, but all five are. -/
theorem spike_rejected :
    ¬ ∀ (lib : FloatLibrary) (fullSeries : List SuperPassRollup) (superpassSize : Nat)
        (warmup : Warmup) (covBounds : List ℚ) (warmupDriver : String) (warmupBand : ℚ)
        (gateAlgo : GateAlgo) (enforceMinDuration : Bool) (result : SteadyState),
      computeSteadyStateMetrics lib fullSeries superpassSize warmup covBounds warmupDriver
        warmupBand gateAlgo gatedMetrics enforceMinDuration = .ok result →
      TruthfulRejection lib gateAlgo covBounds gatedMetrics (fullSeries.drop result.warmup)
        result := by
  intro truthful
  obtain ⟨result, returned, noWarmup⟩ := computeSteadyStateMetrics_returns
    (levels [1000, 1000, 1200, 1000, 1000]) 1 0 "tpot_p50" (5 / 100) true
    (show defaultCovBounds ≠ [] from List.cons_ne_nil _ _)
  have noPlateaus : segmentPlateaus .approximate .mkHamedRao
      ((levels [1000, 1000, 1200, 1000, 1000]).drop result.warmup) defaultCovBounds
      gatedMetrics = [] := by
    rw [noWarmup]
    decide +kernel
  have rejected := truthful .approximate _ 1 _ _ _ _ .mkHamedRao true result returned
  rcases computeSteadyStateMetrics_cases returned with ⟨-, same⟩ | ⟨nonempty, -⟩
  · have reported := rejected.admissible (by rw [noWarmup]; decide +kernel)
    rw [same] at reported
    cases reported
  · exact nonempty noPlateaus

end SteadyStateDiagnostics

end InferenceEndpoint
