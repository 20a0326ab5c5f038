import InferenceEndpoint.Metrics.RejectionReason

/-!
# Plateau segmentation

The scan of `segment_plateaus` always ends, and its plateaus are the greedy ones: each is
admissible at every length from the least on and cannot be extended, and no plateau starts
where they leave a super-pass.
-/

namespace InferenceEndpoint

namespace SteadyStateDiagnostics

variable (lib : FloatLibrary) (gateAlgo : GateAlgo)

/-- `segment_plateaus` with a bound on the rounds of its outer loop; none if they do not
suffice.  The largest of no bounds is an error in the first window. -/
def segmentPlateausIn (rounds : Nat) (series : List SuperPassRollup) (covBounds : List ℚ)
    (gatedMetrics : List TrackedMetric := gatedMetrics) (minLen : Nat := minTrendN) :
    Except SelectionError (Option (List (Nat × Nat))) :=
  if covBounds = [] ∧ minLen ≤ series.length then
    .error (.valueError "max() iterable argument is empty")
  else
    .ok (GreedySegments.scan
      (fun start stop => windowAdmissible lib gateAlgo series start stop covBounds gatedMetrics)
      minLen series.length rounds 0)

variable {lib gateAlgo} {series : List SuperPassRollup} {covBounds : List ℚ}
  {gatedMetrics : List TrackedMetric} {minLen : Nat}

/-- A gate with some metric admits no window without super-passes. -/
theorem windowAdmissible_empty (gated : gatedMetrics ≠ []) (start : Nat) :
    windowAdmissible lib gateAlgo series start start covBounds gatedMetrics = false := by
  apply Bool.eq_false_iff.mpr
  intro admissible
  obtain ⟨m, member⟩ := List.exists_mem_of_ne_nil gatedMetrics gated
  obtain ⟨⟨traj, sampled, enough, -⟩, -⟩ := windowAdmissible_iff.mp admissible m member
  have noSuperPass : window series start start = [] :=
    List.drop_eq_nil_of_le (by simp)
  have noValue := windowPercentileSeries_eq sampled
  rw [noSuperPass] at noValue
  rw [noValue] at enough
  simp [superPassPercentileSeries, minTrendN] at enough

theorem advances (progress : 0 < minLen ∨ gatedMetrics ≠ []) :
    GreedySegments.Advances (fun start stop =>
      windowAdmissible lib gateAlgo series start stop covBounds gatedMetrics) minLen := by
  rcases progress with positive | gated
  · exact Or.inl positive
  · exact Or.inr (windowAdmissible_empty gated)

/-- The segmentation ends, and is the greedy one. -/
theorem segmentPlateaus_greedy (lib : FloatLibrary) (gateAlgo : GateAlgo)
    (series : List SuperPassRollup) (covBounds : List ℚ) (gatedMetrics : List TrackedMetric)
    (minLen : Nat) (bounded : covBounds ≠ []) (progress : 0 < minLen ∨ gatedMetrics ≠ []) :
    (∀ rounds, series.length + 2 ≤ rounds →
      segmentPlateausIn lib gateAlgo rounds series covBounds gatedMetrics minLen =
        .ok (some (segmentPlateaus lib gateAlgo series covBounds gatedMetrics minLen))) ∧
    GreedySegments.Greedy
      (fun start stop => windowAdmissible lib gateAlgo series start stop covBounds gatedMetrics)
      minLen series.length 0
      (segmentPlateaus lib gateAlgo series covBounds gatedMetrics minLen) := by
  have forward := @advances lib gateAlgo series covBounds gatedMetrics minLen progress
  constructor
  · intro rounds enough
    rw [segmentPlateausIn, if_neg (fun unbounded => bounded unbounded.1)]
    have ends := GreedySegments.scan_eq forward
      (show series.length < 0 + (series.length + 1) by omega)
      (show 0 < rounds by omega) (show series.length + 1 < 0 + rounds by omega)
    rw [ends]
    rfl
  · exact GreedySegments.segmentsFrom_greedy forward _ _ (by omega)

theorem segmentPlateaus_greedy_spike :
    (∀ rounds, 7 ≤ rounds →
      segmentPlateausIn .approximate .mkHamedRao rounds (levels [1000, 1000, 1200, 1000, 1000])
          defaultCovBounds =
        .ok (some (segmentPlateaus .approximate .mkHamedRao
          (levels [1000, 1000, 1200, 1000, 1000]) defaultCovBounds))) ∧
    GreedySegments.Greedy
      (fun start stop => windowAdmissible .approximate .mkHamedRao
        (levels [1000, 1000, 1200, 1000, 1000]) start stop defaultCovBounds)
      minTrendN 5 0
      (segmentPlateaus .approximate .mkHamedRao (levels [1000, 1000, 1200, 1000, 1000])
        defaultCovBounds) :=
  segmentPlateaus_greedy .approximate .mkHamedRao (levels [1000, 1000, 1200, 1000, 1000])
    defaultCovBounds SteadyStateDiagnostics.gatedMetrics minTrendN (List.cons_ne_nil _ _)
    (Or.inl (by decide))

end SteadyStateDiagnostics

end InferenceEndpoint
