import InferenceEndpoint.Library.GreedySegments
import InferenceEndpoint.Metrics.AdaptiveWarmup
import InferenceEndpoint.Metrics.LevelShift

/-!
# Plateau selection

`compute_steady_state_metrics` cuts the super-passes after the warmup into admissible plateaus
and reports the first that is long enough.  Without any plateau the reason comes from a trend
test over the whole span.  The segmentation finds nothing as soon as no four super-passes in
a row are admissible, which says little about the whole span.
-/

namespace InferenceEndpoint

namespace SteadyStateDiagnostics

/-! ## Window admissibility -/

/-- `_window_percentile_series`; none if any super-pass is empty. -/
def windowPercentileSeries (series : List SuperPassRollup) (lo hi : Nat)
    (sourceAttr : SourceAttr) (pct : ℚ) : Option (List ℚ) :=
  let window := window series lo hi
  if window.any fun sp => (sp.samples sourceAttr).isEmpty then none
  else some (superPassPercentileSeries window sourceAttr pct)

inductive GateOutcome
  | ok
  | short
  | trend
  | cov
  deriving DecidableEq, Repr

/-- `max(cov_bounds)` of bounds that are not empty. -/
def loosest (covBounds : List ℚ) : ℚ :=
  (covBounds.max?).getD 0

section

variable (lib : FloatLibrary) (gateAlgo : GateAlgo)

/-- A trend that is significant and practically large. -/
def trends (traj : List ℚ) : Bool :=
  (algorithms lib gateAlgo traj).verdict ≠ .steady ∧ trendRelDriftMin ≤ |relDrift traj|

/-- The loop of `_window_gate`. -/
def windowGateLoop (series : List SuperPassRollup) (lo hi : Nat) (loosest : ℚ) :
    GateOutcome → List TrackedMetric → GateOutcome
  | worst, [] => worst
  | worst, m :: metrics =>
      match windowPercentileSeries series lo hi m.sourceAttr m.percentile with
      | none => .short
      | some traj =>
          if traj.length < minTrendN then .short
          else if trends lib gateAlgo traj then .trend
          else windowGateLoop series lo hi loosest
            (if loosest < cov lib traj then .cov else worst) metrics

def windowGate (series : List SuperPassRollup) (lo hi : Nat) (covBounds : List ℚ)
    (gatedMetrics : List TrackedMetric) : GateOutcome :=
  windowGateLoop lib gateAlgo series lo hi (loosest covBounds) .ok gatedMetrics

def windowAdmissible (series : List SuperPassRollup) (lo hi : Nat) (covBounds : List ℚ)
    (gatedMetrics : List TrackedMetric := gatedMetrics) : Bool :=
  windowGate lib gateAlgo series lo hi covBounds gatedMetrics = .ok

/-- None if some metric cannot be tested. -/
def gatedTrendDrifters (series : List SuperPassRollup) :
    List TrackedMetric → Option (List String)
  | [] => some []
  | m :: metrics =>
      match windowPercentileSeries series 0 series.length m.sourceAttr m.percentile with
      | none => none
      | some traj =>
          if traj.length < minTrendN then none
          else (gatedTrendDrifters series metrics).map fun drifting =>
            if trends lib gateAlgo traj then m.key :: drifting else drifting

def segmentPlateaus (series : List SuperPassRollup) (covBounds : List ℚ)
    (gatedMetrics : List TrackedMetric := gatedMetrics) (minLen : Nat := minTrendN) :
    List (Nat × Nat) :=
  GreedySegments.segments
    (fun start stop => windowAdmissible lib gateAlgo series start stop covBounds gatedMetrics)
    minLen series.length

def globalTrend (series : List SuperPassRollup) (fromIdx : Nat)
    (metrics : List TrackedMetric := driftWatchMetrics) : List (String × Verdict) :=
  metrics.map fun m =>
    let traj := superPassPercentileSeries (series.drop fromIdx) m.sourceAttr m.percentile
    (m.key, if minTrendN ≤ traj.length then (algorithms lib gateAlgo traj).verdict
      else .insufficient)

end

/-! ## CoV table -/

/-- `cov_pass_row`, one entry for each bound. -/
def covPassRow (lib : FloatLibrary) (values bounds : List ℚ) : List (ℚ × Option Bool) :=
  bounds.map fun bound =>
    (bound, if values.length < 2 then none else some (decide (cov lib values ≤ bound)))

structure CovCell where
  gated : Bool
  n : Nat
  cov : Option ℚ
  passes : List (ℚ × Option Bool)

def covTable (lib : FloatLibrary) (series : List SuperPassRollup) (bounds : List ℚ) :
    List (String × CovCell) :=
  trackedMetrics.map fun m =>
    let traj := superPassPercentileSeries series m.sourceAttr m.percentile
    (m.key,
      { gated := m.gated
        n := traj.length
        cov := if 2 ≤ traj.length then some (cov lib traj) else none
        passes := covPassRow lib traj bounds })

/-! ## Minimum duration -/

structure ShortWindow where
  isShort : Bool
  windowDurationS : ℚ
  minDurationS : ℚ
  dominant : String
  tPrecisionS : ℚ
  tRelaxationS : ℚ
  tFloorS : ℚ
  kstar : Nat
  covB : ℚ
  tauSpS : ℚ
  lP90S : ℚ

def windowIssueSpanNs (series : List SuperPassRollup) (lo hi : Nat) : Int :=
  let window := window series lo hi
  let firsts := (window.map SuperPassRollup.firstIssueNs).filter (0 ≤ ·)
  let lasts := (window.map SuperPassRollup.lastIssueNs).filter (0 ≤ ·)
  match lasts.max?, firsts.min? with
  | some last, some first => last - first
  | _, _ => 0

def minSteadyDuration (lib : FloatLibrary) (series : List SuperPassRollup) (lo hi : Nat) :
    ShortWindow :=
  let window := window series lo hi
  let tpotP50 := superPassPercentileSeries window .tpotNs (1 / 2)
  let covB := if 2 ≤ tpotP50.length then cov lib tpotP50 else 0
  let spans : List ℚ := (window.filter fun sp =>
    sp.firstIssueNs < sp.lastIssueNs ∧ 0 ≤ sp.firstIssueNs).map fun sp =>
      (sp.lastIssueNs - sp.firstIssueNs : ℚ) / 10 ^ 9
  let tauSp := if spans.isEmpty then 0 else median spans
  let lat := pooled series lo hi .latencyNs
  let lP90 := if lat.isEmpty then 0 else percentileLower (sorted lat) (9 / 10) / 10 ^ 9
  let kstar := max ⌈(ciZ95 * covB / minDurEps) ^ 2⌉.toNat minDurKstarFloor
  let tPrec := if minDurKstarFloor < kstar then kstar * tauSp else 0
  let tRelax := minDurRelaxMult * lP90
  let minS := max (max tPrec tRelax) minDurFloorS
  let windowDur : ℚ := windowIssueSpanNs series lo hi / 10 ^ 9
  { isShort := windowDur < minS
    windowDurationS := windowDur
    minDurationS := minS
    dominant := if minS = tPrec then "precision" else if minS = tRelax then "relaxation"
      else "floor"
    tPrecisionS := tPrec
    tRelaxationS := tRelax
    tFloorS := minDurFloorS
    kstar := kstar
    covB := covB
    tauSpS := tauSp
    lP90S := lP90 }

/-! ## The verdict -/

structure CovBasis where
  spLo : Nat
  spHi : Nat
  nSuperPasses : Nat

structure SteadyWindow where
  spLo : Nat
  spHi : Nat
  nSuperPasses : Nat
  nSamples : Nat
  startNs : Int
  endNs : Int
  plateauIndex : Nat
  nPlateaus : Nat
  skippedShort : Nat

/-- `SteadyState` without the summaries of the reported window. -/
structure SteadyState where
  found : Bool
  reason : Option String
  superpassSize : Nat
  nSuperPasses : Nat
  warmup : Nat
  window : Option SteadyWindow
  cov : List (String × CovCell)
  covBasis : Option CovBasis
  anomaly : Anomaly
  shortWindow : Option ShortWindow
  globalTrend : List (String × Verdict)
  driftingUp : List String

inductive Warmup
  | auto
  | count (n : Int)
  deriving DecidableEq, Repr

inductive SelectionError
  | valueError (message : String)
  | keyError (key : String)
  | indexError
  deriving DecidableEq, Repr

def resolveWarmup (fullSeries : List SuperPassRollup) (warmupDriver : String)
    (warmupBand : ℚ) : Warmup → Except SelectionError Nat
  | .count n =>
      if n < 0 then .error (.valueError s!"warmup must be >= 0, got {n}") else .ok n.toNat
  | .auto =>
      match trackedMetrics.find? (·.key = warmupDriver) with
      | none => .error (.keyError warmupDriver)
      | some driver =>
          match adaptiveWarmup fullSeries driver warmupBand with
          | none => .error .indexError
          | some w => .ok w

def driftingUp (gt : List (String × Verdict)) : List String :=
  (gt.filter (·.2 = .up)).map Prod.fst

section

variable (lib : FloatLibrary) (gateAlgo : GateAlgo) (covBounds : List ℚ)
  (gatedMetrics : List TrackedMetric) (superpassSize nSuperPasses warmup : Nat)

/-- No plateau was admissible: report whether trend or scatter failed. -/
def noPlateau (series : List SuperPassRollup) : SteadyState :=
  let gt := globalTrend lib gateAlgo series 0
  let drifters := gatedTrendDrifters lib gateAlgo series gatedMetrics
  let steadyThroughout : Bool := drifters = some []
  { found := false
    reason := some (
      if steadyThroughout then
        "no admissible steady plateau: the run is trend-steady across all " ++
          toString series.length ++ " super-passes, but its CoV exceeds " ++
          lib.text (loosest covBounds)
      else
        match drifters with
        | some (first :: others) =>
            "no admissible steady plateau: " ++ String.intercalate ", " (first :: others) ++
              " trends across the run"
        | _ => "no admissible steady plateau")
    superpassSize := superpassSize
    nSuperPasses := nSuperPasses
    warmup := warmup
    window := none
    cov := if steadyThroughout then covTable lib series covBounds else []
    covBasis := if steadyThroughout then
        some { spLo := 0, spHi := series.length, nSuperPasses := series.length }
      else none
    anomaly := detectLevelShift lib series []
    shortWindow := none
    globalTrend := gt
    driftingUp := driftingUp gt }

/-- The first plateau of the longest wall time. -/
def longestPlateau (shorts : List ShortWindow) : Nat :=
  let duration := fun i => ((shorts[i]?).map ShortWindow.windowDurationS).getD 0
  (FirstMaximum.best duration (duration 0) (shorts.length - 1)).2

/-- Report the first plateau that is long enough, or the longest as too short. -/
def reportPlateau (enforceMinDuration : Bool) (series : List SuperPassRollup)
    (plateaus : List (Nat × Nat)) : SteadyState :=
  let shorts := plateaus.map fun plateau =>
    minSteadyDuration lib series plateau.1 plateau.2
  let sel := if enforceMinDuration then shorts.findIdx? (!·.isShort) else some 0
  let reportIdx := sel.getD (longestPlateau shorts)
  let short := (shorts[reportIdx]?).getD (minSteadyDuration lib series 0 0)
  let (lo, hi) := (plateaus[reportIdx]?).getD (0, 0)
  let gt := globalTrend lib gateAlgo series lo
  { found := sel.isSome
    reason :=
      if sel.isSome then none
      else some ("all " ++ toString plateaus.length ++
        " admissible plateau(s) too short: longest " ++ lib.whole short.windowDurationS ++
        "s < " ++ lib.whole short.minDurationS ++ "s required (" ++ short.dominant ++
        "-dominated)")
    superpassSize := superpassSize
    nSuperPasses := nSuperPasses
    warmup := warmup
    window := some
      { spLo := lo
        spHi := hi
        nSuperPasses := hi - lo
        nSamples := (pooled series lo hi .ttftNs).length
        startNs := ((series[lo]?).map SuperPassRollup.firstIssueNs).getD 0
        endNs := ((series[hi - 1]?).map SuperPassRollup.lastIssueNs).getD 0
        plateauIndex := reportIdx
        nPlateaus := plateaus.length
        skippedShort := ((shorts.take reportIdx).filter ShortWindow.isShort).length }
    cov := covTable lib (SteadyStateDiagnostics.window series lo hi) covBounds
    covBasis := none
    anomaly := detectLevelShift lib series plateaus (5 / 100) reportIdx
    shortWindow := some short
    globalTrend := gt
    driftingUp := driftingUp gt }

end

def computeSteadyStateMetrics (lib : FloatLibrary) (fullSeries : List SuperPassRollup)
    (superpassSize : Nat) (warmup : Warmup := .auto) (covBounds : List ℚ := defaultCovBounds)
    (warmupDriver : String := "tpot_p50") (warmupBand : ℚ := 5 / 100)
    (gateAlgo : GateAlgo := .mkHamedRao) (gatedMetrics : List TrackedMetric := gatedMetrics)
    (enforceMinDuration : Bool := true) : Except SelectionError SteadyState :=
  match resolveWarmup fullSeries warmupDriver warmupBand warmup with
  | .error error => .error error
  | .ok resolvedWarmup =>
      let series := fullSeries.drop resolvedWarmup
      -- The largest of no bounds is an error wherever a window is tested or a reason built.
      if covBounds = [] ∧ (minTrendN ≤ series.length ∨ gatedMetrics = []) then
        .error (.valueError "max() iterable argument is empty")
      else
        let plateaus := segmentPlateaus lib gateAlgo series covBounds gatedMetrics
        if plateaus = [] then
          .ok (noPlateau lib gateAlgo covBounds gatedMetrics superpassSize fullSeries.length
            resolvedWarmup series)
        else
          .ok (reportPlateau lib gateAlgo covBounds superpassSize fullSeries.length
            resolvedWarmup enforceMinDuration series plateaus)

end SteadyStateDiagnostics

end InferenceEndpoint
