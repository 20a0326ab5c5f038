import InferenceEndpoint.Library.AverageRanks
import InferenceEndpoint.Library.FirstMaximum
import Mathlib.Algebra.Order.Floor.Semiring
import Mathlib.Data.Nat.Factorial.Basic
import Mathlib.Data.Rat.Floor

/-!
# Steady-state diagnostics

The super-passes of a run are cropped of their warmup and cut into plateaus on which the
gated metrics neither trend nor scatter; one plateau is reported, and a later shift of the
level is flagged.  Numbers are exact; the functions of the math library that leave the
rationals, and the texts of floats, are given.
-/

namespace InferenceEndpoint

namespace SteadyStateDiagnostics

/-- `math.sqrt`, `math.erf`, `math.exp`, `**` with a fractional exponent, the text of a float
and its text without decimals. -/
structure FloatLibrary where
  sqrt : ℚ → ℚ
  erf : ℚ → ℚ
  exp : ℚ → ℚ
  pow : ℚ → ℚ → ℚ
  text : ℚ → String
  whole : ℚ → String

/-- A library of approximations by rational numbers: Newton's method, a rational function and
the first terms of a series. -/
def FloatLibrary.approximate : FloatLibrary where
  sqrt q :=
    let scaled := ⌊q * 10 ^ 12⌋.toNat
    (((fun root => (root + scaled / root) / 2)^[60] (scaled + 1) : Nat) : ℚ) / 10 ^ 6
  erf z :=
    let base := 1 + 278393 / 10 ^ 6 * |z| + 230389 / 10 ^ 6 * |z| ^ 2 + 972 / 10 ^ 6 * |z| ^ 3 +
      78108 / 10 ^ 6 * |z| ^ 4
    if z < 0 then 1 / base ^ 4 - 1 else 1 - 1 / base ^ 4
  exp z :=
    let series := ((List.range 16).map fun k => |z| ^ k / (k.factorial : ℚ)).sum
    if z < 0 then 1 / series else series
  pow base exponent := 1 + exponent * (base - 1)
  text := toString
  whole q := toString ⌊q⌋

def minTrendN : Nat := 4

def relDriftThreshold : ℚ := 15 / 100

def snrThreshold : ℚ := 2

def trendRelDriftMin : ℚ := 5 / 100

def ciZ95 : ℚ := 196 / 100

def zeroMedianFloor : ℚ := 1 / 10 ^ 9

def minDurEps : ℚ := 5 / 100

def minDurRelaxMult : ℚ := 5

def minDurFloorS : ℚ := 600

def minDurKstarFloor : Nat := minTrendN

def defaultCovBounds : List ℚ := [3 / 100, 5 / 100, 8 / 100]

/-! ## Super-passes and metrics -/

structure SuperPassRollup where
  firstIssueNs : Int := -1
  lastIssueNs : Int := -1
  ttftNs : List ℚ := []
  ttftWarmNs : List ℚ := []
  tpotNs : List ℚ := []
  latencyNs : List ℚ := []

inductive SourceAttr
  | ttftNs
  | ttftWarmNs
  | tpotNs
  | latencyNs
  deriving DecidableEq, Repr

/-- `getattr(sp, source_attr)`. -/
def SuperPassRollup.samples (sp : SuperPassRollup) : SourceAttr → List ℚ
  | .ttftNs => sp.ttftNs
  | .ttftWarmNs => sp.ttftWarmNs
  | .tpotNs => sp.tpotNs
  | .latencyNs => sp.latencyNs

structure TrackedMetric where
  key : String
  sourceAttr : SourceAttr
  percentile : ℚ
  gated : Bool

def trackedMetrics : List TrackedMetric :=
  [⟨"ttft_p50", .ttftNs, 1 / 2, false⟩,
    ⟨"ttft_p90", .ttftNs, 9 / 10, false⟩,
    ⟨"tpot_p50", .tpotNs, 1 / 2, true⟩,
    ⟨"tpot_p90", .tpotNs, 9 / 10, true⟩,
    ⟨"ttft_p99", .ttftNs, 99 / 100, false⟩,
    ⟨"tpot_p99", .tpotNs, 99 / 100, false⟩,
    ⟨"latency_p50", .latencyNs, 1 / 2, false⟩,
    ⟨"latency_p90", .latencyNs, 9 / 10, false⟩,
    ⟨"ttft_warm_p50", .ttftWarmNs, 1 / 2, false⟩,
    ⟨"ttft_warm_p90", .ttftWarmNs, 9 / 10, false⟩]

def gatedMetrics : List TrackedMetric :=
  trackedMetrics.filter TrackedMetric.gated

def driftWatchMetrics : List TrackedMetric :=
  trackedMetrics.filter fun metric =>
    metric.key ∈ ["tpot_p50", "tpot_p90", "ttft_p50", "ttft_p90"]

/-- `_METRIC_BY_KEY["tpot_p50"]`, the default driver of the warmup. -/
def tpotP50 : TrackedMetric :=
  ⟨"tpot_p50", .tpotNs, 1 / 2, true⟩

/-! ## Numeric helpers -/

def sorted (values : List ℚ) : List ℚ :=
  values.insertionSort (· ≤ ·)

/-- `percentile_lower` of values that are not empty. -/
def percentileLower (sortedValues : List ℚ) (p : ℚ) : ℚ :=
  sortedValues.getD ⌊p * (sortedValues.length - 1 : ℚ)⌋.toNat 0

def mean (values : List ℚ) : ℚ :=
  values.sum / values.length

def median (values : List ℚ) : ℚ :=
  let ascending := sorted values
  let half := ascending.length / 2
  if ascending.length % 2 = 1 then ascending.getD half 0
  else (ascending.getD (half - 1) 0 + ascending.getD half 0) / 2

/-- Without samples the super-pass is left out. -/
def superPassPercentileSeries (series : List SuperPassRollup) (sourceAttr : SourceAttr)
    (percentile : ℚ) : List ℚ :=
  series.filterMap fun sp =>
    let values := sp.samples sourceAttr
    if values.isEmpty then none else some (percentileLower (sorted values) percentile)

/-- `series[lo:hi]`. -/
def window (series : List SuperPassRollup) (lo hi : Nat) : List SuperPassRollup :=
  (series.take hi).drop lo

def pooled (series : List SuperPassRollup) (lo hi : Nat) (sourceAttr : SourceAttr) : List ℚ :=
  (window series lo hi).flatMap fun sp => sp.samples sourceAttr

section

variable (lib : FloatLibrary)

def pstdev (values : List ℚ) : ℚ :=
  let center := mean values
  lib.sqrt (mean (values.map fun value => (value - center) ^ 2))

def cov (values : List ℚ) : ℚ :=
  if values.length < 2 then 0
  else
    let center := mean values
    if center = 0 then 0 else pstdev lib values / |center|

/-- `_phi`. -/
def phi (z : ℚ) : ℚ :=
  1 / 2 * (1 + lib.erf (z / lib.sqrt 2))

def twoSidedP (stat : ℚ) : ℚ :=
  2 * (1 - phi lib |stat|)

/-! ## Trend algorithms -/

inductive Verdict
  | up
  | down
  | steady
  | insufficient
  deriving DecidableEq, Repr

structure TrendResult where
  verdict : Verdict
  slope : ℚ := 0
  statistic : ℚ := 0
  pvalue : Option ℚ := none
  variance : ℚ := 0
  relDrift : ℚ := 0
  snr : ℚ := 0

/-- `_insufficient`. -/
def TrendResult.notEnough : TrendResult where
  verdict := .insufficient

def direction (x : ℚ) : Verdict :=
  if 0 < x then .up else if x < 0 then .down else .steady

def significantVerdict (effect pvalue alpha : ℚ) : Verdict :=
  if pvalue < alpha then direction effect else .steady

def medianOrFloor (values : List ℚ) : ℚ :=
  let m := median values
  if m ≠ 0 then m else zeroMedianFloor

/-- `_mk_S`. -/
def mkS : List ℚ → Int
  | [] => 0
  | value :: values =>
      (values.map fun later => if value < later then 1 else if later < value then -1 else 0).sum +
        mkS values

/-- `_mk_variance`, with a tie term for each value. -/
def mkVariance (values : List ℚ) : ℚ :=
  let n : ℚ := values.length
  let tieTerm : ℚ := (values.dedup.map fun value =>
    let t : ℚ := values.count value
    t * (t - 1) * (2 * t + 5)).sum
  (n * (n - 1) * (2 * n + 5) - tieTerm) / 18

def mkVerdict (s : Int) (variance alpha : ℚ) : TrendResult :=
  if variance ≤ 0 then
    { verdict := direction s, statistic := s, pvalue := some 0, variance := variance }
  else
    let z : ℚ :=
      if 0 < s then (s - 1) / lib.sqrt variance
      else if s < 0 then (s + 1) / lib.sqrt variance
      else 0
    let p := twoSidedP lib z
    { verdict := significantVerdict s p alpha, statistic := s, pvalue := some p,
      variance := variance }

def mannKendall (values : List ℚ) (alpha : ℚ := 5 / 100) : TrendResult :=
  if values.length < minTrendN then .notEnough
  else mkVerdict lib (mkS values) (mkVariance values) alpha

/-- The position of each value in the stable ascending order, from one. -/
def ordinalRanks (values : List ℚ) : List ℚ :=
  let order := (AverageRanks.ascending values).map Prod.snd
  (List.range values.length).map fun position => ((order.idxOf position + 1 : Nat) : ℚ)

/-- `sum(dev[t] * dev[t - k] for t in range(k, n))`. -/
def lagProduct (values : List ℚ) (lag : Nat) : ℚ :=
  (List.zipWith (· * ·) (values.drop lag) values).sum

def autocorrOfRanks (values : List ℚ) : List ℚ :=
  let ranks := ordinalRanks values
  let dev := ranks.map (· - mean ranks)
  let denom := (dev.map (· ^ 2)).sum
  (List.range' 1 (values.length - 1)).map fun k =>
    if denom = 0 then 0 else lagProduct dev k / denom

def mannKendallHamedRao (values : List ℚ) (alpha : ℚ := 5 / 100) : TrendResult :=
  if values.length < minTrendN then .notEnough
  else
    let n : ℚ := values.length
    let ci := ciZ95 / lib.sqrt n
    let terms := (autocorrOfRanks values).zipIdx 1 |>.map fun (r, k) =>
      if |r| ≤ ci then 0 else (n - k) * (n - k - 1) * (n - k - 2) * r
    let correction := 1 + 2 / (n * (n - 1) * (n - 2)) * terms.sum
    mkVerdict lib (mkS values)
      (mkVariance values * if correction ≤ 0 then 1 else correction) alpha

/-- The slopes between all pairs of values. -/
def pairSlopes (values : List ℚ) : List ℚ :=
  let indexed := values.zipIdx
  indexed.flatMap fun (first, i) =>
    (indexed.filter fun entry => i < entry.2).map fun (second, j) =>
      (second - first) / ((j : ℚ) - i)

def theilSen (values : List ℚ) (relThreshold : ℚ := relDriftThreshold) : TrendResult :=
  if values.length < minTrendN then .notEnough
  else
    let slope := median (pairSlopes values)
    let rel := slope * (values.length - 1 : ℚ) / medianOrFloor values
    { verdict := if |rel| < relThreshold then .steady else direction rel, slope := slope,
      relDrift := rel }

/-- `_ols`: the slope, the sum of squares of the positions and the residuals. -/
def ols (values : List ℚ) : ℚ × ℚ × List ℚ :=
  let xbar := (values.length - 1 : ℚ) / 2
  let ybar := mean values
  let sxx := (values.zipIdx.map fun entry => ((entry.2 : ℚ) - xbar) ^ 2).sum
  let sxy := (values.zipIdx.map fun entry => ((entry.2 : ℚ) - xbar) * (entry.1 - ybar)).sum
  let slope := if sxx ≠ 0 then sxy / sxx else 0
  let intercept := ybar - slope * xbar
  (slope, sxx, values.zipIdx.map fun entry => entry.1 - (intercept + slope * entry.2))

/-- `_rel_drift`. -/
def relDrift (values : List ℚ) : ℚ :=
  if values.length < 2 then 0
  else (ols values).1 * (values.length - 1 : ℚ) / medianOrFloor values

def neweyWest (values : List ℚ) (lag : Option Nat := none) (alpha : ℚ := 5 / 100) :
    TrendResult :=
  if values.length < minTrendN then .notEnough
  else
    let (slope, sxx, resid) := ols values
    if sxx = 0 then { verdict := .steady }
    else
      let n : ℚ := values.length
      let xbar := (n - 1) / 2
      let u := resid.zipIdx.map fun entry => ((entry.2 : ℚ) - xbar) * entry.1
      let lag := lag.getD (max 1 ⌊4 * lib.pow (n / 100) (2 / 9)⌋.toNat)
      let s := (u.map (· ^ 2)).sum + ((List.range' 1 (min lag (values.length - 1))).map fun lg =>
        2 * (1 - lg / (lag + 1)) * lagProduct u lg).sum
      let varB := s / (sxx * sxx)
      let se := if 0 < varB then lib.sqrt varB else 0
      if se = 0 then { verdict := direction slope, slope := slope, pvalue := some 0 }
      else
        let t := slope / se
        let p := twoSidedP lib t
        { verdict := significantVerdict slope p alpha, slope := slope, statistic := t,
          pvalue := some p }

def slopeVsScatter (values : List ℚ) (relThreshold : ℚ := relDriftThreshold)
    (snrThreshold : ℚ := snrThreshold) : TrendResult :=
  if values.length < minTrendN then .notEnough
  else
    let (slope, _, resid) := ols values
    let totalChange := slope * (values.length - 1 : ℚ)
    let rel := totalChange / medianOrFloor values
    let snr := |totalChange| / (pstdev lib resid + zeroMedianFloor)
    { verdict := if relThreshold ≤ |rel| ∧ snrThreshold ≤ snr then direction rel else .steady,
      slope := slope, snr := snr, relDrift := rel }

/-- The keys of `ALGORITHMS`. -/
inductive GateAlgo
  | mkHamedRao
  | mannKendall
  | neweyWest
  | theilSen
  | slopeVsScatter
  deriving DecidableEq, Repr

/-- `ALGORITHMS`. -/
def algorithms : GateAlgo → List ℚ → TrendResult
  | .mkHamedRao, values => mannKendallHamedRao lib values
  | .mannKendall, values => mannKendall lib values
  | .neweyWest, values => neweyWest lib values
  | .theilSen, values => theilSen values
  | .slopeVsScatter, values => slopeVsScatter lib values

end

end SteadyStateDiagnostics

end InferenceEndpoint
