import InferenceEndpoint.Library.BernoulliTrials
import InferenceEndpoint.Library.BracketedSearch
import Mathlib.Algebra.Order.Floor.Semiring
import Mathlib.Algebra.Order.Ring.Unbundled.Rat
import Mathlib.Data.Rat.Floor

/-!
# Early-stopping estimates

The estimate of a percentile discards as many of the highest latencies as the samples can
absorb at the given confidence.  How many they are comes from a search on a binomial tail,
and where the measured percentile stands from a rounded product; the estimate is at or
above it, because a tail below the confidence target ends below the mean.
-/

namespace InferenceEndpoint

namespace EarlyStopping

open BernoulliTrials BracketedSearch

/-- `CONFIDENCE`. -/
def confidence : ℚ :=
  99 / 100

/-- `1.0 - c`. -/
def target : ℚ :=
  1 - confidence

/-- The percentiles that `_validate_domain` accepts, as fractions. -/
structure Fraction where
  value : ℚ
  pos : 0 < value
  lt_one : value < 1

/-- What floating point makes of the odds and of the product in the percentile index: the
odds are those of at most `t` hits among `h + t` trials up to a small error, and the product
is off by one at most. -/
structure FloatArithmetic where
  odds : Nat → Nat → Fraction → ℚ
  odds_accurate : ∀ h t fraction,
    |odds h t fraction - tail (1 - fraction.value) (h + t) t| ≤ 1 / 200
  product : Fraction → Nat → ℚ
  product_accurate : ∀ fraction factor, |product fraction factor - fraction.value * factor| ≤ 1

/-- Without rounding. -/
def FloatArithmetic.exact : FloatArithmetic where
  odds h t fraction := tail (1 - fraction.value) (h + t) t
  odds_accurate h t fraction := by simp
  product fraction factor := fraction.value * factor
  product_accurate fraction factor := by simp

variable (arithmetic : FloatArithmetic)

/-- With enough queries under the latency bound, the odds pass. -/
theorem odds_pass (t : Nat) (fraction : Fraction) :
    ∃ least, ∀ h, least ≤ h → decide (arithmetic.odds h t fraction < target) = true := by
  obtain ⟨least, small⟩ := exists_tail_lt (sub_pos.mpr fraction.lt_one)
    (by linarith [fraction.pos] : 1 - fraction.value ≤ 1)
    (by norm_num : (0 : ℚ) < 1 / 200) t
  refine ⟨least, fun h enough => decide_eq_true ?_⟩
  have error := (abs_le.mp (arithmetic.odds_accurate h t fraction)).2
  have tail := small (h + t) (Nat.le_add_right_of_le enough)
  unfold target confidence
  linarith

def findMinPassing (t : Nat) (fraction : Fraction) : Nat :=
  let passes := fun h => decide (arithmetic.odds h t fraction < target)
  bisectFirst passes 1 (doubleUntil passes (odds_pass arithmetic t fraction) 2 (by decide))

/-- The queries under and over the latency bound exceed the number of samples. -/
theorem discards_too_many (n : Nat) (fraction : Fraction) :
    ∃ least, ∀ t, least ≤ t →
      decide (n < findMinPassing arithmetic t fraction + t) = true :=
  ⟨n + 1, fun t enough => decide_eq_true (by omega)⟩

def discardCount (n : Nat) (fraction : Fraction) : Nat :=
  if n < findMinPassing arithmetic 1 fraction + 1 then 0
  else
    bisectLast (fun t => decide (findMinPassing arithmetic t fraction + t ≤ n)) 1
      (doubleUntil (fun t => decide (n < findMinPassing arithmetic t fraction + t))
        (discards_too_many arithmetic n fraction) 2 (by decide))

structure EarlyStoppingResult (Latency : Type) where
  percentile : ℚ
  confidence : ℚ
  n : Nat
  estimate : Option Latency
  empirical : Option Latency
  minQueries : Nat
  discarded : Nat

/-- `percentile / 100.0` for the percentiles that are accepted. -/
def fractionOf? (percentile : ℚ) : Option Fraction :=
  if accepted : 1 ≤ percentile ∧ percentile < 100 then
    some
      { value := percentile / 100
        pos := by linarith [accepted.1]
        lt_one := by linarith [accepted.2] }
  else none

/-- `int(fraction * (n - 1)) if n else 0`. -/
def empiricalIndex (fraction : Fraction) (n : Nat) : Nat :=
  if n = 0 then 0 else ⌊arithmetic.product fraction (n - 1)⌋₊

/-- `es_percentile_estimate`; `none` stands for the `ValueError`. -/
def esPercentileEstimate {Latency : Type} (sortedLatencies : List Latency) (percentile : ℚ) :
    Option (EarlyStoppingResult Latency) :=
  (fractionOf? percentile).map fun fraction =>
    let n := sortedLatencies.length
    let minQueries := findMinPassing arithmetic 1 fraction + 1
    let empirical := sortedLatencies[empiricalIndex arithmetic fraction n]?
    if n < minQueries then
      { percentile := percentile
        confidence := confidence
        n := n
        estimate := none
        empirical := empirical
        minQueries := minQueries
        discarded := 0 }
    else
      let t := discardCount arithmetic n fraction
      { percentile := percentile
        confidence := confidence
        n := n
        estimate := sortedLatencies[n - t]?
        empirical := empirical
        minQueries := minQueries
        discarded := t - 1 }

/-! ## What the searches find -/

theorem findMinPassing_spec (t : Nat) (fraction : Fraction) :
    arithmetic.odds (findMinPassing arithmetic t fraction) t fraction < target ∧
      1 ≤ findMinPassing arithmetic t fraction := by
  obtain ⟨stopped, large⟩ := doubleUntil_stops
    (fun h => decide (arithmetic.odds h t fraction < target))
    (odds_pass arithmetic t fraction) 2 (by decide)
  obtain ⟨passes, positive⟩ := bisectFirst_passes
    (fun h => decide (arithmetic.odds h t fraction < target)) 1 _
    (le_trans (by decide) large) stopped
  exact ⟨of_decide_eq_true passes, positive⟩

theorem discardCount_spec {n : Nat} {fraction : Fraction}
    (enough : findMinPassing arithmetic 1 fraction + 1 ≤ n) :
    findMinPassing arithmetic (discardCount arithmetic n fraction) fraction +
        discardCount arithmetic n fraction ≤ n ∧
      1 ≤ discardCount arithmetic n fraction := by
  unfold discardCount
  rw [if_neg (Nat.not_lt.mpr enough)]
  obtain ⟨fits, positive⟩ := bisectLast_fits
    (fun t => decide (findMinPassing arithmetic t fraction + t ≤ n)) 1
    (doubleUntil (fun t => decide (n < findMinPassing arithmetic t fraction + t))
      (discards_too_many arithmetic n fraction) 2 (by decide)) (decide_eq_true enough)
  exact ⟨of_decide_eq_true fits, positive⟩

/-- Odds that pass are those of fewer hits than expected. -/
theorem lt_expected_of_passes {h t : Nat} {fraction : Fraction} (median : 1 / 2 ≤ fraction.value)
    (passes : arithmetic.odds h t fraction < target) :
    (t : ℚ) < ((h + t : Nat) : ℚ) * (1 - fraction.value) := by
  by_contra above
  have tenth := tenth_le_tail (by linarith [fraction.lt_one]) (by linarith)
    (le_of_not_gt above)
  have error := (abs_le.mp (arithmetic.odds_accurate h t fraction)).1
  unfold target confidence at passes
  linarith

/-- The estimate stands at the measured percentile or after it. -/
theorem empiricalIndex_le {n : Nat} {fraction : Fraction} (median : 1 / 2 ≤ fraction.value)
    (enough : findMinPassing arithmetic 1 fraction + 1 ≤ n) :
    empiricalIndex arithmetic fraction n ≤ n - discardCount arithmetic n fraction := by
  obtain ⟨fits, positive⟩ := discardCount_spec arithmetic enough
  generalize discardCount arithmetic n fraction = t at *
  have fewer := lt_expected_of_passes arithmetic median
    (findMinPassing_spec arithmetic t fraction).1
  have nonempty : n ≠ 0 := by omega
  unfold empiricalIndex
  rw [if_neg nonempty]
  by_contra after
  have after : n - t + 1 ≤ ⌊arithmetic.product fraction (n - 1)⌋₊ := Nat.lt_of_not_le after
  have index : ((n - t + 1 : Nat) : ℚ) ≤ arithmetic.product fraction (n - 1) :=
    (Nat.le_floor_iff' (Nat.succ_ne_zero _)).mp after
  have error := (abs_le.mp (arithmetic.product_accurate fraction (n - 1))).2
  have samples : ((findMinPassing arithmetic t fraction + t : Nat) : ℚ) ≤ n := by
    exact_mod_cast fits
  have share := mul_le_mul_of_nonneg_right samples (sub_nonneg.mpr fraction.lt_one.le)
  rw [Nat.cast_add, Nat.cast_sub (by omega), Nat.cast_one] at index
  rw [Nat.cast_sub (Nat.one_le_iff_ne_zero.mpr nonempty), Nat.cast_one] at error
  linarith [fraction.pos]

theorem fractionOf?_spec {percentile : ℚ} (grid : 50 ≤ percentile) (below : percentile < 100) :
    ∃ fraction, fractionOf? percentile = some fraction ∧
      fraction.value = percentile / 100 ∧ 1 / 2 ≤ fraction.value := by
  have accepted : 1 ≤ percentile ∧ percentile < 100 := ⟨by linarith, below⟩
  refine ⟨_, dif_pos accepted, rfl, ?_⟩
  change 1 / 2 ≤ percentile / 100
  linarith

theorem minQueries_esPercentileEstimate {Latency : Type} {sortedLatencies : List Latency}
    {percentile : ℚ} {fraction : Fraction} (isFraction : fractionOf? percentile = some fraction)
    {result : EarlyStoppingResult Latency}
    (isResult : esPercentileEstimate arithmetic sortedLatencies percentile = some result) :
    result.minQueries = findMinPassing arithmetic 1 fraction + 1 := by
  unfold esPercentileEstimate at isResult
  rw [isFraction, Option.map_some, Option.some_inj] at isResult
  subst isResult
  dsimp only
  split <;> rfl

def median : Fraction where
  value := 50 / 100
  pos := by norm_num
  lt_one := by norm_num

theorem findMinPassing_median : findMinPassing .exact 1 median = 10 := by
  have fails : ∀ h ∈ [2, 4, 8, 9],
      decide (FloatArithmetic.exact.odds h 1 median < target) = false := by
    simp only [List.forall_mem_cons, FloatArithmetic.exact, median, target, confidence, tail]
    norm_num
  have passes : ∀ h ∈ [10, 12, 16],
      decide (FloatArithmetic.exact.odds h 1 median < target) = true := by
    simp only [List.forall_mem_cons, FloatArithmetic.exact, median, target, confidence, tail]
    norm_num
  have doubled : doubleUntil (fun h => decide (FloatArithmetic.exact.odds h 1 median < target))
      (odds_pass .exact 1 median) 2 (by decide) = 16 := by
    rw [doubleUntil, dif_neg (by simp [fails 2]), doubleUntil, dif_neg (by simp [fails 4]),
      doubleUntil, dif_neg (by simp [fails 8]), doubleUntil, dif_pos (by simp [passes 16])]
  unfold findMinPassing
  dsimp only
  rw [doubled, bisectFirst, if_pos (by decide)]
  dsimp only
  rw [if_neg (by simp [fails 8]), bisectFirst, if_pos (by decide)]
  dsimp only
  rw [if_pos (by simp [passes 12]), bisectFirst, if_pos (by decide)]
  dsimp only
  rw [if_pos (by simp [passes 10]), bisectFirst, if_pos (by decide)]
  dsimp only
  rw [if_neg (by simp [fails 9]), bisectFirst, if_neg (by decide)]

end EarlyStopping

end InferenceEndpoint
