import Mathlib.Algebra.Order.Archimedean.Basic
import Mathlib.Algebra.Order.Field.Basic
import Mathlib.Tactic.FieldSimp
import Mathlib.Tactic.Linarith
import Mathlib.Tactic.Positivity
import Mathlib.Tactic.Ring

/-!
# Bernoulli trials

The number of hits among independent trials with a common rate: its mean values by
recursion on the trials, its first four central moments, and two bounds for the
probability of few hits.  Up to a number above the mean it is at least a constant, and up
to a fixed number it tends to zero.
-/

namespace BernoulliTrials

section Definitions

variable {K : Type*} [Field K]

/-- The probability of at most so many hits. -/
def tail (rate : K) : Nat → Nat → K
  | 0, _ => 1
  | trials + 1, 0 => (1 - rate) * tail rate trials 0
  | trials + 1, most + 1 =>
      (1 - rate) * tail rate trials (most + 1) + rate * tail rate trials most

/-- The mean of a function of the number of hits. -/
def mean (rate : K) : Nat → (Nat → K) → K
  | 0, value => value 0
  | trials + 1, value =>
      (1 - rate) * mean rate trials value + rate * mean rate trials fun hits => value (hits + 1)

variable (rate : K) (trials : Nat)

theorem mean_add (first second : Nat → K) :
    mean rate trials (fun hits => first hits + second hits) =
      mean rate trials first + mean rate trials second := by
  induction trials generalizing first second with
  | zero => rfl
  | succ trials ih =>
      simp only [mean, ih]
      ring

theorem mean_mul (factor : K) (value : Nat → K) :
    mean rate trials (fun hits => factor * value hits) = factor * mean rate trials value := by
  induction trials generalizing value with
  | zero => rfl
  | succ trials ih =>
      simp only [mean, ih]
      ring

theorem mean_const (constant : K) : mean rate trials (fun _ => constant) = constant := by
  induction trials with
  | zero => rfl
  | succ trials ih =>
      simp only [mean, ih]
      ring

/-- The tail is the mean of an indicator. -/
theorem tail_eq_mean (most : Nat) :
    tail rate trials most = mean rate trials fun hits => if hits ≤ most then 1 else 0 := by
  induction trials generalizing most with
  | zero => simp [tail, mean]
  | succ trials ih =>
      cases most with
      | zero =>
          have none_ : mean rate trials (fun hits => if hits + 1 ≤ 0 then (1 : K) else 0) = 0 := by
            simpa using mean_const rate trials (0 : K)
          rw [tail, mean, ih, none_]
          ring
      | succ most =>
          rw [tail, mean, ih, ih]
          simp only [Nat.add_le_add_iff_right]

/-! ## Central moments -/

/-- The mean of a power of the distance from the expected number of hits. -/
def moment (power : Nat) : K :=
  mean rate trials fun hits => (hits - trials * rate) ^ power

/-- The mean of a polynomial of the distance. -/
theorem mean_polynomial (first second fourth constant : K) :
    mean rate trials (fun hits => first * (hits - trials * rate) ^ 1 +
      second * (hits - trials * rate) ^ 2 + fourth * (hits - trials * rate) ^ 4 + constant) =
        first * moment rate trials 1 + second * moment rate trials 2 +
          fourth * moment rate trials 4 + constant := by
  rw [mean_add, mean_add, mean_add, mean_mul, mean_mul, mean_mul, mean_const]
  rfl

theorem mean_succ (value : Nat → K) :
    mean rate (trials + 1) value = mean rate trials fun hits =>
      (1 - rate) * value hits + rate * value (hits + 1) := by
  rw [mean_add, mean_mul, mean_mul]
  rfl

theorem moment_one : moment rate trials 1 = 0 := by
  induction trials with
  | zero => simp [moment, mean]
  | succ trials ih =>
      have step : moment rate (trials + 1) 1 = mean rate trials fun hits =>
          1 * (hits - trials * rate) ^ 1 + 0 * (hits - trials * rate) ^ 2 +
            0 * (hits - trials * rate) ^ 4 + 0 := by
        unfold moment
        rw [mean_succ]
        congr 1
        funext hits
        push_cast
        ring
      rw [step, mean_polynomial, ih]
      ring

theorem moment_two : moment rate trials 2 = trials * (rate * (1 - rate)) := by
  induction trials with
  | zero => simp [moment, mean]
  | succ trials ih =>
      have step : moment rate (trials + 1) 2 = mean rate trials fun hits =>
          0 * (hits - trials * rate) ^ 1 + 1 * (hits - trials * rate) ^ 2 +
            0 * (hits - trials * rate) ^ 4 + rate * (1 - rate) := by
        unfold moment
        rw [mean_succ]
        congr 1
        funext hits
        push_cast
        ring
      rw [step, mean_polynomial, ih]
      push_cast
      ring

theorem moment_four : moment rate trials 4 =
    trials * (rate * (1 - rate)) * (1 + (3 * trials - 6) * (rate * (1 - rate))) := by
  induction trials with
  | zero => simp [moment, mean]
  | succ trials ih =>
      have step : moment rate (trials + 1) 4 = mean rate trials fun hits =>
          4 * rate * (1 - rate) * (1 - 2 * rate) * (hits - trials * rate) ^ 1 +
            6 * rate * (1 - rate) * (hits - trials * rate) ^ 2 +
              1 * (hits - trials * rate) ^ 4 +
                rate * (1 - rate) * (1 - 3 * (rate * (1 - rate))) := by
        unfold moment
        rw [mean_succ]
        congr 1
        funext hits
        push_cast
        ring
      rw [step, mean_polynomial, ih, moment_one, moment_two]
      push_cast
      ring

end Definitions

/-! ## Bounds -/

section Bounds

variable {K : Type*} [Field K] [LinearOrder K] [IsStrictOrderedRing K] {rate : K}

theorem mean_mono (nonneg : 0 ≤ rate) (atMostOne : rate ≤ 1) (trials : Nat)
    {first second : Nat → K} (below : ∀ hits, first hits ≤ second hits) :
    mean rate trials first ≤ mean rate trials second := by
  induction trials generalizing first second with
  | zero => exact below 0
  | succ trials ih =>
      have complement : 0 ≤ 1 - rate := sub_nonneg.mpr atMostOne
      exact add_le_add (mul_le_mul_of_nonneg_left (ih below) complement)
        (mul_le_mul_of_nonneg_left (ih fun hits => below (hits + 1)) nonneg)

theorem tail_nonneg (nonneg : 0 ≤ rate) (atMostOne : rate ≤ 1) (trials most : Nat) :
    0 ≤ tail rate trials most := by
  have bound : mean rate trials (fun _ => (0 : K)) ≤
      mean rate trials fun hits => if hits ≤ most then 1 else 0 := by
    refine mean_mono nonneg atMostOne trials fun hits => ?_
    split
    · exact zero_le_one
    · exact le_refl 0
  rwa [mean_const, ← tail_eq_mean] at bound

/-- More hits are allowed. -/
theorem tail_mono (nonneg : 0 ≤ rate) (atMostOne : rate ≤ 1) (trials : Nat) {fewer more : Nat}
    (ordered : fewer ≤ more) : tail rate trials fewer ≤ tail rate trials more := by
  rw [tail_eq_mean, tail_eq_mean]
  refine mean_mono nonneg atMostOne trials fun hits => ?_
  by_cases few : hits ≤ fewer
  · rw [if_pos few, if_pos (few.trans ordered)]
  · rw [if_neg few]
    split
    · exact zero_le_one
    · exact le_refl 0

/-- One trial more makes it less likely that there are at most so many hits. -/
theorem tail_succ_le (nonneg : 0 ≤ rate) (atMostOne : rate ≤ 1) (trials most : Nat) :
    tail rate (trials + 1) most ≤ tail rate trials most := by
  have complement : 0 ≤ 1 - rate := sub_nonneg.mpr atMostOne
  cases most with
  | zero =>
      rw [tail]
      apply mul_le_of_le_one_left (tail_nonneg nonneg atMostOne trials 0)
      linarith
  | succ most =>
      have fewer := mul_le_mul_of_nonneg_left
        (tail_mono nonneg atMostOne trials (Nat.le_succ most)) nonneg
      rw [tail]
      linarith

theorem tail_antitone (nonneg : 0 ≤ rate) (atMostOne : rate ≤ 1) (most : Nat)
    {fewer more : Nat} (ordered : fewer ≤ more) :
    tail rate more most ≤ tail rate fewer most := by
  induction ordered with
  | refl => exact le_rfl
  | step _ ih => exact (tail_succ_le nonneg atMostOne _ most).trans ih

/-- A function of the hits below an indicator bounds the tail. -/
theorem mean_le_mul_tail (nonneg : 0 ≤ rate) (atMostOne : rate ≤ 1) (trials most : Nat)
    {value : Nat → K} {bound : K} (below : ∀ hits, hits ≤ most → value hits ≤ bound)
    (negative : ∀ hits, most < hits → value hits ≤ 0) :
    mean rate trials value ≤ bound * tail rate trials most := by
  rw [tail_eq_mean, ← mean_mul]
  refine mean_mono nonneg atMostOne trials fun hits => ?_
  split
  · rename_i few
    simpa using below hits few
  · rename_i many
    simpa using negative hits (Nat.lt_of_not_le many)

/-- The second and the fourth moment bound the probability of at most the expected number
of hits from below; `scale` can be chosen. -/
theorem moments_le_tail (nonneg : 0 ≤ rate) (atMostOne : rate ≤ 1) {trials most : Nat}
    (above : trials * rate ≤ most) {scale : K} (positive : 0 < scale) :
    3 * scale ^ 2 * moment rate trials 2 - moment rate trials 4 ≤
      5 * scale ^ 4 * tail rate trials most := by
  have bound : mean rate trials (fun hits => -2 * scale ^ 3 * (hits - trials * rate) ^ 1 +
      3 * scale ^ 2 * (hits - trials * rate) ^ 2 + -1 * (hits - trials * rate) ^ 4 + 0) ≤
        5 * scale ^ 4 * tail rate trials most := by
    apply mean_le_mul_tail nonneg atMostOne
    · intro hits _
      -- the difference is a sum of two squares
      have first := sq_nonneg ((hits - trials * rate) ^ 2 - 2 * scale ^ 2)
      have second := mul_nonneg (sq_nonneg scale) (sq_nonneg (hits - trials * rate + scale))
      linarith only [first, second, show 5 * scale ^ 4 -
        (-2 * scale ^ 3 * (hits - trials * rate) ^ 1 +
          3 * scale ^ 2 * (hits - trials * rate) ^ 2 + -1 * (hits - trials * rate) ^ 4 + 0) =
        ((hits - trials * rate) ^ 2 - 2 * scale ^ 2) ^ 2 +
          scale ^ 2 * (hits - trials * rate + scale) ^ 2 by ring]
    · intro hits many
      have distance : 0 ≤ hits - trials * rate := by
        have more : (most : K) ≤ hits := by exact_mod_cast many.le
        linarith
      have product : 0 ≤ (hits - trials * rate) * ((hits - trials * rate - scale) ^ 2 *
          (hits - trials * rate + 2 * scale)) := by positivity
      linarith only [product, show -2 * scale ^ 3 * (hits - trials * rate) ^ 1 +
          3 * scale ^ 2 * (hits - trials * rate) ^ 2 + -1 * (hits - trials * rate) ^ 4 + 0 =
        -((hits - trials * rate) * ((hits - trials * rate - scale) ^ 2 *
          (hits - trials * rate + 2 * scale))) by ring]
  rw [mean_polynomial, moment_one] at bound
  linarith

/-- Few trials are expected to hit: the first moment is enough. -/
theorem third_le_tail (nonneg : 0 ≤ rate) (atMostOne : rate ≤ 1) {trials most : Nat}
    (above : trials * rate ≤ most) (few : trials * rate ≤ 2) :
    1 / 3 ≤ tail rate trials most := by
  have bound : mean rate trials (fun hits => -1 * (hits - trials * rate) ^ 1 +
      0 * (hits - trials * rate) ^ 2 + 0 * (hits - trials * rate) ^ 4 +
        (most + 1 - trials * rate)) ≤ (most + 1) * tail rate trials most := by
    apply mean_le_mul_tail nonneg atMostOne
    · intro hits _
      have nonnegative : (0 : K) ≤ hits := Nat.cast_nonneg hits
      linarith
    · intro hits many
      have more : (most : K) + 1 ≤ hits := by exact_mod_cast many
      linarith
  rw [mean_polynomial, moment_one] at bound
  have size : (0 : K) < most + 1 := by positivity
  rw [div_le_iff₀ (by norm_num : (0 : K) < 3)]
  have enough : (most : K) + 1 ≤ tail rate trials most * 3 * (most + 1) := by linarith
  exact le_of_mul_le_mul_right (by linarith only [enough]) size

/-- The probability of few hits is at most the variance over the squared distance. -/
theorem tail_le_variance (nonneg : 0 ≤ rate) (atMostOne : rate ≤ 1) {trials most : Nat}
    (below : (most : K) ≤ trials * rate) :
    (trials * rate - most) ^ 2 * tail rate trials most ≤ trials * (rate * (1 - rate)) := by
  rw [← moment_two, tail_eq_mean, ← mean_mul]
  refine mean_mono nonneg atMostOne trials fun hits => ?_
  split
  · rename_i few
    have fewer : (hits : K) ≤ most := by exact_mod_cast few
    have squares := pow_le_pow_left₀ (sub_nonneg.mpr below)
      (sub_le_sub_left fewer (trials * rate)) 2
    rw [mul_one, sub_sq_comm (hits : K)]
    exact squares
  · rw [mul_zero]
    exact sq_nonneg _

end Bounds

section Archimedean

variable {K : Type*} [Field K] [LinearOrder K] [IsStrictOrderedRing K] [Archimedean K]
  {rate : K}

/-- Up to a number above the mean there is a tenth of the hits at least. -/
theorem tenth_le_tail (nonneg : 0 ≤ rate) (half : rate ≤ 1 / 2) {trials most : Nat}
    (above : trials * rate ≤ most) : 1 / 10 ≤ tail rate trials most := by
  have atMostOne : rate ≤ 1 := half.trans (by norm_num)
  by_cases few : trials * rate ≤ 2
  · exact le_trans (by norm_num) (third_le_tail nonneg atMostOne above few)
  · have many : 2 < trials * rate := lt_of_not_ge few
    have variance : 1 ≤ trials * (rate * (1 - rate)) := by
      have misses : 1 / 2 ≤ 1 - rate := by linarith only [half]
      have product := mul_le_mul many.le misses (by norm_num) (zero_le_two.trans many.le)
      linarith only [product]
    obtain ⟨scale, positive, low, high⟩ := exists_rat_pow_btwn two_ne_zero
      (show 2 * (trials * (rate * (1 - rate))) < 4 * (trials * (rate * (1 - rate))) by linarith)
      (by linarith)
    have positive : (0 : K) < scale := by exact_mod_cast positive
    have moments := moments_le_tail nonneg atMostOne above positive
    have product : 0 ≤ rate * (1 - rate) := mul_nonneg nonneg (sub_nonneg.mpr atMostOne)
    have fourth : moment rate trials 4 ≤ 4 * (trials * (rate * (1 - rate))) ^ 2 := by
      rw [moment_four]
      have square := mul_nonneg (zero_le_one.trans variance) (sub_nonneg.mpr variance)
      have rest : 0 ≤ trials * (rate * (1 - rate)) * (rate * (1 - rate)) :=
        mul_nonneg (zero_le_one.trans variance) product
      linarith only [square, rest]
    rw [moment_two] at moments
    -- the scale lies between the roots of a quadratic expression
    have between := mul_nonneg (sub_nonneg.mpr low.le) (sub_nonneg.mpr high.le)
    have squares : 0 < (scale : K) ^ 4 := by positivity
    have tenth : (scale : K) ^ 4 * (1 / 10) ≤ (scale : K) ^ 4 * tail rate trials most := by
      linarith only [moments, fourth, between, show
        ((scale : K) ^ 2 - 2 * (trials * (rate * (1 - rate)))) *
          (4 * (trials * (rate * (1 - rate))) - (scale : K) ^ 2) =
        6 * ((scale : K) ^ 2 * (trials * (rate * (1 - rate)))) -
          8 * (trials * (rate * (1 - rate))) ^ 2 - (scale : K) ^ 4 by ring]
    exact le_of_mul_le_mul_left tenth squares

/-- The probability of at most a fixed number of hits gets as small as one likes. -/
theorem exists_tail_lt (positive : 0 < rate) (atMostOne : rate ≤ 1) {bound : K}
    (boundPos : 0 < bound) (most : Nat) :
    ∃ least, ∀ trials, least ≤ trials → tail rate trials most < bound := by
  obtain ⟨least, large⟩ := exists_nat_gt ((2 * most + 4 / bound + 1) / rate)
  refine ⟨least, fun trials more => ?_⟩
  have expected : 2 * (most : K) + 4 / bound + 1 < trials * rate := by
    have grows : (least : K) * rate ≤ trials * rate :=
      mul_le_mul_of_nonneg_right (by exact_mod_cast more) positive.le
    rw [div_lt_iff₀ positive] at large
    exact large.trans_le grows
  have share : 0 < 4 / bound := by positivity
  have nonnegative : (0 : K) ≤ most := Nat.cast_nonneg most
  have variance := tail_le_variance positive.le atMostOne
    (show (most : K) ≤ trials * rate by linarith)
  have distance : 2 / bound < trials * rate - most := by
    have twice : 4 / bound = 2 * (2 / bound) := by ring
    linarith
  have spread : trials * (rate * (1 - rate)) ≤ 2 * (trials * rate - most) := by
    have part : 0 ≤ trials * rate * rate := by positivity
    linarith
  have positiveDistance : 0 < trials * rate - most := lt_trans (by positivity) distance
  have scaled : (trials * rate - most) * tail rate trials most ≤ 2 := by
    refine le_of_mul_le_mul_left ?_ positiveDistance
    linarith only [variance, spread, show (trials * rate - most) *
      ((trials * rate - most) * tail rate trials most) =
        (trials * rate - most) ^ 2 * tail rate trials most by ring]
  rw [div_lt_iff₀ boundPos] at distance
  exact lt_of_mul_lt_mul_left (scaled.trans_lt distance) positiveDistance.le

end Archimedean

end BernoulliTrials
