import InferenceEndpoint.Metrics.EarlyStopping
import Mathlib.Order.Bounds.Basic

/-!
# Acceptance threshold

The searches of `early_stopping` in exact arithmetic, for any percentile, tolerance and
confidence.  The odds fall with every query under the latency bound and rise with the budget
of those above it, so both searches end at the threshold of the acceptance test.
-/

namespace InferenceEndpoint

namespace EarlyStopping

namespace ExactArithmetic

open BernoulliTrials BracketedSearch

/-- What `_validate_domain` accepts. -/
structure Domain (K : Type*) [Field K] [LinearOrder K] where
  p : K
  d : K
  c : K
  percentile : 0 < p ∧ p < 1
  confidence : 0 < c ∧ c < 1
  tolerance : 0 ≤ d ∧ d < p

/-- The incomplete beta function where it is the binomial tail. -/
structure IncompleteBeta (K : Type*) [Field K] [LinearOrder K] where
  betai : Nat → Nat → K → K
  betai_eq_tail : ∀ h t x, 1 ≤ h → 0 < x → x < 1 → betai h (1 + t) x = tail (1 - x) (h + t) t

/-- The tail itself. -/
def IncompleteBeta.tail (K : Type*) [Field K] [LinearOrder K] : IncompleteBeta K where
  betai a b x := BernoulliTrials.tail (1 - x) (a + (b - 1)) (b - 1)
  betai_eq_tail h t x _ _ _ := by rw [Nat.add_sub_cancel_left]

section

variable {K : Type*} [Field K] [LinearOrder K]

/-- `_validate_domain`; `none` stands for the `ValueError`. -/
def validateDomain (p d c : K) : Option (Domain K) :=
  if percentile : 0 < p ∧ p < 1 then
    if confidence : 0 < c ∧ c < 1 then
      if tolerance : 0 ≤ d ∧ d < p then some ⟨p, d, c, percentile, confidence, tolerance⟩
      else none
    else none
  else none

variable (beta : IncompleteBeta K) (domain : Domain K)

/-- `_odds`. -/
def odds (h t : Nat) : K :=
  beta.betai h (1 + t) (domain.p - domain.d)

/-- The acceptance test. -/
def accepts (h t : Nat) : Bool :=
  odds beta domain h t < 1 - domain.c

end

section

variable {K : Type*} [Field K] [LinearOrder K] [IsStrictOrderedRing K]
  (beta : IncompleteBeta K) (domain : Domain K)

/-- The rate of over-latency queries is a probability. -/
theorem Domain.rate : 0 < 1 - (domain.p - domain.d) ∧ 1 - (domain.p - domain.d) ≤ 1 := by
  obtain ⟨positive, below⟩ := domain.percentile
  obtain ⟨nonneg, less⟩ := domain.tolerance
  constructor <;> linarith

theorem odds_eq_tail {h : Nat} (positive : 1 ≤ h) (t : Nat) :
    odds beta domain h t = tail (1 - (domain.p - domain.d)) (h + t) t := by
  obtain ⟨_, below⟩ := domain.percentile
  obtain ⟨nonneg, less⟩ := domain.tolerance
  exact beta.betai_eq_tail h t _ positive (by linarith) (by linarith)

/-- A query under the latency bound more is accepted too. -/
theorem accepts_more {h more t : Nat} (positive : 1 ≤ h) (ordered : h ≤ more)
    (accepted : accepts beta domain h t = true) : accepts beta domain more t = true := by
  obtain ⟨rate, atMostOne⟩ := domain.rate
  have less : tail (1 - (domain.p - domain.d)) (h + t) t < 1 - domain.c := by
    rw [← odds_eq_tail beta domain positive t]
    exact of_decide_eq_true accepted
  refine decide_eq_true ?_
  rw [odds_eq_tail beta domain (positive.trans ordered) t]
  exact (tail_antitone rate.le atMostOne t (by omega)).trans_lt less

/-- Of the same run fewer over-latency queries are accepted too. -/
theorem accepts_fewer {h h' t t' : Nat} (positive : 1 ≤ h) (same : h + t = h' + t')
    (ordered : t' ≤ t) (accepted : accepts beta domain h t = true) :
    accepts beta domain h' t' = true := by
  obtain ⟨rate, atMostOne⟩ := domain.rate
  have less : tail (1 - (domain.p - domain.d)) (h + t) t < 1 - domain.c := by
    rw [← odds_eq_tail beta domain positive t]
    exact of_decide_eq_true accepted
  refine decide_eq_true ?_
  rw [odds_eq_tail beta domain (by omega) t', ← same]
  exact (tail_mono rate.le atMostOne _ ordered).trans_lt less

/-- A run of so many samples with so many over-latency ones is accepted. -/
def RunAccepted (n t : Nat) : Prop :=
  ∃ h, 1 ≤ h ∧ h + t = n ∧ accepts beta domain h t = true

/-- With fewer over-latency samples a run stays accepted. -/
theorem RunAccepted.fewer {n t t' : Nat} (accepted : RunAccepted beta domain n t)
    (ordered : t' ≤ t) : RunAccepted beta domain n t' := by
  obtain ⟨h, low, rfl, passes⟩ := accepted
  refine ⟨h + (t - t'), by omega, by omega, ?_⟩
  exact accepts_fewer beta domain low (by omega) ordered passes

end

section

variable {K : Type*} [Field K] [LinearOrder K] [IsStrictOrderedRing K] [Archimedean K]
  (beta : IncompleteBeta K) (domain : Domain K)

/-- With enough queries under the latency bound the test accepts. -/
theorem accepts_eventually (t : Nat) :
    ∃ least, ∀ h, least ≤ h → accepts beta domain h t = true := by
  obtain ⟨rate, atMostOne⟩ := domain.rate
  obtain ⟨least, small⟩ := exists_tail_lt rate atMostOne
    (sub_pos.mpr domain.confidence.2) t
  refine ⟨least + 1, fun h enough => decide_eq_true ?_⟩
  rw [odds_eq_tail beta domain (by omega) t]
  exact small (h + t) (by omega)

def findMinPassing (t : Nat) : Nat :=
  bisectFirst (fun h => accepts beta domain h t) 1
    (doubleUntil (fun h => accepts beta domain h t) (accepts_eventually beta domain t) 2
      Nat.two_pos)

/-- The queries under and over the latency bound exceed the number of samples. -/
theorem exceeds_eventually (n : Nat) :
    ∃ least, ∀ t, least ≤ t → decide (n < findMinPassing beta domain t + t) = true :=
  ⟨n + 1, fun t enough => decide_eq_true (by omega)⟩

def discardCount (n : Nat) : Nat :=
  if n < findMinPassing beta domain 1 + 1 then 0
  else
    bisectLast (fun t => decide (findMinPassing beta domain t + t ≤ n)) 1
      (doubleUntil (fun t => decide (n < findMinPassing beta domain t + t))
        (exceeds_eventually beta domain n) 2 Nat.two_pos)

/-! ## The thresholds -/

/-- The search for the least number of queries under the latency bound ends at it. -/
theorem findMinPassing_isLeast (t : Nat) :
    IsLeast {h | 1 ≤ h ∧ accepts beta domain h t = true} (findMinPassing beta domain t) := by
  obtain ⟨stopped, large⟩ := doubleUntil_stops (fun h => accepts beta domain h t)
    (accepts_eventually beta domain t) 2 (by decide)
  obtain ⟨passes, positive⟩ := bisectFirst_passes (fun h => accepts beta domain h t) 1 _
    (le_trans (by decide) large) stopped
  refine ⟨⟨positive, passes⟩, ?_⟩
  rintro h ⟨low, accepted⟩
  exact bisectFirst_least (fun small more bound ordered => accepts_more beta domain bound ordered)
    1 _ le_rfl low accepted

/-- A run is accepted exactly if it has the queries that the search asks for. -/
theorem runAccepted_iff (n t : Nat) :
    RunAccepted beta domain n t ↔ findMinPassing beta domain t + t ≤ n := by
  obtain ⟨⟨positive, passes⟩, least⟩ := findMinPassing_isLeast beta domain t
  constructor
  · rintro ⟨h, low, rfl, accepted⟩
    have fewest := least ⟨low, accepted⟩
    omega
  · intro fits
    refine ⟨n - t, by omega, by omega, ?_⟩
    exact accepts_more beta domain positive (by omega) passes

theorem discardCount_isGreatest {n : Nat} (some_ : ∃ t, 1 ≤ t ∧ RunAccepted beta domain n t) :
    IsGreatest {t | 1 ≤ t ∧ RunAccepted beta domain n t} (discardCount beta domain n) := by
  obtain ⟨t, positive, accepted⟩ := some_
  have floor : findMinPassing beta domain 1 + 1 ≤ n :=
    (runAccepted_iff beta domain n 1).mp (accepted.fewer beta domain positive)
  have stopped := (doubleUntil_stops (fun t => decide (n < findMinPassing beta domain t + t))
    (exceeds_eventually beta domain n) 2 (by decide)).1
  rw [discardCount, if_neg (Nat.not_lt.mpr floor)]
  constructor
  · obtain ⟨fits, low⟩ := bisectLast_fits
      (fun t => decide (findMinPassing beta domain t + t ≤ n)) 1 _ (decide_eq_true floor)
    exact ⟨low, (runAccepted_iff beta domain n _).mpr (of_decide_eq_true fits)⟩
  · rintro other ⟨-, run⟩
    refine bisectLast_greatest (fun small large ordered fits => ?_) 1 _ ?_
      (decide_eq_true ((runAccepted_iff beta domain n other).mp run))
    · have larger := (runAccepted_iff beta domain n large).mpr (of_decide_eq_true fits)
      exact decide_eq_true
        ((runAccepted_iff beta domain n small).mp (larger.fewer beta domain ordered))
    · have exceeds := of_decide_eq_true stopped
      exact decide_eq_false (by omega)

theorem discardCount_eq_zero {n : Nat}
    (none_ : ¬ ∃ t, 1 ≤ t ∧ RunAccepted beta domain n t) : discardCount beta domain n = 0 := by
  rw [discardCount, if_pos]
  by_contra floor
  exact none_ ⟨1, le_rfl, (runAccepted_iff beta domain n 1).mpr (Nat.not_lt.mp floor)⟩

/-- What the two searches find, and that their doubling ends. -/
structure ExactThresholds : Prop where
  least : ∀ t, IsLeast {h | 1 ≤ h ∧ accepts beta domain h t = true}
    (findMinPassing beta domain t)
  leastEnds : ∀ t, ∃ rounds, accepts beta domain (2 * 2 ^ rounds) t = true
  greatest : ∀ n, (∃ t, 1 ≤ t ∧ RunAccepted beta domain n t) →
    IsGreatest {t | 1 ≤ t ∧ RunAccepted beta domain n t} (discardCount beta domain n)
  zero : ∀ n, (¬ ∃ t, 1 ≤ t ∧ RunAccepted beta domain n t) → discardCount beta domain n = 0
  greatestEnds : ∀ n, ∃ rounds,
    n < findMinPassing beta domain (2 * 2 ^ rounds) + 2 * 2 ^ rounds

theorem exact_thresholds : ExactThresholds beta domain where
  least := findMinPassing_isLeast beta domain
  leastEnds t := exists_round (accepts_eventually beta domain t)
  greatest _ := discardCount_isGreatest beta domain
  zero _ := discardCount_eq_zero beta domain
  greatestEnds n := by
    obtain ⟨rounds, ends⟩ := exists_round (exceeds_eventually beta domain n)
    exact ⟨rounds, of_decide_eq_true ends⟩

end

/-! ## The searches at the configured confidence -/

/-- A percentile at the constants `TOLERANCE` and `CONFIDENCE`. -/
def domainOf (fraction : Fraction) : Domain ℚ where
  p := fraction.value
  d := 0
  c := confidence
  percentile := ⟨fraction.pos, fraction.lt_one⟩
  confidence := by norm_num [confidence]
  tolerance := ⟨le_rfl, fraction.pos⟩

theorem accepts_domainOf (fraction : Fraction) (h t : Nat) :
    accepts (.tail ℚ) (domainOf fraction) h t =
      decide (FloatArithmetic.exact.odds h t fraction < target) := by
  rw [accepts, decide_eq_decide]
  simp [odds, IncompleteBeta.tail, domainOf, FloatArithmetic.exact, target]

/-- Without rounding the estimates use the same search. -/
theorem findMinPassing_exact (t : Nat) (fraction : Fraction) :
    EarlyStopping.findMinPassing .exact t fraction =
      findMinPassing (.tail ℚ) (domainOf fraction) t := by
  have same : (fun h => decide (FloatArithmetic.exact.odds h t fraction < target)) =
      fun h => accepts (.tail ℚ) (domainOf fraction) h t := by
    funext h
    exact (accepts_domainOf fraction h t).symm
  have congruent : ∀ (first second : Nat → Bool) (stops stops'), first = second →
      bisectFirst first 1 (doubleUntil first stops 2 (by decide)) =
        bisectFirst second 1 (doubleUntil second stops' 2 (by decide)) := by
    rintro first second stops stops' rfl
    rfl
  exact congruent _ _ _ _ same

/-- Ten queries under the latency bound are the least for the median and one above it. -/
theorem exact_thresholds_median :
    IsLeast {h | 1 ≤ h ∧ accepts (.tail ℚ) (domainOf median) h 1 = true} 10 := by
  have least := (exact_thresholds (.tail ℚ) (domainOf median)).least 1
  rwa [← findMinPassing_exact, findMinPassing_median] at least

end ExactArithmetic

end EarlyStopping

end InferenceEndpoint
