import InferenceEndpoint.Metrics.SteadyStateDiagnostics

/-!
# Level shifts

`detect_level_shift` compares later plateaus with the reported one, but takes the change point
from a rank test over the whole series.  The first split at which the two parts of the series
differ most is the change point; it may lie before the reported plateau, and a super-pass
without samples takes part with the level zero.
-/

namespace InferenceEndpoint

namespace SteadyStateDiagnostics

open AverageRanks (averageRanks signStatistic)

structure PettittResult where
  changePoint : Nat
  kStat : ℚ
  pvalue : ℚ
  significant : Bool
  deriving DecidableEq

/-- The loop of `pettitt` from the size `t` of the first segment on. -/
def pettittLoop (n : Nat) : Nat → ℚ → ℚ × Nat → List ℚ → ℚ × Nat
  | _, _, best, [] => best
  | t, cum, best, rank :: ranks =>
      let next := cum + rank
      let u := 2 * next - t * (n + 1)
      pettittLoop n (t + 1) next (if best.1 < |u| then (|u|, t) else best) ranks

def pettitt (lib : FloatLibrary) (values : List ℚ) (alpha : ℚ := 5 / 100) : PettittResult :=
  let n := values.length
  if n < minTrendN then
    { changePoint := 0, kStat := 0, pvalue := 1, significant := false }
  else
    let (kStat, changePoint) :=
      pettittLoop n 1 0 (0, 0) ((averageRanks values).take (n - 1))
    let pvalue := min 1 (2 * lib.exp (-6 * kStat * kStat / (n ^ 3 + n ^ 2)))
    { changePoint := changePoint, kStat := kStat, pvalue := pvalue,
      significant := pvalue < alpha }

structure Anomaly where
  detected : Bool
  changePointSp : Option Nat := none
  deltaPct : ℚ := 0
  pettitt : Option PettittResult := none
  plateaus : List (Nat × Nat)
  deriving DecidableEq

/-- `_tpot_mean`. -/
def tpotMean (series : List SuperPassRollup) (plateau : Nat × Nat) : ℚ :=
  let values := pooled series plateau.1 plateau.2 .tpotNs
  if values.isEmpty then 0 else mean values

/-- `sp_means`. -/
def spMeans (series : List SuperPassRollup) : List ℚ :=
  series.map fun sp => if sp.tpotNs.isEmpty then 0 else mean sp.tpotNs

def detectLevelShift (lib : FloatLibrary) (series : List SuperPassRollup)
    (plateaus : List (Nat × Nat)) (covBand : ℚ := 5 / 100) (baselineIdx : Nat := 0) : Anomaly :=
  match plateaus.drop baselineIdx with
  | baseline :: later =>
      if later.isEmpty then { detected := false, plateaus := plateaus }
      else
        let firstMean := tpotMean series baseline
        if firstMean ≤ 0 then { detected := false, plateaus := plateaus }
        else
          let pet := pettitt lib (spMeans series)
          let rel := fun plateau => (tpotMean series plateau - firstMean) / firstMean
          match later.find? fun plateau => covBand < |rel plateau| ∧ pet.significant with
          | some plateau =>
              { detected := true, changePointSp := some pet.changePoint,
                deltaPct := rel plateau * 100, pettitt := some pet, plateaus := plateaus }
          | none => { detected := false, pettitt := some pet, plateaus := plateaus }
  | [] => { detected := false, plateaus := plateaus }

/-! ## The change point -/

/-- How much the two parts of the values differ when the first one has a given size. -/
def splitStatistic (values : List ℚ) (size : Nat) : ℚ :=
  |((signStatistic (values.take size) (values.drop size) : ℤ) : ℚ)|

theorem splitStatistic_nonneg (values : List ℚ) (size : Nat) : 0 ≤ splitStatistic values size :=
  abs_nonneg _

theorem pettittLoop_eq (ranks : List ℚ) (n count start : Nat) (best : ℚ × Nat)
    (bound : start + count ≤ ranks.length) :
    pettittLoop n (start + 1) (ranks.take start).sum best ((ranks.drop start).take count) =
      (List.range' (start + 1) count).foldl
        (FirstMaximum.keep fun size => |2 * (ranks.take size).sum - size * (n + 1)|) best := by
  induction count generalizing start best with
  | zero => rfl
  | succ count ih =>
      have inside : start < ranks.length := by omega
      have sum : (ranks.take (start + 1)).sum = (ranks.take start).sum + ranks[start] := by
        rw [← List.take_append_getElem inside, List.sum_append, List.sum_singleton]
      rw [List.drop_eq_getElem_cons inside, List.take_succ_cons, pettittLoop,
        List.range'_succ, List.foldl_cons]
      rw [← sum, ih (start + 1) _ (by omega)]
      congr 1

/-- The change point of at least four values is the first split that separates them most. -/
theorem pettitt_eq (lib : FloatLibrary) {values : List ℚ} (enough : minTrendN ≤ values.length)
    (alpha : ℚ) :
    let best := FirstMaximum.best (splitStatistic values) 0 (values.length - 1)
    let n : ℚ := values.length
    let pvalue := min 1 (2 * lib.exp (-6 * best.1 * best.1 / (n ^ 3 + n ^ 2)))
    pettitt lib values alpha =
      { changePoint := best.2, kStat := best.1, pvalue := pvalue,
        significant := pvalue < alpha } := by
  have length : (averageRanks values).length = values.length := by
    rw [AverageRanks.averageRanks_eq, List.length_map]
  have loop : pettittLoop values.length 1 0 (0, 0)
      ((averageRanks values).take (values.length - 1)) =
        FirstMaximum.best (splitStatistic values) 0 (values.length - 1) := by
    have unrolled := pettittLoop_eq (averageRanks values) values.length (values.length - 1) 0
      (0, 0) (by omega)
    simp only [List.take_zero, List.sum_nil, List.drop_zero, Nat.zero_add] at unrolled
    rw [unrolled, FirstMaximum.best]
    refine FirstMaximum.foldl_congr fun size low high => ?_
    rw [AverageRanks.two_mul_sum_averageRanks values (by omega)]
    rfl
  rw [pettitt, if_neg (by omega), loop]

/-- Some split of largest statistic is significant. -/
def SignificantSplit (lib : FloatLibrary) (values : List ℚ) (alpha : ℚ) : Prop :=
  ∃ size, 1 ≤ size ∧ size < values.length ∧
    (∀ other, 1 ≤ other → other < values.length →
      splitStatistic values other ≤ splitStatistic values size) ∧
    min 1 (2 * lib.exp (-6 * splitStatistic values size * splitStatistic values size /
      ((values.length : ℚ) ^ 3 + (values.length : ℚ) ^ 2))) < alpha

/-- Some split after the start separates the values more than all splits up to there. -/
def SplitsAfter (values : List ℚ) (start : Nat) : Prop :=
  ∃ size, start < size ∧ size < values.length ∧ 0 < splitStatistic values size ∧
    ∀ earlier, 1 ≤ earlier → earlier ≤ start →
      splitStatistic values earlier < splitStatistic values size

theorem pettitt_significant_iff (lib : FloatLibrary) {values : List ℚ}
    (enough : minTrendN ≤ values.length) (alpha : ℚ) :
    (pettitt lib values alpha).significant = true ↔ SignificantSplit lib values alpha := by
  have four : 4 ≤ values.length := enough
  have spec := FirstMaximum.best_spec (splitStatistic values) 0 (values.length - 1)
  have result := pettitt_eq lib enough alpha
  dsimp only at result
  rw [result]
  generalize FirstMaximum.best (splitStatistic values) 0 (values.length - 1) = best at spec
  have attained : ∃ size, 1 ≤ size ∧ size < values.length ∧ splitStatistic values size = best.1 := by
    rcases spec.first with rfl | ⟨low, high, -, same, -⟩
    · have least := spec.largest 1 le_rfl (by omega)
      exact ⟨1, le_rfl, by omega, le_antisymm least (splitStatistic_nonneg values 1)⟩
    · exact ⟨best.2, low, by omega, same⟩
  rw [decide_eq_true_iff]
  constructor
  · intro less
    obtain ⟨size, low, high, same⟩ := attained
    refine ⟨size, low, high, fun other lowOther highOther => ?_, ?_⟩
    · rw [same]
      exact spec.largest other lowOther (by omega)
    · rw [same]
      exact less
  · rintro ⟨size, low, high, largest, less⟩
    obtain ⟨other, lowOther, highOther, same⟩ := attained
    have equal : splitStatistic values size = best.1 := by
      apply le_antisymm (spec.largest size low (by omega))
      rw [← same]
      exact largest other lowOther highOther
    rw [equal] at less
    exact less

theorem lt_changePoint_iff (lib : FloatLibrary) {values : List ℚ}
    (enough : minTrendN ≤ values.length) (alpha : ℚ) (start : Nat) :
    start < (pettitt lib values alpha).changePoint ↔ SplitsAfter values start := by
  have four : 4 ≤ values.length := enough
  have result := pettitt_eq lib enough alpha
  dsimp only at result
  rw [result, FirstMaximum.lt_best_iff]
  constructor
  · rintro ⟨size, late, high, above, beats⟩
    exact ⟨size, late, by omega, above, beats⟩
  · rintro ⟨size, late, high, above, beats⟩
    exact ⟨size, late, by omega, above, beats⟩

theorem pettitt_short (lib : FloatLibrary) {values : List ℚ}
    (short : values.length < minTrendN) (alpha : ℚ) :
    (pettitt lib values alpha).significant = false := by
  rw [pettitt, if_pos short]

/-! ## The reported shift -/

/-- A later plateau is compared with the level of the baseline. -/
structure Compared (series : List SuperPassRollup) (plateaus : List (Nat × Nat))
    (baselineIdx : Nat) (baseline : Nat × Nat) (later : List (Nat × Nat)) : Prop where
  listed : plateaus.drop baselineIdx = baseline :: later
  follows : later ≠ []
  level : 0 < tpotMean series baseline

/-- The level of some later plateau is off that of the baseline. -/
def Shifted (series : List SuperPassRollup) (baseline : Nat × Nat) (later : List (Nat × Nat))
    (covBand : ℚ) : Prop :=
  ∃ plateau ∈ later, covBand <
    |(tpotMean series plateau - tpotMean series baseline) / tpotMean series baseline|

section

variable (lib : FloatLibrary) {series : List SuperPassRollup} {plateaus : List (Nat × Nat)}
  {baselineIdx : Nat} {baseline : Nat × Nat} {later : List (Nat × Nat)}

/-- Without a comparison nothing is detected and no test is made. -/
theorem detectLevelShift_idle (covBand : ℚ)
    (idle : ∀ baseline later, ¬ Compared series plateaus baselineIdx baseline later) :
    detectLevelShift lib series plateaus covBand baselineIdx =
      { detected := false, plateaus := plateaus } := by
  rw [detectLevelShift]
  split
  · rename_i baseline later listed
    by_cases last : later = []
    · rw [if_pos (List.isEmpty_iff.mpr last)]
    · rw [if_neg (by simpa using last)]
      have level : tpotMean series baseline ≤ 0 := by
        by_contra positive
        exact idle baseline later ⟨listed, last, not_le.mp positive⟩
      exact if_pos level
  · rfl

theorem Compared.pettitt_eq (compared : Compared series plateaus baselineIdx baseline later)
    (covBand : ℚ) :
    (detectLevelShift lib series plateaus covBand baselineIdx).pettitt =
      some (pettitt lib (spMeans series)) := by
  have more : ¬ later.isEmpty = true := by simpa using compared.follows
  simp only [detectLevelShift, compared.listed, if_neg more, if_neg (not_le.mpr compared.level)]
  split <;> rfl

/-- A shift is detected exactly if a level is off and the test is significant. -/
theorem Compared.detected_iff (compared : Compared series plateaus baselineIdx baseline later)
    (covBand : ℚ) :
    (detectLevelShift lib series plateaus covBand baselineIdx).detected = true ↔
      Shifted series baseline later covBand ∧
        (pettitt lib (spMeans series)).significant = true := by
  have more : ¬ later.isEmpty = true := by simpa using compared.follows
  simp only [detectLevelShift, compared.listed, if_neg more, if_neg (not_le.mpr compared.level)]
  split
  · rename_i plateau found
    have member := List.mem_of_find?_eq_some found
    have holds := List.find?_some found
    simp only [Bool.decide_and, Bool.and_eq_true, decide_eq_true_eq] at holds
    exact iff_of_true rfl ⟨⟨plateau, member, holds.1⟩, holds.2⟩
  · rename_i missing
    apply iff_of_false Bool.false_ne_true
    rintro ⟨⟨plateau, member, off⟩, significant⟩
    refine List.find?_eq_none.mp missing plateau member ?_
    simp only [Bool.decide_and, Bool.and_eq_true, decide_eq_true_eq]
    exact ⟨off, significant⟩

theorem Compared.changePointSp_eq
    (compared : Compared series plateaus baselineIdx baseline later) {covBand : ℚ}
    (detected : (detectLevelShift lib series plateaus covBand baselineIdx).detected = true) :
    (detectLevelShift lib series plateaus covBand baselineIdx).changePointSp =
      some (pettitt lib (spMeans series)).changePoint := by
  have more : ¬ later.isEmpty = true := by simpa using compared.follows
  revert detected
  simp only [detectLevelShift, compared.listed, if_neg more, if_neg (not_le.mpr compared.level)]
  split
  · intro
    rfl
  · nofun

/-- A detected shift lies after the start of the baseline plateau. -/
def LateShift (anomaly : Anomaly) (baseline : Nat × Nat) : Prop :=
  anomaly.detected = true →
    ∃ changePoint, anomaly.changePointSp = some changePoint ∧ baseline.1 < changePoint

/-- No super-pass without samples takes part in the statistic with the level zero. -/
def NoZeroLevels (anomaly : Anomaly) (series : List SuperPassRollup) : Prop :=
  anomaly.pettitt.isSome = true → minTrendN ≤ series.length →
    ∀ sp level, (sp, level) ∈ series.zip (spMeans series) → sp.tpotNs = [] → level ≠ 0

theorem noZeroLevels_iff {anomaly : Anomaly} (tested : anomaly.pettitt.isSome = true) :
    NoZeroLevels anomaly series ↔
      (minTrendN ≤ series.length → ∀ sp ∈ series, sp.tpotNs ≠ []) := by
  have levels : series.zip (spMeans series) =
      series.map fun sp => (sp, if sp.tpotNs.isEmpty then 0 else mean sp.tpotNs) := by
    rw [spMeans]
    induction series with
    | nil => rfl
    | cons sp rest ih => rw [List.map_cons, List.zip_cons_cons, List.map_cons, ih]
  constructor
  · intro noZero enough sp member silent
    refine noZero tested enough sp 0 ?_ silent rfl
    rw [levels]
    exact List.mem_map.mpr ⟨sp, member, by simp [silent]⟩
  · intro sampled _ enough sp level member silent
    rw [levels] at member
    obtain ⟨sp', member', same⟩ := List.mem_map.mp member
    cases same
    exact absurd silent (sampled enough sp member')

end

/-- Shifts are reported late and on sampled super-passes exactly if, whenever a later level is
off and some split significant, a split after the start of the baseline separates the series
more than all before, and no super-pass lacks samples. -/
theorem late_shift_iff (lib : FloatLibrary) (series : List SuperPassRollup)
    (plateaus : List (Nat × Nat)) (covBand : ℚ) (baselineIdx : Nat) :
    ((∀ baseline, plateaus[baselineIdx]? = some baseline →
        LateShift (detectLevelShift lib series plateaus covBand baselineIdx) baseline) ∧
      NoZeroLevels (detectLevelShift lib series plateaus covBand baselineIdx) series) ↔
    ∀ baseline later, Compared series plateaus baselineIdx baseline later →
      minTrendN ≤ series.length →
      (Shifted series baseline later covBand →
        SignificantSplit lib (spMeans series) (5 / 100) →
        SplitsAfter (spMeans series) baseline.1) ∧
      ∀ sp ∈ series, sp.tpotNs ≠ [] := by
  have length : (spMeans series).length = series.length := List.length_map ..
  constructor
  · rintro ⟨late, noZero⟩ baseline later compared enough
    have values : minTrendN ≤ (spMeans series).length := by rw [length]; exact enough
    have tested := compared.pettitt_eq lib covBand
    refine ⟨fun shifted significant => ?_, ?_⟩
    · have detected := (compared.detected_iff lib covBand).mpr
        ⟨shifted, (pettitt_significant_iff lib values _).mpr significant⟩
      have listed : plateaus[baselineIdx]? = some baseline := by
        rw [← List.head?_drop, compared.listed, List.head?_cons]
      obtain ⟨changePoint, reported, after⟩ := late baseline listed detected
      rw [compared.changePointSp_eq lib detected] at reported
      cases reported
      exact (lt_changePoint_iff lib values _ _).mp after
    · exact (noZeroLevels_iff (by rw [tested]; rfl)).mp noZero enough
  · intro condition
    by_cases comparison : ∃ baseline later, Compared series plateaus baselineIdx baseline later
    · obtain ⟨baseline, later, compared⟩ := comparison
      have tested := compared.pettitt_eq lib covBand
      refine ⟨fun listed' listed detected => ?_, ?_⟩
      · rw [← List.head?_drop, compared.listed, List.head?_cons] at listed
        cases listed
        obtain ⟨shifted, significant⟩ := (compared.detected_iff lib covBand).mp detected
        have enough : minTrendN ≤ series.length := by
          by_contra short
          rw [pettitt_short lib (by omega)] at significant
          cases significant
        have values : minTrendN ≤ (spMeans series).length := by rw [length]; exact enough
        refine ⟨_, compared.changePointSp_eq lib detected, (lt_changePoint_iff lib values _ _).mpr ?_⟩
        exact (condition baseline later compared enough).1 shifted
          ((pettitt_significant_iff lib values _).mp significant)
      · refine (noZeroLevels_iff (by rw [tested]; rfl)).mpr fun enough => ?_
        exact (condition baseline later compared enough).2
    · have idle := detectLevelShift_idle lib covBand fun baseline later compared =>
        comparison ⟨baseline, later, compared⟩
      rw [idle]
      exact ⟨nofun, nofun⟩

/-- The steps of a staircase whose first plateau is skipped. -/
def staircase : List SuperPassRollup :=
  (List.replicate 5 10 ++ List.replicate 5 20 ++ List.replicate 5 22).map fun level =>
    { tpotNs := [level] }

/-- The change point of the staircase is the shift to the reported plateau. -/
theorem shift_before_baseline :
    ¬ ∀ (lib : FloatLibrary) (series : List SuperPassRollup) (plateaus : List (Nat × Nat))
        (covBand : ℚ) (baselineIdx : Nat),
      (∀ baseline, plateaus[baselineIdx]? = some baseline →
        LateShift (detectLevelShift lib series plateaus covBand baselineIdx) baseline) ∧
      NoZeroLevels (detectLevelShift lib series plateaus covBand baselineIdx) series := by
  intro late
  have anomaly : (detectLevelShift .approximate staircase [(0, 5), (5, 10), (10, 15)]
      (5 / 100) 1).detected = true ∧
      (detectLevelShift .approximate staircase [(0, 5), (5, 10), (10, 15)]
        (5 / 100) 1).changePointSp = some 5 := by
    decide +kernel
  obtain ⟨changePoint, reported, after⟩ :=
    (late .approximate staircase [(0, 5), (5, 10), (10, 15)] (5 / 100) 1).1 (5, 10) rfl anomaly.1
  rw [anomaly.2] at reported
  cases reported
  exact absurd after (Nat.lt_irrefl 5)

end SteadyStateDiagnostics

end InferenceEndpoint
