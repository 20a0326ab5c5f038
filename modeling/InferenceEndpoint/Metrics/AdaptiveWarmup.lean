import InferenceEndpoint.Metrics.SteadyStateDiagnostics

/-!
# Adaptive warmup

`adaptive_warmup` counts the leading driver values outside the steady band.  The values leave
out the super-passes without samples, but the count is used as a position in the full series:
it then may stop before a super-pass outside the band.
-/

namespace InferenceEndpoint

namespace SteadyStateDiagnostics

/-- The loop of `adaptive_warmup`; an index past the values is an error. -/
def leadingOutside (outside : ℚ → Bool) : Nat → List ℚ → Option Nat
  | 0, _ => some 0
  | _ + 1, [] => none
  | cap + 1, value :: values =>
      if outside value then (leadingOutside outside cap values).map (· + 1) else some 0

/-- The median of the back half. -/
def steadyLevel (values : List ℚ) : ℚ :=
  medianOrFloor (values.drop (values.length / 2))

def outsideBand (steady band value : ℚ) : Bool :=
  band < |value - steady| / steady

def warmupCap (n minWarmup : Nat) (maxFrac : ℚ) : Nat :=
  max minWarmup ⌊n * maxFrac⌋.toNat

def adaptiveWarmup (series : List SuperPassRollup) (driver : TrackedMetric := tpotP50)
    (band : ℚ := 5 / 100) (minWarmup : Nat := 1) (maxFrac : ℚ := 1 / 2) : Option Nat :=
  let vals := superPassPercentileSeries series driver.sourceAttr driver.percentile
  if vals.length < minTrendN then some minWarmup
  else
    (leadingOutside (outsideBand (steadyLevel vals) band)
      (warmupCap vals.length minWarmup maxFrac) vals).map (max minWarmup)

/-! ## The loop -/

/-- The count of leading values: all of them lie outside, the next does not if the cap allows
one more. -/
structure Leading (outside : ℚ → Bool) (cap : Nat) (values : List ℚ) (count : Nat) : Prop where
  capped : count ≤ cap
  before : ∀ i < count, ∃ value, values[i]? = some value ∧ outside value = true
  after : count < cap → ∃ value, values[count]? = some value ∧ outside value = false

theorem leadingOutside_spec (outside : ℚ → Bool) {cap : Nat} {values : List ℚ}
    (enough : cap ≤ values.length) :
    ∃ count, leadingOutside outside cap values = some count ∧
      Leading outside cap values count := by
  induction cap generalizing values with
  | zero => exact ⟨0, rfl, le_rfl, nofun, nofun⟩
  | succ cap ih =>
      cases values with
      | nil => exact absurd enough (by simp)
      | cons value values =>
          by_cases off : outside value = true
          · obtain ⟨count, counted, leading⟩ := @ih values (by simpa using enough)
            refine ⟨count + 1, by simp [leadingOutside, off, counted], ?_, ?_, ?_⟩
            · have capped := leading.capped
              omega
            · intro i less
              cases i with
              | zero => exact ⟨value, rfl, off⟩
              | succ i => exact leading.before i (by omega)
            · intro less
              exact leading.after (by omega)
          · refine ⟨0, by simp [leadingOutside, off], Nat.zero_le _, nofun, fun _ => ?_⟩
            exact ⟨value, rfl, by simpa using off⟩

/-- The count is the only number with this description. -/
theorem Leading.unique {outside : ℚ → Bool} {cap : Nat} {values : List ℚ} {first second : Nat}
    (one : Leading outside cap values first) (other : Leading outside cap values second) :
    first = second := by
  have meet : ∀ {low high : Nat}, Leading outside cap values low →
      Leading outside cap values high → ¬ low < high := by
    intro low high lower higher less
    obtain ⟨value, here, off⟩ := higher.before low less
    obtain ⟨value', here', inside⟩ := lower.after (less.trans_le higher.capped)
    rw [here] at here'
    cases here'
    rw [off] at inside
    cases inside
  have notLess := meet one other
  have notMore := meet other one
  omega

/-! ## Positions of the values -/

section

variable (driver : TrackedMetric)

/-- The driver value of a super-pass with samples. -/
def driverValue (sp : SuperPassRollup) : Option ℚ :=
  let values := sp.samples driver.sourceAttr
  if values.isEmpty then none else some (percentileLower (sorted values) driver.percentile)

def driverValues (series : List SuperPassRollup) : List ℚ :=
  superPassPercentileSeries series driver.sourceAttr driver.percentile

theorem driverValues_eq (series : List SuperPassRollup) :
    driverValues driver series = series.filterMap (driverValue driver) :=
  rfl

theorem driverValue_eq_none_iff (sp : SuperPassRollup) :
    driverValue driver sp = none ↔ sp.samples driver.sourceAttr = [] := by
  rw [driverValue]
  split <;> rename_i silent
  · exact iff_of_true rfl (List.isEmpty_iff.mp silent)
  · exact iff_of_false nofun fun empty => silent (List.isEmpty_iff.mpr empty)

variable (series : List SuperPassRollup) {position : Nat}

variable {driver series} in
/-- A value stands after those of the super-passes before its own. -/
theorem driverValues_getElem? {sp : SuperPassRollup} {value : ℚ}
    (here : series[position]? = some sp) (sampled : driverValue driver sp = some value) :
    (driverValues driver series)[(driverValues driver (series.take position)).length]? =
      some value := by
  obtain ⟨inside, rfl⟩ := List.getElem?_eq_some_iff.mp here
  have parts : series = series.take position ++ series[position] :: series.drop (position + 1) := by
    rw [← List.drop_eq_getElem_cons inside, List.take_append_drop]
  simp only [driverValues_eq]
  nth_rewrite 1 [parts]
  rw [List.filterMap_append, List.filterMap_cons_some sampled, List.getElem?_append_right le_rfl,
    Nat.sub_self, List.getElem?_cons_zero]

variable {driver series} in
/-- The next value belongs to the first super-pass with samples. -/
theorem driverValues_next {sp : SuperPassRollup}
    (next : (series.drop position).find? (fun sp => (driverValue driver sp).isSome) = some sp) :
    (driverValues driver series)[(driverValues driver (series.take position)).length]? =
      driverValue driver sp := by
  have parts := List.take_append_drop position series
  simp only [driverValues_eq]
  nth_rewrite 1 [← parts]
  rw [List.filterMap_append, List.getElem?_append_right le_rfl, Nat.sub_self]
  generalize series.drop position = rest at next
  induction rest with
  | nil => exact absurd next nofun
  | cons first rest ih =>
      cases value : driverValue driver first with
      | none =>
          rw [List.find?_cons_of_neg (by simp [value])] at next
          rw [List.filterMap_cons_none value]
          exact ih next
      | some found =>
          rw [List.find?_cons_of_pos (by simp [value])] at next
          cases next
          rw [List.filterMap_cons_some value, List.getElem?_cons_zero, value]

theorem driverValues_take_le (position : Nat) :
    (driverValues driver (series.take position)).length ≤ position := by
  rw [driverValues_eq]
  exact (List.length_filterMap_le ..).trans (List.length_take_le ..)

/-- Values are as many as super-passes exactly if each super-pass has samples. -/
theorem driverValues_take_eq_iff (bound : position ≤ series.length) :
    (driverValues driver (series.take position)).length = position ↔
      ∀ sp ∈ series.take position, sp.samples driver.sourceAttr ≠ [] := by
  have whole := List.filterMap_length_eq_length (f := driverValue driver)
    (l := series.take position)
  rw [List.length_take_of_le bound] at whole
  rw [driverValues_eq, whole]
  refine forall_congr' fun sp => forall_congr' fun member => ?_
  rw [Ne, ← driverValue_eq_none_iff, Option.isSome_iff_ne_none]

end

/-! ## The crop -/

/-- The driver value of a super-pass with samples lies outside the band. -/
def Outside (driver : TrackedMetric) (series : List SuperPassRollup) (band : ℚ)
    (sp : SuperPassRollup) : Prop :=
  ∃ value, driverValue driver sp = some value ∧
    outsideBand (steadyLevel (driverValues driver series)) band value = true

/-- What a warmup of so many super-passes of the full series means. -/
structure Crop (driver : TrackedMetric) (series : List SuperPassRollup) (band : ℚ)
    (w : Nat) : Prop where
  position : w ≤ series.length
  before : ∀ i sp, 1 ≤ i → i < w → series[i]? = some sp →
    sp.samples driver.sourceAttr ≠ [] → Outside driver series band sp
  after : 1 < w → w < warmupCap (driverValues driver series).length 1 (1 / 2) →
    ∀ sp, (series.drop w).find? (fun sp => (driverValue driver sp).isSome) = some sp →
      series[w]? = some sp ∨ ¬ Outside driver series band sp

/-- So many leading values lie outside the band, the super-pass in that position has no samples
and neither has one before it. -/
structure Misread (driver : TrackedMetric) (series : List SuperPassRollup) (band : ℚ)
    (p : Nat) : Prop where
  late : 1 < p
  uncapped : p < warmupCap (driverValues driver series).length 1 (1 / 2)
  before : ∀ i < p, ∃ value, (driverValues driver series)[i]? = some value ∧
    outsideBand (steadyLevel (driverValues driver series)) band value = true
  after : ∃ value, (driverValues driver series)[p]? = some value ∧
    outsideBand (steadyLevel (driverValues driver series)) band value = false
  silent : ∃ sp, series[p]? = some sp ∧ sp.samples driver.sourceAttr = []
  gap : ∃ sp ∈ series.take p, sp.samples driver.sourceAttr = []

theorem warmupCap_half (n : Nat) : warmupCap n 1 (1 / 2) = max 1 (n / 2) := by
  have half : ⌊(n : ℚ) * (1 / 2)⌋ = ((n / 2 : Nat) : ℤ) := by
    rw [mul_one_div]
    exact Rat.floor_natCast_div_natCast n 2
  rw [warmupCap, half, Int.toNat_natCast]

variable {driver : TrackedMetric} {series : List SuperPassRollup} {band : ℚ}

theorem adaptiveWarmup_short (few : (driverValues driver series).length < minTrendN) :
    adaptiveWarmup series driver band = some 1 :=
  if_pos few

/-- The warmup is the count of leading values, but at least one. -/
theorem adaptiveWarmup_eq (band : ℚ)
    (enough : minTrendN ≤ (driverValues driver series).length) :
    ∃ count, adaptiveWarmup series driver band = some (max 1 count) ∧
      Leading (outsideBand (steadyLevel (driverValues driver series)) band)
        (warmupCap (driverValues driver series).length 1 (1 / 2))
        (driverValues driver series) count := by
  have four : 4 ≤ (driverValues driver series).length := enough
  obtain ⟨count, counted, leading⟩ := leadingOutside_spec
    (outsideBand (steadyLevel (driverValues driver series)) band)
    (show warmupCap (driverValues driver series).length 1 (1 / 2) ≤
        (driverValues driver series).length by
      rw [warmupCap_half]
      omega)
  refine ⟨count, ?_, leading⟩
  have read : adaptiveWarmup series driver band = (leadingOutside
      (outsideBand (steadyLevel (driverValues driver series)) band)
      (warmupCap (driverValues driver series).length 1 (1 / 2))
      (driverValues driver series)).map (max 1) := if_neg (not_lt.mpr enough)
  rw [read, counted, Option.map_some]

/-- The super-pass after the leading ones is the one in that position, or the position is
misread. -/
theorem Leading.next_iff {count : Nat}
    (leading : Leading (outsideBand (steadyLevel (driverValues driver series)) band)
      (warmupCap (driverValues driver series).length 1 (1 / 2))
      (driverValues driver series) count)
    (late : 1 < count) (uncapped : count < warmupCap (driverValues driver series).length 1 (1 / 2)) :
    (∀ sp, (series.drop count).find? (fun sp => (driverValue driver sp).isSome) = some sp →
      series[count]? = some sp ∨ ¬ Outside driver series band sp) ↔
    ¬ Misread driver series band count := by
  obtain ⟨value, here, inside⟩ := leading.after uncapped
  obtain ⟨bound, -⟩ := List.getElem?_eq_some_iff.mp here
  have fewer : (driverValues driver series).length ≤ series.length := List.length_filterMap_le ..
  have within : count ≤ series.length := by omega
  have order := driverValues_take_le driver series count
  constructor
  · intro next misread
    obtain ⟨silent, listed, empty⟩ := misread.silent
    obtain ⟨other, member, lacking⟩ := misread.gap
    have less : (driverValues driver (series.take count)).length < count := by
      refine lt_of_le_of_ne order fun same => ?_
      exact (driverValues_take_eq_iff driver series within).mp same other member lacking
    cases found : (series.drop count).find? fun sp => (driverValue driver sp).isSome with
    | none =>
        have rest : driverValues driver (series.drop count) = [] := by
          rw [driverValues_eq, List.filterMap_eq_nil_iff]
          intro sp later
          simpa using List.find?_eq_none.mp found sp later
        have parts : driverValues driver series = driverValues driver (series.take count) ++
            driverValues driver (series.drop count) := by
          simp only [driverValues_eq]
          rw [← List.filterMap_append, List.take_append_drop]
        rw [parts, rest, List.append_nil] at bound
        omega
    | some sp =>
        have sampled := List.find?_some found
        rcases next sp found with same | notOutside
        · rw [listed] at same
          cases same
          rw [(driverValue_eq_none_iff driver silent).mpr empty] at sampled
          cases sampled
        · obtain ⟨early, position, off⟩ := leading.before _ less
          rw [driverValues_next found] at position
          exact notOutside ⟨early, position, off⟩
  · intro notMisread sp found
    by_cases same : series[count]? = some sp
    · exact Or.inl same
    · refine Or.inr ?_
      rintro ⟨off, sampled, outside⟩
      have position := driverValues_next found
      rw [sampled] at position
      refine notMisread ⟨late, uncapped, leading.before, ⟨value, here, inside⟩, ?_, ?_⟩
      · have short : count < series.length := by omega
        refine ⟨series[count], List.getElem?_eq_getElem short, ?_⟩
        by_contra present
        rw [← driverValue_eq_none_iff, ← Ne.eq_1, ← Option.isSome_iff_ne_none] at present
        rw [List.drop_eq_getElem_cons short, List.find?_cons, present] at found
        exact same (by rw [List.getElem?_eq_getElem short, Option.some_inj.mp found])
      · by_contra gapless
        have all := (driverValues_take_eq_iff driver series within).mpr
          fun other member lacking => gapless ⟨other, member, lacking⟩
        rw [all, here] at position
        cases position
        rw [inside] at outside
        cases outside

/-- Before the count no sampled super-pass is inside the band. -/
theorem Leading.outside {count cap i : Nat} {sp : SuperPassRollup}
    (leading : Leading (outsideBand (steadyLevel (driverValues driver series)) band) cap
      (driverValues driver series) count) (less : i < count)
    (here : series[i]? = some sp) (sampled : sp.samples driver.sourceAttr ≠ []) :
    Outside driver series band sp := by
  cases value : driverValue driver sp with
  | none => exact absurd ((driverValue_eq_none_iff driver sp).mp value) sampled
  | some found =>
      have position := driverValues_getElem? here value
      have order := driverValues_take_le driver series i
      obtain ⟨early, listed, off⟩ := leading.before _ (order.trans_lt less)
      rw [position] at listed
      cases listed
      exact ⟨found, value, off⟩

theorem warmup_crop_iff (driver : TrackedMetric) (series : List SuperPassRollup) (band : ℚ) :
    (∃ w, adaptiveWarmup series driver band = some w ∧ Crop driver series band w) ↔
      series ≠ [] ∧ ∀ p, ¬ Misread driver series band p := by
  have fewer : (driverValues driver series).length ≤ series.length := List.length_filterMap_le ..
  have unread : ∀ p, warmupCap (driverValues driver series).length 1 (1 / 2) ≤ 1 →
      ¬ Misread driver series band p := by
    intro p least misread
    have late := misread.late
    have uncapped := misread.uncapped
    omega
  constructor
  · rintro ⟨w, returned, crop⟩
    refine ⟨?_, fun p misread => ?_⟩
    · rintro rfl
      have none' : (driverValues driver []).length < minTrendN := Nat.zero_lt_succ 3
      rw [adaptiveWarmup_short none'] at returned
      cases returned
      exact absurd crop.position (by decide)
    · have late := misread.late
      have uncapped := misread.uncapped
      have enough : minTrendN ≤ (driverValues driver series).length := by
        by_contra few
        refine unread p ?_ misread
        rw [minTrendN] at few
        rw [warmupCap_half]
        omega
      obtain ⟨count, counted, leading⟩ := adaptiveWarmup_eq band enough
      have same := leading.unique ⟨uncapped.le, misread.before, fun _ => misread.after⟩
      subst same
      rw [counted] at returned
      cases returned
      rw [max_eq_right late.le] at crop
      exact (leading.next_iff late uncapped).mp (crop.after late uncapped) misread
  · rintro ⟨nonempty, readable⟩
    have position : 1 ≤ series.length := List.length_pos_iff.mpr nonempty
    by_cases few : (driverValues driver series).length < minTrendN
    · exact ⟨1, adaptiveWarmup_short few, position, fun i sp low high => by omega,
        fun late => absurd late (Nat.lt_irrefl 1)⟩
    · obtain ⟨count, counted, leading⟩ := adaptiveWarmup_eq band (not_lt.mp few)
      have capped := leading.capped
      rw [warmupCap_half] at capped
      rw [minTrendN] at few
      refine ⟨max 1 count, counted, by omega, fun i sp low high here sampled => ?_,
        fun late uncapped => ?_⟩
      · exact leading.outside (by omega) here sampled
      · have same : max 1 count = count := by omega
        rw [same] at late uncapped ⊢
        exact (leading.next_iff late uncapped).mpr (readable count)

/-- Two super-passes without samples among leading ones that lie outside the band. -/
def gappedRamp : List SuperPassRollup :=
  [[100], [], [], [100], [10], [10], [10], [10]].map fun levels => { tpotNs := levels }

/-- The crop of the gapped ramp ends before a super-pass outside the band. -/
theorem crop_before_ramp :
    ¬ ∀ (driver : TrackedMetric) (series : List SuperPassRollup) (band : ℚ), 0 < band →
      ∃ w, adaptiveWarmup series driver band = some w ∧ Crop driver series band w := by
  intro holds
  obtain ⟨w, returned, crop⟩ := holds tpotP50 gappedRamp (5 / 100) (by norm_num)
  have two : adaptiveWarmup gappedRamp tpotP50 (5 / 100) = some 2 := by decide +kernel
  rw [two] at returned
  cases returned
  have cap : 2 < warmupCap (driverValues tpotP50 gappedRamp).length 1 (1 / 2) := by decide +kernel
  rcases crop.after (by decide) cap { tpotNs := [100] } rfl with same | inside
  · cases same
  · exact inside ⟨100, by decide +kernel, by decide +kernel⟩

end SteadyStateDiagnostics

end InferenceEndpoint
