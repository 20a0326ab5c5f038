import InferenceEndpoint.Library.Binning
import InferenceEndpoint.Metrics.EarlyStopping
import Mathlib.Data.List.Sort

/-!
# Series samplers

A sampler keeps rollups, an HDR histogram and the raw values of a series.  While the run goes on
its statistics come from the HDR histogram, and the final ones from the raw values.  Both count
every recorded value in one bucket of the same edges, the final percentiles are recorded values,
and the final statistics do not depend on the order of recording.
-/

namespace InferenceEndpoint

/-- Floating point as the edges rely on it: the operations round, and keep the order. -/
structure FloatFormat (Real : Type) [LinearOrder Real] where
  ofInt : Int → Real
  add : Real → Real → Real
  sub : Real → Real → Real
  mul : Real → Real → Real
  div : Real → Nat → Real
  log : Real → Real
  exp : Real → Real
  le_tenfold : ∀ {value}, ofInt 1 ≤ value → value ≤ mul value (ofInt 10)
  log_mono : ∀ {low high}, ofInt 1 ≤ low → low ≤ high → log low ≤ log high
  sub_nonneg : ∀ {low high}, low ≤ high → ofInt 0 ≤ sub high low
  div_nonneg : ∀ {value} parts, ofInt 0 ≤ value → ofInt 0 ≤ div value parts
  scale_mono : ∀ {step} {first second : Nat}, ofInt 0 ≤ step → first ≤ second →
    mul (ofInt first) step ≤ mul (ofInt second) step
  add_mono : ∀ base {low high}, low ≤ high → add base low ≤ add base high
  exp_mono : ∀ {low high}, low ≤ high → exp low ≤ exp high

/-- The product in the index of a percentile is rounded to what is at most the factor, and keeps
the order of the percentiles. -/
structure PercentileArithmetic extends EarlyStopping.FloatArithmetic where
  product_le : ∀ fraction factor, product fraction factor ≤ factor
  product_mono : ∀ {fraction other : EarlyStopping.Fraction} factor,
    fraction.value ≤ other.value → product fraction factor ≤ product other factor

/-- Without rounding. -/
def PercentileArithmetic.exact : PercentileArithmetic where
  toFloatArithmetic := .exact
  product_le fraction factor := by
    have scaled := mul_le_mul_of_nonneg_right fraction.lt_one.le (Nat.cast_nonneg (α := ℚ) factor)
    simpa [EarlyStopping.FloatArithmetic.exact] using scaled
  product_mono factor ordered := mul_le_mul_of_nonneg_right ordered (Nat.cast_nonneg factor)

/-- The numbers of a series, of which `int` and `float` series have different ones. -/
structure SeriesArithmetic (Value Real : Type) [LinearOrder Value] [LinearOrder Real] where
  format : FloatFormat Real
  percentile : PercentileArithmetic
  zero : Value
  add : Value → Value → Value
  square : Value → Value
  ofInt : Int → Value
  truncate : Value → Int
  toReal : Value → Real
  toReal_mono : ∀ {low high}, low ≤ high → toReal low ≤ toReal high
  truncate_bounds : ∀ {low high : Int} {value}, ofInt low ≤ value → value ≤ ofInt high →
    low ≤ truncate value ∧ truncate value ≤ high

/-- An HDR histogram iterates over what its values are equivalent to, with their numbers. -/
structure HdrHistogram (Real : Type) where
  equivalent : Int → Int
  recordedIterator : List Int → List (Int × Nat)
  valueAtPercentile : List Int → ℚ → Real
  iterates : ∀ values,
    (Binning.expand (recordedIterator values)).Perm (values.map equivalent)

/-- An entry of the report grid with the text that `str` makes of it. -/
structure GridPercentile where
  key : String
  value : ℚ
  positive : 0 < value
  below : value < 100

/-- `percentile / 100`. -/
def GridPercentile.fraction (percentile : GridPercentile) : EarlyStopping.Fraction where
  value := percentile.value / 100
  pos := div_pos percentile.positive (by norm_num)
  lt_one := (div_lt_one (by norm_num)).mpr percentile.below

/-- What a series is registered with. -/
structure SeriesOptions where
  name : String
  hdrLow : Int
  hdrHigh : Int
  nHistogramBuckets : Nat
  percentiles : List GridPercentile
  earlyStopping : Bool
  hdrBounds : 2 * max hdrLow 1 ≤ hdrHigh
  someBuckets : 0 < nHistogramBuckets
  distinctKeys : (percentiles.map GridPercentile.key).Nodup

structure SeriesStat (Value Real : Type) where
  name : String
  count : Nat
  total : Value
  min : Value
  max : Value
  sumSq : Real
  percentiles : List (String × Real)
  histogram : List ((Real × Real) × Nat)
  earlyStoppingPercentiles : Option (List (String × Option Real))

structure SeriesSampler (Value : Type) where
  count : Nat := 0
  total : Value
  sumSq : Value
  minValue : Option Value := none
  maxValue : Option Value := none
  hdr : List Int := []
  raw : List Value := []

variable {Value Real : Type} [LinearOrder Value] [LinearOrder Real]

/-- `_log_spaced_edges`. -/
def FloatFormat.logSpacedEdges (format : FloatFormat Real) (low high : Real) (nBuckets : Nat) :
    List Real :=
  let safeLow := max low (format.ofInt 1)
  let safeHigh := max high (format.mul safeLow (format.ofInt 10))
  let logLow := format.log safeLow
  let step := format.div (format.sub (format.log safeHigh) logLow) nBuckets
  (List.range (nBuckets + 1)).map fun i : Nat =>
    format.exp (format.add logLow (format.mul (format.ofInt i) step))

/-- `es_targets_from_grid`. -/
def esTargetsFromGrid (percentiles : List GridPercentile) : List GridPercentile :=
  percentiles.filter fun percentile => 50 ≤ percentile.value ∧ percentile.value < 100

namespace SeriesSampler

variable (arithmetic : SeriesArithmetic Value Real) (hdr : HdrHistogram Real)
  (options : SeriesOptions)

def initial : SeriesSampler Value where
  total := arithmetic.zero
  sumSq := arithmetic.zero

/-- What the HDR histogram records for a value. -/
def hdrValue (value : Value) : Int :=
  let clamped := max value (arithmetic.ofInt (max options.hdrLow 1))
  if arithmetic.ofInt options.hdrHigh < clamped then options.hdrHigh
  else arithmetic.truncate clamped

def record (sampler : SeriesSampler Value) (value : Value) : SeriesSampler Value where
  count := sampler.count + 1
  total := arithmetic.add sampler.total value
  sumSq := arithmetic.add sampler.sumSq (arithmetic.square value)
  minValue := some (sampler.minValue.elim value fun least => if value < least then value else least)
  maxValue := some (sampler.maxValue.elim value fun most => if most < value then value else most)
  hdr := sampler.hdr ++ [hdrValue arithmetic options value]
  raw := sampler.raw ++ [value]

/-- The sampler of a series in which these values were recorded. -/
def recordAll (values : List Value) : SeriesSampler Value :=
  values.foldl (record arithmetic options) (initial arithmetic)

/-- `_es_estimates`; an exception leaves the map out. -/
def esEstimates (sortedValues : List Value) : Option (List (String × Option Real)) :=
  if options.earlyStopping then
    (esTargetsFromGrid options.percentiles).mapM fun percentile =>
      (EarlyStopping.esPercentileEstimate arithmetic.percentile.toFloatArithmetic sortedValues
        percentile.value).map fun result =>
          (percentile.key, result.estimate.map arithmetic.toReal)
  else none

def edges (sampler : SeriesSampler Value) : List Real :=
  arithmetic.format.logSpacedEdges (arithmetic.toReal (sampler.minValue.getD arithmetic.zero))
    (arithmetic.toReal (sampler.maxValue.getD arithmetic.zero)) options.nHistogramBuckets

/-- The buckets with their counts. -/
def buckets (edges : List Real) (counts : List Nat) : List ((Real × Real) × Nat) :=
  (edges.zip edges.tail).zip counts

/-- The statistics without percentiles and histogram. -/
def rollups (sampler : SeriesSampler Value) : SeriesStat Value Real where
  name := options.name
  count := sampler.count
  total := sampler.total
  min := sampler.minValue.getD arithmetic.zero
  max := sampler.maxValue.getD arithmetic.zero
  sumSq := arithmetic.toReal sampler.sumSq
  percentiles := []
  histogram := []
  earlyStoppingPercentiles := none

/-- `_hdr_stat`. -/
def hdrStat (sampler : SeriesSampler Value) : SeriesStat Value Real :=
  let edges := edges arithmetic options sampler
  let entries := (hdr.recordedIterator sampler.hdr).map fun entry =>
    (arithmetic.format.ofInt entry.1, entry.2)
  { rollups arithmetic options sampler with
    percentiles := options.percentiles.map fun percentile =>
      (percentile.key, hdr.valueAtPercentile sampler.hdr percentile.value)
    histogram := buckets edges (Binning.tally edges entries) }

/-- The element that `np.percentile` takes with `method="lower"`. -/
def lowerPercentile (sortedValues : List Value) (percentile : GridPercentile) : Value :=
  sortedValues.getD (EarlyStopping.empiricalIndex arithmetic.percentile.toFloatArithmetic
    percentile.fraction sortedValues.length) arithmetic.zero

/-- `_exact_stat`. -/
def exactStat (sampler : SeriesSampler Value) : SeriesStat Value Real :=
  let sortedValues := sampler.raw.insertionSort (· ≤ ·)
  let edges := edges arithmetic options sampler
  let clipped := sortedValues.map fun value => Binning.clip edges (arithmetic.toReal value)
  { rollups arithmetic options sampler with
    percentiles := options.percentiles.map fun percentile =>
      (percentile.key, arithmetic.toReal (lowerPercentile arithmetic sortedValues percentile))
    histogram := buckets edges (Binning.binCounts edges clipped)
    earlyStoppingPercentiles := esEstimates arithmetic options sortedValues }

/-- `build_stat`. -/
def buildStat (sampler : SeriesSampler Value) (exact : Bool) : SeriesStat Value Real :=
  if sampler.count = 0 then
    { rollups arithmetic options sampler with
      percentiles := options.percentiles.map fun percentile =>
        (percentile.key, arithmetic.format.ofInt 0)
      earlyStoppingPercentiles := if exact then esEstimates arithmetic options [] else none }
  else if exact then exactStat arithmetic options sampler
  else hdrStat arithmetic hdr options sampler

/-! ## What was recorded -/

variable {arithmetic} {hdr} {options} {values first second : List Value}

theorem recordAll_concat (values : List Value) (value : Value) :
    recordAll arithmetic options (values ++ [value]) =
      record arithmetic options (recordAll arithmetic options values) value := by
  simp [recordAll]

variable (arithmetic options) in
theorem recordAll_fields (values : List Value) :
    let sampler := recordAll arithmetic options values
    sampler.count = values.length ∧
      sampler.total = values.foldl arithmetic.add arithmetic.zero ∧
      sampler.sumSq = values.foldl (fun sum value => arithmetic.add sum (arithmetic.square value))
        arithmetic.zero ∧
      sampler.hdr = values.map (hdrValue arithmetic options) ∧ sampler.raw = values := by
  induction values using List.reverseRecOn with
  | nil => exact ⟨rfl, rfl, rfl, rfl, rfl⟩
  | append_singleton values value ih =>
      obtain ⟨count, total, sumSq, hdr, raw⟩ := ih
      rw [recordAll_concat]
      simp [record, count, total, sumSq, hdr, raw]

variable (arithmetic options) in
/-- The extremes are recorded values around all the others. -/
theorem recordAll_extremes (some_ : values ≠ []) :
    ∃ least most, (recordAll arithmetic options values).minValue = some least ∧
      (recordAll arithmetic options values).maxValue = some most ∧ least ∈ values ∧
      most ∈ values ∧ ∀ value ∈ values, least ≤ value ∧ value ≤ most := by
  induction values using List.reverseRecOn with
  | nil => exact absurd rfl some_
  | append_singleton values value ih =>
      rw [recordAll_concat]
      by_cases empty : values = []
      · subst empty
        exact ⟨value, value, rfl, rfl, by simp, by simp, by simp⟩
      · obtain ⟨least, most, minValue, maxValue, leastIn, mostIn, around⟩ := ih empty
        refine ⟨if value < least then value else least, if most < value then value else most,
          by simp [record, minValue], by simp [record, maxValue], ?_, ?_, ?_⟩
        · split <;> simp [leastIn]
        · split <;> simp [mostIn]
        · intro other member
          rcases List.mem_append.mp member with earlier | last
          · obtain ⟨above, below⟩ := around other earlier
            constructor
            · split
              · exact le_trans (le_of_lt ‹value < least›) above
              · exact above
            · split
              · exact below.trans (le_of_lt ‹most < value›)
              · exact below
          · obtain rfl := List.mem_singleton.mp last
            constructor
            · split
              · exact le_refl _
              · exact not_lt.mp ‹¬ other < least›
            · split
              · exact le_refl _
              · exact not_lt.mp ‹¬ most < other›

theorem buildStat_of_ne_nil (some_ : values ≠ []) (exact : Bool) :
    buildStat arithmetic hdr options (recordAll arithmetic options values) exact =
      if exact then exactStat arithmetic options (recordAll arithmetic options values)
      else hdrStat arithmetic hdr options (recordAll arithmetic options values) := by
  have counted : (recordAll arithmetic options values).count ≠ 0 := by
    rw [(recordAll_fields arithmetic options values).1]
    exact mt List.length_eq_zero_iff.mp some_
  rw [buildStat, if_neg counted]

/-! ## A series of three latencies -/

/-- Rational numbers, with edges that a single bucket has. -/
def rationalFormat : FloatFormat ℚ where
  ofInt := Int.cast
  add := (· + ·)
  sub := (· - ·)
  mul := (· * ·)
  div value parts := value / parts
  log := id
  exp := id
  le_tenfold one := by push_cast at one ⊢; linarith
  log_mono _ ordered := ordered
  sub_nonneg ordered := by push_cast; linarith
  div_nonneg parts positive := by push_cast at positive ⊢; positivity
  scale_mono positive ordered := by
    push_cast at positive ⊢
    exact mul_le_mul_of_nonneg_right (Nat.cast_le.mpr ordered) positive
  add_mono base _ _ ordered := add_le_add_right ordered base
  exp_mono ordered := ordered

def latencies : SeriesArithmetic Int ℚ where
  format := rationalFormat
  percentile := .exact
  zero := 0
  add := (· + ·)
  square value := value * value
  ofInt := id
  truncate := id
  toReal := Int.cast
  toReal_mono ordered := Int.cast_le.mpr ordered
  truncate_bounds above below := ⟨above, below⟩

/-- A histogram of small values that are all different. -/
def smallValues : HdrHistogram ℚ where
  equivalent := id
  recordedIterator values := (values.insertionSort (· ≤ ·)).map fun value => (value, 1)
  valueAtPercentile values percentile :=
    (values.insertionSort (· ≤ ·)).getD
      (max 1 ⌊percentile * values.length / 100 + 1 / 2⌋₊ - 1) 0
  iterates values := by
    simpa [Binning.expand, List.flatMap_map] using List.perm_insertionSort (· ≤ ·) values

def firstTokens : SeriesOptions where
  name := "ttft_ns"
  hdrLow := 1
  hdrHigh := 3600000000000
  nHistogramBuckets := 1
  percentiles := [⟨"99.0", 99, by decide, by decide⟩, ⟨"50.0", 50, by decide, by decide⟩]
  earlyStopping := true
  hdrBounds := by decide
  someBuckets := Nat.one_pos
  distinctKeys := by decide

/-! ## Histograms -/

theorem sorted_edges (sampler : SeriesSampler Value) :
    (edges arithmetic options sampler).Pairwise (· ≤ ·) := by
  unfold edges FloatFormat.logSpacedEdges
  dsimp only
  rw [List.pairwise_map]
  apply List.Pairwise.imp _ List.pairwise_lt_range
  intro earlier later ordered
  refine arithmetic.format.exp_mono (arithmetic.format.add_mono _
    (arithmetic.format.scale_mono (arithmetic.format.div_nonneg _
      (arithmetic.format.sub_nonneg (arithmetic.format.log_mono (le_max_right _ _) ?_)))
      ordered.le))
  exact (arithmetic.format.le_tenfold (le_max_right _ _)).trans (le_max_right _ _)

theorem length_edges (sampler : SeriesSampler Value) :
    (edges arithmetic options sampler).length = options.nHistogramBuckets + 1 := by
  simp [edges, FloatFormat.logSpacedEdges]

omit [LinearOrder Real] in
theorem length_buckets (edges : List Real) {counts : List Nat}
    (counted : counts.length = edges.length - 1) :
    (buckets edges counts).map Prod.fst = edges.zip edges.tail ∧
      (buckets edges counts).map Prod.snd = counts := by
  constructor
  · exact List.map_fst_zip (by simp [counted])
  · exact List.map_snd_zip (by simp [counted])

/-- The counts of the final histogram. -/
theorem final_counts :
    let edges := edges arithmetic options (recordAll arithmetic options values)
    (exactStat arithmetic options (recordAll arithmetic options values)).histogram =
      buckets edges (Binning.perBucket edges (values.map fun value =>
        Binning.clip edges (arithmetic.toReal value))) := by
  have sorted := @sorted_edges _ _ _ _ arithmetic options (recordAll arithmetic options values)
  have raw := (recordAll_fields arithmetic options values).2.2.2.2
  simp only [exactStat, raw]
  rw [Binning.binCounts_eq_perBucket sorted]
  · exact congrArg _ (Binning.perBucket_perm ((List.perm_insertionSort _ values).map _))
  · intro value member
    obtain ⟨_, -, rfl⟩ := List.mem_map.mp member
    exact (Binning.clip_between sorted _).1
  · intro value member
    obtain ⟨_, -, rfl⟩ := List.mem_map.mp member
    exact (Binning.clip_between sorted _).2

/-- The counts of a live histogram. -/
theorem live_counts :
    let edges := edges arithmetic options (recordAll arithmetic options values)
    (hdrStat arithmetic hdr options (recordAll arithmetic options values)).histogram =
      buckets edges (Binning.perBucket edges (values.map fun value =>
        arithmetic.format.ofInt (hdr.equivalent (hdrValue arithmetic options value)))) := by
  have recorded := (recordAll_fields arithmetic options values).2.2.2.1
  have expanded : ∀ entries : List (Int × Nat),
      Binning.expand (entries.map fun entry => (arithmetic.format.ofInt entry.1, entry.2)) =
        (Binning.expand entries).map arithmetic.format.ofInt := by
    intro entries
    simp [Binning.expand, List.flatMap_map, List.map_flatMap]
  simp only [hdrStat, Binning.tally_eq, expanded, recorded]
  have iterated := (hdr.iterates (values.map (hdrValue arithmetic options))).map
    arithmetic.format.ofInt
  rw [List.map_map, List.map_map] at iterated
  exact congrArg _ (Binning.perBucket_perm iterated)

variable (arithmetic hdr options) in
/-- While the run goes on and at its end, a series with values has a histogram over the same
edges in which no value is lost.  Both are the same if the HDR histogram tells the values apart. -/
theorem histograms_agree (some_ : values ≠ []) :
    let sampler := recordAll arithmetic options values
    let live := buildStat arithmetic hdr options sampler false
    let final := buildStat arithmetic hdr options sampler true
    live.histogram.map Prod.fst = final.histogram.map Prod.fst ∧
      final.histogram.length = options.nHistogramBuckets ∧
      (live.histogram.map Prod.snd).sum = values.length ∧
      (final.histogram.map Prod.snd).sum = values.length ∧
      ((edges arithmetic options sampler).Pairwise (· < ·) →
        (∀ value ∈ values, arithmetic.format.ofInt
          (hdr.equivalent (hdrValue arithmetic options value)) = arithmetic.toReal value) →
        live.histogram = final.histogram) := by
  intro sampler live final
  have length : (edges arithmetic options sampler).length = options.nHistogramBuckets + 1 :=
    length_edges sampler
  have positive := options.someBuckets
  have two : 2 ≤ (edges arithmetic options sampler).length := by omega
  have isLive : live.histogram = _ :=
    (congrArg SeriesStat.histogram (buildStat_of_ne_nil some_ false)).trans live_counts
  have isFinal : final.histogram = _ :=
    (congrArg SeriesStat.histogram (buildStat_of_ne_nil some_ true)).trans final_counts
  have counted : ∀ counts : List Real, (Binning.perBucket (edges arithmetic options sampler)
      counts).length = (edges arithmetic options sampler).length - 1 := by
    simp [Binning.perBucket]
  refine ⟨?_, ?_, ?_, ?_, ?_⟩
  · rw [isLive, isFinal, (length_buckets _ (counted _)).1, (length_buckets _ (counted _)).1]
  · rw [isFinal, ← List.length_map Prod.snd, (length_buckets _ (counted _)).2, counted, length,
      Nat.add_sub_cancel]
  · rw [isLive, (length_buckets _ (counted _)).2, Binning.sum_perBucket two, List.length_map]
  · rw [isFinal, (length_buckets _ (counted _)).2, Binning.sum_perBucket two, List.length_map]
  · intro strict kept
    have same : (values.map fun value => arithmetic.format.ofInt
        (hdr.equivalent (hdrValue arithmetic options value))) =
          values.map arithmetic.toReal := List.map_congr_left kept
    have unmoved : Binning.perBucket (edges arithmetic options sampler) (values.map fun value =>
        Binning.clip (edges arithmetic options sampler) (arithmetic.toReal value)) =
          Binning.perBucket (edges arithmetic options sampler)
            (values.map arithmetic.toReal) := by
      obtain ⟨low, high, others, isEdges⟩ : ∃ low high others,
          edges arithmetic options sampler = low :: high :: others := by
        obtain ⟨low, later, isCons⟩ := List.exists_cons_of_length_pos (Nat.zero_lt_of_lt two)
        rw [isCons, List.length_cons, Nat.succ_le_succ_iff] at two
        obtain ⟨high, others, rfl⟩ := List.exists_cons_of_length_pos two
        exact ⟨low, high, others, isCons⟩
      rw [isEdges] at strict ⊢
      have moved : Binning.perBucket (low :: high :: others) ((values.map arithmetic.toReal).map
          (Binning.clip (low :: high :: others))) = _ :=
        Binning.perBucket_map fun value _ => Binning.bucketOf_clip strict value
      rwa [List.map_map] at moved
    rw [isLive, isFinal]
    simp only [same]
    rw [unmoved]

theorem histograms_agree_threeLatencies :
    let sampler := recordAll latencies firstTokens [3, 1, 2]
    ((buildStat latencies smallValues firstTokens sampler true).histogram.map Prod.snd).sum = 3 :=
  (histograms_agree latencies smallValues firstTokens (List.cons_ne_nil 3 [1, 2])).2.2.2.1

/-! ## Percentiles -/

variable (arithmetic) in
/-- The position of a percentile in the sorted values. -/
def position (percentile : GridPercentile) (n : Nat) : Nat :=
  EarlyStopping.empiricalIndex arithmetic.percentile.toFloatArithmetic percentile.fraction n

theorem position_lt (percentile : GridPercentile) {n : Nat} (some_ : n ≠ 0) :
    position arithmetic percentile n < n := by
  have below := arithmetic.percentile.product_le percentile.fraction (n - 1)
  rw [position, EarlyStopping.empiricalIndex, if_neg some_]
  have floored := Nat.floor_le_of_le below
  omega

theorem position_mono {lower upper : GridPercentile} (ordered : lower.value ≤ upper.value)
    (n : Nat) : position arithmetic lower n ≤ position arithmetic upper n := by
  have fractions : lower.fraction.value ≤ upper.fraction.value :=
    div_le_div_of_nonneg_right ordered (by norm_num)
  unfold position EarlyStopping.empiricalIndex
  split
  · exact le_refl _
  · exact Nat.floor_le_floor (arithmetic.percentile.product_mono _ fractions)

/-- In sorted values, the one at a position has at most so many below it, and with it more than
so many up to it. -/
theorem rank_bounds {sortedValues : List Value} (sorted : sortedValues.Pairwise (· ≤ ·))
    {index : Nat} {value : Value} (there : sortedValues[index]? = some value) :
    sortedValues.countP (· < value) ≤ index ∧ index < sortedValues.countP (· ≤ value) := by
  obtain ⟨before, after, rfl, rfl⟩ :
      ∃ before after, sortedValues = before ++ value :: after ∧ before.length = index := by
    obtain ⟨inside, rfl⟩ := List.getElem?_eq_some_iff.mp there
    refine ⟨sortedValues.take index, sortedValues.drop (index + 1), ?_, ?_⟩
    · rw [← List.drop_eq_getElem_cons, List.take_append_drop]
    · rw [List.length_take]
      omega
  obtain ⟨-, later, across⟩ := List.pairwise_append.mp sorted
  have after_le := (List.pairwise_cons.mp later).1
  rw [List.countP_append, List.countP_append]
  constructor
  · have none : (value :: after).countP (· < value) = 0 := by
      rw [List.countP_eq_zero]
      intro other member
      rcases List.mem_cons.mp member with rfl | member
      · simp
      · simpa using after_le other member
    have few := before.countP_le_length (p := fun other => decide (other < value))
    omega
  · have all : before.countP (· ≤ value) = before.length := by
      rw [List.countP_eq_length]
      exact fun other member => by simpa using across other member value (by simp)
    simp [all]

variable (arithmetic) in
/-- The final percentile is the value at its position. -/
theorem lowerPercentile_spec (some_ : values ≠ []) (percentile : GridPercentile) :
    (values.insertionSort (· ≤ ·))[position arithmetic percentile values.length]? =
      some (lowerPercentile arithmetic (values.insertionSort (· ≤ ·)) percentile) := by
  have inside : position arithmetic percentile values.length <
      (values.insertionSort (· ≤ ·)).length := by
    rw [List.length_insertionSort]
    exact position_lt percentile (mt List.length_eq_zero_iff.mp some_)
  rw [lowerPercentile, List.length_insertionSort, List.getD_eq_getElem?_getD]
  change _ = some ((values.insertionSort (· ≤ ·))[position arithmetic percentile
    values.length]?.getD _)
  rw [List.getElem?_eq_getElem inside]
  rfl

theorem percentiles_final (some_ : values ≠ []) :
    (buildStat arithmetic hdr options (recordAll arithmetic options values) true).percentiles =
      options.percentiles.map fun percentile => (percentile.key, arithmetic.toReal
        (lowerPercentile arithmetic (values.insertionSort (· ≤ ·)) percentile)) := by
  rw [buildStat_of_ne_nil some_, if_pos rfl]
  simp only [exactStat, (recordAll_fields arithmetic options values).2.2.2.2]

omit [LinearOrder Real] in
/-- The grid has one percentile for a key. -/
theorem eq_of_mem_percentiles {percentile : GridPercentile}
    (member : percentile ∈ options.percentiles) {result : GridPercentile → Real} {value : Real}
    (listed : (percentile.key, value) ∈ options.percentiles.map fun other =>
      (other.key, result other)) : value = result percentile := by
  obtain ⟨other, otherMember, same⟩ := List.mem_map.mp listed
  obtain ⟨key, rfl⟩ := Prod.mk.inj same
  rw [List.inj_on_of_nodup_map options.distinctKeys otherMember member key]

variable (arithmetic hdr options) in
/-- Every final percentile is a recorded value between the extremes that splits the others at
its position, and the percentiles are in the order of the grid. -/
theorem final_percentiles_observed (some_ : values ≠ []) :
    let final := buildStat arithmetic hdr options (recordAll arithmetic options values) true
    final.percentiles.map Prod.fst = options.percentiles.map GridPercentile.key ∧
      (∀ percentile ∈ options.percentiles, ∃ value ∈ values,
        (percentile.key, arithmetic.toReal value) ∈ final.percentiles ∧
          final.min ≤ value ∧ value ≤ final.max ∧
          values.countP (· < value) ≤ position arithmetic percentile values.length ∧
          position arithmetic percentile values.length < values.countP (· ≤ value)) ∧
      ∀ lower ∈ options.percentiles, ∀ upper ∈ options.percentiles,
        lower.value ≤ upper.value → ∀ low high, (lower.key, low) ∈ final.percentiles →
          (upper.key, high) ∈ final.percentiles → low ≤ high := by
  intro final
  have sorted : (values.insertionSort (· ≤ ·)).Pairwise (· ≤ ·) := List.pairwise_insertionSort _ _
  have perm := List.perm_insertionSort (· ≤ ·) values
  have percentiles : final.percentiles = _ := percentiles_final some_
  obtain ⟨least, most, minValue, maxValue, -, -, around⟩ :=
    recordAll_extremes arithmetic options some_
  have extremes : final.min = least ∧ final.max = most := by
    simp only [final, buildStat_of_ne_nil some_, if_true, exactStat, rollups, minValue, maxValue,
      Option.getD_some, and_self]
  refine ⟨by rw [percentiles, List.map_map]; rfl, fun percentile member => ?_, ?_⟩
  · have there := lowerPercentile_spec arithmetic some_ percentile
    have recorded := perm.mem_iff.mp (List.mem_of_getElem? there)
    obtain ⟨below, upTo⟩ := rank_bounds sorted there
    rw [perm.countP_eq] at below upTo
    obtain ⟨above, under⟩ := around _ recorded
    refine ⟨_, recorded, ?_, extremes.1 ▸ above, extremes.2 ▸ under, below, upTo⟩
    rw [percentiles]
    exact List.mem_map_of_mem member
  · intro lower lowerIn upper upperIn ordered low high isLow isHigh
    rw [percentiles] at isLow isHigh
    rw [eq_of_mem_percentiles lowerIn isLow, eq_of_mem_percentiles upperIn isHigh]
    apply arithmetic.toReal_mono
    obtain ⟨lowInside, lowIs⟩ := List.getElem?_eq_some_iff.mp
      (lowerPercentile_spec arithmetic some_ lower)
    obtain ⟨highInside, highIs⟩ := List.getElem?_eq_some_iff.mp
      (lowerPercentile_spec arithmetic some_ upper)
    rw [← lowIs, ← highIs]
    exact sorted.rel_get_of_le (show (⟨_, lowInside⟩ : Fin _) ≤ ⟨_, highInside⟩ from
      position_mono ordered _)

theorem final_percentiles_observed_threeLatencies :
    let sampler := recordAll latencies firstTokens [3, 1, 2]
    ∃ value ∈ ([3, 1, 2] : List Int), ("50.0", (value : ℚ)) ∈
      (buildStat latencies smallValues firstTokens sampler true).percentiles := by
  obtain ⟨value, member, listed, -⟩ := (final_percentiles_observed latencies smallValues
    firstTokens (List.cons_ne_nil 3 [1, 2])).2.1
      ⟨"50.0", 50, by norm_num, by norm_num⟩ (by simp [firstTokens])
  exact ⟨value, member, listed⟩

/-! ## Early stopping -/

variable (arithmetic) in
/-- The estimate of a target is a value at the position of its percentile or after it. -/
theorem estimate_of_target (sortedValues : List Value) {percentile : GridPercentile}
    (target : 50 ≤ percentile.value) :
    ∃ result, EarlyStopping.esPercentileEstimate arithmetic.percentile.toFloatArithmetic
        sortedValues percentile.value = some result ∧
      ∀ estimate, result.estimate = some estimate → ∃ later,
        position arithmetic percentile sortedValues.length ≤ later ∧
          sortedValues[later]? = some estimate := by
  have isFraction : EarlyStopping.fractionOf? percentile.value = some percentile.fraction :=
    dif_pos ⟨by linarith, percentile.below⟩
  have median : 1 / 2 ≤ percentile.fraction.value := by
    change 1 / 2 ≤ percentile.value / 100
    linarith
  unfold EarlyStopping.esPercentileEstimate
  rw [isFraction, Option.map_some]
  refine ⟨_, rfl, ?_⟩
  dsimp only
  split
  · intro estimate none
    cases none
  · rename_i enough
    exact fun estimate isEstimate => ⟨_, EarlyStopping.empiricalIndex_le _ median
      (Nat.le_of_not_lt enough), isEstimate⟩

theorem mapM_of_forall {Entry Result : Type} {compute : Entry → Option Result}
    {result : Entry → Result} {entries : List Entry}
    (each : ∀ entry ∈ entries, compute entry = some (result entry)) :
    entries.mapM compute = some (entries.map result) := by
  induction entries with
  | nil => rfl
  | cons entry entries ih =>
      rw [List.mapM_cons, each entry List.mem_cons_self,
        ih fun other member => each other (List.mem_cons_of_mem _ member)]
      rfl

variable (arithmetic hdr options) in
/-- The final statistics do not depend on the order in which the values were recorded, except
for sums that are rounded. -/
theorem buildStat_perm (perm : first.Perm second) :
    let stat := fun values =>
      buildStat arithmetic hdr options (recordAll arithmetic options values) true
    { stat second with total := (stat first).total, sumSq := (stat first).sumSq } = stat first ∧
      ((∀ sum one other, arithmetic.add (arithmetic.add sum one) other =
        arithmetic.add (arithmetic.add sum other) one) → stat second = stat first) := by
  intro stat
  have rest : { stat second with total := (stat first).total, sumSq := (stat first).sumSq } =
      stat first := by
    by_cases empty : first = []
    · subst empty
      obtain rfl := perm.nil_eq
      rfl
    · have filled : second ≠ [] := fun nil => empty (perm.trans (nil ▸ .refl _)).eq_nil
      obtain ⟨least, most, minFirst, maxFirst, leastIn, mostIn, around⟩ :=
        recordAll_extremes arithmetic options empty
      obtain ⟨low, high, minSecond, maxSecond, lowIn, highIn, outside⟩ :=
        recordAll_extremes arithmetic options filled
      obtain rfl : least = low := le_antisymm (around low (perm.mem_iff.mpr lowIn)).1
        (outside least (perm.mem_iff.mp leastIn)).1
      obtain rfl : most = high := le_antisymm (outside most (perm.mem_iff.mp mostIn)).2
        (around high (perm.mem_iff.mpr highIn)).2
      have sorted : second.insertionSort (· ≤ ·) = first.insertionSort (· ≤ ·) :=
        ((List.perm_insertionSort _ second).trans (perm.symm.trans
          (List.perm_insertionSort _ first).symm)).eq_of_pairwise'
            (List.pairwise_insertionSort _ _) (List.pairwise_insertionSort _ _)
      simp only [stat, buildStat_of_ne_nil empty, buildStat_of_ne_nil filled, if_true, exactStat,
        edges, rollups, (recordAll_fields arithmetic options _).1,
        (recordAll_fields arithmetic options _).2.2.2.2, minFirst, minSecond, maxFirst, maxSecond,
        sorted, perm.length_eq]
  refine ⟨rest, fun commute => ?_⟩
  have sums : (stat second).total = (stat first).total ∧
      (stat second).sumSq = (stat first).sumSq := by
    have totals : ∀ values, (stat values).total = values.foldl arithmetic.add arithmetic.zero ∧
        (stat values).sumSq = arithmetic.toReal (values.foldl (fun sum value =>
          arithmetic.add sum (arithmetic.square value)) arithmetic.zero) := by
      intro values
      by_cases empty : values = []
      · subst empty
        exact ⟨rfl, rfl⟩
      · simp only [stat, buildStat_of_ne_nil empty, if_true, exactStat, rollups,
          (recordAll_fields arithmetic options values).2.1,
          (recordAll_fields arithmetic options values).2.2.1, and_self]
    have adding : RightCommutative arithmetic.add := ⟨commute⟩
    have squaring : RightCommutative fun sum value =>
        arithmetic.add sum (arithmetic.square value) := ⟨fun _ _ _ => commute _ _ _⟩
    rw [(totals first).1, (totals second).1, (totals first).2, (totals second).2,
      perm.foldl_eq, perm.foldl_eq]
    exact ⟨rfl, rfl⟩
  rw [← rest, ← sums.1, ← sums.2]

end SeriesSampler

end InferenceEndpoint
