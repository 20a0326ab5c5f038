import InferenceEndpoint.Metrics.FullRunOsl
import InferenceEndpoint.Metrics.SeriesSampler

/-!
# Final series of a run

The aggregator records token counts when a flush of its queue returns them, so the order of a
series is that of the flushes.  The final statistics are nevertheless those of the events.
-/

namespace InferenceEndpoint

namespace SeriesAggregator

/-- What a log stands for in a series, in the order of its events. -/
def loggedSeries (tokenizer : Tokenizer) (options : TriggerOptions) (records : List EventRecord)
    (key : MetricSeriesKey) : List ℚ :=
  (((options.allFirings {} records).flatMap (Firing.recordings tokenizer)).filter
    fun recorded => recorded.1 = key).map Prod.snd

variable {Real : Type} [LinearOrder Real] (arithmetic : SeriesArithmetic ℚ Real)
  (hdr : HdrHistogram Real) (seriesOptions : SeriesOptions) {tokenizer : Tokenizer} {shards : Nat}
  {options : TriggerOptions} {records : List EventRecord} {state : SeriesAggregator}

/-- Rational token counts. -/
def rationalCounts : SeriesArithmetic ℚ ℚ where
  format := SeriesSampler.rationalFormat
  percentile := .exact
  zero := 0
  add := (· + ·)
  square value := value * value
  ofInt := Int.cast
  truncate := Int.floor
  toReal := id
  toReal_mono ordered := ordered
  truncate_bounds {low high value} above below :=
    ⟨Int.le_floor.mpr above, Int.cast_le.mp ((Int.floor_le value).trans below)⟩

end SeriesAggregator

end InferenceEndpoint
