import InferenceEndpoint.Metrics.FullRunOsl
import Mathlib.Tactic.NormNum

/-!
# Replaying the series

The script for early-stopping estimates reads the event log of a run and rebuilds three of
the series that the aggregator recorded.  The times come out the same.  The time per token
does not: the aggregator counts an output with reasoning by the chat template, and the
script counts its text.
-/

namespace InferenceEndpoint

open MetricsAggregator (after)

namespace SeriesReplay

/-- `_TPOT_BATCH`. -/
def tpotBatch : Nat := 4096

/-- `rows` holds the issue and the first chunk of the samples in flight, `batch` the times
and the texts that are not counted yet. -/
structure State where
  ttft : List ℚ := []
  latency : List ℚ := []
  tpot : List ℚ := []
  rows : OrderedDict QueryId (Nat × Option Nat) := ∅
  tracking : Bool := false
  toolCallSkipped : Nat := 0
  malformed : Nat := 0
  batch : List (Int × String) := []

section

variable (codec : EventLogCodec) (encode : List ToolCall → String)
  (countTokens : Option (List String → List Nat))

/-- `extract_tpot_text`. -/
def extractTpotText : Option EventData → Option String
  | some (.output result) =>
      if result.hasToolCalls then none else some (result.textAfterFirstChunk encode)
  | _ => none

/-- The time per token of each text that has a token. -/
def perToken (pair : Int × Nat) : List ℚ :=
  if 0 < pair.2 then [(pair.1 : ℚ) / pair.2] else []

def State.flush (state : State) : State :=
  match countTokens with
  | some countTokens =>
      { state with
          tpot := state.tpot ++ ((state.batch.map Prod.fst).zip
            (countTokens (state.batch.map Prod.snd))).flatMap perToken
          batch := [] }
  | none => { state with batch := [] }

def State.issued (state : State) (uuid : QueryId) (timestampNs : Nat) : State :=
  if !state.tracking then state
  else
    { state with
        rows := state.rows.insert uuid (timestampNs, (state.rows.get? uuid).bind Prod.snd) }

def State.recvFirst (state : State) (uuid : QueryId) (timestampNs : Nat) : State :=
  match state.rows.get? uuid with
  | none => state
  | some (issuedNs, _) =>
      { state with
          rows := state.rows.insert uuid (issuedNs, some timestampNs)
          ttft := state.ttft ++ [(((timestampNs : Int) - issuedNs : Int) : ℚ)] }

/-- The text of a sample that completed is put into the batch, which is counted when it is
full. -/
def State.addText (state : State) (deltaNs : Int) (data : Option EventData) : State :=
  let skipped := match extractTpotText encode data, data with
    | none, some (.output _) => { state with toolCallSkipped := state.toolCallSkipped + 1 }
    | _, _ => state
  match (extractTpotText encode data).filter (· ≠ "") with
  | none => skipped
  | some text =>
      let added := { skipped with batch := skipped.batch ++ [(deltaNs, text)] }
      if tpotBatch ≤ added.batch.length then added.flush countTokens else added

def State.complete (state : State) (uuid : QueryId) (record : EventRecord) : State :=
  match state.rows.get? uuid with
  | none => state
  | some (issuedNs, recvFirstNs) =>
      let completed :=
        { state with
            rows := state.rows.erase uuid
            latency := state.latency ++
              [(((record.timestampNs : Int) - issuedNs : Int) : ℚ)] }
      match countTokens, recvFirstNs with
      | some _, some start =>
          completed.addText encode countTokens ((record.timestampNs : Int) - start) record.data
      | _, _ => completed

/-- One record of the log. -/
def State.addRecord (state : State) (record : EventRecord) : State :=
  match record.eventType, record.sampleUuid with
  | .startPerformanceTracking, _ => { state with tracking := true }
  | .stopPerformanceTracking, _ => { state with tracking := false }
  | .issued, some uuid => state.issued uuid record.timestampNs
  | .recvFirst, some uuid => state.recvFirst uuid record.timestampNs
  | .complete, some uuid => state.complete encode countTokens uuid record
  | .issued, none | .recvFirst, none | .complete, none =>
      { state with malformed := state.malformed + 1 }
  | _, _ => state

def State.addLine (state : State) (line : Line) : State :=
  match codec.decode line with
  | none => { state with malformed := state.malformed + 1 }
  | some record => state.addRecord encode countTokens record

/-- The series that `compute_series` returns. -/
structure Series where
  ttftNs : List ℚ
  tpotNs : List ℚ
  sampleLatencyNs : List ℚ

/-- `compute_series`. -/
def computeSeries (lines : List Line) : Series :=
  let state := (lines.foldl (State.addLine codec encode countTokens) {}).flush countTokens
  { ttftNs := state.ttft, tpotNs := state.tpot, sampleLatencyNs := state.latency }

end

/-! ## Values along a log -/

/-- The values that the records of a log add, by the times in the row of their sample. -/
def valuesAlong (value : EventRecord → Option (Option Nat × Option Nat) → List ℚ) :
    List EventRecord → List EventRecord → List ℚ
  | _, [] => []
  | before, record :: rest =>
      (record.sampleUuid.elim [] fun uuid => value record ((after before).table.times uuid)) ++
        valuesAlong value (before ++ [record]) rest

theorem valuesAlong_congr
    {first second : EventRecord → Option (Option Nat × Option Nat) → List ℚ}
    {before rest : List EventRecord}
    (agree : ∀ middle record later uuid, rest = middle ++ record :: later →
      record.sampleUuid = some uuid →
        first record ((after (before ++ middle)).table.times uuid) =
          second record ((after (before ++ middle)).table.times uuid)) :
    valuesAlong first before rest = valuesAlong second before rest := by
  induction rest generalizing before with
  | nil => rfl
  | cons record rest ih =>
      have here : (record.sampleUuid.elim [] fun uuid =>
          first record ((after before).table.times uuid)) =
          record.sampleUuid.elim [] fun uuid =>
            second record ((after before).table.times uuid) := by
        cases issuer : record.sampleUuid with
        | none => rfl
        | some uuid => simpa using agree [] record rest uuid rfl issuer
      have there : valuesAlong first (before ++ [record]) rest =
          valuesAlong second (before ++ [record]) rest := by
        apply ih
        intro middle other later uuid split same
        simpa using agree (record :: middle) other later uuid (by rw [split]; rfl) same
      rw [valuesAlong, valuesAlong, here, there]

/-- What one record of the log adds. -/
theorem valuesAlong_split (value : EventRecord → Option (Option Nat × Option Nat) → List ℚ)
    (before middle later : List EventRecord) (record : EventRecord) {uuid : QueryId}
    (issuer : record.sampleUuid = some uuid) :
    ∃ left right, valuesAlong value before (middle ++ record :: later) =
      left ++ value record ((after (before ++ middle)).table.times uuid) ++ right := by
  induction middle generalizing before with
  | nil =>
      refine ⟨[], valuesAlong value (before ++ [record]) later, ?_⟩
      simp [valuesAlong, issuer]
  | cons head middle ih =>
      obtain ⟨left, right, equal⟩ := ih (before ++ [head])
      refine ⟨(head.sampleUuid.elim [] fun uuid =>
        value head ((after before).table.times uuid)) ++ left, right, ?_⟩
      rw [List.cons_append, valuesAlong, equal]
      simp

theorem values_eq_valuesAlong (options : TriggerOptions) (tokenizer : Tokenizer)
    {key : MetricSeriesKey} (notIsl : key ≠ .isl) (notChunk : key ≠ .chunkDeltaNs)
    {before rest : List EventRecord}
    (noEnd : ∀ middle record later, rest = middle ++ record :: later →
      ∀ earlier ∈ before ++ middle, earlier.eventType ≠ .ended) :
    Firing.values tokenizer key (options.allFirings (after before) rest) =
      valuesAlong (options.sampleValues tokenizer key) before rest := by
  induction rest generalizing before with
  | nil => rfl
  | cons record rest ih =>
      have running := MetricsAggregator.running_of_not_ended
        (by simpa using noEnd [] record rest rfl)
      have here := options.values_firings tokenizer running record notIsl notChunk
      rw [TriggerOptions.allFirings, Firing.values_append, here, valuesAlong,
        ← MetricsAggregator.after_concat, ih]
      intro middle other later split
      simpa using noEnd (record :: middle) other later (by rw [split]; rfl)

/-! ## The script follows the aggregator -/

/-- Counting a batch of texts. -/
def countTexts (tokenizer : Tokenizer) : Option (List String → List Nat) :=
  some (List.map tokenizer.encodeLength)

/-- What a sample that completes adds to the script's time per token. -/
def textValues (encode : List ToolCall → String) (tokenizer : Tokenizer) (record : EventRecord)
    (times : Option (Option Nat × Option Nat)) : List ℚ :=
  match times, record.eventType with
  | some (_, some start), .complete =>
      ((extractTpotText encode record.data).filter (· ≠ "")).toList.flatMap fun text =>
        perToken ((record.timestampNs : Int) - start, tokenizer.encodeLength text)
  | _, _ => []

/-- The times per token once the batch is counted. -/
def State.allTpot (tokenizer : Tokenizer) (state : State) : List ℚ :=
  state.tpot ++ state.batch.flatMap fun pair =>
    perToken (pair.1, tokenizer.encodeLength pair.2)

theorem flush_tpot (tokenizer : Tokenizer) (state : State) :
    (state.flush (countTexts tokenizer)).tpot = state.allTpot tokenizer := by
  have paired : (state.batch.map Prod.fst).zip
      ((state.batch.map Prod.snd).map tokenizer.encodeLength) =
        state.batch.map fun pair => (pair.1, tokenizer.encodeLength pair.2) := by
    rw [List.map_map]
    exact List.zip_map'
  simp only [State.flush, countTexts, State.allTpot, paired, List.flatMap_map]

theorem flush_allTpot (tokenizer : Tokenizer) (state : State) :
    (state.flush (countTexts tokenizer)).allTpot tokenizer = state.allTpot tokenizer := by
  have counted := flush_tpot tokenizer state
  unfold State.allTpot at counted ⊢
  rw [counted]
  simp [State.flush, countTexts]

theorem flush_same (tokenizer : Tokenizer) (state : State) :
    (state.flush (countTexts tokenizer)).rows = state.rows ∧
      (state.flush (countTexts tokenizer)).tracking = state.tracking ∧
      (state.flush (countTexts tokenizer)).ttft = state.ttft ∧
      (state.flush (countTexts tokenizer)).latency = state.latency :=
  ⟨rfl, rfl, rfl, rfl⟩

theorem addText_same (encode : List ToolCall → String) (tokenizer : Tokenizer) (state : State)
    (deltaNs : Int) (data : Option EventData) :
    let added := state.addText encode (countTexts tokenizer) deltaNs data
    added.rows = state.rows ∧ added.tracking = state.tracking ∧ added.ttft = state.ttft ∧
      added.latency = state.latency ∧
      added.allTpot tokenizer = state.allTpot tokenizer ++
        ((extractTpotText encode data).filter (· ≠ "")).toList.flatMap fun text =>
          perToken (deltaNs, tokenizer.encodeLength text) := by
  dsimp only [State.addText]
  generalize skippedEq : (match extractTpotText encode data, data with
    | none, some (.output _) => { state with toolCallSkipped := state.toolCallSkipped + 1 }
    | _, _ => state) = skipped
  have same : skipped.rows = state.rows ∧ skipped.tracking = state.tracking ∧
      skipped.ttft = state.ttft ∧ skipped.latency = state.latency ∧
        skipped.tpot = state.tpot ∧ skipped.batch = state.batch := by
    rw [← skippedEq]
    split <;> exact ⟨rfl, rfl, rfl, rfl, rfl, rfl⟩
  obtain ⟨rows, tracking, ttft, latency, tpot, batch⟩ := same
  cases (extractTpotText encode data).filter (· ≠ "") with
  | none =>
      refine ⟨rows, tracking, ttft, latency, ?_⟩
      simp [State.allTpot, tpot, batch]
  | some text =>
      dsimp only
      split
      · refine ⟨rows, tracking, ttft, latency, ?_⟩
        rw [flush_allTpot]
        simp [State.allTpot, tpot, batch]
      · refine ⟨rows, tracking, ttft, latency, ?_⟩
        simp [State.allTpot, tpot, batch]

/-- The script knows of the rows and of the tracking what the aggregator does. -/
structure Follows (before : List EventRecord) (state : State) : Prop where
  tracking : state.tracking = isTrackingAfter before
  rows : ∀ uuid, (after before).table.times uuid =
    (state.rows.get? uuid).map fun row => (some row.1, row.2)

theorem Follows.initial : Follows [] {} where
  tracking := rfl
  rows _ := rfl

/-- What the script has after one more record. -/
structure Adds (options : TriggerOptions) (tokenizer : Tokenizer) (before : List EventRecord)
    (record : EventRecord) (state next : State) : Prop where
  follows : Follows (before ++ [record]) next
  ttft : next.ttft = state.ttft ++ record.sampleUuid.elim [] fun uuid =>
    options.sampleValues tokenizer .ttftNs record ((after before).table.times uuid)
  latency : next.latency = state.latency ++ record.sampleUuid.elim [] fun uuid =>
    options.sampleValues tokenizer .sampleLatencyNs record ((after before).table.times uuid)
  tpot : next.allTpot tokenizer = state.allTpot tokenizer ++ record.sampleUuid.elim [] fun uuid =>
    textValues options.encodeToolCalls tokenizer record ((after before).table.times uuid)

variable {options : TriggerOptions} {tokenizer : Tokenizer} {before : List EventRecord}
  {state : State}

/-- A record that is no event of a sample. -/
theorem Adds.session (follows : Follows before state)
    (noEnd : ∀ earlier ∈ before, earlier.eventType ≠ .ended) {record : EventRecord}
    {next : State} (tracking : next.tracking = isTrackingAfter (before ++ [record]))
    (rows : next.rows = state.rows) (ttft : next.ttft = state.ttft)
    (latency : next.latency = state.latency) (tpot : next.tpot = state.tpot)
    (batch : next.batch = state.batch)
    (other : record.sampleUuid = none ∨
      record.eventType ≠ .issued ∧ record.eventType ≠ .recvFirst ∧
        record.eventType ≠ .complete) :
    Adds options tokenizer before record state next := by
  have noValues : ∀ key, (record.sampleUuid.elim [] fun uuid =>
      options.sampleValues tokenizer key record ((after before).table.times uuid)) = [] := by
    intro key
    cases issuer : record.sampleUuid with
    | none => rfl
    | some uuid =>
        rcases other with none | ⟨-, notFirst, notComplete⟩
        · simp [none] at issuer
        · simp only [Option.elim_some, TriggerOptions.sampleValues]
          cases (after before).table.times uuid <;> cases type : record.eventType <;> simp_all
  have noText : (record.sampleUuid.elim [] fun uuid =>
      textValues options.encodeToolCalls tokenizer record
        ((after before).table.times uuid)) = [] := by
    cases issuer : record.sampleUuid with
    | none => rfl
    | some uuid =>
        rcases other with none | ⟨-, -, notComplete⟩
        · simp [none] at issuer
        · simp only [Option.elim_some, textValues]
          split
          · contradiction
          · rfl
  refine ⟨⟨tracking, ?_⟩, ?_, ?_, ?_⟩
  · intro uuid
    rw [MetricsAggregator.times_concat noEnd, rows, ← follows.rows]
    split
    · rename_i same
      rcases other with none | ⟨notIssued, notFirst, notComplete⟩
      · simp [none] at same
      · unfold MetricsTable.nextTimes
        cases type : record.eventType <;> simp_all
    · rfl
  · rw [ttft, noValues, List.append_nil]
  · rw [latency, noValues, List.append_nil]
  · rw [State.allTpot, State.allTpot, tpot, batch, noText, List.append_nil]

theorem Adds.issued (follows : Follows before state)
    (noEnd : ∀ earlier ∈ before, earlier.eventType ≠ .ended) {record : EventRecord}
    {uuid : QueryId} (type : record.eventType = .issued) (issuer : record.sampleUuid = some uuid) :
    Adds options tokenizer before record state (state.issued uuid record.timestampNs) := by
  have tracking : isTrackingAfter (before ++ [record]) = isTrackingAfter before := by
    rw [isTrackingAfter_concat, type]
  have noValues : ∀ key times, options.sampleValues tokenizer key record times = [] := by
    intro key times
    simp only [TriggerOptions.sampleValues, type]
  have noText : ∀ times, textValues options.encodeToolCalls tokenizer record times = [] := by
    intro times
    simp only [textValues, type]
  unfold State.issued
  cases on : state.tracking with
  | false =>
      have off : isTrackingAfter before = false := follows.tracking ▸ on
      refine ⟨⟨?_, ?_⟩, ?_, ?_, ?_⟩
      · simp [tracking, off, on]
      · intro other
        rw [MetricsAggregator.times_concat noEnd]
        split
        · simp [MetricsTable.nextTimes, type, off, follows.rows]
        · simp [follows.rows]
      · simp [issuer, noValues]
      · simp [issuer, noValues]
      · simp [issuer, noText]
  | true =>
      have isOn : isTrackingAfter before = true := follows.tracking ▸ on
      refine ⟨⟨?_, ?_⟩, ?_, ?_, ?_⟩
      · simp [tracking, isOn]
      · intro other
        rw [MetricsAggregator.times_concat noEnd]
        by_cases same : uuid = other
        · subst same
          simp only [issuer, if_true, MetricsTable.nextTimes, type, isOn, follows.rows,
            Bool.not_true, Bool.false_eq_true, if_false, OrderedDict.get?_insert_self]
          cases state.rows.get? uuid <;> rfl
        · simp [issuer, same, follows.rows, OrderedDict.get?_insert_of_ne _ _ (Ne.symm same)]
      · simp [issuer, noValues]
      · simp [issuer, noValues]
      · simp [issuer, noText, State.allTpot]

theorem Adds.recvFirst (streaming : options.streaming = true) (follows : Follows before state)
    (noEnd : ∀ earlier ∈ before, earlier.eventType ≠ .ended) {record : EventRecord}
    {uuid : QueryId} (type : record.eventType = .recvFirst)
    (issuer : record.sampleUuid = some uuid) :
    Adds options tokenizer before record state (state.recvFirst uuid record.timestampNs) := by
  have tracking : isTrackingAfter (before ++ [record]) = isTrackingAfter before := by
    rw [isTrackingAfter_concat, type]
  have noText : ∀ times, textValues options.encodeToolCalls tokenizer record times = [] := by
    intro times
    simp only [textValues, type]
  have times := follows.rows uuid
  unfold State.recvFirst
  cases found : state.rows.get? uuid with
  | none =>
      rw [found, Option.map_none] at times
      refine ⟨⟨?_, ?_⟩, ?_, ?_, ?_⟩
      · rw [tracking, follows.tracking]
      · intro other
        rw [MetricsAggregator.times_concat noEnd]
        by_cases same : uuid = other
        · subst same
          simp [issuer, MetricsTable.nextTimes, type, times, found]
        · simp [issuer, same, follows.rows]
      · simp [issuer, times, TriggerOptions.sampleValues]
      · simp [issuer, times, TriggerOptions.sampleValues]
      · simp [issuer, noText]
  | some row =>
      obtain ⟨issuedNs, recvFirstNs⟩ := row
      rw [found, Option.map_some] at times
      refine ⟨⟨?_, ?_⟩, ?_, ?_, ?_⟩
      · rw [tracking, ← follows.tracking]
      · intro other
        rw [MetricsAggregator.times_concat noEnd]
        by_cases same : uuid = other
        · subst same
          simp [issuer, MetricsTable.nextTimes, type, times]
        · simp [issuer, same, follows.rows, OrderedDict.get?_insert_of_ne _ _ (Ne.symm same)]
      · simp [issuer, times, TriggerOptions.sampleValues, type, streaming]
      · simp [issuer, times, TriggerOptions.sampleValues, type]
      · simp [issuer, noText, State.allTpot]

theorem Adds.complete (follows : Follows before state)
    (noEnd : ∀ earlier ∈ before, earlier.eventType ≠ .ended) {record : EventRecord}
    {uuid : QueryId} (type : record.eventType = .complete)
    (issuer : record.sampleUuid = some uuid) :
    Adds options tokenizer before record state
      (state.complete options.encodeToolCalls (countTexts tokenizer) uuid record) := by
  have tracking : isTrackingAfter (before ++ [record]) = isTrackingAfter before := by
    rw [isTrackingAfter_concat, type]
  have times := follows.rows uuid
  unfold State.complete
  cases found : state.rows.get? uuid with
  | none =>
      rw [found, Option.map_none] at times
      refine ⟨⟨?_, ?_⟩, ?_, ?_, ?_⟩
      · rw [tracking, follows.tracking]
      · intro other
        rw [MetricsAggregator.times_concat noEnd]
        by_cases same : uuid = other
        · subst same
          simp [issuer, MetricsTable.nextTimes, type, found]
        · simp [issuer, same, follows.rows]
      · simp [issuer, times, TriggerOptions.sampleValues]
      · simp [issuer, times, TriggerOptions.sampleValues]
      · simp [issuer, times, textValues]
  | some row =>
      obtain ⟨issuedNs, recvFirstNs⟩ := row
      rw [found, Option.map_some] at times
      have erased : ∀ other, (if record.sampleUuid = some other then
          MetricsTable.nextTimes (isTrackingAfter before) record
            ((after before).table.times other)
          else (after before).table.times other) =
            ((state.rows.erase uuid).get? other).map fun row => (some row.1, row.2) := by
        intro other
        by_cases same : uuid = other
        · subst same
          simp [issuer, MetricsTable.nextTimes, type]
        · simp [issuer, same, follows.rows, OrderedDict.get?_erase_of_ne _ (Ne.symm same)]
      cases recvFirstNs with
      | none =>
          refine ⟨⟨?_, ?_⟩, ?_, ?_, ?_⟩
          · rw [tracking, ← follows.tracking]
            rfl
          · intro other
            rw [MetricsAggregator.times_concat noEnd]
            exact erased other
          · simp [issuer, times, TriggerOptions.sampleValues, type, countTexts]
          · simp [issuer, times, TriggerOptions.sampleValues, type, countTexts]
          · simp [issuer, times, textValues, countTexts, State.allTpot]
      | some start =>
          obtain ⟨rows, sameTracking, ttft, latency, tpot⟩ := addText_same
            options.encodeToolCalls tokenizer
            { state with
                rows := state.rows.erase uuid
                latency := state.latency ++
                  [(((record.timestampNs : Int) - issuedNs : Int) : ℚ)] }
            ((record.timestampNs : Int) - start) record.data
          refine ⟨⟨?_, ?_⟩, ?_, ?_, ?_⟩
          · rw [tracking, ← follows.tracking]
            exact sameTracking
          · intro other
            rw [MetricsAggregator.times_concat noEnd, erased other]
            exact congrArg _ (congrArg (OrderedDict.get? · other) rows.symm)
          · refine Eq.trans ttft ?_
            simp [issuer, times, TriggerOptions.sampleValues, type]
          · refine Eq.trans latency ?_
            simp [issuer, times, TriggerOptions.sampleValues, type]
          · refine Eq.trans tpot ?_
            simp [issuer, times, textValues, type, State.allTpot]

theorem Adds.addRecord (streaming : options.streaming = true) (follows : Follows before state)
    (noEnd : ∀ earlier ∈ before, earlier.eventType ≠ .ended) (record : EventRecord) :
    Adds options tokenizer before record state
      (state.addRecord options.encodeToolCalls (countTexts tokenizer) record) := by
  have tracking := isTrackingAfter_concat before record
  have same := follows.tracking
  unfold State.addRecord
  cases type : record.eventType <;> rw [type] at tracking
  case issued =>
    cases issuer : record.sampleUuid with
    | none =>
        exact .session follows noEnd (same.trans tracking.symm) rfl rfl rfl rfl rfl (.inl issuer)
    | some uuid => exact .issued follows noEnd type issuer
  case recvFirst =>
    cases issuer : record.sampleUuid with
    | none =>
        exact .session follows noEnd (same.trans tracking.symm) rfl rfl rfl rfl rfl (.inl issuer)
    | some uuid => exact .recvFirst streaming follows noEnd type issuer
  case complete =>
    cases issuer : record.sampleUuid with
    | none =>
        exact .session follows noEnd (same.trans tracking.symm) rfl rfl rfl rfl rfl (.inl issuer)
    | some uuid => exact .complete follows noEnd type issuer
  case startPerformanceTracking =>
    exact .session follows noEnd tracking.symm rfl rfl rfl rfl rfl (.inr (by simp [type]))
  case stopPerformanceTracking =>
    exact .session follows noEnd tracking.symm rfl rfl rfl rfl rfl (.inr (by simp [type]))
  all_goals
    exact .session follows noEnd (same.trans tracking.symm) rfl rfl rfl rfl rfl
      (.inr (by simp [type]))

/-- What the script has after all records. -/
theorem foldl_addRecord (streaming : options.streaming = true) {rest : List EventRecord}
    (follows : Follows before state)
    (noEnd : ∀ middle record later, rest = middle ++ record :: later →
      ∀ earlier ∈ before ++ middle, earlier.eventType ≠ .ended) :
    let last := rest.foldl
      (State.addRecord options.encodeToolCalls (countTexts tokenizer)) state
    last.ttft = state.ttft ++
        valuesAlong (options.sampleValues tokenizer .ttftNs) before rest ∧
      last.latency = state.latency ++
        valuesAlong (options.sampleValues tokenizer .sampleLatencyNs) before rest ∧
      last.allTpot tokenizer = state.allTpot tokenizer ++
        valuesAlong (textValues options.encodeToolCalls tokenizer) before rest := by
  induction rest generalizing before state with
  | nil => simp [valuesAlong]
  | cons record rest ih =>
      have adds : Adds options tokenizer before record state _ :=
        .addRecord streaming follows (by simpa using noEnd [] record rest rfl) record
      obtain ⟨ttft, latency, tpot⟩ := ih adds.follows fun middle other later split => by
        simpa using noEnd (record :: middle) other later (by rw [split]; rfl)
      dsimp only
      rw [List.foldl_cons, ttft, latency, tpot, adds.ttft, adds.latency, adds.tpot]
      simp [valuesAlong]

theorem foldl_addLine {codec : EventLogCodec} {log : List EventRecord}
    (keeps : codec.Keeps log) (encode : List ToolCall → String)
    (countTokens : Option (List String → List Nat)) (state : State) :
    (log.map codec.encode).foldl (State.addLine codec encode countTokens) state =
      log.foldl (State.addRecord encode countTokens) state := by
  induction log generalizing state with
  | nil => rfl
  | cons record log ih =>
      have read : state.addLine codec encode countTokens (codec.encode record) =
          state.addRecord encode countTokens record := by
        unfold State.addLine
        rw [(keeps record List.mem_cons_self).2]
      rw [List.map_cons, List.foldl_cons, List.foldl_cons, read,
        ih fun other member => keeps other (List.mem_cons_of_mem _ member)]

/-- The series of the script. -/
theorem computeSeries_eq (streaming : options.streaming = true) {codec : EventLogCodec}
    {records : List EventRecord} (keeps : codec.Keeps (loggedRecords records)) :
    computeSeries codec options.encodeToolCalls (countTexts tokenizer)
        ((loggedRecords records).map codec.encode) =
      { ttftNs := valuesAlong (options.sampleValues tokenizer .ttftNs) [] (loggedRecords records)
        tpotNs := valuesAlong (textValues options.encodeToolCalls tokenizer) []
          (loggedRecords records)
        sampleLatencyNs := valuesAlong (options.sampleValues tokenizer .sampleLatencyNs) []
          (loggedRecords records) } := by
  have noEnd : ∀ (middle : List EventRecord) (record : EventRecord) (later : List EventRecord),
      loggedRecords records = middle ++ record :: later →
        ∀ earlier ∈ [] ++ middle, EventRecord.eventType earlier ≠ .ended :=
    fun middle record later split => before_ended split
  obtain ⟨ttft, latency, tpot⟩ := @foldl_addRecord options tokenizer [] {} streaming
    (loggedRecords records) Follows.initial noEnd
  unfold computeSeries
  rw [foldl_addLine keeps]
  simp only [flush_tpot, (flush_same tokenizer _).2.2.1, (flush_same tokenizer _).2.2.2]
  rw [ttft, latency, tpot]
  rfl

/-- The series of the aggregator. -/
theorem seriesOf_perm {records : List EventRecord} {aggregator : SeriesAggregator} {shards : Nat}
    (finished : aggregator.Finished tokenizer shards options records) {key : MetricSeriesKey}
    (notIsl : key ≠ .isl) (notChunk : key ≠ .chunkDeltaNs) :
    (aggregator.seriesOf key).Perm
      (valuesAlong (options.sampleValues tokenizer key) [] (loggedRecords records)) := by
  refine (finished.seriesOf key).trans (.of_eq ?_)
  rw [← MetricsAggregator.allFirings_logged]
  have noEnd : ∀ (middle : List EventRecord) (record : EventRecord) (later : List EventRecord),
      loggedRecords records = middle ++ record :: later →
        ∀ earlier ∈ [] ++ middle, EventRecord.eventType earlier ≠ .ended :=
    fun middle record later split => before_ended split
  exact values_eq_valuesAlong options tokenizer notIsl notChunk noEnd

/-! ## When the replay agrees -/

/-- Whatever the tokenizer and the flushes are, once nothing is pending the script finds the
series that the aggregator recorded. -/
def Agrees (options : TriggerOptions) (codec : EventLogCodec) (records : List EventRecord) :
    Prop :=
  ∀ (tokenizer : Tokenizer) (shards : Nat) (aggregator : SeriesAggregator),
    aggregator.Finished tokenizer shards options records →
      let series := computeSeries codec options.encodeToolCalls (countTexts tokenizer)
        ((loggedRecords records).map codec.encode)
      (aggregator.seriesOf .ttftNs).Perm series.ttftNs ∧
        (aggregator.seriesOf .tpotNs).Perm series.tpotNs ∧
        (aggregator.seriesOf .sampleLatencyNs).Perm series.sampleLatencyNs

/-- No sample that is tracked and has received its first chunk completes with reasoning. -/
def NoReasoning (log : List EventRecord) : Prop :=
  ∀ before record later uuid issuedNs start result, log = before ++ record :: later →
    record.eventType = .complete → record.sampleUuid = some uuid →
      (after before).table.times uuid = some (issuedNs, some start) →
        record.data = some (.output result) → result.hasReasoning = false

theorem textValues_eq_sampleValues (streaming : options.streaming = true) {record : EventRecord}
    {times : Option (Option Nat × Option Nat)}
    (plain : ∀ issuedNs start result, times = some (issuedNs, some start) →
      record.eventType = .complete → record.data = some (.output result) →
        result.hasReasoning = false ∧ result.hasToolCalls = false) :
    textValues options.encodeToolCalls tokenizer record times =
      options.sampleValues tokenizer .tpotNs record times := by
  rcases times with _ | ⟨issuedNs, _ | start⟩
  · simp [textValues, TriggerOptions.sampleValues]
  · simp only [textValues, TriggerOptions.sampleValues]
    cases record.eventType <;> simp
  · by_cases completes : record.eventType = .complete
    · simp only [textValues, TriggerOptions.sampleValues, completes, streaming, if_true,
        Option.toList_some]
      cases data : record.data with
      | none => simp [extractTpotText, TriggerOptions.tpotInput, data]
      | some payload =>
          cases payload with
          | prompt prompt => simp [extractTpotText, TriggerOptions.tpotInput, data]
          | error error => simp [extractTpotText, TriggerOptions.tpotInput, data]
          | phase phase => simp [extractTpotText, TriggerOptions.tpotInput, data]
          | output result =>
              obtain ⟨noReasoning, noToolCalls⟩ := plain issuedNs start result rfl completes data
              simp only [extractTpotText, TriggerOptions.tpotInput, data, noReasoning, noToolCalls,
                Bool.or_false, Bool.false_eq_true, if_false]
              by_cases empty : result.textAfterFirstChunk options.encodeToolCalls = ""
              · simp [empty]
              · simp only [empty, ne_eq, not_false_eq_true, if_true, Option.toList_some,
                  List.flatMap_cons, List.flatMap_nil, List.append_nil, Option.filter_some,
                  decide_true, perToken, Firing.perToken, Tokenizer.countSync]
                by_cases zero : tokenizer.encodeLength
                    (result.textAfterFirstChunk options.encodeToolCalls) = 0
                · simp [zero]
                · simp [zero, Nat.pos_of_ne_zero zero]
    · have noText : textValues options.encodeToolCalls tokenizer record
          (some (issuedNs, some start)) = [] := by
        cases type : record.eventType <;> simp_all [textValues]
      have noSample : options.sampleValues tokenizer .tpotNs record
          (some (issuedNs, some start)) = [] := by
        cases type : record.eventType <;> simp_all [TriggerOptions.sampleValues]
      rw [noText, noSample]

/-- For this tokenizer texts have no tokens and messages have one. -/
def messageTokenizer : Tokenizer where
  encodeLength _ := 0
  tokenizeLength _ := 0
  templateLength message := message.map fun _ => 1
  promptLength _ := 0
  encodeToolCalls _ := ""

theorem valuesAlong_nil {value : EventRecord → Option (Option Nat × Option Nat) → List ℚ}
    (nothing : ∀ record times, value record times = []) (before rest : List EventRecord) :
    valuesAlong value before rest = [] := by
  induction rest generalizing before with
  | nil => rfl
  | cons record rest ih =>
      rw [valuesAlong, ih]
      cases record.sampleUuid <;> simp [nothing]

/-- The script rebuilds the series of a streaming run without tool calls, for every tokenizer,
exactly if no tracked sample with a first chunk completes with reasoning. -/
theorem agrees_iff {codec : EventLogCodec} {records : List EventRecord}
    (streaming : options.streaming = true) (keeps : codec.Keeps (loggedRecords records))
    (noToolCalls : ∀ record ∈ loggedRecords records, ∀ result,
      record.data = some (.output result) → result.hasToolCalls = false) :
    Agrees options codec records ↔ NoReasoning (loggedRecords records) := by
  constructor
  · intro agrees before record later uuid issuedNs start result split completes issuer times data
    by_contra reasoning
    rw [Bool.not_eq_false] at reasoning
    obtain ⟨aggregator, finished⟩ :=
      @SeriesAggregator.exists_finished messageTokenizer 0 options records
    have tpot := (agrees messageTokenizer 0 aggregator finished).2.1
    rw [computeSeries_eq streaming keeps] at tpot
    have noText : valuesAlong (textValues options.encodeToolCalls messageTokenizer) []
        (loggedRecords records) = [] := by
      apply valuesAlong_nil
      intro record times
      unfold textValues
      split
      · simp [perToken, messageTokenizer]
      · rfl
    have recorded :=
      (@seriesOf_perm _ _ _ _ _ finished .tpotNs (by decide) (by decide)).symm.trans tpot
    rw [noText] at recorded
    obtain ⟨left, right, values⟩ := valuesAlong_split
      (options.sampleValues messageTokenizer .tpotNs) [] before later record issuer
    rw [split, values, List.nil_append, times] at recorded
    have one : options.sampleValues messageTokenizer .tpotNs record
        (some (issuedNs, some start)) ≠ [] := by
      simp [TriggerOptions.sampleValues, completes, streaming, TriggerOptions.tpotInput, data,
        reasoning, Firing.perToken, Tokenizer.countSync, Tokenizer.tokenCountMessage,
        messageTokenizer, Tokenizer.frame]
    have empty := recorded.eq_nil
    simp only [List.append_eq_nil_iff] at empty
    exact one empty.1.2
  · intro noReasoning tokenizer shards aggregator finished
    rw [computeSeries_eq streaming keeps]
    refine ⟨seriesOf_perm finished (by decide) (by decide), ?_,
      seriesOf_perm finished (by decide) (by decide)⟩
    refine (seriesOf_perm finished (by decide) (by decide)).trans (.of_eq ?_)
    apply valuesAlong_congr
    intro middle record later uuid split issuer
    apply (textValues_eq_sampleValues streaming ?_).symm
    intro issuedNs start result times completes data
    have member : record ∈ loggedRecords records := by simp [split]
    exact ⟨noReasoning middle record later uuid issuedNs start result split completes issuer times
      data, noToolCalls record member result data⟩

/-! ## A log with reasoning and one without -/

/-- An output element in JSON, for texts without special characters. -/
def elementText : OutputElem → String
  | .whole text => "\"" ++ text ++ "\""
  | .chunks parts => "[" ++ String.intercalate "," (parts.map fun part => "\"" ++ part ++ "\"") ++ "]"

def outputLine (record : EventRecord) : Line :=
  let data := match record.data with
    | some (.output result) =>
        "[\"TextModelOutput\"," ++ elementText result.output ++
          result.reasoning.elim "" (fun reasoning => "," ++ elementText reasoning) ++ "]"
    | _ => "null"
  EventLogCodec.lineStart record.eventType ++ asciiBytes (
    ",\"timestamp_ns\":" ++ toString record.timestampNs ++
    ",\"sample_uuid\":\"" ++ record.sampleUuid.elim "" toString ++
    "\",\"conversation_id\":\"\",\"turn\":null,\"data\":" ++ data ++ "\x7d")

/-- The codec on the lines of one log. -/
def outputCodec (log : List EventRecord) : EventLogCodec where
  encode := outputLine
  decode line := log.find? fun record => outputLine record = line

theorem outputCodec_keeps {log : List EventRecord} (distinct : (log.map outputLine).Nodup) :
    (outputCodec log).Keeps log := by
  intro record member
  refine ⟨List.prefix_append _ _, ?_⟩
  cases found : (outputCodec log).decode ((outputCodec log).encode record) with
  | none =>
      have missing := List.find?_eq_none.mp found record member
      simp [outputCodec] at missing
  | some other =>
      have same : outputLine other = outputLine record := by
        have test := List.find?_some found
        exact of_decide_eq_true test
      rw [List.inj_on_of_nodup_map distinct (List.mem_of_find?_eq_some found) member same]

/-- A streaming run of one sample with this output. -/
def oneOutput (result : TextModelOutput) : List EventRecord :=
  [{ eventType := .startPerformanceTracking, timestampNs := 0 },
    { eventType := .issued, timestampNs := 1, sampleUuid := some 7 },
    { eventType := .recvFirst, timestampNs := 3, sampleUuid := some 7 },
    { eventType := .complete, timestampNs := 9, sampleUuid := some 7
      data := some (.output result) },
    { eventType := .ended, timestampNs := 10 }]

def plainRun : List EventRecord :=
  oneOutput { output := .chunks ["a", "bc"] }

def reasoningRun : List EventRecord :=
  oneOutput { output := .chunks ["ab"], reasoning := some (.chunks ["x", "yz"]) }

theorem agrees_iff_plainRun :
    Agrees plainOptions (outputCodec plainRun) plainRun ↔
      NoReasoning (loggedRecords plainRun) := by
  apply agrees_iff
  · rfl
  · exact outputCodec_keeps (by decide)
  · intro record member result data
    have cases : record ∈ plainRun := member
    simp only [plainRun, oneOutput, List.mem_cons, List.not_mem_nil, or_false] at cases
    rcases cases with rfl | rfl | rfl | rfl | rfl
    · simp at data
    · simp at data
    · simp at data
    · obtain rfl : _ = result := by simpa using data
      rfl
    · simp at data

/-- The aggregator counts nineteen tokens of the output with its template, and the script
counts four. -/
theorem reasoningRun_disagrees :
    ¬ Agrees plainOptions (outputCodec reasoningRun) reasoningRun := by
  intro agrees
  obtain ⟨aggregator, finished⟩ :=
    @SeriesAggregator.exists_finished charTokenizer 0 plainOptions reasoningRun
  have tpot := (agrees charTokenizer 0 aggregator finished).2.1
  have keeps : (outputCodec reasoningRun).Keeps (loggedRecords reasoningRun) :=
    outputCodec_keeps (by decide)
  rw [computeSeries_eq rfl keeps] at tpot
  have recorded :=
    (@seriesOf_perm _ _ _ _ _ finished .tpotNs (by decide) (by decide)).symm.trans tpot
  have counted : valuesAlong (plainOptions.sampleValues charTokenizer .tpotNs) []
      (loggedRecords reasoningRun) = [((6 : Int) : ℚ) / (19 : Nat)] := by
    rfl
  have read : valuesAlong (textValues plainOptions.encodeToolCalls charTokenizer) []
      (loggedRecords reasoningRun) = [((6 : Int) : ℚ) / (4 : Nat)] := by
    rfl
  rw [counted, read, List.singleton_perm_singleton] at recorded
  norm_num at recorded

end SeriesReplay

end InferenceEndpoint
