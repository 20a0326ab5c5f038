import InferenceEndpoint.Metrics.SeriesRecording
import Mathlib.Data.List.Infix

/-!
# The event log

`EventLoggerService` writes each record as a line of JSON and stops after ENDED, as the
aggregator does.  What later reads the log depends on the lines; what the aggregator did
with a record depends on the times in the row of its sample, which the log determines.
-/

namespace InferenceEndpoint

/-- `EventType.topic`. -/
def EventType.topic : EventType → String
  | .started => "session.started"
  | .ended => "session.ended"
  | .interrupted => "session.interrupted"
  | .stopLoadgen => "session.stop_loadgen"
  | .phaseStart => "session.phase_start"
  | .startPerformanceTracking => "session.start_performance_tracking"
  | .stopPerformanceTracking => "session.stop_performance_tracking"
  | .errorGeneric => "error.generic"
  | .errorLoadgen => "error.loadgen"
  | .errorSession => "error.session"
  | .errorClient => "error.client"
  | .issued => "sample.issued"
  | .complete => "sample.complete"
  | .recvFirst => "sample.recv_first"
  | .recvNonFirst => "sample.recv_non_first"

/-! ## Lines -/

abbrev Line := List UInt8

def asciiBytes (text : String) : Line :=
  text.toList.map fun char => char.toNat.toUInt8

/-- The JSON codec of the log. -/
structure EventLogCodec where
  encode : EventRecord → Line
  decode : Line → Option EventRecord

namespace EventLogCodec

/-- The start of a line: the event type is the first field of a record. -/
def lineStart (eventType : EventType) : Line :=
  asciiBytes ("\x7b\"event_type\":\"" ++ eventType.topic ++ "\"")

/-- The codec writes the fields of these records in order and reads the records back. -/
def Keeps (codec : EventLogCodec) (log : List EventRecord) : Prop :=
  ∀ record ∈ log, lineStart record.eventType <+: codec.encode record ∧
    codec.decode (codec.encode record) = some record

end EventLogCodec

/-- The records that `EventLoggerService.process` writes. -/
def loggedRecords : List EventRecord → List EventRecord
  | [] => []
  | record :: records =>
      if record.eventType = .ended then [record] else record :: loggedRecords records

/-- ENDED is written last. -/
theorem before_ended {records before after : List EventRecord} {record : EventRecord}
    (split : loggedRecords records = before ++ record :: after) :
    ∀ earlier ∈ before, earlier.eventType ≠ .ended := by
  induction records generalizing before with
  | nil => simp [loggedRecords] at split
  | cons first records ih =>
      unfold loggedRecords at split
      split at split
      · cases before with
        | nil => simp
        | cons head tail => simp at split
      · rename_i notEnded
        cases before with
        | nil => simp
        | cons head tail =>
            obtain ⟨rfl, rest⟩ := List.cons.inj split
            rintro earlier (_ | ⟨_, member⟩)
            · exact notEnded
            · exact ih rest earlier member

/-! ## What a record does to the table -/

namespace MetricsTable

/-- The table after a sample event. -/
def sampleEvent (table : MetricsTable) (record : EventRecord) : MetricsTable :=
  match record.sampleUuid, record.eventType with
  | some uuid, .issued => table.setField uuid .issuedNs record
  | some uuid, .recvFirst =>
      (table.setField uuid .recvFirstNs record).setField uuid .lastRecvNs record
  | some uuid, .recvNonFirst => table.setField uuid .lastRecvNs record
  | some uuid, .complete => table.setField uuid .completeNs record
  | _, _ => table

/-- The issue and the first chunk in the row of a sample. -/
def times (table : MetricsTable) (uuid : QueryId) : Option (Option Nat × Option Nat) :=
  (table.getRow uuid).map fun row => (row.issuedNs, row.recvFirstNs)

end MetricsTable

namespace MetricsAggregator

theorem updateTotalDuration_effect (aggregator : MetricsAggregator) (record : EventRecord) :
    (aggregator.updateTotalDuration record).table = aggregator.table ∧
      (aggregator.updateTotalDuration record).shutdownReceived =
        aggregator.shutdownReceived := by
  unfold updateTotalDuration
  split
  · exact ⟨rfl, rfl⟩
  · dsimp only
    split <;> exact ⟨rfl, rfl⟩

theorem processSession_effect (aggregator : MetricsAggregator) (record : EventRecord) :
    (aggregator.processSession record).table = aggregator.table.handleSessionEvent record ∧
      (aggregator.processSession record).shutdownReceived =
        (aggregator.shutdownReceived || record.eventType = .ended) := by
  unfold processSession MetricsTable.handleSessionEvent
  cases type : record.eventType <;> simp only [refreshDurations, and_self, reduceCtorEq,
    decide_false, decide_true, Bool.or_false, Bool.or_true]
  all_goals split <;> exact ⟨rfl, rfl⟩

theorem processError_effect (aggregator : MetricsAggregator) (record : EventRecord) :
    (aggregator.processError record).table = aggregator.table ∧
      (aggregator.processError record).shutdownReceived = aggregator.shutdownReceived := by
  unfold processError
  dsimp only
  split
  · split <;> exact ⟨rfl, rfl⟩
  · exact ⟨rfl, rfl⟩

theorem processSample_effect (aggregator : MetricsAggregator) (record : EventRecord) :
    (aggregator.processSample record).table = aggregator.table.sampleEvent record ∧
      (aggregator.processSample record).shutdownReceived = aggregator.shutdownReceived := by
  unfold processSample MetricsTable.sampleEvent
  cases record.sampleUuid with
  | none => exact ⟨rfl, rfl⟩
  | some uuid => cases record.eventType <;> exact ⟨rfl, rfl⟩

theorem processRecord_table {aggregator : MetricsAggregator}
    (running : aggregator.shutdownReceived = false) (record : EventRecord) :
    (aggregator.processRecord record).table =
      (aggregator.table.handleSessionEvent record).sampleEvent record := by
  have timed := (updateTotalDuration_effect aggregator record).1
  unfold processRecord
  rw [running, if_neg Bool.false_ne_true]
  dsimp only
  cases type : record.eventType <;>
    simp only [EventType.isSession, EventType.isError, if_true, Bool.false_eq_true, if_false,
      (processSession_effect _ record).1, (processError_effect _ record).1,
      (processSample_effect _ record).1, timed] <;>
    cases uuid : record.sampleUuid <;>
    simp [MetricsTable.sampleEvent, MetricsTable.handleSessionEvent, type, uuid]

theorem processRecord_shutdown (aggregator : MetricsAggregator) (record : EventRecord) :
    (aggregator.processRecord record).shutdownReceived =
      (aggregator.shutdownReceived || record.eventType = .ended) := by
  have timed := (updateTotalDuration_effect aggregator record).2
  unfold processRecord
  cases shutdown : aggregator.shutdownReceived with
  | true => simpa using shutdown
  | false =>
      rw [if_neg Bool.false_ne_true]
      dsimp only
      cases type : record.eventType <;>
        simp only [EventType.isSession, EventType.isError, if_true, Bool.false_eq_true, if_false,
          (processSession_effect _ record).2, (processError_effect _ record).2,
          (processSample_effect _ record).2, timed, shutdown, type] <;>
        decide

/-- Before ENDED the aggregator runs. -/
theorem running_of_not_ended {before : List EventRecord}
    (noEnd : ∀ earlier ∈ before, earlier.eventType ≠ .ended) :
    (before.foldl processRecord ({} : MetricsAggregator)).shutdownReceived = false := by
  induction before using List.reverseRecOn with
  | nil => rfl
  | append_singleton before record ih =>
      rw [List.foldl_append, List.foldl_cons, List.foldl_nil, processRecord_shutdown,
        ih fun earlier member => noEnd earlier (List.mem_append_left _ member)]
      simpa using noEnd record (by simp)

/-- What follows ENDED fires no trigger. -/
theorem allFirings_logged (options : TriggerOptions) (records : List EventRecord) :
    options.allFirings {} (loggedRecords records) = options.allFirings {} records := by
  suffices ∀ aggregator : MetricsAggregator,
      options.allFirings aggregator (loggedRecords records) =
        options.allFirings aggregator records from this {}
  intro aggregator
  induction records generalizing aggregator with
  | nil => rfl
  | cons record records ih =>
      unfold loggedRecords
      split
      · rename_i ended
        have shutdown : (aggregator.processRecord record).shutdownReceived = true := by
          rw [processRecord_shutdown, ended]
          simp
        simp only [TriggerOptions.allFirings, options.allFirings_shutdown shutdown]
      · simp only [TriggerOptions.allFirings, ih]

end MetricsAggregator

/-! ## Rows by the log -/

/-- Whether tracking is on after these records. -/
def isTrackingAfter : List EventRecord → Bool :=
  List.foldl (fun tracking record =>
    match record.eventType with
    | .startPerformanceTracking => true
    | .stopPerformanceTracking => false
    | _ => tracking) false

theorem isTrackingAfter_concat (before : List EventRecord) (record : EventRecord) :
    isTrackingAfter (before ++ [record]) =
      match record.eventType with
      | .startPerformanceTracking => true
      | .stopPerformanceTracking => false
      | _ => isTrackingAfter before := by
  cases type : record.eventType <;> simp [isTrackingAfter, type]

namespace MetricsTable

theorem handleSessionEvent_inFlight (table : MetricsTable) (record : EventRecord) :
    (table.handleSessionEvent record).inFlight = table.inFlight :=
  (handleSessionEvent_accounts table record).1

theorem handleSessionEvent_isTracking (table : MetricsTable) (record : EventRecord) :
    (table.handleSessionEvent record).isTracking =
      match record.eventType with
      | .startPerformanceTracking => true
      | .stopPerformanceTracking => false
      | _ => table.isTracking := by
  unfold handleSessionEvent
  cases record.eventType <;> simp only
  split
  · assumption
  · rfl

theorem updateTrackedBlock_isTracking (table : MetricsTable) (row : SampleRow) (completeNs : Nat) :
    (table.updateTrackedBlock row completeNs).isTracking = table.isTracking := by
  unfold updateTrackedBlock
  dsimp only
  split
  · split <;> split <;> rfl
  · split <;> rfl

theorem setField_isTracking (table : MetricsTable) (uuid : QueryId) (field : SampleField)
    (record : EventRecord) : (table.setField uuid field record).isTracking = table.isTracking := by
  unfold setField
  split
  · split <;> rfl
  · split
    · rfl
    · dsimp only
      split
      · exact updateTrackedBlock_isTracking table _ _
      · rfl

theorem sampleEvent_isTracking (table : MetricsTable) (record : EventRecord) :
    (table.sampleEvent record).isTracking = table.isTracking := by
  unfold sampleEvent
  cases record.sampleUuid with
  | none => rfl
  | some uuid => cases record.eventType <;> simp only [setField_isTracking]

/-- `set_field` on the rows. -/
theorem getRow_setField (table : MetricsTable) (uuid other : QueryId) (field : SampleField)
    (record : EventRecord) :
    (table.setField uuid field record).getRow other =
      if other ≠ uuid then table.getRow other
      else if record.eventType = .issued then
        if table.isTracking then
          some (({ table.createRow uuid with
            trackedBlockIdx := (table.trackedBlocks.length : Int) - 1 } : SampleRow).setField field
              record.timestampNs)
        else table.getRow uuid
      else if record.eventType = .complete then none
      else (table.getRow uuid).map fun row => row.setField field record.timestampNs := by
  unfold setField
  by_cases same : other = uuid
  · subst same
    simp only [ne_eq, not_true_eq_false, if_false]
    split
    · cases table.isTracking <;> simp [getRow]
    · cases found : table.getRow other with
      | none => simp [found]
      | some row =>
          dsimp only
          split <;> simp [getRow]
  · simp only [ne_eq, same, not_false_eq_true, if_true]
    split
    · split
      · rfl
      · simp [getRow, OrderedDict.get?_insert_of_ne _ _ same]
    · split
      · rfl
      · split
        · simp [getRow, OrderedDict.get?_erase_of_ne _ same]
        · simp [getRow, OrderedDict.get?_insert_of_ne _ _ same]

/-- The times in the row of a sample after an event of the sample. -/
def nextTimes (tracking : Bool) (record : EventRecord)
    (times : Option (Option Nat × Option Nat)) : Option (Option Nat × Option Nat) :=
  match record.eventType with
  | .issued =>
      if tracking then some (some record.timestampNs, times.bind Prod.snd) else times
  | .recvFirst => times.map fun known => (known.1, some record.timestampNs)
  | .complete => none
  | _ => times

theorem times_sampleEvent (table : MetricsTable) (record : EventRecord) (uuid : QueryId) :
    (table.sampleEvent record).times uuid =
      if record.sampleUuid = some uuid then
        nextTimes table.isTracking record (table.times uuid)
      else table.times uuid := by
  unfold sampleEvent times
  cases issuer : record.sampleUuid with
  | none => simp
  | some other =>
      by_cases same : uuid = other
      · subst same
        cases type : record.eventType <;>
          simp only [getRow_setField, type, nextTimes, setField_isTracking, ne_eq,
            not_true_eq_false, if_false, if_true, reduceCtorEq]
        · cases table.isTracking with
          | false => simp
          | true => cases found : table.getRow uuid <;> simp [createRow, found, SampleRow.setField]
        · simp
        · cases table.getRow uuid <;> simp [SampleRow.setField]
        · cases table.getRow uuid <;> simp [SampleRow.setField]
      · have differs : ¬other = uuid := Ne.symm same
        cases type : record.eventType <;>
          simp [getRow_setField, same, differs]

end MetricsTable

namespace MetricsAggregator

/-- The aggregator after the records of a log. -/
abbrev after (before : List EventRecord) : MetricsAggregator :=
  before.foldl processRecord {}

theorem after_concat (before : List EventRecord) (record : EventRecord) :
    after (before ++ [record]) = (after before).processRecord record := by
  simp [after]

variable {before : List EventRecord} (noEnd : ∀ earlier ∈ before, earlier.eventType ≠ .ended)

include noEnd

theorem after_isTracking : (after before).table.isTracking = isTrackingAfter before := by
  induction before using List.reverseRecOn with
  | nil => rfl
  | append_singleton before record ih =>
      have earlier : ∀ earlier ∈ before, earlier.eventType ≠ .ended :=
        fun earlier member => noEnd earlier (List.mem_append_left _ member)
      rw [after_concat, processRecord_table (running_of_not_ended earlier),
        MetricsTable.sampleEvent_isTracking, MetricsTable.handleSessionEvent_isTracking, ih earlier]
      simp [isTrackingAfter]

theorem times_concat (record : EventRecord) (uuid : QueryId) :
    (after (before ++ [record])).table.times uuid =
      if record.sampleUuid = some uuid then
        MetricsTable.nextTimes (isTrackingAfter before) record ((after before).table.times uuid)
      else (after before).table.times uuid := by
  rw [after_concat, processRecord_table (running_of_not_ended noEnd),
    MetricsTable.times_sampleEvent]
  have rows : ((after before).table.handleSessionEvent record).times uuid =
      (after before).table.times uuid := by
    rw [MetricsTable.times, MetricsTable.times, MetricsTable.getRow, MetricsTable.getRow,
      MetricsTable.handleSessionEvent_inFlight]
  rw [rows, MetricsTable.handleSessionEvent_isTracking, after_isTracking noEnd]
  split
  · unfold MetricsTable.nextTimes
    cases record.eventType <;> rfl
  · rfl

end MetricsAggregator

/-! ## Values by the log -/

namespace Firing

variable (tokenizer : Tokenizer) (wanted : MetricSeriesKey)

/-- The values that the firings stand for in one series. -/
def values (firings : List Firing) : List ℚ :=
  ((firings.flatMap (recordings tokenizer)).filter fun recorded =>
    recorded.1 = wanted).map Prod.snd

@[simp]
theorem values_nil : values tokenizer wanted [] = [] :=
  rfl

@[simp]
theorem values_append (first second : List Firing) :
    values tokenizer wanted (first ++ second) =
      values tokenizer wanted first ++ values tokenizer wanted second := by
  simp [values]

@[simp]
theorem values_timeDelta (key : MetricSeriesKey) (baseline : Option Nat)
    (record : EventRecord) :
    values tokenizer wanted (TriggerOptions.timeDelta key baseline record) =
      if key = wanted then
        baseline.toList.map fun start => (((record.timestampNs : Int) - start : Int) : ℚ)
      else [] := by
  cases baseline with
  | none => simp [TriggerOptions.timeDelta]
  | some start =>
      by_cases same : key = wanted <;> simp [TriggerOptions.timeDelta, values, recordings, same]

@[simp]
theorem values_countTrigger (key : MetricSeriesKey) (input : Option TokenizationInput) :
    values tokenizer wanted (TriggerOptions.tokenTrigger key (.count key) input) =
      if key = wanted then input.toList.map fun input => (tokenizer.countSync input : ℚ)
      else [] := by
  cases input with
  | none => simp [TriggerOptions.tokenTrigger]
  | some input =>
      by_cases same : key = wanted <;> cases input <;>
        simp [TriggerOptions.tokenTrigger, values, recordings, Recorder.recordings, same,
          Tokenizer.countSync]

/-- The time per token, if there is a token. -/
def perToken (deltaNs : Int) (input : TokenizationInput) : List ℚ :=
  if tokenizer.countSync input = 0 then [] else [(deltaNs : ℚ) / tokenizer.countSync input]

theorem tpotInput_ne_tokenIds (options : TriggerOptions) (record : EventRecord)
    (tokenIds : List Nat) : options.tpotInput record ≠ some (.tokenIds tokenIds) := by
  unfold TriggerOptions.tpotInput
  split
  · dsimp only
    split
    · simp
    · split <;> simp
  · simp

@[simp]
theorem values_tpotTrigger (options : TriggerOptions) (recvFirstNs : Option Nat)
    (record : EventRecord) :
    values tokenizer wanted (options.tpotTrigger recvFirstNs record) =
      if wanted = .tpotNs then
        recvFirstNs.toList.flatMap fun start =>
          (options.tpotInput record).toList.flatMap
            (perToken tokenizer ((record.timestampNs : Int) - start))
      else [] := by
  cases recvFirstNs with
  | none => simp [TriggerOptions.tpotTrigger]
  | some start =>
      have notTokenIds := tpotInput_ne_tokenIds options record
      cases found : options.tpotInput record with
      | none => simp [TriggerOptions.tpotTrigger, TriggerOptions.tokenTrigger, found]
      | some input =>
          have enqueued : options.tpotTrigger (some start) record =
              [.enqueue input (.perToken ((record.timestampNs : Int) - start))] := by
            cases input with
            | tokenIds tokenIds => exact absurd found (notTokenIds tokenIds)
            | text text => simp [TriggerOptions.tpotTrigger, TriggerOptions.tokenTrigger, found]
            | message message =>
                simp [TriggerOptions.tpotTrigger, TriggerOptions.tokenTrigger, found]
            | prompt prompt => simp [TriggerOptions.tpotTrigger, TriggerOptions.tokenTrigger, found]
          by_cases zero : tokenizer.countSync input = 0
          · simp [enqueued, values, recordings, Recorder.recordings, perToken, zero]
          · by_cases same : wanted = .tpotNs
            · simp [enqueued, values, recordings, Recorder.recordings, perToken, zero, same]
            · simp [enqueued, values, recordings, Recorder.recordings, zero, same, Ne.symm same]

end Firing

namespace TriggerOptions

variable (options : TriggerOptions) (tokenizer : Tokenizer)

/-- What an event of a sample adds to a series, by the times in the row of the sample. -/
def sampleValues (key : MetricSeriesKey) (record : EventRecord)
    (times : Option (Option Nat × Option Nat)) : List ℚ :=
  match times, record.eventType with
  | some (issuedNs, _), .recvFirst =>
      if key = .ttftNs ∧ options.streaming = true then
        issuedNs.toList.map fun start => (((record.timestampNs : Int) - start : Int) : ℚ)
      else []
  | some (issuedNs, recvFirstNs), .complete =>
      match key with
      | .sampleLatencyNs =>
          issuedNs.toList.map fun start => (((record.timestampNs : Int) - start : Int) : ℚ)
      | .osl =>
          (options.oslInput record).toList.map fun input => (tokenizer.countSync input : ℚ)
      | .tpotNs =>
          if options.streaming then
            recvFirstNs.toList.flatMap fun start =>
              (options.tpotInput record).toList.flatMap
                (Firing.perToken tokenizer ((record.timestampNs : Int) - start))
          else []
      | _ => []
  | _, _ => []

/-- The series apart from those of prompts and chunks depend on the log only. -/
theorem values_firings {aggregator : MetricsAggregator}
    (running : aggregator.shutdownReceived = false) (record : EventRecord)
    {key : MetricSeriesKey} (notIsl : key ≠ .isl) (notChunk : key ≠ .chunkDeltaNs) :
    Firing.values tokenizer key (options.firings aggregator record) =
      record.sampleUuid.elim [] fun uuid =>
        options.sampleValues tokenizer key record (aggregator.table.times uuid) := by
  unfold firings
  rw [running, if_neg Bool.false_ne_true]
  cases record.sampleUuid with
  | none => simp
  | some uuid =>
      have isl : ¬MetricSeriesKey.isl = key := Ne.symm notIsl
      have chunk : ¬MetricSeriesKey.chunkDeltaNs = key := Ne.symm notChunk
      simp only [Option.elim_some, MetricsTable.times]
      cases type : record.eventType with
      | issued =>
          simp only [fieldFirings, type, if_true]
          split
          · cases aggregator.table.getRow uuid <;> simp [sampleValues, type]
          · simp only [fireTriggers]
            split <;> cases aggregator.table.getRow uuid <;> simp [sampleValues, type, isl]
      | recvFirst =>
          simp only [fieldFirings, type, reduceCtorEq, if_false, MetricsTable.getRow_setField]
          cases aggregator.table.getRow uuid with
          | none => simp [sampleValues]
          | some row =>
              simp only [fireTriggers]
              cases streaming : options.streaming with
              | false => simp [sampleValues, type, streaming]
              | true =>
                  by_cases same : key = .ttftNs
                  · simp [sampleValues, type, same, streaming]
                  · simp [sampleValues, type, same, Ne.symm same, chunk]
      | recvNonFirst =>
          simp only [fieldFirings, type, reduceCtorEq, if_false]
          cases aggregator.table.getRow uuid with
          | none => simp [sampleValues]
          | some row =>
              simp only [fireTriggers]
              split <;> simp [sampleValues, type, chunk]
      | complete =>
          simp only [fieldFirings, type, reduceCtorEq, if_false]
          cases aggregator.table.getRow uuid with
          | none => simp [sampleValues]
          | some row =>
              simp only [fireTriggers]
              cases streaming : options.streaming <;> cases key <;>
                simp_all [sampleValues]
      | _ => cases aggregator.table.getRow uuid <;> simp [sampleValues, type]

/-- The values of a series are those that the records add in the states they meet. -/
theorem values_allFirings {key : MetricSeriesKey} (notIsl : key ≠ .isl)
    (notChunk : key ≠ .chunkDeltaNs) {log : List EventRecord} {added : EventRecord → List ℚ}
    (each : ∀ before record later, log = before ++ record :: later →
      (MetricsAggregator.after before).shutdownReceived = false ∧
        (record.sampleUuid.elim [] fun uuid => options.sampleValues tokenizer key record
          ((MetricsAggregator.after before).table.times uuid)) = added record) :
    Firing.values tokenizer key (options.allFirings {} log) = log.flatMap added := by
  induction log using List.reverseRecOn with
  | nil => rfl
  | append_singleton log record ih =>
      obtain ⟨running, equal⟩ := each log record [] (by simp)
      rw [allFirings_append, Firing.values_append, List.flatMap_append, ih]
      · have here := options.values_firings tokenizer running record notIsl notChunk
        rw [equal] at here
        simp [allFirings, here]
      · intro before other later split
        exact each before other (later ++ [record]) (by rw [split]; simp)

end TriggerOptions

end InferenceEndpoint
