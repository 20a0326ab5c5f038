import InferenceEndpoint.Metrics.MetricsTable
import InferenceEndpoint.Metrics.Publisher
import Mathlib.Data.List.Perm.Subperm

/-!
# Metrics aggregator

`MetricsAggregatorService.process` routes the records of a batch to the table
and counts them.  The counters are kept here and the rows in the table; the
invariant says that they agree after every record, for every placement of the
tracking events and every batching.  `Report.from_snapshot` reads the counters
by name from the final snapshot.
-/

namespace InferenceEndpoint

inductive MetricCounterKey
  | totalSamplesIssued
  | totalSamplesCompleted
  | totalSamplesFailed
  | trackedSamplesIssued
  | trackedSamplesCompleted
  | trackedSamplesFailed
  | trackedFinishReasonStop
  | trackedFinishReasonLength
  | trackedFinishReasonToolCalls
  | trackedFinishReasonContentFilter
  | trackedFinishReasonFunctionCall
  | trackedFinishReasonOther
  | trackedDurationNs
  | legacyLoadgenWindowDurationNs
  | totalDurationNs
  deriving DecidableEq, Repr

namespace MetricCounterKey

/-- The name of the counter in the registry and in snapshots. -/
def value : MetricCounterKey → String
  | totalSamplesIssued => "total_samples_issued"
  | totalSamplesCompleted => "total_samples_completed"
  | totalSamplesFailed => "total_samples_failed"
  | trackedSamplesIssued => "tracked_samples_issued"
  | trackedSamplesCompleted => "tracked_samples_completed"
  | trackedSamplesFailed => "tracked_samples_failed"
  | trackedFinishReasonStop => "tracked_finish_reason_stop"
  | trackedFinishReasonLength => "tracked_finish_reason_length"
  | trackedFinishReasonToolCalls => "tracked_finish_reason_tool_calls"
  | trackedFinishReasonContentFilter => "tracked_finish_reason_content_filter"
  | trackedFinishReasonFunctionCall => "tracked_finish_reason_function_call"
  | trackedFinishReasonOther => "tracked_finish_reason_other"
  | trackedDurationNs => "tracked_duration_ns"
  | legacyLoadgenWindowDurationNs => "legacy_loadgen_window_duration_ns"
  | totalDurationNs => "total_duration_ns"

/-- The members in the order of the enumeration. -/
def all : List MetricCounterKey :=
  [totalSamplesIssued, totalSamplesCompleted, totalSamplesFailed, trackedSamplesIssued,
    trackedSamplesCompleted, trackedSamplesFailed, trackedFinishReasonStop,
    trackedFinishReasonLength, trackedFinishReasonToolCalls,
    trackedFinishReasonContentFilter, trackedFinishReasonFunctionCall,
    trackedFinishReasonOther, trackedDurationNs, legacyLoadgenWindowDurationNs,
    totalDurationNs]

/-- `_FINISH_REASON_COUNTERS` with its default. -/
def ofFinishReason (finishReason : String) : MetricCounterKey :=
  if finishReason = "stop" then trackedFinishReasonStop
  else if finishReason = "length" then trackedFinishReasonLength
  else if finishReason = "tool_calls" then trackedFinishReasonToolCalls
  else if finishReason = "content_filter" then trackedFinishReasonContentFilter
  else if finishReason = "function_call" then trackedFinishReasonFunctionCall
  else trackedFinishReasonOther

/-- The counters of issued, completed and failed samples. -/
def countsSamples : MetricCounterKey → Bool
  | totalSamplesIssued | totalSamplesCompleted | totalSamplesFailed
  | trackedSamplesIssued | trackedSamplesCompleted | trackedSamplesFailed => true
  | _ => false

theorem ofFinishReason_countsSamples (finishReason : String) :
    (ofFinishReason finishReason).countsSamples = false := by
  unfold ofFinishReason
  split_ifs <;> rfl

end MetricCounterKey

/-- The counters of the registry; all are registered with the value zero. -/
abbrev MetricsRegistry := MetricCounterKey → Int

namespace MetricsRegistry

def increment (registry : MetricsRegistry) (key : MetricCounterKey) : MetricsRegistry :=
  Function.update registry key (registry key + 1)

def setCounter (registry : MetricsRegistry) (key : MetricCounterKey) (value : Int) :
    MetricsRegistry :=
  Function.update registry key value

theorem increment_apply (registry : MetricsRegistry) (key other : MetricCounterKey) :
    registry.increment key other = registry other + if other = key then 1 else 0 := by
  by_cases same : other = key
  · rw [same, if_pos rfl]
    exact Function.update_self key _ registry
  · rw [if_neg same, Int.add_zero]
    exact Function.update_of_ne same _ registry

/-- The counters of samples have the same values. -/
def SameCounts (registry other : MetricsRegistry) : Prop :=
  ∀ key : MetricCounterKey, key.countsSamples = true → other key = registry key

theorem SameCounts.trans {first second third : MetricsRegistry}
    (left : first.SameCounts second) (right : second.SameCounts third) :
    first.SameCounts third := by
  intro key counts
  rw [right key counts, left key counts]

theorem setCounter_sameCounts (registry : MetricsRegistry) {key : MetricCounterKey}
    (other : key.countsSamples = false) (value : Int) :
    registry.SameCounts (registry.setCounter key value) := by
  intro counted counts
  refine Function.update_of_ne ?_ _ registry
  rintro rfl
  rw [counts] at other
  simp at other

end MetricsRegistry

namespace EventType

def isSession : EventType → Bool
  | started | ended | interrupted | stopLoadgen | phaseStart
  | startPerformanceTracking | stopPerformanceTracking => true
  | _ => false

def isError : EventType → Bool
  | errorGeneric | errorLoadgen | errorSession | errorClient => true
  | _ => false

end EventType

structure MetricsAggregator where
  registry : MetricsRegistry := fun _ => 0
  table : MetricsTable := {}
  shutdownReceived : Bool := false
  interrupted : Bool := false
  sessionStartNs : Option Nat := none
  totalDurationNs : Int := 0
  sessionState : MetricsSessionState := .initializing
  totalProcessed : Nat := 0

namespace MetricsAggregator

def updateTotalDuration (aggregator : MetricsAggregator) (record : EventRecord) :
    MetricsAggregator :=
  match aggregator.sessionStartNs with
  | none => aggregator
  | some start =>
      let elapsed : Int := (record.timestampNs : Int) - start
      if elapsed > aggregator.totalDurationNs then
        { aggregator with
            totalDurationNs := elapsed
            registry := aggregator.registry.setCounter .totalDurationNs elapsed }
      else aggregator

/-- `set_counter` of the tracked duration and of the legacy window from the table. -/
def refreshDurations (aggregator : MetricsAggregator) : MetricsAggregator :=
  { aggregator with
      registry :=
        (aggregator.registry.setCounter .trackedDurationNs
          aggregator.table.totalTrackedDurationNs).setCounter
            .legacyLoadgenWindowDurationNs aggregator.table.totalLoadgenWindowNs }

def processSession (aggregator : MetricsAggregator) (record : EventRecord) :
    MetricsAggregator :=
  match record.eventType with
  | .ended => { aggregator with shutdownReceived := true }
  | .interrupted => { aggregator with interrupted := true }
  -- Only the collector uses the phase announcement.
  | .phaseStart => aggregator
  | .started =>
      let begun :=
        if aggregator.sessionStartNs.isSome then aggregator
        else
          { aggregator with
              sessionStartNs := some record.timestampNs
              sessionState := .live }
      { begun with table := begun.table.handleSessionEvent record }
  | .stopPerformanceTracking =>
      ({ aggregator with
          table := aggregator.table.handleSessionEvent record } :
        MetricsAggregator).refreshDurations
  | _ => { aggregator with table := aggregator.table.handleSessionEvent record }

def processError (aggregator : MetricsAggregator) (record : EventRecord) :
    MetricsAggregator :=
  let failed := aggregator.registry.increment .totalSamplesFailed
  match record.sampleUuid with
  | some uuid =>
      if (aggregator.table.getRow uuid).isSome then
        { aggregator with registry := failed.increment .trackedSamplesFailed }
      else { aggregator with registry := failed }
  | none => { aggregator with registry := failed }

def processIssued (aggregator : MetricsAggregator) (uuid : QueryId)
    (record : EventRecord) : MetricsAggregator :=
  let table := aggregator.table.setField uuid .issuedNs record
  let issued := aggregator.registry.increment .totalSamplesIssued
  { aggregator with
      table := table
      registry :=
        if (table.getRow uuid).isSome then issued.increment .trackedSamplesIssued
        else issued }

def processComplete (aggregator : MetricsAggregator) (uuid : QueryId)
    (record : EventRecord) : MetricsAggregator :=
  let completed := aggregator.registry.increment .totalSamplesCompleted
  { aggregator with
      table := aggregator.table.setField uuid .completeNs record
      registry :=
        if (aggregator.table.getRow uuid).isSome then
          let tracked := completed.increment .trackedSamplesCompleted
          match record.finishReason with
          | some finishReason =>
              tracked.increment (MetricCounterKey.ofFinishReason finishReason)
          | none => tracked
        else completed }

def processSample (aggregator : MetricsAggregator) (record : EventRecord) :
    MetricsAggregator :=
  match record.sampleUuid with
  | none => aggregator
  | some uuid =>
      match record.eventType with
      | .issued => aggregator.processIssued uuid record
      | .recvFirst =>
          { aggregator with
              table := (aggregator.table.setField uuid .recvFirstNs record).setField uuid
                .lastRecvNs record }
      | .recvNonFirst =>
          { aggregator with
              table := aggregator.table.setField uuid .lastRecvNs record }
      | .complete => aggregator.processComplete uuid record
      | _ => aggregator

/-- One turn of the loop over a batch; after ENDED the loop breaks. -/
def processRecord (aggregator : MetricsAggregator) (record : EventRecord) :
    MetricsAggregator :=
  if aggregator.shutdownReceived then aggregator
  else
    let timed := aggregator.updateTotalDuration record
    if record.eventType.isSession then timed.processSession record
    else if record.eventType.isError then timed.processError record
    else timed.processSample record

/-- `process`: the loop and, if ENDED was in the batch, the finalization. -/
def process (aggregator : MetricsAggregator) (records : List EventRecord) :
    MetricsAggregator :=
  let counted : MetricsAggregator :=
    { aggregator with totalProcessed := aggregator.totalProcessed + records.length }
  let looped := records.foldl processRecord counted
  if looped.shutdownReceived && !aggregator.shutdownReceived then
    ({ looped with sessionState := .draining } : MetricsAggregator).refreshDurations
  else looped

/-- What reaches the service: a batch, or a SIGTERM, whose finalizer refreshes
the durations. -/
inductive Delivery
  | batch (records : List EventRecord)
  | sigterm

def deliver (aggregator : MetricsAggregator) : Delivery → MetricsAggregator
  | .batch records => aggregator.process records
  | .sigterm => aggregator.refreshDurations

def Delivery.records : Delivery → List EventRecord
  | .batch records => records
  | .sigterm => []

end MetricsAggregator

/-! ## Accounts -/

namespace EventRecord

/-- The sample that the record issues. -/
def issuedUuid (record : EventRecord) : Option QueryId :=
  if record.eventType = .issued then record.sampleUuid else none

/-- The sample whose failure the record reports. -/
def errorUuid (record : EventRecord) : Option QueryId :=
  if record.eventType.isError then record.sampleUuid else none

end EventRecord

/-- The record issues no sample that the log issues, and reports no failure
that the log reports. -/
def Fresh (log : List EventRecord) (record : EventRecord) : Prop :=
  (∀ uuid, record.issuedUuid = some uuid → uuid ∉ log.filterMap EventRecord.issuedUuid) ∧
    ∀ uuid, record.errorUuid = some uuid → uuid ∉ log.filterMap EventRecord.errorUuid

namespace MetricsAggregator

/-- The counters agree with the rows and the blocks, and every tracked failure
is charged to a tracked sample of the log. -/
structure Accounts (log : List EventRecord) (aggregator : MetricsAggregator) : Prop where
  wellFormed : aggregator.table.WellFormed
  blocks : aggregator.registry .trackedSamplesCompleted =
    aggregator.table.totalCompletedTrackedSamples
  issued : aggregator.registry .trackedSamplesIssued =
    aggregator.registry .trackedSamplesCompleted + aggregator.table.inFlight.size
  totalIssued : aggregator.registry .trackedSamplesIssued ≤
    aggregator.registry .totalSamplesIssued
  totalCompleted : aggregator.registry .trackedSamplesCompleted ≤
    aggregator.registry .totalSamplesCompleted
  totalFailed : aggregator.registry .trackedSamplesFailed ≤
    aggregator.registry .totalSamplesFailed
  charged : ∃ tracked failed : List QueryId,
    failed.Nodup ∧ failed ⊆ tracked ∧ aggregator.table.inFlight.keys ⊆ tracked ∧
      tracked ⊆ log.filterMap EventRecord.issuedUuid ∧
      failed ⊆ log.filterMap EventRecord.errorUuid ∧
      aggregator.registry .trackedSamplesIssued = tracked.length ∧
      aggregator.registry .trackedSamplesFailed = failed.length

theorem subset_filterMap_snoc {uuids : List QueryId} {log : List EventRecord}
    {uuidOf : EventRecord → Option QueryId} (logged : uuids ⊆ log.filterMap uuidOf)
    (record : EventRecord) : uuids ⊆ (log ++ [record]).filterMap uuidOf := by
  rw [List.filterMap_append]
  exact List.subset_append_of_subset_left _ logged

namespace Accounts

variable {log : List EventRecord} {aggregator next : MetricsAggregator}
  {record : EventRecord} {uuid : QueryId}

/-- A record that changes no sample counter, no key and no completion. -/
theorem quiet (accounts : aggregator.Accounts log)
    (counts : aggregator.registry.SameCounts next.registry)
    (wellFormed : next.table.WellFormed)
    (keys : next.table.inFlight.keys = aggregator.table.inFlight.keys)
    (completions : next.table.totalCompletedTrackedSamples =
      aggregator.table.totalCompletedTrackedSamples)
    (record : EventRecord) : next.Accounts (log ++ [record]) := by
  have size : next.table.inFlight.size = aggregator.table.inFlight.size := by
    rw [OrderedDict.size_eq_length_keys, OrderedDict.size_eq_length_keys, keys]
  obtain ⟨tracked, failed, nodup, subset, rows, issued, errored, trackedIssued,
    trackedFailed⟩ := accounts.charged
  refine ⟨wellFormed, ?_, ?_, ?_, ?_, ?_, tracked, failed, nodup, subset, keys ▸ rows,
    subset_filterMap_snoc issued record, subset_filterMap_snoc errored record, ?_, ?_⟩
  · rw [counts _ rfl, completions]
    exact accounts.blocks
  · rw [counts _ rfl, counts _ rfl, size]
    exact accounts.issued
  · rw [counts _ rfl, counts _ rfl]
    exact accounts.totalIssued
  · rw [counts _ rfl, counts _ rfl]
    exact accounts.totalCompleted
  · rw [counts _ rfl, counts _ rfl]
    exact accounts.totalFailed
  · rw [counts _ rfl]
    exact trackedIssued
  · rw [counts _ rfl]
    exact trackedFailed

/-- The accounts depend on the table and the sample counters only. -/
theorem refreshed (accounts : aggregator.Accounts log)
    (counts : aggregator.registry.SameCounts next.registry)
    (table : next.table = aggregator.table) : next.Accounts log := by
  refine ⟨?_, ?_, ?_, ?_, ?_, ?_, ?_⟩
  · rw [table]
    exact accounts.wellFormed
  · rw [counts _ rfl, table]
    exact accounts.blocks
  · rw [counts _ rfl, counts _ rfl, table]
    exact accounts.issued
  · rw [counts _ rfl, counts _ rfl]
    exact accounts.totalIssued
  · rw [counts _ rfl, counts _ rfl]
    exact accounts.totalCompleted
  · rw [counts _ rfl, counts _ rfl]
    exact accounts.totalFailed
  · rw [counts _ rfl, counts _ rfl, table]
    exact accounts.charged

/-- A record that counts nothing. -/
theorem unchanged (accounts : aggregator.Accounts log)
    (registry : next.registry = aggregator.registry)
    (table : next.table = aggregator.table) (record : EventRecord) :
    next.Accounts (log ++ [record]) :=
  accounts.quiet (fun _ _ => by rw [registry]) (table ▸ accounts.wellFormed) (by rw [table])
    (by rw [table]) record

/-- A sample that the log has not issued has no row. -/
theorem unissued (accounts : aggregator.Accounts log)
    (fresh : uuid ∉ log.filterMap EventRecord.issuedUuid) :
    aggregator.table.getRow uuid = none := by
  obtain ⟨tracked, _, _, _, rows, issued, _⟩ := accounts.charged
  exact OrderedDict.get?_eq_none_iff.mpr fun member => fresh (issued (rows member))

theorem processError (accounts : aggregator.Accounts log)
    (fresh : Fresh log record) (isError : record.eventType.isError = true) :
    (aggregator.processError record).Accounts (log ++ [record]) := by
  obtain ⟨tracked, failed, nodup, subset, rows, issued, errored, trackedIssued,
    trackedFailed⟩ := accounts.charged
  -- An error without a row only counts in the total.
  have untracked : ({ aggregator with
      registry := aggregator.registry.increment .totalSamplesFailed } :
        MetricsAggregator).Accounts (log ++ [record]) := by
    have balance := accounts.totalFailed
    refine ⟨accounts.wellFormed, ?_, ?_, ?_, ?_, ?_, tracked, failed, nodup, subset, rows,
      subset_filterMap_snoc issued record, subset_filterMap_snoc errored record, ?_, ?_⟩
    all_goals simp only [MetricsRegistry.increment_apply, reduceCtorEq, if_false, if_true,
      Int.add_zero]
    · exact accounts.blocks
    · exact accounts.issued
    · exact accounts.totalIssued
    · exact accounts.totalCompleted
    · omega
    · exact trackedIssued
    · exact trackedFailed
  unfold MetricsAggregator.processError
  cases sample : record.sampleUuid with
  | none => exact untracked
  | some uuid =>
      dsimp only
      split
      · rename_i present
        have notYet := fresh.2 uuid (by simp [EventRecord.errorUuid, isError, sample])
        have isTracked : uuid ∈ tracked := rows (OrderedDict.get?_isSome_iff.mp present)
        have balance := accounts.totalFailed
        refine ⟨accounts.wellFormed, ?_, ?_, ?_, ?_, ?_, tracked, failed ++ [uuid], ?_, ?_,
          rows, subset_filterMap_snoc issued record, ?_, ?_, ?_⟩
        all_goals try simp only [MetricsRegistry.increment_apply, reduceCtorEq, if_false,
          if_true, Int.add_zero]
        · exact accounts.blocks
        · exact accounts.issued
        · exact accounts.totalIssued
        · exact accounts.totalCompleted
        · omega
        · refine List.nodup_append.mpr ⟨nodup, by simp, ?_⟩
          intro earlier member later new
          rw [List.mem_singleton.mp new]
          rintro rfl
          exact notYet (errored member)
        · exact List.append_subset.mpr ⟨subset, by simpa using isTracked⟩
        · refine List.append_subset.mpr ⟨subset_filterMap_snoc errored record, ?_⟩
          simp [EventRecord.errorUuid, isError, sample]
        · exact trackedIssued
        · rw [trackedFailed]
          simp
      · exact untracked

theorem processIssued (accounts : aggregator.Accounts log)
    (fresh : Fresh log record) (isIssued : record.eventType = .issued)
    (sample : record.sampleUuid = some uuid) :
    (aggregator.processIssued uuid record).Accounts (log ++ [record]) := by
  have notYet := fresh.1 uuid (by simp [EventRecord.issuedUuid, isIssued, sample])
  have absent := accounts.unissued notYet
  obtain ⟨tracked, failed, nodup, subset, rows, issued, errored, trackedIssued,
    trackedFailed⟩ := accounts.charged
  have balance := accounts.totalIssued
  unfold MetricsAggregator.processIssued
  dsimp only
  cases on : aggregator.table.isTracking with
  | false =>
      rw [MetricsTable.setField_untracked isIssued on, absent]
      refine ⟨accounts.wellFormed, ?_, ?_, ?_, ?_, ?_, tracked, failed, nodup, subset, rows,
        subset_filterMap_snoc issued record, subset_filterMap_snoc errored record, ?_, ?_⟩
      all_goals simp only [Option.isSome_none, Bool.false_eq_true,
        MetricsRegistry.increment_apply, reduceCtorEq, if_false, if_true, Int.add_zero]
      · exact accounts.blocks
      · exact accounts.issued
      · omega
      · exact accounts.totalCompleted
      · exact accounts.totalFailed
      · exact trackedIssued
      · exact trackedFailed
  | true =>
      obtain ⟨row, _, inFlight, blocks, _⟩ :=
        MetricsTable.setField_issued uuid isIssued on .issuedNs
      have keys := OrderedDict.keys_insert_new absent row
      have present : ((aggregator.table.setField uuid .issuedNs record).getRow
          uuid).isSome = true := by
        rw [MetricsTable.getRow, inFlight, OrderedDict.get?_insert_self]
        rfl
      rw [present]
      have completions : (aggregator.table.setField uuid .issuedNs
          record).totalCompletedTrackedSamples =
            aggregator.table.totalCompletedTrackedSamples := by
        rw [MetricsTable.totalCompletedTrackedSamples, blocks]
        rfl
      have size : (aggregator.table.inFlight.insert uuid row).size =
          aggregator.table.inFlight.size + 1 := by
        rw [OrderedDict.size_eq_length_keys, OrderedDict.size_eq_length_keys, keys]
        simp
      have identity := accounts.issued
      refine ⟨accounts.wellFormed.setField .issuedNs, ?_, ?_, ?_, ?_, ?_,
        tracked ++ [uuid], failed, nodup, ?_, ?_, ?_,
        subset_filterMap_snoc errored record, ?_, ?_⟩
      all_goals try simp only [MetricsRegistry.increment_apply, reduceCtorEq, if_false,
        if_true, Int.add_zero]
      · rw [completions]
        exact accounts.blocks
      · rw [inFlight, size]
        push_cast
        omega
      · omega
      · exact accounts.totalCompleted
      · exact accounts.totalFailed
      · exact List.subset_append_of_subset_left _ subset
      · rw [inFlight, keys]
        exact List.append_subset.mpr
          ⟨List.subset_append_of_subset_left _ rows, by simp⟩
      · refine List.append_subset.mpr ⟨subset_filterMap_snoc issued record, ?_⟩
        simp [EventRecord.issuedUuid, isIssued, sample]
      · rw [trackedIssued]
        simp
      · exact trackedFailed

theorem processComplete (accounts : aggregator.Accounts log)
    (isComplete : record.eventType = .complete) (uuid : QueryId) :
    (aggregator.processComplete uuid record).Accounts (log ++ [record]) := by
  have notIssued : record.eventType ≠ .issued := by rw [isComplete]; decide
  obtain ⟨tracked, failed, nodup, subset, rows, issued, errored, trackedIssued,
    trackedFailed⟩ := accounts.charged
  have balance := accounts.totalCompleted
  unfold MetricsAggregator.processComplete
  dsimp only
  cases found : aggregator.table.getRow uuid with
  | none =>
      rw [MetricsTable.setField_absent notIssued found]
      refine ⟨accounts.wellFormed, ?_, ?_, ?_, ?_, ?_, tracked, failed, nodup, subset, rows,
        subset_filterMap_snoc issued record, subset_filterMap_snoc errored record, ?_, ?_⟩
      all_goals simp only [Option.isSome_none, Bool.false_eq_true,
        MetricsRegistry.increment_apply, reduceCtorEq, if_false, if_true, Int.add_zero]
      · exact accounts.blocks
      · exact accounts.issued
      · exact accounts.totalIssued
      · omega
      · exact accounts.totalFailed
      · exact trackedIssued
      · exact trackedFailed
  | some row =>
      obtain ⟨inFlight, _, blocks⟩ :=
        MetricsTable.setField_complete accounts.wellFormed isComplete found .completeNs
      have within := accounts.wellFormed.rows uuid row found
      have completions : (aggregator.table.setField uuid .completeNs
          record).totalCompletedTrackedSamples =
            aggregator.table.totalCompletedTrackedSamples + 1 := by
        rw [MetricsTable.totalCompletedTrackedSamples, blocks]
        exact MetricsTable.sum_completedSamples_modify _ _ _ (by omega)
      have size : (aggregator.table.inFlight.erase uuid).size + 1 =
          aggregator.table.inFlight.size :=
        OrderedDict.size_erase (by
          have found : aggregator.table.inFlight.get? uuid = some row := found
          simp [found])
      have identity := accounts.issued
      have sum := accounts.blocks
      -- The counter of the finish reason is none of the six.
      have counts : ∀ registry : MetricsRegistry, registry.SameCounts
          (match record.finishReason with
            | some finishReason =>
                registry.increment (MetricCounterKey.ofFinishReason finishReason)
            | none => registry) := by
        intro registry
        cases record.finishReason with
        | none => exact fun _ _ => rfl
        | some finishReason =>
            exact registry.setCounter_sameCounts
              (MetricCounterKey.ofFinishReason_countsSamples finishReason) _
      refine ⟨accounts.wellFormed.setField .completeNs, ?_, ?_, ?_, ?_, ?_, tracked,
        failed, nodup, subset, ?_, subset_filterMap_snoc issued record,
        subset_filterMap_snoc errored record, ?_, ?_⟩
      all_goals try simp only [Option.isSome_some, if_true]
      · rw [counts _ _ rfl, completions]
        simp only [MetricsRegistry.increment_apply, reduceCtorEq, if_false, if_true,
          Int.add_zero]
        omega
      · rw [counts _ _ rfl, counts _ _ rfl, inFlight]
        simp only [MetricsRegistry.increment_apply, reduceCtorEq, if_false, if_true,
          Int.add_zero]
        omega
      · rw [counts _ _ rfl, counts _ _ rfl]
        simpa only [MetricsRegistry.increment_apply, reduceCtorEq, if_false,
          Int.add_zero] using accounts.totalIssued
      · rw [counts _ _ rfl, counts _ _ rfl]
        simp only [MetricsRegistry.increment_apply, reduceCtorEq, if_false, if_true,
          Int.add_zero]
        omega
      · rw [counts _ _ rfl, counts _ _ rfl]
        simpa only [MetricsRegistry.increment_apply, reduceCtorEq, if_false,
          Int.add_zero] using accounts.totalFailed
      · rw [inFlight, OrderedDict.keys_erase]
        exact fun other member => rows (List.mem_of_mem_filter member)
      · rw [counts _ _ rfl]
        simpa only [MetricsRegistry.increment_apply, reduceCtorEq, if_false,
          Int.add_zero] using trackedIssued
      · rw [counts _ _ rfl]
        simpa only [MetricsRegistry.increment_apply, reduceCtorEq, if_false,
          Int.add_zero] using trackedFailed

/-- A chunk changes the row of its sample only. -/
theorem setField_received (table : MetricsTable) (notIssued : record.eventType ≠ .issued)
    (notComplete : record.eventType ≠ .complete) (uuid : QueryId)
    (field : MetricsTable.SampleField) :
    (table.setField uuid field record).inFlight.keys = table.inFlight.keys ∧
      (table.setField uuid field record).totalCompletedTrackedSamples =
        table.totalCompletedTrackedSamples := by
  cases found : table.getRow uuid with
  | none =>
      rw [MetricsTable.setField_absent notIssued found]
      exact ⟨rfl, rfl⟩
  | some row =>
      rw [MetricsTable.setField_received notIssued notComplete found]
      refine ⟨OrderedDict.keys_insert_old ?_ _, rfl⟩
      have found : table.inFlight.get? uuid = some row := found
      simp [found]

/-- A record that changes at most the table. -/
theorem tableOnly (accounts : aggregator.Accounts log)
    (registry : next.registry = aggregator.registry)
    (wellFormed : next.table.WellFormed)
    (keys : next.table.inFlight.keys = aggregator.table.inFlight.keys)
    (completions : next.table.totalCompletedTrackedSamples =
      aggregator.table.totalCompletedTrackedSamples)
    (record : EventRecord) : next.Accounts (log ++ [record]) :=
  accounts.quiet (fun _ _ => by rw [registry]) wellFormed keys completions record

theorem processSample (accounts : aggregator.Accounts log) (fresh : Fresh log record) :
    (aggregator.processSample record).Accounts (log ++ [record]) := by
  unfold MetricsAggregator.processSample
  cases sample : record.sampleUuid with
  | none => exact accounts.unchanged (by rfl) (by rfl) record
  | some uuid =>
      dsimp only
      split
      · rename_i isIssued
        exact accounts.processIssued fresh isIssued sample
      · rename_i isRecvFirst
        have notIssued : record.eventType ≠ .issued := by rw [isRecvFirst]; decide
        have notComplete : record.eventType ≠ .complete := by rw [isRecvFirst]; decide
        have first := setField_received aggregator.table notIssued notComplete uuid
          .recvFirstNs
        have second := setField_received (aggregator.table.setField uuid .recvFirstNs record)
          notIssued notComplete uuid .lastRecvNs
        exact accounts.tableOnly (by rfl)
          ((accounts.wellFormed.setField .recvFirstNs).setField .lastRecvNs)
          (second.1.trans first.1) (second.2.trans first.2) record
      · rename_i isRecvNonFirst
        have notIssued : record.eventType ≠ .issued := by rw [isRecvNonFirst]; decide
        have notComplete : record.eventType ≠ .complete := by rw [isRecvNonFirst]; decide
        have received :=
          setField_received aggregator.table notIssued notComplete uuid .lastRecvNs
        exact accounts.tableOnly (by rfl) (accounts.wellFormed.setField _) received.1
          received.2 record
      · rename_i isComplete
        exact accounts.processComplete isComplete uuid
      · exact accounts.unchanged (by rfl) (by rfl) record

/-- Setting the durations does not touch the accounts. -/
theorem refreshDurations_sameCounts (aggregator : MetricsAggregator) :
    aggregator.registry.SameCounts aggregator.refreshDurations.registry :=
  (aggregator.registry.setCounter_sameCounts rfl _).trans
    (MetricsRegistry.setCounter_sameCounts _ rfl _)

theorem processSession (accounts : aggregator.Accounts log) (record : EventRecord) :
    (aggregator.processSession record).Accounts (log ++ [record]) := by
  have table := aggregator.table.handleSessionEvent_accounts record
  have keys : (aggregator.table.handleSessionEvent record).inFlight.keys =
      aggregator.table.inFlight.keys := by rw [table.1]
  have wellFormed := accounts.wellFormed.handleSessionEvent record
  unfold MetricsAggregator.processSession
  split
  · exact accounts.unchanged (by rfl) (by rfl) record
  · exact accounts.unchanged (by rfl) (by rfl) record
  · exact accounts.unchanged (by rfl) (by rfl) record
  · dsimp only
    split
    · exact accounts.tableOnly (by rfl) wellFormed keys table.2 record
    · exact accounts.tableOnly (by rfl) wellFormed keys table.2 record
  · exact accounts.quiet (refreshDurations_sameCounts { aggregator with
      table := aggregator.table.handleSessionEvent record }) wellFormed keys table.2 record
  · exact accounts.tableOnly (by rfl) wellFormed keys table.2 record

theorem updateTotalDuration (accounts : aggregator.Accounts log) (record : EventRecord) :
    (aggregator.updateTotalDuration record).Accounts log := by
  have registry : aggregator.registry.SameCounts
        (aggregator.updateTotalDuration record).registry ∧
      (aggregator.updateTotalDuration record).table = aggregator.table := by
    unfold MetricsAggregator.updateTotalDuration
    split
    · exact ⟨fun _ _ => rfl, rfl⟩
    · dsimp only
      split
      · exact ⟨MetricsRegistry.setCounter_sameCounts _ rfl _, rfl⟩
      · exact ⟨fun _ _ => rfl, rfl⟩
  exact accounts.refreshed registry.1 registry.2

/-- One record keeps the accounts, also when it comes after ENDED. -/
theorem processRecord (accounts : aggregator.Accounts log) (fresh : Fresh log record) :
    (aggregator.processRecord record).Accounts (log ++ [record]) := by
  have timed := accounts.updateTotalDuration record
  unfold MetricsAggregator.processRecord
  split
  · exact accounts.unchanged (by rfl) (by rfl) record
  · dsimp only
    split
    · exact timed.processSession record
    · split
      · rename_i isError
        exact timed.processError fresh isError
      · exact timed.processSample fresh

end Accounts

/-- The log issues each sample at most once and reports at most one failure of
it. -/
def OnceOnly (log : List EventRecord) : Prop :=
  (log.filterMap EventRecord.issuedUuid).Nodup ∧
    (log.filterMap EventRecord.errorUuid).Nodup

instance (log : List EventRecord) : Decidable (OnceOnly log) := by
  unfold OnceOnly
  infer_instance

theorem OnceOnly.fresh {log rest : List EventRecord} {record : EventRecord}
    (once : OnceOnly (log ++ record :: rest)) : Fresh log record := by
  obtain ⟨issued, errored⟩ := once
  rw [List.filterMap_append, List.filterMap_cons] at issued errored
  constructor
  · intro uuid issues member
    rw [issues] at issued
    exact (List.nodup_append.mp issued).2.2 uuid member uuid List.mem_cons_self rfl
  · intro uuid fails member
    rw [fails] at errored
    exact (List.nodup_append.mp errored).2.2 uuid member uuid List.mem_cons_self rfl

/-- The loop over a batch keeps the accounts. -/
theorem Accounts.loop {log : List EventRecord} {aggregator : MetricsAggregator}
    (accounts : aggregator.Accounts log) (records rest : List EventRecord)
    (once : OnceOnly (log ++ records ++ rest)) :
    (records.foldl MetricsAggregator.processRecord aggregator).Accounts (log ++ records) := by
  induction records generalizing log aggregator with
  | nil => simpa using accounts
  | cons record records ih =>
      rw [List.append_assoc, List.cons_append] at once
      have stepped := accounts.processRecord once.fresh
      have looped := ih stepped (by simpa using once)
      simpa using looped

theorem Accounts.deliver {log : List EventRecord} {aggregator : MetricsAggregator}
    (accounts : aggregator.Accounts log) (delivery : Delivery) (rest : List EventRecord)
    (once : OnceOnly (log ++ delivery.records ++ rest)) :
    (aggregator.deliver delivery).Accounts (log ++ delivery.records) := by
  cases delivery with
  | sigterm =>
      rw [Delivery.records, List.append_nil]
      exact accounts.refreshed (refreshDurations_sameCounts aggregator) rfl
  | batch records =>
      have counted : ({ aggregator with
          totalProcessed := aggregator.totalProcessed + records.length } :
            MetricsAggregator).Accounts log :=
        accounts.refreshed (fun _ _ => rfl) rfl
      have looped := counted.loop records rest once
      unfold MetricsAggregator.deliver MetricsAggregator.process
      dsimp only
      split
      · exact looped.refreshed (refreshDurations_sameCounts _) rfl
      · exact looped

/-- The deliveries one after the other keep the accounts. -/
theorem Accounts.deliveries {log : List EventRecord} {aggregator : MetricsAggregator}
    (accounts : aggregator.Accounts log) (deliveries : List Delivery)
    (rest : List EventRecord)
    (once : OnceOnly (log ++ deliveries.flatMap Delivery.records ++ rest)) :
    (deliveries.foldl MetricsAggregator.deliver aggregator).Accounts
      (log ++ deliveries.flatMap Delivery.records) := by
  induction deliveries generalizing log aggregator with
  | nil => simpa using accounts
  | cons delivery deliveries ih =>
      have delivered := accounts.deliver delivery
        (deliveries.flatMap Delivery.records ++ rest) (by simpa using once)
      have remaining := ih delivered (by simpa using once)
      simpa using remaining

theorem Accounts.initial : ({} : MetricsAggregator).Accounts [] where
  wellFormed := MetricsTable.WellFormed.initial
  blocks := rfl
  issued := rfl
  totalIssued := Int.le_refl _
  totalCompleted := Int.le_refl _
  totalFailed := Int.le_refl _
  charged := ⟨[], [], by simp, by simp, by simp, by simp, by simp, rfl, rfl⟩

/-- What holds of the counters at every point. -/
structure Balanced (aggregator : MetricsAggregator) : Prop where
  issued : aggregator.registry .trackedSamplesIssued =
    aggregator.registry .trackedSamplesCompleted + aggregator.table.inFlight.size
  blocks : (aggregator.table.totalCompletedTrackedSamples : Int) =
    aggregator.registry .trackedSamplesCompleted
  failed : aggregator.registry .trackedSamplesFailed ≤
    aggregator.registry .trackedSamplesCompleted + aggregator.table.inFlight.size
  totalIssued : aggregator.registry .trackedSamplesIssued ≤
    aggregator.registry .totalSamplesIssued
  totalCompleted : aggregator.registry .trackedSamplesCompleted ≤
    aggregator.registry .totalSamplesCompleted
  totalFailed : aggregator.registry .trackedSamplesFailed ≤
    aggregator.registry .totalSamplesFailed
  durations : ∀ block ∈ aggregator.table.trackedBlocks, 0 ≤ block.durationNs

theorem Accounts.balanced {log : List EventRecord} {aggregator : MetricsAggregator}
    (accounts : aggregator.Accounts log) : aggregator.Balanced where
  issued := accounts.issued
  blocks := accounts.blocks.symm
  failed := by
    obtain ⟨tracked, failed, nodup, subset, _, _, _, trackedIssued, trackedFailed⟩ :=
      accounts.charged
    have fewer := (nodup.subperm subset).length_le
    rw [← accounts.issued, trackedIssued, trackedFailed]
    exact_mod_cast fewer
  totalIssued := accounts.totalIssued
  totalCompleted := accounts.totalCompleted
  totalFailed := accounts.totalFailed
  durations := accounts.wellFormed.durations

end MetricsAggregator

/-! ## Snapshots and reports -/

structure CounterStat where
  name : String
  value : Int
  deriving DecidableEq, Repr

/-- The counters of a snapshot file, with the fields that judge it. -/
structure MetricsSnapshot where
  state : MetricsSessionState
  nPendingTasks : Nat
  metrics : List CounterStat

namespace MetricsSessionState

/-- The text of the state in a snapshot file. -/
def value : MetricsSessionState → String
  | .initializing => "initialize"
  | .live => "live"
  | .draining => "draining"
  | .complete => "complete"
  | .interrupted => "interrupted"

end MetricsSessionState

def MetricsRegistry.buildSnapshot (registry : MetricsRegistry) (state : MetricsSessionState)
    (nPendingTasks : Nat) : MetricsSnapshot where
  state := state
  nPendingTasks := nPendingTasks
  metrics := MetricCounterKey.all.map fun key => ⟨key.value, registry key⟩

structure Report where
  nSamplesIssued : Int
  nSamplesCompleted : Int
  nSamplesFailed : Int
  durationNs : Option Int
  state : String
  complete : Bool
  finishReasonCounts : List (String × Int)

namespace Report

/-- `counters.get(key, 0)`; a later counter of the same name wins. -/
def counter (snapshot : MetricsSnapshot) (key : String) : Int :=
  ((snapshot.metrics.reverse.find? fun stat => stat.name = key).map
    CounterStat.value).getD 0

def nSamplesSucceeded (report : Report) : Int :=
  max 0 (report.nSamplesCompleted - report.nSamplesFailed)

def nSamplesDropped (report : Report) : Int :=
  max 0 (report.nSamplesIssued - report.nSamplesCompleted)

def fromSnapshot (snapshot : MetricsSnapshot) : Report :=
  let rawDurationNs := counter snapshot "tracked_duration_ns"
  let nIssued := counter snapshot "tracked_samples_issued"
  let nFailed := counter snapshot "tracked_samples_failed"
  let nCompleted := counter snapshot "tracked_samples_completed"
  let accountingValid := 0 ≤ nFailed ∧ nFailed ≤ nCompleted ∧ nCompleted ≤ nIssued
  { nSamplesIssued := nIssued
    nSamplesCompleted := nCompleted
    nSamplesFailed := nFailed
    durationNs := if rawDurationNs > 0 then some rawDurationNs else none
    state := snapshot.state.value
    complete :=
      snapshot.state.value = "complete" && snapshot.nPendingTasks = 0 &&
        accountingValid && nCompleted = nIssued
    finishReasonCounts :=
      ["stop", "length", "tool_calls", "content_filter", "function_call", "other"].map
        fun finishReason =>
          (finishReason, counter snapshot ("tracked_finish_reason_" ++ finishReason)) }

/-- A counter is read back from the snapshot of its registry. -/
theorem counter_buildSnapshot (registry : MetricsRegistry) (state : MetricsSessionState)
    (nPendingTasks : Nat) (key : MetricCounterKey) :
    counter (registry.buildSnapshot state nPendingTasks) key.value = registry key := by
  have found : ((registry.buildSnapshot state nPendingTasks).metrics.reverse.find?
      fun stat => stat.name = key.value) = some ⟨key.value, registry key⟩ := by
    cases key <;> rfl
  rw [counter, found]
  rfl

/-- A report without dropped samples, of a registry that is not ahead of the
issued samples. -/
theorem issued_eq_completed {registry : MetricsRegistry} {state : MetricsSessionState}
    {nPendingTasks : Nat}
    (ordered : registry .trackedSamplesCompleted ≤ registry .trackedSamplesIssued)
    (noneDropped :
      (fromSnapshot (registry.buildSnapshot state nPendingTasks)).nSamplesDropped = 0) :
    registry .trackedSamplesIssued = registry .trackedSamplesCompleted := by
  have issued : (fromSnapshot (registry.buildSnapshot state nPendingTasks)).nSamplesIssued =
      registry .trackedSamplesIssued :=
    counter_buildSnapshot registry state nPendingTasks .trackedSamplesIssued
  have completed :
      (fromSnapshot (registry.buildSnapshot state nPendingTasks)).nSamplesCompleted =
        registry .trackedSamplesCompleted :=
    counter_buildSnapshot registry state nPendingTasks .trackedSamplesCompleted
  rw [nSamplesDropped, issued, completed] at noneDropped
  omega

end Report

namespace MetricsAggregator

/-- After every record of every batch the counters balance, and a report of a
complete run without dropped samples counts every issued sample as completed. -/
theorem counters_balance {deliveries : List Delivery} {current : List EventRecord}
    (once : OnceOnly (deliveries.flatMap Delivery.records ++ current)) :
    let aggregator := current.foldl processRecord (deliveries.foldl deliver {})
    aggregator.Balanced ∧
      ∀ state nPendingTasks,
        let report :=
          Report.fromSnapshot (aggregator.registry.buildSnapshot state nPendingTasks)
        report.state = "complete" → report.nSamplesDropped = 0 →
          aggregator.registry .trackedSamplesIssued =
            aggregator.registry .trackedSamplesCompleted := by
  intro aggregator
  have delivered := Accounts.initial.deliveries deliveries current (by simpa using once)
  have accounts := delivered.loop current [] (by simpa using once)
  have balanced : aggregator.Balanced := accounts.balanced
  refine ⟨balanced, ?_⟩
  intro state nPendingTasks report _ noneDropped
  have identity := balanced.issued
  exact Report.issued_eq_completed (by omega) noneDropped

/-- A first window that closes with a sample in flight. -/
def firstWindow : List EventRecord :=
  [{ eventType := .started, timestampNs := 0 },
    { eventType := .startPerformanceTracking, timestampNs := 1 },
    { eventType := .issued, timestampNs := 2, sampleUuid := some 0 },
    { eventType := .stopPerformanceTracking, timestampNs := 3 }]

/-- A second window in which that sample fails and another one is issued. -/
def secondWindow : List EventRecord :=
  [{ eventType := .startPerformanceTracking, timestampNs := 4 },
    { eventType := .issued, timestampNs := 5, sampleUuid := some 1 },
    { eventType := .errorGeneric, timestampNs := 6, sampleUuid := some 0 },
    { eventType := .complete, timestampNs := 7, sampleUuid := some 0 }]

theorem counters_balance_straddling :
    let aggregator := secondWindow.foldl processRecord
      ([Delivery.batch firstWindow].foldl deliver {})
    aggregator.Balanced ∧ aggregator.registry .trackedSamplesIssued = 2 ∧
      aggregator.registry .trackedSamplesCompleted = 1 ∧
      aggregator.registry .trackedSamplesFailed = 1 :=
  ⟨(counters_balance (by decide)).1, by decide, by decide, by decide⟩

end MetricsAggregator

end InferenceEndpoint
