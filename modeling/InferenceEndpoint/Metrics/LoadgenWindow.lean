import InferenceEndpoint.Metrics.EventLog
import Mathlib.Data.List.MinMax
import Mathlib.Logic.Function.Basic

/-!
# The LoadGen window

The window of the legacy metric runs from the first tracked issue to the completion of the
request that was issued last among those that completed.  The table keeps its end by a running
maximum; here the requests of a log are listed, and the maximum is taken over the list.
-/

namespace InferenceEndpoint

/-- A tracked request that completed. -/
structure CompletedRequest where
  uuid : QueryId
  issuedNs : Nat
  completeNs : Nat
  deriving DecidableEq, Repr

/-- The tracked requests of a log: when the first one was issued, which are in flight and
since when, and which completed, in the order of their completions. -/
structure TrackedRequests where
  firstIssuedNs : Option Nat := none
  inFlight : QueryId → Option Nat := fun _ => none
  completed : List CompletedRequest := []

namespace TrackedRequests

def issue (requests : TrackedRequests) (uuid : QueryId) (issuedNs : Nat) : TrackedRequests :=
  { requests with
      firstIssuedNs := requests.firstIssuedNs.or (some issuedNs)
      inFlight := Function.update requests.inFlight uuid (some issuedNs) }

def complete (requests : TrackedRequests) (uuid : QueryId) (completeNs : Nat) :
    TrackedRequests :=
  match requests.inFlight uuid with
  | none => requests
  | some issuedNs =>
      { requests with
          inFlight := Function.update requests.inFlight uuid none
          completed := requests.completed ++ [⟨uuid, issuedNs, completeNs⟩] }

/-- An issue counts while tracking is on, a completion at any time. -/
def add (requests : TrackedRequests) (tracking : Bool) (record : EventRecord) :
    TrackedRequests :=
  match record.sampleUuid, record.eventType with
  | some uuid, .issued => if tracking then requests.issue uuid record.timestampNs else requests
  | some uuid, .complete => requests.complete uuid record.timestampNs
  | _, _ => requests

/-- Continue after `before`, whose requests are known. -/
def addAll : List EventRecord → TrackedRequests → List EventRecord → TrackedRequests
  | _, requests, [] => requests
  | before, requests, record :: rest =>
      addAll (before ++ [record]) (requests.add (isTrackingAfter before) record) rest

def ofLog (log : List EventRecord) : TrackedRequests :=
  addAll [] {} log

/-- The request that was issued last among those that completed, and among equals the one
that completed first. -/
def last (requests : TrackedRequests) : Option CompletedRequest :=
  requests.completed.argmax CompletedRequest.issuedNs

def windowNs (requests : TrackedRequests) : Int :=
  match requests.last, requests.firstIssuedNs with
  | some request, some firstIssuedNs => max 0 ((request.completeNs : Int) - firstIssuedNs)
  | _, _ => 0

theorem addAll_concat (before : List EventRecord) (requests : TrackedRequests)
    (rest : List EventRecord) (record : EventRecord) :
    addAll before requests (rest ++ [record]) =
      (addAll before requests rest).add (isTrackingAfter (before ++ rest)) record := by
  induction rest generalizing before requests with
  | nil => simp [addAll]
  | cons first rest ih =>
      rw [List.cons_append, addAll, ih, addAll, List.append_assoc]
      rfl

theorem ofLog_concat (log : List EventRecord) (record : EventRecord) :
    ofLog (log ++ [record]) = (ofLog log).add (isTrackingAfter log) record :=
  addAll_concat [] {} log record

end TrackedRequests

/-! ## The table follows the requests -/

open TrackedRequests

/-- What the table keeps of the requests. -/
structure MetricsTable.FollowsRequests (table : MetricsTable) (requests : TrackedRequests) :
    Prop where
  start : table.loadgenWindowStartNs = requests.firstIssuedNs
  rows : ∀ uuid, (table.getRow uuid).map SampleRow.issuedNs = (requests.inFlight uuid).map some
  maximum : table.loadgenMaxIssuedNs =
    requests.last.elim (-1) fun request => (request.issuedNs : Int)
  finish : table.loadgenWindowEndNs = requests.last.map CompletedRequest.completeNs

namespace MetricsTable

variable {table : MetricsTable} {requests : TrackedRequests} {record : EventRecord}

theorem handleSessionEvent_window (table : MetricsTable) (record : EventRecord) :
    (table.handleSessionEvent record).loadgenWindowStartNs = table.loadgenWindowStartNs ∧
      (table.handleSessionEvent record).loadgenMaxIssuedNs = table.loadgenMaxIssuedNs ∧
      (table.handleSessionEvent record).loadgenWindowEndNs = table.loadgenWindowEndNs := by
  unfold handleSessionEvent
  split
  · exact ⟨rfl, rfl, rfl⟩
  · split <;> exact ⟨rfl, rfl, rfl⟩
  · exact ⟨rfl, rfl, rfl⟩
  · exact ⟨rfl, rfl, rfl⟩

/-- The window after the completion of a row that was issued at a known time. -/
theorem setField_complete_window {uuid : QueryId} {row : SampleRow} {issuedNs : Nat}
    (complete : record.eventType = .complete) (found : table.getRow uuid = some row)
    (since : row.issuedNs = some issuedNs) :
    let changed := table.setField uuid .completeNs record
    changed.loadgenWindowStartNs = table.loadgenWindowStartNs ∧
      changed.loadgenMaxIssuedNs =
        (if (issuedNs : Int) > table.loadgenMaxIssuedNs then (issuedNs : Int)
          else table.loadgenMaxIssuedNs) ∧
      changed.loadgenWindowEndNs =
        if (issuedNs : Int) > table.loadgenMaxIssuedNs then some record.timestampNs
          else table.loadgenWindowEndNs := by
  have changed : (row.setField .completeNs record.timestampNs).issuedNs = some issuedNs := since
  simp only [setField, complete, reduceCtorEq, if_false, if_true, found, updateTrackedBlock,
    changed]
  by_cases larger : (issuedNs : Int) > table.loadgenMaxIssuedNs
  · rw [if_pos larger, if_pos larger, if_pos larger]
    split <;> exact ⟨rfl, rfl, rfl⟩
  · rw [if_neg larger, if_neg larger, if_neg larger]
    split <;> exact ⟨rfl, rfl, rfl⟩

namespace FollowsRequests

theorem session (follows : table.FollowsRequests requests) (record : EventRecord) :
    (table.handleSessionEvent record).FollowsRequests requests := by
  obtain ⟨start, maximum, finish⟩ := handleSessionEvent_window table record
  refine ⟨start.trans follows.start, fun uuid => ?_, maximum.trans follows.maximum,
    finish.trans follows.finish⟩
  rw [getRow, handleSessionEvent_inFlight]
  exact follows.rows uuid

variable {uuid : QueryId}

theorem issued (follows : table.FollowsRequests requests) (isIssued : record.eventType = .issued)
    (on : table.isTracking = true) :
    (table.setField uuid .issuedNs record).FollowsRequests
      (requests.issue uuid record.timestampNs) := by
  have last : (requests.issue uuid record.timestampNs).last = requests.last := rfl
  have inFlight : (requests.issue uuid record.timestampNs).inFlight =
    Function.update requests.inFlight uuid (some record.timestampNs) := rfl
  refine ⟨?_, fun other => ?_, ?_, ?_⟩
  · simp [setField, isIssued, on, TrackedRequests.issue, follows.start]
  · rw [getRow_setField, inFlight, Function.update_apply]
    by_cases same : other = uuid
    · simp [same, isIssued, on, SampleRow.setField]
    · simpa [same] using follows.rows other
  · simpa [setField, isIssued, on, last] using follows.maximum
  · simpa [setField, isIssued, on, last] using follows.finish

/-- A chunk of a response changes no time of an issue. -/
theorem received (follows : table.FollowsRequests requests) {field : SampleField}
    (notIssued : record.eventType ≠ .issued) (notComplete : record.eventType ≠ .complete)
    (other : field ≠ .issuedNs) :
    (table.setField uuid field record).FollowsRequests requests := by
  cases found : table.getRow uuid with
  | none => rwa [setField_absent notIssued found]
  | some row =>
      rw [setField_received notIssued notComplete found]
      refine ⟨follows.start, fun sample => ?_, follows.maximum, follows.finish⟩
      have kept : (row.setField field record.timestampNs).issuedNs = row.issuedNs := by
        cases field with
        | issuedNs => exact absurd rfl other
        | recvFirstNs | lastRecvNs | completeNs => rfl
      have known := follows.rows sample
      by_cases same : sample = uuid
      · subst same
        rw [found] at known
        simpa [getRow, kept] using known
      · simpa [getRow, OrderedDict.get?_insert_of_ne _ _ same] using known

/-- The running maximum after one more completion. -/
theorem last_complete {issuedNs completeNs : Nat} :
    (({ requests with
        inFlight := Function.update requests.inFlight uuid none
        completed := requests.completed ++ [⟨uuid, issuedNs, completeNs⟩] } :
      TrackedRequests)).last =
      match requests.last with
      | none => some ⟨uuid, issuedNs, completeNs⟩
      | some known =>
          if known.issuedNs < issuedNs then some ⟨uuid, issuedNs, completeNs⟩
          else some known := by
  unfold last
  rw [List.argmax_concat]
  cases requests.completed.argmax CompletedRequest.issuedNs <;> rfl

theorem completed (follows : table.FollowsRequests requests)
    (complete : record.eventType = .complete) :
    (table.setField uuid .completeNs record).FollowsRequests
      (requests.complete uuid record.timestampNs) := by
  have notIssued : record.eventType ≠ .issued := by simp [complete]
  have known := follows.rows uuid
  cases found : table.getRow uuid with
  | none =>
      have absent : requests.inFlight uuid = none := by simpa [found] using known
      rw [setField_absent notIssued found, TrackedRequests.complete, absent]
      exact follows
  | some row =>
      obtain ⟨issuedNs, since, same⟩ : ∃ issuedNs, requests.inFlight uuid = some issuedNs ∧
          row.issuedNs = some issuedNs := by
        cases since : requests.inFlight uuid with
        | none => simp [found, since] at known
        | some issuedNs => exact ⟨issuedNs, rfl, by simpa [found, since] using known⟩
      rw [TrackedRequests.complete, since]
      dsimp only
      have inFlight : ∀ other, ((table.setField uuid .completeNs record).getRow other).map
          SampleRow.issuedNs = (Function.update requests.inFlight uuid none other).map some := by
        intro other
        rw [getRow_setField, Function.update_apply]
        by_cases sameUuid : other = uuid
        · simp [sameUuid, complete]
        · simpa [sameUuid] using follows.rows other
      obtain ⟨start, maximum, finish⟩ := setField_complete_window complete found same
      have positive : (-1 : Int) < issuedNs := by omega
      refine ⟨start.trans follows.start, inFlight, ?_, ?_⟩
      · rw [maximum, last_complete, follows.maximum]
        cases requests.last with
        | none => simp [positive]
        | some request =>
            by_cases later : request.issuedNs < issuedNs
            · simp [later]
            · simp [later]
      · rw [finish, last_complete, follows.maximum, follows.finish]
        cases requests.last with
        | none => simp [positive]
        | some request =>
            by_cases later : request.issuedNs < issuedNs
            · simp [later]
            · simp [later]

/-- One record: the table and the requests take it together. -/
theorem add (follows : table.FollowsRequests requests) {tracking : Bool}
    (same : table.isTracking = tracking) (record : EventRecord) :
    ((table.handleSessionEvent record).sampleEvent record).FollowsRequests
      (requests.add tracking record) := by
  have after := follows.session record
  have flag := handleSessionEvent_isTracking table record
  rw [same] at flag
  unfold sampleEvent TrackedRequests.add
  cases record.sampleUuid with
  | none => exact after
  | some uuid =>
      cases type : record.eventType with
      | issued =>
          rw [type] at flag
          cases tracking with
          | false =>
              dsimp only
              rw [setField_untracked type flag, if_neg Bool.false_ne_true]
              exact after
          | true => exact after.issued type flag
      | recvFirst =>
          have notIssued : record.eventType ≠ .issued := by simp [type]
          have notComplete : record.eventType ≠ .complete := by simp [type]
          have first : ((table.handleSessionEvent record).setField uuid .recvFirstNs
              record).FollowsRequests requests :=
            after.received notIssued notComplete (by decide)
          exact first.received notIssued notComplete (by decide)
      | recvNonFirst => exact after.received (by simp [type]) (by simp [type]) (by decide)
      | complete => exact after.completed type
      | _ => exact after

theorem totalLoadgenWindowNs (follows : table.FollowsRequests requests) :
    table.totalLoadgenWindowNs = requests.windowNs := by
  unfold MetricsTable.totalLoadgenWindowNs TrackedRequests.windowNs
  rw [follows.finish, follows.start]
  cases requests.last with
  | none => rfl
  | some request => cases requests.firstIssuedNs <;> rfl

end FollowsRequests

end MetricsTable

namespace MetricsAggregator

theorem after_followsRequests {log : List EventRecord}
    (noEnd : ∀ before record rest, log = before ++ record :: rest →
      ∀ earlier ∈ before, earlier.eventType ≠ .ended) :
    (after log).table.FollowsRequests (TrackedRequests.ofLog log) := by
  induction log using List.reverseRecOn with
  | nil => exact ⟨rfl, fun _ => rfl, rfl, rfl⟩
  | append_singleton before record ih =>
      have earlier := noEnd before record [] rfl
      have follows := ih fun first middle rest split =>
        noEnd first middle (rest ++ [record]) (by simp [split])
      rw [after_concat, processRecord_table (running_of_not_ended earlier),
        TrackedRequests.ofLog_concat]
      exact follows.add (after_isTracking earlier) record

/-- What the rest of a run reads of an aggregator, as far as its table goes. -/
def SameTable (aggregator other : MetricsAggregator) : Prop :=
  aggregator.table = other.table ∧ aggregator.shutdownReceived = other.shutdownReceived

theorem SameTable.processRecord {aggregator other : MetricsAggregator}
    (same : aggregator.SameTable other) (record : EventRecord) :
    (aggregator.processRecord record).SameTable (other.processRecord record) := by
  obtain ⟨table, shutdown⟩ := same
  constructor
  · cases running : aggregator.shutdownReceived with
    | true =>
        rw [MetricsAggregator.processRecord, MetricsAggregator.processRecord, ← shutdown, running]
        simpa using table
    | false => rw [processRecord_table running, processRecord_table (shutdown ▸ running), table]
  · rw [processRecord_shutdown, processRecord_shutdown, shutdown]

theorem SameTable.loop {aggregator other : MetricsAggregator} (same : aggregator.SameTable other)
    (records : List EventRecord) :
    (records.foldl MetricsAggregator.processRecord aggregator).SameTable
      (records.foldl MetricsAggregator.processRecord other) := by
  induction records generalizing aggregator other with
  | nil => exact same
  | cons record records ih => exact ih (same.processRecord record)

/-- A batch changes the table as its records do, a SIGTERM not at all. -/
theorem SameTable.deliver {aggregator other : MetricsAggregator}
    (same : aggregator.SameTable other) (delivery : Delivery) :
    (aggregator.deliver delivery).SameTable
      (delivery.records.foldl MetricsAggregator.processRecord other) := by
  cases delivery with
  | sigterm => exact ⟨same.1, same.2⟩
  | batch records =>
      have counted : ({ aggregator with
          totalProcessed := aggregator.totalProcessed + records.length } :
            MetricsAggregator).SameTable other := ⟨same.1, same.2⟩
      have looped := counted.loop records
      unfold MetricsAggregator.deliver MetricsAggregator.process
      dsimp only
      split
      · exact ⟨looped.1, looped.2⟩
      · exact looped

theorem deliveries_sameTable (deliveries : List Delivery) :
    (deliveries.foldl deliver {}).SameTable (after (deliveries.flatMap Delivery.records)) := by
  induction deliveries using List.reverseRecOn with
  | nil => exact ⟨rfl, rfl⟩
  | append_singleton deliveries delivery ih =>
      simp only [List.foldl_append, List.foldl_cons, List.foldl_nil, List.flatMap_append,
        List.flatMap_cons, List.flatMap_nil, List.append_nil, after]
      exact ih.deliver delivery

/-- What follows ENDED changes nothing. -/
theorem foldl_loggedRecords (records : List EventRecord) (aggregator : MetricsAggregator) :
    (loggedRecords records).foldl processRecord aggregator =
      records.foldl processRecord aggregator := by
  induction records generalizing aggregator with
  | nil => rfl
  | cons record records ih =>
      unfold loggedRecords
      split
      · rename_i ended
        have shutdown : (aggregator.processRecord record).shutdownReceived = true := by
          rw [processRecord_shutdown, ended]
          simp
        have idle : ∀ rest : List EventRecord,
            rest.foldl processRecord (aggregator.processRecord record) =
              aggregator.processRecord record := by
          intro rest
          induction rest with
          | nil => rfl
          | cons next rest unchanged =>
              have skipped : (aggregator.processRecord record).processRecord next =
                  aggregator.processRecord record := by
                rw [processRecord, shutdown, if_pos rfl]
              rw [List.foldl_cons, skipped, unchanged]
        rw [List.foldl_cons, List.foldl_cons, idle records, List.foldl_nil]
      · exact ih (aggregator.processRecord record)

/-- The window of a run ends with the completion of the request that was issued last among
those that completed, whatever the order of the completions and the batches. -/
theorem loadgen_window (deliveries : List Delivery) :
    (deliveries.foldl deliver {}).table.totalLoadgenWindowNs =
      (TrackedRequests.ofLog
        (loggedRecords (deliveries.flatMap Delivery.records))).windowNs := by
  have follows : (after (loggedRecords (deliveries.flatMap Delivery.records))).table.FollowsRequests
      (TrackedRequests.ofLog (loggedRecords (deliveries.flatMap Delivery.records))) :=
    after_followsRequests fun before record rest split => before_ended split
  rw [(deliveries_sameTable deliveries).1, after, ← foldl_loggedRecords]
  exact follows.totalLoadgenWindowNs

/-- The request that was issued second completes first: the window ends with it, before the
completion of the other one. -/
example :
    let records : List EventRecord :=
      [{ eventType := .started, timestampNs := 0 },
        { eventType := .startPerformanceTracking, timestampNs := 1 },
        { eventType := .issued, timestampNs := 2, sampleUuid := some 0 },
        { eventType := .issued, timestampNs := 5, sampleUuid := some 1 },
        { eventType := .complete, timestampNs := 7, sampleUuid := some 1 },
        { eventType := .complete, timestampNs := 9, sampleUuid := some 0 }]
    ([Delivery.batch records].foldl deliver {}).table.totalLoadgenWindowNs = 5 := by
  decide

end MetricsAggregator

end InferenceEndpoint
