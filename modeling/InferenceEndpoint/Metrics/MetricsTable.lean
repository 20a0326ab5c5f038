import InferenceEndpoint.Library.OrderedDict
import InferenceEndpoint.Core.Record
import Mathlib.Algebra.Order.Ring.Int

/-!
# Metrics table

`MetricsTable` holds one row for each tracked sample in flight and the tracking
blocks.  A row is created by ISSUED while tracking is on and removed by
COMPLETE, whatever the tracking flag says then.  The triggers that record into
the series are left out: they read rows and never change them.
-/

namespace InferenceEndpoint

namespace MetricsTable

inductive SampleField
  | issuedNs
  | recvFirstNs
  | lastRecvNs
  | completeNs
  deriving DecidableEq, Repr

structure SampleRow where
  sampleUuid : QueryId
  trackedBlockIdx : Int := -1
  issuedNs : Option Nat := none
  recvFirstNs : Option Nat := none
  lastRecvNs : Option Nat := none
  completeNs : Option Nat := none
  deriving DecidableEq, Repr

namespace SampleRow

def setField (row : SampleRow) (field : SampleField) (value : Nat) : SampleRow :=
  match field with
  | .issuedNs => { row with issuedNs := some value }
  | .recvFirstNs => { row with recvFirstNs := some value }
  | .lastRecvNs => { row with lastRecvNs := some value }
  | .completeNs => { row with completeNs := some value }

@[simp]
theorem setField_trackedBlockIdx (row : SampleRow) (field : SampleField) (value : Nat) :
    (row.setField field value).trackedBlockIdx = row.trackedBlockIdx := by
  cases field <;> rfl

end SampleRow

/-- A window from START_PERFORMANCE_TRACKING to the last completion of its
samples. -/
structure TrackedBlock where
  startNs : Nat
  lastCompleteNs : Nat
  completedSamples : Nat := 0
  deriving DecidableEq, Repr

namespace TrackedBlock

def durationNs (block : TrackedBlock) : Int :=
  (block.lastCompleteNs : Int) - block.startNs

/-- One more sample of the block completed. -/
def complete (block : TrackedBlock) (completeNs : Nat) : TrackedBlock :=
  { block with
      lastCompleteNs :=
        if completeNs > block.lastCompleteNs then completeNs else block.lastCompleteNs
      completedSamples := block.completedSamples + 1 }

theorem complete_durationNs (block : TrackedBlock) (completeNs : Nat) :
    block.durationNs ≤ (block.complete completeNs).durationNs := by
  simp only [complete, durationNs]
  split <;> omega

end TrackedBlock

end MetricsTable

open MetricsTable in
structure MetricsTable where
  inFlight : OrderedDict QueryId MetricsTable.SampleRow := ∅
  isTracking : Bool := false
  sessionStartedNs : Option Nat := none
  trackedBlocks : List TrackedBlock := []
  loadgenMaxIssuedNs : Int := -1
  loadgenWindowEndNs : Option Nat := none
  loadgenWindowStartNs : Option Nat := none

namespace MetricsTable

def handleSessionEvent (table : MetricsTable) (record : EventRecord) : MetricsTable :=
  match record.eventType with
  | .started => { table with sessionStartedNs := some record.timestampNs }
  | .startPerformanceTracking =>
      if table.isTracking then table
      else
        { table with
            isTracking := true
            trackedBlocks :=
              table.trackedBlocks ++ [⟨record.timestampNs, record.timestampNs, 0⟩] }
  | .stopPerformanceTracking => { table with isTracking := false }
  | _ => table

def getRow (table : MetricsTable) (uuid : QueryId) : Option SampleRow :=
  table.inFlight.get? uuid

def totalTrackedDurationNs (table : MetricsTable) : Int :=
  (table.trackedBlocks.map TrackedBlock.durationNs).sum

def totalCompletedTrackedSamples (table : MetricsTable) : Nat :=
  (table.trackedBlocks.map TrackedBlock.completedSamples).sum

def totalLoadgenWindowNs (table : MetricsTable) : Int :=
  match table.loadgenWindowEndNs, table.loadgenWindowStartNs with
  | some finish, some start => max 0 ((finish : Int) - start)
  | _, _ => 0

/-- The row of the sample: the one in flight, or a new one. -/
def createRow (table : MetricsTable) (uuid : QueryId) : SampleRow :=
  (table.getRow uuid).getD { sampleUuid := uuid }

def updateTrackedBlock (table : MetricsTable) (row : SampleRow) (completeNs : Nat) :
    MetricsTable :=
  let counted : MetricsTable :=
    if 0 ≤ row.trackedBlockIdx ∧ row.trackedBlockIdx < table.trackedBlocks.length then
      { table with
          trackedBlocks := table.trackedBlocks.modify row.trackedBlockIdx.toNat fun block =>
            block.complete completeNs }
    else table
  match row.issuedNs with
  | some issuedNs =>
      if (issuedNs : Int) > table.loadgenMaxIssuedNs then
        { counted with
            loadgenMaxIssuedNs := issuedNs
            loadgenWindowEndNs := some completeNs }
      else counted
  | none => counted

/-- `set_field` for the event of the record, which is the `value` of the field. -/
def setField (table : MetricsTable) (uuid : QueryId) (field : SampleField)
    (record : EventRecord) : MetricsTable :=
  if record.eventType = .issued then
    if !table.isTracking then table
    else
      let row : SampleRow :=
        { table.createRow uuid with
            trackedBlockIdx := (table.trackedBlocks.length : Int) - 1 }
      { table with
          loadgenWindowStartNs :=
            table.loadgenWindowStartNs.or (some record.timestampNs)
          inFlight :=
            table.inFlight.insert uuid (row.setField field record.timestampNs) }
  else
    match table.getRow uuid with
    | none => table
    | some row =>
        let changed := row.setField field record.timestampNs
        if record.eventType = .complete then
          let updated := table.updateTrackedBlock changed record.timestampNs
          { updated with inFlight := table.inFlight.erase uuid }
        else { table with inFlight := table.inFlight.insert uuid changed }

/-! ## What one update does to rows and blocks -/

/-- The sum of the completions after one more in the block at the index. -/
theorem sum_completedSamples_modify (blocks : List TrackedBlock) (index completeNs : Nat)
    (within : index < blocks.length) :
    ((blocks.modify index fun block => block.complete completeNs).map
      TrackedBlock.completedSamples).sum =
      (blocks.map TrackedBlock.completedSamples).sum + 1 := by
  induction blocks generalizing index with
  | nil => simp at within
  | cons block blocks ih =>
      cases index with
      | zero =>
          simp [TrackedBlock.complete]
          omega
      | succ index =>
          have counted := ih index (by simpa using within)
          simp only [List.modify_succ_cons, List.map_cons, List.sum_cons]
          omega

/-- Every block has a duration that is not negative, tracking means there is a
block, and every row belongs to a block. -/
structure WellFormed (table : MetricsTable) : Prop where
  durations : ∀ block ∈ table.trackedBlocks, 0 ≤ block.durationNs
  tracking : table.isTracking = true → table.trackedBlocks ≠ []
  rows : ∀ uuid row, table.getRow uuid = some row →
    0 ≤ row.trackedBlockIdx ∧ row.trackedBlockIdx < table.trackedBlocks.length

namespace WellFormed

theorem initial : ({} : MetricsTable).WellFormed where
  durations := by simp
  tracking := by simp
  rows := by simp [getRow]

theorem handleSessionEvent {table : MetricsTable} (wellFormed : table.WellFormed)
    (record : EventRecord) : (table.handleSessionEvent record).WellFormed := by
  unfold MetricsTable.handleSessionEvent
  split
  · exact ⟨wellFormed.durations, wellFormed.tracking, wellFormed.rows⟩
  · split
    · exact wellFormed
    · refine ⟨?_, by simp, ?_⟩
      · intro block member
        rcases List.mem_append.mp member with old | new
        · exact wellFormed.durations block old
        · rw [List.mem_singleton.mp new]
          simp [TrackedBlock.durationNs]
      · intro uuid row found
        have within := wellFormed.rows uuid row found
        simp only [List.length_append, List.length_singleton]
        omega
  · exact ⟨wellFormed.durations, by simp, wellFormed.rows⟩
  · exact wellFormed

end WellFormed

/-- The rows and the completions of the blocks are those of another table. -/
def SameAccounts (table other : MetricsTable) : Prop :=
  other.inFlight = table.inFlight ∧
    other.totalCompletedTrackedSamples = table.totalCompletedTrackedSamples

theorem handleSessionEvent_accounts (table : MetricsTable) (record : EventRecord) :
    table.SameAccounts (table.handleSessionEvent record) := by
  unfold handleSessionEvent
  split
  · exact ⟨rfl, rfl⟩
  · split
    · exact ⟨rfl, rfl⟩
    · exact ⟨rfl, by simp [totalCompletedTrackedSamples]⟩
  · exact ⟨rfl, rfl⟩
  · exact ⟨rfl, rfl⟩

section Updates

variable {table : MetricsTable} {uuid : QueryId} {record : EventRecord}

/-- ISSUED while tracking is off. -/
theorem setField_untracked (issued : record.eventType = .issued)
    (off : table.isTracking = false) (field : SampleField) :
    table.setField uuid field record = table := by
  simp [setField, issued, off]

variable (uuid) in
/-- ISSUED while tracking is on: the sample has a row, the blocks are as before. -/
theorem setField_issued (issued : record.eventType = .issued)
    (on : table.isTracking = true) (field : SampleField) :
    ∃ row : SampleRow, row.trackedBlockIdx = (table.trackedBlocks.length : Int) - 1 ∧
      (table.setField uuid field record).inFlight = table.inFlight.insert uuid row ∧
      (table.setField uuid field record).trackedBlocks = table.trackedBlocks ∧
      (table.setField uuid field record).isTracking = true := by
  refine ⟨_, ?_, by simp [setField, issued, on]; rfl, by simp [setField, issued, on],
    by simp [setField, issued, on]⟩
  simp

/-- Another event of a sample without a row. -/
theorem setField_absent (notIssued : record.eventType ≠ .issued)
    (absent : table.getRow uuid = none) (field : SampleField) :
    table.setField uuid field record = table := by
  simp [setField, notIssued, absent]

/-- A chunk: only the row changes. -/
theorem setField_received (notIssued : record.eventType ≠ .issued)
    (notComplete : record.eventType ≠ .complete) {row : SampleRow}
    (found : table.getRow uuid = some row) (field : SampleField) :
    table.setField uuid field record =
      { table with
          inFlight := table.inFlight.insert uuid (row.setField field record.timestampNs) } := by
  simp [setField, notIssued, notComplete, found]

/-- COMPLETE of a sample with a row: the row is gone and its block counts one
more sample. -/
theorem setField_complete (wellFormed : table.WellFormed)
    (complete : record.eventType = .complete) {row : SampleRow}
    (found : table.getRow uuid = some row) (field : SampleField) :
    (table.setField uuid field record).inFlight = table.inFlight.erase uuid ∧
      (table.setField uuid field record).isTracking = table.isTracking ∧
      (table.setField uuid field record).trackedBlocks =
        table.trackedBlocks.modify row.trackedBlockIdx.toNat fun block =>
          block.complete record.timestampNs := by
  have within := wellFormed.rows uuid row found
  simp only [setField, complete, found, if_true]
  refine ⟨by simp, ?_, ?_⟩
  all_goals
    simp only [reduceCtorEq, if_false, updateTrackedBlock,
      SampleRow.setField_trackedBlockIdx, within, and_self, if_true]
    split
    · split <;> rfl
    · rfl

theorem WellFormed.setField (wellFormed : table.WellFormed) (field : SampleField) :
    (table.setField uuid field record).WellFormed := by
  by_cases issued : record.eventType = .issued
  · cases on : table.isTracking with
    | false => rwa [setField_untracked issued on]
    | true =>
        obtain ⟨row, index, inFlight, blocks, tracking⟩ :=
          setField_issued uuid issued on field
        have nonempty := wellFormed.tracking on
        refine ⟨by rw [blocks]; exact wellFormed.durations, by rw [blocks]; exact fun _ => nonempty,
          ?_⟩
        intro other found otherFound
        rw [blocks]
        rw [getRow, inFlight, OrderedDict.get?_insert] at otherFound
        split at otherFound
        · obtain rfl := Option.some.inj otherFound
          have positive := List.length_pos_iff.mpr nonempty
          omega
        · exact wellFormed.rows other found otherFound
  · cases found : table.getRow uuid with
    | none => rwa [setField_absent issued found]
    | some row =>
        by_cases complete : record.eventType = .complete
        · obtain ⟨inFlight, tracking, blocks⟩ :=
            setField_complete wellFormed complete found field
          refine ⟨?_, ?_, ?_⟩
          · rw [blocks]
            intro block member
            obtain ⟨index, within, rfl⟩ := List.getElem_of_mem member
            rw [List.getElem_modify]
            have inside : index < table.trackedBlocks.length := by simpa using within
            have old := wellFormed.durations table.trackedBlocks[index] (List.getElem_mem _)
            split
            · exact Int.le_trans old (TrackedBlock.complete_durationNs _ _)
            · exact old
          · intro on
            rw [blocks]
            have nonempty := wellFormed.tracking (tracking ▸ on)
            simpa using nonempty
          · intro other found otherFound
            rw [getRow, inFlight, OrderedDict.get?_erase] at otherFound
            rw [blocks, List.length_modify]
            split at otherFound
            · simp at otherFound
            · exact wellFormed.rows other found otherFound
        · rw [setField_received issued complete found]
          refine ⟨wellFormed.durations, wellFormed.tracking, ?_⟩
          intro other otherRow otherFound
          simp only [getRow, OrderedDict.get?_insert] at otherFound
          split at otherFound
          · obtain rfl := Option.some.inj otherFound
            simpa using wellFormed.rows uuid row found
          · exact wellFormed.rows other otherRow otherFound

end Updates

end MetricsTable

end InferenceEndpoint
