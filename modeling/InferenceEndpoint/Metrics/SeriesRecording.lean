import InferenceEndpoint.Metrics.Aggregator
import InferenceEndpoint.Metrics.Tokenization
import Mathlib.Data.Rat.Defs
import Mathlib.Algebra.Order.Ring.Rat

/-!
# Recording the series

The triggers of the metrics table, and the aggregator together with its token queue: events
fire triggers that record a value or enqueue an input with a recorder, and flushes of the
queue run the recorders in between.  Once nothing is pending, the series hold what the
triggers of the processed events stand for, whatever the flushes did.
-/

namespace InferenceEndpoint

/-! ## Triggers -/

inductive MetricSeriesKey
  | isl
  | osl
  | sampleLatencyNs
  | ttftNs
  | chunkDeltaNs
  | tpotNs
  deriving DecidableEq, Repr

/-- The closures that `_make_recorder` builds. -/
inductive Recorder
  /-- The count as it is. -/
  | count (key : MetricSeriesKey)
  /-- The time per token of the output after its first chunk. -/
  | perToken (deltaNs : Int)
  deriving DecidableEq

/-- What a recorder hands to the registry for a token count. -/
def Recorder.recordings : Recorder → Nat → List (MetricSeriesKey × ℚ)
  | count key, tokens => [(key, tokens)]
  | perToken deltaNs, tokens => if tokens = 0 then [] else [(.tpotNs, deltaNs / tokens)]

/-- What a trigger does when it fires. -/
inductive Firing
  | record (key : MetricSeriesKey) (value : ℚ)
  | enqueue (input : TokenizationInput) (recorder : Recorder)

structure TriggerOptions where
  enableIsl : Bool := true
  streaming : Bool := true
  encodeToolCalls : List ToolCall → String

namespace TriggerOptions

open MetricsTable

variable (options : TriggerOptions)

/-- `TimeDeltaTrigger`. -/
def timeDelta (key : MetricSeriesKey) (baseline : Option Nat) (record : EventRecord) :
    List Firing :=
  match baseline with
  | some start => [.record key (((record.timestampNs : Int) - start : Int) : ℚ)]
  | none => []

/-- `TokenTrigger.fire`. -/
def tokenTrigger (key : MetricSeriesKey) (recorder : Recorder) :
    Option TokenizationInput → List Firing
  | none => []
  | some (.tokenIds tokenIds) => [.record key tokenIds.length]
  | some input => [.enqueue input recorder]

/-- The representation of a prompt in the order of priority. -/
def islInput (record : EventRecord) : Option TokenizationInput :=
  match record.data with
  | some (.prompt prompt) =>
      match prompt.tokenIds, nonEmptyText prompt.text, prompt.messages with
      | some tokenIds, _, _ => some (.tokenIds tokenIds)
      | none, some text, _ => some (.text text)
      | none, none, some messages =>
          some (.prompt {
            messages := messages
            tools := prompt.tools
            chatTemplateKwargs := prompt.chatTemplateKwargs
            chatTemplate := prompt.chatTemplate
            toolChoice := prompt.toolChoice })
      | none, none, none => none
  | _ => none

def oslInput (record : EventRecord) : Option TokenizationInput :=
  match record.data with
  | some (.output result) => extractTokenizationInput options.encodeToolCalls result
  | _ => none

def tpotInput (record : EventRecord) : Option TokenizationInput :=
  match record.data with
  | some (.output result) =>
      if result.hasReasoning || result.hasToolCalls then
        some (.message result.asMessagePartsAfterFirstChunk)
      else
        let text := result.textAfterFirstChunk options.encodeToolCalls
        if text ≠ "" then some (.text text) else none
  | _ => none

/-- `TpotTrigger`, for samples that received a first chunk. -/
def tpotTrigger (recvFirstNs : Option Nat) (record : EventRecord) : List Firing :=
  match recvFirstNs with
  | some start =>
      tokenTrigger .tpotNs (.perToken ((record.timestampNs : Int) - start))
        (options.tpotInput record)
  | none => []

/-- `_fire_triggers`, with the triggers in the order of their registration. -/
def fireTriggers (row : MetricsTable.SampleRow) (field : SampleField) (record : EventRecord) :
    List Firing :=
  match field with
  | .issuedNs =>
      if options.enableIsl then tokenTrigger .isl (.count .isl) (islInput record) else []
  | .recvFirstNs => if options.streaming then timeDelta .ttftNs row.issuedNs record else []
  | .lastRecvNs => if options.streaming then timeDelta .chunkDeltaNs row.lastRecvNs record else []
  | .completeNs =>
      timeDelta .sampleLatencyNs row.issuedNs record ++
        (tokenTrigger .osl (.count .osl) (options.oslInput record) ++
          if options.streaming then options.tpotTrigger row.recvFirstNs record else [])

/-- The triggers that `set_field` fires. -/
def fieldFirings (table : MetricsTable) (uuid : QueryId) (field : SampleField)
    (record : EventRecord) : List Firing :=
  if record.eventType = .issued then
    if !table.isTracking then [] else options.fireTriggers (table.createRow uuid) field record
  else
    match table.getRow uuid with
    | none => []
    | some row => options.fireTriggers row field record

/-- The triggers that `process` fires for a record. -/
def firings (aggregator : MetricsAggregator) (record : EventRecord) : List Firing :=
  if aggregator.shutdownReceived then []
  else
    match record.sampleUuid, record.eventType with
    | some uuid, .issued => options.fieldFirings aggregator.table uuid .issuedNs record
    | some uuid, .recvFirst =>
        options.fieldFirings aggregator.table uuid .recvFirstNs record ++
          options.fieldFirings (aggregator.table.setField uuid .recvFirstNs record) uuid
            .lastRecvNs record
    | some uuid, .recvNonFirst => options.fieldFirings aggregator.table uuid .lastRecvNs record
    | some uuid, .complete => options.fieldFirings aggregator.table uuid .completeNs record
    | _, _ => []

/-- The triggers that fire while the aggregator processes the records. -/
def allFirings : MetricsAggregator → List EventRecord → List Firing
  | _, [] => []
  | aggregator, record :: records =>
      options.firings aggregator record ++ allFirings (aggregator.processRecord record) records

theorem allFirings_append (aggregator : MetricsAggregator) (first second : List EventRecord) :
    options.allFirings aggregator (first ++ second) =
      options.allFirings aggregator first ++
        options.allFirings (first.foldl MetricsAggregator.processRecord aggregator) second := by
  induction first generalizing aggregator with
  | nil => rfl
  | cons record records ih =>
      simp only [List.cons_append, allFirings, ih, List.append_assoc, List.foldl_cons]

theorem allFirings_shutdown {aggregator : MetricsAggregator}
    (shutdown : aggregator.shutdownReceived = true) (records : List EventRecord) :
    options.allFirings aggregator records = [] := by
  induction records with
  | nil => rfl
  | cons record records ih =>
      have unchanged : aggregator.processRecord record = aggregator := by
        simp [MetricsAggregator.processRecord, shutdown]
      simp [allFirings, firings, shutdown, unchanged, ih]

end TriggerOptions

namespace Firing

def recorded? : Firing → Option (MetricSeriesKey × ℚ)
  | record key value => some (key, value)
  | enqueue _ _ => none

def enqueued? : Firing → Option (TokenizationInput × Recorder)
  | record _ _ => none
  | enqueue input recorder => some (input, recorder)

/-- What the firing stands for in the series. -/
def recordings (tokenizer : Tokenizer) : Firing → List (MetricSeriesKey × ℚ)
  | record key value => [(key, value)]
  | enqueue input recorder => recorder.recordings (tokenizer.countSync input)

end Firing

/-! ## The aggregator with its queue -/

/-- How a flush of a batch ends. -/
inductive BatchEnding
  | counted (failure : BatchFailure)
  | raised
  | cancelled

/-- `enqueued` are the inputs and recorders of the `enqueue` calls by ticket, `series` the
calls of `MetricsRegistry.record`, and `processed` the records so far. -/
structure SeriesAggregator where
  aggregator : MetricsAggregator := {}
  queue : TokenBatchQueue := {}
  enqueued : List (TokenizationInput × Recorder) := []
  series : List (MetricSeriesKey × ℚ) := []
  processed : List EventRecord := []

namespace SeriesAggregator

inductive Label
  | event (record : EventRecord)
  | beginLive
  | endLive (ending : BatchEnding)
  | callFlushRemaining
  | liveStopped
  | beginDrain
  | endDrain (ending : BatchEnding)
  | lockTimeout
  | cancel

/-- One trigger fires. -/
def fire (state : SeriesAggregator) : Firing → SeriesAggregator
  | .record key value => { state with series := state.series ++ [(key, value)] }
  | .enqueue input recorder =>
      { state with
          queue := state.queue.enqueue input.inputType
          enqueued := state.enqueued ++ [(input, recorder)] }

def inputOf (state : SeriesAggregator) (item : QueuedItem) : TokenizationInput :=
  state.enqueued[item.ticket]?.elim (.tokenIds []) Prod.fst

/-- What the recorder of an item hands to the registry. -/
def recordingsOf (enqueued : List (TokenizationInput × Recorder)) (item : QueuedItem)
    (tokens : Nat) : List (MetricSeriesKey × ℚ) :=
  enqueued[item.ticket]?.elim [] fun queued => queued.2.recordings tokens

section

variable (tokenizer : Tokenizer) (shards : Nat) (options : TriggerOptions)

/-- The outcome of the batch that is in flight. -/
def outcome (state : SeriesAggregator) (live : Bool) : BatchEnding → BatchOutcome
  | .counted failure =>
      .counted (tokenizer.countBatch shards live failure (state.queue.detached.map state.inputOf))
  | .raised => .raised
  | .cancelled => .cancelled

/-- The items that a flush records, with their counts. -/
def countedItems (items : List QueuedItem) : BatchOutcome → List (QueuedItem × Nat)
  | .counted outcomes =>
      if outcomes.length ≠ items.length then []
      else (items.zip outcomes).filterMap fun pair => pair.2.map fun tokens => (pair.1, tokens)
  | .raised => []
  | .cancelled => []

/-- The recorders that run at the end of a flush. -/
def recordAll (state : SeriesAggregator) (counted : List (QueuedItem × Nat)) :
    SeriesAggregator :=
  { state with
      series := state.series ++
        counted.flatMap fun pair => recordingsOf state.enqueued pair.1 pair.2 }

/-- A step of the queue that runs no recorder. -/
def quietly (state : SeriesAggregator) (label : TokenBatchQueue.Label) :
    Option SeriesAggregator :=
  (state.queue.step label).map fun queue => { state with queue := queue }

def step (state : SeriesAggregator) : Label → Option SeriesAggregator
  | .event record =>
      let fired := (options.firings state.aggregator record).foldl fire state
      some
        { fired with
            aggregator := state.aggregator.processRecord record
            processed := state.processed ++ [record] }
  | .endLive ending =>
      let outcome := state.outcome tokenizer shards true ending
      (state.queue.step (.endLive outcome)).map fun queue =>
        { state.recordAll (countedItems state.queue.detached outcome) with queue := queue }
  | .endDrain ending =>
      let outcome := state.outcome tokenizer shards false ending
      (state.queue.step (.endDrain outcome)).map fun queue =>
        { state.recordAll (countedItems state.queue.detached outcome) with queue := queue }
  | .beginLive => state.quietly .beginLive
  | .callFlushRemaining => state.quietly .callFlushRemaining
  | .liveStopped => state.quietly .liveStopped
  | .beginDrain => state.quietly .beginDrain
  | .lockTimeout => state.quietly .lockTimeout
  | .cancel => state.quietly .cancel

/-- The values of one series. -/
def seriesOf (state : SeriesAggregator) (key : MetricSeriesKey) : List ℚ :=
  (state.series.filter fun recorded => recorded.1 = key).map Prod.snd

/-- A state in which the records are processed and no token count is pending. -/
structure Finished (records : List EventRecord) (state : SeriesAggregator) : Prop where
  reachable : GuardedRuns.Reachable (step tokenizer shards options) {} state
  processed : state.processed = records
  drained : state.queue.inflight = 0

end

/-! ## What a flush records -/

theorem recordOutcomes_recorded (outcomes : List (QueuedItem × Option Nat))
    (queue : TokenBatchQueue) :
    (TokenBatchQueue.recordOutcomes outcomes queue).2.recorded =
      queue.recorded ++
        (outcomes.filterMap fun pair => pair.2.map fun tokens => (pair.1, tokens)).map
          Prod.fst := by
  induction outcomes generalizing queue with
  | nil => simp [TokenBatchQueue.recordOutcomes]
  | cons outcome rest ih =>
      obtain ⟨item, count⟩ := outcome
      cases count with
      | none => simpa [TokenBatchQueue.recordOutcomes] using ih queue
      | some count =>
          rw [TokenBatchQueue.recordOutcomes, ih]
          simp [TokenBatchQueue.record]

theorem requeue_recorded (queue : TokenBatchQueue) (live : Bool) (items : List QueuedItem) :
    (queue.requeue live items).recorded = queue.recorded := by
  unfold TokenBatchQueue.requeue
  split <;> rfl

theorem endFlush_recorded (queue : TokenBatchQueue) (items : List QueuedItem) (live : Bool)
    (outcome : BatchOutcome) :
    (queue.endFlush items live outcome).recorded =
      queue.recorded ++ (countedItems items outcome).map Prod.fst := by
  cases outcome with
  | raised => simp [TokenBatchQueue.endFlush, countedItems, requeue_recorded]
  | cancelled => simp [TokenBatchQueue.endFlush, countedItems, requeue_recorded]
  | counted outcomes =>
      simp only [TokenBatchQueue.endFlush, countedItems]
      split
      · simp [requeue_recorded]
      · rw [requeue_recorded, recordOutcomes_recorded]

theorem requeue_enqueued (queue : TokenBatchQueue) (live : Bool) (items : List QueuedItem) :
    (queue.requeue live items).enqueued = queue.enqueued := by
  unfold TokenBatchQueue.requeue
  split <;> rfl

theorem endFlush_enqueued (queue : TokenBatchQueue) (items : List QueuedItem) (live : Bool)
    (outcome : BatchOutcome) :
    (queue.endFlush items live outcome).enqueued = queue.enqueued := by
  cases outcome with
  | raised => simp [TokenBatchQueue.endFlush, requeue_enqueued]
  | cancelled => simp [TokenBatchQueue.endFlush, requeue_enqueued]
  | counted outcomes =>
      simp only [TokenBatchQueue.endFlush]
      split
      · simp [requeue_enqueued]
      · obtain ⟨counted, -, equal⟩ := TokenBatchQueue.recordOutcomes_spec (items.zip outcomes)
          { queue with batch := none }
        rw [requeue_enqueued, equal]

/-- The recorders that ran and the `enqueue` calls are as before. -/
def SameRecords (queue next : TokenBatchQueue) : Prop :=
  next.recorded = queue.recorded ∧ next.enqueued = queue.enqueued

theorem beginFlush_sameRecords (queue : TokenBatchQueue) (live : Bool) :
    SameRecords queue (queue.beginFlush live) := by
  unfold TokenBatchQueue.beginFlush
  split
  · exact ⟨rfl, rfl⟩
  · split <;> exact ⟨rfl, rfl⟩

/-- Only the end of a flush runs recorders. -/
def Quiet : TokenBatchQueue.Label → Prop
  | .enqueue _ | .endLive _ | .endDrain _ => False
  | _ => True

theorem step_sameRecords {queue next : TokenBatchQueue} {label : TokenBatchQueue.Label}
    (edge : queue.step label = some next) (quiet : Quiet label) : SameRecords queue next := by
  cases label with
  | enqueue inputType => exact False.elim quiet
  | endLive outcome => exact False.elim quiet
  | endDrain outcome => exact False.elim quiet
  | beginLive =>
      simp only [TokenBatchQueue.step] at edge
      split at edge
      · obtain rfl := Option.some.inj edge
        exact beginFlush_sameRecords queue true
      · simp at edge
  | callFlushRemaining =>
      simp only [TokenBatchQueue.step] at edge
      split at edge
      · obtain rfl := Option.some.inj edge
        exact ⟨rfl, rfl⟩
      · simp at edge
  | liveStopped =>
      simp only [TokenBatchQueue.step] at edge
      split at edge
      · split at edge <;> obtain rfl := Option.some.inj edge <;> exact ⟨rfl, rfl⟩
      · simp at edge
  | beginDrain =>
      simp only [TokenBatchQueue.step] at edge
      split at edge
      · split at edge
        · obtain rfl := Option.some.inj edge
          exact ⟨rfl, rfl⟩
        · obtain rfl := Option.some.inj edge
          exact beginFlush_sameRecords queue false
      · simp at edge
  | lockTimeout =>
      simp only [TokenBatchQueue.step] at edge
      split at edge
      · obtain rfl := Option.some.inj edge
        exact ⟨rfl, rfl⟩
      · simp at edge
  | cancel =>
      simp only [TokenBatchQueue.step] at edge
      split at edge
      · obtain rfl := Option.some.inj edge
        exact ⟨rfl, rfl⟩
      · obtain rfl := Option.some.inj edge
        exact ⟨rfl, rfl⟩
      · split at edge
        · rename_i items locked
          obtain rfl := Option.some.inj edge
          refine ⟨?_, endFlush_enqueued queue items false .cancelled⟩
          have recorded := endFlush_recorded queue items false .cancelled
          rwa [countedItems, List.map_nil, List.append_nil] at recorded
        · simp at edge
      · simp at edge

/-! ## The series follow the triggers -/

/-- What the item of a ticket stands for. -/
def ticketRecordings (tokenizer : Tokenizer) (enqueued : List (TokenizationInput × Recorder))
    (ticket : Nat) : List (MetricSeriesKey × ℚ) :=
  enqueued[ticket]?.elim [] fun queued => queued.2.recordings (tokenizer.countSync queued.1)

section

variable (tokenizer : Tokenizer) (shards : Nat) (options : TriggerOptions)

/-- The series hold what was recorded directly and what the recorders of the queue recorded,
each with the count of its own input. -/
structure Consistent (state : SeriesAggregator) : Prop where
  queue : TokenBatchQueue.Reachable state.queue
  aggregator : state.aggregator = state.processed.foldl MetricsAggregator.processRecord {}
  enqueued : state.enqueued =
    (options.allFirings {} state.processed).filterMap Firing.enqueued?
  tickets : state.queue.enqueued = state.enqueued.length
  series : state.series.Perm
    ((options.allFirings {} state.processed).filterMap Firing.recorded? ++
      state.queue.recorded.flatMap fun item =>
        ticketRecordings tokenizer state.enqueued item.ticket)

variable {tokenizer} {shards} {options}

/-- Firing triggers records directly and enqueues, and touches nothing else. -/
theorem foldl_fire (state : SeriesAggregator) (firings : List Firing)
    (reachable : TokenBatchQueue.Reachable state.queue) :
    let fired := firings.foldl fire state
    TokenBatchQueue.Reachable fired.queue ∧
      fired.queue.recorded = state.queue.recorded ∧
      fired.queue.enqueued = state.queue.enqueued + (firings.filterMap Firing.enqueued?).length ∧
      fired.enqueued = state.enqueued ++ firings.filterMap Firing.enqueued? ∧
      fired.series = state.series ++ firings.filterMap Firing.recorded? := by
  induction firings generalizing state with
  | nil => simpa using reachable
  | cons firing firings ih =>
      cases firing with
      | record key value =>
          obtain ⟨reached, recorded, enqueued, queued, series⟩ :=
            ih (state.fire (.record key value)) reachable
          refine ⟨reached, recorded, enqueued, queued, ?_⟩
          rw [List.foldl_cons, series]
          simp [fire, Firing.recorded?]
      | enqueue input recorder =>
          have edge : state.queue.step (.enqueue input.inputType) =
              some (state.fire (.enqueue input recorder)).queue := rfl
          obtain ⟨reached, recorded, enqueued, queued, series⟩ :=
            ih (state.fire (.enqueue input recorder)) (reachable.tail edge)
          refine ⟨reached, recorded, ?_, ?_, series⟩
          · rw [List.foldl_cons, enqueued]
            simp only [fire, TokenBatchQueue.enqueue, Firing.enqueued?, List.filterMap_cons,
              List.length_cons]
            omega
          · rw [List.foldl_cons, queued]
            simp [fire, Firing.enqueued?]

theorem ticketRecordings_append {enqueued : List (TokenizationInput × Recorder)} {ticket : Nat}
    (within : ticket < enqueued.length) (later : List (TokenizationInput × Recorder)) :
    ticketRecordings tokenizer (enqueued ++ later) ticket =
      ticketRecordings tokenizer enqueued ticket := by
  rw [ticketRecordings, ticketRecordings, List.getElem?_append_left within]

namespace Consistent

variable {state next : SeriesAggregator}

/-- The recorders that ran belong to `enqueue` calls. -/
theorem ticket_lt (consistent : state.Consistent tokenizer options) {item : QueuedItem}
    (member : item ∈ state.queue.recorded) : item.ticket < state.enqueued.length := by
  obtain ⟨dropped, balanced⟩ := consistent.queue.balanced
  rw [← consistent.tickets]
  exact balanced.exact.2.1 item.ticket (List.mem_map_of_mem member)

theorem initial : ({} : SeriesAggregator).Consistent tokenizer options where
  queue := .refl _
  aggregator := rfl
  enqueued := rfl
  tickets := rfl
  series := .refl _

theorem event (consistent : state.Consistent tokenizer options) (record : EventRecord)
    (edge : step tokenizer shards options state (.event record) = some next) :
    next.Consistent tokenizer options := by
  obtain rfl := Option.some.inj edge
  obtain ⟨reached, recorded, enqueued, queued, series⟩ :=
    foldl_fire state (options.firings state.aggregator record) consistent.queue
  have fired : options.allFirings {} (state.processed ++ [record]) =
      options.allFirings {} state.processed ++ options.firings state.aggregator record := by
    rw [TriggerOptions.allFirings_append, ← consistent.aggregator]
    simp [TriggerOptions.allFirings]
  constructor
  · exact reached
  · simp [consistent.aggregator]
  · simp only [fired, queued, consistent.enqueued, List.filterMap_append]
  · simp only [enqueued, queued, consistent.tickets, List.length_append]
  · have old : (state.queue.recorded.flatMap fun item => ticketRecordings tokenizer
        (state.enqueued ++ (options.firings state.aggregator record).filterMap Firing.enqueued?)
          item.ticket) =
        state.queue.recorded.flatMap fun item =>
          ticketRecordings tokenizer state.enqueued item.ticket := by
      apply List.flatMap_congr
      intro item member
      exact ticketRecordings_append (consistent.ticket_lt member) _
    simp only [fired, series, recorded, queued, old, List.filterMap_append, List.append_assoc]
    refine (consistent.series.append_right _).trans ?_
    rw [List.append_assoc]
    exact List.perm_append_comm.append_left _

/-- A step of the queue that runs no recorder. -/
theorem quiet (consistent : state.Consistent tokenizer options)
    {label : TokenBatchQueue.Label} (edge : state.quietly label = some next)
    (isQuiet : Quiet label) : next.Consistent tokenizer options := by
  obtain ⟨queue, moved, rfl⟩ := Option.map_eq_some_iff.mp edge
  obtain ⟨recorded, enqueued⟩ := step_sameRecords moved isQuiet
  constructor
  · exact consistent.queue.tail moved
  · exact consistent.aggregator
  · exact consistent.enqueued
  · exact enqueued.trans consistent.tickets
  · simpa only [recorded] using consistent.series

/-- The end of a flush, whose recorders run with the counts of their inputs. -/
theorem flushed (consistent : state.Consistent tokenizer options)
    {label : TokenBatchQueue.Label} {queue : TokenBatchQueue} {outcome : BatchOutcome}
    (edge : state.queue.step label = some queue)
    (recorded : queue.recorded =
      state.queue.recorded ++ (countedItems state.queue.detached outcome).map Prod.fst)
    (enqueued : queue.enqueued = state.queue.enqueued)
    (counts : ∀ pair ∈ countedItems state.queue.detached outcome,
      pair.2 = tokenizer.countSync (state.inputOf pair.1)) :
    ({ state.recordAll (countedItems state.queue.detached outcome) with queue := queue } :
      SeriesAggregator).Consistent tokenizer options := by
  constructor
  · exact consistent.queue.tail edge
  · exact consistent.aggregator
  · exact consistent.enqueued
  · exact enqueued.trans consistent.tickets
  · have counted : (countedItems state.queue.detached outcome).flatMap (fun pair =>
        recordingsOf state.enqueued pair.1 pair.2) =
        ((countedItems state.queue.detached outcome).map Prod.fst).flatMap fun item =>
          ticketRecordings tokenizer state.enqueued item.ticket := by
      rw [List.flatMap_map]
      apply List.flatMap_congr
      intro pair member
      rw [recordingsOf, counts pair member, ticketRecordings, inputOf]
      cases state.enqueued[pair.1.ticket]? with
      | none => rfl
      | some queued => rfl
    simp only [recordAll, recorded, counted, List.flatMap_append]
    rw [← List.append_assoc]
    exact consistent.series.append_right _

/-- The counts of a batch are those of its inputs. -/
theorem counts (state : SeriesAggregator) (live : Bool) (ending : BatchEnding) :
    ∀ pair ∈ countedItems state.queue.detached (state.outcome tokenizer shards live ending),
      pair.2 = tokenizer.countSync (state.inputOf pair.1) := by
  cases ending with
  | raised => simp [outcome, countedItems]
  | cancelled => simp [outcome, countedItems]
  | counted failure =>
      simp only [outcome, countedItems]
      split
      · simp
      · have outcomes := tokenizer.countBatch_forall₂ shards live failure
          (state.queue.detached.map state.inputOf)
        rw [List.forall₂_map_left_iff, List.forall₂_iff_zip] at outcomes
        rintro ⟨item, tokens⟩ member
        obtain ⟨⟨other, count⟩, zipped, equal⟩ := List.mem_filterMap.mp member
        obtain ⟨found, rfl, same⟩ := Option.map_eq_some_iff.mp equal
        obtain ⟨rfl, rfl⟩ := Prod.mk.inj same
        exact outcomes.2 zipped _ rfl

theorem step (consistent : state.Consistent tokenizer options) {label : Label}
    (edge : SeriesAggregator.step tokenizer shards options state label = some next) :
    next.Consistent tokenizer options := by
  cases label with
  | event record => exact consistent.event record edge
  | beginLive => exact consistent.quiet edge trivial
  | callFlushRemaining => exact consistent.quiet edge trivial
  | liveStopped => exact consistent.quiet edge trivial
  | beginDrain => exact consistent.quiet edge trivial
  | lockTimeout => exact consistent.quiet edge trivial
  | cancel => exact consistent.quiet edge trivial
  | endLive ending =>
      obtain ⟨queue, moved, rfl⟩ := Option.map_eq_some_iff.mp edge
      have ended := moved
      simp only [TokenBatchQueue.step] at ended
      split at ended
      · rename_i items locked
        obtain rfl := Option.some.inj ended
        have detached : state.queue.detached = items := by
          simp [TokenBatchQueue.detached, locked]
        refine consistent.flushed moved ?_ (endFlush_enqueued _ _ _ _) (counts state true ending)
        rw [endFlush_recorded, detached]
      · simp at ended
  | endDrain ending =>
      obtain ⟨queue, moved, rfl⟩ := Option.map_eq_some_iff.mp edge
      have ended := moved
      simp only [TokenBatchQueue.step] at ended
      split at ended
      · rename_i items locked
        obtain rfl := Option.some.inj ended
        have detached : state.queue.detached = items := by
          simp [TokenBatchQueue.detached, locked]
        refine consistent.flushed moved ?_ (endFlush_enqueued _ _ _ _) (counts state false ending)
        rw [← detached]
        exact endFlush_recorded _ _ _ _
      · simp at ended

end Consistent

/-! ## Nothing pending -/

theorem flatMap_tickets (enqueued : List (TokenizationInput × Recorder)) :
    (List.range enqueued.length).flatMap (ticketRecordings tokenizer enqueued) =
      enqueued.flatMap fun queued => queued.2.recordings (tokenizer.countSync queued.1) := by
  induction enqueued using List.reverseRecOn with
  | nil => rfl
  | append_singleton enqueued queued ih =>
      have old : (List.range enqueued.length).flatMap
          (ticketRecordings tokenizer (enqueued ++ [queued])) =
          (List.range enqueued.length).flatMap (ticketRecordings tokenizer enqueued) := by
        apply List.flatMap_congr
        intro ticket member
        exact ticketRecordings_append (List.mem_range.mp member) _
      rw [List.length_append, List.length_singleton, List.range_succ, List.flatMap_append, old, ih,
        List.flatMap_append]
      simp [ticketRecordings]

/-- The direct recordings and those of the queue are together those of the firings. -/
theorem recordings_perm (firings : List Firing) :
    (firings.filterMap Firing.recorded? ++ (firings.filterMap Firing.enqueued?).flatMap
        fun queued => queued.2.recordings (tokenizer.countSync queued.1)).Perm
      (firings.flatMap (Firing.recordings tokenizer)) := by
  induction firings with
  | nil => exact .refl _
  | cons firing firings ih =>
      cases firing with
      | record key value => exact ih.cons (key, value)
      | enqueue input recorder =>
          simp only [List.filterMap_cons, Firing.recorded?, Firing.enqueued?, List.flatMap_cons,
            Firing.recordings]
          exact (List.perm_append_comm_assoc _ _ _).trans (ih.append_left _)

namespace Finished

variable {records : List EventRecord} {state : SeriesAggregator}

theorem consistent (finished : state.Finished tokenizer shards options records) :
    state.Consistent tokenizer options :=
  GuardedRuns.Reachable.invariant _ (fun _ _ _ kept edge => kept.step edge) Consistent.initial
    finished.reachable

/-- Once nothing is pending, each recorder ran once. -/
theorem tickets (finished : state.Finished tokenizer shards options records) :
    (state.queue.recorded.map QueuedItem.ticket).Perm (List.range state.enqueued.length) := by
  obtain ⟨dropped, balanced⟩ := finished.consistent.queue.balanced
  obtain ⟨nodup, below, pending⟩ := balanced.exact
  have allRecorded : state.queue.unrecorded = [] := by
    apply List.eq_nil_of_length_eq_zero
    have drained := finished.drained
    omega
  rw [← finished.consistent.tickets]
  apply (List.perm_ext_iff_of_nodup nodup List.nodup_range).mpr
  intro ticket
  rw [List.mem_range]
  refine ⟨below ticket, fun enqueued => ?_⟩
  by_contra absent
  have missing : ticket ∈ state.queue.unrecorded :=
    List.mem_filter.mpr ⟨List.mem_range.mpr enqueued, by simpa using absent⟩
  simp [allRecorded] at missing

/-- The series hold what the triggers stand for. -/
theorem series (finished : state.Finished tokenizer shards options records) :
    state.series.Perm
      ((options.allFirings {} records).flatMap (Firing.recordings tokenizer)) := by
  have consistent := finished.consistent
  have fromQueue : (state.queue.recorded.flatMap fun item =>
      ticketRecordings tokenizer state.enqueued item.ticket).Perm
        (state.enqueued.flatMap fun queued =>
          queued.2.recordings (tokenizer.countSync queued.1)) := by
    rw [← flatMap_tickets, ← List.flatMap_map]
    exact finished.tickets.flatMap_right _
  refine consistent.series.trans ((fromQueue.append_left _).trans ?_)
  rw [consistent.enqueued, finished.processed]
  exact recordings_perm _

theorem seriesOf (finished : state.Finished tokenizer shards options records)
    (key : MetricSeriesKey) :
    (state.seriesOf key).Perm
      ((((options.allFirings {} records).flatMap (Firing.recordings tokenizer)).filter
        fun recorded => recorded.1 = key).map Prod.snd) :=
  (finished.series.filter _).map _

end Finished

/-! ## A schedule that finishes -/

/-- No flush was begun. -/
structure Unflushed (queue : TokenBatchQueue) : Prop where
  unlocked : queue.batch = none
  notCalled : queue.flushRemaining = .notCalled
  buffered : queue.inflight = queue.items.length

theorem Unflushed.fire {state : SeriesAggregator} (unflushed : Unflushed state.queue)
    (firings : List Firing) : Unflushed (firings.foldl SeriesAggregator.fire state).queue := by
  induction firings generalizing state with
  | nil => exact unflushed
  | cons firing firings ih =>
      apply ih
      cases firing with
      | record key value => exact unflushed
      | enqueue input recorder =>
          refine ⟨unflushed.unlocked, unflushed.notCalled, ?_⟩
          simp [SeriesAggregator.fire, TokenBatchQueue.enqueue, unflushed.buffered]

/-- The events alone, without a flush. -/
theorem run_events (records : List EventRecord) :
    ∃ state, GuardedRuns.run (step tokenizer shards options) {} (records.map Label.event) =
        some state ∧
      state.processed = records ∧ Unflushed state.queue := by
  induction records using List.reverseRecOn with
  | nil => exact ⟨{}, rfl, rfl, rfl, rfl, rfl⟩
  | append_singleton records record ih =>
      obtain ⟨state, runs, processed, unflushed⟩ := ih
      let next : SeriesAggregator :=
        { (options.firings state.aggregator record).foldl SeriesAggregator.fire state with
            aggregator := state.aggregator.processRecord record
            processed := state.processed ++ [record] }
      refine ⟨next, ?_, ?_, unflushed.fire (options.firings state.aggregator record)⟩
      · rw [List.map_append, GuardedRuns.run_append, runs]
        rfl
      · simp only [next, processed]

theorem recordOutcomes_all (outcomes : List (QueuedItem × Option Nat)) (queue : TokenBatchQueue)
    (counted : ∀ pair ∈ outcomes, pair.2.isSome = true) :
    TokenBatchQueue.recordOutcomes outcomes queue =
      ([], { queue with
        inflight := queue.inflight - outcomes.length
        recorded := queue.recorded ++ outcomes.map Prod.fst }) := by
  induction outcomes generalizing queue with
  | nil => simp [TokenBatchQueue.recordOutcomes]
  | cons outcome rest ih =>
      obtain ⟨item, count⟩ := outcome
      cases count with
      | none => simpa using counted (item, none) List.mem_cons_self
      | some count =>
          rw [TokenBatchQueue.recordOutcomes,
            ih (queue.record item) fun pair member => counted pair (List.mem_cons_of_mem _ member)]
          simp only [TokenBatchQueue.record, List.length_cons, List.map_cons, List.append_assoc,
            List.singleton_append, Nat.cast_succ]
          congr 2
          omega

/-- Any records can be processed so that nothing is pending in the end. -/
theorem exists_finished (records : List EventRecord) :
    ∃ state : SeriesAggregator, state.Finished tokenizer shards options records := by
  obtain ⟨state, runs, processed, unflushed⟩ :=
    @run_events tokenizer shards options records
  have reachable : GuardedRuns.Reachable (step tokenizer shards options) {} state := ⟨_, runs⟩
  by_cases empty : state.queue.items = []
  · refine ⟨state, reachable, processed, ?_⟩
    rw [unflushed.buffered, empty]
    rfl
  · have pending : state.queue.inflight ≠ 0 := by
      rw [unflushed.buffered]
      simpa using empty
    have filled : state.queue.items.isEmpty = false := by simpa using empty
    let called : SeriesAggregator := { state with queue :=
      { state.queue with flushRemaining := .awaitingLive } }
    let waiting : SeriesAggregator := { state with queue :=
      { state.queue with flushRemaining := .awaitingLock } }
    let draining : SeriesAggregator := { state with queue :=
      { state.queue with
          flushRemaining := .draining
          batch := some (state.queue.items, false)
          items := [] } }
    have toCalled : step tokenizer shards options state .callFlushRemaining = some called := by
      simp [step, quietly, TokenBatchQueue.step, unflushed.notCalled, called]
    have toWaiting : step tokenizer shards options called .liveStopped = some waiting := by
      simp [step, quietly, TokenBatchQueue.step, pending, called, waiting]
    have toDraining : step tokenizer shards options waiting .beginDrain = some draining := by
      simp [step, quietly, TokenBatchQueue.step, TokenBatchQueue.beginFlush, unflushed.unlocked,
        filled, waiting, draining]
    have drains := ((reachable.tail toCalled).tail toWaiting).tail toDraining
    let outcome := draining.outcome tokenizer shards false (.counted {})
    let drained : SeriesAggregator :=
      { draining.recordAll (countedItems draining.queue.detached outcome) with
          queue := (draining.queue.endFlush state.queue.items false outcome).finish }
    have toDrained : step tokenizer shards options draining (.endDrain (.counted {})) =
        some drained := rfl
    refine ⟨drained, drains.tail toDrained, processed, ?_⟩
    have complete := tokenizer.countBatch_complete shards false
      (state.queue.items.map draining.inputOf)
    have same : (tokenizer.countBatch shards false {}
        (state.queue.items.map draining.inputOf)).length = state.queue.items.length := by
      simp [Tokenizer.countBatch]
    have all : ∀ pair ∈ state.queue.items.zip (tokenizer.countBatch shards false {}
        (state.queue.items.map draining.inputOf)), pair.2.isSome = true :=
      fun pair member => complete pair.2 (List.of_mem_zip member).2
    have counted : outcome = .counted (tokenizer.countBatch shards false {}
        (state.queue.items.map draining.inputOf)) := rfl
    simp only [drained, counted, TokenBatchQueue.finish, TokenBatchQueue.endFlush, same, ne_eq,
      not_true_eq_false, if_false, recordOutcomes_all _ _ all, TokenBatchQueue.requeue,
      Bool.false_eq_true, List.length_zip, Nat.min_self]
    simp only [draining, unflushed.buffered]
    omega

end

end SeriesAggregator

end InferenceEndpoint
