import InferenceEndpoint.Metrics.EventLog

/-!
# Output lengths of the full run

`compute_full_run_osl` reads the log after the run and counts the output of each completed
sample of the performance phase; the aggregator counts the outputs of the samples that it
tracks, in batches while the run goes on.  Where the tracked samples are those of the
performance phase, both count the same lengths.
-/

namespace InferenceEndpoint

namespace FullRunOsl

/-- `_COMPLETE_MARKER`. -/
def completeMarker : Line :=
  asciiBytes "\"event_type\":\"sample.complete\""

def prefixBytes : Nat := 256

/-- The line is read as that of a COMPLETE event. -/
def isMarked (line : Line) : Bool :=
  completeMarker <:+: line.take prefixBytes

/-- `_in_population`. -/
def inPopulation (record : EventRecord) : Option (List QueryId) → Bool
  | none => true
  | some performanceUuids => record.sampleUuid.any performanceUuids.contains

def payloadName : EventData → String
  | .output _ => "TextModelOutput"
  | .prompt _ => "PromptData"
  | .error _ => "ErrorData"
  | .phase _ => "PhaseData"

/-- The counters of the loop over the lines. -/
structure Counters where
  lengths : List Nat := []
  nEmpty : Nat := 0
  nErrors : Nat := 0
  nUndecodable : Nat := 0
  firstError : Option String := none
  seenUuids : List (Option QueryId) := []

/-- The block of the report; `outputSequenceLengths` are the lengths that it summarizes. -/
structure Block where
  outputSequenceLengths : List Nat
  nTurnsCounted : Nat
  nEmpty : Nat
  nErrors : Nat
  nUndecodable : Nat
  nMissing : Nat
  isIncomplete : Bool

section

variable (codec : EventLogCodec) (encode : List ToolCall → String)
  (countTokens : TokenizationInput → Except String Nat)
  (performanceUuids : Option (List QueryId))

def Counters.error (counters : Counters) (message : String) : Counters :=
  { counters with
      nErrors := counters.nErrors + 1
      firstError := counters.firstError.or (some message) }

/-- A record of the population. -/
def Counters.addRecord (counters : Counters) (record : EventRecord) : Counters :=
  let seen := { counters with seenUuids := record.sampleUuid :: counters.seenUuids }
  match record.data with
  | none => { seen with nEmpty := seen.nEmpty + 1 }
  | some (.output result) =>
      match extractTokenizationInput encode result with
      | none => { seen with nEmpty := seen.nEmpty + 1 }
      | some input =>
          match countTokens input with
          | .ok tokens => { seen with lengths := seen.lengths ++ [tokens] }
          | .error message => seen.error message
  | some other => seen.error s!"unexpected {payloadName other} payload"

/-- One turn of the loop. -/
def Counters.addLine (counters : Counters) (line : Line) : Counters :=
  if !isMarked line then counters
  else
    match codec.decode line with
    | none => { counters with nUndecodable := counters.nUndecodable + 1 }
    | some record =>
        if !inPopulation record performanceUuids then counters
        else counters.addRecord encode countTokens record

/-- `compute_full_run_osl`. -/
def compute (lines : List Line) : Option Block :=
  let counters := lines.foldl (Counters.addLine codec encode countTokens performanceUuids) {}
  let nMissing := (performanceUuids.getD []).dedup.countP fun uuid =>
    !counters.seenUuids.contains (some uuid)
  if counters.lengths.isEmpty && counters.nEmpty = 0 && counters.nErrors = 0 &&
      counters.nUndecodable = 0 && nMissing = 0 then none
  else
    some {
      outputSequenceLengths := counters.lengths
      nTurnsCounted := counters.lengths.length
      nEmpty := counters.nEmpty
      nErrors := counters.nErrors
      nUndecodable := counters.nUndecodable
      nMissing := nMissing
      isIncomplete := 0 < counters.nErrors || 0 < counters.nUndecodable || 0 < nMissing }

/-- The lengths that the block summarizes. -/
def lengths (lines : List Line) : List Nat :=
  ((compute codec encode countTokens performanceUuids lines).map
    Block.outputSequenceLengths).getD []

end

/-! ## The lengths of a log -/

/-- The line of a COMPLETE event is found by its first bytes. -/
theorem isMarked_complete {line : Line}
    (start : EventLogCodec.lineStart .complete <+: line) : isMarked line = true := by
  obtain ⟨rest, rfl⟩ := start
  have split : EventLogCodec.lineStart .complete ++ rest =
      asciiBytes "\x7b" ++ (completeMarker ++ rest) := by
    have bytes : EventLogCodec.lineStart .complete = asciiBytes "\x7b" ++ completeMarker := by
      decide
    rw [bytes, List.append_assoc]
  have taken : (asciiBytes "\x7b" ++ (completeMarker ++ rest)).take prefixBytes =
      asciiBytes "\x7b" ++ (completeMarker ++ rest.take (prefixBytes - 31)) := by
    have openLength : (asciiBytes "\x7b").length = 1 := by decide
    have markerLength : completeMarker.length = 30 := by decide
    rw [List.take_append, List.take_append, openLength, markerLength,
      List.take_of_length_le (by rw [openLength]; decide),
      List.take_of_length_le (by rw [markerLength]; decide)]
    rfl
  unfold isMarked
  rw [split, taken, decide_eq_true_iff]
  exact ⟨asciiBytes "\x7b", rest.take (prefixBytes - 31), by simp⟩

variable {codec : EventLogCodec} {encode : List ToolCall → String}
  {count : TokenizationInput → Nat} {performanceUuids : List QueryId}

/-- The length that a record adds. -/
def lengthsOf (encode : List ToolCall → String) (count : TokenizationInput → Nat)
    (performanceUuids : List QueryId) (record : EventRecord) : List Nat :=
  match record.data with
  | some (.output result) =>
      if inPopulation record (some performanceUuids) then
        ((extractTokenizationInput encode result).toList).map count
      else []
  | _ => []

theorem addLine_lengths {record : EventRecord}
    (start : EventLogCodec.lineStart record.eventType <+: codec.encode record)
    (reads : codec.decode (codec.encode record) = some record)
    (outputs : ∀ result, record.data = some (.output result) → record.eventType = .complete)
    (counters : Counters) :
    (counters.addLine codec encode (fun input => .ok (count input)) (some performanceUuids)
      (codec.encode record)).lengths =
        counters.lengths ++ lengthsOf encode count performanceUuids record := by
  unfold Counters.addLine
  cases data : record.data with
  | none =>
      have nothing : lengthsOf encode count performanceUuids record = [] := by
        simp [lengthsOf, data]
      rw [nothing, reads]
      dsimp only
      split
      · simp
      · split <;> simp [Counters.addRecord, data]
  | some payload =>
      cases payload with
      | output result =>
          have marked : isMarked (codec.encode record) = true :=
            isMarked_complete (outputs result data ▸ start)
          simp only [marked, reads, lengthsOf, data, Bool.not_true, Bool.false_eq_true, if_false]
          cases inPopulation record (some performanceUuids) with
          | false => simp
          | true =>
              simp only [Counters.addRecord, data]
              cases extractTokenizationInput encode result with
              | none => simp
              | some input => simp
      | prompt prompt =>
          have nothing : lengthsOf encode count performanceUuids record = [] := by
            simp [lengthsOf, data]
          rw [nothing, reads]
          dsimp only
          split
          · simp
          · split <;> simp [Counters.addRecord, Counters.error, data]
      | error error =>
          have nothing : lengthsOf encode count performanceUuids record = [] := by
            simp [lengthsOf, data]
          rw [nothing, reads]
          dsimp only
          split
          · simp
          · split <;> simp [Counters.addRecord, Counters.error, data]
      | phase phase =>
          have nothing : lengthsOf encode count performanceUuids record = [] := by
            simp [lengthsOf, data]
          rw [nothing, reads]
          dsimp only
          split
          · simp
          · split <;> simp [Counters.addRecord, Counters.error, data]

theorem foldl_addLine_lengths {log : List EventRecord} (keeps : codec.Keeps log)
    (outputs : ∀ record ∈ log, ∀ result, record.data = some (.output result) →
      record.eventType = .complete) (counters : Counters) :
    ((log.map codec.encode).foldl (Counters.addLine codec encode
      (fun input => .ok (count input)) (some performanceUuids)) counters).lengths =
        counters.lengths ++ log.flatMap (lengthsOf encode count performanceUuids) := by
  induction log generalizing counters with
  | nil => simp
  | cons record log ih =>
      obtain ⟨start, reads⟩ := keeps record List.mem_cons_self
      rw [List.map_cons, List.foldl_cons,
        ih (fun other member => keeps other (List.mem_cons_of_mem _ member))
          (fun other member => outputs other (List.mem_cons_of_mem _ member)),
        addLine_lengths start reads (outputs record List.mem_cons_self), List.flatMap_cons,
        List.append_assoc]

/-- The block summarizes the lengths of the log. -/
theorem lengths_eq {log : List EventRecord} (keeps : codec.Keeps log)
    (outputs : ∀ record ∈ log, ∀ result, record.data = some (.output result) →
      record.eventType = .complete) :
    lengths codec encode (fun input => .ok (count input)) (some performanceUuids)
        (log.map codec.encode) =
      log.flatMap (lengthsOf encode count performanceUuids) := by
  have counted := @foldl_addLine_lengths codec encode count performanceUuids log keeps outputs {}
  unfold lengths compute
  dsimp only
  split
  · rename_i nothing
    simp only [Bool.and_eq_true] at nothing
    rw [Option.map_none, Option.getD_none, ← List.nil_append (log.flatMap _), ← counted]
    exact (List.isEmpty_iff.mp nothing.1.1.1.1).symm
  · rw [Option.map_some, Option.getD_some, counted]
    rfl

end FullRunOsl

/-! ## The samples of the performance phase -/

/-- A run in which the samples of the performance phase are issued while tracking is on and
complete once.  The session turns tracking on for that phase only, and only the COMPLETE
event carries an output. -/
structure Windowed (performanceUuids : List QueryId) (log : List EventRecord) : Prop where
  issued : ∀ uuid ∈ performanceUuids, ∃ before issued between completed later,
    log = before ++ issued :: (between ++ completed :: later) ∧ isTrackingAfter before = true ∧
      issued.eventType = .issued ∧ issued.sampleUuid = some uuid ∧
        completed.isCompleteOf uuid = true
  completedOnce : ∀ uuid ∈ performanceUuids,
    (log.filter (EventRecord.isCompleteOf uuid)).length = 1
  onlyPerformance : ∀ before issued later, log = before ++ issued :: later →
    isTrackingAfter before = true → issued.eventType = .issued →
      ∀ uuid, issued.sampleUuid = some uuid → uuid ∈ performanceUuids
  outputs : ∀ record ∈ log, ∀ result, record.data = some (.output result) →
    record.eventType = .complete

namespace MetricsAggregator

/-- A sample with a row was issued while tracking was on. -/
theorem issued_of_times {before : List EventRecord}
    (noEnd : ∀ earlier ∈ before, earlier.eventType ≠ .ended) {uuid : QueryId}
    (row : ((after before).table.times uuid).isSome = true) :
    ∃ first issued rest, before = first ++ issued :: rest ∧ isTrackingAfter first = true ∧
      issued.eventType = .issued ∧ issued.sampleUuid = some uuid := by
  induction before using List.reverseRecOn with
  | nil => simp [after, MetricsTable.times, MetricsTable.getRow] at row
  | append_singleton before record ih =>
      have earlier : ∀ earlier ∈ before, earlier.eventType ≠ .ended :=
        fun earlier member => noEnd earlier (List.mem_append_left _ member)
      by_cases issued : record.sampleUuid = some uuid ∧ record.eventType = .issued ∧
          isTrackingAfter before = true
      · obtain ⟨same, type, tracking⟩ := issued
        exact ⟨before, record, [], rfl, tracking, type, same⟩
      · have kept : ((after before).table.times uuid).isSome = true := by
          rw [times_concat earlier] at row
          split at row
          · rename_i same
            cases type : record.eventType <;>
              simp only [MetricsTable.nextTimes, type, Option.isSome_map, Option.isSome_none,
                Bool.false_eq_true] at row
            all_goals first
              | exact row
              | exact absurd row Bool.false_ne_true
              | skip
            have off : ¬isTrackingAfter before = true := fun on => issued ⟨same, type, on⟩
            rwa [if_neg off] at row
          · exact row
        obtain ⟨first, found, rest, split, facts⟩ := ih earlier kept
        exact ⟨first, found, rest ++ [record], by rw [split]; simp, facts⟩

/-- A sample that was issued while tracking was on has a row until it completes. -/
theorem times_of_issued {first rest : List EventRecord} {issued : EventRecord}
    (noEnd : ∀ earlier ∈ first ++ issued :: rest, earlier.eventType ≠ .ended) {uuid : QueryId}
    (tracking : isTrackingAfter first = true) (type : issued.eventType = .issued)
    (same : issued.sampleUuid = some uuid)
    (incomplete : ∀ later ∈ rest, later.isCompleteOf uuid = false) :
    ((after (first ++ issued :: rest)).table.times uuid).isSome = true := by
  induction rest using List.reverseRecOn with
  | nil =>
      rw [times_concat fun earlier member => noEnd earlier (List.mem_append_left _ member)]
      simp [same, MetricsTable.nextTimes, type, tracking]
  | append_singleton rest record ih =>
      have split : first ++ issued :: (rest ++ [record]) = (first ++ issued :: rest) ++ [record] := by
        simp
      rw [split] at noEnd ⊢
      have earlier : ∀ earlier ∈ first ++ issued :: rest, earlier.eventType ≠ .ended :=
        fun earlier member => noEnd earlier (List.mem_append_left _ member)
      have kept := ih earlier fun later member => incomplete later (List.mem_append_left _ member)
      have open' := incomplete record (by simp)
      rw [times_concat earlier]
      split
      · rename_i uuidSame
        unfold MetricsTable.nextTimes
        cases recordType : record.eventType <;> simp only [Option.isSome_map]
        all_goals first
          | exact kept
          | skip
        · split
          · rfl
          · exact kept
        · simp [EventRecord.isCompleteOf, uuidSame, recordType] at open'
      · exact kept

end MetricsAggregator

/-- The only place of an element that satisfies the predicate. -/
theorem place_unique {Item : Type*} {test : Item → Bool} {items first rest other tail : List Item}
    {item found : Item} (once : (items.filter test).length = 1)
    (split : items = first ++ item :: rest) (holds : test item = true)
    (otherSplit : items = other ++ found :: tail) (otherHolds : test found = true) :
    first = other := by
  have noneBefore : ∀ {before after : List Item} {here : Item},
      items = before ++ here :: after → test here = true → before.filter test = [] := by
    rintro before after here rfl here
    simp only [List.filter_append, List.filter_cons, here, if_true, List.length_append,
      List.length_cons] at once
    exact List.eq_nil_of_length_eq_zero (by omega)
  have firstNone := noneBefore split holds
  have otherNone := noneBefore otherSplit otherHolds
  rw [split] at otherSplit
  rcases List.append_eq_append_iff.mp otherSplit with ⟨extra, otherEq, restEq⟩ |
      ⟨extra, firstEq, restEq⟩
  · cases extra with
    | nil => simpa using otherEq.symm
    | cons head extra =>
        obtain ⟨rfl, -⟩ := List.cons.inj restEq
        rw [otherEq] at otherNone
        simp [List.filter_append, holds] at otherNone
  · cases extra with
    | nil => simpa using firstEq
    | cons head extra =>
        obtain ⟨rfl, -⟩ := List.cons.inj restEq
        rw [firstEq] at firstNone
        simp [List.filter_append, otherHolds] at firstNone

namespace Windowed

variable {performanceUuids : List QueryId} {records : List EventRecord}

/-- A sample has a row when it completes exactly if it is one of the performance phase. -/
theorem times_iff (windowed : Windowed performanceUuids (loggedRecords records))
    {before later : List EventRecord} {record : EventRecord}
    (split : loggedRecords records = before ++ record :: later) {uuid : QueryId}
    (completes : record.isCompleteOf uuid = true) :
    ((MetricsAggregator.after before).table.times uuid).isSome = true ↔
      uuid ∈ performanceUuids := by
  have noEnd := before_ended split
  constructor
  · intro row
    obtain ⟨first, issued, rest, beforeSplit, tracking, type, same⟩ :=
      MetricsAggregator.issued_of_times noEnd row
    refine windowed.onlyPerformance first issued (rest ++ record :: later) ?_ tracking type uuid
      same
    rw [split, beforeSplit]
    simp
  · intro member
    obtain ⟨first, issued, between, completed, last, logSplit, tracking, type, same, isComplete⟩ :=
      windowed.issued uuid member
    have once := windowed.completedOnce uuid member
    have otherSplit : loggedRecords records = (first ++ issued :: between) ++ completed :: last := by
      rw [logSplit]
      simp
    have atBefore : before = first ++ issued :: between :=
      place_unique once split completes otherSplit isComplete
    subst atBefore
    refine MetricsAggregator.times_of_issued noEnd tracking type same ?_
    intro other otherMember
    have notComplete : issued.isCompleteOf uuid = false := by
      simp [EventRecord.isCompleteOf, type]
    rw [split] at once
    simp only [List.filter_append, List.filter_cons, completes, notComplete, if_true,
      Bool.false_eq_true, if_false, List.length_append, List.length_cons] at once
    cases isOther : other.isCompleteOf uuid with
    | false => rfl
    | true =>
        have inside := List.mem_filter.mpr ⟨otherMember, isOther⟩
        have positive := List.length_pos_of_mem inside
        omega

end Windowed

/-- Once nothing is pending, the series of output lengths and the lengths that the full run
counts are the same. -/
theorem windowed_osl_eq_fullRun {tokenizer : Tokenizer} {shards : Nat} {options : TriggerOptions}
    {records : List EventRecord} {state : SeriesAggregator} {codec : EventLogCodec}
    {performanceUuids : List QueryId}
    (finished : state.Finished tokenizer shards options records)
    (keeps : codec.Keeps (loggedRecords records))
    (windowed : Windowed performanceUuids (loggedRecords records)) :
    (state.seriesOf .osl).Perm
      ((FullRunOsl.lengths codec options.encodeToolCalls
        (fun input => .ok (tokenizer.countSync input)) (some performanceUuids)
          ((loggedRecords records).map codec.encode)).map Nat.cast) := by
  rw [FullRunOsl.lengths_eq keeps windowed.outputs]
  refine (finished.seriesOf .osl).trans (.of_eq ?_)
  have fired := MetricsAggregator.allFirings_logged options records
  rw [← fired, List.map_flatMap]
  apply options.values_allFirings tokenizer (by decide) (by decide)
  intro before record later split
  refine ⟨MetricsAggregator.running_of_not_ended (before_ended split), ?_⟩
  cases issuer : record.sampleUuid with
  | none =>
      cases data : record.data with
      | none => simp [FullRunOsl.lengthsOf, data]
      | some payload =>
          cases payload <;>
            simp [FullRunOsl.lengthsOf, data, FullRunOsl.inPopulation, issuer]
  | some uuid =>
      by_cases completes : record.eventType = .complete
      · have isComplete : record.isCompleteOf uuid = true := by
          simp [EventRecord.isCompleteOf, completes, issuer]
        have row := windowed.times_iff split isComplete
        have population : FullRunOsl.inPopulation record (some performanceUuids) =
            ((MetricsAggregator.after before).table.times uuid).isSome := by
          rw [Bool.eq_iff_iff, row]
          simp [FullRunOsl.inPopulation, issuer]
        simp only [Option.elim_some]
        cases data : record.data with
        | none =>
            cases (MetricsAggregator.after before).table.times uuid <;>
              simp [FullRunOsl.lengthsOf, data, TriggerOptions.sampleValues, completes,
                TriggerOptions.oslInput]
        | some payload =>
            cases payload <;>
              cases found : (MetricsAggregator.after before).table.times uuid <;>
              simp [FullRunOsl.lengthsOf, data, TriggerOptions.sampleValues, completes,
                TriggerOptions.oslInput, population, found]
      · have nothing : FullRunOsl.lengthsOf options.encodeToolCalls tokenizer.countSync
            performanceUuids record = [] := by
          cases data : record.data with
          | none => simp [FullRunOsl.lengthsOf, data]
          | some payload =>
              cases payload with
              | output result =>
                  have member : record ∈ loggedRecords records := by simp [split]
                  exact absurd (windowed.outputs record member result data) completes
              | prompt prompt => simp [FullRunOsl.lengthsOf, data]
              | error error => simp [FullRunOsl.lengthsOf, data]
              | phase phase => simp [FullRunOsl.lengthsOf, data]
        rw [nothing, Option.elim_some, List.map_nil]
        cases found : (MetricsAggregator.after before).table.times uuid with
        | none => simp [TriggerOptions.sampleValues]
        | some times =>
            cases type : record.eventType <;>
              simp_all [TriggerOptions.sampleValues]

/-- A tokenizer for which each character is a token. -/
def charTokenizer : Tokenizer where
  encodeLength text := text.length
  tokenizeLength text := text.length
  templateLength
    | none => some 3
    | some message =>
        some (6 + message.content.length + (message.reasoningContent.elim 0 fun reasoning =>
          "<think></think>".length + reasoning.length))
  promptLength _ := 0
  encodeToolCalls _ := "[]"

/-- The line of a record whose payload, if any, is a plain text. -/
def plainLine (record : EventRecord) : Line :=
  let data := match record.data with
    | some (.output { output := .whole text, .. }) => "[\"TextModelOutput\",\"" ++ text ++ "\"]"
    | _ => "null"
  EventLogCodec.lineStart record.eventType ++ asciiBytes (
    ",\"timestamp_ns\":" ++ toString record.timestampNs ++
    ",\"sample_uuid\":\"" ++ record.sampleUuid.elim "" toString ++
    "\",\"conversation_id\":\"\",\"turn\":null,\"data\":" ++ data ++ "\x7d")

/-- The codec on the lines of one log. -/
def plainCodec (log : List EventRecord) : EventLogCodec where
  encode := plainLine
  decode line := log.find? fun record => plainLine record = line

theorem plainCodec_keeps {log : List EventRecord} (distinct : (log.map plainLine).Nodup) :
    (plainCodec log).Keeps log := by
  intro record member
  refine ⟨List.prefix_append _ _, ?_⟩
  cases found : (plainCodec log).decode ((plainCodec log).encode record) with
  | none =>
      have missing := List.find?_eq_none.mp found record member
      simp [plainCodec] at missing
  | some other =>
      have same : plainLine other = plainLine record := by
        have test := List.find?_some found
        exact of_decide_eq_true test
      rw [List.inj_on_of_nodup_map distinct (List.mem_of_find?_eq_some found) member same]

def plainOptions : TriggerOptions where
  encodeToolCalls _ := "[]"

def oneSample : List EventRecord :=
  [{ eventType := .startPerformanceTracking, timestampNs := 1 },
    { eventType := .issued, timestampNs := 2, sampleUuid := some 7 },
    { eventType := .complete, timestampNs := 5, sampleUuid := some 7
      data := some (.output { output := .whole "text" }) },
    { eventType := .stopPerformanceTracking, timestampNs := 6 },
    { eventType := .ended, timestampNs := 8 }]

theorem windowed_osl_eq_fullRun_oneSample :
    ∃ state : SeriesAggregator,
      (state.seriesOf .osl).Perm
        ((FullRunOsl.lengths (plainCodec oneSample) plainOptions.encodeToolCalls
          (fun input => .ok (charTokenizer.countSync input)) (some [7])
            ((loggedRecords oneSample).map (plainCodec oneSample).encode)).map Nat.cast) := by
  obtain ⟨state, finished⟩ := @SeriesAggregator.exists_finished charTokenizer 2
    plainOptions oneSample
  refine ⟨state, windowed_osl_eq_fullRun finished ?_ ?_⟩
  · exact plainCodec_keeps (by decide)
  · constructor
    · intro uuid member
      obtain rfl : uuid = 7 := by simpa using member
      exact ⟨oneSample.take 1, oneSample[1], [], oneSample[2], oneSample.drop 3, by decide⟩
    · intro uuid member
      obtain rfl : uuid = 7 := by simpa using member
      decide
    · intro before issued later split tracking type uuid same
      have member : issued ∈ oneSample := by
        have inLog : issued ∈ loggedRecords oneSample := by simp [split]
        exact inLog
      simp only [oneSample, List.mem_cons, List.not_mem_nil, or_false] at member
      rcases member with rfl | rfl | rfl | rfl | rfl <;> simp_all
    · intro record member result data
      have cases : record ∈ oneSample := member
      simp only [oneSample, List.mem_cons, List.not_mem_nil, or_false] at cases
      rcases cases with rfl | rfl | rfl | rfl | rfl <;> simp_all

end InferenceEndpoint
