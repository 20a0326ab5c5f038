import InferenceEndpoint.Core.Record
import InferenceEndpoint.Evaluation.RepeatSuffix
import InferenceEndpoint.Library.OrderedDict
import InferenceEndpoint.Metrics.Tokenization
import Mathlib.Data.Finset.Insert
import Mathlib.Data.List.Count

/-!
# The join of issued and completed turns

The inline scorer reads the event log once and files the outputs under the turns that were
issued for them.  A completion may stand before its turn was issued, and a turn that timed
out may get a real output later; what the join ends with depends on neither.
-/

namespace InferenceEndpoint

namespace EventJoin

/-- Conversation, repeat and turn. -/
abbrev Key := String × Nat × Nat

/-- The assistant turn that a model output stands for. -/
structure ModelTurn where
  role : String := "assistant"
  content : String
  reasoningContent : Option String
  toolCalls : Option (List ToolCall)
  deriving DecidableEq, Repr

/-- The model turn of a `TextModelOutput`; other data is none. -/
def modelTurn : Option EventData → Option ModelTurn
  | some (.output output) =>
      let parts := output.asMessageParts
      some
        { content := parts.content
          reasoningContent := parts.reasoning
          toolCalls := parts.toolCalls.filter (· ≠ []) }
  | _ => none

structure Join where
  uuidToKey : OrderedDict (Option QueryId) Key := ∅
  completedByUuid : OrderedDict (Option QueryId) (Option ModelTurn) := ∅
  issuedTurns : Finset Key := ∅
  modelTurns : OrderedDict Key (Option ModelTurn) := ∅

/-- How a line is decoded, if it is well-formed, and which conversation and repeat the
expression of the repeat suffix and `int` read from an id. -/
structure LogReader where
  decode : String → Option EventRecord
  splitRepeat : String → String × Nat

variable (reader : LogReader) (expectedKeys : List (String × Nat))

/-- The key of a record, unless the record is skipped. -/
def keyOf (record : EventRecord) : Option Key :=
  match record.turn with
  | none => none
  | some turn =>
      if record.conversationId = "" then none
      else
        let (conversationId, repeatId) := reader.splitRepeat record.conversationId
        if expectedKeys.contains (conversationId, turn) then some (conversationId, repeatId, turn)
        else none

def joinIssued (join : Join) (record : EventRecord) (key : Key) : Join :=
  { join with
    uuidToKey := join.uuidToKey.insert record.sampleUuid key
    issuedTurns := insert key join.issuedTurns
    modelTurns :=
      match join.completedByUuid.get? record.sampleUuid with
      | some model => join.modelTurns.insert key model
      | none => join.modelTurns }

def joinComplete (join : Join) (record : EventRecord) : Join :=
  let model := modelTurn record.data
  { join with
    completedByUuid :=
      if model.isSome ∨ ¬ join.completedByUuid.contains record.sampleUuid then
        join.completedByUuid.insert record.sampleUuid model
      else join.completedByUuid
    modelTurns :=
      match join.uuidToKey.get? record.sampleUuid with
      | some key =>
          if model.isSome ∨ ¬ join.modelTurns.contains key then join.modelTurns.insert key model
          else join.modelTurns
      | none => join.modelTurns }

def joinRecord (join : Join) (record : EventRecord) : Join :=
  if record.eventType = .issued ∨ record.eventType = .complete then
    match keyOf reader expectedKeys record with
    | none => join
    | some key =>
        if record.eventType = .issued then joinIssued join record key
        else joinComplete join record
  else join

/-- `_issued_and_completed_model_turns`; blank and malformed lines are skipped. -/
def issuedAndCompletedModelTurns (lines : List String) : Join :=
  (lines.filterMap reader.decode).foldl (joinRecord reader expectedKeys) {}

/-! ## What the records say -/

/-- The record issues the sample as the turn of the key. -/
def Issues (record : EventRecord) (uuid : Option QueryId) (key : Key) : Prop :=
  record.eventType = .issued ∧ record.sampleUuid = uuid ∧
    keyOf reader expectedKeys record = some key

/-- The record completes the sample, and is not skipped. -/
def completes (uuid : Option QueryId) (record : EventRecord) : Bool :=
  record.eventType = .complete ∧ record.sampleUuid = uuid ∧
    (keyOf reader expectedKeys record).isSome

/-- The output that the record has for the sample. -/
def outputFor (uuid : Option QueryId) (record : EventRecord) : Option ModelTurn :=
  if completes reader expectedKeys uuid record then modelTurn record.data else none

/-- What the completions of a sample come to: nothing without one, and else the last output
that one of them carries. -/
def outcome (records : List EventRecord) (uuid : Option QueryId) : Option (Option ModelTurn) :=
  if records.any (completes reader expectedKeys uuid) then
    some (records.reverse.findSome? (outputFor reader expectedKeys uuid))
  else none

theorem outcome_concat (records : List EventRecord) (record : EventRecord)
    (uuid : Option QueryId) :
    outcome reader expectedKeys (records ++ [record]) uuid =
      if completes reader expectedKeys uuid record then
        some ((modelTurn record.data).or (outcome reader expectedKeys records uuid).join)
      else outcome reader expectedKeys records uuid := by
  have none_ : records.any (completes reader expectedKeys uuid) = false →
      records.reverse.findSome? (outputFor reader expectedKeys uuid) = none := by
    intro nothing
    rw [List.findSome?_eq_none_iff]
    intro earlier member
    have incomplete := List.any_eq_false.mp nothing earlier (List.mem_reverse.mp member)
    exact if_neg incomplete
  unfold outcome
  rw [List.any_append, List.reverse_append, List.reverse_singleton, List.singleton_append,
    List.findSome?_cons]
  by_cases complete : completes reader expectedKeys uuid record = true
  · have isOutput : outputFor reader expectedKeys uuid record = modelTurn record.data :=
      if_pos complete
    simp only [List.any_cons, complete, List.any_nil, Bool.or_false, Bool.or_true, if_true,
      isOutput]
    cases modelTurn record.data with
    | some model => rfl
    | none =>
        cases before : records.any (completes reader expectedKeys uuid) with
        | true => rfl
        | false => simp [none_ before]
  · have noOutput : outputFor reader expectedKeys uuid record = none := if_neg complete
    simp only [List.any_cons, complete, List.any_nil, Bool.or_false, noOutput,
      Bool.false_eq_true, if_false]

/-- Each sample has a key of its own, which all its records carry. -/
def OwnKeys (records : List EventRecord) : Prop :=
  ∀ first ∈ records, ∀ second ∈ records,
    (first.eventType = .issued ∨ first.eventType = .complete) →
    (second.eventType = .issued ∨ second.eventType = .complete) →
    (first.sampleUuid = second.sampleUuid →
        keyOf reader expectedKeys first = keyOf reader expectedKeys second) ∧
      ((keyOf reader expectedKeys first).isSome →
        keyOf reader expectedKeys first = keyOf reader expectedKeys second →
        first.sampleUuid = second.sampleUuid)

/-- The dictionaries of the join say what the records read so far say. -/
structure Holds (records : List EventRecord) (join : Join) : Prop where
  issued : ∀ key, key ∈ join.issuedTurns ↔
    ∃ record ∈ records, ∃ uuid, Issues reader expectedKeys record uuid key
  known : ∀ uuid key, join.uuidToKey.get? uuid = some key ↔
    ∃ record ∈ records, Issues reader expectedKeys record uuid key
  completed : ∀ uuid, join.completedByUuid.get? uuid = outcome reader expectedKeys records uuid
  turns : ∀ record ∈ records, ∀ uuid key, Issues reader expectedKeys record uuid key →
    join.modelTurns.get? key = outcome reader expectedKeys records uuid
  rest : ∀ key, key ∉ join.issuedTurns → join.modelTurns.get? key = none

variable {reader expectedKeys}

theorem Holds.empty : Holds reader expectedKeys [] {} where
  issued key := by simp
  known uuid key := by simp [OrderedDict.get?_empty]
  completed uuid := by simp [OrderedDict.get?_empty, outcome]
  turns := List.forall_mem_nil _
  rest key _ := by simp [OrderedDict.get?_empty]

/-- Two records that issue one key issue one sample. -/
theorem OwnKeys.same_uuid {records : List EventRecord} (own : OwnKeys reader expectedKeys records)
    {first second : EventRecord} (firstMem : first ∈ records) (secondMem : second ∈ records)
    {firstUuid secondUuid : Option QueryId} {key : Key}
    (firstIssues : Issues reader expectedKeys first firstUuid key)
    (secondIssues : Issues reader expectedKeys second secondUuid key) : firstUuid = secondUuid := by
  obtain ⟨firstType, rfl, firstKey⟩ := firstIssues
  obtain ⟨secondType, rfl, secondKey⟩ := secondIssues
  exact (own first firstMem second secondMem (.inl firstType) (.inl secondType)).2
    (by rw [firstKey]; rfl) (firstKey.trans secondKey.symm)

theorem OwnKeys.of_sublist {records fewer : List EventRecord}
    (own : OwnKeys reader expectedKeys records) (sub : fewer ⊆ records) :
    OwnKeys reader expectedKeys fewer :=
  fun first firstMem second secondMem => own first (sub firstMem) second (sub secondMem)

theorem not_completes_of_issued {record : EventRecord} (isIssued : record.eventType = .issued)
    (uuid : Option QueryId) : completes reader expectedKeys uuid record = false := by
  simp [completes, isIssued]

/-- A record that is skipped changes nothing. -/
theorem Holds.skip {records : List EventRecord} {join : Join}
    (holds : Holds reader expectedKeys records join) {record : EventRecord}
    (notIssued : ∀ uuid key, ¬ Issues reader expectedKeys record uuid key)
    (notComplete : ∀ uuid, completes reader expectedKeys uuid record = false) :
    Holds reader expectedKeys (records ++ [record]) join := by
  have same : ∀ uuid, outcome reader expectedKeys (records ++ [record]) uuid =
      outcome reader expectedKeys records uuid := by
    intro uuid
    rw [outcome_concat, notComplete uuid]
    rfl
  refine ⟨?_, ?_, ?_, ?_, holds.rest⟩
  · intro key
    simp [holds.issued key, notIssued, or_and_right, exists_or]
  · intro uuid key
    simp [holds.known uuid key, notIssued, or_and_right, exists_or]
  · intro uuid
    rw [same uuid, holds.completed uuid]
  · intro earlier member uuid key issues
    rcases List.mem_append.mp member with before | last
    · rw [same uuid, holds.turns earlier before uuid key issues]
    · obtain rfl := List.mem_singleton.mp last
      exact absurd issues (notIssued uuid key)

theorem Holds.joinIssued {records : List EventRecord} {join : Join}
    (holds : Holds reader expectedKeys records join) {record : EventRecord} {key : Key}
    (own : OwnKeys reader expectedKeys (records ++ [record]))
    (isIssued : record.eventType = .issued) (isKey : keyOf reader expectedKeys record = some key) :
    Holds reader expectedKeys (records ++ [record]) (joinIssued join record key) := by
  have issues : Issues reader expectedKeys record record.sampleUuid key := ⟨isIssued, rfl, isKey⟩
  have onlyKey : ∀ uuid other, Issues reader expectedKeys record uuid other →
      uuid = record.sampleUuid ∧ other = key := by
    rintro uuid other ⟨-, rfl, isOther⟩
    exact ⟨rfl, Option.some_inj.mp (isOther.symm.trans isKey)⟩
  have same : ∀ uuid, outcome reader expectedKeys (records ++ [record]) uuid =
      outcome reader expectedKeys records uuid := by
    intro uuid
    rw [outcome_concat, not_completes_of_issued isIssued]
    rfl
  have turnsOf : ∀ other, (EventJoin.joinIssued join record key).modelTurns.get? other =
      if other = key then
        (outcome reader expectedKeys records record.sampleUuid).or (join.modelTurns.get? key)
      else join.modelTurns.get? other := by
    intro other
    unfold EventJoin.joinIssued
    dsimp only
    rw [holds.completed]
    cases outcome reader expectedKeys records record.sampleUuid with
    | none => by_cases here : other = key <;> simp [here]
    | some model => rw [OrderedDict.get?_insert]; rfl
  refine ⟨?_, ?_, ?_, ?_, ?_⟩
  · intro other
    simp only [EventJoin.joinIssued, Finset.mem_insert, holds.issued, List.mem_append,
      List.mem_singleton]
    constructor
    · rintro (rfl | ⟨earlier, member, uuid, earlierIssues⟩)
      · exact ⟨record, .inr rfl, _, issues⟩
      · exact ⟨earlier, .inl member, uuid, earlierIssues⟩
    · rintro ⟨earlier, member | rfl, uuid, earlierIssues⟩
      · exact .inr ⟨earlier, member, uuid, earlierIssues⟩
      · exact .inl (onlyKey uuid other earlierIssues).2
  · intro uuid other
    simp only [EventJoin.joinIssued, OrderedDict.get?_insert, List.mem_append,
      List.mem_singleton]
    by_cases here : uuid = record.sampleUuid
    · subst here
      rw [if_pos rfl, Option.some_inj]
      constructor
      · rintro rfl
        exact ⟨record, .inr rfl, issues⟩
      · rintro ⟨earlier, member | rfl, earlierIssues⟩
        · have agree := (own record (by simp) earlier (List.mem_append_left _ member)
            (.inl isIssued) (.inl earlierIssues.1)).1 earlierIssues.2.1.symm
          rw [isKey, earlierIssues.2.2] at agree
          exact Option.some_inj.mp agree
        · exact (onlyKey _ other earlierIssues).2.symm
    · rw [if_neg here, holds.known]
      constructor
      · rintro ⟨earlier, member, earlierIssues⟩
        exact ⟨earlier, .inl member, earlierIssues⟩
      · rintro ⟨earlier, member | rfl, earlierIssues⟩
        · exact ⟨earlier, member, earlierIssues⟩
        · exact absurd (onlyKey uuid other earlierIssues).1 here
  · intro uuid
    rw [same]
    exact holds.completed uuid
  · intro earlier member uuid other earlierIssues
    rw [same, turnsOf]
    by_cases here : other = key
    · subst here
      obtain rfl := own.same_uuid member (by simp) earlierIssues issues
      rw [if_pos rfl]
      cases isOutcome : outcome reader expectedKeys records record.sampleUuid with
      | some model => rfl
      | none =>
          by_cases before : other ∈ join.issuedTurns
          · obtain ⟨first, firstMem, uuid, firstIssues⟩ := (holds.issued other).mp before
            obtain rfl := own.same_uuid (List.mem_append_left _ firstMem) (by simp) firstIssues
              issues
            rw [holds.turns first firstMem _ _ firstIssues, isOutcome]
            rfl
          · rw [holds.rest other before]
            rfl
    · rw [if_neg here]
      rcases List.mem_append.mp member with before | last
      · exact holds.turns earlier before uuid other earlierIssues
      · obtain rfl := List.mem_singleton.mp last
        exact absurd (onlyKey uuid other earlierIssues).2 here
  · intro other unissued
    have different : other ≠ key := by
      rintro rfl
      exact unissued (Finset.mem_insert_self _ _)
    rw [turnsOf, if_neg different]
    exact holds.rest other fun member => unissued (Finset.mem_insert_of_mem member)

/-- A model turn replaces what the dictionary has, and none only fills a gap. -/
theorem get?_patched {Index : Type} [DecidableEq Index]
    (dict : OrderedDict Index (Option ModelTurn)) (index other : Index)
    (model : Option ModelTurn) :
    (if model.isSome ∨ ¬ dict.contains index then dict.insert index model else dict).get? other =
      if other = index then some (model.or (dict.get? index).join) else dict.get? other := by
  by_cases patches : model.isSome = true ∨ ¬ dict.contains index = true
  · rw [if_pos patches, OrderedDict.get?_insert]
    by_cases here : other = index
    · rw [if_pos here, if_pos here]
      cases model with
      | some model => rfl
      | none =>
          have gap : dict.get? index = none := by
            simpa [OrderedDict.contains] using patches
          rw [gap]
          rfl
    · rw [if_neg here, if_neg here]
  · rw [if_neg patches]
    by_cases here : other = index
    · subst here
      rw [not_or, not_not] at patches
      obtain ⟨noModel, present⟩ := patches
      obtain ⟨held, isHeld⟩ := Option.isSome_iff_exists.mp present
      rw [Option.not_isSome_iff_eq_none.mp noModel, if_pos rfl, isHeld]
      rfl
    · rw [if_neg here]

theorem Holds.joinComplete {records : List EventRecord} {join : Join}
    (holds : Holds reader expectedKeys records join) {record : EventRecord} {key : Key}
    (own : OwnKeys reader expectedKeys (records ++ [record]))
    (isComplete : record.eventType = .complete)
    (isKey : keyOf reader expectedKeys record = some key) :
    Holds reader expectedKeys (records ++ [record]) (joinComplete join record) := by
  have notIssued : ∀ uuid other, ¬ Issues reader expectedKeys record uuid other := by
    rintro uuid other ⟨isIssued, -⟩
    rw [isComplete] at isIssued
    cases isIssued
  have completesIff : ∀ uuid, completes reader expectedKeys uuid record = true ↔
      record.sampleUuid = uuid := by
    intro uuid
    simp [completes, isComplete, isKey]
  have outcomeOf : ∀ uuid, outcome reader expectedKeys (records ++ [record]) uuid =
      if record.sampleUuid = uuid then
        some ((modelTurn record.data).or (outcome reader expectedKeys records uuid).join)
      else outcome reader expectedKeys records uuid := by
    intro uuid
    rw [outcome_concat]
    exact if_congr (completesIff uuid) rfl rfl
  have issuedBefore : ∀ {earlier : EventRecord} {uuid other},
      earlier ∈ records ++ [record] → Issues reader expectedKeys earlier uuid other →
      earlier ∈ records := by
    intro earlier uuid other member issues
    rcases List.mem_append.mp member with before | last
    · exact before
    · obtain rfl := List.mem_singleton.mp last
      exact absurd issues (notIssued uuid other)
  refine ⟨?_, ?_, ?_, ?_, ?_⟩
  · intro other
    rw [EventJoin.joinComplete, holds.issued]
    exact ⟨fun ⟨earlier, member, found⟩ => ⟨earlier, List.mem_append_left _ member, found⟩,
      fun ⟨earlier, member, uuid, issues⟩ => ⟨earlier, issuedBefore member issues, uuid, issues⟩⟩
  · intro uuid other
    rw [EventJoin.joinComplete, holds.known]
    exact ⟨fun ⟨earlier, member, issues⟩ => ⟨earlier, List.mem_append_left _ member, issues⟩,
      fun ⟨earlier, member, issues⟩ => ⟨earlier, issuedBefore member issues, issues⟩⟩
  · intro uuid
    rw [outcomeOf, ← holds.completed uuid, EventJoin.joinComplete]
    dsimp only
    rw [get?_patched]
    by_cases here : record.sampleUuid = uuid
    · subst here
      rw [if_pos rfl]
    · rw [if_neg here, if_neg (Ne.symm here)]
  · intro earlier member uuid other issues
    have before := issuedBefore member issues
    rw [outcomeOf, ← holds.turns earlier before uuid other issues, EventJoin.joinComplete]
    dsimp only
    by_cases here : record.sampleUuid = uuid
    · subst here
      rw [if_pos rfl, (holds.known _ _).mpr ⟨earlier, before, issues⟩]
      dsimp only
      rw [get?_patched, if_pos rfl]
    · rw [if_neg here]
      cases known : join.uuidToKey.get? record.sampleUuid with
      | none => rfl
      | some knownKey =>
          obtain ⟨first, firstMem, firstIssues⟩ := (holds.known _ _).mp known
          have different : other ≠ knownKey := by
            rintro rfl
            exact here (own.same_uuid (List.mem_append_left _ firstMem) member firstIssues issues)
          dsimp only
          rw [get?_patched, if_neg different]
  · intro other unissued
    have notBefore : other ∉ join.issuedTurns := unissued
    rw [EventJoin.joinComplete]
    dsimp only
    cases known : join.uuidToKey.get? record.sampleUuid with
    | none => exact holds.rest other notBefore
    | some knownKey =>
        obtain ⟨first, firstMem, firstIssues⟩ := (holds.known _ _).mp known
        have different : other ≠ knownKey := by
          rintro rfl
          exact notBefore ((holds.issued other).mpr ⟨first, firstMem, _, firstIssues⟩)
        dsimp only
        rw [get?_patched, if_neg different]
        exact holds.rest other notBefore

/-- The join of records that have their own keys is what the records say. -/
theorem holds_join {records : List EventRecord} (own : OwnKeys reader expectedKeys records) :
    Holds reader expectedKeys records (records.foldl (joinRecord reader expectedKeys) {}) := by
  induction records using List.reverseRecOn with
  | nil => exact .empty
  | append_singleton records record ih =>
      have holds := ih (own.of_sublist (List.subset_append_left _ _))
      rw [List.foldl_append, List.foldl_cons, List.foldl_nil, joinRecord]
      by_cases relevant : record.eventType = .issued ∨ record.eventType = .complete
      · rw [if_pos relevant]
        cases isKey : keyOf reader expectedKeys record with
        | none =>
            apply holds.skip
            · rintro uuid key ⟨-, -, isSome⟩
              rw [isKey] at isSome
              cases isSome
            · intro uuid
              simp [completes, isKey]
        | some key =>
            dsimp only
            by_cases isIssued : record.eventType = .issued
            · rw [if_pos isIssued]
              exact holds.joinIssued own isIssued isKey
            · rw [if_neg isIssued]
              exact holds.joinComplete own (relevant.resolve_left isIssued) isKey
      · rw [if_neg relevant]
        apply holds.skip
        · rintro uuid key ⟨isIssued, -⟩
          exact relevant (.inl isIssued)
        · intro uuid
          have incomplete : ¬ record.eventType = .complete := fun isComplete =>
            relevant (.inr isComplete)
          simp [completes, incomplete]

/-! ## The order of the lines -/

variable (reader expectedKeys) in
/-- One completion of each sample carries an output at most. -/
def OneOutput (records : List EventRecord) : Prop :=
  ∀ uuid, records.countP
    (fun record => (outputFor reader expectedKeys uuid record).isSome) ≤ 1

theorem findSome?_of_one {Item Found : Type} {find : Item → Option Found} {items : List Item}
    (one : items.countP (fun item => (find item).isSome) ≤ 1) {item : Item} (member : item ∈ items)
    {found : Found} (isFound : find item = some found) : items.findSome? find = some found := by
  induction items with
  | nil => cases member
  | cons head items ih =>
      rw [List.findSome?_cons]
      cases here : find head with
      | none =>
          rw [List.countP_cons, here] at one
          rcases List.mem_cons.mp member with rfl | later
          · rw [here] at isFound
            cases isFound
          · exact ih (by simpa using one) later
      | some first =>
          rcases List.mem_cons.mp member with rfl | later
          · exact here.symm.trans isFound
          · rw [List.countP_cons, here] at one
            have counted : 0 < items.countP fun item => (find item).isSome :=
              List.countP_pos_iff.mpr ⟨item, later, by rw [isFound]; rfl⟩
            simp only [Option.isSome_some, if_true] at one
            omega

theorem outcome_of_output {records : List EventRecord}
    (one : OneOutput reader expectedKeys records) {uuid : Option QueryId} {record : EventRecord}
    (member : record ∈ records) (complete : completes reader expectedKeys uuid record = true)
    {model : ModelTurn} (isModel : modelTurn record.data = some model) :
    outcome reader expectedKeys records uuid = some (some model) := by
  have any : records.any (completes reader expectedKeys uuid) = true :=
    List.any_eq_true.mpr ⟨record, member, complete⟩
  rw [outcome, if_pos any]
  congr 1
  have oneReversed := one uuid
  rw [← List.countP_reverse] at oneReversed
  exact findSome?_of_one oneReversed (List.mem_reverse.mpr member)
    ((if_pos complete).trans isModel)

theorem outcome_of_none {records : List EventRecord} {uuid : Option QueryId} {record : EventRecord}
    (member : record ∈ records) (complete : completes reader expectedKeys uuid record = true)
    (without : ∀ other ∈ records, completes reader expectedKeys uuid other = true →
      modelTurn other.data = none) :
    outcome reader expectedKeys records uuid = some none := by
  have any : records.any (completes reader expectedKeys uuid) = true :=
    List.any_eq_true.mpr ⟨record, member, complete⟩
  rw [outcome, if_pos any, List.findSome?_eq_none_iff.mpr]
  intro other otherMem
  unfold outputFor
  by_cases otherComplete : completes reader expectedKeys uuid other = true
  · rw [if_pos otherComplete]
    exact without other (List.mem_reverse.mp otherMem) otherComplete
  · rw [if_neg otherComplete]

/-- What the completions come to does not depend on their order. -/
theorem outcome_perm {records reordered : List EventRecord} (same : records.Perm reordered)
    (one : OneOutput reader expectedKeys records) (uuid : Option QueryId) :
    outcome reader expectedKeys records uuid = outcome reader expectedKeys reordered uuid := by
  have oneReordered : OneOutput reader expectedKeys reordered := fun uuid => by
    rw [← same.countP_eq]
    exact one uuid
  by_cases completed : ∃ record ∈ records, completes reader expectedKeys uuid record = true
  · obtain ⟨record, member, complete⟩ := completed
    by_cases carried : ∃ other ∈ records, completes reader expectedKeys uuid other = true ∧
        (modelTurn other.data).isSome
    · obtain ⟨other, otherMem, otherComplete, isSome⟩ := carried
      obtain ⟨model, isModel⟩ := Option.isSome_iff_exists.mp isSome
      rw [outcome_of_output one otherMem otherComplete isModel,
        outcome_of_output oneReordered (same.subset otherMem) otherComplete isModel]
    · have without : ∀ other ∈ records, completes reader expectedKeys uuid other = true →
          modelTurn other.data = none := by
        intro other otherMem otherComplete
        by_contra some_
        exact carried ⟨other, otherMem, otherComplete, Option.isSome_iff_ne_none.mpr some_⟩
      rw [outcome_of_none member complete without,
        outcome_of_none (same.subset member) complete fun other otherMem =>
          without other (same.symm.subset otherMem)]
  · have nothing : records.any (completes reader expectedKeys uuid) = false := by
      rw [List.any_eq_false]
      exact fun record member complete => completed ⟨record, member, complete⟩
    rw [outcome, outcome, ← same.any_eq, nothing]
    rfl

theorem issuedTurns_perm {records reordered : List EventRecord} (same : records.Perm reordered)
    {join joinReordered : Join} (holds : Holds reader expectedKeys records join)
    (holdsReordered : Holds reader expectedKeys reordered joinReordered) :
    join.issuedTurns = joinReordered.issuedTurns := by
  ext key
  rw [holds.issued, holdsReordered.issued]
  exact ⟨fun ⟨record, member, issues⟩ => ⟨record, same.subset member, issues⟩,
    fun ⟨record, member, issues⟩ => ⟨record, same.symm.subset member, issues⟩⟩

theorem modelTurns_perm {records reordered : List EventRecord} (same : records.Perm reordered)
    (one : OneOutput reader expectedKeys records) {join joinReordered : Join}
    (holds : Holds reader expectedKeys records join)
    (holdsReordered : Holds reader expectedKeys reordered joinReordered) (key : Key) :
    join.modelTurns.get? key = joinReordered.modelTurns.get? key := by
  have agree := issuedTurns_perm same holds holdsReordered
  by_cases issued : key ∈ join.issuedTurns
  · obtain ⟨record, member, uuid, issues⟩ := (holds.issued key).mp issued
    rw [holds.turns record member uuid key issues,
      holdsReordered.turns record (same.subset member) uuid key issues,
      outcome_perm same one uuid]
  · rw [holds.rest key issued, holdsReordered.rest key (agree ▸ issued)]

/-- The outcome of an issued turn: the output that one of its completions carries, or none
where they carry no output. -/
def OutcomeOf (records : List EventRecord) (issued : EventRecord)
    (found : Option (Option ModelTurn)) : Prop :=
  (∀ complete ∈ records, complete.eventType = .complete →
      complete.sampleUuid = issued.sampleUuid →
      ∀ model, modelTurn complete.data = some model → found = some (some model)) ∧
    ((∃ complete ∈ records, complete.eventType = .complete ∧
        complete.sampleUuid = issued.sampleUuid) →
      (∀ complete ∈ records, complete.eventType = .complete →
        complete.sampleUuid = issued.sampleUuid → modelTurn complete.data = none) →
      found = some none)

theorem outcomeOf_turns {records : List EventRecord} (own : OwnKeys reader expectedKeys records)
    (one : OneOutput reader expectedKeys records) {join : Join}
    (holds : Holds reader expectedKeys records join) {issued : EventRecord}
    (member : issued ∈ records) {key : Key}
    (issues : Issues reader expectedKeys issued issued.sampleUuid key) :
    OutcomeOf records issued (join.modelTurns.get? key) := by
  have completesOf : ∀ complete ∈ records, complete.eventType = .complete →
      complete.sampleUuid = issued.sampleUuid →
      completes reader expectedKeys issued.sampleUuid complete = true := by
    intro complete completeMem isComplete sameUuid
    have sameKey := (own complete completeMem issued member (.inr isComplete) (.inl issues.1)).1
      sameUuid
    rw [issues.2.2] at sameKey
    simp [completes, isComplete, sameUuid, sameKey]
  rw [holds.turns issued member _ key issues]
  constructor
  · intro complete completeMem isComplete sameUuid model isModel
    exact outcome_of_output one completeMem
      (completesOf complete completeMem isComplete sameUuid) isModel
  · rintro ⟨complete, completeMem, isComplete, sameUuid⟩ without
    apply outcome_of_none completeMem (completesOf complete completeMem isComplete sameUuid)
    intro other otherMem otherCompletes
    have otherIs : other.eventType = .complete ∧ other.sampleUuid = issued.sampleUuid := by
      simp only [completes, decide_eq_true_eq] at otherCompletes
      exact ⟨otherCompletes.1, otherCompletes.2.1⟩
    exact without other otherMem otherIs.1 otherIs.2

/-- Every order of the lines gives the same issued turns and the same model turns, and an
issued turn with a completion has the output of the completion that carries one. -/
theorem event_join_order_free {lines reordered : List String} (same : lines.Perm reordered)
    (own : OwnKeys reader expectedKeys (lines.filterMap reader.decode))
    (one : OneOutput reader expectedKeys (lines.filterMap reader.decode)) :
    let join := issuedAndCompletedModelTurns reader expectedKeys lines
    let joinReordered := issuedAndCompletedModelTurns reader expectedKeys reordered
    join.issuedTurns = joinReordered.issuedTurns ∧
      (∀ key, join.modelTurns.get? key = joinReordered.modelTurns.get? key) ∧
      (∀ key, key ∈ join.issuedTurns ↔ ∃ issued ∈ lines.filterMap reader.decode,
        issued.eventType = .issued ∧ keyOf reader expectedKeys issued = some key) ∧
      ∀ issued ∈ lines.filterMap reader.decode, issued.eventType = .issued →
        ∀ key, keyOf reader expectedKeys issued = some key →
          OutcomeOf (lines.filterMap reader.decode) issued (join.modelTurns.get? key) := by
  have records : (lines.filterMap reader.decode).Perm (reordered.filterMap reader.decode) :=
    same.filterMap reader.decode
  have holds := holds_join own
  have holdsReordered := holds_join (own.of_sublist records.symm.subset)
  refine ⟨issuedTurns_perm records holds holdsReordered,
    modelTurns_perm records one holds holdsReordered, ?_, ?_⟩
  · intro key
    rw [issuedAndCompletedModelTurns, holds.issued]
    exact ⟨fun ⟨issued, member, uuid, isIssued, _, isKey⟩ => ⟨issued, member, isIssued, isKey⟩,
      fun ⟨issued, member, isIssued, isKey⟩ =>
        ⟨issued, member, issued.sampleUuid, isIssued, rfl, isKey⟩⟩
  · intro issued member isIssued key isKey
    exact outcomeOf_turns own one holds member ⟨isIssued, rfl, isKey⟩

/-! ## A turn that timed out -/

/-- A log of one turn: it is issued, its timeout is recorded without data, and its answer
comes after that. -/
def lateAnswer : LogReader where
  decode line :=
    if line = "issued" then
      some { eventType := .issued, timestampNs := 1, sampleUuid := some 7,
             conversationId := "c", turn := some 1 }
    else if line = "timeout" then
      some { eventType := .complete, timestampNs := 2, sampleUuid := some 7,
             conversationId := "c", turn := some 1 }
    else if line = "answer" then
      some { eventType := .complete, timestampNs := 3, sampleUuid := some 7,
             conversationId := "c", turn := some 1,
             data := some (.output { output := .whole "ok" }) }
    else none
  splitRepeat conversationId := (conversationId, 1)

def lateJoin : List String → Join :=
  issuedAndCompletedModelTurns lateAnswer [("c", 1)]

/-- The answer is found also where everything stands in the wrong order. -/
theorem event_join_late_answer :
    (lateJoin ["issued", "timeout", "answer"]).modelTurns.get? ("c", 1, 1) =
        (lateJoin ["answer", "issued", "timeout"]).modelTurns.get? ("c", 1, 1) ∧
      (lateJoin ["issued", "timeout", "answer"]).modelTurns.get? ("c", 1, 1) =
        some (some { content := "ok", reasoningContent := none, toolCalls := none }) := by
  have own : OwnKeys lateAnswer [("c", 1)]
      (["issued", "timeout", "answer"].filterMap lateAnswer.decode) := by
    unfold OwnKeys
    decide
  have one : OneOutput lateAnswer [("c", 1)]
      (["issued", "timeout", "answer"].filterMap lateAnswer.decode) := by
    intro uuid
    have few : (["issued", "timeout", "answer"].filterMap lateAnswer.decode).countP
        (fun record => (modelTurn record.data).isSome) ≤ 1 := by decide
    apply le_trans (List.countP_mono_left ?_) few
    intro record _ isSome
    unfold outputFor at isSome
    split at isSome
    · exact isSome
    · cases isSome
  have same : ["issued", "timeout", "answer"].Perm ["answer", "issued", "timeout"] := by decide
  obtain ⟨-, agree, -, outcomes⟩ := event_join_order_free same own one
  refine ⟨agree ("c", 1, 1), ?_⟩
  obtain ⟨issued, isIssued⟩ : ∃ issued, lateAnswer.decode "issued" = some issued := ⟨_, rfl⟩
  obtain ⟨answer, isAnswer⟩ : ∃ answer, lateAnswer.decode "answer" = some answer := ⟨_, rfl⟩
  have member : ∀ {line record}, line ∈ ["issued", "timeout", "answer"] →
      lateAnswer.decode line = some record →
      record ∈ ["issued", "timeout", "answer"].filterMap lateAnswer.decode :=
    fun lineMem decoded => List.mem_filterMap.mpr ⟨_, lineMem, decoded⟩
  have outcome := outcomes issued (member (by decide) isIssued) (by cases isIssued; rfl)
    ("c", 1, 1) (by cases isIssued; decide)
  exact outcome.1 answer (member (by decide) isAnswer) (by cases isAnswer; rfl)
    (by cases isIssued; cases isAnswer; rfl) _ (by cases isAnswer; decide)

end EventJoin

end InferenceEndpoint
