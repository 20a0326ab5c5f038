import InferenceEndpoint.Library.Grouping
import InferenceEndpoint.Metrics.FullRunOsl

/-!
# The turns that the full run counts

`compute_full_run_osl` raises a counter for each COMPLETE line of the performance phase, and
finds the missing turns in the set of uuids that it has seen.  A turn whose COMPLETE line is
repeated is counted once for each line.
-/

namespace InferenceEndpoint

namespace FullRunOsl

/-- The classes of a performance turn. -/
inductive TurnClass
  | counted
  | empty
  | error
  | missing
  deriving DecidableEq, Repr

/-- The record of a COMPLETE line that can be decoded, under its uuid. -/
def completionOf (codec : EventLogCodec) (line : Line) : Option (QueryId × EventRecord) :=
  if isMarked line then
    (codec.decode line).bind fun record => record.sampleUuid.map fun uuid => (uuid, record)
  else none

section

variable (codec : EventLogCodec) (encode : List ToolCall → String)
  (countTokens : TokenizationInput → Except String Nat)

/-- The counter that a record raises. -/
def classOf (record : EventRecord) : TurnClass :=
  match record.data with
  | none => .empty
  | some (.output result) =>
      match extractTokenizationInput encode result with
      | none => .empty
      | some input =>
          match countTokens input with
          | .ok _ => .counted
          | .error _ => .error
  | some _ => .error

/-- The classes that a turn is counted in: one for each of its lines, or missing. -/
def classesOf (lines : List Line) (uuid : QueryId) : List TurnClass :=
  match OrderedDict.valuesOf (lines.filterMap (completionOf codec)) uuid with
  | [] => [.missing]
  | records => records.map (classOf encode countTokens)

end

/-- The counter of a class. -/
def Counters.countOf (counters : Counters) : TurnClass → Nat
  | .counted => counters.lengths.length
  | .empty => counters.nEmpty
  | .error => counters.nErrors
  | .missing => 0

/-- The number of a class in the block. -/
def Block.countOf (block : Block) : TurnClass → Nat
  | .counted => block.nTurnsCounted
  | .empty => block.nEmpty
  | .error => block.nErrors
  | .missing => block.nMissing

/-! ## The loop -/

section Loop

variable {codec : EventLogCodec} {encode : List ToolCall → String}
  {countTokens : TokenizationInput → Except String Nat} {performanceUuids : List QueryId}

/-- What a record does: its uuid is seen, and the counter of its class goes up. -/
theorem addRecord_cases (counters : Counters) (record : EventRecord) :
    let seen := { counters with seenUuids := record.sampleUuid :: counters.seenUuids }
    (classOf encode countTokens record = .empty ∧
        counters.addRecord encode countTokens record = { seen with nEmpty := seen.nEmpty + 1 }) ∨
      (∃ tokens, classOf encode countTokens record = .counted ∧
        counters.addRecord encode countTokens record =
          { seen with lengths := seen.lengths ++ [tokens] }) ∨
      ∃ message, classOf encode countTokens record = .error ∧
        counters.addRecord encode countTokens record = seen.error message := by
  unfold classOf Counters.addRecord
  cases record.data with
  | none => exact Or.inl ⟨rfl, rfl⟩
  | some payload =>
      cases payload with
      | output result =>
          dsimp only
          cases extractTokenizationInput encode result with
          | none => exact Or.inl ⟨rfl, rfl⟩
          | some input =>
              dsimp only
              cases countTokens input with
              | error message => exact Or.inr (Or.inr ⟨message, rfl, rfl⟩)
              | ok tokens => exact Or.inr (Or.inl ⟨tokens, rfl, rfl⟩)
      | prompt prompt => exact Or.inr (Or.inr ⟨_, rfl, rfl⟩)
      | error error => exact Or.inr (Or.inr ⟨_, rfl, rfl⟩)
      | phase phase => exact Or.inr (Or.inr ⟨_, rfl, rfl⟩)

theorem addRecord_countOf (counters : Counters) (record : EventRecord) (turnClass : TurnClass) :
    (counters.addRecord encode countTokens record).countOf turnClass =
      counters.countOf turnClass +
        if classOf encode countTokens record = turnClass then 1 else 0 := by
  rcases @addRecord_cases encode countTokens counters record with
      ⟨isEmpty, added⟩ | ⟨tokens, isCounted, added⟩ | ⟨message, isError, added⟩
  · rw [isEmpty, added]
    cases turnClass <;> rfl
  · rw [isCounted, added]
    cases turnClass <;> simp [Counters.countOf]
  · rw [isError, added]
    cases turnClass <;> rfl

theorem addRecord_seenUuids (counters : Counters) (record : EventRecord) :
    (counters.addRecord encode countTokens record).seenUuids =
      record.sampleUuid :: counters.seenUuids := by
  rcases @addRecord_cases encode countTokens counters record with
      ⟨-, added⟩ | ⟨tokens, -, added⟩ | ⟨message, -, added⟩
  · rw [added]
  · rw [added]
  · rw [added]
    rfl

/-- What a line does: nothing, a step of the number of undecodable lines, or a record. -/
theorem addLine_cases (counters : Counters) (line : Line) :
    (completionOf codec line = none ∨
        ∃ uuid record, completionOf codec line = some (uuid, record) ∧
          uuid ∉ performanceUuids) ∧
      (counters.addLine codec encode countTokens (some performanceUuids) line = counters ∨
        counters.addLine codec encode countTokens (some performanceUuids) line =
          { counters with nUndecodable := counters.nUndecodable + 1 }) ∨
    ∃ uuid record, completionOf codec line = some (uuid, record) ∧ uuid ∈ performanceUuids ∧
      record.sampleUuid = some uuid ∧
      counters.addLine codec encode countTokens (some performanceUuids) line =
        counters.addRecord encode countTokens record := by
  unfold completionOf Counters.addLine
  cases isMarked line with
  | false => exact Or.inl ⟨Or.inl rfl, Or.inl rfl⟩
  | true =>
      simp only [Bool.not_true, Bool.false_eq_true, if_false, if_true]
      cases codec.decode line with
      | none => exact Or.inl ⟨Or.inl rfl, Or.inr rfl⟩
      | some record =>
          cases owner : record.sampleUuid with
          | none => exact Or.inl ⟨Or.inl (by simp [owner]), Or.inl (by simp [inPopulation, owner])⟩
          | some uuid =>
              by_cases member : uuid ∈ performanceUuids
              · refine Or.inr ⟨uuid, record, by simp [owner], member, owner, ?_⟩
                simp [inPopulation, owner, member]
              · refine Or.inl ⟨Or.inr ⟨uuid, record, by simp [owner], member⟩, Or.inl ?_⟩
                simp [inPopulation, owner, member]

/-- The completions of the performance phase. -/
def performanceCompletions (codec : EventLogCodec) (performanceUuids : List QueryId)
    (lines : List Line) : List (QueryId × EventRecord) :=
  (lines.filterMap (completionOf codec)).filter fun completion => completion.1 ∈ performanceUuids

/-- Each counter counts the completions of its class. -/
theorem foldl_countOf (lines : List Line) (counters : Counters) (turnClass : TurnClass) :
    (lines.foldl (Counters.addLine codec encode countTokens (some performanceUuids))
        counters).countOf turnClass =
      counters.countOf turnClass + (performanceCompletions codec performanceUuids lines).countP
        fun completion => classOf encode countTokens completion.2 = turnClass := by
  induction lines generalizing counters with
  | nil => rfl
  | cons line lines ih =>
      rw [List.foldl_cons, ih]
      unfold performanceCompletions
      rcases @addLine_cases codec encode countTokens performanceUuids counters line with
          ⟨outside, unchanged⟩ | ⟨uuid, record, found, member, -, added⟩
      · have same : (counters.addLine codec encode countTokens (some performanceUuids)
            line).countOf turnClass = counters.countOf turnClass := by
          rcases unchanged with equal | equal
          · rw [equal]
          · rw [equal]
            cases turnClass <;> rfl
        rw [same]
        rcases outside with nothing | ⟨uuid, record, found, other⟩
        · rw [List.filterMap_cons_none nothing]
        · rw [List.filterMap_cons_some found, List.filter_cons_of_neg (by simpa using other)]
      · rw [added, addRecord_countOf, List.filterMap_cons_some found,
          List.filter_cons_of_pos (by simpa using member), List.countP_cons]
        simp only [decide_eq_true_eq]
        omega

/-- The uuids that were seen are those of the completions. -/
theorem mem_foldl_seenUuids (lines : List Line) (counters : Counters) {uuid : QueryId}
    (member : uuid ∈ performanceUuids) :
    some uuid ∈ (lines.foldl (Counters.addLine codec encode countTokens (some performanceUuids))
        counters).seenUuids ↔
      some uuid ∈ counters.seenUuids ∨
        uuid ∈ (lines.filterMap (completionOf codec)).map Prod.fst := by
  induction lines generalizing counters with
  | nil => simp
  | cons line lines ih =>
      rw [List.foldl_cons, ih]
      rcases @addLine_cases codec encode countTokens performanceUuids counters line with
          ⟨outside, unchanged⟩ | ⟨owner, record, found, -, own, added⟩
      · have same : (counters.addLine codec encode countTokens (some performanceUuids)
            line).seenUuids = counters.seenUuids := by
          rcases unchanged with equal | equal <;> rw [equal]
        rw [same]
        rcases outside with nothing | ⟨owner, record, found, other⟩
        · rw [List.filterMap_cons_none nothing]
        · have different : uuid ≠ owner := fun equal => other (equal ▸ member)
          rw [List.filterMap_cons_some found, List.map_cons, List.mem_cons]
          simp [different]
      · rw [added, addRecord_seenUuids, own, List.filterMap_cons_some found, List.map_cons,
          List.mem_cons, List.mem_cons, Option.some_inj, or_assoc, or_left_comm]

end Loop

/-! ## The counts of the block -/

section Counts

variable {codec : EventLogCodec} {encode : List ToolCall → String}
  {countTokens : TokenizationInput → Except String Nat} {performanceUuids : List QueryId}

/-- The completions of each turn are those of the performance phase. -/
theorem sum_countP_valuesOf (lines : List Line) (test : EventRecord → Bool) :
    (performanceUuids.dedup.map fun uuid =>
        (OrderedDict.valuesOf (lines.filterMap (completionOf codec)) uuid).countP test).sum =
      (performanceCompletions codec performanceUuids lines).countP
        fun completion => test completion.2 := by
  have perm := OrderedDict.flatMap_filter_perm performanceUuids.nodup_dedup
    (lines.filterMap (completionOf codec))
  simp only [List.mem_dedup] at perm
  rw [performanceCompletions, ← perm.countP_eq, List.countP_flatMap]
  congr 1
  apply List.map_congr_left
  intro uuid _
  rw [OrderedDict.valuesOf, List.countP_map]
  rfl

theorem count_classesOf {turnClass : TurnClass} (present : turnClass ≠ .missing)
    (lines : List Line) (uuid : QueryId) :
    (classesOf codec encode countTokens lines uuid).count turnClass =
      (OrderedDict.valuesOf (lines.filterMap (completionOf codec)) uuid).countP
        fun record => classOf encode countTokens record = turnClass := by
  unfold classesOf
  cases OrderedDict.valuesOf (lines.filterMap (completionOf codec)) uuid with
  | nil => simp [present.symm]
  | cons record records =>
      dsimp only
      rw [List.count, List.countP_map]
      apply List.countP_congr
      intro other _
      simp

theorem classOf_ne_missing (record : EventRecord) :
    classOf encode countTokens record ≠ .missing := by
  rcases @addRecord_cases encode countTokens {} record with
      ⟨isEmpty, -⟩ | ⟨tokens, isCounted, -⟩ | ⟨message, isError, -⟩
  · simp [isEmpty]
  · simp [isCounted]
  · simp [isError]

theorem count_missing (lines : List Line) (uuid : QueryId) :
    (classesOf codec encode countTokens lines uuid).count .missing =
      if uuid ∈ (lines.filterMap (completionOf codec)).map Prod.fst then 0 else 1 := by
  have found := @OrderedDict.valuesOf_ne_nil _ _ _ (lines.filterMap (completionOf codec)) uuid
  unfold classesOf
  cases values : OrderedDict.valuesOf (lines.filterMap (completionOf codec)) uuid with
  | nil => simp [if_neg fun member => found.mpr member values]
  | cons record records =>
      have member := found.mp (values ▸ List.cons_ne_nil _ _)
      dsimp only
      rw [if_pos member, List.count_eq_zero, List.mem_map]
      rintro ⟨other, -, isMissing⟩
      exact classOf_ne_missing other isMissing

/-- The counts of the block, which is left out if they are all zero. -/
theorem compute_countOf (lines : List Line) (turnClass : TurnClass) :
    (compute codec encode countTokens (some performanceUuids) lines).elim 0
        (fun block => block.countOf turnClass) =
      if turnClass = .missing then
        performanceUuids.dedup.countP fun uuid =>
          uuid ∉ (lines.filterMap (completionOf codec)).map Prod.fst
      else
        (performanceCompletions codec performanceUuids lines).countP
          fun completion => classOf encode countTokens completion.2 = turnClass := by
  have counted : ∀ turnClass, (lines.foldl (Counters.addLine codec encode countTokens
      (some performanceUuids)) {}).countOf turnClass =
        (performanceCompletions codec performanceUuids lines).countP
          fun completion => classOf encode countTokens completion.2 = turnClass := by
    intro turnClass
    have start : ({} : Counters).countOf turnClass = 0 := by cases turnClass <;> rfl
    rw [foldl_countOf, start, Nat.zero_add]
  have missing : (performanceUuids.dedup.countP fun uuid =>
      !(lines.foldl (Counters.addLine codec encode countTokens (some performanceUuids))
        {}).seenUuids.contains (some uuid)) =
      performanceUuids.dedup.countP fun uuid =>
        uuid ∉ (lines.filterMap (completionOf codec)).map Prod.fst := by
    apply List.countP_congr
    intro uuid member
    have seen := @mem_foldl_seenUuids codec encode countTokens performanceUuids lines {} uuid
      (List.mem_dedup.mp member)
    rw [Bool.not_eq_true', ← Bool.not_eq_true, List.contains_iff_mem, seen, decide_eq_true_eq]
    simp
  unfold compute
  dsimp only
  rw [Option.getD_some, missing]
  split
  · rename_i nothing
    simp only [Bool.and_eq_true, decide_eq_true_eq] at nothing
    obtain ⟨⟨⟨⟨noLength, noEmpty⟩, noError⟩, -⟩, noneMissing⟩ := nothing
    cases turnClass with
    | counted =>
        rw [if_neg (by decide)]
        refine Eq.trans ?_ (counted .counted)
        exact (List.length_eq_zero_iff.mpr (List.isEmpty_iff.mp noLength)).symm
    | empty =>
        rw [if_neg (by decide)]
        exact noEmpty.symm.trans (counted .empty)
    | error =>
        rw [if_neg (by decide)]
        exact noError.symm.trans (counted .error)
    | missing =>
        rw [if_pos rfl]
        exact noneMissing.symm
  · cases turnClass with
    | counted =>
        rw [if_neg (by decide)]
        exact counted .counted
    | empty =>
        rw [if_neg (by decide)]
        exact counted .empty
    | error =>
        rw [if_neg (by decide)]
        exact counted .error
    | missing =>
        rw [if_pos rfl]
        rfl

/-- The block counts the classes of the turns. -/
theorem countOf_compute (lines : List Line) (turnClass : TurnClass) :
    (compute codec encode countTokens (some performanceUuids) lines).elim 0
        (fun block => block.countOf turnClass) =
      (performanceUuids.dedup.map fun uuid =>
        (classesOf codec encode countTokens lines uuid).count turnClass).sum := by
  rw [compute_countOf]
  by_cases isMissing : turnClass = .missing
  · rw [if_pos isMissing, isMissing]
    induction performanceUuids.dedup with
    | nil => rfl
    | cons uuid uuids ih =>
        rw [List.map_cons, List.sum_cons, List.countP_cons, ih, count_missing, Nat.add_comm]
        by_cases member : uuid ∈ (lines.filterMap (completionOf codec)).map Prod.fst
        · rw [if_pos member, if_neg (by simpa using member)]
        · rw [if_neg member, if_pos (by simpa using member)]
  · rw [if_neg isMissing, ← sum_countP_valuesOf lines fun record =>
      decide (classOf encode countTokens record = turnClass)]
    congr 1
    exact List.map_congr_left fun uuid _ => (count_classesOf isMissing lines uuid).symm

theorem length_eq_counts (classes : List TurnClass) :
    classes.count .counted + classes.count .empty + classes.count .error +
      classes.count .missing = classes.length := by
  induction classes with
  | nil => rfl
  | cons turnClass classes ih => cases turnClass <;> simp <;> omega

/-- The sum of the four counts; a block that is left out has none. -/
def Block.total (block : Option Block) : Nat :=
  block.elim 0 fun block => block.nTurnsCounted + block.nEmpty + block.nErrors + block.nMissing

/-- The four counts together hold every class of every turn. -/
theorem total_compute (lines : List Line) :
    Block.total (compute codec encode countTokens (some performanceUuids) lines) =
      (performanceUuids.dedup.map fun uuid =>
        (classesOf codec encode countTokens lines uuid).length).sum := by
  have each := @countOf_compute codec encode countTokens performanceUuids lines
  have sums : Block.total (compute codec encode countTokens (some performanceUuids) lines) =
      (performanceUuids.dedup.map fun uuid =>
        (classesOf codec encode countTokens lines uuid).count .counted).sum +
      (performanceUuids.dedup.map fun uuid =>
        (classesOf codec encode countTokens lines uuid).count .empty).sum +
      (performanceUuids.dedup.map fun uuid =>
        (classesOf codec encode countTokens lines uuid).count .error).sum +
      (performanceUuids.dedup.map fun uuid =>
        (classesOf codec encode countTokens lines uuid).count .missing).sum := by
    rw [← each, ← each, ← each, ← each]
    cases compute codec encode countTokens (some performanceUuids) lines <;> rfl
  rw [sums]
  induction performanceUuids.dedup with
  | nil => rfl
  | cons uuid uuids ih =>
      have head := length_eq_counts (classesOf codec encode countTokens lines uuid)
      simp only [List.map_cons, List.sum_cons]
      omega

end Counts

/-! ## One class for each turn -/

/-- The COMPLETE line can be decoded and is one of the turn. -/
def completes (codec : EventLogCodec) (uuid : QueryId) (line : Line) : Bool :=
  isMarked line && (codec.decode line).any fun record => record.sampleUuid = some uuid

/-- Each performance turn is in one class, and without undecodable lines the four counts add up
to the number of turns. -/
structure AccountsOnce (codec : EventLogCodec) (encode : List ToolCall → String)
    (countTokens : TokenizationInput → Except String Nat) (performanceUuids : List QueryId)
    (lines : List Line) : Prop where
  oneClass : ∀ uuid ∈ performanceUuids, ∃ turnClass,
    classesOf codec encode countTokens lines uuid = [turnClass]
  total : (compute codec encode countTokens (some performanceUuids) lines).elim 0
      Block.nUndecodable = 0 →
    Block.total (compute codec encode countTokens (some performanceUuids) lines) =
      performanceUuids.dedup.length

theorem length_valuesOf_completions (codec : EventLogCodec) (lines : List Line) (uuid : QueryId) :
    (OrderedDict.valuesOf (lines.filterMap (completionOf codec)) uuid).length =
      lines.countP (completes codec uuid) := by
  rw [OrderedDict.length_valuesOf, List.count, List.countP_map, List.countP_filterMap]
  apply List.countP_congr
  intro line _
  unfold completionOf completes
  cases isMarked line with
  | false => rfl
  | true =>
      cases codec.decode line with
      | none => rfl
      | some record => cases owner : record.sampleUuid <;> simp [owner]

/-- A turn is in one class exactly if it has at most one line. -/
theorem one_class_iff {codec : EventLogCodec} {encode : List ToolCall → String}
    {countTokens : TokenizationInput → Except String Nat} (lines : List Line) (uuid : QueryId) :
    (∃ turnClass, classesOf codec encode countTokens lines uuid = [turnClass]) ↔
      lines.countP (completes codec uuid) ≤ 1 := by
  rw [← length_valuesOf_completions]
  unfold classesOf
  cases OrderedDict.valuesOf (lines.filterMap (completionOf codec)) uuid with
  | nil => simp
  | cons record records => cases records <;> simp

theorem completes_encode {codec : EventLogCodec} {log : List EventRecord}
    (keeps : codec.Keeps log) {record : EventRecord} (member : record ∈ log)
    (complete : record.eventType = .complete) {uuid : QueryId}
    (own : record.sampleUuid = some uuid) :
    completes codec uuid (codec.encode record) = true := by
  obtain ⟨start, reads⟩ := keeps record member
  unfold completes
  rw [isMarked_complete (complete ▸ start), reads]
  simp [own]

def repeatedRecord : EventRecord where
  eventType := .complete
  timestampNs := 5
  sampleUuid := some 7
  data := some (.output { output := .whole "text" })

end FullRunOsl

end InferenceEndpoint
