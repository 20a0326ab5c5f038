import InferenceEndpoint.Scripts.ConvertAgenticSnapshot
import Mathlib.Data.List.Forall2

/-!
# Verifying a converted file

`verify` collapses the source messages once more and compares them, client turn by client
turn, with what it makes of the rows of the output.  It does not ask the dataset: it puts the
system prompt of the source before both sides, and reads other fields of the rows than the
dataset does.
-/

namespace InferenceEndpoint

open AgenticInference

/-- A line of the output file; the dataset has no use for the last key. -/
structure OutputRow extends TurnRow where
  toolCallId : Option String := none

namespace OutputRow

/-- The keys of the row that are keys of a message. -/
def fields (row : OutputRow) : Message where
  role := row.role
  content := row.content
  name := row.name
  reasoningContent := row.reasoningContent
  toolCalls := row.toolCalls
  toolCallId := row.toolCallId
  toolResults := row.toolResults

end OutputRow

namespace ConvertAgenticSnapshot

/-! ## Equal messages -/

instance decidableOptionRel {Item : Type*} {related : Item → Item → Prop}
    [∀ first second, Decidable (related first second)] :
    ∀ first second, Decidable (Option.Rel related first second)
  | some _, some _ => decidable_of_iff _ Option.rel_some_some.symm
  | none, none => isTrue .none
  | some _, none | none, some _ => isFalse nofun

section

variable (same : Json → Json → Bool)

def SameContent : Content → Content → Prop
  | .text first, .text second => first = second
  | .parts first, .parts second =>
      List.Forall₂ (fun one other => same one other = true) first second
  | .text _, .parts _ | .parts _, .text _ => False

instance decidableSameContent : ∀ first second, Decidable (SameContent same first second)
  | .text first, .text second => inferInstanceAs (Decidable (first = second))
  | .parts first, .parts second => inferInstanceAs (Decidable (List.Forall₂ _ first second))
  | .text _, .parts _ | .parts _, .text _ => isFalse id

def SameResult (first second : ToolResult) : Prop :=
  first.toolCallId = second.toolCallId ∧
    Option.Rel (Option.Rel (SameContent same)) first.content second.content

instance (first second : ToolResult) : Decidable (SameResult same first second) :=
  inferInstanceAs (Decidable (_ ∧ _))

/-- Equality of two messages after `_normalize_msg`; `same` is equality of JSON values. -/
def SameMessage (first second : Message) : Prop :=
  first.role = second.role ∧ Option.Rel (SameContent same) first.content second.content ∧
    first.name = second.name ∧ first.reasoningContent = second.reasoningContent ∧
    Option.Rel (List.Forall₂ fun one other => same one other = true)
      first.toolCalls second.toolCalls ∧
    first.toolCallId = second.toolCallId ∧
    Option.Rel (List.Forall₂ (SameResult same)) first.toolResults second.toolResults

instance (first second : Message) : Decidable (SameMessage same first second) :=
  inferInstanceAs (Decidable (_ ∧ _ ∧ _ ∧ _ ∧ _ ∧ _ ∧ _))

end

/-! ## The verifier -/

/-- `_expand_row_to_wire_msgs`. -/
def expandRowToWireMsgs (row : Message) : List Message :=
  match row.toolResults with
  | some results =>
      results.map fun result : ToolResult =>
        { role := .tool, toolCallId := result.toolCallId, content := result.content.join }
  | none =>
      [{ role := row.role
         content := row.content
         toolCalls := row.toolCalls.filter fun calls => !calls.isEmpty
         toolCallId := row.toolCallId.filter fun id => id ≠ "" }]

/-- The system message, if the content has a truth value. -/
def wireSystem : Option Content → List Message
  | some (.text text) =>
      if text ≠ "" then [{ role := .system, content := some (.text text) }] else []
  | some (.parts (part :: parts)) =>
      [{ role := .system, content := some (.parts (part :: parts)) }]
  | some (.parts []) | none => []

/-- What the collapsed source messages are up to a position. -/
def groundTruth (listText : List Json → String) (record : SnapshotRecord) (outPos : Nat) :
    List Message :=
  wireSystem (systemContent record.messages) ++
    ((applyCollapses listText (nonSystem record.messages)).take (outPos + 1)).flatMap
      expandRowToWireMsgs

/-- What the verifier makes of the rows up to a position. -/
def reconstructed (record : SnapshotRecord) (flatRows : List OutputRow) (outPos : Nat) :
    List Message :=
  wireSystem (systemContent record.messages) ++
    (flatRows.take (outPos + 1)).flatMap fun row => expandRowToWireMsgs row.fields

/-- `conv_rows[conv_id]`, sorted by turn. -/
def sortedRows (rows : List OutputRow) (conversationId : String) : List OutputRow :=
  let convRows := OrderedDict.group (rows.map fun row => (row.conversationId, row))
  ((convRows.get? conversationId).getD []).mergeSort fun first second =>
    first.turn ≤ second.turn

section

variable (same : Json → Json → Bool) (listText : List Json → String)

/-- The checks on one conversation. -/
def verifyConversation (record : SnapshotRecord) (flatRows : List OutputRow) : Bool :=
  let processed := applyCollapses listText (nonSystem record.messages)
  decide (processed.length = flatRows.length) &&
    flatRows.zipIdx.all fun clientTurn =>
      !isClient clientTurn.1.role ||
        decide (List.Forall₂ (SameMessage same) (groundTruth listText record clientTurn.2)
          (reconstructed record flatRows clientTurn.2))

/-- `verify`. -/
def verify (records : List SnapshotRecord) (rows : List OutputRow) : Bool :=
  (finalSnapshots records).entries.all fun entry =>
    verifyConversation same listText entry.2 (sortedRows rows entry.1)

/-! ## What the dataset makes of the file -/

/-- The rows of a conversation in the frame. -/
def frameRows (rows : List OutputRow) (conversationId : String) : List TurnRow :=
  ((convGroups (rows.map OutputRow.toTurnRow)).get? conversationId).getD []

/-- The dataset prebuilds the collapsed source messages for every client turn. -/
def Prebuilds (conversationId : String) (record : SnapshotRecord) (rows : List OutputRow) :
    Prop :=
  ∃ result, buildConversationMetadata conversationId (frameRows rows conversationId) = .ok result ∧
    ∀ outPos row, (sortedRows rows conversationId)[outPos]? = some row →
      isClient row.role = true →
        ∃ prebuilt, result.1.preBuiltMessagesByKey.get? (conversationId, row.turn) = some prebuilt ∧
          List.Forall₂ (SameMessage same) (groundTruth listText record outPos) prebuilt

/-- What a verified file should be. -/
structure Sound (records : List SnapshotRecord) (rows : List OutputRow) : Prop where
  prebuilds : ∀ entry ∈ (finalSnapshots records).entries,
    Prebuilds same listText entry.1 entry.2 rows
  noOther : ∀ row ∈ rows, row.conversationId ∈ (finalSnapshots records).keys

end

/-- Every tool result of a row has an id and a content. -/
def Complete (row : OutputRow) : Prop :=
  ∀ results, row.toolResults = some results → ∀ result ∈ results,
    result.toolCallId.isSome = true ∧ result.content.join.isSome = true

/-- The dataset reads the row as the verifier does. -/
def ReadAlike (row : OutputRow) : Prop :=
  match row.toolResults with
  | some results => results ≠ []
  | none =>
      row.name = none ∧ row.reasoningContent = none ∧ row.toolCalls ≠ some [] ∧
        (row.toolCallId = none ∨ row.toolCallId = some "")

/-- The rows of a conversation are complete and its client turns have different numbers; up to
the last of them the verifier reads the rows as the dataset does, and the system prompt of the
rows is the one of the source. -/
structure Faithful (record : SnapshotRecord) (flatRows : List OutputRow) : Prop where
  complete : ∀ row ∈ flatRows, Complete row
  distinct : (flatRows.filter fun row => isClient row.role).Pairwise fun first second =>
    first.turn ≠ second.turn
  prompt : (∃ row ∈ flatRows, isClient row.role = true) →
    wireSystem (systemContent record.messages) =
      systemMessages (AgenticInference.systemContent (flatRows.map OutputRow.toTurnRow))
  readAlike : ∀ outPos row, flatRows[outPos]? = some row → isClient row.role = true →
    ∀ earlier ∈ flatRows.take (outPos + 1), ReadAlike earlier

/-! ## The messages of a row -/

/-- The message of a tool result. -/
def wireResult (result : ToolResult) : Message :=
  { role := .tool, toolCallId := result.toolCallId, content := result.content.join }

/-- The messages that the dataset makes of a complete row. -/
def datasetMessages (row : OutputRow) : List Message :=
  match row.toolResults with
  | some (result :: results) => (result :: results).map wireResult
  | noResults =>
      [{ role := row.role
         content := row.content
         name := row.name
         toolCalls := row.toolCalls
         toolResults := noResults
         reasoningContent := row.reasoningContent }]

theorem expandToolResult_wireResult {row : TurnRow} {result : ToolResult} (index : Nat)
    (complete : result.toolCallId.isSome = true ∧ result.content.join.isSome = true) :
    expandToolResult row (result, index) = .ok (wireResult result) := by
  obtain ⟨id, hasId⟩ := Option.isSome_iff_exists.mp complete.1
  obtain ⟨content, hasContent⟩ := Option.isSome_iff_exists.mp complete.2
  simp [expandToolResult, wireResult, hasId, hasContent]

theorem complete_of_expandToolResult {row : TurnRow} {result : ToolResult} {index : Nat}
    {message : Message} (expanded : expandToolResult row (result, index) = .ok message) :
    result.toolCallId.isSome = true ∧ result.content.join.isSome = true := by
  unfold expandToolResult at expanded
  split at expanded
  · cases expanded
  · cases expanded
  · rename_i id content hasId hasContent
    simp only at hasId hasContent
    simp [hasId, hasContent]

theorem mapM_wireResult {row : TurnRow} {results : List ToolResult}
    (complete : ∀ result ∈ results,
      result.toolCallId.isSome = true ∧ result.content.join.isSome = true) (index : Nat) :
    (results.zipIdx index).mapM (expandToolResult row) = .ok (results.map wireResult) := by
  induction results generalizing index with
  | nil => rfl
  | cons result results ih =>
      rw [List.zipIdx_cons, List.mapM_cons,
        expandToolResult_wireResult index (complete result List.mem_cons_self),
        ih fun other member => complete other (List.mem_cons_of_mem result member)]
      rfl

theorem complete_of_mapM {row : TurnRow} {results : List ToolResult} {index : Nat}
    {messages : List Message}
    (expanded : (results.zipIdx index).mapM (expandToolResult row) = .ok messages) :
    ∀ result ∈ results, result.toolCallId.isSome = true ∧ result.content.join.isSome = true := by
  induction results generalizing index messages with
  | nil => nofun
  | cons result results ih =>
      rw [List.zipIdx_cons, List.mapM_cons] at expanded
      obtain ⟨message, first, rest⟩ := of_bind_ok expanded
      obtain ⟨others, later, -⟩ := of_bind_ok rest
      exact List.forall_mem_cons.mpr ⟨complete_of_expandToolResult first, ih later⟩

/-- The messages of a complete row can be made. -/
theorem formatRow_of_complete {row : OutputRow} (complete : Complete row) :
    formatRow row.toTurnRow = .ok (datasetMessages row) := by
  unfold formatRow expandToolResults datasetMessages
  cases found : row.toolResults with
  | none => rfl
  | some results =>
      have expanded := @mapM_wireResult row.toTurnRow results (complete results found) 0
      simp only [expanded]
      cases results with
      | nil => rfl
      | cons result results => rfl

theorem complete_of_formatRow {row : OutputRow} {messages : List Message}
    (formats : formatRow row.toTurnRow = .ok messages) : Complete row := by
  intro results found
  unfold formatRow expandToolResults at formats
  obtain ⟨expanded, expands, -⟩ := of_bind_ok formats
  simp only [found] at expands
  exact complete_of_mapM expands

/-- A row that is read alike gives the dataset the messages that the verifier sees. -/
theorem datasetMessages_eq {row : OutputRow} (alike : ReadAlike row) :
    datasetMessages row = expandRowToWireMsgs row.fields := by
  unfold ReadAlike at alike
  cases found : row.toolResults with
  | none =>
      simp only [found] at alike
      obtain ⟨name, reasoning, calls, id⟩ := alike
      have noId : row.toolCallId.filter (fun id => id ≠ "") = none := by
        rcases id with absent | empty
        · simp [absent]
        · simp [empty]
      have allCalls : row.toolCalls.filter (fun calls => !calls.isEmpty) = row.toolCalls := by
        cases given : row.toolCalls with
        | none => rfl
        | some calls' =>
            have some_ : calls' ≠ [] := fun nothing => calls (by rw [given, nothing])
            simp [some_]
      simp only [datasetMessages, expandRowToWireMsgs, OutputRow.fields, found, name, reasoning,
        noId, allCalls]
  | some results =>
      simp only [found] at alike
      cases results with
      | nil => exact absurd rfl alike
      | cons result results =>
          simp [datasetMessages, expandRowToWireMsgs, OutputRow.fields, found, wireResult]

theorem datasetMessages_ne_nil (row : OutputRow) : datasetMessages row ≠ [] := by
  unfold datasetMessages
  split
  · exact List.cons_ne_nil _ _
  · exact List.cons_ne_nil _ _

/-! ## Building a conversation -/

section

variable {conversationId : String} {flatRows rows : List OutputRow}

/-- The dataset sorts the same rows as the verifier. -/
theorem sortByTurn_frameRows (rows : List OutputRow) (conversationId : String) :
    sortByTurn (frameRows rows conversationId) =
      (sortedRows rows conversationId).map OutputRow.toTurnRow := by
  have sameGroup : frameRows rows conversationId =
      (((OrderedDict.group (rows.map fun row => (row.conversationId, row))).get?
        conversationId).getD []).map OutputRow.toTurnRow := by
    rw [frameRows, convGroups, OrderedDict.get?_group, OrderedDict.get?_group]
    simp only [OrderedDict.valuesOf, List.filter_map, List.map_map]
    rfl
  have sorts := @List.map_mergeSort _ _ (fun first second => decide (first.turn ≤ second.turn))
    (fun first second => decide (first.turn ≤ second.turn)) OutputRow.toTurnRow
    (((OrderedDict.group (rows.map fun row => (row.conversationId, row))).get?
      conversationId).getD []) fun first _ second _ => rfl
  rw [sameGroup, sortByTurn, sortedRows]
  exact sorts.symm

theorem complete_of_build {result : Building × Nat}
    (built : buildConversationMetadata conversationId (frameRows rows conversationId) =
      .ok result) :
    ∀ row ∈ sortedRows rows conversationId, Complete row := by
  unfold buildConversationMetadata at built
  rw [sortByTurn_frameRows] at built
  obtain ⟨last, folded, -⟩ := of_bind_ok built
  intro row member
  exact complete_of_formatRow (formats_of_foldlM folded row.toTurnRow (List.mem_map_of_mem member))

/-- The system prompt and the messages of the rows up to a position. -/
def datasetPrompt (flatRows : List OutputRow) (outPos : Nat) : List Message :=
  systemMessages (AgenticInference.systemContent (flatRows.map OutputRow.toTurnRow)) ++
    (flatRows.take (outPos + 1)).flatMap datasetMessages

def builtFrom (conversationId : String) (flatRows : List OutputRow) : Building :=
  ({ history := systemMessages (AgenticInference.systemContent
      (flatRows.map OutputRow.toTurnRow)) } : Building).addRows conversationId
    (flatRows.map OutputRow.toTurnRow)

theorem build_of_complete (complete : ∀ row ∈ sortedRows rows conversationId, Complete row) :
    ∃ count, buildConversationMetadata conversationId (frameRows rows conversationId) =
      .ok (builtFrom conversationId (sortedRows rows conversationId), count) := by
  refine ⟨(((sortedRows rows conversationId).map OutputRow.toTurnRow).filter
    fun row => isClient row.role).length, ?_⟩
  unfold buildConversationMetadata
  rw [sortByTurn_frameRows]
  have formats : ∀ row ∈ (sortedRows rows conversationId).map OutputRow.toTurnRow,
      formatRow row = .ok (formatted row) := by
    intro row member
    obtain ⟨given, isRow, rfl⟩ := List.mem_map.mp member
    exact formatRow_eq_formatted (formatRow_of_complete (complete given isRow))
  simp only [foldlM_addRow formats]
  rfl

/-- Rows of other turns and rows of assistants leave the messages of a client turn alone. -/
theorem addRows_get?_of_noClient {building : Building} {others : List TurnRow}
    {key : String × Nat}
    (other : ∀ row ∈ others, isClient row.role = true → key ≠ (conversationId, row.turn)) :
    (building.addRows conversationId others).preBuiltMessagesByKey.get? key =
      building.preBuiltMessagesByKey.get? key := by
  induction others generalizing building with
  | nil => rfl
  | cons row others ih =>
      have rest := @ih (building.addMessages conversationId row (formatted row))
        fun other' member => other other' (List.mem_cons_of_mem row member)
      rw [Building.addRows, List.foldl_cons]
      refine rest.trans ?_
      by_cases client : isClient row.role = true
      · exact addMessages_get?_of_ne (other row List.mem_cons_self client)
      · rw [Building.addMessages, if_neg client]

/-- The last client turn with its number has the prompt up to it. -/
theorem builtFrom_get? (complete : ∀ row ∈ flatRows, Complete row) {outPos : Nat}
    {row : OutputRow} (found : flatRows[outPos]? = some row) (client : isClient row.role = true)
    (last : ∀ other ∈ flatRows.drop (outPos + 1), isClient other.role = true →
      row.turn ≠ other.turn) :
    (builtFrom conversationId flatRows).preBuiltMessagesByKey.get? (conversationId, row.turn) =
      some (datasetPrompt flatRows outPos) := by
  obtain ⟨within, isRow⟩ := List.getElem?_eq_some_iff.mp found
  have split : flatRows.take outPos ++ row :: flatRows.drop (outPos + 1) = flatRows := by
    rw [← isRow, ← List.drop_eq_getElem_cons within, List.take_append_drop]
  have upTo : flatRows.take (outPos + 1) = flatRows.take outPos ++ [row] := by
    rw [List.take_succ_eq_append_getElem within, isRow]
  have messages : ∀ row ∈ flatRows, formatted row.toTurnRow = datasetMessages row := by
    intro row member
    simp only [formatted, formatRow_of_complete (complete row member)]
  have parts : (builtFrom conversationId flatRows) =
      ((({ history := systemMessages (AgenticInference.systemContent
            (flatRows.map OutputRow.toTurnRow)) } : Building).addRows conversationId
          ((flatRows.take outPos).map OutputRow.toTurnRow)).addMessages conversationId
            row.toTurnRow (formatted row.toTurnRow)).addRows conversationId
              ((flatRows.drop (outPos + 1)).map OutputRow.toTurnRow) := by
    have mapped : flatRows.map OutputRow.toTurnRow =
        (flatRows.take outPos).map OutputRow.toTurnRow ++
          row.toTurnRow :: (flatRows.drop (outPos + 1)).map OutputRow.toTurnRow := by
      rw [← List.map_cons, ← List.map_append, split]
    rw [builtFrom, Building.addRows]
    nth_rewrite 2 [mapped]
    rw [List.foldl_append, List.foldl_cons]
    rfl
  rw [parts, addRows_get?_of_noClient]
  · rw [Building.addMessages, if_pos client]
    simp only [OrderedDict.get?_insert_self, addRows_history, datasetPrompt, upTo]
    rw [List.append_assoc, List.flatMap_append, List.flatMap_singleton, List.flatMap_map,
      messages row (List.mem_of_getElem? found)]
    congr 3
    apply List.flatMap_congr
    intro earlier member
    exact messages earlier (List.mem_of_mem_take member)
  · intro other member isClientRow equal
    obtain ⟨later, isLater, rfl⟩ := List.mem_map.mp member
    exact last later isLater isClientRow (Prod.mk.inj equal).2

end

/-! ## Lists side by side -/

section

variable {First Second : Type*} {related : First → Second → Prop}

theorem exists_related {firsts : List First} {seconds : List Second}
    (all : List.Forall₂ related firsts seconds) :
    ∀ second ∈ seconds, ∃ first ∈ firsts, related first second := by
  induction all with
  | nil => nofun
  | @cons first second firsts seconds head tail ih =>
      intro other member
      rcases List.mem_cons.mp member with rfl | later
      · exact ⟨first, List.mem_cons_self, head⟩
      · obtain ⟨found, isFirst, holds⟩ := ih other later
        exact ⟨found, List.mem_cons_of_mem first isFirst, holds⟩

theorem forall₂_append_split {left right : List First} {left' right' : List Second}
    (sameLength : left.length = left'.length)
    (all : List.Forall₂ related (left ++ right) (left' ++ right')) :
    List.Forall₂ related left left' ∧ List.Forall₂ related right right' := by
  have front := List.forall₂_take left.length all
  have back := List.forall₂_drop left.length all
  rw [List.take_left, sameLength, List.take_left] at front
  rw [List.drop_left, sameLength, List.drop_left] at back
  exact ⟨front, back⟩

theorem map_eq_of_forall₂ {Image : Type*} {image : First → Image} {image' : Second → Image}
    (agrees : ∀ first second, related first second → image first = image' second)
    {firsts : List First} {seconds : List Second} (all : List.Forall₂ related firsts seconds) :
    firsts.map image = seconds.map image' := by
  induction all with
  | nil => rfl
  | cons head _ ih => rw [List.map_cons, List.map_cons, agrees _ _ head, ih]

/-- Blocks of the same lengths that are equal together are equal one by one. -/
theorem blocks_eq {blocks blocks' : First → List Second} {items : List First}
    (lengths : ∀ item ∈ items, (blocks item).length = (blocks' item).length)
    (together : items.flatMap blocks = items.flatMap blocks') :
    ∀ item ∈ items, blocks item = blocks' item := by
  induction items with
  | nil => nofun
  | cons item items ih =>
      rw [List.flatMap_cons, List.flatMap_cons] at together
      obtain ⟨here, later⟩ := List.append_inj together (lengths item List.mem_cons_self)
      exact List.forall_mem_cons.mpr
        ⟨here, ih (fun other member => lengths other (List.mem_cons_of_mem item member)) later⟩

/-- Of the items that pass a test, one at or after a given one is the last. -/
theorem exists_last (test : First → Prop) {items : List First} {position : Nat} {item : First}
    (found : items[position]? = some item) (passes : test item) :
    ∃ later last, position ≤ later ∧ items[later]? = some last ∧ test last ∧
      ∀ other ∈ items.drop (later + 1), ¬ test other := by
  induction items using List.reverseRecOn with
  | nil => exact absurd found (by simp)
  | append_singleton items final ih =>
      have within : position < (items ++ [final]).length :=
        (List.getElem?_eq_some_iff.mp found).1
      rw [List.length_append, List.length_singleton] at within
      by_cases here : test final
      · refine ⟨items.length, final, by omega, by simp, here, ?_⟩
        intro other member
        rw [List.drop_eq_nil_of_le (by simp)] at member
        exact absurd member List.not_mem_nil
      · have inside : position < items.length := by
          by_contra outside
          have atEnd : position = items.length := by omega
          rw [atEnd, List.getElem?_concat_length] at found
          exact here (Option.some.inj found ▸ passes)
        rw [List.getElem?_append_left inside] at found
        obtain ⟨later, last, after, isLast, holds, none_⟩ := ih found
        have laterInside : later < items.length := (List.getElem?_eq_some_iff.mp isLast).1
        refine ⟨later, last, after, ?_, holds, ?_⟩
        · rw [List.getElem?_append_left laterInside]
          exact isLast
        · intro other member
          rw [List.drop_append_of_le_length (by omega)] at member
          rcases List.mem_append.mp member with earlier | isFinal
          · exact none_ other earlier
          · rw [List.mem_singleton.mp isFinal]
            exact here

/-- More items give more, if none gives nothing. -/
theorem length_flatMap_take_lt {blocks : First → List Second}
    (some_ : ∀ item, blocks item ≠ []) {items : List First} {count more : Nat}
    (less : count < more) (within : more ≤ items.length) :
    ((items.take count).flatMap blocks).length < ((items.take more).flatMap blocks).length := by
  obtain ⟨extra, rfl⟩ := Nat.exists_eq_add_of_lt less
  rw [Nat.add_assoc, List.take_add, List.flatMap_append, List.length_append]
  cases rest : items.drop count with
  | nil =>
      rw [List.drop_eq_nil_iff] at rest
      omega
  | cons item others =>
      have positive := List.length_pos_of_ne_nil (some_ item)
      rw [List.take_succ_cons, List.flatMap_cons, List.length_append]
      omega

end

/-! ## What a mismatch shows -/

section

variable {same : Json → Json → Bool} {listText : List Json → String} {record : SnapshotRecord}
  {flatRows : List OutputRow}

/-- A message as the verifier makes it. -/
def WireShaped (message : Message) : Prop :=
  message.name = none ∧ message.reasoningContent = none ∧ message.toolResults = none ∧
    message.toolCalls ≠ some []

theorem wireShaped_expand (row : Message) :
    ∀ message ∈ expandRowToWireMsgs row, WireShaped message := by
  intro message member
  unfold expandRowToWireMsgs at member
  split at member
  · obtain ⟨result, -, rfl⟩ := List.mem_map.mp member
    exact ⟨rfl, rfl, rfl, nofun⟩
  · obtain rfl := List.mem_singleton.mp member
    refine ⟨rfl, rfl, rfl, ?_⟩
    intro empty
    obtain ⟨-, nonempty⟩ := Option.filter_eq_some_iff.mp empty
    exact absurd nonempty (by simp)

theorem wireShaped_system (content : Option Content) :
    ∀ message ∈ wireSystem content, WireShaped message := by
  intro message member
  unfold wireSystem at member
  split at member
  · split at member
    · obtain rfl := List.mem_singleton.mp member
      exact ⟨rfl, rfl, rfl, nofun⟩
    · exact absurd member List.not_mem_nil
  · obtain rfl := List.mem_singleton.mp member
    exact ⟨rfl, rfl, rfl, nofun⟩
  · exact absurd member List.not_mem_nil
  · exact absurd member List.not_mem_nil

theorem wireShaped_groundTruth (outPos : Nat) :
    ∀ message ∈ groundTruth listText record outPos, WireShaped message := by
  intro message member
  rcases List.mem_append.mp member with isSystem | later
  · exact wireShaped_system _ message isSystem
  · obtain ⟨row, -, inRow⟩ := List.mem_flatMap.mp later
    exact wireShaped_expand row message inRow

theorem WireShaped.of_same {first second : Message} (shaped : WireShaped first)
    (equal : SameMessage same first second) : WireShaped second := by
  obtain ⟨name, reasoning, results, calls⟩ := shaped
  obtain ⟨-, -, sameName, sameReasoning, sameCalls, -, sameResults⟩ := equal
  refine ⟨sameName ▸ name, sameReasoning ▸ reasoning, ?_, ?_⟩
  · rw [results] at sameResults
    cases given : second.toolResults with
    | none => rfl
    | some others =>
        rw [given] at sameResults
        exact absurd sameResults Option.not_rel_none_some
  · intro empty
    rw [empty] at sameCalls
    cases given : first.toolCalls with
    | none =>
        rw [given] at sameCalls
        exact absurd sameCalls Option.not_rel_none_some
    | some others =>
        rw [given, Option.rel_some_some, List.forall₂_nil_right_iff] at sameCalls
        exact calls (by rw [given, sameCalls])

/-- The dataset makes a message of the verifier's shape only of a row that is read alike, but
for an id. -/
theorem readAlike_of_wireShaped {row : OutputRow}
    (shaped : ∀ message ∈ datasetMessages row, WireShaped message)
    (noId : row.toolResults = none → row.toolCallId = none ∨ row.toolCallId = some "") :
    ReadAlike row := by
  unfold ReadAlike
  cases found : row.toolResults with
  | none =>
      simp only [datasetMessages, found, List.forall_mem_singleton] at shaped
      exact ⟨shaped.1, shaped.2.1, shaped.2.2.2, noId found⟩
  | some results =>
      cases results with
      | nil =>
          simp only [datasetMessages, found, List.forall_mem_singleton] at shaped
          exact absurd shaped.2.2.1 (Option.some_ne_none [])
      | cons result results => exact List.cons_ne_nil result results

theorem length_datasetMessages {row : OutputRow}
    (shaped : ∀ message ∈ datasetMessages row, WireShaped message) :
    (datasetMessages row).length = (expandRowToWireMsgs row.fields).length := by
  cases found : row.toolResults with
  | none => simp [datasetMessages, expandRowToWireMsgs, OutputRow.fields, found]
  | some results =>
      cases results with
      | nil =>
          simp only [datasetMessages, found, List.forall_mem_singleton] at shaped
          exact absurd shaped.2.2.1 (Option.some_ne_none [])
      | cons result results =>
          simp [datasetMessages, expandRowToWireMsgs, OutputRow.fields, found]

theorem system_eq {content : Option Content} {prompt : Option String}
    (equal : List.Forall₂ (SameMessage same) (wireSystem content) (systemMessages prompt)) :
    wireSystem content = systemMessages prompt := by
  cases prompt with
  | none => exact List.forall₂_nil_right_iff.mp equal
  | some text =>
      have noPrompt : ¬ List.Forall₂ (SameMessage same) [] (systemMessages (some text)) := nofun
      match content with
      | none => exact absurd equal noPrompt
      | some (.parts []) => exact absurd equal noPrompt
      | some (.parts (part :: parts)) =>
          obtain ⟨-, contents, -⟩ := (List.forall₂_cons.mp equal).1
          exact (Option.rel_some_some.mp contents).elim
      | some (.text given) =>
          by_cases empty : given = ""
          · rw [wireSystem, if_neg (not_not_intro empty)] at equal
            exact absurd equal noPrompt
          · rw [wireSystem, if_pos empty] at equal ⊢
            obtain ⟨-, contents, -⟩ := (List.forall₂_cons.mp equal).1
            have equalText : SameContent same (.text given) (.text text) :=
              Option.rel_some_some.mp contents
            have sameText : given = text := equalText
            rw [sameText]
            rfl

/-- Where what the verifier sees and what the dataset makes both equal the collapsed source,
the prompts are the same and all rows are read alike. -/
theorem alike_of_same {outPos : Nat}
    (seen : List.Forall₂ (SameMessage same) (groundTruth listText record outPos)
      (reconstructed record flatRows outPos))
    (made : List.Forall₂ (SameMessage same) (groundTruth listText record outPos)
      (datasetPrompt flatRows outPos)) :
    wireSystem (systemContent record.messages) =
        systemMessages (AgenticInference.systemContent (flatRows.map OutputRow.toTurnRow)) ∧
      ∀ row ∈ flatRows.take (outPos + 1), ReadAlike row := by
  have shaped : ∀ row ∈ flatRows.take (outPos + 1), ∀ message ∈ datasetMessages row,
      WireShaped message := by
    intro row isRow message member
    have inPrompt : message ∈ datasetPrompt flatRows outPos :=
      List.mem_append_right _ (List.mem_flatMap.mpr ⟨row, isRow, member⟩)
    obtain ⟨first, isFirst, equal⟩ := exists_related made message inPrompt
    exact (wireShaped_groundTruth outPos first isFirst).of_same equal
  have lengths : ∀ row ∈ flatRows.take (outPos + 1),
      (datasetMessages row).length = (expandRowToWireMsgs row.fields).length :=
    fun row isRow => length_datasetMessages (shaped row isRow)
  have sameLength : ((flatRows.take (outPos + 1)).flatMap datasetMessages).length =
      ((flatRows.take (outPos + 1)).flatMap fun row => expandRowToWireMsgs row.fields).length := by
    rw [List.length_flatMap, List.length_flatMap]
    exact congrArg List.sum (List.map_congr_left lengths)
  -- The rows give as many messages on both sides, so the system messages stand side by side.
  have total := made.length_eq.symm.trans seen.length_eq
  rw [datasetPrompt, reconstructed, List.length_append, List.length_append, sameLength,
    Nat.add_right_cancel_iff] at total
  have prompts := (forall₂_append_split total.symm made).1
  refine ⟨system_eq prompts, ?_⟩
  have ids : ∀ first second : Message, SameMessage same first second →
      first.toolCallId = second.toolCallId := fun _ _ equal => equal.2.2.2.2.2.1
  have seenRows := (forall₂_append_split rfl seen).2
  have madeRows := (forall₂_append_split total.symm made).2
  have sameIds := (map_eq_of_forall₂ ids madeRows).symm.trans (map_eq_of_forall₂ ids seenRows)
  rw [List.map_flatMap, List.map_flatMap] at sameIds
  intro row isRow
  apply readAlike_of_wireShaped (shaped row isRow)
  intro noResults
  have rowIds := blocks_eq (fun other member => by
    rw [List.length_map, List.length_map, lengths other member]) sameIds row isRow
  simp only [datasetMessages, expandRowToWireMsgs, OutputRow.fields, noResults, List.map_cons,
    List.map_nil, List.cons.injEq, and_true] at rowIds
  cases given : row.toolCallId with
  | none => exact .inl rfl
  | some id =>
      right
      by_contra nonempty
      have kept : id ≠ "" := fun empty => nonempty (congrArg some empty)
      rw [given, Option.filter_some, if_pos (by simpa using kept)] at rowIds
      exact absurd rowIds.symm (Option.some_ne_none id)

/-! ## One conversation -/

theorem mem_zipIdx {Item : Type*} {items : List Item} {item : Item} {position : Nat} :
    (item, position) ∈ items.zipIdx ↔ items[position]? = some item := by
  simp [List.mem_zipIdx_iff_getElem?]

/-- The comparisons at the client turns of a conversation that is accepted. -/
theorem verifyConversation_seen
    (accepted : verifyConversation same listText record flatRows = true) {outPos : Nat}
    {row : OutputRow} (found : flatRows[outPos]? = some row) (client : isClient row.role = true) :
    List.Forall₂ (SameMessage same) (groundTruth listText record outPos)
      (reconstructed record flatRows outPos) := by
  rw [verifyConversation, Bool.and_eq_true, List.all_eq_true] at accepted
  have compared := accepted.2 (row, outPos) (mem_zipIdx.mpr found)
  simpa [client] using compared

/-- What the verifier sees is what the dataset makes of faithful rows. -/
theorem reconstructed_eq (faithful : Faithful record flatRows) {outPos : Nat} {row : OutputRow}
    (found : flatRows[outPos]? = some row) (client : isClient row.role = true) :
    reconstructed record flatRows outPos = datasetPrompt flatRows outPos := by
  rw [reconstructed, datasetPrompt,
    faithful.prompt ⟨row, List.mem_of_getElem? found, client⟩]
  congr 1
  apply List.flatMap_congr
  intro earlier member
  exact (datasetMessages_eq (faithful.readAlike outPos row found client earlier member)).symm

variable {conversationId : String} {rows : List OutputRow}

theorem prebuilds_of_faithful
    (accepted : verifyConversation same listText record (sortedRows rows conversationId) = true)
    (faithful : Faithful record (sortedRows rows conversationId)) :
    Prebuilds same listText conversationId record rows := by
  obtain ⟨count, built⟩ := build_of_complete faithful.complete
  refine ⟨_, built, ?_⟩
  intro outPos row found client
  refine ⟨_, builtFrom_get? faithful.complete found client ?_, ?_⟩
  · obtain ⟨within, isRow⟩ := List.getElem?_eq_some_iff.mp found
    have distinct := List.pairwise_filter.mp faithful.distinct
    rw [← List.take_append_drop outPos (sortedRows rows conversationId),
      List.drop_eq_getElem_cons within, isRow] at distinct
    have after := (List.pairwise_cons.mp (List.pairwise_append.mp distinct).2.1).1
    exact fun other member isOther => after other member client isOther
  · rw [← reconstructed_eq faithful found client]
    exact verifyConversation_seen accepted found client

theorem faithful_of_prebuilds
    (accepted : verifyConversation same listText record (sortedRows rows conversationId) = true)
    (prebuilds : Prebuilds same listText conversationId record rows) :
    Faithful record (sortedRows rows conversationId) := by
  obtain ⟨result, built, prompts⟩ := prebuilds
  have complete := complete_of_build built
  obtain ⟨count, builtTo⟩ := build_of_complete complete
  obtain rfl := Except.ok.inj (builtTo.symm.trans built)
  -- The last client turn from a position on is compared with what is prebuilt for it.
  have alike : ∀ outPos row, (sortedRows rows conversationId)[outPos]? = some row →
      isClient row.role = true →
        wireSystem (systemContent record.messages) = systemMessages (AgenticInference.systemContent
          ((sortedRows rows conversationId).map OutputRow.toTurnRow)) ∧
        ∀ earlier ∈ (sortedRows rows conversationId).take (outPos + 1), ReadAlike earlier := by
    intro outPos row found client
    obtain ⟨later, last, after, isLast, lastClient, none_⟩ :=
      exists_last (fun row : OutputRow => isClient row.role = true) found client
    have kept := @builtFrom_get? conversationId _ complete later last isLast lastClient
      fun other member isOther => absurd isOther (none_ other member)
    obtain ⟨prebuilt, isPrebuilt, made⟩ := prompts later last isLast lastClient
    obtain rfl := Option.some.inj (kept.symm.trans isPrebuilt)
    obtain ⟨samePrompt, readAlike⟩ :=
      alike_of_same (verifyConversation_seen accepted isLast lastClient) made
    refine ⟨samePrompt, fun earlier member => readAlike earlier ?_⟩
    exact List.take_subset_take_left _ (by omega) member
  refine ⟨complete, ?_, ?_, fun outPos row found client => (alike outPos row found client).2⟩
  · rw [List.pairwise_filter, List.pairwise_iff_getElem]
    intro first second firstWithin secondWithin less firstClient secondClient sameTurn
    have foundFirst := List.getElem?_eq_getElem firstWithin
    obtain ⟨later, last, after, isLast, ⟨lastClient, lastTurn⟩, none_⟩ :=
      exists_last (fun row : OutputRow => isClient row.role = true ∧
        row.turn = (sortedRows rows conversationId)[second].turn)
        (List.getElem?_eq_getElem secondWithin) ⟨secondClient, rfl⟩
    have kept := @builtFrom_get? conversationId _ complete later last isLast lastClient
      fun other member isOther equal => none_ other member ⟨isOther, equal.symm.trans lastTurn⟩
    obtain ⟨prebuilt, isPrebuilt, made⟩ := prompts first _ foundFirst firstClient
    rw [sameTurn, ← lastTurn, kept] at isPrebuilt
    obtain rfl := Option.some.inj isPrebuilt
    have seen := verifyConversation_seen accepted foundFirst firstClient
    -- The prompt of the later turn has more messages.
    obtain ⟨samePrompt, readAlike⟩ := alike first _ foundFirst firstClient
    have firstPrompt : reconstructed record (sortedRows rows conversationId) first =
        datasetPrompt (sortedRows rows conversationId) first := by
      rw [reconstructed, datasetPrompt, samePrompt]
      congr 1
      apply List.flatMap_congr
      exact fun earlier member => (datasetMessages_eq (readAlike earlier member)).symm
    have lengths := made.length_eq.symm.trans seen.length_eq
    rw [firstPrompt, datasetPrompt, datasetPrompt, List.length_append,
      List.length_append] at lengths
    have laterWithin := (List.getElem?_eq_some_iff.mp isLast).1
    have longer := @length_flatMap_take_lt _ _ datasetMessages datasetMessages_ne_nil
      (sortedRows rows conversationId) (first + 1) (later + 1) (by omega) (by omega)
    omega
  · rintro ⟨row, member, client⟩
    obtain ⟨outPos, within, isRow⟩ := List.mem_iff_getElem.mp member
    exact (alike outPos row (List.getElem?_eq_some_iff.mpr ⟨within, isRow⟩) client).1

end

/-! ## The whole file -/

/-- A conversation with a system prompt. -/
def greeting : SnapshotRecord where
  conversationId := "sim_1"
  conversationIdx := 0
  messages := [
    { role := .system, content := some (.text "Be brief.") },
    { role := .user, content := some (.text "Hello") },
    { role := .assistant, content := some (.text "Hi") },
    { role := .user, content := some (.text "Bye") }]

/-- Its rows, with what the first one has as the system prompt and the second one as the
reasoning. -/
def greetingRows (system : Option Content) (reasoning : Option String) : List OutputRow :=
  [{ conversationId := "sim_1", turn := 1, role := .user, content := some (.text "Hello"),
     system := system },
    { conversationId := "sim_1", turn := 2, role := .assistant, content := some (.text "Hi"),
      reasoningContent := reasoning },
    { conversationId := "sim_1", turn := 3, role := .user, content := some (.text "Bye") }]

def otherRow : OutputRow :=
  { conversationId := "sim_2", turn := 1, role := .user, content := some (.text "Hello") }

def sameText (first second : Json) : Bool :=
  Json.dumps id first = Json.dumps id second

theorem finalSnapshots_greeting :
    (finalSnapshots [greeting]).entries = [("sim_1", greeting)] :=
  rfl

theorem sortedRows_greeting (system : Option Content) (reasoning : Option String)
    {others : List OutputRow} (elsewhere : ∀ row ∈ others, row.conversationId ≠ "sim_1") :
    sortedRows (greetingRows system reasoning ++ others) "sim_1" =
      greetingRows system reasoning := by
  have group : OrderedDict.valuesOf ((greetingRows system reasoning ++ others).map
      fun row => (row.conversationId, row)) "sim_1" = greetingRows system reasoning := by
    have none_ : others.filter (fun row => decide (row.conversationId = "sim_1")) = [] := by
      simpa using elsewhere
    simp [OrderedDict.valuesOf, List.filter_map, Function.comp_def, none_, greetingRows]
  rw [sortedRows, OrderedDict.get?_group, group]
  apply List.mergeSort_of_pairwise
  simp [greetingRows]

/-- The verifier accepts the rows whatever prompt and reasoning they have, and whatever other
conversations there are. -/
theorem verify_greeting (system : Option Content) (reasoning : Option String)
    {others : List OutputRow} (elsewhere : ∀ row ∈ others, row.conversationId ≠ "sim_1") :
    verify sameText (fun _ => "[]") [greeting] (greetingRows system reasoning ++ others) =
      true := by
  rw [verify, finalSnapshots_greeting, List.all_cons, List.all_nil, Bool.and_true,
    sortedRows_greeting system reasoning elsewhere]
  rfl

theorem sortedRows_greetingRows (system : Option Content) (reasoning : Option String) :
    sortedRows (greetingRows system reasoning) "sim_1" = greetingRows system reasoning := by
  have sorted := sortedRows_greeting system reasoning (List.forall_mem_nil _)
  rwa [List.append_nil] at sorted

theorem verify_greetingRows (system : Option Content) (reasoning : Option String) :
    verify sameText (fun _ => "[]") [greeting] (greetingRows system reasoning) = true := by
  have accepted := verify_greeting system reasoning (List.forall_mem_nil _)
  rwa [List.append_nil] at accepted

def bePrompt : Option Content :=
  some (.text "Be brief.")

theorem faithful_greeting : Faithful greeting (greetingRows bePrompt none) := by
  have alike : ∀ row ∈ greetingRows bePrompt none, ReadAlike row := by
    simp [greetingRows, ReadAlike]
  refine ⟨?_, ?_, fun _ => rfl, ?_⟩
  · simp [greetingRows, Complete]
  · simp [greetingRows, isClient]
  · exact fun _ _ _ _ earlier member => alike earlier (List.mem_of_mem_take member)

/-- A sound file has faithful rows of the greeting. -/
theorem faithful_of_sound {system : Option Content} {reasoning : Option String}
    (sound : Sound sameText (fun _ => "[]") [greeting] (greetingRows system reasoning)) :
    Faithful greeting (greetingRows system reasoning) := by
  have accepted := verify_greetingRows system reasoning
  rw [verify, finalSnapshots_greeting, List.all_cons, List.all_nil, Bool.and_true] at accepted
  have faithful := faithful_of_prebuilds accepted
    (sound.prebuilds ("sim_1", greeting) (List.mem_singleton_self _))
  rwa [sortedRows_greetingRows] at faithful

end ConvertAgenticSnapshot

end InferenceEndpoint
