import InferenceEndpoint.Library.Grouping
import InferenceEndpoint.Library.Json
import Mathlib.Data.Rat.Defs
import Mathlib.Algebra.Order.Ring.Rat

/-!
# The agentic inference dataset

Rows of conversations, with one row for each user turn, assistant turn and round of tool
results.  The dataset checks the rows when it is made, and prebuilds for every client turn
the messages of the conversation up to it.
-/

namespace InferenceEndpoint

namespace AgenticInference

inductive Role
  | system
  | user
  | assistant
  | tool
  deriving DecidableEq, Repr

def Role.text : Role → String
  | system => "system"
  | user => "user"
  | assistant => "assistant"
  | tool => "tool"

/-- A text or a list of content parts. -/
inductive Content
  | text (text : String)
  | parts (parts : List Json)

/-- `content` is `none` if the key is absent, and null is `some none`. -/
structure ToolResult where
  toolCallId : Option String := none
  content : Option (Option Content) := none

/-- A chat message; keys that are absent or null are `none`. -/
structure Message where
  role : Role
  content : Option Content := none
  name : Option String := none
  reasoningContent : Option String := none
  toolCalls : Option (List Json) := none
  toolCallId : Option String := none
  toolResults : Option (List ToolResult) := none

/-- A row of the data frame; values that are absent, null or NaN are `none`. -/
structure TurnRow where
  conversationId : String
  turn : Nat
  role : Role
  system : Option Content := none
  content : Option Content := none
  name : Option String := none
  reasoningContent : Option String := none
  toolCalls : Option (List Json) := none
  toolResults : Option (List ToolResult) := none
  tools : Option (List Json) := none
  delaySeconds : Option ℚ := none

inductive DatasetError
  | keyError (column : String)
  | valueError (message : String)
  | inputValidation (message : String)

def isClient (role : Role) : Bool :=
  role = .user || role = .tool

/-! ## Prebuilding messages -/

/-- `repr` of a string of printable ASCII characters. -/
def pyRepr (text : String) : String :=
  let quote := if text.toList.contains '\'' && !text.toList.contains '"' then '"' else '\''
  String.ofList (quote :: text.toList.flatMap (fun char =>
    if char = quote || char = '\\' then ['\\', char] else [char]) ++ [quote])

/-- The OpenAI message of one tool result. -/
def expandToolResult (row : TurnRow) (result : ToolResult × Nat) : Except DatasetError Message :=
  let place := "tool_results[" ++ toString result.2 ++ "] in conversation " ++
    pyRepr row.conversationId ++ " turn " ++ toString row.turn
  match result.1.toolCallId, result.1.content.join with
  | none, _ =>
      .error (.inputValidation (place ++ " is missing required field 'tool_call_id'"))
  | some _, none => .error (.inputValidation (place ++ " is missing required field 'content'"))
  | some toolCallId, some content =>
      .ok { role := .tool, toolCallId := some toolCallId, content := some content }

/-- `_expand_tool_results`. -/
def expandToolResults (row : TurnRow) : Except DatasetError (List Message) :=
  match row.toolResults with
  | none => .ok []
  | some results => results.zipIdx.mapM (expandToolResult row)

/-- The messages of a row that is no list of tool results are its fields; an assistant row
with tool calls and no content has a null content. -/
def formatRow (row : TurnRow) : Except DatasetError (List Message) := do
  let expanded ← expandToolResults row
  if expanded.isEmpty then
    pure [{
      role := row.role
      content := row.content
      name := row.name
      toolCalls := row.toolCalls
      toolResults := row.toolResults
      reasoningContent := row.reasoningContent }]
  else pure expanded

structure ConversationSampleEntry where
  conversationId : String
  turn : Nat
  sampleIndex : Option Nat := none
  deriving DecidableEq, Repr

/-- The conversation while its rows are read in the order of turns. -/
structure Building where
  history : List Message := []
  preBuiltMessagesByKey : OrderedDict (String × Nat) (List Message) := ∅
  delaySecondsByKey : OrderedDict (String × Nat) ℚ := ∅
  samples : List ConversationSampleEntry := []

def Building.addMessages (building : Building) (conversationId : String) (row : TurnRow)
    (rowMessages : List Message) : Building :=
  if isClient row.role then
    let key := (conversationId, row.turn)
    { history := building.history ++ rowMessages
      preBuiltMessagesByKey :=
        building.preBuiltMessagesByKey.insert key (building.history ++ rowMessages)
      delaySecondsByKey :=
        match row.delaySeconds with
        | some delay =>
            if 0 < delay then building.delaySecondsByKey.insert key delay
            else building.delaySecondsByKey
        | none => building.delaySecondsByKey
      samples := building.samples ++ [{ conversationId := conversationId, turn := row.turn }] }
  else { building with history := building.history ++ rowMessages }

def Building.addRow (conversationId : String) (building : Building) (row : TurnRow) :
    Except DatasetError Building := do
  let rowMessages ← formatRow row
  pure (building.addMessages conversationId row rowMessages)

/-- `group.sort_values("turn")`. -/
def sortByTurn (group : List TurnRow) : List TurnRow :=
  group.mergeSort fun first second => first.turn ≤ second.turn

/-- The first system prompt that is a non-empty text. -/
def systemContent (group : List TurnRow) : Option String :=
  group.findSome? fun row =>
    match row.system with
    | some (.text text) => if text ≠ "" then some text else none
    | _ => none

def systemMessages : Option String → List Message
  | some text => [{ role := .system, content := some (.text text) }]
  | none => []

/-- `_build_conversation_metadata`, with the count of client turns. -/
def buildConversationMetadata (conversationId : String) (group : List TurnRow) :
    Except DatasetError (Building × Nat) := do
  let sorted := sortByTurn group
  let built ← sorted.foldlM (Building.addRow conversationId)
    { history := systemMessages (systemContent sorted) }
  pure (built, (sorted.filter fun row => isClient row.role).length)

/-! ## Checks -/

/-- `_validate_conversation_grouping` for one row. -/
def checkGrouping (rows : List String × Option String) (row : TurnRow × Nat) :
    Except DatasetError (List String × Option String) :=
  let conversationId := row.1.conversationId
  if conversationId = "" || conversationId = "nan" then
    .error (.inputValidation ("Row " ++ toString row.2 ++
      ": 'conversation_id' must be a non-empty string"))
  else if conversationId.toList.any fun char => char.toNat < 32 || 126 < char.toNat then
    .error (.inputValidation ("Row " ++ toString row.2 ++
      ": 'conversation_id' must not contain non-printable or non-ASCII characters"))
  else if rows.2 = some conversationId then .ok rows
  else if rows.1.contains conversationId then
    .error (.inputValidation ("Rows for conversation '" ++ conversationId ++
      "' are not consecutive. All rows for a conversation must appear together in the file."))
  else .ok (conversationId :: rows.1, some conversationId)

/-- `VALID_NEXT`; `none` is the start. -/
def validNext : Option Role → List Role
  | none => [.user]
  | some .user => [.assistant]
  | some .assistant => [.tool, .user]
  | some .tool => [.assistant, .user]
  | some .system => []

def isEmptyContent : Option Content → Bool
  | none => true
  | some (.text text) => text = ""
  | some (.parts _) => false

def nonEmptyString : Option Json → Bool
  | some (.string text) => text ≠ ""
  | _ => false

/-- The checks on one tool call of an assistant row. -/
def checkToolCall (place : String) : Json → Except DatasetError Unit
  | .object call =>
      if !nonEmptyString (Json.lookup call "id") then
        .error (.inputValidation (place ++ ": missing or empty 'id' (string)"))
      else
        match Json.lookup call "type", Json.lookup call "function" with
        | some (.string "function"), some (.object function) =>
            if !nonEmptyString (Json.lookup function "name") then
              .error (.inputValidation (place ++ ": 'function.name' must be a non-empty string"))
            else
              match Json.lookup function "arguments" with
              | some (.string _) | some (.object _) => .ok ()
              | _ =>
                  .error (.inputValidation
                    (place ++ ": 'function.arguments' must be a JSON string or dict"))
        | some (.string "function"), _ =>
            .error (.inputValidation (place ++ ": 'function' must be a dict"))
        | _, _ => .error (.inputValidation (place ++ ": 'type' must be 'function'"))
  | _ => .error (.inputValidation (place ++ ": must be a dict"))

def TurnRow.hasToolCalls (row : TurnRow) : Bool :=
  row.toolCalls.any fun calls => !calls.isEmpty

/-- The start of the messages about a row. -/
def TurnRow.place (conversationId : String) (row : TurnRow) : String :=
  "Conversation " ++ conversationId ++ " turn " ++ toString row.turn

/-- The last role, if any, and whether it was an assistant with tool calls. -/
abbrev Progress := Option Role × Bool

def checkToolResult (place : String) (result : ToolResult × Nat) : Except DatasetError Unit :=
  let entry := place ++ " tool_results[" ++ toString result.2 ++ "]: "
  if result.1.toolCallId.all (· = "") then
    .error (.inputValidation (entry ++ "'tool_call_id' must be a non-empty string"))
  else if result.1.content.isNone then
    .error (.inputValidation (entry ++ "'content' field is required"))
  else .ok ()

def checkToolRow (place : String) (state : Progress) (row : TurnRow) : Except DatasetError Unit :=
  if state.1 = some .assistant && !state.2 then
    .error (.inputValidation (place ++
      ": 'tool' row must follow an 'assistant' row that has non-empty 'tool_calls'"))
  else
    match row.toolResults with
    | some (result :: results) => (result :: results).zipIdx.forM (checkToolResult place)
    | _ =>
        .error (.inputValidation (place ++ ": tool rows must have a non-empty 'tool_results' list"))

def checkAssistantRow (place : String) (row : TurnRow) : Except DatasetError Unit := do
  (row.toolCalls.getD []).zipIdx.forM fun call =>
    checkToolCall (place ++ " tool_calls[" ++ toString call.2 ++ "]") call.1
  if isEmptyContent row.content && !row.hasToolCalls then
    throw (.inputValidation (place ++
      ": assistant rows must have non-empty 'content' or non-empty 'tool_calls'"))
  if row.toolCalls.isSome && !row.hasToolCalls then
    throw (.inputValidation (place ++
      ": 'tool_calls' field is present but is not a non-empty list; " ++
      "omit the field or provide a valid non-empty list"))

def checkUserRow (place : String) (state : Progress) (row : TurnRow) :
    Except DatasetError Unit := do
  if isEmptyContent row.content then
    throw (.inputValidation (place ++ ": user rows must have non-empty 'content'"))
  if state.1 = some .assistant && state.2 then
    throw (.inputValidation (place ++
      ": 'user' row cannot follow an assistant row with 'tool_calls'; " ++
      "a 'tool' result row is required first"))

/-- `_validate_conversation_structure` for one row. -/
def checkRow (conversationId : String) (state : Progress) (row : TurnRow) :
    Except DatasetError Progress := do
  if row.role ∉ validNext state.1 then
    throw (.valueError ("Conversation " ++ conversationId ++
      " has invalid role sequence at turn " ++ toString row.turn ++ ": got '" ++ row.role.text ++
      "' after state '" ++ state.1.elim "start" Role.text ++ "'"))
  match row.role with
  | .tool => checkToolRow (row.place conversationId) state row
  | .assistant => checkAssistantRow (row.place conversationId) row
  | .user => checkUserRow (row.place conversationId) state row
  | .system => pure ()
  pure (some row.role, row.role = .assistant && row.hasToolCalls)

def checkStructure (group : String × List TurnRow) : Except DatasetError Unit :=
  (fun _ => ()) <$> (sortByTurn group.2).foldlM (checkRow group.1) (none, false)

/-- `_validate_turn_numbering` for one conversation. -/
def checkNumbering (group : String × List TurnRow) : Except DatasetError Unit :=
  let turns := (group.2.map TurnRow.turn).mergeSort fun first second => first ≤ second
  if turns = (List.range turns.length).map (· + 1) then .ok ()
  else
    .error (.valueError ("Conversation " ++ group.1 ++
      ": Turn numbers must be consecutive starting at 1, got " ++ toString turns))

/-! ## The dataset -/

def convGroups (rows : List TurnRow) : OrderedDict String (List TurnRow) :=
  OrderedDict.group (rows.map fun row => (row.conversationId, row))

/-- `AgenticInferenceDataset.__init__`; a frame without rows has no columns. -/
def checkRows (rows : List TurnRow) : Except DatasetError Unit := do
  if rows.isEmpty then throw (.keyError "conversation_id")
  discard <| rows.zipIdx.foldlM checkGrouping ([], none)
  (convGroups rows).entries.forM checkStructure
  (convGroups rows).entries.forM checkNumbering

structure ConversationMetadata where
  samples : List ConversationSampleEntry := []
  numConversations : Nat := 0
  maxTurnsPerConv : Nat := 0
  clientTurnsPerConversation : OrderedDict String Nat := ∅
  preBuiltMessagesByKey : OrderedDict (String × Nat) (List Message) := ∅
  delaySecondsByKey : OrderedDict (String × Nat) ℚ := ∅

/-- `dict.update`. -/
def update {Key Value : Type*} [DecidableEq Key] (dict other : OrderedDict Key Value) :
    OrderedDict Key Value :=
  other.entries.foldl (fun dict entry => dict.insert entry.1 entry.2) dict

def ConversationMetadata.addConversation (metadata : ConversationMetadata)
    (group : String × List TurnRow) : Except DatasetError ConversationMetadata := do
  let (built, clientTurns) ← buildConversationMetadata group.1 group.2
  pure {
    samples := metadata.samples ++ built.samples
    numConversations := metadata.numConversations + 1
    maxTurnsPerConv := (group.2.map TurnRow.turn).foldl max metadata.maxTurnsPerConv
    clientTurnsPerConversation := metadata.clientTurnsPerConversation.insert group.1 clientTurns
    preBuiltMessagesByKey := update metadata.preBuiltMessagesByKey built.preBuiltMessagesByKey
    delaySecondsByKey := update metadata.delaySecondsByKey built.delaySecondsByKey }

/-- `_build_metadata`. -/
def buildMetadata (rows : List TurnRow) : Except DatasetError ConversationMetadata :=
  (convGroups rows).entries.foldlM ConversationMetadata.addConversation {}

/-- Make the dataset and load it. -/
def load (rows : List TurnRow) : Except DatasetError ConversationMetadata := do
  checkRows rows
  buildMetadata rows

/-! ## What is prebuilt -/

theorem get?_update {Key Value : Type*} [DecidableEq Key] (dict other : OrderedDict Key Value)
    (key : Key) : (update dict other).get? key = (other.get? key).or (dict.get? key) := by
  obtain ⟨entries, nodup⟩ := other
  simp only [update, OrderedDict.get?]
  induction entries generalizing dict with
  | nil => rfl
  | cons entry entries ih =>
      simp only [List.map_cons, List.nodup_cons] at nodup
      rw [List.foldl_cons]
      have rest := ih (dict.insert entry.1 entry.2) nodup.2
      rw [rest]
      have inserted := dict.get?_insert entry.1 key entry.2
      simp only [OrderedDict.get?] at inserted
      rw [inserted, List.find?_cons]
      by_cases same : key = entry.1
      · subst same
        have absent : entries.find? (fun other => other.1 = entry.1) = none := by
          rw [List.find?_eq_none]
          intro other member
          simp only [decide_eq_true_eq]
          intro equal
          exact nodup.1 (List.mem_map.mpr ⟨other, member, equal⟩)
        simp [absent]
      · simp [same, Ne.symm same]

/-- The messages of a row whose tool results are complete. -/
def formatted (row : TurnRow) : List Message :=
  match formatRow row with
  | .ok rowMessages => rowMessages
  | .error _ => []

theorem formatRow_eq_formatted {row : TurnRow} {rowMessages : List Message}
    (formats : formatRow row = .ok rowMessages) : formatRow row = .ok (formatted row) := by
  simp [formatted, formats]

/-- The conversation after its rows. -/
def Building.addRows (building : Building) (conversationId : String) (rows : List TurnRow) :
    Building :=
  rows.foldl (fun building row => building.addMessages conversationId row (formatted row)) building

theorem foldlM_addRow {conversationId : String} {rows : List TurnRow}
    (formats : ∀ row ∈ rows, formatRow row = .ok (formatted row)) (building : Building) :
    rows.foldlM (Building.addRow conversationId) building =
      .ok (building.addRows conversationId rows) := by
  induction rows generalizing building with
  | nil => rfl
  | cons row rows ih =>
      have head : building.addRow conversationId row =
          .ok (building.addMessages conversationId row (formatted row)) := by
        simp only [Building.addRow, formats row List.mem_cons_self]
        rfl
      rw [List.foldlM_cons, head]
      exact ih (fun other member => formats other (List.mem_cons_of_mem _ member)) _

/-- A computation succeeds only if its first part does. -/
theorem of_bind_ok {First Second : Type} {first : Except DatasetError First}
    {rest : First → Except DatasetError Second} {result : Second}
    (succeeded : first >>= rest = .ok result) :
    ∃ value, first = .ok value ∧ rest value = .ok result := by
  cases first with
  | error error => cases succeeded
  | ok value => exact ⟨value, rfl, succeeded⟩

/-- Building fails if the messages of a row cannot be made. -/
theorem formats_of_foldlM {conversationId : String} {rows : List TurnRow} {building last : Building}
    (built : rows.foldlM (Building.addRow conversationId) building = .ok last) :
    ∀ row ∈ rows, formatRow row = .ok (formatted row) := by
  induction rows generalizing building with
  | nil => simp
  | cons row rows ih =>
      rw [List.foldlM_cons] at built
      obtain ⟨next, added, rest⟩ := of_bind_ok built
      obtain ⟨rowMessages, head, -⟩ := of_bind_ok added
      exact List.forall_mem_cons.mpr ⟨formatRow_eq_formatted head, ih rest⟩

theorem addMessages_history (building : Building) (conversationId : String) (row : TurnRow)
    (rowMessages : List Message) :
    (building.addMessages conversationId row rowMessages).history =
      building.history ++ rowMessages := by
  unfold Building.addMessages
  split <;> rfl

theorem addRows_history (building : Building) (conversationId : String) (rows : List TurnRow) :
    (building.addRows conversationId rows).history =
      building.history ++ rows.flatMap formatted := by
  induction rows generalizing building with
  | nil => simp [Building.addRows]
  | cons row rows ih =>
      rw [Building.addRows, List.foldl_cons]
      refine (ih _).trans ?_
      rw [addMessages_history, List.flatMap_cons, List.append_assoc]

theorem addMessages_get?_of_ne {building : Building} {conversationId : String} {row : TurnRow}
    {rowMessages : List Message} {key : String × Nat} (other : key ≠ (conversationId, row.turn)) :
    (building.addMessages conversationId row rowMessages).preBuiltMessagesByKey.get? key =
      building.preBuiltMessagesByKey.get? key := by
  unfold Building.addMessages
  split
  · exact OrderedDict.get?_insert_of_ne _ _ other
  · rfl

theorem addRows_get?_of_ne {building : Building} {conversationId : String} {rows : List TurnRow}
    {key : String × Nat} (other : ∀ row ∈ rows, key ≠ (conversationId, row.turn)) :
    (building.addRows conversationId rows).preBuiltMessagesByKey.get? key =
      building.preBuiltMessagesByKey.get? key := by
  induction rows generalizing building with
  | nil => rfl
  | cons row rows ih =>
      rw [Building.addRows, List.foldl_cons]
      refine (ih fun other' member => other other' (List.mem_cons_of_mem _ member)).trans ?_
      exact addMessages_get?_of_ne (other row List.mem_cons_self)

/-- A client turn sees the messages of all rows up to its own. -/
theorem addRows_get? {building : Building} {conversationId : String} {before after : List TurnRow}
    {row : TurnRow} (client : isClient row.role = true)
    (later : ∀ other ∈ after, row.turn ≠ other.turn) :
    (building.addRows conversationId (before ++ row :: after)).preBuiltMessagesByKey.get?
        (conversationId, row.turn) =
      some (building.history ++ (before ++ [row]).flatMap formatted) := by
  have split : building.addRows conversationId (before ++ row :: after) =
      ((building.addRows conversationId before).addMessages conversationId row
        (formatted row)).addRows conversationId after := by
    simp [Building.addRows]
  rw [split, addRows_get?_of_ne]
  · simp [Building.addMessages, client, addRows_history]
  · intro other member equal
    exact later other member (Prod.mk.inj equal).2

theorem addRows_getElem? {building : Building} {conversationId : String} {rows : List TurnRow}
    (ordered : rows.Pairwise fun first second => first.turn < second.turn) {position : Nat}
    {row : TurnRow} (found : rows[position]? = some row) (client : isClient row.role = true) :
    (building.addRows conversationId rows).preBuiltMessagesByKey.get? (conversationId, row.turn) =
      some (building.history ++ (rows.take (position + 1)).flatMap formatted) := by
  obtain ⟨within, rfl⟩ := List.getElem?_eq_some_iff.mp found
  have split : rows.take position ++ rows[position] :: rows.drop (position + 1) = rows := by
    rw [← List.drop_eq_getElem_cons within, List.take_append_drop]
  rw [← split, List.pairwise_append, List.pairwise_cons] at ordered
  have prebuilt := @addRows_get? building conversationId (rows.take position)
    (rows.drop (position + 1)) rows[position] client
    fun other member => (ordered.2.1.1 other member).ne
  rwa [split, ← List.take_succ_eq_append_getElem within] at prebuilt

theorem sortByTurn_eq {rows : List TurnRow}
    (ordered : rows.Pairwise fun first second => first.turn < second.turn) :
    sortByTurn rows = rows := by
  apply List.mergeSort_of_pairwise
  exact ordered.imp fun less => by simpa using less.le

/-- A conversation is built exactly if the messages of all its rows can be made. -/
theorem buildConversationMetadata_eq {conversationId : String} {rows : List TurnRow}
    (ordered : rows.Pairwise fun first second => first.turn < second.turn)
    (formats : ∀ row ∈ rows, formatRow row = .ok (formatted row)) :
    buildConversationMetadata conversationId rows =
      .ok (({ history := systemMessages (systemContent rows) } : Building).addRows
        conversationId rows, (rows.filter fun row => isClient row.role).length) := by
  unfold buildConversationMetadata
  rw [sortByTurn_eq ordered]
  simp only [foldlM_addRow formats]
  rfl

theorem formats_of_build {conversationId : String} {rows : List TurnRow} {result : Building × Nat}
    (ordered : rows.Pairwise fun first second => first.turn < second.turn)
    (built : buildConversationMetadata conversationId rows = .ok result) :
    ∀ row ∈ rows, formatRow row = .ok (formatted row) := by
  unfold buildConversationMetadata at built
  rw [sortByTurn_eq ordered] at built
  cases folded : rows.foldlM (Building.addRow conversationId)
      { history := systemMessages (systemContent rows) } with
  | error error => simp [folded, bind, Except.bind] at built
  | ok last => exact formats_of_foldlM folded

theorem build_get?_of_ne {conversationId : String} {rows : List TurnRow} {result : Building × Nat}
    (ordered : rows.Pairwise fun first second => first.turn < second.turn)
    (built : buildConversationMetadata conversationId rows = .ok result) {key : String × Nat}
    (other : key.1 ≠ conversationId) : result.1.preBuiltMessagesByKey.get? key = none := by
  rw [buildConversationMetadata_eq ordered (formats_of_build ordered built)] at built
  obtain rfl := Except.ok.inj built
  apply addRows_get?_of_ne
  rintro row - rfl
  exact other rfl

theorem addConversation_eq {metadata next : ConversationMetadata} {group : String × List TurnRow}
    (added : metadata.addConversation group = .ok next) :
    ∃ result, buildConversationMetadata group.1 group.2 = .ok result ∧
      next.preBuiltMessagesByKey =
        update metadata.preBuiltMessagesByKey result.1.preBuiltMessagesByKey := by
  obtain ⟨result, built, done⟩ := of_bind_ok added
  obtain rfl := Except.ok.inj done
  exact ⟨result, built, rfl⟩

/-- The groups of rows in the order of turns. -/
def Ordered (groups : List (String × List TurnRow)) : Prop :=
  ∀ group ∈ groups, group.2.Pairwise fun first second => first.turn < second.turn

theorem addConversations_of_ne {groups : List (String × List TurnRow)} (ordered : Ordered groups)
    {metadata last : ConversationMetadata} {key : String × Nat}
    (built : groups.foldlM ConversationMetadata.addConversation metadata = .ok last)
    (absent : key.1 ∉ groups.map Prod.fst) :
    last.preBuiltMessagesByKey.get? key = metadata.preBuiltMessagesByKey.get? key := by
  induction groups generalizing metadata with
  | nil =>
      obtain rfl := Except.ok.inj built
      rfl
  | cons group groups ih =>
      rw [List.foldlM_cons] at built
      obtain ⟨next, added, rest⟩ := of_bind_ok built
      obtain ⟨result, resultBuilt, equal⟩ := addConversation_eq added
      simp only [List.map_cons, List.mem_cons, not_or] at absent
      rw [ih (fun other member => ordered other (List.mem_cons_of_mem _ member)) rest absent.2,
        equal, get?_update,
        build_get?_of_ne (ordered group List.mem_cons_self) resultBuilt absent.1,
        Option.none_or]

/-- Every conversation is built on its own. -/
theorem addConversations_get? {groups : List (String × List TurnRow)} (ordered : Ordered groups)
    (distinct : (groups.map Prod.fst).Nodup) {metadata last : ConversationMetadata}
    (built : groups.foldlM ConversationMetadata.addConversation metadata = .ok last)
    {group : String × List TurnRow} (member : group ∈ groups) :
    ∃ result, buildConversationMetadata group.1 group.2 = .ok result ∧ ∀ turn,
      last.preBuiltMessagesByKey.get? (group.1, turn) =
        (result.1.preBuiltMessagesByKey.get? (group.1, turn)).or
          (metadata.preBuiltMessagesByKey.get? (group.1, turn)) := by
  induction groups generalizing metadata with
  | nil => simp at member
  | cons head groups ih =>
      rw [List.foldlM_cons] at built
      have orderedRest : Ordered groups :=
        fun other member => ordered other (List.mem_cons_of_mem _ member)
      simp only [List.map_cons, List.nodup_cons] at distinct
      obtain ⟨next, added, rest⟩ := of_bind_ok built
      obtain ⟨result, resultBuilt, equal⟩ := addConversation_eq added
      rcases List.mem_cons.mp member with rfl | member
      · refine ⟨result, resultBuilt, fun turn => ?_⟩
        rw [addConversations_of_ne orderedRest rest distinct.1, equal, get?_update]
      · obtain ⟨other, otherBuilt, found⟩ := ih orderedRest distinct.2 rest member
        refine ⟨other, otherBuilt, fun turn => ?_⟩
        have different : group.1 ≠ head.1 := by
          intro same
          exact distinct.1 (same ▸ List.mem_map_of_mem member)
        rw [found turn, equal, get?_update,
          build_get?_of_ne (ordered head List.mem_cons_self) resultBuilt different,
          Option.none_or]

theorem exists_addConversations {groups : List (String × List TurnRow)} (ordered : Ordered groups)
    (formats : ∀ group ∈ groups, ∀ row ∈ group.2, formatRow row = .ok (formatted row))
    (metadata : ConversationMetadata) :
    ∃ last, groups.foldlM ConversationMetadata.addConversation metadata = .ok last := by
  induction groups generalizing metadata with
  | nil => exact ⟨metadata, rfl⟩
  | cons group groups ih =>
      have added : ∃ next, metadata.addConversation group = .ok next := by
        unfold ConversationMetadata.addConversation
        rw [buildConversationMetadata_eq (ordered group List.mem_cons_self)
          (formats group List.mem_cons_self)]
        exact ⟨_, rfl⟩
      obtain ⟨next, added⟩ := added
      rw [List.foldlM_cons, added]
      exact ih (fun other member => ordered other (List.mem_cons_of_mem _ member))
        (fun other member => formats other (List.mem_cons_of_mem _ member)) next

/-! ## What the checks accept -/

theorem forM_ok {Item : Type*} {items : List Item} {check : Item → Except DatasetError Unit}
    (each : ∀ item ∈ items, check item = .ok ()) : items.forM check = .ok () := by
  induction items with
  | nil => rfl
  | cons item items ih =>
      rw [List.forM, each item List.mem_cons_self]
      exact ih fun other member => each other (List.mem_cons_of_mem _ member)

/-- A tool call that names a function and has arguments. -/
def IsToolCall (call : Json) : Prop :=
  ∃ members function, call = .object members ∧
    nonEmptyString (Json.lookup members "id") = true ∧
    Json.lookup members "type" = some (.string "function") ∧
    Json.lookup members "function" = some (.object function) ∧
    nonEmptyString (Json.lookup function "name") = true ∧
    ((∃ text, Json.lookup function "arguments" = some (.string text)) ∨
      ∃ arguments, Json.lookup function "arguments" = some (.object arguments))

theorem checkToolCall_ok {call : Json} (isToolCall : IsToolCall call) (place : String) :
    checkToolCall place call = .ok () := by
  obtain ⟨members, function, rfl, id, type, isFunction, name, arguments⟩ := isToolCall
  rcases arguments with ⟨text, arguments⟩ | ⟨arguments', arguments⟩
  · simp [checkToolCall, id, type, isFunction, name, arguments]
  · simp [checkToolCall, id, type, isFunction, name, arguments]

theorem checkRow_user {conversationId : String} {state : Progress} {row : TurnRow}
    (role : row.role = .user) (content : isEmptyContent row.content = false)
    (next : .user ∈ validNext state.1) (answered : state ≠ (some .assistant, true)) :
    checkRow conversationId state row = .ok (some .user, false) := by
  have quiet : (decide (state.1 = some .assistant) && state.2) = false := by
    obtain ⟨last, called⟩ := state
    cases called with
    | false => simp
    | true =>
        simp only [ne_eq, Prod.mk.injEq, and_true] at answered
        simp [answered]
  simp only [checkRow, role, next, not_true_eq_false, if_false, checkUserRow, content,
    Bool.false_eq_true, quiet]
  rfl

theorem checkRow_assistant {conversationId : String} {state : Progress} {row : TurnRow}
    (role : row.role = .assistant) (next : .assistant ∈ validNext state.1)
    (calls : ∀ calls, row.toolCalls = some calls → calls ≠ [] ∧ ∀ call ∈ calls, IsToolCall call)
    (speaks : isEmptyContent row.content = false ∨ row.toolCalls.isSome = true) :
    checkRow conversationId state row = .ok (some .assistant, row.hasToolCalls) := by
  have same : row.hasToolCalls = row.toolCalls.isSome := by
    cases found : row.toolCalls with
    | none => simp [TurnRow.hasToolCalls, found]
    | some list => simp [TurnRow.hasToolCalls, found, (calls list found).1]
  have checked : ∀ place, (row.toolCalls.getD []).zipIdx.forM (fun call =>
      checkToolCall (place ++ " tool_calls[" ++ toString call.2 ++ "]") call.1) = .ok () := by
    intro place
    apply forM_ok
    intro call member
    apply checkToolCall_ok
    cases found : row.toolCalls with
    | none => simp [found] at member
    | some list =>
        rw [found] at member
        exact (calls list found).2 call.1 (List.fst_mem_of_mem_zipIdx member)
  have quiet : (isEmptyContent row.content && !row.toolCalls.isSome) = false := by
    rcases speaks with speaks | speaks <;> simp [speaks]
  simp only [checkRow, role, next, not_true_eq_false, if_false, checkAssistantRow, checked, same,
    quiet, Bool.false_eq_true, Bool.and_not_self, decide_true, Bool.true_and]
  rfl

theorem checkRow_tool {conversationId : String} {row : TurnRow} {results : List ToolResult}
    (role : row.role = .tool) (found : row.toolResults = some results) (nonempty : results ≠ [])
    (complete : ∀ result ∈ results, (∃ id, result.toolCallId = some id ∧ id ≠ "") ∧
      result.content.isSome = true) :
    checkRow conversationId (some .assistant, true) row = .ok (some .tool, false) := by
  have checked : checkToolRow (row.place conversationId) (some .assistant, true) row = .ok () := by
    cases results with
    | nil => exact absurd rfl nonempty
    | cons result results =>
        have each : (result :: results).zipIdx.forM (checkToolResult (row.place conversationId)) =
            .ok () := by
          apply forM_ok
          rintro ⟨entry, index⟩ member
          obtain ⟨⟨id, sameId, nonemptyId⟩, content⟩ :=
            complete entry (List.fst_mem_of_mem_zipIdx member)
          cases contents : entry.content with
          | none => simp [contents] at content
          | some some => simp [checkToolResult, sameId, nonemptyId, contents]
        simp only [checkToolRow, found, each]
        simp
  have next : Role.tool ∈ validNext (some .assistant) := by decide
  simp only [checkRow, role, next, not_true_eq_false, if_false, checked]
  rfl

end AgenticInference

end InferenceEndpoint
