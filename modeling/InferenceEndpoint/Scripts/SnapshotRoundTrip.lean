import InferenceEndpoint.Scripts.SnapshotTurns

/-!
# From snapshots to prebuilt messages

The dataset reads the converted rows.  Where no field is lost, it accepts them and prebuilds
for every client turn the source messages up to that turn.
-/

namespace InferenceEndpoint

open AgenticInference AdjacentMerge

namespace ConvertAgenticSnapshot

/-! ## Snapshots -/

def systems (messages : List Message) : List Message :=
  messages.filter fun msg => msg.role = .system

structure SystemPrompt (msg : Message) : Prop where
  role : msg.role = .system
  content : isEmptyContent msg.content = false
  noCalls : msg.toolCalls = none
  noCallId : msg.toolCallId = none
  noResults : msg.toolResults = none

/-- What may come after a message, with runs of user messages and of tool messages. -/
def Follows (prev msg : Message) : Prop :=
  match prev.role with
  | .system => False
  | .user => msg.role = .user ∨ msg.role = .assistant
  | .assistant => if prev.toolCalls.isSome then msg.role = .tool else msg.role = .user
  | .tool => msg.role = .tool ∨ msg.role = .assistant ∨ msg.role = .user

/-- A snapshot with an optional system message first and other messages in an order and with
fields that the dataset takes. -/
structure WellFormed (record : SnapshotRecord) : Prop where
  nonemptyId : record.conversationId ≠ "" ∧ record.conversationId ≠ "nan"
  printableId : ∀ char ∈ record.conversationId.toList, 32 ≤ char.toNat ∧ char.toNat ≤ 126
  leading : ∃ prompt : Option Message,
    record.messages = prompt.toList ++ nonSystem record.messages ∧
      ∀ msg ∈ prompt, SystemPrompt msg
  starts : ∃ first rest, nonSystem record.messages = first :: rest ∧ first.role = .user
  order : (nonSystem record.messages).IsChain Follows
  filled : ∀ msg ∈ nonSystem record.messages, Filled msg

/-- A turn of the user or of the tools. -/
def ClientTurn (run : List Message) : Prop :=
  ∃ msg ∈ run, isClient msg.role = true

/-- The source messages up to a turn, with several user messages in a row as one. -/
def expected (record : SnapshotRecord) (position : Nat) : List Message :=
  systems record.messages ++ ((turns record.messages).take (position + 1)).flatMap replayed

/-- The dataset takes the converted rows and prebuilds what is expected. -/
def Replays (listText : List Json → String) (records : List SnapshotRecord)
    (record : SnapshotRecord) : Prop :=
  ∃ metadata, load (convert listText records) = .ok metadata ∧
    ∀ position run, (turns record.messages)[position]? = some run → ClientTurn run →
      metadata.preBuiltMessagesByKey.get? (record.conversationId, position + 1) =
        some (expected record position)

def PromptKept (record : SnapshotRecord) : Prop :=
  ∀ msg ∈ systems record.messages, Plain msg ∧ ∃ text, msg.content = some (.text text)

/-- Nothing is lost of the system prompt and of the turns up to a client turn. -/
def Lossless (record : SnapshotRecord) : Prop :=
  PromptKept record ∧
    ∀ position run, (turns record.messages)[position]? = some run → ClientTurn run →
      ∀ earlier ∈ (turns record.messages).take (position + 1), Kept earlier

/-! ## Turns of a well-formed snapshot -/

section

variable {listText : List Json → String} {record : SnapshotRecord}

theorem WellFormed.turn (wellFormed : WellFormed record) :
    ∀ run ∈ turns record.messages, Turn run := by
  intro run member
  refine ⟨List.ne_nil_of_mem_splitBy member, List.isChain_of_mem_splitBy member, ?_⟩
  intro msg inRun
  apply wellFormed.filled
  rw [← List.flatten_splitBy sameTurn (nonSystem record.messages)]
  exact List.mem_flatten.mpr ⟨run, member, inRun⟩

/-- A turn may come after the last message of the turn before. -/
def Next (earlier later : List Message) : Prop :=
  ∀ last ∈ earlier.getLast?, ∀ first ∈ later.head?, Follows last first ∧ sameTurn last first = false

theorem WellFormed.next (wellFormed : WellFormed record) :
    (turns record.messages).IsChain Next := by
  have apart := List.isChain_getLast_head_splitBy sameTurn (nonSystem record.messages)
  have order := wellFormed.order
  rw [← List.flatten_splitBy sameTurn (nonSystem record.messages),
    List.isChain_flatten (List.nil_notMem_splitBy _ _)] at order
  rw [turns, List.isChain_iff_getElem]
  intro position within last isLast first isFirst
  refine ⟨order.2.getElem position within last isLast first isFirst, ?_⟩
  obtain ⟨nonempty, nonempty', different⟩ := apart.getElem position within
  rw [List.getLast?_eq_some_getLast nonempty] at isLast
  rw [List.head?_eq_some_head nonempty'] at isFirst
  obtain rfl := Option.some.inj isLast
  obtain rfl := Option.some.inj isFirst
  exact different

theorem WellFormed.firstTurn (wellFormed : WellFormed record) :
    ∃ first rest runs, turns record.messages = (first :: rest) :: runs ∧ first.role = .user := by
  obtain ⟨first, others, split, role⟩ := wellFormed.starts
  have flat : (turns record.messages).flatten = first :: others := by
    rw [← split]
    exact List.flatten_splitBy _ _
  have nonempty : [] ∉ turns record.messages := List.nil_notMem_splitBy _ _
  cases found : turns record.messages with
  | nil => simp [found] at flat
  | cons run runs =>
      rw [found] at flat nonempty
      cases run with
      | nil => simp at nonempty
      | cons head rest =>
          obtain ⟨rfl, -⟩ : head = first ∧ _ := by simpa using flat
          exact ⟨head, rest, runs, rfl, role⟩

/-! ## Converted rows -/

theorem convertMessages_turn (conversationId : String) (tools : List Json)
    (system : Option Content) (seen : Bool) (position : Nat) (messages : List Message) :
    (convertMessages conversationId tools system seen position messages).map TurnRow.turn =
      List.range' (position + 1) messages.length := by
  induction messages generalizing seen position with
  | nil => rfl
  | cons msg rest ih =>
      rw [convertMessages, List.map_cons, ih, List.length_cons, List.range'_succ]
      rfl

theorem convertMessages_id (conversationId : String) (tools : List Json)
    (system : Option Content) (seen : Bool) (position : Nat) (messages : List Message) :
    ∀ row ∈ convertMessages conversationId tools system seen position messages,
      row.conversationId = conversationId := by
  induction messages generalizing seen position with
  | nil => simp [convertMessages]
  | cons msg rest ih =>
      intro row member
      rcases List.mem_cons.mp member with rfl | member
      · rfl
      · exact ih _ _ row member

theorem convertMessages_rowOf (conversationId : String) (tools : List Json)
    (system : Option Content) (seen : Bool) (position : Nat) {runs : List (List Message)}
    (nonempty : ∀ run ∈ runs, run ≠ []) :
    List.Forall₂ (RowOf listText)
      (convertMessages conversationId tools system seen position
        (runs.flatMap (mergeRun (mergeTurn listText)))) runs := by
  induction runs generalizing seen position with
  | nil => exact .nil
  | cons run runs ih =>
      cases run with
      | nil => exact absurd rfl (nonempty [] List.mem_cons_self)
      | cons first rest =>
          have merged : mergeRun (mergeTurn listText) (first :: rest) =
              [rest.foldl (mergeTurn listText) first] := rfl
          rw [List.flatMap_cons, merged, List.singleton_append, convertMessages]
          refine .cons ⟨_, _, _, _, _, merged, rfl⟩ ?_
          exact ih _ _ fun other member => nonempty other (List.mem_cons_of_mem _ member)

theorem convertRecord_rowOf (listText : List Json → String) (conversationId : String)
    (record : SnapshotRecord) :
    List.Forall₂ (RowOf listText) (convertRecord listText conversationId record)
      (turns record.messages) := by
  unfold convertRecord
  rw [applyCollapses_eq]
  exact convertMessages_rowOf _ _ _ _ _ fun run member => List.ne_nil_of_mem_splitBy member

theorem convertRecord_turn (listText : List Json → String) (conversationId : String)
    (record : SnapshotRecord) :
    (convertRecord listText conversationId record).map TurnRow.turn =
      List.range' 1 (convertRecord listText conversationId record).length := by
  have turns := convertMessages_turn conversationId record.tools (systemContent record.messages)
    false 0 (applyCollapses listText (nonSystem record.messages))
  have length := congrArg List.length turns
  rw [List.length_map, List.length_range'] at length
  unfold convertRecord
  rw [turns, length]

theorem convertRecord_ordered (listText : List Json → String) (conversationId : String)
    (record : SnapshotRecord) :
    (convertRecord listText conversationId record).Pairwise
      fun first second => first.turn < second.turn := by
  rw [← List.pairwise_map (f := TurnRow.turn) (R := fun first second : Nat => first < second),
    convertRecord_turn]
  exact List.pairwise_lt_range'

theorem convertRecord_get? {conversationId : String} {position : Nat} {row : TurnRow}
    (found : (convertRecord listText conversationId record)[position]? = some row) :
    row.turn = position + 1 := by
  have turn := congrArg (·[position]?) (convertRecord_turn listText conversationId record)
  simp only [List.getElem?_map, found, Option.map_some] at turn
  obtain ⟨within, -⟩ := List.getElem?_eq_some_iff.mp found
  rw [List.getElem?_range' within] at turn
  have equal := Option.some.inj turn
  omega

/-! ## The system prompt -/

theorem convertMessages_system (conversationId : String) (tools : List Json)
    (system : Option Content) (position : Nat) (messages : List Message) :
    ∀ row ∈ convertMessages conversationId tools system true position messages,
      row.system = none := by
  induction messages generalizing position with
  | nil => simp [convertMessages]
  | cons msg rest ih =>
      intro row member
      rcases List.mem_cons.mp member with rfl | member
      · simp [convertMessage]
      · rw [Bool.true_or] at member
        exact ih _ row member

def promptText : Option Content → Option String
  | some (.text text) => if text ≠ "" then some text else none
  | _ => none

/-- Only the first row has the system prompt. -/
theorem WellFormed.rowsSystem (wellFormed : WellFormed record) (conversationId : String) :
    AgenticInference.systemContent (convertRecord listText conversationId record) =
      promptText (systemContent record.messages) := by
  obtain ⟨first, rest, runs, split, role⟩ := wellFormed.firstTurn
  have turn := wellFormed.turn (first :: rest) (by simp [split])
  obtain ⟨content, merged, -⟩ := @foldl_users listText first rest role
    (fun msg member => (turn.role msg member).trans role)
  have collapsed : applyCollapses listText (nonSystem record.messages) =
      { first with content := content } :: runs.flatMap (mergeRun (mergeTurn listText)) := by
    rw [applyCollapses_eq, ← turns, split, List.flatMap_cons, mergeRun, merged]
    rfl
  have rows : convertRecord listText conversationId record =
      convertMessage conversationId record.tools 1 (systemContent record.messages)
          { first with content := content } ::
        convertMessages conversationId record.tools (systemContent record.messages) true 1
          (runs.flatMap (mergeRun (mergeTurn listText))) := by
    unfold convertRecord
    rw [collapsed, convertMessages]
    simp [role]
  have later := convertMessages_system conversationId record.tools (systemContent record.messages)
    1 (runs.flatMap (mergeRun (mergeTurn listText)))
  rw [rows]
  generalize convertMessages conversationId record.tools (systemContent record.messages) true 1
    (runs.flatMap (mergeRun (mergeTurn listText))) = others at later
  have rest : AgenticInference.systemContent others = none := by
    rw [AgenticInference.systemContent, List.findSome?_eq_none_iff]
    intro row member
    rw [later row member]
  rw [AgenticInference.systemContent] at rest ⊢
  rw [List.findSome?_cons, rest]
  generalize systemContent record.messages = system
  unfold promptText
  cases system with
  | none => rfl
  | some prompt =>
      cases prompt with
      | parts parts => rfl
      | text text => by_cases empty : text = "" <;> simp [convertMessage, empty]

theorem systemContent_eq {prompt : Option Message} {rest : List Message}
    (system : ∀ msg ∈ prompt, msg.role = .system) (others : ∀ msg ∈ rest, msg.role ≠ .system) :
    systemContent (prompt.toList ++ rest) = prompt.bind Message.content := by
  have quiet : ∀ content : Option Content, rest.foldl (fun content msg =>
      if msg.role = .system then msg.content else content) content = content := by
    intro content
    induction rest with
    | nil => rfl
    | cons msg rest ih =>
        rw [List.foldl_cons, if_neg (others msg List.mem_cons_self)]
        exact ih fun other member => others other (List.mem_cons_of_mem _ member)
  cases prompt with
  | none => exact quiet none
  | some msg =>
      rw [systemContent, List.foldl_append, quiet]
      simp [system msg rfl]

/-- The system prompt is replayed exactly if it is a plain text. -/
theorem WellFormed.prompt_iff (wellFormed : WellFormed record) (conversationId : String) :
    systemMessages (AgenticInference.systemContent
        (convertRecord listText conversationId record)) = systems record.messages ↔
      PromptKept record := by
  rw [wellFormed.rowsSystem]
  obtain ⟨prompt, messages, system⟩ := wellFormed.leading
  have others : ∀ msg ∈ nonSystem record.messages, msg.role ≠ .system :=
    fun msg member => (wellFormed.filled msg member).notSystem
  have found : systems record.messages = prompt.toList := by
    have none : (nonSystem record.messages).filter (fun msg => msg.role = .system) = [] := by
      rw [List.filter_eq_nil_iff]
      intro msg member
      simp [others msg member]
    rw [systems, messages, List.filter_append, none, List.append_nil, List.filter_eq_self]
    intro msg member
    simpa using (system msg (by simpa using member)).role
  have content : systemContent record.messages = prompt.bind Message.content := by
    conv_lhs => rw [messages]
    exact systemContent_eq (fun msg member => (system msg member).role) others
  rw [PromptKept, content, found]
  cases prompt with
  | none => simp [promptText, systemMessages]
  | some msg =>
      obtain ⟨role, nonempty, noCalls, noCallId, noResults⟩ := system msg rfl
      obtain ⟨msgRole, msgContent, name, reasoning, calls, id, results⟩ := msg
      simp only at role nonempty noCalls noCallId noResults
      subst role noCalls noCallId noResults
      cases msgContent with
      | none => simp [isEmptyContent] at nonempty
      | some prompt =>
          cases prompt with
          | parts parts => simp [promptText, systemMessages]
          | text text =>
              have nonemptyText : text ≠ "" := by simpa [isEmptyContent] using nonempty
              simp [promptText, systemMessages, nonemptyText, Plain, eq_comm]

/-! ## One conversation -/

theorem flatMap_formatted {rows : List TurnRow} {runs : List (List Message)}
    (pairs : List.Forall₂ (RowOf listText) rows runs) (turn : ∀ run ∈ runs, Turn run)
    (formats : ∀ row ∈ rows, formatRow row = .ok (formatted row)) :
    (rows.flatMap formatted).length = (runs.flatMap replayed).length ∧
      (rows.flatMap formatted = runs.flatMap replayed ↔ ∀ run ∈ runs, Kept run) := by
  induction pairs with
  | nil => simp
  | @cons row run rows runs rowOf pairs ih =>
      obtain ⟨length, same⟩ := rowOf.formatted_iff (turn run List.mem_cons_self)
        (formats row List.mem_cons_self)
      obtain ⟨lengths, others⟩ := ih
        (fun other member => turn other (List.mem_cons_of_mem _ member))
        (fun other member => formats other (List.mem_cons_of_mem _ member))
      rw [List.flatMap_cons, List.flatMap_cons, List.length_append, List.length_append, length,
        lengths]
      refine ⟨rfl, ?_⟩
      rw [List.forall_mem_cons, ← same, ← others]
      constructor
      · intro equal
        exact List.append_inj equal length
      · rintro ⟨head, tail⟩
        rw [head, tail]

theorem exists_row {rows : List TurnRow} {runs : List (List Message)}
    (pairs : List.Forall₂ (RowOf listText) rows runs) {position : Nat} {run : List Message}
    (found : runs[position]? = some run) :
    ∃ row, rows[position]? = some row ∧ RowOf listText row run := by
  obtain ⟨within, rfl⟩ := List.getElem?_eq_some_iff.mp found
  have withinRows : position < rows.length := by rwa [pairs.length_eq]
  exact ⟨rows[position], List.getElem?_eq_getElem withinRows, pairs.get withinRows within⟩

theorem RowOf.client {row : TurnRow} {run : List Message} (rowOf : RowOf listText row run)
    (turn : Turn run) (client : ClientTurn run) : isClient row.role = true := by
  cases run with
  | nil => exact absurd rfl turn.nonempty
  | cons first rest =>
      obtain ⟨msg, member, isClientMsg⟩ := client
      rw [rowOf.role turn]
      rcases List.mem_cons.mp member with rfl | member
      · exact isClientMsg
      · rwa [← turn.role msg member]

/-- What is prebuilt for a client turn is what is expected exactly if nothing is lost up to
the turn. -/
theorem WellFormed.preBuilt_iff (wellFormed : WellFormed record) {result : Building × Nat}
    {conversationId : String}
    (built : buildConversationMetadata conversationId
      (convertRecord listText conversationId record) = .ok result)
    {position : Nat} {run : List Message} (found : (turns record.messages)[position]? = some run)
    (client : ClientTurn run) :
    result.1.preBuiltMessagesByKey.get? (conversationId, position + 1) =
        some (expected record position) ↔
      PromptKept record ∧
        ∀ earlier ∈ (turns record.messages).take (position + 1), Kept earlier := by
  have ordered := convertRecord_ordered listText conversationId record
  have formats := formats_of_build ordered built
  rw [buildConversationMetadata_eq ordered formats] at built
  obtain rfl := Except.ok.inj built
  have pairs := convertRecord_rowOf listText conversationId record
  obtain ⟨row, rowFound, rowOf⟩ := exists_row pairs found
  have rowTurn := convertRecord_get? rowFound
  have rowClient := rowOf.client (wellFormed.turn run (List.mem_of_getElem? found)) client
  rw [← rowTurn, addRows_getElem? ordered rowFound rowClient, rowTurn]
  have upTo := List.forall₂_take (position + 1) pairs
  obtain ⟨lengths, same⟩ := flatMap_formatted upTo
    (fun other member => wellFormed.turn other (List.mem_of_mem_take member))
    (fun other member => formats other (List.mem_of_mem_take member))
  rw [Option.some.injEq, expected, ← same, ← @WellFormed.prompt_iff listText record
    wellFormed conversationId]
  constructor
  · intro equal
    exact List.append_inj' equal lengths
  · rintro ⟨prompt, turns⟩
    rw [prompt, turns]

/-! ## The checks accept the rows -/

/-- Where the check of the structure is after a message. -/
def progressAfter : Option Message → Progress
  | none => (none, false)
  | some msg => (some msg.role, msg.role = .assistant && msg.toolCalls.isSome)

/-- A message may start the first turn or the turn after a message. -/
def Enters (prev : Option Message) (first : Message) : Prop :=
  match prev with
  | none => first.role = .user
  | some last => Follows last first ∧ sameTurn last first = false

/-- The state of the check in which a turn starts. -/
theorem Enters.progress {prev : Option Message} {first : Message} (enters : Enters prev first) :
    match first.role with
    | .system => False
    | .user => progressAfter prev ∈ [(none, false), (some .assistant, false), (some .tool, false)]
    | .assistant => progressAfter prev ∈ [(some .user, false), (some .tool, false)]
    | .tool => progressAfter prev = (some .assistant, true) := by
  cases prev with
  | none =>
      have user : first.role = .user := enters
      simp [user, progressAfter]
  | some last =>
      obtain ⟨follows, apart⟩ := enters
      cases before : last.role with
      | system => simp [Follows, before] at follows
      | user =>
          rcases (by simpa [Follows, before] using follows : _ ∨ _) with role | role
          · simp [sameTurn, bothUsers, before, role] at apart
          · simp [role, progressAfter, before]
      | assistant =>
          cases called : last.toolCalls.isSome with
          | true =>
              have role : first.role = .tool := by simpa [Follows, before, called] using follows
              simp [role, progressAfter, before, called]
          | false =>
              have role : first.role = .user := by simpa [Follows, before, called] using follows
              simp [role, progressAfter, before, called]
      | tool =>
          rcases (by simpa [Follows, before] using follows : _ ∨ _ ∨ _) with role | role | role
          · simp [sameTurn, bothTools, before, role] at apart
          · simp [role, progressAfter, before]
          · simp [role, progressAfter, before]

theorem stripTexts_ne {run : List Message} {first : Message} {rest : List Message}
    (split : run = first :: rest) (role : first.role = .user) (several : rest ≠ [])
    (turn : Turn run) (kept : Kept run) :
    stripTexts (contentText listText first.content)
      (rest.map fun msg => contentText listText msg.content) ≠ "" := by
  subst split
  have contents : ∀ msg ∈ first :: rest, isEmptyContent msg.content = false := by
    intro msg member
    apply (turn.filled msg member).userContent
    rcases List.mem_cons.mp member with rfl | member
    · exact role
    · exact (turn.role msg member).trans role
  rw [Kept, if_pos role] at kept
  have texts := kept.2.resolve_left several
  have joined := (@joined_iff listText first rest several contents).mpr texts
  have all : ∀ msg ∈ first :: rest, ∃ text, msg.content = some (.text text) := by
    intro msg member
    rcases List.mem_cons.mp member with rfl | member
    · obtain ⟨text, content, -⟩ := texts.1
      exact ⟨text, content⟩
    · obtain ⟨text, content, -⟩ := texts.2 msg member
      exact ⟨text, content⟩
  rw [@joinContents_texts listText first rest all, Content.text.injEq] at joined
  rw [joined]
  apply (joinTexts_starts _ _).2
  obtain ⟨text, content, -⟩ := texts.1
  simpa [content, isEmptyContent, contentText] using contents first List.mem_cons_self

/-- The check of one row. -/
theorem RowOf.check {row : TurnRow} {run : List Message} (rowOf : RowOf listText row run)
    (turn : Turn run) (kept : ClientTurn run → Kept run) {prev : Option Message}
    (enters : ∀ first ∈ run.head?, Enters prev first) (conversationId : String) :
    checkRow conversationId (progressAfter prev) row = .ok (progressAfter run.getLast?) := by
  cases run with
  | nil => exact absurd rfl turn.nonempty
  | cons first rest =>
      have entered := enters first rfl
      have filled := turn.filled first List.mem_cons_self
      have rowRole := rowOf.role turn
      obtain ⟨last, isLast, lastRole⟩ : ∃ last, (first :: rest).getLast? = some last ∧
          last.role = first.role := by
        cases rest using List.reverseRecOn with
        | nil => exact ⟨first, rfl, rfl⟩
        | append_singleton rest last =>
            refine ⟨last, ?_, turn.role last (by simp)⟩
            rw [← List.cons_append, List.getLast?_concat]
      cases role : first.role with
      | system => exact absurd role filled.notSystem
      | user =>
          have speech := rowOf.speech turn (by rw [role]; decide)
          have content : isEmptyContent row.content = false := by
            by_cases alone : rest = []
            · rw [speech.2.2.2.2.1 alone]
              exact filled.userContent role
            · rw [speech.2.2.2.2.2 alone]
              have nonempty := @stripTexts_ne listText _ first rest rfl role alone turn
                (kept ⟨first, List.mem_cons_self, by simp [isClient, role]⟩)
              simpa [isEmptyContent] using nonempty
          have after : progressAfter (first :: rest).getLast? = (some .user, false) := by
            simp [progressAfter, isLast, lastRole, role]
          rw [after]
          have before := entered.progress
          simp only [role, List.mem_cons, List.not_mem_nil, or_false] at before
          rcases before with before | before | before
          · rw [before]
            exact checkRow_user (rowRole.trans role) content (by decide) (by decide)
          · rw [before]
            exact checkRow_user (rowRole.trans role) content (by decide) (by decide)
          · rw [before]
            exact checkRow_user (rowRole.trans role) content (by decide) (by decide)
      | assistant =>
          obtain rfl := turn.alone role
          have speech := rowOf.speech turn (by rw [role]; decide)
          have calls := speech.2.2.2.1
          have called : row.hasToolCalls = first.toolCalls.isSome := by
            rw [TurnRow.hasToolCalls, calls]
            cases found : first.toolCalls with
            | none => rfl
            | some list => simp [(filled.assistantCalls list found).1]
          have after : progressAfter [first].getLast? = (some .assistant, row.hasToolCalls) := by
            simp [progressAfter, role, called]
          have next : .assistant ∈ validNext (progressAfter prev).1 := by
            have before := entered.progress
            simp only [role, List.mem_cons, List.not_mem_nil, or_false] at before
            rcases before with before | before <;> rw [before] <;> decide
          rw [after]
          apply checkRow_assistant (rowRole.trans role) next
          · rw [calls]
            exact filled.assistantCalls
          · rw [calls, speech.2.2.2.2.1 rfl]
            exact filled.assistantContent role
      | tool =>
          have before : progressAfter prev = (some .assistant, true) := by
            simpa [role] using entered.progress
          have after : progressAfter (first :: rest).getLast? = (some .tool, false) := by
            simp [progressAfter, isLast, lastRole, role]
          rw [before, after]
          apply checkRow_tool (rowRole.trans role) (rowOf.toolResults turn role) (by simp)
          intro result member
          obtain ⟨msg, inRun, rfl⟩ := List.mem_map.mp member
          have msgRole : msg.role = .tool := by
            rcases List.mem_cons.mp inRun with rfl | inRun
            · exact role
            · exact (turn.role msg inRun).trans role
          exact ⟨(turn.filled msg inRun).toolId msgRole, rfl⟩

theorem foldlM_checkRow {rows : List TurnRow} {runs : List (List Message)}
    (pairs : List.Forall₂ (RowOf listText) rows runs) (turn : ∀ run ∈ runs, Turn run)
    (kept : ∀ run ∈ runs, ClientTurn run → Kept run) (chain : runs.IsChain Next)
    {prev : Option Message}
    (enters : ∀ run ∈ runs.head?, ∀ first ∈ run.head?, Enters prev first)
    (conversationId : String) :
    ∃ progress, rows.foldlM (checkRow conversationId) (progressAfter prev) = .ok progress := by
  induction pairs generalizing prev with
  | nil => exact ⟨_, rfl⟩
  | @cons row run rows runs rowOf pairs ih =>
      have checked := rowOf.check (turn run List.mem_cons_self) (kept run List.mem_cons_self)
        (enters run rfl) conversationId
      rw [List.foldlM_cons, checked]
      rw [List.isChain_cons] at chain
      refine ih (fun other member => turn other (List.mem_cons_of_mem _ member))
        (fun other member => kept other (List.mem_cons_of_mem _ member)) chain.2 ?_
      intro next isNext first isFirst
      cases isLast : run.getLast? with
      | none =>
          have empty := List.getLast?_eq_none_iff.mp isLast
          exact absurd empty (turn run List.mem_cons_self).nonempty
      | some last => exact chain.1 next isNext last isLast first isFirst

/-- The rows of a conversation pass the checks if no client turn loses anything. -/
theorem WellFormed.checks (wellFormed : WellFormed record)
    (kept : ∀ run ∈ turns record.messages, ClientTurn run → Kept run) (conversationId : String) :
    let group := (conversationId, convertRecord listText conversationId record)
    checkStructure group = .ok () ∧ checkNumbering group = .ok () ∧
      ∀ row ∈ group.2, formatRow row = .ok (formatted row) := by
  have ordered := convertRecord_ordered listText conversationId record
  have pairs := convertRecord_rowOf listText conversationId record
  refine ⟨?_, ?_, ?_⟩
  · have starts : ∀ run ∈ (turns record.messages).head?, ∀ first ∈ run.head?,
        Enters none first := by
      obtain ⟨first, rest, runs, split, role⟩ := wellFormed.firstTurn
      rw [split]
      rintro run isRun head isHead
      obtain rfl : first :: rest = run := by simpa using isRun
      obtain rfl : first = head := by simpa using isHead
      exact role
    obtain ⟨progress, checked⟩ := foldlM_checkRow pairs wellFormed.turn kept wellFormed.next starts
      conversationId
    rw [checkStructure, sortByTurn_eq ordered]
    have start : progressAfter none = (none, false) := rfl
    rw [← start, checked]
    rfl
  · have numbers := convertRecord_turn listText conversationId record
    have sorted : (List.range' 1 (convertRecord listText conversationId record).length).mergeSort
        (fun first second => first ≤ second) =
          List.range' 1 (convertRecord listText conversationId record).length := by
      apply List.mergeSort_of_pairwise
      refine List.Pairwise.imp (fun less => ?_) List.pairwise_lt_range'
      simpa using le_of_lt less
    rw [checkNumbering]
    simp only [numbers, sorted, List.length_range']
    rw [if_pos]
    rw [List.range'_eq_map_range]
    apply List.map_congr_left
    intro position _
    omega
  · intro row member
    obtain ⟨position, found⟩ := List.mem_iff_getElem?.mp member
    obtain ⟨within, -⟩ := List.getElem?_eq_some_iff.mp found
    rw [pairs.length_eq] at within
    obtain ⟨other, otherFound, rowOf⟩ := exists_row pairs (List.getElem?_eq_getElem within)
    obtain rfl : row = other := Option.some.inj (found.symm.trans otherFound)
    have inTurns : (turns record.messages)[position] ∈ turns record.messages :=
      List.getElem_mem within
    rw [rowOf.formats_iff (wellFormed.turn _ inTurns)]
    intro msg inRun tool
    have keptRun := kept _ inTurns ⟨msg, inRun, by simp [isClient, tool]⟩
    have turn := wellFormed.turn _ inTurns
    cases split : (turns record.messages)[position] with
    | nil => simp [split] at inRun
    | cons first rest =>
        rw [split] at keptRun inRun turn
        have notUser : first.role ≠ .user := by
          have same : msg.role = first.role := by
            rcases List.mem_cons.mp inRun with rfl | inRest
            · rfl
            · exact turn.role msg inRest
          rw [← same, tool]
          decide
        rw [Kept, if_neg notUser] at keptRun
        exact (keptRun msg inRun).2 tool

end

/-! ## The whole file -/

theorem finalSnapshots_id (records : List SnapshotRecord) :
    ∀ entry ∈ (finalSnapshots records).entries, entry.1 = entry.2.conversationId := by
  have kept : ∀ (final : OrderedDict String SnapshotRecord),
      (∀ id record, final.get? id = some record → id = record.conversationId) →
        ∀ id record, (records.foldl addSnapshot final).get? id = some record →
          id = record.conversationId := by
    induction records with
    | nil => exact fun final ids => ids
    | cons record records ih =>
        intro final ids
        rw [List.foldl_cons]
        apply ih
        intro id other found
        have inserted : (final.insert record.conversationId record).get? id = some other →
            id = other.conversationId := by
          rw [OrderedDict.get?_insert]
          by_cases same : id = record.conversationId
          · rw [if_pos same]
            intro equal
            rw [← Option.some.inj equal]
            exact same
          · rw [if_neg same]
            exact ids id other
        unfold addSnapshot at found
        split at found
        · exact inserted found
        · split at found
          · exact inserted found
          · exact ids id other found
  rintro ⟨id, record⟩ member
  exact kept ∅ (by simp) id record (OrderedDict.get?_eq_some_iff.mpr member)

/-- The entries of the final snapshots in the order in which they are written. -/
def sortedSnapshots (records : List SnapshotRecord) : List (String × SnapshotRecord) :=
  (finalSnapshots records).entries.mergeSort fun first second => first.1 ≤ second.1

theorem sortedSnapshots_perm (records : List SnapshotRecord) :
    (sortedSnapshots records).Perm (finalSnapshots records).entries :=
  List.mergeSort_perm _ _

theorem sortedSnapshots_nodup (records : List SnapshotRecord) :
    ((sortedSnapshots records).map Prod.fst).Nodup :=
  ((sortedSnapshots_perm records).map Prod.fst).nodup_iff.mpr (finalSnapshots records).nodupKeys

variable {listText : List Json → String}

/-- Each block of rows is the group of its conversation. -/
theorem valuesOf_blocks {entries : List (String × SnapshotRecord)}
    (distinct : (entries.map Prod.fst).Nodup) {entry : String × SnapshotRecord}
    (member : entry ∈ entries) :
    OrderedDict.valuesOf ((entries.flatMap fun entry => convertRecord listText entry.1 entry.2).map
      fun row => (row.conversationId, row)) entry.1 = convertRecord listText entry.1 entry.2 := by
  have block : ∀ (other : String × SnapshotRecord) (id : String),
      OrderedDict.valuesOf ((convertRecord listText other.1 other.2).map
        fun row => (row.conversationId, row)) id =
      if other.1 = id then convertRecord listText other.1 other.2 else [] := by
    intro other id
    have ids := convertMessages_id other.1 other.2.tools (systemContent other.2.messages) false 0
      (applyCollapses listText (nonSystem other.2.messages))
    rw [OrderedDict.valuesOf, List.filter_map, List.map_map]
    by_cases same : other.1 = id
    · rw [if_pos same, List.filter_eq_self.mpr]
      · exact List.map_id _
      · intro row inRows
        simpa [ids row inRows] using same
    · rw [if_neg same, List.filter_eq_nil_iff.mpr]
      · rfl
      · intro row inRows
        simpa [ids row inRows] using same
  have append : ∀ (first second : List TurnRow) (id : String),
      OrderedDict.valuesOf ((first ++ second).map fun row => (row.conversationId, row)) id =
        OrderedDict.valuesOf (first.map fun row => (row.conversationId, row)) id ++
          OrderedDict.valuesOf (second.map fun row => (row.conversationId, row)) id := by
    intro first second id
    simp [OrderedDict.valuesOf]
  have absent : ∀ (others : List (String × SnapshotRecord)) (id : String),
      id ∉ others.map Prod.fst →
        OrderedDict.valuesOf ((others.flatMap fun entry =>
          convertRecord listText entry.1 entry.2).map fun row => (row.conversationId, row)) id =
            [] := by
    intro others id
    induction others with
    | nil => exact fun _ => rfl
    | cons other others ih =>
        intro missing
        simp only [List.map_cons, List.mem_cons, not_or] at missing
        rw [List.flatMap_cons, append, block, if_neg (Ne.symm missing.1), ih missing.2]
        rfl
  induction entries with
  | nil => simp at member
  | cons other others ih =>
      simp only [List.map_cons, List.nodup_cons] at distinct
      rw [List.flatMap_cons, append, block]
      rcases List.mem_cons.mp member with rfl | member
      · rw [if_pos rfl, absent others entry.1 distinct.1, List.append_nil]
      · have different : other.1 ≠ entry.1 := by
          intro same
          exact distinct.1 (same ▸ List.mem_map_of_mem member)
        rw [if_neg different, ih distinct.2 member, List.nil_append]

theorem checkGrouping_again {id : String} {seen : List String} {rows : List TurnRow}
    (ids : ∀ row ∈ rows, row.conversationId = id) (valid : id ≠ "" ∧ id ≠ "nan")
    (printable : ∀ char ∈ id.toList, 32 ≤ char.toNat ∧ char.toNat ≤ 126) (start : Nat) :
    (rows.zipIdx start).foldlM checkGrouping (seen, some id) = .ok (seen, some id) := by
  induction rows generalizing start with
  | nil => rfl
  | cons row rows ih =>
      have quiet : (id.toList.any fun char =>
          decide (char.toNat < 32) || decide (126 < char.toNat)) = false := by
        rw [List.any_eq_false]
        intro char member
        have range := printable char member
        simp only [Bool.or_eq_true, decide_eq_true_eq]
        omega
      have step : checkGrouping (seen, some id) (row, start) = .ok (seen, some id) := by
        simp [checkGrouping, ids row List.mem_cons_self, valid, quiet]
      rw [List.zipIdx_cons, List.foldlM_cons, step]
      exact ih (fun other member => ids other (List.mem_cons_of_mem _ member)) (start + 1)

theorem checkGrouping_block {id : String} {seen : List String} {last : Option String}
    {rows : List TurnRow} (nonempty : rows ≠ []) (ids : ∀ row ∈ rows, row.conversationId = id)
    (valid : id ≠ "" ∧ id ≠ "nan")
    (printable : ∀ char ∈ id.toList, 32 ≤ char.toNat ∧ char.toNat ≤ 126) (new : id ∉ seen)
    (lastSeen : ∀ other ∈ last, other ∈ seen) (start : Nat) :
    (rows.zipIdx start).foldlM checkGrouping (seen, last) = .ok (id :: seen, some id) := by
  cases rows with
  | nil => exact absurd rfl nonempty
  | cons row rows =>
      have quiet : (id.toList.any fun char =>
          decide (char.toNat < 32) || decide (126 < char.toNat)) = false := by
        rw [List.any_eq_false]
        intro char member
        have range := printable char member
        simp only [Bool.or_eq_true, decide_eq_true_eq]
        omega
      have different : last ≠ some id := by
        rintro rfl
        exact new (lastSeen id rfl)
      have step : checkGrouping (seen, last) (row, start) = .ok (id :: seen, some id) := by
        simp [checkGrouping, ids row List.mem_cons_self, valid, quiet, different, new]
      rw [List.zipIdx_cons, List.foldlM_cons, step]
      have others : ∀ other ∈ rows, other.conversationId = id :=
        fun other member => ids other (List.mem_cons_of_mem _ member)
      exact checkGrouping_again others valid printable (start + 1)

theorem WellFormed.rows_ne_nil {record : SnapshotRecord} (wellFormed : WellFormed record)
    (conversationId : String) : convertRecord listText conversationId record ≠ [] := by
  intro empty
  have pairs := convertRecord_rowOf listText conversationId record
  obtain ⟨first, rest, runs, split, -⟩ := wellFormed.firstTurn
  rw [empty, split] at pairs
  cases pairs

theorem checkGrouping_blocks {entries : List (String × SnapshotRecord)}
    (distinct : (entries.map Prod.fst).Nodup)
    (wellFormed : ∀ entry ∈ entries, WellFormed entry.2 ∧ entry.1 = entry.2.conversationId)
    {seen : List String} {last : Option String} (new : ∀ entry ∈ entries, entry.1 ∉ seen)
    (lastSeen : ∀ other ∈ last, other ∈ seen) (start : Nat) :
    ∃ rows, ((entries.flatMap fun entry =>
      convertRecord listText entry.1 entry.2).zipIdx start).foldlM checkGrouping (seen, last) =
        .ok rows := by
  induction entries generalizing seen last start with
  | nil => exact ⟨_, rfl⟩
  | cons entry entries ih =>
      obtain ⟨entryFormed, id⟩ := wellFormed entry List.mem_cons_self
      simp only [List.map_cons, List.nodup_cons] at distinct
      have block := @checkGrouping_block entry.1 seen last (convertRecord listText entry.1 entry.2)
        (entryFormed.rows_ne_nil entry.1) (convertMessages_id _ _ _ _ _ _)
        (id ▸ entryFormed.nonemptyId) (id ▸ entryFormed.printableId) (new entry List.mem_cons_self)
        lastSeen start
      rw [List.flatMap_cons, List.zipIdx_append, List.foldlM_append, block]
      apply ih distinct.2 fun other member => wellFormed other (List.mem_cons_of_mem _ member)
      · intro other member
        simp only [List.mem_cons, not_or]
        refine ⟨?_, new other (List.mem_cons_of_mem _ member)⟩
        intro same
        exact distinct.1 (same ▸ List.mem_map_of_mem member)
      · intro other isLast
        obtain rfl : entry.1 = other := by simpa using isLast
        exact List.mem_cons_self

section

variable {records : List SnapshotRecord}
  (wellFormed : ∀ record ∈ (finalSnapshots records).values, WellFormed record)

include wellFormed

theorem sorted_wellFormed :
    ∀ entry ∈ sortedSnapshots records,
      WellFormed entry.2 ∧ entry.1 = entry.2.conversationId := by
  intro entry member
  have inFinal := (sortedSnapshots_perm records).mem_iff.mp member
  exact ⟨wellFormed entry.2 (List.mem_map_of_mem inFinal), finalSnapshots_id records entry inFinal⟩

/-- The groups of the frame are the converted conversations. -/
theorem mem_convGroups {group : String × List TurnRow} :
    group ∈ (convGroups (convert listText records)).entries ↔
      ∃ record ∈ (finalSnapshots records).values,
        group = (record.conversationId, convertRecord listText record.conversationId record) := by
  obtain ⟨id, rows⟩ := group
  have sorted := sorted_wellFormed wellFormed
  have values := fun entry => @valuesOf_blocks listText (sortedSnapshots records)
    (sortedSnapshots_nodup records) entry
  rw [convGroups, OrderedDict.mem_group]
  have written : convert listText records = (sortedSnapshots records).flatMap fun entry =>
      convertRecord listText entry.1 entry.2 := rfl
  rw [written]
  constructor
  · rintro ⟨member, rfl⟩
    simp only [List.map_map, List.mem_map, List.mem_flatMap] at member
    obtain ⟨row, ⟨entry, inSorted, inRows⟩, rfl⟩ := member
    have rowId := convertMessages_id _ _ _ _ _ _ row inRows
    have inFinal := (sortedSnapshots_perm records).mem_iff.mp inSorted
    refine ⟨entry.2, List.mem_map_of_mem inFinal, ?_⟩
    have same : row.conversationId = entry.2.conversationId := rowId.trans (sorted entry inSorted).2
    simp only [Function.comp_apply, same]
    rw [← (sorted entry inSorted).2, values entry inSorted]
  · rintro ⟨record, member, equal⟩
    obtain ⟨rfl, rfl⟩ := Prod.mk.inj equal
    obtain ⟨entry, inFinal, rfl⟩ := List.mem_map.mp member
    have inSorted := (sortedSnapshots_perm records).mem_iff.mpr inFinal
    obtain ⟨entryFormed, same⟩ := sorted entry inSorted
    rw [← same, values entry inSorted]
    refine ⟨?_, rfl⟩
    cases rows : convertRecord listText entry.1 entry.2 with
    | nil => exact absurd rows (entryFormed.rows_ne_nil entry.1)
    | cons row others =>
        have inRows : row ∈ convertRecord listText entry.1 entry.2 := by simp [rows]
        have rowId := convertMessages_id _ _ _ _ _ _ row inRows
        simp only [List.map_map, List.mem_map, List.mem_flatMap]
        exact ⟨row, ⟨entry, inSorted, inRows⟩, rowId⟩

theorem convGroups_ordered : Ordered (convGroups (convert listText records)).entries := by
  intro group member
  obtain ⟨record, -, rfl⟩ := (mem_convGroups wellFormed).mp member
  exact convertRecord_ordered listText record.conversationId record

theorem lossless_of_replays {record : SnapshotRecord}
    (member : record ∈ (finalSnapshots records).values)
    (replays : Replays listText records record) : Lossless record := by
  obtain ⟨metadata, loaded, prebuilt⟩ := replays
  have recordFormed := wellFormed record member
  have built : buildMetadata (convert listText records) = .ok metadata := by
    unfold load at loaded
    cases checked : checkRows (convert listText records) with
    | error error => simp [checked, bind, Except.bind] at loaded
    | ok accepted => simpa [checked, bind, Except.bind] using loaded
  obtain ⟨result, resultBuilt, found⟩ := addConversations_get? (convGroups_ordered wellFormed)
    (convGroups (convert listText records)).nodupKeys built
    ((mem_convGroups wellFormed).mpr ⟨record, member, rfl⟩)
  have each : ∀ position run, (turns record.messages)[position]? = some run → ClientTurn run →
      PromptKept record ∧
        ∀ earlier ∈ (turns record.messages).take (position + 1), Kept earlier := by
    intro position run isTurn client
    rw [← recordFormed.preBuilt_iff resultBuilt isTurn client]
    have expectedHere := prebuilt position run isTurn client
    rw [found] at expectedHere
    simpa using expectedHere
  obtain ⟨first, rest, runs, split, role⟩ := recordFormed.firstTurn
  refine ⟨(each 0 (first :: rest) (by simp [split]) ⟨first, List.mem_cons_self, ?_⟩).1,
    fun position run isTurn client => (each position run isTurn client).2⟩
  simp [isClient, role]

theorem replays_of_lossless (lossless : ∀ record ∈ (finalSnapshots records).values, Lossless record)
    {record : SnapshotRecord} (member : record ∈ (finalSnapshots records).values) :
    Replays listText records record := by
  have kept : ∀ other ∈ (finalSnapshots records).values,
      ∀ run ∈ turns other.messages, ClientTurn run → Kept run := by
    intro other inFinal run isTurn client
    obtain ⟨position, found⟩ := List.mem_iff_getElem?.mp isTurn
    apply (lossless other inFinal).2 position run found client
    apply List.mem_of_getElem? (i := position)
    rw [List.getElem?_take_of_lt (by omega), found]
  have checks : ∀ group ∈ (convGroups (convert listText records)).entries,
      checkStructure group = .ok () ∧ checkNumbering group = .ok () ∧
        ∀ row ∈ group.2, formatRow row = .ok (formatted row) := by
    intro group inGroups
    obtain ⟨other, inFinal, rfl⟩ := (mem_convGroups wellFormed).mp inGroups
    exact (wellFormed other inFinal).checks (kept other inFinal) other.conversationId
  have inGroups : (record.conversationId, convertRecord listText record.conversationId record) ∈
      (convGroups (convert listText records)).entries :=
    (mem_convGroups wellFormed).mpr ⟨record, member, rfl⟩
  obtain ⟨metadata, built⟩ := exists_addConversations (convGroups_ordered wellFormed)
    (fun group inGroups => (checks group inGroups).2.2) {}
  have accepted : checkRows (convert listText records) = .ok () := by
    obtain ⟨grouped, grouping⟩ := @checkGrouping_blocks listText (sortedSnapshots records)
      (sortedSnapshots_nodup records) (sorted_wellFormed wellFormed) [] none (by simp) (by simp) 0
    have nonempty : (convert listText records).isEmpty = false := by
      cases rows : convert listText records with
      | nil =>
          rw [rows] at inGroups
          cases inGroups
      | cons row others => rfl
    have structured := @forM_ok _ (convGroups (convert listText records)).entries checkStructure
      fun group inGroups => (checks group inGroups).1
    have numbered := @forM_ok _ (convGroups (convert listText records)).entries checkNumbering
      fun group inGroups => (checks group inGroups).2.1
    have written : convert listText records = (sortedSnapshots records).flatMap fun entry =>
      convertRecord listText entry.1 entry.2 := rfl
    rw [← written] at grouping
    unfold checkRows
    rw [nonempty, grouping]
    simp only [Bool.false_eq_true, if_false, structured, numbered]
    rfl
  have recordFormed := wellFormed record member
  obtain ⟨result, resultBuilt, found⟩ := addConversations_get? (convGroups_ordered wellFormed)
    (convGroups (convert listText records)).nodupKeys built inGroups
  refine ⟨metadata, ?_, ?_⟩
  · unfold load
    rw [accepted]
    exact built
  · intro position run isTurn client
    have prebuilt := (recordFormed.preBuilt_iff resultBuilt isTurn client).mpr
      ⟨(lossless record member).1, (lossless record member).2 position run isTurn client⟩
    rw [found]
    simp [prebuilt]

/-- The dataset takes the converted rows of a snapshot file and prebuilds the source messages
exactly if nothing is lost in any snapshot. -/
theorem replays_iff :
    (∀ record ∈ (finalSnapshots records).values, Replays listText records record) ↔
      ∀ record ∈ (finalSnapshots records).values, Lossless record := by
  constructor
  · exact fun replays record member => lossless_of_replays wellFormed member (replays record member)
  · exact fun lossless record member => replays_of_lossless wellFormed lossless member

end

/-- A message that says a text. -/
def say (role : Role) (text : String) : Message :=
  { role := role, content := some (.text text) }

theorem filled_say {role : Role} {text : String} (kind : role = .user ∨ role = .assistant)
    (nonempty : text ≠ "") {reasoning : Option String} :
    Filled { say role text with reasoningContent := reasoning } := by
  rcases kind with rfl | rfl <;> constructor <;> simp [say, isEmptyContent, nonempty]

def addCall : Json :=
  .object [("id", .string "call_1"), ("type", .string "function"),
    ("function", .object [("name", .string "add"), ("arguments", .string "\x7b\x7d")])]

/-- A conversation in which the user speaks twice and a tool is called. -/
def toolConversation : SnapshotRecord where
  conversationId := "sim_1"
  conversationIdx := 0
  messages := [
    say .system "Be brief.", say .user "Hello", say .user "What is 2 + 2?",
    { role := .assistant, toolCalls := some [addCall] },
    { role := .tool, toolCallId := some "call_1", content := some (.text "4") }]

theorem replays_iff_toolConversation :
    (∀ record ∈ (finalSnapshots [toolConversation]).values,
        Replays (fun _ => "[]") [toolConversation] record) ↔
      ∀ record ∈ (finalSnapshots [toolConversation]).values, Lossless record := by
  apply replays_iff
  intro record member
  obtain rfl : record = toolConversation := List.mem_singleton.mp member
  constructor
  · decide
  · have chars : toolConversation.conversationId.toList = ['s', 'i', 'm', '_', '1'] := rfl
    simp [chars]
  · refine ⟨some (say .system "Be brief."), rfl, ?_⟩
    intro msg isPrompt
    obtain rfl := Option.some.inj isPrompt
    constructor <;> rfl
  · exact ⟨_, _, rfl, rfl⟩
  · have rest : nonSystem toolConversation.messages = toolConversation.messages.tail := rfl
    rw [rest]
    simp [toolConversation, say, Follows]
  · have rest : nonSystem toolConversation.messages = toolConversation.messages.tail := rfl
    have isCall : IsToolCall addCall := by
      refine ⟨_, _, rfl, rfl, rfl, rfl, rfl, .inl ⟨_, rfl⟩⟩
    rw [rest]
    simp only [toolConversation, List.tail_cons, List.forall_mem_cons]
    refine ⟨filled_say (.inl rfl) (by decide), filled_say (.inl rfl) (by decide), ?_, ?_, by simp⟩
    · constructor <;> simp [isCall]
    · constructor <;> simp

/-- The assistant reasons before the last turn of the user. -/
def reasoningConversation : SnapshotRecord where
  conversationId := "sim_2"
  conversationIdx := 0
  messages := [
    say .user "Hello", { say .assistant "Hi" with reasoningContent := some "A greeting." },
    say .user "Bye"]

/-- The reasoning is not in the rows, and the messages for the last turn lack it. -/
theorem reasoning_not_replayed :
    (∀ record ∈ (finalSnapshots [reasoningConversation]).values, WellFormed record) ∧
      ¬ ∀ record ∈ (finalSnapshots [reasoningConversation]).values,
        Replays (fun _ => "[]") [reasoningConversation] record := by
  have wellFormed :
      ∀ record ∈ (finalSnapshots [reasoningConversation]).values, WellFormed record := by
    intro record member
    obtain rfl : record = reasoningConversation := List.mem_singleton.mp member
    have all : nonSystem reasoningConversation.messages = reasoningConversation.messages := rfl
    constructor
    · decide
    · have chars : reasoningConversation.conversationId.toList = ['s', 'i', 'm', '_', '2'] := rfl
      simp [chars]
    · exact ⟨none, rfl, by simp⟩
    · exact ⟨_, _, rfl, rfl⟩
    · rw [all]
      simp [reasoningConversation, say, Follows]
    · rw [all]
      simp only [reasoningConversation, List.forall_mem_cons]
      exact ⟨filled_say (.inl rfl) (by decide), filled_say (.inr rfl) (by decide),
        filled_say (.inl rfl) (by decide), by simp⟩
  refine ⟨wellFormed, ?_⟩
  intro replays
  have member : reasoningConversation ∈ (finalSnapshots [reasoningConversation]).values :=
    List.mem_singleton.mpr rfl
  have lossless := lossless_of_replays wellFormed member (replays _ member)
  have kept := lossless.2 2 [say .user "Bye"] rfl ⟨_, List.mem_cons_self, rfl⟩
    [{ say .assistant "Hi" with reasoningContent := some "A greeting." }] (by
      have turns : turns reasoningConversation.messages =
          reasoningConversation.messages.map fun msg => [msg] := rfl
      rw [turns]
      simp [reasoningConversation])
  have plain := (kept _ List.mem_cons_self).1.2
  simp at plain

end ConvertAgenticSnapshot

end InferenceEndpoint
