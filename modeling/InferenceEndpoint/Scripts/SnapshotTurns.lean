import InferenceEndpoint.Scripts.ConvertAgenticSnapshot

/-!
# The turns of a snapshot

What the source messages of a turn should become, and when the row of the turn is read back
as that: texts must not lose white space where they are joined, and no field may be left
out.
-/

namespace InferenceEndpoint

open AgenticInference AdjacentMerge

namespace ConvertAgenticSnapshot

/-! ## Joined texts -/

def startsWithSpace (text : String) : Bool :=
  text.toList.head?.any isSpace

def endsWithSpace (text : String) : Bool :=
  text.toList.getLast?.any isSpace

/-- The texts in order, with a blank line between two of them. -/
def joinTexts (first : String) (rest : List String) : String :=
  rest.foldl (fun joined text => joined ++ "\n\n" ++ text) first

/-- The texts as the script joins them. -/
def stripTexts (first : String) (rest : List String) : String :=
  rest.foldl (fun joined text => strip (joined ++ "\n\n" ++ text)) first

theorem dropWhile_eq_self {Item : Type*} {test : Item → Bool} {items : List Item} :
    items.dropWhile test = items ↔ items.head?.any test = false := by
  cases items with
  | nil => simp
  | cons item items =>
      cases tested : test item with
      | false => simp [tested]
      | true =>
          simp only [List.dropWhile_cons, tested, if_true, List.head?_cons, Option.any_some,
            Bool.true_eq_false, iff_false]
          intro equal
          have shorter := (List.dropWhile_sublist test (l := items)).length_le
          rw [equal, List.length_cons] at shorter
          omega

theorem toList_strip (text : String) : (strip text).toList =
    ((text.toList.dropWhile isSpace).reverse.dropWhile isSpace).reverse := by
  simp [strip]

theorem strip_sublist (text : String) : (strip text).toList.Sublist text.toList := by
  rw [toList_strip, ← List.reverse_sublist, List.reverse_reverse]
  refine (List.dropWhile_sublist isSpace).trans ?_
  rw [List.reverse_sublist]
  exact List.dropWhile_sublist isSpace

theorem length_strip_le (text : String) : (strip text).length ≤ text.length := by
  rw [← String.length_toList, ← String.length_toList]
  exact (strip_sublist text).length_le

theorem strip_eq_of_length {text : String} (long : text.length ≤ (strip text).length) :
    strip text = text := by
  rw [← String.length_toList, ← String.length_toList] at long
  rw [← String.toList_inj]
  exact (strip_sublist text).eq_of_length_le long

theorem strip_eq_self {text : String} :
    strip text = text ↔ startsWithSpace text = false ∧ endsWithSpace text = false := by
  rw [← String.toList_inj, toList_strip, startsWithSpace, endsWithSpace]
  generalize text.toList = chars
  constructor
  · intro equal
    have trimmed : chars.dropWhile isSpace = chars := by
      apply (List.dropWhile_sublist isSpace).eq_of_length_le
      have length := congrArg List.length equal
      rw [List.length_reverse] at length
      have shorter := (List.dropWhile_sublist isSpace
        (l := (chars.dropWhile isSpace).reverse)).length_le
      rw [List.length_reverse] at shorter
      omega
    refine ⟨dropWhile_eq_self.mp trimmed, ?_⟩
    rw [trimmed] at equal
    have reversed := congrArg List.reverse equal
    rw [List.reverse_reverse, dropWhile_eq_self, List.head?_reverse] at reversed
    exact reversed
  · rintro ⟨starts, ends⟩
    rw [dropWhile_eq_self.mpr starts, dropWhile_eq_self.mpr, List.reverse_reverse]
    rw [List.head?_reverse]
    exact ends

theorem joinTexts_concat (first : String) (rest : List String) (text : String) :
    joinTexts first (rest ++ [text]) = joinTexts first rest ++ "\n\n" ++ text := by
  simp [joinTexts]

theorem stripTexts_concat (first : String) (rest : List String) (text : String) :
    stripTexts first (rest ++ [text]) = strip (stripTexts first rest ++ "\n\n" ++ text) := by
  simp [stripTexts]

theorem length_stripTexts_le (first : String) (rest : List String) :
    (stripTexts first rest).length ≤ (joinTexts first rest).length := by
  induction rest using List.reverseRecOn with
  | nil => simp [stripTexts, joinTexts]
  | append_singleton rest text ih =>
      rw [joinTexts_concat, stripTexts_concat]
      refine (length_strip_le _).trans ?_
      simp only [String.length_append]
      omega

theorem joinTexts_starts {first : String} (nonempty : first ≠ "") (rest : List String) :
    startsWithSpace (joinTexts first rest) = startsWithSpace first ∧
      joinTexts first rest ≠ "" := by
  have chars : first.toList ≠ [] := by simpa using nonempty
  induction rest using List.reverseRecOn with
  | nil => exact ⟨rfl, nonempty⟩
  | append_singleton rest text ih =>
      rw [joinTexts_concat]
      constructor
      · rw [← ih.1]
        have joined : (joinTexts first rest).toList ≠ [] := by simpa using ih.2
        simp only [startsWithSpace, String.toList_append, List.append_assoc,
          List.head?_append_of_ne_nil _ joined]
      · simp

theorem endsWithSpace_append {text : String} (nonempty : text ≠ "") (before : String) :
    endsWithSpace (before ++ text) = endsWithSpace text := by
  have chars : text.toList ≠ [] := by simpa using nonempty
  simp only [endsWithSpace, String.toList_append, List.getLast?_append_of_ne_nil _ chars]

/-- The script joins texts without a loss exactly if white space is at the ends only where
nothing is stripped. -/
theorem stripTexts_eq_joinTexts {first : String} (nonempty : first ≠ "") {rest : List String}
    (nonemptyRest : ∀ text ∈ rest, text ≠ "") :
    stripTexts first rest = joinTexts first rest ↔
      rest = [] ∨ startsWithSpace first = false ∧ ∀ text ∈ rest, endsWithSpace text = false := by
  induction rest using List.reverseRecOn with
  | nil => simp [stripTexts, joinTexts]
  | append_singleton rest text ih =>
      have before := ih fun other member => nonemptyRest other (List.mem_append_left _ member)
      have last : text ≠ "" := nonemptyRest text (by simp)
      have step : stripTexts first (rest ++ [text]) = joinTexts first (rest ++ [text]) ↔
          stripTexts first rest = joinTexts first rest ∧
            strip (joinTexts first (rest ++ [text])) = joinTexts first (rest ++ [text]) := by
        rw [stripTexts_concat, joinTexts_concat]
        constructor
        · intro equal
          have shorter := length_stripTexts_le first rest
          have kept : strip (stripTexts first rest ++ "\n\n" ++ text) =
              stripTexts first rest ++ "\n\n" ++ text := by
            apply strip_eq_of_length
            rw [equal]
            simp only [String.length_append]
            omega
          have cancelled : stripTexts first rest = joinTexts first rest := by
            rw [kept, ← String.toList_inj] at equal
            rw [← String.toList_inj]
            simpa [String.toList_append] using equal
          exact ⟨cancelled, by rw [← cancelled, equal, cancelled]⟩
        · rintro ⟨same, kept⟩
          rw [same, kept]
      rw [step, before, strip_eq_self, (joinTexts_starts nonempty _).1, joinTexts_concat,
        endsWithSpace_append last]
      constructor
      · rintro ⟨earlier, starts, ends⟩
        refine .inr ⟨starts, ?_⟩
        intro other member
        rcases List.mem_append.mp member with member | member
        · rcases earlier with rfl | ⟨-, earlier⟩
          · simp at member
          · exact earlier other member
        · obtain rfl := List.mem_singleton.mp member
          exact ends
      · rintro (empty | ⟨starts, ends⟩)
        · simp at empty
        · exact ⟨.inr ⟨starts, fun other member => ends other (List.mem_append_left _ member)⟩,
            starts, ends text (by simp)⟩

/-! ## Messages of a turn -/

def plainText? : Option Content → Option String
  | some (.text text) => some text
  | _ => none

def contentParts : Option Content → List Json
  | some (.text text) => [.object [("type", .string "text"), ("text", .string text)]]
  | some (.parts parts) => parts
  | none => []

/-- The contents of a run of user messages in order: texts with a blank line between them, or
all parts. -/
def joinContents (run : List Message) : Content :=
  match run.mapM fun msg => plainText? msg.content with
  | some (first :: rest) => .text (joinTexts first rest)
  | _ => .parts (run.flatMap fun msg => contentParts msg.content)

/-- What the messages of a turn should become: several user messages become one. -/
def replayed : List Message → List Message
  | first :: second :: rest =>
      if first.role = .user then
        [{ first with content := some (joinContents (first :: second :: rest)) }]
      else first :: second :: rest
  | run => run

/-- The fields of a source message are those of its role, filled as the checks of the dataset
demand. -/
structure Filled (msg : Message) : Prop where
  notSystem : msg.role ≠ .system
  noResults : msg.toolResults = none
  callId : msg.role ≠ .tool → msg.toolCallId = none
  toolCalls : msg.role ≠ .assistant → msg.toolCalls = none
  userContent : msg.role = .user → isEmptyContent msg.content = false
  assistantCalls : ∀ calls, msg.toolCalls = some calls →
    calls ≠ [] ∧ ∀ call ∈ calls, IsToolCall call
  assistantContent : msg.role = .assistant →
    isEmptyContent msg.content = false ∨ msg.toolCalls.isSome = true
  toolId : msg.role = .tool → ∃ id, msg.toolCallId = some id ∧ id ≠ ""

/-- No field that the rows have no place for. -/
def Plain (msg : Message) : Prop :=
  msg.name = none ∧ msg.reasoningContent = none

/-- The turn has no name and no reasoning, its user messages are texts if there are several
of them, without white space where the texts are stripped, and its tool messages have
contents. -/
def Kept : List Message → Prop
  | [] => True
  | first :: rest =>
      if first.role = .user then
        Plain first ∧ (rest = [] ∨
          (∃ text, first.content = some (.text text) ∧ startsWithSpace text = false) ∧
            ∀ msg ∈ rest, ∃ text, msg.content = some (.text text) ∧ endsWithSpace text = false)
      else ∀ msg ∈ first :: rest, Plain msg ∧ (msg.role = .tool → msg.content.isSome = true)

section

variable (listText : List Json → String)

/-- The row of a turn. -/
def RowOf (row : TurnRow) (run : List Message) : Prop :=
  ∃ conversationId tools turn system msg, mergeRun (mergeTurn listText) run = [msg] ∧
    row = convertMessage conversationId tools turn system msg

/-- A turn of the source. -/
structure Turn (run : List Message) : Prop where
  nonempty : run ≠ []
  chain : run.IsChain fun prev msg => sameTurn prev msg = true
  filled : ∀ msg ∈ run, Filled msg

variable {listText}

theorem Turn.role {first : Message} {rest : List Message} (turn : Turn (first :: rest)) :
    ∀ msg ∈ rest, msg.role = first.role := by
  have chain := turn.chain
  clear turn
  induction rest generalizing first with
  | nil => simp
  | cons second rest ih =>
      rw [List.isChain_cons_cons] at chain
      have same := (mergeTurn_role (fun _ => "") chain.1).2
      intro msg member
      rcases List.mem_cons.mp member with rfl | member
      · exact same
      · exact (ih chain.2 msg member).trans same

/-- An assistant message is a turn of its own. -/
theorem Turn.alone {first : Message} {rest : List Message} (turn : Turn (first :: rest))
    (role : first.role = .assistant) : rest = [] := by
  cases rest with
  | nil => rfl
  | cons second rest =>
      have joined := (List.isChain_cons_cons.mp turn.chain).1
      simp [sameTurn, bothUsers, bothTools, role] at joined

theorem formatRow_of_noResults {row : TurnRow} (noResults : row.toolResults = none) :
    formatRow row = .ok [{
      role := row.role
      content := row.content
      name := row.name
      toolCalls := row.toolCalls
      reasoningContent := row.reasoningContent }] := by
  simp [formatRow, expandToolResults, noResults]
  rfl

/-! ## User messages -/

theorem foldl_users {first : Message} {rest : List Message} (role : first.role = .user)
    (roles : ∀ msg ∈ rest, msg.role = .user) :
    ∃ content, rest.foldl (mergeTurn listText) first = { first with content := content } ∧
      contentText listText content = stripTexts (contentText listText first.content)
        (rest.map fun msg => contentText listText msg.content) ∧
      (rest = [] → content = first.content) ∧
      (rest ≠ [] → ∃ text, content = some (.text text)) := by
  induction rest using List.reverseRecOn with
  | nil => exact ⟨first.content, rfl, rfl, fun _ => rfl, fun nonempty => absurd rfl nonempty⟩
  | append_singleton rest msg ih =>
      obtain ⟨content, merged, text, -, -⟩ :=
        ih fun other member => roles other (List.mem_append_left _ member)
      have users : bothUsers { first with content := content } msg = true := by
        simp [bothUsers, role, roles msg (by simp)]
      refine ⟨some (.text (strip (contentText listText content ++ "\n\n" ++
        contentText listText msg.content))), ?_, ?_, by simp, fun _ => ⟨_, rfl⟩⟩
      · rw [List.foldl_append, merged]
        simp [mergeTurn, users, mergeUsers]
      · rw [List.map_append, List.map_cons, List.map_nil, stripTexts_concat, ← text]
        rfl

theorem mapM_plainText {run : List Message}
    (texts : ∀ msg ∈ run, ∃ text, msg.content = some (.text text)) :
    (run.mapM fun msg => plainText? msg.content) =
      some (run.map fun msg => contentText listText msg.content) := by
  induction run with
  | nil => rfl
  | cons msg run ih =>
      obtain ⟨text, content⟩ := texts msg List.mem_cons_self
      rw [List.mapM_cons, ih fun other member => texts other (List.mem_cons_of_mem _ member)]
      simp [content, plainText?, contentText]

theorem texts_of_mapM {run : List Message} {texts : List String}
    (read : (run.mapM fun msg => plainText? msg.content) = some texts) :
    ∀ msg ∈ run, ∃ text, msg.content = some (.text text) := by
  induction run generalizing texts with
  | nil => simp
  | cons head run ih =>
      rw [List.mapM_cons] at read
      cases plain : plainText? head.content with
      | none => simp [plain] at read
      | some text =>
          cases rest : run.mapM fun msg => plainText? msg.content with
          | none => simp [plain, rest] at read
          | some others =>
              intro msg member
              rcases List.mem_cons.mp member with rfl | member
              · refine ⟨text, ?_⟩
                unfold plainText? at plain
                split at plain
                · rename_i content
                  rw [content, Option.some.inj plain]
                · simp at plain
              · exact ih rest msg member

theorem joinContents_texts {first : Message} {rest : List Message}
    (texts : ∀ msg ∈ first :: rest, ∃ text, msg.content = some (.text text)) :
    joinContents (first :: rest) = .text (joinTexts (contentText listText first.content)
      (rest.map fun msg => contentText listText msg.content)) := by
  unfold joinContents
  rw [@mapM_plainText listText _ texts]
  rfl

theorem joinContents_parts {run : List Message}
    (parts : ¬ ∀ msg ∈ run, ∃ text, msg.content = some (.text text)) :
    ∃ parts, joinContents run = .parts parts := by
  unfold joinContents
  cases read : run.mapM fun msg => plainText? msg.content with
  | none => exact ⟨_, rfl⟩
  | some texts => exact absurd (texts_of_mapM read) parts

/-- Several user messages are joined as they should be exactly if they are kept. -/
theorem joined_iff {first : Message} {rest : List Message} (several : rest ≠ [])
    (contents : ∀ msg ∈ first :: rest, isEmptyContent msg.content = false) :
    Content.text (stripTexts (contentText listText first.content)
        (rest.map fun msg => contentText listText msg.content)) = joinContents (first :: rest) ↔
      (∃ text, first.content = some (.text text) ∧ startsWithSpace text = false) ∧
        ∀ msg ∈ rest, ∃ text, msg.content = some (.text text) ∧ endsWithSpace text = false := by
  by_cases texts : ∀ msg ∈ first :: rest, ∃ text, msg.content = some (.text text)
  · have nonempty : ∀ msg ∈ first :: rest, contentText listText msg.content ≠ "" := by
      intro msg member
      obtain ⟨text, content⟩ := texts msg member
      simpa [content, isEmptyContent, contentText] using contents msg member
    rw [@joinContents_texts listText _ _ texts, Content.text.injEq,
      stripTexts_eq_joinTexts (nonempty first List.mem_cons_self)]
    · obtain ⟨text, content⟩ := texts first List.mem_cons_self
      simp only [List.map_eq_nil_iff, several, false_or, List.mem_map, forall_exists_index,
        and_imp, forall_apply_eq_imp_iff₂]
      constructor
      · rintro ⟨starts, ends⟩
        refine ⟨⟨text, content, by simpa [content, contentText] using starts⟩, ?_⟩
        intro msg member
        obtain ⟨other, otherContent⟩ := texts msg (List.mem_cons_of_mem _ member)
        exact ⟨other, otherContent,
          by simpa [otherContent, contentText] using ends msg member⟩
      · rintro ⟨⟨other, otherContent, starts⟩, ends⟩
        refine ⟨by simpa [otherContent, contentText] using starts, ?_⟩
        intro msg member
        obtain ⟨last, lastContent, quiet⟩ := ends msg member
        simpa [lastContent, contentText] using quiet
    · intro text member
      obtain ⟨msg, inRest, rfl⟩ := List.mem_map.mp member
      exact nonempty msg (List.mem_cons_of_mem _ inRest)
  · obtain ⟨parts, joined⟩ := joinContents_parts texts
    rw [joined]
    simp only [reduceCtorEq, false_iff]
    rintro ⟨⟨text, content, -⟩, ends⟩
    apply texts
    intro msg member
    rcases List.mem_cons.mp member with rfl | member
    · exact ⟨text, content⟩
    · obtain ⟨other, otherContent, -⟩ := ends msg member
      exact ⟨other, otherContent⟩

/-! ## Tool messages -/

def resultOf (msg : Message) : ToolResult :=
  { toolCallId := msg.toolCallId, content := some msg.content }

theorem foldl_tools {first : Message} {rest : List Message} (role : first.role = .tool)
    (noResults : first.toolResults = none) (roles : ∀ msg ∈ rest, msg.role = .tool) :
    rest.foldl (mergeTurn listText) first = if rest = [] then first
      else { role := .tool, toolResults := some ((first :: rest).map resultOf) } := by
  induction rest using List.reverseRecOn with
  | nil => simp
  | append_singleton rest msg ih =>
      have before := ih fun other member => roles other (List.mem_append_left _ member)
      have apart : ∀ prev : Message, prev.role = .tool → bothUsers prev msg = false := by
        intro prev same
        simp [bothUsers, same]
      rw [List.foldl_append, before]
      cases rest with
      | nil => simp [mergeTurn, apart first role, mergeTools, noResults, resultOf]
      | cons second rest => simp [mergeTurn, bothUsers, mergeTools, resultOf]

def toolMessage (msg : Message) : Message :=
  { role := .tool, toolCallId := msg.toolCallId, content := msg.content }

theorem expandToolResult_eq (row : TurnRow) {msg : Message} (filled : Filled msg)
    (role : msg.role = .tool) (index : Nat) :
    (msg.content.isSome = true →
      expandToolResult row (resultOf msg, index) = .ok (toolMessage msg)) ∧
    (msg.content.isSome = false →
      ∃ error, expandToolResult row (resultOf msg, index) = .error error) := by
  obtain ⟨id, found, -⟩ := filled.toolId role
  cases content : msg.content with
  | none => simp [expandToolResult, resultOf, found, content]
  | some content => simp [expandToolResult, resultOf, toolMessage, found, content]

/-- The results of a round are expanded exactly if all have contents. -/
theorem mapM_expandToolResult (row : TurnRow) {run : List Message}
    (filled : ∀ msg ∈ run, Filled msg ∧ msg.role = .tool) (index : Nat) :
    ((∀ msg ∈ run, msg.content.isSome = true) →
      ((run.map resultOf).zipIdx index).mapM (expandToolResult row) = .ok (run.map toolMessage)) ∧
    ∀ messages, ((run.map resultOf).zipIdx index).mapM (expandToolResult row) = .ok messages →
      ∀ msg ∈ run, msg.content.isSome = true := by
  induction run generalizing index with
  | nil => exact ⟨fun _ => rfl, by simp⟩
  | cons msg run ih =>
      obtain ⟨complete, incomplete⟩ := ih (fun other member =>
        filled other (List.mem_cons_of_mem _ member)) (index + 1)
      obtain ⟨msgFilled, role⟩ := filled msg List.mem_cons_self
      obtain ⟨expands, fails⟩ := expandToolResult_eq row msgFilled role index
      rw [List.map_cons, List.zipIdx_cons, List.mapM_cons]
      constructor
      · intro contents
        rw [expands (contents msg List.mem_cons_self),
          complete fun other member => contents other (List.mem_cons_of_mem _ member)]
        rfl
      · intro messages expanded
        cases content : msg.content.isSome with
        | false =>
            obtain ⟨error, failed⟩ := fails content
            simp [failed, bind, Except.bind] at expanded
        | true =>
            rw [expands content] at expanded
            cases rest : ((run.map resultOf).zipIdx (index + 1)).mapM (expandToolResult row) with
            | error error => simp [rest, bind, Except.bind] at expanded
            | ok others =>
                intro other member
                rcases List.mem_cons.mp member with rfl | member
                · exact content
                · exact incomplete others rest other member

/-! ## Rows read back -/

theorem RowOf.role {row : TurnRow} {first : Message} {rest : List Message}
    (rowOf : RowOf listText row (first :: rest)) (turn : Turn (first :: rest)) :
    row.role = first.role := by
  obtain ⟨conversationId, tools, position, system, msg, merged, rfl⟩ := rowOf
  obtain rfl : rest.foldl (mergeTurn listText) first = msg := by simpa [mergeRun] using merged
  have filled := turn.filled first List.mem_cons_self
  cases role : first.role with
  | system => exact absurd role filled.notSystem
  | user =>
      obtain ⟨content, equal, -, -, -⟩ := @foldl_users listText first rest role
        (fun other member => (turn.role other member).trans role)
      simp [convertMessage, equal, role]
  | assistant => simp [convertMessage, turn.alone role, role]
  | tool =>
      rw [foldl_tools role filled.noResults fun other member => (turn.role other member).trans role]
      by_cases alone : rest = [] <;> simp [convertMessage, alone, role]

/-- The row of a round of tool results. -/
theorem RowOf.toolResults {row : TurnRow} {first : Message} {rest : List Message}
    (rowOf : RowOf listText row (first :: rest)) (turn : Turn (first :: rest))
    (role : first.role = .tool) : row.toolResults = some ((first :: rest).map resultOf) := by
  obtain ⟨conversationId, tools, position, system, msg, merged, rfl⟩ := rowOf
  obtain rfl : rest.foldl (mergeTurn listText) first = msg := by simpa [mergeRun] using merged
  have noResults := (turn.filled first List.mem_cons_self).noResults
  rw [foldl_tools role noResults fun other member => (turn.role other member).trans role]
  by_cases alone : rest = []
  · simp [convertMessage, alone, role, noResults, resultOf]
  · simp [convertMessage, alone]

/-- The row of a turn that is no round of tool results. -/
theorem RowOf.speech {row : TurnRow} {first : Message} {rest : List Message}
    (rowOf : RowOf listText row (first :: rest)) (turn : Turn (first :: rest))
    (role : first.role ≠ .tool) :
    row.toolResults = none ∧ row.name = none ∧ row.reasoningContent = none ∧
      row.toolCalls = first.toolCalls ∧ (rest = [] → row.content = first.content) ∧
      (rest ≠ [] → row.content = some (.text (stripTexts (contentText listText first.content)
        (rest.map fun msg => contentText listText msg.content)))) := by
  have sameRole := rowOf.role turn
  obtain ⟨conversationId, tools, position, system, msg, merged, rfl⟩ := rowOf
  obtain rfl : rest.foldl (mergeTurn listText) first = msg := by simpa [mergeRun] using merged
  have filled := turn.filled first List.mem_cons_self
  have calls : first.toolCalls.filter (fun calls => !calls.isEmpty) = first.toolCalls := by
    cases found : first.toolCalls with
    | none => rfl
    | some calls => simp [Option.filter_some, (filled.assistantCalls calls found).1]
  have quiet : (rest.foldl (mergeTurn listText) first).role ≠ .tool := by
    intro same
    exact role (sameRole.symm.trans same)
  cases kind : first.role with
  | system => exact absurd kind filled.notSystem
  | tool => exact absurd kind role
  | assistant =>
      obtain rfl := turn.alone kind
      simp [convertMessage, kind, calls]
  | user =>
      obtain ⟨content, equal, text, alone, several⟩ := @foldl_users listText first rest kind
        (fun other member => (turn.role other member).trans kind)
      refine ⟨by simp [convertMessage, quiet], rfl, rfl, ?_, ?_, ?_⟩
      · simp [convertMessage, equal, calls]
      · intro empty
        simp [convertMessage, equal, kind, alone empty]
      · intro nonempty
        obtain ⟨joined, found⟩ := several nonempty
        rw [← text]
        simp [convertMessage, equal, kind, found, contentText]

/-- The messages of a row can be made exactly if its tool results have contents. -/
theorem RowOf.formats_iff {row : TurnRow} {run : List Message} (rowOf : RowOf listText row run)
    (turn : Turn run) :
    formatRow row = .ok (formatted row) ↔
      ∀ msg ∈ run, msg.role = .tool → msg.content.isSome = true := by
  cases run with
  | nil => exact absurd rfl turn.nonempty
  | cons first rest =>
      by_cases role : first.role = .tool
      · have roles : ∀ msg ∈ first :: rest, Filled msg ∧ msg.role = .tool := by
          intro msg member
          refine ⟨turn.filled msg member, ?_⟩
          rcases List.mem_cons.mp member with rfl | member
          · exact role
          · exact (turn.role msg member).trans role
        have results := rowOf.toolResults turn role
        obtain ⟨complete, incomplete⟩ := mapM_expandToolResult row roles 0
        constructor
        · intro formats msg member _
          cases expanded : ((first :: rest).map resultOf).zipIdx.mapM (expandToolResult row) with
          | error error =>
              simp only [formatRow, expandToolResults, results, expanded, bind, Except.bind]
                at formats
              simp at formats
          | ok messages => exact incomplete messages expanded msg member
        · intro contents
          have expanded := complete fun msg member => contents msg member (roles msg member).2
          have formats : formatRow row = .ok ((first :: rest).map toolMessage) := by
            simp only [formatRow, expandToolResults, results, expanded]
            rfl
          exact formatRow_eq_formatted formats
      · have formats := formatRow_of_noResults (rowOf.speech turn role).1
        constructor
        · intro _ msg member tool
          rcases List.mem_cons.mp member with rfl | member
          · exact absurd tool role
          · exact absurd ((turn.role msg member).symm.trans tool) role
        · intro _
          exact formatRow_eq_formatted formats

theorem replayed_of_ne_user {first : Message} {rest : List Message} (role : first.role ≠ .user) :
    replayed (first :: rest) = first :: rest := by
  cases rest <;> simp [replayed, role]

/-- The only message that a row without tool results gives. -/
def speechMessage (first : Message) (content : Option Content) : Message :=
  { role := first.role, content := content, toolCalls := first.toolCalls }

theorem speechMessage_eq_iff {first : Message} (filled : Filled first) (role : first.role ≠ .tool)
    {content wanted : Option Content} :
    speechMessage first content = { first with content := wanted } ↔
      Plain first ∧ content = wanted := by
  have callId := filled.callId role
  have noResults := filled.noResults
  obtain ⟨firstRole, firstContent, name, reasoning, calls, id, results⟩ := first
  simp only at callId noResults
  subst callId noResults
  simp only [speechMessage, Plain, Message.mk.injEq, true_and, and_true]
  constructor
  · rintro ⟨same, noName, noReasoning⟩
    exact ⟨⟨noName.symm, noReasoning.symm⟩, same⟩
  · rintro ⟨⟨noName, noReasoning⟩, same⟩
    exact ⟨same, noName.symm, noReasoning.symm⟩

theorem toolMessage_eq_iff {msg : Message} (filled : Filled msg) (role : msg.role = .tool) :
    toolMessage msg = msg ↔ Plain msg := by
  have calls := filled.toolCalls (by rw [role]; decide)
  have noResults := filled.noResults
  obtain ⟨msgRole, content, name, reasoning, calls', id, results⟩ := msg
  simp only at role calls noResults
  subst role calls noResults
  simp [toolMessage, Plain, eq_comm]

/-- The row of a turn is read back as the turn exactly if the turn is kept. -/
theorem RowOf.formatted_iff {row : TurnRow} {run : List Message} (rowOf : RowOf listText row run)
    (turn : Turn run) (formats : formatRow row = .ok (formatted row)) :
    (formatted row).length = (replayed run).length ∧ (formatted row = replayed run ↔ Kept run) := by
  cases run with
  | nil => exact absurd rfl turn.nonempty
  | cons first rest =>
      have contents := (rowOf.formats_iff turn).mp formats
      have filled := turn.filled first List.mem_cons_self
      by_cases tool : first.role = .tool
      · have user : first.role ≠ .user := by rw [tool]; decide
        have roles : ∀ msg ∈ first :: rest, Filled msg ∧ msg.role = .tool := by
          intro msg member
          refine ⟨turn.filled msg member, ?_⟩
          rcases List.mem_cons.mp member with rfl | member
          · exact tool
          · exact (turn.role msg member).trans tool
        have expanded := (mapM_expandToolResult row roles 0).1
          fun msg member => contents msg member (roles msg member).2
        have read : formatRow row = .ok ((first :: rest).map toolMessage) := by
          simp only [formatRow, expandToolResults, rowOf.toolResults turn tool, expanded]
          rfl
        have same : formatted row = (first :: rest).map toolMessage :=
          Except.ok.inj (formats.symm.trans read)
        rw [same, replayed_of_ne_user user]
        refine ⟨List.length_map _, ?_⟩
        have identity : first :: rest = (first :: rest).map id := (List.map_id _).symm
        rw [Kept, if_neg user]
        constructor
        · intro equal msg member
          have kept := List.map_inj_left.mp (equal.trans identity) msg member
          exact ⟨(toolMessage_eq_iff (roles msg member).1 (roles msg member).2).mp kept,
            contents msg member⟩
        · intro kept
          refine Eq.trans (List.map_congr_left ?_) identity.symm
          intro msg member
          exact (toolMessage_eq_iff (roles msg member).1 (roles msg member).2).mpr
            (kept msg member).1
      · obtain ⟨noResults, noName, noReasoning, calls, alone, several⟩ := rowOf.speech turn tool
        have same : formatted row = [speechMessage first row.content] := by
          have read := formatRow_of_noResults noResults
          rw [noName, noReasoning, calls, rowOf.role turn] at read
          exact Except.ok.inj (formats.symm.trans read)
        rw [same]
        cases rest with
        | nil =>
            have one : replayed [first] = [{ first with content := first.content }] := rfl
            rw [one, alone rfl, List.cons.injEq, speechMessage_eq_iff filled tool]
            refine ⟨rfl, ?_⟩
            by_cases user : first.role = .user
            · simp [Kept, user]
            · simp [Kept, user, tool]
        | cons second rest =>
            have user : first.role = .user := by
              cases role : first.role with
              | system => exact absurd role filled.notSystem
              | user => rfl
              | assistant => exact absurd (turn.alone role) (by simp)
              | tool => exact absurd role tool
            have wanted : replayed (first :: second :: rest) =
                [{ first with content := some (joinContents (first :: second :: rest)) }] := by
              simp [replayed, user]
            have userContents : ∀ msg ∈ first :: second :: rest,
                isEmptyContent msg.content = false := by
              intro msg member
              apply (turn.filled msg member).userContent
              rcases List.mem_cons.mp member with rfl | member
              · exact user
              · exact (turn.role msg member).trans user
            rw [wanted, several (by simp), List.cons.injEq, speechMessage_eq_iff filled tool,
              Option.some.injEq, joined_iff (by simp) userContents]
            refine ⟨rfl, ?_⟩
            simp [Kept, user]

end

end ConvertAgenticSnapshot

end InferenceEndpoint
