import InferenceEndpoint.DatasetManager.AgenticInferenceDataset
import InferenceEndpoint.Library.AdjacentMerge

/-!
# Converting agentic snapshots

The script takes the last snapshot of every conversation, merges neighbouring user messages
and neighbouring tool messages, and writes a row for each message that is left.
-/

namespace InferenceEndpoint

open AgenticInference AdjacentMerge

/-- A line of the snapshot file. -/
structure SnapshotRecord where
  conversationId : String
  conversationIdx : Int
  messages : List Message
  tools : List Json := []

namespace ConvertAgenticSnapshot

/-- The last snapshot of every conversation. -/
def addSnapshot (final : OrderedDict String SnapshotRecord) (record : SnapshotRecord) :
    OrderedDict String SnapshotRecord :=
  match final.get? record.conversationId with
  | none => final.insert record.conversationId record
  | some kept =>
      if kept.conversationIdx < record.conversationIdx then
        final.insert record.conversationId record
      else final

def finalSnapshots (records : List SnapshotRecord) : OrderedDict String SnapshotRecord :=
  records.foldl addSnapshot ∅

/-! ## Collapses -/

/-- White space for `str.strip`. -/
def isSpace (char : Char) : Bool :=
  let code := char.toNat
  (9 ≤ code && code ≤ 13) || (28 ≤ code && code ≤ 32) || (0x2000 ≤ code && code ≤ 0x200A) ||
    [0x85, 0xA0, 0x1680, 0x2028, 0x2029, 0x202F, 0x205F, 0x3000].contains code

def strip (text : String) : String :=
  String.ofList ((text.toList.dropWhile isSpace).reverse.dropWhile isSpace).reverse

def bothUsers (prev msg : Message) : Bool :=
  prev.role = .user && msg.role = .user

def bothTools (prev msg : Message) : Bool :=
  prev.role = .tool && msg.role = .tool

def mergeTools (prev msg : Message) : Message :=
  let result : ToolResult := { toolCallId := msg.toolCallId, content := some msg.content }
  match prev.toolResults with
  | none =>
      { role := .tool
        toolResults :=
          some [{ toolCallId := prev.toolCallId, content := some prev.content }, result] }
  | some toolResults => { prev with toolResults := some (toolResults ++ [result]) }

section

variable (listText : List Json → String)

/-- The content in an f-string, with `listText` for `str` of a list; contents without a truth
value are empty. -/
def contentText : Option Content → String
  | some (.text text) => text
  | some (.parts (part :: parts)) => listText (part :: parts)
  | some (.parts []) | none => ""

def mergeUsers (prev msg : Message) : Message :=
  { prev with
      content := some (.text (strip
        (contentText listText prev.content ++ "\n\n" ++ contentText listText msg.content))) }

/-- `_apply_collapses`, without the source indices. -/
def applyCollapses (nonSystem : List Message) : List Message :=
  mergeAdjacent bothTools mergeTools (mergeAdjacent bothUsers (mergeUsers listText) nonSystem)

end

/-! ## Rows -/

/-- The content of the last system message. -/
def systemContent (messages : List Message) : Option Content :=
  messages.foldl (fun content msg => if msg.role = .system then msg.content else content) none

def nonSystem (messages : List Message) : List Message :=
  messages.filter fun msg => msg.role ≠ .system

/-- The row of a message; `system` is given for the first user row only. -/
def convertMessage (conversationId : String) (tools : List Json) (turn : Nat)
    (system : Option Content) (msg : Message) : TurnRow where
  conversationId := conversationId
  turn := turn
  role := msg.role
  system := system
  toolCalls := msg.toolCalls.filter fun calls => !calls.isEmpty
  toolResults :=
    if msg.role = .tool then
      match msg.toolResults with
      | some (result :: results) => some (result :: results)
      | _ => some [{ toolCallId := msg.toolCallId, content := some msg.content }]
    else none
  content := if msg.role = .tool then none else msg.content
  tools := if isClient msg.role && !tools.isEmpty then some tools else none

def convertMessages (conversationId : String) (tools : List Json) (system : Option Content) :
    Bool → Nat → List Message → List TurnRow
  | _, _, [] => []
  | firstUserSeen, position, msg :: rest =>
      let first := msg.role = .user && !firstUserSeen
      convertMessage conversationId tools (position + 1) (if first then system else none) msg ::
        convertMessages conversationId tools system (firstUserSeen || msg.role = .user)
          (position + 1) rest

def convertRecord (listText : List Json → String) (conversationId : String)
    (record : SnapshotRecord) : List TurnRow :=
  convertMessages conversationId record.tools (systemContent record.messages) false 0
    (applyCollapses listText (nonSystem record.messages))

/-- `convert`: the rows that are written. -/
def convert (listText : List Json → String) (records : List SnapshotRecord) : List TurnRow :=
  let sorted := (finalSnapshots records).entries.mergeSort fun first second => first.1 ≤ second.1
  sorted.flatMap fun entry => convertRecord listText entry.1 entry.2

/-! ## Turns -/

def sameTurn (prev msg : Message) : Bool :=
  bothUsers prev msg || bothTools prev msg

/-- The runs of user messages and of tool messages, and the assistant messages. -/
def turns (messages : List Message) : List (List Message) :=
  (nonSystem messages).splitBy sameTurn

theorem sameTurn_congr {first second : Message} (role : first.role = second.role)
    (next : Message) : sameTurn first next = sameTurn second next := by
  simp [sameTurn, bothUsers, bothTools, role]

section

variable (listText : List Json → String)

def mergeTurn (prev msg : Message) : Message :=
  if bothUsers prev msg then mergeUsers listText prev msg else mergeTools prev msg

theorem mergeTools_role {prev : Message} (role : prev.role = .tool) (msg : Message) :
    (mergeTools prev msg).role = .tool := by
  unfold mergeTools
  split
  · rfl
  · exact role

theorem mergeTurn_role {prev msg : Message} (joined : sameTurn prev msg = true) :
    (mergeTurn listText prev msg).role = prev.role ∧ msg.role = prev.role := by
  unfold sameTurn at joined
  unfold mergeTurn
  by_cases users : bothUsers prev msg = true
  · have roles := users
    simp only [bothUsers, Bool.and_eq_true, decide_eq_true_eq] at roles
    simp [users, mergeUsers, roles]
  · simp only [users, Bool.false_or] at joined
    simp only [bothTools, Bool.and_eq_true, decide_eq_true_eq] at joined
    simp [users, mergeTools_role joined.1, joined]

/-- The two passes merge the turns. -/
theorem applyCollapses_eq (messages : List Message) :
    applyCollapses listText messages =
      (messages.splitBy sameTurn).flatMap (mergeRun (mergeTurn listText)) := by
  unfold applyCollapses
  rw [mergeAdjacent_mergeAdjacent]
  · apply mergeAdjacent_eq
    intro prev msg next joined
    obtain ⟨role, same⟩ := mergeTurn_role listText joined
    have roles : (mergeTurn listText prev msg).role = msg.role := role.trans same.symm
    exact sameTurn_congr roles next
  · intro prev msg users other
    simp only [bothUsers, Bool.and_eq_true, decide_eq_true_eq] at users
    simp [bothTools, mergeUsers, users]
  · intro prev msg joined other
    simp only [bothTools, Bool.and_eq_true, decide_eq_true_eq] at joined
    simp [bothUsers, mergeTools_role joined.1, joined]

end

end ConvertAgenticSnapshot

end InferenceEndpoint
