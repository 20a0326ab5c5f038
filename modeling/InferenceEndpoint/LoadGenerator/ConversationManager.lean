import InferenceEndpoint.Library.OrderedDict

/-!
# Conversation manager

Per-conversation turn counters.  They only observe the run: the strategy
sequences the turns itself and reports every outcome here.
-/

namespace InferenceEndpoint

structure ConversationState where
  conversationId : String
  completedTurns : Nat := 0
  failedTurns : Nat := 0
  expectedClientTurns : Option Nat := none
  deriving DecidableEq, Repr

namespace ConversationState

def isComplete (state : ConversationState) : Bool :=
  match state.expectedClientTurns with
  | none => false
  | some expected => expected ≤ state.completedTurns

end ConversationState

/-- The `_conversations` dictionary. -/
abbrev ConversationManager := OrderedDict String ConversationState

namespace ConversationManager

def getState (manager : ConversationManager) (conversationId : String) :
    Option ConversationState :=
  manager.get? conversationId

/-- `get_or_create`; the caller of the strategy only uses its effect. -/
def getOrCreate (manager : ConversationManager) (conversationId : String)
    (expectedClientTurns : Option Nat) : ConversationManager :=
  if (manager.get? conversationId).isSome then manager
  else
    manager.insert conversationId
      { conversationId := conversationId
        expectedClientTurns := expectedClientTurns }

/-- `mark_turn_complete`; `none` is the `KeyError` of an unknown
conversation. -/
def markTurnComplete (manager : ConversationManager) (conversationId : String) :
    Option ConversationManager :=
  match manager.get? conversationId with
  | none => none
  | some state =>
      some (manager.insert conversationId
        { state with completedTurns := state.completedTurns + 1 })

/-- `mark_turn_failed`; failed turns count as completed ones. -/
def markTurnFailed (manager : ConversationManager) (conversationId : String) :
    Option ConversationManager :=
  match manager.get? conversationId with
  | none => none
  | some state =>
      some (manager.insert conversationId
        { state with
            completedTurns := state.completedTurns + 1
            failedTurns := state.failedTurns + 1 })

theorem getOrCreate_isSome (manager : ConversationManager) (conversationId : String)
    (expected : Option Nat) (other : String)
    (known : (manager.get? other).isSome ∨ other = conversationId) :
    ((manager.getOrCreate conversationId expected).get? other).isSome := by
  unfold getOrCreate
  split
  · rename_i present
    rcases known with known | rfl
    · exact known
    · exact present
  · rw [OrderedDict.get?_insert]
    split
    · rfl
    · rename_i different
      exact known.resolve_right different

private theorem insert_known_isSome {manager : ConversationManager}
    {conversationId : String} {state : ConversationState}
    (found : manager.get? conversationId = some state) (marked : ConversationState)
    (other : String) :
    ((manager.insert conversationId marked).get? other).isSome =
      (manager.get? other).isSome := by
  rw [OrderedDict.get?_insert]
  by_cases same : other = conversationId
  · subst same
    simp [found]
  · simp [same]

theorem markTurnComplete_isSome {manager marked : ConversationManager}
    {conversationId : String}
    (marks : manager.markTurnComplete conversationId = some marked) (other : String) :
    (marked.get? other).isSome = (manager.get? other).isSome := by
  unfold markTurnComplete at marks
  cases found : manager.get? conversationId with
  | none => simp [found] at marks
  | some state =>
      obtain rfl : _ = marked := by simpa [found] using marks
      exact insert_known_isSome found _ other

theorem markTurnFailed_isSome {manager marked : ConversationManager}
    {conversationId : String}
    (marks : manager.markTurnFailed conversationId = some marked) (other : String) :
    (marked.get? other).isSome = (manager.get? other).isSome := by
  unfold markTurnFailed at marks
  cases found : manager.get? conversationId with
  | none => simp [found] at marks
  | some state =>
      obtain rfl : _ = marked := by simpa [found] using marks
      exact insert_known_isSome found _ other

end ConversationManager

end InferenceEndpoint
