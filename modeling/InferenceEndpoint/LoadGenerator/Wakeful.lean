import InferenceEndpoint.LoadGenerator.StrategyEnd
import InferenceEndpoint.LoadGenerator.Completion

/-!
# The strategy never waits on nothing

While `execute` waits, every active instance is waited for or has a delayed
turn scheduled, so that a strategy without queries and delays has no active
instance either.  Whenever a callback leaves it in that situation, the
completion event has been set.
-/

namespace InferenceEndpoint

variable {config : AgenticConfig}

open World

/-- What the strategy has entered in its tables and in the event loop. -/
structure Tables where
  inflight : OrderedDict QueryId String
  activeIters : OrderedDict String ActiveConversation
  timeoutHandles : OrderedDict QueryId TimerHandle
  delayHandles : OrderedDict String TimerHandle
  timers : OrderedDict TimerHandle Callback

def World.tables (world : World) : Tables where
  inflight := world.strategy.inflight
  activeIters := world.strategy.activeIters
  timeoutHandles := world.strategy.timeoutHandles
  delayHandles := world.strategy.delayHandles
  timers := world.timers

/-- Handles and query ids are drawn in order, and a timeout handle never belongs
to a delayed turn. -/
structure Drawn (world : World) : Prop where
  timers : ∀ handle callback, world.timers.get? handle = some callback →
    handle < world.nextTimer
  handles : ∀ queryId handle, world.strategy.timeoutHandles.get? queryId = some handle →
    handle < world.nextTimer ∧
      ∀ conversationId turn,
        world.timers.get? handle ≠ some (.issueTurnNowSafely conversationId turn)
  inflight : world.InflightDrawn

/-- A delay handle has its timer, or the timer has just fired. -/
def Registered (control : Control) (world : World) (conversationId : String) : Prop :=
  ∀ handle, world.strategy.delayHandles.get? conversationId = some handle →
    (∃ turn, world.timers.get? handle = some (.issueTurnNowSafely conversationId turn)) ∨
      ∃ turn, control = .due conversationId turn

/-- Every active instance has its place. -/
structure Placed (control : Control) (world : World) : Prop where
  drawn : Drawn world
  registered : ∀ conversationId, Registered control world conversationId
  held : ∀ conversationId, (world.strategy.activeIters.get? conversationId).isSome →
    ∃ token, Token.At control world conversationId token

/-- Some result or delayed turn will continue the run. -/
def World.Expecting (world : World) : Prop :=
  (∃ queryId conversationId,
      world.strategy.inflight.get? queryId = some conversationId) ∨
    ∃ conversationId handle, world.strategy.delayHandles.get? conversationId = some handle

/-- The completion event is set, or about to be set, or something is expected. -/
def Wakeful (control : Control) (world : World) : Prop :=
  world.strategy.allDone = true ∨ control = .raising ∨
    Placed control world ∧ (control = .idle → world.Expecting)

namespace Drawn

variable {first second : World}

/-- A step that draws at most, and forgets at most. -/
theorem forgets (drawn : Drawn first) (timers : TimersShrink first second)
    (handles : ∀ queryId handle,
      second.strategy.timeoutHandles.get? queryId = some handle →
        first.strategy.timeoutHandles.get? queryId = some handle)
    (inflight : ∀ queryId, first.strategy.inflight.get? queryId = none →
      second.strategy.inflight.get? queryId = none)
    (nextTimer : first.nextTimer ≤ second.nextTimer)
    (nextUuid : first.nextUuid ≤ second.nextUuid) : Drawn second where
  timers handle callback found :=
    Nat.lt_of_lt_of_le (drawn.timers handle callback (timers handle callback found)) nextTimer
  handles queryId handle found := by
    obtain ⟨bound, notDelayed⟩ := drawn.handles queryId handle (handles queryId handle found)
    refine ⟨Nat.lt_of_lt_of_le bound nextTimer, fun conversationId turn scheduled => ?_⟩
    exact notDelayed conversationId turn (timers handle _ scheduled)
  inflight queryId undrawn :=
    inflight queryId (drawn.inflight queryId (Nat.le_trans nextUuid undrawn))

theorem same (drawn : Drawn first) (tables : second.tables = first.tables)
    (nextTimer : first.nextTimer ≤ second.nextTimer)
    (nextUuid : first.nextUuid ≤ second.nextUuid) : Drawn second := by
  have inflight : second.strategy.inflight = _ := congrArg Tables.inflight tables
  have handles : second.strategy.timeoutHandles = _ := congrArg Tables.timeoutHandles tables
  refine drawn.forgets (timersShrink_of_eq (congrArg Tables.timers tables)) ?_ ?_ nextTimer
    nextUuid
  · rw [handles]
    exact fun _ _ => id
  · rw [inflight]
    exact fun _ => id

end Drawn

namespace Placed

variable {first second : World} {before after : Control} {conversationId : String}

/-- A step that leaves the tables alone. -/
theorem same (placed : Placed before first) (tables : second.tables = first.tables)
    (nextTimer : first.nextTimer ≤ second.nextTimer)
    (nextUuid : first.nextUuid ≤ second.nextUuid)
    (due : ∀ conversationId turn, before = .due conversationId turn →
      after = .due conversationId turn)
    (control : ∀ conversationId, Token.At before first conversationId .control →
      Token.At after second conversationId .control) : Placed after second := by
  have inflight : second.strategy.inflight = _ := congrArg Tables.inflight tables
  have active : second.strategy.activeIters = _ := congrArg Tables.activeIters tables
  have delays : second.strategy.delayHandles = _ := congrArg Tables.delayHandles tables
  have timers : second.timers = _ := congrArg Tables.timers tables
  refine ⟨placed.drawn.same tables nextTimer nextUuid, ?_, ?_⟩
  · intro conversationId handle found
    rw [delays] at found
    rw [timers]
    refine (placed.registered conversationId handle found).imp_right ?_
    exact fun ⟨turn, same⟩ => ⟨turn, due conversationId turn same⟩
  · intro conversationId busy
    rw [active] at busy
    obtain ⟨token, here⟩ := placed.held conversationId busy
    refine ⟨token, ?_⟩
    cases token with
    | query one =>
        rw [Token.At, inflight]
        exact here
    | timer handle =>
        rw [Token.At, timers]
        exact here
    | control => exact control conversationId here

/-- A query was answered or timed out: the running callback holds its instance. -/
theorem settles (placed : Placed .idle first) {queryId : QueryId}
    (waiting : first.strategy.inflight.get? queryId = some conversationId)
    (strategy : second.strategy = { first.strategy with
      inflight := first.strategy.inflight.erase queryId
      timeoutHandles := first.strategy.timeoutHandles.erase queryId })
    (timers : TimersShrink first second)
    (kept : ∀ handle conversationId turn,
      first.timers.get? handle = some (.issueTurnNowSafely conversationId turn) →
        second.timers.get? handle = some (.issueTurnNowSafely conversationId turn))
    (nextTimer : first.nextTimer ≤ second.nextTimer)
    (nextUuid : first.nextUuid ≤ second.nextUuid) :
    Placed (.holding conversationId) second := by
  refine ⟨placed.drawn.forgets timers ?_ ?_ nextTimer nextUuid, ?_, ?_⟩
  · intro other handle found
    rw [strategy] at found
    exact get?_of_get?_erase found
  · intro other absent
    rw [strategy]
    dsimp only
    rw [OrderedDict.get?_erase]
    split
    · rfl
    · exact absent
  · intro other handle found
    rw [strategy] at found
    rcases placed.registered other handle found with ⟨turn, scheduled⟩ | ⟨turn, due⟩
    · exact Or.inl ⟨turn, kept handle other turn scheduled⟩
    · simp at due
  · intro other busy
    rw [strategy] at busy
    obtain ⟨token, here⟩ := placed.held other busy
    cases token with
    | query one =>
        have found : first.strategy.inflight.get? one = some other := here
        by_cases same : one = queryId
        · subst same
          obtain rfl : conversationId = other := Option.some.inj (waiting.symm.trans found)
          exact ⟨.control, Or.inl rfl⟩
        · refine ⟨.query one, ?_⟩
          rw [Token.At, strategy]
          exact (OrderedDict.get?_erase_of_ne _ same).trans found
    | timer handle =>
        obtain ⟨turn, found⟩ := here
        exact ⟨.timer handle, turn, kept handle other turn found⟩
    | control => simp [Token.At] at here

/-- The instance that the running callback holds leaves. -/
theorem leaves (placed : Placed before first)
    (strategy : second.strategy.inflight = first.strategy.inflight ∧
      second.strategy.timeoutHandles = first.strategy.timeoutHandles ∧
      second.strategy.activeIters = first.strategy.activeIters.erase conversationId)
    (delays : ∀ other handle, second.strategy.delayHandles.get? other = some handle →
      first.strategy.delayHandles.get? other = some handle ∧
        ∀ turn, first.timers.get? handle = some (.issueTurnNowSafely other turn) →
          second.timers.get? handle = some (.issueTurnNowSafely other turn))
    (timers : TimersShrink first second)
    (kept : ∀ handle other turn, other ≠ conversationId →
      first.timers.get? handle = some (.issueTurnNowSafely other turn) →
        second.timers.get? handle = some (.issueTurnNowSafely other turn))
    (nextTimer : first.nextTimer ≤ second.nextTimer)
    (nextUuid : first.nextUuid ≤ second.nextUuid)
    (notDue : ∀ conversationId turn, before ≠ .due conversationId turn)
    (alone : ∀ other, Token.At before first other .control → other = conversationId) :
    Placed after second := by
  refine ⟨placed.drawn.forgets timers ?_ ?_ nextTimer nextUuid, ?_, ?_⟩
  · rw [strategy.2.1]
    exact fun _ _ => id
  · rw [strategy.1]
    exact fun _ => id
  · intro other handle found
    obtain ⟨registered, keeps⟩ := delays other handle found
    rcases placed.registered other handle registered with ⟨turn, scheduled⟩ | ⟨turn, due⟩
    · exact Or.inl ⟨turn, keeps turn scheduled⟩
    · exact absurd due (notDue other turn)
  · intro other busy
    have different : other ≠ conversationId := by
      rintro rfl
      rw [strategy.2.2, OrderedDict.get?_erase_self] at busy
      simp at busy
    rw [strategy.2.2, OrderedDict.get?_erase_of_ne _ different] at busy
    obtain ⟨token, here⟩ := placed.held other busy
    cases token with
    | query one =>
        refine ⟨.query one, ?_⟩
        rw [Token.At, strategy.1]
        exact here
    | timer handle =>
        obtain ⟨turn, found⟩ := here
        exact ⟨.timer handle, turn, kept handle other turn different found⟩
    | control => exact absurd (alone other here) different

/-- The rest of a failed instance is dropped. -/
theorem drops (placed : Placed (.holding conversationId) first)
    (remaining : List ConversationTurn) :
    Placed (.aborting conversationId remaining) (first.dropConversation conversationId) := by
  have kept : ∀ handle other turn, other ≠ conversationId →
      first.timers.get? handle = some (.issueTurnNowSafely other turn) →
        (first.dropConversation conversationId).timers.get? handle =
          some (.issueTurnNowSafely other turn) := by
    intro handle other turn different scheduled
    unfold dropConversation
    cases registered : first.strategy.delayHandles.get? conversationId with
    | none => exact scheduled
    | some cancelled =>
        have notSame : handle ≠ cancelled := by
          rintro rfl
          rcases placed.registered conversationId handle registered with
            ⟨own, found⟩ | ⟨own, due⟩
          · rw [scheduled] at found
            simp only [Option.some.injEq, Callback.issueTurnNowSafely.injEq] at found
            exact different found.1
          · simp at due
        exact (OrderedDict.get?_erase_of_ne _ notSame).trans scheduled
  refine placed.leaves ?_ ?_ (timersShrink_dropConversation _ _) kept ?_ ?_ nofun ?_
  · rw [dropConversation_strategy]
    exact ⟨rfl, rfl, rfl⟩
  · intro other handle found
    rw [dropConversation_strategy] at found
    have different : other ≠ conversationId := by
      rintro rfl
      simp at found
    dsimp only at found
    rw [OrderedDict.get?_erase_of_ne _ different] at found
    exact ⟨found, fun turn => kept handle other turn different⟩
  · unfold dropConversation
    dsimp only
    split <;> exact Nat.le_refl _
  · exact Nat.le_of_eq (dropConversation_nextUuid _ _).symm
  · intro other here
    simpa [Token.At, eq_comm] using here

/-- An instance is taken off the active ones. -/
theorem pops (placed : Placed before first) (tables : second.tables =
      (first.popActive conversationId).tables)
    (nextTimer : first.nextTimer ≤ second.nextTimer)
    (nextUuid : first.nextUuid ≤ second.nextUuid)
    (notDue : ∀ conversationId turn, before ≠ .due conversationId turn)
    (alone : ∀ other, Token.At before first other .control → other = conversationId) :
    Placed after second := by
  have timers : second.timers = first.timers := congrArg Tables.timers tables
  have delays : second.strategy.delayHandles = first.strategy.delayHandles :=
    congrArg Tables.delayHandles tables
  refine placed.leaves ⟨congrArg Tables.inflight tables, congrArg Tables.timeoutHandles tables,
    congrArg Tables.activeIters tables⟩ ?_ (timersShrink_of_eq timers) ?_ nextTimer nextUuid
      notDue alone
  · intro other handle found
    rw [delays] at found
    rw [timers]
    exact ⟨found, fun _ => id⟩
  · rw [timers]
    exact fun _ _ _ _ => id

/-- `_request_stop_issuing`: nothing is active or delayed any more. -/
theorem stops (drawn : Drawn first) : Placed .filling first.stopIssuing := by
  have shrinks := timersShrink_stopIssuing first
  have later : Drawn first.stopIssuing := by
    refine drawn.forgets shrinks ?_ ?_ ?_ ?_
    all_goals rw [stopIssuing, cancelTimers_eq]
    · exact fun _ _ => id
    · exact fun _ => id
  refine ⟨later, ?_, ?_⟩
  · intro conversationId handle found
    simp [stopIssuing] at found
  · intro conversationId busy
    simp [stopIssuing] at busy

/-- A timer fires that belongs to no delayed turn. -/
theorem expires (placed : Placed before first) {handle : TimerHandle} {queryId : QueryId}
    (scheduled : first.timers.get? handle = some (.handleTimeout queryId conversationId)) :
    Placed before (first.cancelTimer handle) := by
  have kept : ∀ other one turn,
      first.timers.get? other = some (.issueTurnNowSafely one turn) →
        (first.cancelTimer handle).timers.get? other = some (.issueTurnNowSafely one turn) := by
    intro other one turn found
    have different : other ≠ handle := by
      rintro rfl
      simp [scheduled] at found
    exact (OrderedDict.get?_erase_of_ne _ different).trans found
  refine ⟨placed.drawn.forgets (timersShrink_cancelTimer _ _) (fun _ _ => id) (fun _ => id)
    (Nat.le_refl _) (Nat.le_refl _), ?_, ?_⟩
  · intro other one found
    refine (placed.registered other one found).imp_left ?_
    rintro ⟨turn, there⟩
    exact ⟨turn, kept one other turn there⟩
  · intro other busy
    obtain ⟨token, here⟩ := placed.held other busy
    refine ⟨token, ?_⟩
    cases token with
    | query one => exact here
    | timer one => exact here.imp fun turn found => kept one other turn found
    | control => exact here

/-- The delay of a turn has elapsed: the running callback holds its instance. -/
theorem elapses (placed : Placed .idle first) {handle : TimerHandle} {turn : ConversationTurn}
    (scheduled : first.timers.get? handle = some (.issueTurnNowSafely conversationId turn)) :
    Placed (.due conversationId turn) (first.cancelTimer handle) := by
  have kept : ∀ other one later, one ≠ conversationId →
      first.timers.get? other = some (.issueTurnNowSafely one later) →
        (first.cancelTimer handle).timers.get? other = some (.issueTurnNowSafely one later) := by
    intro other one later notSame found
    have different : other ≠ handle := by
      rintro rfl
      rw [scheduled] at found
      simp only [Option.some.injEq, Callback.issueTurnNowSafely.injEq] at found
      exact notSame found.1.symm
    exact (OrderedDict.get?_erase_of_ne _ different).trans found
  refine ⟨placed.drawn.forgets (timersShrink_cancelTimer _ _) (fun _ _ => id) (fun _ => id)
    (Nat.le_refl _) (Nat.le_refl _), ?_, ?_⟩
  · intro other one found
    by_cases same : other = conversationId
    · subst same
      exact Or.inr ⟨turn, rfl⟩
    · rcases placed.registered other one found with ⟨later, there⟩ | ⟨later, due⟩
      · exact Or.inl ⟨later, kept one other later same there⟩
      · simp at due
  · intro other busy
    by_cases same : other = conversationId
    · subst same
      exact ⟨.control, Or.inr ⟨turn, rfl⟩⟩
    · obtain ⟨token, here⟩ := placed.held other busy
      refine ⟨token, ?_⟩
      cases token with
      | query one => exact here
      | timer one => exact here.imp fun later found => kept one other later same found
      | control => simp [Token.At] at here

/-- A turn that has to wait gets a timer. -/
theorem delays (placed : Placed (.holding conversationId) first) (turn : ConversationTurn) :
    Placed .idle (first.scheduleDelayedTurn conversationId turn) := by
  have kept : ∀ handle callback, first.timers.get? handle = some callback →
      (first.scheduleDelayedTurn conversationId turn).timers.get? handle = some callback := by
    intro handle callback found
    have different : handle ≠ first.nextTimer :=
      Nat.ne_of_lt (placed.drawn.timers handle callback found)
    exact (OrderedDict.get?_insert_of_ne _ _ different).trans found
  have entered : (first.scheduleDelayedTurn conversationId turn).timers.get? first.nextTimer =
      some (.issueTurnNowSafely conversationId turn) := OrderedDict.get?_insert_self _ _ _
  refine ⟨⟨?_, ?_, placed.drawn.inflight⟩, ?_, ?_⟩
  · intro handle callback found
    have inserted : (first.timers.insert first.nextTimer
        (.issueTurnNowSafely conversationId turn)).get? handle = some callback := found
    rw [OrderedDict.get?_insert] at inserted
    split at inserted
    · rename_i same
      exact same ▸ Nat.lt_succ_self _
    · exact Nat.lt_succ_of_lt (placed.drawn.timers handle callback inserted)
  · intro queryId handle found
    obtain ⟨bound, notDelayed⟩ := placed.drawn.handles queryId handle found
    refine ⟨Nat.lt_succ_of_lt bound, fun other later scheduled => ?_⟩
    have inserted : (first.timers.insert first.nextTimer
        (.issueTurnNowSafely conversationId turn)).get? handle =
          some (.issueTurnNowSafely other later) := scheduled
    rw [OrderedDict.get?_insert_of_ne _ _ (Nat.ne_of_lt bound)] at inserted
    exact notDelayed other later inserted
  · intro other handle found
    have inserted : (first.strategy.delayHandles.insert conversationId
        first.nextTimer).get? other = some handle := found
    rw [OrderedDict.get?_insert] at inserted
    split at inserted
    · rename_i same
      obtain rfl : first.nextTimer = handle := Option.some.inj inserted
      exact Or.inl ⟨turn, same ▸ entered⟩
    · rcases placed.registered other handle inserted with ⟨later, there⟩ | ⟨later, due⟩
      · exact Or.inl ⟨later, kept handle _ there⟩
      · simp at due
  · intro other busy
    obtain ⟨token, here⟩ := placed.held other busy
    cases token with
    | query one => exact ⟨.query one, here⟩
    | timer one => exact ⟨.timer one, here.imp fun later found => kept one _ found⟩
    | control =>
        obtain rfl : conversationId = other := by simpa [Token.At] using here
        exact ⟨.timer first.nextTimer, turn, entered⟩

/-- A turn is issued: its query stands for the instance. -/
theorem issues {turn : ConversationTurn} (placed : Placed (.due conversationId turn) first)
    (alone : ∀ handle later, first.timers.get? handle ≠
      some (.issueTurnNowSafely conversationId later))
    {state : ActiveConversation} {query : Query} (prompt : PromptData)
    (fresh : query.id = first.nextUuid) :
    Placed .idle (((first.popDelayHandle conversationId).afterIssued query prompt
      turn.sampleIndex conversationId (some turn.turn)).bookTurn query.id conversationId
        state) := by
  have kept : ∀ handle callback, first.timers.get? handle = some callback →
      (first.timers.insert first.nextTimer
        (.handleTimeout query.id conversationId)).get? handle = some callback := by
    intro handle callback found
    have different : handle ≠ first.nextTimer :=
      Nat.ne_of_lt (placed.drawn.timers handle callback found)
    exact (OrderedDict.get?_insert_of_ne _ _ different).trans found
  have booked : ∀ one other, first.strategy.inflight.get? one = some other →
      (first.strategy.inflight.insert query.id conversationId).get? one = some other := by
    intro one other found
    have different : one ≠ query.id := by
      rintro rfl
      have absent := placed.drawn.inflight query.id (Nat.le_of_eq fresh.symm)
      simp [absent] at found
    exact (OrderedDict.get?_insert_of_ne _ _ different).trans found
  refine ⟨⟨?_, ?_, ?_⟩, ?_, ?_⟩
  · intro handle callback found
    have inserted : (first.timers.insert first.nextTimer
        (.handleTimeout query.id conversationId)).get? handle = some callback := found
    rw [OrderedDict.get?_insert] at inserted
    split at inserted
    · rename_i same
      exact same ▸ Nat.lt_succ_self _
    · exact Nat.lt_succ_of_lt (placed.drawn.timers handle callback inserted)
  · intro queryId handle found
    have entered : (first.strategy.timeoutHandles.insert query.id
        first.nextTimer).get? queryId = some handle := found
    have scheduled : ∀ other later, (first.timers.insert first.nextTimer
        (.handleTimeout query.id conversationId)).get? handle =
          some (.issueTurnNowSafely other later) → handle ≠ first.nextTimer ∧
            first.timers.get? handle = some (.issueTurnNowSafely other later) := by
      intro other later inserted
      rw [OrderedDict.get?_insert] at inserted
      split at inserted
      · simp at inserted
      · rename_i different
        exact ⟨different, inserted⟩
    rw [OrderedDict.get?_insert] at entered
    split at entered
    · obtain rfl : first.nextTimer = handle := Option.some.inj entered
      exact ⟨Nat.lt_succ_self _, fun other later there => (scheduled other later there).1 rfl⟩
    · obtain ⟨bound, notDelayed⟩ := placed.drawn.handles queryId handle entered
      exact ⟨Nat.lt_succ_of_lt bound, fun other later there =>
        notDelayed other later (scheduled other later there).2⟩
  · intro queryId undrawn
    have later : first.nextUuid + 1 ≤ queryId := undrawn
    have different : queryId ≠ query.id := by
      rw [fresh]
      exact Nat.ne_of_gt later
    exact (OrderedDict.get?_insert_of_ne _ _ different).trans
      (placed.drawn.inflight queryId (Nat.le_of_succ_le later))
  · intro other handle found
    have registered : (first.strategy.delayHandles.erase conversationId).get? other =
        some handle := found
    have different : other ≠ conversationId := by
      rintro rfl
      simp at registered
    rw [OrderedDict.get?_erase_of_ne _ different] at registered
    rcases placed.registered other handle registered with ⟨later, there⟩ | ⟨later, due⟩
    · exact Or.inl ⟨later, kept handle _ there⟩
    · exact absurd (Control.due.inj due).1.symm different
  · intro other busy
    by_cases same : other = conversationId
    · subst same
      exact ⟨.query query.id, OrderedDict.get?_insert_self _ _ _⟩
    · have active : ((first.strategy.activeIters.insert conversationId
          { state with cursor := state.cursor + 1 }).get? other).isSome := busy
      rw [OrderedDict.get?_insert_of_ne _ _ same] at active
      obtain ⟨token, here⟩ := placed.held other active
      cases token with
      | query one => exact ⟨.query one, booked one other here⟩
      | timer one => exact ⟨.timer one, here.imp fun later found => kept one _ found⟩
      | control =>
          rcases here with holding | ⟨later, due⟩
          · simp at holding
          · exact absurd (Control.due.inj due).1.symm same

/-- A new instance is held by the running callback. -/
theorem enters (placed : Placed .filling first) {drawn : World}
    {started : ConversationInstance}
    (draw : first.nextConversationInstance config = some (some (started, drawn))) :
    Placed (.holding started.logicalId) (drawn.enterInstance started) := by
  obtain ⟨_, order, base, _, _, rfl, rfl⟩ := nextConversationInstance_eq_some draw
  generalize makeInstance first.strategy.baseConvs.length
    first.strategy.startedTrajectoryCount base = started
  refine ⟨⟨placed.drawn.timers, placed.drawn.handles, placed.drawn.inflight⟩, ?_, ?_⟩
  · intro other handle found
    rcases placed.registered other handle found with scheduled | ⟨later, due⟩
    · exact Or.inl scheduled
    · simp at due
  · intro other busy
    by_cases same : other = started.logicalId
    · subst same
      exact ⟨.control, Or.inl rfl⟩
    · have active : (first.strategy.activeIters.get? other).isSome := by
        have inserted : ((first.strategy.activeIters.insert started.logicalId
            { sourceId := started.sourceId, turns := started.turns, cursor := 0
              repeatId := started.repeatId }).get? other).isSome := busy
        rwa [OrderedDict.get?_insert_of_ne _ _ same] at inserted
      obtain ⟨token, here⟩ := placed.held other active
      cases token with
      | query one => exact ⟨.query one, here⟩
      | timer one => exact ⟨.timer one, here⟩
      | control => simp [Token.At] at here

end Placed

/-! ## Every move -/

theorem acceptResult_kept {first : World} (drawn : Drawn first) (result : QueryResult)
    (handle : TimerHandle) (conversationId : String) (turn : ConversationTurn)
    (scheduled : first.timers.get? handle = some (.issueTurnNowSafely conversationId turn)) :
    (first.acceptResult result).timers.get? handle =
      some (.issueTurnNowSafely conversationId turn) := by
  have announced : ((((first.observe (.received result)).announceResult
      result).markInflightComplete).popInflight result.id).strategy.timeoutHandles =
        first.strategy.timeoutHandles := by
    simp [popInflight, announceResult, popConvInfo, observe]
  have timers : ((((first.observe (.received result)).announceResult
      result).markInflightComplete).popInflight result.id).timers = first.timers := by
    simp [popInflight, announceResult, popConvInfo, observe]
  unfold acceptResult popTimeoutHandle
  dsimp only
  split
  · exact timers ▸ scheduled
  · rename_i cancelled registered
    rw [announced] at registered
    have different : handle ≠ cancelled := by
      rintro rfl
      exact (drawn.handles result.id handle registered).2 conversationId turn scheduled
    refine (OrderedDict.get?_erase_of_ne _ different).trans ?_
    exact timers ▸ scheduled

theorem acceptResult_nextTimer (world : World) (result : QueryResult) :
    (world.acceptResult result).nextTimer = world.nextTimer := by
  unfold acceptResult popTimeoutHandle
  dsimp only
  split <;> exact markInflightComplete_nextTimer _

theorem expireQuery_nextTimer (world : World) (queryId : QueryId) :
    (world.expireQuery queryId).nextTimer = world.nextTimer := by
  unfold expireQuery terminateQuery
  split
  · exact markInflightComplete_nextTimer _
  · rfl

theorem Placed.answers {world : World} {result : QueryResult} {conversationId : String}
    (placed : Placed .idle world)
    (waiting : world.strategy.inflight.get? result.id = some conversationId)
    (manager : ConversationManager) :
    Placed (.holding conversationId) ((world.acceptResult result).withManager manager) := by
  refine placed.settles waiting ?_ (timersShrink_acceptResult world result)
    (acceptResult_kept placed.drawn result) ?_ ?_
  · exact acceptResult_strategy world result
  · exact Nat.le_of_eq (acceptResult_nextTimer world result).symm
  · exact Nat.le_of_eq (acceptResult_nextUuid world result).symm

namespace Wakeful

variable {first second : World} {before after : Control}

/-- A move that neither sets the completion event nor meets an exception. -/
theorem step (wakeful : Wakeful before first) (calm : before ≠ .raising)
    (allDone : second.strategy.allDone = first.strategy.allDone)
    (placed : Placed before first → (before = .idle → first.Expecting) →
      Placed after second ∧ (after = .idle → second.Expecting)) : Wakeful after second := by
  rcases wakeful with done | raising | ⟨here, expecting⟩
  · exact Or.inl (allDone.trans done)
  · exact absurd raising calm
  · exact Or.inr (Or.inr (placed here expecting))

/-- A move that leaves work for the running callback. -/
theorem busy (wakeful : Wakeful before first) (calm : before ≠ .raising)
    (allDone : second.strategy.allDone = first.strategy.allDone) (notIdle : after ≠ .idle)
    (placed : Placed before first → Placed after second) : Wakeful after second :=
  wakeful.step calm allDone fun here _ => ⟨placed here, fun idle => absurd idle notIdle⟩

end Wakeful

theorem isEmpty_eq_false_iff {Key Value : Type*} [DecidableEq Key]
    {dict : OrderedDict Key Value} :
    dict.isEmpty = false ↔ ∃ key value, dict.get? key = some value := by
  constructor
  · intro nonempty
    by_contra none_
    push Not at none_
    have empty : dict.isEmpty = true := OrderedDict.isEmpty_iff.mpr fun key => by
      cases found : dict.get? key with
      | none => rfl
      | some value => exact absurd found (none_ key value)
    simp [nonempty] at empty
  · rintro ⟨key, value, found⟩
    cases empty : dict.isEmpty with
    | false => rfl
    | true =>
        rw [OrderedDict.isEmpty_iff.mp empty key] at found
        simp at found

/-- An active instance that no callback holds is expected back. -/
theorem Placed.expecting {world : World} (placed : Placed .filling world)
    (work : world.strategy.activeIters.isEmpty = false ∨
      world.strategy.inflight.isEmpty = false ∨
        world.strategy.delayHandles.isEmpty = false) (staged : Staged config .filling world) :
    world.Expecting := by
  rcases work with active | waiting | delayed
  · obtain ⟨conversationId, state, found⟩ := isEmpty_eq_false_iff.mp active
    obtain ⟨token, here⟩ := placed.held conversationId (by simp [found])
    cases token with
    | query queryId => exact Or.inl ⟨queryId, conversationId, here⟩
    | timer handle =>
        obtain ⟨turn, scheduled⟩ := here
        exact Or.inr ⟨conversationId, handle, staged.delayed handle conversationId turn scheduled⟩
    | control => simp [Token.At] at here
  · exact Or.inl (isEmpty_eq_false_iff.mp waiting)
  · exact Or.inr (isEmpty_eq_false_iff.mp delayed)

theorem Move.wakeful {first second : Moment} (move : Move config first second)
    (known : Known first.control first.world)
    (staged : Staged config first.control first.world)
    (wakeful : Wakeful first.control first.world) :
    Wakeful second.control second.world := by
  cases move with
  | @answered world result conversationId manager waiting =>
      have flags := acceptResult_flags world result
      refine wakeful.busy (by simp) (congrArg StrategyFlags.allDone flags) (by split <;> simp)
        fun placed => ?_
      have held := placed.answers waiting manager
      cases stopping : world.strategy.stopping with
      | false => exact held
      | true =>
          refine ⟨held.drawn, ?_, ?_⟩
          · intro other handle found
            refine (held.registered other handle found).imp_right ?_
            rintro ⟨turn, due⟩
            simp at due
          · intro other busy
            have active : (world.strategy.activeIters.get? other).isSome := by
              rwa [withManager, acceptResult_strategy] at busy
            simp [staged.stopped stopping other] at active
  | @rejected world result conversationId manager waiting =>
      have flags := (dropConversation_flags ((world.acceptResult result).withManager manager)
        conversationId).trans (acceptResult_flags world result)
      exact wakeful.busy (by simp) (congrArg StrategyFlags.allDone flags) (by simp)
        fun placed => (placed.answers waiting manager).drops _
  | @unroutable world result conversationId waiting _ _ _ unknown =>
      have found := known.waiting result.id conversationId waiting
      rw [unknown] at found
      simp at found
  | collected =>
      exact wakeful.step (by simp) rfl fun placed expecting =>
        ⟨placed.same rfl (Nat.le_refl _) (Nat.le_refl _) (fun _ _ => id) (fun _ => id),
          fun _ => expecting rfl⟩
  | @timedOut world handle queryId conversationId waitingId manager scheduled waiting =>
      obtain rfl := (staged.timeouts handle queryId conversationId scheduled).2.2 waitingId
        waiting
      generalize (if (world.issuer.uuidToIndex.get? queryId).isSome then
        world.convInfo queryId else ("", none)) = convInfo
      have strategy := timedOut_strategy config (world.cancelTimer handle) queryId manager convInfo
      have timers := timedOut_timers config (world.cancelTimer handle) queryId manager convInfo
      have allDone : (((((world.cancelTimer handle).expireQuery queryId).withManager
          manager).recordTimeout config queryId convInfo).dropConversation
            waitingId).strategy.allDone = world.strategy.allDone := by
        rw [dropConversation_strategy, strategy]
        rfl
      refine wakeful.busy (by simp) allDone (by simp) fun placed => Placed.drops ?_ _
      refine (placed.expires scheduled).settles waiting strategy (timersShrink_of_eq timers)
        ?_ ?_ ?_
      · intro other one turn found
        rw [timers]
        exact found
      · rw [recordTimeout_nextTimer]
        exact Nat.le_of_eq (expireQuery_nextTimer (world.cancelTimer handle) queryId).symm
      · exact Nat.le_of_eq
          (timedOut_nextUuid config (world.cancelTimer handle) queryId manager convInfo).symm
  | @timeoutUnroutable world handle queryId conversationId waitingId scheduled waiting
      unknown =>
      have found := known.scheduled handle queryId conversationId scheduled
      rw [unknown] at found
      simp at found
  | expired scheduled =>
      exact wakeful.step (by simp) rfl fun placed expecting =>
        ⟨placed.expires scheduled, fun _ => expecting rfl⟩
  | delayElapsed scheduled =>
      exact wakeful.busy (by simp) rfl (by simp) fun placed => placed.elapses scheduled
  | finished =>
      refine wakeful.busy (by simp) rfl (by simp) fun placed => ?_
      refine placed.pops rfl (Nat.le_refl _) (Nat.le_refl _) (by simp) fun other here => ?_
      simpa [Token.At, eq_comm] using here
  | @delayed _ world conversationId state turn =>
      refine wakeful.step (by simp) rfl fun placed _ => ⟨placed.delays turn, fun _ => ?_⟩
      exact Or.inr ⟨conversationId, world.nextTimer, OrderedDict.get?_insert_self _ _ _⟩
  | @becameDue _ world conversationId state turn =>
      refine wakeful.busy (by simp) rfl (by simp) fun placed => ?_
      refine placed.same rfl (Nat.le_refl _) (Nat.le_refl _) (by simp) fun other here => ?_
      obtain rfl : conversationId = other := by simpa [Token.At] using here
      exact Or.inr ⟨turn, rfl⟩
  | @released _ world conversationId gone =>
      have held : Token.At (.holding conversationId) world conversationId .control := Or.inl rfl
      have issuing := staged.issuing held (by simp)
      obtain ⟨state, active⟩ := staged.active issuing held
      rcases gone with stopping | inactive
      · exact absurd (issuing.symm.trans stopping) (by simp)
      · exact absurd (active.symm.trans inactive) (by simp)
  | @stale _ world conversationId turn outdated =>
      obtain ⟨state, active, next⟩ := staged.due conversationId turn (Or.inr rfl)
      rcases outdated with stopping | mismatch
      · simp [staged.stopped stopping conversationId] at active
      · exact absurd next (mismatch state active)
  | @issued _ world conversationId turn state query prompt _ _ _ _ fresh =>
      refine wakeful.step (by simp) rfl fun placed _ => ⟨?_, fun _ => ?_⟩
      · refine placed.issues (fun handle later found => ?_) prompt fresh
        have same := staged.exclusive conversationId (.timer handle) .control ⟨later, found⟩
          (Or.inr ⟨turn, rfl⟩)
        simp at same
      · exact Or.inl ⟨query.id, conversationId, OrderedDict.get?_insert_self _ _ _⟩
  | refused =>
      refine wakeful.busy (by simp) (by rw [stopIssuing, cancelTimers_eq]; rfl) (by simp)
        fun placed => Placed.stops ?_
      exact placed.drawn.forgets (timersShrink_of_eq rfl) (fun _ _ => id) (fun _ => id)
        (Nat.le_refl _) (Nat.le_refl _)
  | crashed => exact Or.inr (Or.inl rfl)
  | drawFailed => exact Or.inr (Or.inl rfl)
  | errorStored => exact Or.inl rfl
  | started _ draw =>
      obtain ⟨_, order, base, _, _, rfl, rfl⟩ := nextConversationInstance_eq_some draw
      exact wakeful.busy (by simp) rfl (by simp) fun placed => placed.enters draw
  | @trackingStopped _ world =>
      have strategy := stopPerformanceTrackingOnce_strategy world
      refine wakeful.busy (by simp) ?_ (by simp) fun placed => ?_
      · rw [strategy]
      · refine placed.same ?_ ?_ ?_ (fun _ _ => id) fun _ => id
        · rw [tables, tables, strategy, stopPerformanceTrackingOnce_timers]
        · unfold stopPerformanceTrackingOnce stopPerformanceTracking
          split
          · exact Nat.le_refl _
          · dsimp only
            split <;> exact Nat.le_refl _
        · exact Nat.le_of_eq (sameBooks_stopPerformanceTrackingOnce world).nextUuid.symm
  | issuingStopped =>
      refine wakeful.busy (by simp) (by rw [stopIssuing, cancelTimers_eq]) (by simp)
        fun placed => Placed.stops placed.drawn
  | completed => exact Or.inl rfl
  | @waits _ world work =>
      refine wakeful.step (by simp) rfl fun placed _ => ⟨?_, fun _ => ?_⟩
      · exact placed.same rfl (Nat.le_refl _) (Nat.le_refl _) (by simp) (by simp [Token.At])
      · refine placed.expecting ?_ staged
        rcases work with ⟨_, waiting⟩ | ⟨issuing, exhausted, work⟩
        · exact Or.inr (Or.inl waiting)
        · simpa [hasWorkRemaining, issuing, exhausted, or_assoc] using work
  | skipped =>
      exact wakeful.busy (by simp) rfl (by simp) fun placed =>
        placed.same rfl (Nat.le_refl _) (Nat.le_succ _) (by simp) (by simp [Token.At])
  | skipRefused =>
      refine wakeful.busy (by simp) rfl (by simp) fun placed => ?_
      exact placed.pops rfl (Nat.le_refl _) (Nat.le_refl _) (by simp) (by simp [Token.At])
  | @skipUnroutable _ world conversationId turn turns unknown =>
      have found := known.aborting conversationId _ rfl
      rw [unknown] at found
      simp at found
  | aborted =>
      refine wakeful.busy (by simp) rfl (by simp) fun placed => ?_
      exact placed.pops rfl (Nat.le_refl _) (Nat.le_refl _) (by simp) (by simp [Token.At])

theorem Moves.wakeful {first second : Moment} (plain : config.PlainIds)
    (moves : Moves config first second) (known : Known first.control first.world)
    (staged : Staged config first.control first.world)
    (wakeful : Wakeful first.control first.world) :
    Wakeful second.control second.world := by
  have all : (Known second.control second.world ∧ Staged config second.control second.world) ∧
      Wakeful second.control second.world := by
    refine moves.invariant (fun moment => (Known moment.control moment.world ∧
      Staged config moment.control moment.world) ∧ Wakeful moment.control moment.world) ?_
        ⟨⟨known, staged⟩, wakeful⟩
    rintro before after ⟨⟨known, staged⟩, wakeful⟩ move
    exact ⟨⟨move.known known, move.staged plain known staged⟩, move.wakeful known staged wakeful⟩
  exact all.2

end InferenceEndpoint
