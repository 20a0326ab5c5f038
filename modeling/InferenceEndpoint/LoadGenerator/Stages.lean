import InferenceEndpoint.LoadGenerator.Instances

/-!
# Stages of a trajectory instance

A started instance that is not finished is waited for, or it has a delayed turn
scheduled, or the running callback is about to issue its next turn, and never two
of these at once.  A token is what stands for the instance in one of these
places; a move passes the token of one instance on and lets tokens of others
vanish.
-/

namespace InferenceEndpoint

variable {config : AgenticConfig}

open World

/-- Where an instance can be found. -/
inductive Token
  | query (queryId : QueryId)
  | timer (handle : TimerHandle)
  | control
  deriving DecidableEq

/-- The token belongs to the instance with the given key. -/
def Token.At (control : Control) (world : World) (conversationId : String) : Token → Prop
  | .query queryId => world.strategy.inflight.get? queryId = some conversationId
  | .timer handle =>
      ∃ turn, world.timers.get? handle = some (.issueTurnNowSafely conversationId turn)
  | .control => control = .holding conversationId ∨ ∃ turn, control = .due conversationId turn

structure Staged (config : AgenticConfig) (control : Control) (world : World) : Prop where
  drawn : world.strategy.baseConvs = config.metadata.baseConvs ∧
    ∀ order, world.strategy.conversationOrder = some order →
      order = SampleOrder.afterDraws config.rngSampleIndex config.metadata.baseConvs.length
        world.strategy.startedTrajectoryCount
  entered : ∀ conversationId, (world.manager.get? conversationId).isSome →
    ∃ number < world.strategy.startedTrajectoryCount, ∃ started,
      config.instanceAt? number = some started ∧ started.logicalId = conversationId
  exclusive : ∀ conversationId first second,
    Token.At control world conversationId first →
      Token.At control world conversationId second → first = second
  seated : ∀ conversationId token, Token.At control world conversationId token →
    (world.strategy.activeIters.get? conversationId).isSome ∨
      (world.strategy.stopping = true ∧ ∃ queryId, token = .query queryId)
  due : ∀ conversationId turn,
    ((∃ handle, world.timers.get? handle =
        some (.issueTurnNowSafely conversationId turn)) ∨
      control = .due conversationId turn) →
    ∃ state, world.strategy.activeIters.get? conversationId = some state ∧
      state.turns[state.cursor]? = some turn
  stopped : world.strategy.stopping = true →
    ∀ conversationId, world.strategy.activeIters.get? conversationId = none
  dropped : ∀ conversationId remaining, control = .aborting conversationId remaining →
    world.strategy.activeIters.get? conversationId = none
  timeouts : ∀ handle queryId conversationId,
    world.timers.get? handle = some (.handleTimeout queryId conversationId) →
      world.strategy.timeoutHandles.get? queryId = some handle ∧ queryId < world.nextUuid ∧
        ∀ waitingId, world.strategy.inflight.get? queryId = some waitingId →
          waitingId = conversationId
  delayed : ∀ handle conversationId turn,
    world.timers.get? handle = some (.issueTurnNowSafely conversationId turn) →
      world.strategy.delayHandles.get? conversationId = some handle

namespace Staged

variable {first second : World} {before after : Control} {conversationId : String}

/-- Tokens that are passed on stay exclusive. -/
theorem exclusive_pass (staged : Staged config before first) (pass : Equiv.Perm Token)
    (passed : ∀ conversationId token, Token.At after second conversationId token →
      Token.At before first conversationId (pass token)) :
    ∀ conversationId one other, Token.At after second conversationId one →
      Token.At after second conversationId other → one = other := by
  intro conversationId one other oneAt otherAt
  exact pass.injective (staged.exclusive conversationId _ _
    (passed conversationId one oneAt) (passed conversationId other otherAt))

/-- Whoever holds a token while issuing goes on is active. -/
theorem active (staged : Staged config before first)
    (issuing : first.strategy.stopping = false) {conversationId : String} {token : Token}
    (here : Token.At before first conversationId token) :
    ∃ state, first.strategy.activeIters.get? conversationId = some state := by
  rcases staged.seated conversationId token here with active | ⟨stopping, _⟩
  · exact Option.isSome_iff_exists.mp active
  · rw [issuing] at stopping
    simp at stopping

/-- The running callback and the timers go on only while issuing goes on. -/
theorem issuing (staged : Staged config before first) {conversationId : String}
    {token : Token} (here : Token.At before first conversationId token)
    (notQuery : ∀ queryId, token ≠ .query queryId) : first.strategy.stopping = false := by
  rcases staged.seated conversationId token here with active | ⟨_, queryId, same⟩
  · cases stopping : first.strategy.stopping with
    | false => rfl
    | true => simp [staged.stopped stopping conversationId] at active
  · exact absurd same (notQuery queryId)

/-- A step that touches neither the instances nor their timers. -/
theorem same (staged : Staged config before first)
    (inflight : second.strategy.inflight = first.strategy.inflight)
    (active : second.strategy.activeIters = first.strategy.activeIters)
    (handles : second.strategy.timeoutHandles = first.strategy.timeoutHandles ∧
      ∀ handle conversationId turn, first.timers.get? handle =
          some (.issueTurnNowSafely conversationId turn) →
        second.strategy.delayHandles.get? conversationId =
          first.strategy.delayHandles.get? conversationId)
    (order : second.strategy.baseConvs = first.strategy.baseConvs ∧
      second.strategy.conversationOrder = first.strategy.conversationOrder ∧
      second.strategy.startedTrajectoryCount = first.strategy.startedTrajectoryCount)
    (stopping : second.strategy.stopping = first.strategy.stopping)
    (timers : second.timers = first.timers)
    (managers : ∀ conversationId, (second.manager.get? conversationId).isSome =
      (first.manager.get? conversationId).isSome)
    (nextUuid : first.nextUuid ≤ second.nextUuid)
    (holding : ∀ conversationId, Token.At after second conversationId .control →
      Token.At before first conversationId .control)
    (due : ∀ conversationId turn, after = .due conversationId turn →
      ∃ state, first.strategy.activeIters.get? conversationId = some state ∧
        state.turns[state.cursor]? = some turn)
    (dropped : ∀ conversationId remaining, after = .aborting conversationId remaining →
      first.strategy.activeIters.get? conversationId = none) :
    Staged config after second := by
  have passed : ∀ conversationId token, Token.At after second conversationId token →
      Token.At before first conversationId token := by
    intro conversationId token here
    cases token with
    | query queryId => simpa [Token.At, inflight] using here
    | timer handle => simpa [Token.At, timers] using here
    | control => exact holding conversationId here
  refine ⟨?_, ?_, staged.exclusive_pass (Equiv.refl _) passed, ?_, ?_, ?_, ?_, ?_, ?_⟩
  · rw [order.1, order.2.1, order.2.2]
    exact staged.drawn
  · intro conversationId known
    rw [managers] at known
    rw [order.2.2]
    exact staged.entered conversationId known
  · intro conversationId token here
    rw [active, stopping]
    exact staged.seated conversationId token (passed conversationId token here)
  · intro conversationId turn place
    rw [active]
    rcases place with scheduled | equal
    · rw [timers] at scheduled
      exact staged.due conversationId turn (Or.inl scheduled)
    · exact due conversationId turn equal
  · rw [stopping, active]
    exact staged.stopped
  · rw [active]
    exact dropped
  · intro handle queryId conversationId scheduled
    rw [timers] at scheduled
    rw [handles.1, inflight]
    obtain ⟨registered, drawn, unique⟩ :=
      staged.timeouts handle queryId conversationId scheduled
    exact ⟨registered, Nat.lt_of_lt_of_le drawn nextUuid, unique⟩
  · intro handle conversationId turn scheduled
    rw [timers] at scheduled
    rw [handles.2 handle conversationId turn scheduled]
    exact staged.delayed handle conversationId turn scheduled

/-- A query was answered or timed out: its token vanishes or passes to the running
callback. -/
theorem settles (staged : Staged config .idle first) {queryId : QueryId}
    {conversationId : String}
    (waiting : first.strategy.inflight.get? queryId = some conversationId)
    (strategy : second.strategy = { first.strategy with
      inflight := first.strategy.inflight.erase queryId
      timeoutHandles := first.strategy.timeoutHandles.erase queryId })
    (timers : TimersShrink first second)
    (cancelled : ∀ handle waitingId,
      second.timers.get? handle ≠ some (.handleTimeout queryId waitingId))
    (managers : ∀ other, (second.manager.get? other).isSome =
      (first.manager.get? other).isSome)
    (nextUuid : first.nextUuid ≤ second.nextUuid)
    (control : after = .holding conversationId ∧ first.strategy.stopping = false ∨
      after = .idle ∨ after = .filling) :
    Staged config after second := by
  have shrinks : ∀ other one, second.strategy.inflight.get? one = some other →
      one ≠ queryId ∧ first.strategy.inflight.get? one = some other := by
    intro other one found
    rw [strategy] at found
    dsimp only at found
    rw [OrderedDict.get?_erase] at found
    split at found
    · simp at found
    · rename_i different
      exact ⟨different, found⟩
  have passed : ∀ other token, Token.At after second other token →
      Token.At .idle first other (Equiv.swap (.query queryId) .control token) := by
    intro other token here
    cases token with
    | query one =>
        obtain ⟨different, found⟩ := shrinks other one here
        rw [Equiv.swap_apply_of_ne_of_ne (by simp [different]) (by simp)]
        exact found
    | timer handle =>
        obtain ⟨turn, found⟩ := here
        rw [Equiv.swap_apply_of_ne_of_ne (by simp) (by simp)]
        exact ⟨turn, timers handle _ found⟩
    | control =>
        rw [Equiv.swap_apply_right]
        rcases control with ⟨rfl, _⟩ | rfl | rfl
        · rcases here with same | ⟨turn, same⟩
          · obtain rfl : conversationId = other := by simpa using same
            exact waiting
          · simp at same
        · simp [Token.At] at here
        · simp [Token.At] at here
  have notDue : ∀ other turn, after ≠ .due other turn := by
    rintro other turn rfl
    simp at control
  refine ⟨?_, ?_, staged.exclusive_pass _ passed, ?_, ?_, ?_, ?_, ?_, ?_⟩
  · rw [strategy]
    exact staged.drawn
  · intro other known
    rw [managers] at known
    rw [strategy]
    exact staged.entered other known
  · intro other token here
    have seat := staged.seated other _ (passed other token here)
    rw [strategy]
    rcases seat with active | ⟨stopping, one, same⟩
    · exact Or.inl active
    · refine Or.inr ⟨stopping, ?_⟩
      cases token with
      | query other => exact ⟨other, rfl⟩
      | timer handle =>
          rw [Equiv.swap_apply_of_ne_of_ne (by simp) (by simp)] at same
          simp at same
      | control =>
          rcases control with ⟨_, issuing⟩ | rfl | rfl
          · simp [issuing] at stopping
          · simp [Token.At] at here
          · simp [Token.At] at here
  · intro other turn place
    rw [strategy]
    rcases place with ⟨handle, scheduled⟩ | equal
    · exact staged.due other turn (Or.inl ⟨handle, timers handle _ scheduled⟩)
    · exact absurd equal (notDue other turn)
  · rw [strategy]
    exact staged.stopped
  · rintro other remaining rfl
    simp at control
  · intro handle one other scheduled
    have different : one ≠ queryId := by
      rintro rfl
      exact cancelled handle other scheduled
    obtain ⟨registered, drawn, unique⟩ :=
      staged.timeouts handle one other (timers handle _ scheduled)
    refine ⟨?_, Nat.lt_of_lt_of_le drawn nextUuid, ?_⟩
    · rw [strategy]
      exact (OrderedDict.get?_erase_of_ne _ different).trans registered
    · intro waitingId found
      exact unique waitingId (shrinks waitingId one found).2
  · intro handle other turn scheduled
    rw [strategy]
    exact staged.delayed handle other turn (timers handle _ scheduled)

/-- An instance leaves: it is not active any more and holds no token. -/
theorem leaves (staged : Staged config before first) (conversationId : String)
    (strategy : second.strategy.inflight = first.strategy.inflight ∧
      second.strategy.timeoutHandles = first.strategy.timeoutHandles ∧
      second.strategy.stopping = first.strategy.stopping ∧
      second.strategy.activeIters = first.strategy.activeIters.erase conversationId)
    (order : second.strategy.baseConvs = first.strategy.baseConvs ∧
      second.strategy.conversationOrder = first.strategy.conversationOrder ∧
      second.strategy.startedTrajectoryCount = first.strategy.startedTrajectoryCount)
    (timers : TimersShrink first second)
    (handles : ∀ other, other ≠ conversationId →
      second.strategy.delayHandles.get? other = first.strategy.delayHandles.get? other)
    (managers : ∀ other, (second.manager.get? other).isSome =
      (first.manager.get? other).isSome)
    (nextUuid : second.nextUuid = first.nextUuid)
    (gone : ∀ token, Token.At after second conversationId token →
      first.strategy.stopping = true ∧ ∃ queryId, token = .query queryId)
    (control : (∃ remaining, after = .aborting conversationId remaining) ∨ after = .filling) :
    Staged config after second := by
  have noControl : ∀ other, ¬ Token.At after second other .control := by
    rintro other here
    rcases control with ⟨remaining, rfl⟩ | rfl
    · simp [Token.At] at here
    · simp [Token.At] at here
  have passed : ∀ other token, Token.At after second other token →
      Token.At before first other token := by
    intro other token here
    cases token with
    | query one => simpa [Token.At, strategy.1] using here
    | timer handle =>
        obtain ⟨turn, found⟩ := here
        exact ⟨turn, timers handle _ found⟩
    | control => exact absurd here (noControl other)
  have stays : ∀ other, other ≠ conversationId →
      second.strategy.activeIters.get? other = first.strategy.activeIters.get? other := by
    intro other different
    rw [strategy.2.2.2]
    exact OrderedDict.get?_erase_of_ne _ different
  have notTimer : ∀ handle turn, second.timers.get? handle ≠
      some (.issueTurnNowSafely conversationId turn) := by
    intro handle turn found
    obtain ⟨_, queryId, same⟩ := gone (.timer handle) ⟨turn, found⟩
    simp at same
  refine ⟨?_, ?_, staged.exclusive_pass (Equiv.refl _) passed, ?_, ?_, ?_, ?_, ?_, ?_⟩
  · rw [order.1, order.2.1, order.2.2]
    exact staged.drawn
  · intro other known
    rw [managers] at known
    rw [order.2.2]
    exact staged.entered other known
  · intro other token here
    rw [strategy.2.2.1]
    by_cases same : other = conversationId
    · subst same
      exact Or.inr (gone token here)
    · rw [stays other same]
      exact staged.seated other token (passed other token here)
  · intro other turn place
    rcases place with ⟨handle, scheduled⟩ | equal
    · have different : other ≠ conversationId := by
        rintro rfl
        exact notTimer handle turn scheduled
      rw [stays other different]
      exact staged.due other turn (Or.inl ⟨handle, timers handle _ scheduled⟩)
    · subst equal
      simp at control
  · intro stopping other
    rw [strategy.2.2.1] at stopping
    rw [strategy.2.2.2, OrderedDict.get?_erase, staged.stopped stopping other]
    simp
  · intro other remaining equal
    rcases control with ⟨_, aborting⟩ | filling
    · obtain ⟨rfl, _⟩ : conversationId = other ∧ _ := by simpa [aborting] using equal
      rw [strategy.2.2.2]
      exact OrderedDict.get?_erase_self _ _
    · simp [filling] at equal
  · intro handle one other scheduled
    rw [strategy.1, strategy.2.1, nextUuid]
    exact staged.timeouts handle one other (timers handle _ scheduled)
  · intro handle other turn scheduled
    have different : other ≠ conversationId := by
      rintro rfl
      exact notTimer handle turn scheduled
    rw [handles other different]
    exact staged.delayed handle other turn (timers handle _ scheduled)

/-- `_request_stop_issuing`: nothing is active or delayed any more. -/
theorem stops (staged : Staged config before first) :
    Staged config .filling first.stopIssuing := by
  have shrinks := timersShrink_stopIssuing first
  have noTimer : ∀ handle other turn, first.stopIssuing.timers.get? handle ≠
      some (.issueTurnNowSafely other turn) := by
    intro handle other turn found
    have registered := staged.delayed handle other turn (shrinks handle _ found)
    rw [stopIssuing, cancelTimers_eq] at found
    dsimp only at found
    rw [OrderedDict.get?_foldl_erase,
      if_pos (OrderedDict.mem_values_iff.mpr ⟨other, registered⟩)] at found
    simp at found
  rw [stopIssuing, cancelTimers_eq] at shrinks noTimer ⊢
  refine ⟨staged.drawn, staged.entered, ?_, ?_, ?_, fun _ _ => rfl, (by simp), ?_, ?_⟩
  · refine staged.exclusive_pass (Equiv.refl _) fun other token here => ?_
    cases token with
    | query one => exact here
    | timer handle =>
        obtain ⟨turn, found⟩ := here
        exact absurd found (noTimer handle other turn)
    | control => simp [Token.At] at here
  · intro other token here
    refine Or.inr ⟨rfl, ?_⟩
    cases token with
    | query one => exact ⟨one, rfl⟩
    | timer handle =>
        obtain ⟨turn, found⟩ := here
        exact absurd found (noTimer handle other turn)
    | control => simp [Token.At] at here
  · intro other turn place
    rcases place with ⟨handle, found⟩ | equal
    · exact absurd found (noTimer handle other turn)
    · simp at equal
  · intro handle one other scheduled
    exact staged.timeouts handle one other (shrinks handle _ scheduled)
  · intro handle other turn found
    exact absurd found (noTimer handle other turn)

/-- A delayed turn becomes due when its timer fires. -/
theorem elapses (staged : Staged config .idle first) {handle : TimerHandle}
    {conversationId : String} {turn : ConversationTurn}
    (scheduled : first.timers.get? handle = some (.issueTurnNowSafely conversationId turn)) :
    Staged config (.due conversationId turn) (first.cancelTimer handle) := by
  have shrinks : ∀ other callback, (first.timers.erase handle).get? other = some callback →
      other ≠ handle ∧ first.timers.get? other = some callback := by
    intro other callback found
    rw [OrderedDict.get?_erase] at found
    split at found
    · simp at found
    · rename_i different
      exact ⟨different, found⟩
  have fired : Token.At .idle first conversationId (.timer handle) := ⟨turn, scheduled⟩
  have passed : ∀ other token,
      Token.At (.due conversationId turn) (first.cancelTimer handle) other token →
        Token.At .idle first other (Equiv.swap (.timer handle) .control token) := by
    intro other token here
    cases token with
    | query one =>
        rw [Equiv.swap_apply_of_ne_of_ne (by simp) (by simp)]
        exact here
    | timer one =>
        obtain ⟨next, found⟩ := here
        obtain ⟨different, before⟩ := shrinks one _ found
        rw [Equiv.swap_apply_of_ne_of_ne (by simp [different]) (by simp)]
        exact ⟨next, before⟩
    | control =>
        rw [Equiv.swap_apply_right]
        obtain rfl : conversationId = other := by
          rcases here with same | ⟨next, same⟩
          · simp at same
          · exact (Control.due.injEq .. ▸ same).1
        exact fired
  refine ⟨staged.drawn, staged.entered, staged.exclusive_pass _ passed, ?_, ?_,
    staged.stopped, (by simp), ?_, ?_⟩
  · intro other token here
    rcases staged.seated other _ (passed other token here) with active | ⟨stopping, one, same⟩
    · exact Or.inl active
    · have issuing := staged.issuing fired (by simp)
      exact absurd (issuing.symm.trans stopping) (by simp)
  · intro other next place
    rcases place with ⟨one, found⟩ | equal
    · exact staged.due other next (Or.inl ⟨one, (shrinks one _ found).2⟩)
    · obtain ⟨rfl, rfl⟩ : conversationId = other ∧ turn = next := by simpa using equal
      exact staged.due conversationId turn (Or.inl ⟨handle, scheduled⟩)
  · intro one queryId other found
    exact staged.timeouts one queryId other (shrinks one _ found).2
  · intro one other next found
    exact staged.delayed one other next (shrinks one _ found).2

/-- A turn that has to wait gets a timer. -/
theorem delays (staged : Staged config (.holding conversationId) first)
    {state : ActiveConversation} {turn : ConversationTurn}
    (active : first.strategy.activeIters.get? conversationId = some state)
    (next : state.turns[state.cursor]? = some turn) :
    Staged config .idle (first.scheduleDelayedTurn conversationId turn) := by
  have held : Token.At (.holding conversationId) first conversationId .control := Or.inl rfl
  have inserted : ∀ handle callback,
      (first.timers.insert first.nextTimer
        (.issueTurnNowSafely conversationId turn)).get? handle = some callback →
      (handle = first.nextTimer ∧ callback = .issueTurnNowSafely conversationId turn) ∨
        (handle ≠ first.nextTimer ∧ first.timers.get? handle = some callback) := by
    intro handle callback found
    rw [OrderedDict.get?_insert] at found
    split at found
    · rename_i same
      exact Or.inl ⟨same, (Option.some.inj found).symm⟩
    · rename_i different
      exact Or.inr ⟨different, found⟩
  have passed : ∀ other token,
      Token.At .idle (first.scheduleDelayedTurn conversationId turn) other token →
        Token.At (.holding conversationId) first other
          (Equiv.swap .control (.timer first.nextTimer) token) := by
    intro other token here
    cases token with
    | query one =>
        rw [Equiv.swap_apply_of_ne_of_ne (by simp) (by simp)]
        exact here
    | timer handle =>
        obtain ⟨later, found⟩ := here
        rcases inserted handle _ found with ⟨rfl, same⟩ | ⟨different, before⟩
        · obtain ⟨rfl, _⟩ : other = conversationId ∧ later = turn := by simpa using same
          rw [Equiv.swap_apply_right]
          exact held
        · rw [Equiv.swap_apply_of_ne_of_ne (by simp) (by simp [different])]
          exact ⟨later, before⟩
    | control => simp [Token.At] at here
  have alone : ∀ handle later, first.timers.get? handle ≠
      some (.issueTurnNowSafely conversationId later) := by
    intro handle later found
    have same := staged.exclusive conversationId (.timer handle) .control ⟨later, found⟩ held
    simp at same
  refine ⟨staged.drawn, staged.entered, staged.exclusive_pass _ passed, ?_, ?_,
    staged.stopped, (by simp), ?_, ?_⟩
  · intro other token here
    rcases staged.seated other _ (passed other token here) with present | ⟨stopping, _⟩
    · exact Or.inl present
    · have issuing := staged.issuing held (by simp)
      exact absurd (issuing.symm.trans stopping) (by simp)
  · intro other later place
    rcases place with ⟨handle, found⟩ | equal
    · rcases inserted handle _ found with ⟨_, same⟩ | ⟨_, before⟩
      · obtain ⟨rfl, rfl⟩ : other = conversationId ∧ later = turn := by simpa using same
        exact ⟨state, active, next⟩
      · exact staged.due other later (Or.inl ⟨handle, before⟩)
    · simp at equal
  · intro handle queryId other found
    rcases inserted handle _ found with ⟨_, same⟩ | ⟨_, before⟩
    · simp at same
    · exact staged.timeouts handle queryId other before
  · intro handle other later found
    rcases inserted handle _ found with ⟨rfl, same⟩ | ⟨_, before⟩
    · obtain ⟨rfl, _⟩ : other = conversationId ∧ later = turn := by simpa using same
      exact OrderedDict.get?_insert_self _ _ _
    · have different : other ≠ conversationId := by
        rintro rfl
        exact alone handle later before
      exact (OrderedDict.get?_insert_of_ne _ _ different).trans
        (staged.delayed handle other later before)

/-- A turn is issued: its query stands for the instance. -/
theorem issues {turn : ConversationTurn} (staged : Staged config (.due conversationId turn) first)
    {state : ActiveConversation} {query : Query} (prompt : PromptData)
    (fresh : query.id = first.nextUuid) :
    Staged config .idle (((first.popDelayHandle conversationId).afterIssued query prompt
      turn.sampleIndex conversationId (some turn.turn)).bookTurn query.id conversationId
        state) := by
  have held : Token.At (.due conversationId turn) first conversationId .control :=
    Or.inr ⟨turn, rfl⟩
  have issuing := staged.issuing held (by simp)
  have alone : ∀ handle later, first.timers.get? handle ≠
      some (.issueTurnNowSafely conversationId later) := by
    intro handle later found
    have same := staged.exclusive conversationId (.timer handle) .control ⟨later, found⟩ held
    simp at same
  have booked : ∀ one other,
      (first.strategy.inflight.insert query.id conversationId).get? one = some other →
      (one = query.id ∧ other = conversationId) ∨
        (one ≠ query.id ∧ first.strategy.inflight.get? one = some other) := by
    intro one other found
    rw [OrderedDict.get?_insert] at found
    split at found
    · rename_i same
      exact Or.inl ⟨same, (Option.some.inj found).symm⟩
    · rename_i different
      exact Or.inr ⟨different, found⟩
  have inserted : ∀ handle callback,
      (first.timers.insert first.nextTimer
        (.handleTimeout query.id conversationId)).get? handle = some callback →
      (handle = first.nextTimer ∧ callback = .handleTimeout query.id conversationId) ∨
        (handle ≠ first.nextTimer ∧ first.timers.get? handle = some callback) := by
    intro handle callback found
    rw [OrderedDict.get?_insert] at found
    split at found
    · rename_i same
      exact Or.inl ⟨same, (Option.some.inj found).symm⟩
    · rename_i different
      exact Or.inr ⟨different, found⟩
  have passed : ∀ other token,
      Token.At .idle (((first.popDelayHandle conversationId).afterIssued query prompt
        turn.sampleIndex conversationId (some turn.turn)).bookTurn query.id conversationId
          state) other token →
      Token.At (.due conversationId turn) first other
        (Equiv.swap .control (.query query.id) token) := by
    intro other token here
    cases token with
    | query one =>
        rcases booked one other here with ⟨rfl, rfl⟩ | ⟨different, before⟩
        · rw [Equiv.swap_apply_right]
          exact held
        · rw [Equiv.swap_apply_of_ne_of_ne (by simp) (by simp [different])]
          exact before
    | timer handle =>
        obtain ⟨later, found⟩ := here
        rw [Equiv.swap_apply_of_ne_of_ne (by simp) (by simp)]
        rcases inserted handle _ found with ⟨_, same⟩ | ⟨_, before⟩
        · simp at same
        · exact ⟨later, before⟩
    | control => simp [Token.At] at here
  have activeAfter : ∀ other, other ≠ conversationId →
      (first.strategy.activeIters.insert conversationId
        { state with cursor := state.cursor + 1 }).get? other =
          first.strategy.activeIters.get? other :=
    fun other different => OrderedDict.get?_insert_of_ne _ _ different
  refine ⟨staged.drawn, staged.entered, staged.exclusive_pass _ passed, ?_, ?_, ?_, (by simp),
    ?_, ?_⟩
  · intro other token here
    left
    change ((first.strategy.activeIters.insert conversationId
      { state with cursor := state.cursor + 1 }).get? other).isSome
    by_cases same : other = conversationId
    · subst same
      simp
    · rw [activeAfter other same]
      rcases staged.seated other _ (passed other token here) with present | ⟨stopping, _⟩
      · exact present
      · exact absurd (issuing.symm.trans stopping) (by simp)
  · intro other later place
    rcases place with ⟨handle, found⟩ | equal
    · rcases inserted handle _ found with ⟨_, same⟩ | ⟨_, before⟩
      · simp at same
      · have different : other ≠ conversationId := by
          rintro rfl
          exact alone handle later before
        obtain ⟨one, present, due⟩ := staged.due other later (Or.inl ⟨handle, before⟩)
        exact ⟨one, (activeAfter other different).trans present, due⟩
    · simp at equal
  · intro stopping
    exact absurd (issuing.symm.trans stopping) (by simp)
  · intro handle one other found
    rcases inserted handle _ found with ⟨rfl, same⟩ | ⟨_, before⟩
    · obtain ⟨rfl, rfl⟩ : one = query.id ∧ other = conversationId := by simpa using same
      refine ⟨OrderedDict.get?_insert_self _ _ _, ?_, ?_⟩
      · rw [fresh]
        exact Nat.lt_succ_self _
      · intro waitingId waits
        rcases booked query.id waitingId waits with ⟨_, equal⟩ | ⟨different, _⟩
        · exact equal
        · exact absurd rfl different
    · obtain ⟨registered, drawn, unique⟩ := staged.timeouts handle one other before
      have different : one ≠ query.id := by
        rintro rfl
        exact Nat.lt_irrefl _ (fresh ▸ drawn)
      refine ⟨(OrderedDict.get?_insert_of_ne _ _ different).trans registered,
        Nat.lt_succ_of_lt drawn, ?_⟩
      intro waitingId waits
      rcases booked one waitingId waits with ⟨equal, _⟩ | ⟨_, waited⟩
      · exact absurd equal different
      · exact unique waitingId waited
  · intro handle other later found
    rcases inserted handle _ found with ⟨_, same⟩ | ⟨_, before⟩
    · simp at same
    · have different : other ≠ conversationId := by
        rintro rfl
        exact alone handle later before
      exact (OrderedDict.get?_erase_of_ne _ different).trans
        (staged.delayed handle other later before)

theorem getOrCreate_known {manager : ConversationManager} {conversationId other : String}
    {expected : Option Nat}
    (known : ((manager.getOrCreate conversationId expected).get? other).isSome) :
    (manager.get? other).isSome ∨ other = conversationId := by
  unfold ConversationManager.getOrCreate at known
  split at known
  · exact Or.inl known
  · rw [OrderedDict.get?_insert] at known
    split at known
    · rename_i same
      exact Or.inr same
    · exact Or.inl known

/-- The next instance is the one with the next number, and its key is new. -/
theorem draws (plain : config.PlainIds) (staged : Staged config before first)
    {drawn : World} {started : ConversationInstance}
    (draw : first.nextConversationInstance config = some (some (started, drawn))) :
    config.instanceAt? first.strategy.startedTrajectoryCount = some started ∧
      first.manager.get? started.logicalId = none ∧
      drawn = first.countStarted (SampleOrder.afterDraws config.rngSampleIndex
        config.metadata.baseConvs.length (first.strategy.startedTrajectoryCount + 1)) := by
  obtain ⟨more, order, base, ordered, found, rfl, rfl⟩ :=
    nextConversationInstance_eq_some draw
  obtain ⟨sameConvs, orders⟩ := staged.drawn
  obtain rfl := orders order ordered
  have positive : 0 < config.metadata.baseConvs.length := by
    rw [← sameConvs]
    exact List.length_pos_of_mem (List.mem_of_getElem? found)
  have next := SampleOrder.nextSampleIndex_afterDraws positive config.rngSampleIndex
    first.strategy.startedTrajectoryCount
  have instance_ : config.instanceAt? first.strategy.startedTrajectoryCount =
      some (makeInstance first.strategy.baseConvs.length
        first.strategy.startedTrajectoryCount base) := by
    rw [next, sameConvs] at found
    rw [AgenticConfig.instanceAt?, sameConvs]
    dsimp only at found ⊢
    rw [found]
    rfl
  refine ⟨instance_, ?_, by rw [next]⟩
  cases there : first.manager.get? (makeInstance first.strategy.baseConvs.length
      first.strategy.startedTrajectoryCount base).logicalId with
  | none => rfl
  | some state =>
      obtain ⟨number, below, other, is, same⟩ := staged.entered _ (by rw [there]; rfl)
      have equal := instanceAt?_injective plain is instance_ same
      omega

/-- The next instance enters under a key that nothing uses yet. -/
theorem enters (plain : config.PlainIds) (staged : Staged config .filling first)
    (known : Known .filling first) (issuing : first.strategy.stopping = false)
    {drawn : World} {started : ConversationInstance}
    (draw : first.nextConversationInstance config = some (some (started, drawn))) :
    Staged config (.holding started.logicalId) (drawn.enterInstance started) := by
  obtain ⟨instance_, unknown, rfl⟩ := staged.draws plain draw
  obtain ⟨sameConvs, orders⟩ := staged.drawn
  have inactive : first.strategy.activeIters.get? started.logicalId = none := by
    cases there : first.strategy.activeIters.get? started.logicalId with
    | none => rfl
    | some state =>
        have found := known.active started.logicalId (by simp [there])
        simp [unknown] at found
  have unused : ∀ token, ¬ Token.At .filling first started.logicalId token := by
    intro token here
    cases token with
    | query one =>
        have found := known.waiting one started.logicalId here
        simp [unknown] at found
    | timer handle =>
        rcases staged.seated _ _ here with active | ⟨_, one, same⟩
        · simp [inactive] at active
        · simp at same
    | control => simp [Token.At] at here
  have activeAfter : ∀ other, other ≠ started.logicalId →
      ((first.countStarted (SampleOrder.afterDraws config.rngSampleIndex
        config.metadata.baseConvs.length
          (first.strategy.startedTrajectoryCount + 1))).enterInstance
            started).strategy.activeIters.get? other =
        first.strategy.activeIters.get? other :=
    fun other different => OrderedDict.get?_insert_of_ne _ _ different
  refine ⟨⟨sameConvs, ?_⟩, ?_, ?_, ?_, ?_, ?_, (by simp), staged.timeouts, staged.delayed⟩
  · rintro _ ⟨⟩
    rfl
  · intro other present
    rcases getOrCreate_known present with old | rfl
    · obtain ⟨number, below, is⟩ := staged.entered other old
      exact ⟨number, Nat.lt_succ_of_lt below, is⟩
    · exact ⟨first.strategy.startedTrajectoryCount, Nat.lt_succ_self _, started, instance_, rfl⟩
  · intro other one two oneAt twoAt
    by_cases same : other = started.logicalId
    · subst same
      have only : ∀ token, Token.At (.holding started.logicalId)
          ((first.countStarted (SampleOrder.afterDraws config.rngSampleIndex
            config.metadata.baseConvs.length
              first.strategy.startedTrajectoryCount).nextSampleIndex.2).enterInstance
                started) started.logicalId token → token = .control := by
        intro token here
        cases token with
        | query one => exact absurd here (unused (.query one))
        | timer handle => exact absurd here (unused (.timer handle))
        | control => rfl
      rw [only one oneAt, only two twoAt]
    · have before : ∀ token, Token.At (.holding started.logicalId)
          ((first.countStarted (SampleOrder.afterDraws config.rngSampleIndex
            config.metadata.baseConvs.length
              first.strategy.startedTrajectoryCount).nextSampleIndex.2).enterInstance
                started) other token → Token.At .filling first other token := by
        intro token here
        cases token with
        | query one => exact here
        | timer handle => exact here
        | control =>
            rcases here with equal | ⟨turn, equal⟩
            · exact absurd (Control.holding.inj equal).symm same
            · simp at equal
      exact staged.exclusive other one two (before one oneAt) (before two twoAt)
  · intro other token here
    left
    by_cases same : other = started.logicalId
    · subst same
      exact Option.isSome_iff_exists.mpr ⟨_, OrderedDict.get?_insert_self _ _ _⟩
    · rw [activeAfter other same]
      have before : Token.At .filling first other token := by
        cases token with
        | query one => exact here
        | timer handle => exact here
        | control =>
            rcases here with equal | ⟨turn, equal⟩
            · exact absurd (Control.holding.inj equal).symm same
            · simp at equal
      rcases staged.seated other token before with active | ⟨stopping, _⟩
      · exact active
      · exact absurd (issuing.symm.trans stopping) (by simp)
  · intro other turn place
    rcases place with ⟨handle, scheduled⟩ | equal
    · have different : other ≠ started.logicalId := by
        rintro rfl
        exact unused (.timer handle) ⟨turn, scheduled⟩
      obtain ⟨state, active, due⟩ := staged.due other turn (Or.inl ⟨handle, scheduled⟩)
      exact ⟨state, (activeAfter other different).trans active, due⟩
    · simp at equal
  · intro stopping
    exact absurd (issuing.symm.trans stopping) (by simp)

/-- The timeout of an answered query is cancelled. -/
theorem acceptResult_cancels (staged : Staged config .idle first) (result : QueryResult)
    (handle : TimerHandle) (waitingId : String) :
    (first.acceptResult result).timers.get? handle ≠
      some (.handleTimeout result.id waitingId) := by
  intro found
  obtain ⟨registered, _, _⟩ := staged.timeouts handle result.id waitingId
    (timersShrink_acceptResult first result handle _ found)
  unfold acceptResult popTimeoutHandle at found
  have announced : ((((first.observe (.received result)).announceResult
      result).markInflightComplete).popInflight result.id).strategy.timeoutHandles.get?
        result.id = some handle := by
    simpa [popInflight, announceResult, popConvInfo, observe] using registered
  dsimp only at found
  rw [announced] at found
  dsimp only at found
  rw [cancelTimer] at found
  dsimp only at found
  rw [OrderedDict.get?_erase_self] at found
  simp at found

/-- The timer of a query that timed out has fired. -/
theorem expireQuery_cancels (staged : Staged config .idle first) {handle : TimerHandle}
    {queryId : QueryId}
    (scheduled : first.timers.get? handle = some (.handleTimeout queryId conversationId))
    (other : TimerHandle) (waitingId : String) :
    ((first.cancelTimer handle).expireQuery queryId).timers.get? other ≠
      some (.handleTimeout queryId waitingId) := by
  intro found
  rw [expireQuery_timers] at found
  change (first.timers.erase handle).get? other = _ at found
  rw [OrderedDict.get?_erase] at found
  split at found
  · simp at found
  · rename_i different
    have registered := (staged.timeouts handle queryId conversationId scheduled).1
    have same := (staged.timeouts other queryId waitingId found).1
    exact different (Option.some.inj (same.symm.trans registered))

/-- The instance of a settled query holds no token any more. -/
theorem unheld (staged : Staged config .idle first) {queryId : QueryId}
    (waiting : first.strategy.inflight.get? queryId = some conversationId)
    (inflight : second.strategy.inflight = first.strategy.inflight.erase queryId)
    (timers : TimersShrink first second) (token : Token) :
    ¬ Token.At .idle second conversationId token := by
  intro here
  have query : Token.At .idle first conversationId (.query queryId) := waiting
  cases token with
  | query one =>
      have found : second.strategy.inflight.get? one = some conversationId := here
      rw [inflight, OrderedDict.get?_erase] at found
      split at found
      · simp at found
      · rename_i different
        have same := staged.exclusive conversationId (.query one) _ found query
        exact different (Token.query.inj same)
  | timer handle =>
      obtain ⟨turn, found⟩ := here
      have same := staged.exclusive conversationId (.timer handle) _
        ⟨turn, timers handle _ found⟩ query
      simp at same
  | control => simp [Token.At] at here

/-- The rest of a failed instance is dropped. -/
theorem drops (staged : Staged config .idle first) (conversationId : String)
    (unheld : ∀ token, ¬ Token.At .idle first conversationId token)
    (remaining : List ConversationTurn) :
    Staged config (.aborting conversationId remaining)
      (first.dropConversation conversationId) := by
  refine staged.leaves conversationId ?_ ?_ (timersShrink_dropConversation _ _) ?_ ?_
    (dropConversation_nextUuid _ _) ?_ (Or.inl ⟨remaining, rfl⟩)
  · rw [dropConversation_strategy]
    exact ⟨rfl, rfl, rfl, rfl⟩
  · rw [dropConversation_strategy]
    exact ⟨rfl, rfl, rfl⟩
  · intro other different
    rw [dropConversation_strategy]
    exact OrderedDict.get?_erase_of_ne _ different
  · intro other
    rw [dropConversation_manager]
  · intro token here
    refine absurd ?_ (unheld token)
    cases token with
    | query one =>
        have found : (first.dropConversation conversationId).strategy.inflight.get? one =
            some conversationId := here
        rw [dropConversation_strategy] at found
        exact found
    | timer handle =>
        obtain ⟨turn, found⟩ := here
        exact ⟨turn, timersShrink_dropConversation _ _ handle _ found⟩
    | control => simp [Token.At] at here

/-- An instance that was dropped before is taken off once more. -/
theorem popsDropped {remaining : List ConversationTurn}
    (staged : Staged config (.aborting conversationId remaining) first)
    (strategy : second.strategy = (first.popActive conversationId).strategy)
    (timers : second.timers = first.timers)
    (managers : ∀ other, (second.manager.get? other).isSome =
      (first.manager.get? other).isSome)
    (nextUuid : second.nextUuid = first.nextUuid) : Staged config .filling second := by
  have inactive := staged.dropped conversationId remaining rfl
  refine staged.leaves conversationId ?_ ?_ (timersShrink_of_eq timers) ?_ managers nextUuid ?_
    (Or.inr rfl)
  · rw [strategy]
    exact ⟨rfl, rfl, rfl, rfl⟩
  · rw [strategy]
    exact ⟨rfl, rfl, rfl⟩
  · intro other _
    rw [strategy]
    rfl
  · intro token here
    have before : Token.At (.aborting conversationId remaining) first conversationId token := by
      cases token with
      | query one =>
          have found : second.strategy.inflight.get? one = some conversationId := here
          rw [strategy] at found
          exact found
      | timer handle =>
          obtain ⟨turn, found⟩ := here
          exact ⟨turn, timers ▸ found⟩
      | control => simp [Token.At] at here
    rcases staged.seated conversationId token before with active | stopped
    · simp [inactive] at active
    · exact stopped

/-- The callback gives up the instance it was about to continue. -/
theorem releases (staged : Staged config before first)
    (strategy : second.strategy = (first.popDelayHandle conversationId).strategy)
    (timers : second.timers = first.timers) (manager : second.manager = first.manager)
    (nextUuid : first.nextUuid ≤ second.nextUuid)
    (held : Token.At before first conversationId .control)
    (control : after = .raising ∨ after = .filling) : Staged config after second := by
  have none_ : ∀ other, ¬ Token.At after second other .control := by
    rintro other here
    rcases control with rfl | rfl
    · simp [Token.At] at here
    · simp [Token.At] at here
  refine staged.same ?_ ?_ ⟨?_, ?_⟩ ?_ ?_ timers (fun _ => by rw [manager]) nextUuid
    (fun other here => absurd here (none_ other)) ?_ ?_
  · rw [strategy]
    rfl
  · rw [strategy]
    rfl
  · rw [strategy]
    rfl
  · intro handle other turn scheduled
    have different : other ≠ conversationId := by
      rintro rfl
      have same := staged.exclusive other (.timer handle) .control ⟨turn, scheduled⟩ held
      simp at same
    rw [strategy]
    exact OrderedDict.get?_erase_of_ne _ different
  · rw [strategy]
    exact ⟨rfl, rfl, rfl⟩
  · rw [strategy]
    rfl
  · rintro other turn rfl
    simp at control
  · rintro other remaining rfl
    simp at control

end Staged

theorem Move.staged {first second : Moment} (plain : config.PlainIds)
    (move : Move config first second) (known : Known first.control first.world)
    (staged : Staged config first.control first.world) :
    Staged config second.control second.world := by
  cases move with
  | @answered world result conversationId manager waiting _ _ _ _ marked =>
      refine staged.settles waiting ?_ (timersShrink_acceptResult world result)
        (staged.acceptResult_cancels result) ?_ ?_ ?_
      · exact acceptResult_strategy world result
      · exact ConversationManager.markTurnComplete_isSome marked
      · exact Nat.le_of_eq (acceptResult_nextUuid world result).symm
      · cases stopping : world.strategy.stopping with
        | true => exact Or.inr (Or.inr (by simp))
        | false => exact Or.inl ⟨by simp, rfl⟩
  | @rejected world result conversationId manager waiting _ _ _ _ marked =>
      have settled : Staged config .idle ((world.acceptResult result).withManager manager) := by
        refine staged.settles waiting ?_ (timersShrink_acceptResult world result)
          (staged.acceptResult_cancels result) ?_ ?_ (Or.inr (Or.inl rfl))
        · exact acceptResult_strategy world result
        · exact ConversationManager.markTurnFailed_isSome marked
        · exact Nat.le_of_eq (acceptResult_nextUuid world result).symm
      refine settled.drops conversationId ?_ _
      refine staged.unheld waiting ?_ (timersShrink_acceptResult world result)
      exact congrArg AgenticState.inflight (acceptResult_strategy world result)
  | @unroutable world result conversationId waiting _ _ _ unknown =>
      have found := known.waiting result.id conversationId waiting
      rw [unknown] at found
      simp at found
  | collected =>
      exact staged.same rfl rfl ⟨rfl, fun _ _ _ _ => rfl⟩ ⟨rfl, rfl, rfl⟩ rfl rfl
        (fun _ => rfl) (Nat.le_refl _) (fun _ => id) (by simp) (by simp)
  | @timedOut world handle queryId conversationId waitingId manager scheduled waiting
      marked =>
      obtain rfl := (staged.timeouts handle queryId conversationId scheduled).2.2 waitingId
        waiting
      generalize (if (world.issuer.uuidToIndex.get? queryId).isSome then
        world.convInfo queryId else ("", none)) = convInfo
      have timers := timedOut_timers config (world.cancelTimer handle) queryId manager convInfo
      have shrinks := (timersShrink_cancelTimer world handle).trans (timersShrink_of_eq timers)
      have strategy := timedOut_strategy config (world.cancelTimer handle) queryId manager convInfo
      have settled : Staged config .idle
          ((((world.cancelTimer handle).expireQuery queryId).withManager
            manager).recordTimeout config queryId convInfo) := by
        refine staged.settles waiting strategy shrinks ?_ ?_ ?_ (Or.inr (Or.inl rfl))
        · rw [timers, ← expireQuery_timers (world.cancelTimer handle) queryId]
          exact staged.expireQuery_cancels scheduled
        · exact ConversationManager.markTurnFailed_isSome marked
        · exact Nat.le_of_eq
            (timedOut_nextUuid config (world.cancelTimer handle) queryId manager convInfo).symm
      refine settled.drops waitingId ?_ _
      exact staged.unheld waiting (congrArg AgenticState.inflight strategy) shrinks
  | @timeoutUnroutable world handle queryId conversationId waitingId scheduled waiting
      unknown =>
      have found := known.scheduled handle queryId conversationId scheduled
      rw [unknown] at found
      simp at found
  | @expired world handle queryId conversationId scheduled settled =>
      have shrinks := timersShrink_cancelTimer world handle
      refine ⟨staged.drawn, staged.entered, ?_, ?_, ?_, staged.stopped, (by simp), ?_, ?_⟩
      · refine staged.exclusive_pass (Equiv.refl _) fun other token here => ?_
        cases token with
        | query one => exact here
        | timer one => exact here.imp fun turn found => shrinks one _ found
        | control => exact here
      · intro other token here
        refine staged.seated other token ?_
        cases token with
        | query one => exact here
        | timer one => exact here.imp fun turn found => shrinks one _ found
        | control => exact here
      · intro other turn place
        refine staged.due other turn (place.imp_left fun found => ?_)
        exact found.imp fun one there => shrinks one _ there
      · exact fun one query other found => staged.timeouts one query other (shrinks one _ found)
      · exact fun one other turn found => staged.delayed one other turn (shrinks one _ found)
  | delayElapsed scheduled => exact staged.elapses scheduled
  | @finished uncollected world conversationId state active exhausted =>
      have held : Token.At (.holding conversationId) world conversationId .control :=
        Or.inl rfl
      refine staged.leaves conversationId ⟨rfl, rfl, rfl, rfl⟩ ⟨rfl, rfl, rfl⟩
        (timersShrink_of_eq rfl) (fun _ _ => rfl) (fun _ => rfl) rfl ?_ (Or.inr rfl)
      intro token here
      cases token with
      | query one =>
          have same := staged.exclusive conversationId (.query one) _ here held
          simp at same
      | timer handle =>
          have same := staged.exclusive conversationId (.timer handle) _ here held
          simp at same
      | control => simp [Token.At] at here
  | delayed issuing active next => exact staged.delays active next
  | @becameDue uncollected world conversationId state turn active next =>
      refine staged.same rfl rfl ⟨rfl, fun _ _ _ _ => rfl⟩ ⟨rfl, rfl, rfl⟩ rfl rfl
        (fun _ => rfl) (Nat.le_refl _) ?_ ?_ (by simp)
      · rintro other (same | ⟨later, same⟩)
        · simp at same
        · obtain ⟨rfl, _⟩ : conversationId = other ∧ turn = later := by simpa using same
          exact Or.inl rfl
      · intro other later equal
        obtain ⟨rfl, rfl⟩ : conversationId = other ∧ turn = later := by simpa using equal
        exact ⟨state, active, next⟩
  | @released uncollected world conversationId gone =>
      exact staged.same rfl rfl ⟨rfl, fun _ _ _ _ => rfl⟩ ⟨rfl, rfl, rfl⟩ rfl rfl
        (fun _ => rfl) (Nat.le_refl _) (by simp [Token.At]) (by simp) (by simp)
  | @stale uncollected world conversationId turn outdated =>
      obtain ⟨state, active, next⟩ := staged.due conversationId turn (Or.inr rfl)
      rcases outdated with stopping | mismatch
      · simp [staged.stopped stopping conversationId] at active
      · exact absurd next (mismatch state active)
  | issued issuing active next permitted fresh => exact staged.issues _ fresh
  | @refused uncollected world conversationId turn state issuing active next =>
      have released : Staged config .filling
          ((world.popDelayHandle conversationId).afterStopCheck.observe
            (.refused conversationId (some turn.turn))) :=
        staged.releases rfl rfl rfl (Nat.le_refl _) (Or.inr ⟨turn, rfl⟩) (Or.inr rfl)
      exact released.stops
  | @crashed uncollected world next conversationId turn state issuing active current effects =>
      have unchanged : next.strategy = (world.popDelayHandle conversationId).strategy ∧
          next.timers = world.timers ∧ next.manager = world.manager ∧
            world.nextUuid ≤ next.nextUuid := by
        rcases effects with rfl | raised
        · exact ⟨rfl, rfl, rfl, Nat.le_refl _⟩
        · cases raised with
          | unregistered | unannounced | unsent =>
              exact ⟨rfl, rfl, rfl, Nat.le_succ world.nextUuid⟩
      obtain ⟨strategy, timers, manager, nextUuid⟩ := unchanged
      exact staged.releases strategy timers manager nextUuid (Or.inr ⟨turn, rfl⟩) (Or.inl rfl)
  | drawFailed | errorStored | completed | waits =>
      exact staged.same rfl rfl ⟨rfl, fun _ _ _ _ => rfl⟩ ⟨rfl, rfl, rfl⟩ rfl rfl
        (fun _ => rfl) (Nat.le_refl _) (by simp [Token.At]) (by simp) (by simp)
  | started issuing draw => exact staged.enters plain known issuing draw
  | @trackingStopped uncollected world =>
      have strategy := stopPerformanceTrackingOnce_strategy world
      refine staged.same ?_ ?_ ⟨?_, fun _ _ _ _ => ?_⟩ ⟨?_, ?_, ?_⟩ ?_
        (stopPerformanceTrackingOnce_timers world) ?_ ?_ (by simp [Token.At]) (by simp) (by simp)
      all_goals first
        | rw [strategy]
        | skip
      · intro other
        rw [stopPerformanceTrackingOnce_manager]
      · exact Nat.le_of_eq (sameBooks_stopPerformanceTrackingOnce world).nextUuid.symm
  | issuingStopped configured issuing => exact staged.stops
  | @skipped uncollected world conversationId reason turn turns manager marked =>
      refine staged.same rfl rfl ⟨rfl, fun _ _ _ _ => rfl⟩ ⟨rfl, rfl, rfl⟩ rfl rfl
        (ConversationManager.markTurnFailed_isSome marked) (Nat.le_succ _)
        (by simp [Token.At]) (by simp) ?_
      intro other remaining equal
      obtain ⟨rfl, _⟩ : conversationId = other ∧ _ := by simpa using equal
      exact staged.dropped conversationId _ rfl
  | @skipRefused uncollected world conversationId turn turns manager marked =>
      exact staged.popsDropped rfl rfl
        (ConversationManager.markTurnFailed_isSome marked) rfl
  | skipUnroutable =>
      exact staged.same rfl rfl ⟨rfl, fun _ _ _ _ => rfl⟩ ⟨rfl, rfl, rfl⟩ rfl rfl
        (fun _ => rfl) (Nat.le_refl _) (by simp [Token.At]) (by simp) (by simp)
  | aborted => exact staged.popsDropped rfl rfl (fun _ => rfl) rfl

end InferenceEndpoint
