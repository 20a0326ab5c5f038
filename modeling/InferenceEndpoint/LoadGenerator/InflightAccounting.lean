import InferenceEndpoint.LoadGenerator.PhaseSteps

/-!
# In-flight accounting of a phase

While a phase runs, the issuer's counter is the number of its queries without
a result, and `_drain_inflight` returns early only when the session was
stopped.  The second part needs that nothing is issued during the drain: a
cancelled strategy is refused by the stop check, and one that returned has
nothing left to issue.
-/

namespace InferenceEndpoint

variable {config : AgenticConfig}

open World

/-! ## The ledger of a phase -/

/-- A query sent through another issuer does not concern the books. -/
theorem Ledger.strays {first second : World} (ledger : Ledger none first)
    (waiting : second.strategy.inflight = first.strategy.inflight)
    (issuer : second.issuer = first.issuer)
    (nextUuid : second.nextUuid = first.nextUuid + 1)
    (sentIds : second.sentIds = first.sentIds ∨
      second.sentIds = first.sentIds ++ [first.nextUuid])
    (receivedIds : second.receivedIds = first.receivedIds)
    (collectedIds : second.collectedIds = first.collectedIds) :
    Ledger none second := by
  have sent : ∀ queryId ∈ second.sentIds,
      queryId ∈ first.sentIds ∨ queryId = first.nextUuid := by
    intro queryId member
    rcases sentIds with same | grown
    · exact Or.inl (same ▸ member)
    · rw [grown] at member
      exact (List.mem_append.mp member).imp_right List.mem_singleton.mp
  have stillSent : ∀ queryId ∈ first.sentIds, queryId ∈ second.sentIds := by
    intro queryId member
    rcases sentIds with same | grown
    · exact same ▸ member
    · rw [grown]
      exact List.mem_append.mpr (Or.inl member)
  have unresolved : second.unresolved = first.unresolved := by
    ext queryId
    simp only [World.mem_unresolved, issuer, receivedIds, collectedIds]
    constructor
    · rintro ⟨member, registered, rest⟩
      rcases sent queryId member with before | rfl
      · exact ⟨before, registered, rest⟩
      · exact absurd (ledger.registeredDrawn _ registered) (Nat.lt_irrefl _)
    · rintro ⟨member, rest⟩
      exact ⟨stillSent queryId member, rest⟩
  constructor
  · rw [waiting, issuer]; exact ledger.waitingRegistered
  · rw [waiting, issuer]; exact ledger.waitingOpen
  · rw [waiting, unresolved]; exact ledger.waitingUnresolved
  · rw [issuer, nextUuid]
    exact fun queryId registered =>
      lt_succ_of_lt (ledger.registeredDrawn queryId registered)
  · rw [nextUuid]
    intro queryId member
    rcases sent queryId member with before | rfl
    · exact lt_succ_of_lt (ledger.sentDrawn queryId before)
    · exact Nat.lt_succ_self _
  · rw [receivedIds, nextUuid]; exact lt_succ_of_mem ledger.receivedDrawn
  · rw [collectedIds, nextUuid]; exact lt_succ_of_mem ledger.collectedDrawn
  · rw [issuer, collectedIds]; exact ledger.completedCollected
  · rw [issuer, receivedIds, collectedIds]; exact ledger.registeredSettled
  · exact fun _ uncollected => by cases uncollected
  · rw [issuer, unresolved]; exact ledger.counted

/-- The strategy waits for nothing and has no timer. -/
def World.Inert (world : World) : Prop :=
  (∀ queryId, world.strategy.inflight.get? queryId = none) ∧
    ∀ handle, world.timers.get? handle = none

theorem Forgets.inert {first second : World} (forgets : Forgets first second)
    (inert : first.Inert) : second.Inert := by
  constructor
  · intro queryId
    cases waiting : second.strategy.inflight.get? queryId with
    | none => rfl
    | some conversationId =>
        have before := forgets.waiting queryId conversationId waiting
        simp [inert.1 queryId] at before
  · intro handle
    cases scheduled : second.timers.get? handle with
    | none => rfl
    | some callback =>
        have before := forgets.timers handle callback scheduled
        simp [inert.2 handle] at before

/-- A leftover callback issues through an issuer that is not the current
one. -/
theorem Ledger.leftover {state : PhaseState} (ledger : Ledger none state.world)
    (past sampleIndex : Nat) (issuer : PhaseIssuer) :
    Ledger none (state.issueLeftover past issuer sampleIndex).world := by
  rcases issue_books state.world.issuer.issuedCount
      { state.world with issuer := issuer } sampleIndex none "" none with
    same | draws | ⟨_, issues⟩
  · have books : SameBooks state.world
        (state.issueLeftover past issuer sampleIndex).world :=
      ⟨same.waiting, rfl, rfl, rfl, same.nextUuid, same.sentIds, same.receivedIds,
        same.collectedIds, same.completeIds⟩
    exact books.ledger ledger
  · exact ledger.strays draws.waiting rfl draws.nextUuid (Or.inl draws.sentIds)
      draws.receivedIds draws.collectedIds
  · have untouched := issue_untouched state.world.issuer.issuedCount
      { state.world with issuer := issuer } sampleIndex none "" none
    exact ledger.strays (congrArg AgenticState.inflight untouched.2.1) rfl
      issues.nextUuid (Or.inr issues.sentIds) issues.receivedIds issues.collectedIds

/-- The books of a phase that began with an inert strategy. -/
structure Booked (state : PhaseState) : Prop where
  ledger : Ledger none state.world
  known : Known .idle state.world
  phaseType : state.world.phaseType = state.phase.phaseType
  agentic : state.strategyIssuer = .current → state.phase.agentic = true
  inert : state.strategyIssuer ≠ .current → state.world.Inert

theorem Booked.unmeasuredNotWaiting {state : PhaseState} (booked : Booked state)
    (warmup : state.world.phaseType = .warmup) :
    ∀ queryId, state.world.strategy.inflight.get? queryId = none := by
  by_cases current : state.strategyIssuer = .current
  · have measured := state.phase.agenticMeasured (booked.agentic current)
    rw [booked.phaseType] at warmup
    exact absurd warmup measured
  · exact (booked.inert current).1

theorem executeStart_booked (config : AgenticConfig) {world : World} (ledger : Ledger none world)
    (known : Known .idle world) :
    let executed := (world.executeStart config).2
    Ledger none executed ∧ Known .idle executed ∧
      executed.sessionFields = world.sessionFields := by
  refine executeStart_rule config (fun executed =>
    Ledger none executed ∧ Known .idle executed ∧
      executed.sessionFields = world.sessionFields) ?_ ?_ world ?_
  · rintro first control second ⟨ledger, known, fields⟩ moves
    exact ⟨Ledger.moves ledger known.filling moves, (known.filling.moves moves).idle,
      moves.sessionFields.trans fields⟩
  · rintro before ⟨ledger, known, fields⟩
    have forgets := forgets_cleanUp before
    exact ⟨forgets.ledger ledger, forgets.known known, forgets.fields.trans fields⟩
  · have forgets := forgets_resetStrategy config world
    exact ⟨forgets.ledger ledger, forgets.known known, rfl⟩

theorem Booked.step {state next : PhaseState} {label : PhaseLabel}
    (booked : Booked state) (edge : state.step config label = some next) :
    Booked next := by
  cases PhaseState.step_change edge with
  | quiet phase strategyIssuer manager strategy timers phaseType _ effect =>
      exact
        { ledger := effect.ledger booked.ledger
          known := booked.known.same manager strategy timers
          phaseType := by rw [phaseType, phase]; exact booked.phaseType
          agentic := by rw [strategyIssuer, phase]; exact booked.agentic
          inert := by
            rw [strategyIssuer, Inert, strategy, timers]
            exact booked.inert }
  | cleaned phase strategyIssuer world =>
      have forgets := forgets_cleanUp state.world
      rw [← world] at forgets
      exact
        { ledger := forgets.ledger booked.ledger
          known := forgets.known booked.known
          phaseType := by rw [forgets.phaseType, phase]; exact booked.phaseType
          agentic := by rw [strategyIssuer, phase]; exact booked.agentic
          inert := by
            rw [strategyIssuer]
            exact fun elsewhere => forgets.inert (booked.inert elsewhere) }
  | executed phase agentic strategyIssuer world =>
      obtain ⟨ledger, known, fields⟩ :=
        executeStart_booked config booked.ledger booked.known
      rw [← world] at ledger known fields
      exact
        { ledger := ledger
          known := known
          phaseType := by
            rw [phase]
            exact (congrArg SessionFields.phaseType fields).trans booked.phaseType
          agentic := by rw [phase]; exact fun _ => agentic
          inert := fun elsewhere => absurd strategyIssuer elsewhere }
  | @leftover past sampleIndex issuer equal =>
      subst equal
      have untouched := issue_untouched state.world.issuer.issuedCount
        { state.world with issuer := issuer } sampleIndex none "" none
      exact
        { ledger := booked.ledger.leftover past sampleIndex issuer
          known := booked.known.same untouched.1 untouched.2.1 untouched.2.2.1
          phaseType := (congrArg SessionFields.phaseType untouched.2.2.2).trans
            booked.phaseType
          agentic := booked.agentic
          inert := by
            intro elsewhere
            have inert := booked.inert elsewhere
            refine ⟨fun queryId => ?_, fun handle => ?_⟩
            · exact (congrArg (fun strategy : AgenticState =>
                strategy.inflight.get? queryId) untouched.2.1).trans (inert.1 queryId)
            · exact (congrArg (fun timers : OrderedDict TimerHandle Callback =>
                timers.get? handle) untouched.2.2.1).trans (inert.2 handle) }
  | @delivered response deliverable equal =>
      subst equal
      rcases receive_cases config booked.ledger.inflightDrawn deliverable
        with ⟨queryId, conversationId, waiting, moves⟩ | notice
      · have current : state.strategyIssuer = .current := by
          by_contra elsewhere
          simp [(booked.inert elsewhere).1 queryId] at waiting
        exact
          { ledger := Ledger.moves booked.ledger booked.known moves
            known := booked.known.moves moves
            phaseType := (congrArg SessionFields.phaseType moves.sessionFields).trans
              booked.phaseType
            agentic := booked.agentic
            inert := fun elsewhere => absurd current elsewhere }
      · exact
          { ledger := notice.ledger booked.ledger booked.unmeasuredNotWaiting
            known := booked.known.notice notice
            phaseType := (congrArg SessionFields.phaseType notice.sessionFields).trans
              booked.phaseType
            agentic := booked.agentic
            inert := by
              intro elsewhere
              rw [Inert, notice.conversations.2.1, notice.conversations.2.2]
              exact booked.inert elsewhere }
  | fired current fires equal =>
      subst equal
      have moves := fireTimer_moves booked.ledger.inflightDrawn fires
      exact
        { ledger := Ledger.moves booked.ledger booked.known moves
          known := booked.known.moves moves
          phaseType := (congrArg SessionFields.phaseType moves.sessionFields).trans
            booked.phaseType
          agentic := booked.agentic
          inert := fun elsewhere => absurd current elsewhere }
  | @firedFormer handle issuer world former fires equal =>
      have noTimer := (booked.inert (by simp [former])).2 handle
      simp [World.fireTimer, noTimer] at fires

/-- A fresh issuer has nothing on its books. -/
theorem Ledger.freshWorld {world : World}
    (waiting : ∀ queryId, world.strategy.inflight.get? queryId = none)
    (sentDrawn : ∀ queryId ∈ world.sentIds, queryId < world.nextUuid)
    (receivedDrawn : ∀ queryId ∈ world.receivedIds, queryId < world.nextUuid)
    (collectedDrawn : ∀ queryId ∈ world.collectedIds, queryId < world.nextUuid)
    (phase : PhaseConfig) : Ledger none (PhaseState.freshWorld phase world) := by
  have history : (PhaseState.freshWorld phase world).history = world.history :=
    List.append_nil _
  have notWaiting : ∀ queryId conversationId,
      (PhaseState.freshWorld phase world).strategy.inflight.get? queryId ≠
        some conversationId := by
    intro queryId conversationId found
    have before : world.strategy.inflight.get? queryId = some conversationId := found
    simp [waiting queryId] at before
  constructor
  · exact fun queryId conversationId found => absurd found (notWaiting _ _)
  · exact fun queryId conversationId found => absurd found (notWaiting _ _)
  · exact fun queryId conversationId found => absurd found (notWaiting _ _)
  · simp [PhaseState.freshWorld]
  · rw [sentIds_congr history]; exact sentDrawn
  · rw [receivedIds_congr history]; exact receivedDrawn
  · rw [collectedIds_congr history]; exact collectedDrawn
  · simp [PhaseState.freshWorld]
  · simp [PhaseState.freshWorld]
  · exact fun _ uncollected => by cases uncollected
  · have empty : (PhaseState.freshWorld phase world).unresolved = ∅ := by
      refine Finset.eq_empty_of_forall_notMem fun queryId member => ?_
      have registered := (World.mem_unresolved.mp member).2.1
      simp [PhaseState.freshWorld] at registered
    rw [empty]
    rfl

theorem PhaseStart.inert (start : PhaseStart) : start.world.Inert := by
  refine ⟨fun queryId => ?_, fun _ => rfl⟩
  change start.strategy.inflight.get? queryId = none
  unfold PhaseStart.strategy
  cases start.former with
  | none => rfl
  | some former => exact former.cleanedUp queryId

theorem PhaseStart.known (start : PhaseStart) : Known .idle start.world := by
  refine ⟨?_, ?_, nofun, nofun⟩
  · change ∀ conversationId, (start.strategy.activeIters.get? conversationId).isSome →
      (start.manager.get? conversationId).isSome
    unfold PhaseStart.strategy PhaseStart.manager
    cases start.former with
    | none => nofun
    | some former => exact former.managed
  · intro queryId conversationId waiting
    simp [start.inert.1 queryId] at waiting

theorem PhaseStart.strategyIssuer_ne (start : PhaseStart) :
    start.strategyIssuer ≠ .current := by
  unfold PhaseStart.strategyIssuer
  cases start.former <;> simp

theorem PhaseStart.booked (start : PhaseStart) : Booked start.state := by
  have announced := sameBooks_startWorld start.phase start.world
  have untouched := startWorld_untouched start.phase start.world
  have history : start.world.history = start.earlier := List.append_nil _
  refine
    { ledger := announced.ledger (.freshWorld start.inert.1 ?_ ?_ ?_ start.phase)
      known := start.known.same untouched.1 untouched.2.1 untouched.2.2.1
      phaseType := untouched.2.2.2
      agentic := fun current => absurd current start.strategyIssuer_ne
      inert := ?_ }
  · rw [World.sentIds, history]; exact start.sentDrawn
  · rw [World.receivedIds, history]; exact start.receivedDrawn
  · rw [World.collectedIds, history]; exact start.collectedDrawn
  · intro _
    have strategy : start.state.world.strategy = start.world.strategy := untouched.2.1
    have timers : start.state.world.timers = start.world.timers := untouched.2.2.1
    rw [Inert, strategy, timers]
    exact start.inert

theorem PhaseReachable.booked {start : PhaseStart} {state : PhaseState}
    (reachable : PhaseReachable config start state) : Booked state :=
  reachable.invariant Booked (fun _ _ _ booked edge => booked.step edge) start.booked

/-! ## Nothing is issued during the drain -/

/-- What `_drain_inflight` watches. -/
structure DrainFields where
  drainEvent : Bool
  stopRequested : Bool
  inflight : Int

def World.drainFields (world : World) : DrainFields where
  drainEvent := world.drainEvent
  stopRequested := world.stopRequested
  inflight := world.issuer.inflight

/-- The drain event was set by the last result or by a stop. -/
def World.DrainBound (world : World) : Prop :=
  world.drainEvent = true → world.stopRequested = true ∨ world.issuer.inflight ≤ 0

theorem World.DrainBound.same {first second : World} (bound : first.DrainBound)
    (fields : second.drainFields = first.drainFields) : second.DrainBound := by
  have drainEvent : second.drainEvent = first.drainEvent :=
    congrArg DrainFields.drainEvent fields
  have stopRequested : second.stopRequested = first.stopRequested :=
    congrArg DrainFields.stopRequested fields
  have inflight : second.issuer.inflight = first.issuer.inflight :=
    congrArg DrainFields.inflight fields
  rw [DrainBound, drainEvent, stopRequested, inflight]
  exact bound

theorem World.DrainBound.counted {world : World} (bound : world.DrainBound) :
    world.markInflightComplete.DrainBound := by
  unfold markInflightComplete
  split
  · exact bound
  · rename_i positive
    intro set
    dsimp only at set ⊢
    rw [Bool.or_eq_true, decide_eq_true_eq] at set
    rcases set with before | zero
    · rcases bound before with stopped | drained
      · exact Or.inl stopped
      · exact absurd drained positive
    · exact Or.inr zero.le

@[simp]
theorem popTimeoutHandle_drainFields (world : World) (queryId : QueryId) :
    (world.popTimeoutHandle queryId).drainFields = world.drainFields := by
  unfold popTimeoutHandle
  split <;> rfl

@[simp]
theorem dropConversation_drainFields (world : World) (conversationId : String) :
    (world.dropConversation conversationId).drainFields = world.drainFields := by
  unfold dropConversation
  dsimp only
  split <;> rfl

theorem stopIssuing_drainFields (world : World) :
    world.stopIssuing.drainFields = world.drainFields := by
  rw [stopIssuing, cancelTimers_eq]
  rfl

theorem stopPerformanceTracking_drainFields (world : World) :
    world.stopPerformanceTracking.drainFields = world.drainFields := by
  unfold stopPerformanceTracking
  split <;> rfl

theorem stopPerformanceTrackingOnce_drainFields (world : World) :
    world.stopPerformanceTrackingOnce.drainFields = world.drainFields := by
  unfold stopPerformanceTrackingOnce
  split
  · rfl
  · exact stopPerformanceTracking_drainFields _

theorem drawn_drainFields {world drawn : World} {started : ConversationInstance}
    (draw : world.nextConversationInstance config = some (some (started, drawn))) :
    (drawn.enterInstance started).drainFields = world.drainFields := by
  obtain ⟨_, order, base, _, _, _, rfl⟩ :=
    nextConversationInstance_eq_some draw
  rfl

theorem World.DrainBound.accepted {world : World} (bound : world.DrainBound)
    (result : QueryResult) : (world.acceptResult result).DrainBound := by
  have announced : ((world.observe (.received result)).announceResult
      result).DrainBound := bound
  exact announced.counted.same (popTimeoutHandle_drainFields _ _)

theorem World.DrainBound.expired {world : World} (bound : world.DrainBound)
    (queryId : QueryId) : (world.expireQuery queryId).DrainBound := by
  have popped : ((world.popInflight queryId).forgetTimeoutHandle queryId).DrainBound :=
    bound
  unfold expireQuery terminateQuery
  split
  · exact popped.counted
  · exact popped

/-- A halted phase issues nothing, so results only bring the counter down. -/
theorem Move.drainBound {first second : Moment} (move : Move config first second)
    (halted : first.world.Halted) (bound : first.world.DrainBound) :
    second.world.DrainBound := by
  cases move with
  | @answered world result => exact bound.accepted result
  | @rejected world result =>
      exact (bound.accepted result).same (dropConversation_drainFields _ _)
  | @unroutable world result => exact bound.accepted result
  | @timedOut world handle queryId =>
      have cancelled : (world.cancelTimer handle).DrainBound := bound
      exact (cancelled.expired queryId).same (dropConversation_drainFields _ _)
  | @timeoutUnroutable world handle queryId =>
      have cancelled : (world.cancelTimer handle).DrainBound := bound
      exact cancelled.expired queryId
  | @issued _ world _ _ _ _ _ _ _ _ permitted =>
      unfold stopCheck at permitted
      rcases halted with stopped | stopped
      · have requested : world.stopRequested = true := stopped
        simp [requested] at permitted
      · have capped : world.currentPhaseStopped = true := stopped
        simp [capped] at permitted
  | refused => exact bound.same (stopIssuing_drainFields _)
  | crashed _ _ _ effects =>
      rcases effects with rfl | raised
      · exact bound
      · cases raised <;> exact bound
  | started _ draw => exact bound.same (drawn_drainFields draw)
  | trackingStopped => exact bound.same (stopPerformanceTrackingOnce_drainFields _)
  | issuingStopped => exact bound.same (stopIssuing_drainFields _)
  | collected | expired | delayElapsed | finished | delayed | becameDue | released
  | stale | drawFailed | errorStored | completed | waits | skipped | skipRefused
  | skipUnroutable | aborted => exact bound

theorem World.DrainBound.moves {first second : Moment}
    (bound : first.world.DrainBound) (halted : first.world.Halted)
    (moves : Moves config first second) : second.world.DrainBound :=
  (moves.invariant
    (fun moment => moment.world.DrainBound ∧ moment.world.Halted)
    (fun _ _ both move =>
      ⟨move.drainBound both.2 both.1, both.2.of_fields move.sessionFields⟩)
    ⟨bound, halted⟩).1

theorem Notice.drainBound {world next : World} {response : Response}
    (notice : Notice world response next) (bound : world.DrainBound) :
    next.DrainBound := by
  cases notice with
  | late | chunk | foreign => exact bound
  | @unmeasured result =>
      have announced : ((world.observe (.received result)).announceResult
        result).DrainBound := bound
      exact announced.counted
  | @untracked result =>
      have announced : ((world.observe (.received result)).announceResult
        result).DrainBound := bound
      exact announced.counted

end InferenceEndpoint
