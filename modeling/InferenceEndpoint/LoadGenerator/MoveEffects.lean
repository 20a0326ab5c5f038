import InferenceEndpoint.LoadGenerator.LedgerMoves

/-!
# Effects of moves and notices

The conversation manager knows every conversation that the strategy deals
with, so no lookup of it fails, and every move has an effect on the books.
The ledger and the uniqueness of COMPLETE events follow for all callbacks.
-/

namespace InferenceEndpoint

variable {config : AgenticConfig}

open World

/-- The manager has a state for every conversation that is active, waited for,
scheduled to time out or being aborted. -/
structure Known (control : Control) (world : World) : Prop where
  active : ∀ conversationId,
    (world.strategy.activeIters.get? conversationId).isSome →
      (world.manager.get? conversationId).isSome
  waiting : ∀ queryId conversationId,
    world.strategy.inflight.get? queryId = some conversationId →
      (world.manager.get? conversationId).isSome
  scheduled : ∀ handle queryId conversationId,
    world.timers.get? handle = some (.handleTimeout queryId conversationId) →
      (world.manager.get? conversationId).isSome
  aborting : ∀ conversationId remaining,
    control = .aborting conversationId remaining →
      (world.manager.get? conversationId).isSome

namespace Known

variable {first second : World} {before after : Control}

/-- A step after which the manager knows at least as much, and whose new
conversations it knows. -/
theorem step (known : Known before first)
    (managers : ∀ conversationId, (first.manager.get? conversationId).isSome →
      (second.manager.get? conversationId).isSome)
    (active : ∀ conversationId,
      (second.strategy.activeIters.get? conversationId).isSome →
        (first.strategy.activeIters.get? conversationId).isSome ∨
          (second.manager.get? conversationId).isSome)
    (waiting : ∀ queryId conversationId,
      second.strategy.inflight.get? queryId = some conversationId →
        first.strategy.inflight.get? queryId = some conversationId ∨
          (second.manager.get? conversationId).isSome)
    (scheduled : ∀ handle queryId conversationId,
      second.timers.get? handle = some (.handleTimeout queryId conversationId) →
        first.timers.get? handle = some (.handleTimeout queryId conversationId) ∨
          (second.manager.get? conversationId).isSome)
    (aborting : ∀ conversationId remaining,
      after = .aborting conversationId remaining →
        (second.manager.get? conversationId).isSome) :
    Known after second where
  active conversationId found :=
    (active conversationId found).elim
      (fun old => managers _ (known.active conversationId old)) id
  waiting queryId conversationId found :=
    (waiting queryId conversationId found).elim
      (fun old => managers _ (known.waiting queryId conversationId old)) id
  scheduled handle queryId conversationId found :=
    (scheduled handle queryId conversationId found).elim
      (fun old => managers _ (known.scheduled handle queryId conversationId old)) id
  aborting := aborting

/-- A step that only forgets conversations. -/
theorem shrink (known : Known before first)
    (managers : ∀ conversationId, (second.manager.get? conversationId).isSome =
      (first.manager.get? conversationId).isSome)
    (active : ∀ conversationId,
      (second.strategy.activeIters.get? conversationId).isSome →
        (first.strategy.activeIters.get? conversationId).isSome)
    (waiting : ∀ queryId conversationId,
      second.strategy.inflight.get? queryId = some conversationId →
        first.strategy.inflight.get? queryId = some conversationId)
    (timers : TimersShrink first second)
    (aborting : ∀ conversationId remaining,
      after = .aborting conversationId remaining →
        (first.manager.get? conversationId).isSome) :
    Known after second :=
  known.step (fun conversationId old => by rw [managers]; exact old)
    (fun conversationId found => Or.inl (active conversationId found))
    (fun queryId conversationId found => Or.inl (waiting queryId conversationId found))
    (fun handle queryId conversationId found => Or.inl (timers handle _ found))
    (fun conversationId remaining equal => by
      rw [managers]; exact aborting conversationId remaining equal)

end Known

theorem isSome_of_get?_erase {Key Value : Type*} [DecidableEq Key]
    {dict : OrderedDict Key Value} {key other : Key}
    (found : ((dict.erase key).get? other).isSome) : (dict.get? other).isSome := by
  rw [OrderedDict.get?_erase] at found
  split at found
  · simp at found
  · exact found

theorem get?_of_get?_erase {Key Value : Type*} [DecidableEq Key]
    {dict : OrderedDict Key Value} {key other : Key} {value : Value}
    (found : (dict.erase key).get? other = some value) :
    dict.get? other = some value := by
  rw [OrderedDict.get?_erase] at found
  split at found
  · simp at found
  · exact found

theorem Move.known {first second : Moment} (move : Move config first second)
    (known : Known first.control first.world) :
    Known second.control second.world := by
  cases move with
  | @answered world result conversationId manager waiting _ _ _ _ marked =>
      refine known.shrink (ConversationManager.markTurnComplete_isSome marked) ?_ ?_
        (timersShrink_acceptResult world result) ?_
      · intro other found
        have same : ((world.acceptResult result).strategy.activeIters.get?
            other).isSome := found
        rwa [acceptResult_strategy] at same
      · intro queryId other found
        have same : (world.acceptResult result).strategy.inflight.get? queryId =
            some other := found
        rw [acceptResult_strategy] at same
        exact get?_of_get?_erase same
      · intro other remaining equal
        split at equal <;> simp at equal
  | @rejected world result conversationId manager waiting _ _ _ _ marked =>
      refine known.shrink ?_ ?_ ?_ ?_ ?_
      · intro other
        rw [dropConversation_manager]
        exact ConversationManager.markTurnFailed_isSome marked other
      · intro other found
        rw [dropConversation_strategy] at found
        have same := isSome_of_get?_erase found
        have unchanged : ((world.acceptResult result).strategy.activeIters.get?
            other).isSome := same
        rwa [acceptResult_strategy] at unchanged
      · intro queryId other found
        rw [dropConversation_strategy] at found
        have same : (world.acceptResult result).strategy.inflight.get? queryId =
            some other := found
        rw [acceptResult_strategy] at same
        exact get?_of_get?_erase same
      · exact (timersShrink_acceptResult world result).trans
          (timersShrink_dropConversation
            ((world.acceptResult result).withManager manager) conversationId)
      · intro other remaining equal
        obtain ⟨rfl, _⟩ : conversationId = other ∧ _ := by simpa using equal
        exact known.waiting result.id conversationId waiting
  | @unroutable world result conversationId waiting _ _ _ unknown =>
      have found := known.waiting result.id conversationId waiting
      rw [unknown] at found
      simp at found
  | collected =>
      exact known.shrink (fun _ => rfl) (fun _ => id) (fun _ _ => id)
        (timersShrink_of_eq rfl) (by simp)
  | @timedOut world handle queryId conversationId waitingId manager scheduled waiting
      marked =>
      refine known.shrink ?_ ?_ ?_ ?_ ?_
      · intro other
        rw [dropConversation_manager]
        exact ConversationManager.markTurnFailed_isSome marked other
      · intro other found
        rw [dropConversation_strategy] at found
        have same := isSome_of_get?_erase found
        have unchanged : (((world.cancelTimer handle).expireQuery
            queryId).strategy.activeIters.get? other).isSome := same
        rwa [expireQuery_strategy] at unchanged
      · intro query other found
        rw [dropConversation_strategy] at found
        have same : ((world.cancelTimer handle).expireQuery
            queryId).strategy.inflight.get? query = some other := found
        rw [expireQuery_strategy] at same
        exact get?_of_get?_erase same
      · refine ((timersShrink_cancelTimer world handle).trans
          (timersShrink_of_eq ?_)).trans (timersShrink_dropConversation _ _)
        exact expireQuery_timers (world.cancelTimer handle) queryId
      · intro other remaining equal
        obtain ⟨rfl, _⟩ : conversationId = other ∧ _ := by simpa using equal
        exact known.scheduled handle queryId conversationId scheduled
  | @timeoutUnroutable world handle queryId conversationId waitingId scheduled waiting
      unknown =>
      have found := known.scheduled handle queryId conversationId scheduled
      rw [unknown] at found
      simp at found
  | expired =>
      exact known.shrink (fun _ => rfl) (fun _ => id) (fun _ _ => id)
        (timersShrink_cancelTimer _ _) (by simp)
  | delayElapsed =>
      exact known.shrink (fun _ => rfl) (fun _ => id) (fun _ _ => id)
        (timersShrink_cancelTimer _ _) (by simp)
  | finished =>
      exact known.shrink (fun _ => rfl) (fun _ => isSome_of_get?_erase) (fun _ _ => id)
        (timersShrink_of_eq rfl) (by simp)
  | @delayed _ world conversationId state turn issuing active next =>
      refine known.step (fun _ => id) (fun _ => Or.inl) (fun _ _ => Or.inl) ?_ (by simp)
      intro handle queryId other found
      have inserted : (world.timers.insert world.nextTimer
          (.issueTurnNowSafely conversationId turn)).get? handle =
            some (.handleTimeout queryId other) := found
      rw [OrderedDict.get?_insert] at inserted
      split at inserted
      · simp at inserted
      · exact Or.inl inserted
  | becameDue | released | waits =>
      exact known.shrink (fun _ => rfl) (fun _ => id) (fun _ _ => id)
        (timersShrink_of_eq rfl) (by simp)
  | stale =>
      exact known.shrink (fun _ => rfl) (fun _ => id) (fun _ _ => id)
        (timersShrink_of_eq rfl) (by simp)
  | @issued _ world conversationId turn state query prompt issuing active next _ fresh =>
      have knownConversation := known.active conversationId (by
        change (world.strategy.activeIters.get? conversationId).isSome
        simp [active])
      refine known.step (fun _ => id) ?_ ?_ ?_ (by simp)
      · intro other found
        have inserted : ((world.strategy.activeIters.insert conversationId
            { state with cursor := state.cursor + 1 }).get? other).isSome := found
        rw [OrderedDict.get?_insert] at inserted
        split at inserted
        · rename_i same
          subst same
          exact Or.inr knownConversation
        · exact Or.inl inserted
      · intro queryId other found
        have inserted : (world.strategy.inflight.insert query.id
            conversationId).get? queryId = some other := found
        rw [OrderedDict.get?_insert] at inserted
        split at inserted
        · obtain rfl : conversationId = other := by simpa using inserted
          exact Or.inr knownConversation
        · exact Or.inl inserted
      · intro handle queryId other found
        have inserted : (world.timers.insert world.nextTimer
            (.handleTimeout query.id conversationId)).get? handle =
              some (.handleTimeout queryId other) := found
        rw [OrderedDict.get?_insert] at inserted
        split at inserted
        · obtain ⟨_, rfl⟩ : query.id = queryId ∧ conversationId = other := by
            simpa using inserted
          exact Or.inr knownConversation
        · exact Or.inl inserted
  | @refused _ world conversationId turn state issuing =>
      have stopped := timersShrink_stopIssuing
        ((world.popDelayHandle conversationId).afterStopCheck.observe
          (.refused conversationId (some turn.turn)))
      rw [stopIssuing, cancelTimers_eq] at stopped ⊢
      exact known.shrink (fun _ => rfl) (fun _ found => by simp at found)
        (fun _ _ => id) stopped (by simp)
  | @crashed _ world next conversationId turn state issuing active current effects =>
      have unchanged : next.manager = world.manager ∧ next.strategy.activeIters =
          world.strategy.activeIters ∧ next.strategy.inflight =
            world.strategy.inflight ∧ next.timers = world.timers := by
        rcases effects with rfl | raised
        · exact ⟨rfl, rfl, rfl, rfl⟩
        · cases raised <;> exact ⟨rfl, rfl, rfl, rfl⟩
      obtain ⟨manager, active, waiting, timers⟩ := unchanged
      exact known.shrink (fun _ => by rw [manager]) (fun _ => by rw [active]; exact id)
        (fun _ _ => by rw [waiting]; exact id) (timersShrink_of_eq timers) (by simp)
  | drawFailed | errorStored =>
      exact known.shrink (fun _ => rfl) (fun _ => id) (fun _ _ => id)
        (timersShrink_of_eq rfl) (by simp)
  | @started _ world drawn started issuing draw =>
      obtain ⟨_, order, base, _, _, rfl, rfl⟩ :=
        nextConversationInstance_eq_some draw
      refine known.step ?_ ?_ (fun _ _ => Or.inl) (fun _ _ _ => Or.inl) (by simp)
      · exact fun other old =>
          ConversationManager.getOrCreate_isSome _ _ _ other (Or.inl old)
      · intro other found
        by_cases same : other = (makeInstance world.strategy.baseConvs.length
            world.strategy.startedTrajectoryCount base).logicalId
        · exact Or.inr (ConversationManager.getOrCreate_isSome _ _ _ other
            (Or.inr same))
        · left
          rw [enterInstance, setActive] at found
          dsimp only at found
          rwa [OrderedDict.get?_insert_of_ne _ _ same] at found
  | trackingStopped =>
      refine known.shrink ?_ ?_ ?_ (timersShrink_of_eq
        (stopPerformanceTrackingOnce_timers _)) (by simp)
      · intro other
        rw [stopPerformanceTrackingOnce_manager]
      · intro other
        rw [stopPerformanceTrackingOnce_strategy]
        exact id
      · intro queryId other
        rw [stopPerformanceTrackingOnce_strategy]
        exact id
  | @issuingStopped _ world configured issuing =>
      have stopped := timersShrink_stopIssuing world
      rw [stopIssuing, cancelTimers_eq] at stopped ⊢
      exact known.shrink (fun _ => rfl) (fun _ found => by simp at found)
        (fun _ _ => id) stopped (by simp)
  | completed =>
      exact known.shrink (fun _ => rfl) (fun _ => id) (fun _ _ => id)
        (timersShrink_of_eq rfl) (by simp)
  | @skipped _ world conversationId reason turn turns manager marked =>
      refine known.shrink (ConversationManager.markTurnFailed_isSome marked)
        (fun _ => id) (fun _ _ => id) (timersShrink_of_eq rfl) ?_
      intro other remaining equal
      obtain ⟨rfl, _⟩ : conversationId = other ∧ _ := by simpa using equal
      exact known.aborting conversationId _ rfl
  | @skipRefused _ world conversationId turn turns manager marked =>
      exact known.shrink (ConversationManager.markTurnFailed_isSome marked)
        (fun _ => isSome_of_get?_erase) (fun _ _ => id) (timersShrink_of_eq rfl) (by simp)
  | skipUnroutable =>
      exact known.shrink (fun _ => rfl) (fun _ => id) (fun _ _ => id)
        (timersShrink_of_eq rfl) (by simp)
  | aborted =>
      exact known.shrink (fun _ => rfl) (fun _ => isSome_of_get?_erase) (fun _ _ => id)
        (timersShrink_of_eq rfl) (by simp)

/-! ## Every move has an effect -/

theorem SameBooks.refl (world : World) : SameBooks world world :=
  ⟨rfl, rfl, rfl, rfl, rfl, rfl, rfl, rfl, rfl⟩

theorem Move.effect {first second : Moment} (move : Move config first second)
    (known : Known first.control first.world) : Effect first second := by
  cases move with
  | @answered world result conversationId manager waiting =>
      exact .answers rfl rfl waiting
        ((answers_acceptResult world result).then (sameBooks_withManager _ manager))
  | @rejected world result conversationId manager waiting =>
      exact .answers rfl rfl waiting
        (((answers_acceptResult world result).then
          (sameBooks_withManager _ manager)).then
            (sameBooks_dropConversation _ conversationId))
  | @unroutable world result conversationId waiting =>
      exact .answers rfl rfl waiting
        ((answers_acceptResult world result).then
          (sameBooks_popActive _ conversationId))
  | collected => exact .collects rfl rfl rfl
  | @timedOut world handle queryId conversationId waitingId manager _ waiting =>
      have cancelled := sameBooks_cancelTimer world handle
      exact .expires rfl waiting
        (((expires_recordTimeout config (world.cancelTimer handle) queryId manager
          _).after cancelled).then (sameBooks_dropConversation _ conversationId))
  | @timeoutUnroutable world handle queryId conversationId waitingId scheduled _
      unknown =>
      have found := known.scheduled handle queryId conversationId scheduled
      rw [unknown] at found
      simp at found
  | expired => exact .same rfl (sameBooks_cancelTimer _ _)
  | delayElapsed => exact .same rfl (sameBooks_cancelTimer _ _)
  | finished => exact .same rfl (sameBooks_popActive _ _)
  | delayed => exact .same rfl (sameBooks_scheduleDelayedTurn _ _ _)
  | becameDue | released | drawFailed | waits => exact .same rfl (.refl _)
  | stale => exact .same rfl (sameBooks_popDelayHandle _ _)
  | @issued _ world conversationId turn state query prompt _ _ _ _ fresh =>
      exact .issues rfl (.after (sameBooks_popDelayHandle world conversationId)
        (issues_bookTurn prompt turn.sampleIndex conversationId (some turn.turn) state
          fresh))
  | refused =>
      exact .same rfl (((sameBooks_popDelayHandle _ _).trans
        (sameBooks_refused _ _ _)).trans (sameBooks_stopIssuing _))
  | crashed _ _ _ effects =>
      rcases effects with rfl | raised
      · exact .same rfl (sameBooks_popDelayHandle _ _)
      · exact .draws rfl (.after (sameBooks_popDelayHandle _ _)
          (draws_issueRaised raised))
  | errorStored => exact .same rfl (sameBooks_storeError _)
  | started _ draw => exact .same rfl (sameBooks_nextConversationInstance draw)
  | trackingStopped => exact .same rfl (sameBooks_stopPerformanceTrackingOnce _)
  | issuingStopped => exact .same rfl (sameBooks_stopIssuing _)
  | completed => exact .same rfl (sameBooks_setAllDone _)
  | @skipped _ world conversationId reason turn turns manager =>
      exact .skips rfl (skips_recordFailure world manager turn.sampleIndex
        conversationId (some turn.turn) "TurnAbortedByPriorFailure" reason)
  | @skipRefused _ world conversationId turn turns manager =>
      exact .same rfl (((sameBooks_withManager _ manager).trans
        (sameBooks_refused _ _ _)).trans (sameBooks_popActive _ _))
  | @skipUnroutable _ world conversationId turn turns unknown =>
      have found := known.aborting conversationId _ rfl
      rw [unknown] at found
      simp at found
  | aborted => exact .same rfl (sameBooks_popActive _ _)

theorem Known.moves {first second : Moment}
    (known : Known first.control first.world) (moves : Moves config first second) :
    Known second.control second.world :=
  moves.invariant (fun moment => Known moment.control moment.world)
    (fun _ _ known move => move.known known) known

theorem Ledger.moves {first second : Moment}
    (ledger : Ledger first.uncollected first.world)
    (known : Known first.control first.world) (moves : Moves config first second) :
    Ledger second.uncollected second.world :=
  (moves.invariant (fun moment =>
      Ledger moment.uncollected moment.world ∧ Known moment.control moment.world)
    (fun _ _ sound move =>
      ⟨(move.effect sound.2).ledger sound.1, move.known sound.2⟩)
    ⟨ledger, known⟩).1

theorem Terminals.moves {first second : Moment}
    (terminals : Terminals first.uncollected first.world)
    (known : Known first.control first.world) (moves : Moves config first second) :
    Terminals second.uncollected second.world :=
  (moves.invariant (fun moment =>
      Terminals moment.uncollected moment.world ∧ Known moment.control moment.world)
    (fun _ _ sound move =>
      ⟨(move.effect sound.2).terminals sound.1, move.known sound.2⟩)
    ⟨terminals, known⟩).1

/-! ## Notices -/

/-- A result of a query that the ledger has settled or does not know. -/
theorem Ledger.receives {uncollected : Option QueryResult} {first second : World}
    (ledger : Ledger uncollected first) (queryId : QueryId)
    (settled : queryId ∉ first.unresolved) (drawn : queryId < first.nextUuid)
    (waiting : second.strategy.inflight = first.strategy.inflight)
    (uuidToIndex : second.issuer.uuidToIndex = first.issuer.uuidToIndex)
    (completedUuids : second.issuer.completedUuids = first.issuer.completedUuids)
    (inflight : second.issuer.inflight = first.issuer.inflight)
    (nextUuid : second.nextUuid = first.nextUuid)
    (sentIds : second.sentIds = first.sentIds)
    (receivedIds : second.receivedIds = first.receivedIds ++ [queryId])
    (collectedIds : second.collectedIds = first.collectedIds) :
    Ledger uncollected second := by
  have sameUnresolved : second.unresolved = first.unresolved := by
    ext other
    rw [mem_unresolved, mem_unresolved, sentIds, receivedIds, collectedIds,
      uuidToIndex, List.mem_append, List.mem_singleton, not_or]
    constructor
    · rintro ⟨sent, registered, ⟨unreceived, _⟩, rest⟩
      exact ⟨sent, registered, unreceived, rest⟩
    · rintro ⟨sent, registered, unreceived, rest⟩
      refine ⟨sent, registered, ⟨unreceived, ?_⟩, rest⟩
      rintro rfl
      exact settled (mem_unresolved.mpr ⟨sent, registered, unreceived, rest⟩)
  constructor
  · rw [waiting, uuidToIndex]; exact ledger.waitingRegistered
  · rw [waiting, completedUuids]; exact ledger.waitingOpen
  · rw [waiting, sameUnresolved]; exact ledger.waitingUnresolved
  · rw [uuidToIndex, nextUuid]; exact ledger.registeredDrawn
  · rw [sentIds, nextUuid]; exact ledger.sentDrawn
  · rw [receivedIds, nextUuid]
    intro other member
    rcases List.mem_append.mp member with before | new
    · exact ledger.receivedDrawn other before
    · rw [List.mem_singleton.mp new]
      exact drawn
  · rw [collectedIds, nextUuid]; exact ledger.collectedDrawn
  · rw [completedUuids, collectedIds]; exact ledger.completedCollected
  · rw [collectedIds, uuidToIndex, receivedIds, completedUuids]
    exact fun other collected registered =>
      (ledger.registeredSettled other collected registered).imp_left
        fun before => List.mem_append.mpr (Or.inl before)
  · rw [receivedIds]
    exact fun result equal => List.mem_append.mpr
      (Or.inl (ledger.uncollectedReceived result equal))
  · rw [inflight, sameUnresolved]; exact ledger.counted

theorem sameBooks_signalled (world : World) (nowNs : Nat)
    (stopRequested currentPhaseStopped drainEvent : Bool) :
    SameBooks world
      { world with
          nowNs := nowNs, stopRequested := stopRequested
          currentPhaseStopped := currentPhaseStopped, drainEvent := drainEvent } :=
  ⟨rfl, rfl, rfl, rfl, rfl, rfl, rfl, rfl, rfl⟩

/-- A step that leaves the conversations, their manager and the timers alone. -/
theorem Known.same {control : Control} {first second : World}
    (known : Known control first) (manager : second.manager = first.manager)
    (strategy : second.strategy = first.strategy)
    (timers : second.timers = first.timers) : Known control second := by
  obtain ⟨active, waiting, scheduled, aborting⟩ := known
  constructor
  · rw [strategy, manager]; exact active
  · rw [strategy, manager]; exact waiting
  · rw [timers, manager]; exact scheduled
  · rw [manager]; exact aborting

theorem Notice.conversations {world next : World} {response : Response}
    (notice : Notice world response next) :
    next.manager = world.manager ∧ next.strategy = world.strategy ∧
      next.timers = world.timers := by
  cases notice with
  | late | chunk | foreign => exact ⟨rfl, rfl, rfl⟩
  | unmeasured =>
      exact ⟨markInflightComplete_manager _, markInflightComplete_strategy _,
        markInflightComplete_timers _⟩
  | untracked =>
      exact ⟨markInflightComplete_manager _, markInflightComplete_strategy _,
        markInflightComplete_timers _⟩

theorem Known.notice {world next : World} {response : Response}
    (known : Known .idle world) (notice : Notice world response next) :
    Known .idle next :=
  known.same notice.conversations.1 notice.conversations.2.1
    notice.conversations.2.2

/-- Notices keep the ledger when the strategy is not waiting for results of a
warmup phase. -/
theorem Notice.ledger {world next : World} {response : Response}
    (notice : Notice world response next) (ledger : Ledger none world)
    (unmeasuredNotWaiting : world.phaseType = .warmup →
      ∀ queryId, world.strategy.inflight.get? queryId = none) :
    Ledger none next := by
  cases notice with
  | @late result sent unreceived terminated =>
      have collected := ledger.completedCollected _ terminated
      refine ledger.receives result.id ?_
        (ledger.collectedDrawn _ collected) rfl rfl rfl rfl rfl ?_ ?_ ?_
      · exact fun member => (mem_unresolved.mp member).2.2.2 collected
      · simp [Observation.sentId?]
      · simp [Observation.receivedId?]
      · simp [Observation.collectedId?]
  | @foreign result sent unreceived open_ unregistered =>
      refine ledger.receives result.id ?_ (ledger.sentDrawn _ sent)
        rfl rfl rfl rfl rfl ?_ ?_ ?_
      · intro member
        have registered := (mem_unresolved.mp member).2.1
        simp [unregistered] at registered
      · simp [Observation.sentId?]
      · simp [Observation.receivedId?]
      · simp [Observation.collectedId?]
  | @unmeasured result sent unreceived open_ registered warmup =>
      have unresolved := ledger.mem_unresolved_of_open sent unreceived registered open_
      have answered := ledger.answers unresolved
        (answers_announced (unmeasuredNotWaiting warmup result.id))
      exact { answered with uncollectedReceived := fun _ uncollected => by cases uncollected }
  | @untracked result sent unreceived open_ registered measured notWaiting =>
      have unresolved := ledger.mem_unresolved_of_open sent unreceived registered open_
      have answered := ledger.answers unresolved (answers_announced notWaiting)
      exact answered.collects (answered.uncollectedReceived result rfl)
  | @chunk chunk =>
      refine (SameBooks.observe world rfl rfl rfl ?_).ledger ledger
      cases chunk.firstChunk <;> simp [Observation.completeId?]
/-- An announced result leaves COMPLETE events unique unless the query was
terminated before. -/
theorem Terminals.announced {world next : World} {result : QueryResult}
    (terminals : Terminals none world) (sent : result.id ∈ world.sentIds)
    (unreceived : result.id ∉ world.receivedIds)
    (notWaiting : world.strategy.inflight.get? result.id = none)
    (settled : world.phaseType = .warmup ∨ result.id ∉ world.collectedIds)
    (waiting : next.strategy.inflight = world.strategy.inflight)
    (nextUuid : next.nextUuid = world.nextUuid)
    (history : next.history =
      ((world.observe (.received result)).announceResult result).history) :
    Terminals none next := by
  refine terminals.receives unreceived (terminals.sentDrawn _ sent) notWaiting waiting
    nextUuid ?_ ?_ ?_ ?_
  · rw [sentIds_congr history]
    simp [Observation.sentId?]
  · rw [receivedIds_congr history]
    simp [Observation.receivedId?]
  · rw [collectedIds_congr history]
    simp [Observation.collectedId?]
  · have published : next.completeIds = world.completeIds ++
        if world.phaseType = .warmup then [] else [result.id] := by
      rw [completeIds_congr history, announceResult_completeIds,
        completeIds_observe]
      simp only [Observation.completeId?, Option.toList_none, List.append_nil]
      rfl
    rw [published]
    by_cases warmup : world.phaseType = .warmup
    · simp [warmup]
    · simp [warmup, settled.resolve_left warmup]

/-- What a query that the strategy waits for needs, so that its result is
handed to the strategy. -/
def World.Handles (world : World) (queryId : QueryId) : Prop :=
  (world.issuer.uuidToIndex.get? queryId).isSome ∧
    queryId ∉ world.issuer.completedUuids ∧ world.phaseType ≠ .warmup

/-- A notice keeps COMPLETE events unique, unless it is about a query that was
terminated in an earlier phase. -/
theorem Notice.terminals {world next : World} {response : Response}
    (notice : Notice world response next) (terminals : Terminals none world)
    (handled : ∀ result, response = .result result →
      (world.strategy.inflight.get? result.id).isSome → world.Handles result.id)
    (settled : ∀ result, response = .result result →
      result.id ∈ world.collectedIds →
        result.id ∈ world.issuer.completedUuids ∨ world.phaseType = .warmup) :
    Terminals none next := by
  have notWaiting : ∀ result, response = .result result →
      ¬ world.Handles result.id → world.strategy.inflight.get? result.id = none := by
    intro result equal foreign
    cases waiting : world.strategy.inflight.get? result.id with
    | none => rfl
    | some conversationId =>
        exact absurd (handled result equal (by simp [waiting])) foreign
  cases notice with
  | @late result sent unreceived terminated =>
      refine terminals.receives unreceived (terminals.sentDrawn _ sent)
        (notWaiting result rfl fun handles => handles.2.1 terminated) rfl rfl
        ?_ ?_ ?_ (Or.inl ?_)
      · simp [Observation.sentId?]
      · simp [Observation.receivedId?]
      · simp [Observation.collectedId?]
      · simp [Observation.completeId?]
  | @foreign result sent unreceived open_ unregistered =>
      refine terminals.announced sent unreceived
        (notWaiting result rfl fun handles => by simp [World.Handles, unregistered] at handles)
        ?_ rfl rfl rfl
      by_cases collected : result.id ∈ world.collectedIds
      · exact Or.inl ((settled result rfl collected).resolve_left open_)
      · exact Or.inr collected
  | @unmeasured result sent unreceived open_ registered warmup =>
      exact terminals.announced sent unreceived
        (notWaiting result rfl fun handles => handles.2.2 warmup) (Or.inl warmup)
        (by rw [markInflightComplete_strategy]; rfl)
        (markInflightComplete_nextUuid _) (markInflightComplete_history _)
  | @untracked result sent unreceived open_ registered measured untracked =>
      have counted : Terminals none ((world.observe (.received result)).announceResult
          result).markInflightComplete :=
        terminals.announced sent unreceived untracked
          (Or.inr fun collected => (settled result rfl collected).elim open_ measured)
          (by rw [markInflightComplete_strategy]; rfl)
          (markInflightComplete_nextUuid _) (markInflightComplete_history _)
      refine counted.collects ?_ ?_
      · rw [receivedIds_congr (markInflightComplete_history _)]
        simp [Observation.receivedId?]
      · rw [markInflightComplete_strategy]
        exact untracked
  | @chunk chunk =>
      refine (SameBooks.observe world rfl rfl rfl ?_).terminals terminals
      cases chunk.firstChunk <;> simp [Observation.completeId?]

/-! ## The issuer's own records -/

/-- What the issuer has recorded about queries it drew. -/
structure IssuerRecords (world : World) : Prop where
  registeredDrawn : ∀ queryId, (world.issuer.uuidToIndex.get? queryId).isSome →
    queryId < world.nextUuid
  completedRegistered : ∀ queryId ∈ world.issuer.completedUuids,
    (world.issuer.uuidToIndex.get? queryId).isSome

/-- The strategy only waits for queries of the issuer that it may still
answer. -/
def World.Owned (world : World) : Prop :=
  ∀ queryId conversationId,
    world.strategy.inflight.get? queryId = some conversationId →
      (world.issuer.uuidToIndex.get? queryId).isSome ∧
        queryId ∉ world.issuer.completedUuids

theorem IssuerRecords.open_nextUuid {world : World} (records : IssuerRecords world) :
    world.nextUuid ∉ world.issuer.completedUuids := fun completed =>
  Nat.lt_irrefl _ (records.registeredDrawn _ (records.completedRegistered _ completed))

theorem Effect.records {first second : Moment} (effect : Effect first second)
    (records : IssuerRecords first.world) : IssuerRecords second.world := by
  obtain ⟨registeredDrawn, completedRegistered⟩ := records
  cases effect with
  | same _ books =>
      constructor
      · rw [books.uuidToIndex, books.nextUuid]; exact registeredDrawn
      · rw [books.uuidToIndex, books.completedUuids]; exact completedRegistered
  | draws _ books =>
      constructor
      · intro queryId registered
        rw [books.nextUuid]
        rcases books.registered queryId registered with known | rfl
        · exact lt_succ_of_lt (registeredDrawn queryId known)
        · exact Nat.lt_succ_self _
      · rw [books.completedUuids]
        exact fun queryId completed =>
          books.stillRegistered queryId (completedRegistered queryId completed)
  | issues _ books =>
      constructor
      · intro queryId registered
        rw [books.nextUuid]
        rcases (books.registered queryId).mp registered with known | rfl
        · exact lt_succ_of_lt (registeredDrawn queryId known)
        · exact Nat.lt_succ_self _
      · rw [books.completedUuids]
        exact fun queryId completed =>
          (books.registered queryId).mpr (Or.inl (completedRegistered queryId completed))
  | skips _ books =>
      constructor
      · intro queryId registered
        rw [books.nextUuid]
        rcases (books.registered queryId).mp registered with known | rfl
        · exact lt_succ_of_lt (registeredDrawn queryId known)
        · exact Nat.lt_succ_self _
      · rw [books.completedUuids]
        intro queryId completed
        rw [books.registered]
        rcases Finset.mem_insert.mp completed with new | before
        · exact Or.inr new
        · exact Or.inl (completedRegistered queryId before)
  | answers _ _ _ books =>
      constructor
      · rw [books.uuidToIndex, books.nextUuid]; exact registeredDrawn
      · rw [books.uuidToIndex, books.completedUuids]; exact completedRegistered
  | expires _ _ books =>
      constructor
      · rw [books.uuidToIndex, books.nextUuid]; exact registeredDrawn
      · rw [books.uuidToIndex, books.completedUuids]
        intro queryId completed
        split at completed
        · rename_i known
          rcases Finset.mem_insert.mp completed with rfl | before
          · exact known
          · exact completedRegistered queryId before
        · exact completedRegistered queryId completed
  | collects _ _ world =>
      rw [world]
      exact ⟨registeredDrawn, completedRegistered⟩

theorem Effect.owned {first second : Moment} (effect : Effect first second)
    (records : IssuerRecords first.world) (owned : first.world.Owned) :
    second.world.Owned := by
  cases effect with
  | same _ books =>
      rw [World.Owned, books.waiting, books.uuidToIndex, books.completedUuids]
      exact owned
  | draws _ books =>
      rw [World.Owned, books.waiting, books.completedUuids]
      exact fun queryId conversationId waiting =>
        (owned queryId conversationId waiting).imp_left (books.stillRegistered queryId)
  | issues _ books =>
      intro queryId conversationId waiting
      rw [books.completedUuids, books.registered]
      rcases books.waiting queryId conversationId waiting with before | rfl
      · exact (owned queryId conversationId before).imp_left Or.inl
      · exact ⟨Or.inr rfl, records.open_nextUuid⟩
  | skips _ books =>
      intro queryId conversationId waiting
      rw [books.waiting] at waiting
      obtain ⟨known, before⟩ := owned queryId conversationId waiting
      rw [books.completedUuids, books.registered, Finset.mem_insert]
      refine ⟨Or.inl known, ?_⟩
      rintro (rfl | completed)
      · exact Nat.lt_irrefl _ (records.registeredDrawn _ known)
      · exact before completed
  | answers _ _ _ books =>
      rw [World.Owned, books.uuidToIndex, books.completedUuids]
      exact fun queryId conversationId waiting =>
        owned queryId conversationId (books.waiting queryId conversationId waiting).1
  | expires _ _ books =>
      intro queryId conversationId waiting
      obtain ⟨before, different⟩ := books.waiting queryId conversationId waiting
      obtain ⟨registered, uncompleted⟩ := owned queryId conversationId before
      rw [books.uuidToIndex, books.completedUuids]
      refine ⟨registered, ?_⟩
      split
      · rw [Finset.mem_insert]
        exact fun completed => completed.elim different uncompleted
      · exact uncompleted
  | collects _ _ world =>
      rw [world]
      exact owned

/-- Uuids are never handed out twice. -/
theorem Effect.nextUuid_le {first second : Moment} (effect : Effect first second) :
    first.world.nextUuid ≤ second.world.nextUuid := by
  cases effect with
  | same _ books => exact books.nextUuid.ge
  | draws _ books => rw [books.nextUuid]; exact Nat.le_succ _
  | issues _ books => rw [books.nextUuid]; exact Nat.le_succ _
  | skips _ books => rw [books.nextUuid]; exact Nat.le_succ _
  | answers _ _ _ books => exact books.nextUuid.ge
  | expires _ _ books => exact books.nextUuid.ge
  | collects _ _ world => rw [world]; exact le_refl _

theorem IssuerRecords.moves {first second : Moment}
    (records : IssuerRecords first.world)
    (known : Known first.control first.world) (moves : Moves config first second) :
    IssuerRecords second.world :=
  (moves.invariant (fun moment =>
      IssuerRecords moment.world ∧ Known moment.control moment.world)
    (fun _ _ sound move =>
      ⟨(move.effect sound.2).records sound.1, move.known sound.2⟩)
    ⟨records, known⟩).1

theorem World.Owned.moves {first second : Moment} (owned : first.world.Owned)
    (records : IssuerRecords first.world)
    (known : Known first.control first.world) (moves : Moves config first second) :
    second.world.Owned :=
  (moves.invariant (fun moment =>
      moment.world.Owned ∧ IssuerRecords moment.world ∧
        Known moment.control moment.world)
    (fun _ _ sound move =>
      have effect := move.effect sound.2.2
      ⟨effect.owned sound.2.1 sound.1, effect.records sound.2.1, move.known sound.2.2⟩)
    ⟨owned, records, known⟩).1

theorem Notice.issuer {world next : World} {response : Response}
    (notice : Notice world response next) :
    next.issuer.uuidToIndex = world.issuer.uuidToIndex ∧
      next.issuer.completedUuids = world.issuer.completedUuids ∧
      next.nextUuid = world.nextUuid := by
  cases notice with
  | late | chunk | foreign => exact ⟨rfl, rfl, rfl⟩
  | unmeasured =>
      exact ⟨markInflightComplete_uuidToIndex _, markInflightComplete_completedUuids _,
        markInflightComplete_nextUuid _⟩
  | untracked =>
      exact ⟨markInflightComplete_uuidToIndex _, markInflightComplete_completedUuids _,
        markInflightComplete_nextUuid _⟩

theorem Notice.records {world next : World} {response : Response}
    (notice : Notice world response next) (records : IssuerRecords world) :
    IssuerRecords next := by
  obtain ⟨uuidToIndex, completedUuids, nextUuid⟩ := notice.issuer
  constructor
  · rw [uuidToIndex, nextUuid]; exact records.registeredDrawn
  · rw [uuidToIndex, completedUuids]; exact records.completedRegistered

theorem Notice.owned {world next : World} {response : Response}
    (notice : Notice world response next) (owned : world.Owned) : next.Owned := by
  obtain ⟨uuidToIndex, completedUuids, _⟩ := notice.issuer
  rw [World.Owned, notice.conversations.2.1, uuidToIndex, completedUuids]
  exact owned

theorem Notice.sessionFields {world next : World} {response : Response}
    (notice : Notice world response next) :
    next.sessionFields = world.sessionFields := by
  cases notice with
  | late | chunk | foreign => rfl
  | unmeasured => exact markInflightComplete_sessionFields _
  | untracked => exact markInflightComplete_sessionFields _

theorem Moves.nextUuid_le {first second : Moment} (moves : Moves config first second)
    (known : Known first.control first.world) :
    first.world.nextUuid ≤ second.world.nextUuid :=
  (moves.invariant (fun moment =>
      first.world.nextUuid ≤ moment.world.nextUuid ∧
        Known moment.control moment.world)
    (fun _ _ sound move =>
      ⟨sound.1.trans (move.effect sound.2).nextUuid_le, move.known sound.2⟩)
    ⟨le_refl _, known⟩).1

end InferenceEndpoint
