import InferenceEndpoint.LoadGenerator.PhaseRun

/-!
# What a step of a phase changes

The steps of a phase are sorted by what they do to the world: most leave the
conversations alone and have an effect on the books, and the others run a
callback of the agentic strategy.  The seeding loop of `execute` has a rule of
its own.
-/

namespace InferenceEndpoint

variable {config : AgenticConfig}

open World

/-! ## Issuing for single-turn strategies -/

theorem issues_afterIssued {world : World} {query : Query} (prompt : PromptData)
    (sampleIndex : Nat) (conversationId : String) (turn : Option Nat)
    (fresh : query.id = world.nextUuid) :
    Issues world (world.afterIssued query prompt sampleIndex conversationId turn) := by
  have history : (world.afterIssued query prompt sampleIndex conversationId
      turn).history =
      world.history ++
        [.published (world.issuedEvent world.nextUuid conversationId turn prompt),
          .sent query conversationId turn] := by
    simp [World.history, afterIssued, sendQuery, publish, observe, register,
      afterStopCheck]
  refine ⟨fun _ _ => Or.inl, fun _ => registered_insert _, rfl, rfl, rfl,
    ?_, ?_, ?_, ?_⟩
  · rw [sentIds, history, List.filterMap_append, ← fresh]
    rfl
  · rw [receivedIds, history]
    simp [receivedIds, Observation.receivedId?]
  · rw [collectedIds, history]
    simp [collectedIds, Observation.collectedId?]
  · rw [completeIds, history]
    simp [completeIds, Observation.completeId?, issuedEvent]

/-- A call of `issue` draws a uuid, issues a query, or is refused; it is only
issued when the stop check passes. -/
theorem issue_books (currentIssued : Nat) (world : World) (sampleIndex : Nat)
    (dataOverride : Option DataOverride) (conversationId : String)
    (turn : Option Nat) :
    SameBooks world
        (world.issue currentIssued sampleIndex dataOverride conversationId turn).2 ∨
      Draws world
        (world.issue currentIssued sampleIndex dataOverride conversationId turn).2 ∨
      world.stopCheck currentIssued = false ∧ Issues world
        (world.issue currentIssued sampleIndex dataOverride conversationId turn).2 := by
  rcases issue_cases currentIssued world sampleIndex dataOverride conversationId turn
    with ⟨_, refused⟩ | ⟨next, raised, equal⟩ | ⟨query, prompt, fresh, open_, issued⟩
  · rw [refused]
    exact Or.inl (sameBooks_refused world conversationId turn)
  · rw [equal]
    exact Or.inr (Or.inl (draws_issueRaised raised))
  · rw [issued]
    exact Or.inr (Or.inr
      ⟨open_, issues_afterIssued prompt sampleIndex conversationId turn fresh⟩)

theorem issue_effect (currentIssued : Nat) (world : World) (sampleIndex : Nat)
    (dataOverride : Option DataOverride) (conversationId : String)
    (turn : Option Nat) :
    Effect ⟨.idle, none, world⟩ ⟨.idle, none,
      (world.issue currentIssued sampleIndex dataOverride conversationId turn).2⟩ := by
  rcases issue_books currentIssued world sampleIndex dataOverride conversationId turn
    with same | draws | ⟨_, issues⟩
  · exact .same rfl same
  · exact .draws rfl draws
  · exact .issues rfl issues

theorem issue_untouched (currentIssued : Nat) (world : World) (sampleIndex : Nat)
    (dataOverride : Option DataOverride) (conversationId : String)
    (turn : Option Nat) :
    let next :=
      (world.issue currentIssued sampleIndex dataOverride conversationId turn).2
    next.manager = world.manager ∧ next.strategy = world.strategy ∧
      next.timers = world.timers ∧ next.sessionFields = world.sessionFields := by
  rcases issue_cases currentIssued world sampleIndex dataOverride conversationId turn
    with ⟨_, refused⟩ | ⟨next, raised, equal⟩ | ⟨query, prompt, _, _, issued⟩
  · rw [refused]
    exact ⟨rfl, rfl, rfl, rfl⟩
  · rw [equal]
    cases raised <;> exact ⟨rfl, rfl, rfl, rfl⟩
  · rw [issued]
    exact ⟨rfl, rfl, rfl, rfl⟩

/-! ## Seeding -/

/-- A rule for the seeding loop.  `good` may count the iterations that are
left; `bad` is what holds when an iteration raised. -/
theorem seed_rule (config : AgenticConfig) (good : Nat → World → Prop)
    (bad : World → Prop)
    (halted : ∀ remaining world, good (remaining + 1) world →
      world.strategy.stopping = true → good remaining world)
    (iterated : ∀ remaining world next, good (remaining + 1) world →
      Moves config ⟨.filling, none, world⟩ ⟨.idle, none, next⟩ → good remaining next)
    (raised : ∀ remaining world control next, good (remaining + 1) world →
      Moves config ⟨.filling, none, world⟩ ⟨control, none, next⟩ → bad next)
    (remaining : Nat) (world : World) (start : good remaining world) :
    ((world.seed config remaining).1 = false →
        good 0 (world.seed config remaining).2) ∧
      ((world.seed config remaining).1 = true →
        bad (world.seed config remaining).2) := by
  induction remaining generalizing world with
  | zero => exact ⟨fun _ => start, nofun⟩
  | succ remaining ih =>
      rcases seedIteration_moves config none world with
        ⟨stopping, unchanged⟩ | moves
      · simp only [seed, unchanged]
        exact ih world (halted remaining world start stopping)
      · cases result : world.startConversation config (refill config) with
        | mk hasRaised next =>
          rw [result] at moves
          cases hasRaised with
          | false =>
              simp only [seed, result]
              exact ih next (iterated remaining world next start moves)
          | true =>
              simp only [seed, result]
              exact ⟨nofun, fun _ => raised remaining world .raising next start moves⟩

/-- How the first step of `execute` ends. -/
inductive Executed (config : AgenticConfig) (world : World) :
    ExecuteStatus × World → Prop
  | invalid : Executed config world (.raised, world.resetStrategy config)
  | raised {seeded : World}
      (seeding : (world.resetStrategy config).seed config
        ((world.resetStrategy config).initialConversationsToStart config) =
          (true, seeded)) :
      Executed config world (.raised, seeded.cleanUp)
  | returned {seeded : World}
      (seeding : (world.resetStrategy config).seed config
        ((world.resetStrategy config).initialConversationsToStart config) =
          (false, seeded))
      (noWork : seeded.hasWorkRemaining config = false) :
      Executed config world (.returned seeded.issuer.issuedCount, seeded.cleanUp)
  | waiting {seeded : World}
      (seeding : (world.resetStrategy config).seed config
        ((world.resetStrategy config).initialConversationsToStart config) =
          (false, seeded))
      (work : seeded.hasWorkRemaining config = true) :
      Executed config world (.waiting, seeded)

theorem executeStart_cases (config : AgenticConfig) (world : World) :
    Executed config world (world.executeStart config) := by
  unfold executeStart
  dsimp only
  split
  · exact .invalid
  · split
    · rename_i seeded seeding
      exact .raised seeding
    · rename_i seeded seeding
      split
      · rename_i noWork
        exact .returned seeding (by simpa using noWork)
      · rename_i work
        exact .waiting seeding (by simpa using work)

/-- What every iteration keeps holds when `execute` waits, returns or raises. -/
theorem executeStart_rule (config : AgenticConfig) (good : World → Prop)
    (moved : ∀ world control next, good world →
      Moves config ⟨.filling, none, world⟩ ⟨control, none, next⟩ → good next)
    (cleaned : ∀ world, good world → good world.cleanUp)
    (world : World) (start : good (world.resetStrategy config)) :
    good (world.executeStart config).2 := by
  have seeded := seed_rule config (fun _ => good) good
    (fun _ _ holds _ => holds) (fun _ world next holds => moved world .idle next holds)
    (fun _ world control next holds => moved world control next holds)
    ((world.resetStrategy config).initialConversationsToStart config) _ start
  generalize result : world.executeStart config = executed
  have cases := executeStart_cases config world
  rw [result] at cases
  cases cases with
  | invalid => exact start
  | raised seeding =>
      rw [seeding] at seeded
      exact cleaned _ (seeded.2 rfl)
  | returned seeding =>
      rw [seeding] at seeded
      exact cleaned _ (seeded.1 rfl)
  | waiting seeding =>
      rw [seeding] at seeded
      exact seeded.1 rfl

/-! ## Forgetting -/

/-- The second world is the first with fewer queries waited for, conversations
and timers. -/
structure Forgets (first second : World) : Prop where
  waiting : ∀ queryId conversationId,
    second.strategy.inflight.get? queryId = some conversationId →
      first.strategy.inflight.get? queryId = some conversationId
  active : ∀ conversationId,
    (second.strategy.activeIters.get? conversationId).isSome →
      (first.strategy.activeIters.get? conversationId).isSome
  timers : TimersShrink first second
  manager : second.manager = first.manager
  issuer : second.issuer = first.issuer
  fields : second.sessionFields = first.sessionFields
  nextUuid : second.nextUuid = first.nextUuid
  history : second.history = first.history

theorem Forgets.phaseType {first second : World} (forgets : Forgets first second) :
    second.phaseType = first.phaseType :=
  congrArg SessionFields.phaseType forgets.fields

theorem forgets_cleanUp (world : World) : Forgets world world.cleanUp := by
  unfold cleanUp
  dsimp only
  rw [cancelTimers_eq, cancelTimers_eq]
  refine ⟨nofun, fun _ => id, ?_, rfl, rfl, rfl, rfl, rfl⟩
  intro handle callback found
  dsimp only at found
  rw [OrderedDict.get?_foldl_erase] at found
  split at found
  · simp at found
  · rw [OrderedDict.get?_foldl_erase] at found
    split at found
    · simp at found
    · exact found

theorem forgets_resetStrategy (config : AgenticConfig) (world : World) :
    Forgets world (world.resetStrategy config) :=
  ⟨nofun, nofun, timersShrink_of_eq rfl, rfl, rfl, rfl, rfl, rfl⟩

namespace Forgets

variable {first second : World}

theorem known (forgets : Forgets first second) (known : Known .idle first) :
    Known .idle second :=
  known.shrink (fun _ => by rw [forgets.manager]) forgets.active forgets.waiting
    forgets.timers nofun

theorem ledger (forgets : Forgets first second) (ledger : Ledger none first) :
    Ledger none second := by
  have sentIds := sentIds_congr forgets.history
  have receivedIds := receivedIds_congr forgets.history
  have collectedIds := collectedIds_congr forgets.history
  have unresolved : second.unresolved = first.unresolved := by
    simp only [World.unresolved, sentIds, receivedIds, collectedIds, forgets.issuer]
  constructor
  · rw [forgets.issuer]
    exact fun queryId conversationId waiting => ledger.waitingRegistered queryId
      conversationId (forgets.waiting queryId conversationId waiting)
  · rw [forgets.issuer]
    exact fun queryId conversationId waiting => ledger.waitingOpen queryId
      conversationId (forgets.waiting queryId conversationId waiting)
  · rw [unresolved]
    exact fun queryId conversationId waiting => ledger.waitingUnresolved queryId
      conversationId (forgets.waiting queryId conversationId waiting)
  · rw [forgets.issuer, forgets.nextUuid]; exact ledger.registeredDrawn
  · rw [sentIds, forgets.nextUuid]; exact ledger.sentDrawn
  · rw [receivedIds, forgets.nextUuid]; exact ledger.receivedDrawn
  · rw [collectedIds, forgets.nextUuid]; exact ledger.collectedDrawn
  · rw [forgets.issuer, collectedIds]; exact ledger.completedCollected
  · rw [forgets.issuer, collectedIds, receivedIds]; exact ledger.registeredSettled
  · exact fun _ uncollected => by cases uncollected
  · rw [forgets.issuer, unresolved]; exact ledger.counted

theorem terminals (forgets : Forgets first second) (terminals : Terminals none first) :
    Terminals none second := by
  have sentIds := sentIds_congr forgets.history
  have receivedIds := receivedIds_congr forgets.history
  have collectedIds := collectedIds_congr forgets.history
  have completeIds := completeIds_congr forgets.history
  constructor
  · rw [completeIds]; exact terminals.atMostOne
  · rw [completeIds, receivedIds, collectedIds]; exact terminals.ended
  · rw [receivedIds]
    exact fun queryId conversationId waiting => terminals.waitingUnreceived queryId
      conversationId (forgets.waiting queryId conversationId waiting)
  · rw [collectedIds]
    exact fun queryId conversationId waiting => terminals.waitingUncollected queryId
      conversationId (forgets.waiting queryId conversationId waiting)
  · rw [forgets.nextUuid]
    exact fun queryId conversationId waiting => terminals.waitingDrawn queryId
      conversationId (forgets.waiting queryId conversationId waiting)
  · rw [sentIds, forgets.nextUuid]; exact terminals.sentDrawn
  · rw [receivedIds, forgets.nextUuid]; exact terminals.receivedDrawn
  · rw [collectedIds, forgets.nextUuid]; exact terminals.collectedDrawn
  · exact fun _ uncollected => by cases uncollected

theorem records (forgets : Forgets first second) (records : IssuerRecords first)
    (owned : first.Owned) : IssuerRecords second ∧ second.Owned := by
  refine ⟨⟨?_, ?_⟩, ?_⟩
  · rw [forgets.issuer, forgets.nextUuid]; exact records.registeredDrawn
  · rw [forgets.issuer]; exact records.completedRegistered
  · rw [World.Owned, forgets.issuer]
    exact fun queryId conversationId waiting =>
      owned queryId conversationId (forgets.waiting queryId conversationId waiting)

end Forgets

theorem Known.idle {control : Control} {world : World} (known : Known control world) :
    Known .idle world :=
  ⟨known.active, known.waiting, known.scheduled, nofun⟩

theorem Known.filling {world : World} (known : Known .idle world) :
    Known .filling world :=
  ⟨known.active, known.waiting, known.scheduled, nofun⟩

/-! ## Entering a phase -/

theorem sameBooks_publishSessionEvent (world : World) (eventType : EventType)
    (data : Option PhaseData) :
    SameBooks world (PhaseState.publishSessionEvent world eventType data) :=
  (SameBooks.observe world rfl rfl rfl (by simp [Observation.completeId?])).trans
    (.observe _ rfl rfl rfl rfl)

theorem sameBooks_startWorld (phase : PhaseConfig) (world : World) :
    SameBooks (PhaseState.freshWorld phase world)
      (PhaseState.startWorld phase world) := by
  unfold PhaseState.startWorld
  dsimp only
  split
  · exact (sameBooks_publishSessionEvent _ _ _).trans
      (sameBooks_publishSessionEvent _ _ _)
  · exact sameBooks_publishSessionEvent _ _ _

theorem startWorld_untouched (phase : PhaseConfig) (world : World) :
    let started := PhaseState.startWorld phase world
    started.manager = world.manager ∧ started.strategy = world.strategy ∧
      started.timers = world.timers ∧ started.phaseType = phase.phaseType := by
  unfold PhaseState.startWorld
  dsimp only
  split <;> exact ⟨rfl, rfl, rfl, rfl⟩

/-! ## Steps of a phase -/

/-- The stop check of the phase refuses every issue. -/
def World.Halted (world : World) : Prop :=
  world.stopRequested = true ∨ world.currentPhaseStopped = true

theorem World.Halted.of_fields {first second : World} (halted : first.Halted)
    (fields : second.sessionFields = first.sessionFields) : second.Halted :=
  halted.imp
    (fun stop => (congrArg SessionFields.stopRequested fields).trans stop)
    (fun stop => (congrArg SessionFields.currentPhaseStopped fields).trans stop)

namespace PhaseState

/-- A step sorted by what it does to the world. -/
inductive Change (config : AgenticConfig) (state next : PhaseState) :
    PhaseLabel → Prop
  /-- The strategy and its timers are not involved. -/
  | quiet {label : PhaseLabel}
      (phase : next.phase = state.phase)
      (strategyIssuer : next.strategyIssuer = state.strategyIssuer)
      (manager : next.world.manager = state.world.manager)
      (strategy : next.world.strategy = state.world.strategy)
      (timers : next.world.timers = state.world.timers)
      (phaseType : next.world.phaseType = state.world.phaseType)
      (halted : state.world.Halted → next.world.Halted)
      (effect : Effect ⟨.idle, none, state.world⟩ ⟨.idle, none, next.world⟩) :
      Change config state next label
  | cleaned {label : PhaseLabel}
      (phase : next.phase = state.phase)
      (strategyIssuer : next.strategyIssuer = state.strategyIssuer)
      (world : next.world = state.world.cleanUp) : Change config state next label
  | executed (phase : next.phase = state.phase)
      (agentic : state.phase.agentic = true)
      (strategyIssuer : next.strategyIssuer = .current)
      (world : next.world = (state.world.executeStart config).2) :
      Change config state next .execute
  | leftover {past sampleIndex : Nat} {issuer : PhaseIssuer}
      (equal : next = state.issueLeftover past issuer sampleIndex) :
      Change config state next (.issueLeftover past sampleIndex)
  | delivered {response : Response}
      (deliverable : state.world.deliverable response = true)
      (equal : next =
        { state with world := state.world.receive config response }) :
      Change config state next (.deliver response)
  | fired {handle : TimerHandle} {world : World}
      (strategyIssuer : state.strategyIssuer = .current)
      (fires : state.world.fireTimer config handle = some world)
      (equal : next = { state with world := world }) :
      Change config state next (.fire handle)
  | firedFormer {handle : TimerHandle} {issuer : PhaseIssuer} {world : World}
      (strategyIssuer : state.strategyIssuer = .former issuer)
      (fires : ({ state.world with issuer := issuer } : World).fireTimer config
        handle = some world)
      (equal : next =
        { state with
            strategyIssuer := .former world.issuer
            world := { world with issuer := state.world.issuer } }) :
      Change config state next (.fire handle)

/-- A step that only sets fields of the session. -/
theorem change_signalled {state next : PhaseState} {label : PhaseLabel}
    (nowNs : Nat) (stopRequested currentPhaseStopped drainEvent : Bool)
    (halted : state.world.Halted →
      stopRequested = true ∨ currentPhaseStopped = true)
    (phase : next.phase = state.phase)
    (strategyIssuer : next.strategyIssuer = state.strategyIssuer)
    (world : next.world =
      { state.world with
          nowNs := nowNs, stopRequested := stopRequested
          currentPhaseStopped := currentPhaseStopped, drainEvent := drainEvent }) :
    Change config state next label := by
  refine .quiet phase strategyIssuer ?_ ?_ ?_ ?_ ?_ (.same rfl ?_)
  all_goals rw [world]
  · exact halted
  · exact sameBooks_signalled state.world nowNs stopRequested currentPhaseStopped
      drainEvent

theorem change_unchanged {state next : PhaseState} {label : PhaseLabel}
    (phase : next.phase = state.phase)
    (strategyIssuer : next.strategyIssuer = state.strategyIssuer)
    (world : next.world = state.world) : Change config state next label := by
  refine .quiet phase strategyIssuer ?_ ?_ ?_ ?_ ?_ (.same rfl ?_)
  all_goals rw [world]
  · exact id
  · exact .refl _

theorem change_finish {state middle : PhaseState} {label : PhaseLabel}
    (stopRequested drainEvent : Bool)
    (stops : state.world.stopRequested = true → stopRequested = true)
    (phase : middle.phase = state.phase)
    (strategyIssuer : middle.strategyIssuer = state.strategyIssuer)
    (world : middle.world =
      { state.world with stopRequested := stopRequested, drainEvent := drainEvent }) :
    Change config state middle.finish label := by
  by_cases performance : middle.phase.phaseType = .performance
  · have finished : middle.finish.world =
        ({ state.world with
          stopRequested := stopRequested
          drainEvent := drainEvent } : World).stopPerformanceTracking := by
      simp [finish, performance, world]
    have fields : middle.finish.world.sessionFields =
        ({ state.world with
          stopRequested := stopRequested
          drainEvent := drainEvent } : World).sessionFields := by
      rw [finished, stopPerformanceTracking_sessionFields]
    refine .quiet phase strategyIssuer ?_ ?_ ?_ ?_ ?_ (.same rfl ?_)
    · rw [finished, stopPerformanceTracking_manager]
    · rw [finished, stopPerformanceTracking_strategy]
    · rw [finished, stopPerformanceTracking_timers]
    · exact congrArg SessionFields.phaseType fields
    · intro halted
      have stopped : ({ state.world with
          stopRequested := stopRequested
          drainEvent := drainEvent } : World).Halted := halted.imp_left stops
      exact stopped.of_fields fields
    · change SameBooks state.world middle.finish.world
      rw [finished]
      exact (sameBooks_signalled state.world state.world.nowNs stopRequested
        state.world.currentPhaseStopped drainEvent).trans
          (sameBooks_stopPerformanceTracking _)
  · refine change_signalled state.world.nowNs stopRequested
      state.world.currentPhaseStopped drainEvent (fun halted => halted.imp_left stops)
      phase strategyIssuer ?_
    simp [finish, performance, world]

theorem change_afterStrategy (state : PhaseState) (label : PhaseLabel) :
    Change config state state.afterStrategy label := by
  have finished : Change config state state.finish label :=
    change_finish state.world.stopRequested state.world.drainEvent id rfl rfl rfl
  unfold afterStrategy startDrain
  split
  · split
    · exact finished
    · exact change_signalled state.world.nowNs state.world.stopRequested
        state.world.currentPhaseStopped false id rfl rfl rfl
  · exact finished

theorem step_change {state next : PhaseState} {label : PhaseLabel}
    (edge : state.step config label = some next) :
    Change config state next label := by
  cases label with
  | execute =>
      simp only [step] at edge
      split at edge
      · split at edge
        · rename_i agentic
          obtain rfl := Option.some.inj edge
          exact .executed rfl agentic rfl rfl
        · obtain rfl := Option.some.inj edge
          exact change_unchanged rfl rfl rfl
      · simp at edge
  | issueSample sampleIndex =>
      simp only [step] at edge
      split at edge
      · obtain rfl := Option.some.inj edge
        have untouched := issue_untouched state.world.issuer.issuedCount state.world
          sampleIndex none "" none
        exact .quiet rfl rfl untouched.1 untouched.2.1 untouched.2.2.1
          (congrArg SessionFields.phaseType untouched.2.2.2)
          (fun halted => halted.of_fields untouched.2.2.2) (issue_effect _ _ _ _ _ _)
      · simp at edge
  | issueLeftover past sampleIndex =>
      obtain ⟨issuer, _, rfl⟩ := Option.map_eq_some_iff.mp edge
      exact .leftover rfl
  | strategyReturns | strategyRaises =>
      simp only [step] at edge
      split at edge
      · obtain rfl := Option.some.inj edge
        exact change_unchanged rfl rfl rfl
      · simp at edge
  | resume =>
      simp only [step] at edge
      split at edge
      · obtain rfl := Option.some.inj edge
        refine .cleaned rfl rfl ?_
        dsimp only
        unfold executeResume
        split <;> rfl
      · simp at edge
  | cancel =>
      simp only [step] at edge
      split at edge
      · obtain rfl := Option.some.inj edge
        by_cases waiting : state.execute = .waiting ∧ state.phase.agentic = true
        · exact .cleaned rfl rfl (by dsimp only; rw [if_pos waiting])
        · exact change_unchanged rfl rfl (by dsimp only; rw [if_neg waiting])
      · simp at edge
  | awaitStrategy =>
      simp only [step] at edge
      split at edge
      · split at edge
        · obtain rfl := Option.some.inj edge
          exact change_afterStrategy state _
        · obtain rfl := Option.some.inj edge
          exact change_afterStrategy state _
        · obtain rfl := Option.some.inj edge
          exact change_unchanged rfl rfl rfl
        · simp at edge
      · simp at edge
  | drained =>
      simp only [step] at edge
      split at edge
      · obtain rfl := Option.some.inj edge
        exact change_finish state.world.stopRequested state.world.drainEvent id rfl rfl rfl
      · simp at edge
  | drainTimeout =>
      simp only [step] at edge
      split at edge
      · obtain rfl := Option.some.inj edge
        exact change_finish true true (fun _ => rfl) rfl rfl rfl
      · simp at edge
  | deliver response =>
      simp only [step] at edge
      split at edge
      · rename_i deliverable
        exact .delivered deliverable (Option.some.inj edge).symm
      · simp at edge
  | fire handle =>
      simp only [step, fireTimer] at edge
      split at edge
      · simp at edge
      · rename_i current
        obtain ⟨world, fires, rfl⟩ := Option.map_eq_some_iff.mp edge
        exact .fired current fires rfl
      · rename_i issuer former
        obtain ⟨world, fires, rfl⟩ := Option.map_eq_some_iff.mp edge
        exact .firedFormer former fires rfl
  | stop =>
      obtain rfl := Option.some.inj edge
      exact change_signalled state.world.nowNs true state.world.currentPhaseStopped true
        (fun _ => Or.inl rfl) rfl rfl rfl
  | stopCurrentPhase =>
      obtain rfl := Option.some.inj edge
      split
      · exact change_signalled state.world.nowNs state.world.stopRequested true
          state.world.drainEvent (fun _ => Or.inr rfl) rfl rfl rfl
      · exact change_unchanged rfl rfl rfl
  | tick nowNs =>
      obtain rfl := Option.some.inj edge
      exact change_signalled nowNs state.world.stopRequested
        state.world.currentPhaseStopped state.world.drainEvent id rfl rfl rfl

end PhaseState

end InferenceEndpoint
