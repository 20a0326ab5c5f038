import InferenceEndpoint.LoadGenerator.InflightAccounting

/-!
# Completion of the agentic strategy

`_all_done` is set only when an error was stored, issuing has stopped, or
nothing is left to do, and then the strategy never issues again.  With the
ledger of the phase this shows that a drain without a stop ends with every
query resolved.
-/

namespace InferenceEndpoint

variable {config : AgenticConfig}

open World

/-! ## A strategy that returned -/

/-- All that may happen are timers whose callbacks do nothing. -/
structure Quiet (moment : Moment) : Prop where
  waiting : ∀ queryId, moment.world.strategy.inflight.get? queryId = none
  active : moment.world.strategy.stopping = true ∨
    ∀ conversationId, moment.world.strategy.activeIters.get? conversationId = none
  control : moment.control = .idle ∨
    ∃ conversationId turn, moment.control = .due conversationId turn
  uncollected : moment.uncollected = none

/-- No turn can be issued for a conversation that is not active. -/
theorem Quiet.notIssuing {moment : Moment} (quiet : Quiet moment)
    {conversationId : String} {state : ActiveConversation}
    (issuing : moment.world.strategy.stopping = false)
    (active : moment.world.strategy.activeIters.get? conversationId = some state) :
    False := by
  rcases quiet.active with stopping | inactive
  · rw [stopping] at issuing
    simp at issuing
  · rw [inactive conversationId] at active
    simp at active

theorem Move.quiet {first second : Moment} (move : Move config first second)
    (quiet : Quiet first) :
    Quiet second ∧ second.world.drainFields = first.world.drainFields := by
  have notHolding : ∀ conversationId, first.control ≠ .holding conversationId := by
    intro conversationId holding
    rcases quiet.control with idle | ⟨_, _, due⟩
    · rw [idle] at holding; simp at holding
    · rw [due] at holding; simp at holding
  have notFilling : first.control ≠ .filling := by
    intro filling
    rcases quiet.control with idle | ⟨_, _, due⟩
    · rw [idle] at filling; simp at filling
    · rw [due] at filling; simp at filling
  have notAborting : ∀ conversationId remaining,
      first.control ≠ .aborting conversationId remaining := by
    intro conversationId remaining aborting
    rcases quiet.control with idle | ⟨_, _, due⟩
    · rw [idle] at aborting; simp at aborting
    · rw [due] at aborting; simp at aborting
  cases move with
  | @answered world result conversationId _ waiting
  | @rejected world result conversationId _ waiting
  | @unroutable world result conversationId waiting =>
      have unexpected := quiet.waiting result.id
      simp [waiting] at unexpected
  | collected =>
      have nothing := quiet.uncollected
      simp at nothing
  | @timedOut world handle queryId _ _ _ _ waiting
  | @timeoutUnroutable world handle queryId _ _ _ waiting =>
      have unexpected := quiet.waiting queryId
      simp [waiting] at unexpected
  | expired => exact ⟨⟨quiet.waiting, quiet.active, Or.inl rfl, rfl⟩, rfl⟩
  | delayElapsed =>
      exact ⟨⟨quiet.waiting, quiet.active, Or.inr ⟨_, _, rfl⟩, rfl⟩, rfl⟩
  | stale => exact ⟨⟨quiet.waiting, quiet.active, Or.inl rfl, quiet.uncollected⟩, rfl⟩
  | issued issuing active | refused issuing active | crashed issuing active =>
      exact (quiet.notIssuing issuing active).elim
  | errorStored =>
      have control := quiet.control
      simp at control
  | finished | delayed | becameDue | released => exact absurd rfl (notHolding _)
  | started | drawFailed | trackingStopped | issuingStopped | completed | waits =>
      exact absurd rfl notFilling
  | skipped | skipRefused | skipUnroutable | aborted =>
      exact absurd rfl (notAborting _ _)

theorem Quiet.moves {first second : Moment} (quiet : Quiet first)
    (moves : Moves config first second) :
    Quiet second ∧ second.world.drainFields = first.world.drainFields :=
  moves.invariant
    (fun moment =>
      Quiet moment ∧ moment.world.drainFields = first.world.drainFields)
    (fun _ _ both move =>
      have next := move.quiet both.1
      ⟨next.1, next.2.trans both.2⟩)
    ⟨quiet, rfl⟩

/-! ## When the completion event is set -/

/-- Nothing is waited for, active or left to start, and no callback is about
to change that. -/
structure Exhausted (config : AgenticConfig) (moment : Moment) : Prop where
  waiting : ∀ queryId, moment.world.strategy.inflight.get? queryId = none
  active : ∀ conversationId,
    moment.world.strategy.activeIters.get? conversationId = none
  started : moment.world.hasMoreConversationInstances config = false
  control : moment.control = .idle ∨ moment.control = .filling ∨
    ∃ conversationId turn, moment.control = .due conversationId turn

/-- The completion event is set for a reason. -/
def Completion (config : AgenticConfig) (moment : Moment) : Prop :=
  moment.world.strategy.allDone = true →
    moment.world.strategy.error = true ∨ moment.world.strategy.stopping = true ∨
      Exhausted config moment

/-- The flags on which completion depends. -/
structure StrategyFlags where
  error : Bool
  allDone : Bool
  stopping : Bool

def AgenticState.flags (strategy : AgenticState) : StrategyFlags where
  error := strategy.error
  allDone := strategy.allDone
  stopping := strategy.stopping

theorem acceptResult_flags (world : World) (result : QueryResult) :
    (world.acceptResult result).strategy.flags = world.strategy.flags := by
  rw [acceptResult_strategy]
  rfl

theorem expireQuery_flags (world : World) (queryId : QueryId) :
    (world.expireQuery queryId).strategy.flags = world.strategy.flags := by
  rw [expireQuery_strategy]
  rfl

theorem dropConversation_flags (world : World) (conversationId : String) :
    (world.dropConversation conversationId).strategy.flags = world.strategy.flags := by
  rw [dropConversation_strategy]
  rfl

theorem stopPerformanceTrackingOnce_flags (world : World) :
    world.stopPerformanceTrackingOnce.strategy.flags = world.strategy.flags := by
  rw [stopPerformanceTrackingOnce_strategy]
  rfl

/-- A step that leaves the flags of the strategy alone. -/
theorem Completion.keep {first second : Moment} (completion : Completion config first)
    (flags : second.world.strategy.flags = first.world.strategy.flags)
    (exhausted : Exhausted config first → Exhausted config second) :
    Completion config second := by
  have allDone : second.world.strategy.allDone = first.world.strategy.allDone :=
    congrArg StrategyFlags.allDone flags
  have error : second.world.strategy.error = first.world.strategy.error :=
    congrArg StrategyFlags.error flags
  have stopping : second.world.strategy.stopping = first.world.strategy.stopping :=
    congrArg StrategyFlags.stopping flags
  rw [Completion, allDone, error, stopping]
  intro done
  exact (completion done).imp_right fun rest => rest.imp_right exhausted

/-- While a result is expected, work is left. -/
theorem Exhausted.notWaiting {moment : Moment} (exhausted : Exhausted config moment)
    {queryId : QueryId} {conversationId : String}
    (waiting : moment.world.strategy.inflight.get? queryId = some conversationId) :
    False := by
  rw [exhausted.waiting queryId] at waiting
  simp at waiting

theorem Exhausted.notActive {moment : Moment} (exhausted : Exhausted config moment)
    {conversationId : String} {state : ActiveConversation}
    (active : moment.world.strategy.activeIters.get? conversationId = some state) :
    False := by
  rw [exhausted.active conversationId] at active
  simp at active

theorem Exhausted.notBusy {moment : Moment} (exhausted : Exhausted config moment)
    (busy : (∃ conversationId, moment.control = .holding conversationId) ∨
      ∃ conversationId remaining,
        moment.control = .aborting conversationId remaining) : False := by
  have control := exhausted.control
  rcases busy with ⟨_, holding⟩ | ⟨_, _, aborting⟩
  · rw [holding] at control
    simp at control
  · rw [aborting] at control
    simp at control

theorem Move.completion {first second : Moment} (move : Move config first second)
    (completion : Completion config first) : Completion config second := by
  cases move with
  | @answered world result conversationId manager waiting =>
      exact completion.keep (acceptResult_flags world result)
        fun exhausted => (exhausted.notWaiting waiting).elim
  | @rejected world result conversationId manager waiting =>
      exact completion.keep
        ((dropConversation_flags _ _).trans (acceptResult_flags world result))
        fun exhausted => (exhausted.notWaiting waiting).elim
  | @unroutable world result conversationId waiting =>
      exact completion.keep (acceptResult_flags world result)
        fun exhausted => (exhausted.notWaiting waiting).elim
  | @timedOut world handle queryId conversationId waitingId manager _ waiting =>
      exact completion.keep ((dropConversation_flags _ _).trans
          (expireQuery_flags (world.cancelTimer handle) queryId))
        fun exhausted => (exhausted.notWaiting waiting).elim
  | @timeoutUnroutable world handle queryId conversationId waitingId _ waiting =>
      exact completion.keep (expireQuery_flags (world.cancelTimer handle) queryId)
        fun exhausted => (exhausted.notWaiting waiting).elim
  | expired | collected | waits | stale =>
      exact completion.keep rfl fun exhausted =>
        ⟨exhausted.waiting, exhausted.active, exhausted.started, Or.inl rfl⟩
  | delayElapsed =>
      exact completion.keep rfl fun exhausted =>
        ⟨exhausted.waiting, exhausted.active, exhausted.started,
          Or.inr (Or.inr ⟨_, _, rfl⟩)⟩
  | finished active => exact completion.keep rfl fun exhausted =>
      (exhausted.notActive active).elim
  | delayed | becameDue | released => exact completion.keep rfl fun exhausted =>
      (exhausted.notBusy (Or.inl ⟨_, rfl⟩)).elim
  | issued issuing active => exact completion.keep rfl fun exhausted =>
      (exhausted.notActive active).elim
  | refused => exact fun _ => Or.inr (Or.inl rfl)
  | @crashed _ world next conversationId turn state issuing active current effects =>
      have strategy : next.strategy =
          (world.popDelayHandle conversationId).strategy := by
        rcases effects with rfl | raised
        · rfl
        · cases raised <;> rfl
      have flags : next.strategy.flags = world.strategy.flags := by
        rw [strategy]
        rfl
      exact completion.keep flags fun exhausted => (exhausted.notActive active).elim
  | drawFailed _ failed =>
      exact completion.keep rfl fun exhausted => by
        have noMore := exhausted.started
        simp [nextConversationInstance, noMore] at failed
  | errorStored => exact fun _ => Or.inl rfl
  | @started _ world drawn started issuing draw =>
      obtain ⟨more, order, base, _, _, _, rfl⟩ :=
        nextConversationInstance_eq_some draw
      exact completion.keep rfl fun exhausted => by
        have noMore := exhausted.started
        simp [more] at noMore
  | @trackingStopped _ world =>
      refine completion.keep (stopPerformanceTrackingOnce_flags world)
        fun exhausted => ?_
      have strategy := stopPerformanceTrackingOnce_strategy world
      refine ⟨?_, ?_, ?_, Or.inr (Or.inl rfl)⟩
      · dsimp only
        rw [strategy]
        exact exhausted.waiting
      · dsimp only
        rw [strategy]
        exact exhausted.active
      · dsimp only
        rw [hasMoreConversationInstances, hasTrajectoryBudget, trajectoryBudget, strategy]
        exact exhausted.started
  | issuingStopped => exact fun _ => Or.inr (Or.inl rfl)
  | @completed _ world noWork =>
      rcases noWork with ⟨stopping, _⟩ | ⟨issuing, noWork⟩
      · exact fun _ => Or.inr (Or.inl stopping)
      · intro _
        right; right
        unfold hasWorkRemaining at noWork
        rw [issuing] at noWork
        simp only [Bool.false_eq_true, if_false, Bool.or_eq_false_iff,
          Bool.not_eq_false'] at noWork
        obtain ⟨⟨⟨active, waiting⟩, _⟩, noMore⟩ := noWork
        exact ⟨OrderedDict.isEmpty_iff.mp waiting, OrderedDict.isEmpty_iff.mp active,
          noMore, Or.inl rfl⟩
  | skipped | skipRefused | skipUnroutable | aborted =>
      exact completion.keep rfl fun exhausted =>
        (exhausted.notBusy (Or.inr ⟨_, _, rfl⟩)).elim

theorem Completion.moves {first second : Moment} (completion : Completion config first)
    (moves : Moves config first second) : Completion config second :=
  moves.invariant (Completion config)
    (fun _ _ completion move => move.completion completion) completion

theorem Completion.filling {uncollected : Option QueryResult} {world : World}
    (completion : Completion config ⟨.idle, uncollected, world⟩) :
    Completion config ⟨.filling, uncollected, world⟩ :=
  completion.keep rfl fun exhausted =>
    ⟨exhausted.waiting, exhausted.active, exhausted.started, Or.inr (Or.inl rfl)⟩

end InferenceEndpoint
