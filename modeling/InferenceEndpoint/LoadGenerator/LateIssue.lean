import InferenceEndpoint.LoadGenerator.LoadStrategies
import InferenceEndpoint.LoadGenerator.Drain

/-!
# No issue after the strategy ended

A cancelled strategy may leave a scheduled callback behind.  As long as its
phase is the current one the callback finds the stop flag set; when the next
phase has cleared the flag, only the duration cap of the callback's own phase
can still refuse it.
-/

namespace InferenceEndpoint.Issuance

namespace Session

/-- The three ends of `issue`. -/
theorem issue_cases (session : Session) (run : PhaseRun) (sendRaises : Bool) :
    (session.stopCheck run = true ∧ session.issue run sendRaises =
      (.refused, session, { run with
        refusedNs := run.refusedNs.or (some session.nowNs) })) ∨
    (session.stopCheck run = false ∧ session.issue run sendRaises =
      (.raised, { session with nextQuery := session.nextQuery + 1 }, run)) ∨
    (session.stopCheck run = false ∧ session.issue run sendRaises =
      (.sent, { session with nextQuery := session.nextQuery + 1 },
        { run with
            issued := run.issued ++ [session.nextQuery]
            issuedCount := run.issuedCount + 1
            inflight := run.inflight + 1 })) := by
  unfold issue
  cases check : session.stopCheck run with
  | true => exact Or.inl ⟨rfl, rfl⟩
  | false =>
      cases sendRaises with
      | true => exact Or.inr (Or.inl ⟨rfl, rfl⟩)
      | false => exact Or.inr (Or.inr ⟨rfl, rfl⟩)

/-- A cap that was reached stays reached. -/
theorem capReached_mono {earlier later : Nat} (notBefore : earlier ≤ later)
    {run : PhaseRun} (reached : capReached earlier run = true) :
    capReached later run = true := by
  simp only [capReached, Bool.and_eq_true, decide_eq_true_eq] at reached ⊢
  omega

/-- A phase starts only when no callback of an earlier strategy is scheduled,
unless the cap of its phase has been reached. -/
def StartsQuietly (session : Session) : Label → Prop
  | .startPhase _ => ∀ run, session.current = some run → run.callback = true →
      capReached session.nowNs run = true
  | _ => True

/-- A run whose task is done issued as many queries as it had then. -/
structure Counted (run : PhaseRun) : Prop where
  issued : run.issued.length = run.issuedCount
  ended : ∀ outcome issuedCount, run.position = .ended outcome issuedCount →
    run.issuedCount = issuedCount

/-- The current run: its callback is scheduled only while `done` is not set,
and after the end of the task only if a stop flag is set. -/
structure Watched (session : Session) (run : PhaseRun) : Prop where
  counted : Counted run
  scheduled : run.callback = true → run.done = none ∧
    run.settings.strategy.schedules = true ∧
      (run.position = .waiting ∨ run.position.isEnded = true)
  flagged : run.callback = true → run.position.isEnded = true →
    session.stopRequested = true ∨ session.currentPhaseStopped = true
  unstarted : run.position = .notStarted → run.done = none

/-- A run of an earlier phase: its callback, if any, will be refused. -/
structure Left (session : Session) (run : PhaseRun) : Prop where
  counted : Counted run
  ended : run.position.isEnded = true
  refused : run.callback = true →
    session.stopRequested = true ∨ capReached session.nowNs run = true

structure NoLateIssue (session : Session) : Prop where
  current : ∀ run, session.current = some run → Watched session run
  past : ∀ run ∈ session.past, Left session run
  done : session.pc ≠ .running → ∀ run, session.current = some run →
    run.position.isEnded = true

variable {session next : Session} {run changed : PhaseRun}

/-- A step that changes the current run and none of the flags. -/
theorem NoLateIssue.withCurrent (noLate : session.NoLateIssue)
    (currentRun : session.current = some run) (watched : Watched session changed)
    (keepsEnded : run.position.isEnded = true → changed.position.isEnded = true)
    (nextRun : next.current = some changed) (past : next.past = session.past)
    (stopRequested : next.stopRequested = session.stopRequested)
    (phaseStopped : next.currentPhaseStopped = session.currentPhaseStopped)
    (nowNs : next.nowNs = session.nowNs) (pc : next.pc = session.pc) :
    next.NoLateIssue where
  current other found := by
    obtain rfl : changed = other := Option.some.inj (nextRun.symm.trans found)
    refine ⟨watched.counted, watched.scheduled, ?_, watched.unstarted⟩
    rw [stopRequested, phaseStopped]
    exact watched.flagged
  past other member := by
    have left := noLate.past other (past ▸ member)
    refine ⟨left.counted, left.ended, ?_⟩
    rw [stopRequested, nowNs]
    exact left.refused
  done notRunning other found := by
    obtain rfl : changed = other := Option.some.inj (nextRun.symm.trans found)
    exact keepsEnded (noLate.done (pc ▸ notRunning) run currentRun)

/-- A step that changes no run, sets no flag back and no clock. -/
theorem NoLateIssue.sameRuns (noLate : session.NoLateIssue)
    (nextRun : next.current = session.current) (past : next.past = session.past)
    (stopRequested : session.stopRequested = true → next.stopRequested = true)
    (phaseStopped : session.currentPhaseStopped = true → next.currentPhaseStopped = true)
    (nowNs : session.nowNs ≤ next.nowNs)
    (done : next.pc ≠ .running → ∀ run, session.current = some run →
      run.position.isEnded = true) :
    next.NoLateIssue where
  current other found := by
    have watched := noLate.current other (nextRun ▸ found)
    exact ⟨watched.counted, watched.scheduled, fun callback ended =>
      (watched.flagged callback ended).imp stopRequested phaseStopped, watched.unstarted⟩
  past other member := by
    have left := noLate.past other (past ▸ member)
    exact ⟨left.counted, left.ended, fun callback =>
      (left.refused callback).imp stopRequested (capReached_mono nowNs)⟩
  done notRunning other found := done notRunning other (nextRun ▸ found)

theorem counted_finish (counted : run.issued.length = run.issuedCount)
    (outcome : Outcome) : Counted (run.finish outcome) where
  issued := counted
  ended _ _ same := by
    simp only [PhaseRun.finish, Position.ended.injEq] at same
    exact same.2

/-- The issuing of a run whose task is not done. -/
theorem Watched.issuing (watched : Watched session run) (sendRaises : Bool)
    (continue_ : PhaseRun → IssueOutcome → PhaseRun)
    (sent : ∀ issued, issued.length = run.issuedCount + 1 → ∀ inflight,
      Watched session (continue_ { run with
        issued := issued, issuedCount := run.issuedCount + 1, inflight := inflight } .sent))
    (refused : ∀ refusedNs,
      Watched session (continue_ { run with refusedNs := refusedNs } .refused))
    (raised : Watched session (continue_ run .raised)) :
    ∃ changed number, session.issueThen run sendRaises continue_ =
      { session with nextQuery := number, current := some changed } ∧
        Watched session changed := by
  unfold issueThen
  rcases session.issue_cases run sendRaises with ⟨_, issues⟩ | ⟨_, issues⟩ | ⟨_, issues⟩
  · rw [issues]
    exact ⟨_, _, rfl, refused _⟩
  · rw [issues]
    exact ⟨_, _, rfl, raised⟩
  · rw [issues]
    refine ⟨_, _, rfl, sent _ ?_ _⟩
    rw [List.length_append, watched.counted.issued]
    rfl

/-- A run without a scheduled callback. -/
theorem Watched.still (counted : Counted run) (callback : run.callback = false)
    (started : run.position ≠ .notStarted) : Watched session run :=
  ⟨counted, by simp [callback], by simp [callback], fun unstarted => absurd unstarted started⟩

/-- A task that ends without a callback. -/
theorem Watched.finished (run : PhaseRun) (issued : run.issued.length = run.issuedCount)
    (callback : run.callback = false) (outcome : Outcome) :
    Watched session (run.finish outcome) :=
  .still (counted_finish issued outcome) callback (by simp [PhaseRun.finish])

/-- A run whose task is not done. -/
theorem Watched.going (issued : run.issued.length = run.issuedCount)
    (going : run.position.isEnded = false) (started : run.position ≠ .notStarted)
    (scheduled : run.callback = true → run.done = none ∧
      run.settings.strategy.schedules = true ∧ run.position = .waiting) :
    Watched session run := by
  refine ⟨⟨issued, ?_⟩, fun callback => ?_, fun _ ended => ?_,
    fun unstarted => absurd unstarted started⟩
  · intro outcome issuedCount position
    rw [position] at going
    simp [Position.isEnded] at going
  · obtain ⟨done, schedules, waiting⟩ := scheduled callback
    exact ⟨done, schedules, Or.inl waiting⟩
  · rw [going] at ended
    simp at ended

/-- The callback of a current run. -/
theorem Watched.afterCallback (watched : Watched session run)
    (callback : run.callback = true) (sendRaises delayRaises : Bool) :
    ∃ changed number, session.issueThen run sendRaises (fun issued outcome =>
        issued.afterCallback delayRaises outcome) =
      { session with nextQuery := number, current := some changed } ∧
        Watched session changed ∧ changed.position = run.position := by
  obtain ⟨done, schedules, place⟩ := watched.scheduled callback
  obtain ⟨issuedCounted, endedCounted⟩ := watched.counted
  have started : run.position ≠ .notStarted := by
    rcases place with waiting | ended
    · simp [waiting]
    · intro unstarted
      simp [unstarted, Position.isEnded] at ended
  unfold issueThen
  rcases session.issue_cases run sendRaises with ⟨_, issues⟩ | ⟨_, issues⟩ | ⟨check, issues⟩
  · rw [issues]
    exact ⟨_, _, rfl, .still ⟨issuedCounted, endedCounted⟩ rfl started, rfl⟩
  · rw [issues]
    exact ⟨_, _, rfl, .still ⟨issuedCounted, endedCounted⟩ rfl started, rfl⟩
  · -- A task that is done left a flag behind, and the flag refuses.
    have waiting : run.position = .waiting := by
      refine place.resolve_right fun ended => ?_
      rcases watched.flagged callback ended with flag | flag
      · simp [stopCheck, flag] at check
      · simp [stopCheck, flag] at check
    rw [issues]
    refine ⟨_, _, rfl, .going ?_ ?_ ?_ ?_, ?_⟩
    · simp only [PhaseRun.afterCallback]
      split <;> simp [issuedCounted]
    · simp only [PhaseRun.afterCallback]
      split <;> simp [waiting, Position.isEnded]
    · simp only [PhaseRun.afterCallback]
      split <;> exact started
    · simp only [PhaseRun.afterCallback]
      split
      · simp
      · exact fun _ => ⟨done, schedules, waiting⟩
    · simp only [PhaseRun.afterCallback]
      split <;> rfl

/-- The callback of an earlier phase is refused. -/
theorem Left.afterCallback (left : Left session run) (callback : run.callback = true)
    (sendRaises delayRaises : Bool) :
    ∃ changed, session.issue run sendRaises = (.refused, session, changed) ∧
      Left session (changed.afterCallback delayRaises .refused) := by
  have check : session.stopCheck run = true := by
    rcases left.refused callback with flag | reached
    · simp [stopCheck, flag]
    · simp [stopCheck, reached]
  rcases session.issue_cases run sendRaises with ⟨_, issues⟩ | ⟨passes, _⟩ | ⟨passes, _⟩
  · refine ⟨_, issues, ⟨left.counted.issued, left.counted.ended⟩, left.ended, ?_⟩
    simp [PhaseRun.afterCallback]
  · rw [check] at passes
    simp at passes
  · rw [check] at passes
    simp at passes

theorem Watched.begin (watched : Watched session run) (delayRaises : Bool)
    (unstarted : run.position = .notStarted) : Watched session (run.begin delayRaises) := by
  have issued := watched.counted.issued
  have done := watched.unstarted unstarted
  have unscheduled : run.callback = false := by
    cases callback : run.callback with
    | false => rfl
    | true =>
        obtain ⟨_, _, place⟩ := watched.scheduled callback
        rw [unstarted] at place
        simp [Position.isEnded] at place
  unfold PhaseRun.begin
  split
  · rename_i strategy
    split
    · exact .going issued rfl (by simp) (by simp [unscheduled])
    · exact .going issued rfl (by simp) fun _ => ⟨done, by simp [strategy]; rfl, rfl⟩
  · rename_i strategy
    exact .going issued rfl (by simp) fun _ => ⟨done, by simp [strategy]; rfl, rfl⟩
  · split
    · exact .finished run issued unscheduled .raised
    · exact .going issued rfl (by simp) (by simp [unscheduled])
  · exact .going issued rfl (by simp) (by simp [unscheduled])
  · exact .going issued rfl (by simp) (by simp [unscheduled])

/-- Only a waiting task has a callback scheduled. -/
theorem Watched.unscheduled (watched : Watched session run)
    (going : run.position.isEnded = false) (notWaiting : run.position ≠ .waiting) :
    run.callback = false := by
  cases callback : run.callback with
  | false => rfl
  | true =>
      obtain ⟨_, _, place⟩ := watched.scheduled callback
      rcases place with waiting | ended
      · exact absurd waiting notWaiting
      · rw [going] at ended
        simp at ended

/-- A step that moves a task without a callback. -/
theorem Watched.moved (watched : Watched session run) (callback : run.callback = false)
    {position : Position} (going : position.isEnded = false)
    (started : position ≠ .notStarted) (permits : Nat) :
    Watched session { run with position := position, permits := permits } :=
  .going watched.counted.issued going started (by simp [callback])

theorem Watched.afterPaced (watched : Watched session run) (callback : run.callback = false)
    (pacing : run.position = .pacing) (sendRaises delayRaises : Bool) :
    ∃ changed number, session.issueThen run sendRaises (fun issued outcome =>
        issued.afterPaced delayRaises outcome) =
      { session with nextQuery := number, current := some changed } ∧
        Watched session changed := by
  have issued := watched.counted.issued
  refine watched.issuing sendRaises _ ?_ ?_ ?_
  · intro others length inflight
    simp only [PhaseRun.afterPaced]
    split
    · exact .finished { run with
        issued := others, issuedCount := run.issuedCount + 1, inflight := inflight } length
        callback .raised
    · exact .going length (by simp [pacing, Position.isEnded]) (by simp [pacing])
        (by simp [callback])
  · exact fun refusedNs =>
      .finished { run with refusedNs := refusedNs } issued callback .returned
  · exact .finished run issued callback .raised

theorem Watched.afterHeld (watched : Watched session run) (callback : run.callback = false)
    (sendRaises : Bool) :
    ∃ changed number, session.issueThen run sendRaises PhaseRun.afterHeld =
      { session with nextQuery := number, current := some changed } ∧
        Watched session changed := by
  have issued := watched.counted.issued
  refine watched.issuing sendRaises _ ?_ ?_ ?_
  · intro others length inflight
    exact .going length rfl (by simp [PhaseRun.afterHeld])
      (by simp [PhaseRun.afterHeld, callback])
  · exact fun refusedNs =>
      .finished { run with refusedNs := refusedNs, permits := run.permits + 1 } issued callback
        .returned
  · exact .finished run issued callback .raised

theorem Watched.agentic (watched : Watched session run)
    (strategy : run.settings.strategy = .agentic) (waiting : run.position = .waiting)
    (sendRaises : Bool) :
    ∃ changed number, session.issueThen run sendRaises (fun issued _ => issued) =
      { session with nextQuery := number, current := some changed } ∧
        Watched session changed := by
  have callback : run.callback = false := by
    cases callback : run.callback with
    | false => rfl
    | true =>
        have schedules := (watched.scheduled callback).2.1
        rw [strategy] at schedules
        simp [LoadStrategy.schedules] at schedules
  have going : run.position.isEnded = false := by simp [waiting, Position.isEnded]
  have started : run.position ≠ .notStarted := by simp [waiting]
  refine watched.issuing sendRaises _ ?_ ?_ ?_
  · exact fun others length inflight => .going length going started (by simp [callback])
  · exact fun refusedNs =>
      .going watched.counted.issued going started (by simp [callback])
  · exact watched

/-- The run that a response belongs to. -/
theorem Watched.complete (watched : Watched session run) :
    Watched session run.complete ∧
      run.complete.position.isEnded = run.position.isEnded := by
  unfold PhaseRun.complete
  split
  · unfold PhaseRun.release
    dsimp only
    split
    · rename_i blocked
      have callback := watched.unscheduled (by simp [blocked, Position.isEnded])
        (by simp [blocked])
      exact ⟨.going watched.counted.issued rfl (by simp) (by simp [callback]),
        by simp [blocked, Position.isEnded]⟩
    · exact ⟨⟨⟨watched.counted.issued, watched.counted.ended⟩, watched.scheduled,
        watched.flagged, watched.unstarted⟩, rfl⟩
  · exact ⟨⟨⟨watched.counted.issued, watched.counted.ended⟩, watched.scheduled,
      watched.flagged, watched.unstarted⟩, rfl⟩

theorem Watched.cancel (watched : Watched session run)
    (flags : session.stopRequested = true ∨ session.currentPhaseStopped = true) :
    Watched session run.cancel := by
  have finished : ∀ permits, Watched session
      ({ run with permits := permits }.finish .cancelled) := by
    intro permits
    refine ⟨@counted_finish { run with permits := permits } watched.counted.issued _, ?_,
      fun _ _ => flags, by simp [PhaseRun.finish]⟩
    intro callback
    obtain ⟨done, schedules, _⟩ := watched.scheduled callback
    exact ⟨done, schedules, Or.inr rfl⟩
  unfold PhaseRun.cancel
  split
  · exact finished _
  · exact finished run.permits

/-- A step of the current phase that issues. -/
theorem NoLateIssue.issued (noLate : session.NoLateIssue) (found : session.current = some run)
    (going : run.position.isEnded = true → changed.position.isEnded = true)
    {number : Nat} (watched : Watched session changed) :
    ({ session with nextQuery := number, current := some changed } : Session).NoLateIssue :=
  noLate.withCurrent found watched going rfl rfl rfl rfl rfl rfl

/-- A step of the current phase that issues nothing. -/
theorem NoLateIssue.moved (noLate : session.NoLateIssue) (found : session.current = some run)
    (going : run.position.isEnded = true → changed.position.isEnded = true)
    (watched : Watched session changed) : (session.setCurrent changed).NoLateIssue :=
  noLate.withCurrent found watched going rfl rfl rfl rfl rfl rfl

/-- A step of the task of the current phase or of its callback. -/
theorem NoLateIssue.currentStep {label : Label} (noLate : session.NoLateIssue)
    (found : session.current = some run) (edge : session.step label = some next)
    (notStart : ∀ settings, label ≠ .startPhase settings)
    (notLeftover : ∀ index sendRaises delayRaises,
      label ≠ .leftover index sendRaises delayRaises)
    (notOutside : label ≠ .stop ∧ (∀ elapsedNs, label ≠ .tick elapsedNs) ∧
      ∀ query, label ≠ .response query) : next.NoLateIssue := by
  have watched := noLate.current run found
  cases label with
  | startPhase settings => exact absurd rfl (notStart settings)
  | leftover index sendRaises delayRaises =>
      exact absurd rfl (notLeftover index sendRaises delayRaises)
  | stop => exact absurd rfl notOutside.1
  | tick elapsedNs => exact absurd rfl (notOutside.2.1 elapsedNs)
  | response query => exact absurd rfl (notOutside.2.2 query)
  | execute delayRaises =>
      simp only [Session.step, found] at edge
      split at edge
      · rename_i unstarted
        obtain rfl := Option.some.inj edge
        exact noLate.moved found (by simp [unstarted, Position.isEnded])
          (watched.begin delayRaises unstarted)
      · simp at edge
  | callback sendRaises delayRaises =>
      simp only [Session.step, found] at edge
      split at edge
      · rename_i callback
        obtain ⟨changed, number, issues, changedWatched, position⟩ :=
          watched.afterCallback callback sendRaises delayRaises
        rw [issues] at edge
        obtain rfl := Option.some.inj edge
        exact noLate.issued found (fun ended => position ▸ ended) changedWatched
      · simp at edge
  | wake =>
      simp only [Session.step, found] at edge
      split at edge
      · rename_i outcome set
        split at edge
        · obtain rfl := Option.some.inj edge
          have callback : run.callback = false := by
            cases callback : run.callback with
            | false => rfl
            | true => simp [(watched.scheduled callback).1] at set
          exact noLate.moved found (fun _ => rfl)
            (.finished run watched.counted.issued callback outcome)
        · simp at edge
      · simp at edge
  | cancelled =>
      simp only [Session.step, found] at edge
      split at edge
      · rename_i enabled
        obtain rfl := Option.some.inj edge
        refine noLate.moved found (fun _ => ?_) (watched.cancel enabled.2)
        unfold PhaseRun.cancel
        split <;> rfl
      · simp at edge
  | pace sendRaises delayRaises =>
      simp only [Session.step, found] at edge
      split at edge
      · rename_i pacing
        have callback := watched.unscheduled (by simp [pacing, Position.isEnded])
          (by simp [pacing])
        obtain ⟨changed, number, issues, changedWatched⟩ :=
          watched.afterPaced callback pacing sendRaises delayRaises
        rw [issues] at edge
        obtain rfl := Option.some.inj edge
        exact noLate.issued found (by simp [pacing, Position.isEnded]) changedWatched
      · simp at edge
  | acquire =>
      simp only [Session.step, found] at edge
      split at edge
      · rename_i acquiring
        have callback := watched.unscheduled (by simp [acquiring, Position.isEnded])
          (by simp [acquiring])
        have going : run.position.isEnded = true → ∀ position : Position,
            position.isEnded = true := by simp [acquiring, Position.isEnded]
        split at edge
        · obtain rfl := Option.some.inj edge
          exact noLate.moved found (fun ended => going ended _)
            (watched.moved callback rfl (by simp) _)
        · obtain rfl := Option.some.inj edge
          exact noLate.moved found (fun ended => going ended _)
            (watched.moved callback rfl (by simp) run.permits)
      · simp at edge
  | resume =>
      simp only [Session.step, found] at edge
      split at edge
      · rename_i woken
        obtain rfl := Option.some.inj edge
        have callback := watched.unscheduled (by simp [woken, Position.isEnded])
          (by simp [woken])
        exact noLate.moved found (by simp [woken, Position.isEnded])
          (watched.moved callback rfl (by simp) run.permits)
      · simp at edge
  | issueHeld sendRaises =>
      simp only [Session.step, found] at edge
      split at edge
      · rename_i holding
        have callback := watched.unscheduled (by simp [holding, Position.isEnded])
          (by simp [holding])
        obtain ⟨changed, number, issues, changedWatched⟩ :=
          watched.afterHeld callback sendRaises
        rw [issues] at edge
        obtain rfl := Option.some.inj edge
        exact noLate.issued found (by simp [holding, Position.isEnded]) changedWatched
      · simp at edge
  | issueAgentic sendRaises =>
      simp only [Session.step, found] at edge
      split at edge
      · rename_i enabled
        obtain ⟨changed, number, issues, changedWatched⟩ :=
          watched.agentic enabled.2 enabled.1 sendRaises
        rw [issues] at edge
        obtain rfl := Option.some.inj edge
        exact noLate.issued found (by simp [enabled.1, Position.isEnded]) changedWatched
      · simp at edge
  | agenticEnds raises =>
      simp only [Session.step, found] at edge
      split at edge
      · rename_i enabled
        obtain rfl := Option.some.inj edge
        have callback : run.callback = false := by
          cases callback : run.callback with
          | false => rfl
          | true =>
              have schedules := (watched.scheduled callback).2.1
              rw [enabled.2] at schedules
              simp [LoadStrategy.schedules] at schedules
        exact noLate.moved found (fun _ => rfl)
          (.finished run watched.counted.issued callback _)
      · simp at edge
  | awaitStrategy =>
      simp only [Session.step, found] at edge
      split at edge
      · split at edge
        · rename_i ended
          obtain rfl := Option.some.inj edge
          refine noLate.sameRuns found.symm rfl id id (Nat.le_refl _) fun _ other same => ?_
          obtain rfl := Option.some.inj (found.symm.trans same)
          simp [ended, Position.isEnded]
        · rename_i ended
          obtain rfl := Option.some.inj edge
          have done : ∀ other, session.current = some other →
              other.position.isEnded = true := by
            intro other same
            obtain rfl := Option.some.inj (found.symm.trans same)
            simp [ended, Position.isEnded]
          unfold afterStrategy
          split
          · exact noLate.sameRuns rfl rfl id id (Nat.le_refl _) fun _ => done
          · exact noLate.sameRuns rfl rfl id id (Nat.le_refl _) fun _ => done
        · simp at edge
      · simp at edge
  | drained =>
      simp only [Session.step, found] at edge
      split at edge
      · rename_i enabled
        obtain rfl := Option.some.inj edge
        exact noLate.sameRuns found.symm rfl id id (Nat.le_refl _)
          fun _ => noLate.done (by simp [enabled.1])
      · simp at edge
  | drainTimeout =>
      simp only [Session.step, found] at edge
      split at edge
      · rename_i draining
        obtain rfl := Option.some.inj edge
        exact noLate.sameRuns rfl rfl (fun _ => rfl) id (Nat.le_refl _)
          fun _ => noLate.done (by simp [draining])
      · simp at edge
  | stopCurrentPhase =>
      simp only [Session.step, found] at edge
      split at edge
      · obtain rfl := Option.some.inj edge
        exact noLate.sameRuns found.symm rfl id (fun _ => rfl) (Nat.le_refl _) noLate.done
      · obtain rfl := Option.some.inj edge
        exact noLate

theorem NoLateIssue.step {label : Label} (noLate : session.NoLateIssue)
    (quietly : session.StartsQuietly label) (edge : session.step label = some next) :
    next.NoLateIssue := by
  cases label with
  | startPhase settings =>
      simp only [Session.step] at edge
      split at edge
      · rename_i enabled
        obtain rfl := Option.some.inj edge
        refine ⟨?_, ?_, by simp [enter]⟩
        · intro run found
          obtain rfl := Option.some.inj found
          exact ⟨⟨rfl, by simp⟩, by simp, by simp, fun _ => rfl⟩
        · intro run member
          rcases List.mem_append.mp member with old | last
          · have left := noLate.past run old
            exact ⟨left.counted, left.ended, left.refused⟩
          · have found : session.current = some run := by simpa using last
            have watched := noLate.current run found
            exact ⟨watched.counted, noLate.done (by simp [enabled.1]) run found,
              fun callback => Or.inr (quietly run found callback)⟩
      · simp at edge
  | stop =>
      obtain rfl := Option.some.inj edge
      exact noLate.sameRuns rfl rfl (fun _ => rfl) id (Nat.le_refl _) noLate.done
  | tick elapsedNs =>
      obtain rfl := Option.some.inj edge
      exact noLate.sameRuns rfl rfl id id (Nat.le_add_right _ _) noLate.done
  | response query =>
      simp only [Session.step] at edge
      split at edge
      · obtain rfl := Option.some.inj edge
        cases found : session.current with
        | none =>
            rw [respond, found]
            exact noLate.sameRuns found.symm rfl id id (Nat.le_refl _) (by simp [found])
        | some run =>
            have completed := (noLate.current run found).complete
            rw [respond, found]
            dsimp only
            split
            · exact noLate.withCurrent found completed.1 (fun ended => completed.2 ▸ ended)
                rfl rfl rfl rfl rfl rfl
            · exact noLate.sameRuns found.symm rfl id id (Nat.le_refl _) noLate.done
      · simp at edge
  | leftover index sendRaises delayRaises =>
      simp only [Session.step] at edge
      split at edge
      · simp at edge
      · rename_i run found
        split at edge
        · rename_i callback
          obtain rfl := Option.some.inj edge
          have left := noLate.past run (List.mem_of_getElem? found)
          obtain ⟨changed, issues, stays⟩ :=
            left.afterCallback callback sendRaises delayRaises
          rw [issues]
          refine ⟨?_, ?_, noLate.done⟩
          · intro other current
            have watched := noLate.current other current
            exact ⟨watched.counted, watched.scheduled, watched.flagged, watched.unstarted⟩
          · intro other member
            rcases List.mem_or_eq_of_mem_set member with old | same
            · have left := noLate.past other old
              exact ⟨left.counted, left.ended, left.refused⟩
            · rw [same]
              exact ⟨stays.counted, stays.ended, stays.refused⟩
        · simp at edge
  | _ =>
      cases found : session.current with
      | none => simp [Session.step, found] at edge
      | some run =>
          exact noLate.currentStep found edge (by simp) (by simp) (by simp)

end Session

end InferenceEndpoint.Issuance
