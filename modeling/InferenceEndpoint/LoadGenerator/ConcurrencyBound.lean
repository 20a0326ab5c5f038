import InferenceEndpoint.LoadGenerator.IssuanceSteps

/-!
# The concurrency bound

The permits of a concurrency strategy are in the semaphore, with an unanswered
query, or held by the task between `acquire` and the end of `issue`.  A result
reaches the semaphore only through the issuer of the current phase, so while
every query is answered at most once no permit is lost or created.
-/

namespace InferenceEndpoint.Issuance

namespace PhaseRun

/-- The queries of the run without a result. -/
def unanswered (run : PhaseRun) (answered : List QueryId) : List QueryId :=
  run.issued.filter (· ∉ answered)

end PhaseRun

namespace Session

/-- The permits of a concurrency strategy. -/
structure Balanced (session : Session) (run : PhaseRun) (targetConcurrency : Nat) : Prop where
  total : run.permits + (run.unanswered session.answered).length + run.position.heldPermits =
    targetConcurrency
  inflight : run.inflight = (run.unanswered session.answered).length
  unscheduled : run.callback = false ∧ run.done = none
  stage : run.position ≠ .waiting ∧ run.position ≠ .pacing

/-- Query numbers are drawn once, before their results arrive. -/
structure Numbered (session : Session) (run : PhaseRun) : Prop where
  distinct : run.issued.Nodup
  drawn : ∀ query ∈ run.issued, query < session.nextQuery

structure Regulated (session : Session) : Prop where
  answered : ∀ query ∈ session.answered, query < session.nextQuery
  numbered : ∀ run, session.current = some run → Numbered session run
  balanced : ∀ run, session.current = some run → ∀ targetConcurrency positive,
    run.settings.strategy = .concurrency targetConcurrency positive →
      Balanced session run targetConcurrency

/-- Every query gets at most one result. -/
def AnswersOnce (session : Session) : Label → Prop
  | .response query => query ∉ session.answered
  | _ => True

instance (session : Session) (label : Label) : Decidable (session.AnswersOnce label) := by
  cases label <;> unfold AnswersOnce <;> infer_instance

variable {session next : Session} {run changed : PhaseRun} {targetConcurrency : Nat}

/-- A query drawn now is unanswered. -/
theorem unanswered_append {answered : List QueryId} {query : QueryId}
    (fresh : query ∉ answered) (run : PhaseRun) (issuedCount inflight : Nat) :
    ({ run with
        issued := run.issued ++ [query]
        issuedCount := issuedCount
        inflight := inflight } : PhaseRun).unanswered answered =
      run.unanswered answered ++ [query] := by
  simp [PhaseRun.unanswered, List.filter_append, fresh]

/-- The answer of a query takes it off the unanswered ones. -/
theorem unanswered_cons {answered : List QueryId} {query : QueryId}
    (numbered : run.issued.Nodup) (owned : query ∈ run.issued) (fresh : query ∉ answered) :
    (run.unanswered answered).length =
      (run.unanswered (query :: answered)).length + 1 := by
  unfold PhaseRun.unanswered
  have split : run.issued.filter (· ∉ query :: answered) =
      (run.issued.filter (· ∉ answered)).erase query := by
    rw [(numbered.filter _).erase_eq_filter, List.filter_filter]
    refine List.filter_congr fun other _ => ?_
    by_cases same : other = query
    · simp [same]
    · simp [same]
  have member : query ∈ run.issued.filter (· ∉ answered) := by
    simp [owned, fresh]
  rw [split, List.length_erase_of_mem member]
  have positive := List.length_pos_of_mem member
  omega

/-- The answer of another query changes nothing. -/
theorem unanswered_foreign {answered : List QueryId} {query : QueryId}
    (foreign : query ∉ run.issued) :
    run.unanswered (query :: answered) = run.unanswered answered := by
  unfold PhaseRun.unanswered
  refine List.filter_congr fun other member => ?_
  have different : other ≠ query := fun same => foreign (same ▸ member)
  simp [different]

/-- What `issue` does to the permits of the run it issues for: a query that was
sent is unanswered. -/
theorem Issues.balanced {outcome : IssueOutcome} {issued : PhaseRun} {number : QueryId}
    (issues : session.Issues run outcome issued number)
    (answered : ∀ query ∈ session.answered, query < session.nextQuery) :
    issued.settings = run.settings ∧ issued.permits = run.permits ∧
      issued.callback = run.callback ∧ issued.done = run.done ∧
      (issued.unanswered session.answered).length =
        (run.unanswered session.answered).length + (if outcome = .sent then 1 else 0) ∧
      issued.inflight = run.inflight + (if outcome = .sent then 1 else 0) := by
  cases issues with
  | refused check => exact ⟨rfl, rfl, rfl, rfl, rfl, rfl⟩
  | raised check => exact ⟨rfl, rfl, rfl, rfl, rfl, rfl⟩
  | sent check =>
      have fresh : session.nextQuery ∉ session.answered :=
        fun member => Nat.lt_irrefl _ (answered _ member)
      refine ⟨rfl, rfl, rfl, rfl, ?_, rfl⟩
      rw [unanswered_append fresh, List.length_append]
      rfl

theorem Issues.numbered {outcome : IssueOutcome} {issued : PhaseRun} {number : QueryId}
    (issues : session.Issues run outcome issued number) (numbered : Numbered session run) :
    session.nextQuery ≤ number ∧ issued.issued.Nodup ∧
      ∀ query ∈ issued.issued, query < number := by
  obtain ⟨distinct, drawn⟩ := numbered
  cases issues with
  | refused check => exact ⟨Nat.le_refl _, distinct, drawn⟩
  | raised check =>
      exact ⟨Nat.le_succ _, distinct, fun query member =>
        Nat.lt_succ_of_lt (drawn query member)⟩
  | sent check =>
      refine ⟨Nat.le_succ _, ?_, ?_⟩
      · refine List.nodup_append.mpr ⟨distinct, by simp, ?_⟩
        rintro query member _ new rfl
        have same : query = session.nextQuery := by simpa using new
        exact Nat.lt_irrefl _ (same ▸ drawn query member)
      · intro query member
        rcases List.mem_append.mp member with old | new
        · exact Nat.lt_succ_of_lt (drawn query old)
        · have same : query = session.nextQuery := by simpa using new
          exact same ▸ Nat.lt_succ_self _

/-- An advance draws no number twice. -/
theorem Advance.numbered {number : QueryId} (advance : session.Advance run changed number)
    (numbered : Numbered session run) :
    session.nextQuery ≤ number ∧ changed.issued.Nodup ∧
      ∀ query ∈ changed.issued, query < number := by
  have same : ∀ other : PhaseRun, other.issued = run.issued →
      session.nextQuery ≤ session.nextQuery ∧ other.issued.Nodup ∧
        ∀ query ∈ other.issued, query < session.nextQuery := by
    intro other issued
    rw [issued]
    exact ⟨Nat.le_refl _, numbered.distinct, numbered.drawn⟩
  cases advance with
  | begun unstarted =>
      refine same _ ?_
      unfold PhaseRun.begin
      split <;> (try split) <;> rfl
  | cancelled suspended flags =>
      refine same _ ?_
      unfold PhaseRun.cancel
      split <;> rfl
  | woke done waiting => exact same _ rfl
  | acquired acquiring free => exact same _ rfl
  | blocked acquiring exhausted => exact same _ rfl
  | resumed woken => exact same _ rfl
  | agenticEnded waiting strategy => exact same _ rfl
  | agentic waiting strategy issues => exact issues.numbered numbered
  | @calledBack delayRaises outcome issued number callback issues =>
      have after : (issued.afterCallback delayRaises outcome).issued = issued.issued := by
        unfold PhaseRun.afterCallback
        cases outcome <;> dsimp only
        split <;> rfl
      rw [after]
      exact issues.numbered numbered
  | @paced delayRaises outcome issued number pacing issues =>
      have after : (issued.afterPaced delayRaises outcome).issued = issued.issued := by
        unfold PhaseRun.afterPaced
        cases outcome <;> dsimp only [PhaseRun.finish]
        split <;> rfl
      rw [after]
      exact issues.numbered numbered
  | @held outcome issued number holding issues =>
      have after : (issued.afterHeld outcome).issued = issued.issued := by
        cases outcome <;> rfl
      rw [after]
      exact issues.numbered numbered

/-- An advance of a concurrency strategy moves permits between the semaphore, the
task and the queries. -/
theorem Advance.balanced {number : QueryId} {positive : 0 < targetConcurrency}
    (advance : session.Advance run changed number)
    (answered : ∀ query ∈ session.answered, query < session.nextQuery)
    (strategy : run.settings.strategy = .concurrency targetConcurrency positive)
    (balanced : Balanced session run targetConcurrency) :
    Balanced session changed targetConcurrency := by
  obtain ⟨total, inflight, ⟨callback, done⟩, notWaiting, notPacing⟩ := balanced
  cases advance with
  | begun unstarted =>
      have begins : ∀ delayRaises, run.begin delayRaises =
          { run with position := .acquiring } := by
        intro delayRaises
        rw [PhaseRun.begin, strategy]
      rw [begins]
      refine ⟨?_, inflight, ⟨callback, done⟩, by simp, by simp⟩
      simpa [unstarted, Position.heldPermits, PhaseRun.unanswered] using total
  | calledBack scheduled issues => simp [callback] at scheduled
  | woke ended waiting => exact absurd waiting notWaiting
  | cancelled suspended flags =>
      unfold PhaseRun.cancel
      split
      · rename_i woken
        refine ⟨?_, inflight, ⟨callback, done⟩, by simp [PhaseRun.finish]⟩
        simp only [woken, Position.heldPermits] at total
        simp only [PhaseRun.finish, Position.heldPermits, PhaseRun.unanswered] at total ⊢
        omega
      · rename_i notWoken
        have notHeld : run.position.heldPermits = 0 := by
          cases position : run.position <;>
            simp [position, Position.suspended, Position.heldPermits] at suspended notWoken ⊢
        refine ⟨?_, inflight, ⟨callback, done⟩, by simp [PhaseRun.finish]⟩
        rw [notHeld] at total
        exact total
  | paced pacing issues => exact absurd pacing notPacing
  | acquired acquiring free =>
      refine ⟨?_, inflight, ⟨callback, done⟩, by simp⟩
      simp only [acquiring, Position.heldPermits, PhaseRun.unanswered] at total ⊢
      omega
  | blocked acquiring exhausted =>
      refine ⟨?_, inflight, ⟨callback, done⟩, by simp⟩
      simpa [acquiring, Position.heldPermits, PhaseRun.unanswered] using total
  | resumed woken =>
      refine ⟨?_, inflight, ⟨callback, done⟩, by simp⟩
      simpa [woken, Position.heldPermits, PhaseRun.unanswered] using total
  | @held outcome issued number holding issues =>
      obtain ⟨settings, permits, sameCallback, sameDone, length, count⟩ :=
        issues.balanced answered
      have idle : issued.callback = false ∧ issued.done = none :=
        ⟨sameCallback.trans callback, sameDone.trans done⟩
      simp only [holding, Position.heldPermits] at total
      simp only [PhaseRun.unanswered] at length total inflight
      cases outcome with
      | sent =>
          refine ⟨?_, ?_, idle, by simp [PhaseRun.afterHeld]⟩
          · simp only [PhaseRun.afterHeld, PhaseRun.unanswered, Position.heldPermits]
            simp only [if_true] at length
            omega
          · simp only [PhaseRun.afterHeld, PhaseRun.unanswered]
            simp only [if_true] at length count
            omega
      | refused =>
          refine ⟨?_, ?_, idle, by simp [PhaseRun.afterHeld, PhaseRun.finish]⟩
          · simp only [PhaseRun.afterHeld, PhaseRun.finish, PhaseRun.unanswered,
              Position.heldPermits]
            simp only [reduceCtorEq, if_false] at length
            omega
          · simp only [PhaseRun.afterHeld, PhaseRun.finish, PhaseRun.unanswered]
            simp only [reduceCtorEq, if_false] at length count
            omega
      | raised =>
          refine ⟨?_, ?_, idle, by simp [PhaseRun.afterHeld, PhaseRun.finish]⟩
          · simp only [PhaseRun.afterHeld, PhaseRun.finish, PhaseRun.unanswered,
              Position.heldPermits]
            simp only [reduceCtorEq, if_false] at length
            omega
          · simp only [PhaseRun.afterHeld, PhaseRun.finish, PhaseRun.unanswered]
            simp only [reduceCtorEq, if_false] at length count
            omega
  | agentic waiting agentic issues => exact absurd waiting notWaiting
  | agenticEnded waiting agentic => exact absurd waiting notWaiting

/-- The answer of a query of the run releases its permit. -/
theorem Balanced.complete {query : QueryId} {positive : 0 < targetConcurrency}
    (balanced : Balanced session run targetConcurrency) (numbered : run.issued.Nodup)
    (strategy : run.settings.strategy = .concurrency targetConcurrency positive)
    (owned : query ∈ run.issued) (fresh : query ∉ session.answered)
    (answers : next.answered = query :: session.answered) :
    Balanced next run.complete targetConcurrency := by
  obtain ⟨total, inflight, unscheduled, notWaiting, notPacing⟩ := balanced
  have fewer := unanswered_cons numbered owned fresh
  have completes : run.complete =
      ({ run with inflight := run.inflight - 1 } : PhaseRun).release := by
    rw [PhaseRun.complete, strategy]
  rw [completes, PhaseRun.release]
  split
  · rename_i blocked
    dsimp only at blocked
    simp only [blocked, Position.heldPermits] at total
    refine ⟨?_, ?_, unscheduled, by simp⟩
    · rw [answers]
      simp only [Position.heldPermits, PhaseRun.unanswered] at fewer total ⊢
      omega
    · rw [answers]
      simp only [PhaseRun.unanswered] at fewer inflight ⊢
      omega
  · refine ⟨?_, ?_, unscheduled, notWaiting, notPacing⟩
    · rw [answers]
      simp only [PhaseRun.unanswered] at fewer total ⊢
      omega
    · rw [answers]
      simp only [PhaseRun.unanswered] at fewer inflight ⊢
      omega

/-- Whether the books of the run are balanced depends on the answers only. -/
theorem Balanced.congr (balanced : Balanced session run targetConcurrency)
    (answers : run.unanswered next.answered = run.unanswered session.answered) :
    Balanced next run targetConcurrency := by
  refine ⟨?_, ?_, balanced.unscheduled, balanced.stage⟩
  · rw [answers]
    exact balanced.total
  · rw [answers]
    exact balanced.inflight

theorem Advance.settings {number : QueryId} (advance : session.Advance run changed number) :
    changed.settings = run.settings := by
  have issued : ∀ {outcome issued number}, session.Issues run outcome issued number →
      issued.settings = run.settings := by
    intro outcome issued number issues
    cases issues <;> rfl
  cases advance with
  | begun unstarted =>
      unfold PhaseRun.begin
      split <;> (try split) <;> rfl
  | cancelled suspended flags =>
      unfold PhaseRun.cancel
      split <;> rfl
  | woke | acquired | blocked | resumed | agenticEnded => rfl
  | agentic waiting strategy issues => exact issued issues
  | @calledBack delayRaises outcome run number callback issues =>
      rw [← issued issues]
      unfold PhaseRun.afterCallback
      cases outcome <;> dsimp only
      split <;> rfl
  | @paced delayRaises outcome run number pacing issues =>
      rw [← issued issues]
      unfold PhaseRun.afterPaced
      cases outcome <;> dsimp only [PhaseRun.finish]
      split <;> rfl
  | @held outcome run number holding issues =>
      rw [← issued issues]
      cases outcome <;> rfl

theorem Regulated.step {label : Label} (regulated : session.Regulated)
    (once : session.AnswersOnce label) (edge : session.step label = some next) :
    next.Regulated := by
  obtain ⟨answered, numbered, balanced⟩ := regulated
  cases step_change edge with
  | @entered settings idle running equal =>
      subst equal
      refine ⟨answered, ?_, ?_⟩
      · rintro _ ⟨⟩
        exact ⟨List.nodup_nil, by simp⟩
      · rintro _ ⟨⟩ targetConcurrency positive strategy
        dsimp only at strategy
        refine ⟨?_, rfl, ⟨rfl, rfl⟩, by simp⟩
        simp [strategy, LoadStrategy.permits, PhaseRun.unanswered, Position.heldPermits]
  | flagged current past stopped phaseStopped nextQuery answers =>
      refine ⟨?_, ?_, ?_⟩
      · rw [answers, nextQuery]
        exact answered
      · intro run found
        obtain ⟨distinct, drawn⟩ := numbered run (current ▸ found)
        exact ⟨distinct, nextQuery ▸ drawn⟩
      · intro run found targetConcurrency positive strategy
        exact (balanced run (current ▸ found) targetConcurrency positive strategy).congr
          (by rw [answers])
  | @advanced _ run changed number found advance equal =>
      obtain ⟨notBefore, distinct, drawn⟩ := advance.numbered (numbered run found)
      subst equal
      refine ⟨?_, ?_, ?_⟩
      · exact fun query member => Nat.lt_of_lt_of_le (answered query member) notBefore
      · rintro _ ⟨⟩
        exact ⟨distinct, drawn⟩
      · rintro _ ⟨⟩ targetConcurrency positive strategy
        rw [advance.settings] at strategy
        exact (advance.balanced answered strategy
          (balanced run found targetConcurrency positive strategy)).congr rfl
  | @leftover index sendRaises delayRaises run issued outcome number found callback issues
      equal =>
      have notBefore : session.nextQuery ≤ number := by
        cases issues with
        | refused check => exact Nat.le_refl _
        | raised check => exact Nat.le_succ _
        | sent check => exact Nat.le_succ _
      subst equal
      refine ⟨?_, ?_, ?_⟩
      · exact fun query member => Nat.lt_of_lt_of_le (answered query member) notBefore
      · intro run found
        obtain ⟨distinct, drawn⟩ := numbered run found
        exact ⟨distinct, fun query member =>
          Nat.lt_of_lt_of_le (drawn query member) notBefore⟩
      · intro run found targetConcurrency positive strategy
        exact (balanced run found targetConcurrency positive strategy).congr rfl
  | @responded query drawn equal =>
      have nextAnswered : ∀ other ∈ query :: session.answered, other < session.nextQuery := by
        intro other member
        rcases List.mem_cons.mp member with rfl | old
        · exact drawn
        · exact answered other old
      subst equal
      rcases session.respond_cases query with ⟨run, found, owned, equal⟩ | ⟨foreign, equal⟩
      · have sameIssued : run.complete.issued = run.issued ∧
            run.complete.settings = run.settings := by
          unfold PhaseRun.complete PhaseRun.release
          split
          · dsimp only
            split <;> exact ⟨rfl, rfl⟩
          · exact ⟨rfl, rfl⟩
        rw [equal]
        refine ⟨nextAnswered, ?_, ?_⟩
        · rintro _ ⟨⟩
          have before := numbered run found
          refine ⟨?_, ?_⟩
          · rw [sameIssued.1]
            exact before.distinct
          · rw [sameIssued.1]
            exact before.drawn
        · rintro _ ⟨⟩ targetConcurrency positive strategy
          rw [sameIssued.2] at strategy
          exact (balanced run found targetConcurrency positive strategy).complete
            (numbered run found).distinct strategy owned once rfl
      · rw [equal]
        refine ⟨nextAnswered, ?_, ?_⟩
        · intro run found
          have before := numbered run found
          exact ⟨before.distinct, before.drawn⟩
        · intro run found targetConcurrency positive strategy
          exact (balanced run found targetConcurrency positive strategy).congr
            (unanswered_foreign (foreign run found))

theorem regulated_initial : Regulated {} :=
  ⟨by simp, by simp, by simp⟩

/-- In every reachable state of a concurrency phase the free permits, the
unanswered queries and the permit that the task holds add up to the target, and
the unanswered queries are the ones in flight. -/
theorem concurrency_bound (labels : List Label) (final : Session)
    (once : GuardedRuns.Meets step AnswersOnce {} labels)
    (runs : GuardedRuns.run step {} labels = some final) (run : PhaseRun)
    (found : final.current = some run) (targetConcurrency : Nat)
    (positive : 0 < targetConcurrency)
    (strategy : run.settings.strategy = .concurrency targetConcurrency positive) :
    run.permits + (run.unanswered final.answered).length + run.position.heldPermits =
        targetConcurrency ∧
      run.inflight = (run.unanswered final.answered).length ∧
      run.inflight ≤ targetConcurrency := by
  have reached : final.Regulated := GuardedRuns.invariant_of_meets
    (fun session label next holds guard edge => holds.step guard edge)
    regulated_initial once runs
  have balanced := reached.balanced run found targetConcurrency positive strategy
  have total := balanced.total
  have inflight := balanced.inflight
  exact ⟨total, inflight, by omega⟩

/-- One permit: the second sample waits for the result of the first one. -/
def onePermit : List Label :=
  [.startPhase
      { strategy := .concurrency 1 (by decide), totalSamples := 2 },
    .execute false, .acquire, .issueHeld false, .acquire, .response 0, .resume,
    .issueHeld false]

theorem concurrency_bound_onePermit :
    ∃ final run, GuardedRuns.run step {} onePermit = some final ∧
      final.current = some run ∧ run.issued.length = 2 ∧ run.inflight ≤ 1 := by
  have once : GuardedRuns.Meets step AnswersOnce {} onePermit := by decide
  refine ⟨_, _, rfl, rfl, rfl, ?_⟩
  exact (concurrency_bound onePermit _ once rfl _ rfl 1 (by decide) rfl).2.2

end Session

end InferenceEndpoint.Issuance
