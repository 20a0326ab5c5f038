import InferenceEndpoint.LoadGenerator.LateIssue

/-!
# Steps of a session by what they do to its phases

A step starts a phase, sets a flag or the clock, answers a query, runs a
callback of an earlier phase, or advances the current phase.  `Advance` lists
the ways in which the current phase advances, each with the condition under
which it is enabled.
-/

namespace InferenceEndpoint.Issuance

namespace Session

/-- The ends of `issue`: how it ended, what became of the run, and the number of
the next query. -/
inductive Issues (session : Session) (run : PhaseRun) :
    IssueOutcome → PhaseRun → QueryId → Prop
  | refused (check : session.stopCheck run = true) :
      Issues session run .refused
        { run with refusedNs := run.refusedNs.or (some session.nowNs) }
        session.nextQuery
  | raised (check : session.stopCheck run = false) :
      Issues session run .raised run (session.nextQuery + 1)
  | sent (check : session.stopCheck run = false) :
      Issues session run .sent
        { run with
            issued := run.issued ++ [session.nextQuery]
            issuedCount := run.issuedCount + 1
            inflight := run.inflight + 1 }
        (session.nextQuery + 1)

/-- The ways in which the current phase advances. -/
inductive Advance (session : Session) (run : PhaseRun) : PhaseRun → QueryId → Prop
  | begun {delayRaises : Bool} (unstarted : run.position = .notStarted) :
      Advance session run (run.begin delayRaises) session.nextQuery
  | calledBack {delayRaises : Bool} {outcome : IssueOutcome} {issued : PhaseRun}
      {number : QueryId} (callback : run.callback = true)
      (issues : session.Issues run outcome issued number) :
      Advance session run (issued.afterCallback delayRaises outcome) number
  | woke {outcome : Outcome} (done : run.done = some outcome)
      (waiting : run.position = .waiting) :
      Advance session run (run.finish outcome) session.nextQuery
  | cancelled (suspended : run.position.suspended = true)
      (flags : session.stopRequested = true ∨ session.currentPhaseStopped = true) :
      Advance session run run.cancel session.nextQuery
  | paced {delayRaises : Bool} {outcome : IssueOutcome} {issued : PhaseRun}
      {number : QueryId} (pacing : run.position = .pacing)
      (issues : session.Issues run outcome issued number) :
      Advance session run (issued.afterPaced delayRaises outcome) number
  | acquired (acquiring : run.position = .acquiring) (free : 0 < run.permits) :
      Advance session run { run with position := .holding, permits := run.permits - 1 }
        session.nextQuery
  | blocked (acquiring : run.position = .acquiring) (exhausted : run.permits = 0) :
      Advance session run { run with position := .blocked } session.nextQuery
  | resumed (woken : run.position = .woken) :
      Advance session run { run with position := .holding } session.nextQuery
  | held {outcome : IssueOutcome} {issued : PhaseRun} {number : QueryId}
      (holding : run.position = .holding)
      (issues : session.Issues run outcome issued number) :
      Advance session run (issued.afterHeld outcome) number
  | agentic {outcome : IssueOutcome} {issued : PhaseRun} {number : QueryId}
      (waiting : run.position = .waiting) (strategy : run.settings.strategy = .agentic)
      (issues : session.Issues run outcome issued number) :
      Advance session run issued number
  | agenticEnded {outcome : Outcome} (waiting : run.position = .waiting)
      (strategy : run.settings.strategy = .agentic) :
      Advance session run (run.finish outcome) session.nextQuery

/-- A step sorted by what it does to the phases. -/
inductive Change (session next : Session) : Label → Prop
  | entered {settings : PhaseSettings} (idle : session.pc = .idle)
      (running : session.stopRequested = false)
      (equal : next = session.enter settings) :
      Change session next (.startPhase settings)
  /-- Only flags and the clock change. -/
  | flagged {label : Label} (current : next.current = session.current)
      (past : next.past = session.past)
      (stopped : session.stopRequested = true → next.stopRequested = true)
      (phaseStopped : label ≠ .stopCurrentPhase →
        next.currentPhaseStopped = session.currentPhaseStopped)
      (nextQuery : next.nextQuery = session.nextQuery)
      (answered : next.answered = session.answered) : Change session next label
  | advanced {label : Label} {run changed : PhaseRun} {number : QueryId}
      (found : session.current = some run) (advance : session.Advance run changed number)
      (equal : next = { session with nextQuery := number, current := some changed }) :
      Change session next label
  | leftover {index : Nat} {sendRaises delayRaises : Bool} {run issued : PhaseRun}
      {outcome : IssueOutcome} {number : QueryId}
      (found : session.past[index]? = some run) (callback : run.callback = true)
      (issues : session.Issues run outcome issued number)
      (equal : next = { session with
        nextQuery := number
        past := session.past.set index (issued.afterCallback delayRaises outcome) }) :
      Change session next (.leftover index sendRaises delayRaises)
  | responded {query : QueryId} (drawn : query < session.nextQuery)
      (equal : next = session.respond query) : Change session next (.response query)

variable {session next : Session} {run : PhaseRun}

theorem issue_issues (session : Session) (run : PhaseRun) (sendRaises : Bool) :
    ∃ outcome issued number,
      session.issue run sendRaises =
        (outcome, { session with nextQuery := number }, issued) ∧
      session.Issues run outcome issued number := by
  rcases session.issue_cases run sendRaises with ⟨check, issues⟩ | ⟨check, issues⟩ |
    ⟨check, issues⟩
  · exact ⟨_, _, _, issues, .refused check⟩
  · exact ⟨_, _, _, issues, .raised check⟩
  · exact ⟨_, _, _, issues, .sent check⟩

/-- A part of the current phase that issues. -/
theorem issueThen_issues (session : Session) (run : PhaseRun) (sendRaises : Bool)
    (continue_ : PhaseRun → IssueOutcome → PhaseRun) :
    ∃ outcome issued number,
      session.issueThen run sendRaises continue_ =
        { session with nextQuery := number, current := some (continue_ issued outcome) } ∧
      session.Issues run outcome issued number := by
  obtain ⟨outcome, issued, number, equal, issues⟩ := session.issue_issues run sendRaises
  refine ⟨outcome, issued, number, ?_, issues⟩
  rw [issueThen, equal]
  rfl

/-- An answer reaches the current phase only if it issued the query. -/
theorem respond_cases (session : Session) (query : QueryId) :
    (∃ run, session.current = some run ∧ query ∈ run.issued ∧
      session.respond query = { session with
        current := some run.complete
        answered := query :: session.answered
        drainEvent := session.drainEvent || run.inflight = 1 }) ∨
    ((∀ run, session.current = some run → query ∉ run.issued) ∧
      session.respond query = { session with answered := query :: session.answered }) := by
  unfold respond
  cases found : session.current with
  | none => exact Or.inr ⟨by simp, by dsimp only⟩
  | some run =>
      by_cases owned : query ∈ run.issued
      · exact Or.inl ⟨run, rfl, owned, by dsimp only; rw [if_pos owned]; rfl⟩
      · refine Or.inr ⟨?_, by dsimp only; rw [if_neg owned]⟩
        rintro _ ⟨⟩
        exact owned

theorem Change.quiet {label : Label} (current : next.current = session.current) (past : next.past = session.past)
    (stopped : session.stopRequested = true → next.stopRequested = true)
    (phaseStopped : next.currentPhaseStopped = session.currentPhaseStopped)
    (nextQuery : next.nextQuery = session.nextQuery)
    (answered : next.answered = session.answered) : Change session next label :=
  .flagged current past stopped (fun _ => phaseStopped) nextQuery answered

theorem change_afterStrategy (session : Session) (run : PhaseRun) :
    Change session (session.afterStrategy run) .awaitStrategy := by
  unfold afterStrategy
  split
  · exact .quiet rfl rfl id rfl rfl rfl
  · exact .quiet rfl rfl id rfl rfl rfl

/-- A step of the current phase. -/
theorem change_current {label : Label} (found : session.current = some run)
    (edge : session.step label = some next)
    (notStart : ∀ settings, label ≠ .startPhase settings)
    (notLeftover : ∀ index sendRaises delayRaises,
      label ≠ .leftover index sendRaises delayRaises)
    (notOutside : label ≠ .stop ∧ (∀ elapsedNs, label ≠ .tick elapsedNs) ∧
      ∀ query, label ≠ .response query) : Change session next label := by
  cases label with
  | startPhase settings => exact absurd rfl (notStart settings)
  | leftover index sendRaises delayRaises =>
      exact absurd rfl (notLeftover index sendRaises delayRaises)
  | stop => exact absurd rfl notOutside.1
  | tick elapsedNs => exact absurd rfl (notOutside.2.1 elapsedNs)
  | response query => exact absurd rfl (notOutside.2.2 query)
  | execute delayRaises =>
      simp only [step, found] at edge
      split at edge
      · rename_i unstarted
        exact .advanced found (.begun unstarted) (Option.some.inj edge).symm
      · simp at edge
  | callback sendRaises delayRaises =>
      simp only [step, found] at edge
      split at edge
      · rename_i callback
        obtain ⟨outcome, issued, number, equal, issues⟩ := session.issueThen_issues run
          sendRaises fun issued outcome => issued.afterCallback delayRaises outcome
        rw [equal] at edge
        exact .advanced found (.calledBack callback issues) (Option.some.inj edge).symm
      · simp at edge
  | wake =>
      simp only [step, found] at edge
      split at edge
      · rename_i outcome done
        split at edge
        · rename_i waiting
          exact .advanced found (.woke done waiting) (Option.some.inj edge).symm
        · simp at edge
      · simp at edge
  | cancelled =>
      simp only [step, found] at edge
      split at edge
      · rename_i enabled
        exact .advanced found (.cancelled enabled.1 enabled.2) (Option.some.inj edge).symm
      · simp at edge
  | pace sendRaises delayRaises =>
      simp only [step, found] at edge
      split at edge
      · rename_i pacing
        obtain ⟨outcome, issued, number, equal, issues⟩ := session.issueThen_issues run
          sendRaises fun issued outcome => issued.afterPaced delayRaises outcome
        rw [equal] at edge
        exact .advanced found (.paced pacing issues) (Option.some.inj edge).symm
      · simp at edge
  | acquire =>
      simp only [step, found] at edge
      split at edge
      · rename_i acquiring
        split at edge
        · rename_i free
          exact .advanced found (.acquired acquiring free) (Option.some.inj edge).symm
        · rename_i exhausted
          exact .advanced found (.blocked acquiring (by omega)) (Option.some.inj edge).symm
      · simp at edge
  | resume =>
      simp only [step, found] at edge
      split at edge
      · rename_i woken
        exact .advanced found (.resumed woken) (Option.some.inj edge).symm
      · simp at edge
  | issueHeld sendRaises =>
      simp only [step, found] at edge
      split at edge
      · rename_i holding
        obtain ⟨outcome, issued, number, equal, issues⟩ := session.issueThen_issues run
          sendRaises PhaseRun.afterHeld
        rw [equal] at edge
        exact .advanced found (.held holding issues) (Option.some.inj edge).symm
      · simp at edge
  | issueAgentic sendRaises =>
      simp only [step, found] at edge
      split at edge
      · rename_i enabled
        obtain ⟨outcome, issued, number, equal, issues⟩ := session.issueThen_issues run
          sendRaises fun issued _ => issued
        rw [equal] at edge
        exact .advanced found (.agentic enabled.1 enabled.2 issues)
          (Option.some.inj edge).symm
      · simp at edge
  | agenticEnds raises =>
      simp only [step, found] at edge
      split at edge
      · rename_i enabled
        exact .advanced found (.agenticEnded enabled.1 enabled.2) (Option.some.inj edge).symm
      · simp at edge
  | awaitStrategy =>
      simp only [step, found] at edge
      split at edge
      · split at edge
        · obtain rfl := Option.some.inj edge
          exact .quiet found.symm rfl id rfl rfl rfl
        · obtain rfl := Option.some.inj edge
          exact change_afterStrategy session run
        · simp at edge
      · simp at edge
  | drained =>
      simp only [step, found] at edge
      split at edge
      · obtain rfl := Option.some.inj edge
        exact .quiet found.symm rfl id rfl rfl rfl
      · simp at edge
  | drainTimeout =>
      simp only [step, found] at edge
      split at edge
      · obtain rfl := Option.some.inj edge
        exact .quiet rfl rfl (fun _ => rfl) rfl rfl rfl
      · simp at edge
  | stopCurrentPhase =>
      simp only [step, found] at edge
      split at edge
      · obtain rfl := Option.some.inj edge
        exact .flagged found.symm rfl id (by simp) rfl rfl
      · obtain rfl := Option.some.inj edge
        exact .flagged rfl rfl id (by simp) rfl rfl

theorem step_change {label : Label} (edge : session.step label = some next) :
    Change session next label := by
  cases label with
  | startPhase settings =>
      simp only [step] at edge
      split at edge
      · rename_i enabled
        exact .entered enabled.1 (by simpa using enabled.2.1) (Option.some.inj edge).symm
      · simp at edge
  | stop =>
      obtain rfl := Option.some.inj edge
      exact .quiet rfl rfl (fun _ => rfl) rfl rfl rfl
  | tick elapsedNs =>
      obtain rfl := Option.some.inj edge
      exact .quiet rfl rfl id rfl rfl rfl
  | response query =>
      simp only [step] at edge
      split at edge
      · rename_i drawn
        exact .responded drawn (Option.some.inj edge).symm
      · simp at edge
  | leftover index sendRaises delayRaises =>
      simp only [step] at edge
      split at edge
      · simp at edge
      · rename_i run found
        split at edge
        · rename_i callback
          obtain ⟨outcome, issued, number, equal, issues⟩ :=
            session.issue_issues run sendRaises
          rw [equal] at edge
          exact .leftover found callback issues (Option.some.inj edge).symm
        · simp at edge
  | _ =>
      cases found : session.current with
      | none => simp [step, found] at edge
      | some run => exact change_current found edge (by simp) (by simp) (by simp)

end Session

end InferenceEndpoint.Issuance
