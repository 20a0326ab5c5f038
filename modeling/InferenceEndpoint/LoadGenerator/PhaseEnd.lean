import InferenceEndpoint.LoadGenerator.LateIssue
import InferenceEndpoint.LoadGenerator.SampleBudget
import InferenceEndpoint.LoadGenerator.StrategyEnd

/-!
# Nothing is issued for a phase whose strategy has ended

The two models meet here: a single-turn strategy can issue late only through a
callback that its cancelled task left scheduled, and an agentic strategy, which
cancels its timers, cannot issue late at all.
-/

namespace InferenceEndpoint.Issuance

namespace Session

theorem noLateIssue_initial : NoLateIssue {} where
  current _ found := by simp at found
  past _ member := by simp at member
  done _ _ found := by simp at found

/-- In a state reached quietly, a run whose task is done has issued what it had
issued at the end of the task. -/
theorem NoLateIssue.issued_of_ended {session : Session} (noLate : session.NoLateIssue)
    {run : PhaseRun} (member : run ∈ session.runs) {outcome : Outcome} {issuedCount : Nat}
    (ended : run.position = .ended outcome issuedCount) : run.issued.length = issuedCount := by
  have counted : Counted run := by
    rcases List.mem_append.mp member with past | current
    · exact (noLate.past run past).counted
    · exact (noLate.current run (by simpa using current)).counted
  exact counted.issued.trans (counted.ended outcome issuedCount ended)

/-- Nothing is issued for a phase whose strategy has ended: if phases start
quietly, and for an agentic phase in any case. -/
theorem no_issue_after_end (config : AgenticConfig) (start : PhaseStart) :
    (∀ labels final, GuardedRuns.Meets step StartsQuietly {} labels →
      GuardedRuns.run step {} labels = some final →
        ∀ run ∈ final.runs, ∀ outcome issuedCount,
          run.position = .ended outcome issuedCount → run.issued.length = issuedCount) ∧
    (∀ (state final : PhaseState) labels,
      config.PlainIds → start.phase.agentic = true → PhaseReachable config start state →
        state.strategyEnded = true →
          GuardedRuns.run (PhaseState.step config) state labels = some final →
            final.world.issuer.issuedCount = state.world.issuer.issuedCount) ∧
    (∀ (state : PhaseState) former,
      PhaseReachable config start state → start.former = some former →
        state.strategyIssuer = .former former.issuer) := by
  refine ⟨?_, ?_, ?_⟩
  · intro labels final meets runs
    have noLate : NoLateIssue final := by
      refine GuardedRuns.invariant_of_meets ?_ noLateIssue_initial meets runs
      exact fun _ _ _ noLate quietly edge => noLate.step quietly edge
    exact fun run member _ _ ended => noLate.issued_of_ended member ended
  · exact fun _ _ _ plain agentic reachable ended runs =>
      issuedCount_final plain agentic reachable ended runs
  · exact fun _ _ reachable isFormer => reachable.former isFormer

/-- A timed phase that is stopped after its first query; its callback runs
before the next phase starts. -/
def quietStop : List Label :=
  [.startPhase { strategy := .timed, totalSamples := 5, drainAfter := false }, .execute false,
    .callback false false, .stopCurrentPhase, .cancelled, .awaitStrategy,
    .callback false false, .startPhase { strategy := .burst, totalSamples := 1 }]

instance (session : Session) : ∀ label, Decidable (session.StartsQuietly label)
  | .startPhase _ =>
      decidable_of_iff (session.current.all fun run =>
          !run.callback || capReached session.nowNs run) (by
        cases current : session.current with
        | none => simp [StartsQuietly, current]
        | some run => cases callback : run.callback <;> simp [StartsQuietly, current, callback])
  | .execute _ | .callback _ _ | .leftover _ _ _ | .wake | .cancelled | .pace _ _ | .acquire
  | .resume | .issueHeld _ | .issueAgentic _ | .agenticEnds _ | .awaitStrategy | .drained
  | .drainTimeout | .response _ | .stop | .stopCurrentPhase | .tick _ =>
      isTrue trivial

/-- The only turn of an agentic phase times out, and its result is delivered
after the end of the strategy. -/
def timedOut : List PhaseLabel :=
  [.execute, .fire 0, .resume]

def lateResult : List PhaseLabel :=
  [.deliver (.result { id := 0 }), .awaitStrategy]

theorem no_issue_after_end_quietStop :
    (∃ final run, GuardedRuns.run step {} quietStop = some final ∧ run ∈ final.runs ∧
      run.issued.length = 1) ∧
    (∃ state final,
      GuardedRuns.run (PhaseState.step OneTurn.config) OneTurn.start.state timedOut =
          some state ∧
        GuardedRuns.run (PhaseState.step OneTurn.config) state lateResult = some final ∧
          final.world.issuer.issuedCount = state.world.issuer.issuedCount) := by
  have quietly : GuardedRuns.Meets step StartsQuietly {} quietStop := by decide
  obtain ⟨final, run, runs, member, ended⟩ :
      ∃ final run, GuardedRuns.run step {} quietStop = some final ∧ run ∈ final.runs ∧
        run.position = .ended .cancelled 1 :=
    ⟨_, _, rfl, List.mem_cons_self .., rfl⟩
  refine ⟨⟨final, run, runs, member,
    (no_issue_after_end OneTurn.config OneTurn.start).1 quietStop final quietly runs run member
      .cancelled 1 ended⟩, ?_⟩
  have first : GuardedRuns.run (PhaseState.step OneTurn.config) OneTurn.start.state timedOut =
      some _ := (Option.some_get (by decide)).symm
  have second : GuardedRuns.run (PhaseState.step OneTurn.config)
      ((GuardedRuns.run (PhaseState.step OneTurn.config) OneTurn.start.state timedOut).get
        (by decide)) lateResult = some _ := (Option.some_get (by decide)).symm
  exact ⟨_, _, first, second, (no_issue_after_end OneTurn.config OneTurn.start).2.1 _ _ lateResult
    (by decide) rfl ⟨timedOut, first⟩ (by decide) second⟩

/-- The same without the callback in between, which then runs in the next phase. -/
def lateCallback : List Label :=
  [.startPhase { strategy := .timed, totalSamples := 5, drainAfter := false }, .execute false,
    .callback false false, .stopCurrentPhase, .cancelled, .awaitStrategy,
    .startPhase { strategy := .burst, totalSamples := 1 }, .leftover 0 false false]

/-- The callback left by a stopped phase issues in the next one. -/
theorem issues_after_end_lateCallback :
    ∃ final run, GuardedRuns.run step {} lateCallback = some final ∧ run ∈ final.runs ∧
      run.position = .ended .cancelled 1 ∧ run.issued.length = 2 :=
  ⟨_, _, rfl, List.mem_cons_self .., rfl, rfl⟩

end Session

end InferenceEndpoint.Issuance
