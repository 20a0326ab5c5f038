import InferenceEndpoint.LoadGenerator.IssuanceSteps

/-!
# The sample budget of a phase

The stop check of a phase compares its total with the count of the current
issuer.  While no phase is cut short the current issuer is the one that issues:
a callback outlives its task only when the session was stopped, and then it is
refused.  So no issuer passes the total of its phase, and a strategy that
returns without a stop and before the duration cap has issued all of it.
-/

namespace InferenceEndpoint.Issuance

namespace Session

/-- A run within its budget, whose strategy returned only after a refusal. -/
structure Budgeted (session : Session) (run : PhaseRun) : Prop where
  within : run.settings.strategy ≠ .agentic →
    run.issuedCount ≤ run.settings.totalSamples
  refused : ∀ refusedNs, run.refusedNs = some refusedNs →
    run.settings.strategy ≠ .agentic →
      session.stopRequested = true ∨ capReached refusedNs run = true ∨
        run.settings.totalSamples ≤ run.issuedCount
  returned : run.settings.strategy ≠ .agentic →
    (run.done = some .returned ∨ ∃ issuedCount, run.position = .ended .returned issuedCount) →
      run.refusedNs.isSome = true

/-- A session whose phases were not cut short. -/
structure Uncut (session : Session) : Prop where
  noLate : session.NoLateIssue
  unstopped : session.currentPhaseStopped = false
  budgeted : ∀ run ∈ session.runs, Budgeted session run

variable {session next : Session} {run changed : PhaseRun}

theorem mem_runs_current (found : session.current = some run) : run ∈ session.runs := by
  simp [runs, found]

theorem Budgeted.later (budgeted : Budgeted session run)
    (stopped : session.stopRequested = true → next.stopRequested = true) :
    Budgeted next run :=
  ⟨budgeted.within, fun refusedNs refused single =>
    (budgeted.refused refusedNs refused single).imp_left stopped, budgeted.returned⟩

/-- The budget of a run does not depend on its permits, its callback and the
queries in flight. -/
theorem Budgeted.same (budgeted : Budgeted session run)
    (settings : changed.settings = run.settings) (startNs : changed.startNs = run.startNs)
    (issuedCount : changed.issuedCount = run.issuedCount)
    (refusedNs : changed.refusedNs = run.refusedNs)
    (returned : changed.settings.strategy ≠ .agentic →
      (changed.done = some .returned ∨
        ∃ issuedCount, changed.position = .ended .returned issuedCount) →
      changed.refusedNs.isSome = true) : Budgeted session changed := by
  refine ⟨?_, ?_, returned⟩
  · rw [settings, issuedCount]
    exact budgeted.within
  · rw [refusedNs, settings, issuedCount]
    intro time refused single
    have cap : capReached time changed = capReached time run := by
      rw [capReached, capReached, settings, startNs]
    rw [cap]
    exact budgeted.refused time refused single

/-- What `issue` does to the budget of the run it issues for. -/
structure Spent (session : Session) (run issued : PhaseRun) (outcome : IssueOutcome) :
    Prop where
  settings : issued.settings = run.settings
  done : issued.done = run.done
  position : issued.position = run.position
  within : issued.settings.strategy ≠ .agentic →
    issued.issuedCount ≤ issued.settings.totalSamples
  refused : ∀ refusedNs, issued.refusedNs = some refusedNs →
    issued.settings.strategy ≠ .agentic →
      session.stopRequested = true ∨ capReached refusedNs issued = true ∨
        issued.settings.totalSamples ≤ issued.issuedCount
  recorded : outcome = .refused ∨ run.refusedNs.isSome = true →
    issued.refusedNs.isSome = true

/-- A run whose callback or task may still issue is the current one, or the
session was stopped. -/
theorem Issues.spent {outcome : IssueOutcome} {issued : PhaseRun} {number : QueryId}
    (issues : session.Issues run outcome issued number) (budgeted : Budgeted session run)
    (unstopped : session.currentPhaseStopped = false)
    (current : session.stopRequested = true ∨ capReached session.nowNs run = true ∨
      session.current = some run) : Spent session run issued outcome := by
  cases issues with
  | refused check =>
      refine ⟨rfl, rfl, rfl, budgeted.within, ?_, fun _ => by simp⟩
      intro refusedNs refused single
      cases earlier : run.refusedNs with
      | some first =>
          rw [earlier] at refused
          exact budgeted.refused refusedNs (earlier ▸ refused) single
      | none =>
          obtain rfl : session.nowNs = refusedNs := by simpa [earlier] using refused
          simp only [stopCheck, unstopped, Bool.or_false, Bool.or_eq_true] at check
          rcases current with stop | cap | found
          · exact Or.inl stop
          · exact Or.inr (Or.inl cap)
          · rcases check with (stop | exhausted) | cap
            · exact Or.inl stop
            · rw [found] at exhausted
              simp only [Bool.and_eq_true, Option.any_some, decide_eq_true_eq] at exhausted
              exact Or.inr (Or.inr exhausted.2)
            · exact Or.inr (Or.inl cap)
  | raised check =>
      exact ⟨rfl, rfl, rfl, budgeted.within, budgeted.refused, by simp⟩
  | sent check =>
      simp only [stopCheck, unstopped, Bool.or_false, Bool.or_eq_false_iff] at check
      obtain ⟨⟨running, notExhausted⟩, notCapped⟩ := check
      refine ⟨rfl, rfl, rfl, ?_, ?_, by simp⟩
      · intro single
        rcases current with stop | cap | found
        · simp [running] at stop
        · simp [notCapped] at cap
        · have below : run.issuedCount < run.settings.totalSamples := by
            simpa [found, single] using notExhausted
          exact below
      · intro refusedNs refused single
        refine (budgeted.refused refusedNs refused single).imp_right fun limit =>
          limit.imp_right fun total => ?_
        exact Nat.le_succ_of_le total

/-- A run that issued and then continued. -/
theorem Spent.budgeted {issued : PhaseRun} {outcome : IssueOutcome}
    (spent : Spent session run issued outcome) (settings : changed.settings = issued.settings)
    (startNs : changed.startNs = issued.startNs)
    (issuedCount : changed.issuedCount = issued.issuedCount)
    (refusedNs : changed.refusedNs = issued.refusedNs)
    (returned : changed.settings.strategy ≠ .agentic →
      (changed.done = some .returned ∨
        ∃ issuedCount, changed.position = .ended .returned issuedCount) →
      changed.refusedNs.isSome = true) : Budgeted session changed := by
  have base : Budgeted session { issued with done := none, position := .waiting } :=
    ⟨spent.within, spent.refused, by simp⟩
  exact base.same settings startNs issuedCount refusedNs returned

theorem Spent.afterCallback {issued : PhaseRun} {outcome : IssueOutcome}
    (spent : Spent session run issued outcome) (budgeted : Budgeted session run)
    (delayRaises : Bool) : Budgeted session (issued.afterCallback delayRaises outcome) := by
  have still : issued.settings.strategy ≠ .agentic → (issued.done = some .returned ∨
      ∃ issuedCount, issued.position = .ended .returned issuedCount) →
        issued.refusedNs.isSome = true := by
    intro single ends
    rw [spent.done, spent.position] at ends
    exact spent.recorded (Or.inr (budgeted.returned (spent.settings ▸ single) ends))
  cases outcome with
  | sent =>
      unfold PhaseRun.afterCallback
      dsimp only
      split
      · refine spent.budgeted rfl rfl rfl rfl fun single ends => ?_
        refine still single (Or.inr (ends.resolve_left (by simp)))
      · exact spent.budgeted rfl rfl rfl rfl still
  | refused =>
      exact spent.budgeted rfl rfl rfl rfl fun _ _ => spent.recorded (Or.inl rfl)
  | raised =>
      refine spent.budgeted rfl rfl rfl rfl fun single ends => ?_
      exact still single (Or.inr (ends.resolve_left (by simp [PhaseRun.afterCallback])))

/-- A task that ends with an outcome other than a return. -/
theorem Budgeted.finished (budgeted : Budgeted session run) {outcome : Outcome}
    (permits : Nat) (notReturned : outcome ≠ .returned) :
    Budgeted session ({ run with permits := permits }.finish outcome) := by
  refine budgeted.same rfl rfl rfl rfl fun single ends => ?_
  refine budgeted.returned single (Or.inl (ends.resolve_right ?_))
  simp [PhaseRun.finish, notReturned]

/-- A task that goes on. -/
theorem Budgeted.moved (budgeted : Budgeted session run) {position : Position}
    (going : position.isEnded = false) (permits : Nat) (inflight : Nat) :
    Budgeted session { run with
      position := position, permits := permits, inflight := inflight } := by
  refine budgeted.same rfl rfl rfl rfl fun single ends => ?_
  refine budgeted.returned single (Or.inl (ends.resolve_right ?_))
  rintro ⟨issuedCount, ended⟩
  dsimp only at ended
  simp [ended, Position.isEnded] at going

theorem Budgeted.begin (budgeted : Budgeted session run) (delayRaises : Bool)
    (fresh : run.done = none) : Budgeted session (run.begin delayRaises) := by
  have started : Budgeted session { run with position := .waiting } :=
    budgeted.moved rfl run.permits run.inflight
  unfold PhaseRun.begin
  split
  · split
    · exact budgeted.same rfl rfl rfl rfl (by simp)
    · exact budgeted.same rfl rfl rfl rfl (by simp [fresh])
  · exact budgeted.same rfl rfl rfl rfl (by simp [fresh])
  · split
    · exact budgeted.finished run.permits (by simp)
    · exact budgeted.moved rfl run.permits run.inflight
  · exact budgeted.moved rfl run.permits run.inflight
  · exact started

theorem Budgeted.complete (budgeted : Budgeted session run) :
    Budgeted session run.complete := by
  unfold PhaseRun.complete
  split
  · unfold PhaseRun.release
    dsimp only
    split
    · exact budgeted.moved rfl run.permits (run.inflight - 1)
    · exact budgeted.same rfl rfl rfl rfl budgeted.returned
  · exact budgeted.same rfl rfl rfl rfl budgeted.returned

/-- Every advance of the current phase keeps to the budget. -/
theorem Advance.budgeted {number : QueryId} (advance : session.Advance run changed number)
    (budgeted : Budgeted session run) (fresh : run.position = .notStarted → run.done = none)
    (unstopped : session.currentPhaseStopped = false) (found : session.current = some run) :
    Budgeted session changed := by
  have spends : ∀ {outcome issued number}, session.Issues run outcome issued number →
      Spent session run issued outcome := fun issues =>
    issues.spent budgeted unstopped (Or.inr (Or.inr found))
  cases advance with
  | begun unstarted => exact budgeted.begin _ (fresh unstarted)
  | calledBack callback issues => exact (spends issues).afterCallback budgeted _
  | @woke outcome done waiting =>
      refine budgeted.same rfl rfl rfl rfl fun single ends => ?_
      refine budgeted.returned single (Or.inl (ends.elim id ?_))
      rintro ⟨issuedCount, ended⟩
      simp only [PhaseRun.finish, Position.ended.injEq] at ended
      rw [done, ended.1]
  | cancelled suspended flags =>
      unfold PhaseRun.cancel
      split
      · exact budgeted.finished (run.permits + 1) (by simp)
      · exact budgeted.finished run.permits (by simp)
  | @paced delayRaises outcome issued number pacing issues =>
      have spent := spends issues
      have still : issued.settings.strategy ≠ .agentic → issued.done = some .returned →
          issued.refusedNs.isSome = true := by
        intro single done
        rw [spent.done] at done
        exact spent.recorded (Or.inr (budgeted.returned (spent.settings ▸ single)
          (Or.inl done)))
      cases outcome with
      | sent =>
          unfold PhaseRun.afterPaced
          dsimp only
          split
          · refine spent.budgeted rfl rfl rfl rfl fun single ends => ?_
            exact still single (ends.resolve_right (by simp [PhaseRun.finish]))
          · refine spent.budgeted rfl rfl rfl rfl fun single ends => ?_
            exact still single (ends.resolve_right (by simp [spent.position, pacing]))
      | refused =>
          exact spent.budgeted rfl rfl rfl rfl fun _ _ => spent.recorded (Or.inl rfl)
      | raised =>
          refine spent.budgeted rfl rfl rfl rfl fun single ends => ?_
          exact still single (ends.resolve_right (by
            simp [PhaseRun.afterPaced, PhaseRun.finish]))
  | acquired acquiring free => exact budgeted.moved rfl _ run.inflight
  | blocked acquiring exhausted => exact budgeted.moved rfl run.permits run.inflight
  | resumed woken => exact budgeted.moved rfl run.permits run.inflight
  | @held outcome issued number holding issues =>
      have spent := spends issues
      have still : issued.settings.strategy ≠ .agentic → issued.done = some .returned →
          issued.refusedNs.isSome = true := by
        intro single done
        rw [spent.done] at done
        exact spent.recorded (Or.inr (budgeted.returned (spent.settings ▸ single)
          (Or.inl done)))
      cases outcome with
      | sent =>
          refine spent.budgeted rfl rfl rfl rfl fun single ends => ?_
          exact still single (ends.resolve_right (by simp [PhaseRun.afterHeld]))
      | refused =>
          exact spent.budgeted rfl rfl rfl rfl fun _ _ => spent.recorded (Or.inl rfl)
      | raised =>
          refine spent.budgeted rfl rfl rfl rfl fun single ends => ?_
          exact still single (ends.resolve_right (by
            simp [PhaseRun.afterHeld, PhaseRun.finish]))
  | agentic waiting strategy issues =>
      have spent := spends issues
      exact spent.budgeted rfl rfl rfl rfl fun single =>
        absurd (spent.settings ▸ strategy) single
  | agenticEnded waiting strategy =>
      exact budgeted.same rfl rfl rfl rfl fun single => absurd strategy single

/-- Without a cut phase, a task that is done left no callback behind unless the
session was stopped, so every phase starts quietly. -/
theorem Uncut.quietly (uncut : session.Uncut) {label : Label}
    (edge : session.step label = some next) : session.StartsQuietly label := by
  cases label with
  | startPhase settings =>
      intro run found callback
      simp only [step] at edge
      split at edge
      · rename_i enabled
        have ended := uncut.noLate.done (by simp [enabled.1]) run found
        rcases (uncut.noLate.current run found).flagged callback ended with stop | stopped
        · simp [stop] at enabled
        · simp [uncut.unstopped] at stopped
      · simp at edge
  | _ => trivial

theorem Uncut.step (uncut : session.Uncut) {label : Label}
    (notCut : label ≠ .stopCurrentPhase) (edge : session.step label = some next) :
    next.Uncut := by
  have noLate := uncut.noLate.step (uncut.quietly edge) edge
  cases step_change edge with
  | @entered settings idle running equal =>
      subst equal
      refine ⟨noLate, rfl, fun run member => ?_⟩
      rcases List.mem_append.mp member with old | new
      · have before : Budgeted session run := uncut.budgeted run old
        exact before.later id
      · obtain rfl : run = { settings := settings, startNs := session.nowNs } := by
          simpa [enter] using new
        exact ⟨fun _ => Nat.zero_le _, by simp, by simp⟩
  | flagged current past stopped phaseStopped _ _ =>
      refine ⟨noLate, (phaseStopped notCut).trans uncut.unstopped, fun run member => ?_⟩
      rw [runs, current, past] at member
      exact (uncut.budgeted run member).later stopped
  | @advanced _ run changed number found advance equal =>
      have budgeted := advance.budgeted (uncut.budgeted run (mem_runs_current found))
        (uncut.noLate.current run found).unstarted uncut.unstopped found
      subst equal
      refine ⟨noLate, uncut.unstopped, fun other member => ?_⟩
      rcases List.mem_append.mp member with old | new
      · exact (uncut.budgeted other (List.mem_append_left _ old)).later id
      · obtain rfl : other = changed := by simpa using new
        exact budgeted.later id
  | @leftover index sendRaises delayRaises run issued outcome number found callback issues
      equal =>
      have member := List.mem_of_getElem? found
      have left := uncut.noLate.past run member
      have budgeted := uncut.budgeted run (List.mem_append_left _ member)
      have spent := issues.spent budgeted uncut.unstopped
        ((left.refused callback).imp_right Or.inl)
      have changed := spent.afterCallback budgeted delayRaises
      subst equal
      refine ⟨noLate, uncut.unstopped, fun other member => ?_⟩
      rcases List.mem_append.mp member with old | new
      · rcases List.mem_or_eq_of_mem_set old with before | rfl
        · exact (uncut.budgeted other (List.mem_append_left _ before)).later id
        · exact changed.later id
      · exact (uncut.budgeted other (List.mem_append_right _ new)).later id
  | @responded query drawn equal =>
      subst equal
      rcases session.respond_cases query with ⟨run, found, _, equal⟩ | ⟨_, equal⟩
      · rw [equal] at noLate ⊢
        refine ⟨noLate, uncut.unstopped, fun other member => ?_⟩
        rcases List.mem_append.mp member with old | new
        · exact (uncut.budgeted other (List.mem_append_left _ old)).later id
        · obtain rfl : other = run.complete := by simpa using new
          exact (uncut.budgeted run (mem_runs_current found)).complete.later id
      · rw [equal] at noLate ⊢
        refine ⟨noLate, uncut.unstopped, fun other member => ?_⟩
        exact (uncut.budgeted other member).later id

/-- A session before its first phase. -/
theorem uncut_initial : Uncut {} where
  noLate := ⟨by simp, by simp, by simp⟩
  unstopped := rfl
  budgeted := by simp [runs]

/-- No phase issues more than its total; a single-turn strategy that returned
while the session was not stopped, and was not refused by its duration cap, has
issued exactly the total. -/
theorem sample_budget (labels : List Label) (final : Session)
    (uncut : .stopCurrentPhase ∉ labels)
    (runs : GuardedRuns.run step {} labels = some final) :
    ∀ run ∈ final.runs, run.settings.strategy ≠ .agentic →
      run.issued.length ≤ run.settings.totalSamples ∧
      ((∃ issuedCount, run.position = .ended .returned issuedCount) →
        final.stopRequested = false →
        (∀ refusedNs, run.refusedNs = some refusedNs → capReached refusedNs run = false) →
        run.issued.length = run.settings.totalSamples) := by
  have meets : GuardedRuns.Meets step (fun _ label => label ≠ .stopCurrentPhase) {} labels := by
    apply GuardedRuns.meets_of_forall_mem
    rintro label member _ rfl
    exact uncut member
  have reached : final.Uncut := GuardedRuns.invariant_of_meets
    (fun session label next holds notCut edge => holds.step notCut edge)
    uncut_initial meets runs
  intro run member single
  have budgeted := reached.budgeted run member
  have counted : run.issued.length = run.issuedCount := by
    rcases List.mem_append.mp member with old | current
    · exact (reached.noLate.past run old).counted.issued
    · exact (reached.noLate.current run (by simpa using current)).counted.issued
  have within := budgeted.within single
  refine ⟨by omega, fun returned running uncapped => ?_⟩
  obtain ⟨refusedNs, refused⟩ :=
    Option.isSome_iff_exists.mp (budgeted.returned single (Or.inr returned))
  rcases budgeted.refused refusedNs refused single with stop | cap | total
  · simp [running] at stop
  · simp [uncapped refusedNs refused] at cap
  · omega

/-- A burst of two samples, one of which is answered before the other one is
issued. -/
def burst : List Label :=
  [.startPhase { strategy := .burst, totalSamples := 2 }, .execute false,
    .callback false false, .response 0, .callback false false, .callback false false, .wake]

theorem sample_budget_burst :
    ∃ final run, GuardedRuns.run step {} burst = some final ∧ run ∈ final.runs ∧
      run.issued.length = 2 := by
  have uncut : Label.stopCurrentPhase ∉ burst := by simp [burst]
  obtain ⟨final, run, runs, member, single, returned, running, uncapped, total⟩ :
      ∃ final run, GuardedRuns.run step {} burst = some final ∧ run ∈ final.runs ∧
        run.settings.strategy ≠ .agentic ∧
        (∃ issuedCount, run.position = .ended .returned issuedCount) ∧
        final.stopRequested = false ∧
        (∀ refusedNs, run.refusedNs = some refusedNs → capReached refusedNs run = false) ∧
        run.settings.totalSamples = 2 := by
    refine ⟨_, _, rfl, List.mem_cons_self .., by decide, ⟨_, rfl⟩, rfl, ?_, rfl⟩
    rintro refusedNs _
    rfl
  refine ⟨final, run, runs, member, ?_⟩
  rw [(sample_budget burst final uncut runs run member single).2 returned running uncapped]
  exact total

end Session

end InferenceEndpoint.Issuance
