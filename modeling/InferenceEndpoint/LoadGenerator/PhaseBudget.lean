import InferenceEndpoint.LoadGenerator.ConcurrencyBound
import InferenceEndpoint.LoadGenerator.SampleBudget

/-!
# The budget of the current phase

Whatever happened to earlier phases, the current phase issues its whole total when its
strategy returns before a stop and before the duration cap.  What an earlier phase left
behind issues through its own issuer, so it takes nothing from this total.
-/

namespace InferenceEndpoint.Issuance

namespace Position

/-- The task is inside the loop over the sample order. -/
def loops : Position → Bool
  | pacing | acquiring | blocked | woken | holding => true
  | _ => false

end Position

namespace PhaseRun

/-- A run issues from a callback or from the loop of its task, and from neither after its
strategy returned. -/
structure Orderly (run : PhaseRun) : Prop where
  fresh : run.position = .notStarted → run.callback = false ∧ run.done = none ∧ run.issued = []
  silent : run.callback = true → run.done = none
  apart : run.callback = true → run.position.loops = false
  single : run.callback = true → run.settings.strategy ≠ .agentic
  closed : ∀ issuedCount, run.position = .ended .returned issuedCount → run.callback = false
  looping : run.position.loops = true → run.done = none
  honest : ∀ issuedCount, run.position = .ended .returned issuedCount →
    run.settings.strategy ≠ .agentic → run.done ≠ some .raised
  counted : run.issued.length = run.issuedCount

variable {run : PhaseRun}

/-- A run without a callback and without an error. -/
theorem Orderly.still (callback : run.callback = false) (started : run.position ≠ .notStarted)
    (done : run.done = none) (counted : run.issued.length = run.issuedCount) : Orderly run where
  fresh := fun fresh => absurd fresh started
  silent := by simp [callback]
  apart := by simp [callback]
  single := by simp [callback]
  closed := fun _ _ => callback
  looping := fun _ => done
  honest := by simp [done]
  counted := counted

/-- A run without a callback, outside of the loop. -/
theorem Orderly.outside (callback : run.callback = false) (started : run.position ≠ .notStarted)
    (loops : run.position.loops = false)
    (honest : ∀ issuedCount, run.position = .ended .returned issuedCount →
      run.settings.strategy ≠ .agentic → run.done ≠ some .raised)
    (counted : run.issued.length = run.issuedCount) : Orderly run where
  fresh := fun fresh => absurd fresh started
  silent := by simp [callback]
  apart := by simp [callback]
  single := by simp [callback]
  closed := fun _ _ => callback
  looping := by simp [loops]
  honest := honest
  counted := counted

theorem Orderly.noCallback (orderly : Orderly run) (loops : run.position.loops = true) :
    run.callback = false := by
  cases callback : run.callback with
  | false => rfl
  | true => exact absurd (orderly.apart callback) (by simp [loops])

theorem Orderly.begin (orderly : Orderly run) (unstarted : run.position = .notStarted)
    (delayRaises : Bool) : Orderly (run.begin delayRaises) := by
  obtain ⟨callback, done, -⟩ := orderly.fresh unstarted
  unfold PhaseRun.begin
  split
  · rename_i strategy
    split
    · exact Orderly.outside callback (by simp) (by simp [Position.loops]) (by simp)
        orderly.counted
    · exact ⟨by simp, by simp [done], by simp [Position.loops], by simp [strategy], by simp,
        by simp [done], by simp, orderly.counted⟩
  · rename_i strategy
    exact ⟨by simp, by simp [done], by simp [Position.loops], by simp [strategy], by simp,
      by simp [done], by simp, orderly.counted⟩
  · split
    · exact Orderly.still callback (by simp [finish]) done orderly.counted
    · exact Orderly.still callback (by simp) done orderly.counted
  · exact Orderly.still callback (by simp) done orderly.counted
  · exact Orderly.still callback (by simp) done orderly.counted

theorem Orderly.complete (orderly : Orderly run) : Orderly run.complete := by
  unfold PhaseRun.complete
  split
  · unfold PhaseRun.release
    dsimp only
    split
    · rename_i blocked
      have loops : run.position.loops = true := by simp [blocked, Position.loops]
      exact Orderly.still (orderly.noCallback loops) (by simp) (orderly.looping loops)
        orderly.counted
    · exact ⟨orderly.fresh, orderly.silent, orderly.apart, orderly.single, orderly.closed,
        orderly.looping, orderly.honest, orderly.counted⟩
  · exact ⟨orderly.fresh, orderly.silent, orderly.apart, orderly.single, orderly.closed,
        orderly.looping, orderly.honest, orderly.counted⟩

/-- The count of an issuer goes with its queries. -/
theorem issues_counted {session : Session} {issued : PhaseRun} {outcome : IssueOutcome}
    {number : QueryId} (issues : session.Issues run outcome issued number)
    (counted : run.issued.length = run.issuedCount) :
    issued.issued.length = issued.issuedCount ∧ issued.callback = run.callback ∧
      issued.position = run.position ∧ issued.done = run.done ∧
      issued.settings = run.settings := by
  cases issues with
  | refused check => exact ⟨counted, rfl, rfl, rfl, rfl⟩
  | raised check => exact ⟨counted, rfl, rfl, rfl, rfl⟩
  | sent check => exact ⟨by simp [counted], rfl, rfl, rfl, rfl⟩

theorem Orderly.afterCallback {session : Session} {issued : PhaseRun} {outcome : IssueOutcome}
    {number : QueryId} (orderly : Orderly run) (callback : run.callback = true)
    (issues : session.Issues run outcome issued number) (delayRaises : Bool) :
    Orderly (issued.afterCallback delayRaises outcome) := by
  have done := orderly.silent callback
  have apart := orderly.apart callback
  have started : run.position ≠ .notStarted := fun fresh => by
    simp [(orderly.fresh fresh).1] at callback
  have open_ : ∀ issuedCount, run.position ≠ .ended .returned issuedCount := fun _ closed => by
    simp [orderly.closed _ closed] at callback
  obtain ⟨counted, -, position, sameDone, settings⟩ := issues_counted issues orderly.counted
  cases outcome with
  | sent =>
      unfold PhaseRun.afterCallback
      dsimp only
      split
      · exact Orderly.outside rfl (by simp [position, started]) (position ▸ apart)
          (fun _ closed => absurd (position ▸ closed) (open_ _)) counted
      · exact ⟨fun fresh => absurd (position ▸ fresh) started, fun _ => sameDone.trans done,
          fun _ => position ▸ apart, fun _ => settings ▸ orderly.single callback,
          fun _ closed => absurd (position ▸ closed) (open_ _), fun _ => sameDone.trans done,
          fun _ closed => absurd (position ▸ closed) (open_ _), counted⟩
  | refused =>
      exact Orderly.outside rfl (by simp [PhaseRun.afterCallback, position, started])
        (position ▸ apart) (fun _ closed => absurd (position ▸ closed) (open_ _)) counted
  | raised =>
      exact Orderly.outside rfl (by simp [PhaseRun.afterCallback, position, started])
        (position ▸ apart) (fun _ closed => absurd (position ▸ closed) (open_ _)) counted

end PhaseRun

namespace Session

variable {session next : Session} {run changed : PhaseRun}

theorem Advance.orderly {number : QueryId} (advance : session.Advance run changed number)
    (orderly : run.Orderly) : changed.Orderly := by
  cases advance with
  | begun unstarted => exact orderly.begin unstarted _
  | calledBack callback issues => exact orderly.afterCallback callback issues _
  | @woke outcome done waiting =>
      have callback : run.callback = false := by
        cases callback : run.callback with
        | false => rfl
        | true => simp [orderly.silent callback] at done
      refine .outside callback (by simp [PhaseRun.finish])
        (by simp [PhaseRun.finish, Position.loops]) ?_ orderly.counted
      rintro issuedCount returned -
      simp only [PhaseRun.finish, Position.ended.injEq] at returned
      simp [PhaseRun.finish, done, returned.1]
  | cancelled suspended flags =>
      unfold PhaseRun.cancel
      split
      · rename_i woken
        have loops : run.position.loops = true := by simp [woken, Position.loops]
        exact .still (orderly.noCallback loops) (by simp [PhaseRun.finish])
          (orderly.looping loops) orderly.counted
      · exact ⟨by simp [PhaseRun.finish], orderly.silent,
          by simp [PhaseRun.finish, Position.loops], orderly.single, by simp [PhaseRun.finish],
          by simp [PhaseRun.finish, Position.loops], by simp [PhaseRun.finish],
          orderly.counted⟩
  | @paced delayRaises outcome issued number pacing issues =>
      obtain ⟨counted, callback, position, done, -⟩ :=
        PhaseRun.issues_counted issues orderly.counted
      have loops : run.position.loops = true := by simp [pacing, Position.loops]
      have off := callback.trans (orderly.noCallback loops)
      have none := done.trans (orderly.looping loops)
      cases outcome with
      | sent =>
          unfold PhaseRun.afterPaced
          dsimp only
          split
          · exact .still off (by simp [PhaseRun.finish]) none counted
          · exact .still off (by simp [position, pacing]) none counted
      | refused => exact .still off (by simp [PhaseRun.afterPaced, PhaseRun.finish]) none counted
      | raised => exact .still off (by simp [PhaseRun.afterPaced, PhaseRun.finish]) none counted
  | @held outcome issued number holding issues =>
      obtain ⟨counted, callback, position, done, -⟩ :=
        PhaseRun.issues_counted issues orderly.counted
      have loops : run.position.loops = true := by simp [holding, Position.loops]
      have off := callback.trans (orderly.noCallback loops)
      have none := done.trans (orderly.looping loops)
      cases outcome with
      | sent => exact .still off (by simp [PhaseRun.afterHeld]) none counted
      | refused => exact .still off (by simp [PhaseRun.afterHeld, PhaseRun.finish]) none counted
      | raised => exact .still off (by simp [PhaseRun.afterHeld, PhaseRun.finish]) none counted
  | acquired acquiring free =>
      have loops : run.position.loops = true := by simp [acquiring, Position.loops]
      exact .still (orderly.noCallback loops) (by simp) (orderly.looping loops) orderly.counted
  | blocked acquiring exhausted =>
      have loops : run.position.loops = true := by simp [acquiring, Position.loops]
      exact .still (orderly.noCallback loops) (by simp) (orderly.looping loops) orderly.counted
  | resumed woken =>
      have loops : run.position.loops = true := by simp [woken, Position.loops]
      exact .still (orderly.noCallback loops) (by simp) (orderly.looping loops) orderly.counted
  | agentic waiting strategy issues =>
      obtain ⟨counted, callback, position, -⟩ := PhaseRun.issues_counted issues orderly.counted
      have off : run.callback = false := by
        cases scheduled : run.callback with
        | false => rfl
        | true => exact absurd strategy (orderly.single scheduled)
      exact .outside (callback.trans off) (by simp [position, waiting])
        (by simp [position, waiting, Position.loops]) (by simp [position, waiting]) counted
  | agenticEnded waiting strategy =>
      have off : run.callback = false := by
        cases scheduled : run.callback with
        | false => rfl
        | true => exact absurd strategy (orderly.single scheduled)
      exact .outside off (by simp [PhaseRun.finish])
        (by simp [PhaseRun.finish, Position.loops]) (fun _ _ single => absurd strategy single)
        orderly.counted

/-- Every run is orderly with its queries numbered, and the current one within its budget
unless something stopped it. -/
structure Capped (session : Session) : Prop where
  orderly : ∀ run ∈ session.runs, run.Orderly
  numbered : ∀ run ∈ session.runs, Numbered session run
  budgeted : session.stopRequested = false → session.currentPhaseStopped = false →
    ∀ run, session.current = some run → Budgeted session run

theorem mem_runs_iff : run ∈ session.runs ↔ run ∈ session.past ∨ session.current = some run := by
  simp [runs, Option.mem_toList]

theorem Numbered.later (numbered : Numbered session run)
    (notBefore : session.nextQuery ≤ next.nextQuery) : Numbered next run :=
  ⟨numbered.distinct, fun query member => Nat.lt_of_lt_of_le (numbered.drawn query member) notBefore⟩

theorem issued_afterCallback (run : PhaseRun) (delayRaises : Bool) (outcome : IssueOutcome) :
    (run.afterCallback delayRaises outcome).issued = run.issued := by
  unfold PhaseRun.afterCallback
  cases outcome <;> dsimp only
  split <;> rfl

theorem issued_complete (run : PhaseRun) : run.complete.issued = run.issued := by
  unfold PhaseRun.complete PhaseRun.release
  split
  · dsimp only
    split <;> rfl
  · rfl

theorem unstopped_before (edge : session.step .stopCurrentPhase = some next)
    (unstopped : next.currentPhaseStopped = false) : session.currentPhaseStopped = false := by
  simp only [step] at edge
  split at edge
  · simp at edge
  · split at edge
    · obtain rfl := Option.some.inj edge
      simp at unstopped
    · obtain rfl := Option.some.inj edge
      exact unstopped

theorem Capped.step {label : Label} (capped : session.Capped)
    (edge : session.step label = some next) : next.Capped := by
  obtain ⟨orderly, numbered, budgeted⟩ := capped
  cases step_change edge with
  | @entered settings idle running equal =>
      subst equal
      refine ⟨fun run member => ?_, fun run member => ?_, fun _ _ run found => ?_⟩
      · rcases mem_runs_iff.mp member with old | new
        · exact orderly run old
        · obtain rfl := Option.some.inj new
          exact ⟨by simp, by simp, by simp, by simp, by simp, by simp, by simp, rfl⟩
      · rcases mem_runs_iff.mp member with old | new
        · have before : Numbered session run := numbered run old
          exact before.later (Nat.le_refl _)
        · obtain rfl := Option.some.inj new
          exact ⟨List.nodup_nil, by simp⟩
      · obtain rfl := Option.some.inj found
        exact ⟨fun _ => Nat.zero_le _, by simp, by simp⟩
  | flagged current past stopped phaseStopped nextQuery answered =>
      have same : next.runs = session.runs := by rw [runs, runs, current, past]
      refine ⟨fun run member => orderly run (same ▸ member), fun run member => ?_,
        fun running unstopped run found => ?_⟩
      · exact (numbered run (same ▸ member)).later (by rw [nextQuery])
      · have runningBefore : session.stopRequested = false := by
          cases before : session.stopRequested with
          | false => rfl
          | true => exact absurd (stopped before) (by simp [running])
        have unstoppedBefore : session.currentPhaseStopped = false := by
          by_cases stops : label = .stopCurrentPhase
          · subst stops
            exact unstopped_before edge unstopped
          · rw [← phaseStopped stops]
            exact unstopped
        exact (budgeted runningBefore unstoppedBefore run (current ▸ found)).later stopped
  | @advanced _ run changed number found advance equal =>
      have member := mem_runs_current found
      obtain ⟨notBefore, distinct, drawn⟩ := advance.numbered (numbered run member)
      have changedOrderly := advance.orderly (orderly run member)
      subst equal
      refine ⟨fun other otherMember => ?_, fun other otherMember => ?_,
        fun running unstopped other otherFound => ?_⟩
      · rcases mem_runs_iff.mp otherMember with old | new
        · exact orderly other (mem_runs_iff.mpr (.inl old))
        · obtain rfl := Option.some.inj new
          exact changedOrderly
      · rcases mem_runs_iff.mp otherMember with old | new
        · have before := numbered other (mem_runs_iff.mpr (.inl old))
          exact before.later notBefore
        · obtain rfl := Option.some.inj new
          exact ⟨distinct, drawn⟩
      · obtain rfl := Option.some.inj otherFound
        have before := budgeted running unstopped run found
        exact (advance.budgeted before (fun fresh => ((orderly run member).fresh fresh).2.1)
          unstopped found).later id
  | @leftover index sendRaises delayRaises run issued outcome number found callback issues
      equal =>
      have member := mem_runs_iff.mpr (.inl (List.mem_of_getElem? found))
      obtain ⟨notBefore, distinct, drawn⟩ := issues.numbered (numbered run member)
      have changedOrderly := (orderly run member).afterCallback callback issues delayRaises
      subst equal
      refine ⟨fun other otherMember => ?_, fun other otherMember => ?_,
        fun running unstopped other otherFound => ?_⟩
      · rcases mem_runs_iff.mp otherMember with old | current
        · rcases List.mem_or_eq_of_mem_set old with before | rfl
          · exact orderly other (mem_runs_iff.mpr (.inl before))
          · exact changedOrderly
        · exact orderly other (mem_runs_iff.mpr (.inr current))
      · rcases mem_runs_iff.mp otherMember with old | current
        · rcases List.mem_or_eq_of_mem_set old with before | rfl
          · exact (numbered other (mem_runs_iff.mpr (.inl before))).later notBefore
          · exact ⟨by rw [issued_afterCallback]; exact distinct,
              by rw [issued_afterCallback]; exact drawn⟩
        · exact (numbered other (mem_runs_iff.mpr (.inr current))).later notBefore
      · exact (budgeted running unstopped other otherFound).later id
  | @responded query drawn equal =>
      subst equal
      rcases session.respond_cases query with ⟨run, found, _, equal⟩ | ⟨_, equal⟩
      · have member := mem_runs_current found
        rw [equal]
        refine ⟨fun other otherMember => ?_, fun other otherMember => ?_,
          fun running unstopped other otherFound => ?_⟩
        · rcases mem_runs_iff.mp otherMember with old | new
          · exact orderly other (mem_runs_iff.mpr (.inl old))
          · obtain rfl := Option.some.inj new
            exact (orderly run member).complete
        · rcases mem_runs_iff.mp otherMember with old | new
          · have before := numbered other (mem_runs_iff.mpr (.inl old))
            exact before.later (Nat.le_refl _)
          · obtain rfl := Option.some.inj new
            have before := numbered run member
            exact ⟨by rw [issued_complete]; exact before.distinct,
              by rw [issued_complete]; exact before.drawn⟩
        · obtain rfl := Option.some.inj otherFound
          exact (budgeted running unstopped run found).complete.later id
      · rw [equal]
        refine ⟨orderly, fun other otherMember => ?_, fun running unstopped other otherFound => ?_⟩
        · exact (numbered other otherMember).later (Nat.le_refl _)
        · exact (budgeted running unstopped other otherFound).later id

theorem capped_initial : Capped {} :=
  ⟨by simp [runs], by simp [runs], by simp⟩

/-- Unless it was stopped or capped, a single-turn phase whose strategy returned has issued
its total. -/
theorem Capped.exhausted (capped : session.Capped) (found : session.current = some run)
    (running : session.stopRequested = false) (unstopped : session.currentPhaseStopped = false)
    (single : run.settings.strategy ≠ .agentic) (uncapped : run.settings.maxDurationNs = 0)
    {issuedCount : Nat} (returned : run.position = .ended .returned issuedCount) :
    run.issued.length = run.settings.totalSamples := by
  have budgeted := capped.budgeted running unstopped run found
  have counted := (capped.orderly run (mem_runs_current found)).counted
  have within := budgeted.within single
  obtain ⟨refusedNs, refused⟩ :=
    Option.isSome_iff_exists.mp (budgeted.returned single (.inr ⟨issuedCount, returned⟩))
  rcases budgeted.refused refusedNs refused single with stop | cap | total
  · simp [running] at stop
  · simp [capReached, uncapped] at cap
  · omega

end Session

end InferenceEndpoint.Issuance
