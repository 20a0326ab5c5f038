import InferenceEndpoint.Evaluation.SweBenchService
import Mathlib.Tactic.Common

/-!
# Outcomes of SWE-bench runs

A run that has ended keeps its status, its result and the time it finished, as long as
nothing writes a final status on the strength of a check that no longer holds: `cancel`
looks at the status, and `_execute` at the cancel token, several awaits before they write.
-/

namespace InferenceEndpoint

namespace SweBenchService

/-- The task that executes the run has written its final status. -/
def RunManager.hasLeft (manager : RunManager) (runId : RunId) : Prop :=
  ∃ stage, manager.executing runId = some stage ∧ stage.left = true

/-- The call has cancelled the token. -/
def CallStage.pastToken : CallStage → Bool
  | .tokenSet | .progressing _ | .storing => true
  | _ => false

/-- What holds between the steps of the manager. -/
structure Consistent (manager : RunManager) : Prop where
  known : ∀ runId run, manager.runs runId = some run → runId ∈ manager.submitted
  finished : ∀ runId run, manager.runs runId = some run → run.status.terminal = true →
    run.finishedAt.isSome = true ∧ run.phase = some run.status.phase
  ended : ∀ runId run, manager.runs runId = some run →
    run.status = .succeeded ∨ run.status = .failed → manager.hasLeft runId
  cancelled : ∀ runId run, manager.runs runId = some run → run.status = .cancelled →
    manager.cancelled runId = true ∨ manager.hasLeft runId
  tokens : ∀ call ∈ manager.calls, call.stage.pastToken = true →
    manager.cancelled call.runId = true

/-- The status, the result and the time of the end. -/
def RunStatus.outcome (run : RunStatus) : RunState × Option Json × Option Instant :=
  (run.status, run.result, run.finishedAt)

/-- Runs that have ended keep their outcome, and runs that are gone stay so. -/
def KeepsOutcomes (manager next : RunManager) : Prop :=
  ∀ runId ∈ manager.submitted, ∀ after, next.runs runId = some after →
    ∃ before, manager.runs runId = some before ∧
      (before.status.terminal = true → after.outcome = before.outcome)

theorem keepsOutcomes_of_runs_eq {manager next : RunManager} (same : next.runs = manager.runs) :
    KeepsOutcomes manager next :=
  fun _ _ after here => ⟨after, same ▸ here, fun _ => rfl⟩

namespace RunManager

variable {manager : RunManager} {runId : RunId} {change : RunStatus → RunStatus} {now : Instant}

/-! ## What the operations do -/

theorem updateInMemory_of_none (unknown : manager.runs runId = none) :
    manager.updateInMemory runId change now = manager := by
  simp [updateInMemory, unknown]

theorem updateInMemory_of_some {current : RunStatus} (here : manager.runs runId = some current) :
    manager.updateInMemory runId change now =
      { manager with
        runs := Function.update manager.runs runId
          (some (stamped current (change current) now)) } := by
  simp [updateInMemory, here]

theorem updateInMemory_setExecuting (stage : ExecuteStage) :
    (manager.updateInMemory runId change now).setExecuting runId stage =
      (manager.setExecuting runId stage).updateInMemory runId change now := by
  unfold updateInMemory setExecuting
  cases manager.runs runId <;> rfl

theorem hasLeft_setExecuting {other : RunId} {stage : ExecuteStage}
    (keeps : manager.hasLeft runId → stage.left = true) (left : manager.hasLeft other) :
    (manager.setExecuting runId stage).hasLeft other := by
  by_cases same : other = runId
  · subst same
    exact ⟨stage, by simp [setExecuting], keeps left⟩
  · obtain ⟨old, here, isLeft⟩ := left
    exact ⟨old, by simp [setExecuting, Function.update_of_ne same, here], isLeft⟩

theorem hasLeft_setExecuting_self {stage : ExecuteStage} (left : stage.left = true) :
    (manager.setExecuting runId stage).hasLeft runId :=
  ⟨stage, by simp [setExecuting], left⟩

@[simp]
theorem submitted_setExecuting (stage : ExecuteStage) :
    (manager.setExecuting runId stage).submitted = manager.submitted :=
  rfl

@[simp]
theorem submitted_setCall (index : Nat) (call : Call) (stage : CallStage) :
    (manager.setCall index call stage).submitted = manager.submitted :=
  rfl

@[simp]
theorem submitted_discardRun : (manager.discardRun runId).submitted = manager.submitted :=
  rfl

@[simp]
theorem submitted_updateInMemory :
    (manager.updateInMemory runId change now).submitted = manager.submitted := by
  unfold updateInMemory
  split <;> rfl

@[simp]
theorem submitted_refreshWith (snapshot : RunStatus) (disk : Option Disk) :
    (manager.refreshWith runId snapshot disk now).submitted = manager.submitted := by
  cases disk with
  | none => rfl
  | some disk =>
      simp only [refreshWith, applyProgress]
      split
      · rfl
      · split
        · rfl
        · exact submitted_updateInMemory

@[simp]
theorem submitted_settleCall (index : Nat) (call : Call) :
    (manager.settleCall index call).submitted = manager.submitted := by
  unfold settleCall
  split
  · rfl
  · split <;> rfl

/-! ## The operations keep the manager consistent -/

theorem consistent_setExecuting (consistent : Consistent manager) {stage : ExecuteStage}
    (keeps : manager.hasLeft runId → stage.left = true) :
    Consistent (manager.setExecuting runId stage) where
  known := consistent.known
  finished := consistent.finished
  ended other run here status :=
    hasLeft_setExecuting keeps (consistent.ended other run here status)
  cancelled other run here status :=
    (consistent.cancelled other run here status).imp_right (hasLeft_setExecuting keeps)
  tokens := consistent.tokens

/-- What a change of a status must respect. -/
structure Admissible (manager : RunManager) (runId : RunId) (change : RunStatus → RunStatus) :
    Prop where
  finishedAt : ∀ current, manager.runs runId = some current →
    (change current).finishedAt = current.finishedAt
  phase : ∀ current, manager.runs runId = some current →
    (change current).status.terminal = true →
      (change current).phase = some (change current).status.phase
  ended : ∀ current, manager.runs runId = some current →
    (change current).status = .succeeded ∨ (change current).status = .failed →
      manager.hasLeft runId
  cancelled : ∀ current, manager.runs runId = some current →
    (change current).status = .cancelled →
      manager.cancelled runId = true ∨ manager.hasLeft runId

theorem consistent_updateInMemory (consistent : Consistent manager)
    (admissible : Admissible manager runId change) :
    Consistent (manager.updateInMemory runId change now) := by
  cases here : manager.runs runId with
  | none => rwa [updateInMemory_of_none here]
  | some current =>
      rw [updateInMemory_of_some here]
      have split : ∀ other run,
          Function.update manager.runs runId (some (stamped current (change current) now)) other =
            some run →
          (other = runId ∧ run = stamped current (change current) now) ∨
            manager.runs other = some run := by
        intro other run found
        by_cases same : other = runId
        · subst same
          rw [Function.update_self, Option.some_inj] at found
          exact Or.inl ⟨rfl, found.symm⟩
        · rw [Function.update_of_ne same] at found
          exact Or.inr found
      constructor
      · intro other run found
        rcases split other run found with ⟨rfl, -⟩ | old
        · exact consistent.known other current here
        · exact consistent.known other run old
      · intro other run found terminal
        rcases split other run found with ⟨rfl, rfl⟩ | old
        · refine ⟨?_, admissible.phase current here terminal⟩
          have isTerminal : (change current).status.terminal = true := terminal
          cases finished : current.finishedAt with
          | none => simp [stamped, isTerminal, finished]
          | some time => simp [stamped, finished, admissible.finishedAt current here]
        · exact consistent.finished other run old terminal
      · intro other run found status
        rcases split other run found with ⟨rfl, rfl⟩ | old
        · exact admissible.ended current here status
        · exact consistent.ended other run old status
      · intro other run found status
        rcases split other run found with ⟨rfl, rfl⟩ | old
        · exact admissible.cancelled current here status
        · exact consistent.cancelled other run old status
      · exact consistent.tokens

theorem consistent_setCall (consistent : Consistent manager) (index : Nat) {call : Call}
    {stage : CallStage}
    (token : stage.pastToken = true → manager.cancelled call.runId = true) :
    Consistent (manager.setCall index call stage) where
  known := consistent.known
  finished := consistent.finished
  ended := consistent.ended
  cancelled := consistent.cancelled
  tokens other member past := by
    rcases List.mem_or_eq_of_mem_set member with old | rfl
    · exact consistent.tokens other old past
    · exact token past

theorem consistent_discardRun (consistent : Consistent manager) :
    Consistent (manager.discardRun runId) := by
  have old : ∀ other run, (manager.discardRun runId).runs other = some run →
      manager.runs other = some run := by
    intro other run found
    by_cases same : other = runId
    · subst same
      simp [discardRun] at found
    · simpa [discardRun, Function.update_of_ne same] using found
  constructor
  · exact fun other run found => consistent.known other run (old other run found)
  · exact fun other run found => consistent.finished other run (old other run found)
  · exact fun other run found => consistent.ended other run (old other run found)
  · exact fun other run found => consistent.cancelled other run (old other run found)
  · exact consistent.tokens

theorem phase_readProgress (status : RunStatus) (request : Option RunRequest) (disk : Disk)
    (terminal : status.status.terminal = true) :
    (readProgress status request disk).phase = status.status.phase := by
  simp [readProgress, terminal, terminalProgress]

theorem admissible_withProgress (consistent : Consistent manager) {progress : Progress}
    (phase : ∀ current, manager.runs runId = some current → current.status.terminal = true →
      progress.phase = current.status.phase) :
    Admissible manager runId (·.withProgress progress) where
  finishedAt _ _ := rfl
  phase current here terminal := congrArg some (phase current here terminal)
  ended current here status := consistent.ended runId current here status
  cancelled current here status := consistent.cancelled runId current here status

theorem consistent_applyProgress (consistent : Consistent manager) (snapshot : RunStatus)
    (disk : Disk) : Consistent (manager.applyProgress runId snapshot disk now) := by
  unfold applyProgress
  cases here : manager.runs runId with
  | none => exact consistent
  | some current =>
      simp only
      split
      · exact consistent
      · next applies =>
          have same : current.status = snapshot.status :=
            not_ne_iff.mp fun differ => applies (Or.inl differ)
          refine consistent_updateInMemory consistent (admissible_withProgress consistent ?_)
          intro found isCurrent terminal
          obtain rfl : current = found := Option.some_inj.mp (here.symm.trans isCurrent)
          rw [phase_readProgress _ _ _ (same ▸ terminal), same]

theorem consistent_settleCall (consistent : Consistent manager) (index : Nat) (call : Call) :
    Consistent (manager.settleCall index call) := by
  unfold settleCall
  split
  · exact consistent_setCall consistent index (by simp [CallStage.pastToken])
  · split <;> exact consistent_setCall consistent index (by simp [CallStage.pastToken])

/-! ## The operations keep the outcomes -/

theorem keepsOutcomes_updateInMemory (consistent : Consistent manager)
    (admissible : Admissible manager runId change)
    (same : ∀ current, manager.runs runId = some current → current.status.terminal = true →
      (change current).status = current.status ∧ (change current).result = current.result) :
    KeepsOutcomes manager (manager.updateInMemory runId change now) := by
  intro other known after found
  cases here : manager.runs runId with
  | none =>
      rw [updateInMemory_of_none here] at found
      exact ⟨after, found, fun _ => rfl⟩
  | some current =>
      rw [updateInMemory_of_some here] at found
      by_cases isRun : other = runId
      · subst isRun
        obtain rfl : stamped current (change current) now = after := by simpa using found
        refine ⟨current, here, fun terminal => ?_⟩
        obtain ⟨status, result⟩ := same current here terminal
        have finished := (consistent.finished other current here terminal).1
        obtain ⟨time, isTime⟩ := Option.isSome_iff_exists.mp finished
        have kept := admissible.finishedAt current here
        simp [RunStatus.outcome, stamped, status, result, isTime, kept]
      · simp only [Function.update_of_ne isRun] at found
        exact ⟨after, found, fun _ => rfl⟩

theorem keepsOutcomes_discardRun : KeepsOutcomes manager (manager.discardRun runId) := by
  intro other known after found
  by_cases isRun : other = runId
  · subst isRun
    simp [discardRun] at found
  · simp only [discardRun, Function.update_of_ne isRun] at found
    exact ⟨after, found, fun _ => rfl⟩

theorem keepsOutcomes_applyProgress (consistent : Consistent manager) (snapshot : RunStatus)
    (disk : Disk) : KeepsOutcomes manager (manager.applyProgress runId snapshot disk now) := by
  unfold applyProgress
  cases here : manager.runs runId with
  | none => exact keepsOutcomes_of_runs_eq rfl
  | some current =>
      simp only
      split
      · exact keepsOutcomes_of_runs_eq rfl
      · next applies =>
          have same : current.status = snapshot.status :=
            not_ne_iff.mp fun differ => applies (Or.inl differ)
          refine keepsOutcomes_updateInMemory consistent (admissible_withProgress consistent ?_)
            fun _ _ _ => ⟨rfl, rfl⟩
          intro found isCurrent terminal
          obtain rfl : current = found := Option.some_inj.mp (here.symm.trans isCurrent)
          rw [phase_readProgress _ _ _ (same ▸ terminal), same]

theorem runs_settleCall (index : Nat) (call : Call) :
    (manager.settleCall index call).runs = manager.runs := by
  unfold settleCall
  split
  · rfl
  · split <;> rfl

/-! ## The statuses that are written -/

theorem admissible_writeCancelled
    (entitled : manager.cancelled runId = true ∨ manager.hasLeft runId) :
    Admissible manager runId writeCancelled where
  finishedAt _ _ := rfl
  phase _ _ _ := rfl
  ended _ _ status := by simp [writeCancelled] at status
  cancelled _ _ _ := entitled

theorem admissible_writeRunning : Admissible manager runId writeRunning where
  finishedAt _ _ := rfl
  phase _ _ terminal := by simp [writeRunning, RunState.terminal] at terminal
  ended _ _ status := by simp [writeRunning] at status
  cancelled _ _ status := by simp [writeRunning] at status

theorem admissible_writeFailed {error : String} (left : manager.hasLeft runId) :
    Admissible manager runId (writeFailed error) where
  finishedAt _ _ := rfl
  phase _ _ _ := rfl
  ended _ _ _ := left
  cancelled _ _ _ := Or.inr left

theorem admissible_writeSucceeded {result : Json} {artifacts : List ArtifactInfo}
    {progress : Progress} (phase : progress.phase = .succeeded) (left : manager.hasLeft runId) :
    Admissible manager runId (writeSucceeded result artifacts progress) where
  finishedAt _ _ := rfl
  phase _ _ _ := congrArg some phase
  ended _ _ _ := left
  cancelled _ _ _ := Or.inr left

theorem admissible_writeCancelledProgress {progress : Option Progress}
    (phase : ∀ some, progress = Option.some some → some.phase = .cancelled)
    (token : manager.cancelled runId = true) :
    Admissible manager runId (writeCancelledProgress progress) := by
  cases progress with
  | none =>
      exact
        { finishedAt := fun _ _ => rfl
          phase := fun _ _ _ => rfl
          ended := fun _ _ status => by simp [writeCancelledProgress] at status
          cancelled := fun _ _ _ => Or.inl token }
  | some progress =>
      exact
        { finishedAt := fun _ _ => rfl
          phase := fun _ _ _ => congrArg some (phase progress rfl)
          ended := fun _ _ status => by simp [writeCancelledProgress] at status
          cancelled := fun _ _ _ => Or.inl token }

theorem not_hasLeft {stage : ExecuteStage} (here : manager.executing runId = some stage)
    (works : stage.left = false) : ¬ manager.hasLeft runId := by
  rintro ⟨other, there, left⟩
  rw [here, Option.some_inj] at there
  rw [← there, works] at left
  cases left

/-- The execution of a run writes a status and moves on. -/
theorem consistent_write (consistent : Consistent manager) {stage : ExecuteStage}
    (keeps : manager.hasLeft runId → stage.left = true)
    (admissible : Admissible (manager.setExecuting runId stage) runId change) :
    Consistent ((manager.updateInMemory runId change now).setExecuting runId stage) := by
  rw [updateInMemory_setExecuting]
  exact consistent_updateInMemory (consistent_setExecuting consistent keeps) admissible

theorem keepsOutcomes_write (consistent : Consistent manager) {stage : ExecuteStage}
    (keeps : manager.hasLeft runId → stage.left = true)
    (admissible : Admissible (manager.setExecuting runId stage) runId change)
    (same : ∀ current, manager.runs runId = some current → current.status.terminal = true →
      (change current).status = current.status ∧ (change current).result = current.result) :
    KeepsOutcomes manager
      ((manager.updateInMemory runId change now).setExecuting runId stage) := by
  rw [updateInMemory_setExecuting]
  exact keepsOutcomes_updateInMemory (consistent_setExecuting consistent keeps) admissible same

/-- A task that has not left finds its run cancelled or still going on. -/
theorem cancelled_of_terminal (consistent : Consistent manager) {stage : ExecuteStage}
    (here : manager.executing runId = some stage) (works : stage.left = false)
    {current : RunStatus} (found : manager.runs runId = some current)
    (terminal : current.status.terminal = true) :
    current.status = .cancelled ∧ manager.cancelled runId = true := by
  have unleft := not_hasLeft here works
  cases status : current.status with
  | queued => simp [status, RunState.terminal] at terminal
  | running => simp [status, RunState.terminal] at terminal
  | succeeded => exact absurd (consistent.ended runId current found (Or.inl status)) unleft
  | failed => exact absurd (consistent.ended runId current found (Or.inr status)) unleft
  | cancelled =>
      exact ⟨rfl, (consistent.cancelled runId current found status).resolve_right unleft⟩

end RunManager

open RunManager

variable {config : Config} {manager next : RunManager}

/-- The check that a final write rests on still holds: `cancel` writes only to a run that
has not succeeded or failed since it looked at the status, `_execute` only to one that has
not been cancelled since it looked at the token, and storing a succeeded status raises
nothing that is not caught. -/
def Timely (manager : RunManager) : Label → Prop
  | .cancelWrite index _ _ =>
      ∀ call, manager.calls[index]? = some call → ∀ run, manager.runs call.runId = some run →
        run.status ≠ .succeeded ∧ run.status ≠ .failed
  | .finish runId _ _ _ =>
      ∀ run, manager.runs runId = some run → run.status ≠ .cancelled
  | .finalizeFailed runId _ _ =>
      ∀ run, manager.runs runId = some run → run.status ≠ .cancelled ∧ run.status ≠ .succeeded
  | _ => True

/-- A step keeps the manager consistent, and a timely one the outcomes of the runs. -/
structure StepFacts (manager : RunManager) (label : Label) (next : RunManager) : Prop where
  consistent : Consistent next
  keeps : Timely manager label → KeepsOutcomes manager next

/-- A step that leaves the statuses alone. -/
theorem StepFacts.quiet {label : Label} (consistent : Consistent next)
    (same : next.runs = manager.runs) : StepFacts manager label next :=
  ⟨consistent, fun _ => keepsOutcomes_of_runs_eq same⟩

/-- A task that has not left writes a status. -/
theorem StepFacts.write {label : Label} (consistent : Consistent manager) {runId : RunId}
    {stage newStage : ExecuteStage} (here : manager.executing runId = some stage)
    (works : stage.left = false) {change : RunStatus → RunStatus} {now : Instant}
    (admissible : Admissible (manager.setExecuting runId newStage) runId change)
    (same : Timely manager label → ∀ current, manager.runs runId = some current →
      current.status = .cancelled → manager.cancelled runId = true →
        (change current).status = .cancelled ∧ (change current).result = current.result) :
    StepFacts manager label
      ((manager.updateInMemory runId change now).setExecuting runId newStage) := by
  have keeps : manager.hasLeft runId → newStage.left = true :=
    fun left => absurd left (not_hasLeft here works)
  refine ⟨consistent_write consistent keeps admissible, fun timely => ?_⟩
  refine keepsOutcomes_write consistent keeps admissible fun current found terminal => ?_
  obtain ⟨status, token⟩ := cancelled_of_terminal consistent here works found terminal
  rw [status]
  exact same timely current found status token

theorem stepFacts_submit (consistent : Consistent manager) {runId : RunId} {request : RunRequest}
    {now : Instant} (edge : step config manager (.submit runId request now) = some next) :
    StepFacts manager (.submit runId request now) next := by
  simp only [step] at edge
  split at edge
  · next allowed =>
      obtain rfl := Option.some_inj.mp edge
      have old {other : RunId} {run queued : RunStatus}
          (found : Function.update manager.runs runId (some queued) other = some run) :
          run = queued ∨ other ≠ runId ∧ manager.runs other = some run := by
        by_cases same : other = runId
        · subst same
          rw [Function.update_self, Option.some_inj] at found
          exact Or.inl found.symm
        · rw [Function.update_of_ne same] at found
          exact Or.inr ⟨same, found⟩
      have left {other : RunId} (differ : other ≠ runId) (left : manager.hasLeft other) :
          ∃ stage, Function.update manager.executing runId (some .submitting) other = some stage ∧
            stage.left = true := by
        rw [Function.update_of_ne differ]
        exact left
      refine ⟨⟨?_, ?_, ?_, ?_, consistent.tokens⟩, fun _ => ?_⟩
      · intro other run found
        by_cases same : other = runId
        · exact same ▸ List.mem_cons_self
        · simp only [Function.update_of_ne same] at found
          exact List.mem_cons_of_mem runId (consistent.known other run found)
      · intro other run found terminal
        rcases old found with rfl | ⟨-, found⟩
        · simp [RunState.terminal] at terminal
        · exact consistent.finished other run found terminal
      · intro other run found status
        rcases old found with rfl | ⟨differ, found⟩
        · simp at status
        · exact left differ (consistent.ended other run found status)
      · intro other run found status
        rcases old found with rfl | ⟨differ, found⟩
        · simp at status
        · exact (consistent.cancelled other run found status).imp_right (left differ)
      · intro other known after found
        have differ : other ≠ runId := fun same => allowed.2 (same ▸ known)
        simp only [Function.update_of_ne differ] at found
        exact ⟨after, found, fun _ => rfl⟩
  · cases edge

theorem stepFacts_cancelWrite (consistent : Consistent manager) {index : Nat}
    {disk : Option Disk} {now : Instant}
    (edge : step config manager (.cancelWrite index disk now) = some next) :
    StepFacts manager (.cancelWrite index disk now) next := by
  simp only [step] at edge
  split at edge
  · next runId cancels snapshot here =>
      have token : manager.cancelled runId = true :=
        consistent.tokens ⟨runId, cancels, .progressing snapshot⟩ (List.mem_of_getElem? here) rfl
      split at edge
      · obtain rfl := Option.some_inj.mp edge
        have admissible : Admissible manager runId (writeCancelledProgress
            (disk.map (terminalProgress .cancelled snapshot (manager.requests runId)))) := by
          refine admissible_writeCancelledProgress ?_ token
          intro progress isSome
          obtain ⟨files, -, rfl⟩ := Option.map_eq_some_iff.mp isSome
          rfl
        refine ⟨consistent_setCall (consistent_updateInMemory consistent admissible) index
          fun _ => ?_, fun timely => ?_⟩
        · rw [updateInMemory]
          split <;> exact token
        · refine keepsOutcomes_updateInMemory consistent admissible ?_
          intro current found terminal
          have written := timely _ here current found
          have status : current.status = .cancelled := by
            cases status : current.status <;> simp_all [RunState.terminal]
          cases disk <;> exact ⟨status.symm, rfl⟩
      · obtain rfl := Option.some_inj.mp edge
        exact .quiet (consistent_setCall consistent index (by simp [CallStage.pastToken])) rfl
  · cases edge

theorem stepFacts_finalizeFailed (consistent : Consistent manager) {runId : RunId}
    {error : String} {now : Instant}
    (edge : step config manager (.finalizeFailed runId error now) = some next) :
    StepFacts manager (.finalizeFailed runId error now) next := by
  have nextEq : next =
      (manager.updateInMemory runId (writeFailed error) now).setExecuting runId .leaving := by
    simp only [step] at edge
    split at edge <;> first | exact (Option.some_inj.mp edge).symm | cases edge
  subst nextEq
  have left : (manager.setExecuting runId .leaving).hasLeft runId := hasLeft_setExecuting_self rfl
  have admissible : Admissible (manager.setExecuting runId .leaving) runId (writeFailed error) :=
    admissible_writeFailed left
  refine ⟨consistent_write consistent (fun _ => rfl) admissible, fun timely => ?_⟩
  refine keepsOutcomes_write consistent (fun _ => rfl) admissible fun current found terminal => ?_
  obtain ⟨uncancelled, unsucceeded⟩ := timely current found
  have status : current.status = .failed := by
    cases status : current.status <;> simp_all [RunState.terminal]
  exact ⟨status.symm, rfl⟩

/-- A refresh that ends, by its progress or by files that cannot be read. -/
theorem refreshFacts (consistent : Consistent manager) (runId : RunId) (snapshot : RunStatus)
    (disk : Option Disk) (now : Instant) :
    Consistent (manager.refreshWith runId snapshot disk now) ∧
      KeepsOutcomes manager (manager.refreshWith runId snapshot disk now) ∧
        (manager.refreshWith runId snapshot disk now).executing = manager.executing := by
  cases disk with
  | none => exact ⟨consistent, keepsOutcomes_of_runs_eq rfl, rfl⟩
  | some disk =>
      refine ⟨consistent_applyProgress consistent snapshot disk,
        keepsOutcomes_applyProgress consistent snapshot disk, ?_⟩
      simp only [refreshWith, applyProgress, updateInMemory]
      split <;> (try split) <;> rfl

theorem consistent_cancelToken (consistent : Consistent manager) (runId : RunId) :
    Consistent { manager with cancelled := Function.update manager.cancelled runId true } := by
  have keeps {other : RunId} (set : manager.cancelled other = true) :
      Function.update manager.cancelled runId true other = true := by
    by_cases same : other = runId
    · exact same ▸ Function.update_self ..
    · rwa [Function.update_of_ne same]
  exact
    { consistent with
      cancelled := fun other run found status =>
        (consistent.cancelled other run found status).imp_left keeps
      tokens := fun call member past => keeps (consistent.tokens call member past) }

/-- What one step keeps. -/
theorem stepFacts (consistent : Consistent manager) {label : Label}
    (edge : step config manager label = some next) : StepFacts manager label next := by
  cases label with
  | submit runId request now => exact stepFacts_submit consistent edge
  | submitted runId stored =>
      simp only [step] at edge
      split at edge
      · next here =>
          have keeps {stage : ExecuteStage} : manager.hasLeft runId → stage.left = true :=
            fun left => absurd left (not_hasLeft here rfl)
          cases stored with
          | true =>
              obtain rfl := Option.some_inj.mp edge
              exact .quiet (consistent_setExecuting consistent keeps) rfl
          | false =>
              obtain rfl := Option.some_inj.mp edge
              exact ⟨consistent_setExecuting (consistent_discardRun consistent) keeps,
                fun _ => keepsOutcomes_discardRun⟩
      · cases edge
  | acquire runId now =>
      simp only [step] at edge
      split at edge
      · next here =>
          split at edge
          · split at edge
            · next token =>
                obtain rfl := Option.some_inj.mp edge
                exact .write consistent here rfl (admissible_writeCancelled (Or.inl token))
                  fun _ _ _ _ _ => ⟨rfl, rfl⟩
            · next token =>
                obtain rfl := Option.some_inj.mp edge
                exact .write consistent here rfl admissible_writeRunning
                  fun _ _ _ _ cancelled => absurd cancelled token
          · cases edge
      · cases edge
  | started runId =>
      simp only [step] at edge
      split at edge
      · next here =>
          obtain rfl := Option.some_inj.mp edge
          exact .quiet (consistent_setExecuting consistent
            fun left => absurd left (not_hasLeft here rfl)) rfl
      · cases edge
  | returned runId result now =>
      simp only [step] at edge
      split at edge
      · next here =>
          split at edge
          · next token =>
              obtain rfl := Option.some_inj.mp edge
              exact .write consistent here rfl (admissible_writeCancelled (Or.inl token))
                fun _ _ _ _ _ => ⟨rfl, rfl⟩
          · obtain rfl := Option.some_inj.mp edge
            exact .quiet (consistent_setExecuting consistent
              fun left => absurd left (not_hasLeft here rfl)) rfl
      · cases edge
  | runCancelled runId now =>
      simp only [step] at edge
      split at edge
      · next here =>
          obtain rfl := Option.some_inj.mp edge
          exact .write consistent here rfl
            (admissible_writeCancelled (Or.inr (hasLeft_setExecuting_self rfl)))
            fun _ _ _ _ _ => ⟨rfl, rfl⟩
      · cases edge
  | raised runId error now =>
      simp only [step] at edge
      split at edge
      · next here =>
          obtain rfl := Option.some_inj.mp edge
          by_cases token : manager.cancelled runId = true
          · rw [if_pos token]
            exact .write consistent here rfl (admissible_writeCancelled (Or.inl token))
              fun _ _ _ _ _ => ⟨rfl, rfl⟩
          · rw [if_neg token]
            exact .write consistent here rfl
              (admissible_writeFailed (hasLeft_setExecuting_self rfl))
              fun _ _ _ _ cancelled => absurd cancelled token
      · cases edge
  | finalRead runId =>
      simp only [step] at edge
      split at edge
      · next here _ =>
          obtain rfl := Option.some_inj.mp edge
          exact .quiet (consistent_setExecuting consistent
            fun left => absurd left (not_hasLeft here rfl)) rfl
      · cases edge
  | finalRefreshed runId disk now =>
      simp only [step] at edge
      split at edge
      · next result snapshot here =>
          have refreshed := refreshFacts consistent runId snapshot disk now
          split at edge
          all_goals
            obtain rfl := Option.some_inj.mp edge
            refine ⟨consistent_setExecuting refreshed.1 fun left => ?_, fun _ => refreshed.2.1⟩
            exact absurd left (not_hasLeft ((congrFun refreshed.2.2 runId).trans here) rfl)
      · cases edge
  | finish runId disk artifacts now =>
      simp only [step] at edge
      split at edge
      · next here =>
          obtain rfl := Option.some_inj.mp edge
          refine .write consistent here rfl
            (admissible_writeSucceeded rfl (hasLeft_setExecuting_self rfl)) ?_
          exact fun timely current found status _ => absurd status (timely current found)
      · cases edge
  | finalizeFailed runId error now => exact stepFacts_finalizeFailed consistent edge
  | executeEnded runId =>
      simp only [step] at edge
      split at edge
      · cases edge
      · cases edge
      · obtain rfl := Option.some_inj.mp edge
        exact .quiet (consistent_setExecuting consistent fun _ => rfl) rfl
  | call runId cancels =>
      obtain rfl := Option.some_inj.mp edge
      refine .quiet { consistent with tokens := ?_ } rfl
      intro call member past
      rcases List.mem_append.mp member with old | new
      · exact consistent.tokens call old past
      · obtain rfl := List.mem_singleton.mp new
        cases past
  | refreshSkipped index =>
      simp only [step] at edge
      split at edge
      · obtain rfl := Option.some_inj.mp edge
        exact .quiet (consistent_settleCall consistent index _) (runs_settleCall index _)
      · cases edge
  | refreshRead index =>
      simp only [step] at edge
      split at edge
      · split at edge
        all_goals
          obtain rfl := Option.some_inj.mp edge
          exact .quiet (consistent_setCall consistent index (by simp [CallStage.pastToken])) rfl
      · cases edge
  | refreshed index disk now =>
      simp only [step] at edge
      split at edge
      · next runId cancels snapshot here =>
          obtain rfl := Option.some_inj.mp edge
          have refreshed := refreshFacts consistent runId snapshot disk now
          refine ⟨consistent_settleCall refreshed.1 index _, fun _ => ?_⟩
          unfold KeepsOutcomes
          rw [runs_settleCall]
          exact refreshed.2.1
      · cases edge
  | tokenCancelled index =>
      simp only [step] at edge
      split at edge
      · next runId cancels here =>
          obtain rfl := Option.some_inj.mp edge
          refine .quiet (consistent_setCall (consistent_cancelToken consistent runId) index
            fun _ => ?_) rfl
          exact Function.update_self ..
      · cases edge
  | inspect index =>
      simp only [step] at edge
      split at edge
      · next runId cancels here =>
          have token : manager.cancelled runId = true :=
            consistent.tokens ⟨runId, cancels, .tokenSet⟩ (List.mem_of_getElem? here) rfl
          split at edge
          all_goals
            obtain rfl := Option.some_inj.mp edge
            exact .quiet (consistent_setCall consistent index fun _ => token) rfl
      · cases edge
  | cancelWrite index disk now => exact stepFacts_cancelWrite consistent edge
  | cancelReturn index =>
      simp only [step] at edge
      split at edge
      · obtain rfl := Option.some_inj.mp edge
        exact .quiet (consistent_setCall consistent index (by simp [CallStage.pastToken])) rfl
      · cases edge
  | callAborted index =>
      simp only [step] at edge
      split at edge
      · obtain rfl := Option.some_inj.mp edge
        exact .quiet (consistent_setCall consistent index (by simp [CallStage.pastToken])) rfl
      · cases edge
  | prune runId now =>
      simp only [step] at edge
      split at edge
      · split at edge
        · obtain rfl := Option.some_inj.mp edge
          exact ⟨consistent_discardRun consistent, fun _ => keepsOutcomes_discardRun⟩
        · cases edge
      · cases edge

theorem submitted_step {label : Label} (edge : step config manager label = some next) :
    manager.submitted ⊆ next.submitted := by
  cases label with
  | submit runId request now =>
      simp only [step] at edge
      split at edge
      · obtain rfl := Option.some_inj.mp edge
        exact List.subset_cons_self runId manager.submitted
      · cases edge
  | call runId cancels =>
      obtain rfl := Option.some_inj.mp edge
      exact List.Subset.refl _
  | _ =>
      have same : next.submitted = manager.submitted := by
        simp only [step] at edge
        repeat' split at edge
        all_goals first
          | contradiction
          | obtain rfl := Option.some_inj.mp edge; simp
      rw [same]
      exact List.Subset.refl _

/-- A step that keeps the outcome of every run that has ended is timely. -/
theorem timely_of_outcomes {label : Label} (edge : step config manager label = some next)
    (keeps : ∀ runId before, manager.runs runId = some before → before.status.terminal = true →
      ∀ after, next.runs runId = some after → after.outcome = before.outcome) :
    Timely manager label := by
  have unwritten {runId : RunId} {current : RunStatus} {change : RunStatus → RunStatus}
      {now : Instant} (found : manager.runs runId = some current)
      (terminal : current.status.terminal = true)
      (written : next.runs = (manager.updateInMemory runId change now).runs) :
      (change current).status = current.status := by
    rw [updateInMemory_of_some found] at written
    have after : next.runs runId = some (stamped current (change current) now) := by
      rw [written]
      exact Function.update_self ..
    exact congrArg Prod.fst (keeps runId current found terminal _ after)
  cases label with
  | cancelWrite index disk now =>
      intro call isCall run found
      simp only [step, isCall] at edge
      split at edge
      · next runId cancels snapshot isProgressing =>
          obtain rfl := Option.some_inj.mp isProgressing
          simp only [found] at edge
          obtain rfl := Option.some_inj.mp edge
          constructor
          all_goals
            intro status
            have same := unwritten found (by rw [status]; rfl) rfl
            rw [status] at same
            cases disk <;> cases same
      · cases edge
  | finish runId disk artifacts now =>
      intro run found status
      simp only [step] at edge
      split at edge
      · obtain rfl := Option.some_inj.mp edge
        have same := unwritten found (by rw [status]; rfl) rfl
        rw [status] at same
        cases same
      · cases edge
  | finalizeFailed runId error now =>
      intro run found
      have written : next.runs =
          (manager.updateInMemory runId (writeFailed error) now).runs := by
        simp only [step] at edge
        split at edge <;> first | exact (Option.some_inj.mp edge) ▸ rfl | cases edge
      constructor
      all_goals
        intro status
        have same := unwritten found (by rw [status]; rfl) written
        rw [status] at same
        cases same
  | _ => trivial

/-- Of a run that has ended, every later status has the outcome of the first, and shows it
as its phase. -/
def FinalOutcomes (config : Config) (labels : List Label) : Prop :=
  ∀ first second rest, labels = first ++ second ++ rest → ∀ middle final,
    GuardedRuns.run (step config) {} first = some middle →
    GuardedRuns.run (step config) middle second = some final →
    ∀ runId before, middle.runs runId = some before → before.status.terminal = true →
      before.phase = some before.status.phase ∧
        ∀ after, final.runs runId = some after → after.outcome = before.outcome

theorem consistent_initial : Consistent {} where
  known _ _ found := by cases found
  finished _ _ found := by cases found
  ended _ _ found := by cases found
  cancelled _ _ found := by cases found
  tokens _ member := by cases member

/-- The run is known and has ended with the outcome, as far as it is still stored. -/
structure Settled (runId : RunId) (outcome : RunState × Option Json × Option Instant)
    (manager : RunManager) : Prop where
  consistent : Consistent manager
  known : runId ∈ manager.submitted
  same : ∀ run, manager.runs runId = some run → run.outcome = outcome

/-- What a run has ended with stays over timely steps. -/
theorem outcome_of_meets {runId : RunId} {before after : RunStatus} {final : RunManager}
    {labels : List Label} (consistent : Consistent manager)
    (found : manager.runs runId = some before) (terminal : before.status.terminal = true)
    (meets : GuardedRuns.Meets (step config) Timely manager labels)
    (runs : GuardedRuns.run (step config) manager labels = some final)
    (here : final.runs runId = some after) : after.outcome = before.outcome := by
  have initially : Settled runId before.outcome manager :=
    { consistent := consistent
      known := consistent.known runId before found
      same := fun run isRun => by rw [Option.some_inj.mp (found.symm.trans isRun)] }
  have settled : Settled runId before.outcome final := by
    refine GuardedRuns.invariant_of_meets ?_ initially meets runs
    intro state label next holds timely edge
    have facts := stepFacts holds.consistent edge
    refine ⟨facts.consistent, submitted_step edge holds.known, fun run isRun => ?_⟩
    obtain ⟨previous, isPrevious, keeps⟩ := facts.keeps timely runId holds.known run isRun
    have outcome := holds.same previous isPrevious
    have status : previous.status = before.status := congrArg Prod.fst outcome
    rw [keeps (status ▸ terminal), outcome]
  exact settled.same after here

/-- Runs that have ended stay as they ended exactly as long as every final write is
timely. -/
theorem finalOutcomes_iff_timely (config : Config) {labels : List Label} {final : RunManager}
    (runs : GuardedRuns.run (step config) {} labels = some final) :
    FinalOutcomes config labels ↔ GuardedRuns.Meets (step config) Timely {} labels := by
  have consistentAfter {first : List Label} {middle : RunManager}
      (runsFirst : GuardedRuns.run (step config) {} first = some middle) : Consistent middle :=
    GuardedRuns.Reachable.invariant Consistent
      (fun _ _ _ holds edge => (stepFacts holds edge).consistent) consistent_initial
      ⟨first, runsFirst⟩
  constructor
  · intro outcomes
    refine GuardedRuns.meets_iff_forall_split.mpr fun first label second split state runsFirst => ?_
    rw [split, GuardedRuns.run_append, runsFirst, Option.bind_some] at runs
    obtain ⟨next, edge, -⟩ := GuardedRuns.run_cons_eq_some.mp runs
    refine timely_of_outcomes edge fun runId before found terminal after here => ?_
    have stepRuns : GuardedRuns.run (step config) state [label] = some next :=
      GuardedRuns.run_cons_eq_some.mpr ⟨next, edge, rfl⟩
    exact (outcomes first [label] second (by rw [split]; simp) state next runsFirst stepRuns
      runId before found terminal).2 after here
  · intro meets first second rest split middle reached runsFirst runsSecond runId before found
      terminal
    have consistent := consistentAfter runsFirst
    refine ⟨(consistent.finished runId before found terminal).2, fun after here => ?_⟩
    have meetsSecond : GuardedRuns.Meets (step config) Timely middle second := by
      refine GuardedRuns.meets_iff_forall_split.mpr ?_
      intro earlier label later splitSecond state runsEarlier
      refine GuardedRuns.meets_iff_forall_split.mp meets (first ++ earlier) label (later ++ rest)
        (by rw [split, splitSecond]; simp) state ?_
      rw [GuardedRuns.run_append, runsFirst]
      exact runsEarlier
    exact outcome_of_meets consistent found terminal meetsSecond runsSecond here

/-! A service for one run, and the files of a run in its middle. -/

def singleRun : Config where
  maxConcurrentRuns := 1
  maxStoredRuns := 0

def halfway : Disk where
  agentCompleted := 1
  predictions := 1
  evalRunId := none
  evalCompleted _ := 0

/-- A run that succeeds. -/
def succeeding : List Label :=
  [.submit "run" ⟨["one", "two"]⟩ 1, .submitted "run" true, .acquire "run" 2, .started "run",
    .returned "run" (.object []) 3, .finalRead "run", .finalRefreshed "run" (some halfway) 4,
    .finish "run" halfway [] 5]

theorem finalOutcomes_succeeding :
    FinalOutcomes singleRun (succeeding ++ [.executeEnded "run"]) := by
  refine (finalOutcomes_iff_timely singleRun rfl).mpr ?_
  iterate 7 refine GuardedRuns.meets_cons rfl trivial ?_
  refine GuardedRuns.meets_cons rfl ?_ (GuardedRuns.meets_cons rfl trivial trivial)
  intro run found
  obtain rfl := Option.some_inj.mp found
  decide

/-- A cancellation that looks at the status while the run works, and writes after it has
succeeded. -/
def overtakenCancel : List Label :=
  [.tokenCancelled 0, .inspect 0, .cancelWrite 0 (some halfway) 6]

/-- The same run with a call of `cancel` while the runner works. -/
def succeedingUnderCancel : List Label :=
  [.submit "run" ⟨["one", "two"]⟩ 1, .submitted "run" true, .acquire "run" 2, .started "run",
    .call "run" true, .refreshRead 0, .refreshed 0 (some halfway) 3,
    .returned "run" (.object []) 3, .finalRead "run", .finalRefreshed "run" (some halfway) 4,
    .finish "run" halfway [] 5]

theorem succeeded_then_cancelled :
    ¬ FinalOutcomes singleRun (succeedingUnderCancel ++ overtakenCancel) := by
  intro outcomes
  have kept := (outcomes succeedingUnderCancel overtakenCancel [] rfl _ _ rfl rfl "run" _ rfl
    rfl).2 _ rfl
  have status : RunState.cancelled = RunState.succeeded := congrArg Prod.fst kept
  cases status

end SweBenchService

end InferenceEndpoint
