import InferenceEndpoint.Evaluation.SweBenchOutcomes
import Mathlib.Data.List.Sort

/-!
# Pruning and artifact readers

The prune task lists the runs that it may discard and discards them one after the other,
with an `await` between two of them.  Artifact requests register as readers of a run while
they read its files.
-/

namespace InferenceEndpoint

namespace SweBenchService

/-- Where `get_artifact` stands. -/
inductive RequestStage
  | getting
  | reading
  | closed
  deriving DecidableEq

/-- An artifact request with its call of `get`. -/
structure ArtifactRequest where
  runId : RunId
  call : Nat
  stage : RequestStage := .getting

/-- Where the prune task stands. -/
inductive PruneStage
  /-- There is no task, or it has ended. -/
  | idle
  | scheduled
  | sleeping
  /-- The files of a run are removed; some of the listed runs remain. -/
  | discarding (remaining : List RunId) (listedAt : Instant)

structure Service where
  manager : RunManager := {}
  /-- `_artifact_readers`. -/
  readers : RunId → Nat := fun _ => 0
  requests : List ArtifactRequest := []
  prune : PruneStage := .idle

inductive ServiceLabel
  | manager (label : Label)
  | requestArtifact (runId : RunId)
  /-- `get` answers, and the file is there or not. -/
  | answerArtifact (request : Nat) (label : Label) (found : Bool)
  | releaseReader (request : Nat)
  | prune (now : Instant)
  | discardNext (now : Instant)

def RunManager.completed (manager : RunManager) (runId : RunId) : Bool :=
  match manager.runs runId with
  | some run => run.status.terminal && run.finishedAt.isSome
  | none => false

/-- `run.finished_at or 0`. -/
def RunManager.finishedAt (manager : RunManager) (runId : RunId) : Instant :=
  ((manager.runs runId).bind (·.finishedAt)).getD 0

/-- The completed runs, the oldest submission first. -/
def RunManager.completedRuns (manager : RunManager) : List RunId :=
  manager.submitted.reverse.filter manager.completed

/-- The label ends the call of `get`. -/
def Label.answers (call : Nat) : Label → Bool
  | .refreshSkipped index | .refreshed index _ _ => index = call
  | _ => false

/-- The label ends the execution of a run, which schedules the prune task. -/
def Label.schedulesPrune (next : RunManager) : Label → Bool
  | .executeEnded _ => true
  | .finalRefreshed runId _ _ =>
      match next.executing runId with
      | some .ended => true
      | _ => false
  | _ => false

namespace Service

variable (config : Config) (service : Service)

def schedulePrune : Service :=
  match service.prune with
  | .idle => { service with prune := .scheduled }
  | _ => service

def acquireArtifactReader (runId : RunId) : Service :=
  { service with
    readers := Function.update service.readers runId (service.readers runId + 1) }

/-- `release_artifact_reader`; a last reader leaves no entry. -/
def releaseArtifactReader (runId : RunId) : Service :=
  { service with
    readers := Function.update service.readers runId (service.readers runId - 1) }

def setRequest (index : Nat) (request : ArtifactRequest) (stage : RequestStage) : Service :=
  { service with requests := service.requests.set index { request with stage := stage } }

def discardRun (runId : RunId) : Service :=
  { service with
    manager := service.manager.discardRun runId
    readers := Function.update service.readers runId 0 }

/-- The runs that may be discarded, the one that finished first at the head. -/
def eligible (now : Instant) : List RunId :=
  (service.manager.completedRuns.filter fun runId =>
    service.manager.finishedAt runId + artifactRetentionGrace ≤ now &&
      service.readers runId = 0).insertionSort fun first second =>
        service.manager.finishedAt first ≤ service.manager.finishedAt second

def overflow : Nat :=
  service.manager.completedRuns.length - config.maxStoredRuns

/-- `eligible[:overflow]`. -/
def batch (now : Instant) : List RunId :=
  (service.eligible now).take (service.overflow config)

/-- `_prune_completed_runs` from the top of its loop to the next `await`. -/
def pruneLoop (now : Instant) : Service :=
  if config.maxStoredRuns = 0 ∨ service.overflow config = 0 then { service with prune := .idle }
  else
    match service.batch config now with
    | [] => { service with prune := .sleeping }
    | first :: rest => { service.discardRun first with prune := .discarding rest now }

/-- The prune task is at the top of its loop. -/
def atLoop : Bool :=
  match service.prune with
  | .scheduled | .sleeping | .discarding [] _ => true
  | _ => false

/-- The service after a step of its manager: a submission that could not be stored is
discarded with its readers, and a run that ends schedules the prune task. -/
def afterStep (label : Label) (next : RunManager) : Service :=
  match label with
  | .submitted runId false =>
      { service with manager := next, readers := Function.update service.readers runId 0 }
  | label =>
      if label.schedulesPrune next then { service with manager := next }.schedulePrune
      else { service with manager := next }

/-- `get_artifact` once `get` has answered: it raises for an unknown run, and gives the
reader back where the file is not found. -/
def openArtifact (index : Nat) (request : ArtifactRequest) (found : Bool) : Service :=
  if (service.manager.runs request.runId).isSome ∧ found then
    (service.acquireArtifactReader request.runId).setRequest index request .reading
  else service.setRequest index request .closed

end Service

def serviceStep (config : Config) (service : Service) : ServiceLabel → Option Service
  | .manager (.prune _ _) => none
  | .manager label =>
      (step config service.manager label).map (service.afterStep label)
  | .requestArtifact runId =>
      (step config service.manager (.call runId false)).map fun next =>
        { service with
          manager := next
          requests := service.requests ++
            [{ runId := runId, call := service.manager.calls.length }] }
  | .answerArtifact index label found =>
      match service.requests[index]? with
      | some ⟨runId, call, .getting⟩ =>
          if label.answers call then
            (step config service.manager label).map fun next =>
              { service with manager := next }.openArtifact index ⟨runId, call, .getting⟩ found
          else none
      | _ => none
  | .releaseReader index =>
      match service.requests[index]? with
      | some ⟨runId, call, .reading⟩ =>
          some ((service.releaseArtifactReader runId).setRequest index ⟨runId, call, .reading⟩
            .closed)
      | _ => none
  | .prune now => if service.atLoop then some (service.pruneLoop config now) else none
  | .discardNext _ =>
      match service.prune with
      | .discarding (next :: rest) listedAt =>
          some { service.discardRun next with prune := .discarding rest listedAt }
      | _ => none

/-! ## What pruning may do -/

/-- The run that a step of the prune task discards, and the time. -/
def discarded? (config : Config) (service : Service) : ServiceLabel → Option (RunId × Instant)
  | .prune now =>
      if service.atLoop && config.maxStoredRuns ≠ 0 then
        (service.batch config now).head?.map (·, now)
      else none
  | .discardNext now =>
      match service.prune with
      | .discarding (next :: _) _ => some (next, now)
      | _ => none
  | _ => none

/-- The run has ended at least the grace before, and nobody reads its files. -/
structure Due (service : Service) (runId : RunId) (now : Instant) : Prop where
  ended : ∃ run finished, service.manager.runs runId = some run ∧ run.status.terminal = true ∧
    run.finishedAt = some finished ∧ finished + artifactRetentionGrace ≤ now
  unread : service.readers runId = 0

structure Permitted (config : Config) (service : Service) (runId : RunId) (now : Instant) :
    Prop where
  due : Due service runId now
  overflows : config.maxStoredRuns < service.manager.completedCount

/-- At every discard, the run may be discarded. -/
def PrunesPermitted (config : Config) (labels : List ServiceLabel) : Prop :=
  ∀ first label rest, labels = first ++ label :: rest → ∀ service,
    GuardedRuns.run (serviceStep config) {} first = some service →
    ∀ runId now, discarded? config service label = some (runId, now) →
      Permitted config service runId now

/-- While listed runs remain: no reader registers for one of them, no submission fails to
be stored after its run has ended, and the clock is not set back. -/
def Undisturbed (service : Service) (label : ServiceLabel) : Prop :=
  match service.prune with
  | .discarding remaining listedAt =>
      match label with
      | .answerArtifact index _ found =>
          found = true → ∀ request, service.requests[index]? = some request →
            request.runId ∉ remaining
      | .manager (.submitted runId false) =>
          remaining ≠ [] → ∀ run, service.manager.runs runId = some run →
            run.status.terminal = false
      | .discardNext now => listedAt ≤ now
      | _ => True
  | _ => True

/-! ## Runs that have ended stay stored -/

/-- Runs that have ended are still there, have ended and finished when they did. -/
def KeepsEnded (manager next : RunManager) : Prop :=
  ∀ runId run, manager.runs runId = some run → run.status.terminal = true →
    ∃ after, next.runs runId = some after ∧ after.status.terminal = true ∧
      after.finishedAt = run.finishedAt

namespace RunManager

variable {config : Config} {manager next : RunManager} {runId : RunId}
  {change : RunStatus → RunStatus} {now : Instant}

theorem keepsEnded_of_runs_eq (same : next.runs = manager.runs) : KeepsEnded manager next :=
  fun _ run found terminal => ⟨run, same ▸ found, terminal, rfl⟩

theorem keepsEnded_updateInMemory (consistent : Consistent manager)
    (keeps : ∀ current, manager.runs runId = some current → current.status.terminal = true →
      (change current).status.terminal = true ∧
        (change current).finishedAt = current.finishedAt) :
    KeepsEnded manager (manager.updateInMemory runId change now) := by
  intro other run found terminal
  cases here : manager.runs runId with
  | none =>
      rw [updateInMemory_of_none here]
      exact ⟨run, found, terminal, rfl⟩
  | some current =>
      rw [updateInMemory_of_some here]
      by_cases same : other = runId
      · subst same
        obtain rfl := Option.some_inj.mp (here.symm.trans found)
        obtain ⟨stillTerminal, sameFinish⟩ := keeps current here terminal
        have finished := (consistent.finished other current here terminal).1
        refine ⟨stamped current (change current) now, by simp, stillTerminal, ?_⟩
        have notNone : current.finishedAt.isNone = false := by
          cases isFinished : current.finishedAt <;> simp [isFinished] at finished ⊢
        simp [stamped, notNone, sameFinish]
      · exact ⟨run, by simp [Function.update_of_ne same, found], terminal, rfl⟩

theorem keepsEnded_refreshWith (consistent : Consistent manager) (snapshot : RunStatus)
    (disk : Option Disk) : KeepsEnded manager (manager.refreshWith runId snapshot disk now) := by
  cases disk with
  | none => exact keepsEnded_of_runs_eq rfl
  | some disk =>
      simp only [refreshWith, applyProgress]
      split
      · exact keepsEnded_of_runs_eq rfl
      · split
        · exact keepsEnded_of_runs_eq rfl
        · exact keepsEnded_updateInMemory consistent fun _ _ terminal => ⟨terminal, rfl⟩

theorem terminal_writeCancelledProgress (progress : Option Progress) (status : RunStatus) :
    (writeCancelledProgress progress status).status.terminal = true ∧
      (writeCancelledProgress progress status).finishedAt = status.finishedAt := by
  cases progress <;> exact ⟨rfl, rfl⟩

/-- Only pruning and a submission that is not stored make runs disappear. -/
theorem keepsEnded_step (consistent : Consistent manager) {label : Label}
    (noPrune : ∀ runId now, label ≠ .prune runId now)
    (stored : ∀ runId, label = .submitted runId false → ∀ run, manager.runs runId = some run →
      run.status.terminal = false)
    (edge : step config manager label = some next) : KeepsEnded manager next := by
  cases label with
  | submit runId request now =>
      simp only [step] at edge
      split at edge
      · next allowed =>
          obtain rfl := Option.some_inj.mp edge
          intro other run found terminal
          have different : other ≠ runId := by
            rintro rfl
            exact allowed.2 (consistent.known other run found)
          exact ⟨run, by simp [Function.update_of_ne different, found], terminal, rfl⟩
      · cases edge
  | submitted runId isStored =>
      simp only [step] at edge
      split at edge
      · cases isStored with
        | true =>
            obtain rfl := Option.some_inj.mp edge
            exact keepsEnded_of_runs_eq rfl
        | false =>
            obtain rfl := Option.some_inj.mp edge
            intro other run found terminal
            have different : other ≠ runId := by
              rintro rfl
              rw [stored other rfl run found] at terminal
              cases terminal
            exact ⟨run, by simp [discardRun, setExecuting, Function.update_of_ne different, found],
              terminal, rfl⟩
      · cases edge
  | acquire runId now =>
      simp only [step] at edge
      split at edge
      · next here =>
          split at edge
          · split at edge
            · obtain rfl := Option.some_inj.mp edge
              exact keepsEnded_updateInMemory consistent fun _ _ _ => ⟨rfl, rfl⟩
            · next token =>
                obtain rfl := Option.some_inj.mp edge
                refine keepsEnded_updateInMemory consistent fun current found terminal => ?_
                exact absurd (cancelled_of_terminal consistent here rfl found terminal).2 token
          · cases edge
      · cases edge
  | returned runId result now =>
      simp only [step] at edge
      split at edge
      · split at edge
        · obtain rfl := Option.some_inj.mp edge
          exact keepsEnded_updateInMemory consistent fun _ _ _ => ⟨rfl, rfl⟩
        · obtain rfl := Option.some_inj.mp edge
          exact keepsEnded_of_runs_eq rfl
      · cases edge
  | runCancelled runId now =>
      simp only [step] at edge
      split at edge
      · obtain rfl := Option.some_inj.mp edge
        exact keepsEnded_updateInMemory consistent fun _ _ _ => ⟨rfl, rfl⟩
      · cases edge
  | raised runId error now =>
      simp only [step] at edge
      split at edge
      · obtain rfl := Option.some_inj.mp edge
        refine keepsEnded_updateInMemory consistent fun _ _ _ => ?_
        split <;> exact ⟨rfl, rfl⟩
      · cases edge
  | finalRefreshed runId disk now =>
      simp only [step] at edge
      split at edge
      · next snapshot _ =>
          have refreshed := @keepsEnded_refreshWith manager runId now consistent snapshot disk
          split at edge
          all_goals
            obtain rfl := Option.some_inj.mp edge
            exact refreshed
      · cases edge
  | finish runId disk artifacts now =>
      simp only [step] at edge
      split at edge
      · obtain rfl := Option.some_inj.mp edge
        exact keepsEnded_updateInMemory consistent fun _ _ _ => ⟨rfl, rfl⟩
      · cases edge
  | finalizeFailed runId error now =>
      simp only [step] at edge
      split at edge
      all_goals first
        | obtain rfl := Option.some_inj.mp edge
          exact keepsEnded_updateInMemory consistent fun _ _ _ => ⟨rfl, rfl⟩
        | cases edge
  | call runId cancels =>
      obtain rfl := Option.some_inj.mp edge
      exact keepsEnded_of_runs_eq rfl
  | refreshSkipped index =>
      simp only [step] at edge
      split at edge
      · obtain rfl := Option.some_inj.mp edge
        exact keepsEnded_of_runs_eq (runs_settleCall index _)
      · cases edge
  | refreshed index disk now =>
      simp only [step] at edge
      split at edge
      · next runId cancels snapshot here =>
          obtain rfl := Option.some_inj.mp edge
          unfold KeepsEnded
          rw [runs_settleCall]
          exact keepsEnded_refreshWith consistent snapshot disk
      · cases edge
  | cancelWrite index disk now =>
      simp only [step] at edge
      split at edge
      · split at edge
        · obtain rfl := Option.some_inj.mp edge
          exact keepsEnded_updateInMemory consistent fun _ _ _ =>
            terminal_writeCancelledProgress _ _
        · obtain rfl := Option.some_inj.mp edge
          exact keepsEnded_of_runs_eq rfl
      · cases edge
  | prune runId now => exact absurd rfl (noPrune runId now)
  | _ =>
      have same : next.runs = manager.runs := by
        simp only [step] at edge
        repeat' split at edge
        all_goals first
          | contradiction
          | obtain rfl := Option.some_inj.mp edge; rfl
      exact keepsEnded_of_runs_eq same

end RunManager

open RunManager

variable {config : Config} {manager next : RunManager}

/-! ## Counting -/

/-- A submission is new, and nothing else submits. -/
theorem submitted_cases {label : Label} (edge : step config manager label = some next) :
    next.submitted = manager.submitted ∨
      ∃ runId, runId ∉ manager.submitted ∧ next.submitted = runId :: manager.submitted := by
  cases label with
  | submit runId request now =>
      simp only [step] at edge
      split at edge
      · next allowed =>
          obtain rfl := Option.some_inj.mp edge
          exact .inr ⟨runId, allowed.2, rfl⟩
      · cases edge
  | call runId cancels =>
      obtain rfl := Option.some_inj.mp edge
      exact .inl rfl
  | _ =>
      left
      simp only [step] at edge
      repeat' split at edge
      all_goals first
        | contradiction
        | obtain rfl := Option.some_inj.mp edge; simp

theorem completedCount_eq (manager : RunManager) :
    manager.completedCount = manager.completedRuns.length := by
  rw [completedRuns, ← List.countP_eq_length_filter, List.countP_reverse]
  rfl

theorem completed_iff {runId : RunId} :
    manager.completed runId = true ↔ ∃ run finished, manager.runs runId = some run ∧
      run.status.terminal = true ∧ run.finishedAt = some finished := by
  rw [completed]
  cases manager.runs runId with
  | none => simp
  | some run => simp [Option.isSome_iff_exists]

theorem completed_of_keepsEnded (keeps : KeepsEnded manager next) {runId : RunId}
    (isCompleted : manager.completed runId = true) : next.completed runId = true := by
  obtain ⟨run, finished, found, terminal, isFinished⟩ := completed_iff.mp isCompleted
  obtain ⟨after, stays, stillTerminal, sameFinish⟩ := keeps runId run found terminal
  exact completed_iff.mpr ⟨after, finished, stays, stillTerminal, sameFinish.trans isFinished⟩

theorem completedCount_mono (keeps : KeepsEnded manager next)
    (submitted : next.submitted = manager.submitted ∨
      ∃ runId, runId ∉ manager.submitted ∧ next.submitted = runId :: manager.submitted) :
    manager.completedCount ≤ next.completedCount := by
  change manager.submitted.countP manager.completed ≤ next.submitted.countP next.completed
  have more : manager.submitted.countP manager.completed ≤
      manager.submitted.countP next.completed :=
    List.countP_mono_left fun runId _ => completed_of_keepsEnded keeps
  rcases submitted with same | ⟨runId, -, same⟩
  · rw [same]
    exact more
  · rw [same, List.countP_cons]
    omega

theorem countP_forget {Item : Type} {items : List Item} (distinct : items.Nodup) {item : Item}
    (member : item ∈ items) {before after : Item → Bool}
    (same : ∀ other, other ≠ item → after other = before other) (was : before item = true)
    (gone : after item = false) : items.countP after + 1 = items.countP before := by
  induction items with
  | nil => cases member
  | cons head items ih =>
      obtain ⟨fresh, rest⟩ := List.nodup_cons.mp distinct
      rw [List.countP_cons, List.countP_cons]
      rcases List.mem_cons.mp member with rfl | inRest
      · have unchanged : items.countP after = items.countP before := by
          apply List.countP_congr
          intro other isMember
          rw [same other fun isItem => fresh (isItem ▸ isMember)]
        simp only [was, gone, unchanged]
        rfl
      · have different : head ≠ item := fun isItem => fresh (isItem ▸ inRest)
        rw [same head different, ← ih rest inRest]
        omega

theorem completedCount_discardRun (consistent : Consistent manager)
    (distinct : manager.submitted.Nodup) {runId : RunId}
    (isCompleted : manager.completed runId = true) :
    (manager.discardRun runId).completedCount + 1 = manager.completedCount := by
  obtain ⟨run, finished, found, -⟩ := completed_iff.mp isCompleted
  refine countP_forget distinct (consistent.known runId run found) ?_ isCompleted ?_
  · intro other different
    simp [discardRun, completed, Function.update_of_ne different]
  · simp [discardRun]

/-! ## The listed runs -/

structure Pending (config : Config) (service : Service) (remaining : List RunId)
    (listedAt : Instant) : Prop where
  distinct : remaining.Nodup
  due : ∀ runId ∈ remaining, Due service runId listedAt
  overflows : config.maxStoredRuns + remaining.length ≤ service.manager.completedCount

/-- What holds between the steps of the service. -/
structure Orderly (config : Config) (service : Service) : Prop where
  consistent : Consistent service.manager
  distinct : service.manager.submitted.Nodup
  pending : ∀ remaining listedAt, service.prune = .discarding remaining listedAt →
    remaining ≠ [] → Pending config service remaining listedAt

theorem Due.completed {service : Service} {runId : RunId} {now : Instant}
    (due : Due service runId now) : service.manager.completed runId = true := by
  obtain ⟨run, finished, found, terminal, isFinished, -⟩ := due.ended
  exact completed_iff.mpr ⟨run, finished, found, terminal, isFinished⟩

theorem Due.later {service : Service} {runId : RunId} {listedAt now : Instant}
    (due : Due service runId listedAt) (later : listedAt ≤ now) : Due service runId now := by
  obtain ⟨run, finished, found, terminal, isFinished, early⟩ := due.ended
  exact ⟨⟨run, finished, found, terminal, isFinished, Nat.le_trans early later⟩, due.unread⟩

theorem Due.keepsEnded {service after : Service} {runId : RunId} {now : Instant}
    (due : Due service runId now) (keeps : KeepsEnded service.manager after.manager)
    (unread : after.readers runId = 0) : Due after runId now := by
  obtain ⟨run, finished, found, terminal, isFinished, early⟩ := due.ended
  obtain ⟨kept, stays, stillTerminal, sameFinish⟩ := keeps runId run found terminal
  exact ⟨⟨kept, finished, stays, stillTerminal, sameFinish.trans isFinished, early⟩, unread⟩

/-- The listed runs stay due while the manager keeps the runs that have ended and no
reader of a listed run comes. -/
theorem Pending.keepsEnded {service after : Service} {remaining : List RunId}
    {listedAt : Instant} (pending : Pending config service remaining listedAt)
    (keeps : KeepsEnded service.manager after.manager)
    (submitted : after.manager.submitted = service.manager.submitted ∨
      ∃ runId, runId ∉ service.manager.submitted ∧
        after.manager.submitted = runId :: service.manager.submitted)
    (unread : ∀ runId ∈ remaining, after.readers runId = 0) :
    Pending config after remaining listedAt where
  distinct := pending.distinct
  due runId member := (pending.due runId member).keepsEnded keeps (unread runId member)
  overflows := Nat.le_trans pending.overflows (completedCount_mono keeps submitted)

/-- Discarding the first listed run leaves the others due. -/
theorem Pending.discardRun {service : Service} {runId : RunId} {remaining : List RunId}
    {listedAt : Instant} (consistent : Consistent service.manager)
    (distinct : service.manager.submitted.Nodup)
    (pending : Pending config service (runId :: remaining) listedAt) {prune : PruneStage} :
    Pending config { service.discardRun runId with prune } remaining listedAt := by
  obtain ⟨fresh, rest⟩ := List.nodup_cons.mp pending.distinct
  have isCompleted := (pending.due runId (by simp)).completed
  refine ⟨rest, ?_, ?_⟩
  · intro other member
    have different : other ≠ runId := fun same => fresh (same ▸ member)
    obtain ⟨⟨run, finished, found, ended⟩, unread⟩ :=
      pending.due other (List.mem_cons_of_mem _ member)
    refine ⟨⟨run, finished, ?_, ended⟩, ?_⟩
    · simp [Service.discardRun, RunManager.discardRun, Function.update_of_ne different, found]
    · simp [Service.discardRun, Function.update_of_ne different, unread]
  · have count := completedCount_discardRun consistent distinct isCompleted
    have overflows := pending.overflows
    rw [List.length_cons] at overflows
    change config.maxStoredRuns + remaining.length ≤
      (service.manager.discardRun runId).completedCount
    omega

theorem mem_eligible {service : Service} {now : Instant} {runId : RunId} :
    runId ∈ service.eligible now ↔ Due service runId now ∧
      runId ∈ service.manager.submitted := by
  rw [Service.eligible, (List.perm_insertionSort _ _).mem_iff, List.mem_filter,
    completedRuns, List.mem_filter, List.mem_reverse]
  simp only [Bool.and_eq_true, decide_eq_true_eq]
  constructor
  · rintro ⟨⟨known, isCompleted⟩, early, unread⟩
    obtain ⟨run, finished, found, terminal, isFinished⟩ := completed_iff.mp isCompleted
    rw [finishedAt, found, Option.bind_some, isFinished, Option.getD_some] at early
    exact ⟨⟨⟨run, finished, found, terminal, isFinished, early⟩, unread⟩, known⟩
  · rintro ⟨due, known⟩
    obtain ⟨run, finished, found, terminal, isFinished, early⟩ := due.ended
    refine ⟨⟨known, due.completed⟩, ?_, due.unread⟩
    rw [finishedAt, found, Option.bind_some, isFinished, Option.getD_some]
    exact early

/-- The runs of a batch are pending. -/
theorem pending_batch {service : Service} (distinct : service.manager.submitted.Nodup)
    (now : Instant) (some_ : service.batch config now ≠ []) :
    Pending config service (service.batch config now) now := by
  have overflow : service.overflow config ≠ 0 := by
    intro none_
    rw [Service.batch, none_, List.take_zero] at some_
    exact some_ rfl
  refine ⟨?_, ?_, ?_⟩
  · apply List.Nodup.sublist (List.take_sublist _ _)
    rw [Service.eligible, (List.perm_insertionSort _ _).nodup_iff]
    exact ((List.nodup_reverse.mpr distinct).filter _).filter _
  · intro runId member
    exact (mem_eligible.mp (List.mem_of_mem_take member)).1
  · have short : (service.batch config now).length ≤ service.overflow config :=
      List.length_take_le _ _
    rw [Service.overflow] at short overflow
    rw [completedCount_eq]
    omega

/-! ## Steps of the service -/

theorem nodup_of_submitted (distinct : manager.submitted.Nodup)
    (submitted : next.submitted = manager.submitted ∨
      ∃ runId, runId ∉ manager.submitted ∧ next.submitted = runId :: manager.submitted) :
    next.submitted.Nodup := by
  rcases submitted with same | ⟨runId, fresh, same⟩
  · rwa [same]
  · rw [same]
    exact List.nodup_cons.mpr ⟨fresh, distinct⟩

/-- A step of the manager, with what it changes of the readers. -/
theorem Orderly.managerStep {service after : Service} (orderly : Orderly config service)
    (label : Label) (noPrune : ∀ runId now, label ≠ .prune runId now)
    (stored : ∀ remaining listedAt, service.prune = .discarding remaining listedAt →
      remaining ≠ [] → ∀ runId, label = .submitted runId false →
        ∀ run, service.manager.runs runId = some run → run.status.terminal = false)
    (edge : step config service.manager label = some after.manager)
    (prune : ∀ remaining listedAt, after.prune = .discarding remaining listedAt →
      service.prune = .discarding remaining listedAt ∧
        ∀ runId ∈ remaining, after.readers runId = 0) :
    Orderly config after where
  consistent := (stepFacts orderly.consistent edge).consistent
  distinct := nodup_of_submitted orderly.distinct (submitted_cases edge)
  pending remaining listedAt isPrune some_ := by
    obtain ⟨same, unread⟩ := prune remaining listedAt isPrune
    have keeps := keepsEnded_step orderly.consistent noPrune (stored remaining listedAt same some_)
      edge
    exact (orderly.pending remaining listedAt same some_).keepsEnded keeps (submitted_cases edge)
      unread

theorem Orderly.unread {service : Service} (orderly : Orderly config service)
    {remaining : List RunId} {listedAt : Instant}
    (isPrune : service.prune = .discarding remaining listedAt) :
    ∀ runId ∈ remaining, service.readers runId = 0 :=
  fun runId member => ((orderly.pending remaining listedAt isPrune
    (List.ne_nil_of_mem member)).due runId member).unread

/-- The step of `_discard_run` in the prune task. -/
theorem Orderly.discardRun {service : Service} (orderly : Orderly config service)
    {runId : RunId} {remaining : List RunId} {listedAt : Instant}
    (pending : Pending config service (runId :: remaining) listedAt) :
    Orderly config { service.discardRun runId with prune := .discarding remaining listedAt } where
  consistent := consistent_discardRun orderly.consistent
  distinct := orderly.distinct
  pending others at_ isPrune _ := by
    cases isPrune
    exact pending.discardRun orderly.consistent orderly.distinct

theorem schedulePrune_discarding {service : Service} {remaining : List RunId} {listedAt : Instant}
    (isPrune : service.schedulePrune.prune = .discarding remaining listedAt) :
    service.prune = .discarding remaining listedAt := by
  rw [Service.schedulePrune] at isPrune
  split at isPrune
  · cases isPrune
  · exact isPrune

theorem schedulePrune_manager (service : Service) :
    service.schedulePrune.manager = service.manager := by
  rw [Service.schedulePrune]
  split <;> rfl

theorem schedulePrune_readers (service : Service) :
    service.schedulePrune.readers = service.readers := by
  rw [Service.schedulePrune]
  split <;> rfl

theorem afterStep_spec (service : Service) (label : Label) (next : RunManager) :
    (service.afterStep label next).manager = next ∧
      (∀ remaining listedAt, (service.afterStep label next).prune = .discarding remaining listedAt →
        service.prune = .discarding remaining listedAt) ∧
      ∀ runId, (service.afterStep label next).readers runId ≤ service.readers runId := by
  unfold Service.afterStep
  split
  · next runId =>
      refine ⟨rfl, fun _ _ isPrune => isPrune, fun other => ?_⟩
      by_cases same : other = runId
      · simp [same]
      · simp [Function.update_of_ne same]
  · split
    · refine ⟨schedulePrune_manager _, fun remaining listedAt isPrune => ?_, fun other => ?_⟩
      · have before := schedulePrune_discarding isPrune
        exact before
      · rw [schedulePrune_readers]
    · exact ⟨rfl, fun _ _ isPrune => isPrune, fun _ => Nat.le_refl _⟩

theorem openArtifact_spec (service : Service) (index : Nat) (request : ArtifactRequest)
    (found : Bool) :
    (service.openArtifact index request found).manager = service.manager ∧
      (service.openArtifact index request found).prune = service.prune ∧
      ∀ runId, (found = true → runId ≠ request.runId) →
        (service.openArtifact index request found).readers runId = service.readers runId := by
  unfold Service.openArtifact
  split
  · next opens =>
      refine ⟨rfl, rfl, fun runId different => ?_⟩
      simp [Service.setRequest, Service.acquireArtifactReader,
        Function.update_of_ne (different opens.2)]
  · exact ⟨rfl, rfl, fun _ _ => rfl⟩

/-- An undisturbed step keeps the service orderly. -/
theorem Orderly.step {service after : Service} (orderly : Orderly config service)
    {label : ServiceLabel} (undisturbed : Undisturbed service label)
    (edge : serviceStep config service label = some after) : Orderly config after := by
  cases label with
  | manager label =>
      by_cases isPrune : ∃ runId now, label = .prune runId now
      · obtain ⟨runId, now, rfl⟩ := isPrune
        cases edge
      · push Not at isPrune
        have steps : (SweBenchService.step config service.manager label).map
            (service.afterStep label) = some after := by
          rw [serviceStep] at edge
          · exact edge
          · exact fun runId now same => isPrune runId now same
        obtain ⟨next, stepEdge, rfl⟩ := Option.map_eq_some_iff.mp steps
        obtain ⟨isNext, keepsPrune, fewer⟩ := afterStep_spec service label next
        refine orderly.managerStep label isPrune ?_ (by rw [isNext]; exact stepEdge) ?_
        · rintro remaining listedAt isListed some_ runId rfl
          rw [Undisturbed, isListed] at undisturbed
          exact undisturbed some_
        · intro remaining listedAt isListed
          have before := keepsPrune remaining listedAt isListed
          refine ⟨before, fun runId member => ?_⟩
          have unread := orderly.unread before runId member
          have bound := fewer runId
          omega
  | requestArtifact runId =>
      rw [serviceStep] at edge
      obtain ⟨next, stepEdge, rfl⟩ := Option.map_eq_some_iff.mp edge
      refine orderly.managerStep (.call runId false) ?_ ?_ stepEdge ?_
      · intro other now same
        cases same
      · intro _ _ _ _ other same
        cases same
      · exact fun remaining listedAt isListed => ⟨isListed, orderly.unread isListed⟩
  | answerArtifact index label found =>
      simp only [serviceStep] at edge
      split at edge
      · next runId call isRequest =>
          split at edge
          · next answers =>
              obtain ⟨next, stepEdge, rfl⟩ := Option.map_eq_some_iff.mp edge
              obtain ⟨isNext, samePrune, sameReaders⟩ := openArtifact_spec
                { service with manager := next } index ⟨runId, call, .getting⟩ found
              refine orderly.managerStep label ?_ ?_ (by rw [isNext]; exact stepEdge) ?_
              · rintro other now rfl
                cases answers
              · rintro _ _ _ _ other rfl
                cases answers
              · intro remaining listedAt isListed
                rw [samePrune] at isListed
                refine ⟨isListed, fun other member => ?_⟩
                rw [sameReaders other]
                · exact orderly.unread isListed other member
                · rintro isFound rfl
                  rw [Undisturbed, isListed] at undisturbed
                  exact undisturbed isFound _ isRequest member
          · cases edge
      · cases edge
  | releaseReader index =>
      simp only [serviceStep] at edge
      split at edge
      · next runId call isRequest =>
          obtain rfl := Option.some_inj.mp edge
          refine ⟨orderly.consistent, orderly.distinct, ?_⟩
          intro remaining listedAt isListed some_
          have pending := orderly.pending remaining listedAt isListed some_
          refine pending.keepsEnded (keepsEnded_of_runs_eq rfl) (.inl rfl) ?_
          intro other member
          have unread := (pending.due other member).unread
          by_cases same : other = runId
          · subst same
            simp [Service.setRequest, Service.releaseArtifactReader, unread]
          · simp [Service.setRequest, Service.releaseArtifactReader,
              Function.update_of_ne same, unread]
      · cases edge
  | prune now =>
      simp only [serviceStep] at edge
      split at edge
      · obtain rfl := Option.some_inj.mp edge
        unfold Service.pruneLoop
        split
        · exact ⟨orderly.consistent, orderly.distinct, fun _ _ isListed => by cases isListed⟩
        · split
          · exact ⟨orderly.consistent, orderly.distinct, fun _ _ isListed => by cases isListed⟩
          · next first rest isBatch =>
              have pending := @pending_batch config _ orderly.distinct now
                (by rw [isBatch]; simp)
              rw [isBatch] at pending
              exact orderly.discardRun pending
      · cases edge
  | discardNext now =>
      simp only [serviceStep] at edge
      split at edge
      · next runId rest listedAt isListed =>
          obtain rfl := Option.some_inj.mp edge
          exact orderly.discardRun (orderly.pending _ _ isListed (by simp))
      · cases edge

/-- What an orderly service discards may be discarded. -/
theorem Orderly.permitted {service : Service} (orderly : Orderly config service)
    {label : ServiceLabel} (undisturbed : Undisturbed service label) {runId : RunId}
    {now : Instant} (discards : discarded? config service label = some (runId, now)) :
    Permitted config service runId now := by
  cases label with
  | prune at_ =>
      rw [discarded?] at discards
      split at discards
      · obtain ⟨first, isFirst, same⟩ := Option.map_eq_some_iff.mp discards
        cases same
        have member := List.mem_of_mem_head? isFirst
        have pending := @pending_batch config _ orderly.distinct now
          (List.ne_nil_of_mem member)
        have some_ := List.length_pos_of_mem member
        have overflows := pending.overflows
        exact ⟨pending.due _ member, by omega⟩
      · cases discards
  | discardNext at_ =>
      simp only [discarded?] at discards
      split at discards
      · next next rest listedAt isListed =>
          cases discards
          rw [Undisturbed, isListed] at undisturbed
          have pending := orderly.pending _ _ isListed (by simp)
          have overflows := pending.overflows
          rw [List.length_cons] at overflows
          exact ⟨(pending.due _ (by simp)).later undisturbed, by omega⟩
      · cases discards
  | manager label => cases discards
  | requestArtifact runId => cases discards
  | answerArtifact index label found => cases discards
  | releaseReader index => cases discards

theorem orderly_initial (config : Config) : Orderly config {} where
  consistent := consistent_initial
  distinct := List.nodup_nil
  pending _ _ isListed := by cases isListed

/-- While nothing disturbs the listed runs, the prune task discards no run that has a
reader, ended too recently or is needed to keep the limit. -/
theorem discards_permitted (config : Config) {labels : List ServiceLabel}
    (undisturbed : GuardedRuns.Meets (serviceStep config) Undisturbed {} labels) :
    PrunesPermitted config labels := by
  intro first label rest split service runsFirst runId now discards
  have meets := GuardedRuns.meets_iff_forall_split.mp undisturbed
  have meetsFirst : GuardedRuns.Meets (serviceStep config) Undisturbed {} first := by
    refine GuardedRuns.meets_iff_forall_split.mpr ?_
    intro earlier step later splitFirst state runsEarlier
    exact meets earlier step (later ++ label :: rest) (by rw [split, splitFirst]; simp) state
      runsEarlier
  have orderly : Orderly config service :=
    GuardedRuns.invariant_of_meets (fun _ _ _ holds guard edge => Orderly.step holds guard edge)
      (orderly_initial config) meetsFirst runsFirst
  exact orderly.permitted (meets first label rest split service runsFirst) discards

/-! A service that stores one run, and three runs that end one after the other. -/

def keepOne : Config where
  maxConcurrentRuns := 3
  maxStoredRuns := 1

def endedRun (runId : RunId) (now : Instant) : List ServiceLabel :=
  [.manager (.submit runId ⟨[]⟩ now), .manager (.submitted runId true),
    .manager (.acquire runId now), .manager (.started runId),
    .manager (.raised runId "error" now), .manager (.executeEnded runId), .prune now]

/-- Two of the runs are listed later, and the first of them is discarded. -/
def listing : List ServiceLabel :=
  endedRun "first" 1 ++ endedRun "second" 2 ++ endedRun "third" 3 ++ [.prune 400]

theorem discards_permitted_listing : PrunesPermitted keepOne (listing ++ [.discardNext 401]) := by
  refine discards_permitted keepOne ?_
  iterate 22 refine GuardedRuns.meets_cons rfl trivial ?_
  refine GuardedRuns.meets_cons rfl ?_ trivial
  -- The two runs were listed at 400.
  exact (by decide : 400 ≤ 401)

/-- A client asks for a file of the second listed run while the files of the first one are
removed: the run is discarded under its reader. -/
theorem discarded_under_reader :
    ¬ PrunesPermitted keepOne (listing ++ [.requestArtifact "second",
      .answerArtifact 0 (.refreshSkipped 0) true, .discardNext 401]) := by
  intro permitted
  have unread := (permitted (listing ++ [.requestArtifact "second",
    .answerArtifact 0 (.refreshSkipped 0) true]) (.discardNext 401) [] rfl _ rfl "second" 401
      rfl).due.unread
  revert unread
  decide

end SweBenchService

end InferenceEndpoint
