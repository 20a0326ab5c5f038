import InferenceEndpoint.Evaluation.SweBenchOutcomes

/-!
# Capacity of the SWE-bench service

Admission counts the statuses of the runs, and a semaphore limits the runners.  A run
whose status counts has a task that will still write a final one, unless an exception that
nobody catches ends its submission or its task first.
-/

namespace InferenceEndpoint

namespace SweBenchService

namespace RunManager

variable (manager : RunManager)

/-- The run is queued or running. -/
def active (runId : RunId) : Bool :=
  match manager.runs runId with
  | some run => run.status = .queued || run.status = .running
  | none => false

/-- The task of the run is inside the semaphore. -/
def inSemaphore (runId : RunId) : Bool :=
  match manager.executing runId with
  | some stage => stage.holds
  | none => false

/-- The runner works for the run. -/
def runnerWorks (runId : RunId) : Bool :=
  match manager.executing runId with
  | some .working => true
  | _ => false

def runnersInProgress : Nat :=
  manager.submitted.countP manager.runnerWorks

/-- A run that counts is on its way to a final status. -/
def Engaged : Prop :=
  ∀ runId, manager.active runId = true →
    ∃ stage, manager.executing runId = some stage ∧ stage.left = false

end RunManager

/-- Every run that counts is still submitted or executed, the limit holds for the runs and
for the runners, and the task of a run that is still stored ends with a final status. -/
structure Capacity (config : Config) (manager : RunManager) : Prop where
  active : manager.activeCount ≤ config.maxConcurrentRuns
  runners : manager.runnersInProgress ≤ config.maxConcurrentRuns
  pending : ∀ runId run, manager.runs runId = some run → run.status.terminal = false →
    ∃ stage, manager.executing runId = some stage ∧ stage.left = false
  ended : ∀ runId run, manager.runs runId = some run →
    (∃ stage, manager.executing runId = some stage ∧ stage.left = true) →
      run.status.terminal = true

/-- The submission or the task of a run does not end by an exception that nothing catches
before `_execute` has written a final status; a run that was discarded has none. -/
def Caught (manager : RunManager) : Label → Prop
  | .executeEnded runId => manager.hasLeft runId ∨ manager.runs runId = none
  | _ => True

/-! ## Counting -/

theorem countP_le_succ {Item : Type*} {before after : Item → Bool} {items : List Item}
    (distinct : items.Nodup) (item : Item)
    (only : ∀ other ∈ items, after other = true → other = item ∨ before other = true) :
    items.countP after ≤ items.countP before + 1 := by
  induction items with
  | nil => simp
  | cons head rest ih =>
      obtain ⟨absent, distinct⟩ := List.nodup_cons.mp distinct
      by_cases same : head = item
      · have below : rest.countP after ≤ rest.countP before := by
          refine List.countP_mono_left fun other member holds => ?_
          have different : other ≠ item := fun equal => absent (same ▸ equal ▸ member)
          exact (only other (List.mem_cons_of_mem head member) holds).resolve_left different
        have added := List.countP_le_length (p := after) (l := [head])
        rw [List.countP_cons, List.countP_cons]
        split <;> split <;> omega
      · have below := ih distinct fun other member =>
          only other (List.mem_cons_of_mem head member)
        have step : after head = true → before head = true := fun holds =>
          (only head List.mem_cons_self holds).resolve_left same
        rw [List.countP_cons, List.countP_cons]
        split <;> split <;> first | omega | simp_all

namespace RunManager

variable {manager next : RunManager} {runId : RunId} {change : RunStatus → RunStatus}
  {now : Instant}

theorem active_iff : manager.active runId = true ↔
    ∃ run, manager.runs runId = some run ∧ run.status.terminal = false := by
  unfold active
  cases manager.runs runId with
  | none => simp
  | some run => cases status : run.status <;> simp [status, RunState.terminal]

theorem active_eq_false_iff : manager.active runId = false ↔
    ∀ run, manager.runs runId = some run → run.status.terminal = true := by
  rw [← Bool.not_eq_true, active_iff]
  push Not
  simp

theorem runnersInProgress_le : manager.runnersInProgress ≤ manager.holders := by
  refine List.countP_mono_left fun runId _ works => ?_
  unfold runnerWorks at works
  split at works
  · next working => simp [working, ExecuteStage.holds]
  · simp at works

/-! ## What a step gives up -/

/-- No other run counts after the step, and the runs that count are engaged if they were. -/
structure Recedes (manager next : RunManager) : Prop where
  submitted : next.submitted = manager.submitted
  active : ∀ runId, next.active runId = true → manager.active runId = true
  engaged : manager.Engaged → next.Engaged

theorem Recedes.trans {middle : RunManager} (first : Recedes manager middle)
    (second : Recedes middle next) : Recedes manager next where
  submitted := second.submitted.trans first.submitted
  active runId counts := first.active runId (second.active runId counts)
  engaged engaged := second.engaged (first.engaged engaged)

/-- The statuses and the stages stay. -/
theorem Recedes.of_eq (submitted : next.submitted = manager.submitted)
    (runs : next.runs = manager.runs) (executing : next.executing = manager.executing) :
    Recedes manager next := by
  have same : next.active = manager.active := by
    funext runId
    simp [RunManager.active, runs]
  refine ⟨submitted, fun runId counts => same ▸ counts, fun engaged runId counts => ?_⟩
  rw [executing]
  exact engaged runId (same ▸ counts)

theorem recedes_setExecuting {stage : ExecuteStage}
    (left : stage.left = true → manager.active runId = false) :
    Recedes manager (manager.setExecuting runId stage) := by
  refine ⟨rfl, fun _ => id, fun engaged other counts => ?_⟩
  by_cases same : other = runId
  · subst same
    refine ⟨stage, by simp [setExecuting], ?_⟩
    by_contra hasLeft
    have inactive := left (by simpa using hasLeft)
    rw [show manager.active other = true from counts] at inactive
    simp at inactive
  · obtain ⟨old, here, works⟩ := engaged other counts
    exact ⟨old, by simpa [setExecuting, same] using here, works⟩

theorem active_updateInMemory {other : RunId}
    (keeps : ∀ current, manager.runs runId = some current → current.status.terminal = true →
      (change current).status.terminal = true)
    (counts : (manager.updateInMemory runId change now).active other = true) :
    manager.active other = true := by
  obtain ⟨run, found, continues⟩ := active_iff.mp counts
  cases here : manager.runs runId with
  | none => rwa [updateInMemory_of_none here] at counts
  | some current =>
      rw [updateInMemory_of_some here] at found
      by_cases same : other = runId
      · subst same
        simp only [Function.update_self, Option.some_inj] at found
        subst found
        refine active_iff.mpr ⟨current, here, ?_⟩
        by_contra terminal
        have after := keeps current here (by simpa using terminal)
        rw [show (change current).status.terminal = false from continues] at after
        simp at after
      · simp only [Function.update_of_ne same] at found
        exact active_iff.mpr ⟨run, found, continues⟩

theorem executing_updateInMemory :
    (manager.updateInMemory runId change now).executing = manager.executing := by
  unfold updateInMemory
  split <;> rfl

theorem recedes_updateInMemory
    (keeps : ∀ current, manager.runs runId = some current → current.status.terminal = true →
      (change current).status.terminal = true) :
    Recedes manager (manager.updateInMemory runId change now) := by
  refine ⟨submitted_updateInMemory, fun other => active_updateInMemory keeps,
    fun engaged other counts => ?_⟩
  rw [executing_updateInMemory]
  exact engaged other (active_updateInMemory keeps counts)

theorem inactive_updateInMemory
    (terminal : ∀ current, (change current).status.terminal = true) :
    (manager.updateInMemory runId change now).active runId = false := by
  refine active_eq_false_iff.mpr fun run found => ?_
  cases here : manager.runs runId with
  | none =>
      rw [updateInMemory_of_none here, here] at found
      cases found
  | some current =>
      rw [updateInMemory_of_some here] at found
      simp only [Function.update_self, Option.some_inj] at found
      subst found
      exact terminal current

/-- The task writes a final status and moves on. -/
theorem recedes_write (stage : ExecuteStage)
    (terminal : ∀ current, (change current).status.terminal = true) :
    Recedes manager ((manager.updateInMemory runId change now).setExecuting runId stage) :=
  (recedes_updateInMemory fun current _ _ => terminal current).trans
    (recedes_setExecuting fun _ => inactive_updateInMemory terminal)

theorem recedes_discardRun : Recedes manager (manager.discardRun runId) := by
  have before : ∀ other, (manager.discardRun runId).active other = true →
      manager.active other = true := by
    intro other counts
    obtain ⟨run, found, continues⟩ := active_iff.mp counts
    by_cases same : other = runId
    · subst same
      simp [discardRun] at found
    · exact active_iff.mpr ⟨run, by simpa [discardRun, same] using found, continues⟩
  exact ⟨rfl, before, fun engaged other counts => engaged other (before other counts)⟩

theorem inactive_discardRun : (manager.discardRun runId).active runId = false :=
  active_eq_false_iff.mpr fun run found => by simp [discardRun] at found

theorem recedes_refreshWith (snapshot : RunStatus) (disk : Option Disk) :
    Recedes manager (manager.refreshWith runId snapshot disk now) := by
  cases disk with
  | none => exact .of_eq rfl rfl rfl
  | some disk =>
      simp only [refreshWith, applyProgress]
      split
      · exact .of_eq rfl rfl rfl
      · split
        · exact .of_eq rfl rfl rfl
        · exact recedes_updateInMemory fun _ _ terminal => terminal

theorem executing_settleCall (index : Nat) (call : Call) :
    (manager.settleCall index call).executing = manager.executing := by
  unfold settleCall
  split
  · rfl
  · split <;> rfl

theorem executing_refreshWith (snapshot : RunStatus) (disk : Option Disk) :
    (manager.refreshWith runId snapshot disk now).executing = manager.executing := by
  cases disk with
  | none => rfl
  | some disk =>
      simp only [refreshWith, applyProgress]
      split
      · rfl
      · split
        · rfl
        · exact executing_updateInMemory

theorem recedes_settleCall (index : Nat) (call : Call) :
    Recedes manager (manager.settleCall index call) :=
  .of_eq (submitted_settleCall index call) (runs_settleCall index call)
    (executing_settleCall index call)

end RunManager

open RunManager

variable {config : Config} {manager next : RunManager}

/-! ## Every step but a submission recedes -/

theorem recedes_finalizeFailed {runId : RunId} {error : String} {now : Instant}
    (edge : step config manager (.finalizeFailed runId error now) = some next) :
    Recedes manager next := by
  have nextEq : next =
      (manager.updateInMemory runId (writeFailed error) now).setExecuting runId .leaving := by
    simp only [step] at edge
    split at edge <;> first | exact (Option.some_inj.mp edge).symm | cases edge
  subst nextEq
  exact recedes_write .leaving fun _ => rfl

/-- The semaphore lets the task of a run through. -/
theorem recedes_acquire (consistent : Consistent manager) {runId : RunId} {now : Instant}
    (edge : step config manager (.acquire runId now) = some next) : Recedes manager next := by
  simp only [step] at edge
  split at edge
  · next waiting =>
      split at edge
      · split at edge
        · obtain rfl := Option.some_inj.mp edge
          exact recedes_write .leaving fun _ => rfl
        · next token =>
            obtain rfl := Option.some_inj.mp edge
            refine Recedes.trans (recedes_updateInMemory fun current here terminal => ?_)
              (recedes_setExecuting (by simp [ExecuteStage.left]))
            exact absurd (cancelled_of_terminal consistent waiting rfl here terminal).2 token
      · cases edge
  · cases edge

theorem recedes_executeEnded {runId : RunId} (engaged : manager.Engaged) (caught : Caught manager (.executeEnded runId))
    (edge : step config manager (.executeEnded runId) = some next) : Recedes manager next := by
  have inactive : manager.active runId = false := by
    by_contra counts
    have counts : manager.active runId = true := by simpa using counts
    obtain ⟨stage, here, works⟩ := engaged runId counts
    rcases caught with left | discarded
    · exact not_hasLeft here works left
    · obtain ⟨run, found, -⟩ := active_iff.mp counts
      rw [discarded] at found
      cases found
  simp only [step] at edge
  split at edge
  · cases edge
  · cases edge
  · obtain rfl := Option.some_inj.mp edge
    exact recedes_setExecuting fun _ => inactive

theorem recedes_step (consistent : Consistent manager) (engaged : manager.Engaged)
    {label : Label} (caught : Caught manager label)
    (old : ∀ runId request now, label ≠ .submit runId request now)
    (edge : step config manager label = some next) : Recedes manager next := by
  cases label with
  | submit runId request now => exact absurd rfl (old runId request now)
  | submitted runId stored =>
      simp only [step] at edge
      split at edge
      · cases stored with
        | true =>
            obtain rfl := Option.some_inj.mp edge
            exact recedes_setExecuting (by simp [ExecuteStage.left])
        | false =>
            obtain rfl := Option.some_inj.mp edge
            exact recedes_discardRun.trans (recedes_setExecuting fun _ => inactive_discardRun)
      · cases edge
  | acquire runId now => exact recedes_acquire consistent edge
  | started runId =>
      simp only [step] at edge
      split at edge
      · obtain rfl := Option.some_inj.mp edge
        exact recedes_setExecuting (by simp [ExecuteStage.left])
      · cases edge
  | returned runId result now =>
      simp only [step] at edge
      split at edge
      · split at edge
        · obtain rfl := Option.some_inj.mp edge
          exact recedes_write .leaving fun _ => rfl
        · obtain rfl := Option.some_inj.mp edge
          exact recedes_setExecuting (by simp [ExecuteStage.left])
      · cases edge
  | runCancelled runId now =>
      simp only [step] at edge
      split at edge
      · obtain rfl := Option.some_inj.mp edge
        exact recedes_write .leaving fun _ => rfl
      · cases edge
  | raised runId error now =>
      simp only [step] at edge
      split at edge
      · obtain rfl := Option.some_inj.mp edge
        refine recedes_write .leaving fun current => ?_
        split <;> rfl
      · cases edge
  | finalRead runId =>
      simp only [step] at edge
      split at edge
      · obtain rfl := Option.some_inj.mp edge
        exact recedes_setExecuting (by simp [ExecuteStage.left])
      · cases edge
  | finalRefreshed runId disk now =>
      simp only [step] at edge
      split at edge
      · next result snapshot here =>
          have refreshed : Recedes manager (manager.refreshWith runId snapshot disk now) :=
            recedes_refreshWith snapshot disk
          split at edge
          · obtain rfl := Option.some_inj.mp edge
            exact refreshed.trans (recedes_setExecuting (by simp [ExecuteStage.left]))
          · next unknown =>
              obtain rfl := Option.some_inj.mp edge
              refine refreshed.trans (recedes_setExecuting fun _ => ?_)
              exact active_eq_false_iff.mpr fun run found => by
                rw [unknown] at found
                cases found
      · cases edge
  | finish runId disk artifacts now =>
      simp only [step] at edge
      split at edge
      · obtain rfl := Option.some_inj.mp edge
        exact recedes_write .storing fun _ => rfl
      · cases edge
  | finalizeFailed runId error now => exact recedes_finalizeFailed edge
  | executeEnded runId => exact recedes_executeEnded engaged caught edge
  | call runId cancels =>
      obtain rfl := Option.some_inj.mp edge
      exact .of_eq rfl rfl rfl
  | refreshSkipped index =>
      simp only [step] at edge
      split at edge
      · obtain rfl := Option.some_inj.mp edge
        exact recedes_settleCall index _
      · cases edge
  | refreshed index disk now =>
      simp only [step] at edge
      split at edge
      · obtain rfl := Option.some_inj.mp edge
        exact (recedes_refreshWith _ disk).trans (recedes_settleCall index _)
      · cases edge
  | cancelWrite index disk now =>
      simp only [step] at edge
      split at edge
      · split at edge
        · obtain rfl := Option.some_inj.mp edge
          refine Recedes.trans (recedes_updateInMemory fun current _ _ => ?_)
            (.of_eq rfl rfl rfl)
          cases disk <;> rfl
        · obtain rfl := Option.some_inj.mp edge
          exact .of_eq rfl rfl rfl
      · cases edge
  | prune runId now =>
      simp only [step] at edge
      split at edge
      · split at edge
        · obtain rfl := Option.some_inj.mp edge
          exact recedes_discardRun
        · cases edge
      · cases edge
  | _ =>
      simp only [step] at edge
      split at edge
      all_goals first
        | (obtain rfl := Option.some_inj.mp edge
           exact .of_eq rfl rfl rfl)
        | (split at edge
           all_goals
             obtain rfl := Option.some_inj.mp edge
             exact .of_eq rfl rfl rfl)
        | cases edge

/-! ## The semaphore -/

/-- A task moves on that was inside the semaphore, or is not any more. -/
theorem inSemaphore_move {changed : RunManager} {runId other : RunId} {old stage : ExecuteStage}
    (same : changed.executing = manager.executing) (here : manager.executing runId = some old)
    (holds : stage.holds = true → old.holds = true)
    (inside : (changed.setExecuting runId stage).inSemaphore other = true) :
    manager.inSemaphore other = true := by
  by_cases equal : other = runId
  · subst equal
    simp only [inSemaphore, setExecuting, Function.update_self] at inside
    simpa [inSemaphore, here] using holds inside
  · simpa [inSemaphore, setExecuting, equal, same] using inside

theorem inSemaphore_congr {other : RunId} (same : next.executing = manager.executing)
    (inside : next.inSemaphore other = true) : manager.inSemaphore other = true := by
  simpa [inSemaphore, same] using inside

/-- Only the semaphore itself lets a task in. -/
theorem inSemaphore_step {label : Label} (edge : step config manager label = some next)
    {other : RunId} (inside : next.inSemaphore other = true) :
    manager.inSemaphore other = true ∨
      ∃ now, label = .acquire other now ∧ manager.holders < config.maxConcurrentRuns := by
  cases label with
  | submit runId request now =>
      simp only [step] at edge
      split at edge
      · obtain rfl := Option.some_inj.mp edge
        left
        by_cases same : other = runId
        · subst same
          simp [inSemaphore, ExecuteStage.holds] at inside
        · simpa [inSemaphore, same] using inside
      · cases edge
  | submitted runId stored =>
      simp only [step] at edge
      split at edge
      · next here =>
          cases stored with
          | true =>
              obtain rfl := Option.some_inj.mp edge
              exact Or.inl (inSemaphore_move rfl here (by simp [ExecuteStage.holds]) inside)
          | false =>
              obtain rfl := Option.some_inj.mp edge
              have same : (manager.discardRun runId).executing = manager.executing := rfl
              exact Or.inl (inSemaphore_move same here (by simp [ExecuteStage.holds]) inside)
      · cases edge
  | acquire runId now =>
      simp only [step] at edge
      split at edge
      · split at edge
        · next free =>
            by_cases same : other = runId
            · exact Or.inr ⟨now, by rw [same], free⟩
            · left
              split at edge
              all_goals
                obtain rfl := Option.some_inj.mp edge
                simpa [inSemaphore, setExecuting, same, executing_updateInMemory] using inside
        · cases edge
      · cases edge
  | started runId =>
      simp only [step] at edge
      split at edge
      · next here =>
          obtain rfl := Option.some_inj.mp edge
          exact Or.inl (inSemaphore_move rfl here (fun _ => rfl) inside)
      · cases edge
  | returned runId result now =>
      simp only [step] at edge
      split at edge
      · next here =>
          split at edge
          · obtain rfl := Option.some_inj.mp edge
            exact Or.inl (inSemaphore_move executing_updateInMemory here (fun _ => rfl) inside)
          · obtain rfl := Option.some_inj.mp edge
            exact Or.inl (inSemaphore_move rfl here (fun _ => rfl) inside)
      · cases edge
  | runCancelled runId now =>
      simp only [step] at edge
      split at edge
      · next here =>
          obtain rfl := Option.some_inj.mp edge
          exact Or.inl (inSemaphore_move executing_updateInMemory here (fun _ => rfl) inside)
      · cases edge
  | raised runId error now =>
      simp only [step] at edge
      split at edge
      · next here =>
          obtain rfl := Option.some_inj.mp edge
          exact Or.inl (inSemaphore_move executing_updateInMemory here (fun _ => rfl) inside)
      · cases edge
  | finalRead runId =>
      simp only [step] at edge
      split at edge
      · next here _ =>
          obtain rfl := Option.some_inj.mp edge
          exact Or.inl (inSemaphore_move rfl here (fun _ => rfl) inside)
      · cases edge
  | finalRefreshed runId disk now =>
      simp only [step] at edge
      split at edge
      · next result snapshot here =>
          have same : (manager.refreshWith runId snapshot disk now).executing =
              manager.executing := executing_refreshWith snapshot disk
          split at edge
          · obtain rfl := Option.some_inj.mp edge
            exact Or.inl (inSemaphore_move same here (fun _ => rfl) inside)
          · obtain rfl := Option.some_inj.mp edge
            exact Or.inl (inSemaphore_move same here (by simp [ExecuteStage.holds]) inside)
      · cases edge
  | finish runId disk artifacts now =>
      simp only [step] at edge
      split at edge
      · next here =>
          obtain rfl := Option.some_inj.mp edge
          exact Or.inl (inSemaphore_move executing_updateInMemory here (fun _ => rfl) inside)
      · cases edge
  | finalizeFailed runId error now =>
      simp only [step] at edge
      split at edge
      all_goals first
        | (next here =>
            obtain rfl := Option.some_inj.mp edge
            exact Or.inl (inSemaphore_move executing_updateInMemory here (fun _ => rfl) inside))
        | cases edge
  | executeEnded runId =>
      simp only [step] at edge
      split at edge
      · cases edge
      · cases edge
      · next here =>
          obtain rfl := Option.some_inj.mp edge
          exact Or.inl (inSemaphore_move rfl here (by simp [ExecuteStage.holds]) inside)
  | refreshSkipped index =>
      simp only [step] at edge
      split at edge
      · obtain rfl := Option.some_inj.mp edge
        exact Or.inl (inSemaphore_congr (executing_settleCall index _) inside)
      · cases edge
  | refreshed index disk now =>
      simp only [step] at edge
      split at edge
      · obtain rfl := Option.some_inj.mp edge
        exact Or.inl (inSemaphore_congr
          ((executing_settleCall index _).trans (executing_refreshWith _ disk)) inside)
      · cases edge
  | cancelWrite index disk now =>
      simp only [step] at edge
      split at edge
      · split at edge
        · obtain rfl := Option.some_inj.mp edge
          exact Or.inl (inSemaphore_congr executing_updateInMemory inside)
        · obtain rfl := Option.some_inj.mp edge
          exact Or.inl inside
      · cases edge
  | call runId cancels =>
      obtain rfl := Option.some_inj.mp edge
      exact Or.inl inside
  | _ =>
      simp only [step] at edge
      repeat' split at edge
      all_goals first
        | (obtain rfl := Option.some_inj.mp edge
           exact Or.inl inside)
        | cases edge

/-! ## Whole runs -/

/-- What holds between the steps. -/
structure WithinCapacity (config : Config) (manager : RunManager) : Prop where
  consistent : Consistent manager
  distinct : manager.submitted.Nodup
  active : manager.activeCount ≤ config.maxConcurrentRuns
  holders : manager.holders ≤ config.maxConcurrentRuns
  engaged : manager.Engaged

theorem WithinCapacity.capacity (within : WithinCapacity config manager) :
    Capacity config manager where
  active := within.active
  runners := Nat.le_trans runnersInProgress_le within.holders
  pending runId run found continues :=
    within.engaged runId (active_iff.mpr ⟨run, found, continues⟩)
  ended := by
    rintro runId run found ⟨stage, here, left⟩
    by_contra continues
    obtain ⟨other, there, works⟩ := within.engaged runId
      (active_iff.mpr ⟨run, found, by simpa using continues⟩)
    rw [here, Option.some_inj] at there
    rw [← there, left] at works
    cases works

theorem activeCount_submit (distinct : manager.submitted.Nodup) {runId : RunId}
    {request : RunRequest} {now : Instant}
    (edge : step config manager (.submit runId request now) = some next) :
    next.submitted = runId :: manager.submitted ∧ next.submitted.Nodup ∧
      next.activeCount ≤ config.maxConcurrentRuns ∧
      (manager.Engaged → next.Engaged) := by
  simp only [step] at edge
  split at edge
  · next allowed =>
      obtain ⟨room, fresh⟩ := allowed
      obtain rfl := Option.some_inj.mp edge
      refine ⟨rfl, List.nodup_cons.mpr ⟨fresh, distinct⟩, ?_, fun engaged other counts => ?_⟩
      · refine Nat.le_trans ?_ (Nat.succ_le_of_lt room)
        change (runId :: manager.submitted).countP _ ≤ manager.submitted.countP manager.active + 1
        have one : ∀ flag : Bool, (if flag = true then 1 else 0) ≤ 1 := by decide
        rw [List.countP_cons]
        refine Nat.add_le_add ?_ (one _)
        refine List.countP_mono_left fun other member counts => ?_
        have different : other ≠ runId := fun same => fresh (same ▸ member)
        simp only [Function.update_of_ne different] at counts
        exact counts
      · by_cases same : other = runId
        · exact ⟨.submitting, by simp [same], rfl⟩
        · have before : manager.active other = true := by simpa [active, same] using counts
          obtain ⟨stage, here, works⟩ := engaged other before
          exact ⟨stage, by simpa [same] using here, works⟩
  · cases edge

theorem inSemaphore_submit {runId : RunId} {request : RunRequest} {now : Instant}
    (edge : step config manager (.submit runId request now) = some next) :
    next.inSemaphore runId = false := by
  simp only [step] at edge
  split at edge
  · obtain rfl := Option.some_inj.mp edge
    simp [inSemaphore, ExecuteStage.holds]
  · cases edge

/-- The limit on the holders of the semaphore. -/
theorem holders_step (distinct : manager.submitted.Nodup)
    (holders : manager.holders ≤ config.maxConcurrentRuns) {label : Label}
    (old : ∀ runId request now, label ≠ .submit runId request now)
    (submitted : next.submitted = manager.submitted)
    (edge : step config manager label = some next) :
    next.holders ≤ config.maxConcurrentRuns := by
  have inside : ∀ other, next.inSemaphore other = true → manager.inSemaphore other = true ∨
      ∃ now, label = .acquire other now ∧ manager.holders < config.maxConcurrentRuns :=
    fun other => inSemaphore_step edge
  change next.submitted.countP next.inSemaphore ≤ _
  rw [submitted]
  by_cases acquires : ∃ runId now, label = .acquire runId now ∧
      manager.holders < config.maxConcurrentRuns
  · obtain ⟨runId, now, rfl, free⟩ := acquires
    refine Nat.le_trans (countP_le_succ distinct runId fun other _ holds => ?_)
      (Nat.succ_le_of_lt free)
    rcases inside other holds with before | ⟨_, same, -⟩
    · exact Or.inr before
    · obtain ⟨rfl, -⟩ := Label.acquire.inj same
      exact Or.inl rfl
  · refine Nat.le_trans (List.countP_mono_left fun other _ holds => ?_) holders
    exact (inside other holds).resolve_right fun ⟨now, acquire, free⟩ =>
      acquires ⟨other, now, acquire, free⟩

theorem WithinCapacity.step (within : WithinCapacity config manager) {label : Label}
    (caught : Caught manager label)
    (edge : SweBenchService.step config manager label = some next) :
    WithinCapacity config next := by
  have consistent := (stepFacts within.consistent edge).consistent
  by_cases submits : ∃ runId request now, label = .submit runId request now
  · obtain ⟨runId, request, now, rfl⟩ := submits
    obtain ⟨submitted, distinct, active, engaged⟩ := activeCount_submit within.distinct edge
    refine ⟨consistent, distinct, active, Nat.le_trans ?_ within.holders, engaged within.engaged⟩
    change next.submitted.countP next.inSemaphore ≤ manager.submitted.countP manager.inSemaphore
    have outside : next.inSemaphore runId = false := inSemaphore_submit edge
    rw [submitted, List.countP_cons, outside]
    refine List.countP_mono_left fun other _ holds => ?_
    exact (inSemaphore_step edge holds).resolve_right (by simp)
  · push Not at submits
    have recedes := recedes_step within.consistent within.engaged caught submits edge
    refine ⟨consistent, recedes.submitted ▸ within.distinct, ?_,
      holders_step within.distinct within.holders submits recedes.submitted edge,
      recedes.engaged within.engaged⟩
    refine Nat.le_trans ?_ within.active
    change next.submitted.countP next.active ≤ manager.submitted.countP manager.active
    rw [recedes.submitted]
    exact List.countP_mono_left fun other _ => recedes.active other

theorem withinCapacity_initial (config : Config) : WithinCapacity config {} where
  consistent := consistent_initial
  distinct := List.nodup_nil
  active := Nat.zero_le _
  holders := Nat.zero_le _
  engaged _ counts := by simp [active] at counts

/-- A run that has ended does not count again. -/
theorem active_of_meets {final : RunManager} {labels : List Label}
    (within : WithinCapacity config manager)
    (meets : GuardedRuns.Meets (step config) Caught manager labels)
    (runs : GuardedRuns.run (step config) manager labels = some final) {runId : RunId}
    (known : runId ∈ manager.submitted) (counts : final.active runId = true) :
    manager.active runId = true := by
  induction labels generalizing manager with
  | nil =>
      obtain rfl : manager = final := by simpa using runs
      exact counts
  | cons label labels ih =>
      obtain ⟨next, edge, rest⟩ := GuardedRuns.run_cons_eq_some.mp runs
      have later := ih (within.step meets.1 edge) (meets.2 next edge) rest
        (submitted_step edge known)
      by_cases submits : ∃ other request now, label = .submit other request now
      · obtain ⟨other, request, now, rfl⟩ := submits
        simp only [step] at edge
        split at edge
        · next allowed =>
            obtain rfl := Option.some_inj.mp edge
            have different : runId ≠ other := fun same => allowed.2 (same ▸ known)
            simpa [active, different] using later
        · cases edge
      · push Not at submits
        exact (recedes_step within.consistent within.engaged meets.1 submits edge).active
          runId later

/-- In a run in which no uncaught exception ends a submission or a task early, the
capacity is kept in every state, and a run that has ended never counts again. -/
theorem capacity_kept (config : Config) {first second : List Label} {middle final : RunManager}
    (meets : GuardedRuns.Meets (step config) Caught {} (first ++ second))
    (runsFirst : GuardedRuns.run (step config) {} first = some middle)
    (runsSecond : GuardedRuns.run (step config) middle second = some final) :
    Capacity config middle ∧ Capacity config final ∧
      ∀ runId before, middle.runs runId = some before → before.status.terminal = true →
        ∀ after, final.runs runId = some after → after.status.terminal = true := by
  have split := GuardedRuns.meets_iff_forall_split.mp meets
  have meetsFirst : GuardedRuns.Meets (step config) Caught {} first := by
    refine GuardedRuns.meets_iff_forall_split.mpr fun earlier label later equal state reached => ?_
    exact split earlier label (later ++ second) (by simp [equal]) state reached
  have meetsSecond : GuardedRuns.Meets (step config) Caught middle second := by
    refine GuardedRuns.meets_iff_forall_split.mpr fun earlier label later equal state reached => ?_
    refine split (first ++ earlier) label later (by simp [equal]) state ?_
    rw [GuardedRuns.run_append, runsFirst]
    exact reached
  have keeps : ∀ state label next, WithinCapacity config state → Caught state label →
      step config state label = some next → WithinCapacity config next :=
    fun _ _ _ within caught edge => within.step caught edge
  have withinMiddle : WithinCapacity config middle :=
    GuardedRuns.invariant_of_meets keeps (withinCapacity_initial config) meetsFirst runsFirst
  have withinFinal : WithinCapacity config final :=
    GuardedRuns.invariant_of_meets keeps withinMiddle meetsSecond runsSecond
  refine ⟨withinMiddle.capacity, withinFinal.capacity, fun runId before found terminal after
    here => ?_⟩
  by_contra continues
  have counts : final.active runId = true :=
    active_iff.mpr ⟨after, here, by simpa using continues⟩
  have active := active_of_meets withinMiddle meetsSecond runsSecond
    (withinMiddle.consistent.known runId before found) counts
  rw [active_eq_false_iff.mpr fun run isRun => by
    rw [found, Option.some_inj] at isRun
    rw [← isRun, terminal]] at active
  cases active

/-- A run whose files cannot be written is cancelled while its runner works. -/
theorem capacity_kept_cancelled :
    ∃ final : RunManager, final.runnersInProgress = 1 ∧ final.activeCount = 0 ∧
      Capacity singleRun final := by
  have meets : GuardedRuns.Meets (step singleRun) Caught {}
      ([] ++ [.submit "run" ⟨["one"]⟩ 1, .submitted "run" true, .acquire "run" 2,
        .started "run", .call "run" true, .refreshSkipped 0, .tokenCancelled 0, .inspect 0,
        .cancelWrite 0 none 3]) :=
    GuardedRuns.meets_of_forall_mem (by simp [Caught]) _
  have kept := capacity_kept singleRun meets rfl rfl
  exact ⟨_, by decide, by decide, kept.2.1⟩

/-- Storing the submission raises something else than an `OSError`. -/
theorem capacity_lost :
    ∃ final : RunManager, GuardedRuns.run (step singleRun) {}
      [.submit "run" ⟨["one"]⟩ 1, .executeEnded "run"] = some final ∧
        ¬ Capacity singleRun final := by
  refine ⟨_, rfl, fun capacity => ?_⟩
  obtain ⟨stage, here, works⟩ := capacity.pending "run" _ rfl rfl
  obtain rfl := Option.some_inj.mp here
  cases works

end SweBenchService

end InferenceEndpoint
