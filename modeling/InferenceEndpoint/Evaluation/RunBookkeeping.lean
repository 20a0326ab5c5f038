import InferenceEndpoint.Evaluation.SweBenchPruning
import Mathlib.Data.Finset.Basic

/-!
# Bookkeeping of runs

Besides the runs themselves the manager keeps seven maps with an entry for each run.  They
are filled by submissions, status writes, progress refreshes and artifact requests, and
discarding a run removes its entries.  A refresh enters its lock before it looks the run up,
and its time after an `await`.
-/

namespace InferenceEndpoint

namespace SweBenchService

/-- `_PROGRESS_REFRESH_INTERVAL_S`. -/
def progressRefreshInterval : Nat :=
  1

/-- The service with the other maps of its manager.  Where values do not matter the keys are
kept; locks do not exclude one another, so that refreshes overlap in more ways. -/
structure Bookkeeping where
  service : Service := {}
  /-- `_cancel_tokens`. -/
  cancelTokens : Finset RunId := ∅
  /-- `_secret_values`. -/
  secretValues : Finset RunId := ∅
  /-- `_progress_refresh_locks`. -/
  progressRefreshLocks : Finset RunId := ∅
  /-- `_status_persist_locks`. -/
  statusPersistLocks : Finset RunId := ∅
  /-- `_last_progress_refresh`. -/
  lastProgressRefresh : RunId → Option Instant := fun _ => none
  /-- The calls that wait for a refresh lock, or have waited. -/
  waiting : Finset Nat := ∅
  /-- When the calls began to read. -/
  readAt : Nat → Instant := fun _ => 0
  lastReadAt : RunId → Instant := fun _ => 0

inductive BookLabel
  /-- A step of the service, with the monotonic clock. -/
  | service (label : ServiceLabel) (now : Instant)
  /-- A call asks for the refresh lock of its run. -/
  | lockProgress (index : Nat) (now : Instant)

inductive PerRunMap
  | requests
  | cancelTokens
  | secretValues
  | progressRefreshLocks
  | statusPersistLocks
  | lastProgressRefresh
  | artifactReaders
  deriving DecidableEq

/-- The step of the manager in a step of the service. -/
def ServiceLabel.managerLabel? : ServiceLabel → Option Label
  | .manager label | .answerArtifact _ label _ => some label
  | _ => none

/-- The run that a step of the service discards. -/
def dropped? (config : Config) (service : Service) : ServiceLabel → Option RunId
  | .manager (.submitted runId false) => some runId
  | label => (discarded? config service label).map Prod.fst

/-- The run that a step of the manager writes a status of, `returned` apart. -/
def RunManager.transition? (manager : RunManager) : Label → Option RunId
  | .acquire runId _ | .runCancelled runId _ | .raised runId _ _ | .finish runId _ _ _
  | .finalizeFailed runId _ _ => some runId
  | .cancelWrite index _ _ => (manager.calls[index]?).map Call.runId
  | _ => none

namespace Bookkeeping

variable (config : Config) (book : Bookkeeping)

def stored (runId : RunId) : Bool :=
  (book.service.manager.runs runId).isSome

def hasEntry (runId : RunId) : PerRunMap → Bool
  | .requests => (book.service.manager.requests runId).isSome
  | .cancelTokens => runId ∈ book.cancelTokens
  | .secretValues => runId ∈ book.secretValues
  | .progressRefreshLocks => runId ∈ book.progressRefreshLocks
  | .statusPersistLocks => runId ∈ book.statusPersistLocks
  | .lastProgressRefresh => (book.lastProgressRefresh runId).isSome
  | .artifactReaders => 0 < book.service.readers runId

/-- The last refresh is not too recent for another one. -/
def stale (runId : RunId) (now : Instant) : Bool :=
  (book.lastProgressRefresh runId).getD 0 + progressRefreshInterval ≤ now

def callRun? (index : Nat) : Option RunId :=
  (book.service.manager.calls[index]?).map Call.runId

/-- What the refreshes check before a step of the manager. -/
def mayStep (now : Instant) : Label → Bool
  | .refreshSkipped index => (book.callRun? index).all fun runId => !book.stale runId now
  | .refreshRead index =>
      index ∈ book.waiting && (book.callRun? index).all fun runId => book.stale runId now
  | _ => true

/-- `_discard_run`, as far as it concerns the other maps. -/
def discardEntries (runId : RunId) : Bookkeeping :=
  { book with
    cancelTokens := book.cancelTokens.erase runId
    secretValues := book.secretValues.erase runId
    progressRefreshLocks := book.progressRefreshLocks.erase runId
    statusPersistLocks := book.statusPersistLocks.erase runId
    lastProgressRefresh := Function.update book.lastProgressRefresh runId none }

/-- The lock of `_transition`, which raises before it for a run that is not stored. -/
def lockStatus (runId : RunId) : Bookkeeping :=
  if book.stored runId then
    { book with statusPersistLocks := insert runId book.statusPersistLocks }
  else book

def lockRefresh (runId : RunId) : Bookkeeping :=
  { book with progressRefreshLocks := insert runId book.progressRefreshLocks }

def setRefresh (runId : RunId) (at_ : Instant) : Bookkeeping :=
  { book with lastProgressRefresh := Function.update book.lastProgressRefresh runId (some at_) }

/-- The entries that a step of the manager makes. -/
def afterManager (now : Instant) : Label → Bookkeeping
  | .submit runId _ _ =>
      { book with
        cancelTokens := insert runId book.cancelTokens
        secretValues := insert runId book.secretValues }
  | .returned runId _ _ =>
      -- The last refresh asks for its lock at once.
      if book.service.manager.cancelled runId then book.lockStatus runId
      else book.lockRefresh runId
  | .refreshRead index => { book with readAt := Function.update book.readAt index now }
  | .finalRead runId => { book with lastReadAt := Function.update book.lastReadAt runId now }
  | .refreshed index (some _) _ =>
      match book.callRun? index with
      | some runId => book.setRefresh runId (book.readAt index)
      | none => book
  | .finalRefreshed runId (some _) _ => book.setRefresh runId (book.lastReadAt runId)
  | label =>
      match book.service.manager.transition? label with
      | some runId => book.lockStatus runId
      | none => book

def afterService (label : ServiceLabel) (now : Instant) : Bookkeeping :=
  match dropped? config book.service label with
  | some runId => book.discardEntries runId
  | none =>
      match label.managerLabel? with
      | some label => book.afterManager now label
      | none => book

end Bookkeeping

def bookStep (config : Config) (book : Bookkeeping) : BookLabel → Option Bookkeeping
  | .service label now =>
      if label.managerLabel?.all (book.mayStep now) then
        (serviceStep config book.service label).map fun next =>
          { book.afterService config label now with service := next }
      else none
  | .lockProgress index now =>
      match book.service.manager.calls[index]? with
      | some ⟨runId, _, .called⟩ =>
          if book.stale runId now ∧ index ∉ book.waiting then
            some { book.lockRefresh runId with waiting := insert index book.waiting }
          else none
      | _ => none

/-! ## Entries without a run -/

/-- Every entry belongs to a run that is stored. -/
def Tracked (book : Bookkeeping) : Prop :=
  ∀ map runId, book.hasEntry runId map = true → book.stored runId = true

/-- No call and no artifact request is in progress. -/
def Bookkeeping.quiet (book : Bookkeeping) : Bool :=
  (book.service.manager.calls.all fun call =>
      match call.stage with
      | .answered _ => true
      | _ => false) &&
    book.service.requests.all fun request => request.stage = .closed

/-- The run for which a step makes an entry of a refresh. -/
def Bookkeeping.refreshes? (book : Bookkeeping) : BookLabel → Option RunId
  | .lockProgress index _ => book.callRun? index
  | .service label _ =>
      match label.managerLabel? with
      | some (.returned runId _ _) =>
          if book.service.manager.cancelled runId then none else some runId
      | some (.refreshed index (some _) _) => book.callRun? index
      | some (.finalRefreshed runId (some _) _) => some runId
      | _ => none

/-- Refreshes enter their locks and times only for runs that are stored. -/
def RefreshesStored (book : Bookkeeping) (label : BookLabel) : Prop :=
  ∀ runId, book.refreshes? label = some runId → book.stored runId = true

instance (book : Bookkeeping) (label : BookLabel) : Decidable (RefreshesStored book label) :=
  match found : book.refreshes? label with
  | none => .isTrue (by
      rw [RefreshesStored, found]
      nofun)
  | some runId => decidable_of_iff (book.stored runId = true) (by
      rw [RefreshesStored, found]
      simp)

/-! ## Runs that are stored -/

/-- The same runs are stored, with the same requests. -/
structure SameStored (manager next : RunManager) : Prop where
  stored : ∀ runId, (next.runs runId).isSome = (manager.runs runId).isSome
  requests : next.requests = manager.requests

theorem SameStored.of_eq {manager next : RunManager} (runs : next.runs = manager.runs)
    (requests : next.requests = manager.requests) : SameStored manager next :=
  ⟨fun runId => by rw [runs], requests⟩

theorem SameStored.trans {manager middle next : RunManager} (first : SameStored manager middle)
    (second : SameStored middle next) : SameStored manager next :=
  ⟨fun runId => (second.stored runId).trans (first.stored runId),
    second.requests.trans first.requests⟩

namespace RunManager

variable {config : Config} {manager next : RunManager} {runId : RunId}
  {change : RunStatus → RunStatus} {now : Instant}

theorem sameStored_updateInMemory : SameStored manager (manager.updateInMemory runId change now) := by
  cases here : manager.runs runId with
  | none =>
      rw [updateInMemory_of_none here]
      exact .of_eq rfl rfl
  | some current =>
      rw [updateInMemory_of_some here]
      refine ⟨?_, rfl⟩
      intro other
      by_cases same : other = runId
      · subst same
        simp [here]
      · simp [Function.update_of_ne same]

theorem sameStored_refreshWith (snapshot : RunStatus) (disk : Option Disk) :
    SameStored manager (manager.refreshWith runId snapshot disk now) := by
  cases disk with
  | none => exact .of_eq rfl rfl
  | some disk =>
      simp only [refreshWith, applyProgress]
      split
      · exact .of_eq rfl rfl
      · split
        · exact .of_eq rfl rfl
        · exact sameStored_updateInMemory

theorem sameStored_settleCall (index : Nat) (call : Call) :
    SameStored manager (manager.settleCall index call) := by
  unfold settleCall
  split
  · exact .of_eq rfl rfl
  · split <;> exact .of_eq rfl rfl

/-- Only submissions and pruning change which runs are stored. -/
theorem sameStored_step {label : Label} (noSubmit : ∀ runId request now,
      label ≠ .submit runId request now)
    (isStored : ∀ runId, label ≠ .submitted runId false)
    (noPrune : ∀ runId now, label ≠ .prune runId now)
    (edge : step config manager label = some next) : SameStored manager next := by
  cases label with
  | submit runId request now => exact absurd rfl (noSubmit runId request now)
  | submitted runId stored =>
      cases stored with
      | false => exact absurd rfl (isStored runId)
      | true =>
          simp only [step] at edge
          split at edge
          · obtain rfl := Option.some_inj.mp edge
            exact .of_eq rfl rfl
          · cases edge
  | prune runId now => exact absurd rfl (noPrune runId now)
  | call runId cancels =>
      obtain rfl := Option.some_inj.mp edge
      exact .of_eq rfl rfl
  | finalRefreshed runId disk now =>
      simp only [step] at edge
      split at edge
      · next result snapshot _ =>
          have refreshed := @sameStored_refreshWith manager runId now snapshot disk
          split at edge
          all_goals
            obtain rfl := Option.some_inj.mp edge
            exact refreshed.trans (.of_eq rfl rfl)
      · cases edge
  | refreshSkipped index =>
      simp only [step] at edge
      split at edge
      · obtain rfl := Option.some_inj.mp edge
        exact sameStored_settleCall index _
      · cases edge
  | refreshed index disk now =>
      simp only [step] at edge
      split at edge
      · next runId cancels snapshot here =>
          obtain rfl := Option.some_inj.mp edge
          exact (sameStored_refreshWith snapshot disk).trans (sameStored_settleCall index _)
      · cases edge
  | _ =>
      simp only [step] at edge
      repeat' split at edge
      all_goals first
        | contradiction
        | obtain rfl := Option.some_inj.mp edge
          first
            | exact .of_eq rfl rfl
            | exact sameStored_updateInMemory.trans (.of_eq rfl rfl)

end RunManager

open RunManager

variable {config : Config} {service after : Service} {book next : Bookkeeping}

/-! ## Steps of the service -/

/-- No run and no request is dropped, and new requests and readers are those of stored runs. -/
structure Service.Keeps (service after : Service) : Prop where
  stored : ∀ runId, (service.manager.runs runId).isSome = true →
    (after.manager.runs runId).isSome = true
  requests : ∀ runId, (after.manager.requests runId).isSome = true →
    (service.manager.requests runId).isSome = true ∨ (after.manager.runs runId).isSome = true
  readers : ∀ runId, 0 < after.readers runId →
    0 < service.readers runId ∨ (after.manager.runs runId).isSome = true

/-- One run is dropped with its request and its readers. -/
structure Service.Drops (service after : Service) (dropped : RunId) : Prop where
  stored : ∀ runId ≠ dropped, (after.manager.runs runId).isSome =
    (service.manager.runs runId).isSome
  requests : after.manager.requests = Function.update service.manager.requests dropped none
  readers : after.readers = Function.update service.readers dropped 0

theorem Service.Keeps.of_manager (same : SameStored service.manager after.manager)
    (readers : ∀ runId, 0 < after.readers runId →
      0 < service.readers runId ∨ (after.manager.runs runId).isSome = true) :
    service.Keeps after where
  stored runId isStored := (same.stored runId).trans isStored
  requests runId given := .inl (same.requests ▸ given)
  readers := readers

theorem serviceStep_manager {label : Label}
    (edge : serviceStep config service (.manager label) = some after) :
    (∀ runId now, label ≠ .prune runId now) ∧
      ∃ manager, step config service.manager label = some manager ∧
        after = service.afterStep label manager := by
  by_cases isPrune : ∃ runId now, label = .prune runId now
  · obtain ⟨runId, now, rfl⟩ := isPrune
    cases edge
  · push Not at isPrune
    refine ⟨isPrune, ?_⟩
    rw [serviceStep] at edge
    · obtain ⟨manager, stepEdge, rfl⟩ := Option.map_eq_some_iff.mp edge
      exact ⟨manager, stepEdge, rfl⟩
    · exact fun runId now same => isPrune runId now same

/-- A submission stores a run with its request. -/
theorem stored_submit {manager next : RunManager} {runId : RunId} {request : RunRequest}
    {now : Instant} (edge : step config manager (.submit runId request now) = some next) :
    (∀ other, (next.runs other).isSome = (decide (other = runId) || (manager.runs other).isSome)) ∧
      next.requests = Function.update manager.requests runId (some request) := by
  simp only [step] at edge
  split at edge
  · obtain rfl := Option.some_inj.mp edge
    refine ⟨?_, rfl⟩
    intro other
    by_cases same : other = runId
    · simp [same]
    · simp [Function.update_of_ne same, same]
  · cases edge

theorem keeps_submit {runId : RunId} {request : RunRequest} {now : Instant}
    (edge : serviceStep config service (.manager (.submit runId request now)) = some after) :
    service.Keeps after := by
  obtain ⟨-, manager, stepEdge, rfl⟩ := serviceStep_manager edge
  obtain ⟨stored, requests⟩ := stored_submit stepEdge
  obtain ⟨isNext, -, fewer⟩ := afterStep_spec service (.submit runId request now) manager
  refine ⟨?_, ?_, ?_⟩
  · intro other isStored
    rw [isNext, stored, isStored, Bool.or_true]
  · intro other given
    rw [isNext] at given ⊢
    by_cases same : other = runId
    · right
      simp [stored, same]
    · left
      rwa [requests, Function.update_of_ne same] at given
  · intro other given
    have bound := fewer other
    exact .inl (by omega)

theorem keeps_service {label : ServiceLabel} (kept : dropped? config service label = none)
    (edge : serviceStep config service label = some after) : service.Keeps after := by
  cases label with
  | manager label =>
      by_cases submits : ∃ runId request now, label = .submit runId request now
      · obtain ⟨runId, request, now, rfl⟩ := submits
        exact keeps_submit edge
      · push Not at submits
        have isStored : ∀ runId, label ≠ .submitted runId false := by
          rintro runId rfl
          cases kept
        obtain ⟨noPrune, manager, stepEdge, rfl⟩ := serviceStep_manager edge
        obtain ⟨isNext, -, fewer⟩ := afterStep_spec service label manager
        refine .of_manager ?_ ?_
        · rw [isNext]
          exact sameStored_step submits isStored noPrune stepEdge
        · intro runId given
          have bound := fewer runId
          exact .inl (by omega)
  | requestArtifact runId =>
      rw [serviceStep] at edge
      obtain ⟨manager, stepEdge, rfl⟩ := Option.map_eq_some_iff.mp edge
      have same : SameStored service.manager manager :=
        sameStored_step (fun _ _ _ => Label.noConfusion) (fun _ => Label.noConfusion)
          (fun _ _ => Label.noConfusion) stepEdge
      exact .of_manager same fun _ given => .inl given
  | answerArtifact index label found =>
      simp only [serviceStep] at edge
      split at edge
      · next runId call isRequest =>
          split at edge
          · next answers =>
              obtain ⟨manager, stepEdge, rfl⟩ := Option.map_eq_some_iff.mp edge
              have same : SameStored service.manager manager := by
                refine sameStored_step ?_ ?_ ?_ stepEdge
                · rintro other request now rfl
                  cases answers
                · rintro other rfl
                  cases answers
                · rintro other now rfl
                  cases answers
              refine .of_manager ?_ ?_
              · rw [(openArtifact_spec _ _ _ _).1]
                exact same
              · intro other given
                rw [(openArtifact_spec _ _ _ _).1]
                unfold Service.openArtifact at given
                split at given
                · next opens =>
                    by_cases isRun : other = runId
                    · exact .inr (isRun ▸ opens.1)
                    · left
                      simpa [Service.setRequest, Service.acquireArtifactReader,
                        Function.update_of_ne isRun] using given
                · exact .inl given
          · cases edge
      · cases edge
  | releaseReader index =>
      simp only [serviceStep] at edge
      split at edge
      · next runId call isRequest =>
          obtain rfl := Option.some_inj.mp edge
          refine .of_manager (.of_eq rfl rfl) ?_
          intro other given
          left
          by_cases same : other = runId
          · subst same
            have before : 0 < service.readers other - 1 := by
              simpa [Service.setRequest, Service.releaseArtifactReader] using given
            omega
          · simpa [Service.setRequest, Service.releaseArtifactReader,
              Function.update_of_ne same] using given
      · cases edge
  | prune now =>
      simp only [serviceStep] at edge
      split at edge
      · next looping =>
          obtain rfl := Option.some_inj.mp edge
          unfold Service.pruneLoop
          split
          · exact .of_manager (.of_eq rfl rfl) fun _ given => .inl given
          · next limits =>
              push Not at limits
              split
              · exact .of_manager (.of_eq rfl rfl) fun _ given => .inl given
              · next first rest isBatch =>
                  simp [dropped?, discarded?, looping, limits.1, isBatch] at kept
      · cases edge
  | discardNext now =>
      simp only [serviceStep] at edge
      split at edge
      · next first rest listedAt isListed => simp [dropped?, discarded?, isListed] at kept
      · cases edge

theorem drops_discardRun (dropped : RunId) :
    service.Drops (service.discardRun dropped) dropped where
  stored runId different := by
    simp [Service.discardRun, RunManager.discardRun, Function.update_of_ne different]
  requests := rfl
  readers := rfl

theorem drops_service {label : ServiceLabel} {dropped : RunId}
    (isDropped : dropped? config service label = some dropped)
    (edge : serviceStep config service label = some after) : service.Drops after dropped := by
  cases label with
  | manager label =>
      cases label with
      | submitted runId stored =>
          cases stored with
          | true => cases isDropped
          | false =>
              obtain rfl := Option.some_inj.mp isDropped
              obtain ⟨-, manager, stepEdge, rfl⟩ := serviceStep_manager edge
              simp only [step] at stepEdge
              split at stepEdge
              · obtain rfl := Option.some_inj.mp stepEdge
                have discarded := @drops_discardRun service runId
                exact ⟨discarded.stored, rfl, rfl⟩
              · cases stepEdge
      | _ => cases isDropped
  | requestArtifact runId => cases isDropped
  | answerArtifact index label found => cases isDropped
  | releaseReader index => cases isDropped
  | prune now =>
      simp only [serviceStep] at edge
      split at edge
      · next looping =>
          obtain rfl := Option.some_inj.mp edge
          simp only [dropped?, discarded?, looping, Bool.true_and, decide_eq_true_eq] at isDropped
          unfold Service.pruneLoop
          split at isDropped
          · next limited =>
              cases isBatch : service.batch config now with
              | nil => simp [isBatch] at isDropped
              | cons first rest =>
                  obtain rfl : first = dropped := by simpa [isBatch] using isDropped
                  have overflows : service.overflow config ≠ 0 := by
                    intro none_
                    simp [Service.batch, none_] at isBatch
                  rw [if_neg (not_or.mpr ⟨limited, overflows⟩)]
                  have discarded := @drops_discardRun service first
                  exact ⟨discarded.stored, rfl, rfl⟩
          · cases isDropped
      · cases edge
  | discardNext now =>
      simp only [serviceStep] at edge
      split at edge
      · next first rest listedAt isListed =>
          obtain rfl := Option.some_inj.mp edge
          obtain rfl : first = dropped := by
            simpa [dropped?, discarded?, isListed] using isDropped
          have discarded := @drops_discardRun service first
          exact ⟨discarded.stored, rfl, rfl⟩
      · cases edge

/-! ## Entries of a step -/

namespace Bookkeeping

variable {runId other : RunId} {map : PerRunMap} {now : Instant}

theorem hasEntry_lockStatus (entry : (book.lockStatus runId).hasEntry other map = true) :
    book.hasEntry other map = true ∨ book.stored other = true := by
  unfold lockStatus at entry
  split at entry
  · next isStored =>
      cases map with
      | statusPersistLocks =>
          obtain rfl | before : other = runId ∨ other ∈ book.statusPersistLocks := by
            simpa [hasEntry] using entry
          · exact .inr isStored
          · exact .inl (by simpa [hasEntry] using before)
      | _ => exact .inl entry
  · exact .inl entry

theorem hasEntry_lockRefresh (entry : (book.lockRefresh runId).hasEntry other map = true) :
    book.hasEntry other map = true ∨ other = runId := by
  cases map with
  | progressRefreshLocks =>
      obtain rfl | before : other = runId ∨ other ∈ book.progressRefreshLocks := by
        simpa [hasEntry, lockRefresh] using entry
      · exact .inr rfl
      · exact .inl (by simpa [hasEntry] using before)
  | _ => exact .inl entry

theorem hasEntry_setRefresh {at_ : Instant}
    (entry : (book.setRefresh runId at_).hasEntry other map = true) :
    book.hasEntry other map = true ∨ other = runId := by
  by_cases same : other = runId
  · exact .inr same
  · left
    cases map with
    | lastProgressRefresh => simpa [hasEntry, setRefresh, Function.update_of_ne same] using entry
    | _ => exact entry

/-- The entries that a step of the manager makes are those of the run it submits, or of runs
that are stored. -/
theorem hasEntry_afterManager {label : ServiceLabel} {step : Label}
    (isStep : label.managerLabel? = some step)
    (refreshes : RefreshesStored book (.service label now))
    (entry : (book.afterManager now step).hasEntry other map = true) :
    book.hasEntry other map = true ∨ book.stored other = true ∨
      ∃ request at_, step = .submit other request at_ := by
  have refreshed : ∀ runId, book.refreshes? (.service label now) = some runId →
      (book.hasEntry other map = true ∨ other = runId) →
        book.hasEntry other map = true ∨ book.stored other = true := by
    rintro runId enters (before | rfl)
    · exact .inl before
    · exact .inr (refreshes other enters)
  have enters : book.refreshes? (.service label now) =
      match (some step : Option Label) with
      | some (.returned runId _ _) =>
          if book.service.manager.cancelled runId then none else some runId
      | some (.refreshed index (some _) _) => book.callRun? index
      | some (.finalRefreshed runId (some _) _) => some runId
      | _ => none := by
    rw [← isStep]
    rfl
  rw [← or_assoc]
  cases step with
  | submit runId request at_ =>
      by_cases same : other = runId
      · exact .inr ⟨request, at_, by rw [same]⟩
      · left
        left
        cases map with
        | cancelTokens => simpa [afterManager, hasEntry, same] using entry
        | secretValues => simpa [afterManager, hasEntry, same] using entry
        | _ => exact entry
  | returned runId result at_ =>
      left
      simp only [afterManager] at entry
      split at entry
      · exact hasEntry_lockStatus entry
      · next running =>
          exact refreshed runId (by rw [enters]; exact if_neg running) (hasEntry_lockRefresh entry)
  | refreshed index disk at_ =>
      left
      cases disk with
      | none => exact .inl entry
      | some disk =>
          simp only [afterManager] at entry
          split at entry
          · next runId isRun => exact refreshed runId (enters.trans isRun) (hasEntry_setRefresh entry)
          · exact .inl entry
  | finalRefreshed runId disk at_ =>
      left
      cases disk with
      | none => exact .inl entry
      | some disk => exact refreshed runId enters (hasEntry_setRefresh entry)
  | cancelWrite index disk at_ =>
      left
      simp only [afterManager] at entry
      split at entry
      · exact hasEntry_lockStatus entry
      · exact .inl entry
  | acquire runId at_ => exact .inl (hasEntry_lockStatus entry)
  | runCancelled runId at_ => exact .inl (hasEntry_lockStatus entry)
  | raised runId error at_ => exact .inl (hasEntry_lockStatus entry)
  | finish runId disk artifacts at_ => exact .inl (hasEntry_lockStatus entry)
  | finalizeFailed runId error at_ => exact .inl (hasEntry_lockStatus entry)
  | _ => exact .inl (.inl entry)

theorem hasEntry_discardEntries (elsewhere : map ≠ .requests ∧ map ≠ .artifactReaders)
    (entry : (book.discardEntries runId).hasEntry other map = true) :
    other ≠ runId ∧ book.hasEntry other map = true := by
  cases map with
  | requests => exact absurd rfl elsewhere.1
  | artifactReaders => exact absurd rfl elsewhere.2
  | lastProgressRefresh =>
      by_cases same : other = runId
      · simp [hasEntry, discardEntries, same] at entry
      · exact ⟨same, by simpa [hasEntry, discardEntries, Function.update_of_ne same] using entry⟩
  | _ => simpa [hasEntry, discardEntries] using entry

theorem service_lockStatus : (book.lockStatus runId).service = book.service := by
  unfold lockStatus
  split <;> rfl

theorem service_afterManager (step : Label) : (book.afterManager now step).service = book.service := by
  unfold afterManager
  split
  · rfl
  · split
    · exact service_lockStatus
    · rfl
  · rfl
  · rfl
  · split <;> rfl
  · rfl
  · split
    · exact service_lockStatus
    · rfl

/-- A step of the service without a discard brings no entries but those of stored runs. -/
theorem hasEntry_keeps (keeps : book.service.Keeps after)
    (entry : { book with service := after }.hasEntry other map = true) :
    book.hasEntry other map = true ∨ (after.manager.runs other).isSome = true := by
  cases map with
  | requests => exact keeps.requests other entry
  | artifactReaders =>
      exact (keeps.readers other (of_decide_eq_true entry)).imp_left decide_eq_true
  | _ => exact .inl entry

end Bookkeeping

open Bookkeeping

/-- The step of the manager in a step of the service. -/
theorem managerStep_of_service {label : ServiceLabel} {managerLabel : Label}
    (isStep : label.managerLabel? = some managerLabel)
    (edge : serviceStep config service label = some after) :
    step config service.manager managerLabel = some after.manager := by
  cases label with
  | manager label =>
      obtain rfl := Option.some_inj.mp isStep
      obtain ⟨-, manager, stepEdge, rfl⟩ := serviceStep_manager edge
      rw [(afterStep_spec _ _ _).1]
      exact stepEdge
  | answerArtifact index label found =>
      obtain rfl := Option.some_inj.mp isStep
      simp only [serviceStep] at edge
      split at edge
      · split at edge
        · obtain ⟨manager, stepEdge, rfl⟩ := Option.map_eq_some_iff.mp edge
          rw [(openArtifact_spec _ _ _ _).1]
          exact stepEdge
        · cases edge
      · cases edge
  | _ => cases isStep

theorem tracked_service {label : ServiceLabel} {now : Instant} (tracked : Tracked book)
    (refreshes : RefreshesStored book (.service label now))
    (edge : serviceStep config book.service label = some after) :
    Tracked { book.afterService config label now with service := after } := by
  intro map runId entry
  cases dropping : dropped? config book.service label with
  | some dropped =>
      have drops := drops_service dropping edge
      have entries : book.afterService config label now = book.discardEntries dropped := by
        rw [afterService, dropping]
      rw [entries] at entry ⊢
      have before : runId ≠ dropped ∧ book.hasEntry runId map = true := by
        cases map with
        | requests =>
            by_cases same : runId = dropped
            · simp [hasEntry, drops.requests, same] at entry
            · exact ⟨same, by
                simpa [hasEntry, drops.requests, Function.update_of_ne same] using entry⟩
        | artifactReaders =>
            by_cases same : runId = dropped
            · simp [hasEntry, drops.readers, same] at entry
            · exact ⟨same, by
                simpa [hasEntry, drops.readers, Function.update_of_ne same] using entry⟩
        | _ => exact hasEntry_discardEntries (by simp) entry
      exact (drops.stored runId before.1).trans (tracked map runId before.2)
  | none =>
      have keeps := keeps_service dropping edge
      have storedAfter : book.stored runId = true →
          (after.manager.runs runId).isSome = true := keeps.stored runId
      cases isStep : label.managerLabel? with
      | none =>
          have entries : book.afterService config label now = book := by
            rw [afterService, dropping, isStep]
          rw [entries] at entry ⊢
          rcases hasEntry_keeps keeps entry with before | isStored
          · exact storedAfter (tracked map runId before)
          · exact isStored
      | some step =>
          have entries : book.afterService config label now = book.afterManager now step := by
            rw [afterService, dropping, isStep]
          rw [entries] at entry ⊢
          have keeps' : (book.afterManager now step).service.Keeps after := by
            rw [service_afterManager]
            exact keeps
          rcases hasEntry_keeps keeps' entry with made | isStored
          · rcases hasEntry_afterManager isStep refreshes made with before | isStored | submits
            · exact storedAfter (tracked map runId before)
            · exact storedAfter isStored
            · obtain ⟨request, at_, rfl⟩ := submits
              change (after.manager.runs runId).isSome = true
              rw [(stored_submit (managerStep_of_service isStep edge)).1]
              simp
          · exact isStored

/-- A step whose refreshes are for stored runs leaves no entry without a run. -/
theorem tracked_step {label : BookLabel} (tracked : Tracked book)
    (refreshes : RefreshesStored book label) (edge : bookStep config book label = some next) :
    Tracked next := by
  cases label with
  | service label now =>
      simp only [bookStep] at edge
      split at edge
      · obtain ⟨after, serviceEdge, rfl⟩ := Option.map_eq_some_iff.mp edge
        exact tracked_service tracked refreshes serviceEdge
      · cases edge
  | lockProgress index now =>
      simp only [bookStep] at edge
      split at edge
      · next runId cancels called =>
          split at edge
          · obtain rfl := Option.some_inj.mp edge
            have isStored : book.stored runId = true :=
              refreshes runId (by simp [refreshes?, callRun?, called])
            intro map other entry
            have made : (book.lockRefresh runId).hasEntry other map = true := by
              cases map <;> exact entry
            rcases hasEntry_lockRefresh made with before | rfl
            · exact tracked map other before
            · exact isStored
          · cases edge
      · cases edge

/-- The step of the manager makes an entry of a refresh. -/
theorem hasEntry_afterManager_refresh {label : ServiceLabel} {now : Instant} {runId : RunId}
    (enters : book.refreshes? (.service label now) = some runId) :
    ∃ step, label.managerLabel? = some step ∧
      (∀ other request at_, step ≠ .submit other request at_) ∧
      (∀ other stored, step ≠ .submitted other stored) ∧ (∀ other at_, step ≠ .prune other at_) ∧
      ∀ service, ∃ map,
        { book.afterManager now step with service := service }.hasEntry runId map = true := by
  simp only [refreshes?] at enters
  split at enters
  · next other result at_ isStep =>
      split at enters
      · cases enters
      · next running =>
          obtain rfl := Option.some_inj.mp enters
          refine ⟨_, isStep, nofun, nofun, nofun, fun service => ⟨.progressRefreshLocks, ?_⟩⟩
          simp [hasEntry, afterManager, running, lockRefresh]
  · next index disk at_ isStep =>
      refine ⟨_, isStep, nofun, nofun, nofun, fun service => ⟨.lastProgressRefresh, ?_⟩⟩
      simp [hasEntry, afterManager, enters, setRefresh]
  · next other disk at_ isStep =>
      obtain rfl := Option.some_inj.mp enters
      refine ⟨_, isStep, nofun, nofun, nofun, fun service => ⟨.lastProgressRefresh, ?_⟩⟩
      simp [hasEntry, afterManager, setRefresh]
  · cases enters

/-- What a refresh enters, a lock or a time, is there after the step, and no run is gone. -/
theorem hasEntry_refresh {label : ServiceLabel} {now : Instant} {runId : RunId}
    (enters : book.refreshes? (.service label now) = some runId)
    (edge : serviceStep config book.service label = some after) :
    (∃ map, { book.afterService config label now with service := after }.hasEntry runId map =
        true) ∧
      (after.manager.runs runId).isSome = (book.service.manager.runs runId).isSome := by
  obtain ⟨step, isStep, noSubmit, noSubmission, noPrune, entry⟩ :=
    hasEntry_afterManager_refresh enters
  have same := sameStored_step noSubmit (fun other => noSubmission other false) noPrune
    (managerStep_of_service isStep edge)
  have kept : dropped? config book.service label = none := by
    cases label with
    | manager label =>
        obtain rfl := Option.some_inj.mp isStep
        cases label with
        | submitted other stored => exact absurd rfl (noSubmission other stored)
        | _ => rfl
    | answerArtifact index label found => rfl
    | _ => cases isStep
  have entries : book.afterService config label now = book.afterManager now step := by
    rw [afterService, kept, isStep]
  rw [entries]
  exact ⟨entry after, same.stored runId⟩

/-- A refresh for a run that is not stored leaves an entry behind. -/
theorem untracked_step {label : BookLabel} (refreshes : ¬ RefreshesStored book label)
    (edge : bookStep config book label = some next) : ¬ Tracked next := by
  unfold RefreshesStored at refreshes
  push Not at refreshes
  obtain ⟨runId, enters, notStored⟩ := refreshes
  intro tracked
  cases label with
  | service label now =>
      simp only [bookStep] at edge
      split at edge
      · obtain ⟨after, serviceEdge, rfl⟩ := Option.map_eq_some_iff.mp edge
        obtain ⟨⟨map, entry⟩, same⟩ := hasEntry_refresh enters serviceEdge
        exact notStored (same.symm.trans (tracked map runId entry))
      · cases edge
  | lockProgress index now =>
      simp only [bookStep] at edge
      split at edge
      · next other cancels called =>
          split at edge
          · obtain rfl := Option.some_inj.mp edge
            obtain rfl : other = runId := by
              simpa [refreshes?, callRun?, called] using enters
            refine notStored (tracked .progressRefreshLocks other ?_)
            simp [hasEntry, lockRefresh]
          · cases edge
      · cases edge

theorem tracked_initial : Tracked {} := by
  intro map runId entry
  cases map <;> cases entry

/-- While refreshes enter their locks and times only for stored runs, every entry belongs to
a stored run; another refresh leaves an entry behind. -/
theorem entries_tracked (config : Config) {labels : List BookLabel} {book : Bookkeeping}
    (refreshes : GuardedRuns.Meets (bookStep config) RefreshesStored {} labels)
    (runs : GuardedRuns.run (bookStep config) {} labels = some book) :
    Tracked book ∧
      ∀ label next, bookStep config book label = some next →
        (Tracked next ↔ RefreshesStored book label) := by
  have tracked : Tracked book :=
    GuardedRuns.invariant_of_meets (fun _ _ _ holds guard edge => tracked_step holds guard edge)
      tracked_initial refreshes runs
  refine ⟨tracked, ?_⟩
  intro label next edge
  constructor
  · intro trackedNext
    by_contra lost
    exact untracked_step lost edge trackedNext
  · exact fun stored => tracked_step tracked stored edge

/-- A run is submitted, and its progress is asked for. -/
def askedFor : List BookLabel :=
  [.service (.manager (.submit "run" ⟨["instance"]⟩ 1)) 1,
    .service (.manager (.submitted "run" true)) 1, .service (.manager (.call "run" false)) 5,
    .lockProgress 0 5, .service (.manager (.refreshRead 0)) 5,
    .service (.manager (.refreshed 0 (some halfway) 5)) 6]

theorem entries_tracked_askedFor :
    ∃ book, GuardedRuns.run (bookStep keepOne) {} askedFor = some book ∧ Tracked book ∧
      ∀ label next, bookStep keepOne book label = some next →
        (Tracked next ↔ RefreshesStored book label) := by
  have refreshes : GuardedRuns.Meets (bookStep keepOne) RefreshesStored {} askedFor := by
    decide
  exact ⟨_, rfl, entries_tracked keepOne refreshes rfl⟩

/-- The progress of an unknown run is asked for: its refresh lock stays. -/
theorem unknown_run_locked :
    ¬ ∀ (config : Config) (labels : List BookLabel) (book : Bookkeeping),
      GuardedRuns.run (bookStep config) {} labels = some book → book.quiet = true →
        Tracked book := by
  intro tracked
  have entry := tracked keepOne
    [.service (.manager (.call "unknown" false)) 5, .lockProgress 0 5,
      .service (.manager (.refreshRead 0)) 5] _ rfl rfl .progressRefreshLocks "unknown"
        (by decide)
  revert entry
  decide

end SweBenchService

end InferenceEndpoint
