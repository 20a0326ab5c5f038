import InferenceEndpoint.Library.GuardedRuns
import InferenceEndpoint.Library.Json
import Mathlib.Data.List.Basic
import Mathlib.Logic.Function.Basic

/-!
# The SWE-bench service

The run manager executes submitted runs, cancels them on request and refreshes their
progress whenever they are asked for.  A step goes from one `await` to the next; what
happens in other threads in between is part of the labels.
-/

namespace InferenceEndpoint

namespace SweBenchService

abbrev RunId := String

/-- The clock, in whole units. -/
abbrev Instant := Nat

inductive RunState
  | queued
  | running
  | succeeded
  | failed
  | cancelled
  deriving DecidableEq

inductive RunProgressPhase
  | queued
  | agent
  | eval
  | succeeded
  | failed
  | cancelled
  deriving DecidableEq

namespace RunState

/-- `_TERMINAL_STATES`. -/
def terminal : RunState → Bool
  | .succeeded | .failed | .cancelled => true
  | .queued | .running => false

/-- The phase with the name of the state. -/
def phase : RunState → RunProgressPhase
  | .queued => .queued
  | .running => .agent
  | .succeeded => .succeeded
  | .failed => .failed
  | .cancelled => .cancelled

end RunState

namespace RunProgressPhase

def text : RunProgressPhase → String
  | .queued => "queued"
  | .agent => "agent"
  | .eval => "eval"
  | .succeeded => "succeeded"
  | .failed => "failed"
  | .cancelled => "cancelled"

end RunProgressPhase

structure ArtifactInfo where
  name : String
  url : String
  deriving DecidableEq

structure RunStatus where
  runId : RunId
  status : RunState
  createdAt : Instant
  updatedAt : Instant
  finishedAt : Option Instant := none
  phase : Option RunProgressPhase := none
  agentTotal : Option Nat := none
  agentCompleted : Option Nat := none
  evalTotal : Option Nat := none
  evalCompleted : Option Nat := none
  message : Option String := none
  error : Option String := none
  result : Option Json := none
  artifacts : List ArtifactInfo := []

/-- The part of a request that the progress is computed from. -/
structure RunRequest where
  evaluatedInstanceIds : List String

/-- What the files of a run hold at some moment. -/
structure Disk where
  agentCompleted : Nat
  predictions : Nat
  /-- The id of the evaluation, once it has begun. -/
  evalRunId : Option String
  evalCompleted : String → Nat

structure Progress where
  phase : RunProgressPhase
  agentTotal : Nat
  agentCompleted : Nat
  evalTotal : Nat
  evalCompleted : Nat
  message : String

def derivedProgress (status : RunStatus) (request : Option RunRequest) (disk : Disk) : Progress :=
  let agentTotal := (request.map (·.evaluatedInstanceIds.length)).getD 0
  let agentCompleted := min disk.agentCompleted agentTotal
  match disk.evalRunId with
  | some evalRunId =>
      let evalTotal := if disk.predictions = 0 then agentTotal else disk.predictions
      { phase := .eval
        agentTotal := agentTotal
        agentCompleted := agentCompleted
        evalTotal := evalTotal
        evalCompleted := min (if evalRunId = "" then 0 else disk.evalCompleted evalRunId) evalTotal
        message := "eval" }
  | none =>
      let phase := if status.status = .queued then .queued else .agent
      { phase := phase
        agentTotal := agentTotal
        agentCompleted := agentCompleted
        evalTotal := 0
        evalCompleted := 0
        message := phase.text }

def terminalProgress (phase : RunProgressPhase) (status : RunStatus)
    (request : Option RunRequest) (disk : Disk) : Progress :=
  let progress := derivedProgress status request disk
  let progress :=
    if phase = .succeeded then
      let evalTotal := if progress.evalTotal = 0 then disk.predictions else progress.evalTotal
      let evalTotal := if evalTotal = 0 then progress.agentTotal else evalTotal
      { progress with
        agentCompleted := progress.agentTotal
        evalTotal := evalTotal
        evalCompleted := evalTotal }
    else progress
  { progress with phase := phase, message := phase.text }

def readProgress (status : RunStatus) (request : Option RunRequest) (disk : Disk) : Progress :=
  if status.status.terminal then terminalProgress status.status.phase status request disk
  else derivedProgress status request disk

/-- `data.update(progress)`. -/
def RunStatus.withProgress (status : RunStatus) (progress : Progress) : RunStatus :=
  { status with
    phase := some progress.phase
    agentTotal := some progress.agentTotal
    agentCompleted := some progress.agentCompleted
    evalTotal := some progress.evalTotal
    evalCompleted := some progress.evalCompleted
    message := some progress.message }

/-- Whether the status has the values of the progress already. -/
def RunStatus.shows (status : RunStatus) (progress : Progress) : Bool :=
  status.phase = some progress.phase && status.agentTotal = some progress.agentTotal &&
    status.agentCompleted = some progress.agentCompleted &&
    status.evalTotal = some progress.evalTotal &&
    status.evalCompleted = some progress.evalCompleted &&
    status.message = some progress.message

/-- Where a run stands on its way through `submit` and `_execute`. -/
inductive ExecuteStage
  /-- The submission is stored. -/
  | submitting
  /-- Before the semaphore. -/
  | waiting
  /-- The running status is stored. -/
  | starting
  /-- The runner works in its thread. -/
  | working
  /-- Before the last refresh. -/
  | finalizing (result : Json)
  | refreshing (result : Json) (snapshot : RunStatus)
  /-- The final progress is read. -/
  | progressing (result : Json) (snapshot : RunStatus)
  /-- The succeeded status is stored. -/
  | storing
  /-- Another final status is stored. -/
  | leaving
  | ended

/-- The task has written its final status. -/
def ExecuteStage.left : ExecuteStage → Bool
  | .storing | .leaving | .ended => true
  | _ => false

/-- The task is inside the semaphore. -/
def ExecuteStage.holds : ExecuteStage → Bool
  | .submitting | .waiting | .ended => false
  | _ => true

/-- Where a call of `get` or `cancel` stands. -/
inductive CallStage
  | called
  /-- The progress is read for a status. -/
  | reading (snapshot : RunStatus)
  /-- The token is cancelled in a thread. -/
  | cancelling
  | tokenSet
  /-- The progress of a cancelled run is read. -/
  | progressing (snapshot : RunStatus)
  /-- The cancelled status is stored. -/
  | storing
  /-- The answer, or an error. -/
  | answered (status : Option RunStatus)

structure Call where
  runId : RunId
  cancels : Bool
  stage : CallStage

structure Config where
  maxConcurrentRuns : Nat
  maxStoredRuns : Nat

structure RunManager where
  runs : RunId → Option RunStatus := fun _ => none
  requests : RunId → Option RunRequest := fun _ => none
  /-- Whether the token of a run is cancelled. -/
  cancelled : RunId → Bool := fun _ => false
  executing : RunId → Option ExecuteStage := fun _ => none
  /-- All runs submitted so far. -/
  submitted : List RunId := []
  calls : List Call := []

namespace RunManager

variable (config : Config) (manager : RunManager)

def activeCount : Nat :=
  manager.submitted.countP fun runId =>
    match manager.runs runId with
    | some run => run.status = .queued || run.status = .running
    | none => false

/-- The runs that pruning counts. -/
def completedCount : Nat :=
  manager.submitted.countP fun runId =>
    match manager.runs runId with
    | some run => run.status.terminal && run.finishedAt.isSome
    | none => false

def holders : Nat :=
  manager.submitted.countP fun runId =>
    match manager.executing runId with
    | some stage => stage.holds
    | none => false

/-- The status after an update at `now`. -/
def stamped (current changed : RunStatus) (now : Instant) : RunStatus :=
  { changed with
    updatedAt := now
    finishedAt :=
      if changed.status.terminal && current.finishedAt.isNone then some now
      else changed.finishedAt }

/-- `_update_in_memory`; a run that is unknown stays so, and the task that asked for the
update writes nothing more. -/
def updateInMemory (runId : RunId) (change : RunStatus → RunStatus) (now : Instant) :
    RunManager :=
  match manager.runs runId with
  | none => manager
  | some current =>
      { manager with
        runs := Function.update manager.runs runId (some (stamped current (change current) now)) }

def setExecuting (runId : RunId) (stage : ExecuteStage) : RunManager :=
  { manager with executing := Function.update manager.executing runId (some stage) }

/-- `_discard_run`. -/
def discardRun (runId : RunId) : RunManager :=
  { manager with
    runs := Function.update manager.runs runId none
    requests := Function.update manager.requests runId none }

/-- A status without a result, as `_execute` writes it. -/
def writeCancelled (status : RunStatus) : RunStatus :=
  { status with status := .cancelled, phase := some .cancelled }

def writeFailed (error : String) (status : RunStatus) : RunStatus :=
  { status with status := .failed, phase := some .failed, error := some error }

def writeRunning (status : RunStatus) : RunStatus :=
  { status with status := .running, phase := some .agent, message := some "agent" }

def writeSucceeded (result : Json) (artifacts : List ArtifactInfo) (progress : Progress)
    (status : RunStatus) : RunStatus :=
  { (status.withProgress progress) with
    status := .succeeded
    result := some result
    artifacts := artifacts }

/-- What `cancel` writes; without readable files only phase and message. -/
def writeCancelledProgress (progress : Option Progress) (status : RunStatus) : RunStatus :=
  match progress with
  | some progress => { (status.withProgress progress) with status := .cancelled }
  | none =>
      { status with status := .cancelled, phase := some .cancelled, message := some "cancelled" }

/-- The end of a refresh: the progress read for a snapshot is dropped if the status has
changed since, and if it brings nothing new. -/
def applyProgress (runId : RunId) (snapshot : RunStatus) (disk : Disk) (now : Instant) :
    RunManager :=
  match manager.runs runId with
  | none => manager
  | some current =>
      let progress := readProgress snapshot (manager.requests runId) disk
      if current.status ≠ snapshot.status ∨ current.shows progress then manager
      else manager.updateInMemory runId (·.withProgress progress) now

/-- A refresh whose files cannot be read changes nothing. -/
def refreshWith (runId : RunId) (snapshot : RunStatus) (disk : Option Disk) (now : Instant) :
    RunManager :=
  match disk with
  | some disk => manager.applyProgress runId snapshot disk now
  | none => manager

def setCall (index : Nat) (call : Call) (stage : CallStage) : RunManager :=
  { manager with calls := manager.calls.set index { call with stage := stage } }

/-- After the refresh, `get` answers with the status, and `cancel` goes on unless the run
has ended. -/
def settleCall (index : Nat) (call : Call) : RunManager :=
  match manager.runs call.runId with
  | none => manager.setCall index call (.answered none)
  | some run =>
      if call.cancels ∧ run.status.terminal = false then
        manager.setCall index call .cancelling
      else manager.setCall index call (.answered (some run))

end RunManager

inductive Label
  | submit (runId : RunId) (request : RunRequest) (now : Instant)
  /-- The submission is stored, or it could not be. -/
  | submitted (runId : RunId) (stored : Bool)
  | acquire (runId : RunId) (now : Instant)
  | started (runId : RunId)
  | returned (runId : RunId) (result : Json) (now : Instant)
  | runCancelled (runId : RunId) (now : Instant)
  | raised (runId : RunId) (error : String) (now : Instant)
  | finalRead (runId : RunId)
  /-- The last refresh ends; `none` if the files cannot be read. -/
  | finalRefreshed (runId : RunId) (disk : Option Disk) (now : Instant)
  | finish (runId : RunId) (disk : Disk) (artifacts : List ArtifactInfo) (now : Instant)
  | finalizeFailed (runId : RunId) (error : String) (now : Instant)
  /-- The task ends after its last `await`, or by an exception that nothing catches. -/
  | executeEnded (runId : RunId)
  | call (runId : RunId) (cancels : Bool)
  /-- The last refresh is too recent for another one. -/
  | refreshSkipped (index : Nat)
  | refreshRead (index : Nat)
  | refreshed (index : Nat) (disk : Option Disk) (now : Instant)
  | tokenCancelled (index : Nat)
  | inspect (index : Nat)
  | cancelWrite (index : Nat) (disk : Option Disk) (now : Instant)
  | cancelReturn (index : Nat)
  /-- The call is given up, or raises. -/
  | callAborted (index : Nat)
  | prune (runId : RunId) (now : Instant)

open RunManager

variable (config : Config)

/-- `_ARTIFACT_RETENTION_GRACE_S`. -/
def artifactRetentionGrace : Nat :=
  5 * 60

def step (manager : RunManager) : Label → Option RunManager
  | .submit runId request now =>
      if manager.activeCount < config.maxConcurrentRuns ∧ runId ∉ manager.submitted then
        some
          { manager with
            runs := Function.update manager.runs runId
              (some
                { runId := runId
                  status := .queued
                  createdAt := now
                  updatedAt := now
                  phase := some .queued
                  agentTotal := some request.evaluatedInstanceIds.length
                  agentCompleted := some 0
                  evalTotal := some 0
                  evalCompleted := some 0
                  message := some "queued" })
            requests := Function.update manager.requests runId (some request)
            executing := Function.update manager.executing runId (some .submitting)
            submitted := runId :: manager.submitted }
      else none
  | .submitted runId stored =>
      match manager.executing runId with
      | some .submitting =>
          if stored then some (manager.setExecuting runId .waiting)
          else some ((manager.discardRun runId).setExecuting runId .ended)
      | _ => none
  | .acquire runId now =>
      match manager.executing runId with
      | some .waiting =>
          if manager.holders < config.maxConcurrentRuns then
            if manager.cancelled runId then
              some ((manager.updateInMemory runId writeCancelled now).setExecuting runId .leaving)
            else
              some ((manager.updateInMemory runId writeRunning now).setExecuting runId .starting)
          else none
      | _ => none
  | .started runId =>
      match manager.executing runId with
      | some .starting => some (manager.setExecuting runId .working)
      | _ => none
  | .returned runId result now =>
      match manager.executing runId with
      | some .working =>
          if manager.cancelled runId then
            some ((manager.updateInMemory runId writeCancelled now).setExecuting runId .leaving)
          else some (manager.setExecuting runId (.finalizing result))
      | _ => none
  | .runCancelled runId now =>
      match manager.executing runId with
      | some .working =>
          some ((manager.updateInMemory runId writeCancelled now).setExecuting runId .leaving)
      | _ => none
  | .raised runId error now =>
      match manager.executing runId with
      | some .working =>
          some ((manager.updateInMemory runId
            (if manager.cancelled runId then writeCancelled else writeFailed error) now).setExecuting
              runId .leaving)
      | _ => none
  | .finalRead runId =>
      match manager.executing runId, manager.runs runId with
      | some (.finalizing result), some snapshot =>
          some (manager.setExecuting runId (.refreshing result snapshot))
      | _, _ => none
  | .finalRefreshed runId disk now =>
      match manager.executing runId with
      | some (.refreshing result snapshot) =>
          let manager := manager.refreshWith runId snapshot disk now
          match manager.runs runId with
          | some current => some (manager.setExecuting runId (.progressing result current))
          | none => some (manager.setExecuting runId .ended)
      | _ => none
  | .finish runId disk artifacts now =>
      match manager.executing runId with
      | some (.progressing result snapshot) =>
          let progress := terminalProgress .succeeded snapshot (manager.requests runId) disk
          some ((manager.updateInMemory runId
            (writeSucceeded result artifacts progress) now).setExecuting runId .storing)
      | _ => none
  | .finalizeFailed runId error now =>
      match manager.executing runId with
      | some (.finalizing _) | some (.refreshing _ _) | some (.progressing _ _)
      | some .storing =>
          some ((manager.updateInMemory runId (writeFailed error) now).setExecuting runId .leaving)
      | _ => none
  | .executeEnded runId =>
      match manager.executing runId with
      | none | some .ended => none
      | some _ => some (manager.setExecuting runId .ended)
  | .call runId cancels =>
      some { manager with calls := manager.calls ++ [⟨runId, cancels, .called⟩] }
  | .refreshSkipped index =>
      match manager.calls[index]? with
      | some ⟨runId, cancels, .called⟩ => some (manager.settleCall index ⟨runId, cancels, .called⟩)
      | _ => none
  | .refreshRead index =>
      match manager.calls[index]? with
      | some ⟨runId, cancels, .called⟩ =>
          match manager.runs runId with
          | some snapshot =>
              some (manager.setCall index ⟨runId, cancels, .called⟩ (.reading snapshot))
          | none => some (manager.setCall index ⟨runId, cancels, .called⟩ (.answered none))
      | _ => none
  | .refreshed index disk now =>
      match manager.calls[index]? with
      | some ⟨runId, cancels, .reading snapshot⟩ =>
          let manager := manager.refreshWith runId snapshot disk now
          some (manager.settleCall index ⟨runId, cancels, .reading snapshot⟩)
      | _ => none
  | .tokenCancelled index =>
      match manager.calls[index]? with
      | some ⟨runId, cancels, .cancelling⟩ =>
          some
            ({ manager with cancelled := Function.update manager.cancelled runId true }.setCall
              index ⟨runId, cancels, .cancelling⟩ .tokenSet)
      | _ => none
  | .inspect index =>
      match manager.calls[index]? with
      | some ⟨runId, cancels, .tokenSet⟩ =>
          match manager.runs runId with
          | some snapshot =>
              some (manager.setCall index ⟨runId, cancels, .tokenSet⟩ (.progressing snapshot))
          | none => some (manager.setCall index ⟨runId, cancels, .tokenSet⟩ (.answered none))
      | _ => none
  | .cancelWrite index disk now =>
      match manager.calls[index]? with
      | some ⟨runId, cancels, .progressing snapshot⟩ =>
          let call := ⟨runId, cancels, .progressing snapshot⟩
          let progress := disk.map
            (terminalProgress .cancelled snapshot (manager.requests runId))
          match manager.runs runId with
          | some _ =>
              some ((manager.updateInMemory runId (writeCancelledProgress progress) now).setCall
                index call .storing)
          | none => some (manager.setCall index call (.answered none))
      | _ => none
  | .cancelReturn index =>
      match manager.calls[index]? with
      | some ⟨runId, cancels, .storing⟩ =>
          some (manager.setCall index ⟨runId, cancels, .storing⟩ (.answered (manager.runs runId)))
      | _ => none
  | .callAborted index =>
      match manager.calls[index]? with
      | some call => some (manager.setCall index call (.answered none))
      | none => none
  | .prune runId now =>
      match manager.runs runId with
      | some run =>
          if 0 < config.maxStoredRuns ∧ config.maxStoredRuns < manager.completedCount ∧
              run.status.terminal ∧
              (run.finishedAt.map (· + artifactRetentionGrace)).any (· ≤ now) then
            some (manager.discardRun runId)
          else none
      | none => none

end SweBenchService

end InferenceEndpoint
