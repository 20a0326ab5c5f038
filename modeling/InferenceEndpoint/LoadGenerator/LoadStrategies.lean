import InferenceEndpoint.Library.GuardedRuns
import InferenceEndpoint.Core.Types
import Mathlib.Tactic.Common

/-!
# Load strategies

The four single-turn strategies cut at their awaits and at the callbacks they
schedule, in a session that runs one phase after the other.  A strategy that is
cancelled leaves its scheduled callback behind, and the callback still issues
through the issuer of its own phase.  The agentic strategy, modelled elsewhere
in full, issues from its task or from a hook until it ends and cancels its
timers then.
-/

namespace InferenceEndpoint.Issuance

inductive LoadStrategy
  /-- `TimedIssueStrategy` with `call_at`. -/
  | timed
  /-- `TimedIssueStrategy` with `use_executor`. -/
  | timedExecutor
  | burst
  | concurrency (targetConcurrency : Nat) (positive : 0 < targetConcurrency)
  | agentic
  deriving DecidableEq

namespace LoadStrategy

/-- It issues from a callback that it schedules. -/
def schedules : LoadStrategy → Bool
  | timed | burst => true
  | _ => false

/-- The value of the semaphore at the start. -/
def permits : LoadStrategy → Nat
  | concurrency targetConcurrency _ => targetConcurrency
  | _ => 0

end LoadStrategy

/-- The parts of a phase that its issuing depends on; `totalSamples` is what
`total_samples_to_issue` returns, and no cap is zero. -/
structure PhaseSettings where
  strategy : LoadStrategy
  totalSamples : Nat
  maxDurationNs : Nat := 0
  drainAfter : Bool := true

inductive Outcome
  | returned
  | raised
  | cancelled
  deriving DecidableEq, Repr

/-- Where the `execute` coroutine stands. -/
inductive Position
  | notStarted
  /-- It waits for `done`. -/
  | waiting
  /-- The executor waits for the time of the next sample. -/
  | pacing
  /-- `acquire` is next. -/
  | acquiring
  /-- It waits in `acquire`. -/
  | blocked
  /-- `release` gave it the permit; it has not run since. -/
  | woken
  /-- It holds the permit and issues next. -/
  | holding
  /-- The task is done, and so many samples had been issued then. -/
  | ended (outcome : Outcome) (issuedCount : Nat)
  deriving DecidableEq, Repr

namespace Position

def isEnded : Position → Bool
  | ended _ _ => true
  | _ => false

/-- The coroutine is suspended where a cancellation reaches it. -/
def suspended : Position → Bool
  | notStarted | waiting | pacing | blocked | woken => true
  | _ => false

/-- The permit between `acquire` and the return of `issue`; a strategy whose
`issue` raised keeps it. -/
def heldPermits : Position → Nat
  | woken | holding => 1
  | ended .raised _ => 1
  | _ => 0

end Position

/-- A phase with its issuer and its strategy.  `issued` are the queries that
went through the issuer, and `refusedNs` is the time when `issue` first
returned `None`. -/
structure PhaseRun where
  settings : PhaseSettings
  startNs : Nat
  position : Position := .notStarted
  /-- `fire` or `issue_next` is scheduled. -/
  callback : Bool := false
  /-- `done` was set, with or without an error. -/
  done : Option Outcome := none
  permits : Nat := settings.strategy.permits
  issued : List QueryId := []
  issuedCount : Nat := 0
  inflight : Nat := 0
  refusedNs : Option Nat := none

inductive SessionPc
  /-- No phase runs: none has started, or the last one has returned. -/
  | idle
  | running
  | draining
  deriving DecidableEq, Repr

structure Session where
  nowNs : Nat := 0
  stopRequested : Bool := false
  currentPhaseStopped : Bool := false
  failed : Bool := false
  pc : SessionPc := .idle
  drainEvent : Bool := false
  current : Option PhaseRun := none
  past : List PhaseRun := []
  nextQuery : QueryId := 0
  /-- The queries that a result arrived for. -/
  answered : List QueryId := []

inductive Label
  /-- `_run_phase` sets up the next phase. -/
  | startPhase (settings : PhaseSettings)
  /-- The strategy task takes its first step. -/
  | execute (delayRaises : Bool)
  /-- The scheduled callback of the current phase runs. -/
  | callback (sendRaises delayRaises : Bool)
  /-- The callback left over from an earlier phase runs. -/
  | leftover (index : Nat) (sendRaises delayRaises : Bool)
  /-- The task notices that `done` is set. -/
  | wake
  /-- The cancellation reaches the task. -/
  | cancelled
  | pace (sendRaises delayRaises : Bool)
  | acquire
  | resume
  | issueHeld (sendRaises : Bool)
  /-- The agentic strategy calls `issue`. -/
  | issueAgentic (sendRaises : Bool)
  | agenticEnds (raises : Bool)
  /-- `_run_phase` notices that the task is done. -/
  | awaitStrategy
  | drained
  | drainTimeout
  | response (query : QueryId)
  /-- `stop`, or the receiver finding the transport closed. -/
  | stop
  | stopCurrentPhase
  | tick (elapsedNs : Nat)

/-- How `PhaseIssuer.issue` ends. -/
inductive IssueOutcome
  | sent
  | refused
  | raised
  deriving DecidableEq, Repr

namespace Session

/-- The phase has reached its `max_issue_duration_ms`. -/
def capReached (nowNs : Nat) (run : PhaseRun) : Bool :=
  0 < run.settings.maxDurationNs &&
    run.settings.maxDurationNs ≤ nowNs - run.startNs

/-- The closure of `_make_stop_check` for the phase of the run; it reads the
sample count of the current issuer. -/
def stopCheck (session : Session) (run : PhaseRun) : Bool :=
  session.stopRequested || session.currentPhaseStopped ||
    (run.settings.strategy ≠ .agentic &&
      (session.current.any fun current =>
        run.settings.totalSamples ≤ current.issuedCount)) ||
    capReached session.nowNs run

/-- `PhaseIssuer.issue` for the issuer of the run. -/
def issue (session : Session) (run : PhaseRun) (sendRaises : Bool) :
    IssueOutcome × Session × PhaseRun :=
  if session.stopCheck run then
    (.refused, session, { run with refusedNs := run.refusedNs.or (some session.nowNs) })
  else if sendRaises then (.raised, { session with nextQuery := session.nextQuery + 1 }, run)
  else
    (.sent, { session with nextQuery := session.nextQuery + 1 },
      { run with
          issued := run.issued ++ [session.nextQuery]
          issuedCount := run.issuedCount + 1
          inflight := run.inflight + 1 })

end Session

namespace PhaseRun

def finish (run : PhaseRun) (outcome : Outcome) : PhaseRun :=
  { run with position := .ended outcome run.issuedCount }

/-- `fire` or `issue_next` after its `issue`. -/
def afterCallback (run : PhaseRun) (delayRaises : Bool) : IssueOutcome → PhaseRun
  | .sent =>
      if delayRaises && run.settings.strategy = .timed then
        { run with callback := false, done := some .raised }
      else run
  | .refused => { run with callback := false, done := some .returned }
  | .raised => { run with callback := false, done := some .raised }

/-- The loop of `_execute_executor` after its `issue`. -/
def afterPaced (run : PhaseRun) (delayRaises : Bool) : IssueOutcome → PhaseRun
  | .sent => if delayRaises then run.finish .raised else run
  | .refused => run.finish .returned
  | .raised => run.finish .raised

/-- The loop of `ConcurrencyStrategy.execute` after its `issue`. -/
def afterHeld (run : PhaseRun) : IssueOutcome → PhaseRun
  | .sent => { run with position := .acquiring }
  | .refused => { run with permits := run.permits + 1 }.finish .returned
  | .raised => run.finish .raised

/-- `execute` up to its first await. -/
def begin (run : PhaseRun) (delayRaises : Bool) : PhaseRun :=
  match run.settings.strategy with
  | .timed =>
      if delayRaises then { run with position := .waiting, done := some .raised }
      else { run with position := .waiting, callback := true }
  | .burst => { run with position := .waiting, callback := true }
  | .timedExecutor =>
      if delayRaises then run.finish .raised else { run with position := .pacing }
  | .concurrency _ _ => { run with position := .acquiring }
  | .agentic => { run with position := .waiting }

/-- `Semaphore.release`. -/
def release (run : PhaseRun) : PhaseRun :=
  if run.position = .blocked then { run with position := .woken }
  else { run with permits := run.permits + 1 }

/-- The unwinding of the cancelled task; a permit that `release` had handed
over goes back. -/
def cancel (run : PhaseRun) : PhaseRun :=
  if run.position = .woken then
    { run with permits := run.permits + 1 }.finish .cancelled
  else run.finish .cancelled

/-- `mark_inflight_complete` and `on_query_complete` for a query of the run. -/
def complete (run : PhaseRun) : PhaseRun :=
  let counted := { run with inflight := run.inflight - 1 }
  match run.settings.strategy with
  | .concurrency _ _ => counted.release
  | _ => counted

end PhaseRun

namespace Session

def setCurrent (session : Session) (run : PhaseRun) : Session :=
  { session with current := some run }

/-- Run a callback or a part of `execute` that issues first, and continue with
what it does then. -/
def issueThen (session : Session) (run : PhaseRun) (sendRaises : Bool)
    (continue_ : PhaseRun → IssueOutcome → PhaseRun) : Session :=
  let issued := session.issue run sendRaises
  issued.2.1.setCurrent (continue_ issued.2.2 issued.1)

def enter (session : Session) (settings : PhaseSettings) : Session :=
  { session with
      currentPhaseStopped := false
      pc := .running
      past := session.past ++ session.current.toList
      current := some { settings := settings, startNs := session.nowNs } }

/-- `_drain_inflight` up to its wait, if the phase drains. -/
def afterStrategy (session : Session) (run : PhaseRun) : Session :=
  if run.settings.drainAfter && 0 < run.inflight && !session.stopRequested then
    { session with pc := .draining, drainEvent := false }
  else { session with pc := .idle }

def stop (session : Session) : Session :=
  { session with stopRequested := true, drainEvent := true }

/-- A result of the query arrives. -/
def respond (session : Session) (query : QueryId) : Session :=
  let seen := { session with answered := query :: session.answered }
  match session.current with
  | none => seen
  | some run =>
      if query ∈ run.issued then
        { seen.setCurrent run.complete with
            drainEvent := session.drainEvent || run.inflight = 1 }
      else seen

def step (session : Session) : Label → Option Session
  | .startPhase settings =>
      if session.pc = .idle ∧ !session.stopRequested ∧ !session.failed then
        some (session.enter settings)
      else none
  | .stop => some session.stop
  | .tick elapsedNs => some { session with nowNs := session.nowNs + elapsedNs }
  | .response query =>
      if query < session.nextQuery then some (session.respond query) else none
  | .leftover index sendRaises delayRaises =>
      match session.past[index]? with
      | none => none
      | some run =>
          if run.callback then
            let issued := session.issue run sendRaises
            some { issued.2.1 with
              past := session.past.set index (issued.2.2.afterCallback delayRaises issued.1) }
          else none
  | label =>
      match session.current with
      | none => none
      | some run =>
          match label with
          | .execute delayRaises =>
              if run.position = .notStarted then
                some (session.setCurrent (run.begin delayRaises))
              else none
          | .callback sendRaises delayRaises =>
              if run.callback then
                some (session.issueThen run sendRaises fun issued outcome =>
                  issued.afterCallback delayRaises outcome)
              else none
          | .wake =>
              match run.done with
              | some outcome =>
                  if run.position = .waiting then
                    some (session.setCurrent (run.finish outcome))
                  else none
              | none => none
          | .cancelled =>
              if run.position.suspended ∧
                  (session.stopRequested ∨ session.currentPhaseStopped) then
                some (session.setCurrent run.cancel)
              else none
          | .pace sendRaises delayRaises =>
              if run.position = .pacing then
                some (session.issueThen run sendRaises fun issued outcome =>
                  issued.afterPaced delayRaises outcome)
              else none
          | .acquire =>
              if run.position = .acquiring then
                if 0 < run.permits then
                  some (session.setCurrent
                    { run with position := .holding, permits := run.permits - 1 })
                else some (session.setCurrent { run with position := .blocked })
              else none
          | .resume =>
              if run.position = .woken then
                some (session.setCurrent { run with position := .holding })
              else none
          | .issueHeld sendRaises =>
              if run.position = .holding then
                some (session.issueThen run sendRaises PhaseRun.afterHeld)
              else none
          | .issueAgentic sendRaises =>
              if run.position = .waiting ∧ run.settings.strategy = .agentic then
                some (session.issueThen run sendRaises fun issued _ => issued)
              else none
          | .agenticEnds raises =>
              if run.position = .waiting ∧ run.settings.strategy = .agentic then
                some (session.setCurrent
                  (run.finish (if raises then .raised else .returned)))
              else none
          | .awaitStrategy =>
              if session.pc = .running then
                match run.position with
                | .ended .raised _ => some { session with pc := .idle, failed := true }
                | .ended _ _ => some (session.afterStrategy run)
                | _ => none
              else none
          | .drained =>
              if session.pc = .draining ∧ session.drainEvent then
                some { session with pc := .idle }
              else none
          | .drainTimeout =>
              if session.pc = .draining then some { session.stop with pc := .idle }
              else none
          | .stopCurrentPhase =>
              if session.pc = .running ∧ !run.position.isEnded then
                some { session with currentPhaseStopped := true }
              else some session
          | _ => none

/-- All phases that have started, the current one last. -/
def runs (session : Session) : List PhaseRun :=
  session.past ++ session.current.toList

end Session

end InferenceEndpoint.Issuance
