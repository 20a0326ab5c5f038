import InferenceEndpoint.Library.GuardedRuns
import Mathlib.Data.List.Pairwise
import Mathlib.Order.Basic
import Mathlib.Logic.Function.Basic
import Mathlib.Tactic.Common

/-!
# Snapshot publisher

`MetricsPublisher` with the three coroutines that use it: the tick task, the
finalizers started by ENDED and by SIGTERM, and the close that the aggregator
and `main` call.  Each is cut at its awaits, and every order of the pieces is a
run.  A terminal snapshot stays the last one as long as no tick task is started
once the finalizer has begun.
-/

namespace InferenceEndpoint

inductive MetricsSessionState
  | initializing
  | live
  | draining
  | complete
  | interrupted
  deriving DecidableEq, Repr

namespace MetricsSessionState

/-- The order in which snapshots may be published. -/
def rank : MetricsSessionState → Nat
  | .initializing => 0
  | .live => 1
  | .draining => 2
  | .complete => 3
  | .interrupted => 3

def terminal (state : MetricsSessionState) : Bool :=
  state = .complete || state = .interrupted

end MetricsSessionState

inductive TickTask
  | running
  /-- Cancelled, but its coroutine has not ended yet. -/
  | cancelled
  | exited
  deriving DecidableEq, Repr

/-- The finalizer of ENDED, or the one of the SIGTERM with the given number. -/
inductive FinalizerId
  | ended
  | sigterm (number : Nat)
  deriving DecidableEq, Repr

inductive Finalizer
  | absent
  /-- It waits for the token drain, for the verdict or for the lock. -/
  | waiting
  /-- It holds the lock and awaits the cancelled tick task. -/
  | awaitingTick
  /-- It holds the lock and waits for the file to be written. -/
  | writing
  | done
  deriving DecidableEq, Repr

/-- The callers of `aclose`. -/
inductive Closer
  | aggregator
  | main
  deriving DecidableEq, Repr

inductive Closing
  | notCalled
  | awaitingTick
  | done
  deriving DecidableEq, Repr

/-- The fields of the service and of its publisher that decide what is
published; `open_` says whether the transport is open. -/
structure PublisherState where
  sessionState : MetricsSessionState := .initializing
  sessionStarted : Bool := false
  shutdownReceived : Bool := false
  interrupted : Bool := false
  tickTask : Option TickTask := none
  finalized : Bool := false
  /-- The holder of `_final_lock`. -/
  lock : Option FinalizerId := none
  closed : Bool := false
  open_ : Bool := true
  finalizer : FinalizerId → Finalizer := fun _ => .absent
  closing : Closer → Closing := fun _ => .notCalled
  published : List MetricsSessionState := []

inductive PublisherLabel
  | started
  /-- The INTERRUPTED marker of the session. -/
  | interruptedMarker
  | ended
  | sigterm (number : Nat)
  | tick
  | tickExits
  /-- `publish_final` gets the lock. -/
  | finalize (id : FinalizerId)
  /-- The cancelled tick task is gone. -/
  | tickGone (id : FinalizerId)
  /-- The file was written, or writing it failed. -/
  | written (id : FinalizerId)
  /-- The drain of ENDED raised. -/
  | drainFailed
  | aclose (caller : Closer)
  | closeTransport (caller : Closer)

namespace PublisherState

def publish (state : PublisherState) (snapshot : MetricsSessionState) : PublisherState :=
  if state.open_ then { state with published := state.published ++ [snapshot] }
  else state

def setFinalizer (state : PublisherState) (id : FinalizerId) (stage : Finalizer) :
    PublisherState :=
  { state with finalizer := Function.update state.finalizer id stage }

def setClosing (state : PublisherState) (caller : Closer) (stage : Closing) :
    PublisherState :=
  { state with closing := Function.update state.closing caller stage }

/-- `MetricsPublisher.start`. -/
def startTicks (state : PublisherState) : PublisherState :=
  if state.tickTask.isSome then state else { state with tickTask := some .running }

/-- `_tick_task.cancel()`. -/
def cancelTicks (state : PublisherState) : PublisherState :=
  if state.tickTask = some .running then { state with tickTask := some .cancelled }
  else state

/-- The state of the terminal snapshot. -/
def terminalState (state : PublisherState) : FinalizerId → MetricsSessionState
  | .ended => if state.interrupted then .interrupted else .complete
  | .sigterm _ => .interrupted

/-- `publish_final` with the lock held. -/
def enterFinal (state : PublisherState) (id : FinalizerId) : PublisherState :=
  if state.finalized then state.setFinalizer id .done
  else
    let locked := { state with finalized := true, lock := some id }
    if state.tickTask.isSome then locked.cancelTicks.setFinalizer id .awaitingTick
    else locked.setFinalizer id .writing

/-- `aclose` up to its await. -/
def enterClose (state : PublisherState) (caller : Closer) : PublisherState :=
  if state.closed then state.setClosing caller .done
  else if state.tickTask.isSome then
    ({ state with closed := true }.cancelTicks).setClosing caller .awaitingTick
  else { state with closed := true, open_ := false }.setClosing caller .done

def step (state : PublisherState) : PublisherLabel → Option PublisherState
  | .started =>
      if state.shutdownReceived || state.sessionStarted then some state
      else
        some { state with sessionStarted := true, sessionState := .live }.startTicks
  | .interruptedMarker =>
      if state.shutdownReceived then some state
      else some { state with interrupted := true }
  | .ended =>
      if state.shutdownReceived then some state
      else
        some ({ state with shutdownReceived := true, sessionState := .draining }.setFinalizer
          .ended .waiting)
  | .sigterm number =>
      if state.finalizer (.sigterm number) = .absent then
        some (state.setFinalizer (.sigterm number) .waiting)
      else none
  | .tick =>
      if state.tickTask = some .running then some (state.publish state.sessionState)
      else none
  | .tickExits =>
      if state.tickTask = some .cancelled then
        some { state with tickTask := some .exited }
      else none
  | .finalize id =>
      if state.finalizer id = .waiting ∧ state.lock = none then
        some (state.enterFinal id)
      else none
  | .tickGone id =>
      if state.finalizer id = .awaitingTick ∧ state.tickTask ≠ some .cancelled then
        some ({ state with tickTask := none }.setFinalizer id .writing)
      else none
  | .written id =>
      if state.finalizer id = .writing then
        some ({ state.publish (state.terminalState id) with
          lock := none }.setFinalizer id .done)
      else none
  | .drainFailed =>
      if state.finalizer .ended = .waiting then
        some (state.setFinalizer .ended .done)
      else none
  | .aclose caller =>
      if state.closing caller = .notCalled ∧
          (caller = .aggregator → state.finalizer .ended = .done) then
        some (state.enterClose caller)
      else none
  | .closeTransport caller =>
      if state.closing caller = .awaitingTick ∧ state.tickTask ≠ some .cancelled then
        some ({ state with tickTask := none, open_ := false }.setClosing caller .done)
      else none

/-! ## Forward only -/

/-- No tick runs into an open transport once finalization has begun, and the
published snapshots respect their order. -/
structure Forward (state : PublisherState) : Prop where
  holder : ∀ id, state.finalizer id = .awaitingTick ∨ state.finalizer id = .writing →
    state.lock = some id
  finalizing : state.lock ≠ none → state.finalized = true
  unfinished : state.finalized = false ∨ state.lock ≠ none →
    ∀ snapshot ∈ state.published, snapshot.terminal = false
  stillness : state.finalized = true → state.tickTask = some .running →
    state.open_ = false
  session : state.sessionState.terminal = false
  unstarted : state.sessionStarted = false → state.shutdownReceived = false →
    state.sessionState = .initializing
  below : ∀ snapshot ∈ state.published, snapshot.terminal = false →
    snapshot.rank ≤ state.sessionState.rank
  ordered : state.published.Pairwise fun earlier later => earlier.rank ≤ later.rank
  terminalLast : state.published.Pairwise fun earlier _ => earlier.terminal = false

namespace Forward

variable {state next : PublisherState}

/-- A step that publishes nothing. -/
theorem quiet (forward : state.Forward)
    (holder : ∀ id, next.finalizer id = .awaitingTick ∨ next.finalizer id = .writing →
      next.lock = some id)
    (lock : next.lock ≠ none → state.lock ≠ none)
    (finalized : next.finalized = state.finalized)
    (stillness : next.finalized = true → next.tickTask = some .running →
      next.open_ = false)
    (session : next.sessionState = state.sessionState)
    (sessionStarted : next.sessionStarted = state.sessionStarted)
    (shutdownReceived : next.shutdownReceived = state.shutdownReceived)
    (published : next.published = state.published) : next.Forward where
  holder := holder
  finalizing held := by rw [finalized]; exact forward.finalizing (lock held)
  unfinished condition := by
    rw [published]
    rw [finalized] at condition
    exact forward.unfinished (condition.imp_right lock)
  stillness := stillness
  session := by rw [session]; exact forward.session
  unstarted := by
    rw [sessionStarted, shutdownReceived, session]
    exact forward.unstarted
  below := by rw [published, session]; exact forward.below
  ordered := by rw [published]; exact forward.ordered
  terminalLast := by rw [published]; exact forward.terminalLast

/-- A finalizer moves between stages that do not hold the lock. -/
theorem restage (forward : state.Forward) {id : FinalizerId} {stage : Finalizer}
    (unlocked : stage ≠ .awaitingTick ∧ stage ≠ .writing) :
    (state.setFinalizer id stage).Forward := by
  refine forward.quiet ?_ (fun held => held) rfl forward.stillness rfl rfl rfl rfl
  intro other holds
  by_cases same : other = id
  · subst same
    simp [setFinalizer, unlocked] at holds
  · exact forward.holder other (by simpa [setFinalizer, same] using holds)

theorem cancelTicks_running (state : PublisherState) :
    state.cancelTicks.tickTask ≠ some .running := by
  unfold cancelTicks
  split
  · simp
  · rename_i notRunning
    exact notRunning

/-- The finalizer that gets the lock first. -/
theorem lockFinal (forward : state.Forward) (id : FinalizerId) (stage : Finalizer)
    {tickTask : Option TickTask} (unlocked : state.lock = none)
    (fresh : state.finalized = false) (stopped : tickTask ≠ some .running) :
    ({ state with finalized := true, lock := some id, tickTask := tickTask }.setFinalizer
      id stage).Forward where
  holder other holds := by
    by_cases same : other = id
    · rw [same]; rfl
    · have held := forward.holder other (by simpa [setFinalizer, same] using holds)
      rw [unlocked] at held
      simp at held
  finalizing _ := rfl
  unfinished _ := forward.unfinished (Or.inl fresh)
  stillness _ running := absurd running stopped
  session := forward.session
  unstarted := forward.unstarted
  below := forward.below
  ordered := forward.ordered
  terminalLast := forward.terminalLast

theorem finalize (forward : state.Forward) (id : FinalizerId)
    (unlocked : state.lock = none) : (state.enterFinal id).Forward := by
  unfold enterFinal
  split
  · exact forward.restage (by simp)
  · rename_i fresh
    have fresh : state.finalized = false := by simpa using fresh
    dsimp only
    split
    · have cancelled := forward.lockFinal id .awaitingTick unlocked
        fresh (cancelTicks_running state)
      unfold cancelTicks at cancelled ⊢
      split at cancelled
      · rename_i running
        rw [if_pos running]
        exact cancelled
      · rename_i notRunning
        rw [if_neg notRunning]
        exact cancelled
    · rename_i noTick
      have stopped : state.tickTask ≠ some .running := by
        intro running
        simp [running] at noTick
      exact forward.lockFinal id .writing unlocked fresh stopped

/-- A live or draining snapshot. -/
theorem tick (forward : state.Forward) (running : state.tickTask = some .running) :
    (state.publish state.sessionState).Forward := by
  unfold publish
  split
  · rename_i opened
    have fresh : state.finalized = false := by
      cases finalized : state.finalized with
      | false => rfl
      | true =>
          rw [forward.stillness finalized running] at opened
          simp at opened
    have before := forward.unfinished (Or.inl fresh)
    refine ⟨forward.holder, forward.finalizing, ?_, forward.stillness, forward.session,
      forward.unstarted, ?_, ?_, ?_⟩
    · intro _ snapshot member
      rcases List.mem_append.mp member with old | new
      · exact before snapshot old
      · rw [List.mem_singleton.mp new]
        exact forward.session
    · intro snapshot member notTerminal
      rcases List.mem_append.mp member with old | new
      · exact forward.below snapshot old notTerminal
      · obtain rfl := List.mem_singleton.mp new
        exact Nat.le_refl _
    · refine List.pairwise_append.mpr ⟨forward.ordered, List.pairwise_singleton _ _, ?_⟩
      intro earlier member later new
      rw [List.mem_singleton.mp new]
      exact forward.below earlier member (before earlier member)
    · refine List.pairwise_append.mpr
        ⟨forward.terminalLast, List.pairwise_singleton _ _, ?_⟩
      exact fun earlier member _ _ => before earlier member
  · exact forward

theorem terminalState_terminal (state : PublisherState) (id : FinalizerId) :
    (state.terminalState id).terminal = true ∧ (state.terminalState id).rank = 3 := by
  cases id with
  | ended =>
      simp only [terminalState]
      cases state.interrupted <;> exact ⟨rfl, rfl⟩
  | sigterm number => exact ⟨rfl, rfl⟩

theorem rank_le (snapshot : MetricsSessionState) : snapshot.rank ≤ 3 := by
  cases snapshot <;> decide

/-- The terminal snapshot. -/
theorem written (forward : state.Forward) {id : FinalizerId}
    (writing : state.finalizer id = .writing) :
    ({ state.publish (state.terminalState id) with lock := none }.setFinalizer id
      .done).Forward := by
  have held := forward.holder id (Or.inr writing)
  have finalized := forward.finalizing (by simp [held])
  have before := forward.unfinished (Or.inr (by simp [held]))
  have released : ∀ other, Function.update state.finalizer id .done other =
      .awaitingTick ∨ Function.update state.finalizer id .done other = .writing →
        none = some other := by
    intro other holds
    by_cases same : other = id
    · subst same
      simp at holds
    · have alsoHeld := forward.holder other (by simpa [same] using holds)
      rw [held] at alsoHeld
      exact absurd (Option.some.inj alsoHeld).symm same
  obtain ⟨terminal, rank⟩ := terminalState_terminal state id
  unfold publish
  split
  · refine ⟨released, nofun, ?_, forward.stillness, forward.session,
      forward.unstarted, ?_, ?_, ?_⟩
    · intro condition
      have unfinished : state.finalized = false :=
        condition.resolve_right fun held => held rfl
      rw [finalized] at unfinished
      simp at unfinished
    · intro snapshot member notTerminal
      rcases List.mem_append.mp member with old | new
      · exact forward.below snapshot old notTerminal
      · rw [List.mem_singleton.mp new, terminal] at notTerminal
        simp at notTerminal
    · refine List.pairwise_append.mpr ⟨forward.ordered, List.pairwise_singleton _ _, ?_⟩
      intro earlier _ later new
      rw [List.mem_singleton.mp new, rank]
      exact rank_le earlier
    · refine List.pairwise_append.mpr
        ⟨forward.terminalLast, List.pairwise_singleton _ _, ?_⟩
      exact fun earlier member _ _ => before earlier member
  · refine ⟨released, nofun, ?_, forward.stillness, forward.session,
      forward.unstarted, forward.below, forward.ordered, forward.terminalLast⟩
    exact fun _ => before

/-- The session state only moves forward. -/
theorem advance (forward : state.Forward) {sessionState : MetricsSessionState}
    {next : PublisherState} (further : state.sessionState.rank ≤ sessionState.rank)
    (running : sessionState.terminal = false)
    (holder : ∀ id, next.finalizer id = .awaitingTick ∨ next.finalizer id = .writing →
      next.lock = some id)
    (lock : next.lock = state.lock) (finalized : next.finalized = state.finalized)
    (stillness : next.finalized = true → next.tickTask = some .running →
      next.open_ = false)
    (session : next.sessionState = sessionState)
    (begun : next.sessionStarted = true ∨ next.shutdownReceived = true)
    (published : next.published = state.published) : next.Forward where
  holder := holder
  finalizing held := by
    rw [finalized]
    exact forward.finalizing (lock ▸ held)
  unfinished condition := by
    rw [published]
    rw [finalized, lock] at condition
    exact forward.unfinished condition
  stillness := stillness
  session := by rw [session]; exact running
  unstarted started shutdown := by
    rcases begun with begun | begun
    · rw [started] at begun; simp at begun
    · rw [shutdown] at begun; simp at begun
  below := by
    rw [published, session]
    exact fun snapshot member notTerminal =>
      Nat.le_trans (forward.below snapshot member notTerminal) further
  ordered := by rw [published]; exact forward.ordered
  terminalLast := by rw [published]; exact forward.terminalLast

end Forward

/-- The first STARTED does not arrive after finalization began while the
transport is still open. -/
def StartsInTime (state : PublisherState) : PublisherLabel → Prop
  | .started => state.sessionStarted = true ∨ state.shutdownReceived = true ∨
      state.finalized = false ∨ state.open_ = false
  | _ => True

theorem Forward.started {state : PublisherState} (forward : state.Forward)
    (unstarted : state.sessionStarted = false) (running : state.shutdownReceived = false)
    (inTime : state.finalized = false ∨ state.open_ = false) :
    ({ state with sessionStarted := true, sessionState := .live } :
      PublisherState).startTicks.Forward := by
  have initial := forward.unstarted unstarted running
  have further : state.sessionState.rank ≤ MetricsSessionState.live.rank := by
    rw [initial]; decide
  unfold startTicks
  split
  · exact forward.advance further rfl forward.holder rfl rfl forward.stillness rfl
      (Or.inl rfl) rfl
  · refine forward.advance further rfl forward.holder rfl rfl ?_ rfl (Or.inl rfl) rfl
    intro finalized _
    exact inTime.resolve_left fun fresh => by
      have finalized : state.finalized = true := finalized
      rw [fresh] at finalized
      simp at finalized

theorem Forward.ended {state : PublisherState} (forward : state.Forward) :
    ({ state with shutdownReceived := true, sessionState := .draining }.setFinalizer
      .ended .waiting).Forward := by
  have further : state.sessionState.rank ≤ MetricsSessionState.draining.rank := by
    have session := forward.session
    revert session
    cases state.sessionState <;> decide
  refine forward.advance further rfl ?_ rfl rfl forward.stillness rfl (Or.inr rfl) rfl
  intro id holds
  by_cases same : id = .ended
  · subst same
    simp [setFinalizer] at holds
  · exact forward.holder id (by simpa [setFinalizer, same] using holds)

theorem Forward.step {state next : PublisherState} {label : PublisherLabel}
    (forward : state.Forward) (inTime : state.StartsInTime label)
    (edge : state.step label = some next) : next.Forward := by
  cases label with
  | started =>
      simp only [PublisherState.step] at edge
      split at edge
      · obtain rfl := Option.some.inj edge
        exact forward
      · rename_i fresh
        obtain rfl := Option.some.inj edge
        simp only [Bool.or_eq_true, not_or, Bool.not_eq_true] at fresh
        have inTime : state.finalized = false ∨ state.open_ = false := by
          simpa [StartsInTime, fresh.1, fresh.2] using inTime
        exact forward.started fresh.2 fresh.1 inTime
  | interruptedMarker =>
      simp only [PublisherState.step] at edge
      split at edge
      · obtain rfl := Option.some.inj edge
        exact forward
      · obtain rfl := Option.some.inj edge
        exact forward.quiet forward.holder (fun held => held) rfl forward.stillness rfl
          rfl rfl rfl
  | ended =>
      simp only [PublisherState.step] at edge
      split at edge
      · obtain rfl := Option.some.inj edge
        exact forward
      · obtain rfl := Option.some.inj edge
        exact forward.ended
  | sigterm number =>
      simp only [PublisherState.step] at edge
      split at edge
      · obtain rfl := Option.some.inj edge
        exact forward.restage (by simp)
      · simp at edge
  | tick =>
      simp only [PublisherState.step] at edge
      split at edge
      · rename_i running
        obtain rfl := Option.some.inj edge
        exact forward.tick running
      · simp at edge
  | tickExits =>
      simp only [PublisherState.step] at edge
      split at edge
      · obtain rfl := Option.some.inj edge
        exact forward.quiet forward.holder (fun held => held) rfl (fun _ => nofun) rfl
          rfl rfl rfl
      · simp at edge
  | finalize id =>
      simp only [PublisherState.step] at edge
      split at edge
      · rename_i enabled
        obtain rfl := Option.some.inj edge
        exact forward.finalize id enabled.2
      · simp at edge
  | tickGone id =>
      simp only [PublisherState.step] at edge
      split at edge
      · rename_i enabled
        obtain rfl := Option.some.inj edge
        refine forward.quiet ?_ (fun held => held) rfl (fun _ => nofun) rfl rfl rfl rfl
        intro other holds
        by_cases same : other = id
        · subst same
          exact forward.holder other (Or.inl enabled.1)
        · exact forward.holder other (by simpa [setFinalizer, same] using holds)
      · simp at edge
  | written id =>
      simp only [PublisherState.step] at edge
      split at edge
      · rename_i writing
        obtain rfl := Option.some.inj edge
        exact forward.written writing
      · simp at edge
  | drainFailed =>
      simp only [PublisherState.step] at edge
      split at edge
      · obtain rfl := Option.some.inj edge
        exact forward.restage (by simp)
      · simp at edge
  | aclose caller =>
      simp only [PublisherState.step] at edge
      split at edge
      · obtain rfl := Option.some.inj edge
        unfold enterClose
        split
        · exact forward.quiet forward.holder (fun held => held) rfl forward.stillness rfl
            rfl rfl rfl
        · split
          · have cancelled := Forward.cancelTicks_running { state with closed := true }
            unfold cancelTicks at cancelled ⊢
            split at cancelled
            · rename_i running
              rw [if_pos running]
              exact forward.quiet forward.holder (fun held => held) rfl (fun _ => nofun)
                rfl rfl rfl rfl
            · rename_i notRunning
              rw [if_neg notRunning]
              exact forward.quiet forward.holder (fun held => held) rfl
                forward.stillness rfl rfl rfl rfl
          · exact forward.quiet forward.holder (fun held => held) rfl (fun _ _ => rfl) rfl
              rfl rfl rfl
      · simp at edge
  | closeTransport caller =>
      simp only [PublisherState.step] at edge
      split at edge
      · obtain rfl := Option.some.inj edge
        exact forward.quiet forward.holder (fun held => held) rfl (fun _ => nofun) rfl
          rfl rfl rfl
      · simp at edge

/-- The published states never go back, at most one of them is terminal, and
nothing is published after it. -/
def MovesForward (published : List MetricsSessionState) : Prop :=
  published.Pairwise (fun earlier later => earlier.rank ≤ later.rank) ∧
    (published.filter MetricsSessionState.terminal).length ≤ 1 ∧
      published.Pairwise fun earlier _ => earlier.terminal = false

instance (published : List MetricsSessionState) : Decidable (MovesForward published) := by
  unfold MovesForward
  infer_instance

theorem filter_terminal_length {published : List MetricsSessionState}
    (last : published.Pairwise fun earlier _ => earlier.terminal = false) :
    (published.filter MetricsSessionState.terminal).length ≤ 1 := by
  induction published with
  | nil => simp
  | cons head rest ih =>
      obtain ⟨first, restLast⟩ := List.pairwise_cons.mp last
      cases terminal : head.terminal with
      | false =>
          rw [List.filter_cons_of_neg (by simp [terminal])]
          exact ih restLast
      | true =>
          -- Nothing may follow a terminal snapshot, so it is the last one.
          cases rest with
          | nil => simp [terminal]
          | cons later _ =>
              have running := first later List.mem_cons_self
              rw [terminal] at running
              simp at running

/-- In every order of the three coroutines, the events and the closes, the
snapshots move forward as long as the first STARTED comes in time. -/
theorem snapshots_forward (labels : List PublisherLabel) {final : PublisherState}
    (ran : GuardedRuns.run step {} labels = some final)
    (inTime : GuardedRuns.Meets step StartsInTime {} labels) :
    MovesForward final.published := by
  have forward : final.Forward := by
    refine GuardedRuns.invariant_of_meets ?_ ?_ inTime ran
    · intro state next label forward met edge
      exact forward.step met edge
    · exact ⟨by simp, by simp, by simp, by simp, rfl, by simp, by simp, by simp, by simp⟩
  exact ⟨forward.ordered, filter_terminal_length forward.terminalLast,
    forward.terminalLast⟩

/-- A SIGTERM arrives while ENDED is being finalized. -/
theorem snapshots_forward_sigterm : ∃ final,
    GuardedRuns.run step {} [.started, .tick, .ended, .sigterm 0, .tick, .finalize .ended,
      .tickExits, .tickGone .ended, .written .ended, .finalize (.sigterm 0),
      .aclose .main] = some final ∧
      final.published = [.live, .draining, .complete] ∧ MovesForward final.published :=
  ⟨_, rfl, rfl, snapshots_forward [.started, .tick, .ended, .sigterm 0, .tick,
    .finalize .ended, .tickExits, .tickGone .ended, .written .ended,
    .finalize (.sigterm 0), .aclose .main] rfl (by simp [GuardedRuns.Meets, StartsInTime])⟩

/-- STARTED is processed while the SIGTERM finalizer writes the file: the tick
task it starts publishes a live snapshot after the terminal one. -/
theorem snapshots_back : ∃ final,
    GuardedRuns.run step {} [.sigterm 0, .finalize (.sigterm 0), .started,
      .written (.sigterm 0), .tick] = some final ∧
      final.published = [.interrupted, .live] ∧ ¬MovesForward final.published :=
  ⟨_, rfl, rfl, by decide⟩

end PublisherState

end InferenceEndpoint
