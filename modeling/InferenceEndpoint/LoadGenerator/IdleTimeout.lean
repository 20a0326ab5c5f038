import InferenceEndpoint.Library.GuardedRuns
import Mathlib.Tactic.Common

/-!
# The endpoint response idle timeout

One timer watches the requests in flight: it is armed when the first one is
issued and retired when the last one completes, when a phase starts and when the
session stops.  When it fires and the last response or the start of the current
stretch of requests is not old enough, it is armed again for the remainder.

What strategies, their callbacks and the session callback do between two awaits
is any sequence of issues and completions.  An earlier phase may leave a callback
behind that issues through its own issuer; nothing completes there, because
results go to the current issuer and an agentic strategy cancels its timeouts
when it ends.  The clock may advance between the two readings that an issue and
the timer make.
-/

namespace InferenceEndpoint.Liveness

/-- The counters of a `PhaseIssuer`. -/
structure Issuer where
  inflight : Nat := 0
  inflightStartedNs : Option Nat := none

/-- `_progress_timer`, with the time when it was armed. -/
structure ProgressTimer where
  armedNs : Nat
  deadlineNs : Nat

inductive FatalError
  | idleTimeout
  | receiverFailed
  deriving DecidableEq, Repr

/-- The liveness fields of a session.  The last two are observations of the
current phase: when its last response or chunk arrived, and when it last had its
first request in flight. -/
structure State where
  nowNs : Nat := 0
  stopRequested : Bool := false
  done : Bool := false
  fatalError : Option FatalError := none
  currentPhaseIssuer : Option Issuer := none
  earlierIssuers : List Issuer := []
  lastResponseProgressNs : Option Nat := none
  progressTimer : Option ProgressTimer := none
  phaseResponseNs : Option Nat := none
  phaseInflightNs : Option Nat := none

/-- What code of the load generator does to the counters. -/
inductive Effect
  | issue (elapsedNs : Nat)
  /-- `mark_inflight_complete`, for a result or a turn that timed out. -/
  | complete
  | issueEarlier (index elapsedNs : Nat)

inductive Label
  /-- `_run_phase` sets up the next phase. -/
  | startPhase
  /-- A strategy, one of its callbacks or one of its timers runs. -/
  | work (effects : List Effect)
  /-- A result or chunk arrives, of the current phase or of another one; its
  handling may raise. -/
  | respond (ofPhase : Bool) (effects : List Effect) (raises : Bool)
  | transportClosed
  | fire (elapsedNs : Nat)
  | stop
  /-- `run` ends. -/
  | finish
  | tick (elapsedNs : Nat)

namespace State

/-- `_disarm_endpoint_response_idle_timeout`. -/
def disarm (state : State) : State :=
  { state with progressTimer := none }

def arm (state : State) (delayNs : Nat) : State :=
  { state with progressTimer := some ⟨state.nowNs, state.nowNs + delayNs⟩ }

/-- `_on_inflight_started`. -/
def onInflightStarted (timeoutNs : Nat) (state : State) : State :=
  if state.progressTimer.isSome then state else state.arm timeoutNs

/-- The end of `PhaseIssuer.issue`, unless its stop check refuses. -/
def issueThrough (timeoutNs : Nat) (state : State) (issuer : Issuer) (elapsedNs : Nat) :
    State × Issuer :=
  if state.stopRequested then (state, issuer)
  else if issuer.inflight = 0 then
    (({ state with nowNs := state.nowNs + elapsedNs } : State).onInflightStarted timeoutNs,
      { inflight := 1, inflightStartedNs := some state.nowNs })
  else (state, { issuer with inflight := issuer.inflight + 1 })

/-- `mark_inflight_complete`; draining retires the timer. -/
def markInflightComplete (state : State) (issuer : Issuer) : State × Issuer :=
  if issuer.inflight = 0 then (state, issuer)
  else if issuer.inflight = 1 then (state.disarm, {})
  else (state, { issuer with inflight := issuer.inflight - 1 })

def setIssuer (state : State) (issuer : Issuer) : State :=
  { state with
      currentPhaseIssuer := some issuer
      phaseInflightNs := issuer.inflightStartedNs.or state.phaseInflightNs }

def apply (timeoutNs : Nat) (state : State) : Effect → State
  | .issue elapsedNs =>
      match state.currentPhaseIssuer with
      | none => state
      | some issuer =>
          let issued := state.issueThrough timeoutNs issuer elapsedNs
          issued.1.setIssuer issued.2
  | .complete =>
      match state.currentPhaseIssuer with
      | none => state
      | some issuer =>
          let completed := state.markInflightComplete issuer
          completed.1.setIssuer completed.2
  | .issueEarlier index elapsedNs =>
      match state.earlierIssuers[index]? with
      | none => state
      | some issuer =>
          let issued := state.issueThrough timeoutNs issuer elapsedNs
          { issued.1 with earlierIssuers := state.earlierIssuers.set index issued.2 }

def stop (state : State) : State :=
  { state.disarm with stopRequested := true }

/-- One round of `_receive_responses`: the stamp is read before the response is
handled and written after it. -/
def receive (timeoutNs : Nat) (state : State) (ofPhase : Bool) (effects : List Effect)
    (raises : Bool) : State :=
  let handled := effects.foldl (apply timeoutNs) state
  let arrived := { handled with
    phaseResponseNs := if ofPhase then some state.nowNs else handled.phaseResponseNs }
  if raises then
    { arrived.stop with fatalError := arrived.fatalError.or (some .receiverFailed) }
  else { arrived with lastResponseProgressNs := some state.nowNs }

/-- `_fire_endpoint_response_idle_timeout`. -/
def fire (timeoutNs : Nat) (state : State) (elapsedNs : Nat) : State :=
  let fired := state.disarm
  if state.done || state.stopRequested then fired
  else
    match state.currentPhaseIssuer with
    | none => fired
    | some issuer =>
        match issuer.inflightStartedNs with
        | none => fired
        | some inflightStartedNs =>
            if issuer.inflight = 0 then fired
            else
              let lastProgressNs :=
                max (state.lastResponseProgressNs.getD 0) inflightStartedNs
              let idleNs := state.nowNs - lastProgressNs
              if idleNs < timeoutNs then
                ({ fired with nowNs := state.nowNs + elapsedNs } : State).arm
                  (timeoutNs - idleNs)
              else
                { fired.stop with fatalError := state.fatalError.or (some .idleTimeout) }

/-- The head of `_run_phase`. -/
def startPhase (state : State) : State :=
  { state.disarm with
      lastResponseProgressNs := none
      currentPhaseIssuer := some {}
      earlierIssuers := state.earlierIssuers ++ state.currentPhaseIssuer.toList
      phaseResponseNs := none
      phaseInflightNs := none }

def step (timeoutNs : Nat) (state : State) : Label → Option State
  | .startPhase =>
      if !state.stopRequested && state.fatalError.isNone && !state.done &&
          (state.currentPhaseIssuer.all fun issuer => issuer.inflight = 0) then
        some state.startPhase
      else none
  | .work effects => some (effects.foldl (apply timeoutNs) state)
  | .respond ofPhase effects raises =>
      if state.done then none else some (state.receive timeoutNs ofPhase effects raises)
  | .transportClosed => some { state with stopRequested := true }
  | .fire elapsedNs =>
      if state.progressTimer.isSome then some (state.fire timeoutNs elapsedNs) else none
  | .stop => some state.stop
  | .finish => some { state.disarm with done := true }
  | .tick elapsedNs => some { state with nowNs := state.nowNs + elapsedNs }

/-! ## The guard -/

/-- A phase whose responses are stamped, or a session that was stopped. -/
def Stamped (state : State) : Prop :=
  state.stopRequested = true ∨ ∀ responseNs, state.phaseResponseNs = some responseNs →
    ∃ progressNs, state.lastResponseProgressNs = some progressNs ∧ responseNs ≤ progressNs

/-- What keeps the timer sound and armed. -/
structure Guarded (timeoutNs : Nat) (state : State) : Prop where
  stamped : state.Stamped
  clock : ∀ progressNs, state.lastResponseProgressNs = some progressNs →
    progressNs ≤ state.nowNs
  started : ∀ issuer, state.currentPhaseIssuer = some issuer → 0 < issuer.inflight →
    issuer.inflightStartedNs = state.phaseInflightNs ∧
      ∃ startedNs, state.phaseInflightNs = some startedNs ∧ startedNs ≤ state.nowNs
  idle : ∀ issuer, state.currentPhaseIssuer = some issuer → issuer.inflight = 0 →
    issuer.inflightStartedNs = none
  armed : ∀ issuer, state.currentPhaseIssuer = some issuer → 0 < issuer.inflight →
    state.stopRequested = false → state.done = false → state.progressTimer.isSome = true
  bounded : ∀ timer, state.progressTimer = some timer →
    timer.armedNs ≤ state.nowNs ∧ timer.deadlineNs ≤ timer.armedNs + timeoutNs

variable {timeoutNs : Nat} {state next : State}

/-- What the code between two awaits leaves alone. -/
structure Continues (first second : State) : Prop where
  nowNs : first.nowNs ≤ second.nowNs
  stopRequested : second.stopRequested = first.stopRequested
  done : second.done = first.done
  fatalError : second.fatalError = first.fatalError
  progress : second.lastResponseProgressNs = first.lastResponseProgressNs
  response : second.phaseResponseNs = first.phaseResponseNs

theorem Continues.refl (state : State) : Continues state state :=
  ⟨Nat.le_refl _, rfl, rfl, rfl, rfl, rfl⟩

theorem Continues.trans {first second third : State} (before : Continues first second)
    (after : Continues second third) : Continues first third :=
  ⟨Nat.le_trans before.nowNs after.nowNs, after.stopRequested.trans before.stopRequested,
    after.done.trans before.done, after.fatalError.trans before.fatalError,
    after.progress.trans before.progress, after.response.trans before.response⟩

theorem Continues.stamped {first second : State} (continues : Continues first second)
    (stamped : first.Stamped) : second.Stamped := by
  unfold Stamped
  rw [continues.stopRequested, continues.response, continues.progress]
  exact stamped

/-- Arming the timer after the clock advanced. -/
theorem continues_onInflightStarted (timeoutNs elapsedNs : Nat) (state : State) :
    Continues state (({ state with
      nowNs := state.nowNs + elapsedNs } : State).onInflightStarted timeoutNs) := by
  unfold onInflightStarted
  split
  · exact ⟨Nat.le_add_right _ _, rfl, rfl, rfl, rfl, rfl⟩
  · exact ⟨Nat.le_add_right _ _, rfl, rfl, rfl, rfl, rfl⟩

/-- An armed timer stays, and a new one is due after the timeout. -/
theorem onInflightStarted_timer (timeoutNs : Nat) (state : State)
    (bounded : ∀ timer, state.progressTimer = some timer →
      timer.armedNs ≤ state.nowNs ∧ timer.deadlineNs ≤ timer.armedNs + timeoutNs) :
    ∃ timer, (state.onInflightStarted timeoutNs).progressTimer = some timer ∧
      timer.armedNs ≤ state.nowNs ∧ timer.deadlineNs ≤ timer.armedNs + timeoutNs := by
  unfold onInflightStarted
  cases armed : state.progressTimer with
  | some timer =>
      refine ⟨timer, ?_, bounded timer armed⟩
      simp [armed]
  | none => exact ⟨_, rfl, Nat.le_refl _, Nat.le_refl _⟩

theorem onInflightStarted_issuers (timeoutNs : Nat) (state : State) :
    (state.onInflightStarted timeoutNs).currentPhaseIssuer = state.currentPhaseIssuer ∧
      (state.onInflightStarted timeoutNs).phaseInflightNs = state.phaseInflightNs ∧
      (state.onInflightStarted timeoutNs).nowNs = state.nowNs := by
  unfold onInflightStarted
  split <;> exact ⟨rfl, rfl, rfl⟩

/-- Issuing through the current issuer, which has a request in flight then. -/
theorem Guarded.issued (guarded : state.Guarded timeoutNs) {issuer : Issuer}
    (current : state.currentPhaseIssuer = some issuer) (elapsedNs : Nat) :
    ((state.issueThrough timeoutNs issuer elapsedNs).1.setIssuer
        (state.issueThrough timeoutNs issuer elapsedNs).2).Guarded timeoutNs ∧
      Continues state ((state.issueThrough timeoutNs issuer elapsedNs).1.setIssuer
        (state.issueThrough timeoutNs issuer elapsedNs).2) := by
  obtain ⟨stamped, clock, started, idle, armed, bounded⟩ := guarded
  unfold issueThrough
  split
  · -- The stop check refuses.
    refine ⟨⟨stamped, clock, ?_, ?_, ?_, bounded⟩, ⟨Nat.le_refl _, rfl, rfl, rfl, rfl, rfl⟩⟩
    · rintro _ ⟨⟩ inflight
      obtain ⟨same, startedNs, some_, notAfter⟩ := started issuer current inflight
      simp [setIssuer, same, some_, notAfter]
    · rintro _ ⟨⟩ empty
      exact idle issuer current empty
    · rintro _ ⟨⟩ inflight running
      exact armed issuer current inflight running
  · rename_i running
    split
    · have later : ∀ timer, ({ state with
          nowNs := state.nowNs + elapsedNs } : State).progressTimer = some timer →
            timer.armedNs ≤ state.nowNs + elapsedNs ∧
              timer.deadlineNs ≤ timer.armedNs + timeoutNs := by
        intro timer found
        obtain ⟨notAfter, due⟩ := bounded timer found
        exact ⟨Nat.le_trans notAfter (Nat.le_add_right _ _), due⟩
      have continues := continues_onInflightStarted timeoutNs elapsedNs state
      obtain ⟨timer, armedNow, armedNs, due⟩ := onInflightStarted_timer timeoutNs _ later
      have nowNs := (onInflightStarted_issuers timeoutNs
        { state with nowNs := state.nowNs + elapsedNs }).2.2
      refine ⟨⟨?_, ?_, ?_, ?_, ?_, ?_⟩, ?_⟩
      · exact continues.stamped stamped
      · intro progressNs progress
        have before := clock progressNs (continues.progress ▸ progress)
        exact Nat.le_trans before continues.nowNs
      · rintro _ ⟨⟩ _
        exact ⟨rfl, state.nowNs, rfl, continues.nowNs⟩
      · rintro _ ⟨⟩ empty
        simp at empty
      · rintro _ ⟨⟩ _ _ _
        simp [setIssuer, armedNow]
      · intro other found
        obtain rfl : timer = other := Option.some.inj (armedNow.symm.trans found)
        exact ⟨nowNs.symm ▸ armedNs, due⟩
      · exact ⟨continues.nowNs, continues.stopRequested, continues.done,
          continues.fatalError, continues.progress, continues.response⟩
    · rename_i busy
      have inflight : 0 < issuer.inflight := Nat.pos_of_ne_zero busy
      obtain ⟨same, startedNs, some_, notAfter⟩ := started issuer current inflight
      refine ⟨⟨stamped, clock, ?_, ?_, ?_, bounded⟩, ⟨Nat.le_refl _, rfl, rfl, rfl, rfl, rfl⟩⟩
      · rintro _ ⟨⟩ _
        simp [setIssuer, same, some_, notAfter]
      · rintro _ ⟨⟩ empty
        simp at empty
      · rintro _ ⟨⟩ _ notStopped notDone
        exact armed issuer current inflight notStopped notDone

/-- A completion; with the last one the timer is retired. -/
theorem Guarded.completed (guarded : state.Guarded timeoutNs) {issuer : Issuer}
    (current : state.currentPhaseIssuer = some issuer) :
    ((state.markInflightComplete issuer).1.setIssuer
        (state.markInflightComplete issuer).2).Guarded timeoutNs ∧
      Continues state ((state.markInflightComplete issuer).1.setIssuer
        (state.markInflightComplete issuer).2) := by
  obtain ⟨stamped, clock, started, idle, armed, bounded⟩ := guarded
  unfold markInflightComplete
  split
  · rename_i empty
    refine ⟨⟨stamped, clock, ?_, ?_, ?_, bounded⟩, ⟨Nat.le_refl _, rfl, rfl, rfl, rfl, rfl⟩⟩
    · rintro _ ⟨⟩ inflight
      exact absurd empty (Nat.ne_of_gt inflight)
    · rintro _ ⟨⟩ _
      exact idle issuer current empty
    · rintro _ ⟨⟩ inflight
      exact absurd empty (Nat.ne_of_gt inflight)
  · rename_i busy
    have inflight : 0 < issuer.inflight := Nat.pos_of_ne_zero busy
    obtain ⟨same, startedNs, some_, notAfter⟩ := started issuer current inflight
    split
    · refine ⟨⟨stamped, clock, ?_, ?_, ?_, nofun⟩, ⟨Nat.le_refl _, rfl, rfl, rfl, rfl, rfl⟩⟩
      · rintro _ ⟨⟩ inflight
        simp at inflight
      · rintro _ ⟨⟩ _
        rfl
      · rintro _ ⟨⟩ inflight
        simp at inflight
    · rename_i notLast
      refine ⟨⟨stamped, clock, ?_, ?_, ?_, bounded⟩, ⟨Nat.le_refl _, rfl, rfl, rfl, rfl, rfl⟩⟩
      · rintro _ ⟨⟩ _
        simp [setIssuer, same, some_, notAfter]
      · rintro _ ⟨⟩ empty
        dsimp only at empty
        omega
      · rintro _ ⟨⟩ _ notStopped notDone
        exact armed issuer current inflight notStopped notDone

/-- A callback of an earlier phase can arm the timer but not retire it. -/
theorem Guarded.issuedEarlier (guarded : state.Guarded timeoutNs) (issuer : Issuer)
    (index elapsedNs : Nat) :
    ({ (state.issueThrough timeoutNs issuer elapsedNs).1 with
        earlierIssuers := state.earlierIssuers.set index
          (state.issueThrough timeoutNs issuer elapsedNs).2 } : State).Guarded timeoutNs ∧
      Continues state { (state.issueThrough timeoutNs issuer elapsedNs).1 with
        earlierIssuers := state.earlierIssuers.set index
          (state.issueThrough timeoutNs issuer elapsedNs).2 } := by
  obtain ⟨stamped, clock, started, idle, armed, bounded⟩ := guarded
  unfold issueThrough
  split
  · exact ⟨⟨stamped, clock, started, idle, armed, bounded⟩,
      ⟨Nat.le_refl _, rfl, rfl, rfl, rfl, rfl⟩⟩
  · split
    · have later : ∀ timer, ({ state with
          nowNs := state.nowNs + elapsedNs } : State).progressTimer = some timer →
            timer.armedNs ≤ state.nowNs + elapsedNs ∧
              timer.deadlineNs ≤ timer.armedNs + timeoutNs := by
        intro timer found
        obtain ⟨notAfter, due⟩ := bounded timer found
        exact ⟨Nat.le_trans notAfter (Nat.le_add_right _ _), due⟩
      have continues := continues_onInflightStarted timeoutNs elapsedNs state
      obtain ⟨timer, armedNow, armedNs, due⟩ := onInflightStarted_timer timeoutNs _ later
      obtain ⟨currentIssuer, phaseInflight, nowNs⟩ := onInflightStarted_issuers timeoutNs
        { state with nowNs := state.nowNs + elapsedNs }
      refine ⟨⟨?_, ?_, ?_, ?_, ?_, ?_⟩, ?_⟩
      · exact continues.stamped stamped
      · intro progressNs progress
        have before := clock progressNs (continues.progress ▸ progress)
        exact Nat.le_trans before continues.nowNs
      · intro other found inflight
        obtain ⟨same, startedNs, some_, notAfter⟩ :=
          started other (currentIssuer.symm.trans found) inflight
        exact ⟨same.trans phaseInflight.symm, startedNs, phaseInflight.trans some_,
          Nat.le_trans notAfter continues.nowNs⟩
      · intro other found empty
        exact idle other (currentIssuer.symm.trans found) empty
      · intro other found _ _ _
        simp [armedNow]
      · intro other found
        obtain rfl : timer = other := Option.some.inj (armedNow.symm.trans found)
        exact ⟨nowNs.symm ▸ armedNs, due⟩
      · exact ⟨continues.nowNs, continues.stopRequested, continues.done,
          continues.fatalError, continues.progress, continues.response⟩
    · exact ⟨⟨stamped, clock, started, idle, armed, bounded⟩,
        ⟨Nat.le_refl _, rfl, rfl, rfl, rfl, rfl⟩⟩

theorem Guarded.apply (guarded : state.Guarded timeoutNs) (effect : Effect) :
    (state.apply timeoutNs effect).Guarded timeoutNs ∧
      Continues state (state.apply timeoutNs effect) := by
  cases effect with
  | issue elapsedNs =>
      unfold State.apply
      cases current : state.currentPhaseIssuer with
      | none => exact ⟨guarded, .refl state⟩
      | some issuer => exact guarded.issued current elapsedNs
  | complete =>
      unfold State.apply
      cases current : state.currentPhaseIssuer with
      | none => exact ⟨guarded, .refl state⟩
      | some issuer => exact guarded.completed current
  | issueEarlier index elapsedNs =>
      unfold State.apply
      cases found : state.earlierIssuers[index]? with
      | none => simpa [found] using ⟨guarded, Continues.refl state⟩
      | some issuer => simpa [found] using guarded.issuedEarlier issuer index elapsedNs

theorem Guarded.applyAll (guarded : state.Guarded timeoutNs) (effects : List Effect) :
    (effects.foldl (State.apply timeoutNs) state).Guarded timeoutNs ∧
      Continues state (effects.foldl (State.apply timeoutNs) state) := by
  induction effects generalizing state with
  | nil => exact ⟨guarded, .refl state⟩
  | cons effect effects induction =>
      obtain ⟨applied, continues⟩ := guarded.apply effect
      obtain ⟨rest, continuesRest⟩ := induction applied
      exact ⟨rest, continues.trans continuesRest⟩

/-- Stopping retires the timer and needs none. -/
theorem Guarded.stopped (guarded : state.Guarded timeoutNs) : state.stop.Guarded timeoutNs :=
  ⟨Or.inl rfl, guarded.clock, guarded.started, guarded.idle, nofun, nofun⟩

theorem Guarded.receive (guarded : state.Guarded timeoutNs) (ofPhase : Bool)
    (effects : List Effect) (raises : Bool) :
    (state.receive timeoutNs ofPhase effects raises).Guarded timeoutNs := by
  obtain ⟨handled, continues⟩ := guarded.applyAll effects
  unfold State.receive
  dsimp only
  split
  · exact ⟨Or.inl rfl, handled.clock, handled.started, handled.idle, nofun, nofun⟩
  · refine ⟨?_, ?_, handled.started, handled.idle, handled.armed, handled.bounded⟩
    · -- The stamp is the arrival, and older responses were stamped before it.
      refine guarded.stamped.imp (fun stop => continues.stopRequested.trans stop) ?_
      intro stamps responseNs response
      refine ⟨state.nowNs, rfl, ?_⟩
      dsimp only at response
      split at response
      · obtain rfl := Option.some.inj response
        exact Nat.le_refl _
      · obtain ⟨progressNs, progress, notAfter⟩ :=
          stamps responseNs (continues.response ▸ response)
        exact Nat.le_trans notAfter (guarded.clock progressNs progress)
    · rintro _ ⟨⟩
      exact continues.nowNs

/-- What the timer does when it fires: nothing while there is nothing to watch,
a new deadline after recent progress, and a failure otherwise. -/
theorem fire_cases (timeoutNs : Nat) (state : State) (elapsedNs : Nat) :
    (state.fire timeoutNs elapsedNs = state.disarm ∧
      (state.stopRequested = true ∨ state.done = true ∨
        ∀ issuer, state.currentPhaseIssuer = some issuer →
          issuer.inflightStartedNs = none ∨ issuer.inflight = 0)) ∨
    ∃ issuer inflightStartedNs, state.currentPhaseIssuer = some issuer ∧
      issuer.inflightStartedNs = some inflightStartedNs ∧ 0 < issuer.inflight ∧
      ((∃ delayNs ≤ timeoutNs, state.fire timeoutNs elapsedNs =
          ({ state.disarm with nowNs := state.nowNs + elapsedNs } : State).arm delayNs) ∨
        (timeoutNs ≤ state.nowNs -
            max (state.lastResponseProgressNs.getD 0) inflightStartedNs ∧
          state.fire timeoutNs elapsedNs = { state.disarm.stop with
            fatalError := state.fatalError.or (some .idleTimeout) })) := by
  unfold fire
  dsimp only
  split
  · rename_i elapsed
    refine Or.inl ⟨rfl, ?_⟩
    cases stopped : state.stopRequested with
    | true => exact Or.inl rfl
    | false => exact Or.inr (Or.inl (by simpa [stopped] using elapsed))
  · split
    · rename_i none_
      exact Or.inl ⟨rfl, Or.inr (Or.inr (by simp [none_]))⟩
    · rename_i issuer current
      split
      · rename_i unstarted
        refine Or.inl ⟨rfl, Or.inr (Or.inr ?_)⟩
        rintro other found
        obtain rfl := Option.some.inj (current.symm.trans found)
        exact Or.inl unstarted
      · rename_i inflightStartedNs started
        split
        · rename_i empty
          refine Or.inl ⟨rfl, Or.inr (Or.inr ?_)⟩
          rintro other found
          obtain rfl := Option.some.inj (current.symm.trans found)
          exact Or.inr empty
        · rename_i busy
          refine Or.inr ⟨issuer, inflightStartedNs, current, started,
            Nat.pos_of_ne_zero busy, ?_⟩
          split
          · exact Or.inl ⟨_, Nat.sub_le _ _, rfl⟩
          · rename_i old
            exact Or.inr ⟨Nat.le_of_not_lt old, rfl⟩

/-- The timer is only given up when there is nothing to watch. -/
theorem Guarded.fired (guarded : state.Guarded timeoutNs) (elapsedNs : Nat) :
    (state.fire timeoutNs elapsedNs).Guarded timeoutNs := by
  obtain ⟨stamped, clock, started, idle, armed, bounded⟩ := guarded
  rcases fire_cases timeoutNs state elapsedNs with ⟨equal, unwatched⟩ |
    ⟨issuer, inflightStartedNs, current, since, inflight,
      ⟨delayNs, atMost, equal⟩ | ⟨_, equal⟩⟩
  · rw [equal]
    refine ⟨stamped, clock, started, idle, ?_, nofun⟩
    intro issuer found inflight running notDone
    rcases unwatched with stop | done | nothing
    · exact absurd (running.symm.trans stop) (by simp)
    · exact absurd (notDone.symm.trans done) (by simp)
    · rcases nothing issuer found with unstarted | empty
      · obtain ⟨same, startedNs, some_, _⟩ := started issuer found inflight
        simp [same, some_] at unstarted
      · omega
  · rw [equal]
    refine ⟨stamped, ?_, ?_, idle, fun _ _ _ _ _ => rfl, ?_⟩
    · intro progressNs progress
      exact Nat.le_trans (clock progressNs progress) (Nat.le_add_right _ _)
    · intro other found inflight
      obtain ⟨same, startedNs, some_, notAfter⟩ := started other found inflight
      exact ⟨same, startedNs, some_, Nat.le_trans notAfter (Nat.le_add_right _ _)⟩
    · rintro timer ⟨⟩
      exact ⟨Nat.le_refl _, Nat.add_le_add_left atMost _⟩
  · rw [equal]
    exact ⟨Or.inl rfl, clock, started, idle, nofun, nofun⟩

theorem Guarded.step {label : Label} (guarded : state.Guarded timeoutNs)
    (edge : state.step timeoutNs label = some next) : next.Guarded timeoutNs := by
  cases label with
  | startPhase =>
      simp only [State.step] at edge
      split at edge
      · obtain rfl := Option.some.inj edge
        refine ⟨Or.inr nofun, nofun, ?_, ?_, ?_, nofun⟩
        · rintro _ ⟨⟩ inflight
          simp at inflight
        · rintro _ ⟨⟩ _
          rfl
        · rintro _ ⟨⟩ inflight
          simp at inflight
      · simp at edge
  | work effects =>
      obtain rfl := Option.some.inj edge
      exact (guarded.applyAll effects).1
  | respond ofPhase effects raises =>
      simp only [State.step] at edge
      split at edge
      · simp at edge
      · obtain rfl := Option.some.inj edge
        exact guarded.receive ofPhase effects raises
  | transportClosed =>
      obtain rfl := Option.some.inj edge
      exact ⟨Or.inl rfl, guarded.clock, guarded.started, guarded.idle, nofun, guarded.bounded⟩
  | fire elapsedNs =>
      simp only [State.step] at edge
      split at edge
      · obtain rfl := Option.some.inj edge
        exact guarded.fired elapsedNs
      · simp at edge
  | stop =>
      obtain rfl := Option.some.inj edge
      exact guarded.stopped
  | finish =>
      obtain rfl := Option.some.inj edge
      exact ⟨guarded.stamped, guarded.clock, guarded.started, guarded.idle,
        fun _ _ _ _ => nofun, nofun⟩
  | tick elapsedNs =>
      obtain rfl := Option.some.inj edge
      refine ⟨guarded.stamped, ?_, ?_, guarded.idle, guarded.armed, ?_⟩
      · intro progressNs progress
        exact Nat.le_trans (guarded.clock progressNs progress) (Nat.le_add_right _ _)
      · intro issuer found inflight
        obtain ⟨same, startedNs, some_, notAfter⟩ := guarded.started issuer found inflight
        exact ⟨same, startedNs, some_, Nat.le_trans notAfter (Nat.le_add_right _ _)⟩
      · intro timer found
        obtain ⟨notAfter, due⟩ := guarded.bounded timer found
        exact ⟨Nat.le_trans notAfter (Nat.le_add_right _ _), due⟩

theorem guarded_initial (timeoutNs : Nat) : Guarded timeoutNs {} :=
  ⟨Or.inr nofun, nofun, nofun, nofun, nofun, nofun⟩

/-- Only the timer reports an idle timeout. -/
theorem fires_of_idleTimeout {label : Label} (edge : state.step timeoutNs label = some next)
    (guarded : state.Guarded timeoutNs) (before : state.fatalError ≠ some .idleTimeout)
    (failed : next.fatalError = some .idleTimeout) :
    ∃ elapsedNs, next = state.fire timeoutNs elapsedNs ∧ state.stopRequested = false := by
  cases label with
  | startPhase =>
      simp only [State.step] at edge
      split at edge
      · obtain rfl := Option.some.inj edge
        exact absurd failed before
      · simp at edge
  | work effects =>
      obtain rfl := Option.some.inj edge
      rw [(guarded.applyAll effects).2.fatalError] at failed
      exact absurd failed before
  | respond ofPhase effects raises =>
      have kept := (guarded.applyAll effects).2.fatalError
      simp only [State.step] at edge
      split at edge
      · simp at edge
      · obtain rfl := Option.some.inj edge
        unfold receive at failed
        dsimp only at failed
        split at failed
        · dsimp only at failed
          rw [kept] at failed
          cases error : state.fatalError with
          | none => simp [error] at failed
          | some fatal => exact absurd (by simpa [error] using failed) before
        · rw [kept] at failed
          exact absurd failed before
  | transportClosed | stop | finish | tick =>
      obtain rfl := Option.some.inj edge
      exact absurd failed before
  | fire elapsedNs =>
      simp only [State.step] at edge
      split at edge
      · obtain rfl := Option.some.inj edge
        refine ⟨elapsedNs, rfl, ?_⟩
        cases stopped : state.stopRequested with
        | false => rfl
        | true =>
            rw [fire, stopped, Bool.or_true] at failed
            exact absurd failed before
      · simp at edge

/-- One request that is never answered. -/
def silent : List Label :=
  [.startPhase, .work [.issue 1], .tick 4]

end State

end InferenceEndpoint.Liveness
