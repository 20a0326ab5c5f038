import InferenceEndpoint.EndpointClient.PoolOwnership

/-!
# Wakeups of waiting acquirers

What is free in the pool is covered by notified acquirers that have not run yet, as long
as no slot is given back without a notification and no notified acquirer is cancelled
while others wait.
-/

namespace InferenceEndpoint

namespace ConnectionPool

/-- Connections that may still be made. -/
def slots (pool : ConnectionPool) : Nat :=
  match pool.maxConnections with
  | none => 0
  | some maxConnections => maxConnections - (pool.allConnections.card + pool.creating)

/-- Idle connections and connections that may still be made. -/
def units (pool : ConnectionPool) : Nat :=
  pool.idleStack.length + pool.slots

/-- There is an idle connection, or one may be made. -/
def free (pool : ConnectionPool) : Bool :=
  !pool.idleStack.isEmpty || pool.canCreateConnection

theorem units_le {pool next : ConnectionPool}
    (maxConnections : next.maxConnections = pool.maxConnections)
    (idle : next.idleStack = pool.idleStack)
    (used : pool.allConnections.card + pool.creating ≤
      next.allConnections.card + next.creating) : next.units ≤ pool.units := by
  unfold units slots
  rw [idle, maxConnections]
  cases pool.maxConnections with
  | none => exact le_refl _
  | some limit =>
      dsimp only
      omega

theorem units_closeConnection (pool : ConnectionPool) (id : ConnectionId) :
    (pool.closeConnection id).units ≤ pool.units + 1 := by
  have card := Finset.pred_card_le_card_erase (s := pool.allConnections) (a := id)
  unfold units slots closeConnection setConnection
  dsimp only
  cases pool.maxConnections with
  | none => exact Nat.le_succ _
  | some limit =>
      dsimp only
      omega

theorem units_unreserve (pool : ConnectionPool) : pool.unreserve.units ≤ pool.units + 1 := by
  unfold units slots unreserve
  dsimp only
  cases pool.maxConnections with
  | none => exact Nat.le_succ _
  | some limit =>
      dsimp only
      omega

/-- Popping leaves no more units, and one fewer if it hands a connection out. -/
theorem units_popIdle (readable : ConnectionId → Bool) (stack : List ConnectionId)
    (pool : ConnectionPool) :
    (popIdle readable stack pool).2.units +
        (if (popIdle readable stack pool).1.isSome then 1 else 0) ≤
      stack.length + pool.slots ∧
    (popIdle readable stack pool).2.maxConnections = pool.maxConnections ∧
    (popIdle readable stack pool).2.waiters = pool.waiters ∧
    ((popIdle readable stack pool).1 = none →
      (popIdle readable stack pool).2.idleStack = []) := by
  induction stack generalizing pool with
  | nil => exact ⟨le_refl _, rfl, rfl, fun _ => rfl⟩
  | cons id rest ih =>
      unfold popIdle
      split
      · refine ⟨?_, rfl, rfl, (by simp)⟩
        simp only [units, slots, checkOut, setConnection, Option.isSome_some, if_true,
          List.length_cons]
        omega
      · obtain ⟨fewer, maxConnections, waiters, empty⟩ := ih (pool.closeConnection id)
        refine ⟨?_, maxConnections, waiters, empty⟩
        have closed := pool.units_closeConnection id
        have idle : (pool.closeConnection id).idleStack = pool.idleStack := rfl
        unfold units at closed
        rw [idle] at closed
        rw [List.length_cons]
        omega

theorem units_pos {pool : ConnectionPool} {limit : Nat}
    (limited : pool.maxConnections = some limit) (free : pool.free = true) : 0 < pool.units := by
  unfold ConnectionPool.free canCreateConnection at free
  unfold units slots
  rw [limited] at free ⊢
  dsimp only at free ⊢
  cases idle : pool.idleStack with
  | nil =>
      simp only [idle, List.isEmpty_nil, Bool.not_true, Bool.false_or, decide_eq_true_eq] at free
      omega
  | cons id rest =>
      rw [List.length_cons]
      omega

theorem slots_of_full {pool : ConnectionPool} (full : pool.canCreateConnection = false) :
    pool.slots = 0 := by
  unfold canCreateConnection at full
  unfold slots
  cases limited : pool.maxConnections with
  | none => rfl
  | some limit =>
      simp only [limited, decide_eq_false_iff_not] at full
      dsimp only
      omega

end ConnectionPool

/-! ## Notified acquirers -/

/-- So many acquirers are notified and have not run yet. -/
def Notified (count : Nat) (stage : RequestId → AcquireStage) : Prop :=
  ∃ requests : Finset RequestId,
    (∀ request, request ∈ requests ↔ stage request = .woken) ∧ requests.card = count

namespace Notified

variable {count : Nat} {stage : RequestId → AcquireStage}

theorem congr {other : RequestId → AcquireStage} (notified : Notified count stage)
    (same : ∀ request, other request = .woken ↔ stage request = .woken) :
    Notified count other := by
  obtain ⟨requests, members, card⟩ := notified
  exact ⟨requests, fun request => by rw [members, same], card⟩

/-- A request that was not notified and is not. -/
theorem update (notified : Notified count stage) {request : RequestId} {after : AcquireStage}
    (before : stage request ≠ .woken) (different : after ≠ .woken) :
    Notified count (Function.update stage request after) := by
  refine notified.congr fun other => ?_
  by_cases same : other = request
  · subst same; simp [before, different]
  · simp [same]

theorem add (notified : Notified count stage) {request : RequestId}
    (before : stage request ≠ .woken) :
    Notified (count + 1) (Function.update stage request .woken) := by
  obtain ⟨requests, members, card⟩ := notified
  have absent : request ∉ requests := by simp [members, before]
  refine ⟨insert request requests, fun other => ?_, by
    rw [Finset.card_insert_of_notMem absent, card]⟩
  by_cases same : other = request
  · subst same; simp
  · simp [same, members]

theorem remove (notified : Notified count stage) {request : RequestId} {after : AcquireStage}
    (before : stage request = .woken) (different : after ≠ .woken) :
    0 < count ∧ Notified (count - 1) (Function.update stage request after) := by
  obtain ⟨requests, members, card⟩ := notified
  have present : request ∈ requests := (members request).mpr before
  refine ⟨card ▸ Finset.card_pos.mpr ⟨request, present⟩, requests.erase request,
    fun other => ?_, by rw [Finset.card_erase_of_mem present, card]⟩
  by_cases same : other = request
  · subst same; simp [different]
  · simp [same, members]

end Notified

namespace PoolState

/-- While an acquirer waits and something is free, an acquirer is notified and has not run
yet. -/
def Wakeful (state : PoolState) : Prop :=
  (∃ request, state.stage request = .waiting) → state.pool.free = true →
    ∃ request, state.stage request = .woken

/-- No connection attempt fails or is cancelled, and no notified acquirer is cancelled,
while an acquirer waits. -/
def PassesOn (state : PoolState) : PoolLabel → Prop
  | .connectFailed _ => ∀ other, state.stage other ≠ .waiting
  | .cancel request =>
      state.stage request = .waiting ∨ ∀ other, state.stage other ≠ .waiting
  | _ => True

/-- The notified acquirers cover what is free while others wait. -/
structure Covered (state : PoolState) : Prop where
  queued : ∀ request, state.stage request = .waiting → request ∈ state.pool.waiters
  unlimited : state.pool.maxConnections = none → ∀ request, state.stage request ≠ .waiting
  notified : ∃ count, Notified count state.stage ∧
    ((∃ request, state.stage request = .waiting) → state.pool.units ≤ count)

theorem Covered.wakeful {state : PoolState} (covered : state.Covered) : state.Wakeful := by
  rintro ⟨request, waiting⟩ free
  obtain ⟨count, ⟨requests, members, card⟩, covers⟩ := covered.notified
  cases limited : state.pool.maxConnections with
  | none => exact absurd waiting (covered.unlimited limited request)
  | some limit =>
      have units := ConnectionPool.units_pos limited free
      have some : 0 < requests.card := by
        rw [card]
        exact units.trans_le (covers ⟨request, waiting⟩)
      obtain ⟨woken, member⟩ := Finset.card_pos.mp some
      exact ⟨woken, (members woken).mp member⟩

/-- A state in which nobody waits is covered. -/
theorem Covered.of_nobody {state : PoolState} {count : Nat}
    (nobody : ∀ request, state.stage request ≠ .waiting)
    (notified : Notified count state.stage) : state.Covered where
  queued request waiting := absurd waiting (nobody request)
  unlimited _ := nobody
  notified := ⟨count, notified, fun ⟨request, waiting⟩ => absurd waiting (nobody request)⟩

/-- One unit that the notified acquirers do not cover, before a notification. -/
structure AlmostCovered (queue : List RequestId) (state : PoolState) : Prop where
  queued : ∀ request, state.stage request = .waiting → request ∈ queue
  unlimited : state.pool.maxConnections = none → ∀ request, state.stage request ≠ .waiting
  notified : ∃ count, Notified count state.stage ∧
    ((∃ request, state.stage request = .waiting) → state.pool.units ≤ count + 1)

theorem AlmostCovered.notifyLoop {queue : List RequestId} {state : PoolState}
    (almost : state.AlmostCovered queue) : (PoolState.notifyLoop queue state).Covered := by
  induction queue generalizing state with
  | nil =>
      obtain ⟨count, notified, -⟩ := almost.notified
      exact Covered.of_nobody (fun request waiting => by simpa using almost.queued request waiting)
        notified
  | cons head rest ih =>
      unfold PoolState.notifyLoop
      split
      · rename_i waiting
        obtain ⟨count, notified, covers⟩ := almost.notified
        have others : ∀ request, (state.setStage head .woken).stage request = .waiting →
            request ≠ head ∧ state.stage request = .waiting := by
          intro request waits
          by_cases same : request = head
          · subst same
            simp [PoolState.setStage] at waits
          · exact ⟨same, by simpa [PoolState.setStage, same] using waits⟩
        refine ⟨fun request waits => ?_, fun unlimited request waits => ?_,
          count + 1, notified.add (by simp [waiting]), fun _ => covers ⟨head, waiting⟩⟩
        · obtain ⟨different, before⟩ := others request waits
          exact (List.mem_cons.mp (almost.queued request before)).resolve_left different
        · exact almost.unlimited unlimited request (others request waits).2
      · rename_i done
        refine ih ⟨fun request waiting => ?_, almost.unlimited, almost.notified⟩
        rcases List.mem_cons.mp (almost.queued request waiting) with rfl | member
        · exact absurd waiting done
        · exact member

theorem Covered.release {state : PoolState} (covered : state.Covered) (id : ConnectionId) :
    (state.release id).Covered := by
  obtain ⟨count, notified, covers⟩ := covered.notified
  unfold PoolState.release
  dsimp only
  split
  · exact covered
  · split
    · refine AlmostCovered.notifyLoop ⟨covered.queued, covered.unlimited, count, notified, ?_⟩
      intro waiting
      exact (state.pool.units_closeConnection id).trans (Nat.succ_le_succ (covers waiting))
    · refine AlmostCovered.notifyLoop ⟨covered.queued, covered.unlimited, count, notified, ?_⟩
      intro waiting
      have before := covers waiting
      unfold ConnectionPool.units ConnectionPool.slots at before ⊢
      simp only [ConnectionPool.setConnection, List.length_cons]
      omega

/-- A request that is not waiting takes a unit or queues up, and all that is free goes to
the others. -/
theorem takeOrCreate_covered {state : PoolState} {request : RequestId}
    (readable : ConnectionId → Bool) {count : Nat}
    (queued : ∀ other, other ≠ request → state.stage other = .waiting →
      other ∈ state.pool.waiters)
    (unlimited : state.pool.maxConnections = none → ∀ other, state.stage other ≠ .waiting)
    (notified : ∀ after, after ≠ .woken →
      Notified count (Function.update state.stage request after))
    (covers : (∃ other, state.stage other = .waiting) → state.pool.units ≤ count + 1) :
    (state.takeOrCreate request readable).Covered := by
  obtain ⟨fewer, maxConnections, waiters, empty⟩ :=
    ConnectionPool.units_popIdle readable state.pool.idleStack state.pool
  have others : ∀ (after : AcquireStage) other, after ≠ .waiting →
      Function.update state.stage request after other = .waiting →
        other ≠ request ∧ state.stage other = .waiting := by
    intro after other different waits
    by_cases same : other = request
    · subst same
      exact absurd (by simpa using waits) different
    · exact ⟨same, by simpa [same] using waits⟩
  unfold PoolState.takeOrCreate ConnectionPool.tryGetIdle
  generalize ConnectionPool.popIdle readable state.pool.idleStack state.pool = outcome at *
  obtain ⟨taken, next⟩ := outcome
  change next.units + (if taken.isSome then 1 else 0) ≤ state.pool.units at fewer
  dsimp only at maxConnections waiters empty
  cases taken with
  | some id =>
      refine ⟨fun other waits => ?_, fun boundless other waits => ?_, count,
        notified (.holding id) (by simp), fun someone => ?_⟩
      · obtain ⟨different, before⟩ := others (.holding id) other (by simp) waits
        exact waiters ▸ queued other different before
      · exact unlimited (maxConnections ▸ boundless) other
          (others (.holding id) other (by simp) waits).2
      · obtain ⟨other, waits⟩ := someone
        have before := covers ⟨other, (others (.holding id) other (by simp) waits).2⟩
        simp only [Option.isSome_some, if_true] at fewer
        change next.units ≤ count
        omega
  | none =>
      dsimp only
      split
      · rename_i room
        refine ⟨fun other waits => ?_, fun boundless other waits => ?_, count,
          notified .queued (by simp), fun someone => ?_⟩
        · obtain ⟨different, before⟩ := others .queued other (by simp) waits
          exact waiters ▸ queued other different before
        · exact unlimited (maxConnections ▸ boundless) other
            (others .queued other (by simp) waits).2
        · obtain ⟨other, waits⟩ := someone
          have waiting := (others .queued other (by simp) waits).2
          have before := covers ⟨other, waiting⟩
          cases limited : state.pool.maxConnections with
          | none => exact absurd waiting (unlimited limited other)
          | some limit =>
              rw [limited] at maxConnections
              simp only [ConnectionPool.canCreateConnection, maxConnections,
                decide_eq_true_eq] at room
              simp only [ConnectionPool.units, ConnectionPool.slots, maxConnections,
                PoolState.setStage] at fewer before ⊢
              simp only [Option.isSome_none, Bool.false_eq_true, if_false] at fewer
              omega
      · rename_i full
        have full : next.canCreateConnection = false := by simpa using full
        refine ⟨fun other waits => ?_, fun boundless => ?_, count, notified .waiting (by simp),
          fun _ => ?_⟩
        · by_cases same : other = request
          · subst same
            exact List.mem_append_right _ List.mem_cons_self
          · have before : state.stage other = .waiting := by
              simpa [PoolState.setStage, same] using waits
            exact List.mem_append_left _ (waiters ▸ queued other same before)
        · have boundless : next.maxConnections = none := boundless
          simp [ConnectionPool.canCreateConnection, boundless] at full
        · have nothing : next.units = 0 := by
            unfold ConnectionPool.units
            rw [empty rfl, ConnectionPool.slots_of_full full]
            rfl
          exact le_of_eq_of_le nothing (Nat.zero_le _)

/-- A request that does not wait changes to a stage in which it does not either. -/
theorem Covered.setStage {state : PoolState} (covered : state.Covered) {request : RequestId}
    {after : AcquireStage} (before : state.stage request ≠ .woken) (notWoken : after ≠ .woken)
    (notWaiting : after ≠ .waiting) : (state.setStage request after).Covered := by
  have waiting : ∀ other, (state.setStage request after).stage other = .waiting →
      state.stage other = .waiting := by
    intro other waits
    by_cases same : other = request
    · subst same
      exact absurd (by simpa [PoolState.setStage] using waits) notWaiting
    · simpa [PoolState.setStage, same] using waits
  obtain ⟨count, notified, covers⟩ := covered.notified
  exact ⟨fun other waits => covered.queued other (waiting other waits),
    fun none other waits => covered.unlimited none other (waiting other waits),
    count, notified.update before notWoken,
    fun someone => covers (someone.imp waiting)⟩

/-- The pool changes without more becoming free. -/
theorem Covered.repool {state : PoolState} (covered : state.Covered) {pool : ConnectionPool}
    (waiters : ∀ request, state.stage request = .waiting → request ∈ state.pool.waiters →
      request ∈ pool.waiters)
    (maxConnections : pool.maxConnections = state.pool.maxConnections)
    (fewer : pool.units ≤ state.pool.units) : ({ state with pool := pool } : PoolState).Covered := by
  obtain ⟨count, notified, covers⟩ := covered.notified
  exact ⟨fun request waits => waiters request waits (covered.queued request waits),
    fun none => covered.unlimited (maxConnections ▸ none),
    count, notified, fun waiting => fewer.trans (covers waiting)⟩

theorem Covered.move {state : PoolState} (covered : state.Covered) {pool : ConnectionPool}
    {request : RequestId} {after : AcquireStage} (before : state.stage request ≠ .woken)
    (notWoken : after ≠ .woken) (notWaiting : after ≠ .waiting)
    (waiters : ∀ other, state.stage other = .waiting → other ∈ state.pool.waiters →
      other ∈ pool.waiters)
    (maxConnections : pool.maxConnections = state.pool.maxConnections)
    (fewer : pool.units ≤ state.pool.units) :
    (({ state with pool := pool } : PoolState).setStage request after).Covered :=
  (covered.repool waiters maxConnections fewer).setStage before notWoken notWaiting

theorem Covered.close {state : PoolState} (covered : state.Covered) : state.close.Covered := by
  obtain ⟨count, notified, -⟩ := covered.notified
  refine Covered.of_nobody (fun request => ?_) (notified.congr fun request => ?_)
  · simp only [PoolState.close]
    split
    · simp
    · rename_i other
      exact fun waits => other ⟨covered.queued request waits, waits⟩
  · simp only [PoolState.close]
    split
    · rename_i waiting
      simp [waiting.2]
    · exact Iff.rfl

theorem not_waiting_update {stage : RequestId → AcquireStage} {request : RequestId}
    {after : AcquireStage} (nobody : ∀ other, stage other ≠ .waiting)
    (different : after ≠ .waiting) (other : RequestId) :
    Function.update stage request after other ≠ .waiting := by
  by_cases same : other = request
  · subst same
    simpa using different
  · simpa [same] using nobody other

/-- A step that passes wakeups on keeps what is free covered. -/
theorem Covered.step {limit : Option Nat} {state next : PoolState} (covered : state.Covered)
    (owned : state.Owned limit) {label : PoolLabel} (passes : state.PassesOn label)
    (edge : state.step label = some next) : next.Covered := by
  obtain ⟨count, notified, covers⟩ := covered.notified
  cases label with
  | acquire request readable =>
      simp only [PoolState.step] at edge
      split at edge
      · rename_i outside
        obtain rfl := Option.some.inj edge
        exact takeOrCreate_covered readable (fun other _ => covered.queued other)
          covered.unlimited (fun after => notified.update (by simp [outside]))
          fun waiting => (covers waiting).trans (Nat.le_succ _)
      · simp at edge
  | resume request readable =>
      simp only [PoolState.step] at edge
      split at edge
      · rename_i woken
        obtain rfl := Option.some.inj edge
        have removed : ∀ after, after ≠ .woken → 0 < count ∧
            Notified (count - 1) (Function.update state.stage request after) :=
          fun after different => notified.remove woken different
        obtain ⟨positive, -⟩ := removed .outside (by simp)
        refine takeOrCreate_covered readable (fun other different waits => ?_)
          covered.unlimited (fun after different => (removed after different).2)
          fun waiting => ?_
        · exact List.mem_filter.mpr ⟨covered.queued other waits, by simpa using different⟩
        · have before := covers waiting
          change state.pool.units ≤ count - 1 + 1
          omega
      · simp at edge
  | grant request readable =>
      simp only [PoolState.step] at edge
      split at edge
      · rename_i enabled
        obtain ⟨fewer, maxConnections, waiters, -⟩ :=
          ConnectionPool.units_popIdle readable state.pool.idleStack state.pool
        unfold ConnectionPool.tryGetIdle at edge
        generalize ConnectionPool.popIdle readable state.pool.idleStack state.pool =
          outcome at edge fewer maxConnections waiters
        obtain ⟨taken, pool⟩ := outcome
        change pool.units + (if taken.isSome then 1 else 0) ≤ state.pool.units at fewer
        cases taken with
        | some id =>
            obtain rfl := Option.some.inj edge
            have given := pool.units_unreserve
            dsimp only at maxConnections waiters
            simp only [Option.isSome_some, if_true] at fewer
            refine covered.move (by simp [enabled.1]) (by simp) (by simp) (fun other _ member => ?_)
              maxConnections (given.trans fewer)
            exact waiters ▸ member
        | none =>
            obtain rfl := Option.some.inj edge
            dsimp only at maxConnections waiters
            simp only [Option.isSome_none, Bool.false_eq_true, if_false] at fewer
            refine covered.move (by simp [enabled.1]) (by simp) (by simp) (fun other _ member => ?_)
              maxConnections fewer
            exact waiters ▸ member
      · simp at edge
  | connected request =>
      simp only [PoolState.step] at edge
      split at edge
      · rename_i connecting
        obtain rfl := Option.some.inj edge
        have untracked : state.pool.nextConnection ∉ state.pool.allConnections :=
          fun tracked => Nat.lt_irrefl _ (owned.trackedDrawn _ tracked)
        refine covered.move (by simp [connecting]) (by simp) (by simp) (fun _ _ member => member) rfl
          (ConnectionPool.units_le rfl rfl ?_)
        change state.pool.allConnections.card + state.pool.creating ≤
          (insert state.pool.nextConnection state.pool.allConnections).card +
            (state.pool.creating - 1)
        rw [Finset.card_insert_of_notMem untracked]
        omega
      · simp at edge
  | connectFailed request =>
      simp only [PoolState.step] at edge
      split at edge
      · rename_i connecting
        obtain rfl := Option.some.inj edge
        exact Covered.of_nobody (not_waiting_update passes (by simp))
          (notified.update (by simp [connecting]) (by simp))
      · simp at edge
  | cancel request =>
      simp only [PoolState.step] at edge
      split at edge
      · rename_i waiting
        obtain rfl := Option.some.inj edge
        exact covered.setStage (by simp [waiting]) (by simp) (by simp)
      · rename_i woken
        obtain rfl := Option.some.inj edge
        have nobody := passes.resolve_left (by simp [woken])
        have removed : 0 < count ∧
            Notified (count - 1) (Function.update state.stage request .cancelled) :=
          notified.remove woken (by simp)
        exact Covered.of_nobody (not_waiting_update nobody (by simp)) removed.2
      · rename_i queued
        obtain rfl := Option.some.inj edge
        have nobody := passes.resolve_left (by simp [queued])
        exact Covered.of_nobody (not_waiting_update nobody (by simp))
          (notified.update (by simp [queued]) (by simp))
      · rename_i connecting
        obtain rfl := Option.some.inj edge
        have nobody := passes.resolve_left (by simp [connecting])
        exact Covered.of_nobody (not_waiting_update nobody (by simp))
          (notified.update (by simp [connecting]) (by simp))
      · simp at edge
  | unwind request =>
      simp only [PoolState.step] at edge
      split at edge
      · rename_i cancelled
        obtain rfl := Option.some.inj edge
        refine covered.move (by simp [cancelled]) (by simp) (by simp) (fun other waits member => ?_) rfl
          (le_refl _)
        have different : other ≠ request := by
          rintro rfl
          simp [cancelled] at waits
        exact List.mem_filter.mpr ⟨member, by simpa using different⟩
      · simp at edge
  | release request =>
      simp only [PoolState.step] at edge
      split at edge
      · rename_i id holding
        obtain rfl := Option.some.inj edge
        exact (covered.setStage (by simp [holding]) (by simp) (by simp)).release id
      · simp at edge
  | releaseAgain request =>
      simp only [PoolState.step] at edge
      split at edge
      · rename_i id released
        split at edge
        · simp at edge
        · obtain rfl := Option.some.inj edge
          exact covered.release id
      · simp at edge
  | close =>
      obtain rfl := Option.some.inj edge
      exact covered.close
  | network id event =>
      obtain rfl := Option.some.inj edge
      exact covered.repool (fun _ _ member => member) rfl (le_refl _)
  | tick now =>
      obtain rfl := Option.some.inj edge
      exact covered.repool (fun _ _ member => member) rfl (le_refl _)

theorem initial_covered (maxConnections : Option Nat) (maxIdleTime : ℚ)
    (connectLimiter : Nat) :
    (PoolState.initial maxConnections maxIdleTime connectLimiter).Covered :=
  Covered.of_nobody nofun
    (⟨∅, fun _ => by simp, rfl⟩ : Notified 0 fun _ => .outside)

end PoolState

/-- In a run that passes wakeups on, whenever something is free while an acquirer waits, an
acquirer was notified and has not run yet. -/
theorem pool_wakeful (maxConnections : Option Nat) (maxIdleTime : ℚ) (connectLimiter : Nat)
    {labels : List PoolLabel} {state : PoolState}
    (run : GuardedRuns.run PoolState.step
      (PoolState.initial maxConnections maxIdleTime connectLimiter) labels = some state)
    (passes : GuardedRuns.Meets PoolState.step PoolState.PassesOn
      (PoolState.initial maxConnections maxIdleTime connectLimiter) labels) :
    state.Wakeful := by
  have preserved : ∀ before label after,
      PoolState.Owned maxConnections before ∧ before.Covered → before.PassesOn label →
        before.step label = some after →
          PoolState.Owned maxConnections after ∧ after.Covered :=
    fun _ _ _ holds guard edge => ⟨holds.1.step edge, holds.2.step holds.1 guard edge⟩
  have kept := GuardedRuns.invariant_of_meets preserved
    ⟨PoolState.initial_owned maxConnections maxIdleTime connectLimiter,
      PoolState.initial_covered maxConnections maxIdleTime connectLimiter⟩ passes run
  exact kept.2.wakeful

/-- A released connection wakes the acquirer that waits for it. -/
theorem pool_wakeful_released :
    ∃ state : PoolState, state.stage 1 = .woken ∧ state.stage 2 = .waiting ∧
      state.pool.free = true ∧ state.Wakeful := by
  have run : GuardedRuns.run PoolState.step (PoolState.initial (some 1) 4 128)
      [.acquire 0 fun _ => false, .grant 0 fun _ => false, .connected 0,
        .acquire 1 fun _ => false, .acquire 2 fun _ => false, .release 0] = some _ := rfl
  exact ⟨_, by decide, by decide, by decide, pool_wakeful (some 1) 4 128 run
    (GuardedRuns.meets_of_forall_mem (by simp [PoolState.PassesOn]) _)⟩

/-- An acquirer waits for the only slot and the attempt that had reserved it fails; or the
acquirer that was woken for the idle connection is cancelled before it runs. -/
theorem pool_sleeps :
    (∃ state, GuardedRuns.run PoolState.step (PoolState.initial (some 1) 4 128)
      [.acquire 0 fun _ => false, .grant 0 fun _ => false, .acquire 1 fun _ => false,
        .connectFailed 0] = some state ∧ ¬ state.Wakeful) ∧
    ∃ state, GuardedRuns.run PoolState.step (PoolState.initial (some 1) 4 128)
      [.acquire 0 fun _ => false, .grant 0 fun _ => false, .connected 0,
        .acquire 1 fun _ => false, .acquire 2 fun _ => false, .release 0, .cancel 1] =
          some state ∧ ¬ state.Wakeful := by
  constructor
  · refine ⟨_, rfl, fun wakeful => ?_⟩
    obtain ⟨request, woken⟩ := wakeful ⟨1, by decide⟩ (by decide)
    match request with
    | 0 | 1 | _ + 2 => exact AcquireStage.noConfusion woken
  · refine ⟨_, rfl, fun wakeful => ?_⟩
    obtain ⟨request, woken⟩ := wakeful ⟨2, by decide⟩ (by decide)
    match request with
    | 0 | 1 | 2 | _ + 3 => exact AcquireStage.noConfusion woken

end InferenceEndpoint
