import InferenceEndpoint.Library.GuardedRuns
import Mathlib.Data.List.Perm.Basic
import Mathlib.Data.List.Nodup
import Mathlib.Data.List.Range
import Mathlib.Data.List.Count
import Mathlib.Algebra.Order.Ring.Int
import Mathlib.Tactic.Common

/-!
# Token batch queue

`TokenBatchQueue` buffers tokenization work and records the counts in batches.
Its coroutines are cut at their awaits: a flush holds the lock while the
tokenizer works on the batch it detached, and meanwhile items are enqueued and
flushes are cancelled.  The invariant is that the recorded, buffered, detached
and dropped items are together the enqueued ones, each once, and that only the
final drain drops any.
-/

namespace InferenceEndpoint

/-- The variants of `TokenizationInput`. -/
inductive InputType
  | tokenIds
  | text
  | message
  | prompt
  deriving DecidableEq, Repr

/-- A queued input with its recorder; `ticket` is its number in the order of
the `enqueue` calls. -/
structure QueuedItem where
  ticket : Nat
  inputType : InputType
  deriving DecidableEq, Repr

/-- `_LIVE_FLUSH_MAX_ITEMS`. -/
def liveFlushMaxItems : Nat := 1024

/-- How `count_batch_async` ends: with one count or error (`none`) for each
input, by raising, or cancelled. -/
inductive BatchOutcome
  | counted (outcomes : List (Option Nat))
  | raised
  | cancelled
  deriving DecidableEq, Repr

/-- Where `flush_remaining` stands. -/
inductive FlushRemaining
  | notCalled
  /-- It cancelled the live task and waits for it. -/
  | awaitingLive
  /-- It waits for the lock. -/
  | awaitingLock
  /-- The tokenizer works on everything that was buffered. -/
  | draining
  | returned (pending : Int)
  /-- It was cancelled itself. -/
  | cancelled
  deriving DecidableEq, Repr

/-- `recorded` lists the recorder calls that were made. -/
structure TokenBatchQueue where
  items : List QueuedItem := []
  inflight : Int := 0
  /-- The batch of the flush that holds the lock, and whether it is live. -/
  batch : Option (List QueuedItem × Bool) := none
  flushRemaining : FlushRemaining := .notCalled
  enqueued : Nat := 0
  recorded : List QueuedItem := []

namespace TokenBatchQueue

def enqueue (queue : TokenBatchQueue) (inputType : InputType) : TokenBatchQueue :=
  { queue with
      inflight := queue.inflight + 1
      items := queue.items ++ [⟨queue.enqueued, inputType⟩]
      enqueued := queue.enqueued + 1 }

/-- The selection loop of a live flush: at most `liveFlushMaxItems` of each
type, the rest remains. -/
def selectLive (count : InputType → Nat) :
    List QueuedItem → List QueuedItem × List QueuedItem
  | [] => ([], [])
  | item :: items =>
      if count item.inputType < liveFlushMaxItems then
        let rest := selectLive
          (Function.update count item.inputType (count item.inputType + 1)) items
        (item :: rest.1, rest.2)
      else
        let rest := selectLive count items
        (rest.1, item :: rest.2)

/-- `_record`; the counter goes down also when the recorder raises. -/
def record (queue : TokenBatchQueue) (item : QueuedItem) : TokenBatchQueue :=
  { queue with
      inflight := queue.inflight - 1
      recorded := queue.recorded ++ [item] }

/-- The recording loop: record the counted items and collect the others. -/
def recordOutcomes :
    List (QueuedItem × Option Nat) → TokenBatchQueue → List QueuedItem × TokenBatchQueue
  | [], queue => ([], queue)
  | (item, none) :: rest, queue =>
      let remaining := recordOutcomes rest queue
      (item :: remaining.1, remaining.2)
  | (item, some _) :: rest, queue => recordOutcomes rest (queue.record item)

/-- Put items back at the head of the buffer. -/
def requeue (queue : TokenBatchQueue) (live : Bool) (items : List QueuedItem) :
    TokenBatchQueue :=
  if live then { queue with items := items ++ queue.items } else queue

/-- `_flush` up to its await; the lock is free. -/
def beginFlush (queue : TokenBatchQueue) (live : Bool) : TokenBatchQueue :=
  if queue.items.isEmpty then queue
  else if live then
    let selected := selectLive (fun _ => 0) queue.items
    { queue with batch := some (selected.1, true), items := selected.2 }
  else { queue with batch := some (queue.items, false), items := [] }

/-- `_flush` after its await, for the batch that it had detached. -/
def endFlush (queue : TokenBatchQueue) (items : List QueuedItem) (live : Bool) :
    BatchOutcome → TokenBatchQueue
  | .cancelled | .raised => ({ queue with batch := none } : TokenBatchQueue).requeue live items
  | .counted outcomes =>
      let unlocked : TokenBatchQueue := { queue with batch := none }
      if outcomes.length ≠ items.length then unlocked.requeue live items
      else
        let recorded := recordOutcomes (items.zip outcomes) unlocked
        recorded.2.requeue live recorded.1

/-- What can happen next. -/
inductive Label
  | enqueue (inputType : InputType)
  /-- A live flush takes the lock. -/
  | beginLive
  | endLive (outcome : BatchOutcome)
  | callFlushRemaining
  /-- The live task is gone. -/
  | liveStopped
  /-- The drain takes the lock. -/
  | beginDrain
  | endDrain (outcome : BatchOutcome)
  /-- The budget of the drain is used up before it has the lock. -/
  | lockTimeout
  /-- `flush_remaining` is cancelled. -/
  | cancel

/-- `flush_remaining` returns. -/
def finish (queue : TokenBatchQueue) : TokenBatchQueue :=
  { queue with flushRemaining := .returned queue.inflight }

def step (queue : TokenBatchQueue) : Label → Option TokenBatchQueue
  | .enqueue inputType => some (queue.enqueue inputType)
  | .beginLive =>
      if queue.batch = none then some (queue.beginFlush true) else none
  | .endLive outcome =>
      match queue.batch with
      | some (items, true) => some (queue.endFlush items true outcome)
      | _ => none
  | .callFlushRemaining =>
      if queue.flushRemaining = .notCalled then
        some { queue with flushRemaining := .awaitingLive }
      else none
  | .liveStopped =>
      if queue.flushRemaining = .awaitingLive then
        if queue.inflight = 0 then some queue.finish
        else some { queue with flushRemaining := .awaitingLock }
      else none
  | .beginDrain =>
      if queue.flushRemaining = .awaitingLock ∧ queue.batch = none then
        if queue.items.isEmpty then some queue.finish
        else some { queue.beginFlush false with flushRemaining := .draining }
      else none
  | .endDrain outcome =>
      match queue.batch with
      | some (items, false) => some (queue.endFlush items false outcome).finish
      | _ => none
  | .lockTimeout =>
      if queue.flushRemaining = .awaitingLock then some queue.finish else none
  | .cancel =>
      match queue.flushRemaining with
      | .awaitingLive => some { queue with flushRemaining := .cancelled }
      | .awaitingLock => some { queue with flushRemaining := .cancelled }
      | .draining =>
          match queue.batch with
          | some (items, false) =>
              some { queue.endFlush items false .cancelled with
                flushRemaining := .cancelled }
          | _ => none
      | _ => none

/-- The items of the batch in progress. -/
def detached (queue : TokenBatchQueue) : List QueuedItem :=
  match queue.batch with
  | none => []
  | some (items, _) => items

/-- `flush_remaining` has not begun to drain. -/
def beforeDrain (queue : TokenBatchQueue) : Bool :=
  match queue.flushRemaining with
  | .notCalled | .awaitingLive | .awaitingLock => true
  | _ => false

/-! ## Every item is somewhere -/

/-- All items in one list: recorded, buffered, detached and dropped ones. -/
def everywhere (queue : TokenBatchQueue) (dropped : List QueuedItem) :
    List QueuedItem :=
  queue.recorded ++ queue.items ++ queue.detached ++ dropped

/-- Every ticket is recorded, buffered, detached or dropped, and only one of
these; items are dropped by the final drain only. -/
structure Balanced (queue : TokenBatchQueue) (dropped : List QueuedItem) : Prop where
  tickets : ((queue.everywhere dropped).map QueuedItem.ticket).Perm
    (List.range queue.enqueued)
  pending : queue.inflight = queue.enqueued - queue.recorded.length
  undropped : queue.beforeDrain = true → dropped = []
  drained : ∀ items, queue.batch = some (items, false) → queue.beforeDrain = false

theorem selectLive_perm (count : InputType → Nat) (items : List QueuedItem) :
    ((selectLive count items).1 ++ (selectLive count items).2).Perm items := by
  induction items generalizing count with
  | nil => exact .refl _
  | cons item items ih =>
      unfold selectLive
      split
      · exact (ih _).cons item
      · exact List.perm_middle.trans ((ih count).cons item)

theorem recordOutcomes_spec (outcomes : List (QueuedItem × Option Nat))
    (queue : TokenBatchQueue) :
    ∃ counted,
      (counted ++ (recordOutcomes outcomes queue).1).Perm (outcomes.map Prod.fst) ∧
      (recordOutcomes outcomes queue).2 =
        { queue with
            inflight := queue.inflight - counted.length
            recorded := queue.recorded ++ counted } := by
  induction outcomes generalizing queue with
  | nil => exact ⟨[], .refl _, by simp [recordOutcomes]⟩
  | cons outcome rest ih =>
      obtain ⟨item, count⟩ := outcome
      cases count with
      | none =>
          obtain ⟨counted, perm, equal⟩ := ih queue
          exact ⟨counted, List.perm_middle.trans (perm.cons item), equal⟩
      | some count =>
          obtain ⟨counted, perm, equal⟩ := ih (queue.record item)
          refine ⟨item :: counted, perm.cons item, ?_⟩
          rw [recordOutcomes, equal]
          simp only [record, List.length_cons, List.append_assoc, List.singleton_append,
            Nat.cast_succ]
          congr 1
          omega

namespace Balanced

variable {queue next : TokenBatchQueue} {dropped : List QueuedItem}

/-- A step that moves items around without recording any. -/
theorem move (balanced : Balanced queue dropped) {after : List QueuedItem}
    (perm : (next.everywhere after).Perm (queue.everywhere dropped))
    (enqueued : next.enqueued = queue.enqueued)
    (inflight : next.inflight = queue.inflight)
    (recorded : next.recorded = queue.recorded)
    (undropped : next.beforeDrain = true → after = [])
    (drained : ∀ items, next.batch = some (items, false) → next.beforeDrain = false) :
    Balanced next after where
  tickets := by
    rw [enqueued]
    exact (perm.map _).trans balanced.tickets
  pending := by rw [inflight, enqueued, recorded]; exact balanced.pending
  undropped := undropped
  drained := drained

theorem enqueue (balanced : Balanced queue dropped) (inputType : InputType) :
    Balanced (queue.enqueue inputType) dropped where
  tickets := by
    have perm : ((queue.enqueue inputType).everywhere dropped).Perm
        (queue.everywhere dropped ++ [⟨queue.enqueued, inputType⟩]) := by
      rw [List.perm_iff_count]
      intro item
      simp only [everywhere, TokenBatchQueue.enqueue, detached, List.count_append]
      omega
    refine (perm.map _).trans ?_
    rw [List.map_append]
    change (_ ++ [queue.enqueued]).Perm (List.range (queue.enqueued + 1))
    rw [List.range_succ]
    exact balanced.tickets.append_right _
  pending := by
    have before := balanced.pending
    simp only [TokenBatchQueue.enqueue]
    push_cast
    omega
  undropped := balanced.undropped
  drained := balanced.drained

/-- The final drain is over; it does not matter where it stands. -/
theorem finish (balanced : Balanced queue dropped) : Balanced queue.finish dropped :=
  balanced.move (.refl _) rfl rfl rfl nofun fun _ _ => rfl

theorem beginLive (balanced : Balanced queue dropped) (unlocked : queue.batch = none) :
    Balanced (queue.beginFlush true) dropped := by
  unfold beginFlush
  split
  · exact balanced
  · refine balanced.move ?_ rfl rfl rfl balanced.undropped nofun
    have perm := List.perm_iff_count.mp (selectLive_perm (fun _ => 0) queue.items)
    rw [List.perm_iff_count]
    intro item
    have count := perm item
    simp only [everywhere, detached, unlocked, if_true, List.count_append,
      List.count_nil] at count ⊢
    omega

theorem beginDrain (balanced : Balanced queue dropped) (unlocked : queue.batch = none) :
    Balanced { queue.beginFlush false with flushRemaining := .draining } dropped := by
  unfold beginFlush
  split
  · rename_i empty
    exact balanced.move (.refl _) rfl rfl rfl nofun
      (by simp [unlocked])
  · refine balanced.move ?_ rfl rfl rfl nofun fun _ _ => rfl
    rw [List.perm_iff_count]
    intro item
    simp only [everywhere, detached, unlocked, Bool.false_eq_true, if_false,
      List.count_append, List.count_nil]
    omega

/-- The batch goes back to the buffer, or is dropped by the drain. -/
theorem restore (balanced : Balanced queue dropped) {items : List QueuedItem}
    {live : Bool} (locked : queue.batch = some (items, live)) :
    ∃ after, Balanced (({ queue with batch := none } : TokenBatchQueue).requeue live
      items) after := by
  cases live with
  | true =>
      refine ⟨dropped, balanced.move ?_ rfl rfl rfl balanced.undropped nofun⟩
      rw [List.perm_iff_count]
      intro item
      simp only [everywhere, requeue, detached, locked, if_true, List.count_append,
        List.count_nil]
      omega
  | false =>
      have drained := balanced.drained items locked
      refine ⟨items ++ dropped, balanced.move ?_ rfl rfl rfl ?_ nofun⟩
      · rw [List.perm_iff_count]
        intro item
        simp only [everywhere, requeue, detached, locked, Bool.false_eq_true, if_false,
          List.count_append, List.count_nil]
        omega
      · intro before
        have before : queue.beforeDrain = true := before
        rw [drained] at before
        simp at before

theorem endFlush (balanced : Balanced queue dropped) {items : List QueuedItem}
    {live : Bool} (locked : queue.batch = some (items, live)) (outcome : BatchOutcome) :
    ∃ after, Balanced (queue.endFlush items live outcome) after := by
  cases outcome with
  | raised => exact balanced.restore locked
  | cancelled => exact balanced.restore locked
  | counted outcomes =>
      unfold TokenBatchQueue.endFlush
      dsimp only
      split
      · exact balanced.restore locked
      · rename_i sameLength
        have sameLength : outcomes.length = items.length := by simpa using sameLength
        obtain ⟨counted, perm, equal⟩ :=
          recordOutcomes_spec (items.zip outcomes) { queue with batch := none }
        rw [List.map_fst_zip (by omega)] at perm
        generalize recordOutcomes (items.zip outcomes) { queue with batch := none } =
          recorded at perm equal
        obtain ⟨retry, after⟩ := recorded
        obtain rfl : after = _ := equal
        have middle : Balanced
            { queue with
                batch := some (retry, live)
                inflight := queue.inflight - counted.length
                recorded := queue.recorded ++ counted } dropped := by
          refine ⟨?_, ?_, balanced.undropped, ?_⟩
          · refine List.Perm.trans (List.Perm.map _ ?_) balanced.tickets
            rw [List.perm_iff_count]
            intro item
            have count := List.perm_iff_count.mp perm item
            simp only [everywhere, detached, locked, List.count_append] at count ⊢
            omega
          · have before := balanced.pending
            simp only [List.length_append]
            push_cast
            omega
          · intro other unlocked
            obtain ⟨rfl, rfl⟩ : retry = other ∧ live = false := by simpa using unlocked
            exact balanced.drained items locked
        exact middle.restore rfl

theorem step (balanced : Balanced queue dropped) {label : Label}
    (edge : queue.step label = some next) : ∃ after, Balanced next after := by
  cases label with
  | enqueue inputType =>
      obtain rfl := Option.some.inj edge
      exact ⟨dropped, balanced.enqueue inputType⟩
  | beginLive =>
      simp only [TokenBatchQueue.step] at edge
      split at edge
      · rename_i unlocked
        obtain rfl := Option.some.inj edge
        exact ⟨dropped, balanced.beginLive unlocked⟩
      · simp at edge
  | endLive outcome =>
      simp only [TokenBatchQueue.step] at edge
      split at edge
      · rename_i items locked
        obtain rfl := Option.some.inj edge
        exact balanced.endFlush locked outcome
      · simp at edge
  | callFlushRemaining =>
      simp only [TokenBatchQueue.step] at edge
      split at edge
      · rename_i notCalled
        obtain rfl := Option.some.inj edge
        have before : queue.beforeDrain = true := by simp [beforeDrain, notCalled]
        refine ⟨dropped, balanced.move (.refl _) rfl rfl rfl
          (fun _ => balanced.undropped before) fun items locked => ?_⟩
        have drained := balanced.drained items locked
        rw [before] at drained
        simp at drained
      · simp at edge
  | liveStopped =>
      simp only [TokenBatchQueue.step] at edge
      split at edge
      · rename_i awaiting
        have before : queue.beforeDrain = true := by simp [beforeDrain, awaiting]
        split at edge
        · obtain rfl := Option.some.inj edge
          exact ⟨dropped, balanced.finish⟩
        · obtain rfl := Option.some.inj edge
          refine ⟨dropped, balanced.move (.refl _) rfl rfl rfl
            (fun _ => balanced.undropped before) fun items locked => ?_⟩
          have drained := balanced.drained items locked
          rw [before] at drained
          simp at drained
      · simp at edge
  | beginDrain =>
      simp only [TokenBatchQueue.step] at edge
      split at edge
      · rename_i enabled
        split at edge
        · obtain rfl := Option.some.inj edge
          exact ⟨dropped, balanced.finish⟩
        · obtain rfl := Option.some.inj edge
          exact ⟨dropped, balanced.beginDrain enabled.2⟩
      · simp at edge
  | endDrain outcome =>
      simp only [TokenBatchQueue.step] at edge
      split at edge
      · rename_i items locked
        obtain rfl := Option.some.inj edge
        obtain ⟨after, ended⟩ := balanced.endFlush locked outcome
        exact ⟨after, ended.finish⟩
      · simp at edge
  | lockTimeout =>
      simp only [TokenBatchQueue.step] at edge
      split at edge
      · obtain rfl := Option.some.inj edge
        exact ⟨dropped, balanced.finish⟩
      · simp at edge
  | cancel =>
      simp only [TokenBatchQueue.step] at edge
      split at edge
      · obtain rfl := Option.some.inj edge
        exact ⟨dropped, balanced.move (.refl _) rfl rfl rfl nofun fun _ _ => rfl⟩
      · obtain rfl := Option.some.inj edge
        exact ⟨dropped, balanced.move (.refl _) rfl rfl rfl nofun fun _ _ => rfl⟩
      · split at edge
        · rename_i items locked
          obtain rfl := Option.some.inj edge
          obtain ⟨after, ended⟩ := balanced.endFlush locked .cancelled
          exact ⟨after, ended.move (.refl _) rfl rfl rfl nofun fun _ _ => rfl⟩
        · simp at edge
      · simp at edge

end Balanced

/-- The states that a queue can reach. -/
abbrev Reachable : TokenBatchQueue → Prop :=
  GuardedRuns.Reachable step {}

theorem Reachable.balanced {queue : TokenBatchQueue} (reachable : Reachable queue) :
    ∃ dropped, Balanced queue dropped :=
  GuardedRuns.Reachable.invariant (fun queue => ∃ dropped, Balanced queue dropped)
    (fun _ _ _ ⟨_, balanced⟩ edge => balanced.step edge)
    ⟨[], .refl _, rfl, fun _ => rfl, fun _ locked => by cases locked⟩ reachable

/-- The tickets whose recorder was not called. -/
def unrecorded (queue : TokenBatchQueue) : List Nat :=
  (List.range queue.enqueued).filter
    fun ticket => !decide (ticket ∈ queue.recorded.map QueuedItem.ticket)

/-- A recorder is called at most once, and `pending` counts the items whose
recorder was not called. -/
theorem Balanced.exact {queue : TokenBatchQueue} {dropped : List QueuedItem}
    (balanced : Balanced queue dropped) :
    (queue.recorded.map QueuedItem.ticket).Nodup ∧
      (∀ ticket ∈ queue.recorded.map QueuedItem.ticket, ticket < queue.enqueued) ∧
      queue.inflight = queue.unrecorded.length := by
  have nodup := balanced.tickets.nodup_iff.mpr List.nodup_range
  simp only [everywhere, List.map_append, List.append_assoc] at nodup
  have recorded := (List.nodup_append.mp nodup).1
  have below : ∀ ticket ∈ queue.recorded.map QueuedItem.ticket,
      ticket < queue.enqueued := by
    intro ticket member
    refine List.mem_range.mp (balanced.tickets.subset ?_)
    simp only [everywhere, List.map_append, List.mem_append]
    exact Or.inl (Or.inl (Or.inl member))
  refine ⟨recorded, below, ?_⟩
  have called : ((List.range queue.enqueued).filter
      (· ∈ queue.recorded.map QueuedItem.ticket)).Perm
        (queue.recorded.map QueuedItem.ticket) := by
    refine (List.perm_ext_iff_of_nodup (List.nodup_range.filter _) recorded).mpr ?_
    intro ticket
    rw [List.mem_filter, List.mem_range, decide_eq_true_iff]
    exact ⟨fun both => both.2, fun member => ⟨below ticket member, member⟩⟩
  have split := List.length_eq_length_filter_add (l := List.range queue.enqueued)
    fun ticket => decide (ticket ∈ queue.recorded.map QueuedItem.ticket)
  have calls := called.length_eq
  have pending := balanced.pending
  rw [List.length_range, calls, List.length_map, ← unrecorded] at split
  omega

/-! ## What `flush_remaining` returns -/

theorem requeue_flushRemaining (queue : TokenBatchQueue) (live : Bool)
    (items : List QueuedItem) :
    (queue.requeue live items).flushRemaining = queue.flushRemaining := by
  unfold requeue
  split <;> rfl

theorem endFlush_flushRemaining (queue : TokenBatchQueue) (items : List QueuedItem)
    (live : Bool) (outcome : BatchOutcome) :
    (queue.endFlush items live outcome).flushRemaining = queue.flushRemaining := by
  cases outcome with
  | raised => exact requeue_flushRemaining _ _ _
  | cancelled => exact requeue_flushRemaining _ _ _
  | counted outcomes =>
      unfold endFlush
      dsimp only
      split
      · exact requeue_flushRemaining _ _ _
      · obtain ⟨counted, _, equal⟩ :=
          recordOutcomes_spec (items.zip outcomes) { queue with batch := none }
        rw [requeue_flushRemaining, equal]

theorem beginFlush_flushRemaining (queue : TokenBatchQueue) (live : Bool) :
    (queue.beginFlush live).flushRemaining = queue.flushRemaining := by
  unfold beginFlush
  split
  · rfl
  · split <;> rfl

/-- The step with which `flush_remaining` returns a number. -/
def Returns (queue next : TokenBatchQueue) (pending : Int) : Prop :=
  queue.flushRemaining ≠ .returned pending ∧ next.flushRemaining = .returned pending

/-- What `flush_remaining` returns is `pending`. -/
theorem Returns.inflight {queue next : TokenBatchQueue} {label : Label} {pending : Int}
    (returns : Returns queue next pending) (edge : queue.step label = some next) :
    next.inflight = pending := by
  obtain ⟨before, after⟩ := returns
  have finished : ∀ {middle : TokenBatchQueue}, middle.finish = next →
      next.inflight = pending := by
    rintro middle rfl
    simpa [finish] using after
  have unchanged : next.flushRemaining ≠ queue.flushRemaining :=
    fun same => before (same.symm.trans after)
  cases label with
  | enqueue inputType => exact absurd (Option.some.inj edge ▸ rfl) unchanged
  | beginLive =>
      simp only [step] at edge
      split at edge
      · obtain rfl := Option.some.inj edge
        exact absurd (beginFlush_flushRemaining queue true) unchanged
      · simp at edge
  | endLive outcome =>
      simp only [step] at edge
      split at edge
      · obtain rfl := Option.some.inj edge
        exact absurd (endFlush_flushRemaining queue _ true outcome) unchanged
      · simp at edge
  | callFlushRemaining =>
      simp only [step] at edge
      split at edge
      · obtain rfl := Option.some.inj edge
        simp at after
      · simp at edge
  | liveStopped =>
      simp only [step] at edge
      split at edge
      · split at edge
        · exact finished (Option.some.inj edge)
        · obtain rfl := Option.some.inj edge
          simp at after
      · simp at edge
  | beginDrain =>
      simp only [step] at edge
      split at edge
      · split at edge
        · exact finished (Option.some.inj edge)
        · obtain rfl := Option.some.inj edge
          simp at after
      · simp at edge
  | endDrain outcome =>
      simp only [step] at edge
      split at edge
      · exact finished (Option.some.inj edge)
      · simp at edge
  | lockTimeout =>
      simp only [step] at edge
      split at edge
      · exact finished (Option.some.inj edge)
      · simp at edge
  | cancel =>
      simp only [step] at edge
      split at edge
      · obtain rfl := Option.some.inj edge
        simp at after
      · obtain rfl := Option.some.inj edge
        simp at after
      · split at edge
        · obtain rfl := Option.some.inj edge
          simp at after
        · simp at edge
      · simp at edge

/-- In every reachable state each recorder was called at most once, `pending`
is the number of items whose recorder was not called, and before the final
drain nothing is dropped; when `flush_remaining` returns 0, each recorder was
called exactly once. -/
theorem recorded_exactly {queue : TokenBatchQueue} (reachable : Reachable queue) :
    (queue.recorded.map QueuedItem.ticket).Nodup ∧
      queue.inflight = queue.unrecorded.length ∧
      (queue.beforeDrain = true → ∀ ticket < queue.enqueued,
        ticket ∈ queue.recorded.map QueuedItem.ticket ∨
          ticket ∈ queue.items.map QueuedItem.ticket ∨
            ticket ∈ queue.detached.map QueuedItem.ticket) ∧
      ∀ label next, queue.step label = some next → Returns queue next 0 →
        ∀ ticket < next.enqueued,
          (next.recorded.map QueuedItem.ticket).count ticket = 1 := by
  obtain ⟨dropped, balanced⟩ := reachable.balanced
  obtain ⟨nodup, _, pending⟩ := balanced.exact
  refine ⟨nodup, pending, ?_, ?_⟩
  · intro before ticket enqueued
    obtain rfl := balanced.undropped before
    have somewhere := balanced.tickets.symm.subset (List.mem_range.mpr enqueued)
    simpa only [everywhere, List.map_append, List.mem_append, List.map_nil,
      List.not_mem_nil, or_false, or_assoc] using somewhere
  · intro label next edge returns ticket enqueued
    obtain ⟨after, nextBalanced⟩ := balanced.step edge
    obtain ⟨nextNodup, _, nextPending⟩ := nextBalanced.exact
    rw [returns.inflight edge] at nextPending
    have none : next.unrecorded = [] := List.eq_nil_of_length_eq_zero (by omega)
    have member : ticket ∈ next.recorded.map QueuedItem.ticket := by
      by_contra absent
      have unrecorded : ticket ∈ next.unrecorded := by
        rw [unrecorded, List.mem_filter, List.mem_range]
        exact ⟨enqueued, by simpa using absent⟩
      simp [none] at unrecorded
    exact List.count_eq_one_of_mem nextNodup member

/-- Two items: a live flush counts one and puts the other back, and the final
drain counts that one. -/
theorem recorded_exactly_retried :
    ∃ queue next : TokenBatchQueue, Reachable queue ∧
      queue.step (.endDrain (.counted [some 3])) = some next ∧
      ∀ ticket < 2, (next.recorded.map QueuedItem.ticket).count ticket = 1 := by
  have reachable : Reachable _ :=
    ⟨[.enqueue .text, .enqueue .text, .beginLive, .endLive (.counted [none, some 5]),
      .callFlushRemaining, .liveStopped, .beginDrain], rfl⟩
  refine ⟨_, _, reachable, rfl, ?_⟩
  exact (recorded_exactly reachable).2.2.2 (.endDrain (.counted [some 3])) _ rfl
    ⟨by decide, rfl⟩

end TokenBatchQueue

end InferenceEndpoint
