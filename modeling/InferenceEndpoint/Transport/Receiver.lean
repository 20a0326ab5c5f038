import InferenceEndpoint.Library.GuardedRuns

/-!
# Receiver transport

`_ZmqReceiverTransport` reads a socket whose descriptor is edge-triggered.  Its callback reads
until the socket is empty, wakes the waiting `recv` and schedules itself again if the socket has
got messages meanwhile; a message that cannot be decoded ends the loop, and a truncated one ends
the callback.  A run interleaves arrivals, the callback from the descriptor and from `call_soon`,
`recv`, `poll` and the close.
-/

namespace InferenceEndpoint

/-- The future that `recv` waits for. -/
inductive Waiter
  | pending
  | done
  deriving DecidableEq, Repr

/-- How the loop of `_on_readable` ended. -/
inductive ReadEnd
  /-- `zmq.Again`: the socket is empty. -/
  | again
  | decodeError
  /-- The `RuntimeError` for a truncated message, which nothing catches. -/
  | truncated
  deriving DecidableEq, Repr

/-- `socket` holds the messages that the socket has for us, `readable` says whether the event
loop finds the descriptor readable, and `scheduled` counts the handles of `call_soon` that are
not cancelled.  `soonCall` says whether `_soon_call` is set, and `bufLen` is the length of the
buffer that messages are read into. -/
structure ReceiverTransport (Item : Type*) where
  bufLen : Nat
  deque : List Item := []
  waiter : Option Waiter := none
  closing : Bool := false
  soonCall : Bool := false
  socket : List (List UInt8) := []
  readable : Bool := false
  scheduled : Nat := 0

/-- What the loop read, what it left in the socket, and how it ended. -/
structure Reading (Item : Type*) where
  items : List Item
  left : List (List UInt8)
  ending : ReadEnd

namespace ReceiverTransport

variable {Item : Type*}

/-- The loop of `_on_readable`.  The message that ends it is gone from the socket. -/
def readAll (decode : List UInt8 → Option Item) (bufLen : Nat) :
    List (List UInt8) → Reading Item
  | [] => ⟨[], [], .again⟩
  | message :: rest =>
      if bufLen < message.length then ⟨[], rest, .truncated⟩
      else
        match decode message with
        | none => ⟨[], rest, .decodeError⟩
        | some item =>
            let later := readAll decode bufLen rest
            { later with items := item :: later.items }

/-- Wake the waiter if there is one. -/
def wake (receiver : ReceiverTransport Item) : ReceiverTransport Item :=
  match receiver.waiter with
  | some .pending => { receiver with waiter := some .done }
  | _ => receiver

/-- Messages that arrive: the descriptor becomes readable. -/
def arrive (receiver : ReceiverTransport Item) (messages : List (List UInt8)) :
    ReceiverTransport Item :=
  { receiver with
      socket := receiver.socket ++ messages
      readable := receiver.readable || !messages.isEmpty }

/-- The look at `zmq.EVENTS`, which takes the notifications that are there. -/
def reschedule (receiver : ReceiverTransport Item) : ReceiverTransport Item :=
  let looked := { receiver with readable := false }
  if looked.socket.isEmpty then looked
  else { looked with soonCall := true, scheduled := looked.scheduled + 1 }

/-- `_on_readable`, where `late` arrives after the loop made its last call.  A message that
arrives while the loop still reads is as if it had been there at the start. -/
def onReadable (decode : List UInt8 → Option Item) (receiver : ReceiverTransport Item)
    (late : List (List UInt8)) : ReceiverTransport Item :=
  let called := { receiver with soonCall := false }
  if called.closing then called.arrive late
  else
    let reading := readAll decode called.bufLen called.socket
    let read := ({ called with
      deque := called.deque ++ reading.items
      socket := reading.left
      readable := false }).arrive late
    if reading.ending = .truncated then read
    else if reading.items.isEmpty then read
    else
      let woken := read.wake
      if woken.soonCall then woken else woken.reschedule

/-- `poll`, and the items it returns. -/
def poll (receiver : ReceiverTransport Item) : Option Item × ReceiverTransport Item :=
  match receiver.deque with
  | [] => (none, receiver)
  | item :: rest => (some item, { receiver with deque := rest })

/-- `recv` up to its next `await`, or to its end: it takes an item, returns `None` because the
receiver is closed, or waits. -/
def recv (receiver : ReceiverTransport Item) : ReceiverTransport Item :=
  match receiver.deque with
  | _ :: rest => { receiver with deque := rest, waiter := none }
  | [] =>
      if receiver.closing then { receiver with waiter := none }
      else { receiver with waiter := some .pending }

def close (receiver : ReceiverTransport Item) : ReceiverTransport Item :=
  if receiver.closing then receiver
  else
    let cancelled :=
      if receiver.soonCall then
        { receiver with soonCall := false, scheduled := receiver.scheduled - 1 }
      else receiver
    ({ cancelled with closing := true }).wake

/-- Whether the loop can read the message. -/
def Legible (decode : List UInt8 → Option Item) (bufLen : Nat) (message : List UInt8) : Bool :=
  message.length ≤ bufLen && (decode message).isSome

/-- The legible messages at the head of the socket. -/
def legible (decode : List UInt8 → Option Item) (receiver : ReceiverTransport Item) :
    List (List UInt8) :=
  receiver.socket.takeWhile (Legible decode receiver.bufLen)

/-- The first message that is not legible, and what follows it. -/
def unread (decode : List UInt8 → Option Item) (receiver : ReceiverTransport Item) :
    List (List UInt8) :=
  receiver.socket.dropWhile (Legible decode receiver.bufLen)

/-- Something other than the callback makes the event loop look at the socket again if there is
still something in `left`. -/
def LookedAtAgain (receiver : ReceiverTransport Item) (left late : List (List UInt8)) : Prop :=
  left = [] ∨ late ≠ [] ∨ 0 < receiver.scheduled

/-- A message that cannot be decoded does no harm after a legible one, or if nothing follows it.
A truncated message does none if nothing follows it and nothing legible comes before it that a
`recv` waits for. -/
def KeepsWatch (decode : List UInt8 → Option Item) (receiver : ReceiverTransport Item)
    (late : List (List UInt8)) : Prop :=
  match receiver.unread decode with
  | [] => True
  | message :: rest =>
      if receiver.bufLen < message.length then
        receiver.LookedAtAgain rest late ∧
          (receiver.legible decode = [] ∨ receiver.waiter ≠ some .pending)
      else receiver.legible decode ≠ [] ∨ receiver.LookedAtAgain rest late

/-- The socket is empty, or the event loop will look at it. -/
def Attended (receiver : ReceiverTransport Item) : Prop :=
  receiver.socket = [] ∨ receiver.readable = true ∨ 0 < receiver.scheduled

/-- What is queued is available to the waiting `recv`. -/
def Available (receiver : ReceiverTransport Item) : Prop :=
  receiver.deque ≠ [] → receiver.waiter ≠ some .pending

instance (decode : List UInt8 → Option Item) (receiver : ReceiverTransport Item)
    (late : List (List UInt8)) : Decidable (receiver.KeepsWatch decode late) := by
  unfold KeepsWatch LookedAtAgain
  split
  · infer_instance
  · infer_instance

/-! ## The loop -/

section Loop

variable (decode : List UInt8 → Option Item) (bufLen : Nat)

theorem readAll_items (messages : List (List UInt8)) :
    (readAll decode bufLen messages).items = [] ↔
      messages.takeWhile (Legible decode bufLen) = [] := by
  cases messages with
  | nil => simp [readAll]
  | cons message rest =>
      by_cases long : bufLen < message.length
      · simp [readAll, long, Legible, Nat.not_le.mpr long]
      · cases decoded : decode message with
        | none => simp [readAll, long, Legible, decoded]
        | some item => simp [readAll, long, Legible, decoded, Nat.not_lt.mp long]

theorem readAll_left (messages : List (List UInt8)) :
    (readAll decode bufLen messages).left =
        (messages.dropWhile (Legible decode bufLen)).tail ∧
      (readAll decode bufLen messages).ending =
        match messages.dropWhile (Legible decode bufLen) with
        | [] => .again
        | message :: _ => if bufLen < message.length then .truncated else .decodeError := by
  induction messages with
  | nil => exact ⟨rfl, rfl⟩
  | cons message rest ih =>
      by_cases long : bufLen < message.length
      · simp [readAll, long, Legible, Nat.not_le.mpr long]
      · cases decoded : decode message with
        | none => simp [readAll, long, Legible, decoded]
        | some item =>
            simpa [readAll, long, Legible, decoded, Nat.not_lt.mp long] using ih

end Loop

/-! ## One call of the callback -/

section Call

variable {decode : List UInt8 → Option Item} {receiver : ReceiverTransport Item}
  {late : List (List UInt8)}

theorem wake_waiter (receiver : ReceiverTransport Item) :
    receiver.wake.waiter ≠ some .pending := by
  unfold wake
  split
  · simp
  · rename_i notPending
    exact notPending

theorem reschedule_waiter (receiver : ReceiverTransport Item) :
    receiver.reschedule.waiter = receiver.waiter := by
  unfold reschedule
  dsimp only
  split <;> rfl

theorem reschedule_attended (receiver : ReceiverTransport Item) :
    receiver.reschedule.Attended := by
  unfold reschedule
  dsimp only
  split
  · rename_i empty
    exact Or.inl (List.isEmpty_iff.mp empty)
  · exact Or.inr (Or.inr (Nat.succ_pos _))

/-- The receiver when the loop has ended, before it wakes anyone. -/
def afterLoop (receiver : ReceiverTransport Item) (reading : Reading Item)
    (late : List (List UInt8)) : ReceiverTransport Item :=
  { receiver with
      soonCall := false
      deque := receiver.deque ++ reading.items
      socket := reading.left ++ late
      readable := !late.isEmpty }

theorem afterLoop_wake_soonCall (receiver : ReceiverTransport Item) (reading : Reading Item)
    (late : List (List UInt8)) : (receiver.afterLoop reading late).wake.soonCall = false := by
  unfold wake
  split <;> rfl

theorem onReadable_open (isOpen : receiver.closing = false) :
    receiver.onReadable decode late =
      let reading := readAll decode receiver.bufLen receiver.socket
      if reading.ending = .truncated ∨ reading.items = [] then receiver.afterLoop reading late
      else (receiver.afterLoop reading late).wake.reschedule := by
  have notClosing : ¬receiver.closing = true := by simp [isOpen]
  unfold onReadable
  dsimp only
  rw [if_neg notClosing]
  generalize readAll decode receiver.bufLen receiver.socket = reading
  change (if reading.ending = .truncated then receiver.afterLoop reading late
    else if reading.items.isEmpty then receiver.afterLoop reading late
    else if (receiver.afterLoop reading late).wake.soonCall
      then (receiver.afterLoop reading late).wake
      else (receiver.afterLoop reading late).wake.reschedule) = _
  rw [afterLoop_wake_soonCall, if_neg Bool.false_ne_true]
  by_cases truncated : reading.ending = .truncated
  · rw [if_pos truncated, if_pos (Or.inl truncated)]
  · rw [if_neg truncated]
    by_cases quiet : reading.items = []
    · rw [if_pos (List.isEmpty_iff.mpr quiet), if_pos (Or.inr quiet)]
    · rw [if_neg (by simpa using quiet), if_neg (by simp [truncated, quiet])]

theorem afterLoop_attended (reading : Reading Item) :
    (receiver.afterLoop reading late).Attended ↔ receiver.LookedAtAgain reading.left late := by
  unfold Attended LookedAtAgain afterLoop
  simp only [List.append_eq_nil_iff, Bool.not_eq_true', List.isEmpty_eq_false_iff]
  by_cases none : late = []
  · simp [none]
  · simp [none]

/-- A call that ends its loop and has read something. -/
theorem attended_of_read {reading : Reading Item} (some : reading.items ≠ [])
    (ends : reading.ending ≠ .truncated) :
    let after :=
      if reading.ending = .truncated ∨ reading.items = [] then receiver.afterLoop reading late
      else (receiver.afterLoop reading late).wake.reschedule
    after.Attended ∧ (after.deque ≠ receiver.deque → after.waiter ≠ Option.some .pending) := by
  intro after
  have same : after = (receiver.afterLoop reading late).wake.reschedule :=
    if_neg (by simp [some, ends])
  rw [same]
  refine ⟨reschedule_attended _, fun _ => ?_⟩
  rw [reschedule_waiter]
  exact wake_waiter _

/-- A call that does not get to the end. -/
theorem attended_of_quiet {reading : Reading Item}
    (quiet : reading.ending = .truncated ∨ reading.items = []) :
    let after :=
      if reading.ending = .truncated ∨ reading.items = [] then receiver.afterLoop reading late
      else (receiver.afterLoop reading late).wake.reschedule
    (after.Attended ∧ (after.deque ≠ receiver.deque → after.waiter ≠ some .pending)) ↔
      receiver.LookedAtAgain reading.left late ∧
        (reading.items = [] ∨ receiver.waiter ≠ some .pending) := by
  intro after
  have same : after = receiver.afterLoop reading late := if_pos quiet
  have queued : (receiver.afterLoop reading late).deque ≠ receiver.deque ↔
      reading.items ≠ [] := by
    simp [afterLoop]
  rw [same, afterLoop_attended, queued]
  exact and_congr_right fun _ => ⟨fun woken => or_iff_not_imp_left.mpr woken,
    fun either => or_iff_not_imp_left.mp either⟩

/-- Exactly when one call leaves the socket attended and what it queued available. -/
theorem onReadable_keepsWatch (isOpen : receiver.closing = false) :
    ((receiver.onReadable decode late).Attended ∧
        ((receiver.onReadable decode late).deque ≠ receiver.deque →
          (receiver.onReadable decode late).waiter ≠ some .pending)) ↔
      receiver.KeepsWatch decode late := by
  have items := readAll_items decode receiver.bufLen receiver.socket
  obtain ⟨left, ending⟩ := readAll_left decode receiver.bufLen receiver.socket
  rw [onReadable_open isOpen]
  dsimp only
  generalize readAll decode receiver.bufLen receiver.socket = reading at items left ending
  change reading.left = (receiver.unread decode).tail at left
  change reading.ending = (match receiver.unread decode with
    | [] => .again
    | message :: _ => if receiver.bufLen < message.length then .truncated else .decodeError)
    at ending
  change reading.items = [] ↔ receiver.legible decode = [] at items
  unfold KeepsWatch
  cases unread : receiver.unread decode with
  | nil =>
      rw [unread] at left ending
      refine iff_of_true ?_ trivial
      by_cases quiet : reading.items = []
      · exact (attended_of_quiet (Or.inr quiet)).mpr ⟨Or.inl left, Or.inl quiet⟩
      · exact attended_of_read quiet (by simp [ending])
  | cons message rest =>
      rw [unread] at left ending
      dsimp only [List.tail_cons] at left ending ⊢
      by_cases long : receiver.bufLen < message.length
      · rw [if_pos long] at ending ⊢
        refine (attended_of_quiet (Or.inl ending)).trans ?_
        rw [left, items]
      · rw [if_neg long] at ending ⊢
        by_cases quiet : reading.items = []
        · refine (attended_of_quiet (Or.inr quiet)).trans ?_
          rw [left]
          simp [quiet, items.mp quiet]
        · exact iff_of_true (attended_of_read quiet (by simp [ending]))
            (Or.inl (items.not.mp quiet))

theorem onReadable_waiter (isOpen : receiver.closing = false)
    (pending : (receiver.onReadable decode late).waiter = some .pending) :
    receiver.waiter = some .pending := by
  rw [onReadable_open isOpen] at pending
  dsimp only at pending
  split at pending
  · exact pending
  · rw [reschedule_waiter] at pending
    exact absurd pending (wake_waiter _)

end Call

/-! ## Runs -/

inductive Label
  | arrive (messages : List (List UInt8))
  /-- The event loop calls the reader of the descriptor. -/
  | readable (late : List (List UInt8))
  /-- A handle of `call_soon` fires. -/
  | soon (late : List (List UInt8))
  /-- The consumer calls `recv`; it has one call at a time. -/
  | recv
  /-- The call that waited goes on. -/
  | resume
  /-- The call that waits is cancelled. -/
  | cancel
  | poll
  | close

/-- The receiver once the handle that fires is no longer scheduled. -/
def fired (receiver : ReceiverTransport Item) : ReceiverTransport Item :=
  { receiver with scheduled := receiver.scheduled - 1 }

def step (decode : List UInt8 → Option Item) (receiver : ReceiverTransport Item) :
    Label → Option (ReceiverTransport Item)
  | .arrive messages => some (receiver.arrive messages)
  | .readable late =>
      if receiver.readable && !receiver.closing then some (receiver.onReadable decode late)
      else none
  | .soon late =>
      if 0 < receiver.scheduled then some (receiver.fired.onReadable decode late) else none
  | .recv => if receiver.waiter = none then some receiver.recv else none
  | .resume => if receiver.waiter = some .done then some receiver.recv else none
  | .cancel => if receiver.waiter = none then none else some { receiver with waiter := none }
  | .poll => some receiver.poll.2
  | .close => some receiver.close

/-- The calls of the callback meet the condition. -/
def Watched (decode : List UInt8 → Option Item) (receiver : ReceiverTransport Item) :
    Label → Prop
  | .readable late => receiver.KeepsWatch decode late
  | .soon late => receiver.closing = true ∨ receiver.fired.KeepsWatch decode late
  | _ => True

instance (decode : List UInt8 → Option Item) (receiver : ReceiverTransport Item)
    (label : Label) : Decidable (Watched decode receiver label) := by
  unfold Watched
  cases label <;> infer_instance

/-- What holds of an open receiver between the steps. -/
def Watching (receiver : ReceiverTransport Item) : Prop :=
  receiver.closing = false → receiver.Attended ∧ receiver.Available

namespace Watching

variable {decode : List UInt8 → Option Item} {receiver : ReceiverTransport Item}

theorem arrive (watching : receiver.Watching) (messages : List (List UInt8)) :
    (receiver.arrive messages).Watching := by
  intro isOpen
  obtain ⟨attended, available⟩ := watching isOpen
  refine ⟨?_, available⟩
  unfold Attended ReceiverTransport.arrive
  dsimp only
  obtain empty | readable | scheduled := attended
  · cases messages with
    | nil => exact Or.inl (by simp [empty])
    | cons message rest => exact Or.inr (Or.inl (by simp))
  · exact Or.inr (Or.inl (by simp [readable]))
  · exact Or.inr (Or.inr scheduled)

/-- A call needs only that what was queued before is available. -/
theorem onReadable {late : List (List UInt8)} (available : receiver.Available)
    (isOpen : receiver.closing = false) (keeps : receiver.KeepsWatch decode late) :
    (receiver.onReadable decode late).Watching := by
  intro _
  obtain ⟨attended, queued⟩ := (onReadable_keepsWatch isOpen).mpr keeps
  refine ⟨attended, fun nonempty => ?_⟩
  by_cases same : (receiver.onReadable decode late).deque = receiver.deque
  · intro pending
    rw [same] at nonempty
    exact available nonempty (onReadable_waiter isOpen pending)
  · exact queued same

theorem recv (watching : receiver.Watching) : receiver.recv.Watching := by
  unfold ReceiverTransport.recv
  split
  · intro isOpen
    exact ⟨(watching isOpen).1, fun _ => by simp⟩
  · rename_i empty
    split
    · intro isOpen
      exact ⟨(watching isOpen).1, fun _ => by simp⟩
    · intro isOpen
      exact ⟨(watching isOpen).1, fun nonempty => absurd empty nonempty⟩

theorem step (watching : receiver.Watching) {label : Label}
    (watched : Watched decode receiver label) {next : ReceiverTransport Item}
    (edge : receiver.step decode label = some next) : next.Watching := by
  cases label with
  | arrive messages =>
      obtain rfl := Option.some.inj edge
      exact watching.arrive messages
  | readable late =>
      rw [ReceiverTransport.step] at edge
      split at edge
      · rename_i called
        obtain rfl := Option.some.inj edge
        rw [Bool.and_eq_true, Bool.not_eq_true'] at called
        have isOpen := called.2
        exact onReadable (watching isOpen).2 isOpen watched
      · cases edge
  | soon late =>
      rw [ReceiverTransport.step] at edge
      split at edge
      · obtain rfl := Option.some.inj edge
        cases isOpen : receiver.closing with
        | false =>
            obtain closing | keeps := watched
            · simp [isOpen] at closing
            · have firedOpen : receiver.fired.closing = false := isOpen
              exact onReadable (watching isOpen).2 firedOpen keeps
        | true =>
            intro stillOpen
            have closed : receiver.fired.closing = true := isOpen
            rw [ReceiverTransport.onReadable] at stillOpen
            simp [closed, ReceiverTransport.arrive] at stillOpen
      · cases edge
  | recv =>
      rw [ReceiverTransport.step] at edge
      split at edge
      · obtain rfl := Option.some.inj edge
        exact watching.recv
      · cases edge
  | resume =>
      rw [ReceiverTransport.step] at edge
      split at edge
      · obtain rfl := Option.some.inj edge
        exact watching.recv
      · cases edge
  | cancel =>
      rw [ReceiverTransport.step] at edge
      split at edge
      · cases edge
      · obtain rfl := Option.some.inj edge
        exact fun isOpen => ⟨(watching isOpen).1, fun _ => by simp⟩
  | poll =>
      obtain rfl := Option.some.inj edge
      unfold ReceiverTransport.poll
      split
      · exact watching
      · rename_i queued
        exact fun isOpen => ⟨(watching isOpen).1,
          fun _ => (watching isOpen).2 (by simp [queued])⟩
  | close =>
      obtain rfl := Option.some.inj edge
      intro isOpen
      unfold ReceiverTransport.close at isOpen ⊢
      cases closing : receiver.closing with
      | true => simp [closing] at isOpen
      | false =>
          simp only [closing, Bool.false_eq_true, if_false] at isOpen
          unfold wake at isOpen
          split at isOpen <;> cases isOpen

end Watching

/-- A codec of one byte. -/
def firstByte (message : List UInt8) : Option Nat :=
  message.head?.map UInt8.toNat

end ReceiverTransport

end InferenceEndpoint
