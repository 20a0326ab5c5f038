import InferenceEndpoint.Library.GuardedRuns

/-!
# Sender transport

`_ZmqSenderTransport` sends directly while its buffer is empty and the socket takes the
message; otherwise it buffers the message and registers a writer with the event loop.  A run
interleaves sends, the writer callback, the callback from `call_soon` and the close, and the
outcome of each send of the socket is free.  What the socket accepted and then what is buffered
is what was sent, and a buffer with messages has a registered writer.
-/

namespace InferenceEndpoint

/-- What a send of the socket comes to: it takes the message, it raises `zmq.Again`, or it
raises another error. -/
inductive SendOutcome
  | accepted
  | wouldBlock
  | failed
  deriving DecidableEq, Repr

/-- `accepted` holds what the socket took, `registered` whether the event loop has the writer,
and `scheduled` counts the handles of `call_soon` that are not cancelled.  `soonCall` says
whether `_soon_call` is set. -/
structure SenderTransport (Frame : Type*) where
  buffer : List Frame := []
  closing : Bool := false
  writing : Bool := false
  soonCall : Bool := false
  accepted : List Frame := []
  registered : Bool := false
  scheduled : Nat := 0

/-- How far a loop over the buffer came, and the outcome that ended it. -/
structure Drained (Frame : Type*) where
  taken : List Frame
  kept : List Frame
  outcome : SendOutcome

namespace SenderTransport

variable {Data Frame : Type*}

/-- The slow path: buffer and register the writer. -/
def enqueue (sender : SenderTransport Frame) (serialized : Frame) : SenderTransport Frame :=
  let buffered := { sender with buffer := sender.buffer ++ [serialized] }
  if buffered.writing then buffered
  else { buffered with writing := true, registered := true }

def send (encode : Data → Frame) (sender : SenderTransport Frame) (data : Data)
    (outcome : SendOutcome) : SenderTransport Frame :=
  if sender.closing then sender
  else if sender.buffer.isEmpty then
    match outcome with
    | .accepted => { sender with accepted := sender.accepted ++ [encode data] }
    | .wouldBlock => sender.enqueue (encode data)
    -- The error is logged and the message dropped.
    | .failed => sender
  else sender.enqueue (encode data)

/-- The loop of `_on_writable` from its send number `index` on. -/
def drain (outcomes : Nat → SendOutcome) : Nat → List Frame → Drained Frame
  | _, [] => ⟨[], [], .accepted⟩
  | index, frame :: rest =>
      match outcomes index with
      | .accepted =>
          let later := drain outcomes (index + 1) rest
          { later with taken := frame :: later.taken }
      | .wouldBlock => ⟨[], frame :: rest, .wouldBlock⟩
      | .failed => ⟨[], frame :: rest, .failed⟩

def stopWriting (sender : SenderTransport Frame) : SenderTransport Frame :=
  if sender.writing then { sender with registered := false, writing := false } else sender

def onWritable (sender : SenderTransport Frame) (outcomes : Nat → SendOutcome) :
    SenderTransport Frame :=
  let called := { sender with soonCall := false }
  if called.closing then called
  else
    let drained := drain outcomes 0 called.buffer
    let sent := { called with
      accepted := called.accepted ++ drained.taken
      buffer := drained.kept }
    if drained.outcome = .failed then ({ sent with buffer := [] }).stopWriting
    else if sent.buffer.isEmpty then sent.stopWriting
    else if sent.soonCall then sent
    else { sent with soonCall := true, scheduled := sent.scheduled + 1 }

def close (sender : SenderTransport Frame) : SenderTransport Frame :=
  if sender.closing then sender
  else
    let cancelled :=
      if sender.soonCall then
        { sender with soonCall := false, scheduled := sender.scheduled - 1 }
      else sender
    { ({ cancelled with closing := true }).stopWriting with buffer := [] }

/-- The loop takes a first part of the buffer and keeps the rest. -/
theorem drain_append (outcomes : Nat → SendOutcome) (index : Nat) (buffer : List Frame) :
    (drain outcomes index buffer).taken ++ (drain outcomes index buffer).kept = buffer := by
  induction buffer generalizing index with
  | nil => rfl
  | cons frame rest ih =>
      rw [drain]
      cases outcomes index with
      | accepted => exact congrArg (frame :: ·) (ih (index + 1))
      | wouldBlock => rfl
      | failed => rfl

/-- The loop fails only if a send does. -/
theorem drain_outcome {outcomes : Nat → SendOutcome}
    (plain : ∀ index, outcomes index ≠ .failed) (index : Nat) (buffer : List Frame) :
    (drain outcomes index buffer).outcome ≠ .failed := by
  induction buffer generalizing index with
  | nil => exact SendOutcome.noConfusion
  | cons frame rest ih =>
      have here := plain index
      rw [drain]
      cases outcome : outcomes index with
      | accepted => exact ih (index + 1)
      | wouldBlock => exact SendOutcome.noConfusion
      | failed => exact absurd outcome here

end SenderTransport

/-! ## Runs -/

/-- A sender, and what was sent through it while it was open. -/
structure Sending (Data Frame : Type*) where
  sender : SenderTransport Frame := {}
  sent : List Data := []

namespace Sending

variable {Data Frame : Type*}

inductive Label (Data : Type*)
  | send (data : Data) (outcome : SendOutcome)
  /-- The event loop calls the registered writer. -/
  | writable (outcomes : Nat → SendOutcome)
  /-- A handle of `call_soon` fires. -/
  | soon (outcomes : Nat → SendOutcome)
  | close

/-- Every send of the socket succeeds or would block. -/
def Label.OkOrWouldBlock : Label Data → Prop
  | .send _ outcome => outcome ≠ .failed
  | .writable outcomes | .soon outcomes => ∀ index, outcomes index ≠ .failed
  | .close => True

def step (encode : Data → Frame) (state : Sending Data Frame) :
    Label Data → Option (Sending Data Frame)
  | .send data outcome =>
      some
        { sender := state.sender.send encode data outcome
          sent := if state.sender.closing then state.sent else state.sent ++ [data] }
  | .writable outcomes =>
      if state.sender.registered then
        some { state with sender := state.sender.onWritable outcomes }
      else none
  | .soon outcomes =>
      if 0 < state.sender.scheduled then
        let fired := { state.sender with scheduled := state.sender.scheduled - 1 }
        some { state with sender := fired.onWritable outcomes }
      else none
  | .close => some { state with sender := state.sender.close }

variable {encode : Data → Frame}

/-- What holds after every step: the order, a registered writer for a buffer with messages, and
that the flag agrees with the event loop. -/
structure Ordered (encode : Data → Frame) (state : Sending Data Frame) : Prop where
  queued : state.sender.closing = false →
    state.sender.accepted ++ state.sender.buffer = state.sent.map encode
  accepted : state.sender.accepted <+: state.sent.map encode
  writer : state.sender.closing = false → state.sender.buffer ≠ [] →
    state.sender.registered = true
  flag : state.sender.registered = state.sender.writing

namespace Ordered

variable {state : Sending Data Frame}

theorem initial : Ordered encode ({} : Sending Data Frame) :=
  ⟨fun _ => rfl, List.prefix_rfl, fun _ nonempty => absurd rfl nonempty, rfl⟩

/-- The prefix follows from the order while the sender is open. -/
theorem of_queued (queued : state.sender.accepted ++ state.sender.buffer = state.sent.map encode)
    (writer : state.sender.buffer ≠ [] → state.sender.registered = true)
    (flag : state.sender.registered = state.sender.writing) : Ordered encode state :=
  ⟨fun _ => queued, ⟨state.sender.buffer, queued⟩, fun _ => writer, flag⟩

theorem enqueue (ordered : Ordered encode state) (isOpen : state.sender.closing = false)
    (data : Data) :
    Ordered encode ⟨state.sender.enqueue (encode data), state.sent ++ [data]⟩ := by
  have queued := ordered.queued isOpen
  have longer : state.sender.accepted ++ (state.sender.buffer ++ [encode data]) =
      (state.sent ++ [data]).map encode := by
    rw [← List.append_assoc, queued, List.map_append]
    rfl
  unfold SenderTransport.enqueue
  dsimp only
  split
  · rename_i writing
    exact of_queued longer (fun _ => ordered.flag.trans writing) ordered.flag
  · exact of_queued longer (fun _ => rfl) rfl

theorem send (ordered : Ordered encode state) (data : Data) {outcome : SendOutcome}
    (plain : outcome ≠ .failed) :
    Ordered encode ⟨state.sender.send encode data outcome,
      if state.sender.closing then state.sent else state.sent ++ [data]⟩ := by
  unfold SenderTransport.send
  cases isOpen : state.sender.closing with
  | true =>
      rw [if_pos rfl, if_pos rfl]
      exact ordered
  | false =>
      rw [if_neg Bool.false_ne_true, if_neg Bool.false_ne_true]
      cases empty : state.sender.buffer.isEmpty with
      | false => exact ordered.enqueue isOpen data
      | true =>
          rw [if_pos rfl]
          have noneBuffered : state.sender.buffer = [] := List.isEmpty_iff.mp empty
          have queued := ordered.queued isOpen
          rw [noneBuffered, List.append_nil] at queued
          cases outcome with
          | accepted =>
              refine of_queued ?_ (fun nonempty => absurd noneBuffered nonempty) ordered.flag
              simp [noneBuffered, queued]
          | wouldBlock => exact ordered.enqueue isOpen data
          | failed => exact absurd rfl plain

theorem stopWriting {sender : SenderTransport Frame} {sent : List Data}
    (queued : sender.accepted ++ sender.buffer = sent.map encode) (empty : sender.buffer = [])
    (flag : sender.registered = sender.writing) :
    Ordered encode ⟨sender.stopWriting, sent⟩ := by
  unfold SenderTransport.stopWriting
  split
  · exact of_queued queued (fun nonempty => absurd empty nonempty) rfl
  · exact of_queued queued (fun nonempty => absurd empty nonempty) flag

theorem onWritable (ordered : Ordered encode state) {outcomes : Nat → SendOutcome}
    (plain : ∀ index, outcomes index ≠ .failed) :
    Ordered encode { state with sender := state.sender.onWritable outcomes } := by
  unfold SenderTransport.onWritable
  dsimp only
  cases isOpen : state.sender.closing with
  | true =>
      rw [if_pos rfl]
      exact ⟨fun openAgain => (by simp at openAgain), ordered.accepted,
        fun openAgain => (by simp at openAgain), ordered.flag⟩
  | false =>
      rw [if_neg Bool.false_ne_true,
        if_neg (SenderTransport.drain_outcome plain 0 state.sender.buffer)]
      have queued : state.sender.accepted ++
            (SenderTransport.drain outcomes 0 state.sender.buffer).taken ++
          (SenderTransport.drain outcomes 0 state.sender.buffer).kept =
            state.sent.map encode := by
        rw [List.append_assoc, SenderTransport.drain_append]
        exact ordered.queued isOpen
      split
      · rename_i empty
        exact stopWriting queued (List.isEmpty_iff.mp empty) ordered.flag
      · rename_i remaining
        -- Something is still buffered, so something was before, and the writer stays.
        have nonempty : state.sender.buffer ≠ [] := by
          intro noneBuffered
          rw [noneBuffered] at remaining
          exact remaining rfl
        have writer := ordered.writer isOpen nonempty
        exact of_queued queued (fun _ => writer) ordered.flag

theorem close (ordered : Ordered encode state) :
    Ordered encode { state with sender := state.sender.close } := by
  unfold SenderTransport.close
  cases isOpen : state.sender.closing with
  | true =>
      rw [if_pos rfl]
      exact ordered
  | false =>
      rw [if_neg Bool.false_ne_true]
      have closed : ∀ sender : SenderTransport Frame,
          sender.accepted = state.sender.accepted → sender.registered = sender.writing →
          Ordered encode ⟨{ ({ sender with closing := true }).stopWriting with buffer := [] },
            state.sent⟩ := by
        intro sender accepted flag
        unfold SenderTransport.stopWriting
        dsimp only
        split
        · exact ⟨fun openAgain => (by simp at openAgain), accepted ▸ ordered.accepted,
            fun openAgain => (by simp at openAgain), rfl⟩
        · exact ⟨fun openAgain => (by simp at openAgain), accepted ▸ ordered.accepted,
            fun openAgain => (by simp at openAgain), flag⟩
      dsimp only
      split
      · exact closed _ rfl ordered.flag
      · exact closed _ rfl ordered.flag

theorem step (ordered : Ordered encode state) {label : Label Data} (plain : label.OkOrWouldBlock)
    {next : Sending Data Frame} (edge : state.step encode label = some next) :
    Ordered encode next := by
  cases label with
  | send data outcome =>
      obtain rfl := Option.some.inj edge
      exact ordered.send data plain
  | writable outcomes =>
      rw [Sending.step] at edge
      split at edge
      · obtain rfl := Option.some.inj edge
        exact ordered.onWritable plain
      · cases edge
  | soon outcomes =>
      rw [Sending.step] at edge
      split at edge
      · obtain rfl := Option.some.inj edge
        have fired : Ordered encode { state with
            sender := { state.sender with scheduled := state.sender.scheduled - 1 } } :=
          ⟨ordered.queued, ordered.accepted, ordered.writer, ordered.flag⟩
        exact fired.onWritable plain
      · cases edge
  | close =>
      obtain rfl := Option.some.inj edge
      exact ordered.close

end Ordered

/-- After every run without socket errors: what the socket accepted and then the buffer is what
was sent, in order, and an open sender with a buffer has a writer to empty it. -/
theorem sender_in_order {labels : List (Label Data)} {state : Sending Data Frame}
    (plain : ∀ label ∈ labels, label.OkOrWouldBlock)
    (runs : GuardedRuns.run (step encode) {} labels = some state) :
    (state.sender.closing = false →
      state.sender.accepted ++ state.sender.buffer = state.sent.map encode) ∧
    state.sender.accepted <+: state.sent.map encode ∧
    (state.sender.closing = false → state.sender.buffer ≠ [] →
      state.sender.registered = true ∨ 0 < state.sender.scheduled) := by
  have meets : GuardedRuns.Meets (step encode) (fun _ label => label.OkOrWouldBlock) {} labels :=
    GuardedRuns.meets_of_forall_mem (fun label member _ => plain label member) _
  have ordered : Ordered encode state :=
    GuardedRuns.invariant_of_meets (fun _ _ _ holds guarded edge => holds.step guarded edge)
      Ordered.initial meets runs
  exact ⟨ordered.queued, ordered.accepted,
    fun isOpen nonempty => Or.inl (ordered.writer isOpen nonempty)⟩

/-- The third message is sent while the second one is still buffered, and stays behind it. -/
def bufferedRun : List (Label Nat) :=
  [.send 1 .accepted, .send 2 .wouldBlock, .send 3 .accepted,
    .writable fun index => if index = 0 then .accepted else .wouldBlock]

theorem sender_in_order_buffered :
    ∃ state, GuardedRuns.run (step (id : Nat → Nat)) {} bufferedRun = some state ∧
      state.sender.accepted = [1, 2] ∧ state.sender.buffer = [3] ∧
      state.sender.accepted ++ state.sender.buffer = state.sent.map id ∧
      (state.sender.registered = true ∨ 0 < state.sender.scheduled) := by
  refine ⟨_, rfl, rfl, rfl, ?_⟩
  have plain : ∀ label ∈ bufferedRun, label.OkOrWouldBlock := by
    intro label member
    simp only [bufferedRun, List.mem_cons, List.not_mem_nil, or_false] at member
    obtain rfl | rfl | rfl | rfl := member
    · exact SendOutcome.noConfusion
    · exact SendOutcome.noConfusion
    · exact SendOutcome.noConfusion
    · intro index
      dsimp only
      split <;> decide
  have ordered := sender_in_order plain
    (show GuardedRuns.run (step (id : Nat → Nat)) {} bufferedRun = some _ from rfl)
  exact ⟨ordered.1 rfl, ordered.2.2 rfl (by decide)⟩

end Sending

end InferenceEndpoint
