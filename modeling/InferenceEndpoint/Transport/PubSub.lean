import InferenceEndpoint.Library.GuardedRuns
import InferenceEndpoint.Library.Msgpack

/-!
# Publish and subscribe over ZMQ

`ZmqMessagePublisher` buffers payloads, packs them into frames and keeps the
frames that the socket would not take; `ZmqMessageSubscriber.receive` unpacks
the frames one payload at a time.  A run interleaves publishing, flushing, the
writer callback, the close, the delivery of a frame and `receive`.  What was
returned, unpacked, delivered, sent, queued and buffered is, in this order,
what was published.
-/

namespace InferenceEndpoint

/-- `TOPIC_FRAME_SIZE`. -/
def topicFrameSize : Nat := 40

/-- `BATCH_TOPIC`: "batch", padded. -/
def batchTopic : Msgpack.Bytes :=
  [98, 97, 116, 99, 104] ++ List.replicate 35 0

/-- What the codec makes of an item: a topic of the fixed size other than the
one of batches, and a payload. -/
structure EncodedItem where
  topic : Msgpack.Bytes
  payload : Msgpack.Bytes
  topic_size : topic.length = topicFrameSize
  topic_ne : topic ≠ batchTopic
  payload_ne : payload ≠ []

/-- `wire` holds the frames that the socket took and has not delivered yet. -/
structure MessagePublisher where
  sendThreshold : Int
  /-- Without a loop the sends block. -/
  hasLoop : Bool
  batchBuffer : List Msgpack.Bytes := []
  lastTopic : Msgpack.Bytes := []
  pending : List Msgpack.Bytes := []
  writing : Bool := false
  isClosed : Bool := false
  wire : List Msgpack.Bytes := []

namespace MessagePublisher

/-- `_send_frame`; `accepted` says whether a send that does not block succeeds,
and `none` that it raises. -/
def sendFrame (publisher : MessagePublisher) (frame : Msgpack.Bytes) (accepted : Bool) :
    Option MessagePublisher :=
  if publisher.pending.isEmpty && (accepted || !publisher.hasLoop) then
    some { publisher with wire := publisher.wire ++ [frame] }
  else if !publisher.hasLoop then none
  else some { publisher with pending := publisher.pending ++ [frame], writing := true }

/-- The frame of the buffered payloads, if they can be encoded. -/
def batchFrame (publisher : MessagePublisher) : Option Msgpack.Bytes :=
  match publisher.batchBuffer with
  | [payload] => some (publisher.lastTopic ++ payload)
  | buffer => (Msgpack.encode buffer).map fun encoded => batchTopic ++ encoded

/-- `_flush_batch`; when it raises the buffer is as before. -/
def flushBatch (publisher : MessagePublisher) (accepted : Bool) :
    Option MessagePublisher :=
  publisher.batchFrame.bind fun frame =>
    { publisher with batchBuffer := [] }.sendFrame frame accepted

def buffer (publisher : MessagePublisher) (topic payload : Msgpack.Bytes) : MessagePublisher :=
  { publisher with
      lastTopic := topic
      batchBuffer := publisher.batchBuffer ++ [payload] }

def send (publisher : MessagePublisher) (topic payload : Msgpack.Bytes) (accepted : Bool) :
    MessagePublisher :=
  let buffered := publisher.buffer topic payload
  if (buffered.batchBuffer.length : Int) ≥ buffered.sendThreshold then
    (buffered.flushBatch accepted).getD buffered
  else buffered

def publish (publisher : MessagePublisher) (item : EncodedItem) (accepted : Bool) :
    MessagePublisher :=
  if publisher.isClosed then publisher
  else publisher.send item.topic item.payload accepted

def flush (publisher : MessagePublisher) (accepted : Bool) : MessagePublisher :=
  if publisher.batchBuffer.isEmpty then publisher
  else (publisher.flushBatch accepted).getD publisher

/-- `_drain_pending` when the socket takes that many frames before it would
block. -/
def drainPending (publisher : MessagePublisher) (taken : Nat) : MessagePublisher :=
  { publisher with
      wire := publisher.wire ++ publisher.pending.take taken
      pending := publisher.pending.drop taken }

def onWritable (publisher : MessagePublisher) (taken : Nat) : MessagePublisher :=
  if publisher.isClosed then publisher
  else
    let drained := publisher.drainPending taken
    if drained.pending.isEmpty then { drained with writing := false } else drained

/-- What is left to do once `close` flushed the buffer: the sends of the final
drain block. -/
def finishClose (publisher : MessagePublisher) : MessagePublisher :=
  if publisher.hasLoop then
    { publisher.drainPending publisher.pending.length with
        isClosed := true
        writing := false }
  else { publisher with isClosed := true }

def close (publisher : MessagePublisher) (accepted : Bool) : MessagePublisher :=
  if publisher.isClosed then publisher
  else if publisher.batchBuffer.isEmpty then publisher.finishClose
  else ((publisher.flushBatch accepted).map finishClose).getD publisher

end MessagePublisher

/-- What `receive` does: it returns a payload, `None`, or raises
`StopIteration`. -/
inductive Received
  | payload (payload : Msgpack.Bytes)
  | nothing
  | stopIteration
  deriving DecidableEq, Repr

/-- The payloads that `receive` takes out of a frame. -/
def unpack (raw : Msgpack.Bytes) : List Msgpack.Bytes :=
  if raw.take topicFrameSize = batchTopic then
    ((Msgpack.decode (raw.drop topicFrameSize)).getD []).filter fun payload => payload ≠ []
  else if topicFrameSize < raw.length then [raw.drop topicFrameSize]
  else []

structure MessageSubscriber where
  /-- The frames that arrived at the socket. -/
  socket : List Msgpack.Bytes := []
  buffer : List Msgpack.Bytes := []

namespace MessageSubscriber

def receive (subscriber : MessageSubscriber) : Received × MessageSubscriber :=
  match subscriber.buffer, subscriber.socket with
  | payload :: rest, _ => (.payload payload, { subscriber with buffer := rest })
  | [], [] => (.stopIteration, subscriber)
  | [], raw :: socket =>
      match unpack raw with
      | payload :: rest => (.payload payload, { socket := socket, buffer := rest })
      | [] => (.nothing, { socket := socket, buffer := [] })

end MessageSubscriber

/-- `published` and `returned` are the payloads that went in and came out. -/
structure PubSub where
  publisher : MessagePublisher
  subscriber : MessageSubscriber := {}
  published : List Msgpack.Bytes := []
  returned : List Msgpack.Bytes := []

namespace PubSub

inductive Label
  | publish (item : EncodedItem) (accepted : Bool)
  | flush (accepted : Bool)
  | onWritable (taken : Nat)
  | close (accepted : Bool)
  /-- The next frame arrives at the subscriber. -/
  | deliver
  | receive

def start (sendThreshold : Int) (hasLoop : Bool) : PubSub where
  publisher := { sendThreshold := sendThreshold, hasLoop := hasLoop }

def step (state : PubSub) : Label → Option PubSub
  | .publish item accepted =>
      some { state with
        publisher := state.publisher.publish item accepted
        published :=
          if state.publisher.isClosed then state.published
          else state.published ++ [item.payload] }
  | .flush accepted => some { state with publisher := state.publisher.flush accepted }
  | .onWritable taken =>
      if state.publisher.writing then
        some { state with publisher := state.publisher.onWritable taken }
      else none
  | .close accepted => some { state with publisher := state.publisher.close accepted }
  | .deliver =>
      match state.publisher.wire with
      | [] => none
      | frame :: wire =>
          some { state with
            publisher := { state.publisher with wire := wire }
            subscriber := { state.subscriber with
              socket := state.subscriber.socket ++ [frame] } }
  | .receive =>
      let result := state.subscriber.receive
      some { state with
        subscriber := result.2
        returned :=
          match result.1 with
          | .payload payload => state.returned ++ [payload]
          | _ => state.returned }

/-! ## Frames -/

/-- The buffer can be packed: it is at most one payload, or it has an encoding. -/
def Packable (buffer : List Msgpack.Bytes) : Prop :=
  buffer.length ≤ 1 ∨ Msgpack.Fits buffer

instance (buffer : List Msgpack.Bytes) : Decidable (Packable buffer) := by
  unfold Packable Msgpack.Fits
  infer_instance

/-- The topic and the payloads of the buffer are those of items. -/
structure Buffered (publisher : MessagePublisher) : Prop where
  nonempty : ∀ payload ∈ publisher.batchBuffer, payload ≠ []
  topic : publisher.batchBuffer ≠ [] →
    publisher.lastTopic.length = topicFrameSize ∧ publisher.lastTopic ≠ batchTopic
  packable : Packable publisher.batchBuffer

theorem batchTopic_length : batchTopic.length = topicFrameSize := by
  decide

theorem unpack_batch {payloads : List Msgpack.Bytes} {encoded : Msgpack.Bytes}
    (encodes : Msgpack.encode payloads = some encoded)
    (nonempty : ∀ payload ∈ payloads, payload ≠ []) :
    unpack (batchTopic ++ encoded) = payloads := by
  have head : (batchTopic ++ encoded).take topicFrameSize = batchTopic := by
    rw [← batchTopic_length]
    simp
  have tail : (batchTopic ++ encoded).drop topicFrameSize = encoded := by
    rw [← batchTopic_length]
    simp
  rw [unpack, if_pos head, tail, Msgpack.decode_encode encodes, Option.getD_some]
  exact List.filter_eq_self.mpr fun payload member => by simpa using nonempty payload member

theorem unpack_single {topic payload : Msgpack.Bytes} (size : topic.length = topicFrameSize)
    (notBatch : topic ≠ batchTopic) (nonempty : payload ≠ []) :
    unpack (topic ++ payload) = [payload] := by
  have head : (topic ++ payload).take topicFrameSize = topic := by
    rw [← size]
    simp
  have tail : (topic ++ payload).drop topicFrameSize = payload := by
    rw [← size]
    simp
  have positive := List.length_pos_iff.mpr nonempty
  rw [unpack, head, if_neg notBatch, if_pos (by simp [size, positive]), tail]

/-- Unpacking undoes packing, in both forms. -/
theorem unpack_batchFrame {publisher : MessagePublisher} (buffered : Buffered publisher)
    (filled : publisher.batchBuffer ≠ []) {frame : Msgpack.Bytes}
    (packs : publisher.batchFrame = some frame) : unpack frame = publisher.batchBuffer := by
  have nonempty := buffered.nonempty
  unfold MessagePublisher.batchFrame at packs
  split at packs
  · rename_i payload single
    obtain rfl := Option.some.inj packs
    obtain ⟨size, notBatch⟩ := buffered.topic filled
    rw [single] at nonempty ⊢
    exact unpack_single size notBatch (nonempty payload List.mem_cons_self)
  · obtain ⟨encoded, encodes, rfl⟩ := Option.map_eq_some_iff.mp packs
    exact unpack_batch encodes nonempty

theorem batchFrame_isSome {publisher : MessagePublisher} (buffered : Buffered publisher)
    (filled : publisher.batchBuffer ≠ []) : ∃ frame, publisher.batchFrame = some frame := by
  unfold MessagePublisher.batchFrame
  split
  · exact ⟨_, rfl⟩
  · rename_i several
    have fits : Msgpack.Fits publisher.batchBuffer := by
      refine buffered.packable.resolve_left fun short => ?_
      cases shape : publisher.batchBuffer with
      | nil => exact filled shape
      | cons payload rest =>
          rw [shape] at short
          have last : rest = [] := List.length_eq_zero_iff.mp (by simpa using short)
          exact several payload (by rw [shape, last])
    obtain ⟨encoded, encodes⟩ := Msgpack.encode_isSome fits
    exact ⟨batchTopic ++ encoded, by rw [encodes]; rfl⟩

/-! ## Nothing is lost -/

/-- The payloads in a list of frames. -/
def payloads (frames : List Msgpack.Bytes) : List Msgpack.Bytes :=
  frames.flatMap unpack

theorem payloads_append (first second : List Msgpack.Bytes) :
    payloads (first ++ second) = payloads first ++ payloads second :=
  List.flatMap_append

/-- The payloads that the publisher still has, in order. -/
def held (publisher : MessagePublisher) : List Msgpack.Bytes :=
  payloads publisher.wire ++ payloads publisher.pending ++ publisher.batchBuffer

/-- What the publisher keeps: its buffer can be packed, no frame is empty, only
a publisher with a loop queues frames, and a closed one has sent everything. -/
structure Keeps (publisher : MessagePublisher) : Prop where
  buffered : Buffered publisher
  wire : ∀ frame ∈ publisher.wire, unpack frame ≠ []
  pending : ∀ frame ∈ publisher.pending, unpack frame ≠ []
  eager : publisher.hasLoop = false → publisher.pending = []
  closed : publisher.isClosed = true → publisher.pending = [] ∧ publisher.batchBuffer = []

namespace Keeps

variable {publisher : MessagePublisher}

/-- A flush succeeds, keeps the order of the payloads and empties the buffer. -/
theorem flushBatch (keeps : Keeps publisher) (filled : publisher.batchBuffer ≠ [])
    (accepted : Bool) : ∃ next, publisher.flushBatch accepted = some next ∧
      Keeps next ∧ held next = held publisher ∧ next.batchBuffer = [] ∧
      next.isClosed = publisher.isClosed ∧ next.hasLoop = publisher.hasLoop := by
  have openStill : publisher.isClosed = false := by
    cases closed : publisher.isClosed with
    | false => rfl
    | true => exact absurd (keeps.closed closed).2 filled
  obtain ⟨frame, packs⟩ := batchFrame_isSome keeps.buffered filled
  have unpacks := unpack_batchFrame keeps.buffered filled packs
  have nonempty : unpack frame ≠ [] := by rw [unpacks]; exact filled
  have emptied : Buffered { publisher with batchBuffer := [] } :=
    ⟨by simp, by simp, Or.inl (by simp)⟩
  rw [MessagePublisher.flushBatch, packs, Option.bind_some, MessagePublisher.sendFrame]
  split
  · rename_i direct
    have queueEmpty : publisher.pending = [] := by
      simp only [Bool.and_eq_true, List.isEmpty_iff] at direct
      exact direct.1
    refine ⟨_, rfl, ⟨⟨emptied.nonempty, by simp, emptied.packable⟩, ?_, keeps.pending,
      keeps.eager, by simp [openStill]⟩, ?_, rfl, rfl, rfl⟩
    · intro other member
      rcases List.mem_append.mp member with old | new
      · exact keeps.wire other old
      · rw [List.mem_singleton.mp new]
        exact nonempty
    · simp [held, payloads, queueEmpty, unpacks]
  · rename_i queued
    have looped : publisher.hasLoop = true := by
      cases eager : publisher.hasLoop with
      | true => rfl
      | false => simp [keeps.eager eager, eager] at queued
    rw [if_neg (by simp [looped])]
    refine ⟨_, rfl, ⟨⟨emptied.nonempty, by simp, emptied.packable⟩, keeps.wire, ?_,
      by simp [looped], by simp [openStill]⟩, ?_, rfl, rfl, rfl⟩
    · intro other member
      rcases List.mem_append.mp member with old | new
      · exact keeps.pending other old
      · rw [List.mem_singleton.mp new]
        exact nonempty
    · simp [held, payloads, unpacks]

theorem flush (keeps : Keeps publisher) (accepted : Bool) :
    Keeps (publisher.flush accepted) ∧ held (publisher.flush accepted) = held publisher := by
  unfold MessagePublisher.flush
  split
  · exact ⟨keeps, rfl⟩
  · rename_i filled
    obtain ⟨next, flushes, nextKeeps, same, _⟩ :=
      keeps.flushBatch (by simpa using filled) accepted
    rw [flushes]
    exact ⟨nextKeeps, same⟩

theorem publish (keeps : Keeps publisher) (item : EncodedItem) (accepted : Bool)
    (openStill : publisher.isClosed = false)
    (packable : Packable (publisher.batchBuffer ++ [item.payload])) :
    Keeps (publisher.publish item accepted) ∧
      held (publisher.publish item accepted) = held publisher ++ [item.payload] := by
  have buffered : Keeps (publisher.buffer item.topic item.payload) := by
    refine ⟨⟨?_, fun _ => ⟨item.topic_size, item.topic_ne⟩, packable⟩, keeps.wire,
      keeps.pending, keeps.eager, ?_⟩
    · intro payload member
      rcases List.mem_append.mp member with old | new
      · exact keeps.buffered.nonempty payload old
      · rw [List.mem_singleton.mp new]
        exact item.payload_ne
    · intro closed
      have closed : publisher.isClosed = true := closed
      rw [openStill] at closed
      simp at closed
  have same : held (publisher.buffer item.topic item.payload) =
      held publisher ++ [item.payload] := by
    simp [held, MessagePublisher.buffer]
  rw [MessagePublisher.publish, openStill, if_neg (by simp), MessagePublisher.send]
  split
  · obtain ⟨next, flushes, nextKeeps, nextHeld, _⟩ :=
      buffered.flushBatch (by simp [MessagePublisher.buffer]) accepted
    rw [flushes]
    exact ⟨nextKeeps, nextHeld.trans same⟩
  · exact ⟨buffered, same⟩

theorem drainPending (keeps : Keeps publisher) (taken : Nat) :
    Keeps (publisher.drainPending taken) ∧
      held (publisher.drainPending taken) = held publisher := by
  constructor
  · refine ⟨⟨keeps.buffered.nonempty, keeps.buffered.topic, keeps.buffered.packable⟩, ?_, ?_,
      ?_, ?_⟩
    · intro frame member
      rcases List.mem_append.mp member with old | new
      · exact keeps.wire frame old
      · exact keeps.pending frame (List.mem_of_mem_take new)
    · exact fun frame member => keeps.pending frame (List.mem_of_mem_drop member)
    · intro eager
      simp [MessagePublisher.drainPending, keeps.eager eager]
    · intro closed
      obtain ⟨noPending, noBuffer⟩ := keeps.closed closed
      exact ⟨by simp [MessagePublisher.drainPending, noPending], noBuffer⟩
  · have split : payloads publisher.pending = payloads (publisher.pending.take taken) ++
        payloads (publisher.pending.drop taken) := by
      rw [← payloads_append, List.take_append_drop]
    simp only [held, MessagePublisher.drainPending, payloads_append, split,
      List.append_assoc]

/-- The writing flag and the closed flag play no role for what is held. -/
theorem onWritable (keeps : Keeps publisher) (taken : Nat) :
    Keeps (publisher.onWritable taken) ∧
      held (publisher.onWritable taken) = held publisher := by
  unfold MessagePublisher.onWritable
  split
  · exact ⟨keeps, rfl⟩
  · obtain ⟨drained, same⟩ := keeps.drainPending taken
    dsimp only
    split
    · exact ⟨⟨⟨drained.buffered.nonempty, drained.buffered.topic, drained.buffered.packable⟩,
        drained.wire, drained.pending, drained.eager, drained.closed⟩, same⟩
    · exact ⟨drained, same⟩

theorem finishClose (keeps : Keeps publisher) (emptied : publisher.batchBuffer = []) :
    Keeps publisher.finishClose ∧ held publisher.finishClose = held publisher := by
  unfold MessagePublisher.finishClose
  split
  · obtain ⟨drained, same⟩ := keeps.drainPending publisher.pending.length
    refine ⟨⟨⟨drained.buffered.nonempty, drained.buffered.topic,
      drained.buffered.packable⟩, drained.wire, drained.pending, drained.eager, ?_⟩, same⟩
    intro _
    exact ⟨by simp [MessagePublisher.drainPending], emptied⟩
  · rename_i eager
    have noPending := keeps.eager (by simpa using eager)
    exact ⟨⟨⟨keeps.buffered.nonempty, keeps.buffered.topic, keeps.buffered.packable⟩,
      keeps.wire, keeps.pending, keeps.eager, fun _ => ⟨noPending, emptied⟩⟩, rfl⟩

/-- The close sends everything. -/
theorem close (keeps : Keeps publisher) (accepted : Bool) :
    Keeps (publisher.close accepted) ∧ held (publisher.close accepted) = held publisher := by
  unfold MessagePublisher.close
  split
  · exact ⟨keeps, rfl⟩
  · split
    · rename_i emptied
      exact keeps.finishClose (by simpa using emptied)
    · rename_i filled
      obtain ⟨next, flushes, nextKeeps, same, emptied, _⟩ :=
        keeps.flushBatch (by simpa using filled) accepted
      rw [flushes]
      obtain ⟨closes, closedSame⟩ := nextKeeps.finishClose emptied
      exact ⟨closes, closedSame.trans same⟩

end Keeps

/-- The payloads that arrived and were not returned. -/
def arrived (subscriber : MessageSubscriber) : List Msgpack.Bytes :=
  subscriber.buffer ++ payloads subscriber.socket

/-- Everything published is returned, arrived or still held, in this order. -/
structure Lossless (state : PubSub) : Prop where
  keeps : Keeps state.publisher
  socket : ∀ frame ∈ state.subscriber.socket, unpack frame ≠ []
  conserved : state.returned ++ arrived state.subscriber ++ held state.publisher =
    state.published

/-- `receive` returns the next payload that arrived, or stops if there is none. -/
theorem receive_arrived {subscriber : MessageSubscriber}
    (socket : ∀ frame ∈ subscriber.socket, unpack frame ≠ []) :
    (arrived subscriber = [] ∧ subscriber.receive = (.stopIteration, subscriber)) ∨
      ∃ payload next, subscriber.receive = (.payload payload, next) ∧
        arrived subscriber = payload :: arrived next ∧
        ∀ frame ∈ next.socket, unpack frame ≠ [] := by
  obtain ⟨frames, buffer⟩ := subscriber
  cases buffer with
  | cons payload rest =>
      exact Or.inr ⟨payload, ⟨frames, rest⟩, rfl, rfl, socket⟩
  | nil =>
      cases frames with
      | nil => exact Or.inl ⟨rfl, rfl⟩
      | cons frame frames =>
          have filled := socket frame List.mem_cons_self
          cases unpacked : unpack frame with
          | nil => exact absurd unpacked filled
          | cons payload rest =>
              refine Or.inr ⟨payload, ⟨frames, rest⟩, ?_, ?_, ?_⟩
              · simp [MessageSubscriber.receive, unpacked]
              · simp [arrived, payloads, unpacked]
              · exact fun other member => socket other (List.mem_cons_of_mem _ member)

/-- A published payload can be packed with the ones it joins. -/
def Batchable (state : PubSub) : Label → Prop
  | .publish item _ =>
      state.publisher.isClosed = true ∨
        Packable (state.publisher.batchBuffer ++ [item.payload])
  | _ => True

instance (state : PubSub) : ∀ label, Decidable (state.Batchable label)
  | .publish item _ =>
      inferInstanceAs (Decidable (state.publisher.isClosed = true ∨
        Packable (state.publisher.batchBuffer ++ [item.payload])))
  | .flush _ | .onWritable _ | .close _ | .deliver | .receive => isTrue trivial

theorem Lossless.step {state next : PubSub} {label : Label} (lossless : state.Lossless)
    (batchable : state.Batchable label) (edge : state.step label = some next) :
    next.Lossless := by
  obtain ⟨keeps, socket, conserved⟩ := lossless
  cases label with
  | publish item accepted =>
      obtain rfl := Option.some.inj edge
      cases closed : state.publisher.isClosed with
      | true =>
          have same : state.publisher.publish item accepted = state.publisher := by
            simp [MessagePublisher.publish, closed]
          refine ⟨?_, socket, ?_⟩
          · rw [same]
            exact keeps
          · simp only [if_true, same]
            exact conserved
      | false =>
          have packable : Packable (state.publisher.batchBuffer ++ [item.payload]) :=
            batchable.resolve_left (by simp [closed])
          obtain ⟨published, same⟩ := keeps.publish item accepted closed packable
          refine ⟨published, socket, ?_⟩
          simp only [Bool.false_eq_true, if_false, same]
          rw [← conserved]
          simp only [List.append_assoc]
  | flush accepted =>
      obtain rfl := Option.some.inj edge
      obtain ⟨flushed, same⟩ := keeps.flush accepted
      refine ⟨flushed, socket, ?_⟩
      dsimp only
      rw [same]
      exact conserved
  | onWritable taken =>
      simp only [PubSub.step] at edge
      split at edge
      · obtain rfl := Option.some.inj edge
        obtain ⟨drained, same⟩ := keeps.onWritable taken
        refine ⟨drained, socket, ?_⟩
        dsimp only
        rw [same]
        exact conserved
      · simp at edge
  | close accepted =>
      obtain rfl := Option.some.inj edge
      obtain ⟨closed, same⟩ := keeps.close accepted
      refine ⟨closed, socket, ?_⟩
      dsimp only
      rw [same]
      exact conserved
  | deliver =>
      simp only [PubSub.step] at edge
      split at edge
      · simp at edge
      · rename_i frame wire shape
        obtain rfl := Option.some.inj edge
        have filled : ∀ other ∈ frame :: wire, unpack other ≠ [] := shape ▸ keeps.wire
        refine ⟨⟨⟨keeps.buffered.nonempty, keeps.buffered.topic, keeps.buffered.packable⟩, ?_,
          keeps.pending, keeps.eager, keeps.closed⟩, ?_, ?_⟩
        · exact fun other member => filled other (List.mem_cons_of_mem _ member)
        · intro other member
          rcases List.mem_append.mp member with old | new
          · exact socket other old
          · rw [List.mem_singleton.mp new]
            exact filled frame List.mem_cons_self
        · rw [← conserved]
          simp [arrived, held, shape, payloads]
  | receive =>
      obtain rfl := Option.some.inj edge
      rcases receive_arrived socket with ⟨none, stops⟩ | ⟨payload, rest, returns, next, filled⟩
      · refine ⟨keeps, ?_, ?_⟩
        · rw [stops]
          exact socket
        · rw [stops]
          exact conserved
      · refine ⟨keeps, ?_, ?_⟩
        · rw [returns]
          exact filled
        · rw [returns, ← conserved, next]
          simp

theorem Lossless.run {state final : PubSub} {labels : List Label} (lossless : state.Lossless)
    (batchable : GuardedRuns.Meets PubSub.step Batchable state labels)
    (ran : GuardedRuns.run PubSub.step state labels = some final) : final.Lossless :=
  GuardedRuns.invariant_of_meets
    (fun _ _ _ lossless met edge => Lossless.step lossless met edge) lossless batchable ran

theorem Lossless.initial (sendThreshold : Int) (hasLoop : Bool) :
    (start sendThreshold hasLoop).Lossless where
  keeps := ⟨⟨by simp [start], by simp [start], Or.inl (by simp [start])⟩, by simp [start],
    by simp [start], by simp [start], by simp [start]⟩
  socket := by simp [start]
  conserved := rfl

/-- Receiving as often as payloads arrived returns them all. -/
theorem receive_all {state : PubSub}
    (socket : ∀ frame ∈ state.subscriber.socket, unpack frame ≠ []) :
    ∃ receives settled,
      GuardedRuns.run step state (List.replicate receives .receive) = some settled ∧
      settled.returned = state.returned ++ arrived state.subscriber ∧
      settled.subscriber.receive.1 = .stopIteration := by
  induction size : (arrived state.subscriber).length generalizing state with
  | zero =>
      have none := List.length_eq_zero_iff.mp size
      refine ⟨0, state, rfl, by simp [none], ?_⟩
      rcases receive_arrived socket with ⟨_, stops⟩ | ⟨payload, rest, _, next, _⟩
      · rw [stops]
      · rw [next] at none
        simp at none
  | succ count ih =>
      rcases receive_arrived socket with ⟨none, _⟩ | ⟨payload, rest, returns, next, filled⟩
      · simp [none] at size
      · rw [next, List.length_cons] at size
        obtain ⟨receives, settled, runs, returned, stops⟩ := @ih
          { state with
            subscriber := rest
            returned := state.returned ++ [payload] } filled (by simpa using size)
        refine ⟨receives + 1, settled, ?_, ?_, stops⟩
        · rw [List.replicate_succ, GuardedRuns.run_cons_eq_some]
          refine ⟨_, ?_, runs⟩
          simp only [step, returns]
        · rw [returned, next]
          simp

/-- Delivering as often as frames are on the wire delivers them all. -/
theorem deliver_all (state : PubSub) :
    GuardedRuns.run step state (List.replicate state.publisher.wire.length .deliver) =
      some { state with
        publisher := { state.publisher with wire := [] }
        subscriber := { state.subscriber with
          socket := state.subscriber.socket ++ state.publisher.wire } } := by
  induction shape : state.publisher.wire generalizing state with
  | nil =>
      obtain ⟨publisher, subscriber, published, returned⟩ := state
      obtain ⟨threshold, loop, buffer, topic, pending, writing, closed, wire⟩ := publisher
      obtain rfl : wire = [] := shape
      simp
  | cons frame wire ih =>
      rw [List.length_cons, List.replicate_succ, GuardedRuns.run_cons_eq_some]
      refine ⟨_, by simp only [step, shape]; rfl, ?_⟩
      rw [ih _ rfl]
      simp

/-- The payloads come out in the order in which they went in, none is lost or
returned twice, and once the publisher is closed, delivering and receiving bring
out the rest. -/
theorem payloads_lossless (sendThreshold : Int) (hasLoop : Bool) (labels : List Label)
    {final : PubSub}
    (ran : GuardedRuns.run step (start sendThreshold hasLoop) labels = some final)
    (batchable : GuardedRuns.Meets step Batchable (start sendThreshold hasLoop) labels) :
    final.returned <+: final.published ∧
      (∀ frame, final.publisher.batchBuffer ≠ [] →
        final.publisher.batchFrame = some frame →
          unpack frame = final.publisher.batchBuffer) ∧
      (final.publisher.isClosed = true →
        ∃ receives settled,
          GuardedRuns.run step final
              (List.replicate final.publisher.wire.length .deliver ++
                List.replicate receives .receive) = some settled ∧
            settled.returned = final.published ∧
            settled.subscriber.receive.1 = .stopIteration) := by
  obtain ⟨keeps, socket, conserved⟩ := (Lossless.initial sendThreshold hasLoop).run batchable ran
  refine ⟨⟨arrived final.subscriber ++ held final.publisher, by rw [← conserved]; simp⟩,
    fun frame filled packs => unpack_batchFrame keeps.buffered filled packs, ?_⟩
  intro closed
  obtain ⟨noPending, noBuffer⟩ := keeps.closed closed
  have delivers := deliver_all final
  have filled : ∀ frame ∈ final.subscriber.socket ++ final.publisher.wire,
      unpack frame ≠ [] := by
    intro frame member
    rcases List.mem_append.mp member with old | new
    · exact socket frame old
    · exact keeps.wire frame new
  obtain ⟨receives, settled, runs, returned, stops⟩ := @receive_all
    { final with
      publisher := { final.publisher with wire := [] }
      subscriber := { final.subscriber with
        socket := final.subscriber.socket ++ final.publisher.wire } } filled
  refine ⟨receives, settled, ?_, ?_, stops⟩
  · rw [GuardedRuns.run_append, delivers]
    exact runs
  · rw [returned, ← conserved]
    simp [arrived, held, noPending, noBuffer, payloads]

/-! ## Two runs -/

/-- The topic "sample.issued", padded. -/
def issuedTopic : Msgpack.Bytes :=
  [115, 97, 109, 112, 108, 101, 46, 105, 115, 115, 117, 101, 100] ++ List.replicate 27 0

/-- An item of that topic. -/
def issuedItem (payload : Msgpack.Bytes) (nonempty : payload ≠ []) : EncodedItem where
  topic := issuedTopic
  payload := payload
  topic_size := by decide
  topic_ne := by decide
  payload_ne := nonempty

/-- The socket blocks for the first batch, a second one queues behind it, and
the close sends both and the last payload. -/
def blockedRun : List Label :=
  [.publish (issuedItem [1] (by simp)) true, .publish (issuedItem [2] (by simp)) false,
    .publish (issuedItem [3] (by simp)) true, .flush true,
    .publish (issuedItem [4] (by simp)) true, .close true]

theorem payloads_lossless_blocked : ∃ final,
    GuardedRuns.run step (start 2 true) blockedRun = some final ∧
      final.published = [[1], [2], [3], [4]] ∧
      ∃ receives settled,
        GuardedRuns.run step final
            (List.replicate final.publisher.wire.length .deliver ++
              List.replicate receives .receive) = some settled ∧
          settled.returned = final.published ∧
          settled.subscriber.receive.1 = .stopIteration := by
  have enabled : ∃ final, GuardedRuns.run step (start 2 true) blockedRun = some final ∧
      final.published = [[1], [2], [3], [4]] ∧ final.publisher.isClosed = true :=
    ⟨_, rfl, rfl, rfl⟩
  obtain ⟨final, ran, published, closed⟩ := enabled
  exact ⟨final, ran, published,
    (payloads_lossless 2 true blockedRun ran (by decide)).2.2 closed⟩

/-- A payload that MessagePack cannot hold, batched with another one: neither of
the two is ever sent, whatever the socket does. -/
theorem payloads_lost : ∃ item : EncodedItem, ∃ final,
    GuardedRuns.run step (start 2 true)
      [.publish (issuedItem [1] (by simp)) true, .publish item true, .close true] =
        some final ∧
      final.published = [[1], item.payload] ∧ final.publisher.isClosed = false ∧
      final.publisher.wire = [] ∧ final.publisher.pending = [] ∧
      final.subscriber.receive.1 = .stopIteration ∧ final.returned = [] := by
  have tooLong : 2 ^ 32 ≤ (List.replicate (2 ^ 32) (0 : UInt8)).length := by
    rw [List.length_replicate]
  generalize List.replicate (2 ^ 32) (0 : UInt8) = payload at tooLong
  have nonempty : payload ≠ [] := by
    rintro rfl
    simp at tooLong
  refine ⟨issuedItem payload nonempty, ?_⟩
  have unpacked : ∀ publisher : MessagePublisher, publisher.batchBuffer = [[1], payload] →
      ∀ accepted, publisher.flushBatch accepted = none := by
    intro publisher shape accepted
    have noEncoding : Msgpack.encode [[1], payload] = none :=
      Msgpack.encode_eq_none (by simp) tooLong
    simp [MessagePublisher.flushBatch, MessagePublisher.batchFrame, shape, noEncoding]
  refine ⟨{ start 2 true with
    publisher := ((start 2 true).publisher.buffer issuedTopic [1]).buffer issuedTopic payload
    published := [[1], payload] }, ?_, rfl, rfl, rfl, rfl, rfl, rfl⟩
  have first : (start 2 true).step (.publish (issuedItem [1] (by simp)) true) =
      some { start 2 true with
        publisher := (start 2 true).publisher.buffer issuedTopic [1]
        published := [[1]] } := rfl
  rw [GuardedRuns.run_cons_eq_some]
  refine ⟨_, first, ?_⟩
  rw [GuardedRuns.run_cons_eq_some]
  refine ⟨{ start 2 true with
    publisher := ((start 2 true).publisher.buffer issuedTopic [1]).buffer issuedTopic payload
    published := [[1], payload] }, ?_, ?_⟩
  · have raises := unpacked
      (((start 2 true).publisher.buffer issuedTopic [1]).buffer issuedTopic payload) rfl true
    simp [step, MessagePublisher.publish, MessagePublisher.send, issuedItem, raises]
    simp [start, MessagePublisher.buffer]
  · have raises := unpacked
      (((start 2 true).publisher.buffer issuedTopic [1]).buffer issuedTopic payload) rfl true
    rw [GuardedRuns.run_cons_eq_some]
    refine ⟨_, ?_, rfl⟩
    simp [step, MessagePublisher.close, raises]
    simp [start, MessagePublisher.buffer]

end PubSub

end InferenceEndpoint
