import InferenceEndpoint.LoadGenerator.Turns
import Mathlib.Algebra.BigOperators.Group.Finset.Basic

/-!
# The accounts of turns

As long as nothing is refused and nothing fails inside the strategy, every turn that
has ended has one outcome, the conversation manager has counted it, and the issuer's
count is the number of turns that were begun.
-/

namespace InferenceEndpoint

variable {config : AgenticConfig}

/-! ## Outcomes -/

def TurnEvent.queryId? : TurnEvent → Option QueryId
  | .announced queryId _ _ => some queryId
  | .sent queryId _ _ => some queryId
  | .received result => some result.id
  | .collected result => some result.id
  | .refused _ _ => none

/-- The turn of the conversation that a sample was announced for. -/
def turnIn (conversationId : String) (events : List TurnEvent) (queryId : QueryId) : Option Nat :=
  events.findSome? fun
    | .announced other issuedFor turn =>
        if other = queryId ∧ issuedFor = conversationId then some turn else none
    | _ => none

/-- The turn of the conversation whose outcome the event records. -/
def TurnEvent.ends (conversationId : String) (events : List TurnEvent) :
    TurnEvent → Option Nat
  | .collected result => turnIn conversationId events result.id
  | _ => none

/-- The turns of the conversation whose outcome was recorded, in that order. -/
def outcomes (conversationId : String) (events : List TurnEvent) : List Nat :=
  events.filterMap (TurnEvent.ends conversationId events)

theorem turnIn_append (conversationId : String) (events news : List TurnEvent)
    (queryId : QueryId) :
    turnIn conversationId (events ++ news) queryId =
      (turnIn conversationId events queryId).or (turnIn conversationId news queryId) := by
  simp [turnIn, List.findSome?_append]

/-- A sample has no turn in events that do not announce it. -/
theorem turnIn_eq_none {conversationId : String} {events : List TurnEvent} {queryId : QueryId}
    (silent : ∀ turn, .announced queryId conversationId turn ∉ events) :
    turnIn conversationId events queryId = none := by
  rw [turnIn, List.findSome?_eq_none_iff]
  intro event member
  cases event with
  | announced other issuedFor turn =>
      dsimp only
      rw [if_neg]
      rintro ⟨rfl, rfl⟩
      exact silent turn member
  | sent | received | collected | refused => rfl

/-- News that announce no known sample leave the turns of the known samples alone. -/
theorem turnIn_append_known {conversationId : String} {events news : List TurnEvent}
    {queryId : QueryId} (silent : ∀ turn, .announced queryId conversationId turn ∉ news) :
    turnIn conversationId (events ++ news) queryId = turnIn conversationId events queryId := by
  rw [turnIn_append, turnIn_eq_none silent, Option.or_none]

theorem outcomes_append {conversationId : String} {events news : List TurnEvent}
    (silent : ∀ result, .collected result ∈ events → ∀ turn,
      .announced result.id conversationId turn ∉ news) :
    outcomes conversationId (events ++ news) =
      outcomes conversationId events ++
        news.filterMap (TurnEvent.ends conversationId (events ++ news)) := by
  rw [outcomes, List.filterMap_append]
  congr 1
  apply List.filterMap_congr
  intro event member
  cases event with
  | collected result => exact turnIn_append_known (silent result member)
  | announced | sent | received | refused => rfl

theorem filterMap_ends_collected (conversationId issuedFor : String) (events : List TurnEvent)
    (queryId : QueryId) (turn : Nat) (result : QueryResult) :
    [.announced queryId issuedFor turn, .collected result].filterMap
        (TurnEvent.ends conversationId events) =
      (turnIn conversationId events result.id).toList := by
  rw [List.filterMap_cons_none rfl]
  cases found : turnIn conversationId events result.id with
  | none => exact List.filterMap_cons_none found
  | some turn => exact List.filterMap_cons_some found

namespace Schedule

/-- The turns of a conversation that have ended. -/
def ended (schedule : Schedule) (conversationId : String) : List Nat :=
  outcomes conversationId schedule.events ++
    (schedule.uncollected.bind fun result =>
      turnIn conversationId schedule.events result.id).toList

/-- The turns of a failed conversation that are being skipped. -/
def doomed (schedule : Schedule) (conversationId : String) : List ConversationTurn :=
  match schedule.control with
  | .aborting other remaining => if other = conversationId then remaining else []
  | _ => []

/-- How many turns of a conversation were begun. -/
def position (schedule : Schedule) (conversationId : String) : Nat :=
  match schedule.active conversationId with
  | some state => state.cursor
  | none => (schedule.counters conversationId).elim 0 ConversationState.completedTurns

/-- Where an instance stands whose first turns have ended. -/
inductive Place (schedule : Schedule) (instance_ : ConversationInstance) (completed : Nat) : Prop
  | waiting {active : ActiveConversation} {queryId : QueryId} {turn : ConversationTurn}
      (seated : schedule.active instance_.logicalId = some active)
      (turns : active.turns = instance_.turns)
      (waits : schedule.waiting queryId = some instance_.logicalId)
      (for_ : turnIn instance_.logicalId schedule.events queryId = some turn.turn)
      (current : instance_.turns[completed]? = some turn)
      (cursor : active.cursor = completed + 1)
  | ready {active : ActiveConversation}
      (seated : schedule.active instance_.logicalId = some active)
      (turns : active.turns = instance_.turns)
      (free : ∀ queryId, schedule.waiting queryId ≠ some instance_.logicalId)
      (cursor : active.cursor = completed)
  | gone
      (left : schedule.active instance_.logicalId = none)
      (free : ∀ queryId, schedule.waiting queryId ≠ some instance_.logicalId)
      (rest : instance_.turns.drop completed = schedule.doomed instance_.logicalId)

/-- The counters and the outcomes of an instance agree. -/
structure Tally (schedule : Schedule) (instance_ : ConversationInstance)
    (state : ConversationState) : Prop where
  counted : schedule.counters instance_.logicalId = some state
  expected : state.expectedClientTurns = some instance_.turns.length
  within : state.completedTurns ≤ instance_.turns.length
  ended : (schedule.ended instance_.logicalId).Perm
    ((instance_.turns.take state.completedTurns).map ConversationTurn.turn)
  place : schedule.Place instance_ state.completedTurns

/-- No turn was refused, and the first user to complete does not end issuing. -/
structure Unhindered (config : AgenticConfig) (schedule : Schedule) : Prop where
  continues : config.stopIssuingOnFirstUserComplete = false
  unrefused : ∀ conversationId turn, .refused conversationId turn ∉ schedule.events

/-- The key of the instance with the given number. -/
def keyAt (config : AgenticConfig) (number : Nat) : String :=
  (config.instanceAt? number).elim "" ConversationInstance.logicalId

structure Accounts (config : AgenticConfig) (schedule : Schedule) : Prop where
  eventsDrawn : ∀ event ∈ schedule.events, ∀ queryId, event.queryId? = some queryId →
    queryId < schedule.nextUuid
  waitingDrawn : ∀ queryId conversationId, schedule.waiting queryId = some conversationId →
    queryId < schedule.nextUuid ∧ (schedule.counters conversationId).isSome
  waitingLaunched : ∀ queryId conversationId,
    schedule.waiting queryId = some conversationId → queryId ∈ schedule.launched
  tallies : ∀ number < schedule.started, ∃ instance_ state,
    config.instanceAt? number = some instance_ ∧ schedule.Tally instance_ state
  known : ∀ conversationId, (schedule.counters conversationId).isSome →
    ∃ number < schedule.started, keyAt config number = conversationId
  dropped : ∀ conversationId remaining,
    schedule.control = .aborting conversationId remaining →
      schedule.active conversationId = none
  announced : ∀ queryId conversationId turn,
    .announced queryId conversationId turn ∈ schedule.events →
      (schedule.counters conversationId).isSome ∧
        (schedule.waiting queryId = some conversationId ∨
          (∃ result, .collected result ∈ schedule.events ∧ result.id = queryId) ∨
          (∃ result, schedule.uncollected = some result ∧ result.id = queryId) ∨
          (queryId < schedule.nextUuid ∧ queryId ∉ schedule.launched))
  kinds : ∀ result, .collected result ∈ schedule.events →
    .received result ∈ schedule.events ∨
      (∃ message, result = World.syntheticResult result.id "TurnTimeout" message) ∨
      ∃ message, result = World.syntheticResult result.id "TurnAbortedByPriorFailure" message
  received : ∀ result, schedule.uncollected = some result → .received result ∈ schedule.events
  issued : schedule.issuedCount =
    ∑ number ∈ Finset.range schedule.started, schedule.position (keyAt config number)

variable {schedule next : Schedule}

/-- Steps do not undo a refusal. -/
theorem Step.unhindered (step : Step config schedule next)
    (unhindered : Unhindered config next) : Unhindered config schedule := by
  obtain ⟨continues, unrefused⟩ := unhindered
  have earlier : ∀ {news : List TurnEvent},
      (∀ conversationId turn, .refused conversationId turn ∉ schedule.events ++ news) →
      ∀ conversationId turn, .refused conversationId turn ∉ schedule.events :=
    fun later conversationId turn member =>
      later conversationId turn (List.mem_append_left _ member)
  cases step with
  | turned | faulted | finished | started => exact ⟨continues, unrefused⟩
  | crashed | answered | rejected | timedOut | collected | issued | stopped | skipped
  | skipRefused =>
      exact ⟨continues, earlier unrefused⟩

/-! ## Instances that a step does not touch -/

theorem Tally.frame {instance_ : ConversationInstance} {state : ConversationState}
    (tally : schedule.Tally instance_ state)
    (active : next.active instance_.logicalId = schedule.active instance_.logicalId)
    (counters : next.counters instance_.logicalId = schedule.counters instance_.logicalId)
    (waiting : ∀ queryId, next.waiting queryId = some instance_.logicalId ↔
      schedule.waiting queryId = some instance_.logicalId)
    (doomed : next.doomed instance_.logicalId = schedule.doomed instance_.logicalId)
    (turns : ∀ queryId, schedule.waiting queryId = some instance_.logicalId →
      turnIn instance_.logicalId next.events queryId =
        turnIn instance_.logicalId schedule.events queryId)
    (ended : next.ended instance_.logicalId = schedule.ended instance_.logicalId) :
    next.Tally instance_ state where
  counted := counters.trans tally.counted
  expected := tally.expected
  within := tally.within
  ended := by
    rw [ended]
    exact tally.ended
  place := by
    cases tally.place with
    | waiting seated same waits for_ current cursor =>
        exact .waiting (active.trans seated) same ((waiting _).mpr waits)
          ((turns _ waits).trans for_) current cursor
    | ready seated same free cursor =>
        exact .ready (active.trans seated) same
          (fun queryId waits => free queryId ((waiting queryId).mp waits)) cursor
    | gone left free rest =>
        exact .gone (active.trans left)
          (fun queryId waits => free queryId ((waiting queryId).mp waits)) (rest.trans doomed.symm)

/-- What has ended, after news about no known sample of the conversation. -/
theorem ended_append {conversationId : String} {news : List TurnEvent}
    (events : next.events = schedule.events ++ news)
    (uncollected : next.uncollected = schedule.uncollected)
    (silent : ∀ result, .collected result ∈ schedule.events ∨
        schedule.uncollected = some result →
      ∀ turn, .announced result.id conversationId turn ∉ news) :
    (next.ended conversationId).Perm (schedule.ended conversationId ++
      news.filterMap (TurnEvent.ends conversationId (schedule.events ++ news))) := by
  unfold ended
  rw [events, uncollected, outcomes_append fun result member => silent result (Or.inl member)]
  have pending : (schedule.uncollected.bind fun result =>
      turnIn conversationId (schedule.events ++ news) result.id) =
        schedule.uncollected.bind fun result =>
          turnIn conversationId schedule.events result.id := by
    cases waits : schedule.uncollected with
    | none => rfl
    | some result => exact turnIn_append_known (silent result (Or.inr waits))
  rw [pending, List.append_assoc, List.append_assoc]
  exact List.Perm.append_left _ List.perm_append_comm

/-- News without an outcome end no turn. -/
theorem ended_unrecorded {conversationId : String} {news : List TurnEvent}
    (events : next.events = schedule.events ++ news)
    (uncollected : next.uncollected = schedule.uncollected)
    (silent : ∀ result, .collected result ∈ schedule.events ∨
        schedule.uncollected = some result →
      ∀ turn, .announced result.id conversationId turn ∉ news)
    (unrecorded : ∀ result, .collected result ∉ news) :
    next.ended conversationId = schedule.ended conversationId := by
  have nothing : news.filterMap (TurnEvent.ends conversationId (schedule.events ++ news)) =
      [] := by
    rw [List.filterMap_eq_nil_iff]
    intro event member
    cases event with
    | collected result => exact absurd member (unrecorded result)
    | announced | sent | received | refused => rfl
  unfold ended
  rw [events, uncollected, outcomes_append fun result member => silent result (Or.inl member),
    nothing, List.append_nil]
  congr 2
  cases waits : schedule.uncollected with
  | none => rfl
  | some result => exact turnIn_append_known (silent result (Or.inr waits))

theorem sum_bump {count : Nat} {keys : Nat → String} {before after : String → Nat}
    {number amount : Nat} (below : number < count)
    (unique : ∀ other < count, keys other = keys number → other = number)
    (others : ∀ key, key ≠ keys number → after key = before key)
    (grows : after (keys number) = before (keys number) + amount) :
    ∑ other ∈ Finset.range count, after (keys other) =
      ∑ other ∈ Finset.range count, before (keys other) + amount := by
  have member : number ∈ Finset.range count := Finset.mem_range.mpr below
  have rest : ∑ other ∈ (Finset.range count).erase number, after (keys other) =
      ∑ other ∈ (Finset.range count).erase number, before (keys other) := by
    refine Finset.sum_congr rfl fun other among => others _ fun same => ?_
    obtain ⟨different, inside⟩ := Finset.mem_erase.mp among
    exact different (unique other (Finset.mem_range.mp inside) same)
  rw [← Finset.add_sum_erase _ _ member, rest, grows, ← Finset.add_sum_erase _ _ member]
  omega

theorem keyAt_of {number : Nat} {instance_ : ConversationInstance}
    (is : config.instanceAt? number = some instance_) :
    keyAt config number = instance_.logicalId := by
  rw [keyAt, is]
  rfl

/-- The instance of a conversation that the manager knows. -/
theorem Accounts.tally (accounts : Accounts config schedule) {conversationId : String}
    {state : ConversationState} (found : schedule.counters conversationId = some state) :
    ∃ number < schedule.started, ∃ instance_,
      config.instanceAt? number = some instance_ ∧ instance_.logicalId = conversationId ∧
        schedule.Tally instance_ state := by
  obtain ⟨number, below, key⟩ := accounts.known conversationId (by rw [found]; rfl)
  obtain ⟨instance_, other, is, tally⟩ := accounts.tallies number below
  have same : instance_.logicalId = conversationId := (keyAt_of is).symm.trans key
  have counted := tally.counted
  rw [same, found] at counted
  obtain rfl := Option.some.inj counted
  exact ⟨number, below, instance_, is, same, tally⟩

theorem Accounts.unique (plain : config.PlainIds) (accounts : Accounts config schedule)
    {number : Nat} (below : number < schedule.started) :
    ∀ other < schedule.started, keyAt config other = keyAt config number → other = number := by
  intro other otherBelow same
  obtain ⟨one, _, oneIs, _⟩ := accounts.tallies number below
  obtain ⟨two, _, twoIs, _⟩ := accounts.tallies other otherBelow
  rw [keyAt_of oneIs, keyAt_of twoIs] at same
  exact instanceAt?_injective plain twoIs oneIs same

/-! ## A turn ends -/

/-- Whoever waits for the query has begun one turn more than have ended. -/
theorem Tally.pending {instance_ : ConversationInstance} {state : ConversationState}
    {queryId : QueryId} (tally : schedule.Tally instance_ state)
    (pending : schedule.Pending queryId instance_.logicalId) :
    ∃ active turn, schedule.active instance_.logicalId = some active ∧
      active.turns = instance_.turns ∧ active.cursor = state.completedTurns + 1 ∧
      instance_.turns[state.completedTurns]? = some turn ∧
      turnIn instance_.logicalId schedule.events queryId = some turn.turn := by
  cases tally.place with
  | waiting seated turns waits for_ current cursor =>
      obtain rfl := pending.alone _ waits
      exact ⟨_, _, seated, turns, cursor, current, for_⟩
  | ready _ _ free => exact absurd pending.waiting (free queryId)
  | gone _ free => exact absurd pending.waiting (free queryId)

theorem take_succ_turns {turns : List ConversationTurn} {completed : Nat}
    {turn : ConversationTurn} (current : turns[completed]? = some turn) :
    (turns.take (completed + 1)).map ConversationTurn.turn =
      (turns.take completed).map ConversationTurn.turn ++ [turn.turn] := by
  rw [List.take_add_one, current]
  simp

/-- How a pending query is settled. -/
structure Settles (schedule next : Schedule) (queryId : QueryId) (conversationId : String)
    (marked : ConversationState) (event : TurnEvent) : Prop where
  active : (next.active = schedule.active ∧
      ∀ other remaining, next.control ≠ .aborting other remaining) ∨
    (next.active = Function.update schedule.active conversationId none ∧
      next.control = .aborting conversationId (schedule.remaining conversationId))
  waiting : next.waiting = Function.update schedule.waiting queryId none
  counters : next.counters =
    Function.update schedule.counters conversationId (some marked)
  started : next.started = schedule.started
  issuedCount : next.issuedCount = schedule.issuedCount
  nextUuid : next.nextUuid = schedule.nextUuid
  launched : next.launched = schedule.launched
  events : next.events = schedule.events ++ [event]
  record : (∃ result, event = .received result ∧ next.uncollected = some result ∧
      result.id = queryId) ∨
    (∃ message, event = .collected (World.syntheticResult queryId "TurnTimeout" message) ∧
      next.uncollected = none)

namespace Settles

variable {queryId : QueryId} {conversationId : String} {marked state : ConversationState}
  {event : TurnEvent}

theorem queryId? (settles : Settles schedule next queryId conversationId marked event) :
    event.queryId? = some queryId := by
  rcases settles.record with ⟨result, rfl, _, rfl⟩ | ⟨message, rfl, _⟩ <;> rfl

theorem unannounced (settles : Settles schedule next queryId conversationId marked event)
    (other : QueryId) (issuedFor : String) (turn : Nat) :
    .announced other issuedFor turn ∉ [event] := by
  rcases settles.record with ⟨result, rfl, _⟩ | ⟨message, rfl, _⟩ <;> simp

theorem turnIn (settles : Settles schedule next queryId conversationId marked event)
    (other : String) (sample : QueryId) :
    InferenceEndpoint.turnIn other next.events sample =
      InferenceEndpoint.turnIn other schedule.events sample := by
  rw [settles.events]
  exact turnIn_append_known fun turn => settles.unannounced _ _ _

/-- The turn of the query is added to what has ended. -/
theorem ended (settles : Settles schedule next queryId conversationId marked event)
    (free : schedule.uncollected = none) (other : String) :
    next.ended other = schedule.ended other ++
      (InferenceEndpoint.turnIn other schedule.events queryId).toList := by
  have silent : ∀ result, .collected result ∈ schedule.events → ∀ turn,
      .announced result.id other turn ∉ [event] :=
    fun result _ turn => settles.unannounced _ _ _
  have same := settles.turnIn other queryId
  unfold Schedule.ended
  rw [free, settles.events, outcomes_append silent]
  rw [settles.events] at same
  rcases settles.record with ⟨result, rfl, uncollected, rfl⟩ | ⟨message, rfl, uncollected⟩
  · rw [uncollected]
    simp [TurnEvent.ends, same]
  · rw [uncollected]
    have ends : TurnEvent.ends other (schedule.events ++
        [.collected (World.syntheticResult queryId "TurnTimeout" message)])
        (.collected (World.syntheticResult queryId "TurnTimeout" message)) =
          InferenceEndpoint.turnIn other schedule.events queryId := same
    cases found : InferenceEndpoint.turnIn other schedule.events queryId with
    | none => simp [ends, found]
    | some turn => simp [ends, found]

theorem doomed (settles : Settles schedule next queryId conversationId marked event)
    {other : String} (different : other ≠ conversationId) : next.doomed other = [] := by
  unfold Schedule.doomed
  rcases settles.active with ⟨_, calm⟩ | ⟨_, aborting⟩
  · cases control : next.control with
    | aborting one remaining => exact absurd control (calm one remaining)
    | _ => rfl
  · rw [aborting]
    simp [Ne.symm different]

end Settles

theorem doomed_idle {other : String} (idle : schedule.control = .idle) :
    schedule.doomed other = [] := by
  rw [doomed, idle]

/-- A sample belongs to one conversation only. -/
theorem Accounts.turnIn_other (accounts : Accounts config schedule) {queryId : QueryId}
    {conversationId other : String} (waiting : schedule.waiting queryId = some conversationId)
    (different : other ≠ conversationId) (free : schedule.uncollected = none)
    (uncollected : ∀ result, .collected result ∈ schedule.events → result.id ≠ queryId) :
    turnIn other schedule.events queryId = none := by
  refine turnIn_eq_none fun turn member => ?_
  obtain ⟨_, waits | ⟨result, collected, same⟩ | ⟨result, pending, _⟩ | ⟨_, unlaunched⟩⟩ :=
    accounts.announced queryId other turn member
  · rw [waiting] at waits
    exact different (Option.some.inj waits).symm
  · exact uncollected result collected same
  · rw [free] at pending
    simp at pending
  · exact unlaunched (accounts.waitingLaunched queryId conversationId waiting)

theorem Settles.free {queryId : QueryId} {conversationId : String}
    {marked : ConversationState} {event : TurnEvent}
    (settles : Settles schedule next queryId conversationId marked event)
    (pending : schedule.Pending queryId conversationId) (other : QueryId) :
    next.waiting other ≠ some conversationId := by
  intro waits
  rw [settles.waiting, Function.update_apply] at waits
  split at waits
  · simp at waits
  · rename_i different
    exact different (pending.alone other waits)

/-- The conversation of the query has one more outcome. -/
theorem Tally.settles {instance_ : ConversationInstance} {state marked : ConversationState}
    {queryId : QueryId} {event : TurnEvent} (tally : schedule.Tally instance_ state)
    (pending : schedule.Pending queryId instance_.logicalId)
    (counted : schedule.Counted instance_.logicalId marked state)
    (settles : Settles schedule next queryId instance_.logicalId marked event) :
    next.Tally instance_ marked ∧
      next.position instance_.logicalId = schedule.position instance_.logicalId := by
  obtain ⟨found, completedTurns, expected⟩ := counted
  obtain ⟨active, turn, seated, turns, cursor, current, for_⟩ := tally.pending pending
  have counters : next.counters instance_.logicalId = some marked := by
    rw [settles.counters, Function.update_self]
  have ended : (next.ended instance_.logicalId).Perm
      ((instance_.turns.take marked.completedTurns).map ConversationTurn.turn) := by
    rw [settles.ended pending.free, for_, completedTurns, take_succ_turns current]
    exact tally.ended.append_right _
  have within : marked.completedTurns ≤ instance_.turns.length := by
    have inside := (List.getElem?_eq_some_iff.mp current).1
    omega
  rcases settles.active with ⟨same, _⟩ | ⟨dropped, aborting⟩
  · refine ⟨⟨counters, expected.trans tally.expected, within, ended, ?_⟩, ?_⟩
    · exact .ready (by rw [same]; exact seated) turns (settles.free pending)
        (cursor.trans completedTurns.symm)
    · rw [position, position, same, seated]
  · have left : next.active instance_.logicalId = none := by
      rw [dropped, Function.update_self]
    refine ⟨⟨counters, expected.trans tally.expected, within, ended, ?_⟩, ?_⟩
    · refine .gone left (settles.free pending) ?_
      rw [doomed, aborting]
      simp [remaining, seated, turns, cursor, completedTurns]
    · rw [position, position, left, seated, counters]
      exact completedTurns.trans cursor.symm

/-- The other conversations are as they were. -/
theorem Tally.settlesOther {one : ConversationInstance} {state marked : ConversationState}
    {queryId : QueryId} {conversationId : String} {event : TurnEvent}
    (accounts : Accounts config schedule) (tally : schedule.Tally one state)
    (pending : schedule.Pending queryId conversationId)
    (settles : Settles schedule next queryId conversationId marked event)
    (different : one.logicalId ≠ conversationId) : next.Tally one state := by
  refine tally.frame ?_ ?_ ?_ ?_ ?_ ?_
  · rcases settles.active with ⟨same, _⟩ | ⟨dropped, _⟩
    · rw [same]
    · rw [dropped, Function.update_of_ne different]
  · rw [settles.counters, Function.update_of_ne different]
  · intro sample
    rw [settles.waiting, Function.update_apply]
    split
    · rename_i same
      subst same
      rw [pending.waiting]
      simp [Ne.symm different]
    · exact Iff.rfl
  · rw [settles.doomed different, doomed_idle pending.idle]
  · exact fun sample _ => settles.turnIn _ _
  · rw [settles.ended pending.free, accounts.turnIn_other pending.waiting different
      pending.free pending.uncollected]
    simp

theorem Settles.position {queryId : QueryId} {conversationId other : String}
    {marked : ConversationState} {event : TurnEvent}
    (settles : Settles schedule next queryId conversationId marked event)
    (different : other ≠ conversationId) :
    next.position other = schedule.position other := by
  have active : next.active other = schedule.active other := by
    rcases settles.active with ⟨same, _⟩ | ⟨dropped, _⟩
    · rw [same]
    · rw [dropped, Function.update_of_ne different]
  rw [Schedule.position, Schedule.position, active, settles.counters,
    Function.update_of_ne different]

theorem Accounts.settles (accounts : Accounts config schedule) {queryId : QueryId}
    {conversationId : String} {marked state : ConversationState} {event : TurnEvent}
    (pending : schedule.Pending queryId conversationId)
    (counted : schedule.Counted conversationId marked state)
    (settles : Settles schedule next queryId conversationId marked event) :
    Accounts config next := by
  obtain ⟨number, below, instance_, is, key, tally⟩ := accounts.tally counted.found
  have old : ∀ {other : QueryId} {issuedFor : String} {turn : Nat},
      .announced other issuedFor turn ∈ next.events →
        .announced other issuedFor turn ∈ schedule.events := by
    intro other issuedFor turn member
    rw [settles.events] at member
    exact (List.mem_append.mp member).resolve_right (settles.unannounced _ _ _)
  have last : event ∈ next.events := by
    rw [settles.events]
    exact List.mem_append_right _ (List.mem_singleton_self _)
  have keeps : ∀ other ∈ schedule.events, other ∈ next.events := by
    intro other member
    rw [settles.events]
    exact List.mem_append_left _ member
  have knows : ∀ other, (schedule.counters other).isSome → (next.counters other).isSome := by
    intro other known
    rw [settles.counters, Function.update_apply]
    split
    · rfl
    · exact known
  refine ⟨?_, ?_, ?_, ?_, ?_, ?_, ?_, ?_, ?_, ?_⟩
  · intro other member sample has
    rw [settles.events] at member
    rw [settles.nextUuid]
    rcases List.mem_append.mp member with old | new
    · exact accounts.eventsDrawn other old sample has
    · obtain rfl := List.mem_singleton.mp new
      rw [settles.queryId?] at has
      obtain rfl := Option.some.inj has
      exact pending.drawn
  · intro other one waits
    rw [settles.waiting, Function.update_apply] at waits
    split at waits
    · simp at waits
    · obtain ⟨drawn, known⟩ := accounts.waitingDrawn other one waits
      rw [settles.nextUuid]
      exact ⟨drawn, knows one known⟩
  · intro other one waits
    rw [settles.waiting, Function.update_apply] at waits
    split at waits
    · simp at waits
    · rw [settles.launched]
      exact accounts.waitingLaunched other one waits
  · intro one inside
    rw [settles.started] at inside
    obtain ⟨other, otherState, otherIs, otherTally⟩ := accounts.tallies one inside
    by_cases same : other.logicalId = conversationId
    · subst same
      have equal := counted.found
      rw [otherTally.counted] at equal
      obtain rfl := Option.some.inj equal
      exact ⟨other, marked, otherIs, (otherTally.settles pending counted settles).1⟩
    · exact ⟨other, otherState, otherIs,
        otherTally.settlesOther accounts pending settles same⟩
  · intro one known
    rw [settles.started]
    rw [settles.counters, Function.update_apply] at known
    split at known
    · rename_i same
      exact ⟨number, below, ((keyAt_of is).trans key).trans same.symm⟩
    · exact accounts.known one known
  · intro one remaining aborting
    rcases settles.active with ⟨_, calm⟩ | ⟨dropped, control⟩
    · exact absurd aborting (calm one remaining)
    · rw [control] at aborting
      obtain ⟨rfl, _⟩ := Control.aborting.inj aborting
      rw [dropped, Function.update_self]
  · intro other issuedFor turn member
    obtain ⟨known, waits | ⟨result, collected, same⟩ | ⟨result, uncollected, _⟩ | unlaunched⟩ :=
      accounts.announced other issuedFor turn (old member)
    · refine ⟨knows _ known, ?_⟩
      by_cases same : other = queryId
      · right
        rcases settles.record with ⟨result, rfl, uncollected, is⟩ | ⟨message, rfl, _⟩
        · exact Or.inr (Or.inl ⟨result, uncollected, is.trans same.symm⟩)
        · exact Or.inl ⟨_, last, same.symm⟩
      · left
        rw [settles.waiting, Function.update_of_ne same]
        exact waits
    · exact ⟨knows _ known, Or.inr (Or.inl ⟨result, keeps _ collected, same⟩)⟩
    · rw [pending.free] at uncollected
      simp at uncollected
    · rw [settles.nextUuid, settles.launched]
      exact ⟨knows _ known, Or.inr (Or.inr (Or.inr unlaunched))⟩
  · intro result member
    rw [settles.events] at member
    rcases List.mem_append.mp member with earlier | new
    · exact (accounts.kinds result earlier).imp_left (keeps _)
    · right; left
      rcases settles.record with ⟨_, rfl, _⟩ | ⟨message, rfl, _⟩
      · simp at new
      · obtain rfl : result = World.syntheticResult queryId "TurnTimeout" message := by
          simpa using new
        exact ⟨message, rfl⟩
  · intro result uncollected
    rcases settles.record with ⟨other, rfl, is, _⟩ | ⟨_, _, is⟩
    · rw [is] at uncollected
      obtain rfl := Option.some.inj uncollected
      exact last
    · rw [is] at uncollected
      simp at uncollected
  · rw [settles.issuedCount, settles.started, accounts.issued]
    refine Finset.sum_congr rfl fun other _ => ?_
    by_cases same : keyAt config other = conversationId
    · subst key
      rw [same]
      exact (tally.settles pending counted settles).2.symm
    · exact (settles.position same).symm

/-! ## The other steps -/

theorem doomed_of_spent {conversationId : String}
    (spent : ∀ other remaining, schedule.control = .aborting other remaining →
      remaining = []) : schedule.doomed conversationId = [] := by
  unfold doomed
  split
  · rename_i other remaining control
    rw [spent other remaining control]
    exact ite_self _
  · rfl

theorem doomed_of_calm {conversationId : String}
    (calm : ∀ other remaining, schedule.control ≠ .aborting other remaining) :
    schedule.doomed conversationId = [] :=
  doomed_of_spent fun other remaining control => absurd control (calm other remaining)

theorem Accounts.turned (accounts : Accounts config schedule) {control : Control}
    (calm : ∀ conversationId remaining, control ≠ .aborting conversationId remaining)
    (spent : ∀ conversationId remaining,
      schedule.control = .aborting conversationId remaining → remaining = []) :
    Accounts config { schedule with control := control } := by
  refine ⟨accounts.eventsDrawn, accounts.waitingDrawn, accounts.waitingLaunched, ?_,
    accounts.known, ?_, accounts.announced, accounts.kinds, accounts.received, accounts.issued⟩
  · intro number below
    obtain ⟨instance_, state, is, tally⟩ := accounts.tallies number below
    refine ⟨instance_, state, is, tally.frame rfl rfl (fun _ => Iff.rfl) ?_ (fun _ _ => rfl) rfl⟩
    rw [doomed_of_spent spent, doomed_of_calm calm]
  · exact fun conversationId remaining control => absurd control (calm conversationId remaining)

theorem Accounts.collected (accounts : Accounts config schedule) {result : QueryResult}
    (uncollected : schedule.uncollected = some result) :
    Accounts config { schedule with
      events := schedule.events ++ [TurnEvent.collected result], uncollected := none } := by
  have received := accounts.received result uncollected
  have drawn : result.id < schedule.nextUuid := accounts.eventsDrawn _ received _ rfl
  have silent : ∀ (sample : QueryId) (conversationId : String) (turn : Nat),
      .announced sample conversationId turn ∉ [TurnEvent.collected result] := by simp
  refine ⟨?_, accounts.waitingDrawn, accounts.waitingLaunched, ?_, accounts.known,
    accounts.dropped, ?_, ?_, (fun _ uncollected => by cases uncollected), accounts.issued⟩
  · intro event member sample has
    rcases List.mem_append.mp member with old | new
    · exact accounts.eventsDrawn event old sample has
    · obtain rfl := List.mem_singleton.mp new
      obtain rfl := Option.some.inj has
      exact drawn
  · intro number below
    obtain ⟨instance_, state, is, tally⟩ := accounts.tallies number below
    refine ⟨instance_, state, is, tally.frame rfl rfl (fun _ => Iff.rfl) rfl
      (fun sample _ => turnIn_append_known fun turn => silent _ _ _) ?_⟩
    rw [ended, ended, outcomes_append fun other _ turn => silent _ _ _, uncollected]
    have same : turnIn instance_.logicalId
        (schedule.events ++ [TurnEvent.collected result]) result.id =
        turnIn instance_.logicalId schedule.events result.id :=
      turnIn_append_known fun turn => silent _ _ _
    cases found : turnIn instance_.logicalId schedule.events result.id with
    | none => simp [TurnEvent.ends, same, found]
    | some turn => simp [TurnEvent.ends, same, found]
  · intro sample conversationId turn member
    have old := (List.mem_append.mp member).resolve_right (silent _ _ _)
    obtain ⟨known, waits | ⟨other, collected, same⟩ | ⟨other, pending, same⟩ | unlaunched⟩ :=
      accounts.announced sample conversationId turn old
    · exact ⟨known, Or.inl waits⟩
    · exact ⟨known, Or.inr (Or.inl ⟨other, List.mem_append_left _ collected, same⟩)⟩
    · obtain rfl : result = other := by simpa [uncollected] using pending
      exact ⟨known, Or.inr (Or.inl ⟨result, by simp, same⟩)⟩
    · exact ⟨known, Or.inr (Or.inr (Or.inr unlaunched))⟩
  · intro other member
    rcases List.mem_append.mp member with old | new
    · exact (accounts.kinds other old).imp_left (List.mem_append_left _)
    · obtain rfl : other = result := by simpa using new
      exact Or.inl (List.mem_append_left _ received)

theorem Accounts.finished (accounts : Accounts config schedule) {conversationId : String}
    {state : ActiveConversation} (holding : schedule.control = .holding conversationId)
    (active : schedule.active conversationId = some state)
    (exhausted : state.turns[state.cursor]? = none)
    (free : ∀ queryId, schedule.waiting queryId ≠ some conversationId) :
    Accounts config { schedule with
      active := Function.update schedule.active conversationId none
      control := .filling } := by
  have rested : ∀ {instance_ : ConversationInstance} {counters : ConversationState},
      instance_.logicalId = conversationId → schedule.Tally instance_ counters →
        state.turns = instance_.turns ∧ state.cursor = counters.completedTurns := by
    rintro instance_ counters rfl tally
    cases tally.place with
    | waiting _ _ waits => exact absurd waits (free _)
    | ready seated turns _ cursor =>
        obtain rfl := Option.some.inj (active.symm.trans seated)
        exact ⟨turns, cursor⟩
    | gone left => simp [active] at left
  refine ⟨accounts.eventsDrawn, accounts.waitingDrawn, accounts.waitingLaunched, ?_,
    accounts.known, nofun, accounts.announced, accounts.kinds, accounts.received, ?_⟩
  · intro number below
    obtain ⟨instance_, counters, is, tally⟩ := accounts.tallies number below
    refine ⟨instance_, counters, is, ?_⟩
    by_cases same : instance_.logicalId = conversationId
    · obtain ⟨turns, cursor⟩ := rested same tally
      refine ⟨tally.counted, tally.expected, tally.within, tally.ended, .gone ?_ ?_ ?_⟩
      · rw [same]
        exact Function.update_self ..
      · rw [same]
        exact free
      · rw [turns, cursor, List.getElem?_eq_none_iff] at exhausted
        exact List.drop_eq_nil_of_le exhausted
    · have calm : schedule.doomed instance_.logicalId = [] :=
        doomed_of_calm (by rw [holding]; nofun)
      exact tally.frame (Function.update_of_ne same ..) rfl (fun _ => Iff.rfl) calm.symm
        (fun _ _ => rfl) rfl
  · refine accounts.issued.trans (Finset.sum_congr rfl fun number among => ?_)
    obtain ⟨instance_, counters, is, tally⟩ :=
      accounts.tallies number (Finset.mem_range.mp among)
    rw [keyAt_of is]
    by_cases same : instance_.logicalId = conversationId
    · obtain ⟨_, cursor⟩ := rested same tally
      have counted := tally.counted
      rw [same] at counted ⊢
      simp [position, active, cursor, counted]
    · simp [position, Function.update_of_ne same]

/-- The news of a sample that was just drawn concern no sample known before. -/
theorem silent_fresh {bound sample : QueryId} (drawn : sample < bound)
    {issuedFor other : String} {turn another : Nat} {event : TurnEvent}
    (plainEvent : ∀ conversationId turn, event ≠ .announced sample conversationId turn) :
    .announced sample other turn ∉ [.announced bound issuedFor another, event] := by
  intro member
  rcases List.mem_cons.mp member with same | rest
  · obtain ⟨rfl, _⟩ := TurnEvent.announced.inj same
    exact absurd drawn (Nat.lt_irrefl _)
  · exact plainEvent _ _ (List.mem_singleton.mp rest).symm

theorem turnIn_fresh {conversationId issuedFor : String} {events : List TurnEvent}
    {bound : QueryId} {turn : Nat} {event : TurnEvent}
    (fresh : ∀ event ∈ events, ∀ queryId, event.queryId? = some queryId → queryId < bound) :
    turnIn conversationId (events ++ [TurnEvent.announced bound issuedFor turn, event]) bound =
      if issuedFor = conversationId then some turn
      else turnIn conversationId [event] bound := by
  have old : turnIn conversationId events bound = none :=
    turnIn_eq_none fun turn member =>
      absurd (fresh _ member bound rfl) (Nat.lt_irrefl _)
  rw [turnIn_append, old, Option.none_or]
  by_cases same : issuedFor = conversationId
  · simp [turnIn, same]
  · simp [turnIn, same]

theorem Accounts.uncollectedDrawn (accounts : Accounts config schedule) {result : QueryResult}
    (uncollected : schedule.uncollected = some result) : result.id < schedule.nextUuid :=
  accounts.eventsDrawn _ (accounts.received result uncollected) _ rfl

/-- The samples whose end is recorded were drawn before. -/
theorem Accounts.endedDrawn (accounts : Accounts config schedule) {result : QueryResult}
    (recorded : .collected result ∈ schedule.events ∨ schedule.uncollected = some result) :
    result.id < schedule.nextUuid :=
  recorded.elim (fun member => accounts.eventsDrawn _ member _ rfl) accounts.uncollectedDrawn

/-- One turn more was begun. -/
theorem Accounts.counts (plain : config.PlainIds) (accounts : Accounts config schedule)
    {number : Nat} (below : number < schedule.started)
    (others : ∀ key, key ≠ keyAt config number → next.position key = schedule.position key)
    (grows : next.position (keyAt config number) =
      schedule.position (keyAt config number) + 1) :
    schedule.issuedCount + 1 =
      ∑ other ∈ Finset.range schedule.started, next.position (keyAt config other) := by
  rw [accounts.issued]
  exact (sum_bump below (accounts.unique plain below) others grows).symm

theorem Accounts.issuedTurn (plain : config.PlainIds) (accounts : Accounts config schedule)
    {conversationId : String} {turn : ConversationTurn} {state : ActiveConversation}
    (due : schedule.control = .due conversationId turn)
    (active : schedule.active conversationId = some state)
    (next : state.turns[state.cursor]? = some turn)
    (free : ∀ queryId, schedule.waiting queryId ≠ some conversationId)
    (known : (schedule.counters conversationId).isSome) :
    Accounts config (schedule.issue conversationId turn state) := by
  have ready : ∀ {instance_ : ConversationInstance} {counters : ConversationState},
      instance_.logicalId = conversationId → schedule.Tally instance_ counters →
        state.turns = instance_.turns ∧ state.cursor = counters.completedTurns := by
    rintro instance_ counters rfl tally
    cases tally.place with
    | waiting _ _ waits => exact absurd waits (free _)
    | ready seated turns _ cursor =>
        obtain rfl := Option.some.inj (active.symm.trans seated)
        exact ⟨turns, cursor⟩
    | gone left => simp [active] at left
  have silent : ∀ {sample : QueryId} {other : String} {another : Nat},
      sample < schedule.nextUuid → .announced sample other another ∉
        [.announced schedule.nextUuid conversationId turn.turn,
          TurnEvent.sent schedule.nextUuid conversationId turn.turn] :=
    fun drawn => silent_fresh drawn nofun
  refine ⟨?_, ?_, ?_, ?_, accounts.known, nofun, ?_, ?_, ?_, ?_⟩
  · intro event member sample has
    rcases List.mem_append.mp member with old | new
    · exact Nat.lt_succ_of_lt (accounts.eventsDrawn event old sample has)
    · rcases List.mem_cons.mp new with rfl | rest
      · obtain rfl := Option.some.inj has
        exact Nat.lt_succ_self _
      · obtain rfl := List.mem_singleton.mp rest
        obtain rfl := Option.some.inj has
        exact Nat.lt_succ_self _
  · intro sample other waits
    dsimp only [issue] at waits ⊢
    rw [Function.update_apply] at waits
    split at waits
    · rename_i same
      obtain rfl := Option.some.inj waits
      exact ⟨same ▸ Nat.lt_succ_self _, known⟩
    · obtain ⟨drawn, there⟩ := accounts.waitingDrawn sample other waits
      exact ⟨Nat.lt_succ_of_lt drawn, there⟩
  · intro sample other waits
    dsimp only [issue] at waits ⊢
    rw [Function.update_apply] at waits
    split at waits
    · rename_i same
      exact same ▸ List.mem_append_right _ (List.mem_singleton_self _)
    · exact List.mem_append_left _ (accounts.waitingLaunched sample other waits)
  · intro number below
    obtain ⟨instance_, counters, is, tally⟩ := accounts.tallies number below
    refine ⟨instance_, counters, is, ?_⟩
    have ended : (schedule.issue conversationId turn state).ended instance_.logicalId =
        schedule.ended instance_.logicalId :=
      ended_unrecorded rfl rfl (fun result recorded another =>
        silent (accounts.endedDrawn recorded)) (by simp)
    by_cases same : instance_.logicalId = conversationId
    · obtain ⟨turns, cursor⟩ := ready same tally
      subst same
      refine ⟨tally.counted, tally.expected, tally.within, by rw [ended]; exact tally.ended, ?_⟩
      have current : instance_.turns[counters.completedTurns]? = some turn := by
        rw [← cursor, ← turns]
        exact next
      exact .waiting (Function.update_self ..) turns (Function.update_self ..)
        ((turnIn_fresh accounts.eventsDrawn).trans (if_pos rfl)) current (by rw [cursor])
    · have calm : schedule.doomed instance_.logicalId = [] :=
        doomed_of_calm (by rw [due]; nofun)
      refine tally.frame (Function.update_of_ne same ..) rfl ?_ calm.symm ?_ ended
      · intro sample
        dsimp only [issue]
        rw [Function.update_apply]
        split
        · rename_i fresh
          subst fresh
          refine ⟨fun equal => absurd (Option.some.inj equal).symm same, fun waits => ?_⟩
          exact absurd (accounts.waitingDrawn _ _ waits).1 (Nat.lt_irrefl _)
        · exact Iff.rfl
      · exact fun sample waits => turnIn_append_known fun another =>
          silent (accounts.waitingDrawn _ _ waits).1
  · intro sample other another member
    rcases List.mem_append.mp member with old | new
    · obtain ⟨there, waits | ⟨result, collected, same⟩ | pending | ⟨below, unlaunched⟩⟩ :=
        accounts.announced sample other another old
      · refine ⟨there, Or.inl ?_⟩
        dsimp only [issue]
        rw [Function.update_of_ne (Nat.ne_of_lt (accounts.waitingDrawn _ _ waits).1)]
        exact waits
      · exact ⟨there, Or.inr (Or.inl ⟨result, List.mem_append_left _ collected, same⟩)⟩
      · exact ⟨there, Or.inr (Or.inr (Or.inl pending))⟩
      · refine ⟨there, Or.inr (Or.inr (Or.inr ⟨Nat.lt_succ_of_lt below, fun launched => ?_⟩))⟩
        rcases List.mem_append.mp launched with old | new
        · exact unlaunched old
        · exact absurd (List.mem_singleton.mp new) (Nat.ne_of_lt below)
    · obtain ⟨rfl, rfl, rfl⟩ : sample = schedule.nextUuid ∧ other = conversationId ∧
          another = turn.turn := by simpa using new
      exact ⟨known, Or.inl (Function.update_self ..)⟩
  · intro result member
    have old : .collected result ∈ schedule.events := by simpa [issue] using member
    exact (accounts.kinds result old).imp_left (List.mem_append_left _)
  · exact fun result pending => List.mem_append_left _ (accounts.received result pending)
  · obtain ⟨counters, found⟩ := Option.isSome_iff_exists.mp known
    obtain ⟨number, below, instance_, is, rfl, tally⟩ := accounts.tally found
    have key := keyAt_of is
    refine accounts.counts plain below ?_ ?_
    · intro other different
      rw [key] at different
      simp [position, issue, Function.update_of_ne different]
    · simp [position, issue, active, key]

theorem Accounts.skippedTurn (plain : config.PlainIds) (accounts : Accounts config schedule)
    {conversationId reason : String} {turn : ConversationTurn} {turns : List ConversationTurn}
    {state marked : ConversationState}
    (aborting : schedule.control = .aborting conversationId (turn :: turns))
    (counted : schedule.Counted conversationId marked state) :
    Accounts config (schedule.skip conversationId turn turns marked reason) := by
  obtain ⟨found, completedTurns, expected⟩ := counted
  have inactive := accounts.dropped _ _ aborting
  have gone : ∀ {instance_ : ConversationInstance} {counters : ConversationState},
      instance_.logicalId = conversationId → schedule.Tally instance_ counters →
        (∀ queryId, schedule.waiting queryId ≠ some conversationId) ∧
          instance_.turns.drop counters.completedTurns = turn :: turns := by
    rintro instance_ counters rfl tally
    cases tally.place with
    | waiting seated => simp [inactive] at seated
    | ready seated => simp [inactive] at seated
    | gone _ free rest =>
        refine ⟨free, rest.trans ?_⟩
        rw [doomed, aborting]
        exact if_pos rfl
  have silent : ∀ {sample : QueryId} {other : String} {another : Nat},
      sample < schedule.nextUuid → .announced sample other another ∉
        [.announced schedule.nextUuid conversationId turn.turn,
          TurnEvent.collected (World.syntheticResult schedule.nextUuid
            "TurnAbortedByPriorFailure" reason)] :=
    fun drawn => silent_fresh drawn nofun
  have fresh : ∀ other, turnIn other (schedule.events ++
      [TurnEvent.announced schedule.nextUuid conversationId turn.turn,
        TurnEvent.collected
          (World.syntheticResult schedule.nextUuid "TurnAbortedByPriorFailure" reason)])
      schedule.nextUuid = if conversationId = other then some turn.turn else none := by
    intro other
    refine (turnIn_fresh accounts.eventsDrawn).trans ?_
    rfl
  have ended : ∀ other, ((schedule.skip conversationId turn turns marked reason).ended
      other).Perm (schedule.ended other ++
        (if conversationId = other then some turn.turn else none).toList) := by
    intro other
    have appended : ((schedule.skip conversationId turn turns marked reason).ended
        other).Perm _ := ended_append rfl rfl fun result recorded another =>
      silent (accounts.endedDrawn recorded)
    refine appended.trans (List.Perm.of_eq ?_)
    congr 1
    rw [filterMap_ends_collected]
    exact congrArg Option.toList (fresh other)
  have untouched : ∀ {instance_ : ConversationInstance} {counters : ConversationState},
      instance_.logicalId ≠ conversationId → schedule.Tally instance_ counters →
        (schedule.skip conversationId turn turns marked reason).Tally instance_ counters := by
    intro instance_ counters different tally
    have same := ended instance_.logicalId
    rw [if_neg (Ne.symm different)] at same
    refine ⟨?_, tally.expected, tally.within, ?_, ?_⟩
    · exact (Function.update_of_ne different ..).trans tally.counted
    · exact (same.trans (by simp)).trans tally.ended
    · cases tally.place with
      | waiting seated turns waits for_ current cursor =>
          refine .waiting seated turns waits ((turnIn_append_known fun another => ?_).trans for_)
            current cursor
          exact silent (accounts.waitingDrawn _ _ waits).1
      | ready seated turns free cursor => exact .ready seated turns free cursor
      | gone left free rest =>
          refine .gone left free (rest.trans ?_)
          rw [doomed, doomed, aborting]
          simp [skip, Ne.symm different]
  have knows : ∀ other, (schedule.counters other).isSome →
      ((schedule.skip conversationId turn turns marked reason).counters other).isSome := by
    intro other known
    dsimp only [skip]
    rw [Function.update_apply]
    split
    · rfl
    · exact known
  refine ⟨?_, ?_, accounts.waitingLaunched, ?_, ?_, ?_, ?_, ?_, ?_, ?_⟩
  · intro event member sample has
    rcases List.mem_append.mp member with old | new
    · exact Nat.lt_succ_of_lt (accounts.eventsDrawn event old sample has)
    · rcases List.mem_cons.mp new with rfl | rest
      · obtain rfl := Option.some.inj has
        exact Nat.lt_succ_self _
      · obtain rfl := List.mem_singleton.mp rest
        obtain rfl := Option.some.inj has
        exact Nat.lt_succ_self _
  · intro sample other waits
    obtain ⟨drawn, known⟩ := accounts.waitingDrawn sample other waits
    exact ⟨Nat.lt_succ_of_lt drawn, knows other known⟩
  · intro number below
    obtain ⟨instance_, counters, is, tally⟩ := accounts.tallies number below
    by_cases same : instance_.logicalId = conversationId
    · subst same
      obtain rfl := Option.some.inj (tally.counted.symm.trans found)
      obtain ⟨free, rest⟩ := gone rfl tally
      have current : instance_.turns[counters.completedTurns]? = some turn := by
        rw [← List.head?_drop, rest]
        rfl
      have inside := (List.getElem?_eq_some_iff.mp current).1
      refine ⟨instance_, marked, is, Function.update_self .., expected.trans tally.expected,
        by omega, ?_, .gone inactive free ?_⟩
      · rw [completedTurns, take_succ_turns current]
        refine (ended instance_.logicalId).trans ?_
        rw [if_pos rfl]
        exact tally.ended.append_right _
      · rw [completedTurns, ← List.drop_drop, rest]
        simp [doomed, skip]
    · exact ⟨instance_, counters, is, untouched same tally⟩
  · intro other known
    dsimp only [skip] at known
    rw [Function.update_apply] at known
    split at known
    · rename_i same
      exact accounts.known other (by rw [same, found]; rfl)
    · exact accounts.known other known
  · intro other remaining control
    obtain ⟨rfl, _⟩ := Control.aborting.inj control
    exact inactive
  · intro sample other another member
    rcases List.mem_append.mp member with old | new
    · obtain ⟨known, waits | ⟨result, collected, same⟩ | pending | ⟨below, unlaunched⟩⟩ :=
        accounts.announced sample other another old
      · exact ⟨knows other known, Or.inl waits⟩
      · exact ⟨knows other known,
          Or.inr (Or.inl ⟨result, List.mem_append_left _ collected, same⟩)⟩
      · exact ⟨knows other known, Or.inr (Or.inr (Or.inl pending))⟩
      · exact ⟨knows other known,
          Or.inr (Or.inr (Or.inr ⟨Nat.lt_succ_of_lt below, unlaunched⟩))⟩
    · obtain ⟨rfl, rfl, rfl⟩ : sample = schedule.nextUuid ∧ other = conversationId ∧
          another = turn.turn := by simpa using new
      exact ⟨knows other (by rw [found]; rfl), Or.inr (Or.inl ⟨_,
        List.mem_append_right _ (List.mem_cons_of_mem _ (List.mem_singleton_self _)), rfl⟩)⟩
  · intro result member
    rcases List.mem_append.mp member with old | new
    · exact (accounts.kinds result old).imp_left (List.mem_append_left _)
    · obtain rfl : result = World.syntheticResult schedule.nextUuid
          "TurnAbortedByPriorFailure" reason := by simpa using new
      exact Or.inr (Or.inr ⟨reason, rfl⟩)
  · exact fun result pending => List.mem_append_left _ (accounts.received result pending)
  · obtain ⟨number, below, instance_, is, rfl, tally⟩ := accounts.tally found
    have key := keyAt_of is
    refine accounts.counts plain below ?_ ?_
    · intro other different
      rw [key] at different
      simp [position, skip, Function.update_of_ne different]
    · simp [position, skip, inactive, key, found, completedTurns]

theorem Accounts.startedInstance (accounts : Accounts config schedule)
    {started : ConversationInstance}
    (calm : ∀ conversationId remaining,
      schedule.control ≠ .aborting conversationId remaining)
    (drawn : config.instanceAt? schedule.started = some started)
    (fresh : schedule.counters started.logicalId = none) :
    Accounts config (schedule.start started) := by
  have unknown : ∀ {conversationId : String}, (schedule.counters conversationId).isSome →
      conversationId ≠ started.logicalId := by
    rintro conversationId known rfl
    simp [fresh] at known
  have free : ∀ queryId, schedule.waiting queryId ≠ some started.logicalId :=
    fun queryId waits => unknown (accounts.waitingDrawn _ _ waits).2 rfl
  have silent : ∀ queryId, turnIn started.logicalId schedule.events queryId = none :=
    fun queryId => turnIn_eq_none fun turn member =>
      unknown (accounts.announced _ _ _ member).1 rfl
  have knows : ∀ other, (schedule.counters other).isSome →
      ((schedule.start started).counters other).isSome := by
    intro other known
    dsimp only [start]
    rwa [Function.update_of_ne (unknown known)]
  refine ⟨accounts.eventsDrawn, ?_, accounts.waitingLaunched, ?_, ?_, nofun, ?_,
    accounts.kinds, accounts.received, ?_⟩
  · intro queryId conversationId waits
    obtain ⟨below, known⟩ := accounts.waitingDrawn queryId conversationId waits
    exact ⟨below, knows _ known⟩
  · intro number below
    rcases Nat.lt_succ_iff_lt_or_eq.mp below with old | rfl
    · obtain ⟨instance_, state, is, tally⟩ := accounts.tallies number old
      have different := unknown (by rw [tally.counted]; rfl)
      refine ⟨instance_, state, is, tally.frame (Function.update_of_ne different ..)
        (Function.update_of_ne different ..) (fun _ => Iff.rfl) ?_ (fun _ _ => rfl) rfl⟩
      exact (doomed_of_calm calm).symm
    · refine ⟨started, _, drawn, Function.update_self .., rfl, Nat.zero_le _, ?_,
        .ready (Function.update_self ..) rfl free rfl⟩
      have nothing : schedule.ended started.logicalId = [] := by
        unfold ended outcomes
        rw [List.append_eq_nil_iff, List.filterMap_eq_nil_iff]
        refine ⟨fun event _ => ?_, ?_⟩
        · cases event with
          | collected result => exact silent result.id
          | announced | sent | received | refused => rfl
        · cases schedule.uncollected with
          | none => rfl
          | some result => exact congrArg Option.toList (silent result.id)
      exact List.Perm.of_eq nothing
  · intro conversationId known
    dsimp only [start] at known
    rw [Function.update_apply] at known
    split at known
    · rename_i same
      exact ⟨schedule.started, Nat.lt_succ_self _, (keyAt_of drawn).trans same.symm⟩
    · obtain ⟨number, below, key⟩ := accounts.known conversationId known
      exact ⟨number, Nat.lt_succ_of_lt below, key⟩
  · intro queryId conversationId turn member
    obtain ⟨known, rest⟩ := accounts.announced queryId conversationId turn member
    exact ⟨knows _ known, rest⟩
  · change schedule.issuedCount = ∑ number ∈ Finset.range (schedule.started + 1),
      (schedule.start started).position (keyAt config number)
    rw [Finset.sum_range_succ, keyAt_of drawn, accounts.issued]
    have zero : (schedule.start started).position started.logicalId = 0 := by
      simp [position, start]
    rw [zero, Nat.add_zero]
    refine Finset.sum_congr rfl fun number among => ?_
    obtain ⟨instance_, state, is, tally⟩ := accounts.tallies number (Finset.mem_range.mp among)
    have different := unknown (by rw [tally.counted]; rfl)
    rw [keyAt_of is]
    simp [position, start, Function.update_of_ne different]

theorem Accounts.crashed (accounts : Accounts config schedule) {nextUuid : QueryId}
    {news : List TurnEvent}
    (calm : ∀ conversationId remaining,
      schedule.control ≠ .aborting conversationId remaining)
    (drawn : schedule.nextUuid ≤ nextUuid)
    (announced : news = [] ∨ ∃ conversationId turn,
      news = [.announced schedule.nextUuid conversationId turn] ∧
        schedule.nextUuid < nextUuid ∧ schedule.nextUuid ∉ schedule.launched ∧
        (schedule.counters conversationId).isSome) :
    Accounts config { schedule with
      nextUuid := nextUuid, events := schedule.events ++ news, control := .raising } := by
  have silent : ∀ {sample : QueryId}, sample < schedule.nextUuid → ∀ other another,
      .announced sample other another ∉ news := by
    rintro sample below other another member
    rcases announced with rfl | ⟨conversationId, turn, rfl, _⟩
    · simp at member
    · obtain ⟨rfl, _⟩ := TurnEvent.announced.inj (List.mem_singleton.mp member)
      exact Nat.lt_irrefl _ below
  have unrecorded : ∀ result, .collected result ∉ news := by
    intro result member
    rcases announced with rfl | ⟨conversationId, turn, rfl, _⟩ <;> simp at member
  refine ⟨?_, ?_, accounts.waitingLaunched, ?_, accounts.known, nofun, ?_, ?_, ?_,
    accounts.issued⟩
  · intro event member sample has
    rcases List.mem_append.mp member with old | new
    · exact Nat.lt_of_lt_of_le (accounts.eventsDrawn event old sample has) drawn
    · rcases announced with rfl | ⟨conversationId, turn, rfl, below, _⟩
      · simp at new
      · obtain rfl := List.mem_singleton.mp new
        obtain rfl := Option.some.inj has
        exact below
  · intro sample conversationId waits
    obtain ⟨below, known⟩ := accounts.waitingDrawn sample conversationId waits
    exact ⟨Nat.lt_of_lt_of_le below drawn, known⟩
  · intro number below
    obtain ⟨instance_, state, is, tally⟩ := accounts.tallies number below
    refine ⟨instance_, state, is, tally.frame rfl rfl (fun _ => Iff.rfl)
      (doomed_of_calm calm).symm (fun sample waits => turnIn_append_known fun another =>
        silent (accounts.waitingDrawn _ _ waits).1 _ _) ?_⟩
    exact ended_unrecorded rfl rfl (fun result recorded another =>
      silent (accounts.endedDrawn recorded) _ _) unrecorded
  · intro sample conversationId turn member
    rcases List.mem_append.mp member with old | new
    · obtain ⟨known, waits | ⟨result, collected, same⟩ | pending | ⟨below, unlaunched⟩⟩ :=
        accounts.announced sample conversationId turn old
      · exact ⟨known, Or.inl waits⟩
      · exact ⟨known, Or.inr (Or.inl ⟨result, List.mem_append_left _ collected, same⟩)⟩
      · exact ⟨known, Or.inr (Or.inr (Or.inl pending))⟩
      · exact ⟨known, Or.inr (Or.inr (Or.inr ⟨Nat.lt_of_lt_of_le below drawn, unlaunched⟩))⟩
    · rcases announced with rfl | ⟨issuedFor, another, rfl, below, unlaunched, known⟩
      · simp at new
      · obtain ⟨rfl, rfl, rfl⟩ := TurnEvent.announced.inj (List.mem_singleton.mp new)
        exact ⟨known, Or.inr (Or.inr (Or.inr ⟨below, unlaunched⟩))⟩
  · intro result member
    have old := (List.mem_append.mp member).resolve_right (unrecorded result)
    exact (accounts.kinds result old).imp_left (List.mem_append_left _)
  · exact fun result pending => List.mem_append_left _ (accounts.received result pending)

theorem Accounts.faulted (accounts : Accounts config schedule)
    (raising : schedule.control = .raising) :
    Accounts config { schedule with error := true, control := .idle } := by
  have calm : ∀ conversationId remaining,
      schedule.control ≠ .aborting conversationId remaining := by
    rw [raising]
    nofun
  refine ⟨accounts.eventsDrawn, accounts.waitingDrawn, accounts.waitingLaunched, ?_,
    accounts.known, nofun, accounts.announced, accounts.kinds, accounts.received,
    accounts.issued⟩
  intro number below
  obtain ⟨instance_, state, is, tally⟩ := accounts.tallies number below
  exact ⟨instance_, state, is, tally.frame rfl rfl (fun _ => Iff.rfl)
    (doomed_of_calm calm).symm (fun _ _ => rfl) rfl⟩

/-! ## Every step -/

/-- As long as nothing is refused, the accounts are kept. -/
theorem Step.accounts (plain : config.PlainIds) (step : Step config schedule next)
    
    (unhindered : Unhindered config next) (accounts : Accounts config schedule) :
    Accounts config next := by
  cases step with
  | turned _ _ calm spent => exact accounts.turned calm spent
  | crashed calm drawn announced => exact accounts.crashed calm drawn announced
  | faulted raising => exact accounts.faulted raising
  | @answered result conversationId state marked pending succeeded counted =>
      refine accounts.settles pending counted
        ⟨Or.inl ⟨rfl, ?_⟩, rfl, rfl, rfl, rfl, rfl, rfl, rfl, Or.inl ⟨result, rfl, rfl, rfl⟩⟩
      intro other remaining
      dsimp only
      split <;> nofun
  | @rejected result conversationId state marked pending failed counted =>
      exact accounts.settles pending counted
        ⟨Or.inr ⟨rfl, rfl⟩, rfl, rfl, rfl, rfl, rfl, rfl, rfl, Or.inl ⟨result, rfl, rfl, rfl⟩⟩
  | @timedOut queryId conversationId message state marked pending counted =>
      exact accounts.settles pending counted
        ⟨Or.inr ⟨rfl, rfl⟩, rfl, rfl, rfl, rfl, rfl, rfl, rfl,
          Or.inr ⟨message, rfl, pending.free⟩⟩
  | collected uncollected => exact accounts.collected uncollected
  | finished holding active exhausted free =>
      exact accounts.finished holding active exhausted free
  | issued due active next free known =>
      exact accounts.issuedTurn plain due active next free known
  | @stopped news calm why =>
      rcases why with ⟨conversationId, turn, rfl⟩ | ⟨_, configured⟩
      · exact absurd (List.mem_append_right _ (List.mem_singleton_self _))
          (unhindered.unrefused conversationId turn)
      · simp [unhindered.continues] at configured
  | started filling _ drawn _ fresh =>
      exact accounts.startedInstance (by rw [filling]; nofun) drawn fresh
  | skipped aborting counted => exact accounts.skippedTurn plain aborting counted
  | @skipRefused conversationId turn turns state marked aborting counted =>
      exact absurd (List.mem_append_right _ (List.mem_singleton_self _))
        (unhindered.unrefused conversationId turn.turn)

/-- While issuing is not hindered, it goes on. -/
theorem Step.issuing (step : Step config schedule next) (unhindered : Unhindered config next)
    (issuing : schedule.stopping = false) : next.stopping = false := by
  cases step with
  | @stopped news calm why =>
      rcases why with ⟨conversationId, turn, rfl⟩ | ⟨_, configured⟩
      · exact absurd (List.mem_append_right _ (List.mem_singleton_self _))
          (unhindered.unrefused conversationId turn)
      · simp [unhindered.continues] at configured
  | turned | crashed | faulted | answered | rejected | timedOut | collected | finished
  | issued | started | skipped | skipRefused => exact issuing

theorem Step.budget (step : Step config schedule next)
    (budget : schedule.started ≤ config.trajectoryBudget) :
    next.started ≤ config.trajectoryBudget := by
  cases step with
  | started _ _ _ below => exact below
  | turned | crashed | faulted | answered | rejected | timedOut | collected | finished
  | issued | stopped | skipped | skipRefused => exact budget

/-- The budget holds, and without a hindrance so do the accounts. -/
structure Kept (config : AgenticConfig) (schedule : Schedule) : Prop where
  budget : schedule.started ≤ config.trajectoryBudget
  accounts : Unhindered config schedule →
    schedule.stopping = false ∧ Accounts config schedule

theorem Step.kept (plain : config.PlainIds) (step : Step config schedule next)
    (kept : Kept config schedule) : Kept config next where
  budget := step.budget kept.budget
  accounts unhindered := by
    obtain ⟨issuing, accounts⟩ := kept.accounts (step.unhindered unhindered)
    exact ⟨step.issuing unhindered issuing, step.accounts plain unhindered accounts⟩

/-! ## Outside the strategy -/

theorem Accounts.drew (accounts : Accounts config schedule) {nextUuid : QueryId}
    {launched : List QueryId} (drawn : schedule.nextUuid ≤ nextUuid)
    (kept : ∀ queryId ∈ schedule.launched, queryId ∈ launched)
    (later : ∀ queryId ∈ launched,
      queryId ∈ schedule.launched ∨ schedule.nextUuid ≤ queryId) :
    Accounts config { schedule with nextUuid := nextUuid, launched := launched } := by
  refine ⟨?_, ?_, ?_, ?_, accounts.known, accounts.dropped, ?_, accounts.kinds,
    accounts.received, accounts.issued⟩
  · exact fun event member sample has =>
      Nat.lt_of_lt_of_le (accounts.eventsDrawn event member sample has) drawn
  · intro sample conversationId waits
    obtain ⟨below, known⟩ := accounts.waitingDrawn sample conversationId waits
    exact ⟨Nat.lt_of_lt_of_le below drawn, known⟩
  · exact fun sample conversationId waits =>
      kept sample (accounts.waitingLaunched sample conversationId waits)
  · intro number below
    obtain ⟨instance_, state, is, tally⟩ := accounts.tallies number below
    exact ⟨instance_, state, is,
      tally.frame rfl rfl (fun _ => Iff.rfl) rfl (fun _ _ => rfl) rfl⟩
  · intro sample conversationId turn member
    obtain ⟨known, waits | collected | pending | ⟨below, unlaunched⟩⟩ :=
      accounts.announced sample conversationId turn member
    · exact ⟨known, Or.inl waits⟩
    · exact ⟨known, Or.inr (Or.inl collected)⟩
    · exact ⟨known, Or.inr (Or.inr (Or.inl pending))⟩
    · refine ⟨known, Or.inr (Or.inr (Or.inr ⟨Nat.lt_of_lt_of_le below drawn, ?_⟩))⟩
      intro member
      rcases later sample member with old | fresh
      · exact unlaunched old
      · exact absurd below (Nat.not_lt.mpr fresh)

/-- A result that nobody waits for ends no turn. -/
theorem Accounts.heard (accounts : Accounts config schedule) {result : QueryResult}
    {news : List TurnEvent} (free : schedule.uncollected = none)
    (notWaiting : schedule.waiting result.id = none)
    (launched : result.id ∈ schedule.launched) (drawn : result.id < schedule.nextUuid)
    (recorded : news = [.received result] ∨
      (news = [.received result, .collected result] ∧
        ∀ other, .collected other ∈ schedule.events → other.id ≠ result.id)) :
    Accounts config { schedule with events := schedule.events ++ news } := by
  have silent : ∀ (sample : QueryId) (conversationId : String) (turn : Nat),
      .announced sample conversationId turn ∉ news := by
    intro sample conversationId turn member
    rcases recorded with rfl | ⟨rfl, _⟩ <;> simp at member
  have ids : ∀ event ∈ news, event.queryId? = some result.id := by
    intro event member
    rcases recorded with rfl | ⟨rfl, _⟩
    · obtain rfl := List.mem_singleton.mp member
      rfl
    · rcases List.mem_cons.mp member with rfl | rest
      · rfl
      · obtain rfl := List.mem_singleton.mp rest
        rfl
  have ended : ∀ conversationId, ({ schedule with
      events := schedule.events ++ news } : Schedule).ended conversationId =
        schedule.ended conversationId := by
    intro conversationId
    rcases recorded with rfl | ⟨rfl, uncollected⟩
    · exact ended_unrecorded rfl rfl (fun _ _ _ => silent _ _ _) (by simp)
    · -- The sample was never announced: its turn would have had an outcome before.
      have unannounced : turnIn conversationId schedule.events result.id = none := by
        refine turnIn_eq_none fun turn member => ?_
        obtain ⟨_, waits | ⟨other, collected, same⟩ | ⟨other, pending, _⟩ | ⟨_, unlaunched⟩⟩ :=
          accounts.announced result.id conversationId turn member
        · simp [notWaiting] at waits
        · exact uncollected other collected same
        · simp [free] at pending
        · exact unlaunched launched
      have same : turnIn conversationId (schedule.events ++
          [TurnEvent.received result, TurnEvent.collected result]) result.id =
            turnIn conversationId schedule.events result.id :=
        turnIn_append_known fun turn => silent result.id conversationId turn
      unfold Schedule.ended
      rw [outcomes_append fun _ _ _ => silent _ _ _, free]
      simp [TurnEvent.ends, List.filterMap_cons, same, unannounced]
  refine ⟨?_, accounts.waitingDrawn, accounts.waitingLaunched, ?_, accounts.known,
    accounts.dropped, ?_, ?_, ?_, accounts.issued⟩
  · intro event member sample has
    rcases List.mem_append.mp member with old | new
    · exact accounts.eventsDrawn event old sample has
    · rw [ids event new] at has
      obtain rfl := Option.some.inj has
      exact drawn
  · intro number below
    obtain ⟨instance_, state, is, tally⟩ := accounts.tallies number below
    exact ⟨instance_, state, is, tally.frame rfl rfl (fun _ => Iff.rfl) rfl
      (fun _ _ => turnIn_append_known fun _ => silent _ _ _) (ended _)⟩
  · intro sample conversationId turn member
    have old := (List.mem_append.mp member).resolve_right (silent _ _ _)
    obtain ⟨known, waits | ⟨other, collected, same⟩ | rest⟩ :=
      accounts.announced sample conversationId turn old
    · exact ⟨known, Or.inl waits⟩
    · exact ⟨known, Or.inr (Or.inl ⟨other, List.mem_append_left _ collected, same⟩)⟩
    · exact ⟨known, Or.inr (Or.inr rest)⟩
  · intro other member
    rcases List.mem_append.mp member with old | new
    · exact (accounts.kinds other old).imp_left (List.mem_append_left _)
    · rcases recorded with rfl | ⟨rfl, _⟩
      · simp at new
      · obtain rfl : other = result := by simpa using new
        exact Or.inl (by simp)
  · exact fun other pending => List.mem_append_left _ (accounts.received other pending)

/-! ## A strategy that has nothing left to do -/

/-- Every turn of every started instance has one outcome, the manager has counted all
of them, and so has the issuer. -/
structure Settled (config : AgenticConfig) (schedule : Schedule) : Prop where
  accounts : Accounts config schedule
  inactive : ∀ conversationId, schedule.active conversationId = none
  quiet : ∀ queryId, schedule.waiting queryId = none
  idle : schedule.control = .idle
  free : schedule.uncollected = none

theorem Settled.instance_ (settled : Settled config schedule) {number : Nat}
    (below : number < schedule.started) :
    ∃ instance_ state, config.instanceAt? number = some instance_ ∧
      schedule.counters instance_.logicalId = some state ∧
      state.completedTurns = instance_.turns.length ∧
      state.expectedClientTurns = some instance_.turns.length ∧
      (outcomes instance_.logicalId schedule.events).Perm
        (instance_.turns.map ConversationTurn.turn) := by
  obtain ⟨instance_, state, is, tally⟩ := settled.accounts.tallies number below
  have complete : state.completedTurns = instance_.turns.length := by
    cases tally.place with
    | waiting seated => simp [settled.inactive] at seated
    | ready seated => simp [settled.inactive] at seated
    | gone _ _ rest =>
        rw [doomed_idle settled.idle, List.drop_eq_nil_iff] at rest
        exact Nat.le_antisymm tally.within rest
  refine ⟨instance_, state, is, tally.counted, complete, tally.expected, ?_⟩
  have ended := tally.ended
  rw [complete, List.take_length, Schedule.ended, settled.free] at ended
  simpa using ended

theorem Settled.issuedCount (settled : Settled config schedule) :
    schedule.issuedCount = ∑ number ∈ Finset.range schedule.started,
      (config.instanceAt? number).elim 0 (·.turns.length) := by
  rw [settled.accounts.issued]
  refine Finset.sum_congr rfl fun number among => ?_
  obtain ⟨instance_, state, is, counted, complete, _⟩ :=
    settled.instance_ (Finset.mem_range.mp among)
  rw [keyAt_of is, is]
  simp [position, settled.inactive, counted, complete]

end Schedule

end InferenceEndpoint
