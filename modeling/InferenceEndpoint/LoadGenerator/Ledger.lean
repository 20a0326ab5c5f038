import InferenceEndpoint.LoadGenerator.AgenticCallbacks
import Mathlib.Data.Finset.Card

/-!
# The books of a phase

The issuer counts queries in flight, the strategy keeps the queries it waits
for, and the timeline records what was sent, received and collected.  `Ledger`
says how these agree.  The few ways in which a step can change the books are
named, and each of them keeps the ledger.
-/

namespace InferenceEndpoint

namespace World

/-- Query ids sent through the current issuer that have received neither a
real final result nor a synthetic one. -/
def unresolved (world : World) : Finset QueryId :=
  world.sentIds.toFinset.filter fun queryId =>
    (world.issuer.uuidToIndex.get? queryId).isSome ∧
      queryId ∉ world.receivedIds ∧ queryId ∉ world.collectedIds

theorem mem_unresolved {world : World} {queryId : QueryId} :
    queryId ∈ world.unresolved ↔
      queryId ∈ world.sentIds ∧
        (world.issuer.uuidToIndex.get? queryId).isSome ∧
        queryId ∉ world.receivedIds ∧ queryId ∉ world.collectedIds := by
  simp [unresolved]

end World

/-- The invariant that ties the issuer, the strategy and the timeline
together. -/
structure Ledger (uncollected : Option QueryResult) (world : World) : Prop where
  waitingRegistered : ∀ queryId conversationId,
    world.strategy.inflight.get? queryId = some conversationId →
      (world.issuer.uuidToIndex.get? queryId).isSome
  waitingOpen : ∀ queryId conversationId,
    world.strategy.inflight.get? queryId = some conversationId →
      queryId ∉ world.issuer.completedUuids
  waitingUnresolved : ∀ queryId conversationId,
    world.strategy.inflight.get? queryId = some conversationId →
      queryId ∈ world.unresolved
  registeredDrawn : ∀ queryId,
    (world.issuer.uuidToIndex.get? queryId).isSome → queryId < world.nextUuid
  sentDrawn : ∀ queryId ∈ world.sentIds, queryId < world.nextUuid
  receivedDrawn : ∀ queryId ∈ world.receivedIds, queryId < world.nextUuid
  collectedDrawn : ∀ queryId ∈ world.collectedIds, queryId < world.nextUuid
  completedCollected : ∀ queryId ∈ world.issuer.completedUuids,
    queryId ∈ world.collectedIds
  registeredSettled : ∀ queryId ∈ world.collectedIds,
    (world.issuer.uuidToIndex.get? queryId).isSome →
      queryId ∈ world.receivedIds ∨ queryId ∈ world.issuer.completedUuids
  uncollectedReceived : ∀ result, uncollected = some result →
    result.id ∈ world.receivedIds
  counted : world.issuer.inflight = world.unresolved.card

namespace Ledger

variable {uncollected : Option QueryResult} {world : World}

theorem inflightDrawn (ledger : Ledger uncollected world) :
    world.InflightDrawn := by
  intro queryId later
  cases waiting : world.strategy.inflight.get? queryId with
  | none => rfl
  | some conversationId =>
      have drawn := ledger.registeredDrawn queryId
        (ledger.waitingRegistered queryId conversationId waiting)
      exact absurd later (Nat.not_le.mpr drawn)

/-- An open, registered query without a result is unresolved once sent. -/
theorem mem_unresolved_of_open (ledger : Ledger uncollected world)
    {queryId : QueryId} (sent : queryId ∈ world.sentIds)
    (unreceived : queryId ∉ world.receivedIds)
    (registered : (world.issuer.uuidToIndex.get? queryId).isSome)
    (open_ : queryId ∉ world.issuer.completedUuids) :
    queryId ∈ world.unresolved := by
  refine World.mem_unresolved.mpr ⟨sent, registered, unreceived, ?_⟩
  intro collected
  rcases ledger.registeredSettled queryId collected registered with
    received | completed
  · exact unreceived received
  · exact open_ completed

end Ledger

/-! ## Steps that leave the books alone -/

/-- The second world has the same books as the first. -/
structure SameBooks (first second : World) : Prop where
  waiting : second.strategy.inflight = first.strategy.inflight
  uuidToIndex : second.issuer.uuidToIndex = first.issuer.uuidToIndex
  completedUuids : second.issuer.completedUuids = first.issuer.completedUuids
  inflight : second.issuer.inflight = first.issuer.inflight
  nextUuid : second.nextUuid = first.nextUuid
  sentIds : second.sentIds = first.sentIds
  receivedIds : second.receivedIds = first.receivedIds
  collectedIds : second.collectedIds = first.collectedIds
  completeIds : second.completeIds = first.completeIds

namespace SameBooks

variable {first second third : World}

theorem trans (left : SameBooks first second) (right : SameBooks second third) :
    SameBooks first third where
  waiting := right.waiting.trans left.waiting
  uuidToIndex := right.uuidToIndex.trans left.uuidToIndex
  completedUuids := right.completedUuids.trans left.completedUuids
  inflight := right.inflight.trans left.inflight
  nextUuid := right.nextUuid.trans left.nextUuid
  sentIds := right.sentIds.trans left.sentIds
  receivedIds := right.receivedIds.trans left.receivedIds
  collectedIds := right.collectedIds.trans left.collectedIds
  completeIds := right.completeIds.trans left.completeIds

theorem unresolved (same : SameBooks first second) :
    second.unresolved = first.unresolved := by
  simp only [World.unresolved, same.sentIds, same.uuidToIndex, same.receivedIds,
    same.collectedIds]

theorem ledger {uncollected : Option QueryResult} (same : SameBooks first second)
    (ledger : Ledger uncollected first) : Ledger uncollected second := by
  constructor
  · rw [same.waiting, same.uuidToIndex]; exact ledger.waitingRegistered
  · rw [same.waiting, same.completedUuids]; exact ledger.waitingOpen
  · rw [same.waiting, same.unresolved]; exact ledger.waitingUnresolved
  · rw [same.uuidToIndex, same.nextUuid]; exact ledger.registeredDrawn
  · rw [same.sentIds, same.nextUuid]; exact ledger.sentDrawn
  · rw [same.receivedIds, same.nextUuid]; exact ledger.receivedDrawn
  · rw [same.collectedIds, same.nextUuid]; exact ledger.collectedDrawn
  · rw [same.completedUuids, same.collectedIds]; exact ledger.completedCollected
  · rw [same.collectedIds, same.uuidToIndex, same.receivedIds, same.completedUuids]
    exact ledger.registeredSettled
  · rw [same.receivedIds]; exact ledger.uncollectedReceived
  · rw [same.inflight, same.unresolved]; exact ledger.counted

/-- An observation that is neither a query, a result nor a COMPLETE event. -/
theorem observe (world : World) {observation : Observation}
    (notSent : observation.sentId? = none)
    (notReceived : observation.receivedId? = none)
    (notCollected : observation.collectedId? = none)
    (notComplete : observation.completeId? = none) :
    SameBooks world (world.observe observation) := by
  constructor <;>
    first
      | rfl
      | simp [notSent, notReceived, notCollected, notComplete]

end SameBooks

/-! ## Steps that change the books

Every move and every notice is one of the following, besides the steps that
leave the books alone: a uuid is drawn and nothing else, a query is issued, a
turn is skipped, a query gets its real result, a query gets its synthetic
result, or a result is collected. -/

/-- A uuid was drawn, and perhaps registered. -/
structure Draws (first second : World) : Prop where
  waiting : second.strategy.inflight = first.strategy.inflight
  registered : ∀ queryId, (second.issuer.uuidToIndex.get? queryId).isSome →
    (first.issuer.uuidToIndex.get? queryId).isSome ∨ queryId = first.nextUuid
  stillRegistered : ∀ queryId, (first.issuer.uuidToIndex.get? queryId).isSome →
    (second.issuer.uuidToIndex.get? queryId).isSome
  completedUuids : second.issuer.completedUuids = first.issuer.completedUuids
  inflight : second.issuer.inflight = first.issuer.inflight
  nextUuid : second.nextUuid = first.nextUuid + 1
  sentIds : second.sentIds = first.sentIds
  receivedIds : second.receivedIds = first.receivedIds
  collectedIds : second.collectedIds = first.collectedIds
  completeIds : second.completeIds = first.completeIds

/-- A query was registered, sent and booked. -/
structure Issues (first second : World) : Prop where
  waiting : ∀ queryId conversationId,
    second.strategy.inflight.get? queryId = some conversationId →
      first.strategy.inflight.get? queryId = some conversationId ∨
        queryId = first.nextUuid
  registered : ∀ queryId, (second.issuer.uuidToIndex.get? queryId).isSome ↔
    (first.issuer.uuidToIndex.get? queryId).isSome ∨ queryId = first.nextUuid
  completedUuids : second.issuer.completedUuids = first.issuer.completedUuids
  inflight : second.issuer.inflight = first.issuer.inflight + 1
  nextUuid : second.nextUuid = first.nextUuid + 1
  sentIds : second.sentIds = first.sentIds ++ [first.nextUuid]
  receivedIds : second.receivedIds = first.receivedIds
  collectedIds : second.collectedIds = first.collectedIds
  completeIds : second.completeIds = first.completeIds

/-- A turn was registered as skipped and reported as failed. -/
structure Skips (first second : World) : Prop where
  waiting : second.strategy.inflight = first.strategy.inflight
  registered : ∀ queryId, (second.issuer.uuidToIndex.get? queryId).isSome ↔
    (first.issuer.uuidToIndex.get? queryId).isSome ∨ queryId = first.nextUuid
  completedUuids : second.issuer.completedUuids =
    insert first.nextUuid first.issuer.completedUuids
  inflight : second.issuer.inflight = first.issuer.inflight
  nextUuid : second.nextUuid = first.nextUuid + 1
  sentIds : second.sentIds = first.sentIds
  receivedIds : second.receivedIds = first.receivedIds
  collectedIds : second.collectedIds = first.collectedIds ++ [first.nextUuid]
  completeIds : second.completeIds = first.completeIds ++ [first.nextUuid]

/-- A query of the current phase got its real result; no COMPLETE event is
published while warming up. -/
structure Answers (queryId : QueryId) (first second : World) : Prop where
  waiting : ∀ other conversationId,
    second.strategy.inflight.get? other = some conversationId →
      first.strategy.inflight.get? other = some conversationId ∧ other ≠ queryId
  uuidToIndex : second.issuer.uuidToIndex = first.issuer.uuidToIndex
  completedUuids : second.issuer.completedUuids = first.issuer.completedUuids
  inflight : 0 < first.issuer.inflight →
    second.issuer.inflight = first.issuer.inflight - 1
  nextUuid : second.nextUuid = first.nextUuid
  sentIds : second.sentIds = first.sentIds
  receivedIds : second.receivedIds = first.receivedIds ++ [queryId]
  collectedIds : second.collectedIds = first.collectedIds
  completeIds : second.completeIds = first.completeIds ++ [queryId] ∨
    second.completeIds = first.completeIds

/-- A query got a synthetic result; the issuer notes it if the query is its
own. -/
structure Expires (queryId : QueryId) (first second : World) : Prop where
  waiting : ∀ other conversationId,
    second.strategy.inflight.get? other = some conversationId →
      first.strategy.inflight.get? other = some conversationId ∧ other ≠ queryId
  uuidToIndex : second.issuer.uuidToIndex = first.issuer.uuidToIndex
  completedUuids : second.issuer.completedUuids =
    if (first.issuer.uuidToIndex.get? queryId).isSome then
      insert queryId first.issuer.completedUuids
    else first.issuer.completedUuids
  inflight : (first.issuer.uuidToIndex.get? queryId).isSome →
    0 < first.issuer.inflight →
      second.issuer.inflight = first.issuer.inflight - 1
  nextUuid : second.nextUuid = first.nextUuid
  sentIds : second.sentIds = first.sentIds
  receivedIds : second.receivedIds = first.receivedIds
  collectedIds : second.collectedIds = first.collectedIds ++ [queryId]
  completeIds : second.completeIds = first.completeIds ++ [queryId]

/-! ## The ledger is kept -/

theorem lt_succ_of_lt {queryId bound : QueryId} (below : queryId < bound) :
    queryId < bound + 1 :=
  Nat.lt_succ_of_lt below

namespace Ledger

variable {uncollected : Option QueryResult} {first second : World}
  {queryId : QueryId}

theorem unresolved_lt (ledger : Ledger uncollected first)
    (member : queryId ∈ first.unresolved) : queryId < first.nextUuid :=
  ledger.sentDrawn queryId (World.mem_unresolved.mp member).1

theorem draws (ledger : Ledger uncollected first) (draws : Draws first second) :
    Ledger uncollected second := by
  have sameUnresolved : second.unresolved = first.unresolved := by
    ext other
    simp only [World.mem_unresolved, draws.sentIds, draws.receivedIds,
      draws.collectedIds]
    constructor
    · rintro ⟨sent, registered, rest⟩
      rcases draws.registered other registered with known | rfl
      · exact ⟨sent, known, rest⟩
      · exact absurd (ledger.sentDrawn _ sent) (Nat.lt_irrefl _)
    · rintro ⟨sent, registered, rest⟩
      exact ⟨sent, draws.stillRegistered other registered, rest⟩
  constructor
  · intro other conversationId waiting
    rw [draws.waiting] at waiting
    exact draws.stillRegistered other
      (ledger.waitingRegistered other conversationId waiting)
  · rw [draws.waiting, draws.completedUuids]
    exact ledger.waitingOpen
  · rw [draws.waiting, sameUnresolved]
    exact ledger.waitingUnresolved
  · intro other registered
    rw [draws.nextUuid]
    rcases draws.registered other registered with known | rfl
    · exact lt_succ_of_lt (ledger.registeredDrawn other known)
    · exact Nat.lt_succ_self _
  · rw [draws.sentIds, draws.nextUuid]
    exact fun other member => lt_succ_of_lt (ledger.sentDrawn other member)
  · rw [draws.receivedIds, draws.nextUuid]
    exact fun other member => lt_succ_of_lt (ledger.receivedDrawn other member)
  · rw [draws.collectedIds, draws.nextUuid]
    exact fun other member => lt_succ_of_lt (ledger.collectedDrawn other member)
  · rw [draws.completedUuids, draws.collectedIds]
    exact ledger.completedCollected
  · rw [draws.collectedIds, draws.receivedIds, draws.completedUuids]
    intro other collected registered
    rcases draws.registered other registered with known | rfl
    · exact ledger.registeredSettled other collected known
    · exact absurd (ledger.collectedDrawn _ collected) (Nat.lt_irrefl _)
  · rw [draws.receivedIds]
    exact ledger.uncollectedReceived
  · rw [draws.inflight, sameUnresolved]
    exact ledger.counted

theorem issues (ledger : Ledger uncollected first) (issues : Issues first second) :
    Ledger uncollected second := by
  have notReceived : first.nextUuid ∉ first.receivedIds := fun member =>
    Nat.lt_irrefl _ (ledger.receivedDrawn _ member)
  have notCollected : first.nextUuid ∉ first.collectedIds := fun member =>
    Nat.lt_irrefl _ (ledger.collectedDrawn _ member)
  have notUnresolved : first.nextUuid ∉ first.unresolved := fun member =>
    Nat.lt_irrefl _ (ledger.unresolved_lt member)
  have grown : second.unresolved = insert first.nextUuid first.unresolved := by
    ext other
    simp only [Finset.mem_insert, World.mem_unresolved, issues.sentIds,
      issues.receivedIds, issues.collectedIds, issues.registered, List.mem_append,
      List.mem_singleton]
    constructor
    · rintro ⟨sent, registered, rest⟩
      by_cases new : other = first.nextUuid
      · exact Or.inl new
      · exact Or.inr ⟨sent.resolve_right new, registered.resolve_right new, rest⟩
    · rintro (rfl | ⟨sent, registered, rest⟩)
      · exact ⟨Or.inr rfl, Or.inr rfl, notReceived, notCollected⟩
      · exact ⟨Or.inl sent, Or.inl registered, rest⟩
  constructor
  · intro other conversationId waiting
    rw [issues.registered]
    rcases issues.waiting other conversationId waiting with before | rfl
    · exact Or.inl (ledger.waitingRegistered other conversationId before)
    · exact Or.inr rfl
  · intro other conversationId waiting completed
    rw [issues.completedUuids] at completed
    rcases issues.waiting other conversationId waiting with before | rfl
    · exact ledger.waitingOpen other conversationId before completed
    · exact notCollected (ledger.completedCollected _ completed)
  · intro other conversationId waiting
    rw [grown, Finset.mem_insert]
    rcases issues.waiting other conversationId waiting with before | rfl
    · exact Or.inr (ledger.waitingUnresolved other conversationId before)
    · exact Or.inl rfl
  · intro other registered
    rw [issues.nextUuid]
    rcases (issues.registered other).mp registered with known | rfl
    · exact lt_succ_of_lt (ledger.registeredDrawn other known)
    · exact Nat.lt_succ_self _
  · rw [issues.sentIds, issues.nextUuid]
    intro other member
    rcases List.mem_append.mp member with before | new
    · exact lt_succ_of_lt (ledger.sentDrawn other before)
    · rw [List.mem_singleton.mp new]
      exact Nat.lt_succ_self _
  · rw [issues.receivedIds, issues.nextUuid]
    exact fun other member => lt_succ_of_lt (ledger.receivedDrawn other member)
  · rw [issues.collectedIds, issues.nextUuid]
    exact fun other member => lt_succ_of_lt (ledger.collectedDrawn other member)
  · rw [issues.completedUuids, issues.collectedIds]
    exact ledger.completedCollected
  · rw [issues.collectedIds, issues.receivedIds, issues.completedUuids]
    intro other collected registered
    rcases (issues.registered other).mp registered with known | rfl
    · exact ledger.registeredSettled other collected known
    · exact absurd collected notCollected
  · rw [issues.receivedIds]
    exact ledger.uncollectedReceived
  · rw [issues.inflight, grown, Finset.card_insert_of_notMem notUnresolved,
      ledger.counted]
    push_cast
    ring

theorem skips (ledger : Ledger uncollected first) (skips : Skips first second) :
    Ledger uncollected second := by
  have sameUnresolved : second.unresolved = first.unresolved := by
    ext other
    simp only [World.mem_unresolved, skips.sentIds, skips.receivedIds,
      skips.collectedIds, skips.registered, List.mem_append, List.mem_singleton,
      not_or]
    constructor
    · rintro ⟨sent, registered, unreceived, uncollected_, old⟩
      exact ⟨sent, registered.resolve_right old, unreceived, uncollected_⟩
    · rintro ⟨sent, registered, unreceived, uncollected_⟩
      refine ⟨sent, Or.inl registered, unreceived, uncollected_, ?_⟩
      rintro rfl
      exact Nat.lt_irrefl _ (ledger.sentDrawn _ sent)
  constructor
  · intro other conversationId waiting
    rw [skips.waiting] at waiting
    exact (skips.registered other).mpr
      (Or.inl (ledger.waitingRegistered other conversationId waiting))
  · intro other conversationId waiting completed
    rw [skips.waiting] at waiting
    rw [skips.completedUuids, Finset.mem_insert] at completed
    rcases completed with rfl | completed
    · exact Nat.lt_irrefl _ (ledger.registeredDrawn _
        (ledger.waitingRegistered _ conversationId waiting))
    · exact ledger.waitingOpen other conversationId waiting completed
  · rw [skips.waiting, sameUnresolved]
    exact ledger.waitingUnresolved
  · intro other registered
    rw [skips.nextUuid]
    rcases (skips.registered other).mp registered with known | rfl
    · exact lt_succ_of_lt (ledger.registeredDrawn other known)
    · exact Nat.lt_succ_self _
  · rw [skips.sentIds, skips.nextUuid]
    exact fun other member => lt_succ_of_lt (ledger.sentDrawn other member)
  · rw [skips.receivedIds, skips.nextUuid]
    exact fun other member => lt_succ_of_lt (ledger.receivedDrawn other member)
  · rw [skips.collectedIds, skips.nextUuid]
    intro other member
    rcases List.mem_append.mp member with before | new
    · exact lt_succ_of_lt (ledger.collectedDrawn other before)
    · rw [List.mem_singleton.mp new]
      exact Nat.lt_succ_self _
  · rw [skips.completedUuids, skips.collectedIds]
    intro other completed
    rw [List.mem_append, List.mem_singleton]
    rcases Finset.mem_insert.mp completed with new | before
    · exact Or.inr new
    · exact Or.inl (ledger.completedCollected other before)
  · rw [skips.collectedIds, skips.receivedIds, skips.completedUuids]
    intro other collected registered
    rw [Finset.mem_insert]
    by_cases new : other = first.nextUuid
    · exact Or.inr (Or.inl new)
    · have before := (List.mem_append.mp collected).resolve_right
        (by simpa using new)
      have known := ((skips.registered other).mp registered).resolve_right new
      exact (ledger.registeredSettled other before known).imp_right Or.inr
  · rw [skips.receivedIds]
    exact ledger.uncollectedReceived
  · rw [skips.inflight, sameUnresolved]
    exact ledger.counted

/-- One query leaves the unresolved set and the counter goes down by one. -/
theorem counted_erase (ledger : Ledger uncollected first)
    (member : queryId ∈ first.unresolved)
    (inflight : 0 < first.issuer.inflight →
      second.issuer.inflight = first.issuer.inflight - 1)
    (erased : second.unresolved = first.unresolved.erase queryId) :
    second.issuer.inflight = second.unresolved.card := by
  have positive : 0 < first.unresolved.card := Finset.card_pos.mpr ⟨queryId, member⟩
  rw [erased, Finset.card_erase_of_mem member, inflight (by rw [ledger.counted]; omega),
    ledger.counted]
  omega

theorem answers {result : QueryResult} (ledger : Ledger none first)
    (unresolved : result.id ∈ first.unresolved)
    (answers : Answers result.id first second) :
    Ledger (some result) second := by
  have erased : second.unresolved = first.unresolved.erase result.id := by
    ext other
    simp only [Finset.mem_erase, World.mem_unresolved, answers.sentIds,
      answers.receivedIds, answers.collectedIds, answers.uuidToIndex,
      List.mem_append, List.mem_singleton, not_or]
    constructor
    · rintro ⟨sent, registered, ⟨unreceived, different⟩, rest⟩
      exact ⟨different, sent, registered, unreceived, rest⟩
    · rintro ⟨different, sent, registered, unreceived, rest⟩
      exact ⟨sent, registered, ⟨unreceived, different⟩, rest⟩
  constructor
  · intro other conversationId waiting
    rw [answers.uuidToIndex]
    exact ledger.waitingRegistered other conversationId
      (answers.waiting other conversationId waiting).1
  · intro other conversationId waiting
    rw [answers.completedUuids]
    exact ledger.waitingOpen other conversationId
      (answers.waiting other conversationId waiting).1
  · intro other conversationId waiting
    obtain ⟨before, different⟩ := answers.waiting other conversationId waiting
    rw [erased, Finset.mem_erase]
    exact ⟨different, ledger.waitingUnresolved other conversationId before⟩
  · rw [answers.uuidToIndex, answers.nextUuid]
    exact ledger.registeredDrawn
  · rw [answers.sentIds, answers.nextUuid]
    exact ledger.sentDrawn
  · rw [answers.receivedIds, answers.nextUuid]
    intro other member
    rcases List.mem_append.mp member with before | new
    · exact ledger.receivedDrawn other before
    · rw [List.mem_singleton.mp new]
      exact ledger.unresolved_lt unresolved
  · rw [answers.collectedIds, answers.nextUuid]
    exact ledger.collectedDrawn
  · rw [answers.completedUuids, answers.collectedIds]
    exact ledger.completedCollected
  · rw [answers.collectedIds, answers.uuidToIndex, answers.receivedIds,
      answers.completedUuids]
    intro other collected registered
    exact (ledger.registeredSettled other collected registered).imp_left
      fun before => List.mem_append.mpr (Or.inl before)
  · rintro other equal
    obtain rfl : result = other := by simpa using equal
    rw [answers.receivedIds]
    simp
  · exact counted_erase ledger unresolved answers.inflight erased

theorem expires (ledger : Ledger uncollected first)
    (unresolved : queryId ∈ first.unresolved)
    (expires : Expires queryId first second) : Ledger uncollected second := by
  have known := (World.mem_unresolved.mp unresolved).2.1
  have erased : second.unresolved = first.unresolved.erase queryId := by
    ext other
    simp only [Finset.mem_erase, World.mem_unresolved, expires.sentIds,
      expires.receivedIds, expires.collectedIds, expires.uuidToIndex,
      List.mem_append, List.mem_singleton, not_or]
    constructor
    · rintro ⟨sent, registered, unreceived, rest, different⟩
      exact ⟨different, sent, registered, unreceived, rest⟩
    · rintro ⟨different, sent, registered, unreceived, rest⟩
      exact ⟨sent, registered, unreceived, rest, different⟩
  constructor
  · intro other conversationId waiting
    rw [expires.uuidToIndex]
    exact ledger.waitingRegistered other conversationId
      (expires.waiting other conversationId waiting).1
  · intro other conversationId waiting completed
    obtain ⟨before, different⟩ := expires.waiting other conversationId waiting
    rw [expires.completedUuids, if_pos known, Finset.mem_insert] at completed
    exact ledger.waitingOpen other conversationId before
      (completed.resolve_left different)
  · intro other conversationId waiting
    obtain ⟨before, different⟩ := expires.waiting other conversationId waiting
    rw [erased, Finset.mem_erase]
    exact ⟨different, ledger.waitingUnresolved other conversationId before⟩
  · rw [expires.uuidToIndex, expires.nextUuid]
    exact ledger.registeredDrawn
  · rw [expires.sentIds, expires.nextUuid]
    exact ledger.sentDrawn
  · rw [expires.receivedIds, expires.nextUuid]
    exact ledger.receivedDrawn
  · rw [expires.collectedIds, expires.nextUuid]
    intro other member
    rcases List.mem_append.mp member with before | new
    · exact ledger.collectedDrawn other before
    · rw [List.mem_singleton.mp new]
      exact ledger.unresolved_lt unresolved
  · rw [expires.completedUuids, if_pos known, expires.collectedIds]
    intro other completed
    rw [List.mem_append, List.mem_singleton]
    rcases Finset.mem_insert.mp completed with new | before
    · exact Or.inr new
    · exact Or.inl (ledger.completedCollected other before)
  · rw [expires.collectedIds, expires.uuidToIndex, expires.receivedIds,
      expires.completedUuids, if_pos known]
    intro other collected registered
    rw [Finset.mem_insert]
    rcases List.mem_append.mp collected with before | new
    · exact (ledger.registeredSettled other before registered).imp_right Or.inr
    · exact Or.inr (Or.inl (List.mem_singleton.mp new))
  · rw [expires.receivedIds]
    exact ledger.uncollectedReceived
  · exact counted_erase ledger unresolved (expires.inflight known) erased

/-- Collecting a result that was received. -/
theorem collects {result : QueryResult} (ledger : Ledger uncollected first)
    (received : result.id ∈ first.receivedIds) :
    Ledger none (first.observe (.collected result)) := by
  have collectedIds : (first.observe (.collected result)).collectedIds =
      first.collectedIds ++ [result.id] := by
    simp [Observation.collectedId?]
  have sentIds : (first.observe (.collected result)).sentIds = first.sentIds := by
    simp [Observation.sentId?]
  have receivedIds : (first.observe (.collected result)).receivedIds =
      first.receivedIds := by
    simp [Observation.receivedId?]
  have sameUnresolved : (first.observe (.collected result)).unresolved =
      first.unresolved := by
    ext other
    rw [World.mem_unresolved, World.mem_unresolved, sentIds, receivedIds,
      collectedIds, List.mem_append, List.mem_singleton, not_or]
    constructor
    · rintro ⟨sent, registered, unreceived, rest, _⟩
      exact ⟨sent, registered, unreceived, rest⟩
    · rintro ⟨sent, registered, unreceived, rest⟩
      refine ⟨sent, registered, unreceived, rest, ?_⟩
      rintro rfl
      exact unreceived received
  constructor
  · exact ledger.waitingRegistered
  · exact ledger.waitingOpen
  · rw [sameUnresolved]
    exact ledger.waitingUnresolved
  · exact ledger.registeredDrawn
  · rw [sentIds]
    exact ledger.sentDrawn
  · rw [receivedIds]
    exact ledger.receivedDrawn
  · rw [collectedIds]
    intro other member
    rcases List.mem_append.mp member with before | new
    · exact ledger.collectedDrawn other before
    · rw [List.mem_singleton.mp new]
      exact ledger.receivedDrawn _ received
  · rw [collectedIds]
    exact fun other completed => List.mem_append.mpr
      (Or.inl (ledger.completedCollected other completed))
  · rw [collectedIds, receivedIds]
    intro other collected registered
    rcases List.mem_append.mp collected with before | new
    · exact ledger.registeredSettled other before registered
    · rw [List.mem_singleton.mp new]
      exact Or.inl received
  · exact fun _ uncollected => by cases uncollected
  · rw [sameUnresolved]
    exact ledger.counted

end Ledger

end InferenceEndpoint
