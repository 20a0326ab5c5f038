import InferenceEndpoint.LoadGenerator.Ledger

/-!
# Terminal events

Every sample has at most one COMPLETE event.  Unlike the ledger this does not
look at the phase issuer, whose record of terminated queries ends with its
phase.
-/

namespace InferenceEndpoint

/-- At most one COMPLETE event for each sample, and none before it ended.  The
other fields say which results are still to come; no issuer is involved, so
they survive a change of phase. -/
structure Terminals (uncollected : Option QueryResult) (world : World) : Prop where
  atMostOne : ∀ queryId, world.completeIds.count queryId ≤ 1
  ended : ∀ queryId ∈ world.completeIds,
    queryId ∈ world.receivedIds ∨ queryId ∈ world.collectedIds
  waitingUnreceived : ∀ queryId conversationId,
    world.strategy.inflight.get? queryId = some conversationId →
      queryId ∉ world.receivedIds
  waitingUncollected : ∀ queryId conversationId,
    world.strategy.inflight.get? queryId = some conversationId →
      queryId ∉ world.collectedIds
  waitingDrawn : ∀ queryId conversationId,
    world.strategy.inflight.get? queryId = some conversationId →
      queryId < world.nextUuid
  sentDrawn : ∀ queryId ∈ world.sentIds, queryId < world.nextUuid
  receivedDrawn : ∀ queryId ∈ world.receivedIds, queryId < world.nextUuid
  collectedDrawn : ∀ queryId ∈ world.collectedIds, queryId < world.nextUuid
  uncollectedSettled : ∀ result, uncollected = some result →
    result.id ∈ world.receivedIds ∧ world.strategy.inflight.get? result.id = none

theorem SameBooks.terminals {uncollected : Option QueryResult}
    {first second : World} (same : SameBooks first second)
    (terminals : Terminals uncollected first) : Terminals uncollected second := by
  constructor
  · rw [same.completeIds]; exact terminals.atMostOne
  · rw [same.completeIds, same.receivedIds, same.collectedIds]
    exact terminals.ended
  · rw [same.waiting, same.receivedIds]; exact terminals.waitingUnreceived
  · rw [same.waiting, same.collectedIds]; exact terminals.waitingUncollected
  · rw [same.waiting, same.nextUuid]; exact terminals.waitingDrawn
  · rw [same.sentIds, same.nextUuid]; exact terminals.sentDrawn
  · rw [same.receivedIds, same.nextUuid]; exact terminals.receivedDrawn
  · rw [same.collectedIds, same.nextUuid]; exact terminals.collectedDrawn
  · rw [same.receivedIds, same.waiting]; exact terminals.uncollectedSettled

section CompleteEvents

variable {first second : World} {queryId : QueryId}

theorem count_append_fresh {completeIds : List QueryId}
    (atMostOne : ∀ other, completeIds.count other ≤ 1)
    (fresh : queryId ∉ completeIds) (other : QueryId) :
    (completeIds ++ [queryId]).count other ≤ 1 := by
  rw [List.count_append]
  by_cases same : other = queryId
  · subst same
    rw [List.count_eq_zero_of_not_mem fresh]
    simp
  · have different : ¬ queryId = other := fun equal => same equal.symm
    simpa [different] using atMostOne other

theorem lt_of_mem_append {ids : List QueryId} {bound : QueryId}
    (below : ∀ other ∈ ids, other < bound) (drawn : queryId < bound) :
    ∀ other ∈ ids ++ [queryId], other < bound := by
  intro other member
  rcases List.mem_append.mp member with before | new
  · exact below other before
  · rw [List.mem_singleton.mp new]
    exact drawn

theorem lt_succ_of_mem {ids : List QueryId} {bound : QueryId}
    (below : ∀ other ∈ ids, other < bound) :
    ∀ other ∈ ids, other < bound + 1 :=
  fun other member => lt_succ_of_lt (below other member)

end CompleteEvents

namespace Terminals

variable {uncollected : Option QueryResult} {first second : World}
  {queryId : QueryId}

theorem inflightDrawn (terminals : Terminals uncollected first) :
    first.InflightDrawn := by
  intro queryId later
  cases waiting : first.strategy.inflight.get? queryId with
  | none => rfl
  | some conversationId =>
      exact absurd later
        (Nat.not_le.mpr (terminals.waitingDrawn queryId conversationId waiting))

theorem not_complete (terminals : Terminals uncollected first)
    (unreceived : queryId ∉ first.receivedIds)
    (uncollected_ : queryId ∉ first.collectedIds) :
    queryId ∉ first.completeIds := fun member =>
  (terminals.ended queryId member).elim unreceived uncollected_

theorem undrawn_not_collected (terminals : Terminals uncollected first) :
    first.nextUuid ∉ first.collectedIds := fun member =>
  Nat.lt_irrefl _ (terminals.collectedDrawn _ member)

theorem undrawn_not_received (terminals : Terminals uncollected first) :
    first.nextUuid ∉ first.receivedIds := fun member =>
  Nat.lt_irrefl _ (terminals.receivedDrawn _ member)

theorem undrawn_not_complete (terminals : Terminals uncollected first) :
    first.nextUuid ∉ first.completeIds :=
  terminals.not_complete terminals.undrawn_not_received
    terminals.undrawn_not_collected

theorem draws (terminals : Terminals uncollected first)
    (draws : Draws first second) : Terminals uncollected second := by
  constructor
  · rw [draws.completeIds]; exact terminals.atMostOne
  · rw [draws.completeIds, draws.receivedIds, draws.collectedIds]
    exact terminals.ended
  · rw [draws.waiting, draws.receivedIds]; exact terminals.waitingUnreceived
  · rw [draws.waiting, draws.collectedIds]; exact terminals.waitingUncollected
  · rw [draws.waiting, draws.nextUuid]
    exact fun other conversationId waiting =>
      lt_succ_of_lt (terminals.waitingDrawn other conversationId waiting)
  · rw [draws.sentIds, draws.nextUuid]; exact lt_succ_of_mem terminals.sentDrawn
  · rw [draws.receivedIds, draws.nextUuid]
    exact lt_succ_of_mem terminals.receivedDrawn
  · rw [draws.collectedIds, draws.nextUuid]
    exact lt_succ_of_mem terminals.collectedDrawn
  · rw [draws.receivedIds, draws.waiting]; exact terminals.uncollectedSettled

theorem issues (terminals : Terminals uncollected first)
    (issues : Issues first second) : Terminals uncollected second := by
  constructor
  · rw [issues.completeIds]; exact terminals.atMostOne
  · rw [issues.completeIds, issues.receivedIds, issues.collectedIds]
    exact terminals.ended
  · rw [issues.receivedIds]
    intro other conversationId waiting
    rcases issues.waiting other conversationId waiting with before | rfl
    · exact terminals.waitingUnreceived other conversationId before
    · exact terminals.undrawn_not_received
  · rw [issues.collectedIds]
    intro other conversationId waiting
    rcases issues.waiting other conversationId waiting with before | rfl
    · exact terminals.waitingUncollected other conversationId before
    · exact terminals.undrawn_not_collected
  · rw [issues.nextUuid]
    intro other conversationId waiting
    rcases issues.waiting other conversationId waiting with before | rfl
    · exact lt_succ_of_lt (terminals.waitingDrawn other conversationId before)
    · exact Nat.lt_succ_self _
  · rw [issues.sentIds, issues.nextUuid]
    exact lt_of_mem_append (lt_succ_of_mem terminals.sentDrawn) (Nat.lt_succ_self _)
  · rw [issues.receivedIds, issues.nextUuid]
    exact lt_succ_of_mem terminals.receivedDrawn
  · rw [issues.collectedIds, issues.nextUuid]
    exact lt_succ_of_mem terminals.collectedDrawn
  · rw [issues.receivedIds]
    intro result equal
    obtain ⟨received, settled⟩ := terminals.uncollectedSettled result equal
    refine ⟨received, ?_⟩
    cases waiting : second.strategy.inflight.get? result.id with
    | none => rfl
    | some conversationId =>
        rcases issues.waiting _ conversationId waiting with before | new
        · simp [settled] at before
        · rw [new] at received
          exact absurd (terminals.receivedDrawn _ received) (Nat.lt_irrefl _)

theorem skips (terminals : Terminals uncollected first)
    (skips : Skips first second) : Terminals uncollected second := by
  constructor
  · rw [skips.completeIds]
    exact count_append_fresh terminals.atMostOne terminals.undrawn_not_complete
  · rw [skips.completeIds, skips.receivedIds, skips.collectedIds]
    intro other member
    rcases List.mem_append.mp member with before | new
    · exact (terminals.ended other before).imp_right
        fun old => List.mem_append.mpr (Or.inl old)
    · exact Or.inr (List.mem_append.mpr (Or.inr new))
  · rw [skips.waiting, skips.receivedIds]; exact terminals.waitingUnreceived
  · rw [skips.waiting, skips.collectedIds]
    intro other conversationId waiting member
    rcases List.mem_append.mp member with before | new
    · exact terminals.waitingUncollected other conversationId waiting before
    · rw [List.mem_singleton.mp new] at waiting
      exact Nat.lt_irrefl _ (terminals.waitingDrawn _ conversationId waiting)
  · rw [skips.waiting, skips.nextUuid]
    exact fun other conversationId waiting =>
      lt_succ_of_lt (terminals.waitingDrawn other conversationId waiting)
  · rw [skips.sentIds, skips.nextUuid]; exact lt_succ_of_mem terminals.sentDrawn
  · rw [skips.receivedIds, skips.nextUuid]
    exact lt_succ_of_mem terminals.receivedDrawn
  · rw [skips.collectedIds, skips.nextUuid]
    exact lt_of_mem_append (lt_succ_of_mem terminals.collectedDrawn)
      (Nat.lt_succ_self _)
  · rw [skips.receivedIds, skips.waiting]; exact terminals.uncollectedSettled

/-- The real result of a query that the strategy waits for. -/
theorem answers {result : QueryResult} {conversationId : String}
    (terminals : Terminals none first)
    (expected : first.strategy.inflight.get? result.id = some conversationId)
    (answers : Answers result.id first second) : Terminals (some result) second := by
  have drawn := terminals.waitingDrawn _ _ expected
  have fresh := terminals.not_complete (terminals.waitingUnreceived _ _ expected)
    (terminals.waitingUncollected _ _ expected)
  constructor
  · rcases answers.completeIds with published | silent
    · rw [published]
      exact count_append_fresh terminals.atMostOne fresh
    · rw [silent]
      exact terminals.atMostOne
  · rw [answers.receivedIds, answers.collectedIds]
    intro other member
    have known : other ∈ first.completeIds ∨ other = result.id := by
      rcases answers.completeIds with published | silent
      · rw [published] at member
        exact (List.mem_append.mp member).imp_right List.mem_singleton.mp
      · rw [silent] at member
        exact Or.inl member
    rcases known with before | rfl
    · exact (terminals.ended other before).imp_left
        fun old => List.mem_append.mpr (Or.inl old)
    · exact Or.inl (by simp)
  · rw [answers.receivedIds]
    intro other otherId waiting member
    obtain ⟨before, different⟩ := answers.waiting other otherId waiting
    rcases List.mem_append.mp member with old | new
    · exact terminals.waitingUnreceived other otherId before old
    · exact different (List.mem_singleton.mp new)
  · rw [answers.collectedIds]
    exact fun other conversationId waiting => terminals.waitingUncollected other
      conversationId (answers.waiting other conversationId waiting).1
  · rw [answers.nextUuid]
    exact fun other conversationId waiting => terminals.waitingDrawn other
      conversationId (answers.waiting other conversationId waiting).1
  · rw [answers.sentIds, answers.nextUuid]; exact terminals.sentDrawn
  · rw [answers.receivedIds, answers.nextUuid]
    exact lt_of_mem_append terminals.receivedDrawn drawn
  · rw [answers.collectedIds, answers.nextUuid]; exact terminals.collectedDrawn
  · rintro other equal
    obtain rfl : result = other := by simpa using equal
    rw [answers.receivedIds]
    refine ⟨by simp, ?_⟩
    cases waiting : second.strategy.inflight.get? result.id with
    | none => rfl
    | some conversationId =>
        exact absurd rfl (answers.waiting _ conversationId waiting).2

/-- The synthetic result of a query that the strategy waits for. -/
theorem expires {conversationId : String} (terminals : Terminals uncollected first)
    (expected : first.strategy.inflight.get? queryId = some conversationId)
    (expires : Expires queryId first second) : Terminals uncollected second := by
  have drawn := terminals.waitingDrawn _ _ expected
  constructor
  · rw [expires.completeIds]
    exact count_append_fresh terminals.atMostOne
      (terminals.not_complete (terminals.waitingUnreceived _ _ expected)
        (terminals.waitingUncollected _ _ expected))
  · rw [expires.completeIds, expires.receivedIds, expires.collectedIds]
    intro other member
    rcases List.mem_append.mp member with before | new
    · exact (terminals.ended other before).imp_right
        fun old => List.mem_append.mpr (Or.inl old)
    · exact Or.inr (List.mem_append.mpr (Or.inr new))
  · rw [expires.receivedIds]
    exact fun other otherId waiting => terminals.waitingUnreceived other otherId
      (expires.waiting other otherId waiting).1
  · rw [expires.collectedIds]
    intro other conversationId waiting member
    obtain ⟨before, different⟩ := expires.waiting other conversationId waiting
    rcases List.mem_append.mp member with old | new
    · exact terminals.waitingUncollected other conversationId before old
    · exact different (List.mem_singleton.mp new)
  · rw [expires.nextUuid]
    exact fun other conversationId waiting => terminals.waitingDrawn other
      conversationId (expires.waiting other conversationId waiting).1
  · rw [expires.sentIds, expires.nextUuid]; exact terminals.sentDrawn
  · rw [expires.receivedIds, expires.nextUuid]; exact terminals.receivedDrawn
  · rw [expires.collectedIds, expires.nextUuid]
    exact lt_of_mem_append terminals.collectedDrawn drawn
  · rw [expires.receivedIds]
    intro result equal
    obtain ⟨received, settled⟩ := terminals.uncollectedSettled result equal
    refine ⟨received, ?_⟩
    cases waiting : second.strategy.inflight.get? result.id with
    | none => rfl
    | some conversationId =>
        have before := (expires.waiting _ conversationId waiting).1
        simp [settled] at before

/-- A real result that the strategy does not wait for. -/
theorem receives (terminals : Terminals uncollected first)
    (unreceived : queryId ∉ first.receivedIds) (drawn : queryId < first.nextUuid)
    (notWaiting : first.strategy.inflight.get? queryId = none)
    (waiting : second.strategy.inflight = first.strategy.inflight)
    (nextUuid : second.nextUuid = first.nextUuid)
    (sentIds : second.sentIds = first.sentIds)
    (receivedIds : second.receivedIds = first.receivedIds ++ [queryId])
    (collectedIds : second.collectedIds = first.collectedIds)
    (completeIds : second.completeIds = first.completeIds ∨
      queryId ∉ first.collectedIds ∧
        second.completeIds = first.completeIds ++ [queryId]) :
    Terminals uncollected second := by
  have received : ∀ other ∈ first.receivedIds, other ∈ second.receivedIds := by
    rw [receivedIds]
    exact fun other member => List.mem_append.mpr (Or.inl member)
  constructor
  · rcases completeIds with silent | ⟨uncollected_, published⟩
    · rw [silent]
      exact terminals.atMostOne
    · rw [published]
      exact count_append_fresh terminals.atMostOne
        (terminals.not_complete unreceived uncollected_)
  · rw [collectedIds]
    intro other member
    have known : other ∈ first.completeIds ∨ other = queryId := by
      rcases completeIds with silent | ⟨_, published⟩
      · rw [silent] at member
        exact Or.inl member
      · rw [published] at member
        exact (List.mem_append.mp member).imp_right List.mem_singleton.mp
    rcases known with before | rfl
    · exact (terminals.ended other before).imp_left (received other)
    · exact Or.inl (by simp [receivedIds])
  · rw [waiting, receivedIds]
    intro other otherId found member
    rcases List.mem_append.mp member with old | new
    · exact terminals.waitingUnreceived other otherId found old
    · rw [List.mem_singleton.mp new, notWaiting] at found
      simp at found
  · rw [waiting, collectedIds]; exact terminals.waitingUncollected
  · rw [waiting, nextUuid]; exact terminals.waitingDrawn
  · rw [sentIds, nextUuid]; exact terminals.sentDrawn
  · rw [receivedIds, nextUuid]
    exact lt_of_mem_append terminals.receivedDrawn drawn
  · rw [collectedIds, nextUuid]; exact terminals.collectedDrawn
  · rw [waiting]
    exact fun result equal =>
      (terminals.uncollectedSettled result equal).imp_left (received _)

theorem collects {result : QueryResult} (terminals : Terminals uncollected first)
    (received : result.id ∈ first.receivedIds)
    (settled : first.strategy.inflight.get? result.id = none) :
    Terminals none (first.observe (.collected result)) := by
  have completeIds : (first.observe (.collected result)).completeIds =
      first.completeIds := by
    simp [Observation.completeId?]
  have collectedIds : (first.observe (.collected result)).collectedIds =
      first.collectedIds ++ [result.id] := by
    simp [Observation.collectedId?]
  have sentIds : (first.observe (.collected result)).sentIds = first.sentIds := by
    simp [Observation.sentId?]
  have receivedIds : (first.observe (.collected result)).receivedIds =
      first.receivedIds := by
    simp [Observation.receivedId?]
  constructor
  · rw [completeIds]; exact terminals.atMostOne
  · rw [completeIds, receivedIds, collectedIds]
    exact fun other member => (terminals.ended other member).imp_right
      fun old => List.mem_append.mpr (Or.inl old)
  · rw [receivedIds]
    exact terminals.waitingUnreceived
  · rw [collectedIds]
    intro other conversationId waiting member
    rcases List.mem_append.mp member with before | new
    · exact terminals.waitingUncollected other conversationId waiting before
    · have found : first.strategy.inflight.get? other = some conversationId := waiting
      rw [List.mem_singleton.mp new, settled] at found
      simp at found
  · exact terminals.waitingDrawn
  · rw [sentIds]; exact terminals.sentDrawn
  · rw [receivedIds]; exact terminals.receivedDrawn
  · rw [collectedIds]
    exact lt_of_mem_append terminals.collectedDrawn
      (terminals.receivedDrawn _ received)
  · exact fun _ uncollected => by cases uncollected

end Terminals

end InferenceEndpoint
