import InferenceEndpoint.LoadGenerator.TurnOutcomes

/-!
# The order of turns

Within a phase a trajectory sends its turns in the order of the dataset, each after the
successful results of the turns before; and there are never more trajectories with a turn
left than slots.  All of this holds whatever is refused, fails or is answered late.
-/

namespace InferenceEndpoint

variable {config : AgenticConfig}

/-! ## Turns in order -/

/-- The turns of a conversation that were handed to the client, in that order. -/
def sentTurns (conversationId : String) (events : List TurnEvent) : List Nat :=
  events.filterMap fun
    | .sent _ issuedFor turn => if issuedFor = conversationId then some turn else none
    | _ => none

/-- The query was answered, and nothing that was recorded for it is an error. -/
structure Succeeded (events : List TurnEvent) (queryId : QueryId) : Prop where
  received : ∃ result, .received result ∈ events ∧ result.id = queryId
  flawless : ∀ result, .received result ∈ events ∨ .collected result ∈ events →
    result.id = queryId → result.error = none

/-- Every turn that is sent is the next one of a started instance, after the successful
results of its earlier turns. -/
def InOrder (config : AgenticConfig) (started : Nat) (events : List TurnEvent) : Prop :=
  ∀ before after queryId conversationId turn,
    events = before ++ .sent queryId conversationId turn :: after →
      (∃ number < started, ∃ instance_, config.instanceAt? number = some instance_ ∧
        instance_.logicalId = conversationId ∧
        sentTurns conversationId before ++ [turn] <+:
          instance_.turns.map ConversationTurn.turn) ∧
      ∀ earlier other, .sent earlier conversationId other ∈ before → Succeeded before earlier

section

variable {events news : List TurnEvent} {queryId : QueryId} {conversationId : String} {turn : Nat}

theorem Succeeded.append (succeeded : Succeeded events queryId)
    (apart : ∀ result, .received result ∈ news ∨ .collected result ∈ news →
      result.id = queryId → result.error = none) : Succeeded (events ++ news) queryId := by
  obtain ⟨result, received, same⟩ := succeeded.received
  refine ⟨⟨result, List.mem_append_left _ received, same⟩, ?_⟩
  intro other recorded isQuery
  rw [List.mem_append, List.mem_append] at recorded
  rcases recorded with (before | now) | (before | now)
  · exact succeeded.flawless other (.inl before) isQuery
  · exact apart other (.inl now) isQuery
  · exact succeeded.flawless other (.inr before) isQuery
  · exact apart other (.inr now) isQuery

/-- News without results leave what has succeeded alone. -/
theorem Succeeded.quiet (succeeded : Succeeded events queryId)
    (quiet : ∀ result, .received result ∉ news ∧ .collected result ∉ news) :
    Succeeded (events ++ news) queryId :=
  succeeded.append fun result recorded _ =>
    (recorded.elim (quiet result).1 (quiet result).2).elim

theorem sentTurns_append (conversationId : String) (events news : List TurnEvent) :
    sentTurns conversationId (events ++ news) =
      sentTurns conversationId events ++ sentTurns conversationId news := by
  simp [sentTurns]

theorem sentTurns_eq_nil (silent : ∀ queryId turn, .sent queryId conversationId turn ∉ events) :
    sentTurns conversationId events = [] := by
  rw [sentTurns, List.filterMap_eq_nil_iff]
  intro event member
  cases event with
  | sent queryId issuedFor turn =>
      dsimp only
      rw [if_neg]
      rintro rfl
      exact silent queryId turn member
  | announced | received | collected | refused => rfl

theorem InOrder.mono {started more : Nat} (inOrder : InOrder config started events)
    (less : started ≤ more) : InOrder config more events := by
  intro before after queryId conversationId turn split
  obtain ⟨⟨number, below, instance_, rest⟩, succeeded⟩ := inOrder _ _ _ _ _ split
  exact ⟨⟨number, by omega, instance_, rest⟩, succeeded⟩

/-- News without a turn that is sent do not change the order. -/
theorem InOrder.append {started : Nat} (inOrder : InOrder config started events)
    (silent : ∀ queryId conversationId turn, .sent queryId conversationId turn ∉ news) :
    InOrder config started (events ++ news) := by
  intro before after queryId conversationId turn split
  rcases List.append_eq_append_iff.mp split with ⟨more, -, isNews⟩ | ⟨more, isEvents, rest⟩
  · exact absurd (isNews ▸ List.mem_append_right _ List.mem_cons_self)
      (silent queryId conversationId turn)
  · cases more with
    | nil =>
        rw [List.nil_append] at rest
        exact absurd (rest ▸ List.mem_cons_self) (silent queryId conversationId turn)
    | cons event others =>
        obtain ⟨rfl, -⟩ := List.cons.inj rest
        exact inOrder before others queryId conversationId turn isEvents

/-- The next turn of an instance is sent. -/
theorem InOrder.send {started : Nat} (inOrder : InOrder config started events)
    (next : ∃ number < started, ∃ instance_, config.instanceAt? number = some instance_ ∧
      instance_.logicalId = conversationId ∧
      sentTurns conversationId events ++ [turn] <+: instance_.turns.map ConversationTurn.turn)
    (succeeded : ∀ earlier other, .sent earlier conversationId other ∈ events →
      Succeeded events earlier) :
    InOrder config started (events ++ [.sent queryId conversationId turn]) := by
  intro before after other issuedFor number split
  rcases List.eq_nil_or_concat after with rfl | ⟨rest, last, rfl⟩
  · obtain ⟨rfl, same⟩ := List.append_inj' split rfl
    obtain ⟨rfl, rfl, rfl⟩ : queryId = other ∧ conversationId = issuedFor ∧ turn = number := by
      simpa using same
    exact ⟨next, succeeded⟩
  · rw [List.concat_eq_append, ← List.cons_append, ← List.append_assoc] at split
    exact inOrder before rest other issuedFor number (List.append_inj' split rfl).1

end

namespace Schedule

variable {schedule next : Schedule}

/-! ## The sequence of an instance -/

/-- The sent turns of an active conversation are those before its cursor, and each of them is
waited for or has succeeded. -/
structure Sequence (config : AgenticConfig) (schedule : Schedule) : Prop where
  known : ∀ queryId conversationId turn, .sent queryId conversationId turn ∈ schedule.events →
    queryId < schedule.nextUuid ∧ (schedule.counters conversationId).isSome
  seated : ∀ conversationId state, schedule.active conversationId = some state →
    (∃ number < schedule.started, ∃ instance_, config.instanceAt? number = some instance_ ∧
      instance_.logicalId = conversationId ∧ state.turns = instance_.turns) ∧
    sentTurns conversationId schedule.events =
      (state.turns.take state.cursor).map ConversationTurn.turn
  answered : ∀ conversationId queryId turn, (schedule.active conversationId).isSome →
    .sent queryId conversationId turn ∈ schedule.events →
      schedule.waiting queryId = some conversationId ∨ Succeeded schedule.events queryId
  held : ∀ result, schedule.uncollected = some result → .received result ∈ schedule.events
  inOrder : InOrder config schedule.started schedule.events

/-- The schedule after news that send nothing. -/
structure Extends (schedule next : Schedule) (news : List TurnEvent) : Prop where
  events : next.events = schedule.events ++ news
  silent : ∀ queryId conversationId turn, .sent queryId conversationId turn ∉ news
  nextUuid : schedule.nextUuid ≤ next.nextUuid
  counters : ∀ conversationId, (schedule.counters conversationId).isSome →
    (next.counters conversationId).isSome
  started : next.started = schedule.started
  active : ∀ conversationId state, next.active conversationId = some state →
    schedule.active conversationId = some state
  held : ∀ result, next.uncollected = some result → .received result ∈ next.events

theorem Sequence.extend (sequence : Sequence config schedule) (news : List TurnEvent)
    (extends_ : Extends schedule next news)
    (answered : ∀ conversationId queryId turn, (next.active conversationId).isSome →
      .sent queryId conversationId turn ∈ schedule.events →
        schedule.waiting queryId = some conversationId ∨ Succeeded schedule.events queryId →
          next.waiting queryId = some conversationId ∨ Succeeded next.events queryId) :
    Sequence config next := by
  obtain ⟨events, silent, nextUuid, counters, started, active, held⟩ := extends_
  have earlier : ∀ queryId conversationId turn,
      .sent queryId conversationId turn ∈ next.events →
        .sent queryId conversationId turn ∈ schedule.events := by
    intro queryId conversationId turn member
    rw [events] at member
    exact (List.mem_append.mp member).resolve_right (silent queryId conversationId turn)
  constructor
  · intro queryId conversationId turn member
    obtain ⟨drawn, known⟩ := sequence.known _ _ _ (earlier _ _ _ member)
    exact ⟨Nat.lt_of_lt_of_le drawn nextUuid, counters _ known⟩
  · intro conversationId state found
    obtain ⟨isInstance, turns⟩ := sequence.seated _ _ (active _ _ found)
    refine ⟨started ▸ isInstance, ?_⟩
    rw [events, sentTurns_append, sentTurns_eq_nil fun queryId turn => silent queryId _ turn,
      List.append_nil]
    exact turns
  · intro conversationId queryId turn found member
    obtain ⟨state, isState⟩ := Option.isSome_iff_exists.mp found
    have before := earlier _ _ _ member
    exact answered _ _ _ found before
      (sequence.answered _ _ _ (by rw [active _ _ isState]; rfl) before)
  · exact held
  · rw [events, started]
    exact sequence.inOrder.append silent

/-- A query with its own result has no other one yet, so a success stays one. -/
theorem Pending.other {queryId other : QueryId} {conversationId issuedFor : String}
    (pending : schedule.Pending queryId conversationId) (different : issuedFor ≠ conversationId)
    (was : schedule.waiting other = some issuedFor ∨ Succeeded schedule.events other) :
    other ≠ queryId := by
  rintro rfl
  rcases was with waits | succeeded
  · rw [pending.waiting] at waits
    exact different (Option.some.inj waits).symm
  · obtain ⟨result, received, same⟩ := succeeded.received
    exact pending.unreceived result received same

/-- The query of a conversation that leaves is settled; the others are as they were. -/
theorem Sequence.leaves {queryId : QueryId} {conversationId : String}
    (sequence : Sequence config schedule) (event : TurnEvent)
    (pending : schedule.Pending queryId conversationId)
    (extends_ : Extends schedule next [event]) (recorded : event.queryId? = some queryId)
    (waiting : next.waiting = Function.update schedule.waiting queryId none)
    (gone : next.active conversationId = none) : Sequence config next := by
  apply sequence.extend _ extends_
  intro issuedFor other turn found _ was
  have different : issuedFor ≠ conversationId := by
    rintro rfl
    rw [gone] at found
    cases found
  have notQuery := pending.other different was
  refine was.imp (fun waits => ?_) fun succeeded => ?_
  · rw [waiting, Function.update_of_ne notQuery]
    exact waits
  · rw [extends_.events]
    apply succeeded.append
    rintro result (now | now) same
    · rw [← List.mem_singleton.mp now] at recorded
      exact absurd (same.symm.trans (Option.some.inj recorded)) notQuery
    · rw [← List.mem_singleton.mp now] at recorded
      exact absurd (same.symm.trans (Option.some.inj recorded)) notQuery

/-- The turn of an active conversation is sent. -/
theorem Sequence.issued (sequence : Sequence config schedule) {conversationId : String}
    {turn : ConversationTurn} {state : ActiveConversation}
    (active : schedule.active conversationId = some state)
    (current : state.turns[state.cursor]? = some turn)
    (free : ∀ queryId, schedule.waiting queryId ≠ some conversationId)
    (known : (schedule.counters conversationId).isSome) :
    Sequence config (schedule.issue conversationId turn state) := by
  obtain ⟨⟨number, below, instance_, is, same, turns⟩, sentBefore⟩ :=
    sequence.seated conversationId state active
  have succeeded : ∀ earlier other, .sent earlier conversationId other ∈ schedule.events →
      Succeeded schedule.events earlier := by
    intro earlier other member
    exact (sequence.answered _ _ _ (by rw [active]; rfl) member).resolve_left (free earlier)
  have upTo : state.turns.take (state.cursor + 1) = state.turns.take state.cursor ++ [turn] := by
    rw [List.take_add_one, current]
    rfl
  have silent : ∀ queryId conversationId' turn',
      .sent queryId conversationId' turn' ∉
        [TurnEvent.announced schedule.nextUuid conversationId turn.turn] := by
    intro queryId conversationId' turn' member
    cases List.mem_singleton.mp member
  have events : (schedule.issue conversationId turn state).events =
      (schedule.events ++ [.announced schedule.nextUuid conversationId turn.turn]) ++
        [.sent schedule.nextUuid conversationId turn.turn] := by
    rw [List.append_assoc]
    rfl
  have announcedOnly : ∀ issuedFor, sentTurns issuedFor
      (schedule.events ++ [.announced schedule.nextUuid conversationId turn.turn]) =
        sentTurns issuedFor schedule.events := by
    intro issuedFor
    rw [sentTurns_append, sentTurns_eq_nil fun queryId number => silent queryId issuedFor number,
      List.append_nil]
  have isEarlier : ∀ {queryId issuedFor number}, .sent queryId issuedFor number ∈
      schedule.events ++ [.announced schedule.nextUuid conversationId turn.turn] →
        .sent queryId issuedFor number ∈ schedule.events :=
    fun member => (List.mem_append.mp member).resolve_right (silent _ _ _)
  have quiet : ∀ result : QueryResult,
      .received result ∉ [TurnEvent.announced schedule.nextUuid conversationId turn.turn] ∧
        .collected result ∉
          [TurnEvent.announced schedule.nextUuid conversationId turn.turn] := by
    intro result
    constructor <;> intro member <;> cases List.mem_singleton.mp member
  have quietSent : ∀ result : QueryResult,
      .received result ∉ [TurnEvent.sent schedule.nextUuid conversationId turn.turn] ∧
        .collected result ∉ [TurnEvent.sent schedule.nextUuid conversationId turn.turn] := by
    intro result
    constructor <;> intro member <;> cases List.mem_singleton.mp member
  constructor
  · intro queryId issuedFor number' member
    rw [events] at member
    rcases List.mem_append.mp member with before | now
    · obtain ⟨drawn, isKnown⟩ := sequence.known _ _ _ (isEarlier before)
      exact ⟨Nat.lt_succ_of_lt drawn, isKnown⟩
    · obtain ⟨rfl, rfl, rfl⟩ : queryId = schedule.nextUuid ∧ issuedFor = conversationId ∧
          number' = turn.turn := by simpa using now
      exact ⟨Nat.lt_succ_self _, known⟩
  · intro issuedFor found isFound
    rw [events, sentTurns_append, announcedOnly]
    have isActive : Function.update schedule.active conversationId
        (some { state with cursor := state.cursor + 1 }) issuedFor = some found := isFound
    by_cases here : issuedFor = conversationId
    · subst here
      rw [Function.update_self] at isActive
      obtain rfl := Option.some.inj isActive
      refine ⟨⟨number, below, instance_, is, same, turns⟩, ?_⟩
      simp only [upTo, List.map_append, List.map_cons, List.map_nil, sentBefore]
      simp [sentTurns]
    · rw [Function.update_of_ne here] at isActive
      obtain ⟨isInstance, sentOther⟩ := sequence.seated _ _ isActive
      refine ⟨isInstance, ?_⟩
      rw [sentOther]
      simp [sentTurns, Ne.symm here]
  · intro issuedFor queryId number' found member
    rw [events] at member ⊢
    have waits : (schedule.issue conversationId turn state).waiting queryId =
        Function.update schedule.waiting schedule.nextUuid (some conversationId) queryId := rfl
    rcases List.mem_append.mp member with before | now
    · have earlier := isEarlier before
      have old : queryId ≠ schedule.nextUuid :=
        Nat.ne_of_lt (sequence.known _ _ _ earlier).1
      rw [waits, Function.update_of_ne old]
      have wasActive : (schedule.active issuedFor).isSome := by
        by_cases here : issuedFor = conversationId
        · rw [here, active]
          rfl
        · have isActive : (Function.update schedule.active conversationId
              (some { state with cursor := state.cursor + 1 }) issuedFor).isSome = true := found
          rwa [Function.update_of_ne here] at isActive
      exact (sequence.answered _ _ _ wasActive earlier).imp_right fun success =>
        (success.quiet quiet).quiet quietSent
    · obtain ⟨rfl, rfl, -⟩ : queryId = schedule.nextUuid ∧ issuedFor = conversationId ∧
          number' = turn.turn := by simpa using now
      left
      rw [waits, Function.update_self]
  · intro result isHeld
    rw [events]
    exact List.mem_append_left _ (List.mem_append_left _ (sequence.held result isHeld))
  · rw [events]
    apply (sequence.inOrder.append silent).send
    · refine ⟨number, below, instance_, is, same, ?_⟩
      rw [announcedOnly, sentBefore, ← turns]
      have joined : (state.turns.take state.cursor).map ConversationTurn.turn ++ [turn.turn] =
          (state.turns.take (state.cursor + 1)).map ConversationTurn.turn := by
        rw [upTo, List.map_append]
        rfl
      rw [joined]
      exact (List.take_prefix _ _).map _
    · intro earlier other member
      exact (succeeded earlier other (isEarlier member)).quiet quiet

/-- A new instance has sent nothing. -/
theorem Sequence.start (sequence : Sequence config schedule) {started : ConversationInstance}
    (drawn : config.instanceAt? schedule.started = some started)
    (fresh : schedule.counters started.logicalId = none) :
    Sequence config (schedule.start started) := by
  have unsent : ∀ queryId turn, .sent queryId started.logicalId turn ∉ schedule.events := by
    intro queryId turn member
    have isKnown := (sequence.known _ _ _ member).2
    rw [fresh] at isKnown
    cases isKnown
  constructor
  · intro queryId issuedFor turn member
    obtain ⟨below, isKnown⟩ := sequence.known _ _ _ member
    refine ⟨below, ?_⟩
    change (Function.update schedule.counters started.logicalId _ issuedFor).isSome
    by_cases here : issuedFor = started.logicalId
    · rw [here, Function.update_self]
      rfl
    · rw [Function.update_of_ne here]
      exact isKnown
  · intro issuedFor state isFound
    have isActive : Function.update schedule.active started.logicalId _ issuedFor = some state :=
      isFound
    by_cases here : issuedFor = started.logicalId
    · subst here
      rw [Function.update_self] at isActive
      obtain rfl := Option.some.inj isActive
      refine ⟨⟨schedule.started, Nat.lt_succ_self _, started, drawn, rfl, rfl⟩, ?_⟩
      exact sentTurns_eq_nil unsent
    · rw [Function.update_of_ne here] at isActive
      obtain ⟨⟨number, below, rest⟩, turns⟩ := sequence.seated _ _ isActive
      exact ⟨⟨number, Nat.lt_succ_of_lt below, rest⟩, turns⟩
  · intro issuedFor queryId turn found member
    have different : issuedFor ≠ started.logicalId := by
      rintro rfl
      exact unsent queryId turn member
    have isActive : (Function.update schedule.active started.logicalId _ issuedFor).isSome =
        true := found
    rw [Function.update_of_ne different] at isActive
    exact sequence.answered _ _ _ isActive member
  · exact sequence.held
  · exact sequence.inOrder.mono (Nat.le_succ _)

/-- News leave the sequence alone if no query that has succeeded fails by them. -/
theorem Sequence.passes (sequence : Sequence config schedule) (news : List TurnEvent)
    (extends_ : Extends schedule next news) (waiting : next.waiting = schedule.waiting)
    (apart : ∀ result queryId conversationId turn,
      .sent queryId conversationId turn ∈ schedule.events →
        Succeeded schedule.events queryId →
          .received result ∈ news ∨ .collected result ∈ news →
            result.id = queryId → result.error = none) : Sequence config next := by
  apply sequence.extend _ extends_
  intro conversationId queryId turn _ member was
  rw [waiting, extends_.events]
  refine was.imp_right fun succeeded => succeeded.append ?_
  intro result recorded same
  exact apart result queryId conversationId turn member succeeded recorded same

/-- Nothing is recorded. -/
theorem Sequence.still (sequence : Sequence config schedule)
    (events : next.events = schedule.events) (nextUuid : schedule.nextUuid ≤ next.nextUuid)
    (counters : next.counters = schedule.counters) (started : next.started = schedule.started)
    (active : ∀ conversationId state, next.active conversationId = some state →
      schedule.active conversationId = some state)
    (uncollected : next.uncollected = schedule.uncollected)
    (waiting : next.waiting = schedule.waiting) : Sequence config next := by
  refine sequence.passes [] ⟨?_, by simp, nextUuid, ?_, started, active, ?_⟩ waiting (by simp)
  · rw [events, List.append_nil]
  · rw [counters]
    exact fun _ => id
  · rw [uncollected, events]
    exact sequence.held

theorem isSome_update {counters : String → Option ConversationState} (conversationId : String)
    (marked : ConversationState) {other : String} (known : (counters other).isSome) :
    (Function.update counters conversationId (some marked) other).isSome := by
  by_cases same : other = conversationId
  · rw [same, Function.update_self]
    rfl
  · rw [Function.update_of_ne same]
    exact known

theorem of_update_none {active : String → Option ActiveConversation} {conversationId other : String}
    {state : ActiveConversation}
    (found : Function.update active conversationId none other = some state) :
    active other = some state := by
  by_cases same : other = conversationId
  · rw [same, Function.update_self] at found
    cases found
  · rwa [Function.update_of_ne same] at found

/-- The waiting query of a conversation has its result. -/
theorem Sequence.answer {result : QueryResult} {conversationId : String}
    {marked : ConversationState} {control : Control} (sequence : Sequence config schedule)
    (pending : schedule.Pending result.id conversationId) (succeeded : result.error = none) :
    Sequence config { schedule with
      waiting := Function.update schedule.waiting result.id none
      counters := Function.update schedule.counters conversationId (some marked)
      events := schedule.events ++ [.received result]
      uncollected := some result
      control := control } := by
  have only : ∀ other, .received other ∈ [TurnEvent.received result] → other = result := by
    intro other now
    simpa using now
  have uncollected : ∀ other, .collected other ∉ [TurnEvent.received result] := by
    intro other now
    simp at now
  refine sequence.extend [.received result] ⟨rfl, by simp, Nat.le_refl _,
    fun _ => isSome_update _ _, rfl, fun _ _ => id, ?_⟩ ?_
  · intro held isHeld
    obtain rfl := Option.some.inj isHeld
    exact List.mem_append_right _ (List.mem_singleton_self _)
  · intro issuedFor queryId turn _ _ was
    by_cases same : queryId = result.id
    · subst same
      refine Or.inr ⟨⟨result, List.mem_append_right _ (List.mem_singleton_self _), rfl⟩, ?_⟩
      intro other recorded isQuery
      rw [List.mem_append, List.mem_append] at recorded
      rcases recorded with (before | now) | (before | now)
      · exact absurd isQuery (pending.unreceived other before)
      · rw [only other now]
        exact succeeded
      · exact absurd isQuery (pending.uncollected other before)
      · exact absurd now (uncollected other)
    · refine was.imp (Function.update_of_ne same _ _).trans fun success => success.append ?_
      rintro other (now | now) isQuery
      · rw [only other now] at isQuery
        exact absurd isQuery.symm same
      · exact absurd now (uncollected other)

/-- Every step keeps the sequence of the instances. -/
theorem Step.sequence (step : Step config schedule next) (sequence : Sequence config schedule) :
    Sequence config next := by
  cases step with
  | turned =>
      exact sequence.still rfl (Nat.le_refl _) rfl rfl (fun _ _ => id) rfl rfl
  | @crashed nextUuid news calm drawn announced =>
      have quiet : ∀ event ∈ news, ∃ conversationId turn,
          event = .announced schedule.nextUuid conversationId turn := by
        intro event member
        rcases announced with rfl | ⟨conversationId, turn, rfl, _⟩
        · cases member
        · exact ⟨conversationId, turn, List.mem_singleton.mp member⟩
      refine sequence.passes news ⟨rfl, ?_, drawn, fun _ => id, rfl, fun _ _ => id,
        ?_⟩ rfl ?_
      · intro queryId conversationId turn member
        obtain ⟨_, _, is⟩ := quiet _ member
        cases is
      · exact fun result held => List.mem_append_left _ (sequence.held result held)
      · rintro result queryId conversationId turn _ _ (member | member)
        · obtain ⟨_, _, is⟩ := quiet _ member
          cases is
        · obtain ⟨_, _, is⟩ := quiet _ member
          cases is
  | faulted =>
      exact sequence.still rfl (Nat.le_refl _) rfl rfl (fun _ _ => id) rfl rfl
  | answered pending succeeded => exact sequence.answer pending succeeded
  | @rejected result conversationId state marked pending failed counted =>
      refine sequence.leaves (.received result) pending ⟨rfl, by simp, Nat.le_refl _,
        fun _ => isSome_update _ _, rfl, fun _ _ => of_update_none, ?_⟩ rfl rfl
        (Function.update_self ..)
      intro held isHeld
      obtain rfl := Option.some.inj isHeld
      exact List.mem_append_right _ (List.mem_singleton_self _)
  | @timedOut queryId conversationId message state marked pending counted =>
      refine sequence.leaves
        (.collected (World.syntheticResult queryId "TurnTimeout" message)) pending
        ⟨rfl, by simp, Nat.le_refl _, fun _ => isSome_update _ _, rfl,
          fun _ _ => of_update_none, ?_⟩ rfl rfl (Function.update_self ..)
      exact fun result held => List.mem_append_left _ (sequence.held result held)
  | @collected result uncollected =>
      refine sequence.passes [.collected result] ⟨rfl, by simp, Nat.le_refl _,
        fun _ => id, rfl, fun _ _ => id, by simp⟩ rfl ?_
      rintro other queryId conversationId turn _ succeeded (now | now) same
      · simp at now
      · obtain rfl : other = result := by simpa using now
        exact succeeded.flawless other (.inl (sequence.held other uncollected)) same
  | finished holding active exhausted free =>
      exact sequence.still rfl (Nat.le_refl _) rfl rfl (fun _ _ => of_update_none) rfl rfl
  | issued due active current free known => exact sequence.issued active current free known
  | @stopped news calm why =>
      have quiet : ∀ event ∈ news, ∃ conversationId turn,
          event = .refused conversationId turn := by
        intro event member
        rcases why with ⟨conversationId, turn, rfl⟩ | ⟨rfl, _⟩
        · exact ⟨conversationId, turn, List.mem_singleton.mp member⟩
        · cases member
      refine sequence.passes news ⟨rfl, ?_, Nat.le_refl _, fun _ => id, rfl, ?_, ?_⟩
        rfl ?_
      · intro queryId conversationId turn member
        obtain ⟨_, _, is⟩ := quiet _ member
        cases is
      · intro conversationId state found
        cases found
      · exact fun result held => List.mem_append_left _ (sequence.held result held)
      · rintro result queryId conversationId turn _ _ (member | member)
        · obtain ⟨_, _, is⟩ := quiet _ member
          cases is
        · obtain ⟨_, _, is⟩ := quiet _ member
          cases is
  | started filling issuing drawn budget fresh => exact sequence.start drawn fresh
  | @skipped conversationId reason turn turns state marked aborting counted =>
      refine sequence.passes _ ⟨rfl, by simp, Nat.le_succ _, fun _ => isSome_update _ _, rfl,
        fun _ _ => id, ?_⟩ rfl ?_
      · exact fun result held => List.mem_append_left _ (sequence.held result held)
      · rintro result queryId issuedFor number member _ (now | now) same
        · simp at now
        · obtain rfl : result = World.syntheticResult schedule.nextUuid
              "TurnAbortedByPriorFailure" reason := by simpa using now
          exact absurd same.symm (Nat.ne_of_lt (sequence.known _ _ _ member).1)
  | @skipRefused conversationId turn turns state marked aborting counted =>
      refine sequence.passes [.refused conversationId turn.turn] ⟨rfl, by simp,
        Nat.le_refl _, fun _ => isSome_update _ _, rfl, fun _ _ => id, ?_⟩ rfl (by simp)
      exact fun result held => List.mem_append_left _ (sequence.held result held)

/-! ## Slots -/

/-- A conversation that is active or waits for a result. -/
def Unfinished (schedule : Schedule) (conversationId : String) : Prop :=
  (schedule.active conversationId).isSome ∨
    ∃ queryId, schedule.waiting queryId = some conversationId

/-- The slots suffice for the unfinished conversations and for the instance that may be
started by the callback that runs. -/
def Within (slots : Nat) (schedule : Schedule) : Prop :=
  ∀ unfinished : Finset String,
    (∀ conversationId ∈ unfinished, schedule.Unfinished conversationId) →
      unfinished.card +
        (if schedule.control.vacating = true ∧ schedule.stopping = false then 1 else 0) ≤ slots

/-- Two queries that one conversation waits for are the same. -/
def Alone (schedule : Schedule) : Prop :=
  ∀ first second conversationId, schedule.waiting first = some conversationId →
    schedule.waiting second = some conversationId → first = second

variable {slots : Nat}

theorem Alone.shrink (alone : schedule.Alone)
    (fewer : ∀ queryId conversationId, next.waiting queryId = some conversationId →
      schedule.waiting queryId = some conversationId) : next.Alone :=
  fun first second conversationId firstWaits secondWaits =>
    alone first second conversationId (fewer _ _ firstWaits) (fewer _ _ secondWaits)

theorem waiting_of_update {waiting : QueryId → Option String} {settled queryId : QueryId}
    {conversationId : String}
    (waits : Function.update waiting settled none queryId = some conversationId) :
    queryId ≠ settled ∧ waiting queryId = some conversationId := by
  by_cases same : queryId = settled
  · rw [same, Function.update_self] at waits
    cases waits
  · rw [Function.update_of_ne same] at waits
    exact ⟨same, waits⟩

theorem Step.alone (step : Step config schedule next) (alone : schedule.Alone) : next.Alone := by
  cases step with
  | @issued conversationId turn state due active current free known =>
      have waits : ∀ queryId issuedFor,
          (schedule.issue conversationId turn state).waiting queryId = some issuedFor →
            (queryId = schedule.nextUuid ∧ issuedFor = conversationId) ∨
              schedule.waiting queryId = some issuedFor := by
        intro queryId issuedFor found
        have updated : Function.update schedule.waiting schedule.nextUuid
          (some conversationId) queryId = some issuedFor := found
        by_cases same : queryId = schedule.nextUuid
        · rw [same, Function.update_self] at updated
          exact Or.inl ⟨same, (Option.some.inj updated).symm⟩
        · rw [Function.update_of_ne same] at updated
          exact Or.inr updated
      intro first second issuedFor firstWaits secondWaits
      rcases waits _ _ firstWaits with ⟨rfl, rfl⟩ | isFirst
      · rcases waits _ _ secondWaits with ⟨rfl, -⟩ | isSecond
        · rfl
        · exact absurd isSecond (free second)
      · rcases waits _ _ secondWaits with ⟨rfl, rfl⟩ | isSecond
        · exact absurd isFirst (free first)
        · exact alone first second issuedFor isFirst isSecond
  | answered | rejected | timedOut =>
      exact alone.shrink fun _ _ waits => (waiting_of_update waits).2
  | turned | crashed | faulted | collected | finished | stopped | started | skipped
  | skipRefused => exact alone

/-- No conversation becomes unfinished, and no callback begins to free a slot. -/
theorem Within.shrink (within : schedule.Within slots)
    (fewer : ∀ conversationId, next.Unfinished conversationId →
      schedule.Unfinished conversationId)
    (lighter : next.control.vacating = true → next.stopping = false →
      schedule.control.vacating = true ∧ schedule.stopping = false) : next.Within slots := by
  intro unfinished all
  have before := within unfinished fun conversationId member => fewer _ (all _ member)
  by_cases vacating : next.control.vacating = true ∧ next.stopping = false
  · rw [if_pos (lighter vacating.1 vacating.2)] at before
    rwa [if_pos vacating]
  · rw [if_neg vacating]
    omega

/-- A conversation that is no longer unfinished has freed its slot. -/
theorem Within.vacate {conversationId : String} (within : schedule.Within slots)
    (was : schedule.Unfinished conversationId) (gone : ¬ next.Unfinished conversationId)
    (fewer : ∀ other, next.Unfinished other → schedule.Unfinished other) :
    next.Within slots := by
  intro unfinished all
  have absent : conversationId ∉ unfinished := fun member => gone (all _ member)
  have before := within (insert conversationId unfinished) (by
    intro other member
    rcases Finset.mem_insert.mp member with rfl | member
    · exact was
    · exact fewer other (all other member))
  rw [Finset.card_insert_of_notMem absent] at before
  have atMost : (if next.control.vacating = true ∧ next.stopping = false then 1 else 0) ≤ 1 := by
    split <;> decide
  omega

/-- A new instance takes the free slot. -/
theorem Within.start (within : schedule.Within slots) (started : ConversationInstance)
    (filling : schedule.control = .filling) (issuing : schedule.stopping = false) :
    (schedule.start started).Within slots := by
  intro unfinished all
  have others : ∀ conversationId ∈ unfinished.erase started.logicalId,
      schedule.Unfinished conversationId := by
    intro conversationId member
    obtain ⟨different, there⟩ := Finset.mem_erase.mp member
    refine (all conversationId there).imp_left fun active => ?_
    have isActive : (Function.update schedule.active started.logicalId _
      conversationId).isSome = true := active
    rwa [Function.update_of_ne different] at isActive
  have before := within _ others
  rw [if_pos ⟨by rw [filling]; rfl, issuing⟩] at before
  have card := Finset.pred_card_le_card_erase (s := unfinished) (a := started.logicalId)
  have holding : ¬ ((schedule.start started).control.vacating = true ∧
      (schedule.start started).stopping = false) := by
    rintro ⟨vacating, -⟩
    cases vacating
  rw [if_neg holding]
  omega

/-- A settled query leaves a conversation that is neither active nor waiting. -/
theorem Pending.vacates {queryId : QueryId} {conversationId : String}
    (pending : schedule.Pending queryId conversationId) (within : schedule.Within slots)
    (active : next.active = Function.update schedule.active conversationId none)
    (waiting : next.waiting = Function.update schedule.waiting queryId none) :
    next.Within slots := by
  apply within.vacate (Or.inr ⟨queryId, pending.waiting⟩)
  · rintro (isActive | ⟨other, waits⟩)
    · rw [active, Function.update_self] at isActive
      cases isActive
    · rw [waiting] at waits
      obtain ⟨different, before⟩ := waiting_of_update waits
      exact different (pending.alone other before)
  · rintro other (isActive | ⟨one, waits⟩)
    · obtain ⟨state, found⟩ := Option.isSome_iff_exists.mp isActive
      rw [active] at found
      exact Or.inl (by rw [of_update_none found]; rfl)
    · rw [waiting] at waits
      exact Or.inr ⟨one, (waiting_of_update waits).2⟩

theorem Step.within (step : Step config schedule next) (within : schedule.Within slots) :
    next.Within slots := by
  cases step with
  | turned steady lighter calm spent =>
      exact within.shrink (fun _ => id) fun vacating issuing => ⟨lighter vacating, issuing⟩
  | crashed | faulted =>
      exact within.shrink (fun _ => id) fun vacating => by cases vacating
  | @answered result conversationId state marked pending succeeded counted =>
      refine within.shrink (fun other => Or.imp_right ?_) fun vacating issuing => ?_
      · rintro ⟨queryId, waits⟩
        exact ⟨queryId, (waiting_of_update waits).2⟩
      · have continues : schedule.stopping = false := issuing
        simp [continues, Control.vacating] at vacating
  | rejected pending | timedOut pending => exact pending.vacates within rfl rfl
  | collected => exact within.shrink (fun _ => id) fun vacating issuing => ⟨vacating, issuing⟩
  | @finished conversationId state holding active exhausted free =>
      refine within.vacate (Or.inl (by rw [active]; rfl)) ?_ ?_
      · rintro (isActive | ⟨queryId, waits⟩)
        · dsimp only at isActive
          rw [Function.update_self] at isActive
          cases isActive
        · exact free queryId waits
      · refine fun other => Or.imp_left fun isActive => ?_
        obtain ⟨found, isFound⟩ := Option.isSome_iff_exists.mp isActive
        rw [of_update_none isFound]
        rfl
  | @issued conversationId turn state due active current free known =>
      have was : schedule.Unfinished conversationId := Or.inl (by rw [active]; rfl)
      refine within.shrink ?_ fun vacating => by cases vacating
      rintro other (isActive | ⟨queryId, waits⟩)
      · by_cases same : other = conversationId
        · rwa [same]
        · have isOther : (Function.update schedule.active conversationId _ other).isSome =
              true := isActive
          rw [Function.update_of_ne same] at isOther
          exact Or.inl isOther
      · have isWaiting : Function.update schedule.waiting schedule.nextUuid
            (some conversationId) queryId = some other := waits
        by_cases same : queryId = schedule.nextUuid
        · rw [same, Function.update_self] at isWaiting
          rwa [← Option.some.inj isWaiting]
        · rw [Function.update_of_ne same] at isWaiting
          exact Or.inr ⟨queryId, isWaiting⟩
  | stopped =>
      refine within.shrink (fun _ => Or.imp_left fun isActive => ?_) fun _ issuing => ?_
      · cases isActive
      · cases issuing
  | started filling issuing => exact within.start _ filling issuing
  | skipped aborting | skipRefused aborting =>
      exact within.shrink (fun _ => id) fun _ issuing => ⟨by rw [aborting]; rfl, issuing⟩

/-! ## The order of a run -/

/-- What holds of the schedule while the strategy runs. -/
structure Orderly (config : AgenticConfig) (slots : Nat) (schedule : Schedule) : Prop where
  sequence : Sequence config schedule
  alone : schedule.Alone
  within : schedule.Within slots
  budget : schedule.started ≤ config.trajectoryBudget

theorem Step.orderly (step : Step config schedule next)
    (orderly : Orderly config slots schedule) : Orderly config slots next :=
  ⟨step.sequence orderly.sequence, step.alone orderly.alone, step.within orderly.within,
    step.budget orderly.budget⟩

theorem Orderly.more (orderly : Orderly config slots schedule) {larger : Nat}
    (less : slots ≤ larger) : Orderly config larger schedule :=
  ⟨orderly.sequence, orderly.alone,
    fun unfinished all => Nat.le_trans (orderly.within unfinished all) less, orderly.budget⟩

theorem Sequence.control (sequence : Sequence config schedule) (control : Control) :
    Sequence config { schedule with control := control } :=
  sequence.still rfl (Nat.le_refl _) rfl rfl (fun _ _ => id) rfl rfl

/-- One more slot lets a callback start an instance. -/
theorem Orderly.filling (orderly : Orderly config slots schedule) :
    Orderly config (slots + 1) { schedule with control := .filling } := by
  refine ⟨orderly.sequence.control _, orderly.alone, fun unfinished all => ?_, orderly.budget⟩
  have before := orderly.within unfinished all
  split <;> omega

theorem Orderly.idle (orderly : Orderly config slots schedule) :
    Orderly config slots { schedule with control := .idle } :=
  ⟨orderly.sequence.control _, orderly.alone,
    orderly.within.shrink (fun _ => id) (fun vacating => by cases vacating), orderly.budget⟩

/-- Nothing is started, and the first slots are free. -/
theorem orderly_reset {schedule : Schedule} (sequence : Sequence config schedule.reset)
    (idle : schedule.control = .idle) : Orderly config 0 schedule.reset := by
  refine ⟨sequence, fun _ _ _ waits => (by cases waits), ?_, Nat.zero_le _⟩
  intro unfinished all
  have nobody : unfinished = ∅ := by
    apply Finset.eq_empty_of_forall_notMem
    intro conversationId member
    rcases all conversationId member with active | ⟨queryId, waits⟩
    · cases active
    · cases waits
  have calm : ¬ (schedule.reset.control.vacating = true ∧ schedule.reset.stopping = false) := by
    rintro ⟨vacating, -⟩
    have isIdle : schedule.reset.control = .idle := idle
    rw [isIdle] at vacating
    cases vacating
  rw [nobody, if_neg calm]
  rfl

/-- A positive target bounds the slots. -/
def Affords (config : AgenticConfig) (slots : Nat) : Prop :=
  ∀ target, config.targetConcurrency = some (target + 1) → slots ≤ target + 1

/-- What also holds before the strategy runs and after it has ended. -/
structure Upright (config : AgenticConfig) (schedule : Schedule) : Prop where
  inOrder : InOrder config schedule.started schedule.events
  alone : schedule.Alone
  seats : ∃ slots, Affords config slots ∧ schedule.Within slots
  budget : schedule.started ≤ config.trajectoryBudget

theorem Orderly.upright (orderly : Orderly config slots schedule)
    (affords : Affords config slots) : Upright config schedule :=
  ⟨orderly.sequence.inOrder, orderly.alone, ⟨slots, affords, orderly.within⟩, orderly.budget⟩

/-- `execute` ends. -/
theorem Upright.forget (upright : Upright config schedule) :
    Upright config { schedule with waiting := fun _ => none } := by
  obtain ⟨slots, affords, within⟩ := upright.seats
  refine ⟨upright.inOrder, fun _ _ _ waits => (by cases waits), ⟨slots, affords, ?_⟩,
    upright.budget⟩
  refine within.shrink (fun conversationId => Or.imp_right ?_) fun vacating issuing =>
    ⟨vacating, issuing⟩
  rintro ⟨queryId, waits⟩
  cases waits

/-! ## Outside the strategy -/

/-- News of a result that the strategy does not wait for. -/
def Overheard (schedule : Schedule) (news : List TurnEvent) : Prop :=
  news = [] ∨ ∃ result, (∀ other, .received other ∈ schedule.events → other.id ≠ result.id) ∧
    (news = [.received result] ∨ news = [.received result, .collected result])

theorem Overheard.quiet {news : List TurnEvent} (overheard : schedule.Overheard news) :
    ∀ queryId conversationId turn, .sent queryId conversationId turn ∉ news := by
  intro queryId conversationId turn member
  rcases overheard with rfl | ⟨result, -, rfl | rfl⟩ <;> simp at member

theorem Sequence.overhear {news : List TurnEvent} (sequence : Sequence config schedule)
    (overheard : schedule.Overheard news) :
    Sequence config { schedule with events := schedule.events ++ news } := by
  refine sequence.passes news ⟨rfl, overheard.quiet, Nat.le_refl _, fun _ => id, rfl,
    fun _ _ => id, ?_⟩ rfl ?_
  · exact fun result held => List.mem_append_left _ (sequence.held result held)
  · intro other queryId conversationId turn _ succeeded recorded same
    rcases overheard with rfl | ⟨result, unreceived, is⟩
    · simp at recorded
    · obtain rfl : other = result := by
        rcases is with rfl | rfl
        · simpa using recorded
        · simpa using recorded
      obtain ⟨answer, received, isAnswer⟩ := succeeded.received
      exact absurd (isAnswer.trans same.symm) (unreceived answer received)

theorem Sequence.drew (sequence : Sequence config schedule) {nextUuid : QueryId}
    {launched : List QueryId} (drawn : schedule.nextUuid ≤ nextUuid) :
    Sequence config { schedule with nextUuid := nextUuid, launched := launched } :=
  sequence.still rfl drawn rfl rfl (fun _ _ => id) rfl rfl

theorem Orderly.overhear {news : List TurnEvent} (orderly : Orderly config slots schedule)
    (overheard : schedule.Overheard news) :
    Orderly config slots { schedule with events := schedule.events ++ news } :=
  ⟨orderly.sequence.overhear overheard, orderly.alone, orderly.within, orderly.budget⟩

theorem Orderly.drew (orderly : Orderly config slots schedule) {nextUuid : QueryId}
    {launched : List QueryId} (drawn : schedule.nextUuid ≤ nextUuid) :
    Orderly config slots { schedule with nextUuid := nextUuid, launched := launched } :=
  ⟨orderly.sequence.drew drawn, orderly.alone, orderly.within, orderly.budget⟩

end Schedule

theorem Moves.orderly (plain : config.PlainIds) {slots : Nat} {first second : Moment}
    (moves : Moves config first second) (known : Known first.control first.world)
    (staged : Staged config first.control first.world)
    (ledger : Ledger first.uncollected first.world)
    (orderly : Schedule.Orderly config slots first.schedule) :
    Schedule.Orderly config slots second.schedule := by
  have all := moves.invariant
    (fun moment => (Known moment.control moment.world ∧
        Staged config moment.control moment.world ∧ Ledger moment.uncollected moment.world) ∧
      Schedule.Orderly config slots moment.schedule)
    (fun before after ⟨⟨known, staged, ledger⟩, orderly⟩ move =>
      ⟨⟨move.known known, move.staged plain known staged, (move.effect known).ledger ledger⟩,
        (move.schedule plain known staged ledger).orderly orderly⟩)
    ⟨⟨known, staged, ledger⟩, orderly⟩
  exact all.2

open World

theorem affords_initial (config : AgenticConfig) (world : World) :
    Schedule.Affords config (world.initialConversationsToStart config) := by
  intro target configured
  unfold initialConversationsToStart
  split
  · exact Nat.zero_le _
  · simp only [configured]
    exact Nat.min_le_left _ _

/-- The instances that `execute` starts at first take a slot each. -/
theorem executeStart_sequenced (plain : config.PlainIds) {world : World}
    (known : Known .idle world) (ledger : Ledger none world) (inert : world.Inert)
    (empty : ∀ conversationId, world.manager.get? conversationId = none)
    (sequence : Schedule.Sequence config (Moment.schedule ⟨.idle, none, world⟩).reset) :
    Schedule.Upright config (Moment.schedule ⟨.idle, none, (world.executeStart config).2⟩) ∧
    ((world.executeStart config).1 = .waiting → ∃ slots, Schedule.Affords config slots ∧
      Schedule.Orderly config slots
        (Moment.schedule ⟨.idle, none, (world.executeStart config).2⟩)) := by
  have reset := forgets_resetStrategy config world
  have fresh : Schedule.Orderly config 0
      (Moment.schedule ⟨.idle, none, world.resetStrategy config⟩) :=
    Schedule.orderly_reset sequence rfl
  have affords := affords_initial config (world.resetStrategy config)
  generalize slots : (world.resetStrategy config).initialConversationsToStart config = initial
    at affords
  have seeded := seed_rule config
    (fun remaining seeding => (Known .idle seeding ∧ Staged config .idle seeding ∧
        Ledger none seeding) ∧ remaining ≤ initial ∧
      Schedule.Orderly config (initial - remaining) (Moment.schedule ⟨.idle, none, seeding⟩))
    (fun seeding => Schedule.Orderly config initial (Moment.schedule ⟨.idle, none, seeding⟩))
    ?_ ?_ ?_ initial (world.resetStrategy config)
    ⟨⟨reset.known known, staged_resetStrategy config inert empty, reset.ledger ledger⟩,
      Nat.le_refl _, by rw [Nat.sub_self]; exact fresh⟩
  · generalize result : world.executeStart config = executed
    have cases := executeStart_cases config world
    rw [result] at cases
    cases cases with
    | invalid => exact ⟨(fresh.more (Nat.zero_le _)).upright affords, by simp⟩
    | raised seeding =>
        rw [slots] at seeding
        rw [seeding] at seeded
        refine ⟨?_, by simp⟩
        rw [cleanUp_schedule]
        exact ((seeded.2 rfl).upright affords).forget
    | returned seeding noWork =>
        rw [slots] at seeding
        rw [seeding] at seeded
        refine ⟨?_, by simp⟩
        rw [cleanUp_schedule]
        exact ((seeded.1 rfl).2.2.upright affords).forget
    | waiting seeding work =>
        rw [slots] at seeding
        rw [seeding] at seeded
        have orderly := (seeded.1 rfl).2.2
        exact ⟨orderly.upright affords, fun _ => ⟨_, affords, orderly⟩⟩
  · rintro remaining seeding ⟨facts, below, orderly⟩ _
    exact ⟨facts, by omega, orderly.more (by omega)⟩
  · rintro remaining seeding next ⟨⟨known, staged, ledger⟩, below, orderly⟩ moves
    obtain ⟨later, seated⟩ := moves.staged plain known.filling staged.filling
    refine ⟨⟨later, seated, Ledger.moves ledger known.filling moves⟩, by omega, ?_⟩
    have ended := Moves.orderly plain moves known.filling staged.filling ledger orderly.filling
    exact ended.more (by omega)
  · rintro remaining seeding control next ⟨⟨known, staged, ledger⟩, below, orderly⟩ moves
    have ended := Moves.orderly plain moves known.filling staged.filling ledger orderly.filling
    exact ended.idle.more (by omega)

/-- A notice brings at most an unreceived result. -/
theorem Notice.overheard {world next : World} {response : Response}
    (notice : Notice world response next) (ledger : Ledger none world)
    (measured : world.phaseType ≠ .warmup) :
    ∃ news, Moment.schedule ⟨.idle, none, next⟩ =
        { Moment.schedule ⟨.idle, none, world⟩ with events := world.turnEvents ++ news } ∧
      (Moment.schedule ⟨.idle, none, world⟩).Overheard news := by
  obtain ⟨news, same, noticed⟩ := notice.schedule ledger measured
  refine ⟨news, same, noticed.imp_right ?_⟩
  rintro ⟨result, sent, unreceived, notWaiting, recorded⟩
  refine ⟨result, ?_, recorded.imp_right And.left⟩
  intro other member isResult
  exact unreceived (isResult ▸ mem_receivedIds_of_turnEvents member)

/-! ## An agentic phase -/

/-- The order of turns before, during and after `execute`. -/
structure Sequenced (config : AgenticConfig) (state : PhaseState) : Prop where
  upright : Schedule.Upright config state.schedule
  before : state.strategyIssuer ≠ .current →
    Schedule.Sequence config state.schedule.reset
  running : state.execute = .waiting → ∃ slots, Schedule.Affords config slots ∧
    Schedule.Orderly config slots state.schedule

namespace Sequenced

variable {state next : PhaseState}

/-- Nothing happens to the schedule. -/
theorem same (sequenced : Sequenced config state) (schedule : next.schedule = state.schedule)
    (strategyIssuer : next.strategyIssuer = state.strategyIssuer)
    (execute : next.execute = state.execute) : Sequenced config next := by
  constructor
  · rw [schedule]
    exact sequenced.upright
  · rw [schedule, strategyIssuer]
    exact sequenced.before
  · rw [schedule, execute]
    exact sequenced.running

/-- The callbacks of the running strategy. -/
theorem moved (sequenced : Sequenced config state) (plain : config.PlainIds)
    (settling : Settling config state) (booked : Booked state)
    (waits : state.execute = .waiting) {world : World}
    (moves : Moves config ⟨.idle, none, state.world⟩ ⟨.idle, none, world⟩) :
    Sequenced config { state with world := world } := by
  have current := settling.waits waits
  obtain ⟨slots, affords, orderly⟩ := sequenced.running waits
  have ended : Schedule.Orderly config slots ({ state with world := world } : PhaseState).schedule :=
    Moves.orderly plain moves booked.known (settling.staged current) booked.ledger orderly
  exact ⟨ended.upright affords, fun elsewhere => absurd current elsewhere,
    fun _ => ⟨slots, affords, ended⟩⟩

/-- A result or a chunk that the strategy does not wait for. -/
theorem noticed (sequenced : Sequenced config state) {world : World} {response : Response}
    (notice : Notice state.world response world) (ledger : Ledger none state.world)
    (measured : state.world.phaseType ≠ .warmup) :
    Sequenced config { state with world := world } := by
  obtain ⟨news, same, overheard⟩ := notice.overheard ledger measured
  have schedule : ({ state with world := world } : PhaseState).schedule =
      { state.schedule with events := state.schedule.events ++ news } := same
  obtain ⟨⟨inOrder, alone, seats, budget⟩, before, running⟩ := sequenced
  constructor
  · rw [schedule]
    exact ⟨inOrder.append overheard.quiet, alone, seats, budget⟩
  · intro elsewhere
    rw [schedule]
    exact (before elsewhere).overhear overheard
  · intro waits
    rw [schedule]
    obtain ⟨slots, affords, orderly⟩ := running waits
    exact ⟨slots, affords, orderly.overhear overheard⟩

/-- `execute` ends, whatever it ends with. -/
theorem ends (sequenced : Sequenced config state) (current : state.strategyIssuer = .current)
    {execute : ExecuteStatus} (ended : execute ≠ .waiting) :
    Sequenced config { state with execute := execute, world := state.world.cleanUp } := by
  refine ⟨?_, fun elsewhere => absurd current elsewhere, fun waits => absurd waits ended⟩
  have cleaned := cleanUp_schedule state.world
  rw [PhaseState.schedule, cleaned]
  exact sequenced.upright.forget

theorem step {label : PhaseLabel} (sequenced : Sequenced config state)
    (plain : config.PlainIds) (settling : Settling config state) (booked : Booked state)
    (edge : state.step config label = some next) : Sequenced config next := by
  have measured : state.world.phaseType ≠ .warmup := by
    rw [booked.phaseType]
    exact state.phase.agenticMeasured settling.agentic
  cases label with
  | execute =>
      simp only [PhaseState.step] at edge
      split at edge
      · rename_i enabled
        rw [if_pos settling.agentic] at edge
        obtain rfl := Option.some.inj edge
        have elsewhere := settling.unstarted enabled.2
        have executed := executeStart_sequenced plain booked.known booked.ledger
          (booked.inert elsewhere) (settling.empty elsewhere) (sequenced.before elsewhere)
        exact ⟨executed.1, fun current => absurd rfl current, executed.2⟩
      · simp at edge
  | issueSample | strategyReturns | strategyRaises =>
      simp only [PhaseState.step] at edge
      split at edge
      · rename_i enabled
        simp [settling.agentic] at enabled
      · simp at edge
  | issueLeftover past sampleIndex =>
      obtain ⟨issuer, _, rfl⟩ := Option.map_eq_some_iff.mp edge
      obtain ⟨nextUuid, launched, drawn, more, later, same⟩ :=
        leftover_schedule state past sampleIndex issuer
      obtain ⟨⟨inOrder, alone, seats, budget⟩, before, running⟩ := sequenced
      constructor
      · rw [same]
        exact ⟨inOrder, alone, seats, budget⟩
      · intro elsewhere
        rw [same]
        exact (before elsewhere).drew drawn
      · intro waits
        rw [same]
        obtain ⟨slots, affords, orderly⟩ := running waits
        exact ⟨slots, affords, orderly.drew drawn⟩
  | resume =>
      simp only [PhaseState.step] at edge
      split at edge
      · rename_i enabled
        obtain rfl := Option.some.inj edge
        have current := settling.waits enabled.2.1
        unfold executeResume
        split
        · exact sequenced.ends current (by simp)
        · exact sequenced.ends current (by simp)
      · simp at edge
  | cancel =>
      simp only [PhaseState.step] at edge
      split at edge
      · obtain rfl := Option.some.inj edge
        split
        · rename_i waits
          exact sequenced.ends (settling.waits waits.1) (by simp)
        · exact ⟨sequenced.upright, sequenced.before, by simp⟩
      · simp at edge
  | awaitStrategy =>
      simp only [PhaseState.step] at edge
      split at edge
      · have executes : state.afterStrategy.execute = state.execute ∧
            state.afterStrategy.strategyIssuer = state.strategyIssuer := by
          unfold PhaseState.afterStrategy PhaseState.startDrain PhaseState.finish
          split <;> (try split) <;> exact ⟨rfl, rfl⟩
        have after : Sequenced config state.afterStrategy :=
          sequenced.same (afterStrategy_schedule state) executes.2 executes.1
        split at edge
        · obtain rfl := Option.some.inj edge
          exact after
        · obtain rfl := Option.some.inj edge
          exact after
        · obtain rfl := Option.some.inj edge
          exact sequenced.same rfl rfl rfl
        · simp at edge
      · simp at edge
  | drained =>
      simp only [PhaseState.step] at edge
      split at edge
      · obtain rfl := Option.some.inj edge
        exact sequenced.same (finish_schedule state) rfl rfl
      · simp at edge
  | drainTimeout =>
      simp only [PhaseState.step] at edge
      split at edge
      · obtain rfl := Option.some.inj edge
        exact sequenced.same (finish_schedule state.stop) rfl rfl
      · simp at edge
  | deliver response =>
      simp only [PhaseState.step] at edge
      split at edge
      · rename_i deliverable
        obtain rfl := Option.some.inj edge
        rcases receive_cases config booked.ledger.inflightDrawn deliverable
          with ⟨queryId, conversationId, waiting, moves⟩ | notice
        · have waits : state.execute = .waiting := by
            by_contra elsewhere
            simp [(settling.inert elsewhere).1 queryId] at waiting
          exact sequenced.moved plain settling booked waits moves
        · exact sequenced.noticed notice booked.ledger measured
      · simp at edge
  | fire handle =>
      simp only [PhaseState.step, PhaseState.fireTimer] at edge
      split at edge
      · simp at edge
      · obtain ⟨world, fires, rfl⟩ := Option.map_eq_some_iff.mp edge
        have waits : state.execute = .waiting := by
          by_contra elsewhere
          simp [World.fireTimer, (settling.inert elsewhere).2 handle] at fires
        exact sequenced.moved plain settling booked waits
          (fireTimer_moves booked.ledger.inflightDrawn fires)
      · rename_i issuer former
        have noTimer := (booked.inert (by simp [former])).2 handle
        simp [World.fireTimer, noTimer] at edge
  | stopCurrentPhase =>
      obtain rfl := Option.some.inj edge
      refine sequenced.same ?_ ?_ ?_ <;> split <;> rfl
  | stop | tick =>
      obtain rfl := Option.some.inj edge
      exact sequenced.same rfl rfl rfl

end Sequenced

theorem PhaseStart.turnEvents_state (start : PhaseStart) :
    start.state.world.turnEvents = [] := by
  unfold turnEvents PhaseStart.state PhaseState.enter PhaseState.startWorld
  split <;>
    simp [PhaseState.publishSessionEvent, PhaseState.freshWorld, publish, flush, observe,
      Observation.turnEvent?]

theorem PhaseStart.sequenced {start : PhaseStart} (agentic : start.phase.agentic = true) :
    Sequenced config start.state := by
  have silent : start.state.schedule.reset.events = [] := start.turnEvents_state
  have sequence : Schedule.Sequence config start.state.schedule.reset := by
    constructor
    · rw [silent]
      exact fun _ _ _ member => absurd member List.not_mem_nil
    · intro conversationId state found
      cases found
    · intro conversationId queryId turn found
      cases found
    · intro result held
      cases held
    · rw [silent]
      intro before after queryId conversationId turn split
      simp at split
  have unused : start.state.world.strategy = {} := by
    refine (startWorld_untouched start.phase start.world).2.1.trans ?_
    change start.strategy = {}
    rw [PhaseStart.strategy, start.executedOnce agentic]
    rfl
  have same : start.state.schedule.reset = start.state.schedule := by
    simp only [Schedule.reset, PhaseState.schedule, Moment.schedule, unused]
    rfl
  refine ⟨?_, fun _ => sequence, fun waits => by cases waits⟩
  rw [← same]
  exact (Schedule.orderly_reset sequence rfl).upright fun _ _ => Nat.zero_le _

theorem PhaseReachable.sequenced {start : PhaseStart} {state : PhaseState}
    (plain : config.PlainIds) (agentic : start.phase.agentic = true)
    (reachable : PhaseReachable config start state) : Sequenced config state := by
  have all : (Settling config state ∧ Booked state) ∧ Sequenced config state := by
    refine reachable.invariant (fun state =>
      (Settling config state ∧ Booked state) ∧ Sequenced config state) ?_
        ⟨⟨PhaseStart.settling agentic, start.booked⟩, PhaseStart.sequenced agentic⟩
    rintro before label after ⟨⟨settling, booked⟩, sequenced⟩ edge
    exact ⟨⟨settling.step plain booked edge, booked.step edge⟩,
      sequenced.step plain settling booked edge⟩
  exact all.2

/-! ## One turn at a time -/

/-- Of two turns of a conversation that were sent, one has its result. -/
theorem InOrder.single {started : Nat} {events : List TurnEvent}
    (inOrder : InOrder config started events) {first second : QueryId} {conversationId : String}
    {turn other : Nat} (firstSent : .sent first conversationId turn ∈ events)
    (secondSent : .sent second conversationId other ∈ events)
    (firstOpen : ∀ result, .received result ∈ events → result.id ≠ first)
    (secondOpen : ∀ result, .received result ∈ events → result.id ≠ second) :
    first = second := by
  obtain ⟨before, after, rfl⟩ := List.append_of_mem secondSent
  rcases List.mem_append.mp firstSent with earlier | here
  · obtain ⟨result, received, same⟩ := ((inOrder _ _ _ _ _ rfl).2 _ _ earlier).received
    exact absurd same (firstOpen result (List.mem_append_left _ received))
  · rcases List.mem_cons.mp here with same | later
    · cases same
      rfl
    · obtain ⟨between, rest, rfl⟩ := List.append_of_mem later
      have split : before ++ TurnEvent.sent second conversationId other ::
          (between ++ .sent first conversationId turn :: rest) =
            (before ++ .sent second conversationId other :: between) ++
              .sent first conversationId turn :: rest := by
        rw [List.append_assoc, List.cons_append]
      have success := (inOrder _ _ _ _ _ split).2 second other
        (List.mem_append_right _ List.mem_cons_self)
      obtain ⟨result, received, same⟩ := success.received
      rw [split] at secondOpen
      exact absurd same (secondOpen result (List.mem_append_left _ received))

end InferenceEndpoint
