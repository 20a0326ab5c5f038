import InferenceEndpoint.LoadGenerator.PhaseBudget
import InferenceEndpoint.LoadGenerator.SampleOrder

/-!
# The sample indices of a phase

A session with the sample order of each phase, the index that its strategy has drawn, and
the map of its issuer.  The strategies draw at different places: the timed ones and the
concurrency strategy draw before they wait, the burst strategy right before it issues.
The agentic strategy draws no samples, and its map is left out here.
-/

namespace InferenceEndpoint.Issuance

/-- What a phase knows of its samples; `drawn` is the index drawn last. -/
structure IndexLedger where
  initial : SampleOrder
  order : SampleOrder := initial
  drawn : Nat := 0
  uuidToIndex : OrderedDict QueryId Nat := ∅

namespace IndexLedger

/-- `next(self._sample_order)`. -/
def draw (ledger : IndexLedger) : IndexLedger :=
  { ledger with
      drawn := ledger.order.nextSampleIndex.1
      order := ledger.order.nextSampleIndex.2 }

def record (ledger : IndexLedger) (query : QueryId) : IndexLedger :=
  { ledger with uuidToIndex := ledger.uuidToIndex.insert query ledger.drawn }

/-- `issue(idx)`; an issue that raises may have registered its query before. -/
def issue (ledger : IndexLedger) (outcome : IssueOutcome) (query : QueryId)
    (registered : Bool) : IndexLedger :=
  match outcome with
  | .sent => ledger.record query
  | .raised => if registered then ledger.record query else ledger
  | .refused => ledger

/-- `execute` up to its first await. -/
def begin (ledger : IndexLedger) : LoadStrategy → IndexLedger
  | .timed | .timedExecutor | .concurrency _ _ => ledger.draw
  | .burst | .agentic => ledger

/-- Issue the drawn index, and draw the next one if that went well. -/
def issueThenDraw (ledger : IndexLedger) (outcome : IssueOutcome) (query : QueryId)
    (registered : Bool) : IndexLedger :=
  if outcome = .sent then (ledger.issue outcome query registered).draw
  else ledger.issue outcome query registered

/-- `fire` of the timed strategy and `issue_next` of the burst strategy. -/
def callback (ledger : IndexLedger) (strategy : LoadStrategy) (outcome : IssueOutcome)
    (query : QueryId) (registered : Bool) : IndexLedger :=
  match strategy with
  | .timed => ledger.issueThenDraw outcome query registered
  | _ => ledger.draw.issue outcome query registered

/-- What a step of the session does to the ledger of the run that it moves. -/
def advance (ledger : IndexLedger) (session : Session) (run : PhaseRun) (registered : Bool) :
    Label → IndexLedger
  | .execute _ => ledger.begin run.settings.strategy
  | .callback sendRaises _ | .leftover _ sendRaises _ =>
      ledger.callback run.settings.strategy (session.issue run sendRaises).1 session.nextQuery
        registered
  | .pace sendRaises _ | .issueHeld sendRaises =>
      ledger.issueThenDraw (session.issue run sendRaises).1 session.nextQuery registered
  | _ => ledger

end IndexLedger

/-- A session with a ledger for each of its phases. -/
structure Indexed where
  session : Session := {}
  ledgers : List IndexLedger := []

inductive IndexedLabel
  /-- A phase starts with the order that `create_sample_order` made for it. -/
  | startPhase (settings : PhaseSettings) (order : SampleOrder)
  | step (label : Label) (registered : Bool)

namespace Indexed

/-- The place of the run that a step moves. -/
def target (session : Session) : Label → Nat
  | .leftover index _ _ => index
  | _ => session.past.length

def step (indexed : Indexed) : IndexedLabel → Option Indexed
  | .startPhase settings order =>
      (indexed.session.step (.startPhase settings)).map fun next =>
        { session := next, ledgers := indexed.ledgers ++ [{ initial := order }] }
  | .step (.startPhase _) _ => none
  | .step label registered =>
      (indexed.session.step label).map fun next =>
        { session := next
          ledgers :=
            match indexed.session.runs[target indexed.session label]? with
            | some run =>
                indexed.ledgers.modify (target indexed.session label) fun ledger =>
                  ledger.advance indexed.session run registered label
            | none => indexed.ledgers }

end Indexed

/-! ## Draws -/

end InferenceEndpoint.Issuance

namespace InferenceEndpoint.SampleOrder

/-- The order after some draws. -/
def skip (order : SampleOrder) : Nat → SampleOrder
  | 0 => order
  | draws + 1 => (order.skip draws).nextSampleIndex.2

/-- The index that a draw gives. -/
def indexAt (order : SampleOrder) (draw : Nat) : Nat :=
  (order.skip draw).nextSampleIndex.1

theorem skip_newSequential (nSamples draws : Nat) :
    (newSequential nSamples).skip draws = .sequential nSamples (draws % nSamples) := by
  induction draws with
  | zero => simp [skip, newSequential]
  | succ draws ih => simp [skip, ih, nextSampleIndex]

/-- The sequential order goes round. -/
theorem indexAt_newSequential (nSamples draw : Nat) :
    (newSequential nSamples).indexAt draw = draw % nSamples := by
  rw [indexAt, skip_newSequential]
  rfl

end InferenceEndpoint.SampleOrder

namespace InferenceEndpoint.Issuance

namespace PhaseRun

/-- The strategy of the run raised, or its callback did. -/
def Failed (run : PhaseRun) : Prop :=
  run.done = some .raised ∨ ∃ issuedCount, run.position = .ended .raised issuedCount

/-- The run holds an index that it has not issued. -/
def Ahead (run : PhaseRun) : Prop :=
  run.position.loops = true ∨ (run.callback = true ∧ run.settings.strategy = .timed)

/-- The run has issued every index that it has drawn, and may go on. -/
def Level (run : PhaseRun) : Prop :=
  run.position = .notStarted ∨ (run.callback = true ∧ run.settings.strategy ≠ .timed)

end PhaseRun

/-- The map of the issuer has the draws of the order, one for each query. -/
structure Recorded (run : PhaseRun) (ledger : IndexLedger) : Prop where
  entries : ledger.uuidToIndex.entries =
    run.issued.zip ((List.range run.issued.length).map ledger.initial.indexAt)
  ahead : run.Ahead → ledger.drawn = ledger.initial.indexAt run.issued.length ∧
    ledger.order = ledger.initial.skip (run.issued.length + 1)
  level : run.Level → ledger.order = ledger.initial.skip run.issued.length

namespace Session

/-- What a step does to the run that it moves. -/
inductive Moved (session : Session) (run : PhaseRun) : Label → PhaseRun → Prop
  | begun {delayRaises : Bool} (unstarted : run.position = .notStarted) :
      Moved session run (.execute delayRaises) (run.begin delayRaises)
  | calledBack {sendRaises delayRaises : Bool} (callback : run.callback = true) :
      Moved session run (.callback sendRaises delayRaises)
        ((session.issue run sendRaises).2.2.afterCallback delayRaises
          (session.issue run sendRaises).1)
  | leftover {index : Nat} {sendRaises delayRaises : Bool} (callback : run.callback = true) :
      Moved session run (.leftover index sendRaises delayRaises)
        ((session.issue run sendRaises).2.2.afterCallback delayRaises
          (session.issue run sendRaises).1)
  | paced {sendRaises delayRaises : Bool} (pacing : run.position = .pacing) :
      Moved session run (.pace sendRaises delayRaises)
        ((session.issue run sendRaises).2.2.afterPaced delayRaises
          (session.issue run sendRaises).1)
  | held {sendRaises : Bool} (holding : run.position = .holding) :
      Moved session run (.issueHeld sendRaises)
        ((session.issue run sendRaises).2.2.afterHeld (session.issue run sendRaises).1)
  /-- The run issues nothing, and starts nothing that would issue. -/
  | silent {label : Label} {changed : PhaseRun}
      (untouched : ∀ ledger registered,
        IndexLedger.advance ledger session run registered label = ledger)
      (settings : changed.settings = run.settings) (issued : changed.issued = run.issued)
      (callback : changed.callback = run.callback)
      (failed : run.Failed → changed.Failed)
      (loops : changed.position.loops = true → run.position.loops = true)
      (started : changed.position ≠ .notStarted ∨ changed.position = run.position)
      (ended : run.position.isEnded = true → changed.position = run.position) :
      Moved session run label changed
  | agentic {label : Label} {changed : PhaseRun}
      (untouched : ∀ ledger registered,
        IndexLedger.advance ledger session run registered label = ledger)
      (strategy : run.settings.strategy = .agentic)
      (settings : changed.settings = run.settings)
      (callback : changed.callback = run.callback)
      (ended : run.position.isEnded = true → changed.position = run.position) :
      Moved session run label changed

/-- A step moves no run, or the one at its place. -/
inductive Moves (session next : Session) (label : Label) : Prop
  | none (same : next.runs = session.runs)
      (untouched : ∀ run ledger registered,
        IndexLedger.advance ledger session run registered label = ledger)
  | one (run changed : PhaseRun)
      (found : session.runs[Indexed.target session label]? = some run)
      (moved : session.Moved run label changed)
      (runs : next.runs = session.runs.set (Indexed.target session label) changed)

variable {session next : Session} {run : PhaseRun}

theorem runs_current (found : session.current = some run) :
    session.runs[session.past.length]? = some run := by
  simp [runs, found]

theorem runs_setCurrent (found : session.current = some run) (changed : PhaseRun) :
    (session.setCurrent changed).runs = session.runs.set session.past.length changed := by
  simp [runs, setCurrent, found, List.set_append_right]

theorem past_issue (session : Session) (run : PhaseRun) (sendRaises : Bool) :
    (session.issue run sendRaises).2.1.past = session.past ∧
      (session.issue run sendRaises).2.1.current = session.current := by
  unfold issue
  split
  · exact ⟨rfl, rfl⟩
  · split <;> exact ⟨rfl, rfl⟩

theorem runs_issueThen (found : session.current = some run) (sendRaises : Bool)
    (continue_ : PhaseRun → IssueOutcome → PhaseRun) :
    (session.issueThen run sendRaises continue_).runs =
      session.runs.set session.past.length
        (continue_ (session.issue run sendRaises).2.2 (session.issue run sendRaises).1) := by
  simp [issueThen, runs, setCurrent, found, past_issue, List.set_append_right]

/-- A move of the current phase that issues nothing. -/
theorem Moves.quiet {label : Label} {changed : PhaseRun} (found : session.current = some run)
    (place : Indexed.target session label = session.past.length)
    (equal : next.runs = (session.setCurrent changed).runs)
    (moved : session.Moved run label changed) : Moves session next label := by
  refine .one run changed ?_ moved ?_
  · rw [place]
    exact runs_current found
  · rw [place, equal, runs_setCurrent found]

/-- A move of the current phase that issues. -/
theorem Moves.issuing {label : Label} {sendRaises : Bool}
    {continue_ : PhaseRun → IssueOutcome → PhaseRun} (found : session.current = some run)
    (place : Indexed.target session label = session.past.length)
    (equal : next = session.issueThen run sendRaises continue_)
    (moved : session.Moved run label
      (continue_ (session.issue run sendRaises).2.2 (session.issue run sendRaises).1)) :
    Moves session next label := by
  refine .one run _ ?_ moved ?_
  · rw [place]
    exact runs_current found
  · rw [place, equal, runs_issueThen found]

/-- The task ends or moves on without the loop. -/
theorem Moved.finished {label : Label} {outcome : Outcome} {changed : PhaseRun}
    (untouched : ∀ ledger registered,
      IndexLedger.advance ledger session run registered label = ledger)
    (going : run.position.isEnded = false) (issued : changed.issued = run.issued)
    (settings : changed.settings = run.settings) (callback : changed.callback = run.callback)
    (done : changed.done = run.done)
    (position : ∃ issuedCount, changed.position = .ended outcome issuedCount) :
    session.Moved run label changed := by
  obtain ⟨issuedCount, position⟩ := position
  refine .silent untouched settings issued callback ?_ ?_ ?_ ?_
  · rintro (failed | ⟨_, ended⟩)
    · exact .inl (done.trans failed)
    · simp [ended, Position.isEnded] at going
  · simp [position, Position.loops]
  · simp [position]
  · simp [going]

/-- The task moves on in its loop. -/
theorem Moved.stays {label : Label} {changed : PhaseRun}
    (untouched : ∀ ledger registered,
      IndexLedger.advance ledger session run registered label = ledger)
    (loops : run.position.loops = true) (issued : changed.issued = run.issued)
    (settings : changed.settings = run.settings) (callback : changed.callback = run.callback)
    (done : changed.done = run.done) (started : changed.position ≠ .notStarted) :
    session.Moved run label changed := by
  have going : run.position.isEnded = false := by
    cases position : run.position <;> simp_all [Position.loops, Position.isEnded]
  refine .silent untouched settings issued callback ?_ (fun _ => loops) (.inl started) ?_
  · rintro (failed | ⟨_, ended⟩)
    · exact .inl (done.trans failed)
    · simp [ended, Position.isEnded] at going
  · simp [going]

theorem Moved.complete (run : PhaseRun) {label : Label}
    (untouched : ∀ ledger registered,
      IndexLedger.advance ledger session run registered label = ledger) :
    session.Moved run label run.complete := by
  have same : ∀ changed : PhaseRun, changed.settings = run.settings →
      changed.issued = run.issued → changed.callback = run.callback →
      changed.done = run.done → changed.position = run.position →
      session.Moved run label changed := by
    intro changed settings issued callback done position
    refine .silent untouched settings issued callback ?_ (by rw [position]; exact id)
      (.inr position) fun _ => position
    rintro (failed | ended)
    · exact .inl (done.trans failed)
    · exact .inr (position ▸ ended)
  unfold PhaseRun.complete
  split
  · unfold PhaseRun.release
    dsimp only
    split
    · rename_i blocked
      exact .stays untouched (by simp [blocked, Position.loops]) rfl rfl rfl rfl (by simp)
    · exact same _ rfl rfl rfl rfl rfl
  · exact same _ rfl rfl rfl rfl rfl

theorem moves_current {label : Label} (found : session.current = some run)
    (edge : session.step label = some next)
    (notStart : ∀ settings, label ≠ .startPhase settings)
    (notLeftover : ∀ index sendRaises delayRaises,
      label ≠ .leftover index sendRaises delayRaises)
    (notOutside : label ≠ .stop ∧ (∀ elapsedNs, label ≠ .tick elapsedNs) ∧
      ∀ query, label ≠ .response query) : Moves session next label := by
  cases label with
  | startPhase settings => exact absurd rfl (notStart settings)
  | leftover index sendRaises delayRaises =>
      exact absurd rfl (notLeftover index sendRaises delayRaises)
  | stop => exact absurd rfl notOutside.1
  | tick elapsedNs => exact absurd rfl (notOutside.2.1 elapsedNs)
  | response query => exact absurd rfl (notOutside.2.2 query)
  | execute delayRaises =>
      simp only [step, found] at edge
      split at edge
      · rename_i unstarted
        obtain rfl := Option.some.inj edge
        exact .quiet found rfl rfl (.begun unstarted)
      · simp at edge
  | callback sendRaises delayRaises =>
      simp only [step, found] at edge
      split at edge
      · rename_i callback
        exact .issuing found rfl (Option.some.inj edge).symm (.calledBack callback)
      · simp at edge
  | wake =>
      simp only [step, found] at edge
      split at edge
      · rename_i outcome done
        split at edge
        · rename_i waiting
          obtain rfl := Option.some.inj edge
          exact .quiet found rfl rfl (.finished (fun _ _ => rfl)
            (by simp [waiting, Position.isEnded]) rfl rfl rfl rfl ⟨_, rfl⟩)
        · simp at edge
      · simp at edge
  | cancelled =>
      simp only [step, found] at edge
      split at edge
      · rename_i enabled
        obtain rfl := Option.some.inj edge
        have going : run.position.isEnded = false := by
          cases position : run.position <;>
            simp_all [Position.suspended, Position.isEnded]
        refine .quiet found rfl rfl ?_
        unfold PhaseRun.cancel
        split
        · exact .finished (fun _ _ => rfl) going rfl rfl rfl rfl ⟨_, rfl⟩
        · exact .finished (fun _ _ => rfl) going rfl rfl rfl rfl ⟨_, rfl⟩
      · simp at edge
  | pace sendRaises delayRaises =>
      simp only [step, found] at edge
      split at edge
      · rename_i pacing
        exact .issuing found rfl (Option.some.inj edge).symm (.paced pacing)
      · simp at edge
  | acquire =>
      simp only [step, found] at edge
      split at edge
      · rename_i acquiring
        have loops : run.position.loops = true := by simp [acquiring, Position.loops]
        split at edge
        · obtain rfl := Option.some.inj edge
          exact .quiet found rfl rfl (.stays (fun _ _ => rfl) loops rfl rfl rfl rfl (by simp))
        · obtain rfl := Option.some.inj edge
          exact .quiet found rfl rfl (.stays (fun _ _ => rfl) loops rfl rfl rfl rfl (by simp))
      · simp at edge
  | resume =>
      simp only [step, found] at edge
      split at edge
      · rename_i woken
        obtain rfl := Option.some.inj edge
        exact .quiet found rfl rfl (.stays (fun _ _ => rfl) (by simp [woken, Position.loops])
          rfl rfl rfl rfl (by simp))
      · simp at edge
  | issueHeld sendRaises =>
      simp only [step, found] at edge
      split at edge
      · rename_i holding
        exact .issuing found rfl (Option.some.inj edge).symm (.held holding)
      · simp at edge
  | issueAgentic sendRaises =>
      simp only [step, found] at edge
      split at edge
      · rename_i enabled
        refine .issuing found rfl (Option.some.inj edge).symm ?_
        have same : (session.issue run sendRaises).2.2.settings = run.settings ∧
            (session.issue run sendRaises).2.2.callback = run.callback ∧
            (session.issue run sendRaises).2.2.position = run.position := by
          unfold issue
          split
          · exact ⟨rfl, rfl, rfl⟩
          · split <;> exact ⟨rfl, rfl, rfl⟩
        exact .agentic (fun _ _ => rfl) enabled.2 same.1 same.2.1 fun _ => same.2.2
      · simp at edge
  | agenticEnds raises =>
      simp only [step, found] at edge
      split at edge
      · rename_i enabled
        obtain rfl := Option.some.inj edge
        exact .quiet found rfl rfl (.finished (fun _ _ => rfl)
          (by simp [enabled.1, Position.isEnded]) rfl rfl rfl rfl ⟨_, rfl⟩)
      · simp at edge
  | awaitStrategy =>
      simp only [step, found] at edge
      split at edge
      · split at edge
        · obtain rfl := Option.some.inj edge
          exact .none (by simp [runs, found]) fun _ _ _ => rfl
        · obtain rfl := Option.some.inj edge
          refine .none ?_ fun _ _ _ => rfl
          unfold afterStrategy
          split <;> rfl
        · simp at edge
      · simp at edge
  | drained =>
      simp only [step, found] at edge
      split at edge
      · obtain rfl := Option.some.inj edge
        exact .none (by simp [runs, found]) fun _ _ _ => rfl
      · simp at edge
  | drainTimeout =>
      simp only [step, found] at edge
      split at edge
      · obtain rfl := Option.some.inj edge
        exact .none rfl fun _ _ _ => rfl
      · simp at edge
  | stopCurrentPhase =>
      simp only [step, found] at edge
      split at edge
      · obtain rfl := Option.some.inj edge
        exact .none (by simp [runs, found]) fun _ _ _ => rfl
      · obtain rfl := Option.some.inj edge
        exact .none rfl fun _ _ _ => rfl

theorem step_moves {label : Label} (edge : session.step label = some next)
    (notStart : ∀ settings, label ≠ .startPhase settings) : Moves session next label := by
  cases label with
  | startPhase settings => exact absurd rfl (notStart settings)
  | stop =>
      obtain rfl := Option.some.inj edge
      exact .none rfl fun _ _ _ => rfl
  | tick elapsedNs =>
      obtain rfl := Option.some.inj edge
      exact .none rfl fun _ _ _ => rfl
  | response query =>
      simp only [step] at edge
      split at edge
      · obtain rfl := Option.some.inj edge
        rcases session.respond_cases query with ⟨run, found, _, equal⟩ | ⟨_, equal⟩
        · refine .quiet found rfl ?_ (.complete run fun _ _ => rfl)
          rw [equal]
          rfl
        · refine .none ?_ fun _ _ _ => rfl
          rw [equal]
          rfl
      · simp at edge
  | leftover index sendRaises delayRaises =>
      simp only [step] at edge
      split at edge
      · simp at edge
      · rename_i run found
        split at edge
        · rename_i callback
          obtain rfl := Option.some.inj edge
          have below : index < session.past.length := by
            exact (List.getElem?_eq_some_iff.mp found).1
          refine .one run _ ?_ (.leftover callback) ?_
          · rw [runs, Indexed.target, List.getElem?_append_left below]
            exact found
          · simp [runs, Indexed.target, past_issue, List.set_append_left, below]
        · simp at edge
  | _ =>
      cases found : session.current with
      | none => simp [step, found] at edge
      | some run => exact moves_current found edge (by simp) (by simp) (by simp)

end Session

/-! ## The map of an issuer -/

open Session (Numbered)

variable {session : Session} {run changed : PhaseRun} {ledger : IndexLedger}

theorem keys_of_entries {initial : SampleOrder} {issued : List QueryId}
    {uuidToIndex : OrderedDict QueryId Nat}
    (entries : uuidToIndex.entries =
      issued.zip ((List.range issued.length).map initial.indexAt)) :
    uuidToIndex.keys = issued := by
  rw [OrderedDict.keys, entries, List.map_fst_zip (by simp)]

/-- A query with a new number gets the index drawn for it. -/
theorem Recorded.record (recorded : Recorded run ledger) (numbered : Numbered session run)
    (drawn : ledger.drawn = ledger.initial.indexAt run.issued.length) :
    (ledger.record session.nextQuery).uuidToIndex.entries =
      (run.issued ++ [session.nextQuery]).zip
        ((List.range (run.issued ++ [session.nextQuery]).length).map
          ledger.initial.indexAt) := by
  have absent : session.nextQuery ∉ ledger.uuidToIndex.keys := by
    rw [keys_of_entries recorded.entries]
    exact fun member => Nat.lt_irrefl _ (numbered.drawn _ member)
  have inserted : (ledger.record session.nextQuery).uuidToIndex.entries =
      ledger.uuidToIndex.entries ++ [(session.nextQuery, ledger.drawn)] := by
    simp only [IndexLedger.record, OrderedDict.insert, if_neg absent]
  rw [inserted, recorded.entries, drawn, List.length_append, List.length_singleton,
    List.range_succ, List.map_append, List.zip_append (by simp)]
  rfl

/-- A run whose ledger has drawn the next index. -/
theorem recorded_draw
    (entries : ledger.uuidToIndex.entries =
      changed.issued.zip ((List.range changed.issued.length).map ledger.initial.indexAt))
    (order : ledger.order = ledger.initial.skip changed.issued.length)
    (notLevel : ¬changed.Level) : Recorded changed ledger.draw where
  entries := entries
  ahead := fun _ => by
    constructor
    · exact congrArg (fun order : SampleOrder => order.nextSampleIndex.1) order
    · exact congrArg (fun order : SampleOrder => order.nextSampleIndex.2) order
  level := fun level => absurd level notLevel

/-- A run that will not issue any more keeps its map. -/
theorem Recorded.ends {other : IndexLedger} (recorded : Recorded run ledger)
    (issued : changed.issued = run.issued) (notAhead : ¬changed.Ahead) (notLevel : ¬changed.Level)
    (same : other.uuidToIndex = ledger.uuidToIndex) (initial : other.initial = ledger.initial) :
    Recorded changed other where
  entries := by rw [same, issued, initial, recorded.entries]
  ahead := fun ahead => absurd ahead notAhead
  level := fun level => absurd level notLevel

theorem position_afterCallback (run : PhaseRun) (delayRaises : Bool) (outcome : IssueOutcome) :
    (run.afterCallback delayRaises outcome).position = run.position := by
  unfold PhaseRun.afterCallback
  cases outcome <;> dsimp only
  split <;> rfl

theorem Recorded.begin (recorded : Recorded run ledger) (orderly : run.Orderly)
    (unstarted : run.position = .notStarted) (single : run.settings.strategy ≠ .agentic)
    (delayRaises : Bool) :
    (run.begin delayRaises).Failed ∨
      Recorded (run.begin delayRaises) (ledger.begin run.settings.strategy) := by
  have order := recorded.level (.inl unstarted)
  have entries := recorded.entries
  obtain ⟨callback, done, issued⟩ := orderly.fresh unstarted
  cases strategy : run.settings.strategy with
  | timed =>
      cases delayRaises with
      | true => exact .inl (.inl (by simp [PhaseRun.begin, strategy]))
      | false =>
          refine .inr (recorded_draw ?_ ?_ ?_)
          · simpa [PhaseRun.begin, strategy] using entries
          · simpa [PhaseRun.begin, strategy] using order
          · simp [PhaseRun.Level, PhaseRun.begin, strategy]
  | timedExecutor =>
      cases delayRaises with
      | true =>
          refine .inl (.inr ⟨run.issuedCount, ?_⟩)
          simp [PhaseRun.begin, strategy, PhaseRun.finish]
      | false =>
          refine .inr (recorded_draw ?_ ?_ ?_)
          · simpa [PhaseRun.begin, strategy] using entries
          · simpa [PhaseRun.begin, strategy] using order
          · simp [PhaseRun.Level, PhaseRun.begin, strategy, callback]
  | burst =>
      refine .inr ⟨?_, ?_, ?_⟩
      · simpa [PhaseRun.begin, strategy, IndexLedger.begin] using entries
      · simp [PhaseRun.Ahead, PhaseRun.begin, strategy, Position.loops]
      · intro _
        simpa [PhaseRun.begin, strategy, IndexLedger.begin] using order
  | concurrency target positive =>
      refine .inr (recorded_draw ?_ ?_ ?_)
      · simpa [PhaseRun.begin, strategy] using entries
      · simpa [PhaseRun.begin, strategy] using order
      · simp [PhaseRun.Level, PhaseRun.begin, strategy, callback]
  | agentic => exact absurd strategy single

theorem Recorded.calledBack (recorded : run.Failed ∨ Recorded run ledger)
    (orderly : run.Orderly) (numbered : Numbered session run) (callback : run.callback = true)
    (sendRaises delayRaises registered : Bool) :
    ((session.issue run sendRaises).2.2.afterCallback delayRaises
        (session.issue run sendRaises).1).Failed ∨
      Recorded ((session.issue run sendRaises).2.2.afterCallback delayRaises
        (session.issue run sendRaises).1)
        (ledger.callback run.settings.strategy (session.issue run sendRaises).1
          session.nextQuery registered) := by
  have done := orderly.silent callback
  have apart := orderly.apart callback
  have started : run.position ≠ .notStarted := fun fresh => by
    simp [(orderly.fresh fresh).1] at callback
  rcases recorded with failed | recorded
  · obtain ⟨issuedCount, ended⟩ : ∃ issuedCount, run.position = .ended .raised issuedCount :=
      failed.resolve_left (by simp [done])
    refine .inl (.inr ⟨issuedCount, ?_⟩)
    rw [position_afterCallback]
    rcases session.issue_cases run sendRaises with ⟨-, equal⟩ | ⟨-, equal⟩ | ⟨-, equal⟩ <;>
      rw [equal] <;> exact ended
  · rcases session.issue_cases run sendRaises with ⟨-, equal⟩ | ⟨-, equal⟩ | ⟨-, equal⟩
    · -- refused: the index drawn is lost, and nothing is issued any more
      rw [equal]
      refine .inr (recorded.ends ?_ ?_ ?_ ?_ ?_)
      · rfl
      · simp [PhaseRun.Ahead, PhaseRun.afterCallback, apart]
      · simp [PhaseRun.Level, PhaseRun.afterCallback, started]
      · cases run.settings.strategy <;> rfl
      · cases run.settings.strategy <;> rfl
    · rw [equal]
      exact .inl (.inl rfl)
    · rw [equal]
      by_cases timed : run.settings.strategy = .timed
      · obtain ⟨drawn, order⟩ := recorded.ahead (.inr ⟨callback, timed⟩)
        have entries := recorded.record numbered drawn
        cases delayRaises with
        | true => exact .inl (.inl (by simp [PhaseRun.afterCallback, timed]))
        | false =>
            refine .inr ?_
            rw [timed]
            refine recorded_draw entries ?_ ?_
            · simpa [PhaseRun.afterCallback, IndexLedger.record, IndexLedger.issue] using order
            · simp [PhaseRun.Level, PhaseRun.afterCallback, started, timed]
      · have order := recorded.level (.inr ⟨callback, timed⟩)
        have called : ledger.callback run.settings.strategy .sent session.nextQuery registered =
            ledger.draw.record session.nextQuery := by
          cases strategy : run.settings.strategy with
          | timed => exact absurd strategy timed
          | _ => rfl
        have drawn : ledger.draw.drawn = ledger.draw.initial.indexAt run.issued.length := by
          change ledger.order.nextSampleIndex.1 = _
          rw [order]
          rfl
        have ahead : Recorded { run with callback := false, position := .waiting }
            ledger.draw := by
          refine recorded.ends ?_ ?_ ?_ ?_ ?_
          · rfl
          · simp [PhaseRun.Ahead, Position.loops]
          · simp [PhaseRun.Level]
          · rfl
          · rfl
        have same : Numbered session { run with callback := false, position := .waiting } :=
          ⟨numbered.distinct, numbered.drawn⟩
        have entries := ahead.record same drawn
        have goes : PhaseRun.afterCallback
            { run with
                issued := run.issued ++ [session.nextQuery]
                issuedCount := run.issuedCount + 1
                inflight := run.inflight + 1 } delayRaises .sent =
            { run with
                issued := run.issued ++ [session.nextQuery]
                issuedCount := run.issuedCount + 1
                inflight := run.inflight + 1 } := by
          simp [PhaseRun.afterCallback, timed]
        refine .inr ?_
        dsimp only
        rw [called, goes]
        refine ⟨entries, ?_, ?_⟩
        · simp [PhaseRun.Ahead, apart, timed]
        · intro _
          change ledger.order.nextSampleIndex.2 = _
          rw [order, List.length_append]
          rfl

theorem Recorded.paced (recorded : run.Failed ∨ Recorded run ledger) (orderly : run.Orderly)
    (numbered : Numbered session run) (pacing : run.position = .pacing)
    (sendRaises delayRaises registered : Bool) :
    ((session.issue run sendRaises).2.2.afterPaced delayRaises
        (session.issue run sendRaises).1).Failed ∨
      Recorded ((session.issue run sendRaises).2.2.afterPaced delayRaises
        (session.issue run sendRaises).1)
        (ledger.issueThenDraw (session.issue run sendRaises).1 session.nextQuery registered) := by
  have loops : run.position.loops = true := by simp [pacing, Position.loops]
  have callback := orderly.noCallback loops
  rcases recorded with failed | recorded
  · have done : run.done = some .raised := failed.resolve_right (by simp [pacing])
    refine .inl (.inl ?_)
    rcases session.issue_cases run sendRaises with ⟨-, equal⟩ | ⟨-, equal⟩ | ⟨-, equal⟩
    · rw [equal]
      exact done
    · rw [equal]
      exact done
    · rw [equal]
      cases delayRaises <;> exact done
  · obtain ⟨drawn, order⟩ := recorded.ahead (.inl loops)
    rcases session.issue_cases run sendRaises with ⟨-, equal⟩ | ⟨-, equal⟩ | ⟨-, equal⟩
    · rw [equal]
      refine .inr (recorded.ends ?_ ?_ ?_ ?_ ?_)
      · rfl
      · simp [PhaseRun.Ahead, PhaseRun.afterPaced, PhaseRun.finish, Position.loops, callback]
      · simp [PhaseRun.Level, PhaseRun.afterPaced, PhaseRun.finish, callback]
      · rfl
      · rfl
    · rw [equal]
      exact .inl (.inr ⟨_, rfl⟩)
    · rw [equal]
      cases delayRaises with
      | true => exact .inl (.inr ⟨_, rfl⟩)
      | false =>
          refine .inr (recorded_draw (recorded.record numbered drawn) ?_ ?_)
          · simpa [PhaseRun.afterPaced, IndexLedger.record, IndexLedger.issue] using order
          · simp [PhaseRun.Level, PhaseRun.afterPaced, pacing, callback]

theorem Recorded.held (recorded : run.Failed ∨ Recorded run ledger) (orderly : run.Orderly)
    (numbered : Numbered session run) (holding : run.position = .holding)
    (sendRaises registered : Bool) :
    ((session.issue run sendRaises).2.2.afterHeld (session.issue run sendRaises).1).Failed ∨
      Recorded ((session.issue run sendRaises).2.2.afterHeld (session.issue run sendRaises).1)
        (ledger.issueThenDraw (session.issue run sendRaises).1 session.nextQuery registered) := by
  have loops : run.position.loops = true := by simp [holding, Position.loops]
  have callback := orderly.noCallback loops
  rcases recorded with failed | recorded
  · have done : run.done = some .raised := failed.resolve_right (by simp [holding])
    refine .inl (.inl ?_)
    rcases session.issue_cases run sendRaises with ⟨-, equal⟩ | ⟨-, equal⟩ | ⟨-, equal⟩ <;>
      rw [equal] <;> exact done
  · obtain ⟨drawn, order⟩ := recorded.ahead (.inl loops)
    rcases session.issue_cases run sendRaises with ⟨-, equal⟩ | ⟨-, equal⟩ | ⟨-, equal⟩
    · rw [equal]
      refine .inr (recorded.ends ?_ ?_ ?_ ?_ ?_)
      · rfl
      · simp [PhaseRun.Ahead, PhaseRun.afterHeld, PhaseRun.finish, Position.loops, callback]
      · simp [PhaseRun.Level, PhaseRun.afterHeld, PhaseRun.finish, callback]
      · rfl
      · rfl
    · rw [equal]
      exact .inl (.inr ⟨_, rfl⟩)
    · rw [equal]
      refine .inr (recorded_draw (recorded.record numbered drawn) ?_ ?_)
      · simpa [PhaseRun.afterHeld, IndexLedger.record, IndexLedger.issue] using order
      · simp [PhaseRun.Level, PhaseRun.afterHeld, callback]

theorem settings_moved {label : Label} (moved : session.Moved run label changed) :
    changed.settings = run.settings := by
  have issued : ∀ sendRaises, (session.issue run sendRaises).2.2.settings = run.settings := by
    intro sendRaises
    rcases session.issue_cases run sendRaises with ⟨-, equal⟩ | ⟨-, equal⟩ | ⟨-, equal⟩ <;>
      rw [equal]
  have calledBack : ∀ sendRaises delayRaises,
      ((session.issue run sendRaises).2.2.afterCallback delayRaises
        (session.issue run sendRaises).1).settings = run.settings := by
    intro sendRaises delayRaises
    rw [← issued sendRaises]
    unfold PhaseRun.afterCallback
    split
    · split <;> rfl
    · rfl
    · rfl
  cases moved with
  | begun unstarted =>
      unfold PhaseRun.begin
      split
      · split <;> rfl
      · rfl
      · split <;> rfl
      · rfl
      · rfl
  | calledBack callback => exact calledBack _ _
  | leftover callback => exact calledBack _ _
  | @paced sendRaises delayRaises pacing =>
      rw [← issued sendRaises]
      unfold PhaseRun.afterPaced
      split
      · split <;> rfl
      · rfl
      · rfl
  | @held sendRaises holding =>
      rw [← issued sendRaises]
      unfold PhaseRun.afterHeld
      split <;> rfl
  | silent _ settings => exact settings
  | agentic _ _ settings => exact settings

/-- A step keeps the map of the run that it moves. -/
theorem Recorded.moved {label : Label} (moved : session.Moved run label changed)
    (orderly : run.Orderly) (numbered : Numbered session run)
    (recorded : run.settings.strategy ≠ .agentic → run.Failed ∨ Recorded run ledger)
    (registered : Bool) (single : changed.settings.strategy ≠ .agentic) :
    changed.Failed ∨ Recorded changed (ledger.advance session run registered label) := by
  have kept := settings_moved moved
  have before := recorded (kept ▸ single)
  cases moved with
  | @begun delayRaises unstarted =>
      rcases before with failed | recorded
      · obtain ⟨-, done, -⟩ := orderly.fresh unstarted
        rcases failed with raised | ⟨_, ended⟩
        · simp [done] at raised
        · simp [unstarted] at ended
      · exact recorded.begin orderly unstarted (kept ▸ single) delayRaises
  | @calledBack sendRaises delayRaises callback =>
      exact Recorded.calledBack before orderly numbered callback sendRaises delayRaises registered
  | @leftover index sendRaises delayRaises callback =>
      exact Recorded.calledBack before orderly numbered callback sendRaises delayRaises registered
  | @paced sendRaises delayRaises pacing =>
      exact Recorded.paced before orderly numbered pacing sendRaises delayRaises registered
  | @held sendRaises holding =>
      exact Recorded.held before orderly numbered holding sendRaises registered
  | silent untouched settings issued callback failed loops started ended =>
      rw [untouched]
      rcases before with raised | recorded
      · exact .inl (failed raised)
      · refine .inr ⟨?_, ?_, ?_⟩
        · rw [issued]
          exact recorded.entries
        · rw [issued]
          intro ahead
          apply recorded.ahead
          refine ahead.imp loops fun scheduled => ?_
          rw [← callback, ← settings]
          exact scheduled
        · rw [issued]
          intro level
          apply recorded.level
          rcases level with fresh | scheduled
          · exact .inl ((started.resolve_left (not_not.mpr fresh)).symm.trans fresh)
          · refine .inr ?_
            rw [← callback, ← settings]
            exact scheduled
  | agentic untouched strategy settings => exact absurd strategy (kept ▸ single)

/-! ## Runs -/

namespace Indexed

variable {indexed next : Indexed}

/-- Each run has its ledger, and the ledger its map. -/
structure Traced (indexed : Indexed) : Prop where
  capped : indexed.session.Capped
  aligned : indexed.ledgers.length = indexed.session.runs.length
  recorded : ∀ (place : Nat) (run : PhaseRun) (ledger : IndexLedger), indexed.session.runs[place]? = some run →
    indexed.ledgers[place]? = some ledger → run.settings.strategy ≠ .agentic →
      run.Failed ∨ Recorded run ledger

theorem runs_enter (session : Session) (settings : PhaseSettings) :
    (session.enter settings).runs =
      session.runs ++ [{ settings := settings, startNs := session.nowNs }] := by
  simp [Session.runs, Session.enter]

theorem traced_initial : Traced {} :=
  ⟨Session.capped_initial, rfl, by simp⟩

/-- The two kinds of steps. -/
theorem step_cases {label : IndexedLabel} (edge : indexed.step label = some next) :
    (∃ settings order, indexed.session.step (.startPhase settings) = some next.session ∧
      next.session.runs = indexed.session.runs ++
        [{ settings := settings, startNs := indexed.session.nowNs }] ∧
      next.ledgers = indexed.ledgers ++ [{ initial := order }]) ∨
    ∃ label registered, indexed.session.step label = some next.session ∧
      ((next.session.runs = indexed.session.runs ∧ next.ledgers = indexed.ledgers) ∨
        ∃ run changed, indexed.session.runs[target indexed.session label]? = some run ∧
          indexed.session.Moved run label changed ∧
          next.session.runs =
            indexed.session.runs.set (target indexed.session label) changed ∧
          next.ledgers = indexed.ledgers.modify (target indexed.session label) fun ledger =>
            ledger.advance indexed.session run registered label) := by
  cases label with
  | startPhase settings order =>
      obtain ⟨session, started, rfl⟩ := Option.map_eq_some_iff.mp edge
      have entered : session = indexed.session.enter settings := by
        simp only [Session.step] at started
        split at started
        · exact (Option.some.inj started).symm
        · simp at started
      refine .inl ⟨settings, order, started, ?_, rfl⟩
      rw [entered]
      exact runs_enter _ _
  | step label registered =>
      have notStart : ∀ settings, label ≠ .startPhase settings := by
        rintro settings rfl
        simp [step] at edge
      have unfolded : (indexed.session.step label).map (fun session =>
          { session := session
            ledgers :=
              match indexed.session.runs[target indexed.session label]? with
              | some run =>
                  indexed.ledgers.modify (target indexed.session label) fun ledger =>
                    ledger.advance indexed.session run registered label
              | none => indexed.ledgers : Indexed }) = some next := by
        rw [← edge]
        cases label with
        | startPhase settings => exact absurd rfl (notStart settings)
        | _ => rfl
      obtain ⟨session, moved, rfl⟩ := Option.map_eq_some_iff.mp unfolded
      refine .inr ⟨label, registered, moved, ?_⟩
      cases Session.step_moves moved notStart with
      | none same untouched =>
          refine .inl ⟨same, ?_⟩
          dsimp only
          split
          · simp only [untouched]
            exact List.modify_id _ _
          · rfl
      | one run changed found moved runs =>
          refine .inr ⟨run, changed, found, moved, runs, ?_⟩
          simp only [found]

theorem Traced.step {label : IndexedLabel} (traced : indexed.Traced)
    (edge : indexed.step label = some next) : next.Traced := by
  obtain ⟨capped, aligned, recorded⟩ := traced
  rcases step_cases edge with ⟨settings, order, started, runs, ledgers⟩ |
    ⟨label, registered, moved, ⟨runs, ledgers⟩ | ⟨run, changed, found, move, runs, ledgers⟩⟩
  · refine ⟨capped.step started, by rw [runs, ledgers]; simp [aligned], ?_⟩
    intro place run ledger runFound ledgerFound single
    rw [runs] at runFound
    rw [ledgers] at ledgerFound
    by_cases old : place < indexed.session.runs.length
    · rw [List.getElem?_append_left old] at runFound
      rw [List.getElem?_append_left (aligned ▸ old)] at ledgerFound
      exact recorded place run ledger runFound ledgerFound single
    · rw [List.getElem?_append_right (by omega)] at runFound
      rw [List.getElem?_append_right (by omega), aligned] at ledgerFound
      obtain rfl := List.mem_singleton.mp (List.mem_of_getElem? runFound)
      obtain rfl := List.mem_singleton.mp (List.mem_of_getElem? ledgerFound)
      exact .inr ⟨rfl, by simp [PhaseRun.Ahead, Position.loops], fun _ => rfl⟩
  · refine ⟨capped.step moved, by rw [runs, ledgers, aligned], ?_⟩
    rw [runs, ledgers]
    exact recorded
  · refine ⟨capped.step moved, by rw [runs, ledgers]; simp [aligned], ?_⟩
    intro place other ledger runFound ledgerFound single
    rw [runs] at runFound
    rw [ledgers, List.getElem?_modify] at ledgerFound
    by_cases here : target indexed.session label = place
    · subst here
      have below := (List.getElem?_eq_some_iff.mp found).1
      rw [List.getElem?_set_self below] at runFound
      obtain rfl := Option.some.inj runFound
      obtain ⟨before, beforeFound, rfl⟩ : ∃ before, indexed.ledgers[target indexed.session label]? =
          some before ∧ before.advance indexed.session run registered label = ledger := by
        simpa using ledgerFound
      have member := List.mem_of_getElem? found
      exact Recorded.moved move (capped.orderly run member) (capped.numbered run member)
        (fun single => recorded _ run before found beforeFound single) registered single
    · rw [List.getElem?_set_ne here] at runFound
      have ledgerBefore : indexed.ledgers[place]? = some ledger := by
        simpa [here] using ledgerFound
      exact recorded place other ledger runFound ledgerBefore single

theorem traced {labels : List IndexedLabel} {final : Indexed}
    (runs : GuardedRuns.run step {} labels = some final) : final.Traced :=
  GuardedRuns.Reachable.invariant Traced (fun _ _ _ traced edge => Traced.step traced edge)
    traced_initial ⟨labels, runs⟩

/-- After its strategy returned a run issues nothing, so its map stays. -/
theorem Traced.returned_step {label : IndexedLabel} (traced : indexed.Traced)
    (edge : indexed.step label = some next) {place : Nat} {run : PhaseRun}
    {ledger : IndexLedger} (found : indexed.session.runs[place]? = some run)
    (ledgerFound : indexed.ledgers[place]? = some ledger) {issuedCount : Nat}
    (returned : run.position = .ended .returned issuedCount) :
    ∃ later, next.session.runs[place]? = some later ∧
      later.position = .ended .returned issuedCount ∧ next.ledgers[place]? = some ledger := by
  have below := (List.getElem?_eq_some_iff.mp found).1
  rcases step_cases edge with ⟨settings, order, started, runs, ledgers⟩ |
    ⟨label, registered, -, ⟨runs, ledgers⟩ | ⟨mover, changed, moverFound, move, runs, ledgers⟩⟩
  · refine ⟨run, ?_, returned, ?_⟩
    · rw [runs, List.getElem?_append_left below]
      exact found
    · rw [ledgers, List.getElem?_append_left (traced.aligned ▸ below)]
      exact ledgerFound
  · exact ⟨run, runs ▸ found, returned, ledgers ▸ ledgerFound⟩
  · by_cases here : target indexed.session label = place
    · subst here
      obtain rfl := Option.some.inj (moverFound.symm.trans found)
      have closed := (traced.capped.orderly mover (List.mem_of_getElem? found)).closed _ returned
      have stays : changed.position = mover.position ∧
          ledger.advance indexed.session mover registered label = ledger := by
        have ended : mover.position.isEnded = true := by simp [returned, Position.isEnded]
        cases move with
        | begun unstarted => simp [returned] at unstarted
        | calledBack callback => simp [closed] at callback
        | leftover callback => simp [closed] at callback
        | paced pacing => simp [returned] at pacing
        | held holding => simp [returned] at holding
        | silent untouched _ _ _ _ _ _ position => exact ⟨position ended, untouched _ _⟩
        | agentic untouched _ _ _ position => exact ⟨position ended, untouched _ _⟩
      refine ⟨changed, ?_, stays.1.trans returned, ?_⟩
      · rw [runs, List.getElem?_set_self below]
      · rw [ledgers, List.getElem?_modify, ledgerFound]
        simp [stays.2]
    · refine ⟨run, ?_, returned, ?_⟩
      · rw [runs, List.getElem?_set_ne here]
        exact found
      · rw [ledgers, List.getElem?_modify, ledgerFound]
        simp [here]

theorem Traced.returned_run (labels : List IndexedLabel) {final : Indexed}
    (traced : indexed.Traced) (runs : GuardedRuns.run Indexed.step indexed labels = some final)
    {place : Nat} {run : PhaseRun} {ledger : IndexLedger}
    (found : indexed.session.runs[place]? = some run)
    (ledgerFound : indexed.ledgers[place]? = some ledger) {issuedCount : Nat}
    (returned : run.position = .ended .returned issuedCount) :
    final.ledgers[place]? = some ledger := by
  induction labels generalizing indexed run with
  | nil =>
      obtain rfl := Option.some.inj runs
      exact ledgerFound
  | cons label labels ih =>
      obtain ⟨next, edge, runs⟩ := GuardedRuns.run_cons_eq_some.mp runs
      obtain ⟨later, laterFound, still, ledgerLater⟩ :=
        traced.returned_step edge found ledgerFound returned
      exact ih (traced.step edge) runs laterFound ledgerLater still

end Indexed

end InferenceEndpoint.Issuance
