import InferenceEndpoint.DatasetManager.AgenticInferenceDataset
import InferenceEndpoint.Library.ListHeap

/-!
# Conversation histories

`_build_conversation_metadata` extends one history list in place and keeps a list for every
client turn.  With the lists behind references, the lists that are kept stay as they were when
they were made, and each is the next one without its end.
-/

namespace InferenceEndpoint

namespace AgenticInference

open ListHeap (Ref)

/-- `Building` with its lists behind references. -/
structure HeapBuilding where
  heap : ListHeap Message
  history : Ref
  preBuiltMessagesByKey : OrderedDict (String × Nat) Ref := ∅
  delaySecondsByKey : OrderedDict (String × Nat) ℚ := ∅
  samples : List ConversationSampleEntry := []

namespace HeapBuilding

/-- The history list, with the system message if there is one. -/
def start (system : Option String) : HeapBuilding :=
  let made := ({} : ListHeap Message).alloc []
  { heap := made.2.extend made.1 (systemMessages system), history := made.1 }

/-- `list(history) + current_turn_msgs`: a copy, and the list of both. -/
def snapshot (building : HeapBuilding) (rowMessages : List Message) : Ref × ListHeap Message :=
  let copied := building.heap.alloc (building.heap.read building.history)
  copied.2.alloc (copied.2.read copied.1 ++ rowMessages)

def addMessages (building : HeapBuilding) (conversationId : String) (row : TurnRow)
    (rowMessages : List Message) : HeapBuilding :=
  if isClient row.role then
    let key := (conversationId, row.turn)
    let kept := building.snapshot rowMessages
    { building with
        heap := kept.2.extend building.history rowMessages
        preBuiltMessagesByKey := building.preBuiltMessagesByKey.insert key kept.1
        delaySecondsByKey :=
          match row.delaySeconds with
          | some delay =>
              if 0 < delay then building.delaySecondsByKey.insert key delay
              else building.delaySecondsByKey
          | none => building.delaySecondsByKey
        samples := building.samples ++ [{ conversationId := conversationId, turn := row.turn }] }
  else { building with heap := building.heap.extend building.history rowMessages }

def addRow (conversationId : String) (building : HeapBuilding) (row : TurnRow) :
    Except DatasetError HeapBuilding := do
  let rowMessages ← formatRow row
  pure (building.addMessages conversationId row rowMessages)

/-- The list that is kept for a client turn. -/
def prompt (building : HeapBuilding) (key : String × Nat) : Option (List Message) :=
  (building.preBuiltMessagesByKey.get? key).map building.heap.read

end HeapBuilding

/-- `_build_conversation_metadata` on the heap. -/
def buildOnHeap (conversationId : String) (group : List TurnRow) :
    Except DatasetError (HeapBuilding × Nat) := do
  let sorted := sortByTurn group
  let built ← sorted.foldlM (HeapBuilding.addRow conversationId)
    (HeapBuilding.start (systemContent sorted))
  pure (built, (sorted.filter fun row => isClient row.role).length)

namespace HeapBuilding

/-- The lists behind the references are those of `Building`, and no list that is kept is the
history list. -/
structure Refines (building : HeapBuilding) (pureBuilding : Building) : Prop where
  live : building.heap.Live building.history
  separate : ∀ key ref, building.preBuiltMessagesByKey.get? key = some ref →
    building.heap.Live ref ∧ ref ≠ building.history
  history : building.heap.read building.history = pureBuilding.history
  prompts : ∀ key, building.prompt key = pureBuilding.preBuiltMessagesByKey.get? key
  delays : building.delaySecondsByKey = pureBuilding.delaySecondsByKey
  samples : building.samples = pureBuilding.samples

variable {building : HeapBuilding} {pureBuilding : Building} {rowMessages : List Message}

theorem snapshot_spec (live : building.heap.Live building.history) (rowMessages : List Message) :
    let kept := building.snapshot rowMessages
    kept.2.Live kept.1 ∧
      kept.2.read kept.1 = building.heap.read building.history ++ rowMessages ∧
      kept.1 ≠ building.history ∧
      ∀ ref, building.heap.Live ref → kept.2.Live ref ∧ kept.2.read ref = building.heap.read ref := by
  have copied := live.alloc (building.heap.read building.history)
  refine ⟨ListHeap.live_alloc_self _ _, ?_, ?_, fun ref liveRef => ⟨?_, ?_⟩⟩
  · unfold snapshot
    dsimp only
    rw [ListHeap.read_alloc_self, ListHeap.read_alloc_self]
  · exact (copied.ne_alloc _).symm
  · exact (liveRef.alloc _).alloc _
  · exact ((liveRef.alloc _).read_alloc _).trans (liveRef.read_alloc _)

/-- A row changes the history list and no other. -/
theorem addMessages_frame (live : building.heap.Live building.history) (conversationId : String)
    (row : TurnRow) (rowMessages : List Message) :
    (building.addMessages conversationId row rowMessages).history = building.history ∧
      (building.addMessages conversationId row rowMessages).heap.Live building.history ∧
      (building.addMessages conversationId row rowMessages).heap.read building.history =
        building.heap.read building.history ++ rowMessages ∧
      ∀ ref, building.heap.Live ref → ref ≠ building.history →
        (building.addMessages conversationId row rowMessages).heap.Live ref ∧
          (building.addMessages conversationId row rowMessages).heap.read ref =
            building.heap.read ref := by
  unfold addMessages
  split
  · obtain ⟨-, -, -, others⟩ := snapshot_spec live rowMessages
    obtain ⟨liveKept, readKept⟩ := others building.history live
    refine ⟨rfl, liveKept.extend _ _, ?_, fun ref liveRef different => ⟨?_, ?_⟩⟩
    · exact (liveKept.read_extend_self rowMessages).trans (by rw [readKept])
    · exact (others ref liveRef).1.extend _ _
    · exact (ListHeap.read_extend_of_ne different rowMessages).trans (others ref liveRef).2
  · refine ⟨rfl, live.extend _ _, live.read_extend_self rowMessages, ?_⟩
    exact fun ref liveRef different =>
      ⟨liveRef.extend _ _, ListHeap.read_extend_of_ne different rowMessages⟩

namespace Refines

theorem start (system : Option String) :
    (HeapBuilding.start system).Refines { history := systemMessages system } := by
  have live := ListHeap.live_alloc_self ({} : ListHeap Message) []
  refine ⟨live.extend _ _, fun key ref found => ?_, ?_, fun key => rfl, rfl, rfl⟩
  · simp [HeapBuilding.start] at found
  · exact live.read_extend_self (systemMessages system)

/-- The lists that were kept before a row are the same after it. -/
theorem prompt_addMessages (refines : building.Refines pureBuilding) (conversationId : String)
    (row : TurnRow) (rowMessages : List Message) {key : String × Nat} {ref : Ref}
    (found : building.preBuiltMessagesByKey.get? key = some ref) :
    (building.addMessages conversationId row rowMessages).heap.Live ref ∧
      ref ≠ building.history ∧
      (building.addMessages conversationId row rowMessages).heap.read ref =
        building.heap.read ref := by
  obtain ⟨-, -, -, others⟩ := addMessages_frame refines.live conversationId row rowMessages
  obtain ⟨live, different⟩ := refines.separate key ref found
  exact ⟨(others ref live different).1, different, (others ref live different).2⟩

theorem addMessages (refines : building.Refines pureBuilding) (conversationId : String)
    (row : TurnRow) (rowMessages : List Message) :
    (building.addMessages conversationId row rowMessages).Refines
      (pureBuilding.addMessages conversationId row rowMessages) := by
  obtain ⟨sameHistory, live, history, -⟩ :=
    addMessages_frame refines.live conversationId row rowMessages
  have kept := fun {key : String × Nat} {ref : Ref} =>
    @refines.prompt_addMessages building pureBuilding conversationId row rowMessages key ref
  by_cases client : isClient row.role = true
  · obtain ⟨liveNew, readNew, different, _⟩ := snapshot_spec refines.live rowMessages
    have lookup : ∀ key, (building.addMessages conversationId row
        rowMessages).preBuiltMessagesByKey.get? key =
          if key = (conversationId, row.turn) then some (building.snapshot rowMessages).1
          else building.preBuiltMessagesByKey.get? key := by
      intro key
      rw [HeapBuilding.addMessages, if_pos client]
      exact OrderedDict.get?_insert _ _ _ _
    have heap : (building.addMessages conversationId row rowMessages).heap =
        (building.snapshot rowMessages).2.extend building.history rowMessages := by
      rw [HeapBuilding.addMessages, if_pos client]
    have pureKept : (pureBuilding.addMessages conversationId row
        rowMessages).preBuiltMessagesByKey =
          pureBuilding.preBuiltMessagesByKey.insert (conversationId, row.turn)
            (pureBuilding.history ++ rowMessages) := by
      rw [Building.addMessages, if_pos client]
    refine ⟨sameHistory ▸ live, fun key ref found => ?_, ?_, fun key => ?_, ?_, ?_⟩
    · rw [sameHistory]
      rw [lookup] at found
      split at found
      · obtain rfl := Option.some.inj found
        rw [heap]
        exact ⟨liveNew.extend _ _, different⟩
      · exact ⟨(kept found).1, (kept found).2.1⟩
    · rw [sameHistory, history, addMessages_history, refines.history]
    · rw [prompt, lookup, pureKept, OrderedDict.get?_insert]
      by_cases same : key = (conversationId, row.turn)
      · rw [if_pos same, if_pos same, Option.map_some, heap,
          ListHeap.read_extend_of_ne different, readNew, refines.history]
      · rw [if_neg same, if_neg same, ← refines.prompts key, prompt]
        cases found : building.preBuiltMessagesByKey.get? key with
        | none => rfl
        | some ref => exact congrArg some (kept found).2.2
    · simp only [HeapBuilding.addMessages, Building.addMessages, client, if_true]
      cases row.delaySeconds with
      | none => exact refines.delays
      | some delay =>
          exact congrArg (fun delays : OrderedDict (String × Nat) ℚ =>
            if 0 < delay then delays.insert (conversationId, row.turn) delay else delays)
              refines.delays
    · simp only [HeapBuilding.addMessages, Building.addMessages, client, if_true, refines.samples]
  · have lookup : (building.addMessages conversationId row rowMessages).preBuiltMessagesByKey =
        building.preBuiltMessagesByKey := by
      rw [HeapBuilding.addMessages, if_neg client]
    have pureKept : (pureBuilding.addMessages conversationId row
        rowMessages).preBuiltMessagesByKey = pureBuilding.preBuiltMessagesByKey := by
      rw [Building.addMessages, if_neg client]
    refine ⟨sameHistory ▸ live, fun key ref found => ?_, ?_, fun key => ?_, ?_, ?_⟩
    · rw [lookup] at found
      rw [sameHistory]
      exact ⟨(kept found).1, (kept found).2.1⟩
    · rw [sameHistory, history, addMessages_history, refines.history]
    · rw [pureKept, ← refines.prompts key, prompt, prompt, lookup]
      cases found : building.preBuiltMessagesByKey.get? key with
      | none => rfl
      | some ref => exact congrArg some (kept found).2.2
    · rw [HeapBuilding.addMessages, Building.addMessages, if_neg client, if_neg client,
        refines.delays]
    · rw [HeapBuilding.addMessages, Building.addMessages, if_neg client, if_neg client,
        refines.samples]

end Refines

/-! ## All rows -/

/-- What the rows leave of the lists other than the history. -/
theorem addRows_frame {conversationId : String} {rows : List TurnRow} {last : HeapBuilding}
    (live : building.heap.Live building.history)
    (built : rows.foldlM (HeapBuilding.addRow conversationId) building = .ok last) :
    last.history = building.history ∧
      ∀ ref, building.heap.Live ref → ref ≠ building.history →
        last.heap.read ref = building.heap.read ref := by
  induction rows generalizing building with
  | nil =>
      obtain rfl := Except.ok.inj built
      exact ⟨rfl, fun _ _ _ => rfl⟩
  | cons row rows ih =>
      rw [List.foldlM_cons] at built
      obtain ⟨next, added, rest⟩ := of_bind_ok built
      obtain ⟨rowMessages, -, done⟩ := of_bind_ok added
      obtain rfl := Except.ok.inj done
      obtain ⟨sameHistory, liveHistory, -, others⟩ :=
        addMessages_frame live conversationId row rowMessages
      obtain ⟨history, lists⟩ := ih (sameHistory ▸ liveHistory) rest
      refine ⟨history.trans sameHistory, fun ref liveRef different => ?_⟩
      obtain ⟨liveAfter, unchanged⟩ := others ref liveRef different
      exact (lists ref liveAfter (sameHistory ▸ different)).trans unchanged

/-- The heap is built exactly if the messages of all rows can be made, and then it holds the
lists of `Building`. -/
theorem addRows_refines (refines : building.Refines pureBuilding) {conversationId : String}
    {rows : List TurnRow} {last : HeapBuilding}
    (built : rows.foldlM (HeapBuilding.addRow conversationId) building = .ok last) :
    (∀ row ∈ rows, formatRow row = .ok (formatted row)) ∧
      last.Refines (pureBuilding.addRows conversationId rows) := by
  induction rows generalizing building pureBuilding with
  | nil =>
      obtain rfl := Except.ok.inj built
      exact ⟨List.forall_mem_nil _, refines⟩
  | cons row rows ih =>
      rw [List.foldlM_cons] at built
      obtain ⟨next, added, rest⟩ := of_bind_ok built
      obtain ⟨rowMessages, head, done⟩ := of_bind_ok added
      obtain rfl := Except.ok.inj done
      have formats : formatRow row = .ok (formatted row) := formatRow_eq_formatted head
      have same : rowMessages = formatted row := Except.ok.inj (head.symm.trans formats)
      subst same
      obtain ⟨others, refined⟩ :=
        ih (refines.addMessages conversationId row (formatted row)) rest
      exact ⟨List.forall_mem_cons.mpr ⟨formats, others⟩, refined⟩

end HeapBuilding

/-! ## Turns in order -/

theorem of_forM_ok {Item : Type*} {items : List Item} {check : Item → Except DatasetError Unit}
    (passed : items.forM check = .ok ()) : ∀ item ∈ items, check item = .ok () := by
  induction items with
  | nil => simp
  | cons item items ih =>
      obtain ⟨_, head, rest⟩ := of_bind_ok passed
      exact List.forall_mem_cons.mpr ⟨head, ih rest⟩

theorem sortByTurn_perm (rows : List TurnRow) : (sortByTurn rows).Perm rows :=
  List.mergeSort_perm rows _

theorem mem_sortByTurn {rows : List TurnRow} {row : TurnRow} :
    row ∈ sortByTurn rows ↔ row ∈ rows :=
  (sortByTurn_perm rows).mem_iff

/-- The turns of an accepted conversation are 1, 2, 3, …. -/
theorem turns_perm_of_numbered {group : String × List TurnRow}
    (numbered : checkNumbering group = .ok ()) :
    (group.2.map TurnRow.turn).Perm ((List.range group.2.length).map (· + 1)) := by
  have sorted := List.mergeSort_perm (group.2.map TurnRow.turn) fun first second => first ≤ second
  unfold checkNumbering at numbered
  dsimp only at numbered
  split at numbered
  · rename_i turns
    rw [List.length_mergeSort, List.length_map] at turns
    exact turns ▸ sorted.symm
  · cases numbered

/-- Such rows are in strict order once they are sorted. -/
theorem sortByTurn_strict {group : String × List TurnRow}
    (numbered : checkNumbering group = .ok ()) :
    (sortByTurn group.2).Pairwise fun first second => first.turn < second.turn := by
  have distinct : ((sortByTurn group.2).map TurnRow.turn).Nodup := by
    rw [((sortByTurn_perm group.2).map TurnRow.turn).nodup_iff,
      (turns_perm_of_numbered numbered).nodup_iff]
    exact List.nodup_range.map fun first second same => Nat.succ.inj same
  have sorted : (sortByTurn group.2).Pairwise fun first second => first.turn ≤ second.turn := by
    have ordered : (sortByTurn group.2).Pairwise fun first second =>
        decide (first.turn ≤ second.turn) = true := List.pairwise_mergeSort
      (fun first second third => by simpa using Nat.le_trans)
      (fun first second => by simpa using Nat.le_total first.turn second.turn) group.2
    exact ordered.imp fun less => of_decide_eq_true less
  have apart : (sortByTurn group.2).Pairwise fun first second => first.turn ≠ second.turn :=
    List.pairwise_map.mp distinct
  exact (sorted.and apart).imp fun both => Nat.lt_of_le_of_ne both.1 both.2

theorem of_checkRows {rows : List TurnRow} (accepted : checkRows rows = .ok ()) :
    rows ≠ [] ∧ (∀ group ∈ (convGroups rows).entries, checkStructure group = .ok ()) ∧
      ∀ group ∈ (convGroups rows).entries, checkNumbering group = .ok () := by
  unfold checkRows at accepted
  cases rows with
  | nil => cases accepted
  | cons row rest =>
      obtain ⟨_, grouping, structures⟩ := of_bind_ok accepted
      obtain ⟨_, structured, numbered⟩ := of_bind_ok structures
      exact ⟨List.cons_ne_nil _ _, of_forM_ok structured, of_forM_ok numbered⟩

/-- The rows up to a row are those with a turn up to its own. -/
theorem filter_turn_le {before after : List TurnRow} {row : TurnRow}
    (ordered : (before ++ row :: after).Pairwise fun first second => first.turn < second.turn) :
    ((before ++ row :: after).filter fun other => other.turn ≤ row.turn) = before ++ [row] := by
  obtain ⟨-, rest, across⟩ := List.pairwise_append.mp ordered
  obtain ⟨later, -⟩ := List.pairwise_cons.mp rest
  have first : (before.filter fun other => decide (other.turn ≤ row.turn)) = before := by
    apply List.filter_eq_self.mpr
    intro other member
    exact decide_eq_true (across other member row List.mem_cons_self).le
  have last : (after.filter fun other => decide (other.turn ≤ row.turn)) = [] := by
    apply List.filter_eq_nil_iff.mpr
    intro other member
    simpa using later other member
  rw [List.filter_append, first, List.filter_cons, last]
  simp

/-- Every row has a message. -/
theorem formatted_ne_nil {row : TurnRow} (formats : formatRow row = .ok (formatted row)) :
    formatted row ≠ [] := by
  unfold formatRow at formats
  cases expanded : expandToolResults row with
  | error error =>
      rw [expanded] at formats
      cases formats
  | ok messages =>
      rw [expanded] at formats
      cases messages with
      | nil =>
          intro empty
          rw [empty] at formats
          cases formats
      | cons message messages =>
          intro empty
          rw [empty] at formats
          cases formats

/-! ## The chain of prompts -/

/-- The system message and the messages of all rows up to a turn. -/
def historyUpTo (group : List TurnRow) (turn : Nat) : List Message :=
  let sorted := sortByTurn group
  systemMessages (systemContent sorted) ++
    (sorted.filter fun row => row.turn ≤ turn).flatMap formatted

section Chain

variable {group : String × List TurnRow} {built : HeapBuilding} {count : Nat}

theorem refines_of_build (builds : buildOnHeap group.1 group.2 = .ok (built, count)) :
    (∀ row ∈ sortByTurn group.2, formatRow row = .ok (formatted row)) ∧
      built.Refines (({ history := systemMessages (systemContent (sortByTurn group.2)) } :
        Building).addRows group.1 (sortByTurn group.2)) := by
  unfold buildOnHeap at builds
  dsimp only at builds
  cases folded : (sortByTurn group.2).foldlM (HeapBuilding.addRow group.1)
      (HeapBuilding.start (systemContent (sortByTurn group.2))) with
  | error error =>
      rw [folded] at builds
      cases builds
  | ok last =>
      rw [folded] at builds
      obtain ⟨rfl, -⟩ := Prod.mk.inj (Except.ok.inj builds)
      exact HeapBuilding.addRows_refines (HeapBuilding.Refines.start _) folded

/-- The list of a client turn. -/
theorem prompt_eq (numbered : checkNumbering group = .ok ())
    (builds : buildOnHeap group.1 group.2 = .ok (built, count)) {row : TurnRow}
    (member : row ∈ group.2) (client : isClient row.role = true) :
    built.prompt (group.1, row.turn) = some (historyUpTo group.2 row.turn) := by
  obtain ⟨-, refines⟩ := refines_of_build builds
  have ordered := sortByTurn_strict numbered
  have sortedMember : row ∈ sortByTurn group.2 := mem_sortByTurn.mpr member
  obtain ⟨before, after, split⟩ := List.append_of_mem sortedMember
  rw [split] at ordered
  obtain ⟨-, rest, -⟩ := List.pairwise_append.mp ordered
  obtain ⟨later, -⟩ := List.pairwise_cons.mp rest
  have upTo := filter_turn_le ordered
  rw [refines.prompts, historyUpTo, split, upTo]
  exact addRows_get? client fun other otherMember => (later other otherMember).ne

/-- An earlier turn has a shorter history. -/
theorem historyUpTo_prefix (numbered : checkNumbering group = .ok ())
    (builds : buildOnHeap group.1 group.2 = .ok (built, count)) {first second : TurnRow}
    (firstMember : first ∈ group.2) (secondMember : second ∈ group.2)
    (earlier : first.turn < second.turn) :
    historyUpTo group.2 first.turn <+: historyUpTo group.2 second.turn ∧
      historyUpTo group.2 first.turn ≠ historyUpTo group.2 second.turn := by
  obtain ⟨formats, -⟩ := refines_of_build builds
  have ordered := sortByTurn_strict numbered
  have sorted : ∀ {row}, row ∈ group.2 → row ∈ sortByTurn group.2 :=
    fun member => mem_sortByTurn.mpr member
  obtain ⟨before, after, split⟩ := List.append_of_mem (sorted secondMember)
  have inBefore : first ∈ before := by
    have member := sorted firstMember
    rw [split] at member ordered
    obtain ⟨-, rest, -⟩ := List.pairwise_append.mp ordered
    obtain ⟨later, -⟩ := List.pairwise_cons.mp rest
    rcases List.mem_append.mp member with inside | inside
    · exact inside
    · rcases List.mem_cons.mp inside with rfl | behind
      · exact absurd earlier (Nat.lt_irrefl _)
      · have further := later first behind
        omega
  obtain ⟨start, middle, rfl⟩ := List.append_of_mem inBefore
  have atSecond : ((sortByTurn group.2).filter fun row => row.turn ≤ second.turn) =
      start ++ first :: middle ++ [second] := by
    rw [split] at ordered ⊢
    exact filter_turn_le ordered
  have atFirst : ((sortByTurn group.2).filter fun row => row.turn ≤ first.turn) =
      start ++ [first] := by
    rw [split, List.append_assoc, List.cons_append] at ordered ⊢
    exact filter_turn_le ordered
  have longer : historyUpTo group.2 second.turn =
      historyUpTo group.2 first.turn ++ (middle ++ [second]).flatMap formatted := by
    rw [historyUpTo, historyUpTo, atSecond, atFirst]
    simp
  have spoken := formatted_ne_nil (formats second (sorted secondMember))
  refine ⟨⟨_, longer.symm⟩, fun same => spoken ?_⟩
  rw [same] at longer
  have empty := List.append_right_eq_self.mp longer.symm
  rw [List.flatMap_append, List.append_eq_nil_iff] at empty
  simpa using empty.2

end Chain

/-- In an accepted dataset: the list of every client turn is the system message and then the
messages of all rows up to it, the list of an earlier turn is a proper prefix of that of a later
one, and the rows that come later leave the lists that are there alone. -/
theorem history_prefix_chain {rows : List TurnRow} (accepted : checkRows rows = .ok ())
    {group : String × List TurnRow} (member : group ∈ (convGroups rows).entries)
    {built : HeapBuilding} {count : Nat}
    (builds : buildOnHeap group.1 group.2 = .ok (built, count)) :
    (∀ row ∈ group.2, isClient row.role = true →
      built.prompt (group.1, row.turn) = some (historyUpTo group.2 row.turn)) ∧
    (∀ first ∈ group.2, ∀ second ∈ group.2, isClient first.role = true →
      isClient second.role = true → first.turn < second.turn →
        ∃ shorter longer, built.prompt (group.1, first.turn) = some shorter ∧
          built.prompt (group.1, second.turn) = some longer ∧ shorter <+: longer ∧
            shorter ≠ longer) ∧
    ∀ before after, sortByTurn group.2 = before ++ after → ∃ middle,
      before.foldlM (HeapBuilding.addRow group.1)
          (HeapBuilding.start (systemContent (sortByTurn group.2))) = .ok middle ∧
        after.foldlM (HeapBuilding.addRow group.1) middle = .ok built ∧
          ∀ key ref, middle.preBuiltMessagesByKey.get? key = some ref →
            built.heap.read ref = middle.heap.read ref := by
  have numbered := (of_checkRows accepted).2.2 group member
  refine ⟨fun row rowMember client => prompt_eq numbered builds rowMember client, ?_, ?_⟩
  · intro first firstMember second secondMember firstClient secondClient earlier
    exact ⟨_, _, prompt_eq numbered builds firstMember firstClient,
      prompt_eq numbered builds secondMember secondClient,
      historyUpTo_prefix numbered builds firstMember secondMember earlier⟩
  · intro before after split
    unfold buildOnHeap at builds
    dsimp only at builds
    cases folded : (sortByTurn group.2).foldlM (HeapBuilding.addRow group.1)
        (HeapBuilding.start (systemContent (sortByTurn group.2))) with
    | error error =>
        rw [folded] at builds
        cases builds
    | ok last =>
        rw [folded] at builds
        obtain ⟨rfl, -⟩ := Prod.mk.inj (Except.ok.inj builds)
        have both : (before ++ after).foldlM (HeapBuilding.addRow group.1)
            (HeapBuilding.start (systemContent (sortByTurn group.2))) = .ok last := by
          rw [← split]
          exact folded
        rw [List.foldlM_append] at both
        cases first : before.foldlM (HeapBuilding.addRow group.1)
            (HeapBuilding.start (systemContent (sortByTurn group.2))) with
        | error error =>
            rw [first] at both
            cases both
        | ok middle =>
            rw [first] at both
            have refined := (HeapBuilding.addRows_refines (HeapBuilding.Refines.start _) first).2
            refine ⟨middle, rfl, both, fun key ref found => ?_⟩
            obtain ⟨live, different⟩ := refined.separate key ref found
            exact (HeapBuilding.addRows_frame refined.live both).2 ref live different

/-- Two client turns with an answer between them. -/
def shortConversation : List TurnRow :=
  [{ conversationId := "conv", turn := 1, role := .user, system := some (.text "be brief"),
      content := some (.text "first") },
    { conversationId := "conv", turn := 2, role := .assistant, content := some (.text "answer") },
    { conversationId := "conv", turn := 3, role := .user, content := some (.text "second") }]

theorem sortByTurn_shortConversation : sortByTurn shortConversation = shortConversation :=
  sortByTurn_eq (by simp [shortConversation])

theorem checkRows_shortConversation : checkRows shortConversation = .ok () := by
  have groups : (convGroups shortConversation).entries = [("conv", shortConversation)] := rfl
  have structured : checkStructure ("conv", shortConversation) = .ok () := by
    unfold checkStructure
    rw [sortByTurn_shortConversation]
    rfl
  have sorted : ([1, 2, 3] : List Nat).mergeSort (fun first second => first ≤ second) =
      [1, 2, 3] := List.mergeSort_of_pairwise (by decide)
  have numbered : checkNumbering ("conv", shortConversation) = .ok () := by
    have turns : (shortConversation.map TurnRow.turn).mergeSort
        (fun first second => first ≤ second) = [1, 2, 3] := sorted
    unfold checkNumbering
    dsimp only
    rw [turns]
    rfl
  have each : ∀ check : String × List TurnRow → Except DatasetError Unit,
      check ("conv", shortConversation) = .ok () →
        (convGroups shortConversation).entries.forM check = .ok () := by
    intro check passed
    rw [groups]
    exact forM_ok fun group member => List.mem_singleton.mp member ▸ passed
  unfold checkRows
  rw [each checkStructure structured, each checkNumbering numbered]
  rfl

theorem history_prefix_chain_short :
    ∃ built count, buildOnHeap "conv" shortConversation = .ok (built, count) ∧
      built.prompt ("conv", 1) = some (historyUpTo shortConversation 1) := by
  have builds : ∃ built, buildOnHeap "conv" shortConversation = .ok built := by
    unfold buildOnHeap
    rw [sortByTurn_shortConversation]
    exact ⟨_, rfl⟩
  obtain ⟨⟨built, count⟩, builds⟩ := builds
  have groups : (convGroups shortConversation).entries = [("conv", shortConversation)] := rfl
  have chain := history_prefix_chain checkRows_shortConversation
    (groups ▸ List.mem_singleton_self _) builds
  exact ⟨built, count, builds, chain.1 _ List.mem_cons_self rfl⟩

end AgenticInference

end InferenceEndpoint
