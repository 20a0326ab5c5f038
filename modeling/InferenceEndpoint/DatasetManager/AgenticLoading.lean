import InferenceEndpoint.DatasetManager.ConversationHistory

/-!
# Loading an agentic dataset

The constructor checks the rows of a frame, and `load` builds the messages of every client turn
and bakes one sample for each.  The checks look at the tool results of tool rows only, and there
at the presence of a content only; the loader expands the tool results of every row.
-/

namespace InferenceEndpoint

namespace AgenticInference

/-! ## Frames -/

/-- The value of `conversation_id`: a text or a number. -/
inductive RawId
  | text (text : String)
  | number (number : Int)
  deriving DecidableEq, Repr

/-- `str(conversation_id)`. -/
def RawId.str : RawId → String
  | .text value => value
  | .number value => toString value

/-- A row with its id as the frame has it. -/
structure FrameRow where
  rawId : RawId
  row : TurnRow
  named : row.conversationId = rawId.str

/-- `hasColumns` says whether the frame has the columns of a dataset; one whose only rows were
`dataset_metadata` rows has them and no row. -/
structure Frame where
  hasColumns : Bool
  rows : List FrameRow

/-- The groups of `groupby("conversation_id", sort=False)`, under the texts of their ids. -/
def Frame.groups (frame : Frame) : List (String × List TurnRow) :=
  (OrderedDict.group (frame.rows.map fun row => (row.rawId, row.row))).entries.map
    fun group => (group.1.str, group.2)

/-- `AgenticInferenceDataset.__init__`. -/
def checkFrame (frame : Frame) : Except DatasetError Unit := do
  if !frame.hasColumns then throw (.keyError "conversation_id")
  discard <| (frame.rows.map FrameRow.row).zipIdx.foldlM checkGrouping ([], none)
  frame.groups.forM checkStructure
  frame.groups.forM checkNumbering

/-! ## Loading -/

/-- `_build_metadata`; without conversations there is no largest turn. -/
def Frame.buildMetadata (frame : Frame) : Except DatasetError ConversationMetadata := do
  let metadata ← frame.groups.foldlM ConversationMetadata.addConversation {}
  if frame.groups.isEmpty then throw (.valueError "max() iterable argument is empty")
  pure metadata

/-- The sample of a client turn; the generation parameters are left out. -/
structure Sample where
  conversationId : RawId
  turn : Nat
  role : Role
  system : Option Content
  content : Option Content
  name : Option String
  reasoningContent : Option String
  tools : Option (List Json)
  messages : List Message

/-- The tools of the first user row of each conversation. -/
def convDefaults (rows : List FrameRow) : OrderedDict RawId (Option (List Json)) :=
  rows.foldl
    (fun defaults row =>
      if (defaults.get? row.rawId).isNone ∧ row.row.role = .user then
        defaults.insert row.rawId row.row.tools
      else defaults)
    ∅

def Sample.ofRow (defaults : OrderedDict RawId (Option (List Json))) (row : FrameRow)
    (messages : List Message) : Sample where
  conversationId := row.rawId
  turn := row.row.turn
  role := row.row.role
  system := row.row.system
  content := row.row.content
  name := row.row.name
  reasoningContent := row.row.reasoningContent
  tools := row.row.tools.or ((defaults.get? row.rawId).getD none)
  messages := messages

/-- The samples so far, and the index of each by its key. -/
structure Baking where
  keyToSampleIndex : OrderedDict (String × Nat) Nat := ∅
  clientTurnSamples : List Sample := []

def FrameRow.key (row : FrameRow) : String × Nat :=
  (row.rawId.str, row.row.turn)

/-- One row of the loop that bakes; a client turn without messages is dropped. -/
def Baking.addRow (metadata : ConversationMetadata)
    (defaults : OrderedDict RawId (Option (List Json))) (baking : Baking) (row : FrameRow) :
    Baking :=
  if isClient row.row.role then
    match metadata.preBuiltMessagesByKey.get? row.key with
    | none => baking
    | some messages =>
        { keyToSampleIndex :=
            baking.keyToSampleIndex.insert row.key baking.clientTurnSamples.length
          clientTurnSamples :=
            baking.clientTurnSamples ++ [Sample.ofRow defaults row messages] }
  else baking

/-- The backfill of the sample indices; an entry without a sample is dropped. -/
def backfill (keyToSampleIndex : OrderedDict (String × Nat) Nat)
    (samples : List ConversationSampleEntry) : List ConversationSampleEntry :=
  samples.filterMap fun entry =>
    (keyToSampleIndex.get? (entry.conversationId, entry.turn)).map fun index =>
      { entry with sampleIndex := some index }

structure LoadedDataset where
  metadata : ConversationMetadata
  data : List Sample

def bake (frame : Frame) (metadata : ConversationMetadata) : LoadedDataset :=
  let baking := frame.rows.foldl (Baking.addRow metadata (convDefaults frame.rows)) {}
  { metadata :=
      { metadata with samples := backfill baking.keyToSampleIndex metadata.samples }
    data := baking.clientTurnSamples }

/-- `load` without transforms. -/
def Frame.load (frame : Frame) : Except DatasetError LoadedDataset := do
  let metadata ← frame.buildMetadata
  pure (bake frame metadata)

/-- The client rows in file order. -/
def Frame.clientRows (frame : Frame) : List FrameRow :=
  frame.rows.filter fun row => isClient row.row.role

/-- The dataset loads: one sample for each client row, in file order, and the entries of the
metadata carry each index once, that of their sample. -/
def Frame.LoadsClientRows (frame : Frame) : Prop :=
  ∃ loaded, frame.load = .ok loaded ∧
    loaded.data.map (fun sample => (sample.conversationId, sample.turn, sample.role)) =
      frame.clientRows.map (fun row => (row.rawId, row.row.turn, row.row.role)) ∧
    (loaded.metadata.samples.map ConversationSampleEntry.sampleIndex).Perm
      ((List.range frame.clientRows.length).map some) ∧
    ∀ entry ∈ loaded.metadata.samples, ∃ index sample, entry.sampleIndex = some index ∧
      loaded.data[index]? = some sample ∧
        (sample.conversationId.str, sample.turn) = (entry.conversationId, entry.turn)

/-! ## Rows that can be expanded -/

/-- Every tool result of the row has an id and a content. -/
def TurnRow.CompleteResults (row : TurnRow) : Prop :=
  ∀ results, row.toolResults = some results → ∀ result ∈ results,
    result.toolCallId.isSome = true ∧ result.content.join.isSome = true

theorem expandToolResult_ok {row : TurnRow} {result : ToolResult × Nat} :
    (∃ message, expandToolResult row result = .ok message) ↔
      result.1.toolCallId.isSome = true ∧ result.1.content.join.isSome = true := by
  unfold expandToolResult
  cases result.1.toolCallId with
  | none => simp
  | some toolCallId => cases result.1.content.join <;> simp

theorem mapM_ok {Item Value : Type*} {convert : Item → Except DatasetError Value}
    {items : List Item} :
    (∃ values, items.mapM convert = .ok values) ↔
      ∀ item ∈ items, ∃ value, convert item = .ok value := by
  induction items with
  | nil => exact ⟨fun _ _ member => absurd member List.not_mem_nil, fun _ => ⟨[], rfl⟩⟩
  | cons item items ih =>
      rw [List.mapM_cons, List.forall_mem_cons, ← ih]
      cases first : convert item with
      | error error =>
          constructor
          · rintro ⟨values, converted⟩
            cases converted
          · rintro ⟨⟨value, converted⟩, -⟩
            cases converted
      | ok value =>
          cases rest : items.mapM convert with
          | error error =>
              constructor
              · rintro ⟨values, converted⟩
                cases converted
              · rintro ⟨-, values, converted⟩
                cases converted
          | ok values => exact ⟨fun _ => ⟨⟨value, rfl⟩, values, rfl⟩, fun _ => ⟨_, rfl⟩⟩

theorem expandToolResults_ok {row : TurnRow} :
    (∃ messages, expandToolResults row = .ok messages) ↔ row.CompleteResults := by
  unfold expandToolResults TurnRow.CompleteResults
  cases row.toolResults with
  | none => exact ⟨fun _ results found => (by cases found), fun _ => ⟨[], rfl⟩⟩
  | some results =>
      dsimp only
      rw [mapM_ok]
      constructor
      · intro expands found same result member
        obtain rfl := Option.some.inj same
        obtain ⟨index, inside, rfl⟩ := List.getElem_of_mem member
        have zipped : (results[index], index) ∈ results.zipIdx := by
          rw [List.mem_zipIdx_iff_getElem?]
          exact List.getElem?_eq_getElem inside
        exact expandToolResult_ok.mp (expands _ zipped)
      · intro complete result member
        exact expandToolResult_ok.mpr
          (complete results rfl result.1 (List.fst_mem_of_mem_zipIdx member))

theorem formatRow_ok {row : TurnRow} :
    formatRow row = .ok (formatted row) ↔ row.CompleteResults := by
  rw [← expandToolResults_ok]
  unfold formatted formatRow
  cases expanded : expandToolResults row with
  | error error =>
      constructor
      · intro formats
        cases formats
      · rintro ⟨messages, expands⟩
        cases expands
  | ok messages => cases messages <;> simp [bind, Except.bind, pure, Except.pure]

/-! ## Building -/

/-- The entries of a conversation: its client turns in order. -/
def entriesOf (group : String × List TurnRow) : List ConversationSampleEntry :=
  ((sortByTurn group.2).filter fun row => isClient row.role).map fun row =>
    { conversationId := group.1, turn := row.turn }

theorem build_eq {conversationId : String} {rows : List TurnRow}
    (formats : ∀ row ∈ rows, formatRow row = .ok (formatted row)) :
    buildConversationMetadata conversationId rows =
      .ok (({ history := systemMessages (systemContent (sortByTurn rows)) } : Building).addRows
        conversationId (sortByTurn rows),
          ((sortByTurn rows).filter fun row => isClient row.role).length) := by
  unfold buildConversationMetadata
  dsimp only
  rw [foldlM_addRow fun row member => formats row (mem_sortByTurn.mp member)]
  rfl

theorem formats_of_buildConversation {conversationId : String} {rows : List TurnRow}
    {result : Building × Nat}
    (built : buildConversationMetadata conversationId rows = .ok result) :
    ∀ row ∈ rows, formatRow row = .ok (formatted row) := by
  unfold buildConversationMetadata at built
  dsimp only at built
  cases folded : (sortByTurn rows).foldlM (Building.addRow conversationId)
      { history := systemMessages (systemContent (sortByTurn rows)) } with
  | error error =>
      rw [folded] at built
      cases built
  | ok last => exact fun row member => formats_of_foldlM folded row (mem_sortByTurn.mpr member)

theorem addRows_samples (building : Building) (conversationId : String) (rows : List TurnRow) :
    (building.addRows conversationId rows).samples =
      building.samples ++ (rows.filter fun row => isClient row.role).map fun row =>
        { conversationId := conversationId, turn := row.turn } := by
  induction rows generalizing building with
  | nil => simp [Building.addRows]
  | cons row rows ih =>
      rw [Building.addRows, List.foldl_cons]
      refine (ih _).trans ?_
      by_cases client : isClient row.role = true
      · simp [Building.addMessages, client]
      · simp [Building.addMessages, client]

/-- Every client row leaves messages under its key. -/
theorem addRows_present (building : Building) (conversationId : String) (rows : List TurnRow)
    {key : String × Nat}
    (wanted : (building.preBuiltMessagesByKey.get? key).isSome = true ∨
      ∃ row ∈ rows, isClient row.role = true ∧ key = (conversationId, row.turn)) :
    ((building.addRows conversationId rows).preBuiltMessagesByKey.get? key).isSome = true := by
  induction rows generalizing building with
  | nil =>
      rcases wanted with there | ⟨row, member, -⟩
      · exact there
      · exact absurd member List.not_mem_nil
  | cons row rows ih =>
      rw [Building.addRows, List.foldl_cons]
      apply ih
      rcases wanted with there | ⟨other, member, client, rfl⟩
      · left
        unfold Building.addMessages
        split
        · dsimp only
          rw [OrderedDict.get?_insert]
          split
          · rfl
          · exact there
        · exact there
      · rcases List.mem_cons.mp member with rfl | later
        · left
          simp [Building.addMessages, client]
        · exact Or.inr ⟨other, later, client, rfl⟩

theorem addConversation_ok {group : String × List TurnRow}
    (formats : ∀ row ∈ group.2, formatRow row = .ok (formatted row))
    (metadata : ConversationMetadata) :
    ∃ next, metadata.addConversation group = .ok next ∧
      next.samples = metadata.samples ++ entriesOf group ∧
      ∀ key, ((metadata.preBuiltMessagesByKey.get? key).isSome = true ∨
          ∃ row ∈ group.2, isClient row.role = true ∧ key = (group.1, row.turn)) →
        (next.preBuiltMessagesByKey.get? key).isSome = true := by
  unfold ConversationMetadata.addConversation
  rw [build_eq formats]
  refine ⟨_, rfl, ?_, fun key wanted => ?_⟩
  · dsimp only
    rw [addRows_samples]
    rfl
  · dsimp only
    rw [get?_update, Option.isSome_or, Bool.or_eq_true]
    rcases wanted with there | ⟨row, member, client, same⟩
    · exact Or.inr there
    · exact Or.inl (addRows_present _ _ _
        (Or.inr ⟨row, mem_sortByTurn.mpr member, client, same⟩))

theorem addConversations_ok {groups : List (String × List TurnRow)}
    (formats : ∀ group ∈ groups, ∀ row ∈ group.2, formatRow row = .ok (formatted row))
    (metadata : ConversationMetadata) :
    ∃ last, groups.foldlM ConversationMetadata.addConversation metadata = .ok last ∧
      last.samples = metadata.samples ++ groups.flatMap entriesOf ∧
      ∀ key, ((metadata.preBuiltMessagesByKey.get? key).isSome = true ∨
          ∃ group ∈ groups, ∃ row ∈ group.2,
            isClient row.role = true ∧ key = (group.1, row.turn)) →
        (last.preBuiltMessagesByKey.get? key).isSome = true := by
  induction groups generalizing metadata with
  | nil =>
      refine ⟨metadata, rfl, by simp, fun key wanted => ?_⟩
      rcases wanted with there | ⟨group, member, -⟩
      · exact there
      · exact absurd member List.not_mem_nil
  | cons group groups ih =>
      obtain ⟨head, others⟩ := List.forall_mem_cons.mp formats
      obtain ⟨next, added, samples, present⟩ := addConversation_ok head metadata
      obtain ⟨last, folded, lastSamples, lastPresent⟩ := ih others next
      refine ⟨last, ?_, ?_, fun key wanted => lastPresent key ?_⟩
      · rw [List.foldlM_cons, added]
        exact folded
      · rw [lastSamples, samples, List.flatMap_cons, List.append_assoc]
      · rcases wanted with there | ⟨other, member, row, inside, client, same⟩
        · exact Or.inl (present key (Or.inl there))
        · rcases List.mem_cons.mp member with rfl | later
          · exact Or.inl (present key (Or.inr ⟨row, inside, client, same⟩))
          · exact Or.inr ⟨other, later, row, inside, client, same⟩

theorem formats_of_addConversations {groups : List (String × List TurnRow)}
    {metadata last : ConversationMetadata}
    (folded : groups.foldlM ConversationMetadata.addConversation metadata = .ok last) :
    ∀ group ∈ groups, ∀ row ∈ group.2, formatRow row = .ok (formatted row) := by
  induction groups generalizing metadata with
  | nil => simp
  | cons group groups ih =>
      rw [List.foldlM_cons] at folded
      obtain ⟨next, added, rest⟩ := of_bind_ok folded
      obtain ⟨result, built, -⟩ := addConversation_eq added
      exact List.forall_mem_cons.mpr ⟨formats_of_buildConversation built, ih rest⟩

/-! ## Baking -/

/-- What a sample is called by. -/
def Sample.key (sample : Sample) : String × Nat :=
  (sample.conversationId.str, sample.turn)

/-- The samples are those of the client rows, and the index points to samples with its key. -/
structure Baking.Holds (baking : Baking) (rows : List FrameRow) : Prop where
  identities : baking.clientTurnSamples.map
      (fun sample => (sample.conversationId, sample.turn, sample.role)) =
    (rows.filter fun row => isClient row.row.role).map fun row =>
      (row.rawId, row.row.turn, row.row.role)
  present : ∀ row ∈ rows, isClient row.row.role = true →
    (baking.keyToSampleIndex.get? row.key).isSome = true
  points : ∀ key index, baking.keyToSampleIndex.get? key = some index →
    ∃ sample, baking.clientTurnSamples[index]? = some sample ∧ sample.key = key

theorem Baking.holds (metadata : ConversationMetadata)
    (defaults : OrderedDict RawId (Option (List Json))) {rows : List FrameRow}
    (prebuilt : ∀ row ∈ rows, isClient row.row.role = true →
      (metadata.preBuiltMessagesByKey.get? row.key).isSome = true) :
    (rows.foldl (Baking.addRow metadata defaults) {}).Holds rows := by
  induction rows using List.reverseRecOn with
  | nil =>
      refine ⟨rfl, fun row member => absurd member List.not_mem_nil, fun key index found => ?_⟩
      cases found
  | append_singleton rows row ih =>
      have earlier := ih fun other member => prebuilt other (List.mem_append_left _ member)
      rw [List.foldl_append, List.foldl_cons, List.foldl_nil]
      generalize rows.foldl (Baking.addRow metadata defaults) {} = baking at earlier
      unfold Baking.addRow
      by_cases client : isClient row.row.role = true
      · rw [if_pos client]
        obtain ⟨messages, found⟩ := Option.isSome_iff_exists.mp
          (prebuilt row (by simp) client)
        rw [found]
        dsimp only
        refine ⟨?_, fun other member isClientRow => ?_, fun key index known => ?_⟩
        · rw [List.map_append, earlier.identities, List.filter_append, List.map_append]
          simp [client, Sample.ofRow]
        · rw [OrderedDict.get?_insert]
          split
          · rfl
          · rename_i different
            rcases List.mem_append.mp member with inside | last
            · exact earlier.present other inside isClientRow
            · exact absurd (congrArg FrameRow.key (List.mem_singleton.mp last)) different
        · dsimp only at known ⊢
          rw [OrderedDict.get?_insert] at known
          split at known
          · rename_i same
            obtain rfl := Option.some.inj known
            exact ⟨Sample.ofRow defaults row messages, by simp, same.symm⟩
          · obtain ⟨sample, there, same⟩ := earlier.points key index known
            refine ⟨sample, ?_, same⟩
            rw [List.getElem?_append_left (List.getElem?_eq_some_iff.mp there).1]
            exact there
      · rw [if_neg client]
        refine ⟨?_, fun other member isClientRow => ?_, earlier.points⟩
        · rw [earlier.identities, List.filter_append, List.map_append]
          simp [client]
        · rcases List.mem_append.mp member with inside | last
          · exact earlier.present other inside isClientRow
          · exact absurd (List.mem_singleton.mp last ▸ isClientRow) client

theorem backfill_eq {keyToSampleIndex : OrderedDict (String × Nat) Nat}
    {samples : List ConversationSampleEntry}
    (present : ∀ entry ∈ samples,
      (keyToSampleIndex.get? (entry.conversationId, entry.turn)).isSome = true) :
    backfill keyToSampleIndex samples = samples.map fun entry =>
      { entry with sampleIndex := keyToSampleIndex.get? (entry.conversationId, entry.turn) } := by
  induction samples with
  | nil => rfl
  | cons entry samples ih =>
      obtain ⟨head, others⟩ := List.forall_mem_cons.mp present
      obtain ⟨index, found⟩ := Option.isSome_iff_exists.mp head
      have rest := ih others
      unfold backfill at rest ⊢
      rw [List.filterMap_cons, found, List.map_cons, rest, found]
      rfl

/-! ## The keys of the client turns -/

namespace Frame

/-- The pairs that are grouped. -/
def pairs (frame : Frame) : List (RawId × TurnRow) :=
  frame.rows.map fun row => (row.rawId, row.row)

/-- The keys of one group, in the order of turns. -/
def turnKeys (group : RawId × List TurnRow) : List (String × Nat) :=
  ((sortByTurn group.2).filter fun row => isClient row.role).map fun row =>
    (group.1.str, row.turn)

/-- The keys of the metadata entries. -/
def entryKeys (frame : Frame) : List (String × Nat) :=
  (OrderedDict.group frame.pairs).entries.flatMap turnKeys

theorem entryKeys_eq (frame : Frame) :
    (frame.groups.flatMap entriesOf).map (fun entry => (entry.conversationId, entry.turn)) =
      frame.entryKeys := by
  rw [List.map_flatMap, groups, List.flatMap_map]
  apply List.flatMap_congr
  intro group _
  simp [entriesOf, turnKeys]

/-- The entries are those of the client rows. -/
theorem entryKeys_perm (frame : Frame) :
    frame.entryKeys.Perm (frame.clientRows.map FrameRow.key) := by
  have unsorted : frame.entryKeys.Perm
      ((OrderedDict.group frame.pairs).entries.flatMap fun group =>
        ((group.2.map fun row => (group.1, row)).filter fun pair => isClient pair.2.role).map
          fun pair => (pair.1.str, pair.2.turn)) := by
    refine List.Perm.flatMap_left _ fun group _ => ?_
    have sorted := ((sortByTurn_perm group.2).filter fun row => isClient row.role).map
      fun row => (group.1.str, row.turn)
    rw [List.filter_map, List.map_map]
    exact sorted
  refine unsorted.trans ?_
  rw [← List.map_flatMap, ← List.filter_flatMap]
  refine (((OrderedDict.entries_group_perm frame.pairs).filter _).map _).trans (List.Perm.of_eq ?_)
  rw [pairs, List.filter_map, List.map_map, clientRows]
  rfl

end Frame

/-- The turns of a numbered group. -/
theorem turn_of_numbered {group : String × List TurnRow}
    (numbered : checkNumbering group = .ok ()) (turn : Nat) :
    turn ∈ group.2.map TurnRow.turn ↔ 1 ≤ turn ∧ turn ≤ group.2.length := by
  rw [(turns_perm_of_numbered numbered).mem_iff, List.mem_map]
  constructor
  · rintro ⟨index, inside, rfl⟩
    rw [List.mem_range] at inside
    omega
  · rintro ⟨positive, within⟩
    exact ⟨turn - 1, List.mem_range.mpr (by omega), by omega⟩

/-- The first turn of an accepted conversation is that of a user. -/
theorem exists_first_turn {group : String × List TurnRow}
    (structured : checkStructure group = .ok ()) (numbered : checkNumbering group = .ok ())
    (nonempty : group.2 ≠ []) :
    ∃ row ∈ group.2, isClient row.role = true ∧ row.turn = 1 := by
  have ordered := sortByTurn_strict numbered
  cases sorted : sortByTurn group.2 with
  | nil =>
      have perm := sortByTurn_perm group.2
      rw [sorted] at perm
      exact absurd perm.nil_eq.symm nonempty
  | cons row rest =>
      have member : row ∈ group.2 := by
        rw [← mem_sortByTurn, sorted]
        exact List.mem_cons_self
      refine ⟨row, member, ?_, ?_⟩
      · unfold checkStructure at structured
        rw [sorted, List.foldlM_cons] at structured
        by_cases user : row.role = .user
        · rw [user]
          rfl
        · have refused : row.role ∉ validNext (none : Option Role) := by
            simpa [validNext] using user
          rw [checkRow, if_pos refused] at structured
          cases structured
      · have own : row.turn ∈ group.2.map TurnRow.turn := List.mem_map_of_mem member
        have bounds := (turn_of_numbered numbered row.turn).mp own
        have first : (1 : Nat) ∈ group.2.map TurnRow.turn :=
          (turn_of_numbered numbered 1).mpr (by omega)
        obtain ⟨other, otherMember, otherTurn⟩ := List.mem_map.mp first
        have inside := mem_sortByTurn.mpr otherMember
        rw [sorted] at ordered inside
        rcases List.mem_cons.mp inside with rfl | later
        · exact otherTurn
        · have less := (List.pairwise_cons.mp ordered).1 other later
          omega

/-! ## Ids with one text -/

/-- Rows whose ids have one text have one id. -/
def Frame.OneIdPerText (frame : Frame) : Prop :=
  ∀ first ∈ frame.rows, ∀ second ∈ frame.rows, first.rawId.str = second.rawId.str →
    first.rawId = second.rawId

/-- What the checks ensure of every group. -/
theorem of_checkFrame {frame : Frame} (accepted : checkFrame frame = .ok ()) :
    ∀ group ∈ frame.groups, checkStructure group = .ok () ∧ checkNumbering group = .ok () := by
  unfold checkFrame at accepted
  cases columns : frame.hasColumns with
  | false =>
      rw [columns] at accepted
      cases accepted
  | true =>
      rw [columns] at accepted
      obtain ⟨_, grouping, structures⟩ := of_bind_ok accepted
      obtain ⟨_, structured, numbered⟩ := of_bind_ok structures
      exact fun group member =>
        ⟨of_forM_ok structured group member, of_forM_ok numbered group member⟩

section Keys

variable {frame : Frame} {group : RawId × List TurnRow}

theorem of_entry (accepted : checkFrame frame = .ok ())
    (member : group ∈ (OrderedDict.group frame.pairs).entries) :
    checkStructure (group.1.str, group.2) = .ok () ∧
      checkNumbering (group.1.str, group.2) = .ok () :=
  of_checkFrame accepted (group.1.str, group.2) (List.mem_map_of_mem member)

/-- A group belongs to the id of a row. -/
theorem exists_row_of_entry (member : group ∈ (OrderedDict.group frame.pairs).entries) :
    ∃ row ∈ frame.rows, row.rawId = group.1 := by
  obtain ⟨keyMember, -⟩ := OrderedDict.mem_group.mp member
  rw [Frame.pairs, List.map_map] at keyMember
  obtain ⟨row, inside, same⟩ := List.mem_map.mp keyMember
  exact ⟨row, inside, same⟩

theorem exists_entry {row : FrameRow} (member : row ∈ frame.rows) :
    ∃ rows, (row.rawId, rows) ∈ (OrderedDict.group frame.pairs).entries ∧ row.row ∈ rows := by
  refine ⟨_, OrderedDict.mem_group.mpr ⟨?_, rfl⟩, ?_⟩
  · rw [Frame.pairs, List.map_map]
    exact List.mem_map_of_mem (f := Prod.fst ∘ fun row : FrameRow => (row.rawId, row.row)) member
  · rw [OrderedDict.valuesOf, List.mem_map]
    refine ⟨(row.rawId, row.row), List.mem_filter.mpr ⟨?_, by simp⟩, rfl⟩
    exact List.mem_map_of_mem (f := fun row : FrameRow => (row.rawId, row.row)) member

/-- Every group has a client turn with the number 1. -/
theorem first_mem_turnKeys (accepted : checkFrame frame = .ok ())
    (member : group ∈ (OrderedDict.group frame.pairs).entries) :
    (group.1.str, 1) ∈ Frame.turnKeys group := by
  obtain ⟨structured, numbered⟩ := of_entry accepted member
  have nonempty : group.2 ≠ [] := by
    obtain ⟨keyMember, same⟩ := OrderedDict.mem_group.mp member
    rw [same]
    exact OrderedDict.valuesOf_ne_nil.mpr keyMember
  obtain ⟨row, inside, client, first⟩ := exists_first_turn structured numbered nonempty
  refine List.mem_map.mpr ⟨row, List.mem_filter.mpr ⟨mem_sortByTurn.mpr inside, client⟩, ?_⟩
  rw [first]

/-- The keys of the client turns differ exactly if ids with one text are one id. -/
theorem entryKeys_nodup_iff (accepted : checkFrame frame = .ok ()) :
    frame.entryKeys.Nodup ↔ frame.OneIdPerText := by
  rw [Frame.entryKeys, List.nodup_flatMap]
  constructor
  · rintro ⟨-, apart⟩ first firstMember second secondMember sameText
    obtain ⟨firstRows, firstEntry, -⟩ := exists_entry firstMember
    obtain ⟨secondRows, secondEntry, -⟩ := exists_entry secondMember
    by_contra different
    have entriesDiffer : ((first.rawId, firstRows) : RawId × List TurnRow) ≠
        (second.rawId, secondRows) := fun same => different (congrArg Prod.fst same)
    have symmetric : Std.Symm (Function.onFun List.Disjoint Frame.turnKeys) :=
      ⟨fun _ _ other => List.Disjoint.symm other⟩
    have disjoint := apart.forall firstEntry secondEntry entriesDiffer
    exact disjoint (first_mem_turnKeys accepted firstEntry)
      (sameText ▸ first_mem_turnKeys accepted secondEntry)
  · intro oneId
    refine ⟨fun group member => ?_, ?_⟩
    · have strict := sortByTurn_strict (of_entry accepted member).2
      have distinct : ((sortByTurn group.2).filter fun row => isClient row.role).Pairwise
          fun first second => (group.1.str, first.turn) ≠ (group.1.str, second.turn) := by
        refine (strict.sublist List.filter_sublist).imp fun less same => ?_
        have equal := congrArg Prod.snd same
        exact absurd equal less.ne
      exact List.pairwise_map.mpr distinct
    · have keys := (OrderedDict.group frame.pairs).nodupKeys
      rw [List.Nodup, List.pairwise_map] at keys
      refine keys.imp_of_mem fun {first second} firstMember secondMember different => ?_
      intro key inFirst inSecond
      obtain ⟨firstRow, firstInside, firstSame⟩ := exists_row_of_entry firstMember
      obtain ⟨secondRow, secondInside, secondSame⟩ := exists_row_of_entry secondMember
      obtain ⟨one, -, rfl⟩ := List.mem_map.mp inFirst
      obtain ⟨other, -, same⟩ := List.mem_map.mp inSecond
      have sameText : first.1.str = second.1.str := (congrArg Prod.fst same).symm
      apply different
      rw [← firstSame, ← secondSame] at sameText ⊢
      exact oneId firstRow firstInside secondRow secondInside sameText

end Keys

/-! ## Loading every client row -/

section Loading

variable {frame : Frame}

/-- The rows that are formatted are those of the frame. -/
theorem forall_formats_iff :
    (∀ group ∈ frame.groups, ∀ row ∈ group.2, formatRow row = .ok (formatted row)) ↔
      ∀ row ∈ frame.rows, row.row.CompleteResults := by
  constructor
  · intro formats row member
    obtain ⟨rows, entry, inside⟩ := exists_entry member
    exact formatRow_ok.mp (formats (row.rawId.str, rows) (List.mem_map_of_mem entry) row.row inside)
  · intro complete group member row inside
    obtain ⟨entry, entryMember, rfl⟩ := List.mem_map.mp member
    obtain ⟨-, values⟩ := OrderedDict.mem_group.mp entryMember
    dsimp only at inside
    rw [values, OrderedDict.valuesOf, List.mem_map] at inside
    obtain ⟨pair, pairMember, rfl⟩ := inside
    obtain ⟨source, sourceMember, rfl⟩ := List.mem_map.mp (List.mem_filter.mp pairMember).1
    exact formatRow_ok.mpr (complete source sourceMember)

theorem groups_eq_nil : frame.groups = [] ↔ frame.rows = [] := by
  rw [Frame.groups, List.map_eq_nil_iff]
  constructor
  · intro noEntry
    simpa using OrderedDict.group_eq_empty.mp noEntry
  · intro noRow
    rw [noRow]
    rfl

/-- The metadata of a frame whose rows can be expanded. -/
theorem buildMetadata_ok (nonempty : frame.rows ≠ [])
    (complete : ∀ row ∈ frame.rows, row.row.CompleteResults) :
    ∃ metadata, frame.buildMetadata = .ok metadata ∧
      metadata.samples = frame.groups.flatMap entriesOf ∧
      ∀ row ∈ frame.rows, isClient row.row.role = true →
        (metadata.preBuiltMessagesByKey.get? row.key).isSome = true := by
  obtain ⟨metadata, folded, samples, present⟩ :=
    addConversations_ok (forall_formats_iff.mpr complete) {}
  have someGroup : frame.groups.isEmpty = false := by
    rw [List.isEmpty_eq_false_iff]
    exact fun noGroup => nonempty (groups_eq_nil.mp noGroup)
  refine ⟨metadata, ?_, samples, fun row member client => present row.key (Or.inr ?_)⟩
  · unfold Frame.buildMetadata
    rw [folded, someGroup]
    rfl
  · obtain ⟨rows, entry, inside⟩ := exists_entry member
    exact ⟨(row.rawId.str, rows), List.mem_map_of_mem entry, row.row, inside, client, rfl⟩

theorem of_buildMetadata {metadata : ConversationMetadata}
    (built : frame.buildMetadata = .ok metadata) :
    frame.rows ≠ [] ∧ ∀ row ∈ frame.rows, row.row.CompleteResults := by
  obtain ⟨last, folded, kept⟩ := of_bind_ok built
  refine ⟨fun noRow => ?_, forall_formats_iff.mp (formats_of_addConversations folded)⟩
  rw [groups_eq_nil.mpr noRow] at kept
  cases kept

theorem exists_of_load {loaded : LoadedDataset} (loads : frame.load = .ok loaded) :
    ∃ metadata, frame.buildMetadata = .ok metadata ∧ loaded = bake frame metadata := by
  obtain ⟨metadata, built, baked⟩ := of_bind_ok loads
  exact ⟨metadata, built, (Except.ok.inj baked).symm⟩

/-- The samples and the entries of a dataset that loaded. -/
structure Baked (frame : Frame) (indices : OrderedDict (String × Nat) Nat)
    (loaded : LoadedDataset) : Prop where
  identities : loaded.data.map (fun sample => (sample.conversationId, sample.turn, sample.role)) =
    frame.clientRows.map fun row => (row.rawId, row.row.turn, row.row.role)
  sampleIndices : loaded.metadata.samples.map ConversationSampleEntry.sampleIndex =
    frame.entryKeys.map indices.get?
  entries : ∀ entry ∈ loaded.metadata.samples, ∃ index, entry.sampleIndex = some index ∧
    indices.get? (entry.conversationId, entry.turn) = some index
  present : ∀ row ∈ frame.clientRows, (indices.get? row.key).isSome = true
  points : ∀ key index, indices.get? key = some index →
    ∃ sample, loaded.data[index]? = some sample ∧ sample.key = key

/-- The entries of the metadata have samples. -/
theorem present_of_entries {metadata : ConversationMetadata}
    (samples : metadata.samples = frame.groups.flatMap entriesOf)
    (prebuilt : ∀ row ∈ frame.rows, isClient row.row.role = true →
      (metadata.preBuiltMessagesByKey.get? row.key).isSome = true) :
    ∀ entry ∈ metadata.samples,
      ((frame.rows.foldl (Baking.addRow metadata (convDefaults frame.rows))
        {}).keyToSampleIndex.get? (entry.conversationId, entry.turn)).isSome = true := by
  have holds := Baking.holds metadata (convDefaults frame.rows) prebuilt
  intro entry member
  rw [samples] at member
  have key : (entry.conversationId, entry.turn) ∈ frame.entryKeys := by
    rw [← Frame.entryKeys_eq]
    exact List.mem_map_of_mem
      (f := fun entry : ConversationSampleEntry => (entry.conversationId, entry.turn)) member
  obtain ⟨row, rowMember, same⟩ := List.mem_map.mp (frame.entryKeys_perm.mem_iff.mp key)
  obtain ⟨inside, client⟩ := List.mem_filter.mp rowMember
  exact same ▸ holds.present row inside client

/-- The loaded entries are those of the groups. -/
theorem entries_of_load {loaded : LoadedDataset} (loads : frame.load = .ok loaded) :
    loaded.metadata.samples.map (fun entry => (entry.conversationId, entry.turn)) =
      frame.entryKeys := by
  obtain ⟨metadata, built, rfl⟩ := exists_of_load loads
  obtain ⟨nonempty, complete⟩ := of_buildMetadata built
  obtain ⟨same, again, samples, prebuilt⟩ := buildMetadata_ok nonempty complete
  obtain rfl := Except.ok.inj (built.symm.trans again)
  unfold bake
  dsimp only
  rw [backfill_eq (present_of_entries samples prebuilt), List.map_map, ← Frame.entryKeys_eq,
    samples]
  rfl

theorem exists_baked (nonempty : frame.rows ≠ [])
    (complete : ∀ row ∈ frame.rows, row.row.CompleteResults) :
    ∃ loaded indices, frame.load = .ok loaded ∧ Baked frame indices loaded := by
  obtain ⟨metadata, built, samples, prebuilt⟩ := buildMetadata_ok nonempty complete
  have holds := Baking.holds metadata (convDefaults frame.rows) prebuilt
  have present := present_of_entries samples prebuilt
  refine ⟨bake frame metadata, _, ?_, holds.identities, ?_, ?_, ?_, holds.points⟩
  · unfold Frame.load
    rw [built]
    rfl
  · unfold bake
    dsimp only
    rw [backfill_eq present, List.map_map, ← Frame.entryKeys_eq, ← samples, List.map_map]
    rfl
  · intro entry member
    unfold bake at member
    dsimp only at member
    rw [backfill_eq present] at member
    obtain ⟨source, sourceMember, rfl⟩ := List.mem_map.mp member
    obtain ⟨index, found⟩ := Option.isSome_iff_exists.mp (present source sourceMember)
    exact ⟨index, found, found⟩
  · intro row member
    obtain ⟨inside, client⟩ := List.mem_filter.mp member
    exact holds.present row inside client

/-- The samples are called by the keys of the client rows. -/
theorem Baked.keys {indices : OrderedDict (String × Nat) Nat} {loaded : LoadedDataset}
    (baked : Baked frame indices loaded) :
    loaded.data.map Sample.key = frame.clientRows.map FrameRow.key := by
  have named := congrArg (List.map fun identity : RawId × Nat × Role =>
    (identity.1.str, identity.2.1)) baked.identities
  rw [List.map_map, List.map_map] at named
  exact named

/-- With keys that differ, the index of each key is that of its client row. -/
theorem Baked.indices_eq {indices : OrderedDict (String × Nat) Nat} {loaded : LoadedDataset}
    (baked : Baked frame indices loaded) (distinct : (frame.clientRows.map FrameRow.key).Nodup) :
    (frame.clientRows.map FrameRow.key).map indices.get? =
      (List.range frame.clientRows.length).map some := by
  apply List.ext_getElem
  · simp
  · intro position inside _
    rw [List.length_map, List.length_map] at inside
    have member : frame.clientRows[position] ∈ frame.clientRows := List.getElem_mem inside
    obtain ⟨index, found⟩ := Option.isSome_iff_exists.mp (baked.present _ member)
    obtain ⟨sample, there, same⟩ := baked.points _ _ found
    have named : (frame.clientRows.map FrameRow.key)[index]? =
        some frame.clientRows[position].key := by
      rw [← baked.keys, List.getElem?_map, there, ← same]
      rfl
    have own : (frame.clientRows.map FrameRow.key)[position]? =
        some frame.clientRows[position].key := by
      rw [List.getElem?_map, List.getElem?_eq_getElem inside]
      rfl
    have positions : position = index :=
      (List.getElem?_inj (by simpa using inside) distinct).mp (own.trans named.symm)
    subst positions
    simp [found]

end Loading

/-- Rows whose ids are texts. -/
def textFrame (rows : List TurnRow) : Frame where
  hasColumns := true
  rows := rows.map fun row => { rawId := .text row.conversationId, row := row, named := rfl }

theorem checkNumbering_sorted {group : String × List TurnRow}
    (turns : group.2.map TurnRow.turn = (List.range group.2.length).map (· + 1)) :
    checkNumbering group = .ok () := by
  have ordered : (group.2.map TurnRow.turn).Pairwise fun first second => first ≤ second := by
    rw [turns, List.pairwise_map]
    exact List.pairwise_lt_range.imp fun less => by omega
  have sorted : (group.2.map TurnRow.turn).mergeSort (fun first second => first ≤ second) =
      group.2.map TurnRow.turn :=
    List.mergeSort_of_pairwise (ordered.imp fun less => by simpa using less)
  unfold checkNumbering
  dsimp only
  rw [sorted, turns, List.length_map, List.length_range, if_pos rfl]

/-- A frame of one conversation with sorted turns. -/
theorem checkFrame_single {rows : List TurnRow} {conversationId : String}
    {seen : List String × Option String}
    (grouping : rows.zipIdx.foldlM checkGrouping ([], none) = .ok seen)
    (groups : (textFrame rows).groups = [(conversationId, rows)])
    (structured : checkStructure (conversationId, rows) = .ok ())
    (turns : rows.map TurnRow.turn = (List.range rows.length).map (· + 1)) :
    checkFrame (textFrame rows) = .ok () := by
  have sources : (textFrame rows).rows.map FrameRow.row = rows := by
    simp [textFrame, Function.comp_def]
  have numbered : checkNumbering (conversationId, rows) = .ok () := checkNumbering_sorted turns
  unfold checkFrame
  rw [sources, grouping, groups, forM_ok fun group member => List.mem_singleton.mp member ▸
    structured, forM_ok fun group member => List.mem_singleton.mp member ▸ numbered]
  rfl

theorem checkFrame_shortConversation : checkFrame (textFrame shortConversation) = .ok () := by
  have structured : checkStructure ("conv", shortConversation) = .ok () := by
    unfold checkStructure
    rw [sortByTurn_shortConversation]
    rfl
  have grouping : shortConversation.zipIdx.foldlM checkGrouping ([], none) =
      .ok (["conv"], some "conv") := rfl
  exact checkFrame_single grouping rfl structured rfl

/-- A tool whose result has a null content. -/
def nullContentConversation : List TurnRow :=
  [{ conversationId := "conv", turn := 1, role := .user, content := some (.text "list files") },
    { conversationId := "conv", turn := 2, role := .assistant
      toolCalls := some [.object [("id", .string "call"), ("type", .string "function"),
        ("function", .object [("name", .string "ls"), ("arguments", .string "")])]] },
    { conversationId := "conv", turn := 3, role := .tool
      toolResults := some [{ toolCallId := some "call", content := some none }] }]

theorem sortByTurn_nullContentConversation :
    sortByTurn nullContentConversation = nullContentConversation :=
  sortByTurn_eq (by simp [nullContentConversation])

theorem checkFrame_nullContentConversation :
    checkFrame (textFrame nullContentConversation) = .ok () := by
  have structured : checkStructure ("conv", nullContentConversation) = .ok () := by
    unfold checkStructure
    rw [sortByTurn_nullContentConversation]
    rfl
  have grouping : nullContentConversation.zipIdx.foldlM checkGrouping ([], none) =
      .ok (["conv"], some "conv") := rfl
  exact checkFrame_single grouping rfl structured rfl

end AgenticInference

end InferenceEndpoint
