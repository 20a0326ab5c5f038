import InferenceEndpoint.LoadGenerator.PhaseSteps
import Mathlib.Data.List.Basic

/-!
# Trajectory instances

Every pass over the dataset draws each conversation once, and the key of an
instance carries the number of the pass.  If no conversation id contains the
separator `__repeat_`, no two instances have the same key.
-/

namespace InferenceEndpoint

/-- The key does not look like that of a repeated instance. -/
def PlainId (conversationId : String) : Prop :=
  ¬ "__repeat_".toList <:+: conversationId.toList

instance (conversationId : String) : Decidable (PlainId conversationId) :=
  inferInstanceAs (Decidable (¬ _))

theorem toDigits_injective {first second : Nat}
    (same : Nat.toDigits 10 first = Nat.toDigits 10 second) : first = second := by
  have value := congrArg (Nat.ofDigitChars 10 · 0) same
  simpa using value

/-- The first occurrence of an element splits a list in one way. -/
theorem append_cons_split {Element : Type*} {separator : Element} {first second : List Element}
    {firstRest secondRest : List Element} (firstFree : separator ∉ first)
    (secondFree : separator ∉ second)
    (same : first ++ separator :: firstRest = second ++ separator :: secondRest) :
    first = second ∧ firstRest = secondRest := by
  induction first generalizing second with
  | nil =>
      cases second with
      | nil => exact ⟨rfl, by simpa using same⟩
      | cons head tail =>
          simp only [List.nil_append, List.cons_append, List.cons.injEq] at same
          exact absurd (same.1 ▸ List.mem_cons_self) secondFree
  | cons head tail induction =>
      cases second with
      | nil =>
          simp only [List.nil_append, List.cons_append, List.cons.injEq] at same
          exact absurd (same.1 ▸ List.mem_cons_self) firstFree
      | cons other others =>
          simp only [List.cons_append, List.cons.injEq] at same
          obtain ⟨rfl, rest⟩ := same
          obtain ⟨rfl, tails⟩ := induction (fun member => firstFree (.tail _ member))
            (fun member => secondFree (.tail _ member)) rest
          exact ⟨rfl, tails⟩

/-- The number after the last separator determines both parts. -/
theorem repeated_injective {first second : String} {firstPass secondPass : Nat}
    (same : first ++ "__repeat_" ++ toString firstPass =
      second ++ "__repeat_" ++ toString secondPass) :
    first = second ∧ firstPass = secondPass := by
  have chars := congrArg String.toList same
  simp only [String.toList_append, Nat.toString_eq_repr, Nat.toList_repr] at chars
  have split : ∀ (id : String) (pass : Nat),
      id.toList ++ "__repeat_".toList ++ Nat.toDigits 10 pass =
        (id.toList ++ "__repeat".toList) ++ '_' :: Nat.toDigits 10 pass := by
    intro id pass
    simp
  rw [split, split] at chars
  have reversed := congrArg List.reverse chars
  simp only [List.reverse_append, List.reverse_cons, List.append_assoc,
    List.singleton_append] at reversed
  obtain ⟨digits, ids⟩ := append_cons_split (by simp) (by simp) reversed
  refine ⟨?_, toDigits_injective (List.reverse_injective digits)⟩
  exact String.ext (List.reverse_injective (List.append_cancel_left ids))

/-- Keys of plain ids name one instance only. -/
theorem logicalId_injective {first second : String} {firstPass secondPass : Nat}
    (firstPlain : PlainId first) (secondPlain : PlainId second)
    (same : logicalId first firstPass = logicalId second secondPass) :
    first = second ∧ firstPass = secondPass := by
  have notRepeated : ∀ {plain other : String} {pass : Nat}, PlainId plain →
      plain ≠ other ++ "__repeat_" ++ toString pass := by
    rintro plain other pass isPlain rfl
    refine isPlain ⟨other.toList, (toString pass).toList, ?_⟩
    simp
  unfold logicalId at same
  split at same
  · rename_i firstIsOne
    split at same
    · rename_i secondIsOne
      exact ⟨same, firstIsOne.trans secondIsOne.symm⟩
    · exact absurd same (notRepeated firstPlain)
  · split at same
    · exact absurd same.symm (notRepeated secondPlain)
    · exact repeated_injective same

namespace AgenticConfig

/-- No conversation id of the dataset contains the separator. -/
def PlainIds (config : AgenticConfig) : Prop :=
  ∀ sample ∈ config.metadata.samples, PlainId sample.conversationId

instance (config : AgenticConfig) : Decidable config.PlainIds :=
  inferInstanceAs (Decidable (∀ sample ∈ config.metadata.samples, _))

/-- The instance with the given number. -/
def instanceAt? (config : AgenticConfig) (number : Nat) : Option ConversationInstance :=
  let baseConvs := config.metadata.baseConvs
  baseConvs[SampleOrder.drawAt config.rngSampleIndex baseConvs.length number]?.map
    (World.makeInstance baseConvs.length number)

end AgenticConfig

/-- Grouping the samples adds no conversation of its own. -/
theorem convSamples_keys (metadata : ConversationMetadata) {conversationId : String}
    (member : conversationId ∈ metadata.convSamples.keys) :
    ∃ sample ∈ metadata.samples, sample.conversationId = conversationId := by
  have general : ∀ (samples : List SampleMeta)
      (dict : OrderedDict String (List ConversationTurn)),
      conversationId ∈ (samples.foldl (fun samples sample =>
        samples.insert sample.conversationId
          ((samples.get? sample.conversationId).getD [] ++
            [⟨sample.sampleIndex, sample.turn⟩])) dict).keys →
      conversationId ∈ dict.keys ∨
        ∃ sample ∈ samples, sample.conversationId = conversationId := by
    intro samples
    induction samples with
    | nil => exact fun dict member => Or.inl member
    | cons sample samples induction =>
        intro dict member
        rcases induction _ member with inserted | ⟨other, there, same⟩
        · rw [← OrderedDict.get?_isSome_iff, OrderedDict.get?_insert] at inserted
          split at inserted
          · rename_i same
            exact Or.inr ⟨sample, List.mem_cons_self, same.symm⟩
          · exact Or.inl (OrderedDict.get?_isSome_iff.mp inserted)
        · exact Or.inr ⟨other, List.mem_cons_of_mem _ there, same⟩
  rcases general metadata.samples ∅ member with none_ | found
  · simp at none_
  · exact found

theorem baseConvs_keys (metadata : ConversationMetadata) :
    metadata.baseConvs.map Prod.fst = metadata.convSamples.keys := by
  simp [ConversationMetadata.baseConvs, OrderedDict.keys, List.map_map, Function.comp_def]

theorem baseConvs_nodup (metadata : ConversationMetadata) :
    (metadata.baseConvs.map Prod.fst).Nodup := by
  rw [baseConvs_keys]
  exact metadata.convSamples.nodup_keys

/-- The conversations of a dataset with plain ids are plain. -/
theorem baseConvs_plain {config : AgenticConfig} (plain : config.PlainIds)
    {base : String × List ConversationTurn} (member : base ∈ config.metadata.baseConvs) :
    PlainId base.1 := by
  have key : base.1 ∈ config.metadata.convSamples.keys := by
    rw [← baseConvs_keys]
    exact List.mem_map_of_mem member
  obtain ⟨sample, there, same⟩ := convSamples_keys config.metadata key
  exact same ▸ plain sample there

/-- An instance is determined by its conversation and the number of the pass. -/
theorem instanceAt?_determined {config : AgenticConfig} {first second : Nat}
    {one other : ConversationInstance} (firstIs : config.instanceAt? first = some one)
    (secondIs : config.instanceAt? second = some other)
    (sameId : one.sourceId = other.sourceId) (samePass : one.repeatId = other.repeatId) :
    first = second := by
  unfold AgenticConfig.instanceAt? at firstIs secondIs
  dsimp only at firstIs secondIs
  obtain ⟨firstBase, firstFound, rfl⟩ := Option.map_eq_some_iff.mp firstIs
  obtain ⟨secondBase, secondFound, rfl⟩ := Option.map_eq_some_iff.mp secondIs
  have sameId : firstBase.1 = secondBase.1 := sameId
  have positive : 0 < config.metadata.baseConvs.length :=
    List.length_pos_of_mem (List.mem_of_getElem? firstFound)
  have sameBlock : first / config.metadata.baseConvs.length =
      second / config.metadata.baseConvs.length := Nat.succ.inj samePass
  have firstKey : (config.metadata.baseConvs.map Prod.fst)[SampleOrder.drawAt
      config.rngSampleIndex config.metadata.baseConvs.length first]? = some firstBase.1 := by
    rw [List.getElem?_map, firstFound]
    rfl
  have secondKey : (config.metadata.baseConvs.map Prod.fst)[SampleOrder.drawAt
      config.rngSampleIndex config.metadata.baseConvs.length second]? =
        some firstBase.1 := by
    rw [List.getElem?_map, secondFound, sameId]
    rfl
  have inside : SampleOrder.drawAt config.rngSampleIndex config.metadata.baseConvs.length
      first < (config.metadata.baseConvs.map Prod.fst).length := by
    rw [List.length_map]
    exact SampleOrder.drawAt_lt positive config.rngSampleIndex first
  have sameIndex := (List.getElem?_inj inside (baseConvs_nodup config.metadata)).mp
    (firstKey.trans secondKey.symm)
  exact SampleOrder.drawAt_injective_in_block positive config.rngSampleIndex sameBlock
    sameIndex

/-- The conversation of an instance is one of the dataset, and its key is made from it. -/
theorem instanceAt?_base {config : AgenticConfig} {number : Nat}
    {drawn : ConversationInstance} (isDrawn : config.instanceAt? number = some drawn) :
    drawn.logicalId = logicalId drawn.sourceId drawn.repeatId ∧ 1 ≤ drawn.repeatId ∧
      ∃ base ∈ config.metadata.baseConvs, base.1 = drawn.sourceId := by
  obtain ⟨base, found, rfl⟩ := Option.map_eq_some_iff.mp isDrawn
  exact ⟨rfl, Nat.le_add_left 1 _, base, List.mem_of_getElem? found, rfl⟩

/-- No two instances have the same key. -/
theorem instanceAt?_injective {config : AgenticConfig} (plain : config.PlainIds)
    {first second : Nat} {one other : ConversationInstance}
    (firstIs : config.instanceAt? first = some one)
    (secondIs : config.instanceAt? second = some other)
    (same : one.logicalId = other.logicalId) : first = second := by
  obtain ⟨firstKey, -, firstBase, firstMember, firstId⟩ := instanceAt?_base firstIs
  obtain ⟨secondKey, -, secondBase, secondMember, secondId⟩ := instanceAt?_base secondIs
  obtain ⟨sameId, samePass⟩ := logicalId_injective
    (firstId ▸ baseConvs_plain plain firstMember)
    (secondId ▸ baseConvs_plain plain secondMember)
    (firstKey.symm.trans (same.trans secondKey))
  exact instanceAt?_determined firstIs secondIs sameId samePass

end InferenceEndpoint
