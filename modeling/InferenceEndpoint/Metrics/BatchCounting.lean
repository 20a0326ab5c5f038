import InferenceEndpoint.Metrics.Tokenization
import Mathlib.Data.List.Nodup

/-!
# Counting a mixed batch

`count_batch_async` as a sequence of calls that can fail: the texts of a batch are dealt out
to worker processes, each structured input is counted by a call of its own, and the outcomes
are scattered back to the positions of their inputs.
-/

namespace InferenceEndpoint

/-- What answers the counting calls of one batch; `none` is an exception. -/
structure CountingCalls where
  /-- `_worker_encode_lengths` in each worker process. -/
  workers : List (List String → Option (List Nat)) := []
  /-- `_encode_lengths_inproc` on the thread. -/
  inProcess : List String → Option (List Nat)
  /-- `_token_count_message` and `_token_count_prompt` for the input at a position. -/
  structured : Nat → TokenizationInput → Option Nat

namespace CountingCalls

variable (calls : CountingCalls)

/-- `_fan_out`. -/
def fanOut (texts : List String) : Option (List Nat) :=
  let chunks := evenChunks texts calls.workers.length
  let results := (calls.workers.zip chunks).mapM fun shard => shard.1 shard.2
  results.map List.flatten

/-- `_count_texts_async`. -/
def countTexts (live : Bool) (texts : List String) : Option (List Nat) :=
  if texts.isEmpty then some []
  else if !calls.workers.isEmpty && !live then calls.fanOut texts
  else calls.inProcess texts

/-- `_count_indexed_texts_async`. -/
def countIndexedTexts (live : Bool) (indexedTexts : List (Nat × String)) :
    List (Nat × Option Nat) :=
  match calls.countTexts live (indexedTexts.map Prod.snd) with
  | none => indexedTexts.map fun indexed => (indexed.1, none)
  | some counts =>
      if counts.length ≠ indexedTexts.length then
        indexedTexts.map fun indexed => (indexed.1, none)
      else (indexedTexts.zip counts).map fun counted => (counted.1.1, some counted.2)

end CountingCalls

/-- `outcomes[index] = outcome`, one pair after the other. -/
def scatter {Outcome : Type*} (outcomes : List (Option Outcome))
    (entries : List (Nat × Outcome)) : List (Option Outcome) :=
  entries.foldl (fun outcomes entry => outcomes.set entry.1 (some entry.2)) outcomes

def indexedTokenIds? : TokenizationInput × Nat → Option (Nat × Option Nat)
  | (.tokenIds tokenIds, index) => some (index, some tokenIds.length)
  | _ => none

namespace CountingCalls

variable (calls : CountingCalls)

def indexedStructured? : TokenizationInput × Nat → Option (Nat × Option Nat)
  | (.message message, index) => some (index, calls.structured index (.message message))
  | (.prompt prompt, index) => some (index, calls.structured index (.prompt prompt))
  | _ => none

/-- `count_batch_async`; `none` is its assertion that every input has an outcome. -/
def countBatch (live : Bool) (inputs : List TokenizationInput) : Option (List (Option Nat)) :=
  let unset := List.replicate inputs.length none
  let indexedTexts := inputs.zipIdx.filterMap Tokenizer.indexedText?
  let withTokenIds := scatter unset (inputs.zipIdx.filterMap indexedTokenIds?)
  let withTexts := scatter withTokenIds (calls.countIndexedTexts live indexedTexts)
  (scatter withTexts (inputs.zipIdx.filterMap calls.indexedStructured?)).mapM id

end CountingCalls

/-! ## Scattering -/

section Scatter

variable {Outcome : Type*} {outcomes : List (Option Outcome)} {entries : List (Nat × Outcome)}

@[simp]
theorem length_scatter : (scatter outcomes entries).length = outcomes.length := by
  induction entries generalizing outcomes with
  | nil => rfl
  | cons entry entries ih =>
      rw [scatter, List.foldl_cons]
      exact ih.trans List.length_set

theorem getElem?_scatter_of_notMem {index : Nat} (absent : index ∉ entries.map Prod.fst) :
    (scatter outcomes entries)[index]? = outcomes[index]? := by
  induction entries generalizing outcomes with
  | nil => rfl
  | cons entry entries ih =>
      simp only [List.map_cons, List.mem_cons, not_or] at absent
      rw [scatter, List.foldl_cons]
      refine (ih absent.2).trans ?_
      rw [List.getElem?_set_ne (Ne.symm absent.1)]

theorem getElem?_scatter_of_mem {index : Nat} {outcome : Outcome}
    (distinct : (entries.map Prod.fst).Nodup) (member : (index, outcome) ∈ entries)
    (within : index < outcomes.length) :
    (scatter outcomes entries)[index]? = some (some outcome) := by
  induction entries generalizing outcomes with
  | nil => simp at member
  | cons entry entries ih =>
      simp only [List.map_cons, List.nodup_cons] at distinct
      rw [scatter, List.foldl_cons]
      rcases List.mem_cons.mp member with rfl | later
      · refine (getElem?_scatter_of_notMem distinct.1).trans ?_
        rw [List.getElem?_set_self within]
      · apply ih distinct.2 later
        rwa [List.length_set]

end Scatter

/-- Inputs of one kind, with their positions. -/
theorem mem_filterMap_zipIdx {Item Outcome : Type*} {items : List Item}
    {select : Item × Nat → Option Outcome} {outcome : Outcome} :
    outcome ∈ items.zipIdx.filterMap select ↔
      ∃ index item, items[index]? = some item ∧ select (item, index) = some outcome := by
  rw [List.mem_filterMap]
  constructor
  · rintro ⟨⟨item, index⟩, member, selected⟩
    exact ⟨index, item, List.mem_zipIdx_iff_getElem?.mp member, selected⟩
  · rintro ⟨index, item, found, selected⟩
    exact ⟨(item, index), List.mem_zipIdx_iff_getElem?.mpr found, selected⟩

/-- A position is selected at most once. -/
theorem nodup_filterMap_zipIdx {Item Outcome : Type*} (items : List Item)
    {select : Item × Nat → Option (Nat × Outcome)}
    (keeps : ∀ indexed outcome, select indexed = some outcome → outcome.1 = indexed.2) :
    ((items.zipIdx.filterMap select).map Prod.fst).Nodup := by
  have positions : (items.zipIdx.map Prod.snd).Nodup := by
    rw [List.zipIdx_map_snd]
    exact List.nodup_range'
  refine List.Nodup.sublist ?_ positions
  generalize items.zipIdx = indexed
  induction indexed with
  | nil => exact List.Sublist.refl _
  | cons head rest ih =>
      cases selected : select head with
      | none =>
          rw [List.filterMap_cons_none selected, List.map_cons]
          exact ih.cons _
      | some outcome =>
          rw [List.filterMap_cons_some selected, List.map_cons, List.map_cons,
            keeps head outcome selected]
          exact ih.cons_cons _

theorem indexedText?_snd (indexed : TokenizationInput × Nat) (text : Nat × String)
    (selected : Tokenizer.indexedText? indexed = some text) : text.1 = indexed.2 := by
  obtain ⟨input, place⟩ := indexed
  cases input <;> simp [Tokenizer.indexedText?] at selected
  simp [← selected]

/-! ## A batch counts like single inputs -/

namespace CountingCalls

variable {calls : CountingCalls} {tokenizer : Tokenizer}

/-- A call that returns has counted each text on its own, and a structured input as
`count_sync` does. -/
structure CountAlone (calls : CountingCalls) (tokenizer : Tokenizer) : Prop where
  workers : ∀ worker ∈ calls.workers, ∀ texts counts, worker texts = some counts →
    counts = texts.map tokenizer.encodeLength
  inProcess : ∀ texts counts, calls.inProcess texts = some counts →
    counts = texts.map tokenizer.encodeLength
  structured : ∀ index input count, calls.structured index input = some count →
    count = tokenizer.countSync input

theorem CountAlone.structured_eq (alone : calls.CountAlone tokenizer) (index : Nat)
    (input : TokenizationInput) :
    calls.structured index input =
      if (calls.structured index input).isNone then none
      else some (tokenizer.countSync input) := by
  by_cases failed : (calls.structured index input).isNone = true
  · rw [if_pos failed]
    exact Option.isNone_iff_eq_none.mp failed
  · rw [if_neg failed]
    have returned : calls.structured index input ≠ none := by simpa using failed
    obtain ⟨count, counted⟩ := Option.ne_none_iff_exists'.mp returned
    rw [counted, alone.structured _ _ _ counted]

variable (tokenizer) in
theorem flatten_mapM_shards {shards : List ((List String → Option (List Nat)) × List String)}
    (alone : ∀ shard ∈ shards, ∀ counts, shard.1 shard.2 = some counts →
      counts = shard.2.map tokenizer.encodeLength)
    {results : List (List Nat)}
    (returned : (shards.mapM fun shard => shard.1 shard.2) = some results) :
    results.flatten = (shards.map Prod.snd).flatten.map tokenizer.encodeLength := by
  induction shards generalizing results with
  | nil =>
      obtain rfl : [] = results := by simpa using returned
      rfl
  | cons shard shards ih =>
      rw [List.mapM_cons] at returned
      obtain ⟨first, counted, rest⟩ := Option.bind_eq_some_iff.mp returned
      obtain ⟨others, countedOthers, same⟩ := Option.bind_eq_some_iff.mp rest
      obtain rfl : first :: others = results := by simpa using same
      have head := alone shard List.mem_cons_self first counted
      have tail := ih (fun other member => alone other (List.mem_cons_of_mem _ member))
        countedOthers
      rw [List.flatten_cons, List.map_cons, List.flatten_cons, List.map_append, head, tail]

/-- There is a worker for each chunk, so no text is dropped. -/
theorem fanOut_eq (alone : calls.CountAlone tokenizer) (some_ : calls.workers ≠ [])
    {texts : List String} {counts : List Nat} (returned : calls.fanOut texts = some counts) :
    counts = texts.map tokenizer.encodeLength := by
  obtain ⟨results, called, rfl⟩ := Option.map_eq_some_iff.mp returned
  have positive : 0 < calls.workers.length := List.length_pos_iff.mpr some_
  have chunks : (calls.workers.zip (evenChunks texts calls.workers.length)).map Prod.snd =
      evenChunks texts calls.workers.length := by
    apply List.map_snd_zip
    exact length_evenChunks texts positive
  rw [flatten_mapM_shards tokenizer ?_ called, chunks, flatten_evenChunks]
  intro shard member
  exact alone.workers shard.1 (List.of_mem_zip member).1 shard.2

theorem countTexts_eq (alone : calls.CountAlone tokenizer) {live : Bool} {texts : List String}
    {counts : List Nat} (returned : calls.countTexts live texts = some counts) :
    counts = texts.map tokenizer.encodeLength := by
  unfold countTexts at returned
  split at returned
  · rename_i empty
    rw [List.isEmpty_iff.mp empty]
    exact (Option.some.inj returned).symm
  · split at returned
    · rename_i sharded
      refine fanOut_eq alone ?_ returned
      rintro none
      simp [none] at sharded
    · exact alone.inProcess texts counts returned

/-- The counting call of an input raises; token ids need none. -/
def fails (calls : CountingCalls) (live : Bool) (inputs : List TokenizationInput) (index : Nat) :
    TokenizationInput → Bool
  | .tokenIds _ => false
  | .text _ =>
      (calls.countTexts live
        ((inputs.zipIdx.filterMap Tokenizer.indexedText?).map Prod.snd)).isNone
  | .message message => (calls.structured index (.message message)).isNone
  | .prompt prompt => (calls.structured index (.prompt prompt)).isNone

theorem countIndexedTexts_eq (alone : calls.CountAlone tokenizer) (live : Bool)
    (indexedTexts : List (Nat × String)) :
    calls.countIndexedTexts live indexedTexts = indexedTexts.map fun indexed =>
      (indexed.1, if (calls.countTexts live (indexedTexts.map Prod.snd)).isNone then none
        else some (tokenizer.encodeLength indexed.2)) := by
  unfold countIndexedTexts
  cases counted : calls.countTexts live (indexedTexts.map Prod.snd) with
  | none => rfl
  | some counts =>
      obtain rfl := countTexts_eq alone counted
      have paired : indexedTexts.zip ((indexedTexts.map Prod.snd).map tokenizer.encodeLength) =
          indexedTexts.map fun indexed => (indexed, tokenizer.encodeLength indexed.2) := by
        have mapped := @List.zip_map' _ _ _ id (tokenizer.encodeLength ∘ Prod.snd) indexedTexts
        rwa [List.map_id, ← List.map_map] at mapped
      rw [List.map_map] at paired
      simp [paired]

/-- The outcomes at the positions of inputs of one kind. -/
theorem getElem?_scatter_zipIdx {Outcome : Type*} {inputs : List TokenizationInput}
    {outcomes : List (Option Outcome)}
    (select : TokenizationInput × Nat → Option (Nat × Outcome))
    (keeps : ∀ indexed outcome, select indexed = some outcome → outcome.1 = indexed.2)
    (sized : outcomes.length = inputs.length) {index : Nat} {input : TokenizationInput}
    (found : inputs[index]? = some input) :
    (scatter outcomes (inputs.zipIdx.filterMap select))[index]? =
      (select (input, index)).elim outcomes[index]? fun outcome => some (some outcome.2) := by
  cases selected : select (input, index) with
  | none =>
      apply getElem?_scatter_of_notMem
      intro member
      obtain ⟨outcome, among, same⟩ := List.mem_map.mp member
      obtain ⟨place, other, there, chosen⟩ := mem_filterMap_zipIdx.mp among
      obtain rfl : place = index := (keeps _ _ chosen).symm.trans same
      obtain rfl := Option.some.inj (found.symm.trans there)
      rw [selected] at chosen
      cases chosen
  | some outcome =>
      have place : outcome.1 = index := keeps _ _ selected
      apply getElem?_scatter_of_mem (nodup_filterMap_zipIdx inputs keeps)
      · rw [← place]
        exact mem_filterMap_zipIdx.mpr ⟨index, input, found, selected⟩
      · rw [sized]
        exact (List.getElem?_eq_some_iff.mp found).1

/-- The outcomes of the texts, as a selection from the inputs. -/
theorem countIndexedTexts_zipIdx (alone : calls.CountAlone tokenizer) (live : Bool)
    (inputs : List TokenizationInput) :
    calls.countIndexedTexts live (inputs.zipIdx.filterMap Tokenizer.indexedText?) =
      inputs.zipIdx.filterMap fun indexed =>
        (Tokenizer.indexedText? indexed).map fun text =>
          (text.1, if calls.fails live inputs text.1 (.text text.2) then none
            else some (tokenizer.encodeLength text.2)) := by
  rw [countIndexedTexts_eq alone, List.map_filterMap]
  rfl

theorem countBatch_eq (alone : calls.CountAlone tokenizer) (live : Bool)
    (inputs : List TokenizationInput) :
    calls.countBatch live inputs = some (inputs.zipIdx.map fun indexed =>
      if calls.fails live inputs indexed.2 indexed.1 then none
      else some (tokenizer.countSync indexed.1)) := by
  unfold countBatch
  dsimp only
  rw [countIndexedTexts_zipIdx alone]
  generalize filled : scatter _ (inputs.zipIdx.filterMap calls.indexedStructured?) = outcomes
  have all : outcomes = (inputs.zipIdx.map fun indexed =>
      if calls.fails live inputs indexed.2 indexed.1 then none
      else some (tokenizer.countSync indexed.1)).map some := by
    apply List.ext_getElem?
    intro index
    rw [← filled]
    cases found : inputs[index]? with
    | none =>
        have outside := List.getElem?_eq_none_iff.mp found
        rw [List.getElem?_eq_none (by simpa using outside),
          List.getElem?_eq_none (by simpa using outside)]
    | some input =>
        rw [List.getElem?_map, List.getElem?_map, List.getElem?_zipIdx, found, Nat.zero_add,
          getElem?_scatter_zipIdx calls.indexedStructured? ?_ (by simp) found,
          getElem?_scatter_zipIdx _ ?_ (by simp) found,
          getElem?_scatter_zipIdx indexedTokenIds? ?_ (by simp) found]
        · cases input with
          | tokenIds tokenIds => rfl
          | text text => rfl
          | message message =>
              simp only [indexedStructured?, Option.elim_some, fails, Option.map_some]
              exact congrArg some (congrArg some (alone.structured_eq index (.message message)))
          | prompt prompt =>
              simp only [indexedStructured?, Option.elim_some, fails, Option.map_some]
              exact congrArg some (congrArg some (alone.structured_eq index (.prompt prompt)))
        · rintro ⟨input, place⟩ outcome selected
          cases input <;> simp [indexedTokenIds?] at selected
          simp [← selected]
        · intro indexed outcome selected
          obtain ⟨text, there, rfl⟩ := Option.map_eq_some_iff.mp selected
          exact indexedText?_snd indexed text there
        · rintro ⟨input, place⟩ outcome selected
          cases input <;> simp [indexedStructured?] at selected
          · simp [← selected]
          · simp [← selected]
  rw [all, List.mapM_map]
  exact (List.mapM_pure (m := Option) (f := fun outcome => outcome)).trans
    (congrArg some (List.map_id _))

/-- A batch whose calls count each text and each structured input on its own has the counts
of the single inputs, in their order; a call that fails leaves an error for its inputs. -/
theorem batch_counts_one_by_one (alone : calls.CountAlone tokenizer) (live : Bool)
    (inputs : List TokenizationInput) :
    ∃ outcomes, calls.countBatch live inputs = some outcomes ∧
      outcomes.length = inputs.length ∧
      ∀ index input, inputs[index]? = some input → outcomes[index]? =
        some (if calls.fails live inputs index input then none
          else some (tokenizer.countSync input)) := by
  refine ⟨_, countBatch_eq alone live inputs, by simp, ?_⟩
  intro index input found
  simp [found]

/-- Two worker processes for three texts, and a structured input that cannot be counted. -/
def twoWorkers : CountingCalls where
  workers := List.replicate 2 fun texts => some (texts.map String.length)
  inProcess texts := some (texts.map String.length)
  structured _ input :=
    match input with
    | .message message => some message.content.length
    | _ => none

/-- A tokenizer that counts characters. -/
def characters : Tokenizer where
  encodeLength := String.length
  tokenizeLength := String.length
  templateLength message := some (message.elim 0 fun message => message.content.length)
  promptLength _ := 0
  encodeToolCalls _ := ""

def mixedBatch : List TokenizationInput :=
  [.text "ab", .tokenIds [7], .text "c", .message ⟨"abc", none, none⟩, .text "",
    .prompt ⟨[], none, none, none, none⟩]

theorem twoWorkers_countAlone : twoWorkers.CountAlone characters where
  workers worker member texts counts returned := by
    obtain rfl := List.eq_of_mem_replicate member
    exact (Option.some.inj returned).symm
  inProcess texts counts returned := (Option.some.inj returned).symm
  structured index input count returned := by
    cases input with
    | message message =>
        obtain rfl := Option.some.inj returned
        simp [Tokenizer.countSync, Tokenizer.tokenCountMessage, Tokenizer.frame, characters]
    | tokenIds | text | prompt => simp [twoWorkers] at returned

/-- The third text is counted by the second worker, and the prompt is the only failure. -/
theorem batch_counts_one_by_one_mixedBatch :
    ∃ outcomes, twoWorkers.countBatch false mixedBatch = some outcomes ∧
      outcomes[2]? = some (some 1) ∧ outcomes[5]? = some none := by
  obtain ⟨outcomes, counted, -, each⟩ :=
    batch_counts_one_by_one twoWorkers_countAlone false mixedBatch
  exact ⟨outcomes, counted, (each 2 (.text "c") rfl).trans (by decide),
    (each 5 (.prompt ⟨[], none, none, none, none⟩) rfl).trans (by decide)⟩

/-! ## The calls of a batch and its failures -/

theorem lookup_map_of_mem {Item Outcome : Type*} {entries : List (Nat × Item)}
    (outcome : Nat × Item → Outcome) (distinct : (entries.map Prod.fst).Nodup)
    {entry : Nat × Item} (member : entry ∈ entries) :
    (entries.map fun entry => (entry.1, outcome entry)).lookup entry.1 =
      some (outcome entry) := by
  induction entries with
  | nil => simp at member
  | cons head rest ih =>
      simp only [List.map_cons, List.nodup_cons] at distinct
      rcases List.mem_cons.mp member with rfl | later
      · simp
      · have different : entry.1 ≠ head.1 := by
          intro same
          exact distinct.1 (same ▸ List.mem_map_of_mem later)
        rw [List.map_cons, List.lookup_cons, beq_false_of_ne different]
        exact ih distinct.2 later

/-- What the queue is told about a batch is what its calls return. -/
theorem countBatch_eq_tokenizer (alone : calls.CountAlone tokenizer) (live : Bool)
    (inputs : List TokenizationInput) :
    calls.countBatch live inputs = some (tokenizer.countBatch calls.workers.length live
      { texts := calls.fails live inputs 0 (.text "")
        structured := fun index =>
          (calls.structured index (inputs[index]?.getD (.text ""))).isNone }
      inputs) := by
  rw [countBatch_eq alone]
  congr 1
  apply List.map_congr_left
  rintro ⟨input, index⟩ member
  have found : inputs[index]? = some input := List.mem_zipIdx_iff_getElem?.mp member
  cases input with
  | tokenIds tokenIds => rfl
  | message message => simp [Tokenizer.outcomeOf, fails, found, Tokenizer.countSync]
  | prompt prompt => simp [Tokenizer.outcomeOf, fails, found, Tokenizer.countSync]
  | text text =>
      have selected : (index, text) ∈ inputs.zipIdx.filterMap Tokenizer.indexedText? :=
        mem_filterMap_zipIdx.mpr ⟨index, _, found, rfl⟩
      have looked := lookup_map_of_mem (fun indexed : Nat × String =>
          if calls.fails live inputs 0 (.text "") then none
          else some (tokenizer.encodeLength indexed.2))
        (nodup_filterMap_zipIdx inputs indexedText?_snd) selected
      simp only [Tokenizer.outcomeOf, Tokenizer.countIndexedTexts_eq, looked]
      rfl

end CountingCalls

end InferenceEndpoint
