import InferenceEndpoint.Core.Types
import Mathlib.Data.List.Induction
import Mathlib.Data.List.Sort

/-!
# Merged tool calls

The fragments of several calls may follow one another in any order: each call collects the
fragments of its own index, and the calls come out by their index.
-/

namespace InferenceEndpoint

namespace ToolCallMerge

/-- The loop of `merge_tool_calls`. -/
def merge (fragments : List ToolCallPartial) : List (Nat × ToolCall) :=
  fragments.foldl (fun merged fragment => mergePartial fragment merged) []

/-- What the fragments of one index add up to. -/
def assembled (fragments : List ToolCallPartial) (index : Nat) : ToolCall :=
  (fragments.filter fun fragment => fragment.index = index).foldl ToolCall.extend {}

/-! ## One fragment -/

theorem mem_keys_mergePartial (fragment : ToolCallPartial) (merged : List (Nat × ToolCall))
    (index : Nat) :
    index ∈ (mergePartial fragment merged).map Prod.fst ↔
      index = fragment.index ∨ index ∈ merged.map Prod.fst := by
  induction merged with
  | nil => simp [mergePartial]
  | cons entry merged ih =>
      obtain ⟨key, call⟩ := entry
      rw [mergePartial]
      split
      · next same => simp [same]
      · split
        · simp
        · rw [List.map_cons, List.mem_cons, ih, List.map_cons, List.mem_cons]
          exact or_left_comm

theorem sorted_mergePartial (fragment : ToolCallPartial) {merged : List (Nat × ToolCall)}
    (sorted : (merged.map Prod.fst).Pairwise (· < ·)) :
    ((mergePartial fragment merged).map Prod.fst).Pairwise (· < ·) := by
  induction merged with
  | nil => simp [mergePartial]
  | cons entry merged ih =>
      obtain ⟨key, call⟩ := entry
      obtain ⟨first, rest⟩ := List.pairwise_cons.mp sorted
      rw [mergePartial]
      split
      · exact sorted
      · next other =>
          split
          · next before =>
              apply List.pairwise_cons.mpr
              refine ⟨?_, sorted⟩
              intro later member
              rcases List.mem_cons.mp member with same | inRest
              · exact same ▸ before
              · exact before.trans (first later inRest)
          · next after =>
              apply List.pairwise_cons.mpr
              refine ⟨?_, ih rest⟩
              intro later member
              rcases (mem_keys_mergePartial fragment merged later).mp member with same | inRest
              · omega
              · exact first later inRest

theorem lookup_of_before {merged : List (Nat × ToolCall)} {index : Nat}
    (before : ∀ key ∈ merged.map Prod.fst, index < key) : merged.lookup index = none := by
  rw [List.lookup_eq_none_iff]
  intro entry member
  have later := before entry.1 (List.mem_map_of_mem member)
  exact bne_iff_ne.mpr later.ne

theorem lookup_mergePartial (fragment : ToolCallPartial) {merged : List (Nat × ToolCall)}
    (sorted : (merged.map Prod.fst).Pairwise (· < ·)) (index : Nat) :
    ((mergePartial fragment merged).lookup index).getD {} =
      if fragment.index = index then ((merged.lookup index).getD {}).extend fragment
      else (merged.lookup index).getD {} := by
  induction merged with
  | nil =>
      by_cases here : fragment.index = index
      · simp [mergePartial, here]
      · simp [mergePartial, List.lookup_cons, here, beq_false_of_ne (Ne.symm here)]
  | cons entry merged ih =>
      obtain ⟨key, call⟩ := entry
      obtain ⟨first, rest⟩ := List.pairwise_cons.mp sorted
      rw [mergePartial]
      split
      · next same =>
          by_cases here : fragment.index = index
          · simp [← same, here]
          · simp [List.lookup_cons, ← same, here, beq_false_of_ne (Ne.symm here)]
      · next other =>
          split
          · next before =>
              by_cases here : fragment.index = index
              · have absent : ((key, call) :: merged).lookup index = none := by
                  apply lookup_of_before
                  intro later member
                  rcases List.mem_cons.mp member with same | inRest
                  · rw [same, ← here]
                    exact before
                  · have := first later inRest
                    omega
                rw [absent, if_pos here]
                simp [here]
              · rw [if_neg here, List.lookup_cons, beq_false_of_ne (Ne.symm here)]
          · by_cases atKey : index = key
            · have here : fragment.index ≠ index := fun same => other (same.trans atKey)
              simp [atKey, other]
            · simp only [List.lookup_cons, beq_false_of_ne atKey]
              exact ih rest

/-! ## All fragments -/

theorem merge_append (fragments : List ToolCallPartial) (fragment : ToolCallPartial) :
    merge (fragments ++ [fragment]) = mergePartial fragment (merge fragments) :=
  List.foldl_append

theorem sorted_merge (fragments : List ToolCallPartial) :
    ((merge fragments).map Prod.fst).Pairwise (· < ·) := by
  induction fragments using List.reverseRecOn with
  | nil => exact List.Pairwise.nil
  | append_singleton fragments fragment ih =>
      rw [merge_append]
      exact sorted_mergePartial fragment ih

theorem mem_keys_merge (fragments : List ToolCallPartial) (index : Nat) :
    index ∈ (merge fragments).map Prod.fst ↔ ∃ fragment ∈ fragments, fragment.index = index := by
  induction fragments using List.reverseRecOn with
  | nil => simp [merge]
  | append_singleton fragments fragment ih =>
      rw [merge_append, mem_keys_mergePartial, ih]
      simp only [List.mem_append, List.mem_singleton, or_and_right, exists_or, exists_eq_left]
      rw [or_comm, eq_comm]

theorem lookup_merge (fragments : List ToolCallPartial) (index : Nat) :
    ((merge fragments).lookup index).getD {} = assembled fragments index := by
  induction fragments using List.reverseRecOn with
  | nil => rfl
  | append_singleton fragments fragment ih =>
      rw [merge_append, lookup_mergePartial fragment (sorted_merge fragments), ih]
      by_cases here : fragment.index = index <;> simp [assembled, here]

/-- Entries under different keys are found again. -/
theorem map_lookup_keys {entries : List (Nat × ToolCall)}
    (sorted : (entries.map Prod.fst).Pairwise (· < ·)) :
    (entries.map Prod.fst).map (fun key => (entries.lookup key).getD {}) =
      entries.map Prod.snd := by
  induction entries with
  | nil => rfl
  | cons entry entries ih =>
      obtain ⟨key, call⟩ := entry
      obtain ⟨first, rest⟩ := List.pairwise_cons.mp sorted
      rw [List.map_cons, List.map_cons, List.map_cons, ← ih rest]
      congr 1
      · simp
      · apply List.map_congr_left
        intro later member
        have after : later ≠ key := (first later member).ne'
        rw [List.lookup_cons, beq_false_of_ne after]

/-- The merged calls are those of the given indices, if these are the indices of the
fragments in increasing order. -/
theorem calls_merge {fragments : List ToolCallPartial} {indices : List Nat}
    (increasing : indices.Pairwise (· < ·))
    (own : ∀ index, index ∈ indices ↔ ∃ fragment ∈ fragments, fragment.index = index) :
    (merge fragments).map Prod.snd = indices.map (assembled fragments) := by
  have keys : (merge fragments).map Prod.fst = indices := by
    apply (sorted_merge fragments).eq_of_mem_iff increasing
    intro index
    rw [mem_keys_merge, own]
  rw [← map_lookup_keys (sorted_merge fragments), keys]
  apply List.map_congr_left
  intro index _
  exact lookup_merge fragments index

/-! ## The fragments of one call -/

theorem arguments_extend (fragments : List ToolCallPartial) (call : ToolCall) :
    (fragments.foldl ToolCall.extend call).arguments =
      call.arguments ++ joinStrings (fragments.map fun fragment => fragment.arguments.getD "") := by
  induction fragments generalizing call with
  | nil => simp [joinStrings]
  | cons fragment fragments ih =>
      rw [List.foldl_cons, ih, List.map_cons, joinStrings, ToolCall.extend, String.append_assoc]

theorem name_extend (fragments : List ToolCallPartial) (call : ToolCall) :
    (fragments.foldl ToolCall.extend call).name =
      (fragments.filterMap fun fragment => nonEmptyText fragment.name).getLast?.or call.name := by
  induction fragments generalizing call with
  | nil => rfl
  | cons fragment fragments ih =>
      rw [List.foldl_cons, ih]
      cases given : nonEmptyText fragment.name with
      | none => simp [ToolCall.extend, given]
      | some name =>
          have isFirst : ((fragment :: fragments).filterMap fun fragment =>
              nonEmptyText fragment.name) =
                name :: fragments.filterMap fun fragment => nonEmptyText fragment.name := by
            simp [given]
          rw [isFirst, List.getLast?_cons, ToolCall.extend, given]
          cases (fragments.filterMap fun fragment => nonEmptyText fragment.name).getLast? <;> rfl

/-! ## Grouping -/

theorem mergeToolCalls_streamed {chunks : List (List ToolCallPartial)} (nonempty : chunks ≠ []) :
    mergeToolCalls (some (.streamed chunks)) = some ((merge chunks.flatten).map Prod.snd) := by
  simp [mergeToolCalls, nonempty, merge]

theorem arguments_assembled (fragments : List ToolCallPartial) (index : Nat) :
    (assembled fragments index).arguments =
      joinStrings ((fragments.filter fun fragment => fragment.index = index).map
        fun fragment => fragment.arguments.getD "") := by
  rw [assembled, arguments_extend, String.empty_append]

/-- One call for each index of the fragments, in the order of the indices. -/
structure Merged (fragments : List ToolCallPartial) (indices : List Nat)
    (calls : List ToolCall) : Prop where
  increasing : indices.Pairwise (· < ·)
  own : ∀ index, index ∈ indices ↔ ∃ fragment ∈ fragments, fragment.index = index
  assembled : calls = indices.map (assembled fragments)
  arguments : calls.map ToolCall.arguments = indices.map fun index =>
    joinStrings ((fragments.filter fun fragment => fragment.index = index).map
      fun fragment => fragment.arguments.getD "")

theorem merged_merge (fragments : List ToolCallPartial) :
    Merged fragments ((merge fragments).map Prod.fst) ((merge fragments).map Prod.snd) := by
  have calls := calls_merge (sorted_merge fragments) (mem_keys_merge fragments)
  refine ⟨sorted_merge fragments, mem_keys_merge fragments, calls, ?_⟩
  rw [calls, List.map_map]
  apply List.map_congr_left
  intro index _
  exact arguments_assembled fragments index

/-- However the fragments are grouped into chunks, the merged calls are the same. -/
theorem mergeToolCalls_grouping (chunks : List (List ToolCallPartial)) (nonempty : chunks ≠ []) :
    ∃ indices calls, Merged chunks.flatten indices calls ∧
      mergeToolCalls (some (.streamed chunks)) = some calls ∧
      ∀ others ≠ [], others.flatten = chunks.flatten →
        mergeToolCalls (some (.streamed others)) = some calls := by
  refine ⟨_, _, merged_merge chunks.flatten, mergeToolCalls_streamed nonempty, ?_⟩
  intro others nonempty' same
  rw [mergeToolCalls_streamed nonempty', same]

theorem mergeToolCalls_grouping_interleaved :
    ∃ indices calls, Merged
        [{ index := 1, arguments := "x" }, { index := 0, arguments := "y" },
          { index := 1, arguments := "z" }] indices calls ∧
      mergeToolCalls (some (.streamed
        [[{ index := 1, arguments := "x" }, { index := 0, arguments := "y" }],
          [{ index := 1, arguments := "z" }]])) = some calls ∧
      ∀ others ≠ [], others.flatten =
          [{ index := 1, arguments := "x" }, { index := 0, arguments := "y" },
            { index := 1, arguments := "z" }] →
        mergeToolCalls (some (.streamed others)) = some calls :=
  mergeToolCalls_grouping
    [[{ index := 1, arguments := "x" }, { index := 0, arguments := "y" }],
      [{ index := 1, arguments := "z" }]] (List.cons_ne_nil _ _)

/-- No chunk at all gives none, and a chunk without fragments no call. -/
theorem empty_chunk_differs :
    ¬ ∀ chunks others : List (List ToolCallPartial), chunks.flatten = others.flatten →
      mergeToolCalls (some (.streamed chunks)) = mergeToolCalls (some (.streamed others)) := by
  intro same
  have differ : mergeToolCalls (some (.streamed [])) ≠ mergeToolCalls (some (.streamed [[]])) := by
    decide
  exact differ (same [] [[]] rfl)

end ToolCallMerge

end InferenceEndpoint
