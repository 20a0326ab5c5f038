import Mathlib.Data.List.SplitBy

/-!
# Merging neighbours

A pass over a list that merges every item into the last one kept if the two join, and else
keeps it.  Where merging does not change what an item joins with, the pass merges the runs
of the list, and two passes that merge different items are one pass.
-/

namespace AdjacentMerge

variable {Item : Type*} (joins : Item → Item → Bool) (merge : Item → Item → Item)

def add (merged : List Item) (item : Item) : List Item :=
  match merged.getLast? with
  | some last => if joins last item then merged.dropLast ++ [merge last item] else merged ++ [item]
  | none => [item]

def mergeAdjacent (items : List Item) : List Item :=
  items.foldl (add joins merge) []

/-- All items of a run merged into its first. -/
def mergeRun : List Item → List Item
  | [] => []
  | first :: rest => [rest.foldl merge first]

variable {joins merge}

theorem add_nil (item : Item) : add joins merge [] item = [item] :=
  rfl

theorem add_concat (merged : List Item) (last item : Item) :
    add joins merge (merged ++ [last]) item =
      if joins last item then merged ++ [merge last item] else merged ++ [last, item] := by
  simp [add]

/-- An item that joins with nothing is kept. -/
theorem add_of_apart {item : Item} (merged : List Item)
    (apart : ∀ last, joins last item = false) : add joins merge merged item = merged ++ [item] := by
  cases merged using List.reverseRecOn with
  | nil => rfl
  | append_singleton merged last => simp [add_concat, apart]

theorem mergeAdjacent_concat (items : List Item) (item : Item) :
    mergeAdjacent joins merge (items ++ [item]) =
      add joins merge (mergeAdjacent joins merge items) item := by
  simp [mergeAdjacent]

/-! ## One pass merges the runs -/

theorem splitBy_concat_of_joins {items run : List Item} {last item : Item}
    {runs : List (List Item)}
    (split : (items ++ [last]).splitBy joins = runs ++ [run ++ [last]])
    (joined : joins last item = true) :
    (items ++ [last] ++ [item]).splitBy joins = runs ++ [run ++ [last] ++ [item]] := by
  obtain ⟨flat, nonempty, chains, between⟩ := List.splitBy_eq_iff.mp split
  rw [List.splitBy_eq_iff]
  refine ⟨?_, ?_, ?_, ?_⟩
  · rw [flat]
    simp
  · intro member
    apply nonempty
    simpa using member
  · intro other member
    rcases List.mem_append.mp member with member | member
    · exact chains other (List.mem_append_left _ member)
    · obtain rfl := List.mem_singleton.mp member
      have chain := chains (run ++ [last]) (by simp)
      rw [List.isChain_append]
      refine ⟨chain, by simp, ?_⟩
      intro first firstLast second secondHead
      obtain rfl : last = first := by simpa using firstLast
      obtain rfl : item = second := by simpa using secondHead
      exact joined
  · rw [List.isChain_append] at between ⊢
    refine ⟨between.1, by simp, ?_⟩
    intro first firstLast second secondHead
    obtain rfl : run ++ [last] ++ [item] = second := by simpa using secondHead
    obtain ⟨firstNonempty, _, apart⟩ := between.2.2 first firstLast (run ++ [last]) (by simp)
    refine ⟨firstNonempty, by simp, ?_⟩
    rw [List.head_append_of_ne_nil (by simp)]
    exact apart

theorem splitBy_concat_of_apart {items : List Item} {last item : Item}
    (apart : joins last item = false) :
    (items ++ [last] ++ [item]).splitBy joins = (items ++ [last]).splitBy joins ++ [[item]] := by
  have alone : [item].splitBy joins = [[item]] :=
    List.splitBy_of_isChain (by simp) (by simp)
  rw [List.splitBy_append_cons, alone]
  intro other otherLast
  obtain rfl : last = other := by simpa using otherLast
  exact apart

/-- The last run ends with the last item. -/
theorem exists_last_run (items : List Item) (last : Item) :
    ∃ runs run, (items ++ [last]).splitBy joins = runs ++ [run ++ [last]] := by
  induction items using List.reverseRecOn generalizing last with
  | nil => exact ⟨[], [], List.splitBy_of_isChain (by simp) (by simp)⟩
  | append_singleton items other ih =>
      obtain ⟨runs, run, split⟩ := ih other
      cases joined : joins other last with
      | true => exact ⟨runs, run ++ [other], splitBy_concat_of_joins split joined⟩
      | false => exact ⟨_, [], splitBy_concat_of_apart joined⟩

theorem mergeRun_concat {run : List Item} {merged : Item} (before : mergeRun merge run = [merged])
    (item : Item) : mergeRun merge (run ++ [item]) = [merge merged item] := by
  cases run with
  | nil => simp [mergeRun] at before
  | cons first rest =>
      obtain rfl : rest.foldl merge first = merged := by simpa [mergeRun] using before
      simp [mergeRun]

/-- A merged run joins with what its last item joins with. -/
theorem mergeRun_last (stable : ∀ first second third, joins first second = true →
      joins (merge first second) third = joins second third)
    {run : List Item} {last : Item}
    (chain : (run ++ [last]).IsChain fun first second => joins first second = true) :
    ∃ merged, mergeRun merge (run ++ [last]) = [merged] ∧
      ∀ item, joins merged item = joins last item := by
  induction run using List.reverseRecOn generalizing last with
  | nil => exact ⟨last, by simp [mergeRun], fun item => rfl⟩
  | append_singleton run other ih =>
      obtain ⟨before, -, joined⟩ := List.isChain_append.mp chain
      obtain ⟨merged, mergedRun, same⟩ := ih before
      refine ⟨merge merged last, mergeRun_concat mergedRun last, ?_⟩
      intro item
      apply stable
      rw [same]
      exact joined other (by simp) last (by simp)

theorem mergeAdjacent_eq (stable : ∀ first second third, joins first second = true →
      joins (merge first second) third = joins second third) (items : List Item) :
    mergeAdjacent joins merge items = (items.splitBy joins).flatMap (mergeRun merge) := by
  induction items using List.reverseRecOn with
  | nil => rfl
  | append_singleton items item ih =>
      rw [mergeAdjacent_concat, ih]
      cases items using List.reverseRecOn with
      | nil =>
          have alone : [item].splitBy joins = [[item]] :=
            List.splitBy_of_isChain (by simp) (by simp)
          simp [alone, mergeRun, add_nil]
      | append_singleton items last =>
          obtain ⟨runs, run, split⟩ := @exists_last_run Item joins items last
          have chain : (run ++ [last]).IsChain fun first second => joins first second = true :=
            (List.splitBy_eq_iff.mp split).2.2.1 (run ++ [last]) (by simp)
          obtain ⟨merged, mergedRun, same⟩ := @mergeRun_last Item joins merge stable run last chain
          have before : (runs ++ [run ++ [last]]).flatMap (mergeRun merge) =
              runs.flatMap (mergeRun merge) ++ [merged] := by
            simp [mergedRun]
          rw [split, before, add_concat, same]
          cases joined : joins last item with
          | true =>
              have longer := mergeRun_concat mergedRun item
              rw [splitBy_concat_of_joins split joined, List.flatMap_append]
              simp only [List.flatMap_cons, List.flatMap_nil, List.append_nil, longer, if_true]
          | false =>
              rw [splitBy_concat_of_apart joined, split, List.flatMap_append, before]
              simp [mergeRun]

/-! ## Two passes in one -/

/-- A second pass that joins none of the items that the first pass merges. -/
theorem mergeAdjacent_mergeAdjacent {joins' : Item → Item → Bool} {merge' : Item → Item → Item}
    (apart : ∀ first second, joins first second = true → ∀ item,
      joins' item first = false ∧ joins' item (merge first second) = false)
    (apart' : ∀ first second, joins' first second = true → ∀ item,
      joins second item = joins (merge' first second) item) (items : List Item) :
    mergeAdjacent joins' merge' (mergeAdjacent joins merge items) =
      mergeAdjacent (fun first second => joins first second || joins' first second)
        (fun first second =>
          if joins first second then merge first second else merge' first second) items := by
  induction items using List.reverseRecOn with
  | nil => rfl
  | append_singleton items item ih =>
      rw [mergeAdjacent_concat, mergeAdjacent_concat, ← ih]
      generalize mergeAdjacent joins merge items = once
      cases once using List.reverseRecOn with
      | nil => rfl
      | append_singleton kept last =>
          rw [add_concat]
          cases joined : joins last item with
          | true =>
              have keepsLast := @add_of_apart Item joins' merge' last
                (mergeAdjacent joins' merge' kept) fun other => (apart last item joined other).1
              have keepsMerged := @add_of_apart Item joins' merge' (merge last item)
                (mergeAdjacent joins' merge' kept) fun other => (apart last item joined other).2
              simp only [if_true, mergeAdjacent_concat, keepsLast, keepsMerged, add_concat, joined,
                Bool.true_or]
          | false =>
              have ending : ∃ before latest,
                  mergeAdjacent joins' merge' (kept ++ [last]) = before ++ [latest] ∧
                    joins latest item = false := by
                rw [mergeAdjacent_concat]
                generalize mergeAdjacent joins' merge' kept = twice
                cases twice using List.reverseRecOn with
                | nil => exact ⟨[], last, rfl, joined⟩
                | append_singleton before other =>
                    rw [add_concat]
                    cases joined' : joins' other last with
                    | true => exact ⟨before, _, rfl, (apart' other last joined' item) ▸ joined⟩
                    | false => exact ⟨before ++ [other], last, by simp, joined⟩
              obtain ⟨before, latest, twice, apartLatest⟩ := ending
              have longer : kept ++ [last, item] = kept ++ [last] ++ [item] := by simp
              simp only [Bool.false_eq_true, if_false, longer, mergeAdjacent_concat _ item, twice,
                add_concat, apartLatest, Bool.false_or]

end AdjacentMerge
