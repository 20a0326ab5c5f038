import InferenceEndpoint.Library.OrderedDict
import Mathlib.Data.List.Basic

/-!
# Loops that collect

A loop that may fail and adds some items in each pass, as `mapM` in `Option` with the
lists joined afterwards, and a loop that writes entries into a dictionary.
-/

namespace CollectLoops

variable {Source Item Key : Type*}

/-- The items of a loop that went through, with the passes that added them. -/
theorem mem_flatten_iff {pass : Source → Option (List Item)} {sources : List Source}
    {added : List (List Item)} (collected : sources.mapM pass = some added) (item : Item) :
    item ∈ added.flatten ↔ ∃ source ∈ sources, ∃ items, pass source = some items ∧
      item ∈ items := by
  induction sources generalizing added with
  | nil =>
      obtain rfl : added = [] := by simpa using collected.symm
      simp
  | cons source sources ih =>
      rw [List.mapM_cons] at collected
      cases passed : pass source with
      | none => simp [passed] at collected
      | some items =>
          cases rest : sources.mapM pass with
          | none => simp [passed, rest] at collected
          | some others =>
              obtain rfl : added = items :: others := by
                simpa [passed, rest] using collected.symm
              simp [passed, ih rest]

/-- No pass of a loop that went through failed. -/
theorem pass_of_mem {pass : Source → Option (List Item)} {sources : List Source}
    {added : List (List Item)} (collected : sources.mapM pass = some added) {source : Source}
    (member : source ∈ sources) : ∃ items, pass source = some items := by
  induction sources generalizing added with
  | nil => simp at member
  | cons head sources ih =>
      rw [List.mapM_cons] at collected
      cases passed : pass head with
      | none => simp [passed] at collected
      | some items =>
          cases rest : sources.mapM pass with
          | none => simp [passed, rest] at collected
          | some others =>
              rcases List.mem_cons.mp member with rfl | later
              · exact ⟨items, passed⟩
              · exact ih rest later

/-- A loop whose passes add one item at most keeps the order of its keys. -/
theorem keys_sublist {pass : Source → Option (List Item)} {sourceKey : Source → Key}
    {itemKey : Item → Key}
    (single : ∀ source items, pass source = some items →
      (items.map itemKey).Sublist [sourceKey source])
    {sources : List Source} {added : List (List Item)}
    (collected : sources.mapM pass = some added) :
    (added.flatten.map itemKey).Sublist (sources.map sourceKey) := by
  induction sources generalizing added with
  | nil =>
      obtain rfl : added = [] := by simpa using collected.symm
      simp
  | cons source sources ih =>
      rw [List.mapM_cons] at collected
      cases passed : pass source with
      | none => simp [passed] at collected
      | some items =>
          cases rest : sources.mapM pass with
          | none => simp [passed, rest] at collected
          | some others =>
              obtain rfl : added = items :: others := by
                simpa [passed, rest] using collected.symm
              rw [List.flatten_cons, List.map_append, List.map_cons]
              exact (single source items passed).append (ih rest)

variable {Value : Type*} [DecidableEq Key]

/-- Entries with distinct keys, written one after the other. -/
theorem get?_writeAll (entries : List (Key × Value)) (distinct : (entries.map Prod.fst).Nodup)
    (dict : OrderedDict Key Value) (key : Key) (value : Value) :
    (entries.foldl (fun dict entry => dict.insert entry.1 entry.2) dict).get? key = some value ↔
      (key, value) ∈ entries ∨
        (key ∉ entries.map Prod.fst ∧ dict.get? key = some value) := by
  induction entries generalizing dict with
  | nil => simp
  | cons entry entries ih =>
      rw [List.map_cons, List.nodup_cons] at distinct
      rw [List.foldl_cons, ih distinct.2, OrderedDict.get?_insert]
      obtain ⟨first, content⟩ := entry
      by_cases same : key = first
      · subst same
        have absent : (key, value) ∉ entries := fun member =>
          distinct.1 (List.mem_map.mpr ⟨_, member, rfl⟩)
        simp [absent, distinct.1, eq_comm]
      · simp [same]

end CollectLoops
