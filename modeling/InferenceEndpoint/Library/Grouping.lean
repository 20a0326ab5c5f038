import InferenceEndpoint.Library.OrderedDict
import Mathlib.Algebra.BigOperators.Group.Finset.Basic
import Mathlib.Algebra.Order.Ring.Nat
import Mathlib.Data.List.Dedup

/-!
# Grouping pairs by key

A dictionary of lists that starts every key with an empty list, and the groups of a list of
pairs: the values of each key in their order, with the keys in the order of their first pair.
-/

namespace OrderedDict

variable {Key Value : Type*} [DecidableEq Key]

/-- `dict[key].append(value)`, where a key that is not there stands for an empty list. -/
def append (dict : OrderedDict Key (List Value)) (pair : Key × Value) :
    OrderedDict Key (List Value) :=
  dict.insert pair.1 ((dict.get? pair.1).getD [] ++ [pair.2])

def group (pairs : List (Key × Value)) : OrderedDict Key (List Value) :=
  pairs.foldl append ∅

/-- The values of one key. -/
def valuesOf (pairs : List (Key × Value)) (key : Key) : List Value :=
  (pairs.filter fun pair => pair.1 = key).map Prod.snd

theorem length_valuesOf (pairs : List (Key × Value)) (key : Key) :
    (valuesOf pairs key).length = (pairs.map Prod.fst).count key := by
  rw [valuesOf, List.length_map, ← List.countP_eq_length_filter, List.count, List.countP_map]
  apply List.countP_congr
  intro pair _
  simp

theorem valuesOf_ne_nil {pairs : List (Key × Value)} {key : Key} :
    valuesOf pairs key ≠ [] ↔ key ∈ pairs.map Prod.fst := by
  rw [← List.length_pos_iff, length_valuesOf, List.count_pos_iff]

theorem get?_append (dict : OrderedDict Key (List Value)) (pair : Key × Value) (key : Key) :
    ((dict.append pair).get? key).getD [] =
      (dict.get? key).getD [] ++ if pair.1 = key then [pair.2] else [] := by
  rw [append, get?_insert]
  by_cases same : key = pair.1
  · simp [same]
  · simp [same, Ne.symm same]

theorem mem_keys_append (dict : OrderedDict Key (List Value)) (pair : Key × Value) (key : Key) :
    key ∈ (dict.append pair).keys ↔ key ∈ dict.keys ∨ key = pair.1 := by
  rw [← get?_isSome_iff, ← get?_isSome_iff, append, get?_insert]
  by_cases same : key = pair.1 <;> simp [same]

theorem get?_group (pairs : List (Key × Value)) (key : Key) :
    ((group pairs).get? key).getD [] = valuesOf pairs key := by
  induction pairs using List.reverseRecOn with
  | nil => rfl
  | append_singleton pairs pair ih =>
      have last : group (pairs ++ [pair]) = (group pairs).append pair := by simp [group]
      rw [last, get?_append, ih]
      by_cases same : pair.1 = key <;> simp [valuesOf, same]

theorem mem_keys_group (pairs : List (Key × Value)) (key : Key) :
    key ∈ (group pairs).keys ↔ key ∈ pairs.map Prod.fst := by
  induction pairs using List.reverseRecOn with
  | nil => simp [group]
  | append_singleton pairs pair ih =>
      have last : group (pairs ++ [pair]) = (group pairs).append pair := by simp [group]
      rw [last, mem_keys_append, ih]
      simp

/-- Each group has a key that occurs and all values of that key. -/
theorem mem_group {pairs : List (Key × Value)} {key : Key} {values : List Value} :
    (key, values) ∈ (group pairs).entries ↔
      key ∈ pairs.map Prod.fst ∧ values = valuesOf pairs key := by
  rw [← get?_eq_some_iff, ← mem_keys_group, ← get?_isSome_iff, ← get?_group]
  cases (group pairs).get? key with
  | none => simp
  | some found => simp [eq_comm]

/-- A group has as many values as its key has occurrences. -/
theorem sizes_group (pairs : List (Key × Value)) :
    (group pairs).values.map List.length =
      (group pairs).keys.map fun key => (pairs.map Prod.fst).count key := by
  rw [values, keys, List.map_map, List.map_map]
  apply List.map_congr_left
  rintro ⟨key, values⟩ member
  obtain ⟨-, rfl⟩ := mem_group.mp member
  exact length_valuesOf pairs key

/-! ## The order of the keys -/

theorem values_insert_new {dict : OrderedDict Key Value} {key : Key} (absent : key ∉ dict.keys)
    (value : Value) : (dict.insert key value).values = dict.values ++ [value] := by
  simp [values, insert, absent]

theorem values_foldl_insert {blocks : List (Key × Value)} (dict : OrderedDict Key Value)
    (distinct : (blocks.map Prod.fst).Nodup)
    (fresh : ∀ key ∈ blocks.map Prod.fst, key ∉ dict.keys) :
    (blocks.foldl (fun dict block => dict.insert block.1 block.2) dict).values =
      dict.values ++ blocks.map Prod.snd := by
  induction blocks generalizing dict with
  | nil => simp
  | cons block blocks ih =>
      rw [List.map_cons, List.nodup_cons] at distinct
      rw [List.map_cons, List.forall_mem_cons] at fresh
      have later : ∀ key ∈ blocks.map Prod.fst,
          key ∉ (dict.insert block.1 block.2).keys := by
        intro key member
        rw [keys_insert_new (get?_eq_none_iff.mpr fresh.1), List.mem_append,
          List.mem_singleton]
        rintro (before | rfl)
        · exact fresh.2 key member before
        · exact distinct.1 member
      rw [List.foldl_cons, ih _ distinct.2 later, values_insert_new fresh.1, List.append_assoc]
      rfl

/-- The different keys in the order of their first occurrence. -/
def firsts (keys : List Key) : List Key :=
  keys.foldl (fun found key => if key ∈ found then found else found ++ [key]) []

theorem firsts_append_singleton (keys : List Key) (key : Key) :
    firsts (keys ++ [key]) = if key ∈ firsts keys then firsts keys else firsts keys ++ [key] := by
  rw [firsts, List.foldl_append]
  rfl

theorem keys_group (pairs : List (Key × Value)) :
    (group pairs).keys = firsts (pairs.map Prod.fst) := by
  induction pairs using List.reverseRecOn with
  | nil => rfl
  | append_singleton pairs pair ih =>
      have last : group (pairs ++ [pair]) = (group pairs).append pair := by simp [group]
      rw [last, List.map_append, List.map_singleton, firsts_append_singleton, ← ih, append]
      split
      · rename_i there
        exact keys_insert_old (get?_isSome_iff.mpr there) _
      · rename_i absent
        exact keys_insert_new (get?_eq_none_iff.mpr absent) _

/-- A run of a new key adds the key once. -/
theorem firsts_append_replicate {keys : List Key} {key : Key} (new : key ∉ firsts keys)
    (count : Nat) : firsts (keys ++ List.replicate (count + 1) key) = firsts keys ++ [key] := by
  induction count with
  | zero => rw [List.replicate_one, firsts_append_singleton, if_neg new]
  | succ count ih =>
      rw [List.replicate_succ', ← List.append_assoc, firsts_append_singleton, ih,
        if_pos (List.mem_append_right _ (List.mem_singleton_self key))]

/-- Runs of different keys, one after the other. -/
theorem firsts_blocks {blocks : List (Key × Nat)} (distinct : (blocks.map Prod.fst).Nodup)
    (positive : ∀ block ∈ blocks, 0 < block.2) :
    firsts (blocks.flatMap fun block => List.replicate block.2 block.1) =
      blocks.map Prod.fst := by
  induction blocks using List.reverseRecOn with
  | nil => rfl
  | append_singleton blocks block ih =>
      rw [List.map_append, List.nodup_append] at distinct
      have before := ih distinct.1 fun other member =>
        positive other (List.mem_append_left _ member)
      have new : block.1 ∉ firsts (blocks.flatMap fun block =>
          List.replicate block.2 block.1) := by
        rw [before]
        exact fun member => distinct.2.2 _ member _ (List.mem_singleton_self _) rfl
      obtain ⟨count, size⟩ := Nat.exists_eq_add_of_lt
        (positive block (List.mem_append_right _ (List.mem_singleton_self _)))
      rw [Nat.zero_add] at size
      rw [List.flatMap_append, List.flatMap_singleton, size, firsts_append_replicate new, before,
        List.map_append]
      rfl

theorem count_blocks {blocks : List (Key × Nat)} (distinct : (blocks.map Prod.fst).Nodup)
    {block : Key × Nat} (member : block ∈ blocks) :
    (blocks.flatMap fun block => List.replicate block.2 block.1).count block.1 = block.2 := by
  induction blocks with
  | nil => cases member
  | cons first others ih =>
      rw [List.map_cons, List.nodup_cons] at distinct
      rw [List.flatMap_cons, List.count_append, List.count_replicate]
      rcases List.mem_cons.mp member with rfl | later
      · have elsewhere : block.1 ∉ others.flatMap fun block =>
            List.replicate block.2 block.1 := by
          intro inside
          obtain ⟨other, there, same⟩ := List.mem_flatMap.mp inside
          rw [List.eq_of_mem_replicate same] at distinct
          exact distinct.1 (List.mem_map_of_mem there)
        rw [List.count_eq_zero_of_not_mem elsewhere]
        simp
      · have different : first.1 ≠ block.1 := by
          intro same
          exact distinct.1 (same ▸ List.mem_map_of_mem later)
        rw [ih distinct.2 later]
        simp [different]

/-- The pairs under each of some keys, key by key. -/
theorem flatMap_filter_perm {keys : List Key} (distinct : keys.Nodup)
    (pairs : List (Key × Value)) :
    (keys.flatMap fun key => pairs.filter fun pair => pair.1 = key).Perm
      (pairs.filter fun pair => pair.1 ∈ keys) := by
  induction keys with
  | nil => simp
  | cons key keys ih =>
      obtain ⟨fresh, rest⟩ := List.nodup_cons.mp distinct
      have here : (pairs.filter fun pair => decide (pair.1 ∈ key :: keys)).filter
          (fun pair => decide (pair.1 = key)) = pairs.filter fun pair => decide (pair.1 = key) := by
        rw [List.filter_filter]
        apply List.filter_congr
        intro pair _
        by_cases same : pair.1 = key <;> simp [same]
      have there : (pairs.filter fun pair => decide (pair.1 ∈ key :: keys)).filter
          (fun pair => !decide (pair.1 = key)) =
            pairs.filter fun pair => decide (pair.1 ∈ keys) := by
        rw [List.filter_filter]
        apply List.filter_congr
        intro pair _
        by_cases same : pair.1 = key
        · simp [same, fresh]
        · simp [same]
      have both := List.filter_append_perm (fun pair : Key × Value => decide (pair.1 = key))
        (pairs.filter fun pair => decide (pair.1 ∈ key :: keys))
      rw [here, there] at both
      rw [List.flatMap_cons]
      exact ((ih rest).append_left _).trans both

/-- The groups hold the pairs. -/
theorem entries_group_perm (pairs : List (Key × Value)) :
    ((group pairs).entries.flatMap fun entry => entry.2.map fun value => (entry.1, value)).Perm
      pairs := by
  have byKey : ((group pairs).entries.flatMap fun entry =>
      entry.2.map fun value => (entry.1, value)) =
        (group pairs).keys.flatMap fun key => pairs.filter fun pair => pair.1 = key := by
    rw [keys, List.flatMap_map]
    apply List.flatMap_congr
    rintro ⟨key, values⟩ member
    obtain ⟨-, rfl⟩ := mem_group.mp member
    rw [valuesOf, List.map_map]
    refine (List.map_congr_left fun pair inside => ?_).trans (List.map_id _)
    have same : pair.1 = key := by simpa using (List.mem_filter.mp inside).2
    exact Prod.ext same.symm rfl
  rw [byKey]
  refine (flatMap_filter_perm (group pairs).nodup_keys pairs).trans (List.Perm.of_eq ?_)
  apply List.filter_eq_self.mpr
  intro pair member
  exact decide_eq_true ((mem_keys_group pairs pair.1).mpr (List.mem_map_of_mem member))

theorem group_eq_empty {pairs : List (Key × Value)} :
    (group pairs).entries = [] ↔ pairs = [] := by
  constructor
  · intro noGroups
    cases pairs with
    | nil => rfl
    | cons pair pairs =>
        have member := (mem_keys_group (pair :: pairs) pair.1).mpr (by simp)
        simp [keys, noGroups] at member
  · rintro rfl
    rfl

end OrderedDict
