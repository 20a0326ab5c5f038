import Mathlib.Data.List.Nodup
import Mathlib.Data.List.Basic

/-!
# Insertion-ordered dictionaries

A finite map that iterates in the order in which its keys were first
inserted: overwriting a key keeps its position, removing it and inserting it
again moves it to the end.  The entries carry the proof that no key occurs
twice, so lookup, size and iteration can be related without side conditions.
-/

/-- Entries in insertion order, with distinct keys. -/
structure OrderedDict (Key Value : Type*) where
  entries : List (Key × Value)
  nodupKeys : (entries.map Prod.fst).Nodup

namespace OrderedDict

variable {Key Value : Type*}

def empty : OrderedDict Key Value :=
  ⟨[], List.nodup_nil⟩

instance : Inhabited (OrderedDict Key Value) :=
  ⟨empty⟩

instance : EmptyCollection (OrderedDict Key Value) :=
  ⟨empty⟩

def keys (dict : OrderedDict Key Value) : List Key :=
  dict.entries.map Prod.fst

def values (dict : OrderedDict Key Value) : List Value :=
  dict.entries.map Prod.snd

def size (dict : OrderedDict Key Value) : Nat :=
  dict.entries.length

def isEmpty (dict : OrderedDict Key Value) : Bool :=
  dict.entries.isEmpty

@[ext]
theorem ext {first second : OrderedDict Key Value}
    (entriesEq : first.entries = second.entries) : first = second := by
  cases first
  cases second
  congr

theorem nodup_keys (dict : OrderedDict Key Value) : dict.keys.Nodup :=
  dict.nodupKeys

@[simp]
theorem isEmpty_empty : (∅ : OrderedDict Key Value).isEmpty = true :=
  rfl

@[simp]
theorem keys_empty : (∅ : OrderedDict Key Value).keys = [] :=
  rfl

@[simp]
theorem size_empty : (∅ : OrderedDict Key Value).size = 0 :=
  rfl

theorem size_eq_length_keys (dict : OrderedDict Key Value) :
    dict.size = dict.keys.length := by
  simp [size, keys]

variable [DecidableEq Key]

def get? (dict : OrderedDict Key Value) (key : Key) : Option Value :=
  (dict.entries.find? fun entry => entry.1 = key).map Prod.snd

def contains (dict : OrderedDict Key Value) (key : Key) : Bool :=
  (dict.get? key).isSome

/-- Remove a key, if it is there. -/
def erase (dict : OrderedDict Key Value) (key : Key) : OrderedDict Key Value where
  entries := dict.entries.filter fun entry => entry.1 ≠ key
  nodupKeys := dict.nodupKeys.sublist (List.filter_sublist.map Prod.fst)

/-- Overwrite one value in a list of entries, keeping every position. -/
def overwrite (key : Key) (value : Value) (entries : List (Key × Value)) :
    List (Key × Value) :=
  entries.map fun entry => if entry.1 = key then (key, value) else entry

@[simp]
theorem overwrite_keys (key : Key) (value : Value)
    (entries : List (Key × Value)) :
    (overwrite key value entries).map Prod.fst = entries.map Prod.fst := by
  rw [overwrite, List.map_map]
  apply List.map_congr_left
  intro entry _
  by_cases same : entry.1 = key <;> simp [same]

/-- Set the value of a key: in place if the key is there, at the end if not. -/
def insert (dict : OrderedDict Key Value) (key : Key) (value : Value) :
    OrderedDict Key Value where
  entries :=
    if key ∈ dict.keys then overwrite key value dict.entries
    else dict.entries ++ [(key, value)]
  nodupKeys := by
    by_cases present : key ∈ dict.keys
    · simpa [present] using dict.nodupKeys
    · simp only [present, if_false, List.map_append, List.map_cons, List.map_nil]
      exact List.nodup_append.mpr ⟨dict.nodupKeys, by simp, by
        intro first firstMem second secondMem
        simp only [List.mem_singleton] at secondMem
        rintro rfl
        exact present (secondMem ▸ firstMem)⟩

/-! ## Lookup -/

theorem get?_eq_some_iff {dict : OrderedDict Key Value} {key : Key}
    {value : Value} :
    dict.get? key = some value ↔ (key, value) ∈ dict.entries := by
  obtain ⟨entries, nodup⟩ := dict
  simp only [get?]
  induction entries with
  | nil => simp
  | cons entry entries ih =>
      simp only [List.map_cons, List.nodup_cons] at nodup
      by_cases same : entry.1 = key
      · subst same
        have absent : (entry.1, value) ∉ entries := fun member =>
          nodup.1 (List.mem_map.mpr ⟨_, member, rfl⟩)
        simp only [List.find?_cons, decide_true, Option.map_some,
          Option.some.injEq, List.mem_cons, absent, or_false]
        constructor
        · rintro rfl; rfl
        · intro equal; rw [← equal]
      · have entryNe : (key, value) ≠ entry := by
          rintro rfl; exact same rfl
        simpa [List.find?_cons, same, entryNe] using ih nodup.2

theorem get?_isSome_iff {dict : OrderedDict Key Value} {key : Key} :
    (dict.get? key).isSome ↔ key ∈ dict.keys := by
  rw [Option.isSome_iff_exists]
  simp only [get?_eq_some_iff, keys, List.mem_map, Prod.exists, exists_and_right,
    exists_eq_right]

theorem get?_eq_none_iff {dict : OrderedDict Key Value} {key : Key} :
    dict.get? key = none ↔ key ∉ dict.keys := by
  rw [← get?_isSome_iff]
  cases dict.get? key <;> simp

theorem mem_keys_of_get? {dict : OrderedDict Key Value} {key : Key}
    {value : Value} (found : dict.get? key = some value) : key ∈ dict.keys :=
  get?_isSome_iff.mp (by simp [found])

theorem mem_values_iff {dict : OrderedDict Key Value} {value : Value} :
    value ∈ dict.values ↔ ∃ key, dict.get? key = some value := by
  simp only [values, List.mem_map, Prod.exists, get?_eq_some_iff,
    exists_eq_right]

@[simp]
theorem get?_empty (key : Key) :
    (∅ : OrderedDict Key Value).get? key = none :=
  rfl

theorem get?_erase (dict : OrderedDict Key Value) (key other : Key) :
    (dict.erase key).get? other =
      if other = key then none else dict.get? other := by
  by_cases same : other = key
  · subst same
    simp [get?_eq_none_iff, keys, erase]
  · apply Option.ext
    intro value
    simp [get?_eq_some_iff, erase, same]

@[simp]
theorem get?_erase_self (dict : OrderedDict Key Value) (key : Key) :
    (dict.erase key).get? key = none := by
  simp [get?_erase]

theorem get?_erase_of_ne (dict : OrderedDict Key Value) {key other : Key}
    (different : other ≠ key) :
    (dict.erase key).get? other = dict.get? other := by
  simp [get?_erase, different]

theorem get?_foldl_erase (keys : List Key) (dict : OrderedDict Key Value)
    (other : Key) :
    (keys.foldl erase dict).get? other =
      if other ∈ keys then none else dict.get? other := by
  induction keys generalizing dict with
  | nil => simp
  | cons key keys ih =>
      rw [List.foldl_cons, ih, get?_erase]
      by_cases same : other = key <;> simp [same]

theorem get?_insert (dict : OrderedDict Key Value) (key other : Key)
    (value : Value) :
    (dict.insert key value).get? other =
      if other = key then some value else dict.get? other := by
  have found : ∀ candidate,
      (other, candidate) ∈ (dict.insert key value).entries ↔
        if other = key then candidate = value
        else (other, candidate) ∈ dict.entries := by
    intro candidate
    by_cases present : key ∈ dict.keys
    · simp only [insert, present, if_true, overwrite, List.mem_map, Prod.exists]
      by_cases same : other = key
      · subst same
        simp only [if_true]
        constructor
        · rintro ⟨first, second, member, equal⟩
          by_cases firstEq : first = other
          · simp only [firstEq, if_true, Prod.mk.injEq] at equal
            exact equal.2.symm
          · simp only [firstEq, if_false, Prod.mk.injEq, false_and] at equal
        · rintro rfl
          obtain ⟨⟨first, second⟩, member, rfl⟩ := List.mem_map.mp present
          exact ⟨first, second, member, by simp⟩
      · simp only [same, if_false]
        constructor
        · rintro ⟨first, second, member, equal⟩
          by_cases firstEq : first = key
          · simp only [firstEq, if_true, Prod.mk.injEq] at equal
            exact (same equal.1.symm).elim
          · simp only [firstEq, if_false, Prod.mk.injEq] at equal
            obtain ⟨rfl, rfl⟩ := equal
            exact member
        · intro member
          exact ⟨other, candidate, member, by simp [same]⟩
    · simp only [insert, present, if_false, List.mem_append, List.mem_singleton,
        Prod.mk.injEq]
      by_cases same : other = key
      · subst same
        have absent : (other, candidate) ∉ dict.entries := fun member =>
          present (List.mem_map.mpr ⟨_, member, rfl⟩)
        simp [absent]
      · simp [same]
  apply Option.ext
  intro candidate
  by_cases same : other = key
  · simp only [same, if_true] at found ⊢
    rw [get?_eq_some_iff, found candidate]
    simp [eq_comm]
  · simp only [same, if_false] at found ⊢
    rw [get?_eq_some_iff, get?_eq_some_iff, found candidate]

@[simp]
theorem get?_insert_self (dict : OrderedDict Key Value) (key : Key)
    (value : Value) : (dict.insert key value).get? key = some value := by
  simp [get?_insert]

theorem get?_insert_of_ne (dict : OrderedDict Key Value) {key other : Key}
    (value : Value) (different : other ≠ key) :
    (dict.insert key value).get? other = dict.get? other := by
  simp [get?_insert, different]

/-! ## Iteration and size -/

theorem isEmpty_iff {dict : OrderedDict Key Value} :
    dict.isEmpty = true ↔ ∀ key, dict.get? key = none := by
  constructor
  · intro isEmpty key
    have noEntries : dict.entries = [] := List.isEmpty_iff.mp isEmpty
    simp [get?, noEntries]
  · intro absent
    apply List.isEmpty_iff.mpr
    apply List.eq_nil_iff_forall_not_mem.mpr
    rintro ⟨key, value⟩ member
    have found := get?_eq_some_iff.mpr member
    simp [absent key] at found

theorem keys_insert_new {dict : OrderedDict Key Value} {key : Key}
    (absent : dict.get? key = none) (value : Value) :
    (dict.insert key value).keys = dict.keys ++ [key] := by
  have notMem := get?_eq_none_iff.mp absent
  simp [keys, insert] at notMem ⊢
  simp [notMem]

theorem keys_insert_old {dict : OrderedDict Key Value} {key : Key}
    (present : (dict.get? key).isSome) (value : Value) :
    (dict.insert key value).keys = dict.keys := by
  have member := get?_isSome_iff.mp present
  simp only [keys, insert] at member ⊢
  simp [member]

theorem keys_erase (dict : OrderedDict Key Value) (key : Key) :
    (dict.erase key).keys = dict.keys.filter fun other => other ≠ key := by
  simp [keys, erase, List.filter_map, Function.comp_def]

theorem size_erase {dict : OrderedDict Key Value} {key : Key}
    (present : (dict.get? key).isSome) :
    (dict.erase key).size + 1 = dict.size := by
  have member := get?_isSome_iff.mp present
  have erased : (dict.erase key).keys = dict.keys.erase key := by
    rw [keys_erase, dict.nodup_keys.erase_eq_filter]
    apply List.filter_congr
    intro other _
    by_cases same : other = key <;> simp [same]
  rw [size_eq_length_keys, size_eq_length_keys, erased,
    List.length_erase_of_mem member]
  have positive := List.length_pos_of_mem member
  omega

theorem erase_of_absent {dict : OrderedDict Key Value} {key : Key}
    (absent : dict.get? key = none) : dict.erase key = dict := by
  apply ext
  apply List.filter_eq_self.mpr
  rintro ⟨other, value⟩ member
  simp only [ne_eq, decide_eq_true_eq]
  rintro rfl
  have found := get?_eq_some_iff.mpr member
  simp [absent] at found

end OrderedDict
