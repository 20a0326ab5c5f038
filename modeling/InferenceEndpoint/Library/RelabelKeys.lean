import Mathlib.Data.List.Nodup

/-!
# Rows with renamed keys

Lists of keys with values, where every key gets a new name at once.  As long as no two
keys get the same name, a value is found under the new name of its key.
-/

namespace RelabelKeys

variable {Key Value : Type*}

/-- Rename the keys of a row. -/
def relabel (rename : Key → Key) (row : List (Key × Value)) : List (Key × Value) :=
  row.map fun cell => (rename cell.1, cell.2)

theorem relabel_relabel (first second : Key → Key) (row : List (Key × Value)) :
    relabel second (relabel first row) = relabel (second ∘ first) row := by
  simp [relabel]

@[simp]
theorem map_fst_relabel (rename : Key → Key) (row : List (Key × Value)) :
    (relabel rename row).map (·.1) = (row.map (·.1)).map rename := by
  simp [relabel]

theorem relabel_id (row : List (Key × Value)) : relabel id row = row := by
  simp [relabel]

variable [DecidableEq Key] {row : List (Key × Value)}

theorem lookup_cons_same (cell : Key × Value) (row : List (Key × Value)) :
    (cell :: row).lookup cell.1 = some cell.2 := by
  obtain ⟨key, value⟩ := cell
  exact List.lookup_cons_self

theorem lookup_cons_other {key : Key} {cell : Key × Value} (different : key ≠ cell.1)
    (row : List (Key × Value)) : (cell :: row).lookup key = row.lookup key := by
  obtain ⟨first, value⟩ := cell
  have notSame : (key == first) = false := by simpa using different
  simp [List.lookup_cons, notSame]

theorem lookup_eq_none_of_notMem {key : Key} (absent : key ∉ row.map (·.1)) :
    row.lookup key = none := by
  rw [List.lookup_eq_none_iff]
  intro cell member
  have different : key ≠ cell.1 := by
    rintro rfl
    exact absent (List.mem_map_of_mem member)
  simpa using different

/-- A value that is found stands in the row with its key. -/
theorem mem_of_lookup {key : Key} {value : Value} (found : row.lookup key = some value) :
    (key, value) ∈ row := by
  induction row with
  | nil => cases found
  | cons cell row ih =>
      by_cases same : key = cell.1
      · subst same
        rw [lookup_cons_same] at found
        obtain rfl := Option.some_inj.mp found
        exact List.mem_cons_self
      · rw [lookup_cons_other same] at found
        exact List.mem_cons_of_mem cell (ih found)

/-- With different names, a value is found under the new name of its key. -/
theorem lookup_relabel {rename : Key → Key} (distinct : ((row.map (·.1)).map rename).Nodup)
    {key : Key} (member : key ∈ row.map (·.1)) :
    (relabel rename row).lookup (rename key) = row.lookup key := by
  induction row with
  | nil => cases member
  | cons cell row ih =>
      simp only [List.map_cons, List.nodup_cons] at distinct
      obtain ⟨fresh, distinctRest⟩ := distinct
      by_cases same : key = cell.1
      · subst same
        rw [lookup_cons_same]
        exact lookup_cons_same (rename cell.1, cell.2) (relabel rename row)
      · have later : key ∈ row.map (·.1) := (List.mem_cons.mp member).resolve_left same
        have different : rename key ≠ rename cell.1 := by
          intro equal
          exact fresh (equal ▸ List.mem_map_of_mem later)
        rw [lookup_cons_other same, ← ih distinctRest later]
        exact @lookup_cons_other _ _ _ (rename key) (rename cell.1, cell.2) different
          (relabel rename row)

/-! ## Selecting keys -/

/-- The cells of the given keys, key by key. -/
def select (keys : List Key) (row : List (Key × Value)) : List (Key × Value) :=
  keys.flatMap fun key => row.filter (·.1 = key)

theorem lookup_filter_self (row : List (Key × Value)) (key : Key) :
    (row.filter (·.1 = key)).lookup key = row.lookup key := by
  induction row with
  | nil => rfl
  | cons cell row ih =>
      by_cases same : cell.1 = key
      · subst same
        rw [List.filter_cons_of_pos (by simp), lookup_cons_same, lookup_cons_same]
      · rw [List.filter_cons_of_neg (by simpa using same), lookup_cons_other (Ne.symm same), ih]

/-- A selected key has the value that it had. -/
theorem lookup_select {keys : List Key} {key : Key} (member : key ∈ keys) :
    (select keys row).lookup key = row.lookup key := by
  induction keys with
  | nil => cases member
  | cons first keys ih =>
      rw [select, List.flatMap_cons, List.lookup_append]
      by_cases same : key = first
      · subst same
        rw [lookup_filter_self]
        cases found : row.lookup key with
        | some value => rfl
        | none =>
            rw [Option.none_or]
            apply lookup_eq_none_of_notMem
            intro there
            obtain ⟨cell, selected, sameKey⟩ := List.mem_map.mp there
            obtain ⟨_, -, kept⟩ := List.mem_flatMap.mp selected
            have inRow := (List.mem_filter.mp kept).1
            have notFound := List.lookup_eq_none_iff.mp found cell inRow
            simp [← sameKey] at notFound
      · have elsewhere : (row.filter (·.1 = first)).lookup key = none := by
          apply lookup_eq_none_of_notMem
          intro there
          obtain ⟨cell, kept, rfl⟩ := List.mem_map.mp there
          exact same (by simpa using (List.mem_filter.mp kept).2)
        rw [elsewhere, Option.none_or]
        exact ih ((List.mem_cons.mp member).resolve_left same)

theorem map_fst_select (distinct : (row.map (·.1)).Nodup) {keys : List Key}
    (present : ∀ key ∈ keys, key ∈ row.map (·.1)) : (select keys row).map (·.1) = keys := by
  induction keys with
  | nil => rfl
  | cons key keys ih =>
      have one : (row.filter (·.1 = key)).map (·.1) = [key] := by
        have mapped : (row.filter (·.1 = key)).map (·.1) = (row.map (·.1)).filter (· = key) := by
          rw [List.filter_map]
          rfl
        rw [mapped, List.filter_eq,
          List.count_eq_one_of_mem distinct (present key List.mem_cons_self)]
        rfl
      have rest := ih fun other member => present other (List.mem_cons_of_mem _ member)
      rw [select, List.flatMap_cons, List.map_append, one]
      exact congrArg (key :: ·) rest

end RelabelKeys
