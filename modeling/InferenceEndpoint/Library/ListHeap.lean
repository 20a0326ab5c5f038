import Mathlib.Data.List.Basic

/-!
# A heap of mutable lists

Lists that are reached through references: making a list takes a fresh reference, extending one
in place is seen through every copy of its reference and through no other.
-/

/-- The lists by their references. -/
structure ListHeap (Item : Type*) where
  cells : List (List Item) := []

namespace ListHeap

variable {Item : Type*}

abbrev Ref := Nat

/-- The reference points to a list. -/
def Live (heap : ListHeap Item) (ref : Ref) : Prop :=
  ref < heap.cells.length

def read (heap : ListHeap Item) (ref : Ref) : List Item :=
  heap.cells.getD ref []

/-- A new list with these items. -/
def alloc (heap : ListHeap Item) (items : List Item) : Ref × ListHeap Item :=
  (heap.cells.length, ⟨heap.cells ++ [items]⟩)

/-- `extend` of the list in place. -/
def extend (heap : ListHeap Item) (ref : Ref) (items : List Item) : ListHeap Item :=
  ⟨heap.cells.modify ref (· ++ items)⟩

variable {heap : ListHeap Item} {ref other : Ref}

@[simp]
theorem read_alloc_self (heap : ListHeap Item) (items : List Item) :
    (heap.alloc items).2.read (heap.alloc items).1 = items := by
  simp [alloc, read]

theorem Live.ne_alloc (live : heap.Live ref) (items : List Item) : ref ≠ (heap.alloc items).1 :=
  Nat.ne_of_lt live

theorem Live.alloc (live : heap.Live ref) (items : List Item) : (heap.alloc items).2.Live ref := by
  have longer : ref < (heap.cells ++ [items]).length := by
    rw [List.length_append]
    exact Nat.lt_add_right _ live
  exact longer

theorem live_alloc_self (heap : ListHeap Item) (items : List Item) :
    (heap.alloc items).2.Live (heap.alloc items).1 := by
  have inside : heap.cells.length < (heap.cells ++ [items]).length := by simp
  exact inside

/-- Making a list leaves the others alone. -/
theorem Live.read_alloc (live : heap.Live ref) (items : List Item) :
    (heap.alloc items).2.read ref = heap.read ref := by
  have inside : ref < heap.cells.length := live
  simp [ListHeap.alloc, read, List.getD, List.getElem?_append_left inside]

theorem Live.extend (live : heap.Live other) (ref : Ref) (items : List Item) :
    (heap.extend ref items).Live other := by
  have same : other < (heap.cells.modify ref (· ++ items)).length := by
    rw [List.length_modify]
    exact live
  exact same

theorem Live.read_extend_self (live : heap.Live ref) (items : List Item) :
    (heap.extend ref items).read ref = heap.read ref ++ items := by
  have inside : ref < heap.cells.length := live
  simp [ListHeap.extend, read, List.getD, inside]

/-- Extending a list leaves the others alone. -/
theorem read_extend_of_ne (different : other ≠ ref) (items : List Item) :
    (heap.extend ref items).read other = heap.read other := by
  simp [ListHeap.extend, read, List.getD, Ne.symm different]

/-- Extending a list by nothing. -/
@[simp]
theorem extend_nil (heap : ListHeap Item) (ref : Ref) : heap.extend ref [] = heap := by
  have same : heap.cells.modify ref (· ++ []) = heap.cells := by
    apply List.ext_getElem?
    intro index
    rw [List.getElem?_modify]
    cases heap.cells[index]? <;> simp
  rw [ListHeap.extend, same]

/-- Every list keeps its items, and some may have got more at the end. -/
def Grows (heap after : ListHeap Item) : Prop :=
  ∀ ref, heap.read ref <+: after.read ref

theorem Grows.refl (heap : ListHeap Item) : Grows heap heap :=
  fun _ => List.prefix_rfl

theorem Grows.trans {middle after : ListHeap Item} (first : Grows heap middle)
    (second : Grows middle after) : Grows heap after :=
  fun ref => (first ref).trans (second ref)

theorem grows_extend (heap : ListHeap Item) (ref : Ref) (items : List Item) :
    Grows heap (heap.extend ref items) := by
  intro other
  by_cases same : other = ref
  · subst same
    by_cases live : heap.Live other
    · rw [live.read_extend_self]
      exact List.prefix_append _ _
    · have outside : heap.cells.length ≤ other := Nat.le_of_not_lt live
      have empty : heap.read other = [] := by
        simp [read, List.getD, outside]
      rw [empty]
      exact List.nil_prefix
  · have unchanged : (heap.extend ref items).read other = heap.read other :=
      read_extend_of_ne same items
    simp only [unchanged, List.prefix_rfl]

/-- A list that grows from one with more items cannot be as it was before. -/
theorem Grows.items_eq_nil {after : ListHeap Item} (live : heap.Live ref) {items : List Item}
    (grows : Grows (heap.extend ref items) after) (same : after.read ref = heap.read ref) :
    items = [] := by
  have longer := (grows ref).length_le
  rw [live.read_extend_self, same, List.length_append] at longer
  exact List.eq_nil_of_length_eq_zero (by omega)

end ListHeap
