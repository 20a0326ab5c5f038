import InferenceEndpoint.Library.OrderedDict

/-!
# Gathering into slots

A dictionary holds a list of slots for each key.  Items that arrive in any order write their
values into their own slots: the lists keep their lengths, and what a slot holds at the end
does not depend on the order.
-/

namespace SlotGathering

variable {Key Value Item : Type*} [DecidableEq Key]

/-- Write one slot; without the key there is no slot. -/
def setSlot (dict : OrderedDict Key (List Value)) (slot : Key × Nat) (value : Value) :
    OrderedDict Key (List Value) :=
  match dict.get? slot.1 with
  | some values => dict.insert slot.1 (values.set slot.2 value)
  | none => dict

def slot? (dict : OrderedDict Key (List Value)) (slot : Key × Nat) : Option Value :=
  (dict.get? slot.1).bind fun values => values[slot.2]?

/-- Write the slots of the items, one after the other. -/
def gather (slot : Item → Key × Nat) (value : Item → Value)
    (dict : OrderedDict Key (List Value)) (items : List Item) : OrderedDict Key (List Value) :=
  items.foldl (fun dict item => setSlot dict (slot item) (value item)) dict

theorem get?_setSlot (dict : OrderedDict Key (List Value)) (slot : Key × Nat) (value : Value)
    (key : Key) :
    (setSlot dict slot value).get? key =
      (dict.get? key).map fun values =>
        if key = slot.1 then values.set slot.2 value else values := by
  unfold setSlot
  cases found : dict.get? slot.1 with
  | none =>
      by_cases same : key = slot.1
      · rw [same, found]
        rfl
      · simp [same]
  | some values =>
      by_cases same : key = slot.1
      · simp [same, found]
      · simp [OrderedDict.get?_insert_of_ne dict _ same, same]

theorem slot?_setSlot (dict : OrderedDict Key (List Value)) (slot other : Key × Nat)
    (value : Value) :
    slot? (setSlot dict slot value) other =
      (slot? dict other).map fun old => if other = slot then value else old := by
  obtain ⟨key, index⟩ := other
  obtain ⟨slotKey, slotIndex⟩ := slot
  rw [slot?, get?_setSlot, slot?]
  cases found : dict.get? key with
  | none => rfl
  | some values =>
      by_cases sameKey : key = slotKey
      · subst sameKey
        by_cases sameIndex : index = slotIndex
        · subst sameIndex
          by_cases within : index < values.length
          · simp [within]
          · simp [within]
        · have apart : slotIndex ≠ index := Ne.symm sameIndex
          simp [apart, sameIndex]
      · simp [sameKey]

/-- The lists keep their lengths. -/
theorem length_gather (slot : Item → Key × Nat) (value : Item → Value)
    (dict : OrderedDict Key (List Value)) (items : List Item) (key : Key) :
    ((gather slot value dict items).get? key).map List.length =
      (dict.get? key).map List.length := by
  induction items generalizing dict with
  | nil => rfl
  | cons item items ih =>
      rw [gather, List.foldl_cons]
      refine (ih _).trans ?_
      rw [get?_setSlot, Option.map_map]
      congr 1
      funext values
      by_cases same : key = (slot item).1 <;> simp [same]

/-- A slot holds the value of its items, or what it held before. -/
theorem slot?_gather {slot : Item → Key × Nat} {value : Item → Value}
    (final : Key × Nat → Value) {items : List Item}
    (own : ∀ item ∈ items, value item = final (slot item))
    (dict : OrderedDict Key (List Value)) (other : Key × Nat) :
    slot? (gather slot value dict items) other =
      (slot? dict other).map fun old =>
        if other ∈ items.map slot then final other else old := by
  induction items generalizing dict with
  | nil => simp [gather]
  | cons item items ih =>
      have rest := ih (fun later member => own later (List.mem_cons_of_mem item member))
        (setSlot dict (slot item) (value item))
      rw [gather, List.foldl_cons]
      refine rest.trans ?_
      rw [slot?_setSlot, Option.map_map]
      congr 1
      funext old
      by_cases here : other = slot item
      · subst here
        simp [own item List.mem_cons_self]
      · simp [here]

end SlotGathering
