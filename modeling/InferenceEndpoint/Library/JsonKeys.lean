import InferenceEndpoint.Library.JsonRoundTrip

/-!
# Keys that are there twice

A written object keeps all its keys, and reading it keeps the last of several equal ones.
So a value is written as before after it was read exactly if no key is there twice: each
lost member makes the text shorter.
-/

namespace Json

variable {floatRepr : String → String}

mutual

/-- No object has a key twice. -/
def Distinct : Json → Prop
  | array items => DistinctItems items
  | object members => (members.map (·.1)).Nodup ∧ DistinctMembers members
  | null | bool _ | int _ | float _ | string _ => True

def DistinctItems : List Json → Prop
  | [] => True
  | item :: items => Distinct item ∧ DistinctItems items

def DistinctMembers : List (String × Json) → Prop
  | [] => True
  | (_, value) :: members => Distinct value ∧ DistinctMembers members

end

mutual

theorem Distinct.clean (readsBack : ∀ literal, ReadsBack (floatRepr literal)) :
    ∀ {value : Json}, Distinct value → Clean floatRepr value
  | .null, _ | .bool _, _ | .int _, _ | .string _, _ => trivial
  | .float literal, _ => readsBack literal
  | .array _, distinct => DistinctItems.clean readsBack distinct
  | .object _, distinct => ⟨distinct.1, DistinctMembers.clean readsBack distinct.2⟩

theorem DistinctItems.clean (readsBack : ∀ literal, ReadsBack (floatRepr literal)) :
    ∀ {items : List Json}, DistinctItems items → CleanItems floatRepr items
  | [], _ => trivial
  | _ :: _, distinct =>
      ⟨distinct.1.clean readsBack, DistinctItems.clean readsBack distinct.2⟩

theorem DistinctMembers.clean (readsBack : ∀ literal, ReadsBack (floatRepr literal)) :
    ∀ {members : List (String × Json)}, DistinctMembers members → CleanMembers floatRepr members
  | [], _ => trivial
  | (_, _) :: _, distinct =>
      ⟨distinct.1.clean readsBack, DistinctMembers.clean readsBack distinct.2⟩

end

mutual

theorem Clean.distinct : ∀ {value : Json}, Clean floatRepr value → Distinct value
  | .null, _ | .bool _, _ | .int _, _ | .string _, _ | .float _, _ => trivial
  | .array _, clean => CleanItems.distinct clean
  | .object _, clean => ⟨clean.1, CleanMembers.distinct clean.2⟩

theorem CleanItems.distinct : ∀ {items : List Json}, CleanItems floatRepr items →
    DistinctItems items
  | [], _ => trivial
  | _ :: _, clean => ⟨clean.1.distinct, CleanItems.distinct clean.2⟩

theorem CleanMembers.distinct : ∀ {members : List (String × Json)},
    CleanMembers floatRepr members → DistinctMembers members
  | [], _ => trivial
  | (_, _) :: _, clean => ⟨clean.1.distinct, CleanMembers.distinct clean.2⟩

end

theorem distinctItems_iff {items : List Json} :
    DistinctItems items ↔ ∀ item ∈ items, Distinct item := by
  induction items with
  | nil => simp [DistinctItems]
  | cons item items ih => simp [DistinctItems, ih]

theorem Distinct.lookup {members : List (String × Json)} (distinct : Distinct (.object members))
    {key : String} {value : Json} (found : lookup members key = some value) : Distinct value := by
  obtain ⟨-, distinct⟩ := distinct
  induction members with
  | nil => cases found
  | cons member members ih =>
      obtain ⟨other, first⟩ := member
      rw [Json.lookup, List.lookup_cons] at found
      split at found
      · cases found
        exact distinct.1
      · exact ih found distinct.2

mutual

theorem readable_of_readsBack (readsBack : ∀ literal, ReadsBack (floatRepr literal)) :
    ∀ value : Json, Readable floatRepr value
  | .null | .bool _ | .int _ | .string _ => trivial
  | .float literal => readsBack literal
  | .array items => readableItems_of_readsBack readsBack items
  | .object members => readableMembers_of_readsBack readsBack members

theorem readableItems_of_readsBack (readsBack : ∀ literal, ReadsBack (floatRepr literal)) :
    ∀ items : List Json, ReadableItems floatRepr items
  | [] => trivial
  | item :: items =>
      ⟨readable_of_readsBack readsBack item, readableItems_of_readsBack readsBack items⟩

theorem readableMembers_of_readsBack (readsBack : ∀ literal, ReadsBack (floatRepr literal)) :
    ∀ members : List (String × Json), ReadableMembers floatRepr members
  | [] => trivial
  | (_, value) :: members =>
      ⟨readable_of_readsBack readsBack value, readableMembers_of_readsBack readsBack members⟩

end

/-! ## Lengths -/

section

variable (floatRepr : String → String)

def textLength (value : Json) : Nat :=
  (dumps floatRepr value).toList.length

/-- The length of an item and its separator, for all items. -/
def itemsLength : List Json → Nat
  | [] => 0
  | item :: items => textLength floatRepr item + 2 + itemsLength items

def memberLength (key : String) (value : Json) : Nat :=
  (encodeString key).toList.length + textLength floatRepr value + 4

def membersLength : List (String × Json) → Nat
  | [] => 0
  | (key, value) :: members => memberLength floatRepr key value + membersLength members

end

theorem length_dumpItems (item : Json) (items : List Json) :
    (dumpItems floatRepr (item :: items)).toList.length + 2 =
      itemsLength floatRepr (item :: items) := by
  induction items generalizing item with
  | nil => simp [toList_dumpItems, moreItems, itemsLength, textLength]
  | cons next items ih =>
      rw [itemsLength, ← ih next, toList_dumpItems, moreItems]
      simp only [List.length_append, List.length_cons, textLength]
      omega

theorem length_dumpMembers (member : String × Json) (members : List (String × Json)) :
    (dumpMembers floatRepr (member :: members)).toList.length + 2 =
      membersLength floatRepr (member :: members) := by
  obtain ⟨key, value⟩ := member
  induction members generalizing key value with
  | nil =>
      simp only [toList_dumpMembers, moreMembers, membersLength, memberLength, textLength,
        List.length_append, List.length_cons, List.length_nil]
      omega
  | cons next members ih =>
      obtain ⟨nextKey, nextValue⟩ := next
      rw [membersLength, ← ih nextKey nextValue, toList_dumpMembers, moreMembers]
      simp only [List.length_append, List.length_cons, memberLength, textLength]
      omega

theorem textLength_array (items : List Json) :
    textLength floatRepr (.array items) = max 2 (itemsLength floatRepr items) := by
  rw [textLength, toList_dumps_array]
  cases items with
  | nil => rfl
  | cons item items =>
      rw [← length_dumpItems]
      simp only [List.length_cons, List.length_append, List.length_nil]
      omega

theorem textLength_object (members : List (String × Json)) :
    textLength floatRepr (.object members) = max 2 (membersLength floatRepr members) := by
  rw [textLength, toList_dumps_object]
  cases members with
  | nil => rfl
  | cons member members =>
      rw [← length_dumpMembers]
      simp only [List.length_cons, List.length_append, List.length_nil]
      omega

theorem membersLength_append (first second : List (String × Json)) :
    membersLength floatRepr (first ++ second) =
      membersLength floatRepr first + membersLength floatRepr second := by
  induction first with
  | nil => rw [List.nil_append, membersLength, Nat.zero_add]
  | cons member first ih => rw [List.cons_append, membersLength, membersLength, ih, Nat.add_assoc]

/-- A replaced member is lost. -/
theorem membersLength_replace {members : List (String × Json)} {key : String}
    (distinct : (members.map (·.1)).Nodup) (present : key ∈ members.map (·.1)) (value : Json) :
    membersLength floatRepr
        (members.map fun member => if member.1 = key then (key, value) else member) <
      membersLength floatRepr members + memberLength floatRepr key value := by
  induction members with
  | nil => cases present
  | cons member members ih =>
      obtain ⟨other, old⟩ := member
      obtain ⟨fresh, rest⟩ := List.nodup_cons.mp distinct
      rw [List.map_cons]
      by_cases here : other = key
      · subst here
        have unchanged : members.map (fun member =>
            if member.1 = other then (other, value) else member) = members := by
          apply (List.map_congr_left _).trans (List.map_id members)
          intro member isMember
          exact if_neg fun same => fresh (List.mem_map.mpr ⟨member, isMember, same⟩)
        rw [unchanged]
        simp only [if_true, membersLength, memberLength]
        omega
      · have inRest : key ∈ members.map (·.1) :=
          (List.mem_cons.mp present).resolve_left (Ne.symm here)
        have shorter := ih rest inRest
        simp only [if_neg here, membersLength]
        omega

theorem membersLength_assign {before : List (String × Json)}
    (distinct : (before.map (·.1)).Nodup) (key : String) (value : Json) :
    membersLength floatRepr (assign before key value) ≤
        membersLength floatRepr before + memberLength floatRepr key value ∧
      (membersLength floatRepr (assign before key value) =
        membersLength floatRepr before + memberLength floatRepr key value →
          key ∉ before.map (·.1)) := by
  by_cases present : key ∈ before.map (·.1)
  · have any : before.any (·.1 = key) = true := by
      obtain ⟨member, isMember, same⟩ := List.mem_map.mp present
      exact List.any_eq_true.mpr ⟨member, isMember, decide_eq_true same⟩
    have shorter := @membersLength_replace floatRepr _ _ distinct present value
    rw [assign, if_pos any]
    exact ⟨Nat.le_of_lt shorter, fun same => absurd same (Nat.ne_of_lt shorter)⟩
  · rw [assign_new present, membersLength_append]
    exact ⟨by simp [membersLength], fun _ => present⟩

mutual

/-- Reading never makes a value longer, and shorter if a key was there twice. -/
theorem textLength_merged
    (stable : ∀ literal, floatRepr (floatRepr literal) = floatRepr literal) :
    ∀ value : Json, textLength floatRepr (merged floatRepr value) ≤ textLength floatRepr value ∧
      (textLength floatRepr (merged floatRepr value) = textLength floatRepr value →
        Distinct value)
  | .null | .bool _ | .int _ | .string _ => by
      rw [merged]
      exact ⟨Nat.le_refl _, fun _ => trivial⟩
  | .float literal => by
      rw [merged, textLength, textLength, dumps, dumps, stable]
      exact ⟨Nat.le_refl _, fun _ => trivial⟩
  | .array items => by
      obtain ⟨shorter, distinct⟩ := itemsLength_merged stable items
      rw [merged, textLength_array, textLength_array]
      refine ⟨by omega, fun same => distinct ?_⟩
      cases items with
      | nil => rfl
      | cons item items =>
          simp only [mergedItems, itemsLength] at same ⊢
          omega
  | .object members => by
      obtain ⟨shorter, distinct⟩ := membersLength_merged stable members [] List.nodup_nil
      rw [merged, textLength_object, textLength_object]
      rw [membersLength, Nat.zero_add] at shorter distinct
      refine ⟨by omega, fun same => ?_⟩
      cases members with
      | nil => exact ⟨List.nodup_nil, trivial⟩
      | cons member members =>
          have long : 2 < membersLength floatRepr (member :: members) := by
            simp only [membersLength, memberLength]
            omega
          exact distinct (by omega)

theorem itemsLength_merged
    (stable : ∀ literal, floatRepr (floatRepr literal) = floatRepr literal) :
    ∀ items : List Json,
      itemsLength floatRepr (mergedItems floatRepr items) ≤ itemsLength floatRepr items ∧
      (itemsLength floatRepr (mergedItems floatRepr items) = itemsLength floatRepr items →
        DistinctItems items)
  | [] => by
      rw [mergedItems]
      exact ⟨Nat.le_refl _, fun _ => trivial⟩
  | item :: items => by
      obtain ⟨shorter, distinct⟩ := textLength_merged stable item
      obtain ⟨restShorter, restDistinct⟩ := itemsLength_merged stable items
      rw [mergedItems, itemsLength, itemsLength]
      exact ⟨by omega, fun same => ⟨distinct (by omega), restDistinct (by omega)⟩⟩

theorem membersLength_merged
    (stable : ∀ literal, floatRepr (floatRepr literal) = floatRepr literal) :
    ∀ members before : List (String × Json), (before.map (·.1)).Nodup →
      membersLength floatRepr (mergedMembers floatRepr before members) ≤
        membersLength floatRepr before + membersLength floatRepr members ∧
      (membersLength floatRepr (mergedMembers floatRepr before members) =
        membersLength floatRepr before + membersLength floatRepr members →
          (before.map (·.1) ++ members.map (·.1)).Nodup ∧ DistinctMembers members)
  | [], before, distinct => by
      rw [mergedMembers, membersLength]
      exact ⟨Nat.le_refl _, fun _ => ⟨by simpa using distinct, trivial⟩⟩
  | (key, value) :: members, before, distinct => by
      obtain ⟨valueShorter, valueDistinct⟩ := textLength_merged stable value
      obtain ⟨assignShorter, isNew⟩ := @membersLength_assign floatRepr _ distinct key
        (merged floatRepr value)
      obtain ⟨restShorter, restDistinct⟩ := membersLength_merged stable members
        (assign before key (merged floatRepr value)) (nodup_assign distinct _ _)
      simp only [memberLength] at assignShorter isNew
      simp only [mergedMembers, membersLength, memberLength]
      refine ⟨by omega, fun same => ?_⟩
      have absent := isNew (by omega)
      obtain ⟨allDistinct, membersDistinct⟩ := restDistinct (by omega)
      rw [map_fst_assign, if_neg absent, List.append_assoc] at allDistinct
      exact ⟨allDistinct, valueDistinct (by omega), membersDistinct⟩

end

/-- A value is written as before after it was read exactly if no key is there twice. -/
theorem dumps_merged_iff (readsBack : ∀ literal, ReadsBack (floatRepr literal))
    (stable : ∀ literal, floatRepr (floatRepr literal) = floatRepr literal) (value : Json) :
    dumps floatRepr (merged floatRepr value) = dumps floatRepr value ↔ Distinct value := by
  constructor
  · intro same
    apply (textLength_merged stable value).2
    rw [textLength, same, textLength]
  · intro distinct
    rw [merged_clean (distinct.clean readsBack), dumps_normal stable]

end Json
