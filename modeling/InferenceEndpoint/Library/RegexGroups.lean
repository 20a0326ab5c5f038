import InferenceEndpoint.Library.LiteralReplace
import InferenceEndpoint.Library.RegexReplace

/-!
# Keeping groups around a placeholder

A substitution that keeps the groups at the two ends of a match and puts a placeholder
between them.  What is left of the text are parts of it, so a word that does not overlap
the placeholder does not appear.
-/

namespace Regex

open LiteralReplace

/-- `sub` with a replacement that cannot raise. -/
def substitute (regex : Regex) (replace : Match → List Char) (text : List Char) : List Char :=
  match regex.sub (fun found => (.ok (replace found) : Except Empty (List Char))) text with
  | .ok result => result
  | .error impossible => nomatch impossible

/-- The expression captures nothing. -/
def GroupFree : Regex → Prop
  | char _ => True
  | check _ => True
  | seq first second => first.GroupFree ∧ second.GroupFree
  | alt first second => first.GroupFree ∧ second.GroupFree
  | group _ _ => False
  | repeat_ _ _ _ body => body.GroupFree

/-! ## What a match leaves -/

/-- A relation that every round keeps holds from the first place to the last. -/
theorem rounds_related {step : Place → List Place} {Related : Place → Place → Prop}
    (refl : ∀ place, Related place place)
    (trans : ∀ {first second third}, Related first second → Related second third →
      Related first third)
    (steps : ∀ place, ∀ next ∈ step place, Related place next)
    (greedy : Bool) (fuel least : Nat) (most : Option Nat) (place : Place) :
    ∀ last ∈ rounds step greedy fuel least most place, Related place last := by
  induction fuel generalizing least most place with
  | zero =>
      intro last member
      rw [rounds] at member
      split at member
      · rw [List.mem_singleton.mp member]
        exact refl place
      · exact absurd member List.not_mem_nil
  | succ fuel ih =>
      intro last member
      cases least with
      | succ least =>
          rw [rounds] at member
          obtain ⟨next, isNext, goesOn⟩ := List.mem_flatMap.mp member
          exact trans (steps place next isNext) (ih least _ next last goesOn)
      | zero =>
          have further : ∀ last ∈ ((step place).filter fun next =>
              next.after.length < place.after.length).flatMap
                (rounds step greedy fuel 0 (most.map (· - 1))), Related place last := by
            intro last found
            obtain ⟨next, isNext, goesOn⟩ := List.mem_flatMap.mp found
            exact trans (steps place next (List.mem_of_mem_filter isNext))
              (ih 0 _ next last goesOn)
          simp only [rounds] at member
          split at member
          · rw [List.mem_singleton.mp member]
            exact refl place
          · split at member
            · rcases List.mem_append.mp member with found | same
              · exact further last found
              · rw [List.mem_singleton.mp same]
                exact refl place
            · rcases List.mem_cons.mp member with rfl | found
              · exact refl last
              · exact further last found

/-- A match ends further on in the text. -/
theorem ends_suffix (regex : Regex) (place : Place) :
    ∀ last ∈ regex.ends place, last.after <:+ place.after := by
  induction regex generalizing place with
  | char accepts =>
      intro last member
      simp only [ends] at member
      split at member
      · exact absurd member List.not_mem_nil
      · rename_i head tail after
        split at member
        · rw [List.mem_singleton.mp member, after]
          exact List.suffix_cons head tail
        · exact absurd member List.not_mem_nil
  | check holds =>
      intro last member
      simp only [ends] at member
      split at member
      · rw [List.mem_singleton.mp member]
      · exact absurd member List.not_mem_nil
  | seq first second left right =>
      intro last member
      obtain ⟨middle, before, after⟩ := List.mem_flatMap.mp member
      exact (right middle last after).trans (left place middle before)
  | alt first second left right =>
      intro last member
      rcases List.mem_append.mp member with found | found
      · exact left place last found
      · exact right place last found
  | group index body inside =>
      intro last member
      obtain ⟨found, there, rfl⟩ := List.mem_map.mp member
      exact inside place found there
  | repeat_ least most greedy body inside =>
      exact rounds_related (fun _ => List.suffix_rfl) (fun one other => other.trans one) inside
        greedy _ least most place

theorem ends_groups {regex : Regex} (free : regex.GroupFree) (place : Place) :
    ∀ last ∈ regex.ends place, last.groups = place.groups := by
  induction regex generalizing place with
  | char accepts =>
      intro last member
      simp only [ends] at member
      split at member
      · exact absurd member List.not_mem_nil
      · split at member
        · rw [List.mem_singleton.mp member]
        · exact absurd member List.not_mem_nil
  | check holds =>
      intro last member
      simp only [ends] at member
      split at member
      · rw [List.mem_singleton.mp member]
      · exact absurd member List.not_mem_nil
  | seq first second left right =>
      intro last member
      obtain ⟨middle, before, after⟩ := List.mem_flatMap.mp member
      exact (right free.2 middle last after).trans (left free.1 place middle before)
  | alt first second left right =>
      intro last member
      rcases List.mem_append.mp member with found | found
      · exact left free.1 place last found
      · exact right free.2 place last found
  | group index body inside => exact free.elim
  | repeat_ least most greedy body inside =>
      exact @rounds_related _ (fun first last => last.groups = first.groups)
        (fun _ => rfl) (fun one other => other.trans one) (inside free) greedy _ least most place

/-- What a group captures is what its match consumes. -/
theorem ends_group {index : Nat} {body : Regex} (free : body.GroupFree) {place last : Place}
    (member : last ∈ (group index body).ends place) :
    ∃ taken, place.after = taken ++ last.after ∧ last.groups = (index, taken) :: place.groups := by
  obtain ⟨found, there, rfl⟩ := List.mem_map.mp member
  obtain ⟨taken, split⟩ := ends_suffix body place found there
  refine ⟨taken, split.symm, ?_⟩
  rw [ends_groups free place found there, ← split, List.length_append, Nat.add_sub_cancel,
    List.take_left]

theorem groupFree_sequence {parts : List Regex} (free : ∀ part ∈ parts, part.GroupFree) :
    (sequence parts).GroupFree := by
  induction parts with
  | nil => trivial
  | cons part parts ih =>
      exact ⟨free part List.mem_cons_self,
        ih fun other member => free other (List.mem_cons_of_mem part member)⟩

theorem groupFree_literal (text : String) : (literal text).GroupFree := by
  apply groupFree_sequence
  intro part member
  obtain ⟨expected, -, rfl⟩ := List.mem_map.mp member
  trivial

/-! ## Two ends around a placeholder -/

/-- The replacement of a match keeps its two ends around the placeholder. -/
def Frames (regex : Regex) (placeholder : List Char) (replace : Match → List Char) : Prop :=
  ∀ place, place.groups = [] → ∀ last ∈ regex.ends place, ∃ left middle right,
    place.after = left ++ middle ++ right ++ last.after ∧
      replace ⟨place, last⟩ = left ++ placeholder ++ right

theorem frames_first {first rest : Regex} (placeholder : List Char) (free : first.GroupFree)
    (freeRest : rest.GroupFree) :
    Frames (seq (group 1 first) rest) placeholder fun found => found.group 1 ++ placeholder := by
  intro place fresh last member
  obtain ⟨next, isNext, goesOn⟩ := List.mem_flatMap.mp member
  obtain ⟨taken, split, captured⟩ := ends_group free isNext
  obtain ⟨middle, splitRest⟩ := ends_suffix rest next last goesOn
  refine ⟨taken, middle, [], ?_, ?_⟩
  · rw [split, ← splitRest]
    simp
  · have groups : last.groups = [(1, taken)] := by
      rw [ends_groups freeRest next last goesOn, captured, fresh]
    simp [Match.group, Place.captured, groups]

theorem frames_both {first rest closing : Regex} (placeholder : List Char)
    (free : first.GroupFree) (freeRest : rest.GroupFree) (freeClosing : closing.GroupFree) :
    Frames (seq (group 1 first) (seq rest (group 2 closing))) placeholder
      fun found => found.group 1 ++ placeholder ++ found.group 2 := by
  intro place fresh last member
  obtain ⟨next, isNext, goesOn⟩ := List.mem_flatMap.mp member
  obtain ⟨further, isFurther, closes⟩ := List.mem_flatMap.mp goesOn
  obtain ⟨taken, split, captured⟩ := ends_group free isNext
  obtain ⟨middle, splitRest⟩ := ends_suffix rest next further isFurther
  obtain ⟨closed, splitClosing, capturedClosing⟩ := ends_group freeClosing closes
  refine ⟨taken, middle, closed, ?_, ?_⟩
  · rw [split, ← splitRest, splitClosing]
    simp only [List.append_assoc]
  · have groups : last.groups = [(2, closed), (1, taken)] := by
      rw [capturedClosing, ends_groups freeRest next further isFurther, captured, fresh]
    simp [Match.group, Place.captured, groups, List.lookup_cons]

/-- After a substitution the text is made of parts of it with placeholders between them. -/
theorem subFrom_parts {regex : Regex} {placeholder : List Char} {replace : Match → List Char}
    (frames : Frames regex placeholder replace) (fuel : Nat) (place : Place)
    (fresh : place.groups = []) :
    ∃ head parts, regex.subFrom (fun found => (.ok (replace found) : Except Empty _)) fuel place =
        .ok (placeholder.intercalate (head :: parts)) ∧
      head <+: place.after ∧ ∀ part ∈ parts, part <:+: place.after := by
  induction fuel generalizing place with
  | zero => exact ⟨[], [], rfl, List.nil_prefix, nofun⟩
  | succ fuel ih =>
      rw [subFrom]
      cases matched : regex.matchAt place with
      | some found =>
          obtain ⟨last, isLast, rfl⟩ : ∃ last, last ∈ regex.ends place ∧ ⟨place, last⟩ = found := by
            rw [matchAt, Option.map_eq_some_iff] at matched
            obtain ⟨last, isHead, same⟩ := matched
            exact ⟨last, List.mem_of_head? isHead, same⟩
          obtain ⟨left, middle, right, split, replaced⟩ := frames place fresh last isLast
          obtain ⟨head, parts, result, isHead, areParts⟩ := ih { last with groups := [] } rfl
          refine ⟨left, (right ++ head) :: parts, ?_, ?_, ?_⟩
          · simp only [Except.bind, result, Except.map, replaced]
            rw [List.intercalate_cons_cons]
            cases parts with
            | nil => simp [List.append_assoc]
            | cons part parts => simp [List.intercalate_cons_cons, List.append_assoc]
          · rw [split]
            exact ⟨middle ++ right ++ last.after, by simp only [List.append_assoc]⟩
          · have later : last.after <:+ place.after := ends_suffix regex place last isLast
            intro part member
            rcases List.mem_cons.mp member with rfl | isPart
            · obtain ⟨rest, split'⟩ := isHead
              refine ⟨left ++ middle, rest, ?_⟩
              rw [split, ← split']
              simp only [List.append_assoc]
            · exact (areParts part isPart).trans later.isInfix
      | none =>
          cases after : place.after with
          | nil => exact ⟨[], [], rfl, List.nil_prefix, nofun⟩
          | cons symbol tail =>
              obtain ⟨head, parts, result, isHead, areParts⟩ :=
                ih { before := symbol :: place.before, after := tail } rfl
              refine ⟨symbol :: head, parts, ?_, ?_, ?_⟩
              · simp only [result, Except.map]
                cases parts with
                | nil => simp
                | cons part parts => simp [List.intercalate_cons_cons]
              · exact (List.cons_prefix_cons).mpr ⟨rfl, isHead⟩
              · intro part member
                exact (areParts part member).trans (List.suffix_cons symbol tail).isInfix

/-- A word that does not overlap the placeholder does not appear. -/
theorem not_infix_substitute {regex : Regex} {placeholder : List Char}
    {replace : Match → List Char} (frames : Frames regex placeholder replace)
    {word text : List Char} (some_ : word ≠ []) (apart : ¬ Overlap word placeholder)
    (absent : ¬ word <:+: text) : ¬ word <:+: regex.substitute replace text := by
  obtain ⟨head, parts, result, isHead, areParts⟩ :=
    subFrom_parts frames (text.length + 1) (.start text) rfl
  rw [substitute, sub, result]
  intro occurs
  obtain ⟨part, member, inPart⟩ := mem_of_infix_intercalate apart some_ occurs
  apply absent
  rcases List.mem_cons.mp member with rfl | isPart
  · exact inPart.trans isHead.isInfix
  · exact inPart.trans (areParts part isPart)

end Regex
