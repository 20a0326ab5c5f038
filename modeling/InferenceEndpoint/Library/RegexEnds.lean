import InferenceEndpoint.Library.Regex

/-!
# Expressions at the end of a text

Where matches of literals end, and of a run of characters that must reach the end of the
text: there is one way to match, so backtracking finds it or nothing.
-/

namespace Regex

/-- Pass over so many characters. -/
def Place.skip (place : Place) (count : Nat) : Place :=
  { place with
    before := (place.after.take count).reverse ++ place.before
    after := place.after.drop count }

/-- `$` outside of multi-line patterns: the end, or a last line break. -/
def atTextEnd (place : Place) : Bool :=
  place.after = [] || place.after = ['\n']

def textEnd : Regex :=
  check atTextEnd

theorem ends_seq_check (first : Regex) (holds : Place → Bool) (place : Place) :
    (seq first (check holds)).ends place = (first.ends place).filter holds := by
  have general : ∀ places : List Place,
      places.flatMap (check holds).ends = places.filter holds := by
    intro places
    induction places with
    | nil => rfl
    | cons head tail ih =>
        rw [List.flatMap_cons, ih, List.filter_cons]
        simp only [ends]
        split <;> rfl
  exact general _

theorem ends_literal (text : String) (place : Place) :
    (literal text).ends place =
      if text.toList <+: place.after then [place.skip text.toList.length] else [] := by
  unfold literal
  induction text.toList generalizing place with
  | nil => simp [sequence, nothing, ends, Place.skip]
  | cons expected rest ih =>
      simp only [List.map_cons, sequence, ends]
      cases after : place.after with
      | nil => simp
      | cons head tail =>
          by_cases same : head = expected
          · subst same
            simp [ih, Place.skip, after, List.cons_prefix_cons]
          · have different : ¬ expected :: rest <+: head :: tail := by
              rw [List.cons_prefix_cons]
              exact fun equal => same equal.1.symm
            simp [same, different]

theorem ends_char_accepted {accepts : Char → Bool} {place : Place} {head : Char}
    {tail : List Char} (after : place.after = head :: tail) (accepted : accepts head = true) :
    (char accepts).ends place = [{ place with before := head :: place.before, after := tail }] := by
  simp [ends, after, accepted]

theorem ends_char_rejected {accepts : Char → Bool} {place : Place}
    (rejected : place.after.head?.any accepts = false) : (char accepts).ends place = [] := by
  unfold ends
  cases after : place.after with
  | nil => rfl
  | cons head tail =>
      have rejected : accepts head = false := by simpa [after] using rejected
      simp [rejected]

theorem rounds_greedy (step : Place → List Place) (fuel : Nat) (place : Place) :
    rounds step true (fuel + 1) 0 none place =
      ((step place).filter fun next => next.after.length < place.after.length).flatMap
        (rounds step true fuel 0 none) ++ [place] := by
  simp [rounds]

/-- Any number of accepted characters up to the end of the text. -/
theorem rounds_char_textEnd (accepts : Char → Bool) (fuel : Nat) {place : Place}
    (plain : '\n' ∉ place.after) (enough : place.after.length < fuel) :
    (rounds (char accepts).ends true fuel 0 none place).filter atTextEnd =
      if place.after.all accepts then [place.skip place.after.length] else [] := by
  induction fuel generalizing place with
  | zero => exact absurd enough (Nat.not_lt_zero _)
  | succ fuel ih =>
      rw [rounds_greedy]
      cases after : place.after with
      | nil =>
          rw [ends_char_rejected (by simp [after])]
          obtain ⟨before, rest, groups⟩ := place
          obtain rfl : rest = [] := after
          simp [atTextEnd, Place.skip]
      | cons head tail =>
          rw [after] at plain enough
          have inside : atTextEnd place = false := by
            have notBreak : head ≠ '\n' := fun same => plain (same ▸ List.mem_cons_self)
            simp [atTextEnd, after, notBreak]
          by_cases accepted : accepts head = true
          · have below := @ih { place with before := head :: place.before, after := tail }
              (fun member => plain (List.mem_cons_of_mem head member))
              (Nat.lt_of_succ_lt_succ enough)
            rw [ends_char_accepted after accepted]
            simp only [List.length_cons, Nat.lt_succ_self, decide_true, List.filter_cons_of_pos,
              List.filter_nil, List.flatMap_cons, List.flatMap_nil, List.append_nil,
              List.filter_append, below, inside, Bool.false_eq_true, not_false_eq_true,
              List.filter_cons_of_neg]
            simp [accepted, Place.skip, after]
          · rw [ends_char_rejected (by simpa [after] using accepted)]
            simp [accepted, inside]

/-- Accepted characters, at least one, up to the end of the text. -/
theorem ends_plus_textEnd (accepts : Char → Bool) {place : Place}
    (plain : '\n' ∉ place.after) :
    ((plus (char accepts)).ends place).filter atTextEnd =
      if place.after ≠ [] ∧ place.after.all accepts = true then
        [place.skip place.after.length]
      else [] := by
  have once : (plus (char accepts)).ends place = ((char accepts).ends place).flatMap
      (rounds (char accepts).ends true (place.after.length + 1) 0 none) := by
    simp only [plus, ends, rounds, Option.map_none]
  rw [once]
  cases after : place.after with
  | nil =>
      rw [ends_char_rejected (by simp [after])]
      simp
  | cons head tail =>
      rw [after] at plain
      by_cases accepted : accepts head = true
      · rw [ends_char_accepted after accepted, List.flatMap_singleton,
          rounds_char_textEnd accepts _ (fun member => plain (List.mem_cons_of_mem head member))
            (by simp only [List.length_cons]; omega)]
        simp [accepted, Place.skip, after]
      · rw [ends_char_rejected (by simpa [after] using accepted)]
        simp [accepted]

/-- A group keeps what is asked of the rest of the text. -/
theorem ends_group_textEnd (index : Nat) (body : Regex) (place : Place) :
    ((group index body).ends place).filter atTextEnd =
      ((body.ends place).filter atTextEnd).map fun last =>
        { last with groups :=
            (index, place.after.take (place.after.length - last.after.length)) ::
              last.groups } := by
  simp only [ends]
  rw [List.filter_map]
  rfl

end Regex
