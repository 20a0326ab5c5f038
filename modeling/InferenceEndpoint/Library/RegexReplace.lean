import InferenceEndpoint.Library.RegexEnds

/-!
# Replacing matches

`sub` goes over a text from left to right and replaces what an expression matches.  Where
the rest of an expression cannot begin with the characters that are repeated before it,
the repetition has one length to choose.
-/

namespace Regex

variable {Error : Type*}

/-- The rest of a text after `sub`; the replacement may raise.  For expressions that match
no empty text. -/
def subFrom (regex : Regex) (replace : Match → Except Error (List Char)) :
    Nat → Place → Except Error (List Char)
  | 0, _ => .ok []
  | fuel + 1, place =>
      match regex.matchAt place with
      | some found =>
          (replace found).bind fun replacement =>
            (subFrom regex replace fuel { found.last with groups := [] }).map (replacement ++ ·)
      | none =>
          match place.after with
          | [] => .ok []
          | head :: tail =>
              (subFrom regex replace fuel
                { before := head :: place.before, after := tail }).map (head :: ·)

def sub (regex : Regex) (replace : Match → Except Error (List Char)) (text : List Char) :
    Except Error (List Char) :=
  regex.subFrom replace (text.length + 1) (.start text)

/-! ## Repeated characters -/

theorem skip_zero (place : Place) : place.skip 0 = place := by
  simp [Place.skip]

theorem skip_succ {place : Place} {head : Char} {tail : List Char}
    (after : place.after = head :: tail) (count : Nat) :
    { place with before := head :: place.before, after := tail }.skip count =
      place.skip (count + 1) := by
  simp [Place.skip, after]

/-- The longest repetition comes first; after every other one stands a repeated
character. -/
theorem rounds_char_greedy (accepts : Char → Bool) (fuel : Nat) {place : Place}
    (enough : place.after.length < fuel) :
    ∃ shorter, rounds (char accepts).ends true fuel 0 none place =
        place.skip (place.after.takeWhile accepts).length :: shorter ∧
      ∀ other ∈ shorter, other.after.head?.any accepts = true := by
  induction fuel generalizing place with
  | zero => exact absurd enough (Nat.not_lt_zero _)
  | succ fuel ih =>
      rw [rounds_greedy]
      cases after : place.after with
      | nil =>
          refine ⟨[], ?_, by simp⟩
          rw [ends_char_rejected (by simp [after])]
          simp [skip_zero]
      | cons head tail =>
          rw [after] at enough
          by_cases accepted : accepts head = true
          · obtain ⟨shorter, below, others⟩ :=
              @ih { place with before := head :: place.before, after := tail }
                (Nat.lt_of_succ_lt_succ enough)
            refine ⟨shorter ++ [place], ?_, ?_⟩
            · rw [ends_char_accepted after accepted]
              simp only [List.length_cons, Nat.lt_succ_self, decide_true,
                List.filter_cons_of_pos, List.filter_nil, List.flatMap_cons, List.flatMap_nil,
                List.append_nil, below, List.cons_append]
              rw [skip_succ after, List.takeWhile_cons_of_pos accepted, List.length_cons]
            · intro other member
              obtain earlier | last := List.mem_append.mp member
              · exact others other earlier
              · rw [List.mem_singleton.mp last, after]
                simpa using accepted
          · refine ⟨[], ?_, by simp⟩
            rw [ends_char_rejected (by simpa [after] using accepted),
              List.takeWhile_cons_of_neg accepted]
            simp [skip_zero]

theorem ends_star_char (accepts : Char → Bool) (place : Place) :
    ∃ shorter, (star (char accepts)).ends place =
        place.skip (place.after.takeWhile accepts).length :: shorter ∧
      ∀ other ∈ shorter, other.after.head?.any accepts = true :=
  rounds_char_greedy accepts _ (Nat.lt_add_right 0 (Nat.lt_succ_self _))

/-- What follows a lazy repetition is found at the first place where it can begin. -/
theorem rounds_char_lazy {accepts closes : Char → Bool} {next : Place → List Place}
    (ends_ : ∀ place, next place = [] ↔ place.after.head?.any closes = false) (fuel : Nat)
    {place : Place} (enough : place.after.length < fuel) :
    ((rounds (char accepts).ends false fuel 0 none place).flatMap next).head? =
      let count := (place.after.takeWhile fun char => accepts char && !closes char).length
      (next (place.skip count)).head? := by
  induction fuel generalizing place with
  | zero => exact absurd enough (Nat.not_lt_zero _)
  | succ fuel ih =>
      have unfolded : rounds (char accepts).ends false (fuel + 1) 0 none place =
          place :: (((char accepts).ends place).filter fun next =>
            next.after.length < place.after.length).flatMap
              (rounds (char accepts).ends false fuel 0 none) := by
        simp [rounds]
      rw [unfolded, List.flatMap_cons]
      cases after : place.after with
      | nil =>
          rw [ends_char_rejected (by simp [after])]
          simp [skip_zero]
      | cons head tail =>
          rw [after] at enough
          by_cases closing : closes head = true
          · have begins : next place ≠ [] := by
              rw [ne_eq, ends_, after]
              simpa using closing
            rw [List.head?_append_of_ne_nil _ begins]
            simp [closing, skip_zero]
          · have nothing_ : next place = [] := by
              rw [ends_, after]
              simpa using closing
            rw [nothing_, List.nil_append]
            by_cases accepted : accepts head = true
            · have below := @ih { place with before := head :: place.before, after := tail }
                (Nat.lt_of_succ_lt_succ enough)
              rw [ends_char_accepted after accepted]
              simp only [List.length_cons, Nat.lt_succ_self, decide_true,
                List.filter_cons_of_pos, List.filter_nil, List.flatMap_cons, List.flatMap_nil,
                List.append_nil, below]
              rw [skip_succ after]
              simp [accepted, closing]
            · rw [ends_char_rejected (by simpa [after] using accepted)]
              simp [accepted, skip_zero, nothing_]

/-- An optional part is tried first. -/
theorem ends_optional {body : Regex} (wide : 0 < body.width) (place : Place) :
    (optional body).ends place = body.ends place ++ [place] := by
  have shorter : (body.ends place).filter (fun next =>
      next.after.length < place.after.length) = body.ends place := by
    apply List.filter_eq_self.mpr
    intro last member
    have consumed := body.width_le place last member
    exact decide_eq_true (by omega)
  have once : ∀ fuel (next : Place), rounds body.ends true fuel 0 (some 0) next = [next] := by
    intro fuel next
    cases fuel <;> simp [rounds]
  have unfolded : (optional body).ends place =
      ((body.ends place).filter fun next =>
        next.after.length < place.after.length).flatMap
          (rounds body.ends true (place.after.length + 0) 0 (some 0)) ++ [place] := by
    simp [optional, ends, rounds]
  rw [unfolded, shorter]
  congr 1
  rw [funext (once _)]
  exact List.flatMap_singleton' _

/-- What a group captures that ends so many characters on. -/
theorem take_skip (place : Place) (count : Nat) :
    place.after.take (place.after.length - (place.skip count).after.length) =
      place.after.take count := by
  simp only [Place.skip, List.length_drop]
  rw [List.take_eq_take_iff]
  omega

end Regex
