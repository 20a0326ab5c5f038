import Mathlib.Data.List.Range
import Mathlib.Data.Fintype.EquivFin
import Mathlib.Tactic

/-!
# Draws in blocks

An infinite sequence of draws from `0, …, size - 1` in which no block of `size` draws repeats
one.  Every block is then a permutation, so after any number of draws each index has been drawn
once in every full block and at most once more, and the draws of one index lie in the blocks
`0, 1, 2, …`.
-/

/-- No block repeats an index. -/
structure BlockDraws (size : Nat) (draw : Nat → Nat) : Prop where
  below : ∀ number, draw number < size
  injective : ∀ {first second : Nat}, first / size = second / size →
    draw first = draw second → first = second

namespace BlockDraws

variable {size : Nat} {draw : Nat → Nat}

theorem positive (draws : BlockDraws size draw) : 0 < size :=
  Nat.zero_lt_of_lt (draws.below 0)

/-- Every index is drawn in every block. -/
theorem exists_draw (draws : BlockDraws size draw) (block : Nat) {index : Nat}
    (inside : index < size) : ∃ number, number / size = block ∧ draw number = index := by
  have positive := draws.positive
  have inBlock : ∀ position : Fin size, (block * size + position) / size = block := by
    intro position
    rw [Nat.mul_comm, Nat.mul_add_div positive, Nat.div_eq_of_lt position.isLt, Nat.add_zero]
  let place : Fin size → Fin size :=
    fun position => ⟨draw (block * size + position), draws.below _⟩
  have injective : Function.Injective place := by
    intro first second same
    have sameDraw : draw (block * size + first) = draw (block * size + second) :=
      congrArg Fin.val same
    have sameNumber := draws.injective ((inBlock first).trans (inBlock second).symm) sameDraw
    apply Fin.ext
    omega
  obtain ⟨position, found⟩ := Finite.injective_iff_surjective.mp injective ⟨index, inside⟩
  exact ⟨block * size + position, inBlock position, congrArg Fin.val found⟩

/-- The draws of an index among the first `count`. -/
def numbers (draw : Nat → Nat) (index count : Nat) : List Nat :=
  (List.range count).filter fun number => draw number = index

theorem numbers_succ (index count : Nat) :
    numbers draw index (count + 1) =
      numbers draw index count ++ if draw count = index then [count] else [] := by
  rw [numbers, List.range_succ, List.filter_append, numbers]
  by_cases here : draw count = index
  · simp [here]
  · simp [here]

/-- Either the running block has not drawn the index yet, or it has. -/
inductive Progress (size : Nat) (draw : Nat → Nat) (index count : Nat) : Prop
  | pending (drawn : (numbers draw index count).length = count / size)
      (notYet : ∀ number < count, number / size = count / size → draw number ≠ index)
  | done (drawn : (numbers draw index count).length = count / size + 1)
      (already : ∃ number < count, number / size = count / size ∧ draw number = index)

/-- The next number is in the same block or begins the next one. -/
theorem block_succ (size count : Nat) :
    (count + 1) / size = count / size ∨
      ((count + 1) / size = count / size + 1 ∧
        ∀ number, number / size = count / size → number < count + 1) := by
  rw [Nat.succ_div]
  by_cases ends : size ∣ count + 1
  · rw [if_pos ends]
    refine Or.inr ⟨rfl, fun number same => ?_⟩
    have next : (count + 1) / size = count / size + 1 := by rw [Nat.succ_div, if_pos ends]
    by_contra later
    have monotone : (count + 1) / size ≤ number / size := Nat.div_le_div_right (by omega)
    omega
  · rw [if_neg ends]
    exact Or.inl rfl

theorem progress (draws : BlockDraws size draw) {index : Nat} (inside : index < size)
    (count : Nat) :
    Progress size draw index count ∧
      (numbers draw index count).map (· / size) =
        List.range (numbers draw index count).length := by
  have positive := draws.positive
  induction count with
  | zero =>
      refine ⟨.pending ?_ (fun number below => absurd below (Nat.not_lt_zero number)), rfl⟩
      simp [numbers]
  | succ count ih =>
      obtain ⟨before, blocks⟩ := ih
      rw [numbers_succ]
      by_cases here : draw count = index
      · rw [if_pos here]
        -- The running block had not drawn the index before.
        have drawn : (numbers draw index count).length = count / size := by
          cases before with
          | pending drawn _ => exact drawn
          | done _ already =>
              obtain ⟨number, earlier, same, found⟩ := already
              have equal := draws.injective same (found.trans here.symm)
              omega
        refine ⟨?_, ?_⟩
        · obtain same | ⟨next, within⟩ := block_succ size count
          · refine .done ?_ ⟨count, Nat.lt_succ_self count, same.symm, here⟩
            rw [numbers_succ, if_pos here, List.length_append, drawn, same]
            rfl
          · refine .pending ?_ (fun number below sameBlock => ?_)
            · rw [numbers_succ, if_pos here, List.length_append, drawn, next]
              rfl
            · have monotone : number / size ≤ count / size := Nat.div_le_div_right (by omega)
              omega
        · rw [List.map_append, blocks, List.length_append, List.length_singleton,
            List.range_succ, drawn]
          rfl
      · rw [if_neg here, List.append_nil]
        refine ⟨?_, blocks⟩
        have same : numbers draw index (count + 1) = numbers draw index count := by
          rw [numbers_succ, if_neg here, List.append_nil]
        obtain sameBlock | ⟨next, within⟩ := block_succ size count
        · cases before with
          | pending drawn notYet =>
              refine .pending (by rw [same, drawn, sameBlock]) (fun number below block => ?_)
              rw [sameBlock] at block
              obtain earlier | rfl := Nat.lt_succ_iff_lt_or_eq.mp below
              · exact notYet number earlier block
              · exact here
          | done drawn already =>
              obtain ⟨number, earlier, block, found⟩ := already
              exact .done (by rw [same, drawn, sameBlock])
                ⟨number, by omega, by rw [block, sameBlock], found⟩
        · cases before with
          | pending drawn notYet =>
              -- The block ends without the index, but every block draws it.
              obtain ⟨number, block, found⟩ := draws.exists_draw (count / size) inside
              obtain earlier | rfl := Nat.lt_succ_iff_lt_or_eq.mp (within number block)
              · exact absurd found (notYet number earlier block)
              · exact absurd found here
          | done drawn already =>
              refine .pending (by rw [same, drawn, next]) (fun number below block => ?_)
              have monotone : number / size ≤ count / size := Nat.div_le_div_right (by omega)
              omega

/-- After any number of draws an index has been drawn once in every full block, and at most
once more. -/
theorem length_numbers (draws : BlockDraws size draw) {index : Nat} (inside : index < size)
    (count : Nat) :
    count / size ≤ (numbers draw index count).length ∧
      (numbers draw index count).length ≤ count / size + 1 := by
  obtain ⟨progress, -⟩ := draws.progress inside count
  cases progress with
  | pending drawn => omega
  | done drawn => omega

/-- The draws of an index lie in the first blocks, one in each. -/
theorem blocks_numbers (draws : BlockDraws size draw) {index : Nat} (inside : index < size)
    (count : Nat) :
    (numbers draw index count).map (· / size) =
      List.range (numbers draw index count).length :=
  (draws.progress inside count).2

end BlockDraws
