import Mathlib.Data.List.Range
import Mathlib.Order.Lattice

/-!
# First maximum

A loop over candidates keeps the best score so far and replaces it only by a larger one: it
ends with the first candidate that has the largest score, if any is above the initial one.
-/

namespace FirstMaximum

variable {Score : Type*} [LinearOrder Score] (score : Nat → Score)

/-- A candidate replaces the best so far if its score is larger. -/
def keep (best : Score × Nat) (candidate : Nat) : Score × Nat :=
  if best.1 < score candidate then (score candidate, candidate) else best

/-- The best of the candidates from `1` to `count`; `0` stands for none. -/
def best (initial : Score) (count : Nat) : Score × Nat :=
  (List.range' 1 count).foldl (keep score) (initial, 0)

theorem foldl_congr {first second : Nat → Score} {start count : Nat} {initial : Score × Nat}
    (same : ∀ candidate, start ≤ candidate → candidate < start + count →
      first candidate = second candidate) :
    (List.range' start count).foldl (keep first) initial =
      (List.range' start count).foldl (keep second) initial := by
  refine List.foldl_ext _ _ initial fun found candidate member => ?_
  obtain ⟨low, high⟩ := List.mem_range'_1.mp member
  rw [keep, keep, same candidate low high]

/-- What the loop has after some candidates. -/
structure Best (initial : Score) (count : Nat) (found : Score × Nat) : Prop where
  atLeast : initial ≤ found.1
  largest : ∀ candidate, 1 ≤ candidate → candidate ≤ count → score candidate ≤ found.1
  first : found = (initial, 0) ∨ 1 ≤ found.2 ∧ found.2 ≤ count ∧ initial < found.1 ∧
    score found.2 = found.1 ∧
    ∀ candidate, 1 ≤ candidate → candidate < found.2 → score candidate < found.1

theorem best_spec (initial : Score) (count : Nat) :
    Best score initial count (best score initial count) := by
  induction count with
  | zero => exact ⟨le_rfl, fun candidate low high => by omega, Or.inl rfl⟩
  | succ count ih =>
      have step : best score initial (count + 1) =
          keep score (best score initial count) (count + 1) := by
        rw [best, best, List.range'_concat, List.foldl_append]
        simp [Nat.add_comm]
      rw [step, keep]
      generalize best score initial count = found at ih
      split
      · rename_i larger
        refine ⟨ih.atLeast.trans larger.le, fun candidate low high => ?_, Or.inr ?_⟩
        · rcases Nat.lt_or_eq_of_le high with less | rfl
          · exact (ih.largest candidate low (by omega)).trans larger.le
          · exact le_rfl
        · refine ⟨by omega, le_rfl, ih.atLeast.trans_lt larger, rfl, fun candidate low high => ?_⟩
          exact (ih.largest candidate low (by omega)).trans_lt larger
      · rename_i smaller
        refine ⟨ih.atLeast, fun candidate low high => ?_, ?_⟩
        · rcases Nat.lt_or_eq_of_le high with less | rfl
          · exact ih.largest candidate low (by omega)
          · exact not_lt.mp smaller
        · rcases ih.first with initially | ⟨low, high, above, same, before⟩
          · exact Or.inl initially
          · exact Or.inr ⟨low, by omega, above, same, before⟩

/-- The first maximum comes late exactly if a later candidate beats all up to there. -/
theorem lt_best_iff (initial : Score) (count start : Nat) :
    start < (best score initial count).2 ↔
      ∃ candidate, start < candidate ∧ candidate ≤ count ∧ initial < score candidate ∧
        ∀ earlier, 1 ≤ earlier → earlier ≤ start → score earlier < score candidate := by
  have spec := best_spec score initial count
  generalize best score initial count = found at spec
  constructor
  · intro late
    rcases spec.first with rfl | ⟨-, high, above, same, before⟩
    · exact absurd late (Nat.not_lt_zero start)
    · rw [← same] at above
      refine ⟨found.2, late, high, above, fun earlier low bound => ?_⟩
      rw [same]
      exact before earlier low (by omega)
  · rintro ⟨candidate, late, high, above, beats⟩
    by_contra early
    have bound := spec.largest candidate (by omega) high
    rcases spec.first with rfl | ⟨low, -, -, same, -⟩
    · exact absurd above (not_lt.mpr bound)
    · have less := beats found.2 low (by omega)
      rw [same] at less
      exact absurd less (not_lt.mpr bound)

end FirstMaximum
