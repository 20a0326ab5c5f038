import Mathlib.Algebra.Order.Ring.Nat
import Mathlib.Tactic.Common

/-!
# Bracketed search

An upper bound is doubled until a predicate holds of it, and the interval below it is
halved: down to the first number that passes, or to the last one that fits.  What the
searches find passes, or fits, whatever the predicate is; that the doubling ends is an
argument of its own.
-/

namespace BracketedSearch

/-- `while not stop(hi): hi *= 2`. -/
def doubleUntil (stop : Nat → Bool) (stops : ∃ least, ∀ number, least ≤ number → stop number = true)
    (hi : Nat) (positive : 0 < hi) : Nat :=
  if stopped : stop hi = true then hi
  else doubleUntil stop stops (hi * 2) (by omega)
termination_by stops.choose - hi
decreasing_by
  have below : hi < stops.choose := by
    by_contra above
    exact stopped (stops.choose_spec hi (Nat.le_of_not_lt above))
  omega

theorem doubleUntil_stops (stop : Nat → Bool)
    (stops : ∃ least, ∀ number, least ≤ number → stop number = true) (hi : Nat)
    (positive : 0 < hi) :
    stop (doubleUntil stop stops hi positive) = true ∧ hi ≤ doubleUntil stop stops hi positive := by
  fun_induction doubleUntil stop stops hi positive with
  | case1 hi positive stopped => exact ⟨stopped, Nat.le_refl hi⟩
  | case2 hi positive goesOn ih => exact ⟨ih.1, by omega⟩

/-- The smaller half if the middle passes, the larger one otherwise. -/
def bisectFirst (passes : Nat → Bool) (lo hi : Nat) : Nat :=
  if lo < hi then
    let mid := (lo + hi) / 2
    if passes mid then bisectFirst passes lo mid else bisectFirst passes (mid + 1) hi
  else lo
termination_by hi - lo

/-- The search keeps an upper bound that passes. -/
theorem bisectFirst_passes (passes : Nat → Bool) (lo hi : Nat) (ordered : lo ≤ hi)
    (bound : passes hi = true) :
    passes (bisectFirst passes lo hi) = true ∧ lo ≤ bisectFirst passes lo hi := by
  fun_induction bisectFirst passes lo hi with
  | case1 lo hi room mid passed ih => exact ih (by omega) passed
  | case2 lo hi room mid failed ih =>
      obtain ⟨found, above⟩ := ih (by omega) bound
      exact ⟨found, by omega⟩
  | case3 lo hi empty =>
      have same : lo = hi := by omega
      exact ⟨same ▸ bound, Nat.le_refl lo⟩

/-- What passes from some number on is searched down to its least number. -/
theorem bisectFirst_least {passes : Nat → Bool} {first : Nat}
    (upward : ∀ small large, first ≤ small → small ≤ large → passes small = true →
      passes large = true)
    (lo hi : Nat) (start : first ≤ lo) {number : Nat} (above : lo ≤ number)
    (passing : passes number = true) : bisectFirst passes lo hi ≤ number := by
  fun_induction bisectFirst passes lo hi with
  | case1 lo hi room mid passed ih => exact ih start above
  | case2 lo hi room mid failed ih =>
      apply ih (by omega)
      by_contra below
      exact failed (upward number mid (by omega) (by omega) passing)
  | case3 lo hi empty => exact above

/-- The doubling ends after some number of rounds. -/
theorem exists_round {stop : Nat → Bool}
    (stops : ∃ least, ∀ number, least ≤ number → stop number = true) :
    ∃ rounds, stop (2 * 2 ^ rounds) = true := by
  obtain ⟨least, stopped⟩ := stops
  have larger := least.lt_two_pow_self
  exact ⟨least, stopped _ (by omega)⟩

/-- The larger half if the middle fits, the smaller one otherwise. -/
def bisectLast (fits : Nat → Bool) (lo hi : Nat) : Nat :=
  if lo < hi - 1 then
    let mid := (lo + hi) / 2
    if fits mid then bisectLast fits mid hi else bisectLast fits lo mid
  else lo
termination_by hi - lo

/-- The search keeps a lower bound that fits. -/
theorem bisectLast_fits (fits : Nat → Bool) (lo hi : Nat) (bound : fits lo = true) :
    fits (bisectLast fits lo hi) = true ∧ lo ≤ bisectLast fits lo hi := by
  fun_induction bisectLast fits lo hi with
  | case1 lo hi room mid fitting ih =>
      obtain ⟨found, above⟩ := ih fitting
      exact ⟨found, by omega⟩
  | case2 lo hi room mid tooLarge ih => exact ih bound
  | case3 lo hi narrow => exact ⟨bound, Nat.le_refl lo⟩

/-- What fits up to some number is searched up to its largest number. -/
theorem bisectLast_greatest {fits : Nat → Bool}
    (downward : ∀ small large, small ≤ large → fits large = true → fits small = true)
    (lo hi : Nat) (tooLarge : fits hi = false) {number : Nat} (fitting : fits number = true) :
    number ≤ bisectLast fits lo hi := by
  fun_induction bisectLast fits lo hi with
  | case1 lo hi room mid fitted ih => exact ih tooLarge
  | case2 lo hi room mid failed ih => exact ih (by simpa using failed)
  | case3 lo hi narrow =>
      have below : number < hi := by
        by_contra above
        rw [downward hi number (by omega) fitting] at tooLarge
        cases tooLarge
      omega

end BracketedSearch
