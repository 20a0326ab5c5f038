import Mathlib.Data.List.Perm.Basic
import Mathlib.Data.List.Range
import Mathlib.Data.List.Nodup
import Mathlib.Tactic

/-!
# Sample orders

The two permutation orders that the agentic strategy may draw conversations
from.  An order is an infinite iterator over dataset indices: the sequential
one cycles through them, the shuffled one draws every index once and then
reshuffles.  The random generator enters only through the sequence of
permutations its `shuffle` calls apply.
-/

namespace InferenceEndpoint

/-- A random generator, as the sequence of permutations that successive calls
of `rng.shuffle` apply to the list they are given. -/
structure Shuffler where
  shuffle : Nat → List Nat → List Nat
  perm : ∀ call order, (shuffle call order).Perm order

namespace Shuffler

/-- The generator that leaves every list as it is. -/
def identity : Shuffler where
  shuffle _ order := order
  perm _ order := List.Perm.refl order

end Shuffler

/-- State of `SequentialSampleOrder` and `WithoutReplacementSampleOrder`;
`calls` counts the shuffles drawn from the generator so far. -/
inductive SampleOrder
  | sequential (nSamples currIdx : Nat)
  | withoutReplacement (rng : Shuffler) (calls : Nat)
      (indexOrder : List Nat) (currIdx : Nat)

namespace SampleOrder

/-- `SequentialSampleOrder.__init__`. -/
def newSequential (nSamples : Nat) : SampleOrder :=
  .sequential nSamples 0

/-- `WithoutReplacementSampleOrder.__init__`: the cursor starts past the end,
which forces a shuffle at the first draw. -/
def newWithoutReplacement (nSamples : Nat) (rng : Shuffler) : SampleOrder :=
  .withoutReplacement rng 0 (List.range nSamples) (nSamples + 1)

/-- `next_sample_index`. -/
def nextSampleIndex : SampleOrder → Nat × SampleOrder
  | .sequential nSamples currIdx =>
      (currIdx, .sequential nSamples ((currIdx + 1) % nSamples))
  | .withoutReplacement rng calls indexOrder currIdx =>
      if currIdx ≥ indexOrder.length then
        let shuffled := rng.shuffle calls indexOrder
        (shuffled.getD 0 0, .withoutReplacement rng (calls + 1) shuffled 1)
      else
        (indexOrder.getD currIdx 0,
          .withoutReplacement rng calls indexOrder (currIdx + 1))

/-! ## Closed form of the draws -/

/-- The index list in force during the given block of draws. -/
def blockOrder (rng : Shuffler) (nSamples : Nat) : Nat → List Nat
  | 0 => rng.shuffle 0 (List.range nSamples)
  | block + 1 => rng.shuffle (block + 1) (blockOrder rng nSamples block)

theorem blockOrder_perm (rng : Shuffler) (nSamples block : Nat) :
    (blockOrder rng nSamples block).Perm (List.range nSamples) := by
  induction block with
  | zero => exact rng.perm 0 _
  | succ block ih => exact (rng.perm (block + 1) _).trans ih

theorem length_blockOrder (rng : Shuffler) (nSamples block : Nat) :
    (blockOrder rng nSamples block).length = nSamples := by
  simpa using (blockOrder_perm rng nSamples block).length_eq

/-- The index that the draw with the given number returns. -/
def drawAt (rng : Option Shuffler) (nSamples draw : Nat) : Nat :=
  match rng with
  | none => draw % nSamples
  | some rng => (blockOrder rng nSamples (draw / nSamples)).getD (draw % nSamples) 0

/-- The order that `_make_conversation_order` builds, after some draws. -/
def afterDraws (rng : Option Shuffler) (nSamples : Nat) : Nat → SampleOrder
  | 0 =>
      match rng with
      | none => newSequential nSamples
      | some rng => newWithoutReplacement nSamples rng
  | draws + 1 => (afterDraws rng nSamples draws).nextSampleIndex.2

theorem afterDraws_sequential (nSamples draws : Nat) :
    afterDraws none nSamples draws = .sequential nSamples (draws % nSamples) := by
  induction draws with
  | zero => simp [afterDraws, newSequential]
  | succ draws ih => simp [afterDraws, ih, nextSampleIndex]

/-- After the first draw the cursor stands one past the last drawn position of
the current block. -/
theorem afterDraws_withoutReplacement {nSamples : Nat} (positive : 0 < nSamples)
    (rng : Shuffler) (draws : Nat) :
    afterDraws (some rng) nSamples (draws + 1) =
      .withoutReplacement rng (draws / nSamples + 1)
        (blockOrder rng nSamples (draws / nSamples))
        (draws % nSamples + 1) := by
  induction draws with
  | zero =>
      simp [afterDraws, newWithoutReplacement, nextSampleIndex, blockOrder,
        Nat.zero_div]
  | succ draws ih =>
      rw [afterDraws, ih, nextSampleIndex]
      by_cases blockEnd : draws % nSamples + 1 = nSamples
      · have divides : nSamples ∣ draws + 1 := by
          refine ⟨draws / nSamples + 1, ?_⟩
          have split := Nat.div_add_mod draws nSamples
          rw [Nat.mul_add, Nat.mul_one]
          omega
        have nextBlock : (draws + 1) / nSamples = draws / nSamples + 1 := by
          rw [Nat.succ_div, if_pos divides]
        have restart : (draws + 1) % nSamples = 0 :=
          Nat.mod_eq_zero_of_dvd divides
        simp [length_blockOrder, blockEnd, nextBlock, restart, blockOrder]
      · have below : draws % nSamples + 1 < nSamples := by
          have := Nat.mod_lt draws positive
          omega
        have nextPosition : (draws + 1) % nSamples = draws % nSamples + 1 := by
          rw [Nat.add_mod, Nat.mod_eq_of_lt (by omega : 1 < nSamples),
            Nat.mod_eq_of_lt below]
        have sameBlock : (draws + 1) / nSamples = draws / nSamples := by
          rw [Nat.succ_div, if_neg (fun divides => by
            have restart := Nat.mod_eq_zero_of_dvd divides
            omega), Nat.add_zero]
        simp [length_blockOrder, Nat.not_le.mpr below, sameBlock, nextPosition]

/-- The iterator and the closed form draw the same indices. -/
theorem nextSampleIndex_afterDraws {nSamples : Nat} (positive : 0 < nSamples)
    (rng : Option Shuffler) (draws : Nat) :
    (afterDraws rng nSamples draws).nextSampleIndex =
      (drawAt rng nSamples draws, afterDraws rng nSamples (draws + 1)) := by
  apply Prod.ext
  · cases rng with
    | none => simp [afterDraws_sequential, nextSampleIndex, drawAt]
    | some rng =>
        cases draws with
        | zero =>
            simp [afterDraws, newWithoutReplacement, nextSampleIndex, drawAt,
              blockOrder, Nat.zero_div]
        | succ draws =>
            have successor := afterDraws_withoutReplacement positive rng (draws + 1)
            rw [afterDraws, afterDraws_withoutReplacement positive rng draws,
              nextSampleIndex] at successor
            rw [afterDraws_withoutReplacement positive rng draws, nextSampleIndex]
            split at successor <;> rename_i position
            · simp only [SampleOrder.withoutReplacement.injEq] at successor
              rw [if_pos position]
              simp only [drawAt]
              rw [← successor.2.2.1, show (draws + 1) % nSamples = 0 by omega]
            · simp only [SampleOrder.withoutReplacement.injEq] at successor
              rw [if_neg position]
              simp only [drawAt]
              rw [← successor.2.2.1,
                show (draws + 1) % nSamples = draws % nSamples + 1 by omega]
  · rfl

private theorem getD_of_lt {order : List Nat} {position : Nat}
    (inside : position < order.length) :
    order.getD position 0 = order[position] := by
  simp [List.getD, inside]

theorem drawAt_lt {nSamples : Nat} (positive : 0 < nSamples)
    (rng : Option Shuffler) (draw : Nat) :
    drawAt rng nSamples draw < nSamples := by
  have position := Nat.mod_lt draw positive
  cases rng with
  | none => exact position
  | some rng =>
      have inside : draw % nSamples <
          (blockOrder rng nSamples (draw / nSamples)).length := by
        rwa [length_blockOrder]
      have member := List.getElem_mem inside
      have inRange := (blockOrder_perm rng nSamples (draw / nSamples)).mem_iff.mp member
      rw [drawAt, getD_of_lt inside]
      exact List.mem_range.mp inRange

/-- Within one block no index is drawn twice. -/
theorem drawAt_injective_in_block {nSamples : Nat} (positive : 0 < nSamples)
    (rng : Option Shuffler) {first second : Nat}
    (sameBlock : first / nSamples = second / nSamples)
    (sameIndex : drawAt rng nSamples first = drawAt rng nSamples second) :
    first = second := by
  have firstPosition := Nat.mod_lt first positive
  have secondPosition := Nat.mod_lt second positive
  have samePosition : first % nSamples = second % nSamples := by
    cases rng with
    | none => exact sameIndex
    | some rng =>
        simp only [drawAt, sameBlock] at sameIndex
        have order := blockOrder_perm rng nSamples (second / nSamples)
        have nodup : (blockOrder rng nSamples (second / nSamples)).Nodup :=
          order.nodup_iff.mpr List.nodup_range
        have firstInside : first % nSamples <
            (blockOrder rng nSamples (second / nSamples)).length := by
          rwa [length_blockOrder]
        have secondInside : second % nSamples <
            (blockOrder rng nSamples (second / nSamples)).length := by
          rwa [length_blockOrder]
        rw [getD_of_lt firstInside,
          getD_of_lt secondInside] at sameIndex
        exact (nodup.getElem_inj_iff).mp sameIndex
  have firstSplit := Nat.div_add_mod first nSamples
  have secondSplit := Nat.div_add_mod second nSamples
  rw [sameBlock, samePosition] at firstSplit
  omega

end SampleOrder

end InferenceEndpoint
