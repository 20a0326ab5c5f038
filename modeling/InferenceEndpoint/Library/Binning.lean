import Mathlib.Algebra.BigOperators.Group.List.Basic
import Mathlib.Algebra.Order.Ring.Nat
import Mathlib.Data.List.Basic
import Mathlib.Data.List.TakeWhile
import Mathlib.Order.Lattice

/-!
# Bins

Values are counted between edges.  A bin holds the values from its lower edge on that are below
its upper edge, and the last bin its upper edge, too.  A search for the last edge that is not
above a value finds the same bin, so both ways of counting agree and no value is lost.
-/

namespace Binning

variable {Value : Type*} [LinearOrder Value]

/-- How many of the values are in each bin. -/
def binCounts : List Value → List Value → List Nat
  | [], _ => []
  | [_], _ => []
  | [low, high], values => [values.countP fun value => low ≤ value ∧ value ≤ high]
  | low :: high :: edge :: edges, values =>
      (values.countP fun value => low ≤ value ∧ value < high) ::
        binCounts (high :: edge :: edges) values

/-- How many of the sorted edges are not above the value. -/
def bisectRight (edges : List Value) (value : Value) : Nat :=
  (edges.takeWhile (· ≤ value)).length

/-- The bin found by a search, which has no bins before the first one and after the last one. -/
def bucketOf (edges : List Value) (value : Value) : Nat :=
  min (bisectRight edges value - 1) (edges.length - 2)

/-- Values that come with their number, counted by search. -/
def tally (edges : List Value) (entries : List (Value × Nat)) : List Nat :=
  entries.foldl (fun counts entry => counts.modify (bucketOf edges entry.1) (· + entry.2))
    (List.replicate (edges.length - 1) 0)

/-- The values of the entries, one by one. -/
def expand (entries : List (Value × Nat)) : List Value :=
  entries.flatMap fun entry => List.replicate entry.2 entry.1

/-- The value, or the outer edge next to it. -/
def clip (edges : List Value) (value : Value) : Value :=
  min (max value (edges.head?.getD value)) (edges.getLast?.getD value)

/-- The number of values for each of the bins. -/
def perBucket (edges values : List Value) : List Nat :=
  (List.range (edges.length - 1)).map fun bin =>
    values.countP fun value => bucketOf edges value = bin

theorem bucketOf_lt {edges : List Value} (two : 2 ≤ edges.length) (value : Value) :
    bucketOf edges value < edges.length - 1 := by
  have clamped : bucketOf edges value ≤ edges.length - 2 := Nat.min_le_right _ _
  omega

/-- From its second edge on, a list of edges is searched like its tail. -/
theorem bucketOf_cons {low high edge : Value} {edges : List Value} {value : Value}
    (above : low ≤ value) :
    bucketOf (low :: high :: edge :: edges) value =
      if high ≤ value then bucketOf (high :: edge :: edges) value + 1 else 0 := by
  unfold bucketOf bisectRight
  by_cases reached : high ≤ value
  · simp only [List.takeWhile_cons, above, reached, decide_true, if_true, List.length_cons]
    omega
  · simp [List.takeWhile_cons, above, reached]

theorem binCounts_eq {edges values : List Value} (sorted : edges.Pairwise (· ≤ ·))
    (below : ∀ value ∈ values, ∀ last ∈ edges.getLast?, value ≤ last) :
    binCounts edges values = (List.range (edges.length - 1)).map fun bin =>
      values.countP fun value =>
        (∀ first ∈ edges.head?, first ≤ value) ∧ bucketOf edges value = bin := by
  induction edges, values using binCounts.induct with
  | case1 | case2 => rfl
  | case3 low high values =>
      simp only [binCounts, List.length_cons, List.length_nil, Nat.zero_add, Nat.add_sub_cancel,
        List.range_one, List.map_cons, List.map_nil, List.head?_cons, Option.mem_some_iff,
        forall_eq', bucketOf, Nat.sub_self, Nat.min_zero, and_true]
      congr 1
      apply List.countP_congr
      intro value member
      have last : value ≤ high := below value member high (by simp)
      simp [last]
  | case4 low high edge edges values ih =>
      obtain ⟨lowFirst, later⟩ := List.pairwise_cons.mp sorted
      have tail := ih later fun value member last isLast =>
        below value member last (by simpa using isLast)
      have length : (low :: high :: edge :: edges).length - 1 = edges.length + 1 + 1 := by simp
      rw [binCounts, tail, length, List.range_succ_eq_map, List.map_cons, List.map_map]
      congr 1
      · apply List.countP_congr
        intro value _
        simp only [List.head?_cons, Option.mem_some_iff, forall_eq', decide_eq_true_eq]
        constructor
        · rintro ⟨above, before⟩
          exact ⟨above, by rw [bucketOf_cons above, if_neg (not_le.mpr before)]⟩
        · rintro ⟨above, first⟩
          refine ⟨above, not_le.mp fun reached => ?_⟩
          rw [bucketOf_cons above, if_pos reached] at first
          cases first
      · apply List.map_congr_left
        intro bin _
        apply List.countP_congr
        intro value _
        simp only [List.head?_cons, Option.mem_some_iff, forall_eq', decide_eq_true_eq]
        constructor
        · rintro ⟨reached, same⟩
          have above : low ≤ value := (lowFirst high (by simp)).trans reached
          exact ⟨above, by rw [bucketOf_cons above, if_pos reached, same]⟩
        · rintro ⟨above, same⟩
          rw [bucketOf_cons above] at same
          split at same
          · rename_i reached
            exact ⟨reached, Nat.succ.inj same⟩
          · cases same

/-- Between the edges, counting by comparison and by search agree. -/
theorem binCounts_eq_perBucket {edges values : List Value} (sorted : edges.Pairwise (· ≤ ·))
    (above : ∀ value ∈ values, ∀ first ∈ edges.head?, first ≤ value)
    (below : ∀ value ∈ values, ∀ last ∈ edges.getLast?, value ≤ last) :
    binCounts edges values = perBucket edges values := by
  rw [binCounts_eq sorted below, perBucket]
  apply List.map_congr_left
  intro bin _
  apply List.countP_congr
  intro value member
  simp only [decide_eq_true_eq, and_iff_right_iff_imp]
  exact fun _ => above value member

theorem clip_between {edges : List Value} (sorted : edges.Pairwise (· ≤ ·)) (value : Value) :
    (∀ first ∈ edges.head?, first ≤ clip edges value) ∧
      ∀ last ∈ edges.getLast?, clip edges value ≤ last := by
  constructor
  · intro first isFirst
    have ordered : ∀ last ∈ edges.getLast?, first ≤ last := by
      intro last isLast
      cases edges with
      | nil => cases isFirst
      | cons low edges =>
          obtain rfl : low = first := Option.some.inj isFirst
          rcases List.mem_cons.mp (List.mem_of_getLast? isLast) with rfl | member
          · exact le_refl _
          · exact (List.pairwise_cons.mp sorted).1 last member
    unfold clip
    rw [Option.mem_def.mp isFirst, Option.getD_some]
    refine le_min (le_max_right _ _) ?_
    cases last : edges.getLast? with
    | none => simp [List.getLast?_eq_none_iff.mp last] at isFirst
    | some last' => exact ordered last' last
  · intro last isLast
    unfold clip
    rw [Option.mem_def.mp isLast, Option.getD_some]
    exact min_le_right _ _

theorem bisectRight_of_last_le {edges : List Value} (sorted : edges.Pairwise (· ≤ ·))
    {value : Value} (above : ∀ last ∈ edges.getLast?, last ≤ value) :
    bisectRight edges value = edges.length := by
  have all : ∀ edge ∈ edges, edge ≤ value := by
    rcases List.eq_nil_or_concat' edges with rfl | ⟨before, last, rfl⟩
    · simp
    · have reached : last ≤ value := above last (by simp)
      intro edge member
      rcases List.mem_append.mp member with earlier | isLast
      · exact ((List.pairwise_append.mp sorted).2.2 edge earlier last (by simp)).trans reached
      · rwa [List.mem_singleton.mp isLast]
  rw [bisectRight, List.takeWhile_eq_self_iff.mpr (by simpa using all)]

/-- Clipping a value to different edges does not move it to another bin. -/
theorem bucketOf_clip {low high : Value} {edges : List Value}
    (strict : (low :: high :: edges).Pairwise (· < ·)) (value : Value) :
    bucketOf (low :: high :: edges) (clip (low :: high :: edges) value) =
      bucketOf (low :: high :: edges) value := by
  have sorted : (low :: high :: edges).Pairwise (· ≤ ·) := strict.imp le_of_lt
  obtain ⟨last, isLast⟩ : ∃ last, (low :: high :: edges).getLast? = some last :=
    Option.isSome_iff_exists.mp (by simp)
  have lowLast : low ≤ last := by
    rcases List.mem_cons.mp (List.mem_of_getLast? isLast) with rfl | member
    · exact le_refl _
    · exact (List.pairwise_cons.mp sorted).1 last member
  have clipped : clip (low :: high :: edges) value = min (max value low) last := by
    rw [clip, isLast]
    rfl
  rcases lt_or_ge value low with before | above
  · have start : clip (low :: high :: edges) value = low := by
      rw [clipped, max_eq_right before.le, min_eq_left lowLast]
    have lowHigh : ¬ high ≤ low := not_le.mpr ((List.pairwise_cons.mp strict).1 high (by simp))
    rw [start]
    simp [bucketOf, bisectRight, lowHigh, not_le.mpr before]
  · rcases le_total value last with inside | beyond
    · rw [clipped, max_eq_left above, min_eq_left inside]
    · have reached : clip (low :: high :: edges) value = last := by
        rw [clipped, max_eq_left above, min_eq_right beyond]
      have isEnd : ∀ other ∈ (low :: high :: edges).getLast?, last = other := by
        intro other isOther
        exact Option.some.inj (isLast.symm.trans isOther)
      rw [reached, bucketOf, bucketOf,
        bisectRight_of_last_le sorted fun other isOther => (isEnd other isOther).ge,
        bisectRight_of_last_le sorted fun other isOther => isEnd other isOther ▸ beyond]

theorem sum_isBin {bins bin : Nat} (inside : bin < bins) :
    ((List.range bins).map fun other => if bin = other then 1 else 0).sum = 1 := by
  induction bins with
  | zero => exact absurd inside (Nat.not_lt_zero bin)
  | succ bins ih =>
      rw [List.range_succ, List.map_append, List.sum_append, List.map_singleton,
        List.sum_singleton]
      by_cases last : bin = bins
      · subst last
        have none : ((List.range bin).map fun other => if bin = other then 1 else 0) =
            (List.range bin).map fun _ => 0 :=
          List.map_congr_left fun other member =>
            if_neg (Nat.ne_of_gt (List.mem_range.mp member))
        simp [none]
      · rw [ih (by omega), if_neg last]

/-- Every value is in one bucket. -/
theorem sum_perBucket {edges : List Value} (two : 2 ≤ edges.length) (values : List Value) :
    (perBucket edges values).sum = values.length := by
  unfold perBucket
  induction values with
  | nil => simp
  | cons value values ih =>
      simp only [List.countP_cons, decide_eq_true_eq]
      rw [List.sum_map_add, ih, sum_isBin (bucketOf_lt two value), List.length_cons]

theorem perBucket_perm {edges first second : List Value} (perm : first.Perm second) :
    perBucket edges first = perBucket edges second :=
  List.map_congr_left fun _ _ => perm.countP_eq _

theorem perBucket_map {edges : List Value} {values : List Value} {move : Value → Value}
    (same : ∀ value ∈ values, bucketOf edges (move value) = bucketOf edges value) :
    perBucket edges (values.map move) = perBucket edges values := by
  apply List.map_congr_left
  intro bin _
  rw [List.countP_map]
  apply List.countP_congr
  intro value member
  simp [same value member]

theorem modify_perBucket (edges values : List Value) (entry : Value × Nat) :
    (perBucket edges values).modify (bucketOf edges entry.1) (· + entry.2) =
      perBucket edges (values ++ List.replicate entry.2 entry.1) := by
  apply List.ext_getElem
  · simp [perBucket]
  · intro bin _ _
    rw [List.getElem_modify]
    simp only [perBucket, List.getElem_map, List.getElem_range, List.countP_append,
      List.countP_replicate, decide_eq_true_eq]
    split <;> rfl

/-- The search counts the values of the entries one by one. -/
theorem tally_eq (edges : List Value) (entries : List (Value × Nat)) :
    tally edges entries = perBucket edges (expand entries) := by
  have start : List.replicate (edges.length - 1) 0 = perBucket edges [] := by
    simp [perBucket]
  unfold tally
  rw [start]
  have loop : ∀ (entries : List (Value × Nat)) (before : List Value),
      entries.foldl (fun counts entry => counts.modify (bucketOf edges entry.1) (· + entry.2))
        (perBucket edges before) = perBucket edges (before ++ expand entries) := by
    intro entries
    induction entries with
    | nil => simp [expand]
    | cons entry entries ih =>
        intro before
        rw [List.foldl_cons, modify_perBucket, ih, List.append_assoc]
        rfl
  simpa using loop entries []

end Binning
