import Mathlib.Algebra.Order.Ring.Unbundled.Rat
import Mathlib.Algebra.BigOperators.Group.List.Basic
import Mathlib.Data.List.Sort
import Mathlib.Data.List.TakeWhile
import Mathlib.Tactic.Linarith
import Mathlib.Tactic.Ring

/-!
# Average ranks

Tied values share the average of their ranks.  Twice a rank is one more than the number of
values with, once more, those below and without those above; so the rank sums of a first
part of a sequence count how its values compare with those of the second part.
-/

namespace AverageRanks

variable {Value : Type*} [LinearOrder Value]

/-- The values with their positions, in ascending order. -/
def ascending (values : List Value) : List (Value × Nat) :=
  values.zipIdx.insertionSort fun first second => first.1 ≤ second.1

/-- The ranks of the positions from `start` on: the tied values at the front share the average
of theirs. -/
def tieRanks : Nat → Nat → List (Value × Nat) → List (Nat × ℚ)
  | 0, _, _ => []
  | _ + 1, _, [] => []
  | fuel + 1, start, head :: rest =>
      let tied := head :: rest.takeWhile (·.1 = head.1)
      tied.map (fun entry => (entry.2, (((start + 1) + (start + tied.length) : Nat) : ℚ) / 2)) ++
        tieRanks fuel (start + tied.length) (rest.dropWhile (·.1 = head.1))

def averageRanks (values : List Value) : List ℚ :=
  (List.range values.length).map fun position =>
    ((tieRanks values.length 0 (ascending values)).lookup position).getD 0

/-- The average rank of a value among others, counted. -/
def rankOf (values : List Value) (value : Value) : ℚ :=
  values.countP (· < value) + (values.countP (· = value) + 1) / 2

section

variable {entries : List (Value × Nat)}

/-- In ascending order the values tied with the first stand at the front. -/
theorem above_of_ascending {head : Value × Nat} {rest : List (Value × Nat)}
    (sorted : (head :: rest).Pairwise fun first second => first.1 ≤ second.1) :
    ∀ entry ∈ rest.dropWhile (·.1 = head.1), head.1 < entry.1 := by
  induction rest with
  | nil => nofun
  | cons first rest ih =>
      obtain ⟨least, sortedRest⟩ := List.pairwise_cons.mp sorted
      obtain ⟨leastRest, -⟩ := List.pairwise_cons.mp sortedRest
      by_cases tied : first.1 = head.1
      · rw [List.dropWhile_cons_of_pos (by simpa using tied)]
        exact ih (sorted.sublist ((List.sublist_cons_self first rest).cons_cons head))
      · rw [List.dropWhile_cons_of_neg (by simpa using tied)]
        have above := lt_of_le_of_ne (least first List.mem_cons_self) (Ne.symm tied)
        intro entry member
        rcases List.mem_cons.mp member with rfl | member
        · exact above
        · exact above.trans_le (leastRest entry member)

/-- The counts for a value when those tied with the least one are put apart. -/
theorem rankOf_append {least : Value} {tied later : List Value}
    (tie : ∀ value ∈ tied, value = least) (above : ∀ value ∈ later, least < value) :
    rankOf (tied ++ later) least = ((tied.length : ℚ) + 1) / 2 ∧
      ∀ value ∈ later, rankOf (tied ++ later) value = tied.length + rankOf later value := by
  constructor
  · have below : (tied ++ later).countP (· < least) = 0 := by
      refine List.countP_eq_zero.mpr fun value member => ?_
      rcases List.mem_append.mp member with member | member
      · simp [tie value member]
      · simpa using (above value member).le
    have equal : (tied ++ later).countP (· = least) = tied.length := by
      have all : tied.countP (· = least) = tied.length :=
        List.countP_eq_length.mpr fun value member => by simpa using tie value member
      have none_ : later.countP (· = least) = 0 :=
        List.countP_eq_zero.mpr fun value member => by simpa using (above value member).ne'
      rw [List.countP_append, all, none_, Nat.add_zero]
    simp [rankOf, below, equal]
  · intro value member
    have greater := above value member
    have below : tied.countP (· < value) = tied.length :=
      List.countP_eq_length.mpr fun other inTied => by simpa [tie other inTied] using greater
    have equal : tied.countP (· = value) = 0 :=
      List.countP_eq_zero.mpr fun other inTied => by simpa [tie other inTied] using greater.ne
    rw [rankOf, rankOf, List.countP_append, List.countP_append, below, equal]
    push_cast
    ring

theorem tieRanks_eq {fuel : Nat} (start : Nat)
    (sorted : entries.Pairwise fun first second => first.1 ≤ second.1)
    (enough : entries.length ≤ fuel) :
    tieRanks fuel start entries =
      entries.map fun entry => (entry.2, start + rankOf (entries.map Prod.fst) entry.1) := by
  induction fuel generalizing start entries with
  | zero =>
      obtain rfl := List.length_eq_zero_iff.mp (Nat.le_zero.mp enough)
      rfl
  | succ fuel ih =>
      cases entries with
      | nil => rfl
      | cons head rest =>
          let tied := head :: rest.takeWhile (·.1 = head.1)
          let later := rest.dropWhile (·.1 = head.1)
          have parts : head :: rest = tied ++ later := by
            simp [tied, later, List.takeWhile_append_dropWhile]
          have tie : ∀ entry ∈ tied, entry.1 = head.1 := by
            intro entry member
            rcases List.mem_cons.mp member with rfl | member
            · rfl
            · simpa using List.mem_takeWhile_imp member
          have above := above_of_ascending sorted
          obtain ⟨here, there⟩ := rankOf_append
            (fun value member => by
              obtain ⟨entry, inTied, rfl⟩ := List.mem_map.mp member
              exact tie entry inTied)
            (fun value member => by
              obtain ⟨entry, inLater, rfl⟩ := List.mem_map.mp member
              exact above entry inLater)
          have recursive : tieRanks fuel (start + tied.length) later =
              later.map fun entry => (entry.2, ((start + tied.length : Nat) : ℚ) +
                rankOf (later.map Prod.fst) entry.1) := by
            apply ih
            · exact (List.pairwise_cons.mp sorted).2.sublist (List.dropWhile_sublist _)
            · have shorter := (List.dropWhile_sublist (fun entry => decide (entry.1 = head.1))
                (l := rest)).length_le
              simp only [List.length_cons] at enough
              exact shorter.trans (by omega)
          rw [tieRanks]
          change tied.map _ ++ tieRanks fuel (start + tied.length) later = _
          rw [recursive, parts, List.map_append, List.map_append]
          congr 1
          · refine List.map_congr_left fun entry member => ?_
            rw [tie entry member, here, List.length_map]
            push_cast
            exact Prod.ext rfl (by ring)
          · refine List.map_congr_left fun entry member => ?_
            rw [there entry.1 (List.mem_map_of_mem member), List.length_map]
            push_cast
            exact Prod.ext rfl (by ring)

theorem ascending_sorted (values : List Value) :
    (ascending values).Pairwise fun first second => first.1 ≤ second.1 :=
  List.pairwise_insertionSort _ _

theorem ascending_perm (values : List Value) : (ascending values).Perm values.zipIdx :=
  List.perm_insertionSort _ _

theorem rankOf_perm {first second : List Value} (perm : first.Perm second) (value : Value) :
    rankOf first value = rankOf second value := by
  rw [rankOf, rankOf, perm.countP_eq, perm.countP_eq]

theorem averageRanks_eq (values : List Value) :
    averageRanks values = values.map (rankOf values) := by
  have ranks : tieRanks values.length 0 (ascending values) =
      (ascending values).map fun entry => (entry.2, rankOf values entry.1) := by
    have length : (ascending values).length ≤ values.length := by
      rw [(ascending_perm values).length_eq, List.length_zipIdx]
    rw [tieRanks_eq 0 (ascending_sorted values) length]
    refine List.map_congr_left fun entry _ => ?_
    have perm := (ascending_perm values).map Prod.fst
    rw [List.zipIdx_map_fst] at perm
    rw [rankOf_perm perm]
    simp
  rw [averageRanks, ranks]
  apply List.ext_getElem
  · simp
  · intro position bound _
    have bound : position < values.length := by simpa using bound
    have only : ∀ entry ∈ ascending values, entry.2 = position → entry.1 = values[position] := by
      rintro entry member rfl
      have found := List.mem_zipIdx_iff_getElem?.mp ((ascending_perm values).mem_iff.mp member)
      rw [List.getElem?_eq_getElem bound] at found
      exact (Option.some.inj found).symm
    simp only [List.getElem_map, List.getElem_range]
    cases found : ((ascending values).map fun entry =>
        (entry.2, rankOf values entry.1)).lookup position with
    | none =>
        have member : (values[position], position) ∈ ascending values := by
          refine (ascending_perm values).mem_iff.mpr (List.mem_zipIdx_iff_getElem?.mpr ?_)
          exact List.getElem?_eq_getElem bound
        have absent := List.lookup_eq_none_iff.mp found (position, rankOf values values[position])
          (List.mem_map.mpr ⟨_, member, rfl⟩)
        simp at absent
    | some rank =>
        obtain ⟨before, after, split, -⟩ := List.lookup_eq_some_iff.mp found
        have member : (position, rank) ∈ (ascending values).map fun entry =>
            (entry.2, rankOf values entry.1) := by
          rw [split]
          exact List.mem_append_right _ List.mem_cons_self
        obtain ⟨entry, inValues, same⟩ := List.mem_map.mp member
        obtain ⟨here, rfl⟩ := Prod.mk.inj same
        rw [Option.getD_some, only entry inValues here]

end

/-! ## Comparisons -/

/-- `1`, `-1` or `0` as the first value is above, below or equal to the second. -/
def sign (first second : Value) : ℤ :=
  if second < first then 1 else if first < second then -1 else 0

/-- How a value compares with others. -/
def signSum (value : Value) (others : List Value) : ℤ :=
  (others.map (sign value)).sum

/-- How the values of one list compare with those of another. -/
def signStatistic (first second : List Value) : ℤ :=
  (first.map fun value => signSum value second).sum

theorem sign_swap (first second : Value) : sign second first = -sign first second := by
  rcases lt_trichotomy first second with less | rfl | greater
  · simp [sign, less, less.not_gt]
  · simp [sign]
  · simp [sign, greater, greater.not_gt]

theorem two_mul_rankOf (values : List Value) (value : Value) :
    2 * rankOf values value - (values.length + 1) = signSum value values := by
  induction values with
  | nil => simp [rankOf, signSum]
  | cons head values ih =>
      have step : 2 * rankOf (head :: values) value - ((head :: values).length + 1) =
          2 * rankOf values value - (values.length + 1) + sign value head := by
        rw [rankOf, rankOf, List.countP_cons, List.countP_cons, List.length_cons, sign]
        rcases lt_trichotomy head value with less | rfl | greater
        · simp only [less, less.ne, less.not_gt, decide_true, decide_false, if_true, if_false]
          push_cast
          norm_num
          ring
        · simp only [lt_irrefl, decide_true, decide_false, if_true, if_false]
          push_cast
          norm_num
          ring
        · simp only [greater, greater.ne', greater.not_gt, decide_false, if_true, if_false]
          push_cast
          norm_num
          ring
      rw [step, ih, signSum, signSum, List.map_cons, List.sum_cons]
      push_cast
      ring

theorem signStatistic_cons_right (first second : List Value) (head : Value) :
    signStatistic first (head :: second) = -signSum head first + signStatistic first second := by
  induction first with
  | nil => rfl
  | cons value first ih =>
      simp only [signStatistic, signSum, List.map_cons, List.sum_cons] at ih ⊢
      rw [ih, sign_swap value head]
      ring

theorem signStatistic_self (values : List Value) : signStatistic values values = 0 := by
  induction values with
  | nil => rfl
  | cons head values ih =>
      have here : sign head head = 0 := by simp [sign]
      rw [signStatistic_cons_right]
      simp only [signStatistic, List.map_cons, List.sum_cons] at ih ⊢
      rw [ih]
      simp only [signSum, List.map_cons, List.sum_cons, here]
      ring

theorem signStatistic_append_right (first second third : List Value) :
    signStatistic first (second ++ third) =
      signStatistic first second + signStatistic first third := by
  induction first with
  | nil => rfl
  | cons value first ih =>
      simp only [signStatistic, signSum, List.map_cons, List.sum_cons, List.map_append,
        List.sum_append] at ih ⊢
      rw [ih]
      ring

/-- The rank sum of a first part tells how it compares with the rest. -/
theorem two_mul_sum_averageRanks (values : List Value) {size : Nat} (bound : size ≤ values.length) :
    2 * ((averageRanks values).take size).sum - size * (values.length + 1) =
      signStatistic (values.take size) (values.drop size) := by
  have parts : ∀ first : List Value,
      2 * (first.map (rankOf values)).sum - first.length * (values.length + 1) =
        signStatistic first values := by
    intro first
    induction first with
    | nil => simp [signStatistic]
    | cons value first ih =>
        have here := two_mul_rankOf values value
        simp only [signStatistic, List.map_cons, List.sum_cons, List.length_cons] at ih ⊢
        rw [Int.cast_add, Nat.cast_add, Nat.cast_one]
        rw [← here, ← ih]
        ring
  have whole := parts (values.take size)
  rw [List.length_take_of_le bound] at whole
  rw [averageRanks_eq, ← List.map_take, whole]
  nth_rewrite 2 [← List.take_append_drop size values]
  rw [signStatistic_append_right, signStatistic_self, zero_add]

end AverageRanks
