import Mathlib.Data.List.Pairwise
import Mathlib.Data.List.Range

/-!
# Greedy segments

A scan from left to right looks for admissible spans: from each start the shortest span is
tried first and grown while it stays admissible; the scan goes on after the span found, or one
further if the shortest was not admissible.  So a scan without result only says that no
shortest span is admissible.
-/

namespace GreedySegments

variable (admissible : Nat → Nat → Bool)

/-- Grow a span while its next end is admissible. -/
def grow (start : Nat) : Option Nat → List Nat → Option Nat
  | reached, [] => reached
  | reached, stop :: stops =>
      if admissible start stop then grow start (some stop) stops else reached

/-- The spans found from a start on. -/
def segmentsFrom (minLen n : Nat) : Nat → Nat → List (Nat × Nat)
  | 0, _ => []
  | fuel + 1, start =>
      if n < start + minLen then []
      else
        match grow admissible start none
            (List.range' (start + minLen) (n + 1 - (start + minLen))) with
        | some stop => (start, stop) :: segmentsFrom minLen n fuel stop
        | none => segmentsFrom minLen n fuel (start + 1)

def segments (minLen n : Nat) : List (Nat × Nat) :=
  segmentsFrom admissible minLen n (n + 1) 0

variable {admissible} {minLen n : Nat}

/-- A span that has grown keeps the last admissible end. -/
theorem grow_spec {start : Nat} {reached : Option Nat} {stops : List Nat} {stop : Nat}
    (grown : grow admissible start reached stops = some stop) :
    reached = some stop ∨ stop ∈ stops ∧ admissible start stop = true := by
  induction stops generalizing reached with
  | nil => exact Or.inl grown
  | cons next stops ih =>
      rw [grow] at grown
      split at grown
      · rename_i here
        rcases ih grown with same | ⟨later, admitted⟩
        · cases same
          exact Or.inr ⟨List.mem_cons_self, here⟩
        · exact Or.inr ⟨List.mem_cons_of_mem next later, admitted⟩
      · exact Or.inl grown

theorem grow_some (start stop : Nat) (stops : List Nat) :
    grow admissible start (some stop) stops ≠ none := by
  induction stops generalizing stop with
  | nil => nofun
  | cons next stops ih =>
      rw [grow]
      split
      · exact ih next
      · nofun

variable (admissible) in
/-- A span is found at a start exactly if the shortest is admissible. -/
theorem grow_eq_none_iff {start : Nat} (fits : start + minLen ≤ n) :
    grow admissible start none (List.range' (start + minLen) (n + 1 - (start + minLen))) = none ↔
      admissible start (start + minLen) = false := by
  have more : n + 1 - (start + minLen) = (n - (start + minLen)) + 1 := by omega
  rw [more, List.range'_succ, grow]
  split
  · rename_i here
    rw [here]
    exact iff_of_false (grow_some _ _ _) Bool.noConfusion
  · rename_i here
    exact iff_of_true rfl (Bool.not_eq_true _ ▸ here)

theorem segmentsFrom_eq_nil_iff (fuel start : Nat) (enough : n < start + fuel) :
    segmentsFrom admissible minLen n fuel start = [] ↔
      ∀ lo, start ≤ lo → lo + minLen ≤ n → admissible lo (lo + minLen) = false := by
  induction fuel generalizing start with
  | zero =>
      apply iff_of_true rfl
      intro lo after fits
      omega
  | succ fuel ih =>
      rw [segmentsFrom]
      by_cases fits : start + minLen ≤ n
      · rw [if_neg (by omega)]
        have shortest := grow_eq_none_iff admissible fits
        cases found : grow admissible start none
            (List.range' (start + minLen) (n + 1 - (start + minLen))) with
        | some stop =>
            rw [found] at shortest
            apply iff_of_false nofun
            intro never
            cases shortest.mpr (never start le_rfl fits)
        | none =>
            have here := shortest.mp found
            rw [ih (start + 1) (by omega)]
            constructor
            · intro later lo after bound
              rcases Nat.eq_or_lt_of_le after with rfl | further
              · exact here
              · exact later lo further bound
            · intro all lo after bound
              exact all lo (by omega) bound
      · rw [if_pos (by omega)]
        apply iff_of_true rfl
        intro lo after bound
        omega

/-- The scan finds nothing exactly if no span of the least length is admissible. -/
theorem segments_eq_nil_iff :
    segments admissible minLen n = [] ↔
      ∀ lo, lo + minLen ≤ n → admissible lo (lo + minLen) = false := by
  rw [segments, segmentsFrom_eq_nil_iff (n + 1) 0 (by omega)]
  constructor
  · intro all lo bound
    exact all lo (Nat.zero_le lo) bound
  · intro all lo _ bound
    exact all lo bound

/-- A span that is admissible, long enough and within the bounds. -/
structure Segment (admissible : Nat → Nat → Bool) (minLen n start : Nat)
    (span : Nat × Nat) : Prop where
  after : start ≤ span.1
  long : span.1 + minLen ≤ span.2
  within : span.2 ≤ n
  admitted : admissible span.1 span.2 = true

/-- The spans found are admissible and follow one another. -/
theorem segmentsFrom_spec (fuel start : Nat) :
    (∀ span ∈ segmentsFrom admissible minLen n fuel start,
      Segment admissible minLen n start span) ∧
    (segmentsFrom admissible minLen n fuel start).Pairwise fun first second =>
      first.2 ≤ second.1 := by
  induction fuel generalizing start with
  | zero => exact ⟨nofun, List.Pairwise.nil⟩
  | succ fuel ih =>
      rw [segmentsFrom]
      split
      · exact ⟨nofun, List.Pairwise.nil⟩
      · cases found : grow admissible start none
            (List.range' (start + minLen) (n + 1 - (start + minLen))) with
        | none =>
            obtain ⟨each, ordered⟩ := ih (start + 1)
            refine ⟨fun span member => ?_, ordered⟩
            have segment := each span member
            exact ⟨Nat.le_of_succ_le segment.after, segment.long, segment.within,
              segment.admitted⟩
        | some stop =>
            obtain ⟨each, ordered⟩ := ih stop
            rcases grow_spec found with impossible | ⟨member, admitted⟩
            · cases impossible
            · obtain ⟨low, high⟩ := List.mem_range'_1.mp member
              refine ⟨fun span listed => ?_, List.pairwise_cons.mpr ⟨?_, ordered⟩⟩
              · rcases List.mem_cons.mp listed with rfl | later
                · exact ⟨le_rfl, low, by dsimp only; omega, admitted⟩
                · have segment := each span later
                  have after := segment.after
                  exact ⟨by omega, segment.long, segment.within, segment.admitted⟩
              · intro span later
                exact (each span later).after

/-! ## Every span is maximal -/

/-- A span that is admissible at every length from the least on, and at no greater one. -/
structure Maximal (admissible : Nat → Nat → Bool) (minLen n : Nat) (span : Nat × Nat) :
    Prop where
  long : span.1 + minLen ≤ span.2
  within : span.2 ≤ n
  admitted : ∀ stop, span.1 + minLen ≤ stop → stop ≤ span.2 → admissible span.1 stop = true
  stops : span.2 = n ∨ admissible span.1 (span.2 + 1) = false

/-- The spans follow one another, and none starts where they leave a place. -/
structure Greedy (admissible : Nat → Nat → Bool) (minLen n start : Nat)
    (spans : List (Nat × Nat)) : Prop where
  ordered : spans.Pairwise fun first second => first.2 ≤ second.1
  maximal : ∀ span ∈ spans, Maximal admissible minLen n span
  uncovered : ∀ lo, start ≤ lo → lo + minLen ≤ n →
    (∀ span ∈ spans, ¬ (span.1 ≤ lo ∧ lo < span.2)) → admissible lo (lo + minLen) = false

/-- Growing reaches the last end in front of one that is not admissible. -/
theorem grow_range' {start first count stop : Nat} {reached : Option Nat}
    (grown : grow admissible start reached (List.range' first count) = some stop) :
    reached = some stop ∧ (count = 0 ∨ admissible start first = false) ∨
      first ≤ stop ∧ stop < first + count ∧
        (∀ between, first ≤ between → between ≤ stop → admissible start between = true) ∧
        (stop + 1 = first + count ∨ admissible start (stop + 1) = false) := by
  induction count generalizing first reached with
  | zero => exact Or.inl ⟨grown, Or.inl rfl⟩
  | succ count ih =>
      rw [List.range'_succ, grow] at grown
      by_cases here : admissible start first = true
      · rw [if_pos here] at grown
        right
        rcases ih grown with ⟨same, ends⟩ | ⟨low, high, admitted, ends⟩
        · obtain rfl := Option.some_inj.mp same
          refine ⟨le_rfl, by omega, ?_, ?_⟩
          · intro between after before
            obtain rfl : between = first := by omega
            exact here
          · rcases ends with rfl | stopped
            · exact Or.inl rfl
            · exact Or.inr stopped
        · refine ⟨by omega, by omega, ?_, ?_⟩
          · intro between after before
            rcases Nat.eq_or_lt_of_le after with rfl | later
            · exact here
            · exact admitted between later before
          · rcases ends with atEnd | stopped
            · exact Or.inl (by omega)
            · exact Or.inr stopped
      · rw [if_neg here] at grown
        exact Or.inl ⟨grown, Or.inr (Bool.not_eq_true _ ▸ here)⟩

/-- What the scan finds at a start is maximal. -/
theorem maximal_of_grow {start stop : Nat} (fits : start + minLen ≤ n)
    (grown : grow admissible start none
      (List.range' (start + minLen) (n + 1 - (start + minLen))) = some stop) :
    Maximal admissible minLen n (start, stop) := by
  rcases grow_range' grown with ⟨impossible, -⟩ | ⟨low, high, admitted, ends⟩
  · cases impossible
  · refine ⟨low, by dsimp only; omega, admitted, ?_⟩
    rcases ends with atEnd | stopped
    · exact Or.inl (by dsimp only; omega)
    · exact Or.inr stopped

/-- The scan advances with every span: spans have a length. -/
def Advances (admissible : Nat → Nat → Bool) (minLen : Nat) : Prop :=
  0 < minLen ∨ ∀ start, admissible start start = false

theorem Maximal.lt (advances : Advances admissible minLen) {span : Nat × Nat}
    (maximal : Maximal admissible minLen n span) : span.1 < span.2 := by
  have long := maximal.long
  rcases advances with positive | never
  · omega
  · have admitted := maximal.admitted span.2 long le_rfl
    rcases Nat.eq_or_lt_of_le (show span.1 ≤ span.2 by omega) with same | shorter
    · rw [← same, never] at admitted
      cases admitted
    · exact shorter

theorem segmentsFrom_greedy (advances : Advances admissible minLen) (fuel start : Nat)
    (enough : n < start + fuel) :
    Greedy admissible minLen n start (segmentsFrom admissible minLen n fuel start) := by
  induction fuel generalizing start with
  | zero =>
      refine ⟨List.Pairwise.nil, nofun, ?_⟩
      intro lo after fits
      omega
  | succ fuel ih =>
      refine ⟨(segmentsFrom_spec (fuel + 1) start).2, ?_, ?_⟩
      all_goals rw [segmentsFrom]
      all_goals by_cases fits : start + minLen ≤ n
      · rw [if_neg (by omega)]
        cases found : grow admissible start none
            (List.range' (start + minLen) (n + 1 - (start + minLen))) with
        | none => exact (ih (start + 1) (by omega)).maximal
        | some stop =>
            have here := maximal_of_grow fits found
            have longer : start < stop := here.lt advances
            intro span member
            rcases List.mem_cons.mp member with rfl | later
            · exact here
            · exact (ih stop (by omega)).maximal span later
      · rw [if_pos (by omega)]
        nofun
      · rw [if_neg (by omega)]
        cases found : grow admissible start none
            (List.range' (start + minLen) (n + 1 - (start + minLen))) with
        | none =>
            intro lo after bound open_
            rcases Nat.eq_or_lt_of_le after with rfl | further
            · exact (grow_eq_none_iff admissible fits).mp found
            · exact (ih (start + 1) (by omega)).uncovered lo further bound open_
        | some stop =>
            have longer : start < stop := (maximal_of_grow fits found).lt advances
            intro lo after bound open_
            have outside := open_ (start, stop) List.mem_cons_self
            have further : stop ≤ lo := by
              by_contra before
              exact outside ⟨after, by dsimp only; omega⟩
            exact (ih stop (by omega)).uncovered lo further bound
              fun span member => open_ span (List.mem_cons_of_mem _ member)
      · intro lo after bound
        omega

/-! ## Termination -/

variable (admissible) in
/-- The scan with a bound on its rounds; none if they do not suffice. -/
def scan (minLen n : Nat) : Nat → Nat → Option (List (Nat × Nat))
  | 0, _ => none
  | fuel + 1, start =>
      if n < start + minLen then some []
      else
        match grow admissible start none
            (List.range' (start + minLen) (n + 1 - (start + minLen))) with
        | some stop => (scan minLen n fuel stop).map ((start, stop) :: ·)
        | none => scan minLen n fuel (start + 1)

/-- One round for each place, and two more, are enough. -/
theorem scan_eq (advances : Advances admissible minLen) {fuel bound start : Nat}
    (enough : n < start + fuel) (rounds : 0 < bound) (enough' : n + 1 < start + bound) :
    scan admissible minLen n bound start =
      some (segmentsFrom admissible minLen n fuel start) := by
  induction bound generalizing fuel start with
  | zero => omega
  | succ bound ih =>
      cases fuel with
      | zero => rw [scan, if_pos (by omega), segmentsFrom]
      | succ fuel =>
          rw [scan, segmentsFrom]
          by_cases fits : start + minLen ≤ n
          · rw [if_neg (by omega), if_neg (by omega)]
            cases found : grow admissible start none
                (List.range' (start + minLen) (n + 1 - (start + minLen))) with
            | none => exact ih (by omega) (by omega) (by omega)
            | some stop =>
                have longer : start < stop := (maximal_of_grow fits found).lt advances
                have rest := @ih fuel stop (by omega) (by omega) (by omega)
                simp only [rest, Option.map_some]
          · rw [if_pos (by omega), if_pos (by omega)]

end GreedySegments
