import Mathlib.Data.List.Basic

/-!
# Escapes by doubling

A mark is escaped by writing it twice.  Undoing the escapes in a whole text takes every
two neighbouring marks for one, also where a mark stands for itself; the text comes out as
meant exactly if no run of marks holds two such marks.
-/

/-- A piece of a text: an escaped mark, a mark that stands for itself, or another
symbol. -/
inductive DoubledEscapes.Piece (Symbol : Type*)
  | escape
  | loose
  | other (symbol : Symbol)

namespace DoubledEscapes

variable {Symbol : Type*} [DecidableEq Symbol] (mark : Symbol)

/-- `replace(mark + mark, mark)`. -/
def collapse : List Symbol → List Symbol
  | first :: second :: rest =>
      if first = mark ∧ second = mark then mark :: collapse rest
      else first :: collapse (second :: rest)
  | short => short

def written : List (Piece Symbol) → List Symbol
  | [] => []
  | .escape :: pieces => mark :: mark :: written pieces
  | .loose :: pieces => mark :: written pieces
  | .other symbol :: pieces => symbol :: written pieces

def meant : List (Piece Symbol) → List Symbol
  | [] => []
  | .escape :: pieces => mark :: meant pieces
  | .loose :: pieces => mark :: meant pieces
  | .other symbol :: pieces => symbol :: meant pieces

/-- No run of marks holds two that stand for themselves; `seen` tells if the run before
holds one. -/
def Clear (seen : Bool) : List (Piece Symbol) → Prop
  | [] => True
  | .escape :: pieces => Clear seen pieces
  | .loose :: pieces => seen = false ∧ Clear true pieces
  | .other _ :: pieces => Clear false pieces

omit [DecidableEq Symbol] in
instance decidableClear : ∀ (seen : Bool) (pieces : List (Piece Symbol)),
    Decidable (Clear seen pieces)
  | _, [] => .isTrue trivial
  | seen, .escape :: pieces => decidableClear seen pieces
  | _, .loose :: pieces =>
      have := decidableClear true pieces
      inferInstanceAs (Decidable (_ ∧ _))
  | _, .other _ :: pieces => decidableClear false pieces

/-- The other symbols are not the mark. -/
def Proper (pieces : List (Piece Symbol)) : Prop :=
  ∀ symbol, .other symbol ∈ pieces → symbol ≠ mark

variable {mark}

theorem Proper.rest {piece : Piece Symbol} {pieces : List (Piece Symbol)}
    (proper : Proper mark (piece :: pieces)) : Proper mark pieces :=
  fun symbol member => proper symbol (List.mem_cons_of_mem piece member)

@[simp]
theorem collapse_marks (rest : List Symbol) :
    collapse mark (mark :: mark :: rest) = mark :: collapse mark rest := by
  simp [collapse]

theorem collapse_other {symbol : Symbol} (different : symbol ≠ mark) (rest : List Symbol) :
    collapse mark (symbol :: rest) = symbol :: collapse mark rest := by
  cases rest with
  | nil => rfl
  | cons second rest => simp [collapse, different]

theorem collapse_mark_other {symbol : Symbol} (different : symbol ≠ mark)
    (rest : List Symbol) :
    collapse mark (mark :: symbol :: rest) = mark :: symbol :: collapse mark rest := by
  rw [collapse, if_neg (fun both => different both.2), collapse_other different]

/-- Collapsing leaves no more than is meant, also after a mark. -/
theorem length_collapse_le {pieces : List (Piece Symbol)} (proper : Proper mark pieces) :
    (collapse mark (written mark pieces)).length ≤ (meant mark pieces).length ∧
      (collapse mark (mark :: written mark pieces)).length ≤
        (meant mark pieces).length + 1 := by
  induction pieces with
  | nil => simp [written, meant, collapse]
  | cons piece pieces ih =>
      obtain ⟨plain, pending⟩ := ih proper.rest
      cases piece with
      | escape =>
          simp only [written, meant, collapse_marks, List.length_cons]
          omega
      | loose =>
          simp only [written, meant, collapse_marks, List.length_cons]
          omega
      | other symbol =>
          have different := proper symbol List.mem_cons_self
          simp only [written, meant, collapse_other different, collapse_mark_other different,
            List.length_cons]
          omega

/-- By induction on the pieces, with a mark pending or not. -/
theorem collapse_iff {pieces : List (Piece Symbol)} (proper : Proper mark pieces) :
    (collapse mark (written mark pieces) = meant mark pieces ↔ Clear false pieces) ∧
      (collapse mark (mark :: written mark pieces) = mark :: meant mark pieces ↔
        Clear true pieces) := by
  induction pieces with
  | nil => simp [written, meant, collapse, Clear]
  | cons piece pieces ih =>
      obtain ⟨plain, pending⟩ := ih proper.rest
      cases piece with
      | escape =>
          simp only [written, meant, collapse_marks, Clear, List.cons.injEq, true_and]
          exact ⟨plain, pending⟩
      | loose =>
          simp only [written, meant, collapse_marks, Clear, List.cons.injEq, true_and,
            Bool.true_eq_false, false_and, iff_false]
          refine ⟨pending, fun same => ?_⟩
          -- Two loose marks give one: too few symbols are left.
          have fewer := (length_collapse_le proper.rest).1
          rw [same, List.length_cons] at fewer
          omega
      | other symbol =>
          have different := proper symbol List.mem_cons_self
          simp only [written, meant, collapse_other different, collapse_mark_other different,
            Clear, List.cons.injEq, true_and]
          exact ⟨plain, plain⟩

theorem collapse_eq_meant_iff {pieces : List (Piece Symbol)} (proper : Proper mark pieces) :
    collapse mark (written mark pieces) = meant mark pieces ↔ Clear false pieces :=
  (collapse_iff proper).1

/-- The symbols other than the mark. -/
def others (mark : Symbol) (text : List Symbol) : Nat :=
  (text.filter (· ≠ mark)).length

@[simp]
theorem others_append (first second : List Symbol) :
    others mark (first ++ second) = others mark first + others mark second := by
  simp [others]

@[simp]
theorem others_mark_cons (text : List Symbol) : others mark (mark :: text) = others mark text := by
  simp [others]

theorem others_cons {symbol : Symbol} (different : symbol ≠ mark) (text : List Symbol) :
    others mark (symbol :: text) = others mark text + 1 := by
  simp [others, different]

/-- Collapsing touches marks only. -/
theorem others_collapse (text : List Symbol) :
    others mark (collapse mark text) = others mark text := by
  fun_induction collapse mark text with
  | case1 first second rest both ih =>
      obtain ⟨rfl, rfl⟩ := both
      simp [ih]
  | case2 first second rest different ih =>
      by_cases isMark : first = mark
      · subst isMark
        rw [others_mark_cons, others_mark_cons, ih]
      · rw [others_cons isMark, others_cons isMark, ih]
  | case3 => rfl

end DoubledEscapes
