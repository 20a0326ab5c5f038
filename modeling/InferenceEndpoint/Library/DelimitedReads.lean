import Mathlib.Data.List.Basic

/-!
# Reading delimited texts

A text arrives in reads that are cut anywhere.  A reader keeps what follows the last
delimiter, and parses what comes before it.  Where parsing can be cut at every delimiter,
the batches together are what parsing the whole text gives.
-/

namespace DelimitedReads

variable {Symbol Item : Type*} [DecidableEq Symbol]

/-- Remove a start of a text. -/
def stripStart : List Symbol → List Symbol → Option (List Symbol)
  | [], text => some text
  | _ :: _, [] => none
  | symbol :: start, head :: text => if symbol = head then stripStart start text else none

/-- What comes before and after the last place of a delimiter. -/
def splitLast (delimiter : List Symbol) : List Symbol → Option (List Symbol × List Symbol)
  | [] => (stripStart delimiter []).map fun rest => ([], rest)
  | head :: text =>
      match splitLast delimiter text with
      | some (before, after) => some (head :: before, after)
      | none => (stripStart delimiter (head :: text)).map fun rest => ([], rest)

theorem stripStart_eq_some {start text rest : List Symbol} :
    stripStart start text = some rest ↔ text = start ++ rest := by
  induction start generalizing text with
  | nil => simp [stripStart, eq_comm]
  | cons symbol start ih =>
      cases text with
      | nil => simp [stripStart]
      | cons head text =>
          by_cases same : symbol = head
          · simp [stripStart, same, ih]
          · simp [stripStart, same, Ne.symm same]

/-- A start without a symbol is not found across that symbol. -/
theorem stripStart_append {start : List Symbol} {stop : Symbol} (absent : stop ∉ start)
    (text rest : List Symbol) :
    stripStart start (text ++ stop :: rest) =
      (stripStart start text).map (· ++ stop :: rest) := by
  induction start generalizing text with
  | nil => rfl
  | cons symbol start ih =>
      simp only [List.mem_cons, not_or] at absent
      cases text with
      | nil => simp [stripStart, Ne.symm absent.1]
      | cons head text =>
          by_cases same : symbol = head
          · simpa [stripStart, same] using ih absent.2 text
          · simp [stripStart, same]

theorem splitLast_eq_some {delimiter text before after : List Symbol}
    (split : splitLast delimiter text = some (before, after)) :
    text = before ++ delimiter ++ after := by
  induction text generalizing before with
  | nil =>
      obtain ⟨rest, stripped, equal⟩ := Option.map_eq_some_iff.mp split
      obtain ⟨rfl, rfl⟩ := Prod.mk.inj equal
      exact stripStart_eq_some.mp stripped
  | cons head text ih =>
      rw [splitLast] at split
      cases found : splitLast delimiter text with
      | some pair =>
          obtain ⟨earlier, later⟩ := pair
          simp only [found, Option.some.injEq, Prod.mk.injEq] at split
          obtain ⟨rfl, rfl⟩ := split
          rw [ih found]
          rfl
      | none =>
          rw [found] at split
          obtain ⟨rest, stripped, equal⟩ := Option.map_eq_some_iff.mp split
          obtain ⟨rfl, rfl⟩ := Prod.mk.inj equal
          exact stripStart_eq_some.mp stripped

/-- The last place is found behind anything. -/
theorem splitLast_append {delimiter text before after : List Symbol}
    (split : splitLast delimiter text = some (before, after)) (earlier : List Symbol) :
    splitLast delimiter (earlier ++ text) = some (earlier ++ before, after) := by
  induction earlier with
  | nil => exact split
  | cons head earlier ih => rw [List.cons_append, splitLast, ih]; rfl

/-- A delimiter at the end is the last one. -/
theorem splitLast_append_delimiter {delimiter : List Symbol} (nonempty : delimiter ≠ [])
    (text : List Symbol) : splitLast delimiter (text ++ delimiter) = some (text, []) := by
  have short : ∀ shorter : List Symbol, shorter.length < delimiter.length →
      splitLast delimiter shorter = none := by
    intro shorter less
    cases found : splitLast delimiter shorter with
    | none => rfl
    | some pair =>
        have length := congrArg List.length (splitLast_eq_some (show splitLast delimiter shorter =
          some (pair.1, pair.2) from found))
        simp only [List.length_append] at length
        omega
  have whole : splitLast delimiter delimiter = some ([], []) := by
    cases delimiter with
    | nil => exact absurd rfl nonempty
    | cons head rest =>
        have found : stripStart (head :: rest) (head :: rest) = some [] :=
          stripStart_eq_some.mpr (List.append_nil _).symm
        rw [splitLast, short rest (by simp), found]
        rfl
  simpa using splitLast_append whole text

/-- Nothing is left to split after the last place. -/
theorem splitLast_after {delimiter text before after : List Symbol} (nonempty : delimiter ≠ [])
    (split : splitLast delimiter text = some (before, after)) :
    splitLast delimiter after = none := by
  induction text generalizing before with
  | nil =>
      obtain ⟨rest, stripped, -⟩ := Option.map_eq_some_iff.mp split
      have empty := (List.append_eq_nil_iff.mp (stripStart_eq_some.mp stripped).symm).1
      exact absurd empty nonempty
  | cons head text ih =>
      rw [splitLast] at split
      cases found : splitLast delimiter text with
      | some pair =>
          obtain ⟨earlier, later⟩ := pair
          simp only [found, Option.some.injEq, Prod.mk.injEq] at split
          obtain ⟨-, rfl⟩ := split
          exact ih found
      | none =>
          rw [found] at split
          obtain ⟨rest, stripped, equal⟩ := Option.map_eq_some_iff.mp split
          obtain ⟨-, rfl⟩ := Prod.mk.inj equal
          have parts := stripStart_eq_some.mp stripped
          cases delimiter with
          | nil => exact absurd rfl nonempty
          | cons first delimiter =>
              obtain ⟨-, rfl⟩ := List.cons.inj parts
              cases later : splitLast (first :: delimiter) rest with
              | none => rfl
              | some pair =>
                  have again := splitLast_append (show splitLast (first :: delimiter) rest =
                    some (pair.1, pair.2) from later) delimiter
                  exact absurd (again.symm.trans found) (by simp)

section

variable (delimiter : List Symbol) (parse : List Symbol → List Item)

/-- The batch, if it has anything. -/
def batch (items : List Item) : List (List Item) :=
  if items.isEmpty then [] else [items]

/-- The batches that are parsed after each read, and what is left at the end. -/
def batches (incomplete : List Symbol) : List (List Symbol) → List (List Item)
  | [] => if incomplete.isEmpty then [] else batch (parse incomplete)
  | read :: reads =>
      match splitLast delimiter (incomplete ++ read) with
      | none => batches (incomplete ++ read) reads
      | some (before, after) => batch (parse before) ++ batches after reads

variable {delimiter parse}

theorem flatten_batch (items : List Item) : (batch items).flatten = items := by
  cases items <;> simp [batch]

/-- The batches are `whole` of the text, whatever the reads are, if that can be cut at
every delimiter. -/
theorem flatten_batches {divides : List Symbol → Prop} {whole : List Symbol → List Item}
    (nonempty : delimiter ≠ []) (nothing : parse [] = [])
    (undivided : ∀ text, splitLast delimiter text = none → whole text = parse text)
    (divide : ∀ before after, divides (before ++ delimiter ++ after) → divides after ∧
      whole (before ++ delimiter ++ after) = parse before ++ whole after)
    {incomplete : List Symbol} {reads : List (List Symbol)}
    (unfinished : splitLast delimiter incomplete = none)
    (text : divides (incomplete ++ reads.flatten)) :
    (batches delimiter parse incomplete reads).flatten = whole (incomplete ++ reads.flatten) := by
  induction reads generalizing incomplete with
  | nil =>
      rw [List.flatten_nil, List.append_nil, undivided incomplete unfinished, batches]
      cases incomplete with
      | nil => simp [nothing]
      | cons symbol incomplete => simp [flatten_batch]
  | cons read reads ih =>
      rw [List.flatten_cons, ← List.append_assoc] at text ⊢
      rw [batches]
      cases split : splitLast delimiter (incomplete ++ read) with
      | none => exact ih split text
      | some pair =>
          obtain ⟨before, after⟩ := pair
          rw [splitLast_eq_some split, List.append_assoc _ after] at text ⊢
          obtain ⟨later, parsed⟩ := divide before (after ++ reads.flatten) text
          rw [parsed, List.flatten_append, flatten_batch]
          exact congrArg _ (ih (splitLast_after nonempty split) later)

end

end DelimitedReads
