import InferenceEndpoint.Core.Record
import InferenceEndpoint.Evaluation.Extractor
import InferenceEndpoint.Library.OrderedDict
import Mathlib.Algebra.BigOperators.Group.List.Basic
import Mathlib.Algebra.Field.Rat

/-!
# Scorers

A scorer reads the COMPLETE events back from the log, extracts an answer from
each output and compares it with the ground truth.  The base scorer and its
pass@1 comparison are here.  Scores are rational numbers: every sample scores
zero or one, so the sums of the source are exact.
-/

namespace InferenceEndpoint

/-- A cell of the ground truth column. -/
inductive GroundTruth
  | text (text : String)
  | decoded (value : Json)

/-- What scoring reads of a dataset. -/
structure AccuracyDataset where
  numSamples : Nat
  groundTruth : Nat → GroundTruth
  subset : Nat → String := fun _ => ""
  /-- The `func_description` column; `none` where the cell is not a string. -/
  funcDescription : Nat → Option Json := fun _ => none

/-- The texts that payloads of events turn into. -/
structure Payloads where
  /-- `msgspec.json.encode` of tool calls. -/
  encode : List ToolCall → String
  /-- `str` of a payload that is no model output. -/
  repr : EventData → String

namespace Payloads

variable (payloads : Payloads)

/-- `TextModelOutput.__str__`. -/
def outputText (result : TextModelOutput) : String :=
  let reasoning := match result.reasoning with
    | some reasoning => reasoning.parts
    | none => []
  match mergeToolCalls result.toolCalls with
  | some (call :: calls) =>
      joinStrings (reasoning ++ result.output.parts ++ [payloads.encode (call :: calls)])
  | _ => joinStrings (reasoning ++ result.output.parts)

/-- `str(data) if data is not None else ""`. -/
def text : Option EventData → String
  | none => ""
  | some (.output result) => payloads.outputText result
  | some other => payloads.repr other

end Payloads

/-- `sample_idx_map.json`: the row of each issued sample. -/
abbrev SampleIndexMap := OrderedDict QueryId Nat

namespace Scorer

/-- `_iter_complete`. -/
def iterComplete (log : List EventRecord) : List (Option QueryId × Option EventData) :=
  (log.filter fun record => record.eventType = .complete).map fun record =>
    (record.sampleUuid, record.data)

/-- A row whose sample was issued, with the index of the sample. -/
def issuedRow? {Output : Type*} (sampleIndexMap : SampleIndexMap)
    (row : Option QueryId × Output) : Option (QueryId × Nat × Output) :=
  row.1.bind fun uuid => (sampleIndexMap.get? uuid).map fun index => (uuid, index, row.2)

/-- The rows of a frame whose sample was issued. -/
def issuedRows {Output : Type*} (sampleIndexMap : SampleIndexMap)
    (rows : List (Option QueryId × Output)) : List (QueryId × Nat × Output) :=
  rows.filterMap (issuedRow? sampleIndexMap)

theorem issuedRow?_eq_some {Output : Type*} {sampleIndexMap : SampleIndexMap}
    {row : Option QueryId × Output} {issued : QueryId × Nat × Output} :
    issuedRow? sampleIndexMap row = some issued ↔
      row.1 = some issued.1 ∧ sampleIndexMap.get? issued.1 = some issued.2.1 ∧
        row.2 = issued.2.2 := by
  obtain ⟨uuid, output⟩ := row
  obtain ⟨other, index, same⟩ := issued
  simp only [issuedRow?, Option.bind_eq_some_iff, Option.map_eq_some_iff, Prod.mk.injEq]
  constructor
  · rintro ⟨_, rfl, _, found, rfl, rfl, rfl⟩
    exact ⟨rfl, found, rfl⟩
  · rintro ⟨rfl, found, rfl⟩
    exact ⟨other, rfl, index, found, rfl, rfl, rfl⟩

/-- A log without the COMPLETE lines that carry no data. -/
def withoutFailures (log : List EventRecord) : List EventRecord :=
  log.filter fun record => !(record.eventType = .complete && record.data.isNone)

theorem iterComplete_withoutFailures (log : List EventRecord) :
    iterComplete (withoutFailures log) = (iterComplete log).filter fun row => row.2.isSome := by
  induction log with
  | nil => rfl
  | cons record log induction =>
      simp only [iterComplete, withoutFailures] at induction ⊢
      by_cases complete : record.eventType = .complete
      · cases data : record.data with
        | none => simpa [complete, data] using induction
        | some payload => simpa [complete, data] using induction
      · simpa [complete] using induction

theorem issuedRows_filter {Output : Type*} (sampleIndexMap : SampleIndexMap)
    (keep : Output → Bool) (rows : List (Option QueryId × Output)) :
    issuedRows sampleIndexMap (rows.filter fun row => keep row.2) =
      (issuedRows sampleIndexMap rows).filter fun row => keep row.2.2 := by
  induction rows with
  | nil => rfl
  | cons row rows induction =>
      simp only [issuedRows] at induction ⊢
      cases found : issuedRow? sampleIndexMap row with
      | none =>
          rw [List.filterMap_cons_none found, ← induction]
          cases kept : keep row.2 with
          | true =>
              rw [List.filter_cons_of_pos (by simpa using kept), List.filterMap_cons_none found]
          | false => rw [List.filter_cons_of_neg (by simp [kept])]
      | some issued =>
          have same : row.2 = issued.2.2 := (issuedRow?_eq_some.mp found).2.2
          rw [List.filterMap_cons_some found]
          cases kept : keep row.2 with
          | true =>
              rw [List.filter_cons_of_pos (by simpa using kept), List.filterMap_cons_some found,
                List.filter_cons_of_pos (by simpa [← same] using kept), induction]
          | false =>
              rw [List.filter_cons_of_neg (by simp [kept]),
                List.filter_cons_of_neg (by simp [← same, kept]), induction]

/-- The sample of an issued row was issued. -/
theorem get?_of_mem_issuedRows {Output : Type*} {sampleIndexMap : SampleIndexMap}
    {rows : List (Option QueryId × Output)} {issued : QueryId × Nat × Output}
    (member : issued ∈ issuedRows sampleIndexMap rows) :
    sampleIndexMap.get? issued.1 = some issued.2.1 := by
  obtain ⟨row, _, found⟩ := List.mem_filterMap.mp member
  exact (issuedRow?_eq_some.mp found).2.1

end Scorer

/-! ## Pass@1 -/

namespace PassAt1Scorer

/-- `_exact_match` with what an extractor returned. -/
def scoreSingleSample (value : Option String) : GroundTruth → ℚ
  | .text text => if value = some text then 1 else 0
  | .decoded .null => if value = none then 1 else 0
  | .decoded _ => 0

variable (py : Python) (payloads : Payloads)

/-- What a row contributes to the sum of the scores. -/
def contribution (extractor : Option Extractor) (dataset : AccuracyDataset)
    (row : QueryId × Nat × Option EventData) : ℚ :=
  let output := payloads.text row.2.2
  let empirical := match extractor with
    | some extractor => extractor.extract py output none
    | none => some output
  scoreSingleSample empirical (dataset.groundTruth row.2.1)

/-- `Scorer.score`: the score, if there is one, and `n_repeats`. -/
def score (extractor : Option Extractor) (dataset : AccuracyDataset)
    (sampleIndexMap : SampleIndexMap) (log : List EventRecord) : Option ℚ × Nat :=
  let rows := Scorer.issuedRows sampleIndexMap (Scorer.iterComplete log)
  let issued := sampleIndexMap.size
  if issued = 0 then (none, 0)
  else if rows.isEmpty then (some 0, issued / dataset.numSamples)
  else
    (some ((rows.map (contribution py payloads extractor dataset)).sum / issued),
      issued / dataset.numSamples)

/-- A failed request does not match a ground truth that is a text. -/
theorem contribution_failed (extractor : Option Extractor) (dataset : AccuracyDataset)
    {uuid : QueryId} {index : Nat} {expected : String} (nonempty : expected ≠ "")
    (truth : dataset.groundTruth index = .text expected) :
    contribution py payloads extractor dataset (uuid, index, none) = 0 := by
  have unmatched : ∀ value : Option String, value = none ∨ value = some "" →
      scoreSingleSample value (.text expected) = 0 := by
    rintro value (rfl | rfl)
    · rfl
    · simp [scoreSingleSample, nonempty.symm]
  simp only [contribution, Payloads.text, truth]
  apply unmatched
  cases extractor with
  | none => exact Or.inr rfl
  | some extractor => exact extractor.extract_empty py

/-- Rows that contribute nothing may be left out. -/
theorem sum_filter {Row : Type*} (grade : Row → ℚ) (keep : Row → Bool) (rows : List Row)
    (nothing : ∀ row ∈ rows, keep row = false → grade row = 0) :
    ((rows.filter keep).map grade).sum = (rows.map grade).sum := by
  induction rows with
  | nil => rfl
  | cons row rows induction =>
      have rest := induction fun other member => nothing other (List.mem_cons_of_mem _ member)
      cases kept : keep row with
      | true => simp [List.filter_cons_of_pos, kept, rest]
      | false =>
          have none_ := nothing row List.mem_cons_self kept
          simp [List.filter_cons_of_neg, kept, rest, none_]

/-- Deleting the failures leaves the score as it is. -/
theorem score_withoutFailures (extractor : Option Extractor) (dataset : AccuracyDataset)
    (sampleIndexMap : SampleIndexMap) (log : List EventRecord)
    (truths : ∀ uuid index, sampleIndexMap.get? uuid = some index →
      ∃ expected, expected ≠ "" ∧ dataset.groundTruth index = .text expected) :
    score py payloads extractor dataset sampleIndexMap (Scorer.withoutFailures log) =
      score py payloads extractor dataset sampleIndexMap log := by
  have rows : Scorer.issuedRows sampleIndexMap
      (Scorer.iterComplete (Scorer.withoutFailures log)) =
        (Scorer.issuedRows sampleIndexMap (Scorer.iterComplete log)).filter
          fun row => row.2.2.isSome := by
    rw [Scorer.iterComplete_withoutFailures]
    exact Scorer.issuedRows_filter sampleIndexMap Option.isSome _
  have sums := sum_filter (contribution py payloads extractor dataset)
    (fun row => row.2.2.isSome)
    (Scorer.issuedRows sampleIndexMap (Scorer.iterComplete log)) (by
      rintro ⟨uuid, index, data⟩ member failed
      obtain rfl : data = none := by simpa using failed
      obtain ⟨expected, nonempty, truth⟩ :=
        truths uuid index (Scorer.get?_of_mem_issuedRows member)
      exact contribution_failed py payloads extractor dataset nonempty truth)
  unfold score
  dsimp only
  rw [rows]
  split
  · rfl
  · split
    · rename_i empty
      split
      · rfl
      · rw [← sums, List.isEmpty_iff.mp empty, List.map_nil, List.sum_nil, zero_div]
    · rename_i kept
      split
      · rename_i empty
        rw [List.isEmpty_iff.mp empty] at kept
        simp at kept
      · rw [sums]

end PassAt1Scorer

end InferenceEndpoint
