import InferenceEndpoint.Evaluation.Scoring
import Mathlib.Data.List.Nodup
import Mathlib.Data.List.Perm.Basic
import Mathlib.Tactic.NormNum

/-!
# The BFCL scorer

Function-calling accuracy by subset: hallucination subsets reward the absence of
a tool call, the relevance subset its presence, and the others compare the calls
with the expected ones.  Samples without a COMPLETE event score zero.
-/

namespace Json

open InferenceEndpoint

def size : Json → Nat
  | .array items => items.length
  | .object members => members.length
  | _ => 1

/-- Python truth value. -/
def truthy (py : Python) : Json → Bool
  | .null => false
  | .bool value => value
  | .int value => value ≠ 0
  | .float literal => !py.floatIsZero literal
  | .string text => text ≠ ""
  | .array items => !items.isEmpty
  | .object members => !members.isEmpty

theorem size_pos_of_truthy {py : Python} {value : Json} (holds : value.truthy py = true) :
    0 < value.size := by
  cases value with
  | array items => cases items <;> simp_all [truthy, size]
  | object members => cases members <;> simp_all [truthy, size]
  | _ => exact Nat.zero_lt_one

theorem truthy_emptyArray (py : Python) : (array []).truthy py = false :=
  rfl

end Json

namespace InferenceEndpoint

/-- The arguments of `ast_checker`; an output call is a pair of name and arguments. -/
structure AstCheck where
  funcDescription : Json
  modelOutput : List (Json × Json)
  possibleAnswer : Json
  language : String
  testCategory : String
  modelName : String

/-- `ast_checker(...)["valid"]`. -/
abbrev AstChecker := AstCheck → Bool

/-- A valid output has as many calls as there are answers, or a single one. -/
def AstChecker.CountsCalls (checker : AstChecker) : Prop :=
  ∀ check, checker check = true →
    check.modelOutput.length = 1 ∨ check.modelOutput.length = check.possibleAnswer.size

namespace BFCLv4Scorer

def singleTurnSubsets : List String :=
  ["simple_python", "simple_java", "simple_javascript", "multiple", "parallel",
    "parallel_multiple", "live_simple", "live_multiple", "live_parallel",
    "live_parallel_multiple", "irrelevance", "live_irrelevance", "live_relevance"]

def categoryMap : List (String × List String) :=
  [("non_live", ["simple_python", "simple_java", "simple_javascript", "multiple", "parallel",
      "parallel_multiple"]),
    ("live", ["live_simple", "live_multiple", "live_parallel", "live_parallel_multiple"]),
    ("hallucination", ["irrelevance", "live_irrelevance"]),
    ("multi_turn", ["multi_turn_base", "multi_turn_miss_func", "multi_turn_miss_param",
      "multi_turn_long_context"])]

def hallucinationSubsets : List String :=
  ["irrelevance", "live_irrelevance"]

def relevanceSubsets : List String :=
  ["live_relevance"]

def simpleAstSubsets : List String :=
  ["simple_python", "simple_java", "simple_javascript"]

/-- Subsets that no category aggregates. -/
def unscoredSubsets : List String :=
  singleTurnSubsets.filter fun subset => !categoryMap.any (·.2.contains subset)

def languageName : String → String
  | "simple_java" => "JAVA"
  | "simple_javascript" => "JAVASCRIPT"
  | _ => "PYTHON"

def astCheckerModelName : String :=
  "gpt-4o-2024-11-20-FC"

variable (py : Python) (payloads : Payloads) (checker : AstChecker)

/-- The text to score: the serialized tool calls, if there are any. -/
def scoringText : Option EventData → String
  | some (.output result) =>
      match mergeToolCalls result.toolCalls with
      | some (call :: calls) => payloads.encode (call :: calls)
      | _ => payloads.text (some (.output result))
  | data => payloads.text data

def scoreHallucination (rawOutput : String) : ℚ :=
  if FunctionCallExtractor.hasNativeToolCalls py rawOutput then 0 else 1

def scoreRelevance (rawOutput : String) : ℚ :=
  if FunctionCallExtractor.hasNativeToolCalls py rawOutput then 1 else 0

/-- The arguments of a call, decoded if they are a string. -/
def callArguments (call : List (String × Json)) : Json :=
  match Json.lookup call "arguments" with
  | none => .object []
  | some (.string text) => (Json.loads text).getD (.object [])
  | some arguments => arguments

/-- The calls of the model in the checker's format. -/
def bfclOutput : Json → List (Json × Json)
  | .array items => items.filterMap fun item =>
      match item with
      | .object call => (Json.lookup call "name").map fun name => (name, callArguments call)
      | _ => none
  | _ => []

/-- The decoded ground truth; `none` if it does not decode. -/
def expected? : GroundTruth → Option Json
  | .text text => Json.loads text
  | .decoded value => some value

def scoreAst (value : String) (groundTruth : GroundTruth) (funcDescription : Option Json)
    (subset : String) : ℚ :=
  let modelOutput := (Json.loads value).getD (.array [])
  match expected? groundTruth with
  | none => 0
  | some expected =>
      if !expected.truthy py then (if modelOutput.truthy py then 0 else 1)
      else if checker
          { funcDescription := funcDescription.getD (.array [])
            modelOutput := bfclOutput modelOutput
            possibleAnswer := expected
            language := languageName subset
            testCategory := subset
            modelName := astCheckerModelName } then 1
      else 0

/-- The score of a row: sample, index and payload. -/
def rowScore (dataset : AccuracyDataset) (row : QueryId × Nat × Option EventData) : ℚ :=
  let output := scoringText payloads row.2.2
  let subset := dataset.subset row.2.1
  if hallucinationSubsets.contains subset then scoreHallucination py output
  else if relevanceSubsets.contains subset then scoreRelevance py output
  else
    scoreAst py checker ((FunctionCallExtractor.extract py output (some "[]")).getD "")
      (dataset.groundTruth row.2.1) (dataset.funcDescription row.2.1) subset

/-- `drop_duplicates` on the sample: the first row of each sample stays. -/
def dropDuplicates {Row : Type*} (seen : List QueryId) :
    List (QueryId × Row) → List (QueryId × Row)
  | [] => []
  | row :: rows =>
      if seen.contains row.1 then dropDuplicates seen rows
      else row :: dropDuplicates (row.1 :: seen) rows

def mean (scores : List ℚ) : ℚ :=
  scores.sum / scores.length

/-- The scores in the order of `all_scores`, each under its subset. -/
def graded (dataset : AccuracyDataset) (sampleIndexMap : SampleIndexMap)
    (rows : List (QueryId × Nat × Option EventData)) : List (String × ℚ) :=
  rows.map (fun row => (dataset.subset row.2.1, rowScore py payloads checker dataset row)) ++
    (sampleIndexMap.entries.filter fun sample => !(rows.map (·.1)).contains sample.1).map
      fun sample => (dataset.subset sample.2, 0)

/-- `scores_by_subset`. -/
def scoresBySubset (graded : List (String × ℚ)) (subset : String) : List ℚ :=
  (graded.filter fun grade => grade.1 = subset).map (·.2)

/-- `subset_results`. -/
def subsetResult (graded : List (String × ℚ)) (subset : String) : Option ℚ :=
  match scoresBySubset graded subset with
  | [] => none
  | scores => some (mean scores)

/-- The aggregate of a category, from the results and the sizes of its subsets. -/
def categoryResult (result : String → Option ℚ) (count : String → Nat) (category : String)
    (subsets : List String) : Option ℚ :=
  match subsets.filter fun subset => (result subset).isSome with
  | [] => none
  | present =>
      if category = "live" then
        some ((present.map fun subset => (result subset).getD 0 * count subset).sum /
          (present.map count).sum)
      else if category = "non_live" then
        let simple := simpleAstSubsets.filterMap result
        let others := (present.filter fun subset => !simpleAstSubsets.contains subset).filterMap
          result
        some (mean ((if simple.isEmpty then [] else [mean simple]) ++ others))
      else some (mean (present.filterMap result))

/-- The breakdown that `score` caches; its percentages are given as fractions. -/
structure Breakdown where
  overallAccuracy : ℚ := 0
  normalizedSingleTurnScore : ℚ := 0
  categoryScores : String → Option ℚ := fun _ => none
  subsetScores : String → Option ℚ := fun _ => none
  unscoredSubsets : String → Option ℚ := fun _ => none
  totalSamples : Nat := 0
  issuedSamples : Nat

def zeroBreakdown (issued : Nat) : Breakdown where
  issuedSamples := issued

def breakdown (completed : Nat) (graded : List (String × ℚ)) : Breakdown :=
  let count := fun subset => (scoresBySubset graded subset).length
  let category := fun name => (categoryMap.lookup name).bind fun subsets =>
    categoryResult (subsetResult graded) count name subsets
  let categories := categoryMap.filterMap fun entry => category entry.1
  { overallAccuracy := mean (graded.map (·.2))
    normalizedSingleTurnScore := if categories.isEmpty then 0 else mean categories
    categoryScores := category
    subsetScores := subsetResult graded
    unscoredSubsets := fun subset =>
      if unscoredSubsets.contains subset then subsetResult graded subset else none
    totalSamples := completed
    issuedSamples := graded.length }

/-- The rows that `score` grades. -/
def scoredRows (sampleIndexMap : SampleIndexMap) (log : List EventRecord) :
    List (QueryId × Nat × Option EventData) :=
  dropDuplicates [] (Scorer.issuedRows sampleIndexMap (Scorer.iterComplete log))

/-- `BFCLv4Scorer.score` with the breakdown it caches. -/
def score (dataset : AccuracyDataset) (sampleIndexMap : SampleIndexMap)
    (log : List EventRecord) : (ℚ × Nat) × Breakdown :=
  let rows := scoredRows sampleIndexMap log
  if rows.isEmpty then ((0, 1), zeroBreakdown sampleIndexMap.size)
  else
    let graded := graded py payloads checker dataset sampleIndexMap rows
    let result := breakdown rows.length graded
    ((result.overallAccuracy, max 1 (graded.length / dataset.numSamples)), result)

/-! ## Failed samples -/

/-- A sample of this index scores nothing when its request fails. -/
def FailureScoresNothing (dataset : AccuracyDataset) (index : Nat) : Prop :=
  hallucinationSubsets.contains (dataset.subset index) = false ∧
    (relevanceSubsets.contains (dataset.subset index) = true ∨
      ∀ expected, expected? (dataset.groundTruth index) = some expected →
        expected.truthy py = true)

theorem scoreAst_failed (counts : checker.CountsCalls) (groundTruth : GroundTruth)
    (funcDescription : Option Json) (subset : String) :
    scoreAst py checker "[]" groundTruth funcDescription subset = 0 ↔
      ∀ expected, expected? groundTruth = some expected → expected.truthy py = true := by
  unfold scoreAst
  rw [Json.loads_emptyArray]
  cases decoded : expected? groundTruth with
  | none => simp
  | some expected =>
      cases truthy : expected.truthy py with
      | false => simp [truthy, Json.truthy_emptyArray]
      | true =>
          have rejected : ∀ check : AstCheck, check.modelOutput = [] →
              check.possibleAnswer = expected → checker check = false := by
            intro check noCalls answer
            cases valid : checker check with
            | false => rfl
            | true =>
                have positive := Json.size_pos_of_truthy truthy
                have number := counts check valid
                rw [noCalls, answer, List.length_nil] at number
                omega
          simp [truthy, rejected, bfclOutput]

/-- Exactly when a failed sample contributes nothing. -/
theorem rowScore_failed (counts : checker.CountsCalls) (dataset : AccuracyDataset)
    (uuid : QueryId) (index : Nat) :
    rowScore py payloads checker dataset (uuid, index, none) = 0 ↔
      FailureScoresNothing py dataset index := by
  have empty : scoringText payloads none = "" := rfl
  unfold rowScore FailureScoresNothing
  dsimp only
  rw [empty]
  cases hallucination : hallucinationSubsets.contains (dataset.subset index) with
  | true => simp [scoreHallucination]
  | false =>
      cases relevance : relevanceSubsets.contains (dataset.subset index) with
      | true => simp [scoreRelevance]
      | false =>
          simp only [Bool.false_eq_true, if_false, FunctionCallExtractor.extract_empty,
            Option.getD_some, true_and, false_or]
          exact scoreAst_failed py checker counts _ _ _

/-! ## The scores by sample -/

theorem mem_dropDuplicates {Row : Type*} {seen : List QueryId} {rows : List (QueryId × Row)}
    {row : QueryId × Row} :
    row ∈ dropDuplicates seen rows ↔
      row.1 ∉ seen ∧ rows.find? (·.1 = row.1) = some row := by
  induction rows generalizing seen with
  | nil => simp [dropDuplicates]
  | cons head rows induction =>
      unfold dropDuplicates
      by_cases known : head.1 ∈ seen
      · rw [if_pos (by simpa using known), induction]
        constructor
        · rintro ⟨fresh, found⟩
          have different : head.1 ≠ row.1 := fun same => fresh (same ▸ known)
          exact ⟨fresh, by simpa [different] using found⟩
        · rintro ⟨fresh, found⟩
          have different : head.1 ≠ row.1 := fun same => fresh (same ▸ known)
          exact ⟨fresh, by simpa [different] using found⟩
      · rw [if_neg (by simpa using known), List.mem_cons, induction]
        by_cases same : head.1 = row.1
        · rw [List.find?_cons_of_pos (by simpa using same)]
          constructor
          · rintro (rfl | ⟨fresh, _⟩)
            · exact ⟨known, rfl⟩
            · exact absurd (same ▸ List.mem_cons_self) fresh
          · rintro ⟨_, equal⟩
            exact Or.inl (Option.some.inj equal).symm
        · rw [List.find?_cons_of_neg (by simpa using same)]
          constructor
          · rintro (rfl | ⟨fresh, found⟩)
            · exact absurd rfl same
            · exact ⟨fun there => fresh (List.mem_cons_of_mem _ there), found⟩
          · rintro ⟨fresh, found⟩
            refine Or.inr ⟨fun there => ?_, found⟩
            rcases List.mem_cons.mp there with equal | old
            · exact same equal.symm
            · exact fresh old

theorem nodup_dropDuplicates {Row : Type*} (seen : List QueryId)
    (rows : List (QueryId × Row)) : ((dropDuplicates seen rows).map (·.1)).Nodup := by
  induction rows generalizing seen with
  | nil => exact List.nodup_nil
  | cons head rows induction =>
      unfold dropDuplicates
      split
      · exact induction seen
      · rw [List.map_cons, List.nodup_cons]
        refine ⟨fun member => ?_, induction _⟩
        obtain ⟨row, there, same⟩ := List.mem_map.mp member
        exact (mem_dropDuplicates.mp there).1 (same ▸ List.mem_cons_self)

/-- The grade of an issued sample: that of its first row, or zero. -/
def gradeOf (dataset : AccuracyDataset) (sampleIndexMap : SampleIndexMap)
    (rows : List (QueryId × Nat × Option EventData)) (uuid : QueryId) : String × ℚ :=
  (dataset.subset ((sampleIndexMap.get? uuid).getD 0),
    match rows.find? (·.1 = uuid) with
    | some row => rowScore py payloads checker dataset row
    | none => 0)

/-- Every issued sample is graded once. -/
theorem graded_perm (dataset : AccuracyDataset) (sampleIndexMap : SampleIndexMap)
    (rows : List (QueryId × Nat × Option EventData))
    (issued : ∀ row ∈ rows, sampleIndexMap.get? row.1 = some row.2.1) :
    (graded py payloads checker dataset sampleIndexMap (dropDuplicates [] rows)).Perm
      (sampleIndexMap.keys.map (gradeOf py payloads checker dataset sampleIndexMap rows)) := by
  have found : ∀ row ∈ dropDuplicates [] rows, rows.find? (·.1 = row.1) = some row :=
    fun row member => (mem_dropDuplicates.mp member).2
  have scored : (dropDuplicates [] rows).map (fun row =>
      (dataset.subset row.2.1, rowScore py payloads checker dataset row)) =
        ((dropDuplicates [] rows).map (·.1)).map
          (gradeOf py payloads checker dataset sampleIndexMap rows) := by
    rw [List.map_map]
    refine List.map_congr_left fun row member => ?_
    have here := found row member
    have index := issued row (List.mem_of_find?_eq_some here)
    simp [gradeOf, here, index]
  have missing : (sampleIndexMap.entries.filter fun sample =>
      !((dropDuplicates [] rows).map (·.1)).contains sample.1).map
        (fun sample => (dataset.subset sample.2, (0 : ℚ))) =
      ((sampleIndexMap.entries.filter fun sample =>
        !((dropDuplicates [] rows).map (·.1)).contains sample.1).map (·.1)).map
          (gradeOf py payloads checker dataset sampleIndexMap rows) := by
    rw [List.map_map]
    refine List.map_congr_left fun sample member => ?_
    obtain ⟨entry, absent⟩ := List.mem_filter.mp member
    have index : sampleIndexMap.get? sample.1 = some sample.2 :=
      OrderedDict.get?_eq_some_iff.mpr entry
    have none_ : rows.find? (·.1 = sample.1) = none := by
      cases there : rows.find? (·.1 = sample.1) with
      | none => rfl
      | some row =>
          have same : row.1 = sample.1 := by simpa using List.find?_some there
          have kept : row ∈ dropDuplicates [] rows :=
            mem_dropDuplicates.mpr ⟨by simp, same ▸ there⟩
          have member : sample.1 ∈ (dropDuplicates [] rows).map (·.1) :=
            List.mem_map.mpr ⟨row, kept, same⟩
          simp [member] at absent
    simp [gradeOf, none_, index]
  unfold graded
  rw [scored, missing, ← List.map_append]
  refine List.Perm.map _ ?_
  have distinct : ((dropDuplicates [] rows).map (·.1) ++
      (sampleIndexMap.entries.filter fun sample =>
        !((dropDuplicates [] rows).map (·.1)).contains sample.1).map (·.1)).Nodup := by
    refine List.nodup_append.mpr ⟨nodup_dropDuplicates [] rows, ?_, ?_⟩
    · exact sampleIndexMap.nodupKeys.sublist (List.filter_sublist.map _)
    · rintro uuid scored _ missing rfl
      obtain ⟨sample, member, rfl⟩ := List.mem_map.mp missing
      have absent := (List.mem_filter.mp member).2
      simp [scored] at absent
  refine (List.perm_ext_iff_of_nodup distinct sampleIndexMap.nodup_keys).mpr fun uuid => ?_
  rw [List.mem_append]
  constructor
  · rintro (scored | missing)
    · obtain ⟨row, member, rfl⟩ := List.mem_map.mp scored
      exact OrderedDict.mem_keys_of_get? (issued row (List.mem_of_find?_eq_some (found row member)))
    · obtain ⟨sample, member, rfl⟩ := List.mem_map.mp missing
      exact List.mem_map.mpr ⟨sample, (List.mem_filter.mp member).1, rfl⟩
  · intro known
    obtain ⟨sample, member, rfl⟩ := List.mem_map.mp known
    by_cases scored : sample.1 ∈ (dropDuplicates [] rows).map (·.1)
    · exact Or.inl scored
    · refine Or.inr (List.mem_map.mpr ⟨sample, List.mem_filter.mpr ⟨member, ?_⟩, rfl⟩)
      simpa using scored

/-! ## Deleting the failures -/

theorem mean_perm {first second : List ℚ} (perm : first.Perm second) :
    mean first = mean second := by
  rw [mean, mean, perm.sum_eq, perm.length_eq]

theorem scoresBySubset_perm {first second : List (String × ℚ)} (perm : first.Perm second)
    (subset : String) : (scoresBySubset first subset).Perm (scoresBySubset second subset) :=
  (perm.filter _).map _

theorem subsetResult_perm {first second : List (String × ℚ)} (perm : first.Perm second) :
    subsetResult first = subsetResult second := by
  funext subset
  have scores := scoresBySubset_perm perm subset
  have same := mean_perm scores
  unfold subsetResult
  cases left : scoresBySubset first subset with
  | nil =>
      rw [left] at scores
      rw [List.nil_perm.mp scores]
  | cons score rest =>
      cases right : scoresBySubset second subset with
      | nil =>
          rw [left, right] at scores
          exact absurd (List.perm_nil.mp scores) (by simp)
      | cons other others =>
          rw [left, right] at same
          exact congrArg some same

/-- The order of the scores does not matter. -/
theorem breakdown_perm {first second : List (String × ℚ)} (perm : first.Perm second)
    (completed other : Nat) :
    breakdown completed first = { breakdown other second with totalSamples := completed } := by
  have counts : (fun subset => (scoresBySubset first subset).length) =
      fun subset => (scoresBySubset second subset).length :=
    funext fun subset => (scoresBySubset_perm perm subset).length_eq
  simp only [breakdown, counts, subsetResult_perm perm, mean_perm (perm.map _),
    perm.length_eq]

theorem find?_of_filter {Row : Type*} {holds keep : Row → Bool} {rows : List Row} {row : Row}
    (found : rows.find? holds = some row) (kept : keep row = true) :
    (rows.filter keep).find? holds = some row := by
  induction rows with
  | nil => simp at found
  | cons head rows induction =>
      cases here : holds head with
      | true =>
          rw [List.find?_cons_of_pos here] at found
          obtain rfl : head = row := Option.some.inj found
          rw [List.filter_cons_of_pos kept, List.find?_cons_of_pos here]
      | false =>
          rw [List.find?_cons_of_neg (by simp [here])] at found
          have rest := induction found
          cases keeps : keep head with
          | true =>
              rw [List.filter_cons_of_pos keeps, List.find?_cons_of_neg (by simp [here]), rest]
          | false => rw [List.filter_cons_of_neg (by simp [keeps]), rest]

/-- The failures of a log can be deleted: their samples score nothing, none of them
precedes an answer to the same sample, and some sample was answered. -/
structure Deletable (dataset : AccuracyDataset) (sampleIndexMap : SampleIndexMap)
    (log : List EventRecord) : Prop where
  nothing : ∀ uuid index, (uuid, index, none) ∈
      Scorer.issuedRows sampleIndexMap (Scorer.iterComplete log) →
    FailureScoresNothing py dataset index
  final : ∀ uuid index, (Scorer.issuedRows sampleIndexMap (Scorer.iterComplete log)).find?
      (·.1 = uuid) = some (uuid, index, none) →
    ∀ row ∈ Scorer.issuedRows sampleIndexMap (Scorer.iterComplete log),
      row.1 = uuid → row.2.2 = none
  answered : (Scorer.issuedRows sampleIndexMap (Scorer.iterComplete log)).isEmpty = false →
    ∃ row ∈ Scorer.issuedRows sampleIndexMap (Scorer.iterComplete log), row.2.2.isSome = true

theorem gradeOf_withoutFailures (counts : checker.CountsCalls) {dataset : AccuracyDataset}
    {sampleIndexMap : SampleIndexMap} {log : List EventRecord}
    (deletable : Deletable py dataset sampleIndexMap log) (uuid : QueryId) :
    gradeOf py payloads checker dataset sampleIndexMap
        ((Scorer.issuedRows sampleIndexMap (Scorer.iterComplete log)).filter
          fun row => row.2.2.isSome) uuid =
      gradeOf py payloads checker dataset sampleIndexMap
        (Scorer.issuedRows sampleIndexMap (Scorer.iterComplete log)) uuid := by
  generalize whole : Scorer.issuedRows sampleIndexMap (Scorer.iterComplete log) = rows
  unfold gradeOf
  cases found : rows.find? (·.1 = uuid) with
  | none =>
      have absent : (rows.filter fun row => row.2.2.isSome).find? (·.1 = uuid) = none := by
        rw [List.find?_eq_none] at found ⊢
        exact fun row member => found row (List.mem_of_mem_filter member)
      rw [absent]
  | some row =>
      obtain ⟨same, index, data⟩ := row
      obtain rfl : same = uuid := by simpa using List.find?_some found
      cases data with
      | some payload => rw [find?_of_filter found rfl]
      | none =>
          have nothing := deletable.nothing same index
            (whole ▸ List.mem_of_find?_eq_some found)
          have absent : (rows.filter fun row => row.2.2.isSome).find? (·.1 = same) = none := by
            rw [List.find?_eq_none]
            rintro row member there
            obtain ⟨inside, answered⟩ := List.mem_filter.mp member
            have failed := deletable.final same index (whole ▸ found) row (whole ▸ inside)
              (by simpa using there)
            simp [failed] at answered
          rw [absent]
          simp [(rowScore_failed py payloads checker counts dataset same index).mpr nothing]

theorem isEmpty_dropDuplicates {Row : Type*} (rows : List (QueryId × Row)) :
    (dropDuplicates [] rows).isEmpty = rows.isEmpty := by
  cases rows with
  | nil => rfl
  | cons row rows => simp [dropDuplicates]

/-- Deleting the failures changes the number of completed samples at most. -/
theorem score_withoutFailures (counts : checker.CountsCalls) {dataset : AccuracyDataset}
    {sampleIndexMap : SampleIndexMap} {log : List EventRecord}
    (deletable : Deletable py dataset sampleIndexMap log) :
    (score py payloads checker dataset sampleIndexMap (Scorer.withoutFailures log)).1 =
        (score py payloads checker dataset sampleIndexMap log).1 ∧
      ∃ completed,
        (score py payloads checker dataset sampleIndexMap (Scorer.withoutFailures log)).2 =
          { (score py payloads checker dataset sampleIndexMap log).2 with
            totalSamples := completed } := by
  have rows : Scorer.issuedRows sampleIndexMap
      (Scorer.iterComplete (Scorer.withoutFailures log)) =
        (Scorer.issuedRows sampleIndexMap (Scorer.iterComplete log)).filter
          fun row => row.2.2.isSome := by
    rw [Scorer.iterComplete_withoutFailures]
    exact Scorer.issuedRows_filter sampleIndexMap Option.isSome _
  unfold score scoredRows
  dsimp only
  rw [isEmpty_dropDuplicates, isEmpty_dropDuplicates, rows]
  cases empty : (Scorer.issuedRows sampleIndexMap (Scorer.iterComplete log)).isEmpty with
  | true =>
      rw [List.isEmpty_iff.mp empty]
      exact ⟨rfl, 0, rfl⟩
  | false =>
      have kept : ((Scorer.issuedRows sampleIndexMap (Scorer.iterComplete log)).filter
          fun row => row.2.2.isSome).isEmpty = false := by
        obtain ⟨row, member, answered⟩ := deletable.answered empty
        exact List.isEmpty_eq_false_iff_exists_mem.mpr
          ⟨row, List.mem_filter.mpr ⟨member, answered⟩⟩
      rw [kept]
      have before := graded_perm py payloads checker dataset sampleIndexMap
        (Scorer.issuedRows sampleIndexMap (Scorer.iterComplete log))
        fun row member => Scorer.get?_of_mem_issuedRows member
      have after := graded_perm py payloads checker dataset sampleIndexMap
        ((Scorer.issuedRows sampleIndexMap (Scorer.iterComplete log)).filter
          fun row => row.2.2.isSome)
        fun row member => Scorer.get?_of_mem_issuedRows (List.mem_of_mem_filter member)
      rw [List.map_congr_left fun uuid _ =>
        gradeOf_withoutFailures py payloads checker counts deletable uuid] at after
      have perm := after.trans before.symm
      have same := fun completed other => breakdown_perm perm completed other
      simp only [Bool.false_eq_true, if_false]
      refine ⟨?_, _, same _ _⟩
      rw [same _ 0, perm.length_eq]
      rfl

/-- A failed request scores nothing under pass@1 when the ground truth is a text, and
under BFCL exactly when its subset and ground truth do not reward the absence of a
call; then it can be deleted from the log. -/
theorem failures_score_nothing :
    (∀ extractor dataset (sampleIndexMap : SampleIndexMap) log,
      (∀ uuid index, sampleIndexMap.get? uuid = some index →
        ∃ expected, expected ≠ "" ∧ dataset.groundTruth index = .text expected) →
      (∀ uuid index, sampleIndexMap.get? uuid = some index →
        PassAt1Scorer.contribution py payloads extractor dataset (uuid, index, none) = 0) ∧
      PassAt1Scorer.score py payloads extractor dataset sampleIndexMap
          (Scorer.withoutFailures log) =
        PassAt1Scorer.score py payloads extractor dataset sampleIndexMap log) ∧
    (checker.CountsCalls → ∀ dataset,
      (∀ uuid index, rowScore py payloads checker dataset (uuid, index, none) = 0 ↔
        FailureScoresNothing py dataset index) ∧
      ∀ sampleIndexMap log, Deletable py dataset sampleIndexMap log →
        (score py payloads checker dataset sampleIndexMap (Scorer.withoutFailures log)).1 =
          (score py payloads checker dataset sampleIndexMap log).1 ∧
        (score py payloads checker dataset sampleIndexMap
            (Scorer.withoutFailures log)).2.subsetScores =
          (score py payloads checker dataset sampleIndexMap log).2.subsetScores ∧
        (score py payloads checker dataset sampleIndexMap
            (Scorer.withoutFailures log)).2.categoryScores =
          (score py payloads checker dataset sampleIndexMap log).2.categoryScores) := by
  refine ⟨?_, fun counts dataset => ⟨?_, ?_⟩⟩
  · intro extractor dataset sampleIndexMap log truths
    refine ⟨fun uuid index issued => ?_, ?_⟩
    · obtain ⟨expected, nonempty, truth⟩ := truths uuid index issued
      exact PassAt1Scorer.contribution_failed py payloads extractor dataset nonempty truth
    · exact PassAt1Scorer.score_withoutFailures py payloads extractor dataset sampleIndexMap log
        truths
  · exact rowScore_failed py payloads checker counts dataset
  · intro sampleIndexMap log deletable
    obtain ⟨scores, completed, same⟩ :=
      score_withoutFailures py payloads checker counts deletable
    exact ⟨scores, by rw [same], by rw [same]⟩

/-- Python on ASCII texts without floats. -/
def asciiPython : Python where
  isSpace char := " \t\n\r".toList.contains char
  isWord char := char.isAlphanum || char = '_'
  isDecimal char := char.isDigit
  sameLetter expected char := expected.toLower = char.toLower
  upper char := String.ofList [char.toUpper]
  floatRepr literal := literal
  floatIsZero _ := false
  callKeywords _ := none

def plainPayloads : Payloads where
  encode _ := "[]"
  repr _ := ""

/-- Accepts whatever has one call for each answer. -/
def countingChecker : AstChecker := fun check =>
  check.modelOutput.length = check.possibleAnswer.size

theorem countingChecker_countsCalls : countingChecker.CountsCalls := by
  intro check valid
  exact Or.inr (by simpa [countingChecker] using valid)

/-- One sample whose expected answer is a single call. -/
def oneCall (subset : String) : AccuracyDataset where
  numSamples := 2
  groundTruth _ := .text "[1]"
  subset _ := subset

def bothIssued : SampleIndexMap where
  entries := [(0, 0), (1, 1)]
  nodupKeys := by decide

def completed (uuid : QueryId) (data : Option EventData) : EventRecord where
  eventType := .complete
  timestampNs := 0
  sampleUuid := some uuid
  data := data

/-- The first sample fails and the second one is answered. -/
def oneFailure : List EventRecord :=
  [completed 0 none, completed 1 (some (.output { output := .whole "no" }))]

theorem failures_score_nothing_oneFailure :
    PassAt1Scorer.score asciiPython plainPayloads (some .abcd) (oneCall "simple_python")
        bothIssued (Scorer.withoutFailures oneFailure) =
      PassAt1Scorer.score asciiPython plainPayloads (some .abcd) (oneCall "simple_python")
        bothIssued oneFailure ∧
    (score asciiPython plainPayloads countingChecker (oneCall "simple_python") bothIssued
        (Scorer.withoutFailures oneFailure)).1 =
      (score asciiPython plainPayloads countingChecker (oneCall "simple_python") bothIssued
        oneFailure).1 := by
  have deletable : Deletable asciiPython (oneCall "simple_python") bothIssued oneFailure := by
    have rows : Scorer.issuedRows bothIssued (Scorer.iterComplete oneFailure) =
        [(0, 0, none), (1, 1, some (.output { output := .whole "no" }))] := by decide
    refine ⟨fun uuid index _ => ⟨rfl, Or.inr fun expected decodes => ?_⟩, ?_, ?_⟩
    · obtain rfl : Json.array [.int 1] = expected := Option.some.inj decodes
      rfl
    · intro uuid index found row member same
      rw [rows] at found member
      have failed : uuid = 0 := by
        by_contra other
        simp [eq_comm, other] at found
      subst failed
      rcases List.mem_cons.mp member with rfl | rest
      · rfl
      · obtain rfl := List.mem_singleton.mp rest
        simp at same
    · rw [rows]
      exact fun _ => ⟨_, .tail _ (.head _), rfl⟩
  refine ⟨?_, ?_⟩
  · refine ((failures_score_nothing asciiPython plainPayloads countingChecker).1 (some .abcd)
      (oneCall "simple_python") bothIssued oneFailure ?_).2
    exact fun _ _ _ => ⟨"[1]", by decide, rfl⟩
  · exact (((failures_score_nothing asciiPython plainPayloads countingChecker).2
      countingChecker_countsCalls (oneCall "simple_python")).2 bothIssued oneFailure
        deletable).1

/-- In a hallucination subset a failure earns the full score, which deleting it
takes away. -/
theorem failure_earns_accuracy :
    rowScore asciiPython plainPayloads countingChecker (oneCall "irrelevance") (0, 0, none) = 1 ∧
      (score asciiPython plainPayloads countingChecker (oneCall "irrelevance") bothIssued
        [completed 0 none, completed 1 none]).1 = (1, 1) ∧
      (score asciiPython plainPayloads countingChecker (oneCall "irrelevance") bothIssued
        (Scorer.withoutFailures [completed 0 none, completed 1 none])).1 = (0, 1) := by
  have rows : scoredRows bothIssued [completed 0 none, completed 1 none] =
      [(0, 0, none), (1, 1, none)] := by decide
  have grades : graded asciiPython plainPayloads countingChecker (oneCall "irrelevance")
      bothIssued [(0, 0, none), (1, 1, none)] = [("irrelevance", 1), ("irrelevance", 1)] := by
    decide
  refine ⟨by decide, ?_, rfl⟩
  simp only [score, rows, grades, breakdown, mean]
  norm_num [oneCall]

end BFCLv4Scorer

end InferenceEndpoint
