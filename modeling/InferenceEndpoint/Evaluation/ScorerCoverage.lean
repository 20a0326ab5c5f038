import InferenceEndpoint.Evaluation.BFCLv4Scorer
import Mathlib.Algebra.BigOperators.Group.List.Basic
import Mathlib.Algebra.BigOperators.Ring.List
import Mathlib.Tactic.FieldSimp
import Mathlib.Tactic.Linarith
import Mathlib.Tactic.Positivity

/-!
# What a score covers

The scorers of issued samples, each with its own denominator: the issued samples, the
rows that completed, or the rows that a grader was given.  Graders grade each row on its
own and report over the rows they are given, or fail as a whole.
-/

namespace InferenceEndpoint

/-- A row of the scoring frame: sample, index and payload. -/
abbrev ScoredRow := QueryId × Nat × Option EventData

/-- The first part of what `score` returns. -/
inductive ScoreValue
  | missing
  | number (value : ℚ)
  /-- A dictionary of metrics. -/
  | metrics
  deriving DecidableEq

structure ScoreOutcome where
  score : ScoreValue
  nRepeats : Nat
  complete : Bool := true
  deriving DecidableEq

/-- The sandbox that runs extracted code: over the socket if it is configured and
answers, or as a process of its own. -/
structure CodeGrader where
  websocket : Bool := true
  reachable : Bool := true
  allowLocal : Bool := false
  localWorks : Bool := true
  /-- The code passes the tests of the question. -/
  passes : String → String → Bool

/-- The sandbox answers. -/
def CodeGrader.answers (grader : CodeGrader) : Bool :=
  grader.websocket && grader.reachable || grader.allowLocal && grader.localWorks

/-- Category paths as lists of levels; `category` is the category of a parsable
response, stripped. -/
structure CategoryReader where
  category : String → Option String
  levels : String → List String
  levels_ne : ∀ path, levels path ≠ []
  truth : Nat → String

structure VideoGrader where
  works : Bool := true
  dimensions : List String :=
    ["subject_consistency", "background_consistency", "motion_smoothness", "dynamic_degree",
      "appearance_style", "scene"]
  /-- The score of a video for a prompt. -/
  grade : String → String → String → ℚ
  prompt : Nat → String

/-- The evaluator of the subsets, and the service for the code subset. -/
structure SubsetGrader where
  lcbSubset : String := "livecodebench"
  websocket : Bool := true
  reachable : Bool := true
  allowLocal : Bool := false
  runs : Bool := true
  subset : Nat → String
  /-- The evaluation of the subset failed. -/
  fails : String → Bool := fun _ => false
  correct : ScoredRow → Bool

namespace SubsetGrader

def isLcb (grader : SubsetGrader) (row : ScoredRow) : Bool :=
  grader.subset row.2.1 = grader.lcbSubset

/-- The runner fails on the subset of the row. -/
def failed (grader : SubsetGrader) (row : ScoredRow) : Bool :=
  grader.fails (grader.subset row.2.1)

/-- The runner and the service grade all of the rows. -/
def gradesAll (grader : SubsetGrader) (rows : List ScoredRow) : Bool :=
  grader.runs &&
    if grader.websocket && rows.any grader.isLcb then
      grader.reachable && !(rows.filter fun row => !grader.isLcb row).any grader.failed
    else (!rows.any grader.isLcb || grader.allowLocal) && !rows.any grader.failed

end SubsetGrader

namespace Scorer

/-- The frame with the rows of one dataset. -/
def frame (sampleIndexMap : SampleIndexMap) (log : List EventRecord) : List ScoredRow :=
  issuedRows sampleIndexMap (iterComplete log)

/-- `Scorer.score`, with what a row adds to the sum. -/
def score (contribution : ScoredRow → ℚ) (numSamples : Nat) (sampleIndexMap : SampleIndexMap)
    (log : List EventRecord) : ScoreOutcome :=
  let rows := frame sampleIndexMap log
  let issued := sampleIndexMap.size
  if issued = 0 then { score := .missing, nRepeats := 0 }
  else if rows.isEmpty then { score := .number 0, nRepeats := issued / numSamples }
  else { score := .number ((rows.map contribution).sum / issued), nRepeats := issued / numSamples }

end Scorer

/-- Exact match is the base scorer with its own contribution. -/
theorem PassAt1Scorer.score_eq (py : Python) (payloads : Payloads) (extractor : Option Extractor)
    (dataset : AccuracyDataset) (sampleIndexMap : SampleIndexMap) (log : List EventRecord) :
    Scorer.score (PassAt1Scorer.contribution py payloads extractor dataset) dataset.numSamples
        sampleIndexMap log =
      let result := PassAt1Scorer.score py payloads extractor dataset sampleIndexMap log
      { score := result.1.elim .missing .number, nRepeats := result.2 } := by
  unfold Scorer.score PassAt1Scorer.score Scorer.frame
  dsimp only
  split
  · rfl
  · split <;> rfl

namespace RougeScorer

/-- `RougeScorer.score`; an empty frame has no column to read. -/
def score (rows : List ScoredRow) : Option ScoreOutcome :=
  if rows.isEmpty then none else some { score := .metrics, nRepeats := 1 }

end RougeScorer

namespace LiveCodeBenchScorer

variable (py : Python) (payloads : Payloads)

def passes (extractor : Extractor) (questionId : Nat → String) (grader : CodeGrader)
    (row : ScoredRow) : Bool :=
  grader.passes (questionId row.2.1)
    ((extractor.extract py (payloads.text row.2.2) (some "# FAILED TO EXTRACT CODE")).getD "")

def passAt1 (extractor : Extractor) (questionId : Nat → String) (grader : CodeGrader)
    (rows : List ScoredRow) : ℚ :=
  rows.countP (passes py payloads extractor questionId grader) / rows.length

def score (extractor : Extractor) (questionId : Nat → String) (grader : CodeGrader)
    (numSamples : Nat) (rows : List ScoredRow) : Option ScoreOutcome :=
  if rows.isEmpty then none
  else
    let passAt1 := passAt1 py payloads extractor questionId grader rows
    let nRepeats := rows.length / numSamples
    if grader.websocket && grader.reachable then
      some { score := .number passAt1, nRepeats := nRepeats }
    else if !grader.allowLocal then none
    else
      some
        { score := if grader.localWorks then .number passAt1 else .missing
          nRepeats := nRepeats }

end LiveCodeBenchScorer

namespace ShopifyCategoryF1Scorer

def predPad : String :=
  "<|__PRED_CATEGORY_PAD__|>"

/-- `_create_pred_pad_category`: as deep as the ground truth. -/
def createPredPadCategory (truth : List String) : List String :=
  truth.map fun _ => predPad

def parseResponseToCategory (reader : CategoryReader) (response : String) (truth : List String) :
    List String :=
  match reader.category response with
  | some path => reader.levels path
  | none => createPredPadCategory truth

/-- `_match_hierarchical_paths`: the levels that agree from the root on, and the lengths. -/
def matchHierarchicalPaths (predicted truth : List String) : Nat × Nat × Nat :=
  (((predicted.zip truth).takeWhile fun levels => levels.1 = levels.2).length,
    predicted.length, truth.length)

/-- The score from the matches of all pairs. -/
def hierarchicalF1 (matched : List (Nat × Nat × Nat)) : ℚ :=
  let intersection : ℚ := ((matched.map (·.1)).sum : Nat)
  let predictedLength : ℚ := ((matched.map (·.2.1)).sum : Nat)
  let trueLength : ℚ := ((matched.map (·.2.2)).sum : Nat)
  let hp := if 0 < predictedLength then intersection / predictedLength else 0
  let hr := if 0 < trueLength then intersection / trueLength else 0
  if hp + hr = 0 then 0 else 2 * (hp * hr) / (hp + hr)

/-- The matches that `_calculate_hierarchical_f1` adds up. -/
def matched (payloads : Payloads) (reader : CategoryReader) (rows : List ScoredRow) :
    List (Nat × Nat × Nat) :=
  rows.map fun row =>
    let truth := reader.levels (reader.truth row.2.1)
    matchHierarchicalPaths (parseResponseToCategory reader (payloads.text row.2.2) truth) truth

/-- A response of which no level agrees. -/
def failure (reader : CategoryReader) (index : Nat) : Nat × Nat × Nat :=
  let truth := reader.levels (reader.truth index)
  (0, (createPredPadCategory truth).length, truth.length)

def score (payloads : Payloads) (reader : CategoryReader) (numSamples : Nat)
    (rows : List ScoredRow) : Option ScoreOutcome :=
  if rows.isEmpty then none
  else
    some
      { score := .number (hierarchicalF1 (matched payloads reader rows))
        nRepeats := rows.length / numSamples }

end ShopifyCategoryF1Scorer

namespace VBenchScorer

/-- The rows that are staged: failed queries have an empty output. -/
def staged (payloads : Payloads) (rows : List ScoredRow) : List ScoredRow :=
  rows.filter fun row => payloads.text row.2.2 ≠ ""

/-- The sum of the scores of all rows in one dimension. -/
def credit (payloads : Payloads) (grader : VideoGrader) (rows : List ScoredRow)
    (dimension : String) : ℚ :=
  (rows.map fun row =>
    grader.grade dimension (payloads.text row.2.2) (grader.prompt row.2.1)).sum

/-- The mean over the dimensions of the mean over so many videos. -/
def meanScore (payloads : Payloads) (grader : VideoGrader) (rows : List ScoredRow)
    (videos : Nat) : ℚ :=
  (grader.dimensions.map fun dimension => credit payloads grader rows dimension / videos).sum /
    grader.dimensions.length

def score (payloads : Payloads) (grader : VideoGrader) (numSamples : Nat)
    (rows : List ScoredRow) : Option ScoreOutcome :=
  let nRepeats := rows.length / numSamples
  let videos := staged payloads rows
  if videos.isEmpty then some { score := .missing, nRepeats := nRepeats }
  else if !grader.works then none
  else
    some
      { score := .number (meanScore payloads grader videos videos.length)
        nRepeats := nRepeats }

end VBenchScorer

namespace LegacyMLPerfDeepSeekR1Scorer

/-- All subsets in the runner. -/
def scoreInProcess (grader : SubsetGrader) (nRepeats : Nat) (rows : List ScoredRow) :
    ScoreOutcome :=
  let evaluated := rows.filter fun row => !grader.failed row
  if evaluated.isEmpty then { score := .missing, nRepeats := nRepeats, complete := false }
  else
    { score := .number (100 * evaluated.countP grader.correct / evaluated.length)
      nRepeats := nRepeats
      complete := !rows.any grader.failed }

/-- The text subsets in the runner and the code subset in the service. -/
def scoreWithService (grader : SubsetGrader) (nRepeats : Nat) (rows : List ScoredRow) :
    ScoreOutcome :=
  let text := rows.filter fun row => !grader.isLcb row
  let evaluated := text.filter fun row => !grader.failed row
  let lcb := if grader.reachable then rows.filter grader.isLcb else []
  let total := evaluated.length + lcb.length
  if total = 0 then { score := .missing, nRepeats := nRepeats, complete := false }
  else
    { score := .number
        (100 * (evaluated.countP grader.correct + lcb.countP grader.correct : Nat) / total)
      nRepeats := nRepeats
      complete := !text.any grader.failed && grader.reachable && 0 < lcb.length &&
        total = rows.length }

def score (grader : SubsetGrader) (numSamples : Nat) (rows : List ScoredRow) :
    Option ScoreOutcome :=
  let nRepeats := rows.length / numSamples
  if rows.isEmpty then some { score := .missing, nRepeats := nRepeats, complete := false }
  else if grader.websocket && rows.any grader.isLcb then
    if grader.runs then some (scoreWithService grader nRepeats rows) else none
  else if rows.any grader.isLcb && !grader.allowLocal then none
  else if grader.runs then some (scoreInProcess grader nRepeats rows)
  else none

end LegacyMLPerfDeepSeekR1Scorer

/-! ## The scorers of issued samples -/

inductive IssuedScorer
  /-- A scorer that sums what each row adds, as for exact and string match. -/
  | perSample (contribution : ScoredRow → ℚ)
  | rouge
  | liveCodeBench (extractor : Extractor) (questionId : Nat → String) (grader : CodeGrader)
  | shopifyCategoryF1 (reader : CategoryReader)
  | vbench (grader : VideoGrader)
  | bfclV4 (checker : AstChecker) (dataset : AccuracyDataset)
  | legacyMlperfDeepseekR1 (grader : SubsetGrader)

namespace IssuedScorer

variable (py : Python) (payloads : Payloads)

/-- `score` with the `complete` flag that it leaves; `none` is an exception. -/
def score (scorer : IssuedScorer) (numSamples : Nat) (sampleIndexMap : SampleIndexMap)
    (log : List EventRecord) : Option ScoreOutcome :=
  let rows := Scorer.frame sampleIndexMap log
  match scorer with
  | perSample contribution => some (Scorer.score contribution numSamples sampleIndexMap log)
  | rouge => RougeScorer.score rows
  | liveCodeBench extractor questionId grader =>
      LiveCodeBenchScorer.score py payloads extractor questionId grader numSamples rows
  | shopifyCategoryF1 reader => ShopifyCategoryF1Scorer.score payloads reader numSamples rows
  | vbench grader => VBenchScorer.score payloads grader numSamples rows
  | bfclV4 checker dataset =>
      let result := (BFCLv4Scorer.score py payloads checker dataset sampleIndexMap log).1
      some { score := .number result.1, nRepeats := result.2 }
  | legacyMlperfDeepseekR1 grader => LegacyMLPerfDeepSeekR1Scorer.score grader numSamples rows

/-! ## Scores over all issued samples -/

/-- The issued samples without a row. -/
def missing (sampleIndexMap : SampleIndexMap) (rows : List ScoredRow) : List (QueryId × Nat) :=
  sampleIndexMap.entries.filter fun sample => !(rows.map (·.1)).contains sample.1

/-- The number that the scorer's formula gives with a failure for every issued sample
without a row. -/
def overIssued (scorer : IssuedScorer) (sampleIndexMap : SampleIndexMap)
    (log : List EventRecord) : ℚ :=
  let rows := Scorer.frame sampleIndexMap log
  match scorer with
  | perSample contribution =>
      (sampleIndexMap.keys.map fun uuid =>
        ((rows.filter (·.1 = uuid)).map contribution).sum).sum / sampleIndexMap.keys.length
  | rouge => 0
  | liveCodeBench extractor questionId grader =>
      rows.countP (LiveCodeBenchScorer.passes py payloads extractor questionId grader) /
        (rows.length + (missing sampleIndexMap rows).length : Nat)
  | shopifyCategoryF1 reader =>
      ShopifyCategoryF1Scorer.hierarchicalF1
        (ShopifyCategoryF1Scorer.matched payloads reader rows ++
          (missing sampleIndexMap rows).map fun sample =>
            ShopifyCategoryF1Scorer.failure reader sample.2)
  | vbench grader =>
      let videos := VBenchScorer.staged payloads rows
      VBenchScorer.meanScore payloads grader videos
        (videos.length + (missing sampleIndexMap videos).length)
  | bfclV4 checker dataset =>
      BFCLv4Scorer.mean (sampleIndexMap.keys.map fun uuid =>
        (BFCLv4Scorer.gradeOf py payloads checker dataset sampleIndexMap rows uuid).2)
  | legacyMlperfDeepseekR1 grader =>
      100 * rows.countP grader.correct /
        (rows.length + (missing sampleIndexMap rows).length : Nat)

/-- A number that is reported as complete is the one over all issued samples. -/
def Covers (scorer : IssuedScorer) (numSamples : Nat) (sampleIndexMap : SampleIndexMap)
    (log : List EventRecord) : Prop :=
  ∀ outcome value, scorer.score py payloads numSamples sampleIndexMap log = some outcome →
    outcome.score = .number value → outcome.complete = true →
      value = scorer.overIssued py payloads sampleIndexMap log

/-- Every issued sample has a row of its own that is graded, or what is graded earns
nothing, unless the grader gives no complete answer. -/
def Graded (scorer : IssuedScorer) (sampleIndexMap : SampleIndexMap)
    (log : List EventRecord) : Prop :=
  let rows := Scorer.frame sampleIndexMap log
  match scorer with
  | perSample _ | rouge | bfclV4 _ _ => True
  | liveCodeBench extractor questionId grader =>
      grader.answers = true → missing sampleIndexMap rows = [] ∨
        rows.countP (LiveCodeBenchScorer.passes py payloads extractor questionId grader) = 0
  | shopifyCategoryF1 reader =>
      missing sampleIndexMap rows = [] ∨
        ((ShopifyCategoryF1Scorer.matched payloads reader rows).map (·.1)).sum = 0
  | vbench grader =>
      let videos := VBenchScorer.staged payloads rows
      grader.works = true → missing sampleIndexMap videos = [] ∨
        (grader.dimensions.map (VBenchScorer.credit payloads grader videos)).sum = 0
  | legacyMlperfDeepseekR1 grader =>
      grader.gradesAll rows = true → missing sampleIndexMap rows = [] ∨
        rows.countP grader.correct = 0

/-! ## One denominator and another -/

theorem ratio_eq_iff {credit : ℚ} {rows : Nat} (positive : 0 < rows) (missing : Nat) :
    credit / rows = credit / (rows + missing : Nat) ↔ missing = 0 ∨ credit = 0 := by
  have rowsPositive : (0 : ℚ) < rows := by exact_mod_cast positive
  have sumPositive : (0 : ℚ) < (rows + missing : Nat) := by
    exact_mod_cast Nat.add_pos_left positive _
  rw [div_eq_div_iff rowsPositive.ne' sumPositive.ne']
  push_cast
  constructor
  · intro equal
    have product : credit * missing = 0 := by linarith
    rcases mul_eq_zero.mp product with none | none
    · exact .inr none
    · exact .inl (by exact_mod_cast none)
  · rintro (rfl | rfl)
    · simp
    · simp

/-! ## Scorers that divide by what was issued -/

variable {sampleIndexMap : SampleIndexMap} {log : List EventRecord}

theorem key_of_frame {row : ScoredRow} (member : row ∈ Scorer.frame sampleIndexMap log) :
    row.1 ∈ sampleIndexMap.keys :=
  OrderedDict.mem_keys_of_get? (Scorer.get?_of_mem_issuedRows member)

theorem sum_at_key {keys : List QueryId} (distinct : keys.Nodup) {key : QueryId}
    (member : key ∈ keys) (amount : ℚ) :
    (keys.map fun other => if key = other then amount else 0).sum = amount := by
  induction keys with
  | nil => simp at member
  | cons head keys ih =>
      obtain ⟨absent, distinct⟩ := List.nodup_cons.mp distinct
      rcases List.mem_cons.mp member with rfl | later
      · have others : (keys.map fun other => if key = other then amount else 0).sum = 0 := by
          apply List.sum_eq_zero
          intro term termMember
          obtain ⟨other, otherMember, rfl⟩ := List.mem_map.mp termMember
          rw [if_neg]
          rintro rfl
          exact absent otherMember
        simp [others]
      · have different : key ≠ head := by
          rintro rfl
          exact absent later
        simp [different, ih distinct later]

/-- A sum over rows, sample by sample. -/
theorem sum_by_key {keys : List QueryId} (distinct : keys.Nodup) (amount : ScoredRow → ℚ)
    (rows : List ScoredRow) (issued : ∀ row ∈ rows, row.1 ∈ keys) :
    (keys.map fun uuid => ((rows.filter (·.1 = uuid)).map amount).sum).sum =
      (rows.map amount).sum := by
  induction rows with
  | nil => simp
  | cons row rows ih =>
      have split : ∀ uuid, (((row :: rows).filter (·.1 = uuid)).map amount).sum =
          (if row.1 = uuid then amount row else 0) +
            ((rows.filter (·.1 = uuid)).map amount).sum := by
        intro uuid
        by_cases same : row.1 = uuid <;> simp [same]
      simp only [split, List.sum_map_add]
      rw [sum_at_key distinct (issued row List.mem_cons_self),
        ih fun other member => issued other (List.mem_cons_of_mem _ member)]
      simp

theorem perSample_overIssued (contribution : ScoredRow → ℚ) :
    (perSample contribution).overIssued py payloads sampleIndexMap log =
      ((Scorer.frame sampleIndexMap log).map contribution).sum / sampleIndexMap.size := by
  simp only [overIssued]
  rw [sum_by_key sampleIndexMap.nodup_keys contribution _ fun row member =>
    key_of_frame member, OrderedDict.size_eq_length_keys]

theorem perSample_covers (contribution : ScoredRow → ℚ) (numSamples : Nat) :
    (perSample contribution).Covers py payloads numSamples sampleIndexMap log := by
  rintro outcome value ⟨⟩ number -
  rw [perSample_overIssued]
  unfold Scorer.score at number
  dsimp only at number
  split at number
  · simp at number
  · split at number
    · rename_i empty
      rw [List.isEmpty_iff.mp empty]
      simpa using number.symm
    · exact (ScoreValue.number.inj number).symm

theorem bfclV4_covers (checker : AstChecker) (dataset : AccuracyDataset) (numSamples : Nat) :
    (bfclV4 checker dataset).Covers py payloads numSamples sampleIndexMap log := by
  rintro outcome value ⟨⟩ number -
  obtain rfl := ScoreValue.number.inj number
  simp only [overIssued]
  have issued : ∀ row ∈ Scorer.frame sampleIndexMap log,
      sampleIndexMap.get? row.1 = some row.2.1 := fun row member =>
    Scorer.get?_of_mem_issuedRows member
  have perm := BFCLv4Scorer.graded_perm py payloads checker dataset sampleIndexMap _ issued
  have values : (sampleIndexMap.keys.map fun uuid =>
      (BFCLv4Scorer.gradeOf py payloads checker dataset sampleIndexMap
        (Scorer.frame sampleIndexMap log) uuid).2) =
      (sampleIndexMap.keys.map (BFCLv4Scorer.gradeOf py payloads checker dataset sampleIndexMap
        (Scorer.frame sampleIndexMap log))).map (·.2) := by
    rw [List.map_map]
    rfl
  rw [values, ← BFCLv4Scorer.mean_perm (perm.map _)]
  unfold BFCLv4Scorer.score
  dsimp only
  split
  · rename_i empty
    have none : BFCLv4Scorer.dropDuplicates [] (Scorer.frame sampleIndexMap log) = [] :=
      List.isEmpty_iff.mp empty
    rw [none]
    simp [BFCLv4Scorer.graded, BFCLv4Scorer.mean, Function.comp_def]
  · rfl

/-! ## Scorers that divide by what they grade -/

/-- The result is the number, reported as complete. -/
def Reports (result : Option ScoreOutcome) (value : ℚ) : Prop :=
  ∃ outcome, result = some outcome ∧ outcome.score = .number value ∧ outcome.complete = true

@[simp] theorem reports_none (value : ℚ) : ¬Reports none value := by
  rintro ⟨outcome, ⟨⟩, -⟩

@[simp] theorem reports_missing (nRepeats : Nat) (complete : Bool) (value : ℚ) :
    ¬Reports (some { score := .missing, nRepeats := nRepeats, complete := complete }) value := by
  rintro ⟨outcome, ⟨⟩, ⟨⟩, -⟩

@[simp] theorem reports_metrics (nRepeats : Nat) (complete : Bool) (value : ℚ) :
    ¬Reports (some { score := .metrics, nRepeats := nRepeats, complete := complete }) value := by
  rintro ⟨outcome, ⟨⟩, ⟨⟩, -⟩

@[simp] theorem reports_number (number : ℚ) (nRepeats : Nat) (complete : Bool) (value : ℚ) :
    Reports (some { score := .number number, nRepeats := nRepeats, complete := complete }) value ↔
      complete = true ∧ value = number := by
  constructor
  · rintro ⟨outcome, ⟨⟩, ⟨⟩, complete⟩
    exact ⟨complete, rfl⟩
  · rintro ⟨complete, rfl⟩
    exact ⟨_, rfl, rfl, complete⟩

theorem covers_iff_of_reports (scorer : IssuedScorer) (numSamples : Nat) {delivered : Prop}
    {number : ℚ}
    (reports : ∀ value,
      Reports (scorer.score py payloads numSamples sampleIndexMap log) value ↔
        delivered ∧ value = number) :
    scorer.Covers py payloads numSamples sampleIndexMap log ↔
      (delivered → number = scorer.overIssued py payloads sampleIndexMap log) := by
  constructor
  · intro covers given
    obtain ⟨outcome, result, score, complete⟩ := (reports number).mpr ⟨given, rfl⟩
    exact covers outcome number result score complete
  · intro equal outcome value result score complete
    obtain ⟨given, rfl⟩ := (reports value).mp ⟨outcome, result, score, complete⟩
    exact equal given

theorem rouge_reports (rows : List ScoredRow) (value : ℚ) :
    ¬Reports (RougeScorer.score rows) value := by
  unfold RougeScorer.score
  split <;> simp

theorem rouge_covers (numSamples : Nat) :
    rouge.Covers py payloads numSamples sampleIndexMap log := by
  intro outcome value result number complete
  exact absurd ⟨outcome, result, number, complete⟩ (rouge_reports _ value)

theorem liveCodeBench_reports (extractor : Extractor) (questionId : Nat → String)
    (grader : CodeGrader) (numSamples : Nat) (rows : List ScoredRow) (value : ℚ) :
    Reports (LiveCodeBenchScorer.score py payloads extractor questionId grader numSamples rows)
        value ↔
      (rows ≠ [] ∧ grader.answers = true) ∧
        value = LiveCodeBenchScorer.passAt1 py payloads extractor questionId grader rows := by
  unfold LiveCodeBenchScorer.score CodeGrader.answers
  by_cases empty : rows = []
  · simp [empty]
  · cases grader.websocket <;> cases grader.reachable <;> cases grader.allowLocal <;>
      cases grader.localWorks <;> simp [empty]

theorem liveCodeBench_iff (extractor : Extractor) (questionId : Nat → String)
    (grader : CodeGrader) (numSamples : Nat) :
    (liveCodeBench extractor questionId grader).Covers py payloads numSamples sampleIndexMap
        log ↔
      (liveCodeBench extractor questionId grader).Graded py payloads sampleIndexMap log := by
  refine (covers_iff_of_reports py payloads (liveCodeBench extractor questionId grader) numSamples
    (liveCodeBench_reports py payloads extractor questionId grader numSamples
      (Scorer.frame sampleIndexMap log))).trans ?_
  simp only [Graded, overIssued, LiveCodeBenchScorer.passAt1]
  generalize Scorer.frame sampleIndexMap log = rows
  by_cases empty : rows = []
  · simp [empty]
  · rw [ratio_eq_iff (List.length_pos_iff.mpr empty), List.length_eq_zero_iff, Nat.cast_eq_zero]
    simp [empty]

/-! ### Shopify -/

theorem match_within (predicted truth : List String) :
    let levels := ShopifyCategoryF1Scorer.matchHierarchicalPaths predicted truth
    levels.1 ≤ levels.2.1 ∧ levels.1 ≤ levels.2.2 := by
  have short := (List.takeWhile_prefix (l := predicted.zip truth)
    fun levels => decide (levels.1 = levels.2)).length_le
  rw [List.length_zip] at short
  exact ⟨short.trans (Nat.min_le_left _ _), short.trans (Nat.min_le_right _ _)⟩

/-- The harmonic mean of precision and recall, as one quotient. -/
theorem hierarchicalF1_eq (matched : List (Nat × Nat × Nat))
    (within : ∀ levels ∈ matched, levels.1 ≤ levels.2.1 ∧ levels.1 ≤ levels.2.2) :
    ShopifyCategoryF1Scorer.hierarchicalF1 matched =
      (2 * (matched.map (·.1)).sum : Nat) /
        ((matched.map (·.2.1)).sum + (matched.map (·.2.2)).sum : Nat) := by
  have underPredicted : (matched.map (·.1)).sum ≤ (matched.map (·.2.1)).sum :=
    List.sum_le_sum fun levels member => (within levels member).1
  have underTruth : (matched.map (·.1)).sum ≤ (matched.map (·.2.2)).sum :=
    List.sum_le_sum fun levels member => (within levels member).2
  unfold ShopifyCategoryF1Scorer.hierarchicalF1
  generalize (matched.map (·.1)).sum = intersection at *
  generalize (matched.map (·.2.1)).sum = predicted at *
  generalize (matched.map (·.2.2)).sum = truth at *
  rcases Nat.eq_zero_or_pos intersection with rfl | positive
  · simp
  · have intersectionPositive : (0 : ℚ) < intersection := by exact_mod_cast positive
    have predictedPositive : (0 : ℚ) < predicted := by
      exact_mod_cast positive.trans_le underPredicted
    have truthPositive : (0 : ℚ) < truth := by exact_mod_cast positive.trans_le underTruth
    have sumPositive : (0 : ℚ) < intersection / predicted + intersection / truth := by positivity
    simp only [predictedPositive, truthPositive, if_true, sumPositive.ne', if_false]
    push_cast
    field_simp
    exact add_comm _ _

theorem within_matched (reader : CategoryReader) (rows : List ScoredRow) :
    ∀ levels ∈ ShopifyCategoryF1Scorer.matched payloads reader rows,
      levels.1 ≤ levels.2.1 ∧ levels.1 ≤ levels.2.2 := by
  intro levels member
  obtain ⟨row, -, rfl⟩ := List.mem_map.mp member
  exact match_within _ _

theorem matched_positive (reader : CategoryReader) {rows : List ScoredRow} (some : rows ≠ []) :
    0 < ((ShopifyCategoryF1Scorer.matched payloads reader rows).map (·.2.2)).sum := by
  obtain ⟨row, rest, rfl⟩ := List.exists_cons_of_ne_nil some
  have deep : 0 < (reader.levels (reader.truth row.2.1)).length :=
    List.length_pos_iff.mpr (reader.levels_ne _)
  simp only [ShopifyCategoryF1Scorer.matched, ShopifyCategoryF1Scorer.matchHierarchicalPaths,
    List.map_cons, List.sum_cons]
  omega

/-- Failures add no match and as many levels to both lengths. -/
theorem failures_sums (reader : CategoryReader) (samples : List (QueryId × Nat)) :
    let failures := samples.map fun sample =>
      ShopifyCategoryF1Scorer.failure reader sample.2
    (failures.map (·.1)).sum = 0 ∧
      (failures.map (·.2.1)).sum = (failures.map (·.2.2)).sum ∧
      ((failures.map (·.2.2)).sum = 0 ↔ samples = []) := by
  induction samples with
  | nil => simp
  | cons sample samples ih =>
      obtain ⟨noMatch, same, -⟩ := ih
      have sampleDeep : 0 < (reader.levels (reader.truth sample.2)).length :=
        List.length_pos_iff.mpr (reader.levels_ne _)
      simp only [ShopifyCategoryF1Scorer.failure, ShopifyCategoryF1Scorer.createPredPadCategory,
        List.length_map, List.map_cons, List.sum_cons] at noMatch same ⊢
      refine ⟨by omega, by omega, fun none => ?_, fun none => by cases none⟩
      omega

theorem shopify_reports (reader : CategoryReader) (numSamples : Nat) (rows : List ScoredRow)
    (value : ℚ) :
    Reports (ShopifyCategoryF1Scorer.score payloads reader numSamples rows) value ↔
      rows ≠ [] ∧ value = ShopifyCategoryF1Scorer.hierarchicalF1
        (ShopifyCategoryF1Scorer.matched payloads reader rows) := by
  unfold ShopifyCategoryF1Scorer.score
  by_cases empty : rows = [] <;> simp [empty]

theorem shopify_iff (reader : CategoryReader) (numSamples : Nat) :
    (shopifyCategoryF1 reader).Covers py payloads numSamples sampleIndexMap log ↔
      (shopifyCategoryF1 reader).Graded py payloads sampleIndexMap log := by
  refine (covers_iff_of_reports py payloads (shopifyCategoryF1 reader) numSamples
    (shopify_reports payloads reader numSamples (Scorer.frame sampleIndexMap log))).trans ?_
  simp only [Graded, overIssued]
  generalize Scorer.frame sampleIndexMap log = rows
  by_cases empty : rows = []
  · simp [empty, ShopifyCategoryF1Scorer.matched]
  · obtain ⟨noMatch, same, none⟩ := failures_sums reader (missing sampleIndexMap rows)
    have positive := matched_positive payloads reader empty
    have withinAll : ∀ levels ∈ ShopifyCategoryF1Scorer.matched payloads reader rows ++
        (missing sampleIndexMap rows).map fun sample =>
          ShopifyCategoryF1Scorer.failure reader sample.2,
        levels.1 ≤ levels.2.1 ∧ levels.1 ≤ levels.2.2 := by
      intro levels member
      rcases List.mem_append.mp member with row | failure
      · exact within_matched payloads reader rows levels row
      · obtain ⟨sample, -, rfl⟩ := List.mem_map.mp failure
        exact ⟨Nat.zero_le _, Nat.zero_le _⟩
    rw [hierarchicalF1_eq _ (within_matched payloads reader rows),
      hierarchicalF1_eq _ withinAll]
    simp only [List.map_append, List.sum_append]
    generalize (missing sampleIndexMap rows).map _ = failures at *
    have lengths : ∀ predicted truth : Nat,
        predicted + (failures.map (·.2.1)).sum + (truth + (failures.map (·.2.2)).sum) =
          predicted + truth + 2 * (failures.map (·.2.2)).sum := by
      intro predicted truth
      omega
    rw [noMatch, Nat.add_zero, lengths, ratio_eq_iff (Nat.add_pos_right _ positive),
      Nat.cast_eq_zero]
    have noFailure : 2 * (failures.map (·.2.2)).sum = 0 ↔ missing sampleIndexMap rows = [] := by
      rw [← none]
      omega
    rw [noFailure]
    simp [empty]

/-! ### VBench -/

theorem meanScore_eq (grader : VideoGrader) (rows : List ScoredRow) (videos : Nat) :
    VBenchScorer.meanScore payloads grader rows videos =
      (grader.dimensions.map (VBenchScorer.credit payloads grader rows)).sum /
        grader.dimensions.length / videos := by
  unfold VBenchScorer.meanScore
  simp only [div_eq_mul_inv, List.sum_map_mul_right]
  exact mul_right_comm _ _ _

theorem vbench_reports (grader : VideoGrader) (numSamples : Nat) (rows : List ScoredRow)
    (value : ℚ) :
    let videos := VBenchScorer.staged payloads rows
    Reports (VBenchScorer.score payloads grader numSamples rows) value ↔
      (videos ≠ [] ∧ grader.works = true) ∧
        value = VBenchScorer.meanScore payloads grader videos videos.length := by
  unfold VBenchScorer.score
  by_cases empty : VBenchScorer.staged payloads rows = []
  · simp [empty]
  · cases grader.works <;> simp [empty]

theorem vbench_iff (grader : VideoGrader) (numSamples : Nat) :
    (vbench grader).Covers py payloads numSamples sampleIndexMap log ↔
      (vbench grader).Graded py payloads sampleIndexMap log := by
  refine (covers_iff_of_reports py payloads (vbench grader) numSamples
    (vbench_reports payloads grader numSamples (Scorer.frame sampleIndexMap log))).trans ?_
  simp only [Graded, overIssued]
  generalize VBenchScorer.staged payloads (Scorer.frame sampleIndexMap log) = videos
  by_cases empty : videos = []
  · have nothing : (grader.dimensions.map (VBenchScorer.credit payloads grader [])).sum = 0 := by
      apply List.sum_eq_zero
      intro credit member
      obtain ⟨dimension, -, rfl⟩ := List.mem_map.mp member
      rfl
    simp [empty, nothing]
  · rw [meanScore_eq, meanScore_eq, ratio_eq_iff (List.length_pos_iff.mpr empty),
      List.length_eq_zero_iff, div_eq_zero_iff]
    have noDimension : (grader.dimensions.length : ℚ) = 0 →
        (grader.dimensions.map (VBenchScorer.credit payloads grader videos)).sum = 0 := by
      intro none
      have empty : grader.dimensions = [] := by simpa using none
      simp [empty]
    rw [or_iff_left_of_imp noDimension]
    simp [empty]

/-! ### DeepSeek-R1 -/

theorem scoreInProcess_reports {grader : SubsetGrader} {nRepeats : Nat} {rows : List ScoredRow}
    (filled : rows ≠ []) {value : ℚ} :
    Reports (some (LegacyMLPerfDeepSeekR1Scorer.scoreInProcess grader nRepeats rows)) value ↔
      (!rows.any grader.failed) = true ∧
        value = 100 * rows.countP grader.correct / rows.length := by
  unfold LegacyMLPerfDeepSeekR1Scorer.scoreInProcess
  cases failed : rows.any grader.failed with
  | true =>
      dsimp only
      split <;> simp
  | false =>
      have evaluated : (rows.filter fun row => !grader.failed row) = rows := by
        apply List.filter_eq_self.mpr
        intro row member
        simpa using List.any_eq_false.mp failed row member
      simp [evaluated, filled]

theorem length_filter_not {α : Type} (keep : α → Bool) (rows : List α) :
    (rows.filter fun row => !keep row).length + (rows.filter keep).length = rows.length := by
  have split := List.length_eq_countP_add_countP keep (l := rows)
  simp only [Bool.not_eq_true, Bool.decide_eq_false] at split
  rw [← List.countP_eq_length_filter, ← List.countP_eq_length_filter]
  omega

theorem countP_filter_not {α : Type} (keep correct : α → Bool) (rows : List α) :
    (rows.filter fun row => !keep row).countP correct + (rows.filter keep).countP correct =
      rows.countP correct := by
  rw [List.countP_eq_countP_filter_add rows correct keep, Nat.add_comm]

/-- With the service, the text rows and the code rows are all of the rows. -/
theorem scoreWithService_reports {grader : SubsetGrader} {nRepeats : Nat}
    {rows : List ScoredRow} {value : ℚ} (code : rows.any grader.isLcb = true) :
    Reports (some (LegacyMLPerfDeepSeekR1Scorer.scoreWithService grader nRepeats rows)) value ↔
      (grader.reachable && !(rows.filter fun row => !grader.isLcb row).any grader.failed) = true ∧
        value = 100 * rows.countP grader.correct / rows.length := by
  have lengths := length_filter_not grader.isLcb rows
  have corrects := countP_filter_not grader.isLcb grader.correct rows
  have some : 0 < (rows.filter grader.isLcb).length := by
    obtain ⟨row, member, isCode⟩ := List.any_eq_true.mp code
    exact List.length_pos_of_mem (List.mem_filter.mpr ⟨member, isCode⟩)
  unfold LegacyMLPerfDeepSeekR1Scorer.scoreWithService
  dsimp only
  generalize (rows.filter fun row => !grader.isLcb row) = text at *
  generalize rows.filter grader.isLcb = lcb at *
  have filled : rows.length ≠ 0 := by omega
  cases grader.reachable with
  | false =>
      simp only [Bool.false_eq_true, if_false, Bool.and_false, Bool.false_and, false_and, iff_false]
      split <;> simp
  | true =>
      cases failed : text.any grader.failed with
      | true =>
          simp only [Bool.not_true, Bool.and_false, Bool.false_and, Bool.false_eq_true, false_and,
            if_true, iff_false]
          split <;> simp
      | false =>
          have evaluated : (text.filter fun row => !grader.failed row) = text := by
            apply List.filter_eq_self.mpr
            intro row member
            simpa using List.any_eq_false.mp failed row member
          simp only [evaluated, if_true, lengths, corrects]
          simp [filled, some]

theorem deepSeek_reports (grader : SubsetGrader) (numSamples : Nat) (rows : List ScoredRow)
    (value : ℚ) :
    Reports (LegacyMLPerfDeepSeekR1Scorer.score grader numSamples rows) value ↔
      (rows ≠ [] ∧ grader.gradesAll rows = true) ∧
        value = 100 * rows.countP grader.correct / rows.length := by
  unfold LegacyMLPerfDeepSeekR1Scorer.score SubsetGrader.gradesAll
  by_cases empty : rows = []
  · simp [empty]
  · have filled : rows.isEmpty = false := by simpa using empty
    simp only [filled, Bool.false_eq_true, if_false]
    by_cases service : (grader.websocket && rows.any grader.isLcb) = true
    · simp only [service, if_true]
      cases grader.runs with
      | false => simp
      | true =>
          have code : rows.any grader.isLcb = true := (Bool.and_eq_true_iff.mp service).2
          rw [if_pos rfl, scoreWithService_reports code]
          simp [empty]
    · simp only [service, if_false]
      cases grader.runs with
      | false => cases rows.any grader.isLcb <;> cases grader.allowLocal <;> simp
      | true =>
          have inProcess : Reports (some (LegacyMLPerfDeepSeekR1Scorer.scoreInProcess grader
              (rows.length / numSamples) rows)) value ↔ _ := scoreInProcess_reports empty
          cases rows.any grader.isLcb <;> cases grader.allowLocal <;> simp [inProcess, empty]

theorem deepSeek_iff (grader : SubsetGrader) (numSamples : Nat) :
    (legacyMlperfDeepseekR1 grader).Covers py payloads numSamples sampleIndexMap log ↔
      (legacyMlperfDeepseekR1 grader).Graded py payloads sampleIndexMap log := by
  refine (covers_iff_of_reports py payloads (legacyMlperfDeepseekR1 grader) numSamples
    (deepSeek_reports grader numSamples (Scorer.frame sampleIndexMap log))).trans ?_
  simp only [Graded, overIssued]
  generalize Scorer.frame sampleIndexMap log = rows
  by_cases empty : rows = []
  · simp [empty]
  · rw [ratio_eq_iff (List.length_pos_iff.mpr empty), List.length_eq_zero_iff]
    simp [empty]

/-- What a row earns is never negative and is added up.  With category paths it is not: a
wrong path weighs more the longer it is. -/
def Additive : IssuedScorer → Prop
  | perSample contribution => ∀ row, 0 ≤ contribution row
  | vbench grader => ∀ dimension output prompt, 0 ≤ grader.grade dimension output prompt
  | shopifyCategoryF1 _ => False
  | _ => True

theorem frame_sublist {kept : List EventRecord} (deleted : kept.Sublist log) :
    (Scorer.frame sampleIndexMap kept).Sublist (Scorer.frame sampleIndexMap log) :=
  ((deleted.filter _).map _).filterMap _

/-- Every issued sample has a row or is missing. -/
theorem length_add_missing {rows : List ScoredRow} (distinct : (rows.map (·.1)).Nodup)
    (issued : ∀ row ∈ rows, row.1 ∈ sampleIndexMap.keys) :
    rows.length + (missing sampleIndexMap rows).length = sampleIndexMap.size := by
  have present : (sampleIndexMap.keys.filter (rows.map (·.1)).contains).Perm (rows.map (·.1)) := by
    apply (List.perm_ext_iff_of_nodup (sampleIndexMap.nodup_keys.filter _) distinct).mpr
    intro uuid
    simp only [List.mem_filter, List.contains_iff_mem, and_iff_right_iff_imp]
    intro member
    obtain ⟨row, rowMember, rfl⟩ := List.mem_map.mp member
    exact issued row rowMember
  have split := length_filter_not (fun sample => (rows.map (·.1)).contains sample.1)
    sampleIndexMap.entries
  have lengths : (sampleIndexMap.entries.filter fun sample =>
      (rows.map (·.1)).contains sample.1).length = rows.length := by
    have keys := present.length_eq
    rwa [OrderedDict.keys, List.filter_map, List.length_map, List.length_map] at keys
  unfold missing OrderedDict.size
  omega

/-- A ratio over all issued samples, against one over fewer samples that earn no less. -/
theorem ratio_le {keptCredit credit : ℚ} {rows issued : Nat} (nonneg : 0 ≤ keptCredit)
    (earned : keptCredit ≤ credit) (some : 0 < rows) (within : rows ≤ issued) :
    keptCredit / issued ≤ credit / rows :=
  div_le_div₀ (nonneg.trans earned) earned (by exact_mod_cast some) (by exact_mod_cast within)

theorem Covers.value_eq {scorer : IssuedScorer} {numSamples : Nat} {value : ℚ}
    (covers : scorer.Covers py payloads numSamples sampleIndexMap log)
    (reports : Reports (scorer.score py payloads numSamples sampleIndexMap log) value) :
    value = scorer.overIssued py payloads sampleIndexMap log := by
  obtain ⟨outcome, result, score, complete⟩ := reports
  exact covers outcome value result score complete

theorem rowScore_nonneg (checker : AstChecker) (dataset : AccuracyDataset) (row : ScoredRow) :
    0 ≤ BFCLv4Scorer.rowScore py payloads checker dataset row := by
  unfold BFCLv4Scorer.rowScore BFCLv4Scorer.scoreHallucination BFCLv4Scorer.scoreRelevance
    BFCLv4Scorer.scoreAst
  dsimp only
  repeat' split
  all_goals decide

/-- With one row for a sample, losing rows loses their grades. -/
theorem gradeOf_le (checker : AstChecker) (dataset : AccuracyDataset)
    {kept rows : List ScoredRow} (deleted : kept.Sublist rows)
    (distinct : (rows.map (·.1)).Nodup) (uuid : QueryId) :
    (BFCLv4Scorer.gradeOf py payloads checker dataset sampleIndexMap kept uuid).2 ≤
      (BFCLv4Scorer.gradeOf py payloads checker dataset sampleIndexMap rows uuid).2 := by
  unfold BFCLv4Scorer.gradeOf
  dsimp only
  cases keptFound : kept.find? (·.1 = uuid) with
  | none =>
      cases rows.find? (·.1 = uuid) with
      | none => exact le_refl _
      | some row => exact rowScore_nonneg py payloads checker dataset row
  | some keptRow =>
      have member := deleted.mem (List.mem_of_find?_eq_some keptFound)
      have same : keptRow.1 = uuid := by simpa using List.find?_some keptFound
      cases found : rows.find? (·.1 = uuid) with
      | none => exact absurd same (by simpa using List.find?_eq_none.mp found keptRow member)
      | some row =>
          have sameRow : row.1 = uuid := by simpa using List.find?_some found
          obtain rfl : row = keptRow := List.inj_on_of_nodup_map distinct
            (List.mem_of_find?_eq_some found) member (sameRow.trans same.symm)
          exact le_refl _

theorem meanScore_le {grader : VideoGrader}
    (nonneg : ∀ dimension output prompt, 0 ≤ grader.grade dimension output prompt)
    {kept videos : List ScoredRow} (deleted : kept.Sublist videos) (filled : videos ≠ [])
    {issued : Nat} (within : videos.length ≤ issued) :
    VBenchScorer.meanScore payloads grader kept issued ≤
      VBenchScorer.meanScore payloads grader videos videos.length := by
  have creditNonneg : ∀ dimension, 0 ≤ VBenchScorer.credit payloads grader kept dimension := by
    intro dimension
    apply List.sum_nonneg
    intro amount member
    obtain ⟨row, -, rfl⟩ := List.mem_map.mp member
    exact nonneg _ _ _
  have creditLe : ∀ dimension, VBenchScorer.credit payloads grader kept dimension ≤
      VBenchScorer.credit payloads grader videos dimension := by
    intro dimension
    apply (deleted.map _).sum_le_sum
    intro amount member
    obtain ⟨row, -, rfl⟩ := List.mem_map.mp member
    exact nonneg _ _ _
  rw [meanScore_eq, meanScore_eq]
  apply ratio_le _ _ (List.length_pos_iff.mpr filled) within
  · apply div_nonneg _ (Nat.cast_nonneg _)
    apply List.sum_nonneg
    intro amount member
    obtain ⟨dimension, -, rfl⟩ := List.mem_map.mp member
    exact creditNonneg dimension
  · apply div_le_div_of_nonneg_right _ (Nat.cast_nonneg _)
    exact List.sum_le_sum fun dimension _ => creditLe dimension

/-- If each sample completed at most once and the score of the kept records covers the
issued samples, then the lost records did not raise it. -/
theorem deletion_lowers {scorer : IssuedScorer} (additive : scorer.Additive) {numSamples : Nat}
    {kept : List EventRecord} (deleted : kept.Sublist log)
    (distinct : ((Scorer.frame sampleIndexMap log).map (·.1)).Nodup)
    (graded : scorer.Graded py payloads sampleIndexMap kept) {keptValue value : ℚ}
    (keptReports : Reports (scorer.score py payloads numSamples sampleIndexMap kept) keptValue)
    (reports : Reports (scorer.score py payloads numSamples sampleIndexMap log) value) :
    keptValue ≤ value := by
  have sublist : (Scorer.frame sampleIndexMap kept).Sublist (Scorer.frame sampleIndexMap log) :=
    frame_sublist deleted
  have keptDistinct := (sublist.map (·.1)).nodup distinct
  have keptTotal := length_add_missing keptDistinct fun row => key_of_frame
  have total := length_add_missing distinct fun row => key_of_frame
  cases scorer with
  | perSample contribution =>
      have keptEqual := (perSample_covers py payloads contribution numSamples).value_eq py payloads
        keptReports
      have equal := (perSample_covers py payloads contribution numSamples).value_eq py payloads
        reports
      rw [keptEqual, equal, perSample_overIssued, perSample_overIssued]
      apply div_le_div_of_nonneg_right _ (Nat.cast_nonneg _)
      apply (sublist.map contribution).sum_le_sum
      intro amount member
      obtain ⟨row, -, rfl⟩ := List.mem_map.mp member
      exact additive row
  | rouge => exact absurd reports (rouge_reports _ value)
  | liveCodeBench extractor questionId grader =>
      have keptEqual := ((liveCodeBench_iff py payloads extractor questionId grader numSamples).mpr
        graded).value_eq py payloads keptReports
      obtain ⟨⟨filled, -⟩, rfl⟩ := (liveCodeBench_reports py payloads extractor questionId grader
        numSamples _ value).mp reports
      rw [keptEqual]
      simp only [overIssued, keptTotal]
      exact ratio_le (Nat.cast_nonneg _) (by exact_mod_cast sublist.countP_le)
        (List.length_pos_iff.mpr filled) (by omega)
  | shopifyCategoryF1 reader => exact additive.elim
  | vbench grader =>
      have keptEqual := ((vbench_iff py payloads grader numSamples).mpr graded).value_eq py payloads
        keptReports
      obtain ⟨⟨filled, -⟩, rfl⟩ := (vbench_reports payloads grader numSamples _ value).mp reports
      rw [keptEqual]
      simp only [overIssued]
      have videos : (VBenchScorer.staged payloads (Scorer.frame sampleIndexMap kept)).Sublist
          (Scorer.frame sampleIndexMap kept) := List.filter_sublist
      have within : (VBenchScorer.staged payloads (Scorer.frame sampleIndexMap log)).length ≤
          (Scorer.frame sampleIndexMap log).length := List.length_filter_le _ _
      rw [length_add_missing ((videos.map (·.1)).nodup keptDistinct)
        fun row member => key_of_frame (videos.mem member)]
      rw [← total]
      exact meanScore_le payloads additive (sublist.filter _) filled (le_add_right within)
  | bfclV4 checker dataset =>
      have keptEqual := (bfclV4_covers py payloads checker dataset numSamples).value_eq py payloads
        keptReports
      have equal := (bfclV4_covers py payloads checker dataset numSamples).value_eq py payloads
        reports
      rw [keptEqual, equal]
      simp only [overIssued, BFCLv4Scorer.mean, List.length_map]
      apply div_le_div_of_nonneg_right _ (Nat.cast_nonneg _)
      apply List.sum_le_sum
      intro uuid _
      exact gradeOf_le py payloads checker dataset sublist distinct uuid
  | legacyMlperfDeepseekR1 grader =>
      have keptEqual := ((deepSeek_iff py payloads grader numSamples).mpr graded).value_eq py
        payloads keptReports
      obtain ⟨⟨filled, -⟩, rfl⟩ := (deepSeek_reports grader numSamples _ value).mp reports
      rw [keptEqual]
      simp only [overIssued, keptTotal]
      apply ratio_le (by positivity) _ (List.length_pos_iff.mpr filled) (by omega)
      have fewer : (Scorer.frame sampleIndexMap kept).countP grader.correct ≤
          (Scorer.frame sampleIndexMap log).countP grader.correct := sublist.countP_le
      have fewerRational : ((Scorer.frame sampleIndexMap kept).countP grader.correct : ℚ) ≤
          (Scorer.frame sampleIndexMap log).countP grader.correct := by exact_mod_cast fewer
      linarith

/-- A sandbox in which the code of the first question passes. -/
def firstPasses : CodeGrader where
  passes question _ := question = "first"

def questions : Nat → String
  | 0 => "first"
  | _ => "second"

def answer : Option EventData :=
  some (.output { output := .whole "pass" })

def answered (uuid : QueryId) : EventRecord :=
  BFCLv4Scorer.completed uuid answer

open BFCLv4Scorer in
/-- Losing the completion of the passing sample. -/
theorem deletion_lowers_firstLost :
    let scorer := liveCodeBench .pythonCode questions firstPasses
    Reports (scorer.score asciiPython plainPayloads 2 bothIssued [answered 1]) 0 ∧
      Reports (scorer.score asciiPython plainPayloads 2 bothIssued [answered 0, answered 1])
        (1 / 2) ∧ (0 : ℚ) ≤ 1 / 2 := by
  have rows : Scorer.frame bothIssued [answered 0, answered 1] =
      [(0, 0, answer), (1, 1, answer)] := by decide
  have row : Scorer.frame bothIssued [answered 1] = [(1, 1, answer)] := by decide
  have keptReports : Reports ((liveCodeBench .pythonCode questions firstPasses).score asciiPython
      plainPayloads 2 bothIssued [answered 1]) 0 :=
    ⟨_, by simp [score, row, LiveCodeBenchScorer.score, LiveCodeBenchScorer.passAt1,
      LiveCodeBenchScorer.passes, firstPasses, questions]; rfl, by simp, rfl⟩
  have reports : Reports ((liveCodeBench .pythonCode questions firstPasses).score asciiPython
      plainPayloads 2 bothIssued [answered 0, answered 1]) (1 / 2) :=
    ⟨_, by simp [score, rows, LiveCodeBenchScorer.score, LiveCodeBenchScorer.passAt1,
      LiveCodeBenchScorer.passes, firstPasses, questions]; rfl, by simp, rfl⟩
  refine ⟨keptReports, reports, ?_⟩
  have additive : (liveCodeBench .pythonCode questions firstPasses).Additive := trivial
  refine deletion_lowers asciiPython plainPayloads additive
    (List.sublist_cons_self (answered 0) [answered 1]) (by rw [rows]; decide) ?_ keptReports reports
  simp only [Graded, row]
  decide

end IssuedScorer

end InferenceEndpoint
