import InferenceEndpoint.Evaluation.ScorerCoverage
import InferenceEndpoint.Library.Grouping

/-!
# Code sent for grading

Two scorers send the code of the completed samples to the LiveCodeBench service, grouped by
question.  The service asks for lists of one length: then it counts every code, and
otherwise it grades none of them.
-/

namespace InferenceEndpoint

/-- Question ids with the codes for each of them. -/
abbrev CodesDict := OrderedDict String (List String)

/-! ## The service -/

namespace EvaluationRequest

/-- One turn of the loop over the questions; `codeListLength` is `none` before the first. -/
def checkCodeList (codeListLength : Option Nat) (entry : String × List String) :
    Except String (Option Nat) :=
  let (qid, codeList) := entry
  if codeList.isEmpty then .error s!"Code list for question {qid} cannot be empty"
  else
    match codeListLength with
    | none => .ok (some codeList.length)
    | some length =>
        if codeList.length ≠ length then .error "All code lists must have the same length."
        else .ok (some length)

/-- `validate_codes_dict`; that ids and codes are strings is in the type. -/
def validateCodesDict (codesDict : CodesDict) : Except String CodesDict := do
  if codesDict.isEmpty then throw "codes_dict cannot be empty"
  let _ ← codesDict.entries.foldlM checkCodeList none
  return codesDict

end EvaluationRequest

namespace EvaluationSession

/-- The samples that a session announces: the questions times the codes of the first. -/
def totalSamples (codesDict : CodesDict) : Nat :=
  let codeSamplesPerProblem := codesDict.values.head?.elim 0 List.length
  codesDict.size * codeSamplesPerProblem

structure FinalResult where
  totalSamples : Nat
  totalPassed : Nat
  deriving DecidableEq

/-- What the service answers to a request, where `passes` runs the tests of a question. -/
def evaluate (passes : String → String → Bool) (codesDict : CodesDict) :
    Except String FinalResult := do
  let codesDict ← EvaluationRequest.validateCodesDict codesDict
  return {
    totalSamples := totalSamples codesDict
    totalPassed := (codesDict.entries.map fun entry => entry.2.countP (passes entry.1)).sum }

end EvaluationSession

/-- The samples of which `_lcb_ws_evaluate` reports the progress. -/
def codesSent (codesDict : CodesDict) : Nat :=
  (codesDict.values.map List.length).sum

/-- The service accepts the request and counts every code of it. -/
structure Served (codesDict : CodesDict) : Prop where
  accepted : EvaluationRequest.validateCodesDict codesDict = .ok codesDict
  counted : EvaluationSession.totalSamples codesDict = codesSent codesDict

/-! ## The scorers -/

def failedToExtract : String :=
  "# FAILED TO EXTRACT CODE"

/-- The scorers that send code, with the question of each sample of the dataset. -/
inductive CodeScorer
  | liveCodeBench (extractor : Extractor) (questionId : Nat → String)
  | legacyMlperfDeepseekR1 (grader : SubsetGrader) (groundTruth : Nat → String)

namespace CodeScorer

variable (py : Python) (payloads : Payloads)

/-- The rows whose code is sent. -/
def graded (scorer : CodeScorer) (rows : List ScoredRow) : List ScoredRow :=
  match scorer with
  | liveCodeBench _ _ => rows
  | legacyMlperfDeepseekR1 grader _ => rows.filter grader.isLcb

def question (scorer : CodeScorer) (row : ScoredRow) : String :=
  match scorer with
  | liveCodeBench _ questionId => questionId row.2.1
  | legacyMlperfDeepseekR1 _ groundTruth => groundTruth row.2.1

def code (scorer : CodeScorer) (row : ScoredRow) : String :=
  match scorer with
  | liveCodeBench extractor _ =>
      (extractor.extract py (payloads.text row.2.2) (some failedToExtract)).getD ""
  | legacyMlperfDeepseekR1 _ _ =>
      match PythonCodeExtractor.extract py (payloads.text row.2.2) (some failedToExtract) with
      | none | some "" => failedToExtract
      | some code => code

/-- The `codes_dict` that a scorer sends. -/
def codesDict (scorer : CodeScorer) (rows : List ScoredRow) : CodesDict :=
  OrderedDict.group ((scorer.graded rows).map fun row =>
    (scorer.question row, scorer.code py payloads row))

/-- If a scorer has code to send, then the service accepts it and counts all of it. -/
def Serviceable (scorer : CodeScorer) (sampleIndexMap : SampleIndexMap)
    (log : List EventRecord) : Prop :=
  let rows := Scorer.frame sampleIndexMap log
  scorer.graded rows ≠ [] → Served (scorer.codesDict py payloads rows)

/-- The completed samples of a question. -/
def completions (scorer : CodeScorer) (rows : List ScoredRow) (question : String) : Nat :=
  (scorer.graded rows).countP fun row => scorer.question row = question

/-- The questions that completed at all completed equally often. -/
def EvenlyCompleted (scorer : CodeScorer) (rows : List ScoredRow) : Prop :=
  ∀ row ∈ scorer.graded rows, ∀ other ∈ scorer.graded rows,
    scorer.completions rows (scorer.question row) =
      scorer.completions rows (scorer.question other)

end CodeScorer

/-! ## What the service accepts -/

namespace EvaluationRequest

theorem checkCodeList_some (length : Nat) (entry : String × List String) (next : Option Nat) :
    checkCodeList (some length) entry = .ok next ↔
      entry.2 ≠ [] ∧ entry.2.length = length ∧ next = some length := by
  obtain ⟨qid, codeList⟩ := entry
  cases codeList with
  | nil => simp [checkCodeList]
  | cons code codeList =>
      by_cases same : codeList.length + 1 = length
      · simp [checkCodeList, same, eq_comm]
      · simp [checkCodeList, same]

theorem checkCodeList_none (entry : String × List String) (next : Option Nat) :
    checkCodeList none entry = .ok next ↔ entry.2 ≠ [] ∧ next = some entry.2.length := by
  obtain ⟨qid, codeList⟩ := entry
  cases codeList <;> simp [checkCodeList, eq_comm]

/-- The loop after the first list. -/
theorem foldlM_checkCodeList (entries : List (String × List String)) (length : Nat)
    (next : Option Nat) :
    entries.foldlM checkCodeList (some length) = .ok next ↔
      (∀ entry ∈ entries, entry.2 ≠ [] ∧ entry.2.length = length) ∧ next = some length := by
  induction entries with
  | nil => simp [pure, Except.pure, eq_comm]
  | cons entry entries ih =>
      rw [List.foldlM_cons]
      cases checked : checkCodeList (some length) entry with
      | error message =>
          have failed : ¬(entry.2 ≠ [] ∧ entry.2.length = length) := by
            rintro ⟨some, same⟩
            have passed := (checkCodeList_some length entry _).mpr ⟨some, same, rfl⟩
            simp [checked] at passed
          simp only [bind, Except.bind, reduceCtorEq, List.forall_mem_cons, failed, false_and]
      | ok found =>
          obtain ⟨some, same, rfl⟩ := (checkCodeList_some length entry found).mp checked
          simp only [bind, Except.bind, ih, List.forall_mem_cons]
          simp only [some, same, ne_eq, not_false_eq_true, and_self, true_and]

/-- The lists that pass are those of one positive length, and there is at least one. -/
theorem validateCodesDict_ok (codesDict : CodesDict) :
    validateCodesDict codesDict = .ok codesDict ↔
      ∃ length, 0 < length ∧ codesDict.entries ≠ [] ∧
        ∀ entry ∈ codesDict.entries, entry.2.length = length := by
  obtain ⟨entries, nodupKeys⟩ := codesDict
  cases entries with
  | nil => simp [validateCodesDict, OrderedDict.isEmpty, throw, throwThe, MonadExceptOf.throw, bind,
      Except.bind]
  | cons first rest =>
      have filled : (⟨first :: rest, nodupKeys⟩ : CodesDict).isEmpty = false := rfl
      simp only [validateCodesDict, filled, Bool.false_eq_true, if_false, pure, Except.pure, bind,
        Except.bind, List.foldlM_cons]
      cases checked : checkCodeList none first with
      | error message =>
          have empty : first.2 = [] := by
            by_contra some
            have passed := (checkCodeList_none first _).mpr ⟨some, rfl⟩
            simp [checked] at passed
          simp only [reduceCtorEq, false_iff]
          rintro ⟨length, positive, -, same⟩
          have zero := same first List.mem_cons_self
          rw [empty, List.length_nil] at zero
          omega
      | ok found =>
          obtain ⟨some, rfl⟩ := (checkCodeList_none first found).mp checked
          dsimp only
          cases rested : rest.foldlM checkCodeList (Option.some first.2.length) with
          | error message =>
              simp only [reduceCtorEq, false_iff]
              rintro ⟨length, positive, -, same⟩
              have firstLength := same first List.mem_cons_self
              have passed := (foldlM_checkCodeList rest first.2.length _).mpr ⟨fun entry member => by
                have entryLength := same entry (List.mem_cons_of_mem _ member)
                refine ⟨?_, entryLength.trans firstLength.symm⟩
                rintro empty
                rw [empty, List.length_nil] at entryLength
                omega, rfl⟩
              simp [rested] at passed
          | ok last =>
              obtain ⟨same, -⟩ := (foldlM_checkCodeList rest first.2.length last).mp rested
              simp only [true_iff]
              refine ⟨first.2.length, List.length_pos_iff.mpr some, by simp, ?_⟩
              rintro entry (_ | ⟨_, member⟩)
              · rfl
              · exact (same entry member).2

end EvaluationRequest

/-- A session counts every code of an accepted request. -/
theorem totalSamples_eq {codesDict : CodesDict} {length : Nat}
    (same : ∀ entry ∈ codesDict.entries, entry.2.length = length) :
    EvaluationSession.totalSamples codesDict = codesSent codesDict := by
  have lengths : codesDict.values.map List.length = List.replicate codesDict.size length := by
    apply List.eq_replicate_iff.mpr
    refine ⟨by simp [OrderedDict.values, OrderedDict.size], ?_⟩
    intro found member
    simp only [OrderedDict.values, List.map_map, List.mem_map] at member
    obtain ⟨entry, entryMember, rfl⟩ := member
    exact same entry entryMember
  rw [codesSent, lengths, List.sum_replicate_nat]
  unfold EvaluationSession.totalSamples OrderedDict.size OrderedDict.values
  cases listed : codesDict.entries with
  | nil => simp
  | cons first rest =>
      have firstLength := same first (by simp [listed])
      simp [firstLength]

theorem served_iff {codesDict : CodesDict} :
    Served codesDict ↔ EvaluationRequest.validateCodesDict codesDict = .ok codesDict := by
  constructor
  · exact fun served => served.accepted
  · intro accepted
    obtain ⟨length, -, -, same⟩ := (EvaluationRequest.validateCodesDict_ok codesDict).mp accepted
    exact ⟨accepted, totalSamples_eq same⟩

/-- Grouped codes are served exactly if every question has as many as any other. -/
theorem served_group {pairs : List (String × String)} (some : pairs ≠ []) :
    Served (OrderedDict.group pairs) ↔
      ∀ pair ∈ pairs, ∀ other ∈ pairs,
        (pairs.map Prod.fst).count pair.1 = (pairs.map Prod.fst).count other.1 := by
  rw [served_iff, EvaluationRequest.validateCodesDict_ok]
  constructor
  · rintro ⟨length, -, -, same⟩ pair pairMember other otherMember
    have lengthOf : ∀ member ∈ pairs, (pairs.map Prod.fst).count member.1 = length := by
      intro member isMember
      have found := same (member.1, OrderedDict.valuesOf pairs member.1)
        (OrderedDict.mem_group.mpr ⟨List.mem_map_of_mem isMember, rfl⟩)
      rwa [OrderedDict.length_valuesOf] at found
    rw [lengthOf pair pairMember, lengthOf other otherMember]
  · intro even
    obtain ⟨first, firstMember⟩ := List.exists_mem_of_ne_nil pairs some
    refine ⟨(pairs.map Prod.fst).count first.1, ?_, ?_, ?_⟩
    · exact List.count_pos_iff.mpr (List.mem_map_of_mem firstMember)
    · simpa [OrderedDict.group_eq_empty] using some
    · rintro ⟨qid, codeList⟩ member
      obtain ⟨occurs, rfl⟩ := OrderedDict.mem_group.mp member
      obtain ⟨pair, pairMember, rfl⟩ := List.mem_map.mp occurs
      rw [OrderedDict.length_valuesOf]
      exact even pair pairMember first firstMember

namespace CodeScorer

variable (py : Python) (payloads : Payloads)

theorem count_question (scorer : CodeScorer) (rows : List ScoredRow) (question : String) :
    (((scorer.graded rows).map fun row =>
      (scorer.question row, scorer.code py payloads row)).map Prod.fst).count question =
        scorer.completions rows question := by
  rw [List.map_map, List.count, List.countP_map, completions]
  apply List.countP_congr
  intro row _
  simp

theorem served_codesDict {scorer : CodeScorer} {rows : List ScoredRow}
    (some : scorer.graded rows ≠ []) :
    Served (scorer.codesDict py payloads rows) ↔ scorer.EvenlyCompleted rows := by
  have pairs : (scorer.graded rows).map (fun row =>
      (scorer.question row, scorer.code py payloads row)) ≠ [] := by simpa using some
  rw [codesDict, served_group pairs]
  simp only [count_question, List.forall_mem_map, EvenlyCompleted]

/-- The service accepts what a scorer sends exactly if the questions that completed at all
completed equally often. -/
theorem serviceable_iff (scorer : CodeScorer) (sampleIndexMap : SampleIndexMap)
    (log : List EventRecord) :
    scorer.Serviceable py payloads sampleIndexMap log ↔
      scorer.EvenlyCompleted (Scorer.frame sampleIndexMap log) := by
  unfold Serviceable
  dsimp only
  by_cases some : scorer.graded (Scorer.frame sampleIndexMap log) = []
  · simp [some, EvenlyCompleted]
  · simp [some, served_codesDict py payloads some]

/-- Two questions, each issued twice. -/
def twiceIssued : SampleIndexMap where
  entries := [(0, 0), (1, 1), (2, 0), (3, 1)]
  nodupKeys := by decide

open BFCLv4Scorer IssuedScorer in
/-- With all completions every sample is counted, and with one of them lost none is. -/
theorem lost_sample_rejected :
    let scorer := liveCodeBench .pythonCode questions
    let log := [answered 0, answered 1, answered 2, answered 3]
    let lossy := [answered 0, answered 1, answered 2]
    EvaluationSession.evaluate firstPasses.passes
        (scorer.codesDict asciiPython plainPayloads (Scorer.frame twiceIssued log)) =
          .ok { totalSamples := 4, totalPassed := 2 } ∧
      EvaluationSession.evaluate firstPasses.passes
        (scorer.codesDict asciiPython plainPayloads (Scorer.frame twiceIssued lossy)) =
          .error "All code lists must have the same length." ∧
      ¬scorer.Serviceable asciiPython plainPayloads twiceIssued lossy := by
  have rows : Scorer.frame twiceIssued [answered 0, answered 1, answered 2, answered 3] =
      [(0, 0, answer), (1, 1, answer), (2, 0, answer), (3, 1, answer)] := by decide
  have lossyRows : Scorer.frame twiceIssued [answered 0, answered 1, answered 2] =
      [(0, 0, answer), (1, 1, answer), (2, 0, answer)] := by decide
  refine ⟨?_, ?_, ?_⟩
  · rw [rows]
    decide
  · rw [lossyRows]
    decide
  · rw [serviceable_iff, lossyRows]
    intro even
    have equal := even (0, 0, answer) (by simp [graded]) (1, 1, answer) (by simp [graded])
    simp [completions, graded, question, questions] at equal

end CodeScorer

end InferenceEndpoint
