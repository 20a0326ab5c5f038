import InferenceEndpoint.Library.SlotGathering

/-!
# Grading LiveCodeBench samples

Each sample is graded by a child process of its own, which reports a result for each test
case that it ran and may die, exit or hang at any moment.  The worker collects what the
children report in the order in which they end, and judges every sample by the list of its
results.
-/

namespace InferenceEndpoint

namespace LcbServe

/-! ## Test suites -/

structure TestCase where
  input : String
  output : String

/-- A file of test cases. -/
structure TestCaseData where
  publicTestCases : List TestCase
  privateTestCases : List TestCase
  funcName : Option String

/-- A suite, which travels as JSON text. -/
structure TestSuite where
  inputs : List String
  outputs : List String
  fnName : Option String

inductive WorkerError
  | fileNotFound (message : String)
  | runtimeError (message : String)
  deriving DecidableEq

/-- `LCBTestLoader`, with the files that it may read. -/
structure LCBTestLoader where
  testCasesDir : String
  strict : Bool := true
  file : String → Option TestCaseData

/-- `_load_test_case`. -/
def LCBTestLoader.loadTestCase (loader : LCBTestLoader) (questionId : String) :
    Except WorkerError TestSuite :=
  match loader.file questionId with
  | none =>
      if loader.strict then
        .error (.fileNotFound ("Test case file not found: " ++ loader.testCasesDir ++ "/" ++
          questionId ++ ".json. Please regenerate the dataset."))
      else .ok { inputs := [], outputs := [], fnName := none }
  | some testCaseData =>
      let testCases := testCaseData.publicTestCases ++ testCaseData.privateTestCases
      .ok
        { inputs := testCases.map TestCase.input
          outputs := testCases.map TestCase.output
          fnName := testCaseData.funcName }

/-! ## Grading children -/

/-- How a child may fail to get through a part of its work. -/
inductive Failure
  | raises (error : String)
  | exits (code : String)
  | dies (exitcode : Int)
  | hangs

/-- What running a test case comes to.  The value of a comparison is a number, positive for
equal; a mismatch of printed lines has a message. -/
inductive CaseRun
  | returned (value : Int) (mismatch : String := "")
  | exits (code : String) (value : Int) (mismatch : String := "")
  | timeLimit (error : String)
  | raises (error : String)
  | dies (exitcode : Int)
  | hangs

/-- A grading child: it fails while the judge sets up or while it loads the submission, or
runs the cases. -/
inductive GradingChild
  | setup (failure : Failure)
  | loading (failure : Failure)
  | running (caseRun : Nat → CaseRun)

/-- Absent keys are `none`; what only logs show is left out. -/
structure Metadata where
  error : Option String := none
  errorCode : Option Int := none
  errorMessage : Option String := none
  deriving DecidableEq

/-- A result for each case that was run. -/
abbrev Report := List Int × Metadata

/-- The end of one case in the loops of `grade_call_based` and `grade_stdio`: the loop goes
on, returns, or the child fails. -/
inductive CaseEnd
  | next (result : Int)
  | returns (result : Int) (metadata : Metadata)
  | fails (failure : Failure)

def compared (callBased : Bool) (value : Int) (mismatch : String) : CaseEnd :=
  if value = 0 then
    if callBased then .returns 0 { errorCode := some (-2), errorMessage := some "Wrong Answer" }
    else .returns (-2) { errorCode := some (-2), errorMessage := some mismatch }
  else .next (if callBased then value else 1)

def caseEnd (callBased : Bool) : CaseRun → CaseEnd
  | .returned value mismatch => compared callBased value mismatch
  | .exits code value mismatch =>
      -- `call_method` swallows `SystemExit`, and the output is compared.
      if callBased then .fails (.exits code) else compared callBased value mismatch
  | .timeLimit error => .returns (-3) ⟨some error, some (-3), some "Time Limit Exceeded"⟩
  | .raises error => .returns (-4) ⟨some error, some (-4), some "Runtime Error"⟩
  | .dies exitcode => .fails (.dies exitcode)
  | .hangs => .fails .hangs

/-- The loops, from a case on and with the results so far. -/
def grade (callBased : Bool) (caseRun : Nat → CaseRun) :
    Nat → Nat → List Int → Except Failure Report
  | _, 0, allResults => .ok (allResults, {})
  | index, remaining + 1, allResults =>
      match caseEnd callBased (caseRun index) with
      | .next result => grade callBased caseRun (index + 1) remaining (allResults ++ [result])
      | .returns result metadata => .ok (allResults ++ [result], metadata)
      | .fails failure => .error failure

/-- `run_test`. -/
def runTest (suite : TestSuite) : GradingChild → Except Failure Report
  | .setup failure => .error failure
  | .loading (.raises error) =>
      .ok ([-4], ⟨some error, some (-4), some ("Error during testing: " ++ error)⟩)
  | .loading failure => .error failure
  | .running caseRun =>
      grade suite.fnName.isSome caseRun 0 (min suite.inputs.length suite.outputs.length) []

/-- `started_flag`. -/
def GradingChild.started : GradingChild → Bool
  | .setup _ => false
  | _ => true

/-- `execute_code_single_suppressed_errors`: what the child reports, if it reports. -/
def executeCodeSingleSuppressedErrors (suite : TestSuite) (child : GradingChild) :
    Except Failure Report :=
  match runTest suite child with
  | .ok report => .ok report
  | .error (.exits code) =>
      .ok ([-2], ⟨some ("Submission called sys.exit(" ++ code ++ ")"), some (-7),
        some "SubmissionExit"⟩)
  | .error (.raises error) => .ok ([-2], ⟨some error, some (-5), some "TestRunnerError"⟩)
  | .error failure => .error failure

def globalTimeout (timeoutSec : Nat) (suite : TestSuite) : Nat :=
  (timeoutSec + 1) * suite.inputs.length + 5

def Failure.exitcode : Failure → String
  | .dies exitcode => toString exitcode
  | _ => "None"

/-- The metadata for a child without a report. -/
def noReport (timeoutSec : Nat) (suite : TestSuite) (started : Bool) (failure : Failure) :
    Metadata :=
  match failure with
  | .hangs =>
      ⟨some "Test suite timeout", some (-1),
        some ("Subprocess did not complete in time (" ++
          toString (globalTimeout timeoutSec suite) ++ "s)")⟩
  | failure =>
      if started then
        ⟨some "Grading child killed while executing the submission", some (-8),
          some ("SubmissionKilledChild (exitcode=" ++ failure.exitcode ++ ")")⟩
      else
        ⟨some "Grading subprocess died before grading started", some (-6),
          some ("GradingChildDied (exitcode=" ++ failure.exitcode ++ ")")⟩

def runCodeSubprocess (timeoutSec : Nat) (suite : TestSuite) (child : GradingChild) : Report :=
  match executeCodeSingleSuppressedErrors suite child with
  | .ok report => report
  | .error failure =>
      (List.replicate suite.inputs.length (-1),
        noReport timeoutSec suite child.started failure)

/-! ## The worker -/

/-- `_LCB_INFRA_ERROR_CODES`. -/
def infraErrorCodes : List Int :=
  [-5, -6]

/-- An error that the judge is to blame for. -/
def Metadata.infra (metadata : Metadata) : Bool :=
  metadata.error.isSome && metadata.errorCode.any (· ∈ infraErrorCodes)

structure Future where
  qid : String
  index : Nat
  suite : TestSuite

def Future.slot (future : Future) : String × Nat :=
  (future.qid, future.index)

/-- The samples that are submitted to the pool. -/
def submit (loader : LCBTestLoader) :
    List (String × List String) → Except WorkerError (List Future)
  | [] => .ok []
  | (qid, testCodes) :: rest =>
      (loader.loadTestCase qid).bind fun suite =>
        (submit loader rest).map fun futures =>
          (List.range testCodes.length).map (⟨qid, ·, suite⟩) ++ futures

/-- All samples of all questions, not passed yet. -/
def preallocated (codes : OrderedDict String (List String)) :
    OrderedDict String (List Bool) where
  entries := codes.entries.map fun entry => (entry.1, List.replicate entry.2.length false)
  nodupKeys := by
    rw [List.map_map]
    exact codes.nodupKeys

structure Worker where
  testLoader : LCBTestLoader
  workerTimeoutSec : Nat := 60

section

variable (worker : Worker) (child : String → Nat → GradingChild)

def Worker.report (future : Future) : Report :=
  runCodeSubprocess worker.workerTimeoutSec future.suite (child future.qid future.index)

/-- All cases of a sample pass. -/
def passes (report : Report) : Bool :=
  report.1.all (0 < ·)

/-- The results and the number of infrastructure errors. -/
structure Gathered where
  results : OrderedDict String (List Bool)
  infraErrors : Nat := 0

def Worker.gatherOne (gathered : Gathered) (future : Future) : Gathered where
  results := SlotGathering.setSlot gathered.results future.slot
    (passes (worker.report child future))
  infraErrors :=
    gathered.infraErrors + if (worker.report child future).2.infra then 1 else 0

/-- `_LCBWorker.__call__` on the question ids and code lists of a dictionary, with the
children and the order in which they end. -/
def Worker.call (codes : OrderedDict String (List String))
    (asCompleted : List Future → List Future) :
    Except WorkerError (OrderedDict String (List Bool)) :=
  (submit worker.testLoader codes.entries).bind fun futures =>
    let gathered := (asCompleted futures).foldl (worker.gatherOne child)
      { results := preallocated codes }
    if futures ≠ [] ∧ gathered.infraErrors = futures.length then
      .error (.runtimeError ("All " ++ toString futures.length ++ " grading subprocesses " ++
        "reported infrastructure errors - the LCB judge is broken; refusing to report a 0 " ++
        "score. See the logged error metadata above."))
    else .ok gathered.results

end

/-! ## Evidence -/

/-- The child reports a result, at least one case was run, and all of them passed. -/
def Passed (suite : TestSuite) (child : GradingChild) : Prop :=
  ∃ results metadata, executeCodeSingleSuppressedErrors suite child = .ok (results, metadata) ∧
    results ≠ [] ∧ ∀ result ∈ results, 0 < result

/-- The judge fails before the submission is run. -/
def GradingChild.infraError : GradingChild → Bool
  | .setup (.raises _) | .setup (.dies _) => true
  | _ => false

/-- A sample of a question. -/
def HasSample (codes : OrderedDict String (List String)) (qid : String) (index : Nat) : Prop :=
  ∃ testCodes, codes.get? qid = some testCodes ∧ index < testCodes.length

/-- There are samples, and all of them end in an infrastructure error. -/
def JudgeBroken (codes : OrderedDict String (List String))
    (child : String → Nat → GradingChild) : Prop :=
  (∃ qid index, HasSample codes qid index) ∧
    ∀ qid index, HasSample codes qid index → (child qid index).infraError = true

/-- Samples pass on evidence, and the worker raises exactly if the judge is broken. -/
structure PassesOnEvidence (suites : String → TestSuite)
    (codes : OrderedDict String (List String)) (child : String → Nat → GradingChild)
    (outcome : Except WorkerError (OrderedDict String (List Bool))) : Prop where
  lengths : ∀ results, outcome = .ok results → ∀ qid,
    (results.get? qid).map List.length = (codes.get? qid).map List.length
  evidence : ∀ results, outcome = .ok results → ∀ qid index,
    SlotGathering.slot? results (qid, index) = some true → Passed (suites qid) (child qid index)
  raises : (∃ error, outcome = .error error) ↔ JudgeBroken codes child

/-- The child reports an error although it runs no case. -/
def GradingChild.reportsError : GradingChild → Bool
  | .setup (.raises _) | .setup (.exits _) | .loading (.raises _) | .loading (.exits _) => true
  | _ => false

/-- There is a case to fail, or the child reports an error. -/
def Judged (suite : TestSuite) (child : GradingChild) : Prop :=
  suite.inputs ≠ [] ∨ child.reportsError = true

/-! ## What a child reports -/

theorem LCBTestLoader.aligned {loader : LCBTestLoader} {questionId : String} {suite : TestSuite}
    (loaded : loader.loadTestCase questionId = .ok suite) :
    suite.inputs.length = suite.outputs.length := by
  unfold loadTestCase at loaded
  split at loaded
  · split at loaded
    · cases loaded
    · obtain rfl := Except.ok.inj loaded
      rfl
  · obtain rfl := Except.ok.inj loaded
    simp

/-- No error that blames the judge. -/
def CaseEnd.blameless : CaseEnd → Bool
  | .next _ => true
  | .returns _ metadata => !metadata.infra
  | .fails (.raises _) => false
  | .fails _ => true

def blameless : Except Failure Report → Bool
  | .ok (_, metadata) => !metadata.infra
  | .error (.raises _) => false
  | .error _ => true

theorem blameless_compared (callBased : Bool) (value : Int) (mismatch : String) :
    (compared callBased value mismatch).blameless = true := by
  unfold compared
  split
  · cases callBased <;> rfl
  · rfl

theorem blameless_caseEnd (callBased : Bool) (caseRun : CaseRun) :
    (caseEnd callBased caseRun).blameless = true := by
  cases caseRun with
  | returned value mismatch => exact blameless_compared callBased value mismatch
  | exits code value mismatch =>
      cases callBased with
      | true => rfl
      | false => exact blameless_compared false value mismatch
  | _ => rfl

theorem blameless_grade (callBased : Bool) (caseRun : Nat → CaseRun) (index remaining : Nat)
    (allResults : List Int) :
    blameless (grade callBased caseRun index remaining allResults) = true := by
  induction remaining generalizing index allResults with
  | zero => rfl
  | succ remaining ih =>
      have ends := blameless_caseEnd callBased (caseRun index)
      rw [grade]
      cases ending : caseEnd callBased (caseRun index) with
      | next result => exact ih (index + 1) (allResults ++ [result])
      | returns result metadata =>
          rw [ending] at ends
          exact ends
      | fails failure =>
          rw [ending] at ends
          cases failure with
          | raises error => cases ends
          | _ => rfl

/-- The loops report some result if there is some case. -/
theorem nonempty_grade {callBased : Bool} {caseRun : Nat → CaseRun} {index remaining : Nat}
    {allResults results : List Int} {metadata : Metadata}
    (graded : grade callBased caseRun index remaining allResults = .ok (results, metadata))
    (some_ : 0 < remaining ∨ allResults ≠ []) : results ≠ [] := by
  induction remaining generalizing index allResults with
  | zero =>
      obtain ⟨rfl, -⟩ := Prod.mk.inj (Except.ok.inj graded)
      rcases some_ with impossible | nonempty
      · omega
      · exact nonempty
  | succ remaining ih =>
      rw [grade] at graded
      cases ending : caseEnd callBased (caseRun index) with
      | next result =>
          rw [ending] at graded
          exact ih graded (.inr (by simp))
      | returns result metadata' =>
          rw [ending] at graded
          obtain ⟨rfl, -⟩ := Prod.mk.inj (Except.ok.inj graded)
          simp
      | fails failure =>
          rw [ending] at graded
          cases graded

/-- The metadata blame the judge exactly if it fails before the submission is run. -/
theorem infra_runCodeSubprocess (timeoutSec : Nat) (suite : TestSuite) (child : GradingChild) :
    (runCodeSubprocess timeoutSec suite child).2.infra = child.infraError := by
  cases child with
  | setup failure => cases failure <;> rfl
  | loading failure => cases failure <;> rfl
  | running caseRun =>
      have fair := blameless_grade suite.fnName.isSome caseRun 0
        (min suite.inputs.length suite.outputs.length) []
      have runs : runTest suite (.running caseRun) = grade suite.fnName.isSome caseRun 0
        (min suite.inputs.length suite.outputs.length) [] := rfl
      rw [runCodeSubprocess, executeCodeSingleSuppressedErrors, runs]
      cases graded : grade suite.fnName.isSome caseRun 0
          (min suite.inputs.length suite.outputs.length) [] with
      | ok report =>
          rw [graded] at fair
          simpa [blameless, GradingChild.infraError] using fair
      | error failure =>
          rw [graded] at fair
          cases failure with
          | raises error => cases fair
          | _ => rfl

theorem not_passes_replicate {count : Nat} (some_ : 0 < count) (metadata : Metadata) :
    passes (List.replicate count (-1), metadata) = false := by
  cases count with
  | zero => omega
  | succ count => simp [passes, List.replicate_succ]

/-- What a child reports of a judged sample is not empty. -/
theorem nonempty_report {suite : TestSuite} {child : GradingChild} {results : List Int}
    {metadata : Metadata} (aligned : suite.inputs.length = suite.outputs.length)
    (judged : Judged suite child)
    (reported : executeCodeSingleSuppressedErrors suite child = .ok (results, metadata)) :
    results ≠ [] := by
  cases child with
  | setup failure =>
      cases failure with
      | raises error => cases reported; simp
      | exits code => cases reported; simp
      | dies exitcode => cases reported
      | hangs => cases reported
  | loading failure =>
      cases failure with
      | raises error => cases reported; simp
      | exits code => cases reported; simp
      | dies exitcode => cases reported
      | hangs => cases reported
  | running caseRun =>
      have hasCase : suite.inputs ≠ [] := by
        rcases judged with hasCase | impossible
        · exact hasCase
        · cases impossible
      have positive := List.length_pos_of_ne_nil hasCase
      have runs : runTest suite (.running caseRun) = grade suite.fnName.isSome caseRun 0
        (min suite.inputs.length suite.outputs.length) [] := rfl
      rw [executeCodeSingleSuppressedErrors, runs] at reported
      cases graded : grade suite.fnName.isSome caseRun 0
          (min suite.inputs.length suite.outputs.length) [] with
      | ok report =>
          rw [graded] at reported
          rw [Except.ok.inj reported] at graded
          exact nonempty_grade graded (.inl (by omega))
      | error failure =>
          rw [graded] at reported
          cases failure with
          | exits code => cases reported; simp
          | raises error => cases reported; simp
          | dies exitcode => cases reported
          | hangs => cases reported

/-- A judged sample passes on evidence. -/
theorem passed_of_passes {timeoutSec : Nat} {suite : TestSuite} {child : GradingChild}
    (aligned : suite.inputs.length = suite.outputs.length) (judged : Judged suite child)
    (pass : passes (runCodeSubprocess timeoutSec suite child) = true) : Passed suite child := by
  rw [runCodeSubprocess] at pass
  cases reported : executeCodeSingleSuppressedErrors suite child with
  | ok report =>
      rw [reported] at pass
      refine ⟨report.1, report.2, reported, nonempty_report aligned judged reported, ?_⟩
      simpa [passes] using pass
  | error failure =>
      rw [reported] at pass
      have hasCase : suite.inputs ≠ [] := by
        rcases judged with hasCase | reportsError
        · exact hasCase
        · cases child with
          | setup failure =>
              cases failure with
              | raises error => cases reported
              | exits code => cases reported
              | _ => cases reportsError
          | loading failure =>
              cases failure with
              | raises error => cases reported
              | exits code => cases reported
              | _ => cases reportsError
          | running caseRun => cases reportsError
      rw [not_passes_replicate (List.length_pos_of_ne_nil hasCase)] at pass
      cases pass

/-- Without a case, a child that reports no error passes its sample. -/
theorem passes_of_not_judged {timeoutSec : Nat} {suite : TestSuite} {child : GradingChild}
    (unjudged : ¬ Judged suite child) :
    passes (runCodeSubprocess timeoutSec suite child) = true ∧ ¬ Passed suite child := by
  obtain ⟨noCase, noError⟩ := not_or.mp unjudged
  have empty : suite.inputs = [] := not_not.mp noCase
  have silent : ∀ failure, executeCodeSingleSuppressedErrors suite child = .error failure →
      passes (runCodeSubprocess timeoutSec suite child) = true ∧ ¬ Passed suite child := by
    intro failure fails
    constructor
    · rw [runCodeSubprocess, fails, empty]
      rfl
    · rintro ⟨results, metadata, reported, -⟩
      rw [fails] at reported
      cases reported
  cases child with
  | setup failure =>
      cases failure with
      | raises error => exact absurd rfl noError
      | exits code => exact absurd rfl noError
      | dies exitcode => exact silent _ rfl
      | hangs => exact silent _ rfl
  | loading failure =>
      cases failure with
      | raises error => exact absurd rfl noError
      | exits code => exact absurd rfl noError
      | dies exitcode => exact silent _ rfl
      | hangs => exact silent _ rfl
  | running caseRun =>
      have reports : executeCodeSingleSuppressedErrors suite (.running caseRun) = .ok ([], {}) := by
        rw [executeCodeSingleSuppressedErrors, runTest, empty, List.length_nil, Nat.zero_min, grade]
      constructor
      · rw [runCodeSubprocess, reports]
        rfl
      · rintro ⟨results, metadata, reported, nonempty, -⟩
        rw [reports] at reported
        obtain ⟨rfl, -⟩ := Prod.mk.inj (Except.ok.inj reported)
        exact nonempty rfl

/-! ## What the worker gathers -/

section

variable {worker : Worker} {child : String → Nat → GradingChild}
  {codes : OrderedDict String (List String)} {suites : String → TestSuite}

/-- The futures of given suites. -/
def futuresOf (suites : String → TestSuite) (entries : List (String × List String)) :
    List Future :=
  entries.flatMap fun entry => (List.range entry.2.length).map (⟨entry.1, ·, suites entry.1⟩)

theorem submit_eq {loader : LCBTestLoader} {entries : List (String × List String)}
    (loads : ∀ entry ∈ entries, loader.loadTestCase entry.1 = .ok (suites entry.1)) :
    submit loader entries = .ok (futuresOf suites entries) := by
  induction entries with
  | nil => rfl
  | cons entry entries ih =>
      obtain ⟨qid, testCodes⟩ := entry
      have first := loads (qid, testCodes) List.mem_cons_self
      have rest := ih fun other member => loads other (List.mem_cons_of_mem _ member)
      rw [submit, first, rest]
      rfl

theorem mem_futuresOf {future : Future} :
    future ∈ futuresOf suites codes.entries ↔
      HasSample codes future.qid future.index ∧ future.suite = suites future.qid := by
  obtain ⟨qid, index, suite⟩ := future
  simp only [futuresOf, List.mem_flatMap, List.mem_map, List.mem_range, HasSample]
  constructor
  · rintro ⟨⟨key, testCodes⟩, member, position, within, same⟩
    obtain ⟨rfl, rfl, rfl⟩ := Future.mk.inj same
    exact ⟨⟨testCodes, OrderedDict.get?_eq_some_iff.mpr member, within⟩, rfl⟩
  · rintro ⟨⟨testCodes, found, within⟩, rfl⟩
    exact ⟨(qid, testCodes), OrderedDict.get?_eq_some_iff.mp found, index, within, rfl⟩

theorem gather_eq (futures : List Future) (gathered : Gathered) :
    futures.foldl (worker.gatherOne child) gathered =
      { results := SlotGathering.gather Future.slot
          (fun future => passes (worker.report child future)) gathered.results futures
        infraErrors := gathered.infraErrors +
          futures.countP fun future => (worker.report child future).2.infra } := by
  induction futures generalizing gathered with
  | nil => rfl
  | cons future futures ih =>
      rw [List.foldl_cons, ih, SlotGathering.gather, SlotGathering.gather, List.foldl_cons,
        List.countP_cons, Worker.gatherOne]
      congr 1
      dsimp only
      rw [Nat.add_assoc]
      congr 1
      exact Nat.add_comm _ _

theorem get?_preallocated (qid : String) :
    (preallocated codes).get? qid =
      (codes.get? qid).map fun testCodes => List.replicate testCodes.length false := by
  cases found : codes.get? qid with
  | none =>
      rw [Option.map_none, OrderedDict.get?_eq_none_iff]
      rw [OrderedDict.get?_eq_none_iff] at found
      simpa [preallocated, OrderedDict.keys] using found
  | some testCodes =>
      rw [OrderedDict.get?_eq_some_iff] at found
      rw [Option.map_some, OrderedDict.get?_eq_some_iff]
      exact List.mem_map.mpr ⟨(qid, testCodes), found, rfl⟩

theorem slot?_preallocated (qid : String) (index : Nat) :
    SlotGathering.slot? (preallocated codes) (qid, index) = some false ↔
      HasSample codes qid index := by
  rw [SlotGathering.slot?, get?_preallocated, HasSample]
  cases codes.get? qid with
  | none => simp
  | some testCodes => simp [List.getElem?_replicate]

/-- What the slot of a sample is judged by. -/
def judgement (timeoutSec : Nat) (suites : String → TestSuite)
    (child : String → Nat → GradingChild) (slot : String × Nat) : Bool :=
  passes (runCodeSubprocess timeoutSec (suites slot.1) (child slot.1 slot.2))

theorem slot?_gathered {order : List Future} (completed : order.Perm (futuresOf suites codes.entries))
    (qid : String) (index : Nat) (value : Bool) :
    SlotGathering.slot? (SlotGathering.gather Future.slot
        (fun future => passes (worker.report child future)) (preallocated codes) order)
      (qid, index) = some value ↔
      HasSample codes qid index ∧
        value = judgement worker.workerTimeoutSec suites child (qid, index) := by
  have own : ∀ future ∈ order, passes (worker.report child future) =
      judgement worker.workerTimeoutSec suites child future.slot := by
    intro future member
    have ofSuite := (mem_futuresOf.mp (completed.mem_iff.mp member)).2
    rw [judgement, Worker.report, ofSuite]
    rfl
  have written : (qid, index) ∈ order.map Future.slot ↔ HasSample codes qid index := by
    rw [List.mem_map]
    constructor
    · rintro ⟨future, member, same⟩
      obtain ⟨rfl, rfl⟩ := Prod.mk.inj same
      exact (mem_futuresOf.mp (completed.mem_iff.mp member)).1
    · intro isSample
      refine ⟨⟨qid, index, suites qid⟩, completed.mem_iff.mpr ?_, rfl⟩
      exact mem_futuresOf.mpr ⟨isSample, rfl⟩
  rw [SlotGathering.slot?_gather (judgement worker.workerTimeoutSec suites child) own]
  by_cases isSample : HasSample codes qid index
  · rw [(slot?_preallocated qid index).mpr isSample, Option.map_some, if_pos (written.mpr isSample),
      Option.some_inj]
    exact ⟨fun same => ⟨isSample, same.symm⟩, fun both => both.2.symm⟩
  · apply iff_of_false
    · cases found : SlotGathering.slot? (preallocated codes) (qid, index) with
      | none => simp
      | some old =>
          rw [SlotGathering.slot?, get?_preallocated] at found
          cases given : codes.get? qid with
          | none => simp [given] at found
          | some testCodes =>
              have within : index < testCodes.length := by
                by_contra beyond
                simp [given, beyond] at found
              exact absurd ⟨testCodes, given, within⟩ isSample
    · exact fun both => isSample both.1

/-- The worker raises if the judge is broken, and returns its judgements otherwise. -/
theorem call_cases {asCompleted : List Future → List Future}
    (loads : ∀ qid ∈ codes.keys, worker.testLoader.loadTestCase qid = .ok (suites qid))
    (completes : ∀ futures, (asCompleted futures).Perm futures) :
    (JudgeBroken codes child ∧ ∃ error, worker.call child codes asCompleted = .error error) ∨
    (¬ JudgeBroken codes child ∧ ∃ results, worker.call child codes asCompleted = .ok results ∧
      (∀ qid, (results.get? qid).map List.length = (codes.get? qid).map List.length) ∧
      ∀ qid index value, SlotGathering.slot? results (qid, index) = some value ↔
        HasSample codes qid index ∧
          value = judgement worker.workerTimeoutSec suites child (qid, index)) := by
  have submitted : submit worker.testLoader codes.entries =
      .ok (futuresOf suites codes.entries) :=
    submit_eq fun entry member => loads entry.1 (List.mem_map_of_mem member)
  have completed := completes (futuresOf suites codes.entries)
  have blames : ∀ future ∈ futuresOf suites codes.entries,
      (worker.report child future).2.infra = (child future.qid future.index).infraError :=
    fun future _ => infra_runCodeSubprocess _ _ _
  have broken : (futuresOf suites codes.entries ≠ [] ∧
      (asCompleted (futuresOf suites codes.entries)).countP
          (fun future => (worker.report child future).2.infra) =
        (futuresOf suites codes.entries).length) ↔ JudgeBroken codes child := by
    rw [completed.countP_eq, List.countP_eq_length]
    constructor
    · rintro ⟨nonempty, all⟩
      refine ⟨?_, ?_⟩
      · obtain ⟨future, member⟩ := List.exists_mem_of_ne_nil _ nonempty
        exact ⟨future.qid, future.index, (mem_futuresOf.mp member).1⟩
      · intro qid index isSample
        have member : (⟨qid, index, suites qid⟩ : Future) ∈ futuresOf suites codes.entries :=
          mem_futuresOf.mpr ⟨isSample, rfl⟩
        rw [← blames _ member]
        exact all _ member
    · rintro ⟨⟨qid, index, isSample⟩, all⟩
      refine ⟨?_, ?_⟩
      · exact List.ne_nil_of_mem (mem_futuresOf.mpr
          (⟨isSample, rfl⟩ : HasSample codes (Future.mk qid index (suites qid)).qid _ ∧ _))
      · intro future member
        rw [blames future member]
        exact all _ _ (mem_futuresOf.mp member).1
  by_cases isBroken : JudgeBroken codes child
  · left
    refine ⟨isBroken, ?_⟩
    rw [Worker.call, submitted]
    simp only [Except.bind, gather_eq, Nat.zero_add]
    rw [if_pos (broken.mpr isBroken)]
    exact ⟨_, rfl⟩
  · right
    refine ⟨isBroken, SlotGathering.gather Future.slot
      (fun future => passes (worker.report child future)) (preallocated codes)
      (asCompleted (futuresOf suites codes.entries)), ?_, ?_, slot?_gathered completed⟩
    · rw [Worker.call, submitted]
      simp only [Except.bind, gather_eq, Nat.zero_add]
      rw [if_neg (fun both => isBroken (broken.mp both))]
    · intro qid
      rw [SlotGathering.length_gather, get?_preallocated, Option.map_map]
      congr 1
      funext testCodes
      exact List.length_replicate

end

/-! A question with one test case, and one without. -/

def testFiles : String → Option TestCaseData
  | "echo" => some ⟨[⟨"1", "1"⟩], [], none⟩
  | "empty" => some ⟨[], [], none⟩
  | _ => none

def testWorker : Worker where
  testLoader := { testCasesDir := "test_cases", file := testFiles }

/-- The first sample passes its case, and the second never ends. -/
def twoChildren : String → Nat → GradingChild
  | _, 0 => .running fun _ => .returned 1
  | _, _ => .running fun _ => .hangs

end LcbServe

end InferenceEndpoint
