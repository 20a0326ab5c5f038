import InferenceEndpoint.DatasetManager.FileLoading
import InferenceEndpoint.Library.ListHeap
import Mathlib.Data.List.Induction
import Mathlib.Data.List.Forall2

/-!
# Transforms that are used again

A dataset keeps its transforms, so that they may be applied to one frame after the other.
A column filter holds the lists of columns that it was made with; the frame goes through
the filter with these very lists.
-/

namespace InferenceEndpoint

/-- A transform that is kept between applications, with references to the lists of a
filter. -/
inductive TransformObject
  | row (processor : RowProcessor)
  | addStaticColumns (data : List (String × Json)) (overwrite : Bool)
  | columnFilter (requiredColumns : ListHeap.Ref) (optionalColumns : Option ListHeap.Ref)
  | columnRemap (remap : List (RemapSource × String)) (strict : Bool)

/-- A transform in an application: one that is kept, or one that was made for it. -/
inductive AppliedTransform
  | kept (object : TransformObject)
  | made (transform : Transform)

/-- An applied transform after fusion. -/
inductive FusedObject
  | plain (applied : AppliedTransform)
  | fused (rowProcessors : List RowProcessor)

/-- A use of kept transforms, followed by transforms of its own. -/
structure Application where
  frame : DataFrame
  made : List Transform := []
  fuse : Bool := true

namespace TransformObject

/-- The lists of a transform. -/
def refs : TransformObject → List ListHeap.Ref
  | .columnFilter requiredColumns optionalColumns => requiredColumns :: optionalColumns.toList
  | _ => []

def isColumnFilter : TransformObject → Bool
  | .columnFilter _ _ => true
  | _ => false

end TransformObject

def AppliedTransform.refs : AppliedTransform → List ListHeap.Ref
  | .kept object => object.refs
  | .made _ => []

namespace FusedObject

def refs : FusedObject → List ListHeap.Ref
  | .plain applied => applied.refs
  | .fused _ => []

/-- The list that a call extends. -/
def extended? : FusedObject → Option ListHeap.Ref
  | .plain (.kept (.columnFilter requiredColumns _)) => some requiredColumns
  | _ => none

end FusedObject

/-- Transforms with the lists that they hold. -/
structure Pipeline where
  heap : ListHeap String
  objects : List TransformObject
  live : ∀ object ∈ objects, ∀ ref ∈ object.refs, heap.Live ref

namespace TransformReuse

open Transforms

variable (tools : TextTools)

/-- `set(df.columns) & set(self.optional_columns)`. -/
def foundColumns (heap : ListHeap String) (optionalColumns : Option ListHeap.Ref)
    (frame : DataFrame) : List String :=
  match optionalColumns with
  | some optional => (heap.read optional).dedup.filter (· ∈ frame.columns)
  | none => []

/-- `__call__` of a kept transform, with the lists that it leaves.  `columns_to_keep` is the
filter's list of required columns itself, and `+=` extends it in place. -/
def callObject (heap : ListHeap String) (object : TransformObject) (frame : DataFrame) :
    Option DataFrame × ListHeap String :=
  match object with
  | .row processor => (callRow tools processor frame, heap)
  | .addStaticColumns data overwrite => (data.foldlM (addStaticColumn overwrite) frame, heap)
  | .columnFilter requiredColumns optionalColumns =>
      let columnsToKeep :=
        heap.extend requiredColumns (foundColumns heap optionalColumns frame)
      (selectColumns frame (columnsToKeep.read requiredColumns), columnsToKeep)
  | .columnRemap remap strict => (remapColumns remap strict frame, heap)

def callApplied (heap : ListHeap String) (applied : FusedObject) (frame : DataFrame) :
    Option DataFrame × ListHeap String :=
  match applied with
  | .plain (.kept object) => callObject tools heap object frame
  | .plain (.made transform) => (call tools transform frame, heap)
  | .fused rowProcessors => (applyRows (processRowFused tools rowProcessors) frame, heap)

/-- The loop over the transforms; an exception leaves the lists as they are then. -/
def callAll : List FusedObject → ListHeap String → DataFrame →
    Option DataFrame × ListHeap String
  | [], heap, frame => (some frame, heap)
  | applied :: rest, heap, frame =>
      match callApplied tools heap applied frame with
      | (some next, heap) => callAll rest heap next
      | (none, heap) => (none, heap)

def rowProcessor? : AppliedTransform → Option RowProcessor
  | .kept (.row processor) | .made (.row processor) => some processor
  | _ => none

def createFusedTransform : List RowProcessor → List FusedObject
  | [] => []
  | [processor] => [.plain (.kept (.row processor))]
  | rowProcessors => [.fused rowProcessors]

def fuseRowProcessors (collected : List RowProcessor) : List AppliedTransform →
    List FusedObject
  | [] => createFusedTransform collected
  | applied :: rest =>
      match rowProcessor? applied with
      | some processor => fuseRowProcessors (collected ++ [processor]) rest
      | none => createFusedTransform collected ++ .plain applied :: fuseRowProcessors [] rest

/-- The transforms of an application as they are called. -/
def calls (objects : List TransformObject) (application : Application) : List FusedObject :=
  let transforms := objects.map .kept ++ application.made.map .made
  if application.fuse then fuseRowProcessors [] transforms else transforms.map .plain

/-- `apply_transforms`. -/
def applyTransforms (heap : ListHeap String) (objects : List TransformObject)
    (application : Application) : Option DataFrame × ListHeap String :=
  callAll tools (calls objects application) heap application.frame

/-- The lists after a sequence of applications. -/
def listsAfter (pipeline : Pipeline) (applications : List Application) : ListHeap String :=
  applications.foldl (fun heap application =>
    (applyTransforms tools heap pipeline.objects application).2) pipeline.heap

/-- An application by `Dataset.load`. -/
def loadApplication (objects : List TransformObject) (adapterTransforms : List Transform)
    (frame : DataFrame) : Application where
  frame := frame
  made := adapterTransforms.filter fun transform =>
    !(objects.any TransformObject.isColumnFilter && Dataset.isColumnFilter transform)

/-- `Dataset.load` with kept transforms. -/
def load (heap : ListHeap String) (objects : List TransformObject)
    (adapterTransforms : List Transform) (frame : DataFrame) :
    Option (List Row) × ListHeap String :=
  let (loaded, heap) :=
    applyTransforms tools heap objects (loadApplication objects adapterTransforms frame)
  (loaded.bind Dataset.toRecords, heap)

/-! ## Using transforms again -/

/-- In a sequence of applications, each gives what the transforms give when they are new,
and leaves them as they are. -/
def Reusable (pipeline : Pipeline) (applications : List Application) : Prop :=
  ∀ before application rest, applications = before ++ application :: rest →
    (applyTransforms tools (listsAfter tools pipeline before) pipeline.objects application).1 =
        (applyTransforms tools pipeline.heap pipeline.objects application).1 ∧
      ∀ object ∈ pipeline.objects, ∀ ref ∈ object.refs,
        (applyTransforms tools (listsAfter tools pipeline before) pipeline.objects
            application).2.read ref =
          (listsAfter tools pipeline before).read ref

/-- The optional columns that a transform finds in its frame. -/
def found (heap : ListHeap String) (applied : FusedObject) (frame : DataFrame) : List String :=
  match applied with
  | .plain (.kept (.columnFilter _ optionalColumns)) => foundColumns heap optionalColumns frame
  | _ => []

/-- No kept filter that is reached finds one of its optional columns in its frame. -/
def FindsNothing (heap : ListHeap String) : List FusedObject → DataFrame → Prop
  | [], _ => True
  | applied :: rest, frame =>
      found heap applied frame = [] ∧
        ∀ next, (callApplied tools heap applied frame).1 = some next →
          FindsNothing heap rest next

variable {tools}

variable (tools) in
theorem heap_of_found_nil {heap : ListHeap String} {applied : FusedObject} {frame : DataFrame}
    (nothing : found heap applied frame = []) :
    (callApplied tools heap applied frame).2 = heap := by
  cases applied with
  | fused rowProcessors => rfl
  | plain applied =>
      cases applied with
      | made transform => rfl
      | kept object =>
          cases object with
          | row processor => rfl
          | addStaticColumns data overwrite => rfl
          | columnRemap remap strict => rfl
          | columnFilter requiredColumns optionalColumns =>
              have none_ : foundColumns heap optionalColumns frame = [] := nothing
              simp [callApplied, callObject, none_]

variable (tools) in
theorem grows_callApplied (heap : ListHeap String) (applied : FusedObject) (frame : DataFrame) :
    heap.Grows (callApplied tools heap applied frame).2 := by
  cases applied with
  | fused rowProcessors => exact .refl heap
  | plain applied =>
      cases applied with
      | made transform => exact .refl heap
      | kept object =>
          cases object with
          | row processor => exact .refl heap
          | addStaticColumns data overwrite => exact .refl heap
          | columnRemap remap strict => exact .refl heap
          | columnFilter requiredColumns optionalColumns => exact heap.grows_extend _ _

theorem callAll_cons_some {applied : FusedObject} {rest : List FusedObject}
    {heap : ListHeap String} {frame next : DataFrame}
    (called : (callApplied tools heap applied frame).1 = some next) :
    callAll tools (applied :: rest) heap frame =
      callAll tools rest (callApplied tools heap applied frame).2 next := by
  rw [callAll]
  split
  · next middle after step =>
      rw [step] at called ⊢
      obtain rfl := Option.some_inj.mp called
      rfl
  · next after step =>
      rw [step] at called
      cases called

theorem callAll_cons_none {applied : FusedObject} {rest : List FusedObject}
    {heap : ListHeap String} {frame : DataFrame}
    (raised : (callApplied tools heap applied frame).1 = none) :
    callAll tools (applied :: rest) heap frame =
      (none, (callApplied tools heap applied frame).2) := by
  rw [callAll]
  split
  · next middle after step =>
      rw [step] at raised
      cases raised
  · next after step => rw [step]

theorem grows_callAll (fusedObjects : List FusedObject) (heap : ListHeap String)
    (frame : DataFrame) : heap.Grows (callAll tools fusedObjects heap frame).2 := by
  induction fusedObjects generalizing heap frame with
  | nil => exact .refl heap
  | cons applied rest ih =>
      have first := grows_callApplied tools heap applied frame
      cases called : (callApplied tools heap applied frame).1 with
      | none =>
          rw [callAll_cons_none called]
          exact first
      | some next =>
          rw [callAll_cons_some called]
          exact first.trans (ih _ next)

/-- Lists are left alone where nothing is found. -/
theorem FindsNothing.heap_eq {heap : ListHeap String} {fusedObjects : List FusedObject}
    {frame : DataFrame} (nothing : FindsNothing tools heap fusedObjects frame) :
    (callAll tools fusedObjects heap frame).2 = heap := by
  induction fusedObjects generalizing frame with
  | nil => rfl
  | cons applied rest ih =>
      obtain ⟨foundNothing, later⟩ := nothing
      have same := heap_of_found_nil tools foundNothing
      cases called : (callApplied tools heap applied frame).1 with
      | none => rw [callAll_cons_none called, same]
      | some next => rw [callAll_cons_some called, same, ih (later next called)]

/-- Where the lists are as before, nothing was found: what a call appends to a list stays
there to the end. -/
theorem findsNothing_of_same {heap : ListHeap String} {fusedObjects : List FusedObject}
    {frame : DataFrame}
    (live : ∀ applied ∈ fusedObjects, ∀ ref, applied.extended? = some ref → heap.Live ref)
    (same : ∀ applied ∈ fusedObjects, ∀ ref, applied.extended? = some ref →
      (callAll tools fusedObjects heap frame).2.read ref = heap.read ref) :
    FindsNothing tools heap fusedObjects frame := by
  induction fusedObjects generalizing frame with
  | nil => trivial
  | cons applied rest ih =>
      have grows : (callApplied tools heap applied frame).2.Grows
          (callAll tools (applied :: rest) heap frame).2 := by
        cases called : (callApplied tools heap applied frame).1 with
        | none =>
            rw [callAll_cons_none called]
            exact .refl _
        | some next =>
            rw [callAll_cons_some called]
            exact grows_callAll rest _ next
      have foundNothing : found heap applied frame = [] := by
        cases applied with
        | fused rowProcessors => rfl
        | plain applied =>
            cases applied with
            | made transform => rfl
            | kept object =>
                cases object with
                | row processor => rfl
                | addStaticColumns data overwrite => rfl
                | columnRemap remap strict => rfl
                | columnFilter requiredColumns optionalColumns =>
                    exact grows.items_eq_nil (live _ List.mem_cons_self _ rfl)
                      (same _ List.mem_cons_self _ rfl)
      refine ⟨foundNothing, fun next called => ?_⟩
      have sameHeap := heap_of_found_nil tools foundNothing
      rw [callAll_cons_some called, sameHeap] at same
      exact ih (fun other member => live other (List.mem_cons_of_mem _ member))
        fun other member => same other (List.mem_cons_of_mem _ member)

/-! ## Whole sequences -/

theorem created_none {rowProcessors : List RowProcessor} {fusedObject : FusedObject}
    (member : fusedObject ∈ createFusedTransform rowProcessors) :
    fusedObject.extended? = none ∧ fusedObject.refs = [] := by
  match rowProcessors with
  | [] => cases member
  | [processor] =>
      obtain rfl := List.mem_singleton.mp member
      exact ⟨rfl, rfl⟩
  | first :: second :: others =>
      obtain rfl : fusedObject = .fused (first :: second :: others) :=
        List.mem_singleton.mp member
      exact ⟨rfl, rfl⟩

/-- What is called after fusion is a transform of the list, or a pass without lists. -/
theorem mem_fuse {collected : List RowProcessor} {transforms : List AppliedTransform}
    {fusedObject : FusedObject} (member : fusedObject ∈ fuseRowProcessors collected transforms) :
    (∃ applied ∈ transforms, fusedObject = .plain applied) ∨
      fusedObject.extended? = none ∧ fusedObject.refs = [] := by
  induction transforms generalizing collected with
  | nil => exact .inr (created_none member)
  | cons applied rest ih =>
      have later : ∀ collected, fusedObject ∈ fuseRowProcessors collected rest →
          (∃ other ∈ applied :: rest, fusedObject = .plain other) ∨
            fusedObject.extended? = none ∧ fusedObject.refs = [] := by
        intro collected there
        obtain ⟨other, isOther, isPlain⟩ | noLists := ih there
        · exact .inl ⟨other, List.mem_cons_of_mem _ isOther, isPlain⟩
        · exact .inr noLists
      rw [fuseRowProcessors] at member
      split at member
      · exact later _ member
      · obtain created | plain := List.mem_append.mp member
        · exact .inr (created_none created)
        · obtain same | there := List.mem_cons.mp plain
          · exact .inl ⟨applied, List.mem_cons_self, same⟩
          · exact later _ there

/-- The lists that an application may extend are those of the kept filters. -/
theorem extended_calls {objects : List TransformObject} {application : Application}
    {fusedObject : FusedObject} {ref : ListHeap.Ref}
    (member : fusedObject ∈ calls objects application)
    (extends_ : fusedObject.extended? = some ref) : ∃ object ∈ objects, ref ∈ object.refs := by
  obtain ⟨applied, isApplied, rfl⟩ : ∃ applied ∈ objects.map AppliedTransform.kept ++
      application.made.map AppliedTransform.made, fusedObject = .plain applied := by
    rw [calls] at member
    split at member
    · obtain plain | ⟨noList, -⟩ := mem_fuse member
      · exact plain
      · rw [noList] at extends_
        cases extends_
    · obtain ⟨applied, isApplied, same⟩ := List.mem_map.mp member
      exact ⟨applied, isApplied, same.symm⟩
  obtain isKept | isMade := List.mem_append.mp isApplied
  · obtain ⟨object, isObject, rfl⟩ := List.mem_map.mp isKept
    refine ⟨object, isObject, ?_⟩
    cases object with
    | columnFilter requiredColumns optionalColumns =>
        obtain rfl := Option.some_inj.mp extends_
        exact List.mem_cons_self
    | row processor => cases extends_
    | addStaticColumns data overwrite => cases extends_
    | columnRemap remap strict => cases extends_
  · obtain ⟨transform, -, rfl⟩ := List.mem_map.mp isMade
    cases extends_

theorem findsNothing_of_unchanged {pipeline : Pipeline} {application : Application}
    (same : ∀ object ∈ pipeline.objects, ∀ ref ∈ object.refs,
      (applyTransforms tools pipeline.heap pipeline.objects application).2.read ref =
        pipeline.heap.read ref) :
    FindsNothing tools pipeline.heap (calls pipeline.objects application)
      application.frame := by
  apply findsNothing_of_same
  · intro fusedObject member ref extends_
    obtain ⟨object, isObject, isRef⟩ := extended_calls member extends_
    exact pipeline.live object isObject ref isRef
  · intro fusedObject member ref extends_
    obtain ⟨object, isObject, isRef⟩ := extended_calls member extends_
    exact same object isObject ref isRef

/-- While nothing is found, the lists stay those of the new transforms. -/
theorem listsAfter_eq {pipeline : Pipeline} {applications : List Application}
    (nothing : ∀ application ∈ applications, FindsNothing tools pipeline.heap
      (calls pipeline.objects application) application.frame) :
    listsAfter tools pipeline applications = pipeline.heap := by
  induction applications with
  | nil => rfl
  | cons application rest ih =>
      have first : (applyTransforms tools pipeline.heap pipeline.objects application).2 =
          pipeline.heap := (nothing application List.mem_cons_self).heap_eq
      rw [listsAfter, List.foldl_cons, first]
      exact ih fun other member => nothing other (List.mem_cons_of_mem _ member)

/-- Transforms may be used again as long as no kept filter meets one of its optional
columns. -/
theorem reusable_iff (tools : TextTools) (pipeline : Pipeline)
    (applications : List Application) :
    Reusable tools pipeline applications ↔
      ∀ application ∈ applications, FindsNothing tools pipeline.heap
        (calls pipeline.objects application) application.frame := by
  constructor
  · intro reusable
    have upTo : ∀ before rest, applications = before ++ rest →
        ∀ application ∈ before, FindsNothing tools pipeline.heap
          (calls pipeline.objects application) application.frame := by
      intro before
      induction before using List.reverseRecOn with
      | nil => exact fun _ _ _ member => absurd member List.not_mem_nil
      | append_singleton before last ih =>
          intro rest split application member
          rw [List.append_assoc, List.singleton_append] at split
          have earlier := ih (last :: rest) split
          obtain early | isLast := List.mem_append.mp member
          · exact earlier application early
          · obtain rfl := List.mem_singleton.mp isLast
            have unchanged := (reusable before application rest split).2
            rw [listsAfter_eq earlier] at unchanged
            exact findsNothing_of_unchanged unchanged
    exact upTo applications [] (List.append_nil _).symm
  · intro nothing before application rest split
    have earlier : listsAfter tools pipeline before = pipeline.heap :=
      listsAfter_eq fun other member => nothing other (by rw [split]; simp [member])
    have here := nothing application (by rw [split]; simp)
    rw [earlier]
    refine ⟨rfl, fun object _ ref _ => ?_⟩
    rw [applyTransforms, here.heap_eq]

/-! ## New transforms -/

/-- The object holds the configuration of the transform. -/
def Holds (heap : ListHeap String) : TransformObject → Transform → Prop
  | .row processor, .row other => processor = other
  | .addStaticColumns data overwrite, .addStaticColumns others otherwise =>
      data = others ∧ overwrite = otherwise
  | .columnFilter requiredColumns optionalColumns, .columnFilter filter =>
      heap.read requiredColumns = filter.requiredColumns ∧
        optionalColumns.map heap.read = filter.optionalColumns
  | .columnRemap remap strict, .columnRemap others otherwise =>
      remap = others ∧ strict = otherwise
  | _, _ => False

def HoldsApplied (heap : ListHeap String) : AppliedTransform → Transform → Prop
  | .kept object, transform => Holds heap object transform
  | .made transform, other => transform = other

def HoldsFused (heap : ListHeap String) : FusedObject → FusedTransform → Prop
  | .plain applied, .plain transform => HoldsApplied heap applied transform
  | .fused rowProcessors, .fused others => rowProcessors = others
  | _, _ => False

/-- What an earlier call extends is no list of a later one. -/
def Apart (earlier later : FusedObject) : Prop :=
  ∀ ref, earlier.extended? = some ref → ref ∉ later.refs

theorem Holds.extend {heap : ListHeap String} {object : TransformObject} {transform : Transform}
    (holds : Holds heap object transform) {ref : ListHeap.Ref} (apart : ref ∉ object.refs)
    (items : List String) : Holds (heap.extend ref items) object transform := by
  cases object with
  | row processor => cases transform <;> exact holds
  | addStaticColumns data overwrite => cases transform <;> exact holds
  | columnRemap remap strict => cases transform <;> exact holds
  | columnFilter requiredColumns optionalColumns =>
      cases transform with
      | columnFilter filter =>
          obtain ⟨required, optional⟩ := holds
          simp only [TransformObject.refs, List.mem_cons, not_or] at apart
          refine ⟨?_, ?_⟩
          · rw [ListHeap.read_extend_of_ne (Ne.symm apart.1), required]
          · rw [← optional]
            cases optionalColumns with
            | none => rfl
            | some columns =>
                have different : columns ≠ ref := by
                  rintro rfl
                  exact apart.2 (by simp)
                simp [ListHeap.read_extend_of_ne different]
      | _ => exact holds

theorem HoldsFused.extend {heap : ListHeap String} {fusedObject : FusedObject}
    {transform : FusedTransform} (holds : HoldsFused heap fusedObject transform)
    {ref : ListHeap.Ref} (apart : ref ∉ fusedObject.refs) (items : List String) :
    HoldsFused (heap.extend ref items) fusedObject transform := by
  cases fusedObject with
  | fused rowProcessors => cases transform <;> exact holds
  | plain applied =>
      cases transform with
      | fused rowProcessors => exact holds
      | plain transform =>
          cases applied with
          | made other => exact holds
          | kept object => exact Holds.extend holds apart items

variable (tools) in
/-- One call does what the transform does, and extends at most one list. -/
theorem callApplied_eq {heap : ListHeap String} {fusedObject : FusedObject}
    {transform : FusedTransform} (holds : HoldsFused heap fusedObject transform)
    (live : ∀ ref, fusedObject.extended? = some ref → heap.Live ref) (frame : DataFrame) :
    (callApplied tools heap fusedObject frame).1 = callFused tools transform frame ∧
      ((callApplied tools heap fusedObject frame).2 = heap ∨
        ∃ ref items, fusedObject.extended? = some ref ∧
          (callApplied tools heap fusedObject frame).2 = heap.extend ref items) := by
  cases fusedObject with
  | fused rowProcessors =>
      cases transform with
      | plain transform => exact holds.elim
      | fused others =>
          obtain rfl : rowProcessors = others := holds
          exact ⟨rfl, .inl rfl⟩
  | plain applied =>
      cases transform with
      | fused others => exact holds.elim
      | plain transform =>
          cases applied with
          | made other =>
              obtain rfl : other = transform := holds
              exact ⟨rfl, .inl rfl⟩
          | kept object =>
              cases object with
              | row processor =>
                  cases transform with
                  | row other =>
                      obtain rfl : processor = other := holds
                      exact ⟨rfl, .inl rfl⟩
                  | _ => exact holds.elim
              | addStaticColumns data overwrite =>
                  cases transform with
                  | addStaticColumns others otherwise =>
                      obtain ⟨rfl, rfl⟩ : data = others ∧ overwrite = otherwise := holds
                      exact ⟨rfl, .inl rfl⟩
                  | _ => exact holds.elim
              | columnRemap remap strict =>
                  cases transform with
                  | columnRemap others otherwise =>
                      obtain ⟨rfl, rfl⟩ : remap = others ∧ strict = otherwise := holds
                      exact ⟨rfl, .inl rfl⟩
                  | _ => exact holds.elim
              | columnFilter requiredColumns optionalColumns =>
                  cases transform with
                  | columnFilter filter =>
                      obtain ⟨required, optional⟩ : heap.read requiredColumns =
                        filter.requiredColumns ∧
                          optionalColumns.map heap.read = filter.optionalColumns := holds
                      refine ⟨?_, .inr ⟨requiredColumns, _, rfl, rfl⟩⟩
                      simp only [callApplied, callObject, callFused, call]
                      rw [(live requiredColumns rfl).read_extend_self]
                      obtain ⟨requiredNames, optionalNames, exclusive⟩ := filter
                      obtain rfl : heap.read requiredColumns = requiredNames := required
                      obtain rfl : optionalColumns.map heap.read = optionalNames := optional
                      cases optionalColumns <;> rfl
                  | _ => exact holds.elim

variable (tools) in
/-- Calls whose lists are apart do what the transforms do. -/
theorem callAll_eq {heap : ListHeap String} {fusedObjects : List FusedObject}
    {transforms : List FusedTransform}
    (holds : List.Forall₂ (HoldsFused heap) fusedObjects transforms)
    (apart : fusedObjects.Pairwise Apart)
    (live : ∀ fusedObject ∈ fusedObjects, ∀ ref, fusedObject.extended? = some ref →
      heap.Live ref) (frame : DataFrame) :
    (callAll tools fusedObjects heap frame).1 =
      transforms.foldlM (fun frame transform => callFused tools transform frame) frame := by
  induction fusedObjects generalizing heap transforms frame with
  | nil =>
      cases holds
      rfl
  | cons fusedObject rest ih =>
      obtain ⟨apartFirst, apartRest⟩ := List.pairwise_cons.mp apart
      cases holds with
      | @cons _ transform _ others first later =>
          obtain ⟨result, lists⟩ :=
            callApplied_eq tools first (live fusedObject List.mem_cons_self) frame
          rw [List.foldlM_cons, ← result]
          cases called : (callApplied tools heap fusedObject frame).1 with
          | none =>
              rw [callAll_cons_none called]
              rfl
          | some next =>
              rw [callAll_cons_some called]
              have liveRest : ∀ other ∈ rest, ∀ ref, other.extended? = some ref →
                  heap.Live ref :=
                fun other member => live other (List.mem_cons_of_mem _ member)
              obtain same | ⟨ref, items, extends_, after⟩ := lists
              · rw [same]
                exact ih later apartRest liveRest next
              · rw [after]
                refine ih ?_ apartRest (fun other member ref' extends' =>
                  (liveRest other member ref' extends').extend ref items) next
                -- The extended list is none of those that the later calls read.
                rw [List.forall₂_iff_get] at later ⊢
                refine ⟨later.1, fun index inRest inOthers => ?_⟩
                exact (later.2 index inRest inOthers).extend
                  (apartFirst _ (List.get_mem _ _) ref extends_) items

theorem holds_created (heap : ListHeap String) (rowProcessors : List RowProcessor) :
    List.Forall₂ (HoldsFused heap) (createFusedTransform rowProcessors)
      (Transforms.createFusedTransform rowProcessors) := by
  match rowProcessors with
  | [] => exact .nil
  | [processor] => exact .cons rfl .nil
  | first :: second :: others => exact .cons rfl .nil

theorem rowProcessor_of_holds {heap : ListHeap String} {applied : AppliedTransform}
    {transform : Transform} (holds : HoldsApplied heap applied transform) :
    match rowProcessor? applied with
    | some processor => transform = .row processor
    | none => ∀ processor, transform ≠ .row processor := by
  cases applied with
  | made other =>
      obtain rfl : other = transform := holds
      cases other <;> simp [rowProcessor?]
  | kept object =>
      cases object <;> cases transform <;> simp [rowProcessor?] <;>
        simp [HoldsApplied, Holds] at holds
      exact holds.symm

/-- Kept transforms are fused as the transforms whose configuration they hold. -/
theorem holds_fuse {heap : ListHeap String} {applied : List AppliedTransform}
    {transforms : List Transform} (holds : List.Forall₂ (HoldsApplied heap) applied transforms)
    (collected : List RowProcessor) :
    List.Forall₂ (HoldsFused heap) (fuseRowProcessors collected applied)
      (Transforms.fuseRowProcessors collected transforms) := by
  induction holds generalizing collected with
  | nil => exact holds_created heap collected
  | @cons first transform rest others head tail ih =>
      have isRow := rowProcessor_of_holds head
      rw [fuseRowProcessors]
      split at isRow
      · next processor found =>
          rw [isRow]
          exact ih (collected ++ [processor])
      · have flushed : Transforms.fuseRowProcessors collected (transform :: others) =
            Transforms.createFusedTransform collected ++ .plain transform ::
              Transforms.fuseRowProcessors [] others := by
          cases transform with
          | row processor => exact absurd rfl (isRow processor)
          | _ => rfl
        rw [flushed]
        exact List.rel_append (holds_created heap collected) (.cons head (ih []))

theorem apart_fuse {applied : List AppliedTransform}
    (apart : applied.Pairwise fun earlier later => Apart (.plain earlier) (.plain later))
    (collected : List RowProcessor) : (fuseRowProcessors collected applied).Pairwise Apart := by
  have alone : ∀ rowProcessors, (createFusedTransform rowProcessors).Pairwise Apart := by
    intro rowProcessors
    match rowProcessors with
    | [] => exact .nil
    | [processor] => exact List.pairwise_singleton _ _
    | first :: second :: others => exact List.pairwise_singleton _ _
  induction applied generalizing collected with
  | nil => exact alone collected
  | cons first rest ih =>
      obtain ⟨apartFirst, apartRest⟩ := List.pairwise_cons.mp apart
      rw [fuseRowProcessors]
      split
      · exact ih apartRest _
      · refine List.pairwise_append.mpr ⟨alone collected, ?_, ?_⟩
        · refine List.pairwise_cons.mpr ⟨?_, ih apartRest []⟩
          intro later member ref extends_ isRef
          obtain ⟨other, isOther, rfl⟩ | ⟨-, noLists⟩ := mem_fuse member
          · exact apartFirst other isOther ref extends_ isRef
          · rw [noLists] at isRef
            cases isRef
        · intro earlier member later _ ref extends_
          rw [(created_none member).1] at extends_
          cases extends_

/-- A filter for prompts that keeps system texts, too. -/
def promptFilter : Pipeline where
  heap := ⟨[["prompt"], ["system"]]⟩
  objects := [.columnFilter 0 (some 1)]
  live := by
    intro object member ref isRef
    rw [List.mem_singleton.mp member] at isRef
    simp only [TransformObject.refs, Option.toList_some, List.mem_cons, List.not_mem_nil,
      or_false] at isRef
    obtain rfl | rfl := isRef
    · exact Nat.zero_lt_two
    · exact Nat.one_lt_two

/-- The filter as a transform. -/
def promptColumns : ColumnFilter where
  requiredColumns := ["prompt"]
  optionalColumns := some ["system"]
  exclusive := by decide

/-- After a frame with system texts, the filter asks every frame for them. -/
theorem promptFilter_not_reusable :
    ¬ Reusable offline promptFilter
      [{ frame := ⟨["prompt", "system"], [[("prompt", .string "hi"), ("system", .string "go")]]⟩ },
        { frame := ⟨["prompt"], [[("prompt", .string "hi")]]⟩ }] := by
  intro reusable
  have same := (reusable [_] _ [] rfl).1
  cases same

end TransformReuse

end InferenceEndpoint
