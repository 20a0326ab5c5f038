import InferenceEndpoint.Library.Grouping
import Mathlib.Data.List.Dedup

/-!
# CPU affinity plans

The physical cores of the machine are shared out between the load generator, which gets
cores of one NUMA node, and the workers, which get one core each.  The files under `/sys`
are given by what they say about each CPU.
-/

namespace InferenceEndpoint

namespace CpuAffinity

/-- What the system says about its CPUs; `none` is a file that cannot be read. -/
structure Topology where
  /-- The online CPUs that the process may use, in the order of the set. -/
  onlineCpus : List Nat
  distinct : onlineCpus.Nodup
  coreId : Nat → Option Int
  numaNode : Nat → Option Nat
  highestPerf : Nat → Option Int
  cpuCapacity : Nat → Option Int
  maxFreq : Nat → Option Int

structure AffinityPlan where
  loadgenCpus : List Nat
  workerCpuSets : List (List Nat)
  loadgenPhysicalCores : Nat := 0
  primaryNuma : Nat := 0
  deriving DecidableEq

namespace AffinityPlan

def getWorkerCpus (plan : AffinityPlan) (workerId : Nat) : List Nat :=
  if plan.workerCpuSets = [] then []
  else plan.workerCpuSets.getD (workerId % plan.workerCpuSets.length) []

end AffinityPlan

/-- `sorted(items, key=key)`. -/
def sortedBy {Item Value : Type} [LE Value] [DecidableLE Value] (key : Item → Value)
    (items : List Item) : List Item :=
  items.mergeSort fun first second => key first ≤ key second

/-- `items[:count]`, where a negative count leaves out items at the end. -/
def sliceTo {Item : Type} (items : List Item) (count : Int) : List Item :=
  if 0 ≤ count then items.take count.toNat else items.take (items.length + count).toNat

/-- `items[count:]`. -/
def sliceFrom {Item : Type} (items : List Item) (count : Int) : List Item :=
  if 0 ≤ count then items.drop count.toNat else items.drop (items.length + count).toNat

namespace Topology

variable (topology : Topology)

/-- The CPUs by one metric, unless no CPU has it. -/
def rankedBy (metric : Nat → Option Int) : Option (List Nat) :=
  if topology.onlineCpus.any fun cpu => (metric cpu).isSome then
    some (topology.onlineCpus.mergeSort fun first second =>
      (metric second).getD 0 ≤ (metric first).getD 0)
  else none

/-- `get_cpus_ranked_by_performance`. -/
def rankedCpus : List Nat :=
  (((topology.rankedBy topology.highestPerf).or (topology.rankedBy topology.cpuCapacity)).or
    (topology.rankedBy topology.maxFreq)).getD (sortedBy id topology.onlineCpus)

def physicalCore (cpu : Nat) : Int :=
  (topology.coreId cpu).getD cpu

def numa (cpu : Nat) : Nat :=
  (topology.numaNode cpu).getD 0

/-- The CPUs of each physical core, by NUMA node. -/
abbrev NumaCores := OrderedDict Nat (OrderedDict Int (List Nat))

def addCpu (numaCores : NumaCores) (cpu : Nat) : NumaCores :=
  let cores := (numaCores.get? (topology.numa cpu)).getD ∅
  numaCores.insert (topology.numa cpu) (cores.append (topology.physicalCore cpu, cpu))

def numaCores : NumaCores :=
  topology.onlineCpus.foldl topology.addCpu ∅

/-- `numa_cores[numa]`. -/
def coresOf (numa : Nat) : OrderedDict Int (List Nat) :=
  (topology.numaCores.get? numa).getD ∅

/-- `numa_cores[numa][phys]`. -/
def cpusOf (core : Nat × Int) : List Nat :=
  ((topology.coresOf core.1).get? core.2).getD []

/-- `cpu_rank`; a CPU that is not ranked comes last. -/
def cpuRank (cpu : Nat) : Nat :=
  topology.rankedCpus.idxOf cpu

def corePerfRank (numa : Nat) (phys : Int) : Nat :=
  (((topology.cpusOf (numa, phys)).map topology.cpuRank).min?).getD 0

def primaryNuma : Nat :=
  topology.numa (topology.rankedCpus.headD ((topology.onlineCpus.min?).getD 0))

/-- The cores of a node, the fastest first. -/
def sortedCores (numa : Nat) : List Int :=
  sortedBy (topology.corePerfRank numa) (topology.coresOf numa).keys

def actualLoadgenCores (loadgenCores : Int) : Int :=
  min loadgenCores (topology.sortedCores topology.primaryNuma).length

def loadgenPhysCores (loadgenCores : Int) : List (Nat × Int) :=
  (sliceTo (topology.sortedCores topology.primaryNuma)
    (topology.actualLoadgenCores loadgenCores)).map fun phys => (topology.primaryNuma, phys)

def otherNumas : List Nat :=
  sortedBy
    (fun numa => (((topology.coresOf numa).keys.map (topology.corePerfRank numa)).min?).getD 0)
    (topology.numaCores.keys.filter (· ≠ topology.primaryNuma))

def workerPhysCores (loadgenCores : Int) : List (Nat × Int) :=
  (sliceFrom (topology.sortedCores topology.primaryNuma)
      (topology.actualLoadgenCores loadgenCores)).map (fun phys => (topology.primaryNuma, phys)) ++
    topology.otherNumas.flatMap fun numa =>
      (topology.sortedCores numa).map fun phys => (numa, phys)

/-- `compute_affinity_plan`; the number of workers only matters for its warnings. -/
def computeAffinityPlan (_numWorkers loadgenCores : Int) : AffinityPlan :=
  if topology.onlineCpus = [] then { loadgenCpus := [], workerCpuSets := [] }
  else
    { loadgenCpus := sortedBy id ((topology.loadgenPhysCores loadgenCores).flatMap topology.cpusOf)
      workerCpuSets := (topology.workerPhysCores loadgenCores).map fun core =>
        sortedBy id (topology.cpusOf core)
      loadgenPhysicalCores := (topology.loadgenPhysCores loadgenCores).length
      primaryNuma := topology.primaryNuma }

/-! ## The cores of the machine -/

/-- The core that a CPU is filed under. -/
def coreOf (cpu : Nat) : Nat × Int :=
  (topology.numa cpu, topology.physicalCore cpu)

variable {topology}

theorem coresOf_fold (cpus : List Nat) (numa : Nat) :
    ((cpus.foldl topology.addCpu ∅).get? numa).getD ∅ =
      OrderedDict.group ((cpus.filter fun cpu => topology.numa cpu = numa).map fun cpu =>
        (topology.physicalCore cpu, cpu)) := by
  induction cpus using List.reverseRecOn with
  | nil => rfl
  | append_singleton cpus cpu ih =>
      rw [List.foldl_append, List.foldl_cons, List.foldl_nil, addCpu, OrderedDict.get?_insert,
        List.filter_append]
      by_cases here : numa = topology.numa cpu
      · subst here
        rw [if_pos rfl, Option.getD_some, ih]
        simp [OrderedDict.group]
      · rw [if_neg here, ih]
        simp [Ne.symm here]

theorem mem_numas_fold (cpus : List Nat) (numa : Nat) :
    numa ∈ (cpus.foldl topology.addCpu ∅).keys ↔ ∃ cpu ∈ cpus, topology.numa cpu = numa := by
  induction cpus using List.reverseRecOn with
  | nil => simp
  | append_singleton cpus cpu ih =>
      rw [List.foldl_append, List.foldl_cons, List.foldl_nil, ← OrderedDict.get?_isSome_iff, addCpu,
        OrderedDict.get?_insert]
      by_cases here : numa = topology.numa cpu
      · simp [here]
      · rw [if_neg here, OrderedDict.get?_isSome_iff, ih]
        simp [Ne.symm here, or_and_right, exists_or]

theorem cpusOf_eq (core : Nat × Int) :
    topology.cpusOf core = topology.onlineCpus.filter fun cpu => topology.coreOf cpu = core := by
  obtain ⟨numa, phys⟩ := core
  rw [cpusOf, coresOf, numaCores, coresOf_fold, OrderedDict.get?_group, OrderedDict.valuesOf,
    List.filter_map, List.map_map, List.filter_filter]
  refine (List.map_id _).trans ?_
  apply List.filter_congr
  intro cpu _
  simp [coreOf, Prod.ext_iff, Bool.and_comm]

theorem mem_coresOf {numa : Nat} {phys : Int} :
    phys ∈ (topology.coresOf numa).keys ↔
      ∃ cpu ∈ topology.onlineCpus, topology.coreOf cpu = (numa, phys) := by
  rw [coresOf, numaCores, coresOf_fold, OrderedDict.mem_keys_group]
  simp [coreOf, Prod.ext_iff, and_assoc]

theorem mem_numas {numa : Nat} :
    numa ∈ topology.numaCores.keys ↔ ∃ cpu ∈ topology.onlineCpus, topology.numa cpu = numa :=
  mem_numas_fold _ _

/-! ## The cores of the plan -/

theorem sortedBy_perm {Item Value : Type} [LE Value] [DecidableLE Value] (key : Item → Value)
    (items : List Item) : (sortedBy key items).Perm items :=
  List.mergeSort_perm _ _

theorem slices_append {Item : Type} (items : List Item) (count : Int) :
    sliceTo items count ++ sliceFrom items count = items := by
  unfold sliceTo sliceFrom
  split <;> exact List.take_append_drop _ _

theorem planned_eq (loadgenCores : Int) :
    topology.loadgenPhysCores loadgenCores ++ topology.workerPhysCores loadgenCores =
      (topology.sortedCores topology.primaryNuma).map (fun phys => (topology.primaryNuma, phys)) ++
        topology.otherNumas.flatMap fun numa =>
          (topology.sortedCores numa).map fun phys => (numa, phys) := by
  rw [loadgenPhysCores, workerPhysCores, ← List.append_assoc, ← List.map_append, slices_append]

theorem mem_sortedCores {numa : Nat} {phys : Int} :
    phys ∈ topology.sortedCores numa ↔
      ∃ cpu ∈ topology.onlineCpus, topology.coreOf cpu = (numa, phys) := by
  rw [sortedCores, (sortedBy_perm _ _).mem_iff, mem_coresOf]

theorem mem_otherNumas {numa : Nat} :
    numa ∈ topology.otherNumas ↔
      (∃ cpu ∈ topology.onlineCpus, topology.numa cpu = numa) ∧ numa ≠ topology.primaryNuma := by
  rw [otherNumas, (sortedBy_perm _ _).mem_iff, List.mem_filter, mem_numas]
  simp

/-- Every core of the machine is planned. -/
theorem mem_planned (loadgenCores : Int) {core : Nat × Int} :
    core ∈ topology.loadgenPhysCores loadgenCores ++ topology.workerPhysCores loadgenCores ↔
      ∃ cpu ∈ topology.onlineCpus, topology.coreOf cpu = core := by
  obtain ⟨numa, phys⟩ := core
  rw [planned_eq, List.mem_append, List.mem_map, List.mem_flatMap]
  constructor
  · rintro (⟨phys, member, same⟩ | ⟨numa, -, member⟩)
    · cases same
      exact mem_sortedCores.mp member
    · obtain ⟨phys, physMem, same⟩ := List.mem_map.mp member
      cases same
      exact mem_sortedCores.mp physMem
  · rintro ⟨cpu, online, isCore⟩
    by_cases primary : numa = topology.primaryNuma
    · subst primary
      exact .inl ⟨phys, mem_sortedCores.mpr ⟨cpu, online, isCore⟩, rfl⟩
    · exact .inr ⟨numa, mem_otherNumas.mpr ⟨⟨cpu, online, congrArg Prod.fst isCore⟩, primary⟩,
        List.mem_map.mpr ⟨phys, mem_sortedCores.mpr ⟨cpu, online, isCore⟩, rfl⟩⟩

/-- No core is planned twice. -/
theorem planned_nodup (loadgenCores : Int) :
    (topology.loadgenPhysCores loadgenCores ++ topology.workerPhysCores loadgenCores).Nodup := by
  have coresNodup : ∀ numa,
      ((topology.sortedCores numa).map fun phys => (numa, phys)).Nodup := by
    intro numa
    apply List.Nodup.map (fun first second same => congrArg Prod.snd same)
    exact (sortedBy_perm _ _).nodup_iff.mpr (topology.coresOf numa).nodup_keys
  rw [planned_eq, List.nodup_append]
  refine ⟨coresNodup _, ?_, ?_⟩
  · rw [List.nodup_flatMap]
    refine ⟨fun numa _ => coresNodup numa, ?_⟩
    have numasNodup : topology.otherNumas.Nodup :=
      (sortedBy_perm _ _).nodup_iff.mpr (topology.numaCores.nodup_keys.filter _)
    apply numasNodup.imp
    intro first second different core firstMem secondMem
    obtain ⟨_, -, rfl⟩ := List.mem_map.mp firstMem
    obtain ⟨_, -, same⟩ := List.mem_map.mp secondMem
    exact different (congrArg Prod.fst same).symm
  · intro first firstMem second secondMem same
    obtain ⟨_, -, rfl⟩ := List.mem_map.mp firstMem
    obtain ⟨numa, other, member⟩ := List.mem_flatMap.mp secondMem
    obtain ⟨_, -, rfl⟩ := List.mem_map.mp member
    exact (mem_otherNumas.mp other).2 (congrArg Prod.fst same).symm

theorem mem_cpusOf {core : Nat × Int} {cpu : Nat} :
    cpu ∈ topology.cpusOf core ↔ cpu ∈ topology.onlineCpus ∧ topology.coreOf cpu = core := by
  rw [cpusOf_eq, List.mem_filter, decide_eq_true_eq]

/-- The planned cores have the online CPUs, each once. -/
theorem planned_cpus (loadgenCores : Int) :
    ((topology.loadgenPhysCores loadgenCores ++
      topology.workerPhysCores loadgenCores).flatMap topology.cpusOf).Perm topology.onlineCpus := by
  have nodup : ((topology.loadgenPhysCores loadgenCores ++
      topology.workerPhysCores loadgenCores).flatMap topology.cpusOf).Nodup := by
    rw [List.nodup_flatMap]
    constructor
    · intro core _
      rw [cpusOf_eq]
      exact topology.distinct.filter _
    · apply (planned_nodup loadgenCores).imp
      intro first second different cpu firstMem secondMem
      exact different ((mem_cpusOf.mp firstMem).2.symm.trans (mem_cpusOf.mp secondMem).2)
  apply (List.perm_ext_iff_of_nodup nodup topology.distinct).mpr
  intro cpu
  rw [List.mem_flatMap]
  constructor
  · rintro ⟨core, -, member⟩
    exact (mem_cpusOf.mp member).1
  · intro online
    exact ⟨topology.coreOf cpu, (mem_planned loadgenCores).mpr ⟨cpu, online, rfl⟩,
      mem_cpusOf.mpr ⟨online, rfl⟩⟩

theorem worker_sets_perm (cores : List (Nat × Int)) :
    (cores.map fun core => sortedBy id (topology.cpusOf core)).flatten.Perm
      (cores.flatMap topology.cpusOf) := by
  induction cores with
  | nil => simp
  | cons core cores ih =>
      rw [List.map_cons, List.flatten_cons, List.flatMap_cons]
      exact (sortedBy_perm _ _).append ih

end Topology

/-- What is promised of a plan for so many workers. -/
structure AffinityPlan.Partitions (plan : AffinityPlan) (topology : Topology)
    (numWorkers : Int) : Prop where
  disjoint : (plan.loadgenCpus :: plan.workerCpuSets).Pairwise List.Disjoint
  covers : (plan.loadgenCpus ++ plan.workerCpuSets.flatten).Perm topology.onlineCpus
  /-- Each worker has the CPUs of one core, and all of them. -/
  wholeCores : ∀ cpus ∈ plan.workerCpuSets, cpus ≠ [] ∧ ∃ core, ∀ cpu,
    cpu ∈ cpus ↔ cpu ∈ topology.onlineCpus ∧ topology.coreOf cpu = core
  oneNode : ∀ cpu ∈ plan.loadgenCpus, topology.numa cpu = plan.primaryNuma
  workersApart : numWorkers ≤ plan.workerCpuSets.length → ∀ first second : Nat,
    first < numWorkers → second < numWorkers → first ≠ second →
      List.Disjoint (plan.getWorkerCpus first) (plan.getWorkerCpus second)

namespace AffinityPlan

/-- A worker whose number is in range has its own set. -/
theorem getWorkerCpus_eq {plan : AffinityPlan} {worker : Nat}
    (inRange : worker < plan.workerCpuSets.length) :
    plan.getWorkerCpus worker = plan.workerCpuSets[worker] := by
  have some : plan.workerCpuSets ≠ [] := by
    intro none
    simp [none] at inRange
  rw [getWorkerCpus, if_neg some, Nat.mod_eq_of_lt inRange]
  simp [inRange]

theorem workers_apart {plan : AffinityPlan}
    (disjoint : plan.workerCpuSets.Pairwise List.Disjoint) {first second : Nat}
    (firstInRange : first < plan.workerCpuSets.length)
    (secondInRange : second < plan.workerCpuSets.length) (different : first ≠ second) :
    List.Disjoint (plan.getWorkerCpus first) (plan.getWorkerCpus second) := by
  rw [getWorkerCpus_eq firstInRange, getWorkerCpus_eq secondInRange]
  have byIndex := List.pairwise_iff_getElem.mp disjoint
  rcases Nat.lt_or_gt_of_ne different with before | after
  · exact byIndex _ _ firstInRange secondInRange before
  · exact (byIndex _ _ secondInRange firstInRange after).symm

end AffinityPlan

/-- On every machine, the plan shares out the online CPUs. -/
theorem affinity_plan_partitions (topology : Topology) (numWorkers loadgenCores : Int) :
    (topology.computeAffinityPlan numWorkers loadgenCores).Partitions topology numWorkers := by
  by_cases empty : topology.onlineCpus = []
  · rw [Topology.computeAffinityPlan, if_pos empty]
    constructor
    · simp
    · simp [empty]
    · simp
    · simp
    · intro enough first second inRange
      simp only [List.length_nil] at enough
      omega
  · have planEq : topology.computeAffinityPlan numWorkers loadgenCores = _ :=
      if_neg empty
    have perm : ((topology.computeAffinityPlan numWorkers loadgenCores).loadgenCpus ++
        (topology.computeAffinityPlan numWorkers loadgenCores).workerCpuSets.flatten).Perm
          topology.onlineCpus := by
      have planned := @Topology.planned_cpus topology loadgenCores
      rw [List.flatMap_append] at planned
      rw [planEq]
      exact ((Topology.sortedBy_perm _ _).append (Topology.worker_sets_perm _)).trans planned
    have disjoint : ((topology.computeAffinityPlan numWorkers loadgenCores).loadgenCpus ::
        (topology.computeAffinityPlan numWorkers loadgenCores).workerCpuSets).Pairwise
          List.Disjoint := by
      have nodup := perm.nodup_iff.mpr topology.distinct
      rw [← List.flatten_cons, List.nodup_flatten] at nodup
      exact nodup.2
    refine ⟨disjoint, perm, ?_, ?_, ?_⟩
    · rw [planEq]
      intro cpus member
      obtain ⟨core, coreMem, rfl⟩ := List.mem_map.mp member
      have memIff : ∀ cpu, cpu ∈ sortedBy id (topology.cpusOf core) ↔
          cpu ∈ topology.onlineCpus ∧ topology.coreOf cpu = core := by
        intro cpu
        rw [(Topology.sortedBy_perm _ _).mem_iff, Topology.mem_cpusOf]
      obtain ⟨cpu, online, isCore⟩ :=
        (Topology.mem_planned loadgenCores).mp (List.mem_append_right _ coreMem)
      exact ⟨List.ne_nil_of_mem ((memIff cpu).mpr ⟨online, isCore⟩), core, memIff⟩
    · rw [planEq]
      intro cpu member
      have inCores := (Topology.sortedBy_perm _ _).mem_iff.mp member
      obtain ⟨core, coreMem, cpuMem⟩ := List.mem_flatMap.mp inCores
      obtain ⟨phys, -, rfl⟩ := List.mem_map.mp coreMem
      exact congrArg Prod.fst (Topology.mem_cpusOf.mp cpuMem).2
    · intro enough first second firstInRange secondInRange different
      exact AffinityPlan.workers_apart (List.pairwise_cons.mp disjoint).2 (by omega) (by omega)
        different

end CpuAffinity

end InferenceEndpoint
