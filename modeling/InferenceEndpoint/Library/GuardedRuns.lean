import Mathlib.Logic.Basic

/-!
# Runs of labelled partial transitions

A transition function `step : State → Label → Option State` answers `none`
when the label is not enabled.  This file collects finite runs of such a
function, the states they reach, and the two induction rules used throughout
the development: an invariant kept by every step holds after every run, and
an invariant kept by the steps that meet a guard holds after every run all of
whose steps meet it.
-/

namespace GuardedRuns

variable {State Label : Type*}

/-- Execute the labels in order; `none` if one of them is not enabled. -/
def run (step : State → Label → Option State) :
    State → List Label → Option State
  | state, [] => some state
  | state, label :: labels =>
      (step state label).bind fun next => run step next labels

/-- Every step of the run taken from `state` meets `guard` in the state it
starts from. -/
def Meets (step : State → Label → Option State)
    (guard : State → Label → Prop) : State → List Label → Prop
  | _, [] => True
  | state, label :: labels =>
      guard state label ∧
        ∀ next, step state label = some next → Meets step guard next labels

/-- Whether a given run meets a decidable guard can be computed. -/
instance decidableMeets (step : State → Label → Option State)
    (guard : State → Label → Prop) [∀ state label, Decidable (guard state label)] :
    ∀ state labels, Decidable (Meets step guard state labels)
  | _, [] => isTrue trivial
  | state, label :: labels =>
      match enabled : step state label with
      | none =>
          decidable_of_iff (guard state label) (by simp [Meets, enabled])
      | some next =>
          have := decidableMeets step guard next labels
          decidable_of_iff (guard state label ∧ Meets step guard next labels)
            (by simp [Meets, enabled])

/-- Some run leads from `start` to `state`. -/
def Reachable (step : State → Label → Option State)
    (start state : State) : Prop :=
  ∃ labels, run step start labels = some state

variable {step : State → Label → Option State}

@[simp]
theorem run_nil (state : State) : run step state [] = some state :=
  rfl

theorem run_cons_eq_some {state final : State} {label : Label}
    {labels : List Label} :
    run step state (label :: labels) = some final ↔
      ∃ next, step state label = some next ∧
        run step next labels = some final := by
  simp [run, Option.bind_eq_some_iff]

theorem run_append (first second : List Label) (state : State) :
    run step state (first ++ second) =
      (run step state first).bind fun middle => run step middle second := by
  induction first generalizing state with
  | nil => rfl
  | cons label labels ih =>
      cases enabled : step state label with
      | none => simp [run, enabled]
      | some next => simpa [run, enabled] using ih next

theorem Reachable.refl (state : State) : Reachable step state state :=
  ⟨[], rfl⟩

theorem Reachable.tail {start state next : State} {label : Label}
    (reachable : Reachable step start state)
    (edge : step state label = some next) : Reachable step start next := by
  obtain ⟨labels, runs⟩ := reachable
  refine ⟨labels ++ [label], ?_⟩
  simp [run_append, runs, run, edge]

/-- The guarded induction rule: an invariant preserved by the steps that meet
the guard survives every run whose steps all meet it. -/
theorem invariant_of_meets {guard : State → Label → Prop}
    {invariant : State → Prop}
    (preserved : ∀ state label next, invariant state → guard state label →
      step state label = some next → invariant next)
    {start final : State} {labels : List Label}
    (initially : invariant start) (meets : Meets step guard start labels)
    (runs : run step start labels = some final) : invariant final := by
  induction labels generalizing start with
  | nil =>
      obtain rfl : start = final := by simpa using runs
      exact initially
  | cons label labels ih =>
      obtain ⟨next, edge, rest⟩ := run_cons_eq_some.mp runs
      exact ih (preserved start label next initially meets.1 edge)
        (meets.2 next edge) rest

/-- A guard that each label of the run meets in every state. -/
theorem meets_of_forall_mem {guard : State → Label → Prop} {labels : List Label}
    (each : ∀ label ∈ labels, ∀ state, guard state label) (start : State) :
    Meets step guard start labels := by
  induction labels generalizing start with
  | nil => trivial
  | cons label labels ih =>
      refine ⟨each label List.mem_cons_self start, fun next _ => ih ?_ next⟩
      exact fun other member => each other (List.mem_cons_of_mem label member)

/-- Two guards that agree on the steps taken from states with the invariant are met
by the same runs. -/
theorem meets_congr {first second : State → Label → Prop} (invariant : State → Prop)
    (preserved : ∀ state label next, invariant state →
      step state label = some next → invariant next)
    (agree : ∀ state label next, invariant state → step state label = some next →
      (first state label ↔ second state label))
    {start final : State} {labels : List Label} (initially : invariant start)
    (runs : run step start labels = some final) :
    Meets step first start labels ↔ Meets step second start labels := by
  induction labels generalizing start with
  | nil => exact Iff.rfl
  | cons label labels ih =>
      obtain ⟨next, edge, rest⟩ := run_cons_eq_some.mp runs
      have later := ih (preserved start label next initially edge) rest
      simp only [Meets, agree start label next initially edge]
      refine and_congr_right fun _ => ⟨fun meets other enabled => ?_, fun meets other enabled => ?_⟩
      all_goals
        obtain rfl : next = other := Option.some_inj.mp (edge.symm.trans enabled)
      · exact later.mp (meets next edge)
      · exact later.mpr (meets next edge)

/-- A run meets a guard if every label of it does in the state before it. -/
theorem meets_iff_forall_split {guard : State → Label → Prop} {start : State}
    {labels : List Label} :
    Meets step guard start labels ↔
      ∀ first label second, labels = first ++ label :: second →
        ∀ state, run step start first = some state → guard state label := by
  induction labels generalizing start with
  | nil => simp [Meets]
  | cons label labels ih =>
      constructor
      · rintro ⟨here, later⟩ first other second split state runs
        cases first with
        | nil =>
            obtain ⟨rfl, -⟩ := List.cons.inj split
            obtain rfl : start = state := by simpa using runs
            exact here
        | cons head tail =>
            obtain ⟨rfl, rest⟩ := List.cons.inj split
            obtain ⟨next, edge, runsTail⟩ := run_cons_eq_some.mp runs
            exact ih.mp (later next edge) tail other second rest state runsTail
      · intro each
        refine ⟨each [] label labels rfl start rfl, fun next edge => ih.mpr ?_⟩
        intro first other second split state runs
        refine each (label :: first) other second (by rw [split]; rfl) state ?_
        exact run_cons_eq_some.mpr ⟨next, edge, runs⟩

/-- A step that meets the guard, and a run from there that does. -/
theorem meets_cons {guard : State → Label → Prop} {state next : State} {label : Label}
    {labels : List Label} (edge : step state label = some next) (here : guard state label)
    (later : Meets step guard next labels) : Meets step guard state (label :: labels) :=
  ⟨here, fun _ other => Option.some_inj.mp (edge.symm.trans other) ▸ later⟩

theorem meets_true (start : State) (labels : List Label) :
    Meets step (fun _ _ => True) start labels :=
  meets_of_forall_mem (fun _ _ _ => trivial) start

/-- The induction rule for an invariant that every step preserves. -/
theorem Reachable.invariant (invariant : State → Prop)
    (preserved : ∀ state label next, invariant state →
      step state label = some next → invariant next)
    {start final : State} (initially : invariant start)
    (reachable : Reachable step start final) : invariant final := by
  obtain ⟨labels, runs⟩ := reachable
  exact invariant_of_meets
    (fun state label next holds _ edge => preserved state label next holds edge)
    initially (meets_true start labels) runs

end GuardedRuns
