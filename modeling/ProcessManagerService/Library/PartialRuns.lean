import Mathlib.Data.List.Basic
import Mathlib.Data.List.Induction

/-!
# Runs of labelled partial steps

A machine is a partial step `State → Label → Option State`, where `none` says
that the label is not enabled in the state.  Its runs are lists of labels, so
a concrete run evaluates, and a law over all runs is an induction on a list.
Besides the rule for what guarded steps keep, this file proves the rule used for
a guarded law: when the guard is exactly what separates the steps that keep a
property from the steps that break it, a run has the property in every state if
and only if every one of its steps meets the guard.
-/

namespace ProcessManagerService.PartialRuns

variable {State Label : Type*}

/-- Execute the labels in order.  The result is `none` as soon as one of them
is not enabled. -/
def run (step : State → Label → Option State) (start : State)
    (labels : List Label) : Option State :=
  labels.foldlM step start

@[simp]
theorem run_nil (step : State → Label → Option State) (start : State) :
    run step start [] = some start := rfl

@[simp]
theorem run_cons (step : State → Label → Option State) (start : State)
    (label : Label) (labels : List Label) :
    run step start (label :: labels) =
      (step start label).bind fun next => run step next labels := rfl

theorem run_cons_eq_some {step : State → Label → Option State}
    {start finish : State} {label : Label} {labels : List Label} :
    run step start (label :: labels) = some finish ↔
      ∃ next, step start label = some next ∧ run step next labels = some finish := by
  rw [run_cons, Option.bind_eq_some_iff]

/-- A run splits after its first labels. -/
theorem run_append (step : State → Label → Option State) (start : State)
    (first second : List Label) :
    run step start (first ++ second) =
      (run step start first).bind fun middle => run step middle second := by
  simp only [run, List.foldlM_append]
  rfl

/-- A component with its own steps is a part of the state that can be read and
replaced.  Where the labels of the component do to the whole state what they do
to this part, its runs are runs of the whole. -/
theorem run_map {Part Inner : Type*} {step : State → Label → Option State}
    {part : Part → Inner → Option Part} {embed : Inner → Label}
    (get : State → Part) (put : State → Part → State)
    (hget : ∀ state inner, get (put state inner) = inner)
    (hput : ∀ state first second, put (put state first) second = put state second)
    (hself : ∀ state, put state (get state) = state) {labels : List Inner}
    (hstep : ∀ state, ∀ label ∈ labels,
      step state (embed label) = (part (get state) label).map (put state))
    (state : State) :
    run step state (labels.map embed) = (run part (get state) labels).map (put state) := by
  induction labels generalizing state with
  | nil => exact congrArg some (hself state).symm
  | cons label labels ih =>
      have hrest : ∀ inner, run step (put state inner) (labels.map embed) =
          (run part inner labels).map (put state) := by
        intro inner
        rw [ih (fun other later hlater => hstep other later (List.mem_cons_of_mem label hlater)),
          hget]
        exact congrArg (fun build => (run part inner labels).map build) (funext (hput state inner))
      rw [List.map_cons, run_cons, run_cons, hstep state label List.mem_cons_self]
      cases part (get state) label with
      | none => rfl
      | some inner => exact hrest inner

/-- The property holds of the start and of every state the run visits. -/
def EveryState (step : State → Label → Option State) (property : State → Prop) :
    State → List Label → Prop
  | state, [] => property state
  | state, label :: labels => property state ∧
      ∀ next, step state label = some next → EveryState step property next labels

/-- Every step of the run meets the guard in the state before it. -/
def EveryStep (step : State → Label → Option State) (guard : State → Label → Prop) :
    State → List Label → Prop
  | _, [] => True
  | state, label :: labels => guard state label ∧
      ∀ next, step state label = some next → EveryStep step guard next labels

theorem EveryState.start {step : State → Label → Option State}
    {property : State → Prop} {state : State} {labels : List Label}
    (hevery : EveryState step property state labels) : property state := by
  cases labels with
  | nil => exact hevery
  | cons label labels => exact hevery.1

theorem EveryState.finish {step : State → Label → Option State}
    {property : State → Prop} {state finish : State} {labels : List Label}
    (hevery : EveryState step property state labels)
    (hrun : run step state labels = some finish) : property finish := by
  induction labels generalizing state with
  | nil =>
      obtain rfl : state = finish := Option.some.inj hrun
      exact hevery
  | cons label labels ih =>
      obtain ⟨next, hstep, hrest⟩ := run_cons_eq_some.mp hrun
      exact ih (hevery.2 next hstep) hrest

theorem EveryState.mono {step : State → Label → Option State}
    {strong weak : State → Prop} (hmono : ∀ state, strong state → weak state)
    {state : State} {labels : List Label}
    (hevery : EveryState step strong state labels) :
    EveryState step weak state labels := by
  induction labels generalizing state with
  | nil => exact hmono state hevery
  | cons label labels ih =>
      exact ⟨hmono state hevery.1, fun next hstep => ih (hevery.2 next hstep)⟩

/-- A guard that holds of every enabled step holds along every run. -/
theorem EveryStep.of_forall_mem {step : State → Label → Option State}
    {guard : State → Label → Prop} {state : State} {labels : List Label}
    (hguard : ∀ state, ∀ label ∈ labels, guard state label) :
    EveryStep step guard state labels := by
  induction labels generalizing state with
  | nil => trivial
  | cons label labels ih =>
      refine ⟨hguard state label List.mem_cons_self, fun next _ => ih ?_⟩
      intro other inner hinner
      exact hguard other inner (List.mem_cons_of_mem label hinner)

/-- A run of guarded steps, built from its first one. -/
theorem EveryStep.cons {step : State → Label → Option State}
    {guard : State → Label → Prop} {state next : State} {label : Label} {labels : List Label}
    (hguard : guard state label) (hstep : step state label = some next)
    (hrest : EveryStep step guard next labels) :
    EveryStep step guard state (label :: labels) := by
  refine ⟨hguard, ?_⟩
  intro other hother
  obtain rfl : next = other := Option.some.inj (hstep.symm.trans hother)
  exact hrest

/-- The guard can be tested along a run. -/
instance EveryStep.decidable {step : State → Label → Option State} {guard : State → Label → Prop}
    [∀ state label, Decidable (guard state label)] :
    ∀ (state : State) (labels : List Label), Decidable (EveryStep step guard state labels)
  | _, [] => .isTrue trivial
  | state, label :: labels =>
      match hstep : step state label with
      | none => decidable_of_iff (guard state label)
          ⟨fun hguard => ⟨hguard, fun _ hnext => by rw [hstep] at hnext; cases hnext⟩, And.left⟩
      | some next =>
          have : Decidable (EveryStep step guard next labels) := EveryStep.decidable next labels
          decidable_of_iff (guard state label ∧ EveryStep step guard next labels)
            ⟨fun hevery => .cons hevery.1 hstep hevery.2,
              fun hevery => ⟨hevery.1, hevery.2 next hstep⟩⟩

theorem EveryStep.and {step : State → Label → Option State}
    {left right : State → Label → Prop} {state : State} {labels : List Label}
    (hleft : EveryStep step left state labels)
    (hright : EveryStep step right state labels) :
    EveryStep step (fun state label => left state label ∧ right state label)
      state labels := by
  induction labels generalizing state with
  | nil => trivial
  | cons label labels ih =>
      exact ⟨⟨hleft.1, hright.1⟩,
        fun next hstep => ih (hleft.2 next hstep) (hright.2 next hstep)⟩

/-- A law that the states of a run impose on their steps holds along the run. -/
theorem EveryState.everyStep {step : State → Label → Option State}
    {property : State → Prop} {guard : State → Label → Prop}
    (himposes : ∀ state label, property state → guard state label)
    {state : State} {labels : List Label}
    (hevery : EveryState step property state labels) :
    EveryStep step guard state labels := by
  induction labels generalizing state with
  | nil => trivial
  | cons label labels ih =>
      exact ⟨himposes state label hevery.1, fun next hstep => ih (hevery.2 next hstep)⟩

/-- An invariant that the guarded steps keep holds in every state of a guarded
run. -/
theorem everyState_of_everyStep {step : State → Label → Option State}
    {invariant : State → Prop} {guard : State → Label → Prop}
    (hkeep : ∀ state label next, invariant state → guard state label →
      step state label = some next → invariant next)
    {start : State} {labels : List Label} (hstart : invariant start)
    (hguard : EveryStep step guard start labels) :
    EveryState step invariant start labels := by
  induction labels generalizing start with
  | nil => exact hstart
  | cons label labels ih =>
      refine ⟨hstart, fun next hstep => ih ?_ (hguard.2 next hstep)⟩
      exact hkeep start label next hstart hguard.1 hstep

/-- An invariant that every step keeps holds in every state of every run. -/
theorem everyState_of_step {step : State → Label → Option State} {invariant : State → Prop}
    (hkeep : ∀ state label next, invariant state → step state label = some next →
      invariant next)
    {start : State} (hstart : invariant start) (labels : List Label) :
    EveryState step invariant start labels := by
  induction labels generalizing start with
  | nil => exact hstart
  | cons label labels ih =>
      exact ⟨hstart, fun next hstep => ih (hkeep start label next hstart hstep)⟩

/-- A property of whatever the runs reach holds in every state of every run. -/
theorem everyState_of_run {step : State → Label → Option State} {property : State → Prop}
    {start : State} (hreached : ∀ labels finish, run step start labels = some finish →
      property finish) (labels : List Label) : EveryState step property start labels := by
  induction labels generalizing start with
  | nil => exact hreached [] start rfl
  | cons label labels ih =>
      refine ⟨hreached [] start rfl, fun next hstep => ih ?_⟩
      intro later finish hrun
      exact hreached (label :: later) finish (run_cons_eq_some.mpr ⟨next, hstep, hrun⟩)

/-- The rule of the exact guard.  Guarded steps keep the invariant, which
implies the property, and an unguarded step out of the invariant breaks the
property at once; then the property holds throughout a run exactly when every
step of the run is guarded. -/
theorem everyState_iff_everyStep {step : State → Label → Option State}
    {invariant property : State → Prop} {guard : State → Label → Prop}
    (hproperty : ∀ state, invariant state → property state)
    (hkeep : ∀ state label next, invariant state → guard state label →
      step state label = some next → invariant next)
    (hbreak : ∀ state label next, invariant state → ¬ guard state label →
      step state label = some next → ¬ property next)
    {start finish : State} {labels : List Label} (hstart : invariant start)
    (hrun : run step start labels = some finish) :
    EveryState step property start labels ↔ EveryStep step guard start labels := by
  constructor
  · intro hevery
    induction labels generalizing start with
    | nil => trivial
    | cons label labels ih =>
        obtain ⟨next, hstep, hrest⟩ := run_cons_eq_some.mp hrun
        have hguard : guard start label := by
          by_contra hunguarded
          exact hbreak start label next hstart hunguarded hstep
            (hevery.2 next hstep).start
        refine ⟨hguard, ?_⟩
        intro other hother
        obtain rfl : next = other := Option.some.inj (hstep.symm.trans hother)
        exact ih (hkeep start label next hstart hguard hstep) hrest
          (hevery.2 next hstep)
  · intro hguard
    exact (everyState_of_everyStep hkeep hstart hguard).mono hproperty

end ProcessManagerService.PartialRuns
