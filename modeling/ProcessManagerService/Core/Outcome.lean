import Mathlib.Data.List.Basic

/-!
# Outcomes of member functions

A member function returns, lets an exception out, or runs into undefined
behaviour.  In each case the state is kept as the function has left it, because
what was done before an exception stays done.
-/

namespace ProcessManagerService

inductive Outcome (Error State : Type*) where
  | returned (state : State)
  | thrown (error : Error) (state : State)
  | undefined (state : State)
  deriving DecidableEq

namespace Outcome

variable {Error State Result : Type*}

def state : Outcome Error State → State
  | returned state => state
  | thrown _ state => state
  | undefined state => state

def map (change : State → Result) : Outcome Error State → Outcome Error Result
  | returned state => returned (change state)
  | thrown error state => thrown error (change state)
  | undefined state => undefined (change state)

/-- The next statement runs only after a normal return. -/
def andThen (outcome : Outcome Error State) (next : State → Outcome Error State) :
    Outcome Error State :=
  match outcome with
  | returned state => next state
  | thrown error state => thrown error state
  | undefined state => undefined state

/-- `try` with a handler for every exception. -/
def catching (outcome : Outcome Error State) (handler : Error → State → Outcome Error State) :
    Outcome Error State :=
  match outcome with
  | thrown error state => handler error state
  | _ => outcome

/-- A loop over the items, which ends with the first body that does not return. -/
def forEach {Item : Type*} (body : Item → State → Outcome Error State) :
    List Item → State → Outcome Error State
  | [], state => returned state
  | item :: items, state => (body item state).andThen (forEach body items)

/-- A partial function of the state, which is left as it was where the function
is undefined. -/
def ofOption (before : State) : Option State → Outcome Error State
  | some state => returned state
  | none => undefined before

/-- The state after a normal return. -/
def toOption : Outcome Error State → Option State
  | returned state => some state
  | _ => none

@[simp]
theorem andThen_returned (state : State) (next : State → Outcome Error State) :
    (returned state : Outcome Error State).andThen next = next state := rfl

@[simp]
theorem state_map (outcome : Outcome Error State) (change : State → Result) :
    (outcome.map change).state = change outcome.state := by
  cases outcome <;> rfl

theorem map_eq_returned {outcome : Outcome Error State} {change : State → Result}
    {finish : Result} :
    outcome.map change = returned finish ↔
      ∃ state, outcome = returned state ∧ change state = finish := by
  cases outcome <;> simp [map]

@[simp]
theorem toOption_eq_some {outcome : Outcome Error State} {state : State} :
    outcome.toOption = some state ↔ outcome = returned state := by
  cases outcome <;> simp [toOption]

@[simp]
theorem ofOption_eq_returned {before next : State} {result : Option State} :
    (ofOption before result : Outcome Error State) = returned next ↔
      result = some next := by
  cases result <;> simp [ofOption]

theorem andThen_eq_returned {outcome : Outcome Error State}
    {next : State → Outcome Error State} {finish : State} :
    outcome.andThen next = returned finish ↔
      ∃ middle, outcome = returned middle ∧ next middle = returned finish := by
  cases outcome <;> simp [andThen]

theorem andThen_eq_thrown {outcome : Outcome Error State}
    {next : State → Outcome Error State} {error : Error} {finish : State} :
    outcome.andThen next = thrown error finish ↔
      outcome = thrown error finish ∨
        ∃ middle, outcome = returned middle ∧ next middle = thrown error finish := by
  cases outcome <;> simp [andThen]

/-- The loop ends with an exception at the first item whose body throws. -/
theorem forEach_eq_thrown {Item : Type*} {body : Item → State → Outcome Error State}
    {items : List Item} {start finish : State} {error : Error} :
    forEach body items start = thrown error finish ↔
      ∃ before item after middle, items = before ++ item :: after ∧
        forEach body before start = returned middle ∧ body item middle = thrown error finish := by
  induction items generalizing start with
  | nil => simp [forEach]
  | cons first items ih =>
      rw [forEach, andThen_eq_thrown]
      constructor
      · rintro (hthrown | ⟨next, hfirst, hrest⟩)
        · exact ⟨[], first, items, start, rfl, rfl, hthrown⟩
        · obtain ⟨before, item, after, middle, rfl, hbefore, hthrown⟩ := ih.mp hrest
          refine ⟨first :: before, item, after, middle, rfl, ?_, hthrown⟩
          rw [forEach, hfirst, andThen_returned]
          exact hbefore
      · rintro ⟨before, item, after, middle, hsplit, hbefore, hthrown⟩
        cases before with
        | nil =>
            obtain ⟨rfl, rfl⟩ := List.cons.inj hsplit
            cases hbefore
            exact .inl hthrown
        | cons other before =>
            obtain ⟨rfl, rfl⟩ := List.cons.inj hsplit
            obtain ⟨next, hfirst, hrest⟩ := andThen_eq_returned.mp hbefore
            exact .inr ⟨next, hfirst, ih.mpr ⟨before, item, after, middle, rfl, hrest, hthrown⟩⟩

/-- What both statements keep holds after them, however they end. -/
theorem state_andThen {outcome : Outcome Error State} {next : State → Outcome Error State}
    {invariant : State → Prop} (hstate : invariant outcome.state)
    (hnext : ∀ state, invariant state → invariant (next state).state) :
    invariant (outcome.andThen next).state := by
  cases outcome with
  | returned state => exact hnext state hstate
  | thrown error state => exact hstate
  | undefined state => exact hstate

/-- The invariant rule of the loop. -/
theorem state_forEach {Item : Type*} {body : Item → State → Outcome Error State}
    {items : List Item} {start : State} {invariant : State → Prop} (hstart : invariant start)
    (hbody : ∀ item ∈ items, ∀ state, invariant state → invariant (body item state).state) :
    invariant (forEach body items start).state := by
  induction items generalizing start with
  | nil => exact hstart
  | cons item items ih =>
      apply state_andThen (hbody item List.mem_cons_self start hstart)
      intro state hstate
      exact ih hstate fun other hother => hbody other (List.mem_cons_of_mem item hother)

end Outcome

end ProcessManagerService
