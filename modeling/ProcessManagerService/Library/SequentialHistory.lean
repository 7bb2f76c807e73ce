import ProcessManagerService.Library.PartialRuns

/-!
# Histories of a sequential object

An object serves one request after another: a request that it can serve gets a
reply and leads to the next state.  A history is legal when the object, serving
its requests in order, gives exactly its replies.  A concurrent machine whose
steps either commit one request of the object or leave it alone then has a legal
history in every state: in the order of their commits the requests could have
been served one after the other.
-/

namespace ProcessManagerService.SequentialHistory

open PartialRuns

variable {State Request Reply : Type*} (serve : State → Request → Option (Reply × State))

/-- The object serves the requests of the history with its replies and ends in
`finish`. -/
def Legal : State → List (Request × Reply) → State → Prop
  | state, [], finish => state = finish
  | state, entry :: history, finish =>
      ∃ next, serve state entry.1 = some (entry.2, next) ∧ Legal next history finish

variable {serve}

/-- A history that is followed by one more request. -/
theorem legal_append_singleton {start finish : State} {history : List (Request × Reply)}
    {entry : Request × Reply} :
    Legal serve start (history ++ [entry]) finish ↔
      ∃ middle, Legal serve start history middle ∧
        serve middle entry.1 = some (entry.2, finish) := by
  induction history generalizing start with
  | nil =>
      constructor
      · rintro ⟨next, hserve, rfl⟩
        exact ⟨start, rfl, hserve⟩
      · rintro ⟨middle, rfl, hserve⟩
        exact ⟨finish, hserve, rfl⟩
  | cons first history ih =>
      constructor
      · rintro ⟨next, hserve, hrest⟩
        obtain ⟨middle, hlegal, hlast⟩ := ih.mp hrest
        exact ⟨middle, ⟨next, hserve, hlegal⟩, hlast⟩
      · rintro ⟨middle, ⟨next, hserve, hlegal⟩, hlast⟩
        exact ⟨next, hserve, ih.mpr ⟨middle, hlegal, hlast⟩⟩

/-- What one step of a machine does to the object behind it. -/
inductive Commits (serve : State → Request → Option (Reply × State)) (state : State)
    (history : List (Request × Reply)) : State → List (Request × Reply) → Prop where
  | nothing : Commits serve state history state history
  | served (request : Request) (reply : Reply) (next : State)
      (hserve : serve state request = some (reply, next)) :
      Commits serve state history next (history ++ [(request, reply)])

theorem Legal.commits {start state next : State} {history later : List (Request × Reply)}
    (hlegal : Legal serve start history state)
    (hcommits : Commits serve state history next later) : Legal serve start later next := by
  cases hcommits with
  | nothing => exact hlegal
  | served request reply _ hserve => exact legal_append_singleton.mpr ⟨state, hlegal, hserve⟩

variable {Machine Label : Type*} {step : Machine → Label → Option Machine}
  {invariant : Machine → Prop} {object : Machine → State}
  {history : Machine → List (Request × Reply)}

/-- The commit rule.  With an invariant under which every step commits at most
one request, the history is legal in every state of every run. -/
theorem legal_everyState
    (hkeep : ∀ machine label next, invariant machine → step machine label = some next →
      invariant next)
    (hcommits : ∀ machine label next, invariant machine → step machine label = some next →
      Commits serve (object machine) (history machine) (object next) (history next))
    {start : Machine} (hstart : invariant start) (hempty : history start = [])
    (labels : List Label) :
    EveryState step
      (fun machine => invariant machine ∧
        Legal serve (object start) (history machine) (object machine)) start labels := by
  have hnothing : Legal serve (object start) (history start) (object start) := by
    rw [hempty]
    rfl
  apply everyState_of_step _ ⟨hstart, hnothing⟩ labels
  rintro machine label next ⟨hinvariant, hlegal⟩ hstep
  exact ⟨hkeep machine label next hinvariant hstep,
    hlegal.commits (hcommits machine label next hinvariant hstep)⟩

end ProcessManagerService.SequentialHistory
