import ProcessManagerService.Worker.ConcurrentProcessing
import ProcessManagerService.Worker.Errands

/-!
# What the threads owe

The log sorts what is sent by datagram.  At any time each thread has sent a
beginning of what is due for its datagram, and it knows the rest; all other
datagrams have been served.  What is due depends on the errands before the
datagram and on those up to one moment since its processing has begun.
-/

namespace ProcessManagerService.Worker

open Communication ContextWorker PartialRuns

variable {TransactionCode : Type*}

/-! ## What is sent for a datagram -/

/-- What has been sent for the datagram with the ticket. -/
def sentFor (log : List (ℕ × Endpoint × List Byte)) (ticket : ℕ) : List (Endpoint × List Byte) :=
  (log.filter fun entry => entry.1 = ticket).map Prod.snd

theorem sentFor_append (first second : List (ℕ × Endpoint × List Byte)) (ticket : ℕ) :
    sentFor (first ++ second) ticket = sentFor first ticket ++ sentFor second ticket := by
  rw [sentFor, List.filter_append, List.map_append]
  rfl

theorem sentFor_tagged (ticket : ℕ) (sent : List (Endpoint × List Byte)) :
    sentFor (sent.map fun datagram => (ticket, datagram)) ticket = sent := by
  rw [sentFor, List.filter_map, List.map_map]
  simp [Function.comp_def]

theorem sentFor_tagged_of_ne {ticket other : ℕ} (hne : ticket ≠ other)
    (sent : List (Endpoint × List Byte)) :
    sentFor (sent.map fun datagram => (ticket, datagram)) other = [] := by
  rw [sentFor, List.map_eq_nil_iff, List.filter_eq_nil_iff]
  intro entry hmem
  obtain ⟨datagram, -, rfl⟩ := List.mem_map.mp hmem
  simpa using hne

theorem sentFor_eq_nil {log : List (ℕ × Endpoint × List Byte)} {ticket : ℕ}
    (hnone : ∀ entry ∈ log, entry.1 ≠ ticket) : sentFor log ticket = [] := by
  rw [sentFor, List.map_eq_nil_iff, List.filter_eq_nil_iff]
  intro entry hmem
  simpa using hnone entry hmem

/-! ## Serving -/

section Serving

variable (surroundings : Surroundings TransactionCode)

/-- The demands of the datagrams whose processing has begun, in order. -/
def LoggedWorker.taken (logged : LoggedWorker) : List (Demand TransactionCode) :=
  logged.shared.processed.map fun datagram => demandOf surroundings datagram.1 datagram.2

/-- The caches are what the errands have made of them, the demands among the errands
are those that have been taken, and what has been sent for them is in the log. -/
structure Accounted (initial : EventManager) (errands : List (Errand TransactionCode))
    (logged : LoggedWorker) : Prop where
  manager : logged.shared.worker.manager = managerFrom initial errands
  demanded : errands.filterMap Errand.demanded = logged.taken surroundings
  sent : logged.shared.worker.sent = logged.log.map Prod.snd
  begun : ∀ entry ∈ logged.log, entry.1 < logged.shared.processed.length

variable [OfNat TransactionCode 19] (initial : EventManager)

/-- With the rest behind it, what has been sent for the demand is what is due: the
answers of the events that were registered before it, and the notifications of
those that are there after the errands of one moment since. -/
def Settles (errands : List (Errand TransactionCode)) (log : List (ℕ × Endpoint × List Byte))
    (ticket : ℕ) (demand : Demand TransactionCode) (rest : List (Endpoint × List Byte)) : Prop :=
  ∃ before since after, Begun errands before after ticket demand ∧ since <+: after ∧
    sentFor log ticket ++ rest = due surroundings (managerFrom initial before)
      (managerFrom initial (before ++ .ofDatagram demand :: since)) demand

/-- How far a thread has come with its datagram. -/
def OnTheWay (errands : List (Errand TransactionCode)) (log : List (ℕ × Endpoint × List Byte)) :
    ProcessingStep TransactionCode → Prop
  | .receiving _ => True
  | .answer ticket sender receivedMessage request responses => ∃ before after,
      Begun errands before after ticket (.request sender receivedMessage request) ∧
        sentFor log ticket ++
            responses.flatMap (dueResponse surroundings sender receivedMessage) =
          ((managerFrom initial before).messageEventsCache.responses sender
            request.payload).flatMap (dueResponse surroundings sender receivedMessage)
  | .notify ticket responses => ∃ demand, Settles surroundings initial errands log ticket demand
      (responses.flatMap (dueRequest surroundings))
  | .failed ticket _ => ∃ demand rest, Settles surroundings initial errands log ticket demand rest

/-- Every thread is on its way with a datagram of its own, and every other
datagram has been served. -/
structure Serving (errands : List (Errand TransactionCode)) (logged : LoggedWorker)
    (threads : List (ProcessingStep TransactionCode)) : Prop where
  accounted : Accounted surroundings initial errands logged
  distinct : (threads.filterMap ProcessingStep.ticket).Nodup
  onTheWay : ∀ step ∈ threads, OnTheWay surroundings initial errands logged.log step
  served : ∀ ticket demand, (errands.filterMap Errand.demanded)[ticket]? = some demand →
    (∀ step ∈ threads, step.ticket ≠ some ticket) →
      Settles surroundings initial errands logged.log ticket demand []

end Serving

section Progress

variable {surroundings : Surroundings TransactionCode} {initial : EventManager}
  {errands more : List (Errand TransactionCode)} {logged next : LoggedWorker}
  {log later : List (ℕ × Endpoint × List Byte)} {ticket : ℕ}

/-- The datagram of a demand has been taken. -/
theorem Accounted.lt_length {demand : Demand TransactionCode}
    (haccounted : Accounted surroundings initial errands logged)
    (hdemand : (errands.filterMap Errand.demanded)[ticket]? = some demand) :
    ticket < logged.shared.processed.length := by
  rw [haccounted.demanded] at hdemand
  obtain ⟨hbound, -⟩ := List.getElem?_eq_some_iff.mp hdemand
  rwa [LoggedWorker.taken, List.length_map] at hbound

variable [OfNat TransactionCode 19]

theorem Settles.getElem? {demand : Demand TransactionCode} {rest : List (Endpoint × List Byte)}
    (hsettles : Settles surroundings initial errands log ticket demand rest) :
    (errands.filterMap Errand.demanded)[ticket]? = some demand := by
  obtain ⟨before, since, after, hbegun, -⟩ := hsettles
  exact hbegun.getElem?

/-- Later errands take nothing back. -/
theorem Settles.leaves {demand : Demand TransactionCode} {rest : List (Endpoint × List Byte)}
    (hsettles : Settles surroundings initial errands log ticket demand rest)
    (hleaves : sentFor later ticket = sentFor log ticket)
    (more : List (Errand TransactionCode)) :
    Settles surroundings initial (errands ++ more) later ticket demand rest := by
  obtain ⟨before, since, after, hbegun, hsince, hsent⟩ := hsettles
  rw [← hleaves] at hsent
  exact ⟨before, since, after ++ more, hbegun.append more,
    hsince.trans (List.prefix_append after more), hsent⟩

/-- A thread stays on its way while others go on. -/
theorem OnTheWay.leaves {step : ProcessingStep TransactionCode}
    (hway : OnTheWay surroundings initial errands log step)
    (hleaves : ∀ ticket, step.ticket = some ticket → sentFor later ticket = sentFor log ticket)
    (more : List (Errand TransactionCode)) :
    OnTheWay surroundings initial (errands ++ more) later step := by
  cases step with
  | receiving step => trivial
  | answer ticket sender receivedMessage request responses =>
      obtain ⟨before, after, hbegun, hsent⟩ := hway
      rw [← hleaves ticket rfl] at hsent
      exact ⟨before, after ++ more, hbegun.append more, hsent⟩
  | notify ticket responses =>
      obtain ⟨demand, hsettles⟩ := hway
      exact ⟨demand, hsettles.leaves (hleaves ticket rfl) more⟩
  | failed ticket error =>
      obtain ⟨demand, rest, hsettles⟩ := hway
      exact ⟨demand, rest, hsettles.leaves (hleaves ticket rfl) more⟩

/-- The tickets of the threads are those of demands. -/
theorem OnTheWay.exists_demand {step : ProcessingStep TransactionCode}
    (hway : OnTheWay surroundings initial errands log step)
    (hticket : step.ticket = some ticket) :
    ∃ demand, (errands.filterMap Errand.demanded)[ticket]? = some demand := by
  cases step with
  | receiving step => cases hticket
  | answer own sender receivedMessage request responses =>
      obtain rfl : own = ticket := Option.some.inj hticket
      obtain ⟨before, after, hbegun, -⟩ := hway
      exact ⟨_, hbegun.getElem?⟩
  | notify own responses =>
      obtain rfl : own = ticket := Option.some.inj hticket
      obtain ⟨demand, hsettles⟩ := hway
      exact ⟨demand, hsettles.getElem?⟩
  | failed own error =>
      obtain rfl : own = ticket := Option.some.inj hticket
      obtain ⟨demand, rest, hsettles⟩ := hway
      exact ⟨demand, hsettles.getElem?⟩

/-- A thread takes a step for its own datagram, or for one whose processing
begins with the step. -/
theorem Serving.replace {step after : ProcessingStep TransactionCode}
    {others : List (ProcessingStep TransactionCode)}
    (hserving : Serving surroundings initial errands logged (step :: others))
    (haccounted : Accounted surroundings initial (errands ++ more) next)
    (hleaves : ∀ ticket, step.ticket ≠ some ticket →
      sentFor next.log ticket = sentFor logged.log ticket)
    (hticket : ∀ ticket, after.ticket = some ticket →
      step.ticket = some ticket ∨ logged.shared.processed.length ≤ ticket)
    (hway : OnTheWay surroundings initial (errands ++ more) next.log after)
    (hserved : ∀ ticket demand,
      ((errands ++ more).filterMap Errand.demanded)[ticket]? = some demand →
      step.ticket = some ticket ∨ logged.shared.processed.length ≤ ticket →
      after.ticket ≠ some ticket →
        Settles surroundings initial (errands ++ more) next.log ticket demand []) :
    Serving surroundings initial (errands ++ more) next (after :: others) := by
  have hdistinct : (others.filterMap ProcessingStep.ticket).Nodup ∧
      ∀ ticket, step.ticket = some ticket →
        ticket ∉ others.filterMap ProcessingStep.ticket := by
    have hnodup := hserving.distinct
    cases hstep : step.ticket with
    | none =>
        rw [List.filterMap_cons_none hstep] at hnodup
        exact ⟨hnodup, fun _ hnone => by cases hnone⟩
    | some own =>
        rw [List.filterMap_cons_some hstep, List.nodup_cons] at hnodup
        exact ⟨hnodup.2, fun _ hsome => Option.some.inj hsome ▸ hnodup.1⟩
  have hbound : ∀ ticket ∈ others.filterMap ProcessingStep.ticket,
      ticket < logged.shared.processed.length := by
    intro ticket hmem
    obtain ⟨other, hother, hown⟩ := List.mem_filterMap.mp hmem
    obtain ⟨demand, hdemand⟩ :=
      (hserving.onTheWay other (List.mem_cons_of_mem step hother)).exists_demand hown
    exact hserving.accounted.lt_length hdemand
  refine ⟨haccounted, ?_, ?_, ?_⟩
  · cases hafter : after.ticket with
    | none =>
        rw [List.filterMap_cons_none hafter]
        exact hdistinct.1
    | some ticket =>
        rw [List.filterMap_cons_some hafter, List.nodup_cons]
        refine ⟨?_, hdistinct.1⟩
        rcases hticket ticket hafter with hown | hnew
        · exact hdistinct.2 ticket hown
        · intro hmem
          exact absurd (hbound ticket hmem) (Nat.not_lt.mpr hnew)
  · apply List.forall_mem_cons.mpr ⟨hway, ?_⟩
    intro other hother
    apply (hserving.onTheWay other (List.mem_cons_of_mem step hother)).leaves
    intro ticket hown
    apply hleaves
    intro hstep
    exact hdistinct.2 ticket hstep (List.mem_filterMap.mpr ⟨other, hother, hown⟩)
  · intro ticket demand hdemand hfree
    obtain ⟨hafter, hothers⟩ := List.forall_mem_cons.mp hfree
    by_cases hown : step.ticket = some ticket
    · exact hserved ticket demand hdemand (.inl hown) hafter
    by_cases hnew : logged.shared.processed.length ≤ ticket
    · exact hserved ticket demand hdemand (.inr hnew) hafter
    have hold : (errands.filterMap Errand.demanded)[ticket]? = some demand := by
      rw [List.filterMap_append, List.getElem?_append_left] at hdemand
      · exact hdemand
      · rw [hserving.accounted.demanded, LoggedWorker.taken, List.length_map]
        exact Nat.lt_of_not_le hnew
    have hbefore : Settles surroundings initial errands logged.log ticket demand [] :=
      hserving.served ticket demand hold (List.forall_mem_cons.mpr ⟨hown, hothers⟩)
    exact hbefore.leaves (hleaves ticket hown) more

/-- What happens beside the threads concerns none of them, as long as no demand is
taken and nothing is sent. -/
theorem Serving.keep {threads : List (ProcessingStep TransactionCode)}
    (hserving : Serving surroundings initial errands logged threads)
    (haccounted : Accounted surroundings initial (errands ++ more) next)
    (hmore : more.filterMap Errand.demanded = []) (hlog : next.log = logged.log) :
    Serving surroundings initial (errands ++ more) next threads := by
  have hleaves : ∀ ticket, sentFor next.log ticket = sentFor logged.log ticket := by
    intro ticket
    rw [hlog]
  refine ⟨haccounted, hserving.distinct, ?_, ?_⟩
  · intro step hmem
    exact (hserving.onTheWay step hmem).leaves (fun ticket _ => hleaves ticket) more
  · intro ticket demand hdemand hfree
    rw [List.filterMap_append, hmore, List.append_nil] at hdemand
    exact (hserving.served ticket demand hdemand hfree).leaves (hleaves ticket) more

end Progress

end ProcessManagerService.Worker
