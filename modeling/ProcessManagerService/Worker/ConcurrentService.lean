import ProcessManagerService.Worker.ServingLaw

/-!
# Serving on several threads

While one thread notifies the subscribers of a request, another one may accept a
subscription or serve a request of its own.  No step of a thread breaks the law
of what the threads owe, and so every datagram is served as the broker serves it.
-/

namespace ProcessManagerService.Worker

open Communication ContextWorker PartialRuns

variable {TransactionCode : Type*}

section Progress

variable {surroundings : Surroundings TransactionCode} [OfNat TransactionCode 19]
  {initial : EventManager} {errands : List (Errand TransactionCode)}
  {logged next : LoggedWorker} {log : List (ℕ × Endpoint × List Byte)} {ticket : ℕ}

/-! ## The steps -/

/-- A round of a loop sends what is due for its item, or it fails and sends
nothing. -/
def Attempts (worker : ContextWorker) (due : List (Endpoint × List Byte))
    (outcome : Outcome WorkerError ContextWorker) : Prop :=
  outcome = .returned (worker.sending due) ∨
    outcome.state = worker ∧ ∀ next, outcome ≠ .returned next

omit [OfNat TransactionCode 19] in
theorem attempts_sendResponse (sender : Sender)
    (receivedMessage : ModuleMessage TransactionCode) (response : Any)
    (worker : ContextWorker) :
    Attempts worker (dueResponse surroundings sender receivedMessage response)
      (sendResponse surroundings sender receivedMessage response worker) := by
  rw [sendResponse]
  cases surroundings.copyFrom response with
  | none => exact .inr ⟨rfl, fun next hreturned => by cases hreturned⟩
  | some filled => exact .inl rfl

theorem attempts_sendServiceRequest (response : Int32 × Any) (worker : ContextWorker) :
    Attempts worker (dueRequest surroundings response)
      (sendServiceRequest surroundings response worker) := by
  have hsends := sendsFor_sendServiceRequest surroundings
  by_cases hreturned : ∃ next, sendServiceRequest surroundings response worker = .returned next
  · obtain ⟨next, hnext⟩ := hreturned
    have hgood := hsends.good_of_returned response worker next hnext
    exact .inl (hsends.returned response worker hgood)
  · refine .inr ⟨?_, not_exists.mp hreturned⟩
    rw [sendServiceRequest] at hreturned ⊢
    cases hmodule : ModulesCollection.getModule surroundings.findOne response.1 with
    | error error => rfl
    | ok found =>
        cases found with
        | none => rfl
        | some destinationModule =>
            rw [hmodule] at hreturned
            cases haddress : surroundings.addressFromString destinationModule.ipAddress with
            | none => simp only [haddress]; rfl
            | some address =>
                simp only [haddress] at hreturned
                exact absurd ⟨_, rfl⟩ hreturned

def LoggedWorker.sending (logged : LoggedWorker) (ticket : ℕ)
    (datagrams : List (Endpoint × List Byte)) : LoggedWorker where
  shared := { logged.shared with worker := logged.shared.worker.sending datagrams }
  log := logged.log ++ datagrams.map fun datagram => (ticket, datagram)

omit [OfNat TransactionCode 19] in
theorem after_eq {due : List (Endpoint × List Byte)}
    {outcome : Outcome WorkerError ContextWorker} (ticket : ℕ)
    (hattempts : Attempts logged.shared.worker due outcome)
    (next : ProcessingStep TransactionCode) :
    logged.after ticket outcome next = (logged.sending ticket due, next) ∨
      ∃ error, logged.after ticket outcome next = (logged, .failed ticket error) := by
  rcases hattempts with rfl | ⟨hstate, hfailed⟩
  · left
    rw [LoggedWorker.after, Outcome.state, ContextWorker.sending, List.drop_left]
    rfl
  · right
    simp only [LoggedWorker.after, hstate, List.drop_length, List.map_nil, List.append_nil]
    cases outcome with
    | returned after => exact absurd rfl (hfailed after)
    | thrown error after => exact ⟨some error, rfl⟩
    | undefined after => exact ⟨none, rfl⟩

/-- While a thread answers, the notifications are those of the moment. -/
theorem settles_of_answer {sender : Sender} {receivedMessage : ModuleMessage TransactionCode}
    {request : Request} {responses : List Any}
    (hway : OnTheWay surroundings initial errands log
      (.answer ticket sender receivedMessage request responses)) :
    Settles surroundings initial errands log ticket (.request sender receivedMessage request)
      (responses.flatMap (dueResponse surroundings sender receivedMessage) ++
        (((managerFrom initial errands).subscriptionEventsCache.handlerCalls
          request.payload).filterMap HandlerCall.serviceRequest).flatMap
            (dueRequest surroundings)) := by
  obtain ⟨before, after, hbegun, hsent⟩ := hway
  refine ⟨before, after, after, hbegun, List.prefix_refl after, ?_⟩
  rw [← List.append_assoc, hsent, due, ← hbegun.split]

theorem OnTheWay.failed {step : ProcessingStep TransactionCode}
    (hway : OnTheWay surroundings initial errands log step) (hticket : step.ticket = some ticket)
    (error : Option WorkerError) :
    OnTheWay surroundings initial errands log (.failed ticket error) := by
  cases step with
  | receiving step => cases hticket
  | answer own sender receivedMessage request responses =>
      obtain rfl : own = ticket := Option.some.inj hticket
      exact ⟨_, _, settles_of_answer hway⟩
  | notify own responses =>
      obtain rfl : own = ticket := Option.some.inj hticket
      obtain ⟨demand, hsettles⟩ := hway
      exact ⟨demand, _, hsettles⟩
  | failed own other =>
      obtain rfl : own = ticket := Option.some.inj hticket
      exact hway

omit [OfNat TransactionCode 19] in
theorem Accounted.sending (haccounted : Accounted surroundings initial errands logged)
    (hbound : ticket < logged.shared.processed.length) (due : List (Endpoint × List Byte)) :
    Accounted surroundings initial errands (logged.sending ticket due) := by
  refine ⟨haccounted.manager, haccounted.demanded, ?_, ?_⟩
  · rw [LoggedWorker.sending, List.map_append, List.map_map, ← haccounted.sent]
    exact congrArg _ (List.map_id due).symm
  · intro entry hmem
    rcases List.mem_append.mp hmem with hold | hnew
    · exact haccounted.begun entry hold
    · obtain ⟨datagram, -, rfl⟩ := List.mem_map.mp hnew
      exact hbound

/-- A thread goes on without a new demand. -/
theorem Serving.goOn {step after : ProcessingStep TransactionCode}
    {others : List (ProcessingStep TransactionCode)}
    (hserving : Serving surroundings initial errands logged (step :: others))
    (haccounted : Accounted surroundings initial errands next)
    (hleaves : ∀ ticket, step.ticket ≠ some ticket →
      sentFor next.log ticket = sentFor logged.log ticket)
    (hticket : ∀ ticket, after.ticket = some ticket → step.ticket = some ticket)
    (hway : OnTheWay surroundings initial errands next.log after)
    (hserved : ∀ ticket demand, (errands.filterMap Errand.demanded)[ticket]? = some demand →
      step.ticket = some ticket → after.ticket ≠ some ticket →
        Settles surroundings initial errands next.log ticket demand []) :
    Serving surroundings initial errands next (after :: others) := by
  rw [← List.append_nil errands] at haccounted hway hserved ⊢
  apply hserving.replace haccounted hleaves _ hway
  · intro ticket demand hdemand hwhich hnot
    rcases hwhich with hown | hnew
    · exact hserved ticket demand hdemand hown hnot
    · rw [List.append_nil] at hdemand
      exact absurd (hserving.accounted.lt_length hdemand) (Nat.not_lt.mpr hnew)
  · exact fun ticket hsome => .inl (hticket ticket hsome)

/-- A round of a loop. -/
theorem Serving.after {step next : ProcessingStep TransactionCode}
    {others : List (ProcessingStep TransactionCode)}
    {due : List (Endpoint × List Byte)} {outcome : Outcome WorkerError ContextWorker}
    (hserving : Serving surroundings initial errands logged (step :: others))
    (hticket : step.ticket = some ticket)
    (hattempts : Attempts logged.shared.worker due outcome) (hnext : next.ticket = some ticket)
    (hway : OnTheWay surroundings initial errands (logged.sending ticket due).log next) :
    Serving surroundings initial errands (logged.after ticket outcome next).1
      ((logged.after ticket outcome next).2 :: others) := by
  have hown := hserving.onTheWay step List.mem_cons_self
  obtain ⟨demand, hdemand⟩ := hown.exists_demand hticket
  have hbound := hserving.accounted.lt_length hdemand
  rcases after_eq ticket hattempts next with hafter | ⟨error, hafter⟩
  · rw [hafter]
    apply hserving.goOn (hserving.accounted.sending hbound due)
    · intro other hne
      have hother : ticket ≠ other := by
        rintro rfl
        exact hne hticket
      rw [LoggedWorker.sending, sentFor_append, sentFor_tagged_of_ne hother, List.append_nil]
    · exact fun other hsome => hticket.trans (hnext.symm.trans hsome)
    · exact hway
    · exact fun other _ _ hsame hnot => absurd (hnext.trans (hticket.symm.trans hsame)) hnot
  · rw [hafter]
    apply hserving.goOn hserving.accounted
    · exact fun _ _ => rfl
    · exact fun other hsome => hticket.trans hsome
    · exact hown.failed hticket error
    · exact fun other _ _ hsame hnot => absurd (hticket.symm.trans hsame) hnot

section Begin

variable {datagram : List Byte × Endpoint} {worker : ContextWorker}
  {demand : Demand TransactionCode}

omit [OfNat TransactionCode 19] in
/-- The new demand is the last errand. -/
theorem Accounted.begun_last (haccounted : Accounted surroundings initial errands logged)
    (demand : Demand TransactionCode) :
    Begun (errands ++ [.ofDatagram demand]) errands [] logged.shared.processed.length demand := by
  refine ⟨rfl, ?_⟩
  rw [haccounted.demanded, LoggedWorker.taken, List.length_map]

/-- Processing begins: the demand is one more errand. -/
theorem Serving.begin {step after : ProcessingStep TransactionCode}
    {others : List (ProcessingStep TransactionCode)}
    (hserving : Serving surroundings initial errands logged (step :: others))
    (hfree : step.ticket = none)
    (hdemand : demandOf surroundings datagram.1 datagram.2 = demand)
    (hmanager : worker.manager = managerFrom logged.shared.worker.manager [.ofDatagram demand])
    (hsent : worker.sent = logged.shared.worker.sent)
    (hticket : ∀ ticket, after.ticket = some ticket → ticket = logged.shared.processed.length)
    (hway : OnTheWay surroundings initial (errands ++ [.ofDatagram demand]) logged.log after)
    (hsilent : after.ticket = none → ∀ answering notifying,
      due surroundings answering notifying demand = []) :
    Serving surroundings initial (errands ++ [.ofDatagram demand])
      (logged.begun datagram worker) (after :: others) := by
  have haccounted := hserving.accounted
  apply hserving.replace
  · refine ⟨?_, ?_, hsent.trans haccounted.sent, ?_⟩
    · rw [managerFrom_append, ← haccounted.manager]
      exact hmanager
    · rw [List.filterMap_append, haccounted.demanded, LoggedWorker.taken, LoggedWorker.taken,
        LoggedWorker.begun, List.map_append, List.map_singleton, hdemand]
      rfl
    · intro entry hmem
      rw [LoggedWorker.begun, List.length_append]
      exact Nat.lt_add_right _ (haccounted.begun entry hmem)
  · exact fun _ _ => rfl
  · exact fun ticket hsome => .inr (hticket ticket hsome).ge
  · exact hway
  · intro ticket other hother hwhich hnot
    rcases hwhich with hown | hnew
    · rw [hfree] at hown
      cases hown
    -- the only demand that is new is the last one
    have hlast := haccounted.begun_last demand
    obtain ⟨hbound, -⟩ := List.getElem?_eq_some_iff.mp hother
    rw [List.filterMap_append, haccounted.demanded, List.length_append, LoggedWorker.taken,
      List.length_map] at hbound
    obtain rfl : ticket = logged.shared.processed.length :=
      Nat.le_antisymm (Nat.le_of_lt_succ hbound) hnew
    obtain rfl : other = demand := Option.some.inj (hother.symm.trans hlast.getElem?)
    refine ⟨errands, [], [], hlast, List.prefix_refl [], ?_⟩
    have hunsent : sentFor logged.log logged.shared.processed.length = [] :=
      sentFor_eq_nil fun entry hmem => (haccounted.begun entry hmem).ne
    rw [LoggedWorker.begun, hunsent, hsilent]
    · rfl
    · cases hafter : after.ticket with
      | none => rfl
      | some own => exact absurd (hafter.trans (congrArg some (hticket own hafter))) hnot

end Begin

theorem Serving.takeUp {receivedMessageBuffer : List Byte} {senderEndpoint : Endpoint}
    {others : List (ProcessingStep TransactionCode)}
    (hserving : Serving surroundings initial errands logged
      (.receiving (.process receivedMessageBuffer senderEndpoint) :: others)) :
    Serving surroundings initial
      (errands ++ [.ofDatagram (demandOf surroundings receivedMessageBuffer senderEndpoint)])
      (logged.takeUp surroundings receivedMessageBuffer senderEndpoint).1
      ((logged.takeUp surroundings receivedMessageBuffer senderEndpoint).2 :: others) := by
  have haccounted := hserving.accounted
  rw [LoggedWorker.takeUp]
  cases hdemand : demandOf surroundings receivedMessageBuffer senderEndpoint with
  | nothing =>
      apply hserving.begin rfl hdemand rfl rfl
      · exact fun _ hnone => by cases hnone
      · trivial
      · exact fun _ _ _ => rfl
  | subscription moduleIdentifier subscribedType =>
      apply hserving.begin rfl hdemand
      · rfl
      · rfl
      · exact fun _ hnone => by cases hnone
      · trivial
      · exact fun _ _ _ => rfl
  | request sender receivedMessage request =>
      simp only [MessageEventsCache.triggerMessageHandlers_eq]
      apply hserving.begin rfl hdemand rfl rfl
      · exact fun _ hsome => (Option.some.inj hsome).symm
      · refine ⟨errands, [], haccounted.begun_last _, ?_⟩
        have hunsent : sentFor logged.log logged.shared.processed.length = [] :=
          sentFor_eq_nil fun entry hmem => (haccounted.begun entry hmem).ne
        rw [hunsent, List.nil_append, ← haccounted.manager]
        rfl
      · exact fun hnone => by cases hnone

/-- The buffer, the endpoint and the receives are nobody's concern here. -/
structure Receives (shared next : SharedWorker) : Prop where
  manager : next.worker.manager = shared.worker.manager
  sent : next.worker.sent = shared.worker.sent
  processed : next.processed = shared.processed

theorem receives_arrive {shared next : SharedWorker} {datagram : List Byte}
    {endpoint : Endpoint} (harrive : shared.arrive datagram endpoint = some next) :
    Receives shared next := by
  rw [SharedWorker.arrive] at harrive
  split at harrive
  · cases harrive
    exact ⟨rfl, rfl, rfl⟩
  · cases harrive

theorem receives_perform {shared next : SharedWorker} {step after : HandlerStep}
    (hperform : step.perform surroundings shared = some (next, after))
    (hreceiving : ∀ receivedMessageBuffer senderEndpoint,
      step ≠ .process receivedMessageBuffer senderEndpoint) : Receives shared next := by
  cases step with
  | idle =>
      obtain ⟨bytesRead, completions, -, rfl, -⟩ := perform_idle hperform
      exact ⟨rfl, rfl, rfl⟩
  | process receivedMessageBuffer senderEndpoint => exact absurd rfl (hreceiving _ _)
  | _ =>
      cases hperform
      exact ⟨rfl, rfl, rfl⟩

theorem Serving.receives {shared : SharedWorker} {threads : List (ProcessingStep TransactionCode)}
    (hserving : Serving surroundings initial errands logged threads)
    (hreceives : Receives logged.shared shared) :
    Serving surroundings initial errands { logged with shared } threads := by
  obtain ⟨hmanager, hdemanded, hsent, hbegun⟩ := hserving.accounted
  have haccounted : Accounted surroundings initial errands { logged with shared } := by
    refine ⟨hreceives.manager.trans hmanager, ?_, hreceives.sent.trans hsent, ?_⟩
    · rw [hdemanded, LoggedWorker.taken, LoggedWorker.taken, hreceives.processed]
    · rw [hreceives.processed]
      exact hbegun
  rw [← List.append_nil errands] at haccounted ⊢
  exact hserving.keep haccounted rfl rfl

/-- A step that changes nothing that is shared. -/
theorem Serving.turn {step after : ProcessingStep TransactionCode}
    {others : List (ProcessingStep TransactionCode)}
    (hserving : Serving surroundings initial errands logged (step :: others))
    (hticket : after.ticket = step.ticket)
    (hway : OnTheWay surroundings initial errands logged.log after) :
    Serving surroundings initial errands logged (after :: others) := by
  apply hserving.goOn hserving.accounted (fun _ _ => rfl) _ hway
  · exact fun _ _ _ hsame hnot => absurd (hticket.trans hsame) hnot
  · exact fun _ hsome => hticket.symm.trans hsome

/-- Every step of a thread keeps the law, and the only errand that it may add is a
demand. -/
theorem Serving.perform {step after : ProcessingStep TransactionCode}
    {others : List (ProcessingStep TransactionCode)}
    (hserving : Serving surroundings initial errands logged (step :: others))
    (hperform : step.perform surroundings logged = some (next, after)) :
    ∃ demands : List (Demand TransactionCode), Serving surroundings initial
      (errands ++ demands.map .ofDatagram) next (after :: others) := by
  suffices hsettled : (∃ demand, Serving surroundings initial (errands ++ [.ofDatagram demand])
      next (after :: others)) ∨ Serving surroundings initial errands next (after :: others) by
    rcases hsettled with ⟨demand, hnew⟩ | hsame
    · exact ⟨[demand], hnew⟩
    · refine ⟨[], ?_⟩
      rwa [List.map_nil, List.append_nil]
  have hown := hserving.onTheWay step List.mem_cons_self
  cases step with
  | receiving step =>
      by_cases hprocess : ∃ receivedMessageBuffer senderEndpoint,
          step = .process receivedMessageBuffer senderEndpoint
      · obtain ⟨receivedMessageBuffer, senderEndpoint, rfl⟩ := hprocess
        have hbegun := hserving.takeUp
        rw [ProcessingStep.perform, Option.some.injEq] at hperform
        rw [hperform] at hbegun
        exact .inl ⟨_, hbegun⟩
      · push Not at hprocess
        rw [ProcessingStep.perform] at hperform
        · obtain ⟨⟨shared, handler⟩, hhandler, hsame⟩ := Option.map_eq_some_iff.mp hperform
          cases hsame
          exact .inr ((hserving.receives (receives_perform hhandler hprocess)).turn rfl trivial)
        · exact hprocess
  | answer ticket sender receivedMessage request responses =>
      right
      cases responses with
      | nil =>
          have hsettles := settles_of_answer hown
          rw [List.flatMap_nil, List.nil_append, ← hserving.accounted.manager] at hsettles
          rw [ProcessingStep.perform] at hperform
          cases htrigger : logged.shared.worker.subscriptionEventsCache.triggerMessageHandlers
              request.payload with
          | none =>
              rw [htrigger] at hperform
              cases hperform
              exact hserving.turn rfl (hown.failed rfl none)
          | some requests =>
              obtain ⟨-, rfl⟩ := triggerMessageHandlers_eq_some.mp htrigger
              rw [htrigger] at hperform
              cases hperform
              exact hserving.turn rfl ⟨_, hsettles⟩
      | cons response responses =>
          cases hperform
          apply hserving.after rfl (attempts_sendResponse sender receivedMessage response _) rfl
          obtain ⟨before, after, hbegun, hsent⟩ := hown
          refine ⟨before, after, hbegun, ?_⟩
          rw [LoggedWorker.sending, sentFor_append, sentFor_tagged, List.append_assoc,
            ← List.flatMap_cons]
          exact hsent
  | notify ticket responses =>
      right
      obtain ⟨demand, hsettles⟩ := hown
      cases responses with
      | nil =>
          cases hperform
          apply hserving.goOn hserving.accounted (fun _ _ => rfl)
          · exact fun _ hnone => by cases hnone
          · trivial
          · intro other same hother hticket _
            obtain rfl : ticket = other := Option.some.inj hticket
            obtain rfl : same = demand :=
              Option.some.inj (hother.symm.trans hsettles.getElem?)
            exact hsettles
      | cons response responses =>
          cases hperform
          apply hserving.after rfl (attempts_sendServiceRequest response _) rfl
          obtain ⟨before, since, after, hbegun, hsince, hsent⟩ := hsettles
          refine ⟨demand, before, since, after, hbegun, hsince, ?_⟩
          rw [LoggedWorker.sending, sentFor_append, sentFor_tagged, List.append_assoc,
            ← List.flatMap_cons]
          exact hsent
  | failed ticket error => cases hperform

theorem Serving.of_perm {threads others : List (ProcessingStep TransactionCode)}
    (hserving : Serving surroundings initial errands logged threads)
    (hperm : others.Perm threads) :
    Serving surroundings initial errands logged others where
  accounted := hserving.accounted
  distinct := (hperm.filterMap _).nodup_iff.mpr hserving.distinct
  onTheWay step hmem := hserving.onTheWay step (hperm.mem_iff.mp hmem)
  served ticket demand hdemand hfree := hserving.served ticket demand hdemand
    fun step hmem => hfree step (hperm.mem_iff.mpr hmem)

theorem Serving.poolStep {pool next : ProcessingPool TransactionCode} {happening : Happening}
    (hserving : Serving surroundings initial errands pool.logged pool.threads)
    (hstep : Worker.poolStep surroundings pool happening = some next) :
    ∃ demands : List (Demand TransactionCode), Serving surroundings initial
      (errands ++ demands.map .ofDatagram) next.logged next.threads := by
  cases happening with
  | arrive datagram endpoint =>
      obtain ⟨shared, harrive, rfl⟩ := Option.map_eq_some_iff.mp hstep
      refine ⟨[], ?_⟩
      rw [List.map_nil, List.append_nil]
      exact hserving.receives (receives_arrive harrive)
  | advance thread =>
      obtain ⟨step, hthread, hmove⟩ := Option.bind_eq_some_iff.mp hstep
      obtain ⟨after, hperform, rfl⟩ := Option.map_eq_some_iff.mp hmove
      obtain ⟨others, hbefore, hset⟩ := exists_perm_set hthread
      obtain ⟨demands, hafter⟩ := (hserving.of_perm hbefore.symm).perform hperform
      exact ⟨demands, hafter.of_perm (hset after.2)⟩

/-- What has been processed stays processed. -/
theorem processed_poolStep {pool after : ProcessingPool TransactionCode} {happening : Happening}
    (hstep : Worker.poolStep surroundings pool happening = some after) :
    pool.logged.shared.processed <+: after.logged.shared.processed := by
  cases happening with
  | arrive datagram endpoint =>
      obtain ⟨shared, harrive, rfl⟩ := Option.map_eq_some_iff.mp hstep
      rw [(receives_arrive harrive).processed]
  | advance thread =>
      obtain ⟨step, hthread, hmove⟩ := Option.bind_eq_some_iff.mp hstep
      obtain ⟨⟨next, later⟩, hperform, rfl⟩ := Option.map_eq_some_iff.mp hmove
      cases moves_of_perform hperform with
      | handler hprocess hhandler => rw [(receives_perform hhandler hprocess).processed]
      | takes htakes =>
          rw [htakes.shared]
          exact List.prefix_append _ _
      | serves hidle hkeeps hnext hafter => rw [hnext]

/-- Idle threads of a worker that has sent nothing owe nothing. -/
theorem serving_idle (worker : ContextWorker) {completions : List ℕ} (hsilent : worker.sent = [])
    (threads : ℕ) :
    Serving surroundings worker.manager [] ⟨⟨worker, completions, []⟩, []⟩
      (List.replicate threads (.receiving .idle)) := by
  have hidle : ∀ step ∈ List.replicate threads
      (.receiving .idle : ProcessingStep TransactionCode), step = .receiving .idle :=
    fun step hmem => List.eq_of_mem_replicate hmem
  refine ⟨⟨rfl, rfl, hsilent, ?_⟩, ?_, ?_, ?_⟩
  · exact fun entry hmem => by cases hmem
  · have hnone : (List.replicate threads
        (.receiving .idle : ProcessingStep TransactionCode)).filterMap
        ProcessingStep.ticket = [] := by
      apply List.filterMap_eq_nil_iff.mpr
      intro step hmem
      rw [hidle step hmem]
      rfl
    rw [hnone]
    exact List.nodup_nil
  · intro step hmem
    rw [hidle step hmem]
    trivial
  · exact fun ticket demand hdemand => by cases hdemand

/-- What has been sent for a demand, of whatever thread, is a beginning of what is
due, and all of it where no thread has the demand. -/
theorem Serving.exists_settles {threads : List (ProcessingStep TransactionCode)}
    (hserving : Serving surroundings initial errands logged threads)
    {demand : Demand TransactionCode}
    (hdemand : (errands.filterMap Errand.demanded)[ticket]? = some demand) :
    ∃ rest, Settles surroundings initial errands logged.log ticket demand rest ∧
      ((∀ step ∈ threads, step.ticket ≠ some ticket) → rest = []) := by
  by_cases hworking : ∃ step ∈ threads, step.ticket = some ticket
  · obtain ⟨step, hmem, hticket⟩ := hworking
    obtain ⟨other, rest, hsettles⟩ := (hserving.onTheWay step hmem).failed hticket none
    obtain rfl : demand = other := Option.some.inj (hdemand.symm.trans hsettles.getElem?)
    exact ⟨rest, hsettles, fun hfree => absurd hticket (hfree step hmem)⟩
  · push Not at hworking
    exact ⟨[], hserving.served ticket demand hdemand hworking, fun _ => rfl⟩

end Progress

/-! ## Runs -/

section Runs

variable (surroundings : Surroundings TransactionCode)

/-- The subscriptions that have been accepted. -/
def LoggedWorker.accepted (logged : LoggedWorker) : Accepted :=
  (logged.taken surroundings).flatMap Broker.accepts

/-- At one moment since the processing of the demand has begun these
subscriptions were the accepted ones. -/
structure LoggedWorker.Accepting (logged : LoggedWorker) (ticket : ℕ) (accepted : Accepted) :
    Prop where
  since : ((logged.taken surroundings).take ticket).flatMap Broker.accepts <+: accepted
  now : accepted <+: logged.accepted surroundings

variable [OfNat TransactionCode 19] (broker : Broker)

/-- With the rest behind it, what has been sent for the demand is what the broker
sends. -/
def Serves (logged : LoggedWorker) (ticket : ℕ) (demand : Demand TransactionCode)
    (rest : List (Endpoint × List Byte)) : Prop :=
  ∃ accepted, logged.Accepting surroundings ticket accepted ∧
    sentFor logged.log ticket ++ rest = broker.output surroundings accepted demand

/-- The worker has the accepted subscriptions, and what it has sent is in the log. -/
structure Consistent (logged : LoggedWorker) : Prop where
  holds : Holds broker (logged.accepted surroundings) logged.shared.worker
  sent : logged.shared.worker.sent = logged.log.map Prod.snd
  begun : ∀ entry ∈ logged.log, entry.1 < logged.shared.processed.length

/-- The registry holds the accepted subscriptions, every datagram that is sent is
logged for a datagram whose processing has begun, and what has been sent for one
of these is a beginning of what the broker sends for subscriptions that were the
accepted ones at a moment since: all of it, unless a thread still works on the
datagram or has failed on it. -/
structure Served (pool : ProcessingPool TransactionCode) : Prop where
  consistent : Consistent surroundings broker pool.logged
  each : ∀ ticket demand, (pool.logged.taken surroundings)[ticket]? = some demand →
    ∃ rest, Serves surroundings broker pool.logged ticket demand rest ∧
      ((∀ step ∈ pool.threads, step.ticket ≠ some ticket) → rest = [])

variable {surroundings} {worker : ContextWorker} {logged : LoggedWorker}

/-- Where no event is registered on the way, what is due is what the broker sends. -/
theorem Settles.serves {ticket : ℕ} {demand : Demand TransactionCode}
    {rest : List (Endpoint × List Byte)}
    (hsettles : Settles surroundings worker.manager
      ((logged.taken surroundings).map .ofDatagram) logged.log ticket demand rest) :
    Serves surroundings worker.broker logged ticket demand rest := by
  obtain ⟨before, since, after, ⟨hsplit, hplace⟩, hsince, hsent⟩ := hsettles
  obtain ⟨first, second, htaken, rfl, hsecond⟩ := List.map_eq_append_iff.mp hsplit
  obtain ⟨own, others, rfl, hown, rfl⟩ := List.map_eq_cons_iff.mp hsecond
  obtain rfl : own = demand := Errand.ofDatagram.inj hown
  obtain ⟨seen, hseen, rfl⟩ := List.prefix_map_iff.mp hsince
  rw [Errand.filterMap_demanded] at hplace
  have hlater : first.map Errand.ofDatagram ++ .ofDatagram own :: seen.map .ofDatagram =
      (first ++ own :: seen).map .ofDatagram := by
    rw [List.map_append, List.map_cons]
  rw [hlater, managerFrom_demands, managerFrom_demands] at hsent
  refine ⟨(first ++ own :: seen).flatMap Broker.accepts, ⟨?_, ?_⟩, ?_⟩
  · rw [htaken, List.take_left' hplace]
    exact (List.prefix_append first _).flatMap _
  · rw [LoggedWorker.accepted, htaken]
    apply List.IsPrefix.flatMap
    exact (List.prefix_append_right_inj first).mpr (List.cons_prefix_cons.mpr ⟨rfl, hseen⟩)
  · rw [hsent]
    cases own <;> rfl

/-- The threads serve as the broker where no event is registered on the way. -/
theorem Serving.served_pool {pool : ProcessingPool TransactionCode}
    (hserving : Serving surroundings worker.manager
      ((pool.logged.taken surroundings).map .ofDatagram) pool.logged pool.threads) :
    Served surroundings worker.broker pool := by
  obtain ⟨hmanager, hdemanded, hsent, hbegun⟩ := hserving.accounted
  rw [managerFrom_demands] at hmanager
  constructor
  · exact ⟨⟨congrArg EventManager.messageEventsCache hmanager,
      congrArg EventManager.subscriptionEventsCache hmanager⟩, hsent, hbegun⟩
  · intro ticket demand htaken
    rw [← hdemanded] at htaken
    obtain ⟨rest, hsettles, hfree⟩ := hserving.exists_settles htaken
    exact ⟨rest, hsettles.serves, hfree⟩

/-- In every run of the worker, however the receives, the sections under the locks
and the rounds of the loops interleave, and whatever fails: the threads serve the
datagrams as the broker serves them one after the other. -/
theorem served_of_run (hsilent : worker.sent = []) (threads : ℕ)
    (happenings : List Happening) :
    EveryState (poolStep surroundings) (Served surroundings worker.broker)
      (ProcessingPool.start TransactionCode worker threads) happenings := by
  have hserving : EveryState (poolStep surroundings)
      (fun pool => ∃ errands, errands.filterMap Errand.registered = [] ∧
        Serving surroundings worker.manager errands pool.logged pool.threads)
      (ProcessingPool.start TransactionCode worker threads) happenings := by
    apply everyState_of_step
    · rintro pool happening next ⟨errands, hregistered, hpool⟩ hstep
      obtain ⟨demands, hnext⟩ := hpool.poolStep hstep
      refine ⟨_, ?_, hnext⟩
      rw [List.filterMap_append, hregistered, Errand.filterMap_registered]
      rfl
    · exact ⟨[], rfl, serving_idle worker.startRead hsilent threads⟩
  apply hserving.mono
  rintro pool ⟨errands, hregistered, hpool⟩
  apply Serving.served_pool
  rw [← hpool.accounted.demanded, ← Errand.eq_map_of_registered hregistered]
  exact hpool

end Runs

/-- Module 7 subscribes while the report of module 9 is processed. -/
private def overtakenReport : List Happening :=
  .arrive (Codec.plain.serialize Exchange.reporting) Exchange.client ::
    (List.replicate 5 (.advance 0) ++
      .arrive (Codec.plain.serialize Exchange.subscribing) Exchange.client ::
        (List.replicate 5 (.advance 1) ++ List.replicate 3 (.advance 0)))

set_option maxRecDepth 20000 in
theorem served_overtakenReport : ∃ finish,
    run (poolStep Exchange.directory) (.start UInt32 Exchange.worker 2) overtakenReport =
        some finish ∧
      Served Exchange.directory Exchange.worker.broker finish ∧
      finish.logged.log =
        [(0, ⟨[10, 0, 0, 8], 5000⟩, Codec.plain.serialize Exchange.notification)] := by
  obtain ⟨finish, hrun, hlog⟩ : ∃ finish,
      run (poolStep Exchange.directory) (.start UInt32 Exchange.worker 2) overtakenReport =
          some finish ∧
        finish.logged.log =
          [(0, ⟨[10, 0, 0, 8], 5000⟩, Codec.plain.serialize Exchange.notification)] :=
    ⟨_, rfl, by decide⟩
  exact ⟨finish, hrun, (served_of_run rfl 2 overtakenReport).finish hrun, hlog⟩

end ProcessManagerService.Worker
