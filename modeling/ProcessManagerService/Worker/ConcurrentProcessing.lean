import ProcessManagerService.Worker.BrokerDelivery

/-!
# Processing on several threads

`processMessage` is no single step: while one thread answers a request and
notifies the subscribers, others process datagrams of their own.  Here each
section under a lock of the caches is a step, and so is each round of the two
loops that send.  A thread that is left alone still does what `processMessage`
does.
-/

namespace ProcessManagerService.Worker

open Communication ContextWorker PartialRuns

variable {TransactionCode : Type*}

/-- Where a thread is.  The ticket of a datagram is its place in the order in
which processing begins; `failed` is a thread that an exception has ended, or
undefined behaviour where there is none. -/
inductive ProcessingStep (TransactionCode : Type*) where
  | receiving (step : HandlerStep)
  | answer (ticket : ℕ) (sender : Sender) (receivedMessage : ModuleMessage TransactionCode)
      (request : Request) (responses : List Any)
  | notify (ticket : ℕ) (responses : List (Int32 × Any))
  | failed (ticket : ℕ) (error : Option WorkerError)

/-- The datagram on which the thread works. -/
def ProcessingStep.ticket : ProcessingStep TransactionCode → Option ℕ
  | receiving _ => none
  | answer ticket _ _ _ _ => some ticket
  | notify ticket _ => some ticket
  | failed ticket _ => some ticket

/-- The thread has no handler. -/
def ProcessingStep.isIdle : ProcessingStep TransactionCode → Bool
  | receiving .idle => true
  | _ => false

/-- What the threads share.  `processed` holds the datagrams whose processing has
begun, and the log tells for which of them a datagram was sent. -/
structure LoggedWorker where
  shared : SharedWorker
  log : List (ℕ × Endpoint × List Byte)

structure ProcessingPool (TransactionCode : Type*) where
  logged : LoggedWorker
  threads : List (ProcessingStep TransactionCode)

/-- A round of a loop, and where it leaves the thread. -/
def LoggedWorker.after (logged : LoggedWorker) (ticket : ℕ)
    (outcome : Outcome WorkerError ContextWorker) (next : ProcessingStep TransactionCode) :
    LoggedWorker × ProcessingStep TransactionCode :=
  let sent := outcome.state.sent.drop logged.shared.worker.sent.length
  (⟨{ logged.shared with worker := outcome.state },
      logged.log ++ sent.map fun datagram => (ticket, datagram)⟩,
    match outcome with
    | .returned _ => next
    | .thrown error _ => .failed ticket (some error)
    | .undefined _ => .failed ticket none)

/-- The processing of the datagram has begun, and the worker is now this one. -/
def LoggedWorker.begun (logged : LoggedWorker) (datagram : List Byte × Endpoint)
    (worker : ContextWorker) : LoggedWorker where
  shared := ⟨worker, logged.shared.completions, logged.shared.processed ++ [datagram]⟩
  log := logged.log

section Steps

variable (surroundings : Surroundings TransactionCode)

/-- The processing up to the first section under a lock: the parsing touches
nothing that is shared. -/
def LoggedWorker.takeUp (logged : LoggedWorker) (receivedMessageBuffer : List Byte)
    (senderEndpoint : Endpoint) : LoggedWorker × ProcessingStep TransactionCode :=
  let worker := logged.shared.worker
  let ticket := logged.shared.processed.length
  let begun := logged.begun (receivedMessageBuffer, senderEndpoint)
  match demandOf surroundings receivedMessageBuffer senderEndpoint with
  | .nothing => (begun worker, .receiving .idle)
  | .subscription moduleIdentifier subscribedType =>
      (begun { worker with subscriptionEventsCache :=
          worker.subscriptionEventsCache.addSubscriber moduleIdentifier subscribedType },
        .receiving .idle)
  | .request sender receivedMessage request =>
      match worker.messageEventsCache.triggerMessageHandlers sender request.payload with
      | none => (begun worker, .failed ticket none)
      | some responses => (begun worker, .answer ticket sender receivedMessage request responses)

variable [OfNat TransactionCode 19]

def ProcessingStep.perform (logged : LoggedWorker) :
    ProcessingStep TransactionCode → Option (LoggedWorker × ProcessingStep TransactionCode)
  | receiving (.process receivedMessageBuffer senderEndpoint) =>
      some (logged.takeUp surroundings receivedMessageBuffer senderEndpoint)
  | receiving step => (step.perform surroundings logged.shared).map fun next =>
      ({ logged with shared := next.1 }, receiving next.2)
  | answer ticket sender receivedMessage request (response :: responses) =>
      some (logged.after ticket
        (sendResponse surroundings sender receivedMessage response logged.shared.worker)
        (answer ticket sender receivedMessage request responses))
  | answer ticket _ _ request [] =>
      match logged.shared.worker.subscriptionEventsCache.triggerMessageHandlers
          request.payload with
      | none => some (logged, failed ticket none)
      | some responses => some (logged, notify ticket responses)
  | notify ticket (response :: responses) =>
      some (logged.after ticket (sendServiceRequest surroundings response logged.shared.worker)
        (notify ticket responses))
  | notify _ [] => some (logged, receiving .idle)
  | failed _ _ => none

def poolStep (pool : ProcessingPool TransactionCode) :
    Happening → Option (ProcessingPool TransactionCode)
  | .arrive datagram endpoint =>
      (pool.logged.shared.arrive datagram endpoint).map fun shared =>
        { pool with logged := { pool.logged with shared := shared } }
  | .advance thread => pool.threads[thread]?.bind fun step =>
      (step.perform surroundings pool.logged).map fun next =>
        ⟨next.1, pool.threads.set thread next.2⟩

end Steps

/-- The worker as it starts, with idle threads. -/
def ProcessingPool.start (TransactionCode : Type*) (worker : ContextWorker) (threads : ℕ) :
    ProcessingPool TransactionCode :=
  ⟨⟨⟨worker.startRead, [], []⟩, []⟩, List.replicate threads (.receiving .idle)⟩

/-! ## A thread alone -/

section Alone

variable {surroundings : Surroundings TransactionCode} [OfNat TransactionCode 19]

/-- By steps of its own the thread comes to this step, with this worker. -/
def GetsTo (surroundings : Surroundings TransactionCode) (thread : ℕ)
    (pool : ProcessingPool TransactionCode) (step : ProcessingStep TransactionCode)
    (worker : ContextWorker) : Prop :=
  ∃ steps finish,
    run (poolStep surroundings) pool (List.replicate steps (.advance thread)) = some finish ∧
      finish.threads[thread]? = some step ∧ finish.logged.shared.worker = worker

theorem GetsTo.advance {thread : ℕ} {pool : ProcessingPool TransactionCode}
    {step after finish : ProcessingStep TransactionCode} {next : LoggedWorker}
    {worker : ContextWorker} (hthread : pool.threads[thread]? = some step)
    (hperform : step.perform surroundings pool.logged = some (next, after))
    (hgets : GetsTo surroundings thread ⟨next, pool.threads.set thread after⟩ finish worker) :
    GetsTo surroundings thread pool finish worker := by
  obtain ⟨steps, last, hrun, hlast⟩ := hgets
  refine ⟨steps + 1, last, ?_, hlast⟩
  have hstep : poolStep surroundings pool (.advance thread) =
      some ⟨next, pool.threads.set thread after⟩ := by
    rw [poolStep, hthread, Option.bind_some, hperform, Option.map_some]
  rw [List.replicate_succ, run_cons, hstep, Option.bind_some, hrun]

theorem getsTo_here {thread : ℕ} {pool : ProcessingPool TransactionCode}
    {step : ProcessingStep TransactionCode} (hthread : pool.threads[thread]? = some step) :
    GetsTo surroundings thread pool step pool.logged.shared.worker :=
  ⟨0, pool, rfl, hthread, rfl⟩

omit [OfNat TransactionCode 19] in
theorem getElem?_set_of_some {thread : ℕ} {threads : List (ProcessingStep TransactionCode)}
    {step : ProcessingStep TransactionCode} (hthread : threads[thread]? = some step)
    (after : ProcessingStep TransactionCode) :
    (threads.set thread after)[thread]? = some after := by
  obtain ⟨hbound, -⟩ := List.getElem?_eq_some_iff.mp hthread
  rw [List.getElem?_set_self hbound]

/-- A thread that is left alone goes through a loop as the loop runs, and then on
from where the loop has returned. -/
theorem getsTo_of_forEach {Item : Type*} {thread ticket : ℕ}
    {stage : List Item → ProcessingStep TransactionCode}
    {body : Item → ContextWorker → Outcome WorkerError ContextWorker}
    (hround : ∀ item items logged, (stage (item :: items)).perform surroundings logged =
      some (logged.after ticket (body item logged.shared.worker) (stage items)))
    {next : ContextWorker → Outcome WorkerError ContextWorker}
    (hnext : ∀ pool : ProcessingPool TransactionCode,
      pool.threads[thread]? = some (stage []) →
        ∃ finish, GetsTo surroundings thread pool finish
          (next pool.logged.shared.worker).state)
    (items : List Item) (pool : ProcessingPool TransactionCode)
    (hthread : pool.threads[thread]? = some (stage items)) :
    ∃ finish, GetsTo surroundings thread pool finish
      ((Outcome.forEach body items pool.logged.shared.worker).andThen next).state := by
  induction items generalizing pool with
  | nil => exact hnext pool hthread
  | cons item items ih =>
      have hset := getElem?_set_of_some hthread
      have hperform := hround item items pool.logged
      rw [Outcome.forEach]
      cases hbody : body item pool.logged.shared.worker with
      | returned worker =>
          rw [hbody] at hperform
          obtain ⟨finish, hgets⟩ := ih ⟨(pool.logged.after ticket (.returned worker)
            (stage items)).1, pool.threads.set thread (stage items)⟩ (hset _)
          exact ⟨finish, GetsTo.advance hthread hperform hgets⟩
      | thrown error worker =>
          rw [hbody] at hperform
          exact ⟨_, GetsTo.advance hthread hperform (getsTo_here (hset _))⟩
      | undefined worker =>
          rw [hbody] at hperform
          exact ⟨_, GetsTo.advance hthread hperform (getsTo_here (hset _))⟩

/-- The section under the lock of the subscriptions, and the loop behind it. -/
theorem getsTo_handleSubscriptions {thread ticket : ℕ}
    {pool : ProcessingPool TransactionCode} {sender : Sender}
    {receivedMessage : ModuleMessage TransactionCode} {request : Request}
    (hthread : pool.threads[thread]? = some (.answer ticket sender receivedMessage request [])) :
    ∃ finish, GetsTo surroundings thread pool finish
      (handleSubscriptions surroundings request.payload pool.logged.shared.worker).state := by
  have hset := getElem?_set_of_some hthread
  rw [handleSubscriptions]
  cases htrigger : pool.logged.shared.worker.subscriptionEventsCache.triggerMessageHandlers
      request.payload with
  | none =>
      have hperform : (ProcessingStep.answer ticket sender receivedMessage request []).perform
          surroundings pool.logged = some (pool.logged, .failed ticket none) := by
        rw [ProcessingStep.perform, htrigger]
      exact ⟨_, GetsTo.advance hthread hperform (getsTo_here (hset _))⟩
  | some responses =>
      have hperform : (ProcessingStep.answer ticket sender receivedMessage request []).perform
          surroundings pool.logged = some (pool.logged, .notify ticket responses) := by
        rw [ProcessingStep.perform, htrigger]
      have hend : ∀ last : ProcessingPool TransactionCode,
          last.threads[thread]? = some (.notify ticket []) →
            ∃ finish, GetsTo surroundings thread last finish
              (Outcome.returned last.logged.shared.worker : Outcome WorkerError _).state :=
        fun last hlast => ⟨_, getsTo_here hlast⟩
      obtain ⟨finish, hgets⟩ := getsTo_of_forEach (fun _ _ _ => rfl) hend responses
        ⟨pool.logged, pool.threads.set thread (.notify ticket responses)⟩ (hset _)
      refine ⟨finish, GetsTo.advance hthread hperform ?_⟩
      have hreturn : ∀ outcome : Outcome WorkerError ContextWorker,
          (outcome.andThen .returned).state = outcome.state := by
        intro outcome
        cases outcome <;> rfl
      rwa [hreturn] at hgets

/-- A thread that is left alone does to the worker what `processMessage` does. -/
theorem getsTo_processMessage {thread : ℕ} {pool : ProcessingPool TransactionCode}
    {receivedMessageBuffer : List Byte} {senderEndpoint : Endpoint}
    (hthread : pool.threads[thread]? =
      some (.receiving (.process receivedMessageBuffer senderEndpoint))) :
    ∃ finish, GetsTo surroundings thread pool finish
      (processMessage surroundings receivedMessageBuffer senderEndpoint
        pool.logged.shared.worker).state := by
  let begun := pool.logged.takeUp surroundings receivedMessageBuffer senderEndpoint
  have hset := getElem?_set_of_some hthread begun.2
  suffices hgets : ∃ finish, GetsTo surroundings thread
      ⟨begun.1, pool.threads.set thread begun.2⟩ finish
      (processMessage surroundings receivedMessageBuffer senderEndpoint
        pool.logged.shared.worker).state by
    obtain ⟨finish, hfinish⟩ := hgets
    exact ⟨finish, GetsTo.advance hthread rfl hfinish⟩
  rw [processMessage_eq_meet]
  simp only [begun, LoggedWorker.takeUp] at hset ⊢
  cases hdemand : demandOf surroundings receivedMessageBuffer senderEndpoint with
  | nothing =>
      rw [hdemand] at hset
      exact ⟨_, getsTo_here hset⟩
  | subscription moduleIdentifier subscribedType =>
      rw [hdemand] at hset
      exact ⟨_, getsTo_here hset⟩
  | request sender receivedMessage request =>
      rw [hdemand] at hset
      simp only [MessageEventsCache.triggerMessageHandlers_eq] at hset ⊢
      rw [meet, handleRequest, MessageEventsCache.triggerMessageHandlers_eq]
      exact getsTo_of_forEach (fun _ _ _ => rfl) (fun _ => getsTo_handleSubscriptions) _ _ hset

end Alone

/-! ## The receive -/

/-- What the thread does for the receive.  A thread that processes a datagram has
nothing more to do with it. -/
def ProcessingStep.handlerStep : ProcessingStep TransactionCode → HandlerStep
  | receiving step => step
  | _ => .idle

section Receive

variable {surroundings : Surroundings TransactionCode} {logged next : LoggedWorker}
  {step after : ProcessingStep TransactionCode}

/-- Processing begins with one more processed datagram, and keeps the receive. -/
structure Takes (logged : LoggedWorker) (datagram : List Byte × Endpoint)
    (taken : LoggedWorker × ProcessingStep TransactionCode) : Prop where
  shared : taken.1.shared = ⟨taken.1.shared.worker, logged.shared.completions,
    logged.shared.processed ++ [datagram]⟩
  keeps : KeepsReceiving logged.shared.worker taken.1.shared.worker
  handlerStep : taken.2.handlerStep = .idle

theorem takes_takeUp (receivedMessageBuffer : List Byte) (senderEndpoint : Endpoint) :
    Takes logged (receivedMessageBuffer, senderEndpoint)
      (logged.takeUp surroundings receivedMessageBuffer senderEndpoint) := by
  rw [LoggedWorker.takeUp]
  cases demandOf surroundings receivedMessageBuffer senderEndpoint with
  | nothing => exact ⟨rfl, .refl _, rfl⟩
  | subscription moduleIdentifier subscribedType => exact ⟨rfl, ⟨rfl, rfl, rfl⟩, rfl⟩
  | request sender receivedMessage request =>
      dsimp only
      cases logged.shared.worker.messageEventsCache.triggerMessageHandlers sender
          request.payload with
      | none => exact ⟨rfl, .refl _, rfl⟩
      | some responses => exact ⟨rfl, .refl _, rfl⟩

theorem shared_after (logged : LoggedWorker) (step : ProcessingStep TransactionCode) (ticket : ℕ)
    (outcome : Outcome WorkerError ContextWorker) :
    (logged.after ticket outcome step).1.shared =
        { logged.shared with worker := outcome.state } ∧
      (step.handlerStep = .idle →
        (logged.after ticket outcome step).2.handlerStep = .idle) := by
  cases outcome with
  | returned worker => exact ⟨rfl, id⟩
  | thrown error worker => exact ⟨rfl, fun _ => rfl⟩
  | undefined worker => exact ⟨rfl, fun _ => rfl⟩

variable [OfNat TransactionCode 19]

/-- The inversion lemma of the receive: a thread makes a step of its receive handler,
takes a datagram up, or goes on with the one that it has taken up. -/
inductive Moves (surroundings : Surroundings TransactionCode) (logged : LoggedWorker) :
    ProcessingStep TransactionCode → LoggedWorker → ProcessingStep TransactionCode → Prop where
  | handler {handler later : HandlerStep} {shared : SharedWorker}
      (hprocess : ∀ receivedMessageBuffer senderEndpoint,
        handler ≠ .process receivedMessageBuffer senderEndpoint)
      (hperform : handler.perform surroundings logged.shared = some (shared, later)) :
      Moves surroundings logged (.receiving handler) { logged with shared } (.receiving later)
  | takes {receivedMessageBuffer : List Byte} {senderEndpoint : Endpoint} {next : LoggedWorker}
      {after : ProcessingStep TransactionCode}
      (htakes : Takes logged (receivedMessageBuffer, senderEndpoint) (next, after)) :
      Moves surroundings logged (.receiving (.process receivedMessageBuffer senderEndpoint)) next
        after
  | serves {step after : ProcessingStep TransactionCode} {next : LoggedWorker}
      {worker : ContextWorker} (hstep : step.handlerStep = .idle)
      (hkeeps : KeepsReceiving logged.shared.worker worker)
      (hnext : next.shared = { logged.shared with worker }) (hafter : after.handlerStep = .idle) :
      Moves surroundings logged step next after

theorem moves_of_perform (hperform : step.perform surroundings logged = some (next, after)) :
    Moves surroundings logged step next after := by
  cases step with
  | receiving step =>
      by_cases hprocess : ∃ receivedMessageBuffer senderEndpoint,
          step = .process receivedMessageBuffer senderEndpoint
      · obtain ⟨receivedMessageBuffer, senderEndpoint, rfl⟩ := hprocess
        have htakes : Takes logged _
            (logged.takeUp surroundings receivedMessageBuffer senderEndpoint) := takes_takeUp _ _
        rw [ProcessingStep.perform, Option.some.injEq] at hperform
        rw [hperform] at htakes
        exact .takes htakes
      · push Not at hprocess
        rw [ProcessingStep.perform] at hperform
        · obtain ⟨⟨shared, later⟩, hhandler, hsame⟩ := Option.map_eq_some_iff.mp hperform
          cases hsame
          exact .handler hprocess hhandler
        · exact hprocess
  | answer ticket sender receivedMessage request responses =>
      cases responses with
      | nil =>
          rw [ProcessingStep.perform] at hperform
          cases htrigger : logged.shared.worker.subscriptionEventsCache.triggerMessageHandlers
              request.payload with
          | none =>
              rw [htrigger] at hperform
              cases hperform
              exact .serves rfl (.refl _) rfl rfl
          | some requests =>
              rw [htrigger] at hperform
              cases hperform
              exact .serves rfl (.refl _) rfl rfl
      | cons response responses =>
          cases hperform
          have hkeeps := (KeepsReceiving.refl logged.shared.worker).sendResponse surroundings
            sender receivedMessage response
          obtain ⟨hshared, hafter⟩ := shared_after logged
            (.answer ticket sender receivedMessage request responses) ticket
            (sendResponse surroundings sender receivedMessage response logged.shared.worker)
          exact .serves rfl hkeeps hshared (hafter rfl)
  | notify ticket responses =>
      cases responses with
      | nil =>
          cases hperform
          exact .serves rfl (.refl _) rfl rfl
      | cons response responses =>
          cases hperform
          have hkeeps := (KeepsReceiving.refl logged.shared.worker).sendServiceRequest surroundings
            response
          obtain ⟨hshared, hafter⟩ := shared_after logged (.notify ticket responses) ticket
            (sendServiceRequest surroundings response logged.shared.worker)
          exact .serves rfl hkeeps hshared (hafter rfl)
  | failed ticket error => cases hperform

/-- What has been processed and what is in flight are the datagrams that have
arrived, in the pool as well. -/
theorem Conserves.poolStep {pool after : ProcessingPool TransactionCode} {happening : Happening}
    {received : List (List Byte × Endpoint)}
    (hconserves : Conserves pool.logged.shared (pool.threads.map ProcessingStep.handlerStep)
      received)
    (hstep : Worker.poolStep surroundings pool happening = some after) :
    Conserves after.logged.shared (after.threads.map ProcessingStep.handlerStep)
      (received ++ arrivals [happening]) := by
  cases happening with
  | arrive datagram endpoint =>
      obtain ⟨shared, harrive, rfl⟩ := Option.map_eq_some_iff.mp hstep
      exact hconserves.arrive harrive
  | advance thread =>
      obtain ⟨step, hthread, hmove⟩ := Option.bind_eq_some_iff.mp hstep
      obtain ⟨⟨next, later⟩, hperform, rfl⟩ := Option.map_eq_some_iff.mp hmove
      obtain ⟨others, hbefore, hset⟩ := exists_perm_set hthread
      have hown := hconserves.of_perm ((hbefore.map ProcessingStep.handlerStep).symm)
      have hreceived : received ++ arrivals [.advance thread] = received :=
        List.append_nil received
      rw [hreceived]
      refine Conserves.of_perm ?_ ((hset later).map ProcessingStep.handlerStep)
      cases moves_of_perform hperform with
      | handler hprocess hhandler => exact Conserves.perform hown hhandler
      | takes htakes =>
          have htaken := (Conserves.process hown).keeps htakes.keeps
          rw [List.map_cons, htakes.handlerStep, htakes.shared]
          exact htaken
      | serves hidle hkeeps hnext hafter =>
          rw [List.map_cons, hidle] at hown
          rw [List.map_cons, hafter, hnext]
          exact hown.keeps hkeeps

theorem length_threads_poolStep {pool after : ProcessingPool TransactionCode}
    {happening : Happening} (hstep : poolStep surroundings pool happening = some after) :
    after.threads.length = pool.threads.length := by
  cases happening with
  | arrive datagram endpoint =>
      obtain ⟨shared, -, rfl⟩ := Option.map_eq_some_iff.mp hstep
      rfl
  | advance thread =>
      obtain ⟨step, -, hmove⟩ := Option.bind_eq_some_iff.mp hstep
      obtain ⟨later, -, rfl⟩ := Option.map_eq_some_iff.mp hmove
      exact List.length_set

theorem messageBuffer_perform {shared later : SharedWorker} {handler other : HandlerStep}
    (hperform : handler.perform surroundings shared = some (later, other)) :
    later.worker.messageBuffer = shared.worker.messageBuffer := by
  cases handler with
  | idle =>
      obtain ⟨bytesRead, completions, -, rfl, -⟩ := perform_idle hperform
      rfl
  | process receivedMessageBuffer senderEndpoint =>
      cases hperform
      exact (keepsReceiving_processMessage surroundings _ _ _).messageBuffer
  | _ =>
      cases hperform
      rfl

/-- The buffer keeps its size. -/
theorem length_messageBuffer_poolStep {pool after : ProcessingPool TransactionCode}
    {happening : Happening} (hstep : poolStep surroundings pool happening = some after) :
    after.logged.shared.worker.messageBuffer.length =
      pool.logged.shared.worker.messageBuffer.length := by
  cases happening with
  | arrive datagram endpoint =>
      obtain ⟨shared, harrive, rfl⟩ := Option.map_eq_some_iff.mp hstep
      obtain ⟨⟨-, hfits⟩, harrive⟩ := Option.ite_none_right_eq_some.mp harrive
      cases harrive
      change (datagram.take pool.logged.shared.worker.messageBuffer.length ++
        pool.logged.shared.worker.messageBuffer.drop datagram.length).length = _
      rw [List.length_append, List.length_take, List.length_drop]
      omega
  | advance thread =>
      obtain ⟨step, hthread, hmove⟩ := Option.bind_eq_some_iff.mp hstep
      obtain ⟨⟨next, later⟩, hperform, rfl⟩ := Option.map_eq_some_iff.mp hmove
      apply congrArg List.length
      cases moves_of_perform hperform with
      | handler hprocess hhandler => exact messageBuffer_perform hhandler
      | takes htakes => exact htakes.keeps.messageBuffer
      | serves hidle hkeeps hnext hafter =>
          rw [hnext]
          exact hkeeps.messageBuffer

end Receive

/-! ## The end of a handler -/

section Rank

/-- How far a thread is from the end of its handler: the stage, and the rounds of its
loop that remain. -/
def ProcessingStep.rank : ProcessingStep TransactionCode → ℕ × ℕ
  | receiving .idle => (0, 0)
  | receiving (.copyBuffer _) => (6, 0)
  | receiving (.copyEndpoint _) => (5, 0)
  | receiving (.startRead _ _) => (4, 0)
  | receiving (.process _ _) => (3, 0)
  | answer _ _ _ _ responses => (2, responses.length)
  | notify _ responses => (1, responses.length)
  | failed _ _ => (0, 0)

variable {surroundings : Surroundings TransactionCode} {logged next : LoggedWorker}
  {step after : ProcessingStep TransactionCode}

/-- A round of a loop leaves fewer rounds, or fails. -/
theorem rank_after (logged : LoggedWorker) {ticket stage rounds : ℕ} (hstage : 0 < stage)
    (outcome : Outcome WorkerError ContextWorker) (hrank : step.rank = (stage, rounds)) :
    Prod.Lex (· < ·) (· < ·) (logged.after ticket outcome step).2.rank
      (stage, rounds + 1) := by
  cases outcome with
  | returned worker =>
      change Prod.Lex _ _ step.rank _
      rw [hrank]
      exact .right stage (Nat.lt_succ_self rounds)
  | thrown error worker => exact .left _ _ hstage
  | undefined worker => exact .left _ _ hstage

variable [OfNat TransactionCode 19]

/-- Every step of a handler brings it closer to its end, whatever the other threads
have done in between. -/
theorem rank_perform (hbusy : step.isIdle = false)
    (hperform : step.perform surroundings logged = some (next, after)) :
    Prod.Lex (· < ·) (· < ·) after.rank step.rank := by
  cases step with
  | receiving step =>
      cases step with
      | idle => cases hbusy
      | copyBuffer bytesRead =>
          cases hperform
          exact .left 0 0 (Nat.lt_succ_self 5)
      | copyEndpoint receivedMessageBuffer =>
          cases hperform
          exact .left 0 0 (Nat.lt_succ_self 4)
      | startRead receivedMessageBuffer senderEndpoint =>
          cases hperform
          exact .left 0 0 (Nat.lt_succ_self 3)
      | process receivedMessageBuffer senderEndpoint =>
          rw [ProcessingStep.perform, Option.some.injEq, LoggedWorker.takeUp] at hperform
          cases hdemand : demandOf surroundings receivedMessageBuffer senderEndpoint with
          | nothing =>
              rw [hdemand] at hperform
              cases hperform
              exact .left 0 0 (Nat.succ_pos 2)
          | subscription moduleIdentifier subscribedType =>
              rw [hdemand] at hperform
              cases hperform
              exact .left 0 0 (Nat.succ_pos 2)
          | request sender receivedMessage request =>
              simp only [hdemand, MessageEventsCache.triggerMessageHandlers_eq] at hperform
              cases hperform
              exact .left _ 0 (Nat.lt_succ_self 2)
  | answer ticket sender receivedMessage request responses =>
      cases responses with
      | cons response responses =>
          cases hperform
          exact rank_after logged Nat.two_pos _ rfl
      | nil =>
          rw [ProcessingStep.perform] at hperform
          split at hperform
          · cases hperform
            exact .left 0 0 Nat.two_pos
          · cases hperform
            exact .left _ 0 Nat.one_lt_two
  | notify ticket responses =>
      cases responses with
      | cons response responses =>
          cases hperform
          exact rank_after logged Nat.one_pos _ rfl
      | nil =>
          cases hperform
          exact .left 0 0 Nat.one_pos
  | failed ticket error => cases hperform

/-- A thread with a handler can make its next step, unless it has failed. -/
theorem exists_perform (surroundings : Surroundings TransactionCode)
    (hbusy : step.isIdle = false) (hgoes : ∀ ticket error, step ≠ .failed ticket error)
    (logged : LoggedWorker) : ∃ next, step.perform surroundings logged = some next := by
  cases step with
  | receiving step =>
      cases step with
      | idle => cases hbusy
      | _ => exact ⟨_, rfl⟩
  | answer ticket sender receivedMessage request responses =>
      cases responses with
      | cons response responses => exact ⟨_, rfl⟩
      | nil =>
          rw [ProcessingStep.perform]
          split
          · exact ⟨_, rfl⟩
          · exact ⟨_, rfl⟩
  | notify ticket responses =>
      cases responses with
      | cons response responses => exact ⟨_, rfl⟩
      | nil => exact ⟨_, rfl⟩
  | failed ticket error => exact absurd rfl (hgoes ticket error)

end Rank

end ProcessManagerService.Worker
