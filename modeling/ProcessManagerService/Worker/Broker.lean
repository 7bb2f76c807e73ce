import ProcessManagerService.Worker.Notifications
import ProcessManagerService.Worker.ReceiveInterleaving

/-!
# The worker as a broker

Seen from the modules, the service is a broker: it offers a fixed list of
events, it remembers who has subscribed to which type, and for each request it
answers the sender and notifies the subscribers.  All that changes is the list
of accepted subscriptions.  The worker keeps this list in the subscribers of its
events, and its threads process datagrams in an order of their own; in this
order they do what the broker does.
-/

namespace ProcessManagerService.Worker

open Communication ContextWorker PartialRuns

/-! ## The broker -/

/-- What a datagram asks for. -/
inductive Demand (TransactionCode : Type*) where
  | nothing
  | subscription (moduleIdentifier : Int32) (subscribedType : Text)
  | request (sender : Sender) (receivedMessage : ModuleMessage TransactionCode)
      (request : Request)

/-- The subscriptions that have been accepted, in order. -/
abbrev Accepted := List (Int32 × Text)

/-- The events that the service has registered.  Those for subscriptions may have
subscribers from the start. -/
structure Broker where
  messageEventsCache : MessageEventsCache
  offered : List Subscription

namespace Broker

/-- The modules that have subscribed to a type, in order. -/
def subscribersTo (accepted : Accepted) (messageType : Text) : List Int32 :=
  (accepted.filter fun subscription => subscription.2 = messageType).map Prod.fst

/-- The offered events with those who have subscribed to them. -/
def registry (broker : Broker) (accepted : Accepted) : SubscriptionEventsCache where
  events := broker.offered.map fun event =>
    { event with subscribers := event.subscribers ++ subscribersTo accepted event.messageType }

/-- What the broker accepts with a demand. -/
def accepts {TransactionCode : Type*} : Demand TransactionCode → Accepted
  | .subscription moduleIdentifier subscribedType => [(moduleIdentifier, subscribedType)]
  | .request _ _ _ => []
  | .nothing => []

section Output

variable {TransactionCode : Type*} [OfNat TransactionCode 19]
  (surroundings : Surroundings TransactionCode) (broker : Broker)

/-- What the broker sends for a demand: the answers to the sender, and behind
them the requests to the subscribers. -/
def output (accepted : Accepted) : Demand TransactionCode → List (Endpoint × List Byte)
  | .request sender receivedMessage request =>
      (broker.messageEventsCache.responses sender request.payload).flatMap
          (dueResponse surroundings sender receivedMessage) ++
        (((broker.registry accepted).handlerCalls request.payload).filterMap
          HandlerCall.serviceRequest).flatMap (dueRequest surroundings)
  | .subscription _ _ => []
  | .nothing => []

/-- What the broker sends for demands that come one after the other. -/
def sentFrom (accepted : Accepted) : List (Demand TransactionCode) → List (Endpoint × List Byte)
  | [] => []
  | demand :: demands => broker.output surroundings accepted demand ++
      sentFrom (accepted ++ accepts demand) demands

theorem sentFrom_append (accepted : Accepted) (first second : List (Demand TransactionCode)) :
    broker.sentFrom surroundings accepted (first ++ second) =
      broker.sentFrom surroundings accepted first ++
        broker.sentFrom surroundings (accepted ++ first.flatMap accepts) second := by
  induction first generalizing accepted with
  | nil => rw [List.flatMap_nil, List.append_nil, sentFrom, List.nil_append, List.nil_append]
  | cons demand first ih =>
      rw [List.cons_append, sentFrom, sentFrom, ih, List.flatMap_cons,
        ← List.append_assoc accepted,
        List.append_assoc (broker.output surroundings accepted demand)]

end Output

theorem subscribersTo_append (first second : Accepted) (messageType : Text) :
    subscribersTo (first ++ second) messageType =
      subscribersTo first messageType ++ subscribersTo second messageType := by
  rw [subscribersTo, List.filter_append, List.map_append, subscribersTo, subscribersTo]

theorem registry_nil (broker : Broker) : broker.registry [] = ⟨broker.offered⟩ := by
  rw [registry]
  congr 1
  calc broker.offered.map _
      = broker.offered.map id := by
        apply List.map_congr_left
        intro event _
        exact congrArg (fun subscribers => { event with subscribers }) (List.append_nil _)
    _ = broker.offered := List.map_id _

/-- Accepting a subscription is what `addSubscriber` does. -/
theorem registry_append_singleton (broker : Broker) (accepted : Accepted)
    (moduleIdentifier : Int32) (subscribedType : Text) :
    broker.registry (accepted ++ [(moduleIdentifier, subscribedType)]) =
      (broker.registry accepted).addSubscriber moduleIdentifier subscribedType := by
  rw [registry, SubscriptionEventsCache.addSubscriber, registry, List.map_map]
  congr 1
  apply List.map_congr_left
  intro event _
  rw [subscribersTo_append, Function.comp_apply]
  by_cases htype : event.messageType = subscribedType
  · simp [subscribersTo, htype]
  · simp [subscribersTo, htype, Ne.symm htype]

end Broker

/-! ## One datagram -/

section Refinement

variable {TransactionCode : Type*} (surroundings : Surroundings TransactionCode)

def demandOf (receivedMessageBuffer : List Byte) (senderEndpoint : Endpoint) :
    Demand TransactionCode :=
  match surroundings.codec.parse receivedMessageBuffer with
  | none => .nothing
  | some receivedMessage =>
      let header := surroundings.codec.headerOf receivedMessage
      if header.operationCode = .moduleRequest then
        match receivedMessage.request, receivedMessage.subscriptionRequest with
        | some request, _ =>
            .request ⟨header.senderIdentifier, senderEndpoint⟩ receivedMessage request
        | none, some subscriptionRequest =>
            .subscription header.senderIdentifier subscriptionRequest.subscribedType
        | none, none => .nothing
      else .nothing

/-- The demands of the datagrams that have been processed, in order. -/
def demands (system : ThreadedWorker) : List (Demand TransactionCode) :=
  system.shared.processed.map fun datagram => demandOf surroundings datagram.1 datagram.2

variable {surroundings} in
theorem demands_of_processed {system next : ThreadedWorker} {datagram : List Byte × Endpoint}
    (hprocessed : next.shared.processed = system.shared.processed ++ [datagram]) :
    demands surroundings next =
      demands surroundings system ++ [demandOf surroundings datagram.1 datagram.2] := by
  rw [demands, hprocessed, List.map_append]
  rfl

variable [OfNat TransactionCode 19]

/-- What the worker does for a demand. -/
def meet (worker : ContextWorker) : Demand TransactionCode → Outcome WorkerError ContextWorker
  | .nothing => .returned worker
  | .subscription moduleIdentifier subscribedType => .returned { worker with
      subscriptionEventsCache :=
        worker.subscriptionEventsCache.addSubscriber moduleIdentifier subscribedType }
  | .request sender receivedMessage request =>
      handleRequest surroundings sender receivedMessage request worker

theorem processMessage_eq_meet (receivedMessageBuffer : List Byte) (senderEndpoint : Endpoint)
    (worker : ContextWorker) :
    processMessage surroundings receivedMessageBuffer senderEndpoint worker =
      meet surroundings worker (demandOf surroundings receivedMessageBuffer senderEndpoint) := by
  rw [processMessage, demandOf]
  cases surroundings.codec.parse receivedMessageBuffer with
  | none => rfl
  | some receivedMessage =>
      dsimp only
      split
      · cases receivedMessage.request with
        | some request => rfl
        | none => cases receivedMessage.subscriptionRequest <;> rfl
      · rfl

/-- The worker has the events of the broker, with the subscribers that it has
accepted. -/
structure Holds (broker : Broker) (accepted : Accepted) (worker : ContextWorker) : Prop where
  messageEventsCache : worker.messageEventsCache = broker.messageEventsCache
  registry : worker.subscriptionEventsCache = broker.registry accepted

variable {surroundings}

/-- A demand that the worker meets without a failure is met as by the broker. -/
theorem Holds.meet {broker : Broker} {accepted : Accepted} {worker next : ContextWorker}
    {demand : Demand TransactionCode} (hholds : Holds broker accepted worker)
    (hmeet : Worker.meet surroundings worker demand = .returned next) :
    Holds broker (accepted ++ Broker.accepts demand) next ∧
      next.sent = worker.sent ++ broker.output surroundings accepted demand := by
  cases demand with
  | nothing =>
      cases hmeet
      rw [Broker.accepts, List.append_nil, Broker.output, List.append_nil]
      exact ⟨hholds, rfl⟩
  | subscription moduleIdentifier subscribedType =>
      cases hmeet
      refine ⟨⟨hholds.messageEventsCache, ?_⟩, (List.append_nil _).symm⟩
      rw [Broker.accepts, Broker.registry_append_singleton, ← hholds.registry]
  | request sender receivedMessage request =>
      obtain ⟨-, -, -, rfl⟩ := (handleRequest_eq_returned surroundings).mp hmeet
      rw [Broker.accepts, List.append_nil, Broker.output, ← hholds.messageEventsCache,
        ← hholds.registry]
      exact ⟨⟨hholds.messageEventsCache, hholds.registry⟩, rfl⟩

/-! ## The threads -/

/-- The events of the worker from the start. -/
def ContextWorker.broker (worker : ContextWorker) : Broker :=
  ⟨worker.messageEventsCache, worker.subscriptionEventsCache.events⟩

/-- The step concerns neither the events nor what is sent. -/
structure Untouched (system next : ThreadedWorker) : Prop where
  messageEventsCache :
    next.shared.worker.messageEventsCache = system.shared.worker.messageEventsCache
  subscriptionEventsCache :
    next.shared.worker.subscriptionEventsCache = system.shared.worker.subscriptionEventsCache
  sent : next.shared.worker.sent = system.shared.worker.sent
  processed : next.shared.processed = system.shared.processed

/-- Of all steps only the last one of a handler concerns the broker. -/
theorem untouched_or_processed {system next : ThreadedWorker} {happening : Happening}
    (hhappen : happen surroundings system happening = some next) :
    Untouched system next ∨ ∃ thread receivedMessageBuffer senderEndpoint,
      happening = .advance thread ∧
      system.threads[thread]? = some (.process receivedMessageBuffer senderEndpoint) ∧
      next.shared.worker = (processMessage surroundings receivedMessageBuffer senderEndpoint
        system.shared.worker).state ∧
      next.shared.processed =
        system.shared.processed ++ [(receivedMessageBuffer, senderEndpoint)] := by
  cases happening with
  | arrive datagram endpoint =>
      obtain ⟨shared, harrive, rfl⟩ := Option.map_eq_some_iff.mp hhappen
      rw [SharedWorker.arrive] at harrive
      split at harrive
      · cases harrive
        exact .inl ⟨rfl, rfl, rfl, rfl⟩
      · cases harrive
  | advance thread =>
      obtain ⟨step, hstep, hmove⟩ := Option.bind_eq_some_iff.mp hhappen
      obtain ⟨after, hperform, rfl⟩ := Option.map_eq_some_iff.mp hmove
      cases step with
      | idle =>
          obtain ⟨bytesRead, completions, -, hshared, -⟩ := perform_idle hperform
          rw [hshared]
          exact .inl ⟨rfl, rfl, rfl, rfl⟩
      | process receivedMessageBuffer senderEndpoint =>
          cases hperform
          exact .inr ⟨thread, receivedMessageBuffer, senderEndpoint, rfl, hstep, rfl, rfl⟩
      | _ =>
          cases hperform
          exact .inl ⟨rfl, rfl, rfl, rfl⟩

variable (surroundings)

/-- The step is not the processing of a datagram that fails. -/
def Succeeds (system : ThreadedWorker) : Happening → Prop
  | .arrive _ _ => True
  | .advance thread => ∀ receivedMessageBuffer senderEndpoint,
      system.threads[thread]? = some (.process receivedMessageBuffer senderEndpoint) →
        ∃ next, processMessage surroundings receivedMessageBuffer senderEndpoint
          system.shared.worker = .returned next

/-- The worker has accepted and sent what the broker accepts and sends for the
datagrams that have been processed. -/
structure Refines (broker : Broker) (system : ThreadedWorker) : Prop where
  holds : Holds broker ((demands surroundings system).flatMap Broker.accepts)
    system.shared.worker
  sent : system.shared.worker.sent =
    broker.sentFrom surroundings [] (demands surroundings system)

variable {surroundings}

theorem Refines.happen {broker : Broker} {system next : ThreadedWorker} {happening : Happening}
    (hrefines : Refines surroundings broker system)
    (hsucceeds : Succeeds surroundings system happening)
    (hhappen : Worker.happen surroundings system happening = some next) :
    Refines surroundings broker next := by
  rcases untouched_or_processed hhappen with huntouched |
    ⟨thread, receivedMessageBuffer, senderEndpoint, rfl, hstep, hworker, hprocessed⟩
  · constructor
    · rw [demands, huntouched.processed]
      exact ⟨huntouched.messageEventsCache.trans hrefines.holds.messageEventsCache,
        huntouched.subscriptionEventsCache.trans hrefines.holds.registry⟩
    · rw [demands, huntouched.processed, huntouched.sent]
      exact hrefines.sent
  · obtain ⟨worker, hreturned⟩ := hsucceeds _ _ hstep
    have hsame : next.shared.worker = worker := by
      rw [hworker, hreturned]
      rfl
    rw [processMessage_eq_meet] at hreturned
    obtain ⟨hholds, hsent⟩ := hrefines.holds.meet hreturned
    constructor
    · rw [demands_of_processed hprocessed, List.flatMap_append, List.flatMap_singleton, hsame]
      exact hholds
    · rw [demands_of_processed hprocessed, Broker.sentFrom_append, List.nil_append,
        Broker.sentFrom, Broker.sentFrom, List.append_nil, ← hrefines.sent, hsame]
      exact hsent

theorem refines_start {worker : ContextWorker} (hsilent : worker.sent = []) (threads : ℕ) :
    Refines surroundings worker.broker (.start worker threads) :=
  ⟨⟨rfl, (Broker.registry_nil worker.broker).symm⟩, hsilent⟩

/-- In every run of the worker, however the datagrams and the threads interleave,
as long as no processing fails: with the datagrams in the order in which they
are processed, the registry holds the subscriptions that the broker accepts, and
what has been sent is what the broker sends, request by request. -/
theorem refines_of_run {worker : ContextWorker} (hsilent : worker.sent = []) (threads : ℕ)
    {happenings : List Happening}
    (hsucceeds : EveryStep (happen surroundings) (Succeeds surroundings)
      (.start worker threads) happenings) :
    EveryState (happen surroundings) (Refines surroundings worker.broker)
      (.start worker threads) happenings :=
  everyState_of_everyStep (fun _ _ _ hrefines hguard hhappen => hrefines.happen hguard hhappen)
    (refines_start hsilent threads) hsucceeds

/-- A thread that handles a datagram alone meets the guard if the processing
does not fail. -/
theorem succeeds_handler_alone {worker next : ContextWorker} {threads : List HandlerStep}
    {processed : List (List Byte × Endpoint)} {datagram : List Byte} {endpoint : Endpoint}
    {happenings : List Happening}
    (hreceives : 0 < worker.receives) (hfits : datagram.length ≤ worker.messageBuffer.length)
    (hreturned : receive surroundings datagram endpoint worker = .returned next)
    (hrest : EveryStep (happen surroundings) (Succeeds surroundings)
      ⟨⟨next, [], processed ++ [(datagram, endpoint)]⟩, .idle :: threads⟩ happenings) :
    EveryStep (happen surroundings) (Succeeds surroundings)
      ⟨⟨worker, [], processed⟩, .idle :: threads⟩
      (.arrive datagram endpoint :: (List.replicate 5 (.advance 0) ++ happenings)) := by
  have hcopied : (worker.finishReceive datagram endpoint).messageBuffer.take datagram.length =
      datagram := by
    have htaken := take_messageBuffer_finishReceive datagram endpoint worker
    rwa [Nat.min_eq_left hfits, List.take_of_length_le hfits] at htaken
  have hprocess : processMessage surroundings datagram endpoint
      (worker.finishReceive datagram endpoint).startRead = .returned next := by
    rw [receive, handleReceive, if_neg Bool.false_ne_true, Nat.min_eq_left hfits, hcopied]
      at hreturned
    exact hreturned
  have harrive : happen surroundings ⟨⟨worker, [], processed⟩, .idle :: threads⟩
      (.arrive datagram endpoint) = some ⟨⟨worker.finishReceive datagram endpoint,
        [datagram.length], processed⟩, .idle :: threads⟩ := by
    rw [happen, SharedWorker.arrive, if_pos ⟨hreceives, hfits⟩]
    rfl
  apply EveryStep.cons trivial harrive
  apply EveryStep.cons (fun _ _ hstep => by cases hstep) rfl
  apply EveryStep.cons (fun _ _ hstep => by cases hstep) rfl
  apply EveryStep.cons (fun _ _ hstep => by cases hstep) rfl
  apply EveryStep.cons (fun _ _ hstep => by cases hstep) rfl
  have hlast : happen surroundings
      ⟨⟨(worker.finishReceive datagram endpoint).startRead, [], processed⟩,
        .process ((worker.finishReceive datagram endpoint).messageBuffer.take datagram.length)
          endpoint :: threads⟩ (.advance 0) =
      some ⟨⟨next, [], processed ++ [(datagram, endpoint)]⟩, .idle :: threads⟩ := by
    simp only [happen, HandlerStep.perform, List.getElem?_cons_zero, Option.bind_some,
      Option.map_some, List.set_cons_zero, hcopied, hprocess]
    rfl
  apply EveryStep.cons _ hlast hrest
  intro _ _ hstep
  cases hstep
  rw [hcopied]
  exact ⟨next, hprocess⟩

end Refinement

/-! ## A subscription and a request -/

namespace Exchange

def location : Any := ⟨"t/GPS".toList, [1, 2]⟩

def subscribing : ModuleMessage UInt32 where
  header := some ⟨7, .moduleRequest, 1⟩
  request := none
  subscriptionRequest := some ⟨"GPS".toList⟩

def reporting : ModuleMessage UInt32 where
  header := some ⟨9, .moduleRequest, 2⟩
  request := some ⟨some location⟩
  subscriptionRequest := none

/-- Every module listens at one address. -/
def directory : Surroundings UInt32 where
  codec := .plain
  serviceIdentifier := 0x34000001
  copyFrom _ := none
  findOne identifier := .ok (some [("ModuleIdentifier".toList, .int32 identifier),
    ("ConnectionState".toList, .int32 1), ("IpAddress".toList, .utf8 "10.0.0.8".toList),
    ("Port".toList, .int32 5000)])
  addressFromString _ := some [10, 0, 0, 8]

/-- An event that passes each message on. -/
def worker : ContextWorker :=
  .create ⟨[]⟩ ⟨[⟨0, "GPS".toList, [], ⟨some ⟨fun _ any => (some any, any)⟩⟩⟩]⟩

def client : Endpoint := ⟨[127, 0, 0, 1], 4000⟩

/-- What module 7 is sent for the report. -/
def notification : ModuleMessage UInt32 where
  header := some ⟨0x34000001, .serviceRequest, 19⟩
  request := some ⟨some location⟩
  subscriptionRequest := none

/-- Module 7 subscribes before module 9 reports. -/
def happenings : List Happening :=
  .arrive (Codec.plain.serialize subscribing) client :: (List.replicate 5 (.advance 0) ++
    .arrive (Codec.plain.serialize reporting) client :: (List.replicate 5 (.advance 0) ++ []))

set_option maxRecDepth 20000 in
theorem succeeds : EveryStep (happen directory) (Succeeds directory) (.start worker 2)
    happenings := by
  apply succeeds_handler_alone (by decide) (by decide) rfl
  apply succeeds_handler_alone (by decide) (by decide) rfl
  trivial

end Exchange

set_option maxRecDepth 20000 in
theorem refines_exchange : ∃ finish,
    run (happen Exchange.directory) (.start Exchange.worker 2) Exchange.happenings =
        some finish ∧
      Refines Exchange.directory Exchange.worker.broker finish ∧
      finish.shared.worker.sent =
        [(⟨[10, 0, 0, 8], 5000⟩, Codec.plain.serialize Exchange.notification)] := by
  obtain ⟨finish, hrun, hsent⟩ : ∃ finish,
      run (happen Exchange.directory) (.start Exchange.worker 2) Exchange.happenings =
          some finish ∧
        finish.shared.worker.sent =
          [(⟨[10, 0, 0, 8], 5000⟩, Codec.plain.serialize Exchange.notification)] :=
    ⟨_, rfl, by decide⟩
  exact ⟨finish, hrun, (refines_of_run rfl 2 Exchange.succeeds).finish hrun, hsent⟩

end ProcessManagerService.Worker
