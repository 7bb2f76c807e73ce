import ProcessManagerService.Service.Base
import ProcessManagerService.Watchdog.PingEffects
import ProcessManagerService.Worker.ConcurrentService

/-!
# The parts of a service while it starts

What the handlers of the `io_context` keep of the worker and of the watchdog
connection: the worker has the events that are registered, and without any it
sends nothing; the connection has the session that the first accepted response
has entered, and what it has queued stays queued in front.
-/

namespace ProcessManagerService.Service

open Communication Connection ReadLoop StreamDecoding TimerFrame Watchdog Worker

/-! ## The worker -/

/-- An event without its subscribers. -/
def bare (event : Subscription) : UInt32 × Text × SubscribeEvent :=
  (event.id, event.messageType, event.event)

/-- The events of the worker are those of the registrations.  Modules may have
subscribed to them. -/
structure Registered (registrations : List ManagerCall) (worker : ContextWorker) : Prop where
  messageEventsCache : worker.messageEventsCache =
    (EventManager.afterCalls registrations).messageEventsCache
  subscriptionEvents : worker.subscriptionEventsCache.events.map bare =
    (EventManager.afterCalls registrations).subscriptionEventsCache.events.map bare

/-- Nothing is registered, and nothing has been sent. -/
structure Idle (worker : ContextWorker) : Prop where
  registered : Registered [] worker
  sent : worker.sent = []

/-- The caches differ in the subscribers only. -/
structure Alike (first second : EventManager) : Prop where
  messageEventsCache : first.messageEventsCache = second.messageEventsCache
  subscriptionEvents : first.subscriptionEventsCache.events.map bare =
    second.subscriptionEventsCache.events.map bare

/-- The next identifier of a cache does not depend on the subscribers. -/
theorem getNewEventID_of_bare {first second : SubscriptionEventsCache}
    (hbare : first.events.map bare = second.events.map bare) :
    first.getNewEventID = second.getNewEventID := by
  have hids : first.events.map Subscription.id = second.events.map Subscription.id := by
    have hsame := congrArg (List.map Prod.fst) hbare
    rwa [List.map_map, List.map_map] at hsame
  rw [SubscriptionEventsCache.getNewEventID, SubscriptionEventsCache.getNewEventID,
    firstUnused_eq_firstGap, firstUnused_eq_firstGap, hids]

theorem Alike.perform {first second : EventManager} {registration : ManagerCall}
    (halike : Alike first second) (hkind : registration.kind ≠ none) :
    Alike (first.perform registration).2 (second.perform registration).2 := by
  obtain ⟨hmessage, hbare⟩ := halike
  cases registration with
  | registerNewEventHandler key eventHandler =>
      cases eventHandler with
      | none => exact ⟨hmessage, hbare⟩
      | some handler =>
          refine ⟨?_, hbare⟩
          change MessageEventsCache.mk (first.messageEventsCache.events ++ [_]) =
            ⟨second.messageEventsCache.events ++ [_]⟩
          rw [hmessage]
  | registerNewSubscribtionHandler subscribeType subscriptionEvent =>
      cases subscriptionEvent with
      | none => exact ⟨hmessage, hbare⟩
      | some event =>
          refine ⟨hmessage, ?_⟩
          change (first.subscriptionEventsCache.events ++ [_]).map bare =
            (second.subscriptionEventsCache.events ++ [_]).map bare
          rw [List.map_append, List.map_append, hbare, getNewEventID_of_bare hbare]
  | addSubscriber moduleIdentifier typeUrl => exact absurd rfl hkind
  | addSubscriberById identifier subscribeEventID => exact absurd rfl hkind

theorem Alike.addSubscriber {first second : EventManager} (halike : Alike first second)
    (moduleIdentifier : Int32) (typeUrl : Text) :
    Alike (first.perform (.addSubscriber moduleIdentifier typeUrl)).2 second := by
  refine ⟨halike.messageEventsCache, ?_⟩
  rw [← halike.subscriptionEvents]
  change (first.subscriptionEventsCache.events.map _).map bare = _
  rw [List.map_map]
  apply List.map_congr_left
  intro event _
  rw [Function.comp_apply]
  split <;> rfl

section Worker

variable {TransactionCode : Type*} {errands : List (Errand TransactionCode)}
  {surroundings : Surroundings TransactionCode} {logged : LoggedWorker}

/-- The errands leave the events of the registrations among them. -/
theorem alike_managerFrom (hkind : ∀ registration ∈ errands.filterMap Errand.registered,
      registration.kind ≠ none) :
    Alike (managerFrom .create errands)
      (EventManager.afterCalls (errands.filterMap Errand.registered)) := by
  induction errands using List.reverseRecOn with
  | nil => exact ⟨rfl, rfl⟩
  | append_singleton errands errand ih =>
      rw [List.filterMap_append] at hkind ⊢
      have hbefore := ih fun registration hmem =>
        hkind registration (List.mem_append_left _ hmem)
      rw [managerFrom_append, EventManager.afterCalls, List.foldl_append]
      cases errand with
      | ofTask registration =>
          exact hbefore.perform (hkind registration (List.mem_append_right _ List.mem_cons_self))
      | ofDatagram demand =>
          cases demand with
          | nothing => exact hbefore
          | request sender receivedMessage request => exact hbefore
          | subscription moduleIdentifier subscribedType => exact hbefore.addSubscriber _ _

theorem registered_of_accounted (haccounted : Accounted surroundings .create errands logged)
    (hkind : ∀ registration ∈ errands.filterMap Errand.registered, registration.kind ≠ none) :
    Registered (errands.filterMap Errand.registered) logged.shared.worker := by
  have halike := alike_managerFrom hkind
  rw [← haccounted.manager] at halike
  exact ⟨halike.messageEventsCache, halike.subscriptionEvents⟩

/-- Without a registration there are no events. -/
theorem managerFrom_of_registered_nil (hnone : errands.filterMap Errand.registered = []) :
    managerFrom .create errands = .create := by
  have halike := @alike_managerFrom _ errands (by simp [hnone])
  rw [hnone] at halike
  have hevents := List.map_eq_nil_iff.mp halike.subscriptionEvents
  calc managerFrom .create errands
      = ⟨(managerFrom .create errands).messageEventsCache,
          ⟨(managerFrom .create errands).subscriptionEventsCache.events⟩⟩ := rfl
    _ = .create := by
        rw [halike.messageEventsCache, hevents]
        rfl

variable [OfNat TransactionCode 19] {threads : List (ProcessingStep TransactionCode)}

/-- As long as nothing is registered, nothing is due and nothing has been sent. -/
theorem log_eq_nil_of_serving (hserving : Serving surroundings .create errands logged threads)
    (hnone : errands.filterMap Errand.registered = []) : logged.log = [] := by
  apply List.eq_nil_iff_forall_not_mem.mpr
  intro entry hmem
  have hbound := hserving.accounted.begun entry hmem
  have hlength : (errands.filterMap Errand.demanded).length = logged.shared.processed.length := by
    rw [hserving.accounted.demanded, LoggedWorker.taken, List.length_map]
  rw [← hlength] at hbound
  obtain ⟨demand, hdemand⟩ : ∃ demand,
      (errands.filterMap Errand.demanded)[entry.1]? = some demand :=
    ⟨_, List.getElem?_eq_getElem hbound⟩
  obtain ⟨rest, ⟨before, since, after, hbegun, hsince, hsent⟩, -⟩ :=
    hserving.exists_settles hdemand
  have hnothing : ∀ first, first <+: errands → managerFrom .create first = .create := by
    intro first hbegins
    apply managerFrom_of_registered_nil
    have hregistered := hbegins.filterMap Errand.registered
    rw [hnone] at hregistered
    exact List.prefix_nil.mp hregistered
  have hsilent : due surroundings .create .create demand = [] := by
    cases demand <;> rfl
  rw [hnothing before ⟨_, hbegun.split.symm⟩, hnothing _ (hbegun.isPrefix hsince),
    hsilent] at hsent
  have hown : entry.2 ∈ sentFor logged.log entry.1 :=
    List.mem_map_of_mem (List.mem_filter.mpr ⟨hmem, decide_eq_true rfl⟩)
  rw [(List.append_eq_nil_iff.mp hsent).1] at hown
  cases hown

theorem idle_of_serving (hserving : Serving surroundings .create errands logged threads)
    (hnone : errands.filterMap Errand.registered = []) : Idle logged.shared.worker := by
  constructor
  · have hregistered := registered_of_accounted hserving.accounted (by simp [hnone])
    rwa [hnone] at hregistered
  · rw [hserving.accounted.sent, log_eq_nil_of_serving hserving hnone]
    rfl

end Worker

/-! ## The watchdog connection -/

section Connection

variable {TransactionCode : Type*} (environment : Environment TransactionCode)

def connectRequest : Message Operation :=
  WatchdogConnection.request .connectRequest
    (environment.protobuf.serializeConnectRequest environment.surroundings.serviceIdentifier)

/-- The connection is as it has been made, but for the socket. -/
structure Fresh (object : Recorded Operation WatchdogConnection) : Prop where
  session : object.1.session = ⟨.notConnected, environment.sequenceCode⟩
  log : object.2 = []
  pushed : object.1.base.messagesQueue.pushed = []
  pending : object.1.base.pending = []

/-- The service has asked first, and the session is the one that the first
accepted response has entered. -/
structure Introduced (object : Recorded Operation WatchdogConnection) : Prop where
  session : object.1.session =
    enteredBy environment.protobuf (deliveries object.2) environment.sequenceCode
  first : ∃ rest, object.1.base.messagesQueue.pushed = connectRequest environment :: rest

/-- The watchdog has accepted the service, which has asked for it. -/
structure Accepted (object : Recorded Operation WatchdogConnection) : Prop
    extends Introduced environment object where
  connected : object.1.session.connectionState = .connected

variable {environment} {object next : Recorded Operation WatchdogConnection}

/-- From here to there more messages have been handled, and more have been
queued. -/
def Grows (environment : Environment TransactionCode)
    (object next : Recorded Operation WatchdogConnection) : Prop :=
  ∃ handled messages, Handles environment.protobuf object next handled ∧
    next.1.base.messagesQueue.pushed = object.1.base.messagesQueue.pushed ++ messages

theorem Grows.trans {middle : Recorded Operation WatchdogConnection}
    (hfirst : Grows environment object middle) (hsecond : Grows environment middle next) :
    Grows environment object next := by
  obtain ⟨handled, messages, hhandles, hpushed⟩ := hfirst
  obtain ⟨later, others, hlater, hothers⟩ := hsecond
  refine ⟨handled ++ later, messages ++ others, hhandles.trans hlater, ?_⟩
  rw [hothers, hpushed, List.append_assoc]

/-- Nothing is handled and nothing is queued. -/
theorem Grows.of_base {base : TcpConnection Operation}
    (hpushed : base.messagesQueue.pushed = object.1.base.messagesQueue.pushed) :
    Grows environment object ({ object.1 with base }, object.2) :=
  ⟨[], [], handles_nil.mpr ⟨rfl, rfl⟩, hpushed.trans (List.append_nil _).symm⟩

theorem Grows.refl (object : Recorded Operation WatchdogConnection) :
    Grows environment object object :=
  .of_base rfl

theorem Introduced.grow (hintroduced : Introduced environment object)
    (hgrows : Grows environment object next) : Introduced environment next := by
  obtain ⟨handled, messages, hhandles, hpushed⟩ := hgrows
  obtain ⟨rest, hrest⟩ := hintroduced.first
  constructor
  · rw [hhandles.2, hhandles.1, hintroduced.session, deliveries_append,
      ← deliverAll_eq_enteredBy, ← deliverAll_eq_enteredBy, deliverAll_append]
  · exact ⟨rest ++ messages, by rw [hpushed, hrest, List.cons_append]⟩

theorem Accepted.grow (haccepted : Accepted environment object)
    (hgrows : Grows environment object next) : Accepted environment next := by
  refine ⟨haccepted.toIntroduced.grow hgrows, ?_⟩
  obtain ⟨handled, messages, hhandles, -⟩ := hgrows
  rw [hhandles.2, deliverAll_of_entered]
  · exact haccepted.connected
  · rw [haccepted.connected]
    nofun

/-- A response handler that throws has done its actions before. -/
theorem grows_of_handleReceivedMessage (connection : WatchdogConnection)
    (log : List (Option (Message Operation))) (receivedMessage : Option (Message Operation)) :
    Grows environment (connection, log)
      ((connection.handleReceivedMessage environment.protobuf receivedMessage).state,
        log ++ [receivedMessage]) := by
  obtain ⟨hqueue, hsession⟩ := WatchdogConnection.state_handleReceivedMessage
    environment.protobuf connection receivedMessage
  refine ⟨[receivedMessage], [], ⟨rfl, ?_⟩, ?_⟩
  · rw [deliverAll_singleton]
    exact hsession
  · rw [List.append_nil]
    exact congrArg MessageQueue.pushed hqueue

variable [HeaderLayout Operation]

/-- A member function of the base class, whether or not it is undefined. -/
theorem grows_of_call {member : TcpConnection Operation → Option (TcpConnection Operation)}
    (hmember : ∀ base, member object.1.base = some base →
      base.messagesQueue.pushed = object.1.base.messagesQueue.pushed) :
    Grows environment object ((recorder environment.protobuf).call object member).state := by
  rw [DerivedConnection.call]
  change Grows environment object (Outcome.ofOption object
    ((member object.1.base).map _)).state
  cases hbase : member object.1.base with
  | none => exact .refl object
  | some base => exact .of_base (hmember base hbase)

/-- A message that cannot be sent leaves the connection as it was. -/
theorem returned_or_kept_of_send (object : Recorded Operation WatchdogConnection)
    (message : Message Operation) :
    (∃ after, (object.1.send message).map (fun sent => (sent, object.2)) = .returned after) ∨
      ((object.1.send message).map fun sent => (sent, object.2)).state = object := by
  rw [WatchdogConnection.send]
  cases object.1.base.sendMessage message with
  | none => exact .inr rfl
  | some base => exact .inl ⟨_, rfl⟩

theorem grows_of_send (object : Recorded Operation WatchdogConnection)
    (message : Message Operation) :
    Grows environment object
      ((object.1.send message).map fun sent => (sent, object.2)).state := by
  rcases returned_or_kept_of_send object message with ⟨after, hreturned⟩ | hkept
  · rw [hreturned]
    obtain ⟨sent, hsent, rfl⟩ := Outcome.map_eq_returned.mp hreturned
    obtain ⟨hsession, hqueues, -⟩ := send_effect hsent
    exact ⟨[], [message], handles_nil.mpr ⟨rfl, hsession⟩, hqueues.pushed⟩
  · rw [hkept]
    exact .refl object

/-- A handler of the watchdog connection has queued more messages, or none, however
it ends. -/
theorem grows_of_completion {event : ConnectionEvent Operation}
    {outcome : Outcome ErrorCode (Recorded Operation WatchdogConnection)}
    (hcompletion : Process.completion environment object event = some outcome) :
    Grows environment object outcome.state := by
  cases event with
  | arrive segment =>
      cases hcompletion
      exact .of_base rfl
  | completeRead operation error =>
      obtain ⟨⟨hread, -⟩, houtcome⟩ := Option.ite_none_right_eq_some.mp hcompletion
      cases houtcome
      have hkind : isWait operation = false := by
        have hreads := (List.mem_filter.mp hread).2
        cases operation <;> first | rfl | cases hreads
      rw [completeRead]
      apply Outcome.state_andThen
      · exact grows_of_call fun base hfinish => (silent_of_finishRead hkind hfinish).pushed
      · intro finished hfinished
        cases operation with
        | readHeader =>
            exact hfinished.trans (grows_of_call fun base hpost =>
              (silent_of_postReadMessageHeader hpost).pushed)
        | readBody size =>
            dsimp only
            rw [DerivedConnection.postReadMessageBody]
            cases error with
            | true => exact hfinished.trans (.of_base (silent_disconnect _).pushed)
            | false =>
                apply Outcome.state_andThen
                · apply (hfinished.trans (.of_base rfl)).trans
                  rw [recorder, DerivedConnection.recording, Outcome.state_map]
                  exact grows_of_handleReceivedMessage _ _ _
                · intro handled hhandled
                  exact hhandled.trans (.of_base (silent_startReadingSequence _).pushed)
        | _ => exact hfinished
  | completeWrite operation error =>
      obtain ⟨-, houtcome⟩ := Option.ite_none_right_eq_some.mp hcompletion
      cases houtcome
      exact grows_of_call fun base hcomplete => (silent_of_completeWrite hcomplete).pushed
  | completeWait millisec aborted =>
      obtain ⟨-, houtcome⟩ := Option.ite_none_right_eq_some.mp hcompletion
      cases houtcome
      let waited := (recorder environment.protobuf).update object fun connection =>
        { connection with pending := connection.pending.erase (.timerWait millisec aborted) }
      have hwaited : Grows environment object waited := .of_base rfl
      exact hwaited.trans (grows_of_send waited (pingOf environment.protobuf waited.1.session))
  | _ => cases hcompletion

theorem Introduced.completion {event : ConnectionEvent Operation}
    {outcome : Outcome ErrorCode (Recorded Operation WatchdogConnection)}
    (hintroduced : Introduced environment object)
    (hcompletion : Process.completion environment object event = some outcome) :
    Introduced environment outcome.state :=
  hintroduced.grow (grows_of_completion hcompletion)

theorem Accepted.completion {event : ConnectionEvent Operation}
    {outcome : Outcome ErrorCode (Recorded Operation WatchdogConnection)}
    (haccepted : Accepted environment object)
    (hcompletion : Process.completion environment object event = some outcome) :
    Accepted environment outcome.state :=
  haccepted.grow (grows_of_completion hcompletion)

/-- Without an operation under way nothing completes. -/
theorem Fresh.completion {event : ConnectionEvent Operation}
    {outcome : Outcome ErrorCode (Recorded Operation WatchdogConnection)}
    (hfresh : Fresh environment object)
    (hcompletion : Process.completion environment object event = some outcome) :
    Fresh environment outcome.state := by
  have hnone : ∀ operation : AsyncOperation, operation ∉ object.1.base.pending := by
    intro operation
    rw [hfresh.pending]
    exact List.not_mem_nil
  cases event with
  | arrive segment =>
      cases hcompletion
      exact ⟨hfresh.session, hfresh.log, hfresh.pushed, hfresh.pending⟩
  | completeRead operation error =>
      obtain ⟨hreadable, -⟩ := Option.ite_none_right_eq_some.mp hcompletion
      exact absurd (List.mem_of_mem_filter hreadable.1) (hnone operation)
  | completeWrite operation error =>
      obtain ⟨hpending, -⟩ := Option.ite_none_right_eq_some.mp hcompletion
      exact absurd hpending (hnone operation)
  | completeWait millisec aborted =>
      obtain ⟨hpending, -⟩ := Option.ite_none_right_eq_some.mp hcompletion
      exact absurd hpending (hnone _)
  | _ => cases hcompletion

theorem Fresh.introduced {sent : WatchdogConnection} (hfresh : Fresh environment object)
    (hsent : object.1.sendConnectRequest environment.protobuf
      environment.surroundings.serviceIdentifier = .returned sent) :
    Introduced environment (sent, object.2) := by
  obtain ⟨hsession, hqueues, -⟩ := send_effect hsent
  constructor
  · rw [hsession, hfresh.session, hfresh.log]
    rfl
  · refine ⟨[], ?_⟩
    rw [hqueues.pushed, hfresh.pushed]
    rfl

end Connection

end ProcessManagerService.Service
