import ProcessManagerService.Worker.Broker

/-!
# Who is notified

What the modules can rely on, over whole runs of the worker.  Nothing is sent
without a cause: every datagram answers a request that has been processed, or
notifies a module that is registered with an offered event.  This holds even
where processing fails.  And the subscribers of a request are notified in a
fixed order, each as often as it has subscribed before.
-/

namespace ProcessManagerService.Worker

open Communication ContextWorker PartialRuns SubscriptionEventsCache

variable {TransactionCode : Type*} [OfNat TransactionCode 19]
  (surroundings : Surroundings TransactionCode)

/-! ## Causes -/

/-- A datagram that is sent for a demand once these subscriptions have been
accepted: a response to the sender, if a handler answers it, or a request that
carries what a handler has answered to a module that is registered. -/
inductive SentFor (broker : Broker) (accepted : Accepted) :
    Demand TransactionCode → Endpoint × List Byte → Prop where
  | answer (sender : Sender) (receivedMessage message : ModuleMessage TransactionCode)
      (request : Request)
      (hanswered : broker.messageEventsCache.responses sender request.payload ≠ [])
      (hmessage : IsBareResponse surroundings receivedMessage message) :
      SentFor broker accepted (.request sender receivedMessage request)
        (sender.senderEndpoint, surroundings.codec.serialize message)
  | notification (sender : Sender) (receivedMessage message : ModuleMessage TransactionCode)
      (request : Request) (event : Subscription) (moduleIdentifier : Int32)
      (endpoint : Endpoint) (newMessage : Any) (hoffered : event ∈ broker.offered)
      (hsubscribed : moduleIdentifier ∈ event.subscribers ∨
        (moduleIdentifier, event.messageType) ∈ accepted)
      (hanswer : (moduleIdentifier, newMessage) ∈
        ((broker.registry accepted).handlerCalls request.payload).filterMap
          HandlerCall.serviceRequest)
      (hmessage : IsServiceRequest surroundings newMessage message)
      (hdestination : destination surroundings moduleIdentifier = .ok (some endpoint)) :
      SentFor broker accepted (.request sender receivedMessage request)
        (endpoint, surroundings.codec.serialize message)

namespace Broker

theorem mem_subscribersTo {accepted : Accepted} {moduleIdentifier : Int32} {messageType : Text} :
    moduleIdentifier ∈ subscribersTo accepted messageType ↔
      (moduleIdentifier, messageType) ∈ accepted := by
  rw [subscribersTo, List.mem_map]
  constructor
  · rintro ⟨subscription, hmem, rfl⟩
    obtain ⟨haccepted, htype⟩ := List.mem_filter.mp hmem
    rwa [← of_decide_eq_true htype]
  · intro haccepted
    exact ⟨_, List.mem_filter.mpr ⟨haccepted, decide_eq_true rfl⟩, rfl⟩

/-- A module to notify is registered with an event that the broker offers. -/
theorem exists_offered_of_mem_handlerCalls {broker : Broker} {accepted : Accepted}
    {anyMessage : Any} {call : HandlerCall}
    (hmem : call ∈ (broker.registry accepted).handlerCalls anyMessage) :
    ∃ event ∈ broker.offered, call.subscriber ∈ event.subscribers ∨
      (call.subscriber, event.messageType) ∈ accepted := by
  obtain ⟨registered, hregistered, hcall⟩ := exists_of_mem_handlerCalls hmem
  obtain ⟨event, hoffered, rfl⟩ := List.mem_map.mp (List.mem_of_getElem? hregistered)
  apply Exists.intro event
  apply And.intro hoffered
  exact (List.mem_append.mp hcall.subscriber_mem).imp_right mem_subscribersTo.mp

end Broker

/-! ## One datagram, also where it fails -/

/-- In between the events have stayed as they were, and everything sent has the
property. -/
structure Emits (property : Endpoint × List Byte → Prop) (before after : ContextWorker) :
    Prop where
  messageEventsCache : after.messageEventsCache = before.messageEventsCache
  subscriptionEventsCache : after.subscriptionEventsCache = before.subscriptionEventsCache
  sends : Sends property before after

theorem Emits.refl {property : Endpoint × List Byte → Prop} (worker : ContextWorker) :
    Emits property worker worker :=
  ⟨rfl, rfl, .refl worker⟩

theorem Emits.asyncSendTo {property : Endpoint × List Byte → Prop}
    {before after : ContextWorker} (hemits : Emits property before after) {message : List Byte}
    {endpoint : Endpoint} (hproperty : property (endpoint, message)) :
    Emits property before (after.asyncSendTo message endpoint) :=
  ⟨hemits.messageEventsCache, hemits.subscriptionEventsCache,
    hemits.sends.asyncSendTo hproperty⟩

section Processing

variable {surroundings} {broker : Broker} {accepted : Accepted} {start : ContextWorker}

theorem emits_responses {sender : Sender} {receivedMessage : ModuleMessage TransactionCode}
    {request : Request} (hholds : Holds broker accepted start) :
    Emits (SentFor surroundings broker accepted (.request sender receivedMessage request)) start
      (Outcome.forEach (sendResponse surroundings sender receivedMessage)
        (start.messageEventsCache.responses sender request.payload) start).state := by
  apply Outcome.state_forEach (Emits.refl start)
  intro response hmem worker hemits
  rw [sendResponse]
  cases surroundings.copyFrom response with
  | none => exact hemits
  | some filled =>
      apply hemits.asyncSendTo
      refine SentFor.answer sender receivedMessage _ request ?_ ⟨rfl, rfl, rfl⟩
      rw [← hholds.messageEventsCache]
      exact List.ne_nil_of_mem hmem

theorem emits_handleSubscriptions {sender : Sender}
    {receivedMessage : ModuleMessage TransactionCode} {request : Request}
    {worker : ContextWorker} (hholds : Holds broker accepted start)
    (hemits : Emits (SentFor surroundings broker accepted
      (.request sender receivedMessage request)) start worker) :
    Emits (SentFor surroundings broker accepted (.request sender receivedMessage request)) start
      (handleSubscriptions surroundings request.payload worker).state := by
  rw [handleSubscriptions, hemits.subscriptionEventsCache, hholds.registry]
  cases htrigger : (broker.registry accepted).triggerMessageHandlers request.payload with
  | none => exact hemits
  | some requests =>
      obtain ⟨-, rfl⟩ := triggerMessageHandlers_eq_some.mp htrigger
      apply Outcome.state_forEach hemits
      intro entry hmem between hbetween
      obtain ⟨call, hcall, hrequest⟩ := List.mem_filterMap.mp hmem
      obtain ⟨newMessage, -, rfl⟩ := Option.map_eq_some_iff.mp hrequest
      obtain ⟨event, hoffered, hsubscribed⟩ := Broker.exists_offered_of_mem_handlerCalls hcall
      rw [sendServiceRequest]
      cases hmodule : ModulesCollection.getModule surroundings.findOne call.subscriber with
      | error error => exact hbetween
      | ok found =>
          cases found with
          | none => exact hbetween
          | some destinationModule =>
              cases haddress : surroundings.addressFromString destinationModule.ipAddress with
              | none =>
                  simp only [haddress]
                  exact hbetween
              | some address =>
                  have hdestination : destination surroundings call.subscriber =
                      .ok (some ⟨address, destinationModule.port⟩) := by
                    rw [destination, hmodule]
                    simp only [haddress]
                  simp only [haddress]
                  exact hbetween.asyncSendTo (.notification sender receivedMessage _ request event
                    call.subscriber _ newMessage hoffered hsubscribed hmem ⟨rfl, rfl, rfl⟩
                    hdestination)

/-- However meeting a demand ends, the worker has the events with the accepted
subscriptions, and what it has sent is for the demand. -/
theorem Holds.meet_state (hholds : Holds broker accepted start)
    (demand : Demand TransactionCode) :
    Holds broker (accepted ++ Broker.accepts demand)
        (Worker.meet surroundings start demand).state ∧
      Sends (SentFor surroundings broker accepted demand) start
        (Worker.meet surroundings start demand).state := by
  cases demand with
  | nothing =>
      rw [Broker.accepts, List.append_nil]
      exact ⟨hholds, .refl start⟩
  | subscription moduleIdentifier subscribedType =>
      refine ⟨⟨hholds.messageEventsCache, ?_⟩, .refl start⟩
      rw [Broker.accepts, Broker.registry_append_singleton, ← hholds.registry]
      rfl
  | request sender receivedMessage request =>
      have hemits : Emits (SentFor surroundings broker accepted
          (.request sender receivedMessage request)) start
          (handleRequest surroundings sender receivedMessage request start).state := by
        rw [handleRequest, MessageEventsCache.triggerMessageHandlers_eq]
        apply Outcome.state_andThen (emits_responses hholds)
        intro worker hemits
        exact emits_handleSubscriptions hholds hemits
      rw [Broker.accepts, List.append_nil]
      exact ⟨⟨hemits.messageEventsCache.trans hholds.messageEventsCache,
        hemits.subscriptionEventsCache.trans hholds.registry⟩, hemits.sends⟩

/-- However a loop that sends ends, it has sent what is due for the items that it has
come to. -/
theorem SendsFor.exists_sent {Item : Type*}
    {body : Item → ContextWorker → Outcome WorkerError ContextWorker} {good : Item → Prop}
    {due : Item → List (Endpoint × List Byte)} (hbody : SendsFor body good due)
    (hfails : ∀ item worker, ¬ good item → (body item worker).state = worker)
    (items : List Item) (worker : ContextWorker) :
    ∃ sent, (Outcome.forEach body items worker).state = worker.sending sent ∧
      sent <+: items.flatMap due := by
  induction items generalizing worker with
  | nil => exact ⟨[], (sending_nil worker).symm, List.prefix_refl []⟩
  | cons item items ih =>
      rw [Outcome.forEach, List.flatMap_cons]
      by_cases hgood : good item
      · obtain ⟨sent, hsent, hbegins⟩ := ih (worker.sending (due item))
        refine ⟨due item ++ sent, ?_, List.prefix_append_right_inj _ |>.mpr hbegins⟩
        rw [hbody.returned item worker hgood, Outcome.andThen_returned, hsent, sending_sending]
      · refine ⟨[], ?_, List.nil_prefix⟩
        have hkept := hfails item worker hgood
        rw [sending_nil]
        cases houtcome : body item worker with
        | returned next => exact absurd (hbody.good_of_returned item worker next houtcome) hgood
        | thrown error next =>
            rw [houtcome] at hkept
            exact hkept
        | undefined next =>
            rw [houtcome] at hkept
            exact hkept

omit [OfNat TransactionCode 19] in
theorem state_sendResponse_of_failed (sender : Sender)
    (receivedMessage : ModuleMessage TransactionCode) (response : Any) (worker : ContextWorker)
    (hfailed : ¬ surroundings.copyFrom response ≠ none) :
    (sendResponse surroundings sender receivedMessage response worker).state = worker := by
  rw [sendResponse, not_not.mp hfailed]
  rfl

theorem state_sendServiceRequest_of_failed (entry : Int32 × Any) (worker : ContextWorker)
    (hfailed : ¬ Tolerable surroundings entry.1) :
    (sendServiceRequest surroundings entry worker).state = worker := by
  have hreturned := (sendsFor_sendServiceRequest surroundings).good_of_returned entry worker
  rw [sendServiceRequest] at hreturned ⊢
  cases hmodule : ModulesCollection.getModule surroundings.findOne entry.1 with
  | error error => rfl
  | ok found =>
      rw [hmodule] at hreturned
      cases found with
      | none => rfl
      | some destinationModule =>
          dsimp only at hreturned ⊢
          cases haddress : surroundings.addressFromString destinationModule.ipAddress with
          | none => rfl
          | some address =>
              rw [haddress] at hreturned
              exact absurd (hreturned _ rfl) hfailed

variable (surroundings) in
theorem exists_sent_handleSubscriptions (anyMessage : Any) (worker : ContextWorker) :
    ∃ sent, (handleSubscriptions surroundings anyMessage worker).state = worker.sending sent ∧
      sent <+: (notifications worker anyMessage).flatMap (dueRequest surroundings) := by
  rw [handleSubscriptions]
  cases htrigger : worker.subscriptionEventsCache.triggerMessageHandlers anyMessage with
  | none => exact ⟨[], (sending_nil worker).symm, List.nil_prefix⟩
  | some requests =>
      obtain ⟨-, rfl⟩ := triggerMessageHandlers_eq_some.mp htrigger
      exact (sendsFor_sendServiceRequest surroundings).exists_sent
        state_sendServiceRequest_of_failed _ worker

/-- However meeting a demand ends, the worker has sent the first part of what the
broker sends. -/
theorem Holds.exists_sent (hholds : Holds broker accepted start)
    (demand : Demand TransactionCode) :
    ∃ sent, (Worker.meet surroundings start demand).state.sent = start.sent ++ sent ∧
      sent <+: broker.output surroundings accepted demand := by
  cases demand with
  | nothing => exact ⟨[], (List.append_nil _).symm, List.nil_prefix⟩
  | subscription moduleIdentifier subscribedType =>
      exact ⟨[], (List.append_nil _).symm, List.nil_prefix⟩
  | request sender receivedMessage request =>
      let responses := start.messageEventsCache.responses sender request.payload
      have hanswers := sendsFor_sendResponse surroundings sender receivedMessage
      obtain ⟨answered, hanswered, hfirst⟩ := hanswers.exists_sent
        (state_sendResponse_of_failed sender receivedMessage) responses start
      rw [Worker.meet, handleRequest, MessageEventsCache.triggerMessageHandlers_eq, Broker.output,
        ← hholds.messageEventsCache, ← hholds.registry]
      dsimp only
      cases houtcome : Outcome.forEach (sendResponse surroundings sender receivedMessage)
          responses start with
      | returned middle =>
          obtain ⟨-, rfl⟩ := hanswers.forEach_eq_returned.mp houtcome
          obtain ⟨notified, hnotified, hsecond⟩ := exists_sent_handleSubscriptions
            surroundings request.payload (start.sending (responses.flatMap
              (dueResponse surroundings sender receivedMessage)))
          rw [Outcome.andThen_returned, hnotified, sending_sending]
          exact ⟨_, rfl, (List.prefix_append_right_inj _).mpr hsecond⟩
      | thrown error failed =>
          rw [houtcome] at hanswered
          exact ⟨answered, congrArg ContextWorker.sent hanswered,
            hfirst.trans (List.prefix_append _ _)⟩
      | undefined failed =>
          rw [houtcome] at hanswered
          exact ⟨answered, congrArg ContextWorker.sent hanswered,
            hfirst.trans (List.prefix_append _ _)⟩

end Processing

/-! ## Runs -/

/-- The worker has the events with the subscriptions that have been accepted,
and everything it has sent was for a datagram that has been processed. -/
structure Sourced (broker : Broker) (system : ThreadedWorker) : Prop where
  holds : Holds broker ((demands surroundings system).flatMap Broker.accepts)
    system.shared.worker
  sent : ∀ datagram ∈ system.shared.worker.sent, ∃ earlier demand later,
    demands surroundings system = earlier ++ demand :: later ∧
      SentFor surroundings broker (earlier.flatMap Broker.accepts) demand datagram

variable {surroundings}

theorem Sourced.happen {broker : Broker} {system next : ThreadedWorker} {happening : Happening}
    (hsourced : Sourced surroundings broker system)
    (hhappen : Worker.happen surroundings system happening = some next) :
    Sourced surroundings broker next := by
  rcases untouched_or_processed hhappen with huntouched |
    ⟨thread, receivedMessageBuffer, senderEndpoint, -, -, hworker, hprocessed⟩
  · constructor
    · rw [demands, huntouched.processed]
      exact ⟨huntouched.messageEventsCache.trans hsourced.holds.messageEventsCache,
        huntouched.subscriptionEventsCache.trans hsourced.holds.registry⟩
    · rw [demands, huntouched.processed, huntouched.sent]
      exact hsourced.sent
  · rw [processMessage_eq_meet] at hworker
    obtain ⟨hholds, hsends⟩ := hsourced.holds.meet_state
      (demandOf surroundings receivedMessageBuffer senderEndpoint)
    constructor
    · rw [demands_of_processed hprocessed, List.flatMap_append, List.flatMap_singleton, hworker]
      exact hholds
    · rw [demands_of_processed hprocessed, hworker]
      obtain ⟨sent, hsent, hall⟩ := hsends
      intro datagram hmem
      rw [hsent] at hmem
      rcases List.mem_append.mp hmem with hbefore | hnow
      · obtain ⟨earlier, demand, later, hsplit, hfor⟩ := hsourced.sent datagram hbefore
        refine ⟨earlier, demand,
          later ++ [demandOf surroundings receivedMessageBuffer senderEndpoint], ?_, hfor⟩
        rw [hsplit, List.append_assoc, List.cons_append]
      · exact ⟨demands surroundings system, _, [], rfl, hall datagram hnow⟩

/-- In every run of the worker, however the datagrams and the threads interleave
and whatever fails, the registry holds the accepted subscriptions, and every
datagram that is sent answers a request that has been processed or goes to a
module that was registered with an offered event when the request was
processed. -/
theorem sourced_of_run (surroundings : Surroundings TransactionCode) {worker : ContextWorker}
    (hsilent : worker.sent = []) (threads : ℕ) (happenings : List Happening) :
    EveryState (happen surroundings) (Sourced surroundings worker.broker)
      (.start worker threads) happenings := by
  apply everyState_of_step
  · exact fun _ _ _ hsourced hhappen => hsourced.happen hhappen
  · refine ⟨⟨rfl, (Broker.registry_nil worker.broker).symm⟩, ?_⟩
    intro datagram hmem
    change datagram ∈ worker.sent at hmem
    rw [hsilent] at hmem
    cases hmem

/-- No record has an address, so that processing the request throws. -/
private def withoutAddress : Surroundings UInt32 :=
  { Exchange.directory with addressFromString := fun _ => none }

set_option maxRecDepth 20000 in
theorem sourced_without_address : ∃ finish,
    run (happen withoutAddress) (.start Exchange.worker 2) Exchange.happenings = some finish ∧
      Sourced withoutAddress Exchange.worker.broker finish ∧
      finish.shared.worker.sent = [] := by
  obtain ⟨finish, hrun, hsent⟩ : ∃ finish,
      run (happen withoutAddress) (.start Exchange.worker 2) Exchange.happenings = some finish ∧
        finish.shared.worker.sent = [] := ⟨_, rfl, by decide⟩
  exact ⟨finish, hrun, (sourced_of_run withoutAddress rfl 2 _).finish hrun, hsent⟩

/-! ## The subscribers of a request -/

/-- The event has a handler, which answers every message with a message. -/
def Subscription.Answers (event : Subscription) : Prop :=
  ∃ callback, event.event.callback = some callback ∧
    ∀ call anyMessage, (callback.run call anyMessage).1 ≠ none

/-- The modules to notify of a message with this `type_url`, in order and each
as often as it is to be notified. -/
def Broker.interested (broker : Broker) (accepted : Accepted) (typeUrl : Text) : List Int32 :=
  (broker.offered.filter fun event => event.messageType.isSuffixOf typeUrl).flatMap fun event =>
    event.subscribers ++ Broker.subscribersTo accepted event.messageType

/-- The property holds of every call that the event can make. -/
def Subscription.Each (property : HandlerCall → Prop) (event : Subscription) : Prop :=
  ∀ place subscriber call anyMessage,
    property ⟨place, subscriber, (event.event.subscriptionHandle call anyMessage).map Prod.fst⟩

theorem Subscription.Each.eventCalls {property : HandlerCall → Prop} {event : Subscription}
    (heach : event.Each property) (place : ℕ) (subscribers : List Int32) (dispatch : Dispatch) :
    ∀ call ∈ Worker.eventCalls place event subscribers dispatch, property call := by
  induction subscribers generalizing dispatch with
  | nil => exact fun call hcall => absurd hcall List.not_mem_nil
  | cons subscriber subscribers ih =>
      intro call hcall
      rcases List.mem_cons.mp hcall with rfl | hlater
      · exact heach place subscriber dispatch.calls dispatch.anyMessage
      · cases hnotify : notify event dispatch subscriber with
        | none =>
            rw [hnotify] at hlater
            cases hlater
        | some next =>
            rw [hnotify] at hlater
            exact ih next call hlater

theorem forall_mem_registryCalls {property : HandlerCall → Prop} {events : List Subscription}
    (heach : ∀ event ∈ events, event.Each property) (place : ℕ) (dispatch : Dispatch) :
    ∀ call ∈ registryCalls place events dispatch, property call := by
  induction events generalizing place dispatch with
  | nil => exact fun call hcall => absurd hcall List.not_mem_nil
  | cons event events ih =>
      obtain ⟨hevent, hevents⟩ := List.forall_mem_cons.mp heach
      intro call hcall
      rcases mem_registryCalls_cons.mp hcall with hnow | ⟨next, -, hlater⟩
      · rw [roundCalls] at hnow
        split at hnow
        · exact hevent.eventCalls place event.subscribers dispatch call hnow
        · cases hnow
      · exact ih hevents (place + 1) next call hlater

/-- Calls that answer with a value notify their subscribers. -/
theorem map_fst_serviceRequests {calls : List HandlerCall}
    (hvalues : ∀ call ∈ calls, call.answer.join ≠ none) :
    (calls.filterMap HandlerCall.serviceRequest).map Prod.fst =
      calls.map HandlerCall.subscriber := by
  induction calls with
  | nil => rfl
  | cons call calls ih =>
      obtain ⟨hvalue, hrest⟩ := List.forall_mem_cons.mp hvalues
      obtain ⟨newMessage, hanswer⟩ := Option.ne_none_iff_exists'.mp hvalue
      have hrequest : call.serviceRequest = some (call.subscriber, newMessage) := by
        rw [HandlerCall.serviceRequest, hanswer]
        rfl
      rw [List.filterMap_cons_some hrequest, List.map_cons, List.map_cons, ih hrest]

theorem map_snd_addressed (typeUrl : Text) (place : ℕ) (events : List Subscription) :
    (addressed (fun _ => typeUrl) place events).map Prod.snd =
      (events.filter fun event => event.messageType.isSuffixOf typeUrl).flatMap
        Subscription.subscribers := by
  induction events generalizing place with
  | nil => rfl
  | cons event events ih =>
      rw [addressed, List.map_append, ih, List.filter_cons]
      split
      · rw [List.flatMap_cons, List.map_map]
        exact congrArg (· ++ _) (List.map_id _)
      · rfl

/-- Where the handlers answer and keep the type, the notifications of a request
go to the interested modules. -/
theorem Broker.notified_eq_interested {broker : Broker} {accepted : Accepted} {anyMessage : Any}
    (hanswer : ∀ event ∈ broker.offered, event.Answers ∧ event.KeepsType) :
    (((broker.registry accepted).handlerCalls anyMessage).filterMap
        HandlerCall.serviceRequest).map Prod.fst =
      broker.interested accepted anyMessage.typeUrl := by
  let calls := (broker.registry accepted).handlerCalls anyMessage
  have hvalues : ∀ call ∈ calls, call.answer.join ≠ none := by
    apply forall_mem_registryCalls
    intro registered hregistered place subscriber call message
    obtain ⟨event, hoffered, rfl⟩ := List.mem_map.mp hregistered
    obtain ⟨callback, hcallback, hvalue⟩ := (hanswer event hoffered).1
    dsimp only [SubscribeEvent.subscriptionHandle]
    rw [hcallback]
    exact hvalue call message
  have hkeeps : ∀ registered ∈ (broker.registry accepted).events, registered.KeepsType := by
    intro registered hregistered
    obtain ⟨event, hoffered, rfl⟩ := List.mem_map.mp hregistered
    exact (hanswer event hoffered).2
  have htargets : calls.map HandlerCall.target =
      addressed (fun _ => anyMessage.typeUrl) 0 (broker.registry accepted).events := by
    have hcovers := covers_registryCalls 0 (broker.registry accepted).events ⟨anyMessage, 0, []⟩
    rw [typeUrlAt_of_keepsType hkeeps] at hcovers
    apply hcovers.complete
    intro call hmem hnull
    apply hvalues call hmem
    rw [hnull]
    rfl
  calc (calls.filterMap HandlerCall.serviceRequest).map Prod.fst
      = (calls.map HandlerCall.target).map Prod.snd := by
        rw [map_fst_serviceRequests hvalues, List.map_map]
        rfl
    _ = ((broker.registry accepted).events.filter fun event =>
          event.messageType.isSuffixOf anyMessage.typeUrl).flatMap Subscription.subscribers := by
        rw [htargets, map_snd_addressed]
    _ = broker.interested accepted anyMessage.typeUrl := by
        rw [Broker.registry, List.filter_map, List.flatMap_map]
        rfl

/-- Once a run has processed a request without a failure before, what has been
sent is, behind what the earlier datagrams have caused, the answers to the sender
and then one notification of each interested module, in order, with what the
handler call for it has answered. -/
theorem notified_of_run {worker : ContextWorker} (hsilent : worker.sent = []) (threads : ℕ)
    {happenings : List Happening} {system : ThreadedWorker}
    (hsucceeds : EveryStep (happen surroundings) (Succeeds surroundings)
      (.start worker threads) happenings)
    (hrun : run (happen surroundings) (.start worker threads) happenings = some system)
    (hanswer : ∀ event ∈ worker.subscriptionEventsCache.events,
      event.Answers ∧ event.KeepsType)
    {earlier later : List (Demand TransactionCode)} {sender : Sender}
    {receivedMessage : ModuleMessage TransactionCode} {request : Request}
    (hprocessed : demands surroundings system =
      earlier ++ .request sender receivedMessage request :: later) :
    ∃ notified groups after,
      system.shared.worker.sent = worker.broker.sentFrom surroundings [] earlier ++
        ((worker.messageEventsCache.responses sender request.payload).flatMap
          (dueResponse surroundings sender receivedMessage) ++ groups.flatten) ++ after ∧
      notified = ((worker.broker.registry (earlier.flatMap Broker.accepts)).handlerCalls
        request.payload).filterMap HandlerCall.serviceRequest ∧
      notified.map Prod.fst = worker.broker.interested (earlier.flatMap Broker.accepts)
        request.payload.typeUrl ∧
      List.Forall₂ (IsNotified surroundings) notified groups := by
  have hrefines := (everyState_of_everyStep
    (fun _ _ _ hrefines hguard hhappen => Refines.happen hrefines hguard hhappen)
    (refines_start hsilent threads) hsucceeds).finish hrun
  let accepted := earlier.flatMap Broker.accepts
  let notified := ((worker.broker.registry accepted).handlerCalls request.payload).filterMap
    HandlerCall.serviceRequest
  refine ⟨notified, notified.map (dueRequest surroundings), worker.broker.sentFrom surroundings
    (accepted ++ Broker.accepts (.request sender receivedMessage request)) later, ?_, rfl,
    Broker.notified_eq_interested hanswer, ?_⟩
  · rw [hrefines.sent, hprocessed, Broker.sentFrom_append, List.nil_append, Broker.sentFrom,
      Broker.output, ← List.flatMap_def]
    exact (List.append_assoc _ _ _).symm
  · rw [List.forall₂_map_right_iff, List.forall₂_same]
    intro entry _
    exact isNotified_dueRequest surroundings entry

set_option maxRecDepth 20000 in
theorem notified_exchange : ∃ finish,
    run (happen Exchange.directory) (.start Exchange.worker 2) Exchange.happenings =
        some finish ∧
      ∃ groups after, finish.shared.worker.sent = groups.flatten ++ after ∧
        List.Forall₂ (IsNotified Exchange.directory) [(7, Exchange.location)] groups := by
  obtain ⟨finish, hrun, hdemands⟩ : ∃ finish,
      run (happen Exchange.directory) (.start Exchange.worker 2) Exchange.happenings =
          some finish ∧
        demands Exchange.directory finish = [.subscription 7 "GPS".toList] ++
          .request ⟨9, Exchange.client⟩ Exchange.reporting ⟨some Exchange.location⟩ :: [] :=
    ⟨_, rfl, rfl⟩
  have hanswer : ∀ event ∈ Exchange.worker.subscriptionEventsCache.events,
      event.Answers ∧ event.KeepsType := by
    intro event hmem
    rw [List.mem_singleton.mp hmem]
    refine ⟨⟨_, rfl, fun _ anyMessage => Option.some_ne_none anyMessage⟩, ?_⟩
    intro callback hcallback call anyMessage
    rw [← Option.some.inj hcallback]
  obtain ⟨notified, groups, after, hsent, rfl, -, hgroups⟩ :=
    notified_of_run rfl 2 Exchange.succeeds hrun hanswer hdemands
  exact ⟨finish, hrun, groups, after, hsent, hgroups⟩

end ProcessManagerService.Worker
