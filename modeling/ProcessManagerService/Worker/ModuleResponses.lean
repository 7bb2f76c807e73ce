import Mathlib.Data.List.Forall2
import ProcessManagerService.Worker.ContextWorker

/-!
# Responses of the module server

A module that sends a request is meant to get one response for every handler
that answers it.  The responses that a worker sends have the right header, but
the payload is never attached to them: a request is answered properly exactly
when no handler answers it.
-/

namespace ProcessManagerService.Worker

open Communication ContextWorker

variable {TransactionCode : Type*}

/-- The service responses among the datagrams sent to an endpoint. -/
def responsesTo (codec : Codec TransactionCode) (endpoint : Endpoint)
    (sent : List (Endpoint × List Byte)) : List (ModuleMessage TransactionCode) :=
  sent.filterMap fun datagram =>
    if datagram.1 = endpoint then
      (codec.parse datagram.2).filter fun message =>
        (codec.headerOf message).operationCode = .serviceResponse
    else none

/-- The message is the response of the service to this request, with this
payload. -/
structure IsAnswer (surroundings : Surroundings TransactionCode)
    (receivedMessage : ModuleMessage TransactionCode) (response : Any)
    (message : ModuleMessage TransactionCode) : Prop where
  header : message.header = some ⟨surroundings.serviceIdentifier, .serviceResponse,
    (surroundings.codec.headerOf receivedMessage).transactionCode⟩
  request : message.request = some ⟨some response⟩

/-- The sender that the handlers are told. -/
def senderOf (surroundings : Surroundings TransactionCode) (endpoint : Endpoint)
    (receivedMessage : ModuleMessage TransactionCode) : Sender :=
  ⟨(surroundings.codec.headerOf receivedMessage).senderIdentifier, endpoint⟩

/-! ## What the loops send -/

/-- Everything sent in between has the property. -/
def Sends (property : Endpoint × List Byte → Prop) (before after : ContextWorker) : Prop :=
  ∃ sent, after.sent = before.sent ++ sent ∧ ∀ datagram ∈ sent, property datagram

theorem Sends.refl {property : Endpoint × List Byte → Prop} (worker : ContextWorker) :
    Sends property worker worker :=
  ⟨[], (List.append_nil _).symm, fun _ hmem => absurd hmem List.not_mem_nil⟩

theorem Sends.asyncSendTo {property : Endpoint × List Byte → Prop}
    {before after : ContextWorker} (hsends : Sends property before after) {message : List Byte}
    {endpoint : Endpoint} (hproperty : property (endpoint, message)) :
    Sends property before (after.asyncSendTo message endpoint) := by
  obtain ⟨sent, hsent, hall⟩ := hsends
  refine ⟨sent ++ [(endpoint, message)], ?_, ?_⟩
  · rw [ContextWorker.asyncSendTo, hsent, List.append_assoc]
  · intro datagram hmem
    rcases List.mem_append.mp hmem with hbefore | hlast
    · exact hall datagram hbefore
    · rw [List.mem_singleton.mp hlast]
      exact hproperty

section Loops

variable (surroundings : Surroundings TransactionCode)

/-- Every response is the same message, without its payload. -/
theorem sends_responses (sender : Sender) (receivedMessage : ModuleMessage TransactionCode)
    (responses : List Any) (worker : ContextWorker) :
    Sends (fun datagram => datagram = (sender.senderEndpoint,
        surroundings.codec.serialize (responseMessage surroundings receivedMessage)))
      worker
      (Outcome.forEach (sendResponse surroundings sender receivedMessage) responses
        worker).state := by
  apply Outcome.state_forEach (Sends.refl worker)
  intro response _ state hstate
  rw [sendResponse]
  cases surroundings.copyFrom response with
  | none => exact hstate
  | some filled => exact hstate.asyncSendTo rfl

variable [OfNat TransactionCode 19]

/-- Whatever the records of the subscribers are, they are only sent requests. -/
theorem sends_serviceRequests (anyMessage : Any) (worker : ContextWorker) :
    Sends (fun datagram => ∃ forwarded,
        datagram.2 = surroundings.codec.serialize (serviceRequest surroundings forwarded))
      worker (handleSubscriptions surroundings anyMessage worker).state := by
  rw [handleSubscriptions]
  cases worker.subscriptionEventsCache.triggerMessageHandlers anyMessage with
  | none => exact Sends.refl worker
  | some responses =>
      apply Outcome.state_forEach (Sends.refl worker)
      intro response _ state hstate
      rw [sendServiceRequest]
      split
      · exact hstate
      · exact hstate
      · split
        · exact hstate
        · exact hstate.asyncSendTo ⟨response.2, rfl⟩

end Loops

/-! ## What arrives at the sender -/

theorem responsesTo_append (codec : Codec TransactionCode) (endpoint : Endpoint)
    (first second : List (Endpoint × List Byte)) :
    responsesTo codec endpoint (first ++ second) =
      responsesTo codec endpoint first ++ responsesTo codec endpoint second :=
  List.filterMap_append

theorem eq_of_mem_responsesTo {surroundings : Surroundings TransactionCode}
    {receivedMessage message : ModuleMessage TransactionCode} {endpoint : Endpoint}
    {sent : List (Endpoint × List Byte)}
    (hsent : ∀ datagram ∈ sent, datagram = (endpoint,
      surroundings.codec.serialize (responseMessage surroundings receivedMessage)))
    (hmem : message ∈ responsesTo surroundings.codec endpoint sent) :
    message = responseMessage surroundings receivedMessage := by
  obtain ⟨datagram, hdatagram, hresponse⟩ := List.mem_filterMap.mp hmem
  rw [hsent datagram hdatagram, if_pos rfl, surroundings.codec.parse_serialize] at hresponse
  exact (Option.some.inj (Option.filter_eq_some_iff.mp hresponse).1).symm

theorem responsesTo_serviceRequests [OfNat TransactionCode 19]
    {surroundings : Surroundings TransactionCode} {endpoint : Endpoint}
    {sent : List (Endpoint × List Byte)}
    (hsent : ∀ datagram ∈ sent, ∃ forwarded,
      datagram.2 = surroundings.codec.serialize (serviceRequest surroundings forwarded)) :
    responsesTo surroundings.codec endpoint sent = [] := by
  rw [responsesTo, List.filterMap_eq_nil_iff]
  intro datagram hdatagram
  obtain ⟨forwarded, hserialized⟩ := hsent datagram hdatagram
  rw [hserialized, surroundings.codec.parse_serialize]
  split
  · rfl
  · rfl

/-! ## One request -/

section Request

variable [OfNat TransactionCode 19] {surroundings : Surroundings TransactionCode}
  {receivedMessage : ModuleMessage TransactionCode} {request : Request}

/-- First bare responses are sent to the sender, then requests to subscribers. -/
def Traffic (surroundings : Surroundings TransactionCode)
    (receivedMessage : ModuleMessage TransactionCode) (sender : Sender)
    (before after : ContextWorker) : Prop :=
  ∃ bare requests, after.sent = before.sent ++ (bare ++ requests) ∧
    (∀ datagram ∈ bare, datagram = (sender.senderEndpoint,
      surroundings.codec.serialize (responseMessage surroundings receivedMessage))) ∧
    ∀ datagram ∈ requests, ∃ forwarded,
      datagram.2 = surroundings.codec.serialize (serviceRequest surroundings forwarded)

theorem Traffic.handleSubscriptions {sender : Sender} {before after : ContextWorker}
    (htraffic : Traffic surroundings receivedMessage sender before after) (anyMessage : Any) :
    Traffic surroundings receivedMessage sender before
      (handleSubscriptions surroundings anyMessage after).state := by
  obtain ⟨bare, requests, hsent, hbare, hrequests⟩ := htraffic
  obtain ⟨more, hmore, hall⟩ := sends_serviceRequests surroundings anyMessage after
  refine ⟨bare, requests ++ more, ?_, hbare, ?_⟩
  · rw [hmore, hsent, List.append_assoc, List.append_assoc]
  · intro datagram hmem
    rcases List.mem_append.mp hmem with hbefore | hlater
    · exact hrequests datagram hbefore
    · exact hall datagram hlater

theorem traffic_handleRequest (sender : Sender) (worker : ContextWorker) :
    Traffic surroundings receivedMessage sender worker
      (handleRequest surroundings sender receivedMessage request worker).state := by
  rw [handleRequest, MessageEventsCache.triggerMessageHandlers_eq]
  refine Outcome.state_andThen ?_ ?_
  · obtain ⟨bare, hsent, hall⟩ := sends_responses surroundings sender receivedMessage
      (worker.messageEventsCache.responses sender request.payload) worker
    refine ⟨bare, [], ?_, hall, fun _ hmem => absurd hmem List.not_mem_nil⟩
    rw [hsent, List.append_nil]
  · intro state hstate
    exact hstate.handleSubscriptions request.payload

/-- Every service response that the sender gets is without a payload. -/
theorem Traffic.responsesTo {sender : Sender} {before after : ContextWorker}
    (htraffic : Traffic surroundings receivedMessage sender before after) :
    ∃ sent, after.sent = before.sent ++ sent ∧
      ∀ message ∈ responsesTo surroundings.codec sender.senderEndpoint sent,
        message = responseMessage surroundings receivedMessage := by
  obtain ⟨bare, requests, hsent, hbare, hrequests⟩ := htraffic
  refine ⟨bare ++ requests, hsent, ?_⟩
  rw [responsesTo_append, responsesTo_serviceRequests hrequests, List.append_nil]
  intro message hmem
  exact eq_of_mem_responsesTo hbare hmem

omit [OfNat TransactionCode 19] in
/-- A message without a payload answers nothing. -/
theorem eq_nil_of_answers {responses : List Any}
    {messages : List (ModuleMessage TransactionCode)}
    (hanswers : List.Forall₂ (IsAnswer surroundings receivedMessage) responses messages)
    (hbare : ∀ message ∈ messages, message = responseMessage surroundings receivedMessage) :
    responses = [] := by
  cases hanswers with
  | nil => rfl
  | cons hanswer _ =>
      have hpayload := hanswer.request
      rw [hbare _ List.mem_cons_self] at hpayload
      cases hpayload

/-- Without a response of a handler only the subscribers are sent something. -/
theorem responsesTo_of_silence {sender : Sender} {worker : ContextWorker}
    (hsilence : worker.messageEventsCache.responses sender request.payload = []) :
    ∃ sent, (handleRequest surroundings sender receivedMessage request worker).state.sent =
        worker.sent ++ sent ∧
      responsesTo surroundings.codec sender.senderEndpoint sent = [] := by
  rw [handleRequest, MessageEventsCache.triggerMessageHandlers_eq, hsilence]
  obtain ⟨sent, hsent, hall⟩ := sends_serviceRequests surroundings request.payload worker
  exact ⟨sent, hsent, responsesTo_serviceRequests hall⟩

end Request

/-! ## One datagram -/

section Datagram

variable [OfNat TransactionCode 19] (surroundings : Surroundings TransactionCode)

/-- The sender is sent one service response for each response of a registered
handler, in registration order, and each is the answer with that payload. -/
def Answers (worker : ContextWorker) (datagram : List Byte) (endpoint : Endpoint)
    (receivedMessage : ModuleMessage TransactionCode) (request : Request) : Prop :=
  ∃ sent, (receive surroundings datagram endpoint worker).state.sent = worker.sent ++ sent ∧
    List.Forall₂ (IsAnswer surroundings receivedMessage)
      (worker.messageEventsCache.responses (senderOf surroundings endpoint receivedMessage)
        request.payload)
      (responsesTo surroundings.codec endpoint sent)

/-- A datagram with a module request is handled as a request. -/
theorem receive_eq_handleRequest {worker : ContextWorker} {datagram : List Byte}
    {endpoint : Endpoint} {receivedMessage : ModuleMessage TransactionCode} {request : Request}
    (hparse : surroundings.codec.parse (datagram.take worker.messageBuffer.length) =
      some receivedMessage)
    (hcode : (surroundings.codec.headerOf receivedMessage).operationCode = .moduleRequest)
    (hrequest : receivedMessage.request = some request) :
    receive surroundings datagram endpoint worker =
      handleRequest surroundings (senderOf surroundings endpoint receivedMessage)
        receivedMessage request (worker.finishReceive datagram endpoint).startRead := by
  rw [receive, handleReceive, if_neg Bool.false_ne_true, take_messageBuffer_finishReceive,
    processMessage, hparse]
  simp only [hcode, if_true, hrequest]
  rfl

/-- A request that is answered properly is one that no handler answers. -/
theorem responses_eq_nil_of_answers {worker : ContextWorker} {datagram : List Byte}
    {endpoint : Endpoint} {receivedMessage : ModuleMessage TransactionCode} {request : Request}
    (hparse : surroundings.codec.parse (datagram.take worker.messageBuffer.length) =
      some receivedMessage)
    (hcode : (surroundings.codec.headerOf receivedMessage).operationCode = .moduleRequest)
    (hrequest : receivedMessage.request = some request)
    (hanswers : Answers surroundings worker datagram endpoint receivedMessage request) :
    worker.messageEventsCache.responses (senderOf surroundings endpoint receivedMessage)
      request.payload = [] := by
  obtain ⟨sent, hsent, hall⟩ := hanswers
  let sender := senderOf surroundings endpoint receivedMessage
  let ready := (worker.finishReceive datagram endpoint).startRead
  have htraffic : Traffic surroundings receivedMessage sender ready
      (handleRequest surroundings sender receivedMessage request ready).state :=
    traffic_handleRequest sender ready
  obtain ⟨other, hother, hbare⟩ := htraffic.responsesTo
  rw [receive_eq_handleRequest surroundings hparse hcode hrequest] at hsent
  obtain rfl : other = sent := List.append_cancel_left (hother.symm.trans hsent)
  exact eq_nil_of_answers hall hbare

/-- A request is answered properly exactly when no registered handler has
anything to answer. -/
theorem answers_iff {worker : ContextWorker} {datagram : List Byte} {endpoint : Endpoint}
    {receivedMessage : ModuleMessage TransactionCode} {request : Request}
    (hparse : surroundings.codec.parse (datagram.take worker.messageBuffer.length) =
      some receivedMessage)
    (hcode : (surroundings.codec.headerOf receivedMessage).operationCode = .moduleRequest)
    (hrequest : receivedMessage.request = some request) :
    Answers surroundings worker datagram endpoint receivedMessage request ↔
      ∀ event ∈ worker.messageEventsCache.events,
        event.2.response (senderOf surroundings endpoint receivedMessage) request.payload =
          none := by
  rw [← MessageEventsCache.responses_eq_nil_iff]
  constructor
  · intro hanswers
    exact responses_eq_nil_of_answers surroundings hparse hcode hrequest hanswers
  · intro hsilence
    let ready := (worker.finishReceive datagram endpoint).startRead
    have hsilent : ∃ sent,
        (handleRequest surroundings (senderOf surroundings endpoint receivedMessage)
          receivedMessage request ready).state.sent = ready.sent ++ sent ∧
        responsesTo surroundings.codec endpoint sent = [] := responsesTo_of_silence hsilence
    obtain ⟨sent, hsent, hnone⟩ := hsilent
    refine ⟨sent, ?_, ?_⟩
    · rw [receive_eq_handleRequest surroundings hparse hcode hrequest]
      exact hsent
    · rw [hsilence, hnone]
      exact .nil

end Datagram

/-! ## Two workers -/

private def coordinates : Any := ⟨"t/GPS".toList, [1, 2]⟩

private def received : ModuleMessage UInt32 where
  header := some ⟨0x2A000001, .moduleRequest, 5⟩
  request := some ⟨some coordinates⟩
  subscriptionRequest := none

/-- A service without subscribers. -/
private def alone (copyFrom : Any → Option Request) : Surroundings UInt32 where
  codec := .plain
  serviceIdentifier := 0x34000001
  copyFrom := copyFrom
  findOne _ := .ok none
  addressFromString _ := none

private def workerWith (events : List MessageEvent) : ContextWorker :=
  .create ⟨events.map fun event => (0, event)⟩ ⟨[]⟩

/-- A handler that validates every message. -/
private def handlerWith (response : Option Any) : MessageEvent :=
  ⟨some ⟨fun _ => true, fun _ _ => response⟩⟩

private theorem parse_received (events : List MessageEvent) :
    Codec.plain.parse ((Codec.plain.serialize received).take
      (workerWith events).messageBuffer.length) = some received := by
  have hlength : (workerWith events).messageBuffer.length = 1024 := List.length_replicate
  rw [hlength]
  decide

/-- One handler that runs and has nothing to answer, and one without a
callback. -/
theorem answers_of_silent_handlers :
    Answers (alone fun _ => none) (workerWith [handlerWith none, ⟨none⟩])
      (Codec.plain.serialize received) ⟨[127, 0, 0, 1], 4000⟩ received ⟨some coordinates⟩ := by
  apply (answers_iff (alone fun _ => none) (parse_received _) rfl rfl).mpr
  intro event hmem
  rcases List.mem_pair.mp hmem with rfl | rfl <;> rfl

/-- Whatever `CopyFrom` does with the response, the sender does not get it. -/
theorem response_never_arrives :
    ¬ ∃ copyFrom : Any → Option Request,
      Answers (alone copyFrom) (workerWith [handlerWith (some coordinates)])
        (Codec.plain.serialize received) ⟨[127, 0, 0, 1], 4000⟩ received
        ⟨some coordinates⟩ := by
  rintro ⟨copyFrom, hanswers⟩
  have hsilence := responses_eq_nil_of_answers (alone copyFrom) (parse_received _) rfl rfl hanswers
  cases hsilence

end ProcessManagerService.Worker
