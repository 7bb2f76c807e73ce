import ProcessManagerService.Worker.HandlerCalls
import ProcessManagerService.Worker.ModuleResponses

/-!
# Notifications

The handler calls of a request that answer with a message are each to become a
service request to the subscriber.  They are sent in one loop, which looks each
subscriber up and decodes its record: an exception out of one lookup ends the
loop and leaves the receive handler.
-/

namespace ProcessManagerService.Worker

open Communication ContextWorker

variable {TransactionCode : Type*} (surroundings : Surroundings TransactionCode)

/-! ## Records -/

/-- The record of a module has all fields with the right types, a port in range
and the text of an address. -/
def WellFormedRecord (moduleIdentifier : Int32) (endpoint : Endpoint) : Prop :=
  ∃ view identifier connectionState ipAddress port,
    surroundings.findOne moduleIdentifier = .ok (some view) ∧
      view.lookup "ModuleIdentifier".toList = some (.int32 identifier) ∧
      view.lookup "ConnectionState".toList = some (.int32 connectionState) ∧
      view.lookup "IpAddress".toList = some (.utf8 ipAddress) ∧
      view.lookup "Port".toList = some (.int32 port) ∧
      surroundings.addressFromString ipAddress = some endpoint.address ∧
      port.toInt = endpoint.port.toNat

def Element.IsInt32 : Element → Prop
  | .int32 _ => True
  | _ => False

/-- The fields are there up to the first one of a wrong type, and where none is
of a wrong type the text is that of an address. -/
def Document.Tolerable (view : Document) : Prop :=
  ∃ identifier, view.lookup "ModuleIdentifier".toList = some identifier ∧
    (identifier.IsInt32 → ∃ connectionState,
      view.lookup "ConnectionState".toList = some connectionState ∧
      (connectionState.IsInt32 → ∃ ipAddress,
        view.lookup "IpAddress".toList = some ipAddress ∧
        ∀ text, ipAddress = .utf8 text → ∃ port,
          view.lookup "Port".toList = some port ∧
          (port.IsInt32 → surroundings.addressFromString text ≠ none)))

/-- The query does not fail and finds no record or a tolerable one. -/
def Tolerable (moduleIdentifier : Int32) : Prop :=
  ∃ found, surroundings.findOne moduleIdentifier = .ok found ∧
    ∀ view, found = some view → Document.Tolerable surroundings view

/-- Where a request to a module is sent, if anywhere. -/
def destination (moduleIdentifier : Int32) : Except WorkerError (Option Endpoint) :=
  match ModulesCollection.getModule surroundings.findOne moduleIdentifier with
  | .error error => .error error
  | .ok none => .ok none
  | .ok (some destinationModule) =>
      match surroundings.addressFromString destinationModule.ipAddress with
      | none => .error .invalidAddress
      | some address => .ok (some ⟨address, destinationModule.port⟩)

theorem ofNat_of_toInt_eq {port : Int32} {number : UInt16} (hport : port.toInt = number.toNat) :
    UInt16.ofNat port.toUInt32.toNat = number := by
  have hbits : port.toBitVec.toInt = number.toNat := hport
  have hnumber : port.toUInt32.toNat = port.toBitVec.toNat := rfl
  rw [BitVec.toInt_eq_toNat_cond] at hbits
  have hsame : port.toUInt32.toNat = number.toNat := by
    have hbound := port.toBitVec.isLt
    split at hbits <;> omega
  rw [hsame, UInt16.ofNat_toNat]

theorem destination_of_wellFormed {moduleIdentifier : Int32} {endpoint : Endpoint}
    (hrecord : WellFormedRecord surroundings moduleIdentifier endpoint) :
    destination surroundings moduleIdentifier = .ok (some endpoint) := by
  obtain ⟨view, identifier, connectionState, ipAddress, port, hfind, hidentifier, hstate,
    hipAddress, hport, haddress, hnumber⟩ := hrecord
  have hdecoded : ModulesCollection.viewToModuleRecord view =
      .ok (some ⟨endpoint.port, identifier, connectionState, ipAddress⟩) :=
    ModulesCollection.viewToModuleRecord_eq_some.mpr
      ⟨hidentifier, hstate, hipAddress, port, hport, ofNat_of_toInt_eq hnumber⟩
  rw [destination, ModulesCollection.getModule_of_find hfind, hdecoded]
  simp only [haddress]

/-- A record is decoded field by field, and left at the first wrong type. -/
theorem exists_decoded_iff (accepts : Text → Prop) {view : Document} :
    (∃ found, ModulesCollection.viewToModuleRecord view = .ok found ∧
      ∀ record, found = some record → accepts record.ipAddress) ↔
    ∃ identifier, view.lookup "ModuleIdentifier".toList = some identifier ∧
      (identifier.IsInt32 → ∃ connectionState,
        view.lookup "ConnectionState".toList = some connectionState ∧
        (connectionState.IsInt32 → ∃ ipAddress,
          view.lookup "IpAddress".toList = some ipAddress ∧
          ∀ text, ipAddress = .utf8 text → ∃ port,
            view.lookup "Port".toList = some port ∧ (port.IsInt32 → accepts text))) := by
  have hmistyped : ∃ found, (pure none : Except WorkerError (Option ModuleRecord)) = .ok found ∧
      ∀ record, found = some record → accepts record.ipAddress :=
    ⟨none, rfl, fun record hsame => by cases hsame⟩
  apply ModulesCollection.exists_element_bind.trans
  apply exists_congr fun identifier => and_congr_right fun _ => ?_
  cases identifier with
  | utf8 value => exact iff_of_true hmistyped False.elim
  | other => exact iff_of_true hmistyped False.elim
  | int32 identifier =>
      apply Iff.trans _ (forall_prop_of_true trivial).symm
      apply ModulesCollection.exists_element_bind.trans
      apply exists_congr fun connectionState => and_congr_right fun _ => ?_
      cases connectionState with
      | utf8 value => exact iff_of_true hmistyped False.elim
      | other => exact iff_of_true hmistyped False.elim
      | int32 connectionState =>
          apply Iff.trans _ (forall_prop_of_true trivial).symm
          apply ModulesCollection.exists_element_bind.trans
          apply exists_congr fun ipAddress => and_congr_right fun _ => ?_
          cases ipAddress with
          | int32 value => exact iff_of_true hmistyped fun text hsame => by cases hsame
          | other => exact iff_of_true hmistyped fun text hsame => by cases hsame
          | utf8 ipAddress =>
              simp only [Element.utf8.injEq, forall_eq']
              apply ModulesCollection.exists_element_bind.trans
              apply exists_congr fun port => and_congr_right fun _ => ?_
              cases port with
              | utf8 value => exact iff_of_true hmistyped False.elim
              | other => exact iff_of_true hmistyped False.elim
              | int32 port =>
                  apply Iff.trans _ (forall_prop_of_true trivial).symm
                  constructor
                  · rintro ⟨found, hdecoded, haccepts⟩
                    cases hdecoded
                    exact haccepts _ rfl
                  · intro haccepts
                    exact ⟨_, rfl, fun record hsame => by cases hsame; exact haccepts⟩

theorem exists_destination_iff_tolerable_view {moduleIdentifier : Int32} {view : Document}
    (hfind : surroundings.findOne moduleIdentifier = .ok (some view)) :
    (∃ found, destination surroundings moduleIdentifier = .ok found) ↔
      Document.Tolerable surroundings view := by
  have hdestination : (∃ found, destination surroundings moduleIdentifier = .ok found) ↔
      ∃ found, ModulesCollection.viewToModuleRecord view = .ok found ∧
        ∀ record, found = some record →
          surroundings.addressFromString record.ipAddress ≠ none := by
    rw [destination, ModulesCollection.getModule_of_find hfind]
    cases ModulesCollection.viewToModuleRecord view with
    | error error => simp
    | ok found =>
        cases found with
        | none => simp
        | some record =>
            cases haddress : surroundings.addressFromString record.ipAddress <;> simp [haddress]
  exact hdestination.trans
    (exists_decoded_iff fun text => surroundings.addressFromString text ≠ none)

theorem exists_destination_iff {moduleIdentifier : Int32} :
    (∃ found, destination surroundings moduleIdentifier = .ok found) ↔
      Tolerable surroundings moduleIdentifier := by
  rw [Tolerable]
  cases hfind : surroundings.findOne moduleIdentifier with
  | error error =>
      simp [destination, ModulesCollection.getModule, hfind, bind, Except.bind]
  | ok found =>
      cases found with
      | none =>
          simp [destination, ModulesCollection.getModule, hfind, bind, Except.bind, pure,
            Except.pure]
      | some view =>
          rw [exists_destination_iff_tolerable_view surroundings hfind]
          simp

/-! ## Loops that send -/

def ContextWorker.sending (worker : ContextWorker) (datagrams : List (Endpoint × List Byte)) :
    ContextWorker :=
  { worker with sent := worker.sent ++ datagrams }

theorem sending_nil (worker : ContextWorker) : worker.sending [] = worker := by
  rw [ContextWorker.sending, List.append_nil]

theorem sending_sending (worker : ContextWorker) (first second : List (Endpoint × List Byte)) :
    (worker.sending first).sending second = worker.sending (first ++ second) := by
  simp only [ContextWorker.sending, List.append_assoc]

/-- The body of a loop returns for the good items, and only for them, after
having sent what is due for the item. -/
structure SendsFor {Item : Type*} (body : Item → ContextWorker → Outcome WorkerError ContextWorker)
    (good : Item → Prop) (due : Item → List (Endpoint × List Byte)) : Prop where
  returned : ∀ item worker, good item → body item worker = .returned (worker.sending (due item))
  good_of_returned : ∀ item worker next, body item worker = .returned next → good item

/-- Such a loop returns exactly if all its items are good. -/
theorem SendsFor.forEach_eq_returned {Item : Type*}
    {body : Item → ContextWorker → Outcome WorkerError ContextWorker} {good : Item → Prop}
    {due : Item → List (Endpoint × List Byte)} (hbody : SendsFor body good due)
    {items : List Item} {worker finish : ContextWorker} :
    Outcome.forEach body items worker = .returned finish ↔
      (∀ item ∈ items, good item) ∧ finish = worker.sending (items.flatMap due) := by
  induction items generalizing worker with
  | nil =>
      rw [Outcome.forEach, List.flatMap_nil, sending_nil, Outcome.returned.injEq]
      constructor
      · rintro rfl
        exact ⟨fun _ hmem => absurd hmem List.not_mem_nil, rfl⟩
      · rintro ⟨-, rfl⟩
        rfl
  | cons item items ih =>
      rw [Outcome.forEach, Outcome.andThen_eq_returned, List.flatMap_cons, ← sending_sending]
      constructor
      · rintro ⟨middle, hfirst, hrest⟩
        have hgood := hbody.good_of_returned item worker middle hfirst
        obtain rfl : worker.sending (due item) = middle :=
          Outcome.returned.inj ((hbody.returned item worker hgood).symm.trans hfirst)
        obtain ⟨hitems, hfinish⟩ := ih.mp hrest
        exact ⟨List.forall_mem_cons.mpr ⟨hgood, hitems⟩, hfinish⟩
      · rintro ⟨hgood, rfl⟩
        obtain ⟨hfirst, hitems⟩ := List.forall_mem_cons.mp hgood
        exact ⟨_, hbody.returned item worker hfirst, ih.mpr ⟨hitems, rfl⟩⟩

/-- The message is a response of the service with the transaction code of the
request, and with nothing else. -/
structure IsBareResponse (receivedMessage message : ModuleMessage TransactionCode) : Prop where
  header : message.header = some ⟨surroundings.serviceIdentifier, .serviceResponse,
    (surroundings.codec.headerOf receivedMessage).transactionCode⟩
  request : message.request = none
  subscriptionRequest : message.subscriptionRequest = none

/-- The answer to the sender, which `CopyFrom` must return for: a response with the
transaction code of the request, and no payload. -/
def dueResponse (sender : Sender) (receivedMessage : ModuleMessage TransactionCode) (_ : Any) :
    List (Endpoint × List Byte) :=
  [(sender.senderEndpoint, surroundings.codec.serialize ⟨some ⟨surroundings.serviceIdentifier,
    .serviceResponse, (surroundings.codec.headerOf receivedMessage).transactionCode⟩, none, none⟩)]

theorem sendsFor_sendResponse (sender : Sender)
    (receivedMessage : ModuleMessage TransactionCode) :
    SendsFor (sendResponse surroundings sender receivedMessage)
      (fun response => surroundings.copyFrom response ≠ none)
      (dueResponse surroundings sender receivedMessage) := by
  constructor
  · intro response worker hcopy
    rw [sendResponse]
    cases hfilled : surroundings.copyFrom response with
    | none => exact absurd hfilled hcopy
    | some filled => rfl
  · intro response worker next hreturned hnone
    rw [sendResponse, hnone] at hreturned
    cases hreturned

variable [OfNat TransactionCode 19]

/-- The request with its message to a subscriber, wherever its record says. -/
def dueRequest (entry : Int32 × Any) : List (Endpoint × List Byte) :=
  match destination surroundings entry.1 with
  | .ok (some endpoint) => [(endpoint, surroundings.codec.serialize
      ⟨some ⟨surroundings.serviceIdentifier, .serviceRequest, 19⟩, some ⟨some entry.2⟩, none⟩)]
  | _ => []

theorem sendsFor_sendServiceRequest :
    SendsFor (sendServiceRequest surroundings) (fun entry => Tolerable surroundings entry.1)
      (dueRequest surroundings) := by
  have hbody : ∀ (entry : Int32 × Any) (worker : ContextWorker),
      sendServiceRequest surroundings entry worker =
        match destination surroundings entry.1 with
        | .error error => .thrown error worker
        | .ok none => .returned worker
        | .ok (some endpoint) => .returned (worker.asyncSendTo
            (surroundings.codec.serialize (serviceRequest surroundings entry.2)) endpoint) := by
    intro entry worker
    rw [sendServiceRequest, destination]
    cases ModulesCollection.getModule surroundings.findOne entry.1 with
    | error error => rfl
    | ok found =>
        cases found with
        | none => rfl
        | some destinationModule =>
            cases haddress : surroundings.addressFromString destinationModule.ipAddress <;>
              simp only [haddress]
  constructor
  · intro entry worker htolerable
    obtain ⟨found, hfound⟩ := (exists_destination_iff surroundings).mpr htolerable
    rw [hbody, dueRequest, hfound]
    cases found with
    | none => rw [sending_nil]
    | some endpoint => rfl
  · intro entry worker next hreturned
    apply (exists_destination_iff surroundings).mp
    rw [hbody] at hreturned
    cases hdestination : destination surroundings entry.1 with
    | error error =>
        rw [hdestination] at hreturned
        cases hreturned
    | ok found => exact ⟨found, rfl⟩

/-! ## One request -/

/-- The handler calls for a request that have answered with a message. -/
def notifications (worker : ContextWorker) (anyMessage : Any) : List (Int32 × Any) :=
  (worker.subscriptionEventsCache.handlerCalls anyMessage).filterMap HandlerCall.serviceRequest

theorem handleSubscriptions_eq_returned {worker finish : ContextWorker} {anyMessage : Any} :
    handleSubscriptions surroundings anyMessage worker = .returned finish ↔
      (∀ call ∈ worker.subscriptionEventsCache.handlerCalls anyMessage, call.answer ≠ none) ∧
        (∀ entry ∈ notifications worker anyMessage, Tolerable surroundings entry.1) ∧
        finish = worker.sending
          ((notifications worker anyMessage).flatMap (dueRequest surroundings)) := by
  rw [handleSubscriptions]
  cases htrigger : worker.subscriptionEventsCache.triggerMessageHandlers anyMessage with
  | none =>
      obtain ⟨call, hmem, hnull⟩ := triggerMessageHandlers_eq_none.mp htrigger
      constructor
      · intro hreturned
        cases hreturned
      · rintro ⟨hanswered, -⟩
        exact absurd hnull (hanswered call hmem)
  | some requests =>
      obtain ⟨hanswered, rfl⟩ := triggerMessageHandlers_eq_some.mp htrigger
      apply (sendsFor_sendServiceRequest surroundings).forEach_eq_returned.trans
      constructor
      · intro hloop
        exact ⟨hanswered, hloop⟩
      · rintro ⟨-, hloop⟩
        exact hloop

theorem handleRequest_eq_returned {worker finish : ContextWorker} {sender : Sender}
    {receivedMessage : ModuleMessage TransactionCode} {request : Request} :
    handleRequest surroundings sender receivedMessage request worker = .returned finish ↔
      (∀ response ∈ worker.messageEventsCache.responses sender request.payload,
        surroundings.copyFrom response ≠ none) ∧
      (∀ call ∈ worker.subscriptionEventsCache.handlerCalls request.payload,
        call.answer ≠ none) ∧
      (∀ entry ∈ notifications worker request.payload, Tolerable surroundings entry.1) ∧
      finish = worker.sending
        ((worker.messageEventsCache.responses sender request.payload).flatMap
            (dueResponse surroundings sender receivedMessage) ++
          (notifications worker request.payload).flatMap (dueRequest surroundings)) := by
  rw [handleRequest, MessageEventsCache.triggerMessageHandlers_eq, ← sending_sending]
  apply Outcome.andThen_eq_returned.trans
  constructor
  · rintro ⟨middle, hresponses, hsubscriptions⟩
    obtain ⟨hcopied, rfl⟩ :=
      (sendsFor_sendResponse surroundings sender receivedMessage).forEach_eq_returned.mp
        hresponses
    exact ⟨hcopied, (handleSubscriptions_eq_returned surroundings).mp hsubscriptions⟩
  · rintro ⟨hcopied, hsubscriptions⟩
    exact ⟨_, (sendsFor_sendResponse surroundings sender receivedMessage).forEach_eq_returned.mpr
      ⟨hcopied, rfl⟩, (handleSubscriptions_eq_returned surroundings).mpr hsubscriptions⟩

/-- The message is a request of the service that carries this payload. -/
structure IsServiceRequest (anyMessage : Any) (message : ModuleMessage TransactionCode) :
    Prop where
  header : message.header = some ⟨surroundings.serviceIdentifier, .serviceRequest, 19⟩
  request : message.request = some ⟨some anyMessage⟩
  subscriptionRequest : message.subscriptionRequest = none

/-- What is sent for an entry: one request with its message at the recorded
address and port if the record is well formed, and no more than a request with
its message anyway. -/
structure IsNotified (entry : Int32 × Any) (sent : List (Endpoint × List Byte)) : Prop where
  exactly : ∀ endpoint, WellFormedRecord surroundings entry.1 endpoint →
    ∃ message, IsServiceRequest surroundings entry.2 message ∧
      sent = [(endpoint, surroundings.codec.serialize message)]
  length_le : sent.length ≤ 1
  message : ∀ datagram ∈ sent, ∃ message, IsServiceRequest surroundings entry.2 message ∧
    datagram.2 = surroundings.codec.serialize message

/-- No exception leaves the receive handler, and behind the answers to the
sender every handler call that has answered is notified. -/
def Isolated (worker : ContextWorker) (datagram : List Byte) (endpoint : Endpoint)
    (receivedMessage : ModuleMessage TransactionCode) (request : Request) : Prop :=
  ∃ finish answers groups,
    receive surroundings datagram endpoint worker = .returned finish ∧
      finish.sent = worker.sent ++ (answers ++ groups.flatten) ∧
      (∀ answer ∈ answers, ∃ message, IsBareResponse surroundings receivedMessage message ∧
        answer = (endpoint, surroundings.codec.serialize message)) ∧
      List.Forall₂ (IsNotified surroundings) (notifications worker request.payload) groups

theorem isNotified_dueRequest (entry : Int32 × Any) :
    IsNotified surroundings entry (dueRequest surroundings entry) := by
  constructor
  · intro endpoint hrecord
    rw [dueRequest, destination_of_wellFormed surroundings hrecord]
    exact ⟨_, ⟨rfl, rfl, rfl⟩, rfl⟩
  · rw [dueRequest]
    split
    · exact Nat.le_refl 1
    · exact Nat.zero_le 1
  · intro datagram hmem
    rw [dueRequest] at hmem
    split at hmem
    · rw [List.mem_singleton.mp hmem]
      exact ⟨_, ⟨rfl, rfl, rfl⟩, rfl⟩
    · cases hmem

/-- Failures are isolated exactly when there are none that matter: `CopyFrom`
returns for every answer to the sender, no handler is called through a null
pointer, and the record of every subscriber to notify is absent, well formed or
wrong in a way that decoding tolerates. -/
theorem isolated_iff {worker : ContextWorker} {datagram : List Byte} {endpoint : Endpoint}
    {receivedMessage : ModuleMessage TransactionCode} {request : Request}
    (hparse : surroundings.codec.parse (datagram.take worker.messageBuffer.length) =
      some receivedMessage)
    (hcode : (surroundings.codec.headerOf receivedMessage).operationCode = .moduleRequest)
    (hrequest : receivedMessage.request = some request) :
    Isolated surroundings worker datagram endpoint receivedMessage request ↔
      (∀ response ∈ worker.messageEventsCache.responses
          (senderOf surroundings endpoint receivedMessage) request.payload,
        surroundings.copyFrom response ≠ none) ∧
      (∀ call ∈ worker.subscriptionEventsCache.handlerCalls request.payload,
        call.answer ≠ none) ∧
      ∀ entry ∈ notifications worker request.payload, Tolerable surroundings entry.1 := by
  rw [Isolated, receive_eq_handleRequest surroundings hparse hcode hrequest]
  constructor
  · rintro ⟨finish, answers, groups, hreturned, -, -, -⟩
    obtain ⟨hcopied, hanswered, htolerable, -⟩ :=
      (handleRequest_eq_returned surroundings).mp hreturned
    exact ⟨hcopied, hanswered, htolerable⟩
  · rintro ⟨hcopied, hanswered, htolerable⟩
    let sender := senderOf surroundings endpoint receivedMessage
    let answers := (worker.messageEventsCache.responses sender request.payload).flatMap
      (dueResponse surroundings sender receivedMessage)
    let groups := (notifications worker request.payload).map (dueRequest surroundings)
    let ready := (worker.finishReceive datagram endpoint).startRead
    refine ⟨ready.sending (answers ++ groups.flatten), answers, groups, ?_, rfl, ?_, ?_⟩
    · apply (handleRequest_eq_returned surroundings).mpr
      exact ⟨hcopied, hanswered, htolerable, rfl⟩
    · intro answer hmem
      obtain ⟨response, -, hanswer⟩ := List.mem_flatMap.mp hmem
      exact ⟨_, ⟨rfl, rfl, rfl⟩, List.mem_singleton.mp hanswer⟩
    · rw [List.forall₂_map_right_iff, List.forall₂_same]
      intro entry _
      exact isNotified_dueRequest surroundings entry

/-! ## Two subscribers -/

private def position : Any := ⟨"t/GPS".toList, [1, 2]⟩

private def report : ModuleMessage UInt32 where
  header := some ⟨0x2A000001, .moduleRequest, 5⟩
  request := some ⟨some position⟩
  subscriptionRequest := none

/-- A record of a module that listens on port 5000. -/
private def fullRecord : Document :=
  [("ModuleIdentifier".toList, .int32 8), ("ConnectionState".toList, .int32 1),
    ("IpAddress".toList, .utf8 "10.0.0.8".toList), ("Port".toList, .int32 5000)]

/-- The modules 7, with the given record, and 8. -/
private def collection (record : Document) : Surroundings UInt32 where
  codec := .plain
  serviceIdentifier := 0x34000001
  copyFrom _ := none
  findOne identifier := .ok (some (if identifier = 7 then record else fullRecord))
  addressFromString text := if text = "10.0.0.8".toList then some [10, 0, 0, 8] else none

/-- An event that passes each message on to the modules 7 and 8. -/
private def forwarding : ContextWorker :=
  .create ⟨[]⟩ ⟨[⟨0, "GPS".toList, [7, 8], ⟨some ⟨fun _ any => (some any, any)⟩⟩⟩]⟩

private theorem parse_report :
    Codec.plain.parse ((Codec.plain.serialize report).take forwarding.messageBuffer.length) =
      some report := by
  have hlength : forwarding.messageBuffer.length = 1024 := List.length_replicate
  rw [hlength]
  decide

private theorem notifications_forwarding :
    notifications forwarding position = [(7, position), (8, position)] := by
  decide

/-- The address of module 7 is a number, and module 8 is notified. -/
theorem isolated_of_tolerable_record :
    Isolated (collection [("ModuleIdentifier".toList, .int32 7),
        ("ConnectionState".toList, .int32 1), ("IpAddress".toList, .int32 3)])
      forwarding (Codec.plain.serialize report) ⟨[127, 0, 0, 1], 4000⟩ report
      ⟨some position⟩ := by
  apply (isolated_iff (collection _) parse_report rfl rfl).mpr
  refine ⟨?_, ?_, ?_⟩
  · intro response hmem
    cases hmem
  · have htrigger : forwarding.subscriptionEventsCache.triggerMessageHandlers position =
        some [(7, position), (8, position)] := by decide
    exact (triggerMessageHandlers_eq_some.mp htrigger).1
  · intro entry hmem
    change entry ∈ notifications forwarding position at hmem
    rw [notifications_forwarding] at hmem
    rcases List.mem_pair.mp hmem with rfl | rfl
    · exact (exists_destination_iff _).mp ⟨none, rfl⟩
    · exact (exists_destination_iff _).mp ⟨some ⟨[10, 0, 0, 8], 5000⟩, rfl⟩

/-- Module 7 has no port in its record, and module 8 is not notified. -/
theorem missing_port_stops_notifications :
    ¬ Isolated (collection [("ModuleIdentifier".toList, .int32 7),
        ("ConnectionState".toList, .int32 1), ("IpAddress".toList, .utf8 "10.0.0.8".toList)])
      forwarding (Codec.plain.serialize report) ⟨[127, 0, 0, 1], 4000⟩ report
      ⟨some position⟩ := by
  rintro ⟨finish, answers, groups, hreturned, -⟩
  rw [receive_eq_handleRequest (collection _) parse_report rfl rfl] at hreturned
  cases hreturned

end ProcessManagerService.Worker
