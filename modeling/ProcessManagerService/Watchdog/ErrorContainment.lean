import ProcessManagerService.Connection.WriteChain
import ProcessManagerService.Watchdog.WatchdogConnection

/-!
# Containment of handler errors

What a response handler raises asks for a request to be sent again.  The
catching path `handleResponse` does that, but the path from the socket does not
go through it: there an exception leaves `handleReceivedMessage` and takes the
next read with it.  The errors are contained on exactly those messages on which
no handler raises one.
-/

namespace ProcessManagerService.Watchdog

open Communication Connection WatchdogConnection

/-- The requests that an exception asks to send again. -/
def resends : Option ErrorCode → List Operation
  | some .resendConnectRequest => [.connectRequest]
  | some .resendPingRequest => [.pingRequest]
  | some .resendReconnectRequest => [.reconnectRequest]
  | some .failedToParse => []
  | none => []

/-- What the selected response handler raises. -/
def raisedBy (protobuf : Protobuf) (session : Session) (message : Message Operation) :
    Option ErrorCode :=
  (delivery message).bind fun delivery => (delivery.reaction protobuf session).raised

/-- The message is handled without an exception, the requests handed to
`sendMessage` are those that the selected handler asked for, and the completion
handler of the body read starts the next read. -/
structure Contained [HeaderLayout Operation] (protobuf : Protobuf)
    (object : WatchdogConnection) (message : Message Operation) : Prop where
  handled : ∃ next requests,
    object.handleReceivedMessage protobuf (some message) = .returned next ∧
    next.base.messagesQueue.pushed = object.base.messagesQueue.pushed ++ requests ∧
    requests.map (fun request => request.header.operationCode) =
      resends (raisedBy protobuf object.session message)
  reads : ∃ next,
    (derived protobuf).postReadMessageBody
      { object with base := { object.base with incomingMessage := some message } } false =
        .returned next ∧
    next.base.readingSide.reads = object.base.readingSide.reads ++ [.readHeader]

/-- The response reports a state in which the request is to be sent again. -/
def AsksAgain (data : ConnectResponseData) : Prop :=
  data.responseCode = .invalidConnectionState ∧
    (data.connectionState = some .registered ∨ data.connectionState = some .disconnected)

instance (data : ConnectResponseData) : Decidable (AsksAgain data) :=
  inferInstanceAs (Decidable (_ ∧ _))

/-- The message parses, and what it says needs no request to be sent again: a
connect response only asks for one with a sequence code, a reconnect response
also without. -/
def Harmless (protobuf : Protobuf) (session : Session) (message : Message Operation) : Prop :=
  match message.header.operationCode with
  | .connectResponse => ∃ data, protobuf.parseConnectResponse message.body = some data ∧
      (session.connectionState = .notConnected → data.sequenceCode ≠ none → ¬ AsksAgain data)
  | .pingResponse => ∃ data, protobuf.parsePingResponse message.body = some data ∧
      session.sequenceCode = data.sequenceCode
  | .reconnectResponse => ∃ data, protobuf.parseReconnectResponse message.body = some data ∧
      (session.connectionState = .notConnected → ¬ AsksAgain data)
  | _ => True

/-! ## When the handlers raise -/

theorem raised_onFailure (resend : ErrorCode) (data : ConnectResponseData) :
    (onFailure (onInvalidState resend) data).raised =
      if AsksAgain data then some resend else none := by
  rw [onFailure]
  cases hcode : data.responseCode with
  | invalidConnectionState =>
      simp only [onInvalidState, AsksAgain, hcode, true_and]
      cases hstate : data.connectionState with
      | none => simp [Reaction.nothing]
      | some state => cases state <;> simp [Reaction.nothing, Reaction.throws]
  | _ => simp [AsksAgain, hcode, Reaction.nothing]

theorem raised_onParsed_eq_none {parsed : Option ConnectResponseData}
    {connectionState : ConnectionState} {handle : ConnectResponseData → Reaction} :
    (onParsed parsed connectionState handle).raised = none ↔
      ∃ data, parsed = some data ∧
        (connectionState = .notConnected → (handle data).raised = none) := by
  cases parsed with
  | none => simp [onParsed, Reaction.throws]
  | some data => cases connectionState <;> simp [onParsed, Reaction.nothing]

/-- A success asks for nothing again. -/
theorem not_asksAgain_of_success {data : ConnectResponseData}
    (hsuccess : data.responseCode = .success) : ¬ AsksAgain data := by
  intro hasks
  have hcode := hasks.1
  rw [hsuccess] at hcode
  cases hcode

theorem raised_handleConnectResponse (data : ConnectResponseData) :
    (WatchdogConnectResponseHandler.handleConnectResponse data).raised =
      if data.sequenceCode ≠ none ∧ AsksAgain data then some .resendConnectRequest
      else none := by
  rw [WatchdogConnectResponseHandler.handleConnectResponse]
  cases hcode : data.sequenceCode with
  | none => simp [Reaction.nothing]
  | some code =>
      by_cases hsuccess : data.responseCode = .success
      · simp [hsuccess, Reaction.connects, not_asksAgain_of_success hsuccess]
      · have hfailure : (WatchdogConnectResponseHandler.handleReceivedConnectFailure data).raised =
            if AsksAgain data then some .resendConnectRequest else none :=
          raised_onFailure .resendConnectRequest data
        simpa [hsuccess] using hfailure

theorem raised_handleReconnectResponse (data : ReconnectResponseData) :
    (WatchdogReconnectResponseHandler.handleReconnectResponse data).raised =
      if AsksAgain data then some .resendReconnectRequest else none := by
  rw [WatchdogReconnectResponseHandler.handleReconnectResponse]
  by_cases hsuccess : data.responseCode = .success
  · cases hcode : data.sequenceCode <;>
      simp [hsuccess, Reaction.connects, Reaction.nothing, not_asksAgain_of_success hsuccess]
  · have hfailure :
        (WatchdogReconnectResponseHandler.handleReceivedReconnectFailure data).raised =
          if AsksAgain data then some .resendReconnectRequest else none :=
      raised_onFailure .resendReconnectRequest data
    simpa [hsuccess] using hfailure

theorem raised_ping_eq_none (protobuf : Protobuf) (session : Session) (body : List Byte) :
    (WatchdogPingResponseHandler.handleResponse protobuf session body).raised = none ↔
      ∃ data, protobuf.parsePingResponse body = some data ∧
        session.sequenceCode = data.sequenceCode := by
  rw [WatchdogPingResponseHandler.handleResponse]
  cases hparsed : protobuf.parsePingResponse body with
  | none => simp [Reaction.throws]
  | some data =>
      by_cases hcode : session.sequenceCode = data.sequenceCode <;>
        simp [hcode, Reaction.throws]

theorem raisedBy_eq_none_iff (protobuf : Protobuf) (session : Session)
    (message : Message Operation) :
    raisedBy protobuf session message = none ↔ Harmless protobuf session message := by
  rw [raisedBy, delivery, Harmless]
  cases hcode : message.header.operationCode with
  | connectResponse =>
      apply raised_onParsed_eq_none.trans
      simp [raised_handleConnectResponse]
  | reconnectResponse =>
      apply raised_onParsed_eq_none.trans
      simp [raised_handleReconnectResponse]
  | pingResponse => exact raised_ping_eq_none protobuf session message.body
  | _ => simp [getWatchdogResponseHandler]

/-! ## Where the exceptions go -/

section Paths

variable {protobuf : Protobuf} {object : WatchdogConnection} {message : Message Operation}

/-- Without an exception the call returns, and has pushed no message and started
no read. -/
theorem handleReceivedMessage_of_quiet (hquiet : raisedBy protobuf object.session message = none) :
    ∃ next, object.handleReceivedMessage protobuf (some message) = .returned next ∧
      next.base.messagesQueue = object.base.messagesQueue ∧
      next.base.readingSide = object.base.readingSide := by
  have hreturns : ∃ next,
      object.handleReceivedMessage protobuf (some message) = .returned next := by
    rw [raisedBy, delivery] at hquiet
    rw [handleReceivedMessage]
    cases hhandler : getWatchdogResponseHandler message.header.operationCode with
    | none => exact ⟨object, rfl⟩
    | some handler =>
        rw [hhandler] at hquiet
        exact ⟨_, react_eq_returned.mpr ⟨hquiet, rfl⟩⟩
  obtain ⟨next, hreturned⟩ := hreturns
  obtain ⟨hside, hqueue, -⟩ := handleReceivedMessage_spec hreturned
  exact ⟨next, hreturned, hqueue, hside⟩

/-- What a handler raises leaves `handleReceivedMessage`. -/
theorem handleReceivedMessage_of_raised {errorCode : ErrorCode}
    (hraised : raisedBy protobuf object.session message = some errorCode) :
    ∃ left, object.handleReceivedMessage protobuf (some message) = .thrown errorCode left := by
  rw [raisedBy, delivery] at hraised
  rw [handleReceivedMessage]
  cases hhandler : getWatchdogResponseHandler message.header.operationCode with
  | none =>
      rw [hhandler] at hraised
      cases hraised
  | some handler =>
      rw [hhandler] at hraised
      have hreaction :
          (handler.handleResponse protobuf object.session message.body).raised =
            some errorCode := hraised
      refine ⟨object.performAll
        (handler.handleResponse protobuf object.session message.body).actions, ?_⟩
      simp only [react, hreaction]

variable [HeaderLayout Operation]

/-- Whatever the state of the connection, a request given to `sendMessage` is
queued. -/
theorem send_eq_returned (object : WatchdogConnection) (message : Message Operation) :
    ∃ next, object.send message = .returned next ∧
      next.base.messagesQueue = object.base.messagesQueue.push message := by
  have hsend : ∃ connection, object.base.sendMessage message = some connection ∧
      connection.messagesQueue = object.base.messagesQueue.push message := by
    by_cases hbusy : object.base.socket.isOpen = false ∨ object.base.sendingInProgress = true
    · exact ⟨_, WriteChain.sendMessage_of_busy message hbusy, rfl⟩
    · obtain ⟨hopen, hsending⟩ := not_or.mp hbusy
      obtain ⟨front, rest, hitems⟩ := List.exists_cons_of_ne_nil
        (List.concat_ne_nil message object.base.messagesQueue.items)
      exact ⟨_, WriteChain.sendMessage_of_idle (Bool.not_eq_false _ ▸ hopen)
        (Bool.not_eq_true _ ▸ hsending) hitems, rfl⟩
  obtain ⟨connection, hconnection, hqueue⟩ := hsend
  exact ⟨{ object with base := connection }, by rw [send, hconnection]; rfl, hqueue⟩

/-- The catching path lets no exception out and resends the one request that
the exception asks for. -/
theorem handleResponse_contains (protobuf : Protobuf) (serviceIdentifier : Int32)
    (object : WatchdogConnection) (handler : ResponseHandler) (receivedResponse : List Byte) :
    ∃ next requests,
      object.handleResponse protobuf serviceIdentifier (some handler) receivedResponse =
        .returned next ∧
      next.base.messagesQueue.pushed = object.base.messagesQueue.pushed ++ requests ∧
      requests.map (fun request => request.header.operationCode) =
        resends (handler.handleResponse protobuf object.session receivedResponse).raised := by
  have hqueue := (performAll_spec object
    (handler.handleResponse protobuf object.session receivedResponse).actions).2.1
  rw [handleResponse]
  simp only [react]
  cases hraised : (handler.handleResponse protobuf object.session receivedResponse).raised with
  | none => exact ⟨_, [], rfl, by rw [hqueue, List.append_nil], rfl⟩
  | some errorCode =>
      have hresent : ∀ (caught : WatchdogConnection) (message : Message Operation),
          caught.base.messagesQueue = object.base.messagesQueue →
          ∃ next, caught.send message = .returned next ∧
            next.base.messagesQueue.pushed = object.base.messagesQueue.pushed ++ [message] := by
        intro caught message hcaught
        obtain ⟨next, hsent, hpushed⟩ := send_eq_returned caught message
        exact ⟨next, hsent, by rw [hpushed, MessageQueue.pushed_push, hcaught]⟩
      cases errorCode with
      | failedToParse => exact ⟨_, [], rfl, by rw [hqueue, List.append_nil], rfl⟩
      | resendConnectRequest =>
          obtain ⟨next, hsent, hpushed⟩ := hresent _ _ hqueue
          exact ⟨next, [_], hsent, hpushed, rfl⟩
      | resendPingRequest =>
          obtain ⟨next, hsent, hpushed⟩ := hresent _ _ hqueue
          exact ⟨next, [_], hsent, hpushed, rfl⟩
      | resendReconnectRequest =>
          obtain ⟨next, hsent, hpushed⟩ := hresent _ _ hqueue
          exact ⟨next, [_], hsent, hpushed, rfl⟩

/-- The completion handler of a body read starts the next read after a message
that raises nothing. -/
theorem reads_of_quiet (hquiet : raisedBy protobuf object.session message = none) :
    ∃ next,
      (derived protobuf).postReadMessageBody
        { object with base := { object.base with incomingMessage := some message } } false =
          .returned next ∧
      next.base.readingSide.reads = object.base.readingSide.reads ++ [.readHeader] := by
  let moved : WatchdogConnection :=
    { object with base := { object.base with incomingMessage := none } }
  have hmoved : raisedBy protobuf moved.session message = none := hquiet
  obtain ⟨handled, hhandled, -, hside⟩ := handleReceivedMessage_of_quiet hmoved
  refine ⟨(derived protobuf).update handled TcpConnection.startReadingSequence, ?_, ?_⟩
  · rw [DerivedConnection.postReadMessageBody, if_neg Bool.false_ne_true]
    exact congrArg (fun outcome => Outcome.andThen outcome _) hhandled
  · calc ((derived protobuf).update handled
          TcpConnection.startReadingSequence).base.readingSide.reads
        = handled.base.readingSide.reads ++ [AsyncOperation.readHeader] :=
          congrArg ReadingSide.reads
            (ReadLoop.readingSide_startReadingSequence handled.base)
      _ = object.base.readingSide.reads ++ [.readHeader] := by rw [hside]; rfl

/-- The errors of a message are contained exactly when it raises none: nothing
on the way from the socket to the handlers catches an exception. -/
theorem contained_iff (protobuf : Protobuf) (object : WatchdogConnection)
    (message : Message Operation) :
    Contained protobuf object message ↔ Harmless protobuf object.session message := by
  rw [← raisedBy_eq_none_iff]
  constructor
  · intro hcontained
    obtain ⟨next, -, hreturned, -⟩ := hcontained.handled
    cases hraised : raisedBy protobuf object.session message with
    | none => rfl
    | some errorCode =>
        obtain ⟨left, hthrown⟩ := handleReceivedMessage_of_raised hraised
        rw [hthrown] at hreturned
        cases hreturned
  · intro hquiet
    obtain ⟨next, hreturned, hqueue, -⟩ := handleReceivedMessage_of_quiet hquiet
    refine ⟨⟨next, [], hreturned, ?_, ?_⟩, reads_of_quiet hquiet⟩
    · rw [hqueue, List.append_nil]
    · rw [hquiet]
      rfl

end Paths

/-- A protobuf library at the byte `0xff`, which is the start of a tag that never
ends. -/
private def rejecting : Protobuf where
  parseConnectResponse _ := none
  parsePingResponse _ := none
  parseReconnectResponse _ := none
  serializeConnectRequest _ := []
  serializePingRequest _ := []
  serializeReconnectRequest _ := []
  serializeShutdownRequest _ := []

/-- A ping response that does not parse ends the read loop of an open
connection with an exception. -/
theorem unparsable_ping_escapes :
    letI := Operation.layout
    let message : Message Operation := ⟨⟨.pingResponse, 1⟩, [0xff]⟩
    let object : WatchdogConnection := ⟨(TcpConnection.create.connect true).2, ⟨.connected, 7⟩⟩
    object.handleReceivedMessage rejecting (some message) = .thrown .failedToParse object ∧
      ¬ Contained rejecting object message := by
  let layout := Operation.layout
  refine ⟨rfl, ?_⟩
  intro hcontained
  obtain ⟨next, requests, hreturned, -⟩ := hcontained.handled
  cases hreturned

end ProcessManagerService.Watchdog
