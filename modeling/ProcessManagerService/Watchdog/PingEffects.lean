import ProcessManagerService.Connection.TimerFrame
import ProcessManagerService.Connection.WritingFrame
import ProcessManagerService.Watchdog.ErrorContainment

/-!
# What a response does to the pings

A handled response can start the ping timer, and on the catching path it can
send a request again.  Only a ping response does either of it for pings: it
starts the timer when it carries the sequence code of the session, and it asks
for another ping when it carries another one.  It does so in every connection
state, unlike the connect and the reconnect response.
-/

namespace ProcessManagerService.Watchdog

open Communication Connection TimerFrame WritingFrame
open WatchdogConnection (delivery request getWatchdogResponseHandler)

/-- The ping request of a session. -/
def pingOf (protobuf : Protobuf) (session : Session) : Message Operation :=
  request .pingRequest (protobuf.serializePingRequest session.sequenceCode)

/-- How often handling a message starts the ping timer. -/
def armedBy (protobuf : Protobuf) (session : Session) (message : Message Operation) : ℕ :=
  (delivery message).elim 0 fun response =>
    (response.reaction protobuf session).actions.count .pingTimerSet

/-- The requests that the catching path sends again. -/
def resentBy (protobuf : Protobuf) (serviceIdentifier : Int32) (session : Session) :
    Option ErrorCode → List (Message Operation)
  | some .resendConnectRequest =>
      [request .connectRequest (protobuf.serializeConnectRequest serviceIdentifier)]
  | some .resendPingRequest => [pingOf protobuf session]
  | some .resendReconnectRequest =>
      [request .reconnectRequest (protobuf.serializeReconnectRequest serviceIdentifier)]
  | some .failedToParse => []
  | none => []

/-- The message parses as a ping response with this sequence code. -/
def AnswersPing (protobuf : Protobuf) (message : Message Operation) (code : UInt32) : Prop :=
  message.header.operationCode = .pingResponse ∧
    ∃ data, protobuf.parsePingResponse message.body = some data ∧ data.sequenceCode = code

/-! ## Which responses concern pings -/

section Reactions

variable (protobuf : Protobuf) (session : Session)

theorem raised_onParsed_ne {parsed : Option ConnectResponseData}
    {connectionState : ConnectionState} {handle : ConnectResponseData → Reaction}
    (hhandle : ∀ data, (handle data).raised ≠ some .resendPingRequest) :
    (onParsed parsed connectionState handle).raised ≠ some .resendPingRequest := by
  cases parsed with
  | none => simp [onParsed, Reaction.throws]
  | some data =>
      cases connectionState with
      | notConnected => exact hhandle data
      | connected => simp [onParsed, Reaction.nothing]
      | shutdown => simp [onParsed, Reaction.nothing]

/-- The connect and the reconnect handler have nothing to do with pings. -/
theorem reaction_of_not_ping {response : Delivery} (hhandler : response.handler ≠ .ping) :
    (response.reaction protobuf session).actions.count .pingTimerSet = 0 ∧
      (response.reaction protobuf session).raised ≠ some .resendPingRequest := by
  obtain ⟨handler, body⟩ := response
  cases handler with
  | connect =>
      constructor
      · rcases onParsed_cases (protobuf.parseConnectResponse body) session
          handleConnectResponse_cases with ⟨code, -, -, hentered⟩ | ⟨-, hactions⟩
        · exact congrArg (fun reaction => List.count Action.pingTimerSet reaction.actions)
            hentered
        · exact congrArg (List.count Action.pingTimerSet) hactions
      · apply raised_onParsed_ne
        intro data
        rw [raised_handleConnectResponse]
        split <;> simp
  | reconnect =>
      constructor
      · rcases onParsed_cases (protobuf.parseReconnectResponse body) session
          handleReconnectResponse_cases with ⟨code, -, -, hentered⟩ | ⟨-, hactions⟩
        · exact congrArg (fun reaction => List.count Action.pingTimerSet reaction.actions)
            hentered
        · exact congrArg (List.count Action.pingTimerSet) hactions
      · apply raised_onParsed_ne
        intro data
        rw [raised_handleReconnectResponse]
        split <;> simp
  | ping => exact absurd rfl hhandler

/-- A message of another operation code concerns no ping. -/
theorem ping_free_of_operation {message : Message Operation}
    (hoperation : message.header.operationCode ≠ .pingResponse) :
    armedBy protobuf session message = 0 ∧
      raisedBy protobuf session message ≠ some .resendPingRequest := by
  rw [armedBy, raisedBy]
  cases hdelivery : delivery message with
  | none => exact ⟨rfl, by simp⟩
  | some response =>
      apply reaction_of_not_ping
      rw [delivery] at hdelivery
      obtain ⟨handler, hhandler, rfl⟩ := Option.map_eq_some_iff.mp hdelivery
      intro hping
      obtain rfl : handler = .ping := hping
      cases hcode : message.header.operationCode <;>
        simp [hcode, getWatchdogResponseHandler] at hhandler hoperation

/-- What a ping response leads to. -/
theorem ping_response_cases {message : Message Operation}
    (hoperation : message.header.operationCode = .pingResponse) :
    (AnswersPing protobuf message session.sequenceCode ∧
      armedBy protobuf session message = 1 ∧ raisedBy protobuf session message = none) ∨
    ((∃ code ≠ session.sequenceCode, AnswersPing protobuf message code) ∧
      armedBy protobuf session message = 0 ∧
      raisedBy protobuf session message = some .resendPingRequest) ∨
    ((∀ code, ¬ AnswersPing protobuf message code) ∧ armedBy protobuf session message = 0 ∧
      raisedBy protobuf session message = some .failedToParse) := by
  have hdelivery : delivery message = some ⟨.ping, message.body⟩ := by
    rw [delivery, hoperation]
    rfl
  have hreaction : (⟨.ping, message.body⟩ : Delivery).reaction protobuf session =
      WatchdogPingResponseHandler.handleResponse protobuf session message.body := rfl
  simp only [armedBy, raisedBy, hdelivery, Option.elim_some, Option.bind_some, hreaction,
    WatchdogPingResponseHandler.handleResponse, AnswersPing, hoperation, true_and]
  cases hparsed : protobuf.parsePingResponse message.body with
  | none => exact .inr (.inr ⟨by simp, rfl, rfl⟩)
  | some data =>
      by_cases hcode : session.sequenceCode = data.sequenceCode
      · exact .inl ⟨⟨data, rfl, hcode.symm⟩, by simp [hcode], by simp [hcode]⟩
      · exact .inr (.inl ⟨⟨_, Ne.symm hcode, data, rfl, rfl⟩, by simp [hcode, Reaction.throws],
          by simp [hcode, Reaction.throws]⟩)

/-- The timer is started only by a response with the code of the session. -/
theorem answersPing_of_armed {message : Message Operation}
    (harmed : armedBy protobuf session message ≠ 0) :
    AnswersPing protobuf message session.sequenceCode := by
  by_cases hoperation : message.header.operationCode = .pingResponse
  · rcases ping_response_cases protobuf session hoperation with
      ⟨hanswers, -⟩ | ⟨-, hnone, -⟩ | ⟨-, hnone, -⟩
    · exact hanswers
    · exact absurd hnone harmed
    · exact absurd hnone harmed
  · exact absurd (ping_free_of_operation protobuf session hoperation).1 harmed

theorem armedBy_of_answersPing {message : Message Operation}
    (hanswers : AnswersPing protobuf message session.sequenceCode) :
    armedBy protobuf session message = 1 := by
  rcases ping_response_cases protobuf session hanswers.1 with
    ⟨-, hone, -⟩ | ⟨⟨code, hcode, hother⟩, -⟩ | ⟨hfailed, -⟩
  · exact hone
  · obtain ⟨-, data, hdata, rfl⟩ := hother
    obtain ⟨-, same, hsame, hequal⟩ := hanswers
    rw [hdata, Option.some.injEq] at hsame
    exact absurd (hsame ▸ hequal) hcode
  · exact absurd hanswers (hfailed _)

/-- Another ping is asked for only by a ping response that parses. -/
theorem exists_answersPing_of_raised {message : Message Operation}
    (hraised : raisedBy protobuf session message = some .resendPingRequest) :
    ∃ code, AnswersPing protobuf message code := by
  by_cases hoperation : message.header.operationCode = .pingResponse
  · rcases ping_response_cases protobuf session hoperation with
      ⟨hanswers, -⟩ | ⟨⟨code, -, hanswers⟩, -⟩ | ⟨-, -, hfailed⟩
    · exact ⟨_, hanswers⟩
    · exact ⟨code, hanswers⟩
    · rw [hfailed] at hraised
      cases hraised
  · exact absurd hraised (ping_free_of_operation protobuf session hoperation).2

/-- A ping is resent only when the exception asks for it. -/
theorem raised_of_mem_resentBy {serviceIdentifier : Int32} {raised : Option ErrorCode}
    {message : Message Operation}
    (hmem : message ∈ resentBy protobuf serviceIdentifier session raised)
    (hoperation : message.header.operationCode = .pingRequest) :
    raised = some .resendPingRequest ∧ message = pingOf protobuf session := by
  cases raised with
  | none => cases hmem
  | some errorCode =>
      cases errorCode with
      | failedToParse => cases hmem
      | resendPingRequest => exact ⟨rfl, List.mem_singleton.mp hmem⟩
      | resendConnectRequest =>
          rw [List.mem_singleton.mp hmem] at hoperation
          cases hoperation
      | resendReconnectRequest =>
          rw [List.mem_singleton.mp hmem] at hoperation
          cases hoperation

end Reactions

/-! ## What handling a message does to the connection -/

section Effects

variable {protobuf : Protobuf} {object next : WatchdogConnection}

theorem length_waits_performAll (object : WatchdogConnection) (actions : List Action) :
    (waits (object.performAll actions).base).length =
      (waits object.base).length + actions.count .pingTimerSet := by
  induction actions generalizing object with
  | nil => rfl
  | cons action actions ih =>
      rw [WatchdogConnection.performAll, List.foldl_cons]
      refine (ih (object.perform action)).trans ?_
      cases action with
      | pingTimerSet =>
          have hset : waits (object.perform .pingTimerSet).base =
              (waits object.base).map AsyncOperation.abortWait ++ [.timerWait 3000 false] :=
            waits_setTimerExpiration object.base 3000
          rw [hset, List.length_append, List.length_map, List.count_cons_self,
            List.length_singleton]
          omega
      | _ => rw [List.count_cons_of_ne (by simp)]; rfl

/-- The path from the socket sends nothing. -/
theorem handleReceivedMessage_effect {receivedMessage : Option (Message Operation)}
    (hreturned : object.handleReceivedMessage protobuf receivedMessage = .returned next) :
    next.base.messagesQueue = object.base.messagesQueue ∧
      (waits next.base).length = (waits object.base).length +
        receivedMessage.elim 0 (armedBy protobuf object.session) := by
  refine ⟨(WatchdogConnection.handleReceivedMessage_spec hreturned).2.1, ?_⟩
  cases receivedMessage with
  | none =>
      cases hreturned
      rfl
  | some message =>
      rw [WatchdogConnection.handleReceivedMessage] at hreturned
      rw [Option.elim_some, armedBy, delivery]
      split at hreturned
      next handler hhandler =>
        obtain ⟨-, rfl⟩ := WatchdogConnection.react_eq_returned.mp hreturned
        rw [hhandler]
        exact length_waits_performAll object _
      next hhandler =>
        cases hreturned
        rw [hhandler]
        rfl

variable [HeaderLayout Operation] {serviceIdentifier : Int32}

theorem send_effect {message : Message Operation} (hsend : object.send message = .returned next) :
    next.session = object.session ∧ Queues object.base next.base [message] ∧
      waits next.base = waits object.base := by
  obtain ⟨base, hbase, rfl⟩ := Option.map_eq_some_iff.mp (Outcome.ofOption_eq_returned.mp hsend)
  exact ⟨rfl, queues_of_sendMessage hbase, waits_of_sendMessage hbase⟩

/-- What `processCaughtResponseException` sends. -/
theorem processCaughtResponseException_effect {errorCode : ErrorCode}
    (hprocess : object.processCaughtResponseException protobuf serviceIdentifier errorCode =
      .returned next) :
    next.session = object.session ∧
      Queues object.base next.base
        (resentBy protobuf serviceIdentifier object.session (some errorCode)) ∧
      waits next.base = waits object.base := by
  cases errorCode with
  | failedToParse =>
      cases hprocess
      exact ⟨rfl, queues_nil rfl rfl rfl, rfl⟩
  | _ => exact send_effect hprocess

theorem queues_performAll (object : WatchdogConnection) (actions : List Action) :
    Queues object.base (object.performAll actions).base [] := by
  induction actions generalizing object with
  | nil => exact queues_nil rfl rfl rfl
  | cons action actions ih =>
      have hfirst : Queues object.base (object.perform action).base [] := by
        cases action with
        | pingTimerSet =>
            exact queues_of_writingSide (writingSide_setTimerExpiration object.base 3000)
        | _ => exact queues_nil rfl rfl rfl
      exact hfirst.trans (ih (object.perform action))

/-- The catching path performs the actions of the handler and sends what its
exception asks for. -/
theorem catching_effect {handler : ResponseHandler} {body : List Byte} {reaction : Reaction}
    (hreaction : handler.handleResponse protobuf object.session body = reaction)
    (hreturned : object.handleResponse protobuf serviceIdentifier (some handler) body =
      .returned next) :
    next.session = object.session.performAll reaction.actions ∧
      Queues object.base next.base
        (resentBy protobuf serviceIdentifier object.session reaction.raised) ∧
      (waits next.base).length =
        (waits object.base).length + reaction.actions.count .pingTimerSet := by
  obtain ⟨-, -, hsession⟩ := WatchdogConnection.performAll_spec object reaction.actions
  have hqueues := queues_performAll object reaction.actions
  have hwaits := length_waits_performAll object reaction.actions
  simp only [WatchdogConnection.handleResponse, WatchdogConnection.react, hreaction]
    at hreturned
  cases hraised : reaction.raised with
  | none =>
      rw [hraised] at hreturned
      cases hreturned
      exact ⟨hsession, hqueues, hwaits⟩
  | some errorCode =>
      rw [hraised] at hreturned
      have hraises :
          ((⟨handler, body⟩ : Delivery).reaction protobuf object.session).raised ≠ none := by
        rw [Delivery.reaction, hreaction, hraised]
        simp
      have hsame : object.session.performAll reaction.actions = object.session := by
        rw [← hreaction]
        exact deliver_of_raised protobuf hraises
      replace hreturned : (object.performAll reaction.actions).processCaughtResponseException
          protobuf serviceIdentifier errorCode = .returned next := hreturned
      obtain ⟨hkept, hresent, hwaiting⟩ := processCaughtResponseException_effect hreturned
      rw [hsession, hsame] at hresent
      exact ⟨hkept.trans hsession, hqueues.trans hresent, hwaiting ▸ hwaits⟩

theorem handleResponse_effect {message : Message Operation}
    (hreturned : object.handleResponse protobuf serviceIdentifier
      (getWatchdogResponseHandler message.header.operationCode) message.body =
        .returned next) :
    next.session = ((delivery message).elim object.session fun response =>
        response.deliver protobuf object.session) ∧
      Queues object.base next.base (resentBy protobuf serviceIdentifier object.session
        (raisedBy protobuf object.session message)) ∧
      (waits next.base).length =
        (waits object.base).length + armedBy protobuf object.session message := by
  rw [raisedBy, armedBy, delivery]
  cases hhandler : getWatchdogResponseHandler message.header.operationCode with
  | none =>
      rw [hhandler] at hreturned
      cases hreturned
      exact ⟨rfl, queues_nil rfl rfl rfl, rfl⟩
  | some handler =>
      rw [hhandler] at hreturned
      exact catching_effect rfl hreturned

end Effects

end ProcessManagerService.Watchdog
