import ProcessManagerService.Connection.ReadLoop
import ProcessManagerService.Watchdog.Session

/-!
# WatchdogConnection

The class that `ServiceWatchdogConnection.cpp` derives from `TcpConnection`.
Two paths lead to a response handler: `handleResponse` catches what the handler
raises and resends the request it asks for, and `handleReceivedMessage` calls
the handler directly.  Only the second one is reached from the socket, so what
a handler raises leaves the read loop.
-/

namespace ProcessManagerService.Watchdog

open Communication Connection

/-- `WatchdogService::Operation`, an open 32-bit enumeration.  The numbers of its
seven names are not part of the repository. -/
inductive Operation where
  | connectRequest
  | connectResponse
  | pingRequest
  | pingResponse
  | reconnectRequest
  | reconnectResponse
  | shutdownRequest
  | other (value : Fin (UInt32.size - 7))
  deriving DecidableEq, Inhabited

namespace Operation

/-- One numbering of the names; what depends on a layout is proved for all of
them. -/
def code : Operation → UInt32
  | connectRequest => 0
  | connectResponse => 1
  | pingRequest => 2
  | pingResponse => 3
  | reconnectRequest => 4
  | reconnectResponse => 5
  | shutdownRequest => 6
  | other value => UInt32.ofNat (value.val + 7)

def ofCode (code : UInt32) : Operation :=
  match code.toNat with
  | 0 => connectRequest
  | 1 => connectResponse
  | 2 => pingRequest
  | 3 => pingResponse
  | 4 => reconnectRequest
  | 5 => reconnectResponse
  | 6 => shutdownRequest
  | value + 7 => if hvalue : value < UInt32.size - 7 then other ⟨value, hvalue⟩ else default

theorem ofCode_code (operation : Operation) : ofCode operation.code = operation := by
  cases operation with
  | other value =>
      have hword : (UInt32.ofNat (value.val + 7)).toNat = value.val + 7 := by
        rw [UInt32.toNat_ofNat']
        exact Nat.mod_eq_of_lt (Nat.add_lt_of_lt_sub value.isLt)
      rw [code, ofCode, hword]
      exact dif_pos value.isLt
  | _ => rfl

@[reducible]
def layout : HeaderLayout Operation := littleEndianLayout code ofCode ofCode_code

end Operation

/-- `session` is the referenced `WatchdogConnectionState` together with the
member `sequenceCode`. -/
structure WatchdogConnection where
  base : TcpConnection Operation
  session : Session

/-- The constructor leaves `sequenceCode` uninitialised. -/
def WatchdogConnection.create (sequenceCode : UInt32) : WatchdogConnection :=
  ⟨TcpConnection.create, ⟨.notConnected, sequenceCode⟩⟩

namespace WatchdogConnection

/-- `startPingTimer` is what the ping handler calls as `pingTimerSet`. -/
def perform (object : WatchdogConnection) (action : Action) : WatchdogConnection where
  base :=
    match action with
    | .pingTimerSet => object.base.setTimerExpiration 3000
    | _ => object.base
  session := object.session.perform action

def performAll (object : WatchdogConnection) (actions : List Action) : WatchdogConnection :=
  actions.foldl perform object

def react (object : WatchdogConnection) (reaction : Reaction) :
    Outcome ErrorCode WatchdogConnection :=
  match reaction.raised with
  | none => .returned (object.performAll reaction.actions)
  | some errorCode => .thrown errorCode (object.performAll reaction.actions)

def getWatchdogResponseHandler : Operation → Option ResponseHandler
  | .connectResponse => some .connect
  | .pingResponse => some .ping
  | .reconnectResponse => some .reconnect
  | _ => none

def handleReceivedMessage (protobuf : Protobuf) (object : WatchdogConnection)
    (receivedMessage : Option (Message Operation)) : Outcome ErrorCode WatchdogConnection :=
  match receivedMessage with
  | none => .returned object
  | some message =>
      match getWatchdogResponseHandler message.header.operationCode with
      | some handler => object.react (handler.handleResponse protobuf object.session message.body)
      | none => .returned object

/-! ## Requests -/

/-- Every request announces the size of its serialised body. -/
def request (operation : Operation) (body : List Byte) : Message Operation :=
  ⟨⟨operation, UInt32.ofNat body.length⟩, body⟩

theorem wellSized_request (operation : Operation) {body : List Byte}
    (hlength : body.length < UInt32.size) : (request operation body).WellSized :=
  Message.wellSized_of_size_eq rfl hlength

section Requests

variable [HeaderLayout Operation] (protobuf : Protobuf) (serviceIdentifier : Int32)

def send (object : WatchdogConnection) (message : Message Operation) :
    Outcome ErrorCode WatchdogConnection :=
  .ofOption object ((object.base.sendMessage message).map fun base => { object with base })

def sendConnectRequest (object : WatchdogConnection) : Outcome ErrorCode WatchdogConnection :=
  object.send (request .connectRequest (protobuf.serializeConnectRequest serviceIdentifier))

def sendPingRequest (object : WatchdogConnection) : Outcome ErrorCode WatchdogConnection :=
  object.send
    (request .pingRequest (protobuf.serializePingRequest object.session.sequenceCode))

def sendReconnectRequest (object : WatchdogConnection) :
    Outcome ErrorCode WatchdogConnection :=
  object.send (request .reconnectRequest (protobuf.serializeReconnectRequest serviceIdentifier))

def sendShutdownRequest (object : WatchdogConnection) : Outcome ErrorCode WatchdogConnection :=
  object.send (request .shutdownRequest (protobuf.serializeShutdownRequest serviceIdentifier))

def onTimerExpiration (object : WatchdogConnection) : Outcome ErrorCode WatchdogConnection :=
  object.sendPingRequest protobuf

def processCaughtResponseException (object : WatchdogConnection) (errorCode : ErrorCode) :
    Outcome ErrorCode WatchdogConnection :=
  match errorCode with
  | .failedToParse => .returned object
  | .resendConnectRequest => object.sendConnectRequest protobuf serviceIdentifier
  | .resendPingRequest => object.sendPingRequest protobuf
  | .resendReconnectRequest => object.sendReconnectRequest protobuf serviceIdentifier

/-- The catching path, which no function calls. -/
def handleResponse (object : WatchdogConnection)
    (watchdogResponseHandler : Option ResponseHandler) (receivedResponse : List Byte) :
    Outcome ErrorCode WatchdogConnection :=
  match watchdogResponseHandler with
  | some handler =>
      (object.react (handler.handleResponse protobuf object.session receivedResponse)).catching
        fun errorCode caught =>
          caught.processCaughtResponseException protobuf serviceIdentifier errorCode
  | none => .returned object

end Requests

/-! ## As a class derived from `TcpConnection` -/

theorem performAll_spec (object : WatchdogConnection) (actions : List Action) :
    (object.performAll actions).base.readingSide = object.base.readingSide ∧
      (object.performAll actions).base.messagesQueue = object.base.messagesQueue ∧
      (object.performAll actions).session = object.session.performAll actions := by
  induction actions generalizing object with
  | nil => exact ⟨rfl, rfl, rfl⟩
  | cons action actions ih =>
      obtain ⟨hside, hqueue, hsession⟩ := ih (object.perform action)
      refine ⟨hside.trans ?_, hqueue.trans ?_, hsession⟩
      · cases action <;> simp [perform]
      · cases action <;> rfl

theorem react_eq_returned {object next : WatchdogConnection} {reaction : Reaction} :
    object.react reaction = .returned next ↔
      reaction.raised = none ∧ object.performAll reaction.actions = next := by
  rw [react]
  cases reaction.raised <;> simp

/-- The response handler that a message is given to, with its body. -/
def delivery (message : Message Operation) : Option Delivery :=
  (getWatchdogResponseHandler message.header.operationCode).map fun handler =>
    ⟨handler, message.body⟩

/-- A message that is handled normally has changed the session as its response
handler does, and has left the reading side and the queue alone. -/
theorem handleReceivedMessage_spec {protobuf : Protobuf} {object next : WatchdogConnection}
    {receivedMessage : Option (Message Operation)}
    (hreturned : object.handleReceivedMessage protobuf receivedMessage = .returned next) :
    next.base.readingSide = object.base.readingSide ∧
      next.base.messagesQueue = object.base.messagesQueue ∧
      next.session = (receivedMessage.bind delivery).elim object.session fun delivery =>
        delivery.deliver protobuf object.session := by
  cases receivedMessage with
  | none =>
      cases hreturned
      exact ⟨rfl, rfl, rfl⟩
  | some message =>
      rw [Option.bind_some, delivery]
      rw [handleReceivedMessage] at hreturned
      split at hreturned
      next handler hhandler =>
        obtain ⟨-, rfl⟩ := react_eq_returned.mp hreturned
        rw [hhandler]
        exact performAll_spec object _
      next hhandler =>
        cases hreturned
        rw [hhandler]
        exact ⟨rfl, rfl, rfl⟩

/-- What the response handler has done stays done where it throws. -/
theorem state_handleReceivedMessage (protobuf : Protobuf) (object : WatchdogConnection)
    (receivedMessage : Option (Message Operation)) :
    (object.handleReceivedMessage protobuf receivedMessage).state.base.messagesQueue =
        object.base.messagesQueue ∧
      (object.handleReceivedMessage protobuf receivedMessage).state.session =
        (receivedMessage.bind delivery).elim object.session fun delivery =>
          delivery.deliver protobuf object.session := by
  have hreact : ∀ reaction, (object.react reaction).state =
      object.performAll reaction.actions := by
    intro reaction
    rw [react]
    cases reaction.raised <;> rfl
  cases receivedMessage with
  | none => exact ⟨rfl, rfl⟩
  | some message =>
      rw [Option.bind_some, delivery, handleReceivedMessage]
      cases getWatchdogResponseHandler message.header.operationCode with
      | none => exact ⟨rfl, rfl⟩
      | some handler =>
          dsimp only
          rw [hreact]
          exact (performAll_spec object _).2

/-- `WatchdogConnection` as a class derived from `TcpConnection`. -/
def derived [HeaderLayout Operation] (protobuf : Protobuf) :
    DerivedConnection Operation WatchdogConnection ErrorCode where
  base := base
  withBase object base := { object with base }
  base_withBase _ _ := rfl
  handleReceivedMessage := handleReceivedMessage protobuf
  onTimerExpiration := onTimerExpiration protobuf
  readingSide_handleReceivedMessage object message next hreturned :=
    (handleReceivedMessage_spec hreturned).1
  readingSide_onTimerExpiration object next hreturned := by
    obtain ⟨base, hsend, rfl⟩ := Option.map_eq_some_iff.mp
      (Outcome.ofOption_eq_returned.mp hreturned)
    exact ReadLoop.readingSide_of_sendMessage hsend

end WatchdogConnection

end ProcessManagerService.Watchdog
