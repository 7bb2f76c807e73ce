import ProcessManagerService.Core.Communication

/-!
# Watchdog response handlers

The three handlers of `ServiceWatchdogResponseHandlers.cpp` share one sequence
code and one connection state.  A handler is modelled by what it does to them,
in order, and by the exception it ends with.  The protobuf library is a
parameter: an arbitrary partial parser for each response and a serialiser for
each request.
-/

namespace ProcessManagerService.Watchdog

open Communication

/-- `WatchdogService::ResponseCode`, an open enumeration. -/
inductive ResponseCode where
  | success
  | invalidConnectionState
  | notServiceIdentifier
  | serviceNotExists
  | unknown
  | other (value : Int32)
  deriving DecidableEq

/-- `WatchdogService::ConnectionState`, which a response reports. -/
inductive ReportedState where
  | registered
  | connected
  | disconnected
  | other (value : Int32)
  deriving DecidableEq

/-- `none` stands for a field that is not present. -/
structure ConnectResponseData where
  responseCode : ResponseCode
  sequenceCode : Option UInt32
  connectionState : Option ReportedState

/-- The reconnect response has the same fields. -/
abbrev ReconnectResponseData := ConnectResponseData

structure PingResponseData where
  sequenceCode : UInt32

/-- The generated protobuf code, as far as the watchdog connection uses it. -/
structure Protobuf where
  parseConnectResponse : List Byte → Option ConnectResponseData
  parsePingResponse : List Byte → Option PingResponseData
  parseReconnectResponse : List Byte → Option ReconnectResponseData
  serializeConnectRequest : Int32 → List Byte
  serializePingRequest : UInt32 → List Byte
  serializeReconnectRequest : Int32 → List Byte
  serializeShutdownRequest : Int32 → List Byte

/-- `WatchdogConnectionState::ConnectionState`.  The value is only written with
these names, so the `default` branches over it are never taken. -/
inductive ConnectionState where
  | notConnected
  | connected
  | shutdown
  deriving DecidableEq

/-- `WatchdogResponseHandlerException::ErrorCode`. -/
inductive ErrorCode where
  | resendConnectRequest
  | resendPingRequest
  | resendReconnectRequest
  | failedToParse
  deriving DecidableEq

/-- The connection state and the sequence code that the handlers share. -/
structure Session where
  connectionState : ConnectionState
  sequenceCode : UInt32
  deriving DecidableEq

/-- An effect of a handler. -/
inductive Action where
  | writeSequenceCode (code : UInt32)
  | setConnectionStateAndNotify (connectionState : ConnectionState)
  | pingTimerSet
  deriving DecidableEq

/-- The effects of a handler and the exception that ends it. -/
structure Reaction where
  actions : List Action
  raised : Option ErrorCode
  deriving DecidableEq

namespace Reaction

def nothing : Reaction := ⟨[], none⟩

def throws (errorCode : ErrorCode) : Reaction := ⟨[], some errorCode⟩

/-- The sequence code is written before the state is changed. -/
def connects (code : UInt32) : Reaction :=
  ⟨[.writeSequenceCode code, .setConnectionStateAndNotify .connected], none⟩

end Reaction

/-! ## What the connect and the reconnect handler have in common -/

def onParsed (parsed : Option ConnectResponseData) (connectionState : ConnectionState)
    (handle : ConnectResponseData → Reaction) : Reaction :=
  match parsed with
  | none => .throws .failedToParse
  | some data =>
      match connectionState with
      | .notConnected => handle data
      | .connected => .nothing
      | .shutdown => .nothing

def onFailure (invalidState : ConnectResponseData → Reaction) (data : ConnectResponseData) :
    Reaction :=
  match data.responseCode with
  | .invalidConnectionState => invalidState data
  | .notServiceIdentifier => .nothing
  | .serviceNotExists => .nothing
  | _ => .nothing

def onInvalidState (resend : ErrorCode) (data : ConnectResponseData) : Reaction :=
  match data.connectionState with
  | some .registered => .throws resend
  | some .connected => .nothing
  | some .disconnected => .throws resend
  | some (.other _) => .nothing
  | none => .nothing

namespace WatchdogConnectResponseHandler

def handleResponseInvalidConnectionState (data : ConnectResponseData) : Reaction :=
  onInvalidState .resendConnectRequest data

def handleReceivedConnectFailure (data : ConnectResponseData) : Reaction :=
  onFailure handleResponseInvalidConnectionState data

/-- The presence of the sequence code is tested first, also for a failure. -/
def handleConnectResponse (data : ConnectResponseData) : Reaction :=
  match data.sequenceCode with
  | none => .nothing
  | some code =>
      if data.responseCode ≠ .success then handleReceivedConnectFailure data
      else .connects code

def handleResponse (protobuf : Protobuf) (session : Session) (receivedResponse : List Byte) :
    Reaction :=
  onParsed (protobuf.parseConnectResponse receivedResponse) session.connectionState
    handleConnectResponse

end WatchdogConnectResponseHandler

namespace WatchdogPingResponseHandler

def handleResponse (protobuf : Protobuf) (session : Session) (receivedResponse : List Byte) :
    Reaction :=
  match protobuf.parsePingResponse receivedResponse with
  | none => .throws .failedToParse
  | some data =>
      if session.sequenceCode = data.sequenceCode then ⟨[.pingTimerSet], none⟩
      else .throws .resendPingRequest

end WatchdogPingResponseHandler

namespace WatchdogReconnectResponseHandler

def handleResponseInvalidReconnectionState (data : ReconnectResponseData) : Reaction :=
  onInvalidState .resendReconnectRequest data

def handleReceivedReconnectFailure (data : ReconnectResponseData) : Reaction :=
  onFailure handleResponseInvalidReconnectionState data

/-- The response code is tested first, and a failure needs no sequence code. -/
def handleReconnectResponse (data : ReconnectResponseData) : Reaction :=
  if data.responseCode ≠ .success then handleReceivedReconnectFailure data
  else
    match data.sequenceCode with
    | none => .nothing
    | some code => .connects code

def handleResponse (protobuf : Protobuf) (session : Session) (receivedResponse : List Byte) :
    Reaction :=
  onParsed (protobuf.parseReconnectResponse receivedResponse) session.connectionState
    handleReconnectResponse

end WatchdogReconnectResponseHandler

/-- The classes derived from `WatchdogResponseHandler`. -/
inductive ResponseHandler where
  | connect
  | ping
  | reconnect
  deriving DecidableEq

/-- The virtual `handleResponse`. -/
def ResponseHandler.handleResponse (protobuf : Protobuf) (session : Session)
    (receivedResponse : List Byte) : ResponseHandler → Reaction
  | connect => WatchdogConnectResponseHandler.handleResponse protobuf session receivedResponse
  | ping => WatchdogPingResponseHandler.handleResponse protobuf session receivedResponse
  | reconnect =>
      WatchdogReconnectResponseHandler.handleResponse protobuf session receivedResponse

end ProcessManagerService.Watchdog
