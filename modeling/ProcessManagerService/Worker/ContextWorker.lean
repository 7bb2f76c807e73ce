import ProcessManagerService.Core.Outcome
import ProcessManagerService.Worker.ModulesCollection

/-!
# ContextWorker

The receive handler that `ServiceContextWorker.cpp` passes to
`async_receive_from`.  `receives` counts the receives that are outstanding and
`sent` records the datagrams given to `async_send_to`, each with the bytes that
its buffer held at the call.  The constructor always creates the socket, so the
test `if (socket)` of `startRead` succeeds.
-/

namespace ProcessManagerService.Worker

open Communication

/-- What the worker uses of the code around it: the generated message class,
the global service identifier, `Request::CopyFrom` with a message of another
type, which need not return, the query of the modules collection, and
`address::from_string`, which throws where it is `none`. -/
structure Surroundings (TransactionCode : Type*) where
  codec : Codec TransactionCode
  serviceIdentifier : Int32
  copyFrom : Any → Option Request
  findOne : Int32 → Except WorkerError (Option Document)
  addressFromString : Text → Option Address

structure ContextWorker where
  messageEventsCache : MessageEventsCache
  subscriptionEventsCache : SubscriptionEventsCache
  messageBuffer : List Byte
  remoteEndpoint : Endpoint
  receives : ℕ
  sent : List (Endpoint × List Byte)

namespace ContextWorker

/-- The constructor, which makes room for 1024 bytes. -/
def create (messageEventsCache : MessageEventsCache)
    (subscriptionEventsCache : SubscriptionEventsCache) : ContextWorker :=
  ⟨messageEventsCache, subscriptionEventsCache, List.replicate 1024 0, default, 0, []⟩

def asyncSendTo (worker : ContextWorker) (message : List Byte) (endpoint : Endpoint) :
    ContextWorker :=
  { worker with sent := worker.sent ++ [(endpoint, message)] }

/-- `startRead` up to the receive handler. -/
def startRead (worker : ContextWorker) : ContextWorker :=
  { worker with receives := worker.receives + 1 }

def handleReadError (worker : ContextWorker) : ContextWorker := worker

/-- An arriving datagram completes a receive: what fits into the buffer
overwrites its beginning. -/
def finishReceive (datagram : List Byte) (endpoint : Endpoint) (worker : ContextWorker) :
    ContextWorker :=
  { worker with
    messageBuffer := datagram.take worker.messageBuffer.length ++
      worker.messageBuffer.drop datagram.length
    remoteEndpoint := endpoint
    receives := worker.receives - 1 }

/-- What the handler copies out of the buffer is what fitted into it. -/
theorem take_messageBuffer_finishReceive (datagram : List Byte) (endpoint : Endpoint)
    (worker : ContextWorker) :
    (worker.finishReceive datagram endpoint).messageBuffer.take
        (min datagram.length worker.messageBuffer.length) =
      datagram.take worker.messageBuffer.length := by
  apply List.take_left'
  rw [List.length_take, Nat.min_comm]

section Handler

variable {TransactionCode : Type*} (surroundings : Surroundings TransactionCode)

/-- `responseMessage` as it is when it is serialised: the request that
`CopyFrom` has filled is not attached to it. -/
def responseMessage (receivedMessage : ModuleMessage TransactionCode) :
    ModuleMessage TransactionCode where
  header := some ⟨surroundings.serviceIdentifier, .serviceResponse,
    (surroundings.codec.headerOf receivedMessage).transactionCode⟩
  request := none
  subscriptionRequest := none

def sendResponse (sender : Sender) (receivedMessage : ModuleMessage TransactionCode)
    (response : Any) (worker : ContextWorker) : Outcome WorkerError ContextWorker :=
  match surroundings.copyFrom response with
  | none => .undefined worker
  | some _ => .returned (worker.asyncSendTo
      (surroundings.codec.serialize (responseMessage surroundings receivedMessage))
      sender.senderEndpoint)

variable [OfNat TransactionCode 19]

/-- The request to a subscriber, which carries the transaction code 19. -/
def serviceRequest (anyMessage : Any) : ModuleMessage TransactionCode where
  header := some ⟨surroundings.serviceIdentifier, .serviceRequest, 19⟩
  request := some ⟨some anyMessage⟩
  subscriptionRequest := none

def sendServiceRequest (response : Int32 × Any) (worker : ContextWorker) :
    Outcome WorkerError ContextWorker :=
  match ModulesCollection.getModule surroundings.findOne response.1 with
  | .error error => .thrown error worker
  | .ok none => .returned worker
  | .ok (some destinationModule) =>
      match surroundings.addressFromString destinationModule.ipAddress with
      | none => .thrown .invalidAddress worker
      | some address => .returned (worker.asyncSendTo
          (surroundings.codec.serialize (serviceRequest surroundings response.2))
          ⟨address, destinationModule.port⟩)

/-- The database environment has been initialised before. -/
def handleSubscriptions (anyMessage : Any) (worker : ContextWorker) :
    Outcome WorkerError ContextWorker :=
  match worker.subscriptionEventsCache.triggerMessageHandlers anyMessage with
  | none => .undefined worker
  | some responses => Outcome.forEach (sendServiceRequest surroundings) responses worker

def handleRequest (sender : Sender) (receivedMessage : ModuleMessage TransactionCode)
    (request : Request) (worker : ContextWorker) : Outcome WorkerError ContextWorker :=
  match worker.messageEventsCache.triggerMessageHandlers sender request.payload with
  | none => .undefined worker
  | some responses =>
      (Outcome.forEach (sendResponse surroundings sender receivedMessage) responses
        worker).andThen (handleSubscriptions surroundings request.payload)

/-- What follows once the handler listens again. -/
def processMessage (receivedMessageBuffer : List Byte) (senderEndpoint : Endpoint)
    (worker : ContextWorker) : Outcome WorkerError ContextWorker :=
  match surroundings.codec.parse receivedMessageBuffer with
  | none => .returned worker
  | some receivedMessage =>
      let header := surroundings.codec.headerOf receivedMessage
      if header.operationCode = .moduleRequest then
        match receivedMessage.request, receivedMessage.subscriptionRequest with
        | some request, _ => handleRequest surroundings
            ⟨header.senderIdentifier, senderEndpoint⟩ receivedMessage request worker
        | none, some subscriptionRequest => .returned { worker with
            subscriptionEventsCache := worker.subscriptionEventsCache.addSubscriber
              header.senderIdentifier subscriptionRequest.subscribedType }
        | none, none => .returned worker
      else .returned worker

/-- The receive handler. -/
def handleReceive (error : Bool) (bytesRead : ℕ) (worker : ContextWorker) :
    Outcome WorkerError ContextWorker :=
  if error then .returned worker.handleReadError
  else processMessage surroundings (worker.messageBuffer.take bytesRead) worker.remoteEndpoint
    worker.startRead

def receive (datagram : List Byte) (endpoint : Endpoint) (worker : ContextWorker) :
    Outcome WorkerError ContextWorker :=
  handleReceive surroundings false (min datagram.length worker.messageBuffer.length)
    (worker.finishReceive datagram endpoint)

end Handler

end ContextWorker

end ProcessManagerService.Worker
