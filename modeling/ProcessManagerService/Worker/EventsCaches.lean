import ProcessManagerService.Worker.ModuleMessage

/-!
# Events and their caches

The handlers that a service registers: message events, which may answer a
request, and subscribe events, which may notify subscribers of it.  A callback
is user code that returns normally; a null callback pointer is `none`, and
calling through it is undefined.  The message events may be any; the subscription
events come with the member functions that register them.
-/

namespace ProcessManagerService.Worker

open Communication

/-- `boost::asio::ip::address`, as its octets. -/
abbrev Address := List Byte

/-- `boost::asio::ip::udp::endpoint`. -/
structure Endpoint where
  address : Address
  port : UInt16
  deriving DecidableEq, Inhabited

structure Sender where
  senderIdentifier : Int32
  senderEndpoint : Endpoint
  deriving DecidableEq

/-! ## Message events -/

/-- The object behind the pointer `T` of `MessageEvent<T>`.  A returned pointer
to an `Any` is taken to be valid. -/
structure MessageCallback where
  validate : Any → Bool
  run : Sender → Any → Option Any

/-- `MessageEvent<T>`, the class derived from `EventInterface`. -/
structure MessageEvent where
  callback : Option MessageCallback

namespace MessageEvent

def validateMessage (event : MessageEvent) (any : Any) : Bool :=
  match event.callback with
  | some callback => callback.validate any
  | none => false

def handleReceivedMessage (event : MessageEvent) (sender : Sender) (any : Any) :
    Option (Option Any) :=
  event.callback.map fun callback => callback.run sender any

/-- The response of an event to a message that it validates. -/
def response (event : MessageEvent) (sender : Sender) (any : Any) : Option Any :=
  event.callback.bind fun callback =>
    if callback.validate any then callback.run sender any else none

end MessageEvent

/-- The events with their identifiers, in registration order. -/
structure MessageEventsCache where
  events : List (UInt32 × MessageEvent)

namespace MessageEventsCache

/-- The body of the loop over the events. -/
def collect (sender : Sender) (anyMessage : Any) (responses : List Any)
    (event : UInt32 × MessageEvent) : Option (List Any) :=
  if event.2.validateMessage anyMessage then
    (event.2.handleReceivedMessage sender anyMessage).map fun response =>
      responses ++ response.toList
  else some responses

def triggerMessageHandlers (cache : MessageEventsCache) (sender : Sender) (anyMessage : Any) :
    Option (List Any) :=
  cache.events.foldlM (collect sender anyMessage) []

/-- The responses of the registered events, in registration order. -/
def responses (cache : MessageEventsCache) (sender : Sender) (anyMessage : Any) : List Any :=
  cache.events.filterMap fun event => event.2.response sender anyMessage

theorem responses_eq_nil_iff {cache : MessageEventsCache} {sender : Sender}
    {anyMessage : Any} :
    cache.responses sender anyMessage = [] ↔
      ∀ event ∈ cache.events, event.2.response sender anyMessage = none :=
  List.filterMap_eq_nil_iff

/-- A null callback validates nothing, so none is called. -/
theorem collect_eq (sender : Sender) (anyMessage : Any) (responses : List Any)
    (event : UInt32 × MessageEvent) :
    collect sender anyMessage responses event =
      some (responses ++ (event.2.response sender anyMessage).toList) := by
  obtain ⟨identifier, ⟨callback⟩⟩ := event
  cases callback with
  | none => simp [collect, MessageEvent.validateMessage, MessageEvent.response]
  | some callback =>
      cases hvalid : callback.validate anyMessage <;>
        simp [collect, MessageEvent.validateMessage, MessageEvent.handleReceivedMessage,
          MessageEvent.response, hvalid]

theorem triggerMessageHandlers_eq (cache : MessageEventsCache) (sender : Sender)
    (anyMessage : Any) :
    cache.triggerMessageHandlers sender anyMessage = some (cache.responses sender anyMessage) := by
  have hloop : ∀ (events : List (UInt32 × MessageEvent)) (collected : List Any),
      events.foldlM (collect sender anyMessage) collected =
        some (collected ++ events.filterMap fun event => event.2.response sender anyMessage) := by
    intro events
    induction events with
    | nil =>
        intro collected
        rw [List.filterMap_nil, List.append_nil]
        rfl
    | cons event events ih =>
        intro collected
        let answers := (event.2.response sender anyMessage).toList
        calc (event :: events).foldlM (collect sender anyMessage) collected
            = events.foldlM (collect sender anyMessage) (collected ++ answers) := by
              rw [List.foldlM_cons, collect_eq]
              rfl
          _ = some (collected ++ answers ++
                events.filterMap fun event => event.2.response sender anyMessage) := ih _
          _ = some (collected ++ (event :: events).filterMap fun event =>
                event.2.response sender anyMessage) := by
              rw [List.append_assoc, List.filterMap_cons]
              simp only [answers]
              cases event.2.response sender anyMessage <;> rfl
  exact hloop cache.events []

end MessageEventsCache

/-! ## Subscribe events -/

/-- The object behind the pointer `T` of `SubscribeEvent<T>`.  It takes the
message by reference and may change it; the number of the call stands for
whatever else a call depends on. -/
structure SubscribeCallback where
  run : ℕ → Any → Option Any × Any

/-- `SubscribeEvent<T>`, the class derived from `SubscribeEventInterface`. -/
structure SubscribeEvent where
  callback : Option SubscribeCallback

def SubscribeEvent.subscriptionHandle (event : SubscribeEvent) (call : ℕ) (any : Any) :
    Option (Option Any × Any) :=
  event.callback.map fun callback => callback.run call any

structure Subscription where
  id : UInt32
  messageType : Text
  subscribers : List Int32
  event : SubscribeEvent

structure SubscriptionEventsCache where
  events : List Subscription

/-- `std::runtime_error`. -/
structure RuntimeError where
  what : String
  deriving DecidableEq

namespace SubscriptionEventsCache

/-- The loop over the events, which is left at the first other identifier. -/
def firstUnused (availableEventID : UInt32) : List Subscription → UInt32
  | [] => availableEventID
  | event :: events =>
      if event.id = availableEventID then firstUnused (availableEventID + 1) events
      else availableEventID

def getNewEventID (cache : SubscriptionEventsCache) : UInt32 :=
  firstUnused 0 cache.events

/-- A null pointer `newEvent` is `none`. -/
def addSubscriptionEvent (cache : SubscriptionEventsCache) (subscribeType : Text)
    (newEvent : Option SubscribeEvent) :
    Except RuntimeError (UInt32 × SubscriptionEventsCache) :=
  match newEvent with
  | some newEvent =>
      let subscriptionEventID := cache.getNewEventID
      .ok (subscriptionEventID,
        ⟨cache.events ++ [⟨subscriptionEventID, subscribeType, [], newEvent⟩]⟩)
  | none => .error ⟨"Trying to add null message event"⟩

/-- The local state of `triggerMessageHandlers`: the message, the calls made so
far and the collected requests. -/
structure Dispatch where
  anyMessage : Any
  calls : ℕ
  serviceRequests : List (Int32 × Any)

def notify (event : Subscription) (dispatch : Dispatch) (subscriber : Int32) :
    Option Dispatch :=
  (event.event.subscriptionHandle dispatch.calls dispatch.anyMessage).map fun handled =>
    { anyMessage := handled.2
      calls := dispatch.calls + 1
      serviceRequests := dispatch.serviceRequests ++
        (handled.1.map fun newMessage => (subscriber, newMessage)).toList }

def notifyAll (dispatch : Dispatch) (event : Subscription) : Option Dispatch :=
  if event.messageType.isSuffixOf dispatch.anyMessage.typeUrl then
    event.subscribers.foldlM (notify event) dispatch
  else some dispatch

def triggerMessageHandlers (cache : SubscriptionEventsCache) (anyMessage : Any) :
    Option (List (Int32 × Any)) :=
  (cache.events.foldlM notifyAll ⟨anyMessage, 0, []⟩).map Dispatch.serviceRequests

/-- `addSubscriber` with a type. -/
def addSubscriber (cache : SubscriptionEventsCache) (moduleIdentifier : Int32)
    (typeUrl : Text) : SubscriptionEventsCache where
  events := cache.events.map fun event =>
    if event.messageType = typeUrl then
      { event with subscribers := event.subscribers ++ [moduleIdentifier] }
    else event

/-- `addSubscriber` with an identifier, which looks for one event that has it. -/
def addSubscriberById (cache : SubscriptionEventsCache) (identifier : Int32)
    (subscribeEventID : UInt32) : SubscriptionEventsCache :=
  let iter := cache.events.findIdx fun event => event.id = subscribeEventID
  if iter < cache.events.length then
    ⟨cache.events.modify iter fun event =>
      { event with subscribers := event.subscribers ++ [identifier] }⟩
  else cache

end SubscriptionEventsCache

end ProcessManagerService.Worker
