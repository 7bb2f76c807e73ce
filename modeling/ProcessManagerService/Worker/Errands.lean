import ProcessManagerService.Worker.BrokerDelivery
import ProcessManagerService.Worker.EventManager

/-!
# Errands

The caches of the worker change for two reasons: the task registers an event, or
a datagram asks for a subscription.  A list of such errands is a history of the
caches, and it says what is due for each request in it: the answers of the message
handlers that the request finds, and the notifications of the events and the
subscribers that are there at a later point.
-/

namespace ProcessManagerService.Worker

open Communication

variable {TransactionCode : Type*}

/-- The caches, to which the event manager has references. -/
def ContextWorker.manager (worker : ContextWorker) : EventManager :=
  ⟨worker.messageEventsCache, worker.subscriptionEventsCache⟩

/-- What the worker is there for: a registration by the task, or what a datagram
asks for. -/
inductive Errand (TransactionCode : Type*) where
  | ofTask (registration : ManagerCall)
  | ofDatagram (demand : Demand TransactionCode)

namespace Errand

def registered : Errand TransactionCode → Option ManagerCall
  | .ofTask registration => some registration
  | .ofDatagram _ => none

def demanded : Errand TransactionCode → Option (Demand TransactionCode)
  | .ofTask _ => none
  | .ofDatagram demand => some demand

theorem filterMap_demanded (demands : List (Demand TransactionCode)) :
    (demands.map ofDatagram).filterMap demanded = demands := by
  rw [List.filterMap_map]
  exact List.filterMap_some

theorem filterMap_registered (demands : List (Demand TransactionCode)) :
    (demands.map ofDatagram).filterMap registered = [] := by
  rw [List.filterMap_map]
  exact List.filterMap_none demands

theorem registered_append_demands (errands : List (Errand TransactionCode))
    (demands : List (Demand TransactionCode)) :
    (errands ++ demands.map ofDatagram).filterMap registered = errands.filterMap registered := by
  rw [List.filterMap_append, filterMap_registered, List.append_nil]

/-- Without a registration the errands are demands. -/
theorem eq_map_of_registered {errands : List (Errand TransactionCode)}
    (hregistered : errands.filterMap registered = []) :
    errands = (errands.filterMap demanded).map ofDatagram := by
  induction errands with
  | nil => rfl
  | cons errand errands ih =>
      cases errand with
      | ofTask registration => cases hregistered
      | ofDatagram demand => exact congrArg (ofDatagram demand :: ·) (ih hregistered)

/-- What the errand is to the caches. -/
def call : Errand TransactionCode → Option ManagerCall
  | .ofTask registration => some registration
  | .ofDatagram (.subscription moduleIdentifier subscribedType) =>
      some (.addSubscriber moduleIdentifier subscribedType)
  | .ofDatagram (.request _ _ _) => none
  | .ofDatagram .nothing => none

end Errand

/-- The caches after the errands. -/
def managerFrom (initial : EventManager) (errands : List (Errand TransactionCode)) :
    EventManager :=
  (errands.filterMap Errand.call).foldl (fun manager call => (manager.perform call).2) initial

theorem managerFrom_append (initial : EventManager) (first second : List (Errand TransactionCode)) :
    managerFrom initial (first ++ second) = managerFrom (managerFrom initial first) second := by
  rw [managerFrom, List.filterMap_append, List.foldl_append]
  rfl

/-- Demands alone leave the message events as they are, and the subscription events
with the subscribers that a broker accepts. -/
theorem managerFrom_demands (worker : ContextWorker) (demands : List (Demand TransactionCode)) :
    managerFrom worker.manager (demands.map .ofDatagram) =
      ⟨worker.broker.messageEventsCache,
        worker.broker.registry (demands.flatMap Broker.accepts)⟩ := by
  induction demands using List.reverseRecOn with
  | nil => exact congrArg (EventManager.mk _) (Broker.registry_nil worker.broker).symm
  | append_singleton demands demand ih =>
      rw [List.map_append, managerFrom_append, ih, List.flatMap_append, List.flatMap_singleton]
      cases demand with
      | nothing =>
          rw [Broker.accepts, List.append_nil]
          rfl
      | request sender receivedMessage request =>
          rw [Broker.accepts, List.append_nil]
          rfl
      | subscription moduleIdentifier subscribedType =>
          rw [Broker.accepts, Broker.registry_append_singleton]
          rfl

/-- A registration leaves the events before it alone. -/
theorem getElem?_perform {manager : EventManager} {registration : ManagerCall} {place : ℕ}
    {event : Subscription} (hkind : registration.kind ≠ none)
    (hevent : manager.subscriptionEventsCache.events[place]? = some event) :
    (manager.perform registration).2.subscriptionEventsCache.events[place]? = some event := by
  cases registration with
  | registerNewEventHandler key eventHandler => cases eventHandler <;> exact hevent
  | registerNewSubscribtionHandler subscribeType subscriptionEvent =>
      cases subscriptionEvent with
      | none => exact hevent
      | some newEvent =>
          obtain ⟨hplace, -⟩ := List.getElem?_eq_some_iff.mp hevent
          exact (List.getElem?_append_left hplace).trans hevent
  | addSubscriber moduleIdentifier typeUrl => exact absurd rfl hkind
  | addSubscriberById identifier subscribeEventID => exact absurd rfl hkind

theorem getElem?_addSubscriber {manager : EventManager} {place : ℕ} {event : Subscription}
    (moduleIdentifier : Int32) (typeUrl : Text)
    (hevent : manager.subscriptionEventsCache.events[place]? = some event) :
    (manager.perform (.addSubscriber moduleIdentifier
        typeUrl)).2.subscriptionEventsCache.events[place]? = some { event with
      subscribers := event.subscribers ++
        Broker.subscribersTo [(moduleIdentifier, typeUrl)] event.messageType } := by
  rw [EventManager.perform, SubscriptionEventsCache.addSubscriber, List.getElem?_map, hevent,
    Option.map_some]
  by_cases htype : event.messageType = typeUrl
  · simp [htype, Broker.subscribersTo]
  · simp [htype, Ne.symm htype, Broker.subscribersTo]

/-- An event keeps its place, and those who ask for its type are added to its
subscribers. -/
theorem getElem?_managerFrom {manager : EventManager} {errands : List (Errand TransactionCode)}
    {place : ℕ} {event : Subscription}
    (hkind : ∀ registration ∈ errands.filterMap Errand.registered, registration.kind ≠ none)
    (hevent : manager.subscriptionEventsCache.events[place]? = some event) :
    (managerFrom manager errands).subscriptionEventsCache.events[place]? = some { event with
      subscribers := event.subscribers ++ Broker.subscribersTo
        ((errands.filterMap Errand.demanded).flatMap Broker.accepts) event.messageType } := by
  induction errands generalizing manager event with
  | nil =>
      have hnobody : event.subscribers ++ Broker.subscribersTo [] event.messageType =
          event.subscribers := List.append_nil _
      rw [List.filterMap_nil, List.flatMap_nil, hnobody]
      exact hevent
  | cons errand errands ih =>
      cases errand with
      | ofTask registration =>
          obtain ⟨hfirst, hrest⟩ := List.forall_mem_cons.mp hkind
          exact ih hrest (getElem?_perform hfirst hevent)
      | ofDatagram demand =>
          cases demand with
          | nothing => exact ih hkind hevent
          | request sender receivedMessage request => exact ih hkind hevent
          | subscription moduleIdentifier subscribedType =>
              have hadded := ih hkind
                (getElem?_addSubscriber moduleIdentifier subscribedType hevent)
              dsimp only at hadded
              rw [List.append_assoc, ← Broker.subscribersTo_append] at hadded
              exact hadded

/-! ## What is due -/

/-- What is sent for a demand that the one caches answer and the other ones notify
of. -/
def due [OfNat TransactionCode 19] (surroundings : Surroundings TransactionCode)
    (answering notifying : EventManager) :
    Demand TransactionCode → List (Endpoint × List Byte)
  | .request sender receivedMessage request =>
      (answering.messageEventsCache.responses sender request.payload).flatMap
          (dueResponse surroundings sender receivedMessage) ++
        ((notifying.subscriptionEventsCache.handlerCalls request.payload).filterMap
          HandlerCall.serviceRequest).flatMap (dueRequest surroundings)
  | .subscription _ _ => []
  | .nothing => []

/-- The demand with the ticket stands between these errands: so many demands are
before it. -/
structure Begun (errands before after : List (Errand TransactionCode)) (ticket : ℕ)
    (demand : Demand TransactionCode) : Prop where
  split : errands = before ++ .ofDatagram demand :: after
  place : (before.filterMap Errand.demanded).length = ticket

theorem Begun.append {errands before after : List (Errand TransactionCode)} {ticket : ℕ}
    {demand : Demand TransactionCode} (hbegun : Begun errands before after ticket demand)
    (more : List (Errand TransactionCode)) :
    Begun (errands ++ more) before (after ++ more) ticket demand := by
  refine ⟨?_, hbegun.place⟩
  rw [hbegun.split, List.append_assoc, List.cons_append]

theorem Begun.getElem? {errands before after : List (Errand TransactionCode)} {ticket : ℕ}
    {demand : Demand TransactionCode} (hbegun : Begun errands before after ticket demand) :
    (errands.filterMap Errand.demanded)[ticket]? = some demand := by
  obtain ⟨rfl, rfl⟩ := hbegun
  rw [List.filterMap_append, List.getElem?_append_right (Nat.le_refl _), Nat.sub_self]
  rfl

theorem Begun.isPrefix {errands before since after : List (Errand TransactionCode)} {ticket : ℕ}
    {demand : Demand TransactionCode} (hbegun : Begun errands before after ticket demand)
    (hsince : since <+: after) : before ++ .ofDatagram demand :: since <+: errands := by
  rw [hbegun.split]
  exact (List.prefix_append_right_inj before).mpr (List.cons_prefix_cons.mpr ⟨rfl, hsince⟩)

end ProcessManagerService.Worker
