import Mathlib.Data.List.Nodup
import ProcessManagerService.Worker.SubscriptionLaws

/-!
# The event manager

A service registers its handlers through `EventManager`, which hands them to
the two caches and returns the identifiers they get there.  As long as fewer
than 2^32 handlers are registered, the identifiers of each cache are 0, 1, 2 and
so on in the order of registration.
-/

namespace ProcessManagerService.Worker

namespace MessageEventsCache

def getNewEventID (cache : MessageEventsCache) : UInt32 :=
  firstGap 0 (cache.events.map Prod.fst)

/-- A null pointer `newEvent` is `none`. -/
def addMessageEvent (cache : MessageEventsCache) (newEvent : Option MessageEvent) :
    Except RuntimeError (UInt32 × MessageEventsCache) :=
  match newEvent with
  | some newEvent =>
      let messageEventID := cache.getNewEventID
      .ok (messageEventID, ⟨cache.events ++ [(messageEventID, newEvent)]⟩)
  | none => .error ⟨"Trying to add null message event"⟩

end MessageEventsCache

/-- The caches that `EventManager::initialize` has been given. -/
structure EventManager where
  messageEventsCache : MessageEventsCache
  subscriptionEventsCache : SubscriptionEventsCache

namespace EventManager

def create : EventManager := ⟨⟨[]⟩, ⟨[]⟩⟩

/-- What the cache throws is caught.  The key is not used. -/
def registerNewEventHandler (manager : EventManager) (_key : UInt32)
    (eventHandler : Option MessageEvent) : Option UInt32 × EventManager :=
  match eventHandler with
  | some handler =>
      match manager.messageEventsCache.addMessageEvent (some handler) with
      | .ok (eventID, cache) => (some eventID, { manager with messageEventsCache := cache })
      | .error _ => (none, manager)
  | none => (none, manager)

def registerNewSubscribtionHandler (manager : EventManager) (subscribeType : Text)
    (subscriptionEvent : Option SubscribeEvent) : Option UInt32 × EventManager :=
  match subscriptionEvent with
  | some event =>
      match manager.subscriptionEventsCache.addSubscriptionEvent subscribeType (some event) with
      | .ok (eventID, cache) => (some eventID, { manager with subscriptionEventsCache := cache })
      | .error _ => (none, manager)
  | none => (none, manager)

end EventManager

/-- A registration, or a subscription to a registered event. -/
inductive ManagerCall where
  | registerNewEventHandler (key : UInt32) (eventHandler : Option MessageEvent)
  | registerNewSubscribtionHandler (subscribeType : Text)
      (subscriptionEvent : Option SubscribeEvent)
  | addSubscriber (moduleIdentifier : Int32) (typeUrl : Text)
  | addSubscriberById (identifier : Int32) (subscribeEventID : UInt32)

/-- The two kinds of events, each with a cache of its own. -/
inductive EventKind where
  | message
  | subscription
  deriving DecidableEq

namespace ManagerCall

/-- The kind of event that a registration is for. -/
def kind : ManagerCall → Option EventKind
  | registerNewEventHandler _ _ => some .message
  | registerNewSubscribtionHandler _ _ => some .subscription
  | _ => none

/-- The call registers an event of this kind: its pointer is not null. -/
def registers (eventKind : EventKind) : ManagerCall → Bool
  | registerNewEventHandler _ (some _) => eventKind = .message
  | registerNewSubscribtionHandler _ (some _) => eventKind = .subscription
  | _ => false

/-- What the call does to the subscription events. -/
def registryCall : ManagerCall → Option RegistryCall
  | registerNewEventHandler _ _ => none
  | registerNewSubscribtionHandler subscribeType subscriptionEvent =>
      some (.addSubscriptionEvent subscribeType subscriptionEvent)
  | addSubscriber moduleIdentifier typeUrl => some (.addSubscriber moduleIdentifier typeUrl)
  | addSubscriberById identifier subscribeEventID =>
      some (.addSubscriberById identifier subscribeEventID)

end ManagerCall

namespace EventManager

/-- A call with the identifier that it returns. -/
def perform (manager : EventManager) : ManagerCall → Option UInt32 × EventManager
  | .registerNewEventHandler key eventHandler =>
      manager.registerNewEventHandler key eventHandler
  | .registerNewSubscribtionHandler subscribeType subscriptionEvent =>
      manager.registerNewSubscribtionHandler subscribeType subscriptionEvent
  | .addSubscriber moduleIdentifier typeUrl => (none, { manager with
      subscriptionEventsCache :=
        manager.subscriptionEventsCache.addSubscriber moduleIdentifier typeUrl })
  | .addSubscriberById identifier subscribeEventID => (none, { manager with
      subscriptionEventsCache :=
        manager.subscriptionEventsCache.addSubscriberById identifier subscribeEventID })

/-- The caches after a history of calls. -/
def afterCalls (calls : List ManagerCall) : EventManager :=
  calls.foldl (fun manager call => (manager.perform call).2) create

/-- The identifiers of the events of a kind, in the order of the cache. -/
def ids (manager : EventManager) : EventKind → List UInt32
  | .message => manager.messageEventsCache.events.map Prod.fst
  | .subscription => manager.subscriptionEventsCache.events.map Subscription.id

/-- The identifiers that the registrations of a kind return. -/
def handles (eventKind : EventKind) : EventManager → List ManagerCall → List UInt32
  | _, [] => []
  | manager, call :: calls =>
      (if call.kind = some eventKind then (manager.perform call).1.toList else []) ++
        handles eventKind (manager.perform call).2 calls

end EventManager

open EventManager

/-- The registrations of a kind get the identifiers 0, 1, 2 and so on, which are
distinct, and these are the identifiers of the cache. -/
structure Handed (calls : List ManagerCall) (eventKind : EventKind) : Prop where
  counted : (handles eventKind create calls).map UInt32.toNat =
    List.range (calls.countP (ManagerCall.registers eventKind))
  distinct : (handles eventKind create calls).Nodup
  gapless : (EventManager.afterCalls calls).ids eventKind = handles eventKind create calls

/-! ## One call -/

/-- The identifiers of both caches count their events. -/
def Counted (manager : EventManager) : Prop :=
  ∀ eventKind, manager.ids eventKind =
    (List.range (manager.ids eventKind).length).map UInt32.ofNat

theorem numbered_of_map_id {events : List Subscription}
    (hids : events.map Subscription.id =
      (List.range (events.map Subscription.id).length).map UInt32.ofNat) :
    Numbered 0 events := by
  intro place event hevent
  have hid : (events.map Subscription.id)[place]? = some event.id := by
    rw [List.getElem?_map, hevent, Option.map_some]
  obtain ⟨hplace, -⟩ := List.getElem?_eq_some_iff.mp hid
  rw [hids, List.getElem?_map, List.getElem?_range hplace, Option.map_some,
    Option.some.injEq] at hid
  rw [← hid, Nat.zero_add]

theorem map_id_mapIdx_joined (calls : List RegistryCall) (events : List Subscription) :
    (events.mapIdx (Subscription.joined calls)).map Subscription.id =
      events.map Subscription.id := by
  apply List.ext_getElem?
  intro place
  rw [List.getElem?_map, List.getElem?_mapIdx, List.getElem?_map, Option.map_map]
  rfl

/-- Every call of the manager is a call of the subscription events or leaves them
alone. -/
theorem subscriptionEventsCache_perform (manager : EventManager) (call : ManagerCall) :
    (manager.perform call).2.subscriptionEventsCache =
      call.registryCall.elim manager.subscriptionEventsCache
        manager.subscriptionEventsCache.perform := by
  cases call with
  | registerNewEventHandler key eventHandler => cases eventHandler <;> rfl
  | registerNewSubscribtionHandler subscribeType subscriptionEvent =>
      cases subscriptionEvent <;> rfl
  | addSubscriber moduleIdentifier typeUrl => rfl
  | addSubscriberById identifier subscribeEventID => rfl

section Call

variable {manager : EventManager} {eventKind : EventKind} {call : ManagerCall}

theorem Counted.numbered (hcounted : Counted manager) :
    Numbered 0 manager.subscriptionEventsCache.events :=
  numbered_of_map_id (hcounted .subscription)

/-- The gap search finds the number of events. -/
theorem firstGap_ids (hcounted : Counted manager) (eventKind : EventKind) :
    firstGap 0 (manager.ids eventKind) = UInt32.ofNat (manager.ids eventKind).length := by
  have hsearch := firstGap_range' 0 (manager.ids eventKind).length
  rw [Nat.zero_add, ← List.range_eq_range', ← hcounted eventKind] at hsearch
  exact hsearch

theorem kind_of_registers (hregisters : call.registers eventKind = true) :
    call.kind = some eventKind := by
  cases call with
  | registerNewEventHandler key eventHandler =>
      cases eventHandler with
      | none => cases hregisters
      | some handler => exact congrArg some (of_decide_eq_true hregisters).symm
  | registerNewSubscribtionHandler subscribeType subscriptionEvent =>
      cases subscriptionEvent with
      | none => cases hregisters
      | some event => exact congrArg some (of_decide_eq_true hregisters).symm
  | addSubscriber moduleIdentifier typeUrl => cases hregisters
  | addSubscriberById identifier subscribeEventID => cases hregisters

/-- A registration with an event returns the next identifier and appends it. -/
theorem perform_of_registers (hcounted : Counted manager)
    (hregisters : call.registers eventKind = true) :
    (manager.perform call).1 = some (UInt32.ofNat (manager.ids eventKind).length) ∧
      (manager.perform call).2.ids eventKind =
        manager.ids eventKind ++ [UInt32.ofNat (manager.ids eventKind).length] := by
  have hgap := firstGap_ids hcounted eventKind
  cases call with
  | registerNewEventHandler key eventHandler =>
      cases eventHandler with
      | none => cases hregisters
      | some handler =>
          obtain rfl : eventKind = .message := of_decide_eq_true hregisters
          rw [← hgap]
          exact ⟨rfl, List.map_append⟩
  | registerNewSubscribtionHandler subscribeType subscriptionEvent =>
      cases subscriptionEvent with
      | none => cases hregisters
      | some event =>
          obtain rfl : eventKind = .subscription := of_decide_eq_true hregisters
          have hid : manager.subscriptionEventsCache.getNewEventID =
              firstGap 0 (manager.ids .subscription) := firstUnused_eq_firstGap 0 _
          rw [← hgap, ← hid]
          exact ⟨rfl, List.map_append⟩
  | addSubscriber moduleIdentifier typeUrl => cases hregisters
  | addSubscriberById identifier subscribeEventID => cases hregisters

/-- Any other call returns no identifier of the kind and keeps its identifiers. -/
theorem perform_of_not_registers (hcounted : Counted manager)
    (hother : call.registers eventKind = false) :
    (call.kind = some eventKind → (manager.perform call).1 = none) ∧
      (manager.perform call).2.ids eventKind = manager.ids eventKind := by
  have hsubscriptions : ∀ registryCall, call.registryCall = some registryCall →
      registryOf manager.subscriptionEventsCache.events.length [registryCall] = [] →
      (manager.perform call).2.ids .subscription = manager.ids .subscription := by
    intro registryCall hcall hnone
    have hevents := perform_eq hcounted.numbered registryCall
    rw [hnone, List.append_nil] at hevents
    rw [ids, subscriptionEventsCache_perform, hcall, Option.elim_some, hevents,
      map_id_mapIdx_joined]
    rfl
  cases call with
  | registerNewEventHandler key eventHandler =>
      cases eventHandler with
      | none => exact ⟨fun _ => rfl, rfl⟩
      | some handler =>
          cases eventKind with
          | message => cases hother
          | subscription => exact ⟨nofun, rfl⟩
  | registerNewSubscribtionHandler subscribeType subscriptionEvent =>
      cases subscriptionEvent with
      | none => exact ⟨fun _ => rfl, rfl⟩
      | some event =>
          cases eventKind with
          | message => exact ⟨nofun, rfl⟩
          | subscription => cases hother
  | addSubscriber moduleIdentifier typeUrl =>
      cases eventKind with
      | message => exact ⟨nofun, rfl⟩
      | subscription => exact ⟨nofun, hsubscriptions _ rfl rfl⟩
  | addSubscriberById identifier subscribeEventID =>
      cases eventKind with
      | message => exact ⟨nofun, rfl⟩
      | subscription => exact ⟨nofun, hsubscriptions _ rfl rfl⟩

theorem Counted.perform (hcounted : Counted manager) (call : ManagerCall) :
    Counted (manager.perform call).2 := by
  intro eventKind
  cases hregisters : call.registers eventKind with
  | true =>
      rw [(perform_of_registers hcounted hregisters).2, List.length_append,
        List.length_singleton, List.range_succ, List.map_append, ← hcounted eventKind]
      rfl
  | false =>
      rw [(perform_of_not_registers hcounted hregisters).2]
      exact hcounted eventKind

end Call

/-! ## A history of calls -/

/-- The identifiers that are returned continue those of the cache, and they are
the ones that it gets. -/
theorem handles_eq {manager : EventManager} (hcounted : Counted manager)
    (eventKind : EventKind) (calls : List ManagerCall) :
    handles eventKind manager calls =
        (List.range' (manager.ids eventKind).length
          (calls.countP (ManagerCall.registers eventKind))).map UInt32.ofNat ∧
      (calls.foldl (fun manager call => (manager.perform call).2) manager).ids eventKind =
        manager.ids eventKind ++ handles eventKind manager calls := by
  induction calls generalizing manager with
  | nil => exact ⟨rfl, (List.append_nil _).symm⟩
  | cons call calls ih =>
      obtain ⟨hhandles, hids⟩ := ih (hcounted.perform call)
      rw [handles, List.foldl_cons, hids]
      cases hregisters : call.registers eventKind with
      | true =>
          obtain ⟨hreturned, hnext⟩ := perform_of_registers hcounted hregisters
          rw [if_pos (kind_of_registers hregisters), hreturned, hhandles, hnext,
            List.countP_cons_of_pos hregisters]
          constructor
          · rw [List.length_append, List.length_singleton, List.range'_succ]
            rfl
          · rw [List.append_assoc]
            rfl
      | false =>
          obtain ⟨hreturned, hnext⟩ := perform_of_not_registers hcounted hregisters
          rw [hnext] at hhandles ⊢
          rw [List.countP_cons_of_neg (by simp [hregisters])]
          have hnone : (if call.kind = some eventKind then (manager.perform call).1.toList
              else []) = [] := by
            split
            next hkind => rw [hreturned hkind]; rfl
            next => rfl
          rw [hnone, List.nil_append]
          exact ⟨hhandles, rfl⟩

theorem counted_create : Counted create := by
  intro eventKind
  cases eventKind <;> rfl

theorem counted_afterCalls (calls : List ManagerCall) :
    Counted (EventManager.afterCalls calls) := by
  have hfold : ∀ manager, Counted manager →
      Counted (calls.foldl (fun manager call => (manager.perform call).2) manager) := by
    induction calls with
    | nil => exact fun _ hcounted => hcounted
    | cons call calls ih => exact fun manager hcounted => ih _ (hcounted.perform call)
  exact hfold create counted_create

/-- Numbers below the size of an identifier survive it. -/
theorem map_toNat_map_ofNat {count : ℕ} (hcount : count < UInt32.size) :
    ((List.range count).map UInt32.ofNat).map UInt32.toNat = List.range count := by
  rw [List.map_map]
  calc (List.range count).map (UInt32.toNat ∘ UInt32.ofNat)
      = (List.range count).map id := by
        apply List.map_congr_left
        intro number hmem
        exact UInt32.toNat_ofNat_of_lt' ((List.mem_range.mp hmem).trans hcount)
    _ = List.range count := List.map_id _

theorem countP_registers_le (calls : List ManagerCall) (eventKind : EventKind) :
    calls.countP (ManagerCall.registers eventKind) ≤
      calls.countP (fun call => call.kind.isSome) := by
  apply List.countP_mono_left
  intro call _ hregisters
  rw [kind_of_registers hregisters]
  rfl

theorem handed_of_count {calls : List ManagerCall}
    (hcount : calls.countP (fun call => call.kind.isSome) < UInt32.size)
    (eventKind : EventKind) : Handed calls eventKind := by
  obtain ⟨hhandles, hids⟩ := handles_eq counted_create eventKind calls
  have hempty : (create.ids eventKind) = [] := by
    cases eventKind <;> rfl
  rw [hempty, List.length_nil, ← List.range_eq_range'] at hhandles
  have hbound := Nat.lt_of_le_of_lt (countP_registers_le calls eventKind) hcount
  have hcounted : (handles eventKind create calls).map UInt32.toNat =
      List.range (calls.countP (ManagerCall.registers eventKind)) := by
    rw [hhandles, map_toNat_map_ofNat hbound]
  refine ⟨hcounted, ?_, ?_⟩
  · apply List.Nodup.of_map UInt32.toNat
    rw [hcounted]
    exact List.nodup_range
  · rw [EventManager.afterCalls, hids, hempty, List.nil_append]

/-- The subscription events have the history of the calls that concern them. -/
theorem subscriptionEventsCache_afterCalls (calls : List ManagerCall) :
    (EventManager.afterCalls calls).subscriptionEventsCache =
      SubscriptionEventsCache.afterCalls (calls.filterMap ManagerCall.registryCall) := by
  have hfold : ∀ manager : EventManager,
      (calls.foldl (fun manager call => (manager.perform call).2) manager).subscriptionEventsCache =
        (calls.filterMap ManagerCall.registryCall).foldl SubscriptionEventsCache.perform
          manager.subscriptionEventsCache := by
    induction calls with
    | nil => exact fun _ => rfl
    | cons call calls ih =>
        intro manager
        rw [List.foldl_cons, ih, subscriptionEventsCache_perform, List.filterMap_cons]
        cases call.registryCall <;> rfl
  exact hfold create

/-- An identifier below the size names the event at its place and no other. -/
theorem addSubscriberById_eq_set {events : List Subscription} (hnumbered : Numbered 0 events)
    (hsize : events.length < UInt32.size) {place : ℕ} {event : Subscription}
    (hevent : events[place]? = some event) (identifier : Int32) :
    ((⟨events⟩ : SubscriptionEventsCache).addSubscriberById identifier
        (UInt32.ofNat place)).events =
      events.set place { event with subscribers := event.subscribers ++ [identifier] } := by
  obtain ⟨hplace, -⟩ := List.getElem?_eq_some_iff.mp hevent
  rw [addSubscriberById_eq hnumbered]
  apply List.ext_getElem?
  intro index
  rw [List.getElem?_mapIdx]
  by_cases hsame : place = index
  · subst hsame
    rw [List.getElem?_set_self hplace, hevent]
    simp [Subscription.joined, subscribersOf, RegistryCall.subscriberOf, hplace.trans hsize]
  · rw [List.getElem?_set_ne hsame]
    cases hother : events[index]? with
    | none => rfl
    | some other =>
        obtain ⟨hindex, -⟩ := List.getElem?_eq_some_iff.mp hother
        have hnames : ¬ (index < UInt32.size ∧ UInt32.ofNat index = UInt32.ofNat place) := by
          rintro ⟨-, hids⟩
          have hnumbers := congrArg UInt32.toNat hids
          rw [UInt32.toNat_ofNat_of_lt' (hindex.trans hsize),
            UInt32.toNat_ofNat_of_lt' (hplace.trans hsize)] at hnumbers
          exact hsame hnumbers.symm
        simp [Subscription.joined, subscribersOf, RegistryCall.subscriberOf, hnames]

/-- What `addSubscriber` does with the identifier of a registered subscription
event, whatever calls have followed the registration. -/
def AttachesTo (before : List ManagerCall) (subscribeType : Text) (newEvent : SubscribeEvent)
    (later : List ManagerCall) : Prop :=
  let calls := before ++ .registerNewSubscribtionHandler subscribeType (some newEvent) :: later
  let cache := (EventManager.afterCalls calls).subscriptionEventsCache
  let place := (EventManager.afterCalls before).subscriptionEventsCache.events.length
  ∃ eventID event,
    ((EventManager.afterCalls before).registerNewSubscribtionHandler subscribeType
      (some newEvent)).1 = some eventID ∧
    cache.events[place]? = some event ∧ event.id = eventID ∧
    event.messageType = subscribeType ∧ event.event = newEvent ∧
    ∀ identifier, (cache.addSubscriberById identifier eventID).events =
      cache.events.set place { event with subscribers := event.subscribers ++ [identifier] }

theorem attachesTo_of_count {before later : List ManagerCall} {subscribeType : Text}
    {newEvent : SubscribeEvent}
    (hcount : (before ++ .registerNewSubscribtionHandler subscribeType (some newEvent) ::
      later).countP (fun call => call.kind.isSome) < UInt32.size) :
    AttachesTo before subscribeType newEvent later := by
  unfold AttachesTo
  intro calls cache place
  have hnumbered : Numbered 0 cache.events := (counted_afterCalls calls).numbered
  have hsize : cache.events.length < UInt32.size := by
    obtain ⟨hcounted, -, hgapless⟩ := handed_of_count hcount .subscription
    calc cache.events.length
        = (handles .subscription create calls).length := by
          rw [← hgapless, ids, List.length_map]
      _ = calls.countP (ManagerCall.registers .subscription) := by
          rw [← List.length_map, hcounted, List.length_range]
      _ ≤ calls.countP (fun call => call.kind.isSome) := countP_registers_le calls _
      _ < UInt32.size := hcount
  have hevent : cache.events[place]? = some ⟨UInt32.ofNat place, subscribeType,
      subscribersOf place subscribeType (later.filterMap ManagerCall.registryCall),
      newEvent⟩ := by
    simp only [cache, calls, place, subscriptionEventsCache_afterCalls, List.filterMap_append,
      List.filterMap_cons]
    exact getElem?_afterCalls _ _ subscribeType newEvent
  have hid : (EventManager.afterCalls before).subscriptionEventsCache.getNewEventID =
      UInt32.ofNat place := by
    have hsearch := firstUnused_eq (counted_afterCalls before).numbered
    rwa [Nat.zero_add] at hsearch
  exact ⟨UInt32.ofNat place, _, congrArg some hid, hevent, rfl, rfl, rfl,
    addSubscriberById_eq_set hnumbered hsize hevent⟩

/-- As long as fewer than 2^32 handlers are registered, in any order and with
null handlers and subscriptions among them, the identifiers of each cache are
distinct and count its registered events, a null handler gets none, and
`addSubscriber` with the identifier of a subscription event reaches that event. -/
theorem handles_of_history (calls : List ManagerCall)
    (hcount : calls.countP (fun call => call.kind.isSome) < UInt32.size) :
    (∀ eventKind, Handed calls eventKind) ∧
    (∀ key, (EventManager.afterCalls calls).registerNewEventHandler key none =
      (none, EventManager.afterCalls calls)) ∧
    (∀ subscribeType,
      (EventManager.afterCalls calls).registerNewSubscribtionHandler subscribeType none =
        (none, EventManager.afterCalls calls)) ∧
    (EventManager.afterCalls calls).messageEventsCache.addMessageEvent none =
      .error ⟨"Trying to add null message event"⟩ ∧
    (∀ subscribeType,
      (EventManager.afterCalls calls).subscriptionEventsCache.addSubscriptionEvent subscribeType
        none = .error ⟨"Trying to add null message event"⟩) ∧
    ∀ before subscribeType newEvent later,
      calls = before ++ .registerNewSubscribtionHandler subscribeType (some newEvent) :: later →
        AttachesTo before subscribeType newEvent later := by
  refine ⟨handed_of_count hcount, fun _ => rfl, fun _ => rfl, rfl, fun _ => rfl, ?_⟩
  rintro before subscribeType newEvent later rfl
  exact attachesTo_of_count hcount

/-- A null handler and a subscription after the first registration. -/
private def firstRegistered : List ManagerCall :=
  [.registerNewSubscribtionHandler "GPS".toList (some ⟨none⟩),
    .registerNewEventHandler 5 none, .addSubscriberById 7 0]

theorem second_registration_is_handed_one :
    handles .subscription create (firstRegistered ++
        [.registerNewSubscribtionHandler "IMU".toList (some ⟨none⟩)]) = [0, 1] ∧
      (∀ eventKind, Handed (firstRegistered ++
        [.registerNewSubscribtionHandler "IMU".toList (some ⟨none⟩)]) eventKind) ∧
      AttachesTo firstRegistered "IMU".toList ⟨none⟩ [] := by
  obtain ⟨hhanded, -, -, -, -, hattaches⟩ := handles_of_history (firstRegistered ++
    [.registerNewSubscribtionHandler "IMU".toList (some ⟨none⟩)]) (by decide)
  exact ⟨by decide, hhanded, hattaches _ _ _ _ rfl⟩

end ProcessManagerService.Worker
