import ProcessManagerService.Worker.EventsCaches

/-!
# The subscription registry and its history

The cache keeps nested vectors, and what it is meant to keep is a function of
the calls made so far: each registered event with the modules that have
subscribed to it since.  The two agree after every history.  Identifiers come
from a search for a gap; as no event is ever removed, the search counts the
events, modulo the size of the identifier.
-/

namespace ProcessManagerService.Worker

/-- A call of a member function of the cache. -/
inductive RegistryCall where
  | addSubscriptionEvent (subscribeType : Text) (newEvent : Option SubscribeEvent)
  | addSubscriber (moduleIdentifier : Int32) (typeUrl : Text)
  | addSubscriberById (identifier : Int32) (subscribeEventID : UInt32)
  | triggerMessageHandlers (anyMessage : Any)

/-- The module that a call adds to the event with this place and type.  Only the
first events can be named by an identifier. -/
def RegistryCall.subscriberOf (place : ℕ) (messageType : Text) : RegistryCall → Option Int32
  | .addSubscriber moduleIdentifier typeUrl =>
      if messageType = typeUrl then some moduleIdentifier else none
  | .addSubscriberById identifier subscribeEventID =>
      if place < UInt32.size ∧ UInt32.ofNat place = subscribeEventID then some identifier
      else none
  | .addSubscriptionEvent _ _ => none
  | .triggerMessageHandlers _ => none

/-- The modules that the calls add to an event, in call order. -/
def subscribersOf (place : ℕ) (messageType : Text) (calls : List RegistryCall) : List Int32 :=
  calls.filterMap (RegistryCall.subscriberOf place messageType)

/-- The registry that a history describes, from the next free place on. -/
def registryOf (place : ℕ) : List RegistryCall → List Subscription
  | [] => []
  | .addSubscriptionEvent subscribeType (some newEvent) :: later =>
      ⟨UInt32.ofNat place, subscribeType, subscribersOf place subscribeType later, newEvent⟩ ::
        registryOf (place + 1) later
  | _ :: later => registryOf place later

namespace SubscriptionEventsCache

/-- The cache after a call.  A call that throws leaves it as it was, and a
trigger only reads it. -/
def perform (cache : SubscriptionEventsCache) : RegistryCall → SubscriptionEventsCache
  | .addSubscriptionEvent subscribeType newEvent =>
      match cache.addSubscriptionEvent subscribeType newEvent with
      | .ok (_, next) => next
      | .error _ => cache
  | .addSubscriber moduleIdentifier typeUrl => cache.addSubscriber moduleIdentifier typeUrl
  | .addSubscriberById identifier subscribeEventID =>
      cache.addSubscriberById identifier subscribeEventID
  | .triggerMessageHandlers _ => cache

/-- The cache after a history of calls. -/
def afterCalls (history : List RegistryCall) : SubscriptionEventsCache :=
  history.foldl perform ⟨[]⟩

end SubscriptionEventsCache

open SubscriptionEventsCache

/-! ## Identifiers -/

/-- The identifiers count the events, from this number on. -/
def Numbered (number : ℕ) (events : List Subscription) : Prop :=
  ∀ place event, events[place]? = some event → event.id = UInt32.ofNat (number + place)

theorem Numbered.tail {number : ℕ} {event : Subscription} {events : List Subscription}
    (hnumbered : Numbered number (event :: events)) : Numbered (number + 1) events := by
  intro place other hother
  rw [Nat.add_assoc, Nat.add_comm 1 place]
  exact hnumbered (place + 1) other hother

theorem Numbered.append {number : ℕ} {first second : List Subscription}
    (hfirst : Numbered number first) (hsecond : Numbered (number + first.length) second) :
    Numbered number (first ++ second) := by
  intro place event hevent
  rcases Nat.lt_or_ge place first.length with hlt | hge
  · rw [List.getElem?_append_left hlt] at hevent
    exact hfirst place event hevent
  · rw [List.getElem?_append_right hge] at hevent
    have hid := hsecond (place - first.length) event hevent
    rwa [Nat.add_assoc, Nat.add_sub_cancel' hge] at hid

theorem Numbered.map_id {number : ℕ} {events : List Subscription}
    (hnumbered : Numbered number events) :
    events.map Subscription.id = (List.range' number events.length).map UInt32.ofNat := by
  induction events generalizing number with
  | nil => rfl
  | cons event events ih =>
      have hid : event.id = UInt32.ofNat number := hnumbered 0 event rfl
      rw [List.map_cons, hid, ih hnumbered.tail, List.length_cons, List.range'_succ,
        List.map_cons]

/-- The gap search of both caches, over the identifiers of their events. -/
def firstGap (availableEventID : UInt32) : List UInt32 → UInt32
  | [] => availableEventID
  | id :: ids => if id = availableEventID then firstGap (availableEventID + 1) ids
      else availableEventID

theorem firstUnused_eq_firstGap (availableEventID : UInt32) (events : List Subscription) :
    firstUnused availableEventID events =
      firstGap availableEventID (events.map Subscription.id) := by
  induction events generalizing availableEventID with
  | nil => rfl
  | cons event events ih => rw [firstUnused, List.map_cons, firstGap, ih]

/-- Without a gap the search runs through all identifiers. -/
theorem firstGap_range' (number count : ℕ) :
    firstGap (UInt32.ofNat number) ((List.range' number count).map UInt32.ofNat) =
      UInt32.ofNat (number + count) := by
  induction count generalizing number with
  | zero => rfl
  | succ count ih =>
      rw [List.range'_succ, List.map_cons, firstGap, if_pos rfl, ← UInt32.ofNat_one,
        ← UInt32.ofNat_add, ih, Nat.add_assoc, Nat.add_comm 1]

theorem firstUnused_eq {number : ℕ} {events : List Subscription}
    (hnumbered : Numbered number events) :
    firstUnused (UInt32.ofNat number) events = UInt32.ofNat (number + events.length) := by
  rw [firstUnused_eq_firstGap, hnumbered.map_id, firstGap_range']

/-! ## One call -/

/-- The event with the modules that the calls add to it. -/
def Subscription.joined (calls : List RegistryCall) (place : ℕ) (event : Subscription) :
    Subscription :=
  { event with subscribers := event.subscribers ++ subscribersOf place event.messageType calls }

theorem subscribersOf_append (place : ℕ) (messageType : Text)
    (first second : List RegistryCall) :
    subscribersOf place messageType (first ++ second) =
      subscribersOf place messageType first ++ subscribersOf place messageType second :=
  List.filterMap_append

theorem joined_joined (first second : List RegistryCall) (place : ℕ) (event : Subscription) :
    (event.joined first place).joined second place = event.joined (first ++ second) place := by
  simp only [Subscription.joined, subscribersOf_append, List.append_assoc]

theorem Numbered.mapIdx_joined {number : ℕ} {events : List Subscription}
    (hnumbered : Numbered number events) (calls : List RegistryCall) :
    Numbered number (events.mapIdx (Subscription.joined calls)) := by
  intro place event hevent
  rw [List.getElem?_mapIdx, Option.map_eq_some_iff] at hevent
  obtain ⟨original, horiginal, rfl⟩ := hevent
  exact hnumbered place original horiginal

theorem addSubscriber_eq (events : List Subscription) (moduleIdentifier : Int32)
    (typeUrl : Text) :
    ((⟨events⟩ : SubscriptionEventsCache).addSubscriber moduleIdentifier typeUrl).events =
      events.mapIdx (Subscription.joined [.addSubscriber moduleIdentifier typeUrl]) := by
  rw [SubscriptionEventsCache.addSubscriber]
  apply List.ext_getElem?
  intro place
  rw [List.getElem?_map, List.getElem?_mapIdx]
  congr 1
  funext event
  by_cases htype : event.messageType = typeUrl
  · simp [Subscription.joined, subscribersOf, RegistryCall.subscriberOf, htype]
  · simp [Subscription.joined, subscribersOf, RegistryCall.subscriberOf, htype]

/-- Below the size of the identifier, an identifier names one place. -/
theorem ofNat_eq_iff_of_first {place : ℕ} {identifier : UInt32} :
    (UInt32.ofNat place = identifier ∧
        ∀ earlier < place, UInt32.ofNat earlier ≠ identifier) ↔
      place < UInt32.size ∧ UInt32.ofNat place = identifier := by
  constructor
  · rintro ⟨hid, hfirst⟩
    apply And.intro _ hid
    by_contra hlarge
    have hsize : 0 < UInt32.size := by decide
    have hmod : place % UInt32.size < place :=
      (Nat.mod_lt place hsize).trans_le (Nat.le_of_not_lt hlarge)
    apply hfirst (place % UInt32.size) hmod
    rw [← hid]
    apply UInt32.toNat_inj.mp
    rw [UInt32.toNat_ofNat', UInt32.toNat_ofNat']
    exact Nat.mod_mod place _
  · rintro ⟨hplace, hid⟩
    apply And.intro hid
    intro earlier hearlier hsame
    have hnumber := congrArg UInt32.toNat (hsame.trans hid.symm)
    rw [UInt32.toNat_ofNat_of_lt' (hearlier.trans hplace),
      UInt32.toNat_ofNat_of_lt' hplace] at hnumber
    exact Nat.ne_of_lt hearlier hnumber

theorem addSubscriberById_eq {events : List Subscription} (hnumbered : Numbered 0 events)
    (identifier : Int32) (subscribeEventID : UInt32) :
    ((⟨events⟩ : SubscriptionEventsCache).addSubscriberById identifier subscribeEventID).events =
      events.mapIdx (Subscription.joined [.addSubscriberById identifier subscribeEventID]) := by
  have hid : ∀ place (hplace : place < events.length),
      events[place].id = UInt32.ofNat place := by
    intro place hplace
    have hnumber := hnumbered place events[place] (List.getElem?_eq_getElem hplace)
    rwa [Nat.zero_add] at hnumber
  have hmodify : ((⟨events⟩ : SubscriptionEventsCache).addSubscriberById identifier
      subscribeEventID).events =
        events.modify (events.findIdx fun event => event.id = subscribeEventID) fun event =>
          { event with subscribers := event.subscribers ++ [identifier] } := by
    simp only [SubscriptionEventsCache.addSubscriberById]
    split
    · rfl
    · rename_i hnone
      exact (List.modify_eq_self (Nat.le_of_not_lt hnone)).symm
  rw [hmodify]
  apply List.ext_getElem?
  intro place
  rw [List.getElem?_modify, List.getElem?_mapIdx]
  rcases Nat.lt_or_ge place events.length with hplace | hplace
  · have hiter : (events.findIdx fun event => event.id = subscribeEventID) = place ↔
        place < UInt32.size ∧ UInt32.ofNat place = subscribeEventID := by
      rw [List.findIdx_eq hplace, ← ofNat_eq_iff_of_first]
      simp only [decide_eq_true_eq, decide_eq_false_iff_not, hid]
    rw [List.getElem?_eq_getElem hplace]
    simp only [hiter, Option.map_eq_map, Option.map_some, Option.some.injEq]
    by_cases hnamed : place < UInt32.size ∧ UInt32.ofNat place = subscribeEventID
    · simp [Subscription.joined, subscribersOf, RegistryCall.subscriberOf, hnamed]
    · simp [Subscription.joined, subscribersOf, RegistryCall.subscriberOf, hnamed]
  · rw [List.getElem?_eq_none hplace]
    rfl

theorem mapIdx_joined_eq_self {events : List Subscription} {calls : List RegistryCall}
    (hnone : ∀ place messageType, subscribersOf place messageType calls = []) :
    events.mapIdx (Subscription.joined calls) = events := by
  apply List.ext_getElem?
  intro place
  rw [List.getElem?_mapIdx]
  cases events[place]? with
  | none => rfl
  | some event =>
      rw [Option.map_some, Subscription.joined, hnone, List.append_nil]

/-- A call changes the events that are there and may register one more. -/
theorem perform_eq {events : List Subscription} (hnumbered : Numbered 0 events)
    (call : RegistryCall) :
    (perform ⟨events⟩ call).events =
      events.mapIdx (Subscription.joined [call]) ++ registryOf events.length [call] := by
  cases call with
  | addSubscriptionEvent subscribeType newEvent =>
      rw [mapIdx_joined_eq_self fun _ _ => rfl]
      cases newEvent with
      | none => exact (List.append_nil events).symm
      | some newEvent =>
          have hid : getNewEventID ⟨events⟩ = UInt32.ofNat events.length := by
            have hsearch := firstUnused_eq hnumbered
            rwa [Nat.zero_add] at hsearch
          simp only [perform, addSubscriptionEvent, hid]
          rfl
  | addSubscriber moduleIdentifier typeUrl =>
      calc (perform ⟨events⟩ (.addSubscriber moduleIdentifier typeUrl)).events
          = events.mapIdx (Subscription.joined [.addSubscriber moduleIdentifier typeUrl]) :=
            addSubscriber_eq events moduleIdentifier typeUrl
        _ = _ ++ [] := (List.append_nil _).symm
  | addSubscriberById identifier subscribeEventID =>
      calc (perform ⟨events⟩ (.addSubscriberById identifier subscribeEventID)).events
          = events.mapIdx
              (Subscription.joined [.addSubscriberById identifier subscribeEventID]) :=
            addSubscriberById_eq hnumbered identifier subscribeEventID
        _ = _ ++ [] := (List.append_nil _).symm
  | triggerMessageHandlers anyMessage =>
      rw [mapIdx_joined_eq_self fun _ _ => rfl]
      exact (List.append_nil events).symm

/-! ## A history -/

/-- A call registers an event or is passed over. -/
theorem registers_or_passed (call : RegistryCall) :
    (∃ subscribeType newEvent, call = .addSubscriptionEvent subscribeType (some newEvent)) ∨
      ∀ place later, registryOf place (call :: later) = registryOf place later := by
  cases call with
  | addSubscriptionEvent subscribeType newEvent =>
      cases newEvent with
      | none => exact .inr fun _ _ => rfl
      | some newEvent => exact .inl ⟨subscribeType, newEvent, rfl⟩
  | addSubscriber moduleIdentifier typeUrl => exact .inr fun _ _ => rfl
  | addSubscriberById identifier subscribeEventID => exact .inr fun _ _ => rfl
  | triggerMessageHandlers anyMessage => exact .inr fun _ _ => rfl

/-- An event of the registry comes from a call, and its subscribers from the
calls after that one. -/
theorem exists_registration_of_mem {place : ℕ} {history : List RegistryCall}
    {event : Subscription} (hevent : event ∈ registryOf place history) :
    ∃ index newEvent before later,
      history = before ++ .addSubscriptionEvent event.messageType (some newEvent) :: later ∧
        event.subscribers = subscribersOf index event.messageType later := by
  induction history generalizing place with
  | nil => cases hevent
  | cons call history ih =>
      have hlater : ∀ next, event ∈ registryOf next history →
          ∃ index newEvent before later,
            call :: history =
              before ++ .addSubscriptionEvent event.messageType (some newEvent) :: later ∧
            event.subscribers = subscribersOf index event.messageType later := by
        intro next hmem
        obtain ⟨index, newEvent, before, later, hhistory, hsubscribers⟩ := ih hmem
        exact ⟨index, newEvent, call :: before, later, congrArg (List.cons call) hhistory,
          hsubscribers⟩
      rcases registers_or_passed call with ⟨subscribeType, newEvent, rfl⟩ | hpassed
      · rcases List.mem_cons.mp hevent with rfl | hmem
        · exact ⟨place, newEvent, [], history, rfl, rfl⟩
        · exact hlater (place + 1) hmem
      · rw [hpassed] at hevent
        exact hlater place hevent

/-- Later calls reach the events registered before, and register more. -/
theorem registryOf_append (place : ℕ) (first second : List RegistryCall) :
    registryOf place (first ++ second) =
      (registryOf place first).mapIdx
          (fun index event => event.joined second (index + place)) ++
        registryOf ((registryOf place first).length + place) second := by
  induction first generalizing place with
  | nil =>
      rw [List.nil_append, registryOf, List.mapIdx_nil, List.nil_append, List.length_nil,
        Nat.zero_add]
  | cons call first ih =>
      rcases registers_or_passed call with ⟨subscribeType, newEvent, rfl⟩ | hpassed
      · rw [List.cons_append, registryOf, registryOf, ih, List.mapIdx_cons, List.length_cons,
          List.cons_append, subscribersOf_append]
        simp only [Subscription.joined, Nat.zero_add, Nat.add_assoc, Nat.add_comm 1 place]
      · rw [List.cons_append, hpassed, hpassed]
        exact ih place

theorem numbered_registryOf (place : ℕ) (calls : List RegistryCall) :
    Numbered place (registryOf place calls) := by
  induction calls generalizing place with
  | nil =>
      intro index event hevent
      rw [registryOf, List.getElem?_nil] at hevent
      cases hevent
  | cons call calls ih =>
      rcases registers_or_passed call with ⟨subscribeType, newEvent, rfl⟩ | hpassed
      · intro index event hevent
        cases index with
        | zero =>
            obtain rfl := Option.some.inj hevent
            rfl
        | succ index =>
            rw [Nat.add_comm index 1, ← Nat.add_assoc]
            exact ih (place + 1) index event hevent
      · rw [hpassed]
        exact ih place

/-- Whatever calls follow, the events are joined by their modules and followed
by the newly registered ones. -/
theorem foldl_perform {events : List Subscription} (hnumbered : Numbered 0 events)
    (calls : List RegistryCall) :
    (calls.foldl perform ⟨events⟩).events =
      events.mapIdx (Subscription.joined calls) ++ registryOf events.length calls := by
  induction calls generalizing events with
  | nil =>
      rw [List.foldl_nil, registryOf, List.append_nil, mapIdx_joined_eq_self fun _ _ => rfl]
  | cons call later ih =>
      have hone := perform_eq hnumbered call
      have hnext : Numbered 0 (perform ⟨events⟩ call).events := by
        rw [hone]
        apply (hnumbered.mapIdx_joined [call]).append
        rw [Nat.zero_add, List.length_mapIdx]
        exact numbered_registryOf events.length [call]
      have hjoined : (fun place => Subscription.joined later place ∘
          Subscription.joined [call] place) = Subscription.joined (call :: later) := by
        funext place event
        exact joined_joined [call] later place event
      calc
        ((call :: later).foldl perform ⟨events⟩).events
            = (perform ⟨events⟩ call).events.mapIdx (Subscription.joined later) ++
                registryOf (perform ⟨events⟩ call).events.length later := ih hnext
        _ = events.mapIdx (Subscription.joined (call :: later)) ++
              registryOf events.length ([call] ++ later) := by
            rw [registryOf_append, hone, List.mapIdx_append, List.mapIdx_mapIdx, hjoined,
              List.length_append, List.length_mapIdx, List.append_assoc,
              Nat.add_comm events.length]

/-- The registry is what its history describes. -/
theorem events_afterCalls (history : List RegistryCall) :
    (afterCalls history).events = registryOf 0 history := by
  have hnumbered : Numbered 0 [] := by
    intro place event hevent
    rw [List.getElem?_nil] at hevent
    cases hevent
  exact foldl_perform hnumbered history

end ProcessManagerService.Worker
