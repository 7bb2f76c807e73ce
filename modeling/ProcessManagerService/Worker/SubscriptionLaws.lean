import Mathlib.Data.List.Count
import ProcessManagerService.Worker.HandlerCalls
import ProcessManagerService.Worker.SubscriptionRegistry

/-!
# Laws of subscribing

What a trigger does after any history of calls: the registry is the history read
once more, a subscription binds to the events that are registered when it is
made, and every repetition counts.
-/

namespace ProcessManagerService.Worker

open SubscriptionEventsCache

/-! ## The registry and its history -/

/-- The registry is the history read once more, and a trigger leaves it as it
is.  Unless the trigger calls through a null pointer, it calls each event whose
type is a suffix of the `type_url` then, for each of its subscribers, and
returns the answers that have a value. -/
theorem registry_of_history (history : List RegistryCall) (anyMessage : Any) :
    let cache := afterCalls history
    let events := registryOf 0 history
    let calls := cache.handlerCalls anyMessage
    cache.events = events ∧
      cache.perform (.triggerMessageHandlers anyMessage) = cache ∧
      (cache.triggerMessageHandlers anyMessage = none ↔ ∃ call ∈ calls, call.answer = none) ∧
      (∀ requests, cache.triggerMessageHandlers anyMessage = some requests →
        calls.map HandlerCall.target =
            addressed (typeUrlAt events ⟨anyMessage, 0, []⟩) 0 events ∧
          requests = calls.filterMap HandlerCall.serviceRequest) ∧
      ((∀ event ∈ events, event.KeepsType) →
        typeUrlAt events ⟨anyMessage, 0, []⟩ = fun _ => anyMessage.typeUrl) := by
  intro cache events calls
  have hevents : cache.events = events := events_afterCalls history
  refine ⟨hevents, rfl, triggerMessageHandlers_eq_none, ?_, ?_⟩
  · intro requests hrequests
    obtain ⟨hanswered, hresult⟩ := triggerMessageHandlers_eq_some.mp hrequests
    have hcovers := covers_registryCalls 0 cache.events ⟨anyMessage, 0, []⟩
    rw [← hevents]
    exact ⟨hcovers.complete hanswered, hresult⟩
  · intro hkeeps
    exact typeUrlAt_of_keepsType hkeeps ⟨anyMessage, 0, []⟩

/-- The module that a call would add if it went by the type and the identifier
of the event alone. -/
def RegistryCall.namedSubscriber (event : Subscription) : RegistryCall → Option Int32
  | .addSubscriber moduleIdentifier typeUrl =>
      if event.messageType = typeUrl then some moduleIdentifier else none
  | .addSubscriberById identifier subscribeEventID =>
      if event.id = subscribeEventID then some identifier else none
  | .addSubscriptionEvent _ _ => none
  | .triggerMessageHandlers _ => none

private def keepingHandler : SubscribeEvent :=
  ⟨some ⟨fun _ anyMessage => (some anyMessage, anyMessage)⟩⟩

/-- A handler that empties the message that it is passed by reference. -/
private def clearingHandler : SubscribeEvent :=
  ⟨some ⟨fun _ anyMessage => (some anyMessage, default)⟩⟩

private theorem length_registryOf_replicate (place count : ℕ) (subscribeType : Text)
    (newEvent : SubscribeEvent) :
    (registryOf place (List.replicate count
      (.addSubscriptionEvent subscribeType (some newEvent)))).length = count := by
  induction count generalizing place with
  | zero => rfl
  | succ count ih =>
      rw [List.replicate_succ, registryOf, List.length_cons, ih]

private def crowd : List RegistryCall :=
  List.replicate UInt32.size (.addSubscriptionEvent "GPS".toList (some keepingHandler))

/-- The event that is registered after as many events as there are identifiers
has the identifier of the first one, which gets its subscriptions.  And an event
is left out once an earlier handler has changed the `type_url`. -/
theorem registry_differs_from_names :
    (¬ ∀ before later subscribeType newEvent event,
      (afterCalls (before ++ .addSubscriptionEvent subscribeType (some newEvent) ::
          later)).events[(afterCalls before).events.length]? = some event →
        event.subscribers = later.filterMap (RegistryCall.namedSubscriber event)) ∧
      ¬ ∀ history anyMessage requests,
        (afterCalls history).triggerMessageHandlers anyMessage = some requests →
          ((afterCalls history).handlerCalls anyMessage).map HandlerCall.target =
            addressed (fun _ => anyMessage.typeUrl) 0 (afterCalls history).events := by
  constructor
  · intro hclaimed
    have hlength : (registryOf 0 crowd).length = UInt32.size :=
      length_registryOf_replicate 0 UInt32.size "GPS".toList keepingHandler
    have hlast : (afterCalls (crowd ++ .addSubscriptionEvent "GPS".toList (some keepingHandler) ::
        [.addSubscriberById 7 0])).events[(afterCalls crowd).events.length]? =
          some ⟨UInt32.ofNat UInt32.size, "GPS".toList, [], keepingHandler⟩ := by
      rw [events_afterCalls, events_afterCalls, registryOf_append, List.getElem?_append_right]
      · rw [List.length_mapIdx, Nat.sub_self, hlength]
        rfl
      · rw [List.length_mapIdx]
    have hnames := hclaimed crowd [.addSubscriberById 7 0] "GPS".toList keepingHandler _ hlast
    exact absurd hnames (by decide)
  · intro hclaimed
    have hcalls := hclaimed [.addSubscriptionEvent "GPS".toList (some clearingHandler),
      .addSubscriptionEvent "GPS".toList (some keepingHandler), .addSubscriber 7 "GPS".toList]
      ⟨"t/GPS".toList, []⟩ _ rfl
    exact absurd hcalls (by decide)

/-! ## The order of subscribing and registering -/

theorem addressed_append (typeUrls : ℕ → Text) (place : ℕ) (first second : List Subscription) :
    addressed typeUrls place (first ++ second) =
      addressed typeUrls place first ++
        addressed (fun index => typeUrls (index + first.length)) (first.length + place)
          second := by
  induction first generalizing typeUrls place with
  | nil =>
      rw [List.nil_append, addressed, List.nil_append, List.length_nil, Nat.zero_add]
      rfl
  | cons event first ih =>
      have hplace : first.length + (place + 1) = (event :: first).length + place := by
        rw [List.length_cons]
        omega
      rw [List.cons_append, addressed, addressed, ih, hplace, List.append_assoc]
      rfl

/-- What a registry holds after a registration and what it would hold if the
module had subscribed after the registration instead of before. -/
structure Reordered (moduleIdentifier : Int32) (subscribeType : Text)
    (subscribed registered : List Subscription) (place : ℕ) : Prop where
  exists_eq : ∃ earlier event later, earlier.length = place ∧
    event.messageType = subscribeType ∧ subscribed = earlier ++ event :: later ∧
    registered = earlier ++
      { event with subscribers := moduleIdentifier :: event.subscribers } :: later

theorem reordered_of_history (before later : List RegistryCall) (subscribeType : Text)
    (newEvent : SubscribeEvent) (moduleIdentifier : Int32) :
    Reordered moduleIdentifier subscribeType
      (registryOf 0 (before ++ .addSubscriber moduleIdentifier subscribeType ::
        .addSubscriptionEvent subscribeType (some newEvent) :: later))
      (registryOf 0 (before ++ .addSubscriptionEvent subscribeType (some newEvent) ::
        .addSubscriber moduleIdentifier subscribeType :: later))
      (registryOf 0 before).length := by
  let subscription : RegistryCall := .addSubscriber moduleIdentifier subscribeType
  let registration : RegistryCall := .addSubscriptionEvent subscribeType (some newEvent)
  let place := (registryOf 0 before).length + 0
  let earlier := (registryOf 0 before).mapIdx fun index event =>
    event.joined (subscription :: later) (index + 0)
  let event : Subscription := ⟨UInt32.ofNat place, subscribeType,
    subscribersOf place subscribeType later, newEvent⟩
  have hjoined : ∀ calls : List RegistryCall,
      (∀ index messageType, subscribersOf index messageType calls =
        subscribersOf index messageType (subscription :: later)) →
      (registryOf 0 before).mapIdx (fun index event => event.joined calls (index + 0)) =
        earlier := by
    intro calls hcalls
    simp only [earlier, Subscription.joined, hcalls]
  have hregistered : registryOf place (registration :: subscription :: later) =
      { event with subscribers := moduleIdentifier :: event.subscribers } ::
        registryOf (place + 1) later := by
    simp only [registration, subscription, event, registryOf, subscribersOf,
      List.filterMap_cons, RegistryCall.subscriberOf, if_true]
  refine ⟨earlier, event, registryOf (place + 1) later, List.length_mapIdx, rfl, ?_, ?_⟩
  · rw [registryOf_append, hjoined (subscription :: registration :: later) fun _ _ => ?_]
    · rfl
    · simp only [subscribersOf, List.filterMap_cons]
      rfl
  · rw [registryOf_append, hjoined (registration :: subscription :: later) fun _ _ => rfl,
      hregistered]

/-- Who is called after either order: once more, by the new event, the module
that has subscribed after the registration. -/
theorem Reordered.exists_addressed {moduleIdentifier : Int32} {subscribeType typeUrl : Text}
    {subscribed registered : List Subscription} {place : ℕ}
    (hreordered : Reordered moduleIdentifier subscribeType subscribed registered place)
    (hsuffix : subscribeType.isSuffixOf typeUrl) :
    ∃ first second, addressed (fun _ => typeUrl) 0 subscribed = first ++ second ∧
      addressed (fun _ => typeUrl) 0 registered =
        first ++ (place, moduleIdentifier) :: second := by
  obtain ⟨earlier, event, later, rfl, rfl, rfl, rfl⟩ := hreordered.exists_eq
  refine ⟨addressed (fun _ => typeUrl) 0 earlier,
    addressed (fun _ => typeUrl) earlier.length (event :: later), addressed_append _ _ _ _, ?_⟩
  rw [addressed_append, addressed, addressed, if_pos hsuffix, if_pos hsuffix, List.map_cons]
  rfl

theorem Reordered.keepsType {moduleIdentifier : Int32} {subscribeType : Text}
    {subscribed registered : List Subscription} {place : ℕ}
    (hreordered : Reordered moduleIdentifier subscribeType subscribed registered place)
    (hkeeps : ∀ event ∈ subscribed, event.KeepsType) :
    ∀ event ∈ registered, event.KeepsType := by
  obtain ⟨earlier, event, later, -, -, rfl, rfl⟩ := hreordered.exists_eq
  intro other hother
  rcases List.mem_append.mp hother with hearlier | hrest
  · exact hkeeps other (List.mem_append_left _ hearlier)
  · rcases List.mem_cons.mp hrest with rfl | hlater
    · exact hkeeps event (List.mem_append_right _ List.mem_cons_self)
    · exact hkeeps other (List.mem_append_right _ (List.mem_cons_of_mem _ hlater))

/-- The targets of a trigger whose handlers all keep the type. -/
theorem targets_of_keepsType {cache : SubscriptionEventsCache} {anyMessage : Any}
    {requests : List (Int32 × Any)} (hkeeps : ∀ event ∈ cache.events, event.KeepsType)
    (htrigger : cache.triggerMessageHandlers anyMessage = some requests) :
    (cache.handlerCalls anyMessage).map HandlerCall.target =
      addressed (fun _ => anyMessage.typeUrl) 0 cache.events := by
  have hcovers := covers_registryCalls 0 cache.events ⟨anyMessage, 0, []⟩
  rw [typeUrlAt_of_keepsType hkeeps] at hcovers
  exact hcovers.complete (triggerMessageHandlers_eq_some.mp htrigger).1

/-- A subscription binds to the events that are registered when it is made.  If
it comes before the registration of an event of its type, the registry is the
same but for the new event, which does not have the module for it; a message of
the type is handled for the same modules but for that one call. -/
theorem subscription_binds_to_registered (before later : List RegistryCall)
    (subscribeType : Text) (moduleIdentifier : Int32) :
    afterCalls (before ++ .addSubscriber moduleIdentifier subscribeType ::
        .addSubscriptionEvent subscribeType none :: later) =
      afterCalls (before ++ .addSubscriptionEvent subscribeType none ::
        .addSubscriber moduleIdentifier subscribeType :: later) ∧
    ∀ newEvent,
      let subscribed := afterCalls (before ++ .addSubscriber moduleIdentifier subscribeType ::
        .addSubscriptionEvent subscribeType (some newEvent) :: later)
      let registered := afterCalls (before ++
        .addSubscriptionEvent subscribeType (some newEvent) ::
          .addSubscriber moduleIdentifier subscribeType :: later)
      let place := (afterCalls before).events.length
      Reordered moduleIdentifier subscribeType subscribed.events registered.events place ∧
        ∀ anyMessage requests others, subscribeType.isSuffixOf anyMessage.typeUrl →
          (∀ event ∈ subscribed.events, event.KeepsType) →
          subscribed.triggerMessageHandlers anyMessage = some requests →
          registered.triggerMessageHandlers anyMessage = some others →
          ∃ first second,
            (subscribed.handlerCalls anyMessage).map HandlerCall.target = first ++ second ∧
              (registered.handlerCalls anyMessage).map HandlerCall.target =
                first ++ (place, moduleIdentifier) :: second := by
  constructor
  · simp only [afterCalls, List.foldl_append, List.foldl_cons]
    rfl
  · intro newEvent subscribed registered place
    have hreordered : Reordered moduleIdentifier subscribeType subscribed.events
        registered.events place := by
      simp only [subscribed, registered, place, events_afterCalls]
      exact reordered_of_history before later subscribeType newEvent moduleIdentifier
    apply And.intro hreordered
    intro anyMessage requests others hsuffix hkeeps hrequests hothers
    rw [targets_of_keepsType hkeeps hrequests,
      targets_of_keepsType (hreordered.keepsType hkeeps) hothers]
    exact hreordered.exists_addressed hsuffix

/-- Module 7 subscribes before or after an event of its type is registered, beside one
for which it has subscribed before. -/
theorem binds_to_second_event :
    let before : List RegistryCall := [.addSubscriptionEvent "PS".toList (some keepingHandler),
      .addSubscriber 7 "PS".toList]
    let early := afterCalls (before ++ [.addSubscriber 7 "GPS".toList,
      .addSubscriptionEvent "GPS".toList (some keepingHandler), .addSubscriber 8 "GPS".toList])
    let late := afterCalls (before ++ [.addSubscriptionEvent "GPS".toList (some keepingHandler),
      .addSubscriber 7 "GPS".toList, .addSubscriber 8 "GPS".toList])
    ∃ first second,
      (early.handlerCalls ⟨"t/GPS".toList, []⟩).map HandlerCall.target = first ++ second ∧
        (late.handlerCalls ⟨"t/GPS".toList, []⟩).map HandlerCall.target =
          first ++ (1, 7) :: second ∧
        first ++ second = [(0, 7), (1, 8)] := by
  intro before early late
  have hkeeps : ∀ event ∈ early.events, event.KeepsType := by
    have hevents : early.events = [⟨0, "PS".toList, [7], keepingHandler⟩,
        ⟨1, "GPS".toList, [8], keepingHandler⟩] := rfl
    rw [hevents]
    simp [Subscription.KeepsType, keepingHandler]
  have hbinds := (subscription_binds_to_registered before [.addSubscriber 8 "GPS".toList]
    "GPS".toList 7).2 keepingHandler
  obtain ⟨first, second, hearly, hlate⟩ :=
    hbinds.2 ⟨"t/GPS".toList, []⟩ _ _ (by decide) hkeeps rfl rfl
  refine ⟨first, second, hearly, hlate, hearly.symm.trans ?_⟩
  decide

/-- A subscription that comes first is lost. -/
theorem early_subscription_is_lost :
    ¬ ∀ (before later : List RegistryCall) subscribeType newEvent moduleIdentifier anyMessage,
      ((afterCalls (before ++ .addSubscriber moduleIdentifier subscribeType ::
          .addSubscriptionEvent subscribeType (some newEvent) ::
            later)).triggerMessageHandlers anyMessage).map (List.map Prod.fst) =
        ((afterCalls (before ++ .addSubscriptionEvent subscribeType (some newEvent) ::
          .addSubscriber moduleIdentifier subscribeType ::
            later)).triggerMessageHandlers anyMessage).map (List.map Prod.fst) := by
  intro hcommute
  have hnotified := hcommute [] [] "GPS".toList keepingHandler 7 ⟨"t/GPS".toList, []⟩
  exact absurd hnotified (by decide)

/-! ## Repeated subscriptions -/

theorem place_le_of_mem_addressed {typeUrls : ℕ → Text} {place : ℕ}
    {events : List Subscription} {target : ℕ × Int32}
    (hmem : target ∈ addressed typeUrls place events) : place ≤ target.1 := by
  induction events generalizing typeUrls place with
  | nil => cases hmem
  | cons event events ih =>
      rcases List.mem_append.mp hmem with hnow | hlater
      · split at hnow
        · obtain ⟨subscriber, -, rfl⟩ := List.mem_map.mp hnow
          exact Nat.le_refl place
        · cases hnow
      · exact Nat.le_of_succ_le (ih hlater)

/-- A subscriber is addressed as often as its event has it. -/
theorem count_addressed {typeUrls : ℕ → Text} {place index : ℕ} {events : List Subscription}
    {event : Subscription} (hevent : events[index]? = some event) (moduleIdentifier : Int32) :
    (addressed typeUrls place events).count (index + place, moduleIdentifier) =
      if event.messageType.isSuffixOf (typeUrls index) then
        event.subscribers.count moduleIdentifier
      else 0 := by
  induction events generalizing typeUrls place index with
  | nil => cases hevent
  | cons first events ih =>
      rw [addressed, List.count_append]
      cases index with
      | zero =>
          obtain rfl : first = event := Option.some.inj hevent
          have hlater : (addressed (fun index => typeUrls (index + 1)) (place + 1) events).count
              (0 + place, moduleIdentifier) = 0 := by
            apply List.count_eq_zero_of_not_mem
            intro hmem
            have hplace := place_le_of_mem_addressed hmem
            simp only at hplace
            omega
          rw [hlater, Nat.add_zero, Nat.zero_add]
          split
          · have hinjective : Function.Injective fun subscriber : Int32 => (place, subscriber) :=
              fun _ _ hpair => congrArg Prod.snd hpair
            exact List.count_map_of_injective _ _ hinjective moduleIdentifier
          · rfl
      | succ index =>
          have hnow : (if first.messageType.isSuffixOf (typeUrls 0) then
              first.subscribers.map fun subscriber => (place, subscriber) else []).count
                (index + 1 + place, moduleIdentifier) = 0 := by
            apply List.count_eq_zero_of_not_mem
            intro hmem
            split at hmem
            · obtain ⟨subscriber, -, hpair⟩ := List.mem_map.mp hmem
              have hplace := congrArg Prod.fst hpair
              simp only at hplace
              omega
            · cases hmem
          rw [hnow, Nat.zero_add, Nat.add_assoc, Nat.add_comm 1 place]
          exact ih hevent

/-- The entries that the calls for one event and one subscriber add. -/
def entriesOf (calls : List HandlerCall) (target : ℕ × Int32) : List (Int32 × Any) :=
  (calls.filter fun call => call.target = target).filterMap HandlerCall.serviceRequest

theorem count_target (calls : List HandlerCall) (target : ℕ × Int32) :
    (calls.map HandlerCall.target).count target =
      (calls.filter fun call => call.target = target).length := by
  rw [List.count, List.countP_map, List.countP_eq_length_filter]
  apply congrArg List.length
  apply List.filter_congr
  intro call _
  rw [Function.comp_apply, beq_eq_decide]

theorem length_entriesOf_le (calls : List HandlerCall) (target : ℕ × Int32) :
    (entriesOf calls target).length ≤ (calls.map HandlerCall.target).count target := by
  rw [count_target]
  exact List.length_filterMap_le _ _

theorem length_entriesOf_of_answered {calls : List HandlerCall} {target : ℕ × Int32}
    (hanswered : ∀ call ∈ calls, call.target = target → call.answer.join ≠ none) :
    (entriesOf calls target).length = (calls.map HandlerCall.target).count target := by
  rw [count_target, entriesOf, List.length_filterMap_eq_countP, List.countP_eq_length]
  intro call hmem
  obtain ⟨hcall, htarget⟩ := List.mem_filter.mp hmem
  have hvalue := hanswered call hcall (of_decide_eq_true htarget)
  rw [HandlerCall.serviceRequest, Option.isSome_map]
  exact Option.isSome_iff_ne_none.mpr hvalue

/-- The new event of a history, with the modules that have joined it since. -/
theorem getElem?_afterCalls (before later : List RegistryCall) (subscribeType : Text)
    (newEvent : SubscribeEvent) :
    let place := (afterCalls before).events.length
    (afterCalls (before ++ .addSubscriptionEvent subscribeType (some newEvent) ::
        later)).events[place]? =
      some ⟨UInt32.ofNat place, subscribeType, subscribersOf place subscribeType later,
        newEvent⟩ := by
  intro place
  have hplace : place = (registryOf 0 before).length + 0 := by
    simp only [place, events_afterCalls, Nat.add_zero]
  rw [events_afterCalls, registryOf_append, List.getElem?_append_right, List.length_mapIdx,
    registryOf, ← hplace]
  · have hfirst : place - (registryOf 0 before).length = 0 := by
      rw [hplace, Nat.add_zero, Nat.sub_self]
    rw [hfirst]
    rfl
  · rw [List.length_mapIdx, hplace]
    exact Nat.le_refl _

/-- Subscribing is not idempotent: an event is called for a module as often as
the module has subscribed to it since its registration, by its type or by its
identifier, and each call that answers with a value adds an entry. -/
theorem subscriptions_count (before later : List RegistryCall) (subscribeType : Text)
    (newEvent : SubscribeEvent) (moduleIdentifier : Int32) (anyMessage : Any)
    (requests : List (Int32 × Any))
    (htrigger : (afterCalls (before ++ .addSubscriptionEvent subscribeType (some newEvent) ::
      later)).triggerMessageHandlers anyMessage = some requests) :
    let cache := afterCalls (before ++
      .addSubscriptionEvent subscribeType (some newEvent) :: later)
    let place := (afterCalls before).events.length
    let calls := cache.handlerCalls anyMessage
    let subscriptions := (subscribersOf place subscribeType later).count moduleIdentifier
    let entries := entriesOf calls (place, moduleIdentifier)
    requests = calls.filterMap HandlerCall.serviceRequest ∧
      (calls.map HandlerCall.target).count (place, moduleIdentifier) =
        (if subscribeType.isSuffixOf (typeUrlAt cache.events ⟨anyMessage, 0, []⟩ place) then
          subscriptions
        else 0) ∧
      entries.length ≤ subscriptions ∧
      ((∀ call ∈ calls, call.target = (place, moduleIdentifier) → call.answer.join ≠ none) →
        entries.length = (calls.map HandlerCall.target).count (place, moduleIdentifier)) := by
  intro cache place calls subscriptions entries
  obtain ⟨hanswered, hrequests⟩ := triggerMessageHandlers_eq_some.mp htrigger
  have htargets : calls.map HandlerCall.target =
      addressed (typeUrlAt cache.events ⟨anyMessage, 0, []⟩) 0 cache.events :=
    (covers_registryCalls 0 cache.events ⟨anyMessage, 0, []⟩).complete hanswered
  have hcount : (calls.map HandlerCall.target).count (place, moduleIdentifier) =
      if subscribeType.isSuffixOf (typeUrlAt cache.events ⟨anyMessage, 0, []⟩ place) then
        subscriptions
      else 0 := by
    have hevent := getElem?_afterCalls before later subscribeType newEvent
    rw [htargets, ← Nat.add_zero place]
    exact count_addressed hevent moduleIdentifier
  refine ⟨hrequests, hcount, ?_, fun hvalue => length_entriesOf_of_answered hvalue⟩
  calc entries.length
      ≤ (calls.map HandlerCall.target).count (place, moduleIdentifier) :=
        length_entriesOf_le calls (place, moduleIdentifier)
    _ ≤ subscriptions := by
        rw [hcount]
        split
        · exact Nat.le_refl subscriptions
        · exact Nat.zero_le subscriptions

private def retransmitted : List RegistryCall :=
  [.addSubscriber 7 "GPS".toList, .addSubscriber 7 "GPS".toList, .addSubscriberById 7 0]

/-- Two subscriptions by the type and one by the identifier. -/
theorem subscriptions_count_retransmitted :
    ((afterCalls (.addSubscriptionEvent "GPS".toList (some keepingHandler) ::
      retransmitted)).handlerCalls ⟨"t/GPS".toList, []⟩).map HandlerCall.target =
        [(0, 7), (0, 7), (0, 7)] ∧
      (subscribersOf 0 "GPS".toList retransmitted).count 7 = 3 := by
  have hcount := (subscriptions_count [] retransmitted "GPS".toList keepingHandler 7
    ⟨"t/GPS".toList, []⟩ _ rfl).2.1
  exact ⟨by decide, hcount.symm.trans (by decide)⟩

/-- A retransmitted subscription is another subscription. -/
theorem repetition_counts :
    ¬ ∀ (before later : List RegistryCall) moduleIdentifier typeUrl anyMessage,
      (afterCalls (before ++ .addSubscriber moduleIdentifier typeUrl ::
          .addSubscriber moduleIdentifier typeUrl :: later)).triggerMessageHandlers anyMessage =
        (afterCalls (before ++ .addSubscriber moduleIdentifier typeUrl ::
          later)).triggerMessageHandlers anyMessage := by
  intro hidempotent
  have honce := hidempotent [.addSubscriptionEvent "GPS".toList (some keepingHandler)] [] 7
    "GPS".toList ⟨"t/GPS".toList, []⟩
  exact absurd honce (by decide)

end ProcessManagerService.Worker
