import ProcessManagerService.Worker.HandlerCalls
import ProcessManagerService.Worker.SubscriptionRegistry

/-!
# Delivery across types

Subscribing compares a type with the type of an event, while a trigger asks
whether the type of the event is a suffix of the `type_url`.  A handler is
therefore called for a message of another type when its type is a suffix of that
type, and this file says exactly when.
-/

namespace ProcessManagerService.Worker

open SubscriptionEventsCache

/-- A full name of a protobuf type. -/
def IsTypeName (name : Text) : Prop :=
  name ≠ [] ∧ '/' ∉ name

/-- Registrations and subscriptions by a type name. -/
def RegistryCall.ByType : RegistryCall → Prop
  | .addSubscriptionEvent subscribeType _ => IsTypeName subscribeType
  | .addSubscriber _ typeUrl => IsTypeName typeUrl
  | .addSubscriberById _ _ => False
  | .triggerMessageHandlers _ => True

/-- Only modules that have subscribed to the type are notified, and only
handlers that are registered for it are called. -/
structure DeliversOnly (history : List RegistryCall) (typeName : Text) (anyMessage : Any) :
    Prop where
  notified : ∀ requests, (afterCalls history).triggerMessageHandlers anyMessage = some requests →
    ∀ entry ∈ requests, .addSubscriber entry.1 typeName ∈ history
  called : ∀ call ∈ (afterCalls history).handlerCalls anyMessage,
    ∀ event, (afterCalls history).events[call.place]? = some event →
      event.messageType = typeName

/-- An event of another type that has subscribers is taken for one of this type:
its type is a suffix of the `type_url` that the handlers of this type before it
leave. -/
def Mistaken (typeName : Text) (events : List Subscription) (dispatch : Dispatch) : Prop :=
  ∃ earlier event later next, events = earlier ++ event :: later ∧
    event.messageType ≠ typeName ∧ event.subscribers ≠ [] ∧
    (earlier.filter fun event => event.messageType = typeName).foldlM notifyAll dispatch =
      some next ∧
    event.messageType.isSuffixOf next.anyMessage.typeUrl

/-! ## Rounds of the loop -/

/-- A call goes to an event of another type. -/
def Strays (typeName : Text) (place : ℕ) (events : List Subscription) (dispatch : Dispatch) :
    Prop :=
  ∃ index event, events[index]? = some event ∧ event.messageType ≠ typeName ∧
    ∃ call ∈ registryCalls place events dispatch, call.place = index + place

theorem roundCalls_eq_nil_iff {place : ℕ} {event : Subscription} {dispatch : Dispatch} :
    roundCalls place event dispatch = [] ↔
      (event.messageType.isSuffixOf dispatch.anyMessage.typeUrl → event.subscribers = []) := by
  rw [roundCalls]
  split
  · rename_i hsuffix
    cases hsubscribers : event.subscribers with
    | nil => simp [eventCalls]
    | cons subscriber subscribers => simp [eventCalls, hsuffix]
  · rename_i hother
    simp [hother]

theorem notifyAll_of_roundCalls_eq_nil {place : ℕ} {event : Subscription} {dispatch : Dispatch}
    (hnil : roundCalls place event dispatch = []) : notifyAll dispatch event = some dispatch := by
  rw [notifyAll]
  split
  · rename_i hsuffix
    rw [roundCalls_eq_nil_iff.mp hnil hsuffix]
    rfl
  · rfl

theorem strays_cons {typeName : Text} {place : ℕ} {event : Subscription}
    {events : List Subscription} {dispatch : Dispatch} :
    Strays typeName place (event :: events) dispatch ↔
      (event.messageType ≠ typeName ∧ roundCalls place event dispatch ≠ []) ∨
        ∃ next, notifyAll dispatch event = some next ∧
          Strays typeName (place + 1) events next := by
  constructor
  · rintro ⟨index, other, hother, htype, call, hmem, hplace⟩
    rcases mem_registryCalls_cons.mp hmem with hnow | ⟨next, hnotify, hlater⟩
    · have hcall := isCallOf_of_mem_roundCalls hnow
      have hindex : index = 0 := by
        have := hcall.place_eq
        omega
      rw [hindex] at hother
      obtain rfl : event = other := Option.some.inj hother
      exact .inl ⟨htype, List.ne_nil_of_mem hnow⟩
    · obtain ⟨position, reached, -, hcall⟩ := exists_of_mem_registryCalls hlater
      have hposition := hcall.place_eq
      obtain ⟨index, rfl⟩ : ∃ before, index = before + 1 := ⟨index - 1, by omega⟩
      refine .inr ⟨next, hnotify, index, other, hother, htype, call, hlater, ?_⟩
      omega
  · rintro (⟨htype, hcalls⟩ | ⟨next, hnotify, index, other, hother, htype, call, hmem, hplace⟩)
    · obtain ⟨call, hmem⟩ := List.exists_mem_of_ne_nil _ hcalls
      refine ⟨0, event, rfl, htype, call, mem_registryCalls_cons.mpr (.inl hmem), ?_⟩
      rw [Nat.zero_add]
      exact (isCallOf_of_mem_roundCalls hmem).place_eq
    · have hlater := mem_registryCalls_cons.mpr (.inr ⟨next, hnotify, hmem⟩)
      refine ⟨index + 1, other, hother, htype, call, hlater, ?_⟩
      omega

theorem mistaken_cons_of_eq {typeName : Text} {event : Subscription}
    {events : List Subscription} {dispatch : Dispatch} (htype : event.messageType = typeName) :
    Mistaken typeName (event :: events) dispatch ↔
      ∃ next, notifyAll dispatch event = some next ∧ Mistaken typeName events next := by
  constructor
  · rintro ⟨earlier, other, later, finish, hsplit, hother, hsubscribers, hrun, hsuffix⟩
    cases earlier with
    | nil =>
        obtain ⟨rfl, -⟩ := List.cons.inj hsplit
        exact absurd htype hother
    | cons first earlier =>
        obtain ⟨rfl, hrest⟩ := List.cons.inj hsplit
        rw [List.filter_cons_of_pos (by simpa using htype)] at hrun
        obtain ⟨next, hnext, hlater⟩ := Option.bind_eq_some_iff.mp hrun
        exact ⟨next, hnext, earlier, other, later, finish, hrest, hother, hsubscribers, hlater,
          hsuffix⟩
  · rintro ⟨next, hnext, earlier, other, later, finish, rfl, hother, hsubscribers, hrun, hsuffix⟩
    refine ⟨event :: earlier, other, later, finish, rfl, hother, hsubscribers, ?_, hsuffix⟩
    rw [List.filter_cons_of_pos (by simpa using htype)]
    exact Option.bind_eq_some_iff.mpr ⟨next, hnext, hrun⟩

theorem mistaken_cons_of_ne {typeName : Text} {event : Subscription}
    {events : List Subscription} {dispatch : Dispatch} (htype : event.messageType ≠ typeName) :
    Mistaken typeName (event :: events) dispatch ↔
      (event.subscribers ≠ [] ∧ event.messageType.isSuffixOf dispatch.anyMessage.typeUrl) ∨
        Mistaken typeName events dispatch := by
  constructor
  · rintro ⟨earlier, other, later, finish, hsplit, hother, hsubscribers, hrun, hsuffix⟩
    cases earlier with
    | nil =>
        obtain ⟨rfl, -⟩ := List.cons.inj hsplit
        obtain rfl := Option.some.inj hrun
        exact .inl ⟨hsubscribers, hsuffix⟩
    | cons first earlier =>
        obtain ⟨rfl, hrest⟩ := List.cons.inj hsplit
        rw [List.filter_cons_of_neg (by simpa using htype)] at hrun
        exact .inr ⟨earlier, other, later, finish, hrest, hother, hsubscribers, hrun, hsuffix⟩
  · rintro (⟨hsubscribers, hsuffix⟩ |
      ⟨earlier, other, later, finish, rfl, hother, hsubscribers, hrun, hsuffix⟩)
    · exact ⟨[], event, events, dispatch, rfl, htype, hsubscribers, rfl, hsuffix⟩
    · refine ⟨event :: earlier, other, later, finish, rfl, hother, hsubscribers, ?_, hsuffix⟩
      rw [List.filter_cons_of_neg (by simpa using htype)]
      exact hrun

/-- A handler of another type is called exactly when an event is mistaken: up to
the first such event, only handlers of the type have been called. -/
theorem strays_iff_mistaken (typeName : Text) (place : ℕ) (events : List Subscription)
    (dispatch : Dispatch) :
    Strays typeName place events dispatch ↔ Mistaken typeName events dispatch := by
  induction events generalizing place dispatch with
  | nil =>
      constructor
      · rintro ⟨index, event, hevent, -⟩
        cases hevent
      · rintro ⟨earlier, event, later, next, hsplit, -⟩
        cases earlier <;> cases hsplit
  | cons event events ih =>
      rw [strays_cons]
      by_cases htype : event.messageType = typeName
      · rw [mistaken_cons_of_eq htype]
        simp only [ih, ne_eq, htype, not_true_eq_false, false_and, false_or]
      · rw [mistaken_cons_of_ne htype]
        by_cases hnil : roundCalls place event dispatch = []
        · rw [notifyAll_of_roundCalls_eq_nil hnil]
          have hpassed := roundCalls_eq_nil_iff.mp hnil
          simp only [ih, hnil, ne_eq, not_true_eq_false, and_false, false_or,
            Option.some.injEq, exists_eq_left']
          constructor
          · exact .inr
          · rintro (⟨hsubscribers, hsuffix⟩ | hmistaken)
            · exact absurd (hpassed hsuffix) hsubscribers
            · exact hmistaken
        · have hmatched : event.subscribers ≠ [] ∧
              event.messageType.isSuffixOf dispatch.anyMessage.typeUrl := by
            rw [roundCalls_eq_nil_iff, Classical.not_imp] at hnil
            exact ⟨hnil.2, hnil.1⟩
          exact ⟨fun _ => .inl hmatched, fun _ => .inl ⟨htype, hnil⟩⟩

/-! ## The history of the subscribers -/

/-- Without identifiers, a module is with an event because it has subscribed to
the type of the event. -/
theorem addSubscriber_mem_of_mem_subscribers {history : List RegistryCall}
    (hhistory : ∀ call ∈ history, call.ByType) {place : ℕ} {event : Subscription}
    (hevent : event ∈ registryOf place history) {moduleIdentifier : Int32}
    (hmem : moduleIdentifier ∈ event.subscribers) :
    .addSubscriber moduleIdentifier event.messageType ∈ history := by
  have hjoins : ∀ (calls : List RegistryCall) (index : ℕ) (messageType : Text),
      (∀ call ∈ calls, call.ByType) →
        moduleIdentifier ∈ subscribersOf index messageType calls →
          .addSubscriber moduleIdentifier messageType ∈ calls := by
    intro calls index messageType hcalls hsubscriber
    obtain ⟨call, hcall, hjoin⟩ := List.mem_filterMap.mp hsubscriber
    cases call with
    | addSubscriptionEvent subscribeType newEvent => cases hjoin
    | addSubscriber subscriber typeUrl =>
        rw [RegistryCall.subscriberOf] at hjoin
        split at hjoin
        · rename_i htype
          obtain rfl := Option.some.inj hjoin
          rw [htype]
          exact hcall
        · cases hjoin
    | addSubscriberById identifier subscribeEventID => exact absurd (hcalls _ hcall) not_false
    | triggerMessageHandlers anyMessage => cases hjoin
  obtain ⟨index, newEvent, before, later, rfl, hsubscribers⟩ := exists_registration_of_mem hevent
  rw [hsubscribers] at hmem
  apply List.mem_append_right
  apply List.mem_cons_of_mem
  apply hjoins later index event.messageType _ hmem
  intro call hcall
  exact hhistory call (List.mem_append_right _ (List.mem_cons_of_mem _ hcall))

/-- Calling only handlers of the type is all that the delivery depends on. -/
theorem deliversOnly_iff_not_strays {history : List RegistryCall}
    (hhistory : ∀ call ∈ history, call.ByType) {typeName : Text} {anyMessage : Any} :
    DeliversOnly history typeName anyMessage ↔
      ¬ Strays typeName 0 (registryOf 0 history) ⟨anyMessage, 0, []⟩ := by
  constructor
  · rintro hdelivers ⟨index, event, hevent, htype, call, hmem, hplace⟩
    rw [← events_afterCalls] at hevent hmem
    rw [Nat.add_zero] at hplace
    rw [← hplace] at hevent
    exact htype (hdelivers.called call hmem event hevent)
  · intro hstrays
    have hcalled : ∀ call ∈ (afterCalls history).handlerCalls anyMessage,
        ∀ event, (afterCalls history).events[call.place]? = some event →
          event.messageType = typeName := by
      intro call hmem event hevent
      by_contra htype
      rw [handlerCalls] at hmem
      rw [events_afterCalls] at hmem hevent
      exact hstrays ⟨call.place, event, hevent, htype, call, hmem, rfl⟩
    refine ⟨?_, hcalled⟩
    intro requests hrequests entry hentry
    obtain ⟨-, rfl⟩ := triggerMessageHandlers_eq_some.mp hrequests
    obtain ⟨call, hmem, hrequest⟩ := List.mem_filterMap.mp hentry
    obtain ⟨event, hevent, hcall⟩ := exists_of_mem_handlerCalls hmem
    obtain ⟨newMessage, -, rfl⟩ := Option.map_eq_some_iff.mp hrequest
    rw [← hcalled call hmem event hevent]
    rw [events_afterCalls] at hevent
    exact addSubscriber_mem_of_mem_subscribers hhistory (List.mem_of_getElem? hevent)
      hcall.subscriber_mem

/-! ## Handlers that keep the type -/

theorem suffix_iff_of_not_mem {name typeName urlPrefix : Text} (hname : '/' ∉ name) :
    name.isSuffixOf (urlPrefix ++ '/' :: typeName) ↔ name.isSuffixOf typeName := by
  rw [List.isSuffixOf_iff_suffix, List.isSuffixOf_iff_suffix]
  constructor
  · intro hsuffix
    have hrest : '/' :: typeName <:+ urlPrefix ++ '/' :: typeName := List.suffix_append _ _
    rcases List.suffix_or_suffix_of_suffix hsuffix hrest with hinner | houter
    · rcases List.suffix_cons_iff.mp hinner with rfl | hinside
      · exact absurd List.mem_cons_self hname
      · exact hinside
    · exact absurd (houter.subset List.mem_cons_self) hname
  · intro hsuffix
    exact List.suffix_append_of_suffix (hsuffix.trans (List.suffix_cons _ _))

theorem exists_foldlM_notifyAll {events : List Subscription}
    (hkeeps : ∀ event ∈ events, event.KeepsType ∧ event.event.callback ≠ none)
    (dispatch : Dispatch) :
    ∃ next, events.foldlM notifyAll dispatch = some next ∧
      next.anyMessage.typeUrl = dispatch.anyMessage.typeUrl := by
  induction events generalizing dispatch with
  | nil => exact ⟨dispatch, rfl, rfl⟩
  | cons event events ih =>
      obtain ⟨hkeep, hcallback⟩ := hkeeps event List.mem_cons_self
      have haccounts := accounts_roundCalls 0 event dispatch
      cases hnotify : notifyAll dispatch event with
      | none =>
          rw [hnotify] at haccounts
          obtain ⟨call, hmem, hnull⟩ := haccounts
          exact absurd ((isCallOf_of_mem_roundCalls hmem).answer_eq_none.mp hnull) hcallback
      | some next =>
          obtain ⟨finish, hrun, htypeUrl⟩ := ih
            (fun other hother => hkeeps other (List.mem_cons_of_mem event hother)) next
          refine ⟨finish, ?_, htypeUrl.trans (typeUrl_notifyAll hkeep hnotify)⟩
          exact Option.bind_eq_some_iff.mpr ⟨next, hnotify, hrun⟩

theorem mistaken_iff_of_keepsType {typeName : Text} {events : List Subscription}
    (hkeeps : ∀ event ∈ events, event.messageType = typeName →
      event.KeepsType ∧ event.event.callback ≠ none) (dispatch : Dispatch) :
    Mistaken typeName events dispatch ↔
      ∃ event ∈ events, event.messageType ≠ typeName ∧ event.subscribers ≠ [] ∧
        event.messageType.isSuffixOf dispatch.anyMessage.typeUrl := by
  have hreach : ∀ earlier event later, events = earlier ++ event :: later →
      ∃ next, (earlier.filter fun event => event.messageType = typeName).foldlM notifyAll
          dispatch = some next ∧ next.anyMessage.typeUrl = dispatch.anyMessage.typeUrl := by
    rintro earlier event later rfl
    apply exists_foldlM_notifyAll
    intro other hother
    obtain ⟨hearlier, htype⟩ := List.mem_filter.mp hother
    exact hkeeps other (List.mem_append_left _ hearlier) (of_decide_eq_true htype)
  constructor
  · rintro ⟨earlier, event, later, next, hsplit, htype, hsubscribers, hrun, hsuffix⟩
    obtain ⟨finish, hfinish, htypeUrl⟩ := hreach earlier event later hsplit
    obtain rfl : next = finish := Option.some.inj (hrun.symm.trans hfinish)
    have hmem : event ∈ events := by
      rw [hsplit]
      exact List.mem_append_right _ List.mem_cons_self
    rw [htypeUrl] at hsuffix
    exact ⟨event, hmem, htype, hsubscribers, hsuffix⟩
  · rintro ⟨event, hmem, htype, hsubscribers, hsuffix⟩
    obtain ⟨earlier, later, hsplit⟩ := List.append_of_mem hmem
    obtain ⟨finish, hfinish, htypeUrl⟩ := hreach earlier event later hsplit
    rw [← htypeUrl] at hsuffix
    exact ⟨earlier, event, later, finish, hsplit, htype, hsubscribers, hfinish, hsuffix⟩

theorem isTypeName_of_mem_registryOf {history : List RegistryCall}
    (hhistory : ∀ call ∈ history, call.ByType) {place : ℕ} {event : Subscription}
    (hevent : event ∈ registryOf place history) : IsTypeName event.messageType := by
  obtain ⟨index, newEvent, before, later, rfl, -⟩ := exists_registration_of_mem hevent
  exact hhistory (.addSubscriptionEvent event.messageType (some newEvent))
    (List.mem_append_right _ List.mem_cons_self)

/-! ## Exactly when nothing is delivered across types -/

/-- Delivery is by the exact type unless an event of another type is mistaken
for one of the type.  Where the handlers of the type have callbacks that keep
the `type_url`, such an event is one with subscribers whose type is a proper
suffix of the type name. -/
theorem deliversOnly_iff {history : List RegistryCall}
    (hhistory : ∀ call ∈ history, call.ByType) {typeName urlPrefix : Text} {anyMessage : Any}
    (htypeUrl : anyMessage.typeUrl = urlPrefix ++ '/' :: typeName) :
    (DeliversOnly history typeName anyMessage ↔
      ¬ Mistaken typeName (registryOf 0 history) ⟨anyMessage, 0, []⟩) ∧
    ((∀ event ∈ registryOf 0 history, event.messageType = typeName →
        event.KeepsType ∧ event.event.callback ≠ none) →
      (DeliversOnly history typeName anyMessage ↔
        ∀ event ∈ registryOf 0 history, event.messageType ≠ typeName →
          event.subscribers ≠ [] → ¬ event.messageType.isSuffixOf typeName)) := by
  have hexact : DeliversOnly history typeName anyMessage ↔
      ¬ Mistaken typeName (registryOf 0 history) ⟨anyMessage, 0, []⟩ := by
    rw [deliversOnly_iff_not_strays hhistory, strays_iff_mistaken]
  apply And.intro hexact
  intro hkeeps
  rw [hexact, mistaken_iff_of_keepsType hkeeps]
  push Not
  apply forall₂_congr
  intro event hevent
  have hname := (isTypeName_of_mem_registryOf hhistory hevent).2
  simp only [htypeUrl, ne_eq, suffix_iff_of_not_mem hname]

private def positionHandler : SubscribeEvent :=
  ⟨some ⟨fun _ anyMessage => (some anyMessage, anyMessage)⟩⟩

private def registrations (first second : Text) : List RegistryCall :=
  [.addSubscriptionEvent first (some positionHandler),
    .addSubscriptionEvent second (some positionHandler),
    .addSubscriber 7 first, .addSubscriber 8 second]

/-- Two types of which none ends in the other. -/
theorem deliversOnly_of_unrelated_types :
    DeliversOnly (registrations "Status".toList "GPS".toList) "GPS".toList
      ⟨"type.googleapis.com/GPS".toList, []⟩ := by
  have hhistory : ∀ call ∈ registrations "Status".toList "GPS".toList, call.ByType := by
    intro call hmem
    simp only [registrations, List.mem_cons, List.not_mem_nil, or_false] at hmem
    rcases hmem with rfl | rfl | rfl | rfl <;> exact ⟨by decide, by decide⟩
  have htypeUrl : (⟨"type.googleapis.com/GPS".toList, []⟩ : Any).typeUrl =
      "type.googleapis.com".toList ++ '/' :: "GPS".toList := by decide
  have hregistry : registryOf 0 (registrations "Status".toList "GPS".toList) =
      [⟨0, "Status".toList, [7], positionHandler⟩, ⟨1, "GPS".toList, [8], positionHandler⟩] := rfl
  apply ((deliversOnly_iff hhistory htypeUrl).2 _).mpr
  · intro event hevent
    rw [hregistry] at hevent
    rcases List.mem_pair.mp hevent with rfl | rfl
    · intro _ _
      decide
    · intro htype
      exact absurd rfl htype
  · intro event hevent _
    rw [hregistry] at hevent
    have hhandler : event.event = positionHandler := by
      rcases List.mem_pair.mp hevent with rfl | rfl <;> rfl
    rw [Subscription.KeepsType, hhandler]
    constructor
    · intro callback hcallback call anyMessage
      rw [← Option.some.inj hcallback]
    · exact Option.some_ne_none _

/-- Module 7 has subscribed to the shorter type only. -/
theorem longer_type_is_mistaken :
    ¬ DeliversOnly (registrations "GPS".toList "MyGPS".toList) "MyGPS".toList
      ⟨"type.googleapis.com/MyGPS".toList, []⟩ := by
  intro hdelivers
  have hmem := hdelivers.notified _ rfl (7, ⟨"type.googleapis.com/MyGPS".toList, []⟩)
    List.mem_cons_self
  simp [registrations] at hmem

end ProcessManagerService.Worker
