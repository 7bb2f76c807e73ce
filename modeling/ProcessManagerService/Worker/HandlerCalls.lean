import ProcessManagerService.Worker.EventsCaches

/-!
# Handler calls of a dispatch

`triggerMessageHandlers` calls the handler of a matching event once for each
subscriber.  This file lists the calls that it makes and reads its result off
them: the answers that have a value, each with its subscriber, or undefined
behaviour where a callback pointer is null.
-/

namespace ProcessManagerService.Worker

open SubscriptionEventsCache

/-- A call of `subscriptionHandle`: the place of the event in the registry, the
subscriber, and the answer, which is `none` through a null pointer. -/
structure HandlerCall where
  place : ℕ
  subscriber : Int32
  answer : Option (Option Any)

namespace HandlerCall

def serviceRequest (call : HandlerCall) : Option (Int32 × Any) :=
  call.answer.join.map fun newMessage => (call.subscriber, newMessage)

/-- Which event is called for which subscriber. -/
def target (call : HandlerCall) : ℕ × Int32 :=
  (call.place, call.subscriber)

end HandlerCall

/-- The calls for the subscribers of one event. -/
def eventCalls (place : ℕ) (event : Subscription) : List Int32 → Dispatch → List HandlerCall
  | [], _ => []
  | subscriber :: subscribers, dispatch =>
      ⟨place, subscriber, (event.event.subscriptionHandle dispatch.calls
        dispatch.anyMessage).map Prod.fst⟩ ::
        (notify event dispatch subscriber).elim [] (eventCalls place event subscribers)

/-- The calls of one round of the loop over the events. -/
def roundCalls (place : ℕ) (event : Subscription) (dispatch : Dispatch) : List HandlerCall :=
  if event.messageType.isSuffixOf dispatch.anyMessage.typeUrl then
    eventCalls place event event.subscribers dispatch
  else []

/-- The calls for the events from a place on. -/
def registryCalls (place : ℕ) : List Subscription → Dispatch → List HandlerCall
  | [], _ => []
  | event :: events, dispatch =>
      roundCalls place event dispatch ++
        (notifyAll dispatch event).elim [] (registryCalls (place + 1) events)

/-- A call is for the first event, or for one behind it that the loop reaches. -/
theorem mem_registryCalls_cons {call : HandlerCall} {place : ℕ} {event : Subscription}
    {events : List Subscription} {dispatch : Dispatch} :
    call ∈ registryCalls place (event :: events) dispatch ↔
      call ∈ roundCalls place event dispatch ∨ ∃ next, notifyAll dispatch event = some next ∧
        call ∈ registryCalls (place + 1) events next := by
  rw [registryCalls, List.mem_append]
  cases notifyAll dispatch event <;> simp

def SubscriptionEventsCache.handlerCalls (cache : SubscriptionEventsCache) (anyMessage : Any) :
    List HandlerCall :=
  registryCalls 0 cache.events ⟨anyMessage, 0, []⟩

/-! ## What the calls say of the result -/

/-- The calls account for what the dispatch has collected in between, and for
its end if it has come to one. -/
def Accounts (calls : List HandlerCall) (dispatch : Dispatch) : Option Dispatch → Prop
  | some next => (∀ call ∈ calls, call.answer ≠ none) ∧
      next.serviceRequests =
        dispatch.serviceRequests ++ calls.filterMap HandlerCall.serviceRequest
  | none => ∃ call ∈ calls, call.answer = none

theorem Accounts.nil (dispatch : Dispatch) : Accounts [] dispatch (some dispatch) :=
  ⟨fun _ hmem => absurd hmem List.not_mem_nil, (List.append_nil _).symm⟩

/-- Accounts of two loops follow each other. -/
theorem Accounts.bind {calls : List HandlerCall} {dispatch : Dispatch}
    {result : Option Dispatch} {next : Dispatch → Option Dispatch}
    {later : Dispatch → List HandlerCall} (hfirst : Accounts calls dispatch result)
    (hnext : ∀ middle, result = some middle → Accounts (later middle) middle (next middle)) :
    Accounts (calls ++ result.elim [] later) dispatch (result.bind next) := by
  cases result with
  | none =>
      obtain ⟨call, hmem, hnull⟩ := hfirst
      exact ⟨call, List.mem_append_left _ hmem, hnull⟩
  | some middle =>
      have hlater := hnext middle rfl
      rw [Option.bind_some, Option.elim_some]
      cases hresult : next middle with
      | none =>
          rw [hresult] at hlater
          obtain ⟨call, hmem, hnull⟩ := hlater
          exact ⟨call, List.mem_append_right _ hmem, hnull⟩
      | some finish =>
          rw [hresult] at hlater
          constructor
          · intro call hmem
            rcases List.mem_append.mp hmem with hcall | hcall
            · exact hfirst.1 call hcall
            · exact hlater.1 call hcall
          · rw [hlater.2, hfirst.2, List.filterMap_append, List.append_assoc]

theorem accounts_notify (place : ℕ) (event : Subscription) (dispatch : Dispatch)
    (subscriber : Int32) :
    Accounts [⟨place, subscriber, (event.event.subscriptionHandle dispatch.calls
        dispatch.anyMessage).map Prod.fst⟩]
      dispatch (notify event dispatch subscriber) := by
  rw [notify]
  cases hhandle : event.event.subscriptionHandle dispatch.calls dispatch.anyMessage with
  | none => exact ⟨_, List.mem_singleton_self _, rfl⟩
  | some handled =>
      obtain ⟨answer, anyMessage⟩ := handled
      constructor
      · intro call hmem
        rw [List.mem_singleton.mp hmem]
        exact Option.some_ne_none _
      · cases answer with
        | none => rfl
        | some newMessage => rfl

theorem accounts_eventCalls (place : ℕ) (event : Subscription) (subscribers : List Int32)
    (dispatch : Dispatch) :
    Accounts (eventCalls place event subscribers dispatch) dispatch
      (subscribers.foldlM (notify event) dispatch) := by
  induction subscribers generalizing dispatch with
  | nil => exact .nil dispatch
  | cons subscriber subscribers ih =>
      apply (accounts_notify place event dispatch subscriber).bind
      intro middle _
      exact ih middle

theorem accounts_roundCalls (place : ℕ) (event : Subscription) (dispatch : Dispatch) :
    Accounts (roundCalls place event dispatch) dispatch (notifyAll dispatch event) := by
  rw [roundCalls, notifyAll]
  split
  · exact accounts_eventCalls place event event.subscribers dispatch
  · exact .nil dispatch

theorem accounts_registryCalls (place : ℕ) (events : List Subscription) (dispatch : Dispatch) :
    Accounts (registryCalls place events dispatch) dispatch
      (events.foldlM notifyAll dispatch) := by
  induction events generalizing place dispatch with
  | nil => exact .nil dispatch
  | cons event events ih =>
      apply (accounts_roundCalls place event dispatch).bind
      intro middle _
      exact ih (place + 1) middle

/-- A trigger returns the answers that have a value, in the order of the calls. -/
theorem triggerMessageHandlers_eq_some {cache : SubscriptionEventsCache} {anyMessage : Any}
    {requests : List (Int32 × Any)} :
    cache.triggerMessageHandlers anyMessage = some requests ↔
      (∀ call ∈ cache.handlerCalls anyMessage, call.answer ≠ none) ∧
        requests = (cache.handlerCalls anyMessage).filterMap HandlerCall.serviceRequest := by
  have haccounts := accounts_registryCalls 0 cache.events ⟨anyMessage, 0, []⟩
  rw [triggerMessageHandlers, handlerCalls]
  cases hresult : cache.events.foldlM notifyAll ⟨anyMessage, 0, []⟩ with
  | none =>
      rw [hresult] at haccounts
      obtain ⟨call, hmem, hnull⟩ := haccounts
      constructor
      · intro hsome
        cases hsome
      · rintro ⟨hanswered, -⟩
        exact absurd hnull (hanswered call hmem)
  | some finish =>
      rw [hresult] at haccounts
      rw [Option.map_some, Option.some.injEq, haccounts.2, List.nil_append]
      constructor
      · rintro rfl
        exact ⟨haccounts.1, rfl⟩
      · rintro ⟨-, rfl⟩
        rfl

/-- A trigger is undefined exactly when it calls through a null pointer. -/
theorem triggerMessageHandlers_eq_none {cache : SubscriptionEventsCache} {anyMessage : Any} :
    cache.triggerMessageHandlers anyMessage = none ↔
      ∃ call ∈ cache.handlerCalls anyMessage, call.answer = none := by
  constructor
  · intro hnone
    by_contra hanswered
    push Not at hanswered
    have hsome := triggerMessageHandlers_eq_some.mpr ⟨hanswered, rfl⟩
    rw [hnone] at hsome
    cases hsome
  · rintro ⟨call, hmem, hnull⟩
    cases hresult : cache.triggerMessageHandlers anyMessage with
    | none => rfl
    | some requests =>
        exact absurd hnull ((triggerMessageHandlers_eq_some.mp hresult).1 call hmem)

/-! ## Who is called -/

/-- The handler leaves the `type_url` of a message as it is. -/
def Subscription.KeepsType (event : Subscription) : Prop :=
  ∀ callback, event.event.callback = some callback →
    ∀ call anyMessage, (callback.run call anyMessage).2.typeUrl = anyMessage.typeUrl

/-- The `type_url` that the message has when the loop comes to each event. -/
def typeUrlAt : List Subscription → Dispatch → ℕ → Text
  | event :: events, dispatch, index + 1 =>
      (notifyAll dispatch event).elim dispatch.anyMessage.typeUrl fun next =>
        typeUrlAt events next index
  | _, dispatch, _ => dispatch.anyMessage.typeUrl

/-- The events whose type is a suffix of the `type_url` for them, each with its
subscribers. -/
def addressed (typeUrls : ℕ → Text) (place : ℕ) : List Subscription → List (ℕ × Int32)
  | [] => []
  | event :: events =>
      (if event.messageType.isSuffixOf (typeUrls 0) then
        event.subscribers.map fun subscriber => (place, subscriber)
      else []) ++ addressed (fun index => typeUrls (index + 1)) (place + 1) events

theorem typeUrl_notify {event : Subscription} (hkeeps : event.KeepsType)
    {dispatch next : Dispatch} {subscriber : Int32}
    (hnotify : notify event dispatch subscriber = some next) :
    next.anyMessage.typeUrl = dispatch.anyMessage.typeUrl := by
  rw [notify, SubscribeEvent.subscriptionHandle, Option.map_map,
    Option.map_eq_some_iff] at hnotify
  obtain ⟨callback, hcallback, rfl⟩ := hnotify
  exact hkeeps callback hcallback dispatch.calls dispatch.anyMessage

theorem typeUrl_notifyAll {event : Subscription} (hkeeps : event.KeepsType)
    {dispatch next : Dispatch} (hnotify : notifyAll dispatch event = some next) :
    next.anyMessage.typeUrl = dispatch.anyMessage.typeUrl := by
  have hloop : ∀ (subscribers : List Int32) (start : Dispatch),
      subscribers.foldlM (notify event) start = some next →
        next.anyMessage.typeUrl = start.anyMessage.typeUrl := by
    intro subscribers
    induction subscribers with
    | nil =>
        intro start hrun
        rw [← Option.some.inj hrun]
    | cons subscriber subscribers ih =>
        intro start hrun
        obtain ⟨middle, hmiddle, hrest⟩ := Option.bind_eq_some_iff.mp hrun
        exact (ih middle hrest).trans (typeUrl_notify hkeeps hmiddle)
  rw [notifyAll] at hnotify
  split at hnotify
  · exact hloop event.subscribers dispatch hnotify
  · rw [Option.some.inj hnotify]

theorem typeUrlAt_of_keepsType {events : List Subscription}
    (hkeeps : ∀ event ∈ events, event.KeepsType) (dispatch : Dispatch) :
    typeUrlAt events dispatch = fun _ => dispatch.anyMessage.typeUrl := by
  funext index
  induction events generalizing dispatch index with
  | nil => cases index <;> rfl
  | cons event events ih =>
      cases index with
      | zero => rfl
      | succ index =>
          rw [typeUrlAt]
          cases hnotify : notifyAll dispatch event with
          | none => rfl
          | some next =>
              have hlater := ih (fun other hother => hkeeps other
                (List.mem_cons_of_mem event hother)) next index
              exact hlater.trans (typeUrl_notifyAll (hkeeps event List.mem_cons_self) hnotify)

/-- The calls go through the targets in order, and to the last one unless a
callback pointer is null. -/
structure Covers (calls : List HandlerCall) (targets : List (ℕ × Int32)) : Prop where
  isPrefix : calls.map HandlerCall.target <+: targets
  complete : (∀ call ∈ calls, call.answer ≠ none) → calls.map HandlerCall.target = targets

theorem Covers.nil : Covers [] [] :=
  ⟨List.prefix_rfl, fun _ => rfl⟩

/-- Later targets are reached where the dispatch comes to them. -/
theorem Covers.bind {calls : List HandlerCall} {targets others : List (ℕ × Int32)}
    {dispatch : Dispatch} {result : Option Dispatch} {later : Dispatch → List HandlerCall}
    (hcovers : Covers calls targets) (haccounts : Accounts calls dispatch result)
    (hnext : ∀ next, result = some next → Covers (later next) others) :
    Covers (calls ++ result.elim [] later) (targets ++ others) := by
  cases result with
  | none =>
      obtain ⟨call, hmem, hnull⟩ := haccounts
      rw [Option.elim_none, List.append_nil]
      constructor
      · exact hcovers.isPrefix.trans (List.prefix_append targets others)
      · intro hanswered
        exact absurd hnull (hanswered call hmem)
  | some next =>
      have htargets := hcovers.complete haccounts.1
      have hlater := hnext next rfl
      rw [Option.elim_some]
      constructor
      · rw [List.map_append, htargets, List.prefix_append_right_inj]
        exact hlater.isPrefix
      · intro hanswered
        rw [List.map_append, htargets, hlater.complete]
        intro call hmem
        exact hanswered call (List.mem_append_right _ hmem)

theorem covers_eventCalls (place : ℕ) (event : Subscription) (subscribers : List Int32)
    (dispatch : Dispatch) :
    Covers (eventCalls place event subscribers dispatch)
      (subscribers.map fun subscriber => (place, subscriber)) := by
  induction subscribers generalizing dispatch with
  | nil => exact .nil
  | cons subscriber subscribers ih =>
      have hone : Covers [⟨place, subscriber, (event.event.subscriptionHandle dispatch.calls
          dispatch.anyMessage).map Prod.fst⟩] [(place, subscriber)] :=
        ⟨List.prefix_rfl, fun _ => rfl⟩
      apply hone.bind (accounts_notify place event dispatch subscriber)
      intro next _
      exact ih next

theorem covers_roundCalls (place : ℕ) (event : Subscription) (dispatch : Dispatch) :
    Covers (roundCalls place event dispatch)
      (if event.messageType.isSuffixOf dispatch.anyMessage.typeUrl then
        event.subscribers.map fun subscriber => (place, subscriber)
      else []) := by
  rw [roundCalls]
  split
  · exact covers_eventCalls place event event.subscribers dispatch
  · exact .nil

theorem covers_registryCalls (place : ℕ) (events : List Subscription) (dispatch : Dispatch) :
    Covers (registryCalls place events dispatch)
      (addressed (typeUrlAt events dispatch) place events) := by
  induction events generalizing place dispatch with
  | nil => exact .nil
  | cons event events ih =>
      apply (covers_roundCalls place event dispatch).bind
        (accounts_roundCalls place event dispatch)
      intro next hnext
      have htypeUrls : (fun index => typeUrlAt (event :: events) dispatch (index + 1)) =
          typeUrlAt events next := by
        funext index
        rw [typeUrlAt, hnext, Option.elim_some]
      rw [htypeUrls]
      exact ih (place + 1) next

/-- A call is made for a subscriber of the event, and it goes through the
callback pointer of the event. -/
structure IsCallOf (call : HandlerCall) (place : ℕ) (event : Subscription) : Prop where
  place_eq : call.place = place
  subscriber_mem : call.subscriber ∈ event.subscribers
  answer_eq_none : call.answer = none ↔ event.event.callback = none

theorem mem_eventCalls {place : ℕ} {event : Subscription} {subscribers : List Int32}
    {dispatch : Dispatch} {call : HandlerCall}
    (hmem : call ∈ eventCalls place event subscribers dispatch) :
    call.place = place ∧ call.subscriber ∈ subscribers ∧
      (call.answer = none ↔ event.event.callback = none) := by
  induction subscribers generalizing dispatch with
  | nil => cases hmem
  | cons subscriber subscribers ih =>
      rcases List.mem_cons.mp hmem with rfl | hlater
      · refine ⟨rfl, List.mem_cons_self, ?_⟩
        simp [SubscribeEvent.subscriptionHandle]
      · cases hnotify : notify event dispatch subscriber with
        | none =>
            rw [hnotify] at hlater
            cases hlater
        | some next =>
            rw [hnotify] at hlater
            obtain ⟨hplace, hsubscriber, hnull⟩ := ih hlater
            exact ⟨hplace, List.mem_cons_of_mem subscriber hsubscriber, hnull⟩

theorem isCallOf_of_mem_roundCalls {place : ℕ} {event : Subscription} {dispatch : Dispatch}
    {call : HandlerCall} (hmem : call ∈ roundCalls place event dispatch) :
    IsCallOf call place event := by
  rw [roundCalls] at hmem
  split at hmem
  · obtain ⟨hplace, hsubscriber, hnull⟩ := mem_eventCalls hmem
    exact ⟨hplace, hsubscriber, hnull⟩
  · cases hmem

theorem exists_of_mem_registryCalls {place : ℕ} {events : List Subscription}
    {dispatch : Dispatch} {call : HandlerCall}
    (hmem : call ∈ registryCalls place events dispatch) :
    ∃ index event, events[index]? = some event ∧ IsCallOf call (index + place) event := by
  induction events generalizing place dispatch with
  | nil => cases hmem
  | cons event events ih =>
      rcases mem_registryCalls_cons.mp hmem with hnow | ⟨next, -, hlater⟩
      · apply Exists.intro 0
        rw [Nat.zero_add]
        exact ⟨event, rfl, isCallOf_of_mem_roundCalls hnow⟩
      · obtain ⟨index, other, hother, hcall⟩ := ih hlater
        apply Exists.intro (index + 1)
        rw [Nat.add_assoc, Nat.add_comm 1]
        exact ⟨other, hother, hcall⟩

/-- Every call for an event goes through its callback pointer. -/
theorem exists_of_mem_handlerCalls {cache : SubscriptionEventsCache} {anyMessage : Any}
    {call : HandlerCall} (hmem : call ∈ cache.handlerCalls anyMessage) :
    ∃ event, cache.events[call.place]? = some event ∧ IsCallOf call call.place event := by
  obtain ⟨index, event, hevent, hcall⟩ := exists_of_mem_registryCalls hmem
  have hplace : call.place = index := hcall.place_eq
  rw [hplace]
  exact ⟨event, hevent, hcall⟩

end ProcessManagerService.Worker
