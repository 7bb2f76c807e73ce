import ProcessManagerService.Worker.EventManager

/-!
# Null callbacks

`MessageEvent` and `SubscribeEvent` may both be built without a callback, and
the event manager admits them.  A message event is asked to validate the message
first, which it does not do without a callback.  A subscribe event has no such
question: its callback is called as soon as a message of its type has a
subscriber.
-/

namespace ProcessManagerService.Worker

open SubscriptionEventsCache

/-- Neither trigger calls through a null callback pointer, which would be
undefined. -/
structure NoNullCallback (manager : EventManager) (sender : Sender) (anyMessage : Any) :
    Prop where
  messages : manager.messageEventsCache.triggerMessageHandlers sender anyMessage ≠ none
  subscriptions : manager.subscriptionEventsCache.triggerMessageHandlers anyMessage ≠ none

/-- The event has subscribers but no callback, and it takes messages with this
`type_url`. -/
def Subscription.CallsNull (event : Subscription) (typeUrl : Text) : Prop :=
  event.event.callback = none ∧ event.subscribers ≠ [] ∧ event.messageType.isSuffixOf typeUrl

/-- The loop over the events comes to such an event, with the `type_url` that the
handlers before it leave. -/
def ReachesNull (events : List Subscription) (dispatch : Dispatch) : Prop :=
  ∃ earlier event later next, events = earlier ++ event :: later ∧
    earlier.foldlM notifyAll dispatch = some next ∧
    event.CallsNull next.anyMessage.typeUrl

/-! ## The loops -/

/-- One round of the loop ends in a call through a null pointer. -/
theorem notifyAll_eq_none_iff {event : Subscription} {dispatch : Dispatch} :
    notifyAll dispatch event = none ↔ event.CallsNull dispatch.anyMessage.typeUrl := by
  constructor
  · intro hnone
    have haccounts := accounts_roundCalls 0 event dispatch
    rw [hnone] at haccounts
    obtain ⟨call, hmem, hnull⟩ := haccounts
    have hcall := isCallOf_of_mem_roundCalls hmem
    refine ⟨hcall.answer_eq_none.mp hnull, List.ne_nil_of_mem hcall.subscriber_mem, ?_⟩
    by_contra hother
    rw [roundCalls, if_neg hother] at hmem
    cases hmem
  · rintro ⟨hcallback, hsubscribers, hsuffix⟩
    obtain ⟨subscriber, subscribers, hcons⟩ := List.exists_cons_of_ne_nil hsubscribers
    have hnotify : notify event dispatch subscriber = none := by
      rw [notify, SubscribeEvent.subscriptionHandle, hcallback]
      rfl
    rw [notifyAll, if_pos hsuffix, hcons, List.foldlM_cons, hnotify]
    rfl

theorem foldlM_notifyAll_eq_none_iff {events : List Subscription} {dispatch : Dispatch} :
    events.foldlM notifyAll dispatch = none ↔ ReachesNull events dispatch := by
  constructor
  · intro hnone
    induction events generalizing dispatch with
    | nil => cases hnone
    | cons event events ih =>
        cases hnotify : notifyAll dispatch event with
        | none =>
            exact ⟨[], event, events, dispatch, rfl, rfl, notifyAll_eq_none_iff.mp hnotify⟩
        | some middle =>
            rw [List.foldlM_cons, hnotify] at hnone
            obtain ⟨earlier, null, later, next, rfl, hrun, hnull⟩ := ih hnone
            refine ⟨event :: earlier, null, later, next, rfl, ?_, hnull⟩
            rw [List.foldlM_cons, hnotify]
            exact hrun
  · rintro ⟨earlier, event, later, next, rfl, hrun, hnull⟩
    rw [List.foldlM_append, hrun]
    change (notifyAll next event).bind _ = none
    rw [notifyAll_eq_none_iff.mpr hnull]
    rfl

/-- Handlers that keep the `type_url` do not matter for what the loop reaches. -/
theorem foldlM_notifyAll_eq_none_iff_of_keepsType {events : List Subscription}
    (hkeeps : ∀ event ∈ events, event.KeepsType) {dispatch : Dispatch} :
    events.foldlM notifyAll dispatch = none ↔
      ∃ event ∈ events, event.CallsNull dispatch.anyMessage.typeUrl := by
  induction events generalizing dispatch with
  | nil => simp
  | cons event events ih =>
      rw [List.foldlM_cons]
      cases hnotify : notifyAll dispatch event with
      | none =>
          have hnull := notifyAll_eq_none_iff.mp hnotify
          exact iff_of_true rfl ⟨event, List.mem_cons_self, hnull⟩
      | some next =>
          have htypeUrl : next.anyMessage.typeUrl = dispatch.anyMessage.typeUrl :=
            typeUrl_notifyAll (hkeeps event List.mem_cons_self) hnotify
          have hcalled : ¬ event.CallsNull dispatch.anyMessage.typeUrl := by
            intro hnull
            rw [notifyAll_eq_none_iff.mpr hnull] at hnotify
            cases hnotify
          have hrest : events.foldlM notifyAll next = none ↔
              ∃ other ∈ events, other.CallsNull next.anyMessage.typeUrl :=
            ih fun other hother => hkeeps other (List.mem_cons_of_mem event hother)
          refine hrest.trans ?_
          simp only [htypeUrl, List.exists_mem_cons_iff, hcalled, false_or]

/-- A message event never gets as far as a null callback. -/
theorem message_trigger_ne_none (cache : MessageEventsCache) (sender : Sender)
    (anyMessage : Any) : cache.triggerMessageHandlers sender anyMessage ≠ none := by
  rw [MessageEventsCache.triggerMessageHandlers_eq]
  exact Option.some_ne_none _

/-- Whatever has been registered and whoever has subscribed, a message leads to a
call through a null pointer exactly when it reaches a subscribe event without a
callback.  Where the handlers leave the `type_url` alone, there is such an event
as soon as one with a subscriber has a type that is a suffix of it. -/
theorem noNullCallback_iff (manager : EventManager) (sender : Sender) (anyMessage : Any) :
    (NoNullCallback manager sender anyMessage ↔
      ¬ ReachesNull manager.subscriptionEventsCache.events ⟨anyMessage, 0, []⟩) ∧
    ((∀ event ∈ manager.subscriptionEventsCache.events, event.KeepsType) →
      (NoNullCallback manager sender anyMessage ↔
        ∀ event ∈ manager.subscriptionEventsCache.events,
          ¬ event.CallsNull anyMessage.typeUrl)) := by
  have hmessages := message_trigger_ne_none manager.messageEventsCache sender anyMessage
  have hsafe : NoNullCallback manager sender anyMessage ↔
      manager.subscriptionEventsCache.events.foldlM notifyAll ⟨anyMessage, 0, []⟩ ≠ none := by
    constructor
    · intro hsafe hnone
      apply hsafe.subscriptions
      rw [triggerMessageHandlers, hnone]
      rfl
    · intro hreturns
      refine ⟨hmessages, ?_⟩
      rw [triggerMessageHandlers, ne_eq, Option.map_eq_none_iff]
      exact hreturns
  constructor
  · rw [hsafe, ne_eq, foldlM_notifyAll_eq_none_iff]
  · intro hkeeps
    rw [hsafe, ne_eq, foldlM_notifyAll_eq_none_iff_of_keepsType hkeeps]
    push Not
    rfl

/-- A default-constructed subscribe event does no harm to a message of another type. -/
theorem null_callback_of_other_type :
    let manager := EventManager.afterCalls
      [.registerNewSubscribtionHandler "Weather".toList (some ⟨none⟩),
        .registerNewSubscribtionHandler "GPS".toList
          (some ⟨some ⟨fun _ any => (some ⟨any.typeUrl, []⟩, any)⟩⟩),
        .addSubscriber 7 "Weather".toList, .addSubscriber 8 "GPS".toList]
    let anyMessage : Any := ⟨"type.googleapis.com/GPS".toList, [1]⟩
    NoNullCallback manager ⟨7, ⟨[], 0⟩⟩ anyMessage ∧
      manager.subscriptionEventsCache.triggerMessageHandlers anyMessage =
        some [(8, ⟨"type.googleapis.com/GPS".toList, []⟩)] := by
  intro manager anyMessage
  have hevents : manager.subscriptionEventsCache.events =
      [⟨0, "Weather".toList, [7], ⟨none⟩⟩,
        ⟨1, "GPS".toList, [8], ⟨some ⟨fun _ any => (some ⟨any.typeUrl, []⟩, any)⟩⟩⟩] := rfl
  refine ⟨((noNullCallback_iff manager ⟨7, ⟨[], 0⟩⟩ anyMessage).2 ?_).mpr ?_, by decide⟩
  · rw [hevents]
    simp [Subscription.KeepsType]
  · rw [hevents]
    simp only [List.forall_mem_cons, Subscription.CallsNull]
    decide

/-- A default-constructed subscribe event with one subscriber: its first message
is sent through a null pointer.  A message event without a callback does no harm. -/
theorem null_callback_is_called :
    let manager := EventManager.afterCalls
      [.registerNewSubscribtionHandler "GPS".toList (some ⟨none⟩),
        .registerNewEventHandler 0 (some ⟨none⟩), .addSubscriber 7 "GPS".toList]
    let anyMessage : Any := ⟨"type.googleapis.com/GPS".toList, []⟩
    manager.subscriptionEventsCache.triggerMessageHandlers anyMessage = none ∧
      manager.messageEventsCache.triggerMessageHandlers ⟨7, ⟨[], 0⟩⟩ anyMessage = some [] ∧
      ¬ NoNullCallback manager ⟨7, ⟨[], 0⟩⟩ anyMessage := by
  intro manager anyMessage
  have hnull : manager.subscriptionEventsCache.triggerMessageHandlers anyMessage = none := by
    decide
  exact ⟨hnull, by decide, fun hsafe => hsafe.subscriptions hnull⟩

end ProcessManagerService.Worker
