import ProcessManagerService.Library.SharedMutex
import ProcessManagerService.Worker.EventManager

/-!
# Dispatch under the locks of the caches

Each cache has a shared mutex.  `triggerMessageHandlers` holds it as a reader
for as long as its loop runs, and a registration takes it as the writer.  The
handlers run inside the loop, and the registration functions are static, so a
handler may register further handlers.  Here every acquisition and release of a
mutex, every turn of a loop and every call of a handler is one atomic step of a
thread, and the threads interleave freely.
-/

namespace ProcessManagerService.Worker

namespace ManagerCall

/-- The mutex that a call takes as the writer.  A null pointer is turned away in
front of the cache. -/
def locks : ManagerCall → Option EventKind
  | registerNewEventHandler _ eventHandler => eventHandler.map fun _ => .message
  | registerNewSubscribtionHandler _ subscriptionEvent =>
      subscriptionEvent.map fun _ => .subscription
  | addSubscriber _ _ => some .subscription
  | addSubscriberById _ _ => some .subscription

/-- The callback behind the handler that a call registers is one of these. -/
def DrawnFrom (messageCallbacks : Set MessageCallback)
    (subscribeCallbacks : Set SubscribeCallback) : ManagerCall → Prop
  | registerNewEventHandler _ eventHandler =>
      ∀ event ∈ eventHandler, ∀ callback ∈ event.callback, callback ∈ messageCallbacks
  | registerNewSubscribtionHandler _ subscriptionEvent =>
      ∀ event ∈ subscriptionEvent, ∀ callback ∈ event.callback, callback ∈ subscribeCallbacks
  | _ => True

theorem perform_of_locks_eq_none {call : ManagerCall} (hnone : call.locks = none)
    (manager : EventManager) : (manager.perform call).2 = manager := by
  cases call with
  | registerNewEventHandler key eventHandler =>
      cases eventHandler with
      | none => rfl
      | some event => cases hnone
  | registerNewSubscribtionHandler subscribeType subscriptionEvent =>
      cases subscriptionEvent with
      | none => rfl
      | some event => cases hnone
  | addSubscriber moduleIdentifier typeUrl => cases hnone
  | addSubscriberById identifier subscribeEventID => cases hnone

end ManagerCall

/-- The handlers of a service: the callbacks behind them, and the calls that the
body of a callback makes, in order.  The number stands for whatever else a call
of the body depends on.  The bodies register handlers of the same service. -/
structure Handlers where
  messageCallbacks : Set MessageCallback
  subscribeCallbacks : Set SubscribeCallback
  messageBody : MessageCallback → ℕ → Sender → Any → List ManagerCall
  subscribeBody : SubscribeCallback → ℕ → Any → List ManagerCall
  messageBody_drawn : ∀ callback ∈ messageCallbacks, ∀ choice sender anyMessage,
    ∀ call ∈ messageBody callback choice sender anyMessage,
      call.DrawnFrom messageCallbacks subscribeCallbacks
  subscribeBody_drawn : ∀ callback ∈ subscribeCallbacks, ∀ choice anyMessage,
    ∀ call ∈ subscribeBody callback choice anyMessage,
      call.DrawnFrom messageCallbacks subscribeCallbacks

namespace Handlers

variable (handlers : Handlers)

def Draws (call : ManagerCall) : Prop :=
  call.DrawnFrom handlers.messageCallbacks handlers.subscribeCallbacks

/-- What `handleReceivedMessage` registers.  The loop calls it for the messages
that the event validates. -/
def messageCalls (event : MessageEvent) (choice : ℕ) (sender : Sender) (anyMessage : Any) :
    List ManagerCall :=
  match event.callback with
  | some callback =>
      if callback.validate anyMessage then handlers.messageBody callback choice sender anyMessage
      else []
  | none => []

/-- What `subscriptionHandle` registers. -/
def subscribeCalls (event : SubscribeEvent) (choice : ℕ) (anyMessage : Any) : List ManagerCall :=
  match event.callback with
  | some callback => handlers.subscribeBody callback choice anyMessage
  | none => []

end Handlers

/-! ## The loops -/

open MessageEventsCache (collect)
open SubscriptionEventsCache (Dispatch notify notifyAll)

/-- The local state of a running `triggerMessageHandlers`.  The events are those
that the loop has not reached; while it runs, no writer changes the cache.  A
round is an event of the right type with the subscribers still to be served. -/
inductive DispatchFrame where
  | message (sender : Sender) (anyMessage : Any) (events : List (UInt32 × MessageEvent))
      (responses : List Any)
  | subscription (dispatch : Dispatch) (round : Option (Subscription × List Int32))
      (events : List Subscription)

namespace DispatchFrame

/-- The cache that the loop runs over. -/
def kind : DispatchFrame → EventKind
  | message _ _ _ _ => .message
  | subscription _ _ _ => .subscription

/-- The loop has come to its end. -/
def isFinished : DispatchFrame → Bool
  | message _ _ events _ => events.isEmpty
  | subscription _ round events => round.isNone && events.isEmpty

/-- The next turn of the loop, with the calls that the handler makes in it.
`none` is a call through a null pointer. -/
def next (handlers : Handlers) (choice : ℕ) :
    DispatchFrame → Option (DispatchFrame × List ManagerCall)
  | message sender anyMessage [] responses => some (message sender anyMessage [] responses, [])
  -- the response is kept when the handler is called, and its calls follow
  | message sender anyMessage (event :: events) responses =>
      (collect sender anyMessage responses event).map fun collected =>
        (message sender anyMessage events collected,
          handlers.messageCalls event.2 choice sender anyMessage)
  | subscription dispatch none [] => some (subscription dispatch none [], [])
  | subscription dispatch none (event :: events) =>
      if event.messageType.isSuffixOf dispatch.anyMessage.typeUrl then
        some (subscription dispatch (some (event, event.subscribers)) events, [])
      else some (subscription dispatch none events, [])
  | subscription dispatch (some (_, [])) events => some (subscription dispatch none events, [])
  | subscription dispatch (some (event, subscriber :: subscribers)) events =>
      (notify event dispatch subscriber).map fun notified =>
        (subscription notified (some (event, subscribers)) events,
          handlers.subscribeCalls event.event choice dispatch.anyMessage)

/-- The turns of the two loops.  Every law about a loop is proved by cases on this
list. -/
inductive Turned (handlers : Handlers) (choice : ℕ) :
    DispatchFrame → DispatchFrame → List ManagerCall → Prop where
  | ended (frame : DispatchFrame) (hfinished : frame.isFinished = true) :
      Turned handlers choice frame frame []
  | collected (sender : Sender) (anyMessage : Any) (event : UInt32 × MessageEvent)
      (events : List (UInt32 × MessageEvent)) (responses collected : List Any)
      (hcollect : collect sender anyMessage responses event = some collected) :
      Turned handlers choice (message sender anyMessage (event :: events) responses)
        (message sender anyMessage events collected)
        (handlers.messageCalls event.2 choice sender anyMessage)
  | started (dispatch : Dispatch) (event : Subscription) (events : List Subscription)
      (htype : event.messageType.isSuffixOf dispatch.anyMessage.typeUrl = true) :
      Turned handlers choice (subscription dispatch none (event :: events))
        (subscription dispatch (some (event, event.subscribers)) events) []
  | passed (dispatch : Dispatch) (event : Subscription) (events : List Subscription)
      (htype : ¬ event.messageType.isSuffixOf dispatch.anyMessage.typeUrl = true) :
      Turned handlers choice (subscription dispatch none (event :: events))
        (subscription dispatch none events) []
  | served (dispatch : Dispatch) (event : Subscription) (events : List Subscription) :
      Turned handlers choice (subscription dispatch (some (event, [])) events)
        (subscription dispatch none events) []
  | notified (dispatch notified : Dispatch) (event : Subscription) (subscriber : Int32)
      (subscribers : List Int32) (events : List Subscription)
      (hnotify : notify event dispatch subscriber = some notified) :
      Turned handlers choice
        (subscription dispatch (some (event, subscriber :: subscribers)) events)
        (subscription notified (some (event, subscribers)) events)
        (handlers.subscribeCalls event.event choice dispatch.anyMessage)

section Turns

variable {handlers : Handlers} {choice : ℕ} {frame after : DispatchFrame}
  {calls : List ManagerCall}

theorem turned_of_next (hnext : frame.next handlers choice = some (after, calls)) :
    Turned handlers choice frame after calls := by
  cases frame with
  | message sender anyMessage events responses =>
      cases events with
      | nil =>
          cases hnext
          exact .ended _ rfl
      | cons event events =>
          obtain ⟨collected, hcollect, hafter⟩ := Option.map_eq_some_iff.mp hnext
          cases hafter
          exact .collected sender anyMessage event events responses collected hcollect
  | subscription dispatch round events =>
      cases round with
      | none =>
          cases events with
          | nil =>
              cases hnext
              exact .ended _ rfl
          | cons event events =>
              rw [next] at hnext
              split at hnext
              next htype =>
                cases hnext
                exact .started dispatch event events htype
              next htype =>
                cases hnext
                exact .passed dispatch event events htype
      | some running =>
          obtain ⟨event, subscribers⟩ := running
          cases subscribers with
          | nil =>
              cases hnext
              exact .served dispatch event events
          | cons subscriber subscribers =>
              obtain ⟨notified, hnotify, hafter⟩ := Option.map_eq_some_iff.mp hnext
              cases hafter
              exact .notified dispatch notified event subscriber subscribers events hnotify

theorem Turned.kind (hturned : Turned handlers choice frame after calls) :
    after.kind = frame.kind := by
  cases hturned <;> rfl

end Turns

/-- What the rest of the loop returns. -/
def result : DispatchFrame → Option (List Any ⊕ List (Int32 × Any))
  | message sender anyMessage events responses =>
      (events.foldlM (collect sender anyMessage) responses).map .inl
  | subscription dispatch round events =>
      ((round.elim (some dispatch) fun running => running.2.foldlM (notify running.1) dispatch).bind
        fun notified => events.foldlM notifyAll notified).map fun finished =>
          .inr finished.serviceRequests

/-- A turn of the loop keeps its result, so a loop that runs in turns returns
what `triggerMessageHandlers` returns. -/
theorem result_of_turned {handlers : Handlers} {choice : ℕ} {frame after : DispatchFrame}
    {calls : List ManagerCall} (hturned : Turned handlers choice frame after calls) :
    after.result = frame.result := by
  cases hturned with
  | ended => rfl
  | collected sender anyMessage event events responses collected hcollect =>
      rw [result, result, List.foldlM_cons, hcollect]
      rfl
  | started dispatch event events htype =>
      have hround : notifyAll dispatch event = event.subscribers.foldlM (notify event) dispatch :=
        if_pos htype
      rw [result, result, Option.elim_none, Option.bind_some, List.foldlM_cons, hround]
      rfl
  | passed dispatch event events htype =>
      have hpassed : notifyAll dispatch event = some dispatch := if_neg htype
      rw [result, result, Option.elim_none, Option.bind_some, Option.bind_some,
        List.foldlM_cons, hpassed]
      rfl
  | served => rfl
  | notified dispatch notified event subscriber subscribers events hnotify =>
      rw [result, result, Option.elim_some, Option.elim_some, List.foldlM_cons, hnotify]
      rfl

theorem result_message (cache : MessageEventsCache) (sender : Sender) (anyMessage : Any) :
    (message sender anyMessage cache.events []).result =
      (cache.triggerMessageHandlers sender anyMessage).map .inl := rfl

theorem result_subscription (cache : SubscriptionEventsCache) (anyMessage : Any) :
    (subscription ⟨anyMessage, 0, []⟩ none cache.events).result =
      (cache.triggerMessageHandlers anyMessage).map .inr := by
  rw [SubscriptionEventsCache.triggerMessageHandlers, Option.map_map]
  rfl

end DispatchFrame

/-! ## The threads -/

/-- How far the first of a thread's calls is: between two calls, waiting for the
mutex, or holding it. -/
inductive CallProgress where
  | between
  | requesting (eventKind : EventKind)
  | holding (eventKind : EventKind)
  deriving DecidableEq

/-- The loop that a thread is in, if any, and the calls that it makes before it
goes on with the loop. -/
structure ThreadActivity where
  frame : Option DispatchFrame
  calls : List ManagerCall
  progress : CallProgress

namespace ThreadActivity

def idle : ThreadActivity := ⟨none, [], .between⟩

def isIdle (activity : ThreadActivity) : Bool :=
  activity.frame.isNone && activity.calls.isEmpty && activity.progress = .between

theorem eq_idle_of_isIdle {activity : ThreadActivity} (hidle : activity.isIdle = true) :
    activity = idle := by
  obtain ⟨frame, calls, progress⟩ := activity
  simp only [isIdle, Bool.and_eq_true, Option.isNone_iff_eq_none, List.isEmpty_iff,
    decide_eq_true_eq] at hidle
  obtain ⟨⟨rfl, rfl⟩, rfl⟩ := hidle
  rfl

end ThreadActivity

/-- The caches with their mutexes, and what each thread is doing. -/
structure LockedManager (Thread : Type*) where
  manager : EventManager
  mutexes : EventKind → SharedMutex Thread
  activity : Thread → ThreadActivity

/-- What happens next: an idle thread enters a loop or makes a call of its own,
or a thread makes a step.  The number is handed to the body of a handler. -/
inductive ThreadMove (Thread : Type*) where
  | triggerMessage (thread : Thread) (sender : Sender) (anyMessage : Any)
  | triggerSubscription (thread : Thread) (anyMessage : Any)
  | call (thread : Thread) (call : ManagerCall)
  | advance (thread : Thread) (choice : ℕ)

namespace LockedManager

variable {Thread : Type*}

/-- Empty caches, and threads that do nothing. -/
def create : LockedManager Thread := ⟨EventManager.create, fun _ => .free, fun _ => .idle⟩

variable (state : LockedManager Thread)

def setMutex (eventKind : EventKind) (mutex : SharedMutex Thread) : LockedManager Thread :=
  { state with mutexes := Function.update state.mutexes eventKind mutex }

@[simp]
theorem mutexes_setMutex (eventKind : EventKind) (mutex : SharedMutex Thread) :
    (state.setMutex eventKind mutex).mutexes eventKind = mutex :=
  Function.update_self ..

theorem mutexes_setMutex_of_ne {eventKind other : EventKind} (hother : other ≠ eventKind)
    (mutex : SharedMutex Thread) :
    (state.setMutex eventKind mutex).mutexes other = state.mutexes other :=
  Function.update_of_ne hother ..

/-- A reader is still one after another mutex has changed, or after this one has
without losing it. -/
theorem mem_readers_setMutex {thread : Thread} {eventKind otherKind : EventKind}
    {mutex : SharedMutex Thread} (hreader : thread ∈ (state.mutexes otherKind).readers)
    (hkeep : thread ∈ (state.mutexes eventKind).readers → thread ∈ mutex.readers) :
    thread ∈ ((state.setMutex eventKind mutex).mutexes otherKind).readers := by
  by_cases hkind : otherKind = eventKind
  · rw [hkind] at hreader ⊢
    rw [mutexes_setMutex]
    exact hkeep hreader
  · rw [mutexes_setMutex_of_ne state hkind]
    exact hreader

variable [DecidableEq Thread]

def setActivity (thread : Thread) (activity : ThreadActivity) : LockedManager Thread :=
  { state with activity := Function.update state.activity thread activity }

@[simp]
theorem mutexes_setActivity (thread : Thread) (activity : ThreadActivity) :
    (state.setActivity thread activity).mutexes = state.mutexes := rfl

@[simp]
theorem activity_setActivity (thread : Thread) (activity : ThreadActivity) :
    (state.setActivity thread activity).activity thread = activity :=
  Function.update_self ..

theorem activity_setActivity_of_ne {thread other : Thread} (hother : other ≠ thread)
    (activity : ThreadActivity) :
    (state.setActivity thread activity).activity other = state.activity other :=
  Function.update_of_ne hother ..

/-- What holds of the new activity, and of the old ones of the other threads, holds
of all threads. -/
theorem forall_setActivity (property : Thread → ThreadActivity → Prop) {thread : Thread}
    {activity : ThreadActivity} (hthread : property thread activity)
    (hothers : ∀ other ≠ thread, property other (state.activity other)) (other : Thread) :
    property other ((state.setActivity thread activity).activity other) := by
  by_cases hother : other = thread
  · rw [hother, activity_setActivity]
    exact hthread
  · rw [activity_setActivity_of_ne state hother]
    exact hothers other hother

/-- The thread acquires the mutex as a reader and enters the loop. -/
def enter (thread : Thread) (frame : DispatchFrame) : Option (LockedManager Thread) :=
  if (state.activity thread).isIdle then
    ((state.mutexes frame.kind).lockShared thread).map fun mutex =>
      (state.setMutex frame.kind mutex).setActivity thread ⟨some frame, [], .between⟩
  else none

/-- The end of the loop releases the mutex. -/
def advanceFrame (handlers : Handlers) (thread : Thread) (choice : ℕ) (frame : DispatchFrame) :
    Option (LockedManager Thread) :=
  if frame.isFinished then
    some ((state.setMutex frame.kind ((state.mutexes frame.kind).unlockShared thread)).setActivity
      thread .idle)
  else (frame.next handlers choice).map fun turn =>
    state.setActivity thread ⟨some turn.1, turn.2, .between⟩

/-- The next step of the first call. -/
def advanceCall (thread : Thread) (frame : Option DispatchFrame) (call : ManagerCall)
    (calls : List ManagerCall) : CallProgress → Option (LockedManager Thread)
  | .between =>
      match call.locks with
      | none => some (state.setActivity thread ⟨frame, calls, .between⟩)
      | some eventKind =>
          some (state.setActivity thread ⟨frame, call :: calls, .requesting eventKind⟩)
  | .requesting eventKind => ((state.mutexes eventKind).lock thread).map fun mutex =>
      (state.setMutex eventKind mutex).setActivity thread
        ⟨frame, call :: calls, .holding eventKind⟩
  | .holding eventKind =>
      let performed := { state with manager := (state.manager.perform call).2 }
      some ((performed.setMutex eventKind (state.mutexes eventKind).unlock).setActivity thread
        ⟨frame, calls, .between⟩)

def advance (handlers : Handlers) (thread : Thread) (choice : ℕ) :
    ThreadActivity → Option (LockedManager Thread)
  | ⟨frame, call :: calls, progress⟩ => state.advanceCall thread frame call calls progress
  | ⟨some frame, [], .between⟩ => state.advanceFrame handlers thread choice frame
  | _ => none

end LockedManager

/-- One move.  A thread whose request is not granted makes no step. -/
def lockedStep {Thread : Type*} [DecidableEq Thread] (handlers : Handlers)
    (state : LockedManager Thread) : ThreadMove Thread → Option (LockedManager Thread)
  | .triggerMessage thread sender anyMessage =>
      state.enter thread (.message sender anyMessage state.manager.messageEventsCache.events [])
  | .triggerSubscription thread anyMessage =>
      state.enter thread
        (.subscription ⟨anyMessage, 0, []⟩ none state.manager.subscriptionEventsCache.events)
  | .call thread call =>
      if (state.activity thread).isIdle then
        some (state.setActivity thread ⟨none, [call], .between⟩)
      else none
  | .advance thread choice => state.advance handlers thread choice (state.activity thread)

/-! ## What one move does -/

/-- The frame of a loop that is entered now. -/
def DispatchFrame.StartsOver (manager : EventManager) : DispatchFrame → Prop
  | message _ _ events responses =>
      events = manager.messageEventsCache.events ∧ responses = []
  | subscription dispatch round events =>
      (∃ anyMessage, dispatch = ⟨anyMessage, 0, []⟩) ∧ round = none ∧
        events = manager.subscriptionEventsCache.events

/-- What is left of the loop returns what `triggerMessageHandlers` returns. -/
def DispatchFrame.Answers (manager : EventManager) (frame : DispatchFrame) : Prop :=
  match frame with
  | message sender anyMessage _ _ => frame.result =
      (manager.messageEventsCache.triggerMessageHandlers sender anyMessage).map .inl
  | subscription _ _ _ => ∃ anyMessage, frame.result =
      (manager.subscriptionEventsCache.triggerMessageHandlers anyMessage).map .inr

theorem DispatchFrame.StartsOver.answers {manager : EventManager} {frame : DispatchFrame}
    (hstart : frame.StartsOver manager) : frame.Answers manager := by
  cases frame with
  | message sender anyMessage events responses =>
      obtain ⟨rfl, rfl⟩ := hstart
      exact result_message manager.messageEventsCache sender anyMessage
  | subscription dispatch round events =>
      obtain ⟨⟨anyMessage, rfl⟩, rfl, rfl⟩ := hstart
      exact ⟨anyMessage, result_subscription manager.subscriptionEventsCache anyMessage⟩

section Inversion

variable {Thread : Type*} [DecidableEq Thread]

/-- The kinds of moves.  Every law about the threads is proved by cases on this
list. -/
inductive Moved (handlers : Handlers) (state : LockedManager Thread) :
    ThreadMove Thread → LockedManager Thread → Prop where
  | entered (move : ThreadMove Thread) (thread : Thread) (frame : DispatchFrame)
      (mutex : SharedMutex Thread) (hidle : (state.activity thread).isIdle = true)
      (hstart : frame.StartsOver state.manager)
      (hlock : (state.mutexes frame.kind).lockShared thread = some mutex) :
      Moved handlers state move
        ((state.setMutex frame.kind mutex).setActivity thread ⟨some frame, [], .between⟩)
  | called (thread : Thread) (call : ManagerCall)
      (hidle : (state.activity thread).isIdle = true) :
      Moved handlers state (.call thread call)
        (state.setActivity thread ⟨none, [call], .between⟩)
  | skipped (thread : Thread) (choice : ℕ) (frame : Option DispatchFrame) (call : ManagerCall)
      (calls : List ManagerCall)
      (hactivity : state.activity thread = ⟨frame, call :: calls, .between⟩)
      (hlocks : call.locks = none) :
      Moved handlers state (.advance thread choice)
        (state.setActivity thread ⟨frame, calls, .between⟩)
  | requested (thread : Thread) (choice : ℕ) (frame : Option DispatchFrame) (call : ManagerCall)
      (calls : List ManagerCall) (eventKind : EventKind)
      (hactivity : state.activity thread = ⟨frame, call :: calls, .between⟩)
      (hlocks : call.locks = some eventKind) :
      Moved handlers state (.advance thread choice)
        (state.setActivity thread ⟨frame, call :: calls, .requesting eventKind⟩)
  | granted (thread : Thread) (choice : ℕ) (frame : Option DispatchFrame) (call : ManagerCall)
      (calls : List ManagerCall) (eventKind : EventKind) (mutex : SharedMutex Thread)
      (hactivity : state.activity thread = ⟨frame, call :: calls, .requesting eventKind⟩)
      (hlock : (state.mutexes eventKind).lock thread = some mutex) :
      Moved handlers state (.advance thread choice)
        ((state.setMutex eventKind mutex).setActivity thread
          ⟨frame, call :: calls, .holding eventKind⟩)
  | performed (thread : Thread) (choice : ℕ) (frame : Option DispatchFrame) (call : ManagerCall)
      (calls : List ManagerCall) (eventKind : EventKind)
      (hactivity : state.activity thread = ⟨frame, call :: calls, .holding eventKind⟩) :
      Moved handlers state (.advance thread choice)
        ((LockedManager.setMutex { state with manager := (state.manager.perform call).2 }
          eventKind (state.mutexes eventKind).unlock).setActivity thread
            ⟨frame, calls, .between⟩)
  | turned (thread : Thread) (choice : ℕ) (frame after : DispatchFrame)
      (calls : List ManagerCall)
      (hactivity : state.activity thread = ⟨some frame, [], .between⟩)
      (hturned : frame.Turned handlers choice after calls) :
      Moved handlers state (.advance thread choice)
        (state.setActivity thread ⟨some after, calls, .between⟩)
  | finished (thread : Thread) (choice : ℕ) (frame : DispatchFrame)
      (hactivity : state.activity thread = ⟨some frame, [], .between⟩) :
      Moved handlers state (.advance thread choice)
        ((state.setMutex frame.kind ((state.mutexes frame.kind).unlockShared thread)).setActivity
          thread .idle)

variable {handlers : Handlers} {state next : LockedManager Thread}

theorem moved_of_enter {move : ThreadMove Thread} {thread : Thread} {frame : DispatchFrame}
    (henter : state.enter thread frame = some next) (hstart : frame.StartsOver state.manager) :
    Moved handlers state move next := by
  rw [LockedManager.enter, Option.ite_none_right_eq_some] at henter
  obtain ⟨hidle, hentered⟩ := henter
  obtain ⟨mutex, hlock, rfl⟩ := Option.map_eq_some_iff.mp hentered
  exact .entered move thread frame mutex hidle hstart hlock

theorem moved_of_advanceCall {thread : Thread} {choice : ℕ} {frame : Option DispatchFrame}
    {call : ManagerCall} {calls : List ManagerCall} {progress : CallProgress}
    (hactivity : state.activity thread = ⟨frame, call :: calls, progress⟩)
    (hadvance : state.advanceCall thread frame call calls progress = some next) :
    Moved handlers state (.advance thread choice) next := by
  cases progress with
  | between =>
      rw [LockedManager.advanceCall] at hadvance
      split at hadvance
      next hlocks =>
        cases hadvance
        exact .skipped thread choice frame call calls hactivity hlocks
      next eventKind hlocks =>
        cases hadvance
        exact .requested thread choice frame call calls eventKind hactivity hlocks
  | requesting eventKind =>
      obtain ⟨mutex, hlock, rfl⟩ := Option.map_eq_some_iff.mp hadvance
      exact .granted thread choice frame call calls eventKind mutex hactivity hlock
  | holding eventKind =>
      cases hadvance
      exact .performed thread choice frame call calls eventKind hactivity

theorem moved_of_advanceFrame {thread : Thread} {choice : ℕ} {frame : DispatchFrame}
    (hactivity : state.activity thread = ⟨some frame, [], .between⟩)
    (hadvance : state.advanceFrame handlers thread choice frame = some next) :
    Moved handlers state (.advance thread choice) next := by
  rw [LockedManager.advanceFrame] at hadvance
  split at hadvance
  · cases hadvance
    exact .finished thread choice frame hactivity
  · obtain ⟨⟨after, calls⟩, hnext, rfl⟩ := Option.map_eq_some_iff.mp hadvance
    exact .turned thread choice frame after calls hactivity
      (DispatchFrame.turned_of_next hnext)

/-- The inversion lemma of the threads. -/
theorem moved_of_step {move : ThreadMove Thread}
    (hstep : lockedStep handlers state move = some next) : Moved handlers state move next := by
  cases move with
  | triggerMessage thread sender anyMessage => exact moved_of_enter hstep ⟨rfl, rfl⟩
  | triggerSubscription thread anyMessage =>
      exact moved_of_enter hstep ⟨⟨anyMessage, rfl⟩, rfl, rfl⟩
  | call thread call =>
      rw [lockedStep, Option.ite_none_right_eq_some] at hstep
      obtain ⟨hidle, hcalled⟩ := hstep
      cases hcalled
      exact .called thread call hidle
  | advance thread choice =>
      rw [lockedStep] at hstep
      cases hactivity : state.activity thread with
      | mk frame calls progress =>
          rw [hactivity] at hstep
          cases calls with
          | cons call calls => exact moved_of_advanceCall hactivity hstep
          | nil =>
              cases frame with
              | none => cases hstep
              | some frame =>
                  cases progress with
                  | between => exact moved_of_advanceFrame hactivity hstep
                  | requesting eventKind => cases hstep
                  | holding eventKind => cases hstep

end Inversion

end ProcessManagerService.Worker
