import ProcessManagerService.Library.PartialRuns
import ProcessManagerService.Worker.LockedDispatch

/-!
# Threads that wait for themselves

A registration inside a handler waits for the dispatch that runs the handler,
when both work on the same cache, and that dispatch waits for the handler.  This
file shows that a thread which gets there stays for good, with the cache closed
to all later registrations, and that no thread does when the handlers spare the
cache that dispatches to them.
-/

namespace ProcessManagerService.Worker

open PartialRuns

variable {Thread : Type*} [DecidableEq Thread]

/-! ## A thread that waits for itself -/

/-- The thread waits for exclusive access to the mutex that it holds for a
dispatch. -/
def LockedManager.RequestsOwn (state : LockedManager Thread) (thread : Thread)
    (eventKind : EventKind) : Prop :=
  (state.activity thread).progress = .requesting eventKind ∧
    thread ∈ (state.mutexes eventKind).readers

section Frozen

variable {handlers : Handlers} {state next : LockedManager Thread} {thread : Thread}
  {eventKind : EventKind}

namespace LockedManager.RequestsOwn

omit [DecidableEq Thread] in
theorem setMutex (hrequests : state.RequestsOwn thread eventKind) {otherKind : EventKind}
    {mutex : SharedMutex Thread}
    (hkeep : thread ∈ (state.mutexes otherKind).readers → thread ∈ mutex.readers) :
    (state.setMutex otherKind mutex).RequestsOwn thread eventKind :=
  ⟨hrequests.1, state.mem_readers_setMutex hrequests.2 hkeep⟩

theorem setActivity (hrequests : state.RequestsOwn thread eventKind) {other : Thread}
    (hother : thread ≠ other) (activity : ThreadActivity) :
    (state.setActivity other activity).RequestsOwn thread eventKind := by
  refine ⟨?_, hrequests.2⟩
  rw [activity_setActivity_of_ne state hother]
  exact hrequests.1

/-- A thread that waits for itself makes no step, and no other thread ends its
dispatch. -/
theorem moved (hrequests : state.RequestsOwn thread eventKind) {move : ThreadMove Thread}
    (hmoved : Moved handlers state move next) : next.RequestsOwn thread eventKind := by
  have hother : ∀ {other activity}, state.activity other = activity →
      activity.progress ≠ .requesting eventKind → thread ≠ other := by
    intro other activity hactivity hprogress hsame
    have hwaits := hrequests.1
    rw [hsame, hactivity] at hwaits
    exact hprogress hwaits
  cases hmoved with
  | entered _ mover frame mutex hidle hstart hlock =>
      have hne := hother (ThreadActivity.eq_idle_of_isIdle hidle) (by simp [ThreadActivity.idle])
      have hkeep : thread ∈ (state.mutexes frame.kind).readers → thread ∈ mutex.readers := by
        rw [SharedMutex.readers_of_lockShared hlock]
        exact Finset.mem_insert_of_mem
      exact (hrequests.setMutex hkeep).setActivity hne _
  | called mover call hidle =>
      have hne := hother (ThreadActivity.eq_idle_of_isIdle hidle) (by simp [ThreadActivity.idle])
      exact hrequests.setActivity hne _
  | skipped mover choice frame call calls hactivity hlocks =>
      exact hrequests.setActivity (hother hactivity (by simp)) _
  | requested mover choice frame call calls otherKind hactivity hlocks =>
      exact hrequests.setActivity (hother hactivity (by simp)) _
  | granted mover choice frame call calls otherKind mutex hactivity hlock =>
      have hkind : otherKind ≠ eventKind := by
        intro hsame
        rw [hsame, SharedMutex.lock_eq_none_of_mem_readers hrequests.2] at hlock
        cases hlock
      have hne := hother hactivity fun hsame => hkind (CallProgress.requesting.inj hsame)
      have hkeep : thread ∈ (state.mutexes otherKind).readers → thread ∈ mutex.readers := by
        rw [(SharedMutex.readers_of_lock hlock).1]
        exact fun hmem => absurd hmem (Finset.notMem_empty thread)
      exact (hrequests.setMutex hkeep).setActivity hne _
  | performed mover choice frame call calls otherKind hactivity =>
      have hperformed : LockedManager.RequestsOwn
          { state with manager := (state.manager.perform call).2 } thread eventKind := hrequests
      have hkeep : thread ∈ (state.mutexes otherKind).readers →
          thread ∈ (state.mutexes otherKind).unlock.readers := by
        rw [SharedMutex.readers_unlock]
        exact id
      exact (hperformed.setMutex hkeep).setActivity (hother hactivity (by simp)) _
  | turned mover choice frame after calls hactivity hturned =>
      exact hrequests.setActivity (hother hactivity (by simp)) _
  | finished mover choice frame hactivity =>
      have hne := hother hactivity (by simp)
      have hkeep : thread ∈ (state.mutexes frame.kind).readers →
          thread ∈ ((state.mutexes frame.kind).unlockShared mover).readers := by
        rw [SharedMutex.readers_unlockShared]
        exact Finset.mem_erase_of_ne_of_mem hne
      exact (hrequests.setMutex hkeep).setActivity hne _

end LockedManager.RequestsOwn

/-- Once a thread waits for the mutex of its own dispatch it waits for ever, and
no thread is granted the mutex for a registration again. -/
theorem frozen_of_requestsOwn (hrequests : state.RequestsOwn thread eventKind)
    (moves : List (ThreadMove Thread)) :
    EveryState (lockedStep handlers) (fun later => later.RequestsOwn thread eventKind ∧
      ∀ other, (later.mutexes eventKind).lock other = none) state moves := by
  have hkeep : ∀ (state : LockedManager Thread) move next, state.RequestsOwn thread eventKind →
      lockedStep handlers state move = some next → next.RequestsOwn thread eventKind :=
    fun _ _ _ hrequests hstep => hrequests.moved (moved_of_step hstep)
  apply (everyState_of_step hkeep hrequests moves).mono
  intro later hlater
  exact ⟨hlater, SharedMutex.lock_eq_none_of_mem_readers hlater.2⟩

end Frozen

/-! ## Readers are in a loop -/

/-- A reader of a mutex is a thread in a loop over the cache of the mutex. -/
def ReadersDispatch (state : LockedManager Thread) : Prop :=
  ∀ thread eventKind, thread ∈ (state.mutexes eventKind).readers →
    (state.activity thread).frame.map DispatchFrame.kind = some eventKind

section Readers

variable {handlers : Handlers} {state next : LockedManager Thread} {thread : Thread}
  {activity : ThreadActivity}

/-- A thread that stays in its loop, or out of one, keeps the readers in order. -/
theorem ReadersDispatch.setActivity (hreaders : ReadersDispatch state)
    (hsame : activity.frame.map DispatchFrame.kind =
      (state.activity thread).frame.map DispatchFrame.kind) :
    ReadersDispatch (state.setActivity thread activity) := by
  apply state.forall_setActivity fun other doing => ∀ eventKind,
    other ∈ (state.mutexes eventKind).readers →
      doing.frame.map DispatchFrame.kind = some eventKind
  · intro eventKind hmem
    rw [hsame]
    exact hreaders thread eventKind hmem
  · intro other _
    exact hreaders other

/-- A thread changes a mutex for itself: the other readers stay or go, and the
thread is a reader where it is in a loop. -/
theorem ReadersDispatch.setMutex (hreaders : ReadersDispatch state) {eventKind : EventKind}
    {mutex : SharedMutex Thread}
    (hothers : ∀ other ≠ thread, other ∈ mutex.readers →
      other ∈ (state.mutexes eventKind).readers)
    (hmutex : thread ∈ mutex.readers → activity.frame.map DispatchFrame.kind = some eventKind)
    (helsewhere : ∀ other ≠ eventKind, thread ∈ (state.mutexes other).readers →
      activity.frame.map DispatchFrame.kind = some other) :
    ReadersDispatch ((state.setMutex eventKind mutex).setActivity thread activity) := by
  apply (state.setMutex eventKind mutex).forall_setActivity fun other doing => ∀ otherKind,
    other ∈ ((state.setMutex eventKind mutex).mutexes otherKind).readers →
      doing.frame.map DispatchFrame.kind = some otherKind
  · intro otherKind hmem
    by_cases hkind : otherKind = eventKind
    · rw [hkind, LockedManager.mutexes_setMutex] at hmem
      rw [hkind]
      exact hmutex hmem
    · rw [LockedManager.mutexes_setMutex_of_ne state hkind] at hmem
      exact helsewhere otherKind hkind hmem
  · intro other hother otherKind hmem
    by_cases hkind : otherKind = eventKind
    · rw [hkind, LockedManager.mutexes_setMutex] at hmem
      rw [hkind]
      exact hreaders other eventKind (hothers other hother hmem)
    · rw [LockedManager.mutexes_setMutex_of_ne state hkind] at hmem
      exact hreaders other otherKind hmem

theorem ReadersDispatch.moved (hreaders : ReadersDispatch state) {move : ThreadMove Thread}
    (hmoved : Moved handlers state move next) : ReadersDispatch next := by
  cases hmoved with
  | entered _ thread frame mutex hidle hstart hlock =>
      have hmutex := SharedMutex.readers_of_lockShared hlock
      refine hreaders.setMutex ?_ (fun _ => rfl) ?_
      · intro other hother hmem
        rw [hmutex] at hmem
        exact Finset.mem_of_mem_insert_of_ne hmem hother
      · intro other hother hmem
        have hold := hreaders thread other hmem
        rw [ThreadActivity.eq_idle_of_isIdle hidle] at hold
        cases hold
  | called thread call hidle =>
      refine hreaders.setActivity ?_
      rw [ThreadActivity.eq_idle_of_isIdle hidle]
      rfl
  | skipped thread choice frame call calls hactivity hlocks =>
      refine hreaders.setActivity ?_
      rw [hactivity]
  | requested thread choice frame call calls eventKind hactivity hlocks =>
      refine hreaders.setActivity ?_
      rw [hactivity]
  | granted thread choice frame call calls eventKind mutex hactivity hlock =>
      have hempty := (SharedMutex.readers_of_lock hlock).2
      refine hreaders.setMutex ?_ ?_ ?_
      · intro other hother hmem
        rw [hempty] at hmem
        exact absurd hmem (Finset.notMem_empty other)
      · intro hmem
        rw [hempty] at hmem
        exact absurd hmem (Finset.notMem_empty thread)
      · intro other hother hmem
        have hold := hreaders thread other hmem
        rwa [hactivity] at hold
  | performed thread choice frame call calls eventKind hactivity =>
      have hold : ∀ other, thread ∈ (state.mutexes other).readers →
          frame.map DispatchFrame.kind = some other := by
        intro other hmem
        have hframe := hreaders thread other hmem
        rwa [hactivity] at hframe
      have hperformed : ReadersDispatch
          { state with manager := (state.manager.perform call).2 } := hreaders
      exact hperformed.setMutex (fun _ _ hmem => hmem) (hold eventKind) (fun other _ => hold other)
  | turned thread choice frame after calls hactivity hturned =>
      refine hreaders.setActivity ?_
      rw [hactivity, Option.map_some, Option.map_some, hturned.kind]
  | finished thread choice frame hactivity =>
      refine hreaders.setMutex ?_ ?_ ?_
      · intro other hother hmem
        rw [SharedMutex.readers_unlockShared] at hmem
        exact Finset.mem_of_mem_erase hmem
      · intro hmem
        rw [SharedMutex.readers_unlockShared] at hmem
        exact absurd hmem (Finset.notMem_erase thread _)
      · intro other hother hmem
        have hold := hreaders thread other hmem
        rw [hactivity] at hold
        exact absurd (Option.some.inj hold).symm hother

end Readers

/-! ## Who is behind the handlers -/

namespace Handlers

variable (handlers : Handlers)

/-- The body of a handler makes the call when a dispatch of this kind runs it.
A message handler is run for the messages that it validates. -/
def Makes (call : ManagerCall) : EventKind → Prop
  | .message => ∃ callback ∈ handlers.messageCallbacks, ∃ choice sender anyMessage,
      callback.validate anyMessage = true ∧
        call ∈ handlers.messageBody callback choice sender anyMessage
  | .subscription => ∃ callback ∈ handlers.subscribeCallbacks, ∃ choice anyMessage,
      call ∈ handlers.subscribeBody callback choice anyMessage

/-- No handler makes a call that takes the mutex under which it runs. -/
def SparesOwnCache : Prop :=
  ∀ call eventKind, handlers.Makes call eventKind → call.locks ≠ some eventKind

/-- A thread's own registrations are of the handlers of the service. -/
def Admits : ThreadMove Thread → Prop
  | .call _ call => handlers.Draws call
  | _ => True

end Handlers

namespace Handlers

variable (handlers : Handlers)

def DrawsMessageEvent (event : MessageEvent) : Prop :=
  ∀ callback ∈ event.callback, callback ∈ handlers.messageCallbacks

def DrawsSubscribeEvent (event : SubscribeEvent) : Prop :=
  ∀ callback ∈ event.callback, callback ∈ handlers.subscribeCallbacks

structure DrawsManager (manager : EventManager) : Prop where
  message : ∀ entry ∈ manager.messageEventsCache.events, handlers.DrawsMessageEvent entry.2
  subscription : ∀ event ∈ manager.subscriptionEventsCache.events,
    handlers.DrawsSubscribeEvent event.event

def DrawsFrame : DispatchFrame → Prop
  | .message _ _ events _ => ∀ entry ∈ events, handlers.DrawsMessageEvent entry.2
  | .subscription _ round events =>
      (∀ running ∈ round, handlers.DrawsSubscribeEvent running.1.event) ∧
        ∀ event ∈ events, handlers.DrawsSubscribeEvent event.event

end Handlers

/-- The events of the subscription cache are old ones, apart from one that the
call registers. -/
theorem event_of_perform {manager : EventManager} {call : ManagerCall} {event : Subscription}
    (hmem : event ∈ (manager.perform call).2.subscriptionEventsCache.events) :
    (∃ old ∈ manager.subscriptionEventsCache.events, old.event = event.event) ∨
      ∃ subscribeType, call = .registerNewSubscribtionHandler subscribeType (some event.event) := by
  cases call with
  | registerNewEventHandler key eventHandler =>
      cases eventHandler <;> exact .inl ⟨event, hmem, rfl⟩
  | registerNewSubscribtionHandler subscribeType subscriptionEvent =>
      cases subscriptionEvent with
      | none => exact .inl ⟨event, hmem, rfl⟩
      | some registered =>
          rcases List.mem_append.mp hmem with hold | hnew
          · exact .inl ⟨event, hold, rfl⟩
          · rw [List.mem_singleton] at hnew
            exact .inr ⟨subscribeType, by rw [hnew]⟩
  | addSubscriber moduleIdentifier typeUrl =>
      obtain ⟨old, hold, rfl⟩ := List.mem_map.mp hmem
      refine .inl ⟨old, hold, ?_⟩
      split <;> rfl
  | addSubscriberById identifier subscribeEventID =>
      simp only [EventManager.perform, SubscriptionEventsCache.addSubscriberById] at hmem
      split at hmem
      · obtain ⟨place, hplace⟩ := List.mem_iff_getElem?.mp hmem
        rw [List.getElem?_modify] at hplace
        obtain ⟨old, hold, hevent⟩ := Option.map_eq_some_iff.mp hplace
        refine .inl ⟨old, List.mem_of_getElem? hold, ?_⟩
        rw [← hevent]
        split <;> rfl
      · exact .inl ⟨event, hmem, rfl⟩

theorem entry_of_perform {manager : EventManager} {call : ManagerCall}
    {entry : UInt32 × MessageEvent}
    (hmem : entry ∈ (manager.perform call).2.messageEventsCache.events) :
    entry ∈ manager.messageEventsCache.events ∨
      ∃ key, call = .registerNewEventHandler key (some entry.2) := by
  cases call with
  | registerNewEventHandler key eventHandler =>
      cases eventHandler with
      | none => exact .inl hmem
      | some registered =>
          rcases List.mem_append.mp hmem with hold | hnew
          · exact .inl hold
          · rw [List.mem_singleton] at hnew
            exact .inr ⟨key, by rw [hnew]⟩
  | registerNewSubscribtionHandler subscribeType subscriptionEvent =>
      cases subscriptionEvent <;> exact .inl hmem
  | addSubscriber moduleIdentifier typeUrl => exact .inl hmem
  | addSubscriberById identifier subscribeEventID => exact .inl hmem

section Drawn

variable {handlers : Handlers} {manager : EventManager}

theorem drawsManager_perform (hmanager : handlers.DrawsManager manager) {call : ManagerCall}
    (hcall : handlers.Draws call) : handlers.DrawsManager (manager.perform call).2 where
  message entry hmem := by
    rcases entry_of_perform hmem with hold | ⟨key, rfl⟩
    · exact hmanager.message entry hold
    · exact hcall entry.2 rfl
  subscription event hmem := by
    rcases event_of_perform hmem with ⟨old, hold, hsame⟩ | ⟨subscribeType, rfl⟩
    · rw [← hsame]
      exact hmanager.subscription old hold
    · exact hcall event.event rfl

theorem drawsFrame_of_startsOver (hmanager : handlers.DrawsManager manager)
    {frame : DispatchFrame} (hstart : frame.StartsOver manager) : handlers.DrawsFrame frame := by
  cases frame with
  | message sender anyMessage events responses =>
      obtain ⟨rfl, -⟩ := hstart
      exact hmanager.message
  | subscription dispatch round events =>
      obtain ⟨-, rfl, rfl⟩ := hstart
      refine ⟨?_, hmanager.subscription⟩
      intro running hnone
      cases hnone

theorem draws_of_makes {call : ManagerCall} {eventKind : EventKind}
    (hmakes : handlers.Makes call eventKind) : handlers.Draws call := by
  cases eventKind with
  | message =>
      obtain ⟨callback, hcallback, choice, sender, anyMessage, -, hmem⟩ := hmakes
      exact handlers.messageBody_drawn callback hcallback choice sender anyMessage call hmem
  | subscription =>
      obtain ⟨callback, hcallback, choice, anyMessage, hmem⟩ := hmakes
      exact handlers.subscribeBody_drawn callback hcallback choice anyMessage call hmem

theorem makes_of_mem_messageCalls {event : MessageEvent}
    (hevent : handlers.DrawsMessageEvent event) {choice : ℕ} {sender : Sender} {anyMessage : Any}
    {call : ManagerCall} (hmem : call ∈ handlers.messageCalls event choice sender anyMessage) :
    handlers.Makes call .message := by
  rw [Handlers.messageCalls] at hmem
  split at hmem
  next callback hcallback =>
    obtain ⟨hvalid, hbody⟩ := List.mem_ite_nil_right.mp hmem
    exact ⟨callback, hevent callback hcallback, choice, sender, anyMessage, hvalid, hbody⟩
  next => cases hmem

theorem makes_of_mem_subscribeCalls {event : SubscribeEvent}
    (hevent : handlers.DrawsSubscribeEvent event) {choice : ℕ} {anyMessage : Any}
    {call : ManagerCall} (hmem : call ∈ handlers.subscribeCalls event choice anyMessage) :
    handlers.Makes call .subscription := by
  rw [Handlers.subscribeCalls] at hmem
  split at hmem
  next callback hcallback =>
    exact ⟨callback, hevent callback hcallback, choice, anyMessage, hmem⟩
  next => cases hmem

/-- The calls in a turn of a loop are those of a handler that runs under the mutex
of its cache. -/
theorem makes_of_turned {choice : ℕ} {frame after : DispatchFrame} {calls : List ManagerCall}
    (hframe : handlers.DrawsFrame frame)
    (hturned : frame.Turned handlers choice after calls) :
    handlers.DrawsFrame after ∧ ∀ call ∈ calls, handlers.Makes call frame.kind := by
  have hnone : ∀ call ∈ ([] : List ManagerCall), handlers.Makes call frame.kind :=
    fun call hmem => absurd hmem List.not_mem_nil
  cases hturned with
  | ended => exact ⟨hframe, hnone⟩
  | collected sender anyMessage event events responses collected hcollect =>
      refine ⟨fun entry hmem => hframe entry (List.mem_cons_of_mem event hmem), ?_⟩
      intro call hmem
      exact makes_of_mem_messageCalls (hframe event List.mem_cons_self) hmem
  | started dispatch event events htype =>
      refine ⟨⟨?_, fun other hmem => hframe.2 other (List.mem_cons_of_mem event hmem)⟩, hnone⟩
      intro running hrunning
      cases hrunning
      exact hframe.2 event List.mem_cons_self
  | passed dispatch event events htype =>
      exact ⟨⟨hframe.1, fun other hmem => hframe.2 other (List.mem_cons_of_mem event hmem)⟩, hnone⟩
  | served dispatch event events =>
      refine ⟨⟨?_, hframe.2⟩, hnone⟩
      intro running hrunning
      cases hrunning
  | notified dispatch notified event subscriber subscribers events hnotify =>
      have hevent : handlers.DrawsSubscribeEvent event.event := hframe.1 _ rfl
      refine ⟨⟨?_, hframe.2⟩, fun call hmem => makes_of_mem_subscribeCalls hevent hmem⟩
      intro running hrunning
      cases hrunning
      exact hevent

end Drawn

/-! ## Handlers that spare their own cache -/

/-- What a thread is doing is drawn from the handlers, and inside a loop it takes
no mutex of the loop's own cache. -/
structure SparingActivity (handlers : Handlers) (activity : ThreadActivity) : Prop where
  frame : ∀ frame ∈ activity.frame, handlers.DrawsFrame frame
  calls : ∀ call ∈ activity.calls, handlers.Draws call
  spares : ∀ frame ∈ activity.frame, ∀ call ∈ activity.calls, call.locks ≠ some frame.kind
  progress : ∀ frame ∈ activity.frame, activity.progress ≠ .requesting frame.kind

structure Sparing (handlers : Handlers) (state : LockedManager Thread) : Prop where
  manager : handlers.DrawsManager state.manager
  activity : ∀ thread, SparingActivity handlers (state.activity thread)
  readers : ReadersDispatch state

section Sparing

variable {handlers : Handlers} {state next : LockedManager Thread}

/-- Outside the loops a thread may call what it likes. -/
theorem sparingActivity_of_no_frame {calls : List ManagerCall}
    (hcalls : ∀ call ∈ calls, handlers.Draws call) :
    SparingActivity handlers ⟨none, calls, .between⟩ where
  frame frame hnone := by cases hnone
  calls := hcalls
  spares frame hnone := by cases hnone
  progress frame hnone := by cases hnone

theorem SparingActivity.dropCall {frame : Option DispatchFrame} {call : ManagerCall}
    {calls : List ManagerCall} {progress : CallProgress}
    (hsparing : SparingActivity handlers ⟨frame, call :: calls, progress⟩) :
    SparingActivity handlers ⟨frame, calls, .between⟩ where
  frame := hsparing.frame
  calls other hmem := hsparing.calls other (List.mem_cons_of_mem call hmem)
  spares running hrunning other hmem :=
    hsparing.spares running hrunning other (List.mem_cons_of_mem call hmem)
  progress _ _ hrequests := by cases hrequests

/-- The thread goes on with the call in front. -/
theorem SparingActivity.goOn {frame : Option DispatchFrame} {calls : List ManagerCall}
    {progress after : CallProgress} (hsparing : SparingActivity handlers ⟨frame, calls, progress⟩)
    (hafter : ∀ running ∈ frame, after ≠ .requesting running.kind) :
    SparingActivity handlers ⟨frame, calls, after⟩ :=
  ⟨hsparing.frame, hsparing.calls, hsparing.spares, hafter⟩

omit [DecidableEq Thread] in
theorem sparing_create : Sparing handlers (LockedManager.create : LockedManager Thread) where
  manager := ⟨fun _ hmem => absurd hmem List.not_mem_nil,
    fun _ hmem => absurd hmem List.not_mem_nil⟩
  activity _ := sparingActivity_of_no_frame fun _ hmem => absurd hmem List.not_mem_nil
  readers thread _ hmem := absurd hmem (Finset.notMem_empty thread)

theorem Sparing.setActivity (hsparing : Sparing handlers state) {thread : Thread}
    {activity : ThreadActivity} (hactivity : SparingActivity handlers activity) (other : Thread) :
    SparingActivity handlers ((state.setActivity thread activity).activity other) :=
  state.forall_setActivity (fun _ => SparingActivity handlers) hactivity
    (fun other _ => hsparing.activity other) other

theorem Sparing.moved (hspares : handlers.SparesOwnCache) (hsparing : Sparing handlers state)
    {move : ThreadMove Thread} (hadmits : handlers.Admits move)
    (hmoved : Moved handlers state move next) : Sparing handlers next := by
  have hreaders := hsparing.readers.moved hmoved
  have hold : ∀ {thread activity}, state.activity thread = activity →
      SparingActivity handlers activity := fun hactivity => hactivity ▸ hsparing.activity _
  cases hmoved with
  | entered _ thread frame mutex hidle hstart hlock =>
      refine ⟨hsparing.manager, hsparing.setActivity ?_, hreaders⟩
      refine ⟨?_, fun _ hmem => absurd hmem List.not_mem_nil,
        fun _ _ _ hmem => absurd hmem List.not_mem_nil, ?_⟩
      · intro running hrunning
        cases hrunning
        exact drawsFrame_of_startsOver hsparing.manager hstart
      · intro _ _ hrequests
        cases hrequests
  | called thread call hidle =>
      refine ⟨hsparing.manager, hsparing.setActivity ?_, hreaders⟩
      exact sparingActivity_of_no_frame fun other hmem => List.mem_singleton.mp hmem ▸ hadmits
  | skipped thread choice frame call calls hactivity hlocks =>
      exact ⟨hsparing.manager,
        hsparing.setActivity (hold hactivity).dropCall, hreaders⟩
  | requested thread choice frame call calls eventKind hactivity hlocks =>
      refine ⟨hsparing.manager,
        hsparing.setActivity ((hold hactivity).goOn ?_), hreaders⟩
      intro running hrunning hrequests
      have hother := (hold hactivity).spares running hrunning call List.mem_cons_self
      rw [hlocks, CallProgress.requesting.inj hrequests] at hother
      exact hother rfl
  | granted thread choice frame call calls eventKind mutex hactivity hlock =>
      refine ⟨hsparing.manager,
        hsparing.setActivity ((hold hactivity).goOn ?_), hreaders⟩
      intro _ _ hrequests
      cases hrequests
  | performed thread choice frame call calls eventKind hactivity =>
      have hdraws := (hold hactivity).calls call List.mem_cons_self
      exact ⟨drawsManager_perform hsparing.manager hdraws,
        hsparing.setActivity (hold hactivity).dropCall, hreaders⟩
  | turned thread choice frame after calls hactivity hturned =>
      obtain ⟨hafter, hmakes⟩ := makes_of_turned ((hold hactivity).frame frame rfl) hturned
      refine ⟨hsparing.manager, hsparing.setActivity ?_, hreaders⟩
      refine ⟨?_, fun call hmem => draws_of_makes (hmakes call hmem), ?_, ?_⟩
      · intro running hrunning
        cases hrunning
        exact hafter
      · intro running hrunning call hmem
        cases hrunning
        rw [hturned.kind]
        exact hspares call frame.kind (hmakes call hmem)
      · intro _ _ hrequests
        cases hrequests
  | finished thread choice frame hactivity =>
      refine ⟨hsparing.manager, hsparing.setActivity ?_, hreaders⟩
      exact sparingActivity_of_no_frame fun _ hmem => absurd hmem List.not_mem_nil

omit [DecidableEq Thread] in
theorem Sparing.not_requestsOwn (hsparing : Sparing handlers state) (thread : Thread)
    (eventKind : EventKind) : ¬ state.RequestsOwn thread eventKind := by
  intro hrequests
  obtain ⟨frame, hframe, rfl⟩ :=
    Option.map_eq_some_iff.mp (hsparing.readers thread eventKind hrequests.2)
  exact (hsparing.activity thread).progress frame hframe hrequests.1

end Sparing

end ProcessManagerService.Worker
