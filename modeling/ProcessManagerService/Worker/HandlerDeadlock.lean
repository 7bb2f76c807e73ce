import ProcessManagerService.Worker.SelfRequests

/-!
# Handlers that register handlers

`EventManager` lets any code register a handler at any time, the body of a
handler included.  Over all runs from empty caches, with any number of threads,
no thread waits for itself exactly when no handler makes a call that takes the
mutex of the dispatch that runs it.
-/

namespace ProcessManagerService.Worker

open PartialRuns

variable {Thread : Type*} [DecidableEq Thread]

/-! ## Reachable states -/

/-- A state of some run from empty caches, in which the handlers are registered,
messages are dispatched and the threads interleave in any order. -/
def Handlers.Reachable (handlers : Handlers) (state : LockedManager Thread) : Prop :=
  ∃ moves : List (ThreadMove Thread), (∀ move ∈ moves, handlers.Admits move) ∧
    run (lockedStep handlers) .create moves = some state

namespace Handlers.Reachable

variable {handlers : Handlers} {state next : LockedManager Thread}

theorem create : handlers.Reachable (LockedManager.create : LockedManager Thread) :=
  ⟨[], fun _ hmem => absurd hmem List.not_mem_nil, rfl⟩

theorem step (hreachable : handlers.Reachable state) {move : ThreadMove Thread}
    (hadmits : handlers.Admits move) (hstep : lockedStep handlers state move = some next) :
    handlers.Reachable next := by
  obtain ⟨moves, hmoves, hrun⟩ := hreachable
  refine ⟨moves ++ [move], ?_, ?_⟩
  · intro other hmem
    rcases List.mem_append.mp hmem with hold | hnew
    · exact hmoves other hold
    · exact List.mem_singleton.mp hnew ▸ hadmits
  · rw [run_append, hrun, Option.bind_some, run_cons, hstep]
    rfl

theorem sparing (hspares : handlers.SparesOwnCache) (hreachable : handlers.Reachable state) :
    Sparing handlers state := by
  obtain ⟨moves, hmoves, hrun⟩ := hreachable
  have hguard : EveryStep (lockedStep handlers) (fun _ move => handlers.Admits move)
      LockedManager.create moves := EveryStep.of_forall_mem fun _ => hmoves
  have hevery := everyState_of_everyStep
    (fun _ _ _ hsparing hadmits hstep =>
      Sparing.moved hspares hsparing hadmits (moved_of_step hstep))
    sparing_create hguard
  exact hevery.finish hrun

end Handlers.Reachable

/-! ## A thread on its own -/

/-- Some reachable state has these caches, a thread at this point, and no mutex
held except by this thread for its loop. -/
def ReachesAlone (handlers : Handlers) (thread : Thread) (manager : EventManager)
    (frame : Option DispatchFrame) (calls : List ManagerCall) : Prop :=
  ∃ state : LockedManager Thread, handlers.Reachable state ∧ state.manager = manager ∧
    state.activity thread = ⟨frame, calls, .between⟩ ∧
    (∀ eventKind, frame.map DispatchFrame.kind ≠ some eventKind →
      state.mutexes eventKind = .free) ∧
    ∀ running ∈ frame, thread ∈ (state.mutexes running.kind).readers

section Alone

variable {handlers : Handlers} {thread : Thread} {manager : EventManager}
  {frame : Option DispatchFrame} {call : ManagerCall} {calls : List ManagerCall}

theorem reachesAlone_create : ReachesAlone handlers thread .create none [] :=
  ⟨.create, .create, rfl, rfl, fun _ _ => rfl, fun _ hnone => by cases hnone⟩

/-- The thread makes a call of its own. -/
theorem ReachesAlone.called (halone : ReachesAlone handlers thread manager none [])
    (hdraws : handlers.Draws call) : ReachesAlone handlers thread manager none [call] := by
  obtain ⟨state, hreachable, hmanager, hactivity, hfree, -⟩ := halone
  refine ⟨state.setActivity thread ⟨none, [call], .between⟩, ?_, hmanager,
    state.activity_setActivity thread _, hfree, fun _ hnone => by cases hnone⟩
  have hadmits : handlers.Admits (.call thread call) := hdraws
  apply hreachable.step hadmits
  rw [lockedStep, hactivity]
  rfl

/-- A call that does not take the mutex of the thread's own loop goes through. -/
theorem ReachesAlone.performed
    (halone : ReachesAlone handlers thread manager frame (call :: calls))
    (hother : ∀ eventKind, call.locks = some eventKind →
      frame.map DispatchFrame.kind ≠ some eventKind) :
    ReachesAlone handlers thread (manager.perform call).2 frame calls := by
  obtain ⟨state, hreachable, rfl, hactivity, hfree, hreader⟩ := halone
  have hadmits : handlers.Admits (.advance thread 0) := trivial
  cases hlocks : call.locks with
  | none =>
      refine ⟨state.setActivity thread ⟨frame, calls, .between⟩, ?_, ?_,
        state.activity_setActivity thread _, hfree, hreader⟩
      · apply hreachable.step hadmits
        rw [lockedStep, hactivity, LockedManager.advance, LockedManager.advanceCall, hlocks]
      · exact (ManagerCall.perform_of_locks_eq_none hlocks state.manager).symm
  | some eventKind =>
      obtain ⟨held, hlock, hunlock⟩ := SharedMutex.lock_free thread
      let waiting := state.setActivity thread ⟨frame, call :: calls, .requesting eventKind⟩
      let holding := (waiting.setMutex eventKind held).setActivity thread
        ⟨frame, call :: calls, .holding eventKind⟩
      have hwaiting : handlers.Reachable waiting := by
        apply hreachable.step hadmits
        rw [lockedStep, hactivity, LockedManager.advance, LockedManager.advanceCall, hlocks]
      have hholding : handlers.Reachable holding := by
        apply hwaiting.step hadmits
        rw [lockedStep, LockedManager.activity_setActivity, LockedManager.advance,
          LockedManager.advanceCall, LockedManager.mutexes_setActivity,
          hfree eventKind (hother eventKind hlocks), hlock]
        rfl
      let released := LockedManager.setMutex
        { holding with manager := (state.manager.perform call).2 } eventKind held.unlock
      have hreleased : handlers.Reachable
          (released.setActivity thread ⟨frame, calls, .between⟩) := by
        have hheld : holding.mutexes eventKind = held := waiting.mutexes_setMutex eventKind held
        apply hholding.step hadmits
        rw [lockedStep, LockedManager.activity_setActivity, LockedManager.advance,
          LockedManager.advanceCall, hheld]
        rfl
      have helsewhere : ∀ other ≠ eventKind, released.mutexes other = state.mutexes other := by
        intro other hne
        calc released.mutexes other
            = holding.mutexes other := LockedManager.mutexes_setMutex_of_ne _ hne _
          _ = state.mutexes other := LockedManager.mutexes_setMutex_of_ne waiting hne _
      refine ⟨_, hreleased, rfl, released.activity_setActivity thread _, ?_, ?_⟩
      · intro other hframe
        by_cases hkind : other = eventKind
        · rw [hkind, ← hunlock]
          exact LockedManager.mutexes_setMutex _ eventKind _
        · exact (helsewhere other hkind).trans (hfree other hframe)
      · intro running hrunning
        have hne : running.kind ≠ eventKind := by
          intro hkind
          apply hother eventKind hlocks
          rw [hrunning, Option.map_some, hkind]
        rw [LockedManager.mutexes_setActivity, helsewhere running.kind hne]
        exact hreader running hrunning

theorem ReachesAlone.registered (halone : ReachesAlone handlers thread manager none [])
    (hdraws : handlers.Draws call) :
    ReachesAlone handlers thread (manager.perform call).2 none [] :=
  (halone.called hdraws).performed fun _ _ hnone => by cases hnone

/-- From there the thread enters a loop. -/
theorem ReachesAlone.entered (halone : ReachesAlone handlers thread manager none [])
    (move : ThreadMove Thread) (running : DispatchFrame) (hadmits : handlers.Admits move)
    (hmove : ∀ state : LockedManager Thread, state.manager = manager →
      lockedStep handlers state move = state.enter thread running) :
    ReachesAlone handlers thread manager (some running) [] := by
  obtain ⟨state, hreachable, hmanager, hactivity, hfree, -⟩ := halone
  obtain ⟨held, hlock, hmem⟩ := SharedMutex.lockShared_free thread
  have henter : lockedStep handlers state move = some
      ((state.setMutex running.kind held).setActivity thread ⟨some running, [], .between⟩) := by
    rw [hmove state hmanager, LockedManager.enter, hactivity,
      hfree running.kind (Option.some_ne_none _).symm, hlock]
    rfl
  refine ⟨_, hreachable.step hadmits henter, hmanager,
    LockedManager.activity_setActivity _ thread _, ?_, ?_⟩
  · intro other hother
    have hne : other ≠ running.kind := fun hkind => hother (congrArg some hkind.symm)
    rw [LockedManager.mutexes_setActivity, LockedManager.mutexes_setMutex_of_ne state hne]
    exact hfree other (Option.some_ne_none _).symm
  · intro other hother
    cases hother
    rw [LockedManager.mutexes_setActivity, LockedManager.mutexes_setMutex]
    exact hmem

/-- The loop makes a turn. -/
theorem ReachesAlone.turned {running after : DispatchFrame}
    (halone : ReachesAlone handlers thread manager (some running) [])
    (hunfinished : running.isFinished = false) (choice : ℕ)
    (hnext : running.next handlers choice = some (after, calls)) :
    ReachesAlone handlers thread manager (some after) calls := by
  obtain ⟨state, hreachable, hmanager, hactivity, hfree, hreader⟩ := halone
  have hkind : after.kind = running.kind := (DispatchFrame.turned_of_next hnext).kind
  have hadmits : handlers.Admits (.advance thread choice) := trivial
  have hstep : lockedStep handlers state (.advance thread choice) =
      some (state.setActivity thread ⟨some after, calls, .between⟩) := by
    rw [lockedStep, hactivity, LockedManager.advance, LockedManager.advanceFrame, hunfinished,
      hnext]
    rfl
  refine ⟨_, hreachable.step hadmits hstep, hmanager,
    LockedManager.activity_setActivity _ thread _, ?_, ?_⟩
  · intro other hother
    apply hfree other
    rwa [Option.map_some, ← hkind]
  · intro other hother
    cases hother
    rw [hkind]
    exact hreader running rfl

/-- The thread makes its calls up to the first one that takes the mutex of its
own loop. -/
theorem ReachesAlone.exists_requestsOwn {running : DispatchFrame}
    (halone : ReachesAlone handlers thread manager (some running) calls)
    (hmem : call ∈ calls) (hlocks : call.locks = some running.kind) :
    ∃ state : LockedManager Thread, handlers.Reachable state ∧
      state.RequestsOwn thread running.kind := by
  induction calls generalizing manager with
  | nil => cases hmem
  | cons first rest ih =>
      by_cases hfirst : first.locks = some running.kind
      · obtain ⟨state, hreachable, -, hactivity, -, hreader⟩ := halone
        have hadmits : handlers.Admits (.advance thread 0) := trivial
        have hstep : lockedStep handlers state (.advance thread 0) = some (state.setActivity thread
            ⟨some running, first :: rest, .requesting running.kind⟩) := by
          rw [lockedStep, hactivity, LockedManager.advance, LockedManager.advanceCall, hfirst]
        refine ⟨_, hreachable.step hadmits hstep, ?_, hreader running rfl⟩
        rw [LockedManager.activity_setActivity]
      · have hrest : call ∈ rest := by
          rcases List.mem_cons.mp hmem with rfl | hrest
          · exact absurd hlocks hfirst
          · exact hrest
        refine ih (halone.performed ?_) hrest
        intro eventKind hkind hown
        exact hfirst (hkind.trans hown.symm)

/-- A message handler is registered and dispatched to on one thread, and its body
runs into the mutex of the dispatch. -/
theorem exists_requestsOwn_of_messageBody (thread : Thread)
    (hmakes : handlers.Makes call .message) (hlocks : call.locks = some .message) :
    ∃ state : LockedManager Thread, handlers.Reachable state ∧
      state.RequestsOwn thread .message := by
  obtain ⟨callback, hcallback, choice, sender, anyMessage, hvalid, hmem⟩ := hmakes
  let registration := ManagerCall.registerNewEventHandler 0 (some ⟨some callback⟩)
  let running := DispatchFrame.message sender anyMessage [(0, ⟨some callback⟩)] []
  have hdraws : handlers.Draws registration := by
    intro event hevent other hother
    cases hevent
    cases hother
    exact hcallback
  have hentered : ReachesAlone handlers thread (EventManager.create.perform registration).2
      (some running) [] := by
    refine (reachesAlone_create.registered hdraws).entered
      (.triggerMessage thread sender anyMessage) running trivial ?_
    intro state hmanager
    rw [lockedStep, hmanager]
    rfl
  have hcalls : handlers.messageCalls ⟨some callback⟩ choice sender anyMessage =
      handlers.messageBody callback choice sender anyMessage := if_pos hvalid
  obtain ⟨after, hkind, hnext⟩ : ∃ after, after.kind = .message ∧
      running.next handlers choice =
        some (after, handlers.messageBody callback choice sender anyMessage) := by
    rw [DispatchFrame.next, MessageEventsCache.collect_eq, Option.map_some, hcalls]
    exact ⟨_, rfl, rfl⟩
  rw [← hkind] at hlocks ⊢
  exact (hentered.turned rfl choice hnext).exists_requestsOwn hmem hlocks

/-- The same for a subscription handler, which needs a subscriber. -/
theorem exists_requestsOwn_of_subscribeBody (thread : Thread)
    (hmakes : handlers.Makes call .subscription) (hlocks : call.locks = some .subscription) :
    ∃ state : LockedManager Thread, handlers.Reachable state ∧
      state.RequestsOwn thread .subscription := by
  obtain ⟨callback, hcallback, choice, anyMessage, hmem⟩ := hmakes
  let registration := ManagerCall.registerNewSubscribtionHandler [] (some ⟨some callback⟩)
  let event : Subscription := ⟨0, [], [0], ⟨some callback⟩⟩
  let manager : EventManager := ⟨⟨[]⟩, ⟨[event]⟩⟩
  have hdraws : handlers.Draws registration := by
    intro registered hregistered other hother
    cases hregistered
    cases hother
    exact hcallback
  have hsubscribes : handlers.Draws (.addSubscriber 0 []) := trivial
  have hsubscribed : ReachesAlone handlers thread manager none [] :=
    (reachesAlone_create.registered hdraws).registered hsubscribes
  have hentered : ReachesAlone handlers thread manager
      (some (.subscription ⟨anyMessage, 0, []⟩ none [event])) [] := by
    refine hsubscribed.entered (.triggerSubscription thread anyMessage) _ trivial ?_
    intro state hmanager
    rw [lockedStep, hmanager]
  have hround : ReachesAlone handlers thread manager
      (some (.subscription ⟨anyMessage, 0, []⟩ (some (event, [0])) [])) [] :=
    hentered.turned rfl 0 rfl
  exact (hround.turned rfl choice rfl).exists_requestsOwn hmem hlocks

end Alone

/-- From empty caches, with any number of threads and in any order of dispatches
and registrations, no thread comes to wait for the mutex of its own dispatch, if
and only if no handler makes a call that takes the mutex under which it runs. -/
theorem noSelfRequest_iff [Inhabited Thread] (handlers : Handlers) :
    (∀ state : LockedManager Thread, handlers.Reachable state →
      ∀ thread eventKind, ¬ state.RequestsOwn thread eventKind) ↔ handlers.SparesOwnCache := by
  constructor
  · intro hnone call eventKind hmakes hlocks
    obtain ⟨state, hreachable, hrequests⟩ : ∃ state : LockedManager Thread,
        handlers.Reachable state ∧ state.RequestsOwn default eventKind := by
      cases eventKind with
      | message => exact exists_requestsOwn_of_messageBody default hmakes hlocks
      | subscription => exact exists_requestsOwn_of_subscribeBody default hmakes hlocks
    exact hnone state hreachable default eventKind hrequests
  · intro hspares state hreachable thread eventKind
    exact (hreachable.sparing hspares).not_requestsOwn thread eventKind

/-- It validates every message and answers none. -/
private def registering : MessageCallback := ⟨fun _ => true, fun _ _ => none⟩

private def registration : ManagerCall := .registerNewEventHandler 0 (some ⟨some registering⟩)

private theorem registration_drawn : registration.DrawnFrom {registering} ∅ := by
  intro event hevent callback hcallback
  cases hevent
  cases hcallback
  rfl

/-- A service with one message handler, which registers itself again. -/
private def selfRegistering : Handlers where
  messageCallbacks := {registering}
  subscribeCallbacks := ∅
  messageBody _ _ _ _ := [registration]
  subscribeBody _ _ _ := []
  messageBody_drawn _ _ _ _ _ _ hmem := List.mem_singleton.mp hmem ▸ registration_drawn
  subscribeBody_drawn _ _ _ _ _ hmem := absurd hmem List.not_mem_nil

/-- The handler is registered on the only thread and runs for the first message. -/
private def firstMessage : List (ThreadMove Unit) :=
  [.call () registration, .advance () 0, .advance () 0, .advance () 0,
    .triggerMessage () ⟨7, default⟩ default, .advance () 0, .advance () 0]

/-- The thread then waits for the mutex that it holds itself. -/
theorem self_registration_waits_for_itself : ∃ state : LockedManager Unit,
    run (lockedStep selfRegistering) .create firstMessage = some state ∧
      selfRegistering.Reachable state ∧ state.RequestsOwn () .message ∧
      (state.mutexes .message).lock () = none := by
  have hadmits : ∀ move ∈ firstMessage, selfRegistering.Admits move := by
    intro move hmem
    rcases List.mem_cons.mp hmem with rfl | hmem
    · exact registration_drawn
    · simp only [List.mem_cons, List.not_mem_nil, or_false] at hmem
      rcases hmem with rfl | rfl | rfl | rfl | rfl | rfl <;> trivial
  have hreader : () ∈ ({()} : Finset Unit) := Finset.mem_singleton_self ()
  exact ⟨_, rfl, ⟨firstMessage, hadmits, rfl⟩, ⟨rfl, hreader⟩, rfl⟩

end ProcessManagerService.Worker
