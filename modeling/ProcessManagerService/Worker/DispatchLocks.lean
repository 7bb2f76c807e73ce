import ProcessManagerService.Library.PartialRuns
import ProcessManagerService.Worker.LockedDispatch

/-!
# What the locks are for

A running loop goes over the events of a cache that other threads register with.
The mutexes see to it that no step of any thread changes a cache while a loop
runs over it, whatever the handlers do.  So every dispatch returns what
`triggerMessageHandlers` returns for the cache it found, as if nothing else had
happened meanwhile.
-/

namespace ProcessManagerService.Worker

open PartialRuns

/-- The two managers have the same events of this kind. -/
def SameEvents (first second : EventManager) : EventKind → Prop
  | .message => first.messageEventsCache = second.messageEventsCache
  | .subscription => first.subscriptionEventsCache = second.subscriptionEventsCache

theorem sameEvents_refl (manager : EventManager) (eventKind : EventKind) :
    SameEvents manager manager eventKind := by
  cases eventKind <;> rfl

/-- A call changes the cache whose mutex it takes and no other. -/
theorem sameEvents_perform (manager : EventManager) {call : ManagerCall} {eventKind : EventKind}
    (hother : call.locks ≠ some eventKind) :
    SameEvents (manager.perform call).2 manager eventKind := by
  cases call with
  | registerNewEventHandler key eventHandler =>
      cases eventHandler with
      | none => exact sameEvents_refl manager eventKind
      | some event =>
          cases eventKind with
          | message => exact absurd rfl hother
          | subscription => rfl
  | registerNewSubscribtionHandler subscribeType subscriptionEvent =>
      cases subscriptionEvent with
      | none => exact sameEvents_refl manager eventKind
      | some event =>
          cases eventKind with
          | message => rfl
          | subscription => exact absurd rfl hother
  | addSubscriber moduleIdentifier typeUrl =>
      cases eventKind with
      | message => rfl
      | subscription => exact absurd rfl hother
  | addSubscriberById identifier subscribeEventID =>
      cases eventKind with
      | message => rfl
      | subscription => exact absurd rfl hother

variable {Thread : Type*}

/-- A thread holds what its activity needs: the mutex of its loop as a reader, and
the mutex of the call that it is performing as the writer. -/
structure Guarded (mutexes : EventKind → SharedMutex Thread) (thread : Thread)
    (activity : ThreadActivity) : Prop where
  reader : ∀ frame ∈ activity.frame, thread ∈ (mutexes frame.kind).readers
  writer : ∀ eventKind, activity.progress = .holding eventKind →
    (mutexes eventKind).writer = some thread
  call : ∀ eventKind, activity.progress = .requesting eventKind ∨
    activity.progress = .holding eventKind → ∃ call ∈ activity.calls.head?,
      call.locks = some eventKind

/-- Every thread holds what it needs. -/
def AllGuarded (state : LockedManager Thread) : Prop :=
  ∀ thread, Guarded state.mutexes thread (state.activity thread)

/-- Between two calls only the loop needs a mutex. -/
theorem guarded_between {mutexes : EventKind → SharedMutex Thread} {thread : Thread}
    {frame : Option DispatchFrame} {calls : List ManagerCall}
    (hreader : ∀ running ∈ frame, thread ∈ (mutexes running.kind).readers) :
    Guarded mutexes thread ⟨frame, calls, .between⟩ where
  reader := hreader
  writer _ hholding := by cases hholding
  call _ hbusy := by rcases hbusy with hrequesting | hholding <;> contradiction

theorem allGuarded_create : AllGuarded (LockedManager.create : LockedManager Thread) := by
  intro thread
  apply guarded_between
  intro running hnone
  cases hnone

variable [DecidableEq Thread] {handlers : Handlers} {state next : LockedManager Thread}

theorem AllGuarded.setActivity (hguarded : AllGuarded state) {thread : Thread}
    {activity : ThreadActivity} (hactivity : Guarded state.mutexes thread activity) :
    AllGuarded (state.setActivity thread activity) :=
  state.forall_setActivity (Guarded state.mutexes) hactivity fun other _ => hguarded other

/-- A thread changes a mutex for itself and leaves the others what they hold. -/
theorem AllGuarded.setMutex (hguarded : AllGuarded state) {thread : Thread}
    {activity : ThreadActivity} {eventKind : EventKind} {mutex : SharedMutex Thread}
    (hreaders : ∀ other ≠ thread, other ∈ (state.mutexes eventKind).readers →
      other ∈ mutex.readers)
    (hwriter : ∀ other ≠ thread, (state.mutexes eventKind).writer = some other →
      mutex.writer = some other)
    (hactivity : Guarded (state.setMutex eventKind mutex).mutexes thread activity) :
    AllGuarded ((state.setMutex eventKind mutex).setActivity thread activity) := by
  apply (state.setMutex eventKind mutex).forall_setActivity (Guarded _) hactivity
  intro other hother
  refine ⟨?_, ?_, (hguarded other).call⟩
  · intro running hrunning
    exact state.mem_readers_setMutex ((hguarded other).reader running hrunning)
      (hreaders other hother)
  · intro otherKind hholding
    have hold := (hguarded other).writer otherKind hholding
    by_cases hkind : otherKind = eventKind
    · rw [hkind] at hold ⊢
      rw [LockedManager.mutexes_setMutex]
      exact hwriter other hother hold
    · rw [LockedManager.mutexes_setMutex_of_ne state hkind]
      exact hold

theorem AllGuarded.moved (hguarded : AllGuarded state) {move : ThreadMove Thread}
    (hmoved : Moved handlers state move next) : AllGuarded next := by
  have hold : ∀ {thread activity}, state.activity thread = activity →
      Guarded state.mutexes thread activity := fun hactivity => hactivity ▸ hguarded _
  cases hmoved with
  | entered _ thread frame mutex hidle hstart hlock =>
      have hmutex := SharedMutex.readers_of_lockShared hlock
      refine hguarded.setMutex ?_ ?_ (guarded_between ?_)
      · intro other _ hmem
        rw [hmutex]
        exact Finset.mem_insert_of_mem hmem
      · intro other _ hwriter
        rw [SharedMutex.writer_of_lockShared hlock] at hwriter
        cases hwriter
      · intro running hrunning
        cases hrunning
        rw [LockedManager.mutexes_setMutex, hmutex]
        exact Finset.mem_insert_self thread _
  | called thread call hidle =>
      apply hguarded.setActivity
      apply guarded_between
      intro running hnone
      cases hnone
  | skipped thread choice frame call calls hactivity hlocks =>
      exact hguarded.setActivity (guarded_between (hold hactivity).reader)
  | requested thread choice frame call calls eventKind hactivity hlocks =>
      refine hguarded.setActivity ⟨(hold hactivity).reader, ?_, ?_⟩
      · intro otherKind hholding
        cases hholding
      · intro otherKind hbusy
        rcases hbusy with hrequesting | hholding
        · cases hrequesting
          exact ⟨call, rfl, hlocks⟩
        · cases hholding
  | granted thread choice frame call calls eventKind mutex hactivity hlock =>
      have hempty := (SharedMutex.readers_of_lock hlock).1
      have hnone : ∀ other, other ∈ (state.mutexes eventKind).readers → other ∈ mutex.readers := by
        intro other hmem
        rw [hempty] at hmem
        exact absurd hmem (Finset.notMem_empty other)
      obtain ⟨hfree, hwriter⟩ := SharedMutex.writer_of_lock hlock
      refine hguarded.setMutex (fun other _ => hnone other) ?_ ⟨?_, ?_, ?_⟩
      · intro other _ hother
        rw [hfree] at hother
        cases hother
      · intro running hrunning
        exact state.mem_readers_setMutex ((hold hactivity).reader running hrunning) (hnone thread)
      · intro otherKind hholding
        cases hholding
        rw [LockedManager.mutexes_setMutex]
        exact hwriter
      · intro otherKind hbusy
        rcases hbusy with hrequesting | hholding
        · cases hrequesting
        · cases hholding
          exact (hold hactivity).call eventKind (.inl rfl)
  | performed thread choice frame call calls eventKind hactivity =>
      have hperformed : AllGuarded { state with manager := (state.manager.perform call).2 } :=
        hguarded
      have hwriter := (hold hactivity).writer eventKind rfl
      refine hperformed.setMutex (fun _ _ hmem => hmem) ?_ (guarded_between ?_)
      · intro other hother hheld
        rw [hwriter, Option.some.injEq] at hheld
        exact absurd hheld.symm hother
      · intro running hrunning
        exact state.mem_readers_setMutex ((hold hactivity).reader running hrunning) id
  | turned thread choice frame after calls hactivity hturned =>
      apply hguarded.setActivity
      apply guarded_between
      intro running hrunning
      cases hrunning
      rw [hturned.kind]
      exact (hold hactivity).reader frame rfl
  | finished thread choice frame hactivity =>
      refine hguarded.setMutex ?_ ?_ (guarded_between ?_)
      · intro other hother hmem
        rw [SharedMutex.readers_unlockShared]
        exact Finset.mem_erase_of_ne_of_mem hother hmem
      · intro other _ hwriter
        rw [SharedMutex.writer_unlockShared]
        exact hwriter
      · intro running hnone
        cases hnone

/-- The writer of a mutex is alone with its cache. -/
theorem sameEvents_of_moved (hguarded : AllGuarded state) {move : ThreadMove Thread}
    (hmoved : Moved handlers state move next) {thread : Thread} {frame : DispatchFrame}
    (hframe : (state.activity thread).frame = some frame) :
    SameEvents next.manager state.manager frame.kind := by
  cases hmoved with
  | performed mover choice running call calls eventKind hactivity =>
      have hmover := hguarded mover
      rw [hactivity] at hmover
      obtain ⟨first, hfirst, hlocks⟩ := hmover.call eventKind (.inr rfl)
      obtain rfl : call = first := Option.some.inj hfirst
      have hwriter := hmover.writer eventKind rfl
      have hempty : (state.mutexes eventKind).readers = ∅ :=
        (state.mutexes eventKind).exclusive (by simp [hwriter])
      apply sameEvents_perform
      intro hsame
      have hreader := (hguarded thread).reader frame hframe
      rw [Option.some.inj (hsame.symm.trans hlocks), hempty] at hreader
      exact Finset.notMem_empty thread hreader
  | _ => exact sameEvents_refl state.manager frame.kind

/-- What one move can do to the loop of a thread. -/
inductive LoopMove (manager : EventManager) :
    Option DispatchFrame → Option DispatchFrame → Prop where
  | kept (frame : Option DispatchFrame) : LoopMove manager frame frame
  | entered (frame : DispatchFrame) (hstart : frame.StartsOver manager) :
      LoopMove manager none (some frame)
  | turned (frame after : DispatchFrame) (hresult : after.result = frame.result) :
      LoopMove manager (some frame) (some after)
  | left (frame : DispatchFrame) : LoopMove manager (some frame) none

theorem loopMove_of_moved {move : ThreadMove Thread} (hmoved : Moved handlers state move next) :
    ∀ thread, LoopMove state.manager (state.activity thread).frame
      (next.activity thread).frame := by
  let property : Thread → ThreadActivity → Prop := fun other doing =>
    LoopMove state.manager (state.activity other).frame doing.frame
  have hothers : ∀ thread other, other ≠ thread → property other (state.activity other) :=
    fun _ other _ => .kept (state.activity other).frame
  -- only the moving thread can change its loop
  have hmover : ∀ (other : LockedManager Thread) {thread : Thread} {activity : ThreadActivity},
      other.activity = state.activity → property thread activity →
      ∀ inner, property inner ((other.setActivity thread activity).activity inner) := by
    intro other thread activity hsame hthread
    apply other.forall_setActivity property hthread
    rw [hsame]
    exact hothers thread
  cases hmoved with
  | entered _ thread frame mutex hidle hstart hlock =>
      apply hmover (state.setMutex frame.kind mutex) rfl
      have hframe : (state.activity thread).frame = none := by
        rw [ThreadActivity.eq_idle_of_isIdle hidle]
        rfl
      simp only [property, hframe]
      exact .entered frame hstart
  | called thread call hidle =>
      apply hmover state rfl
      simp only [property, ThreadActivity.eq_idle_of_isIdle hidle]
      exact .kept none
  | skipped thread choice frame call calls hactivity hlocks =>
      apply hmover state rfl
      simp only [property, hactivity]
      exact .kept frame
  | requested thread choice frame call calls eventKind hactivity hlocks =>
      apply hmover state rfl
      simp only [property, hactivity]
      exact .kept frame
  | granted thread choice frame call calls eventKind mutex hactivity hlock =>
      apply hmover (state.setMutex eventKind mutex) rfl
      simp only [property, hactivity]
      exact .kept frame
  | performed thread choice frame call calls eventKind hactivity =>
      apply hmover (LockedManager.setMutex
        { state with manager := (state.manager.perform call).2 } eventKind _) rfl
      simp only [property, hactivity]
      exact .kept frame
  | turned thread choice frame after calls hactivity hturned =>
      apply hmover state rfl
      simp only [property, hactivity]
      exact .turned frame after (DispatchFrame.result_of_turned hturned)
  | finished thread choice frame hactivity =>
      apply hmover (state.setMutex frame.kind _) rfl
      simp only [property, hactivity]
      exact .left frame

/-- What a step leaves of the loops: a new loop is to return what
`triggerMessageHandlers` returns for the cache as it is, a running one is to
return what it was before, and its cache is the same. -/
structure Undisturbed (state next : LockedManager Thread) : Prop where
  entered : ∀ thread frame, (state.activity thread).frame = none →
    (next.activity thread).frame = some frame → frame.Answers state.manager
  running : ∀ thread frame after, (state.activity thread).frame = some frame →
    (next.activity thread).frame = some after → after.result = frame.result
  events : ∀ thread frame, (state.activity thread).frame = some frame →
    SameEvents next.manager state.manager frame.kind

theorem undisturbed_of_moved (hguarded : AllGuarded state) {move : ThreadMove Thread}
    (hmoved : Moved handlers state move next) : Undisturbed state next where
  entered thread frame hnone hframe := by
    have hloop := loopMove_of_moved hmoved thread
    rw [hnone, hframe] at hloop
    cases hloop with
    | entered _ hstart => exact hstart.answers
  running thread frame after hframe hafter := by
    have hloop := loopMove_of_moved hmoved thread
    rw [hframe, hafter] at hloop
    cases hloop with
    | kept => rfl
    | turned _ _ hresult => exact hresult
  events _ _ hframe := sameEvents_of_moved hguarded hmoved hframe

/-- In every run from empty caches, whatever the handlers do, no step disturbs a
loop: the loop returns what `triggerMessageHandlers` returns for the cache that
it found, which is still the cache when it ends. -/
theorem loops_undisturbed (handlers : Handlers) (moves : List (ThreadMove Thread)) :
    EveryState (lockedStep handlers) (fun state => ∀ move next,
      lockedStep handlers state move = some next → Undisturbed state next) .create moves := by
  have hkeep : ∀ (state : LockedManager Thread) move next, AllGuarded state →
      lockedStep handlers state move = some next → AllGuarded next :=
    fun _ _ _ hguarded hstep => hguarded.moved (moved_of_step hstep)
  apply (everyState_of_step hkeep allGuarded_create moves).mono
  intro state hguarded move next hstep
  exact undisturbed_of_moved hguarded (moved_of_step hstep)

end ProcessManagerService.Worker
