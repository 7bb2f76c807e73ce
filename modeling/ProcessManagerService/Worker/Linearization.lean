import ProcessManagerService.Library.SequentialHistory
import ProcessManagerService.Worker.DispatchLocks

/-!
# The caches as one sequential object

Threads register handlers and dispatch messages at the same time, and handlers
register further ones from inside a dispatch.  Every call takes effect while its
thread holds the mutex as the writer, and every dispatch can be taken to happen
when it ends.  In this order the calls and dispatches form a history that a
single thread could have made: each registration returns what it would return
there, and each dispatch collects what it would collect there.
-/

namespace ProcessManagerService.Worker

open PartialRuns SequentialHistory

/-! ## The sequential object -/

/-- A message that is given to one of the two loops. -/
inductive Trigger where
  | message (sender : Sender) (anyMessage : Any)
  | subscription (anyMessage : Any)

/-- What a loop returns. -/
abbrev Collected := List Any ⊕ List (Int32 × Any)

def Trigger.kind : Trigger → EventKind
  | message _ _ => .message
  | subscription _ => .subscription

inductive CacheRequest where
  | call (call : ManagerCall)
  | dispatch (trigger : Trigger)

inductive CacheReply where
  | identifier (returned : Option UInt32)
  | collected (collected : Collected)

namespace EventManager

def dispatch (manager : EventManager) : Trigger → Option Collected
  | .message sender anyMessage =>
      (manager.messageEventsCache.triggerMessageHandlers sender anyMessage).map .inl
  | .subscription anyMessage =>
      (manager.subscriptionEventsCache.triggerMessageHandlers anyMessage).map .inr

/-- One request alone.  A dispatch changes no cache. -/
def serve (manager : EventManager) : CacheRequest → Option (CacheReply × EventManager)
  | .call call => some (.identifier (manager.perform call).1, (manager.perform call).2)
  | .dispatch trigger => (manager.dispatch trigger).map fun collected =>
      (.collected collected, manager)

/-- A dispatch looks at the events of its kind only. -/
theorem dispatch_of_sameEvents {first second : EventManager} {trigger : Trigger}
    (hsame : SameEvents first second trigger.kind) :
    first.dispatch trigger = second.dispatch trigger := by
  cases trigger with
  | message sender anyMessage =>
      have hcache : first.messageEventsCache = second.messageEventsCache := hsame
      rw [dispatch, hcache, dispatch]
  | subscription anyMessage =>
      have hcache : first.subscriptionEventsCache = second.subscriptionEventsCache := hsame
      rw [dispatch, hcache, dispatch]

end EventManager

/-! ## The threads with their history -/

/-- What the loop of a frame has collected so far. -/
def DispatchFrame.collectedSoFar : DispatchFrame → Collected
  | message _ _ _ responses => .inl responses
  | subscription dispatch _ _ => .inr dispatch.serviceRequests

/-- The threads, the message that each of them was given for its loop, and the
requests that have been completed with their replies, in order. -/
structure Traced (Thread : Type*) where
  locked : LockedManager Thread
  invoked : Thread → Option Trigger
  history : List (Thread × CacheRequest × CacheReply)

section Threads

variable {Thread : Type*}

namespace Traced

def create : Traced Thread := ⟨.create, fun _ => none, []⟩

/-- The history without the threads. -/
def requests (traced : Traced Thread) : List (CacheRequest × CacheReply) :=
  traced.history.map Prod.snd

/-- The request that the next step of a thread completes: a call that holds its
mutex or is turned away in front of the cache, or a loop at its end. -/
def completes (traced : Traced Thread) (thread : Thread) : Option (CacheRequest × CacheReply) :=
  match traced.locked.activity thread with
  | ⟨_, call :: _, .holding _⟩ =>
      some (.call call, .identifier (traced.locked.manager.perform call).1)
  | ⟨_, call :: _, .between⟩ =>
      if call.locks = none then
        some (.call call, .identifier (traced.locked.manager.perform call).1)
      else none
  | ⟨some frame, [], .between⟩ =>
      if frame.isFinished then
        (traced.invoked thread).map fun trigger =>
          (.dispatch trigger, .collected frame.collectedSoFar)
      else none
  | _ => none

end Traced

variable [DecidableEq Thread]

/-- A move, with what it invokes or completes written down. -/
def tracedStep (handlers : Handlers) (traced : Traced Thread) (move : ThreadMove Thread) :
    Option (Traced Thread) :=
  (lockedStep handlers traced.locked move).map fun locked =>
    match move with
    | .triggerMessage thread sender anyMessage =>
        { traced with
          locked
          invoked := Function.update traced.invoked thread (some (.message sender anyMessage)) }
    | .triggerSubscription thread anyMessage =>
        { traced with
          locked
          invoked := Function.update traced.invoked thread (some (.subscription anyMessage)) }
    | .call _ _ => { traced with locked }
    | .advance thread _ =>
        { traced with
          locked
          history := traced.history ++
            ((traced.completes thread).map fun completed => (thread, completed)).toList }

end Threads

/-! ## What a running loop owes -/

/-- What is left of the loop returns what a dispatch of the trigger would return
now. -/
structure DispatchFrame.AnswersTo (manager : EventManager) (frame : DispatchFrame)
    (trigger : Trigger) : Prop where
  kind : frame.kind = trigger.kind
  result : frame.result = manager.dispatch trigger

theorem DispatchFrame.AnswersTo.sameEvents {first second : EventManager} {frame : DispatchFrame}
    {trigger : Trigger} (hanswers : frame.AnswersTo first trigger)
    (hsame : SameEvents second first frame.kind) : frame.AnswersTo second trigger where
  kind := hanswers.kind
  result := by
    rw [hanswers.kind] at hsame
    rw [EventManager.dispatch_of_sameEvents hsame]
    exact hanswers.result

theorem DispatchFrame.AnswersTo.turned {manager : EventManager} {handlers : Handlers}
    {choice : ℕ} {frame after : DispatchFrame} {calls : List ManagerCall} {trigger : Trigger}
    (hanswers : frame.AnswersTo manager trigger)
    (hturned : frame.Turned handlers choice after calls) : after.AnswersTo manager trigger where
  kind := hturned.kind.trans hanswers.kind
  result := (DispatchFrame.result_of_turned hturned).trans hanswers.result

/-- A loop at its end returns what it has collected. -/
theorem DispatchFrame.result_of_isFinished {frame : DispatchFrame}
    (hfinished : frame.isFinished = true) : frame.result = some frame.collectedSoFar := by
  cases frame with
  | message sender anyMessage events responses =>
      obtain rfl : events = [] := List.isEmpty_iff.mp hfinished
      rfl
  | subscription dispatch round events =>
      rw [isFinished, Bool.and_eq_true, Option.isNone_iff_eq_none, List.isEmpty_iff] at hfinished
      obtain ⟨rfl, rfl⟩ := hfinished
      rfl

/-! ## What one step does -/

section Steps

variable {Thread : Type*} [DecidableEq Thread]

/-- The steps of the threads, by what they invoke or complete. -/
inductive Progress (traced : Traced Thread) : Traced Thread → Prop where
  | invoked (thread : Thread) (trigger : Trigger) (frame : DispatchFrame)
      (locked : LockedManager Thread)
      (hanswers : frame.AnswersTo traced.locked.manager trigger)
      (hactivity : locked.activity = Function.update traced.locked.activity thread
        ⟨some frame, [], .between⟩)
      (hmanager : locked.manager = traced.locked.manager) :
      Progress traced { traced with
        locked
        invoked := Function.update traced.invoked thread (some trigger) }
  | silent (thread : Thread) (activity : ThreadActivity) (locked : LockedManager Thread)
      (hframe : ∀ frame ∈ activity.frame, ∃ before,
        (traced.locked.activity thread).frame = some before ∧
        frame.kind = before.kind ∧ frame.result = before.result)
      (hactivity : locked.activity = Function.update traced.locked.activity thread activity)
      (hmanager : locked.manager = traced.locked.manager) :
      Progress traced { traced with locked }
  | called (thread : Thread) (call : ManagerCall) (calls : List ManagerCall)
      (locked : LockedManager Thread)
      (hactivity : locked.activity = Function.update traced.locked.activity thread
        ⟨(traced.locked.activity thread).frame, calls, .between⟩)
      (hmanager : locked.manager = (traced.locked.manager.perform call).2) :
      Progress traced { traced with
        locked
        history := traced.history ++
          [(thread, .call call, .identifier (traced.locked.manager.perform call).1)] }
  | returned (thread : Thread) (frame : DispatchFrame) (locked : LockedManager Thread)
      (hframe : (traced.locked.activity thread).frame = some frame)
      (hfinished : frame.isFinished = true)
      (hactivity : locked.activity = Function.update traced.locked.activity thread .idle)
      (hmanager : locked.manager = traced.locked.manager) :
      Progress traced { traced with
        locked
        history := traced.history ++ ((traced.invoked thread).map fun trigger =>
          (thread, .dispatch trigger, .collected frame.collectedSoFar)).toList }

variable {handlers : Handlers} {traced next : Traced Thread}

theorem progress_of_enter {thread : Thread} {frame : DispatchFrame} {trigger : Trigger}
    {locked : LockedManager Thread} (henter : traced.locked.enter thread frame = some locked)
    (hanswers : frame.AnswersTo traced.locked.manager trigger) :
    Progress traced { traced with
      locked
      invoked := Function.update traced.invoked thread (some trigger) } := by
  rw [LockedManager.enter, Option.ite_none_right_eq_some] at henter
  obtain ⟨-, hentered⟩ := henter
  obtain ⟨mutex, -, rfl⟩ := Option.map_eq_some_iff.mp hentered
  exact .invoked thread trigger frame _ hanswers rfl rfl

/-- A loop that goes on or ends. -/
theorem progress_of_advanceFrame {thread : Thread} {choice : ℕ} {frame : DispatchFrame}
    {locked : LockedManager Thread}
    (hactivity : traced.locked.activity thread = ⟨some frame, [], .between⟩)
    (hadvance : traced.locked.advanceFrame handlers thread choice frame = some locked) :
    Progress traced { traced with
      locked
      history := traced.history ++
        ((traced.completes thread).map fun completed => (thread, completed)).toList } := by
  have hframe : (traced.locked.activity thread).frame = some frame := by
    rw [hactivity]
  rw [LockedManager.advanceFrame] at hadvance
  cases hfinished : frame.isFinished with
  | true =>
      rw [if_pos hfinished] at hadvance
      cases hadvance
      have hcompletes : traced.completes thread = (traced.invoked thread).map fun trigger =>
          (.dispatch trigger, .collected frame.collectedSoFar) := by
        rw [Traced.completes, hactivity]
        exact if_pos hfinished
      rw [hcompletes, Option.map_map]
      exact .returned thread frame _ hframe hfinished rfl rfl
  | false =>
      rw [hfinished, if_neg Bool.false_ne_true] at hadvance
      obtain ⟨turn, hnext, rfl⟩ := Option.map_eq_some_iff.mp hadvance
      have hturned := DispatchFrame.turned_of_next hnext
      have hcompletes : traced.completes thread = none := by
        rw [Traced.completes, hactivity]
        exact if_neg (by simp [hfinished])
      rw [hcompletes, Option.map_none, Option.toList_none, List.append_nil]
      refine .silent thread ⟨some turn.1, turn.2, .between⟩ _ ?_ rfl rfl
      intro after hafter
      cases hafter
      exact ⟨frame, hframe, hturned.kind, DispatchFrame.result_of_turned hturned⟩

/-- A call on its way through the mutex. -/
theorem progress_of_advanceCall {thread : Thread} {frame : Option DispatchFrame}
    {call : ManagerCall} {calls : List ManagerCall} {progress : CallProgress}
    {locked : LockedManager Thread}
    (hactivity : traced.locked.activity thread = ⟨frame, call :: calls, progress⟩)
    (hadvance : traced.locked.advanceCall thread frame call calls progress = some locked) :
    Progress traced { traced with
      locked
      history := traced.history ++
        ((traced.completes thread).map fun completed => (thread, completed)).toList } := by
  have hframe : (traced.locked.activity thread).frame = frame := by
    rw [hactivity]
  have hkept : ∀ running ∈ frame, ∃ before,
      (traced.locked.activity thread).frame = some before ∧
      running.kind = before.kind ∧ running.result = before.result :=
    fun running hrunning => ⟨running, hframe.trans hrunning, rfl, rfl⟩
  cases progress with
  | between =>
      rw [LockedManager.advanceCall] at hadvance
      cases hlocks : call.locks with
      | none =>
          rw [hlocks] at hadvance
          cases hadvance
          have hcompletes : traced.completes thread =
              some (.call call, .identifier (traced.locked.manager.perform call).1) := by
            rw [Traced.completes, hactivity]
            exact if_pos hlocks
          rw [hcompletes]
          refine .called thread call calls _ ?_ ?_
          · rw [hframe]
            rfl
          · exact (ManagerCall.perform_of_locks_eq_none hlocks traced.locked.manager).symm
      | some eventKind =>
          rw [hlocks] at hadvance
          cases hadvance
          have hcompletes : traced.completes thread = none := by
            rw [Traced.completes, hactivity]
            exact if_neg (by simp [hlocks])
          rw [hcompletes, Option.map_none, Option.toList_none, List.append_nil]
          exact .silent thread _ _ hkept rfl rfl
  | requesting eventKind =>
      obtain ⟨mutex, -, rfl⟩ := Option.map_eq_some_iff.mp hadvance
      have hcompletes : traced.completes thread = none := by
        rw [Traced.completes, hactivity]
      rw [hcompletes, Option.map_none, Option.toList_none, List.append_nil]
      exact .silent thread _ _ hkept rfl rfl
  | holding eventKind =>
      cases hadvance
      have hcompletes : traced.completes thread =
          some (.call call, .identifier (traced.locked.manager.perform call).1) := by
        rw [Traced.completes, hactivity]
      rw [hcompletes]
      refine .called thread call calls _ ?_ rfl
      rw [hframe]
      rfl

/-- The inversion lemma of the traced threads. -/
theorem progress_of_step {move : ThreadMove Thread}
    (hstep : tracedStep handlers traced move = some next) : Progress traced next := by
  obtain ⟨locked, hlocked, rfl⟩ := Option.map_eq_some_iff.mp hstep
  cases move with
  | triggerMessage thread sender anyMessage =>
      exact progress_of_enter hlocked
        ⟨rfl, DispatchFrame.result_message _ sender anyMessage⟩
  | triggerSubscription thread anyMessage =>
      exact progress_of_enter hlocked ⟨rfl, DispatchFrame.result_subscription _ anyMessage⟩
  | call thread call =>
      rw [lockedStep, Option.ite_none_right_eq_some] at hlocked
      obtain ⟨-, hcalled⟩ := hlocked
      cases hcalled
      refine .silent thread ⟨none, [call], .between⟩ _ ?_ rfl rfl
      intro running hnone
      cases hnone
  | advance thread choice =>
      rw [lockedStep] at hlocked
      cases hactivity : traced.locked.activity thread with
      | mk frame calls progress =>
          rw [hactivity] at hlocked
          cases calls with
          | cons call calls => exact progress_of_advanceCall hactivity hlocked
          | nil =>
              cases frame with
              | none => cases hlocked
              | some frame =>
                  cases progress with
                  | between => exact progress_of_advanceFrame hactivity hlocked
                  | requesting eventKind => cases hlocked
                  | holding eventKind => cases hlocked

/-! ## The order of the commits -/

/-- Every running loop owes what a dispatch of its message would return now. -/
structure Owing (traced : Traced Thread) : Prop where
  guarded : AllGuarded traced.locked
  answers : ∀ thread frame, (traced.locked.activity thread).frame = some frame →
    ∃ trigger, traced.invoked thread = some trigger ∧
      frame.AnswersTo traced.locked.manager trigger

omit [DecidableEq Thread] in
theorem owing_create : Owing (Traced.create : Traced Thread) where
  guarded := allGuarded_create
  answers thread frame hframe := by cases hframe

theorem lockedStep_of_tracedStep {move : ThreadMove Thread}
    (hstep : tracedStep handlers traced move = some next) :
    lockedStep handlers traced.locked move = some next.locked := by
  obtain ⟨locked, hlocked, rfl⟩ := Option.map_eq_some_iff.mp hstep
  cases move <;> exact hlocked

/-- The loop of a thread that does not move. -/
theorem frame_of_ne {locked : LockedManager Thread} {thread other : Thread}
    {activity : ThreadActivity}
    (hactivity : locked.activity = Function.update traced.locked.activity thread activity)
    (hother : other ≠ thread) : locked.activity other = traced.locked.activity other := by
  rw [hactivity]
  exact Function.update_of_ne hother _ _

theorem Owing.step (howing : Owing traced) {move : ThreadMove Thread}
    (hstep : tracedStep handlers traced move = some next) : Owing next := by
  have hmoved := moved_of_step (lockedStep_of_tracedStep hstep)
  refine ⟨howing.guarded.moved hmoved, ?_⟩
  -- a loop that was running before keeps its cache
  have hold : ∀ thread frame, (traced.locked.activity thread).frame = some frame →
      ∃ trigger, traced.invoked thread = some trigger ∧
        frame.AnswersTo next.locked.manager trigger := by
    intro thread frame hframe
    obtain ⟨trigger, htrigger, hanswers⟩ := howing.answers thread frame hframe
    exact ⟨trigger, htrigger,
      hanswers.sameEvents (sameEvents_of_moved howing.guarded hmoved hframe)⟩
  intro other running hrunning
  cases progress_of_step hstep with
  | invoked thread trigger frame locked hanswers hactivity hmanager =>
      by_cases hother : other = thread
      · subst hother
        rw [hactivity, Function.update_self] at hrunning
        cases hrunning
        exact ⟨trigger, Function.update_self .., hmanager ▸ hanswers⟩
      · rw [frame_of_ne hactivity hother] at hrunning
        obtain ⟨kept, hkept, hanswered⟩ := hold other running hrunning
        exact ⟨kept, (Function.update_of_ne hother _ _).trans hkept, hanswered⟩
  | silent thread activity locked hframe hactivity hmanager =>
      by_cases hother : other = thread
      · subst hother
        rw [hactivity, Function.update_self] at hrunning
        obtain ⟨before, hbefore, hkind, hresult⟩ := hframe running hrunning
        obtain ⟨trigger, htrigger, hanswers⟩ := hold other before hbefore
        exact ⟨trigger, htrigger, hkind.trans hanswers.kind, hresult.trans hanswers.result⟩
      · rw [frame_of_ne hactivity hother] at hrunning
        exact hold other running hrunning
  | called thread call calls locked hactivity hmanager =>
      by_cases hother : other = thread
      · subst hother
        rw [hactivity, Function.update_self] at hrunning
        exact hold other running hrunning
      · rw [frame_of_ne hactivity hother] at hrunning
        exact hold other running hrunning
  | returned thread frame locked hframe hfinished hactivity hmanager =>
      by_cases hother : other = thread
      · subst hother
        rw [hactivity, Function.update_self] at hrunning
        cases hrunning
      · rw [frame_of_ne hactivity hother] at hrunning
        exact hold other running hrunning

/-- A step completes at most one request, and with the reply that the caches
give to it now. -/
theorem Owing.commits (howing : Owing traced) {move : ThreadMove Thread}
    (hstep : tracedStep handlers traced move = some next) :
    Commits EventManager.serve traced.locked.manager traced.requests next.locked.manager
      next.requests := by
  cases progress_of_step hstep with
  | invoked thread trigger frame locked hanswers hactivity hmanager =>
      rw [hmanager]
      exact .nothing
  | silent thread activity locked hframe hactivity hmanager =>
      rw [hmanager]
      exact .nothing
  | called thread call calls locked hactivity hmanager =>
      rw [hmanager, Traced.requests, Traced.requests, List.map_append]
      exact .served _ _ _ rfl
  | returned thread frame locked hframe hfinished hactivity hmanager =>
      obtain ⟨trigger, htrigger, hanswers⟩ := howing.answers thread frame hframe
      have hserve : traced.locked.manager.serve (.dispatch trigger) =
          some (.collected frame.collectedSoFar, traced.locked.manager) := by
        rw [EventManager.serve, ← hanswers.result, DispatchFrame.result_of_isFinished hfinished]
        rfl
      rw [hmanager, Traced.requests, Traced.requests, List.map_append, htrigger]
      exact .served _ _ _ hserve

theorem owing_of_moves (handlers : Handlers) (moves : List (ThreadMove Thread)) :
    EveryState (tracedStep handlers)
      (fun traced => Owing traced ∧
        Legal EventManager.serve .create traced.requests traced.locked.manager)
      .create moves :=
  legal_everyState (fun _ _ _ howing hstep => Owing.step howing hstep)
    (fun _ _ _ howing hstep => Owing.commits howing hstep) owing_create rfl moves

/-- In every run from empty caches, whatever the threads and the handlers do, the
completed calls and dispatches form a history of the caches used by one thread:
in the order of their completion each call returns the identifier, and each
dispatch what it collects, that it would return when made alone at its place. -/
theorem linearizable (handlers : Handlers) (moves : List (ThreadMove Thread)) :
    EveryState (tracedStep handlers)
      (fun traced => Legal EventManager.serve .create traced.requests traced.locked.manager)
      .create moves :=
  (owing_of_moves handlers moves).mono fun _ howing => howing.2

end Steps

/-! ## The identifiers that the threads get -/

/-- The calls of a history, in order. -/
def callsOf (history : List (CacheRequest × CacheReply)) : List ManagerCall :=
  history.filterMap fun entry =>
    match entry.1 with
    | .call call => some call
    | .dispatch _ => none

/-- What an entry returns to a registration of the kind. -/
def identifierOf (eventKind : EventKind) : CacheRequest × CacheReply → List UInt32
  | (.call call, .identifier returned) =>
      if call.kind = some eventKind then returned.toList else []
  | _ => []

/-- The identifiers that the registrations of the kind returned, in order. -/
def identifiersOf (eventKind : EventKind) (history : List (CacheRequest × CacheReply)) :
    List UInt32 :=
  history.flatMap (identifierOf eventKind)

/-- A legal history is one of the calls in it, whose registrations return their
handles. -/
theorem calls_of_legal {manager finish : EventManager}
    {history : List (CacheRequest × CacheReply)}
    (hlegal : Legal EventManager.serve manager history finish) (eventKind : EventKind) :
    finish = (callsOf history).foldl (fun manager call => (manager.perform call).2) manager ∧
      identifiersOf eventKind history =
        EventManager.handles eventKind manager (callsOf history) := by
  induction history generalizing manager with
  | nil => exact ⟨hlegal.symm, rfl⟩
  | cons entry history ih =>
      obtain ⟨next, hserve, hrest⟩ := hlegal
      obtain ⟨hfinish, hidentifiers⟩ := ih hrest
      obtain ⟨request, reply⟩ := entry
      cases request with
      | call call =>
          cases hserve
          refine ⟨hfinish, ?_⟩
          rw [identifiersOf, List.flatMap_cons]
          exact congrArg (identifierOf eventKind _ ++ ·) hidentifiers
      | dispatch trigger =>
          obtain ⟨collected, -, hreply⟩ := Option.map_eq_some_iff.mp hserve
          cases hreply
          exact ⟨hfinish, hidentifiers⟩

variable {Thread : Type*} [DecidableEq Thread] {handlers : Handlers}

/-- However the threads and their handlers interleave, as long as fewer than 2^32
registrations complete: those of a kind return 0, 1, 2 and so on in the order in
which they complete, no identifier twice, and the cache holds exactly the events
with these identifiers in this order. -/
theorem identifiers_of_threads {moves : List (ThreadMove Thread)} {finish : Traced Thread}
    (hrun : run (tracedStep handlers) .create moves = some finish)
    (hcount : (callsOf finish.requests).countP (fun call => call.kind.isSome) < UInt32.size)
    (eventKind : EventKind) :
    (identifiersOf eventKind finish.requests).map UInt32.toNat =
        List.range ((callsOf finish.requests).countP (ManagerCall.registers eventKind)) ∧
      (identifiersOf eventKind finish.requests).Nodup ∧
      finish.locked.manager.ids eventKind = identifiersOf eventKind finish.requests := by
  obtain ⟨-, hlegal⟩ := (owing_of_moves handlers moves).finish hrun
  obtain ⟨hmanager, hidentifiers⟩ := calls_of_legal hlegal eventKind
  have hhanded := handed_of_count hcount eventKind
  rw [hidentifiers, hmanager]
  exact ⟨hhanded.counted, hhanded.distinct, hhanded.gapless⟩

/-- Handlers that register nothing. -/
private def silentHandlers : Handlers where
  messageCallbacks := Set.univ
  subscribeCallbacks := Set.univ
  messageBody _ _ _ _ := []
  subscribeBody _ _ _ := []
  messageBody_drawn _ _ _ _ _ _ hmem := absurd hmem List.not_mem_nil
  subscribeBody_drawn _ _ _ _ _ hmem := absurd hmem List.not_mem_nil

/-- Two threads register at the same time, and the one that asked second gets the
mutex first. -/
private def overtakingRegistrations : List (ThreadMove Bool) :=
  [.call false (.registerNewEventHandler 1 (some ⟨none⟩)),
    .call true (.registerNewEventHandler 2 (some ⟨none⟩)),
    .advance false 0, .advance true 0, .advance true 0, .advance true 0,
    .advance false 0, .advance false 0]

theorem identifiers_of_overtaking : ∃ finish,
    run (tracedStep silentHandlers) .create overtakingRegistrations = some finish ∧
    finish.history.map Prod.fst = [true, false] ∧
    identifiersOf .message finish.requests = [0, 1] ∧
    (identifiersOf .message finish.requests).Nodup := by
  obtain ⟨finish, hrun, hthreads, hidentifiers, hcalls⟩ : ∃ finish,
      run (tracedStep silentHandlers) .create overtakingRegistrations = some finish ∧
      finish.history.map Prod.fst = [true, false] ∧
      identifiersOf .message finish.requests = [0, 1] ∧
      callsOf finish.requests = [.registerNewEventHandler 2 (some ⟨none⟩),
        .registerNewEventHandler 1 (some ⟨none⟩)] := ⟨_, rfl, rfl, rfl, rfl⟩
  have hcount : (callsOf finish.requests).countP (fun call => call.kind.isSome) <
      UInt32.size := by
    rw [hcalls]
    decide
  exact ⟨finish, hrun, hthreads, hidentifiers,
    (identifiers_of_threads hrun hcount .message).2.1⟩

end ProcessManagerService.Worker
