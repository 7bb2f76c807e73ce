import ProcessManagerService.Library.PartialRuns
import ProcessManagerService.Watchdog.ResponseHandlers

/-!
# Waiting for the connection

`timedWaitForConnection` blocks on the condition variable once, without looking
at the state first and without a predicate, and returns the state it finds when
it has the lock again.  A notifier sets the state under the lock and notifies
afterwards, outside of it.  What a thread does while it holds the lock is one
step here; a woken thread still has to take the lock before it returns.
-/

namespace ProcessManagerService.Watchdog

open PartialRuns

/-- Where the thread of `timedWaitForConnection` is: before the call, blocked in
`wait_for`, woken but without the lock, or back with the state it has read. -/
inductive Waiter where
  | before
  | blocked
  | woken
  | returned (connectionState : ConnectionState)
  deriving DecidableEq

/-- `notifications` counts the calls of `setConnectionStateAndNotify` that have
set the state and not notified yet.  The other fields are history: the state in
which the call started, the state in which it timed out, and whether `Connected`
has been set before the timeout. -/
structure WaitSystem where
  connectionState : ConnectionState
  waiter : Waiter
  notifications : ℕ
  startedIn : Option ConnectionState
  timedOutIn : Option ConnectionState
  acceptedInTime : Bool

def WaitSystem.start : WaitSystem := ⟨.notConnected, .before, 0, none, none, false⟩

inductive WaitEvent where
  | timedWaitForConnection
  | setConnectionState (connectionState : ConnectionState)
  | notifyOne
  | wakeSpuriously
  | timeOut
  | takeLock

/-- A thread that is not blocked is not woken by a notification. -/
def Waiter.wake : Waiter → Waiter
  | blocked => woken
  | waiter => waiter

def waitStep (system : WaitSystem) : WaitEvent → Option WaitSystem
  | .timedWaitForConnection =>
      if system.waiter = .before then
        some { system with waiter := .blocked, startedIn := some system.connectionState }
      else none
  | .setConnectionState connectionState => some { system with
      connectionState
      notifications := system.notifications + 1
      acceptedInTime := system.acceptedInTime ||
        (connectionState = .connected && system.timedOutIn = none) }
  | .notifyOne =>
      if system.notifications = 0 then none
      else some { system with
        notifications := system.notifications - 1
        waiter := system.waiter.wake }
  | .wakeSpuriously =>
      if system.waiter = .blocked then some { system with waiter := .woken } else none
  | .timeOut =>
      if system.waiter = .blocked then
        some { system with waiter := .woken, timedOutIn := some system.connectionState }
      else none
  | .takeLock =>
      if system.waiter = .woken then
        some { system with waiter := .returned system.connectionState }
      else none

/-- What `Base::waitForConnectResponse` makes of the returned state: with
anything but `Connected` it gives up. -/
def waitForConnectResponse (connectionState : ConnectionState) : Bool :=
  connectionState = .connected

/-- The call returns `NotConnected` only after a timeout in that state, and a
call that starts in `Connected` does not block. -/
structure PredicateWait (system : WaitSystem) : Prop where
  returned : system.waiter = .returned .notConnected → system.timedOutIn = some .notConnected
  started : system.startedIn = some .connected → system.waiter ≠ .blocked

/-- The service gives up only when no response has been accepted in time. -/
def GivesUpUnaccepted (system : WaitSystem) : Prop :=
  ∀ connectionState, system.waiter = .returned connectionState →
    waitForConnectResponse connectionState = false → system.acceptedInTime = false

/-- The call does not start in `Connected`, nothing but the timeout wakes it in
`NotConnected`, and nobody sets `NotConnected` between the wake-up and the
return unless it has timed out in that state. -/
def Benign (system : WaitSystem) : WaitEvent → Prop
  | .timedWaitForConnection => system.connectionState ≠ .connected
  | .setConnectionState connectionState => connectionState = .notConnected →
      system.waiter = .woken → system.timedOutIn = some .notConnected
  | .notifyOne => system.waiter = .blocked → system.connectionState ≠ .notConnected
  | .wakeSpuriously => system.connectionState ≠ .notConnected
  | .timeOut => True
  | .takeLock => True

/-! ## The invariant -/

section Invariant

variable {system next : WaitSystem} {event : WaitEvent}

/-- A woken thread that would return `NotConnected` has timed out in that state. -/
structure WokenRightly (system : WaitSystem) : Prop where
  blocked : system.waiter = .before ∨ system.waiter = .blocked → system.timedOutIn = none
  woken : system.waiter = .woken → system.connectionState = .notConnected →
    system.timedOutIn = some .notConnected
  returned : system.waiter = .returned .notConnected → system.timedOutIn = some .notConnected
  started : system.startedIn ≠ some .connected

theorem wokenRightly_start : WokenRightly WaitSystem.start where
  blocked _ := rfl
  woken hwoken := by cases hwoken
  returned hreturned := by cases hreturned
  started hstarted := by cases hstarted

theorem WokenRightly.predicateWait (hrightly : WokenRightly system) : PredicateWait system where
  returned := hrightly.returned
  started hstarted := absurd hstarted hrightly.started

/-- A notification wakes a blocked thread and changes nothing else. -/
theorem Waiter.wake_cases (waiter : Waiter) :
    (waiter = .blocked ∧ waiter.wake = .woken) ∨ (waiter ≠ .blocked ∧ waiter.wake = waiter) := by
  cases waiter with
  | blocked => exact .inl ⟨rfl, rfl⟩
  | before => exact .inr ⟨nofun, rfl⟩
  | woken => exact .inr ⟨nofun, rfl⟩
  | returned connectionState => exact .inr ⟨nofun, rfl⟩

theorem WokenRightly.step (hrightly : WokenRightly system) (hbenign : Benign system event)
    (hstep : waitStep system event = some next) : WokenRightly next := by
  cases event with
  | timedWaitForConnection =>
      obtain ⟨hbefore, hstep⟩ := Option.ite_none_right_eq_some.mp hstep
      cases hstep
      refine ⟨fun _ => hrightly.blocked (.inl hbefore), nofun, nofun, ?_⟩
      intro hstarted
      exact hbenign (Option.some.inj hstarted)
  | setConnectionState connectionState =>
      cases hstep
      exact ⟨hrightly.blocked, fun hwoken hset => hbenign hset hwoken, hrightly.returned,
        hrightly.started⟩
  | notifyOne =>
      obtain ⟨-, hstep⟩ := Option.ite_none_left_eq_some.mp hstep
      cases hstep
      rcases system.waiter.wake_cases with ⟨hblocked, hwake⟩ | ⟨-, hwake⟩
      · have hstate := hbenign hblocked
        rw [hwake]
        exact ⟨fun hwaiter => by simp at hwaiter, fun _ hnot => absurd hnot hstate, nofun,
          hrightly.started⟩
      · rw [hwake]
        exact ⟨hrightly.blocked, hrightly.woken, hrightly.returned, hrightly.started⟩
  | wakeSpuriously =>
      obtain ⟨-, hstep⟩ := Option.ite_none_right_eq_some.mp hstep
      cases hstep
      exact ⟨fun hwaiter => by simp at hwaiter, fun _ hnot => absurd hnot hbenign, nofun,
        hrightly.started⟩
  | timeOut =>
      obtain ⟨-, hstep⟩ := Option.ite_none_right_eq_some.mp hstep
      cases hstep
      exact ⟨fun hwaiter => by simp at hwaiter, fun _ hnot => congrArg some hnot, nofun,
        hrightly.started⟩
  | takeLock =>
      obtain ⟨hwoken, hstep⟩ := Option.ite_none_right_eq_some.mp hstep
      cases hstep
      refine ⟨fun hwaiter => by simp at hwaiter, nofun, ?_, hrightly.started⟩
      intro hreturned
      exact hrightly.woken hwoken (Waiter.returned.inj hreturned)

/-- A woken thread that has not timed out in `NotConnected` returns it when it
takes the lock next. -/
theorem exists_violation_of_woken (hwoken : system.waiter = .woken)
    (hstate : system.connectionState = .notConnected)
    (htimedOut : system.timedOutIn ≠ some .notConnected) :
    ∃ rest finish, run waitStep system rest = some finish ∧ ¬ PredicateWait finish := by
  have hstep : waitStep system .takeLock =
      some { system with waiter := .returned system.connectionState } := if_pos hwoken
  refine ⟨[.takeLock], _, run_cons_eq_some.mpr ⟨_, hstep, rfl⟩, ?_⟩
  intro hwait
  exact htimedOut (hwait.returned (congrArg Waiter.returned hstate))

/-- Against the condition the call is on its way to a wrong end: it blocks in
`Connected`, or the next step of its thread returns `NotConnected` without a
timeout in that state. -/
theorem WokenRightly.exists_violation (hrightly : WokenRightly system)
    (hbenign : ¬ Benign system event) (hstep : waitStep system event = some next) :
    ∃ rest finish, run waitStep next rest = some finish ∧ ¬ PredicateWait finish := by
  have huntimed : system.waiter = .blocked → system.timedOutIn ≠ some .notConnected := by
    intro hblocked
    rw [hrightly.blocked (.inr hblocked)]
    nofun
  cases event with
  | timedWaitForConnection =>
      obtain ⟨-, hstep⟩ := Option.ite_none_right_eq_some.mp hstep
      cases hstep
      refine ⟨[], _, rfl, fun hwait => ?_⟩
      exact hwait.started (congrArg some (not_not.mp hbenign)) rfl
  | setConnectionState connectionState =>
      cases hstep
      simp only [Benign, Classical.not_imp] at hbenign
      obtain ⟨hset, hwoken, htimedOut⟩ := hbenign
      exact exists_violation_of_woken hwoken hset htimedOut
  | notifyOne =>
      obtain ⟨-, hstep⟩ := Option.ite_none_left_eq_some.mp hstep
      cases hstep
      simp only [Benign, Classical.not_imp, not_not] at hbenign
      obtain ⟨hblocked, hstate⟩ := hbenign
      refine exists_violation_of_woken ?_ hstate (huntimed hblocked)
      exact congrArg Waiter.wake hblocked
  | wakeSpuriously =>
      obtain ⟨hblocked, hstep⟩ := Option.ite_none_right_eq_some.mp hstep
      cases hstep
      exact exists_violation_of_woken rfl (not_not.mp hbenign) (huntimed hblocked)
  | timeOut => exact absurd trivial hbenign
  | takeLock => exact absurd trivial hbenign

/-! ## The accepted response -/

/-- As long as only `Connected` is set, a response that has been accepted in
time is seen by the timeout. -/
structure AcceptanceSeen (system : WaitSystem) : Prop where
  accepted : system.acceptedInTime = true → system.connectionState = .connected
  timedOut : system.timedOutIn = some .notConnected → system.acceptedInTime = false
  state : system.connectionState ≠ .shutdown
  returned : system.waiter ≠ .returned .shutdown

theorem acceptanceSeen_start : AcceptanceSeen WaitSystem.start :=
  ⟨nofun, fun _ => rfl, nofun, nofun⟩

theorem AcceptanceSeen.step (hseen : AcceptanceSeen system)
    (hset : ∀ connectionState, event = .setConnectionState connectionState →
      connectionState = .connected)
    (hstep : waitStep system event = some next) : AcceptanceSeen next := by
  cases event with
  | timedWaitForConnection =>
      obtain ⟨-, hstep⟩ := Option.ite_none_right_eq_some.mp hstep
      cases hstep
      exact ⟨hseen.accepted, hseen.timedOut, hseen.state, nofun⟩
  | setConnectionState connectionState =>
      cases hstep
      obtain rfl := hset connectionState rfl
      refine ⟨fun _ => rfl, ?_, nofun, hseen.returned⟩
      intro htimedOut
      replace htimedOut : system.timedOutIn = some .notConnected := htimedOut
      simp [hseen.timedOut htimedOut, htimedOut]
  | notifyOne =>
      obtain ⟨-, hstep⟩ := Option.ite_none_left_eq_some.mp hstep
      cases hstep
      refine ⟨hseen.accepted, hseen.timedOut, hseen.state, ?_⟩
      rcases system.waiter.wake_cases with ⟨-, hwake⟩ | ⟨-, hwake⟩
      · rw [hwake]
        nofun
      · rw [hwake]
        exact hseen.returned
  | wakeSpuriously =>
      obtain ⟨-, hstep⟩ := Option.ite_none_right_eq_some.mp hstep
      cases hstep
      exact ⟨hseen.accepted, hseen.timedOut, hseen.state, nofun⟩
  | timeOut =>
      obtain ⟨-, hstep⟩ := Option.ite_none_right_eq_some.mp hstep
      cases hstep
      refine ⟨hseen.accepted, ?_, hseen.state, nofun⟩
      intro htimedOut
      rw [← Bool.not_eq_true]
      intro haccepted
      rw [hseen.accepted haccepted] at htimedOut
      cases htimedOut
  | takeLock =>
      obtain ⟨-, hstep⟩ := Option.ite_none_right_eq_some.mp hstep
      cases hstep
      refine ⟨hseen.accepted, hseen.timedOut, hseen.state, ?_⟩
      intro hreturned
      exact hseen.state (Waiter.returned.inj hreturned)

theorem AcceptanceSeen.givesUpUnaccepted (hseen : AcceptanceSeen system)
    (hwait : PredicateWait system) : GivesUpUnaccepted system := by
  intro connectionState hreturned hgaveUp
  cases connectionState with
  | notConnected => exact hseen.timedOut (hwait.returned hreturned)
  | connected => cases hgaveUp
  | shutdown => exact absurd hreturned hseen.returned

end Invariant

/-- When the call starts before the connection, and nothing but the timeout
wakes it while there is none, it is a predicate wait; and where only `Connected`
is ever set, as the response handlers do, the service gives up only when no
response has been accepted before the timeout. -/
theorem predicateWait_of_benign {events : List WaitEvent}
    (hbenign : EveryStep waitStep Benign WaitSystem.start events) :
    EveryState waitStep PredicateWait WaitSystem.start events ∧
      ((∀ connectionState, .setConnectionState connectionState ∈ events →
          connectionState = .connected) →
        EveryState waitStep GivesUpUnaccepted WaitSystem.start events) := by
  have hrightly : ∀ system event next, WokenRightly system → Benign system event →
      waitStep system event = some next → WokenRightly next :=
    fun _ _ _ hrightly hbenign hstep => hrightly.step hbenign hstep
  refine ⟨(everyState_of_everyStep hrightly wokenRightly_start hbenign).mono
    fun _ hrightly => hrightly.predicateWait, ?_⟩
  intro hset
  have hguard : EveryStep waitStep (fun system event => Benign system event ∧
      ∀ connectionState, event = .setConnectionState connectionState →
        connectionState = .connected) WaitSystem.start events := by
    apply hbenign.and
    apply EveryStep.of_forall_mem
    rintro system event hmem connectionState rfl
    exact hset connectionState hmem
  have hkeep : ∀ system event next, WokenRightly system ∧ AcceptanceSeen system →
      (Benign system event ∧ ∀ connectionState, event = .setConnectionState connectionState →
        connectionState = .connected) →
      waitStep system event = some next → WokenRightly next ∧ AcceptanceSeen next :=
    fun _ _ _ hboth hguard hstep =>
      ⟨hboth.1.step hguard.1 hstep, hboth.2.step hguard.2 hstep⟩
  exact (everyState_of_everyStep hkeep ⟨wokenRightly_start, acceptanceSeen_start⟩ hguard).mono
    fun _ hboth => hboth.2.givesUpUnaccepted hboth.1.predicateWait

/-- The response is accepted while the service waits. -/
theorem predicateWait_notified :
    ∃ finish, run waitStep WaitSystem.start
        [.timedWaitForConnection, .setConnectionState .connected, .notifyOne, .takeLock] =
          some finish ∧
      finish.waiter = .returned .connected ∧
      EveryState waitStep PredicateWait WaitSystem.start
        [.timedWaitForConnection, .setConnectionState .connected, .notifyOne, .takeLock] := by
  refine ⟨_, rfl, rfl, (predicateWait_of_benign ?_).1⟩
  exact .cons nofun rfl (.cons nofun rfl (.cons nofun rfl (.cons trivial rfl trivial)))

/-- A response that is accepted before the call leaves it blocked with no
notification to come, and a spurious wake-up ends the call without a timeout. -/
theorem wait_without_predicate :
    (∃ stalled, run waitStep WaitSystem.start
        [.setConnectionState .connected, .notifyOne, .timedWaitForConnection] = some stalled ∧
      stalled.connectionState = .connected ∧ stalled.waiter = .blocked ∧
      stalled.notifications = 0 ∧ ¬ PredicateWait stalled) ∧
    ∃ finish, run waitStep WaitSystem.start
        [.timedWaitForConnection, .wakeSpuriously, .takeLock] = some finish ∧
      finish.waiter = .returned .notConnected ∧ finish.timedOutIn = none ∧
      ¬ PredicateWait finish := by
  refine ⟨⟨_, rfl, rfl, rfl, rfl, fun hwait => hwait.started rfl rfl⟩, _, rfl, rfl, rfl, ?_⟩
  intro hwait
  cases hwait.returned rfl

end ProcessManagerService.Watchdog
