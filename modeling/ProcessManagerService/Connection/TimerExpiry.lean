import ProcessManagerService.Connection.StreamDecoding
import ProcessManagerService.Connection.TimerFrame
import ProcessManagerService.Library.PartialRuns

/-!
# Expired and cancelled waits

`setTimerExpiration` gives the timer a new expiry and starts another wait.  A
wait that is still pending then completes with `operation_aborted`, and
`timerExpired`, which takes no error code, calls `onTimerExpiration` for it as
it does for an expired one.  This file records for every such call whether the
deadline of its wait had passed.
-/

namespace ProcessManagerService.TimerExpiry

open Communication Connection PartialRuns ReadLoop StreamDecoding TimerFrame

variable {T Object Error : Type*}

/-- A connection and what its timer has done.  `expired` are the waits whose
deadline has passed and whose handler has not run: they can no longer be
cancelled.  `expirations` counts the deadlines that have passed, `runs` says of
each call of `onTimerExpiration` whether it was for one of them, and `sent` are
the messages these calls have queued. -/
structure Timed (T Object : Type*) where
  object : Object
  expired : List ℕ
  expirations : ℕ
  runs : List Bool
  sent : List (Message T)

def Timed.start (object : Object) : Timed T Object := ⟨object, [], 0, [], []⟩

/-- `expire` is the moment a deadline passes, and `complete` the completion of
a wait that has expired or was aborted. -/
inductive TimedEvent (T : Type*) where
  | connect (succeeds : Bool)
  | makeNewSocket
  | startReading
  | during (event : ConnectionEvent T)
  | expire (millisec : ℕ)
  | complete (millisec : ℕ) (aborted : Bool)

section Step

variable (derived : DerivedConnection T Object Error)

/-- The handler of a wait has run and has left the object in this state. -/
def Timed.ran (system : Timed T Object) (genuine : Bool) (object : Object) :
    Timed T Object where
  object := object
  expired := system.expired
  expirations := system.expirations
  runs := system.runs ++ [genuine]
  sent := system.sent ++ (derived.base object).messagesQueue.pushed.drop
    (derived.base system.object).messagesQueue.pushed.length

/-- A wait with a passed deadline is the timer's no more. -/
def Timed.takeExpired (system : Timed T Object) (millisec : ℕ) : Timed T Object :=
  { system with
    object := derived.update system.object fun connection =>
      { connection with pending := connection.pending.erase (.timerWait millisec false) }
    expired := system.expired ++ [millisec]
    expirations := system.expirations + 1 }

variable [Inhabited T] [HeaderLayout T]

def timedStep (system : Timed T Object) : TimedEvent T → Option (Timed T Object)
  | .connect succeeds => some { system with
      object := derived.update system.object fun connection => (connection.connect succeeds).2 }
  | .makeNewSocket => some { system with
      object := derived.update system.object TcpConnection.makeNewSocket }
  | .startReading => some { system with
      object := derived.update system.object TcpConnection.startReading }
  | .during (.completeWait _ _) => none
  | .during event => (connectionStep derived system.object event).map fun object =>
      { system with object }
  | .expire millisec =>
      if .timerWait millisec false ∈ (derived.base system.object).pending then
        some (system.takeExpired derived millisec)
      else none
  | .complete millisec true =>
      if .timerWait millisec true ∈ (derived.base system.object).pending then
        some (system.ran derived false
          (completeWait derived system.object millisec true).state)
      else none
  | .complete millisec false =>
      if millisec ∈ system.expired then
        some ({ system with expired := system.expired.erase millisec }.ran derived true
          (derived.timerExpired system.object).state)
      else none

end Step

/-- A wait of the timer is pending, and its deadline has not passed. -/
def Waiting (connection : TcpConnection T) : Prop :=
  ∃ millisec, .timerWait millisec false ∈ connection.pending

/-- The timer is started while a wait is pending: by the event itself, or by the
class when it handles one of the messages with which it starts the timer. -/
def Rearms [HeaderLayout T] (derived : DerivedConnection T Object Error)
    (starts : Object → Option (Message T) → Prop) (system : Timed T Object) :
    TimedEvent T → Prop
  | .during (.setTimerExpiration _) => Waiting (derived.base system.object)
  | .during event => Waiting (derived.base system.object) ∧
      ∃ message ∈ passedBy (derived.base system.object).readingSide event,
        starts system.object message
  | _ => False

/-- `onTimerExpiration` runs only for expired waits, and it has queued at most
one message for each of them. -/
structure OnlyExpired (system : Timed T Object) : Prop where
  runs : ∀ genuine ∈ system.runs, genuine = true
  sent : system.sent.length ≤ system.expirations

/-- What the overrides of a class do with the timer.  A message can start it,
and the expiry queues at most one message. -/
structure TimerUse (derived : DerivedConnection T Object Error)
    (starts : Object → Option (Message T) → Prop) : Prop where
  ofObject : ∀ object connection message,
    starts (derived.withBase object connection) message ↔ starts object message
  expires : ∀ object, waits (derived.base (derived.onTimerExpiration object).state) =
    waits (derived.base object)
  queues : ∀ object,
    (derived.base (derived.onTimerExpiration object).state).messagesQueue.pushed.length ≤
      (derived.base object).messagesQueue.pushed.length + 1
  spares : ∀ object message next, ¬ starts object message →
    derived.handleReceivedMessage object message = .returned next →
      waits (derived.base next) = waits (derived.base object)
  started : ∀ object message next, starts object message → waits (derived.base object) = [] →
    derived.handleReceivedMessage object message = .returned next →
      ∃ millisec, waits (derived.base next) = [.timerWait millisec false]

/-- Overrides that do nothing leave the timer alone. -/
theorem timerUse_inert (T : Type*) :
    TimerUse (DerivedConnection.inert T) (fun _ _ => False) where
  ofObject _ _ _ := Iff.rfl
  expires _ := rfl
  queues _ := Nat.le_succ _
  spares object message next _ hreturned := by rw [← Outcome.returned.inj hreturned]
  started _ _ _ hnever _ _ := hnever.elim

/-! ## What an event does to the waits -/

section Waits

theorem waiting_iff {connection : TcpConnection T} :
    Waiting connection ↔ ∃ millisec, .timerWait millisec false ∈ waits connection := by
  simp only [Waiting, waits, List.mem_filter, isWait, and_true]

theorem not_waiting_of_waits {connection : TcpConnection T} (hnone : waits connection = []) :
    ¬ Waiting connection := by
  intro hwaiting
  obtain ⟨millisec, hmem⟩ := waiting_iff.mp hwaiting
  rw [hnone] at hmem
  cases hmem

variable [Inhabited T] [HeaderLayout T] {derived : DerivedConnection T Object Error}
variable {object next : Object}

/-- A completed read hands over at most one message, and apart from the handler
of that message it leaves the waits alone. -/
theorem waits_of_completeRead {operation : AsyncOperation} {error : Bool}
    (hstep : connectionStep derived object (.completeRead operation error) = some next) :
    waits (derived.base next) = waits (derived.base object) ∨
    ∃ message connection moved handled,
      passedBy (derived.base object).readingSide (.completeRead operation error) = [message] ∧
      waits moved = waits (derived.base object) ∧
      derived.handleReceivedMessage
        (derived.withBase (derived.withBase object connection) moved) message =
          .returned handled ∧
      waits (derived.base next) = waits (derived.base handled) := by
  obtain ⟨-, hcomplete⟩ := connectionStep_completeRead.mp hstep
  obtain ⟨finished, hcall, hhandler⟩ := Outcome.andThen_eq_returned.mp hcomplete
  obtain ⟨connection, hfinish, rfl⟩ := derived.call_eq_returned.mp hcall
  cases operation with
  | readHeader =>
      obtain ⟨posted, hpost, rfl⟩ := derived.call_eq_returned.mp hhandler
      rw [derived.base_withBase] at hpost ⊢
      have hread : Silent (derived.base object) connection := silent_of_finishRead rfl hfinish
      exact .inl (hread.trans (silent_of_postReadMessageHeader hpost)).waits
  | readBody size =>
      have hread : Silent (derived.base object) connection := silent_of_finishRead rfl hfinish
      cases error with
      | true =>
          cases hhandler
          rw [derived.base_update, derived.base_withBase]
          exact .inl (hread.trans (silent_disconnect connection)).waits
      | false =>
          obtain ⟨handled, hhandled, hrestart⟩ := Outcome.andThen_eq_returned.mp hhandler
          cases hrestart
          rw [derived.base_update]
          rw [DerivedConnection.update, derived.base_withBase] at hhandled
          exact .inr ⟨connection.incomingMessage, connection,
            { connection with incomingMessage := none }, handled,
            passedBy_of_finishRead hfinish, hread.waits, hhandled,
            (silent_startReadingSequence (derived.base handled)).waits⟩
  | _ => cases hhandler

/-- The other events of a connection that do not start the timer. -/
theorem waits_of_connectionStep {event : ConnectionEvent T}
    (hread : ∀ operation error, event ≠ .completeRead operation error)
    (hset : ∀ millisec, event ≠ .setTimerExpiration millisec)
    (hwait : ∀ millisec aborted, event ≠ .completeWait millisec aborted)
    (hstep : connectionStep derived object event = some next) :
    waits (derived.base next) = waits (derived.base object) := by
  cases event with
  | arrive segment =>
      cases hstep
      rw [derived.base_update]
      rfl
  | completeRead operation error => exact absurd rfl (hread operation error)
  | sendMessage message =>
      obtain ⟨connection, hsend, rfl⟩ :=
        derived.call_eq_returned.mp (connectionStep_sendMessage.mp hstep)
      rw [derived.base_withBase]
      exact waits_of_sendMessage hsend
  | completeWrite operation error =>
      obtain ⟨connection, hwritten, rfl⟩ :=
        derived.call_eq_returned.mp (connectionStep_completeWrite.mp hstep).2
      rw [derived.base_withBase]
      exact (silent_of_completeWrite hwritten).waits
  | setTimerExpiration millisec => exact absurd rfl (hset millisec)
  | completeWait millisec aborted => exact absurd rfl (hwait millisec aborted)
  | disconnect =>
      cases hstep
      rw [derived.base_update]
      exact (silent_disconnect _).waits
  | closeSocket =>
      cases hstep
      rw [derived.base_update]
      exact (silent_closeSocket _).waits

end Waits

/-! ## The invariant -/

section Invariant

variable {derived : DerivedConnection T Object Error} {system next : Timed T Object}
variable {starts : Object → Option (Message T) → Prop}

/-- No wait has been cancelled, so every call of `onTimerExpiration` is for a
wait that has expired before. -/
structure Punctual (derived : DerivedConnection T Object Error) (system : Timed T Object) :
    Prop where
  waits : ∀ wait ∈ waits (derived.base system.object), ∃ millisec, wait = .timerWait millisec false
  runs : ∀ genuine ∈ system.runs, genuine = true
  expirations : system.runs.length + system.expired.length = system.expirations
  sent : system.sent.length ≤ system.runs.length

theorem punctual_start {object : Object} (hnone : waits (derived.base object) = []) :
    Punctual derived (Timed.start object) := by
  refine ⟨?_, ?_, rfl, Nat.le_refl 0⟩
  · intro wait hmem
    rw [Timed.start, hnone] at hmem
    cases hmem
  · intro genuine hmem
    cases hmem

theorem Punctual.onlyExpired (hpunctual : Punctual derived system) : OnlyExpired system where
  runs := hpunctual.runs
  sent := by
    calc system.sent.length
        ≤ system.runs.length := hpunctual.sent
      _ ≤ system.runs.length + system.expired.length := Nat.le_add_right _ _
      _ = system.expirations := hpunctual.expirations

/-- Without a pending wait the timer is idle. -/
theorem Punctual.waits_eq_nil (hpunctual : Punctual derived system)
    (hwaiting : ¬ Waiting (derived.base system.object)) :
    TimerFrame.waits (derived.base system.object) = [] := by
  rw [List.eq_nil_iff_forall_not_mem]
  intro wait hmem
  obtain ⟨millisec, rfl⟩ := hpunctual.waits wait hmem
  exact hwaiting (waiting_iff.mpr ⟨millisec, hmem⟩)

theorem Punctual.ofObject {object : Object} (hpunctual : Punctual derived system)
    (hwaits : ∀ wait ∈ TimerFrame.waits (derived.base object),
      ∃ millisec, wait = .timerWait millisec false) :
    Punctual derived { system with object } :=
  ⟨hwaits, hpunctual.runs, hpunctual.expirations, hpunctual.sent⟩

theorem Punctual.sameWaits {object : Object} (hpunctual : Punctual derived system)
    (hsame : TimerFrame.waits (derived.base object) =
      TimerFrame.waits (derived.base system.object)) :
    Punctual derived { system with object } :=
  hpunctual.ofObject (hsame ▸ hpunctual.waits)

/-- A wait that is started on an idle timer is the only one. -/
theorem Punctual.oneWait {object : Object} {millisec : ℕ} (hpunctual : Punctual derived system)
    (hone : TimerFrame.waits (derived.base object) = [.timerWait millisec false]) :
    Punctual derived { system with object } := by
  apply hpunctual.ofObject
  intro wait hmem
  rw [hone, List.mem_singleton] at hmem
  exact ⟨millisec, hmem⟩

theorem Punctual.takeExpired {millisec : ℕ} (hpunctual : Punctual derived system) :
    Punctual derived (system.takeExpired derived millisec) := by
  refine ⟨?_, hpunctual.runs, ?_, hpunctual.sent⟩
  · intro wait hmem
    rw [Timed.takeExpired, derived.base_update, TimerFrame.waits, ← List.erase_filter] at hmem
    exact hpunctual.waits wait (List.mem_of_mem_erase hmem)
  · calc system.runs.length + (system.expired ++ [millisec]).length
        = system.runs.length + system.expired.length + 1 := by
          rw [List.length_append, List.length_singleton, Nat.add_assoc]
      _ = system.expirations + 1 := by rw [hpunctual.expirations]

/-- The handler of an expired wait runs. -/
theorem Punctual.ran {millisec : ℕ} (hpunctual : Punctual derived system)
    (huse : TimerUse derived starts) (hmem : millisec ∈ system.expired) :
    Punctual derived ({ system with expired := system.expired.erase millisec }.ran derived true
      (derived.timerExpired system.object).state) := by
  refine ⟨?_, ?_, ?_, ?_⟩
  · intro wait hwait
    rw [Timed.ran, DerivedConnection.timerExpired, huse.expires] at hwait
    exact hpunctual.waits wait hwait
  · intro genuine hgenuine
    rcases List.mem_append.mp hgenuine with hbefore | hlast
    · exact hpunctual.runs genuine hbefore
    · exact List.mem_singleton.mp hlast
  · calc (system.runs ++ [true]).length + (system.expired.erase millisec).length
        = system.runs.length + ((system.expired.erase millisec).length + 1) := by
          rw [List.length_append, List.length_singleton, Nat.add_assoc, Nat.add_comm 1]
      _ = system.runs.length + system.expired.length := by
          rw [List.length_erase_add_one hmem]
      _ = system.expirations := hpunctual.expirations
  · have hqueued : (derived.base
        (derived.onTimerExpiration system.object).state).messagesQueue.pushed.length -
          (derived.base system.object).messagesQueue.pushed.length ≤ 1 :=
      Nat.sub_le_iff_le_add'.mpr (huse.queues system.object)
    rw [Timed.ran, List.length_append, List.length_append, List.length_drop,
      List.length_singleton]
    exact Nat.add_le_add hpunctual.sent hqueued

variable [Inhabited T] [HeaderLayout T]

/-- A read hands its message to a class that starts the timer only when it is
idle. -/
theorem Punctual.completeRead {operation : AsyncOperation} {error : Bool} {object : Object}
    (hpunctual : Punctual derived system) (huse : TimerUse derived starts)
    (hguard : ¬ Rearms derived starts system (.during (.completeRead operation error)))
    (hstep : connectionStep derived system.object (.completeRead operation error) =
      some object) : Punctual derived { system with object } := by
  rcases waits_of_completeRead hstep with
    hsame | ⟨message, connection, moved, handled, hpassed, hmoved, hhandled, hnext⟩
  · exact hpunctual.sameWaits hsame
  · have hbefore : TimerFrame.waits (derived.base
        (derived.withBase (derived.withBase system.object connection) moved)) =
          TimerFrame.waits (derived.base system.object) := by
      rw [derived.base_withBase, hmoved]
    by_cases hstarts : starts system.object message
    · have hidle : ¬ Waiting (derived.base system.object) := by
        intro hwaiting
        exact hguard ⟨hwaiting, message, hpassed ▸ List.mem_singleton_self message, hstarts⟩
      obtain ⟨millisec, hone⟩ := huse.started _ _ _
        ((huse.ofObject _ _ _).mpr ((huse.ofObject _ _ _).mpr hstarts))
        (hbefore.trans (hpunctual.waits_eq_nil hidle)) hhandled
      exact hpunctual.oneWait (hnext.trans hone)
    · have hkept := huse.spares _ _ _ (fun hmoved => hstarts
        ((huse.ofObject _ _ _).mp ((huse.ofObject _ _ _).mp hmoved))) hhandled
      exact hpunctual.sameWaits (hnext.trans (hkept.trans hbefore))

theorem Punctual.during {event : ConnectionEvent T} {object : Object}
    (hpunctual : Punctual derived system) (huse : TimerUse derived starts)
    (hguard : ¬ Rearms derived starts system (.during event))
    (hwait : ∀ millisec aborted, event ≠ .completeWait millisec aborted)
    (hstep : connectionStep derived system.object event = some object) :
    Punctual derived { system with object } := by
  cases event with
  | completeRead operation error => exact hpunctual.completeRead huse hguard hstep
  | setTimerExpiration millisec =>
      cases hstep
      apply hpunctual.oneWait
      rw [derived.base_update, waits_setTimerExpiration, hpunctual.waits_eq_nil hguard]
      rfl
  | completeWait millisec aborted => exact absurd rfl (hwait millisec aborted)
  | _ =>
      apply hpunctual.sameWaits
      apply waits_of_connectionStep _ _ hwait hstep
      · intro operation error hread
        cases hread
      · intro millisec hset
        cases hset

/-- Every event keeps the invariant, unless it starts the timer anew. -/
theorem Punctual.step {event : TimedEvent T} (hpunctual : Punctual derived system)
    (huse : TimerUse derived starts) (hguard : ¬ Rearms derived starts system event)
    (hstep : timedStep derived system event = some next) : Punctual derived next := by
  cases event with
  | connect succeeds =>
      cases hstep
      apply hpunctual.sameWaits
      rw [derived.base_update]
      exact (silent_connect _ succeeds).waits
  | makeNewSocket =>
      cases hstep
      apply hpunctual.sameWaits
      rw [derived.base_update]
      rfl
  | startReading =>
      cases hstep
      apply hpunctual.sameWaits
      rw [derived.base_update]
      exact (silent_startReadingSequence _).waits
  | during event =>
      have hwait : ∀ millisec aborted, event ≠ .completeWait millisec aborted := by
        rintro millisec aborted rfl
        cases hstep
      have hother : timedStep derived system (.during event) =
          (connectionStep derived system.object event).map fun object =>
            { system with object } := by
        cases event with
        | completeWait millisec aborted => exact absurd rfl (hwait millisec aborted)
        | _ => rfl
      obtain ⟨object, hevent, rfl⟩ := Option.map_eq_some_iff.mp (hother.symm.trans hstep)
      exact hpunctual.during huse hguard hwait hevent
  | expire millisec =>
      obtain ⟨-, hstep⟩ := Option.ite_none_right_eq_some.mp hstep
      cases hstep
      exact hpunctual.takeExpired
  | complete millisec aborted =>
      cases aborted with
      | true =>
          obtain ⟨hmem, -⟩ := Option.ite_none_right_eq_some.mp hstep
          obtain ⟨other, hother⟩ := hpunctual.waits _ (List.mem_filter.mpr ⟨hmem, rfl⟩)
          cases hother
      | false =>
          obtain ⟨hmem, hstep⟩ := Option.ite_none_right_eq_some.mp hstep
          cases hstep
          exact hpunctual.ran huse hmem

/-- A run that never starts the timer while a wait is pending calls
`onTimerExpiration` only for expired waits. -/
theorem onlyExpired_of_everyStep {object : Object} {events : List (TimedEvent T)}
    (huse : TimerUse derived starts) (hnone : waits (derived.base object) = [])
    (hguard : EveryStep (timedStep derived)
      (fun system event => ¬ Rearms derived starts system event) (Timed.start object) events) :
    EveryState (timedStep derived) OnlyExpired (Timed.start object) events := by
  have hkeep : ∀ (system : Timed T Object) event next, Punctual derived system →
      ¬ Rearms derived starts system event → timedStep derived system event = some next →
        Punctual derived next :=
    fun _ _ _ hpunctual hguard hstep => hpunctual.step huse hguard hstep
  exact (everyState_of_everyStep hkeep (punctual_start hnone) hguard).mono
    fun _ hpunctual => hpunctual.onlyExpired

/-- Once the timer is started while a wait is pending, the completion of that
wait calls `onTimerExpiration` before its deadline. -/
theorem cancelled_wait_runs {millisec : ℕ} (later : ℕ)
    (hpending : .timerWait millisec false ∈ (derived.base system.object).pending) :
    ∃ next, run (timedStep derived) system
        [.during (.setTimerExpiration later), .complete millisec true] = some next ∧
      next.runs = system.runs ++ [false] ∧ next.expirations = system.expirations := by
  have haborted : .timerWait millisec true ∈
      ((derived.base system.object).setTimerExpiration later).pending :=
    List.mem_append_left _ (List.mem_map.mpr ⟨_, hpending, rfl⟩)
  refine ⟨_, run_cons_eq_some.mpr ⟨_, rfl, run_cons_eq_some.mpr ⟨_, if_pos ?_, rfl⟩⟩, rfl, rfl⟩
  rw [derived.base_update]
  exact haborted

end Invariant

end ProcessManagerService.TimerExpiry
