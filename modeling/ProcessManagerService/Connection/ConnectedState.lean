import ProcessManagerService.Connection.ReadLoop

/-!
# What isConnected says

`isConnected` looks at the open flag of the socket.  Closing calls and failed
reads and writes clear that flag, but a successful `connect` is not the only
thing that sets it: the socket's own `connect` opens a closed socket before it
tries, and the `catch` of `TcpConnection::connect` does not close it again.
This file keeps the history of a connection beside its state and shows that the
flag means "connected" along a run exactly when no attempt fails in this way
while the connection is not connected.
-/

namespace ProcessManagerService.ConnectedState

open Communication Connection PartialRuns ReadLoop

variable {T Object Error : Type*}

/-! ## What one event does to the open flag -/

/-- The calls that close the socket, and the reads and writes that fail. -/
def closes : ConnectionEvent T → Bool
  | .completeRead _ error => error
  | .completeWrite _ error => error
  | .disconnect => true
  | .closeSocket => true
  | _ => false

theorem isConnected_disconnect (connection : TcpConnection T) :
    connection.disconnect.isConnected = false :=
  congrArg ReadingSide.isOpen (readingSide_disconnect connection)

theorem isConnected_asyncWrite (connection : TcpConnection T) (operation : AsyncOperation) :
    (connection.asyncWrite operation).isConnected = connection.isConnected := by
  cases hopen : connection.socket.isOpen <;>
    simp [TcpConnection.asyncWrite, TcpConnection.isConnected, hopen]

theorem isConnected_finishWrite (connection : TcpConnection T) (operation : AsyncOperation)
    (error : Bool) :
    (connection.finishWrite operation error).isConnected = connection.isConnected := by
  cases error <;> rfl

section Writing

variable [HeaderLayout T] {connection next : TcpConnection T}

/-- The handler of a failed write closes the socket, the others leave it as it
is. -/
theorem isConnected_of_completeWrite {operation : AsyncOperation} {error : Bool}
    (hcomplete : connection.completeWrite operation error = some next) :
    next.isConnected = (connection.isConnected && !error) := by
  obtain ⟨-, hhandled⟩ := TcpConnection.handled_of_completeWrite hcomplete
  have hfinish := isConnected_finishWrite connection operation error
  cases hhandled with
  | failed =>
      rw [Bool.not_true, Bool.and_false]
      exact isConnected_disconnect (connection.finishWrite operation true)
  | continued other hwrite =>
      rw [isConnected_asyncWrite, hfinish, Bool.not_false, Bool.and_true]
  | popped messagesQueue sendingInProgress hpop =>
      rw [Bool.not_false, Bool.and_true]
      exact hfinish
  | following messagesQueue other hpop hwrite =>
      rw [isConnected_asyncWrite, Bool.not_false, Bool.and_true]
      exact hfinish

/-- On a closed socket a message is only queued. -/
theorem sendMessage_of_closed {message : Message T} (hclosed : connection.isConnected = false) :
    connection.sendMessage message =
      some { connection with messagesQueue := connection.messagesQueue.push message } := by
  rw [TcpConnection.isConnected] at hclosed
  simp [TcpConnection.sendMessage, hclosed]

end Writing

section Step

variable [Inhabited T] [HeaderLayout T] {derived : DerivedConnection T Object Error}

theorem isConnected_of_completeRead {object next : Object} {operation : AsyncOperation}
    {error : Bool}
    (hstep : connectionStep derived object (.completeRead operation error) = some next) :
    (derived.base next).isConnected = ((derived.base object).isConnected && !error) := by
  have hmove := readingMove_of_step hstep
  have hopen : ∀ connection : TcpConnection T,
      connection.isConnected = connection.readingSide.isOpen := fun _ => rfl
  rw [hopen, hopen]
  generalize (derived.base next).readingSide = after at hmove ⊢
  cases hmove with
  | kept _ hlocal => cases hlocal
  | closed _ hlocal => cases hlocal
  | failed => simp
  | headerRefused => simp [filled]
  | headerRead => simp [filled]
  | bodyRead => simp [filled, restarted]

/-- The closing events clear the flag and no other event touches it. -/
theorem isConnected_of_step {object next : Object} {event : ConnectionEvent T}
    (hstep : connectionStep derived object event = some next) :
    (derived.base next).isConnected = ((derived.base object).isConnected && !closes event) := by
  cases event with
  | completeRead operation error => exact isConnected_of_completeRead hstep
  | completeWrite operation error =>
      obtain ⟨connection, hcomplete, rfl⟩ :=
        derived.call_eq_returned.mp (connectionStep_completeWrite.mp hstep).2
      rw [derived.base_withBase]
      exact isConnected_of_completeWrite hcomplete
  | sendMessage message =>
      obtain ⟨connection, hsend, rfl⟩ :=
        derived.call_eq_returned.mp (connectionStep_sendMessage.mp hstep)
      have hkept := congrArg ReadingSide.isOpen (readingSide_of_sendMessage hsend)
      rw [derived.base_withBase]
      exact hkept.trans (Bool.and_true _).symm
  | completeWait millisec aborted =>
      have hexpired := (connectionStep_completeWait.mp hstep).2
      have hside := derived.readingSide_onTimerExpiration _ _ hexpired
      rw [derived.base_update] at hside
      have hkept := congrArg ReadingSide.isOpen hside
      exact hkept.trans (Bool.and_true _).symm
  | arrive segment =>
      cases hstep
      rw [derived.base_update]
      exact (Bool.and_true _).symm
  | setTimerExpiration millisec =>
      cases hstep
      rw [derived.base_update]
      exact (Bool.and_true _).symm
  | disconnect =>
      cases hstep
      rw [derived.base_update, closes, Bool.not_true, Bool.and_false]
      exact isConnected_disconnect _
  | closeSocket =>
      cases hstep
      rw [derived.base_update, closes, Bool.not_true, Bool.and_false]
      exact isConnected_disconnect _

end Step

/-! ## The life of a connection -/

/-- How an attempt to connect ends.  `notOpened` is an attempt for which a
closed socket could not even be opened. -/
inductive ConnectOutcome where
  | succeeded
  | refused
  | notOpened
  deriving DecidableEq

/-- The connection after an attempt. -/
def attempt (connection : TcpConnection T) : ConnectOutcome → TcpConnection T
  | .succeeded => (connection.connect true).2
  | .refused => (connection.connect false).2
  | .notOpened => connection

/-- What can happen to a connection from its constructor on. -/
inductive SocketEvent (T : Type*) where
  | connect (outcome : ConnectOutcome)
  | makeNewSocket
  | startReading
  | during (event : ConnectionEvent T)

/-- What an event is meant to do to the connection. -/
inductive Effect where
  | connects
  | ends
  deriving DecidableEq

/-- An attempt that fails is meant to do nothing. -/
def SocketEvent.effect : SocketEvent T → Option Effect
  | connect .succeeded => some .connects
  | makeNewSocket => some .ends
  | during event => if closes event then some .ends else none
  | _ => none

/-- The object beside the events it has seen. -/
structure Lifetime (T Object : Type*) where
  object : Object
  history : List (SocketEvent T)

/-- The last event that took effect is a successful connect. -/
def Lifetime.Established (state : Lifetime T Object) : Prop :=
  (state.history.filterMap SocketEvent.effect).getLast? = some .connects

instance (state : Lifetime T Object) : Decidable state.Established :=
  inferInstanceAs (Decidable (_ = _))

/-- The constructor has just returned. -/
def constructed (object : Object) : Lifetime T Object := ⟨object, []⟩

section Law

variable [Inhabited T] [HeaderLayout T] (derived : DerivedConnection T Object Error)

/-- The member functions and completion handlers on the object.  The socket of
an attempt that could not open it was closed. -/
def socketStep (object : Object) : SocketEvent T → Option Object
  | .connect outcome =>
      if outcome = .notOpened ∧ (derived.base object).isConnected then none
      else some (derived.update object fun connection => attempt connection outcome)
  | .makeNewSocket => some (derived.update object TcpConnection.makeNewSocket)
  | .startReading => some (derived.update object TcpConnection.startReading)
  | .during event => connectionStep derived object event

def lifetimeStep (state : Lifetime T Object) (event : SocketEvent T) :
    Option (Lifetime T Object) :=
  (socketStep derived state.object event).map fun object =>
    { object, history := state.history ++ [event] }

/-- `isConnected` tells whether the connection is established, and where it is
not, `sendMessage` returns without starting an operation. -/
structure MeansConnected (state : Lifetime T Object) : Prop where
  isConnected : (derived.base state.object).isConnected = true ↔ state.Established
  sendMessage : ¬ state.Established → ∀ message, ∃ next,
    (derived.base state.object).sendMessage message = some next ∧
      next.pending = (derived.base state.object).pending

end Law

/-- An attempt that opens the socket and fails, where the connection is not
established. -/
def FailsUnconnected (state : Lifetime T Object) (event : SocketEvent T) : Prop :=
  event = .connect .refused ∧ ¬ state.Established

/-- One more event decides when it takes effect, and otherwise the ones before
it. -/
theorem established_append (object : Object) (history : List (SocketEvent T))
    (event : SocketEvent T) :
    Lifetime.Established ⟨object, history ++ [event]⟩ ↔
      (event.effect.or (history.filterMap SocketEvent.effect).getLast?) = some .connects := by
  have hlast : ((history ++ [event]).filterMap SocketEvent.effect).getLast? =
      event.effect.or (history.filterMap SocketEvent.effect).getLast? := by
    rw [List.filterMap_append, List.getLast?_append]
    cases heffect : event.effect <;> simp [heffect]
  rw [Lifetime.Established, hlast]

section Law

variable [Inhabited T] [HeaderLayout T] {derived : DerivedConnection T Object Error}

theorem lifetimeStep_eq_some {state next : Lifetime T Object} {event : SocketEvent T} :
    lifetimeStep derived state event = some next ↔
      ∃ object, socketStep derived state.object event = some object ∧
        next = ⟨object, state.history ++ [event]⟩ := by
  rw [lifetimeStep, Option.map_eq_some_iff]
  exact exists_congr fun object => and_congr_right fun _ => eq_comm

/-- What an event leaves of the open flag: its effect, or the flag itself.
Only a failed attempt on a closed socket does otherwise. -/
theorem isConnected_of_socketStep {object next : Object} {event : SocketEvent T}
    (hguard : event = .connect .refused → (derived.base object).isConnected = true)
    (hstep : socketStep derived object event = some next) :
    (derived.base next).isConnected = true ↔
      event.effect.or (if (derived.base object).isConnected then some .connects else none) =
        some .connects := by
  cases event with
  | connect outcome =>
      rw [socketStep, Option.ite_none_left_eq_some] at hstep
      obtain ⟨-, hupdated⟩ := hstep
      cases hupdated
      rw [derived.base_update]
      cases outcome with
      | succeeded => exact iff_of_true rfl rfl
      | refused => exact iff_of_true rfl (by simp [SocketEvent.effect, hguard rfl])
      | notOpened => simp [attempt, SocketEvent.effect]
  | makeNewSocket =>
      cases hstep
      rw [derived.base_update]
      exact iff_of_false Bool.false_ne_true (by simp [SocketEvent.effect])
  | startReading =>
      cases hstep
      rw [derived.base_update]
      have hkept : (derived.base object).startReading.isConnected =
          (derived.base object).isConnected := rfl
      simp [SocketEvent.effect, hkept]
  | during event =>
      rw [isConnected_of_step hstep]
      cases hcloses : closes event <;> simp [SocketEvent.effect, hcloses]

/-- The flag agrees with the history. -/
def Accurate (derived : DerivedConnection T Object Error) (state : Lifetime T Object) : Prop :=
  (derived.base state.object).isConnected = true ↔ state.Established

omit [Inhabited T] in
theorem Accurate.meansConnected {state : Lifetime T Object}
    (haccurate : Accurate derived state) : MeansConnected derived state where
  isConnected := haccurate
  sendMessage hnot message := by
    have hclosed : (derived.base state.object).isConnected = false :=
      Bool.eq_false_iff.mpr fun hopen => hnot (haccurate.mp hopen)
    exact ⟨_, sendMessage_of_closed hclosed, rfl⟩

theorem Accurate.step {state next : Lifetime T Object} {event : SocketEvent T}
    (haccurate : Accurate derived state) (hguard : ¬ FailsUnconnected state event)
    (hstep : lifetimeStep derived state event = some next) : Accurate derived next := by
  obtain ⟨object, hobject, rfl⟩ := lifetimeStep_eq_some.mp hstep
  have hopen : event = .connect .refused → (derived.base state.object).isConnected = true :=
    fun hevent => haccurate.mpr (not_not.mp fun hnot => hguard ⟨hevent, hnot⟩)
  rw [Accurate, isConnected_of_socketStep hopen hobject, established_append]
  cases event.effect with
  | some effect => exact Iff.rfl
  | none =>
      have hkept : ((if (derived.base state.object).isConnected then some .connects else none) =
          some Effect.connects) ↔ (derived.base state.object).isConnected = true := by simp
      rw [Option.none_or, Option.none_or]
      exact hkept.trans haccurate

/-- An attempt that fails so leaves an open socket that is not connected. -/
theorem not_meansConnected_of_failsUnconnected {state next : Lifetime T Object}
    {event : SocketEvent T} (hfails : FailsUnconnected state event)
    (hstep : lifetimeStep derived state event = some next) : ¬ MeansConnected derived next := by
  obtain ⟨rfl, hnot⟩ := hfails
  obtain ⟨object, hobject, rfl⟩ := lifetimeStep_eq_some.mp hstep
  intro hmeans
  have hopen : (derived.base object).isConnected = true := by
    cases hobject
    rw [derived.base_update]
    rfl
  exact hnot ((established_append object state.history _).mp (hmeans.isConnected.mp hopen))

/-- Along every run from the constructor, `isConnected` tells whether the last
event that took effect is a successful connect, and sends on a connection that
is not established start nothing, if and only if no attempt that opens the
socket fails while the connection is not established. -/
theorem meansConnected_iff {object : Object} {finish : Lifetime T Object}
    {events : List (SocketEvent T)} (hcreated : derived.base object = .create)
    (hrun : run (lifetimeStep derived) (constructed object) events = some finish) :
    EveryState (lifetimeStep derived) (MeansConnected derived) (constructed object) events ↔
      EveryStep (lifetimeStep derived) (fun state event => ¬ FailsUnconnected state event)
        (constructed object) events := by
  have hstart : Accurate derived (constructed object) := by
    rw [Accurate, constructed, hcreated]
    exact iff_of_false Bool.false_ne_true (by simp [Lifetime.Established])
  exact everyState_iff_everyStep (fun _ haccurate => haccurate.meansConnected)
    (fun _ _ _ haccurate hguard hstep => haccurate.step hguard hstep)
    (fun _ _ _ _ hfails hstep =>
      not_meansConnected_of_failsUnconnected (not_not.mp hfails) hstep)
    hstart hrun

end Law

/-- A fresh connection that connects after an attempt for which no socket could
be opened, fails to write and is closed by its handler. -/
private def connectedThenLost : List (SocketEvent UInt32) :=
  [.connect .notOpened, .connect .succeeded, .during (.sendMessage ⟨⟨1, 2⟩, [8, 7]⟩),
    .during (.completeWrite (.writeHeader [1, 0, 0, 0, 2, 0, 0, 0]) true)]

theorem meansConnected_connectedThenLost :
    EveryState (lifetimeStep (.inert UInt32)) (MeansConnected (.inert UInt32))
      (constructed .create) connectedThenLost := by
  refine (meansConnected_iff rfl rfl).mpr (EveryStep.of_forall_mem ?_)
  intro state event hevent
  simp only [connectedThenLost, List.mem_cons, List.not_mem_nil, or_false] at hevent
  rcases hevent with rfl | rfl | rfl | rfl <;> simp [FailsUnconnected]

/-- `connect` on a fresh connection fails and returns false; `isConnected` says
true from then on, and a send starts the write of a header. -/
theorem isConnected_after_failed_connect : ∃ finish,
    run (lifetimeStep (.inert UInt32)) (constructed .create) [.connect .refused] = some finish ∧
    (TcpConnection.create.connect (T := UInt32) false).1 = false ∧
    finish.object.isConnected = true ∧ ¬ finish.Established ∧
    (∃ next, finish.object.sendMessage ⟨⟨1, 2⟩, [8, 7]⟩ = some next ∧
      next.pending = [.writeHeader [1, 0, 0, 0, 2, 0, 0, 0]]) ∧
    ¬ MeansConnected (.inert UInt32) finish := by
  refine ⟨_, rfl, rfl, rfl, by decide, ⟨_, rfl, by decide⟩, ?_⟩
  intro hmeans
  exact absurd (hmeans.isConnected.mp rfl) (by decide)

end ProcessManagerService.ConnectedState
