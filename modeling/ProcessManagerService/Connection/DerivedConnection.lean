import ProcessManagerService.Connection.TcpConnection
import ProcessManagerService.Core.Outcome

/-!
# Derived connections

`TcpConnection` is abstract: `handleReceivedMessage` and `onTimerExpiration`
are implemented by the classes derived from it.  A derived class is a record of
its two overrides over the state `Object` of its instances, which contain a
`TcpConnection`.  The record also carries what the read loop relies on: an
override that returns normally has left the reading side of the connection
alone.
-/

namespace ProcessManagerService.Connection

open Communication

/-- The part of a connection that the read loop works on. -/
structure ReadingSide (T : Type*) where
  isOpen : Bool
  arrived : List Byte
  incomingMessage : Option (Message T)
  reads : List AsyncOperation

namespace TcpConnection

variable {T : Type*}

def readingSide (connection : TcpConnection T) : ReadingSide T where
  isOpen := connection.socket.isOpen
  arrived := connection.socket.arrived
  incomingMessage := connection.incomingMessage
  reads := connection.pending.filter AsyncOperation.isRead

end TcpConnection

/-- A class derived from `TcpConnection<T>`.  `handleReceivedMessage` is called
with the buffer moved out of `incomingMessage`, which may be null. -/
structure DerivedConnection (T Object Error : Type*) where
  base : Object → TcpConnection T
  withBase : Object → TcpConnection T → Object
  base_withBase : ∀ object connection, base (withBase object connection) = connection
  handleReceivedMessage : Object → Option (Message T) → Outcome Error Object
  onTimerExpiration : Object → Outcome Error Object
  readingSide_handleReceivedMessage : ∀ object message next,
    handleReceivedMessage object message = .returned next →
      (base next).readingSide = (base object).readingSide
  readingSide_onTimerExpiration : ∀ object next,
    onTimerExpiration object = .returned next →
      (base next).readingSide = (base object).readingSide

namespace DerivedConnection

variable {T Object Error : Type*} (derived : DerivedConnection T Object Error)

/-- A member function of the base class that always returns. -/
def update (object : Object) (member : TcpConnection T → TcpConnection T) : Object :=
  derived.withBase object (member (derived.base object))

/-- A member function of the base class that can be undefined. -/
def call (object : Object) (member : TcpConnection T → Option (TcpConnection T)) :
    Outcome Error Object :=
  .ofOption object ((member (derived.base object)).map (derived.withBase object))

@[simp]
theorem base_update (object : Object) (member : TcpConnection T → TcpConnection T) :
    derived.base (derived.update object member) = member (derived.base object) :=
  derived.base_withBase _ _

theorem call_eq_returned {object next : Object}
    {member : TcpConnection T → Option (TcpConnection T)} :
    derived.call object member = .returned next ↔
      ∃ connection, member (derived.base object) = some connection ∧
        derived.withBase object connection = next := by
  rw [call, Outcome.ofOption_eq_returned, Option.map_eq_some_iff]

/-- The message buffer is moved out before the virtual call, and the next read
is started only when that call has returned. -/
def postReadMessageBody [Inhabited T] (object : Object) (error : Bool) :
    Outcome Error Object :=
  if error then .returned (derived.update object TcpConnection.disconnect)
  else
    let localMessage := (derived.base object).incomingMessage
    let moved := derived.update object fun connection =>
      { connection with incomingMessage := none }
    (derived.handleReceivedMessage moved localMessage).andThen fun handled =>
      .returned (derived.update handled TcpConnection.startReadingSequence)

/-- The error code of the wait is not looked at. -/
def timerExpired (object : Object) : Outcome Error Object :=
  derived.onTimerExpiration object

/-- The class that also writes down what `handleReceivedMessage` is called
with. -/
def recording : DerivedConnection T (Object × List (Option (Message T))) Error where
  base object := derived.base object.1
  withBase object connection := (derived.withBase object.1 connection, object.2)
  base_withBase object connection := derived.base_withBase object.1 connection
  handleReceivedMessage object message :=
    (derived.handleReceivedMessage object.1 message).map fun handled =>
      (handled, object.2 ++ [message])
  onTimerExpiration object :=
    (derived.onTimerExpiration object.1).map fun handled => (handled, object.2)
  readingSide_handleReceivedMessage object message next hreturned := by
    obtain ⟨handled, hhandled, rfl⟩ := Outcome.map_eq_returned.mp hreturned
    exact derived.readingSide_handleReceivedMessage _ _ _ hhandled
  readingSide_onTimerExpiration object next hreturned := by
    obtain ⟨handled, hhandled, rfl⟩ := Outcome.map_eq_returned.mp hreturned
    exact derived.readingSide_onTimerExpiration _ _ hhandled

/-- The class whose overrides do nothing. -/
def inert (T : Type*) : DerivedConnection T (TcpConnection T) Empty where
  base connection := connection
  withBase _ connection := connection
  base_withBase _ _ := rfl
  handleReceivedMessage connection _ := .returned connection
  onTimerExpiration connection := .returned connection
  readingSide_handleReceivedMessage _ _ _ hreturned := by rw [← Outcome.returned.inj hreturned]
  readingSide_onTimerExpiration _ _ hreturned := by rw [← Outcome.returned.inj hreturned]

end DerivedConnection

end ProcessManagerService.Connection
