import ProcessManagerService.Connection.ConnectedState
import ProcessManagerService.Connection.StreamDecoding
import ProcessManagerService.Watchdog.WatchdogConnection

/-!
# The session along a connection's life

The session and the socket are changed by different callbacks.  Errors and
disconnects close the socket; only the response handlers write the session, and
they never leave `Connected` again.  So after a loss the session is what the
first accepted response has made it, on this connection and on every later one.
-/

namespace ProcessManagerService.Watchdog

open Communication Connection PartialRuns ReadLoop StreamDecoding
open ConnectedState (closes isConnected_of_step)
open WatchdogConnection (delivery)

/-- What can happen to a watchdog connection from its construction on. -/
inductive SessionEvent where
  | connect (succeeds : Bool)
  | makeNewSocket
  | startReading
  | during (event : ConnectionEvent Operation)

/-- The events that lose the connection: a failed read or write, and the calls
that close the socket. -/
def SessionEvent.loses : SessionEvent → Bool
  | during (.completeRead _ error) => error
  | during (.completeWrite _ error) => error
  | during .disconnect => true
  | during .closeSocket => true
  | _ => false

/-- The responses among the messages that were handled. -/
def deliveries (log : List (Option (Message Operation))) : List Delivery :=
  log.filterMap fun message => message.bind delivery

theorem deliveries_append (first second : List (Option (Message Operation))) :
    deliveries (first ++ second) = deliveries first ++ deliveries second :=
  List.filterMap_append

/-! ## Once entered, for good -/

section Deliveries

variable (protobuf : Protobuf)

theorem deliverAll_of_entered {session : Session} (responses : List Delivery)
    (hentered : session.connectionState ≠ .notConnected) :
    deliverAll protobuf session responses = session := by
  induction responses with
  | nil => rfl
  | cons response responses ih =>
      have hsame : response.deliver protobuf session = session :=
        deliver_of_not_accepted protobuf fun hnot => absurd hnot hentered
      rw [deliverAll, List.foldl_cons, hsame]
      exact ih

/-- The session that the first accepted response enters; before one there is
none. -/
def enteredBy (responses : List Delivery) (sequenceCode : UInt32) : Session :=
  match responses.findSome? (Delivery.accepted protobuf) with
  | none => ⟨.notConnected, sequenceCode⟩
  | some code => ⟨.connected, code⟩

/-- A session starts with the first accepted response and keeps its code. -/
theorem deliverAll_eq_enteredBy (responses : List Delivery) (sequenceCode : UInt32) :
    deliverAll protobuf ⟨.notConnected, sequenceCode⟩ responses =
      enteredBy protobuf responses sequenceCode := by
  induction responses with
  | nil => rfl
  | cons response responses ih =>
      rw [deliverAll, List.foldl_cons, enteredBy, List.findSome?_cons]
      cases haccepted : response.accepted protobuf with
      | none =>
          rw [deliver_of_not_accepted protobuf fun _ => haccepted]
          exact ih
      | some code =>
          rw [(deliver_of_accepted protobuf rfl haccepted).2]
          apply deliverAll_of_entered protobuf responses
          intro hnot
          cases hnot

theorem deliverAll_append (session : Session) (first second : List Delivery) :
    deliverAll protobuf session (first ++ second) =
      deliverAll protobuf (deliverAll protobuf session first) second :=
  List.foldl_append

theorem deliverAll_singleton (session : Session) (message : Option (Message Operation)) :
    deliverAll protobuf session (deliveries [message]) =
      (message.bind delivery).elim session fun response => response.deliver protobuf session := by
  rw [deliveries, List.filterMap_cons, List.filterMap_nil]
  cases message.bind delivery <;> rfl

end Deliveries

/-! ## One event -/

section Step

variable [HeaderLayout Operation] (protobuf : Protobuf)

/-- The watchdog connection that also writes down the messages it handles. -/
def recorder : DerivedConnection Operation (Recorded Operation WatchdogConnection) ErrorCode :=
  (WatchdogConnection.derived protobuf).recording

def sessionStep (object : Recorded Operation WatchdogConnection) :
    SessionEvent → Option (Recorded Operation WatchdogConnection)
  | .connect succeeds => some ((recorder protobuf).update object fun connection =>
      (connection.connect succeeds).2)
  | .makeNewSocket => some ((recorder protobuf).update object TcpConnection.makeNewSocket)
  | .startReading => some ((recorder protobuf).update object TcpConnection.startReading)
  | .during event => connectionStep (recorder protobuf) object event

variable {protobuf}

/-- The state after an event is explained by the messages it has handled. -/
def Handles (protobuf : Protobuf) (object next : Recorded Operation WatchdogConnection)
    (handled : List (Option (Message Operation))) : Prop :=
  next.2 = object.2 ++ handled ∧
    next.1.session = deliverAll protobuf object.1.session (deliveries handled)

omit [HeaderLayout Operation] in
theorem handles_nil {object next : Recorded Operation WatchdogConnection} :
    Handles protobuf object next [] ↔
      next.2 = object.2 ∧ next.1.session = object.1.session := by
  rw [Handles, List.append_nil]
  rfl

omit [HeaderLayout Operation] in
/-- What is handled first and what is handled then add up. -/
theorem Handles.trans {object middle next : Recorded Operation WatchdogConnection}
    {first second : List (Option (Message Operation))}
    (hfirst : Handles protobuf object middle first)
    (hsecond : Handles protobuf middle next second) :
    Handles protobuf object next (first ++ second) := by
  constructor
  · rw [hsecond.1, hfirst.1, List.append_assoc]
  · rw [hsecond.2, hfirst.2, deliveries_append, deliverAll_append]

/-- The members of the base class handle nothing. -/
theorem handles_of_call {object next : Recorded Operation WatchdogConnection}
    {member : TcpConnection Operation → Option (TcpConnection Operation)}
    (hcall : (recorder protobuf).call object member = .returned next) :
    Handles protobuf object next [] := by
  obtain ⟨connection, -, rfl⟩ := ((recorder protobuf).call_eq_returned).mp hcall
  exact handles_nil.mpr ⟨rfl, rfl⟩

/-- The completion handler of a body read handles the message it has read. -/
theorem handles_of_postReadMessageBody {object next : Recorded Operation WatchdogConnection}
    (hpost : (recorder protobuf).postReadMessageBody object false = .returned next) :
    Handles protobuf object next [object.1.base.incomingMessage] := by
  rw [DerivedConnection.postReadMessageBody, if_neg Bool.false_ne_true] at hpost
  obtain ⟨handled, hhandled, hrestart⟩ := Outcome.andThen_eq_returned.mp hpost
  obtain ⟨inner, hinner, rfl⟩ := Outcome.map_eq_returned.mp hhandled
  cases hrestart
  refine ⟨rfl, (WatchdogConnection.handleReceivedMessage_spec hinner).2.2.trans ?_⟩
  exact (deliverAll_singleton protobuf object.1.session object.1.base.incomingMessage).symm

/-- The ping request of an expired timer handles nothing. -/
theorem handles_of_timerExpired {object next : Recorded Operation WatchdogConnection}
    (hexpired : (recorder protobuf).timerExpired object = .returned next) :
    Handles protobuf object next [] := by
  obtain ⟨inner, hinner, rfl⟩ := Outcome.map_eq_returned.mp hexpired
  obtain ⟨base, -, rfl⟩ := Option.map_eq_some_iff.mp (Outcome.ofOption_eq_returned.mp hinner)
  exact handles_nil.mpr ⟨rfl, rfl⟩

theorem exists_handles_of_step {object next : Recorded Operation WatchdogConnection}
    {event : SessionEvent} (hstep : sessionStep protobuf object event = some next) :
    ∃ handled, Handles protobuf object next handled := by
  cases event with
  | connect succeeds =>
      cases hstep
      exact ⟨[], handles_nil.mpr ⟨rfl, rfl⟩⟩
  | makeNewSocket =>
      cases hstep
      exact ⟨[], handles_nil.mpr ⟨rfl, rfl⟩⟩
  | startReading =>
      cases hstep
      exact ⟨[], handles_nil.mpr ⟨rfl, rfl⟩⟩
  | during event =>
      rw [sessionStep] at hstep
      cases event with
      | completeRead operation error =>
          obtain ⟨-, hcomplete⟩ := connectionStep_completeRead.mp hstep
          obtain ⟨finished, hcall, hhandler⟩ := Outcome.andThen_eq_returned.mp hcomplete
          have hfinished := handles_of_call hcall
          cases operation with
          | readHeader => exact ⟨_, hfinished.trans (handles_of_call hhandler)⟩
          | readBody size =>
              cases error with
              | true =>
                  cases hhandler
                  exact ⟨_, hfinished⟩
              | false => exact ⟨_, hfinished.trans (handles_of_postReadMessageBody hhandler)⟩
          | _ => cases hhandler
      | sendMessage message =>
          exact ⟨[], handles_of_call (connectionStep_sendMessage.mp hstep)⟩
      | completeWrite operation error =>
          exact ⟨[], handles_of_call (connectionStep_completeWrite.mp hstep).2⟩
      | completeWait millisec aborted =>
          have hexpired := (connectionStep_completeWait.mp hstep).2
          rw [completeWait] at hexpired
          have hhandles := handles_of_timerExpired hexpired
          exact ⟨[], hhandles⟩
      | _ =>
          cases hstep
          exact ⟨[], handles_nil.mpr ⟨rfl, rfl⟩⟩

/-- A loss closes the socket and handles nothing. -/
theorem closed_of_loss {object next : Recorded Operation WatchdogConnection}
    {event : SessionEvent} (hloses : event.loses = true)
    (hstep : sessionStep protobuf object event = some next) :
    next.1.base.isConnected = false ∧ Handles protobuf object next [] := by
  cases event with
  | during event =>
      rw [sessionStep] at hstep
      have hcloses : closes event = true := by
        rw [← hloses]
        cases event <;> rfl
      have hclosed : next.1.base.isConnected = false := by
        have hopen := isConnected_of_step hstep
        rwa [hcloses, Bool.not_true, Bool.and_false] at hopen
      refine ⟨hclosed, ?_⟩
      cases event with
      | completeRead operation error =>
          obtain rfl : error = true := hloses
          obtain ⟨-, hcomplete⟩ := connectionStep_completeRead.mp hstep
          obtain ⟨finished, hcall, hhandler⟩ := Outcome.andThen_eq_returned.mp hcomplete
          have hfinished := handles_of_call hcall
          cases operation with
          | readHeader =>
              obtain ⟨connection, -, rfl⟩ := (recorder protobuf).call_eq_returned.mp hhandler
              exact hfinished
          | readBody size =>
              cases hhandler
              exact hfinished
          | _ => cases hhandler
      | completeWrite operation error =>
          exact handles_of_call (connectionStep_completeWrite.mp hstep).2
      | disconnect =>
          cases hstep
          exact handles_nil.mpr ⟨rfl, rfl⟩
      | closeSocket =>
          cases hstep
          exact handles_nil.mpr ⟨rfl, rfl⟩
      | _ => cases hloses
  | _ => cases hloses

end Step

/-! ## Runs -/

section Runs

variable [HeaderLayout Operation] {protobuf : Protobuf}

theorem handles_of_run {object finish : Recorded Operation WatchdogConnection}
    {events : List SessionEvent}
    (hrun : run (sessionStep protobuf) object events = some finish) :
    ∃ handled, Handles protobuf object finish handled := by
  induction events generalizing object with
  | nil =>
      cases hrun
      exact ⟨[], handles_nil.mpr ⟨rfl, rfl⟩⟩
  | cons event events ih =>
      obtain ⟨next, hstep, hrest⟩ := run_cons_eq_some.mp hrun
      obtain ⟨first, hfirst⟩ := exists_handles_of_step hstep
      obtain ⟨second, hsecond⟩ := ih hrest
      exact ⟨first ++ second, hfirst.trans hsecond⟩

/-- In every reachable state the session is `NotConnected` until a connect or
reconnect response with code `Success` and a sequence code has been handled,
and from then on `Connected` with the code of the first one, whatever else is
handled and however often the connection is lost in between.  A loss closes the
socket and leaves the session as it is. -/
theorem session_of_run {sequenceCode : UInt32} {events : List SessionEvent}
    {finish : Recorded Operation WatchdogConnection}
    (hrun : run (sessionStep protobuf) (WatchdogConnection.create sequenceCode, []) events =
      some finish) :
    finish.1.session = enteredBy protobuf (deliveries finish.2) sequenceCode ∧
      ∀ event next, event.loses = true → sessionStep protobuf finish event = some next →
        next.1.base.isConnected = false ∧ next.2 = finish.2 ∧
          next.1.session = finish.1.session := by
  constructor
  · obtain ⟨handled, hlog, hsession⟩ := handles_of_run hrun
    rw [List.nil_append] at hlog
    calc finish.1.session
        = deliverAll protobuf ⟨.notConnected, sequenceCode⟩ (deliveries finish.2) := by
          rw [hlog]
          exact hsession
      _ = enteredBy protobuf (deliveries finish.2) sequenceCode :=
          deliverAll_eq_enteredBy protobuf (deliveries finish.2) sequenceCode
  · intro event next hloses hstep
    obtain ⟨hclosed, hhandles⟩ := closed_of_loss hloses hstep
    exact ⟨hclosed, handles_nil.mp hhandles⟩

end Runs

/-- A protobuf library at two response bodies, with the response code in field 1
and the sequence code in field 2. -/
private def accepting : Protobuf where
  parseConnectResponse body :=
    if body = [8, 0, 16, 7] then some ⟨.success, some 7, none⟩ else none
  parsePingResponse _ := none
  parseReconnectResponse body :=
    if body = [8, 0, 16, 9] then some ⟨.success, some 9, none⟩ else none
  serializeConnectRequest _ := []
  serializePingRequest _ := []
  serializeReconnectRequest _ := []
  serializeShutdownRequest _ := []

/-- A connection that is accepted with code 7 and then fails to read. -/
private def acceptedAndLost : List SessionEvent :=
  [.connect true, .startReading, .during (.arrive [1, 0, 0, 0, 4, 0, 0, 0, 8, 0, 16, 7]),
    .during (.completeRead .readHeader false), .during (.completeRead (.readBody 4) false),
    .during (.completeRead .readHeader true)]

/-- The socket is opened again, and a reconnect response with code 9 arrives. -/
private def reconnected : List SessionEvent :=
  [.connect true, .startReading, .during (.arrive [5, 0, 0, 0, 4, 0, 0, 0, 8, 0, 16, 9]),
    .during (.completeRead .readHeader false), .during (.completeRead (.readBody 4) false)]

theorem session_of_acceptedAndLost :
    letI := Operation.layout
    ∃ finish, run (sessionStep accepting) (WatchdogConnection.create 0, []) acceptedAndLost =
        some finish ∧
      finish.1.session = enteredBy accepting (deliveries finish.2) 0 ∧
      ∀ event next, event.loses = true → sessionStep accepting finish event = some next →
        next.1.base.isConnected = false ∧ next.2 = finish.2 ∧
          next.1.session = finish.1.session := by
  let layout := Operation.layout
  obtain ⟨finish, hrun⟩ : ∃ finish, run (sessionStep accepting)
      (WatchdogConnection.create 0, []) acceptedAndLost = some finish := ⟨_, rfl⟩
  exact ⟨finish, hrun, session_of_run hrun⟩

/-- The session survives the loss of the connection, and the reconnect response
of the next one is ignored. -/
theorem connected_while_closed :
    letI := Operation.layout
    ∃ lost finish,
      run (sessionStep accepting) (WatchdogConnection.create 0, []) acceptedAndLost = some lost ∧
      lost.1.session = ⟨.connected, 7⟩ ∧ lost.1.base.isConnected = false ∧
      run (sessionStep accepting) lost reconnected = some finish ∧
      finish.1.session = ⟨.connected, 7⟩ ∧ finish.1.base.isConnected = true :=
  let _ := Operation.layout
  ⟨_, _, rfl, rfl, rfl, rfl, rfl, rfl⟩

end ProcessManagerService.Watchdog
