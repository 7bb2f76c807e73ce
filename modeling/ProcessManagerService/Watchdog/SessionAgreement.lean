import ProcessManagerService.Connection.TwoEnds
import ProcessManagerService.Watchdog.SessionRuns

/-!
# The session and the server

The sequence code of a session comes from the server.  With both ends of the
connection in one system, the session is at any time what the response handlers
make of a beginning of the server's messages, so that a connected client has the
sequence code of the first success that the server has sent, whatever the
network and the failures in between.
-/

namespace ProcessManagerService.Watchdog

open Communication Connection PartialRuns ReadLoop Relay StreamDecoding TwoEnds WriteChain
open WatchdogConnection (delivery request)

/-! ## The client as a class that sends -/

section Client

variable [HeaderLayout Operation] {protobuf : Protobuf}

/-- The effects of a response handler on the connection: it may set the timer. -/
theorem commanded_performAll (object : WatchdogConnection) (actions : List Action) :
    Commanded object.base (object.performAll actions).base := by
  induction actions generalizing object with
  | nil => exact commanded_nil object.base
  | cons action actions ih =>
      have hfirst : Commanded object.base (object.perform action).base := by
        cases action with
        | pingTimerSet => exact ⟨[.setTimerExpiration 3000], by simp [Command.Framed], rfl⟩
        | _ => exact commanded_nil object.base
      exact hfirst.trans (ih (object.perform action))

/-- A watchdog connection sends ping requests of its own accord, and nothing
else. -/
theorem relays_derived
    (hping : ∀ code, Framable (request .pingRequest (protobuf.serializePingRequest code))) :
    Relays (WatchdogConnection.derived protobuf) where
  handleReceivedMessage object message next hreturned := by
    have hhandled : object.handleReceivedMessage protobuf message = .returned next := hreturned
    cases message with
    | none =>
        cases hhandled
        exact commanded_nil object.base
    | some message =>
        rw [WatchdogConnection.handleReceivedMessage] at hhandled
        split at hhandled
        next handler hhandler =>
          obtain ⟨-, rfl⟩ := WatchdogConnection.react_eq_returned.mp hhandled
          exact commanded_performAll object _
        next hhandler =>
          cases hhandled
          exact commanded_nil object.base
  onTimerExpiration object next hreturned := by
    obtain ⟨base, hsend, rfl⟩ := Option.map_eq_some_iff.mp
      (Outcome.ofOption_eq_returned.mp hreturned)
    have hrun : run commandStep object.base [.sendMessage (request .pingRequest
        (protobuf.serializePingRequest object.session.sequenceCode))] = some base := by
      rw [run_cons, commandStep, hsend]
      rfl
    refine ⟨_, ?_, hrun⟩
    intro command hmem
    rw [List.mem_singleton.mp hmem]
    exact hping object.session.sequenceCode

/-- Along any run of the connection the session is what the handlers make of
the messages that were handled. -/
theorem session_of_handled {object : WatchdogConnection}
    {finish : Recorded Operation WatchdogConnection}
    {events : List (ConnectionEvent Operation)} {sequenceCode : UInt32}
    (hsession : object.session = ⟨.notConnected, sequenceCode⟩)
    (hrun : run (connectionStep (recorder protobuf)) (object, []) events = some finish) :
    finish.1.session = enteredBy protobuf (deliveries finish.2) sequenceCode := by
  have hsame : run (sessionStep protobuf) (object, []) (events.map .during) = some finish :=
    List.foldlM_map.trans hrun
  obtain ⟨handled, hlog, hhandled⟩ := handles_of_run hsame
  rw [hhandled, hsession, deliverAll_eq_enteredBy, hlog, List.nil_append]

end Client

/-! ## The client and its server -/

section Peers

variable {Server ServerError : Type}

/-- The client is the left end, its server the right one. -/
def PeerObject (Server : Type) : Side → Type
  | .left => WatchdogConnection
  | .right => Server

def PeerError (ServerError : Type) : Side → Type
  | .left => ErrorCode
  | .right => ServerError

/-- A new client and a server, both connected. -/
def peerStart (sequenceCode : UInt32) (start : Server) : ∀ side, PeerObject Server side
  | .left => (⟨connected Operation, ⟨.notConnected, sequenceCode⟩⟩ : WatchdogConnection)
  | .right => start

def client (pair : Pair Operation (PeerObject Server)) : WatchdogConnection :=
  (pair.object .left).1

section Definitions

variable [HeaderLayout Operation] (protobuf : Protobuf)
  (server : DerivedConnection Operation Server ServerError)

def peers : ∀ side,
    DerivedConnection Operation (PeerObject Server side) (PeerError ServerError side)
  | .left => WatchdogConnection.derived protobuf
  | .right => server

/-- The responses that the server has queued so far. -/
def responses (pair : Pair Operation (PeerObject Server)) : List Delivery :=
  (pair.queued (peers protobuf server) .right).filterMap delivery

/-- The session is explained by a beginning of the responses, and its code is
that of the first success among all of them. -/
structure SessionAgrees (sequenceCode : UInt32) (pair : Pair Operation (PeerObject Server)) :
    Prop where
  session : ∃ handled, handled <+: responses protobuf server pair ∧
    (client pair).session = enteredBy protobuf handled sequenceCode
  code : ∀ code, (client pair).session = ⟨.connected, code⟩ →
    (responses protobuf server pair).findSome? (Delivery.accepted protobuf) = some code

end Definitions

/-- The code that a beginning of the responses has entered is the code of all of
them. -/
theorem findSome_of_enteredBy {protobuf : Protobuf} {handled all : List Delivery}
    {sequenceCode code : UInt32} (hbeginning : handled <+: all)
    (hentered : enteredBy protobuf handled sequenceCode = ⟨.connected, code⟩) :
    all.findSome? (Delivery.accepted protobuf) = some code := by
  obtain ⟨rest, rfl⟩ := hbeginning
  rw [List.findSome?_append]
  rw [enteredBy] at hentered
  cases hfirst : handled.findSome? (Delivery.accepted protobuf) with
  | none =>
      rw [hfirst] at hentered
      cases hentered
  | some first =>
      rw [hfirst] at hentered
      obtain rfl : first = code := congrArg Session.sequenceCode hentered
      rfl

variable [HeaderLayout Operation] {protobuf : Protobuf}
  {server : DerivedConnection Operation Server ServerError} {start : Server}

/-- In every run of a watchdog connection and its server, with any failures at
either end, where the server sends framable messages and the serialised pings
are framable: the session is what the response handlers make of a beginning of
the responses that the server has queued, and a connected client has the
sequence code of the first success among them. -/
theorem sessionAgrees_of_run {sequenceCode : UInt32}
    (hping : ∀ code, Framable (request .pingRequest (protobuf.serializePingRequest code)))
    (hserver : Relays server) (hstart : server.base start = connected Operation)
    {events : List (PairEvent Operation)} (hframed : ∀ event ∈ events, event.Meets Framed) :
    EveryState (pairStep (peers protobuf server))
      (SessionAgrees protobuf server sequenceCode)
      (Pair.connected (peers protobuf server) (peerStart sequenceCode start)) events := by
  have hrelays : ∀ side, Relays (peers protobuf server side)
    | .left => relays_derived hping
    | .right => hserver
  have hconnected : ∀ side, ((peers protobuf server) side).base
      (peerStart sequenceCode start side) = connected Operation
    | .left => rfl
    | .right => hstart
  apply (conveys_of_framed hrelays hconnected hframed).mono
  intro pair hpair
  obtain ⟨before, hseen⟩ := hpair.seen .left
  have hlog : (pair.object .left).2 <+:
      (pair.queued (peers protobuf server) .right).map some :=
    log_isPrefix_of_run (hconnected .left) (hpair.streaming .right).framable
      (hseen.arrived.trans (hpair.stream_isPrefix .left)) hseen.run
  have hhandled : deliveries (pair.object .left).2 <+: responses protobuf server pair := by
    have hresponses : deliveries ((pair.queued (peers protobuf server) .right).map some) =
        responses protobuf server pair := List.filterMap_map
    rw [← hresponses]
    exact hlog.filterMap _
  have hrun : run (connectionStep (recorder protobuf))
      (⟨(connected Operation).startReading, ⟨.notConnected, sequenceCode⟩⟩, []) before =
        some (pair.object .left) := hseen.run
  have hsession : (client pair).session =
      enteredBy protobuf (deliveries (pair.object .left).2) sequenceCode :=
    session_of_handled rfl hrun
  refine ⟨⟨_, hhandled, hsession⟩, ?_⟩
  intro code hcode
  exact findSome_of_enteredBy hhandled (hsession.symm.trans hcode)

end Peers

/-- A protobuf library at one response body, with the sequence code in its
second field. -/
private def succeeding : Protobuf where
  parseConnectResponse body := if body = [8, 0, 16, 7] then some ⟨.success, some 7, none⟩ else none
  parsePingResponse _ := none
  parseReconnectResponse _ := none
  serializeConnectRequest _ := [8, 1]
  serializePingRequest _ := [8, 1]
  serializeReconnectRequest _ := [8, 1]
  serializeShutdownRequest _ := [8, 1]

/-- The server accepts the client and then fails to read. -/
private def acceptedByServer : List (PairEvent Operation) :=
  [.occur .right (.sendMessage (request .connectResponse [8, 0, 16, 7])), .carry .left 8,
    .occur .left (.completeRead .readHeader false),
    .occur .right (.completeWrite (.writeHeader [1, 0, 0, 0, 4, 0, 0, 0]) false),
    .occur .right (.completeRead .readHeader true), .carry .left 4,
    .occur .left (.completeRead (.readBody 4) false)]

theorem sessionAgrees_acceptedByServer :
    letI := Operation.layout
    ∃ finish, run (pairStep (peers succeeding (.inert Operation)))
        (Pair.connected (peers succeeding (.inert Operation))
          (peerStart 0 (connected Operation))) acceptedByServer = some finish ∧
      (client finish).session = ⟨.connected, 7⟩ ∧
      EveryState (pairStep (peers succeeding (.inert Operation)))
        (SessionAgrees succeeding (.inert Operation) 0)
        (Pair.connected (peers succeeding (.inert Operation))
          (peerStart 0 (connected Operation))) acceptedByServer := by
  let layout := Operation.layout
  have hping : ∀ code, Framable
      (request .pingRequest (succeeding.serializePingRequest code)) :=
    fun _ => ⟨rfl, by simp [request, succeeding]⟩
  refine ⟨_, rfl, rfl, ?_⟩
  apply sessionAgrees_of_run hping relays_inert rfl
  intro event hmem
  simp only [acceptedByServer, List.mem_cons, List.not_mem_nil, or_false] at hmem
  rcases hmem with rfl | rfl | rfl | rfl | rfl | rfl | rfl
  · exact ⟨rfl, by simp [request]⟩
  all_goals trivial

end ProcessManagerService.Watchdog
