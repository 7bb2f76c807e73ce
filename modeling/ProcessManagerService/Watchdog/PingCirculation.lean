import ProcessManagerService.Library.PartialRuns
import ProcessManagerService.Watchdog.PingEffects

/-!
# One ping in circulation

A ping waits for its timer, is queued, travels to the watchdog, and comes back
as a response that starts the timer or sends the next ping.  The service and
the watchdog together never add a second one: what a step takes from one of
these places it puts into at most one other.  The responses go through
`handleResponse`, which resends on a mismatch.

The member functions are the steps.  The reading side is left out: a response
that has been read is handed over in one step, in any order.
-/

namespace ProcessManagerService.Watchdog

open Communication Connection PartialRuns TimerFrame WriteChain WritingFrame
open WatchdogConnection (getWatchdogResponseHandler)

/-- Both parties and what is in flight between them.  `waited` says that
`waitForConnectResponse` has been called, and `frontSent` that the last byte of
the front message has been transferred and the handler of its write has not run
yet.  `requests` are the transferred messages the watchdog has not answered, and
`responses` the messages on their way back. -/
structure Circulation where
  object : WatchdogConnection
  waited : Bool
  frontSent : Bool
  requests : List (Message Operation)
  responses : List (Message Operation)

/-- `answer` and `respond` are the watchdog's: it answers a ping request at most
once and sends no ping response otherwise. -/
inductive CirculationEvent where
  | connect (succeeds : Bool)
  | makeNewSocket
  | disconnect
  | closeSocket
  | sendConnectRequest
  | sendReconnectRequest
  | sendShutdownRequest
  | waitForConnectResponse
  | transfer (operation : AsyncOperation)
  | completeWrite (operation : AsyncOperation) (error : Bool)
  | completeWait (millisec : ℕ) (aborted : Bool)
  | receive (response : Message Operation)
  | answer (request response : Message Operation)
  | respond (response : Message Operation)
  | loseRequest (request : Message Operation)
  | loseResponse (response : Message Operation)

def isPingRequest (message : Message Operation) : Bool :=
  message.header.operationCode = .pingRequest

def isPingResponse (message : Message Operation) : Bool :=
  message.header.operationCode = .pingResponse

/-- The write that ends the front message. -/
def isLastWrite (front : Message Operation) : AsyncOperation → Bool
  | .writeHeader _ => front.body.isEmpty
  | .writeBody _ => true
  | _ => false

namespace Circulation

/-- A service that has been constructed, and nothing in flight. -/
def start (sequenceCode : UInt32) : Circulation :=
  ⟨WatchdogConnection.create sequenceCode, false, false, [], []⟩

/-- The messages of the queue that are not in flight. -/
def queued (system : Circulation) : List (Message Operation) :=
  if system.frontSent then system.object.base.messagesQueue.items.tail
  else system.object.base.messagesQueue.items

/-- Armed timers, queued and in-flight ping requests, in-flight ping responses. -/
def pings (system : Circulation) : ℕ :=
  (waits system.object.base).length + system.queued.countP isPingRequest +
    system.requests.countP isPingRequest + system.responses.countP isPingResponse

/-- A member function of the base class. -/
def update (system : Circulation)
    (member : TcpConnection Operation → TcpConnection Operation) : Circulation :=
  { system with object := { system.object with base := member system.object.base } }

/-- A member function of the class. -/
def call (system : Circulation)
    (member : WatchdogConnection → Outcome ErrorCode WatchdogConnection) :
    Option Circulation :=
  (member system.object).toOption.map fun object => { system with object }

end Circulation

section Step

variable [HeaderLayout Operation] (protobuf : Protobuf) (serviceIdentifier : Int32)

/-- A write of the last bytes of a message completes with an error exactly when
they have not all been transferred. -/
def circulationStep (system : Circulation) : CirculationEvent → Option Circulation
  | .connect succeeds => some (system.update fun connection => (connection.connect succeeds).2)
  | .makeNewSocket => some (system.update TcpConnection.makeNewSocket)
  | .disconnect => some (system.update TcpConnection.disconnect)
  | .closeSocket => some (system.update TcpConnection.closeSocket)
  | .sendConnectRequest => system.call fun object =>
      object.sendConnectRequest protobuf serviceIdentifier
  | .sendReconnectRequest => system.call fun object =>
      object.sendReconnectRequest protobuf serviceIdentifier
  | .sendShutdownRequest => system.call fun object =>
      object.sendShutdownRequest protobuf serviceIdentifier
  | .waitForConnectResponse =>
      if system.waited then none
      else if system.object.session.connectionState = .connected then
        some { system.update fun connection => connection.setTimerExpiration 1000 with
          waited := true }
      else some { system with waited := true }
  | .transfer operation =>
      system.object.base.messagesQueue.front.bind fun front =>
        if operation ∈ system.object.base.pending ∧ isLastWrite front operation ∧
            system.frontSent = false then
          some { system with frontSent := true, requests := system.requests ++ [front] }
        else none
  | .completeWrite operation error =>
      system.object.base.messagesQueue.front.bind fun front =>
        if operation ∈ system.object.base.pending ∧
            (isLastWrite front operation → error = !system.frontSent) then
          (system.object.base.completeWrite operation error).map fun base =>
            { system with object := { system.object with base }, frontSent := false }
        else none
  | .completeWait millisec aborted =>
      if .timerWait millisec aborted ∈ system.object.base.pending then
        (system.update fun connection => { connection with
          pending := connection.pending.erase (.timerWait millisec aborted) }).call
            fun object => object.onTimerExpiration protobuf
      else none
  | .receive response =>
      if response ∈ system.responses then
        { system with responses := system.responses.erase response }.call fun object =>
          object.handleResponse protobuf serviceIdentifier
            (getWatchdogResponseHandler response.header.operationCode) response.body
      else none
  | .answer request response =>
      if request ∈ system.requests ∧ isPingRequest request ∧ isPingResponse response then
        some { system with
          requests := system.requests.erase request
          responses := system.responses ++ [response] }
      else none
  | .respond response =>
      if isPingResponse response then none
      else some { system with responses := system.responses ++ [response] }
  | .loseRequest request => some { system with requests := system.requests.erase request }
  | .loseResponse response =>
      some { system with responses := system.responses.erase response }

end Step

/-! ## The invariant -/

/-- Handling a response gives back at most the ping that it was. -/
theorem handled_pings_le (protobuf : Protobuf) (serviceIdentifier : Int32) (session : Session)
    (response : Message Operation) :
    armedBy protobuf session response +
        (resentBy protobuf serviceIdentifier session
          (raisedBy protobuf session response)).countP isPingRequest ≤
      if isPingResponse response then 1 else 0 := by
  by_cases hoperation : response.header.operationCode = .pingResponse
  · rw [if_pos (by simpa [isPingResponse] using hoperation)]
    rcases ping_response_cases protobuf session hoperation with
      ⟨-, harmed, hraised⟩ | ⟨-, harmed, hraised⟩ | ⟨-, harmed, hraised⟩
    · rw [harmed, hraised]
      exact Nat.le_refl 1
    · rw [harmed, hraised]
      exact Nat.le_refl 1
    · rw [harmed, hraised]
      exact Nat.zero_le 1
  · obtain ⟨harmed, hraised⟩ := ping_free_of_operation protobuf session hoperation
    have hnone : (resentBy protobuf serviceIdentifier session
        (raisedBy protobuf session response)).countP isPingRequest = 0 := by
      rw [List.countP_eq_zero]
      intro message hmem hping
      exact hraised (raised_of_mem_resentBy protobuf session hmem
        (by simpa [isPingRequest] using hping)).1
    rw [harmed, hnone]
    exact Nat.zero_le _

/-- The last write of the front message is outstanding. -/
def FrontWriting (connection : TcpConnection Operation) : Prop :=
  ∃ front rest operation, connection.messagesQueue.items = front :: rest ∧
    outstandingWrites connection = [operation] ∧ isLastWrite front operation = true

variable [HeaderLayout Operation]

/-- The writer is in one of its phases, only an unfinished write hides the front
message, and no ping circulates before the first timer. -/
structure Balanced (system : Circulation) : Prop where
  inPhase : ∃ phase, InPhase system.object.base phase
  frontSent : system.frontSent = true → FrontWriting system.object.base
  pings : system.pings ≤ if system.waited then 1 else 0

theorem balanced_start (sequenceCode : UInt32) : Balanced (Circulation.start sequenceCode) where
  inPhase := ⟨.idle, .idle rfl rfl⟩
  frontSent hsent := by cases hsent
  pings := Nat.le_refl 0

section Steps

variable {system next : Circulation} {messages : List (Message Operation)}

/-- Queueing keeps the front message and its write where they are. -/
theorem FrontWriting.queues {connection after : TcpConnection Operation}
    {phase : WritePhase Operation} (hwriting : FrontWriting connection)
    (hphase : InPhase connection phase) (hqueues : Queues connection after messages) :
    FrontWriting after := by
  obtain ⟨front, rest, operation, hitems, hwrites, hlast⟩ := hwriting
  refine ⟨front, rest ++ messages, operation, ?_, ?_, hlast⟩
  · rw [hqueues.items, hitems, List.cons_append]
  · rw [hqueues.writes phase hphase (by rw [hwrites]; simp), hwrites]

theorem Balanced.queued_of_queues (hbalanced : Balanced system)
    (hqueues : Queues system.object.base next.object.base messages)
    (hsent : next.frontSent = system.frontSent) : next.queued = system.queued ++ messages := by
  rw [Circulation.queued, Circulation.queued, hsent, hqueues.items]
  split
  next hfront =>
    obtain ⟨front, rest, operation, hitems, -⟩ := hbalanced.frontSent hfront
    rw [hitems]
    rfl
  next hfront => rfl

/-- The rule for every member function but the completion of a write: it keeps
the invariant when the pings afterwards stay within the bound. -/
theorem Balanced.of_queues (hbalanced : Balanced system)
    (hqueues : Queues system.object.base next.object.base messages)
    (hsent : next.frontSent = system.frontSent)
    (hpings : (waits next.object.base).length +
        (system.queued ++ messages).countP isPingRequest +
        next.requests.countP isPingRequest + next.responses.countP isPingResponse ≤
      if next.waited then 1 else 0) : Balanced next := by
  obtain ⟨phase, hphase⟩ := hbalanced.inPhase
  refine ⟨hqueues.inPhase phase hphase, ?_, ?_⟩
  · intro hfront
    exact (hbalanced.frontSent (hsent ▸ hfront)).queues hphase hqueues
  · rw [Circulation.pings, hbalanced.queued_of_queues hqueues hsent]
    exact hpings

/-- In particular when the places together gain no ping. -/
theorem Balanced.queues (hbalanced : Balanced system)
    (hqueues : Queues system.object.base next.object.base messages)
    (hsent : next.frontSent = system.frontSent)
    (hwaited : next.waited = system.waited)
    (hpings : (waits next.object.base).length + messages.countP isPingRequest +
        next.requests.countP isPingRequest + next.responses.countP isPingResponse ≤
      (waits system.object.base).length + system.requests.countP isPingRequest +
        system.responses.countP isPingResponse) : Balanced next := by
  apply hbalanced.of_queues hqueues hsent
  have hbefore := hbalanced.pings
  rw [Circulation.pings] at hbefore
  rw [hwaited, List.countP_append]
  omega

/-- A member function that concerns neither the writer nor the timer. -/
theorem Balanced.update {member : TcpConnection Operation → TcpConnection Operation}
    (hbalanced : Balanced system)
    (hqueues : Queues system.object.base (member system.object.base) [])
    (hsilent : Silent system.object.base (member system.object.base)) :
    Balanced (system.update member) := by
  refine hbalanced.queues hqueues rfl rfl ?_
  rw [Circulation.update, hsilent.waits]
  exact Nat.le_refl _

/-- A request that is no ping. -/
theorem Balanced.send {message : Message Operation} (hbalanced : Balanced system)
    (hoperation : message.header.operationCode ≠ .pingRequest)
    (hcall : system.call (fun object => object.send message) = some next) :
    Balanced next := by
  obtain ⟨object, hsent, rfl⟩ := Option.map_eq_some_iff.mp hcall
  obtain ⟨-, hqueues, hwaits⟩ := send_effect (Outcome.toOption_eq_some.mp hsent)
  refine hbalanced.queues hqueues rfl rfl ?_
  rw [hwaits, List.countP_singleton, if_neg (by simpa [isPingRequest] using hoperation)]
  exact Nat.le_refl _

variable {protobuf : Protobuf} {serviceIdentifier : Int32}

/-- The first timer finds no ping anywhere. -/
theorem Balanced.waitForConnectResponse (hbalanced : Balanced system)
    (hstep : circulationStep protobuf serviceIdentifier system .waitForConnectResponse =
      some next) : Balanced next := by
  simp only [circulationStep, Option.ite_none_left_eq_some, Bool.not_eq_true] at hstep
  obtain ⟨hwaited, hstep⟩ := hstep
  have hnone := hbalanced.pings
  rw [hwaited, if_neg Bool.false_ne_true] at hnone
  split at hstep
  · cases hstep
    have hqueues : Queues system.object.base
        (system.object.base.setTimerExpiration 1000) [] :=
      queues_of_writingSide (writingSide_setTimerExpiration system.object.base 1000)
    have hwaits : (waits (system.object.base.setTimerExpiration 1000)).length =
        (waits system.object.base).length + 1 := by
      rw [waits_setTimerExpiration, List.length_append, List.length_map, List.length_singleton]
    refine hbalanced.of_queues hqueues rfl ?_
    rw [Circulation.pings] at hnone
    rw [List.append_nil]
    change (waits (system.object.base.setTimerExpiration 1000)).length +
      system.queued.countP isPingRequest + system.requests.countP isPingRequest +
      system.responses.countP isPingResponse ≤ 1
    rw [hwaits]
    omega
  · cases hstep
    exact ⟨hbalanced.inPhase, hbalanced.frontSent, hnone.trans (Nat.zero_le 1)⟩

/-- An expired timer becomes a queued ping. -/
theorem Balanced.completeWait {millisec : ℕ} {aborted : Bool} (hbalanced : Balanced system)
    (hstep : circulationStep protobuf serviceIdentifier system
      (.completeWait millisec aborted) = some next) : Balanced next := by
  simp only [circulationStep, Option.ite_none_right_eq_some] at hstep
  obtain ⟨hmem, hcall⟩ := hstep
  obtain ⟨object, hsent, rfl⟩ := Option.map_eq_some_iff.mp hcall
  obtain ⟨-, hqueues, hwaits⟩ := send_effect (Outcome.toOption_eq_some.mp hsent)
  have htaken : Queues system.object.base { system.object.base with
      pending := system.object.base.pending.erase (.timerWait millisec aborted) } [] :=
    queues_of_writingSide (writingSide_taken rfl system.object.base _)
  refine hbalanced.queues (htaken.trans hqueues) rfl rfl ?_
  have hwait : (waits object.base).length + 1 = (waits system.object.base).length := by
    rw [hwaits, waits, waits]
    change ((system.object.base.pending.erase (.timerWait millisec aborted)).filter
      isWait).length + 1 = _
    rw [← List.erase_filter]
    exact List.length_erase_add_one (List.mem_filter.mpr ⟨hmem, rfl⟩)
  change (waits object.base).length + 1 + _ + _ ≤ _
  rw [hwait]
  exact Nat.le_refl _

/-- A handled response has left the way back. -/
theorem Balanced.receive {response : Message Operation} (hbalanced : Balanced system)
    (hstep : circulationStep protobuf serviceIdentifier system (.receive response) =
      some next) : Balanced next := by
  simp only [circulationStep, Option.ite_none_right_eq_some] at hstep
  obtain ⟨hmem, hcall⟩ := hstep
  obtain ⟨object, hhandled, rfl⟩ := Option.map_eq_some_iff.mp hcall
  obtain ⟨-, hqueues, hwaits⟩ := handleResponse_effect (Outcome.toOption_eq_some.mp hhandled)
  refine hbalanced.queues hqueues rfl rfl ?_
  have hgained := handled_pings_le protobuf serviceIdentifier system.object.session response
  have htaken := (List.perm_cons_erase hmem).countP_eq isPingResponse
  rw [List.countP_cons] at htaken
  change (waits object.base).length + _ + system.requests.countP isPingRequest +
    (system.responses.erase response).countP isPingResponse ≤ _
  rw [hwaits]
  change (waits system.object.base).length + armedBy protobuf system.object.session response +
    (resentBy protobuf serviceIdentifier system.object.session
      (raisedBy protobuf system.object.session response)).countP isPingRequest + _ + _ ≤ _
  omega

/-- A transferred ping request is in flight and no longer queued. -/
theorem Balanced.transfer {operation : AsyncOperation} (hbalanced : Balanced system)
    (hstep : circulationStep protobuf serviceIdentifier system (.transfer operation) =
      some next) : Balanced next := by
  obtain ⟨front, hfront, hstep⟩ := Option.bind_eq_some_iff.mp hstep
  rw [Option.ite_none_right_eq_some] at hstep
  obtain ⟨⟨hmem, hlast, hsent⟩, hstep⟩ := hstep
  cases hstep
  obtain ⟨phase, hphase⟩ := hbalanced.inPhase
  obtain ⟨rest, hitems⟩ := MessageQueue.items_of_front hfront
  have hwrite : operation ∈ outstandingWrites system.object.base := by
    refine List.mem_filter.mpr ⟨hmem, ?_⟩
    cases operation with
    | writeHeader buffer => rfl
    | writeBody buffer => rfl
    | _ => cases hlast
  refine ⟨⟨phase, hphase⟩, fun _ => ⟨front, rest, operation, hitems,
    hphase.outstandingWrites_eq hwrite, hlast⟩, ?_⟩
  have hbefore := hbalanced.pings
  simp only [Circulation.pings, Circulation.queued, hsent, hitems, Bool.false_eq_true, if_false,
    if_true, List.tail_cons, List.countP_cons, List.countP_append, List.countP_nil]
    at hbefore ⊢
  omega

/-- What the handler of a write finds: the front message has been transferred
exactly when its last write has succeeded. -/
theorem Balanced.frontSent_eq {front : Message Operation} {operation : AsyncOperation}
    {error : Bool} (hbalanced : Balanced system)
    (hfront : system.object.base.messagesQueue.front = some front)
    (hmem : operation ∈ outstandingWrites system.object.base)
    (hlast : isLastWrite front operation = true → error = !system.frontSent) :
    system.frontSent = (isLastWrite front operation && !error) := by
  cases hwhich : isLastWrite front operation with
  | true => simp [hlast hwhich]
  | false =>
      rw [Bool.false_and]
      by_contra hsent
      obtain ⟨phase, hphase⟩ := hbalanced.inPhase
      obtain ⟨other, rest, write, hitems, hwrites, hfinal⟩ :=
        hbalanced.frontSent (Bool.not_eq_false _ ▸ hsent)
      rw [MessageQueue.front_of_items hitems, Option.some.injEq] at hfront
      rw [hwrites, List.mem_singleton] at hmem
      rw [← hfront, hmem, hfinal] at hwhich
      cases hwhich

/-- What the handler of a write leaves in the queue. -/
theorem items_of_written {base : TcpConnection Operation} {phase after : WritePhase Operation}
    {front : Message Operation} {operation : AsyncOperation} {error : Bool}
    (hphase : InPhase system.object.base phase)
    (hmove : WriterMove system.object.base phase (.completeWrite operation error) base after)
    (hfront : system.object.base.messagesQueue.front = some front)
    (hsent : system.frontSent = (isLastWrite front operation && !error)) :
    base.messagesQueue.items = system.queued := by
  obtain ⟨rest, hitems⟩ := MessageQueue.items_of_front hfront
  rw [Circulation.queued, hsent, hitems]
  cases hmove with
  | failed => simp [hitems]
  | headerWritten other rest hbody =>
      cases hphase with
      | header _ _ hsending hother hwrites =>
          rw [hitems, List.cons.injEq] at hother
          simp [isLastWrite, hother.1, hother.2, hbody, hitems]
  | stalledByEmpty other hbody =>
      cases hphase with
      | header _ _ hsending hother hwrites =>
          rw [hitems, List.cons.injEq] at hother
          simp [isLastWrite, hother.1, hother.2, hbody, afterPop]
  | emptyWritten other following rest hbody =>
      cases hphase with
      | header _ _ hsending hother hwrites =>
          rw [hitems, List.cons.injEq] at hother
          simp [isLastWrite, hother.1, hother.2, hbody, afterPop]
  | lastWritten other =>
      cases hphase with
      | body _ _ hsending hother hbody hwrites =>
          rw [hitems, List.cons.injEq] at hother
          simp [isLastWrite, hother.2, afterPop]
  | bodyWritten other following rest =>
      cases hphase with
      | body _ _ hsending hother hbody hwrites =>
          rw [hitems, List.cons.injEq] at hother
          simp [isLastWrite, hother.2, afterPop]

/-- The handler of a write leaves the pings where they are: it pops the front
message exactly when that has been transferred. -/
theorem Balanced.completeWrite {operation : AsyncOperation} {error : Bool}
    (hbalanced : Balanced system)
    (hstep : circulationStep protobuf serviceIdentifier system
      (.completeWrite operation error) = some next) : Balanced next := by
  obtain ⟨front, hfront, hstep⟩ := Option.bind_eq_some_iff.mp hstep
  rw [Option.ite_none_right_eq_some] at hstep
  obtain ⟨⟨hmem, hlast⟩, hstep⟩ := hstep
  obtain ⟨base, hcomplete, rfl⟩ := Option.map_eq_some_iff.mp hstep
  obtain ⟨phase, hphase⟩ := hbalanced.inPhase
  obtain ⟨after, hmove⟩ : ∃ after, WriterMove system.object.base phase
      (.completeWrite operation error) base after :=
    hphase.move ((if_pos hmem).trans hcomplete)
  have hwrite : operation ∈ outstandingWrites system.object.base :=
    List.mem_filter.mpr ⟨hmem, (TcpConnection.handled_of_completeWrite hcomplete).1⟩
  have hsent := hbalanced.frontSent_eq hfront hwrite hlast
  have hqueued : base.messagesQueue.items = system.queued :=
    items_of_written hphase hmove hfront hsent
  refine ⟨⟨after, hmove.inPhase hphase⟩, fun hnever => Bool.noConfusion hnever, ?_⟩
  have hbefore := hbalanced.pings
  rw [Circulation.pings, ← hqueued, ← (silent_of_completeWrite hcomplete).waits] at hbefore
  exact hbefore

/-- A step of the watchdog or the network, which only moves messages in flight. -/
theorem Balanced.inFlight {requests responses : List (Message Operation)}
    (hbalanced : Balanced system)
    (hpings : requests.countP isPingRequest + responses.countP isPingResponse ≤
      system.requests.countP isPingRequest + system.responses.countP isPingResponse) :
    Balanced { system with requests, responses } := by
  have hsame : Queues system.object.base system.object.base [] := queues_nil rfl rfl rfl
  refine hbalanced.queues hsame rfl rfl ?_
  change (waits system.object.base).length + 0 + requests.countP isPingRequest +
    responses.countP isPingResponse ≤ _
  omega

/-- Every step keeps the invariant. -/
theorem Balanced.step {event : CirculationEvent} (hbalanced : Balanced system)
    (hstep : circulationStep protobuf serviceIdentifier system event = some next) :
    Balanced next := by
  cases event with
  | connect succeeds =>
      cases hstep
      refine hbalanced.update (queues_nil ?_ ?_ ?_) (silent_connect _ succeeds)
      · cases succeeds <;> rfl
      · cases succeeds <;> rfl
      · cases succeeds <;> rfl
  | makeNewSocket =>
      cases hstep
      exact hbalanced.update (queues_nil rfl rfl rfl) ⟨rfl, rfl⟩
  | disconnect =>
      cases hstep
      exact hbalanced.update (queues_of_writingSide (writingSide_disconnect _))
        (silent_disconnect _)
  | closeSocket =>
      cases hstep
      exact hbalanced.update (queues_of_writingSide (writingSide_closeSocket _))
        (silent_closeSocket _)
  | sendConnectRequest => exact hbalanced.send (by simp [WatchdogConnection.request]) hstep
  | sendReconnectRequest => exact hbalanced.send (by simp [WatchdogConnection.request]) hstep
  | sendShutdownRequest => exact hbalanced.send (by simp [WatchdogConnection.request]) hstep
  | waitForConnectResponse => exact hbalanced.waitForConnectResponse hstep
  | transfer operation => exact hbalanced.transfer hstep
  | completeWrite operation error => exact hbalanced.completeWrite hstep
  | completeWait millisec aborted => exact hbalanced.completeWait hstep
  | receive response => exact hbalanced.receive hstep
  | answer request response =>
      simp only [circulationStep, Option.ite_none_right_eq_some] at hstep
      obtain ⟨⟨hmem, hrequest, hresponse⟩, hstep⟩ := hstep
      cases hstep
      apply hbalanced.inFlight
      have htaken := (List.perm_cons_erase hmem).countP_eq isPingRequest
      rw [List.countP_cons, if_pos hrequest] at htaken
      rw [List.countP_append, List.countP_singleton, if_pos hresponse]
      omega
  | respond response =>
      simp only [circulationStep, Option.ite_none_left_eq_some] at hstep
      obtain ⟨hother, hstep⟩ := hstep
      cases hstep
      apply hbalanced.inFlight
      rw [List.countP_append, List.countP_singleton, if_neg hother]
      exact Nat.le_refl _
  | loseRequest request =>
      cases hstep
      apply hbalanced.inFlight
      exact Nat.add_le_add_right List.erase_sublist.countP_le _
  | loseResponse response =>
      cases hstep
      apply hbalanced.inFlight
      exact Nat.add_le_add_left List.erase_sublist.countP_le _

end Steps

/-- In every state of every run, from the constructor on and with the one timer
that `waitForConnectResponse` arms, the armed timers, the queued and in-flight
ping requests and the in-flight ping responses are at most one together: none
before that call, and at most one after it. -/
theorem one_ping {protobuf : Protobuf} {serviceIdentifier : Int32} (sequenceCode : UInt32)
    (events : List CirculationEvent) :
    EveryState (circulationStep protobuf serviceIdentifier)
      (fun system => system.pings ≤ 1 ∧ (system.waited = false → system.pings = 0))
      (Circulation.start sequenceCode) events := by
  have hkeep : ∀ (system : Circulation) event next, Balanced system →
      circulationStep protobuf serviceIdentifier system event = some next → Balanced next :=
    fun _ _ _ hbalanced hstep => hbalanced.step hstep
  apply (everyState_of_step hkeep (balanced_start sequenceCode) events).mono
  intro system hbalanced
  have hpings := hbalanced.pings
  cases hwaited : system.waited with
  | false =>
      rw [hwaited, if_neg Bool.false_ne_true] at hpings
      exact ⟨hpings.trans (Nat.zero_le 1), fun _ => Nat.eq_zero_of_le_zero hpings⟩
  | true =>
      rw [hwaited, if_pos rfl] at hpings
      exact ⟨hpings, fun hnever => Bool.noConfusion hnever⟩

/-- A ping of session 7 that travels to the watchdog, is answered with code 5,
and is sent again. -/
private def roundTrip : List CirculationEvent :=
  [.connect true, .respond ⟨⟨.connectResponse, 4⟩, [8, 0, 16, 7]⟩,
    .receive ⟨⟨.connectResponse, 4⟩, [8, 0, 16, 7]⟩, .waitForConnectResponse,
    .completeWait 1000 false, .completeWrite (.writeHeader [2, 0, 0, 0, 2, 0, 0, 0]) false,
    .transfer (.writeBody [8, 7]),
    .answer ⟨⟨.pingRequest, 2⟩, [8, 7]⟩ ⟨⟨.pingResponse, 2⟩, [8, 5]⟩,
    .completeWrite (.writeBody [8, 7]) false, .receive ⟨⟨.pingResponse, 2⟩, [8, 5]⟩]

private def mismatching : Protobuf where
  parseConnectResponse _ := some ⟨.success, some 7, none⟩
  parsePingResponse _ := some ⟨5⟩
  parseReconnectResponse _ := none
  serializeConnectRequest _ := []
  serializePingRequest code := [8, UInt8.ofNat code.toNat]
  serializeReconnectRequest _ := []
  serializeShutdownRequest _ := []

example :
    letI := Operation.layout
    (run (circulationStep mismatching 3) (Circulation.start 0) roundTrip).map
      (fun system => (system.queued, system.pings)) =
        some ([pingOf mismatching ⟨.connected, 7⟩], 1) := by
  decide

end ProcessManagerService.Watchdog
