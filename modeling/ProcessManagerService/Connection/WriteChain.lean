import ProcessManagerService.Connection.TcpConnection
import ProcessManagerService.Library.PartialRuns

/-!
# The write chain

With every member function of `TcpConnection` as one step, the writer is in one
of four phases: idle, a header on its way, a body on its way, or stalled with
the sending flag set and nothing on its way.  The phase ties the flag, the
front of the queue and the outstanding writes together, and every step is one
of a short list of moves between phases.
-/

namespace ProcessManagerService.WriteChain

open Communication Connection FrameStream PartialRuns

variable {T : Type*}

/-- The steps of the writer: a call of `sendMessage`, the completion of an
outstanding write, and a `disconnect` from elsewhere. -/
inductive WriterEvent (T : Type*) where
  | sendMessage (message : Message T)
  | completeWrite (operation : AsyncOperation) (error : Bool)
  | disconnect

def writerStep [HeaderLayout T] (connection : TcpConnection T) :
    WriterEvent T → Option (TcpConnection T)
  | .sendMessage message => connection.sendMessage message
  | .completeWrite operation error =>
      if operation ∈ connection.pending then connection.completeWrite operation error
      else none
  | .disconnect => some connection.disconnect

/-- A new object after its first successful `connect`. -/
def connected (T : Type*) : TcpConnection T := (TcpConnection.create.connect true).2

/-- The header and body writes whose completion handler has not run. -/
def outstandingWrites (connection : TcpConnection T) : List AsyncOperation :=
  connection.pending.filter AsyncOperation.isWrite

def WriteOutstanding (connection : TcpConnection T) : Prop :=
  outstandingWrites connection ≠ []

inductive WritePhase (T : Type*) where
  | idle
  | stalled
  | header (front : Message T) (rest : List (Message T))
  | body (front : Message T) (rest : List (Message T))

namespace WritePhase

variable [HeaderLayout T]

/-- The part of the front message that has been handed to the socket. -/
def handed : WritePhase T → List Byte
  | idle => []
  | stalled => []
  | header front _ => HeaderLayout.encode front.header
  | body front _ => front.encode

/-- The part of the front message whose write has completed. -/
def transferred : WritePhase T → List Byte
  | body front _ => HeaderLayout.encode front.header
  | _ => []

omit [HeaderLayout T] in
/-- The phase once one more message is queued behind the front. -/
def queue (message : Message T) : WritePhase T → WritePhase T
  | idle => idle
  | stalled => stalled
  | header front rest => header front (rest ++ [message])
  | body front rest => body front (rest ++ [message])

@[simp]
theorem handed_queue (phase : WritePhase T) (message : Message T) :
    (phase.queue message).handed = phase.handed := by
  cases phase <;> rfl

@[simp]
theorem transferred_queue (phase : WritePhase T) (message : Message T) :
    (phase.queue message).transferred = phase.transferred := by
  cases phase <;> rfl

end WritePhase

/-- The phase a connection is in, read off the flag, the queue and the
outstanding writes. -/
inductive InPhase [HeaderLayout T] (connection : TcpConnection T) : WritePhase T → Prop where
  | idle (hsending : connection.sendingInProgress = false)
      (hwrites : outstandingWrites connection = []) : InPhase connection .idle
  | stalled (hsending : connection.sendingInProgress = true)
      (hwrites : outstandingWrites connection = []) : InPhase connection .stalled
  | header (front : Message T) (rest : List (Message T))
      (hsending : connection.sendingInProgress = true)
      (hitems : connection.messagesQueue.items = front :: rest)
      (hwrites : outstandingWrites connection =
        [.writeHeader (HeaderLayout.encode front.header)]) :
      InPhase connection (.header front rest)
  | body (front : Message T) (rest : List (Message T))
      (hsending : connection.sendingInProgress = true)
      (hitems : connection.messagesQueue.items = front :: rest)
      (hbody : front.body ≠ [])
      (hwrites : outstandingWrites connection = [.writeBody front.body]) :
      InPhase connection (.body front rest)

/-! ## Frame lemmas of the member functions -/

@[simp]
theorem outstandingWrites_asyncWrite (connection : TcpConnection T)
    (operation : AsyncOperation) :
    outstandingWrites (connection.asyncWrite operation) =
      outstandingWrites connection ++ [operation].filter AsyncOperation.isWrite := by
  simp [outstandingWrites, TcpConnection.asyncWrite]

@[simp]
theorem messagesQueue_asyncWrite (connection : TcpConnection T) (operation : AsyncOperation) :
    (connection.asyncWrite operation).messagesQueue = connection.messagesQueue := rfl

@[simp]
theorem socket_asyncWrite_of_open {connection : TcpConnection T}
    (operation : AsyncOperation) (hopen : connection.socket.isOpen = true) :
    (connection.asyncWrite operation).socket =
      { connection.socket with
        handed := connection.socket.handed ++ operation.buffer } := by
  simp [TcpConnection.asyncWrite, hopen]

@[simp]
theorem outstandingWrites_disconnect (connection : TcpConnection T) :
    outstandingWrites connection.disconnect = outstandingWrites connection := by
  rw [TcpConnection.disconnect]
  split <;> rfl

@[simp]
theorem messagesQueue_disconnect (connection : TcpConnection T) :
    connection.disconnect.messagesQueue = connection.messagesQueue := by
  rw [TcpConnection.disconnect]
  split <;> rfl

@[simp]
theorem sendingInProgress_disconnect (connection : TcpConnection T) :
    connection.disconnect.sendingInProgress = connection.sendingInProgress := by
  rw [TcpConnection.disconnect]
  split <;> rfl

@[simp]
theorem messagesQueue_finishWrite (connection : TcpConnection T) (operation : AsyncOperation)
    (error : Bool) :
    (connection.finishWrite operation error).messagesQueue = connection.messagesQueue := rfl

@[simp]
theorem socket_finishWrite_false (connection : TcpConnection T)
    (operation : AsyncOperation) :
    (connection.finishWrite operation false).socket =
      { connection.socket with
        transferred := connection.socket.transferred ++ operation.buffer } := rfl

theorem outstandingWrites_finishWrite {connection : TcpConnection T}
    {operation : AsyncOperation} (error : Bool)
    (hwrites : outstandingWrites connection = [operation]) :
    outstandingWrites (connection.finishWrite operation error) = [] := by
  rw [outstandingWrites] at hwrites ⊢
  rw [TcpConnection.finishWrite, ← List.erase_filter, hwrites, List.erase_cons_head]

variable [HeaderLayout T]

theorem writeMessageHeader_of_items {connection : TcpConnection T} {front : Message T}
    {rest : List (Message T)} (hitems : connection.messagesQueue.items = front :: rest) :
    connection.writeMessageHeader =
      some (connection.asyncWrite (.writeHeader (HeaderLayout.encode front.header))) := by
  rw [TcpConnection.writeMessageHeader, MessageQueue.front_of_items hitems, Option.map_some]

/-- A send that finds the socket closed or another send running only queues. -/
theorem sendMessage_of_busy {connection : TcpConnection T} (message : Message T)
    (hbusy : connection.socket.isOpen = false ∨ connection.sendingInProgress = true) :
    connection.sendMessage message = some { connection with
      messagesQueue := connection.messagesQueue.push message } := by
  rcases hbusy with hclosed | hsending
  · simp [TcpConnection.sendMessage, hclosed]
  · simp [TcpConnection.sendMessage, hsending]

/-- A send that finds the socket open and no send running starts the chain with
the message at the front of the queue. -/
theorem sendMessage_of_idle {connection : TcpConnection T} {message front : Message T}
    {rest : List (Message T)} (hopen : connection.socket.isOpen = true)
    (hsending : connection.sendingInProgress = false)
    (hitems : connection.messagesQueue.items ++ [message] = front :: rest) :
    connection.sendMessage message = some (TcpConnection.asyncWrite { connection with
      messagesQueue := connection.messagesQueue.push message
      sendingInProgress := true } (.writeHeader (HeaderLayout.encode front.header))) := by
  simp only [TcpConnection.sendMessage, hopen, hsending, Bool.not_true, Bool.false_eq_true,
    if_false]
  exact writeMessageHeader_of_items hitems

/-- The connection when its front message has been popped. -/
def afterPop (connection : TcpConnection T) (front : Message T)
    (rest : List (Message T)) : TcpConnection T :=
  { connection with
    messagesQueue := ⟨rest, connection.messagesQueue.popped ++ [front]⟩ }

omit [HeaderLayout T] in
@[simp]
theorem outstandingWrites_afterPop (connection : TcpConnection T) (front : Message T)
    (rest : List (Message T)) :
    outstandingWrites (afterPop connection front rest) = outstandingWrites connection := rfl

omit [HeaderLayout T] in
@[simp]
theorem popped_afterPop (connection : TcpConnection T) (front : Message T)
    (rest : List (Message T)) :
    (afterPop connection front rest).messagesQueue.popped =
      connection.messagesQueue.popped ++ [front] := rfl

omit [HeaderLayout T] in
@[simp]
theorem socket_afterPop (connection : TcpConnection T) (front : Message T)
    (rest : List (Message T)) :
    (afterPop connection front rest).socket = connection.socket := rfl

section Handlers

variable {connection : TcpConnection T} {front : Message T} {rest : List (Message T)}

theorem postWriteMessageHeader_of_body
    (hitems : connection.messagesQueue.items = front :: rest) (hbody : front.body ≠ []) :
    connection.postWriteMessageHeader false (HeaderLayout.size T) =
      some (connection.asyncWrite (.writeBody front.body)) := by
  simp [TcpConnection.postWriteMessageHeader, TcpConnection.writeMessageBody,
    MessageQueue.front_of_items hitems, List.length_pos_iff.mpr hbody]

theorem postWriteMessageHeader_of_empty_last
    (hitems : connection.messagesQueue.items = [front]) (hbody : front.body = []) :
    connection.postWriteMessageHeader false (HeaderLayout.size T) =
      some (afterPop connection front []) := by
  simp [TcpConnection.postWriteMessageHeader, MessageQueue.front_of_items hitems,
    MessageQueue.pop_of_items hitems, hbody, MessageQueue.empty, afterPop]

theorem postWriteMessageHeader_of_empty_next {next : Message T}
    (hitems : connection.messagesQueue.items = front :: next :: rest)
    (hbody : front.body = []) :
    connection.postWriteMessageHeader false (HeaderLayout.size T) =
      some ((afterPop connection front (next :: rest)).asyncWrite
        (.writeHeader (HeaderLayout.encode next.header))) := by
  have hnext : (afterPop connection front (next :: rest)).messagesQueue.items =
      next :: rest := rfl
  simp only [TcpConnection.postWriteMessageHeader, MessageQueue.front_of_items hitems,
    MessageQueue.pop_of_items hitems, hbody, MessageQueue.empty, Option.bind_some,
    Bool.false_eq_true, if_false, ne_eq, not_true_eq_false, List.length_nil,
    Nat.lt_irrefl, List.isEmpty_cons, Bool.not_false, if_true]
  exact writeMessageHeader_of_items hnext

theorem postWriteMessageBody_last
    (hitems : connection.messagesQueue.items = [front]) :
    connection.postWriteMessageBody false =
      some { afterPop connection front [] with sendingInProgress := false } := by
  simp [TcpConnection.postWriteMessageBody, MessageQueue.pop_of_items hitems,
    MessageQueue.empty, afterPop]

theorem postWriteMessageBody_next {next : Message T}
    (hitems : connection.messagesQueue.items = front :: next :: rest) :
    connection.postWriteMessageBody false =
      some ((afterPop connection front (next :: rest)).asyncWrite
        (.writeHeader (HeaderLayout.encode next.header))) := by
  have hnext : (afterPop connection front (next :: rest)).messagesQueue.items =
      next :: rest := rfl
  simp only [TcpConnection.postWriteMessageBody, MessageQueue.pop_of_items hitems,
    MessageQueue.empty, Option.bind_some]
  exact writeMessageHeader_of_items hnext

end Handlers

/-! ## What one step can do -/

/-- The phase does not depend on the socket. -/
theorem InPhase.congr {connection next : TcpConnection T} {phase : WritePhase T}
    (hphase : InPhase connection phase)
    (hqueue : next.messagesQueue = connection.messagesQueue)
    (hflag : next.sendingInProgress = connection.sendingInProgress)
    (hsame : outstandingWrites next = outstandingWrites connection) : InPhase next phase := by
  cases hphase with
  | idle hsending hwrites => exact .idle (hflag.trans hsending) (hsame.trans hwrites)
  | stalled hsending hwrites => exact .stalled (hflag.trans hsending) (hsame.trans hwrites)
  | header front rest hsending hitems hwrites =>
      exact .header front rest (hflag.trans hsending) (hqueue ▸ hitems) (hsame.trans hwrites)
  | body front rest hsending hitems hbody hwrites =>
      exact .body front rest (hflag.trans hsending) (hqueue ▸ hitems) hbody
        (hsame.trans hwrites)

/-- There is at most one outstanding write. -/
theorem InPhase.outstandingWrites_eq {connection : TcpConnection T} {phase : WritePhase T}
    {operation : AsyncOperation} (hphase : InPhase connection phase)
    (hmem : operation ∈ outstandingWrites connection) :
    outstandingWrites connection = [operation] := by
  cases hphase with
  | idle hsending hwrites => simp [hwrites] at hmem
  | stalled hsending hwrites => simp [hwrites] at hmem
  | header front rest hsending hitems hwrites =>
      rw [hwrites, List.mem_singleton] at hmem
      rw [hwrites, hmem]
  | body front rest hsending hitems hbody hwrites =>
      rw [hwrites, List.mem_singleton] at hmem
      rw [hwrites, hmem]

/-- The steps of the writer out of a phase, with the phase they lead to.  Every
law about the write chain is proved by cases on this list. -/
inductive WriterMove (connection : TcpConnection T) :
    WritePhase T → WriterEvent T → TcpConnection T → WritePhase T → Prop where
  | queued (phase : WritePhase T) (message : Message T)
      (hbusy : connection.socket.isOpen = false ∨ phase ≠ .idle) :
      WriterMove connection phase (.sendMessage message)
        { connection with messagesQueue := connection.messagesQueue.push message }
        (phase.queue message)
  | started (message front : Message T) (rest : List (Message T))
      (hopen : connection.socket.isOpen = true)
      (hitems : connection.messagesQueue.items ++ [message] = front :: rest) :
      WriterMove connection .idle (.sendMessage message)
        (TcpConnection.asyncWrite { connection with
          messagesQueue := connection.messagesQueue.push message
          sendingInProgress := true } (.writeHeader (HeaderLayout.encode front.header)))
        (.header front rest)
  | disconnected (phase : WritePhase T) :
      WriterMove connection phase .disconnect connection.disconnect phase
  | failed (phase : WritePhase T) (operation : AsyncOperation)
      (hwrites : outstandingWrites connection = [operation]) :
      WriterMove connection phase (.completeWrite operation true)
        { (connection.finishWrite operation true).disconnect with
          sendingInProgress := false } .idle
  | headerWritten (front : Message T) (rest : List (Message T)) (hbody : front.body ≠ []) :
      WriterMove connection (.header front rest)
        (.completeWrite (.writeHeader (HeaderLayout.encode front.header)) false)
        ((connection.finishWrite (.writeHeader (HeaderLayout.encode front.header))
          false).asyncWrite (.writeBody front.body)) (.body front rest)
  | stalledByEmpty (front : Message T) (hbody : front.body = []) :
      WriterMove connection (.header front [])
        (.completeWrite (.writeHeader (HeaderLayout.encode front.header)) false)
        (afterPop (connection.finishWrite
          (.writeHeader (HeaderLayout.encode front.header)) false) front []) .stalled
  | emptyWritten (front next : Message T) (rest : List (Message T)) (hbody : front.body = []) :
      WriterMove connection (.header front (next :: rest))
        (.completeWrite (.writeHeader (HeaderLayout.encode front.header)) false)
        ((afterPop (connection.finishWrite (.writeHeader (HeaderLayout.encode front.header))
          false) front (next :: rest)).asyncWrite
            (.writeHeader (HeaderLayout.encode next.header))) (.header next rest)
  | lastWritten (front : Message T) :
      WriterMove connection (.body front [])
        (.completeWrite (.writeBody front.body) false)
        { afterPop (connection.finishWrite (.writeBody front.body) false) front [] with
          sendingInProgress := false } .idle
  | bodyWritten (front next : Message T) (rest : List (Message T)) :
      WriterMove connection (.body front (next :: rest))
        (.completeWrite (.writeBody front.body) false)
        ((afterPop (connection.finishWrite (.writeBody front.body) false) front
          (next :: rest)).asyncWrite (.writeHeader (HeaderLayout.encode next.header)))
        (.header next rest)

/-- In a phase every call and every completion of an outstanding write is
defined, and is one of the listed moves. -/
theorem InPhase.exists_sendMessage {connection : TcpConnection T} {phase : WritePhase T}
    (hphase : InPhase connection phase) (message : Message T) :
    ∃ next after, connection.sendMessage message = some next ∧
      WriterMove connection phase (.sendMessage message) next after := by
  cases hopen : connection.socket.isOpen with
  | false =>
      exact ⟨_, _, sendMessage_of_busy message (.inl hopen), .queued phase message (.inl hopen)⟩
  | true =>
      cases hphase with
      | idle hsending hwrites =>
          obtain ⟨front, rest, hitems⟩ := List.exists_cons_of_ne_nil
            (List.concat_ne_nil message connection.messagesQueue.items)
          exact ⟨_, _, sendMessage_of_idle hopen hsending hitems,
            .started message front rest hopen hitems⟩
      | stalled hsending hwrites =>
          exact ⟨_, _, sendMessage_of_busy message (.inr hsending),
            .queued _ message (.inr (by simp))⟩
      | header front rest hsending hitems hwrites =>
          exact ⟨_, _, sendMessage_of_busy message (.inr hsending),
            .queued _ message (.inr (by simp))⟩
      | body front rest hsending hitems hbody hwrites =>
          exact ⟨_, _, sendMessage_of_busy message (.inr hsending),
            .queued _ message (.inr (by simp))⟩

theorem InPhase.exists_completeWrite {connection : TcpConnection T} {phase : WritePhase T}
    (hphase : InPhase connection phase) {operation : AsyncOperation}
    (hoperation : operation ∈ outstandingWrites connection) (error : Bool) :
    ∃ next after, connection.completeWrite operation error = some next ∧
      WriterMove connection phase (.completeWrite operation error) next after := by
  cases hphase with
  | idle hsending hwrites => simp [hwrites] at hoperation
  | stalled hsending hwrites => simp [hwrites] at hoperation
  | header front rest hsending hitems hwrites =>
      obtain rfl := List.mem_singleton.mp (hwrites ▸ hoperation)
      cases error with
      | true => exact ⟨_, _, rfl, .failed _ _ hwrites⟩
      | false =>
          by_cases hbody : front.body = []
          · cases rest with
            | nil =>
                exact ⟨_, _, postWriteMessageHeader_of_empty_last hitems hbody,
                  .stalledByEmpty front hbody⟩
            | cons next rest =>
                exact ⟨_, _, postWriteMessageHeader_of_empty_next hitems hbody,
                  .emptyWritten front next rest hbody⟩
          · exact ⟨_, _, postWriteMessageHeader_of_body hitems hbody,
              .headerWritten front rest hbody⟩
  | body front rest hsending hitems hbody hwrites =>
      obtain rfl := List.mem_singleton.mp (hwrites ▸ hoperation)
      cases error with
      | true => exact ⟨_, _, rfl, .failed _ _ hwrites⟩
      | false =>
          cases rest with
          | nil => exact ⟨_, _, postWriteMessageBody_last hitems, .lastWritten front⟩
          | cons next rest =>
              exact ⟨_, _, postWriteMessageBody_next hitems, .bodyWritten front next rest⟩

/-- The inversion lemma of the writer. -/
theorem InPhase.move {connection next : TcpConnection T} {phase : WritePhase T}
    {event : WriterEvent T} (hphase : InPhase connection phase)
    (hstep : writerStep connection event = some next) :
    ∃ after, WriterMove connection phase event next after := by
  cases event with
  | sendMessage message =>
      obtain ⟨other, after, hsend, hmove⟩ := hphase.exists_sendMessage message
      obtain rfl : next = other := Option.some.inj (hstep.symm.trans hsend)
      exact ⟨after, hmove⟩
  | completeWrite operation error =>
      simp only [writerStep, Option.ite_none_right_eq_some] at hstep
      obtain ⟨hmem, hcomplete⟩ := hstep
      have hoperation : operation ∈ outstandingWrites connection :=
        List.mem_filter.mpr ⟨hmem, (TcpConnection.handled_of_completeWrite hcomplete).1⟩
      obtain ⟨other, after, hother, hmove⟩ := hphase.exists_completeWrite hoperation error
      obtain rfl : next = other := Option.some.inj (hcomplete.symm.trans hother)
      exact ⟨after, hmove⟩
  | disconnect =>
      cases hstep
      exact ⟨phase, .disconnected phase⟩

/-- A move leads to a connection in the phase it announces. -/
theorem WriterMove.inPhase {connection next : TcpConnection T} {phase after : WritePhase T}
    {event : WriterEvent T} (hphase : InPhase connection phase)
    (hmove : WriterMove connection phase event next after) : InPhase next after := by
  cases hmove with
  | queued _ message hbusy =>
      cases hphase with
      | idle hsending hwrites => exact .idle hsending hwrites
      | stalled hsending hwrites => exact .stalled hsending hwrites
      | header front rest hsending hitems hwrites =>
          refine .header front (rest ++ [message]) hsending ?_ hwrites
          rw [MessageQueue.items_push, hitems, List.cons_append]
      | body front rest hsending hitems hbody hwrites =>
          refine .body front (rest ++ [message]) hsending ?_ hbody hwrites
          rw [MessageQueue.items_push, hitems, List.cons_append]
  | started message front rest hopen hitems =>
      cases hphase with
      | idle hsending hwrites =>
          refine .header front rest rfl hitems ?_
          rw [outstandingWrites_asyncWrite]
          change outstandingWrites connection ++ _ = _
          rw [hwrites]
          rfl
  | disconnected =>
      exact hphase.congr (messagesQueue_disconnect _) (sendingInProgress_disconnect _)
        (outstandingWrites_disconnect _)
  | failed _ operation hwrites =>
      refine .idle rfl ?_
      change outstandingWrites (TcpConnection.disconnect _) = []
      rw [outstandingWrites_disconnect, outstandingWrites_finishWrite true hwrites]
  | headerWritten front rest hbody =>
      cases hphase with
      | header _ _ hsending hitems hwrites =>
          refine .body front rest hsending hitems hbody ?_
          rw [outstandingWrites_asyncWrite, outstandingWrites_finishWrite false hwrites]
          rfl
  | stalledByEmpty front hbody =>
      cases hphase with
      | header _ _ hsending hitems hwrites =>
          exact .stalled hsending (outstandingWrites_finishWrite false hwrites)
  | emptyWritten front following rest hbody =>
      cases hphase with
      | header _ _ hsending hitems hwrites =>
          refine .header following rest hsending rfl ?_
          rw [outstandingWrites_asyncWrite, outstandingWrites_afterPop,
            outstandingWrites_finishWrite false hwrites]
          rfl
  | lastWritten front =>
      cases hphase with
      | body _ _ hsending hitems hbody hwrites =>
          exact .idle rfl (outstandingWrites_finishWrite false hwrites)
  | bodyWritten front following rest =>
      cases hphase with
      | body _ _ hsending hitems hbody hwrites =>
          refine .header following rest hsending rfl ?_
          rw [outstandingWrites_asyncWrite, outstandingWrites_afterPop,
            outstandingWrites_finishWrite false hwrites]
          rfl

theorem inPhase_connected : InPhase (connected T) .idle := .idle rfl rfl

end ProcessManagerService.WriteChain
