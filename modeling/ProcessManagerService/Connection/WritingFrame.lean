import ProcessManagerService.Connection.ReadLoop
import ProcessManagerService.Connection.WriteChain

/-!
# The writing side

Reads, timers and the calls that close the socket leave the writer alone: the
queue, the sending flag, the outstanding writes and what has been handed to the
socket stay as they are.  So an event of a connection is a step of the writer,
or keeps its writing side, or closes the socket.
-/

namespace ProcessManagerService.WritingFrame

open Communication Connection ReadLoop WriteChain

variable {T : Type*}

/-- The part of a connection that the writer works on. -/
structure WritingSide (T : Type*) where
  isOpen : Bool
  handed : List Byte
  messagesQueue : MessageQueue (Message T)
  sendingInProgress : Bool
  writes : List AsyncOperation

def writingSide (connection : TcpConnection T) : WritingSide T where
  isOpen := connection.socket.isOpen
  handed := connection.socket.handed
  messagesQueue := connection.messagesQueue
  sendingInProgress := connection.sendingInProgress
  writes := outstandingWrites connection

/-- What the read loop and the timer may do to the writing side. -/
def Spared (side next : WritingSide T) : Prop :=
  next = side ∨ next = { side with isOpen := false }

/-- The step of the writer that an event is. -/
def writerEventOf : ConnectionEvent T → Option (WriterEvent T)
  | .sendMessage message => some (.sendMessage message)
  | .completeWrite operation error => some (.completeWrite operation error)
  | _ => none

theorem fields_of_writingSide {connection next : TcpConnection T} {isOpen : Bool}
    (hside : writingSide next = { writingSide connection with isOpen }) :
    next.socket.isOpen = isOpen ∧ next.socket.handed = connection.socket.handed ∧
      next.messagesQueue = connection.messagesQueue ∧
      next.sendingInProgress = connection.sendingInProgress ∧
      outstandingWrites next = outstandingWrites connection := by
  rw [writingSide, writingSide] at hside
  simpa using hside

/-! ## Frame lemmas of the member functions -/

theorem writingSide_disconnect (connection : TcpConnection T) :
    writingSide connection.disconnect = { writingSide connection with isOpen := false } := by
  cases hopen : connection.socket.isOpen <;>
    simp [TcpConnection.disconnect, writingSide, outstandingWrites, hopen]

theorem writingSide_closeSocket (connection : TcpConnection T) :
    writingSide connection.closeSocket = { writingSide connection with isOpen := false } :=
  writingSide_disconnect connection

theorem writingSide_setTimerExpiration (connection : TcpConnection T) (millisec : ℕ) :
    writingSide (connection.setTimerExpiration millisec) = writingSide connection := by
  have hwrites : (connection.pending.map AsyncOperation.abortWait).filter
      AsyncOperation.isWrite = connection.pending.filter AsyncOperation.isWrite :=
    AsyncOperation.filter_map_abortWait_of_ne (fun _ _ => rfl) connection.pending
  simp [TcpConnection.setTimerExpiration, writingSide, outstandingWrites, hwrites,
    AsyncOperation.isWrite]

theorem writingSide_asyncRead {operation : AsyncOperation}
    (hwrite : operation.isWrite = false) (connection : TcpConnection T) :
    writingSide (connection.asyncRead operation) = writingSide connection := by
  simp [TcpConnection.asyncRead, writingSide, outstandingWrites, hwrite]

theorem writingSide_startReadingSequence [Inhabited T] (connection : TcpConnection T) :
    writingSide connection.startReadingSequence = writingSide connection :=
  writingSide_asyncRead rfl _

/-- An operation that is no write is taken from `pending`, and its buffer may
have been filled. -/
theorem writingSide_taken {operation : AsyncOperation} (hwrite : operation.isWrite = false)
    (connection : TcpConnection T) (incomingMessage : Option (Message T)) :
    writingSide { connection with
      pending := connection.pending.erase operation
      incomingMessage } = writingSide connection :=
  congrArg (WritingSide.mk _ _ _ _) (AsyncOperation.filter_erase hwrite connection.pending)

variable [HeaderLayout T]

theorem writingSide_of_finishRead {connection next : TcpConnection T}
    {operation : AsyncOperation} {error : Bool} (hwrite : operation.isWrite = false)
    (hfinish : connection.finishRead operation error = some next) :
    writingSide next = writingSide connection := by
  cases error with
  | true =>
      cases hfinish
      exact writingSide_taken hwrite connection _
  | false =>
      simp only [TcpConnection.finishRead, Bool.false_eq_true, if_false,
        Option.map_eq_some_iff] at hfinish
      obtain ⟨message, -, rfl⟩ := hfinish
      exact congrArg (WritingSide.mk _ _ _ _)
        (AsyncOperation.filter_erase hwrite connection.pending)

theorem writingSide_of_postReadMessageHeader {connection next : TcpConnection T}
    {error : Bool} {bytesTransferred : ℕ}
    (hpost : connection.postReadMessageHeader error bytesTransferred = some next) :
    Spared (writingSide connection) (writingSide next) ∧
      (error = false → writingSide next = writingSide connection) := by
  rw [TcpConnection.postReadMessageHeader] at hpost
  split at hpost
  · next herror =>
      cases hpost
      exact ⟨.inr (writingSide_disconnect connection), fun hnone => by simp [hnone] at herror⟩
  · suffices hsame : writingSide next = writingSide connection from ⟨.inl hsame, fun _ => hsame⟩
    split at hpost
    · cases hpost
      rfl
    · obtain ⟨message, -, hpost⟩ := Option.bind_eq_some_iff.mp hpost
      split at hpost
      · cases hpost
        rfl
      · obtain ⟨resized, -, rfl⟩ := Option.map_eq_some_iff.mp hpost
        exact writingSide_asyncRead rfl _

variable [Inhabited T]

omit [HeaderLayout T] in
theorem writingSide_of_postReadMessageBody {connection next : TcpConnection T} {error : Bool}
    (hpost : (DerivedConnection.inert T).postReadMessageBody connection error =
      .returned next) :
    Spared (writingSide connection) (writingSide next) ∧
      (error = false → writingSide next = writingSide connection) := by
  cases error with
  | true =>
      cases hpost
      exact ⟨.inr (writingSide_disconnect connection), fun hnone => by cases hnone⟩
  | false =>
      cases hpost
      have hsame : writingSide (TcpConnection.startReadingSequence
          { connection with incomingMessage := none }) = writingSide connection :=
        writingSide_startReadingSequence _
      exact ⟨.inl hsame, fun _ => hsame⟩

/-! ## What one event can do to the writing side -/

/-- The inversion lemma of the writing side. -/
theorem writingSide_of_step {connection next : TcpConnection T} {event : ConnectionEvent T}
    (hstep : connectionStep (.inert T) connection event = some next) :
    (∃ writerEvent, writerEventOf event = some writerEvent ∧
      writerStep connection writerEvent = some next) ∨
    Spared (writingSide connection) (writingSide next) := by
  cases event with
  | arrive segment =>
      cases hstep
      exact .inr (.inl rfl)
  | completeRead operation error =>
      obtain ⟨-, hcomplete⟩ := connectionStep_completeRead.mp hstep
      obtain ⟨finished, hcall, hhandler⟩ := Outcome.andThen_eq_returned.mp hcomplete
      obtain ⟨read, hfinish, rfl⟩ := (DerivedConnection.call_eq_returned _).mp hcall
      replace hfinish : connection.finishRead operation error = some read := hfinish
      right
      cases operation with
      | readHeader =>
          obtain ⟨posted, hpost, rfl⟩ := (DerivedConnection.call_eq_returned _).mp hhandler
          rw [← writingSide_of_finishRead rfl hfinish]
          exact (writingSide_of_postReadMessageHeader hpost).1
      | readBody size =>
          rw [← writingSide_of_finishRead rfl hfinish]
          exact (writingSide_of_postReadMessageBody hhandler).1
      | _ => cases hhandler
  | sendMessage message =>
      obtain ⟨sent, hsend, rfl⟩ :=
        (DerivedConnection.call_eq_returned _).mp (connectionStep_sendMessage.mp hstep)
      exact .inl ⟨_, rfl, hsend⟩
  | completeWrite operation error =>
      obtain ⟨hmem, hcall⟩ := connectionStep_completeWrite.mp hstep
      obtain ⟨written, hcomplete, rfl⟩ := (DerivedConnection.call_eq_returned _).mp hcall
      refine .inl ⟨_, rfl, ?_⟩
      rw [writerStep]
      exact (if_pos hmem).trans hcomplete
  | setTimerExpiration millisec =>
      cases hstep
      exact .inr (.inl (writingSide_setTimerExpiration connection millisec))
  | completeWait millisec aborted =>
      obtain ⟨-, hexpired⟩ := connectionStep_completeWait.mp hstep
      cases hexpired
      exact .inr (.inl (writingSide_taken rfl connection _))
  | disconnect =>
      cases hstep
      exact .inr (.inr (writingSide_disconnect connection))
  | closeSocket =>
      cases hstep
      exact .inr (.inr (writingSide_closeSocket connection))

/-! ## Calls that queue messages -/

/-- The call has queued the messages behind those that were there, and it has
left an outstanding write alone. -/
structure Queues (connection next : TcpConnection T) (messages : List (Message T)) : Prop where
  items : next.messagesQueue.items = connection.messagesQueue.items ++ messages
  popped : next.messagesQueue.popped = connection.messagesQueue.popped
  inPhase : ∀ phase, InPhase connection phase → ∃ after, InPhase next after
  writes : ∀ phase, InPhase connection phase → outstandingWrites connection ≠ [] →
    outstandingWrites next = outstandingWrites connection

omit [Inhabited T] in
/-- A call that does not concern the writer queues nothing. -/
theorem queues_nil {connection next : TcpConnection T}
    (hqueue : next.messagesQueue = connection.messagesQueue)
    (hflag : next.sendingInProgress = connection.sendingInProgress)
    (hwrites : outstandingWrites next = outstandingWrites connection) :
    Queues connection next [] where
  items := by rw [hqueue, List.append_nil]
  popped := by rw [hqueue]
  inPhase phase hphase := ⟨phase, hphase.congr hqueue hflag hwrites⟩
  writes _ _ _ := hwrites

omit [Inhabited T] in
theorem queues_of_writingSide {connection next : TcpConnection T} {isOpen : Bool}
    (hside : writingSide next = { writingSide connection with isOpen }) :
    Queues connection next [] := by
  obtain ⟨-, -, hqueue, hflag, hwrites⟩ := fields_of_writingSide hside
  exact queues_nil hqueue hflag hwrites

omit [Inhabited T] in
theorem Queues.pushed {connection next : TcpConnection T} {messages : List (Message T)}
    (hqueues : Queues connection next messages) :
    next.messagesQueue.pushed = connection.messagesQueue.pushed ++ messages := by
  rw [MessageQueue.pushed, MessageQueue.pushed, hqueues.items, hqueues.popped,
    List.append_assoc]

omit [Inhabited T] in
theorem Queues.trans {first second third : TcpConnection T}
    {before after : List (Message T)} (hfirst : Queues first second before)
    (hsecond : Queues second third after) : Queues first third (before ++ after) where
  items := by rw [hsecond.items, hfirst.items, List.append_assoc]
  popped := hsecond.popped.trans hfirst.popped
  inPhase phase hphase := by
    obtain ⟨middle, hmiddle⟩ := hfirst.inPhase phase hphase
    exact hsecond.inPhase middle hmiddle
  writes phase hphase houtstanding := by
    obtain ⟨middle, hmiddle⟩ := hfirst.inPhase phase hphase
    have hkept := hfirst.writes phase hphase houtstanding
    rw [← hkept]
    exact hsecond.writes middle hmiddle (hkept ▸ houtstanding)

omit [Inhabited T] in
theorem queues_of_sendMessage {connection next : TcpConnection T} {message : Message T}
    (hsend : connection.sendMessage message = some next) :
    Queues connection next [message] := by
  have hqueue : next.messagesQueue = connection.messagesQueue.push message := by
    rcases TcpConnection.sendMessage_cases hsend with rfl | ⟨buffer, rfl⟩
    · rfl
    · rfl
  have hmove : ∀ phase, InPhase connection phase →
      ∃ after, WriterMove connection phase (.sendMessage message) next after :=
    fun phase hphase => hphase.move hsend
  refine ⟨by rw [hqueue]; rfl, by rw [hqueue]; rfl, ?_, ?_⟩
  · intro phase hphase
    obtain ⟨after, hmove⟩ := hmove phase hphase
    exact ⟨after, hmove.inPhase hphase⟩
  · intro phase hphase houtstanding
    obtain ⟨after, hmove⟩ := hmove phase hphase
    cases hmove with
    | queued => rfl
    | started =>
        cases hphase with
        | idle hsending hwrites => exact absurd hwrites houtstanding

end ProcessManagerService.WritingFrame
