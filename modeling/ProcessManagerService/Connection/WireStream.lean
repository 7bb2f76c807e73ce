import ProcessManagerService.Connection.WriteChain

/-!
# The byte stream of a connection

Until the first write error or disconnect the bytes handed to the socket are
the messages in push order, each as its header followed by its body.  The
invariant accounts for every byte: the popped messages in full, and of the
front message what the phase of the writer says.
-/

namespace ProcessManagerService.WireStream

open Communication Connection FrameStream PartialRuns WriteChain

variable {T : Type*}

/-- The event is neither a write error nor a disconnect. -/
def Undisturbed : WriterEvent T → Prop
  | .sendMessage _ => True
  | .completeWrite _ error => error = false
  | .disconnect => False

/-- The messages that an event pushes. -/
def sentBy : WriterEvent T → List (Message T)
  | .sendMessage message => [message]
  | _ => []

/-- The messages sent during a run, in push order. -/
def sentMessages (events : List (WriterEvent T)) : List (Message T) :=
  events.flatMap sentBy

variable [HeaderLayout T]

/-- Every byte on the wire is accounted for by the popped messages and the
phase. -/
structure Accounted (connection : TcpConnection T) (phase : WritePhase T) : Prop where
  inPhase : InPhase connection phase
  isOpen : connection.socket.isOpen = true
  handed : connection.socket.handed =
    connection.messagesQueue.popped.flatMap Message.encode ++ phase.handed
  transferred : connection.socket.transferred =
    connection.messagesQueue.popped.flatMap Message.encode ++ phase.transferred

theorem accounted_connected : Accounted (connected T) .idle where
  inPhase := inPhase_connected
  isOpen := rfl
  handed := rfl
  transferred := rfl

/-- A step pushes what it sends, and nothing else enters or leaves the record
of pushed messages. -/
theorem pushed_of_move {connection next : TcpConnection T} {phase after : WritePhase T}
    {event : WriterEvent T} (hphase : InPhase connection phase)
    (hmove : WriterMove connection phase event next after) :
    next.messagesQueue.pushed = connection.messagesQueue.pushed ++ sentBy event := by
  cases hmove with
  | queued _ message => exact MessageQueue.pushed_push _ message
  | started message => exact MessageQueue.pushed_push _ message
  | disconnected => simp [sentBy]
  | failed _ operation hwrites => simp [sentBy, TcpConnection.finishWrite]
  | headerWritten front rest => simp [sentBy, TcpConnection.finishWrite]
  | stalledByEmpty front =>
      cases hphase with
      | header _ _ _ hitems => simp [sentBy, afterPop, MessageQueue.pushed, hitems]
  | emptyWritten front following rest =>
      cases hphase with
      | header _ _ _ hitems => simp [sentBy, afterPop, MessageQueue.pushed, hitems]
  | lastWritten front =>
      cases hphase with
      | body _ _ _ hitems => simp [sentBy, afterPop, MessageQueue.pushed, hitems]
  | bodyWritten front following rest =>
      cases hphase with
      | body _ _ _ hitems => simp [sentBy, afterPop, MessageQueue.pushed, hitems]

/-- A move that leaves the socket open hands over what continues the front
message and begins the next one; any other move hands over nothing. -/
theorem handed_of_move {connection next : TcpConnection T} {phase after : WritePhase T}
    {event : WriterEvent T} (hmove : WriterMove connection phase event next after) :
    (connection.socket.isOpen = true ∧ next.socket.isOpen = true ∧
      ∃ bytes sent, next.socket.handed = connection.socket.handed ++ bytes ∧
        next.messagesQueue.popped = connection.messagesQueue.popped ++ sent ∧
        phase.handed ++ bytes = sent.flatMap Message.encode ++ after.handed) ∨
    (next.socket.isOpen = false ∧ next.socket.handed = connection.socket.handed) := by
  cases hopen : connection.socket.isOpen with
  | false =>
      right
      cases hmove with
      | queued => exact ⟨hopen, rfl⟩
      | started _ _ _ hstarted => simp [hopen] at hstarted
      | disconnected => simp [TcpConnection.disconnect, hopen]
      | failed _ operation => simp [TcpConnection.disconnect, TcpConnection.finishWrite, hopen]
      | stalledByEmpty => exact ⟨hopen, rfl⟩
      | lastWritten => exact ⟨hopen, rfl⟩
      | _ => simp [TcpConnection.asyncWrite, afterPop, TcpConnection.finishWrite, hopen]
  | true =>
      cases hmove with
      | disconnected => exact .inr (by simp [TcpConnection.disconnect, hopen])
      | failed _ operation =>
          exact .inr (by simp [TcpConnection.disconnect, TcpConnection.finishWrite, hopen])
      | queued _ message =>
          exact .inl ⟨rfl, hopen, [], [], by simp, by simp, by simp⟩
      | started message front rest =>
          refine .inl ⟨rfl, by simp [hopen], HeaderLayout.encode front.header, [], ?_, ?_, ?_⟩
          · simp [hopen, AsyncOperation.buffer]
          · simp
          · simp [WritePhase.handed]
      | headerWritten front rest =>
          refine .inl ⟨rfl, by simp [hopen], front.body, [], ?_, ?_, ?_⟩
          · simp [hopen, AsyncOperation.buffer]
          · simp
          · simp [WritePhase.handed, Message.encode]
      | stalledByEmpty front hbody =>
          refine .inl ⟨rfl, by simp [hopen], [], [front], ?_, ?_, ?_⟩
          · simp
          · simp
          · simp [WritePhase.handed, Message.encode, hbody]
      | emptyWritten front following rest hbody =>
          refine .inl ⟨rfl, by simp [hopen], HeaderLayout.encode following.header, [front],
            ?_, ?_, ?_⟩
          · simp [hopen, AsyncOperation.buffer]
          · simp
          · simp [WritePhase.handed, Message.encode, hbody]
      | lastWritten front =>
          refine .inl ⟨rfl, by simp [hopen], [], [front], ?_, ?_, ?_⟩
          · simp
          · simp
          · simp [WritePhase.handed]
      | bodyWritten front following rest =>
          refine .inl ⟨rfl, by simp [hopen], HeaderLayout.encode following.header, [front],
            ?_, ?_, ?_⟩
          · simp [hopen, AsyncOperation.buffer]
          · simp
          · simp [WritePhase.handed]

/-- Without an error or a disconnect the socket stays open. -/
theorem isOpen_of_undisturbed {connection next : TcpConnection T} {phase after : WritePhase T}
    {event : WriterEvent T} (hopen : connection.socket.isOpen = true)
    (hundisturbed : Undisturbed event)
    (hmove : WriterMove connection phase event next after) : next.socket.isOpen = true := by
  cases hmove with
  | queued => exact hopen
  | disconnected => exact False.elim hundisturbed
  | failed => exact absurd hundisturbed (by simp [Undisturbed])
  | _ => simp [hopen]

/-- An undisturbed step accounts for the bytes it hands over and the bytes
whose transfer it reports. -/
theorem Accounted.move {connection next : TcpConnection T} {phase after : WritePhase T}
    {event : WriterEvent T} (haccounted : Accounted connection phase)
    (hundisturbed : Undisturbed event)
    (hmove : WriterMove connection phase event next after) : Accounted next after := by
  have hopen := haccounted.isOpen
  have htransferred := haccounted.transferred
  have hstill := isOpen_of_undisturbed hopen hundisturbed hmove
  refine ⟨hmove.inPhase haccounted.inPhase, hstill, ?_, ?_⟩
  · rcases handed_of_move hmove with ⟨-, -, bytes, sent, hbytes, hsent, hadd⟩ | ⟨hclosed, -⟩
    · calc next.socket.handed
          = connection.messagesQueue.popped.flatMap Message.encode ++
              (phase.handed ++ bytes) := by
            rw [hbytes, haccounted.handed, List.append_assoc]
        _ = next.messagesQueue.popped.flatMap Message.encode ++ after.handed := by
            rw [hadd, hsent, List.flatMap_append, List.append_assoc]
    · rw [hstill] at hclosed
      cases hclosed
  · cases hmove with
    | queued _ message => simpa using htransferred
    | started message front rest =>
        simpa [hopen, WritePhase.transferred] using htransferred
    | disconnected => exact False.elim hundisturbed
    | failed => exact absurd hundisturbed (by simp [Undisturbed])
    | headerWritten front rest hbody =>
        simp [hopen, htransferred, WritePhase.transferred, AsyncOperation.buffer]
    | stalledByEmpty front hbody =>
        simp [htransferred, WritePhase.transferred, AsyncOperation.buffer, Message.encode,
          hbody]
    | emptyWritten front following rest hbody =>
        simp [hopen, htransferred, WritePhase.transferred, AsyncOperation.buffer,
          Message.encode, hbody]
    | lastWritten front =>
        simp [htransferred, WritePhase.transferred, AsyncOperation.buffer, Message.encode]
    | bodyWritten front following rest =>
        simp [hopen, htransferred, WritePhase.transferred, AsyncOperation.buffer,
          Message.encode]

/-- The invariant over a run: the bytes stay accounted for, and the pushed
messages are those sent. -/
theorem Accounted.run {start finish : TcpConnection T} {phase : WritePhase T}
    {events : List (WriterEvent T)} (haccounted : Accounted start phase)
    (hundisturbed : ∀ event ∈ events, Undisturbed event)
    (hrun : run writerStep start events = some finish) :
    (∃ after, Accounted finish after) ∧
      finish.messagesQueue.pushed = start.messagesQueue.pushed ++ sentMessages events := by
  induction events generalizing start phase with
  | nil =>
      cases hrun
      exact ⟨⟨phase, haccounted⟩, by simp [sentMessages]⟩
  | cons event events ih =>
      obtain ⟨next, hstep, hrest⟩ := run_cons_eq_some.mp hrun
      obtain ⟨after, hmove⟩ := haccounted.inPhase.move hstep
      have hnext := haccounted.move (hundisturbed event List.mem_cons_self) hmove
      obtain ⟨hfinish, hpushed⟩ := ih hnext
        (fun other hother => hundisturbed other (List.mem_cons_of_mem event hother)) hrest
      refine ⟨hfinish, ?_⟩
      rw [hpushed, pushed_of_move haccounted.inPhase hmove, List.append_assoc, sentMessages,
        sentMessages, List.flatMap_cons]

/-- What a phase has handed over begins the messages in the queue. -/
theorem handed_isPrefix_of_inPhase {connection : TcpConnection T} {phase : WritePhase T}
    (hphase : InPhase connection phase) :
    phase.handed <+: connection.messagesQueue.items.flatMap Message.encode := by
  cases hphase with
  | idle => exact List.nil_prefix
  | stalled => exact List.nil_prefix
  | header front rest hsending hitems =>
      rw [hitems, List.flatMap_cons, Message.encode, List.append_assoc]
      exact List.prefix_append _ _
  | body front rest hsending hitems =>
      rw [hitems, List.flatMap_cons]
      exact List.prefix_append _ _

/-- The bytes handed over are a beginning of the encoding of what was pushed. -/
theorem Accounted.handed_isPrefix {connection : TcpConnection T} {phase : WritePhase T}
    (haccounted : Accounted connection phase) :
    connection.socket.handed <+:
      connection.messagesQueue.pushed.flatMap Message.encode := by
  rw [haccounted.handed, MessageQueue.pushed, List.flatMap_append,
    List.prefix_append_right_inj]
  exact handed_isPrefix_of_inPhase haccounted.inPhase

/-- The popped messages are exactly those whose last byte has been
transferred. -/
theorem Accounted.le_popped_iff {connection : TcpConnection T} {phase : WritePhase T}
    (haccounted : Accounted connection phase) {count : ℕ}
    (hcount : count ≤ connection.messagesQueue.pushed.length) :
    count ≤ connection.messagesQueue.popped.length ↔
      (connection.messagesQueue.pushed.take count).flatMap Message.encode <+:
        connection.socket.transferred := by
  rw [haccounted.transferred]
  refine (Message.format T).le_length_iff_encodeAll_take_isPrefix ?_ hcount
  intro message hmessage
  have hheader := HeaderLayout.length_encode message.header
  have hpos := HeaderLayout.size_pos (T := T)
  rw [← Message.encode_eq_format, Message.encode, List.length_append]
  cases haccounted.inPhase with
  | body front rest hsending hitems hbody =>
      obtain rfl : front = message := by simpa [hitems] using hmessage
      have hlength := List.length_pos_iff.mpr hbody
      exact Nat.lt_add_of_pos_right hlength
  | _ =>
      change 0 < _
      omega

/-- From a successful connect to the first write error or disconnect: the bytes
handed over are always a beginning of the encoded messages in push order, the
popped messages are exactly the fully written ones, and no call and no
completion of an outstanding write takes `front` or `pop` of an empty queue. -/
theorem stream_of_run {events : List (WriterEvent T)} {finish : TcpConnection T}
    (hundisturbed : ∀ event ∈ events, Undisturbed event)
    (hrun : run writerStep (connected T) events = some finish) :
    finish.socket.handed <+: (sentMessages events).flatMap Message.encode ∧
    finish.messagesQueue.popped <+: sentMessages events ∧
    (∀ count ≤ (sentMessages events).length,
      count ≤ finish.messagesQueue.popped.length ↔
        ((sentMessages events).take count).flatMap Message.encode <+:
          finish.socket.transferred) ∧
    (∀ message, (finish.sendMessage message).isSome) ∧
    ∀ operation ∈ outstandingWrites finish, ∀ error,
      (finish.completeWrite operation error).isSome := by
  obtain ⟨⟨phase, haccounted⟩, hpushed⟩ := accounted_connected.run hundisturbed hrun
  replace hpushed : finish.messagesQueue.pushed = sentMessages events := hpushed
  rw [← hpushed]
  refine ⟨haccounted.handed_isPrefix, List.prefix_append _ _,
    fun count hcount => haccounted.le_popped_iff hcount, ?_, ?_⟩
  · intro message
    obtain ⟨next, after, hsend, hmove⟩ := haccounted.inPhase.exists_sendMessage message
    exact Option.isSome_of_mem hsend
  · intro operation hoperation error
    obtain ⟨next, after, hcomplete, hmove⟩ :=
      haccounted.inPhase.exists_completeWrite hoperation error
    exact Option.isSome_of_mem hcomplete

private def bare : Message UInt32 := ⟨⟨5, 0⟩, []⟩

private def loaded : Message UInt32 := ⟨⟨1, 2⟩, [8, 7]⟩

private def bareThenLoaded : List (WriterEvent UInt32) :=
  [.sendMessage bare, .sendMessage loaded,
    .completeWrite (.writeHeader (HeaderLayout.encode bare.header)) false,
    .completeWrite (.writeHeader (HeaderLayout.encode loaded.header)) false]

/-- An empty body in front of another message: the first message has been
popped and the second one has been handed over. -/
theorem stream_of_bareThenLoaded : ∃ finish,
    run writerStep (connected UInt32) bareThenLoaded = some finish ∧
    finish.messagesQueue.popped = [bare] ∧
    finish.socket.handed <+: (sentMessages bareThenLoaded).flatMap Message.encode := by
  refine ⟨_, rfl, rfl, (stream_of_run ?_ rfl).1⟩
  intro event hevent
  simp only [bareThenLoaded, List.mem_cons, List.not_mem_nil, or_false] at hevent
  rcases hevent with rfl | rfl | rfl | rfl <;> simp [Undisturbed]

end ProcessManagerService.WireStream
