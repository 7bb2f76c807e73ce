import ProcessManagerService.Connection.WireStream
import ProcessManagerService.Connection.WritingFrame

/-!
# Reconnecting

A completion handler does not know which connection its operation was started
on.  It works on the socket and the queue as it finds them, so a handler that
runs after the next `connect` acts on the new connection: with an error it
closes the new socket, and after a header it hands over the body that the front
message has by then.  The new connection carries whole messages from its first
byte on as long as no handler is late in one of these two ways.

The overrides of a derived class call members of the base class only, so their
calls are events of their own here.
-/

namespace ProcessManagerService.Reconnection

open Communication Connection PartialRuns ReadLoop WireStream WriteChain WritingFrame

variable {T : Type*}

/-- A connection over several connects.  The other fields are history:
`established` says that the socket is the one of a successful `connect`, `late`
holds the reads and writes that were outstanding at that `connect` and whose
handlers have not run since, and `closedByLate` that such a handler has closed
the newer socket. -/
structure Reconnectable (T : Type*) where
  connection : TcpConnection T
  established : Bool
  late : List AsyncOperation
  closedByLate : Bool

def created (T : Type*) : Reconnectable T := ⟨TcpConnection.create, false, [], false⟩

/-- `completeLate` runs the handler of an operation that was started before the
last successful `connect`.  A read that did not fail has left `found` in
`incomingMessage`: its buffer, or the one of a later reading sequence. -/
inductive ReconnectEvent (T : Type*) where
  | connect (succeeds : Bool)
  | makeNewSocket
  | startReading
  | during (event : ConnectionEvent T)
  | completeLate (operation : AsyncOperation) (error : Bool) (found : Option (Message T))

/-- Waits of the timer belong to no connection. -/
def onSocket (operation : AsyncOperation) : Bool :=
  operation.isRead || operation.isWrite

/-- The operation whose handler an event runs. -/
def completedBy : ConnectionEvent T → Option AsyncOperation
  | .completeRead operation _ => some operation
  | .completeWrite operation _ => some operation
  | _ => none

namespace Reconnectable

/-- The last successful `connect` has not been undone. -/
def isLive (state : Reconnectable T) : Bool :=
  state.established && state.connection.socket.isOpen

def lateWrites (state : Reconnectable T) : List AsyncOperation :=
  state.late.filter AsyncOperation.isWrite

/-- What the event completes is not one of the late operations, which only
their number tells apart from others of the same kind. -/
def isFresh (state : Reconnectable T) (event : ConnectionEvent T) : Bool :=
  (completedBy event).all fun operation =>
    state.late.count operation < state.connection.pending.count operation

/-- The state when the handler of a late operation has run. -/
def afterLate (state : Reconnectable T) (operation : AsyncOperation)
    (connection : TcpConnection T) : Reconnectable T where
  connection := connection
  established := state.established
  late := state.late.erase operation
  closedByLate := state.closedByLate || state.isLive && !connection.socket.isOpen

end Reconnectable

section Step

variable [Inhabited T] [HeaderLayout T]

/-- The bytes of a late write went out on the earlier connection. -/
def completeLateWrite (connection : TcpConnection T) (operation : AsyncOperation)
    (error : Bool) : Option (TcpConnection T) :=
  (connection.completeWrite operation error).map fun written =>
    { written with
      socket := { written.socket with transferred := connection.socket.transferred } }

/-- The bytes of a late read came from the earlier connection. -/
def completeLateRead (connection : TcpConnection T) (operation : AsyncOperation)
    (error : Bool) (found : Option (Message T)) : Option (TcpConnection T) :=
  let read := { connection with
    pending := connection.pending.erase operation
    incomingMessage := if error then connection.incomingMessage else found }
  match operation with
  | .readHeader => read.postReadMessageHeader error (if error then 0 else HeaderLayout.size T)
  | .readBody _ => ((DerivedConnection.inert T).postReadMessageBody read error).toOption
  | _ => none

/-- The handlers are those of any other completion. -/
def completeLate (connection : TcpConnection T) (operation : AsyncOperation) (error : Bool)
    (found : Option (Message T)) : Option (TcpConnection T) :=
  if operation.isWrite then completeLateWrite connection operation error
  else completeLateRead connection operation error found

/-- A socket that is connected refuses to connect again. -/
def reconnectStep (state : Reconnectable T) : ReconnectEvent T → Option (Reconnectable T)
  | .connect true =>
      if state.isLive then none
      else some { state with
        connection := (state.connection.connect true).2
        established := true
        late := state.connection.pending.filter onSocket }
  | .connect false => some { state with
      connection := (state.connection.connect false).2
      established := state.isLive }
  | .makeNewSocket => some { state with
      connection := state.connection.makeNewSocket
      established := false }
  | .startReading => some { state with connection := state.connection.startReading }
  | .during event =>
      if state.isFresh event then
        (connectionStep (.inert T) state.connection event).map fun connection =>
          { state with connection }
      else none
  | .completeLate operation error found =>
      if operation ∈ state.late ∧ operation ∈ state.connection.pending then
        (completeLate state.connection operation error found).map
          (state.afterLate operation)
      else none

end Step

/-- The handler of a late operation acts on a live connection: it reports an
error, or a header in front of a body. -/
def TouchesCurrent (state : Reconnectable T) : ReconnectEvent T → Prop
  | .completeLate operation error _ => state.isLive = true ∧
      (error = true ∨ (∃ buffer, operation = .writeHeader buffer) ∧
        ∃ front, state.connection.messagesQueue.front = some front ∧ front.body ≠ [])
  | _ => False

variable [HeaderLayout T]

/-- What has been handed to the current connection begins with the first byte of
a message and is a beginning of whole messages in push order. -/
def Streams (connection : TcpConnection T) : Prop :=
  ∃ first, connection.socket.handed <+:
    (connection.messagesQueue.pushed.drop first).flatMap Message.encode

/-- The earlier connections have not touched the current one. -/
structure Isolated (state : Reconnectable T) : Prop where
  streams : state.established = true → Streams state.connection
  notClosed : state.closedByLate = false

/-! ## The stream of one connection -/

/-- The handed bytes are those of the messages popped since the `connect`, and
of the front message what the phase says. -/
def Aligned (connection : TcpConnection T) (phase : WritePhase T) : Prop :=
  ∃ first ≤ connection.messagesQueue.popped.length,
    connection.socket.handed =
      (connection.messagesQueue.popped.drop first).flatMap Message.encode ++ phase.handed

theorem Aligned.streams {connection : TcpConnection T} {phase : WritePhase T}
    (haligned : Aligned connection phase) (hphase : InPhase connection phase) :
    Streams connection := by
  obtain ⟨first, hfirst, hhanded⟩ := haligned
  refine ⟨first, ?_⟩
  rw [hhanded, MessageQueue.pushed, List.drop_append_of_le_length hfirst, List.flatMap_append,
    List.prefix_append_right_inj]
  exact handed_isPrefix_of_inPhase hphase

/-- Nothing handed over yet is the beginning of any messages. -/
theorem aligned_of_empty {connection : TcpConnection T} {phase : WritePhase T}
    (hempty : connection.socket.handed = phase.handed) : Aligned connection phase :=
  ⟨connection.messagesQueue.popped.length, Nat.le_refl _, by
    rw [List.drop_length, List.flatMap_nil, List.nil_append, hempty]⟩

theorem Aligned.move {connection next : TcpConnection T} {phase after : WritePhase T}
    {event : WriterEvent T} (haligned : Aligned connection phase)
    (hstill : next.socket.isOpen = true)
    (hmove : WriterMove connection phase event next after) : Aligned next after := by
  obtain ⟨first, hfirst, hhanded⟩ := haligned
  rcases handed_of_move hmove with ⟨-, -, bytes, sent, hbytes, hsent, hadd⟩ | ⟨hclosed, -⟩
  · refine ⟨first, ?_, ?_⟩
    · rw [hsent, List.length_append]
      exact Nat.le_add_right_of_le hfirst
    · calc next.socket.handed
          = (connection.messagesQueue.popped.drop first).flatMap Message.encode ++
              (phase.handed ++ bytes) := by rw [hbytes, hhanded, List.append_assoc]
        _ = (next.messagesQueue.popped.drop first).flatMap Message.encode ++ after.handed := by
            rw [hadd, hsent, List.drop_append_of_le_length hfirst, List.flatMap_append,
              List.append_assoc]
  · rw [hstill] at hclosed
    cases hclosed

/-- The handler of a late write that is no header in front of a body starts with
the header of the next message, if at all. -/
theorem aligned_of_late_write {connection next : TcpConnection T} {phase after : WritePhase T}
    {operation : AsyncOperation} (hphase : InPhase connection phase)
    (hopen : connection.socket.isOpen = true)
    (hhanded : connection.socket.handed = [])
    (hguard : ¬ ((∃ buffer, operation = .writeHeader buffer) ∧
      ∃ front, connection.messagesQueue.front = some front ∧ front.body ≠ []))
    (hmove : WriterMove connection phase (.completeWrite operation false) next after) :
    Aligned next after := by
  apply aligned_of_empty
  cases hmove with
  | headerWritten front rest hbody =>
      cases hphase with
      | header _ _ hsending hitems hwrites =>
          exact absurd ⟨⟨_, rfl⟩, front, MessageQueue.front_of_items hitems, hbody⟩ hguard
  | stalledByEmpty => simp [hhanded, WritePhase.handed]
  | emptyWritten => simp [hopen, hhanded, WritePhase.handed, AsyncOperation.buffer]
  | lastWritten => simp [hhanded, WritePhase.handed]
  | bodyWritten => simp [hopen, hhanded, WritePhase.handed, AsyncOperation.buffer]

/-- The handler of a late header write in front of a body hands over the body. -/
theorem handed_of_header_written {connection next : TcpConnection T}
    {phase after : WritePhase T} {buffer : List Byte} {front : Message T}
    (hphase : InPhase connection phase) (hopen : connection.socket.isOpen = true)
    (hhanded : connection.socket.handed = [])
    (hfront : connection.messagesQueue.front = some front) (hbody : front.body ≠ [])
    (hmove : WriterMove connection phase (.completeWrite (.writeHeader buffer) false) next after) :
    next.socket.handed = front.body := by
  cases hphase with
  | header other rest hsending hitems hwrites =>
      rw [MessageQueue.front_of_items hitems, Option.some.injEq] at hfront
      subst hfront
      cases hmove with
      | headerWritten => simp [hopen, hhanded, AsyncOperation.buffer]
      | stalledByEmpty _ hempty => exact absurd hempty hbody
      | emptyWritten _ following rest hempty => exact absurd hempty hbody
  | _ => cases hmove

/-! ## The invariant -/

/-- There is at most one outstanding write, so it is late or there is no late
write.  As long as it is late nothing is handed to the current connection. -/
structure Kept (state : Reconnectable T) (phase : WritePhase T) : Prop where
  inPhase : InPhase state.connection phase
  writes : state.lateWrites = [] ∨ state.lateWrites = outstandingWrites state.connection
  stream : state.isLive = true →
    (state.lateWrites = [] ∧ Aligned state.connection phase) ∨
      (state.lateWrites ≠ [] ∧ state.connection.socket.handed = [])
  isolated : Isolated state

theorem Kept.handed_of_late {state : Reconnectable T} {phase : WritePhase T}
    {operation : AsyncOperation} (hkept : Kept state phase) (hlive : state.isLive = true)
    (hlate : operation ∈ state.lateWrites) : state.connection.socket.handed = [] := by
  rcases hkept.stream hlive with ⟨hnone, -⟩ | ⟨-, hempty⟩
  · exact absurd hnone (List.ne_nil_of_mem hlate)
  · exact hempty

/-- Handing over nothing keeps the stream, whatever is queued in addition. -/
theorem Streams.of_handed {connection next : TcpConnection T} (hstreams : Streams connection)
    (hhanded : next.socket.handed = connection.socket.handed)
    (hpushed : connection.messagesQueue.pushed <+: next.messagesQueue.pushed) :
    Streams next := by
  obtain ⟨first, hbeginning⟩ := hstreams
  obtain ⟨more, hmore⟩ := hpushed
  refine ⟨first, hhanded ▸ hbeginning.trans ?_⟩
  rw [← hmore, List.drop_append, List.flatMap_append]
  exact List.prefix_append _ _

/-- Events that leave the writer alone keep the invariant. -/
theorem Kept.spared {state next : Reconnectable T} {phase : WritePhase T}
    (hkept : Kept state phase)
    (hside : Spared (writingSide state.connection) (writingSide next.connection))
    (hestablished : next.established = state.established)
    (hlate : next.lateWrites = state.lateWrites)
    (hclosed : next.closedByLate = false) : Kept next phase := by
  obtain ⟨isOpen, hopen, hside⟩ : ∃ isOpen,
      (isOpen = true → state.connection.socket.isOpen = true) ∧
        writingSide next.connection = { writingSide state.connection with isOpen } := by
    rcases hside with hsame | hshut
    · exact ⟨_, id, hsame⟩
    · exact ⟨false, fun hopen => Bool.noConfusion hopen, hshut⟩
  obtain ⟨hisOpen, hhanded, hqueue, hflag, hwrites⟩ := fields_of_writingSide hside
  refine ⟨hkept.inPhase.congr hqueue hflag hwrites, ?_, ?_, ?_, hclosed⟩
  · rw [hlate, hwrites]
    exact hkept.writes
  · intro hlive
    rw [Reconnectable.isLive, Bool.and_eq_true, hestablished, hisOpen] at hlive
    have hbefore : state.isLive = true := by
      rw [Reconnectable.isLive, hlive.1, hopen hlive.2]
      rfl
    rw [hlate, hhanded, Aligned, hqueue, hhanded]
    exact hkept.stream hbefore
  · intro hnext
    apply (hkept.isolated.streams (hestablished ▸ hnext)).of_handed hhanded
    rw [hqueue]

section Moves

variable {state : Reconnectable T} {phase after : WritePhase T} {event : WriterEvent T}

/-- No move of the writer opens the socket. -/
theorem isLive_of_move {connection : TcpConnection T}
    (hmove : WriterMove state.connection phase event connection after)
    (hlive : (state.established && connection.socket.isOpen) = true) :
    state.isLive = true ∧ connection.socket.isOpen = true := by
  obtain ⟨hstate, hstill⟩ := Bool.and_eq_true_iff.mp hlive
  rcases handed_of_move hmove with ⟨hopen, -⟩ | ⟨hclosed, -⟩
  · exact ⟨by rw [Reconnectable.isLive, hstate, hopen]; rfl, hstill⟩
  · rw [hstill] at hclosed
    cases hclosed

/-- What remains to be shown for a move of the writer: which outstanding writes
are late, and the stream of a connection that is still live. -/
theorem Kept.written {next : Reconnectable T} (hkept : Kept state phase)
    (hmove : WriterMove state.connection phase event next.connection after)
    (hestablished : next.established = state.established)
    (hwrites : next.lateWrites = [] ∨ next.lateWrites = outstandingWrites next.connection)
    (hstream : next.isLive = true →
      (next.lateWrites = [] ∧ Aligned next.connection after) ∨
        (next.lateWrites ≠ [] ∧ next.connection.socket.handed = []))
    (hclosed : next.closedByLate = false) : Kept next after := by
  have hphase := hmove.inPhase hkept.inPhase
  refine ⟨hphase, hwrites, hstream, ?_, hclosed⟩
  intro hnext
  rcases handed_of_move hmove with ⟨-, hstill, -⟩ | ⟨-, hhanded⟩
  · have hlive : next.isLive = true := by
      rw [Reconnectable.isLive, hnext, hstill]
      rfl
    rcases hstream hlive with ⟨-, haligned⟩ | ⟨-, hempty⟩
    · exact haligned.streams hphase
    · exact ⟨0, by rw [hempty]; exact List.nil_prefix⟩
  · apply (hkept.isolated.streams (hestablished ▸ hnext)).of_handed hhanded
    rw [pushed_of_move hkept.inPhase hmove]
    exact List.prefix_append _ _

end Moves

omit [HeaderLayout T] in
/-- While a late write is outstanding, no other write is. -/
theorem not_isFresh_of_late {state : Reconnectable T} {operation : AsyncOperation}
    {error : Bool} (hsame : state.lateWrites = outstandingWrites state.connection)
    (hwrite : operation.isWrite = true) :
    state.isFresh (.completeWrite operation error) = false := by
  have hcount : state.late.count operation = state.connection.pending.count operation := by
    calc state.late.count operation
        = state.lateWrites.count operation := (List.count_filter hwrite).symm
      _ = (outstandingWrites state.connection).count operation := by rw [hsame]
      _ = state.connection.pending.count operation := List.count_filter hwrite
  simp [Reconnectable.isFresh, completedBy, hcount]

section Events

variable [Inhabited T] {state : Reconnectable T} {phase : WritePhase T}

/-- An event of the current connection keeps the invariant. -/
theorem Kept.during {event : ConnectionEvent T} {next : TcpConnection T}
    (hkept : Kept state phase) (hfresh : state.isFresh event = true)
    (hstep : connectionStep (.inert T) state.connection event = some next) :
    ∃ after, Kept { state with connection := next } after := by
  rcases writingSide_of_step hstep with ⟨writerEvent, hevent, hwriter⟩ | hspared
  · obtain ⟨after, hmove⟩ := hkept.inPhase.move hwriter
    refine ⟨after, ?_⟩
    by_cases hlate : state.lateWrites = []
    · refine hkept.written hmove rfl (.inl hlate) ?_ hkept.isolated.notClosed
      intro hlive
      obtain ⟨hbefore, hstill⟩ := isLive_of_move hmove hlive
      rcases hkept.stream hbefore with ⟨-, haligned⟩ | ⟨hnone, -⟩
      · exact .inl ⟨hlate, haligned.move hstill hmove⟩
      · exact absurd hlate hnone
    · have hsame := hkept.writes.resolve_left hlate
      cases event with
      | sendMessage message =>
          cases hevent
          cases hmove with
          | queued _ _ hbusy =>
              refine hkept.written (.queued phase message hbusy) rfl (.inr hsame) ?_
                hkept.isolated.notClosed
              intro hlive
              rcases hkept.stream hlive with ⟨hnone, -⟩ | hempty
              · exact absurd hnone hlate
              · exact .inr hempty
          | started _ front rest hopen hitems =>
              cases hkept.inPhase with
              | idle hsending hwrites => exact absurd (hsame.trans hwrites) hlate
      | completeWrite operation error =>
          cases hevent
          rw [writerStep, Option.ite_none_right_eq_some] at hwriter
          have hwrite := (TcpConnection.handled_of_completeWrite hwriter.2).1
          rw [not_isFresh_of_late hsame hwrite] at hfresh
          cases hfresh
      | _ => cases hevent
  · exact ⟨phase, hkept.spared hspared rfl rfl hkept.isolated.notClosed⟩

omit [Inhabited T] in
/-- The only outstanding write is the late one that has been taken. -/
theorem lateWrites_erase {operation : AsyncOperation} (hphase : InPhase state.connection phase)
    (hsame : state.lateWrites = outstandingWrites state.connection)
    (hlate : operation ∈ state.lateWrites) :
    (state.late.erase operation).filter AsyncOperation.isWrite = [] := by
  rw [← List.erase_filter]
  change state.lateWrites.erase operation = []
  rw [hsame] at hlate ⊢
  rw [hphase.outstandingWrites_eq hlate, List.erase_cons_head]

variable {operation : AsyncOperation} {error : Bool} {found : Option (Message T)}
variable {next : TcpConnection T}

omit [Inhabited T] in
/-- Outside the guard a late write leaves the new connection whole. -/
theorem Kept.lateWrite (hkept : Kept state phase) (hlate : operation ∈ state.late)
    (hmem : operation ∈ state.connection.pending)
    (hguard : ¬ TouchesCurrent state (.completeLate operation error found))
    (hcomplete : completeLateWrite state.connection operation error = some next) :
    ∃ after, Kept (state.afterLate operation next) after := by
  obtain ⟨written, hwritten, rfl⟩ := Option.map_eq_some_iff.mp hcomplete
  have hlateWrite : operation ∈ state.lateWrites :=
    List.mem_filter.mpr ⟨hlate, (TcpConnection.handled_of_completeWrite hwritten).1⟩
  have hsame := hkept.writes.resolve_left (List.ne_nil_of_mem hlateWrite)
  obtain ⟨after, hmove⟩ : ∃ after, WriterMove state.connection phase
      (.completeWrite operation error) written after :=
    hkept.inPhase.move ((if_pos hmem).trans hwritten)
  have hharmless : state.isLive = true → error = false ∧
      ¬ ((∃ buffer, operation = .writeHeader buffer) ∧
        ∃ front, state.connection.messagesQueue.front = some front ∧ front.body ≠ []) := by
    intro hlive
    obtain ⟨herror, hheader⟩ := not_or.mp fun htouches => hguard ⟨hlive, htouches⟩
    exact ⟨Bool.not_eq_true _ ▸ herror, hheader⟩
  have hafter : Kept (state.afterLate operation written) after := by
    have hnone := lateWrites_erase hkept.inPhase hsame hlateWrite
    refine hkept.written hmove rfl (.inl hnone) ?_ ?_
    · intro hlive
      obtain ⟨hbefore, hstill⟩ := isLive_of_move hmove hlive
      obtain ⟨rfl, hheader⟩ := hharmless hbefore
      have hempty := hkept.handed_of_late hbefore hlateWrite
      exact .inl ⟨hnone, aligned_of_late_write hkept.inPhase
        (Bool.and_eq_true_iff.mp hbefore).2 hempty hheader hmove⟩
    · rw [Reconnectable.afterLate, hkept.isolated.notClosed, Bool.false_or]
      cases hlive : state.isLive with
      | false => rfl
      | true =>
          have hundisturbed : Undisturbed (T := T) (.completeWrite operation error) :=
            (hharmless hlive).1
          rw [isOpen_of_undisturbed (Bool.and_eq_true_iff.mp hlive).2 hundisturbed hmove]
          rfl
  exact ⟨after, hafter.spared (.inl rfl) rfl rfl hafter.isolated.notClosed⟩

/-- A late read closes the socket or leaves the writer alone. -/
theorem Kept.lateRead (hkept : Kept state phase) (hwrite : operation.isWrite = false)
    (hguard : ¬ TouchesCurrent state (.completeLate operation error found))
    (hcomplete : completeLateRead state.connection operation error found = some next) :
    Kept (state.afterLate operation next) phase := by
  have hside : Spared (writingSide state.connection) (writingSide next) ∧
      (error = false → writingSide next = writingSide state.connection) := by
    rw [← writingSide_taken hwrite state.connection
      (if error then state.connection.incomingMessage else found)]
    cases operation with
    | readHeader => exact writingSide_of_postReadMessageHeader hcomplete
    | readBody size =>
        exact writingSide_of_postReadMessageBody (Outcome.toOption_eq_some.mp hcomplete)
    | _ => cases hcomplete
  refine hkept.spared hside.1 rfl (AsyncOperation.filter_erase hwrite state.late) ?_
  rw [Reconnectable.afterLate, hkept.isolated.notClosed, Bool.false_or]
  cases hlive : state.isLive with
  | false => rfl
  | true =>
      have herror : error = false := by
        by_contra hfailed
        exact hguard ⟨hlive, .inl (Bool.not_eq_false _ ▸ hfailed)⟩
      rw [show next.socket.isOpen = state.connection.socket.isOpen from
        congrArg WritingSide.isOpen (hside.2 herror), (Bool.and_eq_true_iff.mp hlive).2]
      rfl

theorem Kept.completeLate (hkept : Kept state phase) (hlate : operation ∈ state.late)
    (hmem : operation ∈ state.connection.pending)
    (hguard : ¬ TouchesCurrent state (.completeLate operation error found))
    (hcomplete : Reconnection.completeLate state.connection operation error found =
      some next) :
    ∃ after, Kept (state.afterLate operation next) after := by
  rw [Reconnection.completeLate] at hcomplete
  split at hcomplete
  next hwrite => exact hkept.lateWrite hlate hmem hguard hcomplete
  next hwrite =>
    exact ⟨phase, hkept.lateRead (Bool.not_eq_true _ ▸ hwrite) hguard hcomplete⟩

omit [Inhabited T] in
/-- At a `connect` every outstanding write becomes late. -/
theorem Kept.connect (hkept : Kept state phase) :
    Kept
      { state with
        connection := (state.connection.connect true).2
        established := true
        late := state.connection.pending.filter onSocket } phase := by
  have hlate : (state.connection.pending.filter onSocket).filter AsyncOperation.isWrite =
      outstandingWrites state.connection := by
    rw [List.filter_filter]
    apply List.filter_congr
    intro operation _
    cases operation <;> rfl
  refine ⟨hkept.inPhase.congr rfl rfl rfl, .inr hlate, fun _ => ?_,
    fun _ => ⟨0, List.nil_prefix⟩, hkept.isolated.notClosed⟩
  rw [Reconnectable.lateWrites, hlate]
  cases hkept.inPhase with
  | idle hsending hwrites => exact .inl ⟨hwrites, aligned_of_empty rfl⟩
  | stalled hsending hwrites => exact .inl ⟨hwrites, aligned_of_empty rfl⟩
  | header front rest hsending hitems hwrites => exact .inr ⟨by simp [hwrites], rfl⟩
  | body front rest hsending hitems hbody hwrites => exact .inr ⟨by simp [hwrites], rfl⟩

omit [Inhabited T] in
/-- Between two connections the socket is nobody's. -/
theorem Kept.detached {connection : TcpConnection T} (hkept : Kept state phase)
    (hqueue : connection.messagesQueue = state.connection.messagesQueue)
    (hflag : connection.sendingInProgress = state.connection.sendingInProgress)
    (hwrites : outstandingWrites connection = outstandingWrites state.connection) :
    Kept { state with connection, established := false } phase where
  inPhase := hkept.inPhase.congr hqueue hflag hwrites
  writes := by
    rw [hwrites]
    exact hkept.writes
  stream hlive := by cases hlive
  isolated := ⟨fun hestablished => Bool.noConfusion hestablished, hkept.isolated.notClosed⟩

/-- Every step outside the guard keeps the invariant. -/
theorem Kept.step {after : Reconnectable T} {event : ReconnectEvent T}
    (hkept : Kept state phase) (hguard : ¬ TouchesCurrent state event)
    (hstep : reconnectStep state event = some after) : ∃ phase, Kept after phase := by
  cases event with
  | connect succeeds =>
      cases succeeds with
      | true =>
          simp only [reconnectStep, Option.ite_none_left_eq_some] at hstep
          obtain ⟨-, hstep⟩ := hstep
          cases hstep
          exact ⟨phase, hkept.connect⟩
      | false =>
          cases hstep
          cases hlive : state.isLive with
          | true =>
              obtain ⟨hestablished, hopen⟩ := Bool.and_eq_true_iff.mp hlive
              refine ⟨phase, hkept.spared (.inl ?_) hestablished.symm rfl
                hkept.isolated.notClosed⟩
              simp [TcpConnection.connect, writingSide, outstandingWrites, hopen]
          | false => exact ⟨phase, hkept.detached rfl rfl rfl⟩
  | makeNewSocket =>
      cases hstep
      exact ⟨phase, hkept.detached rfl rfl rfl⟩
  | startReading =>
      cases hstep
      exact ⟨phase, hkept.spared (.inl (writingSide_startReadingSequence _)) rfl rfl
        hkept.isolated.notClosed⟩
  | during event =>
      simp only [reconnectStep, Option.ite_none_right_eq_some] at hstep
      obtain ⟨hfresh, hstep⟩ := hstep
      obtain ⟨connection, hconnection, rfl⟩ := Option.map_eq_some_iff.mp hstep
      exact hkept.during hfresh hconnection
  | completeLate operation error found =>
      simp only [reconnectStep, Option.ite_none_right_eq_some] at hstep
      obtain ⟨⟨hlate, hmem⟩, hstep⟩ := hstep
      obtain ⟨connection, hcomplete, rfl⟩ := Option.map_eq_some_iff.mp hstep
      exact hkept.completeLate hlate hmem hguard hcomplete

/-- A late handler that is given an error closes the socket. -/
theorem isOpen_of_failed {connection : TcpConnection T}
    (hcomplete : Reconnection.completeLate connection operation true found = some next) :
    next.socket.isOpen = false := by
  have hclosed : ∀ other : TcpConnection T, other.disconnect.socket.isOpen = false :=
    fun other => congrArg WritingSide.isOpen (writingSide_disconnect other)
  cases operation with
  | timerWait millisec aborted => cases hcomplete
  | _ =>
      cases hcomplete
      exact hclosed _

/-- The guard is exact: a step inside it closes the new socket, or hands over a
body before anything else. -/
theorem Kept.touched {after : Reconnectable T} {event : ReconnectEvent T}
    (hkept : Kept state phase) (htouches : TouchesCurrent state event)
    (hstep : reconnectStep state event = some after) :
    after.closedByLate = true ∨
      ∃ front, state.connection.messagesQueue.front = some front ∧ front.body ≠ [] ∧
        after.connection.socket.handed = front.body := by
  cases event with
  | completeLate operation error found =>
      obtain ⟨hlive, hhow⟩ := htouches
      simp only [reconnectStep, Option.ite_none_right_eq_some] at hstep
      obtain ⟨⟨hlate, hmem⟩, hstep⟩ := hstep
      obtain ⟨connection, hcomplete, rfl⟩ := Option.map_eq_some_iff.mp hstep
      cases error with
      | true =>
          left
          rw [Reconnectable.afterLate, hlive, isOpen_of_failed hcomplete]
          simp
      | false =>
          right
          obtain ⟨⟨buffer, rfl⟩, front, hfront, hbody⟩ := hhow.resolve_left Bool.false_ne_true
          refine ⟨front, hfront, hbody, ?_⟩
          have hempty := hkept.handed_of_late hlive (List.mem_filter.mpr ⟨hlate, rfl⟩)
          obtain ⟨written, hwritten, rfl⟩ := Option.map_eq_some_iff.mp hcomplete
          obtain ⟨later, hmove⟩ : ∃ later, WriterMove state.connection phase
              (.completeWrite (.writeHeader buffer) false) written later :=
            hkept.inPhase.move ((if_pos hmem).trans hwritten)
          have hhanded : written.socket.handed = front.body :=
            handed_of_header_written hkept.inPhase (Bool.and_eq_true_iff.mp hlive).2 hempty
              hfront hbody hmove
          exact hhanded
  | _ => exact False.elim htouches

end Events

theorem kept_created : Kept (created T) .idle where
  inPhase := .idle rfl rfl
  writes := .inl rfl
  stream hlive := by cases hlive
  isolated := ⟨fun hestablished => Bool.noConfusion hestablished, rfl⟩

/-- In every run from the constructor, over any number of connects, in which no
late handler touches a live connection: what is handed to the current connection
starts with the first byte of a message and is a beginning of whole messages,
and no late handler has closed its socket. -/
theorem isolated_of_guarded [Inhabited T] {events : List (ReconnectEvent T)}
    (hguard : EveryStep reconnectStep (fun state event => ¬ TouchesCurrent state event)
      (created T) events) :
    EveryState reconnectStep Isolated (created T) events := by
  have hkeep : ∀ (state : Reconnectable T) event next, (∃ phase, Kept state phase) →
      ¬ TouchesCurrent state event → reconnectStep state event = some next →
      ∃ phase, Kept next phase := by
    intro state event next hkept hguard hstep
    obtain ⟨phase, hkept⟩ := hkept
    exact hkept.step hguard hstep
  apply (everyState_of_everyStep hkeep ⟨.idle, kept_created⟩ hguard).mono
  intro state hkept
  obtain ⟨phase, hkept⟩ := hkept
  exact hkept.isolated

private def laden : Message UInt32 := ⟨⟨1, 2⟩, [8, 7]⟩

private def hollow : Message UInt32 := ⟨⟨5, 0⟩, []⟩

private def headerWrite (message : Message UInt32) : AsyncOperation :=
  .writeHeader (HeaderLayout.encode message.header)

/-- The body of the first message is still being written when the socket is
closed, and its handler runs on the next connection. -/
private def lateBody : List (ReconnectEvent UInt32) :=
  [.connect true, .startReading, .during (.sendMessage laden),
    .during (.completeWrite (headerWrite laden) false), .during (.sendMessage hollow),
    .during .disconnect, .during (.completeRead .readHeader true), .connect true,
    .completeLate (.writeBody laden.body) false none]

/-- The late body write pops its message and starts with the header of the next
one. -/
theorem isolated_after_late_body : ∃ finish,
    run reconnectStep (created UInt32) lateBody = some finish ∧
    finish.connection.socket.handed = hollow.encode ∧
    EveryState reconnectStep Isolated (created UInt32) lateBody := by
  refine ⟨_, rfl, rfl, isolated_of_guarded (EveryStep.of_forall_mem ?_)⟩
  intro state event hevent
  simp only [lateBody, List.mem_cons, List.not_mem_nil, or_false] at hevent
  rcases hevent with rfl | rfl | rfl | rfl | rfl | rfl | rfl | rfl | rfl <;>
    simp [TouchesCurrent]

/-- A header is being written when the socket is closed and connected again.
The aborted write closes the new socket, and the handler of a successful one
hands the body to a new socket that has not seen the header. -/
theorem late_header_touches_current :
    (∃ finish, run reconnectStep (created UInt32)
        [.connect true, .during (.sendMessage laden), .during .disconnect, .connect true,
          .completeLate (headerWrite laden) true none] = some finish ∧
      finish.connection.isConnected = false ∧ ¬ Isolated finish) ∧
    ∃ finish, run reconnectStep (created UInt32)
        [.connect true, .during (.sendMessage laden), .during .disconnect, .makeNewSocket,
          .connect true, .completeLate (headerWrite laden) false none] = some finish ∧
      finish.connection.socket.handed = laden.body ∧ ¬ Isolated finish := by
  refine ⟨⟨_, rfl, rfl, ?_⟩, _, rfl, rfl, ?_⟩
  · intro hisolated
    cases hisolated.notClosed
  · intro hisolated
    obtain ⟨first, hbeginning⟩ : ∃ first,
        laden.body <+: ([laden].drop first).flatMap Message.encode := hisolated.streams rfl
    cases first with
    | zero => exact absurd hbeginning (by decide)
    | succ first =>
        rw [List.drop_succ_cons, List.drop_nil, List.flatMap_nil] at hbeginning
        exact absurd (List.prefix_nil.mp hbeginning) (by decide)

end ProcessManagerService.Reconnection
