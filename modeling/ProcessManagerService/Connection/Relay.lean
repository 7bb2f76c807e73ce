import Mathlib.Tactic.MkIffOfInductiveProp
import ProcessManagerService.Connection.ConnectedState
import ProcessManagerService.Connection.WireStream
import ProcessManagerService.Connection.WritingFrame

/-!
# Classes that send

The overrides of a derived class are called in the middle of the read loop and
may send messages of their own.  A class whose overrides do nothing to their
connection but send and set the timer keeps the byte stream of the writer: what
has been handed to the socket only grows, and it is always a beginning of the
encoding of what has been queued, also after the socket has been closed.
-/

namespace ProcessManagerService.Relay

open Communication Connection PartialRuns ReadLoop WireStream WriteChain WritingFrame

variable {T Object Error : Type*}

/-- What an override may do to its connection. -/
inductive Command (T : Type*) where
  | sendMessage (message : Message T)
  | setTimerExpiration (millisec : ℕ)

/-- A reader can tell the message from what follows it, and it goes on reading:
the header announces the body, which is not empty. -/
@[mk_iff]
structure Framable (message : Message T) : Prop where
  wellSized : message.WellSized
  body : message.body ≠ []

/-- Nothing but framable messages is sent. -/
def Command.Framed : Command T → Prop
  | sendMessage message => Framable message
  | setTimerExpiration _ => True

/-- The event is no call of `sendMessage` with a message that is not framable. -/
def Framed : ConnectionEvent T → Prop
  | .sendMessage message => Framable message
  | _ => True

section Classes

variable [HeaderLayout T]

def commandStep (connection : TcpConnection T) : Command T → Option (TcpConnection T)
  | .sendMessage message => connection.sendMessage message
  | .setTimerExpiration millisec => some (connection.setTimerExpiration millisec)

def Commanded (connection next : TcpConnection T) : Prop :=
  ∃ commands, (∀ command ∈ commands, Command.Framed command) ∧
    run commandStep connection commands = some next

/-- The overrides of the class, when they return, have only given commands. -/
structure Relays (derived : DerivedConnection T Object Error) : Prop where
  handleReceivedMessage : ∀ object message next,
    derived.handleReceivedMessage object message = .returned next →
      Commanded (derived.base object) (derived.base next)
  onTimerExpiration : ∀ object next, derived.onTimerExpiration object = .returned next →
    Commanded (derived.base object) (derived.base next)

theorem commanded_nil (connection : TcpConnection T) : Commanded connection connection :=
  ⟨[], fun _ hmem => absurd hmem List.not_mem_nil, rfl⟩

/-- Commands that follow each other. -/
theorem Commanded.trans {first second third : TcpConnection T}
    (hfirst : Commanded first second) (hsecond : Commanded second third) :
    Commanded first third := by
  obtain ⟨before, hbefore, hrunBefore⟩ := hfirst
  obtain ⟨after, hafter, hrunAfter⟩ := hsecond
  refine ⟨before ++ after, ?_, ?_⟩
  · intro command hmem
    rcases List.mem_append.mp hmem with hmem | hmem
    · exact hbefore command hmem
    · exact hafter command hmem
  · rw [run_append, hrunBefore, Option.bind_some, hrunAfter]

/-- Writing down what is handled gives no commands. -/
theorem Relays.recording {derived : DerivedConnection T Object Error}
    (hrelays : Relays derived) : Relays derived.recording where
  handleReceivedMessage object message next hreturned := by
    obtain ⟨handled, hhandled, rfl⟩ := Outcome.map_eq_returned.mp hreturned
    exact hrelays.handleReceivedMessage _ _ _ hhandled
  onTimerExpiration object next hreturned := by
    obtain ⟨handled, hhandled, rfl⟩ := Outcome.map_eq_returned.mp hreturned
    exact hrelays.onTimerExpiration _ _ hhandled

theorem relays_inert : Relays (.inert T) where
  handleReceivedMessage object message next hreturned := by
    rw [← Outcome.returned.inj hreturned]
    exact commanded_nil object
  onTimerExpiration object next hreturned := by
    rw [← Outcome.returned.inj hreturned]
    exact commanded_nil object

end Classes

/-! ## The stream of the writer -/

section Stream

variable [HeaderLayout T]

/-- The writer of an open socket: the handed bytes are those of the popped
messages and, of the front message, what the phase says.  It is idle only with
an empty queue, and it never stalls. -/
structure Flowing (connection : TcpConnection T) (phase : WritePhase T) : Prop where
  inPhase : InPhase connection phase
  handed : connection.socket.handed =
    connection.messagesQueue.popped.flatMap Message.encode ++ phase.handed
  drained : phase = .idle → connection.messagesQueue.items = []
  moving : phase ≠ .stalled

/-- The writer of a socket that may have been closed meanwhile. -/
structure Streaming (connection : TcpConnection T) : Prop where
  framable : ∀ message ∈ connection.messagesQueue.pushed, Framable message
  isPrefix : connection.socket.handed <+:
    connection.messagesQueue.pushed.flatMap Message.encode
  writer : ∃ phase, InPhase connection phase ∧
    (connection.socket.isOpen = true → Flowing connection phase)

/-- The stream goes on where it was. -/
structure Extends (connection next : TcpConnection T) : Prop where
  streaming : Streaming next
  handed : connection.socket.handed <+: next.socket.handed

theorem Extends.trans {first second third : TcpConnection T} (hfirst : Extends first second)
    (hsecond : Streaming second → Extends second third) : Extends first third :=
  have hnext := hsecond hfirst.streaming
  ⟨hnext.streaming, hfirst.handed.trans hnext.handed⟩

theorem Flowing.isPrefix {connection : TcpConnection T} {phase : WritePhase T}
    (hflowing : Flowing connection phase) :
    connection.socket.handed <+:
      connection.messagesQueue.pushed.flatMap Message.encode := by
  rw [hflowing.handed, MessageQueue.pushed, List.flatMap_append, List.prefix_append_right_inj]
  exact handed_isPrefix_of_inPhase hflowing.inPhase

/-- A connection that has just been connected. -/
theorem streaming_connected : Streaming (connected T) where
  framable _ hmem := absurd hmem List.not_mem_nil
  isPrefix := List.nil_prefix
  writer := ⟨.idle, inPhase_connected, fun _ => ⟨inPhase_connected, rfl, fun _ => rfl, nofun⟩⟩

variable {connection next : TcpConnection T}

/-- A front message with an empty body would not be framable. -/
theorem Streaming.front_body (hstreaming : Streaming connection) {front : Message T}
    {rest : List (Message T)} (hitems : connection.messagesQueue.items = front :: rest) :
    front.body ≠ [] := by
  apply (hstreaming.framable front _).body
  rw [MessageQueue.pushed, hitems]
  exact List.mem_append_right _ List.mem_cons_self

theorem Flowing.move {phase after : WritePhase T} {event : WriterEvent T}
    (hstreaming : Streaming connection) (hflowing : Flowing connection phase)
    (hopen : connection.socket.isOpen = true) (hstill : next.socket.isOpen = true)
    (hmove : WriterMove connection phase event next after) : Flowing next after := by
  obtain ⟨-, -, bytes, sent, hbytes, hsent, hadd⟩ | ⟨hclosed, -⟩ := handed_of_move hmove
  · have hhanded : next.socket.handed =
        next.messagesQueue.popped.flatMap Message.encode ++ after.handed :=
      calc next.socket.handed
          = connection.messagesQueue.popped.flatMap Message.encode ++
              (phase.handed ++ bytes) := by
            rw [hbytes, hflowing.handed, List.append_assoc]
        _ = next.messagesQueue.popped.flatMap Message.encode ++ after.handed := by
            rw [hadd, hsent, List.flatMap_append, List.append_assoc]
    have hphase := hflowing.inPhase
    refine ⟨hmove.inPhase hphase, hhanded, ?_, ?_⟩
    · intro hidle
      cases hmove with
      | queued _ message hbusy =>
          have hnot : phase ≠ .idle := hbusy.resolve_left (by simp [hopen])
          cases phase with
          | idle => exact absurd rfl hnot
          | _ => cases hidle
      | disconnected => exact absurd hstill (by simp [TcpConnection.disconnect, hopen])
      | failed => exact absurd hstill (by simp [TcpConnection.disconnect, hopen,
          TcpConnection.finishWrite])
      | lastWritten front => rfl
      | _ => cases hidle
    · cases hmove with
      | queued _ message =>
          have hmoving := hflowing.moving
          cases phase with
          | stalled => exact absurd rfl hmoving
          | _ =>
              intro hstalled
              cases hstalled
      | disconnected => exact hflowing.moving
      | stalledByEmpty front hbody =>
          cases hphase with
          | header _ _ hsending hitems => exact absurd hbody (hstreaming.front_body hitems)
      | _ =>
          intro hstalled
          cases hstalled
  · rw [hstill] at hclosed
    cases hclosed

/-- A step of the writer extends the stream. -/
theorem Streaming.writerStep {event : WriterEvent T} (hstreaming : Streaming connection)
    (hframed : ∀ message ∈ sentBy event, Framable message)
    (hstep : writerStep connection event = some next) : Extends connection next := by
  obtain ⟨phase, hphase, hopenFlowing⟩ := hstreaming.writer
  obtain ⟨after, hmove⟩ := hphase.move hstep
  have hpushed := pushed_of_move hphase hmove
  have hframable : ∀ message ∈ next.messagesQueue.pushed, Framable message := by
    intro message hmem
    rw [hpushed] at hmem
    rcases List.mem_append.mp hmem with hold | hnew
    · exact hstreaming.framable message hold
    · exact hframed message hnew
  rcases handed_of_move hmove with ⟨hopen, hstill, bytes, -, hbytes, -⟩ | ⟨hclosed, hhanded⟩
  · have hflowing := (hopenFlowing hopen).move hstreaming hopen hstill hmove
    refine ⟨⟨hframable, hflowing.isPrefix, after, hflowing.inPhase, fun _ => hflowing⟩, ?_⟩
    rw [hbytes]
    exact List.prefix_append _ _
  · refine ⟨⟨hframable, ?_, after, hmove.inPhase hphase, ?_⟩, ?_⟩
    · rw [hhanded, hpushed, List.flatMap_append]
      exact hstreaming.isPrefix.trans (List.prefix_append _ _)
    · intro hopen
      rw [hclosed] at hopen
      cases hopen
    · rw [hhanded]

theorem Streaming.sendMessage {message : Message T} (hstreaming : Streaming connection)
    (hmessage : Framable message) (hsend : connection.sendMessage message = some next) :
    Extends connection next := by
  have hframed : ∀ other ∈ sentBy (.sendMessage message), Framable other := by
    intro other hmem
    rwa [List.mem_singleton.mp hmem]
  exact hstreaming.writerStep hframed hsend

/-- What leaves the writer alone, or closes its socket, extends the stream by
nothing. -/
theorem Streaming.spared (hstreaming : Streaming connection)
    (hside : Spared (writingSide connection) (writingSide next)) : Extends connection next := by
  obtain ⟨isOpen, hopen, hside⟩ : ∃ isOpen,
      (isOpen = true → connection.socket.isOpen = true) ∧
        writingSide next = { writingSide connection with isOpen } := by
    rcases hside with hsame | hshut
    · exact ⟨_, id, hsame⟩
    · exact ⟨false, fun hopen => Bool.noConfusion hopen, hshut⟩
  obtain ⟨hisOpen, hhanded, hqueue, hflag, hwrites⟩ := fields_of_writingSide hside
  obtain ⟨phase, hphase, hopenFlowing⟩ := hstreaming.writer
  have hsame : InPhase next phase := hphase.congr hqueue hflag hwrites
  refine ⟨⟨?_, ?_, phase, hsame, ?_⟩, ?_⟩
  · rw [hqueue]
    exact hstreaming.framable
  · rw [hhanded, hqueue]
    exact hstreaming.isPrefix
  · intro hstill
    have hflowing := hopenFlowing (hopen (hisOpen ▸ hstill))
    refine ⟨hsame, ?_, ?_, hflowing.moving⟩
    · rw [hhanded, hqueue]
      exact hflowing.handed
    · rw [hqueue]
      exact hflowing.drained
  · rw [hhanded]

theorem Streaming.same (hstreaming : Streaming connection)
    (hside : writingSide next = writingSide connection) : Extends connection next :=
  hstreaming.spared (.inl hside)

theorem Streaming.commanded (hstreaming : Streaming connection)
    (hcommanded : Commanded connection next) : Extends connection next := by
  obtain ⟨commands, hframed, hrun⟩ := hcommanded
  induction commands generalizing connection with
  | nil =>
      cases hrun
      exact ⟨hstreaming, List.prefix_refl _⟩
  | cons command commands ih =>
      obtain ⟨middle, hstep, hrest⟩ := run_cons_eq_some.mp hrun
      have hfirst : Extends connection middle := by
        cases command with
        | sendMessage message =>
            exact hstreaming.sendMessage (hframed _ List.mem_cons_self) hstep
        | setTimerExpiration millisec =>
            cases hstep
            exact hstreaming.same (writingSide_setTimerExpiration connection millisec)
      apply hfirst.trans
      intro hmiddle
      exact ih hmiddle (fun other hmem => hframed other (List.mem_cons_of_mem command hmem)) hrest

end Stream

/-! ## One event of a class that relays -/

section Step

variable [HeaderLayout T] [Inhabited T] {derived : DerivedConnection T Object Error}
  {object next : Object}

/-- The completion of a read extends the stream by what its handler sends. -/
theorem Streaming.completeRead (hrelays : Relays derived) {operation : AsyncOperation}
    {error : Bool} (hstreaming : Streaming (derived.base object))
    (hread : operation.isRead = true)
    (hcomplete : completeRead derived object operation error = .returned next) :
    Extends (derived.base object) (derived.base next) := by
  obtain ⟨finished, hcall, hhandler⟩ := Outcome.andThen_eq_returned.mp hcomplete
  obtain ⟨read, hfinish, rfl⟩ := derived.call_eq_returned.mp hcall
  have hwrite : operation.isWrite = false := by
    cases operation with
    | writeHeader | writeBody => cases hread
    | _ => rfl
  apply (hstreaming.same (writingSide_of_finishRead hwrite hfinish)).trans
  intro hfinished
  cases operation with
  | readHeader =>
      obtain ⟨posted, hpost, rfl⟩ := derived.call_eq_returned.mp hhandler
      rw [derived.base_withBase] at hpost ⊢
      exact hfinished.spared (writingSide_of_postReadMessageHeader hpost).1
  | readBody size =>
      cases error with
      | true =>
          cases hhandler
          rw [derived.base_update, derived.base_withBase]
          exact hfinished.spared (.inr (writingSide_disconnect read))
      | false =>
          obtain ⟨handled, hhandled, hrestart⟩ := Outcome.andThen_eq_returned.mp hhandler
          cases hrestart
          have hcommanded := hrelays.handleReceivedMessage _ _ _ hhandled
          rw [derived.base_update, derived.base_withBase] at hcommanded
          have hmoved : Extends read { read with incomingMessage := none } := hfinished.same rfl
          apply hmoved.trans
          intro hready
          apply (hready.commanded hcommanded).trans
          intro hsent
          rw [derived.base_update]
          exact hsent.same (writingSide_startReadingSequence _)
  | _ => cases hread

/-- Whatever happens to a connection, its stream goes on where it was. -/
theorem Streaming.step (hrelays : Relays derived) {event : ConnectionEvent T}
    (hstreaming : Streaming (derived.base object)) (hframed : Framed event)
    (hstep : connectionStep derived object event = some next) :
    Extends (derived.base object) (derived.base next) := by
  cases event with
  | arrive segment =>
      cases hstep
      rw [derived.base_update]
      exact hstreaming.same rfl
  | completeRead operation error =>
      obtain ⟨hreadable, hcomplete⟩ := connectionStep_completeRead.mp hstep
      exact hstreaming.completeRead hrelays (List.mem_filter.mp hreadable.1).2 hcomplete
  | sendMessage message =>
      obtain ⟨sent, hsend, rfl⟩ :=
        derived.call_eq_returned.mp (connectionStep_sendMessage.mp hstep)
      rw [derived.base_withBase]
      exact hstreaming.sendMessage hframed hsend
  | completeWrite operation error =>
      obtain ⟨hmem, hcall⟩ := connectionStep_completeWrite.mp hstep
      obtain ⟨written, hcomplete, rfl⟩ := derived.call_eq_returned.mp hcall
      rw [derived.base_withBase]
      have hwriter : WriteChain.writerStep (derived.base object)
          (.completeWrite operation error) = some written := (if_pos hmem).trans hcomplete
      exact hstreaming.writerStep (fun _ hnone => absurd hnone List.not_mem_nil) hwriter
  | setTimerExpiration millisec =>
      cases hstep
      rw [derived.base_update]
      exact hstreaming.same (writingSide_setTimerExpiration _ millisec)
  | completeWait millisec aborted =>
      have hexpired := (connectionStep_completeWait.mp hstep).2
      have hcommanded := hrelays.onTimerExpiration _ _ hexpired
      rw [derived.base_update] at hcommanded
      have hside : writingSide { derived.base object with
          pending := (derived.base object).pending.erase (.timerWait millisec aborted) } =
            writingSide (derived.base object) :=
        writingSide_taken rfl (derived.base object) _
      apply (hstreaming.same hside).trans
      intro htaken
      exact htaken.commanded hcommanded
  | disconnect =>
      cases hstep
      rw [derived.base_update]
      exact hstreaming.spared (.inr (writingSide_disconnect _))
  | closeSocket =>
      cases hstep
      rw [derived.base_update]
      exact hstreaming.spared (.inr (writingSide_closeSocket _))

end Step

/-! ## Writing out the queue -/

/-- The writes that have to complete before the writer is idle, at most. -/
def remaining : WritePhase T → ℕ
  | .idle => 0
  | .stalled => 0
  | .header _ rest => 2 * (rest.length + 1)
  | .body _ rest => 2 * rest.length + 1

section Draining

variable [HeaderLayout T]

theorem remaining_lt_of_move {connection next : TcpConnection T} {phase after : WritePhase T}
    {operation : AsyncOperation} (hmoving : after ≠ .stalled)
    (hmove : WriterMove connection phase (.completeWrite operation false) next after) :
    remaining after < remaining phase := by
  cases hmove with
  | headerWritten front rest => simp only [remaining]; omega
  | stalledByEmpty => exact absurd rfl hmoving
  | emptyWritten front following rest => simp only [remaining, List.length_cons]; omega
  | lastWritten front => simp [remaining]
  | bodyWritten front following rest => simp only [remaining, List.length_cons]; omega

/-- An idle writer has handed over all that has been queued. -/
theorem Flowing.handed_of_idle {connection : TcpConnection T}
    (hflowing : Flowing connection .idle) :
    connection.socket.handed = connection.messagesQueue.pushed.flatMap Message.encode := by
  rw [hflowing.handed, MessageQueue.pushed, hflowing.drained rfl, WritePhase.handed,
    List.append_nil, List.append_nil]

/-- A writer that is not idle waits for one write. -/
theorem Flowing.exists_outstanding {connection : TcpConnection T} {phase : WritePhase T}
    (hflowing : Flowing connection phase) (hbusy : phase ≠ .idle) :
    ∃ operation, operation ∈ outstandingWrites connection := by
  cases hflowing.inPhase with
  | idle => exact absurd rfl hbusy
  | stalled => exact absurd rfl hflowing.moving
  | header front rest _ _ hwrites => exact ⟨_, hwrites ▸ List.mem_singleton_self _⟩
  | body front rest _ _ _ hwrites => exact ⟨_, hwrites ▸ List.mem_singleton_self _⟩

variable [Inhabited T] {derived : DerivedConnection T Object Error}

/-- The writer of a socket that is open. -/
structure Sending (connection : TcpConnection T) (phase : WritePhase T) : Prop where
  streaming : Streaming connection
  isOpen : connection.socket.isOpen = true
  flowing : Flowing connection phase

omit [Inhabited T] in
theorem Streaming.sending {connection : TcpConnection T} (hstreaming : Streaming connection)
    (hopen : connection.socket.isOpen = true) : ∃ phase, Sending connection phase := by
  obtain ⟨phase, -, hflowing⟩ := hstreaming.writer
  exact ⟨phase, hstreaming, hopen, hflowing hopen⟩

/-- A writer that is not idle can complete a write, which brings it closer to
the end of its queue. -/
theorem Sending.exists_completeWrite {object : Object} {phase : WritePhase T}
    (hsending : Sending (derived.base object) phase) (hbusy : phase ≠ .idle) :
    ∃ operation next after,
      connectionStep derived object (.completeWrite operation false) = some next ∧
      Sending (derived.base next) after ∧ remaining after < remaining phase ∧
      (derived.base next).messagesQueue.pushed = (derived.base object).messagesQueue.pushed := by
  have hphase := hsending.flowing.inPhase
  obtain ⟨operation, hmem⟩ := hsending.flowing.exists_outstanding hbusy
  obtain ⟨written, after, hcomplete, hmove⟩ := hphase.exists_completeWrite hmem false
  have hstep : connectionStep derived object (.completeWrite operation false) =
      some (derived.withBase object written) :=
    connectionStep_completeWrite.mpr ⟨(List.mem_filter.mp hmem).1,
      derived.call_eq_returned.mpr ⟨written, hcomplete, rfl⟩⟩
  have hstill : written.socket.isOpen = true := by
    have hkept := ConnectedState.isConnected_of_completeWrite hcomplete
    rw [Bool.not_false, Bool.and_true] at hkept
    exact hkept.trans hsending.isOpen
  have hflowing := hsending.flowing.move hsending.streaming hsending.isOpen hstill hmove
  have hpushed : written.messagesQueue.pushed = (derived.base object).messagesQueue.pushed :=
    (pushed_of_move hphase hmove).trans (List.append_nil _)
  have hstreaming : Streaming written :=
    ⟨hpushed ▸ hsending.streaming.framable, hflowing.isPrefix, after, hflowing.inPhase,
      fun _ => hflowing⟩
  refine ⟨operation, _, after, hstep, ?_, remaining_lt_of_move hflowing.moving hmove, ?_⟩
  · rw [derived.base_withBase]
    exact ⟨hstreaming, hstill, hflowing⟩
  · rw [derived.base_withBase]
    exact hpushed

/-- Writes complete until everything queued has been handed over. -/
theorem Sending.exists_drained {object : Object} {phase : WritePhase T}
    (hsending : Sending (derived.base object) phase) :
    ∃ completions drained,
      (∀ event ∈ completions, ∃ operation, event = .completeWrite operation false) ∧
      run (connectionStep derived) object completions = some drained ∧
      (derived.base drained).messagesQueue.pushed =
        (derived.base object).messagesQueue.pushed ∧
      (derived.base drained).socket.handed =
        (derived.base object).messagesQueue.pushed.flatMap Message.encode := by
  induction hremaining : remaining phase using Nat.strong_induction_on
    generalizing object phase with
  | _ bound ih =>
      by_cases hidle : phase = .idle
      · subst hidle
        exact ⟨[], object, fun _ hmem => absurd hmem List.not_mem_nil, rfl, rfl,
          hsending.flowing.handed_of_idle⟩
      · obtain ⟨operation, next, after, hstep, hnext, hless, hpushed⟩ :=
          hsending.exists_completeWrite hidle
        obtain ⟨completions, drained, honly, hrun, hkept, hhanded⟩ :=
          ih (remaining after) (hremaining ▸ hless) hnext rfl
        rw [hpushed] at hkept hhanded
        refine ⟨.completeWrite operation false :: completions, drained, ?_, ?_, hkept, hhanded⟩
        · intro event hevent
          rcases List.mem_cons.mp hevent with rfl | hrest
          · exact ⟨operation, rfl⟩
          · exact honly event hrest
        · rw [run_cons, hstep, Option.bind_some, hrun]

end Draining

end ProcessManagerService.Relay
