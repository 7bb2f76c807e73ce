import ProcessManagerService.Connection.ReadLoop

/-!
# Decoding the incoming stream

The read loop is a reader of header-prefixed frames: its outstanding read and
its message buffer are the stage of the reader, the bytes that have arrived are
its buffer, and the calls of `handleReceivedMessage` deliver the frames.  What
is known of such readers then says what the connection passes on, whatever the
segmentation in which the stream arrives.
-/

namespace ProcessManagerService.StreamDecoding

open Communication Connection FrameStream PartialRuns ReadLoop

variable {T Object Error : Type*}

/-- The event neither fails an operation nor closes the socket. -/
def Smooth : ConnectionEvent T → Prop
  | .completeRead _ error => error = false
  | .completeWrite _ error => error = false
  | .disconnect => False
  | .closeSocket => False
  | _ => True

def arrivedBy : ConnectionEvent T → List Byte
  | .arrive segment => segment
  | _ => []

/-- The bytes that arrive during a run. -/
def arrivedBytes (events : List (ConnectionEvent T)) : List Byte :=
  events.flatMap arrivedBy

/-- A connection of the recording class, with the messages its handler was
called with. -/
abbrev Recorded (T Object : Type*) := Object × List (Option (Message T))

variable [HeaderLayout T]

/-- The messages that an event passes to `handleReceivedMessage`. -/
def passedBy (side : ReadingSide T) : ConnectionEvent T → List (Option (Message T))
  | .completeRead (.readBody size) false =>
      [side.incomingMessage.map fun message =>
        TcpConnection.fillBuffer message (.readBody size) (side.arrived.take size)]
  | _ => []

/-- What a full body buffer passes on. -/
theorem passedBy_of_finishRead {connection next : TcpConnection T} {size : ℕ}
    (hfinish : connection.finishRead (.readBody size) false = some next) :
    passedBy connection.readingSide (.completeRead (.readBody size) false) =
      [next.incomingMessage] := by
  simp only [TcpConnection.finishRead, Bool.false_eq_true, if_false,
    Option.map_eq_some_iff] at hfinish
  obtain ⟨message, hincoming, rfl⟩ := hfinish
  simp [passedBy, TcpConnection.readingSide, hincoming, TcpConnection.bytesWanted]

/-- The recording class writes down exactly what the handler is called with. -/
theorem log_of_step [Inhabited T] {derived : DerivedConnection T Object Error}
    {object next : Recorded T Object} {event : ConnectionEvent T}
    (hstep : connectionStep derived.recording object event = some next) :
    next.2 = object.2 ++ passedBy (derived.base object.1).readingSide event := by
  cases event with
  | completeRead operation error =>
      obtain ⟨-, hcomplete⟩ := connectionStep_completeRead.mp hstep
      obtain ⟨finished, hcall, hhandler⟩ := Outcome.andThen_eq_returned.mp hcomplete
      obtain ⟨connection, hfinish, rfl⟩ := (derived.recording.call_eq_returned).mp hcall
      cases operation with
      | readHeader =>
          obtain ⟨posted, -, rfl⟩ := (derived.recording.call_eq_returned).mp hhandler
          exact (List.append_nil _).symm
      | readBody size =>
          cases error with
          | true =>
              cases hhandler
              exact (List.append_nil _).symm
          | false =>
              obtain ⟨handled, hhandled, hrestart⟩ := Outcome.andThen_eq_returned.mp hhandler
              obtain ⟨inner, -, rfl⟩ := Outcome.map_eq_returned.mp hhandled
              cases hrestart
              have hpassed : passedBy (derived.base object.1).readingSide
                  (.completeRead (.readBody size) false) = [connection.incomingMessage] :=
                passedBy_of_finishRead hfinish
              rw [hpassed, derived.recording.base_withBase]
              rfl
      | _ => cases hhandler
  | completeWrite operation error =>
      obtain ⟨connection, -, rfl⟩ :=
        derived.recording.call_eq_returned.mp (connectionStep_completeWrite.mp hstep).2
      exact (List.append_nil _).symm
  | sendMessage message =>
      obtain ⟨connection, -, rfl⟩ :=
        derived.recording.call_eq_returned.mp (connectionStep_sendMessage.mp hstep)
      exact (List.append_nil _).symm
  | completeWait millisec aborted =>
      have hexpired := (connectionStep_completeWait.mp hstep).2
      obtain ⟨inner, -, rfl⟩ := Outcome.map_eq_returned.mp hexpired
      exact (List.append_nil _).symm
  | _ =>
      cases hstep
      exact (List.append_nil _).symm

/-! ## The read loop as a frame reader -/

/-- The reading side is the frame reader: the outstanding read and the message
buffer are its stage. -/
inductive Reflects (side : ReadingSide T)
    (reader : Reader (MessageHeader T) (Message T) Byte) : Prop where
  | header (message : Message T) (hstage : reader.stage = .header)
      (harrived : side.arrived = reader.buffer)
      (hincoming : side.incomingMessage = some message) (hbody : message.body = [])
      (hreads : side.reads = [.readHeader])
  | payload (header : MessageHeader T) (body : List Byte)
      (hstage : reader.stage = .payload header)
      (harrived : side.arrived = reader.buffer)
      (hincoming : side.incomingMessage = some ⟨header, body⟩)
      (hreads : side.reads = [.readBody header.size.toNat])

/-- What an event does to the frame reader. -/
def mirror (reader : Reader (MessageHeader T) (Message T) Byte) :
    ConnectionEvent T → Option (Reader (MessageHeader T) (Message T) Byte)
  | .arrive segment => some (reader.accept segment)
  | .completeRead _ _ => reader.advance (Message.format T)
  | _ => some reader

omit [HeaderLayout T] in
theorem length_resize_nil (size : ℕ) : (TcpConnection.resize [] size).length = size := by
  simp [TcpConnection.resize]

/-- A smooth move is a step of the frame reader, as long as the header it takes
does not announce an empty body; what it passes on is what the reader
delivers. -/
theorem Reflects.move [Inhabited T] {side next : ReadingSide T}
    {event : ConnectionEvent T} {reader : Reader (MessageHeader T) (Message T) Byte}
    (hreflects : Reflects side reader) (hsmooth : Smooth event)
    (hnonempty : ∀ after header, reader.advance (Message.format T) = some after →
      after.stage = .payload header → header.size ≠ 0)
    (hmove : ReadingMove side event next) :
    ∃ after, mirror reader event = some after ∧ Reflects next after ∧
      after.delivered.map some = reader.delivered.map some ++ passedBy side event := by
  cases hmove with
  | arrived segment =>
      refine ⟨_, rfl, ?_, (List.append_nil _).symm⟩
      cases hreflects with
      | header message hstage harrived hincoming hbody hreads =>
          exact .header message hstage (by rw [harrived]; rfl) hincoming hbody hreads
      | payload header body hstage harrived hincoming hreads =>
          exact .payload header body hstage (by rw [harrived]; rfl) hincoming hreads
  | kept _ hlocal =>
      cases event with
      | arrive | completeRead => cases hlocal
      | _ => exact ⟨reader, rfl, hreflects, (List.append_nil _).symm⟩
  | closed _ hlocal =>
      have hclosed : Reflects { side with isOpen := false } reader := by
        cases hreflects with
        | header message hstage harrived hincoming hbody hreads =>
            exact .header message hstage harrived hincoming hbody hreads
        | payload header body hstage harrived hincoming hreads =>
            exact .payload header body hstage harrived hincoming hreads
      cases event with
      | arrive | completeRead => cases hlocal
      | _ => exact ⟨reader, rfl, hclosed, (List.append_nil _).symm⟩
  | failed operation => cases hsmooth
  | headerRefused message hmem henough hincoming hsize =>
      cases hreflects with
      | payload header body hstage harrived hbuffer hreads => simp [hreads] at hmem
      | header buffer hstage harrived hbuffer hbody hreads =>
          rw [nextHeader, harrived] at hsize
          rw [harrived] at henough
          have hadvance : reader.advance (Message.format T) = _ :=
            Reader.advance_of_header hstage henough
          exact absurd hsize (hnonempty _ _ hadvance rfl)
  | headerRead message hmem henough hincoming hsize =>
      cases hreflects with
      | payload header body hstage harrived hbuffer hreads => simp [hreads] at hmem
      | header buffer hstage harrived hbuffer hbody hreads =>
          obtain rfl : buffer = message := Option.some.inj (hbuffer.symm.trans hincoming)
          rw [harrived] at henough
          have hadvance : reader.advance (Message.format T) = _ :=
            Reader.advance_of_header hstage henough
          refine ⟨_, hadvance, ?_, (List.append_nil _).symm⟩
          have hheader : HeaderLayout.decode (reader.buffer.take (HeaderLayout.size T)) =
              nextHeader side := by rw [nextHeader, harrived]
          refine .payload (nextHeader side) _ (congrArg Stage.payload hheader)
            (congrArg (List.drop _) harrived) rfl ?_
          rw [hreads, List.erase_cons_head, List.nil_append, hbody, length_resize_nil]
  | bodyRead message size hmem henough hincoming =>
      cases hreflects with
      | header buffer hstage harrived hbuffer hbody hreads => simp [hreads] at hmem
      | payload header body hstage harrived hbuffer hreads =>
          obtain rfl : size = header.size.toNat := by simpa [hreads] using hmem
          obtain rfl : ⟨header, body⟩ = message := Option.some.inj (hbuffer.symm.trans hincoming)
          rw [harrived] at henough
          have hadvance : reader.advance (Message.format T) = _ :=
            Reader.advance_of_payload hstage henough
          refine ⟨_, hadvance, ?_, ?_⟩
          · refine .header ⟨⟨default, 0⟩, []⟩ rfl (congrArg (List.drop _) harrived) rfl rfl ?_
            rw [restarted, filled, hreads, List.erase_cons_head, List.nil_append]
          · rw [List.map_append, passedBy, hbuffer, harrived]
            rfl

/-- The frame reader keeps owing what is left of the stream. -/
theorem owes_of_mirror {all : List (Message T)}
    {reader after : Reader (MessageHeader T) (Message T) Byte} {event : ConnectionEvent T}
    {coming : List Byte} (hsized : ∀ message ∈ all, (Message.format T).WellSized message)
    (howes : reader.Owes (Message.format T) all (arrivedBy event ++ coming))
    (hmirror : mirror reader event = some after) :
    after.Owes (Message.format T) all coming := by
  cases event with
  | arrive segment =>
      cases hmirror
      exact howes.accept
  | completeRead operation error => exact howes.advance hsized hmirror
  | _ =>
      cases hmirror
      exact howes

/-- The outstanding read can complete, or the frame reader cannot finish its
stage. -/
theorem Reflects.readable_or_quiet {connection : TcpConnection T}
    {reader : Reader (MessageHeader T) (Message T) Byte}
    (hreflects : Reflects connection.readingSide reader) :
    (∃ operation, Readable connection operation false) ∨
      reader.advance (Message.format T) = none := by
  cases hreflects with
  | header message hstage harrived hincoming hbody hreads =>
      by_cases henough : HeaderLayout.size T ≤ reader.buffer.length
      · left
        rw [← harrived] at henough
        exact ⟨.readHeader, by simp [hreads], fun _ => henough⟩
      · right
        rw [Reader.advance, hstage]
        exact if_neg henough
  | payload header body hstage harrived hincoming hreads =>
      by_cases henough : header.size.toNat ≤ reader.buffer.length
      · left
        rw [← harrived] at henough
        exact ⟨.readBody header.size.toNat, by simp [hreads], fun _ => henough⟩
      · right
        rw [Reader.advance, hstage]
        exact if_neg henough

omit [HeaderLayout T] in
theorem Reflects.exists_incomingMessage {side : ReadingSide T}
    {reader : Reader (MessageHeader T) (Message T) Byte} (hreflects : Reflects side reader) :
    ∃ message, side.incomingMessage = some message := by
  cases hreflects with
  | header message _ _ hincoming => exact ⟨message, hincoming⟩
  | payload header body _ _ hincoming => exact ⟨_, hincoming⟩

section Decoding

variable [Inhabited T] {derived : DerivedConnection T Object Error}
  {messages : List (Message T)} {last : Message T}

/-- The recorded connection stands for a frame reader that owes the stream of
`messages` and `last`, of which `coming` has not arrived. -/
structure Decodes (derived : DerivedConnection T Object Error) (messages : List (Message T))
    (last : Message T) (object : Recorded T Object)
    (reader : Reader (MessageHeader T) (Message T) Byte) (coming : List Byte) : Prop where
  reflects : Reflects (derived.base object.1).readingSide reader
  log : object.2 = reader.delivered.map some
  owes : reader.Owes (Message.format T) (messages ++ [last]) coming

/-- The messages announce their bodies, and those before the last have one. -/
structure WellFormed (messages : List (Message T)) (last : Message T) : Prop where
  sized : ∀ message ∈ messages ++ [last], (Message.format T).WellSized message
  bodies : ∀ message ∈ messages, (Message.format T).payload message ≠ []

theorem Decodes.step {object next : Recorded T Object}
    {reader : Reader (MessageHeader T) (Message T) Byte} {coming : List Byte}
    {event : ConnectionEvent T} (hwell : WellFormed messages last) (hcoming : coming ≠ [])
    (hsmooth : Smooth event)
    (hdecodes : Decodes derived messages last object reader (arrivedBy event ++ coming))
    (hstep : connectionStep derived.recording object event = some next) :
    ∃ after, mirror reader event = some after ∧
      Decodes derived messages last next after coming := by
  have hnonempty : ∀ after header, reader.advance (Message.format T) = some after →
      after.stage = .payload header → header.size ≠ 0 := by
    intro after header hadvance hheader hzero
    have hpos : 0 < header.size.toNat :=
      (hdecodes.owes.advance hwell.sized hadvance).payloadSize_pos hwell.sized
        hwell.bodies (List.append_ne_nil_of_right_ne_nil _ hcoming) hheader
    rw [hzero] at hpos
    exact absurd hpos (by decide)
  have hmove : ReadingMove (derived.recording.base object).readingSide event
      (derived.recording.base next).readingSide := readingMove_of_step hstep
  obtain ⟨after, hmirror, hreflects, hdelivered⟩ :=
    hdecodes.reflects.move hsmooth hnonempty hmove
  refine ⟨after, hmirror, hreflects, ?_, owes_of_mirror hwell.sized hdecodes.owes hmirror⟩
  rw [log_of_step hstep, hdecodes.log]
  exact hdelivered.symm

theorem Decodes.after_run {object finish : Recorded T Object}
    {reader : Reader (MessageHeader T) (Message T) Byte} {missing : List Byte}
    {events : List (ConnectionEvent T)} (hwell : WellFormed messages last)
    (hmissing : missing ≠ []) (hsmooth : ∀ event ∈ events, Smooth event)
    (hdecodes : Decodes derived messages last object reader (arrivedBytes events ++ missing))
    (hrun : run (connectionStep derived.recording) object events = some finish) :
    ∃ after, Decodes derived messages last finish after missing := by
  induction events generalizing object reader with
  | nil =>
      cases hrun
      exact ⟨reader, hdecodes⟩
  | cons event events ih =>
      obtain ⟨next, hstep, hrest⟩ := run_cons_eq_some.mp hrun
      rw [arrivedBytes, List.flatMap_cons, List.append_assoc] at hdecodes
      obtain ⟨after, -, hnext⟩ := hdecodes.step hwell
        (List.append_ne_nil_of_right_ne_nil _ hmissing) (hsmooth event List.mem_cons_self) hstep
      exact ih (fun other hother => hsmooth other (List.mem_cons_of_mem event hother)) hnext hrest

/-- Only completions of reads without an error. -/
def OnlyCompletions (events : List (ConnectionEvent T)) : Prop :=
  ∀ event ∈ events, ∃ operation, event = .completeRead operation false

omit [Inhabited T] in
/-- A connection whose outstanding read cannot complete has passed on every
complete frame. -/
theorem Decodes.log_eq {object : Recorded T Object}
    {reader : Reader (MessageHeader T) (Message T) Byte} {missing : List Byte}
    (hwell : WellFormed messages last) (hmissing : missing ≠ [])
    (hbound : missing.length ≤ last.encode.length)
    (hdecodes : Decodes derived messages last object reader missing)
    (hquiet : ∀ operation, ¬ Readable (derived.base object.1) operation false) :
    object.2 = messages.map some := by
  rcases hdecodes.reflects.readable_or_quiet with ⟨operation, hreadable⟩ | hnone
  · exact absurd hreadable (hquiet operation)
  · rw [hdecodes.log, hdecodes.owes.delivered_eq hwell.sized hmissing hbound hnone]

/-- The reads that can complete do so until none can: every completion consumes
potential. -/
theorem Decodes.exists_quiet
    (hreturns : ∀ object message, ∃ next,
      derived.handleReceivedMessage object message = .returned next)
    {missing : List Byte} (hwell : WellFormed messages last) (hmissing : missing ≠ [])
    {object : Recorded T Object} {reader : Reader (MessageHeader T) (Message T) Byte}
    (hdecodes : Decodes derived messages last object reader missing) :
    ∃ completions quiet, OnlyCompletions completions ∧
      run (connectionStep derived.recording) object completions = some quiet ∧
      (∃ after, Decodes derived messages last quiet after missing) ∧
      ∀ operation, ¬ Readable (derived.base quiet.1) operation false := by
  have hrecording : ∀ (object : Recorded T Object) message, ∃ next,
      derived.recording.handleReceivedMessage object message = .returned next := by
    intro object message
    obtain ⟨next, hnext⟩ := hreturns object.1 message
    exact ⟨_, Outcome.map_eq_returned.mpr ⟨next, hnext, rfl⟩⟩
  induction hpotential : reader.potential using Nat.strong_induction_on
    generalizing object reader with
  | _ potential ih =>
      by_cases hquiet : ∀ operation, ¬ Readable (derived.base object.1) operation false
      · exact ⟨[], object, by simp [OnlyCompletions], rfl, ⟨reader, hdecodes⟩, hquiet⟩
      · obtain ⟨operation, hreadable⟩ := not_forall_not.mp hquiet
        obtain ⟨message, hincoming⟩ := hdecodes.reflects.exists_incomingMessage
        have hread : operation.isRead = true := (List.mem_filter.mp hreadable.1).2
        obtain ⟨next, hcomplete⟩ := exists_completeRead hrecording hincoming hread false
        have hstep : connectionStep derived.recording object
            (.completeRead operation false) = some next :=
          connectionStep_completeRead.mpr ⟨hreadable, hcomplete⟩
        have hsmooth : Smooth (.completeRead operation false : ConnectionEvent T) := rfl
        obtain ⟨after, hadvance, hnext⟩ := hdecodes.step hwell hmissing hsmooth hstep
        obtain ⟨completions, quiet, honly, hrun, hlast⟩ := ih after.potential
          (hpotential ▸ Reader.potential_lt_of_advance hadvance) hnext rfl
        refine ⟨.completeRead operation false :: completions, quiet, ?_, ?_, hlast⟩
        · intro event hevent
          rcases List.mem_cons.mp hevent with rfl | hrest
          · exact ⟨operation, rfl⟩
          · exact honly event hrest
        · rw [run_cons, hstep, Option.bind_some, hrun]

/-- `startReading` puts the frame reader in front of the whole stream. -/
theorem decodes_startReading {object : Object} {coming : List Byte}
    (hidle : (derived.base object).readingSide.reads = [])
    (hstream : (derived.base object).socket.arrived ++ coming =
      (messages ++ [last]).flatMap Message.encode) :
    Decodes derived messages last
      (derived.recording.update (object, []) TcpConnection.startReading)
      ⟨.header, (derived.base object).socket.arrived, []⟩ coming where
  reflects := by
    have hside : (derived.base (derived.recording.update (object, [])
        TcpConnection.startReading).1).readingSide =
          restarted (derived.base object).readingSide := by
      refine (congrArg TcpConnection.readingSide
        (derived.recording.base_update (object, []) TcpConnection.startReading)).trans ?_
      exact readingSide_startReadingSequence _
    rw [hside]
    refine .header _ rfl rfl rfl rfl ?_
    rw [restarted, hidle, List.nil_append]
  log := rfl
  owes := .header (messages ++ [last]) rfl rfl hstream

/-- The messages whose frames have arrived, followed by a strict beginning of
one more frame, in any segmentation: what has been passed to
`handleReceivedMessage` is always a beginning of the list, it is the whole list
once the outstanding read cannot complete any more, and such a state is reached
by completing reads. -/
theorem decoding_of_stream
    (hreturns : ∀ object message, ∃ next,
      derived.handleReceivedMessage object message = .returned next)
    (hsized : ∀ message ∈ messages, message.WellSized)
    (hbodies : ∀ message ∈ messages, message.body ≠ [])
    (hlast : last.WellSized) {unfinished : List Byte}
    (hunfinished : unfinished <+: last.encode) (hproper : unfinished ≠ last.encode)
    {object : Object} (hidle : (derived.base object).readingSide.reads = [])
    {events : List (ConnectionEvent T)} (hsmooth : ∀ event ∈ events, Smooth event)
    (hstream : (derived.base object).socket.arrived ++ arrivedBytes events =
      messages.flatMap Message.encode ++ unfinished)
    {finish : Recorded T Object}
    (hrun : run (connectionStep derived.recording)
      (derived.recording.update (object, []) TcpConnection.startReading) events =
        some finish) :
    finish.2 <+: messages.map some ∧
    ((∀ operation, ¬ Readable (derived.base finish.1) operation false) →
      finish.2 = messages.map some) ∧
    ∃ completions quiet, OnlyCompletions completions ∧
      run (connectionStep derived.recording) finish completions = some quiet ∧
      quiet.2 = messages.map some := by
  obtain ⟨missing, hmissing⟩ := hunfinished
  have hne : missing ≠ [] := by
    rintro rfl
    exact hproper (by rw [← hmissing, List.append_nil])
  have hbound : missing.length ≤ last.encode.length := by
    rw [← hmissing, List.length_append]
    exact Nat.le_add_left _ _
  have hwell : WellFormed messages last := by
    refine ⟨?_, hbodies⟩
    intro message hmem
    rcases List.mem_append.mp hmem with hmem | hmem
    · exact (hsized message hmem).symm
    · rw [List.mem_singleton.mp hmem]
      exact hlast.symm
  have hwhole : (derived.base object).socket.arrived ++ (arrivedBytes events ++ missing) =
      (messages ++ [last]).flatMap Message.encode := by
    rw [← List.append_assoc, hstream, List.append_assoc, hmissing]
    simp
  obtain ⟨reader, hdecodes⟩ := (decodes_startReading hidle hwhole).after_run hwell hne
    hsmooth hrun
  refine ⟨?_, hdecodes.log_eq hwell hne hbound, ?_⟩
  · rw [hdecodes.log]
    exact (hdecodes.owes.delivered_isPrefix hne).map some
  · obtain ⟨completions, quiet, honly, hcompleted, ⟨after, hquiet⟩, hnone⟩ :=
      hdecodes.exists_quiet hreturns hwell hne
    exact ⟨completions, quiet, honly, hcompleted, hquiet.log_eq hwell hne hbound hnone⟩

private def connectResponse : Message UInt32 := ⟨⟨2, 3⟩, [8, 7, 6]⟩

private def pingResponse : Message UInt32 := ⟨⟨4, 1⟩, [9]⟩

/-- One frame in two segments, the second of which also brings a part of the
next header. -/
private def twoSegments : List (ConnectionEvent UInt32) :=
  [.arrive [2, 0, 0, 0, 3, 0, 0, 0, 8], .completeRead .readHeader false,
    .arrive [7, 6, 4, 0], .completeRead (.readBody 3) false]

theorem decoding_of_twoSegments : ∃ finish,
    run (connectionStep (DerivedConnection.inert UInt32).recording)
      ((DerivedConnection.inert UInt32).recording.update
        ((TcpConnection.create.connect true).2, []) TcpConnection.startReading)
      twoSegments = some finish ∧
    finish.2 ≠ [] ∧ finish.2 <+: [connectResponse].map some := by
  obtain ⟨finish, hrun, hlog⟩ : ∃ finish,
      run (connectionStep (DerivedConnection.inert UInt32).recording)
        ((DerivedConnection.inert UInt32).recording.update
          ((TcpConnection.create.connect true).2, []) TcpConnection.startReading)
        twoSegments = some finish ∧ finish.2 = [some connectResponse] := ⟨_, rfl, by decide⟩
  have hreturns : ∀ object message, ∃ next,
      (DerivedConnection.inert UInt32).handleReceivedMessage object message =
        .returned next := fun object _ => ⟨object, rfl⟩
  have hsized : ∀ message ∈ [connectResponse], message.WellSized := by
    simp [Message.WellSized, connectResponse]
  have hbodies : ∀ message ∈ [connectResponse], message.body ≠ [] := by simp [connectResponse]
  have hlast : pingResponse.WellSized := rfl
  have hunfinished : ([4, 0] : List Byte) <+: pingResponse.encode := by decide
  have hsmooth : ∀ event ∈ twoSegments, Smooth event := by simp [twoSegments, Smooth]
  refine ⟨finish, hrun, by simp [hlog], ?_⟩
  exact (decoding_of_stream hreturns hsized hbodies hlast hunfinished (by decide) rfl hsmooth
    (by decide) hrun).1

end Decoding

end ProcessManagerService.StreamDecoding
