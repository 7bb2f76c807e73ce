import ProcessManagerService.Connection.DerivedConnection
import ProcessManagerService.Library.PartialRuns

/-!
# The read loop

Between `startReading` and the close of the socket a connection is meant to
have one read outstanding at all times.  Every step of a connection is one of a
few moves of its reading side; the one that takes a header of size zero neither
starts another read nor closes the socket.
-/

namespace ProcessManagerService.ReadLoop

open Communication Connection PartialRuns

variable {T Object Error : Type*}

/-- What can happen to a connection between `startReading` and its end. -/
inductive ConnectionEvent (T : Type*) where
  | arrive (segment : List Byte)
  | completeRead (operation : AsyncOperation) (error : Bool)
  | sendMessage (message : Message T)
  | completeWrite (operation : AsyncOperation) (error : Bool)
  | setTimerExpiration (millisec : ℕ)
  | completeWait (millisec : ℕ) (aborted : Bool)
  | disconnect
  | closeSocket

/-- The event concerns neither the arriving bytes nor a read. -/
def ConnectionEvent.isLocal : ConnectionEvent T → Bool
  | .arrive _ => false
  | .completeRead _ _ => false
  | _ => true

def arrive (connection : TcpConnection T) (segment : List Byte) : TcpConnection T :=
  { connection with
    socket := { connection.socket with arrived := connection.socket.arrived ++ segment } }

section Step

variable [Inhabited T] [HeaderLayout T] (derived : DerivedConnection T Object Error)

/-- A read completes and its handler runs. -/
def completeRead (object : Object) (operation : AsyncOperation) (error : Bool) :
    Outcome Error Object :=
  (derived.call object fun connection => connection.finishRead operation error).andThen
    fun finished =>
      match operation with
      | .readHeader => derived.call finished fun connection =>
          connection.postReadMessageHeader error (if error then 0 else HeaderLayout.size T)
      | .readBody _ => derived.postReadMessageBody finished error
      | _ => .undefined finished

omit [Inhabited T] [HeaderLayout T] in
/-- A wait completes and its handler runs. -/
def completeWait (object : Object) (millisec : ℕ) (aborted : Bool) : Outcome Error Object :=
  derived.timerExpired (derived.update object fun connection =>
    { connection with
      pending := connection.pending.erase (.timerWait millisec aborted) })

/-- A read completes with an error, or when its buffer is full. -/
def Readable (connection : TcpConnection T) (operation : AsyncOperation) (error : Bool) :
    Prop :=
  operation ∈ connection.readingSide.reads ∧
    (error = false →
      TcpConnection.bytesWanted T operation ≤ connection.socket.arrived.length)

instance (connection : TcpConnection T) (operation : AsyncOperation) (error : Bool) :
    Decidable (Readable connection operation error) :=
  inferInstanceAs (Decidable (_ ∧ _))

/-- One event, with the virtual functions returning normally. -/
def connectionStep (object : Object) : ConnectionEvent T → Option Object
  | .arrive segment => some (derived.update object fun connection =>
      arrive connection segment)
  | .completeRead operation error =>
      if Readable (derived.base object) operation error then
        (completeRead derived object operation error).toOption
      else none
  | .sendMessage message =>
      (derived.call object fun connection => connection.sendMessage message).toOption
  | .completeWrite operation error =>
      if operation ∈ (derived.base object).pending then
        (derived.call object fun connection =>
          connection.completeWrite operation error).toOption
      else none
  | .setTimerExpiration millisec => some (derived.update object fun connection =>
      connection.setTimerExpiration millisec)
  | .completeWait millisec aborted =>
      if .timerWait millisec aborted ∈ (derived.base object).pending then
        (completeWait derived object millisec aborted).toOption
      else none
  | .disconnect => some (derived.update object TcpConnection.disconnect)
  | .closeSocket => some (derived.update object TcpConnection.closeSocket)

end Step

section Inversion

variable [Inhabited T] [HeaderLayout T] {derived : DerivedConnection T Object Error}
variable {object next : Object}

theorem connectionStep_completeRead {operation : AsyncOperation} {error : Bool} :
    connectionStep derived object (.completeRead operation error) = some next ↔
      Readable (derived.base object) operation error ∧
        completeRead derived object operation error = .returned next := by
  rw [connectionStep, Option.ite_none_right_eq_some, Outcome.toOption_eq_some]

theorem connectionStep_sendMessage {message : Message T} :
    connectionStep derived object (.sendMessage message) = some next ↔
      derived.call object (fun connection => connection.sendMessage message) =
        .returned next := by
  rw [connectionStep, Outcome.toOption_eq_some]

theorem connectionStep_completeWrite {operation : AsyncOperation} {error : Bool} :
    connectionStep derived object (.completeWrite operation error) = some next ↔
      operation ∈ (derived.base object).pending ∧
        derived.call object (fun connection => connection.completeWrite operation error) =
          .returned next := by
  rw [connectionStep, Option.ite_none_right_eq_some, Outcome.toOption_eq_some]

theorem connectionStep_completeWait {millisec : ℕ} {aborted : Bool} :
    connectionStep derived object (.completeWait millisec aborted) = some next ↔
      .timerWait millisec aborted ∈ (derived.base object).pending ∧
        completeWait derived object millisec aborted = .returned next := by
  rw [connectionStep, Option.ite_none_right_eq_some, Outcome.toOption_eq_some]

end Inversion

/-! ## Frame lemmas of the reading side -/

@[simp]
theorem readingSide_disconnect (connection : TcpConnection T) :
    connection.disconnect.readingSide = { connection.readingSide with isOpen := false } := by
  cases hopen : connection.socket.isOpen <;>
    simp [TcpConnection.disconnect, TcpConnection.readingSide, hopen]

@[simp]
theorem readingSide_closeSocket (connection : TcpConnection T) :
    connection.closeSocket.readingSide = { connection.readingSide with isOpen := false } :=
  readingSide_disconnect connection

@[simp]
theorem readingSide_setTimerExpiration (connection : TcpConnection T) (millisec : ℕ) :
    (connection.setTimerExpiration millisec).readingSide = connection.readingSide := by
  have hreads : (connection.pending.map AsyncOperation.abortWait).filter AsyncOperation.isRead =
      connection.pending.filter AsyncOperation.isRead :=
    AsyncOperation.filter_map_abortWait_of_ne (fun _ _ => rfl) connection.pending
  simp [TcpConnection.setTimerExpiration, TcpConnection.readingSide, hreads,
    AsyncOperation.isRead]

theorem readingSide_asyncWrite {operation : AsyncOperation}
    (hread : operation.isRead = false) (connection : TcpConnection T) :
    (connection.asyncWrite operation).readingSide = connection.readingSide := by
  cases hopen : connection.socket.isOpen <;>
    simp [TcpConnection.asyncWrite, TcpConnection.readingSide, hopen, hread]

section Writing

variable [HeaderLayout T] {connection next : TcpConnection T}

theorem readingSide_of_sendMessage {message : Message T}
    (hsend : connection.sendMessage message = some next) :
    next.readingSide = connection.readingSide := by
  rcases TcpConnection.sendMessage_cases hsend with rfl | ⟨buffer, rfl⟩
  · rfl
  · exact readingSide_asyncWrite rfl _

omit [HeaderLayout T] in
theorem readingSide_finishWrite {operation : AsyncOperation}
    (hread : operation.isRead = false) (error : Bool) :
    (connection.finishWrite operation error).readingSide = connection.readingSide := by
  cases error <;>
    simp [TcpConnection.finishWrite, TcpConnection.readingSide,
      AsyncOperation.filter_erase hread]

/-- A completed write leaves the reading side alone, and with an error it also
closes the socket. -/
theorem readingSide_of_completeWrite {operation : AsyncOperation} {error : Bool}
    (hcomplete : connection.completeWrite operation error = some next) :
    next.readingSide = connection.readingSide ∨
      next.readingSide = { connection.readingSide with isOpen := false } := by
  obtain ⟨hwrite, hhandled⟩ := TcpConnection.handled_of_completeWrite hcomplete
  have hfinish : (connection.finishWrite operation error).readingSide =
      connection.readingSide :=
    readingSide_finishWrite (AsyncOperation.isRead_of_isWrite hwrite) error
  cases hhandled with
  | failed => exact .inr ((readingSide_disconnect _).trans (by rw [hfinish]))
  | continued other hother =>
      have hside := readingSide_asyncWrite (AsyncOperation.isRead_of_isWrite hother)
        (connection.finishWrite operation false)
      exact .inl (hside.trans hfinish)
  | popped messagesQueue sendingInProgress hpop => exact .inl hfinish
  | following messagesQueue other hpop hother =>
      have hside := readingSide_asyncWrite (AsyncOperation.isRead_of_isWrite hother)
        { connection.finishWrite operation false with messagesQueue }
      exact .inl (hside.trans hfinish)

end Writing

/-! ## What one event can do to the reading side -/

section Moves

variable [Inhabited T] [HeaderLayout T]

/-- A read has filled its buffer. -/
def filled (side : ReadingSide T) (message : Message T) (operation : AsyncOperation) :
    ReadingSide T where
  isOpen := side.isOpen
  arrived := side.arrived.drop (TcpConnection.bytesWanted T operation)
  incomingMessage := some (TcpConnection.fillBuffer message operation
    (side.arrived.take (TcpConnection.bytesWanted T operation)))
  reads := side.reads.erase operation

omit [HeaderLayout T] in
/-- A fresh buffer, and a header read that fills it. -/
def restarted (side : ReadingSide T) : ReadingSide T :=
  { side with
    incomingMessage := some ⟨⟨default, 0⟩, []⟩
    reads := side.reads ++ [.readHeader] }

/-- The header that a header read would take from the arrived bytes. -/
def nextHeader (side : ReadingSide T) : MessageHeader T :=
  HeaderLayout.decode (side.arrived.take (HeaderLayout.size T))

/-- The moves of the reading side.  Every law about the read loop is proved by
cases on this list. -/
inductive ReadingMove (side : ReadingSide T) : ConnectionEvent T → ReadingSide T → Prop where
  | arrived (segment : List Byte) :
      ReadingMove side (.arrive segment) { side with arrived := side.arrived ++ segment }
  | kept (event : ConnectionEvent T) (hlocal : event.isLocal = true) :
      ReadingMove side event side
  | closed (event : ConnectionEvent T) (hlocal : event.isLocal = true) :
      ReadingMove side event { side with isOpen := false }
  | failed (operation : AsyncOperation) :
      ReadingMove side (.completeRead operation true)
        { side with isOpen := false, reads := side.reads.erase operation }
  | headerRefused (message : Message T) (hmem : .readHeader ∈ side.reads)
      (henough : HeaderLayout.size T ≤ side.arrived.length)
      (hincoming : side.incomingMessage = some message)
      (hsize : (nextHeader side).size = 0) :
      ReadingMove side (.completeRead .readHeader false) (filled side message .readHeader)
  | headerRead (message : Message T) (hmem : .readHeader ∈ side.reads)
      (henough : HeaderLayout.size T ≤ side.arrived.length)
      (hincoming : side.incomingMessage = some message)
      (hsize : (nextHeader side).size ≠ 0) :
      ReadingMove side (.completeRead .readHeader false)
        { filled side message .readHeader with
          incomingMessage := some ⟨nextHeader side,
            TcpConnection.resize message.body (nextHeader side).size.toNat⟩
          reads := side.reads.erase .readHeader ++
            [.readBody (TcpConnection.resize message.body
              (nextHeader side).size.toNat).length] }
  | bodyRead (message : Message T) (size : ℕ) (hmem : .readBody size ∈ side.reads)
      (henough : size ≤ side.arrived.length)
      (hincoming : side.incomingMessage = some message) :
      ReadingMove side (.completeRead (.readBody size) false)
        (restarted (filled side message (.readBody size)))

omit [Inhabited T] [HeaderLayout T] in
theorem readingSide_asyncRead {operation : AsyncOperation} (hread : operation.isRead = true)
    (connection : TcpConnection T) :
    (connection.asyncRead operation).readingSide = { connection.readingSide with
      reads := connection.readingSide.reads ++ [operation] } := by
  simp [TcpConnection.asyncRead, TcpConnection.readingSide, hread]

omit [HeaderLayout T] in
theorem readingSide_startReadingSequence (connection : TcpConnection T) :
    connection.startReadingSequence.readingSide = restarted connection.readingSide :=
  readingSide_asyncRead rfl _

omit [Inhabited T] in
/-- Without an error, a completed read has filled its buffer. -/
theorem readingSide_of_finishRead {connection next : TcpConnection T}
    {operation : AsyncOperation}
    (hfinish : connection.finishRead operation false = some next) :
    ∃ message, connection.incomingMessage = some message ∧
      next.readingSide = filled connection.readingSide message operation := by
  simp only [TcpConnection.finishRead, Bool.false_eq_true, if_false,
    Option.map_eq_some_iff] at hfinish
  obtain ⟨message, hincoming, rfl⟩ := hfinish
  refine ⟨message, hincoming, ?_⟩
  simp [TcpConnection.readingSide, filled, List.erase_filter]

variable {derived : DerivedConnection T Object Error}

/-- The completion of a header read refuses the header, or asks for the body it
announces. -/
theorem readingMove_of_readHeader {object next : Object} {error : Bool}
    (hreadable : Readable (derived.base object) .readHeader error)
    (hcomplete : completeRead derived object .readHeader error = .returned next) :
    ReadingMove (derived.base object).readingSide (.completeRead .readHeader error)
      (derived.base next).readingSide := by
  obtain ⟨finished, hcall, hhandler⟩ := Outcome.andThen_eq_returned.mp hcomplete
  obtain ⟨connection, hfinish, rfl⟩ := (derived.call_eq_returned).mp hcall
  obtain ⟨posted, hpost, rfl⟩ := (derived.call_eq_returned).mp hhandler
  rw [derived.base_withBase] at hpost ⊢
  have hmem := hreadable.1
  cases error with
  | true =>
      cases hfinish
      cases hpost
      rw [readingSide_disconnect]
      have hmove : ReadingMove (derived.base object).readingSide _ _ := .failed .readHeader
      simpa [TcpConnection.readingSide, List.erase_filter] using hmove
  | false =>
      obtain ⟨message, hincoming, hside⟩ := readingSide_of_finishRead hfinish
      have hbuffer : connection.incomingMessage =
          some ⟨nextHeader (derived.base object).readingSide, message.body⟩ :=
        congrArg ReadingSide.incomingMessage hside
      simp only [TcpConnection.postReadMessageHeader, Bool.false_eq_true, if_false, ne_eq,
        not_true_eq_false, hbuffer, Option.bind_some] at hpost
      split at hpost
      next hzero =>
        cases hpost
        rw [hside]
        exact .headerRefused message hmem (hreadable.2 rfl) hincoming hzero
      next hsize =>
        have hposted : posted.readingSide = { connection.readingSide with
            incomingMessage := some ⟨nextHeader (derived.base object).readingSide,
              TcpConnection.resize message.body
                (nextHeader (derived.base object).readingSide).size.toNat⟩
            reads := connection.readingSide.reads ++
              [.readBody (TcpConnection.resize message.body
                (nextHeader (derived.base object).readingSide).size.toNat).length] } := by
          cases hpost
          exact readingSide_asyncRead rfl _
        rw [hposted, hside]
        exact .headerRead message hmem (hreadable.2 rfl) hincoming hsize

/-- The completion of a body read starts the reading sequence again. -/
theorem readingMove_of_readBody {object next : Object} {size : ℕ} {error : Bool}
    (hreadable : Readable (derived.base object) (.readBody size) error)
    (hcomplete : completeRead derived object (.readBody size) error = .returned next) :
    ReadingMove (derived.base object).readingSide (.completeRead (.readBody size) error)
      (derived.base next).readingSide := by
  obtain ⟨finished, hcall, hhandler⟩ := Outcome.andThen_eq_returned.mp hcomplete
  obtain ⟨connection, hfinish, rfl⟩ := (derived.call_eq_returned).mp hcall
  have hmem := hreadable.1
  cases error with
  | true =>
      cases hfinish
      cases hhandler
      rw [derived.base_update, derived.base_withBase, readingSide_disconnect]
      have hmove : ReadingMove (derived.base object).readingSide _ _ := .failed (.readBody size)
      simpa [TcpConnection.readingSide, List.erase_filter] using hmove
  | false =>
      obtain ⟨message, hincoming, hside⟩ := readingSide_of_finishRead hfinish
      obtain ⟨handled, hhandled, hrestart⟩ := Outcome.andThen_eq_returned.mp hhandler
      cases hrestart
      have hkept := derived.readingSide_handleReceivedMessage _ _ _ hhandled
      rw [derived.base_update, derived.base_withBase] at hkept
      have hnext : (derived.base (derived.update handled
          TcpConnection.startReadingSequence)).readingSide =
            restarted (filled (derived.base object).readingSide message (.readBody size)) := by
        rw [derived.base_update, readingSide_startReadingSequence, hkept, ← hside]
        rfl
      rw [hnext]
      exact .bodyRead message size hmem (hreadable.2 rfl) hincoming

/-- The inversion lemma of the reading side. -/
theorem readingMove_of_step {object next : Object} {event : ConnectionEvent T}
    (hstep : connectionStep derived object event = some next) :
    ReadingMove (derived.base object).readingSide event (derived.base next).readingSide := by
  cases event with
  | arrive segment =>
      cases hstep
      rw [derived.base_update]
      exact .arrived segment
  | completeRead operation error =>
      obtain ⟨hreadable, hcomplete⟩ := connectionStep_completeRead.mp hstep
      cases operation with
      | readHeader => exact readingMove_of_readHeader hreadable hcomplete
      | readBody size => exact readingMove_of_readBody hreadable hcomplete
      | writeHeader =>
          obtain ⟨_, -, hundefined⟩ := Outcome.andThen_eq_returned.mp hcomplete
          cases hundefined
      | writeBody =>
          obtain ⟨_, -, hundefined⟩ := Outcome.andThen_eq_returned.mp hcomplete
          cases hundefined
      | timerWait =>
          obtain ⟨_, -, hundefined⟩ := Outcome.andThen_eq_returned.mp hcomplete
          cases hundefined
  | sendMessage message =>
      obtain ⟨connection, hsend, rfl⟩ :=
        derived.call_eq_returned.mp (connectionStep_sendMessage.mp hstep)
      rw [derived.base_withBase, readingSide_of_sendMessage hsend]
      exact .kept _ rfl
  | completeWrite operation error =>
      obtain ⟨connection, hcomplete, rfl⟩ :=
        derived.call_eq_returned.mp (connectionStep_completeWrite.mp hstep).2
      rw [derived.base_withBase]
      rcases readingSide_of_completeWrite hcomplete with hside | hside
      · rw [hside]
        exact .kept _ rfl
      · rw [hside]
        exact .closed _ rfl
  | setTimerExpiration millisec =>
      cases hstep
      rw [derived.base_update, readingSide_setTimerExpiration]
      exact .kept _ rfl
  | completeWait millisec aborted =>
      have hexpired := (connectionStep_completeWait.mp hstep).2
      rw [derived.readingSide_onTimerExpiration _ _ hexpired, derived.base_update]
      have hside : TcpConnection.readingSide { derived.base object with
          pending := (derived.base object).pending.erase (.timerWait millisec aborted) } =
            (derived.base object).readingSide :=
        congrArg (ReadingSide.mk _ _ _) (AsyncOperation.filter_erase rfl _)
      rw [hside]
      exact .kept _ rfl
  | disconnect =>
      cases hstep
      rw [derived.base_update, readingSide_disconnect]
      exact .closed _ rfl
  | closeSocket =>
      cases hstep
      rw [derived.base_update, readingSide_closeSocket]
      exact .closed _ rfl

end Moves

/-! ## The outstanding read -/

section Outstanding

variable [Inhabited T]

/-- An open socket has exactly one read outstanding. -/
def ReadOutstanding (derived : DerivedConnection T Object Error) (object : Object) : Prop :=
  (derived.base object).isConnected = true →
    ∃ operation, (derived.base object).readingSide.reads = [operation]

/-- An open socket has exactly one read outstanding, and its buffer exists. -/
def Attentive (side : ReadingSide T) : Prop :=
  side.isOpen = true →
    (∃ operation, side.reads = [operation]) ∧ ∃ message, side.incomingMessage = some message

omit [Inhabited T] in
theorem Attentive.readOutstanding {derived : DerivedConnection T Object Error}
    {object : Object} (hattentive : Attentive (derived.base object).readingSide) :
    ReadOutstanding derived object :=
  fun hopen => (hattentive hopen).1

theorem attentive_restarted {side : ReadingSide T} (hreads : side.reads = []) :
    Attentive (restarted side) := by
  intro _
  exact ⟨⟨.readHeader, by rw [restarted, hreads, List.nil_append]⟩, _, rfl⟩

variable [HeaderLayout T]

omit [Inhabited T] in
/-- The peer's next header reaches an open socket and announces an empty body. -/
def RefusesHeader (derived : DerivedConnection T Object Error) (object : Object)
    (event : ConnectionEvent T) : Prop :=
  (derived.base object).isConnected = true ∧ event = .completeRead .readHeader false ∧
    (nextHeader (derived.base object).readingSide).size = 0

/-- Taking the only outstanding read leaves none. -/
private theorem erase_of_singleton {reads : List AsyncOperation}
    {operation other : AsyncOperation} (hreads : reads = [other]) (hmem : operation ∈ reads) :
    reads.erase operation = [] := by
  rw [hreads, List.mem_singleton] at hmem
  rw [hreads, hmem, List.erase_cons_head]

/-- Every move but the refusal of a header keeps the connection attentive. -/
theorem Attentive.move {side next : ReadingSide T} {event : ConnectionEvent T}
    (hattentive : Attentive side)
    (hguard : ¬ (side.isOpen = true ∧ event = .completeRead .readHeader false ∧
      (nextHeader side).size = 0))
    (hmove : ReadingMove side event next) : Attentive next := by
  cases hmove with
  | arrived segment => exact hattentive
  | kept => exact hattentive
  | closed => exact fun hopen => Bool.noConfusion hopen
  | failed operation => exact fun hopen => Bool.noConfusion hopen
  | headerRefused message hmem henough hincoming hsize =>
      exact fun hopen => absurd ⟨hopen, rfl, hsize⟩ hguard
  | headerRead message hmem henough hincoming hsize =>
      intro hopen
      obtain ⟨⟨operation, hreads⟩, -⟩ := hattentive hopen
      exact ⟨⟨_, congrArg (· ++ [_]) (erase_of_singleton hreads hmem)⟩, _, rfl⟩
  | bodyRead message size hmem henough hincoming =>
      intro hopen
      obtain ⟨⟨operation, hreads⟩, -⟩ := hattentive hopen
      exact attentive_restarted (erase_of_singleton hreads hmem) hopen

/-- After a refused header the socket is open and nothing is being read. -/
theorem Attentive.reads_of_refusal {side next : ReadingSide T}
    {event : ConnectionEvent T} (hattentive : Attentive side) (hopen : side.isOpen = true)
    (hevent : event = .completeRead .readHeader false) (hsize : (nextHeader side).size = 0)
    (hmove : ReadingMove side event next) : next.isOpen = true ∧ next.reads = [] := by
  obtain ⟨⟨operation, hreads⟩, -⟩ := hattentive hopen
  cases hmove with
  | headerRefused message hmem => exact ⟨hopen, erase_of_singleton hreads hmem⟩
  | headerRead message hmem henough hincoming hnonzero => exact absurd hsize hnonzero
  | kept _ hlocal => simp [hevent, ConnectionEvent.isLocal] at hlocal
  | closed _ hlocal => simp [hevent, ConnectionEvent.isLocal] at hlocal
  | _ => cases hevent

/-- With its buffer in place a completed read runs through to the end of its
handler, when the virtual call returns. -/
theorem exists_completeRead {derived : DerivedConnection T Object Error}
    (hreturns : ∀ object message, ∃ next,
      derived.handleReceivedMessage object message = .returned next)
    {object : Object} {operation : AsyncOperation} {message : Message T}
    (hincoming : (derived.base object).incomingMessage = some message)
    (hread : operation.isRead = true) (error : Bool) :
    ∃ next, completeRead derived object operation error = .returned next := by
  obtain ⟨connection, hfinish, hbuffer⟩ : ∃ connection,
      (derived.base object).finishRead operation error = some connection ∧
        ∃ buffer, connection.incomingMessage = some buffer := by
    cases error <;> simp [TcpConnection.finishRead, hincoming]
  obtain ⟨buffer, hbuffer⟩ := hbuffer
  simp only [completeRead, DerivedConnection.call, hfinish, Option.map_some, Outcome.ofOption,
    Outcome.andThen_returned]
  cases operation with
  | readHeader =>
      cases error with
      | true => simp [TcpConnection.postReadMessageHeader]
      | false =>
          simp only [derived.base_withBase, TcpConnection.postReadMessageHeader, hbuffer]
          by_cases hzero : buffer.header.size = 0 <;>
            simp [hzero, TcpConnection.readMessageBody]
  | readBody size =>
      cases error with
      | true => exact ⟨_, rfl⟩
      | false =>
          obtain ⟨handled, hhandled⟩ := hreturns _ _
          exact ⟨_, by
            simp only [DerivedConnection.postReadMessageBody, Bool.false_eq_true, if_false]
            rw [hhandled, Outcome.andThen_returned]⟩
  | _ => cases hread

/-- From `startReading` on, an open socket has exactly one read outstanding in
every state of a run, if and only if no header that is read from it announces an
empty body. -/
theorem readOutstanding_iff {derived : DerivedConnection T Object Error}
    {object finish : Object} {events : List (ConnectionEvent T)}
    (hidle : (derived.base object).readingSide.reads = [])
    (hrun : run (connectionStep derived)
      (derived.update object TcpConnection.startReading) events = some finish) :
    EveryState (connectionStep derived) (ReadOutstanding derived)
        (derived.update object TcpConnection.startReading) events ↔
      EveryStep (connectionStep derived)
        (fun object event => ¬ RefusesHeader derived object event)
        (derived.update object TcpConnection.startReading) events := by
  have hstart : Attentive
      (derived.base (derived.update object TcpConnection.startReading)).readingSide := by
    rw [derived.base_update, TcpConnection.startReading, readingSide_startReadingSequence]
    exact attentive_restarted hidle
  have hkeep : ∀ object event next, Attentive (derived.base object).readingSide →
      ¬ RefusesHeader derived object event → connectionStep derived object event = some next →
      Attentive (derived.base next).readingSide :=
    fun _ _ _ hattentive hguard hstep => hattentive.move hguard (readingMove_of_step hstep)
  refine everyState_iff_everyStep (fun _ hattentive => hattentive.readOutstanding) hkeep ?_
    hstart hrun
  intro object event next hattentive hrefuses hstep houtstanding
  obtain ⟨hopen, hevent, hsize⟩ := not_not.mp hrefuses
  obtain ⟨hstill, hreads⟩ :=
    hattentive.reads_of_refusal hopen hevent hsize (readingMove_of_step hstep)
  obtain ⟨operation, hsingle⟩ := houtstanding hstill
  rw [hreads] at hsingle
  cases hsingle

private def fresh : TcpConnection UInt32 := (TcpConnection.create.connect true).2

/-- A frame that arrives in two parts, up to the read of the next header. -/
theorem readOutstanding_after_frame :
    EveryState (connectionStep (.inert UInt32)) (ReadOutstanding (.inert UInt32))
      ((DerivedConnection.inert UInt32).update fresh TcpConnection.startReading)
      [.arrive [5, 0, 0, 0, 2, 0, 0, 0, 8], .completeRead .readHeader false, .arrive [7],
        .completeRead (.readBody 2) false] := by
  refine (readOutstanding_iff rfl rfl).mpr ⟨?_, fun first hfirst => ⟨?_, fun second hsecond =>
    ⟨?_, fun third hthird => ⟨?_, fun _ _ => trivial⟩⟩⟩⟩
  · rintro ⟨-, hevent, -⟩
    cases hevent
  · rintro ⟨-, -, hsize⟩
    cases hfirst
    exact absurd hsize (by decide)
  · rintro ⟨-, hevent, -⟩
    cases hevent
  · rintro ⟨-, hevent, -⟩
    cases hevent

/-- One header with size zero leaves an open socket that is not read any more. -/
theorem reader_deaf_after_empty_body : ∃ finish,
    run (connectionStep (.inert UInt32))
        ((DerivedConnection.inert UInt32).update fresh TcpConnection.startReading)
        [.arrive [5, 0, 0, 0, 0, 0, 0, 0], .completeRead .readHeader false] = some finish ∧
    finish.isConnected = true ∧
    finish.pending = [] ∧ ¬ ReadOutstanding (.inert UInt32) finish := by
  refine ⟨_, rfl, rfl, rfl, ?_⟩
  intro houtstanding
  obtain ⟨operation, hreads⟩ := houtstanding rfl
  cases hreads

end Outstanding

end ProcessManagerService.ReadLoop
