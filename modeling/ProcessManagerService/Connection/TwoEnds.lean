import ProcessManagerService.Connection.ConnectedState
import ProcessManagerService.Connection.Relay
import ProcessManagerService.Connection.StreamDecoding

/-!
# Two connected endpoints

Both ends of a TCP connection run the same code: each writes its queue to the
socket and reads what the other end has written.  The network carries the bytes
that one end has handed over to the other end, in order and in segments of any
size.  Whatever the two ends and the network do in whatever order, also when
reads and writes fail and sockets are closed, an end handles the messages that
the other one has sent, each of them once and in order, up to some point.
-/

namespace ProcessManagerService.TwoEnds

open Communication Connection FrameStream PartialRuns ReadLoop Relay StreamDecoding WriteChain
  WritingFrame

inductive Side where
  | left
  | right
  deriving DecidableEq

namespace Side

def other : Side → Side
  | left => right
  | right => left

theorem other_ne (side : Side) : side.other ≠ side := by
  cases side <;> nofun

end Side

/-- The two ends, each with the messages it has handled, and how many of the
bytes that the other end has handed over have been carried to each. -/
structure Pair (T : Type*) (Object : Side → Type*) where
  object : ∀ side, Recorded T (Object side)
  carried : Side → ℕ

/-- Something happens at an end, or the network carries so many bytes to it. -/
inductive PairEvent (T : Type*) where
  | occur (side : Side) (event : ConnectionEvent T)
  | carry (side : Side) (count : ℕ)

/-- One end in the place of another. -/
def Pair.withObject {T : Type*} {Object : Side → Type*} (pair : Pair T Object) (side : Side)
    (object : Recorded T (Object side)) : Pair T Object :=
  { pair with object := Function.update pair.object side object }

theorem Pair.object_withObject {T : Type*} {Object : Side → Type*} (pair : Pair T Object)
    (side : Side) (object : Recorded T (Object side)) :
    (pair.withObject side object).object side = object := by
  rw [withObject]
  exact Function.update_self side object pair.object

def isArrival {T : Type*} : ConnectionEvent T → Bool
  | .arrive _ => true
  | _ => false

section System

variable {T : Type*} {Object Error : Side → Type*}

section Steps

variable (derived : ∀ side, DerivedConnection T (Object side) (Error side))

def Pair.base (pair : Pair T Object) (side : Side) : TcpConnection T :=
  (derived side).base (pair.object side).1

/-- The messages that an end has queued for sending so far. -/
def Pair.queued (pair : Pair T Object) (side : Side) : List (Message T) :=
  (pair.base derived side).messagesQueue.pushed

/-- The bytes that the other end has handed over so far. -/
def Pair.stream (pair : Pair T Object) (side : Side) : List Byte :=
  (pair.base derived side.other).socket.handed

variable [Inhabited T] [HeaderLayout T]

/-- Bytes arrive at an end only when the network carries them. -/
def pairStep (pair : Pair T Object) : PairEvent T → Option (Pair T Object)
  | .occur side event =>
      if isArrival event = true then none
      else (connectionStep (derived side).recording (pair.object side) event).map
        (pair.withObject side)
  | .carry side count =>
      if pair.carried side + count ≤ (pair.stream derived side).length then
        (connectionStep (derived side).recording (pair.object side)
          (.arrive (((pair.stream derived side).drop (pair.carried side)).take count))).map
            fun object => ⟨Function.update pair.object side object,
              Function.update pair.carried side (pair.carried side + count)⟩
      else none

omit [HeaderLayout T] in
/-- Both ends have been connected and read. -/
def Pair.connected (start : ∀ side, Object side) : Pair T Object where
  object side := (derived side).recording.update (start side, []) TcpConnection.startReading
  carried _ := 0

/-- What happens at an end has the property. -/
def PairEvent.Meets (property : ConnectionEvent T → Prop) : PairEvent T → Prop
  | .occur _ event => property event
  | .carry _ _ => True

end Steps

/-! ## What one step does -/

/-- The step is one event at one end.  The bytes that arrive with it follow the
ones that have been carried before. -/
structure PairMove (derived : ∀ side, DerivedConnection T (Object side) (Error side))
    [Inhabited T] [HeaderLayout T] (pair next : Pair T Object) (side : Side)
    (event : ConnectionEvent T) : Prop where
  step : connectionStep (derived side).recording (pair.object side) event =
    some (next.object side)
  arrived : arrivedBy event <+: (pair.stream derived side).drop (pair.carried side)
  carried : next.carried side = pair.carried side + (arrivedBy event).length
  object_of_ne : ∀ other, other ≠ side → next.object other = pair.object other
  carried_of_ne : ∀ other, other ≠ side → next.carried other = pair.carried other

variable {derived : ∀ side, DerivedConnection T (Object side) (Error side)}
  [Inhabited T] [HeaderLayout T]

theorem pairMove_of_step {pair next : Pair T Object} {event : PairEvent T}
    {property : ConnectionEvent T → Prop} (harrive : ∀ segment, property (.arrive segment))
    (hmeets : event.Meets property) (hstep : pairStep derived pair event = some next) :
    ∃ side happened, property happened ∧ PairMove derived pair next side happened := by
  cases event with
  | occur side happened =>
      rw [pairStep, Option.ite_none_left_eq_some] at hstep
      obtain ⟨hlocal, hmapped⟩ := hstep
      obtain ⟨object, hobject, rfl⟩ := Option.map_eq_some_iff.mp hmapped
      have hnothing : arrivedBy happened = [] := by
        cases happened with
        | arrive segment => exact absurd rfl hlocal
        | _ => rfl
      refine ⟨side, happened, hmeets, ?_, ?_, ?_, ?_, fun _ _ => rfl⟩
      · rw [hobject, pair.object_withObject]
      · rw [hnothing]
        exact List.nil_prefix
      · rw [hnothing]
        rfl
      · intro other hother
        exact Function.update_of_ne hother _ _
  | carry side count =>
      rw [pairStep, Option.ite_none_right_eq_some] at hstep
      obtain ⟨henough, hmapped⟩ := hstep
      obtain ⟨object, hobject, rfl⟩ := Option.map_eq_some_iff.mp hmapped
      have hlength : (((pair.stream derived side).drop (pair.carried side)).take count).length =
          count := by
        rw [List.length_take, List.length_drop]
        omega
      refine ⟨side, .arrive (((pair.stream derived side).drop (pair.carried side)).take count),
        harrive _, ?_, List.take_prefix _ _, ?_, ?_, ?_⟩
      · rw [hobject]
        exact congrArg some (Function.update_self side object pair.object).symm
      · rw [arrivedBy, hlength]
        exact Function.update_self side _ pair.carried
      · intro other hother
        exact Function.update_of_ne hother _ _
      · intro other hother
        exact Function.update_of_ne hother _ _

end System

/-! ## What one end handles -/

section Reception

variable {T Object Error : Type*} [HeaderLayout T]
  {derived : DerivedConnection T Object Error} {messages : List (Message T)} {last : Message T}

/-- No read is outstanding any more, and what has been handled is a beginning of
the messages. -/
structure Ended (derived : DerivedConnection T Object Error) (messages : List (Message T))
    (object : Recorded T Object) : Prop where
  reads : (derived.base object.1).readingSide.reads = []
  log : object.2 <+: messages.map some

/-- The end decodes the stream of `messages` and `last`, or has stopped reading. -/
inductive Receives (derived : DerivedConnection T Object Error) (messages : List (Message T))
    (last : Message T) (object : Recorded T Object) (coming : List Byte) : Prop where
  | decoding (reader : FrameStream.Reader (MessageHeader T) (Message T) Byte)
      (hdecodes : Decodes derived messages last object reader coming)
  | ended (hended : Ended derived messages object)

theorem Receives.log {object : Recorded T Object} {coming : List Byte}
    (hreceives : Receives derived messages last object coming) (hcoming : coming ≠ []) :
    object.2 <+: messages.map some := by
  cases hreceives with
  | decoding reader hdecodes =>
      rw [hdecodes.log]
      exact (hdecodes.owes.delivered_isPrefix hcoming).map some
  | ended hended => exact hended.log

omit [HeaderLayout T] in
/-- Whether the socket is open does not matter for the frame reader. -/
theorem reflects_closed {side : ReadingSide T} {isOpen : Bool}
    {reader : FrameStream.Reader (MessageHeader T) (Message T) Byte}
    (hreflects : Reflects side reader) : Reflects { side with isOpen } reader := by
  cases hreflects with
  | header message hstage harrived hincoming hbody hreads =>
      exact .header message hstage harrived hincoming hbody hreads
  | payload header body hstage harrived hincoming hreads =>
      exact .payload header body hstage harrived hincoming hreads

theorem passedBy_of_isLocal {side : ReadingSide T} {event : ConnectionEvent T}
    (hlocal : event.isLocal = true) : passedBy side event = [] := by
  cases event with
  | arrive | completeRead => cases hlocal
  | _ => rfl

omit [HeaderLayout T] in
theorem arrivedBy_of_isLocal {event : ConnectionEvent T} (hlocal : event.isLocal = true) :
    arrivedBy event = [] := by
  cases event with
  | arrive | completeRead => cases hlocal
  | _ => rfl

omit [HeaderLayout T] in
/-- A decoding end has one read outstanding. -/
theorem erase_reads_of_reflects {side : ReadingSide T} {operation : AsyncOperation}
    {reader : FrameStream.Reader (MessageHeader T) (Message T) Byte}
    (hreflects : Reflects side reader) (hmem : operation ∈ side.reads) :
    side.reads.erase operation = [] := by
  have hsingle : ∃ only, side.reads = [only] := by
    cases hreflects with
    | header message _ _ _ _ hreads => exact ⟨_, hreads⟩
    | payload header body _ _ _ hreads => exact ⟨_, hreads⟩
  obtain ⟨only, hreads⟩ := hsingle
  rw [hreads, List.mem_singleton] at hmem
  rw [hreads, hmem, List.erase_cons_head]

variable [Inhabited T]

theorem recordedMove_of_step {object next : Recorded T Object} {event : ConnectionEvent T}
    (hstep : connectionStep derived.recording object event = some next) :
    ReadingMove (derived.base object.1).readingSide event (derived.base next.1).readingSide := by
  have hmove : ReadingMove (derived.recording.base object).readingSide event
      (derived.recording.base next).readingSide := readingMove_of_step hstep
  exact hmove

/-- Nothing is handled without an outstanding read, and none is started. -/
theorem Ended.step {object next : Recorded T Object} {event : ConnectionEvent T}
    (hended : Ended derived messages object)
    (hstep : connectionStep derived.recording object event = some next) :
    Ended derived messages next := by
  have hmove := recordedMove_of_step hstep
  have hreads := hended.reads
  have hnothing : passedBy (derived.base object.1).readingSide event = [] ∧
      (derived.base next.1).readingSide.reads = [] := by
    generalize (derived.base next.1).readingSide = after at hmove
    cases hmove with
    | arrived segment => exact ⟨rfl, hreads⟩
    | kept _ hlocal => exact ⟨passedBy_of_isLocal hlocal, hreads⟩
    | closed _ hlocal => exact ⟨passedBy_of_isLocal hlocal, hreads⟩
    | failed operation =>
        have herased : (derived.base object.1).readingSide.reads.erase operation = [] := by
          rw [hreads, List.erase_nil]
        cases operation <;> exact ⟨rfl, herased⟩
    | headerRefused message hmem => simp [hreads] at hmem
    | headerRead message hmem => simp [hreads] at hmem
    | bodyRead message size hmem => simp [hreads] at hmem
  refine ⟨hnothing.2, ?_⟩
  rw [log_of_step hstep, hnothing.1, List.append_nil]
  exact hended.log

/-- An end goes on decoding until a read fails. -/
theorem Receives.step {object next : Recorded T Object} {event : ConnectionEvent T}
    {coming : List Byte} (hwell : WellFormed messages last) (hcoming : coming ≠ [])
    (hreceives : Receives derived messages last object (arrivedBy event ++ coming))
    (hstep : connectionStep derived.recording object event = some next) :
    Receives derived messages last next coming := by
  have hlater : arrivedBy event ++ coming ≠ [] := List.append_ne_nil_of_right_ne_nil _ hcoming
  cases hreceives with
  | ended hended => exact .ended (hended.step hstep)
  | decoding reader hdecodes =>
      have hmove := recordedMove_of_step hstep
      cases hlocal : event.isLocal with
      | true =>
          have hreflects : Reflects (derived.base next.1).readingSide reader := by
            generalize (derived.base next.1).readingSide = after at hmove
            cases hmove with
            | kept => exact hdecodes.reflects
            | closed => exact reflects_closed hdecodes.reflects
            | _ => cases hlocal
          refine .decoding reader ⟨hreflects, ?_, ?_⟩
          · rw [log_of_step hstep, passedBy_of_isLocal hlocal, List.append_nil]
            exact hdecodes.log
          · have howes := hdecodes.owes
            rwa [arrivedBy_of_isLocal hlocal] at howes
      | false =>
          by_cases hsmooth : Smooth event
          · obtain ⟨after, -, hnext⟩ := hdecodes.step hwell hcoming hsmooth hstep
            exact .decoding after hnext
          · have hlog := Receives.log (.decoding reader hdecodes) hlater
            cases event with
            | arrive segment => exact absurd trivial hsmooth
            | completeRead operation error =>
                obtain rfl : error = true := by
                  cases error with
                  | true => rfl
                  | false => exact absurd rfl hsmooth
                have hmem := (connectionStep_completeRead.mp hstep).1.1
                have herased := erase_reads_of_reflects hdecodes.reflects hmem
                have hnothing := log_of_step hstep
                refine .ended ⟨?_, ?_⟩
                · generalize (derived.base next.1).readingSide = after at hmove
                  cases hmove with
                  | failed => exact herased
                  | kept _ hkept => cases hkept
                  | closed _ hclosed => cases hclosed
                · rw [hnothing]
                  cases operation <;> simpa [passedBy] using hlog
            | _ => cases hlocal

theorem Receives.after_run {object finish : Recorded T Object} {missing : List Byte}
    {events : List (ConnectionEvent T)} (hwell : WellFormed messages last)
    (hmissing : missing ≠ [])
    (hreceives : Receives derived messages last object (arrivedBytes events ++ missing))
    (hrun : run (connectionStep derived.recording) object events = some finish) :
    Receives derived messages last finish missing := by
  induction events generalizing object with
  | nil =>
      cases hrun
      exact hreceives
  | cons event events ih =>
      obtain ⟨next, hstep, hrest⟩ := run_cons_eq_some.mp hrun
      rw [arrivedBytes, List.flatMap_cons, List.append_assoc] at hreceives
      have hcoming := List.append_ne_nil_of_right_ne_nil (arrivedBytes events) hmissing
      exact ih (hreceives.step hwell hcoming hstep) hrest

/-- A message that is never sent, behind those that are. -/
def unsent (T : Type*) [Inhabited T] : Message T := ⟨⟨default, 0⟩, []⟩

theorem length_encode_unsent : (unsent T).encode.length = HeaderLayout.size T := by
  rw [Message.encode, List.length_append, HeaderLayout.length_encode]
  rfl

theorem encode_unsent_ne_nil : (unsent T).encode ≠ [] := by
  apply List.ne_nil_of_length_pos
  rw [length_encode_unsent]
  exact HeaderLayout.size_pos

theorem wellFormed_of_framable (hframable : ∀ message ∈ messages, Framable message) :
    WellFormed messages (unsent T) where
  sized message hmem := by
    rcases List.mem_append.mp hmem with hmem | hmem
    · exact (hframable message hmem).wellSized.symm
    · rw [List.mem_singleton.mp hmem]
      rfl
  bodies message hmem := (hframable message hmem).body

/-- What has arrived of a stream is followed by the rest of it and by a message
that is not in it. -/
theorem exists_missing {arrived : List Byte}
    (hstream : arrived <+: messages.flatMap Message.encode) :
    ∃ missing, missing ≠ [] ∧
      arrived ++ missing = (messages ++ [unsent T]).flatMap Message.encode := by
  obtain ⟨rest, hrest⟩ := hstream
  refine ⟨rest ++ (unsent T).encode, ?_, ?_⟩
  · exact List.append_ne_nil_of_right_ne_nil rest encode_unsent_ne_nil
  · rw [← List.append_assoc, hrest, List.flatMap_append, List.flatMap_singleton]

/-- `startReading` on a connection that has just been connected. -/
theorem decodes_connected {object : Object} {coming : List Byte}
    (hstart : derived.base object = connected T)
    (hwhole : coming = (messages ++ [unsent T]).flatMap Message.encode) :
    Decodes derived messages (unsent T)
      (derived.recording.update (object, []) TcpConnection.startReading)
      ⟨.header, (derived.base object).socket.arrived, []⟩ coming := by
  apply decodes_startReading
  · rw [hstart]
    rfl
  · rw [hstart, hwhole]
    rfl

/-- Whatever fails after `startReading`, what is handled is a beginning of what
is in the stream. -/
theorem log_isPrefix_of_run {object : Object} {finish : Recorded T Object}
    {events : List (ConnectionEvent T)} (hstart : derived.base object = connected T)
    (hframable : ∀ message ∈ messages, Framable message)
    (hstream : arrivedBytes events <+: messages.flatMap Message.encode)
    (hrun : run (connectionStep derived.recording)
      (derived.recording.update (object, []) TcpConnection.startReading) events =
        some finish) : finish.2 <+: messages.map some := by
  obtain ⟨missing, hmissing, hwhole⟩ := exists_missing hstream
  exact (Receives.after_run (wellFormed_of_framable hframable) hmissing
    (.decoding _ (decodes_connected hstart hwhole)) hrun).log hmissing

theorem decodes_of_run {object : Object} {finish : Recorded T Object}
    {events : List (ConnectionEvent T)} (hstart : derived.base object = connected T)
    (hframable : ∀ message ∈ messages, Framable message)
    (hsmooth : ∀ event ∈ events, Smooth event)
    (hstream : arrivedBytes events = messages.flatMap Message.encode)
    (hrun : run (connectionStep derived.recording)
      (derived.recording.update (object, []) TcpConnection.startReading) events =
        some finish) :
    ∃ reader, Decodes derived messages (unsent T) finish reader (unsent T).encode := by
  have hwhole : arrivedBytes events ++ (unsent T).encode =
      (messages ++ [unsent T]).flatMap Message.encode := by
    rw [hstream, List.flatMap_append, List.flatMap_singleton]
  exact (decodes_connected hstart hwhole).after_run (wellFormed_of_framable hframable)
    encode_unsent_ne_nil hsmooth hrun

/-- With all of the stream arrived, and nothing failed, an end whose read cannot
complete has handled all the messages. -/
theorem log_eq_of_run {object : Object} {finish : Recorded T Object}
    {events : List (ConnectionEvent T)} (hstart : derived.base object = connected T)
    (hframable : ∀ message ∈ messages, Framable message)
    (hsmooth : ∀ event ∈ events, Smooth event)
    (hstream : arrivedBytes events = messages.flatMap Message.encode)
    (hrun : run (connectionStep derived.recording)
      (derived.recording.update (object, []) TcpConnection.startReading) events =
        some finish)
    (hquiet : ∀ operation, ¬ Readable (derived.base finish.1) operation false) :
    finish.2 = messages.map some := by
  obtain ⟨after, hdecodes⟩ := decodes_of_run hstart hframable hsmooth hstream hrun
  exact hdecodes.log_eq (wellFormed_of_framable hframable) encode_unsent_ne_nil le_rfl hquiet

end Reception

/-! ## Both ends -/

section Conveyance

variable {T : Type*} {Object Error : Side → Type*} [Inhabited T] [HeaderLayout T]

section Definitions

variable (derived : ∀ side, DerivedConnection T (Object side) (Error side))
  (start : ∀ side, Object side) (allowed : ConnectionEvent T → Prop)

/-- What an end has seen: a run of its own in which the carried bytes have
arrived. -/
structure Seen (pair : Pair T Object) (side : Side) (events : List (ConnectionEvent T)) :
    Prop where
  allowed : ∀ event ∈ events, allowed event
  run : run (connectionStep (derived side).recording)
    ((Pair.connected derived start).object side) events = some (pair.object side)
  arrived : arrivedBytes events <+: pair.stream derived side
  carried : pair.carried side = (arrivedBytes events).length

/-- Each end has seen bytes of the other one, and both write streams of framable
messages. -/
structure Conveys (pair : Pair T Object) : Prop where
  seen : ∀ side, ∃ events, Seen derived start allowed pair side events
  streaming : ∀ side, Streaming (pair.base derived side)

end Definitions

variable {derived : ∀ side, DerivedConnection T (Object side) (Error side)}
  {start : ∀ side, Object side} {allowed : ConnectionEvent T → Prop}

/-- An end sees the events that happen at it. -/
theorem Seen.move {pair next : Pair T Object} {side moving : Side}
    {events : List (ConnectionEvent T)} {event : ConnectionEvent T}
    (hseen : Seen derived start allowed pair side events) (hallowed : allowed event)
    (hmove : PairMove derived pair next moving event)
    (hstream : pair.stream derived side <+: next.stream derived side) :
    ∃ events, Seen derived start allowed next side events := by
  by_cases hside : side = moving
  · subst hside
    obtain ⟨rest, hrest⟩ := hseen.arrived
    have hfollows : arrivedBy event <+: rest := by
      have hdrop := hmove.arrived
      rwa [← hrest, hseen.carried, List.drop_left] at hdrop
    have harrived : arrivedBytes (events ++ [event]) = arrivedBytes events ++ arrivedBy event := by
      rw [arrivedBytes, List.flatMap_append, List.flatMap_singleton, ← arrivedBytes]
    refine ⟨events ++ [event], ?_, ?_, ?_, ?_⟩
    · intro other hother
      rcases List.mem_append.mp hother with hold | hnew
      · exact hseen.allowed other hold
      · rwa [List.mem_singleton.mp hnew]
    · rw [run_append, hseen.run, Option.bind_some, run_cons, hmove.step]
      rfl
    · rw [harrived]
      apply List.IsPrefix.trans _ hstream
      rw [← hrest, List.prefix_append_right_inj]
      exact hfollows
    · rw [harrived, List.length_append, hmove.carried, hseen.carried]
  · refine ⟨events, hseen.allowed, ?_, hseen.arrived.trans hstream, ?_⟩
    · rw [hmove.object_of_ne side hside]
      exact hseen.run
    · rw [hmove.carried_of_ne side hside]
      exact hseen.carried

theorem Conveys.move (hrelays : ∀ side, Relays (derived side)) {pair next : Pair T Object}
    {moving : Side} {event : ConnectionEvent T}
    (hconveys : Conveys derived start allowed pair) (hallowed : allowed event)
    (hframed : Framed event) (hmove : PairMove derived pair next moving event) :
    Conveys derived start allowed next := by
  have hextends : ∀ side, Extends (pair.base derived side) (next.base derived side) := by
    intro side
    by_cases hside : side = moving
    · subst hside
      have hstep : Extends ((derived side).recording.base (pair.object side))
          ((derived side).recording.base (next.object side)) :=
        (hconveys.streaming side).step (hrelays side).recording hframed hmove.step
      exact hstep
    · rw [Pair.base, Pair.base, hmove.object_of_ne side hside]
      exact (hconveys.streaming side).same rfl
  refine ⟨?_, fun side => (hextends side).streaming⟩
  intro side
  obtain ⟨events, hseen⟩ := hconveys.seen side
  exact hseen.move hallowed hmove (hextends side.other).handed

theorem Conveys.step (hrelays : ∀ side, Relays (derived side))
    (harrive : ∀ segment, allowed (.arrive segment))
    {pair next : Pair T Object} {event : PairEvent T}
    (hconveys : Conveys derived start allowed pair)
    (hmeets : event.Meets fun happened => Framed happened ∧ allowed happened)
    (hstep : pairStep derived pair event = some next) :
    Conveys derived start allowed next := by
  obtain ⟨moving, happened, ⟨hframed, hallowed⟩, hmove⟩ :=
    pairMove_of_step (fun segment => ⟨trivial, harrive segment⟩) hmeets hstep
  exact hconveys.move hrelays hallowed hframed hmove

/-- Both ends have just been connected. -/
theorem conveys_connected (hstart : ∀ side, (derived side).base (start side) = connected T) :
    Conveys derived start allowed (Pair.connected derived start) := by
  refine ⟨fun side => ⟨[], fun _ hmem => absurd hmem List.not_mem_nil, rfl, List.nil_prefix,
    rfl⟩, ?_⟩
  intro side
  have hbase : (Pair.connected derived start).base derived side =
      (connected T).startReading := by
    rw [← hstart side]
    exact (derived side).base_update _ _
  rw [hbase]
  exact (streaming_connected.same (writingSide_startReadingSequence _)).streaming

theorem Conveys.everyState (hrelays : ∀ side, Relays (derived side))
    (harrive : ∀ segment, allowed (.arrive segment)) {pair : Pair T Object}
    (hconveys : Conveys derived start allowed pair) {events : List (PairEvent T)}
    (hmeets : ∀ event ∈ events, event.Meets fun happened => Framed happened ∧ allowed happened) :
    EveryState (pairStep derived) (Conveys derived start allowed) pair events :=
  everyState_of_everyStep
    (fun _ _ _ hbefore hevent hstep => hbefore.step hrelays harrive hevent hstep)
    hconveys (EveryStep.of_forall_mem fun _ => hmeets)

/-- Whatever happens, as long as nothing but framable messages is sent. -/
theorem conveys_of_framed (hrelays : ∀ side, Relays (derived side))
    (hstart : ∀ side, (derived side).base (start side) = connected T)
    {events : List (PairEvent T)} (hframed : ∀ event ∈ events, event.Meets Framed) :
    EveryState (pairStep derived) (Conveys derived start fun _ => True)
      (Pair.connected derived start) events := by
  apply (conveys_connected hstart).everyState hrelays fun _ => trivial
  intro event hmem
  have hevent := hframed event hmem
  cases event with
  | occur side happened => exact ⟨hevent, trivial⟩
  | carry side count => trivial

/-- The stream of an end is a beginning of what the other end has queued. -/
theorem Conveys.stream_isPrefix {pair : Pair T Object}
    (hconveys : Conveys derived start allowed pair) (side : Side) :
    pair.stream derived side <+: (pair.queued derived side.other).flatMap Message.encode :=
  (hconveys.streaming side.other).isPrefix

/-- Whatever happens at two connected ends in whatever order, with reads and
writes that fail and sockets that are closed, as long as nothing but framable
messages is sent: what an end has handled is a beginning of what the other end
has queued, with nothing lost, repeated, reordered or changed in between. -/
theorem handled_isPrefix_of_run (hrelays : ∀ side, Relays (derived side))
    (hstart : ∀ side, (derived side).base (start side) = connected T)
    {events : List (PairEvent T)} (hframed : ∀ event ∈ events, event.Meets Framed) :
    EveryState (pairStep derived)
      (fun pair => ∀ side, (pair.object side).2 <+: (pair.queued derived side.other).map some)
      (Pair.connected derived start) events := by
  apply (conveys_of_framed hrelays hstart hframed).mono
  intro pair hpair side
  obtain ⟨events, hseen⟩ := hpair.seen side
  exact log_isPrefix_of_run (hstart side) (hpair.streaming side.other).framable
    (hseen.arrived.trans (hpair.stream_isPrefix side)) hseen.run

end Conveyance

/-! ## Two ends that answer -/

/-- A class that answers every message with operation code 1. -/
private def answering : DerivedConnection UInt32 (TcpConnection UInt32) Empty where
  base connection := connection
  withBase _ connection := connection
  base_withBase _ _ := rfl
  handleReceivedMessage connection message :=
    if message.map (fun received => received.header.operationCode) = some 1 then
      .ofOption connection (connection.sendMessage ⟨⟨2, 1⟩, [5]⟩)
    else .returned connection
  onTimerExpiration connection := .returned connection
  readingSide_handleReceivedMessage connection message next hreturned := by
    split at hreturned
    · exact readingSide_of_sendMessage (Outcome.ofOption_eq_returned.mp hreturned)
    · rw [← Outcome.returned.inj hreturned]
  readingSide_onTimerExpiration connection next hreturned := by
    rw [← Outcome.returned.inj hreturned]

private theorem relays_answering : Relays answering where
  handleReceivedMessage connection message next hreturned := by
    dsimp only [answering] at hreturned
    split at hreturned
    · have hsend := Outcome.ofOption_eq_returned.mp hreturned
      have hrun : run commandStep connection [.sendMessage ⟨⟨2, 1⟩, [5]⟩] = some next := by
        rw [run_cons, commandStep, hsend]
        rfl
      refine ⟨_, ?_, hrun⟩
      intro command hmem
      rw [List.mem_singleton.mp hmem]
      exact ⟨rfl, by simp⟩
    · rw [← Outcome.returned.inj hreturned]
      exact commanded_nil connection
  onTimerExpiration connection next hreturned := by
    rw [← Outcome.returned.inj hreturned]
    exact commanded_nil connection

/-- Both ends send a message and answer the one that they get; a header arrives in
two segments.  Before its answer has been sent the left end fails to write. -/
private def answered : List (PairEvent UInt32) :=
  [.occur .left (.sendMessage ⟨⟨1, 2⟩, [8, 7]⟩), .occur .right (.sendMessage ⟨⟨1, 1⟩, [9]⟩),
    .carry .right 3, .occur .left (.completeWrite (.writeHeader [1, 0, 0, 0, 2, 0, 0, 0]) false),
    .carry .right 7, .occur .right (.completeRead .readHeader false),
    .occur .right (.completeRead (.readBody 2) false),
    .occur .right (.completeWrite (.writeHeader [1, 0, 0, 0, 1, 0, 0, 0]) false),
    .occur .right (.completeWrite (.writeBody [9]) false), .carry .left 17,
    .occur .left (.completeRead .readHeader false),
    .occur .left (.completeRead (.readBody 1) false),
    .occur .right (.completeWrite (.writeHeader [2, 0, 0, 0, 1, 0, 0, 0]) false),
    .carry .left 1, .occur .left (.completeRead .readHeader false),
    .occur .left (.completeRead (.readBody 1) false),
    .occur .left (.completeWrite (.writeBody [8, 7]) true)]

theorem handled_answered : ∃ finish,
    run (pairStep fun _ => answering) (Pair.connected (fun _ => answering)
      fun _ => connected UInt32) answered = some finish ∧
    (finish.object .left).2 = [some ⟨⟨1, 1⟩, [9]⟩, some ⟨⟨2, 1⟩, [5]⟩] ∧
    (finish.object .right).2 = [some ⟨⟨1, 2⟩, [8, 7]⟩] ∧
    EveryState (pairStep fun _ => answering)
      (fun pair => ∀ side, (pair.object side).2 <+:
        (pair.queued (fun _ => answering) side.other).map some)
      (Pair.connected (fun _ => answering) fun _ => connected UInt32) answered := by
  refine ⟨_, rfl, by decide, by decide, ?_⟩
  apply handled_isPrefix_of_run (fun _ => relays_answering) (fun _ => rfl)
  simp [answered, PairEvent.Meets, Framed, framable_iff, Message.WellSized]

end ProcessManagerService.TwoEnds
