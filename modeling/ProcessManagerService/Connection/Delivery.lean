import ProcessManagerService.Connection.TwoEnds

/-!
# Delivery between two ends

As long as nothing fails, the bytes that one end has queued are handed over,
carried and read: an end to which nothing is on its way has handled exactly the
messages of the other one, and such a state can always be reached for what has
been queued so far.
-/

namespace ProcessManagerService.TwoEnds

open Communication Connection FrameStream PartialRuns ReadLoop Relay StreamDecoding
  WriteChain WritingFrame

variable {T : Type*} [Inhabited T] [HeaderLayout T]

omit [Inhabited T] [HeaderLayout T] in
theorem closes_of_smooth {event : ConnectionEvent T} (hsmooth : Smooth event) :
    ConnectedState.closes event = false := by
  cases event with
  | disconnect => exact hsmooth.elim
  | closeSocket => exact hsmooth.elim
  | completeRead operation error => exact hsmooth
  | completeWrite operation error => exact hsmooth
  | _ => rfl

theorem isConnected_of_run {Object Error : Type*} {derived : DerivedConnection T Object Error}
    {object finish : Object} {events : List (ConnectionEvent T)}
    (hsmooth : ∀ event ∈ events, Smooth event)
    (hopen : (derived.base object).isConnected = true)
    (hrun : run (connectionStep derived) object events = some finish) :
    (derived.base finish).isConnected = true := by
  induction events generalizing object with
  | nil =>
      cases hrun
      exact hopen
  | cons event events ih =>
      obtain ⟨next, hstep, hrest⟩ := run_cons_eq_some.mp hrun
      have hnext := ConnectedState.isConnected_of_step hstep
      rw [hopen, closes_of_smooth (hsmooth event List.mem_cons_self)] at hnext
      exact ih (fun other hother => hsmooth other (List.mem_cons_of_mem event hother)) hnext hrest

variable {Object Error : Side → Type*}
  {derived : ∀ side, DerivedConnection T (Object side) (Error side)}
  {start : ∀ side, Object side}

/-- No bytes are on their way to the end: the other one has no write
outstanding, the network has carried everything, and no read can complete. -/
structure AtRest (derived : ∀ side, DerivedConnection T (Object side) (Error side))
    (pair : Pair T Object) (side : Side) : Prop where
  written : outstandingWrites (pair.base derived side.other) = []
  carried : pair.carried side = (pair.stream derived side).length
  read : ∀ operation, ¬ Readable (pair.base derived side) operation false

/-- The socket of an end where nothing has failed is open. -/
theorem Seen.sending (hstart : ∀ side, (derived side).base (start side) = connected T)
    {pair : Pair T Object} {side : Side} {events : List (ConnectionEvent T)}
    (hseen : Seen derived start Smooth pair side events)
    (hstreaming : Streaming (pair.base derived side)) :
    ∃ phase, Sending (pair.base derived side) phase := by
  have hopen : ((derived side).recording.base
      ((Pair.connected derived start).object side)).isConnected = true := by
    rw [Pair.connected, (derived side).recording.base_update]
    exact congrArg TcpConnection.isConnected (hstart side)
  have hstill : ((derived side).recording.base (pair.object side)).isConnected = true :=
    isConnected_of_run hseen.allowed hopen hseen.run
  exact hstreaming.sending hstill

theorem Conveys.sending (hstart : ∀ side, (derived side).base (start side) = connected T)
    {pair : Pair T Object} (hconveys : Conveys derived start Smooth pair) (side : Side) :
    ∃ phase, Sending (pair.base derived side) phase := by
  obtain ⟨events, hseen⟩ := hconveys.seen side
  exact hseen.sending hstart (hconveys.streaming side)

/-- With everything handed over, carried and read, everything is handled. -/
theorem Conveys.handled_eq (hstart : ∀ side, (derived side).base (start side) = connected T)
    {pair : Pair T Object} {side : Side} (hconveys : Conveys derived start Smooth pair)
    (hhanded : pair.stream derived side =
      (pair.queued derived side.other).flatMap Message.encode)
    (hcarried : pair.carried side = (pair.stream derived side).length)
    (hread : ∀ operation, ¬ Readable (pair.base derived side) operation false) :
    (pair.object side).2 = (pair.queued derived side.other).map some := by
  obtain ⟨events, hseen⟩ := hconveys.seen side
  have harrived : arrivedBytes events = pair.stream derived side :=
    hseen.arrived.eq_of_length (hseen.carried.symm.trans hcarried)
  exact log_eq_of_run (hstart side) (hconveys.streaming side.other).framable hseen.allowed
    (harrived.trans hhanded) hseen.run hread

/-- As long as nothing fails, an end to which no bytes are on their way has
handled exactly the messages that the other end has queued. -/
theorem handled_eq_of_atRest (hrelays : ∀ side, Relays (derived side))
    (hstart : ∀ side, (derived side).base (start side) = connected T)
    {events : List (PairEvent T)}
    (hmeets : ∀ event ∈ events, event.Meets fun happened => Framed happened ∧ Smooth happened) :
    EveryState (pairStep derived)
      (fun pair => ∀ side, AtRest derived pair side →
        (pair.object side).2 = (pair.queued derived side.other).map some)
      (Pair.connected derived start) events := by
  have hconveys := (conveys_connected hstart).everyState hrelays (fun _ => trivial) hmeets
  apply hconveys.mono
  intro pair hpair side hrest
  obtain ⟨phase, hsending⟩ := hpair.sending hstart side.other
  have hidle : phase = .idle := by
    by_contra hbusy
    obtain ⟨operation, hmem⟩ := hsending.flowing.exists_outstanding hbusy
    rw [hrest.written] at hmem
    exact List.not_mem_nil hmem
  subst hidle
  exact hpair.handled_eq hstart hsending.flowing.handed_of_idle hrest.carried hrest.read

/-- The left end sends one message, which is carried in three parts. -/
private def sentInParts : List (PairEvent UInt32) :=
  [.occur .left (.sendMessage ⟨⟨1, 2⟩, [8, 7]⟩), .carry .right 3, .carry .right 5,
    .occur .left (.completeWrite (.writeHeader [1, 0, 0, 0, 2, 0, 0, 0]) false),
    .occur .right (.completeRead .readHeader false), .carry .right 2,
    .occur .left (.completeWrite (.writeBody [8, 7]) false)]

private theorem meets_sentInParts : ∀ event ∈ sentInParts,
    event.Meets fun happened => Framed happened ∧ Smooth happened := by
  intro event hmem
  simp only [sentInParts, List.mem_cons, List.not_mem_nil, or_false] at hmem
  rcases hmem with rfl | rfl | rfl | rfl | rfl | rfl | rfl
  · exact ⟨⟨rfl, by simp⟩, trivial⟩
  all_goals trivial

/-- The right end reads the body as well. -/
private def readCompletely : List (PairEvent UInt32) :=
  sentInParts ++ [.occur .right (.completeRead (.readBody 2) false)]

theorem handled_readCompletely : ∃ finish,
    run (pairStep fun _ => DerivedConnection.inert UInt32)
      (Pair.connected (fun _ => .inert UInt32) fun _ => connected UInt32) readCompletely =
        some finish ∧
    AtRest (fun _ => .inert UInt32) finish .right ∧
    (finish.object .right).2 = [some ⟨⟨1, 2⟩, [8, 7]⟩] := by
  obtain ⟨finish, hrun, hwrites, hcount, hreader, hqueued⟩ : ∃ finish,
      run (pairStep fun _ => DerivedConnection.inert UInt32)
        (Pair.connected (fun _ => .inert UInt32) fun _ => connected UInt32) readCompletely =
          some finish ∧
      outstandingWrites (finish.base (fun _ => .inert UInt32) .left) = [] ∧
      finish.carried .right = (finish.stream (fun _ => .inert UInt32) .right).length ∧
      finish.base (fun _ => .inert UInt32) .right =
        ⟨⟨true, [], [], []⟩, .create, some ⟨⟨0, 0⟩, []⟩, false, [.readHeader]⟩ ∧
      finish.queued (fun _ => .inert UInt32) .left = [⟨⟨1, 2⟩, [8, 7]⟩] :=
    ⟨_, rfl, rfl, rfl, rfl, rfl⟩
  have hrest : AtRest (fun _ => .inert UInt32) finish .right := by
    refine ⟨hwrites, hcount, ?_⟩
    rw [hreader]
    intro operation hreadable
    obtain rfl : operation = .readHeader := List.mem_singleton.mp hreadable.1
    exact absurd (hreadable.2 rfl) (by decide)
  have hmeets : ∀ event ∈ readCompletely,
      event.Meets fun happened => Framed happened ∧ Smooth happened := by
    intro event hmem
    rcases List.mem_append.mp hmem with hsent | hread
    · exact meets_sentInParts event hsent
    · rw [List.mem_singleton.mp hread]
      trivial
  have hhandled := (handled_eq_of_atRest (fun _ => relays_inert) (fun _ => rfl) hmeets).finish
    hrun .right hrest
  exact ⟨finish, hrun, hrest, hhandled.trans (congrArg (List.map some) hqueued)⟩

/-! ## Everything queued can be handled -/

/-- A read or a write completes without an error. -/
def Completes : ConnectionEvent T → Prop
  | .completeRead _ error => error = false
  | .completeWrite _ error => error = false
  | _ => False

omit [Inhabited T] [HeaderLayout T] in
theorem meets_of_completes {event : PairEvent T} (hmeets : event.Meets Completes) :
    event.Meets fun happened => Framed happened ∧ Smooth happened := by
  cases event with
  | carry side count => trivial
  | occur side happened =>
      cases happened with
      | completeRead operation error => exact ⟨trivial, hmeets⟩
      | completeWrite operation error => exact ⟨trivial, hmeets⟩
      | _ => exact hmeets.elim

omit [HeaderLayout T] [Inhabited T] in
theorem isArrival_of_completes {event : ConnectionEvent T} (hcompletes : Completes event) :
    isArrival event = false := by
  cases event with
  | arrive segment => exact hcompletes.elim
  | _ => rfl

/-- A run of one end is a run of both. -/
theorem run_occur {side : Side} {events : List (ConnectionEvent T)}
    (hcompletes : ∀ event ∈ events, Completes event) (pair : Pair T Object) :
    run (pairStep derived) pair (events.map (.occur side)) =
      (run (connectionStep (derived side).recording) (pair.object side) events).map
        (pair.withObject side) := by
  apply run_map (fun pair : Pair T Object => pair.object side)
    (fun pair : Pair T Object => pair.withObject side)
  · intro pair object
    exact pair.object_withObject side object
  · intro pair first second
    change Pair.mk (Function.update (Function.update pair.object side first) side second)
      pair.carried = _
    rw [Function.update_idem]
    rfl
  · intro pair
    exact congrArg (Pair.mk · pair.carried) (Function.update_eq_self side pair.object)
  · intro pair event hmem
    rw [pairStep, isArrival_of_completes (hcompletes event hmem)]
    exact if_neg Bool.false_ne_true

/-- Completions and carried bytes lead from one state to the other. -/
def Proceeds (derived : ∀ side, DerivedConnection T (Object side) (Error side))
    (pair finish : Pair T Object) : Prop :=
  ∃ events, (∀ event ∈ events, event.Meets Completes) ∧
    run (pairStep derived) pair events = some finish

theorem Proceeds.trans {first second third : Pair T Object}
    (hfirst : Proceeds derived first second) (hsecond : Proceeds derived second third) :
    Proceeds derived first third := by
  obtain ⟨before, hbefore, hrunBefore⟩ := hfirst
  obtain ⟨after, hafter, hrunAfter⟩ := hsecond
  refine ⟨before ++ after, ?_, ?_⟩
  · intro event hmem
    exact (List.mem_append.mp hmem).elim (hbefore event) (hafter event)
  · rw [run_append, hrunBefore, Option.bind_some, hrunAfter]

theorem Proceeds.conveys (hrelays : ∀ side, Relays (derived side)) {pair finish : Pair T Object}
    (hproceeds : Proceeds derived pair finish) (hconveys : Conveys derived start Smooth pair) :
    Conveys derived start Smooth finish := by
  obtain ⟨events, hmeets, hrun⟩ := hproceeds
  exact (hconveys.everyState hrelays (fun _ => trivial)
    fun event hmem => meets_of_completes (hmeets event hmem)).finish hrun

/-- Completions at one end leave the other one alone. -/
theorem proceeds_of_run {side : Side} {pair : Pair T Object} {object : Recorded T (Object side)}
    {events : List (ConnectionEvent T)} (hcompletes : ∀ event ∈ events, Completes event)
    (hrun : run (connectionStep (derived side).recording) (pair.object side) events =
      some object) : Proceeds derived pair (pair.withObject side object) := by
  refine ⟨events.map (.occur side), ?_, ?_⟩
  · intro event hmem
    obtain ⟨happened, hhappened, rfl⟩ := List.mem_map.mp hmem
    exact hcompletes happened hhappened
  · rw [run_occur hcompletes, hrun, Option.map_some]

/-- An end writes everything that it has queued. -/
theorem Conveys.exists_drained (hstart : ∀ side, (derived side).base (start side) = connected T)
    {pair : Pair T Object} (hconveys : Conveys derived start Smooth pair) (side : Side) :
    ∃ drained, Proceeds derived pair drained ∧
      drained.queued derived side = pair.queued derived side ∧
      (drained.base derived side).socket.handed =
        (pair.queued derived side).flatMap Message.encode := by
  obtain ⟨phase, hsending⟩ := hconveys.sending hstart side
  have hrecorded : Sending ((derived side).recording.base (pair.object side)) phase := hsending
  obtain ⟨completions, object, honly, hrun, hpushed, hhanded⟩ := hrecorded.exists_drained
  have hcompletes : ∀ event ∈ completions, Completes event := by
    intro event hmem
    obtain ⟨operation, rfl⟩ := honly event hmem
    rfl
  have hself := pair.object_withObject side object
  refine ⟨_, proceeds_of_run hcompletes hrun, ?_, ?_⟩
  · rw [Pair.queued, Pair.base, hself]
    exact hpushed
  · rw [Pair.base, hself]
    exact hhanded

/-- The network carries everything that has been handed over. -/
theorem Conveys.exists_carried {pair : Pair T Object}
    (hconveys : Conveys derived start Smooth pair) (side : Side) :
    ∃ next, Proceeds derived pair next ∧
      next.carried side = (pair.stream derived side).length ∧
      next.object side.other = pair.object side.other := by
  obtain ⟨before, hseen⟩ := hconveys.seen side
  let count := (pair.stream derived side).length - pair.carried side
  have hall : pair.carried side + count = (pair.stream derived side).length := by
    apply Nat.add_sub_cancel'
    rw [hseen.carried]
    exact hseen.arrived.length_le
  obtain ⟨object, hobject⟩ : ∃ object, connectionStep (derived side).recording
      (pair.object side) (.arrive (((pair.stream derived side).drop
        (pair.carried side)).take count)) = some object := ⟨_, rfl⟩
  have hstep : pairStep derived pair (.carry side count) =
      some ⟨Function.update pair.object side object,
        Function.update pair.carried side (pair.carried side + count)⟩ := by
    rw [pairStep, if_pos hall.le, hobject, Option.map_some]
  refine ⟨_, ⟨[.carry side count], ?_, by rw [run_cons, hstep, Option.bind_some, run_nil]⟩,
    (Function.update_self side _ pair.carried).trans hall,
    Function.update_of_ne side.other_ne _ _⟩
  intro event hmem
  rw [List.mem_singleton.mp hmem]
  trivial

/-- An end reads everything that has been carried to it. -/
theorem Conveys.exists_read (hstart : ∀ side, (derived side).base (start side) = connected T)
    {pair : Pair T Object} {side : Side} (hconveys : Conveys derived start Smooth pair)
    (hreturns : ∀ object message, ∃ next,
      (derived side).handleReceivedMessage object message = .returned next)
    (hhanded : pair.stream derived side =
      (pair.queued derived side.other).flatMap Message.encode)
    (hcarried : pair.carried side = (pair.stream derived side).length) :
    ∃ finish, Proceeds derived pair finish ∧
      (finish.object side).2 = (pair.queued derived side.other).map some := by
  obtain ⟨before, hseen⟩ := hconveys.seen side
  have hframable := (hconveys.streaming side.other).framable
  have harrived : arrivedBytes before = pair.stream derived side :=
    hseen.arrived.eq_of_length (hseen.carried.symm.trans hcarried)
  obtain ⟨reader, hdecodes⟩ :=
    decodes_of_run (hstart side) hframable hseen.allowed (harrived.trans hhanded) hseen.run
  have hwell := wellFormed_of_framable hframable
  obtain ⟨completions, quiet, honly, hrun, ⟨after, hquiet⟩, hnone⟩ :=
    hdecodes.exists_quiet hreturns hwell encode_unsent_ne_nil
  have hcompletes : ∀ event ∈ completions, Completes event := by
    intro event hmem
    obtain ⟨operation, rfl⟩ := honly event hmem
    rfl
  have hself := pair.object_withObject side quiet
  refine ⟨_, proceeds_of_run hcompletes hrun, ?_⟩
  rw [hself]
  exact hquiet.log_eq hwell encode_unsent_ne_nil le_rfl hnone

/-- As long as nothing has failed, reads and writes can complete and bytes can
be carried until an end has handled everything that the other one has queued so
far, wherever the two ends are. -/
theorem exists_handled (hrelays : ∀ side, Relays (derived side))
    (hstart : ∀ side, (derived side).base (start side) = connected T)
    (hreturns : ∀ side object message, ∃ next,
      (derived side).handleReceivedMessage object message = .returned next)
    {events : List (PairEvent T)}
    (hmeets : ∀ event ∈ events, event.Meets fun happened => Framed happened ∧ Smooth happened)
    {pair : Pair T Object}
    (hrun : run (pairStep derived) (Pair.connected derived start) events = some pair)
    (side : Side) :
    ∃ finish, Proceeds derived pair finish ∧
      (finish.object side).2 = (pair.queued derived side.other).map some := by
  have hconveys := ((conveys_connected hstart).everyState hrelays (fun _ => trivial)
    hmeets).finish hrun
  obtain ⟨drained, hdrain, hqueued, hhanded⟩ := hconveys.exists_drained hstart side.other
  have hdrained := hdrain.conveys hrelays hconveys
  obtain ⟨carried, hcarry, hcount, hsame⟩ := hdrained.exists_carried side
  have hother : carried.base derived side.other = drained.base derived side.other := by
    rw [Pair.base, hsame, Pair.base]
  have hpushed : carried.queued derived side.other = pair.queued derived side.other := by
    rw [Pair.queued, hother, ← hqueued, Pair.queued]
  have hstream : carried.stream derived side = drained.stream derived side := by
    rw [Pair.stream, hother, Pair.stream]
  obtain ⟨finish, hread, hhandled⟩ :=
    (hcarry.conveys hrelays hdrained).exists_read hstart (hreturns side)
      (hstream.trans (hhanded.trans (by rw [hpushed]))) (hcount.trans (by rw [hstream]))
  exact ⟨finish, (hdrain.trans hcarry).trans hread, hpushed ▸ hhandled⟩

theorem exists_handled_sentInParts : ∃ pair finish,
    run (pairStep fun _ => DerivedConnection.inert UInt32)
      (Pair.connected (fun _ => .inert UInt32) fun _ => connected UInt32) sentInParts =
        some pair ∧
    (pair.object .right).2 = [] ∧ Proceeds (fun _ => .inert UInt32) pair finish ∧
    (finish.object .right).2 = [some ⟨⟨1, 2⟩, [8, 7]⟩] := by
  obtain ⟨pair, hrun, hnothing, hqueued⟩ : ∃ pair,
      run (pairStep fun _ => DerivedConnection.inert UInt32)
        (Pair.connected (fun _ => .inert UInt32) fun _ => connected UInt32) sentInParts =
          some pair ∧ (pair.object .right).2 = [] ∧
      pair.queued (fun _ => .inert UInt32) .left = [⟨⟨1, 2⟩, [8, 7]⟩] := ⟨_, rfl, rfl, rfl⟩
  obtain ⟨finish, hproceeds, hhandled⟩ := exists_handled (fun _ => relays_inert)
    (fun _ => rfl) (fun _ object _ => ⟨object, rfl⟩) meets_sentInParts hrun .right
  exact ⟨pair, finish, hrun, hnothing, hproceeds,
    hhandled.trans (congrArg (List.map some) hqueued)⟩

end ProcessManagerService.TwoEnds
