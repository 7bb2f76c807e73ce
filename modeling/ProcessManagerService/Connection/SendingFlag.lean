import ProcessManagerService.Connection.WriteChain

/-!
# The sending flag

`sendingInProgress` is meant to say whether a header or body write is
outstanding: `sendMessage` relies on it to leave the sending to a chain that is
already running.  One exit of `postWriteMessageHeader` ends the chain without
clearing it, the one for an empty body with nothing queued behind it.  This
file shows that the flag is truthful along a run exactly when no step takes
that exit.
-/

namespace ProcessManagerService.SendingFlag

open Communication Connection PartialRuns WriteChain

variable {T : Type*}

/-- The flag says exactly whether a header or body write is outstanding. -/
def SendingFlagTruthful (connection : TcpConnection T) : Prop :=
  connection.sendingInProgress = true ↔ WriteOutstanding connection

/-- The header of an empty-bodied message has been written and no other message
is queued behind it. -/
def EndsOnEmptyBody (connection : TcpConnection T) : WriterEvent T → Prop
  | .completeWrite (.writeHeader _) false =>
      ∃ message, connection.messagesQueue.items = [message] ∧ message.body = []
  | _ => False

/-- A send is defined, and on an open socket it leaves a write outstanding. -/
def SendLeavesWrite [HeaderLayout T] (connection : TcpConnection T) :
    WriterEvent T → Prop
  | .sendMessage message => ∃ next, connection.sendMessage message = some next ∧
      (connection.socket.isOpen = true → WriteOutstanding next)
  | _ => True

variable [HeaderLayout T]

/-- Only the end on an empty body stalls the writer. -/
theorem after_ne_stalled {connection next : TcpConnection T}
    {phase after : WritePhase T} {event : WriterEvent T} (hphase : InPhase connection phase)
    (hmove : WriterMove connection phase event next after) (hnot : phase ≠ .stalled)
    (hguard : ¬ EndsOnEmptyBody connection event) : after ≠ .stalled := by
  cases hmove with
  | queued _ message hbusy => cases phase <;> simp_all [WritePhase.queue]
  | disconnected => exact hnot
  | stalledByEmpty front hbody =>
      cases hphase with
      | header _ _ hsending hitems hwrites => exact absurd ⟨front, hitems, hbody⟩ hguard
  | _ => simp

/-- The writer is in a phase other than the stalled one. -/
def NotStalled (connection : TcpConnection T) : Prop :=
  ∃ phase, phase ≠ .stalled ∧ InPhase connection phase

theorem notStalled_connected : NotStalled (connected T) :=
  ⟨.idle, by simp, inPhase_connected⟩

theorem NotStalled.sendingFlagTruthful {connection : TcpConnection T}
    (hnot : NotStalled connection) : SendingFlagTruthful connection := by
  obtain ⟨phase, hphase, hin⟩ := hnot
  cases hin with
  | idle hsending hwrites => simp [SendingFlagTruthful, WriteOutstanding, hsending, hwrites]
  | stalled => exact absurd rfl hphase
  | header front rest hsending hitems hwrites =>
      simp [SendingFlagTruthful, WriteOutstanding, hsending, hwrites]
  | body front rest hsending hitems hbody hwrites =>
      simp [SendingFlagTruthful, WriteOutstanding, hsending, hwrites]

theorem NotStalled.step {connection next : TcpConnection T} {event : WriterEvent T}
    (hnot : NotStalled connection) (hguard : ¬ EndsOnEmptyBody connection event)
    (hstep : writerStep connection event = some next) : NotStalled next := by
  obtain ⟨phase, hphase, hin⟩ := hnot
  obtain ⟨after, hmove⟩ := hin.move hstep
  exact ⟨after, after_ne_stalled hin hmove hphase hguard, hmove.inPhase hin⟩

/-- The end on an empty body leaves the flag set and nothing on its way. -/
theorem NotStalled.not_truthful_of_endsOnEmptyBody {connection next : TcpConnection T}
    {event : WriterEvent T} (hnot : NotStalled connection)
    (hend : EndsOnEmptyBody connection event)
    (hstep : writerStep connection event = some next) : ¬ SendingFlagTruthful next := by
  obtain ⟨phase, hphase, hin⟩ := hnot
  obtain ⟨after, hmove⟩ := hin.move hstep
  cases hmove with
  | stalledByEmpty front hbody =>
      cases hin with
      | header _ _ hsending hitems hwrites =>
          have hidle := outstandingWrites_finishWrite false hwrites
          intro htruthful
          exact htruthful.mp hsending hidle
  | headerWritten front rest hbody =>
      cases hin with
      | header _ _ hsending hitems hwrites =>
          obtain ⟨message, hsingle, hempty⟩ := hend
          rw [hitems, List.cons.injEq] at hsingle
          exact absurd (hsingle.1 ▸ hempty) hbody
  | emptyWritten front following rest hbody =>
      cases hin with
      | header _ _ hsending hitems hwrites =>
          obtain ⟨message, hsingle, hempty⟩ := hend
          simp [hitems] at hsingle
  | failed _ operation => cases operation <;> exact False.elim hend
  | _ => exact False.elim hend

/-- A send on an open socket leaves a write outstanding. -/
theorem NotStalled.writeOutstanding_of_send {connection next : TcpConnection T}
    {message : Message T} (hnot : NotStalled connection)
    (hopen : connection.socket.isOpen = true)
    (hsend : connection.sendMessage message = some next) : WriteOutstanding next := by
  obtain ⟨phase, hphase, hin⟩ := hnot
  obtain ⟨after, hmove⟩ : ∃ after, WriterMove connection phase (.sendMessage message) next after :=
    hin.move hsend
  cases hmove with
  | queued _ _ hbusy =>
      have hnotIdle : phase ≠ .idle := by
        rcases hbusy with hclosed | hnotIdle
        · rw [hopen] at hclosed
          cases hclosed
        · exact hnotIdle
      change outstandingWrites connection ≠ []
      cases hin with
      | idle => exact absurd rfl hnotIdle
      | stalled => exact absurd rfl hphase
      | header front rest hsending hitems hwrites => simp [hwrites]
      | body front rest hsending hitems hbody hwrites => simp [hwrites]
  | started _ front rest hopen hitems =>
      simp [WriteOutstanding, AsyncOperation.isWrite]

theorem NotStalled.sendLeavesWrite {connection : TcpConnection T} (event : WriterEvent T)
    (hnot : NotStalled connection) : SendLeavesWrite connection event := by
  cases event with
  | sendMessage message =>
      obtain ⟨phase, hphase, hin⟩ := hnot
      obtain ⟨next, after, hsend, hmove⟩ := hin.exists_sendMessage message
      refine ⟨next, hsend, ?_⟩
      intro hopen
      exact NotStalled.writeOutstanding_of_send ⟨phase, hphase, hin⟩ hopen hsend
  | completeWrite operation error => trivial
  | disconnect => trivial

/-- Along a run the flag tells the truth, and every send on an open socket
leaves a write outstanding, exactly when no step ends the chain on an empty
body. -/
theorem sendingFlagTruthful_iff {events : List (WriterEvent T)} {finish : TcpConnection T}
    (hrun : run writerStep (connected T) events = some finish) :
    EveryState writerStep SendingFlagTruthful (connected T) events ∧
        EveryStep writerStep SendLeavesWrite (connected T) events ↔
      EveryStep writerStep (fun connection event => ¬ EndsOnEmptyBody connection event)
        (connected T) events := by
  have hkeep : ∀ (connection : TcpConnection T) event next, NotStalled connection →
      ¬ EndsOnEmptyBody connection event →
      writerStep connection event = some next → NotStalled next :=
    fun _ _ _ hnot hguard hstep => hnot.step hguard hstep
  have htruthful := everyState_iff_everyStep
    (fun connection => NotStalled.sendingFlagTruthful) hkeep
    (fun _ _ _ hnot hend hstep =>
      hnot.not_truthful_of_endsOnEmptyBody (not_not.mp hend) hstep)
    notStalled_connected hrun
  rw [← htruthful, and_iff_left_iff_imp]
  intro hevery
  have hguarded := htruthful.mp hevery
  exact (everyState_of_everyStep hkeep notStalled_connected hguarded).everyStep
    fun connection event hnot => hnot.sendLeavesWrite event

private def laden : Message UInt32 := ⟨⟨1, 2⟩, [8, 7]⟩

private def hollow : Message UInt32 := ⟨⟨5, 0⟩, []⟩

/-- An empty body in front of another message does not stall the writer. -/
theorem sendingFlagTruthful_hollow_then_laden :
    EveryState writerStep SendingFlagTruthful (connected UInt32)
        [.sendMessage hollow, .sendMessage laden,
          .completeWrite (.writeHeader (HeaderLayout.encode hollow.header)) false] ∧
      EveryStep writerStep SendLeavesWrite (connected UInt32)
        [.sendMessage hollow, .sendMessage laden,
          .completeWrite (.writeHeader (HeaderLayout.encode hollow.header)) false] := by
  refine (sendingFlagTruthful_iff rfl).mpr ⟨id, ?_⟩
  intro first hfirst
  cases hfirst
  refine ⟨id, ?_⟩
  intro second hsecond
  cases hsecond
  refine ⟨?_, fun _ _ => trivial⟩
  rintro ⟨message, hitems, hbody⟩
  cases hitems

/-- A single message with an empty body leaves the flag set on an open socket
with nothing outstanding, and from then on sends only queue. -/
theorem sendingFlag_stale_after_empty_body : ∃ finish,
    run writerStep (connected UInt32)
        [.sendMessage hollow,
          .completeWrite (.writeHeader (HeaderLayout.encode hollow.header)) false] =
      some finish ∧
    finish.socket.isOpen = true ∧ ¬ SendingFlagTruthful finish ∧
    ¬ SendLeavesWrite finish (.sendMessage laden) := by
  refine ⟨_, rfl, rfl, ?_, ?_⟩
  · intro htruthful
    exact htruthful.mp rfl rfl
  · rintro ⟨next, hsend, hwrite⟩
    cases hsend
    exact hwrite rfl rfl

end ProcessManagerService.SendingFlag
