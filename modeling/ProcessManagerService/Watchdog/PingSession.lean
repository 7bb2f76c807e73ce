import ProcessManagerService.Watchdog.PingEffects
import ProcessManagerService.Watchdog.SessionRuns

/-!
# Pings and the accepted session

A ping is sent when the ping timer expires, and the timer is started after the
connect response and by every ping response that carries the code of the
session.  The connect and the reconnect handler look at the connection state
first; the ping handler compares the code with a member that nobody has written
before a response is accepted.  So a ping belongs to an accepted session as long
as no ping response is taken before there is one.
-/

namespace ProcessManagerService.Watchdog

open Communication Connection PartialRuns ReadLoop StreamDecoding TimerFrame
open WatchdogConnection (delivery request getWatchdogResponseHandler)

/-- What `Service::Base` and the `io_context` do with a watchdog connection.
`handleResponse` is the catching path for a message, which no function takes. -/
inductive PingEvent where
  | session (event : SessionEvent)
  | sendConnectRequest
  | waitForConnectResponse
  | handleResponse (message : Message Operation)

/-- Calls that the class makes itself. -/
def SessionEvent.ownCall : SessionEvent → Bool
  | during (.sendMessage _) => true
  | during (.setTimerExpiration _) => true
  | _ => false

/-- The code of the response that was accepted last.  It is the first one that
can be accepted, because after it none is any more. -/
def acceptedCode (protobuf : Protobuf) (log : List (Option (Message Operation))) :
    Option UInt32 :=
  (deliveries log).findSome? (Delivery.accepted protobuf)

/-- Every ping request handed to `sendMessage` carries the accepted code, and no
ping timer is armed before there is one. -/
structure PingsAccepted (protobuf : Protobuf)
    (object : Recorded Operation WatchdogConnection) : Prop where
  requests : ∀ message ∈ object.1.base.messagesQueue.pushed,
    message.header.operationCode = .pingRequest →
      ∃ code, acceptedCode protobuf object.2 = some code ∧
        message = request .pingRequest (protobuf.serializePingRequest code)
  timer : waits object.1.base ≠ [] → acceptedCode protobuf object.2 ≠ none

section Step

variable [HeaderLayout Operation] (protobuf : Protobuf) (serviceIdentifier : Int32)

def pingStep (object : Recorded Operation WatchdogConnection) :
    PingEvent → Option (Recorded Operation WatchdogConnection)
  | .session event => if event.ownCall then none else sessionStep protobuf object event
  | .sendConnectRequest =>
      (object.1.sendConnectRequest protobuf serviceIdentifier).toOption.map fun sent =>
        (sent, object.2)
  | .waitForConnectResponse =>
      if object.1.session.connectionState = .connected then
        some ((recorder protobuf).update object fun connection =>
          connection.setTimerExpiration 1000)
      else some object
  | .handleResponse message =>
      (object.1.handleResponse protobuf serviceIdentifier
        (getWatchdogResponseHandler message.header.operationCode) message.body).toOption.map
          fun handled => (handled, object.2 ++ [some message])

/-- A ping response is taken before a session has been accepted: on the path
from the socket one with the value that `sequenceCode` happens to have, and on
the catching path any that parses. -/
def Premature (object : Recorded Operation WatchdogConnection) :
    PingEvent → Prop
  | .session (.during event) => object.1.session.connectionState = .notConnected ∧
      ∃ message, some message ∈ passedBy object.1.base.readingSide event ∧
        AnswersPing protobuf message object.1.session.sequenceCode
  | .handleResponse message => object.1.session.connectionState = .notConnected ∧
      ∃ code, AnswersPing protobuf message code
  | _ => False

end Step

/-! ## What one event can do -/

section Moves

variable [HeaderLayout Operation] {protobuf : Protobuf} {serviceIdentifier : Int32}

/-- The events by what they do to the pings. -/
inductive PingMove (protobuf : Protobuf) (serviceIdentifier : Int32)
    (object : Recorded Operation WatchdogConnection) :
    PingEvent → Recorded Operation WatchdogConnection → Prop where
  | silent (event : SessionEvent) {next : Recorded Operation WatchdogConnection}
      (hsilent : Silent object.1.base next.1.base)
      (hhandles : Handles protobuf object next []) :
      PingMove protobuf serviceIdentifier object (.session event) next
  | handled (event : ConnectionEvent Operation) (message : Option (Message Operation))
      {next : Recorded Operation WatchdogConnection}
      (hpassed : passedBy object.1.base.readingSide event = [message])
      (hpushed : next.1.base.messagesQueue.pushed = object.1.base.messagesQueue.pushed)
      (hwaits : (waits next.1.base).length = (waits object.1.base).length +
        message.elim 0 (armedBy protobuf object.1.session))
      (hhandles : Handles protobuf object next [message]) :
      PingMove protobuf serviceIdentifier object (.session (.during event)) next
  | expired (event : ConnectionEvent Operation) {next : Recorded Operation WatchdogConnection}
      (hwait : waits object.1.base ≠ [])
      (hpushed : next.1.base.messagesQueue.pushed =
        object.1.base.messagesQueue.pushed ++ [pingOf protobuf object.1.session])
      (hhandles : Handles protobuf object next []) :
      PingMove protobuf serviceIdentifier object (.session (.during event)) next
  | requested {next : Recorded Operation WatchdogConnection}
      (hpushed : next.1.base.messagesQueue.pushed = object.1.base.messagesQueue.pushed ++
        [request .connectRequest (protobuf.serializeConnectRequest serviceIdentifier)])
      (hwaits : waits next.1.base = waits object.1.base)
      (hhandles : Handles protobuf object next []) :
      PingMove protobuf serviceIdentifier object .sendConnectRequest next
  | started {next : Recorded Operation WatchdogConnection}
      (hconnected : object.1.session.connectionState = .connected)
      (hpushed : next.1.base.messagesQueue.pushed = object.1.base.messagesQueue.pushed)
      (hhandles : Handles protobuf object next []) :
      PingMove protobuf serviceIdentifier object .waitForConnectResponse next
  | refused : PingMove protobuf serviceIdentifier object .waitForConnectResponse object
  | caught (message : Message Operation) {next : Recorded Operation WatchdogConnection}
      (hpushed : next.1.base.messagesQueue.pushed = object.1.base.messagesQueue.pushed ++
        resentBy protobuf serviceIdentifier object.1.session
          (raisedBy protobuf object.1.session message))
      (hwaits : (waits next.1.base).length =
        (waits object.1.base).length + armedBy protobuf object.1.session message)
      (hhandles : Handles protobuf object next [some message]) :
      PingMove protobuf serviceIdentifier object (.handleResponse message) next

variable {object next : Recorded Operation WatchdogConnection}

/-- The completion of a read handles a message or is silent. -/
theorem pingMove_of_completeRead {operation : AsyncOperation} {error : Bool}
    (hstep : connectionStep (recorder protobuf) object (.completeRead operation error) =
      some next) :
    PingMove protobuf serviceIdentifier object
      (.session (.during (.completeRead operation error))) next := by
  have hlog := log_of_step hstep
  obtain ⟨-, hcomplete⟩ := connectionStep_completeRead.mp hstep
  obtain ⟨finished, hcall, hhandler⟩ := Outcome.andThen_eq_returned.mp hcomplete
  have hfinished := handles_of_call hcall
  obtain ⟨connection, hfinish, rfl⟩ := (recorder protobuf).call_eq_returned.mp hcall
  replace hfinish : object.1.base.finishRead operation error = some connection := hfinish
  cases operation with
  | readHeader =>
      obtain ⟨posted, hpost, rfl⟩ := (recorder protobuf).call_eq_returned.mp hhandler
      have hread : Silent object.1.base connection := silent_of_finishRead rfl hfinish
      exact .silent _ (hread.trans (silent_of_postReadMessageHeader hpost)) hfinished
  | readBody size =>
      have hread : Silent object.1.base connection := silent_of_finishRead rfl hfinish
      cases error with
      | true =>
          cases hhandler
          exact .silent _ (hread.trans (silent_disconnect connection)) hfinished
      | false =>
          have hhandles := hfinished.trans (handles_of_postReadMessageBody hhandler)
          obtain ⟨handled, hhandled, hrestart⟩ := Outcome.andThen_eq_returned.mp hhandler
          obtain ⟨inner, hinner, rfl⟩ := Outcome.map_eq_returned.mp hhandled
          cases hrestart
          have hrestarted := silent_startReadingSequence inner.base
          obtain ⟨hqueue, hwaits⟩ := handleReceivedMessage_effect hinner
          have hpassed := List.append_cancel_left (hlog.symm.trans hhandles.1)
          refine .handled _ _ hpassed ?_ ?_ hhandles
          · calc inner.base.startReadingSequence.messagesQueue.pushed
                = inner.base.messagesQueue.pushed := hrestarted.pushed
              _ = connection.messagesQueue.pushed := congrArg MessageQueue.pushed hqueue
              _ = object.1.base.messagesQueue.pushed := hread.pushed
          · calc (waits inner.base.startReadingSequence).length
                = (waits inner.base).length := congrArg List.length hrestarted.waits
              _ = (waits connection).length + _ := hwaits
              _ = (waits object.1.base).length + _ := by rw [hread.waits]; rfl
  | _ => cases hhandler

/-- The expiry of the timer sends a ping of the session. -/
theorem pingMove_of_completeWait {millisec : ℕ} {aborted : Bool}
    (hstep : connectionStep (recorder protobuf) object (.completeWait millisec aborted) =
      some next) :
    PingMove protobuf serviceIdentifier object
      (.session (.during (.completeWait millisec aborted))) next := by
  obtain ⟨hmem, hexpired⟩ := connectionStep_completeWait.mp hstep
  rw [completeWait] at hexpired
  have hhandles := handles_of_timerExpired hexpired
  obtain ⟨inner, hsent, rfl⟩ := Outcome.map_eq_returned.mp hexpired
  have hwait : waits object.1.base ≠ [] :=
    List.ne_nil_of_mem (List.mem_filter.mpr ⟨hmem, rfl⟩)
  obtain ⟨-, hqueues, -⟩ := send_effect hsent
  exact .expired _ hwait hqueues.pushed hhandles

/-- The inversion lemma of the pings. -/
theorem pingMove_of_step {event : PingEvent}
    (hstep : pingStep protobuf serviceIdentifier object event = some next) :
    PingMove protobuf serviceIdentifier object event next := by
  cases event with
  | session event =>
      simp only [pingStep, Option.ite_none_left_eq_some] at hstep
      obtain ⟨hown, hstep⟩ := hstep
      cases event with
      | connect succeeds =>
          cases hstep
          exact .silent _ (silent_connect object.1.base succeeds) (handles_nil.mpr ⟨rfl, rfl⟩)
      | makeNewSocket =>
          cases hstep
          exact .silent _ ⟨rfl, rfl⟩ (handles_nil.mpr ⟨rfl, rfl⟩)
      | startReading =>
          cases hstep
          exact .silent _ (silent_startReadingSequence object.1.base)
            (handles_nil.mpr ⟨rfl, rfl⟩)
      | during event =>
          simp only [sessionStep] at hstep
          cases event with
          | arrive segment =>
              cases hstep
              exact .silent _ ⟨rfl, rfl⟩ (handles_nil.mpr ⟨rfl, rfl⟩)
          | completeRead operation error => exact pingMove_of_completeRead hstep
          | completeWrite operation error =>
              obtain ⟨-, hcall⟩ := connectionStep_completeWrite.mp hstep
              have hhandles := handles_of_call hcall
              obtain ⟨written, hcomplete, rfl⟩ := (recorder protobuf).call_eq_returned.mp hcall
              exact .silent _ (silent_of_completeWrite hcomplete) hhandles
          | completeWait millisec aborted => exact pingMove_of_completeWait hstep
          | disconnect =>
              cases hstep
              exact .silent _ (silent_disconnect object.1.base) (handles_nil.mpr ⟨rfl, rfl⟩)
          | closeSocket =>
              cases hstep
              exact .silent _ (silent_closeSocket object.1.base) (handles_nil.mpr ⟨rfl, rfl⟩)
          | sendMessage message => exact absurd rfl hown
          | setTimerExpiration millisec => exact absurd rfl hown
  | sendConnectRequest =>
      obtain ⟨sent, hsent, rfl⟩ := Option.map_eq_some_iff.mp hstep
      obtain ⟨hsession, hqueues, hwaits⟩ := send_effect (Outcome.toOption_eq_some.mp hsent)
      exact .requested hqueues.pushed hwaits (handles_nil.mpr ⟨rfl, hsession⟩)
  | waitForConnectResponse =>
      rw [pingStep] at hstep
      split at hstep
      next hconnected =>
        cases hstep
        exact .started hconnected rfl (handles_nil.mpr ⟨rfl, rfl⟩)
      next hnot =>
        cases hstep
        exact .refused
  | handleResponse message =>
      obtain ⟨handled, hhandled, rfl⟩ := Option.map_eq_some_iff.mp hstep
      obtain ⟨hsession, hqueues, hwaits⟩ :=
        handleResponse_effect (Outcome.toOption_eq_some.mp hhandled)
      refine .caught message hqueues.pushed hwaits ⟨rfl, hsession.trans ?_⟩
      exact (deliverAll_singleton protobuf object.1.session (some message)).symm

end Moves

/-! ## The invariant -/

section Invariant

variable {protobuf : Protobuf} {sequenceCode : UInt32}
variable {object next : Recorded Operation WatchdogConnection}

/-- The session is the one of the accepted response, and so are the pings. -/
structure OfSession (protobuf : Protobuf) (sequenceCode : UInt32)
    (object : Recorded Operation WatchdogConnection) : Prop where
  session : object.1.session = enteredBy protobuf (deliveries object.2) sequenceCode
  accepted : PingsAccepted protobuf object

/-- The session is entered exactly when a code has been accepted. -/
theorem OfSession.session_cases (hof : OfSession protobuf sequenceCode object) :
    (acceptedCode protobuf object.2 = none ∧
      object.1.session.connectionState = .notConnected) ∨
    ∃ code, acceptedCode protobuf object.2 = some code ∧ object.1.session = ⟨.connected, code⟩ := by
  rw [hof.session, acceptedCode, enteredBy]
  cases (deliveries object.2).findSome? (Delivery.accepted protobuf) with
  | none => exact .inl ⟨rfl, rfl⟩
  | some code => exact .inr ⟨code, rfl, rfl⟩

/-- What has been accepted stays accepted. -/
theorem acceptedCode_append {log : List (Option (Message Operation))} {code : UInt32}
    (haccepted : acceptedCode protobuf log = some code)
    (more : List (Option (Message Operation))) :
    acceptedCode protobuf (log ++ more) = some code := by
  rw [acceptedCode, deliveries_append, List.findSome?_append]
  rw [acceptedCode] at haccepted
  rw [haccepted]
  rfl

theorem session_of_handles {handled : List (Option (Message Operation))}
    (hsession : object.1.session = enteredBy protobuf (deliveries object.2) sequenceCode)
    (hhandles : Handles protobuf object next handled) :
    next.1.session = enteredBy protobuf (deliveries next.2) sequenceCode := by
  rw [hhandles.2, hsession, hhandles.1, ← deliverAll_eq_enteredBy, ← deliverAll_eq_enteredBy,
    deliveries_append, deliverAll_append]

/-- A step keeps the invariant when it sends only pings of an accepted session
and starts the timer only in one. -/
theorem OfSession.extend {handled : List (Option (Message Operation))}
    {sent : List (Message Operation)} (hof : OfSession protobuf sequenceCode object)
    (hhandles : Handles protobuf object next handled)
    (hpushed : next.1.base.messagesQueue.pushed = object.1.base.messagesQueue.pushed ++ sent)
    (hsent : ∀ message ∈ sent, message.header.operationCode = .pingRequest →
      acceptedCode protobuf object.2 ≠ none ∧ message = pingOf protobuf object.1.session)
    (htimer : waits next.1.base ≠ [] → waits object.1.base ≠ [] ∨
      acceptedCode protobuf object.2 ≠ none) :
    OfSession protobuf sequenceCode next := by
  have hstays : ∀ code, acceptedCode protobuf object.2 = some code →
      acceptedCode protobuf next.2 = some code := by
    intro code haccepted
    rw [hhandles.1]
    exact acceptedCode_append haccepted handled
  refine ⟨session_of_handles hof.session hhandles, ?_, ?_⟩
  · intro message hmem hoperation
    rw [hpushed] at hmem
    rcases List.mem_append.mp hmem with hbefore | hnow
    · obtain ⟨code, haccepted, hmessage⟩ := hof.accepted.requests message hbefore hoperation
      exact ⟨code, hstays code haccepted, hmessage⟩
    · obtain ⟨hsome, hping⟩ := hsent message hnow hoperation
      rcases hof.session_cases with ⟨hnone, -⟩ | ⟨code, haccepted, hsession⟩
      · exact absurd hnone hsome
      · refine ⟨code, hstays code haccepted, ?_⟩
        rw [hping, pingOf, hsession]
  · intro hwaits
    have hsome : acceptedCode protobuf object.2 ≠ none := by
      rcases htimer hwaits with hbefore | hsome
      · exact hof.accepted.timer hbefore
      · exact hsome
    obtain ⟨code, haccepted⟩ := Option.ne_none_iff_exists'.mp hsome
    rw [hstays code haccepted]
    simp

/-- A step that sends nothing. -/
theorem OfSession.extend_unsent {handled : List (Option (Message Operation))}
    (hof : OfSession protobuf sequenceCode object)
    (hhandles : Handles protobuf object next handled)
    (hpushed : next.1.base.messagesQueue.pushed = object.1.base.messagesQueue.pushed)
    (htimer : waits next.1.base ≠ [] → waits object.1.base ≠ [] ∨
      acceptedCode protobuf object.2 ≠ none) :
    OfSession protobuf sequenceCode next := by
  apply hof.extend hhandles (hpushed.trans (List.append_nil _).symm) _ htimer
  intro message hmem
  cases hmem

/-- A timer that was not armed before and is now has been armed by the step. -/
theorem armed_of_waits {before after : List AsyncOperation} {armed : ℕ}
    (hlength : after.length = before.length + armed) (hbefore : before = [])
    (hafter : after ≠ []) : armed ≠ 0 := by
  intro hnone
  apply hafter
  apply List.eq_nil_of_length_eq_zero
  rw [hlength, hbefore, hnone, List.length_nil]

theorem OfSession.accepted_of_entered (hof : OfSession protobuf sequenceCode object)
    (hentered : object.1.session.connectionState ≠ .notConnected) :
    acceptedCode protobuf object.2 ≠ none := by
  rcases hof.session_cases with ⟨-, hnot⟩ | ⟨code, haccepted, -⟩
  · exact absurd hnot hentered
  · rw [haccepted]
    simp

variable [HeaderLayout Operation] {serviceIdentifier : Int32} {event : PingEvent}

/-- Every step that is not premature keeps the invariant. -/
theorem OfSession.step (hof : OfSession protobuf sequenceCode object)
    (hguard : ¬ Premature protobuf object event)
    (hstep : pingStep protobuf serviceIdentifier object event = some next) :
    OfSession protobuf sequenceCode next := by
  cases pingMove_of_step hstep with
  | silent _ hsilent hhandles =>
      apply hof.extend_unsent hhandles hsilent.pushed
      intro hwaits
      exact .inl (hsilent.waits ▸ hwaits)
  | handled event message hpassed hpushed hwaits hhandles =>
      apply hof.extend_unsent hhandles hpushed
      intro hnext
      by_cases hbefore : waits object.1.base = []
      · right
        have harmed := armed_of_waits hwaits hbefore hnext
        cases message with
        | none => exact absurd rfl harmed
        | some message =>
            apply hof.accepted_of_entered
            intro hnot
            have hmem : some message ∈ passedBy object.1.base.readingSide event := by
              rw [hpassed]
              exact List.mem_singleton_self _
            exact hguard ⟨hnot, message, hmem, answersPing_of_armed protobuf _ harmed⟩
      · exact .inl hbefore
  | expired _ hwait hpushed hhandles =>
      apply hof.extend hhandles hpushed
      · intro message hmem hoperation
        exact ⟨hof.accepted.timer hwait, List.mem_singleton.mp hmem⟩
      · intro hwaits
        exact .inl hwait
  | requested hpushed hwaits hhandles =>
      apply hof.extend hhandles hpushed
      · intro message hmem hoperation
        rw [List.mem_singleton.mp hmem] at hoperation
        cases hoperation
      · intro hnext
        exact .inl (hwaits ▸ hnext)
  | started hconnected hpushed hhandles =>
      apply hof.extend_unsent hhandles hpushed
      intro hwaits
      right
      apply hof.accepted_of_entered
      rw [hconnected]
      simp
  | refused => exact hof
  | caught message hpushed hwaits hhandles =>
      have hentered : (∃ code, AnswersPing protobuf message code) →
          acceptedCode protobuf object.2 ≠ none := by
        intro hanswers
        apply hof.accepted_of_entered
        intro hnot
        exact hguard ⟨hnot, hanswers⟩
      apply hof.extend hhandles hpushed
      · intro sent hmem hoperation
        obtain ⟨hraised, hping⟩ := raised_of_mem_resentBy protobuf _ hmem hoperation
        exact ⟨hentered (exists_answersPing_of_raised protobuf _ hraised), hping⟩
      · intro hnext
        by_cases hbefore : waits object.1.base = []
        · have harmed := armed_of_waits hwaits hbefore hnext
          exact .inr (hentered ⟨_, answersPing_of_armed protobuf object.1.session harmed⟩)
        · exact .inl hbefore

omit [HeaderLayout Operation] in
/-- A ping response enters no session. -/
theorem acceptedCode_ping {message : Message Operation} {code : UInt32}
    (hanswers : AnswersPing protobuf message code) (log : List (Option (Message Operation))) :
    acceptedCode protobuf (log ++ [some message]) = acceptedCode protobuf log := by
  have hdelivery : delivery message = some ⟨.ping, message.body⟩ := by
    rw [delivery, hanswers.1]
    rfl
  rw [acceptedCode, deliveries_append, List.findSome?_append]
  have hnone : (deliveries [some message]).findSome? (Delivery.accepted protobuf) = none := by
    simp [deliveries, hdelivery, Delivery.accepted]
  rw [hnone, Option.or_none]
  rfl

omit [HeaderLayout Operation] in
theorem OfSession.not_accepted_of_notConnected (hof : OfSession protobuf sequenceCode object)
    (hnot : object.1.session.connectionState = .notConnected) :
    acceptedCode protobuf object.2 = none := by
  rcases hof.session_cases with ⟨hnone, -⟩ | ⟨code, -, hsession⟩
  · exact hnone
  · rw [hsession] at hnot
    cases hnot

/-- On the path from the socket an early ping response arms the timer. -/
theorem OfSession.not_accepted_of_early_read {event : ConnectionEvent Operation}
    (hof : OfSession protobuf sequenceCode object)
    (hpremature : Premature protobuf object (.session (.during event)))
    (hstep : pingStep protobuf serviceIdentifier object (.session (.during event)) =
      some next) : ¬ PingsAccepted protobuf next := by
  intro haccepted
  obtain ⟨hnot, message, hmem, hanswers⟩ := hpremature
  have hmove := pingMove_of_step hstep
  simp only [pingStep, Option.ite_none_left_eq_some] at hstep
  have hlog : next.2 = object.2 ++ passedBy object.1.base.readingSide event :=
    log_of_step hstep.2
  cases hmove with
  | silent _ hsilent hhandles =>
      rw [List.append_cancel_left (hlog.symm.trans hhandles.1)] at hmem
      cases hmem
  | expired _ hwait hpushed hhandles =>
      rw [List.append_cancel_left (hlog.symm.trans hhandles.1)] at hmem
      cases hmem
  | handled _ other hpassed hpushed hwaits hhandles =>
      rw [hpassed] at hmem
      obtain rfl := List.mem_singleton.mp hmem
      have hone : armedBy protobuf object.1.session message = 1 :=
        armedBy_of_answersPing protobuf _ hanswers
      rw [Option.elim_some, hone] at hwaits
      apply haccepted.timer (List.ne_nil_of_length_eq_add_one hwaits)
      rw [hhandles.1, acceptedCode_ping hanswers, hof.not_accepted_of_notConnected hnot]

/-- On the catching path it arms the timer or sends another ping. -/
theorem OfSession.not_accepted_of_early_catch {message : Message Operation}
    (hof : OfSession protobuf sequenceCode object)
    (hpremature : Premature protobuf object (.handleResponse message))
    (hstep : pingStep protobuf serviceIdentifier object (.handleResponse message) =
      some next) : ¬ PingsAccepted protobuf next := by
  intro haccepted
  obtain ⟨hnot, code, hanswers⟩ := hpremature
  cases pingMove_of_step hstep with
  | caught _ hpushed hwaits hhandles =>
      have hnone : acceptedCode protobuf next.2 = none := by
        rw [hhandles.1, acceptedCode_ping hanswers, hof.not_accepted_of_notConnected hnot]
      rcases ping_response_cases protobuf object.1.session hanswers.1 with
        ⟨-, hone, -⟩ | ⟨-, -, hraised⟩ | ⟨hfailed, -⟩
      · rw [hone] at hwaits
        exact haccepted.timer (List.ne_nil_of_length_eq_add_one hwaits) hnone
      · have hping : pingOf protobuf object.1.session ∈
            next.1.base.messagesQueue.pushed := by
          rw [hpushed, hraised]
          exact List.mem_append_right _ (List.mem_singleton_self _)
        obtain ⟨other, hother, -⟩ := haccepted.requests _ hping rfl
        rw [hnone] at hother
        cases hother
      · exact hfailed code hanswers

/-- A premature step arms the timer or sends a ping without a session. -/
theorem OfSession.not_accepted_of_premature (hof : OfSession protobuf sequenceCode object)
    (hpremature : Premature protobuf object event)
    (hstep : pingStep protobuf serviceIdentifier object event = some next) :
    ¬ PingsAccepted protobuf next := by
  cases event with
  | session event =>
      cases event with
      | during event => exact hof.not_accepted_of_early_read hpremature hstep
      | _ => exact absurd hpremature not_false
  | handleResponse message => exact hof.not_accepted_of_early_catch hpremature hstep
  | _ => exact absurd hpremature not_false

end Invariant

section Runs

variable [HeaderLayout Operation] {protobuf : Protobuf} {serviceIdentifier : Int32}

omit [HeaderLayout Operation] in
theorem ofSession_create (sequenceCode : UInt32) :
    OfSession protobuf sequenceCode (WatchdogConnection.create sequenceCode, []) where
  session := rfl
  accepted := by
    constructor
    · intro message hmem
      cases hmem
    · intro hwaits
      exact absurd rfl hwaits

/-- Whatever value `sequenceCode` starts with: in every state of a run all ping
requests carry the accepted code and no timer is armed without one, if and only
if no step of the run takes a ping response before a session is accepted. -/
theorem pingsAccepted_iff {sequenceCode : UInt32} {events : List PingEvent}
    {finish : Recorded Operation WatchdogConnection}
    (hrun : run (pingStep protobuf serviceIdentifier)
      (WatchdogConnection.create sequenceCode, []) events = some finish) :
    EveryState (pingStep protobuf serviceIdentifier) (PingsAccepted protobuf)
        (WatchdogConnection.create sequenceCode, []) events ↔
      EveryStep (pingStep protobuf serviceIdentifier)
        (fun object event => ¬ Premature protobuf object event)
        (WatchdogConnection.create sequenceCode, []) events := by
  have hkeep : ∀ (object : Recorded Operation WatchdogConnection) event next,
      OfSession protobuf sequenceCode object → ¬ Premature protobuf object event →
      pingStep protobuf serviceIdentifier object event = some next →
      OfSession protobuf sequenceCode next :=
    fun _ _ _ hof hguard hstep => hof.step hguard hstep
  refine everyState_iff_everyStep (fun _ hof => hof.accepted) hkeep ?_
    (ofSession_create sequenceCode) hrun
  intro object event next hof hpremature hstep
  exact hof.not_accepted_of_premature (not_not.mp hpremature) hstep

end Runs

/-- A protobuf library at a connect response with code `Success` and sequence
code 7, and at a ping response with code 5. -/
private def answering : Protobuf where
  parseConnectResponse body :=
    if body = [8, 0, 16, 7] then some ⟨.success, some 7, none⟩ else none
  parsePingResponse body := if body = [8, 5] then some ⟨5⟩ else none
  parseReconnectResponse _ := none
  serializeConnectRequest identifier := [8, UInt8.ofNat identifier.toInt.toNat]
  serializePingRequest code := [8, UInt8.ofNat code.toNat]
  serializeReconnectRequest identifier := [8, UInt8.ofNat identifier.toInt.toNat]
  serializeShutdownRequest identifier := [8, UInt8.ofNat identifier.toInt.toNat]

/-- The start of a service whose connect request is answered, up to its first
ping. -/
private def startUp : List PingEvent :=
  [.session (.connect true), .sendConnectRequest, .session .startReading,
    .session (.during (.arrive [1, 0, 0, 0, 4, 0, 0, 0, 8, 0, 16, 7])),
    .session (.during (.completeRead .readHeader false)),
    .session (.during (.completeRead (.readBody 4) false)), .waitForConnectResponse,
    .session (.during (.completeWait 1000 false))]

theorem pingsAccepted_startUp :
    letI := Operation.layout
    ∃ finish, run (pingStep answering 3) (WatchdogConnection.create 5, []) startUp =
        some finish ∧
      pingOf answering ⟨.connected, 7⟩ ∈ finish.1.base.messagesQueue.pushed ∧
      EveryState (pingStep answering 3) (PingsAccepted answering)
        (WatchdogConnection.create 5, []) startUp := by
  let layout := Operation.layout
  obtain ⟨finish, hrun, hping⟩ : ∃ finish, run (pingStep answering 3)
      (WatchdogConnection.create 5, []) startUp = some finish ∧
      pingOf answering ⟨.connected, 7⟩ ∈ finish.1.base.messagesQueue.pushed :=
    ⟨_, rfl, by decide⟩
  refine ⟨finish, hrun, hping, (pingsAccepted_iff hrun).mpr ?_⟩
  have hnoBody : ∀ object : Recorded Operation WatchdogConnection, ∀ event,
      passedBy object.1.base.readingSide event = [] →
      ¬ Premature answering object (.session (.during event)) := by
    rintro object event hnone ⟨-, message, hmem, -⟩
    rw [hnone] at hmem
    cases hmem
  refine ⟨id, fun first hfirst => ⟨id, fun second hsecond => ⟨id, fun third hthird =>
    ⟨hnoBody _ _ rfl, fun fourth hfourth => ⟨hnoBody _ _ rfl, fun fifth hfifth =>
      ⟨?_, fun sixth hsixth => ⟨id, fun seventh hseventh =>
        ⟨hnoBody _ _ rfl, fun _ _ => trivial⟩⟩⟩⟩⟩⟩⟩⟩
  rintro ⟨-, message, hmem, hoperation, -⟩
  cases hfirst
  cases hsecond
  cases hthird
  cases hfourth
  cases hfifth
  obtain rfl : message = ⟨⟨.connectResponse, 4⟩, [8, 0, 16, 7]⟩ :=
    Option.some.inj (List.mem_singleton.mp hmem)
  cases hoperation

/-- A ping response arrives before the connect response, and its code is the
value that `sequenceCode` happens to have. -/
private def earlyPing : List PingEvent :=
  [.session (.connect true), .sendConnectRequest, .session .startReading,
    .session (.during (.arrive [3, 0, 0, 0, 2, 0, 0, 0, 8, 5])),
    .session (.during (.completeRead .readHeader false)),
    .session (.during (.completeRead (.readBody 2) false)),
    .session (.during (.completeWait 3000 false))]

/-- No response has been accepted, and still the timer has been started and a
ping with the uninitialised code has been sent. -/
theorem early_ping_starts_timer :
    letI := Operation.layout
    ∃ finish, run (pingStep answering 3) (WatchdogConnection.create 5, []) earlyPing =
        some finish ∧
      acceptedCode answering finish.2 = none ∧
      pingOf answering ⟨.notConnected, 5⟩ ∈ finish.1.base.messagesQueue.pushed ∧
      ¬ PingsAccepted answering finish := by
  let layout := Operation.layout
  obtain ⟨finish, hrun, hnone, hping⟩ : ∃ finish, run (pingStep answering 3)
      (WatchdogConnection.create 5, []) earlyPing = some finish ∧
      acceptedCode answering finish.2 = none ∧
      pingOf answering ⟨.notConnected, 5⟩ ∈ finish.1.base.messagesQueue.pushed :=
    ⟨_, rfl, rfl, by decide⟩
  refine ⟨finish, hrun, hnone, hping, ?_⟩
  intro haccepted
  obtain ⟨code, hsome, -⟩ := haccepted.requests _ hping rfl
  rw [hnone] at hsome
  cases hsome

end ProcessManagerService.Watchdog
