import ProcessManagerService.Connection.TimerExpiry
import ProcessManagerService.Watchdog.PingEffects

/-!
# Pings of the timer

A watchdog connection starts its timer for every ping response that carries the
session's code.  Where that happens while a wait is pending, the cancelled wait
sends a ping like an expired one.  Where it never happens, each ping of the
timer has an expiry of its own.
-/

namespace ProcessManagerService.Watchdog

open Communication Connection PartialRuns ReadLoop StreamDecoding
open TimerExpiry TimerFrame WritingFrame
open WatchdogConnection (delivery getWatchdogResponseHandler)

/-- A message that parses as a ping response with the code of the session. -/
def StartsTimer (protobuf : Protobuf) (object : WatchdogConnection)
    (receivedMessage : Option (Message Operation)) : Prop :=
  ∃ message, receivedMessage = some message ∧
    AnswersPing protobuf message object.session.sequenceCode

section Overrides

variable {protobuf : Protobuf} {object next : WatchdogConnection}

theorem waits_performAll_of_notMem {actions : List Action} (hnone : .pingTimerSet ∉ actions)
    (object : WatchdogConnection) : waits (object.performAll actions).base = waits object.base := by
  induction actions generalizing object with
  | nil => rfl
  | cons action actions ih =>
      obtain ⟨hfirst, hrest⟩ := List.ne_and_not_mem_of_not_mem_cons hnone
      rw [WatchdogConnection.performAll, List.foldl_cons]
      refine (ih hrest (object.perform action)).trans ?_
      cases action with
      | pingTimerSet => exact absurd rfl hfirst
      | _ => rfl

/-- Any other message leaves the timer alone. -/
theorem waits_of_not_startsTimer {receivedMessage : Option (Message Operation)}
    (hother : ¬ StartsTimer protobuf object receivedMessage)
    (hreturned : object.handleReceivedMessage protobuf receivedMessage = .returned next) :
    waits next.base = waits object.base := by
  cases receivedMessage with
  | none =>
      cases hreturned
      rfl
  | some message =>
      have hnone : armedBy protobuf object.session message = 0 := by
        by_contra harmed
        exact hother ⟨message, rfl, answersPing_of_armed protobuf object.session harmed⟩
      rw [WatchdogConnection.handleReceivedMessage] at hreturned
      rw [armedBy, delivery] at hnone
      split at hreturned
      next handler hhandler =>
        obtain ⟨-, rfl⟩ := WatchdogConnection.react_eq_returned.mp hreturned
        rw [hhandler] at hnone
        exact waits_performAll_of_notMem (List.count_eq_zero.mp hnone) object
      next hhandler =>
        cases hreturned
        rfl

theorem handleReceivedMessage_of_startsTimer {receivedMessage : Option (Message Operation)}
    (hstarts : StartsTimer protobuf object receivedMessage) :
    object.handleReceivedMessage protobuf receivedMessage =
      .returned (object.perform .pingTimerSet) := by
  obtain ⟨message, rfl, hoperation, data, hparsed, hcode⟩ := hstarts
  have hreaction : ResponseHandler.ping.handleResponse protobuf object.session message.body =
      ⟨[.pingTimerSet], none⟩ := by
    simp [ResponseHandler.handleResponse, WatchdogPingResponseHandler.handleResponse, hparsed,
      hcode]
  rw [WatchdogConnection.handleReceivedMessage]
  simp only [hoperation, getWatchdogResponseHandler, hreaction]
  rfl

variable [HeaderLayout Operation]

/-- The expiry of the timer queues a ping and leaves the waits alone. -/
theorem onTimerExpiration_effect (protobuf : Protobuf) (object : WatchdogConnection) :
    waits (object.onTimerExpiration protobuf).state.base = waits object.base ∧
      (object.onTimerExpiration protobuf).state.base.messagesQueue.pushed.length ≤
        object.base.messagesQueue.pushed.length + 1 := by
  have hsent : object.onTimerExpiration protobuf = .ofOption object
      ((object.base.sendMessage (pingOf protobuf object.session)).map fun base =>
        { object with base }) := rfl
  rw [hsent]
  cases hsend : object.base.sendMessage (pingOf protobuf object.session) with
  | none => exact ⟨rfl, Nat.le_succ _⟩
  | some base =>
      refine ⟨waits_of_sendMessage hsend, ?_⟩
      have hpushed := (queues_of_sendMessage hsend).pushed
      change base.messagesQueue.pushed.length ≤ _
      rw [hpushed, List.length_append, List.length_singleton]

theorem timerUse (protobuf : Protobuf) :
    TimerUse (WatchdogConnection.derived protobuf) (StartsTimer protobuf) where
  ofObject _ _ _ := Iff.rfl
  expires object := (onTimerExpiration_effect protobuf object).1
  queues object := (onTimerExpiration_effect protobuf object).2
  spares object message next hother hreturned := waits_of_not_startsTimer hother hreturned
  started object message next hstarts hnone hreturned := by
    have hhandled := handleReceivedMessage_of_startsTimer hstarts
    obtain rfl : object.perform .pingTimerSet = next :=
      Outcome.returned.inj (hhandled.symm.trans hreturned)
    refine ⟨3000, ?_⟩
    change waits (object.base.setTimerExpiration 3000) = _
    replace hnone : waits object.base = [] := hnone
    rw [waits_setTimerExpiration, hnone]
    rfl

end Overrides

/-- When nobody starts the timer while one of its waits is pending, then on
every connection `onTimerExpiration` runs only for waits whose deadline has
passed, and a watchdog connection sends at most one ping of the timer for each
of them. -/
theorem onlyExpired_of_idle_starts {T : Type*} [Inhabited T] [HeaderLayout T]
    [HeaderLayout Operation] {protobuf : Protobuf} {sequenceCode : UInt32}
    {calls : List (TimedEvent T)} {events : List (TimedEvent Operation)}
    (hcalls : EveryStep (timedStep (.inert T))
      (fun system event => ¬ Rearms (.inert T) (fun _ _ => False) system event)
      (Timed.start TcpConnection.create) calls)
    (hevents : EveryStep (timedStep (WatchdogConnection.derived protobuf))
      (fun system event =>
        ¬ Rearms (WatchdogConnection.derived protobuf) (StartsTimer protobuf) system event)
      (Timed.start (WatchdogConnection.create sequenceCode)) events) :
    EveryState (timedStep (.inert T)) OnlyExpired (Timed.start TcpConnection.create) calls ∧
      EveryState (timedStep (WatchdogConnection.derived protobuf)) OnlyExpired
        (Timed.start (WatchdogConnection.create sequenceCode)) events :=
  ⟨onlyExpired_of_everyStep (timerUse_inert T) rfl hcalls,
    onlyExpired_of_everyStep (timerUse protobuf) rfl hevents⟩

/-- A watchdog that answers with code 7. -/
private def answeringPings : Protobuf where
  parseConnectResponse _ := some ⟨.success, some 7, none⟩
  parsePingResponse _ := some ⟨7⟩
  parseReconnectResponse _ := none
  serializeConnectRequest _ := []
  serializePingRequest code := [8, UInt8.ofNat code.toNat]
  serializeReconnectRequest _ := []
  serializeShutdownRequest _ := []

/-- The timer is started again after its wait has expired. -/
private def startedTwice : List (TimedEvent Operation) :=
  [.during (.setTimerExpiration 1000), .expire 1000, .complete 1000 false,
    .during (.setTimerExpiration 3000)]

theorem onlyExpired_started_twice :
    letI := Operation.layout
    ∃ system, run (timedStep (WatchdogConnection.derived answeringPings))
        (Timed.start (WatchdogConnection.create 7)) startedTwice = some system ∧
      system.runs = [true] ∧ system.sent.length = 1 ∧
      EveryState (timedStep (WatchdogConnection.derived answeringPings)) OnlyExpired
        (Timed.start (WatchdogConnection.create 7)) startedTwice := by
  let layout := Operation.layout
  have hcalls : EveryStep (timedStep (.inert Operation))
      (fun system event => ¬ Rearms (.inert Operation) (fun _ _ => False) system event)
      (Timed.start TcpConnection.create) [.during (.setTimerExpiration 1000), .expire 1000] :=
    .cons (not_waiting_of_waits rfl) rfl (.cons id rfl trivial)
  refine ⟨_, rfl, rfl, rfl, (onlyExpired_of_idle_starts hcalls ?_).2⟩
  refine .cons (not_waiting_of_waits rfl) rfl (.cons id rfl (.cons id rfl ?_))
  exact .cons (not_waiting_of_waits rfl) rfl trivial

/-- The connect response arrives, the first ping is sent, and its response is
handled twice. -/
private def duplicateResponse : List (TimedEvent Operation) :=
  [.connect true, .startReading,
    .during (.arrive [1, 0, 0, 0, 4, 0, 0, 0, 8, 0, 16, 7]),
    .during (.completeRead .readHeader false), .during (.completeRead (.readBody 4) false),
    .during (.setTimerExpiration 1000), .expire 1000, .complete 1000 false,
    .during (.arrive [3, 0, 0, 0, 2, 0, 0, 0, 8, 7, 3, 0, 0, 0, 2, 0, 0, 0, 8, 7]),
    .during (.completeRead .readHeader false), .during (.completeRead (.readBody 2) false),
    .during (.completeRead .readHeader false), .during (.completeRead (.readBody 2) false),
    .complete 3000 true]

/-- The duplicate starts the timer again, and the wait it cancels sends a second
ping: one deadline has passed. -/
theorem duplicate_response_fires_timer :
    letI := Operation.layout
    ∃ system, run (timedStep (WatchdogConnection.derived answeringPings))
        (Timed.start (WatchdogConnection.create 0)) duplicateResponse = some system ∧
      system.runs = [true, false] ∧ system.expirations = 1 ∧
      system.sent = [pingOf answeringPings ⟨.connected, 7⟩,
        pingOf answeringPings ⟨.connected, 7⟩] ∧
      ¬ OnlyExpired system := by
  let layout := Operation.layout
  refine ⟨_, rfl, rfl, rfl, rfl, ?_⟩
  intro honly
  have hgenuine := honly.runs false (List.mem_cons_of_mem _ List.mem_cons_self)
  cases hgenuine

end ProcessManagerService.Watchdog
