import ProcessManagerService.Watchdog.ErrorContainment

/-!
# The connect and the reconnect handler side by side

The two handlers are copies that test the response code and the presence of the
sequence code in opposite orders.  Given the same field values they leave the
same session, and they raise corresponding exceptions except on one kind of
response: a failure that asks for the request again and has no sequence code.
-/

namespace ProcessManagerService.Watchdog

open Communication

/-- The exception of the reconnect handler that corresponds to one of the connect
handler. -/
def ErrorCode.forReconnect : ErrorCode → ErrorCode
  | resendConnectRequest => resendReconnectRequest
  | errorCode => errorCode

/-- Both handlers end with the same state and sequence code, and both return or
both throw. -/
structure HandlersAgree (protobuf : Protobuf) (session : Session)
    (connectBody reconnectBody : List Byte) : Prop where
  deliver_eq : Delivery.deliver protobuf session ⟨.connect, connectBody⟩ =
    Delivery.deliver protobuf session ⟨.reconnect, reconnectBody⟩
  raised_eq : (Delivery.reaction protobuf session ⟨.connect, connectBody⟩).raised.map
      ErrorCode.forReconnect =
    (Delivery.reaction protobuf session ⟨.reconnect, reconnectBody⟩).raised

/-- In `NotConnected`, the response asks for the request again but has no
sequence code. -/
def AsksWithoutCode (session : Session) (parsed : Option ConnectResponseData) : Prop :=
  session.connectionState = .notConnected ∧
    ∃ data, parsed = some data ∧ data.sequenceCode = none ∧ AsksAgain data

/-- The session depends only on what is accepted. -/
theorem deliver_eq_of_accepted_eq (protobuf : Protobuf) (session : Session)
    {first second : Delivery}
    (hsame : first.accepted protobuf = second.accepted protobuf) :
    first.deliver protobuf session = second.deliver protobuf session := by
  by_cases hstate : session.connectionState = .notConnected
  · cases haccepted : first.accepted protobuf with
    | none =>
        rw [deliver_of_not_accepted protobuf fun _ => haccepted,
          deliver_of_not_accepted protobuf fun _ => hsame.symm.trans haccepted]
    | some code =>
        rw [(deliver_of_accepted protobuf hstate haccepted).2,
          (deliver_of_accepted protobuf hstate (hsame.symm.trans haccepted)).2]
  · rw [deliver_of_not_accepted protobuf fun hnot => absurd hnot hstate,
      deliver_of_not_accepted protobuf fun hnot => absurd hnot hstate]

/-- The exceptions correspond unless only the reconnect handler asks again. -/
theorem raised_agrees_iff (parsed : Option ConnectResponseData) (session : Session) :
    (onParsed parsed session.connectionState
        WatchdogConnectResponseHandler.handleConnectResponse).raised.map
          ErrorCode.forReconnect =
      (onParsed parsed session.connectionState
        WatchdogReconnectResponseHandler.handleReconnectResponse).raised ↔
      ¬ AsksWithoutCode session parsed := by
  cases parsed with
  | none => simp [onParsed, Reaction.throws, ErrorCode.forReconnect, AsksWithoutCode]
  | some data =>
      cases hstate : session.connectionState with
      | notConnected =>
          simp only [onParsed, raised_handleConnectResponse, raised_handleReconnectResponse,
            AsksWithoutCode, hstate, true_and, Option.some.injEq, exists_eq_left']
          by_cases hasks : AsksAgain data
          · by_cases hcode : data.sequenceCode = none
            · simp [hasks, hcode]
            · simp [hasks, hcode, ErrorCode.forReconnect]
          · simp [hasks]
      | connected => simp [onParsed, Reaction.nothing, AsksWithoutCode, hstate]
      | shutdown => simp [onParsed, Reaction.nothing, AsksWithoutCode, hstate]

/-- Responses with the same field values are handled alike, except where a
failure without a sequence code asks for the request again: only the reconnect
handler reads on there. -/
theorem handlersAgree_iff {protobuf : Protobuf} {session : Session}
    {connectBody reconnectBody : List Byte}
    (hfields : protobuf.parseConnectResponse connectBody =
      protobuf.parseReconnectResponse reconnectBody) :
    HandlersAgree protobuf session connectBody reconnectBody ↔
      ¬ AsksWithoutCode session (protobuf.parseConnectResponse connectBody) := by
  have hsession : Delivery.deliver protobuf session ⟨.connect, connectBody⟩ =
      Delivery.deliver protobuf session ⟨.reconnect, reconnectBody⟩ := by
    apply deliver_eq_of_accepted_eq
    exact congrArg (fun parsed => Option.bind parsed Delivery.successCode) hfields
  have hraised := raised_agrees_iff (protobuf.parseConnectResponse connectBody) session
  constructor
  · intro hagree
    apply hraised.mp
    calc (onParsed (protobuf.parseConnectResponse connectBody) session.connectionState
          WatchdogConnectResponseHandler.handleConnectResponse).raised.map ErrorCode.forReconnect
        = (Delivery.reaction protobuf session ⟨.reconnect, reconnectBody⟩).raised :=
          hagree.raised_eq
      _ = (onParsed (protobuf.parseConnectResponse connectBody) session.connectionState
            WatchdogReconnectResponseHandler.handleReconnectResponse).raised := by
          rw [hfields]
          rfl
  · intro hcode
    refine ⟨hsession, (hraised.mpr hcode).trans ?_⟩
    rw [hfields]
    rfl

/-- A protobuf library at one body: `InvalidConnectionState`, with a reported
state and with or without a sequence code. -/
private def failing (sequenceCode : Option UInt32) : Protobuf where
  parseConnectResponse _ := some ⟨.invalidConnectionState, sequenceCode, some .registered⟩
  parsePingResponse _ := none
  parseReconnectResponse _ := some ⟨.invalidConnectionState, sequenceCode, some .registered⟩
  serializeConnectRequest _ := []
  serializePingRequest _ := []
  serializeReconnectRequest _ := []
  serializeShutdownRequest _ := []

/-- With a sequence code both handlers ask again. -/
theorem handlersAgree_with_code :
    HandlersAgree (failing (some 5)) ⟨.notConnected, 0⟩ [8, 1] [8, 1] := by
  apply (handlersAgree_iff rfl).mpr
  intro hasks
  obtain ⟨-, data, hdata, hnone, -⟩ := hasks
  cases hdata
  cases hnone

/-- Without one the connect handler returns and the reconnect handler throws. -/
theorem handlers_part_without_code :
    (Delivery.reaction (failing none) ⟨.notConnected, 0⟩ ⟨.connect, [8, 1]⟩).raised = none ∧
      (Delivery.reaction (failing none) ⟨.notConnected, 0⟩ ⟨.reconnect, [8, 1]⟩).raised =
        some .resendReconnectRequest ∧
      ¬ HandlersAgree (failing none) ⟨.notConnected, 0⟩ [8, 1] [8, 1] := by
  refine ⟨rfl, rfl, ?_⟩
  intro hagree
  have hraised := hagree.raised_eq
  cases hraised

end ProcessManagerService.Watchdog
