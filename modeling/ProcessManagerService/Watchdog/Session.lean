import ProcessManagerService.Watchdog.ResponseHandlers

/-!
# The watchdog session

Whatever responses arrive in whatever order, the session is entered once: by
the first connect or reconnect response with code `Success` and a sequence
code.  After that neither the state nor the code changes any more.
-/

namespace ProcessManagerService.Watchdog

open Communication

namespace Session

def perform (session : Session) : Action → Session
  | .writeSequenceCode code => { session with sequenceCode := code }
  | .setConnectionStateAndNotify connectionState =>
      { session with connectionState := connectionState }
  | .pingTimerSet => session

def performAll (session : Session) (actions : List Action) : Session :=
  actions.foldl perform session

end Session

/-- A response body and the handler it is given to. -/
structure Delivery where
  handler : ResponseHandler
  body : List Byte

namespace Delivery

def reaction (protobuf : Protobuf) (session : Session) (delivery : Delivery) : Reaction :=
  delivery.handler.handleResponse protobuf session delivery.body

/-- What a handler does before its exception stays done. -/
def deliver (protobuf : Protobuf) (session : Session) (delivery : Delivery) : Session :=
  session.performAll (delivery.reaction protobuf session).actions

/-- The sequence code of a response with code `Success`. -/
def successCode (data : ConnectResponseData) : Option UInt32 :=
  if data.responseCode = .success then data.sequenceCode else none

/-- The body parses as a connect or reconnect response with code `Success` and
this sequence code. -/
def accepted (protobuf : Protobuf) (delivery : Delivery) : Option UInt32 :=
  match delivery.handler with
  | .connect => (protobuf.parseConnectResponse delivery.body).bind successCode
  | .reconnect => (protobuf.parseReconnectResponse delivery.body).bind successCode
  | .ping => none

end Delivery

open Delivery

/-! ## What one handler does -/

theorem actions_onInvalidState (resend : ErrorCode) (data : ConnectResponseData) :
    (onInvalidState resend data).actions = [] := by
  rw [onInvalidState]
  split <;> rfl

theorem actions_onFailure {invalidState : ConnectResponseData → Reaction}
    (hinvalid : ∀ data, (invalidState data).actions = []) (data : ConnectResponseData) :
    (onFailure invalidState data).actions = [] := by
  rw [onFailure]
  split
  · exact hinvalid data
  · rfl
  · rfl
  · rfl

/-- The connect handler enters the session, or does nothing. -/
theorem handleConnectResponse_cases (data : ConnectResponseData) :
    (∃ code, successCode data = some code ∧
      WatchdogConnectResponseHandler.handleConnectResponse data = .connects code) ∨
    (successCode data = none ∧
      (WatchdogConnectResponseHandler.handleConnectResponse data).actions = []) := by
  rw [WatchdogConnectResponseHandler.handleConnectResponse, successCode]
  cases hcode : data.sequenceCode with
  | none => exact .inr ⟨by simp, rfl⟩
  | some code =>
      by_cases hsuccess : data.responseCode = .success
      · exact .inl ⟨code, by simp [hsuccess], by simp [hsuccess]⟩
      · refine .inr ⟨by simp [hsuccess], ?_⟩
        simp only [hsuccess, ne_eq, not_false_eq_true, if_true]
        exact actions_onFailure (actions_onInvalidState _) data

/-- The reconnect handler enters the session on the same responses. -/
theorem handleReconnectResponse_cases (data : ReconnectResponseData) :
    (∃ code, successCode data = some code ∧
      WatchdogReconnectResponseHandler.handleReconnectResponse data = .connects code) ∨
    (successCode data = none ∧
      (WatchdogReconnectResponseHandler.handleReconnectResponse data).actions = []) := by
  rw [WatchdogReconnectResponseHandler.handleReconnectResponse, successCode]
  by_cases hsuccess : data.responseCode = .success
  · cases hcode : data.sequenceCode with
    | none => exact .inr ⟨by simp, by simp [hsuccess, Reaction.nothing]⟩
    | some code => exact .inl ⟨code, by simp [hsuccess], by simp [hsuccess]⟩
  · refine .inr ⟨by simp [hsuccess], ?_⟩
    simp only [hsuccess, ne_eq, not_false_eq_true, if_true]
    exact actions_onFailure (actions_onInvalidState _) data

/-- `onParsed` in terms of what its handler does. -/
theorem onParsed_cases (parsed : Option ConnectResponseData) (session : Session)
    {handle : ConnectResponseData → Reaction}
    (hcases : ∀ data, (∃ code, successCode data = some code ∧ handle data = .connects code) ∨
      (successCode data = none ∧ (handle data).actions = [])) :
    (∃ code, session.connectionState = .notConnected ∧ parsed.bind successCode = some code ∧
      onParsed parsed session.connectionState handle = .connects code) ∨
    ((session.connectionState = .notConnected → parsed.bind successCode = none) ∧
      (onParsed parsed session.connectionState handle).actions = []) := by
  cases parsed with
  | none => exact .inr ⟨fun _ => rfl, rfl⟩
  | some data =>
      cases hstate : session.connectionState with
      | notConnected =>
          rcases hcases data with ⟨code, hcode, hhandle⟩ | ⟨hnone, hactions⟩
          · exact .inl ⟨code, rfl, hcode, hhandle⟩
          · exact .inr ⟨fun _ => hnone, hactions⟩
      | connected => exact .inr ⟨fun hnot => (by cases hnot), rfl⟩
      | shutdown => exact .inr ⟨fun hnot => (by cases hnot), rfl⟩

variable (protobuf : Protobuf)

/-- A delivery enters the session, which is only possible from `NotConnected`,
or at most sets the ping timer. -/
theorem reaction_cases (session : Session) (delivery : Delivery) :
    (∃ code, session.connectionState = .notConnected ∧
      delivery.accepted protobuf = some code ∧
      delivery.reaction protobuf session = .connects code) ∨
    ((session.connectionState = .notConnected → delivery.accepted protobuf = none) ∧
      ∀ action ∈ (delivery.reaction protobuf session).actions, action = .pingTimerSet) := by
  obtain ⟨handler, body⟩ := delivery
  cases handler with
  | connect =>
      rcases onParsed_cases (protobuf.parseConnectResponse body) session
        handleConnectResponse_cases with hentered | ⟨hnone, hactions⟩
      · exact .inl hentered
      · refine .inr ⟨hnone, ?_⟩
        intro action hmem
        rw [reaction, ResponseHandler.handleResponse,
          WatchdogConnectResponseHandler.handleResponse, hactions] at hmem
        cases hmem
  | reconnect =>
      rcases onParsed_cases (protobuf.parseReconnectResponse body) session
        handleReconnectResponse_cases with hentered | ⟨hnone, hactions⟩
      · exact .inl hentered
      · refine .inr ⟨hnone, ?_⟩
        intro action hmem
        rw [reaction, ResponseHandler.handleResponse,
          WatchdogReconnectResponseHandler.handleResponse, hactions] at hmem
        cases hmem
  | ping =>
      refine .inr ⟨fun _ => rfl, ?_⟩
      intro action hmem
      simp only [reaction, ResponseHandler.handleResponse,
        WatchdogPingResponseHandler.handleResponse] at hmem
      split at hmem
      · cases hmem
      · split at hmem
        · exact List.mem_singleton.mp hmem
        · cases hmem

theorem performAll_of_timer_only {session : Session} {actions : List Action}
    (htimer : ∀ action ∈ actions, action = .pingTimerSet) :
    session.performAll actions = session := by
  induction actions with
  | nil => rfl
  | cons action actions ih =>
      rw [Session.performAll, List.foldl_cons, htimer action List.mem_cons_self]
      exact ih fun other hmem => htimer other (List.mem_cons_of_mem action hmem)

theorem deliver_of_accepted {session : Session} {delivery : Delivery} {code : UInt32}
    (hstate : session.connectionState = .notConnected)
    (haccepted : delivery.accepted protobuf = some code) :
    delivery.reaction protobuf session = .connects code ∧
      delivery.deliver protobuf session = ⟨.connected, code⟩ := by
  rcases reaction_cases protobuf session delivery with
    ⟨other, -, hother, hreaction⟩ | ⟨hnone, -⟩
  · obtain rfl : code = other := Option.some.inj (haccepted.symm.trans hother)
    exact ⟨hreaction, by rw [deliver, hreaction]; rfl⟩
  · rw [hnone hstate] at haccepted
    cases haccepted

theorem deliver_of_not_accepted {session : Session} {delivery : Delivery}
    (hnot : session.connectionState = .notConnected → delivery.accepted protobuf = none) :
    delivery.deliver protobuf session = session := by
  rcases reaction_cases protobuf session delivery with
    ⟨code, hstate, haccepted, -⟩ | ⟨-, htimer⟩
  · rw [hnot hstate] at haccepted
    cases haccepted
  · exact performAll_of_timer_only htimer

/-- Nothing that ends with an exception has touched the session. -/
theorem deliver_of_raised {session : Session} {delivery : Delivery}
    (hraised : (delivery.reaction protobuf session).raised ≠ none) :
    delivery.deliver protobuf session = session := by
  rcases reaction_cases protobuf session delivery with
    ⟨code, -, -, hreaction⟩ | ⟨-, htimer⟩
  · rw [hreaction] at hraised
    exact absurd rfl hraised
  · exact performAll_of_timer_only htimer

theorem deliver_ne_iff {session : Session} {delivery : Delivery} :
    delivery.deliver protobuf session ≠ session ↔
      session.connectionState = .notConnected ∧
        ∃ code, delivery.accepted protobuf = some code := by
  constructor
  · intro hchanged
    by_contra hnot
    apply hchanged
    apply deliver_of_not_accepted protobuf
    intro hstate
    by_contra hsome
    exact hnot ⟨hstate, Option.ne_none_iff_exists'.mp hsome⟩
  · rintro ⟨hstate, code, haccepted⟩ hsame
    have hentered := (deliver_of_accepted protobuf hstate haccepted).2
    rw [hsame] at hentered
    rw [hentered] at hstate
    cases hstate

/-! ## Runs of deliveries -/

/-- The session after a run of deliveries. -/
def deliverAll (session : Session) (deliveries : List Delivery) : Session :=
  deliveries.foldl (fun session delivery => delivery.deliver protobuf session) session

/-- The deliveries of a run that change the session. -/
def changing (session : Session) : List Delivery → List Delivery
  | [] => []
  | delivery :: deliveries =>
      (if delivery.deliver protobuf session ≠ session then [delivery] else []) ++
        changing (delivery.deliver protobuf session) deliveries

/-- Outside `NotConnected` no delivery changes the session any more. -/
theorem changing_eq_nil {session : Session} {deliveries : List Delivery}
    (hstate : session.connectionState ≠ .notConnected) :
    changing protobuf session deliveries = [] := by
  induction deliveries with
  | nil => rfl
  | cons delivery deliveries ih =>
      have hsame : delivery.deliver protobuf session = session :=
        deliver_of_not_accepted protobuf fun hnot => absurd hnot hstate
      rw [changing, hsame, ih]
      simp

theorem length_changing_le (session : Session) (deliveries : List Delivery) :
    (changing protobuf session deliveries).length ≤ 1 := by
  induction deliveries generalizing session with
  | nil => exact Nat.zero_le 1
  | cons delivery deliveries ih =>
      by_cases hchanged : delivery.deliver protobuf session ≠ session
      · obtain ⟨hstate, code, haccepted⟩ := (deliver_ne_iff protobuf).mp hchanged
        have hentered : (delivery.deliver protobuf session).connectionState ≠
            .notConnected := by
          rw [(deliver_of_accepted protobuf hstate haccepted).2]
          simp
        rw [changing, if_pos hchanged, changing_eq_nil protobuf hentered]
        exact Nat.le_refl 1
      · rw [changing, if_neg hchanged, List.nil_append]
        exact ih _

/-- While a session is entered, it is never seen as `Connected` with another
code than the accepted one. -/
theorem sequenceCode_of_prefix {session : Session} {code : UInt32} {done : List Action}
    (hstate : session.connectionState = .notConnected)
    (hdone : done <+: (Reaction.connects code).actions)
    (hconnected : (session.performAll done).connectionState = .connected) :
    (session.performAll done).sequenceCode = code := by
  rw [Reaction.connects, List.prefix_cons_iff] at hdone
  rcases hdone with rfl | ⟨rest, rfl, hrest⟩
  · rw [Session.performAll, List.foldl_nil, hstate] at hconnected
    cases hconnected
  · rcases List.prefix_cons_iff.mp hrest with rfl | ⟨last, rfl, hlast⟩
    · rfl
    · rw [List.prefix_nil.mp hlast]
      rfl

/-- At every delivery of a run, the session changes exactly when it is in
`NotConnected` and the body is a successful connect or reconnect response with a
sequence code; then it takes over the code first and becomes `Connected`
afterwards.  A delivery that raises leaves it alone, and at most one delivery of
a run changes it. -/
theorem session_of_deliveries (start : Session) (before : List Delivery)
    (delivery : Delivery) (later : List Delivery) :
    let session := deliverAll protobuf start before
    (delivery.deliver protobuf session ≠ session ↔
      session.connectionState = .notConnected ∧
        ∃ code, delivery.accepted protobuf = some code) ∧
    (∀ code, session.connectionState = .notConnected →
      delivery.accepted protobuf = some code →
      delivery.deliver protobuf session = ⟨.connected, code⟩ ∧
      ∀ done, done <+: (delivery.reaction protobuf session).actions →
        (session.performAll done).connectionState = .connected →
        (session.performAll done).sequenceCode = code) ∧
    ((delivery.reaction protobuf session).raised ≠ none →
      delivery.deliver protobuf session = session) ∧
    (changing protobuf start (before ++ delivery :: later)).length ≤ 1 := by
  intro session
  refine ⟨deliver_ne_iff protobuf, ?_, deliver_of_raised protobuf,
    length_changing_le protobuf start _⟩
  intro code hstate haccepted
  obtain ⟨hreaction, hentered⟩ := deliver_of_accepted protobuf hstate haccepted
  rw [hreaction]
  exact ⟨hentered, fun done hdone => sequenceCode_of_prefix hstate hdone⟩

end ProcessManagerService.Watchdog
