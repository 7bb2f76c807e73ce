import ProcessManagerService.Library.PartialRuns
import ProcessManagerService.Worker.ContextWorker

/-!
# The receive loop

The worker goes on listening because its receive handler starts the next
receive.  The branch for an error does not, so a receive that completes with an
error is the last one.
-/

namespace ProcessManagerService.Worker

open Communication ContextWorker PartialRuns

/-- How an outstanding receive completes. -/
inductive Completion where
  | datagram (bytes : List Byte) (endpoint : Endpoint)
  | error
  deriving DecidableEq

/-- So many receives are outstanding. -/
def Listens (receives : ℕ) (worker : ContextWorker) : Prop :=
  worker.receives = receives

/-- Nothing that belongs to the receive has changed in between. -/
structure KeepsReceiving (before after : ContextWorker) : Prop where
  receives : after.receives = before.receives
  messageBuffer : after.messageBuffer = before.messageBuffer
  remoteEndpoint : after.remoteEndpoint = before.remoteEndpoint

theorem KeepsReceiving.refl (worker : ContextWorker) : KeepsReceiving worker worker :=
  ⟨rfl, rfl, rfl⟩

section Loop

variable {TransactionCode : Type*} (surroundings : Surroundings TransactionCode)

/-! ## What follows once the handler listens again -/

theorem KeepsReceiving.sendResponse {before after : ContextWorker}
    (hkeeps : KeepsReceiving before after) (sender : Sender)
    (receivedMessage : ModuleMessage TransactionCode) (response : Any) :
    KeepsReceiving before
      (sendResponse surroundings sender receivedMessage response after).state := by
  rw [ContextWorker.sendResponse]
  cases surroundings.copyFrom response with
  | none => exact hkeeps
  | some filled => exact ⟨hkeeps.receives, hkeeps.messageBuffer, hkeeps.remoteEndpoint⟩

variable [OfNat TransactionCode 19]

theorem KeepsReceiving.sendServiceRequest {before after : ContextWorker}
    (hkeeps : KeepsReceiving before after) (response : Int32 × Any) :
    KeepsReceiving before (sendServiceRequest surroundings response after).state := by
  rw [ContextWorker.sendServiceRequest]
  split
  · exact hkeeps
  · exact hkeeps
  · split
    · exact hkeeps
    · exact ⟨hkeeps.receives, hkeeps.messageBuffer, hkeeps.remoteEndpoint⟩

theorem KeepsReceiving.handleSubscriptions {before after : ContextWorker}
    (hkeeps : KeepsReceiving before after) (anyMessage : Any) :
    KeepsReceiving before (handleSubscriptions surroundings anyMessage after).state := by
  rw [ContextWorker.handleSubscriptions]
  cases after.subscriptionEventsCache.triggerMessageHandlers anyMessage with
  | none => exact hkeeps
  | some responses =>
      apply Outcome.state_forEach hkeeps
      intro response _ state hstate
      exact hstate.sendServiceRequest surroundings response

theorem KeepsReceiving.handleRequest {before after : ContextWorker}
    (hkeeps : KeepsReceiving before after) (sender : Sender)
    (receivedMessage : ModuleMessage TransactionCode) (request : Request) :
    KeepsReceiving before
      (handleRequest surroundings sender receivedMessage request after).state := by
  rw [ContextWorker.handleRequest, MessageEventsCache.triggerMessageHandlers_eq]
  refine Outcome.state_andThen ?_ ?_
  · apply Outcome.state_forEach hkeeps
    intro response _ state hstate
    exact hstate.sendResponse surroundings sender receivedMessage response
  · intro state hstate
    exact hstate.handleSubscriptions surroundings request.payload

/-- Nothing that follows starts, ends or disturbs a receive. -/
theorem keepsReceiving_processMessage (receivedMessageBuffer : List Byte)
    (senderEndpoint : Endpoint) (worker : ContextWorker) :
    KeepsReceiving worker
      (processMessage surroundings receivedMessageBuffer senderEndpoint worker).state := by
  have hsame := KeepsReceiving.refl worker
  rw [processMessage]
  cases surroundings.codec.parse receivedMessageBuffer with
  | none => exact hsame
  | some receivedMessage =>
      dsimp only
      split
      · split
        · exact hsame.handleRequest surroundings _ receivedMessage _
        · exact ⟨rfl, rfl, rfl⟩
        · exact hsame
      · exact hsame

/-! ## Completions -/

/-- The receive handler of a completion. -/
def complete (worker : ContextWorker) : Completion → Outcome WorkerError ContextWorker
  | .datagram bytes endpoint => receive surroundings bytes endpoint worker
  | .error => handleReceive surroundings true 0 { worker with receives := worker.receives - 1 }

/-- A completion needs an outstanding receive, and the run goes on where its
handler has returned. -/
def receiveStep (worker : ContextWorker) (completion : Completion) : Option ContextWorker :=
  if worker.receives = 0 then none else (complete surroundings worker completion).toOption

theorem complete_of_receiveStep {worker next : ContextWorker} {completion : Completion}
    (hstep : receiveStep surroundings worker completion = some next) :
    complete surroundings worker completion = .returned next := by
  rw [receiveStep] at hstep
  split at hstep
  · cases hstep
  · exact Outcome.toOption_eq_some.mp hstep

/-- The handler of a datagram listens again before it processes the message. -/
theorem Listens.step_datagram {worker next : ContextWorker} (hlistens : Listens 1 worker)
    {bytes : List Byte} {endpoint : Endpoint}
    (hstep : receiveStep surroundings worker (.datagram bytes endpoint) = some next) :
    Listens 1 next := by
  have hcomplete := complete_of_receiveStep surroundings hstep
  have hready : Listens 1 (worker.finishReceive bytes endpoint).startRead := by
    change worker.receives - 1 + 1 = 1
    rw [hlistens]
  have hkeeps := keepsReceiving_processMessage surroundings
    ((worker.finishReceive bytes endpoint).messageBuffer.take
      (min bytes.length worker.messageBuffer.length))
    (worker.finishReceive bytes endpoint).remoteEndpoint
    (worker.finishReceive bytes endpoint).startRead
  rw [complete, receive, handleReceive, if_neg Bool.false_ne_true] at hcomplete
  rw [hcomplete] at hkeeps
  exact hkeeps.receives.trans hready

theorem Listens.step_error {worker next : ContextWorker} (hlistens : Listens 1 worker)
    (hstep : receiveStep surroundings worker .error = some next) : Listens 0 next := by
  have hcomplete := complete_of_receiveStep surroundings hstep
  rw [complete, handleReceive, if_pos rfl] at hcomplete
  cases hcomplete
  change worker.receives - 1 = 0
  rw [hlistens]

theorem everyStep_iff_not_mem {start finish : ContextWorker} {completions : List Completion}
    (hrun : run (receiveStep surroundings) start completions = some finish) :
    EveryStep (receiveStep surroundings) (fun _ completion => completion ≠ .error) start
      completions ↔ .error ∉ completions := by
  constructor
  · intro hevery hmem
    induction completions generalizing start with
    | nil => cases hmem
    | cons completion completions ih =>
        obtain ⟨next, hstep, hrest⟩ := run_cons_eq_some.mp hrun
        rcases List.mem_cons.mp hmem with herror | hlater
        · exact hevery.1 herror.symm
        · exact ih hrest (hevery.2 next hstep) hlater
  · intro hnone
    apply EveryStep.of_forall_mem
    intro _ completion hmem herror
    rw [herror] at hmem
    exact hnone hmem

/-- After `startRead`, one receive is outstanding whenever a handler has
returned, exactly if no receive completes with an error. -/
theorem listens_iff {worker finish : ContextWorker} (hidle : worker.receives = 0)
    {completions : List Completion}
    (hrun : run (receiveStep surroundings) worker.startRead completions = some finish) :
    EveryState (receiveStep surroundings) (Listens 1) worker.startRead completions ↔
      .error ∉ completions := by
  have hstart : Listens 1 worker.startRead := by
    change worker.receives + 1 = 1
    rw [hidle]
  rw [← everyStep_iff_not_mem surroundings hrun]
  refine everyState_iff_everyStep (fun _ hlistens => hlistens) ?_ ?_ hstart hrun
  · intro state completion next hlistens hdatagram hstep
    cases completion with
    | datagram bytes endpoint => exact hlistens.step_datagram surroundings hstep
    | error => exact absurd rfl hdatagram
  · intro state completion next hlistens hguard hstep hnext
    obtain rfl : completion = .error := Classical.not_not.mp hguard
    have hnone : Listens 0 next := hlistens.step_error surroundings hstep
    exact absurd (hnext.symm.trans hnone) Nat.one_ne_zero

end Loop

/-! ## One worker -/

private def quiet : Surroundings UInt32 where
  codec := Codec.plain
  serviceIdentifier := 0x05000000
  copyFrom := fun _ => none
  findOne := fun _ => .ok none
  addressFromString := fun _ => none

private def reportedCoordinates : Any := ⟨"t/GPS".toList, [1, 2]⟩

/-- A module reports its coordinates. -/
private def reporting : ModuleMessage UInt32 where
  header := some ⟨9, .moduleRequest, 2⟩
  request := some ⟨some reportedCoordinates⟩
  subscriptionRequest := none

private def subscribing : ModuleMessage UInt32 where
  header := some ⟨8, .moduleRequest, 3⟩
  request := none
  subscriptionRequest := some ⟨"GPS".toList⟩

/-- Every record can be decoded, and every answer copied. -/
private def obliging : Surroundings UInt32 where
  codec := Codec.plain
  serviceIdentifier := 0x05000000
  copyFrom := fun answer => some ⟨some answer⟩
  findOne := fun identifier => .ok (some [("ModuleIdentifier".toList, .int32 identifier),
    ("ConnectionState".toList, .int32 1), ("IpAddress".toList, .utf8 "10.0.0.8".toList),
    ("Port".toList, .int32 5000)])
  addressFromString := fun _ => some [10, 0, 0, 8]

/-- A worker that answers each report and passes it on to module 7. -/
private def busy : ContextWorker :=
  create ⟨[(0, ⟨some ⟨fun _ => true, fun _ any => some any⟩⟩)]⟩
    ⟨[⟨0, "GPS".toList, [7], ⟨some ⟨fun _ any => (some any, any)⟩⟩⟩]⟩

/-- Noise, a report, a subscription and another report. -/
private def traffic : List Completion :=
  [.datagram [1, 2, 3] ⟨[127, 0, 0, 1], 4000⟩,
    .datagram (Codec.plain.serialize reporting) ⟨[127, 0, 0, 1], 4001⟩,
    .datagram (Codec.plain.serialize subscribing) ⟨[127, 0, 0, 1], 4002⟩,
    .datagram (Codec.plain.serialize reporting) ⟨[127, 0, 0, 1], 4001⟩]

set_option maxRecDepth 20000 in
theorem listens_during_traffic :
    EveryState (receiveStep obliging) (Listens 1) busy.startRead traffic ∧
      ∃ finish, run (receiveStep obliging) busy.startRead traffic = some finish ∧
        finish.sent.length = 5 := by
  obtain ⟨finish, hrun, hsent⟩ : ∃ finish,
      run (receiveStep obliging) busy.startRead traffic = some finish ∧ finish.sent.length = 5 :=
    ⟨_, rfl, rfl⟩
  exact ⟨(listens_iff obliging rfl hrun).mpr (by decide), finish, hrun, hsent⟩

/-- A receive that completes with an error is the last one. -/
theorem error_ends_receive_loop :
    ¬ ∀ completions finish,
      run (receiveStep quiet) (create ⟨[]⟩ ⟨[]⟩).startRead completions = some finish →
        EveryState (receiveStep quiet) (Listens 1) (create ⟨[]⟩ ⟨[]⟩).startRead completions := by
  intro hclaimed
  have hevery := hclaimed [.error] _ rfl
  have hlast : Listens 1 _ := hevery.2 _ rfl
  exact absurd hlast Nat.zero_ne_one

end ProcessManagerService.Worker
