import ProcessManagerService.Connection.WriteChain
import Mathlib.Logic.Function.Basic

/-!
# Interleaved senders and completion handlers

`sendMessage` and the completion handlers of a connection run on several
threads.  Here every operation of the message queue, every read or write of
`sendingInProgress`, every look at or close of the socket and every
`async_write` is one atomic step of a thread, and the threads interleave
freely.  A thread that runs without interruption does what the member function
does in one step.
-/

namespace ProcessManagerService.Interleaving

open Communication Connection PartialRuns WriteChain

variable {T Thread : Type*}

/-- What the threads share. -/
structure SharedState (T : Type*) where
  messagesQueue : MessageQueue (Message T)
  sendingInProgress : Bool
  isOpen : Bool
  outstanding : List AsyncOperation

/-- The atomic step a thread does next.  `idle` stands between two functions. -/
inductive Activity (T : Type*) where
  | idle
  -- `sendMessage`
  | push (message : Message T)
  | testOpen
  | testSending
  | setSending
  -- `writeMessageHeader`
  | headerFront
  | startHeader (buffer : List Byte)
  -- `postWriteMessageHeader` and `writeMessageBody`
  | testBody
  | bodyData
  | bodySize (data : List Byte)
  | startBody (buffer : List Byte)
  | popEmpty
  | testMore
  -- `postWriteMessageBody`
  | popSent
  | testRest
  -- the error branches
  | disconnect
  | clearSending
  deriving DecidableEq

/-- One atomic step and what the thread does afterwards.  `none` is `front` or
`pop` of an empty queue. -/
def Activity.step [HeaderLayout T] (shared : SharedState T) :
    Activity T → Option (SharedState T × Activity T)
  | idle => some (shared, idle)
  | push message =>
      some ({ shared with messagesQueue := shared.messagesQueue.push message }, testOpen)
  | testOpen => some (shared, if shared.isOpen then testSending else idle)
  | testSending => some (shared, if shared.sendingInProgress then idle else setSending)
  | setSending => some ({ shared with sendingInProgress := true }, headerFront)
  | headerFront => shared.messagesQueue.front.map fun message =>
      (shared, startHeader (HeaderLayout.encode message.header))
  | startHeader buffer =>
      some ({ shared with outstanding := shared.outstanding ++ [.writeHeader buffer] }, idle)
  | testBody => shared.messagesQueue.front.map fun message =>
      (shared, if 0 < message.body.length then bodyData else popEmpty)
  | bodyData => shared.messagesQueue.front.map fun message => (shared, bodySize message.body)
  | bodySize data => shared.messagesQueue.front.map fun message =>
      (shared, startBody (data.take message.body.length))
  | startBody buffer =>
      some ({ shared with outstanding := shared.outstanding ++ [.writeBody buffer] }, idle)
  | popEmpty => shared.messagesQueue.pop.map fun queue =>
      ({ shared with messagesQueue := queue }, testMore)
  -- the flag is not cleared on this exit
  | testMore => some (shared, if !shared.messagesQueue.empty then headerFront else idle)
  | popSent => shared.messagesQueue.pop.map fun queue =>
      ({ shared with messagesQueue := queue }, testRest)
  | testRest =>
      some (shared, if !shared.messagesQueue.empty then headerFront else clearSending)
  | disconnect => some ({ shared with isOpen := false }, clearSending)
  | clearSending => some ({ shared with sendingInProgress := false }, idle)

/-- The completion handler of a write. -/
def Activity.afterWrite (operation : AsyncOperation) (error : Bool) : Activity T :=
  if error then disconnect
  else
    match operation with
    | .writeHeader _ => testBody
    | .writeBody _ => popSent
    | _ => idle

/-! ## A thread on its own -/

/-- A thread makes so many steps while the others rest. -/
def runAlone [HeaderLayout T] : ℕ → SharedState T × Activity T → Option (SharedState T × Activity T)
  | 0, state => some state
  | count + 1, (shared, activity) => (activity.step shared).bind (runAlone count)

def sharedState (connection : TcpConnection T) : SharedState T where
  messagesQueue := connection.messagesQueue
  sendingInProgress := connection.sendingInProgress
  isOpen := connection.socket.isOpen
  outstanding := outstandingWrites connection

variable [HeaderLayout T]

@[simp]
theorem runAlone_succ (count : ℕ) (shared : SharedState T) (activity : Activity T) :
    runAlone (count + 1) (shared, activity) = (activity.step shared).bind (runAlone count) := rfl

@[simp]
theorem runAlone_idle (count : ℕ) (shared : SharedState T) :
    runAlone count (shared, .idle) = some (shared, .idle) := by
  induction count with
  | zero => rfl
  | succ count ih => exact ih

omit [HeaderLayout T] in
theorem sharedState_asyncWrite {operation : AsyncOperation} (hwrite : operation.isWrite = true)
    (connection : TcpConnection T) :
    sharedState (connection.asyncWrite operation) = { sharedState connection with
      outstanding := outstandingWrites connection ++ [operation] } := by
  cases hopen : connection.socket.isOpen <;>
    simp [sharedState, TcpConnection.asyncWrite, outstandingWrites, hopen, hwrite]

/-- `writeMessageHeader` without interruption. -/
theorem runAlone_headerFront (connection : TcpConnection T) (count : ℕ) :
    runAlone (count + 2) (sharedState connection, .headerFront) =
      connection.writeMessageHeader.map fun next => (sharedState next, .idle) := by
  cases hfront : connection.messagesQueue.front with
  | none => simp [Activity.step, sharedState, TcpConnection.writeMessageHeader, hfront]
  | some message =>
      have hstarted : sharedState (connection.asyncWrite
          (.writeHeader (HeaderLayout.encode message.header))) = _ :=
        sharedState_asyncWrite rfl connection
      rw [TcpConnection.writeMessageHeader, hfront, Option.map_some, Option.map_some, hstarted]
      simp [sharedState, hfront, Activity.step]

/-- `writeMessageBody` without interruption. -/
theorem runAlone_bodyData (connection : TcpConnection T) (count : ℕ) :
    runAlone (count + 3) (sharedState connection, .bodyData) =
      connection.writeMessageBody.map fun next => (sharedState next, .idle) := by
  cases hfront : connection.messagesQueue.front with
  | none => simp [Activity.step, sharedState, TcpConnection.writeMessageBody, hfront]
  | some message =>
      have hstarted : sharedState (connection.asyncWrite (.writeBody message.body)) = _ :=
        sharedState_asyncWrite rfl connection
      rw [TcpConnection.writeMessageBody, hfront, Option.map_some, Option.map_some, hstarted]
      simp [sharedState, hfront, Activity.step]

/-- A thread that is not interrupted sends as the member function does. -/
theorem runAlone_push (connection : TcpConnection T) (message : Message T) (count : ℕ) :
    runAlone (count + 6) (sharedState connection, .push message) =
      (connection.sendMessage message).map fun next => (sharedState next, .idle) := by
  cases hopen : connection.socket.isOpen with
  | false => simp [Activity.step, sharedState, TcpConnection.sendMessage, hopen, outstandingWrites]
  | true =>
      cases hsending : connection.sendingInProgress with
      | true =>
          simp [Activity.step, sharedState, TcpConnection.sendMessage, hopen, hsending,
            outstandingWrites]
      | false =>
          let queued : TcpConnection T := { connection with
            messagesQueue := connection.messagesQueue.push message
            sendingInProgress := true }
          calc runAlone (count + 6) (sharedState connection, .push message)
              = runAlone (count + 2) (sharedState queued, .headerFront) := by
                rw [sharedState, hopen, hsending, sharedState, hopen]
                rfl
            _ = queued.writeMessageHeader.map fun next => (sharedState next, .idle) :=
                runAlone_headerFront queued count
            _ = (connection.sendMessage message).map fun next => (sharedState next, .idle) := by
                simp [TcpConnection.sendMessage, hopen, hsending, queued]

/-- The error branches without interruption. -/
theorem runAlone_disconnect (connection : TcpConnection T) (count : ℕ) :
    runAlone (count + 2) (sharedState connection, .disconnect) =
      some (sharedState { connection.disconnect with sendingInProgress := false }, .idle) := by
  cases hopen : connection.socket.isOpen <;>
    simp [Activity.step, sharedState, TcpConnection.disconnect, hopen, outstandingWrites]

/-- `postWriteMessageHeader` without interruption. -/
theorem runAlone_testBody (connection : TcpConnection T) (count : ℕ) :
    runAlone (count + 5) (sharedState connection, .testBody) =
      (connection.postWriteMessageHeader false (HeaderLayout.size T)).map fun next =>
        (sharedState next, .idle) := by
  cases hfront : connection.messagesQueue.front with
  | none => simp [Activity.step, sharedState, TcpConnection.postWriteMessageHeader, hfront]
  | some message =>
      by_cases hbody : 0 < message.body.length
      · have hwrite := runAlone_bodyData connection (count + 1)
        simpa [Activity.step, sharedState, TcpConnection.postWriteMessageHeader, hfront, hbody]
          using hwrite
      · cases hpop : connection.messagesQueue.pop with
        | none =>
            simp [Activity.step, sharedState, TcpConnection.postWriteMessageHeader, hfront, hbody,
              hpop]
        | some queue =>
            cases hempty : queue.empty with
            | true =>
                simp [Activity.step, sharedState, TcpConnection.postWriteMessageHeader, hfront,
                  hbody, hpop, hempty, outstandingWrites]
            | false =>
                have hwrite := runAlone_headerFront { connection with
                  messagesQueue := queue } count
                simpa [Activity.step, sharedState, TcpConnection.postWriteMessageHeader, hfront,
                  hbody, hpop, hempty, outstandingWrites] using hwrite

/-- `postWriteMessageBody` without interruption. -/
theorem runAlone_popSent (connection : TcpConnection T) (count : ℕ) :
    runAlone (count + 4) (sharedState connection, .popSent) =
      (connection.postWriteMessageBody false).map fun next => (sharedState next, .idle) := by
  cases hpop : connection.messagesQueue.pop with
  | none => simp [Activity.step, sharedState, TcpConnection.postWriteMessageBody, hpop]
  | some queue =>
      cases hempty : queue.empty with
      | true =>
          simp [Activity.step, sharedState, TcpConnection.postWriteMessageBody, hpop, hempty,
            outstandingWrites]
      | false =>
          have hwrite := runAlone_headerFront { connection with messagesQueue := queue } count
          simpa [Activity.step, sharedState, TcpConnection.postWriteMessageBody, hpop, hempty,
            outstandingWrites] using hwrite

/-- A completion handler that is not interrupted runs as in one step. -/
theorem runAlone_afterWrite (connection : TcpConnection T) {operation : AsyncOperation}
    (hwrite : operation.isWrite = true) (error : Bool) (count : ℕ) :
    runAlone (count + 5)
        (sharedState (connection.finishWrite operation error), .afterWrite operation error) =
      (connection.completeWrite operation error).map fun next => (sharedState next, .idle) := by
  cases operation with
  | writeHeader buffer =>
      cases error with
      | true => exact runAlone_disconnect _ _
      | false => exact runAlone_testBody _ _
  | writeBody buffer =>
      cases error with
      | true => exact runAlone_disconnect _ _
      | false => exact runAlone_popSent _ _
  | _ => cases hwrite

/-! ## All threads -/

/-- The shared state, what each thread is doing, and whether a thread has run
into undefined behaviour, which ends the run. -/
structure SystemState (Thread T : Type*) where
  shared : SharedState T
  activity : Thread → Activity T
  faulted : Bool

/-- An idle thread calls `sendMessage` or runs the handler of a completed write,
and a busy one makes its next step. -/
inductive Move (Thread T : Type*) where
  | call (thread : Thread) (message : Message T)
  | complete (thread : Thread) (operation : AsyncOperation) (error : Bool)
  | advance (thread : Thread)

omit [HeaderLayout T] in
def Activity.isIdle : Activity T → Bool
  | idle => true
  | _ => false

omit [HeaderLayout T] in
/-- The thread goes on with the sending: it is between its decision to send and
the end of its function. -/
def inChain : Activity T → Bool
  | .idle => false
  | .push _ => false
  | .testOpen => false
  | .testSending => false
  | _ => true

variable [DecidableEq Thread]

omit [HeaderLayout T] in
/-- The thread goes on to `next` in the shared state `shared`. -/
def SystemState.goto (state : SystemState Thread T) (thread : Thread)
    (shared : SharedState T) (next : Activity T) : SystemState Thread T :=
  { state with shared := shared, activity := Function.update state.activity thread next }

omit [HeaderLayout T] in
@[simp]
theorem shared_goto (state : SystemState Thread T) (thread : Thread)
    (shared : SharedState T) (next : Activity T) :
    (state.goto thread shared next).shared = shared := rfl

omit [HeaderLayout T] in
@[simp]
theorem activity_goto_self (state : SystemState Thread T) (thread : Thread)
    (shared : SharedState T) (next : Activity T) :
    (state.goto thread shared next).activity thread = next := by
  simp [SystemState.goto]

omit [HeaderLayout T] in
theorem activity_goto_of_ne {thread other : Thread} (hne : other ≠ thread)
    (state : SystemState Thread T) (shared : SharedState T) (next : Activity T) :
    (state.goto thread shared next).activity other = state.activity other := by
  simp [SystemState.goto, hne]

def systemStep (state : SystemState Thread T) (move : Move Thread T) :
    Option (SystemState Thread T) :=
  if state.faulted then none
  else
    match move with
    | .call thread message =>
        if (state.activity thread).isIdle then
          some (state.goto thread state.shared (.push message))
        else none
    | .complete thread operation error =>
        if (state.activity thread).isIdle ∧ operation ∈ state.shared.outstanding then
          some (state.goto thread { state.shared with
            outstanding := state.shared.outstanding.erase operation }
            (.afterWrite operation error))
        else none
    | .advance thread =>
        if (state.activity thread).isIdle then none
        else
          match (state.activity thread).step state.shared with
          | some (shared, next) => some (state.goto thread shared next)
          | none => some { state with faulted := true }

omit [HeaderLayout T] [DecidableEq Thread] in
/-- A new object after its first successful `connect`, with every thread idle. -/
def connectedSystem (Thread T : Type*) : SystemState Thread T where
  shared := sharedState (connected T)
  activity _ := .idle
  faulted := false

/-- The inversion lemma of the system: a call, a completion, an atomic step, or
the end of the run in undefined behaviour. -/
inductive SystemMove (state : SystemState Thread T) :
    Move Thread T → SystemState Thread T → Prop where
  | called (thread : Thread) (message : Message T) (hidle : state.activity thread = .idle) :
      SystemMove state (.call thread message) (state.goto thread state.shared (.push message))
  | completed (thread : Thread) (operation : AsyncOperation) (error : Bool)
      (hidle : state.activity thread = .idle) (hmem : operation ∈ state.shared.outstanding) :
      SystemMove state (.complete thread operation error)
        (state.goto thread { state.shared with
          outstanding := state.shared.outstanding.erase operation }
          (.afterWrite operation error))
  | advanced (thread : Thread) (shared : SharedState T) (next : Activity T)
      (hbusy : state.activity thread ≠ .idle)
      (hstep : (state.activity thread).step state.shared = some (shared, next)) :
      SystemMove state (.advance thread) (state.goto thread shared next)
  | faulted (thread : Thread) (hstep : (state.activity thread).step state.shared = none) :
      SystemMove state (.advance thread) { state with faulted := true }

omit [HeaderLayout T] in
theorem Activity.isIdle_iff {activity : Activity T} :
    activity.isIdle = true ↔ activity = .idle := by
  cases activity <;> simp [Activity.isIdle]

theorem systemMove_of_step {state next : SystemState Thread T} {move : Move Thread T}
    (hstep : systemStep state move = some next) :
    state.faulted = false ∧ SystemMove state move next := by
  unfold systemStep at hstep
  rw [Option.ite_none_left_eq_some] at hstep
  obtain ⟨hfaulted, hstep⟩ := hstep
  refine ⟨Bool.eq_false_iff.mpr hfaulted, ?_⟩
  cases move with
  | call thread message =>
      simp only [Option.ite_none_right_eq_some, Activity.isIdle_iff, Option.some.injEq] at hstep
      obtain ⟨hidle, rfl⟩ := hstep
      exact .called thread message hidle
  | complete thread operation error =>
      simp only [Option.ite_none_right_eq_some, Activity.isIdle_iff, Option.some.injEq] at hstep
      obtain ⟨⟨hidle, hmem⟩, rfl⟩ := hstep
      exact .completed thread operation error hidle hmem
  | advance thread =>
      simp only [Option.ite_none_left_eq_some, Activity.isIdle_iff] at hstep
      obtain ⟨hbusy, hstep⟩ := hstep
      split at hstep
      next shared after hactivity =>
        cases hstep
        exact .advanced thread shared after hbusy hactivity
      next hactivity =>
        cases hstep
        exact .faulted thread hactivity

/-- A busy thread makes its atomic step. -/
theorem systemStep_advance {state : SystemState Thread T} {thread : Thread}
    {shared : SharedState T} {next : Activity T} (hfaulted : state.faulted = false)
    (hbusy : state.activity thread ≠ .idle)
    (hstep : (state.activity thread).step state.shared = some (shared, next)) :
    systemStep state (.advance thread) = some (state.goto thread shared next) := by
  have hidle : (state.activity thread).isIdle = false := by
    rw [← Bool.not_eq_true, Activity.isIdle_iff]
    exact hbusy
  simp [systemStep, hfaulted, hidle, hstep]

/-- A thread that finds the queue empty ends the run. -/
theorem systemStep_fault {state : SystemState Thread T} {thread : Thread}
    (hfaulted : state.faulted = false)
    (hstep : (state.activity thread).step state.shared = none) :
    systemStep state (.advance thread) = some { state with faulted := true } := by
  have hidle : (state.activity thread).isIdle = false := by
    rw [← Bool.not_eq_true, Activity.isIdle_iff]
    intro hactivity
    rw [hactivity] at hstep
    cases hstep
  simp [systemStep, hfaulted, hidle, hstep]

end ProcessManagerService.Interleaving
