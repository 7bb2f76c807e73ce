import ProcessManagerService.Connection.ReadLoop

/-!
# Sends and waits

Only `sendMessage` adds to the record of pushed messages, and only
`setTimerExpiration` starts a wait.  Everything else that happens to a
connection is silent: it pushes nothing and leaves the waits of the timer alone.
-/

namespace ProcessManagerService.TimerFrame

open Communication Connection ReadLoop

variable {T : Type*}

def isWait : AsyncOperation → Bool
  | .timerWait _ _ => true
  | _ => false

theorem isWait_of_isWrite {operation : AsyncOperation} (hwrite : operation.isWrite = true) :
    isWait operation = false := by
  cases operation with
  | timerWait millisec aborted => cases hwrite
  | _ => rfl

/-- The waits of the timer whose handler has not run. -/
def waits (connection : TcpConnection T) : List AsyncOperation :=
  connection.pending.filter isWait

structure Silent (connection next : TcpConnection T) : Prop where
  pushed : next.messagesQueue.pushed = connection.messagesQueue.pushed
  waits : waits next = waits connection

theorem Silent.refl (connection : TcpConnection T) : Silent connection connection :=
  ⟨rfl, rfl⟩

theorem Silent.trans {first second third : TcpConnection T} (hfirst : Silent first second)
    (hsecond : Silent second third) : Silent first third :=
  ⟨hsecond.pushed.trans hfirst.pushed, hsecond.waits.trans hfirst.waits⟩

theorem waits_append {operation : AsyncOperation} (hwait : isWait operation = false)
    (pending : List AsyncOperation) :
    (pending ++ [operation]).filter isWait = pending.filter isWait := by
  simp [hwait]

/-- A read may start with a new buffer. -/
theorem silent_asyncRead {operation : AsyncOperation} (hwait : isWait operation = false)
    (connection : TcpConnection T) (incomingMessage : Option (Message T)) :
    Silent connection ({ connection with incomingMessage }.asyncRead operation) :=
  ⟨rfl, waits_append hwait connection.pending⟩

theorem silent_asyncWrite {operation : AsyncOperation} (hwait : isWait operation = false)
    (connection : TcpConnection T) : Silent connection (connection.asyncWrite operation) :=
  ⟨rfl, waits_append hwait connection.pending⟩

theorem silent_disconnect (connection : TcpConnection T) :
    Silent connection connection.disconnect := by
  rw [TcpConnection.disconnect]
  split
  · exact ⟨rfl, rfl⟩
  · exact .refl connection

theorem silent_closeSocket (connection : TcpConnection T) :
    Silent connection connection.closeSocket :=
  silent_disconnect connection

theorem silent_connect (connection : TcpConnection T) (succeeds : Bool) :
    Silent connection (connection.connect succeeds).2 := by
  cases succeeds <;> exact ⟨rfl, rfl⟩

theorem silent_startReadingSequence [Inhabited T] (connection : TcpConnection T) :
    Silent connection connection.startReadingSequence :=
  silent_asyncRead rfl connection _

theorem silent_finishWrite {operation : AsyncOperation} (hwait : isWait operation = false)
    (connection : TcpConnection T) (error : Bool) :
    Silent connection (connection.finishWrite operation error) :=
  ⟨rfl, AsyncOperation.filter_erase hwait connection.pending⟩

/-- What leaves the queue stays in the record. -/
theorem silent_pop {connection : TcpConnection T} {queue : MessageQueue (Message T)}
    (hpop : connection.messagesQueue.pop = some queue) :
    Silent connection { connection with messagesQueue := queue } := by
  refine ⟨?_, rfl⟩
  obtain ⟨message, hitems⟩ := MessageQueue.items_of_pop hpop
  rw [MessageQueue.pop_of_items hitems] at hpop
  rw [← Option.some.inj hpop, MessageQueue.pushed, MessageQueue.pushed, hitems,
    List.append_assoc]
  rfl

/-- Every wait that was started before is aborted. -/
theorem waits_setTimerExpiration (connection : TcpConnection T) (millisec : ℕ) :
    waits (connection.setTimerExpiration millisec) =
      (waits connection).map AsyncOperation.abortWait ++ [.timerWait millisec false] := by
  have hkind : ∀ operation, isWait (AsyncOperation.abortWait operation) = isWait operation := by
    intro operation
    cases operation <;> rfl
  rw [waits, TcpConnection.setTimerExpiration, List.filter_append,
    AsyncOperation.filter_map_abortWait hkind]
  rfl

section Reading

variable [HeaderLayout T] {connection next : TcpConnection T}

theorem silent_of_finishRead {operation : AsyncOperation} {error : Bool}
    (hwait : isWait operation = false)
    (hfinish : connection.finishRead operation error = some next) : Silent connection next := by
  cases error with
  | true =>
      cases hfinish
      exact ⟨rfl, AsyncOperation.filter_erase hwait connection.pending⟩
  | false =>
      simp only [TcpConnection.finishRead, Bool.false_eq_true, if_false,
        Option.map_eq_some_iff] at hfinish
      obtain ⟨message, -, rfl⟩ := hfinish
      exact ⟨rfl, AsyncOperation.filter_erase hwait connection.pending⟩

theorem silent_of_postReadMessageHeader {error : Bool} {bytesTransferred : ℕ}
    (hpost : connection.postReadMessageHeader error bytesTransferred = some next) :
    Silent connection next := by
  rw [TcpConnection.postReadMessageHeader] at hpost
  split at hpost
  · cases hpost
    exact silent_disconnect connection
  · split at hpost
    · cases hpost
      exact .refl connection
    · obtain ⟨message, -, hpost⟩ := Option.bind_eq_some_iff.mp hpost
      split at hpost
      · cases hpost
        exact .refl connection
      · obtain ⟨resized, -, rfl⟩ := Option.map_eq_some_iff.mp hpost
        exact silent_asyncRead rfl connection _

end Reading

section Writing

variable [HeaderLayout T] {connection next : TcpConnection T}

/-- Sending pushes a message, but it leaves the timer alone. -/
theorem waits_of_sendMessage {message : Message T}
    (hsend : connection.sendMessage message = some next) : waits next = waits connection := by
  rcases TcpConnection.sendMessage_cases hsend with rfl | ⟨buffer, rfl⟩
  · rfl
  · exact waits_append rfl connection.pending

theorem silent_of_completeWrite {operation : AsyncOperation} {error : Bool}
    (hcomplete : connection.completeWrite operation error = some next) :
    Silent connection next := by
  obtain ⟨hwrite, hhandled⟩ := TcpConnection.handled_of_completeWrite hcomplete
  have hfinish : Silent connection (connection.finishWrite operation error) :=
    silent_finishWrite (isWait_of_isWrite hwrite) connection error
  apply hfinish.trans
  cases hhandled with
  | failed =>
      have hclosed := silent_disconnect (connection.finishWrite operation true)
      exact ⟨hclosed.pushed, hclosed.waits⟩
  | continued other hother => exact silent_asyncWrite (isWait_of_isWrite hother) _
  | popped messagesQueue sendingInProgress hpop =>
      have hpopped := silent_pop hpop
      exact ⟨hpopped.pushed, hpopped.waits⟩
  | following messagesQueue other hpop hother =>
      exact (silent_pop hpop).trans (silent_asyncWrite (isWait_of_isWrite hother) _)

end Writing

end ProcessManagerService.TimerFrame
