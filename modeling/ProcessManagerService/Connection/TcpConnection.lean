import ProcessManagerService.Core.Communication
import ProcessManagerService.Core.MessageQueue

/-!
# TcpConnection

The member functions of `Connection.hpp`, as functions on the state of the
object.  An asynchronous operation that a function starts is appended to
`pending`, and its completion handler runs when the operation is taken from
there.  A function returns `none` where the C++ would run into undefined
behaviour: `front` or `pop` of an empty queue, or a null `incomingMessage`.

`socket` is a `unique_ptr` that the constructor fills and that `makeNewSocket`
refills before it returns, so no member function ever finds it null; the type
has no null value and the tests `if (socket)` always succeed.
-/

namespace ProcessManagerService.Connection

open Communication

/-- What the class observes of a stream socket.  `arrived` holds the received
bytes that no read has consumed; `handed` and `transferred` record the bytes
given to `async_write` on the current connection and those of them whose write
has completed. -/
structure Socket where
  isOpen : Bool
  arrived : List Byte
  handed : List Byte
  transferred : List Byte
  deriving DecidableEq

/-- A socket object that has not been opened. -/
def Socket.create : Socket := ⟨false, [], [], []⟩

/-- An operation started on the `io_context` whose handler has not run yet. -/
inductive AsyncOperation where
  | readHeader
  | readBody (size : ℕ)
  | writeHeader (buffer : List Byte)
  | writeBody (buffer : List Byte)
  | timerWait (millisec : ℕ) (aborted : Bool)
  deriving DecidableEq

namespace AsyncOperation

def isWrite : AsyncOperation → Bool
  | writeHeader _ => true
  | writeBody _ => true
  | _ => false

def isRead : AsyncOperation → Bool
  | readHeader => true
  | readBody _ => true
  | _ => false

theorem isRead_of_isWrite {operation : AsyncOperation} (hwrite : operation.isWrite = true) :
    operation.isRead = false := by
  cases operation with
  | writeHeader buffer => rfl
  | writeBody buffer => rfl
  | _ => cases hwrite

/-- The bytes an `async_write` was given. -/
def buffer : AsyncOperation → List Byte
  | writeHeader bytes => bytes
  | writeBody bytes => bytes
  | _ => []

/-- Changing the expiry of a timer makes its pending waits complete with
`operation_aborted`. -/
def abortWait : AsyncOperation → AsyncOperation
  | timerWait millisec _ => timerWait millisec true
  | operation => operation

variable {kind : AsyncOperation → Bool}

/-- Taking an operation of another kind leaves the operations of this kind as
they are. -/
theorem filter_erase {operation : AsyncOperation} (hother : kind operation = false)
    (pending : List AsyncOperation) :
    (pending.erase operation).filter kind = pending.filter kind := by
  rw [← List.erase_filter, List.erase_of_not_mem]
  simp [hother]

/-- An aborted wait is still a wait. -/
theorem filter_map_abortWait (hkind : ∀ operation, kind operation.abortWait = kind operation)
    (pending : List AsyncOperation) :
    (pending.map abortWait).filter kind = (pending.filter kind).map abortWait := by
  have hsame : kind ∘ abortWait = kind := by
    funext operation
    exact hkind operation
  rw [List.filter_map, hsame]

/-- Aborting the waits leaves the operations of a kind without waits alone. -/
theorem filter_map_abortWait_of_ne
    (hwait : ∀ millisec aborted, kind (.timerWait millisec aborted) = false)
    (pending : List AsyncOperation) :
    (pending.map abortWait).filter kind = pending.filter kind := by
  have hkind : ∀ operation, kind operation.abortWait = kind operation := by
    intro operation
    cases operation with
    | timerWait millisec aborted => rw [abortWait, hwait, hwait]
    | _ => rfl
  have hsame : ∀ operation ∈ pending.filter kind, operation.abortWait = id operation := by
    intro operation hmem
    cases operation with
    | timerWait millisec aborted =>
        have hcounted := List.of_mem_filter hmem
        rw [hwait] at hcounted
        cases hcounted
    | _ => rfl
  calc (pending.map abortWait).filter kind
      = (pending.filter kind).map abortWait := filter_map_abortWait hkind pending
    _ = (pending.filter kind).map id := List.map_congr_left hsame
    _ = pending.filter kind := List.map_id _

end AsyncOperation

structure TcpConnection (T : Type*) where
  socket : Socket
  messagesQueue : MessageQueue (Message T)
  incomingMessage : Option (Message T)
  sendingInProgress : Bool
  pending : List AsyncOperation

namespace TcpConnection

variable {T : Type*}

/-- The constructor. -/
def create : TcpConnection T := ⟨Socket.create, MessageQueue.create, none, false, []⟩

/-- `async_read`: nothing happens before its completion. -/
def asyncRead (connection : TcpConnection T) (operation : AsyncOperation) :
    TcpConnection T :=
  { connection with pending := connection.pending ++ [operation] }

/-- `async_write`: an open socket is handed the bytes at once, a closed one
completes the operation with an error. -/
def asyncWrite (connection : TcpConnection T) (operation : AsyncOperation) :
    TcpConnection T :=
  { connection with
    pending := connection.pending ++ [operation]
    socket := if connection.socket.isOpen then
        { connection.socket with handed := connection.socket.handed ++ operation.buffer }
      else connection.socket }

def isConnected (connection : TcpConnection T) : Bool :=
  connection.socket.isOpen

/-- `disconnect` is virtual, but no class overrides it. -/
def disconnect (connection : TcpConnection T) : TcpConnection T :=
  if connection.socket.isOpen then
    { connection with socket := { connection.socket with isOpen := false } }
  else connection

def closeSocket (connection : TcpConnection T) : TcpConnection T :=
  if connection.socket.isOpen then
    { connection with socket := { connection.socket with isOpen := false } }
  else connection

/-- `succeeds` is the outcome of the socket's own `connect`, which opens a
closed socket before it tries and leaves it open when the attempt fails. -/
def connect (connection : TcpConnection T) (succeeds : Bool) : Bool × TcpConnection T :=
  if succeeds then (true, { connection with socket := ⟨true, [], [], []⟩ })
  else (false, { connection with socket := { connection.socket with isOpen := true } })

def makeNewSocket (connection : TcpConnection T) : TcpConnection T :=
  { connection with socket := Socket.create }

def setTimerExpiration (connection : TcpConnection T) (millisec : ℕ) : TcpConnection T :=
  { connection with
    pending := connection.pending.map AsyncOperation.abortWait ++
      [.timerWait millisec false] }

/-! ## The reading side -/

def readMessageHeader (connection : TcpConnection T) : TcpConnection T :=
  connection.asyncRead .readHeader

def readMessageBody (connection : TcpConnection T) : Option (TcpConnection T) :=
  connection.incomingMessage.map fun message =>
    connection.asyncRead (.readBody message.body.length)

/-- `std::string::resize`. -/
def resize (body : List Byte) (size : ℕ) : List Byte :=
  body.take size ++ List.replicate (size - body.length) 0

def postReadMessageHeader [HeaderLayout T] (connection : TcpConnection T) (error : Bool)
    (bytesTransferred : ℕ) : Option (TcpConnection T) :=
  if error then some connection.disconnect
  else if bytesTransferred ≠ HeaderLayout.size T then some connection
  else
    connection.incomingMessage.bind fun message =>
      -- `header.size <= 0` on an unsigned size
      if message.header.size = 0 then some connection
      else
        readMessageBody { connection with
          incomingMessage := some { message with
            body := resize message.body message.header.size.toNat } }

section Reading

variable [HeaderLayout T]

/-- The size of the buffer that a read fills. -/
def bytesWanted (T : Type*) [HeaderLayout T] : AsyncOperation → ℕ
  | .readHeader => HeaderLayout.size T
  | .readBody size => size
  | _ => 0

/-- The bytes of a finished read land in the header or in the body. -/
def fillBuffer (message : Message T) (operation : AsyncOperation) (bytes : List Byte) :
    Message T :=
  match operation with
  | .readHeader => { message with header := HeaderLayout.decode bytes }
  | .readBody _ => { message with body := bytes }
  | _ => message

/-- The `io_context` takes a read from `pending`; without an error its buffer in
`incomingMessage` has been filled from the bytes that have arrived. -/
def finishRead (connection : TcpConnection T) (operation : AsyncOperation)
    (error : Bool) : Option (TcpConnection T) :=
  if error then some { connection with pending := connection.pending.erase operation }
  else
    connection.incomingMessage.map fun message =>
      { connection with
        pending := connection.pending.erase operation
        incomingMessage := some (fillBuffer message operation
          (connection.socket.arrived.take (bytesWanted T operation)))
        socket := { connection.socket with
          arrived := connection.socket.arrived.drop (bytesWanted T operation) } }

end Reading

/-- A message buffer left over from before is released first; either way the
new one is value-initialised. -/
def startReadingSequence [Inhabited T] (connection : TcpConnection T) : TcpConnection T :=
  readMessageHeader { connection with incomingMessage := some ⟨⟨default, 0⟩, []⟩ }

/-- `last_ping` is written here and never read; it is left out. -/
def startReading [Inhabited T] (connection : TcpConnection T) : TcpConnection T :=
  connection.startReadingSequence

/-! ## The writing side -/

section Writing

variable [HeaderLayout T]

def writeMessageHeader (connection : TcpConnection T) : Option (TcpConnection T) :=
  connection.messagesQueue.front.map fun message =>
    connection.asyncWrite (.writeHeader (HeaderLayout.encode message.header))

omit [HeaderLayout T] in
def writeMessageBody (connection : TcpConnection T) : Option (TcpConnection T) :=
  connection.messagesQueue.front.map fun message =>
    connection.asyncWrite (.writeBody message.body)

def postWriteMessageHeader (connection : TcpConnection T) (error : Bool)
    (bytesTransferred : ℕ) : Option (TcpConnection T) :=
  if error then some { connection.disconnect with sendingInProgress := false }
  else if bytesTransferred ≠ HeaderLayout.size T then connection.writeMessageHeader
  else
    connection.messagesQueue.front.bind fun message =>
      if 0 < message.body.length then connection.writeMessageBody
      else
        connection.messagesQueue.pop.bind fun queue =>
          let popped := { connection with messagesQueue := queue }
          if !queue.empty then popped.writeMessageHeader
          -- the flag is not cleared on this exit
          else some popped

def postWriteMessageBody (connection : TcpConnection T) (error : Bool) :
    Option (TcpConnection T) :=
  if error then some { connection.disconnect with sendingInProgress := false }
  else
    connection.messagesQueue.pop.bind fun queue =>
      let popped := { connection with messagesQueue := queue }
      if !queue.empty then popped.writeMessageHeader
      else some { popped with sendingInProgress := false }

def sendMessage (connection : TcpConnection T) (message : Message T) :
    Option (TcpConnection T) :=
  let queued := { connection with messagesQueue := connection.messagesQueue.push message }
  if !queued.socket.isOpen then some queued
  else if queued.sendingInProgress then some queued
  else { queued with sendingInProgress := true }.writeMessageHeader

/-- The call queues the message, and it may start the write of a header. -/
theorem sendMessage_cases {connection next : TcpConnection T} {message : Message T}
    (hsend : connection.sendMessage message = some next) :
    next = { connection with messagesQueue := connection.messagesQueue.push message } ∨
      ∃ buffer, next = asyncWrite { connection with
        messagesQueue := connection.messagesQueue.push message
        sendingInProgress := true } (.writeHeader buffer) := by
  simp only [sendMessage] at hsend
  split at hsend
  · cases hsend
    exact .inl rfl
  · split at hsend
    · cases hsend
      exact .inl rfl
    · obtain ⟨front, -, rfl⟩ := Option.map_eq_some_iff.mp hsend
      exact .inr ⟨_, rfl⟩

/-- The `io_context` takes a write from `pending`; without an error the whole
buffer has been transferred. -/
def finishWrite (connection : TcpConnection T) (operation : AsyncOperation)
    (error : Bool) : TcpConnection T :=
  { connection with
    pending := connection.pending.erase operation
    socket := if error then connection.socket
      else { connection.socket with
        transferred := connection.socket.transferred ++ operation.buffer } }

/-- A write completes and its handler runs. -/
def completeWrite (connection : TcpConnection T) (operation : AsyncOperation)
    (error : Bool) : Option (TcpConnection T) :=
  match operation with
  | .writeHeader _ =>
      (connection.finishWrite operation error).postWriteMessageHeader error
        (if error then 0 else HeaderLayout.size T)
  | .writeBody _ => (connection.finishWrite operation error).postWriteMessageBody error
  | _ => none

/-! ## What the handler of a write can do -/

omit [HeaderLayout T] in
/-- The exits of the two handlers: they close the socket, start another write,
or pop the front message and may then start the next one. -/
inductive WriteHandled (connection : TcpConnection T) : Bool → TcpConnection T → Prop where
  | failed : WriteHandled connection true
      { connection.disconnect with sendingInProgress := false }
  | continued (operation : AsyncOperation) (hwrite : operation.isWrite = true) :
      WriteHandled connection false (connection.asyncWrite operation)
  | popped (messagesQueue : MessageQueue (Message T)) (sendingInProgress : Bool)
      (hpop : connection.messagesQueue.pop = some messagesQueue) :
      WriteHandled connection false { connection with messagesQueue, sendingInProgress }
  | following (messagesQueue : MessageQueue (Message T)) (operation : AsyncOperation)
      (hpop : connection.messagesQueue.pop = some messagesQueue)
      (hwrite : operation.isWrite = true) :
      WriteHandled connection false
        (asyncWrite { connection with messagesQueue } operation)

variable {connection next : TcpConnection T} {error : Bool}

theorem handled_of_postWriteMessageHeader {bytesTransferred : ℕ}
    (hpost : connection.postWriteMessageHeader error bytesTransferred = some next) :
    WriteHandled connection error next := by
  cases error with
  | true =>
      cases hpost
      exact .failed
  | false =>
      simp only [postWriteMessageHeader, Bool.false_eq_true, if_false] at hpost
      split at hpost
      · obtain ⟨front, -, rfl⟩ := Option.map_eq_some_iff.mp hpost
        exact .continued _ rfl
      · obtain ⟨front, -, hpost⟩ := Option.bind_eq_some_iff.mp hpost
        split at hpost
        · obtain ⟨front, -, rfl⟩ := Option.map_eq_some_iff.mp hpost
          exact .continued _ rfl
        · obtain ⟨queue, hpop, hpost⟩ := Option.bind_eq_some_iff.mp hpost
          split at hpost
          · obtain ⟨following, -, rfl⟩ := Option.map_eq_some_iff.mp hpost
            exact .following queue _ hpop rfl
          · cases hpost
            exact .popped queue _ hpop

theorem handled_of_postWriteMessageBody
    (hpost : connection.postWriteMessageBody error = some next) :
    WriteHandled connection error next := by
  cases error with
  | true =>
      cases hpost
      exact .failed
  | false =>
      simp only [postWriteMessageBody, Bool.false_eq_true, if_false] at hpost
      obtain ⟨queue, hpop, hpost⟩ := Option.bind_eq_some_iff.mp hpost
      split at hpost
      · obtain ⟨following, -, rfl⟩ := Option.map_eq_some_iff.mp hpost
        exact .following queue _ hpop rfl
      · cases hpost
        exact .popped queue false hpop

/-- Only a write has such a handler. -/
theorem handled_of_completeWrite {operation : AsyncOperation}
    (hcomplete : connection.completeWrite operation error = some next) :
    operation.isWrite = true ∧
      WriteHandled (connection.finishWrite operation error) error next := by
  cases operation with
  | writeHeader buffer => exact ⟨rfl, handled_of_postWriteMessageHeader hcomplete⟩
  | writeBody buffer => exact ⟨rfl, handled_of_postWriteMessageBody hcomplete⟩
  | _ => cases hcomplete

end Writing

end TcpConnection

end ProcessManagerService.Connection
