import ProcessManagerService.Configuration.ServerConfiguration
import ProcessManagerService.Watchdog.SessionRuns
import ProcessManagerService.Worker.ConcurrentProcessing
import ProcessManagerService.Worker.EventManager

/-!
# The process of a service

`main` and the member functions of `Service::Base` that it calls.  The main
thread reads the configuration, makes the worker and the watchdog connection,
starts the threads of the `io_context`, connects to the watchdog and waits for its
response; only then it runs the task, which registers its handlers.  From
`joinAll` on five other threads run the completion handlers in between.  The receive
handlers run in the steps of `ProcessingStep`.  A handler of the watchdog connection
is one step here, and so is each statement of the main thread that touches what the
handlers share.
-/

namespace ProcessManagerService.Service

open Communication Connection ReadLoop StreamDecoding Watchdog Worker
open ProcessManagerService.Configuration

/-- `Service::ReturnCodes::RUN_FOREVER`. -/
def runForever : Int32 := 51

/-- `Service::Task`, which every service implements for itself: what `run` hands
to the event manager, and what it returns. -/
structure Task where
  registrations : List ManagerCall
  kind_ne_none : ∀ registration ∈ registrations, registration.kind ≠ none
  returnCode : Int32

/-- What the process uses of the code around it.  The constructor of the task has
set the global service identifier before `main` reads the configuration, and
`configuration` and `sequenceCode` are the values of members that have not been
written yet. -/
structure Environment (TransactionCode : Type*) where
  surroundings : Surroundings TransactionCode
  protobuf : Protobuf
  task : Task
  files : Int32 → ConfigurationReader.ConfigFile
  configuration : ServerConfiguration
  sequenceCode : UInt32

/-- What the main thread does next.  `makeWorker`, `bind` and `makeConnection` are
`initializeSockets`; `connect`, `sendConnectRequest` and `startReading` are
`connectToWatchdog`; `readState` and `setTimerExpiration` are what
`waitForConnectResponse` does when `wait_for` has come back.  The destructor of
`Base` stops the `io_context` in `leave` and joins the threads in `joinStopped`. -/
inductive MainThread where
  | readConfiguration
  | makeWorker
  | bind
  | makeConnection
  | readAll
  | joinAll
  | connect
  | sendConnectRequest
  | startReading
  | readState
  | setTimerExpiration
  | initializeEventManager
  | runServiceTask (registrations : List ManagerCall)
  | joinThreads
  | leave (returnCode : Int32)
  | joinStopped (returnCode : Int32)
  | exited (returnCode : Int32)
  | terminated
  | undefined

namespace MainThread

/-- The process makes no more steps. -/
def isOver : MainThread → Bool
  | exited _ => true
  | terminated => true
  | undefined => true
  | _ => false

/-- An exception or undefined behaviour has ended the process. -/
def isHalted : MainThread → Bool
  | terminated => true
  | undefined => true
  | _ => false

/-- The `io_context` still hands out handlers. -/
def ioContextRuns : MainThread → Bool
  | joinStopped _ => false
  | exited _ => false
  | terminated => false
  | undefined => false
  | _ => true

theorem isOver_of_ioContextRuns {main : MainThread} (hruns : main.ioContextRuns) :
    main.isOver = false := by
  cases main <;> first | rfl | cases hruns

theorem isHalted_of_not_isOver {main : MainThread} (hgoes : main.isOver = false) :
    main.isHalted = false := by
  cases main <;> first | rfl | cases hgoes

end MainThread

/-- There is at most one worker, with the threads of its `io_context`, and it holds the
caches of `Base`, to which it has references.  The watchdog connection comes with a
record of the messages that it has handled.  `eventManager` says that the static
pointer is not null. -/
structure Process (TransactionCode : Type*) where
  main : MainThread
  configuration : ServerConfiguration
  pool : Option (ProcessingPool TransactionCode)
  watchdogConnection : Option (Recorded Operation WatchdogConnection)
  eventManager : Bool

/-- `advance` is a step of the main thread, with a choice of the environment: whether
a call that may fail succeeds.  A datagram completes a receive with `arrive`, and
`work` is a step of a thread for its receive handler.  A receive that completes with
an error and the operations of the watchdog connection have handlers of one step. -/
inductive ProcessEvent where
  | advance (succeeds : Bool)
  | arrive (datagram : List Byte) (endpoint : Endpoint)
  | receiveError
  | work (thread : ℕ)
  | watchdog (event : ConnectionEvent Operation)

namespace Process

/-- The event manager has references to the caches. -/
def register (worker : ContextWorker) (call : ManagerCall) : ContextWorker :=
  let manager := (EventManager.perform
    ⟨worker.messageEventsCache, worker.subscriptionEventsCache⟩ call).2
  { worker with
    messageEventsCache := manager.messageEventsCache
    subscriptionEventsCache := manager.subscriptionEventsCache }

/-- A registration goes through the static pointer only if the handler is not
null. -/
def dereferences (registration : ManagerCall) : Bool :=
  registration.registers .message || registration.registers .subscription

section Steps

variable {TransactionCode : Type*}

/-- The threads of the `io_context`.  On them `run` does not return before the
`io_context` is stopped, because the worker holds a work guard. -/
def threads (process : Process TransactionCode) : List (ProcessingStep TransactionCode) :=
  process.pool.elim [] ProcessingPool.threads

/-- A thread of the `io_context` is free for the next handler. -/
def takesHandler (process : Process TransactionCode) : Bool :=
  process.main.ioContextRuns && process.threads.any ProcessingStep.isIdle

def updateWorker (process : Process TransactionCode) (update : ContextWorker → ContextWorker) :
    Process TransactionCode :=
  { process with pool := process.pool.map fun pool => { pool with
      logged.shared.worker := update pool.logged.shared.worker } }

/-- No thread goes on: an exception has left its function, or the behaviour is
undefined.  What has been done before stays done. -/
def halt (process : Process TransactionCode) (main : MainThread) : Process TransactionCode :=
  { process with main }

/-- A function that is called on the watchdog connection, and what the main thread
does after it. -/
def onConnection (process : Process TransactionCode) (next : MainThread)
    (member : Recorded Operation WatchdogConnection →
      Outcome ErrorCode (Recorded Operation WatchdogConnection)) : Process TransactionCode :=
  match process.watchdogConnection with
  | none => process.halt .undefined
  | some object =>
      match member object with
      | .returned object => { process with main := next, watchdogConnection := some object }
      | .thrown _ object => halt { process with watchdogConnection := some object } .terminated
      | .undefined object => halt { process with watchdogConnection := some object } .undefined

/-- The registration that the next step of the main thread performs. -/
def registration (process : Process TransactionCode) : Option ManagerCall :=
  match process.main with
  | .runServiceTask (registration :: _) =>
      if process.eventManager || !dereferences registration then some registration else none
  | _ => none

variable [OfNat TransactionCode 19] [HeaderLayout Operation]
  (environment : Environment TransactionCode)

def start : Process TransactionCode :=
  ⟨.readConfiguration, environment.configuration, none, none, false⟩

def advance (process : Process TransactionCode) (succeeds : Bool) :
    Option (Process TransactionCode) :=
  match process.main with
  | .readConfiguration =>
      match ConfigurationReader.readConfiguration environment.files
          environment.surroundings.serviceIdentifier process.configuration with
      | none => some (process.halt .undefined)
      | some (read, configuration) => some { process with
          main := if read then .makeWorker else .leave (-1)
          configuration }
  | .makeWorker => some { process with main := if succeeds then .bind else .readAll }
  | .bind =>
      -- an exception of the socket is caught in the constructor, before the buffer grows
      let worker := ContextWorker.create ⟨[]⟩ ⟨[]⟩
      some { process with
        main := .makeConnection
        pool := some ⟨⟨⟨if succeeds then worker else { worker with messageBuffer := [] },
          [], []⟩, []⟩, []⟩ }
  | .makeConnection => some { process with
      main := .readAll
      watchdogConnection := if succeeds then
          some (WatchdogConnection.create environment.sequenceCode, [])
        else none }
  | .readAll => some { process.updateWorker ContextWorker.startRead with main := .joinAll }
  | .joinAll => some { process with
      main := .connect
      pool := process.pool.map fun pool => { pool with
        threads := List.replicate 5 (.receiving .idle) } }
  | .connect => some (process.onConnection
      (if succeeds then .sendConnectRequest else .leave 0) fun object =>
        .returned ((recorder environment.protobuf).update object fun connection =>
          (connection.connect succeeds).2))
  | .sendConnectRequest => some (process.onConnection .startReading fun object =>
      (object.1.sendConnectRequest environment.protobuf
        environment.surroundings.serviceIdentifier).map fun sent => (sent, object.2))
  | .startReading => some (process.onConnection .readState fun object =>
      .returned ((recorder environment.protobuf).update object TcpConnection.startReading))
  | .readState =>
      match process.watchdogConnection with
      | none => some (process.halt .undefined)
      | some object => some { process with
          main := if object.1.session.connectionState = .connected then .setTimerExpiration
            else .leave 0 }
  | .setTimerExpiration => some (process.onConnection .initializeEventManager fun object =>
      .returned ((recorder environment.protobuf).update object fun connection =>
        connection.setTimerExpiration 1000))
  | .initializeEventManager => some { process with
      main := .runServiceTask environment.task.registrations
      eventManager := succeeds }
  | .runServiceTask (registration :: registrations) =>
      if process.eventManager || !dereferences registration then
        some { process.updateWorker fun worker => register worker registration with
          main := .runServiceTask registrations }
      else some (process.halt .undefined)
  | .runServiceTask [] => some { process with
      main := if environment.task.returnCode = runForever then .joinThreads
        else .leave environment.task.returnCode }
  | .joinThreads =>
      if process.threads.isEmpty then
        some { process with main := .leave environment.task.returnCode }
      else none
  | .leave returnCode => some { process with main := .joinStopped returnCode }
  | .joinStopped returnCode =>
      if process.threads.all ProcessingStep.isIdle then
        some { process with main := .exited returnCode }
      else none
  | .exited _ => none
  | .terminated => none
  | .undefined => none

/-- A datagram completes an outstanding receive, with as much of it as fits into the
buffer. -/
def arrive (process : Process TransactionCode) (datagram : List Byte) (endpoint : Endpoint) :
    Option (Process TransactionCode) :=
  if process.main.ioContextRuns then
    process.pool.bind fun pool =>
      (poolStep environment.surroundings pool (.arrive
        (datagram.take pool.logged.shared.worker.messageBuffer.length) endpoint)).map fun next =>
          { process with pool := some next }
  else none

/-- A receive that completes with an error, on a free thread. -/
def receiveError (process : Process TransactionCode) : Option (Process TransactionCode) :=
  process.pool.bind fun pool =>
    if process.takesHandler ∧ 0 < pool.logged.shared.worker.receives then
      some (process.updateWorker fun worker => (complete environment.surroundings worker
        .error).state)
    else none

/-- A step of a thread for its receive handler.  A stopped `io_context` hands out no
other one. -/
def work (process : Process TransactionCode) (thread : ℕ) : Option (Process TransactionCode) :=
  process.pool.bind fun pool => pool.threads[thread]?.bind fun step =>
    if process.main.ioContextRuns || (!process.main.isOver && !step.isIdle) then
      (step.perform environment.surroundings pool.logged).map fun next => { process with
        main := match next.2 with
          | .failed _ (some _) => .terminated
          | .failed _ none => .undefined
          | _ => process.main
        pool := some ⟨next.1, pool.threads.set thread next.2⟩ }
    else none

/-- A completed operation of the watchdog connection with its handler. -/
def completion (object : Recorded Operation WatchdogConnection) :
    ConnectionEvent Operation →
      Option (Outcome ErrorCode (Recorded Operation WatchdogConnection))
  | .arrive segment => some (.returned ((recorder environment.protobuf).update object
      fun connection => ReadLoop.arrive connection segment))
  | .completeRead operation error =>
      if Readable object.1.base operation error then
        some (completeRead (recorder environment.protobuf) object operation error)
      else none
  | .completeWrite operation error =>
      if operation ∈ object.1.base.pending then
        some ((recorder environment.protobuf).call object fun connection =>
          connection.completeWrite operation error)
      else none
  | .completeWait millisec aborted =>
      if .timerWait millisec aborted ∈ object.1.base.pending then
        some (completeWait (recorder environment.protobuf) object millisec aborted)
      else none
  | .sendMessage _ => none
  | .setTimerExpiration _ => none
  | .disconnect => none
  | .closeSocket => none

def watchdog (process : Process TransactionCode) (event : ConnectionEvent Operation) :
    Option (Process TransactionCode) :=
  process.watchdogConnection.bind fun object =>
    if process.takesHandler then
      (completion environment object event).map fun outcome =>
        process.onConnection process.main fun _ => outcome
    else none

def step (process : Process TransactionCode) : ProcessEvent → Option (Process TransactionCode)
  | .advance succeeds => process.advance environment succeeds
  | .arrive datagram endpoint => process.arrive environment datagram endpoint
  | .receiveError => process.receiveError environment
  | .work thread => process.work environment thread
  | .watchdog event => process.watchdog environment event

end Steps

end Process

end ProcessManagerService.Service
