import ProcessManagerService.Service.History

/-!
# Starting a service

The threads of the `io_context` run before the watchdog has answered, and the main
thread looks at the connection state only once.  Still a service starts in order,
serves no module before it is accepted, and exits for one of three reasons.
-/

namespace ProcessManagerService.Service

open Communication Connection PartialRuns ReadLoop StreamDecoding TimerFrame
open ProcessManagerService.Configuration
open Watchdog Worker

section StartUp

variable {TransactionCode : Type*}

/-- Until the watchdog has accepted the service, nothing is registered and nothing
is sent to modules, and the first message to the watchdog is the connect request. -/
structure Orderly (environment : Environment TransactionCode)
    (process : Process TransactionCode) : Prop where
  served : WorkerIs Idle process ∨ ConnectionIs (Accepted environment) process
  asked : ∀ object, process.watchdogConnection = some object →
    ∀ message, object.1.base.messagesQueue.pushed.head? = some message →
      message = connectRequest environment

variable [OfNat TransactionCode 19] [HeaderLayout Operation]
  {environment : Environment TransactionCode} {process next : Process TransactionCode}

/-- Why `main` returns a code. -/
inductive Ended (environment : Environment TransactionCode) (events : List ProcessEvent)
    (process : Process TransactionCode) (returnCode : Int32) : Prop where
  | unread (hcode : returnCode = -1)
      (hread : ∃ configuration, ConfigurationReader.readConfiguration environment.files
        environment.surroundings.serviceIdentifier environment.configuration =
          some (false, configuration))
      (hpool : process.pool = none) (hconnection : process.watchdogConnection = none)
  | refused (hcode : returnCode = 0) (hlooked : LookedInVain environment events)
      (hworker : WorkerIs Idle process)
      (hconnection : ConnectionIs (Fresh environment) process ∨
        ConnectionIs (Introduced environment) process)
  | finished (hcode : returnCode = environment.task.returnCode)
      (hleaves : returnCode ≠ runForever)
      (hworker : WorkerIs (Registered environment.task.registrations) process)
      (hconnection : ConnectionIs (Accepted environment) process)

/-- A worker that has registered nothing is idle. -/
theorem Employs.idle {events : List ProcessEvent} {errands : List (Errand TransactionCode)}
    (hemploys : Employs environment events errands process)
    (hnone : errands.filterMap Errand.registered = []) : WorkerIs Idle process :=
  fun pool hpool => idle_of_serving (hemploys.pooled pool hpool).serving hnone

theorem Employs.registered {events : List ProcessEvent} {errands : List (Errand TransactionCode)}
    (hemploys : Employs environment events errands process)
    (hall : errands.filterMap Errand.registered = environment.task.registrations) :
    WorkerIs (Registered environment.task.registrations) process := by
  intro pool hpool
  have hkind : ∀ registration ∈ errands.filterMap Errand.registered,
      registration.kind ≠ none := by
    rw [hall]
    exact environment.task.kind_ne_none
  rw [← hall]
  exact registered_of_accounted (hemploys.pooled pool hpool).serving.accounted hkind

/-- In every run of a service, whatever the environment does and however the
handlers and the main thread interleave: as long as the watchdog has not accepted
the service, no handler is registered, no module is subscribed and nothing is
sent to a module, and what the watchdog is sent begins with the connect request. -/
theorem orderly_of_run (environment : Environment TransactionCode)
    (events : List ProcessEvent) :
    EveryState (Process.step environment) (Orderly environment) (.start environment)
      events := by
  apply everyState_of_run
  intro before process hrun
  obtain ⟨errands, hemploys⟩ := exists_employs hrun
  have hguarded := hemploys.phase.guarded
  exact ⟨hguarded.accepted.imp_left hemploys.idle, hguarded.asked⟩

/-- A service whose process exits has not been able to read its configuration, or was
not accepted when the main thread looked, or has run a task that does not ask to run
forever: then the events of its worker are those that the task has registered. -/
theorem ended_of_run {events : List ProcessEvent} {finish : Process TransactionCode}
    {returnCode : Int32}
    (hrun : run (Process.step environment) (.start environment) events = some finish)
    (hexited : finish.main = .exited returnCode) :
    Ended environment events finish returnCode := by
  obtain ⟨errands, hemploys⟩ := exists_employs hrun
  have hphase := hemploys.phase
  rw [hexited] at hphase
  cases hphase with
  | unread hcode hread hnone hunmade =>
      exact .unread hcode hread hunmade.pool hunmade.watchdogConnection
  | refused hcode hlooked hnone hconnection =>
      exact .refused hcode hlooked (hemploys.idle hnone) hconnection
  | finished hcode hleaves hall hconnection =>
      exact .finished hcode hleaves (hemploys.registered hall) hconnection

end StartUp

/-- The task registers a handler. -/
def Welcome.handling (returnCode : Int32) : Task :=
  ⟨[.registerNewEventHandler 1 (some ⟨none⟩)], by decide, returnCode⟩

/-- The task returns `LEAVE`. -/
theorem ended_of_leave :
    letI := Operation.layout
    let events := Welcome.untilAccepted ++ List.replicate 7 (.advance true)
    let environment := Welcome.environment (Welcome.handling 52)
    ∃ finish, run (Process.step environment) (.start environment) events = some finish ∧
      finish.main = .exited 52 ∧ Ended environment events finish 52 := by
  let layout := Operation.layout
  intro events environment
  obtain ⟨finish, hrun, hexited⟩ : ∃ finish,
      run (Process.step environment) (.start environment) events = some finish ∧
        finish.main = .exited 52 := ⟨_, rfl, rfl⟩
  exact ⟨finish, hrun, hexited, ended_of_run hrun hexited⟩

end ProcessManagerService.Service
