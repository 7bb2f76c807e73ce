import ProcessManagerService.Service.Parts

/-!
# The phases of a service

The main thread takes a service through phases, one for each of its steps.  Here
is what holds of the watchdog connection, of the threads and of the registrations in
each of them, and that neither the main thread nor the handlers that run in between
leave them otherwise than in order.
-/

namespace ProcessManagerService.Service

open Communication Connection PartialRuns ReadLoop StreamDecoding TimerFrame
open ProcessManagerService.Configuration
open Watchdog Worker

variable {TransactionCode : Type*}

/-! ## The phases of the main thread -/

/-- The law holds of the worker, if there is one. -/
def WorkerIs (law : ContextWorker → Prop) (process : Process TransactionCode) : Prop :=
  ∀ pool, process.pool = some pool → law pool.logged.shared.worker

/-- There is a watchdog connection, of which the law holds. -/
def ConnectionIs (law : Recorded Operation WatchdogConnection → Prop)
    (process : Process TransactionCode) : Prop :=
  ∃ object, process.watchdogConnection = some object ∧ law object

/-- Nothing has been made yet. -/
structure Unmade (process : Process TransactionCode) : Prop where
  pool : process.pool = none
  watchdogConnection : process.watchdogConnection = none

/-- There are neither threads nor a receive. -/
structure Unstarted (pool : ProcessingPool TransactionCode) : Prop where
  threads : pool.threads = []
  receives : pool.logged.shared.worker.receives = 0
  completions : pool.logged.shared.completions = []

section Phases

variable (environment : Environment TransactionCode)

/-- The registrations have begun only for an accepted service, and the first message to
the watchdog is the connect request. -/
structure Guarded (performed : List ManagerCall) (process : Process TransactionCode) : Prop where
  begins : performed <+: environment.task.registrations
  accepted : performed = [] ∨ ConnectionIs (Accepted environment) process
  asked : ∀ object, process.watchdogConnection = some object →
    ∀ message, object.1.base.messagesQueue.pushed.head? = some message →
      message = connectRequest environment

/-- Why `main` returns a code, where the main thread may have seen that the service is
not accepted. -/
inductive Leaves (refused : Prop) (performed : List ManagerCall)
    (process : Process TransactionCode) (returnCode : Int32) : Prop where
  | unread (hcode : returnCode = -1)
      (hread : ∃ configuration, ConfigurationReader.readConfiguration environment.files
        environment.surroundings.serviceIdentifier environment.configuration =
          some (false, configuration))
      (hnone : performed = []) (hunmade : Unmade process)
  | refused (hcode : returnCode = 0) (hrefused : refused) (hnone : performed = [])
      (hconnection : ConnectionIs (Fresh environment) process ∨
        ConnectionIs (Introduced environment) process)
  | finished (hcode : returnCode = environment.task.returnCode) (hleaves : returnCode ≠ runForever)
      (hall : performed = environment.task.registrations)
      (hconnection : ConnectionIs (Accepted environment) process)

/-- What holds of the process with these registrations performed, by what the main
thread does next. -/
def Phase (refused : Prop) (performed : List ManagerCall) (process : Process TransactionCode) :
    MainThread → Prop
  | .readConfiguration => performed = [] ∧ Unmade process ∧
      process.configuration = environment.configuration
  | .makeWorker => performed = [] ∧ Unmade process
  | .bind => performed = [] ∧ Unmade process
  | .makeConnection => performed = [] ∧ process.watchdogConnection = none ∧
      ∃ pool, process.pool = some pool ∧ Unstarted pool
  | .readAll => performed = [] ∧ (∀ pool, process.pool = some pool → Unstarted pool) ∧
      (process.watchdogConnection = none ∨
        process.pool.isSome ∧ ConnectionIs (Fresh environment) process)
  | .joinAll => performed = [] ∧ process.threads.length = 0 ∧
      (process.watchdogConnection = none ∨
        process.pool.isSome ∧ ConnectionIs (Fresh environment) process)
  | .connect => performed = [] ∧ (process.watchdogConnection = none ∨
      process.threads.length = 5 ∧ ConnectionIs (Fresh environment) process)
  | .sendConnectRequest => performed = [] ∧ process.threads.length = 5 ∧
      ConnectionIs (Fresh environment) process
  | .startReading => performed = [] ∧ process.threads.length = 5 ∧
      ConnectionIs (Introduced environment) process
  | .readState => performed = [] ∧ process.threads.length = 5 ∧
      ConnectionIs (Introduced environment) process
  | .setTimerExpiration => performed = [] ∧ process.threads.length = 5 ∧
      ConnectionIs (Accepted environment) process
  | .initializeEventManager => performed = [] ∧ process.threads.length = 5 ∧
      ConnectionIs (Accepted environment) process
  | .runServiceTask rest => environment.task.registrations = performed ++ rest ∧
      process.threads.length = 5 ∧ ConnectionIs (Accepted environment) process
  | .joinThreads => environment.task.returnCode = runForever ∧
      performed = environment.task.registrations ∧ process.threads.length = 5 ∧
      ConnectionIs (Accepted environment) process
  | .leave returnCode => Leaves environment refused performed process returnCode
  | .joinStopped returnCode => Leaves environment refused performed process returnCode
  | .exited returnCode => Leaves environment refused performed process returnCode
  | .terminated => Guarded environment performed process
  | .undefined => Guarded environment performed process

variable {environment} {refused later : Prop} {performed : List ManagerCall}
  {process next : Process TransactionCode}

theorem guarded_of_none (hperformed : performed = []) (hnone : process.watchdogConnection = none) :
    Guarded environment performed process := by
  refine ⟨?_, .inl hperformed, ?_⟩
  · rw [hperformed]
    exact List.nil_prefix
  · intro object hobject
    rw [hnone] at hobject
    cases hobject

theorem guarded_of_fresh (hperformed : performed = [])
    (hfresh : ConnectionIs (Fresh environment) process) :
    Guarded environment performed process := by
  refine ⟨?_, .inl hperformed, ?_⟩
  · rw [hperformed]
    exact List.nil_prefix
  · intro object hobject message hhead
    obtain ⟨other, hother, hlaw⟩ := hfresh
    obtain rfl : other = object := Option.some.inj (hother.symm.trans hobject)
    rw [hlaw.pushed] at hhead
    cases hhead

theorem asked_of_introduced (hintroduced : ConnectionIs (Introduced environment) process)
    (object : Recorded Operation WatchdogConnection)
    (hobject : process.watchdogConnection = some object) (message : Message Operation)
    (hhead : object.1.base.messagesQueue.pushed.head? = some message) :
    message = connectRequest environment := by
  obtain ⟨other, hother, hlaw⟩ := hintroduced
  obtain rfl : other = object := Option.some.inj (hother.symm.trans hobject)
  obtain ⟨rest, hfirst⟩ := hlaw.first
  rw [hfirst] at hhead
  exact (Option.some.inj hhead).symm

theorem guarded_of_introduced (hperformed : performed = [])
    (hintroduced : ConnectionIs (Introduced environment) process) :
    Guarded environment performed process := by
  refine ⟨?_, .inl hperformed, asked_of_introduced hintroduced⟩
  rw [hperformed]
  exact List.nil_prefix

theorem guarded_of_accepted (hbegins : performed <+: environment.task.registrations)
    (haccepted : ConnectionIs (Accepted environment) process) :
    Guarded environment performed process := by
  obtain ⟨object, hobject, hlaw⟩ := haccepted
  exact ⟨hbegins, .inr ⟨object, hobject, hlaw⟩,
    asked_of_introduced ⟨object, hobject, hlaw.toIntroduced⟩⟩

theorem Leaves.guarded {returnCode : Int32}
    (hleaves : Leaves environment refused performed process returnCode) :
    Guarded environment performed process := by
  cases hleaves with
  | unread hcode hread hnone hunmade => exact guarded_of_none hnone hunmade.watchdogConnection
  | refused hcode hrefused hnone hconnection =>
      exact hconnection.elim (guarded_of_fresh hnone) (guarded_of_introduced hnone)
  | finished hcode hleaves hall hconnection =>
      apply guarded_of_accepted _ hconnection
      rw [hall]

theorem Phase.guarded {main : MainThread}
    (hphase : Phase environment refused performed process main) :
    Guarded environment performed process := by
  have hmade : performed = [] → (process.watchdogConnection = none ∨
      process.pool.isSome ∧ ConnectionIs (Fresh environment) process) →
        Guarded environment performed process :=
    fun hnone hconnection => hconnection.elim (guarded_of_none hnone)
      fun hfresh => guarded_of_fresh hnone hfresh.2
  have haccepted : performed = [] → ConnectionIs (Accepted environment) process →
      Guarded environment performed process := by
    rintro rfl hconnection
    exact guarded_of_accepted List.nil_prefix hconnection
  cases main with
  | readConfiguration => exact guarded_of_none hphase.1 hphase.2.1.watchdogConnection
  | makeWorker => exact guarded_of_none hphase.1 hphase.2.watchdogConnection
  | bind => exact guarded_of_none hphase.1 hphase.2.watchdogConnection
  | makeConnection => exact guarded_of_none hphase.1 hphase.2.1
  | readAll => exact hmade hphase.1 hphase.2.2
  | joinAll => exact hmade hphase.1 hphase.2.2
  | connect =>
      exact hphase.2.elim (guarded_of_none hphase.1)
        fun hfresh => guarded_of_fresh hphase.1 hfresh.2
  | sendConnectRequest => exact guarded_of_fresh hphase.1 hphase.2.2
  | startReading => exact guarded_of_introduced hphase.1 hphase.2.2
  | readState => exact guarded_of_introduced hphase.1 hphase.2.2
  | setTimerExpiration => exact haccepted hphase.1 hphase.2.2
  | initializeEventManager => exact haccepted hphase.1 hphase.2.2
  | runServiceTask rest => exact guarded_of_accepted ⟨rest, hphase.1.symm⟩ hphase.2.2
  | joinThreads =>
      apply guarded_of_accepted _ hphase.2.2.2
      rw [hphase.2.1]
  | leave returnCode => exact Leaves.guarded hphase
  | joinStopped returnCode => exact Leaves.guarded hphase
  | exited returnCode => exact Leaves.guarded hphase
  | terminated => exact hphase
  | undefined => exact hphase

/-! ## Handlers in between -/

/-- A law of the connection that completing keeps. -/
theorem ConnectionIs.completed {law : Recorded Operation WatchdogConnection → Prop}
    {object after : Recorded Operation WatchdogConnection}
    (hlaw : ConnectionIs law process) (hobject : process.watchdogConnection = some object)
    (hkeeps : law object → law after) :
    ConnectionIs law { process with watchdogConnection := some after } := by
  obtain ⟨other, hother, hbefore⟩ := hlaw
  obtain rfl : object = other := Option.some.inj (hobject.symm.trans hother)
  exact ⟨after, rfl, hkeeps hbefore⟩

theorem Leaves.goOn {returnCode : Int32}
    (hleaves : Leaves environment refused performed process returnCode)
    (hmono : refused → later) (main : MainThread) :
    Leaves environment later performed { process with main } returnCode := by
  cases hleaves with
  | unread hcode hread hnone hunmade =>
      exact .unread hcode hread hnone ⟨hunmade.pool, hunmade.watchdogConnection⟩
  | refused hcode hrefused hnone hconnection =>
      exact .refused hcode (hmono hrefused) hnone hconnection
  | finished hcode hleaves hall hconnection => exact .finished hcode hleaves hall hconnection

theorem Phase.mono {main : MainThread}
    (hphase : Phase environment refused performed process main) (hmono : refused → later) :
    Phase environment later performed process main := by
  cases main with
  | leave returnCode => exact Leaves.goOn hphase hmono process.main
  | joinStopped returnCode => exact Leaves.goOn hphase hmono process.main
  | exited returnCode => exact Leaves.goOn hphase hmono process.main
  | _ => exact hphase

/-- A pool that has been started may change in between. -/
theorem Phase.pooled {main : MainThread} {pool after : ProcessingPool TransactionCode}
    (hphase : Phase environment refused performed process main)
    (hpool : process.pool = some pool) (hstarted : ¬ Unstarted pool)
    (hthreads : after.threads.length = pool.threads.length) :
    Phase environment refused performed { process with pool := some after } main := by
  have hlength : ∀ count, process.threads.length = count →
      (Process.threads { process with pool := some after }).length = count := by
    intro count hcount
    rw [Process.threads, hpool] at hcount
    exact hthreads.trans hcount
  have hleaves : ∀ returnCode, Leaves environment refused performed process returnCode →
      Leaves environment refused performed { process with pool := some after } returnCode := by
    intro returnCode hleaves
    cases hleaves with
    | unread hcode hread hnone hunmade =>
        have hnothing := hunmade.pool
        rw [hpool] at hnothing
        cases hnothing
    | refused hcode hrefused hnone hconnection =>
        exact .refused hcode hrefused hnone hconnection
    | finished hcode hleaves hall hconnection => exact .finished hcode hleaves hall hconnection
  have hmade : ¬ Unmade process := by
    intro hunmade
    have hnothing := hunmade.pool
    rw [hpool] at hnothing
    cases hnothing
  cases main with
  | readConfiguration => exact absurd hphase.2.1 hmade
  | makeWorker => exact absurd hphase.2 hmade
  | bind => exact absurd hphase.2 hmade
  | makeConnection =>
      obtain ⟨-, -, other, hother, hunstarted⟩ := hphase
      obtain rfl : other = pool := Option.some.inj (hother.symm.trans hpool)
      exact absurd hunstarted hstarted
  | readAll => exact absurd (hphase.2.1 pool hpool) hstarted
  | joinAll =>
      exact ⟨hphase.1, hlength 0 hphase.2.1, hphase.2.2.imp_right fun hfresh => ⟨rfl, hfresh.2⟩⟩
  | connect =>
      exact ⟨hphase.1, hphase.2.imp_right fun hfresh => ⟨hlength 5 hfresh.1, hfresh.2⟩⟩
  | sendConnectRequest => exact ⟨hphase.1, hlength 5 hphase.2.1, hphase.2.2⟩
  | startReading => exact ⟨hphase.1, hlength 5 hphase.2.1, hphase.2.2⟩
  | readState => exact ⟨hphase.1, hlength 5 hphase.2.1, hphase.2.2⟩
  | setTimerExpiration => exact ⟨hphase.1, hlength 5 hphase.2.1, hphase.2.2⟩
  | initializeEventManager => exact ⟨hphase.1, hlength 5 hphase.2.1, hphase.2.2⟩
  | runServiceTask rest => exact ⟨hphase.1, hlength 5 hphase.2.1, hphase.2.2⟩
  | joinThreads => exact ⟨hphase.1, hphase.2.1, hlength 5 hphase.2.2.1, hphase.2.2.2⟩
  | leave returnCode => exact hleaves returnCode hphase
  | joinStopped returnCode => exact hleaves returnCode hphase
  | exited returnCode => exact hleaves returnCode hphase
  | terminated => exact ⟨hphase.begins, hphase.accepted, hphase.asked⟩
  | undefined => exact ⟨hphase.begins, hphase.accepted, hphase.asked⟩

theorem Phase.halt {main : MainThread}
    (hphase : Phase environment refused performed process main) {last : MainThread}
    (hhalted : last.isHalted) :
    Phase environment refused performed (process.halt last) last := by
  obtain ⟨hbegins, haccepted, hasked⟩ := hphase.guarded
  cases last with
  | terminated => exact ⟨hbegins, haccepted, hasked⟩
  | undefined => exact ⟨hbegins, haccepted, hasked⟩
  | _ => cases hhalted

variable [HeaderLayout Operation]

theorem Phase.completed {main : MainThread} {event : ConnectionEvent Operation}
    {object : Recorded Operation WatchdogConnection}
    {outcome : Outcome ErrorCode (Recorded Operation WatchdogConnection)}
    (hphase : Phase environment refused performed process main) (hruns : main.ioContextRuns)
    (hobject : process.watchdogConnection = some object)
    (hcompletion : Process.completion environment object event = some outcome) :
    Phase environment refused performed
      { process with watchdogConnection := some outcome.state } main := by
  let after := outcome.state
  have hfresh : ConnectionIs (Fresh environment) process →
      ConnectionIs (Fresh environment) { process with watchdogConnection := some after } :=
    fun hlaw => hlaw.completed hobject fun hbefore => hbefore.completion hcompletion
  have hintroduced : ConnectionIs (Introduced environment) process →
      ConnectionIs (Introduced environment) { process with watchdogConnection := some after } :=
    fun hlaw => hlaw.completed hobject fun hbefore => hbefore.completion hcompletion
  have haccepted : ConnectionIs (Accepted environment) process →
      ConnectionIs (Accepted environment) { process with watchdogConnection := some after } :=
    fun hlaw => hlaw.completed hobject fun hbefore => hbefore.completion hcompletion
  have hmade : process.watchdogConnection ≠ none := by
    rw [hobject]
    exact Option.some_ne_none object
  have hleaves : ∀ returnCode, Leaves environment refused performed process returnCode →
      Leaves environment refused performed { process with watchdogConnection := some after }
        returnCode := by
    intro returnCode hleaves
    cases hleaves with
    | unread hcode hread hnone hunmade => exact absurd hunmade.watchdogConnection hmade
    | refused hcode hrefused hnone hconnection =>
        exact .refused hcode hrefused hnone (hconnection.imp hfresh hintroduced)
    | finished hcode hleaves hall hconnection =>
        exact .finished hcode hleaves hall (haccepted hconnection)
  cases main with
  | readConfiguration => exact absurd hphase.2.1.watchdogConnection hmade
  | makeWorker => exact absurd hphase.2.watchdogConnection hmade
  | bind => exact absurd hphase.2.watchdogConnection hmade
  | makeConnection => exact absurd hphase.2.1 hmade
  | readAll =>
      obtain ⟨hnone, hpool, hconnection⟩ := hphase
      exact ⟨hnone, hpool, .inr ((hconnection.resolve_left hmade).imp_right hfresh)⟩
  | joinAll =>
      obtain ⟨hnone, hthreads, hconnection⟩ := hphase
      exact ⟨hnone, hthreads, .inr ((hconnection.resolve_left hmade).imp_right hfresh)⟩
  | connect =>
      obtain ⟨hnone, hconnection⟩ := hphase
      exact ⟨hnone, .inr ((hconnection.resolve_left hmade).imp_right hfresh)⟩
  | sendConnectRequest => exact ⟨hphase.1, hphase.2.1, hfresh hphase.2.2⟩
  | startReading => exact ⟨hphase.1, hphase.2.1, hintroduced hphase.2.2⟩
  | readState => exact ⟨hphase.1, hphase.2.1, hintroduced hphase.2.2⟩
  | setTimerExpiration => exact ⟨hphase.1, hphase.2.1, haccepted hphase.2.2⟩
  | initializeEventManager => exact ⟨hphase.1, hphase.2.1, haccepted hphase.2.2⟩
  | runServiceTask rest => exact ⟨hphase.1, hphase.2.1, haccepted hphase.2.2⟩
  | joinThreads => exact ⟨hphase.1, hphase.2.1, hphase.2.2.1, haccepted hphase.2.2.2⟩
  | leave returnCode => exact hleaves returnCode hphase
  | _ => cases hruns

variable [OfNat TransactionCode 19]

/-- The inversion lemma of the handlers: what happens on the threads of the
`io_context`, where a thread may halt the process. -/
inductive Handled (environment : Environment TransactionCode) (process : Process TransactionCode) :
    ProcessEvent → Process TransactionCode → Prop where
  | arrived (datagram : List Byte) (endpoint : Endpoint)
      {pool after : ProcessingPool TransactionCode}
      (hpool : process.pool = some pool)
      (hstep : poolStep environment.surroundings pool (.arrive
        (datagram.take pool.logged.shared.worker.messageBuffer.length) endpoint) = some after) :
      Handled environment process (.arrive datagram endpoint) { process with pool := some after }
  | worked (thread : ℕ) {pool after : ProcessingPool TransactionCode} {main : MainThread}
      (hpool : process.pool = some pool)
      (hstep : poolStep environment.surroundings pool (.advance thread) = some after)
      (hmain : main = process.main ∨ main.isHalted)
      (hfailed : ∀ ticket error, after.threads[thread]? = some (.failed ticket error) →
        main.isHalted) :
      Handled environment process (.work thread) { process with main, pool := some after }
  | erred {pool : ProcessingPool TransactionCode} (hpool : process.pool = some pool)
      (hreceives : 0 < pool.logged.shared.worker.receives) :
      Handled environment process .receiveError { process with pool := some { pool with
        logged.shared.worker.receives := pool.logged.shared.worker.receives - 1 } }
  | watched (event : ConnectionEvent Operation)
      {object : Recorded Operation WatchdogConnection} {main : MainThread}
      {outcome : Outcome ErrorCode (Recorded Operation WatchdogConnection)}
      (hruns : process.main.ioContextRuns) (hobject : process.watchdogConnection = some object)
      (hcompletion : Process.completion environment object event = some outcome)
      (hmain : main = process.main ∨ main.isHalted) :
      Handled environment process (.watchdog event)
        { process with main, watchdogConnection := some outcome.state }

/-- A step is one of the main thread or of a handler. -/
theorem advanced_or_handled {event : ProcessEvent}
    (hstep : process.step environment event = some next) :
    (∃ succeeds, event = .advance succeeds ∧
        process.advance environment succeeds = some next) ∨
      process.main.isOver = false ∧ Handled environment process event next := by
  cases event with
  | advance succeeds => exact .inl ⟨succeeds, rfl, hstep⟩
  | arrive datagram endpoint =>
      right
      obtain ⟨hruns, harrived⟩ := Option.ite_none_right_eq_some.mp hstep
      obtain ⟨pool, hpool, hafter⟩ := Option.bind_eq_some_iff.mp harrived
      obtain ⟨after, hpoolStep, rfl⟩ := Option.map_eq_some_iff.mp hafter
      exact ⟨MainThread.isOver_of_ioContextRuns hruns, .arrived datagram endpoint hpool hpoolStep⟩
  | receiveError =>
      right
      obtain ⟨pool, hpool, herred⟩ := Option.bind_eq_some_iff.mp hstep
      obtain ⟨⟨htakes, hreceives⟩, herred⟩ := Option.ite_none_right_eq_some.mp herred
      cases herred
      rw [Process.updateWorker, hpool]
      exact ⟨MainThread.isOver_of_ioContextRuns (Bool.and_eq_true_iff.mp htakes).1,
        .erred hpool hreceives⟩
  | work thread =>
      right
      obtain ⟨pool, hpool, hworked⟩ := Option.bind_eq_some_iff.mp hstep
      obtain ⟨step, hthread, hworked⟩ := Option.bind_eq_some_iff.mp hworked
      obtain ⟨hruns, hworked⟩ := Option.ite_none_right_eq_some.mp hworked
      obtain ⟨after, hperform, rfl⟩ := Option.map_eq_some_iff.mp hworked
      constructor
      · rcases Bool.or_eq_true_iff.mp hruns with hruns | hover
        · exact MainThread.isOver_of_ioContextRuns hruns
        · exact Bool.not_eq_true' _ |>.mp (Bool.and_eq_true_iff.mp hover).1
      · apply Handled.worked thread hpool
        · rw [poolStep, hthread, Option.bind_some, hperform]
          rfl
        · split
          · exact .inr rfl
          · exact .inr rfl
          · exact .inl rfl
        · intro ticket error hfailed
          have hlast := (getElem?_set_of_some hthread after.2).symm.trans hfailed
          rw [Option.some.inj hlast]
          cases error <;> rfl
  | watchdog event =>
      right
      obtain ⟨object, hobject, hcompleted⟩ := Option.bind_eq_some_iff.mp hstep
      obtain ⟨htakes, hcompleted⟩ := Option.ite_none_right_eq_some.mp hcompleted
      obtain ⟨outcome, hcompletion, rfl⟩ := Option.map_eq_some_iff.mp hcompleted
      have hruns := (Bool.and_eq_true_iff.mp htakes).1
      apply And.intro (MainThread.isOver_of_ioContextRuns hruns)
      rw [Process.onConnection, hobject]
      have hwatched : ∀ main, main = process.main ∨ main.isHalted →
          Handled environment process (.watchdog event)
            { process with main, watchdogConnection := some outcome.state } :=
        fun main hmain => .watched event hruns hobject hcompletion hmain
      cases outcome with
      | returned after => exact hwatched _ (.inl rfl)
      | thrown error after => exact hwatched _ (.inr rfl)
      | undefined after => exact hwatched _ (.inr rfl)

omit [HeaderLayout Operation] in
/-- Where something happens in the pool, it has been started. -/
theorem not_unstarted_of_poolStep {pool after : ProcessingPool TransactionCode}
    {happening : Happening} {surroundings : Surroundings TransactionCode}
    (hstep : poolStep surroundings pool happening = some after) : ¬ Unstarted pool := by
  intro hunstarted
  cases happening with
  | arrive datagram endpoint =>
      obtain ⟨shared, harrive, -⟩ := Option.map_eq_some_iff.mp hstep
      obtain ⟨⟨hreceives, -⟩, -⟩ := Option.ite_none_right_eq_some.mp harrive
      exact absurd hunstarted.receives hreceives.ne'
  | advance thread =>
      rw [poolStep, hunstarted.threads] at hstep
      cases hstep

/-- Whatever a handler does, the process stays in its phase or comes to an end. -/
theorem Phase.handled {event : ProcessEvent}
    (hphase : Phase environment refused performed process process.main)
    (hhandled : Handled environment process event next) :
    Phase environment refused performed next next.main := by
  cases hhandled with
  | arrived datagram endpoint hpool hstep =>
      exact hphase.pooled hpool (not_unstarted_of_poolStep hstep) (length_threads_poolStep hstep)
  | worked thread hpool hstep hmain hfailed =>
      have hpooled := hphase.pooled hpool (not_unstarted_of_poolStep hstep)
        (length_threads_poolStep hstep)
      rcases hmain with rfl | hhalted
      · exact hpooled
      · exact hpooled.halt hhalted
  | erred hpool hreceives =>
      exact hphase.pooled hpool (fun hunstarted => absurd hunstarted.receives hreceives.ne') rfl
  | watched event hruns hobject hcompletion hmain =>
      have hcompleted := hphase.completed hruns hobject hcompletion
      rcases hmain with rfl | hhalted
      · exact hcompleted
      · exact hcompleted.halt hhalted

/-! ## The main thread -/

omit [HeaderLayout Operation] [OfNat TransactionCode 19] in
/-- A function of the watchdog connection returns, or the process comes to an end.  A
function that does not return has done nothing. -/
theorem Guarded.onConnection (hguarded : Guarded environment performed process)
    {main : MainThread}
    {member : Recorded Operation WatchdogConnection →
      Outcome ErrorCode (Recorded Operation WatchdogConnection)}
    (hkeeps : ∀ object, (∃ after, member object = .returned after) ∨
      (member object).state = object)
    (hreturned : ∀ object after, process.watchdogConnection = some object →
      member object = .returned after → Phase environment refused performed
        { process with main, watchdogConnection := some after } main) :
    Phase environment refused performed (process.onConnection main member)
      (process.onConnection main member).main := by
  obtain ⟨hbegins, haccepted, hasked⟩ := hguarded
  rw [Process.onConnection]
  cases hobject : process.watchdogConnection with
  | none => exact ⟨hbegins, haccepted, hasked⟩
  | some object =>
      have hkept := hkeeps object
      have hend : ∀ after last, after = object → Guarded environment performed
          { process with main := last, watchdogConnection := some after } := by
        rintro after last rfl
        rw [← hobject]
        exact ⟨hbegins, haccepted, hasked⟩
      dsimp only
      cases houtcome : member object with
      | returned after => exact hreturned object after hobject houtcome
      | thrown error after =>
          rw [houtcome] at hkept
          exact hend _ _ (hkept.resolve_left fun ⟨_, hreturns⟩ => by cases hreturns)
      | undefined after =>
          rw [houtcome] at hkept
          exact hend _ _ (hkept.resolve_left fun ⟨_, hreturns⟩ => by cases hreturns)

/-- With its next step the main thread sees that the service is not accepted: it does
not come through to the watchdog, or it finds another state than `Connected`. -/
def SeesRefusal (process : Process TransactionCode) (succeeds : Bool) : Prop :=
  process.main = .connect ∧ succeeds = false ∨
    process.main = .readState ∧
      ConnectionIs (fun object => object.1.session.connectionState ≠ .connected) process

omit [OfNat TransactionCode 19] in
theorem Phase.advance {succeeds : Bool}
    (hphase : Phase environment refused performed process process.main)
    (hadvance : process.advance environment succeeds = some next)
    (hquiet : process.registration = none) (hmono : refused → later)
    (hsees : SeesRefusal process succeeds → later) :
    Phase environment later performed next next.main := by
  have hguarded := hphase.guarded
  rw [Process.advance] at hadvance
  cases hmain : process.main with
  | readConfiguration =>
      rw [hmain] at hphase hadvance
      obtain ⟨hnone, hunmade, hconfiguration⟩ := hphase
      rw [hconfiguration] at hadvance
      dsimp only at hadvance
      split at hadvance
      · cases hadvance
        exact guarded_of_none hnone hunmade.watchdogConnection
      · rename_i read configuration hread
        cases hadvance
        cases read with
        | true => exact ⟨hnone, hunmade.pool, hunmade.watchdogConnection⟩
        | false =>
            exact .unread rfl ⟨configuration, hread⟩ hnone
              ⟨hunmade.pool, hunmade.watchdogConnection⟩
  | makeWorker =>
      rw [hmain] at hphase hadvance
      obtain ⟨hnone, hunmade⟩ := hphase
      cases hadvance
      cases succeeds with
      | true => exact ⟨hnone, hunmade.pool, hunmade.watchdogConnection⟩
      | false =>
          refine ⟨hnone, fun pool hpool => ?_, .inl hunmade.watchdogConnection⟩
          have hnothing := hunmade.pool
          rw [hpool] at hnothing
          cases hnothing
  | bind =>
      rw [hmain] at hphase hadvance
      obtain ⟨hnone, hunmade⟩ := hphase
      cases hadvance
      refine ⟨hnone, hunmade.watchdogConnection, _, rfl, rfl, ?_, rfl⟩
      cases succeeds <;> rfl
  | makeConnection =>
      rw [hmain] at hphase hadvance
      obtain ⟨hnone, hconnection, pool, hpool, hunstarted⟩ := hphase
      cases hadvance
      refine ⟨hnone, ?_, ?_⟩
      · intro other hother
        obtain rfl : pool = other := Option.some.inj (hpool.symm.trans hother)
        exact hunstarted
      · cases succeeds with
        | true =>
            refine .inr ⟨?_, _, rfl, ⟨rfl, rfl, rfl, rfl⟩⟩
            rw [hpool]
            rfl
        | false => exact .inl rfl
  | readAll =>
      rw [hmain] at hphase hadvance
      obtain ⟨hnone, hunstarted, hconnection⟩ := hphase
      cases hadvance
      refine ⟨hnone, ?_, hconnection.imp_right fun hmade => ⟨?_, hmade.2⟩⟩
      · rw [Process.updateWorker, Process.threads]
        cases hpool : process.pool with
        | none => rfl
        | some pool => exact congrArg List.length (hunstarted pool hpool).threads
      · rw [Process.updateWorker, Option.isSome_map]
        exact hmade.1
  | joinAll =>
      rw [hmain] at hphase hadvance
      obtain ⟨hnone, -, hconnection⟩ := hphase
      cases hadvance
      refine ⟨hnone, hconnection.imp_right fun hmade => ⟨?_, hmade.2⟩⟩
      obtain ⟨pool, hpool⟩ := Option.isSome_iff_exists.mp hmade.1
      rw [Process.threads, hpool]
      rfl
  | connect =>
      rw [hmain] at hphase hadvance
      cases hadvance
      apply hguarded.onConnection (fun _ => .inl ⟨_, rfl⟩)
      intro object after hobject hreturned
      cases hreturned
      obtain ⟨hnone, hnothing | ⟨hthreads, other, hother, hfresh⟩⟩ := hphase
      · rw [hnothing] at hobject
        cases hobject
      · obtain rfl : other = object := Option.some.inj (hother.symm.trans hobject)
        obtain ⟨hsession, hlog, hpushed, hpending⟩ := hfresh
        cases succeeds with
        | true => exact ⟨hnone, hthreads, _, rfl, ⟨hsession, hlog, hpushed, hpending⟩⟩
        | false =>
            exact .refused rfl (hsees (.inl ⟨hmain, rfl⟩)) hnone
              (.inl ⟨_, rfl, ⟨hsession, hlog, hpushed, hpending⟩⟩)
  | sendConnectRequest =>
      rw [hmain] at hphase hadvance
      cases hadvance
      apply hguarded.onConnection (fun object => returned_or_kept_of_send object _)
      intro object after hobject hreturned
      obtain ⟨sent, hsent, rfl⟩ := Outcome.map_eq_returned.mp hreturned
      obtain ⟨hnone, hthreads, other, hother, hfresh⟩ := hphase
      obtain rfl : other = object := Option.some.inj (hother.symm.trans hobject)
      exact ⟨hnone, hthreads, _, rfl, hfresh.introduced hsent⟩
  | startReading =>
      rw [hmain] at hphase hadvance
      cases hadvance
      apply hguarded.onConnection (fun _ => .inl ⟨_, rfl⟩)
      intro object after hobject hreturned
      cases hreturned
      obtain ⟨hnone, hthreads, other, hother, hintroduced⟩ := hphase
      obtain rfl : other = object := Option.some.inj (hother.symm.trans hobject)
      have hpushed := (silent_startReadingSequence other.1.base).pushed
      exact ⟨hnone, hthreads, _, rfl, hintroduced.grow (.of_base hpushed)⟩
  | readState =>
      rw [hmain] at hphase hadvance
      obtain ⟨hnone, hthreads, object, hobject, hintroduced⟩ := hphase
      simp only [hobject] at hadvance
      cases hadvance
      split
      · rename_i hconnected
        exact ⟨hnone, hthreads, object, rfl, hintroduced, hconnected⟩
      · rename_i hrefused
        exact .refused rfl (hsees (.inr ⟨hmain, object, hobject, hrefused⟩)) hnone
          (.inr ⟨object, rfl, hintroduced⟩)
  | setTimerExpiration =>
      rw [hmain] at hphase hadvance
      cases hadvance
      apply hguarded.onConnection (fun _ => .inl ⟨_, rfl⟩)
      intro object after hobject hreturned
      cases hreturned
      obtain ⟨hnone, hthreads, other, hother, haccepted⟩ := hphase
      obtain rfl : other = object := Option.some.inj (hother.symm.trans hobject)
      exact ⟨hnone, hthreads, _, rfl, haccepted.grow (.of_base rfl)⟩
  | initializeEventManager =>
      rw [hmain] at hphase hadvance
      cases hadvance
      obtain ⟨rfl, hothers⟩ := hphase
      exact ⟨rfl, hothers⟩
  | runServiceTask rest =>
      rw [hmain] at hphase hadvance
      obtain ⟨hsplit, hthreads, haccepted⟩ := hphase
      cases rest with
      | nil =>
          cases hadvance
          rw [List.append_nil] at hsplit
          dsimp only
          split
          · rename_i hforever
            exact ⟨hforever, hsplit.symm, hthreads, haccepted⟩
          · rename_i hleaves
            exact .finished rfl hleaves hsplit.symm haccepted
      | cons registration rest =>
          simp only [Process.registration, hmain, ite_eq_right_iff, reduceCtorEq,
            imp_false] at hquiet
          dsimp only at hadvance
          rw [if_neg hquiet] at hadvance
          cases hadvance
          exact guarded_of_accepted ⟨_, hsplit.symm⟩ haccepted
  | joinThreads =>
      rw [hmain] at hphase hadvance
      obtain ⟨-, -, hthreads, -⟩ := hphase
      obtain ⟨hnone, -⟩ := Option.ite_none_right_eq_some.mp hadvance
      rw [List.isEmpty_iff.mp hnone] at hthreads
      cases hthreads
  | leave returnCode =>
      rw [hmain] at hphase hadvance
      cases hadvance
      exact Leaves.goOn hphase hmono _
  | joinStopped returnCode =>
      rw [hmain] at hphase hadvance
      obtain ⟨-, hexits⟩ := Option.ite_none_right_eq_some.mp hadvance
      cases hexits
      exact Leaves.goOn hphase hmono _
  | exited returnCode =>
      rw [hmain] at hadvance
      cases hadvance
  | terminated =>
      rw [hmain] at hadvance
      cases hadvance
  | undefined =>
      rw [hmain] at hadvance
      cases hadvance

omit [OfNat TransactionCode 19] in
/-- A registration is performed by the main thread. -/
theorem advance_of_registration {registration : ManagerCall}
    (hregistration : process.registration = some registration) (succeeds : Bool) :
    ∃ rest, process.main = .runServiceTask (registration :: rest) ∧
      process.advance environment succeeds =
        some { process.updateWorker fun worker => Process.register worker registration with
          main := .runServiceTask rest } := by
  rw [Process.registration] at hregistration
  cases hmain : process.main with
  | runServiceTask rest =>
      rw [hmain] at hregistration
      cases rest with
      | nil => cases hregistration
      | cons first rest =>
          obtain ⟨hmanager, hsame⟩ := Option.ite_none_right_eq_some.mp hregistration
          obtain rfl : first = registration := Option.some.inj hsame
          refine ⟨rest, rfl, ?_⟩
          rw [Process.advance, hmain]
          exact if_pos hmanager
  | _ =>
      rw [hmain] at hregistration
      cases hregistration

/-- The registration that an event performs. -/
def Process.performs (process : Process TransactionCode) : ProcessEvent → List ManagerCall
  | .advance _ => process.registration.toList
  | _ => []

/-- Every step of the process leads to the phase of the main thread. -/
theorem Phase.step {event : ProcessEvent}
    (hphase : Phase environment refused performed process process.main)
    (hstep : process.step environment event = some next) (hmono : refused → later)
    (hsees : ∀ succeeds, event = .advance succeeds → SeesRefusal process succeeds → later) :
    Phase environment later (performed ++ process.performs event) next next.main := by
  rcases advanced_or_handled hstep with ⟨succeeds, rfl, hadvance⟩ | ⟨-, hhandled⟩
  · rw [Process.performs]
    cases hregistration : process.registration with
    | none =>
        rw [Option.toList_none, List.append_nil]
        exact hphase.advance hadvance hregistration hmono (hsees succeeds rfl)
    | some registration =>
        obtain ⟨rest, hmain, hregisters⟩ := advance_of_registration hregistration succeeds
        rw [hregisters] at hadvance
        cases hadvance
        rw [hmain] at hphase
        obtain ⟨hsplit, hthreads, haccepted⟩ := hphase
        refine ⟨?_, ?_, haccepted⟩
        · rw [hsplit, List.append_assoc]
          rfl
        · rw [Process.threads] at hthreads ⊢
          rw [Process.updateWorker]
          cases hpool : process.pool with
          | none =>
              rw [hpool] at hthreads
              exact hthreads
          | some pool =>
              rw [hpool] at hthreads
              exact hthreads
  · have hquiet : process.performs event = [] := by
      cases hhandled <;> rfl
    rw [hquiet, List.append_nil]
    exact (hphase.handled hhandled).mono hmono

omit [OfNat TransactionCode 19] [HeaderLayout Operation] in
theorem phase_start :
    Phase environment refused [] (.start environment) .readConfiguration :=
  ⟨rfl, ⟨rfl, rfl⟩, rfl⟩

end Phases

end ProcessManagerService.Service
