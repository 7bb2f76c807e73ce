import ProcessManagerService.Service.Phases

/-!
# The history of a service

The main thread registers the events of the task while other threads process
datagrams already, so registrations and subscriptions reach the caches of the
worker in an order of their own, and the receive handlers overlap.  Whatever the
order is, it is a history of the caches, and what is sent for each datagram is what
the history makes due.  A module that subscribes too early is forgotten.
-/

namespace ProcessManagerService.Service

open Communication Connection PartialRuns ReadLoop StreamDecoding
open ProcessManagerService.Configuration
open Watchdog Worker

variable {TransactionCode : Type*}

/-- The datagrams that have been received, with as much of each as fits into the
buffer. -/
def receivedIn (bufferSize : ℕ) (events : List ProcessEvent) : List (List Byte × Endpoint) :=
  events.filterMap fun event =>
    match event with
    | .arrive datagram endpoint => some (datagram.take bufferSize, endpoint)
    | _ => none

theorem receivedIn_append (bufferSize : ℕ) (first second : List ProcessEvent) :
    receivedIn bufferSize (first ++ second) =
      receivedIn bufferSize first ++ receivedIn bufferSize second :=
  List.filterMap_append

/-- How far the main thread has come with the registrations of its task. -/
def MainThread.Performed (registrations performed : List ManagerCall) : MainThread → Prop
  | .runServiceTask rest => registrations = performed ++ rest
  | .joinThreads => performed = registrations
  | .leave _ => performed = [] ∨ performed = registrations
  | .joinStopped _ => performed = [] ∨ performed = registrations
  | .exited _ => performed = [] ∨ performed = registrations
  | .terminated => performed <+: registrations
  | .undefined => performed <+: registrations
  | _ => performed = []

/-! ## The pool -/

section Pool

variable {surroundings : Surroundings TransactionCode} {initial : EventManager}
  {errands : List (Errand TransactionCode)} {logged : LoggedWorker}

/-- A registration on the main thread is one more errand. -/
theorem serving_register [OfNat TransactionCode 19]
    {threads : List (ProcessingStep TransactionCode)}
    (hserving : Serving surroundings initial errands logged threads)
    (registration : ManagerCall) :
    Serving surroundings initial (errands ++ [.ofTask registration])
      { logged with
        shared.worker := Process.register logged.shared.worker registration } threads := by
  obtain ⟨hmanager, hdemanded, hsent, hbegun⟩ := hserving.accounted
  have haccounted : Accounted surroundings initial (errands ++ [.ofTask registration])
      { logged with shared.worker := Process.register logged.shared.worker registration } := by
    refine ⟨?_, ?_, hsent, hbegun⟩
    · rw [managerFrom_append, ← hmanager]
      rfl
    · rw [List.filterMap_append, hdemanded]
      exact List.append_nil _
  exact hserving.keep haccounted rfl rfl

/-- Threads that have no datagram yet. -/
theorem serving_hire [OfNat TransactionCode 19] {threads : List (ProcessingStep TransactionCode)}
    (hserving : Serving surroundings initial errands logged [])
    (hidle : ∀ step ∈ threads, step = .receiving .idle) :
    Serving surroundings initial errands logged threads := by
  refine ⟨hserving.accounted, ?_, ?_, ?_⟩
  · have hnone : threads.filterMap ProcessingStep.ticket = [] := by
      apply List.filterMap_eq_nil_iff.mpr
      intro step hmem
      rw [hidle step hmem]
      rfl
    rw [hnone]
    exact List.nodup_nil
  · intro step hmem
    rw [hidle step hmem]
    trivial
  · intro ticket demand hdemand _
    exact hserving.served ticket demand hdemand fun step hmem => by cases hmem

end Pool

/-! ## The errands of a service -/

section Errands

variable [OfNat TransactionCode 19] [HeaderLayout Operation]
  (environment : Environment TransactionCode)

/-- At one step of the run the main thread has seen that the service is not accepted. -/
def LookedInVain (events : List ProcessEvent) : Prop :=
  ∃ before succeeds later looked, events = before ++ .advance succeeds :: later ∧
    run (Process.step environment) (.start environment) before = some looked ∧
    SeesRefusal looked succeeds

/-- The errands have led the pool to where it is, and the datagrams in it are those
that have been received. -/
structure Pooled (events : List ProcessEvent) (errands : List (Errand TransactionCode))
    (pool : ProcessingPool TransactionCode) : Prop where
  serving : Serving environment.surroundings .create errands pool.logged pool.threads
  conserves : Conserves pool.logged.shared (pool.threads.map ProcessingStep.handlerStep)
    (receivedIn pool.logged.shared.worker.messageBuffer.length events)

/-- The errands have led the worker, if there is one, to where it is, and the main
thread to the registrations that it has performed. -/
structure Employs (events : List ProcessEvent) (errands : List (Errand TransactionCode))
    (process : Process TransactionCode) : Prop where
  phase : Phase environment (LookedInVain environment events)
    (errands.filterMap Errand.registered) process process.main
  pooled : ∀ pool, process.pool = some pool → Pooled environment events errands pool
  unmade : process.pool = none → errands = [] ∧ ∀ size, receivedIn size events = []

variable {environment} {process next : Process TransactionCode} {events : List ProcessEvent}
  {event : ProcessEvent} {errands : List (Errand TransactionCode)}
  {pool : ProcessingPool TransactionCode}

/-- What the main thread does to the pool when it registers nothing. -/
inductive Prepared (process next : Process TransactionCode) : Prop where
  | kept (hpool : next.pool = process.pool)
  | made {worker : ContextWorker} (hnone : process.pool = none)
      (hpool : next.pool = some ⟨⟨⟨worker, [], []⟩, []⟩, []⟩)
      (hmanager : worker.manager = .create) (hsent : worker.sent = [])
      (hreceives : worker.receives = 0)
  | started (hunstarted : ∀ pool, process.pool = some pool → Unstarted pool)
      (hpool : next.pool = (process.updateWorker ContextWorker.startRead).pool)
  | joined (hthreads : ∀ pool, process.pool = some pool → pool.threads = [])
      (hpool : next.pool = process.pool.map fun pool => { pool with
        threads := List.replicate 5 (.receiving .idle) })

omit [OfNat TransactionCode 19] [HeaderLayout Operation] in
theorem pool_onConnection (process : Process TransactionCode) (main : MainThread)
    (member : Recorded Operation WatchdogConnection →
      Outcome ErrorCode (Recorded Operation WatchdogConnection)) :
    (process.onConnection main member).pool = process.pool := by
  rw [Process.onConnection]
  cases process.watchdogConnection with
  | none => rfl
  | some object =>
      dsimp only
      cases member object <;> rfl

omit [OfNat TransactionCode 19] in
theorem prepared_of_advance {refused : Prop} {performed : List ManagerCall} {succeeds : Bool}
    (hphase : Phase environment refused performed process process.main)
    (hadvance : process.advance environment succeeds = some next)
    (hquiet : process.registration = none) : Prepared process next := by
  rw [Process.advance] at hadvance
  cases hmain : process.main with
  | readConfiguration =>
      rw [hmain] at hadvance
      dsimp only at hadvance
      split at hadvance
      · cases hadvance
        exact .kept rfl
      · cases hadvance
        exact .kept rfl
  | bind =>
      rw [hmain] at hphase hadvance
      cases hadvance
      refine .made hphase.2.pool rfl ?_ ?_ ?_
      · cases succeeds <;> rfl
      · cases succeeds <;> rfl
      · cases succeeds <;> rfl
  | readAll =>
      rw [hmain] at hphase hadvance
      cases hadvance
      exact .started hphase.2.1 rfl
  | joinAll =>
      rw [hmain] at hphase hadvance
      cases hadvance
      refine .joined ?_ rfl
      intro pool hpool
      have hthreads := hphase.2.1
      rw [Process.threads, hpool] at hthreads
      exact List.length_eq_zero_iff.mp hthreads
  | connect =>
      rw [hmain] at hadvance
      cases hadvance
      exact .kept (pool_onConnection _ _ _)
  | sendConnectRequest =>
      rw [hmain] at hadvance
      cases hadvance
      exact .kept (pool_onConnection _ _ _)
  | startReading =>
      rw [hmain] at hadvance
      cases hadvance
      exact .kept (pool_onConnection _ _ _)
  | readState =>
      rw [hmain] at hadvance
      dsimp only at hadvance
      split at hadvance
      · cases hadvance
        exact .kept rfl
      · cases hadvance
        exact .kept rfl
  | setTimerExpiration =>
      rw [hmain] at hadvance
      cases hadvance
      exact .kept (pool_onConnection _ _ _)
  | runServiceTask rest =>
      rw [hmain] at hadvance
      cases rest with
      | nil =>
          cases hadvance
          exact .kept rfl
      | cons registration rest =>
          simp only [Process.registration, hmain, ite_eq_right_iff, reduceCtorEq,
            imp_false] at hquiet
          dsimp only at hadvance
          rw [if_neg hquiet] at hadvance
          cases hadvance
          exact .kept rfl
  | joinThreads =>
      rw [hmain] at hadvance
      obtain ⟨-, hleave⟩ := Option.ite_none_right_eq_some.mp hadvance
      cases hleave
      exact .kept rfl
  | joinStopped returnCode =>
      rw [hmain] at hadvance
      obtain ⟨-, hexits⟩ := Option.ite_none_right_eq_some.mp hadvance
      cases hexits
      exact .kept rfl
  | exited returnCode =>
      rw [hmain] at hadvance
      cases hadvance
  | terminated =>
      rw [hmain] at hadvance
      cases hadvance
  | undefined =>
      rw [hmain] at hadvance
      cases hadvance
  | _ =>
      rw [hmain] at hadvance
      cases hadvance
      exact .kept rfl

/-! ## Steps -/

section Pooled

omit [HeaderLayout Operation]

theorem Pooled.happen {after : ProcessingPool TransactionCode} {happening : Happening}
    (hpooled : Pooled environment events errands pool)
    (hstep : poolStep environment.surroundings pool happening = some after)
    (hevent : receivedIn pool.logged.shared.worker.messageBuffer.length [event] =
      arrivals [happening]) :
    ∃ demands : List (Demand TransactionCode), Pooled environment (events ++ [event])
      (errands ++ demands.map .ofDatagram) after := by
  obtain ⟨demands, hserving⟩ := hpooled.serving.poolStep hstep
  refine ⟨demands, hserving, ?_⟩
  rw [length_messageBuffer_poolStep hstep, receivedIn_append, hevent]
  exact hpooled.conserves.poolStep hstep

theorem Pooled.quiet (hpooled : Pooled environment events errands pool)
    (hevent : ∀ size, receivedIn size [event] = []) :
    Pooled environment (events ++ [event]) errands pool := by
  refine ⟨hpooled.serving, ?_⟩
  rw [receivedIn_append, hevent, List.append_nil]
  exact hpooled.conserves

/-- The worker has been made. -/
theorem pooled_made {worker : ContextWorker} (hmanager : worker.manager = .create)
    (hsent : worker.sent = []) (hreceives : worker.receives = 0)
    (hevents : ∀ size, receivedIn size events = []) :
    Pooled environment events [] ⟨⟨⟨worker, [], []⟩, []⟩, []⟩ := by
  refine ⟨?_, ?_, ?_⟩
  · rw [← hmanager]
    exact serving_idle worker hsent 0
  · rw [tokens, hreceives]
    exact Nat.zero_le 1
  · rw [hevents]
    exact List.Perm.refl []

theorem Pooled.started (hpooled : Pooled environment events errands pool)
    (hunstarted : Unstarted pool) :
    Pooled environment events errands
      { pool with logged.shared.worker := pool.logged.shared.worker.startRead } := by
  obtain ⟨hserving, -, hperm⟩ := hpooled
  obtain ⟨hthreads, hreceives, hcompletions⟩ := hunstarted
  refine ⟨hserving.receives ⟨rfl, rfl, rfl⟩, ?_, ?_⟩
  · rw [tokens, hthreads, hcompletions, ContextWorker.startRead, hreceives]
    rfl
  · rw [hthreads] at hperm ⊢
    exact hperm

theorem Pooled.joined (hpooled : Pooled environment events errands pool)
    (hthreads : pool.threads = []) :
    Pooled environment events errands
      { pool with threads := List.replicate 5 (.receiving .idle) } := by
  obtain ⟨hserving, hconserves⟩ := hpooled
  rw [hthreads] at hserving hconserves
  exact ⟨serving_hire hserving fun step hmem => List.eq_of_mem_replicate hmem,
    hconserves.token, hconserves.perm⟩

theorem Pooled.registered (hpooled : Pooled environment events errands pool)
    (registration : ManagerCall) :
    Pooled environment events (errands ++ [.ofTask registration]) { pool with
      logged.shared.worker := Process.register pool.logged.shared.worker registration } :=
  ⟨serving_register hpooled.serving registration, hpooled.conserves.keeps ⟨rfl, rfl, rfl⟩⟩

/-- A receive has ended for good. -/
theorem Pooled.erred (hpooled : Pooled environment events errands pool) :
    Pooled environment events errands { pool with
      logged.shared.worker.receives := pool.logged.shared.worker.receives - 1 } := by
  obtain ⟨hserving, htoken, hperm⟩ := hpooled
  refine ⟨hserving.receives ⟨rfl, rfl, rfl⟩, ?_, hperm⟩
  rw [tokens] at htoken ⊢
  exact (Nat.add_le_add_right (Nat.add_le_add_right (Nat.sub_le _ 1) _) _).trans htoken

end Pooled

theorem Employs.prepared (hemploys : Employs environment events errands process)
    (hprepared : Prepared process next) (hevent : ∀ size, receivedIn size [event] = []) :
    (∀ pool, next.pool = some pool → Pooled environment (events ++ [event]) errands pool) ∧
      (next.pool = none → errands = [] ∧ ∀ size, receivedIn size (events ++ [event]) = []) := by
  have hnothing : process.pool = none →
      errands = [] ∧ ∀ size, receivedIn size (events ++ [event]) = [] := by
    intro hnone
    refine ⟨(hemploys.unmade hnone).1, fun size => ?_⟩
    rw [receivedIn_append, (hemploys.unmade hnone).2, hevent, List.append_nil]
  cases hprepared with
  | kept hpool =>
      rw [hpool]
      exact ⟨fun pool hsome => (hemploys.pooled pool hsome).quiet hevent, hnothing⟩
  | made hnone hpool hmanager hsent hreceives =>
      rw [hpool]
      obtain ⟨rfl, hevents⟩ := hnothing hnone
      refine ⟨?_, fun hsome => by cases hsome⟩
      intro pool hsome
      cases hsome
      exact pooled_made hmanager hsent hreceives hevents
  | started hunstarted hpool =>
      rw [hpool]
      refine ⟨?_, fun hnone => hnothing (Option.map_eq_none_iff.mp hnone)⟩
      intro pool hsome
      obtain ⟨before, hbefore, rfl⟩ := Option.map_eq_some_iff.mp hsome
      exact ((hemploys.pooled before hbefore).quiet hevent).started (hunstarted before hbefore)
  | joined hthreads hpool =>
      rw [hpool]
      refine ⟨?_, fun hnone => hnothing (Option.map_eq_none_iff.mp hnone)⟩
      intro pool hsome
      obtain ⟨before, hbefore, rfl⟩ := Option.map_eq_some_iff.mp hsome
      exact ((hemploys.pooled before hbefore).quiet hevent).joined (hthreads before hbefore)

/-- What a handler does to the pool. -/
theorem Employs.handled (hemploys : Employs environment events errands process)
    (hhandled : Handled environment process event next) :
    ∃ demands : List (Demand TransactionCode),
      (∀ pool, next.pool = some pool → Pooled environment (events ++ [event])
        (errands ++ demands.map .ofDatagram) pool) ∧
      (next.pool = none → errands ++ demands.map .ofDatagram = [] ∧
        ∀ size, receivedIn size (events ++ [event]) = []) := by
  cases hhandled with
  | arrived datagram endpoint hpool hstep =>
      obtain ⟨demands, hafter⟩ : ∃ demands : List (Demand TransactionCode),
          Pooled environment (events ++ [.arrive datagram endpoint]) _ _ :=
        (hemploys.pooled _ hpool).happen hstep rfl
      refine ⟨demands, ?_, fun hnone => by cases hnone⟩
      intro pool hsome
      cases hsome
      exact hafter
  | worked thread hpool hstep hmain hfailed =>
      obtain ⟨demands, hafter⟩ : ∃ demands : List (Demand TransactionCode),
          Pooled environment (events ++ [.work thread]) _ _ :=
        (hemploys.pooled _ hpool).happen hstep rfl
      refine ⟨demands, ?_, fun hnone => by cases hnone⟩
      intro pool hsome
      cases hsome
      exact hafter
  | erred hpool hreceives =>
      refine ⟨[], ?_, fun hnone => by cases hnone⟩
      rw [List.map_nil, List.append_nil]
      intro pool hsome
      cases hsome
      exact ((hemploys.pooled _ hpool).quiet fun _ => rfl).erred
  | watched watched hruns hobject hcompletion hmain =>
      refine ⟨[], ?_⟩
      rw [List.map_nil, List.append_nil]
      exact hemploys.prepared (.kept rfl) fun _ => rfl

theorem LookedInVain.append (hlooked : LookedInVain environment events)
    (more : List ProcessEvent) : LookedInVain environment (events ++ more) := by
  obtain ⟨before, succeeds, later, looked, rfl, hrun, hsees⟩ := hlooked
  exact ⟨before, succeeds, later ++ more, looked, by simp, hrun, hsees⟩

/-- Every step of the process adds errands, or none. -/
theorem Employs.step (hemploys : Employs environment events errands process)
    (hrun : run (Process.step environment) (.start environment) events = some process)
    (hstep : process.step environment event = some next) :
    ∃ more, Employs environment (events ++ [event]) (errands ++ more) next := by
  have hphase := hemploys.phase.step hstep (fun hlooked => hlooked.append [event])
    fun succeeds hevent hsees => ⟨events, succeeds, [], process, by rw [hevent], hrun, hsees⟩
  rcases advanced_or_handled hstep with ⟨succeeds, rfl, hadvance⟩ | ⟨-, hhandled⟩
  · cases hregistration : process.registration with
    | none =>
        have hprepared := prepared_of_advance hemploys.phase hadvance hregistration
        obtain ⟨hpooled, hunmade⟩ := hemploys.prepared hprepared fun size =>
          (rfl : receivedIn size [.advance succeeds] = [])
        rw [Process.performs, hregistration, Option.toList_none, List.append_nil] at hphase
        refine ⟨[], ?_⟩
        rw [List.append_nil]
        exact ⟨hphase, hpooled, hunmade⟩
    | some registration =>
        obtain ⟨rest, hmain, hregisters⟩ := advance_of_registration hregistration succeeds
        rw [hregisters] at hadvance
        cases hadvance
        refine ⟨[.ofTask registration], ?_, ?_, ?_⟩
        · rw [Process.performs, hregistration] at hphase
          rw [List.filterMap_append]
          exact hphase
        · intro pool hsome
          obtain ⟨before, hbefore, rfl⟩ := Option.map_eq_some_iff.mp hsome
          exact ((hemploys.pooled before hbefore).quiet fun _ => rfl).registered registration
        · intro hnone
          -- the task runs with five threads, so there is a pool
          have hthreads := hemploys.phase
          rw [hmain] at hthreads
          have hlength := hthreads.2.1
          rw [Process.threads, Option.map_eq_none_iff.mp hnone] at hlength
          cases hlength
  · have hquiet : process.performs event = [] := by
      cases hhandled <;> rfl
    obtain ⟨demands, hpooled, hunmade⟩ := hemploys.handled hhandled
    refine ⟨demands.map .ofDatagram, ?_, hpooled, hunmade⟩
    rw [Errand.registered_append_demands]
    rwa [hquiet, List.append_nil] at hphase

/-- The pool is still there, and what has been processed stays processed. -/
def Keeps (pool : ProcessingPool TransactionCode) (process : Process TransactionCode) : Prop :=
  ∃ after, process.pool = some after ∧
    pool.logged.shared.processed <+: after.logged.shared.processed

theorem keeps_of_step {refused : Prop} {performed : List ManagerCall}
    (hphase : Phase environment refused performed process process.main)
    (hpool : process.pool = some pool) (hstep : process.step environment event = some next) :
    Keeps pool next := by
  rcases advanced_or_handled hstep with ⟨succeeds, rfl, hadvance⟩ | ⟨-, hhandled⟩
  · cases hregistration : process.registration with
    | none =>
        cases prepared_of_advance hphase hadvance hregistration with
        | kept hkept => exact ⟨pool, hkept.trans hpool, List.prefix_refl _⟩
        | made hnone =>
            rw [hpool] at hnone
            cases hnone
        | started hunstarted hnext =>
            rw [Process.updateWorker, hpool] at hnext
            exact ⟨_, hnext, List.prefix_refl _⟩
        | joined hthreads hnext =>
            rw [hpool] at hnext
            exact ⟨_, hnext, List.prefix_refl _⟩
    | some registration =>
        obtain ⟨rest, -, hregisters⟩ := advance_of_registration hregistration succeeds
        rw [hregisters] at hadvance
        cases hadvance
        rw [Process.updateWorker, hpool]
        exact ⟨_, rfl, List.prefix_refl _⟩
  · cases hhandled with
    | arrived datagram endpoint hbefore hhappen =>
        obtain rfl : pool = _ := Option.some.inj (hpool.symm.trans hbefore)
        exact ⟨_, rfl, processed_poolStep hhappen⟩
    | worked thread hbefore hhappen hmain hfailed =>
        obtain rfl : pool = _ := Option.some.inj (hpool.symm.trans hbefore)
        exact ⟨_, rfl, processed_poolStep hhappen⟩
    | erred hbefore hreceives =>
        obtain rfl : pool = _ := Option.some.inj (hpool.symm.trans hbefore)
        exact ⟨_, rfl, List.prefix_refl _⟩
    | watched watched hruns hobject hcompletion hmain =>
        exact ⟨pool, hpool, List.prefix_refl _⟩

theorem employs_start : Employs environment [] [] (.start environment) :=
  ⟨phase_start, fun _ hnone => (by cases hnone), fun _ => ⟨rfl, fun _ => rfl⟩⟩

/-- Along a run more errands are added, and none is taken back. -/
theorem employs_of_run {before later : List ProcessEvent} {middle finish : Process TransactionCode}
    (hbefore : run (Process.step environment) (.start environment) before = some middle)
    (hemploys : Employs environment before errands middle)
    (hlater : run (Process.step environment) middle later = some finish) :
    (∃ more, Employs environment (before ++ later) (errands ++ more) finish) ∧
      ∀ pool, middle.pool = some pool → Keeps pool finish := by
  induction later generalizing before middle errands with
  | nil =>
      cases hlater
      refine ⟨⟨[], ?_⟩, fun pool hpool => ⟨pool, hpool, List.prefix_refl _⟩⟩
      rw [List.append_nil, List.append_nil]
      exact hemploys
  | cons event later ih =>
      obtain ⟨next, hstep, hrest⟩ := run_cons_eq_some.mp hlater
      obtain ⟨more, hnext⟩ := hemploys.step hbefore hstep
      have hreached : run (Process.step environment) (.start environment) (before ++ [event]) =
          some next := by
        rw [run_append, hbefore, Option.bind_some]
        exact run_cons_eq_some.mpr ⟨next, hstep, rfl⟩
      obtain ⟨⟨others, hfinish⟩, hkeeps⟩ := ih hreached hnext hrest
      refine ⟨⟨more ++ others, ?_⟩, ?_⟩
      · rw [List.append_assoc, List.singleton_append, List.append_assoc] at hfinish
        exact hfinish
      · intro pool hpool
        obtain ⟨between, hbetween, hbegins⟩ := keeps_of_step hemploys.phase hpool hstep
        obtain ⟨after, hafter, hlater⟩ := hkeeps between hbetween
        exact ⟨after, hafter, hbegins.trans hlater⟩

theorem exists_employs {finish : Process TransactionCode}
    (hrun : run (Process.step environment) (.start environment) events = some finish) :
    ∃ errands, Employs environment events errands finish := by
  obtain ⟨⟨more, hfinish⟩, -⟩ := employs_of_run rfl employs_start hrun
  exact ⟨more, hfinish⟩

end Errands

/-! ## The history -/

section History

variable [OfNat TransactionCode 19] [HeaderLayout Operation]

/-- The errands are the history of the worker: the registrations that the main thread
has performed, and the datagrams in the order in which their processing has begun.
Every datagram that has been received is among these or on its way.  What has been
sent for one of them is a beginning of what is due, and all of it unless a thread
still works on it or has failed on it. -/
structure Recounts (environment : Environment TransactionCode) (events : List ProcessEvent)
    (main : MainThread) (pool : ProcessingPool TransactionCode)
    (errands : List (Errand TransactionCode)) : Prop where
  performed : main.Performed environment.task.registrations
    (errands.filterMap Errand.registered)
  accounted : Accounted environment.surroundings .create errands pool.logged
  received : (pool.logged.shared.processed ++ inFlight pool.logged.shared
      (pool.threads.map ProcessingStep.handlerStep)).Perm
    (receivedIn pool.logged.shared.worker.messageBuffer.length events)
  each : ∀ ticket demand, (errands.filterMap Errand.demanded)[ticket]? = some demand →
    ∃ rest, Settles environment.surroundings .create errands pool.logged.log ticket demand rest ∧
      ((∀ step ∈ pool.threads, step.ticket ≠ some ticket) → rest = [])

variable {environment : Environment TransactionCode}

omit [OfNat TransactionCode 19] [HeaderLayout Operation] in
theorem Phase.performed {refused : Prop} {performed : List ManagerCall}
    {process : Process TransactionCode} {main : MainThread}
    (hphase : Phase environment refused performed process main) :
    main.Performed environment.task.registrations performed := by
  have hleaves : ∀ returnCode, Leaves environment refused performed process returnCode →
      performed = [] ∨ performed = environment.task.registrations := by
    intro returnCode hleaves
    cases hleaves with
    | unread hcode hread hnone hunmade => exact .inl hnone
    | refused hcode hrefused hnone hconnection => exact .inl hnone
    | finished hcode hleaves hall hconnection => exact .inr hall
  cases main with
  | joinThreads => exact hphase.2.1
  | leave returnCode => exact hleaves returnCode hphase
  | joinStopped returnCode => exact hleaves returnCode hphase
  | exited returnCode => exact hleaves returnCode hphase
  | terminated => exact hphase.begins
  | undefined => exact hphase.begins
  | _ => exact hphase.1

/-- In every run of a service, however the registrations of the task and the steps of
the receive handlers interleave: there is an order of the registrations that have
been performed and of the datagrams whose processing has begun, in which the caches
are what it makes of empty ones, and for each datagram the threads send what is due
for it in this order. -/
theorem history_of_run {events : List ProcessEvent} {finish : Process TransactionCode}
    {pool : ProcessingPool TransactionCode}
    (hrun : run (Process.step environment) (.start environment) events = some finish)
    (hpool : finish.pool = some pool) :
    ∃ errands, Recounts environment events finish.main pool errands := by
  obtain ⟨errands, hemploys⟩ := exists_employs hrun
  obtain ⟨hserving, hconserves⟩ := hemploys.pooled pool hpool
  exact ⟨errands, hemploys.phase.performed, hserving.accounted, hconserves.perm,
    fun _ _ hdemand => hserving.exists_settles hdemand⟩

/-- The modules that ask for a type, in the order in which the processing of their
datagrams has begun. -/
def askersFor (environment : Environment TransactionCode)
    (processed : List (List Byte × Endpoint)) (messageType : Text) : List Int32 :=
  Broker.subscribersTo ((processed.map fun datagram =>
    demandOf environment.surroundings datagram.1 datagram.2).flatMap Broker.accepts) messageType

/-- In every run of a service: when the task registers an event for subscriptions, the
event has nobody, and from then on it has exactly the modules that ask for its type
in the datagrams whose processing begins after the registration, in the order in
which it begins and as often as they ask. -/
theorem subscribers_of_registration {before later : List ProcessEvent} {succeeds : Bool}
    {middle finish : Process TransactionCode} {pool : ProcessingPool TransactionCode}
    {subscribeType : Text} {newEvent : SubscribeEvent} {rest : List ManagerCall}
    (hbefore : run (Process.step environment) (.start environment) before = some middle)
    (hmain : middle.main =
      .runServiceTask (.registerNewSubscribtionHandler subscribeType (some newEvent) :: rest))
    (hmanager : middle.eventManager = true) (hpool : middle.pool = some pool)
    (hrun : run (Process.step environment) (.start environment)
      (before ++ .advance succeeds :: later) = some finish) :
    ∃ after, finish.pool = some after ∧
      pool.logged.shared.processed <+: after.logged.shared.processed ∧
      after.logged.shared.worker.subscriptionEventsCache.events[
          pool.logged.shared.worker.subscriptionEventsCache.events.length]? =
        some ⟨pool.logged.shared.worker.subscriptionEventsCache.getNewEventID, subscribeType,
          askersFor environment (after.logged.shared.processed.drop
            pool.logged.shared.processed.length) subscribeType, newEvent⟩ := by
  rw [run_append, hbefore, Option.bind_some] at hrun
  obtain ⟨next, hstep, hlater⟩ := run_cons_eq_some.mp hrun
  have hreached : run (Process.step environment) (.start environment)
      (before ++ [.advance succeeds]) = some next := by
    rw [run_append, hbefore, Option.bind_some]
    exact run_cons_eq_some.mpr ⟨next, hstep, rfl⟩
  let started : ProcessingPool TransactionCode := { pool with
    logged.shared.worker := Process.register pool.logged.shared.worker
      (.registerNewSubscribtionHandler subscribeType (some newEvent)) }
  have hstarted : next.pool = some started := by
    rw [Process.step, Process.advance, hmain, hmanager] at hstep
    cases hstep
    rw [Process.updateWorker, hpool]
    rfl
  obtain ⟨errands, hemploys⟩ := exists_employs hreached
  obtain ⟨⟨more, hfinish⟩, hkeeps⟩ := employs_of_run hreached hemploys hlater
  obtain ⟨after, hafter, hbegins⟩ := hkeeps started hstarted
  have hfirst := (hemploys.pooled started hstarted).serving.accounted
  have hlast := (hfinish.pooled after hafter).serving.accounted
  refine ⟨after, hafter, hbegins, ?_⟩
  have hkind : ∀ registration ∈ more.filterMap Errand.registered, registration.kind ≠ none := by
    intro registration hmem
    apply environment.task.kind_ne_none
    apply hfinish.phase.guarded.begins.subset
    rw [List.filterMap_append]
    exact List.mem_append_right _ hmem
  have hevent : started.logged.shared.worker.manager.subscriptionEventsCache.events[
      pool.logged.shared.worker.subscriptionEventsCache.events.length]? = some _ :=
    List.getElem?_concat_length
  have hasked : more.filterMap Errand.demanded = (after.logged.shared.processed.drop
      pool.logged.shared.processed.length).map fun datagram =>
        demandOf environment.surroundings datagram.1 datagram.2 := by
    have hall := congrArg (List.drop pool.logged.shared.processed.length) hlast.demanded
    rw [List.filterMap_append, List.drop_left' _, LoggedWorker.taken, ← List.map_drop] at hall
    · exact hall
    · rw [hfirst.demanded, LoggedWorker.taken, List.length_map]
  have hkept := getElem?_managerFrom hkind hevent
  rw [hfirst.manager, ← managerFrom_append, ← hlast.manager, hasked] at hkept
  exact hkept

end History

/-! ## A service that is accepted -/

namespace Welcome

/-- The watchdog answers with code `Success` and sequence code 7. -/
def protobuf : Protobuf where
  parseConnectResponse body :=
    if body = [8, 0, 16, 7] then some ⟨.success, some 7, none⟩ else none
  parsePingResponse _ := none
  parseReconnectResponse _ := none
  serializeConnectRequest identifier := [8, UInt8.ofNat identifier.toInt.toNat]
  serializePingRequest code := [8, UInt8.ofNat code.toNat]
  serializeReconnectRequest identifier := [8, UInt8.ofNat identifier.toInt.toNat]
  serializeShutdownRequest identifier := [8, UInt8.ofNat identifier.toInt.toNat]

def environment (task : Task) : Environment UInt32 where
  surroundings := Exchange.directory
  protobuf := protobuf
  task := task
  files _ := .parsed (.object [("ServerConfiguration".toList, .object [
    ("MaxMessageResends".toList, .numberUnsigned 3),
    ("TimeBetweenMessageResendsInSeconds".toList, .numberUnsigned 5),
    ("MessageBufferSize".toList, .numberUnsigned 4096),
    ("ListeningPort".toList, .numberUnsigned 5000)])])
  configuration := ⟨0, 0, 0, 0⟩
  sequenceCode := 5

/-- The start up to the answer of the watchdog. -/
def untilAccepted : List ProcessEvent :=
  List.replicate 9 (.advance true) ++
    [.watchdog (.arrive [1, 0, 0, 0, 4, 0, 0, 0, 8, 0, 16, 7]),
      .watchdog (.completeRead .readHeader false),
      .watchdog (.completeRead (.readBody 4) false)]

end Welcome

/-! ## A module that subscribes too early -/

namespace EarlySubscription

def task : Task where
  registrations := [.registerNewSubscribtionHandler "GPS".toList
    (some ⟨some ⟨fun _ any => (some any, any)⟩⟩)]
  kind_ne_none := by simp [ManagerCall.kind]
  returnCode := runForever

def environment : Environment UInt32 := Welcome.environment task

def subscriptionOf (moduleIdentifier : Int32) : List Byte :=
  Codec.plain.serialize
    { Exchange.subscribing with header := some ⟨moduleIdentifier, .moduleRequest, 1⟩ }

/-- Module 8 subscribes before the event is registered.  What module 6 asks for has
been received by then, but a thread still has to process it. -/
def before : List ProcessEvent :=
  Welcome.untilAccepted ++ .arrive (subscriptionOf 8) Exchange.client ::
    (List.replicate 5 (.work 0) ++ .arrive (subscriptionOf 6) Exchange.client ::
      (List.replicate 4 (.work 1) ++ List.replicate 3 (.advance true)))

/-- Module 7 overtakes module 6, and module 9 reports. -/
def later : List ProcessEvent :=
  .arrive (subscriptionOf 7) Exchange.client :: (List.replicate 5 (.work 0) ++
    .work 1 :: .arrive (Codec.plain.serialize Exchange.reporting) Exchange.client ::
      List.replicate 9 (.work 0))

end EarlySubscription

open EarlySubscription in
set_option maxRecDepth 20000 in
theorem subscribers_without_early :
    letI := Operation.layout
    ∃ finish after, run (Process.step environment) (.start environment)
        (before ++ .advance true :: later) = some finish ∧
      finish.pool = some after ∧
      (after.logged.shared.worker.subscriptionEventsCache.events[0]?).map
        Subscription.subscribers = some [7, 6] := by
  let layout := Operation.layout
  obtain ⟨middle, pool, hbefore, hmain, hmanager, hpool, hempty, hearly⟩ : ∃ middle pool,
      run (Process.step environment) (.start environment) before = some middle ∧
        middle.main = .runServiceTask task.registrations ∧ middle.eventManager = true ∧
        middle.pool = some pool ∧
        pool.logged.shared.worker.subscriptionEventsCache.events.length = 0 ∧
        pool.logged.shared.processed.length = 1 := ⟨_, _, rfl, rfl, rfl, rfl, rfl, rfl⟩
  obtain ⟨finish, other, hrun, hother, haskers⟩ : ∃ finish other,
      run (Process.step environment) (.start environment)
          (before ++ .advance true :: later) = some finish ∧
        finish.pool = some other ∧
        askersFor environment (other.logged.shared.processed.drop 1) "GPS".toList = [7, 6] :=
    ⟨_, _, rfl, rfl, by decide⟩
  obtain ⟨after, hafter, -, hevent⟩ :=
    subscribers_of_registration hbefore hmain hmanager hpool hrun
  obtain rfl : other = after := Option.some.inj (hother.symm.trans hafter)
  refine ⟨finish, other, hrun, hafter, ?_⟩
  rw [hempty, hearly, haskers] at hevent
  rw [hevent]
  rfl

open EarlySubscription in
set_option maxRecDepth 20000 in
theorem history_with_early :
    letI := Operation.layout
    ∃ finish pool errands, run (Process.step environment) (.start environment)
        (before ++ .advance true :: later) = some finish ∧
      finish.pool = some pool ∧
      Recounts environment (before ++ .advance true :: later) finish.main pool errands ∧
      pool.logged.log = List.replicate 2
        (3, ⟨[10, 0, 0, 8], 5000⟩, Codec.plain.serialize Exchange.notification) := by
  let layout := Operation.layout
  obtain ⟨finish, pool, hrun, hpool, hlog⟩ : ∃ finish pool,
      run (Process.step environment) (.start environment)
          (before ++ .advance true :: later) = some finish ∧
        finish.pool = some pool ∧
        pool.logged.log = List.replicate 2
          (3, ⟨[10, 0, 0, 8], 5000⟩, Codec.plain.serialize Exchange.notification) :=
    ⟨_, _, rfl, rfl, by decide⟩
  obtain ⟨errands, hrecounts⟩ := history_of_run hrun hpool
  exact ⟨finish, pool, errands, hrun, hpool, hrecounts, hlog⟩

end ProcessManagerService.Service
