import Mathlib.Logic.Hydra
import ProcessManagerService.Service.StartUp

/-!
# The main thread comes to its end

Handlers run while the main thread works, and it waits for them in two places.  A
service that is to run forever does so, even when a failed receive has left it deaf.
Otherwise the destructor stops the `io_context`, and then every handler that is under
way comes to its end, however the threads take turns.
-/

namespace ProcessManagerService.Service

open Communication Connection PartialRuns ReadLoop StreamDecoding TimerFrame
open Watchdog Worker

section MainThread

variable {TransactionCode : Type*} [OfNat TransactionCode 19] [HeaderLayout Operation]
  {environment : Environment TransactionCode} {process next : Process TransactionCode}

/-! ## The steps that remain -/

/-- How many steps the main thread still makes at most. -/
def MainThread.remaining (registrations : ℕ) : MainThread → ℕ
  | .readConfiguration => registrations + 16
  | .makeWorker => registrations + 15
  | .bind => registrations + 14
  | .makeConnection => registrations + 13
  | .readAll => registrations + 12
  | .joinAll => registrations + 11
  | .connect => registrations + 10
  | .sendConnectRequest => registrations + 9
  | .startReading => registrations + 8
  | .readState => registrations + 7
  | .setTimerExpiration => registrations + 6
  | .initializeEventManager => registrations + 5
  | .runServiceTask rest => rest.length + 4
  | .joinThreads => 3
  | .leave _ => 2
  | .joinStopped _ => 1
  | .exited _ => 0
  | .terminated => 0
  | .undefined => 0

def ProcessEvent.isAdvance : ProcessEvent → Bool
  | .advance _ => true
  | _ => false

omit [OfNat TransactionCode 19] [HeaderLayout Operation] in
theorem remaining_onConnection {main : MainThread} {registrations bound : ℕ}
    {member : Recorded Operation WatchdogConnection →
      Outcome ErrorCode (Recorded Operation WatchdogConnection)}
    (hbound : main.remaining registrations < bound) :
    (process.onConnection main member).main.remaining registrations < bound := by
  have hpositive : 0 < bound := Nat.zero_lt_of_lt hbound
  rw [Process.onConnection]
  cases process.watchdogConnection with
  | none => exact hpositive
  | some object =>
      dsimp only
      cases member object with
      | returned after => exact hbound
      | thrown error after => exact hpositive
      | undefined after => exact hpositive

omit [OfNat TransactionCode 19] in
/-- Each step of the main thread leaves fewer steps. -/
theorem remaining_lt_of_advance {succeeds : Bool}
    (hadvance : process.advance environment succeeds = some next) :
    next.main.remaining environment.task.registrations.length <
      process.main.remaining environment.task.registrations.length := by
  rw [Process.advance] at hadvance
  cases hmain : process.main with
  | readConfiguration =>
      rw [hmain] at hadvance
      dsimp only at hadvance
      split at hadvance
      · cases hadvance
        simp [Process.halt, MainThread.remaining]
      · cases hadvance
        split
        · simp [MainThread.remaining]
        · simp [MainThread.remaining]
  | makeWorker =>
      rw [hmain] at hadvance
      cases hadvance
      cases succeeds <;> simp [MainThread.remaining]
  | bind =>
      rw [hmain] at hadvance
      cases hadvance
      simp [MainThread.remaining]
  | makeConnection =>
      rw [hmain] at hadvance
      cases hadvance
      simp [MainThread.remaining]
  | readAll =>
      rw [hmain] at hadvance
      cases hadvance
      simp [MainThread.remaining]
  | joinAll =>
      rw [hmain] at hadvance
      cases hadvance
      simp [MainThread.remaining]
  | connect =>
      rw [hmain] at hadvance
      cases hadvance
      apply remaining_onConnection
      cases succeeds <;> simp [MainThread.remaining]
  | sendConnectRequest =>
      rw [hmain] at hadvance
      cases hadvance
      exact remaining_onConnection (by simp [MainThread.remaining])
  | startReading =>
      rw [hmain] at hadvance
      cases hadvance
      exact remaining_onConnection (by simp [MainThread.remaining])
  | readState =>
      rw [hmain] at hadvance
      dsimp only at hadvance
      split at hadvance
      · cases hadvance
        simp [Process.halt, MainThread.remaining]
      · cases hadvance
        split
        · simp [MainThread.remaining]
        · simp [MainThread.remaining]
  | setTimerExpiration =>
      rw [hmain] at hadvance
      cases hadvance
      exact remaining_onConnection (by simp [MainThread.remaining])
  | initializeEventManager =>
      rw [hmain] at hadvance
      cases hadvance
      simp [MainThread.remaining]
  | runServiceTask rest =>
      rw [hmain] at hadvance
      cases rest with
      | nil =>
          cases hadvance
          dsimp only
          split
          · simp [MainThread.remaining]
          · simp [MainThread.remaining]
      | cons registration rest =>
          dsimp only at hadvance
          split at hadvance
          · cases hadvance
            simp [MainThread.remaining]
          · cases hadvance
            simp [Process.halt, MainThread.remaining]
  | joinThreads =>
      rw [hmain] at hadvance
      obtain ⟨-, hleave⟩ := Option.ite_none_right_eq_some.mp hadvance
      cases hleave
      simp [MainThread.remaining]
  | leave returnCode =>
      rw [hmain] at hadvance
      cases hadvance
      simp [MainThread.remaining]
  | joinStopped returnCode =>
      rw [hmain] at hadvance
      obtain ⟨-, hexits⟩ := Option.ite_none_right_eq_some.mp hadvance
      cases hexits
      simp [MainThread.remaining]
  | exited returnCode =>
      rw [hmain] at hadvance
      cases hadvance
  | terminated =>
      rw [hmain] at hadvance
      cases hadvance
  | undefined =>
      rw [hmain] at hadvance
      cases hadvance

omit [OfNat TransactionCode 19] in
theorem isOver_of_advance {succeeds : Bool}
    (hadvance : process.advance environment succeeds = some next) :
    process.main.isOver = false := by
  have hless := remaining_lt_of_advance hadvance
  cases hmain : process.main with
  | exited returnCode =>
      rw [hmain] at hless
      cases hless
  | terminated =>
      rw [hmain] at hless
      cases hless
  | undefined =>
      rw [hmain] at hless
      cases hless
  | _ => rfl

omit [OfNat TransactionCode 19] in
/-- The main thread can always make a step, unless it has come to its end or waits
for threads. -/
theorem exists_advance (succeeds : Bool) (hgoes : process.main.isOver = false)
    (hjoins : process.main = .joinThreads → process.threads.isEmpty)
    (hstopped : ∀ returnCode, process.main = .joinStopped returnCode →
      process.threads.all ProcessingStep.isIdle) :
    ∃ next, process.advance environment succeeds = some next := by
  rw [Process.advance]
  cases hmain : process.main with
  | readConfiguration =>
      dsimp only
      split
      · exact ⟨_, rfl⟩
      · exact ⟨_, rfl⟩
  | readState =>
      dsimp only
      split
      · exact ⟨_, rfl⟩
      · exact ⟨_, rfl⟩
  | runServiceTask rest =>
      cases rest with
      | nil => exact ⟨_, rfl⟩
      | cons registration rest =>
          dsimp only
          split
          · exact ⟨_, rfl⟩
          · exact ⟨_, rfl⟩
  | joinThreads => exact ⟨_, if_pos (hjoins hmain)⟩
  | joinStopped returnCode => exact ⟨_, if_pos (hstopped returnCode hmain)⟩
  | exited returnCode =>
      rw [hmain] at hgoes
      cases hgoes
  | terminated =>
      rw [hmain] at hgoes
      cases hgoes
  | undefined =>
      rw [hmain] at hgoes
      cases hgoes
  | _ => exact ⟨_, rfl⟩

/-- The handlers in between do not give the main thread more to do. -/
theorem Handled.remaining_le {event : ProcessEvent}
    (hhandled : Handled environment process event next) (registrations : ℕ) :
    next.main.remaining registrations ≤ process.main.remaining registrations := by
  have hmain : ∀ main : MainThread, main = process.main ∨ main.isHalted →
      main.remaining registrations ≤ process.main.remaining registrations := by
    rintro main (rfl | hhalted)
    · exact Nat.le_refl _
    · cases main with
      | terminated => exact Nat.zero_le _
      | undefined => exact Nat.zero_le _
      | _ => cases hhalted
  cases hhandled with
  | arrived datagram endpoint hpool hstep => exact Nat.le_refl _
  | worked thread hpool hstep hnext hfailed => exact hmain _ hnext
  | erred hpool hreceives => exact Nat.le_refl _
  | watched event hruns hobject hcompletion hnext => exact hmain _ hnext

theorem countP_advance_le {events : List ProcessEvent} {finish : Process TransactionCode}
    (hrun : run (Process.step environment) process events = some finish) :
    events.countP ProcessEvent.isAdvance +
        finish.main.remaining environment.task.registrations.length ≤
      process.main.remaining environment.task.registrations.length := by
  induction events generalizing process with
  | nil =>
      cases hrun
      rw [List.countP_nil, Nat.zero_add]
  | cons event events ih =>
      obtain ⟨middle, hstep, hrest⟩ := run_cons_eq_some.mp hrun
      have hlater := ih hrest
      rw [List.countP_cons]
      rcases advanced_or_handled hstep with ⟨succeeds, rfl, hadvance⟩ | ⟨-, hhandled⟩
      · have hless := remaining_lt_of_advance hadvance
        rw [ProcessEvent.isAdvance, if_pos rfl]
        omega
      · have hkept := hhandled.remaining_le environment.task.registrations.length
        have hother : event.isAdvance = false := by
          cases hhandled <;> rfl
        rw [hother, if_neg Bool.false_ne_true]
        omega

/-! ## The threads that are waited for -/

/-- As long as the process goes on, no thread has failed. -/
def Unfailed (process : Process TransactionCode) : Prop :=
  process.main.isHalted = false → ∀ ticket error, .failed ticket error ∉ process.threads

omit [OfNat TransactionCode 19] [HeaderLayout Operation] in
/-- Where the threads stay the same, none of them fails. -/
theorem Unfailed.kept (hunfailed : Unfailed process) (hthreads : next.threads = process.threads)
    (hmain : next.main.isHalted = false → process.main.isHalted = false) : Unfailed next := by
  intro hgoes
  rw [hthreads]
  exact hunfailed (hmain hgoes)

omit [OfNat TransactionCode 19] [HeaderLayout Operation] in
theorem threads_updateWorker (process : Process TransactionCode)
    (update : ContextWorker → ContextWorker) :
    (process.updateWorker update).threads = process.threads := by
  rw [Process.updateWorker, Process.threads, Process.threads]
  cases process.pool <;> rfl

omit [OfNat TransactionCode 19] in
theorem Unfailed.advance {refused : Prop} {performed : List ManagerCall} {succeeds : Bool}
    (hunfailed : Unfailed process)
    (hphase : Phase environment refused performed process process.main)
    (hadvance : process.advance environment succeeds = some next) : Unfailed next := by
  have hgoes := MainThread.isHalted_of_not_isOver (isOver_of_advance hadvance)
  have hkeeps : next.threads = process.threads → Unfailed next :=
    fun hthreads => hunfailed.kept hthreads fun _ => hgoes
  cases hregistration : process.registration with
  | some registration =>
      obtain ⟨rest, -, hregisters⟩ := advance_of_registration hregistration succeeds
      rw [hregisters] at hadvance
      cases hadvance
      have hsame := threads_updateWorker process (Process.register · registration)
      exact hkeeps hsame
  | none =>
      cases prepared_of_advance hphase hadvance hregistration with
      | kept hpool => exact hkeeps (congrArg (Option.elim · [] ProcessingPool.threads) hpool)
      | made hnone hpool hmanager hsent hreceives =>
          intro _ ticket error
          rw [Process.threads, hpool]
          exact List.not_mem_nil
      | started hunstarted hpool =>
          apply hkeeps
          rw [Process.threads, hpool]
          exact threads_updateWorker process ContextWorker.startRead
      | joined hthreads hpool =>
          intro _ ticket error hmem
          rw [Process.threads, hpool] at hmem
          cases hsome : process.pool with
          | none =>
              rw [hsome] at hmem
              cases hmem
          | some pool =>
              rw [hsome] at hmem
              cases List.eq_of_mem_replicate hmem

theorem Unfailed.handled {event : ProcessEvent} (hunfailed : Unfailed process)
    (hgoes : process.main.isHalted = false)
    (hhandled : Handled environment process event next) : Unfailed next := by
  have hbefore := hunfailed hgoes
  cases hhandled with
  | arrived datagram endpoint hpool hstep =>
      obtain ⟨shared, -, rfl⟩ := Option.map_eq_some_iff.mp hstep
      apply hunfailed.kept _ fun _ => hgoes
      rw [Process.threads, Process.threads, hpool]
      rfl
  | worked thread hpool hstep hmain hfailed =>
      intro hlives ticket error hmem
      obtain ⟨step, hthread, hmove⟩ := Option.bind_eq_some_iff.mp hstep
      obtain ⟨moved, -, rfl⟩ := Option.map_eq_some_iff.mp hmove
      rcases List.mem_or_eq_of_mem_set hmem with hother | hown
      · rw [Process.threads, hpool] at hbefore
        exact hbefore ticket error hother
      · have hhalted := hfailed ticket error ((getElem?_set_of_some hthread moved.2).trans
          (congrArg some hown.symm))
        rw [hlives] at hhalted
        cases hhalted
  | erred hpool hreceives =>
      apply hunfailed.kept _ fun _ => hgoes
      rw [Process.threads, Process.threads, hpool]
      rfl
  | watched event hruns hobject hcompletion hmain =>
      exact hunfailed.kept rfl fun _ => hgoes

theorem unfailed_of_run {events : List ProcessEvent} {finish : Process TransactionCode}
    (hrun : run (Process.step environment) (.start environment) events = some finish) :
    Unfailed finish := by
  induction events using List.reverseRecOn generalizing finish with
  | nil =>
      cases hrun
      intro _ ticket error
      exact List.not_mem_nil
  | append_singleton events event ih =>
      rw [run_append] at hrun
      obtain ⟨middle, hbefore, hlast⟩ := Option.bind_eq_some_iff.mp hrun
      obtain ⟨next, hstep, hfinish⟩ := run_cons_eq_some.mp hlast
      cases hfinish
      obtain ⟨errands, hemploys⟩ := exists_employs hbefore
      rcases advanced_or_handled hstep with ⟨succeeds, rfl, hadvance⟩ | ⟨hgoes, hhandled⟩
      · exact (ih hbefore).advance hemploys.phase hadvance
      · exact (ih hbefore).handled (MainThread.isHalted_of_not_isOver hgoes) hhandled

/-- Where not every thread is idle, one of them can make its next step. -/
theorem exists_work (hunfailed : Unfailed process) (hgoes : process.main.isOver = false)
    (hbusy : ¬ process.threads.all ProcessingStep.isIdle) :
    ∃ thread next, process.step environment (.work thread) = some next := by
  obtain ⟨step, hmem, hstep⟩ : ∃ step ∈ process.threads, step.isIdle = false := by
    simpa using hbusy
  obtain ⟨thread, hthread⟩ := List.mem_iff_getElem?.mp hmem
  cases hpool : process.pool with
  | none =>
      rw [Process.threads, hpool] at hmem
      cases hmem
  | some pool =>
      rw [Process.threads, hpool] at hthread hmem
      have hunended : ∀ ticket error, step ≠ .failed ticket error := by
        rintro ticket error rfl
        have hnone := hunfailed (MainThread.isHalted_of_not_isOver hgoes) ticket error
        rw [Process.threads, hpool] at hnone
        exact hnone hmem
      obtain ⟨next, hperform⟩ :=
        exists_perform environment.surroundings hstep hunended pool.logged
      have hruns : process.main.ioContextRuns || (!process.main.isOver && !step.isIdle) := by
        rw [hgoes, hstep, Bool.or_eq_true]
        exact .inr rfl
      have hfound : pool.threads[thread]? = some step := hthread
      refine ⟨thread, Option.isSome_iff_exists.mp ?_⟩
      rw [Process.step, Process.work, hpool, Option.bind_some, hfound, Option.bind_some,
        if_pos hruns, hperform]
      rfl

/-! ## Once the `io_context` is stopped -/

/-- How far the threads are from the end of their handlers. -/
def Process.ranks (process : Process TransactionCode) : Multiset (ℕ × ℕ) :=
  process.threads.map ProcessingStep.rank

omit [OfNat TransactionCode 19] [HeaderLayout Operation] in
/-- A lower rank for one thread. -/
theorem cutExpand_ranks {threads : List (ProcessingStep TransactionCode)} {thread : ℕ}
    {step after : ProcessingStep TransactionCode} (hthread : threads[thread]? = some step)
    (hlower : Prod.Lex (· < ·) (· < ·) after.rank step.rank) :
    Relation.CutExpand (Prod.Lex (· < ·) (· < ·))
      ((threads.set thread after).map ProcessingStep.rank : Multiset (ℕ × ℕ))
      (threads.map ProcessingStep.rank : Multiset (ℕ × ℕ)) := by
  obtain ⟨others, hbefore, hset⟩ := exists_perm_set hthread
  rw [Multiset.coe_eq_coe.mpr ((hset after).map ProcessingStep.rank),
    Multiset.coe_eq_coe.mpr (hbefore.map ProcessingStep.rank)]
  exact Relation.cutExpand_single_add hlower (others.map ProcessingStep.rank : Multiset (ℕ × ℕ))

theorem step_eq_none_of_isOver (hover : process.main.isOver) (event : ProcessEvent) :
    process.step environment event = none := by
  cases hstep : process.step environment event with
  | none => rfl
  | some next =>
      have hgoes : process.main.isOver = false := by
        rcases advanced_or_handled hstep with ⟨succeeds, rfl, hadvance⟩ | ⟨hgoes, -⟩
        · exact isOver_of_advance hadvance
        · exact hgoes
      rw [hover] at hgoes
      cases hgoes

/-- Once the `io_context` is stopped, a step brings one handler closer to its end, or
ends the process. -/
theorem ranks_of_step {returnCode : Int32} {event : ProcessEvent}
    (hmain : process.main = .joinStopped returnCode)
    (hstep : process.step environment event = some next) :
    next.main.isOver ∨ next.main = .joinStopped returnCode ∧
      Relation.CutExpand (Prod.Lex (· < ·) (· < ·)) next.ranks process.ranks := by
  have hstopped : ¬ process.main.ioContextRuns := by
    rw [hmain]
    exact Bool.false_ne_true
  cases event with
  | advance succeeds =>
      rw [Process.step, Process.advance, hmain] at hstep
      obtain ⟨-, hexits⟩ := Option.ite_none_right_eq_some.mp hstep
      cases hexits
      exact .inl rfl
  | arrive datagram endpoint =>
      exact absurd (Option.ite_none_right_eq_some.mp hstep).1 hstopped
  | receiveError =>
      obtain ⟨pool, -, herred⟩ := Option.bind_eq_some_iff.mp hstep
      obtain ⟨⟨htakes, -⟩, -⟩ := Option.ite_none_right_eq_some.mp herred
      exact absurd (Bool.and_eq_true_iff.mp htakes).1 hstopped
  | watchdog event =>
      obtain ⟨object, -, hcompleted⟩ := Option.bind_eq_some_iff.mp hstep
      obtain ⟨htakes, -⟩ := Option.ite_none_right_eq_some.mp hcompleted
      exact absurd (Bool.and_eq_true_iff.mp htakes).1 hstopped
  | work thread =>
      obtain ⟨pool, hpool, hworked⟩ := Option.bind_eq_some_iff.mp hstep
      obtain ⟨step, hthread, hworked⟩ := Option.bind_eq_some_iff.mp hworked
      obtain ⟨hruns, hworked⟩ := Option.ite_none_right_eq_some.mp hworked
      obtain ⟨after, hperform, rfl⟩ := Option.map_eq_some_iff.mp hworked
      have hbusy : step.isIdle = false := by
        have hunder := (Bool.or_eq_true_iff.mp hruns).resolve_left hstopped
        exact (Bool.not_eq_true' _).mp (Bool.and_eq_true_iff.mp hunder).2
      have hlower := cutExpand_ranks hthread (rank_perform hbusy hperform)
      dsimp only
      split
      · exact .inl rfl
      · exact .inl rfl
      · refine .inr ⟨hmain, ?_⟩
        rw [Process.ranks, Process.ranks, Process.threads, Process.threads, hpool]
        exact hlower

/-- No run goes on forever after the `io_context` has been stopped. -/
theorem finite_of_stopped {returnCode : Int32} (hmain : process.main = .joinStopped returnCode) :
    ¬ ∃ states : ℕ → Process TransactionCode, states 0 = process ∧
      ∀ count, ∃ event, (states count).step environment event = some (states (count + 1)) := by
  have hlexical : WellFounded (Prod.Lex (· < ·) (· < ·) : ℕ × ℕ → ℕ × ℕ → Prop) :=
    WellFounded.prod_lex wellFounded_lt wellFounded_lt
  generalize hranks : process.ranks = ranks
  induction ranks using hlexical.cutExpand.induction generalizing process with
  | _ ranks ih =>
      rintro ⟨states, rfl, hsteps⟩
      obtain ⟨event, hstep⟩ := hsteps 0
      rcases ranks_of_step hmain hstep with hover | ⟨hstopped, hlower⟩
      · obtain ⟨later, hlater⟩ := hsteps 1
        rw [step_eq_none_of_isOver hover] at hlater
        cases hlater
      · rw [hranks] at hlower
        exact ih _ hlower hstopped rfl
          ⟨fun count => states (count + 1), rfl, fun count => hsteps (count + 1)⟩

/-- However often the handlers run in between, the main thread makes no more than 16
steps beside the registrations.  It goes on until it has come to its end or waits:
for the five other threads, which it does for a task that asks to run forever, once
the service has been accepted and the handlers of the task are registered; or, with
the `io_context` stopped, for handlers, one of which can go on then, and no run goes
on forever. -/
theorem main_of_run {events : List ProcessEvent} {finish : Process TransactionCode}
    (hrun : run (Process.step environment) (.start environment) events = some finish) :
    events.countP ProcessEvent.isAdvance ≤ environment.task.registrations.length + 16 ∧
      ((∀ succeeds, finish.step environment (.advance succeeds) = none) →
        finish.main.isOver ∨
          finish.main = .joinThreads ∧ finish.threads.length = 5 ∧
            environment.task.returnCode = runForever ∧
            WorkerIs (Registered environment.task.registrations) finish ∧
            ConnectionIs (Accepted environment) finish ∨
          ∃ returnCode, finish.main = .joinStopped returnCode ∧
            ∃ thread next, finish.step environment (.work thread) = some next) ∧
      ∀ returnCode, finish.main = .joinStopped returnCode →
        ¬ ∃ states : ℕ → Process TransactionCode, states 0 = finish ∧
          ∀ count, ∃ event, (states count).step environment event =
            some (states (count + 1)) := by
  refine ⟨?_, ?_, fun _ => finite_of_stopped⟩
  · have hcount := countP_advance_le hrun
    have hstart : (Process.start environment).main.remaining
        environment.task.registrations.length = environment.task.registrations.length + 16 := rfl
    omega
  · intro hstuck
    by_contra hgoes
    push Not at hgoes
    obtain ⟨hlive, hjoins, hstopped⟩ := hgoes
    have hover := Bool.eq_false_iff.mpr hlive
    obtain ⟨errands, hemploys⟩ := exists_employs hrun
    have hadvances : ∃ next, finish.advance environment true = some next := by
      apply exists_advance true hover
      · intro hmain
        have hphase := hemploys.phase
        rw [hmain] at hphase
        obtain ⟨hforever, hall, hthreads, hconnection⟩ := hphase
        exact absurd hconnection (hjoins hmain hthreads hforever (hemploys.registered hall))
      · intro returnCode hmain
        by_contra hbusy
        obtain ⟨thread, next, hwork⟩ := exists_work (unfailed_of_run hrun) hover hbusy
        exact hstopped returnCode hmain thread next hwork
    obtain ⟨next, hnext⟩ := hadvances
    have hnone := hstuck true
    rw [Process.step, hnext] at hnone
    cases hnone

end MainThread

set_option maxRecDepth 20000 in
/-- A task that returns `RUN_FOREVER`, and one that returns `LEAVE` while a thread has
a datagram. -/
theorem main_waits :
    letI := Operation.layout
    let forever := Welcome.environment (Welcome.handling runForever)
    let leaving := Welcome.environment (Welcome.handling 52)
    let received := Welcome.untilAccepted ++ [.arrive [1] Exchange.client, .work 0]
    (∃ finish, run (Process.step forever) (.start forever)
        (Welcome.untilAccepted ++ List.replicate 5 (.advance true)) = some finish ∧
      finish.main = .joinThreads ∧
      WorkerIs (Registered forever.task.registrations) finish ∧
      ConnectionIs (Accepted forever) finish) ∧
    ∃ finish, run (Process.step leaving) (.start leaving)
        (received ++ List.replicate 6 (.advance true)) = some finish ∧
      finish.main = .joinStopped 52 ∧
      (∃ thread next, finish.step leaving (.work thread) = some next) ∧
      ¬ ∃ states : ℕ → Process UInt32, states 0 = finish ∧
        ∀ count, ∃ event, (states count).step leaving event = some (states (count + 1)) := by
  let layout := Operation.layout
  intro forever leaving received
  constructor
  · obtain ⟨finish, hrun, hmain, hthreads⟩ : ∃ finish,
        run (Process.step forever) (.start forever)
            (Welcome.untilAccepted ++ List.replicate 5 (.advance true)) = some finish ∧
          finish.main = .joinThreads ∧ finish.threads.isEmpty = false := ⟨_, rfl, rfl, rfl⟩
    have hstuck : ∀ succeeds, finish.step forever (.advance succeeds) = none := by
      intro succeeds
      rw [Process.step, Process.advance, hmain]
      exact if_neg (Bool.eq_false_iff.mp hthreads)
    rcases (main_of_run hrun).2.1 hstuck with hover | hwaits | ⟨returnCode, hstopped, -⟩
    · rw [hmain] at hover
      cases hover
    · exact ⟨finish, hrun, hmain, hwaits.2.2.2.1, hwaits.2.2.2.2⟩
    · rw [hmain] at hstopped
      cases hstopped
  · obtain ⟨finish, hrun, hmain, hbusy⟩ : ∃ finish,
        run (Process.step leaving) (.start leaving)
            (received ++ List.replicate 6 (.advance true)) = some finish ∧
          finish.main = .joinStopped 52 ∧
          finish.threads.all ProcessingStep.isIdle = false := ⟨_, rfl, rfl, rfl⟩
    have hstuck : ∀ succeeds, finish.step leaving (.advance succeeds) = none := by
      intro succeeds
      rw [Process.step, Process.advance, hmain]
      exact if_neg (Bool.eq_false_iff.mp hbusy)
    obtain ⟨-, hwaits, hfinite⟩ := main_of_run hrun
    rcases hwaits hstuck with hover | hjoins | ⟨returnCode, -, hworks⟩
    · rw [hmain] at hover
      cases hover
    · rw [hmain] at hjoins
      cases hjoins.1
    · exact ⟨finish, hrun, hmain, hworks, hfinite 52 hmain⟩

end ProcessManagerService.Service
