import Mathlib.Algebra.GroupWithZero.Nat
import Mathlib.Data.List.Perm.Basic
import ProcessManagerService.Worker.ReceiveLoop

/-!
# Receive handlers on several threads

`runAll` lets several threads run the handlers of one worker, which share its
buffer and its endpoint.  Here the two copies, the next `startRead` and the
processing are steps of a thread each, and the threads interleave freely.  The
right to touch the shared variables is a token: it lies with the outstanding
receive, with a completed one that waits for a thread, or with the one thread
that has not started the next receive yet.
-/

namespace ProcessManagerService.Worker

open Communication ContextWorker PartialRuns

/-- The step that a thread does next.  `idle` stands between two handlers. -/
inductive HandlerStep where
  | idle
  | copyBuffer (bytesRead : ℕ)
  | copyEndpoint (receivedMessageBuffer : List Byte)
  | startRead (receivedMessageBuffer : List Byte) (senderEndpoint : Endpoint)
  | process (receivedMessageBuffer : List Byte) (senderEndpoint : Endpoint)

/-- What the threads share: the worker, the completed receives whose handlers
wait for a thread, and what has been processed. -/
structure SharedWorker where
  worker : ContextWorker
  completions : List ℕ
  processed : List (List Byte × Endpoint)

structure ThreadedWorker where
  shared : SharedWorker
  threads : List HandlerStep

/-- What happens next: a datagram arrives, or a thread makes a step. -/
inductive Happening where
  | arrive (datagram : List Byte) (endpoint : Endpoint)
  | advance (thread : ℕ)

section Steps

variable {TransactionCode : Type*} [OfNat TransactionCode 19]
  (surroundings : Surroundings TransactionCode)

/-- The step of a thread and what it does afterwards.  An idle thread takes the
handler that has waited longest. -/
def HandlerStep.perform (shared : SharedWorker) : HandlerStep → Option (SharedWorker × HandlerStep)
  | idle =>
      match shared.completions with
      | [] => none
      | bytesRead :: completions =>
          some ({ shared with completions := completions }, copyBuffer bytesRead)
  | copyBuffer bytesRead =>
      some (shared, copyEndpoint (shared.worker.messageBuffer.take bytesRead))
  | copyEndpoint receivedMessageBuffer =>
      some (shared, startRead receivedMessageBuffer shared.worker.remoteEndpoint)
  | startRead receivedMessageBuffer senderEndpoint =>
      some ({ shared with worker := shared.worker.startRead },
        process receivedMessageBuffer senderEndpoint)
  | process receivedMessageBuffer senderEndpoint =>
      some ({ shared with
        worker := (processMessage surroundings receivedMessageBuffer senderEndpoint
          shared.worker).state
        processed := shared.processed ++ [(receivedMessageBuffer, senderEndpoint)] }, idle)

/-- A datagram that fits into the buffer completes an outstanding receive. -/
def SharedWorker.arrive (shared : SharedWorker) (datagram : List Byte) (endpoint : Endpoint) :
    Option SharedWorker :=
  if 0 < shared.worker.receives ∧ datagram.length ≤ shared.worker.messageBuffer.length then
    some { shared with
      worker := shared.worker.finishReceive datagram endpoint
      completions := shared.completions ++ [datagram.length] }
  else none

def happen (system : ThreadedWorker) : Happening → Option ThreadedWorker
  | .arrive datagram endpoint => (system.shared.arrive datagram endpoint).map fun shared =>
      { system with shared := shared }
  | .advance thread => system.threads[thread]?.bind fun step =>
      (step.perform surroundings system.shared).map fun next =>
        ⟨next.1, system.threads.set thread next.2⟩

variable {surroundings} in
/-- An idle thread takes the handler that has waited longest. -/
theorem perform_idle {shared next : SharedWorker} {after : HandlerStep}
    (hperform : HandlerStep.idle.perform surroundings shared = some (next, after)) :
    ∃ bytesRead completions, shared.completions = bytesRead :: completions ∧
      next = { shared with completions := completions } ∧ after = .copyBuffer bytesRead := by
  rw [HandlerStep.perform] at hperform
  cases hcompletions : shared.completions with
  | nil =>
      rw [hcompletions] at hperform
      cases hperform
  | cons bytesRead completions =>
      rw [hcompletions] at hperform
      cases hperform
      exact ⟨bytesRead, completions, rfl, rfl, rfl⟩

/-- A thread that runs without interruption does what the handler does. -/
theorem run_handler_alone {worker : ContextWorker} {threads : List HandlerStep}
    {processed : List (List Byte × Endpoint)} {datagram : List Byte} {endpoint : Endpoint}
    (hreceives : 0 < worker.receives) (hfits : datagram.length ≤ worker.messageBuffer.length) :
    run (happen surroundings) ⟨⟨worker, [], processed⟩, .idle :: threads⟩
        (.arrive datagram endpoint :: List.replicate 5 (.advance 0)) =
      some ⟨⟨(receive surroundings datagram endpoint worker).state, [],
        processed ++ [(datagram, endpoint)]⟩, .idle :: threads⟩ := by
  have hcopied : (worker.finishReceive datagram endpoint).messageBuffer.take datagram.length =
      datagram := by
    have htaken := take_messageBuffer_finishReceive datagram endpoint worker
    rwa [Nat.min_eq_left hfits, List.take_of_length_le hfits] at htaken
  have hreceive : receive surroundings datagram endpoint worker =
      processMessage surroundings datagram endpoint
        (worker.finishReceive datagram endpoint).startRead := by
    rw [receive, handleReceive, if_neg Bool.false_ne_true, Nat.min_eq_left hfits, hcopied]
    rfl
  rw [hreceive, run_cons, happen, SharedWorker.arrive, if_pos ⟨hreceives, hfits⟩]
  simp only [List.replicate, Option.map_some, Option.bind_some, run_cons, run_nil, happen,
    List.getElem?_cons_zero, HandlerStep.perform, List.set_cons_zero, List.nil_append, hcopied]
  rfl

end Steps

/-! ## Tokens and datagrams -/

namespace HandlerStep

/-- The thread has not started the next receive yet. -/
def holdsToken : HandlerStep → Bool
  | copyBuffer _ => true
  | copyEndpoint _ => true
  | startRead _ _ => true
  | idle => false
  | process _ _ => false

/-- The bytes and the endpoint that the thread will process. -/
def carried (worker : ContextWorker) : HandlerStep → Option (List Byte × Endpoint)
  | idle => none
  | copyBuffer bytesRead => some (worker.messageBuffer.take bytesRead, worker.remoteEndpoint)
  | copyEndpoint receivedMessageBuffer => some (receivedMessageBuffer, worker.remoteEndpoint)
  | startRead receivedMessageBuffer senderEndpoint => some (receivedMessageBuffer, senderEndpoint)
  | process receivedMessageBuffer senderEndpoint => some (receivedMessageBuffer, senderEndpoint)

theorem carried_of_not_holdsToken {step : HandlerStep} (hfree : step.holdsToken = false)
    (worker other : ContextWorker) : step.carried worker = step.carried other := by
  cases step with
  | idle => rfl
  | process receivedMessageBuffer senderEndpoint => rfl
  | _ => cases hfree

theorem carried_of_keepsReceiving {before after : ContextWorker}
    (hkeeps : KeepsReceiving before after) : carried after = carried before := by
  funext step
  cases step with
  | copyBuffer bytesRead => rw [carried, carried, hkeeps.messageBuffer, hkeeps.remoteEndpoint]
  | copyEndpoint receivedMessageBuffer => rw [carried, carried, hkeeps.remoteEndpoint]
  | _ => rfl

end HandlerStep

/-- What a waiting handler will find in the shared variables. -/
def SharedWorker.waiting (shared : SharedWorker) : List (List Byte × Endpoint) :=
  shared.completions.map fun bytesRead =>
    (shared.worker.messageBuffer.take bytesRead, shared.worker.remoteEndpoint)

def inFlight (shared : SharedWorker) (threads : List HandlerStep) :
    List (List Byte × Endpoint) :=
  shared.waiting ++ threads.filterMap (HandlerStep.carried shared.worker)

/-- How often the right to touch the shared variables has been given. -/
def tokens (shared : SharedWorker) (threads : List HandlerStep) : ℕ :=
  shared.worker.receives + shared.completions.length + threads.countP HandlerStep.holdsToken

/-- There is at most one token, and these datagrams are processed or in flight. -/
structure Conserves (shared : SharedWorker) (threads : List HandlerStep)
    (received : List (List Byte × Endpoint)) : Prop where
  token : tokens shared threads ≤ 1
  perm : (shared.processed ++ inFlight shared threads).Perm received

theorem Conserves.of_perm {shared : SharedWorker} {threads others : List HandlerStep}
    {received : List (List Byte × Endpoint)} (hconserves : Conserves shared threads received)
    (hperm : others.Perm threads) : Conserves shared others received := by
  constructor
  · rw [tokens, hperm.countP_eq]
    exact hconserves.token
  · apply List.Perm.trans _ hconserves.perm
    exact ((hperm.filterMap _).append_left _).append_left _

/-- A thread in a pool and the others. -/
theorem exists_perm_set {Step : Type*} {threads : List Step} {thread : ℕ} {step : Step}
    (hstep : threads[thread]? = some step) :
    ∃ others, threads.Perm (step :: others) ∧
      ∀ next, (threads.set thread next).Perm (next :: others) := by
  obtain ⟨hbound, rfl⟩ := List.getElem?_eq_some_iff.mp hstep
  refine ⟨threads.eraseIdx thread, (List.getElem_cons_eraseIdx_perm hbound).symm, ?_⟩
  intro next
  exact List.set_perm_cons_eraseIdx hbound next

section Conservation

variable {TransactionCode : Type*} [OfNat TransactionCode 19]
  {surroundings : Surroundings TransactionCode}

omit [OfNat TransactionCode 19] in
/-- What does not concern the receive moves no token and no datagram. -/
theorem Conserves.keeps {shared : SharedWorker} {threads : List HandlerStep}
    {received : List (List Byte × Endpoint)} {worker : ContextWorker}
    (hconserves : Conserves shared threads received)
    (hkeeps : KeepsReceiving shared.worker worker) :
    Conserves { shared with worker } threads received := by
  obtain ⟨htoken, hperm⟩ := hconserves
  constructor
  · rw [tokens, hkeeps.receives]
    exact htoken
  · rw [inFlight, SharedWorker.waiting, hkeeps.messageBuffer, hkeeps.remoteEndpoint,
      HandlerStep.carried_of_keepsReceiving hkeeps]
    exact hperm

omit [OfNat TransactionCode 19] in
/-- The datagram that a thread carries is processed. -/
theorem Conserves.process {shared : SharedWorker} {others : List HandlerStep}
    {received : List (List Byte × Endpoint)} {receivedMessageBuffer : List Byte}
    {senderEndpoint : Endpoint}
    (hconserves : Conserves shared (.process receivedMessageBuffer senderEndpoint :: others)
      received) :
    Conserves { shared with
      processed := shared.processed ++ [(receivedMessageBuffer, senderEndpoint)] }
      (.idle :: others) received := by
  obtain ⟨htoken, hperm⟩ := hconserves
  refine ⟨htoken, ?_⟩
  apply List.Perm.trans _ hperm
  simp only [inFlight, SharedWorker.waiting, List.filterMap_cons, HandlerStep.carried,
    List.append_assoc, List.singleton_append]
  exact List.perm_middle.symm.append_left _

/-- The step of a thread moves the token and the datagram that it carries. -/
theorem Conserves.perform {shared next : SharedWorker} {step after : HandlerStep}
    {others : List HandlerStep} {received : List (List Byte × Endpoint)}
    (hconserves : Conserves shared (step :: others) received)
    (hperform : step.perform surroundings shared = some (next, after)) :
    Conserves next (after :: others) received := by
  have ⟨htoken, hperm⟩ := hconserves
  cases step with
  | idle =>
      obtain ⟨bytesRead, completions, hcompletions, rfl, rfl⟩ := perform_idle hperform
      constructor
      · simp only [tokens, hcompletions, List.length_cons, List.countP_cons,
          HandlerStep.holdsToken, if_true, Bool.false_eq_true, if_false] at htoken ⊢
        omega
      · apply List.Perm.trans _ hperm
        simp only [inFlight, SharedWorker.waiting, hcompletions, HandlerStep.carried,
          List.filterMap_cons, List.map_cons, List.cons_append]
        exact List.perm_middle.append_left _
  | copyBuffer bytesRead =>
      cases hperform
      exact ⟨htoken, hperm⟩
  | copyEndpoint receivedMessageBuffer =>
      cases hperform
      exact ⟨htoken, hperm⟩
  | startRead receivedMessageBuffer senderEndpoint =>
      cases hperform
      constructor
      · simp only [tokens, ContextWorker.startRead, List.countP_cons, HandlerStep.holdsToken,
          if_true, Bool.false_eq_true, if_false] at htoken ⊢
        omega
      · exact hperm
  | process receivedMessageBuffer senderEndpoint =>
      cases hperform
      exact (Conserves.process hconserves).keeps (keepsReceiving_processMessage surroundings
        receivedMessageBuffer senderEndpoint shared.worker)

/-- An arriving datagram finds the shared variables free. -/
theorem Conserves.arrive {shared next : SharedWorker} {threads : List HandlerStep}
    {received : List (List Byte × Endpoint)} {datagram : List Byte} {endpoint : Endpoint}
    (hconserves : Conserves shared threads received)
    (harrive : shared.arrive datagram endpoint = some next) :
    Conserves next threads (received ++ [(datagram, endpoint)]) := by
  obtain ⟨htoken, hperm⟩ := hconserves
  rw [SharedWorker.arrive] at harrive
  split at harrive
  · rename_i hguard
    obtain ⟨hreceives, hfits⟩ := hguard
    cases harrive
    rw [tokens] at htoken
    have hnone : shared.completions = [] := by
      apply List.length_eq_zero_iff.mp
      omega
    have hfree : threads.countP HandlerStep.holdsToken = 0 := by omega
    have hcarried : threads.filterMap
        (HandlerStep.carried (shared.worker.finishReceive datagram endpoint)) =
          threads.filterMap (HandlerStep.carried shared.worker) := by
      apply List.filterMap_congr
      intro step hmem
      apply HandlerStep.carried_of_not_holdsToken
      exact Bool.eq_false_iff.mpr (List.countP_eq_zero.mp hfree step hmem)
    have hcopied : (shared.worker.finishReceive datagram endpoint).messageBuffer.take
        datagram.length = datagram := by
      have htaken := take_messageBuffer_finishReceive datagram endpoint shared.worker
      rwa [Nat.min_eq_left hfits, List.take_of_length_le hfits] at htaken
    constructor
    · rw [tokens, hfree, hnone]
      simp only [finishReceive, List.nil_append, List.length_singleton]
      omega
    · have hreceived : (shared.processed ++ threads.filterMap
          (HandlerStep.carried shared.worker)).Perm received := by
        simpa [inFlight, SharedWorker.waiting, hnone] using hperm
      have hnew : (finishReceive datagram endpoint shared.worker).remoteEndpoint = endpoint := rfl
      simp only [inFlight, SharedWorker.waiting, hnone, List.nil_append, List.map_singleton,
        hcopied, hcarried, hnew, List.singleton_append]
      have hlast : ((datagram, endpoint) :: received).Perm (received ++ [(datagram, endpoint)]) :=
        (List.perm_append_singleton _ _).symm
      exact List.perm_middle.trans ((hreceived.cons _).trans hlast)
  · cases harrive

/-- The datagrams that arrive, in order. -/
def arrivals (happenings : List Happening) : List (List Byte × Endpoint) :=
  happenings.filterMap fun happening =>
    match happening with
    | .arrive datagram endpoint => some (datagram, endpoint)
    | .advance _ => none

theorem Conserves.happen {system next : ThreadedWorker} {received : List (List Byte × Endpoint)}
    {happening : Happening} (hconserves : Conserves system.shared system.threads received)
    (hhappen : happen surroundings system happening = some next) :
    Conserves next.shared next.threads (received ++ arrivals [happening]) := by
  cases happening with
  | arrive datagram endpoint =>
      obtain ⟨shared, harrive, rfl⟩ := Option.map_eq_some_iff.mp hhappen
      exact hconserves.arrive harrive
  | advance thread =>
      obtain ⟨step, hstep, hmove⟩ := Option.bind_eq_some_iff.mp hhappen
      obtain ⟨after, hperform, rfl⟩ := Option.map_eq_some_iff.mp hmove
      obtain ⟨others, hbefore, hset⟩ := exists_perm_set hstep
      have hreceived : received ++ arrivals [.advance thread] = received :=
        List.append_nil received
      rw [hreceived]
      exact ((hconserves.of_perm hbefore.symm).perform hperform).of_perm (hset after.2)

theorem conserves_of_run {system finish : ThreadedWorker} {happenings : List Happening}
    {received : List (List Byte × Endpoint)}
    (hconserves : Conserves system.shared system.threads received)
    (hrun : run (Worker.happen surroundings) system happenings = some finish) :
    Conserves finish.shared finish.threads (received ++ arrivals happenings) := by
  induction happenings generalizing system received with
  | nil =>
      cases hrun
      rw [arrivals, List.filterMap_nil, List.append_nil]
      exact hconserves
  | cons happening happenings ih =>
      obtain ⟨next, hnext, hrest⟩ := run_cons_eq_some.mp hrun
      have hall : arrivals (happening :: happenings) =
          arrivals [happening] ++ arrivals happenings :=
        List.filterMap_append (l := [happening])
      rw [hall, ← List.append_assoc]
      exact ih (hconserves.happen hnext) hrest

end Conservation

/-! ## Handlers come to their end -/

/-- The steps that a thread has still to make. -/
def HandlerStep.remaining : HandlerStep → ℕ
  | idle => 0
  | copyBuffer _ => 4
  | copyEndpoint _ => 3
  | startRead _ _ => 2
  | process _ _ => 1

/-- The steps that are still to be made for the datagrams that have arrived. -/
def remaining (system : ThreadedWorker) : ℕ :=
  5 * system.shared.completions.length + (system.threads.map HandlerStep.remaining).sum

theorem inFlight_of_remaining_eq_zero {system : ThreadedWorker} (hnone : remaining system = 0) :
    inFlight system.shared system.threads = [] := by
  obtain ⟨hcompletions, hthreads⟩ := Nat.add_eq_zero_iff.mp hnone
  have hempty : system.shared.completions = [] := by
    apply List.length_eq_zero_iff.mp
    omega
  rw [inFlight, SharedWorker.waiting, hempty, List.map_nil, List.nil_append,
    List.filterMap_eq_nil_iff]
  intro step hmem
  have hstep : step.remaining = 0 :=
    List.sum_eq_zero_iff_forall_eq_nat.mp hthreads _ (List.mem_map_of_mem hmem)
  cases step with
  | idle => rfl
  | _ => cases hstep

section Progress

variable {TransactionCode : Type*} [OfNat TransactionCode 19]
  (surroundings : Surroundings TransactionCode)

theorem remaining_perform {shared next : SharedWorker} {step after : HandlerStep}
    (hperform : step.perform surroundings shared = some (next, after)) :
    5 * next.completions.length + after.remaining + 1 =
      5 * shared.completions.length + step.remaining := by
  cases step with
  | idle =>
      obtain ⟨bytesRead, completions, hcompletions, rfl, rfl⟩ := perform_idle hperform
      rw [hcompletions]
      rfl
  | _ =>
      cases hperform
      rfl

/-- While steps remain, some thread is ready to make one. -/
theorem exists_ready {system : ThreadedWorker} (hthreads : 0 < system.threads.length)
    (hremaining : remaining system ≠ 0) :
    ∃ thread : ℕ, ∃ step : HandlerStep, ∃ next, system.threads[thread]? = some step ∧
      step.perform surroundings system.shared = some next := by
  by_cases hbusy : ∃ step ∈ system.threads, step ≠ .idle
  · obtain ⟨step, hmem, hstep⟩ := hbusy
    obtain ⟨thread, hthread⟩ := List.mem_iff_getElem?.mp hmem
    refine ⟨thread, step, ?_⟩
    cases step with
    | idle => exact absurd rfl hstep
    | _ => exact ⟨_, hthread, rfl⟩
  · push Not at hbusy
    have hidle : (system.threads.map HandlerStep.remaining).sum = 0 := by
      apply List.sum_eq_zero_iff_forall_eq_nat.mpr
      intro count hcount
      obtain ⟨step, hmem, rfl⟩ := List.mem_map.mp hcount
      rw [hbusy step hmem]
      rfl
    cases hcompletions : system.shared.completions with
    | nil =>
        rw [remaining, hcompletions, hidle] at hremaining
        exact absurd rfl hremaining
    | cons bytesRead completions =>
        refine ⟨0, .idle, ({ system.shared with completions := completions },
          .copyBuffer bytesRead), ?_, ?_⟩
        · rw [List.getElem?_eq_getElem hthreads, hbusy _ (List.getElem_mem hthreads)]
        · rw [HandlerStep.perform, hcompletions]

theorem exists_advance {system : ThreadedWorker} (hthreads : 0 < system.threads.length)
    (hremaining : remaining system ≠ 0) :
    ∃ thread next, happen surroundings system (.advance thread) = some next ∧
      next.threads.length = system.threads.length ∧ remaining next + 1 = remaining system := by
  obtain ⟨thread, step, next, hstep, hperform⟩ := exists_ready surroundings hthreads hremaining
  refine ⟨thread, ⟨next.1, system.threads.set thread next.2⟩, ?_, List.length_set, ?_⟩
  · rw [happen, hstep, Option.bind_some, hperform, Option.map_some]
  · obtain ⟨others, hbefore, hset⟩ := exists_perm_set hstep
    have hsteps := remaining_perform surroundings hperform
    rw [remaining, remaining, (hbefore.map _).sum_nat, ((hset next.2).map _).sum_nat,
      List.map_cons, List.map_cons, List.sum_cons, List.sum_cons]
    dsimp only
    omega

/-- The threads alone can come to the end of every handler. -/
theorem exists_run_to_end {system : ThreadedWorker} (hthreads : 0 < system.threads.length) :
    ∃ (schedule : List ℕ) (finish : ThreadedWorker),
      run (happen surroundings) system (schedule.map Happening.advance) = some finish ∧
        remaining finish = 0 := by
  induction hcount : remaining system generalizing system with
  | zero => exact ⟨[], system, rfl, hcount⟩
  | succ count ih =>
      have hsome : remaining system ≠ 0 := by
        rw [hcount]
        exact Nat.succ_ne_zero count
      obtain ⟨thread, next, hnext, hlength, hless⟩ := exists_advance surroundings hthreads hsome
      have hthreads' : 0 < next.threads.length := by
        rw [hlength]
        exact hthreads
      obtain ⟨schedule, finish, hrun, hend⟩ := ih hthreads' (by omega)
      exact ⟨thread :: schedule, finish, run_cons_eq_some.mpr ⟨next, hnext, hrun⟩, hend⟩

/-- The worker listens for the first datagram, and all threads are idle. -/
def ThreadedWorker.start (worker : ContextWorker) (threads : ℕ) : ThreadedWorker :=
  ⟨⟨worker.startRead, [], []⟩, List.replicate threads .idle⟩

theorem conserves_start {worker : ContextWorker} (hidle : worker.receives = 0) (threads : ℕ) :
    Conserves (ThreadedWorker.start worker threads).shared
      (ThreadedWorker.start worker threads).threads [] := by
  constructor
  · have hfree : (List.replicate threads HandlerStep.idle).countP HandlerStep.holdsToken = 0 := by
      apply List.countP_eq_zero.mpr
      intro step hmem
      rw [List.eq_of_mem_replicate hmem]
      exact Bool.false_ne_true
    rw [tokens, ThreadedWorker.start, hfree, ContextWorker.startRead, hidle]
    rfl
  · have hnone : (List.replicate threads HandlerStep.idle).filterMap
        (HandlerStep.carried worker.startRead) = [] := by
      apply List.filterMap_eq_nil_iff.mpr
      intro step hmem
      rw [List.eq_of_mem_replicate hmem]
      rfl
    simp only [inFlight, SharedWorker.waiting, ThreadedWorker.start, hnone]
    exact List.Perm.refl []

/-- However the datagrams and the threads interleave, what has been processed
and what is in flight are the datagrams that have arrived, each once and with
its own sender.  Nothing is left once no handler waits or runs, and the threads
can always get there. -/
theorem processed_once {worker : ContextWorker} (hidle : worker.receives = 0) (threads : ℕ)
    {happenings : List Happening} {system : ThreadedWorker}
    (hrun : run (happen surroundings) (.start worker threads) happenings = some system) :
    (system.shared.processed ++ inFlight system.shared system.threads).Perm
        (arrivals happenings) ∧
      (system.shared.completions = [] → (∀ step ∈ system.threads, step = .idle) →
        system.shared.processed.Perm (arrivals happenings)) ∧
      (0 < system.threads.length → ∃ (schedule : List ℕ) (finish : ThreadedWorker),
        run (happen surroundings) system (schedule.map Happening.advance) = some finish ∧
          finish.shared.processed.Perm (arrivals happenings)) := by
  have hconserves := conserves_of_run (conserves_start hidle threads) hrun
  rw [List.nil_append] at hconserves
  have hended : ∀ finish : ThreadedWorker,
      Conserves finish.shared finish.threads (arrivals happenings) → remaining finish = 0 →
        finish.shared.processed.Perm (arrivals happenings) := by
    intro finish hfinish hend
    have hperm := hfinish.perm
    rwa [inFlight_of_remaining_eq_zero hend, List.append_nil] at hperm
  refine ⟨hconserves.perm, ?_, ?_⟩
  · intro hcompletions hthreads
    apply hended system hconserves
    rw [remaining, hcompletions, List.length_nil, Nat.mul_zero, Nat.zero_add]
    apply List.sum_eq_zero_iff_forall_eq_nat.mpr
    intro count hcount
    obtain ⟨step, hmem, rfl⟩ := List.mem_map.mp hcount
    rw [hthreads step hmem]
    rfl
  · intro hthreads
    obtain ⟨schedule, finish, hfinish, hend⟩ := exists_run_to_end surroundings hthreads
    have hlast := conserves_of_run hconserves hfinish
    have hnothing : arrivals (schedule.map Happening.advance) = [] := by
      apply List.filterMap_eq_nil_iff.mpr
      intro happening hmem
      obtain ⟨thread, -, rfl⟩ := List.mem_map.mp hmem
      rfl
    rw [hnothing, List.append_nil] at hlast
    exact ⟨schedule, finish, hfinish, hended finish hlast hend⟩

end Progress

/-! ## Two threads -/

private def unanswered : Surroundings UInt32 where
  codec := Codec.plain
  serviceIdentifier := 0x05000000
  copyFrom := fun _ => none
  findOne := fun _ => .ok none
  addressFromString := fun _ => none

private def firstDatagram : List Byte × Endpoint := ([1, 2], ⟨[127, 0, 0, 1], 4000⟩)

private def secondDatagram : List Byte × Endpoint := ([3], ⟨[127, 0, 0, 1], 5000⟩)

/-- The second datagram is processed while the first is still held back. -/
private def overtaking : List Happening :=
  [.arrive firstDatagram.1 firstDatagram.2, .advance 0, .advance 0, .advance 0, .advance 0,
    .arrive secondDatagram.1 secondDatagram.2, .advance 1, .advance 1, .advance 1, .advance 1,
    .advance 1]

set_option maxRecDepth 20000 in
theorem processed_once_overtaking :
    ∃ system, run (happen unanswered) (.start (create ⟨[]⟩ ⟨[]⟩) 2) overtaking = some system ∧
      (system.shared.processed ++ inFlight system.shared system.threads).Perm
        [firstDatagram, secondDatagram] := by
  have hrun : ∃ system,
      run (happen unanswered) (.start (create ⟨[]⟩ ⟨[]⟩) 2) overtaking = some system :=
    ⟨_, rfl⟩
  obtain ⟨system, hsystem⟩ := hrun
  exact ⟨system, hsystem, (processed_once unanswered rfl 2 hsystem).1⟩

end ProcessManagerService.Worker
