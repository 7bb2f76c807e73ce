import Mathlib.Data.Fintype.Basic
import ProcessManagerService.Connection.Interleaving

/-!
# A single writer

At any time at most one thread or one outstanding write is entitled to go on
with the sending.  The test of `sendingInProgress` hands this entitlement out,
but the flag is set only one step later, and the queue can have been emptied by
the running chain before the test.  Those two windows are the only way to a
second outstanding write or to an access of an empty queue.
-/

namespace ProcessManagerService.SingleWriter

open Communication Connection Interleaving PartialRuns

variable {T Thread : Type*}

/-- The thread relies on a message at the front of the queue. -/
def needsMessage : Activity T → Bool
  | .testMore => false
  | .testRest => false
  | .disconnect => false
  | .clearSending => false
  | activity => inChain activity

/-- Who is entitled to go on with the sending. -/
inductive Custody (state : SystemState Thread T) : Prop where
  | free (houtstanding : state.shared.outstanding = [])
      (hnobody : ∀ thread, inChain (state.activity thread) = false) : Custody state
  | onWire (operation : AsyncOperation)
      (houtstanding : state.shared.outstanding = [operation])
      (hnobody : ∀ thread, inChain (state.activity thread) = false)
      (hsending : state.shared.sendingInProgress = true)
      (hitems : state.shared.messagesQueue.items ≠ []) : Custody state
  | held (holder : Thread) (houtstanding : state.shared.outstanding = [])
      (honly : ∀ thread, inChain (state.activity thread) = true → thread = holder)
      (hsending : state.shared.sendingInProgress = false →
        state.activity holder = .setSending)
      (hitems : needsMessage (state.activity holder) = true →
        state.shared.messagesQueue.items ≠ []) : Custody state

theorem items_ne_nil_of_empty {queue : MessageQueue (Message T)}
    (hempty : queue.empty = false) : queue.items ≠ [] := by
  intro hitems
  rw [(MessageQueue.empty_iff queue).mpr hitems] at hempty
  cases hempty

section Custody

variable [DecidableEq Thread] {state : SystemState Thread T} {thread : Thread}
  {shared : SharedState T} {next : Activity T}

/-- When nobody else is in the chain, nobody is after a step of a thread that ends
outside. -/
theorem nobody_goto (hnobody : ∀ other ≠ thread, inChain (state.activity other) = false)
    (hnext : inChain next = false) :
    ∀ other, inChain ((state.goto thread shared next).activity other) = false := by
  intro other
  by_cases hother : other = thread
  · rw [hother, activity_goto_self]
    exact hnext
  · rw [activity_goto_of_ne hother]
    exact hnobody other hother

/-- A step to the outside of the chain that starts no write keeps the custody. -/
theorem Custody.outside (hcustody : Custody state) (hnext : inChain next = false)
    (houtstanding : shared.outstanding = state.shared.outstanding)
    (hsending : shared.sendingInProgress = state.shared.sendingInProgress)
    (hitems : state.shared.messagesQueue.items ≠ [] → shared.messagesQueue.items ≠ []) :
    Custody (state.goto thread shared next) := by
  cases hcustody with
  | free hnone hnobody =>
      exact .free (houtstanding.trans hnone) (nobody_goto (fun other _ => hnobody other) hnext)
  | onWire operation hone hnobody hflag hfront =>
      exact .onWire operation (houtstanding.trans hone)
        (nobody_goto (fun other _ => hnobody other) hnext)
        (hsending.trans hflag) (hitems hfront)
  | held holder hnone honly hflag hfront =>
      by_cases hholder : holder = thread
      · refine .free (houtstanding.trans hnone) ?_
        intro other
        by_cases hother : other = thread
        · rw [hother, activity_goto_self]
          exact hnext
        · rw [activity_goto_of_ne hother]
          by_contra hchain
          exact hother ((honly other (by simpa using hchain)).trans hholder)
      · refine .held holder (houtstanding.trans hnone) (fun other hchain => ?_) ?_ ?_
        · by_cases hother : other = thread
          · rw [hother, activity_goto_self, hnext] at hchain
            cases hchain
          · rw [activity_goto_of_ne hother] at hchain
            exact honly other hchain
        · rw [activity_goto_of_ne hholder, shared_goto, hsending]
          exact hflag
        · rw [activity_goto_of_ne hholder]
          exact fun hneeds => hitems (hfront hneeds)

omit [DecidableEq Thread] in
/-- What the custody means to a thread in the chain. -/
theorem Custody.of_inChain (hcustody : Custody state)
    (hchain : inChain (state.activity thread) = true) :
    state.shared.outstanding = [] ∧
    (∀ other, inChain (state.activity other) = true → other = thread) ∧
    (state.shared.sendingInProgress = false → state.activity thread = .setSending) ∧
    (needsMessage (state.activity thread) = true →
      state.shared.messagesQueue.items ≠ []) := by
  cases hcustody with
  | free hnone hnobody => simp [hnobody thread] at hchain
  | onWire operation hone hnobody => simp [hnobody thread] at hchain
  | held holder hnone honly hflag hfront =>
      obtain rfl := honly thread hchain
      exact ⟨hnone, honly, hflag, hfront⟩

/-- The only thread in the chain goes on. -/
theorem Custody.hold (houtstanding : shared.outstanding = [])
    (honly : ∀ other, inChain (state.activity other) = true → other = thread)
    (hsending : shared.sendingInProgress = false → next = .setSending)
    (hitems : needsMessage next = true → shared.messagesQueue.items ≠ []) :
    Custody (state.goto thread shared next) := by
  refine .held thread houtstanding (fun other hchain => ?_) ?_ ?_
  · by_contra hother
    rw [activity_goto_of_ne hother] at hchain
    exact hother (honly other hchain)
  · rw [activity_goto_self]
    exact hsending
  · rw [activity_goto_self]
    exact hitems

/-- The only thread in the chain goes on and leaves the writes and the flag alone. -/
theorem Custody.onward (hcustody : Custody state)
    (hchain : inChain (state.activity thread) = true)
    (hset : state.activity thread ≠ .setSending)
    (houtstanding : shared.outstanding = state.shared.outstanding)
    (hsending : shared.sendingInProgress = state.shared.sendingInProgress)
    (hitems : needsMessage next = true → shared.messagesQueue.items ≠ []) :
    Custody (state.goto thread shared next) := by
  obtain ⟨hnone, honly, hflag, -⟩ := hcustody.of_inChain hchain
  apply Custody.hold (houtstanding.trans hnone) honly _ hitems
  intro hfalse
  exact absurd (hflag (hsending.symm.trans hfalse)) hset

/-- The only thread in the chain leaves it. -/
theorem nobody_of_leave (honly : ∀ other, inChain (state.activity other) = true → other = thread)
    (hnext : inChain next = false) :
    ∀ other, inChain ((state.goto thread shared next).activity other) = false := by
  apply nobody_goto _ hnext
  intro other hother
  by_contra hchain
  exact hother (honly other (by simpa using hchain))

variable [HeaderLayout T]

omit [DecidableEq Thread] in
/-- A thread in the chain reaches no empty queue. -/
theorem Custody.step_ne_none (hcustody : Custody state) :
    (state.activity thread).step state.shared ≠ none := by
  have hfront : needsMessage (state.activity thread) = true →
      ∃ message items, state.shared.messagesQueue.items = message :: items := by
    intro hneeds
    have hchain : inChain (state.activity thread) = true := by
      cases hactivity : state.activity thread <;> simp_all [needsMessage, inChain]
    exact List.exists_cons_of_ne_nil ((hcustody.of_inChain hchain).2.2.2 hneeds)
  cases hactivity : state.activity thread with
  | headerFront | testBody | bodyData | bodySize | popEmpty | popSent =>
      obtain ⟨message, items, hitems⟩ := hfront (by rw [hactivity]; rfl)
      simp [Activity.step, MessageQueue.front_of_items hitems, MessageQueue.pop_of_items hitems]
  | _ => simp [Activity.step]

/-- The state in which a test of the flag starts a second writer, or a writer
for an empty queue. -/
def UnguardedRead (state : SystemState Thread T) : Move Thread T → Prop
  | .advance thread => state.activity thread = .testSending ∧
      state.shared.sendingInProgress = false ∧
      (state.shared.messagesQueue.items = [] ∨ ∃ other, state.activity other = .setSending)
  | _ => False

omit [DecidableEq Thread] [HeaderLayout T] in
instance [Fintype Thread] [DecidableEq T] (state : SystemState Thread T) :
    ∀ move, Decidable (UnguardedRead state move)
  | .advance _ => inferInstanceAs (Decidable (_ ∧ _ ∧ (_ ∨ _)))
  | .call _ _ => inferInstanceAs (Decidable False)
  | .complete _ _ _ => inferInstanceAs (Decidable False)

omit [HeaderLayout T] in
/-- The test of the flag hands out the custody only when nobody has it. -/
theorem Custody.testSending (hcustody : Custody state)
    (hguard : ¬ UnguardedRead state (.advance thread))
    (hactivity : state.activity thread = .testSending) :
    Custody (state.goto thread state.shared
      (if state.shared.sendingInProgress then .idle else .setSending)) := by
  cases hsending : state.shared.sendingInProgress with
  | true => exact hcustody.outside rfl rfl rfl id
  | false =>
      have hitems : state.shared.messagesQueue.items ≠ [] :=
        fun hempty => hguard ⟨hactivity, hsending, .inl hempty⟩
      cases hcustody with
      | free hnone hnobody =>
          exact .hold hnone (fun other hchain => by simp [hnobody other] at hchain)
            (fun _ => rfl) (fun _ => hitems)
      | onWire operation hone hnobody hflag =>
          rw [hsending] at hflag
          cases hflag
      | held holder hnone honly hflag =>
          exact absurd ⟨hactivity, hsending, .inr ⟨holder, hflag hsending⟩⟩ hguard

omit [HeaderLayout T] in
/-- A write of the only thread in the chain carries the custody on. -/
theorem Custody.startWrite (operation : AsyncOperation) (hcustody : Custody state)
    (hchain : inChain (state.activity thread) = true)
    (hset : state.activity thread ≠ .setSending)
    (hneeds : needsMessage (state.activity thread) = true) :
    Custody (state.goto thread { state.shared with
      outstanding := state.shared.outstanding ++ [operation] } .idle) := by
  obtain ⟨hnone, honly, hflag, hitems⟩ := hcustody.of_inChain hchain
  refine .onWire operation ?_ (nobody_of_leave honly rfl) ?_ (hitems hneeds)
  · rw [shared_goto, hnone, List.nil_append]
  · by_contra hfalse
    exact hset (hflag (by simpa using hfalse))

/-- A step of one thread keeps the custody. -/
theorem Custody.advance (hcustody : Custody state)
    (hguard : ¬ UnguardedRead state (.advance thread))
    (hstep : (state.activity thread).step state.shared = some (shared, next)) :
    Custody (state.goto thread shared next) := by
  cases hactivity : state.activity thread with
  | idle =>
      rw [hactivity] at hstep
      cases hstep
      exact hcustody.outside rfl rfl rfl id
  | push message =>
      rw [hactivity] at hstep
      cases hstep
      exact hcustody.outside rfl rfl rfl (by simp)
  | testOpen =>
      rw [hactivity] at hstep
      cases hstep
      exact hcustody.outside (by split <;> rfl) rfl rfl id
  | testSending =>
      rw [hactivity] at hstep
      cases hstep
      exact hcustody.testSending hguard hactivity
  | setSending =>
      obtain ⟨hnone, honly, -, hitems⟩ := hcustody.of_inChain (by rw [hactivity]; rfl)
      rw [hactivity] at hstep hitems
      cases hstep
      exact .hold hnone honly (fun hfalse => Bool.noConfusion hfalse) (fun _ => hitems rfl)
  | startHeader buffer =>
      rw [hactivity] at hstep
      cases hstep
      exact hcustody.startWrite (.writeHeader buffer) (by rw [hactivity]; rfl)
        (by simp [hactivity]) (by rw [hactivity]; rfl)
  | startBody buffer =>
      rw [hactivity] at hstep
      cases hstep
      exact hcustody.startWrite (.writeBody buffer) (by rw [hactivity]; rfl)
        (by simp [hactivity]) (by rw [hactivity]; rfl)
  | headerFront | testBody | bodyData | bodySize =>
      have hchain : inChain (state.activity thread) = true := by rw [hactivity]; rfl
      have hitems := (hcustody.of_inChain hchain).2.2.2 (by rw [hactivity]; rfl)
      rw [hactivity] at hstep
      obtain ⟨message, -, hnext⟩ := Option.map_eq_some_iff.mp hstep
      cases hnext
      exact hcustody.onward hchain (by simp [hactivity]) rfl rfl (fun _ => hitems)
  | popEmpty | popSent =>
      rw [hactivity] at hstep
      obtain ⟨queue, -, hnext⟩ := Option.map_eq_some_iff.mp hstep
      cases hnext
      exact hcustody.onward (by rw [hactivity]; rfl) (by simp [hactivity]) rfl rfl nofun
  | testMore =>
      rw [hactivity] at hstep
      cases hstep
      cases hempty : state.shared.messagesQueue.empty with
      | true => exact hcustody.outside rfl rfl rfl id
      | false =>
          exact hcustody.onward (by rw [hactivity]; rfl) (by simp [hactivity]) rfl rfl
            (fun _ => items_ne_nil_of_empty hempty)
  | testRest =>
      have hchain : inChain (state.activity thread) = true := by rw [hactivity]; rfl
      rw [hactivity] at hstep
      cases hstep
      cases hempty : state.shared.messagesQueue.empty with
      | true => exact hcustody.onward hchain (by simp [hactivity]) rfl rfl nofun
      | false =>
          exact hcustody.onward hchain (by simp [hactivity]) rfl rfl
            (fun _ => items_ne_nil_of_empty hempty)
  | disconnect =>
      rw [hactivity] at hstep
      cases hstep
      exact hcustody.onward (by rw [hactivity]; rfl) (by simp [hactivity]) rfl rfl nofun
  | clearSending =>
      obtain ⟨hnone, honly, -, -⟩ := hcustody.of_inChain (by rw [hactivity]; rfl)
      rw [hactivity] at hstep
      cases hstep
      exact .free hnone (nobody_of_leave honly rfl)

/-- At most one write is outstanding, and `front` and `pop` have only been used
on a queue that was not empty. -/
structure Orderly (state : SystemState Thread T) : Prop where
  outstanding : state.shared.outstanding.length ≤ 1
  defined : state.faulted = false

omit [DecidableEq Thread] [HeaderLayout T] in
theorem Custody.orderly (hcustody : Custody state) (hfaulted : state.faulted = false) :
    Orderly state := by
  refine ⟨?_, hfaulted⟩
  cases hcustody with
  | free hnone => simp [hnone]
  | onWire operation hone => simp [hone]
  | held holder hnone => simp [hnone]

omit [DecidableEq Thread] [HeaderLayout T] in
theorem custody_connectedSystem : Custody (connectedSystem Thread T) :=
  .free rfl fun _ => rfl

omit [HeaderLayout T] in
/-- The completion of the outstanding write hands the custody to the thread that
runs its handler. -/
theorem Custody.completed {operation : AsyncOperation} {error : Bool}
    (hcustody : Custody state) (hmem : operation ∈ state.shared.outstanding) :
    Custody (state.goto thread { state.shared with
      outstanding := state.shared.outstanding.erase operation }
      (.afterWrite operation error)) := by
  cases hcustody with
  | free hnone => simp [hnone] at hmem
  | held holder hnone => simp [hnone] at hmem
  | onWire other hone hnobody hflag hitems =>
      obtain rfl : operation = other := by simpa [hone] using hmem
      refine .hold ?_ (fun other hchain => by simp [hnobody other] at hchain)
        (fun hfalse => ?_) (fun _ => hitems)
      · simp [hone]
      · rw [hflag] at hfalse
        cases hfalse

/-- A step outside the two windows keeps the custody and is defined. -/
theorem Custody.after_step {after : SystemState Thread T} {move : Move Thread T}
    (hcustody : Custody state) (hguard : ¬ UnguardedRead state move)
    (hstep : systemStep state move = some after) :
    Custody after ∧ after.faulted = false := by
  obtain ⟨hfaulted, hmove⟩ := systemMove_of_step hstep
  cases hmove with
  | called thread message hidle => exact ⟨hcustody.outside rfl rfl rfl id, hfaulted⟩
  | completed thread operation error hidle hmem => exact ⟨hcustody.completed hmem, hfaulted⟩
  | advanced thread shared next hbusy hactivity =>
      exact ⟨hcustody.advance hguard hactivity, hfaulted⟩
  | faulted thread hactivity => exact absurd hactivity hcustody.step_ne_none

/-! ## What a test in one of the windows leads to -/

/-- A thread that has decided to send starts a write with the next steps. -/
theorem run_setSending {front : Message T} {rest : List (Message T)}
    (hfaulted : state.faulted = false) (hactivity : state.activity thread = .setSending)
    (hitems : state.shared.messagesQueue.items = front :: rest) :
    ∃ finish, run systemStep state
        [.advance thread, .advance thread, .advance thread] = some finish ∧
      finish.faulted = false ∧
      finish.shared.messagesQueue = state.shared.messagesQueue ∧
      finish.shared.outstanding.length = state.shared.outstanding.length + 1 ∧
      ∀ other, other ≠ thread → finish.activity other = state.activity other := by
  let flagged : SystemState Thread T :=
    state.goto thread { state.shared with sendingInProgress := true } .headerFront
  let fronted : SystemState Thread T :=
    flagged.goto thread flagged.shared (.startHeader (HeaderLayout.encode front.header))
  have hflagged : systemStep state (.advance thread) = some flagged :=
    systemStep_advance hfaulted (by simp [hactivity]) (by rw [hactivity]; rfl)
  have hfronted : systemStep flagged (.advance thread) = some fronted := by
    refine systemStep_advance hfaulted (by simp [flagged]) ?_
    simp [flagged, Activity.step, MessageQueue.front_of_items hitems]
  let started : SystemState Thread T := fronted.goto thread { fronted.shared with
    outstanding := fronted.shared.outstanding ++
      [.writeHeader (HeaderLayout.encode front.header)] } .idle
  have hstarted : systemStep fronted (.advance thread) = some started := by
    refine systemStep_advance hfaulted (by simp [fronted]) ?_
    rw [activity_goto_self]
    rfl
  refine ⟨started, ?_, hfaulted, rfl, List.length_append, fun other hother => ?_⟩
  · rw [run_cons, hflagged, Option.bind_some, run_cons, hfronted, Option.bind_some, run_cons,
      hstarted, Option.bind_some, run_nil]
  · rw [activity_goto_of_ne hother, activity_goto_of_ne hother, activity_goto_of_ne hother]

/-- A thread that has decided to send while the queue is empty runs into
undefined behaviour. -/
theorem run_setSending_empty (hfaulted : state.faulted = false)
    (hactivity : state.activity thread = .setSending)
    (hitems : state.shared.messagesQueue.items = []) :
    ∃ finish, run systemStep state
        [.advance thread, .advance thread] = some finish ∧ finish.faulted = true := by
  let flagged : SystemState Thread T :=
    state.goto thread { state.shared with sendingInProgress := true } .headerFront
  have hflagged : systemStep state (.advance thread) = some flagged :=
    systemStep_advance hfaulted (by simp [hactivity]) (by rw [hactivity]; rfl)
  have hfault : systemStep flagged (.advance thread) =
      some { flagged with faulted := true } := by
    refine systemStep_fault hfaulted ?_
    simp [flagged, Activity.step, MessageQueue.front, hitems]
  refine ⟨{ flagged with faulted := true }, ?_, rfl⟩
  rw [run_cons, hflagged, Option.bind_some, run_cons, hfault, Option.bind_some, run_nil]

/-- Both windows lead out of order: the threads that have decided to send only
have to go on. -/
theorem exists_disorder {after : SystemState Thread T} {move : Move Thread T}
    (hunguarded : UnguardedRead state move) (hstep : systemStep state move = some after) :
    ∃ later finish, run systemStep after later = some finish ∧ ¬ Orderly finish := by
  obtain ⟨hfaulted, hmove⟩ := systemMove_of_step hstep
  cases hmove with
  | called => exact False.elim hunguarded
  | completed => exact False.elim hunguarded
  | faulted thread hnone =>
      obtain ⟨hactivity, -, -⟩ := hunguarded
      rw [hactivity] at hnone
      cases hnone
  | advanced thread shared next hbusy htest =>
      obtain ⟨hactivity, hsending, hwindow⟩ := hunguarded
      rw [hactivity] at htest
      obtain ⟨rfl, rfl⟩ : state.shared = shared ∧ .setSending = next := by
        simpa [Activity.step, hsending] using htest
      let chosen : SystemState Thread T := state.goto thread state.shared .setSending
      have hchosen : chosen.activity thread = .setSending := activity_goto_self _ _ _ _
      have hdefined : chosen.faulted = false := hfaulted
      cases hitems : state.shared.messagesQueue.items with
      | nil =>
          obtain ⟨finish, hrun, hfault⟩ := run_setSending_empty hdefined hchosen hitems
          refine ⟨_, finish, hrun, ?_⟩
          intro horderly
          rw [horderly.defined] at hfault
          cases hfault
      | cons front rest =>
          obtain ⟨other, hother⟩ := hwindow.resolve_left (by simp [hitems])
          have hne : other ≠ thread := by
            rintro rfl
            rw [hactivity] at hother
            cases hother
          obtain ⟨middle, hfirst, hmiddle, hqueue, hlength, hrest⟩ :=
            run_setSending hdefined hchosen hitems
          have hsecond : middle.activity other = .setSending := by
            rw [hrest other hne, activity_goto_of_ne hne]
            exact hother
          obtain ⟨finish, hlast, -, -, htotal, -⟩ :=
            run_setSending hmiddle hsecond (hqueue ▸ hitems)
          refine ⟨[.advance thread, .advance thread, .advance thread] ++
            [.advance other, .advance other, .advance other], finish, ?_, fun horderly => ?_⟩
          · rw [run_append]
            exact (congrArg (Option.bind · _) hfirst).trans hlast
          · have hone := horderly.outstanding
            omega

/-- In a run in which no test of the flag falls into one of the windows, at most
one write is outstanding in every state and no empty queue is accessed; and from
a test in one of them the run can be continued to a second outstanding write or
to an access of an empty queue. -/
theorem orderly_of_guarded {moves : List (Move Thread T)}
    (hguarded : EveryStep systemStep (fun state move => ¬ UnguardedRead state move)
      (connectedSystem Thread T) moves) :
    EveryState systemStep Orderly (connectedSystem Thread T) moves ∧
    ∀ last move after, run systemStep (connectedSystem Thread T) moves = some last →
      UnguardedRead last move → systemStep last move = some after →
      ∃ later finish, run systemStep after later = some finish ∧ ¬ Orderly finish := by
  refine ⟨?_, fun last move after _ hunguarded hstep => exists_disorder hunguarded hstep⟩
  have hkeep : ∀ (state : SystemState Thread T) move after,
      (Custody state ∧ state.faulted = false) → ¬ UnguardedRead state move →
      systemStep state move = some after → Custody after ∧ after.faulted = false :=
    fun state move after hcustody hguard hstep => hcustody.1.after_step hguard hstep
  exact (everyState_of_everyStep hkeep ⟨custody_connectedSystem, rfl⟩ hguarded).mono
    fun state hcustody => hcustody.1.orderly hcustody.2

end Custody

private def shortMessage : Message UInt32 := ⟨⟨1, 2⟩, [8, 7]⟩

/-- The first sender starts the chain, which also sends the message of the second;
then the second one starts the chain anew. -/
private def takingTurns : List (Move Bool UInt32) :=
  let header := AsyncOperation.writeHeader (HeaderLayout.encode shortMessage.header)
  let body := AsyncOperation.writeBody shortMessage.body
  let sent : List (Move Bool UInt32) := [.complete true header false, .advance true,
    .advance true, .advance true, .advance true, .complete false body false, .advance false,
    .advance false]
  .call false shortMessage :: (List.replicate 6 (.advance false) ++
    .call true shortMessage :: (List.replicate 3 (.advance true) ++ sent ++
      [.advance false, .advance false] ++ sent ++ [.advance false] ++
        .call true shortMessage :: List.replicate 6 (.advance true)))

theorem orderly_of_taking_turns :
    EveryState systemStep Orderly (connectedSystem Bool UInt32) takingTurns ∧
      ∃ finish, run systemStep (connectedSystem Bool UInt32) takingTurns = some finish ∧
        finish.shared.outstanding.length = 1 ∧
        finish.shared.messagesQueue = ⟨[shortMessage], [shortMessage, shortMessage]⟩ :=
  ⟨(orderly_of_guarded (by decide)).1, _, rfl, rfl, rfl⟩

/-- Two senders that both test the flag before either has set it. -/
private def bothTest : List (Move Bool UInt32) :=
  [.call false shortMessage, .advance false, .advance false,
    .call true shortMessage, .advance true, .advance true,
    .advance false, .advance true,
    .advance false, .advance false, .advance false,
    .advance true, .advance true, .advance true]

/-- Two headers are outstanding at once on an open socket. -/
theorem two_writes_outstanding : ∃ finish,
    run systemStep (connectedSystem Bool UInt32) bothTest = some finish ∧
    finish.shared.isOpen = true ∧ finish.shared.outstanding.length = 2 ∧ ¬ Orderly finish := by
  refine ⟨_, rfl, rfl, rfl, ?_⟩
  intro horderly
  exact absurd horderly.outstanding (by decide)

end ProcessManagerService.SingleWriter
