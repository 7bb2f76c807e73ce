import Mathlib.Data.Fintype.Basic
import ProcessManagerService.Connection.Interleaving

/-!
# No lost wake-up

A sender that finds `sendingInProgress` set leaves its message to the running
chain.  The chain looks at the queue one last time before it clears the flag,
and a message pushed between these two steps is seen by nobody when its sender
also tests the flag between them.  Outside this window every queued message is
attended to.
-/

namespace ProcessManagerService.WakeUp

open Communication Connection Interleaving PartialRuns

variable {T Thread : Type*}

/-- The thread will look at the queue or at the flag again before it ends. -/
def attends : Activity T → Bool
  | .testOpen => true
  | .testSending => true
  | .clearSending => false
  | activity => inChain activity

/-- No call has an empty body and no operation fails. -/
def Smooth : Move Thread T → Prop
  | .call _ message => message.body ≠ []
  | .complete _ _ error => error = false
  | .advance _ => True

/-- What smooth moves keep out: empty bodies and the error branches. -/
def Plain : Activity T → Prop
  | .push message => message.body ≠ []
  | .popEmpty => False
  | .testMore => False
  | .disconnect => False
  | _ => True

/-- Every queued message is attended to, and the flag is only set while somebody
goes on with the sending. -/
structure Attended (state : SystemState Thread T) : Prop where
  isOpen : state.shared.isOpen = true
  writes : ∀ operation ∈ state.shared.outstanding, operation.isWrite = true
  bodies : ∀ message ∈ state.shared.messagesQueue.items, message.body ≠ []
  plain : ∀ thread, Plain (state.activity thread)
  sending : state.shared.sendingInProgress = true →
    state.shared.outstanding ≠ [] ∨ ∃ thread, inChain (state.activity thread) = true
  queued : state.shared.messagesQueue.items ≠ [] →
    state.shared.outstanding ≠ [] ∨ ∃ thread, attends (state.activity thread) = true

/-- A state in which every thread has finished its function leaves no message in
the queue without an outstanding write. -/
def NothingStranded (state : SystemState Thread T) : Prop :=
  (∀ thread, state.activity thread = .idle) →
    state.shared.messagesQueue.items = [] ∨ state.shared.outstanding ≠ []

theorem Attended.nothingStranded {state : SystemState Thread T} (hattended : Attended state) :
    NothingStranded state := by
  intro hidle
  by_cases hitems : state.shared.messagesQueue.items = []
  · exact .inl hitems
  · right
    rcases hattended.queued hitems with houtstanding | ⟨thread, hattends⟩
    · exact houtstanding
    · rw [hidle thread] at hattends
      cases hattends

theorem attended_connectedSystem : Attended (connectedSystem Thread T) where
  isOpen := rfl
  writes := fun _ hmem => absurd hmem List.not_mem_nil
  bodies := fun _ hmem => absurd hmem List.not_mem_nil
  plain _ := trivial
  sending hsending := Bool.noConfusion hsending
  queued hitems := absurd rfl hitems

section Steps

variable [DecidableEq Thread] {state : SystemState Thread T} {thread : Thread}
  {shared : SharedState T} {next : Activity T}

/-- A property of some thread survives a step of a thread that had it only if it
keeps it. -/
theorem exists_goto {property : Activity T → Bool}
    (hexists : ∃ other, property (state.activity other) = true)
    (hkeep : property (state.activity thread) = true → property next = true) :
    ∃ other, property ((state.goto thread shared next).activity other) = true := by
  obtain ⟨other, hother⟩ := hexists
  refine ⟨other, ?_⟩
  by_cases hsame : other = thread
  · rw [hsame, activity_goto_self]
    exact hkeep (hsame ▸ hother)
  · rw [activity_goto_of_ne hsame]
    exact hother

theorem plain_goto (hplain : ∀ other, Plain (state.activity other)) (hnext : Plain next) :
    ∀ other, Plain ((state.goto thread shared next).activity other) := by
  intro other
  by_cases hsame : other = thread
  · rw [hsame, activity_goto_self]
    exact hnext
  · rw [activity_goto_of_ne hsame]
    exact hplain other

/-- A thread that is in the chain and attends after its step vouches for the
flag and for the queue. -/
theorem Attended.onward (hattended : Attended state) (hchain : inChain next = true)
    (hattends : attends next = true) (hnext : Plain next)
    (hopen : shared.isOpen = true)
    (hwrites : ∀ operation ∈ shared.outstanding, operation.isWrite = true)
    (hbodies : ∀ message ∈ shared.messagesQueue.items, message.body ≠ []) :
    Attended (state.goto thread shared next) where
  isOpen := hopen
  writes := hwrites
  bodies := hbodies
  plain := plain_goto hattended.plain hnext
  sending _ := .inr ⟨thread, by rw [activity_goto_self]; exact hchain⟩
  queued _ := .inr ⟨thread, by rw [activity_goto_self]; exact hattends⟩

/-- A thread that starts a write leaves it to vouch for both. -/
theorem Attended.startWrite {operation : AsyncOperation} (hattended : Attended state)
    (hwrite : operation.isWrite = true) :
    Attended (state.goto thread { state.shared with
      outstanding := state.shared.outstanding ++ [operation] } .idle) where
  isOpen := hattended.isOpen
  writes := by
    intro other hmem
    rcases List.mem_append.mp hmem with hmem | hmem
    · exact hattended.writes other hmem
    · rw [List.mem_singleton.mp hmem]
      exact hwrite
  bodies := hattended.bodies
  plain := plain_goto hattended.plain trivial
  sending _ := .inl (by simp)
  queued _ := .inl (by simp)

/-- A thread that has nothing to do with either leaves both as they are. -/
theorem Attended.outside (hattended : Attended state) (hnext : Plain next)
    (hchain : inChain (state.activity thread) = false)
    (hattends : attends (state.activity thread) = true → attends next = true) :
    Attended (state.goto thread state.shared next) where
  isOpen := hattended.isOpen
  writes := hattended.writes
  bodies := hattended.bodies
  plain := plain_goto hattended.plain hnext
  sending hsending := (hattended.sending hsending).imp_right fun hexists =>
    exists_goto hexists fun hheld => by rw [hchain] at hheld; cases hheld
  queued hitems := (hattended.queued hitems).imp_right fun hexists =>
    exists_goto hexists hattends

variable [HeaderLayout T]

omit [DecidableEq Thread] [HeaderLayout T] in
/-- The test that misses the wake-up: the message is queued, the flag is still
set, and the chain has already looked at the queue for the last time. -/
def MissesWakeUp (state : SystemState Thread T) : Move Thread T → Prop
  | .advance thread => state.activity thread = .testSending ∧
      state.shared.sendingInProgress = true ∧ state.shared.messagesQueue.items ≠ [] ∧
      ∃ other, state.activity other = .clearSending
  | _ => False

omit [DecidableEq Thread] [HeaderLayout T] in
instance [Fintype Thread] [DecidableEq T] (state : SystemState Thread T) :
    ∀ move, Decidable (MissesWakeUp state move)
  | .advance _ => inferInstanceAs (Decidable (_ ∧ _ ∧ _ ∧ _))
  | .call _ _ => inferInstanceAs (Decidable False)
  | .complete _ _ _ => inferInstanceAs (Decidable False)

omit [DecidableEq Thread] [HeaderLayout T] in
theorem attends_of_inChain {activity : Activity T} (hchain : inChain activity = true)
    (hnot : activity ≠ .clearSending) : attends activity = true := by
  cases activity <;> simp_all [attends, inChain]

omit [HeaderLayout T] in
theorem Attended.push {message : Message T} (hattended : Attended state)
    (hactivity : state.activity thread = .push message) :
    Attended (state.goto thread { state.shared with
      messagesQueue := state.shared.messagesQueue.push message } .testOpen) where
  isOpen := hattended.isOpen
  writes := hattended.writes
  bodies := by
    intro other hmem
    rw [shared_goto, MessageQueue.items_push] at hmem
    rcases List.mem_append.mp hmem with hmem | hmem
    · exact hattended.bodies other hmem
    · have hplain := hattended.plain thread
      rw [hactivity] at hplain
      rw [List.mem_singleton.mp hmem]
      exact hplain
  plain := plain_goto hattended.plain trivial
  sending hsending := (hattended.sending hsending).imp_right fun hexists =>
    exists_goto hexists fun hheld => by rw [hactivity] at hheld; cases hheld
  queued _ := .inr ⟨thread, by rw [activity_goto_self]; rfl⟩

omit [HeaderLayout T] in
/-- A sender may leave its message to the chain as long as the chain has not
looked at the queue for the last time. -/
theorem Attended.leave (hattended : Attended state)
    (hactivity : state.activity thread = .testSending)
    (hsending : state.shared.sendingInProgress = true)
    (hguard : ¬ MissesWakeUp state (.advance thread)) :
    Attended (state.goto thread state.shared .idle) where
  isOpen := hattended.isOpen
  writes := hattended.writes
  bodies := hattended.bodies
  plain := plain_goto hattended.plain trivial
  sending _ := (hattended.sending hsending).imp_right fun hexists =>
    exists_goto hexists fun hheld => by rw [hactivity] at hheld; cases hheld
  queued hitems := by
    apply (hattended.sending hsending).imp_right
    intro hexists
    obtain ⟨other, hchain⟩ := hexists
    have hne : other ≠ thread := by
      rintro rfl
      rw [hactivity] at hchain
      cases hchain
    refine ⟨other, ?_⟩
    rw [activity_goto_of_ne hne]
    apply attends_of_inChain hchain
    intro hclear
    exact hguard ⟨hactivity, hsending, hitems, other, hclear⟩

omit [HeaderLayout T] in
/-- The chain may end when it has found the queue empty. -/
theorem Attended.lastLook (hattended : Attended state)
    (hitems : state.shared.messagesQueue.items = []) :
    Attended (state.goto thread state.shared .clearSending) where
  isOpen := hattended.isOpen
  writes := hattended.writes
  bodies := hattended.bodies
  plain := plain_goto hattended.plain trivial
  sending _ := .inr ⟨thread, by rw [activity_goto_self]; rfl⟩
  queued hne := absurd hitems hne

omit [HeaderLayout T] in
theorem Attended.clear (hattended : Attended state)
    (hactivity : state.activity thread = .clearSending) :
    Attended (state.goto thread { state.shared with sendingInProgress := false } .idle) where
  isOpen := hattended.isOpen
  writes := hattended.writes
  bodies := hattended.bodies
  plain := plain_goto hattended.plain trivial
  sending hsending := Bool.noConfusion hsending
  queued hitems := (hattended.queued hitems).imp_right fun hexists =>
    exists_goto hexists fun hheld => by rw [hactivity] at hheld; cases hheld

/-- A step of one thread keeps everything attended to. -/
theorem Attended.advance (hattended : Attended state)
    (hguard : ¬ MissesWakeUp state (.advance thread))
    (hstep : (state.activity thread).step state.shared = some (shared, next)) :
    Attended (state.goto thread shared next) := by
  have hopen := hattended.isOpen
  have hwrites := hattended.writes
  have hbodies := hattended.bodies
  have hplain := hattended.plain thread
  cases hactivity : state.activity thread with
  | idle =>
      rw [hactivity] at hstep
      cases hstep
      exact hattended.outside trivial (by rw [hactivity]; rfl) (by rw [hactivity]; exact id)
  | push message =>
      rw [hactivity] at hstep
      cases hstep
      exact hattended.push hactivity
  | testOpen =>
      rw [hactivity] at hstep
      cases hstep
      rw [hopen]
      exact hattended.outside trivial (by rw [hactivity]; rfl) (fun _ => rfl)
  | testSending =>
      rw [hactivity] at hstep
      cases hstep
      cases hsending : state.shared.sendingInProgress with
      | true => exact hattended.leave hactivity hsending hguard
      | false => exact hattended.onward rfl rfl trivial hopen hwrites hbodies
  | setSending =>
      rw [hactivity] at hstep
      cases hstep
      exact hattended.onward rfl rfl trivial hopen hwrites hbodies
  | headerFront | bodyData | bodySize =>
      rw [hactivity] at hstep
      obtain ⟨message, -, hnext⟩ := Option.map_eq_some_iff.mp hstep
      cases hnext
      exact hattended.onward rfl rfl trivial hopen hwrites hbodies
  | startHeader buffer | startBody buffer =>
      rw [hactivity] at hstep
      cases hstep
      exact hattended.startWrite rfl
  | testBody =>
      rw [hactivity] at hstep
      obtain ⟨message, hfront, hnext⟩ := Option.map_eq_some_iff.mp hstep
      have hbody : 0 < message.body.length :=
        List.length_pos_iff.mpr (hbodies message (List.mem_of_head? hfront))
      rw [if_pos hbody] at hnext
      cases hnext
      exact hattended.onward rfl rfl trivial hopen hwrites hbodies
  | popSent =>
      rw [hactivity] at hstep
      obtain ⟨queue, hpop, hnext⟩ := Option.map_eq_some_iff.mp hstep
      cases hnext
      obtain ⟨message, hitems⟩ := MessageQueue.items_of_pop hpop
      refine hattended.onward rfl rfl trivial hopen hwrites fun other hmem => hbodies other ?_
      rw [hitems]
      exact List.mem_cons_of_mem message hmem
  | testRest =>
      rw [hactivity] at hstep
      cases hstep
      cases hempty : state.shared.messagesQueue.empty with
      | true => exact hattended.lastLook ((MessageQueue.empty_iff _).mp hempty)
      | false => exact hattended.onward rfl rfl trivial hopen hwrites hbodies
  | clearSending =>
      rw [hactivity] at hstep
      cases hstep
      exact hattended.clear hactivity
  | popEmpty | testMore | disconnect =>
      rw [hactivity] at hplain
      exact False.elim hplain

omit [HeaderLayout T] in
/-- The thread that takes a completed write goes on with the sending. -/
theorem Attended.completed {operation : AsyncOperation} (hattended : Attended state)
    (hmem : operation ∈ state.shared.outstanding) :
    Attended (state.goto thread { state.shared with
      outstanding := state.shared.outstanding.erase operation }
      (.afterWrite operation false)) := by
  have hwrites : ∀ other ∈ state.shared.outstanding.erase operation,
      other.isWrite = true := fun other hother =>
    hattended.writes other (List.mem_of_mem_erase hother)
  cases operation with
  | writeHeader buffer =>
      exact hattended.onward rfl rfl trivial hattended.isOpen hwrites hattended.bodies
  | writeBody buffer =>
      exact hattended.onward rfl rfl trivial hattended.isOpen hwrites hattended.bodies
  | _ => exact absurd (hattended.writes _ hmem) (by simp [AsyncOperation.isWrite])

/-- A smooth step outside the window keeps everything attended to. -/
theorem Attended.after_step {after : SystemState Thread T} {move : Move Thread T}
    (hattended : Attended state) (hsmooth : Smooth move)
    (hguard : ¬ MissesWakeUp state move) (hstep : systemStep state move = some after) :
    Attended after := by
  obtain ⟨hfaulted, hmove⟩ := systemMove_of_step hstep
  cases hmove with
  | called thread message hidle =>
      refine hattended.outside hsmooth (by rw [hidle]; rfl) ?_
      intro hheld
      rw [hidle] at hheld
      cases hheld
  | completed thread operation error hidle hmem =>
      obtain rfl : error = false := hsmooth
      exact hattended.completed hmem
  | advanced thread shared next hbusy hactivity => exact hattended.advance hguard hactivity
  | faulted thread hactivity => exact { hattended with }

/-- Senders with non-empty bodies and a chain without write errors, in any
interleaving: as long as no test of the flag falls into the window, a state in
which every thread has finished has an empty queue or an outstanding write. -/
theorem nothingStranded_of_guarded {moves : List (Move Thread T)}
    (hsmooth : ∀ move ∈ moves, Smooth move)
    (hguarded : EveryStep systemStep (fun state move => ¬ MissesWakeUp state move)
      (connectedSystem Thread T) moves) :
    EveryState systemStep NothingStranded (connectedSystem Thread T) moves := by
  have hsmoothly : EveryStep systemStep (fun _ move => Smooth move)
      (connectedSystem Thread T) moves := .of_forall_mem fun _ move hmem => hsmooth move hmem
  have hattended : EveryState systemStep Attended (connectedSystem Thread T) moves := by
    refine everyState_of_everyStep ?_ attended_connectedSystem (hsmoothly.and hguarded)
    intro state move after hattended hguard hstep
    exact hattended.after_step hguard.1 hguard.2 hstep
  exact hattended.mono fun state hattended => hattended.nothingStranded

end Steps

private def firstMessage : Message UInt32 := ⟨⟨1, 1⟩, [8]⟩

private def lateMessage : Message UInt32 := ⟨⟨3, 1⟩, [9]⟩

/-- One message on its way through the chain, up to its last look at the queue. -/
private def untilLastLook : List (Move Bool UInt32) :=
  [.call false firstMessage, .advance false, .advance false, .advance false, .advance false,
    .advance false, .advance false,
    .complete false (.writeHeader (HeaderLayout.encode firstMessage.header)) false,
    .advance false, .advance false, .advance false, .advance false,
    .complete false (.writeBody firstMessage.body) false, .advance false, .advance false]

/-- The chain sends its message, while the second sender pushes and finds the flag
set before the last look at the queue, so that its message is sent by the chain. -/
private def lateSender : List (Move Bool UInt32) :=
  [.call false firstMessage, .advance false, .advance false, .advance false, .advance false,
    .advance false, .advance false,
    .complete false (.writeHeader (HeaderLayout.encode firstMessage.header)) false,
    .advance false, .advance false, .advance false, .advance false,
    .complete false (.writeBody firstMessage.body) false, .advance false,
    .call true lateMessage, .advance true, .advance true, .advance true,
    .advance false, .advance false, .advance false,
    .complete true (.writeHeader (HeaderLayout.encode lateMessage.header)) false,
    .advance true, .advance true, .advance true, .advance true,
    .complete false (.writeBody lateMessage.body) false, .advance false, .advance false,
    .advance false]

theorem nothingStranded_of_late_sender :
    EveryState systemStep NothingStranded (connectedSystem Bool UInt32) lateSender ∧
      ∃ finish, run systemStep (connectedSystem Bool UInt32) lateSender = some finish ∧
        (∀ thread, finish.activity thread = .idle) ∧
        finish.shared.messagesQueue = ⟨[], [firstMessage, lateMessage]⟩ := by
  refine ⟨nothingStranded_of_guarded ?_ (by decide), _, rfl, ?_, rfl⟩
  · simp [lateSender, Smooth, firstMessage, lateMessage]
  · intro thread
    cases thread <;> rfl

/-- The second sender tests the flag between the last look and the clearing. -/
theorem message_stranded : ∃ finish,
    run systemStep (connectedSystem Bool UInt32) (untilLastLook ++
      [.call true lateMessage, .advance true, .advance true, .advance true,
        .advance false]) = some finish ∧
    finish.shared.messagesQueue.items = [lateMessage] ∧ finish.shared.isOpen = true ∧
    finish.faulted = false ∧ ¬ NothingStranded finish := by
  refine ⟨_, rfl, rfl, rfl, rfl, ?_⟩
  intro hnothing
  have hidle := hnothing fun thread => by cases thread <;> rfl
  rcases hidle with hitems | houtstanding
  · cases hitems
  · exact houtstanding rfl

end ProcessManagerService.WakeUp
