/-
The wrap-around of the clock cannot be observed.  A history that does not set
the clock goes the same way whatever the clock shows when it begins: every call
has the same answer, or stops the machine for the same reason, and the kernels
differ in the clock and in the deadlines of waiting tasks only, all of them by
the same number of ticks.
-/
import TickKernel.Proofs.Deadlines
import TickKernel.Proofs.Dozing

namespace TickKernel

namespace Kernel

variable {k k' : Kernel} {offset : Tick} {id : TaskId}

/-! ### Time -/

theorem advance_shifted (ticks : Tick) :
    (k.shifted offset).platform.advance ticks =
      (k.platform.advance ticks).advance offset := by
  have hclock : k.platform.clock + offset + ticks =
      k.platform.clock + ticks + offset := by
    ac_rfl
  simp only [shifted, Platform.advance, hclock]

theorem spin_shifted (ticks : Tick) :
    (k.shifted offset).spin ticks = alongside offset (k.spin ticks) := by
  unfold spin
  rw [phase_shifted, advance_shifted]
  split <;> rfl

theorem Dozes.agrees_beat (h : k.Dozes) :
    Agrees offset k.beat (k.shifted offset).beat := by
  have hadvanced : { k with platform := k.platform.advance 1 }.Dozes :=
    h.congr rfl rfl rfl h.waits
  unfold beat
  rw [advance_shifted]
  refine hadvanced.tracks_tick.bind fun k₁ _ => ?_
  rw [switchOver_shifted]
  exact .ok _

/-! ### Calls on tasks -/

theorem tracks_suspendWaiting :
    Tracks offset (k.suspendWaiting id)
      ((k.shifted offset).suspendWaiting id) := by
  refine tracks_unblock.bind fun k₁ _ => tracks_leaveWaiting.bind fun k₂ _ => ?_
  rw [modifyTask_shifted (f := fun task : Task =>
    { task with deadline := 0, status := .suspended }) rfl]
  exact .ok _

theorem Dozes.agrees_suspend (h : k.Dozes) (id : TaskId) :
    Agrees offset (k.suspend id) ((k.shifted offset).suspend id) := by
  unfold suspend
  rw [isRegistered_shifted, idle_shifted, running_shifted, task_shifted,
    Task.status_shifted]
  split
  · exact .ok (k.refuse .unknownTask)
  split
  · exact .ok (k.refuse .suspendIdle)
  cases hstatus : (k.task id).status with
  | suspended | finished => exact .ok (k.refuse .notSuspendable)
  | active =>
      dsimp only
      split
      · rw [setStatus_shifted (by rw [hstatus]; decide) (by decide)]
        refine Tracks.agrees (Except.ok ()) (Dozes.tracks_giveUp ?_)
        refine h.modifyTask fun hid => ?_
        rw [h.waits id hid] at hstatus
        cases hstatus
      · exact .ok (k.refuse .notSuspendable)
  | ready =>
      refine tracks_leaveReady.bind fun k₁ hleave => ?_
      rw [setStatus_shifted (by rw [task_leaveReady hleave, hstatus]; decide)
        (by decide)]
      exact .ok _
  | waiting => exact Tracks.agrees (Except.ok ()) tracks_suspendWaiting

theorem agrees_resume (id : TaskId) :
    Agrees offset (k.resume id) ((k.shifted offset).resume id) := by
  unfold resume
  rw [isRegistered_shifted, task_shifted, Task.status_shifted]
  split
  · exact .ok (k.refuse .unknownTask)
  split
  · exact .ok (k.refuse .notSuspended)
  · exact Tracks.agrees (Except.ok ()) tracks_reinstate

theorem Dozes.agrees_delay (h : k.Dozes) (ticks : Tick) :
    Agrees offset (k.delay ticks) ((k.shifted offset).delay ticks) := by
  unfold delay
  rw [phase_shifted, running_shifted, idle_shifted]
  split
  · exact .ok (k.refuse .notRunning)
  cases Tick.acceptTimeout ticks with
  | error error => exact .ok (k.refuse error)
  | ok _ =>
      dsimp only
      split
      · exact .ok (k.accept ())
      split
      · exact .ok (k.refuse .invalid)
      · exact Tracks.agrees (Except.ok ()) (h.tracks_sleep ticks .none)

/-- The deadline of a wait that a task finishes in is all that tells the two
apart. -/
theorem forgetFinished_finished :
    ((k.shifted offset).setStatus id .finished).forgetFinished =
      ((k.setStatus id .finished).shifted offset).forgetFinished := by
  have htasks : ((k.shifted offset).setStatus id .finished).tasks.map
      Task.forgetFinished =
      ((k.setStatus id .finished).shifted offset).tasks.map
      Task.forgetFinished := by
    refine Pool.ext_slot fun other => ?_
    rw [Pool.slot_map, Pool.slot_map]
    change Task.forgetFinished
      (((k.shifted offset).setStatus id .finished).task other) =
      Task.forgetFinished
      (((k.setStatus id .finished).shifted offset).task other)
    rw [task_shifted, setStatus, setStatus, task_modifyTask, task_modifyTask,
      task_shifted]
    split
    · rfl
    · rw [task_shifted]
  simp only [forgetFinished, htasks]
  rfl

theorem leaveReady_eq_halt (h : k.ready.erase? k.links.queue id = none) :
    k.leaveReady id = k.halt .assertion := by
  rw [leaveReady, h]

/-- Who is not in the chain of runnable tasks cannot finish. -/
theorem giveUp_finished (hready : k.ready.erase? k.links.queue id = none)
    (hscheduled : k.scheduled ≠ none) :
    (k.setStatus id .finished).giveUp id =
      (k.setStatus id .finished).halt .assertion := by
  have hstatus : ((k.setStatus id .finished).task id).status = .finished := by
    rw [setStatus, task_modifyTask, if_pos rfl]
  rw [giveUp, if_neg, standDown, hstatus]
  · exact leaveReady_eq_halt (k := k.setStatus id .finished) hready
  · exact fun hnone => hscheduled (Option.isNone_iff_eq_none.mp hnone)

/-- A task that has just fallen asleep, its switch still pending, is not in the
chain of runnable tasks any more: when it finishes the machine stops. -/
theorem Sound.tracks_finish (h : k.Sound) :
    Tracks offset k.finish (k.shifted offset).finish := by
  unfold finish
  rw [running_shifted, idle_shifted]
  cases hrunning : k.running with
  | none => exact .stopped k .assertion
  | some id =>
      dsimp only
      split
      · exact .stopped k .application
      by_cases hwait : (k.task id).status = .waiting
      · have hscheduled : k.scheduled ≠ none := fun hnone =>
          h.orderly.running_awake hrunning hnone hwait
        have hready : id ∉ k.readyIds := fun hid =>
          h.orderly.not_waiting_of_ready hid (Option.some_ne_none id).symm hwait
        have herase := h.linked.ready.erase_eq_none hready
        rw [giveUp_finished herase hscheduled,
          giveUp_finished (k := k.shifted offset) herase hscheduled]
        exact .halt rfl forgetFinished_finished
      · rw [setStatus_shifted hwait (by decide)]
        refine Dozes.tracks_giveUp (h.dozes.modifyTask fun hid => ?_)
        exact absurd (h.dozes.waits id hid) hwait

/-! ### Calls on mutexes -/

theorem createMutex_shifted :
    (k.shifted offset).createMutex = alongside offset k.createMutex := by
  change (if h : k.mutexCount < maxMutexes then _ else _) = _
  unfold createMutex
  split <;> rfl

theorem Dozes.joinBlocked (h : k.Dozes) (resource : Resource) :
    (k.joinBlocked id resource).Dozes :=
  h.putBlocked resource _

theorem Dozes.agrees_awaitMutex (h : k.Dozes) (id : MutexId) (current : TaskId)
    (timeout : Tick) : Agrees offset (k.awaitMutex id current timeout)
      ((k.shifted offset).awaitMutex id current timeout) := by
  unfold awaitMutex
  refine Follows.require (by rw [task_shifted]; rfl) fun _ => ?_
  dsimp only
  rw [joinBlocked_shifted, modifyTask_shifted (f := fun task : Task =>
    { task with waitsFor := some (.mutex id) }) rfl]
  refine Tracks.agrees _ (Dozes.tracks_sleep ?_ timeout .mutex)
  exact (h.joinBlocked _).modifyTask fun hid =>
    (h.joinBlocked _).waits current hid

theorem Dozes.agrees_acquire (h : k.Dozes) (id : MutexId) (timeout : Tick) :
    Agrees offset (k.acquire id timeout)
      ((k.shifted offset).acquire id timeout) := by
  unfold acquire
  rw [hasMutex_shifted, running_shifted, mutex_shifted]
  split
  · exact .ok (k.refuse .unknownMutex)
  cases Tick.acceptTimeout timeout with
  | error error => exact .ok (k.refuse error)
  | ok _ =>
      cases k.running with
      | none => exact .ok (k.refuse .notRunning)
      | some current =>
          dsimp only
          cases (k.mutex id).owner with
          | none => exact .ok (Kernel.accept _ ())
          | some owner =>
              dsimp only
              split
              · split
                · exact .ok (k.refuse .mutexOverflow)
                · exact .ok (Kernel.accept _ ())
              split
              · exact .ok (k.refuse .timeout)
              rw [idle_shifted]
              split
              · exact .ok (k.refuse .invalid)
              · exact h.agrees_awaitMutex id current timeout

theorem Dozes.putMutex (h : k.Dozes) (id : MutexId) (mutex : Mutex) :
    (k.putMutex id mutex).Dozes :=
  h.congr rfl rfl rfl h.waits

/-- Whoever the mutex is passed on to is woken. -/
theorem Dozes.tracks_passOn (h : k.Dozes) (id : MutexId) :
    Tracks offset (k.passOn id) ((k.shifted offset).passOn id) := by
  unfold passOn
  rw [popBlocked_shifted]
  cases hpop : k.popBlocked? (.mutex id) with
  | none => exact .ok _
  | some popped =>
      obtain ⟨next, k₁⟩ := popped
      exact Dozes.tracks_wakeUp ((h.popBlocked hpop).putMutex id _) next
        Reply.done

theorem Dozes.agrees_release (h : k.Dozes) (id : MutexId) :
    Agrees offset (k.release id) ((k.shifted offset).release id) := by
  unfold release
  rw [hasMutex_shifted, running_shifted, mutex_shifted]
  split
  · exact .ok (k.refuse .unknownMutex)
  cases k.running with
  | none => exact .ok (k.refuse .notRunning)
  | some current =>
      refine Follows.require rfl fun _ => ?_
      split
      · exact Tracks.agrees (Except.ok ()) (h.tracks_passOn id)
      · exact .ok (Kernel.accept _ ())

/-! ### Calls on queues -/

theorem createQueue_shifted (capacity : UInt64) :
    (k.shifted offset).createQueue capacity =
      alongside offset (k.createQueue capacity) := by
  unfold createQueue
  change (if _ then _ else if h : k.queueCount < maxQueues then _ else _) = _
  split
  · rfl
  · split <;> rfl

theorem Dozes.putQueue (h : k.Dozes) (id : QueueId) (queue : Queue) :
    (k.putQueue id queue).Dozes :=
  h.congr rfl rfl rfl h.waits

theorem Dozes.agrees_awaitQueue {β : Type} (h : k.Dozes) (id : QueueId)
    (current : TaskId) (side : Waiters) (message : Option Message)
    (timeout : Tick) :
    Agrees (β := Except Error β) offset
      (k.awaitQueue id current side message timeout)
      ((k.shifted offset).awaitQueue id current side message timeout) := by
  have hdozes :
      ((k.putQueue id { k.queue id with waiters := side }).joinBlocked current
      (.queue id)).Dozes :=
    (h.putQueue id _).joinBlocked (.queue id)
  unfold awaitQueue
  dsimp only
  change Agrees offset _
    (((((k.putQueue id { k.queue id with waiters := side }).shifted
    offset).joinBlocked current (.queue id)).modifyTask current _).sleep
      timeout .queue >>= _)
  rw [joinBlocked_shifted, modifyTask_shifted (f := fun task : Task =>
    { task with
      message := message.getD task.message, waitsFor := some (.queue id) }) rfl]
  refine Tracks.agrees _ (Dozes.tracks_sleep ?_ timeout .queue)
  exact hdozes.modifyTask fun hid => hdozes.waits current hid

theorem popWaiter_shifted (id : QueueId) (side : Waiters) :
    (k.shifted offset).popWaiter? id side =
      (k.popWaiter? id side).map (alongside offset) := by
  unfold popWaiter?
  rw [queue_shifted, popBlocked_shifted]
  split <;> rfl

theorem Dozes.popWaiter (h : k.Dozes) {queue : QueueId} {side : Waiters}
    (hpop : k.popWaiter? queue side = some (id, k')) : k'.Dozes := by
  unfold popWaiter? at hpop
  split at hpop
  · exact h.popBlocked hpop
  · cases hpop

theorem Dozes.agrees_sendToRing (h : k.Dozes) (id : QueueId) (current : TaskId)
    (message : Message) (timeout : Tick) :
    Agrees offset (k.sendToRing id current message timeout)
      ((k.shifted offset).sendToRing id current message timeout) := by
  unfold sendToRing
  rw [queue_shifted, idle_shifted]
  dsimp only
  split
  · split
    · exact .ok (k.refuse .queueFull)
    split
    · exact .ok (k.refuse .invalid)
    · exact h.agrees_awaitQueue id current .senders (some message) timeout
  · exact .ok (Kernel.accept _ ())

theorem Dozes.agrees_send (h : k.Dozes) (id : QueueId) (message : Message)
    (timeout : Tick) :
    Agrees offset (k.send id message timeout)
      ((k.shifted offset).send id message timeout) := by
  unfold send
  rw [hasQueue_shifted, running_shifted]
  split
  · exact .ok (k.refuse .unknownQueue)
  cases Tick.acceptTimeout timeout with
  | error error => exact .ok (k.refuse error)
  | ok _ =>
      cases k.running with
      | none => exact .ok (k.refuse .notRunning)
      | some current =>
          refine Follows.require (by rw [task_shifted]; rfl) fun _ => ?_
          rw [popWaiter_shifted]
          cases hpop : k.popWaiter? id .receivers with
          | none => exact h.agrees_sendToRing id current message timeout
          | some popped =>
              obtain ⟨receiver, k₁⟩ := popped
              exact Tracks.agrees (Except.ok ())
                ((h.popWaiter hpop).tracks_wakeUp receiver (Reply.ok message))

theorem Dozes.tracks_refill (h : k.Dozes) (id : QueueId) :
    Tracks offset (k.refill id) ((k.shifted offset).refill id) := by
  unfold refill
  rw [popWaiter_shifted]
  cases hpop : k.popWaiter? id .senders with
  | none => exact .ok k
  | some popped =>
      obtain ⟨sender, k₁⟩ := popped
      dsimp only [Option.map, alongside]
      rw [task_shifted, Task.message_shifted]
      exact Dozes.tracks_wakeUp ((h.popWaiter hpop).putQueue id _) sender
        Reply.done

theorem Dozes.agrees_receive (h : k.Dozes) (id : QueueId) (timeout : Tick) :
    Agrees offset (k.receive id timeout)
      ((k.shifted offset).receive id timeout) := by
  unfold receive
  rw [hasQueue_shifted, running_shifted, queue_shifted, idle_shifted]
  split
  · exact .ok (k.refuse .unknownQueue)
  cases Tick.acceptTimeout timeout with
  | error error => exact .ok (k.refuse error)
  | ok _ =>
      cases k.running with
      | none => exact .ok (k.refuse .notRunning)
      | some current =>
          refine Follows.require (by rw [task_shifted]; rfl) fun _ => ?_
          cases (k.queue id).ring.pop? with
          | some popped =>
              obtain ⟨message, ring⟩ := popped
              exact Tracks.agrees (Except.ok message)
                (Dozes.tracks_refill
                  (h.putQueue id { k.queue id with ring }) id)
          | none =>
              dsimp only
              split
              · exact .ok (k.refuse .queueEmpty)
              split
              · exact .ok (k.refuse .invalid)
              · exact h.agrees_awaitQueue id current .receivers none timeout

/-! ### Services -/

theorem agrees_withHandle {β γ : Type} {handle : Except Error γ}
    {call call' : γ → Except Halt (Verdict β)}
    (h : ∀ id, Agrees offset (call id) (call' id)) :
    Agrees offset (k.withHandle handle call)
      ((k.shifted offset).withHandle handle call') := by
  cases handle with
  | error error => exact .ok (k.refuse error)
  | ok id => exact h id

theorem Sound.agrees_serve (h : k.Sound) (number : UInt32) (args : Arguments) :
    Agrees offset (k.serve number args)
      ((k.shifted offset).serve number args) := by
  have hk := h.dozes
  unfold serve
  cases Service.ofNumber number with
  | error error => exact .ok (Reply.err error.status, k)
  | ok service =>
      cases service with
      | delay => exact (hk.agrees_delay _).map fun _ => rfl
      | createMutex =>
          exact Agrees.of_eq (congrArg slotReply createMutex_shifted)
      | acquire =>
          exact (agrees_withHandle fun id => hk.agrees_acquire id _).map
            fun _ => rfl
      | release =>
          exact (agrees_withHandle fun id => hk.agrees_release id).map fun _ =>
            rfl
      | createQueue =>
          exact Agrees.of_eq (congrArg slotReply (createQueue_shifted _))
      | send =>
          exact (agrees_withHandle fun id => hk.agrees_send id _ _).map fun _ =>
            rfl
      | receive =>
          exact (agrees_withHandle fun id => hk.agrees_receive id _).map
            fun _ => rfl
      | suspend =>
          exact (agrees_withHandle fun id => hk.agrees_suspend id).map fun _ =>
            rfl
      | resume =>
          exact (agrees_withHandle fun id => agrees_resume id).map fun _ => rfl
      | finish => exact h.tracks_finish.map fun _ => rfl
      | self => exact .ok (k.selfReply, k)

/-! ### Histories -/

/-- A call that does not set the clock does not notice what it shows. -/
theorem Sound.agrees_perform (h : k.Sound) {call : Call}
    (hclock : call.setsClock = false) :
    Agrees offset (k.perform call) ((k.shifted offset).perform call) := by
  have hk := h.dozes
  cases call with
  | setUp => exact Agrees.of_eq (congrArg (answering .unit) setUp_shifted)
  | register spec => exact (agrees_register spec).map fun _ => rfl
  | start =>
      refine Agrees.of_eq
        (congrArg (answering .unit) (start_shifted fun id hhead => ?_))
      have hready : id ∈ k.readyIds :=
        List.mem_of_mem_head? (h.linked.ready.head_eq.symm.trans hhead)
      exact h.orderly.not_waiting_of_ready hready (Option.some_ne_none id).symm
  | tearDown =>
      exact Agrees.of_eq (congrArg (Prod.mk Answer.nothing) tearDown_shifted)
  | advance ticks =>
      exact Agrees.of_eq (congrArg
        (fun platform => (Answer.nothing, { k.shifted offset with platform }))
        (advance_shifted ticks))
  | setClock ticks => cases hclock
  | setHooks setupFailure entryFailure => exact .ok (_, _)
  | tick => exact hk.tracks_tick.map fun _ => rfl
  | schedule => exact hk.tracks_schedule.map fun _ => rfl
  | switchOver =>
      exact Agrees.of_eq
        (congrArg (fun switched => (Answer.flag switched.1, switched.2))
        switchOver_shifted)
  | beat => exact hk.agrees_beat.map fun _ => rfl
  | switchFrom saved =>
      exact Agrees.of_eq
        (congrArg (fun resumed => (Answer.frame resumed.1, resumed.2))
        (switchFrom_shifted saved))
  | exitRoutine => exact .ok (Answer.nothing, k)
  | delay ticks => exact (hk.agrees_delay ticks).map fun _ => rfl
  | spin ticks =>
      exact Agrees.of_eq (congrArg (answering .unit) (spin_shifted ticks))
  | suspend id => exact (hk.agrees_suspend id).map fun _ => rfl
  | resume id => exact (agrees_resume id).map fun _ => rfl
  | finish => exact h.tracks_finish.map fun _ => rfl
  | createMutex =>
      exact Agrees.of_eq (congrArg (answering .mutex) createMutex_shifted)
  | acquire id timeout => exact (hk.agrees_acquire id timeout).map fun _ => rfl
  | release id => exact (hk.agrees_release id).map fun _ => rfl
  | createQueue capacity =>
      exact Agrees.of_eq
        (congrArg (answering .queue) (createQueue_shifted capacity))
  | send id message timeout =>
      exact (hk.agrees_send id message timeout).map fun _ => rfl
  | receive id timeout => exact (hk.agrees_receive id timeout).map fun _ => rfl
  | serve number args => exact (h.agrees_serve number args).map fun _ => rfl
  | poke id index word =>
      exact Agrees.of_eq
        (congrArg (Prod.mk Answer.nothing) (modifyStack_shifted _))

/-- What the calls of a history come to one after the other, up to the one that
stops the machine if there is one. -/
def course (k : Kernel) : List Call → List (Except Halt (Answer × Kernel))
  | [] => []
  | call :: rest =>
      k.perform call ::
        match k.perform call with
        | .error _ => []
        | .ok (_, k') => k'.course rest

theorem Sound.agrees_course (h : k.Sound) {calls : List Call}
    (hclock : ∀ call ∈ calls, call.setsClock = false) :
    List.Forall₂ (Agrees offset) (k.course calls)
      ((k.shifted offset).course calls) := by
  induction calls generalizing k with
  | nil => exact .nil
  | cons call rest ih =>
      have hcall : Agrees offset (k.perform call)
          ((k.shifted offset).perform call) :=
        h.agrees_perform (hclock call List.mem_cons_self)
      have hrest : ∀ other ∈ rest, other.setsClock = false :=
        fun other hother => hclock other (List.mem_cons_of_mem call hother)
      rw [course, course]
      generalize hperform : k.perform call = result at hcall ⊢
      generalize (k.shifted offset).perform call = result' at hcall ⊢
      refine .cons hcall ?_
      cases hcall with
      | ok performed =>
          obtain ⟨answer, k₁⟩ := performed
          exact ih (h.performs hperform).2 hrest
      | halt => exact .nil

/-- Two new kernels whose clocks differ by some ticks go the same way through
every history that does not set the clock: call by call the same answer or the
same fault, and kernels that differ by those ticks in the clock and in the
deadlines of waiting tasks. -/
theorem course_shifted (platform : Platform) (clock offset : Tick)
    {calls : List Call} (hclock : ∀ call ∈ calls, call.setsClock = false) :
    List.Forall₂ (Agrees offset) ((fresh { platform with clock }).course calls)
      ((fresh { platform with clock := clock + offset }).course calls) := by
  have hmoved : fresh { platform with clock := clock + offset } =
      (fresh { platform with clock }).shifted offset :=
    (shifted_fresh { platform with clock }).symm
  rw [hmoved]
  exact (sound_fresh _).agrees_course hclock

end Kernel

namespace Witness

/-- Task A falls asleep, then task B for a shorter time, and task C waits for a
mutex. -/
def slumber : List Call :=
  trio ++ [.createMutex, .acquire lock 0, .delay 6, .beat, .delay 2, .beat,
    .acquire lock 9, .beat, .beat]

/-- When the wait of a task ends, after a history that began with the clock at
`clock`. -/
def deadlineAfter (clock : Tick) (calls : List Call) (id : TaskId) :
    Option Tick :=
  match (Kernel.fresh { Platform.fresh with clock }).performAll calls with
  | .ok (_, k) =>
      if (k.task id).status = .waiting then some (k.task id).deadline else none
  | .error _ => none

/-- The clock wraps around while the tasks sleep. -/
theorem course_shifted_overnight :
    (∀ call ∈ slumber, call.setsClock = false) ∧
      deadlineAfter 0 slumber taskA = some 6 ∧
      deadlineAfter (0 + 0xFFFFFFFE) slumber taskA = some 4 ∧
      List.Forall₂ (Kernel.Agrees 0xFFFFFFFE)
        ((Kernel.fresh { Platform.fresh with clock := 0 }).course slumber)
        ((Kernel.fresh { Platform.fresh with clock := 0 + 0xFFFFFFFE }).course
          slumber) :=
  ⟨by decide +kernel, by decide +kernel, by decide +kernel,
    Kernel.course_shifted Platform.fresh 0 0xFFFFFFFE (by decide +kernel)⟩

end Witness

end TickKernel
