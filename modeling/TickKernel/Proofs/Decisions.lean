/-
When the scheduler decides.  Besides the scheduling point itself there are the
calls that take the running task off the processor: it falls asleep, alone or at
a mutex or a queue, is suspended, or is done.  Such a call brings the running
task into its new status first and then decides, while that task still stands
among the runnable ones.
-/
import TickKernel.Proofs.Contexts
import TickKernel.Proofs.Refusals
import TickKernel.Proofs.Scanning

namespace TickKernel

theorem Tick.acceptTimeout_of_le {timeout : Tick}
    (h : timeout ≤ Tick.maxTimeout) :
    Tick.acceptTimeout timeout = .ok () :=
  if_neg (UInt32.not_lt.mpr h)

namespace Kernel

/-! ### Calls that force a decision -/

/-- Task `id` turns to sleep and has not left the processor yet. -/
def drowsy (k : Kernel) (id : TaskId) (timeout : Tick) (flag : WaitFlag) :
    Kernel :=
  k.modifyTask id fun task =>
    { task with
      status := .waiting, deadline := k.platform.clock + timeout, flag }

/-- Task `id` queues up at a mutex. -/
def queuedAtMutex (k : Kernel) (id : TaskId) (mutex : MutexId) : Kernel :=
  (k.joinBlocked id (.mutex mutex)).modifyTask id fun task =>
    { task with waitsFor := some (.mutex mutex) }

/-- Task `id` queues up at a queue, with the message that it sends if any. -/
def queuedAtQueue (k : Kernel) (id : TaskId) (queue : QueueId) (side : Waiters)
    (message : Option Message) : Kernel :=
  ((k.putQueue queue { k.queue queue with waiters := side }).joinBlocked id
    (.queue queue)).modifyTask id fun task => { task with
      message := message.getD task.message
      waitsFor := some (.queue queue) }

/-- The call takes `current` off the processor, and decides in the given kernel
who is next. -/
inductive Forces (k : Kernel) (current : TaskId) : Call → Kernel → Prop
  | delay {ticks : Tick} (hticks : ticks ≠ 0) (hmax : ticks ≤ Tick.maxTimeout) :
      Forces k current (.delay ticks) (k.drowsy current ticks .none)
  | acquire {mutex : MutexId} {timeout : Tick} {owner : TaskId}
      (hmutex : k.hasMutex mutex = true)
      (howner : (k.mutex mutex).owner = some owner)
      (hother : owner ≠ current) (htimeout : timeout ≠ 0)
      (hmax : timeout ≤ Tick.maxTimeout) :
      Forces k current (.acquire mutex timeout)
        ((k.queuedAtMutex current mutex).drowsy current timeout .mutex)
  | send {queue : QueueId} {message : Message} {timeout : Tick}
      (hqueue : k.hasQueue queue = true)
      (hside : (k.queue queue).waiters ≠ .receivers)
      (hfull : (k.queue queue).ring.count = (k.queue queue).ring.capacity)
      (htimeout : timeout ≠ 0) (hmax : timeout ≤ Tick.maxTimeout) :
      Forces k current (.send queue message timeout)
        ((k.queuedAtQueue current queue .senders (some message)).drowsy
          current timeout .queue)
  | receive {queue : QueueId} {timeout : Tick}
      (hqueue : k.hasQueue queue = true)
      (hempty : (k.queue queue).ring.count = 0) (htimeout : timeout ≠ 0)
      (hmax : timeout ≤ Tick.maxTimeout) :
      Forces k current (.receive queue timeout)
        ((k.queuedAtQueue current queue .receivers none).drowsy current
          timeout .queue)
  | suspend : Forces k current (.suspend current)
      (k.setStatus current .suspended)
  | finish : Forces k current .finish (k.setStatus current .finished)
  | serve {number : UInt32} {args : Arguments} {call : Call} {u : Kernel}
      (hcall : Call.ofService number args = some call)
      (h : Forces k current call u) :
      Forces k current (.serve number args) u

/-- Nothing but the running task keeps a kernel from being as it is between
calls. -/
structure Leaving (k : Kernel) (current : TaskId) (u : Kernel) : Prop where
  linked : u.Linked
  orderly : u.view.Orderly (some current)
  phase : u.phase = k.phase
  running : u.running = k.running
  scheduled : u.scheduled = k.scheduled
  guarded : k.Guarded → u.Guarded

section Forces

variable {k k' u : Kernel} {current : TaskId} {call : Call} {answer : Answer}

theorem giveUp_eq (hscheduled : k.scheduled = none) (id : TaskId) :
    k.giveUp id = k.schedule := by
  simp [giveUp, hscheduled]

theorem sleep_eq (hrunning : k.running = some current)
    (hidle : k.idle ≠ some current) (hscheduled : k.scheduled = none)
    (timeout : Tick) (flag : WaitFlag) :
    k.sleep timeout flag = (k.drowsy current timeout flag).schedule := by
  have hnot : (k.idle != some current) = true := bne_iff_ne.mpr hidle
  simp only [sleep, hrunning, require, hnot, if_true, bind, Except.bind]
  exact giveUp_eq (k := k.drowsy current timeout flag) hscheduled current

theorem awaitMutex_eq (hrunning : k.running = some current)
    (hidle : k.idle ≠ some current) (hscheduled : k.scheduled = none)
    (hfree : (k.task current).isBlocked = false) (mutex : MutexId)
    (timeout : Tick) : k.awaitMutex mutex current timeout =
      (fun k' => k'.refuse .timeout) <$>
        ((k.queuedAtMutex current mutex).drowsy current timeout
          .mutex).schedule := by
  rw [← sleep_eq (k := k.queuedAtMutex current mutex) hrunning hidle hscheduled]
  simp only [awaitMutex, require, hfree, Bool.not_false, if_true, queuedAtMutex]
  cases Kernel.sleep _ _ _ <;> rfl

theorem awaitQueue_eq {α : Type} (hrunning : k.running = some current)
    (hidle : k.idle ≠ some current) (hscheduled : k.scheduled = none)
    (queue : QueueId) (side : Waiters) (message : Option Message)
    (timeout : Tick) :
    k.awaitQueue (α := α) queue current side message timeout =
      (fun k' => k'.refuse .timeout) <$> ((k.queuedAtQueue current queue side
        message).drowsy current timeout .queue).schedule := by
  rw [← sleep_eq (k := k.queuedAtQueue current queue side message) hrunning
    hidle hscheduled]
  simp only [awaitQueue, queuedAtQueue]
  cases Kernel.sleep _ _ _ <;> rfl

theorem Shows.drowsy {v : View} (h : k.Shows v) (id : TaskId) (timeout : Tick)
    (flag : WaitFlag) :
    (k.drowsy id timeout flag).Shows (v.setTask id fun task =>
      { task with
        status := .waiting, deadline :=
          v.platform.clock + timeout, flag }) := by
  rw [← h.platform_eq]
  exact h.modifyTask id _

theorem Leaving.of_shows {w : View} (h : u.Shows w)
    (ho : w.Orderly (some current)) (hphase : w.phase = k.phase)
    (hrunning : w.running = k.running) (hscheduled : w.scheduled = k.scheduled)
    (hcount : w.taskCount = k.view.taskCount) (hstacks : k.view.SameStacks w)
    (hk : k.Linked) : k.Leaving current u := by
  refine ⟨h.linked, h.view_eq ▸ ho, h.phase_eq.trans hphase,
    h.running_eq.trans hrunning, h.scheduled_eq.trans hscheduled,
    fun hguarded => ?_⟩
  rw [h.linked.guarded_iff, h.view_eq]
  exact hstacks.guarded hcount (hk.guarded_iff.mp hguarded)

variable (h : k.Sound) (hrunning : k.running = some current)
  (hscheduled : k.scheduled = none) (hidle : k.idle ≠ some current)
include h hrunning hscheduled hidle

/-- The running task falls asleep on its own. -/
theorem Sound.leaving_drowsy (ticks : Tick) :
    k.Leaving current (k.drowsy current ticks .none) := by
  have hready := h.orderly.running_ready hrunning hscheduled
  have hflag :=
    (h.orderly.parked.unblocked_task current (h.orderly.not_blocked hready)).1
  refine .of_shows (h.shows.modifyTask current _) ?_ rfl rfl rfl rfl
    (View.SameStacks.setTask current rfl) h.linked
  exact h.orderly.setTask hready hidle rfl
    (fun hne => absurd rfl hne) (by simp) rfl hflag.symm rfl

/-- The running task turns to something that is no wait. -/
theorem Sound.leaving_setStatus {status : TaskStatus}
    (hactive : status ≠ .active) :
    k.Leaving current (k.setStatus current status) :=
  .of_shows (h.shows.modifyTask current _)
    (h.orderly.quits (h.orderly.running_ready hrunning hscheduled) hidle
      hactive) rfl rfl rfl
    rfl (View.SameStacks.setTask current rfl) h.linked

/-- The running task falls asleep at a mutex. -/
theorem Sound.leaving_mutex {mutex : MutexId} {owner : TaskId} (timeout : Tick)
    (hmutex : k.hasMutex mutex = true)
    (howner : (k.mutex mutex).owner = some owner) (hother : owner ≠ current) :
    k.Leaving current
      ((k.queuedAtMutex current mutex).drowsy current timeout .mutex) := by
  have ho := h.orderly
  have hready := ho.running_ready hrunning hscheduled
  have hwaits := ho.not_blocked hready
  have hjoined := (h.shows.joinBlocked (.mutex mutex)
    (ho.parked.not_mem_blocked hwaits)).modifyTask current fun task =>
      { task with waitsFor := some (.mutex mutex) }
  have hshows := (hjoined.drowsy current timeout .mutex).of_eq
    (View.parked_mutex (ho.parked.unblocked_task current hwaits).2
      (k.platform.clock + timeout)).symm
  have howned : k.view.owner mutex = some owner := howner
  refine .of_shows hshows ?_ rfl rfl rfl rfl
    (View.sameStacks_parked _ _ _ _ _ _) h.linked
  refine ho.queuedUp .nobody 0 _ hready hidle
    ((h.shows.hasMutex_iff mutex).mp hmutex)
    (fun other heq => ?_) fun queue heq => by cases heq
  obtain rfl := Resource.mutex.inj heq
  rw [howned]
  exact ⟨Option.some_ne_none owner, fun heq => hother (Option.some.inj heq)⟩

/-- The running task falls asleep at a queue that cannot serve it. -/
theorem Sound.leaving_queue {queue : QueueId} {side : Waiters}
    (message : Option Message) (timeout : Tick)
    (hqueue : k.hasQueue queue = true)
    (hside : side = .senders ∧ (k.queue queue).ring.count =
      (k.queue queue).ring.capacity ∨ side = .receivers ∧
      (k.queue queue).ring.count = 0) :
    k.Leaving current
      ((k.queuedAtQueue current queue side message).drowsy current
        timeout .queue) := by
  have ho := h.orderly
  have hready := ho.running_ready hrunning hscheduled
  have hwaits := ho.not_blocked hready
  have hjoined := ((h.shows.putWaiters queue side).joinBlocked (.queue queue)
    (ho.parked.not_mem_blocked hwaits)).modifyTask current fun task =>
      { task with
        message := message.getD task.message
        waitsFor := some (.queue queue) }
  have hshows := (hjoined.drowsy current timeout .queue).of_eq
    (View.parked_queue (ho.parked.unblocked_task current hwaits).2 queue
      side message (k.platform.clock + timeout)).symm
  refine .of_shows hshows ?_ rfl rfl rfl rfl
    (View.sameStacks_parked _ _ _ _ _ _) h.linked
  refine ho.queuedUp side (message.getD 0) _ hready hidle
    ((h.shows.hasQueue_iff queue).mp hqueue)
    (fun mutex heq => by cases heq) fun other heq => ?_
  obtain rfl := Resource.queue.inj heq
  exact hside

/-- A call that forces a decision leaves nothing in disorder but its caller. -/
theorem Forces.leaving (hforces : k.Forces current call u) :
    k.Leaving current u := by
  induction hforces with
  | delay => exact h.leaving_drowsy hrunning hscheduled hidle _
  | acquire hmutex howner hother =>
      exact h.leaving_mutex hrunning hscheduled hidle _ hmutex howner hother
  | send hqueue _ hfull =>
      exact h.leaving_queue hrunning hscheduled hidle _ _ hqueue
        (Or.inl ⟨rfl, hfull⟩)
  | receive hqueue hempty =>
      exact h.leaving_queue hrunning hscheduled hidle _ _ hqueue
        (Or.inr ⟨rfl, hempty⟩)
  | suspend => exact h.leaving_setStatus hrunning hscheduled hidle (by decide)
  | finish => exact h.leaving_setStatus hrunning hscheduled hidle (by decide)
  | serve _ _ ih => exact ih

/-- A call that forces a decision does nothing more than decide. -/
theorem Forces.perform (hstarted : k.phase = .started)
    (hforces : k.Forces current call u) :
    ∃ answer, k.perform call = (fun k' => (answer, k')) <$> u.schedule := by
  have hfree : (k.task current).isBlocked = false := by
    have hwaits :=
      h.orderly.not_blocked (h.orderly.running_ready hrunning hscheduled)
    rw [Task.isBlocked, show (k.task current).waitsFor = none from hwaits]
    rfl
  have hself : k.running ≠ k.idle := by
    rw [hrunning]
    exact Ne.symm hidle
  induction hforces with
  | delay hticks hmax =>
      refine ⟨.unit (.ok ()), ?_⟩
      simp only [Kernel.perform, Kernel.delay, hstarted, ne_eq, not_true,
        if_false, Tick.acceptTimeout_of_le hmax, hticks, hself,
        sleep_eq hrunning hidle hscheduled]
      cases Kernel.schedule _ <;> rfl
  | acquire hmutex howner hother htimeout hmax =>
      refine ⟨.unit (.error .timeout), ?_⟩
      simp only [Kernel.perform, Kernel.acquire, hmutex, Bool.not_true,
        Bool.false_eq_true, if_false, Tick.acceptTimeout_of_le hmax, hrunning,
        howner, hother, htimeout, hidle,
        awaitMutex_eq hrunning hidle hscheduled hfree]
      cases Kernel.schedule _ <;> rfl
  | @send queue message timeout hqueue hside hfull htimeout hmax =>
      refine ⟨.unit (.error .timeout), ?_⟩
      have hnobody : k.popWaiter? queue .receivers = none := if_neg hside
      have hisFull : (k.queue queue).ring.isFull = true := beq_iff_eq.mpr hfull
      simp only [Kernel.perform, Kernel.send, hqueue, Bool.not_true,
        Bool.false_eq_true, if_false, Tick.acceptTimeout_of_le hmax, hrunning,
        require, hfree, Bool.not_false, if_true, hnobody, sendToRing, hisFull,
        htimeout, hidle, awaitQueue_eq hrunning hidle hscheduled]
      cases Kernel.schedule _ <;> rfl
  | @receive queue timeout hqueue hempty htimeout hmax =>
      refine ⟨.message (.error .timeout), ?_⟩
      have hnone : (k.queue queue).ring.pop? = none := if_pos hempty
      simp only [Kernel.perform, Kernel.receive, hqueue, Bool.not_true,
        Bool.false_eq_true, if_false, Tick.acceptTimeout_of_le hmax, hrunning,
        require, hfree, Bool.not_false, if_true, hnone, htimeout, hidle,
        awaitQueue_eq hrunning hidle hscheduled]
      cases Kernel.schedule _ <;> rfl
  | suspend =>
      refine ⟨.unit (.ok ()), ?_⟩
      have hreg : k.isRegistered current = true :=
        (h.shows.isRegistered_iff current).mpr
          (h.orderly.staffed.running_registered current hrunning)
      have hactive : (k.task current).status = .active :=
        h.orderly.running_active hrunning hscheduled
      simp only [Kernel.perform, Kernel.suspend, hreg, Bool.not_true,
        Bool.false_eq_true, if_false, hidle, hactive, hrunning, if_true,
        giveUp_eq (k := k.setStatus current .suspended) hscheduled]
      cases Kernel.schedule _ <;> rfl
  | finish =>
      refine ⟨.nothing, ?_⟩
      simp only [Kernel.perform, Kernel.finish, hrunning, hidle, if_false,
        giveUp_eq (k := k.setStatus current .finished) hscheduled]
  | serve hcall hforces ih =>
      obtain ⟨answer, hperform⟩ := ih
      refine ⟨.reply answer.toReply, ?_⟩
      rw [perform_serve hcall, hperform]
      cases Kernel.schedule _ <;> rfl

end Forces

end Kernel

namespace View

variable {v w : View} {call : Call} {reply : Reply} {answer : Answer}
  {current : TaskId}

theorem isRunnable_switchedFrom (v : View) (saved : Option StackPointer)
    (id : TaskId) :
    ((v.switchedFrom saved).task id).isRunnable = (v.task id).isRunnable := by
  rw [Task.isRunnable, ((switched_switchedFrom v saved).alike id).status,
    Task.isRunnable]

/-- A tick does not stop the running task. -/
theorem Ticked.isRunnable (hw : v.Ticked w)
    (hrunning : v.running = some current)
    (hable : (v.task current).isRunnable = true) :
    (w.task current).isRunnable = true := by
  cases hw with
  | stopped => exact hable
  | pending => exact hable
  | now hother _ hw =>
      obtain rfl := Option.some.inj (hother.symm.trans hrunning)
      cases hw with
      | stays => exact hable
      | due target _ hne => exact isRunnable_dispatched hne hable
      | chosen target _ hne => exact isRunnable_dispatched hne hable

/-- Nothing keeps the running task from going on but a call in which it
stops. -/
theorem Shape.stops_of (hw : v.Shape call reply w) (h : v.Orderly none)
    (hrunning : v.running = some current) (hscheduled : v.scheduled = none)
    (hcall : call ≠ .tearDown) (hstops : (w.task current).isRunnable = false) :
    v.idle ≠ some current ∧ ∃ u, v.Stops current call reply u := by
  have hstarted := h.started_of_running hrunning
  have hactive := h.running_active hrunning hscheduled
  have hable : (v.task current).isRunnable = true :=
    (Task.isRunnable_iff _).mpr (Or.inr hactive)
  have hgoesOn : (w.task current).isRunnable = true →
      v.idle ≠ some current ∧ ∃ u, v.Stops current call reply u := by
    intro hgoes
    rw [hgoes] at hstops
    cases hstops
  cases hw with
  | rests _ hw =>
      apply hgoesOn
      rw [hw.task current]
      exact hable
  | ticks _ hw => exact hgoesOn (hw.isRunnable hrunning hable)
  | @beats _ u saved hu =>
      apply hgoesOn
      rw [isRunnable_switchedFrom]
      exact hu.isRunnable hrunning hable
  | switches saved =>
      apply hgoesOn
      rw [isRunnable_switchedFrom]
      exact hable
  | stops hother _ hidle hu =>
      obtain rfl := Option.some.inj (hother.symm.trans hrunning)
      exact ⟨hidle, _, hu⟩
  | @serves _ _ _ id u _ hu _ _ _ hw =>
      have hne : id ≠ current := by
        rintro rfl
        exact hu.other hrunning
      apply hgoesOn
      refine hw.isRunnable ?_ hne ?_
      · rw [hu.lists]
        exact hrunning
      · rw [hu.lists]
        simp only [unblocked, if_neg hne]
        exact hable
  | @resumes id _ _ hstatus =>
      apply hgoesOn
      rw [task_readied_of_ne v]
      · exact hable
      · rintro rfl
        rw [hactive] at hstatus
        cases hstatus
  | @shelves id _ _ hnext =>
      have hne : id ≠ current := by
        rintro rfl
        exact hnext (next_of_running hrunning hscheduled)
      have hsame : (v.shelved id).task current = v.task current := if_neg hne
      apply hgoesOn
      rw [hsame]
      exact hable
  | enrols _ hphase => exact absurd hstarted (not_started_of_open hphase)
  | enters _ _ hphase =>
      exact absurd hstarted (not_started_of_open (Or.inr hphase))
  | clears => exact absurd rfl hcall

end View

namespace Kernel

variable {k k' u : Kernel} {current : TaskId} {call : Call} {answer : Answer}

/-- A call by number forces what the call that it stands for forces. -/
theorem Forces.of_direct (h : k.Forces current call.direct u) :
    k.Forces current call u := by
  cases call with
  | serve number args =>
      cases hcall : Call.ofService number args with
      | none =>
          rw [Call.direct, hcall, Option.getD_none] at h
          exact h
      | some call =>
          rw [Call.direct, hcall, Option.getD_some] at h
          exact .serve hcall h
  | _ => exact h

/-- Whoever is told of a timeout that was not zero sleeps at the object of the
call. -/
theorem Sound.forces_parked (h : k.Sound) {w : View}
    (hrunning : k.running = some current) (hw : k.view.Performs call answer w)
    (hobject : call.object ≠ none) (htimeout : call.timeout ≠ 0)
    (hreply : answer.toReply.status = .timeout) :
    ∃ u, k.Forces current call u := by
  have hself : ∀ {other : TaskId}, k.view.running = some other →
      other = current :=
    fun hother => Option.some.inj (hother.symm.trans hrunning)
  cases hw with
  | acquire hw =>
      cases hw with
      | refused error herror =>
          exact absurd (herror (View.eq_timeout_of_status hreply)) htimeout
      | taken => cases hreply
      | again => cases hreply
      | parked hother hcreated howner hnot _ _ _ hne hmax =>
          obtain rfl := hself hother
          obtain ⟨owner, howns⟩ := Option.ne_none_iff_exists'.mp howner
          refine ⟨_,
            .acquire ((h.shows.hasMutex_iff _).mpr hcreated) howns ?_ hne hmax⟩
          rintro rfl
          exact hnot howns
  | send hw =>
      cases hw with
      | refused error hne => exact absurd (View.eq_timeout_of_status hreply) hne
      | handed => cases hreply
      | stored => cases hreply
      | parked hother hcreated hside hfull _ _ _ hne hmax =>
          obtain rfl := hself hother
          exact ⟨_,
            .send ((h.shows.hasQueue_iff _).mpr hcreated) hside hfull hne hmax⟩
  | receive hw =>
      cases hw with
      | refused error hne => exact absurd (View.eq_timeout_of_status hreply) hne
      | taken => cases hreply
      | refilled => cases hreply
      | parked hother hcreated hempty _ _ _ hne hmax =>
          obtain rfl := hself hother
          exact ⟨_,
            .receive ((h.shows.hasQueue_iff _).mpr hcreated) hempty hne hmax⟩
  | release => exact absurd rfl htimeout
  | _ => exact absurd rfl hobject

/-- No other call takes the running task off the processor. -/
theorem Sound.forces_of_stops (h : k.Sound)
    (hrunning : k.running = some current) (hscheduled : k.scheduled = none)
    (hcall : call ≠ .tearDown) (hperform : k.perform call = .ok (answer, k'))
    (hstops : (k'.task current).isRunnable = false) :
    k.idle ≠ some current ∧ ∃ u, k.Forces current call u := by
  obtain ⟨other, hw, hreply⟩ := (h.performs hperform).1.direct
  obtain ⟨hidle, u, hu⟩ :=
    ((h.performs hperform).1.shape h.orderly).stops_of h.orderly
      hrunning hscheduled (Call.direct_ne_tearDown hcall) hstops
  refine ⟨hidle, ?_⟩
  suffices hdirect : ∃ u, k.Forces current call.direct u by
    obtain ⟨u, hu⟩ := hdirect
    exact ⟨u, hu.of_direct⟩
  generalize call.direct = direct at hw hu
  rw [← hreply] at hu
  cases hu with
  | dozes hticks hmax => exact ⟨_, .delay hticks hmax⟩
  | parks side message hobject htold htimeout hmax =>
      exact h.forces_parked hrunning hw (by simp [hobject]) htimeout htold
  | quits hwhy =>
      rcases hwhy with ⟨rfl, -⟩ | ⟨rfl, -⟩
      · exact ⟨_, .suspend⟩
      · exact ⟨_, .finish⟩

end Kernel

/-- Every decision that can be taken while `current` is on the processor is
taken as it has to be. -/
structure Kernel.Decided (k : Kernel) (current : TaskId) : Prop where
  running : k.running = some current
  now : ∃ k', k.schedule = .ok k' ∧ k.Decides current k'
  /-- A call that takes the running task off the processor changes that task
  first, and then decides. -/
  forced : k.idle ≠ some current → ∀ call u, k.Forces current call u →
    ∃ answer k', k.perform call = .ok (answer, k') ∧ u.schedule = .ok k' ∧
      u.Decides current k'
  forces : ∀ call answer k', call ≠ .tearDown →
    k.perform call = .ok (answer, k') → (k'.task current).isRunnable = false →
      k.idle ≠ some current ∧ ∃ u, k.Forces current call u

/-- While no switch is pending and no guard is damaged, every decision returns
and is as it has to be. -/
theorem Run.decided {steps : List Step} {k : Kernel} (hrun : Run steps k)
    (hstarted : k.phase = .started) (hscheduled : k.scheduled = none)
    (hguarded : k.Guarded) : ∃ current, k.Decided current := by
  have hsound := hrun.sound
  obtain ⟨current, hrunning⟩ :=
    Option.ne_none_iff_exists'.mp
      (hsound.orderly.staffed.started_iff.mp hstarted)
  have hready := hsound.orderly.running_ready hrunning hscheduled
  refine ⟨current, hrunning, ?_, fun hidle call u hforces => ?_, ?_⟩
  · exact hsound.linked.decides (hsound.orderly.onTheMove hready) hstarted
      hrunning hscheduled hguarded
  · have hleaving := hforces.leaving hsound hrunning hscheduled hidle
    obtain ⟨k', hok, hdecides⟩ := hleaving.linked.decides hleaving.orderly
      (hleaving.phase.trans hstarted) (hleaving.running.trans hrunning)
      (hleaving.scheduled.trans hscheduled) (hleaving.guarded hguarded)
    obtain ⟨answer, hperform⟩ :=
      hforces.perform hsound hrunning hscheduled hidle hstarted
    rw [hok] at hperform
    exact ⟨answer, k', hperform, hok, hdecides⟩
  · exact fun call answer k' hcall hperform =>
      hsound.forces_of_stops hrunning hscheduled hcall hperform

namespace Witness

/-- Task B holds a mutex, task C naps, and task A is on the processor. -/
def unevenly : List Call :=
  [.setUp, .register (spec "idle" 0), .register (spec "a" 3),
    .register (spec "b" 5),
    .register (spec "c" 7), .start, .createMutex, .delay 9, .switchOver,
    .acquire lock 0, .delay 9, .switchOver]

theorem decided_unevenly :
    Run (history unevenly).1 (history unevenly).2 ∧
      (history unevenly).2.phase = .started ∧
      (history unevenly).2.scheduled = none ∧
      (history unevenly).2.Guarded ∧
      ∃ current, (history unevenly).2.Decided current :=
  ⟨run_history _, by decide +kernel, by decide +kernel, by decide +kernel,
    (run_history _).decided (by decide +kernel) (by decide +kernel)
      (by decide +kernel)⟩

end Witness

end TickKernel
