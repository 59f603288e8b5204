/-
Calls made to two kernels that hold different messages.  They come to the same:
the life of a kernel, the calls on tasks and mutexes, and those on queues, which
pass messages on without looking at them.  A message that is sent or received
comes with a related one.
-/
import TickKernel.Proofs.Mirrors
import TickKernel.Proofs.Refusals

namespace TickKernel

/-- The same error, or two related messages. -/
inductive Fetched (R : Message → Message → Prop) :
    Except Error Message → Except Error Message → Prop
  | error (error : Error) : Fetched R (.error error) (.error error)
  | message {message message' : Message} (h : R message message') :
      Fetched R (.ok message) (.ok message')

namespace Kernel

variable {R : Message → Message → Prop} {k k' : Kernel} {id : TaskId}

namespace Twins

/-! ### The life of a kernel -/

theorem setUp (h : k.Twins R k') : Beside R Eq k.setUp k'.setUp := by
  unfold Kernel.setUp
  rw [h.phase_eq]
  split
  · exact ⟨rfl,
      h.update (fun k => { k with phase := .prepared }) fun _ _ _ => rfl⟩
  · exact ⟨rfl, h⟩

theorem launch (h : k.Twins R k') : Beside R Eq k.launch k'.launch := by
  have hbrought := h.update broughtUp fun _ _ _ => rfl
  unfold Kernel.launch
  rw [h.platform_eq, h.ready_eq]
  cases Platform.outcome k.platform.setupFailure with
  | error error => exact ⟨rfl, hbrought⟩
  | ok _ =>
      cases k.ready.head with
      | none => exact ⟨rfl, hbrought⟩
      | some first =>
          have hactive : (k.broughtUp.setStatus first .active).Twins R
              (k'.broughtUp.setStatus first .active) :=
              hbrought.setStatus .active
          have hentered := hactive.update (fun k => { k with
            running := some first
            scheduled := none
            phase := .started
            platform := k.platform.enterFirst.2 }) fun _ _ _ => rfl
          refine ⟨?_, hentered⟩
          exact congrArg (fun platform => platform.enterFirst.1)
            hbrought.platform_eq.symm

theorem start (h : k.Twins R k') : Beside R Eq k.start k'.start := by
  rw [start_eq, start_eq, h.phase_eq]
  cases k.phase with
  | blank | prepared | started => exact ⟨rfl, h⟩
  | populated => exact h.launch

theorem tearDown (h : k.Twins R k') : k.tearDown.Twins R k'.tearDown := by
  unfold Kernel.tearDown
  rw [h.platform_eq]
  exact twins_fresh k.platform

theorem admission_eq (h : k.Twins R k') (spec : TaskSpec) :
    k'.admission spec = k.admission spec := by
  unfold admission
  rw [h.phase_eq, h.idle_eq]
  simp only [h.taskCount_eq]

/-- A task that has kept no message yet takes the slot. -/
theorem occupy (h : k.Twins R k') {task : Task} (htask : task.Twins R id task)
    (hwaits : task.waitsFor = none) :
    (k.modifyTask id fun _ => task).Twins R
      (k'.modifyTask id fun _ => task) := by
  refine h.modifyTask htask fun queue hqueue => ?_
  rw [hwaits] at hqueue
  cases hqueue

theorem enrol (h : k.Twins R k') (spec : TaskSpec) {stack : Stack}
    {offset : Nat} (hplace : stack.words.size ≤ offset + Frame.size + 1) :
    (k.enrol id spec stack offset).Twins R (k'.enrol id spec stack offset) := by
  let task (status : TaskStatus) : Task :=
    { Task.vacant with
      name := spec.name
      status
      priority := if k.idle.isNone then Priority.idle else spec.priority
      entry := spec.entry
      param := spec.param
      stack
      savedAt := some ⟨id, offset⟩ }
  have htask : ∀ status, (task status).Twins R id (task status) :=
    fun status => by
    refine Task.twins_self rfl rfl rfl fun pointer hpointer => ?_
    obtain rfl := Option.some.inj hpointer
    exact ⟨rfl, hplace⟩
  have henrolled := fun status =>
    (h.occupy (htask status) rfl).update (fun k₁ => { k₁ with
      taskCount := k₁.taskCount + 1
      idle := if k.idle.isNone then some id else k.idle
      links := { k₁.links.unlink id with
        all := (k₁.all.pushFront (k₁.links.unlink id).all id).2 }
      all := (k₁.all.pushFront (k₁.links.unlink id).all id).1
      phase := .populated }) fun _ _ _ => rfl
  unfold Kernel.enrol
  rw [h.idle_eq]
  cases spec.mode with
  | running => exact (henrolled .ready).joinReady id
  | suspended => exact henrolled .suspended

/-- The frame of a new task lies at the end of its stack. -/
theorem prepare_place {stack prepared : Stack} {seeded : Bool}
    {entry param exit index : Address} {offset : Nat}
    (h : stack.prepare seeded entry param exit index =
      .ok (.ok (prepared, offset))) :
    prepared.words.size ≤ offset + Frame.size + 1 := by
  obtain ⟨hroom, rfl, frame, -, rfl⟩ := Stack.exists_layout_of_prepare h
  have htop := Stack.frameSize_lt_top hroom
  have hle := stack.top_le
  dsimp only
  rw [Stack.size_layout htop hle.1]
  omega

theorem register (h : k.Twins R k') (spec : TaskSpec) :
    TwinResults R (k.register spec) (k'.register spec) := by
  unfold Kernel.register
  rw [h.admission_eq, h.platform_eq]
  cases k.admission spec with
  | error error => exact .ok ⟨rfl, h⟩
  | ok id =>
      dsimp only
      cases hprepare : spec.stack.prepare k.platform.seeded spec.entry
        spec.param k.platform.exitAddress (UInt64.ofNat id.val) with
      | error fault => exact .stopped h fault
      | ok prepared =>
          cases prepared with
          | error error => exact .ok ⟨rfl, h⟩
          | ok placed => exact .ok ⟨rfl, h.enrol spec (prepare_place hprepare)⟩

/-! ### Calls on tasks -/

theorem isRegistered_eq (h : k.Twins R k') (id : TaskId) :
    k'.isRegistered id = k.isRegistered id := by
  rw [isRegistered, h.taskCount_eq, isRegistered]

theorem suspend (h : k.Twins R k') (id : TaskId) :
    TwinResults R (k.suspend id) (k'.suspend id) := by
  unfold Kernel.suspend
  rw [h.isRegistered_eq, h.idle_eq, h.running_eq, (h.tasks id).status_eq]
  split
  · exact .ok ⟨rfl, h⟩
  split
  · exact .ok ⟨rfl, h⟩
  cases (k.task id).status with
  | suspended | finished => exact .ok ⟨rfl, h⟩
  | active =>
      dsimp only
      split
      · exact Mirrors.returning _ ((h.setStatus .suspended).giveUp id)
      · exact .ok ⟨rfl, h⟩
  | ready =>
      exact (h.leaveReady id).bind fun _ _ _ hleft =>
        .ok ⟨rfl, hleft.setStatus _⟩
  | waiting =>
      refine Mirrors.returning _ ((h.unblock id).bind fun _ _ _ h₁ => ?_)
      exact (h₁.leaveWaiting id).bind fun _ _ _ h₂ =>
        .ok (h₂.modifyTask_same (fun _ _ _ _ _ => rfl) rfl rfl)

theorem resume (h : k.Twins R k') (id : TaskId) :
    TwinResults R (k.resume id) (k'.resume id) := by
  unfold Kernel.resume
  rw [h.isRegistered_eq, (h.tasks id).status_eq]
  split
  · exact .ok ⟨rfl, h⟩
  split
  · exact .ok ⟨rfl, h⟩
  · exact Mirrors.returning _ (h.reinstate id)

theorem finish (h : k.Twins R k') : TwinKernels R k.finish k'.finish := by
  unfold Kernel.finish
  rw [h.running_eq, h.idle_eq]
  cases k.running with
  | none => exact .stopped h .assertion
  | some id =>
      dsimp only
      split
      · exact .stopped h .application
      · exact (h.setStatus .finished).giveUp id

theorem delay (h : k.Twins R k') (ticks : Tick) :
    TwinResults R (k.delay ticks) (k'.delay ticks) := by
  unfold Kernel.delay
  rw [h.phase_eq, h.running_eq, h.idle_eq]
  split
  · exact .ok ⟨rfl, h⟩
  cases Tick.acceptTimeout ticks with
  | error error => exact .ok ⟨rfl, h⟩
  | ok _ =>
      dsimp only
      split
      · exact .ok ⟨rfl, h⟩
      split
      · exact .ok ⟨rfl, h⟩
      · exact Mirrors.returning _ (h.sleep ticks .none)

theorem spin (h : k.Twins R k') (ticks : Tick) :
    Beside R Eq (k.spin ticks) (k'.spin ticks) := by
  by_cases hphase : k.phase = .started
  · have hspin : k.spin ticks = k.refuse .alreadyRunning := if_pos hphase
    have hspin' : k'.spin ticks = k'.refuse .alreadyRunning :=
      if_pos (h.phase_eq.trans hphase)
    rw [hspin, hspin']
    exact ⟨rfl, h⟩
  · have hspin : k.spin ticks =
        { k with platform := k.platform.advance ticks }.accept () :=
        if_neg hphase
    have hspin' : k'.spin ticks =
        { k' with platform := k'.platform.advance ticks }.accept () :=
      if_neg fun hphase' => hphase (h.phase_eq.symm.trans hphase')
    rw [hspin, hspin']
    exact ⟨rfl,
      h.update (fun k => { k with platform := k.platform.advance ticks })
      fun _ _ _ => rfl⟩

/-! ### Calls on mutexes -/

theorem putMutex (h : k.Twins R k') (id : MutexId) (mutex : Mutex) :
    (k.putMutex id mutex).Twins R (k'.putMutex id mutex) :=
  h.update (fun k => k.putMutex id mutex) fun _ _ _ => rfl

theorem hasMutex_eq (h : k.Twins R k') (id : MutexId) :
    k'.hasMutex id = k.hasMutex id := by
  rw [hasMutex, h.mutexCount_eq, hasMutex]

theorem createMutex (h : k.Twins R k') :
    Beside R Eq k.createMutex k'.createMutex := by
  have hcreated := h.update (fun k => { k with mutexCount := k.mutexCount + 1 })
    fun _ _ _ => rfl
  unfold Kernel.createMutex
  simp only [h.mutexCount_eq] at hcreated ⊢
  split
  · exact ⟨rfl, hcreated.putMutex _ Mutex.free⟩
  · exact ⟨rfl, h⟩

theorem awaitMutex (h : k.Twins R k') (id : MutexId) (current : TaskId)
    (timeout : Tick) :
    TwinResults R (k.awaitMutex id current timeout)
      (k'.awaitMutex id current timeout) := by
  unfold Kernel.awaitMutex
  refine .require h (by rw [(h.tasks current).isBlocked_eq]) fun _ => ?_
  have hjoined := h.joinBlocked current (.mutex id)
  refine Mirrors.returning _ (Twins.sleep ?_ timeout .mutex)
  refine hjoined.modifyTask ?_ fun queue hqueue => by cases hqueue
  exact (hjoined.tasks current).update
    (f := fun task => { task with waitsFor := some (.mutex id) })
    (fun _ _ _ _ _ => rfl) rfl

theorem acquire (h : k.Twins R k') (id : MutexId) (timeout : Tick) :
    TwinResults R (k.acquire id timeout) (k'.acquire id timeout) := by
  unfold Kernel.acquire
  rw [h.hasMutex_eq, h.running_eq, h.mutex_eq, h.idle_eq]
  split
  · exact .ok ⟨rfl, h⟩
  cases Tick.acceptTimeout timeout with
  | error error => exact .ok ⟨rfl, h⟩
  | ok _ =>
      cases k.running with
      | none => exact .ok ⟨rfl, h⟩
      | some current =>
          dsimp only
          cases (k.mutex id).owner with
          | none => exact .ok ⟨rfl, h.putMutex id _⟩
          | some owner =>
              dsimp only
              split
              · split
                · exact .ok ⟨rfl, h⟩
                · exact .ok ⟨rfl, h.putMutex id _⟩
              split
              · exact .ok ⟨rfl, h⟩
              split
              · exact .ok ⟨rfl, h⟩
              · exact h.awaitMutex id current timeout

theorem passOn (h : k.Twins R k') (id : MutexId) :
    TwinKernels R (k.passOn id) (k'.passOn id) := by
  unfold Kernel.passOn
  rw [h.mutex_eq]
  obtain ⟨hnone, hnone'⟩ | ⟨next, k₁, k₁', hpop, hpop', h₁⟩ :=
    h.popBlocked (.mutex id)
  · rw [hnone, hnone']
    exact .ok (h.putMutex id _)
  · rw [hpop, hpop']
    have hput := h₁.update (fun k =>
      k.putMutex id { k.mutex id with owner := some next, level := 1 })
        fun _ _ _ => rfl
    exact hput.wakeUp next .done

theorem release (h : k.Twins R k') (id : MutexId) :
    TwinResults R (k.release id) (k'.release id) := by
  unfold Kernel.release
  rw [h.hasMutex_eq, h.running_eq, h.mutex_eq]
  split
  · exact .ok ⟨rfl, h⟩
  cases k.running with
  | none => exact .ok ⟨rfl, h⟩
  | some current =>
      refine .require h rfl fun _ => ?_
      split
      · exact Mirrors.returning _ (h.passOn id)
      · exact .ok ⟨rfl, h.putMutex id _⟩

end Twins

/-! ### Calls on queues -/

theorem Sound.ring_valid (h : k.Sound) {queue : QueueId}
    (hqueue : k.hasQueue queue = true) :
    (k.queue queue).ring.Valid :=
  h.orderly.supplied.ring_valid queue ((h.shows.hasQueue_iff queue).mp hqueue)

theorem task_popBlocked {resource : Resource}
    (hpop : k.popBlocked? resource = some (id, k')) :
    k'.task = k.task := by
  unfold popBlocked? at hpop
  split at hpop
  · cases hpop
  · cases hpop
    cases resource <;> rfl

/-- The task that is taken off was blocked, and the rings stay as they are. -/
theorem Shows.of_popBlocked {v : View} (h : k.Shows v) {resource : Resource}
    (hpop : k.popBlocked? resource = some (id, k')) :
    id ∈ v.blocked resource ∧
      ∀ queue, (k'.queue queue).ring = v.ring queue := by
  cases hids : v.blocked resource with
  | nil =>
      rw [h.popBlocked_eq_none hids] at hpop
      cases hpop
  | cons first rest =>
      obtain ⟨k₁, hfirst, hk₁⟩ := h.popBlocked hids
      rw [hfirst] at hpop
      cases hpop
      refine ⟨List.mem_cons_self, fun queue => ?_⟩
      rw [hk₁.ring_eq, View.ring_settle]
      rfl

theorem popWaiter_eq_some {queue : QueueId} {side : Waiters}
    (hpop : k.popWaiter? queue side = some (id, k')) :
    (k.queue queue).waiters = side ∧ k.popBlocked? (.queue queue) =
      some (id, k') := by
  unfold popWaiter? at hpop
  split at hpop
  · exact ⟨‹_›, hpop⟩
  · cases hpop

theorem waiters_joinBlocked (queue : QueueId) :
    ((k.joinBlocked id (.queue queue)).queue queue).waiters =
      (k.queue queue).waiters := by
  change ((Kernel.putQueue k queue _).queue queue).waiters = _
  rw [queue_putQueue, if_pos rfl]

/-- Nobody waits to receive from a full queue. -/
theorem Sound.senders_of_full (h : k.Sound) {queue : QueueId}
    (hqueue : k.hasQueue queue = true)
    (hfull : (k.queue queue).ring.isFull = true)
    (hwaits : (k.task id).waitsFor = some (.queue queue)) :
    (k.queue queue).waiters = .senders := by
  have hmem : id ∈ k.blockedIds (.queue queue) :=
    (h.orderly.parked.mem_blocked (.queue queue) id).mpr hwaits
  cases hside : (k.queue queue).waiters with
  | senders => rfl
  | nobody =>
      have hempty : k.blockedIds (.queue queue) = [] :=
        (h.orderly.supplied.nobody_iff queue).mp hside
      rw [hempty] at hmem
      cases hmem
  | receivers =>
      have hcount : (k.queue queue).ring.count = 0 :=
        h.orderly.supplied.empty_of_receivers queue hside
      have hpos := (h.ring_valid hqueue).capacity_pos
      rw [Ring.isFull, beq_iff_eq] at hfull
      omega

namespace Twins

theorem createQueue (h : k.Twins R k') (capacity : UInt64) :
    Beside R Eq (k.createQueue capacity) (k'.createQueue capacity) := by
  have hcreated := h.update (fun k => { k with queueCount := k.queueCount + 1 })
    fun _ _ _ => rfl
  unfold Kernel.createQueue
  simp only [h.queueCount_eq] at hcreated ⊢
  split
  · exact ⟨rfl, h⟩
  split
  · exact ⟨rfl,
      hcreated.putQueue _ (Queue.twins_ofCapacity _) fun hside =>
      by cases hside⟩
  · exact ⟨rfl, h⟩

theorem hasQueue_eq (h : k.Twins R k') (id : QueueId) :
    k'.hasQueue id = k.hasQueue id := by
  rw [hasQueue, h.queueCount_eq, hasQueue]

/-- Whoever waits to send keeps a related message, and all others at the queue
do. -/
theorem awaitQueue {β : Type} (h : k.Twins R k') (id : QueueId)
    (current : TaskId) {side : Waiters} {message message' : Option Message}
    (timeout : Tick) {same : Except Error β → Except Error β → Prop}
    (hsame : same (.error .timeout) (.error .timeout))
    (hmessage : Option.Rel R message message')
    (hside : side = .senders → message.isSome = true ∧
      ∀ waiter, (k.task waiter).waitsFor = some (.queue id) →
      (k.queue id).waiters = .senders) :
    Mirrors R (Beside R same) (k.awaitQueue id current side message timeout)
      (k'.awaitQueue id current side message' timeout) := by
  have hput : (k.putQueue id { k.queue id with waiters := side }).Twins R
      (k'.putQueue id { k'.queue id with waiters := side }) :=
    h.putQueue id
      ((h.queues id).update (fun queue => { queue with waiters := side })
      fun _ _ => rfl) fun hsenders waiter hwaits =>
        h.stashed waiter id hwaits ((hside hsenders).2 waiter hwaits)
  have hjoined := hput.joinBlocked current (.queue id)
  unfold Kernel.awaitQueue
  refine (Twins.sleep ?_ timeout .queue).bind fun _ _ _ hslept =>
    .ok ⟨hsame, hslept⟩
  refine hjoined.modifyTask ((hjoined.tasks current).stash hmessage _) ?_
  intro queue hqueue hsenders
  obtain rfl := Resource.queue.inj (Option.some.inj hqueue)
  rw [waiters_joinBlocked, queue_putQueue, if_pos rfl] at hsenders
  cases hmessage with
  | some hrelated => exact hrelated
  | none => cases (hside hsenders).1

theorem popWaiter (h : k.Twins R k') (id : QueueId) (side : Waiters) :
    (k.popWaiter? id side = none ∧ k'.popWaiter? id side = none) ∨
      ∃ waiter k₁ k₁', k.popWaiter? id side = some (waiter, k₁) ∧
        k'.popWaiter? id side = some (waiter, k₁') ∧ k₁.Twins R k₁' := by
  unfold popWaiter?
  rw [(h.queues id).waiters_eq]
  split
  · exact h.popBlocked (.queue id)
  · exact Or.inl ⟨rfl, rfl⟩

theorem putRing (h : k.Twins R k') (id : QueueId) {ring ring' : Ring}
    (hring : ring.Twins R ring') :
    (k.putRing id ring).Twins R (k'.putRing id ring') :=
  h.putQueue id ((h.queues id).putRing hring) fun hside waiter hwaits =>
    h.stashed waiter id hwaits hside

theorem sendToRing (h : k.Twins R k') (hsound : k.Sound) {id : QueueId}
    {current : TaskId} {message message' : Message}
    (hqueue : k.hasQueue id = true) (hmessage : R message message')
    (timeout : Tick) :
    TwinResults R (k.sendToRing id current message timeout)
      (k'.sendToRing id current message' timeout) := by
  have hring := (h.queues id).ring
  have hvalid := hsound.ring_valid hqueue
  unfold Kernel.sendToRing
  dsimp only
  rw [hring.isFull_eq, h.idle_eq]
  by_cases hfull : (k.queue id).ring.isFull = true
  · rw [if_pos hfull, if_pos hfull]
    split
    · exact .ok ⟨rfl, h⟩
    split
    · exact .ok ⟨rfl, h⟩
    · exact h.awaitQueue id current timeout rfl (.some hmessage) fun _ =>
        ⟨rfl, fun _ hwaits => hsound.senders_of_full hqueue hfull hwaits⟩
  · rw [if_neg hfull, if_neg hfull]
    have hroom : (k.queue id).ring.count < (k.queue id).ring.capacity :=
      Nat.lt_of_le_of_ne hvalid.count_le fun hcount =>
        hfull (beq_iff_eq.mpr hcount)
    have hstored := (h.queues id).putRing (hring.push hvalid hroom hmessage)
    refine .ok ⟨rfl, h.putQueue id (hstored.update (fun queue =>
      { queue with waiters := .nobody }) fun _ _ => rfl)
        fun hside => by cases hside⟩

theorem send (h : k.Twins R k') (hsound : k.Sound) (id : QueueId)
    {message message' : Message} (hmessage : R message message')
    (timeout : Tick) :
    TwinResults R (k.send id message timeout)
      (k'.send id message' timeout) := by
  unfold Kernel.send
  rw [h.hasQueue_eq, h.running_eq]
  split
  · exact .ok ⟨rfl, h⟩
  rename_i hcreated
  have hqueue : k.hasQueue id = true := by simpa using hcreated
  cases Tick.acceptTimeout timeout with
  | error error => exact .ok ⟨rfl, h⟩
  | ok _ =>
      cases k.running with
      | none => exact .ok ⟨rfl, h⟩
      | some current =>
          refine .require h (by rw [(h.tasks current).isBlocked_eq]) fun _ => ?_
          obtain ⟨hnone, hnone'⟩ | ⟨receiver, k₁, k₁', hpop, hpop', h₁⟩ :=
            h.popWaiter id .receivers
          · rw [hnone, hnone']
            exact h.sendToRing hsound hqueue hmessage timeout
          · rw [hpop, hpop']
            exact Mirrors.returning _ (h₁.wakeUp receiver (.message hmessage))

/-- The sender that has waited longest kept a related message. -/
theorem refill (h : k.Twins R k') (hsound : k.Sound) {id : QueueId}
    {message : Message} {ring ring' : Ring} (hqueue : k.hasQueue id = true)
    (hpop : (k.queue id).ring.pop? = some (message, ring))
    (hring : ring.Twins R ring') :
    TwinKernels R ((k.putRing id ring).refill id)
      ((k'.putRing id ring').refill id) := by
  have hput := h.putRing id hring
  unfold Kernel.refill
  obtain ⟨hnone, hnone'⟩ | ⟨sender, k₁, k₁', hfirst, hfirst', h₁⟩ :=
    hput.popWaiter id .senders
  · rw [hnone, hnone']
    exact .ok hput
  rw [hfirst, hfirst']
  obtain ⟨hside, hpopped⟩ := popWaiter_eq_some hfirst
  obtain ⟨-, hpopped'⟩ := popWaiter_eq_some hfirst'
  obtain ⟨hmem, hkept⟩ := (hsound.shows.putRing id ring).of_popBlocked hpopped
  have hself : (k₁.queue id).ring = ring := (hkept id).trans (if_pos rfl)
  have hsenders : (k.queue id).waiters = .senders := by
    rw [Kernel.putRing, queue_putQueue, if_pos rfl] at hside
    exact hside
  have hwaits : (k.task sender).waitsFor = some (.queue id) :=
    (hsound.orderly.parked.mem_blocked (.queue id) sender).mp hmem
  have hmessage : R (k₁.task sender).message (k₁'.task sender).message := by
    rw [task_popBlocked hpopped, task_popBlocked hpopped']
    exact h.stashed sender id hwaits hsenders
  -- senders wait at full queues only, so there is room where the message was
  -- taken out
  have hvalid := hsound.ring_valid hqueue
  have hroom : ring.count < ring.capacity :=
    (View.ring_refilled message hvalid
      (hsound.orderly.supplied.full_of_senders id hsenders) hpop).2.2
  have hrefilled :=
    (h₁.queues id).ring.push (by rw [hself]; exact Ring.valid_pop hvalid hpop)
      (by rwa [hself]) hmessage
  exact (h₁.putRing id hrefilled).wakeUp sender .done

/-- A message that is received comes from corresponding places. -/
theorem receive (h : k.Twins R k') (hsound : k.Sound) (id : QueueId)
    (timeout : Tick) :
    Mirrors R (Beside R (Fetched R)) (k.receive id timeout)
      (k'.receive id timeout) := by
  have hrefuse : ∀ error,
      Mirrors R (Beside R (Fetched R)) (.ok (k.refuse error))
      (.ok (k'.refuse error)) := fun error => .ok ⟨.error error, h⟩
  unfold Kernel.receive
  rw [h.hasQueue_eq, h.running_eq, h.idle_eq]
  split
  · exact hrefuse _
  rename_i hcreated
  have hqueue : k.hasQueue id = true := by simpa using hcreated
  cases Tick.acceptTimeout timeout with
  | error error => exact hrefuse error
  | ok _ =>
      cases k.running with
      | none => exact hrefuse _
      | some current =>
          refine .require h (by rw [(h.tasks current).isBlocked_eq]) fun _ => ?_
          have hpopped := (h.queues id).ring.pop (hsound.ring_valid hqueue)
          generalize hpop : (k.queue id).ring.pop? = popped at hpopped ⊢
          generalize (k'.queue id).ring.pop? = popped' at hpopped ⊢
          cases hpopped with
          | none =>
              dsimp only
              split
              · exact hrefuse _
              split
              · exact hrefuse _
              · exact h.awaitQueue id current timeout (.error .timeout) .none
                  fun hside => by cases hside
          | @some popped popped' hrelated =>
              obtain ⟨message, ring⟩ := popped
              obtain ⟨message', ring'⟩ := popped'
              obtain ⟨hmessage, hring⟩ := hrelated
              exact (h.refill hsound hqueue hpop hring).bind fun _ _ _ htwins =>
                .ok ⟨.message hmessage, htwins⟩

end Twins

end Kernel

end TickKernel
