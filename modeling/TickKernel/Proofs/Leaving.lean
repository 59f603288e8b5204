/-
Who leaves a queue, and what stays.  Calls that are not about a queue do not
touch its ring and the messages of the tasks blocked on it, and nobody joins
them; but some of them may leave, because they are suspended or because their
deadline is reached.  `View.Quiet` is the case in which nothing at all happens
to queues, `View.Keeps` the general one.
-/
import TickKernel.Proofs.Turns

namespace TickKernel

namespace View

/-! ### Quiet steps -/

/-- A queue is left alone, and so are the waits of the tasks blocked on it. -/
structure QuietAt (v : View) (queue : QueueId) (w : View) : Prop where
  created : w.Created (.queue queue) → v.Created (.queue queue)
  ring : w.ring queue = v.ring queue
  waiters : w.waiters queue = v.waiters queue
  blocked : w.blocked (.queue queue) = v.blocked (.queue queue)
  message : ∀ id ∈ v.blocked (.queue queue),
    (w.task id).message = (v.task id).message
  deadline : ∀ id ∈ v.blocked (.queue queue),
    (w.task id).deadline = (v.task id).deadline

/-- The same tasks are registered, and queues are left alone. -/
structure Quiet (v w : View) : Prop where
  taskCount : w.taskCount = v.taskCount
  all : w.all = v.all
  queues : ∀ queue, v.QuietAt queue w

section Quiet

variable {u v w : View} {moving : Option TaskId} {id : TaskId}

/-- A queue that is itself left alone is so if the messages and deadlines
are. -/
theorem QuietAt.of_task {queue : QueueId}
    (hcreated : w.Created (.queue queue) → v.Created (.queue queue))
    (hring : w.ring queue = v.ring queue)
    (hwaiters : w.waiters queue = v.waiters queue)
    (hblocked : w.blocked (.queue queue) = v.blocked (.queue queue))
    (htask : ∀ id ∈ v.blocked (.queue queue),
      (w.task id).message = (v.task id).message ∧
        (w.task id).deadline = (v.task id).deadline) : v.QuietAt queue w :=
  ⟨hcreated, hring, hwaiters, hblocked, fun id hid => (htask id hid).1,
    fun id hid => (htask id hid).2⟩

theorem Quiet.refl (v : View) : v.Quiet v :=
  ⟨rfl, rfl, fun _ => .of_task (fun h => h) rfl rfl rfl fun _ _ => ⟨rfl, rfl⟩⟩

/-- What happens to a task that is blocked nowhere is no concern of queues. -/
theorem Quiet.setTask (hid : ∀ resource, id ∉ v.blocked resource)
    (f : Task → Task) :
    v.Quiet (v.setTask id f) := by
  refine ⟨rfl, rfl, fun queue => .of_task (fun h => h) rfl rfl rfl
    fun other hmem => ?_⟩
  have hne : id ≠ other := by
    rintro rfl
    exact hid _ hmem
  simp only [View.setTask, if_neg hne, and_self]

/-- Replies are no concern of queues either. -/
theorem Quiet.promised (v : View) (id : TaskId) (reply : Reply) :
    v.Quiet (v.promised id reply) := by
  refine ⟨rfl, rfl, fun queue => .of_task (fun h => h) rfl rfl rfl
    fun other hmem => ?_⟩
  simp only [View.promised, View.setTask]
  split <;> simp_all

theorem Quiet.stoodDown (v : View) (id : TaskId) :
    v.Quiet (v.stoodDown id) := by
  refine ⟨rfl, rfl, fun queue => .of_task (fun h => h) rfl rfl rfl
    fun other hmem => ?_⟩
  simp only [View.stoodDown]
  split <;> simp_all

end Quiet

/-! ### Steps in which tasks leave -/

/-- A queue keeps its messages, and of the tasks blocked on it all but those
that have `left`, in the same order. -/
structure Undisturbed (v : View) (queue : QueueId) (left : List TaskId)
    (w : View) :
    Prop where
  created : w.Created (.queue queue) → v.Created (.queue queue)
  ring : w.ring queue = v.ring queue
  blocked : w.blocked (.queue queue) =
    (v.blocked (.queue queue)).filter (decide <| · ∉ left)
  waiters : w.waiters queue =
    if w.blocked (.queue queue) = [] then .nobody else v.waiters queue
  message : ∀ id ∈ w.blocked (.queue queue),
    (w.task id).message = (v.task id).message

/-- The same tasks are registered, and who leaves a queue is one of those that
depart or has reached its deadline. -/
structure Keeps (v : View) (departs : TaskId → Prop) (w : View) : Prop where
  taskCount : w.taskCount = v.taskCount
  all : w.all = v.all
  queues : ∀ queue, ∃ left, v.Undisturbed queue left w ∧
    ∀ id ∈ left, id ∈ v.blocked (.queue queue) →
      departs id ∨ Tick.reached w.platform.clock (v.task id).deadline = true

section Keeps

variable {u v w : View} {moving : Option TaskId} {departs : TaskId → Prop}
  {id current target : TaskId} {reply : Reply}

theorem QuietAt.undisturbed {queue : QueueId} (h : v.QuietAt queue w)
    (hv : v.Supplied) : v.Undisturbed queue [] w := by
  refine ⟨h.created, h.ring, ?_, ?_, fun id hid => ?_⟩
  · rw [h.blocked]
    simp
  · rw [h.waiters, h.blocked]
    split
    · exact (hv.nobody_iff queue).mpr ‹_›
    · rfl
  · rw [h.blocked] at hid
    exact h.message id hid

theorem Quiet.keeps (h : v.Quiet w) (hv : v.Supplied) : v.Keeps departs w :=
  ⟨h.taskCount, h.all, fun queue =>
    ⟨[], (h.queues queue).undisturbed hv,
      fun _ hid => absurd hid List.not_mem_nil⟩⟩

theorem QuietAt.undisturbed_trans {queue : QueueId} {left : List TaskId}
    (h : u.QuietAt queue v) (h' : v.Undisturbed queue left w) :
    u.Undisturbed queue left w := by
  refine ⟨fun hid => h.created (h'.created hid), h'.ring.trans h.ring, ?_, ?_,
    fun id hid => ?_⟩
  · rw [h'.blocked, h.blocked]
  · rw [h'.waiters, h.waiters]
  · have hmem := hid
    rw [h'.blocked, h.blocked] at hmem
    exact (h'.message id hid).trans (h.message id (List.mem_of_mem_filter hmem))

/-- A quiet step may come before. -/
theorem Quiet.keeps_trans (h : u.Quiet v) (h' : v.Keeps departs w) :
    u.Keeps departs w := by
  refine ⟨h'.taskCount.trans h.taskCount, h'.all.trans h.all, fun queue => ?_⟩
  obtain ⟨left, hleft, hreason⟩ := h'.queues queue
  refine ⟨left, (h.queues queue).undisturbed_trans hleft, fun id hid hmem => ?_⟩
  rw [← (h.queues queue).deadline id hmem]
  exact hreason id hid (by rwa [(h.queues queue).blocked])

theorem Undisturbed.trans_quietAt {queue : QueueId} {left : List TaskId}
    (h : u.Undisturbed queue left v) (h' : v.QuietAt queue w) :
    u.Undisturbed queue left w := by
  refine ⟨fun hid => h.created (h'.created hid), h'.ring.trans h.ring,
    h'.blocked.trans h.blocked, ?_, fun id hid => ?_⟩
  · rw [h'.waiters, h'.blocked, h.waiters]
  · rw [h'.blocked] at hid
    exact (h'.message id hid).trans (h.message id hid)

/-- A quiet step may come behind if no time passes in it. -/
theorem Keeps.trans_quiet (h : u.Keeps departs v) (h' : v.Quiet w)
    (hclock : w.platform.clock = v.platform.clock) : u.Keeps departs w := by
  refine ⟨h'.taskCount.trans h.taskCount, h'.all.trans h.all, fun queue => ?_⟩
  obtain ⟨left, hleft, hreason⟩ := h.queues queue
  refine ⟨left, hleft.trans_quietAt (h'.queues queue), fun id hid hmem => ?_⟩
  rw [hclock]
  exact hreason id hid hmem

/-- A task gives up its place, if it has one. -/
theorem undisturbed_unblocked (h : v.Parked) (id : TaskId) (queue : QueueId) :
    v.Undisturbed queue [id] (v.unblocked id) := by
  refine ⟨fun h => h, rfl, ?_, rfl, fun other hother => ?_⟩
  · simp only [View.unblocked]
    rw [(h.blocked_nodup _).erase_eq_filter]
    refine List.filter_congr fun other _ => ?_
    rw [Bool.eq_iff_iff, bne_iff_ne, decide_eq_true_eq,
      List.mem_singleton]
  · have hne : id ≠ other := by
      rintro rfl
      exact (h.blocked_nodup (.queue queue)).not_mem_erase hother
    simp only [View.unblocked, if_neg hne]

/-- Whether a task that leaves a queue becomes runnable or is set aside is no
concern of the queue. -/
theorem Undisturbed.of_unblocked {queue : QueueId}
    (h : v.Undisturbed queue [id] (v.unblocked id))
    (hcount : w.queueCount = v.queueCount) (hring : w.ring = v.ring)
    (hblocked : w.blocked = (v.unblocked id).blocked)
    (hwaiters : w.waiters = (v.unblocked id).waiters)
    (htask : ∀ other, id ≠ other →
      (w.task other).message = (v.task other).message) :
    v.Undisturbed queue [id] w := by
  refine ⟨fun hid => ?_, congrFun hring queue, ?_, ?_, fun other hother => ?_⟩
  · rwa [Created, hcount] at hid
  · rw [hblocked]
    exact h.blocked
  · rw [hblocked, hwaiters]
    exact h.waiters
  · have hne : id ≠ other := by
      rintro rfl
      rw [hblocked, h.blocked] at hother
      simp at hother
    exact htask other hne

theorem undisturbed_readied (h : v.Parked) (id : TaskId) (queue : QueueId) :
    v.Undisturbed queue [id] (v.readied id) :=
  (undisturbed_unblocked h id queue).of_unblocked rfl rfl rfl rfl
    fun other hne => by
    simp only [readied, if_neg hne]

theorem undisturbed_shelved (h : v.Parked) (id : TaskId) (queue : QueueId) :
    v.Undisturbed queue [id] (v.shelved id) :=
  (undisturbed_unblocked h id queue).of_unblocked rfl rfl rfl rfl
    fun other hne => by
    simp only [shelved, if_neg hne]

theorem undisturbed_dispatched (h : v.Parked) (current target : TaskId)
    (queue : QueueId) :
    v.Undisturbed queue [target] (v.dispatched current target) := by
  refine (undisturbed_unblocked h target queue).of_unblocked rfl rfl rfl rfl
    fun other hne => ?_
  simp only [dispatched, promoted, setTask, stoodDown, readied, if_neg hne]
  grind

theorem Keeps.dispatched (h : v.Parked)
    (hreason : ∀ queue, target ∈ v.blocked (.queue queue) →
      Tick.reached v.platform.clock (v.task target).deadline = true) :
    v.Keeps departs (v.dispatched current target) := by
  refine ⟨rfl, rfl, fun queue =>
    ⟨[target], undisturbed_dispatched h current target queue, ?_⟩⟩
  intro id hid hmem
  obtain rfl := List.mem_singleton.mp hid
  exact Or.inr (hreason queue hmem)

theorem Keeps.readied (h : v.Parked)
    (hreason : ∀ queue, id ∈ v.blocked (.queue queue) → departs id) :
    v.Keeps departs (v.readied id) := by
  refine ⟨rfl, rfl, fun queue => ⟨[id], undisturbed_readied h id queue, ?_⟩⟩
  intro other hother hmem
  obtain rfl := List.mem_singleton.mp hother
  exact Or.inl (hreason queue hmem)

theorem Keeps.shelved (h : v.Parked)
    (hreason : ∀ queue, id ∈ v.blocked (.queue queue) → departs id) :
    v.Keeps departs (v.shelved id) := by
  refine ⟨rfl, rfl, fun queue => ⟨[id], undisturbed_shelved h id queue, ?_⟩⟩
  intro other hother hmem
  obtain rfl := List.mem_singleton.mp hother
  exact Or.inl (hreason queue hmem)

/-- Besides the tasks that wait no task has a place to give up. -/
theorem Orderly.not_blocked_of_ready (h : v.Orderly moving) (hid : id ∈ v.ready)
    (hmove : moving ≠ some id) (resource : Resource) :
    id ∉ v.blocked resource :=
  h.parked.not_mem_blocked
    (h.parked.not_blocked (h.not_waiting_of_ready hid hmove)) resource

theorem Keeps.rescheduled (h : v.Orderly (some current))
    (hw : v.Rescheduled current w) : v.Keeps departs w := by
  cases hw with
  | stays => exact (Quiet.refl v).keeps h.supplied
  | due target htarget hne hdue =>
      exact Keeps.dispatched h.parked fun _ _ => hdue
  | chosen target htarget hne =>
      have hmove : some current ≠ some target :=
        fun heq => hne (Option.some.inj heq).symm
      refine Keeps.dispatched h.parked fun queue hmem => ?_
      exact absurd hmem (h.not_blocked_of_ready htarget hmove _)

theorem Keeps.gaveUp (h : v.Orderly (some current)) (hw : v.GaveUp current w) :
    v.Keeps departs w := by
  cases hw with
  | pending hscheduled => exact (Quiet.stoodDown v current).keeps h.supplied
  | now hscheduled hw => exact Keeps.rescheduled h hw

/-- A task that is woken was taken off its queue before. -/
theorem Keeps.woke (h : v.Orderly none) (hid : (v.task id).waitsFor = none)
    (hw : v.Woke id reply w) : v.Keeps departs w := by
  have hfree : ∀ queue, id ∉ (v.promised id reply).blocked (.queue queue) :=
    fun queue => h.parked.not_mem_blocked hid _
  have hpromised : (v.promised id reply).Parked := h.promised.parked
  refine (Quiet.promised v id reply).keeps_trans ?_
  cases hw with
  | now current hrunning hscheduled hne =>
      exact Keeps.dispatched hpromised fun queue hmem =>
        absurd hmem (hfree queue)
  | later hscheduled =>
      exact Keeps.readied hpromised fun queue hmem => absurd hmem (hfree queue)

end Keeps

/-! ### Stacks under the outcomes -/

section SameStacks

variable {v w : View} {current id : TaskId} {reply : Reply}

theorem SameStacks.refl (v : View) : v.SameStacks v :=
  fun _ => rfl

theorem SameStacks.setTask {f : Task → Task} (id : TaskId)
    (hf : (f (v.task id)).stack = (v.task id).stack) :
    v.SameStacks (v.setTask id f) := by
  intro other
  simp only [View.setTask]
  split <;> simp_all

theorem SameStacks.guarded (h : v.SameStacks w)
    (hcount : w.taskCount = v.taskCount) (hv : v.Guarded) : w.Guarded := by
  intro id hid
  rw [Registered, hcount] at hid
  exact (isGuarded_of_stack (h id)).trans (hv id hid)

theorem SameStacks.rescheduled (hw : v.Rescheduled current w) :
    v.SameStacks w := by
  cases hw with
  | stays => exact SameStacks.refl v
  | due target => exact sameStacks_dispatched v current target
  | chosen target => exact sameStacks_dispatched v current target

theorem SameStacks.gaveUp (hw : v.GaveUp current w) : v.SameStacks w := by
  cases hw with
  | pending => exact sameStacks_stoodDown v current
  | now _ hw => exact SameStacks.rescheduled hw

theorem SameStacks.woke (hw : v.Woke id reply w) : v.SameStacks w := by
  have hpromised : v.SameStacks (v.promised id reply) :=
    SameStacks.setTask id rfl
  cases hw with
  | now current => exact hpromised.trans (sameStacks_dispatched _ current id)
  | later => exact hpromised.trans (sameStacks_readied _ id)

end SameStacks

/-! ### All of it together -/

/-- A step to another orderly view that leaves stacks and queues alone, but for
the tasks that leave. -/
structure Passes (v : View) (departs : TaskId → Prop) (w : View) : Prop where
  orderly : w.Orderly none
  sameStacks : v.SameStacks w
  keeps : v.Keeps departs w

section Passes

variable {v w : View} {departs : TaskId → Prop} {current id : TaskId}
  {reply : Reply}

theorem Passes.refl (h : v.Orderly none) : v.Passes departs v :=
  ⟨h, SameStacks.refl v, (Quiet.refl v).keeps h.supplied⟩

/-- The running task turns to something else and gives up the processor. -/
theorem Passes.gaveUp (h : v.Orderly none) {f : Task → Task}
    (hrunning : v.running = some current) (hready : current ∈ v.ready)
    (hidle : v.idle ≠ some current)
    (hstatus : (f (v.task current)).isRunnable = false)
    (hdeadline : (f (v.task current)).status ≠ .waiting →
      (f (v.task current)).deadline = 0)
    (hsame : f (v.task current) = { v.task current with
      status := (f (v.task current)).status
      deadline := (f (v.task current)).deadline })
    (hw : (v.setTask current f).GaveUp current w) : v.Passes departs w := by
  have hactive : (f (v.task current)).status ≠ .active := by
    intro hactive
    rw [Task.isRunnable, hactive] at hstatus
    cases hstatus
  have hmoving : (v.setTask current f).Orderly (some current) := by
    refine h.setTask hready hidle ?_ hdeadline hactive ?_ ?_ ?_ <;> rw [hsame]
  have hself : (v.setTask current f).task current = f (v.task current) := by
    simp only [View.setTask, if_true]
  have hquiet : v.Quiet (v.setTask current f) :=
    Quiet.setTask (h.not_blocked_of_ready hready (Option.some_ne_none _).symm) f
  have hstacks : v.SameStacks (v.setTask current f) :=
    SameStacks.setTask current (by rw [hsame])
  refine ⟨hmoving.gaveUp hrunning (by rw [hself]; exact hstatus) hw,
    hstacks.trans (SameStacks.gaveUp hw),
    hquiet.keeps_trans (Keeps.gaveUp hmoving hw)⟩

theorem Passes.readied (h : v.Orderly none) (hreg : v.Registered id)
    (hnext : v.next ≠ some id)
    (hdeparts : ∀ queue, id ∈ v.blocked (.queue queue) → departs id) :
    v.Passes departs (v.readied id) :=
  ⟨h.readied hreg (Option.some_ne_none id).symm hnext, sameStacks_readied v id,
    Keeps.readied h.parked hdeparts⟩

theorem Passes.shelved (h : v.Orderly none) (hidle : v.idle ≠ some id)
    (hnext : v.next ≠ some id)
    (hdeparts : ∀ queue, id ∈ v.blocked (.queue queue) → departs id) :
    v.Passes departs (v.shelved id) :=
  ⟨h.shelved hidle hnext, sameStacks_shelved v id,
    Keeps.shelved h.parked hdeparts⟩

theorem Passes.rescheduled (h : v.Orderly none)
    (hrunning : v.running = some current) (hscheduled : v.scheduled = none)
    (hw : v.Rescheduled current w) :
    v.Passes departs w := by
  have hmoving := h.onTheMove (h.running_ready hrunning hscheduled)
  exact ⟨hmoving.rescheduled hrunning hscheduled (fun _ => h) hw,
    SameStacks.rescheduled hw, Keeps.rescheduled hmoving hw⟩

theorem Passes.woke (h : v.Orderly none) (hid : id ∈ v.waiting)
    (hwaits : (v.task id).waitsFor = none) (hw : v.Woke id reply w) :
    v.Passes departs w :=
  ⟨h.woke hid hw, SameStacks.woke hw, Keeps.woke h hwaits hw⟩

/-- A step before in which queues and stacks are left alone changes nothing. -/
theorem Passes.of_quiet {u : View} (h : v.Passes departs w) (hquiet : u.Quiet v)
    (hstacks : u.SameStacks v) : u.Passes departs w :=
  ⟨h.orderly, hstacks.trans h.sameStacks, hquiet.keeps_trans h.keeps⟩

end Passes

end View

end TickKernel
