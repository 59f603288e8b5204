/-
The invariant of the kernel, on views, and the moves that the rules of the
kernel are made of.  `View.Orderly` has five parts: the lists of runnable and
waiting tasks agree with the statuses, the lists of blocked tasks with what the
tasks wait for, mutexes and queues with who is blocked on them, and the running
and the scheduled task with the phase of the kernel.

In the middle of a call one task may be on the move: its status says already
where it is going, while it is still among the runnable ones.  The invariant is
stated for that situation too, and a task on the move arrives by `stoodDown`.
-/
import TickKernel.Proofs.View

namespace TickKernel

/-- The kind of wait that tasks blocked on a resource are in. -/
def Resource.flag : Resource → WaitFlag
  | .mutex _ => .mutex
  | .queue _ => .queue

theorem Task.isRunnable_iff (task : Task) :
    task.isRunnable = true ↔ task.status = .ready ∨ task.status = .active := by
  rw [Task.isRunnable]
  cases task.status <;> simp [TaskStatus.isRunnable]

/-- Two tasks belong to the same lists, in the same place. -/
structure Task.Alike (task other : Task) : Prop where
  status : task.status = other.status
  priority : task.priority = other.priority
  deadline : task.deadline = other.deadline
  flag : task.flag = other.flag
  waitsFor : task.waitsFor = other.waitsFor
  message : task.message = other.message

theorem Task.Alike.refl (task : Task) : task.Alike task :=
  ⟨rfl, rfl, rfl, rfl, rfl, rfl⟩

theorem Task.Alike.trans {one two three : Task} (h : one.Alike two)
    (h' : two.Alike three) : one.Alike three :=
  ⟨h.status.trans h'.status, h.priority.trans h'.priority,
    h.deadline.trans h'.deadline, h.flag.trans h'.flag,
    h.waitsFor.trans h'.waitsFor, h.message.trans h'.message⟩

namespace View

/-! ### Moves -/

/-- Task `id` gives up its place on the object that it is blocked on. -/
def unblocked (v : View) (id : TaskId) : View :=
  { v with
    task := fun other =>
      if id = other then (v.task id).withoutWait else v.task other
    blocked := fun resource => (v.blocked resource).erase id
    waiters := fun queue =>
      if (v.blocked (.queue queue)).erase id = [] then .nobody
        else v.waiters queue }

/-- Task `id` is runnable again, whatever it waited for. -/
def readied (v : View) (id : TaskId) : View :=
  { v.unblocked id with
    task := fun other =>
      if id = other then
        { (v.task id).withoutWait with deadline := 0, status := .ready }
      else v.task other
    ready :=
      if id ∈ v.ready then v.ready
      else insertBefore (fun other => (v.task id).outranks (v.task other))
        id v.ready
    waiting := v.waiting.erase id }

/-- Task `id` is set aside, whatever it did. -/
def shelved (v : View) (id : TaskId) : View :=
  { v.unblocked id with
    task := fun other =>
      if id = other then
        { (v.task id).withoutWait with deadline := 0, status := .suspended }
      else v.task other
    ready := v.ready.erase id
    waiting := v.waiting.erase id }

/-- Task `id`, which leaves the processor, arrives where its status sends it. -/
def stoodDown (v : View) (id : TaskId) : View :=
  { v with
    task := fun other =>
      if id = other ∧ (v.task id).isRunnable = true then
        { v.task id with status := .ready }
      else v.task other
    ready := if (v.task id).isRunnable = true then v.ready else v.ready.erase id
    waiting :=
      if (v.task id).status = .waiting then
        insertBefore (fun other => (v.task id).dueBefore (v.task other)) id
          v.waiting
      else v.waiting }

/-- Task `id` is the next one on the processor. -/
def promoted (v : View) (id : TaskId) : View :=
  { v.setTask id fun task => { task with status := .active } with
    scheduled := some id
    platform := v.platform.askForSwitch }

/-- Task `target` takes the place of the running task `previous`. -/
def dispatched (v : View) (previous target : TaskId) : View :=
  ((v.readied target).stoodDown previous).promoted target

/-- Task `id` queues up at a resource and falls asleep. -/
def parked (v : View) (id : TaskId) (resource : Resource) (side : Waiters)
    (message : Message) (deadline : Tick) : View :=
  { v with
    task := fun other =>
      if id = other then
        { v.task id with
          status := .waiting
          deadline
          flag := resource.flag
          waitsFor := some resource
          message }
      else v.task other
    blocked := fun other =>
      if resource = other then v.blocked resource ++ [id] else v.blocked other
    waiters := fun queue =>
      if resource = .queue queue then side else v.waiters queue }

/-- The task that is on the processor once a pending switch has taken place. -/
def next (v : View) : Option TaskId :=
  v.scheduled.or v.running

/-! ### The invariant -/

/-- The lists of runnable and waiting tasks agree with the statuses. -/
structure Queued (v : View) (moving : Option TaskId) : Prop where
  ready_nodup : v.ready.Nodup
  waiting_nodup : v.waiting.Nodup
  mem_ready : ∀ id, id ∈ v.ready ↔
    v.Registered id ∧ (moving = some id ∨ (v.task id).isRunnable = true)
  mem_waiting : ∀ id, id ∈ v.waiting ↔
    v.Registered id ∧ (v.task id).status = .waiting ∧ moving ≠ some id
  ready_sorted : v.ready.Pairwise fun earlier later =>
    (v.task later).priority ≤ (v.task earlier).priority
  deadline_eq : ∀ id, (v.task id).status ≠ .waiting → (v.task id).deadline = 0

/-- The lists of blocked tasks agree with what the tasks wait for. -/
structure Parked (v : View) : Prop where
  blocked_nodup : ∀ resource, (v.blocked resource).Nodup
  mem_blocked : ∀ resource id, id ∈ v.blocked resource ↔
    (v.task id).waitsFor = some resource
  created : ∀ resource id, (v.task id).waitsFor = some resource →
    v.Created resource
  blocked_task : ∀ resource id, (v.task id).waitsFor = some resource →
    v.Registered id ∧ (v.task id).status = .waiting ∧
      (v.task id).flag = resource.flag
  unblocked_task : ∀ id, (v.task id).waitsFor = none →
    (v.task id).flag = .none ∧ (v.task id).message = 0

/-- Mutexes agree with who is blocked on them. -/
structure Owned (v : View) : Prop where
  level_pos_iff : ∀ id, 0 < v.level id ↔ v.owner id ≠ none
  blocked_of_free : ∀ id, v.owner id = none → v.blocked (.mutex id) = []
  owner_not_blocked : ∀ id owner, v.owner id = some owner →
    owner ∉ v.blocked (.mutex id)

/-- Queues agree with who is blocked on them. -/
structure Supplied (v : View) : Prop where
  ring_valid : ∀ id, v.Created (.queue id) → (v.ring id).Valid
  nobody_iff : ∀ id, v.waiters id = .nobody ↔ v.blocked (.queue id) = []
  full_of_senders : ∀ id, v.waiters id = .senders →
    (v.ring id).count = (v.ring id).capacity
  empty_of_receivers : ∀ id, v.waiters id = .receivers → (v.ring id).count = 0

/-- The special tasks agree with the phase of the kernel. -/
structure Staffed (v : View) (moving : Option TaskId) : Prop where
  count_le : v.taskCount ≤ maxTasks
  mem_all : ∀ id, id ∈ v.all ↔ v.Registered id
  all_sorted : v.all.Pairwise fun newer older => older < newer
  populated_iff : v.phase = .populated ∨ v.phase = .started ↔ 0 < v.taskCount
  started_iff : v.phase = .started ↔ v.running ≠ none
  idle_iff : ∀ id, v.idle = some id ↔ id.val = 0 ∧ v.Registered id
  idle_runnable : ∀ id, v.idle = some id →
    (v.task id).isRunnable = true ∧ (v.task id).priority = Priority.idle
  running_registered : ∀ id, v.running = some id → v.Registered id
  scheduled_other : ∀ id, v.scheduled = some id →
    v.Registered id ∧ v.running ≠ none ∧ v.running ≠ some id
  next_of_active : ∀ id, (v.task id).status = .active → v.next = some id
  active_of_next : ∀ id, v.next = some id → moving ≠ some id →
    (v.task id).status = .active

/-- Everything that holds between calls, with no task on the move, and within
them, with one. -/
structure Orderly (v : View) (moving : Option TaskId) : Prop where
  queued : v.Queued moving
  parked : v.Parked
  owned : v.Owned
  supplied : v.Supplied
  staffed : v.Staffed moving

/-! ### Runnable and waiting tasks under the moves -/

section Queued

variable {v w : View} {moving : Option TaskId} {id : TaskId}

/-- The lists agree with the statuses whatever else the tasks hold. -/
theorem Queued.congr (h : v.Queued moving) (hcount : w.taskCount = v.taskCount)
    (hready : w.ready = v.ready) (hwaiting : w.waiting = v.waiting)
    (htask : ∀ id, (w.task id).status = (v.task id).status ∧
      (w.task id).priority = (v.task id).priority ∧
      (w.task id).deadline = (v.task id).deadline) : w.Queued moving := by
  constructor
  · exact hready ▸ h.ready_nodup
  · exact hwaiting ▸ h.waiting_nodup
  · intro id
    rw [hready, h.mem_ready, Registered, Registered, hcount, Task.isRunnable,
      Task.isRunnable, (htask id).1]
  · intro id
    rw [hwaiting, h.mem_waiting, Registered, Registered, hcount, (htask id).1]
  · rw [hready]
    refine h.ready_sorted.imp fun hle => ?_
    rwa [(htask _).2.1, (htask _).2.1]
  · intro id hstatus
    rw [(htask id).1] at hstatus
    rw [(htask id).2.2]
    exact h.deadline_eq id hstatus

theorem Queued.unblocked (h : v.Queued moving) :
    (v.unblocked id).Queued moving := by
  refine h.congr rfl rfl rfl fun other => ?_
  simp only [View.unblocked]
  split
  · rename_i heq
    subst heq
    exact ⟨rfl, rfl, rfl⟩
  · exact ⟨rfl, rfl, rfl⟩

theorem Queued.not_mem_waiting (h : v.Queued moving) (hid : id ∈ v.ready) :
    id ∉ v.waiting := by
  have hready := h.mem_ready id
  have hwaiting := h.mem_waiting id
  grind [Task.isRunnable, TaskStatus.isRunnable]

/-- A runnable task may be considered to be on the move. -/
theorem Queued.onTheMove (h : v.Queued none) (hid : id ∈ v.ready) :
    v.Queued (some id) := by
  have hmem := (h.mem_ready id).mp hid
  refine ⟨h.ready_nodup, h.waiting_nodup, ?_, ?_, h.ready_sorted, h.deadline_eq⟩
  · intro other
    have hother := h.mem_ready other
    grind
  · intro other
    have hother := h.mem_waiting other
    have hwait := h.not_mem_waiting hid
    grind

/-- What a task on the move is going to do is nobody else's business. -/
theorem Queued.setTask (h : v.Queued (some id)) {f : Task → Task}
    (hpriority : (f (v.task id)).priority = (v.task id).priority)
    (hdeadline : (f (v.task id)).status ≠ .waiting →
      (f (v.task id)).deadline = 0) :
    (v.setTask id f).Queued (some id) := by
  constructor <;> simp only [View.setTask]
  · exact h.ready_nodup
  · exact h.waiting_nodup
  · intro other
    have hmem := h.mem_ready other
    grind [Registered]
  · intro other
    have hmem := h.mem_waiting other
    grind [Registered]
  · refine h.ready_sorted.imp ?_
    grind
  · intro other
    have := h.deadline_eq other
    grind

/-- The runnable tasks stay sorted when another one joins them by its
priority. -/
theorem sorted_insertBefore {task : TaskId → Task} {ids : List TaskId}
    (hsorted : ids.Pairwise fun earlier later =>
      (task later).priority ≤ (task earlier).priority) :
    (insertBefore (fun other => (task id).outranks (task other))
      id ids).Pairwise
      fun earlier later => (task later).priority ≤ (task earlier).priority := by
  apply pairwise_insertBefore hsorted
  · intro other _ hother
    exact UInt8.le_of_lt (of_decide_eq_true hother)
  · intro other _ hother
    exact UInt8.not_lt.mp (of_decide_eq_false hother)
  · intro other _ last _ hother hlast
    exact UInt8.le_trans hlast (UInt8.le_of_lt (of_decide_eq_true hother))

theorem Queued.readied (h : v.Queued moving) (hreg : v.Registered id)
    (hmove : moving ≠ some id) : (v.readied id).Queued moving := by
  constructor <;> simp only [View.readied, View.unblocked]
  · split
    · exact h.ready_nodup
    · exact nodup_insertBefore h.ready_nodup ‹_›
  · exact h.waiting_nodup.erase id
  · intro other
    have hmem := h.mem_ready other
    by_cases hother : id = other
    · subst hother
      grind [Task.isRunnable, TaskStatus.isRunnable, Registered,
        mem_insertBefore]
    · grind [Registered, mem_insertBefore]
  · intro other
    have hmem := h.mem_waiting other
    rw [h.waiting_nodup.mem_erase_iff]
    grind [Registered]
  · have hsorted : (v.ready.Pairwise fun earlier later =>
        (v.task later).priority ≤ (v.task earlier).priority) := h.ready_sorted
    have hnew : (if id ∈ v.ready then v.ready
        else insertBefore (fun other => (v.task id).outranks (v.task other)) id
          v.ready).Pairwise fun earlier later =>
            (v.task later).priority ≤ (v.task earlier).priority := by
      split
      · exact hsorted
      · exact sorted_insertBefore hsorted
    refine hnew.imp ?_
    grind [Task.withoutWait]
  · intro other
    have := h.deadline_eq other
    grind

theorem Queued.shelved (h : v.Queued moving) (hmove : moving ≠ some id) :
    (v.shelved id).Queued moving := by
  constructor <;> simp only [View.shelved, View.unblocked]
  · exact h.ready_nodup.erase id
  · exact h.waiting_nodup.erase id
  · intro other
    have hmem := h.mem_ready other
    rw [h.ready_nodup.mem_erase_iff]
    grind [Task.isRunnable, TaskStatus.isRunnable, Registered]
  · intro other
    have hmem := h.mem_waiting other
    rw [h.waiting_nodup.mem_erase_iff]
    grind [Registered]
  · refine (h.ready_sorted.sublist List.erase_sublist).imp ?_
    grind [Task.withoutWait]
  · intro other
    have := h.deadline_eq other
    grind

theorem Queued.stoodDown (h : v.Queued (some id)) (hreg : v.Registered id) :
    (v.stoodDown id).Queued none := by
  have hself : id ∈ v.ready := (h.mem_ready id).mpr ⟨hreg, Or.inl rfl⟩
  have hwait := h.not_mem_waiting hself
  constructor <;> simp only [View.stoodDown]
  · split
    · exact h.ready_nodup
    · exact h.ready_nodup.erase id
  · split
    · exact nodup_insertBefore h.waiting_nodup hwait
    · exact h.waiting_nodup
  · intro other
    have hmem := h.mem_ready other
    have herase := h.ready_nodup.mem_erase_iff (a := other) (b := id)
    grind [Task.isRunnable, TaskStatus.isRunnable, Registered]
  · intro other
    have hmem := h.mem_waiting other
    by_cases hother : id = other
    · subst hother
      grind [Task.isRunnable, TaskStatus.isRunnable, Registered,
        mem_insertBefore]
    · grind [Registered, mem_insertBefore]
  · have hsub : (if (v.task id).isRunnable = true then v.ready
        else v.ready.erase id).Sublist v.ready := by
      split
      · exact List.Sublist.refl _
      · exact List.erase_sublist
    refine (h.ready_sorted.sublist hsub).imp ?_
    grind
  · intro other
    have := h.deadline_eq other
    grind [Task.isRunnable, TaskStatus.isRunnable]

theorem Queued.promoted (h : v.Queued moving)
    (hid : (v.task id).isRunnable = true) :
    (v.promoted id).Queued moving := by
  have hwait : (v.task id).status ≠ .waiting := by
    grind [Task.isRunnable, TaskStatus.isRunnable]
  constructor <;> simp only [View.promoted, View.setTask]
  · exact h.ready_nodup
  · exact h.waiting_nodup
  · intro other
    have hmem := h.mem_ready other
    grind [Task.isRunnable, TaskStatus.isRunnable, Registered]
  · intro other
    have hmem := h.mem_waiting other
    grind [Registered]
  · refine h.ready_sorted.imp ?_
    grind
  · intro other
    have := h.deadline_eq other
    grind

end Queued

/-! ### Blocked tasks under the moves -/

section Parked

variable {v w : View} {id : TaskId}

/-- The lists agree with what the tasks wait for whatever else they hold. -/
theorem Parked.congr (h : v.Parked) (htasks : v.taskCount ≤ w.taskCount)
    (hmutexes : v.mutexCount ≤ w.mutexCount)
    (hqueues : v.queueCount ≤ w.queueCount) (hblocked : w.blocked = v.blocked)
    (htask : ∀ id, (w.task id).waitsFor = (v.task id).waitsFor ∧
      (w.task id).flag = (v.task id).flag ∧ (w.task id).message =
      (v.task id).message ∧ ((v.task id).waitsFor ≠ none →
      (w.task id).status = (v.task id).status)) :
    w.Parked := by
  constructor
  · exact hblocked ▸ h.blocked_nodup
  · intro resource id
    rw [hblocked, (htask id).1]
    exact h.mem_blocked resource id
  · intro resource id hwaits
    rw [(htask id).1] at hwaits
    have hcreated := h.created resource id hwaits
    cases resource with
    | mutex mutex => exact Nat.lt_of_lt_of_le hcreated hmutexes
    | queue queue => exact Nat.lt_of_lt_of_le hcreated hqueues
  · intro resource id hwaits
    rw [(htask id).1] at hwaits
    obtain ⟨hreg, hstatus, hflag⟩ := h.blocked_task resource id hwaits
    have hsame := (htask id).2.2.2 (by rw [hwaits]; exact Option.some_ne_none _)
    exact ⟨Nat.lt_of_lt_of_le hreg htasks, hsame.trans hstatus,
      (htask id).2.1.trans hflag⟩
  · intro id hwaits
    rw [(htask id).1] at hwaits
    rw [(htask id).2.1, (htask id).2.2.1]
    exact h.unblocked_task id hwaits

/-- A task that gives up its place forgets its wait and leaves every list of
blocked tasks. -/
theorem Parked.released (h : v.Parked) (htasks : w.taskCount = v.taskCount)
    (hmutexes : w.mutexCount = v.mutexCount)
    (hqueues : w.queueCount = v.queueCount)
    (hblocked : ∀ resource, w.blocked resource = (v.blocked resource).erase id)
    (hself : (w.task id).waitsFor = none ∧ (w.task id).flag = .none ∧
      (w.task id).message = 0)
    (hothers : ∀ other, id ≠ other → w.task other = v.task other) :
    w.Parked := by
  constructor
  · intro resource
    rw [hblocked]
    exact (h.blocked_nodup resource).erase id
  · intro resource other
    rw [hblocked, (h.blocked_nodup resource).mem_erase_iff, h.mem_blocked]
    by_cases hother : id = other
    · subst hother
      simp [hself.1]
    · rw [hothers other hother]
      exact and_iff_right (Ne.symm hother)
  · intro resource other hwaits
    have hne : id ≠ other := by
      rintro rfl
      rw [hself.1] at hwaits
      cases hwaits
    rw [hothers other hne] at hwaits
    have hcreated := h.created resource other hwaits
    cases resource with
    | mutex mutex => exact Nat.lt_of_lt_of_eq hcreated hmutexes.symm
    | queue queue => exact Nat.lt_of_lt_of_eq hcreated hqueues.symm
  · intro resource other hwaits
    have hne : id ≠ other := by
      rintro rfl
      rw [hself.1] at hwaits
      cases hwaits
    rw [hothers other hne] at hwaits ⊢
    obtain ⟨hreg, hrest⟩ := h.blocked_task resource other hwaits
    exact ⟨Nat.lt_of_lt_of_eq hreg htasks.symm, hrest⟩
  · intro other hwaits
    by_cases hother : id = other
    · exact hother ▸ hself.2
    · rw [hothers other hother] at hwaits ⊢
      exact h.unblocked_task other hwaits

theorem Parked.unblocked (h : v.Parked) : (v.unblocked id).Parked :=
  h.released rfl rfl rfl (fun _ => rfl) (by simp [View.unblocked,
    Task.withoutWait])
    fun other hother => by simp [View.unblocked, hother]

theorem Parked.readied (h : v.Parked) : (v.readied id).Parked :=
  h.released rfl rfl rfl (fun _ => rfl) (by simp [View.readied,
    Task.withoutWait])
    fun other hother => by simp [View.readied, hother]

theorem Parked.shelved (h : v.Parked) : (v.shelved id).Parked :=
  h.released rfl rfl rfl (fun _ => rfl) (by simp [View.shelved,
    Task.withoutWait])
    fun other hother => by simp [View.shelved, hother]

theorem Parked.not_blocked (h : v.Parked)
    (hstatus : (v.task id).status ≠ .waiting) :
    (v.task id).waitsFor = none := by
  cases hwaits : (v.task id).waitsFor with
  | none => rfl
  | some resource =>
      exact absurd (h.blocked_task resource id hwaits).2.1 hstatus

theorem Parked.not_mem_blocked (h : v.Parked)
    (hwaits : (v.task id).waitsFor = none) (resource : Resource) :
    id ∉ v.blocked resource := by
  rw [h.mem_blocked, hwaits]
  exact (Option.some_ne_none resource).symm

/-- A task that is not blocked may change its status. -/
theorem Parked.setTask (h : v.Parked) {f : Task → Task}
    (hid : (v.task id).waitsFor = none)
    (hwaits : (f (v.task id)).waitsFor = (v.task id).waitsFor)
    (hflag : (f (v.task id)).flag = (v.task id).flag)
    (hmessage : (f (v.task id)).message = (v.task id).message) :
    (v.setTask id f).Parked := by
  refine h.congr (Nat.le_refl _) (Nat.le_refl _) (Nat.le_refl _) rfl
    fun other => ?_
  simp only [View.setTask]
  grind

theorem Parked.stoodDown (h : v.Parked) : (v.stoodDown id).Parked := by
  refine h.congr (Nat.le_refl _) (Nat.le_refl _) (Nat.le_refl _) rfl
    fun other => ?_
  have hblocked : (v.task other).status ≠ .waiting →
      (v.task other).waitsFor = none :=
    h.not_blocked
  simp only [View.stoodDown]
  grind [Task.isRunnable, TaskStatus.isRunnable]

theorem Parked.promoted (h : v.Parked) (hid : (v.task id).status ≠ .waiting) :
    (v.promoted id).Parked := by
  have hwaits := h.not_blocked hid
  refine h.congr (Nat.le_refl _) (Nat.le_refl _) (Nat.le_refl _) rfl
    fun other => ?_
  simp only [View.promoted, View.setTask]
  grind

theorem Parked.parked (h : v.Parked) {resource : Resource} {side : Waiters}
    {message : Message} {deadline : Tick} (hid : (v.task id).waitsFor = none)
    (hreg : v.Registered id) (hcreated : v.Created resource) :
    (v.parked id resource side message deadline).Parked := by
  have hfresh := h.not_mem_blocked hid
  constructor <;> simp only [View.parked]
  · intro other
    split
    · rw [List.nodup_append]
      refine ⟨h.blocked_nodup resource, List.nodup_singleton id, ?_⟩
      rintro one hone last hlast rfl
      rw [List.mem_singleton] at hlast
      exact hfresh resource (hlast ▸ hone)
    · exact h.blocked_nodup other
  · intro other one
    have hmem := h.mem_blocked other one
    have hnew := hfresh other
    grind
  · intro other one hwaits
    change v.Created other
    by_cases hone : id = one
    · rw [if_pos hone] at hwaits
      exact Option.some.inj hwaits ▸ hcreated
    · rw [if_neg hone] at hwaits
      exact h.created other one hwaits
  · intro other one
    have hother := h.blocked_task other one
    grind [Registered]
  · intro one
    have hother := h.unblocked_task one
    grind

end Parked

/-! ### Mutexes and queues under the moves -/

section Resources

variable {v w : View} {id : TaskId}

/-- Who owns the mutexes is settled by the mutexes and their lists of blocked
tasks. -/
theorem Owned.congr (h : v.Owned) (howner : w.owner = v.owner)
    (hlevel : w.level = v.level) (hblocked : w.blocked = v.blocked) :
    w.Owned := by
  constructor
  · rw [howner, hlevel]
    exact h.level_pos_iff
  · rw [howner, hblocked]
    exact h.blocked_of_free
  · rw [howner, hblocked]
    exact h.owner_not_blocked

/-- A task that gives up its place wakes nobody. -/
theorem Owned.released (h : v.Owned) (howner : w.owner = v.owner)
    (hlevel : w.level = v.level)
    (hblocked : ∀ resource,
      w.blocked resource = (v.blocked resource).erase id) :
    w.Owned := by
  constructor
  · rw [howner, hlevel]
    exact h.level_pos_iff
  · intro mutex hfree
    rw [howner] at hfree
    rw [hblocked, h.blocked_of_free mutex hfree]
    rfl
  · intro mutex owner howns hmem
    rw [howner] at howns
    rw [hblocked] at hmem
    exact h.owner_not_blocked mutex owner howns (List.mem_of_mem_erase hmem)

theorem Owned.parked (h : v.Owned) {resource : Resource} {side : Waiters}
    {message : Message} {deadline : Tick}
    (howner : ∀ mutex, resource = .mutex mutex →
      v.owner mutex ≠ none ∧ v.owner mutex ≠ some id) :
    (v.parked id resource side message deadline).Owned := by
  refine ⟨h.level_pos_iff, ?_, ?_⟩ <;> simp only [View.parked]
  · intro mutex hfree
    have := h.blocked_of_free mutex hfree
    grind
  · intro mutex owner howns
    have := h.owner_not_blocked mutex owner howns
    grind

/-- What the queues hold is settled by the queues and their lists of blocked
tasks. -/
theorem Supplied.congr (h : v.Supplied) (hqueues : w.queueCount = v.queueCount)
    (hring : w.ring = v.ring) (hwaiters : w.waiters = v.waiters)
    (hblocked : w.blocked = v.blocked) : w.Supplied := by
  constructor
  · intro queue hcreated
    rw [hring]
    exact h.ring_valid queue (Nat.lt_of_lt_of_eq hcreated hqueues)
  · rw [hwaiters, hblocked]
    exact h.nobody_iff
  · rw [hwaiters, hring]
    exact h.full_of_senders
  · rw [hwaiters, hring]
    exact h.empty_of_receivers

/-- A queue that loses its last waiting task forgets on which side it waited. -/
theorem Supplied.released (h : v.Supplied)
    (hqueues : w.queueCount = v.queueCount) (hring : w.ring = v.ring)
    (hblocked : ∀ resource, w.blocked resource = (v.blocked resource).erase id)
    (hwaiters : ∀ queue,
      w.waiters queue = if (v.blocked (.queue queue)).erase id = [] then .nobody
      else v.waiters queue) : w.Supplied := by
  constructor
  · intro queue hcreated
    rw [hring]
    exact h.ring_valid queue (Nat.lt_of_lt_of_eq hcreated hqueues)
  · intro queue
    rw [hwaiters, hblocked]
    split
    · simp_all
    · rename_i hsome
      rw [h.nobody_iff]
      refine iff_of_false (fun hnil => hsome ?_) hsome
      rw [hnil]
      rfl
  · intro queue hside
    rw [hwaiters] at hside
    rw [hring]
    split at hside
    · cases hside
    · exact h.full_of_senders queue hside
  · intro queue hside
    rw [hwaiters] at hside
    rw [hring]
    split at hside
    · cases hside
    · exact h.empty_of_receivers queue hside

theorem Supplied.parked (h : v.Supplied) {resource : Resource} {side : Waiters}
    {message : Message} {deadline : Tick}
    (hside : ∀ queue, resource = .queue queue →
      side = .senders ∧ (v.ring queue).count = (v.ring queue).capacity ∨
      side = .receivers ∧ (v.ring queue).count = 0) :
    (v.parked id resource side message deadline).Supplied := by
  refine ⟨h.ring_valid, ?_, ?_, ?_⟩ <;> simp only [View.parked]
  · intro queue
    by_cases hqueue : resource = .queue queue
    · rcases hside queue hqueue with ⟨rfl, -⟩ | ⟨rfl, -⟩ <;> simp [hqueue]
    · rw [if_neg hqueue, if_neg hqueue]
      exact h.nobody_iff queue
  · intro queue hsenders
    by_cases hqueue : resource = .queue queue
    · rw [if_pos hqueue] at hsenders
      rcases hside queue hqueue with ⟨-, hfull⟩ | ⟨hother, -⟩
      · exact hfull
      · exact absurd (hsenders.symm.trans hother) (by decide)
    · rw [if_neg hqueue] at hsenders
      exact h.full_of_senders queue hsenders
  · intro queue hreceivers
    by_cases hqueue : resource = .queue queue
    · rw [if_pos hqueue] at hreceivers
      rcases hside queue hqueue with ⟨hother, -⟩ | ⟨-, hempty⟩
      · exact absurd (hreceivers.symm.trans hother) (by decide)
      · exact hempty
    · rw [if_neg hqueue] at hreceivers
      exact h.empty_of_receivers queue hreceivers

end Resources

/-! ### The special tasks under the moves -/

section Staffed

variable {v w : View} {moving : Option TaskId} {id : TaskId}

/-- The special tasks are looked at for their statuses and priorities only. -/
theorem Staffed.congr (h : v.Staffed moving)
    (hcount : w.taskCount = v.taskCount) (hall : w.all = v.all)
    (hphase : w.phase = v.phase) (hidle : w.idle = v.idle)
    (hrunning : w.running = v.running) (hscheduled : w.scheduled = v.scheduled)
    (htask : ∀ id, (w.task id).status = (v.task id).status ∧
      (w.task id).priority = (v.task id).priority) : w.Staffed moving := by
  have hreg : w.Registered = v.Registered := by
    funext id
    rw [Registered, Registered, hcount]
  have hnext : w.next = v.next := by
      rw [View.next, View.next, hscheduled, hrunning]
  constructor
  · exact hcount ▸ h.count_le
  · rw [hall, hreg]
    exact h.mem_all
  · exact hall ▸ h.all_sorted
  · rw [hphase, hcount]
    exact h.populated_iff
  · rw [hphase, hrunning]
    exact h.started_iff
  · rw [hidle, hreg]
    exact h.idle_iff
  · intro id hid
    rw [hidle] at hid
    rw [Task.isRunnable, (htask id).1, (htask id).2]
    exact h.idle_runnable id hid
  · rw [hrunning, hreg]
    exact h.running_registered
  · rw [hscheduled, hrunning, hreg]
    exact h.scheduled_other
  · intro id hactive
    rw [(htask id).1] at hactive
    rw [hnext]
    exact h.next_of_active id hactive
  · intro id hid hmove
    rw [hnext] at hid
    rw [(htask id).1]
    exact h.active_of_next id hid hmove

theorem Staffed.onTheMove (h : v.Staffed none) (id : TaskId) :
    v.Staffed (some id) :=
  { h with active_of_next := fun other hother _ =>
      h.active_of_next other hother (Option.some_ne_none other).symm }

/-- A task on the move has arrived when nobody expects it on the processor. -/
theorem Staffed.arrived (h : v.Staffed (some id)) (hnext : v.next ≠ some id) :
    v.Staffed none :=
  { h with active_of_next := fun other hother _ =>
      h.active_of_next other hother fun heq => hnext (by rw [heq, hother]) }

theorem Staffed.not_active (h : v.Staffed moving) (hnext : v.next ≠ some id) :
    (v.task id).status ≠ .active :=
  fun hactive => hnext (h.next_of_active id hactive)

theorem Staffed.setTask (h : v.Staffed moving) {f : Task → Task}
    (hidle : v.idle = some id → (f (v.task id)).isRunnable = true)
    (hpriority : (f (v.task id)).priority = (v.task id).priority)
    (hactive : (f (v.task id)).status ≠ .active)
    (hmove : v.next = some id → moving = some id) :
    (v.setTask id f).Staffed moving := by
  constructor <;> simp only [View.setTask]
  · exact h.count_le
  · exact h.mem_all
  · exact h.all_sorted
  · exact h.populated_iff
  · exact h.started_iff
  · exact h.idle_iff
  · intro other hother
    have := h.idle_runnable other hother
    by_cases heq : id = other
    · subst heq
      rw [if_pos rfl, hpriority]
      exact ⟨hidle hother, this.2⟩
    · rwa [if_neg heq]
  · exact h.running_registered
  · exact h.scheduled_other
  · intro other
    by_cases heq : id = other
    · rw [if_pos heq]
      exact fun hstatus => absurd hstatus hactive
    · rw [if_neg heq]
      exact h.next_of_active other
  · intro other hother hne
    by_cases heq : id = other
    · subst heq
      exact absurd (hmove hother) hne
    · rw [if_neg heq]
      exact h.active_of_next other hother hne

theorem Staffed.readied (h : v.Staffed moving) (hnext : v.next ≠ some id) :
    (v.readied id).Staffed moving := by
  have hset : (v.setTask id fun task =>
      { task.withoutWait with deadline := 0, status := .ready }).Staffed
        moving :=
    h.setTask (fun _ => rfl) rfl (by simp) fun heq => absurd heq hnext
  exact hset.congr rfl rfl rfl rfl rfl rfl fun _ => ⟨rfl, rfl⟩

theorem Staffed.shelved (h : v.Staffed moving) (hidle : v.idle ≠ some id)
    (hnext : v.next ≠ some id) : (v.shelved id).Staffed moving := by
  have hset : (v.setTask id fun task =>
      { task.withoutWait with deadline := 0, status := .suspended }).Staffed
        moving :=
    h.setTask (fun heq => absurd heq hidle) rfl (by simp) fun heq =>
      absurd heq hnext
  exact hset.congr rfl rfl rfl rfl rfl rfl fun _ => ⟨rfl, rfl⟩

theorem Staffed.stoodDown (h : v.Staffed (some id)) :
    (v.stoodDown id).Staffed (some id) := by
  by_cases hrunnable : (v.task id).isRunnable = true
  · have hset :
        (v.setTask id fun task => { task with status := .ready }).Staffed
        (some id) := h.setTask (fun _ => rfl) rfl (by simp) fun _ => rfl
    refine hset.congr rfl rfl rfl rfl rfl rfl fun other => ?_
    simp [View.stoodDown, View.setTask, hrunnable]
  · refine h.congr rfl rfl rfl rfl rfl rfl fun other => ?_
    simp [View.stoodDown, hrunnable]

theorem status_stoodDown_ne_active (v : View) (id : TaskId) :
    ((v.stoodDown id).task id).status ≠ .active := by
  simp only [View.stoodDown]
  grind [Task.isRunnable, TaskStatus.isRunnable]

theorem Staffed.promoted {previous : TaskId} (h : v.Staffed (some previous))
    (hreg : v.Registered id) (hrunning : v.running = some previous)
    (hscheduled : v.scheduled = none) (hne : id ≠ previous)
    (hprevious : (v.task previous).status ≠ .active) :
    (v.promoted id).Staffed none := by
  have hnext : v.next = some previous := by
      rw [View.next, hscheduled, hrunning]; rfl
  constructor <;> simp only [View.promoted, View.setTask]
  · exact h.count_le
  · exact h.mem_all
  · exact h.all_sorted
  · exact h.populated_iff
  · exact h.started_iff
  · exact h.idle_iff
  · intro other hother
    have := h.idle_runnable other hother
    by_cases heq : id = other
    · subst heq
      rw [if_pos rfl]
      exact ⟨rfl, this.2⟩
    · rwa [if_neg heq]
  · exact h.running_registered
  · intro other hother
    obtain rfl : id = other := Option.some.inj hother
    rw [hrunning]
    exact ⟨hreg, Option.some_ne_none previous,
      fun heq => hne (Option.some.inj heq).symm⟩
  · intro other hactive
    by_cases heq : id = other
    · subst heq
      rfl
    · rw [if_neg heq] at hactive
      have hother := h.next_of_active other hactive
      rw [hnext] at hother
      obtain rfl : previous = other := Option.some.inj hother
      exact absurd hactive hprevious
  · intro other hother _
    obtain rfl : id = other := Option.some.inj hother
    rw [if_pos rfl]

end Staffed

/-! ### The whole invariant under the moves -/

section Orderly

variable {v w : View} {moving : Option TaskId} {id : TaskId}

/-- The invariant does not look at the platform, and at a task only for what
tells where it belongs. -/
theorem Orderly.congr (h : v.Orderly moving)
    (hlists : w = { v with platform := w.platform, task := w.task })
    (htask : ∀ id, (w.task id).Alike (v.task id)) : w.Orderly moving := by
  rw [hlists]
  constructor
  · exact h.queued.congr rfl rfl rfl fun id =>
      ⟨(htask id).status, (htask id).priority, (htask id).deadline⟩
  · exact h.parked.congr (Nat.le_refl _) (Nat.le_refl _) (Nat.le_refl _) rfl
      fun id =>
      ⟨(htask id).waitsFor, (htask id).flag, (htask id).message,
        fun _ => (htask id).status⟩
  · exact h.owned.congr rfl rfl rfl
  · exact h.supplied.congr rfl rfl rfl rfl
  · exact h.staffed.congr rfl rfl rfl rfl rfl rfl fun id =>
      ⟨(htask id).status, (htask id).priority⟩

theorem Orderly.onTheMove (h : v.Orderly none) (hid : id ∈ v.ready) :
    v.Orderly (some id) :=
  ⟨h.queued.onTheMove hid, h.parked, h.owned, h.supplied,
    h.staffed.onTheMove id⟩

theorem Orderly.registered_of_ready (h : v.Orderly moving)
    (hid : id ∈ v.ready) :
    v.Registered id :=
  ((h.queued.mem_ready id).mp hid).1

theorem Orderly.registered_of_waiting (h : v.Orderly moving)
    (hid : id ∈ v.waiting) :
    v.Registered id :=
  ((h.queued.mem_waiting id).mp hid).1

theorem Orderly.readied (h : v.Orderly moving) (hreg : v.Registered id)
    (hmove : moving ≠ some id) (hnext : v.next ≠ some id) :
    (v.readied id).Orderly moving :=
  ⟨h.queued.readied hreg hmove, h.parked.readied,
    h.owned.released rfl rfl fun _ => rfl,
    h.supplied.released rfl rfl (fun _ => rfl) fun _ => rfl,
    h.staffed.readied hnext⟩

theorem Orderly.shelved (h : v.Orderly none) (hidle : v.idle ≠ some id)
    (hnext : v.next ≠ some id) : (v.shelved id).Orderly none :=
  ⟨h.queued.shelved (Option.some_ne_none id).symm, h.parked.shelved,
    h.owned.released rfl rfl fun _ => rfl,
    h.supplied.released rfl rfl (fun _ => rfl) fun _ => rfl,
    h.staffed.shelved hidle hnext⟩

/-- With a switch pending, a task on the move arrives by itself. -/
theorem Orderly.stoodDown (h : v.Orderly (some id)) (hreg : v.Registered id)
    (hnext : v.next ≠ some id) : (v.stoodDown id).Orderly none :=
  ⟨h.queued.stoodDown hreg, h.parked.stoodDown,
    h.owned.congr rfl rfl rfl, h.supplied.congr rfl rfl rfl rfl,
    h.staffed.stoodDown.arrived hnext⟩

/-- Otherwise it arrives as another task takes its place. -/
theorem Orderly.dispatched {previous target : TaskId}
    (h : v.Orderly (some previous)) (hrunning : v.running = some previous)
    (hscheduled : v.scheduled = none) (htarget : v.Registered target)
    (hne : target ≠ previous) :
    (v.dispatched previous target).Orderly none := by
  have hnext : v.next ≠ some target := by
    rw [View.next, hscheduled, hrunning]
    exact fun heq => hne (Option.some.inj heq).symm
  have hmove : some previous ≠ some target := fun heq =>
    hne (Option.some.inj heq).symm
  have hreadied := h.readied htarget hmove hnext
  have hprevious : (v.readied target).Registered previous :=
    h.staffed.running_registered previous hrunning
  have hqueued := hreadied.queued.stoodDown hprevious
  have hstaffed := hreadied.staffed.stoodDown
  have hstatus : (((v.readied target).stoodDown previous).task target).status =
      .ready := by
    simp [View.stoodDown, View.readied, hne, Ne.symm hne]
  have hrunnable :
      (((v.readied target).stoodDown previous).task target).isRunnable =
      true := by rw [Task.isRunnable, hstatus]; rfl
  constructor
  · exact hqueued.promoted hrunnable
  · exact hreadied.parked.stoodDown.promoted (by rw [hstatus]; decide)
  · exact hreadied.owned.congr rfl rfl rfl
  · exact hreadied.supplied.congr rfl rfl rfl rfl
  · exact hstaffed.promoted htarget hrunning hscheduled hne
      (status_stoodDown_ne_active _ previous)

/-- A task that gives up its place goes on waiting for its deadline. -/
theorem Orderly.unblocked (h : v.Orderly none) :
    (v.unblocked id).Orderly none := by
  refine ⟨h.queued.unblocked, h.parked.unblocked,
    h.owned.released rfl rfl fun _ => rfl,
    h.supplied.released rfl rfl (fun _ => rfl) fun _ => rfl,
    h.staffed.congr rfl rfl rfl rfl rfl rfl fun other => ?_⟩
  simp only [View.unblocked, Task.withoutWait]
  split <;> simp_all

theorem Orderly.not_waiting_of_ready (h : v.Orderly moving) (hid : id ∈ v.ready)
    (hmove : moving ≠ some id) : (v.task id).status ≠ .waiting := by
  intro hstatus
  have hrunnable := ((h.queued.mem_ready id).mp hid).2.resolve_left hmove
  rw [Task.isRunnable_iff, hstatus] at hrunnable
  simp at hrunnable

theorem Orderly.not_blocked (h : v.Orderly none) (hid : id ∈ v.ready) :
    (v.task id).waitsFor = none :=
  h.parked.not_blocked
    (h.not_waiting_of_ready hid (Option.some_ne_none id).symm)

/-- A runnable task starts to move when it turns to something else than
running. -/
theorem Orderly.setTask (h : v.Orderly none) {f : Task → Task}
    (hid : id ∈ v.ready) (hidle : v.idle ≠ some id)
    (hpriority : (f (v.task id)).priority = (v.task id).priority)
    (hdeadline : (f (v.task id)).status ≠ .waiting →
      (f (v.task id)).deadline = 0)
    (hactive : (f (v.task id)).status ≠ .active)
    (hwaits : (f (v.task id)).waitsFor = (v.task id).waitsFor)
    (hflag : (f (v.task id)).flag = (v.task id).flag)
    (hmessage : (f (v.task id)).message = (v.task id).message) :
    (v.setTask id f).Orderly (some id) :=
  ⟨(h.queued.onTheMove hid).setTask hpriority hdeadline,
    h.parked.setTask (h.not_blocked hid) hwaits hflag hmessage,
    h.owned.congr rfl rfl rfl, h.supplied.congr rfl rfl rfl rfl,
    (h.staffed.onTheMove id).setTask (fun heq => absurd heq hidle) hpriority
      hactive fun _ => rfl⟩

/-- It may also queue up at a resource that cannot serve it. -/
theorem Orderly.queuedUp (h : v.Orderly none) {resource : Resource}
    (side : Waiters) (message : Message) (deadline : Tick) (hid : id ∈ v.ready)
    (hidle : v.idle ≠ some id) (hcreated : v.Created resource)
    (howner : ∀ mutex, resource = .mutex mutex → v.owner mutex ≠ none ∧
      v.owner mutex ≠ some id)
    (hside : ∀ queue, resource = .queue queue → side = .senders ∧
      (v.ring queue).count = (v.ring queue).capacity ∨ side = .receivers ∧
      (v.ring queue).count = 0) :
    (v.parked id resource side message deadline).Orderly (some id) := by
  have hqueued : (v.setTask id fun task =>
      { task with status := .waiting, deadline }).Queued (some id) :=
    (h.queued.onTheMove hid).setTask rfl fun hne => absurd rfl hne
  have hstaffed : (v.setTask id fun task =>
      { task with status := .waiting, deadline }).Staffed (some id) :=
    (h.staffed.onTheMove id).setTask (fun heq => absurd heq hidle) rfl (by simp)
      fun _ => rfl
  constructor
  · refine hqueued.congr rfl rfl rfl fun other => ?_
    by_cases heq : id = other <;> simp [View.parked, View.setTask, heq]
  · exact h.parked.parked (h.not_blocked hid) (h.registered_of_ready hid)
      hcreated
  · exact h.owned.parked howner
  · exact h.supplied.parked hside
  · refine hstaffed.congr rfl rfl rfl rfl rfl rfl fun other => ?_
    by_cases heq : id = other <;> simp [View.parked, View.setTask, heq]

end Orderly

end View

end TickKernel
