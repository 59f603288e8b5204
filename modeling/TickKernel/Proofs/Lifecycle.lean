/-
The life of a kernel on its view: it begins with nothing in it, tasks are
registered, and the first of the most urgent ones is put on the processor.
Registering a task never stops the machine, because the numbers that fill its
first frame are small.
-/
import TickKernel.Proofs.FirstFrame
import TickKernel.Proofs.Switching

namespace TickKernel

/-! ### First frames -/

theorem Stack.prepare_eq_ok (stack : Stack) (seeded : Bool)
    (entry param exit : Address) {index : Address}
    (hindex : index.toNat < maxTasks) :
    ∃ result, stack.prepare seeded entry param exit index = .ok result ∧
      ∀ prepared offset, result = .ok (prepared, offset) →
        prepared.words.getD 0 0 = guardPattern := by
  refine ⟨_, stack.prepare_eq seeded entry param exit hindex,
    fun prepared offset heq => ?_⟩
  split at heq
  · cases heq
  · cases heq
    rfl

namespace View

/-! ### Outcomes -/

/-- A kernel in which nothing was done yet. -/
def blank (platform : Platform) : View where
  platform
  phase := .blank
  taskCount := 0
  idle := none
  running := none
  scheduled := none
  mutexCount := 0
  queueCount := 0
  task _ := Task.vacant
  all := []
  ready := []
  waiting := []
  blocked _ := []
  owner _ := none
  level _ := 0
  ring _ := Ring.ofCapacity 0
  waiters _ := .nobody

/-- The outcomes of preparing the kernel. -/
inductive Prepared (v : View) : Except Error Unit → View → Prop
  | refused (error : Error) : Prepared v (.error error) v
  | prepared (hphase : v.phase = .blank) :
      Prepared v (.ok ()) { v with phase := .prepared }

/-- The task that a slot is filled with. -/
def newcomer (v : View) (id : TaskId) (spec : TaskSpec) (stack : Stack)
    (offset : Nat) : Task :=
  { Task.vacant with
    name := spec.name
    status := spec.mode.status
    priority := if v.idle.isNone then Priority.idle else spec.priority
    entry := spec.entry
    param := spec.param
    stack
    savedAt := some ⟨id, offset⟩ }

/-- A task is registered, and not yet among the runnable ones. -/
def admitted (v : View) (id : TaskId) (task : Task) : View :=
  { v with
    task := fun other => if id = other then task else v.task other
    taskCount := v.taskCount + 1
    idle := if v.idle.isNone then some id else v.idle
    all := id :: v.all
    phase := .populated }

/-- No list holds the task. -/
structure Unlisted (v : View) (id : TaskId) : Prop where
  all : id ∉ v.all
  ready : id ∉ v.ready
  waiting : id ∉ v.waiting
  blocked : ∀ resource, id ∉ v.blocked resource

/-- A task is registered in the mode that it asks for. -/
def enrolled (v : View) (id : TaskId) (task : Task) : StartMode → View
  | .running => (v.admitted id task).joinReady id
  | .suspended => v.admitted id task

/-- The outcomes of registering a task. -/
inductive Enrolled (v : View) (spec : TaskSpec) :
    Except Error TaskId → View → Prop
  | refused (error : Error) : Enrolled v spec (.error error) v
  | enrolled (hroom : v.taskCount < maxTasks) {stack : Stack} {offset : Nat}
      (hphase : v.phase = .prepared ∨ v.phase = .populated)
      (hmode : v.idle = none → spec.mode = .running)
      (hguard : stack.words.getD 0 0 = Stack.guardPattern) :
      Enrolled v spec (.ok ⟨v.taskCount, hroom⟩)
        (v.enrolled ⟨v.taskCount, hroom⟩
          (v.newcomer ⟨v.taskCount, hroom⟩ spec stack offset) spec.mode)

/-- The first task is on the processor. -/
def entered (v : View) (first : TaskId) (platform : Platform) : View :=
  { v.setTask first fun task => { task with status := .active } with
    running := some first
    scheduled := none
    phase := .started
    platform }

/-- The outcomes of the start. -/
inductive Started (v : View) : Except Error Unit → View → Prop
  | refused (error : Error) : Started v (.error error) v
  | failed (error : Error) (hphase : v.phase = .populated) :
      Started v (.error error) { v with platform := v.platform.bringUp.2 }
  | entered (first : TaskId) (hphase : v.phase = .populated)
      (hbrought : v.platform.bringUp.1 = .ok ())
      (hfirst : v.ready.head? = some first) :
      Started v v.platform.bringUp.2.enterFirst.1
        (v.entered first v.platform.bringUp.2.enterFirst.2)

/-! ### Outcomes keep the invariant -/

section Orderly

variable {v w : View} {id : TaskId}

theorem orderly_blank (platform : Platform) :
    (blank platform).Orderly none := by
  constructor
  · constructor <;> simp [blank, Registered, Task.vacant]
  · constructor <;> simp [blank, Task.vacant]
  · constructor <;> simp [blank]
  · constructor <;> simp [blank, Created]
  · constructor <;> simp [blank, Registered, Task.vacant, next]

theorem Quiet.platform (v : View) (platform : Platform) :
    v.Quiet { v with platform } :=
  ⟨rfl, rfl, fun _ => .of_task (fun h => h) rfl rfl rfl fun _ _ => ⟨rfl, rfl⟩⟩

theorem Passes.platform (h : v.Orderly none) (departs : TaskId → Prop)
    (platform : Platform) : v.Passes departs { v with platform } :=
  ⟨h.congr rfl fun _ => Task.Alike.refl _, fun _ => rfl,
    (Quiet.platform v platform).keeps h.supplied⟩

theorem Prepared.passes {result : Except Error Unit} {departs : TaskId → Prop}
    (hw : v.Prepared result w) (h : v.Orderly none) : v.Passes departs w := by
  cases hw with
  | refused => exact Passes.refl h
  | prepared hphase =>
      have hquiet : v.Quiet { v with phase := .prepared } :=
        ⟨rfl, rfl, fun _ => .of_task (fun h => h) rfl rfl rfl
          fun _ _ => ⟨rfl, rfl⟩⟩
      refine ⟨⟨h.queued.congr rfl rfl rfl fun _ => ⟨rfl, rfl, rfl⟩,
        h.parked.congr (Nat.le_refl _) (Nat.le_refl _) (Nat.le_refl _) rfl
          fun _ => ⟨rfl, rfl, rfl, fun _ => rfl⟩,
        h.owned.congr rfl rfl rfl, h.supplied.congr rfl rfl rfl rfl, ?_⟩,
        fun _ => rfl, hquiet.keeps h.supplied⟩
      have hpopulated := h.staffed.populated_iff
      have hstarted := h.staffed.started_iff
      rw [hphase] at hpopulated hstarted
      refine { h.staffed with populated_iff := ?_, started_iff := ?_ }
      · exact iff_of_false (by simp) (mt hpopulated.mpr (by simp))
      · exact iff_of_false (by simp) (mt hstarted.mpr (by simp))

/-- Nobody is on the processor before the start. -/
theorem Orderly.nobody_next (h : v.Orderly none) (hphase : v.phase ≠ .started) :
    v.running = none ∧ v.scheduled = none ∧ v.next = none := by
  have hrunning : v.running = none := by
    by_contra hne
    exact hphase (h.staffed.started_iff.mpr hne)
  have hscheduled : v.scheduled = none := by
    cases hscheduled : v.scheduled with
    | none => rfl
    | some id =>
        exact absurd hrunning (h.staffed.scheduled_other id hscheduled).2.1
  refine ⟨hrunning, hscheduled, ?_⟩
  rw [next, hrunning, hscheduled]
  rfl

theorem Orderly.entered (h : v.Orderly none) {first : TaskId}
    (hphase : v.phase = .populated) (hfirst : first ∈ v.ready)
    (platform : Platform) :
    (v.entered first platform).Orderly none := by
  obtain ⟨hrunning, hscheduled, hnext⟩ := h.nobody_next (by rw [hphase]; decide)
  have hreg := h.registered_of_ready hfirst
  have hrunnable := ((h.queued.mem_ready first).mp hfirst).2.resolve_left
    (Option.some_ne_none first).symm
  refine ⟨(h.queued.promoted hrunnable).congr rfl rfl rfl fun _ => ⟨rfl, rfl,
      rfl⟩,
    (h.parked.promoted
      (h.not_waiting_of_ready hfirst (Option.some_ne_none first).symm)).congr
      (Nat.le_refl _) (Nat.le_refl _) (Nat.le_refl _) rfl fun _ =>
      ⟨rfl, rfl, rfl, fun _ => rfl⟩, h.owned.congr rfl rfl rfl,
    h.supplied.congr rfl rfl rfl rfl, ?_⟩
  constructor <;> simp only [View.entered, View.setTask]
  · exact h.staffed.count_le
  · exact h.staffed.mem_all
  · exact h.staffed.all_sorted
  · exact iff_of_true (Or.inr trivial)
      (h.staffed.populated_iff.mp (Or.inl hphase))
  · exact iff_of_true trivial (Option.some_ne_none first)
  · exact h.staffed.idle_iff
  · intro other hother
    have hidle := h.staffed.idle_runnable other hother
    split
    · rename_i heq
      exact ⟨rfl, heq ▸ hidle.2⟩
    · exact hidle
  · intro other hother
    obtain rfl := Option.some.inj hother
    exact hreg
  · intro other hother
    cases hother
  · intro other hactive
    split at hactive
    · rename_i heq
      exact congrArg some heq
    · have hother := h.staffed.next_of_active other hactive
      rw [hnext] at hother
      cases hother
  · intro other hother _
    obtain rfl : first = other := Option.some.inj hother
    rw [if_pos rfl]

theorem Started.passes {result : Except Error Unit} {departs : TaskId → Prop}
    (hw : v.Started result w) (h : v.Orderly none) : v.Passes departs w := by
  cases hw with
  | refused => exact Passes.refl h
  | failed error hphase => exact Passes.platform h departs _
  | entered first hphase hbrought hfirst =>
      have hready : first ∈ v.ready := List.mem_of_mem_head? hfirst
      refine ⟨h.entered hphase hready _, fun id => ?_, ?_⟩
      · simp only [View.entered, View.setTask]
        split <;> simp_all
      · have hfree :=
          h.not_blocked_of_ready hready (Option.some_ne_none first).symm
        have hquiet := Quiet.setTask hfree fun task =>
          { task with status := .active }
        exact Quiet.keeps ⟨rfl, rfl, fun queue =>
          .of_task (fun h => h) rfl rfl rfl fun id hid =>
            ⟨(hquiet.queues queue).message id hid,
              (hquiet.queues queue).deadline id hid⟩⟩
          h.supplied

/-- A slot that is not taken is in no list. -/
theorem Orderly.unlisted (h : v.Orderly none) (hreg : ¬v.Registered id) :
    v.Unlisted id := by
  refine ⟨mt (h.staffed.mem_all id).mp hreg,
    fun hid => hreg (h.registered_of_ready hid),
    fun hid => hreg (h.registered_of_waiting hid), fun resource hid => ?_⟩
  have hwaits := (h.parked.mem_blocked resource id).mp hid
  exact hreg (h.parked.blocked_task resource id hwaits).1

theorem not_registered_of_count (hid : id.val = v.taskCount) :
    ¬v.Registered id := by
  rw [Registered, hid]
  exact Nat.lt_irrefl _

section Admitted

variable {task : Task} {other : TaskId}

theorem task_admitted_of_ne (hne : id ≠ other) :
    (v.admitted id task).task other = v.task other :=
  if_neg hne

theorem registered_admitted (hid : id.val = v.taskCount) :
    (v.admitted id task).Registered other ↔ id = other ∨
      v.Registered other := by
  change other.val < v.taskCount + 1 ↔ _
  rw [Registered, Fin.ext_iff, hid]
  omega

/-- The runnable tasks besides the new one are those from before. -/
theorem Orderly.mem_ready_admitted (h : v.Orderly none) (task : Task)
    (hid : id.val = v.taskCount) (hne : id ≠ other) :
    other ∈ v.ready ↔ (v.admitted id task).Registered other ∧
      ((v.admitted id task).task other).isRunnable = true := by
  rw [registered_admitted hid, task_admitted_of_ne hne,
    h.queued.mem_ready other]
  simp [hne]

/-- A new task does not wait. -/
theorem Orderly.mem_waiting_admitted (h : v.Orderly none)
    (hid : id.val = v.taskCount) (hstatus : task.status ≠ .waiting)
    (other : TaskId) :
    other ∈ v.waiting ↔ (v.admitted id task).Registered other ∧
      ((v.admitted id task).task other).status = .waiting ∧
      none ≠ some other := by
  rw [h.queued.mem_waiting other, registered_admitted hid]
  by_cases hne : id = other
  · subst hne
    have hreg : ¬v.Registered id := not_registered_of_count hid
    simp [View.admitted, hstatus, hreg]
  · rw [task_admitted_of_ne hne]
    simp [hne]

/-- The tasks that were runnable are still sorted. -/
theorem Orderly.ready_sorted_admitted (h : v.Orderly none)
    (hid : id.val = v.taskCount) : v.ready.Pairwise fun earlier later =>
      ((v.admitted id task).task later).priority ≤
        ((v.admitted id task).task earlier).priority := by
  have hready := (h.unlisted (not_registered_of_count hid)).ready
  refine h.queued.ready_sorted.imp_of_mem
    fun {earlier later} hearlier hlater hle => ?_
  have hne : id ≠ earlier := fun heq => hready (heq ▸ hearlier)
  have hne' : id ≠ later := fun heq => hready (heq ▸ hlater)
  rwa [task_admitted_of_ne hne, task_admitted_of_ne hne']

theorem Orderly.deadline_admitted (h : v.Orderly none)
    (hdeadline : task.deadline = 0) (other : TaskId) :
    ((v.admitted id task).task other).status ≠ .waiting →
      ((v.admitted id task).task other).deadline = 0 := by
  simp only [View.admitted]
  split
  · exact fun _ => hdeadline
  · exact h.queued.deadline_eq other

/-- A new task that does not run joins no list. -/
theorem Queued.admitted (h : v.Orderly none) (hid : id.val = v.taskCount)
    (hstatus : task.status = .suspended) (hdeadline : task.deadline = 0) :
    (v.admitted id task).Queued none := by
  have hready := (h.unlisted (not_registered_of_count hid)).ready
  refine ⟨h.queued.ready_nodup, h.queued.waiting_nodup, fun other => ?_,
    h.mem_waiting_admitted hid (by rw [hstatus]; decide),
    h.ready_sorted_admitted hid, h.deadline_admitted hdeadline⟩
  by_cases hne : id = other
  · subst hne
    refine iff_of_false hready ?_
    simp [View.admitted, Task.isRunnable, hstatus, TaskStatus.isRunnable]
  · change other ∈ v.ready ↔ _
    rw [h.mem_ready_admitted task hid hne]
    simp

/-- A new task that runs joins the runnable ones. -/
theorem Queued.admitted_joinReady (h : v.Orderly none)
    (hid : id.val = v.taskCount) (hstatus : task.status = .ready)
    (hdeadline : task.deadline = 0) :
    ((v.admitted id task).joinReady id).Queued none := by
  have hready := (h.unlisted (not_registered_of_count hid)).ready
  refine ⟨nodup_insertBefore h.queued.ready_nodup hready,
    h.queued.waiting_nodup, fun other => ?_,
    h.mem_waiting_admitted hid (by rw [hstatus]; decide), ?_,
    h.deadline_admitted hdeadline⟩
  · change other ∈ insertBefore _ id v.ready ↔
      (v.admitted id task).Registered other ∧
      (none = some other ∨ ((v.admitted id task).task other).isRunnable = true)
    rw [mem_insertBefore]
    by_cases hne : id = other
    · subst hne
      refine iff_of_true (Or.inl rfl)
        ⟨(registered_admitted hid).mpr (Or.inl rfl), ?_⟩
      simp [View.admitted, Task.isRunnable, hstatus, TaskStatus.isRunnable]
    · rw [h.mem_ready_admitted task hid hne]
      simp [Ne.symm hne]
  · exact sorted_insertBefore (h.ready_sorted_admitted hid)

theorem Queued.enrolled (h : v.Orderly none) {mode : StartMode}
    (hid : id.val = v.taskCount) (hstatus : task.status = mode.status)
    (hdeadline : task.deadline = 0) :
    (v.enrolled id task mode).Queued none := by
  cases mode with
  | suspended => exact Queued.admitted h hid hstatus hdeadline
  | running => exact Queued.admitted_joinReady h hid hstatus hdeadline

/-- The idle task is the new one if there was none, else the one from before. -/
theorem Staffed.idle_admitted (h : v.Staffed none) (hid : id.val = v.taskCount)
    (hidle : (v.admitted id task).idle = some other) :
    v.idle = none ∧ id = other ∨ v.idle = some other ∧ id ≠ other := by
  simp only [View.admitted] at hidle
  cases hold : v.idle with
  | none =>
      rw [hold] at hidle
      exact Or.inl ⟨rfl, Option.some.inj hidle⟩
  | some idle =>
      rw [hold] at hidle
      obtain rfl : idle = other := Option.some.inj hidle
      have hreg := ((h.idle_iff idle).mp hold).2
      refine Or.inr ⟨rfl, ?_⟩
      rintro rfl
      exact not_registered_of_count hid hreg

theorem Staffed.idle_admitted_iff (h : v.Staffed none)
    (hid : id.val = v.taskCount) (other : TaskId) :
    (v.admitted id task).idle = some other ↔
      other.val = 0 ∧ (v.admitted id task).Registered other := by
  change (if v.idle.isNone then some id else v.idle) = some other ↔
    other.val = 0 ∧ other.val < v.taskCount + 1
  cases hnone : v.idle with
  | none =>
      have hzero : v.taskCount = 0 := by
        by_contra hpos
        have hsome := (h.idle_iff 0).mpr ⟨rfl, Nat.pos_of_ne_zero hpos⟩
        rw [hnone] at hsome
        cases hsome
      simp only [Option.isNone_none, if_true, Option.some.injEq, Fin.ext_iff,
        hid]
      omega
  | some idle =>
      have hidle := (h.idle_iff idle).mp hnone
      simp only [Option.isNone_some, Bool.false_eq_true, if_false,
        Option.some.injEq, Fin.ext_iff, hidle.1]
      omega

theorem Staffed.admitted (h : v.Orderly none) (hid : id.val = v.taskCount)
    (hphase : v.phase = .prepared ∨ v.phase = .populated)
    (hstatus : task.status ≠ .active)
    (hidle : v.idle = none → task.isRunnable = true ∧
      task.priority = Priority.idle) :
    (v.admitted id task).Staffed none := by
  have hstopped : v.phase ≠ .started := by
    rcases hphase with heq | heq
    · rw [heq]
      decide
    · rw [heq]
      decide
  obtain ⟨hrunning, hscheduled, hnext⟩ := h.nobody_next hstopped
  have hall : ∀ other, other ∈ id :: v.all ↔
      (v.admitted id task).Registered other := by
    intro other
    rw [List.mem_cons, registered_admitted hid, h.staffed.mem_all, eq_comm]
  refine ⟨?_, hall, ?_, ?_, ?_, h.staffed.idle_admitted_iff hid, ?_, ?_, ?_, ?_,
    ?_⟩
  · change v.taskCount + 1 ≤ maxTasks
    rw [← hid]
    exact id.isLt
  · refine List.pairwise_cons.mpr ⟨fun other hother => ?_, h.staffed.all_sorted⟩
    rw [Fin.lt_def, hid]
    exact (h.staffed.mem_all other).mp hother
  · exact iff_of_true (Or.inl rfl) (Nat.succ_pos _)
  · exact iff_of_false (by simp [View.admitted]) (not_not_intro hrunning)
  · intro other hother
    rcases h.staffed.idle_admitted hid hother with ⟨hnone, rfl⟩ | ⟨hold, hne⟩
    · simp only [View.admitted, if_true]
      exact hidle hnone
    · rw [task_admitted_of_ne hne]
      exact h.staffed.idle_runnable other hold
  · intro other hother
    exact absurd (hrunning.symm.trans hother) (Option.some_ne_none other).symm
  · intro other hother
    exact absurd (hscheduled.symm.trans hother) (Option.some_ne_none other).symm
  · intro other hactive
    by_cases hne : id = other
    · subst hne
      exact absurd hactive (by simpa only [View.admitted,
        if_true] using hstatus)
    · rw [task_admitted_of_ne hne] at hactive
      exact h.staffed.next_of_active other hactive
  · intro other hother
    exact absurd (hnext.symm.trans hother) (Option.some_ne_none other).symm

end Admitted

theorem Orderly.enrolled (h : v.Orderly none) {spec : TaskSpec} {stack : Stack}
    {offset : Nat} (hid : id.val = v.taskCount)
    (hphase : v.phase = .prepared ∨ v.phase = .populated)
    (hmode : v.idle = none → spec.mode = .running) :
    (v.enrolled id (v.newcomer id spec stack offset) spec.mode).Orderly
      none := by
  have hreg : ¬v.Registered id := not_registered_of_count hid
  have hfree : (v.task id).waitsFor = none := by
    cases hwaits : (v.task id).waitsFor with
    | none => rfl
    | some resource =>
        exact absurd (h.parked.blocked_task resource id hwaits).1 hreg
  have hparked : (v.admitted id (v.newcomer id spec stack offset)).Parked := by
    obtain ⟨hflag, hmessage⟩ := h.parked.unblocked_task id hfree
    refine h.parked.congr (Nat.le_succ _) (Nat.le_refl _) (Nat.le_refl _) rfl
      fun other => ?_
    simp only [View.admitted]
    split
    · rename_i heq
      subst heq
      exact ⟨hfree.symm, hflag.symm, hmessage.symm, fun hne => absurd hfree hne⟩
    · exact ⟨rfl, rfl, rfl, fun _ => rfl⟩
  have hstaffed : (v.admitted id (v.newcomer id spec stack offset)).Staffed
      none := by
    refine Staffed.admitted h hid hphase ?_ fun hnone => ?_
    · change spec.mode.status ≠ .active
      cases spec.mode <;> decide
    · have hrunning : (v.newcomer id spec stack offset).status = .ready := by
        change spec.mode.status = .ready
        rw [hmode hnone]
        rfl
      rw [Task.isRunnable, hrunning]
      simp [View.newcomer, hnone, TaskStatus.isRunnable]
  have hqueued :
      (v.enrolled id (v.newcomer id spec stack offset) spec.mode).Queued
      none := Queued.enrolled h hid rfl rfl
  have howned : (v.admitted id (v.newcomer id spec stack offset)).Owned :=
    h.owned.congr rfl rfl rfl
  have hsupplied : (v.admitted id (v.newcomer id spec stack offset)).Supplied :=
    h.supplied.congr rfl rfl rfl rfl
  revert hqueued
  cases spec.mode with
  | suspended =>
      exact fun hqueued => ⟨hqueued, hparked, howned, hsupplied, hstaffed⟩
  | running =>
      refine fun hqueued => ⟨hqueued, ?_, ?_, ?_, ?_⟩
      · exact hparked.congr (Nat.le_refl _) (Nat.le_refl _) (Nat.le_refl _) rfl
          fun _ => ⟨rfl, rfl, rfl, fun _ => rfl⟩
      · exact howned.congr rfl rfl rfl
      · exact hsupplied.congr rfl rfl rfl rfl
      · exact hstaffed.congr rfl rfl rfl rfl rfl rfl fun _ => ⟨rfl, rfl⟩

theorem task_enrolled (v : View) (id other : TaskId) (task : Task)
    (mode : StartMode) :
    (v.enrolled id task mode).task other = if id = other then task
      else v.task other := by
  cases mode <;> rfl

theorem Enrolled.orderly {spec : TaskSpec} {result : Except Error TaskId}
    (hw : v.Enrolled spec result w) (h : v.Orderly none) : w.Orderly none := by
  cases hw with
  | refused => exact h
  | enrolled hroom hphase hmode hguard => exact h.enrolled rfl hphase hmode

/-- The stack of a new task has its guard. -/
theorem Enrolled.guarded {spec : TaskSpec} {result : Except Error TaskId}
    (hw : v.Enrolled spec result w) (h : v.Guarded) : w.Guarded := by
  cases hw with
  | refused => exact h
  | @enrolled hroom stack offset hphase hmode hguard =>
      intro id hid
      rw [task_enrolled]
      split
      · rw [Task.isGuarded, beq_iff_eq]
        exact hguard
      · rename_i hne
        refine h id ?_
        have hlt : id.val < v.taskCount + 1 := by
          revert hid
          cases spec.mode <;> exact fun hid => hid
        have hneVal : v.taskCount ≠ id.val := fun heq => hne (Fin.ext heq)
        change id.val < v.taskCount
        omega

/-- A new task does not disturb any queue. -/
theorem Enrolled.quietAt {spec : TaskSpec} {result : Except Error TaskId}
    (hw : v.Enrolled spec result w) (h : v.Orderly none) (queue : QueueId) :
    v.QuietAt queue w := by
  cases hw with
  | refused => exact (Quiet.refl v).queues queue
  | @enrolled hroom stack offset hphase hmode hguard =>
      have hreg : ¬v.Registered ⟨v.taskCount, hroom⟩ :=
        not_registered_of_count rfl
      have hfree := (h.unlisted hreg).blocked
      have htask : ∀ other ∈ v.blocked (.queue queue),
          ((v.enrolled ⟨v.taskCount, hroom⟩
            (v.newcomer ⟨v.taskCount, hroom⟩ spec stack offset) spec.mode).task
              other) =
              v.task other := by
        intro other hother
        rw [task_enrolled, if_neg]
        rintro rfl
        exact hfree _ hother
      revert htask
      cases spec.mode <;>
        exact fun htask =>
          .of_task (fun h => h) rfl rfl rfl fun other hother => by
          rw [htask other hother]
          exact ⟨rfl, rfl⟩

end Orderly

end View

/-! ### The calls -/

namespace Kernel

variable {k : Kernel} {v : View} {id : TaskId}

theorem fresh_shows (platform : Platform) :
    (fresh platform).Shows (View.blank platform) := by
  have hall : (fresh platform).allIds = [] := rfl
  have hready : (fresh platform).readyIds = [] := rfl
  have hwaiting : (fresh platform).waitingIds = [] := rfl
  have hempty : ∀ resource,
      (fresh platform).blockedChain resource = Chain.empty := by
    rintro (id | id)
    · simp [blockedChain, Kernel.mutex, fresh, Mutex.free]
    · simp [blockedChain, Kernel.queue, fresh, Queue.ofCapacity]
  have hblocked : ∀ resource, (fresh platform).blockedIds resource = [] := by
    intro resource
    rw [blockedIds, hempty]
    rfl
  constructor
  · constructor
    · exact Chain.spells_empty _
    · exact Chain.spells_empty _
    · exact Chain.spells_empty _
    · intro id hid
      rw [hready] at hid
      cases hid
    · intro id _ _
      simp [fresh, LinkFields.unlinked, Links.unlinked]
    · intro resource
      rw [hempty, hblocked]
      exact Chain.spells_empty _
    · intro resource other id hid
      rw [hblocked] at hid
      cases hid
  · apply View.ext <;> try rfl
    · funext id
      simp [view, View.blank, task, fresh]
    · exact funext hblocked
    · funext id
      simp [view, View.blank, Kernel.mutex, fresh, Mutex.free]
    · funext id
      simp [view, View.blank, Kernel.mutex, fresh, Mutex.free]
    · funext id
      simp [view, View.blank, Kernel.queue, fresh, Queue.ofCapacity]
    · funext id
      simp [view, View.blank, Kernel.queue, fresh, Queue.ofCapacity]

theorem Shows.setPlatform (h : k.Shows v) (platform : Platform) :
    Shows { k with platform } { v with platform } := by
  refine ⟨h.linked.of_same rfl rfl rfl rfl fun _ => rfl, ?_⟩
  rw [← h.view_eq]
  rfl

theorem Shows.setUp (h : k.Shows v) :
    ∃ w, v.Prepared k.setUp.1 w ∧ k.setUp.2.Shows w := by
  unfold Kernel.setUp
  split
  · rename_i hphase
    rw [h.phase_eq] at hphase
    refine ⟨_, .prepared hphase, h.linked.of_same rfl rfl rfl rfl fun _ => rfl,
      ?_⟩
    rw [← h.view_eq]
    rfl
  · exact ⟨v, .refused _, h⟩

theorem Shows.enter (h : k.Shows v) (first : TaskId) :
    (k.enter first).1 = v.platform.enterFirst.1 ∧
      (k.enter first).2.Shows (v.entered first v.platform.enterFirst.2) := by
  have hset := h.modifyTask first fun task => { task with status := .active }
  unfold Kernel.enter
  rw [← h.platform_eq]
  refine ⟨rfl, hset.linked.of_same rfl rfl rfl rfl fun _ => rfl, ?_⟩
  rw [View.entered, ← hset.view_eq]
  rfl

theorem Shows.start (h : k.Shows v) :
    ∃ w, v.Started k.start.1 w ∧ k.start.2.Shows w := by
  have hbring := h.setPlatform v.platform.bringUp.2
  rw [← h.platform_eq] at hbring
  have hbrought : v.platform.bringUp.1 = k.platform.bringUp.1 := by
      rw [h.platform_eq]
  unfold Kernel.start
  split
  · exact ⟨v, .refused _, h⟩
  · exact ⟨v, .refused _, h⟩
  · exact ⟨v, .refused _, h⟩
  rename_i hphase
  rw [h.phase_eq] at hphase
  dsimp only
  split
  · rename_i error herror
    rw [h.platform_eq] at hbring ⊢
    exact ⟨_, .failed error hphase, hbring⟩
  rename_i hok
  split
  · rw [h.platform_eq] at hbring ⊢
    exact ⟨_, .failed _ hphase, hbring⟩
  · rename_i first hhead
    have hfirst : v.ready.head? = some first := by
      have hspells := h.ready_spells
      cases hids : v.ready with
      | nil =>
          rw [hids] at hspells
          have hnone : k.ready.head = none := hspells
          rw [hnone] at hhead
          cases hhead
      | cons other rest =>
          rw [hids] at hspells
          exact hspells.1.symm.trans hhead
    obtain ⟨hresult, hshows⟩ := hbring.enter first
    rw [hresult, h.platform_eq]
    rw [h.platform_eq] at hshows
    exact ⟨_, .entered first hphase (hbrought.trans hok) hfirst, hshows⟩

theorem Shows.tearDown (h : k.Shows v) :
    k.tearDown.Shows (View.blank v.platform) := by
  rw [Kernel.tearDown, h.platform_eq]
  exact fresh_shows v.platform

/-- The kernel with the slot of a new task taken. -/
def takeSlot (k : Kernel) (id : TaskId) (task : Task) : Kernel :=
  let links := k.links.unlink id
  let changed := k.all.pushFront links.all id
  { k with
    tasks := k.tasks.put id task
    taskCount := k.taskCount + 1
    idle := if k.idle.isNone then some id else k.idle
    links := { links with all := changed.2 }
    all := changed.1
    phase := .populated }

section TakeSlot

variable (task : Task)

theorem Linked.all_spells_takeSlot (h : k.Linked) (hid : k.view.Unlisted id) :
    (k.takeSlot id task).all.Spells (k.takeSlot id task).links.all
      (id :: k.allIds) :=
  Chain.Spells.pushFront (Links.Spells.put h.all hid.all) hid.all

theorem Linked.ready_spells_takeSlot (h : k.Linked) (hid : k.view.Unlisted id) :
    k.ready.Spells (k.takeSlot id task).links.queue k.readyIds :=
  Links.Spells.put h.ready hid.ready

theorem Linked.waiting_spells_takeSlot (h : k.Linked)
    (hid : k.view.Unlisted id) :
    k.waiting.Spells (k.takeSlot id task).links.queue k.waitingIds :=
  Links.Spells.put h.waiting hid.waiting

theorem Linked.blocked_spells_takeSlot (h : k.Linked) (hid : k.view.Unlisted id)
    (resource : Resource) : (k.blockedChain resource).Spells
      (k.takeSlot id task).links.blocked (k.blockedIds resource) :=
  Links.Spells.put (h.blocked resource) (hid.blocked resource)

/-- The slot of a new task is taken and nothing else changes. -/
theorem Shows.takeSlot (h : k.Shows v) (hid : v.Unlisted id) :
    (k.takeSlot id task).Shows (v.admitted id task) := by
  obtain ⟨hlinked, rfl⟩ := h
  have hall := hlinked.all_spells_takeSlot task hid
  have hready := hlinked.ready_spells_takeSlot task hid
  have hwaiting := hlinked.waiting_spells_takeSlot task hid
  have hblocked := hlinked.blocked_spells_takeSlot task hid
  have hallIds : (k.takeSlot id task).allIds = id :: k.allIds := hall.toList_eq
  have hreadyIds : (k.takeSlot id task).readyIds = k.readyIds :=
    hready.toList_eq
  have hwaitingIds : (k.takeSlot id task).waitingIds = k.waitingIds :=
    hwaiting.toList_eq
  have hblockedIds : ∀ resource,
      (k.takeSlot id task).blockedIds resource = k.blockedIds resource :=
    fun resource => (hblocked resource).toList_eq
  constructor
  · constructor
    · exact hallIds ▸ hall
    · exact hreadyIds ▸ hready
    · exact hwaitingIds ▸ hwaiting
    · rw [hreadyIds, hwaitingIds]
      exact hlinked.apart
    · intro other hother hother'
      rw [hreadyIds] at hother
      rw [hwaitingIds] at hother'
      change (k.links.queue.put id none).slot other = none
      rw [Pool.slot_put]
      split
      · rfl
      · exact hlinked.unqueued other hother hother'
    · intro resource
      rw [hblockedIds]
      exact hblocked resource
    · intro resource other one
      rw [hblockedIds, hblockedIds]
      exact hlinked.blocked_apart resource other one
  · apply View.ext
    case all => exact hallIds
    case ready => exact hreadyIds
    case waiting => exact hwaitingIds
    case blocked => exact funext hblockedIds
    case task =>
      funext other
      exact Pool.slot_put ..
    all_goals rfl

end TakeSlot

/-- A new task takes its place among the runnable ones if it asks for it. -/
theorem Shows.place {task : Task} (h : k.Shows (v.admitted id task))
    (hid : v.Unlisted id) (mode : StartMode) :
    Shows (match mode with
      | .running => k.joinReady id
      | .suspended => k) (v.enrolled id task mode) := by
  cases mode with
  | running => exact h.joinReady hid.ready hid.waiting
  | suspended => exact h

theorem Shows.enrol (h : k.Shows v) (ho : v.Orderly none) (spec : TaskSpec)
    (stack : Stack) (offset : Nat) (hreg : ¬v.Registered id) :
    (k.enrol id spec stack offset).Shows
      (v.enrolled id (v.newcomer id spec stack offset) spec.mode) := by
  have hid := ho.unlisted hreg
  have htaken := h.takeSlot (v.newcomer id spec stack offset) hid
  obtain ⟨hlinked, rfl⟩ := h
  exact htaken.place hid spec.mode

theorem Shows.admission (h : k.Shows v) {spec : TaskSpec}
    (hok : k.admission spec = .ok id) :
    id.val = v.taskCount ∧ (v.phase = .prepared ∨ v.phase = .populated) ∧
      (v.idle = none → spec.mode = .running) := by
  have hcount : k.taskCount = v.taskCount := congrArg View.taskCount h.view_eq
  have hadmitted : (if spec.stack.words.size < Stack.minTaskWords then
      .error .stackTooSmall
    else if hroom : k.taskCount < maxTasks then
      if k.idle.isNone && spec.mode != .running then .error .idleSuspended
      else .ok ⟨k.taskCount, hroom⟩
    else .error .taskTableFull : Except Error TaskId) = .ok id →
      id.val = v.taskCount ∧ (v.idle = none → spec.mode = .running) := by
    intro hresult
    split at hresult
    · cases hresult
    split at hresult
    · split at hresult
      · cases hresult
      · rename_i hcond
        cases hresult
        refine ⟨hcount, fun hnone => ?_⟩
        rw [h.idle_eq, hnone] at hcond
        simpa using hcond
    · cases hresult
  unfold Kernel.admission at hok
  rw [h.phase_eq] at hok
  cases hphase : v.phase with
  | blank =>
      rw [hphase] at hok
      cases hok
  | started =>
      rw [hphase] at hok
      cases hok
  | prepared =>
      rw [hphase] at hok
      obtain ⟨hid, hmode⟩ := hadmitted hok
      exact ⟨hid, Or.inl rfl, hmode⟩
  | populated =>
      rw [hphase] at hok
      obtain ⟨hid, hmode⟩ := hadmitted hok
      exact ⟨hid, Or.inr rfl, hmode⟩

theorem Shows.register (h : k.Shows v) (ho : v.Orderly none) (spec : TaskSpec) :
    ∃ verdict, k.register spec = .ok verdict ∧
      ∃ w, v.Enrolled spec verdict.1 w ∧ verdict.2.Shows w := by
  unfold Kernel.register
  cases hadmission : k.admission spec with
  | error error => exact ⟨_, rfl, v, .refused error, h⟩
  | ok id =>
      obtain ⟨hid, hphase, hmode⟩ := h.admission hadmission
      have hindex := toNat_slot_lt id
      obtain ⟨result, hprepare, hguard⟩ := Stack.prepare_eq_ok spec.stack
        k.platform.seeded spec.entry spec.param k.platform.exitAddress hindex
      dsimp only
      rw [hprepare]
      cases result with
      | error error => exact ⟨_, rfl, v, .refused error, h⟩
      | ok prepared =>
          obtain ⟨stack, offset⟩ := prepared
          have hroom : v.taskCount < maxTasks := hid ▸ id.isLt
          obtain rfl : id = ⟨v.taskCount, hroom⟩ := Fin.ext hid
          exact ⟨_, rfl, _,
            .enrolled hroom hphase hmode (hguard stack offset rfl),
            h.enrol ho spec stack offset (Nat.lt_irrefl _)⟩

end Kernel

end TickKernel
