/-
A kernel moved along the clock.  `Kernel.shifted` moves the clock of a kernel
and the deadlines of its waiting tasks by the same number of ticks and leaves
all else as it is.  A rule that compares no deadlines does not notice: carried
out on the moved kernel it ends as on the other one, and the kernels that it
leaves are again the same but for the move.  `Follows` says so of a rule that
may stop the machine.
-/
import TickKernel.Proofs.View

namespace TickKernel

universe u

/-! ### Moved tasks and kernels -/

@[simp] theorem Pool.slot_map {α β : Type u} {n : Nat} (pool : Pool α n)
    (f : α → β) (i : Fin n) : Pool.slot (pool.map f) i = f (pool.slot i) := by
  simp [Pool.slot]

theorem Pool.put_map {α β : Type u} {n : Nat} (pool : Pool α n) (f : α → β)
    (i : Fin n) (a : α) :
    Pool.put (pool.map f) i (f a) = (pool.put i a).map f := by
  apply Pool.ext_slot
  intro j
  rw [Pool.slot_put, Pool.slot_map, Pool.slot_map, Pool.slot_put]
  split <;> rfl

/-- The task with its wait, if it is in one, moved along the clock. -/
def Task.shifted (task : Task) (offset : Tick) : Task :=
  { task with
    deadline := if task.status = .waiting then task.deadline + offset
      else task.deadline }

/-- The task without the deadline of a wait that it finished in. -/
def Task.forgetFinished (task : Task) : Task :=
  { task with deadline := if task.status = .finished then 0 else task.deadline }

section Tasks

variable {task other : Task} {offset : Tick}

@[simp] theorem Task.status_shifted :
    (task.shifted offset).status = task.status :=
  rfl

@[simp] theorem Task.savedAt_shifted :
    (task.shifted offset).savedAt = task.savedAt :=
  rfl

@[simp] theorem Task.waitsFor_shifted :
    (task.shifted offset).waitsFor = task.waitsFor :=
  rfl

@[simp] theorem Task.message_shifted :
    (task.shifted offset).message = task.message :=
  rfl

@[simp] theorem Task.pending_shifted :
    (task.shifted offset).pending = task.pending :=
  rfl

theorem Task.shifted_of_waiting (h : task.status = .waiting) :
    task.shifted offset = { task with deadline := task.deadline + offset } := by
  rw [shifted, if_pos h]

theorem Task.shifted_of_ne (h : task.status ≠ .waiting) :
    task.shifted offset = task := by
  rw [shifted, if_neg h]

/-- Deadlines of two waits compare as before. -/
theorem Task.dueBefore_shifted (htask : task.status = .waiting)
    (hother : other.status = .waiting) :
    (task.shifted offset).dueBefore (other.shifted offset) =
      task.dueBefore other := by
  rw [shifted_of_waiting htask, shifted_of_waiting hother]
  exact Tick.precedes_add ..

end Tasks

namespace Kernel

/-- The kernel with its clock and the deadlines of its waiting tasks moved. -/
def shifted (k : Kernel) (offset : Tick) : Kernel :=
  { k with
    platform := k.platform.advance offset
    tasks := k.tasks.map fun task => task.shifted offset }

/-- The kernel without the deadlines that finished tasks were left with. -/
def forgetFinished (k : Kernel) : Kernel :=
  { k with tasks := k.tasks.map Task.forgetFinished }

section Fields

variable {k : Kernel} {offset : Tick} {id : TaskId}

@[simp] theorem task_shifted :
    (k.shifted offset).task id = (k.task id).shifted offset :=
  Pool.slot_map ..

@[simp] theorem phase_shifted : (k.shifted offset).phase = k.phase :=
  rfl

@[simp] theorem idle_shifted : (k.shifted offset).idle = k.idle :=
  rfl

@[simp] theorem running_shifted : (k.shifted offset).running = k.running :=
  rfl

@[simp] theorem scheduled_shifted :
    (k.shifted offset).scheduled = k.scheduled :=
  rfl

@[simp] theorem links_shifted : (k.shifted offset).links = k.links :=
  rfl

@[simp] theorem ready_shifted : (k.shifted offset).ready = k.ready :=
  rfl

@[simp] theorem waiting_shifted : (k.shifted offset).waiting = k.waiting :=
  rfl

@[simp] theorem isRegistered_shifted :
    (k.shifted offset).isRegistered = k.isRegistered :=
  rfl

@[simp] theorem hasMutex_shifted : (k.shifted offset).hasMutex = k.hasMutex :=
  rfl

@[simp] theorem hasQueue_shifted : (k.shifted offset).hasQueue = k.hasQueue :=
  rfl

@[simp] theorem mutex_shifted : (k.shifted offset).mutex = k.mutex :=
  rfl

@[simp] theorem queue_shifted : (k.shifted offset).queue = k.queue :=
  rfl

/-- A new kernel knows no deadlines. -/
theorem shifted_fresh (platform : Platform) :
    (fresh platform).shifted offset = fresh (platform.advance offset) := by
  have htasks : (Pool.filled maxTasks Task.vacant).map
      (fun task => task.shifted offset) = Pool.filled maxTasks Task.vacant :=
    Pool.ext_slot fun i => by
      rw [Pool.slot_map, Pool.slot_filled]
      rfl
  simp only [shifted, fresh, htasks]

/-- A change of a task that the move does not interfere with. -/
theorem modifyTask_shifted {f f' : Task → Task}
    (h : f' ((k.task id).shifted offset) = (f (k.task id)).shifted offset) :
    (k.shifted offset).modifyTask id f' =
      (k.modifyTask id f).shifted offset := by
  have htasks : (k.shifted offset).tasks.modify id f' =
      (k.tasks.modify id f).map fun task => task.shifted offset := by
    rw [Pool.modify, Pool.modify, ← Pool.put_map]
    exact congrArg _ ((congrArg f' task_shifted).trans h)
  simp only [modifyTask, htasks]
  rfl

theorem setStatus_shifted {status : TaskStatus}
    (h : (k.task id).status ≠ .waiting) (hstatus : status ≠ .waiting) :
    (k.shifted offset).setStatus id status =
      (k.setStatus id status).shifted offset := by
  apply modifyTask_shifted
  rw [Task.shifted_of_ne h, Task.shifted_of_ne hstatus]

end Fields

end Kernel

/-! ### Rules that may stop the machine -/

/-- The result of a rule on the moved kernel compared with its result on the
other one: a value is the other one moved, and a stop is for the same reason.
Of a machine that has stopped, the deadlines of finished tasks do not matter. -/
inductive Follows {α : Type} (offset : Tick) (moved : α → α) :
    Except Halt α → Except Halt α → Prop
  | ok (a : α) : Follows offset moved (.ok a) (.ok (moved a))
  | halt {stop stop' : Halt} (hfault : stop'.fault = stop.fault)
      (hkernel : stop'.kernel.forgetFinished =
        (stop.kernel.shifted offset).forgetFinished) :
      Follows offset moved (.error stop) (.error stop')

/-- A kernel moved along, with whatever else there is to the result. -/
def Kernel.alongside {β : Type} (offset : Tick) (result : β × Kernel) :
    β × Kernel :=
  (result.1, result.2.shifted offset)

namespace Follows

variable {α β : Type} {offset : Tick} {moved : α → α} {moved' : β → β}
  {k : Kernel}

theorem stopped (k : Kernel) (fault : Fault) :
    Follows offset moved (k.halt fault) ((k.shifted offset).halt fault) :=
  .halt rfl rfl

theorem bind {result result' : Except Halt α} {rest rest' : α → Except Halt β}
    (h : Follows offset moved result result')
    (hrest : ∀ a, result = .ok a →
      Follows offset moved' (rest a) (rest' (moved a))) :
    Follows offset moved' (result >>= rest) (result' >>= rest') := by
  cases h with
  | ok a => exact hrest a rfl
  | halt hfault hkernel => exact .halt hfault hkernel

theorem map {result result' : Except Halt α} {f f' : α → β}
    (h : Follows offset moved result result')
    (hf : ∀ a, f' (moved a) = moved' (f a)) :
    Follows offset moved' (f <$> result) (f' <$> result') := by
  cases h with
  | ok a =>
      change Follows offset moved' (.ok (f a)) (.ok (f' (moved a)))
      rw [hf]
      exact .ok (f a)
  | halt hfault hkernel => exact .halt hfault hkernel

theorem require {condition condition' : Bool}
    {rest rest' : Unit → Except Halt β} (hsame : condition' = condition)
    (hrest : condition = true → Follows offset moved' (rest ()) (rest' ())) :
    Follows offset moved' (k.require condition >>= rest)
      ((k.shifted offset).require condition' >>= rest') := by
  subst hsame
  cases condition' with
  | true => exact hrest rfl
  | false => exact stopped k .assertion

theorem ite_bind {condition : Prop} [Decidable condition]
    {yes no yes' no' : Except Halt α} {rest rest' : α → Except Halt β}
    (h : Follows offset moved' ((if condition then yes else no) >>= rest)
      ((if condition then yes' else no') >>= rest')) :
    Follows offset moved' (if condition then yes >>= rest else no >>= rest)
      (if condition then yes' >>= rest' else no' >>= rest') := by
  split <;> simp_all

theorem checkGuard {id : TaskId} {rest rest' : Unit → Except Halt β}
    (hrest : Follows offset moved' (rest ()) (rest' ())) :
    Follows offset moved' (k.checkGuard id >>= rest)
      ((k.shifted offset).checkGuard id >>= rest') := by
  have hsame : ((k.shifted offset).task id).isGuarded =
      (k.task id).isGuarded := by
    rw [Kernel.task_shifted]
    rfl
  unfold Kernel.checkGuard
  rw [hsame]
  by_cases hguard : (k.task id).isGuarded = true
  · rw [if_pos hguard, if_pos hguard]
    exact hrest
  · rw [if_neg hguard, if_neg hguard]
    exact stopped k .stackOverflow

end Follows

/-! ### Small steps -/

namespace Kernel

variable {k : Kernel} {offset : Tick} {id : TaskId}

/-- A rule that has a kernel for a result follows. -/
abbrev Tracks (offset : Tick) :
    Except Halt Kernel → Except Halt Kernel → Prop :=
  Follows offset fun k => k.shifted offset

/-- A call follows: its answer is the same. -/
abbrev Agrees {β : Type} (offset : Tick) :
    Except Halt (β × Kernel) → Except Halt (β × Kernel) → Prop :=
  Follows offset (alongside offset)

theorem Agrees.of_eq {β : Type} {result result' : β × Kernel}
    (h : result' = alongside offset result) :
    Agrees offset (.ok result) (.ok result') := by
  rw [h]
  exact .ok result

/-- The result of a rule becomes that of the call. -/
theorem Tracks.agrees {β : Type} {result result' : Except Halt Kernel}
    (answer : β) (h : Tracks offset result result') :
    Agrees offset (result >>= fun k => pure (answer, k))
      (result' >>= fun k => pure (answer, k)) :=
  h.bind fun k _ => .ok (answer, k)

theorem putBlocked_shifted (resource : Resource)
    (changed : Chain maxTasks × Links maxTasks) :
    (k.shifted offset).putBlocked resource changed =
      (k.putBlocked resource changed).shifted offset := by
  cases resource <;> rfl

theorem settle_shifted (resource : Resource) :
    (k.shifted offset).settle resource =
      (k.settle resource).shifted offset := by
  cases resource <;> rfl

theorem blockedChain_shifted (resource : Resource) :
    (k.shifted offset).blockedChain resource = k.blockedChain resource := by
  cases resource <;> rfl

theorem joinReady_shifted :
    (k.shifted offset).joinReady id = (k.joinReady id).shifted offset := by
  simp only [joinReady, task_shifted]
  rfl

theorem joinBlocked_shifted (resource : Resource) :
    (k.shifted offset).joinBlocked id resource =
      (k.joinBlocked id resource).shifted offset := by
  rw [joinBlocked, blockedChain_shifted, putBlocked_shifted]
  rfl

theorem forgetWait_shifted :
    (k.shifted offset).forgetWait id = (k.forgetWait id).shifted offset := by
  rw [forgetWait, modifyTask_shifted (f := Task.withoutWait) rfl]
  rfl

theorem popBlocked_shifted (resource : Resource) :
    (k.shifted offset).popBlocked? resource =
      (k.popBlocked? resource).map (alongside offset) := by
  unfold popBlocked?
  rw [blockedChain_shifted, links_shifted]
  cases (k.blockedChain resource).popFront? k.links.blocked with
  | none => rfl
  | some popped =>
      dsimp only
      rw [putBlocked_shifted, settle_shifted]
      rfl

theorem tracks_leaveReady :
    Tracks offset (k.leaveReady id) ((k.shifted offset).leaveReady id) := by
  unfold leaveReady
  rw [ready_shifted, links_shifted]
  cases k.ready.erase? k.links.queue id with
  | none => exact .stopped k .assertion
  | some changed => exact .ok (k.putReady changed)

theorem tracks_leaveWaiting :
    Tracks offset (k.leaveWaiting id) ((k.shifted offset).leaveWaiting id) := by
  unfold leaveWaiting
  rw [waiting_shifted, links_shifted]
  cases k.waiting.erase? k.links.queue id with
  | none => exact .stopped k .assertion
  | some changed => exact .ok (k.putWaiting changed)

theorem tracks_leaveBlocked (resource : Resource) :
    Tracks offset (k.leaveBlocked id resource)
      ((k.shifted offset).leaveBlocked id resource) := by
  unfold leaveBlocked
  rw [blockedChain_shifted, links_shifted]
  cases (k.blockedChain resource).erase? k.links.blocked id with
  | none => exact .stopped k .assertion
  | some changed =>
      dsimp only
      rw [putBlocked_shifted, settle_shifted]
      exact .ok _

theorem tracks_unblock :
    Tracks offset (k.unblock id) ((k.shifted offset).unblock id) := by
  unfold unblock
  rw [task_shifted, Task.waitsFor_shifted]
  cases (k.task id).waitsFor with
  | none =>
      dsimp only
      rw [forgetWait_shifted]
      exact .ok _
  | some resource =>
      refine (tracks_leaveBlocked resource).bind fun k₁ _ => ?_
      rw [forgetWait_shifted]
      exact .ok _

theorem tracks_reinstate :
    Tracks offset (k.reinstate id) ((k.shifted offset).reinstate id) := by
  have hready : ∀ k : Kernel, Tracks offset
      (.ok ((k.modifyTask id fun task =>
        { task with deadline := 0, status := .ready }).joinReady id))
      (.ok (((k.shifted offset).modifyTask id fun task =>
        { task with deadline := 0, status := .ready }).joinReady id)) := by
    intro k
    rw [modifyTask_shifted (f := fun task : Task =>
      { task with deadline := 0, status := .ready }) rfl, joinReady_shifted]
    exact .ok _
  refine tracks_unblock.bind fun k₁ _ => ?_
  rw [task_shifted, Task.status_shifted]
  split
  · exact tracks_leaveWaiting.bind fun k₂ _ => hready k₂
  · exact hready k₁

/-! ### The register switch -/

theorem modifyStack_shifted (f : Array Word → Array Word) :
    (k.shifted offset).modifyStack id f =
      (k.modifyStack id f).shifted offset := by
  rw [modifyStack, modifyTask_shifted (f := fun task : Task =>
    { task with stack := { task.stack with words := f task.stack.words } }) rfl]
  rfl

theorem deliver_shifted :
    (k.shifted offset).deliver id = (k.deliver id).shifted offset := by
  unfold deliver
  rw [task_shifted, Task.pending_shifted]
  cases (k.task id).pending with
  | none => rfl
  | some reply =>
      dsimp only
      rw [modifyTask_shifted (f := fun task : Task =>
        { task with pending := none, delivered := some reply }) rfl,
          task_shifted,
        Task.savedAt_shifted]
      generalize k.modifyTask id (fun task =>
        { task with pending := none, delivered := some reply }) = k₁
      cases (k₁.task id).savedAt with
      | none => rfl
      | some pointer => exact modifyStack_shifted _

theorem takeScheduled_shifted :
    (k.shifted offset).takeScheduled = k.takeScheduled.shifted offset := by
  unfold takeScheduled
  rw [scheduled_shifted]
  cases k.scheduled <;> rfl

theorem saveRunning_shifted (pointer : StackPointer) :
    (k.shifted offset).saveRunning pointer =
      (k.saveRunning pointer).shifted offset := by
  unfold saveRunning
  rw [running_shifted]
  cases k.running with
  | none => rfl
  | some id => exact modifyTask_shifted rfl

theorem resumeRunning_shifted (saved : Option StackPointer) :
    (k.shifted offset).resumeRunning saved =
      alongside offset (k.resumeRunning saved) := by
  unfold resumeRunning
  rw [running_shifted]
  cases k.running with
  | none => rfl
  | some id =>
      dsimp only
      rw [deliver_shifted, task_shifted]
      rfl

theorem switchFrom_shifted (saved : Option StackPointer) :
    (k.shifted offset).switchFrom saved =
      alongside offset (k.switchFrom saved) := by
  unfold switchFrom
  cases saved with
  | none =>
      dsimp only
      rw [takeScheduled_shifted, resumeRunning_shifted]
  | some pointer =>
      dsimp only
      rw [scheduled_shifted, saveRunning_shifted, takeScheduled_shifted,
        resumeRunning_shifted]
      split <;> rfl

theorem switchOver_shifted :
    (k.shifted offset).switchOver = alongside offset k.switchOver := by
  have hsaved : ((k.shifted offset).running.bind fun id =>
      ((k.shifted offset).task id).savedAt) =
        k.running.bind fun id => (k.task id).savedAt := by
    simp only [running_shifted, task_shifted]
    rfl
  unfold switchOver
  dsimp only
  rw [hsaved, scheduled_shifted, switchFrom_shifted]
  split <;> rfl

/-! ### The life of a kernel -/

theorem setUp_shifted :
    (k.shifted offset).setUp = alongside offset k.setUp := by
  unfold setUp
  rw [phase_shifted]
  split <;> rfl

theorem enter_shifted (h : (k.task id).status ≠ .waiting) :
    (k.shifted offset).enter id = alongside offset (k.enter id) := by
  unfold enter
  rw [setStatus_shifted h (by decide)]
  rfl

/-- The task that is put on the processor first must not be in a wait. -/
theorem start_shifted
    (hfirst : ∀ id, k.ready.head = some id → (k.task id).status ≠ .waiting) :
    (k.shifted offset).start = alongside offset k.start := by
  have hbrought : (k.shifted offset).platform.bringUp =
      (k.platform.bringUp.1, k.platform.bringUp.2.advance offset) :=
    rfl
  unfold start
  rw [phase_shifted, hbrought]
  cases k.phase with
  | blank | prepared | started => rfl
  | populated =>
      dsimp only
      cases k.platform.bringUp.1 with
      | error error => rfl
      | ok _ =>
          dsimp only
          rw [ready_shifted]
          cases hhead : k.ready.head with
          | none => rfl
          | some first =>
              refine Eq.trans ?_ (enter_shifted (hfirst first hhead))
              rfl

theorem tearDown_shifted :
    (k.shifted offset).tearDown = k.tearDown.shifted offset :=
  (shifted_fresh k.platform).symm

theorem admission_shifted (spec : TaskSpec) :
    (k.shifted offset).admission spec = k.admission spec :=
  rfl

theorem enrol_shifted (spec : TaskSpec) (stack : Stack) (start : Nat) :
    (k.shifted offset).enrol id spec stack start =
      (k.enrol id spec stack start).shifted offset := by
  have hstatus : spec.mode.status ≠ .waiting := by
    cases spec.mode <;> decide
  have htasks : ∀ task : Task, task.status ≠ .waiting →
      (k.shifted offset).tasks.put id task =
        (k.tasks.put id task).map fun task => task.shifted offset := by
    intro task h
    rw [← Pool.put_map, Task.shifted_of_ne h]
    rfl
  unfold enrol
  dsimp only
  rw [htasks _ hstatus]
  cases spec.mode with
  | running =>
      refine Eq.trans ?_ joinReady_shifted
      rfl
  | suspended => rfl

theorem agrees_register (spec : TaskSpec) :
    Agrees offset (k.register spec) ((k.shifted offset).register spec) := by
  unfold register
  rw [admission_shifted]
  cases k.admission spec with
  | error error => exact .ok (k.refuse error)
  | ok id =>
      have hprepare : spec.stack.prepare (k.shifted offset).platform.seeded
          spec.entry
          spec.param (k.shifted offset).platform.exitAddress
          (UInt64.ofNat id.val) =
            spec.stack.prepare k.platform.seeded spec.entry spec.param
              k.platform.exitAddress (UInt64.ofNat id.val) :=
        rfl
      dsimp only
      rw [hprepare]
      rcases spec.stack.prepare k.platform.seeded spec.entry spec.param
        k.platform.exitAddress
        (UInt64.ofNat id.val) with fault | error | ⟨stack, start⟩
      · exact .stopped k fault
      · exact .ok (k.refuse error)
      · dsimp only
        rw [enrol_shifted]
        exact .ok ((k.enrol id spec stack start).accept id)

end Kernel

end TickKernel
