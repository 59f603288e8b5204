/-
Rules that move tasks between chains before a backdrop.  They never look at a
stack, at the platform, or at who runs and who is to run next: carried out
before another backdrop they do the same, and leave the backdrop as it is.  Both
follow from one equation for each rule, and so a kernel with other stacks takes
the same decisions.
-/
import TickKernel.Proofs.Scheduling

namespace TickKernel

/-- What moving tasks between chains has nothing to do with. -/
structure Backdrop where
  stack : TaskId → Stack
  platform : Platform
  running : Option TaskId
  scheduled : Option TaskId

/-- Tasks with other stacks.  Irreducible: it is read through
`Pool.slot_restacked`, so that two kernels are never compared slot by slot. -/
@[irreducible] def Pool.restacked (tasks : Pool Task maxTasks)
    (stack : TaskId → Stack) :
    Pool Task maxTasks :=
  Vector.ofFn fun id => { tasks.slot id with stack := stack id }

@[simp] theorem Pool.slot_restacked (tasks : Pool Task maxTasks)
    (stack : TaskId → Stack) (id : TaskId) : (tasks.restacked stack).slot id =
      { tasks.slot id with stack := stack id } := by
  simp [restacked, slot]

namespace Kernel

def backdrop (k : Kernel) : Backdrop where
  stack id := (k.task id).stack
  platform := k.platform
  running := k.running
  scheduled := k.scheduled

/-- The kernel before another backdrop. -/
def against (k : Kernel) (b : Backdrop) : Kernel :=
  { k with
    tasks := k.tasks.restacked b.stack
    platform := b.platform
    running := b.running
    scheduled := b.scheduled }

/-- The kernel with other stacks. -/
def restacked (k : Kernel) (stack : TaskId → Stack) : Kernel :=
  k.against { k.backdrop with stack }

/-- What a rule leads to, before another backdrop. -/
def endAgainst (b : Backdrop) : Except Halt Kernel → Except Halt Kernel
  | .ok k => .ok (k.against b)
  | .error stop => .error ⟨stop.fault, stop.kernel.against b⟩

/-- A change that neither sees the backdrop nor touches it. -/
def Oblivious (change : Kernel → Kernel) : Prop :=
  ∀ k b, change (k.against b) = (change k).against b

/-- A rule that neither sees the backdrop nor touches it. -/
def ObliviousRule (rule : Kernel → Except Halt Kernel) : Prop :=
  ∀ k b, rule (k.against b) = endAgainst b (rule k)

variable {k k' : Kernel} {b : Backdrop} {id : TaskId} {stack : TaskId → Stack}

@[simp] theorem task_against :
    (k.against b).task id = { k.task id with stack := b.stack id } :=
  Pool.slot_restacked k.tasks b.stack id

@[simp] theorem task_restacked :
    (k.restacked stack).task id = { k.task id with stack := stack id } :=
  task_against

section Fields

@[simp] theorem platform_restacked :
    (k.restacked stack).platform = k.platform :=
  rfl

@[simp] theorem phase_restacked : (k.restacked stack).phase = k.phase :=
  rfl

@[simp] theorem idle_restacked : (k.restacked stack).idle = k.idle :=
  rfl

@[simp] theorem ready_restacked : (k.restacked stack).ready = k.ready :=
  rfl

@[simp] theorem readyIds_restacked :
    (k.restacked stack).readyIds = k.readyIds :=
  rfl

@[simp] theorem running_restacked : (k.restacked stack).running = k.running :=
  rfl

@[simp] theorem scheduled_restacked :
    (k.restacked stack).scheduled = k.scheduled :=
  rfl

@[simp] theorem isRegistered_restacked :
    (k.restacked stack).isRegistered = k.isRegistered :=
  rfl

@[simp] theorem hasMutex_restacked :
    (k.restacked stack).hasMutex = k.hasMutex :=
  rfl

@[simp] theorem mutex_restacked : (k.restacked stack).mutex = k.mutex :=
  rfl

@[simp] theorem hasQueue_restacked :
    (k.restacked stack).hasQueue = k.hasQueue :=
  rfl

@[simp] theorem queue_restacked : (k.restacked stack).queue = k.queue :=
  rfl

end Fields

@[simp] theorem backdrop_against : (k.against b).backdrop = b := by
  simp only [backdrop, task_against]
  rfl

theorem against_backdrop : k.against k.backdrop = k := by
  have htasks : (k.against k.backdrop).tasks = k.tasks :=
    Pool.ext_slot fun id => task_against
  have hsame : k.against k.backdrop =
      { k with tasks := (k.against k.backdrop).tasks } := rfl
  rw [hsame, htasks]

/-! ### Oblivious changes and rules -/

namespace Oblivious

variable {change further : Kernel → Kernel}

theorem backdrop_eq (h : Oblivious change) :
    (change k).backdrop = k.backdrop := by
  have hsame := h k k.backdrop
  rw [against_backdrop] at hsame
  rw [hsame, backdrop_against]

theorem restacked_eq (h : Oblivious change) :
    change (k.restacked stack) = (change k).restacked stack := by
  rw [restacked, h, restacked, h.backdrop_eq]

theorem comp (hfurther : Oblivious further) (h : Oblivious change) :
    Oblivious fun k => further (change k) := by
  intro k b
  exact (congrArg further (h k b)).trans (hfurther (change k) b)

theorem rule (h : Oblivious change) :
    ObliviousRule fun k => .ok (change k) := by
  intro k b
  exact congrArg Except.ok (h k b)

end Oblivious

namespace ObliviousRule

variable {rule : Kernel → Except Halt Kernel}

theorem backdrop_eq (h : ObliviousRule rule) (hok : rule k = .ok k') :
    k'.backdrop = k.backdrop := by
  have hsame := h k k.backdrop
  rw [against_backdrop, hok] at hsame
  rw [Except.ok.inj hsame, backdrop_against]

theorem halt_backdrop_eq (h : ObliviousRule rule) {stop : Halt}
    (hstop : rule k = .error stop) :
    stop.kernel.backdrop = k.backdrop := by
  have hsame := h k k.backdrop
  rw [against_backdrop, hstop] at hsame
  have hkernel := congrArg Halt.kernel (Except.error.inj hsame)
  rw [hkernel]
  exact backdrop_against

theorem ok_restacked (h : ObliviousRule rule) (hok : rule k = .ok k') :
    rule (k.restacked stack) = .ok (k'.restacked stack) := by
  rw [restacked, h, hok, restacked, h.backdrop_eq hok]
  rfl

theorem halt_restacked (h : ObliviousRule rule) {stop : Halt}
    (hstop : rule k = .error stop) (stack : TaskId → Stack) :
    ∃ stop', rule (k.restacked stack) = .error stop' ∧
      stop'.fault = stop.fault := by
  rw [restacked, h, hstop]
  exact ⟨_, rfl, rfl⟩

theorem bind (h : ObliviousRule rule) {rest : Kernel → Except Halt Kernel}
    (hrest : ObliviousRule rest) : ObliviousRule fun k => rule k >>= rest := by
  intro k b
  dsimp only
  rw [h]
  cases rule k with
  | ok k₁ => exact hrest k₁ b
  | error stop => rfl

end ObliviousRule

/-! ### Moves between chains -/

section Moves

variable (id : TaskId) (resource : Resource)

theorem oblivious_modifyTask {f : Task → Task}
    (hf : ∀ task stack, f { task with stack } = { f task with stack }) :
    Oblivious fun k => k.modifyTask id f := by
  intro k b
  have htasks : ((k.against b).modifyTask id f).tasks =
      ((k.modifyTask id f).against b).tasks := by
    refine Pool.ext_slot fun other => ?_
    change ((k.against b).modifyTask id f).task other =
      ((k.modifyTask id f).against b).task other
    simp only [task_modifyTask, task_against]
    split
    · rename_i heq
      exact heq ▸ hf _ _
    · rfl
  have hsame : ((k.modifyTask id f).against b) =
      { k.against b with tasks := ((k.modifyTask id f).against b).tasks } := rfl
  rw [hsame, ← htasks]
  rfl

theorem oblivious_setStatus (status : TaskStatus) :
    Oblivious fun k => k.setStatus id status :=
  oblivious_modifyTask id fun _ _ => rfl

theorem oblivious_putBlocked (changed : Chain maxTasks × Links maxTasks) :
    Oblivious fun k => k.putBlocked resource changed := by
  intro k b
  cases resource <;> rfl

theorem oblivious_settle : Oblivious fun k => k.settle resource := by
  intro k b
  cases resource <;> rfl

theorem blockedChain_against :
    (k.against b).blockedChain resource = k.blockedChain resource := by
  cases resource <;> rfl

theorem oblivious_joinReady : Oblivious fun k => k.joinReady id := by
  intro k b
  simp only [joinReady, task_against]
  rfl

theorem oblivious_joinWaiting : Oblivious fun k => k.joinWaiting id := by
  intro k b
  simp only [joinWaiting, task_against]
  rfl

theorem oblivious_joinBlocked :
    Oblivious fun k => k.joinBlocked id resource := by
  intro k b
  dsimp only
  rw [joinBlocked, blockedChain_against]
  exact oblivious_putBlocked resource _ k b

theorem oblivious_forgetWait : Oblivious fun k => k.forgetWait id := by
  intro k b
  have hforgets :=
    oblivious_modifyTask id (f := Task.withoutWait) (fun _ _ => rfl) k b
  exact congrArg (fun k => k.putBlockedLinks (k.links.blocked.put id none))
    hforgets

theorem oblivious_leaveReady : ObliviousRule fun k => k.leaveReady id := by
  intro k b
  have herase : (k.against b).ready.erase? (k.against b).links.queue id =
      k.ready.erase? k.links.queue id := rfl
  simp only [leaveReady, herase]
  cases k.ready.erase? k.links.queue id <;> rfl

theorem oblivious_leaveWaiting : ObliviousRule fun k => k.leaveWaiting id := by
  intro k b
  have herase : (k.against b).waiting.erase? (k.against b).links.queue id =
      k.waiting.erase? k.links.queue id := rfl
  simp only [leaveWaiting, herase]
  cases k.waiting.erase? k.links.queue id <;> rfl

/-- Whoever was taken off an object leaves it in order. -/
theorem oblivious_unlist (changed : Chain maxTasks × Links maxTasks) :
    Oblivious fun k => (k.putBlocked resource changed).settle resource :=
  (oblivious_settle resource).comp (oblivious_putBlocked resource changed)

theorem oblivious_leaveBlocked :
    ObliviousRule fun k => k.leaveBlocked id resource := by
  intro k b
  have herase : (k.blockedChain resource).erase?
      (k.against b).links.blocked id =
      (k.blockedChain resource).erase? k.links.blocked id := rfl
  simp only [leaveBlocked, blockedChain_against, herase]
  cases (k.blockedChain resource).erase? k.links.blocked id with
  | none => rfl
  | some changed =>
      exact congrArg Except.ok (oblivious_unlist resource changed k b)

/-- Nobody is blocked before either backdrop, or the same task comes off. -/
theorem popBlocked_against : (k.against b).popBlocked? resource =
    (k.popBlocked? resource).map fun popped =>
    (popped.1, popped.2.against b) := by
  have hpop : (k.blockedChain resource).popFront? (k.against b).links.blocked =
      (k.blockedChain resource).popFront? k.links.blocked := rfl
  simp only [popBlocked?, blockedChain_against, hpop]
  cases (k.blockedChain resource).popFront? k.links.blocked with
  | none => rfl
  | some popped =>
      exact congrArg (fun k => some (popped.1, k))
        (oblivious_unlist resource popped.2 k b)

/-- Nobody is blocked with either stacks, or the same task comes off. -/
theorem popBlocked_restacked (k : Kernel) (stack : TaskId → Stack) :
    (k.popBlocked? resource = none ∧
      (k.restacked stack).popBlocked? resource = none) ∨
      ∃ id k₁, k.popBlocked? resource = some (id, k₁) ∧
        (k.restacked stack).popBlocked? resource =
          some (id, k₁.restacked stack) ∧
          k₁.backdrop = k.backdrop := by
  rw [restacked, popBlocked_against]
  cases hpop : k.popBlocked? resource with
  | none => exact Or.inl ⟨rfl, rfl⟩
  | some popped =>
      have hsame := popBlocked_against (k := k) (b := k.backdrop) resource
      rw [against_backdrop, hpop] at hsame
      have hkept : popped.2.backdrop = k.backdrop := by
        rw [congrArg Prod.snd (Option.some.inj hsame)]
        exact backdrop_against
      refine Or.inr ⟨popped.1, popped.2, rfl, ?_, hkept⟩
      rw [restacked, hkept]
      rfl

theorem oblivious_unblock : ObliviousRule fun k => k.unblock id := by
  intro k b
  simp only [unblock, task_against]
  cases (k.task id).waitsFor with
  | none => exact (oblivious_forgetWait id).rule k b
  | some resource =>
      exact (oblivious_leaveBlocked id resource).bind
        (oblivious_forgetWait id).rule k b

/-- A task that comes off the chain of waiting ones when it is there. -/
theorem oblivious_leaveWait : ObliviousRule fun k =>
    if (k.task id).status = .waiting then k.leaveWaiting id else .ok k := by
  intro k b
  simp only [task_against]
  split
  · exact oblivious_leaveWaiting id k b
  · rfl

theorem oblivious_reinstate : ObliviousRule fun k => k.reinstate id := by
  have hready : Oblivious fun k => (k.modifyTask id fun task =>
      { task with deadline := 0, status := .ready }).joinReady id :=
    (oblivious_joinReady id).comp (oblivious_modifyTask id fun _ _ => rfl)
  have hwaits :=
    (oblivious_unblock id).bind ((oblivious_leaveWait id).bind hready.rule)
  intro k b
  -- the rule has what follows on both branches of its choice
  have hsame : ∀ k : Kernel, k.reinstate id = k.unblock id >>= fun k =>
      (if (k.task id).status = .waiting then k.leaveWaiting id else .ok k) >>=
        fun k =>
        .ok ((k.modifyTask id fun task =>
          { task with deadline := 0, status := .ready }).joinReady id) := by
    intro k
    unfold reinstate
    refine congrArg _ (funext fun k => ?_)
    split <;> rfl
  simp only [hsame]
  exact hwaits k b

theorem oblivious_standDown : ObliviousRule fun k => k.standDown id := by
  intro k b
  simp only [standDown, task_against]
  cases (k.task id).status with
  | active | ready => exact (oblivious_setStatus id .ready).rule k b
  | waiting =>
      exact (oblivious_leaveReady id).bind (oblivious_joinWaiting id).rule k b
  | suspended | finished => exact oblivious_leaveReady id k b

/-- A task that is to run next comes off what it waits for. -/
theorem oblivious_arrive : ObliviousRule fun k =>
    if (k.task id).status = .waiting then k.reinstate id else k.unblock id := by
  intro k b
  simp only [task_against]
  split
  · exact oblivious_reinstate id k b
  · exact oblivious_unblock id k b

end Moves

/-! ### Other stacks -/

theorem modifyTask_restacked {f : Task → Task}
    (hf : ∀ task stack, f { task with stack } = { f task with stack }) :
    (k.restacked stack).modifyTask id f = (k.modifyTask id f).restacked stack :=
  (oblivious_modifyTask id hf).restacked_eq

theorem backdrop_modifyTask {f : Task → Task}
    (hf : ∀ task stack, f { task with stack } = { f task with stack }) :
    (k.modifyTask id f).backdrop = k.backdrop :=
  (oblivious_modifyTask id hf).backdrop_eq

theorem setStatus_restacked {status : TaskStatus} :
    (k.restacked stack).setStatus id status =
      (k.setStatus id status).restacked stack :=
  modifyTask_restacked fun _ _ => rfl

theorem backdrop_setStatus {status : TaskStatus} :
    (k.setStatus id status).backdrop = k.backdrop :=
  backdrop_modifyTask fun _ _ => rfl

theorem forgetWait_restacked :
    (k.restacked stack).forgetWait id = (k.forgetWait id).restacked stack :=
  (oblivious_forgetWait id).restacked_eq

theorem backdrop_forgetWait : (k.forgetWait id).backdrop = k.backdrop :=
  (oblivious_forgetWait id).backdrop_eq

theorem joinBlocked_restacked {resource : Resource} :
    (k.restacked stack).joinBlocked id resource =
      (k.joinBlocked id resource).restacked stack :=
  (oblivious_joinBlocked id resource).restacked_eq

theorem backdrop_joinBlocked {resource : Resource} :
    (k.joinBlocked id resource).backdrop = k.backdrop :=
  (oblivious_joinBlocked id resource).backdrop_eq

theorem createMutex_restacked : (k.restacked stack).createMutex =
    (k.createMutex.1, k.createMutex.2.restacked stack) := by
  change (if h : k.mutexCount < maxMutexes then _ else _) = _
  unfold createMutex
  split <;> rfl

theorem backdrop_createMutex : k.createMutex.2.backdrop = k.backdrop := by
  unfold createMutex
  split <;> rfl

theorem createQueue_restacked {capacity : UInt64} :
    (k.restacked stack).createQueue capacity =
      ((k.createQueue capacity).1,
        (k.createQueue capacity).2.restacked stack) := by
  unfold createQueue
  split
  · rfl
  change (if h : k.queueCount < maxQueues then _ else _) = _
  split <;> rfl

theorem backdrop_createQueue {capacity : UInt64} :
    (k.createQueue capacity).2.backdrop = k.backdrop := by
  unfold createQueue
  split
  · rfl
  split <;> rfl

/-- Nobody waits on that side with either stacks, or the same task comes off. -/
theorem popWaiter_restacked (id : QueueId) (side : Waiters) (k : Kernel)
    (stack : TaskId → Stack) :
    (k.popWaiter? id side = none ∧
      (k.restacked stack).popWaiter? id side = none) ∨
      ∃ waiter k₁, k.popWaiter? id side = some (waiter, k₁) ∧
        (k.restacked stack).popWaiter? id side =
          some (waiter, k₁.restacked stack) ∧
          k₁.backdrop = k.backdrop := by
  unfold popWaiter?
  rw [queue_restacked]
  split
  · exact popBlocked_restacked (.queue id) k stack
  · exact Or.inl ⟨rfl, rfl⟩

theorem dueTask_restacked : (k.restacked stack).dueTask = k.dueTask := by
  simp only [dueTask, task_restacked]
  rfl

/-- Who is picked depends on priorities and statuses only. -/
theorem decision_restacked (current : TaskId) :
    (k.restacked stack).decision current = k.decision current := by
  have hpreferred : (k.restacked stack).preferred = k.preferred := by
    funext best other
    simp only [preferred, task_restacked]
    rfl
  simp only [decision, mostUrgent, hpreferred, task_restacked]
  rfl

end Kernel

end TickKernel
