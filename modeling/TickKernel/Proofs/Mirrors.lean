/-
Rules on two kernels that hold different messages.  No rule below the calls
looks at a message: carried out on twins it stops both machines for the same
reason or neither, and leaves twins.  `Mirrors` says so of two results, and
composes along the rules.
-/
import TickKernel.Proofs.Twins

namespace TickKernel

/-- The results of a rule on two kernels: both values, which are related, or
both stopped for the same reason. -/
inductive Mirrors {α : Type} (R : Message → Message → Prop)
    (rel : α → α → Prop) :
    Except Halt α → Except Halt α → Prop
  | ok {a a' : α} (h : rel a a') : Mirrors R rel (.ok a) (.ok a')
  | halt {stop stop' : Halt} (hfault : stop'.fault = stop.fault)
      (hkernel : stop.kernel.Twins R stop'.kernel) :
      Mirrors R rel (.error stop) (.error stop')

/-- What a call returns beside the kernel is related, and the kernels are
twins. -/
def Beside {β : Type} (R : Message → Message → Prop) (same : β → β → Prop)
    (result result' : β × Kernel) : Prop :=
  same result.1 result'.1 ∧ result.2.Twins R result'.2

/-- Rules that leave twins. -/
abbrev TwinKernels (R : Message → Message → Prop) :
    Except Halt Kernel → Except Halt Kernel → Prop :=
  Mirrors R (Kernel.Twins R)

/-- Calls that return the same and leave twins. -/
abbrev TwinResults {β : Type} (R : Message → Message → Prop) :
    Except Halt (β × Kernel) → Except Halt (β × Kernel) → Prop :=
  Mirrors R (Beside R Eq)

namespace Mirrors

variable {α β : Type} {R : Message → Message → Prop} {rel : α → α → Prop}
  {rel' : β → β → Prop} {k k' : Kernel}

theorem stopped (h : k.Twins R k') (fault : Fault) :
    Mirrors R rel (k.halt fault) (k'.halt fault) :=
  .halt rfl h

theorem bind {result result' : Except Halt α} {rest rest' : α → Except Halt β}
    (h : Mirrors R rel result result')
    (hrest : ∀ a a', result = .ok a → rel a a' →
      Mirrors R rel' (rest a) (rest' a')) :
    Mirrors R rel' (result >>= rest) (result' >>= rest') := by
  cases h with
  | ok h => exact hrest _ _ rfl h
  | halt hfault hkernel => exact .halt hfault hkernel

theorem map {result result' : Except Halt α} {f f' : α → β}
    (h : Mirrors R rel result result')
    (hf : ∀ a a', rel a a' → rel' (f a) (f' a')) :
    Mirrors R rel' (f <$> result) (f' <$> result') := by
  cases h with
  | ok h => exact .ok (hf _ _ h)
  | halt hfault hkernel => exact .halt hfault hkernel

theorem require {condition condition' : Bool}
    {rest rest' : Unit → Except Halt β} (h : k.Twins R k')
    (hsame : condition' = condition)
    (hrest : condition = true → Mirrors R rel' (rest ()) (rest' ())) :
    Mirrors R rel' (k.require condition >>= rest)
      (k'.require condition' >>= rest') := by
  subst hsame
  cases condition' with
  | true => exact hrest rfl
  | false => exact stopped h .assertion

theorem ite_bind {condition : Prop} [Decidable condition]
    {yes no yes' no' : Except Halt α} {rest rest' : α → Except Halt β}
    (h : Mirrors R rel' ((if condition then yes else no) >>= rest)
      ((if condition then yes' else no') >>= rest')) :
    Mirrors R rel' (if condition then yes >>= rest else no >>= rest)
      (if condition then yes' >>= rest' else no' >>= rest') := by
  split <;> simp_all

theorem checkGuard {id : TaskId} {rest rest' : Unit → Except Halt β}
    (h : k.Twins R k') (hrest : Mirrors R rel' (rest ()) (rest' ())) :
    Mirrors R rel' (k.checkGuard id >>= rest) (k'.checkGuard id >>= rest') := by
  unfold Kernel.checkGuard
  rw [(h.tasks id).isGuarded_eq]
  by_cases hguard : (k.task id).isGuarded = true
  · rw [if_pos hguard, if_pos hguard]
    exact hrest
  · rw [if_neg hguard, if_neg hguard]
    exact stopped h .stackOverflow

/-- The kernel that a rule leaves is what its call leaves. -/
theorem returning {result result' : Except Halt Kernel} (value : β)
    (h : TwinKernels R result result') :
    TwinResults R (result >>= fun k => pure (value, k))
      (result' >>= fun k => pure (value, k)) :=
  h.bind fun _ _ _ htwins => .ok ⟨rfl, htwins⟩

end Mirrors

namespace Kernel

variable {R : Message → Message → Prop} {k k' : Kernel} {id : TaskId}

namespace Twins

/-! ### Chains -/

theorem joinReady (h : k.Twins R k') (id : TaskId) :
    (k.joinReady id).Twins R (k'.joinReady id) := by
  have hprecedes : (fun other => (k'.task id).outranks (k'.task other)) =
      fun other => (k.task id).outranks (k.task other) := by
    funext other
    rw [Task.outranks, (h.tasks id).priority_eq, (h.tasks other).priority_eq,
      Task.outranks]
  unfold Kernel.joinReady
  rw [hprecedes, h.ready_eq, h.links_eq]
  exact h.update (fun k => k.putReady _) fun _ _ _ => rfl

theorem joinWaiting (h : k.Twins R k') (id : TaskId) :
    (k.joinWaiting id).Twins R (k'.joinWaiting id) := by
  have hprecedes : (fun other => (k'.task id).dueBefore (k'.task other)) =
      fun other => (k.task id).dueBefore (k.task other) := by
    funext other
    rw [Task.dueBefore, (h.tasks id).deadline_eq, (h.tasks other).deadline_eq,
      Task.dueBefore]
  unfold Kernel.joinWaiting
  rw [hprecedes, h.waiting_eq, h.links_eq]
  exact h.update (fun k => k.putWaiting _) fun _ _ _ => rfl

theorem putBlocked (h : k.Twins R k') (resource : Resource)
    (changed : Chain maxTasks × Links maxTasks) :
    (k.putBlocked resource changed).Twins R
      (k'.putBlocked resource changed) := by
  cases resource with
  | mutex id =>
      exact h.update (fun k => k.putBlocked (.mutex id) changed) fun _ _ _ =>
        rfl
  | queue id =>
      have hcontent :=
        (h.queues id).update (fun queue => { queue with blocked := changed.1 })
        fun _ _ => rfl
      have hput := h.putQueue id hcontent fun hside waiter hwaits =>
        h.stashed waiter id hwaits hside
      exact hput.update (fun k => k.putBlockedLinks changed.2) fun _ _ _ => rfl

theorem settle (h : k.Twins R k') (resource : Resource) :
    (k.settle resource).Twins R (k'.settle resource) := by
  cases resource with
  | mutex id => exact h
  | queue id =>
      refine h.putQueue id (h.queues id).settle fun hside waiter hwaits => ?_
      refine h.stashed waiter id hwaits ?_
      unfold Queue.settle at hside
      split at hside
      · cases hside
      · exact hside

theorem joinBlocked (h : k.Twins R k') (id : TaskId) (resource : Resource) :
    (k.joinBlocked id resource).Twins R (k'.joinBlocked id resource) := by
  unfold Kernel.joinBlocked
  rw [h.blockedChain_eq, h.links_eq]
  exact h.putBlocked resource _

theorem forgetWait (h : k.Twins R k') (id : TaskId) :
    (k.forgetWait id).Twins R (k'.forgetWait id) := by
  have hforgets : (k.modifyTask id Task.withoutWait).Twins R
      (k'.modifyTask id Task.withoutWait) :=
    h.modifyTask (h.tasks id).withoutWait fun queue hwaits => by cases hwaits
  exact hforgets.update
    (fun k => k.putBlockedLinks (k.links.blocked.put id none))
    fun _ _ _ => rfl

/-- Nobody is blocked in either kernel, or the same task comes off in both. -/
theorem popBlocked (h : k.Twins R k') (resource : Resource) :
    (k.popBlocked? resource = none ∧ k'.popBlocked? resource = none) ∨
      ∃ id k₁ k₁', k.popBlocked? resource = some (id, k₁) ∧
        k'.popBlocked? resource = some (id, k₁') ∧ k₁.Twins R k₁' := by
  unfold popBlocked?
  rw [h.blockedChain_eq, h.links_eq]
  cases (k.blockedChain resource).popFront? k.links.blocked with
  | none => exact Or.inl ⟨rfl, rfl⟩
  | some popped =>
      exact Or.inr ⟨popped.1, _, _, rfl, rfl,
        (h.putBlocked resource popped.2).settle resource⟩

theorem leaveReady (h : k.Twins R k') (id : TaskId) :
    TwinKernels R (k.leaveReady id) (k'.leaveReady id) := by
  unfold Kernel.leaveReady
  rw [h.ready_eq, h.links_eq]
  cases k.ready.erase? k.links.queue id with
  | none => exact .stopped h .assertion
  | some changed =>
      exact .ok (h.update (fun k => k.putReady changed) fun _ _ _ => rfl)

theorem leaveWaiting (h : k.Twins R k') (id : TaskId) :
    TwinKernels R (k.leaveWaiting id) (k'.leaveWaiting id) := by
  unfold Kernel.leaveWaiting
  rw [h.waiting_eq, h.links_eq]
  cases k.waiting.erase? k.links.queue id with
  | none => exact .stopped h .assertion
  | some changed =>
      exact .ok (h.update (fun k => k.putWaiting changed) fun _ _ _ => rfl)

theorem leaveBlocked (h : k.Twins R k') (id : TaskId) (resource : Resource) :
    TwinKernels R (k.leaveBlocked id resource)
      (k'.leaveBlocked id resource) := by
  unfold Kernel.leaveBlocked
  rw [h.blockedChain_eq, h.links_eq]
  cases (k.blockedChain resource).erase? k.links.blocked id with
  | none => exact .stopped h .assertion
  | some changed => exact .ok ((h.putBlocked resource changed).settle resource)

theorem unblock (h : k.Twins R k') (id : TaskId) :
    TwinKernels R (k.unblock id) (k'.unblock id) := by
  unfold Kernel.unblock
  rw [(h.tasks id).waitsFor_eq]
  cases (k.task id).waitsFor with
  | none => exact .ok (h.forgetWait id)
  | some resource =>
      exact (h.leaveBlocked id resource).bind fun _ _ _ hleft =>
        .ok (hleft.forgetWait id)

theorem reinstate (h : k.Twins R k') (id : TaskId) :
    TwinKernels R (k.reinstate id) (k'.reinstate id) := by
  have hready : ∀ k k' : Kernel, k.Twins R k' → TwinKernels R
      (.ok ((k.modifyTask id fun task =>
        { task with deadline := 0, status := .ready }).joinReady id))
      (.ok ((k'.modifyTask id fun task =>
        { task with deadline := 0, status := .ready }).joinReady id)) :=
    fun k k' h =>
      .ok ((h.modifyTask_same (fun _ _ _ _ _ => rfl) rfl rfl).joinReady id)
  refine (h.unblock id).bind fun k₁ k₁' _ h₁ => ?_
  rw [(h₁.tasks id).status_eq]
  split
  · exact (h₁.leaveWaiting id).bind fun k₂ k₂' _ h₂ => hready k₂ k₂' h₂
  · exact hready k₁ k₁' h₁

theorem standDown (h : k.Twins R k') (id : TaskId) :
    TwinKernels R (k.standDown id) (k'.standDown id) := by
  unfold Kernel.standDown
  rw [(h.tasks id).status_eq]
  cases (k.task id).status with
  | active | ready => exact .ok (h.setStatus .ready)
  | waiting =>
      exact (h.leaveReady id).bind fun _ _ _ hleft => .ok (hleft.joinWaiting id)
  | suspended | finished => exact h.leaveReady id

/-! ### Choosing the next task -/

theorem dispatch (h : k.Twins R k') (id : TaskId) :
    TwinKernels R (k.dispatch id) (k'.dispatch id) := by
  unfold Kernel.dispatch
  refine .require h (by rw [h.scheduled_eq]) fun _ => ?_
  rw [h.running_eq]
  cases k.running with
  | none => exact .stopped h .assertion
  | some previous =>
      refine .require h rfl fun _ => ?_
      rw [(h.tasks id).status_eq]
      have harrives : TwinKernels R
          (if (k.task id).status = .waiting then k.reinstate id
            else k.unblock id)
          (if (k.task id).status = .waiting then k'.reinstate id
            else k'.unblock id) := by
        split
        · exact h.reinstate id
        · exact h.unblock id
      refine Mirrors.ite_bind (harrives.bind fun k₁ k₁' _ h₁ => ?_)
      refine .require h₁ (by rw [(h₁.tasks id).status_eq]) fun _ => ?_
      refine (h₁.standDown previous).bind fun k₂ k₂' _ h₂ => ?_
      have hscheduled : Kernel.Twins R
          { k₂.setStatus id .active with scheduled := some id }
          { k₂'.setStatus id .active with scheduled := some id } :=
        (h₂.setStatus .active).update (fun k => { k with scheduled := some id })
          fun _ _ _ => rfl
      refine Mirrors.checkGuard hscheduled
        (Mirrors.checkGuard hscheduled (.ok ?_))
      have hasked := hscheduled.update
        (fun k => { k with platform := k.platform.askForSwitch }) fun _ _ _ =>
        rfl
      exact hasked

theorem dueTask_eq (h : k.Twins R k') : k'.dueTask = k.dueTask := by
  unfold dueTask
  rw [h.waiting_eq, h.platform_eq]
  cases k.waiting.head with
  | none => rfl
  | some id =>
      dsimp only
      rw [(h.tasks id).deadline_eq]

/-- Who is picked depends on priorities and statuses only. -/
theorem decision_eq (h : k.Twins R k') (current : TaskId) :
    k'.decision current = k.decision current := by
  have hrunnable : ∀ id, (k'.task id).isRunnable = (k.task id).isRunnable :=
    fun id => by
    rw [Task.isRunnable, (h.tasks id).status_eq, Task.isRunnable]
  have houtranks : ∀ id other, (k'.task id).outranks (k'.task other) =
      (k.task id).outranks (k.task other) := fun id other => by
    rw [Task.outranks, (h.tasks id).priority_eq, (h.tasks other).priority_eq,
      Task.outranks]
  have hpreferred : k'.preferred = k.preferred := by
    funext best other
    simp only [preferred, hrunnable, houtranks]
  simp only [decision, mostUrgent, rotation, hpreferred, h.readyIds_eq,
    hrunnable, houtranks]

theorem schedule (h : k.Twins R k') : TwinKernels R k.schedule k'.schedule := by
  unfold Kernel.schedule
  rw [h.phase_eq]
  split
  · exact .ok h
  rw [h.running_eq]
  cases k.running with
  | none => exact .stopped h .assertion
  | some current =>
      refine Mirrors.checkGuard h ?_
      rw [h.scheduled_eq]
      split
      · exact .ok h
      refine .require h (by rw [h.readyIds_eq]) fun _ => ?_
      rw [h.dueTask_eq]
      cases k.dueTask with
      | some due => exact h.dispatch due
      | none =>
          dsimp only
          rw [h.decision_eq]
          cases k.decision current with
          | stay => exact .ok h
          | switchTo next => exact h.dispatch next
          | stuck => exact .stopped h .assertion

theorem giveUp (h : k.Twins R k') (id : TaskId) :
    TwinKernels R (k.giveUp id) (k'.giveUp id) := by
  unfold Kernel.giveUp
  rw [h.scheduled_eq]
  split
  · exact h.schedule
  · exact h.standDown id

theorem sleep (h : k.Twins R k') (timeout : Tick) (flag : WaitFlag) :
    TwinKernels R (k.sleep timeout flag) (k'.sleep timeout flag) := by
  unfold Kernel.sleep
  rw [h.running_eq]
  cases k.running with
  | none => exact .stopped h .assertion
  | some current =>
      refine .require h (by rw [h.idle_eq]) fun _ => ?_
      rw [h.platform_eq]
      exact (h.modifyTask_same (fun _ _ _ _ _ => rfl) rfl rfl).giveUp current

/-- A task is woken by replies that tell the same. -/
theorem wake (h : k.Twins R k') (id : TaskId) {reply reply' : Reply}
    (hreply : reply.Twins R reply') :
    TwinKernels R (k.wake id reply) (k'.wake id reply') := by
  have hpromised :
      (k.modifyTask id fun task => { task with pending := some reply }).Twins R
      (k'.modifyTask id fun task => { task with pending := some reply' }) :=
    h.modifyTask ((h.tasks id).promise hreply) fun queue hwaits hside =>
      h.stashed id queue hwaits hside
  unfold Kernel.wake
  dsimp only
  rw [hpromised.scheduled_eq]
  split
  · exact hpromised.dispatch id
  · exact hpromised.reinstate id

theorem wakeUp (h : k.Twins R k') (id : TaskId) {reply reply' : Reply}
    (hreply : reply.Twins R reply') :
    TwinKernels R ((k.forgetWait id).wake id reply)
      ((k'.forgetWait id).wake id reply') :=
  (h.forgetWait id).wake id hreply

/-! ### The register switch -/

/-- A reply is written into the frame that its task resumes from. -/
theorem deliver (h : k.Twins R k') (id : TaskId) :
    (k.deliver id).Twins R (k'.deliver id) := by
  unfold Kernel.deliver
  have hpending := (h.tasks id).pending
  generalize (k.task id).pending = pending at hpending ⊢
  generalize (k'.task id).pending = pending' at hpending ⊢
  cases hpending with
  | none => exact h
  | @some reply reply' hreply =>
      have hhanded : (k.modifyTask id fun task =>
          { task with pending := none, delivered := some reply }).Twins R
            (k'.modifyTask id fun task =>
              { task with pending := none, delivered := some reply' }) :=
        h.modifyTask ((h.tasks id).handOver hreply) fun queue hwaits hside =>
          h.stashed id queue hwaits hside
      dsimp only
      generalize k.modifyTask id (fun task =>
        { task with pending := none, delivered := some reply }) =
          k₁ at hhanded ⊢
      generalize k'.modifyTask id (fun task =>
        { task with pending := none, delivered := some reply' }) =
          k₁' at hhanded ⊢
      rw [(hhanded.tasks id).savedAt_eq]
      cases hsaved : (k₁.task id).savedAt with
      | none => exact hhanded
      | some pointer =>
          obtain ⟨rfl, hroom⟩ := (hhanded.tasks id).place pointer hsaved
          have hstack := (hhanded.tasks pointer.owner).stack
          rw [hsaved] at hstack
          have hwritten := hstack.writeReply hroom hreply
          rw [← hsaved] at hwritten
          exact hhanded.modifyTask
            ((hhanded.tasks pointer.owner).putStack hwritten
            (Frame.size_writeReply ..)) fun queue hwaits hside =>
              hhanded.stashed pointer.owner queue hwaits hside

theorem takeScheduled (h : k.Twins R k') :
    k.takeScheduled.Twins R k'.takeScheduled := by
  unfold Kernel.takeScheduled
  rw [h.scheduled_eq]
  cases k.scheduled with
  | none => exact h
  | some next =>
      exact h.update
        (fun k => { k with running := some next, scheduled := none })
        fun _ _ _ => rfl

/-- The frame that is stored for the running task is stored once more. -/
theorem saveRunning (h : k.Twins R k') {pointer : StackPointer}
    (hstored : ∀ id, k.running = some id → (k.task id).savedAt = some pointer) :
    (k.saveRunning pointer).Twins R (k'.saveRunning pointer) := by
  unfold Kernel.saveRunning
  rw [h.running_eq]
  cases hrunning : k.running with
  | none => exact h
  | some id =>
      exact h.modifyTask_same (fun _ _ _ _ _ => rfl)
        (hstored id hrunning).symm rfl

theorem resumeRunning (h : k.Twins R k') (saved : Option StackPointer) :
    (k.resumeRunning saved).2.Twins R (k'.resumeRunning saved).2 := by
  unfold Kernel.resumeRunning
  rw [h.running_eq]
  cases k.running with
  | none => exact h
  | some id => exact h.deliver id

theorem switchOver (h : k.Twins R k') :
    Beside R Eq k.switchOver k'.switchOver := by
  have hsaved : (k'.running.bind fun id => (k'.task id).savedAt) =
      k.running.bind fun id => (k.task id).savedAt := by
    rw [h.running_eq]
    exact congrArg k.running.bind (funext fun id => (h.tasks id).savedAt_eq)
  unfold Kernel.switchOver
  dsimp only
  rw [hsaved, h.scheduled_eq]
  split
  · exact ⟨rfl, h⟩
  refine ⟨rfl, ?_⟩
  cases hstored : k.running.bind fun id => (k.task id).savedAt with
  | none => exact h.takeScheduled.resumeRunning none
  | some pointer =>
      have hframe : ∀ id, k.running = some id →
          (k.task id).savedAt = some pointer := by
        intro id hid
        rwa [hid] at hstored
      unfold Kernel.switchFrom
      dsimp only
      rw [h.scheduled_eq]
      split
      · exact h
      · exact (h.saveRunning hframe).takeScheduled.resumeRunning (some pointer)

theorem beat (h : k.Twins R k') : TwinResults R k.beat k'.beat := by
  have hadvanced :=
    h.update (fun k => { k with platform := k.platform.advance 1 })
    fun _ _ _ => rfl
  exact hadvanced.schedule.bind fun _ _ _ hticked => .ok hticked.switchOver

end Twins

end Kernel

end TickKernel
