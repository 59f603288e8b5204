/-
Guards gate every switch.  Whatever was written on the stacks, a call asks the
platform for a switch only while the guards of the task on the processor and of
the one that is to come are undamaged; otherwise the call that would have asked
stops the machine.  What it would have done is what it does on the mended
kernel, where every guard was put back.  A tick looks at the guard of the task
on the processor in any case.  No other guard makes a difference to a call.
-/
import TickKernel.Proofs.Contexts
import TickKernel.Proofs.Gates
import TickKernel.Proofs.Scanning

namespace TickKernel

/-- The call is a scheduling point of its own, and not one that another call
comes to. -/
def Call.IsTick (call : Call) : Prop :=
  call = .tick ∨ call = .schedule ∨ call = .beat

theorem Call.not_isTick_of_ofService {number : UInt32} {args : Arguments}
    {call : Call} (h : Call.ofService number args = some call) :
    ¬call.IsTick := by
  have hservice := Call.isService_of_ofService h
  rintro (rfl | rfl | rfl) <;> cases hservice

namespace Kernel

variable {tick : Prop} {k k' : Kernel} {stack : TaskId → Stack} {id : TaskId}

/-! ### Kernels that are the same but for the stacks -/

namespace Restacks

theorem refl (k : Kernel) : k.Restacks k :=
  ⟨rfl, fun _ => rfl⟩

theorem trans {k'' : Kernel} (h : k.Restacks k') (h' : k'.Restacks k'') :
    k.Restacks k'' := by
  constructor
  · rw [h'.rest, h.rest]
  · intro id
    rw [h'.task id, h.task id]

theorem eq_restacked (h : k.Restacks k') :
    k' = k.restacked fun id => (k'.task id).stack := by
  have htasks : k'.tasks = (k.restacked fun id => (k'.task id).stack).tasks :=
    Pool.ext_slot fun id => by
      change k'.task id = (k.restacked _).task id
      rw [task_restacked]
      exact h.task id
  rw [h.rest]
  exact congrArg (fun tasks => { k with tasks }) htasks

theorem oblivious {change : Kernel → Kernel} (h : k.Restacks k')
    (hchange : Oblivious change) :
    (change k).Restacks (change k') := by
  rw [h.eq_restacked, hchange.restacked_eq]
  exact restacks_restacked _ _

/-- What is done to both without looking at their tasks. -/
theorem update (h : k.Restacks k') (f : Kernel → Kernel)
    (hf : ∀ k tasks, f { k with tasks } = { f k with tasks }) :
    (f k).Restacks (f k') := by
  have hkept : ∀ k, f k = { f k with tasks := k.tasks } := fun k => hf k k.tasks
  have htasks : ∀ k, (f k).tasks = k.tasks := fun k => by rw [hkept]
  have htask : ∀ k id, (f k).task id = k.task id := fun k id => by
    rw [Kernel.task, htasks, Kernel.task]
  constructor
  · rw [htasks, ← hf, ← h.rest]
  · intro id
    rw [htask, htask]
    exact h.task id

theorem modifyTask (h : k.Restacks k') {f f' : Task → Task}
    (hf : f' (k'.task id) =
      { f (k.task id) with stack := (f' (k'.task id)).stack }) :
    (k.modifyTask id f).Restacks (k'.modifyTask id f') := by
  constructor
  · exact congrArg (fun k : Kernel => { k with tasks := k'.tasks.modify id f' })
      h.rest
  · intro other
    rw [task_modifyTask, task_modifyTask]
    split
    · exact hf
    · exact h.task other

end Restacks

/-! ### The register switch -/

/-- A reply is written into the frame that its task resumes from. -/
theorem Restacks.deliver (h : k.Restacks k') (id : TaskId) :
    (k.deliver id).Restacks (k'.deliver id) := by
  unfold Kernel.deliver
  rw [h.task id]
  cases (k.task id).pending with
  | none => exact h
  | some reply =>
      have hhanded : (k.modifyTask id fun task =>
          { task with pending := none, delivered := some reply }).Restacks
            (k'.modifyTask id fun task =>
              { task with pending := none, delivered := some reply }) :=
        h.oblivious (oblivious_modifyTask id fun _ _ => rfl)
      dsimp only
      rw [hhanded.task id]
      cases ((k.modifyTask id fun task =>
          { task with pending := none, delivered := some reply }).task
            id).savedAt with
      | none => exact hhanded
      | some pointer =>
          exact hhanded.modifyTask (by rw [hhanded.task])

theorem Restacks.takeScheduled (h : k.Restacks k') :
    k.takeScheduled.Restacks k'.takeScheduled := by
  have hscheduled : k'.scheduled = k.scheduled := by rw [h.rest]
  unfold Kernel.takeScheduled
  rw [hscheduled]
  cases k.scheduled with
  | none => exact h
  | some next =>
      exact h.update
        (fun k => { k with running := some next, scheduled := none })
        fun _ _ => rfl

theorem Restacks.saveRunning (h : k.Restacks k') (pointer : StackPointer) :
    (k.saveRunning pointer).Restacks (k'.saveRunning pointer) := by
  have hrunning : k'.running = k.running := by rw [h.rest]
  unfold Kernel.saveRunning
  rw [hrunning]
  cases k.running with
  | none => exact h
  | some id => exact h.oblivious (oblivious_modifyTask id fun _ _ => rfl)

theorem Restacks.resumeRunning (h : k.Restacks k')
    (saved : Option StackPointer) :
    Alongside (k.resumeRunning saved) (k'.resumeRunning saved) := by
  have hrunning : k'.running = k.running := by rw [h.rest]
  unfold Kernel.resumeRunning
  rw [hrunning]
  cases k.running with
  | none => exact ⟨rfl, h⟩
  | some id =>
      have hdelivered := h.deliver id
      exact ⟨by dsimp only; rw [hdelivered.task id], hdelivered⟩

theorem Restacks.switchFrom (h : k.Restacks k') (saved : Option StackPointer) :
    Alongside (k.switchFrom saved) (k'.switchFrom saved) := by
  have hscheduled : k'.scheduled = k.scheduled := by rw [h.rest]
  unfold Kernel.switchFrom
  cases saved with
  | none => exact h.takeScheduled.resumeRunning none
  | some pointer =>
      dsimp only
      rw [hscheduled]
      split
      · exact ⟨rfl, h⟩
      · exact (h.saveRunning pointer).takeScheduled.resumeRunning (some pointer)

theorem Restacks.switchOver (h : k.Restacks k') :
    Alongside k.switchOver k'.switchOver := by
  have hscheduled : k'.scheduled = k.scheduled := by rw [h.rest]
  have hrunning : k'.running = k.running := by rw [h.rest]
  have hsaved : (k'.running.bind fun id => (k'.task id).savedAt) =
      k.running.bind fun id => (k.task id).savedAt := by
    rw [hrunning]
    exact congrArg _ (funext fun id => by rw [h.task id])
  unfold Kernel.switchOver
  dsimp only
  rw [hscheduled, hsaved]
  split
  · exact ⟨rfl, h⟩
  · exact ⟨rfl, (h.switchFrom _).2⟩

/-- Who is on the way to the processor, and the platform: a switch changes
neither. -/
def heading (k : Kernel) : Option TaskId × Platform :=
  (k.scheduled.or k.running, k.platform)

theorem Restacks.heading_eq (h : k.Restacks k') : k'.heading = k.heading := by
  rw [h.rest]
  rfl

theorem heading_deliver (k : Kernel) (id : TaskId) :
    (k.deliver id).heading = k.heading := by
  unfold deliver
  split
  · rfl
  · dsimp only
    split <;> rfl

theorem heading_takeScheduled (k : Kernel) :
    k.takeScheduled.heading = k.heading := by
  unfold takeScheduled
  cases hscheduled : k.scheduled with
  | none => rfl
  | some next =>
      rw [heading, heading, hscheduled]
      rfl

theorem heading_saveRunning (k : Kernel) (pointer : StackPointer) :
    (k.saveRunning pointer).heading = k.heading := by
  unfold saveRunning
  split <;> rfl

theorem heading_resumeRunning (k : Kernel) (saved : Option StackPointer) :
    (k.resumeRunning saved).2.heading = k.heading := by
  unfold resumeRunning
  split
  · rfl
  · exact heading_deliver k _

theorem heading_switchFrom (k : Kernel) (saved : Option StackPointer) :
    (k.switchFrom saved).2.heading = k.heading := by
  unfold switchFrom
  cases saved with
  | none => rw [heading_resumeRunning, heading_takeScheduled]
  | some pointer =>
      dsimp only
      split
      · rfl
      · rw [heading_resumeRunning, heading_takeScheduled, heading_saveRunning]

theorem heading_switchOver (k : Kernel) :
    k.switchOver.2.heading = k.heading := by
  unfold switchOver
  split
  · rfl
  · exact heading_switchFrom k _

/-! ### The life of a kernel -/

theorem gated_setUp (k : Kernel) (stack : TaskId → Stack) :
    GatedCall tick k (.ok k.setUp) (.ok (k.restacked stack).setUp) := by
  unfold setUp
  rw [phase_restacked]
  split
  · exact .done (k := { k with phase := .prepared }) _ rfl
  · exact .done _ rfl

theorem gated_launch (k : Kernel) (stack : TaskId → Stack) :
    GatedCall tick k (.ok k.launch) (.ok (k.restacked stack).launch) := by
  have hbrought : k.broughtUp.Restacks (k.restacked stack).broughtUp :=
    (restacks_restacked k stack).update broughtUp fun _ _ => rfl
  unfold launch
  rw [platform_restacked, ready_restacked]
  cases Platform.outcome k.platform.setupFailure with
  | error error => exact .answers _ hbrought rfl
  | ok _ =>
      dsimp only
      cases k.ready.head with
      | none => exact .answers _ hbrought rfl
      | some first =>
          have hactive := hbrought.oblivious (oblivious_setStatus first .active)
          have hentered := hactive.update (fun k => { k with
            running := some first
            scheduled := none
            phase := .started
            platform := k.platform.enterFirst.2 }) fun _ _ => rfl
          have hanswer : ((k.restacked stack).broughtUp.enter first).1 =
              (k.broughtUp.enter first).1 := rfl
          have hrequests : (k.broughtUp.enter first).2.platform.requests =
              k.platform.requests := rfl
          exact .quiet ⟨hanswer, hentered⟩ hrequests

theorem gated_start (k : Kernel) (stack : TaskId → Stack) :
    GatedCall tick k (.ok k.start) (.ok (k.restacked stack).start) := by
  rw [start_eq, start_eq, phase_restacked]
  cases k.phase with
  | blank | prepared | started => exact .done _ rfl
  | populated => exact gated_launch k stack

theorem Restacks.enrol (h : k.Restacks k') (spec : TaskSpec) (stack : Stack)
    (offset : Nat) :
    (k.enrol id spec stack offset).Restacks
      (k'.enrol id spec stack offset) := by
  have hidle : k'.idle = k.idle := by rw [h.rest]
  let task (status : TaskStatus) : Task :=
    { Task.vacant with
      name := spec.name
      status
      priority := if k.idle.isNone then Priority.idle else spec.priority
      entry := spec.entry
      param := spec.param
      stack
      savedAt := some ⟨id, offset⟩ }
  have hfilled : ∀ status, (k.modifyTask id fun _ => task status).Restacks
      (k'.modifyTask id fun _ => task status) := fun _ => h.modifyTask rfl
  have henrolled := fun status => (hfilled status).update (fun k₁ => { k₁ with
      taskCount := k₁.taskCount + 1
      idle := if k.idle.isNone then some id else k.idle
      links := { k₁.links.unlink id with
        all := (k₁.all.pushFront (k₁.links.unlink id).all id).2 }
      all := (k₁.all.pushFront (k₁.links.unlink id).all id).1
      phase := .populated }) fun _ _ => rfl
  unfold Kernel.enrol
  rw [hidle]
  cases spec.mode with
  | running => exact (henrolled .ready).oblivious (oblivious_joinReady id)
  | suspended => exact henrolled .suspended

theorem gated_register (k : Kernel) (stack : TaskId → Stack) (spec : TaskSpec) :
    GatedCall tick k (k.register spec) ((k.restacked stack).register spec) := by
  have hadmission : (k.restacked stack).admission spec = k.admission spec := rfl
  unfold register
  rw [hadmission, platform_restacked]
  cases k.admission spec with
  | error error => exact .done _ rfl
  | ok id =>
      dsimp only
      cases spec.stack.prepare k.platform.seeded spec.entry spec.param
        k.platform.exitAddress
          (UInt64.ofNat id.val) with
      | error fault => exact .halts rfl fault
      | ok prepared =>
          cases prepared with
          | error error => exact .done _ rfl
          | ok placed =>
              have hrequests :
                  (k.enrol id spec placed.1 placed.2).platform.requests =
                  k.platform.requests := by
                unfold enrol
                cases spec.mode <;> rfl
              exact .answers _
                ((restacks_restacked k stack).enrol spec placed.1 placed.2)
                hrequests

theorem gated_spin (k : Kernel) (stack : TaskId → Stack) (ticks : Tick) :
    GatedCall tick k (.ok (k.spin ticks))
      (.ok ((k.restacked stack).spin ticks)) := by
  have hadvanced := (restacks_restacked k stack).update
    (fun k => { k with platform := k.platform.advance ticks }) fun _ _ => rfl
  unfold spin
  rw [phase_restacked]
  split
  · exact .done _ rfl
  · exact .answers _ hadvanced rfl

/-! ### Every call -/

/-- The clock moves first, which no guard depends on, and the switch takes place
last. -/
theorem gated_beat (hmends : k.MendedBy stack) (htick : tick) :
    GatedCall tick k k.beat (k.restacked stack).beat := by
  have hticked : GatedRule tick { k with platform := k.platform.advance 1 }
      { k with platform := k.platform.advance 1 }.tick
      ({ k with platform := k.platform.advance 1 }.restacked stack).tick :=
    gated_schedule rfl hmends htick
  have hbased :
      GatedRule tick k { k with platform := k.platform.advance 1 }.tick
      ({ k with platform := k.platform.advance 1 }.restacked stack).tick :=
    hticked.rebase rfl rfl rfl fun _ => rfl
  exact hbased.map (f := switchOver) (fun _ _ h => h.switchOver)
    (fun k => congrArg Prod.fst k.heading_switchOver)
    fun k => congrArg (fun heading => heading.2.requests) k.heading_switchOver

theorem GatedCall.toAnswer {α : Type} {result result' : Except Halt (Verdict α)}
    (h : GatedCall tick k result result') (answer : Except Error α → Answer) :
    GatedCall tick k (answering answer <$> result)
      (answering answer <$> result') :=
  h.map (fun _ _ h => ⟨congrArg answer h.1, h.2⟩) (fun _ => rfl) fun _ => rfl

theorem GatedRule.toNothing {result result' : Except Halt Kernel}
    (h : GatedRule tick k result result') :
    GatedCall tick k ((fun k => (Answer.nothing, k)) <$> result)
      ((fun k => (Answer.nothing, k)) <$> result') :=
  h.map (fun _ _ h => ⟨rfl, h⟩) (fun _ => rfl) fun _ => rfl

/-- Whatever call is made that is no service, in whatever state the stacks
are. -/
theorem gated_performDirect (hmends : k.MendedBy stack) (call : Call)
    (hcall : ∀ number args, call ≠ .serve number args)
    (htick : call.IsTick → tick) :
    GatedCall tick k (k.perform call) ((k.restacked stack).perform call) := by
  have hsame : k.Restacks (k.restacked stack) := restacks_restacked k stack
  cases call with
  | setUp => exact GatedCall.toAnswer (gated_setUp k stack) .unit
  | register spec =>
      exact GatedCall.toAnswer (gated_register k stack spec) .task
  | start => exact GatedCall.toAnswer (gated_start k stack) .unit
  | tearDown => exact .answers _ (.refl _) rfl
  | advance ticks =>
      exact .answers _
        (hsame.update (fun k => { k with platform := k.platform.advance ticks })
        fun _ _ => rfl) rfl
  | setClock ticks =>
      exact .answers _
        (hsame.update (fun k => { k with platform.clock := ticks })
        fun _ _ => rfl) rfl
  | setHooks setupFailure entryFailure =>
      exact .answers _ (hsame.update (fun k => { k with
        platform.setupFailure := setupFailure
        platform.entryFailure := entryFailure }) fun _ _ => rfl) rfl
  | tick =>
      exact GatedRule.toNothing (gated_schedule rfl hmends (htick (Or.inl rfl)))
  | schedule =>
      exact GatedRule.toNothing
        (gated_schedule rfl hmends (htick (Or.inr (Or.inl rfl))))
  | switchOver =>
      have hover := hsame.switchOver
      refine .quiet ⟨congrArg Answer.flag hover.1, hover.2⟩ ?_
      exact congrArg (fun heading => heading.2.requests) k.heading_switchOver
  | beat =>
      exact (gated_beat hmends (htick (Or.inr (Or.inr rfl)))).map
        (fun _ _ h => ⟨congrArg Answer.flag h.1, h.2⟩)
        (fun _ => rfl) fun _ => rfl
  | switchFrom saved =>
      have hswitched := hsame.switchFrom saved
      refine .quiet ⟨congrArg Answer.frame hswitched.1, hswitched.2⟩ ?_
      exact congrArg (fun heading => heading.2.requests)
        (k.heading_switchFrom saved)
  | exitRoutine => exact .done _ rfl
  | delay ticks => exact GatedCall.toAnswer (gated_delay rfl hmends ticks) .unit
  | spin ticks => exact GatedCall.toAnswer (gated_spin k stack ticks) .unit
  | suspend id => exact GatedCall.toAnswer (gated_suspend rfl hmends id) .unit
  | resume id => exact GatedCall.toAnswer (gated_resume rfl id) .unit
  | finish => exact GatedRule.toNothing (gated_finish rfl hmends)
  | createMutex => exact GatedCall.toAnswer (gated_createMutex rfl) .mutex
  | acquire id timeout =>
      exact GatedCall.toAnswer (gated_acquire rfl hmends id timeout) .unit
  | release id => exact GatedCall.toAnswer (gated_release rfl hmends id) .unit
  | createQueue capacity =>
      exact GatedCall.toAnswer (gated_createQueue rfl capacity) .queue
  | send id message timeout =>
      exact GatedCall.toAnswer (gated_send rfl hmends id message timeout) .unit
  | receive id timeout =>
      exact GatedCall.toAnswer (gated_receive rfl hmends id timeout) .message
  | serve number args => exact absurd rfl (hcall number args)
  | poke id index word =>
      exact .answers _ (hsame.modifyTask (by rw [hsame.task])) rfl

theorem gated_perform (hmends : k.MendedBy stack) (call : Call) :
    GatedCall call.IsTick k (k.perform call)
      ((k.restacked stack).perform call) := by
  by_cases hserve : ∃ number args, call = .serve number args
  swap
  · exact gated_performDirect hmends call
      (fun number args heq => hserve ⟨number, args, heq⟩) id
  obtain ⟨number, args, rfl⟩ := hserve
  cases hcall : Call.ofService number args with
  | none =>
      obtain ⟨reply, hperform⟩ := perform_unserved hcall
      rw [hperform, hperform]
      exact .done _ rfl
  | some call =>
      rw [perform_serve hcall, perform_serve hcall]
      have htick : ¬call.IsTick := Call.not_isTick_of_ofService hcall
      exact (gated_performDirect hmends call (Call.ofService_ne_serve hcall)
        fun h => absurd h htick).map
        (fun _ _ h =>
          ⟨congrArg (fun answer : Answer => Answer.reply answer.toReply) h.1,
            h.2⟩)
        (fun _ => rfl) fun _ => rfl

/-! ### The mended kernel -/

/-- The kernel after the guard pattern was written where the guard of every
stack lies.  Irreducible: it is read through `words_mended` and
`restacks_mended`. -/
@[irreducible] def mended (k : Kernel) : Kernel :=
  (List.finRange maxTasks).foldl (fun k id => k.poke id 0 Stack.guardPattern) k

theorem restacks_poke (k : Kernel) (id : TaskId) (index : Nat) (word : Word) :
    k.Restacks (k.poke id index word) := by
  refine ⟨rfl, fun other => ?_⟩
  rw [poke, modifyStack, task_modifyTask]
  split
  · rename_i heq
    rw [heq]
  · rfl

theorem restacks_mended (k : Kernel) : k.Restacks k.mended := by
  unfold mended
  generalize List.finRange maxTasks = ids
  induction ids generalizing k with
  | nil => exact .refl k
  | cons id rest ih =>
      exact (restacks_poke k id 0 Stack.guardPattern).trans (ih _)

/-- Writing the pattern twice is writing it once. -/
theorem words_foldl_poke (ids : List TaskId) (k : Kernel) (id : TaskId) :
    (ids.foldl (fun k id => k.poke id 0 Stack.guardPattern) k).stackWords id =
      if id ∈ ids then (k.stackWords id).setIfInBounds 0 Stack.guardPattern
      else k.stackWords id := by
  induction ids generalizing k with
  | nil => rfl
  | cons first rest ih =>
      rw [List.foldl_cons, ih]
      by_cases hfirst : first = id
      · subst hfirst
        have hpoked : (k.poke first 0 Stack.guardPattern).stackWords first =
            (k.stackWords first).setIfInBounds 0 Stack.guardPattern := by
          rw [stackWords, poke, modifyStack, task_modifyTask, if_pos rfl]
          rfl
        rw [hpoked, if_pos List.mem_cons_self,
          Array.setIfInBounds_setIfInBounds, ite_self]
      · have hkept : (k.poke first 0 Stack.guardPattern).stackWords id =
            k.stackWords id := by
          rw [stackWords, task_poke_of_ne _ _ hfirst]
          rfl
        rw [hkept]
        simp only [List.mem_cons, Ne.symm hfirst, false_or]

theorem words_mended (k : Kernel) (id : TaskId) :
    k.mended.stackWords id = (k.stackWords id).setIfInBounds 0
      Stack.guardPattern := by
  rw [mended, words_foldl_poke, if_pos (List.mem_finRange id)]

/-- The pattern is there, or no stack. -/
theorem isGuarded_mended (k : Kernel) (id : TaskId)
    (h : (k.task id).isGuarded = true ∨ 0 < (k.stackWords id).size) :
    (k.mended.task id).isGuarded = true := by
  change ((k.mended.stackWords id).getD 0 0 == Stack.guardPattern) = true
  rw [words_mended, getD_setIfInBounds]
  split
  · rfl
  · rename_i hempty
    exact h.resolve_right fun hroom => hempty ⟨rfl, hroom⟩

theorem gated_mended (k : Kernel) (call : Call) :
    GatedCall call.IsTick k (k.perform call) (k.mended.perform call) := by
  have hmends : k.MendedBy fun id => (k.mended.task id).stack := fun id h => by
    rw [← Task.isGuarded_eq]
    exact isGuarded_mended k id (Or.inl h)
  rw [(restacks_mended k).eq_restacked]
  exact gated_perform hmends call

/-- The switch that the call asks for when every guard is in place: who leaves
the processor, and who comes. -/
def selection (k : Kernel) (call : Call) : Option (TaskId × TaskId) :=
  match k.mended.perform call with
  | .error _ => none
  | .ok (_, k') =>
      if k'.platform.requests = k.platform.requests then none
      else k.running.bind fun previous =>
        (k'.scheduled.or k'.running).map fun target => (previous, target)

theorem selection_eq_some {call : Call} {previous target : TaskId} :
    k.selection call = some (previous, target) ↔ ∃ answer k',
      k.mended.perform call = .ok (answer, k') ∧
        k'.platform.requests ≠ k.platform.requests ∧ k.running = some previous ∧
          k'.scheduled.or k'.running = some target := by
  unfold selection
  constructor
  · intro h
    split at h
    · cases h
    rename_i answer k' hperform
    split at h
    · cases h
    rename_i hasked
    obtain ⟨other, hrunning, hnext⟩ := Option.bind_eq_some_iff.mp h
    obtain ⟨next, hnext, hpair⟩ := Option.map_eq_some_iff.mp hnext
    cases hpair
    exact ⟨answer, k', hperform, hasked, hrunning, hnext⟩
  · rintro ⟨answer, k', hperform, hasked, hrunning, hnext⟩
    rw [hperform]
    dsimp only
    rw [if_neg hasked, hrunning, hnext]
    rfl

end Kernel

/-! ### Gatekeeping -/

/-- Two calls that come to the same: to the same answer and to kernels that
differ in their stacks at most, or to a stop for the same reason. -/
inductive EndsAlike :
    Except Halt (Answer × Kernel) → Except Halt (Answer × Kernel) → Prop
  | ok {answer : Answer} {k k' : Kernel} (h : k.Restacks k') :
      EndsAlike (.ok (answer, k)) (.ok (answer, k'))
  | halt {stop stop' : Halt} (hfault : stop'.fault = stop.fault) :
      EndsAlike (.error stop) (.error stop')

theorem Kernel.Alongside.endsAlike {performed performed' : Answer × Kernel}
    (h : Kernel.Alongside performed performed') :
    EndsAlike (.ok performed) (.ok performed') := by
  obtain ⟨answer, k⟩ := performed
  obtain ⟨answer', k'⟩ := performed'
  obtain ⟨hanswer, hkernels⟩ := h
  obtain rfl : answer' = answer := hanswer
  exact .ok hkernels

namespace Gated

open Kernel

variable {α : Type} {tick : Prop} {base : Kernel} {rel : α → α → Prop}
  {left : α → Kernel} {result : Except Halt α}

/-- A value comes without a request, or with one past two undamaged guards. -/
theorem asks_of_ok {a : α} (h : Gated tick base rel left (.ok a) result) :
    (left a).platform.requests = base.platform.requests ∨
      ∃ previous target, base.AsksSwitch (left a) previous target ∧
        (base.task previous).isGuarded = true ∧
        (base.task target).isGuarded = true := by
  cases h with
  | quiet _ hrequests => exact Or.inl hrequests
  | asked _ hasks hprevious htarget =>
      exact Or.inr ⟨_, _, hasks, hprevious, htarget⟩

theorem requests_of_error {stop : Halt}
    (h : Gated tick base rel left (.error stop) result) :
    stop.kernel.platform.requests = base.platform.requests := by
  cases h with
  | stopped _ hrequests | leaving _ hrequests | coming _ hrequests =>
      exact hrequests

/-- Where mended stacks bring a request, a damaged guard on either side of the
switch stops the machine. -/
theorem exists_overflow {result : Except Halt (Answer × Kernel)}
    {answer : Answer} {k' : Kernel} {previous target : TaskId}
    (h : GatedCall tick base result (.ok (answer, k')))
    (hasked : k'.platform.requests ≠ base.platform.requests)
    (hruns : base.running = some previous)
    (hnext : k'.scheduled.or k'.running = some target)
    (hdamaged : (base.task previous).isGuarded = false ∨
      (base.task target).isGuarded = false) :
    ∃ left, result = .error ⟨.stackOverflow, left⟩ := by
  cases h with
  | quiet h hrequests =>
      have hsame := congrArg (fun heading => heading.2.requests) h.2.heading_eq
      exact absurd (hsame.trans hrequests) hasked
  | @asked _ _ previous' target' h hasks hprevious htarget =>
      have hsame := congrArg Prod.fst h.2.heading_eq
      obtain rfl : previous' = previous :=
        Option.some.inj (hasks.running.symm.trans hruns)
      obtain rfl : target' = target :=
        Option.some.inj (hasks.next.symm.trans (hsame.symm.trans hnext))
      rw [hprevious, htarget] at hdamaged
      rcases hdamaged with hfalse | hfalse <;> cases hfalse
  | @leaving stop _ _ hfault | @coming stop _ _ _ hfault =>
      exact ⟨stop.kernel, by rw [← hfault]⟩

end Gated

/-- What guards have to do with a call made after a history that led to the
kernel. -/
structure Gatekeeps (steps : List Step) (k : Kernel) (call : Call) : Prop where
  /-- The mended kernel is what the same history, continued by writing guards,
  leads to. -/
  mended : ∃ pokes,
    (∀ step ∈ pokes, ∃ id, step.call = .poke id 0 Stack.guardPattern) ∧
      Run (pokes ++ steps) k.mended
  guarded : k.mended.Guarded
  /-- A switch is asked for past two undamaged guards only. -/
  asks : ∀ answer k', k.perform call = .ok (answer, k') →
    k'.platform.requests = k.platform.requests ∨
      ∃ previous target, k.AsksSwitch k' previous target ∧
        (k.task previous).isGuarded = true ∧ (k.task target).isGuarded = true
  /-- And none when the machine stops. -/
  stops : ∀ stop, k.perform call = .error stop →
    stop.kernel.platform.requests = k.platform.requests
  /-- With one of the two damaged the call that would have asked stops the
  machine. -/
  catches : ∀ previous target, k.selection call = some (previous, target) →
    (k.task previous).isGuarded = false ∨ (k.task target).isGuarded = false →
      ∃ left, k.perform call = .error ⟨.stackOverflow, left⟩
  /-- A tick looks at the running task whether or not a switch is pending. -/
  ticks : call.IsTick → k.phase = .started →
    ∀ current, k.running = some current → (k.task current).isGuarded = false →
      ∃ left, k.perform call = .error ⟨.stackOverflow, left⟩
  /-- All other guards make no difference, and neither does that of the running
  task to a call that is no tick and selects nobody. -/
  spares : (call.IsTick → ∀ current, k.running = some current →
      (k.task current).isGuarded = true) →
    (∀ previous target, k.selection call = some (previous, target) →
      (k.task previous).isGuarded = true ∧ (k.task target).isGuarded = true) →
        EndsAlike (k.perform call) (k.mended.perform call)

namespace Kernel

variable {k k' : Kernel} {call : Call} {answer : Answer}

/-- A switch that is asked for is the one that was selected. -/
theorem selection_of_asks {previous target : TaskId}
    (hperform : k.mended.perform call = .ok (answer, k'))
    (hasks : k.AsksSwitch k' previous target) :
    k.selection call = some (previous, target) := by
  refine selection_eq_some.mpr ⟨answer, k', hperform, ?_, hasks.running,
    hasks.next⟩
  rw [hasks.requests]
  exact Nat.succ_ne_self _

theorem schedule_of_damaged {current : TaskId} (hstarted : k.phase = .started)
    (hrunning : k.running = some current)
    (hdamaged : (k.task current).isGuarded = false) :
    k.schedule = k.halt .stackOverflow := by
  unfold schedule
  rw [if_neg (not_not_intro hstarted), hrunning]
  dsimp only
  rw [checkGuard, if_neg (by rw [hdamaged]; exact Bool.false_ne_true)]
  rfl

/-- A tick ends where it begins, at the guard of the running task. -/
theorem perform_of_damaged (hcall : call.IsTick) (hstarted : k.phase = .started)
    (current : TaskId) (hrunning : k.running = some current)
    (hdamaged : (k.task current).isGuarded = false) :
    ∃ left, k.perform call = .error ⟨.stackOverflow, left⟩ := by
  rcases hcall with rfl | rfl | rfl
  · refine ⟨k, ?_⟩
    rw [perform, tick, schedule_of_damaged hstarted hrunning hdamaged]
    rfl
  · refine ⟨k, ?_⟩
    rw [perform, schedule_of_damaged hstarted hrunning hdamaged]
    rfl
  · refine ⟨{ k with platform := k.platform.advance 1 }, ?_⟩
    have hstops := schedule_of_damaged
      (k := { k with platform := k.platform.advance 1 }) hstarted hrunning
      hdamaged
    rw [perform, beat, tick, hstops]
    rfl

end Kernel

/-- The rules that users keep have nothing to do with the stacks. -/
theorem Kernel.Restacks.permits_eq {k k' : Kernel} (h : k.Restacks k')
    (call : Call) :
    k'.permits call = k.permits call := by
  have hable : k'.isAble = k.isAble := by
    have hrunning : k'.running = k.running := by rw [h.rest]
    have hrunnable : ∀ id, (k'.task id).isRunnable = (k.task id).isRunnable :=
      fun id => by
      rw [h.task id]
      rfl
    rw [isAble, hrunning, isAble, funext hrunnable]
  unfold permits
  rw [hable, h.rest]
  rfl

/-- Who is stopped by a guard on releasing a mutex holds it. -/
theorem Kernel.isHeldBy_of_overflow {k left : Kernel} {mutex : MutexId}
    {current : TaskId} (hmutex : k.hasMutex mutex = true)
    (hrunning : k.running = some current)
    (hstops : k.release mutex = .error ⟨.stackOverflow, left⟩) :
    (k.mutex mutex).isHeldBy current = true := by
  rw [← Bool.not_eq_false]
  intro hother
  simp only [release, hmutex, Bool.not_true, Bool.false_eq_true, if_false,
    hrunning, require, hother] at hstops
  cases hstops

/-- While no switch is pending a call that breaks the rules stops the machine
for a reason of its own, so whoever comes to a damaged guard keeps them. -/
theorem Kernel.Sound.permits_of_overflow_direct {k left : Kernel} {call : Call}
    (h : k.Sound) (hscheduled : k.scheduled = none)
    (hcall : ∀ number args, call ≠ .serve number args)
    (hstops : k.perform call = .error ⟨.stackOverflow, left⟩) :
    k.permits call = true := by
  have hable : k.isAble = true := by
    rw [isAble, Option.all_eq_true]
    intro current hrunning
    exact (Task.isRunnable_iff _).mpr
      (Or.inr (h.orderly.running_active hrunning hscheduled))
  cases call with
  | delay | acquire | send | receive => exact hable
  | release mutex =>
      simp only [permits, Call.direct, hable, Bool.true_and, Bool.or_eq_true,
        Bool.not_eq_true', Option.all_eq_true, beq_iff_eq]
      rw [or_iff_not_imp_left, Bool.not_eq_false]
      intro hmutex current hrunning
      have hheld :=
        isHeldBy_of_overflow hmutex hrunning (eq_error_of_map hstops)
      rw [Mutex.isHeldBy, Bool.and_eq_true, beq_iff_eq] at hheld
      exact hheld.2
  | finish =>
      have hfinish := eq_error_of_map hstops
      unfold finish at hfinish
      cases hrunning : k.running with
      | none =>
          rw [hrunning] at hfinish
          cases hfinish
      | some current =>
          have hstarted := h.orderly.started_of_running hrunning
          have hidle : k.idle ≠ some current := by
            intro hidle
            rw [hrunning] at hfinish
            dsimp only at hfinish
            rw [if_pos hidle] at hfinish
            cases hfinish
          simp only [permits, Call.direct, hable, hrunning, Bool.true_and,
            Bool.and_eq_true, beq_iff_eq, bne_iff_ne]
          exact ⟨hstarted, Ne.symm hidle⟩
  | poke => cases hstops
  | serve number args => exact absurd rfl (hcall number args)
  | _ => rfl

theorem Kernel.Sound.permits_of_overflow {k left : Kernel} {call : Call}
    (h : k.Sound) (hscheduled : k.scheduled = none)
    (hstops : k.perform call = .error ⟨.stackOverflow, left⟩) :
    k.permits call = true := by
  by_cases hserve : ∃ number args, call = .serve number args
  swap
  · exact h.permits_of_overflow_direct hscheduled
      (fun number args heq => hserve ⟨number, args, heq⟩) hstops
  obtain ⟨number, args, rfl⟩ := hserve
  cases hcall : Call.ofService number args with
  | none =>
      obtain ⟨reply, hperform⟩ := perform_serve_of_none (k := k) hcall
      rw [hperform] at hstops
      cases hstops
  | some call =>
      rw [perform_serve hcall] at hstops
      rw [permits_serve hcall]
      exact h.permits_of_overflow_direct hscheduled
        (Call.ofService_ne_serve hcall) (eq_error_of_map hstops)

/-- On the mended kernel a call that was stopped by the guard of the running
task asks for a switch, if it is no tick. -/
theorem Kernel.Sound.exists_selection {k left : Kernel} {call : Call}
    {previous : TaskId} (h : k.Sound) (hmended : k.mended.Sound)
    (hguarded : k.mended.Guarded) (hscheduled : k.scheduled = none)
    (hstops : k.perform call = .error ⟨.stackOverflow, left⟩)
    (hseeks : ∀ performed, k.mended.perform call = .ok performed →
      ∃ target, k.AsksSwitch performed.2 previous target) :
    ∃ target, k.selection call = some (previous, target) := by
  have hpermits : k.mended.permits call = true := by
    rw [(restacks_mended k).permits_eq]
    exact h.permits_of_overflow hscheduled hstops
  have hsafe := hmended.linked.guarded_iff.mp hguarded
  obtain ⟨performed, hperform⟩ :=
    (hmended.shows.perform hmended.orderly call).returns ⟨hsafe, hpermits⟩
  obtain ⟨target, hasks⟩ := hseeks performed hperform
  exact ⟨target, selection_of_asks hperform hasks⟩

/-- What is written on a stack does not change its size. -/
theorem View.Writes.size_eq {v w : View} {id : TaskId} (h : v.Writes w)
    (hid : v.Registered id) :
    (w.task id).stack.words.size = (v.task id).stack.words.size := by
  cases h with
  | nothing hstacks => rw [hstacks id hid]
  | reply next _ _ _ hresumes =>
      generalize (v.task next).pending = pending at hresumes
      cases hresumes with
      | plainly _ hstacks => rw [hstacks id]
      | answered reply pointer _ _ hstacks =>
          rw [hstacks id]
          split
          · exact Frame.size_writeReply ..
          · rfl

section Runs

variable {steps : List Step} {k : Kernel} {id : TaskId}

/-- Registered tasks have stacks, on which a guard has room. -/
theorem Run.roomy (hrun : Run steps k) (hid : k.view.Registered id) :
    0 < (k.stackWords id).size := by
  induction steps generalizing k with
  | nil => exact absurd (hrun.registered_iff.mp hid) List.not_mem_nil
  | cons step earlier ih =>
      have hcall := hrun.ne_tearDown_of_registered hid
      have hsince := hrun.registered_before hid
      obtain ⟨hbefore, rfl, -⟩ := hrun.last
      rcases hsince with ⟨spec, hregister, hanswer⟩ | hold
      · obtain ⟨-, hprepare, -⟩ := hrun.registers hregister hanswer
        have hfits := (Stack.prepare_frame hprepare).2
        rw [Frame.fits, decide_eq_true_iff] at hfits
        exact Nat.lt_of_le_of_lt (Nat.zero_le _) hfits
      have hroom := ih hbefore hold
      by_cases hpokes : ∃ other index word, step.call = .poke other index word
      · obtain ⟨other, index, word, hpokes⟩ := hpokes
        rw [hrun.poked hpokes, Kernel.poke, Kernel.modifyStack,
          Kernel.stackWords, Kernel.task_modifyTask]
        split
        · rename_i heq
          subst heq
          rwa [Array.size_setIfInBounds]
        · exact hroom
      · have hwrites := hrun.writes hcall fun other index word h =>
          hpokes ⟨other, index, word, h⟩
        exact Nat.lt_of_lt_of_eq hroom (hwrites.size_eq hold).symm

theorem Run.exists_pokes (hrun : Run steps k) (ids : List TaskId) :
    ∃ pokes, (∀ step ∈ pokes, ∃ id, step.call = .poke id 0 Stack.guardPattern) ∧
      Run (pokes ++ steps)
      (ids.foldl (fun k id => k.poke id 0 Stack.guardPattern) k) := by
  induction ids generalizing steps k with
  | nil => exact ⟨[], fun _ hstep => absurd hstep List.not_mem_nil, hrun⟩
  | cons id rest ih =>
      have hpoke : k.perform (.poke id 0 Stack.guardPattern) =
          .ok (.nothing, k.poke id 0 Stack.guardPattern) := rfl
      have hpoked := hrun.step hpoke
      obtain ⟨pokes, hpokes, hrest⟩ := ih hpoked
      refine ⟨pokes ++ [_], fun step hstep => ?_, by simpa using hrest⟩
      rcases List.mem_append.mp hstep with hlater | hfirst
      · exact hpokes step hlater
      · exact ⟨id, by rw [List.mem_singleton.mp hfirst]⟩

theorem Run.mended (hrun : Run steps k) :
    ∃ pokes, (∀ step ∈ pokes, ∃ id, step.call = .poke id 0 Stack.guardPattern) ∧
      Run (pokes ++ steps) k.mended := by
  rw [Kernel.mended]
  exact hrun.exists_pokes _

/-- Every registered task has a stack, so its guard is in place on the mended
kernel. -/
theorem Run.guarded_mended (hrun : Run steps k) : k.mended.Guarded := by
  intro id hid
  have hcount : k.mended.isRegistered id = k.isRegistered id := by
    rw [(k.restacks_mended).rest]
    rfl
  have hreg : k.view.Registered id :=
    (hrun.sound.shows.isRegistered_iff id).mp (hcount.symm.trans hid)
  exact k.isGuarded_mended id (Or.inr (hrun.roomy hreg))

/-- On a call that is no tick the guard of the running task counts only if the
task is to be switched from. -/
theorem Run.endsAlike (hrun : Run steps k) {call : Call}
    (hticks : call.IsTick → ∀ current, k.running = some current →
      (k.task current).isGuarded = true)
    (hselected : ∀ previous target,
      k.selection call = some (previous, target) →
      (k.task previous).isGuarded = true ∧ (k.task target).isGuarded = true) :
    EndsAlike (k.perform call) (k.mended.perform call) := by
  have hgated := k.gated_mended call
  generalize hperform : k.perform call = result at hgated ⊢
  generalize hmended : k.mended.perform call = result' at hgated ⊢
  cases hgated with
  | quiet h | asked h => exact h.endsAlike
  | stopped hfault => exact .halt hfault
  | @leaving stop _ previous hfault _ hleaves hdamaged hseeks =>
      have hwhole : (k.task previous).isGuarded = true := by
        rcases hseeks with htick | ⟨hscheduled, hseeks⟩
        · exact hticks htick previous hleaves
        have hstops : k.perform call =
            .error ⟨.stackOverflow, stop.kernel⟩ := by
          rw [hperform, ← hfault]
        obtain ⟨pokes, -, hpoked⟩ := hrun.mended
        obtain ⟨target, htarget⟩ := hrun.sound.exists_selection hpoked.sound
          hrun.guarded_mended hscheduled hstops fun performed hok =>
            hseeks performed (hmended.symm.trans hok)
        exact (hselected previous target htarget).1
      rw [hwhole] at hdamaged
      cases hdamaged
  | coming _ _ hasks hdamaged =>
      rw [(hselected _ _ (Kernel.selection_of_asks hmended hasks)).2]
        at hdamaged
      cases hdamaged

/-- Whatever was written on the stacks, guards gate the switches that a call
asks for. -/
theorem Run.gatekeeps (hrun : Run steps k) (call : Call) :
    Gatekeeps steps k call := by
  have hgated := k.gated_mended call
  refine ⟨hrun.mended, hrun.guarded_mended, fun answer k' hperform => ?_,
    fun stop hperform => ?_, fun previous target hselected hdamaged => ?_,
    fun hcall => Kernel.perform_of_damaged hcall,
    fun hticks hselected => hrun.endsAlike hticks hselected⟩
  · rw [hperform] at hgated
    exact hgated.asks_of_ok
  · rw [hperform] at hgated
    exact hgated.requests_of_error
  · obtain ⟨answer, k', hperform, hasked, hruns, hnext⟩ :=
      Kernel.selection_eq_some.mp hselected
    rw [hperform] at hgated
    exact hgated.exists_overflow hasked hruns hnext hdamaged

end Runs

namespace Witness

/-- Task A runs, and task B, whose turn is next, has overrun its stack. -/
def overrun : List Call :=
  trio ++ [.poke taskB 0 0]

/-- Task B was set aside before it overran its stack, and so its turn does not
come. -/
def benched : List Call :=
  trio ++ [.suspend taskB, .poke taskB 0 0]

/-- Task A has fallen asleep, and overran its stack before the switch to task
B. -/
def outrun : List Call :=
  trio ++ [.delay 4, .poke taskA 0 0]

/-- Task A runs, and has overrun its own stack. -/
def overdrawn : List Call :=
  trio ++ [.poke taskA 0 0]

/-- Task B is caught when its turn comes and left alone while it does not, task
A is caught although its turn is over, and task A may create a mutex before it
is caught. -/
theorem gatekeeps_overrun :
    Run (history overrun).1 (history overrun).2 ∧
      (history overrun).2.selection (.delay 4) = some (taskA, taskB) ∧
      (∃ left, (history overrun).2.perform (.delay 4) =
        .error ⟨.stackOverflow, left⟩) ∧
      (history benched).2.selection (.delay 4) = some (taskA, taskC) ∧
      EndsAlike ((history benched).2.perform (.delay 4))
        ((history benched).2.mended.perform (.delay 4)) ∧
      (history outrun).2.scheduled = some taskB ∧
      (∃ left, (history outrun).2.perform .tick =
        .error ⟨.stackOverflow, left⟩) ∧
      ((history overdrawn).2.task taskA).isGuarded = false ∧
      EndsAlike ((history overdrawn).2.perform .createMutex)
        ((history overdrawn).2.mended.perform .createMutex) := by
  have hoverrun : (history overrun).2.selection (.delay 4) =
      some (taskA, taskB) := by
    decide +kernel
  have hbenched : (history benched).2.selection (.delay 4) =
      some (taskA, taskC) := by
    decide +kernel
  have hnobody : (history overdrawn).2.selection .createMutex = none := by
    decide +kernel
  refine ⟨run_history _, hoverrun, ?_, hbenched, ?_, by decide +kernel, ?_,
    by decide +kernel, ?_⟩
  · exact (Run.gatekeeps (run_history overrun) (.delay 4)).catches taskA taskB
      hoverrun (Or.inr (by decide +kernel))
  · refine (Run.gatekeeps (run_history benched) (.delay 4)).spares ?_ ?_
    · rintro (htick | htick | htick) <;> cases htick
    · intro previous target hselected
      cases hbenched.symm.trans hselected
      decide +kernel
  · exact (Run.gatekeeps (run_history outrun) .tick).ticks (Or.inl rfl)
      (by decide +kernel) taskA (by decide +kernel) (by decide +kernel)
  · refine (Run.gatekeeps (run_history overdrawn) .createMutex).spares ?_ ?_
    · rintro (htick | htick | htick) <;> cases htick
    · intro previous target hselected
      cases hnobody.symm.trans hselected

end Witness

end TickKernel
