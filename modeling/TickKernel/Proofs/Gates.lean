/-
Guards before a switch.  A kernel and the same kernel with other stacks are led
through one call.  All that a call sees of the stacks are the guards of the
running task and of the task that it picks, so the two part only there: the
machine stops where a guard is damaged, before the platform has been asked for
anything, and goes on where it is not.
-/
import TickKernel.Proofs.Backdrops
import TickKernel.Proofs.Refusals

namespace TickKernel

/-- The guard of the stack is undamaged. -/
def Stack.isWhole (stack : Stack) : Bool :=
  stack.words.getD 0 0 == guardPattern

theorem Task.isGuarded_eq (task : Task) : task.isGuarded = task.stack.isWhole :=
  rfl

namespace Kernel

/-- The two are the same but for what is on the stacks. -/
structure Restacks (k k' : Kernel) : Prop where
  rest : k' = { k with tasks := k'.tasks }
  task : ∀ id, k'.task id = { k.task id with stack := (k'.task id).stack }

/-- Between `k` and `k'` the platform was asked for a switch that brings
`target` to the processor in the place of `previous`. -/
structure AsksSwitch (k k' : Kernel) (previous target : TaskId) : Prop where
  running : k.running = some previous
  next : k'.scheduled.or k'.running = some target
  requests : k'.platform.requests = k.platform.requests + 1

/-- Other stacks, whose guards are undamaged at least where those of the kernel
are. -/
def MendedBy (k : Kernel) (stack : TaskId → Stack) : Prop :=
  ∀ id, (k.task id).isGuarded = true → (stack id).isWhole = true

end Kernel

/-- The ends that one call comes to: from `base`, and from the same kernel with
stacks that mend its own.  `left` is the kernel that a value comes with, and
`tick` is for calls that look at the guard of the running task whatever comes of
them. -/
inductive Gated {α : Type} (tick : Prop) (base : Kernel) (rel : α → α → Prop)
    (left : α → Kernel) : Except Halt α → Except Halt α → Prop
  /-- Nothing was asked for. -/
  | quiet {a a' : α} (h : rel a a')
      (hrequests : (left a).platform.requests = base.platform.requests) :
      Gated tick base rel left (.ok a) (.ok a')
  /-- A switch was asked for, between two tasks whose guards are undamaged. -/
  | asked {a a' : α} {previous target : TaskId} (h : rel a a')
      (hasks : base.AsksSwitch (left a) previous target)
      (hprevious : (base.task previous).isGuarded = true)
      (htarget : (base.task target).isGuarded = true) :
      Gated tick base rel left (.ok a) (.ok a')
  /-- Both stop, for a reason that has nothing to do with the stacks or with the
  same guard. -/
  | stopped {stop stop' : Halt} (hfault : stop'.fault = stop.fault)
      (hrequests : stop.kernel.platform.requests = base.platform.requests) :
      Gated tick base rel left (.error stop) (.error stop')
  /-- The guard of the task on the processor was found damaged.  Unless it is a
  tick, the call asks for a switch on mended stacks, if it gets to its end
  there. -/
  | leaving {stop : Halt} {result : Except Halt α} {previous : TaskId}
      (hfault : stop.fault = .stackOverflow)
      (hrequests : stop.kernel.platform.requests = base.platform.requests)
      (hrunning : base.running = some previous)
      (hdamaged : (base.task previous).isGuarded = false)
      (hseeks : tick ∨ base.scheduled = none ∧ ∀ a', result = .ok a' →
        ∃ target, base.AsksSwitch (left a') previous target) :
      Gated tick base rel left (.error stop) result
  /-- The guard of the task that was to come was found damaged, and on mended
  stacks the switch to it was asked for. -/
  | coming {stop : Halt} {a' : α} {previous target : TaskId}
      (hfault : stop.fault = .stackOverflow)
      (hrequests : stop.kernel.platform.requests = base.platform.requests)
      (hasks : base.AsksSwitch (left a') previous target)
      (hdamaged : (base.task target).isGuarded = false) :
      Gated tick base rel left (.error stop) (.ok a')

namespace Kernel

/-- What a call returns beside the kernel is the same, and so are the kernels
but for the stacks. -/
def Alongside {β : Type} (result result' : β × Kernel) : Prop :=
  result'.1 = result.1 ∧ result.2.Restacks result'.2

/-- Rules whose result is a kernel. -/
abbrev GatedRule (tick : Prop) (base : Kernel) :
    Except Halt Kernel → Except Halt Kernel → Prop :=
  Gated tick base Restacks id

abbrev GatedCall {β : Type} (tick : Prop) (base : Kernel) :
    Except Halt (β × Kernel) → Except Halt (β × Kernel) → Prop :=
  Gated tick base Alongside Prod.snd

variable {base k k' k₁ : Kernel} {stack : TaskId → Stack}

theorem restacks_restacked (k : Kernel) (stack : TaskId → Stack) :
    k.Restacks (k.restacked stack) :=
  ⟨rfl, fun id => by rw [task_restacked]⟩

theorem isGuarded_restacked (id : TaskId) :
    ((k.restacked stack).task id).isGuarded = (stack id).isWhole := by
  rw [task_restacked, Task.isGuarded_eq]

theorem isGuarded_of_backdrop (hb : k.backdrop = base.backdrop) (id : TaskId) :
    (k.task id).isGuarded = (base.task id).isGuarded := by
  have hstack : (k.task id).stack = (base.task id).stack :=
    congrFun (congrArg Backdrop.stack hb) id
  rw [Task.isGuarded_eq, hstack, Task.isGuarded_eq]

theorem requests_of_backdrop (hb : k.backdrop = base.backdrop) :
    k.platform.requests = base.platform.requests :=
  congrArg (fun b : Backdrop => b.platform.requests) hb

theorem running_of_backdrop (hb : k.backdrop = base.backdrop) :
    k.running = base.running :=
  congrArg Backdrop.running hb

theorem scheduled_of_backdrop (hb : k.backdrop = base.backdrop) :
    k.scheduled = base.scheduled :=
  congrArg Backdrop.scheduled hb

/-- The backdrop before a switch tells all that matters of it. -/
theorem AsksSwitch.of_backdrop {previous target : TaskId}
    (h : k.AsksSwitch k' previous target) (hb : k.backdrop = base.backdrop) :
    base.AsksSwitch k' previous target :=
  ⟨(running_of_backdrop hb).symm.trans h.running, h.next,
    h.requests.trans (congrArg (· + 1) (requests_of_backdrop hb))⟩

end Kernel

/-- What follows on either branch follows on the choice. -/
theorem bind_ite {α β : Type} {condition : Prop} [Decidable condition]
    (yes no : Except Halt α) (rest : α → Except Halt β) :
    (if condition then yes >>= rest else no >>= rest) =
      (if condition then yes else no) >>= rest := by
  split <;> rfl

namespace Gated

open Kernel

variable {α β : Type} {tick : Prop} {base k : Kernel} {rel : α → α → Prop}
  {left : α → Kernel} {rel' : β → β → Prop} {left' : β → Kernel}
  {stack : TaskId → Stack}

theorem halts (hb : k.backdrop = base.backdrop) (fault : Fault) :
    Gated tick base rel left (k.halt fault) ((k.restacked stack).halt fault) :=
  .stopped rfl (requests_of_backdrop hb)

/-- What is done to the results changes nothing about who is next and what was
asked for. -/
theorem map {result result' : Except Halt α} {f : α → β}
    (h : Gated tick base rel left result result')
    (hrel : ∀ a a', rel a a' → rel' (f a) (f a'))
    (hnext : ∀ a, (left' (f a)).scheduled.or (left' (f a)).running =
      (left a).scheduled.or (left a).running)
    (hrequests : ∀ a, (left' (f a)).platform.requests =
      (left a).platform.requests) :
    Gated tick base rel' left' (f <$> result) (f <$> result') := by
  have hasks : ∀ a previous target, base.AsksSwitch (left a) previous target →
      base.AsksSwitch (left' (f a)) previous target := fun a _ _ h =>
    ⟨h.running, (hnext a).trans h.next, (hrequests a).trans h.requests⟩
  cases h with
  | @quiet a _ h hsame => exact .quiet (hrel _ _ h) ((hrequests a).trans hsame)
  | asked h hasked hprevious htarget =>
      exact .asked (hrel _ _ h) (hasks _ _ _ hasked) hprevious htarget
  | stopped hfault hsame => exact .stopped hfault hsame
  | leaving hfault hsame hrunning hdamaged hseeks =>
      refine .leaving hfault hsame hrunning hdamaged (hseeks.imp_right ?_)
      rintro ⟨hscheduled, hseeks⟩
      refine ⟨hscheduled, fun b hok => ?_⟩
      obtain ⟨a, hresult, rfl⟩ := eq_ok_of_map hok
      obtain ⟨target, hasked⟩ := hseeks a hresult
      exact ⟨target, hasks _ _ _ hasked⟩
  | coming hfault hsame hasked hdamaged =>
      exact .coming hfault hsame (hasks _ _ _ hasked) hdamaged

/-- Only who runs and who is to come, the guards and the count of requests
matter of the kernel that a call starts from. -/
theorem rebase {base' : Kernel} {result result' : Except Halt α}
    (h : Gated tick base rel left result result')
    (hrunning : base'.running = base.running)
    (hscheduled : base'.scheduled = base.scheduled)
    (hrequests : base'.platform.requests = base.platform.requests)
    (hguards : ∀ id, (base'.task id).isGuarded = (base.task id).isGuarded) :
    Gated tick base' rel left result result' := by
  have hasks : ∀ k previous target, base.AsksSwitch k previous target →
      base'.AsksSwitch k previous target := fun k _ _ h =>
    ⟨hrunning.trans h.running, h.next, h.requests.trans (by rw [hrequests])⟩
  cases h with
  | quiet h hsame => exact .quiet h (hsame.trans hrequests.symm)
  | asked h hasked hprevious htarget =>
      exact .asked h (hasks _ _ _ hasked) ((hguards _).trans hprevious)
        ((hguards _).trans htarget)
  | stopped hfault hsame => exact .stopped hfault (hsame.trans hrequests.symm)
  | leaving hfault hsame hleaves hdamaged hseeks =>
      refine .leaving hfault (hsame.trans hrequests.symm)
        (hrunning.trans hleaves)
        ((hguards _).trans hdamaged) (hseeks.imp_right ?_)
      rintro ⟨hfree, hseeks⟩
      refine ⟨hscheduled.trans hfree, fun a hok => ?_⟩
      obtain ⟨target, hasked⟩ := hseeks a hok
      exact ⟨target, hasks _ _ _ hasked⟩
  | coming hfault hsame hasked hdamaged =>
      exact .coming hfault (hsame.trans hrequests.symm) (hasks _ _ _ hasked)
        ((hguards _).trans hdamaged)

/-- A scheduling point that was reached because the running task cannot go
on. -/
theorem forced {result result' : Except Halt α}
    (h : Gated True base rel left result result')
    (hscheduled : base.scheduled = none)
    (hseeks : ∀ a', result' = .ok a' → ∃ previous target,
      base.AsksSwitch (left a') previous target) :
    Gated tick base rel left result result' := by
  cases h with
  | quiet h hsame => exact .quiet h hsame
  | asked h hasked hprevious htarget => exact .asked h hasked hprevious htarget
  | stopped hfault hsame => exact .stopped hfault hsame
  | leaving hfault hsame hrunning hdamaged =>
      refine .leaving hfault hsame hrunning hdamaged
        (Or.inr ⟨hscheduled, fun a' hok => ?_⟩)
      obtain ⟨previous, target, hasked⟩ := hseeks a' hok
      obtain rfl := Option.some.inj (hasked.running.symm.trans hrunning)
      exact ⟨target, hasked⟩
  | coming hfault hsame hasked hdamaged =>
      exact .coming hfault hsame hasked hdamaged

theorem require {condition condition' : Bool}
    {rest rest' : Unit → Except Halt β}
    (hb : k.backdrop = base.backdrop) (hsame : condition' = condition)
    (hrest : condition = true →
      Gated tick base rel' left' (rest ()) (rest' ())) :
    Gated tick base rel' left' (k.require condition >>= rest)
      ((k.restacked stack).require condition' >>= rest') := by
  subst hsame
  cases condition' with
  | true => exact hrest rfl
  | false => exact halts hb .assertion

/-- A rule that does not see the stacks goes before. -/
theorem after {rule : Kernel → Except Halt Kernel}
    {rest rest' : Kernel → Except Halt β} (h : ObliviousRule rule)
    (hb : k.backdrop = base.backdrop)
    (hrest : ∀ k₁, k₁.backdrop = base.backdrop →
      Gated tick base rel' left' (rest k₁) (rest' (k₁.restacked stack))) :
    Gated tick base rel' left' (rule k >>= rest)
      (rule (k.restacked stack) >>= rest') := by
  cases hrule : rule k with
  | ok k₁ =>
      rw [h.ok_restacked hrule]
      exact hrest k₁ ((h.backdrop_eq hrule).trans hb)
  | error stop =>
      obtain ⟨stop', hrule', hfault⟩ := h.halt_restacked hrule stack
      rw [hrule']
      exact .stopped hfault
        (requests_of_backdrop ((h.halt_backdrop_eq hrule).trans hb))

/-- A rule that is done with at once. -/
theorem goes (hb : k.backdrop = base.backdrop) :
    GatedRule tick base (.ok k) (.ok (k.restacked stack)) :=
  .quiet (restacks_restacked k stack) (requests_of_backdrop hb)

theorem of_oblivious {rule : Kernel → Except Halt Kernel}
    (h : ObliviousRule rule) (hb : k.backdrop = base.backdrop) :
    GatedRule tick base (rule k) (rule (k.restacked stack)) := by
  have hafter : GatedRule tick base (rule k >>= pure)
      (rule (k.restacked stack) >>= pure) :=
    after h hb fun _ hb₁ => .goes hb₁
  simpa only [bind_pure] using hafter

/-- The guard of the running task is looked at. -/
theorem checkRunning {previous : TaskId} {rest rest' : Unit → Except Halt β}
    (hmends : base.MendedBy stack) (hrunning : base.running = some previous)
    (hguards : ∀ id, (k.task id).isGuarded = (base.task id).isGuarded)
    (hrequests : k.platform.requests = base.platform.requests)
    (hseeks : tick ∨ base.scheduled = none ∧ ∀ b, rest' () = .ok b →
      ∃ target, base.AsksSwitch (left' b) previous target)
    (hrest : (base.task previous).isGuarded = true →
      Gated tick base rel' left' (rest ()) (rest' ())) :
    Gated tick base rel' left' (k.checkGuard previous >>= rest)
      ((k.restacked stack).checkGuard previous >>= rest') := by
  unfold Kernel.checkGuard
  rw [hguards, isGuarded_restacked]
  by_cases hwhole : (base.task previous).isGuarded = true
  · rw [if_pos hwhole, if_pos (hmends previous hwhole)]
    exact hrest hwhole
  · rw [if_neg hwhole]
    refine .leaving rfl hrequests hrunning (Bool.eq_false_iff.mpr hwhole)
      (hseeks.imp_right fun hseeks => ⟨hseeks.1, fun b hok => ?_⟩)
    obtain ⟨_, -, hrest'⟩ := eq_ok_of_bind hok
    exact hseeks.2 b hrest'

/-- The result of a rule becomes that of its call. -/
theorem returning {result result' : Except Halt Kernel} (value : β)
    (h : GatedRule tick base result result') :
    GatedCall tick base (result >>= fun k => pure (value, k))
      (result' >>= fun k => pure (value, k)) :=
  h.map (f := fun k => (value, k)) (fun _ _ hrestacks => ⟨rfl, hrestacks⟩)
    (fun _ => rfl) fun _ => rfl

/-- A call that answers without having asked for anything. -/
theorem answers {k' : Kernel} (value : β) (h : k.Restacks k')
    (hrequests : k.platform.requests = base.platform.requests) :
    GatedCall tick base (.ok (value, k)) (.ok (value, k')) :=
  .quiet ⟨rfl, h⟩ hrequests

theorem done (value : β) (hb : k.backdrop = base.backdrop) :
    GatedCall tick base (.ok (value, k)) (.ok (value, k.restacked stack)) :=
  .answers value (restacks_restacked k stack) (requests_of_backdrop hb)

end Gated

namespace Kernel

section Rules

variable {tick : Prop} {base k : Kernel} {stack : TaskId → Stack}

/-! ### Calls that ask for nothing -/

theorem gated_resume (hb : k.backdrop = base.backdrop) (id : TaskId) :
    GatedCall tick base (k.resume id) ((k.restacked stack).resume id) := by
  unfold resume
  rw [isRegistered_restacked, task_restacked]
  split
  · exact .done _ hb
  split
  · exact .done _ hb
  · exact (Gated.of_oblivious (oblivious_reinstate id) hb).returning _

theorem gated_createMutex (hb : k.backdrop = base.backdrop) :
    GatedCall tick base (.ok k.createMutex)
      (.ok (k.restacked stack).createMutex) := by
  rw [createMutex_restacked]
  exact .done k.createMutex.1 (backdrop_createMutex.trans hb)

theorem gated_createQueue (hb : k.backdrop = base.backdrop)
    (capacity : UInt64) :
    GatedCall tick base (.ok (k.createQueue capacity))
      (.ok ((k.restacked stack).createQueue capacity)) := by
  rw [createQueue_restacked]
  exact .done (k.createQueue capacity).1 (backdrop_createQueue.trans hb)

/-! ### Scheduling -/

/-- The running task, if any, cannot go on. -/
def RunningStops (k : Kernel) : Prop :=
  ∀ current, k.running = some current → (k.task current).isRunnable = false

theorem RunningStops.modifyTask {f : Task → Task} {id : TaskId}
    (hrunning : k.running = some id) (hf : (f (k.task id)).isRunnable = false) :
    (k.modifyTask id f).RunningStops := by
  intro current hcurrent
  obtain rfl : id = current := Option.some.inj (hrunning.symm.trans hcurrent)
  rw [task_modifyTask, if_pos rfl]
  exact hf

/-- A choice that is recorded comes with a request. -/
theorem asks_of_dispatch {k' : Kernel} {target : TaskId}
    (h : k.dispatch target = .ok k') :
    ∃ previous, k.AsksSwitch k' previous target := by
  unfold dispatch at h
  obtain ⟨_, -, h⟩ := eq_ok_of_bind h
  cases hrunning : k.running with
  | none =>
      rw [hrunning] at h
      cases h
  | some previous =>
      rw [hrunning] at h
      obtain ⟨_, -, h⟩ := eq_ok_of_bind h
      rw [bind_ite] at h
      obtain ⟨k₁, harrives, h⟩ := eq_ok_of_bind h
      obtain ⟨_, -, h⟩ := eq_ok_of_bind h
      obtain ⟨k₂, hleaves, h⟩ := eq_ok_of_bind h
      obtain ⟨_, -, h⟩ := eq_ok_of_bind h
      obtain ⟨_, -, h⟩ := eq_ok_of_bind h
      cases h
      have hb := ((oblivious_standDown previous).backdrop_eq hleaves).trans
        ((oblivious_arrive target).backdrop_eq harrives)
      have hrequests : k₂.platform.requests = k.platform.requests :=
        requests_of_backdrop hb
      exact ⟨previous, hrunning, rfl, congrArg (· + 1) hrequests⟩

/-- A task that cannot go on does not stay on the processor. -/
theorem asks_of_schedule {k' : Kernel} (hstarted : k.phase = .started)
    (hscheduled : k.scheduled = none) (hstops : k.RunningStops)
    (h : k.schedule = .ok k') :
    ∃ previous target, k.AsksSwitch k' previous target := by
  have hdispatch : ∀ target, k.dispatch target = .ok k' →
      ∃ previous target, k.AsksSwitch k' previous target := fun target hok => by
    obtain ⟨previous, hasks⟩ := asks_of_dispatch hok
    exact ⟨previous, target, hasks⟩
  unfold schedule at h
  rw [if_neg (not_not_intro hstarted)] at h
  cases hrunning : k.running with
  | none =>
      rw [hrunning] at h
      cases h
  | some current =>
      rw [hrunning] at h
      obtain ⟨_, -, h⟩ := eq_ok_of_bind h
      rw [if_neg (by rw [hscheduled]; exact Bool.false_ne_true)] at h
      obtain ⟨_, -, h⟩ := eq_ok_of_bind h
      cases hdue : k.dueTask with
      | some due =>
          rw [hdue] at h
          exact hdispatch due h
      | none =>
          have hstop := hstops current hrunning
          rw [hdue] at h
          dsimp only at h
          rw [decision, hstop] at h
          cases hbest : k.mostUrgent (k.rotation current) with
          | some best =>
              rw [hbest] at h
              exact hdispatch best h
          | none =>
              rw [hbest] at h
              cases h

/-- Once the choice is recorded both guards are looked at, and then the platform
is asked for the switch. -/
theorem gated_request {previous target : TaskId} (hmends : base.MendedBy stack)
    (hrunning : base.running = some previous) (hfree : base.scheduled = none)
    (hscheduled : k.scheduled = some target)
    (hguards : ∀ id, (k.task id).isGuarded = (base.task id).isGuarded)
    (hrequests : k.platform.requests = base.platform.requests) :
    GatedRule tick base
      (k.checkGuard previous >>= fun _ => k.checkGuard target >>= fun _ =>
        pure { k with platform := k.platform.askForSwitch })
      ((k.restacked stack).checkGuard previous >>= fun _ =>
        (k.restacked stack).checkGuard target >>= fun _ =>
          pure { k.restacked stack with
            platform := k.platform.askForSwitch }) := by
  have hasked : { k with platform := k.platform.askForSwitch }.Restacks
      { k.restacked stack with platform := k.platform.askForSwitch } :=
    restacks_restacked _ stack
  have hasks : ∀ k' : Kernel, k'.scheduled = some target →
      k'.platform.requests = k.platform.requests + 1 →
      base.AsksSwitch k' previous target :=
    fun k' hnext hcount =>
      ⟨hrunning, by rw [hnext]; rfl, hcount.trans (by rw [hrequests])⟩
  refine .checkRunning hmends hrunning hguards hrequests
    (Or.inr ⟨hfree, fun k' hok => ?_⟩) fun hprevious => ?_
  · obtain ⟨_, -, hk'⟩ := eq_ok_of_bind hok
    cases hk'
    exact ⟨target, hasks _ hscheduled rfl⟩
  unfold checkGuard
  rw [hguards, isGuarded_restacked]
  by_cases hwhole : (base.task target).isGuarded = true
  · rw [if_pos hwhole, if_pos (hmends target hwhole)]
    exact .asked hasked (hasks _ hscheduled rfl) hprevious hwhole
  · rw [if_neg hwhole]
    split
    · exact .coming rfl hrequests (hasks _ hscheduled rfl)
        (Bool.eq_false_iff.mpr hwhole)
    · exact .stopped rfl hrequests

variable (hb : k.backdrop = base.backdrop) (hmends : base.MendedBy stack)

include hb hmends

theorem gated_dispatch (target : TaskId) :
    GatedRule tick base (k.dispatch target)
      ((k.restacked stack).dispatch target) := by
  unfold dispatch
  refine .require hb rfl fun hnobody => ?_
  have hfree : base.scheduled = none :=
    (scheduled_of_backdrop hb).symm.trans (Option.isNone_iff_eq_none.mp hnobody)
  rw [running_restacked]
  cases hrunning : k.running with
  | none => exact .halts hb .assertion
  | some previous =>
      have hbase : base.running = some previous :=
        (running_of_backdrop hb).symm.trans hrunning
      refine .require hb rfl fun _ => ?_
      rw [bind_ite, bind_ite]
      refine .after (oblivious_arrive target) hb fun k₁ hb₁ => ?_
      refine .require hb₁ (by rw [task_restacked]) fun _ => ?_
      refine .after (oblivious_standDown previous) hb₁ fun k₂ hb₂ => ?_
      have hb₃ : (k₂.setStatus target .active).backdrop = base.backdrop :=
        backdrop_setStatus.trans hb₂
      have hguards := isGuarded_of_backdrop hb₃
      have hrequests := requests_of_backdrop hb₃
      dsimp only
      rw [setStatus_restacked]
      exact gated_request
        (k := { k₂.setStatus target .active with scheduled := some target })
        hmends hbase hfree rfl hguards hrequests

theorem gated_schedule (htick : tick) :
    GatedRule tick base k.schedule (k.restacked stack).schedule := by
  unfold schedule
  rw [phase_restacked, running_restacked, scheduled_restacked]
  split
  · exact .goes hb
  cases hrunning : k.running with
  | none => exact .halts hb .assertion
  | some current =>
      have hbase : base.running = some current :=
        (running_of_backdrop hb).symm.trans hrunning
      refine .checkRunning hmends hbase (isGuarded_of_backdrop hb)
        (requests_of_backdrop hb) (Or.inl htick) fun _ => ?_
      split
      · exact .goes hb
      refine .require hb (by rw [readyIds_restacked]) fun _ => ?_
      rw [dueTask_restacked, decision_restacked]
      cases k.dueTask with
      | some due => exact gated_dispatch hb hmends due
      | none =>
          cases k.decision current with
          | stay => exact .goes hb
          | switchTo next => exact gated_dispatch hb hmends next
          | stuck => exact .halts hb .assertion

/-- On mended stacks a scheduling point takes a task that cannot go on off the
processor. -/
theorem gated_giveUp (id : TaskId) (hstops : k.RunningStops) :
    GatedRule tick base (k.giveUp id) ((k.restacked stack).giveUp id) := by
  unfold giveUp
  rw [scheduled_restacked]
  split
  · rename_i hnobody
    have hfree := Option.isNone_iff_eq_none.mp hnobody
    by_cases hstarted : k.phase = .started
    swap
    · unfold schedule
      rw [phase_restacked, if_pos hstarted, if_pos hstarted]
      exact .goes hb
    refine (gated_schedule hb hmends trivial).forced
      ((scheduled_of_backdrop hb).symm.trans hfree) fun k' hok => ?_
    have hstops' : (k.restacked stack).RunningStops := by
      intro current hrunning
      rw [task_restacked]
      exact hstops current hrunning
    obtain ⟨previous, target, hasks⟩ :=
      asks_of_schedule (k := k.restacked stack) hstarted hfree hstops' hok
    have hasks' : k.AsksSwitch k' previous target :=
      ⟨hasks.running, hasks.next, hasks.requests⟩
    exact ⟨previous, target, hasks'.of_backdrop hb⟩
  · exact .of_oblivious (oblivious_standDown id) hb

theorem gated_sleep (timeout : Tick) (flag : WaitFlag) :
    GatedRule tick base (k.sleep timeout flag)
      ((k.restacked stack).sleep timeout flag) := by
  unfold sleep
  rw [running_restacked, platform_restacked]
  cases hrunning : k.running with
  | none => exact .halts hb .assertion
  | some current =>
      refine .require hb rfl fun _ => ?_
      dsimp only
      rw [modifyTask_restacked fun _ _ => rfl]
      exact gated_giveUp ((backdrop_modifyTask fun _ _ => rfl).trans hb)
        hmends current (.modifyTask hrunning rfl)

theorem gated_wake (id : TaskId) (reply : Reply) :
    GatedRule tick base (k.wake id reply)
      ((k.restacked stack).wake id reply) := by
  have hb₁ :
      (k.modifyTask id fun task =>
        { task with pending := some reply }).backdrop =
      base.backdrop := (backdrop_modifyTask fun _ _ => rfl).trans hb
  unfold wake
  dsimp only
  rw [modifyTask_restacked fun _ _ => rfl, scheduled_restacked]
  split
  · exact gated_dispatch hb₁ hmends id
  · exact .of_oblivious (oblivious_reinstate id) hb₁

/-! ### Calls on tasks -/

theorem gated_delay (ticks : Tick) :
    GatedCall tick base (k.delay ticks) ((k.restacked stack).delay ticks) := by
  unfold delay
  rw [phase_restacked, running_restacked, idle_restacked]
  split
  · exact .done _ hb
  cases Tick.acceptTimeout ticks with
  | error error => exact .done _ hb
  | ok _ =>
      dsimp only
      split
      · exact .done _ hb
      split
      · exact .done _ hb
      · exact (gated_sleep hb hmends ticks .none).returning _

theorem gated_finish :
    GatedRule tick base k.finish (k.restacked stack).finish := by
  unfold finish
  rw [running_restacked, idle_restacked]
  cases hrunning : k.running with
  | none => exact .halts hb .assertion
  | some id =>
      dsimp only
      split
      · exact .halts hb .application
      · rw [setStatus_restacked]
        exact gated_giveUp (backdrop_setStatus.trans hb) hmends id
          (.modifyTask hrunning rfl)

theorem gated_suspend (id : TaskId) :
    GatedCall tick base (k.suspend id) ((k.restacked stack).suspend id) := by
  unfold suspend
  rw [isRegistered_restacked, idle_restacked, running_restacked, task_restacked]
  split
  · exact .done _ hb
  split
  · exact .done _ hb
  cases (k.task id).status with
  | suspended | finished => exact .done _ hb
  | active =>
      dsimp only
      split
      · rename_i hrunning
        rw [setStatus_restacked]
        exact (gated_giveUp (backdrop_setStatus.trans hb) hmends id
          (.modifyTask hrunning rfl)).returning _
      · exact .done _ hb
  | ready =>
      refine .after (oblivious_leaveReady id) hb fun k₁ hb₁ => ?_
      rw [setStatus_restacked]
      exact .done _ (backdrop_setStatus.trans hb₁)
  | waiting =>
      have hshelves : Oblivious fun k => k.modifyTask id fun task =>
          { task with deadline := 0, status := .suspended } :=
        oblivious_modifyTask id fun _ _ => rfl
      have hleaves :=
        (oblivious_unblock id).bind
          ((oblivious_leaveWaiting id).bind hshelves.rule)
      exact (Gated.of_oblivious hleaves hb).returning _

/-! ### Calls on mutexes -/

theorem gated_awaitMutex (id : MutexId) (current : TaskId) (timeout : Tick) :
    GatedCall tick base (k.awaitMutex id current timeout)
      ((k.restacked stack).awaitMutex id current timeout) := by
  have hb₁ : (k.joinBlocked current (.mutex id)).backdrop = base.backdrop :=
    backdrop_joinBlocked.trans hb
  unfold awaitMutex
  refine .require hb (by rw [task_restacked]; rfl) fun _ => ?_
  dsimp only
  rw [joinBlocked_restacked, modifyTask_restacked fun _ _ => rfl]
  exact .returning _
    (gated_sleep ((backdrop_modifyTask fun _ _ => rfl).trans hb₁) hmends
    timeout .mutex)

theorem gated_acquire (id : MutexId) (timeout : Tick) :
    GatedCall tick base (k.acquire id timeout)
      ((k.restacked stack).acquire id timeout) := by
  unfold acquire
  rw [hasMutex_restacked, running_restacked, mutex_restacked, idle_restacked]
  split
  · exact .done _ hb
  cases Tick.acceptTimeout timeout with
  | error error => exact .done _ hb
  | ok _ =>
      cases k.running with
      | none => exact .done _ hb
      | some current =>
          dsimp only
          cases (k.mutex id).owner with
          | none => exact .done (k := k.putMutex id _) _ hb
          | some owner =>
              dsimp only
              split
              · split
                · exact .done _ hb
                · exact .done (k := k.putMutex id _) _ hb
              split
              · exact .done _ hb
              split
              · exact .done _ hb
              · exact gated_awaitMutex hb hmends id current timeout

/-- Whoever wakes a task has taken it off what it waited for. -/
theorem gated_wakeUp (id : TaskId) (reply : Reply) :
    GatedRule tick base ((k.forgetWait id).wake id reply)
      (((k.restacked stack).forgetWait id).wake id reply) := by
  rw [forgetWait_restacked]
  exact gated_wake (backdrop_forgetWait.trans hb) hmends id reply

theorem gated_passOn (id : MutexId) :
    GatedRule tick base (k.passOn id) ((k.restacked stack).passOn id) := by
  unfold passOn
  rw [mutex_restacked]
  obtain ⟨hnone, hnone'⟩ | ⟨next, k₁, hpop, hpop', hb₁⟩ :=
    popBlocked_restacked (.mutex id) k stack
  · rw [hnone, hnone']
    exact .goes (k := k.putMutex id _) hb
  · rw [hpop, hpop']
    exact gated_wakeUp (k := k₁.putMutex id _) (hb₁.trans hb) hmends next
      Reply.done

theorem gated_release (id : MutexId) :
    GatedCall tick base (k.release id) ((k.restacked stack).release id) := by
  unfold release
  rw [hasMutex_restacked, running_restacked, mutex_restacked]
  split
  · exact .done _ hb
  cases k.running with
  | none => exact .done _ hb
  | some current =>
      refine .require hb rfl fun _ => ?_
      split
      · exact (gated_passOn hb hmends id).returning _
      · exact .done (k := k.putMutex id _) _ hb

/-! ### Calls on queues -/

theorem gated_awaitQueue {α : Type} (id : QueueId) (current : TaskId)
    (side : Waiters) (message : Option Message) (timeout : Tick) :
    GatedCall tick base (k.awaitQueue (α := α) id current side message timeout)
      ((k.restacked stack).awaitQueue id current side message timeout) := by
  have hb₁ :
      ((k.putQueue id { k.queue id with waiters := side }).joinBlocked current
      (.queue id)).backdrop = base.backdrop := backdrop_joinBlocked.trans hb
  have hput : (k.restacked stack).putQueue id
      { k.queue id with waiters := side } =
      (k.putQueue id { k.queue id with waiters := side }).restacked stack := rfl
  unfold awaitQueue
  dsimp only
  rw [queue_restacked, hput, joinBlocked_restacked,
    modifyTask_restacked fun _ _ => rfl]
  exact .returning _
    (gated_sleep ((backdrop_modifyTask fun _ _ => rfl).trans hb₁) hmends
    timeout .queue)

theorem gated_sendToRing (id : QueueId) (current : TaskId) (message : Message)
    (timeout : Tick) :
    GatedCall tick base (k.sendToRing id current message timeout)
      ((k.restacked stack).sendToRing id current message timeout) := by
  unfold sendToRing
  rw [queue_restacked, idle_restacked]
  dsimp only
  split
  · split
    · exact .done _ hb
    split
    · exact .done _ hb
    · exact gated_awaitQueue hb hmends id current .senders
        (some message) timeout
  · exact .done (k := k.putQueue id _) _ hb

theorem gated_send (id : QueueId) (message : Message) (timeout : Tick) :
    GatedCall tick base (k.send id message timeout)
      ((k.restacked stack).send id message timeout) := by
  unfold send
  rw [hasQueue_restacked, running_restacked]
  split
  · exact .done _ hb
  cases Tick.acceptTimeout timeout with
  | error error => exact .done _ hb
  | ok _ =>
      cases k.running with
      | none => exact .done _ hb
      | some current =>
          refine .require hb (by rw [task_restacked]; rfl) fun _ => ?_
          obtain ⟨hnone, hnone'⟩ | ⟨receiver, k₁, hpop, hpop', hb₁⟩ :=
            popWaiter_restacked id .receivers k stack
          · rw [hnone, hnone']
            exact gated_sendToRing hb hmends id current message timeout
          · rw [hpop, hpop']
            exact (gated_wakeUp (hb₁.trans hb) hmends receiver _).returning _

theorem gated_refill (id : QueueId) :
    GatedRule tick base (k.refill id) ((k.restacked stack).refill id) := by
  unfold refill
  obtain ⟨hnone, hnone'⟩ | ⟨sender, k₁, hpop, hpop', hb₁⟩ :=
    popWaiter_restacked id .senders k stack
  · rw [hnone, hnone']
    exact .goes hb
  · rw [hpop, hpop']
    dsimp only
    rw [task_restacked]
    exact gated_wakeUp (k := k₁.putRing id _) (hb₁.trans hb) hmends sender
      Reply.done

theorem gated_receive (id : QueueId) (timeout : Tick) :
    GatedCall tick base (k.receive id timeout)
      ((k.restacked stack).receive id timeout) := by
  unfold receive
  rw [hasQueue_restacked, running_restacked, queue_restacked, idle_restacked]
  split
  · exact .done _ hb
  cases Tick.acceptTimeout timeout with
  | error error => exact .done _ hb
  | ok _ =>
      cases k.running with
      | none => exact .done _ hb
      | some current =>
          refine .require hb (by rw [task_restacked]; rfl) fun _ => ?_
          cases (k.queue id).ring.pop? with
          | some popped =>
              exact (gated_refill (k := k.putRing id popped.2) hb hmends
                id).returning _
          | none =>
              dsimp only
              split
              · exact .done _ hb
              split
              · exact .done _ hb
              · exact gated_awaitQueue hb hmends id current .receivers
                  none timeout

end Rules

end Kernel

end TickKernel
