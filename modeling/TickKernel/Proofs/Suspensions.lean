/-
Suspending a task and taking it back.  Whatever the task did, it is set aside
with nothing left of a wait; unless it has to leave the processor for that,
nothing else changes.  Taking it back puts it among the runnable tasks, where it
stands behind all that are as urgent.
-/
import TickKernel.Proofs.Handovers

namespace TickKernel

namespace Kernel

/-- Task `id` is set aside. -/
structure SetsAside (k : Kernel) (id : TaskId) (k' : Kernel) : Prop where
  task_eq : k'.task id =
    { (k.task id).withoutWait with deadline := 0, status := .suspended }
  not_ready : id ∉ k'.readyIds
  not_waiting : id ∉ k'.waitingIds
  not_blocked : ∀ resource, id ∉ k'.blockedIds resource
  /-- The object that it waited for keeps the others in their order. -/
  leaves : ∀ resource, (k.task id).waitsFor = some resource →
    id ∈ k.blockedIds resource ∧ k'.blockedIds resource =
      (k.blockedIds resource).erase id
  settles : ∀ queue, (k.task id).waitsFor = some (.queue queue) →
    (k.queue queue).waiters ≠ .nobody ∧ (k'.queue queue).waiters =
      if k'.blockedIds (.queue queue) = [] then .nobody
        else (k.queue queue).waiters
  /-- Nothing else changes unless it has to leave the processor. -/
  view_eq : k.running ≠ some id ∨ k.scheduled ≠ none →
    k'.view = k.view.shelved id
  /-- If it has to, somebody else is chosen. -/
  schedule_eq : k.running = some id → k.scheduled = none →
    (k.setStatus id .suspended).schedule = .ok k'

/-- Task `id`, which was set aside, is runnable again, and nothing else
changes. -/
structure TakesBack (k : Kernel) (id : TaskId) (k' : Kernel) : Prop where
  ready : FallsIn k.view.urgency id k.readyIds k'.readyIds
  view_eq : k'.view =
    { k.view.setTask id fun task => { task with status := .ready } with
    ready := k'.readyIds }

/-- What suspending task `id` comes to. -/
structure Suspends (k : Kernel) (id : TaskId) (reply : Reply) (k' : Kernel) :
    Prop where
  success_iff : reply.status = .success ↔ k.isRegistered id = true ∧
    k.idle ≠ some id ∧
    (k.task id).status ≠ .suspended ∧ (k.task id).status ≠ .finished ∧
    k.scheduled ≠ some id
  refused : reply.status ≠ .success → k' = k
  setsAside : reply.status = .success → k.SetsAside id k'
  takesBack : reply.status = .success →
    ∃ k'', k'.perform (.resume id) = .ok (.unit (.ok ()), k'') ∧
    k'.TakesBack id k'' ∧
      -- a task that was runnable all along only changes places
      ((k.task id).status = .ready →
        k''.view = { k.view with ready := k''.readyIds } ∧
        FallsIn k.view.urgency id (k.readyIds.erase id) k''.readyIds)

end Kernel

/-! ### Setting aside -/

namespace View

section Suspended

variable {v w : View} {id current target : TaskId} {departs : TaskId → Prop}

theorem task_stoodDown_stopped (hstops : (v.task current).isRunnable = false) :
    (v.stoodDown current).task current = v.task current := by
  simp only [stoodDown, hstops, Bool.false_eq_true, and_false, if_false]

/-- A task that cannot go on is left as it is when it gives up the processor. -/
theorem GaveUp.task_eq (hw : v.GaveUp current w)
    (hstops : (v.task current).isRunnable = false) :
    w.task current = v.task current := by
  have hdispatched : ∀ target, target ≠ current →
      (v.dispatched current target).task current = v.task current := by
    intro target hne
    have hsame := task_readied_of_ne v hne
    rw [dispatched, promoted, task_setTask_of_ne _ _ hne,
      task_stoodDown_stopped, hsame]
    rw [hsame]
    exact hstops
  cases hw with
  | pending => exact task_stoodDown_stopped hstops
  | now _ hw =>
      cases hw with
      | stays => rfl
      | due target _ hne => exact hdispatched target hne
      | chosen target _ hne => exact hdispatched target hne

/-- A task that does not wait has no wait to forget. -/
theorem Orderly.withoutWait_eq (h : v.Orderly none)
    (hstatus : (v.task id).status ≠ .waiting) :
    { (v.task id).withoutWait with deadline := 0 } = v.task id := by
  have hwaits := h.parked.not_blocked hstatus
  obtain ⟨hflag, hmessage⟩ := h.parked.unblocked_task id hwaits
  rw [Task.withoutWait, ← hwaits, ← hflag, ← hmessage,
    ← h.queued.deadline_eq id hstatus]

theorem Suspended.task_eq (hw : v.Suspended id (.ok ()) w)
    (h : v.Orderly none) :
    w.task id =
      { (v.task id).withoutWait with deadline := 0, status := .suspended } := by
  cases hw with
  | setAside => exact if_pos rfl
  | stopped hrunning hready hidle hw =>
      have hself := task_setTask_self v id fun task =>
        { task with status := .suspended }
      refine (hw.task_eq ?_).trans (hself.trans ?_)
      · rw [hself]
        rfl
      · exact congrArg (fun task => { task with status := .suspended })
          (h.withoutWait_eq
            (h.not_waiting_of_ready hready (Option.some_ne_none id).symm)).symm

/-- Only the task on the processor disturbs others when it is set aside. -/
theorem Suspended.shelved (hw : v.Suspended id (.ok ()) w) (h : v.Orderly none)
    (hnot : v.running ≠ some id ∨ v.scheduled ≠ none) : w = v.shelved id := by
  cases hw with
  | setAside => rfl
  | stopped hrunning hready _ hw =>
      rcases hnot with hother | hpending
      · exact absurd hrunning hother
      cases hw with
      | now hnone => exact absurd hnone hpending
      | pending =>
          have hself := task_setTask_self v id fun task =>
            { task with status := .suspended }
          rw [shelved_of_ready h hready, stoodDown, hself]
          apply View.ext <;> try rfl
          funext other
          exact if_neg fun hboth => Bool.false_ne_true hboth.2

theorem Suspended.taskCount_eq {result : Except Error Unit}
    (hw : v.Suspended id result w) (h : v.Orderly none) :
    w.taskCount = v.taskCount := by
  have hpasses : v.Passes (fun _ => True) w := hw.passes h trivial
  exact hpasses.keeps.taskCount

/-- Nothing is left of a wait when a task was set aside. -/
theorem readied_of_suspended (h : v.Orderly none)
    (hstatus : (v.task id).status = .suspended) :
    v.readied id =
      { v.setTask id fun task => { task with status := .ready } with
      ready := (v.readied id).ready } := by
  have hawake : (v.task id).status ≠ .waiting := by
    rw [hstatus]
    decide
  have hwaiting : id ∉ v.waiting := fun hmem =>
    hawake ((h.queued.mem_waiting id).mp hmem).2.1
  have hunblocked := unblocked_of_free h (h.parked.not_blocked hawake)
  have hblocked : (v.unblocked id).blocked = v.blocked := by
    rw [hunblocked]
    rfl
  have hwaiters : (v.unblocked id).waiters = v.waiters := by
    rw [hunblocked]
    rfl
  apply View.ext <;> try rfl
  · funext other
    exact congrArg
      (fun task => if id = other then { task with status := .ready }
      else v.task other) (h.withoutWait_eq hawake)
  · exact List.erase_of_not_mem hwaiting
  · exact hblocked
  · exact hwaiters

end Suspended

end View

namespace Kernel

section Suspends

variable {k k' k'' : Kernel} {id : TaskId} {result : Except Error Unit}

/-- Who is chosen next is active, and nobody else that is not on the
processor. -/
theorem Sound.running_iff_of_active (h : k.Sound)
    (hactive : (k.task id).status = .active) :
    k.running = some id ↔ k.scheduled ≠ some id := by
  have hnext : k.scheduled.or k.running = some id :=
    h.orderly.staffed.next_of_active id hactive
  constructor
  · exact fun hrunning hscheduled =>
      (h.orderly.staffed.scheduled_other id hscheduled).2.2 hrunning
  · intro hnot
    cases hscheduled : k.scheduled with
    | none => rwa [hscheduled, Option.none_or] at hnext
    | some other =>
        rw [hscheduled, Option.some_or] at hnext
        exact absurd (hscheduled.trans hnext) hnot

/-- The task that a pending switch is for is active. -/
theorem Sound.active_of_scheduled (h : k.Sound)
    (hscheduled : k.scheduled = some id) :
    (k.task id).status = .active := by
  apply h.orderly.staffed.active_of_next id _ (Option.some_ne_none id).symm
  rw [View.next, show k.view.scheduled = some id from hscheduled,
    Option.some_or]

theorem Sound.suspend_ok_iff (h : k.Sound)
    (hok : k.suspend id = .ok (result, k')) :
    result = .ok () ↔ k.isRegistered id = true ∧ k.idle ≠ some id ∧
      (k.task id).status ≠ .suspended ∧ (k.task id).status ≠ .finished ∧
        k.scheduled ≠ some id := by
  have hscheduled : k.scheduled = some id → (k.task id).status = .active :=
    h.active_of_scheduled
  have hruns : (k.task id).status = .active →
      (k.running = some id ↔ k.scheduled ≠ some id) :=
    h.running_iff_of_active
  unfold suspend at hok
  cases hreg : k.isRegistered id with
  | false =>
      rw [hreg] at hok
      cases hok
      simp
  | true =>
      rw [hreg] at hok
      by_cases hidle : k.idle = some id
      · rw [if_neg (by simp), if_pos hidle] at hok
        cases hok
        simp [hidle]
      · rw [if_neg (by simp), if_neg hidle] at hok
        cases hstatus : (k.task id).status with
        | suspended | finished =>
            rw [hstatus] at hok
            cases hok
            simp
        | active =>
            rw [hstatus] at hok
            dsimp only at hok
            by_cases hrunning : k.running = some id
            · rw [if_pos hrunning] at hok
              obtain ⟨_, -, hok⟩ := eq_ok_of_bind hok
              cases hok
              simp [hidle, (hruns hstatus).mp hrunning]
            · rw [if_neg hrunning] at hok
              cases hok
              simp [mt (hruns hstatus).mpr hrunning]
        | ready | waiting =>
            rw [hstatus] at hok
            obtain ⟨_, -, hok⟩ := eq_ok_of_bind hok
            cases hok
            have hother : k.scheduled ≠ some id :=
              mt hscheduled (by rw [hstatus]; decide)
            simp [hidle, hother]

/-- Who is not active is not the one that goes on. -/
theorem Sound.not_on_processor (h : k.Sound)
    (hstatus : (k.task id).status ≠ .active) :
    k.running ≠ some id ∨ k.scheduled ≠ none := by
  by_contra hboth
  rw [not_or, not_ne_iff, not_ne_iff] at hboth
  exact hstatus (h.orderly.running_active hboth.1 hboth.2)

/-- A task that leaves the processor for good forces a decision. -/
theorem Sound.schedule_of_suspend (h : k.Sound) (hrunning : k.running = some id)
    (hscheduled : k.scheduled = none) (hidle : k.idle ≠ some id)
    {answer : Answer} (hperform : k.perform (.suspend id) = .ok (answer, k')) :
    (k.setStatus id .suspended).schedule = .ok k' := by
  have hstarted : k.phase = .started := h.orderly.started_of_running hrunning
  obtain ⟨_, hforced⟩ :=
    Forces.suspend.perform h hrunning hscheduled hidle hstarted
  obtain ⟨_, hschedule, heq⟩ := eq_ok_of_map (hforced.symm.trans hperform)
  cases heq
  exact hschedule

theorem Sound.suspended (h : k.Sound)
    (hperform : k.perform (.suspend id) = .ok (.unit result, k')) :
    k.view.Suspended id result k'.view ∧ k'.Sound := by
  obtain ⟨hw, h'⟩ := h.performs hperform
  generalize k'.view = w at hw ⊢
  cases hw with
  | suspend hw => exact ⟨hw, h'⟩

theorem Sound.setsAside (h : k.Sound) (hidle : k.idle ≠ some id)
    (hperform : k.perform (.suspend id) = .ok (.unit (.ok ()), k')) :
    k.SetsAside id k' := by
  obtain ⟨hsuspended, h'⟩ := h.suspended hperform
  have htask : k'.task id =
      { (k.task id).withoutWait with deadline := 0, status := .suspended } :=
    hsuspended.task_eq h.orderly
  have hstatus : (k'.task id).status = .suspended := by rw [htask]
  have hwaits : (k'.task id).waitsFor = none := by rw [htask, Task.withoutWait]
  have hview : ∀ resource, (k.task id).waitsFor = some resource →
      k'.view = k.view.shelved id := by
    intro resource hfor
    have hwaiting := (h.orderly.parked.blocked_task resource id hfor).2.1
    refine hsuspended.shelved h.orderly (h.not_on_processor fun hactive => ?_)
    rw [show (k.view.task id).status = .active from hactive] at hwaiting
    cases hwaiting
  have hleaves : ∀ resource, (k.task id).waitsFor = some resource →
      id ∈ k.blockedIds resource ∧
        k'.blockedIds resource = (k.blockedIds resource).erase id := by
    intro resource hfor
    refine ⟨(h.orderly.parked.mem_blocked resource id).mpr hfor, ?_⟩
    rw [show k'.blockedIds = _ from congrArg View.blocked (hview resource hfor)]
    rfl
  refine ⟨htask, ?_, ?_, h'.orderly.parked.not_mem_blocked hwaits, hleaves, ?_,
    hsuspended.shelved h.orderly, fun hrunning hscheduled =>
      h.schedule_of_suspend hrunning hscheduled hidle hperform⟩
  · rw [h'.mem_readyIds, hstatus]
    simp
  · rw [h'.mem_waitingIds, hstatus]
    simp
  · intro queue hfor
    obtain ⟨hmem, hblocked⟩ := hleaves _ hfor
    constructor
    · intro hnobody
      rw [show k.blockedIds (.queue queue) = [] from
        (h.orderly.supplied.nobody_iff queue).mp hnobody] at hmem
      cases hmem
    · rw [hblocked]
      exact congrFun (congrArg View.waiters (hview _ hfor)) queue

theorem Sound.takesBack (h : k.Sound) (hreg : k.isRegistered id = true)
    (hstatus : (k.task id).status = .suspended) :
    ∃ k', k.perform (.resume id) = .ok (.unit (.ok ()), k') ∧
      k.TakesBack id k' := by
  obtain ⟨k', hresume, hshows⟩ := h.shows.resume_suspended h.orderly
    ((h.shows.isRegistered_iff id).mp hreg) hstatus
  have hnot : id ∉ k.readyIds := by
    rw [h.mem_readyIds, hstatus]
    simp
  have hready : k'.readyIds = (k.view.readied id).ready := hshows.readyIds_eq
  refine ⟨k', ?_, ?_, ?_⟩
  · rw [perform, hresume]
    rfl
  · rw [hready]
    exact View.fallsIn_readied h.orderly hnot
  · rw [hready, ← View.readied_of_suspended h.orderly hstatus]
    exact hshows.view_eq

/-- A runnable task that is set aside and taken back only changes places. -/
theorem Sound.takesBack_ready (h : k.Sound)
    (hstatus : (k.task id).status = .ready) (hready : id ∈ k.readyIds)
    (hview : k'.view = k.view.shelved id) (hback : k'.TakesBack id k'') :
    k''.view = { k.view with ready := k''.readyIds } ∧
      FallsIn k.view.urgency id (k.readyIds.erase id) k''.readyIds := by
  have hfalls := hback.ready
  have hshelved := View.shelved_of_ready h.orderly hready
  rw [show k'.readyIds = k.readyIds.erase id from congrArg View.ready hview,
    hview, (View.linesUp_shelved k.view id).urgency] at hfalls
  refine ⟨?_, hfalls⟩
  rw [hback.view_eq, hview, hshelved]
  apply View.ext <;> try rfl
  funext other
  simp only [View.setTask, if_true]
  by_cases heq : id = other
  · rw [if_pos heq, ← hstatus, ← heq]
    rfl
  · rw [if_neg heq, if_neg heq]

/-- Whoever was set aside can be taken back right away. -/
theorem Sound.takesBack_suspended (h : k.Sound)
    (hreg : k.isRegistered id = true)
    (hperform : k.perform (.suspend id) = .ok (.unit (.ok ()), k'))
    (haside : k.SetsAside id k') :
    ∃ k'', k'.perform (.resume id) = .ok (.unit (.ok ()), k'') ∧
      k'.TakesBack id k'' ∧
      ((k.task id).status = .ready →
        k''.view = { k.view with ready := k''.readyIds } ∧
        FallsIn k.view.urgency id (k.readyIds.erase id) k''.readyIds) := by
  obtain ⟨hsuspended, h'⟩ := h.suspended hperform
  have hcount : k'.taskCount = k.taskCount := hsuspended.taskCount_eq h.orderly
  have hreg' : k'.isRegistered id = true := by
    rw [isRegistered, hcount]
    exact hreg
  obtain ⟨k'', hresume, hback⟩ := h'.takesBack hreg' (by rw [haside.task_eq])
  refine ⟨k'', hresume, hback, fun hstatus => ?_⟩
  have hready : id ∈ k.readyIds :=
    (h.mem_readyIds id).mpr ⟨hreg, Or.inl hstatus⟩
  refine h.takesBack_ready hstatus hready
    (haside.view_eq (h.not_on_processor ?_)) hback
  rw [hstatus]
  decide

/-- An answer is a success exactly if it is none of the errors. -/
theorem toReply_unit_iff (result : Except Error Unit) :
    (Answer.unit result).toReply.status = .success ↔ result = .ok () := by
  cases result with
  | ok _ => exact iff_of_true rfl rfl
  | error error => exact iff_of_false error.status_ne_success (by simp)

/-- How the call ends, and what it leaves behind. -/
theorem Sound.suspends_of_perform (h : k.Sound) {answer : Answer}
    (hperform : k.perform (.suspend id) = .ok (answer, k')) :
    k.Suspends id answer.toReply k' := by
  obtain ⟨⟨result, k₁⟩, hok, hanswer⟩ := eq_ok_of_map hperform
  cases hanswer
  have hiff := h.suspend_ok_iff hok
  have hsuccess := toReply_unit_iff result
  refine ⟨hsuccess.trans hiff, fun hrefused => ?_, fun htold => ?_,
    fun htold => ?_⟩
  · rw [ne_eq, hsuccess] at hrefused
    cases result with
    | ok _ => exact absurd rfl hrefused
    | error error =>
        exact (refuses_suspend id error k₁ hok).resolve_right fun hblock =>
          Bool.false_ne_true hblock.1
  · obtain rfl := hsuccess.mp htold
    exact h.setsAside (hiff.mp rfl).2.1 hperform
  · obtain rfl := hsuccess.mp htold
    obtain ⟨hreg, hidle, -⟩ := hiff.mp rfl
    exact h.takesBack_suspended hreg hperform (h.setsAside hidle hperform)

end Suspends

end Kernel

/-- Whatever a task does, suspending it sets it aside if that is allowed, and
resuming it then makes it runnable and nothing else. -/
theorem Run.suspends {step : Step} {earlier : List Step} {k : Kernel}
    {id : TaskId} (hrun : Run (step :: earlier) k)
    (hcall : step.call.direct = .suspend id) :
    step.before.Suspends id step.answer.toReply k := by
  obtain ⟨hbefore, rfl, hperform⟩ := hrun.last
  obtain ⟨other, hdirect, hreply⟩ := Kernel.perform_direct hperform
  rw [hcall] at hdirect
  rw [← hreply]
  exact hbefore.sound.suspends_of_perform hdirect

namespace Witness

/-- Task A waits for room in a queue with its message when task B suspends
it. -/
def withdrawn : List Call :=
  trio ++ [.createQueue 1, .send box 7 0, .send box 8 9, .switchOver,
    .suspend taskA]

theorem suspends_withdrawn :
    ∃ step earlier k, Run (step :: earlier) k ∧
      step.call.direct = .suspend taskA ∧
      (step.before.task taskA).waitsFor = some (.queue box) ∧
      (step.before.task taskA).message = 8 ∧
      step.answer.toReply.status = .success ∧
      step.before.Suspends taskA step.answer.toReply k := by
  obtain ⟨step, earlier, hrun, hstep⟩ := exists_last withdrawn
    (fun step => step.call == .suspend taskA &&
      (step.before.task taskA).waitsFor == some (.queue box) &&
      (step.before.task taskA).message == 8 &&
      step.answer.toReply.status == .success)
    (by decide +kernel)
  simp only [Bool.and_eq_true, beq_iff_eq] at hstep
  obtain ⟨⟨⟨hcall, hwaits⟩, hmessage⟩, hsuccess⟩ := hstep
  have hdirect : step.call.direct = .suspend taskA := by
    rw [hcall]
    rfl
  exact ⟨step, earlier, _, hrun, hdirect, hwaits, hmessage, hsuccess,
    hrun.suspends hdirect⟩

end Witness

end TickKernel
