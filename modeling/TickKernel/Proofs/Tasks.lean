/-
The calls that steer tasks, each with the outcomes it can have on the view of
an orderly kernel.  An outcome is certain when the guards are undamaged and, for
a call that ends the turn of the running task, when that task is runnable.
-/
import TickKernel.Proofs.Leaving

namespace TickKernel

namespace View

/-! ### Outcomes -/

/-- The outcomes of the periodic tick. -/
inductive Ticked (v : View) : View → Prop
  | stopped (hphase : v.phase ≠ .started) : Ticked v v
  | pending (hscheduled : v.scheduled ≠ none) : Ticked v v
  | now {current : TaskId} {w : View} (hrunning : v.running = some current)
      (hscheduled : v.scheduled = none)
      (hw : v.Rescheduled current w) : Ticked v w

/-- The running task falls asleep. -/
def dozing (v : View) (id : TaskId) (deadline : Tick) : View :=
  v.setTask id fun task =>
    { task with status := .waiting, deadline, flag := .none }

/-- The outcomes of going to sleep. -/
inductive Delayed (v : View) (ticks : Tick) : Except Error Unit → View → Prop
  | refused (error : Error) : Delayed v ticks (.error error) v
  | nothing (hticks : ticks = 0) : Delayed v ticks (.ok ()) v
  | slept {current : TaskId} {w : View} (hrunning : v.running = some current)
      (hready : current ∈ v.ready) (hidle : v.idle ≠ some current)
      (hw : (v.dozing current (v.platform.clock + ticks)).GaveUp current w)
      (hticks : ticks ≠ 0)
      (hmax : ticks ≤ Tick.maxTimeout) : Delayed v ticks (.ok ()) w

/-- The outcomes of suspending a task. -/
inductive Suspended (v : View) (id : TaskId) : Except Error Unit → View → Prop
  | refused (error : Error) : Suspended v id (.error error) v
  | stopped {w : View} (hrunning : v.running = some id) (hready : id ∈ v.ready)
      (hidle : v.idle ≠ some id)
      (hw : (v.setTask id fun task => { task with status := .suspended }).GaveUp
        id w) : Suspended v id (.ok ()) w
  | setAside (hidle : v.idle ≠ some id) (hnext : v.next ≠ some id) :
      Suspended v id (.ok ()) (v.shelved id)

/-- The outcomes of resuming a task. -/
inductive Resumed (v : View) (id : TaskId) : Except Error Unit → View → Prop
  | refused (error : Error) : Resumed v id (.error error) v
  | readied (hreg : v.Registered id)
      (hstatus : (v.task id).status = .suspended) :
      Resumed v id (.ok ()) (v.readied id)

/-- The outcome of the end of the running task's entry routine. -/
inductive Finished (v : View) : View → Prop
  | stopped {current : TaskId} {w : View} (hrunning : v.running = some current)
      (hready : current ∈ v.ready) (hidle : v.idle ≠ some current)
      (hw : (v.setTask current fun task =>
        { task with status := .finished }).GaveUp current w) : Finished v w

/-! ### Outcomes keep the invariant -/

section Passes

variable {v w : View} {departs : TaskId → Prop} {id : TaskId}
  {result : Except Error Unit}

theorem Ticked.passes (hw : v.Ticked w) (h : v.Orderly none) :
    v.Passes departs w := by
  cases hw with
  | stopped => exact Passes.refl h
  | pending => exact Passes.refl h
  | now hrunning hscheduled hw =>
      exact Passes.rescheduled h hrunning hscheduled hw

theorem Delayed.passes {ticks : Tick} (hw : v.Delayed ticks result w)
    (h : v.Orderly none) : v.Passes departs w := by
  cases hw with
  | refused => exact Passes.refl h
  | nothing => exact Passes.refl h
  | @slept current _ hrunning hready hidle hw =>
      have hflag := (h.parked.unblocked_task current (h.not_blocked hready)).1
      refine Passes.gaveUp h hrunning hready hidle rfl
        (fun hne => absurd rfl hne) ?_ hw
      rw [← hflag]

theorem Suspended.passes (hw : v.Suspended id result w) (h : v.Orderly none)
    (hdeparts : departs id) : v.Passes departs w := by
  cases hw with
  | refused => exact Passes.refl h
  | stopped hrunning hready hidle hw =>
      have hstatus :=
        h.not_waiting_of_ready hready (Option.some_ne_none id).symm
      exact Passes.gaveUp h hrunning hready hidle rfl
        (fun _ => h.queued.deadline_eq id hstatus) rfl hw
  | setAside hidle hnext =>
      exact Passes.shelved h hidle hnext fun _ _ => hdeparts

theorem Resumed.passes (hw : v.Resumed id result w) (h : v.Orderly none) :
    v.Passes departs w := by
  cases hw with
  | refused => exact Passes.refl h
  | readied hreg hstatus =>
      refine Passes.readied h hreg ?_ fun queue hmem => ?_
      · intro hnext
        have hactive :=
          h.staffed.active_of_next id hnext (Option.some_ne_none id).symm
        rw [hstatus] at hactive
        cases hactive
      · have hwaits : (v.task id).waitsFor = none :=
          h.parked.not_blocked (by rw [hstatus]; decide)
        exact absurd hmem (h.parked.not_mem_blocked hwaits _)

theorem Finished.passes (hw : v.Finished w) (h : v.Orderly none) :
    v.Passes departs w := by
  cases hw with
  | @stopped current _ hrunning hready hidle hw =>
      have hstatus :=
        h.not_waiting_of_ready hready (Option.some_ne_none current).symm
      exact Passes.gaveUp h hrunning hready hidle rfl
        (fun _ => h.queued.deadline_eq current hstatus) rfl hw

end Passes

/-- A ready task that is set aside has only its status to change. -/
theorem shelved_of_ready {v : View} {id : TaskId} (h : v.Orderly none)
    (hready : id ∈ v.ready) :
    v.shelved id =
      { v.setTask id fun task => { task with status := .suspended } with
      ready := v.ready.erase id } := by
  have hwaits := h.not_blocked hready
  obtain ⟨hflag, hmessage⟩ := h.parked.unblocked_task id hwaits
  have hwaiting := h.queued.not_mem_waiting hready
  have hdeadline := h.queued.deadline_eq id
    (h.not_waiting_of_ready hready (Option.some_ne_none id).symm)
  have hfree := h.parked.not_mem_blocked hwaits
  apply View.ext <;> try rfl
  · funext other
    simp only [shelved, setTask, Task.withoutWait]
    split
    · rw [← hwaits, ← hflag, ← hmessage, ← hdeadline]
    · rfl
  · exact List.erase_of_not_mem hwaiting
  · funext resource
    exact List.erase_of_not_mem (hfree resource)
  · funext queue
    simp only [shelved, unblocked, setTask]
    rw [List.erase_of_not_mem (hfree _)]
    split
    · exact ((h.supplied.nobody_iff queue).mpr ‹_›).symm
    · rfl

end View

/-! ### The calls -/

theorem Tick.le_maxTimeout_of_accept {timeout : Tick} {accepted : Unit}
    (h : Tick.acceptTimeout timeout = .ok accepted) :
    timeout ≤ Tick.maxTimeout := by
  unfold Tick.acceptTimeout at h
  split at h
  · cases h
  · exact UInt32.not_lt.mp ‹_›

/-- What is refused as a timeout is no timeout. -/
theorem Tick.acceptTimeout_ne {timeout : Tick} {error : Error}
    (h : Tick.acceptTimeout timeout = .error error) : error ≠ .timeout := by
  unfold Tick.acceptTimeout at h
  split at h
  · cases h
    decide
  · cases h

namespace View

/-- The running task, if any, is runnable. -/
def Able (v : View) : Prop :=
  ∀ id, v.running = some id → (v.task id).isRunnable = true

variable {v : View} {current : TaskId}

theorem Orderly.ready_of_able (h : v.Orderly none) (hable : v.Able)
    (hrunning : v.running = some current) : current ∈ v.ready :=
  (h.queued.mem_ready current).mpr
    ⟨h.staffed.running_registered current hrunning,
      Or.inr (hable current hrunning)⟩

theorem Orderly.started_of_running (h : v.Orderly none)
    (hrunning : v.running = some current) : v.phase = .started :=
  h.staffed.started_iff.mpr
    (by rw [hrunning]; exact Option.some_ne_none current)

end View

namespace Kernel

variable {k : Kernel} {v : View} {current id : TaskId}

theorem Shows.tick (h : k.Shows v) (ho : v.Orderly none) :
    Fulfils k.tick v.Guarded fun k' => ∃ w, v.Ticked w ∧ k'.Shows w := by
  unfold Kernel.tick
  by_cases hphase : v.phase = .started
  · obtain ⟨current, hrunning⟩ :=
      Option.ne_none_iff_exists'.mp (ho.staffed.started_iff.mp hphase)
    by_cases hscheduled : v.scheduled = none
    · have hready := ho.running_ready hrunning hscheduled
      refine (h.schedule (ho.onTheMove hready) hphase hrunning hscheduled).imp
        id ?_
      rintro k' ⟨w, hw, hk'⟩
      exact ⟨w, .now hrunning hscheduled hw, hk'⟩
    · unfold Kernel.schedule
      rw [if_neg (by rw [h.phase_eq, hphase]; decide), h.running_eq, hrunning]
      refine Fulfils.checkGuard (fun hsafe => ?_) fun _ => ?_
      · rw [h.task_eq]
        exact hsafe current (ho.staffed.running_registered current hrunning)
      rw [if_pos (by
        rw [h.scheduled_eq]; exact Option.isSome_iff_ne_none.mpr hscheduled)]
      exact Fulfils.ok ⟨v, .pending hscheduled, h⟩
  · unfold Kernel.schedule
    rw [if_pos (by rwa [h.phase_eq])]
    exact Fulfils.ok ⟨v, .stopped hphase, h⟩

/-- The task may have been prepared for its wait already. -/
theorem Shows.sleep (h : k.Shows v) {timeout : Tick} (flag : WaitFlag)
    {w : View}
    (hrunning : v.running = some current) (hphase : v.phase = .started)
    (hidle : v.idle ≠ some current)
    (hscheduled : v.scheduled = none → current ∈ v.ready)
    (hw : w = v.setTask current fun task =>
      { task with
        status := .waiting, deadline := v.platform.clock + timeout, flag })
    (ho : current ∈ v.ready → w.Orderly (some current)) :
    Fulfils (k.sleep timeout flag) (current ∈ v.ready ∧ v.Guarded)
      fun k' => ∃ w', current ∈ v.ready ∧ w.GaveUp current w' ∧
        k'.Shows w' := by
  have hstacks : v.SameStacks w := by
    rw [hw]
    exact View.SameStacks.setTask current rfl
  have hstatus : (w.task current).isRunnable = false := by
    rw [hw]
    simp [View.setTask, Task.isRunnable, TaskStatus.isRunnable]
  have hshows : Shows (k.modifyTask current fun task =>
      { task with
        status := .waiting, deadline := k.platform.clock + timeout, flag })
      w := by
    rw [hw, h.platform_eq]
    exact h.modifyTask current _
  have hsame : w.running = v.running ∧ w.phase = v.phase ∧
      w.scheduled = v.scheduled ∧
      w.ready = v.ready ∧ w.taskCount = v.taskCount := by
    rw [hw]
    exact ⟨rfl, rfl, rfl, rfl, rfl⟩
  obtain ⟨hsameRunning, hsamePhase, hsameScheduled, hsameReady, hsameCount⟩ :=
    hsame
  unfold Kernel.sleep
  rw [h.running_eq, hrunning]
  refine Fulfils.require (fun _ => ?_) fun _ => ?_
  · rw [h.idle_eq]
    exact bne_iff_ne.mpr hidle
  rw [← hsameReady] at ho hscheduled ⊢
  rw [← hsameScheduled] at hscheduled
  refine (hshows.giveUp ho (hsamePhase.trans hphase)
    (hsameRunning.trans hrunning) hscheduled hstatus).imp ?_ fun _ hk' => hk'
  rintro ⟨hready, hguarded⟩
  exact ⟨hready, hstacks.guarded hsameCount hguarded⟩

theorem Shows.delay (h : k.Shows v) (ho : v.Orderly none) (ticks : Tick) :
    Fulfils (k.delay ticks) (v.Able ∧ v.Guarded)
      fun verdict => ∃ w, v.Delayed ticks verdict.1 w ∧ verdict.2.Shows w := by
  have hrefuse : ∀ error, Fulfils (.ok (k.refuse (α := Unit) error))
      (v.Able ∧ v.Guarded)
      fun verdict => ∃ w, v.Delayed ticks verdict.1 w ∧ verdict.2.Shows w :=
    fun error => Fulfils.ok ⟨v, .refused error, h⟩
  unfold Kernel.delay
  by_cases hphase : v.phase = .started
  · rw [if_neg (by rw [h.phase_eq]; exact fun hne => hne hphase)]
    split
    · exact hrefuse _
    · rename_i haccept
      have hmax := Tick.le_maxTimeout_of_accept haccept
      by_cases hticks : ticks = 0
      · rw [if_pos hticks]
        exact Fulfils.ok ⟨v, .nothing hticks, h⟩
      rw [if_neg hticks]
      by_cases hidle : v.running = v.idle
      · rw [if_pos (by rw [h.running_eq, h.idle_eq, hidle])]
        exact hrefuse _
      rw [if_neg (by rwa [h.running_eq, h.idle_eq])]
      obtain ⟨current, hrunning⟩ :=
        Option.ne_none_iff_exists'.mp (ho.staffed.started_iff.mp hphase)
      have hnotIdle : v.idle ≠ some current := by
        rw [← hrunning]
        exact Ne.symm hidle
      refine Fulfils.bind ((h.sleep .none hrunning hphase hnotIdle
        (ho.running_ready hrunning) rfl fun hready => ?_).imp
          (And.imp_left fun hable => ho.ready_of_able hable hrunning)
          fun _ hk' => hk') ?_
      · have hflag :=
          (ho.parked.unblocked_task current (ho.not_blocked hready)).1
        exact ho.setTask hready hnotIdle rfl
          (fun hne => absurd rfl hne) (by simp) rfl hflag.symm rfl
      · rintro k' ⟨w, hready, hw, hk'⟩
        exact Fulfils.ok ⟨w, .slept hrunning hready hnotIdle hw hticks hmax,
          hk'⟩
  · rw [if_pos (by rwa [h.phase_eq])]
    exact hrefuse _

/-- The running task turns to something else than waiting. -/
theorem Shows.stop (h : k.Shows v) (ho : v.Orderly none)
    (hrunning : v.running = some current) (hidle : v.idle ≠ some current)
    (status : TaskStatus) (hstops : status.isRunnable = false)
    (hwaiting : status ≠ .waiting) :
    Fulfils ((k.setStatus current status).giveUp current)
      (current ∈ v.ready ∧ v.Guarded)
      fun k' => ∃ w, current ∈ v.ready ∧
        (v.setTask current fun task => { task with status }).GaveUp current w ∧
          k'.Shows w := by
  have hshows := h.modifyTask current fun task => { task with status }
  have hstatus : ((v.setTask current fun task => { task with status }).task
      current).isRunnable = false := by
    simp only [View.setTask, if_true]
    exact hstops
  have hstacks :
      v.SameStacks (v.setTask current fun task => { task with status }) :=
    View.SameStacks.setTask current rfl
  refine (hshows.giveUp (fun hready => ?_) (ho.started_of_running hrunning)
    hrunning (ho.running_ready hrunning) hstatus).imp
      (And.imp_right (hstacks.guarded rfl)) fun _ hk' => hk'
  refine ho.setTask hready hidle rfl (fun _ => ?_) ?_ rfl rfl rfl
  · exact ho.queued.deadline_eq current
      (ho.not_waiting_of_ready hready (Option.some_ne_none current).symm)
  · rintro rfl
    cases hstops

theorem Shows.finish (h : k.Shows v) (ho : v.Orderly none) :
    Fulfils k.finish
      (v.Able ∧ v.Guarded ∧ v.running ≠ none ∧ v.running ≠ v.idle)
      fun k' => ∃ w, v.Finished w ∧ k'.Shows w := by
  unfold Kernel.finish
  rw [h.running_eq]
  cases hrunning : v.running with
  | none => exact Fulfils.halt fun hsafe => hsafe.2.2.1 rfl
  | some current =>
      dsimp only
      by_cases hidle : v.idle = some current
      · rw [if_pos (by rw [h.idle_eq, hidle])]
        exact Fulfils.halt fun hsafe => hsafe.2.2.2 hidle.symm
      rw [if_neg (by rwa [h.idle_eq])]
      refine (h.stop ho hrunning hidle .finished rfl (by decide)).imp ?_ ?_
      · rintro ⟨hable, hguarded, -, -⟩
        exact ⟨ho.ready_of_able hable hrunning, hguarded⟩
      · rintro k' ⟨w, hready, hw, hk'⟩
        exact ⟨w, .stopped hrunning hready hidle hw, hk'⟩

theorem Shows.suspendWaiting (h : k.Shows v) (ho : v.Orderly none)
    (hid : id ∈ v.waiting) :
    ∃ k', k.suspendWaiting id = .ok k' ∧ k'.Shows (v.shelved id) := by
  obtain ⟨k₁, hunblock, hk₁⟩ := h.unblock ho id
  obtain ⟨k₂, hleave, hk₂⟩ := hk₁.leaveWaiting hid
  refine ⟨k₂.modifyTask id fun task =>
    { task with deadline := 0, status := .suspended },
    ?_, (hk₂.modifyTask id _).of_eq ?_⟩
  · rw [Kernel.suspendWaiting, hunblock]
    simp only [bind, Except.bind, pure, Except.pure, hleave]
  · have hready : id ∉ v.ready := fun hmem => ho.queued.not_mem_waiting hmem hid
    apply View.ext <;> try rfl
    · funext other
      simp only [View.setTask, View.unblocked, View.shelved]
      split <;> simp_all
    · exact (List.erase_of_not_mem hready).symm

theorem Shows.suspend (h : k.Shows v) (ho : v.Orderly none) (id : TaskId) :
    Fulfils (k.suspend id) v.Guarded
      fun verdict => ∃ w, v.Suspended id verdict.1 w ∧ verdict.2.Shows w := by
  have hrefuse : ∀ error, Fulfils (.ok (k.refuse (α := Unit) error)) v.Guarded
      fun verdict => ∃ w, v.Suspended id verdict.1 w ∧ verdict.2.Shows w :=
    fun error => Fulfils.ok ⟨v, .refused error, h⟩
  unfold Kernel.suspend
  by_cases hreg : v.Registered id
  swap
  · rw [if_pos (by simpa using mt (h.isRegistered_iff id).mp hreg)]
    exact hrefuse _
  rw [if_neg (by simpa using (h.isRegistered_iff id).mpr hreg)]
  by_cases hidle : v.idle = some id
  · rw [if_pos (by rw [h.idle_eq, hidle])]
    exact hrefuse _
  rw [if_neg (by rwa [h.idle_eq]), h.task_eq]
  cases hstatus : (v.task id).status with
  | suspended | finished => exact hrefuse _
  | active =>
      by_cases hrunning : v.running = some id
      · dsimp only
        rw [if_pos (by rw [h.running_eq, hrunning])]
        have hready : id ∈ v.ready := (ho.queued.mem_ready id).mpr
          ⟨hreg, Or.inr ((Task.isRunnable_iff _).mpr (Or.inr hstatus))⟩
        refine Fulfils.bind
          ((h.stop ho hrunning hidle .suspended rfl (by decide)).imp
          (fun hguarded => ⟨hready, hguarded⟩) fun _ hk' => hk') ?_
        rintro k' ⟨w, -, hw, hk'⟩
        exact Fulfils.ok ⟨w, .stopped hrunning hready hidle hw, hk'⟩
      · dsimp only
        rw [if_neg (by rwa [h.running_eq])]
        exact hrefuse _
  | ready =>
      have hready : id ∈ v.ready := (ho.queued.mem_ready id).mpr
        ⟨hreg, Or.inr ((Task.isRunnable_iff _).mpr (Or.inl hstatus))⟩
      obtain ⟨k', hleave, hk'⟩ := h.leaveReady hready
      dsimp only
      rw [hleave]
      refine Fulfils.ok ⟨_, .setAside hidle fun hnext => ?_,
        (hk'.modifyTask id _).of_eq (View.shelved_of_ready ho hready).symm⟩
      have hactive :=
        ho.staffed.active_of_next id hnext (Option.some_ne_none id).symm
      rw [hstatus] at hactive
      cases hactive
  | waiting =>
      have hwaiting : id ∈ v.waiting := (ho.queued.mem_waiting id).mpr
        ⟨hreg, hstatus, (Option.some_ne_none id).symm⟩
      obtain ⟨k', hsuspend, hk'⟩ := h.suspendWaiting ho hwaiting
      dsimp only
      rw [hsuspend]
      exact Fulfils.ok ⟨_, .setAside hidle (ho.not_next_of_waiting hwaiting),
        hk'⟩

/-- Whoever is set aside can be taken back. -/
theorem Shows.resume_suspended (h : k.Shows v) (ho : v.Orderly none)
    (hreg : v.Registered id) (hstatus : (v.task id).status = .suspended) :
    ∃ k' : Kernel, k.resume id = .ok (k'.accept ()) ∧
      k'.Shows (v.readied id) := by
  have hready : id ∉ v.ready := by
    intro hmem
    have hrunnable := ((ho.queued.mem_ready id).mp hmem).2
    simp [Task.isRunnable, hstatus, TaskStatus.isRunnable] at hrunnable
  obtain ⟨k', hreinstate, hk'⟩ := h.reinstate ho hready fun hwaiting => by
    rw [hstatus] at hwaiting
    cases hwaiting
  refine ⟨k', ?_, hk'⟩
  rw [Kernel.resume, if_neg (by simpa using (h.isRegistered_iff id).mpr hreg),
    h.task_eq, if_neg (not_not.mpr hstatus), hreinstate]
  rfl

theorem Shows.resume (h : k.Shows v) (ho : v.Orderly none) (id : TaskId) :
    Fulfils (k.resume id) v.Guarded
      fun verdict => ∃ w, v.Resumed id verdict.1 w ∧ verdict.2.Shows w := by
  have hrefuse : ∀ error, Fulfils (.ok (k.refuse (α := Unit) error)) v.Guarded
      fun verdict => ∃ w, v.Resumed id verdict.1 w ∧ verdict.2.Shows w :=
    fun error => Fulfils.ok ⟨v, .refused error, h⟩
  by_cases hreg : v.Registered id
  swap
  · rw [Kernel.resume,
      if_pos (by simpa using mt (h.isRegistered_iff id).mp hreg)]
    exact hrefuse _
  by_cases hstatus : (v.task id).status = .suspended
  swap
  · rw [Kernel.resume, if_neg (by simpa using (h.isRegistered_iff id).mpr hreg),
      h.task_eq, if_pos hstatus]
    exact hrefuse _
  obtain ⟨k', hresume, hk'⟩ := h.resume_suspended ho hreg hstatus
  rw [hresume]
  exact Fulfils.ok ⟨_, .readied hreg hstatus, hk'⟩

end Kernel

end TickKernel
