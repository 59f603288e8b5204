/-
Falling asleep and waking up.  In one call at most one task falls asleep, and
that is the running one: it takes its place among the waiting tasks by its
deadline, which is as far ahead of the clock as the call says.  Everybody else
who goes on waiting keeps deadline and place.  The clock itself is moved by few
calls.
-/
import TickKernel.Proofs.Waits

namespace TickKernel

/-- Calls about an object take no time. -/
theorem Call.lasts_of_object {call : Call} {resource : Resource}
    (h : call.object = some resource) : call.lasts = 0 := by
  cases call <;> first | rfl | cases h

namespace View

/-- What a call does to the waiting tasks. -/
inductive Lulls (v : View) (call : Call) (w : View) : Prop
  | nobody (hrest : w.waiting.Sublist v.waiting)
      (hkept : ∀ id ∈ w.waiting, (w.task id).deadline = (v.task id).deadline)
  | somebody (id : TaskId) (rest : List TaskId) (hstarted : v.phase = .started)
      (hrest : rest.Sublist v.waiting) (hnew : id ∉ v.waiting)
      (hwaiting : w.waiting = insertBefore (fun other =>
        Tick.precedes (w.task id).deadline (w.task other).deadline) id rest)
      (hdeadline : (w.task id).deadline = v.platform.clock + call.timeout)
      (hmax : call.timeout ≤ Tick.maxTimeout)
      (hkept : ∀ other ∈ rest,
        (w.task other).deadline = (v.task other).deadline)

section Lulls

variable {u v w : View} {call : Call} {reply : Reply}
  {current target id : TaskId}

/-! ### Deadlines under the moves -/

theorem deadline_stoodDown (v : View) (current id : TaskId) :
    ((v.stoodDown current).task id).deadline = (v.task id).deadline := by
  simp only [stoodDown]
  split
  · rename_i hmoves
    rw [← hmoves.1]
  · rfl

theorem task_readied_of_ne (v : View) (hne : target ≠ id) :
    (v.readied target).task id = v.task id :=
  if_neg hne

theorem deadline_dispatched (hne : target ≠ id) :
    ((v.dispatched current target).task id).deadline =
      (v.task id).deadline := by
  rw [dispatched, promoted, task_setTask_of_ne _ _ hne, deadline_stoodDown,
    task_readied_of_ne v hne]

/-- Whoever leaves the processor awake does not join those that wait. -/
theorem waiting_dispatched_awake (hawake : (v.task current).status ≠ .waiting)
    (hne : target ≠ current) :
    (v.dispatched current target).waiting = v.waiting.erase target := by
  change ((v.readied target).stoodDown current).waiting = _
  rw [stoodDown, task_readied_of_ne v hne, if_neg hawake]
  rfl

/-- Whoever leaves the processor asleep does, by its deadline. -/
theorem waiting_dispatched_asleep (hasleep : (v.task current).status = .waiting)
    (hne : target ≠ current) (hnodup : v.waiting.Nodup) :
    (v.dispatched current target).waiting = insertBefore (fun other =>
      Tick.precedes (v.task current).deadline (v.task other).deadline) current
        (v.waiting.erase target) := by
  change ((v.readied target).stoodDown current).waiting = _
  rw [stoodDown, task_readied_of_ne v hne, if_pos hasleep]
  refine insertBefore_congr fun other hother => ?_
  rw [task_readied_of_ne v fun heq =>
    (hnodup.mem_erase_iff.mp hother).1 heq.symm]
  rfl

/-! ### Deadlines under the outcomes -/

/-- Nobody falls asleep. -/
structure Rouses (v w : View) : Prop where
  waiting : w.waiting.Sublist v.waiting
  deadline : ∀ id ∈ w.waiting, (w.task id).deadline = (v.task id).deadline

/-- The running task, which is to wait, does. -/
structure Settles (v : View) (current : TaskId) (w : View) : Prop where
  deadline_self : (w.task current).deadline = (v.task current).deadline
  waiting : ∃ rest, rest.Sublist v.waiting ∧
    w.waiting = insertBefore (fun other =>
      Tick.precedes (v.task current).deadline (v.task other).deadline)
        current rest ∧
    ∀ other ∈ rest, (w.task other).deadline = (v.task other).deadline

theorem Rouses.refl (v : View) : v.Rouses v :=
  ⟨List.Sublist.refl _, fun _ _ => rfl⟩

theorem Rouses.trans (h : u.Rouses v) (h' : v.Rouses w) : u.Rouses w :=
  ⟨h'.waiting.trans h.waiting, fun id hid =>
    (h'.deadline id hid).trans (h.deadline id (h'.waiting.subset hid))⟩

theorem rouses_dispatched (hawake : (v.task current).status ≠ .waiting)
    (hne : target ≠ current) (hnodup : v.waiting.Nodup) :
    v.Rouses (v.dispatched current target) := by
  refine ⟨?_, fun id hid => deadline_dispatched ?_⟩
  · rw [waiting_dispatched_awake hawake hne]
    exact List.erase_sublist
  · rw [waiting_dispatched_awake hawake hne, hnodup.mem_erase_iff] at hid
    exact hid.1.symm

theorem settles_dispatched (hasleep : (v.task current).status = .waiting)
    (hne : target ≠ current) (hnodup : v.waiting.Nodup) :
    v.Settles current (v.dispatched current target) := by
  refine ⟨deadline_dispatched hne, v.waiting.erase target, List.erase_sublist,
    waiting_dispatched_asleep hasleep hne hnodup, fun other hother => ?_⟩
  exact deadline_dispatched (hnodup.mem_erase_iff.mp hother).1.symm

theorem Rescheduled.rouses (hw : v.Rescheduled current w)
    (hawake : (v.task current).status ≠ .waiting) (hnodup : v.waiting.Nodup) :
    v.Rouses w := by
  cases hw with
  | stays => exact .refl v
  | due target _ hne => exact rouses_dispatched hawake hne hnodup
  | chosen target _ hne => exact rouses_dispatched hawake hne hnodup

theorem Rescheduled.settles (hw : v.Rescheduled current w)
    (hasleep : (v.task current).status = .waiting) (hnodup : v.waiting.Nodup) :
    v.Settles current w := by
  cases hw with
  | stays hcurrent =>
      rw [Task.isRunnable, hasleep] at hcurrent
      cases hcurrent
  | due target _ hne => exact settles_dispatched hasleep hne hnodup
  | chosen target _ hne => exact settles_dispatched hasleep hne hnodup

theorem GaveUp.rouses (hw : v.GaveUp current w)
    (hawake : (v.task current).status ≠ .waiting) (hnodup : v.waiting.Nodup) :
    v.Rouses w := by
  cases hw with
  | pending =>
      refine ⟨?_, fun id _ => deadline_stoodDown v current id⟩
      rw [stoodDown, if_neg hawake]
  | now _ hw => exact hw.rouses hawake hnodup

theorem GaveUp.settles (hw : v.GaveUp current w)
    (hasleep : (v.task current).status = .waiting) (hnodup : v.waiting.Nodup) :
    v.Settles current w := by
  cases hw with
  | pending =>
      refine ⟨deadline_stoodDown v current current, v.waiting,
        List.Sublist.refl _, ?_,
        fun other _ => deadline_stoodDown v current other⟩
      rw [stoodDown, if_pos hasleep]
      rfl
  | now _ hw => exact hw.settles hasleep hnodup

theorem rouses_readied (v : View) (id : TaskId) (hnodup : v.waiting.Nodup) :
    v.Rouses (v.readied id) := by
  refine ⟨List.erase_sublist, fun other hother => ?_⟩
  rw [task_readied_of_ne v (hnodup.mem_erase_iff.mp hother).1.symm]

theorem rouses_shelved (v : View) (id : TaskId) (hnodup : v.waiting.Nodup) :
    v.Rouses (v.shelved id) := by
  refine ⟨List.erase_sublist, fun other hother => ?_⟩
  exact congrArg Task.deadline (if_neg (hnodup.mem_erase_iff.mp hother).1.symm)

theorem Orderly.running_active (h : v.Orderly none)
    (hrunning : v.running = some current) (hscheduled : v.scheduled = none) :
    (v.task current).status = .active :=
  h.staffed.active_of_next current (next_of_running hrunning hscheduled)
    (Option.some_ne_none _).symm

theorem Orderly.running_awake (h : v.Orderly none)
    (hrunning : v.running = some current) (hscheduled : v.scheduled = none) :
    (v.task current).status ≠ .waiting := by
  rw [h.running_active hrunning hscheduled]
  decide

theorem Ticked.rouses (hw : v.Ticked w) (h : v.Orderly none) : v.Rouses w := by
  cases hw with
  | stopped => exact .refl v
  | pending => exact .refl v
  | now hrunning hscheduled hw =>
      exact hw.rouses (h.running_awake hrunning hscheduled)
        h.queued.waiting_nodup

theorem Woke.rouses (hw : v.Woke id reply w) (h : v.Orderly none) :
    v.Rouses w := by
  have hpromised : v.Rouses (v.promised id reply) := by
    refine ⟨List.Sublist.refl _, fun other _ => ?_⟩
    by_cases heq : id = other
    · rw [← heq, promised, task_setTask_self]
    · rw [promised, task_setTask_of_ne v _ heq]
  refine hpromised.trans ?_
  cases hw with
  | now current hrunning hscheduled hne =>
      refine rouses_dispatched ?_ hne h.queued.waiting_nodup
      rw [promised, task_setTask_of_ne v _ hne]
      exact h.running_awake hrunning hscheduled
  | later => exact rouses_readied _ id h.queued.waiting_nodup

theorem Switched.rouses (hw : v.Switched w) : v.Rouses w :=
  ⟨by rw [hw.waiting_eq], fun id _ => (hw.alike id).deadline⟩

theorem Rouses.lulls (hw : v.Rouses w) : v.Lulls call w :=
  .nobody hw.waiting hw.deadline

/-- The running task has stopped to wait, and then does. -/
theorem Settles.lulls (hw : u.Settles id w) (hstarted : v.phase = .started)
    (hwaiting : u.waiting = v.waiting)
    (hothers : ∀ other, id ≠ other → u.task other = v.task other)
    (hnew : id ∉ v.waiting)
    (hdeadline : (u.task id).deadline = v.platform.clock + call.timeout)
    (hmax : call.timeout ≤ Tick.maxTimeout) : v.Lulls call w := by
  obtain ⟨rest, hrest, hplace, hkept⟩ := hw.waiting
  rw [hwaiting] at hrest
  refine .somebody id rest hstarted hrest hnew ?_
    (hw.deadline_self.trans hdeadline) hmax ?_
  · rw [hplace]
    refine insertBefore_congr fun other hother => ?_
    rw [hw.deadline_self, hkept other hother]
  · intro other hother
    rw [hkept other hother, hothers other]
    rintro rfl
    exact hnew (hrest.subset hother)

/-- Only a call in which the running task stops to wait makes anybody wait. -/
theorem Shape.lulls (hw : v.Shape call reply w) (h : v.Orderly none)
    (hcall : call ≠ .tearDown) : v.Lulls call w := by
  have hnodup := h.queued.waiting_nodup
  cases hw with
  | rests _ hw =>
      refine .nobody (by rw [hw.waiting]) fun id _ => ?_
      rw [hw.task id]
  | ticks _ hw => exact (hw.rouses h).lulls
  | @beats _ u saved hu =>
      have hadvanced := h.advanced
      have hrouses :=
        (hu.rouses hadvanced).trans (switched_switchedFrom u saved).rouses
      exact .nobody hrouses.waiting hrouses.deadline
  | switches saved => exact (switched_switchedFrom v saved).rouses.lulls
  | @stops _ _ id u _ hrunning hready hidle hu ho hw =>
      have hstarted : v.phase = .started :=
        h.staffed.started_iff.mpr (by simp [hrunning])
      have hnew := h.queued.not_mem_waiting hready
      have hothers : ∀ other, id ≠ other → u.task other = v.task other :=
        fun other hne => hu.alike hne
      have hwaiting : u.waiting = v.waiting := by rw [hu.lists_eq]
      cases hu with
      | dozes hticks hmax =>
          refine (hw.settles ?_ hnodup).lulls hstarted hwaiting hothers
            hnew ?_ hmax
          · rw [dozing, task_setTask_self]
          · rw [dozing, task_setTask_self]
            rfl
      | parks side message hobject hreply htimeout hmax =>
          refine (hw.settles ?_ hnodup).lulls hstarted hwaiting hothers
            hnew ?_ hmax
          · exact congrArg Task.status (if_pos rfl)
          · exact congrArg Task.deadline (if_pos rfl)
      | quits hwhy =>
          have hawake : ∀ status, status ≠ TaskStatus.waiting →
              ((v.setTask id fun task =>
              { task with status }).task id).status ≠ .waiting := by
            intro status hstatus
            rw [task_setTask_self]
            exact hstatus
          have hrouses := hw.rouses
            (hawake _ (by rcases hwhy with ⟨-, rfl⟩ | ⟨-, rfl⟩ <;> decide))
            hnodup
          refine .nobody hrouses.waiting fun other hother => ?_
          rw [hrouses.deadline other hother, hothers other]
          rintro rfl
          exact hnew (hrouses.waiting.subset hother)
  | @serves _ _ _ id u _ hu _ _ ho hw =>
      have hrouses := hw.rouses ho
      refine .nobody ?_ fun other hother => ?_
      · have hwaiting := hrouses.waiting
        rw [hu.lists] at hwaiting
        exact hwaiting
      · rw [hrouses.deadline other hother, hu.lists]
        simp only [unblocked, Task.withoutWait]
        split
        · rename_i heq
          rw [heq]
        · rfl
  | @resumes id => exact (rouses_readied v id hnodup).lulls
  | @shelves id => exact (rouses_shelved v id hnodup).lulls
  | @enrols spec _ new stack offset hnew =>
      refine .nobody (by rw [waiting_enrolled]) fun id hid => ?_
      rw [waiting_enrolled] at hid
      rw [task_enrolled, if_neg]
      rintro rfl
      exact not_registered_of_count hnew (h.registered_of_waiting hid)
  | enters first platform =>
      refine .nobody (List.Sublist.refl _) fun id _ => ?_
      change ((v.promoted first).task id).deadline = _
      rw [promoted, setTask]
      dsimp only
      split
      · rename_i heq
        rw [heq]
      · rfl
  | clears => exact absurd rfl hcall

end Lulls

/-! ### The clock -/

section Clock

variable {u v w : View} {call : Call} {reply : Reply}
  {current first id : TaskId}

theorem Stops.platform_eq (hu : v.Stops id call reply u) :
    u.platform = v.platform := by
  rw [hu.lists_eq]

theorem Stops.lasts_eq (hu : v.Stops id call reply u) : call.lasts = 0 := by
  cases hu with
  | dozes => rfl
  | parks side message hobject => exact Call.lasts_of_object hobject
  | quits hcall =>
      rcases hcall with ⟨rfl, -⟩ | ⟨rfl, -⟩ <;> rfl

theorem Woke.clock_eq (hw : v.Woke id reply w) :
    w.platform.clock = v.platform.clock := by
  cases hw <;> rfl

/-- Tasks are registered, and the first one is entered, before the kernel
schedules. -/
theorem not_started_of_open
    (hphase : v.phase = .prepared ∨ v.phase = .populated) :
    v.phase ≠ .started := by
  rcases hphase with hphase | hphase
  · rw [hphase]
    decide
  · rw [hphase]
    decide

/-- While the kernel schedules only few calls move the clock. -/
theorem Shape.clock_eq (hw : v.Shape call reply w)
    (hstarted : v.phase = .started) (hset : ∀ ticks, call ≠ .setClock ticks)
    (hcall : call ≠ .tearDown) :
    w.platform.clock = v.platform.clock + call.lasts := by
  have hstays : call.lasts = 0 → w.platform.clock = v.platform.clock →
      w.platform.clock = v.platform.clock + call.lasts := by
    intro hlasts hclock
    rw [hclock, hlasts, UInt32.add_zero]
  cases hw with
  | rests _ hw => exact hw.clock hstarted hset
  | ticks hwhich hw =>
      exact hstays (by rcases hwhich with rfl | rfl <;> rfl) hw.clock_eq
  | @beats _ u saved hu =>
      rw [(switched_switchedFrom u saved).lists]
      exact hu.clock_eq
  | switches saved hwhich =>
      refine hstays (by rcases hwhich with rfl | rfl <;> rfl) ?_
      rw [(switched_switchedFrom v saved).lists]
  | stops _ _ _ hu _ hw =>
      exact hstays hu.lasts_eq (hw.clock_eq.trans (by rw [hu.platform_eq]))
  | serves hu _ _ _ hw =>
      obtain ⟨resource, rest, hobject, -⟩ := hu.first
      refine hstays (Call.lasts_of_object hobject) (hw.clock_eq.trans ?_)
      rw [hu.lists]
      rfl
  | resumes => exact hstays rfl rfl
  | shelves => exact hstays rfl rfl
  | @enrols spec => exact hstays rfl (by cases spec.mode <;> rfl)
  | enters first platform hphase =>
      exact absurd hstarted (not_started_of_open (Or.inr hphase))
  | clears => exact absurd rfl hcall

theorem phase_dispatched (v : View) (current target : TaskId) :
    (v.dispatched current target).phase = v.phase := by
  simp only [dispatched, promoted, setTask, stoodDown, readied, unblocked]

theorem Rescheduled.phase_eq (hw : v.Rescheduled current w) :
    w.phase = v.phase := by
  cases hw with
  | stays => rfl
  | due target => exact phase_dispatched v current target
  | chosen target => exact phase_dispatched v current target

theorem GaveUp.phase_eq (hw : v.GaveUp current w) : w.phase = v.phase := by
  cases hw with
  | pending => rfl
  | now _ hw => exact hw.phase_eq

theorem Ticked.phase_eq (hw : v.Ticked w) : w.phase = v.phase := by
  cases hw with
  | stopped => rfl
  | pending => rfl
  | now _ _ hw => exact hw.phase_eq

theorem Woke.phase_eq (hw : v.Woke id reply w) : w.phase = v.phase := by
  cases hw with
  | now current => exact phase_dispatched (v.promised id reply) current id
  | later => rfl

/-- Scheduling goes on until the kernel is torn down. -/
theorem Shape.started (hw : v.Shape call reply w)
    (hstarted : v.phase = .started) (hcall : call ≠ .tearDown) :
    w.phase = .started := by
  cases hw with
  | rests _ hw => exact hw.started_iff.mpr hstarted
  | ticks _ hw => exact hw.phase_eq.trans hstarted
  | @beats _ u saved hu =>
      rw [(switched_switchedFrom u saved).lists]
      exact hu.phase_eq.trans hstarted
  | switches saved =>
      rw [(switched_switchedFrom v saved).lists]
      exact hstarted
  | stops _ _ _ hu _ hw =>
      refine hw.phase_eq.trans ?_
      rw [hu.lists_eq]
      exact hstarted
  | serves hu _ _ _ hw =>
      refine hw.phase_eq.trans ?_
      rw [hu.lists]
      exact hstarted
  | resumes => exact hstarted
  | shelves => exact hstarted
  | enrols _ hphase => exact absurd hstarted (not_started_of_open hphase)
  | enters => rfl
  | clears => exact absurd rfl hcall

/-! ### Who is dispatched -/

/-- The first waiting task, if it is overdue, gets the processor. -/
theorem Rescheduled.next_of_due (hw : v.Rescheduled current w)
    (hfirst : v.waiting.head? = some first)
    (hdue : Tick.reached v.platform.clock (v.task first).deadline = true) :
    w.next = some first := by
  have hnot : ¬v.NoneDue := fun hnone => by
    rw [hnone first hfirst] at hdue
    cases hdue
  cases hw with
  | stays _ hnone => exact absurd hnone hnot
  | due target _ _ _ hhead =>
      obtain rfl := Option.some.inj (hhead.symm.trans hfirst)
      rfl
  | chosen target _ _ hnone => exact absurd hnone hnot

theorem Ticked.next_of_due (hw : v.Ticked w) (hstarted : v.phase = .started)
    (hnone : v.scheduled = none) (hfirst : v.waiting.head? = some first)
    (hdue : Tick.reached v.platform.clock (v.task first).deadline = true) :
    w.next = some first := by
  cases hw with
  | stopped hphase => exact absurd hstarted hphase
  | pending hscheduled => exact absurd hnone hscheduled
  | now _ _ hw => exact hw.next_of_due hfirst hdue

/-- The call has a scheduling point: it asks for one, or the running task stops
in it. -/
def Decides (v : View) (call : Call) (w : View) : Prop :=
  call = .tick ∨ call = .schedule ∨ call = .beat ∨
    ∃ current, v.running = some current ∧ (w.task current).isRunnable = false

/-- Without a task that stops only calls that ask for it have a scheduling
point. -/
theorem Decides.call_eq (hdecides : v.Decides call w) (h : v.Orderly none)
    (hnone : v.scheduled = none)
    (hkeeps : ∀ current, v.running = some current →
      (v.task current).status = .active → (w.task current).isRunnable = true) :
    call = .tick ∨ call = .schedule ∨ call = .beat := by
  rcases hdecides with rfl | rfl | rfl | ⟨current, hrunning, hstops⟩
  · exact Or.inl rfl
  · exact Or.inr (Or.inl rfl)
  · exact Or.inr (Or.inr rfl)
  · rw [hkeeps current hrunning (h.running_active hrunning hnone)] at hstops
    cases hstops

theorem isRunnable_dispatched {target : TaskId} (hne : target ≠ current)
    (hable : (v.task current).isRunnable = true) :
    ((v.dispatched current target).task current).isRunnable = true := by
  have hready : ((v.readied target).stoodDown current).task current =
      { v.task current with status := .ready } := by
    rw [stoodDown, task_readied_of_ne v hne]
    exact if_pos ⟨rfl, hable⟩
  rw [dispatched, promoted, task_setTask_of_ne _ _ hne, hready]
  rfl

/-- Whoever is on the processor when another task is woken does not stop. -/
theorem Woke.isRunnable (hw : v.Woke id reply w)
    (hrunning : v.running = some current) (hne : id ≠ current)
    (hable : (v.task current).isRunnable = true) :
    (w.task current).isRunnable = true := by
  have hpromised : (v.promised id reply).task current = v.task current :=
    task_setTask_of_ne v _ hne
  cases hw with
  | now other hother =>
      obtain rfl := Option.some.inj (hother.symm.trans hrunning)
      refine isRunnable_dispatched hne ?_
      rw [hpromised]
      exact hable
  | later =>
      rw [task_readied_of_ne _ hne, hpromised]
      exact hable

/-- At any scheduling point the first waiting task, if it is overdue, gets the
processor. -/
theorem Shape.next_of_due (hw : v.Shape call reply w) (h : v.Orderly none)
    (hstarted : v.phase = .started) (hnone : v.scheduled = none)
    (hdecides : v.Decides call w) (hfirst : v.waiting.head? = some first)
    (hdue : Tick.reached (v.platform.clock + call.lasts)
      (v.task first).deadline = true) :
    w.next = some first := by
  have hable : ∀ current, (v.task current).status = .active →
      (v.task current).isRunnable = true := fun current hactive =>
    (Task.isRunnable_iff _).mpr (Or.inr hactive)
  have hnow : call.lasts = 0 →
      Tick.reached v.platform.clock (v.task first).deadline = true := by
    intro hlasts
    rwa [hlasts, UInt32.add_zero] at hdue
  cases hw with
  | rests hrest hw =>
      have hcall := hdecides.call_eq h hnone fun current _ hactive => by
        rw [hw.task current]
        exact hable current hactive
      rcases hcall with rfl | rfl | rfl <;> cases hrest
  | ticks hwhich hw =>
      exact hw.next_of_due hstarted hnone hfirst
        (hnow (by rcases hwhich with rfl | rfl <;> rfl))
  | @beats _ u saved hu =>
      rw [(switched_switchedFrom u saved).next_eq]
      exact hu.next_of_due hstarted hnone hfirst hdue
  | switches saved hwhich =>
      have hcall := hdecides.call_eq h hnone fun current _ hactive => by
        refine (Task.isRunnable_iff _).mpr (Or.inr ?_)
        rw [((switched_switchedFrom v saved).alike current).status, hactive]
      rcases hwhich with rfl | rfl <;> simp at hcall
  | @stops _ _ id u _ hrunning hready hidle hu ho hw =>
      have hlists := hu.lists_eq
      have hne : id ≠ first := by
        rintro rfl
        exact h.queued.not_mem_waiting hready (List.mem_of_mem_head? hfirst)
      cases hw with
      | pending hscheduled =>
          rw [hlists] at hscheduled
          exact absurd hnone hscheduled
      | now _ hw =>
          refine hw.next_of_due (by rw [hlists]; exact hfirst) ?_
          rw [hu.platform_eq, hu.alike hne]
          exact hnow hu.lasts_eq
  | @serves _ _ brought id u _ hu hbrings hreply ho hw =>
      obtain ⟨resource, rest, hobject, -⟩ := hu.first
      have hcall := hdecides.call_eq h hnone fun current hcurrent hactive => by
        have hne : id ≠ current := by
          rintro rfl
          exact hu.other hcurrent
        refine hw.isRunnable ?_ hne ?_
        · rw [hu.lists]
          exact hcurrent
        · rw [hu.lists]
          simp only [unblocked, if_neg hne]
          exact hable current hactive
      rcases hcall with rfl | rfl | rfl <;> cases hobject
  | @resumes id _ hreg hstatus =>
      have hcall := hdecides.call_eq h hnone fun current _ hactive => by
        rw [task_readied_of_ne v]
        · exact hable current hactive
        · rintro rfl
          rw [hactive] at hstatus
          cases hstatus
      simp at hcall
  | @shelves id _ hidle hnext =>
      have hcall := hdecides.call_eq h hnone fun current hcurrent hactive => by
        have hne : id ≠ current := by
          rintro rfl
          exact hnext (next_of_running hcurrent hnone)
        have hsame : (v.shelved id).task current = v.task current := if_neg hne
        rw [hsame]
        exact hable current hactive
      simp at hcall
  | enrols _ hphase => exact absurd hstarted (not_started_of_open hphase)
  | enters first platform hphase =>
      exact absurd hstarted (not_started_of_open (Or.inr hphase))
  | clears =>
      rcases hdecides with hcall | hcall | hcall | ⟨current, -, hstops⟩
      · cases hcall
      · cases hcall
      · cases hcall
      · cases hstops

end Clock

end View

end TickKernel
