/-
No wait ends before its time.  However often the clock goes around, as long as
fewer ticks have passed than the call that began a wait asked for, the wait ends
only because a call serves it, because the task is suspended, or because the
kernel is torn down.
-/
import TickKernel.Proofs.Deadlines

namespace TickKernel

/-- A call that may keep its caller waiting takes no time itself. -/
theorem Call.lasts_of_timeout {call : Call} (h : call.timeout ≠ 0) :
    call.lasts = 0 := by
  cases call <;> first | rfl | exact absurd rfl h

namespace View

variable {v w : View} {call : Call} {reply : Reply} {id : TaskId}
  {ticks passed : Nat}

/-! ### A single wait -/

theorem Lulls.deadline_kept (h : v.Lulls call w) (hid : id ∈ v.waiting)
    (hstill : id ∈ w.waiting) :
    (w.task id).deadline = (v.task id).deadline := by
  cases h with
  | nobody _ hkept => exact hkept id hstill
  | somebody sleeper rest _ _ hnew hwaiting _ _ hkept =>
      rw [hwaiting, mem_insertBefore] at hstill
      rcases hstill with rfl | hstill
      · exact absurd hid hnew
      · exact hkept id hstill

theorem Lulls.deadline_new (h : v.Lulls call w) (hnew : id ∉ v.waiting)
    (hid : id ∈ w.waiting) : v.phase = .started ∧
      (w.task id).deadline = v.platform.clock + call.timeout ∧
        call.timeout ≤ Tick.maxTimeout := by
  cases h with
  | nobody hrest => exact absurd (hrest.subset hid) hnew
  | somebody sleeper rest hstarted hrest _ hwaiting hdeadline hmax =>
      rw [hwaiting, mem_insertBefore] at hid
      rcases hid with rfl | hid
      · exact ⟨hstarted, hdeadline, hmax⟩
      · exact absurd (hrest.subset hid) hnew

/-- The task waits, and its deadline is the given number of ticks after the
moment since when so many have passed. -/
structure Asleep (v : View) (id : TaskId) (ticks passed : Nat) : Prop where
  waiting : id ∈ v.waiting
  started : v.phase = .started
  sync : (v.task id).deadline + .ofNat passed = v.platform.clock + .ofNat ticks

/-- Nothing has passed when a task has just fallen asleep. -/
theorem Asleep.begin (hw : v.Shape call reply w) (h : v.Orderly none)
    (hcall : call ≠ .tearDown) (htimeout : call.timeout ≠ 0)
    (hset : ∀ ticks, call ≠ .setClock ticks) (hnew : id ∉ v.waiting)
    (hid : id ∈ w.waiting) :
    w.Asleep id call.timeout.toNat 0 := by
  obtain ⟨hstarted, hdeadline, -⟩ := (hw.lulls h hcall).deadline_new hnew hid
  refine ⟨hid, hw.started hstarted hcall, ?_⟩
  rw [hdeadline, hw.clock_eq hstarted hset hcall,
    Call.lasts_of_timeout htimeout, UInt32.ofNat_toNat, UInt32.add_zero]
  exact UInt32.add_zero _

/-- A wait that goes on stays in step with the clock. -/
theorem Asleep.goesOn (hasleep : v.Asleep id ticks passed)
    (hw : v.Shape call reply w) (h : v.Orderly none) (hcall : call ≠ .tearDown)
    (hset : ∀ ticks, call ≠ .setClock ticks) (hstill : id ∈ w.waiting) :
    w.Asleep id ticks (passed + call.lasts.toNat) := by
  refine ⟨hstill, hw.started hasleep.started hcall, ?_⟩
  rw [(hw.lulls h hcall).deadline_kept hasleep.waiting hstill,
    hw.clock_eq hasleep.started hset hcall]
  exact Tick.sync_advance hasleep.sync call.lasts

/-- Before its time the deadline of a wait is not reached. -/
theorem Asleep.not_reached (hasleep : v.Asleep id ticks passed)
    (hw : v.Shape call reply w) (hcall : call ≠ .tearDown)
    (hset : ∀ ticks, call ≠ .setClock ticks)
    (hearly : passed + call.lasts.toNat < ticks)
    (hmax : ticks ≤ Tick.maxTimeout.toNat) :
    Tick.reached w.platform.clock (v.task id).deadline ≠ true := by
  intro hreached
  rw [hw.clock_eq hasleep.started hset hcall, Tick.reached_iff
    (Tick.sync_advance hasleep.sync call.lasts)
    (Nat.le_trans hmax (Nat.le_add_left _ _))
    (Nat.le_trans (Nat.le_of_lt hearly) (Nat.le_add_right _ _))] at hreached
  exact Nat.not_le_of_lt hearly hreached

/-- A task that waits is set aside when it is suspended and waits no longer. -/
theorem Shape.setAside (hw : v.Shape (.suspend id) reply w) (h : v.Orderly none)
    (hid : id ∈ v.waiting) (hgone : id ∉ w.waiting) :
    (w.task id).status = .suspended := by
  cases hw with
  | rests _ hw => exact absurd (hw.waiting ▸ hid) hgone
  | ticks hcall => rcases hcall with hcall | hcall <;> cases hcall
  | switches saved hcall => rcases hcall with hcall | hcall <;> cases hcall
  | @stops _ _ current _ _ _ hready _ hu =>
      cases hu with
      | parks _ _ hobject => cases hobject
      | quits hcall =>
          rcases hcall with ⟨hcall, -⟩ | ⟨hcall, -⟩
          · obtain rfl := Call.suspend.inj hcall
            exact absurd hid (h.queued.not_mem_waiting hready)
          · cases hcall
  | serves hu =>
      obtain ⟨resource, rest, hobject, -⟩ := hu.first
      cases hobject
  | shelves => simp [shelved]

end View

/-! ### Waits in a history -/

/-- The ways in which a wait may end before its time. -/
inductive Step.Interrupts (step : Step) (id : TaskId) : Prop
  /-- A mutex is released, or a message sent or received, and the task, which
  has waited longest for it, is woken. -/
  | serves
      (hserved : step.before.view.Served step.call.direct step.answer.toReply id
      step.after.view) : Interrupts step id
  | suspends (hcall : step.call.direct = .suspend id)
      (hstatus : (step.after.task id).status = .suspended) : Interrupts step id
  | drops (hcall : step.call.direct = .tearDown) : Interrupts step id

/-- The wait has ended in one of these ways, and had gone on until then. -/
def Interrupted (id : TaskId) (later : List Step) : Prop :=
  ∃ newer step older, later = newer ++ step :: older ∧
    (∀ earlier ∈ older, id ∈ earlier.after.waitingIds) ∧
      id ∉ step.after.waitingIds ∧ step.Interrupts id

section History

variable {step first : Step} {steps later earlier : List Step} {k : Kernel}
  {id : TaskId} {ticks : Nat}

theorem Interrupted.cons (h : Interrupted id later) (step : Step) :
    Interrupted id (step :: later) := by
  obtain ⟨newer, last, older, rfl, hrest⟩ := h
  exact ⟨step :: newer, last, older, rfl, hrest⟩

theorem Step.keepsTime.ne_setClock (h : step.keepsTime = true)
    (hstarted : step.before.view.phase = .started) :
    ∀ ticks, step.call.direct ≠ .setClock ticks := by
  rintro ticks hcall
  rw [Step.keepsTime, Bool.or_eq_true, bne_iff_ne, hcall] at h
  exact h.elim (fun hnot => hnot hstarted) fun hset => by cases hset

/-- Before its time a wait goes on or is interrupted. -/
theorem Run.staysAsleep (hrun : Run (step :: steps) k)
    (hkeeps : step.keepsTime = true)
    (hasleep : step.before.view.Asleep id ticks (elapsed later))
    (hearly : elapsed (step :: later) < ticks)
    (hmax : ticks ≤ Tick.maxTimeout.toNat) :
    k.view.Asleep id ticks (elapsed (step :: later)) ∨
      id ∉ step.after.view.waiting ∧ step.Interrupts id := by
  obtain ⟨-, rfl, -⟩ := hrun.last
  obtain ⟨ho, hw, -⟩ := hrun.performs
  have hset := Step.keepsTime.ne_setClock hkeeps hasleep.started
  by_cases hcall : step.call.direct = .tearDown
  · refine Or.inr ⟨?_, .drops hcall⟩
    rw [hw.tornDown hcall]
    exact List.not_mem_nil
  · have hshape := hw.shape ho
    by_cases hstill : id ∈ step.after.view.waiting
    · exact Or.inl (hasleep.goesOn hshape ho hcall hset hstill)
    · refine Or.inr ⟨hstill, ?_⟩
      rcases hshape.served_or_lapsed ho hcall hasleep.waiting
        hstill with hserved | hlapsed
      · exact .serves hserved
      · have hcause := hlapsed.cause.resolve_right
          (hasleep.not_reached hshape hcall hset hearly hmax)
        rw [hcause] at hshape
        exact .suspends hcause (hshape.setAside ho hasleep.waiting hstill)

/-- While fewer ticks have passed than the call that began a wait asked for, the
task waits, unless it was woken for what it waits for, suspended, or torn
down. -/
theorem Run.patient (hrun : Run (later ++ first :: earlier) k)
    (hlulls : first.lulls id = true)
    (hkeeps : ∀ step ∈ later, step.keepsTime = true)
    (hearly : elapsed later < first.call.direct.timeout.toNat) :
    ((k.task id).status = .waiting ∧ ∀ step ∈ later,
      id ∈ step.after.waitingIds) ∨
      Interrupted id later := by
  obtain ⟨hnew, hid⟩ := first.lulls_iff.mp hlulls
  have htimeout : first.call.direct.timeout ≠ 0 := by
    intro hzero
    rw [hzero] at hearly
    exact Nat.not_lt_zero _ hearly
  have hcall : first.call.direct ≠ .tearDown :=
    fun hcall => htimeout (by rw [hcall]; rfl)
  obtain ⟨ho, hw, -⟩ := (hrun.of_suffix (List.suffix_append later _)).performs
  have hmax := ((hw.shape ho).lulls ho hcall).deadline_new hnew hid
  -- Every further call keeps the wait in step with the clock, or else
  -- interrupts it.
  suffices hlater :
      (k.view.Asleep id first.call.direct.timeout.toNat (elapsed later) ∧
      ∀ step ∈ later, id ∈ step.after.waitingIds) ∨ Interrupted id later by
    refine hlater.imp_left fun hgoes => ⟨?_, hgoes.2⟩
    exact ((hrun.sound.orderly.queued.mem_waiting id).mp hgoes.1.waiting).2.1
  induction later generalizing k with
  | nil =>
      obtain ⟨-, rfl, -⟩ := hrun.last
      refine Or.inl ⟨.begin (hw.shape ho) ho hcall htimeout ?_ hnew hid, ?_⟩
      · exact fun ticks hset => htimeout (by rw [hset]; rfl)
      · exact fun step hstep => absurd hstep List.not_mem_nil
  | cons step rest ih =>
      obtain ⟨hbefore, hafter, -⟩ := hrun.last
      have hless : elapsed rest < first.call.direct.timeout.toNat :=
        Nat.lt_of_le_of_lt (Nat.le_add_right _ _) hearly
      rcases ih hbefore
        (fun other hother => hkeeps other (List.mem_cons_of_mem step hother))
        hless with ⟨hasleep, hwaits⟩ | hinterrupted
      · rcases hrun.staysAsleep (hkeeps step List.mem_cons_self) hasleep hearly
          (UInt32.le_iff_toNat_le.mp hmax.2.2) with hgoes | ⟨hgone, hinterrupts⟩
        · refine Or.inl ⟨hgoes, List.forall_mem_cons.mpr ⟨?_, hwaits⟩⟩
          rw [← hafter]
          exact hgoes.waiting
        · exact Or.inr ⟨[], step, rest, rfl, hwaits, hgone, hinterrupts⟩
      · exact Or.inr (hinterrupted.cons step)

end History

namespace Witness

/-- Task A falls asleep for 20 ticks when 6 are left until the clock goes
around.  The others run, and one of them falls asleep as well, before 19 ticks
have passed. -/
def aroundTheClock : List Call :=
  trio.dropLast ++ [.advance 4294967290, .start, .delay 20, .beat,
    .advance 10, .tick, .switchOver, .delay 3, .advance 7, .beat]

theorem patient_aroundTheClock :
    (history aroundTheClock).2.platform.clock = 13 ∧
      ∃ first earlier,
        (history aroundTheClock).1 = (history aroundTheClock).1.take 7 ++
        first :: earlier ∧
        first.lulls taskA = true ∧ first.call.direct.timeout = 20 ∧
        elapsed ((history aroundTheClock).1.take 7) = 19 ∧
        ((((history aroundTheClock).2.task taskA).status = .waiting ∧
          ∀ step ∈ (history aroundTheClock).1.take 7,
          taskA ∈ step.after.waitingIds) ∨
            Interrupted taskA ((history aroundTheClock).1.take 7)) := by
  refine ⟨by decide +kernel, ?_⟩
  obtain ⟨first, earlier, hsteps, hfirst⟩ :=
    exists_split (history aroundTheClock).1 7
    (fun first => first.lulls taskA && decide (first.call.direct.timeout = 20))
    (by decide +kernel)
  rw [Bool.and_eq_true, decide_eq_true_eq] at hfirst
  have hrun := run_history aroundTheClock
  rw [hsteps] at hrun
  exact ⟨first, earlier, hsteps, hfirst.1, hfirst.2, by decide +kernel,
    hrun.patient hfirst.1 (by decide +kernel)
      (by rw [hfirst.2]; decide +kernel)⟩

end Witness

end TickKernel
