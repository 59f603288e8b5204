/-
Whose wait ends in a call, and why.  A wait ends because the call serves it,
because the task is suspended, or because its deadline is reached; whoever goes
on waiting keeps its place on the object that it is blocked on.
-/
import TickKernel.Proofs.Shapes

namespace TickKernel

namespace View

variable {u v w : View} {call : Call} {answer : Answer} {reply brought : Reply}
  {current target id : TaskId} {resource : Resource}

/-! ### Waiting tasks under the moves -/

theorem mem_waiting_stoodDown (hid : id ∈ v.waiting) :
    id ∈ (v.stoodDown current).waiting := by
  simp only [stoodDown]
  split
  · exact mem_insertBefore.mpr (Or.inr hid)
  · exact hid

theorem mem_waiting_dispatched (hid : id ∈ v.waiting) (hne : id ≠ target) :
    id ∈ (v.dispatched current target).waiting :=
  mem_waiting_stoodDown (v := v.readied target)
    ((List.mem_erase_of_ne hne).mpr hid)

theorem status_dispatched (v : View) (current target : TaskId) :
    ((v.dispatched current target).task target).status = .active := by
  simp [dispatched, promoted, setTask]

theorem Orderly.not_mem_waiting (h : w.Orderly none)
    (hstatus : (w.task id).status ≠ .waiting) : id ∉ w.waiting :=
  fun hid => hstatus ((h.queued.mem_waiting id).mp hid).2.1

theorem Orderly.not_waiting_dispatched
    (h : (v.dispatched current target).Orderly none) :
    target ∉ (v.dispatched current target).waiting :=
  h.not_mem_waiting (by rw [status_dispatched]; decide)

/-! ### Who stays blocked -/

/-- Those blocked on the resource were blocked on it before, and still wait. -/
def Sheds (v : View) (resource : Resource) (w : View) : Prop :=
  w.blocked resource = (v.blocked resource).filter w.waiting.contains

theorem Sheds.of_same (h : w.Orderly none)
    (hblocked : w.blocked resource = v.blocked resource) :
    v.Sheds resource w := by
  rw [Sheds, ← hblocked]
  refine (List.filter_eq_self.mpr fun id hid => ?_).symm
  exact List.contains_iff_mem.mpr (h.waiting_of_blocked hid)

/-- At most one task is taken off, and it waits no longer. -/
theorem Sheds.of_erase (hv : v.Parked) (h : w.Orderly none)
    (hblocked : w.blocked resource = (v.blocked resource).erase id)
    (hid : id ∉ w.waiting) : v.Sheds resource w := by
  rw [Sheds, hblocked, (hv.blocked_nodup resource).erase_eq_filter]
  refine List.filter_congr fun other hother => ?_
  rw [Bool.eq_iff_iff, bne_iff_ne, List.contains_iff_mem]
  constructor
  · intro hne
    have hmem : other ∈ w.blocked resource := by
      rw [hblocked]
      exact (List.mem_erase_of_ne hne).mpr hother
    exact h.waiting_of_blocked hmem
  · rintro hwaiting rfl
    exact hid hwaiting

theorem Sheds.rescheduled (hv : v.Orderly (some current)) (h : w.Orderly none)
    (hw : v.Rescheduled current w) (resource : Resource) :
    v.Sheds resource w := by
  cases hw with
  | stays => exact .of_same h rfl
  | due => exact .of_erase hv.parked h rfl h.not_waiting_dispatched
  | chosen => exact .of_erase hv.parked h rfl h.not_waiting_dispatched

theorem Sheds.gaveUp (hv : v.Orderly (some current)) (h : w.Orderly none)
    (hw : v.GaveUp current w) (resource : Resource) : v.Sheds resource w := by
  cases hw with
  | pending => exact .of_same h rfl
  | now _ hw => exact .rescheduled hv h hw resource

/-- A task that is woken has left the object that it was blocked on already. -/
theorem Sheds.woke (hv : v.Orderly none) (hid : (v.task id).waitsFor = none)
    (h : w.Orderly none) (hw : v.Woke id reply w) (resource : Resource) :
    v.Sheds resource w := by
  have hfree := hv.parked.not_mem_blocked hid resource
  have hblocked : w.blocked resource = (v.blocked resource).erase id := by
    cases hw <;> rfl
  rw [List.erase_of_not_mem hfree] at hblocked
  exact .of_same h hblocked

theorem Sheds.ticked (hv : v.Orderly none) (h : w.Orderly none)
    (hw : v.Ticked w) (resource : Resource) : v.Sheds resource w := by
  cases hw with
  | stopped => exact .of_same h rfl
  | pending => exact .of_same h rfl
  | now hrunning hscheduled hw =>
      exact .rescheduled (hv.onTheMove (hv.running_ready hrunning hscheduled)) h
        hw resource

/-- A switch moves nobody. -/
theorem Switched.blocked_eq (hw : v.Switched w) : w.blocked = v.blocked := by
  rw [hw.lists]

theorem Switched.waiting_eq (hw : v.Switched w) : w.waiting = v.waiting := by
  rw [hw.lists]

theorem Sheds.switched (hv : u.Sheds resource v) (hw : v.Switched w) :
    u.Sheds resource w := by
  rw [Sheds, hw.blocked_eq, hw.waiting_eq]
  exact hv

theorem blocked_enrolled (v : View) (id : TaskId) (task : Task)
    (mode : StartMode) :
    (v.enrolled id task mode).blocked = v.blocked := by
  cases mode <;> rfl

theorem waiting_enrolled (v : View) (id : TaskId) (task : Task)
    (mode : StartMode) :
    (v.enrolled id task mode).waiting = v.waiting := by
  cases mode <;> rfl

theorem Stops.blocked_eq (hu : v.Stops id call reply u)
    (hother : call.object ≠ some resource) :
    u.blocked resource = v.blocked resource := by
  cases hu with
  | dozes => rfl
  | parks side message hobject =>
      refine if_neg ?_
      rintro rfl
      exact hother hobject
  | quits => rfl

/-- What the call is not about loses only tasks whose waits are over. -/
theorem Shape.sheds (hw : v.Shape call reply w) (hv : v.Orderly none)
    (h : w.Orderly none) (hcall : call ≠ .tearDown)
    (hother : call.object ≠ some resource) :
    v.Sheds resource w := by
  cases hw with
  | rests _ hw => exact .of_same h (congrFun hw.blocked resource)
  | ticks _ hw => exact .ticked hv h hw resource
  | beats saved hu =>
      have hadvanced := hv.advanced
      have hpasses : View.Passes _ (fun _ => False) _ := hu.passes hadvanced
      exact (Sheds.ticked hadvanced hpasses.orderly hu resource).switched
        (switched_switchedFrom _ saved)
  | switches saved =>
      exact .of_same h
        (congrFun (switched_switchedFrom v saved).blocked_eq resource)
  | stops _ _ _ hu ho hw =>
      have hsheds := Sheds.gaveUp ho h hw resource
      rw [Sheds, hu.blocked_eq hother] at hsheds
      exact hsheds
  | @serves _ _ _ id u _ hu _ _ ho hw =>
      have hfree : (u.task id).waitsFor = none := by
        rw [hu.lists]
        exact waitsFor_unblocked v id
      obtain ⟨other, rest, hobject, hblocked⟩ := hu.first
      have hmem : id ∈ v.blocked other := by
        rw [hblocked]
        exact List.mem_cons_self
      have hnot : id ∉ v.blocked resource := by
        intro hid
        rw [hv.parked.mem_blocked] at hmem hid
        rw [hmem] at hid
        exact hother (hobject.trans hid)
      have hsheds := Sheds.woke ho hfree h hw resource
      have hsame : u.blocked resource = v.blocked resource := by
        rw [hu.lists]
        exact List.erase_of_not_mem hnot
      rw [Sheds, hsame] at hsheds
      exact hsheds
  | resumes hreg hstatus =>
      exact .of_erase hv.parked h rfl
        (h.not_mem_waiting (by simp [readied]))
  | shelves =>
      exact .of_erase hv.parked h rfl
        (h.not_mem_waiting (by simp [shelved]))
  | enrols => exact .of_same h (congrFun (blocked_enrolled ..) resource)
  | enters => exact .of_same h rfl
  | clears => exact absurd rfl hcall

/-! ### Why a wait ends -/

theorem Rescheduled.clock_eq (hw : v.Rescheduled current w) :
    w.platform.clock = v.platform.clock := by
  cases hw <;> rfl

theorem GaveUp.clock_eq (hw : v.GaveUp current w) :
    w.platform.clock = v.platform.clock := by
  cases hw with
  | pending => rfl
  | now _ hw => exact hw.clock_eq

theorem Ticked.clock_eq (hw : v.Ticked w) :
    w.platform.clock = v.platform.clock := by
  cases hw with
  | stopped => rfl
  | pending => rfl
  | now _ _ hw => exact hw.clock_eq

/-- The scheduling point ends a wait only when it is overdue. -/
theorem Rescheduled.overdue (hv : v.Orderly (some current))
    (hw : v.Rescheduled current w) (hid : id ∈ v.waiting)
    (hgone : id ∉ w.waiting) :
    Tick.reached v.platform.clock (v.task id).deadline = true := by
  cases hw with
  | stays => exact absurd hid hgone
  | due target htarget hne hdue =>
      by_cases heq : id = target
      · exact heq ▸ hdue
      · exact absurd (mem_waiting_dispatched hid heq) hgone
  | chosen target htarget =>
      by_cases heq : id = target
      · exact absurd hid (heq ▸ hv.queued.not_mem_waiting htarget)
      · exact absurd (mem_waiting_dispatched hid heq) hgone

theorem GaveUp.overdue (hv : v.Orderly (some current)) (hw : v.GaveUp current w)
    (hid : id ∈ v.waiting) (hgone : id ∉ w.waiting) :
    Tick.reached v.platform.clock (v.task id).deadline = true := by
  cases hw with
  | pending => exact absurd (mem_waiting_stoodDown hid) hgone
  | now _ hw => exact hw.overdue hv hid hgone

theorem Ticked.overdue (hv : v.Orderly none) (hw : v.Ticked w)
    (hid : id ∈ v.waiting) (hgone : id ∉ w.waiting) :
    Tick.reached v.platform.clock (v.task id).deadline = true := by
  cases hw with
  | stopped => exact absurd hid hgone
  | pending => exact absurd hid hgone
  | now hrunning hscheduled hw =>
      exact hw.overdue (hv.onTheMove (hv.running_ready hrunning hscheduled))
        hid hgone

/-- Stopping is about the running task, which does not wait. -/
theorem Stops.alike (hu : v.Stops current call reply u) (hne : current ≠ id) :
    u.task id = v.task id := by
  cases hu with
  | dozes => exact if_neg hne
  | parks => exact if_neg hne
  | quits => exact if_neg hne

theorem Stops.lists_eq (hu : v.Stops current call reply u) :
    u = { v with
      task := u.task, blocked := u.blocked, waiters := u.waiters } := by
  cases hu <;> rfl

/-- The call has served the wait of the task. -/
structure Served (v : View) (call : Call) (reply : Reply) (id : TaskId)
    (w : View) :
    Prop where
  first : ∃ resource rest, call.object = some resource ∧
    v.blocked resource = id :: rest
  running : v.running ≠ none
  success : reply.status = .success
  brings : call.brings ≠ none
  pending : (w.task id).pending = call.brings

/-- The wait of the task is over without having been served. -/
structure Lapsed (v : View) (call : Call) (reply : Reply) (id : TaskId)
    (w : View) :
    Prop where
  cause : call = .suspend id ∨
    Tick.reached w.platform.clock (v.task id).deadline = true
  unserved : call.brings = none ∨ reply.status ≠ .success

/-- A call that serves nobody has nothing to bring or keeps its caller
waiting. -/
theorem Stops.unserved (hu : v.Stops current call reply u) :
    call.brings = none ∨ reply.status ≠ .success := by
  cases hu with
  | dozes => exact Or.inl rfl
  | parks side message hobject hreply =>
      refine Or.inr ?_
      rw [hreply]
      decide
  | quits hcall =>
      rcases hcall with ⟨rfl, -⟩ | ⟨rfl, -⟩ <;> exact Or.inl rfl

/-- No wait ends in another way. -/
theorem Shape.served_or_lapsed (hw : v.Shape call reply w) (hv : v.Orderly none)
    (hcall : call ≠ .tearDown) (hid : id ∈ v.waiting) (hgone : id ∉ w.waiting) :
    v.Served call reply id w ∨ v.Lapsed call reply id w := by
  cases hw with
  | rests _ hw => exact absurd (hw.waiting ▸ hid) hgone
  | ticks hcall hw =>
      refine Or.inr ⟨Or.inr ?_, Or.inl ?_⟩
      · rw [hw.clock_eq]
        exact hw.overdue hv hid hgone
      · rcases hcall with rfl | rfl <;> rfl
  | @beats _ u saved hu =>
      have hadvanced := hv.advanced
      have hswitched := switched_switchedFrom u saved
      rw [hswitched.waiting_eq] at hgone
      refine Or.inr ⟨Or.inr ?_, Or.inl rfl⟩
      rw [hswitched.lists]
      change Tick.reached u.platform.clock _ = true
      rw [hu.clock_eq]
      exact hu.overdue hadvanced hid hgone
  | switches saved =>
      rw [(switched_switchedFrom v saved).waiting_eq] at hgone
      exact absurd hid hgone
  | @stops _ _ current u _ hrunning hready hidle hu ho hw =>
      have hne : current ≠ id := by
        rintro rfl
        exact hv.queued.not_mem_waiting hready hid
      have hlists := hu.lists_eq
      have hmem : id ∈ u.waiting := by
        rw [hlists]
        exact hid
      refine Or.inr ⟨Or.inr ?_, hu.unserved⟩
      have hdue := hw.overdue ho hmem hgone
      rw [hu.alike hne] at hdue
      rw [hw.clock_eq]
      rw [hlists] at hdue ⊢
      exact hdue
  | @serves _ _ brought first u _ hu hbrings hreply ho hw =>
      have heq : id = first := by
        by_contra hne
        refine hgone ?_
        have hmem : id ∈ u.waiting := by
          rw [hu.lists]
          exact hid
        cases hw with
        | now =>
            exact mem_waiting_dispatched (v := u.promised first brought)
              hmem hne
        | later => exact (List.mem_erase_of_ne hne).mpr hmem
      subst heq
      refine Or.inl ⟨hu.first, hu.running, hreply, ?_,
        hw.pending.trans hbrings.symm⟩
      rw [hbrings]
      exact Option.some_ne_none brought
  | @resumes other _ hreg hstatus =>
      have hne : id ≠ other := by
        rintro rfl
        exact absurd hid (hv.not_mem_waiting (by rw [hstatus]; decide))
      exact absurd ((List.mem_erase_of_ne hne).mpr hid) hgone
  | @shelves other _ hidle hnext =>
      by_cases heq : id = other
      · exact Or.inr ⟨Or.inl (by rw [heq]), Or.inl rfl⟩
      · exact absurd ((List.mem_erase_of_ne heq).mpr hid) hgone
  | enrols =>
      rw [waiting_enrolled] at hgone
      exact absurd hid hgone
  | enters => exact absurd hid hgone
  | clears => exact absurd rfl hcall

end View

/-! ### Steps -/

namespace Step

/-- The wait of the task ends in the step. -/
def rouses (step : Step) (id : TaskId) : Bool :=
  step.before.waitingIds.contains id && !step.after.waitingIds.contains id

/-- The wait of the task ends in the step because it was suspended or because
the time that it waited for is over. -/
def lapses (step : Step) (id : TaskId) : Bool :=
  step.rouses id && (decide (step.call.direct = .suspend id) ||
    Tick.reached step.after.platform.clock (step.before.task id).deadline)

theorem rouses_iff {step : Step} {id : TaskId} : step.rouses id = true ↔
    id ∈ step.before.view.waiting ∧ id ∉ step.after.view.waiting := by
  rw [rouses, Bool.and_eq_true, List.contains_iff_mem, Bool.not_eq_true',
    ← Bool.not_eq_true, List.contains_iff_mem]
  rfl

theorem lapses_iff {step : Step} {id : TaskId} : step.lapses id = true ↔
    step.rouses id = true ∧ (step.call.direct = .suspend id ∨
      Tick.reached step.after.view.platform.clock
      (step.before.view.task id).deadline =
        true) := by
  rw [lapses, Bool.and_eq_true, Bool.or_eq_true, decide_eq_true_eq]
  rfl

end Step

end TickKernel
