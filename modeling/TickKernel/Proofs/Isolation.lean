/-
Objects do not get in each other's way.  A call about one mutex or queue, or
about none, leaves the messages of every other queue and the owner of every
other mutex alone.  Of those blocked on another object at most one leaves in a
call: the task that the call suspends, or the first of all waiting tasks, when
its deadline is reached and the scheduling point at the end of the call gives it
the processor.
-/
import TickKernel.Proofs.Handovers
import TickKernel.Proofs.Ownership
import TickKernel.Proofs.Requests

namespace TickKernel

namespace View

variable {u v w : View} {call : Call} {answer : Answer} {reply : Reply}
  {current id : TaskId} {resource : Resource} {queue : QueueId}

/-! ### Rings -/

/-- A new queue is none of those that were there before. -/
theorem QueueMade.ring_eq {capacity : UInt64} {made : Except Error QueueId}
    (hw : v.QueueMade capacity made w) (hcreated : v.Created (.queue queue)) :
    w.ring queue = v.ring queue := by
  cases hw with
  | refused => rfl
  | made hroom =>
      refine if_neg ?_
      rintro rfl
      exact Nat.lt_irrefl _ hcreated

theorem Enrolled.ring_eq {spec : TaskSpec} {result : Except Error TaskId}
    (hw : v.Enrolled spec result w) : w.ring = v.ring := by
  cases hw with
  | refused => rfl
  | enrolled => cases spec.mode <;> rfl

/-- Messages are stored and taken by sending to the queue and receiving from it
only. -/
theorem Effect.ring_eq (hw : v.Effect call reply w) (h : v.Orderly none)
    (hcall : call ≠ .tearDown) (hcreated : v.Created (.queue queue))
    (hother : call.object ≠ some (.queue queue)) :
    w.ring queue = v.ring queue := by
  cases hw with
  | proceeds _ hw =>
      obtain ⟨left, hleft, -⟩ := hw.keeps.queues queue
      exact hleft.ring
  | enrolled hw => exact congrFun hw.ring_eq queue
  | tornDown => exact absurd rfl hcall
  | made hw => exact hw.ring_eq hcreated
  | sent hw =>
      obtain ⟨left, hleft, -⟩ := (hw.trades h).others queue fun heq =>
        hother (heq ▸ rfl)
      exact hleft.ring
  | received hw =>
      obtain ⟨left, hleft, -⟩ := (hw.trades h).others queue fun heq =>
        hother (heq ▸ rfl)
      exact hleft.ring

/-! ### Tasks blocked on other objects -/

/-- The first waiting task is overdue, and the processor is given to it. -/
structure Evicts (v : View) (call : Call) (id : TaskId) (w : View) : Prop where
  first : v.waiting.head? = some id
  overdue : Tick.reached w.platform.clock (v.task id).deadline = true
  chosen : w.scheduled = some id ∨ call = .beat ∧ w.running = some id

/-- Those blocked on the object stay so, but for one task at most, which has
been suspended or evicted. -/
def LosesOne (v : View) (call : Call) (resource : Resource) (w : View) : Prop :=
  w.blocked resource = v.blocked resource ∨
    ∃ id ∈ v.blocked resource,
    w.blocked resource = (v.blocked resource).erase id ∧
      (call = .suspend id ∨ v.Evicts call id w)

/-- Whoever is taken off all objects is taken off those that it is blocked
on. -/
theorem LosesOne.of_erase (id : TaskId)
    (hblocked : w.blocked resource = (v.blocked resource).erase id)
    (hreason : id ∈ v.blocked resource → call = .suspend id ∨
      v.Evicts call id w) :
    v.LosesOne call resource w := by
  by_cases hid : id ∈ v.blocked resource
  · exact Or.inr ⟨id, hid, hblocked, hreason hid⟩
  · exact Or.inl (hblocked.trans (List.erase_of_not_mem hid))

/-- What comes before must leave the waiting tasks and the clock alone. -/
theorem LosesOne.congr (h : u.LosesOne call resource w)
    (hblocked : u.blocked resource = v.blocked resource)
    (hwaiting : u.waiting = v.waiting)
    (hdeadline : ∀ id ∈ v.blocked resource,
      (u.task id).deadline = (v.task id).deadline) :
    v.LosesOne call resource w := by
  rw [LosesOne, hblocked] at h
  refine h.imp id ?_
  rintro ⟨id, hid, herase, hreason⟩
  refine ⟨id, hid, herase, hreason.imp_right fun hevicts => ?_⟩
  exact ⟨hwaiting ▸ hevicts.first, hdeadline id hid ▸ hevicts.overdue,
    hevicts.chosen⟩

theorem LosesOne.rescheduled (h : v.Orderly (some current))
    (hw : v.Rescheduled current w) (resource : Resource) :
    v.LosesOne call resource w := by
  cases hw with
  | stays => exact Or.inl rfl
  | due target _ _ hdue hfirst =>
      exact .of_erase target rfl fun _ => Or.inr ⟨hfirst, hdue, Or.inl rfl⟩
  | chosen target htarget hne =>
      have hfree := h.not_blocked_of_ready htarget fun heq =>
        hne (Option.some.inj heq).symm
      exact .of_erase target rfl fun hid => absurd hid (hfree resource)

theorem LosesOne.gaveUp (h : v.Orderly (some current)) (hw : v.GaveUp current w)
    (resource : Resource) : v.LosesOne call resource w := by
  cases hw with
  | pending => exact Or.inl rfl
  | now _ hw => exact .rescheduled h hw resource

theorem LosesOne.ticked (h : v.Orderly none) (hw : v.Ticked w)
    (resource : Resource) :
    v.LosesOne call resource w := by
  cases hw with
  | stopped | pending => exact Or.inl rfl
  | now hrunning hscheduled hw =>
      exact .rescheduled (h.onTheMove (h.running_ready hrunning hscheduled)) hw
        resource

/-- The switch at the end of a beat brings the chosen task to the processor. -/
theorem LosesOne.beats (h : v.LosesOne .tick resource u)
    (saved : Option StackPointer) :
    v.LosesOne .beat resource (u.switchedFrom saved) := by
  have hswitched := switched_switchedFrom u saved
  rw [LosesOne, hswitched.blocked_eq]
  refine h.imp id ?_
  rintro ⟨id, hid, herase, hsuspends | hevicts⟩
  · cases hsuspends
  refine ⟨id, hid, herase, Or.inr ⟨hevicts.first, ?_, Or.inr ⟨rfl, ?_⟩⟩⟩
  · rw [platform_switchedFrom]
    exact hevicts.overdue
  · have hscheduled : u.scheduled = some id :=
      hevicts.chosen.resolve_right fun hbeat => by cases hbeat.1
    rcases hswitched.place with ⟨-, hsame⟩ | ⟨-, hrunning, -⟩
    · rw [scheduled_switchedFrom, hscheduled] at hsame
      cases hsame
    · rw [hrunning, hscheduled]

/-- What the call is not about loses one task at most. -/
theorem Shape.losesOne (hw : v.Shape call reply w) (h : v.Orderly none)
    (hcall : call ≠ .tearDown) (hother : call.object ≠ some resource) :
    v.LosesOne call resource w := by
  cases hw with
  | rests _ hw => exact Or.inl (congrFun hw.blocked resource)
  | ticks _ hw => exact .ticked h hw resource
  | @beats _ u saved hu =>
      have hticked : LosesOne _ .tick resource u :=
        .ticked h.advanced hu resource
      exact (hticked.congr (v := v) rfl rfl fun _ _ => rfl).beats saved
  | switches saved =>
      exact Or.inl
        (congrFun (switched_switchedFrom v saved).blocked_eq resource)
  | @stops _ _ current u _ hrunning hready hidle hu ho hw =>
      have hfree :=
        h.not_blocked_of_ready hready (Option.some_ne_none current).symm
          resource
      refine LosesOne.congr (.gaveUp ho hw resource)
        (hu.blocked_eq hother) ?_ ?_
      · rw [hu.lists_eq]
      · intro id hid
        rw [hu.alike fun heq => hfree (heq ▸ hid)]
  | serves hu _ _ _ hw =>
      obtain ⟨object, rest, hobject, hfirst⟩ := hu.first
      refine Or.inl ((hu.blocked_woken h.parked hw hfirst).2 resource ?_)
      rintro rfl
      exact hother hobject
  | @resumes id _ _ hstatus =>
      refine .of_erase id rfl fun hid => ?_
      have hwaiting := h.waiting_of_blocked hid
      exact absurd hwaiting (h.not_mem_waiting (by rw [hstatus]; decide))
  | @shelves id => exact .of_erase id rfl fun _ => Or.inl rfl
  | enrols => exact Or.inl (congrFun (blocked_enrolled ..) resource)
  | enters => exact Or.inl rfl
  | clears => exact absurd rfl hcall

end View

/-! ### Steps -/

namespace Step

/-- The first waiting task is overdue, and the call gives it the processor. -/
structure Evicts (step : Step) (id : TaskId) : Prop where
  first : step.before.waitingIds.head? = some id
  overdue : Tick.reached step.after.platform.clock
    (step.before.task id).deadline = true
  chosen : step.after.scheduled = some id ∨
    step.call.direct = .beat ∧ step.after.running = some id

/-- The call leaves the objects alone that it is not about, but for one task at
most that is blocked on such an object and is suspended or evicted. -/
structure Isolates (step : Step) : Prop where
  rings : ∀ queue, step.before.hasQueue queue = true →
    step.call.direct.object ≠ some (.queue queue) →
      (step.after.queue queue).ring = (step.before.queue queue).ring
  mutexes : ∀ mutex, step.before.hasMutex mutex = true →
    step.call.direct.object ≠ some (.mutex mutex) →
      (step.after.mutex mutex).owner = (step.before.mutex mutex).owner ∧
        (step.after.mutex mutex).level = (step.before.mutex mutex).level
  blocked : ∀ resource, step.call.direct.object ≠ some resource →
    step.after.blockedIds resource = step.before.blockedIds resource ∨
      ∃ id ∈ step.before.blockedIds resource,
        step.after.blockedIds resource =
          (step.before.blockedIds resource).erase id ∧
          (step.call.direct = .suspend id ∨ step.Evicts id)

end Step

/-- Every call but the one that tears the kernel down leaves the objects alone
that it is not about. -/
theorem Run.isolates {step : Step} {steps : List Step} {k : Kernel}
    (hrun : Run (step :: steps) k) (hcall : step.call ≠ .tearDown) :
    step.Isolates := by
  obtain ⟨ho, hw, -⟩ := hrun.performs
  obtain ⟨hbefore, -, -⟩ := hrun.last
  have hdirect := Call.direct_ne_tearDown hcall
  refine ⟨fun queue hcreated hother => ?_, fun mutex hcreated hother => ?_,
    fun resource hother => ?_⟩
  · exact (hw.effect ho).ring_eq ho hdirect
      ((hbefore.sound.shows.hasQueue_iff queue).mp hcreated) hother
  · exact (hw.shape ho).mutex_eq hdirect
      ((hbefore.sound.shows.hasMutex_iff mutex).mp hcreated) hother
  · refine ((hw.shape ho).losesOne ho hdirect hother).imp_right ?_
    rintro ⟨id, hid, herase, hreason⟩
    exact ⟨id, hid, herase, hreason.imp_right fun hevicts =>
      ⟨hevicts.first, hevicts.overdue, hevicts.chosen⟩⟩

namespace Witness

/-- Task A waits for a message for three ticks at most.  Five ticks go by
unnoticed before task B, which has a mutex, dozes off. -/
def overstayed : List Call :=
  trio ++ [.createMutex, .createQueue 1, .receive box 3, .switchOver,
    .acquire lock 0, .advance 5, .delay 7]

/-- Task A leaves the queue although the call is about no object at all. -/
theorem isolates_overstayed : ∃ step earlier,
    Run (step :: earlier) (history overstayed).2 ∧ step.call ≠ .tearDown ∧
      step.call = .delay 7 ∧ step.before.blockedIds (.queue box) = [taskA] ∧
      step.after.blockedIds (.queue box) = [] ∧
      step.after.scheduled = some taskA ∧
      (step.after.mutex lock).owner = some taskB ∧ step.Isolates := by
  obtain ⟨step, earlier, hrun, hstep⟩ := exists_last overstayed
    (fun step => decide (step.call = .delay 7 ∧
      step.before.blockedIds (.queue box) = [taskA] ∧
      step.after.blockedIds (.queue box) = [] ∧
      step.after.scheduled = some taskA ∧
      (step.after.mutex lock).owner = some taskB)) (by decide +kernel)
  obtain ⟨hcall, hbefore, hafter, hscheduled, howner⟩ := of_decide_eq_true hstep
  have hother : step.call ≠ .tearDown := by
    rw [hcall]
    decide
  exact ⟨step, earlier, hrun, hother, hcall, hbefore, hafter, hscheduled,
    howner, Run.isolates hrun hother⟩

end Witness

end TickKernel
