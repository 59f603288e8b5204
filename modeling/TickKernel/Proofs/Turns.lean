/-
Who runs next.  The scheduling point lets the running task go on or puts
another one in its place, and that one is either the first waiting task with
its deadline reached or a runnable one.  Giving up the processor and being
woken are the two ways in which a call takes part in that: `View.GaveUp` and
`View.Woke` say what they lead to.
-/
import TickKernel.Proofs.Scheduling

namespace TickKernel

universe u

/-! ### What the scheduler chooses from -/

theorem mem_dropWhile_append_takeWhile {α : Type} [DecidableEq α] {as : List α}
    {a b : α} (has : as.Nodup) (ha : a ∈ as) :
    b ∈ (as.dropWhile (· != a)).tail ++ as.takeWhile (· != a) ↔
      b ∈ as ∧ b ≠ a := by
  induction as with
  | nil => cases ha
  | cons head rest ih =>
      rw [List.nodup_cons] at has
      by_cases hhead : head = a
      · subst hhead
        simp only [List.dropWhile_cons, List.takeWhile_cons, bne_self_eq_false,
          Bool.false_eq_true, if_false, List.tail_cons, List.append_nil,
          List.mem_cons]
        grind
      · have hrest : a ∈ rest :=
          (List.mem_cons.mp ha).resolve_left (Ne.symm hhead)
        have hbne : (head != a) = true := bne_iff_ne.mpr hhead
        simp only [List.dropWhile_cons, List.takeWhile_cons, hbne, if_true,
          List.mem_append, List.mem_cons]
        have := ih has.2 hrest
        rw [List.mem_append] at this
        grind

/-- Going around from behind `c` leads over what stands behind it to what stands
before it. -/
theorem dropWhile_tail_append_takeWhile {α : Type u} [DecidableEq α]
    {front back : List α} {c : α} (hfront : c ∉ front) :
    ((front ++ c :: back).dropWhile (· != c)).tail ++
      (front ++ c :: back).takeWhile (· != c) = back ++ front := by
  have hpasses : ∀ b ∈ front, (b != c) = true := by
    intro b hb
    rw [bne_iff_ne]
    rintro rfl
    exact hfront hb
  rw [List.dropWhile_append_of_pos hpasses,
    List.takeWhile_append_of_pos hpasses, List.dropWhile_cons,
    List.takeWhile_cons, bne_self_eq_false, if_neg Bool.false_ne_true,
    if_neg Bool.false_ne_true, List.tail_cons, List.append_nil]

/-- The first of the most urgent tasks in the list. -/
def Foremost (task : TaskId → Task) (ids : List TaskId) (id : TaskId) : Prop :=
  ∃ front back, ids = front ++ id :: back ∧
    (∀ other ∈ front, (task other).priority < (task id).priority) ∧
    ∀ other ∈ back, (task other).priority ≤ (task id).priority

theorem Foremost.mem {task : TaskId → Task} {ids : List TaskId} {id : TaskId}
    (h : Foremost task ids id) : id ∈ ids := by
  obtain ⟨front, back, rfl, -⟩ := h
  exact List.mem_append_right front List.mem_cons_self

theorem Foremost.priority_le {task : TaskId → Task} {ids : List TaskId}
    {id other : TaskId} (h : Foremost task ids id) (hother : other ∈ ids) :
    (task other).priority ≤ (task id).priority := by
  obtain ⟨front, back, rfl, hfront, hback⟩ := h
  rcases List.mem_append.mp hother with hother | hother
  · exact UInt8.le_of_lt (hfront other hother)
  · rcases List.mem_cons.mp hother with rfl | hother
    · exact UInt8.le_refl _
    · exact hback other hother

namespace Kernel

variable {k : Kernel} {current id : TaskId}

theorem mem_rotation (hnodup : k.readyIds.Nodup)
    (hcurrent : current ∈ k.readyIds) :
    id ∈ k.rotation current ↔ id ∈ k.readyIds ∧ id ≠ current :=
  mem_dropWhile_append_takeWhile hnodup hcurrent

/-- Only if no task is runnable there is no choice. -/
theorem foldl_preferred_eq_none {ids : List TaskId} {best : Option TaskId}
    (h : ids.foldl k.preferred best = none) :
    best = none ∧ ∀ id ∈ ids, (k.task id).isRunnable = false := by
  induction ids generalizing best with
  | nil => exact ⟨h, fun id hid => absurd hid List.not_mem_nil⟩
  | cons head rest ih =>
      rw [List.foldl_cons] at h
      obtain ⟨hnone, hrest⟩ := ih h
      unfold preferred at hnone
      split at hnone
      · cases hnone
      · rename_i hcond
        subst hnone
        rw [Option.all_none, Bool.and_true] at hcond
        refine ⟨rfl, fun id hid => ?_⟩
        rcases List.mem_cons.mp hid with rfl | hid
        · exact Bool.eq_false_iff.mpr hcond
        · exact hrest id hid

/-- The choice made so far stands until a more urgent task comes. -/
theorem foldl_preferred_some {ids : List TaskId} {best : TaskId}
    (hids : ∀ id ∈ ids, (k.task id).isRunnable = true)
    (h : ids.foldl k.preferred (some best) = some id) :
    (id = best ∧ ∀ other ∈ ids, (k.task other).priority ≤
      (k.task id).priority) ∨
      (k.task best).priority < (k.task id).priority ∧
      Foremost k.task ids id := by
  induction ids generalizing best with
  | nil =>
      exact Or.inl ⟨(Option.some.inj h).symm,
        fun _ hmem => absurd hmem List.not_mem_nil⟩
  | cons head rest ih =>
      have hhead := hids head List.mem_cons_self
      have hrest : ∀ id ∈ rest, (k.task id).isRunnable = true :=
        fun id hid => hids id (List.mem_cons_of_mem head hid)
      rw [List.foldl_cons, preferred, hhead, Bool.true_and, Option.all_some]
        at h
      split at h
      · rename_i houtranks
        have hlt : (k.task best).priority < (k.task head).priority :=
          of_decide_eq_true houtranks
        rcases ih hrest h with ⟨rfl, hall⟩ | ⟨hless, front, back, rfl,
          hfront, hback⟩
        · exact Or.inr ⟨hlt, [], rest, rfl,
            fun _ hmem => absurd hmem List.not_mem_nil, hall⟩
        · refine Or.inr ⟨UInt8.lt_trans hlt hless, head :: front, back, rfl,
            ?_, hback⟩
          intro other hother
          rcases List.mem_cons.mp hother with rfl | hother
          · exact hless
          · exact hfront other hother
      · rename_i houtranks
        have hle : (k.task head).priority ≤ (k.task best).priority :=
          UInt8.not_lt.mp (of_decide_eq_false (Bool.eq_false_iff.mpr houtranks))
        rcases ih hrest h with ⟨rfl, hall⟩ | ⟨hless, front, back, rfl,
          hfront, hback⟩
        · refine Or.inl ⟨rfl, fun other hother => ?_⟩
          rcases List.mem_cons.mp hother with rfl | hother
          · exact hle
          · exact hall other hother
        · refine Or.inr ⟨hless, head :: front, back, rfl, ?_, hback⟩
          intro other hother
          rcases List.mem_cons.mp hother with rfl | hother
          · exact UInt8.lt_of_le_of_lt hle hless
          · exact hfront other hother

/-- Among tasks that can all run the choice is the first of the most urgent
ones. -/
theorem mostUrgent_eq_some {ids : List TaskId}
    (hids : ∀ id ∈ ids, (k.task id).isRunnable = true)
    (h : k.mostUrgent ids = some id) : Foremost k.task ids id := by
  cases ids with
  | nil => cases h
  | cons head rest =>
      have hrest : ∀ id ∈ rest, (k.task id).isRunnable = true :=
        fun id hid => hids id (List.mem_cons_of_mem head hid)
      rw [mostUrgent, List.foldl_cons, preferred, hids head List.mem_cons_self,
        Option.all_none, Bool.and_true, if_pos rfl] at h
      rcases foldl_preferred_some hrest h with ⟨rfl, hall⟩ | ⟨hless, front,
        back, rfl, hparts⟩
      · exact ⟨[], rest, rfl, fun _ hmem => absurd hmem List.not_mem_nil, hall⟩
      · refine ⟨head :: front, back, rfl, ?_, hparts.2⟩
        intro other hother
        rcases List.mem_cons.mp hother with rfl | hother
        · exact hless
        · exact hparts.1 other hother

/-- The running task goes on if it is more urgent than all others. -/
theorem decision_eq_stay
    (hids : ∀ id ∈ k.rotation current, (k.task id).isRunnable = true)
    (h : k.decision current = .stay) : (k.task current).isRunnable = true ∧
      ∀ id ∈ k.rotation current,
      (k.task id).priority < (k.task current).priority := by
  unfold decision at h
  split at h
  · rename_i best hbest
    split at h
    · cases h
    · rename_i hcond
      rw [Bool.or_eq_true, not_or, Bool.not_eq_true', Bool.not_eq_true',
        Bool.not_eq_false, Bool.not_eq_false] at hcond
      refine ⟨hcond.1, fun id hid => ?_⟩
      exact UInt8.lt_of_le_of_lt
        ((mostUrgent_eq_some hids hbest).priority_le hid)
        (of_decide_eq_true hcond.2)
  · rename_i hnone
    split at h
    · refine ⟨‹_›, fun id hid => ?_⟩
      have hstops := (foldl_preferred_eq_none hnone).2 id hid
      rw [hids id hid] at hstops
      cases hstops
    · cases h

theorem decision_eq_switchTo
    (hids : ∀ id ∈ k.rotation current, (k.task id).isRunnable = true)
    (h : k.decision current = .switchTo id) :
    Foremost k.task (k.rotation current) id ∧
      ((k.task current).isRunnable = true →
      (k.task current).priority ≤ (k.task id).priority) := by
  unfold decision at h
  split at h
  · rename_i best hbest
    split at h
    · rename_i hcond
      obtain rfl : best = id := Decision.switchTo.inj h
      refine ⟨mostUrgent_eq_some hids hbest, fun hrunnable => ?_⟩
      rw [hrunnable, Bool.not_true, Bool.false_or, Bool.not_eq_true'] at hcond
      exact UInt8.not_lt.mp (of_decide_eq_false hcond)
    · cases h
  · split at h <;> cases h

theorem decision_eq_stuck (h : k.decision current = .stuck) :
    (k.task current).isRunnable = false ∧
      ∀ id ∈ k.rotation current, (k.task id).isRunnable = false := by
  unfold decision at h
  split at h
  · split at h <;> cases h
  · rename_i hnone
    split at h
    · cases h
    · exact ⟨Bool.eq_false_iff.mpr ‹_›, (foldl_preferred_eq_none hnone).2⟩

end Kernel

/-! ### Outcomes -/

namespace View

/-- The other runnable tasks, from the one behind `current` onwards and
around. -/
def rotation (v : View) (current : TaskId) : List TaskId :=
  (v.ready.dropWhile (· != current)).tail ++ v.ready.takeWhile (· != current)

/-- The deadline of the first waiting task, if any, is still ahead. -/
def NoneDue (v : View) : Prop :=
  ∀ first, v.waiting.head? = some first →
    Tick.reached v.platform.clock (v.task first).deadline = false

/-- The outcomes of the scheduling point while no switch is pending. -/
inductive Rescheduled (v : View) (current : TaskId) : View → Prop
  | stays (hcurrent : (v.task current).isRunnable = true) (hnone : v.NoneDue)
      (hothers : ∀ id ∈ v.rotation current,
        (v.task id).priority < (v.task current).priority) : Rescheduled v
          current v
  | due (target : TaskId) (htarget : target ∈ v.waiting)
      (hne : target ≠ current)
      (hdue : Tick.reached v.platform.clock (v.task target).deadline = true)
      (hfirst : v.waiting.head? = some target) :
      Rescheduled v current (v.dispatched current target)
  | chosen (target : TaskId) (htarget : target ∈ v.ready)
      (hne : target ≠ current)
      (hnone : v.NoneDue)
      (hforemost : Foremost v.task (v.rotation current) target)
      (hyields : (v.task current).isRunnable = true →
        (v.task current).priority ≤ (v.task target).priority) :
      Rescheduled v current (v.dispatched current target)

/-- What becomes of the running task when it cannot go on. -/
inductive GaveUp (v : View) (current : TaskId) : View → Prop
  | pending (hscheduled : v.scheduled ≠ none) :
      GaveUp v current (v.stoodDown current)
  | now {w : View} (hscheduled : v.scheduled = none)
      (hw : v.Rescheduled current w) :
      GaveUp v current w

/-- A waiting task has a reply to take along when it runs again. -/
def promised (v : View) (id : TaskId) (reply : Reply) : View :=
  v.setTask id fun task => { task with pending := some reply }

/-- What becomes of a waiting task that is woken with a reply. -/
inductive Woke (v : View) (id : TaskId) (reply : Reply) : View → Prop
  | now (current : TaskId) (hrunning : v.running = some current)
      (hscheduled : v.scheduled = none) (hne : id ≠ current) :
      Woke v id reply ((v.promised id reply).dispatched current id)
  | later (hscheduled : v.scheduled ≠ none) :
      Woke v id reply ((v.promised id reply).readied id)

end View

/-! ### The invariant under the outcomes -/

namespace View

variable {v w : View} {current id : TaskId} {reply : Reply}

theorem Woke.pending (hw : v.Woke id reply w) :
    (w.task id).pending = some reply := by
  cases hw with
  | now current hrunning hscheduled hne =>
      simp [View.dispatched, View.promoted, View.stoodDown, View.readied,
        View.promised, View.setTask, Task.withoutWait, Ne.symm hne]
  | later => simp [View.readied, View.promised, View.setTask, Task.withoutWait]

/-- Giving up the processor does not end a wait. -/
theorem GaveUp.waitsFor_eq {current : TaskId} (hw : v.GaveUp current w) :
    (w.task current).waitsFor = (v.task current).waitsFor := by
  have hdispatched : ∀ target, target ≠ current →
      ((v.dispatched current target).task current).waitsFor =
        (v.task current).waitsFor := by
    intro target hne
    simp only [View.dispatched, View.promoted, View.stoodDown, View.readied,
      View.setTask, if_neg hne]
    split <;> rfl
  cases hw with
  | pending =>
      simp only [View.stoodDown]
      split <;> rfl
  | now hscheduled hw =>
      cases hw with
      | stays => rfl
      | due target htarget hne => exact hdispatched target hne
      | chosen target htarget hne => exact hdispatched target hne

theorem next_of_running (hrunning : v.running = some current)
    (hscheduled : v.scheduled = none) : v.next = some current := by
  rw [next, hscheduled, hrunning]
  rfl

theorem Orderly.running_ready (h : v.Orderly none)
    (hrunning : v.running = some current) (hscheduled : v.scheduled = none) :
    current ∈ v.ready := by
  have hactive := h.staffed.active_of_next current
    (next_of_running hrunning hscheduled) (Option.some_ne_none _).symm
  exact (h.queued.mem_ready current).mpr
    ⟨h.staffed.running_registered current hrunning,
      Or.inr ((Task.isRunnable_iff _).mpr (Or.inr hactive))⟩

theorem Orderly.promised (h : v.Orderly none) :
    (v.promised id reply).Orderly none := by
  refine h.congr rfl fun other => ?_
  simp only [View.promised, View.setTask]
  split
  · rename_i heq
    subst heq
    exact ⟨rfl, rfl, rfl, rfl, rfl, rfl⟩
  · exact Task.Alike.refl _

theorem Orderly.rescheduled (h : v.Orderly (some current))
    (hrunning : v.running = some current) (hscheduled : v.scheduled = none)
    (hstays : (v.task current).isRunnable = true → v.Orderly none)
    (hw : v.Rescheduled current w) : w.Orderly none := by
  cases hw with
  | stays hcurrent => exact hstays hcurrent
  | due target htarget hne hdue =>
      exact h.dispatched hrunning hscheduled
        (h.registered_of_waiting htarget) hne
  | chosen target htarget hne =>
      exact h.dispatched hrunning hscheduled (h.registered_of_ready htarget) hne

theorem Orderly.gaveUp (h : v.Orderly (some current))
    (hrunning : v.running = some current)
    (hstatus : (v.task current).isRunnable = false)
    (hw : v.GaveUp current w) : w.Orderly none := by
  cases hw with
  | pending hscheduled =>
      refine h.stoodDown (h.staffed.running_registered current hrunning)
        fun hnext => ?_
      obtain ⟨target, htarget⟩ := Option.ne_none_iff_exists'.mp hscheduled
      rw [next, htarget] at hnext
      obtain rfl : target = current := Option.some.inj hnext
      exact (h.staffed.scheduled_other target htarget).2.2 hrunning
  | now hscheduled hw =>
      refine h.rescheduled hrunning hscheduled (fun hrunnable => ?_) hw
      rw [hstatus] at hrunnable
      cases hrunnable

theorem Orderly.not_next_of_waiting (h : v.Orderly none)
    (hid : id ∈ v.waiting) :
    v.next ≠ some id := by
  intro hnext
  have hactive := h.staffed.active_of_next id hnext (Option.some_ne_none _).symm
  have hwaiting := ((h.queued.mem_waiting id).mp hid).2.1
  rw [hactive] at hwaiting
  cases hwaiting

theorem Orderly.woke (h : v.Orderly none) (hid : id ∈ v.waiting)
    (hw : v.Woke id reply w) : w.Orderly none := by
  have hreg := h.registered_of_waiting hid
  cases hw with
  | now current hrunning hscheduled hne =>
      have hcurrent := h.running_ready hrunning hscheduled
      have hmoving : (v.promised id reply).Orderly (some current) :=
        h.promised.onTheMove hcurrent
      exact hmoving.dispatched hrunning hscheduled hreg hne
  | later hscheduled =>
      have hnext := h.not_next_of_waiting hid
      exact h.promised.readied hreg (Option.some_ne_none id).symm hnext

end View

/-! ### The rules of scheduling -/

namespace Kernel

variable {k : Kernel} {v : View} {current id : TaskId}

theorem Shows.waiting_head (h : k.Shows v) : k.waiting.head = v.waiting.head? :=
  h.waiting_spells.head_eq

theorem Shows.dueTask (h : k.Shows v) (hdue : k.dueTask = some id) :
    v.waiting.head? = some id ∧
      Tick.reached v.platform.clock (v.task id).deadline = true := by
  rw [Kernel.dueTask, h.waiting_head] at hdue
  split at hdue
  · cases hdue
  · rename_i first hfirst
    rw [h.platform_eq, h.task_eq] at hdue
    split at hdue
    · obtain rfl : first = id := Option.some.inj hdue
      exact ⟨hfirst, ‹_›⟩
    · cases hdue

theorem Shows.noneDue (h : k.Shows v) (hdue : k.dueTask = none) :
    v.NoneDue := by
  intro first hfirst
  rw [Kernel.dueTask, h.waiting_head, hfirst] at hdue
  dsimp only at hdue
  rw [h.platform_eq, h.task_eq] at hdue
  split at hdue
  · cases hdue
  · exact Bool.eq_false_iff.mpr ‹_›

theorem Shows.rotation_eq (h : k.Shows v) (current : TaskId) :
    k.rotation current = v.rotation current := by
  rw [Kernel.rotation, h.readyIds_eq, View.rotation]

theorem Shows.foremost (h : k.Shows v)
    (hid : Foremost k.task (k.rotation current) id) :
    Foremost v.task (v.rotation current) id := by
  have htask : k.task = v.task := funext h.task_eq
  rwa [h.rotation_eq, htask] at hid

/-- Somebody can always take the place of a task that cannot go on: the idle
task. -/
theorem Shows.decision_ne_stuck (h : k.Shows v) (ho : v.Orderly (some current))
    (hphase : v.phase = .started) (hcurrent : current ∈ v.ready) :
    k.decision current ≠ .stuck := by
  intro hstuck
  obtain ⟨hrunnable, hothers⟩ := decision_eq_stuck hstuck
  rw [h.task_eq] at hrunnable
  have hpos : 0 < v.taskCount := ho.staffed.populated_iff.mp (Or.inr hphase)
  have hidle : v.idle = some 0 := (ho.staffed.idle_iff 0).mpr ⟨rfl, hpos⟩
  have hidleRuns := (ho.staffed.idle_runnable 0 hidle).1
  have hmem : (0 : TaskId) ∈ k.rotation current := by
    rw [mem_rotation (h.readyIds_eq ▸ ho.queued.ready_nodup)
      (h.readyIds_eq ▸ hcurrent), h.readyIds_eq]
    refine ⟨(ho.queued.mem_ready 0).mpr ⟨hpos, Or.inr hidleRuns⟩, ?_⟩
    rintro rfl
    rw [hidleRuns] at hrunnable
    cases hrunnable
  have hstops := hothers 0 hmem
  rw [h.task_eq, hidleRuns] at hstops
  cases hstops

theorem Shows.schedule (h : k.Shows v) (ho : v.Orderly (some current))
    (hphase : v.phase = .started) (hrunning : v.running = some current)
    (hscheduled : v.scheduled = none) :
    Fulfils k.schedule v.Guarded fun k' => ∃ w,
      v.Rescheduled current w ∧ k'.Shows w := by
  have hreg : v.Registered current :=
    ho.staffed.running_registered current hrunning
  have hcurrent : current ∈ v.ready :=
    (ho.queued.mem_ready current).mpr ⟨hreg, Or.inl rfl⟩
  unfold Kernel.schedule
  rw [if_neg (by rw [h.phase_eq, hphase]; decide), h.running_eq, hrunning]
  refine Fulfils.checkGuard (fun hsafe => ?_) fun _ => ?_
  · rw [h.task_eq]
    exact hsafe current hreg
  rw [if_neg (by rw [h.scheduled_eq, hscheduled]; decide)]
  refine Fulfils.require (fun _ => ?_) fun _ => ?_
  · rw [h.readyIds_eq]
    exact List.contains_iff_mem.mpr hcurrent
  have hnodup : k.readyIds.Nodup := h.readyIds_eq ▸ ho.queued.ready_nodup
  have hmem : ∀ id, id ∈ k.rotation current ↔ id ∈ v.ready ∧ id ≠ current :=
    fun id => by
    rw [mem_rotation hnodup (h.readyIds_eq ▸ hcurrent), h.readyIds_eq]
  have hrunnable : ∀ id ∈ k.rotation current,
      (k.task id).isRunnable = true := by
    intro id hid
    obtain ⟨hready, hne⟩ := (hmem id).mp hid
    rw [h.task_eq]
    exact ((ho.queued.mem_ready id).mp hready).2.resolve_left fun heq =>
      hne (Option.some.inj heq).symm
  split
  · rename_i target hdue
    obtain ⟨hfirst, hreached⟩ := h.dueTask hdue
    have htarget : target ∈ v.waiting := List.mem_of_mem_head? hfirst
    have hne : target ≠ current := by
      rintro rfl
      exact ((ho.queued.mem_waiting target).mp htarget).2.2 rfl
    exact (h.dispatch ho hrunning hscheduled (Or.inr htarget) hne).imp id
      fun k' hk' => ⟨_, .due target htarget hne hreached hfirst, hk'⟩
  · rename_i hdue
    have hnone := h.noneDue hdue
    split
    · rename_i hstay
      obtain ⟨hgoes, hothers⟩ := decision_eq_stay hrunnable hstay
      rw [h.task_eq] at hgoes
      simp only [h.rotation_eq, h.task_eq] at hothers
      exact Fulfils.ok ⟨v, .stays hgoes hnone hothers, h⟩
    · rename_i target hswitch
      obtain ⟨hforemost, hyields⟩ := decision_eq_switchTo hrunnable hswitch
      obtain ⟨htarget, hne⟩ := (hmem target).mp hforemost.mem
      rw [h.task_eq, h.task_eq] at hyields
      exact (h.dispatch ho hrunning hscheduled (Or.inl htarget) hne).imp id
        fun k' hk' =>
        ⟨_, .chosen target htarget hne hnone (h.foremost hforemost) hyields,
          hk'⟩
    · rename_i hstuck
      exact absurd hstuck (h.decision_ne_stuck ho hphase hcurrent)

/-- Only a task that was runnable so far can give up the processor: one that
gave it up already would have to leave the runnable tasks a second time. -/
theorem Shows.giveUp (h : k.Shows v)
    (ho : current ∈ v.ready → v.Orderly (some current))
    (hphase : v.phase = .started) (hrunning : v.running = some current)
    (hscheduled : v.scheduled = none → current ∈ v.ready)
    (hstatus : (v.task current).isRunnable = false) :
    Fulfils (k.giveUp current) (current ∈ v.ready ∧ v.Guarded)
      fun k' => ∃ w, current ∈ v.ready ∧ v.GaveUp current w ∧ k'.Shows w := by
  unfold Kernel.giveUp
  by_cases hnone : v.scheduled = none
  · have hcurrent := hscheduled hnone
    rw [if_pos (by rw [h.scheduled_eq, hnone]; rfl)]
    refine (h.schedule (ho hcurrent) hphase hrunning hnone).imp And.right ?_
    rintro k' ⟨w, hw, hk'⟩
    exact ⟨w, hcurrent, .now hnone hw, hk'⟩
  · rw [if_neg (by rwa [h.scheduled_eq, Option.isNone_iff_eq_none])]
    refine ⟨fun hsafe => ?_, fun k' hok => ?_⟩
    · have horderly := ho hsafe.1
      obtain ⟨k', hok, -⟩ :=
        h.standDown horderly (horderly.registered_of_ready hsafe.1)
      exact ⟨k', hok⟩
    · have hcurrent := h.mem_of_standDown hstatus hok
      have horderly := ho hcurrent
      obtain ⟨k₁, hdown, hk₁⟩ :=
        h.standDown horderly (horderly.registered_of_ready hcurrent)
      obtain rfl : k₁ = k' := Except.ok.inj (hdown.symm.trans hok)
      exact ⟨_, hcurrent, .pending hnone, hk₁⟩

theorem Shows.wake (h : k.Shows v) (ho : v.Orderly none) (hid : id ∈ v.waiting)
    (hrunning : v.running ≠ none) (reply : Reply) :
    Fulfils (k.wake id reply) v.Guarded
      fun k' => ∃ w, v.Woke id reply w ∧ k'.Shows w := by
  have hpromised := h.modifyTask id fun task =>
    { task with pending := some reply }
  have horderly : (v.promised id reply).Orderly none := ho.promised
  have hguarded : v.Guarded → (v.promised id reply).Guarded := by
    intro hguarded other hother
    have hstack : ((v.promised id reply).task other).stack =
        (v.task other).stack := by
      simp only [View.promised, View.setTask]
      split <;> simp_all
    exact (View.isGuarded_of_stack hstack).trans (hguarded other hother)
  unfold Kernel.wake
  by_cases hnone : v.scheduled = none
  · obtain ⟨current, hcurrent⟩ := Option.ne_none_iff_exists'.mp hrunning
    have hready := ho.running_ready hcurrent hnone
    have hne : id ≠ current := by
      rintro rfl
      exact ho.queued.not_mem_waiting hready hid
    rw [if_pos (by
      rw [hpromised.scheduled_eq]; exact Option.isNone_iff_eq_none.mpr hnone)]
    refine (hpromised.dispatch (horderly.onTheMove hready) hcurrent hnone
      (Or.inr hid) hne).imp hguarded ?_
    exact fun k' hk' => ⟨_, .now current hcurrent hnone hne, hk'⟩
  · rw [if_neg (by
      rw [hpromised.scheduled_eq, Option.isNone_iff_eq_none]; exact hnone)]
    obtain ⟨k', hok, hk'⟩ := hpromised.reinstate horderly
      (fun hready => ho.queued.not_mem_waiting hready hid) fun _ => hid
    exact Fulfils.of_exists ⟨k', hok, _, .later hnone, hk'⟩

end Kernel

end TickKernel
