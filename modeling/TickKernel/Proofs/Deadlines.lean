/-
Deadlines without wrap-around.  A history alone says how many ticks have passed,
when a task fell asleep and at which tick its wait is over.  The kernel keeps
all that modulo the range of its clock only.  As long as the clock and the
deadlines of all waits lie within half that range it serves overdue waits in the
order of their true deadlines; outside of that window it does not.
-/
import TickKernel.Proofs.Sleeping

namespace TickKernel

/-! ### Ticks that were not counted around -/

namespace Tick

variable {clock deadline other : Tick} {now due due' : Nat}

/-- Within the window deadlines are compared by the ticks that they stand
for. -/
theorem precedes_iff (hsync : deadline + .ofNat now = clock + .ofNat due)
    (hsync' : other + .ofNat now = clock + .ofNat due')
    (hleft : due ≤ due' + maxTimeout.toNat)
    (hright : due' ≤ due + maxTimeout.toNat) :
    precedes deadline other = true ↔ due < due' := by
  have hone := congrArg UInt32.toNat hsync
  have htwo := congrArg UInt32.toNat hsync'
  rw [precedes, decide_eq_true_eq, UInt32.lt_iff_toNat_lt, UInt32.toNat_sub]
  simp only [UInt32.toNat_add, UInt32.toNat_ofNat'] at hone htwo
  have hmax : maxTimeout.toNat = 2147483647 := rfl
  have hdeadline := deadline.toNat_lt
  have hother := other.toNat_lt
  rw [hmax] at hleft hright ⊢
  omega

/-- Within the window a deadline is reached when its tick has come. -/
theorem reached_iff (hsync : deadline + .ofNat now = clock + .ofNat due)
    (hahead : due ≤ now + maxTimeout.toNat)
    (hbehind : now ≤ due + maxTimeout.toNat) :
    reached clock deadline = true ↔ due ≤ now := by
  -- The clock is compared as a deadline that is due now.
  have hclock : precedes clock deadline = true ↔ now < due :=
    precedes_iff rfl hsync hbehind hahead
  rw [reached_eq_not_precedes, Bool.not_eq_true', ← Bool.not_eq_true, hclock,
    Nat.not_lt]

/-- Deadlines stay where they are when the clock moves on. -/
theorem sync_advance (h : deadline + .ofNat now = clock + .ofNat due)
    (ticks : Tick) :
    deadline + .ofNat (now + ticks.toNat) = clock + ticks + .ofNat due := by
  rw [UInt32.ofNat_add, UInt32.ofNat_toNat, ← UInt32.add_assoc, h]
  ac_rfl

end Tick

/-! ### Ticks by the history -/

/-- The ticks that have passed. -/
def elapsed : List Step → Nat
  | [] => 0
  | step :: steps => elapsed steps + step.call.direct.lasts.toNat

/-- The task falls asleep in the step. -/
def Step.lulls (step : Step) (id : TaskId) : Bool :=
  !step.before.waitingIds.contains id && step.after.waitingIds.contains id

/-- The tick at which the last wait of the task is over. -/
def due (id : TaskId) : List Step → Nat
  | [] => 0
  | step :: steps =>
      if step.lulls id then elapsed steps + step.call.direct.timeout.toNat
      else due id steps

/-- How many calls had been made when the task fell asleep. -/
def asleepSince (id : TaskId) : List Step → Nat
  | [] => 0
  | step :: steps =>
      if step.lulls id then steps.length else asleepSince id steps

/-- The wait of a task is over earlier than that of another, or at the same tick
and began earlier. -/
def Earlier (steps : List Step) (id other : TaskId) : Prop :=
  due id steps < due other steps ∨
    due id steps = due other steps ∧ asleepSince id steps <
      asleepSince other steps

instance (steps : List Step) (id other : TaskId) :
    Decidable (Earlier steps id other) :=
  inferInstanceAs (Decidable (_ ∨ _))

def Call.setsClock : Call → Bool
  | .setClock _ => true
  | _ => false

/-- The clock is not set while tasks may wait. -/
def Step.keepsTime (step : Step) : Bool :=
  step.before.phase != .started || !step.call.direct.setsClock

/-- The clock is not set, and it and the deadlines of all waits lie within half
the range of the clock, so that comparing them is safe. -/
def timely : List Step → Bool
  | [] => true
  | step :: steps =>
      timely steps && step.keepsTime &&
        step.before.waitingIds.all (fun id =>
          decide (elapsed (step :: steps) ≤
            due id steps + Tick.maxTimeout.toNat)) &&
        step.after.waitingIds.all fun id =>
        step.after.waitingIds.all fun other =>
          decide (due id (step :: steps) ≤
            due other (step :: steps) + Tick.maxTimeout.toNat)

section Steps

variable {step : Step} {earlier steps : List Step} {k : Kernel} {id : TaskId}

theorem Step.lulls_iff : step.lulls id = true ↔
    id ∉ step.before.view.waiting ∧ id ∈ step.after.view.waiting := by
  rw [lulls, Bool.and_eq_true, List.contains_iff_mem, Bool.not_eq_true',
    ← Bool.not_eq_true, List.contains_iff_mem]
  rfl

theorem due_of_waiting (hid : id ∈ step.before.view.waiting) :
    due id (step :: steps) = due id steps :=
  if_neg fun hlulls => (step.lulls_iff.mp hlulls).1 hid

theorem asleepSince_of_waiting (hid : id ∈ step.before.view.waiting) :
    asleepSince id (step :: steps) = asleepSince id steps :=
  if_neg fun hlulls => (step.lulls_iff.mp hlulls).1 hid

theorem due_of_lulls (hid : step.lulls id = true) :
    due id (step :: steps) = elapsed steps + step.call.direct.timeout.toNat :=
  if_pos hid

theorem asleepSince_of_lulls (hid : step.lulls id = true) :
    asleepSince id (step :: steps) = steps.length :=
  if_pos hid

/-- What a step must keep to. -/
structure Step.Timely (step : Step) (steps : List Step) : Prop where
  keepsTime : step.before.view.phase = .started →
    ∀ ticks, step.call.direct ≠ .setClock ticks
  behind : ∀ id ∈ step.before.view.waiting,
    elapsed (step :: steps) ≤ due id steps + Tick.maxTimeout.toNat
  near : ∀ id ∈ step.after.view.waiting, ∀ other ∈ step.after.view.waiting,
    due id (step :: steps) ≤ due other (step :: steps) + Tick.maxTimeout.toNat

theorem timely_cons (h : timely (step :: steps) = true) :
    timely steps = true ∧ step.Timely steps := by
  simp only [timely, Bool.and_eq_true, List.all_eq_true, decide_eq_true_eq,
    Step.keepsTime, Bool.or_eq_true, bne_iff_ne, Bool.not_eq_true'] at h
  obtain ⟨⟨⟨hsteps, hkeeps⟩, hbehind⟩, hnear⟩ := h
  refine ⟨hsteps, ⟨fun hstarted ticks hcall => ?_, hbehind, hnear⟩⟩
  have hsets := hkeeps.resolve_left fun hnot => hnot hstarted
  rw [hcall] at hsets
  cases hsets

/-! ### The kernel keeps time -/

/-- What the kernel keeps of deadlines agrees with the history. -/
structure Timed (steps : List Step) (v : View) : Prop where
  started : v.waiting ≠ [] → v.phase = .started
  sync : ∀ id ∈ v.waiting, (v.task id).deadline + .ofNat (elapsed steps) =
    v.platform.clock + .ofNat (due id steps)
  ahead : ∀ id ∈ v.waiting, due id steps ≤ elapsed steps + Tick.maxTimeout.toNat
  since : ∀ id ∈ v.waiting, asleepSince id steps < steps.length
  ordered : v.waiting.Pairwise (Earlier steps)

theorem Timed.of_nobody {v : View} (h : v.waiting = []) : Timed steps v := by
  refine ⟨fun hne => absurd h hne, ?_, ?_, ?_, ?_⟩ <;> rw [h]
  · exact fun _ hid => absurd hid List.not_mem_nil
  · exact fun _ hid => absurd hid List.not_mem_nil
  · exact fun _ hid => absurd hid List.not_mem_nil
  · exact List.Pairwise.nil

/-- The first of the waiting tasks is the one whose wait is over first. -/
theorem Timed.head {v : View} {first : TaskId} {rest : List TaskId}
    (h : Timed steps v) (hwaiting : v.waiting = first :: rest) :
    ∀ other ∈ v.waiting, other = first ∨ Earlier steps first other := by
  have hordered := h.ordered
  rw [hwaiting] at hordered ⊢
  intro other hother
  rcases List.mem_cons.mp hother with rfl | hother
  · exact Or.inl rfl
  · exact Or.inr ((List.pairwise_cons.mp hordered).1 other hother)

/-- Waits that go on are left as they are. -/
theorem Timed.rest {rest : List TaskId} (h : Timed steps step.before.view)
    (hrest : rest.Sublist step.before.view.waiting) :
    rest.Pairwise (Earlier (step :: steps)) := by
  refine (h.ordered.sublist hrest).imp_of_mem fun hone hother hearlier => ?_
  have hone := hrest.subset hone
  have hother := hrest.subset hother
  rw [Earlier, due_of_waiting hone, due_of_waiting hother,
    asleepSince_of_waiting hone, asleepSince_of_waiting hother]
  exact hearlier

/-- A wait that goes on is kept in step with the clock. -/
theorem Timed.goesOn (h : Timed steps step.before.view)
    (hw : step.before.view.Shape step.call.direct step.answer.toReply
      step.after.view)
    (hcall : step.call.direct ≠ .tearDown) (htimely : step.Timely steps)
    (hid : id ∈ step.before.view.waiting)
    (hkept : (step.after.view.task id).deadline =
      (step.before.view.task id).deadline) :
    (step.after.view.task id).deadline + .ofNat (elapsed (step :: steps)) =
        step.after.view.platform.clock + .ofNat (due id (step :: steps)) ∧
      due id (step :: steps) ≤ elapsed (step :: steps) + Tick.maxTimeout.toNat ∧
      asleepSince id (step :: steps) < (step :: steps).length := by
  have hstarted := h.started (List.ne_nil_of_mem hid)
  rw [due_of_waiting hid, asleepSince_of_waiting hid, hkept,
    hw.clock_eq hstarted (htimely.keepsTime hstarted) hcall]
  refine ⟨Tick.sync_advance (h.sync id hid) _, ?_,
    Nat.lt_succ_of_lt (h.since id hid)⟩
  exact Nat.le_trans (h.ahead id hid)
    (Nat.add_le_add_right (Nat.le_add_right _ _) _)

/-- The deadline of a new wait is as far ahead of the clock as the call says. -/
theorem sync_of_lulls
    (hw : step.before.view.Shape step.call.direct step.answer.toReply
      step.after.view)
    (hcall : step.call.direct ≠ .tearDown) (htimely : step.Timely steps)
    (hstarted : step.before.view.phase = .started)
    (hlulls : step.lulls id = true)
    (hdeadline : (step.after.view.task id).deadline =
      step.before.view.platform.clock + step.call.direct.timeout) :
    (step.after.view.task id).deadline + .ofNat (elapsed (step :: steps)) =
      step.after.view.platform.clock + .ofNat (due id (step :: steps)) := by
  rw [due_of_lulls hlulls, hdeadline,
    hw.clock_eq hstarted (htimely.keepsTime hstarted) hcall, elapsed,
    UInt32.ofNat_add, UInt32.ofNat_add, UInt32.ofNat_toNat, UInt32.ofNat_toNat]
  ac_rfl

/-- Whoever falls asleep takes its place by its true deadline, behind equal
ones. -/
theorem Timed.place (h : Timed steps step.before.view) {rest : List TaskId}
    {precedes : TaskId → Bool} (hrest : rest.Sublist step.before.view.waiting)
    (hlulls : step.lulls id = true)
    (hprecedes : ∀ other ∈ rest, precedes other = true ↔
      due id (step :: steps) < due other (step :: steps)) :
    (insertBefore precedes id rest).Pairwise (Earlier (step :: steps)) := by
  refine pairwise_insertBefore (h.rest hrest) ?_ ?_ ?_
  · exact fun other hother hfirst => Or.inl ((hprecedes other hother).mp hfirst)
  · intro other hother hlast
    have hle : due other (step :: steps) ≤ due id (step :: steps) :=
      Nat.le_of_not_lt fun hlt => by
        rw [(hprecedes other hother).mpr hlt] at hlast
        cases hlast
    rcases Nat.lt_or_eq_of_le hle with hlt | heq
    · exact Or.inl hlt
    · refine Or.inr ⟨heq, ?_⟩
      rw [asleepSince_of_lulls hlulls,
        asleepSince_of_waiting (hrest.subset hother)]
      exact h.since other (hrest.subset hother)
  · intro other hother last _ hfirst hearlier
    have hlt := (hprecedes other hother).mp hfirst
    rcases hearlier with hless | ⟨heq, -⟩
    · exact Or.inl (Nat.lt_trans hlt hless)
    · exact Or.inl (heq ▸ hlt)

/-- A step that keeps to the window keeps the order of the waiting tasks. -/
theorem Timed.cons (h : Timed steps step.before.view)
    (hw : step.before.view.Shape step.call.direct step.answer.toReply
      step.after.view)
    (ho : step.before.view.Orderly none) (hcall : step.call.direct ≠ .tearDown)
    (htimely : step.Timely steps) : Timed (step :: steps) step.after.view := by
  cases hw.lulls ho hcall with
  | nobody hrest hkept =>
      have hgoes := fun id hid =>
        h.goesOn hw hcall htimely (hrest.subset hid) (hkept id hid)
      refine ⟨fun hne => ?_, fun id hid => (hgoes id hid).1,
        fun id hid => (hgoes id hid).2.1, fun id hid => (hgoes id hid).2.2,
        h.rest hrest⟩
      have hbefore : step.before.view.waiting ≠ [] := by
        intro hnil
        rw [hnil] at hrest
        exact hne (List.sublist_nil.mp hrest)
      exact hw.started (h.started hbefore) hcall
  | somebody sleeper rest hstarted hrest hnew hplace hdeadline hmax hkept =>
      have hmem : ∀ id, id ∈ step.after.view.waiting ↔
          id = sleeper ∨ id ∈ rest := fun id => by
        rw [hplace, mem_insertBefore]
      have hlulls : step.lulls sleeper = true :=
        step.lulls_iff.mpr ⟨hnew, (hmem sleeper).mpr (Or.inl rfl)⟩
      have hsleeper := sync_of_lulls hw hcall htimely hstarted hlulls hdeadline
      have hgoes := fun id hid =>
        h.goesOn hw hcall htimely (hrest.subset hid) (hkept id hid)
      refine ⟨fun _ => hw.started hstarted hcall, fun id hid => ?_,
        fun id hid => ?_, fun id hid => ?_, ?_⟩
      · rcases (hmem id).mp hid with rfl | hid
        · exact hsleeper
        · exact (hgoes id hid).1
      · rcases (hmem id).mp hid with rfl | hid
        · rw [due_of_lulls hlulls]
          exact Nat.add_le_add (Nat.le_add_right _ _)
            (UInt32.le_iff_toNat_le.mp hmax)
        · exact (hgoes id hid).2.1
      · rcases (hmem id).mp hid with rfl | hid
        · rw [asleepSince_of_lulls hlulls]
          exact Nat.lt_succ_self _
        · exact (hgoes id hid).2.2
      · rw [hplace]
        refine h.place hrest hlulls fun other hother => ?_
        have hself := (hmem sleeper).mpr (Or.inl rfl)
        have hthere := (hmem other).mpr (Or.inr hother)
        exact Tick.precedes_iff hsleeper (hgoes other hother).1
          (htimely.near sleeper hself other hthere)
          (htimely.near other hthere sleeper hself)

/-- Within the window the kernel keeps time. -/
theorem Run.timed (hrun : Run steps k) (htimely : timely steps = true) :
    Timed steps k.view := by
  induction steps generalizing k with
  | nil =>
      cases hrun with
      | fresh platform =>
          refine .of_nobody ?_
          rw [(Kernel.fresh_shows platform).view_eq]
          rfl
  | cons step earlier ih =>
      obtain ⟨ho, hw, -⟩ := hrun.performs
      obtain ⟨hbefore, rfl, -⟩ := hrun.last
      obtain ⟨hearlier, hstep⟩ := timely_cons htimely
      by_cases hcall : step.call.direct = .tearDown
      · refine .of_nobody ?_
        rw [hw.tornDown hcall]
        rfl
      · exact (ih hbefore hearlier).cons (hw.shape ho) ho hcall hstep

/-! ### Who is served -/

/-- The kernel decides in the step who runs next: a scheduling point is asked
for or the running task stops, and no switch is pending. -/
def Step.decides (step : Step) : Bool :=
  step.before.phase == .started && step.before.scheduled.isNone &&
    (step.call.direct == .tick || step.call.direct == .schedule ||
      step.call.direct == .beat ||
      step.before.running.any fun id => !(step.after.task id).isRunnable)

theorem Step.decides_iff :
    step.decides = true ↔ step.before.view.phase = .started ∧
      step.before.view.scheduled = none ∧
        step.before.view.Decides step.call.direct step.after.view := by
  rw [decides, Bool.and_eq_true, Bool.and_eq_true, beq_iff_eq,
    Option.isNone_iff_eq_none, and_assoc]
  refine and_congr Iff.rfl (and_congr Iff.rfl ?_)
  simp only [Bool.or_eq_true, beq_iff_eq, Option.any_eq_true, Bool.not_eq_true',
    or_assoc]
  rfl

/-- Overdue waits are served in order, and once at each decision. -/
structure Punctual (steps : List Step) (k : Kernel) : Prop where
  /-- The waiting tasks stand in the order in which their waits are over. -/
  ordered : k.waitingIds.Pairwise (Earlier steps)
  /-- If a wait is overdue when the kernel decides, the one that was over first
  is served. -/
  served : ∀ step earlier, step :: earlier <:+ steps → step.decides = true →
    ∀ id ∈ step.before.waitingIds, due id earlier ≤ elapsed (step :: earlier) →
      ∃ first ∈ step.before.waitingIds,
        (∀ other ∈ step.before.waitingIds, other = first ∨
          Earlier earlier first other) ∧
        step.after.scheduled.or step.after.running = some first ∧
        first ∉ step.after.waitingIds

/-- Within the window overdue waits are served in the order of their true
deadlines. -/
theorem Run.punctual (hrun : Run steps k) (htimely : timely steps = true) :
    Punctual steps k := by
  refine ⟨(hrun.timed htimely).ordered,
    fun step earlier hsuffix hdecides id hid hdue => ?_⟩
  have hpart := hrun.of_suffix hsuffix
  obtain ⟨hearlier, hstep⟩ := timely_cons
    (of_suffix_of_cons (P := fun steps => timely steps = true)
      (fun _ _ h => (timely_cons h).1) htimely hsuffix)
  obtain ⟨ho, hw, ho'⟩ := hpart.performs
  obtain ⟨hbefore, -, -⟩ := hpart.last
  obtain ⟨hstarted, hnone, hpoint⟩ := step.decides_iff.mp hdecides
  have htimed := hbefore.timed hearlier
  have hid : id ∈ step.before.view.waiting := hid
  obtain ⟨first, rest, hwaiting⟩ :=
    List.exists_cons_of_ne_nil (List.ne_nil_of_mem hid)
  have hfirst : first ∈ step.before.view.waiting := by
    rw [hwaiting]
    exact List.mem_cons_self
  have hothers := htimed.head hwaiting
  have hover : due first earlier ≤ elapsed (step :: earlier) := by
    rcases hothers id hid with rfl | hless | ⟨heq, -⟩
    · exact hdue
    · exact Nat.le_trans (Nat.le_of_lt hless) hdue
    · exact heq ▸ hdue
  have hreached :
      Tick.reached (step.before.view.platform.clock + step.call.direct.lasts)
      (step.before.view.task first).deadline = true := by
    refine (Tick.reached_iff (Tick.sync_advance (htimed.sync first hfirst) _)
      ?_ ?_).mpr hover
    · exact Nat.le_trans (htimed.ahead first hfirst)
        (Nat.add_le_add_right (Nat.le_add_right _ _) _)
    · exact hstep.behind first hfirst
  have hnext := (hw.shape ho).next_of_due ho hstarted hnone hpoint
    (by rw [hwaiting]; rfl) hreached
  refine ⟨first, hfirst, hothers, hnext, ?_⟩
  intro hstill
  exact ho'.not_next_of_waiting hstill hnext

end Steps

/-- Once scheduling has started the clock moves by single ticks only, each with
its scheduling point and its switch. -/
def Step.ticksSingly (step : Step) : Bool :=
  step.before.phase != .started || step.call.direct == .beat ||
    (step.call.direct.lasts == 0 && !step.call.direct.setsClock)

namespace Witness

/-- Three waits are over at tick 3.  Task A is served first and falls asleep
again, task B is served at once, and task C when the next decision is due. -/
def overdue : List Call :=
  trio ++ [.delay 3, .beat, .delay 2, .beat, .delay 1, .beat, .beat, .delay 9,
    .beat, .beat]

theorem punctual_overdue :
    Run (history overdue).1 (history overdue).2 ∧
      timely (history overdue).1 = true ∧
      due taskC (history overdue).1 = 3 ∧ elapsed (history overdue).1 = 6 ∧
      (history overdue).2.running = some taskC ∧
      Punctual (history overdue).1 (history overdue).2 :=
  ⟨run_history _, by decide +kernel, by decide +kernel, by decide +kernel,
    by decide +kernel, (run_history _).punctual (by decide +kernel)⟩

/-- The same, but task A sleeps as long as it may. -/
def overtaken : List Call :=
  trio ++ [.delay 3, .beat, .delay 2, .beat, .delay 1, .beat, .beat,
    .delay Tick.maxTimeout, .beat, .beat]

/-- Outside of the window task A, which is to sleep for half the range of the
clock, stands in front of task C, which is overdue, and keeps it from being
served. -/
theorem not_punctual_overtaken :
    Run (history overtaken).1 (history overtaken).2 ∧
      (history overtaken).1.all Step.ticksSingly = true ∧
      due taskC (history overtaken).1 = 3 ∧ elapsed (history overtaken).1 = 6 ∧
      (history overtaken).2.waitingIds = [taskA, taskC] ∧
      ((history overtaken).1.head?.any Step.decides = true ∧
        (history overtaken).2.running = some taskB) ∧
      ¬Punctual (history overtaken).1 (history overtaken).2 :=
  ⟨run_history _, by decide +kernel, by decide +kernel, by decide +kernel,
    by decide +kernel, by decide +kernel,
    fun h => absurd h.ordered (by decide +kernel)⟩

end Witness

end TickKernel
