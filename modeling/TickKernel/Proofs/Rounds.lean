/-
Taking turns.  The scan remembers nothing: it goes around from behind whoever is
on the processor, and takes the first of the most urgent tasks that it meets.
So a task that stands ahead of another, as urgent one cannot be passed over by
it.  A task that stands behind can, when somebody else gets the processor in
between and the scan starts afresh.
-/
import TickKernel.Proofs.Places

namespace TickKernel

namespace View

/-! ### Who is met first -/

/-- The task is runnable, and not on the processor. -/
def Idles (v : View) (id : TaskId) : Prop :=
  id ∈ v.ready ∧ (v.task id).status = .ready

/-- A call of a kernel that schedules, before which the task is Idle. -/
structure Sits (v w : View) (id : TaskId) : Prop where
  orderly : v.Orderly none
  orderly' : w.Orderly none
  linesUp : v.LinesUp w
  elects : v.Elects w
  idles : v.Idles id

/-- Task `y` stands ahead of `x`, and nobody between them is next on the
processor. -/
structure Leads (v : View) (y x : TaskId) : Prop where
  equal : v.urgency x = v.urgency y
  ahead : Ahead v.ready y x
  clear : ∀ current, v.next = some current → Ahead v.ready y current →
    ¬Ahead v.ready current x

/-- Whoever is next on the processor is as urgent as `y` and stands ahead of it,
and `x` does not stand between them. -/
structure Nears (v : View) (y x current : TaskId) : Prop where
  equal : v.urgency x = v.urgency y
  next : v.next = some current
  urgent : v.urgency current = v.urgency y
  ahead : Ahead v.ready current y
  clear : Ahead v.ready current x → ¬Ahead v.ready x y

section Turns

variable {v w : View} {x y id current : TaskId}

theorem Idles.next_ne (hid : v.Idles id) (h : v.Orderly none) :
    v.next ≠ some id := by
  intro hnext
  have hactive :=
    h.staffed.active_of_next id hnext (Option.some_ne_none id).symm
  rw [hid.2] at hactive
  cases hactive

theorem Orderly.next_ready (h : v.Orderly none) (hnext : v.next = some id) :
    id ∈ v.ready := by
  have hactive :=
    h.staffed.active_of_next id hnext (Option.some_ne_none id).symm
  refine (h.queued.mem_ready id).mpr
    ⟨?_, Or.inr ((Task.isRunnable_iff _).mpr (Or.inr hactive))⟩
  cases hscheduled : v.scheduled with
  | none =>
      refine h.staffed.running_registered id ?_
      rw [next, hscheduled] at hnext
      exact hnext
  | some target =>
      rw [next, hscheduled] at hnext
      obtain rfl := Option.some.inj hnext
      exact (h.staffed.scheduled_other target hscheduled).1

theorem Orderly.urgency_le (h : v.Orderly none) (hahead : Ahead v.ready x y) :
    v.urgency y ≤ v.urgency x :=
  List.pairwise_iff_forall_sublist.mp h.queued.ready_sorted hahead

/-- Whoever comes does not stand ahead of a task that is as urgent. -/
theorem Sits.not_ahead (h : v.Sits w y) (hnew : id ∉ v.ready) (hx : x ∈ v.ready)
    (hequal : v.urgency id ≤ v.urgency x) : ¬Ahead w.ready id x := fun hahead =>
  UInt8.not_lt.mpr hequal (h.linesUp.urgency_lt h.orderly.queued hnew hahead hx)

/-- Whoever is chosen by the scan is met before `y`, going around from behind
the one that was next on the processor so far. -/
theorem Sits.met (h : v.Sits w y) (hid : id ∈ v.ready) (hold : v.next ≠ some id)
    (hnext : w.next = some id) (hne : y ≠ id)
    (hequal : v.urgency id = v.urgency y) :
    ∃ current, v.next = some current ∧
      (Ahead v.ready current id ∧ Ahead v.ready id y ∨
        Ahead v.ready y current ∧ Ahead v.ready current id ∨
        Ahead v.ready id y ∧ Ahead v.ready y current) := by
  cases h.elects with
  | nobody hsame => exact absurd (hsame.symm.trans hnext) hold
  | roused target htarget hchosen =>
      obtain rfl := Option.some.inj (hchosen.symm.trans hnext)
      exact absurd htarget (h.orderly.queued.not_mem_waiting hid)
  | scanned current target hcurrent hready htarget hchosen hfirst =>
      obtain rfl := Option.some.inj (hchosen.symm.trans hnext)
      have hother : y ≠ current := by
        rintro rfl
        exact h.idles.next_ne h.orderly hcurrent
      exact ⟨current, hcurrent,
        (hfirst y h.idles.1 hother hne hequal.symm).of_rotation
        h.orderly.queued.ready_nodup hready⟩

/-! ### Staying ahead -/

theorem Leads.of_next (h : v.ready.Nodup) (hnext : v.next = some x)
    (hequal : v.urgency x = v.urgency y) (hahead : Ahead v.ready y x) :
    v.Leads y x := by
  refine ⟨hequal, hahead, fun current hcurrent _ hself => ?_⟩
  obtain rfl := Option.some.inj (hnext.symm.trans hcurrent)
  exact not_ahead_self h _ hself

theorem Leads.next_ne (hv : v.Leads y x) (h : v.Sits w y) (hx : v.Idles x) :
    w.next ≠ some x := by
  have hnodup := h.orderly.queued.ready_nodup
  have hne : y ≠ x := by
    rintro rfl
    exact not_ahead_self hnodup y hv.ahead
  intro hnext
  obtain ⟨current, hcurrent, hmet⟩ :=
    h.met hx.1 (hx.next_ne h.orderly) hnext hne hv.equal
  rcases hmet with ⟨-, hafter⟩ | ⟨hbehind, hbefore⟩ | ⟨hafter, -⟩
  · exact hv.ahead.asymm hnodup hafter
  · exact hv.clear current hcurrent hbehind hbefore
  · exact hv.ahead.asymm hnodup hafter

theorem Leads.step (hv : v.Leads y x) (h : v.Sits w y) (hidles : w.Idles y)
    (hx : x ∈ v.ready) (hx' : x ∈ w.ready) : w.Leads y x := by
  have hnodup := h.orderly.queued.ready_nodup
  have hy := h.idles.1
  have hy' := hidles.1
  have hurgency := h.linesUp.urgency
  refine ⟨by rw [hurgency, hv.equal], ?_, fun id hnext hbehind hbefore => ?_⟩
  · exact (h.linesUp.ahead_iff hnodup hy hy' hx hx').mpr hv.ahead
  · have hid' := h.orderly'.next_ready hnext
    have hle : v.urgency id ≤ v.urgency y := by
      rw [← hurgency]
      exact h.orderly'.urgency_le hbehind
    -- whoever stands between them stood there before, since it would have come
    -- behind `x`
    by_cases hid : id ∈ v.ready
    · have hbehind := (h.linesUp.ahead_iff hnodup hy hy' hid hid').mp hbehind
      have hbefore := (h.linesUp.ahead_iff hnodup hid hid' hx hx').mp hbefore
      by_cases hold : v.next = some id
      · exact hv.clear id hold hbehind hbefore
      · have hequal : v.urgency id = v.urgency y := by
          refine UInt8.le_antisymm hle ?_
          rw [← hv.equal]
          exact h.orderly.urgency_le hbefore
        have hne : y ≠ id := by
          rintro rfl
          exact hidles.next_ne h.orderly' hnext
        obtain ⟨current, hcurrent, hmet⟩ := h.met hid hold hnext hne hequal
        rcases hmet with ⟨-, hafter⟩ | ⟨hpassed, hmet⟩ | ⟨hafter, -⟩
        · exact hbehind.asymm hnodup hafter
        · exact hv.clear current hcurrent hpassed (hmet.trans hnodup hbefore)
        · exact hbehind.asymm hnodup hafter
    · exact h.not_ahead hid hx (hv.equal.symm ▸ hle) hbefore

/-! ### Coming nearer -/

theorem Nears.of_next (h : v.ready.Nodup) (hnext : v.next = some x)
    (hequal : v.urgency x = v.urgency y) (hahead : Ahead v.ready x y) :
    v.Nears y x x :=
  ⟨hequal, hnext, hequal, hahead,
    fun hself => absurd hself (not_ahead_self h x)⟩

theorem Nears.next_ne (hv : v.Nears y x current) (h : v.Sits w y)
    (hx : v.Idles x) (hne : y ≠ x) : w.next ≠ some x := by
  have hnodup := h.orderly.queued.ready_nodup
  intro hnext
  obtain ⟨last, hlast, hmet⟩ :=
    h.met hx.1 (hx.next_ne h.orderly) hnext hne hv.equal
  obtain rfl := Option.some.inj (hlast.symm.trans hv.next)
  rcases hmet with ⟨hmet, hafter⟩ | ⟨hpassed, -⟩ | ⟨-, hpassed⟩
  · exact hv.clear hmet hafter
  · exact hv.ahead.asymm hnodup hpassed
  · exact hv.ahead.asymm hnodup hpassed

/-- The processor is handed on by the scan only, and to a task that is as urgent
as `y`. -/
theorem Nears.step (hv : v.Nears y x current) (h : v.Sits w y)
    (hidles : w.Idles y)
    (hhands : w.next = v.next ∨ ∃ target, w.next = some target ∧
      v.Idles target ∧ v.urgency target = v.urgency y) :
    ∃ current, w.Nears y x current := by
  have hnodup := h.orderly.queued.ready_nodup
  have hy := h.idles.1
  have hy' := hidles.1
  have hurgency := h.linesUp.urgency
  -- `x` does not get between a task and `y`, since it would have come behind
  -- `y`
  have hclear : ∀ target, target ∈ v.ready → target ∈ w.ready →
      (Ahead v.ready target x → ¬Ahead v.ready x y) → Ahead w.ready target x →
        ¬Ahead w.ready x y := by
    intro target htarget htarget' hfree hbefore hbehind
    have hx' := hbehind.mem.1
    by_cases hx : x ∈ v.ready
    · exact hfree
        ((h.linesUp.ahead_iff hnodup htarget htarget' hx hx').mp hbefore)
        ((h.linesUp.ahead_iff hnodup hx hx' hy hy').mp hbehind)
    · exact h.not_ahead hx hy (UInt8.le_of_eq hv.equal) hbehind
  -- so it is enough to look at who is next
  have hnears : ∀ target, w.next = some target →
      v.urgency target = v.urgency y →
      Ahead v.ready target y → (Ahead v.ready target x → ¬Ahead v.ready x y) →
        w.Nears y x target := by
    intro target hnext hurgent hahead hfree
    have htarget := hahead.mem.1
    have htarget' := h.orderly'.next_ready hnext
    refine ⟨by rw [hurgency, hv.equal], hnext, by rw [hurgency, hurgent], ?_,
      ?_⟩
    · exact (h.linesUp.ahead_iff hnodup htarget htarget' hy hy').mpr hahead
    · exact hclear target htarget htarget' hfree
  rcases hhands with hsame | ⟨target, hchosen, hidle, hurgent⟩
  · exact ⟨current,
      hnears current (hsame.trans hv.next) hv.urgent hv.ahead hv.clear⟩
  · have hne : y ≠ target := by
      rintro rfl
      exact hidles.next_ne h.orderly' hchosen
    obtain ⟨last, hlast, hmet⟩ :=
      h.met hidle.1 (hidle.next_ne h.orderly) hchosen hne hurgent
    obtain rfl := Option.some.inj (hlast.symm.trans hv.next)
    rcases hmet with ⟨hmet, hafter⟩ | ⟨hpassed, -⟩ | ⟨-, hpassed⟩
    · exact ⟨target, hnears target hchosen hurgent hafter fun hbefore =>
        hv.clear (hmet.trans hnodup hbefore)⟩
    · exact absurd hpassed (hv.ahead.asymm hnodup)
    · exact absurd hpassed (hv.ahead.asymm hnodup)

end Turns

end View

/-! ### Turns in a history -/

/-- The task is runnable, and not on the processor. -/
def Kernel.idles (k : Kernel) (id : TaskId) : Bool :=
  k.readyIds.contains id && (k.task id).status == .ready

/-- The scan chooses the task in the step.  Whoever is dispatched in another way
has waited so far. -/
def Step.scans (step : Step) (id : TaskId) : Bool :=
  step.before.phase == .started && step.before.idles id &&
    step.after.view.next == some id

/-- If somebody else is put on the processor in the step, then by the scan, and
it has the given priority. -/
def Step.rotates (step : Step) (priority : Priority) : Bool :=
  step.after.view.next == step.before.view.next ||
    step.after.view.next.any fun id =>
      step.scans id && (step.after.task id).priority == priority

/-- No call comes before a switch that is pending. -/
def Step.prompt (step : Step) : Bool :=
  step.before.scheduled.isNone || step.call.direct == .switchOver

/-- The scan chooses `x` in the step `first` and again later, and all the time
since then `y`, which is as urgent, is Idle. -/
structure Overtakes (x y : TaskId) (first : Step) (later : List Step) :
    Prop where
  scanned : first.scans x = true
  equal : (first.after.task x).priority = (first.after.task y).priority
  idles : ∀ step ∈ later, step.before.idles y = true
  again : ∃ step ∈ later, step.scans x = true

theorem overtakes_iff {x y : TaskId} {first : Step} {later : List Step} :
    Overtakes x y first later ↔ first.scans x = true ∧
      (first.after.task x).priority = (first.after.task y).priority ∧
      (∀ step ∈ later, step.before.idles y = true) ∧
      ∃ step ∈ later, step.scans x = true := by
  constructor
  · exact fun h => ⟨h.scanned, h.equal, h.idles, h.again⟩
  · exact fun ⟨hfirst, hequal, hidles, hagain⟩ =>
      ⟨hfirst, hequal, hidles, hagain⟩

instance (x y : TaskId) (first : Step) (later : List Step) :
    Decidable (Overtakes x y first later) :=
  decidable_of_iff _ overtakes_iff.symm

/-- What keeps `y` from being passed over by `x`: it stands ahead of `x`, which
never leaves the runnable tasks, or it stands behind, and after `x` the scan
goes on without a break to tasks that are as urgent. -/
inductive Protected (x y : TaskId) (first : Step) (later : List Step) : Prop
  | ahead (hahead : Ahead first.after.readyIds y x)
      (hstays : ∀ step ∈ later, x ∈ step.before.readyIds)
  | behind (hbehind : Ahead first.after.readyIds x y)
      (hrotates : ∀ step ∈ later,
        step.rotates (first.after.task y).priority = true)

section Steps

variable {first step : Step} {later earlier steps : List Step} {k : Kernel}
  {x y id : TaskId}

theorem Kernel.idles_iff : k.idles id = true ↔ k.view.Idles id := by
  rw [idles, Bool.and_eq_true, List.contains_iff_mem, beq_iff_eq]
  rfl

theorem Step.scans_iff :
    step.scans id = true ↔ step.before.view.phase = .started ∧
      step.before.view.Idles id ∧ step.after.view.next = some id := by
  rw [scans, Bool.and_eq_true, Bool.and_eq_true, Kernel.idles_iff, beq_iff_eq,
    beq_iff_eq, and_assoc]
  rfl

theorem Step.rotates_iff {priority : Priority} : step.rotates priority = true ↔
    step.after.view.next = step.before.view.next ∨
    ∃ id, step.after.view.next = some id ∧
      step.scans id = true ∧ step.after.view.urgency id = priority := by
  rw [rotates, Bool.or_eq_true, beq_iff_eq, Option.any_eq_true]
  simp only [Bool.and_eq_true, beq_iff_eq]
  rfl

theorem Run.sits (hrun : Run (step :: steps) k)
    (hstarted : step.before.view.phase = .started)
    (hid : step.before.idles id = true) (hcall : step.call.direct ≠ .tearDown) :
    step.before.view.Sits step.after.view id ∧
      step.after.view.phase = .started := by
  obtain ⟨ho, hw, ho'⟩ := hrun.performs
  have hshape := hw.shape ho
  exact ⟨⟨ho, ho', hshape.linesUp hstarted hcall,
    hshape.elects ho hstarted hcall,
    Kernel.idles_iff.mp hid⟩, hshape.started hstarted hcall⟩

/-- Nobody is left when the kernel is torn down. -/
theorem Run.ne_tearDown (hrun : Run (step :: steps) k)
    (h : step.after.view.Idles id ∨ step.after.view.next = some id) :
    step.call.direct ≠ .tearDown := by
  obtain ⟨-, hw, -⟩ := hrun.performs
  intro hcall
  rw [hw.tornDown hcall] at h
  rcases h with ⟨hready, -⟩ | hnext
  · exact List.not_mem_nil hready
  · cases hnext

theorem Run.started (hrun : Run (step :: steps) k)
    (hscans : step.scans id = true) :
    step.after.view.phase = .started := by
  obtain ⟨hstarted, -, hnext⟩ := step.scans_iff.mp hscans
  obtain ⟨ho, hw, -⟩ := hrun.performs
  exact (hw.shape ho).started hstarted (hrun.ne_tearDown (Or.inr hnext))

/-- What holds after a step and is kept by all later ones holds from then on. -/
theorem Run.since (admits : Kernel → Prop) (holds : View → Prop)
    (hrun : Run (later ++ first :: earlier) k) (hfirst : holds first.after.view)
    (hkept : ∀ step ∈ later, ∀ steps, Run (step :: steps) step.after →
      admits step.before → admits step.after → holds step.before.view →
      holds step.after.view)
    (hadmits : ∀ step ∈ later, admits step.before) (hk : admits k) :
    holds k.view := by
  induction later generalizing k with
  | nil =>
      obtain ⟨-, rfl, -⟩ := hrun.last
      exact hfirst
  | cons step rest ih =>
      have hstep := hadmits step List.mem_cons_self
      obtain ⟨hbefore, rfl, -⟩ := hrun.last
      refine hkept step List.mem_cons_self _ hrun hstep hk ?_
      exact ih hbefore
        (fun other hother => hkept other (List.mem_cons_of_mem step hother))
        (fun other hother => hadmits other (List.mem_cons_of_mem step hother))
        hstep

/-- Task `y` stays ahead of `x`. -/
theorem Run.leads (hrun : Run (later ++ first :: earlier) k)
    (hstarted : first.after.view.phase = .started)
    (hfirst : first.after.view.Leads y x)
    (hlater : ∀ step ∈ later, step.before.idles y = true ∧
      x ∈ step.before.readyIds)
    (hk : k.idles y = true ∧ x ∈ k.readyIds) :
    k.view.phase = .started ∧ k.view.Leads y x := by
  refine hrun.since (fun k => k.idles y = true ∧ x ∈ k.readyIds)
    (fun v => v.phase = .started ∧ v.Leads y x) ⟨hstarted, hfirst⟩ ?_ hlater hk
  rintro step - steps hstep ⟨hy, hx⟩ ⟨hy', hx'⟩ ⟨hstarted, hleads⟩
  have hidles := Kernel.idles_iff.mp hy'
  obtain ⟨hsits, hstarted'⟩ :=
    hstep.sits hstarted hy (hstep.ne_tearDown (Or.inl hidles))
  exact ⟨hstarted', hleads.step hsits hidles hx hx'⟩

/-- The processor comes nearer to `y`, and not past `x`. -/
theorem Run.nears {priority : Priority}
    (hrun : Run (later ++ first :: earlier) k)
    (hstarted : first.after.view.phase = .started)
    (hurgency : first.after.view.urgency y = priority)
    (hfirst : ∃ current, first.after.view.Nears y x current)
    (hlater : ∀ step ∈ later, step.before.idles y = true)
    (hrotates : ∀ step ∈ later, step.rotates priority = true)
    (hk : k.idles y = true) :
    k.view.phase = .started ∧ k.view.urgency y = priority ∧
      ∃ current, k.view.Nears y x current := by
  refine hrun.since (fun k => k.idles y = true)
    (fun v => v.phase = .started ∧ v.urgency y = priority ∧
      ∃ current, v.Nears y x current)
    ⟨hstarted, hurgency, hfirst⟩ ?_ hlater hk
  rintro step hmem steps hstep hy hy' ⟨hstarted, hurgency, current, hnears⟩
  have hidles := Kernel.idles_iff.mp hy'
  obtain ⟨hsits, hstarted'⟩ :=
    hstep.sits hstarted hy (hstep.ne_tearDown (Or.inl hidles))
  have hsame := hsits.linesUp.urgency
  refine ⟨hstarted', by rw [hsame, hurgency], hnears.step hsits hidles ?_⟩
  rcases step.rotates_iff.mp (hrotates step hmem) with hnobody | ⟨id, hnext,
    hscans, hid⟩
  · exact Or.inl hnobody
  · refine Or.inr ⟨id, hnext, (step.scans_iff.mp hscans).2.1, ?_⟩
    rw [hurgency, ← hid, hsame]

/-- The scan does not choose `x` twice while `y`, which is as urgent, stays
Idle, if `y` stands ahead and `x` stays where it is, or if `y` stands behind and
only the scan hands on the processor, to equally urgent tasks. -/
theorem Run.takesTurns (hrun : Run (later ++ first :: earlier) k)
    (hprotected : Protected x y first later) : ¬Overtakes x y first later := by
  rintro ⟨hfirst, hequal, hidles, step, hmem, hagain⟩
  obtain ⟨-, -, hhead⟩ := first.scans_iff.mp hfirst
  obtain ⟨hstarted, hx, hnext⟩ := step.scans_iff.mp hagain
  -- `older` are the steps between the two choices
  obtain ⟨newer, older, rfl⟩ := List.append_of_mem hmem
  have hmem' : ∀ other ∈ older, other ∈ newer ++ step :: older :=
    fun other hother =>
    List.mem_append_right newer (List.mem_cons_of_mem step hother)
  have hstep : Run (step :: (older ++ first :: earlier)) step.after :=
    hrun.of_suffix ⟨newer, by rw [List.append_assoc, List.cons_append]⟩
  obtain ⟨hbefore, -, -⟩ := hstep.last
  have hpart : Run (first :: earlier) first.after :=
    hbefore.of_suffix (List.suffix_append older _)
  have hnodup := hpart.sound.orderly.queued.ready_nodup
  have hy := hidles step hmem
  have hbetween := fun other hother => hidles other (hmem' other hother)
  obtain ⟨hsits, -⟩ := hstep.sits hstarted hy (hstep.ne_tearDown (Or.inr hnext))
  cases hprotected with
  | ahead hahead hstays =>
      have hleads := hbefore.leads (hpart.started hfirst)
        (.of_next hnodup hhead hequal hahead)
        (fun other hother => ⟨hbetween other hother,
          hstays other (hmem' other hother)⟩)
        ⟨hy, hx.1⟩
      exact hleads.2.next_ne hsits hx hnext
  | behind hbehind hrotates =>
      have hne : y ≠ x := by
        rintro rfl
        exact not_ahead_self hnodup _ hbehind
      obtain ⟨-, -, current, hnears⟩ := hbefore.nears (hpart.started hfirst) rfl
        ⟨x, .of_next hnodup hhead hequal hbehind⟩ hbetween
        (fun other hother => hrotates other (hmem' other hother)) hy
      exact hnears.next_ne hsits hx hne hnext

end Steps

namespace Witness

/-- Task B has itself set aside, and task C resumes it. -/
def returned : List Call :=
  trio ++ [.beat, .suspend taskB, .switchOver, .resume taskB, .beat]

/-- To stand ahead is not enough: task B comes back behind task C, and is chosen
before task A. -/
example : ((history returned).1.drop 4).head?.any (fun first =>
    decide (Ahead first.after.readyIds taskA taskB) &&
      decide (Overtakes taskB taskA first ((history returned).1.take 4))) =
        true := by
  decide +kernel

/-- Task B takes the place of task A at a tick, task C wakes up at the next one,
and from there the scan goes on to task A. -/
def interrupted : List Call :=
  trio ++ [.beat, .beat, .delay 2, .switchOver, .beat, .beat, .beat]

theorem takesTurns_interrupted :
    Run (history interrupted).1 (history interrupted).2 ∧
      (history interrupted).2.running = some taskA ∧
      ∃ first earlier,
        (history interrupted).1 = (history interrupted).1.take 2 ++ first ::
          earlier ∧
        first.scans taskB = true ∧
        Protected taskB taskA first ((history interrupted).1.take 2) ∧
        ¬Overtakes taskB taskA first ((history interrupted).1.take 2) := by
  refine ⟨run_history _, by decide +kernel, ?_⟩
  obtain ⟨first, earlier, hsteps, hfirst⟩ :=
    exists_split (history interrupted).1 2
      (fun first => first.scans taskB &&
        decide (Ahead first.after.readyIds taskA taskB))
      (by decide +kernel)
  rw [Bool.and_eq_true, decide_eq_true_eq] at hfirst
  have hprotected : Protected taskB taskA first
      ((history interrupted).1.take 2) :=
    .ahead hfirst.2 (by decide +kernel)
  have hrun := run_history interrupted
  rw [hsteps] at hrun
  exact ⟨first, earlier, hsteps, hfirst.1, hprotected,
    hrun.takesTurns hprotected⟩

/-- Task C, which is more urgent than tasks A and B, dozes twice. -/
def preempted : List Call :=
  [.setUp, .register (spec "idle" 0), .register (spec "a" 5),
    .register (spec "b" 5),
    .register (spec "c" 7), .start, .delay 1, .switchOver, .beat, .delay 1,
    .switchOver]

/-- Whenever task C dozes off the scan starts with task A, and task B is passed
over. -/
theorem overtakes_preempted :
    Run (history preempted).1 (history preempted).2 ∧
      (history preempted).1.all Step.prompt = true ∧
      (history preempted).2.scheduled = none ∧
      ∃ first earlier,
        (history preempted).1 = (history preempted).1.take 4 ++ first ::
          earlier ∧
        first.before.idles taskB = true ∧
        Overtakes taskA taskB first ((history preempted).1.take 4) := by
  refine ⟨run_history _, by decide +kernel, by decide +kernel, ?_⟩
  obtain ⟨first, earlier, hsteps, hfirst⟩ :=
    exists_split (history preempted).1 4
      (fun first => first.before.idles taskB &&
        decide (Overtakes taskA taskB first ((history preempted).1.take 4)))
      (by decide +kernel)
  rw [Bool.and_eq_true, decide_eq_true_eq] at hfirst
  exact ⟨first, earlier, hsteps, hfirst⟩

end Witness

end TickKernel
