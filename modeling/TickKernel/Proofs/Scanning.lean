/-
The scan of the scheduler and what it comes to.  The scan goes from the running
task along the links of the runnable chain, from the end of the chain on to its
front, and stops when it is back.  On a chain in order it does stop, and it has
met every other runnable task once by then, in the order of the list rotated to
begin behind the running task.  What is decided follows from the tasks met: the
first of the most urgent ones takes over, unless the running task can go on and
is more urgent.
-/
import Mathlib.Data.List.Rotate
import TickKernel.Proofs.Lists
import TickKernel.Proofs.Places

namespace TickKernel

namespace Links

/-- In a list that the links spell, every task leads to the one behind it. -/
theorem Spells.slot_eq {n : Nat} {links : Links n} {start : Option (Fin n)}
    {front back : List (Fin n)} {id : Fin n}
    (h : links.Spells start (front ++ id :: back)) :
    links.slot id = back.head? := by
  have hrest : (⟨links.slot id⟩ : Chain n).Spells links back := h.of_append.2
  exact hrest.head_eq

end Links

namespace Kernel

/-! ### The way of the scan -/

/-- The task that is met after `id`: the one behind it, and the first runnable
one when none is behind it. -/
def successor (k : Kernel) (id : TaskId) : Option TaskId :=
  (k.links.queue.slot id).or k.ready.head

/-- From the given place on, the scan meets exactly these tasks before it is
back at `current` or meets nobody. -/
inductive Walks (k : Kernel) (current : TaskId) :
    Option TaskId → List TaskId → Prop
  | ends : Walks k current none []
  | back : Walks k current (some current) []
  | meets {id : TaskId} {rest : List TaskId} (hne : id ≠ current)
      (hrest : Walks k current (k.successor id) rest) :
      Walks k current (some id) (id :: rest)

section Walks

variable {k : Kernel} {current : TaskId} {place : Option TaskId}
  {front back ids others : List TaskId}

theorem Walks.unique (h : k.Walks current place ids)
    (h' : k.Walks current place others) :
    ids = others := by
  induction h generalizing others with
  | ends =>
      cases h'
      rfl
  | back =>
      cases h' with
      | back => rfl
      | meets hne => exact absurd rfl hne
  | meets hne _ ih =>
      cases h' with
      | back => exact absurd rfl hne
      | meets _ hrest => rw [ih hrest]

/-- A task of the runnable chain leads to the next one, and the last one to the
front. -/
theorem Linked.successor_eq (h : k.Linked) {id : TaskId}
    (hids : k.readyIds = front ++ id :: back) :
    k.successor id = back.head?.or k.readyIds.head? := by
  have hspells := h.ready
  have hhead := hspells.head_eq
  rw [Chain.Spells, hids] at hspells
  rw [successor, hspells.slot_eq, hhead]

theorem Linked.walks_front (h : k.Linked)
    (hids : k.readyIds = front ++ current :: back) (hfront : current ∉ front) :
    k.Walks current k.readyIds.head? front := by
  -- the tasks still to be met are an end of `front`
  suffices hrest : ∀ passed rest, front = passed ++ rest →
      k.Walks current (rest ++ current :: back).head? rest by
    rw [hids]
    exact hrest [] front rfl
  intro passed rest
  induction rest generalizing passed with
  | nil => exact fun _ => .back
  | cons id rest ih =>
      intro hsplit
      have hne : id ≠ current := by
        rintro rfl
        apply hfront
        simp [hsplit]
      apply Walks.meets hne
      have hplace : k.readyIds = passed ++ id :: (rest ++ current :: back) := by
        simp [hids, hsplit]
      have hmore : (rest ++ current :: back).head?.isSome = true := by simp
      rw [h.successor_eq hplace, Option.or_of_isSome hmore]
      apply ih (passed ++ [id])
      simp [hsplit]

/-- From behind `current` the scan goes to the end of the chain and then
around. -/
theorem Linked.walks_around (h : k.Linked)
    (hids : k.readyIds = front ++ current :: back) (hnodup : k.readyIds.Nodup) :
    k.Walks current (k.successor current) (back ++ front) := by
  have hapart : current ∉ front ∧ current ∉ back := by
    rw [hids] at hnodup
    simpa using (List.nodup_cons.mp (List.nodup_middle.mp hnodup)).1
  suffices hrest : ∀ passed rest, back = passed ++ rest →
      k.Walks current (rest.head?.or k.readyIds.head?) (rest ++ front) by
    rw [h.successor_eq hids]
    exact hrest [] back rfl
  intro passed rest
  induction rest generalizing passed with
  | nil => exact fun _ => h.walks_front hids hapart.1
  | cons id rest ih =>
      intro hsplit
      have hne : id ≠ current := by
        rintro rfl
        apply hapart.2
        simp [hsplit]
      apply Walks.meets hne
      have hplace : k.readyIds = (front ++ current :: passed) ++ id ::
          rest := by
        simp [hids, hsplit]
      rw [h.successor_eq hplace]
      apply ih (passed ++ [id])
      simp [hsplit]

/-- The scan meets the other runnable tasks, going around from behind
`current`. -/
theorem Linked.walks_iff (h : k.Linked) (hnodup : k.readyIds.Nodup)
    (hcurrent : current ∈ k.readyIds) (ids : List TaskId) :
    k.Walks current (k.successor current) ids ↔ ids = k.rotation current := by
  obtain ⟨front, back, hids, hfront⟩ := List.eq_append_cons_of_mem hcurrent
  have haround : k.Walks current (k.successor current)
      (k.rotation current) := by
    rw [rotation, hids, dropWhile_tail_append_takeWhile hfront]
    exact h.walks_around hids hnodup
  constructor
  · exact fun hwalks => hwalks.unique haround
  · rintro rfl
    exact haround

/-- Those are the runnable tasks, rotated to begin behind `current`. -/
theorem rotate_idxOf (k : Kernel) (hcurrent : current ∈ k.readyIds) :
    k.readyIds.rotate (k.readyIds.idxOf current + 1) = k.rotation current ++
      [current] := by
  obtain ⟨front, back, hids, hfront⟩ := List.eq_append_cons_of_mem hcurrent
  have hplace : k.readyIds.idxOf current + 1 = (front ++ [current]).length := by
    simp [hids, List.idxOf_append, hfront]
  rw [hplace, rotation, hids, dropWhile_tail_append_takeWhile hfront]
  have hsplit : front ++ current :: back = (front ++ [current]) ++
      back := by simp
  rw [hsplit, List.rotate_append_length_eq, List.append_assoc]

theorem nodup_rotation (hnodup : k.readyIds.Nodup)
    (hcurrent : current ∈ k.readyIds) :
    (k.rotation current).Nodup := by
  obtain ⟨front, back, hids, hfront⟩ := List.eq_append_cons_of_mem hcurrent
  rw [rotation, hids, dropWhile_tail_append_takeWhile hfront]
  rw [hids, List.nodup_middle, List.nodup_cons] at hnodup
  exact List.perm_append_comm.nodup_iff.mp hnodup.2

end Walks

end Kernel

/-! ### The choice -/

theorem Foremost.unique {task : TaskId → Task} {ids : List TaskId}
    {id other : TaskId} (h : Foremost task ids id)
    (h' : Foremost task ids other) (hnodup : ids.Nodup) :
    other = id := by
  by_contra hne
  have hahead := h.ahead h'.mem hne (h'.priority_le h.mem)
  have hbehind := h'.ahead h.mem (Ne.symm hne) (h.priority_le h'.mem)
  exact hahead.asymm hnodup hbehind

namespace View

variable {v : View} {current target id : TaskId}

/-- When a runnable task takes over, at most the one that gives way leaves the
list. -/
theorem ready_dispatched (htarget : target ∈ v.ready) (hne : target ≠ current) :
    (v.dispatched current target).ready =
      if (v.task current).isRunnable = true then v.ready
        else v.ready.erase current := by
  have hready : (v.readied target).ready = v.ready := if_pos htarget
  change ((v.readied target).stoodDown current).ready = _
  simp only [stoodDown, task_readied_of_ne v hne, hready]

/-- Whoever was chosen is as urgent as any runnable task. -/
theorem priority_le_of_dispatched (hnodup : v.ready.Nodup)
    (hcurrent : current ∈ v.ready)
    (hforemost : Foremost v.task (v.rotation current) target)
    (hyields : (v.task current).isRunnable = true →
      (v.task current).priority ≤ (v.task target).priority)
    (hid : id ∈ (v.dispatched current target).ready) :
    (v.task id).priority ≤ (v.task target).priority := by
  have hmem : ∀ other, other ∈ v.rotation current ↔
      other ∈ v.ready ∧ other ≠ current :=
    fun _ => mem_dropWhile_append_takeWhile hnodup hcurrent
  obtain ⟨htarget, hne⟩ := (hmem target).mp hforemost.mem
  rw [ready_dispatched htarget hne] at hid
  split at hid
  · by_cases hself : id = current
    · rw [hself]
      exact hyields ‹_›
    · exact hforemost.priority_le ((hmem id).mpr ⟨hid, hself⟩)
  · obtain ⟨hself, hready⟩ := hnodup.mem_erase_iff.mp hid
    exact hforemost.priority_le ((hmem id).mpr ⟨hready, hself⟩)

end View

/-! ### The decision -/

namespace Kernel

/-- No registered task has overwritten the guard of its stack. -/
def Guarded (k : Kernel) : Prop :=
  ∀ id, k.isRegistered id = true → (k.task id).isGuarded = true

instance (k : Kernel) : Decidable k.Guarded :=
  inferInstanceAs (Decidable (∀ id, k.isRegistered id = true →
    (k.task id).isGuarded = true))

/-- `target` is dispatched in place of `current`, and nothing else is done. -/
structure SwitchesTo (k : Kernel) (current target : TaskId) (k' : Kernel) :
    Prop where
  dispatch_eq : k.dispatch target = .ok k'
  view_eq : k'.view = k.view.dispatched current target

/-- What the scan meets from behind `current` on until it is back. -/
structure Scans (k : Kernel) (current : TaskId) : Prop where
  /-- The scan ends when it has met these tasks one after the other, and no
  others. -/
  walks_iff : ∀ ids, k.Walks current (k.successor current) ids ↔
    ids = k.rotation current
  rotate_eq : k.readyIds.rotate (k.readyIds.idxOf current + 1) =
    k.rotation current ++ [current]
  nodup : (k.rotation current).Nodup
  mem_iff : ∀ id, id ∈ k.rotation current ↔ id ∈ k.readyIds ∧ id ≠ current
  isRunnable : ∀ id ∈ k.rotation current, (k.task id).isRunnable = true
  /-- Whoever the scan meets, somebody is the first of the most urgent ones. -/
  foremost : k.rotation current ≠ [] →
    ∃ best, Foremost k.task (k.rotation current) best

/-- What the scheduling point comes to while `current` is on the processor. -/
structure Decides (k : Kernel) (current : TaskId) (k' : Kernel) : Prop where
  scans : k.Scans current
  /-- A wait that is over goes before everything else. -/
  due : ∀ first, k.waitingIds.head? = some first →
    Tick.reached k.platform.clock (k.task first).deadline = true →
      k.SwitchesTo current first k'
  yields : k.view.NoneDue → ∀ best, Foremost k.task (k.rotation current) best →
    (k.task current).isRunnable = false ∨
      (k.task current).priority ≤ (k.task best).priority →
      k.SwitchesTo current best k'
  stays : k.view.NoneDue → ∀ best, Foremost k.task (k.rotation current) best →
    (k.task current).isRunnable = true →
      (k.task best).priority < (k.task current).priority → k' = k
  alone : k.view.NoneDue → k.rotation current = [] → k' = k
  /-- Whoever runs next is as urgent as any task that can run. -/
  next : k.view.NoneDue → ∃ next, k'.scheduled.or k'.running = some next ∧
    ∀ id, k'.isRegistered id = true → (k'.task id).isRunnable = true →
      (k'.task id).priority ≤ (k'.task next).priority

section Decides

variable {k k' : Kernel} {current target : TaskId}

theorem Linked.guarded_iff (h : k.Linked) : k.Guarded ↔ k.view.Guarded :=
  forall_congr' fun id => imp_congr_left (h.shows.isRegistered_iff id)

/-- The three ways in which the scheduling point ends. -/
theorem schedule_eq_ok (hstarted : k.phase = .started)
    (hrunning : k.running = some current) (hscheduled : k.scheduled = none)
    (hok : k.schedule = .ok k') :
    (∃ due, k.dueTask = some due ∧ k.dispatch due = .ok k') ∨
      k.dueTask = none ∧ (k.decision current = .stay ∧ k' = k ∨
        ∃ best, k.decision current = .switchTo best ∧
        k.dispatch best = .ok k') := by
  unfold schedule at hok
  rw [if_neg (by simp [hstarted]), hrunning] at hok
  obtain ⟨_, -, hok⟩ := eq_ok_of_bind hok
  rw [if_neg (by simp [hscheduled])] at hok
  obtain ⟨_, -, hok⟩ := eq_ok_of_bind hok
  cases hdue : k.dueTask with
  | some due =>
      rw [hdue] at hok
      exact Or.inl ⟨due, rfl, hok⟩
  | none =>
      rw [hdue] at hok
      refine Or.inr ⟨rfl, ?_⟩
      cases hdecision : k.decision current with
      | stay =>
          rw [hdecision] at hok
          exact Or.inl ⟨rfl, (Except.ok.inj hok).symm⟩
      | switchTo best =>
          rw [hdecision] at hok
          exact Or.inr ⟨best, rfl, hok⟩
      | stuck =>
          rw [hdecision] at hok
          cases hok

/-- Whatever the tasks of a list are, if they can run one of them is the first
of the most urgent ones. -/
theorem exists_foremost {ids : List TaskId}
    (hids : ∀ id ∈ ids, (k.task id).isRunnable = true) (hne : ids ≠ []) :
    ∃ best, Foremost k.task ids best := by
  obtain ⟨id, hid⟩ := List.exists_mem_of_ne_nil ids hne
  cases hbest : k.mostUrgent ids with
  | some best => exact ⟨best, mostUrgent_eq_some hids hbest⟩
  | none =>
      have hstops := (foldl_preferred_eq_none hbest).2 id hid
      rw [hids id hid] at hstops
      cases hstops

/-- After a dispatch the task that was chosen is as urgent as any that can
run. -/
theorem SwitchesTo.next (h : k.SwitchesTo current target k') (h' : k'.Sound)
    (hle : ∀ id ∈ (k.view.dispatched current target).ready,
      (k.task id).priority ≤ (k.task target).priority) :
    ∃ next, k'.scheduled.or k'.running = some next ∧
      ∀ id, k'.isRegistered id = true → (k'.task id).isRunnable = true →
        (k'.task id).priority ≤ (k'.task next).priority := by
  have hpriority : ∀ id, (k'.task id).priority = (k.task id).priority := by
    intro id
    have hurgency := (View.linesUp_dispatched k.view current target).urgency
    rw [← h.view_eq] at hurgency
    exact congrFun hurgency id
  have hnext : k'.scheduled = some target := congrArg View.scheduled h.view_eq
  refine ⟨target, by rw [hnext]; rfl, fun id hreg hable => ?_⟩
  rw [hpriority, hpriority]
  apply hle
  have hready : id ∈ k'.readyIds :=
    (h'.mem_readyIds id).mpr ⟨hreg, (Task.isRunnable_iff _).mp hable⟩
  rwa [show k'.readyIds = _ from congrArg View.ready h.view_eq] at hready

theorem Linked.scans (h : k.Linked) (ho : k.view.Orderly (some current))
    (hcurrent : current ∈ k.readyIds) : k.Scans current := by
  have hnodup : k.readyIds.Nodup := ho.queued.ready_nodup
  have hmem : ∀ id, id ∈ k.rotation current ↔ id ∈ k.readyIds ∧ id ≠ current :=
    fun id => mem_rotation hnodup hcurrent
  have hrunnable : ∀ id ∈ k.rotation current,
      (k.task id).isRunnable = true := by
    intro id hid
    obtain ⟨hready, hne⟩ := (hmem id).mp hid
    exact ((ho.queued.mem_ready id).mp hready).2.resolve_left fun heq =>
      hne (Option.some.inj heq).symm
  exact ⟨h.walks_iff hnodup hcurrent, k.rotate_idxOf hcurrent,
    nodup_rotation hnodup hcurrent, hmem, hrunnable, exists_foremost hrunnable⟩

/-- A wait that is over is all that counts. -/
theorem SwitchesTo.decides_due (h : k.SwitchesTo current target k')
    (hk : k.Linked)
    (hscans : k.Scans current)
    (hdue : k.dueTask = some target) : k.Decides current k' := by
  obtain ⟨hfirst, hreached⟩ := hk.shows.dueTask hdue
  have hnot : ¬k.view.NoneDue := by
    intro hnone
    rw [hnone target hfirst] at hreached
    cases hreached
  refine ⟨hscans, ?_, fun hnone => absurd hnone hnot,
    fun hnone => absurd hnone hnot, fun hnone => absurd hnone hnot,
    fun hnone => absurd hnone hnot⟩
  intro first hhead _
  obtain rfl : first = target := Option.some.inj (hhead.symm.trans hfirst)
  exact h

theorem Scans.decides_stay (h : k.Scans current) (hk : k.Linked)
    (ho : k.view.Orderly (some current)) (hrunning : k.running = some current)
    (hscheduled : k.scheduled = none) (hnone : k.view.NoneDue)
    (hstay : k.decision current = .stay) : k.Decides current k := by
  obtain ⟨hable, hothers⟩ := decision_eq_stay h.isRunnable hstay
  refine ⟨h, ?_, ?_, fun _ _ _ _ _ => rfl, fun _ _ => rfl, fun _ => ?_⟩
  · intro first hhead hreached
    exact absurd hreached (Bool.eq_false_iff.mp (hnone first hhead))
  · intro _ best hbest hyields
    rcases hyields with hstops | hle
    · rw [hable] at hstops
      cases hstops
    · exact absurd (hothers best hbest.mem) (UInt8.not_lt.mpr hle)
  · refine ⟨current, by rw [hscheduled, hrunning]; rfl, fun id hreg hid => ?_⟩
    by_cases hself : id = current
    · rw [hself]
      exact UInt8.le_refl _
    · have hready : id ∈ k.readyIds :=
        (ho.queued.mem_ready id).mpr ⟨(hk.shows.isRegistered_iff id).mp hreg,
          Or.inr hid⟩
      exact UInt8.le_of_lt (hothers id ((h.mem_iff id).mpr ⟨hready, hself⟩))

/-- Somebody else takes over who was ready. -/
theorem SwitchesTo.decides_ready (h : k.SwitchesTo current target k')
    (h' : k'.Sound) (hscans : k.Scans current) (hready : k.readyIds.Nodup)
    (hcurrent : current ∈ k.readyIds) (hnone : k.view.NoneDue)
    (hswitch : k.decision current = .switchTo target) :
    k.Decides current k' := by
  obtain ⟨hforemost, hyields⟩ := decision_eq_switchTo hscans.isRunnable hswitch
  have hunique : ∀ best, Foremost k.task (k.rotation current) best →
      best = target :=
    fun best hbest => hforemost.unique hbest hscans.nodup
  refine ⟨hscans, ?_, ?_, ?_, ?_, fun _ => h.next h' fun id hid => ?_⟩
  · intro first hhead hreached
    exact absurd hreached (Bool.eq_false_iff.mp (hnone first hhead))
  · rintro - best hbest -
    rw [hunique best hbest]
    exact h
  · intro _ best hbest hable hlt
    rw [hunique best hbest] at hlt
    exact absurd (hyields hable) (UInt8.not_le.mpr hlt)
  · intro _ halone
    have hmem := hforemost.mem
    rw [halone] at hmem
    cases hmem
  · exact View.priority_le_of_dispatched hready hcurrent hforemost hyields hid

/-- The scheduling point returns whatever the running task is about to do, and
decides as it has to. -/
theorem Linked.decides (h : k.Linked) (ho : k.view.Orderly (some current))
    (hstarted : k.phase = .started) (hrunning : k.running = some current)
    (hscheduled : k.scheduled = none) (hguarded : k.Guarded) :
    ∃ k', k.schedule = .ok k' ∧ k.Decides current k' := by
  have hcurrent : current ∈ k.readyIds := (ho.queued.mem_ready current).mpr
    ⟨ho.staffed.running_registered current hrunning, Or.inl rfl⟩
  have hscans := h.scans ho hcurrent
  obtain ⟨k', hok⟩ := (h.shows.schedule ho hstarted hrunning hscheduled).returns
    (h.guarded_iff.mp hguarded)
  -- a task that is dispatched was ready or waiting, and the kernel is sound
  -- after that
  have hswitches : ∀ target, target ∈ k.readyIds ∨ target ∈ k.waitingIds →
      target ≠ current → k.dispatch target = .ok k' →
        k.SwitchesTo current target k' ∧ k'.Sound := by
    intro target htarget hne hdispatch
    have hk' := (h.shows.dispatch ho hrunning hscheduled htarget hne).holds k'
      hdispatch
    have hreg : k.view.Registered target :=
      htarget.elim ho.registered_of_ready ho.registered_of_waiting
    exact ⟨⟨hdispatch, hk'.view_eq⟩,
      hk'.sound (ho.dispatched hrunning hscheduled hreg hne)⟩
  refine ⟨k', hok, ?_⟩
  rcases schedule_eq_ok hstarted hrunning hscheduled hok with
    ⟨due, hdue, hdispatch⟩ | ⟨hdue, ⟨hstay, rfl⟩ | ⟨best, hswitch, hdispatch⟩⟩
  · have hfirst : due ∈ k.waitingIds :=
      List.mem_of_mem_head? (h.shows.dueTask hdue).1
    have hne : due ≠ current := by
      rintro rfl
      exact ((ho.queued.mem_waiting due).mp hfirst).2.2 rfl
    obtain ⟨hto, -⟩ := hswitches due (Or.inr hfirst) hne hdispatch
    exact hto.decides_due h hscans hdue
  · exact hscans.decides_stay h ho hrunning hscheduled
      (h.shows.noneDue hdue) hstay
  · obtain ⟨hready, hne⟩ := (hscans.mem_iff best).mp
      (decision_eq_switchTo hscans.isRunnable hswitch).1.mem
    obtain ⟨hto, hsound⟩ := hswitches best (Or.inl hready) hne hdispatch
    exact hto.decides_ready hsound hscans ho.queued.ready_nodup hcurrent
      (h.shows.noneDue hdue) hswitch

end Decides

end Kernel

end TickKernel
