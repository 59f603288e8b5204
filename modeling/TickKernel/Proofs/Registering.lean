/-
Registration.  Until scheduling begins, and as long as nobody is set aside or
resumed, the kernel is what the registrations make of it.  The tasks fill the
slots in the order in which they come, the first one is the idle task, and the
runnable tasks are a stable sort of those registered to run: more urgent ones
first, and equally urgent ones in the order in which they came.

The sort comes about by insertion, one task at a time.  `Leads` is the order
that each insertion keeps: by urgency, and by slot where the urgency is the
same.  As slots grow from one registration to the next, a list in this order is
the stable sort.
-/
import TickKernel.Proofs.Lists
import TickKernel.Proofs.Phases
import TickKernel.Proofs.Frames

namespace TickKernel

/-- The registrations since the kernel was new or torn down, oldest first, with
the slots that the tasks got.  Those that failed are left out. -/
def enrolments : List Step → List (TaskId × TaskSpec)
  | [] => []
  | step :: steps =>
      match step.call, step.answer with
      | .tearDown, _ => []
      | .register spec, .task (.ok id) => enrolments steps ++ [(id, spec)]
      | _, _ => enrolments steps

/-- Whether the call sets a task aside or resumes one. -/
def Call.shifts (call : Call) : Bool :=
  match call.direct with
  | .suspend _ | .resume _ => true
  | _ => false

/-- The tasks that were registered to run, oldest first. -/
def startable (enrolled : List (TaskId × TaskSpec)) : List TaskId :=
  (enrolled.filter fun entry => entry.2.mode == .running).map Prod.fst

/-- What the registrations make of the kernel. -/
structure Kernel.Enlists (k : Kernel) (enrolled : List (TaskId × TaskSpec)) :
    Prop where
  /-- The slots are taken one after the other. -/
  slots : enrolled.map (fun entry => entry.1.val) = List.range k.taskCount
  /-- The first task is the idle task. -/
  idle : k.idle = (enrolled.map Prod.fst).head?
  idle_priority : ∀ id, k.idle = some id → (k.task id).priority = Priority.idle
  priority : ∀ entry ∈ enrolled, k.idle ≠ some entry.1 →
    (k.task entry.1).priority = entry.2.priority
  status : ∀ entry ∈ enrolled, (k.task entry.1).status = entry.2.mode.status
  all : k.allIds = (enrolled.map Prod.fst).reverse
  ready : k.readyIds = (startable enrolled).mergeSort fun one other =>
    decide ((k.task other).priority ≤ (k.task one).priority)

/-- What a start without an error makes of the kernel: the most urgent task
registered to run, and among equally urgent ones the oldest, is the running task
and the only active one. -/
structure Kernel.Launches (k : Kernel) (enrolled : List (TaskId × TaskSpec))
    (k' : Kernel) (first : TaskId) : Prop where
  mem : first ∈ startable enrolled
  urgent : ∀ id ∈ startable enrolled,
    (k.task id).priority ≤ (k.task first).priority
  oldest : ∀ id ∈ startable enrolled,
    (k.task id).priority = (k.task first).priority → first ≤ id
  running : k'.running = some first
  scheduled : k'.scheduled = none
  active_iff : ∀ id, (k'.task id).status = .active ↔ id = first

/-! ### Stable sorts -/

section Sorting

variable {n : Nat} {ids : List (Fin n)} {priority : Fin n → Priority}

/-- More urgent tasks lead, and among equally urgent ones the one in the lower
slot. -/
def Leads (priority : Fin n → Priority) (one other : Fin n) : Prop :=
  priority other < priority one ∨ priority other = priority one ∧ one < other

theorem Leads.antisymm {one other : Fin n} (h : Leads priority one other)
    (h' : Leads priority other one) : one = other := by
  rcases h with hlt | ⟨heq, hlt⟩
  · rcases h' with hlt' | ⟨heq', -⟩
    · exact absurd (UInt8.lt_trans hlt hlt') (UInt8.lt_irrefl _)
    · rw [heq'] at hlt
      exact absurd hlt (UInt8.lt_irrefl _)
  · rcases h' with hlt' | ⟨-, hlt'⟩
    · rw [heq] at hlt'
      exact absurd hlt' (UInt8.lt_irrefl _)
    · exact absurd (lt_trans hlt hlt') (lt_irrefl _)

/-- Of two tasks in a list in the order of slots the one in the lower slot comes
first. -/
theorem pair_sublist (h : ids.Pairwise (· < ·)) {one other : Fin n}
    (hone : one ∈ ids) (hother : other ∈ ids) (hlt : one < other) :
    [one, other].Sublist ids := by
  obtain ⟨front, back, rfl⟩ := List.append_of_mem hone
  have hback : other ∈ back := by
    rw [List.pairwise_append] at h
    rcases List.mem_append.mp hother with hfront | hrest
    · exact absurd (h.2.2 other hfront one List.mem_cons_self) (lt_asymm hlt)
    · exact (List.mem_cons.mp hrest).resolve_left (ne_of_gt hlt)
  exact ((List.singleton_sublist.mpr hback).cons_cons one).trans
    (List.sublist_append_right front _)

/-- Two elements do not come in both orders in a list that holds each of them
once. -/
theorem not_both_sublist {one other : Fin n} (h : ids.Nodup)
    (hsub : [one, other].Sublist ids) (hsub' : [other, one].Sublist ids) :
    False := by
  have hpairwise : ids.Pairwise fun a b => ids.idxOf a < ids.idxOf b := by
    rw [List.pairwise_iff_getElem]
    intro i j hi hj hij
    rwa [h.idxOf_getElem i hi, h.idxOf_getElem j hj]
  rw [List.pairwise_iff_forall_sublist] at hpairwise
  exact absurd (hpairwise hsub) (lt_asymm (hpairwise hsub'))

/-- A stable sort by urgency of tasks that are in the order of their slots keeps
equally urgent ones in that order. -/
theorem pairwise_leads_mergeSort (h : ids.Pairwise (· < ·)) :
    (ids.mergeSort fun one other =>
      decide (priority other ≤ priority one)).Pairwise
      (Leads priority) := by
  let le : Fin n → Fin n → Bool := fun one other =>
    decide (priority other ≤ priority one)
  have htrans : ∀ a b c, le a b = true → le b c = true → le a c = true :=
    fun a b c hab hbc =>
    decide_eq_true
      (UInt8.le_trans (of_decide_eq_true hbc) (of_decide_eq_true hab))
  have htotal : ∀ a b, (le a b || le b a) = true := fun a b => by
    simpa [le] using UInt8.le_total (priority b) (priority a)
  have hnodup : (ids.mergeSort le).Nodup :=
    (List.mergeSort_perm ids le).nodup_iff.mpr (h.imp ne_of_lt)
  rw [List.pairwise_iff_forall_sublist]
  intro one other hsub
  have hle : priority other ≤ priority one := of_decide_eq_true
    (List.pairwise_iff_forall_sublist.mp
      (List.pairwise_mergeSort htrans htotal ids) hsub)
  rcases UInt8.lt_or_eq_of_le hle with hlt | heq
  · exact Or.inl hlt
  refine Or.inr ⟨heq, ?_⟩
  have hone : one ∈ ids :=
    List.mem_mergeSort.mp (hsub.subset List.mem_cons_self)
  have hother : other ∈ ids := List.mem_mergeSort.mp (hsub.subset (by simp))
  have hne : one ≠ other := by
    have hpair := hnodup.sublist hsub
    simp only [List.nodup_cons, List.mem_singleton] at hpair
    exact hpair.1
  by_contra hnot
  -- the two came the other way round, and the sort would have kept that
  have hlt : other < one := lt_of_le_of_ne (not_lt.mp hnot) hne.symm
  have hkept := List.pair_sublist_mergeSort htrans htotal
    (decide_eq_true (UInt8.le_of_eq heq.symm)) (pair_sublist h hother hone hlt)
  exact not_both_sublist hnodup hsub hkept

end Sorting

namespace View

/-! ### What registrations make of a view -/

/-- What the registrations make of the lists and tasks of a view. -/
structure Mustered (v : View) (entries : List (TaskId × TaskSpec)) : Prop where
  slots : entries.map (fun entry => entry.1.val) = List.range v.taskCount
  idle : v.idle = (entries.map Prod.fst).head?
  priority : ∀ entry ∈ entries, v.idle ≠ some entry.1 →
    (v.task entry.1).priority = entry.2.priority
  status : ∀ entry ∈ entries, (v.task entry.1).status = entry.2.mode.status
  all : v.all = (entries.map Prod.fst).reverse
  ready : v.ready.Pairwise (Leads fun id => (v.task id).priority)

/-- The tasks and the lists that registrations fill stay what they are. -/
structure Unmoved (v w : View) : Prop where
  taskCount : w.taskCount = v.taskCount
  idle : w.idle = v.idle
  all : w.all = v.all
  ready : w.ready = v.ready
  status : ∀ id, (w.task id).status = (v.task id).status
  priority : ∀ id, (w.task id).priority = (v.task id).priority

section Mustered

variable {v w : View} {entries : List (TaskId × TaskSpec)} {call : Call}
  {answer : Answer}

theorem mustered_blank (platform : Platform) : (blank platform).Mustered [] :=
  ⟨rfl, rfl, nofun, nofun, rfl, List.Pairwise.nil⟩

theorem Unmoved.mustered (h : v.Unmoved w) (hv : v.Mustered entries) :
    w.Mustered entries where
  slots := by rw [h.taskCount, hv.slots]
  idle := by rw [h.idle, hv.idle]
  priority entry hentry hidle := by
    rw [h.priority, hv.priority entry hentry (h.idle ▸ hidle)]
  status entry hentry := by rw [h.status, hv.status entry hentry]
  all := by rw [h.all, hv.all]
  ready := by
    rw [h.ready]
    exact hv.ready.imp fun hleads => by simpa only [Leads, h.priority]
      using hleads

theorem Unmoved.refl (v : View) : v.Unmoved v :=
  ⟨rfl, rfl, rfl, rfl, fun _ => rfl, fun _ => rfl⟩

theorem Switched.unmoved (h : v.Switched w) : v.Unmoved w :=
  ⟨by rw [h.lists], by rw [h.lists], by rw [h.lists], by rw [h.lists],
    fun id => (h.alike id).status, fun id => (h.alike id).priority⟩

/-- Before scheduling begins the tick has nothing to do. -/
theorem Ticked.eq_of_not_started (hw : v.Ticked w) (h : v.Orderly none)
    (hphase : v.phase ≠ .started) : w = v := by
  obtain ⟨hrunning, hscheduled, -⟩ := h.nobody_next hphase
  cases hw with
  | stopped => rfl
  | pending hpending => exact absurd hscheduled hpending
  | now hcurrent =>
      rw [hrunning] at hcurrent
      cases hcurrent

/-- Before scheduling begins most calls leave the tasks and their lists
alone. -/
theorem Performs.unmoved (hw : v.Performs call answer w) (h : v.Orderly none)
    (hbefore : v.phase ≠ .started) (hafter : w.phase ≠ .started)
    (hshifts : call.shifts = false) (htearDown : call ≠ .tearDown)
    (hregister : ∀ spec, call ≠ .register spec) : v.Unmoved w := by
  obtain ⟨hrunning, -, -⟩ := h.nobody_next hbefore
  have hshape := hw.shape h
  generalize hdirect : call.direct = direct at hshape
  generalize answer.toReply = reply at hshape
  cases hshape with
  | rests _ hrests =>
      refine ⟨hrests.taskCount, hrests.idle, hw.all_eq h hregister htearDown,
        hrests.ready,
        fun id => ?_, fun id => ?_⟩ <;> rw [hrests.task id]
  | ticks _ hticked =>
      rw [hticked.eq_of_not_started h hbefore]
      exact .refl v
  | beats saved hticked =>
      rw [hticked.eq_of_not_started h.advanced hbefore]
      have hswitched := (switched_switchedFrom
        { v with platform := v.platform.advance 1 } saved).unmoved
      exact ⟨hswitched.taskCount, hswitched.idle, hswitched.all,
        hswitched.ready, hswitched.status, hswitched.priority⟩
  | switches saved => exact (switched_switchedFrom v saved).unmoved
  | stops hcurrent =>
      rw [hrunning] at hcurrent
      cases hcurrent
  | serves hserves => exact absurd hrunning hserves.running
  | resumes | shelves =>
      rw [Call.shifts, hdirect] at hshifts
      cases hshifts
  | enrols => exact absurd (Call.eq_of_direct hdirect rfl) (hregister _)
  | enters => exact absurd rfl hafter
  | clears => exact absurd hdirect (Call.direct_ne_tearDown htearDown)

/-- The registered tasks are those that the registrations name. -/
theorem Mustered.mem_iff (hv : v.Mustered entries) (id : TaskId) :
    id ∈ entries.map Prod.fst ↔ v.Registered id := by
  have hrange : id.val ∈ entries.map (fun entry => entry.1.val) ↔
      id.val < v.taskCount := by
    rw [hv.slots, List.mem_range]
  rw [View.Registered, ← hrange, List.mem_map, List.mem_map]
  simp only [Fin.ext_iff]

/-- A new task leads those it is more urgent than, and the others lead it. -/
theorem Mustered.leads_admitted (hv : v.Mustered entries) (h : v.Orderly none)
    {id : TaskId} (hid : id.val = v.taskCount) (task : Task) :
    v.ready.Pairwise
      (Leads fun other => ((v.admitted id task).task other).priority) := by
  have hready := (h.unlisted (not_registered_of_count hid)).ready
  refine hv.ready.imp_of_mem fun {one other} hone hother hleads => ?_
  have hne : id ≠ one := fun heq => hready (heq ▸ hone)
  have hne' : id ≠ other := fun heq => hready (heq ▸ hother)
  simpa only [Leads, task_admitted_of_ne hne, task_admitted_of_ne hne'] using
    hleads

/-- A new task takes its place behind those that are as urgent as it is. -/
theorem Mustered.leads_enrolled (hv : v.Mustered entries) (h : v.Orderly none)
    {id : TaskId}
    (hid : id.val = v.taskCount) (task : Task) (mode : StartMode) :
    (v.enrolled id task mode).ready.Pairwise
      (Leads fun other => ((v.enrolled id task mode).task other).priority) := by
  have hleads := hv.leads_admitted h hid task
  cases mode with
  | suspended => exact hleads
  | running =>
      refine pairwise_insertBefore hleads ?_ ?_ ?_
      · intro other _ hother
        exact Or.inl (of_decide_eq_true hother)
      · intro other hmem hother
        have hlt : other.val < v.taskCount := h.registered_of_ready hmem
        have hslot : other < id := Fin.lt_def.mpr (by omega)
        have hle := UInt8.not_lt.mp (of_decide_eq_false hother)
        rcases UInt8.lt_or_eq_of_le hle with hless | heq
        · exact Or.inl hless
        · exact Or.inr ⟨heq, hslot⟩
      · intro other _ last _ hother hlast
        have hmore := of_decide_eq_true hother
        rcases hlast with hless | ⟨heq, -⟩
        · exact Or.inl (UInt8.lt_trans hless hmore)
        · exact Or.inl (by rwa [heq])

theorem Mustered.enrolled (hv : v.Mustered entries) (h : v.Orderly none)
    {id : TaskId} (hid : id.val = v.taskCount) (spec : TaskSpec) (stack : Stack)
    (offset : Nat) :
    (v.enrolled id (v.newcomer id spec stack offset) spec.mode).Mustered
      (entries ++ [(id, spec)]) := by
  have hold : ∀ entry ∈ entries, id ≠ entry.1 := by
    rintro entry hentry rfl
    exact not_registered_of_count hid
      ((hv.mem_iff _).mp (List.mem_map_of_mem hentry))
  have hidle :
      (v.enrolled id (v.newcomer id spec stack offset) spec.mode).idle =
      if v.idle.isNone then some id else v.idle := by
    cases spec.mode <;> rfl
  refine ⟨?_, ?_, fun entry hentry hother => ?_, fun entry hentry => ?_, ?_,
    hv.leads_enrolled h hid _ _⟩
  · have hcount :
        (v.enrolled id (v.newcomer id spec stack offset) spec.mode).taskCount =
        v.taskCount + 1 := by
      cases spec.mode <;> rfl
    rw [hcount, List.range_succ, List.map_append, hv.slots, List.map_singleton,
      hid]
  · rw [hidle, hv.idle]
    cases entries <;> rfl
  · rw [task_enrolled]
    rcases List.mem_append.mp hentry with hentry | hentry
    · rw [if_neg (hold entry hentry)]
      refine hv.priority entry hentry fun heq => hother ?_
      rw [hidle, heq]
      rfl
    · obtain rfl := List.mem_singleton.mp hentry
      rw [if_pos rfl]
      refine if_neg fun hnone => hother ?_
      rw [hidle, if_pos hnone]
  · rw [task_enrolled]
    rcases List.mem_append.mp hentry with hentry | hentry
    · rw [if_neg (hold entry hentry), hv.status entry hentry]
    · obtain rfl := List.mem_singleton.mp hentry
      rw [if_pos rfl]
      rfl
  · have hall :
        (v.enrolled id (v.newcomer id spec stack offset) spec.mode).all =
        id :: v.all := by
      cases spec.mode <;> rfl
    rw [hall, hv.all]
    simp

/-! ### The runnable tasks as a sort -/

theorem Mustered.startable_sorted (hv : v.Mustered entries) :
    (startable entries).Pairwise (· < ·) := by
  have hslots : (entries.map fun entry => entry.1.val).Pairwise (· < ·) := by
    rw [hv.slots]
    exact List.pairwise_lt_range
  have hentries : entries.Pairwise fun one other => one.1 < other.1 := by
    rw [List.pairwise_map] at hslots
    exact hslots
  exact (hentries.filter _).map _ fun _ _ hlt => hlt

theorem Mustered.mem_startable (hv : v.Mustered entries) (h : v.Orderly none)
    (id : TaskId) :
    id ∈ startable entries ↔ id ∈ v.ready := by
  have hstatus : ∀ entry ∈ entries,
      ((v.task entry.1).isRunnable = true ↔ entry.2.mode = .running) := by
    intro entry hentry
    rw [Task.isRunnable, hv.status entry hentry]
    cases entry.2.mode <;> simp [StartMode.status, TaskStatus.isRunnable]
  rw [h.queued.mem_ready id, startable]
  simp only [List.mem_map, List.mem_filter, beq_iff_eq, reduceCtorEq, false_or]
  constructor
  · rintro ⟨entry, ⟨hentry, hmode⟩, rfl⟩
    exact ⟨(hv.mem_iff _).mp (List.mem_map_of_mem hentry),
      (hstatus entry hentry).mpr hmode⟩
  · rintro ⟨hreg, hrunnable⟩
    obtain ⟨entry, hentry, rfl⟩ := List.mem_map.mp ((hv.mem_iff id).mpr hreg)
    exact ⟨entry, ⟨hentry, (hstatus entry hentry).mp hrunnable⟩, rfl⟩

/-- The runnable tasks are the stable sort of those registered to run. -/
theorem Mustered.ready_eq (hv : v.Mustered entries) (h : v.Orderly none) :
    v.ready = (startable entries).mergeSort fun one other =>
      decide ((v.task other).priority ≤ (v.task one).priority) := by
  have hsorted := hv.startable_sorted
  have hperm := List.mergeSort_perm (startable entries) fun one other =>
    decide ((v.task other).priority ≤ (v.task one).priority)
  refine List.Perm.eq_of_pairwise (fun _ _ _ _ => Leads.antisymm) hv.ready
    (pairwise_leads_mergeSort hsorted) (List.Perm.trans ?_ hperm.symm)
  exact (List.perm_ext_iff_of_nodup h.queued.ready_nodup
    (hsorted.imp ne_of_lt)).mpr
    fun id => (hv.mem_startable h id).symm

theorem Mustered.leads_of_head (hv : v.Mustered entries) (h : v.Orderly none)
    {first : TaskId} (hfirst : v.ready.head? = some first) {id : TaskId}
    (hid : id ∈ startable entries) (hne : id ≠ first) :
    Leads (fun id => (v.task id).priority) first id := by
  have hready := hv.ready
  have hmem := (hv.mem_startable h id).mp hid
  obtain ⟨rest, hrest⟩ := List.head?_eq_some_iff.mp hfirst
  rw [hrest] at hready hmem
  exact (List.pairwise_cons.mp hready).1 id
    ((List.mem_cons.mp hmem).resolve_left hne)

/-- The task entered first is the only active one. -/
theorem Orderly.active_entered_iff (h : v.Orderly none)
    (hphase : v.phase = .populated) (first : TaskId) (platform : Platform)
    (id : TaskId) :
    ((v.entered first platform).task id).status = .active ↔ id = first := by
  obtain ⟨-, -, hnext⟩ := h.nobody_next (by rw [hphase]; decide)
  simp only [View.entered, View.setTask]
  by_cases hid : first = id
  · subst hid
    simp
  · rw [if_neg hid]
    refine iff_of_false (fun hactive => ?_) (Ne.symm hid)
    have hother := h.staffed.next_of_active id hactive
    rw [hnext] at hother
    cases hother

end Mustered

end View

/-! ### Histories -/

theorem Step.Turn.not_started {step : Step} (hturn : step.Turn)
    (hcall : step.call ≠ .tearDown) (hafter : step.after.phase ≠ .started) :
    step.before.phase ≠ .started := by
  intro hstarted
  cases hturn with
  | clears htearDown => exact hcall htearDown
  | prepares _ hbefore =>
      rw [hbefore] at hstarted
      cases hstarted
  | enrols _ hbefore => exact (ne_of_open hbefore).2 hstarted
  | launches _ hbefore =>
      rw [hbefore] at hstarted
      cases hstarted
  | rests _ _ _ _ hsame => exact hafter (hsame.trans hstarted)

/-- What one call makes of the registrations. -/
theorem View.Performs.mustered {v w : View} {call : Call} {answer : Answer}
    (hw : v.Performs call answer w) (h : v.Orderly none) {k k' : Kernel}
    {steps : List Step} (hv : v.Mustered (enrolments steps))
    (hbefore : v.phase ≠ .started) (hafter : w.phase ≠ .started)
    (hshifts : call.shifts = false) (htearDown : call ≠ .tearDown) :
    w.Mustered (enrolments (⟨k, call, answer, k'⟩ :: steps)) := by
  cases hcall : call with
  | register spec =>
      subst hcall
      cases hw with
      | register hw =>
          cases hw with
          | refused => exact hv
          | enrolled => exact hv.enrolled h rfl spec _ _
  | tearDown => exact absurd hcall htearDown
  | _ =>
      exact (hw.unmoved h hbefore hafter hshifts htearDown
        fun spec heq => by rw [hcall] at heq; cases heq).mustered hv

/-- Until scheduling begins the kernel is what the registrations make of it, if
no task was set aside or resumed. -/
theorem Run.mustered {steps : List Step} {k : Kernel} (hrun : Run steps k)
    (hphase : k.phase ≠ .started)
    (hshifts : ∀ step ∈ era steps, step.call.shifts = false) :
    k.view.Mustered (enrolments steps) := by
  induction hrun with
  | fresh platform =>
      rw [(Kernel.fresh_shows platform).view_eq]
      exact View.mustered_blank platform
  | @step steps k k' call answer hrun hperform ih =>
      obtain ⟨hw, -⟩ := hrun.sound.performs hperform
      by_cases hcall : call = .tearDown
      · subst hcall
        rw [hw.tornDown rfl]
        exact View.mustered_blank _
      · rw [era_cons hcall, List.forall_mem_cons] at hshifts
        have hbefore : k.phase ≠ .started :=
          (hrun.sound.turn hperform).not_started hcall hphase
        exact hw.mustered hrun.sound.orderly (ih hbefore hshifts.2) hbefore
          hphase hshifts.1 hcall

theorem Kernel.Sound.enrols {k : Kernel} (h : k.Sound)
    {entries : List (TaskId × TaskSpec)} (hv : k.view.Mustered entries) :
    k.Enlists entries where
  slots := hv.slots
  idle := hv.idle
  idle_priority id hid := (h.orderly.staffed.idle_runnable id hid).2
  priority := hv.priority
  status := hv.status
  all := hv.all
  ready := hv.ready_eq h.orderly

/-- A start without an error enters the first of the runnable tasks. -/
theorem Kernel.Sound.launches {k k' : Kernel} (h : k.Sound)
    {entries : List (TaskId × TaskSpec)} (hv : k.view.Mustered entries)
    (hperform : k.perform .start = .ok (.unit (.ok ()), k')) :
    ∃ first, k.Launches entries k' first := by
  obtain ⟨hw, -⟩ := h.performs hperform
  generalize hview : k'.view = w at hw
  cases hw with
  | start hw =>
      generalize hresult : (Except.ok () : Except Error Unit) = result at hw
      cases hw with
      | refused | failed => cases hresult
      | entered first hphase hbrought hfirst =>
          have hmem : first ∈ startable entries :=
            (hv.mem_startable h.orderly first).mpr
              (List.mem_of_mem_head? hfirst)
          refine ⟨first, hmem, fun id hid => ?_, fun id hid hsame => ?_,
            congrArg View.running hview, congrArg View.scheduled hview,
            fun id => ?_⟩
          · by_cases hne : id = first
            · exact hne ▸ UInt8.le_refl _
            · rcases hv.leads_of_head h.orderly hfirst hid
                hne with hlt | ⟨heq, -⟩
              · exact UInt8.le_of_lt hlt
              · exact UInt8.le_of_eq heq
          · by_cases hne : id = first
            · exact le_of_eq hne.symm
            · rcases hv.leads_of_head h.orderly hfirst hid
                hne with hlt | ⟨-, hlt⟩
              · have hless : (k.task id).priority < (k.task first).priority :=
                  hlt
                rw [hsame] at hless
                exact absurd hless (UInt8.lt_irrefl _)
              · exact le_of_lt hlt
          · have htask : k'.task id = _ :=
              congrFun (congrArg View.task hview) id
            rw [htask]
            exact h.orderly.active_entered_iff hphase first _ id

/-- As soon as a task is registered, only the platform can make a start fail. -/
theorem Kernel.Sound.start_eq_ok {k : Kernel} (h : k.Sound)
    {entries : List (TaskId × TaskSpec)} (hv : k.view.Mustered entries)
    (hphase : k.phase ≠ .started) (hne : entries ≠ [])
    (hsetup : k.platform.setupFailure = none)
    (hentry : k.platform.entryFailure = none) :
    ∃ k', k.perform .start = .ok (.unit (.ok ()), k') := by
  have hlength : entries.length = k.view.taskCount := by
    simpa using congrArg List.length hv.slots
  have hcount : 0 < k.view.taskCount := hlength ▸ List.length_pos_of_ne_nil hne
  have hpopulated : k.phase = .populated :=
    (h.orderly.staffed.populated_iff.mpr hcount).resolve_right hphase
  have hstarts := h.starts_iff.mpr ⟨hpopulated, hsetup, hentry⟩
  have hresult : k.start.1 = .ok () := by
    cases hresult : k.start.1 with
    | ok => rfl
    | error error =>
        rw [hresult] at hstarts
        cases error <;> cases hstarts
  refine ⟨k.start.2, ?_⟩
  rw [Kernel.perform, ← hresult]
  rfl

/-- Until scheduling begins, and if no task was set aside or resumed, the kernel
is what the registrations make of it: no registration stops the machine, and a
start without an error enters the oldest of the most urgent tasks. -/
theorem Run.enlists {steps : List Step} {k : Kernel} (hrun : Run steps k)
    (hphase : k.phase ≠ .started)
    (hshifts : ∀ step ∈ era steps, step.call.shifts = false) :
    k.Enlists (enrolments steps) ∧
      (∀ spec, ∃ result k',
        k.perform (.register spec) = .ok (.task result, k')) ∧
      (enrolments steps ≠ [] → k.platform.setupFailure = none →
        k.platform.entryFailure = none →
        ∃ k', k.perform .start = .ok (.unit (.ok ()), k')) ∧
      ∀ k', k.perform .start = .ok (.unit (.ok ()), k') →
        ∃ first, k.Launches (enrolments steps) k' first := by
  have hv := hrun.mustered hphase hshifts
  refine ⟨hrun.sound.enrols hv, fun spec => ?_,
    hrun.sound.start_eq_ok hv hphase, fun k' => hrun.sound.launches hv⟩
  obtain ⟨verdict, hregister, -⟩ :=
    hrun.sound.shows.register hrun.sound.orderly spec
  exact ⟨verdict.1, verdict.2, by rw [Kernel.perform, hregister]; rfl⟩

namespace Witness

/-- Seven registrations two of which fail, for a task that is to be set aside
and is the first one and for a stack that is too small. -/
def recruits : List Call :=
  [.setUp, .register { spec "late" 9 with mode := .suspended },
    .register (spec "idle" 7),
    .register (spec "a" 5), .register { spec "b" 9 with mode := .suspended },
    .register { spec "small" 9 with stack := ⟨#[0], false⟩ },
    .register (spec "c" 8), .register (spec "d" 5), .register (spec "e" 8)]

theorem enlists_recruits :
    Run (history recruits).1 (history recruits).2 ∧
      (history recruits).2.phase ≠ .started ∧
      (∀ step ∈ era (history recruits).1, step.call.shifts = false) ∧
      (enrolments (history recruits).1).map (fun entry => entry.2.name) =
        ["idle", "a", "b", "c", "d", "e"] ∧
      (history recruits).2.readyIds = [3, 5, 1, 4, 0] ∧
      (history recruits).2.Enlists (enrolments (history recruits).1) ∧
      ∃ k' first, (history recruits).2.perform .start =
        .ok (.unit (.ok ()), k') ∧
        (history recruits).2.Launches (enrolments (history recruits).1) k'
        first := by
  have hphase : (history recruits).2.phase ≠ .started := by decide +kernel
  have hshifts : ∀ step ∈ era (history recruits).1,
      step.call.shifts = false := by
    decide +kernel
  obtain ⟨henlists, -, hstart, hlaunches⟩ :=
    Run.enlists (run_history recruits) hphase hshifts
  obtain ⟨k', hperform⟩ :=
    hstart (by decide +kernel) (by decide +kernel) (by decide +kernel)
  obtain ⟨first, hfirst⟩ := hlaunches k' hperform
  exact ⟨run_history _, hphase, hshifts, by decide +kernel, by decide +kernel,
    henlists, k', first, hperform, hfirst⟩

end Witness

end TickKernel
