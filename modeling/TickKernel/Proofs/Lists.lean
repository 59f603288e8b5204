/-
The lists of tasks.  Whatever calls were made, the chains of all, of runnable
and of waiting tasks lead through the tasks that belong there and to an end, and
which tasks these are follows from the registrations and the statuses.
-/
import TickKernel.Proofs.History

namespace TickKernel

/-! ### Registrations -/

/-- The tasks registered since the kernel was new or torn down, newest first. -/
def registrations : List Step → List TaskId
  | [] => []
  | step :: steps =>
      match step.call, step.answer with
      | .tearDown, _ => []
      | .register _, .task (.ok id) => id :: registrations steps
      | _, _ => registrations steps

namespace View

variable {v w : View} {call : Call} {answer : Answer}

/-- What a call does to the list of all tasks can be told from its answer. -/
theorem Performs.all_eq_registrations (hw : v.Performs call answer w)
    (h : v.Orderly none) {k k' : Kernel} {steps : List Step}
    (hsteps : registrations steps = v.all) :
    registrations (⟨k, call, answer, k'⟩ :: steps) = w.all := by
  cases hcall : call with
  | register spec =>
      subst hcall
      cases hw with
      | register hw =>
          cases hw with
          | refused => exact hsteps
          | enrolled =>
              change _ :: registrations steps = _
              rw [hsteps]
              cases spec.mode <;> rfl
  | tearDown =>
      subst hcall
      cases hw
      rfl
  | _ =>
      rw [hw.all_eq h (by rw [hcall]; simp) (by rw [hcall]; simp)]
      exact hsteps

end View

theorem Run.registrations_eq {steps : List Step} {k : Kernel}
    (hrun : Run steps k) :
    registrations steps = k.allIds := by
  induction hrun with
  | fresh platform => rfl
  | step hrun hperform ih =>
      obtain ⟨hw, hsound⟩ := hrun.sound.performs hperform
      exact hw.all_eq_registrations hrun.sound.orderly ih

/-! ### The lists of a kernel -/

/-- The chains of tasks hold what they have to, given the registrations. -/
structure Kernel.Listed (k : Kernel) (registered : List TaskId) : Prop where
  all_spells : k.all.Spells k.links.all k.allIds
  ready_spells : k.ready.Spells k.links.queue k.readyIds
  waiting_spells : k.waiting.Spells k.links.queue k.waitingIds
  all_nodup : k.allIds.Nodup
  ready_nodup : k.readyIds.Nodup
  waiting_nodup : k.waitingIds.Nodup
  all_eq : k.allIds = registered
  mem_all : ∀ id, id ∈ k.allIds ↔ k.isRegistered id = true
  mem_ready : ∀ id, id ∈ k.readyIds ↔ k.isRegistered id = true ∧
    ((k.task id).status = .ready ∨ (k.task id).status = .active)
  mem_waiting : ∀ id, id ∈ k.waitingIds ↔ k.isRegistered id = true ∧
    (k.task id).status = .waiting
  unlisted_iff : ∀ id, k.isRegistered id = true →
    (id ∉ k.readyIds ∧ id ∉ k.waitingIds ↔
      (k.task id).status = .suspended ∨ (k.task id).status = .finished)
  unlinked : ∀ id, k.isRegistered id = true →
    (k.task id).status = .suspended ∨ (k.task id).status = .finished →
      k.links.queue.slot id = none
  ready_sorted : k.readyIds.Pairwise fun earlier later =>
    (k.task later).priority ≤ (k.task earlier).priority
  deadline_eq : ∀ id, (k.task id).status ≠ .waiting → (k.task id).deadline = 0

namespace Kernel

variable {k : Kernel}

theorem Sound.mem_readyIds (h : k.Sound) (id : TaskId) : id ∈ k.readyIds ↔
    k.isRegistered id = true ∧
      ((k.task id).status = .ready ∨ (k.task id).status = .active) := by
  rw [h.shows.isRegistered_iff, ← Task.isRunnable_iff]
  have hmem := h.orderly.queued.mem_ready id
  simp only [reduceCtorEq, false_or] at hmem
  exact hmem

theorem Sound.mem_waitingIds (h : k.Sound) (id : TaskId) : id ∈ k.waitingIds ↔
    k.isRegistered id = true ∧ (k.task id).status = .waiting := by
  rw [h.shows.isRegistered_iff]
  have hmem := h.orderly.queued.mem_waiting id
  simp only [ne_eq, reduceCtorEq, not_false_eq_true, and_true] at hmem
  exact hmem

/-- A registered task is in neither list exactly if its status belongs to
none. -/
theorem Sound.unlisted_iff (h : k.Sound) {id : TaskId}
    (hid : k.isRegistered id = true) :
    id ∉ k.readyIds ∧ id ∉ k.waitingIds ↔
      (k.task id).status = .suspended ∨ (k.task id).status = .finished := by
  rw [h.mem_readyIds, h.mem_waitingIds]
  cases (k.task id).status <;> simp [hid]

theorem Sound.listed_allIds (h : k.Sound) : k.Listed k.allIds where
  all_spells := h.linked.all
  ready_spells := h.linked.ready
  waiting_spells := h.linked.waiting
  all_nodup := Links.Spells.nodup h.linked.all
  ready_nodup := h.orderly.queued.ready_nodup
  waiting_nodup := h.orderly.queued.waiting_nodup
  all_eq := rfl
  mem_all id := by
    rw [h.shows.isRegistered_iff]
    exact h.orderly.staffed.mem_all id
  mem_ready := h.mem_readyIds
  mem_waiting := h.mem_waitingIds
  unlisted_iff _ := h.unlisted_iff
  unlinked id hid hstatus := by
    obtain ⟨hready, hwaiting⟩ := (h.unlisted_iff hid).mpr hstatus
    exact h.linked.unqueued id hready hwaiting
  ready_sorted := h.orderly.queued.ready_sorted
  deadline_eq := h.orderly.queued.deadline_eq

end Kernel

/-- After any calls the lists of tasks are what the registrations and the
statuses make them. -/
theorem Run.listed {steps : List Step} {k : Kernel} (hrun : Run steps k) :
    k.Listed (registrations steps) := by
  rw [hrun.registrations_eq]
  exact hrun.sound.listed_allIds

namespace Witness

/-- Task A dozes off and is set aside while it waits for its switch, and task C
is resumed. -/
def setAside : List Call :=
  [.setUp, .register (spec "idle" 0), .register (spec "a" 5),
    .register (spec "b" 5),
    .register { spec "c" 7 with mode := .suspended }, .start, .delay 4,
    .suspend taskA, .resume taskC]

theorem listed_setAside :
    Run (history setAside).1 (history setAside).2 ∧
      registrations (history setAside).1 = [taskC, taskB, taskA, 0] ∧
      (history setAside).2.readyIds = [taskC, taskB, 0] ∧
      (history setAside).2.Listed (registrations (history setAside).1) :=
  ⟨run_history _, by decide +kernel, by decide +kernel, (run_history _).listed⟩

end Witness

end TickKernel
