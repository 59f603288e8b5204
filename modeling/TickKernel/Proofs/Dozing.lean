/-
Rules that compare deadlines, on a kernel moved along the clock.  There are two
of them: the first waiting task is checked against the clock, and a task that
falls asleep is put in front of those with later deadlines.  Both only meet
tasks that wait, whose deadlines all move along with the clock.  That the chain
of waiting tasks holds nobody else is what `Kernel.Dozes` says; it is kept up
within a call too, while the lists of the kernel do not yet agree with all
statuses.
-/
import TickKernel.Proofs.History
import TickKernel.Proofs.Shifting

namespace TickKernel

namespace Kernel

variable {k k' : Kernel} {offset : Tick} {id : TaskId}

/-! ### The chain of waiting tasks holds waiting tasks -/

theorem task_leaveReady (hok : k.leaveReady id = .ok k') :
    k'.task = k.task := by
  unfold leaveReady at hok
  split at hok
  · cases hok
  · cases hok
    rfl

/-- The chains of runnable and of waiting tasks are in order and apart, and
whoever is in the latter waits. -/
structure Dozes (k : Kernel) : Prop where
  ready : k.ready.Spells k.links.queue k.readyIds
  waiting : k.waiting.Spells k.links.queue k.waitingIds
  apart : ∀ id ∈ k.readyIds, id ∉ k.waitingIds
  waits : ∀ id ∈ k.waitingIds, (k.task id).status = .waiting

theorem Sound.dozes (h : k.Sound) : k.Dozes where
  ready := h.linked.ready
  waiting := h.linked.waiting
  apart := h.linked.apart
  waits id hid := ((h.orderly.queued.mem_waiting id).mp hid).2.1

theorem leaveBlocked_eq_ok {resource : Resource}
    (hok : k.leaveBlocked id resource = .ok k') :
    ∃ changed, k' = (k.putBlocked resource changed).settle resource := by
  unfold leaveBlocked at hok
  split at hok
  · cases hok
  · rename_i changed _
    cases hok
    exact ⟨changed, rfl⟩

theorem status_forgetWait (k : Kernel) (id other : TaskId) :
    ((k.forgetWait id).task other).status = (k.task other).status := by
  change ((k.modifyTask id Task.withoutWait).task other).status = _
  rw [task_modifyTask]
  split
  · rename_i heq
    rw [heq]
    rfl
  · rfl

/-- What a task does is left as it is when it gives up its place. -/
theorem status_unblock (hok : k.unblock id = .ok k') (other : TaskId) :
    (k'.task other).status = (k.task other).status := by
  unfold unblock at hok
  split at hok
  · cases hok
    exact status_forgetWait k id other
  · rename_i resource _
    obtain ⟨k₁, hleave, hk'⟩ := eq_ok_of_bind hok
    cases hk'
    obtain ⟨changed, rfl⟩ := leaveBlocked_eq_ok hleave
    rw [status_forgetWait]
    cases resource <;> rfl

namespace Dozes

/-- What does not touch the two chains may change all but the statuses of
waiting tasks. -/
theorem congr (h : k.Dozes) (hready : k'.ready = k.ready)
    (hwaiting : k'.waiting = k.waiting)
    (hlinks : k'.links.queue = k.links.queue)
    (hstatus : ∀ id ∈ k.waitingIds, (k'.task id).status = .waiting) :
    k'.Dozes := by
  have hreadyIds : k'.readyIds = k.readyIds := by
    rw [readyIds, hready, hlinks, readyIds]
  have hwaitingIds : k'.waitingIds = k.waitingIds := by
    rw [waitingIds, hwaiting, hlinks, waitingIds]
  constructor
  · rw [hready, hlinks, hreadyIds]
    exact h.ready
  · rw [hwaiting, hlinks, hwaitingIds]
    exact h.waiting
  · rw [hreadyIds, hwaitingIds]
    exact h.apart
  · rw [hwaitingIds]
    exact hstatus

theorem modifyTask (h : k.Dozes) {f : Task → Task}
    (hf : id ∈ k.waitingIds → (f (k.task id)).status = .waiting) :
    (k.modifyTask id f).Dozes := by
  refine h.congr rfl rfl rfl fun other hother => ?_
  rw [task_modifyTask]
  split
  · rename_i heq
    exact hf (heq ▸ hother)
  · exact h.waits other hother

theorem putBlocked (h : k.Dozes) (resource : Resource)
    (changed : Chain maxTasks × Links maxTasks) :
    (k.putBlocked resource changed).Dozes := by
  cases resource <;> exact h.congr rfl rfl rfl h.waits

theorem settle (h : k.Dozes) (resource : Resource) :
    (k.settle resource).Dozes := by
  cases resource <;> exact h.congr rfl rfl rfl h.waits

theorem forgetWait (h : k.Dozes) : (k.forgetWait id).Dozes :=
  h.congr rfl rfl rfl fun other hother =>
    (status_forgetWait k id other).trans (h.waits other hother)

theorem popBlocked (h : k.Dozes) {resource : Resource}
    (hpop : k.popBlocked? resource = some (id, k')) : k'.Dozes := by
  unfold popBlocked? at hpop
  split at hpop
  · cases hpop
  · cases hpop
    exact (h.putBlocked resource _).settle resource

theorem unblock (h : k.Dozes) (hok : k.unblock id = .ok k') : k'.Dozes := by
  unfold Kernel.unblock at hok
  split at hok
  · cases hok
    exact h.forgetWait
  · rename_i resource _
    obtain ⟨k₁, hleave, hk'⟩ := eq_ok_of_bind hok
    cases hk'
    obtain ⟨changed, rfl⟩ := leaveBlocked_eq_ok hleave
    exact ((h.putBlocked resource changed).settle resource).forgetWait

/-- The chain of runnable tasks may be replaced by one that leaves the waiting
tasks alone. -/
theorem putReady (h : k.Dozes) {changed : Chain maxTasks × Links maxTasks}
    {ids : List TaskId} (hids : changed.1.Spells changed.2 ids)
    (hsame : ∀ id ∈ k.waitingIds, changed.2.slot id = k.links.queue.slot id)
    (hapart : ∀ id ∈ ids, id ∉ k.waitingIds) : (k.putReady changed).Dozes := by
  have hready : (k.putReady changed).readyIds = ids := hids.toList_eq
  have hspells : k.waiting.Spells changed.2 k.waitingIds :=
    h.waiting.congr hsame
  have hwaiting : (k.putReady changed).waitingIds = k.waitingIds :=
    hspells.toList_eq
  constructor
  · rw [hready]
    exact hids
  · rw [hwaiting]
    exact hspells
  · rw [hready, hwaiting]
    exact hapart
  · rw [hwaiting]
    exact h.waits

theorem leaveReady (h : k.Dozes) (hok : k.leaveReady id = .ok k') :
    k'.Dozes := by
  unfold Kernel.leaveReady at hok
  split at hok
  · cases hok
  · rename_i changed herase
    cases hok
    have hmem : id ∈ k.readyIds := by
      by_contra hid
      rw [h.ready.erase_eq_none hid] at herase
      cases herase
    obtain ⟨_, herase', hids, -⟩ := h.ready.erase hmem
    obtain rfl := Option.some.inj (herase.symm.trans herase')
    refine h.putReady hids (fun other hother => h.ready.slot_erase herase ?_) ?_
    · exact fun hready => h.apart other hready hother
    · exact fun other hother => h.apart other (List.mem_of_mem_erase hother)

/-- A task that leaves the waiting tasks is in neither chain any more. -/
theorem leaveWaiting (h : k.Dozes) (hok : k.leaveWaiting id = .ok k') :
    k'.Dozes ∧ id ∉ k'.readyIds ∧ id ∉ k'.waitingIds := by
  unfold Kernel.leaveWaiting at hok
  split at hok
  · cases hok
  · rename_i changed herase
    cases hok
    have hmem : id ∈ k.waitingIds := by
      by_contra hid
      rw [h.waiting.erase_eq_none hid] at herase
      cases herase
    obtain ⟨_, herase', hids, -⟩ := h.waiting.erase hmem
    obtain rfl := Option.some.inj (herase.symm.trans herase')
    have hspells : k.ready.Spells changed.2 k.readyIds :=
      h.ready.congr fun other hother =>
        h.waiting.slot_erase herase (h.apart other hother)
    have hready : (k.putWaiting changed).readyIds = k.readyIds :=
      hspells.toList_eq
    have hwaiting : (k.putWaiting changed).waitingIds = k.waitingIds.erase id :=
      hids.toList_eq
    refine ⟨⟨?_, ?_, ?_, ?_⟩, ?_, ?_⟩
    · rw [hready]
      exact hspells
    · rw [hwaiting]
      exact hids
    · rw [hready, hwaiting]
      exact fun other hother hgone =>
        h.apart other hother (List.mem_of_mem_erase hgone)
    · rw [hwaiting]
      exact fun other hother => h.waits other (List.mem_of_mem_erase hother)
    · rw [hready]
      exact fun hid => h.apart id hid hmem
    · rw [hwaiting]
      exact (Links.Spells.nodup h.waiting).not_mem_erase

theorem joinReady (h : k.Dozes) (hready : id ∉ k.readyIds)
    (hwaiting : id ∉ k.waitingIds) :
    (k.joinReady id).Dozes := by
  refine h.putReady (h.ready.insertBy hready) (fun other hother => ?_)
    fun other hother => ?_
  · refine h.ready.slot_insertBy (fun hmem => h.apart other hmem hother) ?_
    exact fun heq => hwaiting (heq ▸ hother)
  · have hcases : other = id ∨ other ∈ k.readyIds := mem_insertBefore.mp hother
    rcases hcases with rfl | hother
    · exact hwaiting
    · exact h.apart other hother

/-- The end of a wait. -/
theorem reinstate (h : k.Dozes) (hwait : (k.task id).status = .waiting)
    (hok : k.reinstate id = .ok k') : k'.Dozes := by
  unfold Kernel.reinstate at hok
  obtain ⟨k₁, hunblock, hok⟩ := eq_ok_of_bind hok
  rw [if_pos ((status_unblock hunblock id).trans hwait)] at hok
  obtain ⟨k₂, hleave, hok⟩ := eq_ok_of_bind hok
  cases hok
  obtain ⟨hdozes, hready, hwaiting⟩ := (h.unblock hunblock).leaveWaiting hleave
  refine Dozes.joinReady ?_ hready hwaiting
  exact hdozes.modifyTask fun hid => absurd hid hwaiting

end Dozes

/-! ### Rules that compare deadlines -/

/-- What matters is which tasks of the chain are preceded. -/
theorem insertBy_congr {n : Nat} {chain : Chain n} {links : Links n}
    {precedes precedes' : Fin n → Bool} {id : Fin n}
    (h : ∀ other ∈ chain.toList links, precedes other = precedes' other) :
    chain.insertBy links precedes id = chain.insertBy links precedes' id := by
  have hnot : ∀ other ∈ chain.toList links,
      (!precedes other) = !precedes' other :=
    fun other hother => congrArg Bool.not (h other hother)
  simp only [Chain.insertBy, takeWhile_congr hnot, dropWhile_congr hnot]

theorem Dozes.joinWaiting_shifted (h : k.Dozes)
    (hwait : (k.task id).status = .waiting) :
    (k.shifted offset).joinWaiting id = (k.joinWaiting id).shifted offset := by
  have hsame : k.waiting.insertBy k.links.queue (fun other =>
      ((k.shifted offset).task id).dueBefore ((k.shifted offset).task other))
        id = k.waiting.insertBy k.links.queue (fun other =>
          (k.task id).dueBefore (k.task other)) id := by
    refine insertBy_congr fun other hother => ?_
    rw [task_shifted, task_shifted]
    exact Task.dueBefore_shifted hwait (h.waits other hother)
  rw [joinWaiting]
  exact congrArg (fun changed => (k.putWaiting changed).shifted offset) hsame

theorem Dozes.dueTask_shifted (h : k.Dozes) :
    (k.shifted offset).dueTask = k.dueTask := by
  unfold dueTask
  rw [waiting_shifted]
  cases hhead : k.waiting.head with
  | none => rfl
  | some id =>
      have hmem : id ∈ k.waitingIds :=
        List.mem_of_mem_head? (h.waiting.head_eq.symm.trans hhead)
      dsimp only
      rw [task_shifted, Task.shifted_of_waiting (h.waits id hmem)]
      exact congrArg (fun reached => if reached = true then some id else none)
        (Tick.reached_add ..)

/-! ### Scheduling -/

theorem Dozes.tracks_standDown (h : k.Dozes) :
    Tracks offset (k.standDown id) ((k.shifted offset).standDown id) := by
  unfold standDown
  rw [task_shifted, Task.status_shifted]
  cases hstatus : (k.task id).status with
  | active | ready =>
      dsimp only
      rw [setStatus_shifted (by rw [hstatus]; decide) (by decide)]
      exact .ok _
  | waiting =>
      refine tracks_leaveReady.bind fun k₁ hleave => ?_
      rw [(h.leaveReady hleave).joinWaiting_shifted ?_]
      · exact .ok _
      · rw [task_leaveReady hleave, hstatus]
  | suspended | finished => exact tracks_leaveReady

theorem status_standDown {other : TaskId} (hok : k.standDown other = .ok k')
    (h : (k.task id).status = .ready) : (k'.task id).status = .ready := by
  unfold standDown at hok
  cases hstatus : (k.task other).status with
  | active | ready =>
      rw [hstatus] at hok
      cases hok
      rw [setStatus, task_modifyTask]
      split
      · rfl
      · exact h
  | waiting =>
      rw [hstatus] at hok
      obtain ⟨k₁, hleave, hk'⟩ := eq_ok_of_bind hok
      cases hk'
      exact (congrArg Task.status (congrFun (task_leaveReady hleave) id)).trans
        h
  | suspended | finished =>
      rw [hstatus] at hok
      rw [task_leaveReady hok]
      exact h

theorem Dozes.tracks_dispatch (h : k.Dozes) :
    Tracks offset (k.dispatch id) ((k.shifted offset).dispatch id) := by
  unfold dispatch
  refine Follows.require rfl fun _ => ?_
  rw [running_shifted]
  cases k.running with
  | none => exact .stopped k .assertion
  | some previous =>
      refine Follows.require rfl fun _ => ?_
      rw [task_shifted, Task.status_shifted]
      have harrives : Tracks offset
          (if (k.task id).status = .waiting then k.reinstate id
            else k.unblock id)
          (if (k.task id).status = .waiting then (k.shifted offset).reinstate id
            else (k.shifted offset).unblock id) := by
        split
        · exact tracks_reinstate
        · exact tracks_unblock
      refine Follows.ite_bind (harrives.bind fun k₁ harrive => ?_)
      have hdozes : k₁.Dozes := by
        split at harrive
        · exact h.reinstate ‹_› harrive
        · exact h.unblock harrive
      refine Follows.require (by rw [task_shifted, Task.status_shifted])
        fun hready => ?_
      refine hdozes.tracks_standDown.bind fun k₂ hdown => ?_
      have hstatus : (k₂.task id).status = .ready :=
        status_standDown hdown (by simpa using hready)
      rw [setStatus_shifted (by rw [hstatus]; decide) (by decide)]
      generalize k₂.setStatus id .active = k₃
      refine Follows.checkGuard (k := { k₃ with scheduled := some id }) ?_
      refine Follows.checkGuard (k := { k₃ with scheduled := some id }) ?_
      exact .ok _

/-- Who is picked depends on priorities and statuses only. -/
theorem decision_shifted (current : TaskId) :
    (k.shifted offset).decision current = k.decision current := by
  have hpreferred : (k.shifted offset).preferred = k.preferred := by
    funext best other
    simp only [preferred, task_shifted]
    rfl
  unfold decision mostUrgent
  rw [hpreferred, task_shifted]
  simp only [task_shifted]
  rfl

theorem Dozes.tracks_schedule (h : k.Dozes) :
    Tracks offset k.schedule (k.shifted offset).schedule := by
  unfold schedule
  rw [phase_shifted]
  split
  · exact .ok k
  rw [running_shifted]
  cases k.running with
  | none => exact .stopped k .assertion
  | some current =>
      refine Follows.checkGuard ?_
      rw [scheduled_shifted]
      split
      · exact .ok k
      refine Follows.require rfl fun _ => ?_
      rw [h.dueTask_shifted]
      cases k.dueTask with
      | some due => exact h.tracks_dispatch
      | none =>
          dsimp only
          rw [decision_shifted]
          cases k.decision current with
          | stay => exact .ok k
          | switchTo next => exact h.tracks_dispatch
          | stuck => exact .stopped k .assertion

theorem Dozes.tracks_giveUp (h : k.Dozes) :
    Tracks offset (k.giveUp id) ((k.shifted offset).giveUp id) := by
  unfold giveUp
  rw [scheduled_shifted]
  split
  · exact h.tracks_schedule
  · exact h.tracks_standDown

/-- A wait that begins later by some ticks ends later by as many. -/
theorem Dozes.tracks_sleep (h : k.Dozes) (timeout : Tick) (flag : WaitFlag) :
    Tracks offset (k.sleep timeout flag)
      ((k.shifted offset).sleep timeout flag) := by
  unfold sleep
  rw [running_shifted]
  cases k.running with
  | none => exact .stopped k .assertion
  | some current =>
      refine Follows.require rfl fun _ => ?_
      have hclock : k.platform.clock + offset + timeout =
          k.platform.clock + timeout + offset := by
        ac_rfl
      rw [modifyTask_shifted (f := fun task : Task => { task with
        status := .waiting, deadline := k.platform.clock + timeout, flag })]
      · exact (h.modifyTask fun _ => rfl).tracks_giveUp
      · refine Eq.trans ?_ (Task.shifted_of_waiting rfl).symm
        simp only [shifted, Platform.advance, hclock]
        rfl

theorem Dozes.tracks_wake (h : k.Dozes) (reply : Reply) :
    Tracks offset (k.wake id reply) ((k.shifted offset).wake id reply) := by
  unfold wake
  rw [modifyTask_shifted (f := fun task : Task =>
    { task with pending := some reply }) rfl]
  dsimp only
  rw [scheduled_shifted]
  split
  · exact (h.modifyTask fun hid => h.waits id hid).tracks_dispatch
  · exact tracks_reinstate

/-- Whoever was taken off its chain is woken. -/
theorem Dozes.tracks_wakeUp (h : k.Dozes) (id : TaskId) (reply : Reply) :
    Tracks offset ((k.forgetWait id).wake id reply)
      (((k.shifted offset).forgetWait id).wake id reply) := by
  rw [forgetWait_shifted]
  exact h.forgetWait.tracks_wake reply

theorem Dozes.tracks_tick (h : k.Dozes) :
    Tracks offset k.tick (k.shifted offset).tick :=
  h.tracks_schedule

end Kernel

end TickKernel
