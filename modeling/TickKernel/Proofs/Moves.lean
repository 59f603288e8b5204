/-
What the small steps of the kernel do to the lists that it keeps.  Under the
conditions that its rules see to, a task that joins or leaves a chain joins or
leaves the list, all other lists stay as they are, and the chains are in order
again; a task that is not in a chain cannot be taken out of it.
-/
import TickKernel.Proofs.View

namespace TickKernel

namespace Kernel

variable {k : Kernel} {v : View}

/-! ### Runnable and waiting tasks -/

/-- One of two chains through a link field was changed to hold `ids`: the tasks
of the other one kept their links, and whoever is in neither has none. -/
structure LeavesAlone (links changed : Links maxTasks)
    (ids others : List TaskId) :
    Prop where
  apart : ∀ id ∈ others, id ∉ ids
  same : ∀ id ∈ others, changed.slot id = links.slot id
  unlinked : ∀ id, id ∉ ids → id ∉ others → changed.slot id = none

section LeavesAlone

variable {chain : Chain maxTasks} {links : Links maxTasks}
  {ids others : List TaskId} {id : TaskId}

theorem LeavesAlone.insertBy (h : LeavesAlone links links ids others)
    (hids : chain.Spells links ids) (precedes : TaskId → Bool)
    (hid : id ∉ others) :
    LeavesAlone links (chain.insertBy links precedes id).2
      (insertBefore precedes id ids)
      others := by
  refine ⟨fun other hother => ?_, fun other hother => ?_,
    fun other hnot hnot' => ?_⟩
  · rw [mem_insertBefore, not_or]
    exact ⟨fun heq => hid (heq ▸ hother), h.apart other hother⟩
  · exact hids.slot_insertBy (h.apart other hother) fun heq =>
      hid (heq ▸ hother)
  · rw [mem_insertBefore, not_or] at hnot
    rw [hids.slot_insertBy hnot.2 (Ne.symm hnot.1)]
    exact h.unlinked other hnot.2 hnot'

theorem LeavesAlone.erase (h : LeavesAlone links links ids others)
    (hids : chain.Spells links ids) {changed : Chain maxTasks × Links maxTasks}
    (herase : chain.erase? links id = some changed)
    (hnone : changed.2.slot id = none) :
    LeavesAlone links changed.2 (ids.erase id) others := by
  refine ⟨fun other hother hmem => ?_, fun other hother => ?_,
    fun other hnot hnot' => ?_⟩
  · exact h.apart other hother (List.mem_of_mem_erase hmem)
  · exact hids.slot_erase herase (h.apart other hother)
  · by_cases hne : other = id
    · rw [hne, hnone]
    · have hapart : other ∉ ids := fun hmem =>
        hnot ((List.mem_erase_of_ne hne).mpr hmem)
      rw [hids.slot_erase herase hapart]
      exact h.unlinked other hapart hnot'

end LeavesAlone

theorem Shows.ready_spells (h : k.Shows v) :
    k.ready.Spells k.links.queue v.ready :=
  h.readyIds_eq ▸ h.linked.ready

theorem Shows.waiting_spells (h : k.Shows v) :
    k.waiting.Spells k.links.queue v.waiting :=
  h.waitingIds_eq ▸ h.linked.waiting

theorem Shows.apart (h : k.Shows v) {id : TaskId} (hready : id ∈ v.ready) :
    id ∉ v.waiting := by
  rw [← h.readyIds_eq] at hready
  rw [← h.waitingIds_eq]
  exact h.linked.apart id hready

theorem Shows.unqueued (h : k.Shows v) {id : TaskId} (hready : id ∉ v.ready)
    (hwaiting : id ∉ v.waiting) : k.links.queue.slot id = none := by
  rw [← h.readyIds_eq] at hready
  rw [← h.waitingIds_eq] at hwaiting
  exact h.linked.unqueued id hready hwaiting

theorem Shows.ready_alone (h : k.Shows v) :
    LeavesAlone k.links.queue k.links.queue v.ready v.waiting :=
  ⟨fun _ hwaiting hready => h.apart hready hwaiting, fun _ _ => rfl,
    fun _ hready hwaiting => h.unqueued hready hwaiting⟩

theorem Shows.waiting_alone (h : k.Shows v) :
    LeavesAlone k.links.queue k.links.queue v.waiting v.ready :=
  ⟨fun _ hready => h.apart hready, fun _ _ => rfl,
    fun _ hwaiting hready => h.unqueued hready hwaiting⟩

/-- The chain of runnable tasks may be replaced by any chain in order that
leaves the waiting tasks alone. -/
theorem Shows.putReady (h : k.Shows v)
    {changed : Chain maxTasks × Links maxTasks} {ids : List TaskId}
    (hids : changed.1.Spells changed.2 ids)
    (halone : LeavesAlone k.links.queue changed.2 ids v.waiting) :
    (k.putReady changed).Shows { v with ready := ids } := by
  have hready : (k.putReady changed).readyIds = ids := hids.toList_eq
  have hspells : k.waiting.Spells changed.2 v.waiting :=
    h.waiting_spells.congr halone.same
  have hsame : (k.putReady changed).waitingIds = v.waiting := hspells.toList_eq
  constructor
  · refine ⟨h.linked.all, hready ▸ hids, hsame ▸ hspells, ?_, ?_,
      h.linked.blocked, h.linked.blocked_apart⟩
    · intro id hid hmem
      rw [hready] at hid
      rw [hsame] at hmem
      exact halone.apart id hmem hid
    · intro id hid hmem
      rw [hready] at hid
      rw [hsame] at hmem
      exact halone.unlinked id hid hmem
  · apply View.ext
    case ready => exact hready
    case waiting => exact hsame
    all_goals rw [← h.view_eq]; rfl

/-- The chain of waiting tasks may be replaced by any chain in order that
leaves the runnable tasks alone. -/
theorem Shows.putWaiting (h : k.Shows v)
    {changed : Chain maxTasks × Links maxTasks} {ids : List TaskId}
    (hids : changed.1.Spells changed.2 ids)
    (halone : LeavesAlone k.links.queue changed.2 ids v.ready) :
    (k.putWaiting changed).Shows { v with waiting := ids } := by
  have hwaiting : (k.putWaiting changed).waitingIds = ids := hids.toList_eq
  have hspells : k.ready.Spells changed.2 v.ready :=
    h.ready_spells.congr halone.same
  have hsame : (k.putWaiting changed).readyIds = v.ready := hspells.toList_eq
  constructor
  · refine ⟨h.linked.all, hsame ▸ hspells, hwaiting ▸ hids, ?_, ?_,
      h.linked.blocked, h.linked.blocked_apart⟩
    · intro id hmem hid
      rw [hsame] at hmem
      rw [hwaiting] at hid
      exact halone.apart id hmem hid
    · intro id hmem hid
      rw [hsame] at hmem
      rw [hwaiting] at hid
      exact halone.unlinked id hid hmem
  · apply View.ext
    case ready => exact hsame
    case waiting => exact hwaiting
    all_goals rw [← h.view_eq]; rfl

theorem Shows.joinReady (h : k.Shows v) {id : TaskId} (hready : id ∉ v.ready)
    (hwaiting : id ∉ v.waiting) : (k.joinReady id).Shows (v.joinReady id) := by
  have hview : v.joinReady id = { v with
      ready :=
        insertBefore (fun other => (k.task id).outranks (k.task other)) id
          v.ready } := by
    simp only [View.joinReady, h.task_eq]
  rw [hview]
  exact h.putReady (h.ready_spells.insertBy hready)
    (h.ready_alone.insertBy h.ready_spells _ hwaiting)

theorem Shows.joinWaiting (h : k.Shows v) {id : TaskId} (hready : id ∉ v.ready)
    (hwaiting : id ∉ v.waiting) :
    (k.joinWaiting id).Shows (v.joinWaiting id) := by
  have hview : v.joinWaiting id = { v with
      waiting :=
        insertBefore (fun other => (k.task id).dueBefore (k.task other)) id
          v.waiting } := by
    simp only [View.joinWaiting, h.task_eq]
  rw [hview]
  exact h.putWaiting (h.waiting_spells.insertBy hwaiting)
    (h.waiting_alone.insertBy h.waiting_spells _ hready)

theorem Shows.leaveReady (h : k.Shows v) {id : TaskId} (hid : id ∈ v.ready) :
    ∃ k', k.leaveReady id = .ok k' ∧
      k'.Shows { v with ready := v.ready.erase id } := by
  obtain ⟨changed, herase, hids, hnone⟩ := h.ready_spells.erase hid
  refine ⟨k.putReady changed, by rw [Kernel.leaveReady, herase], ?_⟩
  exact h.putReady hids (h.ready_alone.erase h.ready_spells herase hnone)

theorem Shows.leaveWaiting (h : k.Shows v) {id : TaskId}
    (hid : id ∈ v.waiting) :
    ∃ k', k.leaveWaiting id = .ok k' ∧
      k'.Shows { v with waiting := v.waiting.erase id } := by
  obtain ⟨changed, herase, hids, hnone⟩ := h.waiting_spells.erase hid
  refine ⟨k.putWaiting changed, by rw [Kernel.leaveWaiting, herase], ?_⟩
  exact h.putWaiting hids (h.waiting_alone.erase h.waiting_spells herase hnone)

/-- A task that is not among the runnable ones cannot be taken out of them. -/
theorem Shows.mem_of_leaveReady (h : k.Shows v) {id : TaskId} {k' : Kernel}
    (hok : k.leaveReady id = .ok k') : id ∈ v.ready := by
  by_contra hid
  rw [Kernel.leaveReady, h.ready_spells.erase_eq_none hid] at hok
  cases hok

/-! ### Blocked tasks -/

theorem blockedChain_putBlocked (k : Kernel) (resource other : Resource)
    (changed : Chain maxTasks × Links maxTasks) :
    (k.putBlocked resource changed).blockedChain other =
      if resource = other then changed.1 else k.blockedChain other := by
  cases resource <;> cases other <;>
    simp only [putBlocked, putBlockedLinks, blockedChain, mutex, queue,
      putMutex, putQueue, Pool.slot_put, Resource.mutex.injEq,
      Resource.queue.injEq, reduceCtorEq, if_false]
  all_goals split <;> rfl

theorem blockedLinks_putBlocked (k : Kernel) (resource : Resource)
    (changed : Chain maxTasks × Links maxTasks) :
    (k.putBlocked resource changed).links =
      { k.links with blocked := changed.2 } := by
  cases resource <;> rfl

/-- The lists of tasks stay in order whatever tasks are blocked, as long as
these are in order too and nobody is blocked twice. -/
theorem Linked.reblocked {k k' : Kernel} (h : k.Linked)
    {blocked : Resource → List TaskId} (hall : k'.all = k.all)
    (hready : k'.ready = k.ready) (hwaiting : k'.waiting = k.waiting)
    (hlinks : k'.links.all = k.links.all)
    (hqueue : k'.links.queue = k.links.queue)
    (hspells : ∀ resource,
      (k'.blockedChain resource).Spells k'.links.blocked (blocked resource))
    (hapart : ∀ resource other id, id ∈ blocked resource → id ∈ blocked other →
      resource = other) : k'.Linked := by
  have hallIds : k'.allIds = k.allIds := by rw [allIds, hall, hlinks, allIds]
  have hreadyIds : k'.readyIds = k.readyIds := by
    rw [readyIds, hready, hqueue, readyIds]
  have hwaitingIds : k'.waitingIds = k.waitingIds := by
    rw [waitingIds, hwaiting, hqueue, waitingIds]
  have hblockedIds : k'.blockedIds = blocked :=
    funext fun resource => (hspells resource).toList_eq
  constructor
  · rw [hallIds, hall, hlinks]
    exact h.all
  · rw [hreadyIds, hready, hqueue]
    exact h.ready
  · rw [hwaitingIds, hwaiting, hqueue]
    exact h.waiting
  · rw [hreadyIds, hwaitingIds]
    exact h.apart
  · rw [hreadyIds, hwaitingIds, hqueue]
    exact h.unqueued
  · rw [hblockedIds]
    exact hspells
  · rw [hblockedIds]
    exact hapart

/-- Whether chains are in order is a matter of their heads and links only. -/
theorem Linked.of_same {k k' : Kernel} (h : k.Linked)
    (hlinks : k'.links = k.links)
    (hall : k'.all = k.all) (hready : k'.ready = k.ready)
    (hwaiting : k'.waiting = k.waiting)
    (hblocked : ∀ resource,
      k'.blockedChain resource = k.blockedChain resource) :
    k'.Linked := by
  refine h.reblocked hall hready hwaiting ?_ ?_ (fun resource => ?_)
    h.blocked_apart
  · rw [hlinks]
  · rw [hlinks]
  · rw [hblocked, hlinks]
    exact h.blocked resource

theorem Shows.blocked_spells (h : k.Shows v) (resource : Resource) :
    (k.blockedChain resource).Spells k.links.blocked (v.blocked resource) :=
  h.blockedIds_eq resource ▸ h.linked.blocked resource

theorem Shows.blocked_apart (h : k.Shows v) {resource other : Resource}
    {id : TaskId} (hid : id ∈ v.blocked resource)
    (hother : id ∈ v.blocked other) :
    resource = other := by
  rw [← h.blockedIds_eq] at hid hother
  exact h.linked.blocked_apart resource other id hid hother

/-- The chain of tasks blocked on a resource may be replaced by any chain in
order that leaves the tasks blocked on other resources alone. -/
theorem Shows.putBlocked (h : k.Shows v) {resource : Resource}
    {changed : Chain maxTasks × Links maxTasks} {ids : List TaskId}
    (hids : changed.1.Spells changed.2 ids)
    (hothers : ∀ other, resource ≠ other → ∀ id ∈ v.blocked other,
      id ∉ ids ∧ changed.2.slot id = k.links.blocked.slot id) :
    (k.putBlocked resource changed).Shows (v.setBlocked resource ids) := by
  have hspells : ∀ other,
      ((k.putBlocked resource changed).blockedChain other).Spells
      (k.putBlocked resource changed).links.blocked
      ((v.setBlocked resource ids).blocked other) := by
    intro other
    rw [blockedChain_putBlocked, blockedLinks_putBlocked]
    simp only [View.setBlocked]
    by_cases heq : resource = other
    · rw [if_pos heq, if_pos heq]
      exact hids
    · rw [if_neg heq, if_neg heq]
      exact (h.blocked_spells other).congr fun id hid =>
        (hothers other heq id hid).2
  constructor
  · refine h.linked.reblocked ?_ ?_ ?_ ?_ ?_ hspells ?_
    · cases resource <;> rfl
    · cases resource <;> rfl
    · cases resource <;> rfl
    · rw [blockedLinks_putBlocked]
    · rw [blockedLinks_putBlocked]
    · intro one other id hone hother
      simp only [View.setBlocked] at hone hother
      split at hone <;> split at hother
      · simp_all
      · exact absurd hone (hothers other ‹_› id hother).1
      · exact absurd hother (hothers one ‹_› id hone).1
      · exact h.blocked_apart hone hother
  · apply View.ext
    case blocked =>
      funext other
      exact (hspells other).toList_eq
    all_goals
      rw [← h.view_eq]
      cases resource
    all_goals first
      | rfl
      | (funext other
         simp only [view, View.setBlocked, Kernel.putBlocked, putBlockedLinks,
           mutex, queue, putMutex, putQueue, Pool.slot_put]
         split <;> simp_all)

theorem Shows.putMutex (h : k.Shows v) (id : MutexId) (owner : Option TaskId)
    (level : UInt16) :
    (k.putMutex id { k.mutex id with owner, level }).Shows
      (v.setOwner id owner level) := by
  have hblocked : ∀ resource,
      (k.putMutex id { k.mutex id with owner, level }).blockedChain resource =
        k.blockedChain resource := by
    rintro (other | other)
    · simp only [blockedChain, mutex_putMutex]
      split <;> simp_all
    · rfl
  refine ⟨h.linked.of_same rfl rfl rfl rfl hblocked, ?_⟩
  rw [← h.view_eq]
  apply View.ext
  case blocked =>
    funext resource
    change Chain.toList _ _ = Chain.toList _ _
    rw [hblocked]
    rfl
  case owner | level =>
    funext other
    simp only [view, View.setOwner, mutex_putMutex]
    split <;> rfl
  all_goals rfl

theorem Shows.putQueue (h : k.Shows v) (id : QueueId) (ring : Ring)
    (waiters : Waiters) :
    (k.putQueue id { k.queue id with ring, waiters }).Shows
      ((v.setRing id ring).setWaiters id waiters) := by
  have hblocked : ∀ resource,
      (k.putQueue id { k.queue id with ring, waiters }).blockedChain resource =
        k.blockedChain resource := by
    rintro (other | other)
    · rfl
    · simp only [blockedChain, queue_putQueue]
      split <;> simp_all
  refine ⟨h.linked.of_same rfl rfl rfl rfl hblocked, ?_⟩
  rw [← h.view_eq]
  apply View.ext
  case blocked =>
    funext resource
    change Chain.toList _ _ = Chain.toList _ _
    rw [hblocked]
    rfl
  case ring | waiters =>
    funext other
    simp only [view, View.setRing, View.setWaiters, queue_putQueue]
    split <;> rfl
  all_goals rfl

theorem Shows.putRing (h : k.Shows v) (id : QueueId) (ring : Ring) :
    (k.putRing id ring).Shows (v.setRing id ring) := by
  refine (h.putQueue id ring (k.queue id).waiters).of_eq ?_
  rw [h.waiters_eq]
  exact View.setWaiters_self (v.setRing id ring) id

theorem Shows.putWaiters (h : k.Shows v) (id : QueueId) (waiters : Waiters) :
    (k.putQueue id { k.queue id with waiters }).Shows
      (v.setWaiters id waiters) := by
  refine (h.putQueue id (k.queue id).ring waiters).of_eq ?_
  rw [h.ring_eq, View.setRing_self]

theorem Shows.isEmpty_blocked_iff (h : k.Shows v) (resource : Resource) :
    (k.blockedChain resource).isEmpty = true ↔ v.blocked resource = [] := by
  have hspells := h.blocked_spells resource
  rw [Chain.isEmpty, Option.isNone_iff_eq_none]
  cases hids : v.blocked resource with
  | nil =>
      rw [hids] at hspells
      exact ⟨fun _ => rfl, fun _ => hspells⟩
  | cons id rest =>
      rw [hids] at hspells
      simp [hspells.1]

theorem Shows.blockedChain_eq_empty (h : k.Shows v) {resource : Resource}
    (hids : v.blocked resource = []) :
    k.blockedChain resource = Chain.empty := by
  have hspells := h.blocked_spells resource
  rw [hids] at hspells
  have hhead : (k.blockedChain resource).head = none := hspells
  rw [Chain.empty, ← hhead]

theorem Shows.settle (h : k.Shows v) (resource : Resource) :
    (k.settle resource).Shows (v.settle resource) := by
  cases resource with
  | mutex id => exact h
  | queue id =>
      have hempty : (k.queue id).blocked.isEmpty = true ↔
          v.blocked (.queue id) = [] :=
        h.isEmpty_blocked_iff (.queue id)
      simp only [Kernel.settle, Queue.settle, View.settle]
      by_cases hnil : v.blocked (.queue id) = []
      · rw [if_pos (hempty.mpr hnil), if_pos hnil]
        exact h.putWaiters id .nobody
      · rw [if_neg (fun hcond => hnil (hempty.mp hcond)), if_neg hnil]
        refine (h.putWaiters id (k.queue id).waiters).of_eq ?_
        rw [h.waiters_eq, View.setWaiters_self]

theorem Shows.joinBlocked (h : k.Shows v) {id : TaskId} (resource : Resource)
    (hid : ∀ other, id ∉ v.blocked other) :
    (k.joinBlocked id resource).Shows
      (v.setBlocked resource (v.blocked resource ++ [id])) := by
  have hspells := h.blocked_spells resource
  apply h.putBlocked (hspells.pushBack (hid resource))
  intro other hne one hone
  have hapart : one ∉ v.blocked resource := fun hmem =>
    hne (h.blocked_apart hmem hone)
  have hnew : id ≠ one := fun heq => hid other (heq ▸ hone)
  refine ⟨?_, hspells.slot_pushBack (hid resource) hapart hnew⟩
  rw [List.mem_append, List.mem_singleton, not_or]
  exact ⟨hapart, hnew.symm⟩

theorem Shows.leaveBlocked (h : k.Shows v) {id : TaskId} {resource : Resource}
    (hid : id ∈ v.blocked resource) :
    ∃ k', k.leaveBlocked id resource = .ok k' ∧
      k'.Shows ((v.setBlocked resource ((v.blocked resource).erase id)).settle
        resource) := by
  have hspells := h.blocked_spells resource
  obtain ⟨changed, herase, hids, -⟩ := hspells.erase hid
  refine ⟨(k.putBlocked resource changed).settle resource,
    by rw [Kernel.leaveBlocked, herase], ?_⟩
  apply Shows.settle
  apply h.putBlocked hids
  intro other hne one hone
  have hapart : one ∉ v.blocked resource := fun hmem =>
    hne (h.blocked_apart hmem hone)
  exact ⟨fun hmem => hapart (List.mem_of_mem_erase hmem),
    hspells.slot_erase herase hapart⟩

/-- The task that was blocked first is taken off. -/
theorem Shows.popBlocked (h : k.Shows v) {id : TaskId} {rest : List TaskId}
    {resource : Resource} (hids : v.blocked resource = id :: rest) :
    ∃ k', k.popBlocked? resource = some (id, k') ∧
      k'.Shows ((v.setBlocked resource rest).settle resource) := by
  have hspells := h.blocked_spells resource
  rw [hids] at hspells
  obtain ⟨changed, hpop, hrest, hlinks⟩ := hspells.popFront
  refine ⟨(k.putBlocked resource changed).settle resource,
    by rw [Kernel.popBlocked?, hpop], ?_⟩
  apply Shows.settle
  apply h.putBlocked hrest
  intro other hne one hone
  have hapart : one ∉ v.blocked resource := fun hmem =>
    hne (h.blocked_apart hmem hone)
  rw [hids, List.mem_cons, not_or] at hapart
  refine ⟨hapart.2, ?_⟩
  rw [hlinks, Pool.slot_put, if_neg (Ne.symm hapart.1)]

theorem Shows.popBlocked_eq_none (h : k.Shows v) {resource : Resource}
    (hids : v.blocked resource = []) : k.popBlocked? resource = none := by
  have hhead := (h.isEmpty_blocked_iff resource).mpr hids
  rw [Chain.isEmpty, Option.isNone_iff_eq_none] at hhead
  rw [Kernel.popBlocked?, Chain.popFront?, hhead]

theorem Shows.forgetWait (h : k.Shows v) {id : TaskId}
    (hid : ∀ resource, id ∉ v.blocked resource) :
    (k.forgetWait id).Shows (v.setTask id Task.withoutWait) := by
  have htask := h.modifyTask id Task.withoutWait
  have hspells : ∀ resource, ((k.forgetWait id).blockedChain resource).Spells
      (k.forgetWait id).links.blocked (v.blocked resource) := fun resource =>
    Links.Spells.put (h.blocked_spells resource) (hid resource)
  have hblocked : (k.forgetWait id).blockedIds = v.blocked :=
    funext fun resource => (hspells resource).toList_eq
  constructor
  · exact h.linked.reblocked rfl rfl rfl rfl rfl hspells
      fun _ _ _ hone hother => h.blocked_apart hone hother
  · rw [← htask.view_eq]
    apply View.ext <;> try rfl
    exact hblocked.trans (congrArg View.blocked htask.view_eq).symm

end Kernel

end TickKernel
