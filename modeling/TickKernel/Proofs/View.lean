/-
A kernel seen without its links.  The three link fields and the heads of the
chains say in a roundabout way which lists of tasks the kernel keeps; a `View`
holds the lists themselves, and functions in place of tables.  `Kernel.Linked`
says that all chains are in order and that chains through one link field share
no task.  Of such a kernel every small step on chains has a plain effect on the
view, and nothing later needs to look at a link again.
-/
import TickKernel.Chain.Lemmas
import TickKernel.Kernel.Call

namespace TickKernel

universe u

/-! ### Inserting in front of the first that is preceded -/

section Insertion

variable {α : Type u}

/-- Put `a` directly before the first element that it precedes. -/
def insertBefore (precedes : α → Bool) (a : α) (as : List α) : List α :=
  as.takeWhile (fun b => !precedes b) ++ a ::
    as.dropWhile (fun b => !precedes b)

theorem insertBefore_perm (precedes : α → Bool) (a : α) (as : List α) :
    (insertBefore precedes a as).Perm (a :: as) := by
  have hsplit :=
    List.takeWhile_append_dropWhile (p := fun b => !precedes b) (l := as)
  have hmiddle : (insertBefore precedes a as).Perm
      (a :: (as.takeWhile (fun b => !precedes b) ++
        as.dropWhile (fun b => !precedes b))) := List.perm_middle
  rwa [hsplit] at hmiddle

@[simp] theorem mem_insertBefore {precedes : α → Bool} {a b : α} {as : List α} :
    b ∈ insertBefore precedes a as ↔ b = a ∨ b ∈ as := by
  rw [(insertBefore_perm precedes a as).mem_iff, List.mem_cons]

theorem nodup_insertBefore {precedes : α → Bool} {a : α} {as : List α}
    (has : as.Nodup) (ha : a ∉ as) : (insertBefore precedes a as).Nodup := by
  rw [(insertBefore_perm precedes a as).nodup_iff]
  exact List.nodup_cons.mpr ⟨ha, has⟩

/-- What matters is where the elements of the list pass the test. -/
theorem takeWhile_congr {p q : α → Bool} {as : List α}
    (h : ∀ a ∈ as, p a = q a) :
    as.takeWhile p = as.takeWhile q := by
  induction as with
  | nil => rfl
  | cons a rest ih =>
      rw [List.takeWhile_cons, List.takeWhile_cons, h a List.mem_cons_self,
        ih fun b hb => h b (List.mem_cons_of_mem a hb)]

theorem dropWhile_congr {p q : α → Bool} {as : List α}
    (h : ∀ a ∈ as, p a = q a) :
    as.dropWhile p = as.dropWhile q := by
  induction as with
  | nil => rfl
  | cons a rest ih =>
      rw [List.dropWhile_cons, List.dropWhile_cons, h a List.mem_cons_self,
        ih fun b hb => h b (List.mem_cons_of_mem a hb)]

/-- What matters is which elements of the list are preceded. -/
theorem insertBefore_congr {precedes precedes' : α → Bool} {a : α} {as : List α}
    (h : ∀ b ∈ as, precedes b = precedes' b) :
    insertBefore precedes a as = insertBefore precedes' a as := by
  have hnot : ∀ b ∈ as, (!precedes b) = !precedes' b := fun b hb =>
    congrArg Bool.not (h b hb)
  rw [insertBefore, takeWhile_congr hnot, dropWhile_congr hnot, insertBefore]

/-- Insertion keeps a list sorted when `precedes` decides on which side of an
element the new one may stand. -/
theorem pairwise_insertBefore {r : α → α → Prop} {precedes : α → Bool} {a : α}
    {as : List α} (has : as.Pairwise r)
    (hbefore : ∀ b ∈ as, precedes b = true → r a b)
    (hbehind : ∀ b ∈ as, precedes b = false → r b a)
    (htrans : ∀ b ∈ as, ∀ c ∈ as, precedes b = true → r b c → r a c) :
    (insertBefore precedes a as).Pairwise r := by
  induction as with
  | nil => simp [insertBefore]
  | cons b rest ih =>
      rw [List.pairwise_cons] at has
      cases hb : precedes b with
      | true =>
          simp only [insertBefore, List.takeWhile_cons, List.dropWhile_cons, hb,
            Bool.not_true, Bool.false_eq_true, if_false, List.nil_append,
            List.pairwise_cons, List.mem_cons]
          refine ⟨?_, has⟩
          rintro c (rfl | hc)
          · exact hbefore c List.mem_cons_self hb
          · exact htrans b List.mem_cons_self c (List.mem_cons_of_mem b hc)
              hb (has.1 c hc)
      | false =>
          have hcons : insertBefore precedes a (b :: rest) =
              b :: insertBefore precedes a rest := by
            simp [insertBefore, hb]
          have hrest : (insertBefore precedes a rest).Pairwise r :=
            ih has.2 (fun c hc => hbefore c (List.mem_cons_of_mem b hc))
              (fun c hc => hbehind c (List.mem_cons_of_mem b hc))
              fun c hc d hd => htrans c (List.mem_cons_of_mem b hc) d
                (List.mem_cons_of_mem b hd)
          rw [hcons, List.pairwise_cons]
          refine ⟨fun c hc => ?_, hrest⟩
          rcases mem_insertBefore.mp hc with rfl | hc
          · exact hbehind b List.mem_cons_self hb
          · exact has.1 c hc

/-- The elements behind the new one are preceded when none that is preceded
stands before one that is not. -/
theorem precedes_of_mem_dropWhile {precedes : α → Bool} {b : α} {as : List α}
    (has : as.Pairwise fun earlier later => precedes earlier = true →
      precedes later = true)
    (hb : b ∈ as.dropWhile fun a => !precedes a) : precedes b = true := by
  induction as with
  | nil => cases hb
  | cons a rest ih =>
      rw [List.pairwise_cons] at has
      cases ha : precedes a with
      | true =>
          rw [List.dropWhile_cons_of_neg (by simp [ha])] at hb
          rcases List.mem_cons.mp hb with rfl | hrest
          · exact ha
          · exact has.1 b hrest ha
      | false =>
          rw [List.dropWhile_cons_of_pos (by simp [ha])] at hb
          exact ih has.2 hb

end Insertion

/-! ### Views -/

/-- What the chains and tables of a kernel hold. -/
@[ext] structure View where
  platform : Platform
  phase : Phase
  taskCount : Nat
  idle : Option TaskId
  running : Option TaskId
  scheduled : Option TaskId
  mutexCount : Nat
  queueCount : Nat
  task : TaskId → Task
  all : List TaskId
  ready : List TaskId
  waiting : List TaskId
  blocked : Resource → List TaskId
  owner : MutexId → Option TaskId
  level : MutexId → UInt16
  ring : QueueId → Ring
  waiters : QueueId → Waiters

/-- The lists that a kernel's chains hold, and its tables as functions. -/
def Kernel.view (k : Kernel) : View where
  platform := k.platform
  phase := k.phase
  taskCount := k.taskCount
  idle := k.idle
  running := k.running
  scheduled := k.scheduled
  mutexCount := k.mutexCount
  queueCount := k.queueCount
  task := k.task
  all := k.allIds
  ready := k.readyIds
  waiting := k.waitingIds
  blocked := k.blockedIds
  owner id := (k.mutex id).owner
  level id := (k.mutex id).level
  ring id := (k.queue id).ring
  waiters id := (k.queue id).waiters

namespace View

/-- The slot holds a registered task. -/
def Registered (v : View) (id : TaskId) : Prop :=
  id.val < v.taskCount

/-- The resource was created. -/
def Created (v : View) : Resource → Prop
  | .mutex id => id.val < v.mutexCount
  | .queue id => id.val < v.queueCount

/-- Change one task. -/
def setTask (v : View) (id : TaskId) (f : Task → Task) : View :=
  { v with
    task := fun other => if id = other then f (v.task id) else v.task other }

/-- Replace the list of tasks blocked on one resource. -/
def setBlocked (v : View) (resource : Resource) (ids : List TaskId) : View :=
  { v with
    blocked := fun other => if resource = other then ids else v.blocked other }

/-- Replace the owner and the level of one mutex. -/
def setOwner (v : View) (id : MutexId) (owner : Option TaskId)
    (level : UInt16) :
    View :=
  { v with
    owner := fun other => if id = other then owner else v.owner other
    level := fun other => if id = other then level else v.level other }

/-- Replace the ring of one queue. -/
def setRing (v : View) (id : QueueId) (ring : Ring) : View :=
  { v with ring := fun other => if id = other then ring else v.ring other }

/-- Replace the waiting side of one queue. -/
def setWaiters (v : View) (id : QueueId) (waiters : Waiters) : View :=
  { v with
    waiters := fun other => if id = other then waiters else v.waiters other }

/-- Let a queue on which nobody is blocked forget its waiting side. -/
def settle (v : View) : Resource → View
  | .mutex _ => v
  | .queue id =>
      if v.blocked (.queue id) = [] then v.setWaiters id .nobody else v

/-- Put a task among the runnable ones, behind those that are at least as
urgent. -/
def joinReady (v : View) (id : TaskId) : View :=
  { v with
    ready := insertBefore (fun other => (v.task id).outranks (v.task other))
      id v.ready }

/-- Put a task among the waiting ones, behind those whose deadline is not
later. -/
def joinWaiting (v : View) (id : TaskId) : View :=
  { v with
    waiting := insertBefore (fun other => (v.task id).dueBefore (v.task other))
      id v.waiting }

end View

namespace View

theorem task_setTask_self (v : View) (id : TaskId) (f : Task → Task) :
    (v.setTask id f).task id = f (v.task id) :=
  if_pos rfl

theorem task_setTask_of_ne {id other : TaskId} (v : View) (f : Task → Task)
    (h : id ≠ other) : (v.setTask id f).task other = v.task other :=
  if_neg h

theorem setWaiters_self (v : View) (id : QueueId) :
    v.setWaiters id (v.waiters id) = v := by
  apply View.ext <;> try rfl
  funext other
  simp only [setWaiters]
  split <;> simp_all

theorem setRing_setRing (v : View) (id : QueueId) (ring ring' : Ring) :
    (v.setRing id ring).setRing id ring' = v.setRing id ring' := by
  apply View.ext <;> try rfl
  funext other
  simp only [setRing]
  split <;> rfl

theorem setRing_self (v : View) (id : QueueId) :
    v.setRing id (v.ring id) = v := by
  apply View.ext <;> try rfl
  funext other
  simp only [setRing]
  split <;> simp_all

end View

/-! ### Kernels whose chains are in order -/

/-- Every chain of the kernel is in order, and chains through one link field
share no task. -/
structure Kernel.Linked (k : Kernel) : Prop where
  all : k.all.Spells k.links.all k.allIds
  ready : k.ready.Spells k.links.queue k.readyIds
  waiting : k.waiting.Spells k.links.queue k.waitingIds
  apart : ∀ id ∈ k.readyIds, id ∉ k.waitingIds
  unqueued : ∀ id, id ∉ k.readyIds → id ∉ k.waitingIds →
    k.links.queue.slot id = none
  blocked : ∀ resource, (k.blockedChain resource).Spells k.links.blocked
    (k.blockedIds resource)
  blocked_apart : ∀ resource other id, id ∈ k.blockedIds resource →
    id ∈ k.blockedIds other → resource = other

/-- The chains of the kernel are in order, and this is what it holds. -/
structure Kernel.Shows (k : Kernel) (v : View) : Prop where
  linked : k.Linked
  view_eq : k.view = v

namespace Kernel

theorem Linked.shows {k : Kernel} (h : k.Linked) : k.Shows k.view :=
  ⟨h, rfl⟩

variable {k : Kernel} {v : View}

namespace Shows

theorem of_eq {w : View} (h : k.Shows v) (heq : v = w) : k.Shows w :=
  heq ▸ h

theorem platform_eq (h : k.Shows v) : k.platform = v.platform :=
  congrArg View.platform h.view_eq

theorem phase_eq (h : k.Shows v) : k.phase = v.phase :=
  congrArg View.phase h.view_eq

theorem idle_eq (h : k.Shows v) : k.idle = v.idle :=
  congrArg View.idle h.view_eq

theorem isRegistered_iff (h : k.Shows v) (id : TaskId) :
    k.isRegistered id = true ↔ v.Registered id := by
  rw [isRegistered, decide_eq_true_eq, View.Registered, ← h.view_eq]
  rfl

theorem hasMutex_iff (h : k.Shows v) (id : MutexId) :
    k.hasMutex id = true ↔ v.Created (.mutex id) := by
  rw [hasMutex, decide_eq_true_eq, View.Created, ← h.view_eq]
  rfl

theorem hasQueue_iff (h : k.Shows v) (id : QueueId) :
    k.hasQueue id = true ↔ v.Created (.queue id) := by
  rw [hasQueue, decide_eq_true_eq, View.Created, ← h.view_eq]
  rfl

theorem running_eq (h : k.Shows v) : k.running = v.running :=
  congrArg View.running h.view_eq

theorem scheduled_eq (h : k.Shows v) : k.scheduled = v.scheduled :=
  congrArg View.scheduled h.view_eq

theorem task_eq (h : k.Shows v) (id : TaskId) : k.task id = v.task id :=
  congrFun (congrArg View.task h.view_eq) id

theorem readyIds_eq (h : k.Shows v) : k.readyIds = v.ready :=
  congrArg View.ready h.view_eq

theorem waitingIds_eq (h : k.Shows v) : k.waitingIds = v.waiting :=
  congrArg View.waiting h.view_eq

theorem blockedIds_eq (h : k.Shows v) (resource : Resource) :
    k.blockedIds resource = v.blocked resource :=
  congrFun (congrArg View.blocked h.view_eq) resource

theorem owner_eq (h : k.Shows v) (id : MutexId) :
    (k.mutex id).owner = v.owner id :=
  congrFun (congrArg View.owner h.view_eq) id

theorem level_eq (h : k.Shows v) (id : MutexId) :
    (k.mutex id).level = v.level id :=
  congrFun (congrArg View.level h.view_eq) id

theorem ring_eq (h : k.Shows v) (id : QueueId) :
    (k.queue id).ring = v.ring id :=
  congrFun (congrArg View.ring h.view_eq) id

theorem waiters_eq (h : k.Shows v) (id : QueueId) :
    (k.queue id).waiters = v.waiters id :=
  congrFun (congrArg View.waiters h.view_eq) id

end Shows

/-! ### Slots -/

@[simp] theorem task_modifyTask (k : Kernel) (id other : TaskId)
    (f : Task → Task) :
    (k.modifyTask id f).task other =
      if id = other then f (k.task id) else k.task other :=
  Pool.slot_modify ..

@[simp] theorem mutex_putMutex (k : Kernel) (id other : MutexId)
    (mutex : Mutex) :
    (k.putMutex id mutex).mutex other =
      if id = other then mutex else k.mutex other :=
  Pool.slot_put ..

@[simp] theorem queue_putQueue (k : Kernel) (id other : QueueId)
    (queue : Queue) :
    (k.putQueue id queue).queue other =
      if id = other then queue else k.queue other :=
  Pool.slot_put ..

theorem Shows.modifyTask (h : k.Shows v) (id : TaskId) (f : Task → Task) :
    (k.modifyTask id f).Shows (v.setTask id f) := by
  refine ⟨⟨h.linked.all, h.linked.ready, h.linked.waiting, h.linked.apart,
    h.linked.unqueued, h.linked.blocked, h.linked.blocked_apart⟩, ?_⟩
  rw [← h.view_eq]
  apply View.ext <;> try rfl
  funext other
  exact task_modifyTask k id other f

end Kernel

end TickKernel
