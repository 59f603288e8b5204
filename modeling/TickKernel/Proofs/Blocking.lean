/-
Who is blocked and on what.  A task that waits for a mutex or a queue has one
place in the list of that object and in no other, every other task has forgotten
its waits, and nobody waits for an object that could serve it: free mutexes and
queues with room or messages leave nobody waiting.
-/
import TickKernel.Proofs.Delivery

namespace TickKernel

namespace Kernel

/-- Whether the resource was created. -/
def has (k : Kernel) : Resource → Bool
  | .mutex id => k.hasMutex id
  | .queue id => k.hasQueue id

/-- The task is blocked where it says, and nowhere else. -/
structure TaskBlocks (k : Kernel) (id : TaskId) : Prop where
  waitsFor_iff : ∀ resource,
    (k.task id).waitsFor = some resource ↔ id ∈ k.blockedIds resource
  created : ∀ resource, id ∈ k.blockedIds resource → k.has resource = true
  once : ∀ resource, id ∈ k.blockedIds resource →
    (k.blockedIds resource).count id = 1
  apart : ∀ resource other, id ∈ k.blockedIds resource →
    id ∈ k.blockedIds other → resource = other
  waiting : ∀ resource, id ∈ k.blockedIds resource → k.isRegistered id = true ∧
    (k.task id).status = .waiting ∧ (k.task id).flag = resource.flag
  free : (k.task id).waitsFor = none →
    (k.task id).flag = .none ∧ (k.task id).message = 0

/-- The mutex is held if somebody waits for it, and by somebody else. -/
structure MutexBlocks (k : Kernel) (id : MutexId) : Prop where
  level_pos_iff : 0 < (k.mutex id).level ↔ (k.mutex id).owner ≠ none
  free : (k.mutex id).owner = none → k.blockedIds (.mutex id) = []
  owner_not_blocked : ∀ owner, (k.mutex id).owner = some owner →
    owner ∉ k.blockedIds (.mutex id)
  held : ∀ waiter ∈ k.blockedIds (.mutex id),
    ∃ owner, (k.mutex id).owner = some owner ∧ owner ≠ waiter

/-- The queue is full if senders wait and empty if receivers do, so that never
both do. -/
structure QueueBlocks (k : Kernel) (id : QueueId) (books : Ledger) : Prop where
  capacity_pos : 1 ≤ (k.queue id).ring.capacity
  capacity_le : (k.queue id).ring.capacity ≤ maxCapacity
  count_le : (k.queue id).ring.count ≤ (k.queue id).ring.capacity
  nobody_iff : (k.queue id).waiters = .nobody ↔ k.blockedIds (.queue id) = []
  full_of_senders : (k.queue id).waiters = .senders →
    (k.queue id).ring.count = (k.queue id).ring.capacity
  empty_of_receivers : (k.queue id).waiters = .receivers →
    (k.queue id).ring.count = 0
  blocked_eq : k.blockedIds (.queue id) = books.waitingSenders ++
    books.waitingReceivers
  senders_wait : books.waitingSenders ≠ [] →
    (k.queue id).ring.count = (k.queue id).ring.capacity ∧
    books.waitingReceivers = []
  receivers_wait : books.waitingReceivers ≠ [] →
    (k.queue id).ring.count = 0 ∧ books.waitingSenders = []

/-- Nobody waits in vain, given the history. -/
structure Blocks (k : Kernel) (steps : List Step) : Prop where
  chains : ∀ resource,
    (k.blockedChain resource).Spells k.links.blocked (k.blockedIds resource)
  tasks : ∀ id, k.TaskBlocks id
  mutexes : ∀ id, k.MutexBlocks id
  queues : ∀ id, k.hasQueue id = true → k.QueueBlocks id (ledger id steps)

variable {k : Kernel}

theorem Sound.mem_blockedIds (h : k.Sound) (resource : Resource) (id : TaskId) :
    (k.task id).waitsFor = some resource ↔ id ∈ k.blockedIds resource :=
  (h.orderly.parked.mem_blocked resource id).symm

theorem Sound.taskBlocks (h : k.Sound) (id : TaskId) : k.TaskBlocks id where
  waitsFor_iff resource := h.mem_blockedIds resource id
  created resource hid := by
    have hcreated := h.orderly.parked.created resource id
      ((h.mem_blockedIds resource id).mpr hid)
    cases resource with
    | mutex mutex => exact (h.shows.hasMutex_iff mutex).mpr hcreated
    | queue queue => exact (h.shows.hasQueue_iff queue).mpr hcreated
  once resource hid :=
    List.count_eq_one_of_mem (h.orderly.parked.blocked_nodup resource) hid
  apart resource other := h.linked.blocked_apart resource other id
  waiting resource hid := by
    obtain ⟨hreg, hstatus, hflag⟩ := h.orderly.parked.blocked_task resource id
      ((h.mem_blockedIds resource id).mpr hid)
    exact ⟨(h.shows.isRegistered_iff id).mpr hreg, hstatus, hflag⟩
  free := h.orderly.parked.unblocked_task id

theorem Sound.mutexBlocks (h : k.Sound) (id : MutexId) : k.MutexBlocks id where
  level_pos_iff := h.orderly.owned.level_pos_iff id
  free := h.orderly.owned.blocked_of_free id
  owner_not_blocked := h.orderly.owned.owner_not_blocked id
  held waiter hwaiter := by
    cases howner : (k.mutex id).owner with
    | none =>
        have hnobody : k.blockedIds (.mutex id) = [] :=
          h.orderly.owned.blocked_of_free id howner
        rw [hnobody] at hwaiter
        cases hwaiter
    | some owner =>
        refine ⟨owner, rfl, ?_⟩
        rintro rfl
        exact h.orderly.owned.owner_not_blocked id owner howner hwaiter

/-- Each side of a queue is empty unless its tasks are the blocked ones. -/
theorem Sound.queueBlocks (h : k.Sound) {id : QueueId} {books : Ledger}
    (hqueue : k.hasQueue id = true) (hb : books.Balanced id k.view) :
    k.QueueBlocks id books := by
  have hvalid :=
    h.orderly.supplied.ring_valid id ((h.shows.hasQueue_iff id).mp hqueue)
  have hnobody : (k.queue id).waiters = .nobody ↔
      k.blockedIds (.queue id) = [] :=
    h.orderly.supplied.nobody_iff id
  have hfull : (k.queue id).waiters = .senders →
      (k.queue id).ring.count = (k.queue id).ring.capacity :=
    h.orderly.supplied.full_of_senders id
  have hempty : (k.queue id).waiters = .receivers →
      (k.queue id).ring.count = 0 :=
    h.orderly.supplied.empty_of_receivers id
  obtain ⟨hsenders, hreceivers⟩ := hb.waiting_eq
  have hsides : ∀ side, k.view.lined id side =
      if (k.queue id).waiters = side then k.blockedIds (.queue id) else [] :=
    fun _ => rfl
  rw [hsides] at hsenders hreceivers
  refine ⟨hvalid.capacity_pos, hvalid.capacity_le, hvalid.count_le, hnobody,
    hfull, hempty, ?_, ?_, ?_⟩
  · rw [hsenders, hreceivers]
    cases hside : (k.queue id).waiters with
    | nobody => simp [hnobody.mp hside]
    | senders => simp
    | receivers => simp
  · intro hne
    rw [hsenders] at hne
    have hside : (k.queue id).waiters = .senders := by
      by_contra hside
      exact hne (if_neg hside)
    refine ⟨hfull hside, ?_⟩
    rw [hreceivers, hside, if_neg (by decide)]
  · intro hne
    rw [hreceivers] at hne
    have hside : (k.queue id).waiters = .receivers := by
      by_contra hside
      exact hne (if_neg hside)
    refine ⟨hempty hside, ?_⟩
    rw [hsenders, hside, if_neg (by decide)]

end Kernel

/-- After any calls nobody is blocked on an object that could serve it. -/
theorem Run.blocks {steps : List Step} {k : Kernel} (hrun : Run steps k) :
    k.Blocks steps where
  chains := hrun.sound.linked.blocked
  tasks := hrun.sound.taskBlocks
  mutexes := hrun.sound.mutexBlocks
  queues _ hqueue := hrun.sound.queueBlocks hqueue (hrun.balanced hqueue)

namespace Witness

/-- Task A holds a mutex and waits for room in a queue, task B waits for the
mutex, and task C waited for room until its time was over. -/
def contended : List Call :=
  trio ++ [.createMutex, .createQueue 1, .acquire lock 0, .send box 7 0,
    .send box 8 9,
    .switchOver, .acquire lock 9, .switchOver, .send box 9 1,
    .switchOver, .beat]

theorem blocks_contended :
    Run (history contended).1 (history contended).2 ∧
      (history contended).2.blockedIds (.queue box) = [taskA] ∧
      (history contended).2.blockedIds (.mutex lock) = [taskB] ∧
      ((history contended).2.task taskC).message = 0 ∧
      (history contended).2.Blocks (history contended).1 :=
  ⟨run_history _, by decide +kernel, by decide +kernel, by decide +kernel,
    (run_history _).blocks⟩

end Witness

end TickKernel
