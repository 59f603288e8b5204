/-
The calls on message queues, each with the outcomes it can have on the view of
an orderly kernel.  A message goes directly to a receiver that waits, or into
the ring, or it waits together with its sender; a message that is received
comes from the ring, and the room that it leaves goes to a sender that waits.
-/
import TickKernel.Proofs.Mutexes

namespace TickKernel

namespace View

/-! ### Outcomes -/

/-- The outcomes of taking a queue from the pool. -/
inductive QueueMade (v : View) (capacity : UInt64) :
    Except Error QueueId → View → Prop
  | refused (error : Error) : QueueMade v capacity (.error error) v
  | made (hroom : v.queueCount < maxQueues) (hpos : 0 < capacity.toNat)
      (hle : capacity.toNat ≤ maxCapacity) :
      QueueMade v capacity (.ok ⟨v.queueCount, hroom⟩)
        (({ v with queueCount := v.queueCount + 1 }.setRing ⟨v.queueCount,
          hroom⟩
          (Ring.ofCapacity capacity.toNat)).setWaiters
            ⟨v.queueCount, hroom⟩ .nobody)

/-- The outcomes of sending a message. -/
inductive Sent (v : View) (queue : QueueId) (message : Message)
    (timeout : Tick) :
    Except Error Unit → View → Prop
  | refused (error : Error) (hne : error ≠ .timeout) :
      Sent v queue message timeout (.error error) v
  | handed {current receiver : TaskId} {rest : List TaskId} {w : View}
      (hrunning : v.running = some current)
      (hcreated : v.Created (.queue queue))
      (hside : v.waiters queue = .receivers)
      (hnext : v.blocked (.queue queue) = receiver :: rest)
      (hw : (v.unblocked receiver).Woke receiver (Reply.ok message) w)
      (hfree : (v.task current).waitsFor = none) :
      Sent v queue message timeout (.ok ()) w
  | stored {current : TaskId} (hrunning : v.running = some current)
      (hcreated : v.Created (.queue queue)) (hside : v.waiters queue = .nobody)
      (hroom : (v.ring queue).count < (v.ring queue).capacity) :
      Sent v queue message timeout (.ok ())
        (v.setRing queue ((v.ring queue).push message))
  | parked {current : TaskId} {w : View} (hrunning : v.running = some current)
      (hcreated : v.Created (.queue queue))
      (hside : v.waiters queue ≠ .receivers)
      (hfull : (v.ring queue).count = (v.ring queue).capacity)
      (hready : current ∈ v.ready) (hidle : v.idle ≠ some current)
      (hw : (v.parked current (.queue queue) .senders message
        (v.platform.clock + timeout)).GaveUp current w)
      (htimeout : timeout ≠ 0) (hmax : timeout ≤ Tick.maxTimeout) :
      Sent v queue message timeout (.error .timeout) w

/-- The sender that has waited longest puts its message into the room that a
received one has left. -/
def refilled (v : View) (queue : QueueId) (ring : Ring) (sender : TaskId) :
    View :=
  (v.unblocked sender).setRing queue (ring.push (v.task sender).message)

/-- The outcomes of receiving a message. -/
inductive Received (v : View) (queue : QueueId) (timeout : Tick) :
    Except Error Message → View → Prop
  | refused (error : Error) (hne : error ≠ .timeout) :
      Received v queue timeout (.error error) v
  | taken {current : TaskId} {message : Message} {ring : Ring}
      (hrunning : v.running = some current)
      (hcreated : v.Created (.queue queue))
      (hpop : (v.ring queue).pop? = some (message, ring))
      (hside : v.waiters queue = .nobody) :
      Received v queue timeout (.ok message) (v.setRing queue ring)
  | refilled {current sender : TaskId} {rest : List TaskId} {message : Message}
      {ring : Ring} {w : View} (hrunning : v.running = some current)
      (hcreated : v.Created (.queue queue))
      (hpop : (v.ring queue).pop? = some (message, ring))
      (hside : v.waiters queue = .senders)
      (hnext : v.blocked (.queue queue) = sender :: rest)
      (hw : (v.refilled queue ring sender).Woke sender Reply.done w)
      (hfree : (v.task current).waitsFor = none) :
      Received v queue timeout (.ok message) w
  | parked {current : TaskId} {w : View} (hrunning : v.running = some current)
      (hcreated : v.Created (.queue queue))
      (hempty : (v.ring queue).count = 0)
      (hready : current ∈ v.ready) (hidle : v.idle ≠ some current)
      (hw : (v.parked current (.queue queue) .receivers 0
        (v.platform.clock + timeout)).GaveUp current w)
      (htimeout : timeout ≠ 0) (hmax : timeout ≤ Tick.maxTimeout) :
      Received v queue timeout (.error .timeout) w

/-! ### Outcomes keep the invariant -/

/-- A step to another orderly view in which one queue is traded on. -/
structure Trades (v : View) (queue : QueueId) (w : View) : Prop where
  orderly : w.Orderly none
  sameStacks : v.SameStacks w
  taskCount : w.taskCount = v.taskCount
  all : w.all = v.all
  others : ∀ other, queue ≠ other → ∃ left, v.Undisturbed other left w ∧
    ∀ id ∈ left, id ∈ v.blocked (.queue other) →
      Tick.reached w.platform.clock (v.task id).deadline = true

section Trades

variable {u v w : View} {queue other : QueueId} {message : Message}
  {timeout : Tick} {id : TaskId}

theorem Trades.refl (h : v.Orderly none) (queue : QueueId) : v.Trades queue v :=
  ⟨h, SameStacks.refl v, rfl, rfl, fun other _ =>
    ⟨[], (((Quiet.refl v).queues other).undisturbed h.supplied),
      fun _ hid => absurd hid List.not_mem_nil⟩⟩

/-- What a queue is traded on for comes first, and then somebody else gets the
processor. -/
theorem Trades.of_passes (hquiet : ∀ other, queue ≠ other → v.QuietAt other u)
    (hcount : u.taskCount = v.taskCount) (hall : u.all = v.all)
    (hstacks : v.SameStacks u) (hw : u.Passes (fun _ => False) w) :
    v.Trades queue w := by
  refine ⟨hw.orderly, hstacks.trans hw.sameStacks,
    hw.keeps.taskCount.trans hcount, hw.keeps.all.trans hall,
    fun other hother => ?_⟩
  obtain ⟨left, hleft, hreason⟩ := hw.keeps.queues other
  have hquiet := hquiet other hother
  refine ⟨left, hquiet.undisturbed_trans hleft, fun id hid hmem => ?_⟩
  rw [← hquiet.deadline id hmem]
  exact (hreason id hid (by rwa [hquiet.blocked])).resolve_left not_false

theorem Orderly.setRing (h : v.Orderly none) {ring : Ring} (hvalid : ring.Valid)
    (hfull : v.waiters queue = .senders → ring.count = ring.capacity)
    (hempty : v.waiters queue = .receivers → ring.count = 0) :
    (v.setRing queue ring).Orderly none := by
  refine ⟨h.queued.congr rfl rfl rfl fun _ => ⟨rfl, rfl, rfl⟩,
    h.parked.congr (Nat.le_refl _) (Nat.le_refl _) (Nat.le_refl _) rfl
      fun _ => ⟨rfl, rfl, rfl, fun _ => rfl⟩,
    h.owned.congr rfl rfl rfl,
    ⟨?_, h.supplied.nobody_iff, ?_, ?_⟩,
    h.staffed.congr rfl rfl rfl rfl rfl rfl fun _ => ⟨rfl, rfl⟩⟩
  · intro other hcreated
    simp only [View.setRing]
    split
    · exact hvalid
    · exact h.supplied.ring_valid other hcreated
  · intro other hside
    simp only [View.setRing]
    split
    · rename_i heq
      exact hfull (heq ▸ hside)
    · exact h.supplied.full_of_senders other hside
  · intro other hside
    simp only [View.setRing]
    split
    · rename_i heq
      exact hempty (heq ▸ hside)
    · exact h.supplied.empty_of_receivers other hside

theorem QuietAt.setRing (v : View) {ring : Ring} (hother : queue ≠ other) :
    v.QuietAt other (v.setRing queue ring) :=
  .of_task (fun h => h) (if_neg hother) rfl rfl fun _ _ => ⟨rfl, rfl⟩

/-- A task that keeps no message queues up at a queue and falls asleep in four
steps.  It has a message then if it brought one. -/
theorem parked_queue {id : TaskId} (hkept : (v.task id).message = 0)
    (queue : QueueId) (side : Waiters) (message : Option Message)
    (deadline : Tick) :
    v.parked id (.queue queue) side (message.getD 0) deadline =
      (((v.setWaiters queue side).setBlocked (.queue queue)
        (v.blocked (.queue queue) ++ [id])).setTask id fun task => { task with
          message := message.getD task.message
          waitsFor := some (.queue queue) }).setTask id
        fun task =>
          { task with status := .waiting, deadline, flag := .queue } := by
  apply View.ext <;> try rfl
  · funext other
    simp only [View.parked, View.setTask, View.setBlocked, View.setWaiters,
      Resource.flag]
    split <;> simp_all
  · funext other
    simp [View.parked, View.setTask, View.setBlocked, View.setWaiters]

theorem Trades.parked (h : v.Orderly none) {current : TaskId} {side : Waiters}
    {deadline : Tick} (hrunning : v.running = some current)
    (hcreated : v.Created (.queue queue))
    (hside : side = .senders ∧ (v.ring queue).count = (v.ring queue).capacity ∨
      side = .receivers ∧ (v.ring queue).count = 0)
    (hready : current ∈ v.ready) (hidle : v.idle ≠ some current)
    (hw : (v.parked current (.queue queue) side message deadline).GaveUp current
      w) :
    v.Trades queue w ∧
      (v.parked current (.queue queue) side message deadline).Keeps
        (fun _ => False) w := by
  have hmoving := h.queuedUp side message deadline hready hidle
    hcreated (fun mutex heq => by cases heq)
    (fun other heq => by
      obtain rfl := Resource.queue.inj heq
      exact hside)
  have hkeeps : (v.parked current (.queue queue) side message deadline).Keeps
      (fun _ => False) w := Keeps.gaveUp hmoving hw
  refine ⟨?_, hkeeps⟩
  have hstacks :=
    sameStacks_parked v current (.queue queue) side message deadline
  refine ⟨hmoving.gaveUp hrunning status_parked hw,
    hstacks.trans (SameStacks.gaveUp hw), hkeeps.taskCount, hkeeps.all,
    fun other hother => ?_⟩
  have hquiet : v.QuietAt other
      (v.parked current (.queue queue) side message deadline) :=
    .parked h hready fun heq => hother (Resource.queue.inj heq)
  obtain ⟨left, hleft, hreason⟩ := hkeeps.queues other
  refine ⟨left, hquiet.undisturbed_trans hleft, fun id hid hmem => ?_⟩
  rw [← hquiet.deadline id hmem]
  exact (hreason id hid (by rwa [hquiet.blocked])).resolve_left not_false

theorem Sent.trades {result : Except Error Unit}
    (hw : v.Sent queue message timeout result w) (h : v.Orderly none) :
    v.Trades queue w := by
  cases hw with
  | refused => exact Trades.refl h queue
  | @handed current receiver rest _ hrunning hcreated hside hnext hw =>
      have hmem : receiver ∈ v.blocked (.queue queue) := by
        rw [hnext]
        exact List.mem_cons_self
      refine Trades.of_passes (u := v.unblocked receiver)
        (fun other hother => ?_) rfl rfl
        (sameStacks_unblocked v receiver) (Passes.woke h.unblocked
          (h.waiting_of_blocked hmem) (waitsFor_unblocked v receiver) hw)
      exact .unblocked h hmem fun heq => hother (Resource.queue.inj heq)
  | stored hrunning hcreated hside hroom =>
      have hvalid := h.supplied.ring_valid queue hcreated
      refine Trades.of_passes (fun other hother => .setRing v hother) rfl rfl
        (SameStacks.refl v)
        (Passes.refl (h.setRing (Ring.valid_push hvalid hroom message)
          (fun heq => ?_) fun heq => ?_))
      · rw [hside] at heq
        cases heq
      · rw [hside] at heq
        cases heq
  | parked hrunning hcreated hside hfull hready hidle hw =>
      exact (Trades.parked h hrunning hcreated (Or.inl ⟨rfl,
        hfull⟩) hready hidle hw).1

theorem Sent.created {result : Except Error Unit}
    (hw : v.Sent queue message timeout result w)
    (hafter : w.Created (.queue queue)) :
    v.Created (.queue queue) := by
  cases hw with
  | refused => exact hafter
  | handed hrunning hcreated => exact hcreated
  | stored hrunning hcreated => exact hcreated
  | parked hrunning hcreated => exact hcreated

/-- A ring out of which a message was taken has room for one. -/
theorem ring_refilled {ring rest : Ring} {received : Message}
    (message : Message) (hvalid : ring.Valid)
    (hfull : ring.count = ring.capacity)
    (hpop : ring.pop? = some (received, rest)) :
    (rest.push message).Valid ∧ (rest.push message).count =
      (rest.push message).capacity ∧ rest.count < rest.capacity := by
  have hrest := Ring.valid_pop hvalid hpop
  obtain ⟨hcount, -, rfl⟩ := Ring.eq_dropped_of_pop hpop
  have hroom : ring.count - 1 < ring.capacity := by omega
  refine ⟨Ring.valid_push hrest hroom message, ?_, hroom⟩
  exact (Nat.sub_add_cancel (Nat.pos_of_ne_zero hcount)).trans hfull

theorem Orderly.refilled (h : v.Orderly none) {sender : TaskId}
    {received : Message} {ring : Ring} (hcreated : v.Created (.queue queue))
    (hpop : (v.ring queue).pop? = some (received, ring))
    (hside : v.waiters queue = .senders) :
    (v.refilled queue ring sender).Orderly none := by
  obtain ⟨hvalid, hfull, -⟩ := ring_refilled (v.task sender).message
    (h.supplied.ring_valid queue hcreated)
    (h.supplied.full_of_senders queue hside) hpop
  refine h.unblocked.setRing hvalid (fun _ => hfull) fun hreceivers => ?_
  simp only [View.unblocked] at hreceivers
  split at hreceivers
  · cases hreceivers
  · rw [hside] at hreceivers
    cases hreceivers

theorem Received.trades {result : Except Error Message}
    (hw : v.Received queue timeout result w) (h : v.Orderly none) :
    v.Trades queue w := by
  cases hw with
  | refused => exact Trades.refl h queue
  | taken hrunning hcreated hpop hside =>
      have hvalid := Ring.valid_pop (h.supplied.ring_valid queue hcreated) hpop
      refine Trades.of_passes (fun other hother => .setRing v hother) rfl rfl
        (SameStacks.refl v) (Passes.refl (h.setRing hvalid (fun heq => ?_)
          fun heq => ?_))
      · rw [hside] at heq
        cases heq
      · rw [hside] at heq
        cases heq
  | @refilled current sender rest received ring _ hrunning hcreated hpop hside
    hnext hw =>
      have hmem : sender ∈ v.blocked (.queue queue) := by
        rw [hnext]
        exact List.mem_cons_self
      refine Trades.of_passes (u := v.refilled queue ring sender)
        (fun other hother => ?_) rfl rfl
        (sameStacks_unblocked v sender)
        (Passes.woke (h.refilled hcreated hpop hside)
          (h.waiting_of_blocked hmem) (waitsFor_unblocked v sender) hw)
      have hleft : v.QuietAt other (v.unblocked sender) :=
        .unblocked h hmem fun heq => hother (Resource.queue.inj heq)
      exact ⟨hleft.created, (if_neg hother).trans hleft.ring, hleft.waiters,
        hleft.blocked, hleft.message, hleft.deadline⟩
  | parked hrunning hcreated hempty hready hidle hw =>
      exact (Trades.parked h hrunning hcreated (Or.inr ⟨rfl,
        hempty⟩) hready hidle hw).1

theorem Received.created {result : Except Error Message}
    (hw : v.Received queue timeout result w)
    (hafter : w.Created (.queue queue)) :
    v.Created (.queue queue) := by
  cases hw with
  | refused => exact hafter
  | taken hrunning hcreated => exact hcreated
  | refilled hrunning hcreated => exact hcreated
  | parked hrunning hcreated => exact hcreated

theorem QueueMade.orderly {capacity : UInt64} {made : Except Error QueueId}
    (hw : v.QueueMade capacity made w) (h : v.Orderly none) :
    w.Orderly none := by
  cases hw with
  | refused => exact h
  | made hroom hpos hle =>
      have hnobody : v.blocked (.queue ⟨v.queueCount, hroom⟩) = [] :=
        h.blocked_of_not_created (Nat.lt_irrefl _)
      refine ⟨h.queued.congr rfl rfl rfl fun _ => ⟨rfl, rfl, rfl⟩,
        h.parked.congr (Nat.le_refl _) (Nat.le_refl _) (Nat.le_succ _) rfl
          fun _ => ⟨rfl, rfl, rfl, fun _ => rfl⟩, h.owned.congr rfl rfl rfl,
        ⟨?_, ?_, ?_, ?_⟩,
        h.staffed.congr rfl rfl rfl rfl rfl rfl fun _ => ⟨rfl, rfl⟩⟩
      · intro other hcreated
        simp only [View.setRing, View.setWaiters]
        split
        · exact Ring.valid_ofCapacity hpos hle
        · rename_i hne
          refine h.supplied.ring_valid other ?_
          have hlt : other.val < v.queueCount + 1 := hcreated
          have hneVal : v.queueCount ≠ other.val := fun heq => hne (Fin.ext heq)
          change other.val < v.queueCount
          omega
      · intro other
        simp only [View.setRing, View.setWaiters]
        split
        · rename_i heq
          exact iff_of_true rfl (heq ▸ hnobody)
        · exact h.supplied.nobody_iff other
      · intro other hside
        simp only [View.setRing, View.setWaiters] at hside ⊢
        split at hside
        · cases hside
        · rename_i hne
          rw [if_neg hne]
          exact h.supplied.full_of_senders other hside
      · intro other hside
        simp only [View.setRing, View.setWaiters] at hside ⊢
        split at hside
        · cases hside
        · rename_i hne
          rw [if_neg hne]
          exact h.supplied.empty_of_receivers other hside

theorem QueueMade.guarded {capacity : UInt64} {made : Except Error QueueId}
    (hw : v.QueueMade capacity made w) (h : v.Guarded) : w.Guarded := by
  cases hw with
  | refused => exact h
  | made hroom hpos hle => exact h

/-- The queues that exist already do not notice. -/
theorem QueueMade.quietAt {capacity : UInt64} {made : Except Error QueueId}
    (hw : v.QueueMade capacity made w) (hcreated : v.Created (.queue queue)) :
    v.QuietAt queue w := by
  cases hw with
  | refused => exact (Quiet.refl v).queues queue
  | made hroom hpos hle =>
      have hne : (⟨v.queueCount, hroom⟩ : QueueId) ≠ queue := by
        rintro rfl
        exact Nat.lt_irrefl _ hcreated
      exact .of_task (fun _ => hcreated) (if_neg hne) (if_neg hne) rfl
        fun _ _ => ⟨rfl, rfl⟩

/-- A queue that did not exist before is empty, and nobody is blocked on it. -/
theorem QueueMade.empty {capacity : UInt64} {made : Except Error QueueId}
    (hw : v.QueueMade capacity made w) (h : v.Orderly none)
    (hnew : ¬v.Created (.queue queue)) (hcreated : w.Created (.queue queue)) :
    (w.ring queue).toList = [] ∧ w.blocked (.queue queue) = [] := by
  cases hw with
  | refused => exact absurd hcreated hnew
  | made hroom hpos hle =>
      have hlt : queue.val < v.queueCount + 1 := hcreated
      have hge : ¬queue.val < v.queueCount := hnew
      have heq : (⟨v.queueCount, hroom⟩ : QueueId) = queue := by
        apply Fin.ext
        change v.queueCount = queue.val
        omega
      refine ⟨?_, h.blocked_of_not_created hnew⟩
      simp only [View.setRing, View.setWaiters, if_pos heq]
      exact Ring.toList_ofCapacity _

end Trades

end View

/-! ### The calls -/

namespace Kernel

variable {k : Kernel} {v : View} {current id : TaskId} {queue : QueueId}

theorem Shows.createQueue (h : k.Shows v) (ho : v.Orderly none)
    (capacity : UInt64) :
    ∃ w, v.QueueMade capacity (k.createQueue capacity).1 w ∧
      (k.createQueue capacity).2.Shows w := by
  obtain ⟨hlinked, rfl⟩ := h
  unfold Kernel.createQueue
  split
  · exact ⟨k.view, .refused _, hlinked.shows⟩
  rename_i hcapacity
  rw [Bool.or_eq_true, decide_eq_true_eq, decide_eq_true_eq, not_or, Nat.not_lt]
    at hcapacity
  have hpos : 0 < capacity.toNat := by
    rw [Nat.pos_iff_ne_zero]
    exact fun heq => hcapacity.1 (UInt64.toNat.inj heq)
  by_cases hroom : k.queueCount < maxQueues
  swap
  · rw [dif_neg hroom]
    exact ⟨k.view, .refused _, hlinked.shows⟩
  rw [dif_pos hroom]
  have hnobody : k.view.blocked (.queue ⟨k.queueCount, hroom⟩) = [] :=
    ho.blocked_of_not_created (Nat.lt_irrefl _)
  have hempty : (k.queue ⟨k.queueCount, hroom⟩).blocked = Chain.empty :=
    hlinked.shows.blockedChain_eq_empty hnobody
  have hfresh : Queue.ofCapacity capacity.toNat =
      { k.queue ⟨k.queueCount, hroom⟩ with
        ring := Ring.ofCapacity capacity.toNat, waiters := .nobody } := by
    simp only [hempty]
    rfl
  have hmore : Shows { k with queueCount := k.queueCount + 1 }
      { k.view with queueCount := k.queueCount + 1 } :=
    ⟨hlinked.of_same rfl rfl rfl rfl fun _ => rfl, rfl⟩
  refine ⟨_, .made hroom hpos hcapacity.2, ?_⟩
  rw [hfresh]
  exact hmore.putQueue ⟨k.queueCount,
    hroom⟩ (Ring.ofCapacity capacity.toNat) .nobody

theorem Shows.popWaiter_eq_none (h : k.Shows v) {side : Waiters}
    (hside : v.waiters queue ≠ side) : k.popWaiter? queue side = none := by
  rw [Kernel.popWaiter?, h.waiters_eq, if_neg hside]

/-- A task that queues up at a queue and falls asleep is parked. -/
theorem Shows.awaitQueue {α : Type} (h : k.Shows v) (ho : v.Orderly none)
    {side : Waiters} (message : Option Message) {timeout : Tick}
    (hrunning : v.running = some current) (hcreated : v.Created (.queue queue))
    (hside : side = .senders ∧ (v.ring queue).count = (v.ring queue).capacity ∨
      side = .receivers ∧ (v.ring queue).count = 0)
    (hwaits : (v.task current).waitsFor = none)
    (hidle : v.idle ≠ some current) :
    Fulfils (k.awaitQueue (α := α) queue current side message timeout)
      (v.Able ∧ v.Guarded)
      fun verdict => verdict.1 = .error .timeout ∧ ∃ w, current ∈ v.ready ∧
        (v.parked current (.queue queue) side (message.getD 0)
          (v.platform.clock + timeout)).GaveUp current w ∧
            verdict.2.Shows w := by
  unfold Kernel.awaitQueue
  have hkept := (ho.parked.unblocked_task current hwaits).2
  have hjoined := ((h.putWaiters queue side).joinBlocked (.queue queue)
    (ho.parked.not_mem_blocked hwaits)).modifyTask current fun task =>
      { task with
        message := message.getD task.message
        waitsFor := some (.queue queue) }
  refine Fulfils.bind ((hjoined.sleep .queue hrunning
    (ho.started_of_running hrunning) hidle (ho.running_ready hrunning)
    (View.parked_queue hkept queue side message _)
    fun hready => ?_).imp ?_ fun _ hk' => hk') ?_
  · refine ho.queuedUp side (message.getD 0) _ hready hidle hcreated
      (fun mutex heq => by cases heq) fun other heq => ?_
    obtain rfl := Resource.queue.inj heq
    exact hside
  · rintro ⟨hable, hguarded⟩
    refine ⟨ho.ready_of_able hable hrunning, ?_⟩
    exact (View.SameStacks.setTask
      (v := (v.setWaiters queue side).setBlocked _ _)
      current rfl).guarded rfl hguarded
  · rintro k' ⟨w, hready, hw, hk'⟩
    exact Fulfils.ok ⟨rfl, w, hready, hw, hk'⟩

theorem Shows.sendToRing (h : k.Shows v) (ho : v.Orderly none)
    {message : Message} {timeout : Tick} (hrunning : v.running = some current)
    (hcreated : v.Created (.queue queue)) (hside : v.waiters queue ≠ .receivers)
    (hwaits : (v.task current).waitsFor = none)
    (hmax : timeout ≤ Tick.maxTimeout) :
    Fulfils (k.sendToRing queue current message timeout) (v.Able ∧ v.Guarded)
      fun verdict => ∃ w, v.Sent queue message timeout verdict.1 w ∧
        verdict.2.Shows w := by
  have hrefuse : ∀ error, error ≠ .timeout →
      Fulfils (.ok (k.refuse (α := Unit) error)) (v.Able ∧ v.Guarded)
      fun verdict => ∃ w, v.Sent queue message timeout verdict.1 w ∧
        verdict.2.Shows w := fun error hne =>
          Fulfils.ok ⟨v, .refused error hne, h⟩
  have hring := h.ring_eq queue
  unfold Kernel.sendToRing
  dsimp only
  have hisFull : (v.ring queue).isFull = true ↔
      (v.ring queue).count = (v.ring queue).capacity := beq_iff_eq
  rw [hring]
  by_cases hfull : (v.ring queue).count = (v.ring queue).capacity
  · rw [if_pos (hisFull.mpr hfull)]
    split
    · exact hrefuse _ (by decide)
    by_cases hidle : v.idle = some current
    · rw [if_pos (by rw [h.idle_eq, hidle])]
      exact hrefuse _ (by decide)
    rw [if_neg (by rwa [h.idle_eq])]
    refine (h.awaitQueue ho (some message) hrunning hcreated (Or.inl ⟨rfl,
      hfull⟩) hwaits hidle).imp id ?_
    rintro ⟨result, k'⟩ ⟨rfl, w, hready, hw, hk'⟩
    exact ⟨w, .parked hrunning hcreated hside hfull hready hidle hw ‹_› hmax,
      hk'⟩
  · rw [if_neg (mt hisFull.mp hfull)]
    have hvalid := ho.supplied.ring_valid queue hcreated
    have hnobody : v.waiters queue = .nobody := by
      cases hcase : v.waiters queue with
      | nobody => rfl
      | senders => exact absurd (ho.supplied.full_of_senders queue hcase) hfull
      | receivers => exact absurd hcase hside
    have hstored := h.putQueue queue ((v.ring queue).push message) .nobody
    rw [← hnobody] at hstored
    refine Fulfils.ok ⟨_, .stored hrunning hcreated hnobody
      (Nat.lt_of_le_of_ne hvalid.count_le hfull), ?_⟩
    rw [← hnobody]
    exact hstored.of_eq (View.setWaiters_self (v.setRing queue _) queue)

theorem Shows.send (h : k.Shows v) (ho : v.Orderly none) (queue : QueueId)
    (message : Message) (timeout : Tick) :
    Fulfils (k.send queue message timeout) (v.Able ∧ v.Guarded)
      fun verdict => ∃ w, v.Sent queue message timeout verdict.1 w ∧
        verdict.2.Shows w := by
  have hrefuse : ∀ error, error ≠ .timeout →
      Fulfils (.ok (k.refuse (α := Unit) error)) (v.Able ∧ v.Guarded)
      fun verdict => ∃ w, v.Sent queue message timeout verdict.1 w ∧
        verdict.2.Shows w := fun error hne =>
          Fulfils.ok ⟨v, .refused error hne, h⟩
  unfold Kernel.send
  by_cases hcreated : v.Created (.queue queue)
  swap
  · rw [if_pos (by simpa using mt (h.hasQueue_iff queue).mp hcreated)]
    exact hrefuse _ (by decide)
  rw [if_neg (by simpa using (h.hasQueue_iff queue).mpr hcreated), h.running_eq]
  cases haccept : Tick.acceptTimeout timeout with
  | error error => exact hrefuse _ (Tick.acceptTimeout_ne haccept)
  | ok accepted =>
      cases hrunning : v.running with
      | none => exact hrefuse _ (by decide)
      | some current =>
          dsimp only
          refine h.requireUnblocked ho hrunning fun hwaits => ?_
          by_cases hside : v.waiters queue = .receivers
          swap
          · rw [h.popWaiter_eq_none hside]
            exact h.sendToRing ho hrunning hcreated hside hwaits
              (Tick.le_maxTimeout_of_accept haccept)
          cases hnext : v.blocked (.queue queue) with
          | nil =>
              have hnobody := (ho.supplied.nobody_iff queue).mpr hnext
              rw [hside] at hnobody
              cases hnobody
          | cons receiver rest =>
              obtain ⟨k₁, hpop, -, -, hk₁⟩ := h.popBlocked_forgetWait ho.parked
                ho.supplied.nobody_iff hnext
              rw [Kernel.popWaiter?, h.waiters_eq, if_pos hside, hpop]
              have hmem : receiver ∈ v.blocked (.queue queue) := by
                rw [hnext]
                exact List.mem_cons_self
              refine Fulfils.bind
                ((hk₁.wake ho.unblocked (ho.waiting_of_blocked hmem)
                ?_ (Reply.ok message)).imp ?_ fun _ hk' => hk') ?_
              · change v.running ≠ none
                rw [hrunning]
                exact Option.some_ne_none current
              · rintro ⟨-, hguarded⟩
                exact (View.sameStacks_unblocked v receiver).guarded rfl
                  hguarded
              · rintro k' ⟨w, hw, hk'⟩
                exact Fulfils.ok ⟨w,
                  .handed hrunning hcreated hside hnext hw hwaits, hk'⟩

/-- What a received message leaves behind. -/
theorem Shows.refill (h : k.Shows v) (ho : v.Orderly none) {message : Message}
    {ring : Ring} (timeout : Tick) (hrunning : v.running = some current)
    (hcreated : v.Created (.queue queue))
    (hpop : (v.ring queue).pop? = some (message, ring))
    (hwaits : (v.task current).waitsFor = none) :
    Fulfils ((k.putRing queue ring).refill queue) v.Guarded
      fun k' => ∃ w, v.Received queue timeout (.ok message) w ∧ k'.Shows w := by
  have hput := h.putRing queue ring
  have hcount : (v.ring queue).count ≠ 0 := by
    intro hzero
    rw [Ring.pop?, if_pos hzero] at hpop
    cases hpop
  unfold Kernel.refill
  by_cases hside : v.waiters queue = .senders
  swap
  · rw [hput.popWaiter_eq_none hside]
    have hnobody : v.waiters queue = .nobody := by
      cases hcase : v.waiters queue with
      | nobody => rfl
      | senders => exact absurd hcase hside
      | receivers =>
          exact absurd (ho.supplied.empty_of_receivers queue hcase) hcount
    exact Fulfils.ok ⟨_, .taken hrunning hcreated hpop hnobody, hput⟩
  cases hnext : v.blocked (.queue queue) with
  | nil =>
      have hnobody := (ho.supplied.nobody_iff queue).mpr hnext
      rw [hside] at hnobody
      cases hnobody
  | cons sender rest =>
      have hparked : (v.setRing queue ring).Parked :=
        ho.parked.congr (Nat.le_refl _) (Nat.le_refl _) (Nat.le_refl _) rfl
          fun _ => ⟨rfl, rfl, rfl, fun _ => rfl⟩
      obtain ⟨k₁, hpopped, htask, hring, hk₁⟩ :=
        hput.popBlocked_forgetWait hparked ho.supplied.nobody_iff hnext
      have hside' : ((k.putRing queue ring).queue queue).waiters = .senders :=
        (hput.waiters_eq queue).trans hside
      rw [Kernel.popWaiter?, if_pos hside', hpopped]
      have hself : (k₁.queue queue).ring = ring := by
        rw [hring]
        exact if_pos rfl
      have hmessage : k₁.task sender = v.task sender := congrFun htask sender
      dsimp only
      rw [hself, hmessage]
      -- forgetting the wait and filling the room may change places
      have hforget :
          ((k₁.putRing queue (ring.push (v.task sender).message)).forgetWait
          sender).Shows (v.refilled queue ring sender) :=
        (hk₁.putRing queue _).of_eq
          (View.setRing_setRing (v.unblocked sender) queue _ _)
      have hmem : sender ∈ v.blocked (.queue queue) := by
        rw [hnext]
        exact List.mem_cons_self
      refine (hforget.wake (ho.refilled hcreated hpop hside)
        (ho.waiting_of_blocked hmem) ?_ Reply.done).imp ?_ ?_
      · change v.running ≠ none
        rw [hrunning]
        exact Option.some_ne_none current
      · exact (View.sameStacks_unblocked v sender).guarded rfl
      · rintro k' ⟨w, hw, hk'⟩
        exact ⟨w, .refilled hrunning hcreated hpop hside hnext hw hwaits, hk'⟩

theorem Shows.receive (h : k.Shows v) (ho : v.Orderly none) (queue : QueueId)
    (timeout : Tick) :
    Fulfils (k.receive queue timeout) (v.Able ∧ v.Guarded)
      fun verdict => ∃ w, v.Received queue timeout verdict.1 w ∧
        verdict.2.Shows w := by
  have hrefuse : ∀ error, error ≠ .timeout →
      Fulfils (.ok (k.refuse (α := Message) error)) (v.Able ∧ v.Guarded)
      fun verdict => ∃ w, v.Received queue timeout verdict.1 w ∧
        verdict.2.Shows w := fun error hne =>
          Fulfils.ok ⟨v, .refused error hne, h⟩
  unfold Kernel.receive
  by_cases hcreated : v.Created (.queue queue)
  swap
  · rw [if_pos (by simpa using mt (h.hasQueue_iff queue).mp hcreated)]
    exact hrefuse _ (by decide)
  rw [if_neg (by simpa using (h.hasQueue_iff queue).mpr hcreated), h.running_eq]
  cases haccept : Tick.acceptTimeout timeout with
  | error error => exact hrefuse _ (Tick.acceptTimeout_ne haccept)
  | ok accepted =>
      cases hrunning : v.running with
      | none => exact hrefuse _ (by decide)
      | some current =>
          dsimp only
          refine h.requireUnblocked ho hrunning fun hwaits => ?_
          rw [h.ring_eq]
          cases hpop : (v.ring queue).pop? with
          | some popped =>
              obtain ⟨message, ring⟩ := popped
              refine Fulfils.bind
                ((h.refill ho timeout hrunning hcreated hpop hwaits).imp
                And.right fun _ hk' => hk') ?_
              rintro k' ⟨w, hw, hk'⟩
              exact Fulfils.ok ⟨w, hw, hk'⟩
          | none =>
              have hempty : (v.ring queue).count = 0 := by
                rw [← Ring.length_toList, (Ring.pop?_eq_none_iff _).mp hpop]
                rfl
              dsimp only
              split
              · exact hrefuse _ (by decide)
              by_cases hidle : v.idle = some current
              · rw [if_pos (by rw [h.idle_eq, hidle])]
                exact hrefuse _ (by decide)
              rw [if_neg (by rwa [h.idle_eq])]
              refine (h.awaitQueue ho none hrunning hcreated (Or.inr ⟨rfl,
                hempty⟩) hwaits hidle).imp id ?_
              rintro ⟨result, k'⟩ ⟨rfl, w, hready, hw, hk'⟩
              exact ⟨w, .parked hrunning hcreated hempty hready hidle hw ‹_›
                (Tick.le_maxTimeout_of_accept haccept), hk'⟩

end Kernel

end TickKernel
