/-
Calls that hand over what a task waits for.  The last release of a mutex, a
message for receivers that wait and room for senders that wait all end in the
same step: the task that has waited longest is woken.  What each of them does to
its object before that is no concern of any other task.
-/
import Mathlib.Data.List.TakeWhile
import TickKernel.Proofs.Decisions

namespace TickKernel

/-- Task `id` falls in behind those that are at least as urgent and before the
less urgent ones. -/
def FallsIn (urgency : TaskId → Priority) (id : TaskId)
    (ids ids' : List TaskId) : Prop :=
  ∃ front back, ids = front ++ back ∧ ids' = front ++ id :: back ∧
    (∀ other ∈ front, urgency id ≤ urgency other) ∧
    ∀ other ∈ back, urgency other < urgency id

section FallsIn

variable {urgency : TaskId → Priority} {id other : TaskId} {ids : List TaskId}

theorem fallsIn_insertBefore
    (hsorted : ids.Pairwise fun earlier later =>
      urgency later ≤ urgency earlier)
    (id : TaskId) : FallsIn urgency id ids
      (insertBefore (fun other => decide (urgency other < urgency id)) id
        ids) := by
  refine ⟨_, _, List.takeWhile_append_dropWhile.symm, rfl, ?_, ?_⟩
  · intro other hother
    have hnot := List.mem_takeWhile_imp hother
    simpa using hnot
  · intro other hother
    apply of_decide_eq_true
    -- In a sorted list no task behind a less urgent one is more urgent.
    apply precedes_of_mem_dropWhile _ hother
    apply hsorted.imp
    intro earlier later hle hless
    exact decide_eq_true (UInt8.lt_of_le_of_lt hle (of_decide_eq_true hless))

end FallsIn

/-! ### Calls that serve somebody -/

namespace Kernel

/-- The call has something for the first task that waits for the object. -/
inductive HandsOver (k : Kernel) : Call → Resource → Prop
  | release {mutex : MutexId} (hlevel : (k.mutex mutex).level = 1) :
      HandsOver k (.release mutex) (.mutex mutex)
  | send {queue : QueueId} {message : Message} {timeout : Tick}
      (hside : (k.queue queue).waiters = .receivers)
      (hmax : timeout ≤ Tick.maxTimeout) :
      HandsOver k (.send queue message timeout) (.queue queue)
  | receive {queue : QueueId} {timeout : Tick}
      (hside : (k.queue queue).waiters = .senders)
      (hmax : timeout ≤ Tick.maxTimeout) :
      HandsOver k (.receive queue timeout) (.queue queue)

/-- While `current` is on the processor, `woken`, the first of those that wait
for `resource`, gets a reply and can run again; the others, in `rest`, go on
waiting. -/
structure HandedOver (k : Kernel) (current woken : TaskId) (resource : Resource)
    (rest : List TaskId) (reply : Reply) (k' : Kernel) : Prop where
  blocked : k'.blockedIds resource = rest
  blocked_other : ∀ other, other ≠ resource →
    k'.blockedIds other = k.blockedIds other
  mem_waiting : woken ∈ k.waitingIds
  waiting : k'.waitingIds = k.waitingIds.erase woken
  ready : FallsIn k.view.urgency woken k.readyIds k'.readyIds
  running : k'.running = k.running
  /-- It gets the processor whatever its priority. -/
  now : k.scheduled = none → k'.scheduled = some woken ∧
    k'.platform = k.platform.askForSwitch ∧
    k'.task woken = { (k.task woken).withoutWait with
      deadline := 0, pending := some reply, status := .active } ∧
    k'.task current = { k.task current with status := .ready }
  /-- It competes for the processor when that is promised to somebody else. -/
  later : k.scheduled ≠ none → k'.scheduled = k.scheduled ∧
    k'.platform = k.platform ∧ k'.task woken = { (k.task woken).withoutWait with
      deadline := 0, pending := some reply, status := .ready } ∧
    k'.task current = k.task current
  task_other : ∀ id, id ≠ woken → id ≠ current → k'.task id = k.task id

end Kernel

/-! ### Waking -/

namespace View

section Woke

variable {u v w : View} {current target id other : TaskId} {call : Call}
  {reply : Reply}

/-- A dispatch is about two tasks. -/
theorem task_dispatched (hne : target ≠ current)
    (hable : (v.task current).isRunnable = true) (other : TaskId) :
    (v.dispatched current target).task other =
      if target = other then
        { (v.task target).withoutWait with deadline := 0, status := .active }
      else if current = other then { v.task current with status := .ready }
      else v.task other := by
  have hself : ((v.readied target).task target) =
      { (v.task target).withoutWait with deadline := 0, status := .ready } :=
      if_pos rfl
  simp only [dispatched, promoted, setTask, stoodDown, task_readied_of_ne v hne,
    hself, hable, Ne.symm hne, if_false, and_true]
  split
  · rfl
  · split
    · rfl
    · exact task_readied_of_ne v ‹_›

theorem Woke.blocked_eq (hw : v.Woke id reply w) (resource : Resource) :
    w.blocked resource = (v.blocked resource).erase id := by
  cases hw <;> rfl

theorem Woke.running_eq (hw : v.Woke id reply w) : w.running = v.running := by
  cases hw with
  | now =>
      simp only [dispatched, promoted, setTask, stoodDown, readied, unblocked,
        promised]
  | later => simp only [readied, unblocked, promised, setTask]

theorem task_promised_self (v : View) (id : TaskId) (reply : Reply) :
    (v.promised id reply).task id = { v.task id with pending := some reply } :=
  task_setTask_self v id _

theorem task_promised_of_ne (v : View) (reply : Reply) (hne : id ≠ other) :
    (v.promised id reply).task other = v.task other :=
  task_setTask_of_ne v _ hne

/-- Who is on the processor while nothing is promised does not wait. -/
theorem Orderly.promised_active (h : v.Orderly none) (id : TaskId)
    (reply : Reply) (hrunning : v.running = some current)
    (hscheduled : v.scheduled = none) :
    ((v.promised id reply).task current).status = .active :=
  h.promised.running_active hrunning hscheduled

theorem Woke.waiting_eq (hw : v.Woke id reply w) (h : v.Orderly none) :
    w.waiting = v.waiting.erase id := by
  cases hw with
  | now current hrunning hscheduled hne =>
      apply waiting_dispatched_awake _ hne
      rw [h.promised_active id reply hrunning hscheduled]
      decide
  | later => rfl

theorem urgency_promised (v : View) (id : TaskId) (reply : Reply) :
    (v.promised id reply).urgency = v.urgency :=
  urgency_eq_of_task (fun _ => rfl) rfl

theorem fallsIn_readied (h : v.Orderly none) (hnew : id ∉ v.ready) :
    FallsIn v.urgency id v.ready (v.readied id).ready := by
  rw [readied, if_neg hnew]
  exact fallsIn_insertBefore h.queued.ready_sorted id

theorem Woke.fallsIn (hw : v.Woke id reply w) (h : v.Orderly none)
    (hid : id ∈ v.waiting) :
    FallsIn v.urgency id v.ready w.ready := by
  have hnew : id ∉ v.ready := fun hready => h.queued.not_mem_waiting hready hid
  have hfalls : FallsIn (v.promised id reply).urgency id v.ready
      ((v.promised id reply).readied id).ready :=
      fallsIn_readied h.promised hnew
  rw [urgency_promised] at hfalls
  suffices hready : w.ready = ((v.promised id reply).readied id).ready by
    rw [hready]
    exact hfalls
  cases hw with
  | now current hrunning hscheduled hne =>
      have hactive := h.promised_active id reply hrunning hscheduled
      apply if_pos
      rw [task_readied_of_ne _ hne, Task.isRunnable, hactive]
      rfl
  | later => rfl

/-- Besides the task that is woken only the one on the processor can have to
give way. -/
theorem Woke.task_eq (hw : v.Woke id reply w) (h : v.Orderly none)
    (other : TaskId) :
    w.task other =
      if id = other then
        { (v.task id).withoutWait with
          deadline := 0
          pending := some reply
          status := if v.scheduled = none then .active else .ready }
      else if v.scheduled = none ∧ v.running = some other then
        { v.task other with status := .ready }
      else v.task other := by
  cases hw with
  | now current hrunning hscheduled hne =>
      have hactive := h.promised_active id reply hrunning hscheduled
      rw [task_dispatched hne ((Task.isRunnable_iff _).mpr (Or.inr hactive)),
        task_promised_self, task_promised_of_ne v reply hne]
      simp only [hscheduled, if_true, true_and, hrunning, Option.some.injEq]
      split
      · rfl
      · split
        · rename_i heq
          rw [heq]
        · exact task_promised_of_ne v reply ‹_›
  | later hscheduled =>
      simp only [hscheduled, if_false, false_and]
      by_cases heq : id = other
      · subst heq
        rw [if_pos rfl, readied, task_promised_self]
        exact if_pos rfl
      · rw [if_neg heq, task_readied_of_ne _ heq]
        exact task_promised_of_ne v reply heq

theorem Woke.scheduled_eq (hw : v.Woke id reply w) :
    w.scheduled = if v.scheduled = none then some id else v.scheduled := by
  cases hw with
  | now _ _ hscheduled => exact (if_pos hscheduled).symm
  | later hscheduled => exact (if_neg hscheduled).symm

theorem Woke.platform_eq (hw : v.Woke id reply w) :
    w.platform = if v.scheduled = none then v.platform.askForSwitch
      else v.platform := by
  cases hw with
  | now _ _ hscheduled => exact (if_pos hscheduled).symm
  | later hscheduled => exact (if_neg hscheduled).symm

/-- Whoever is woken leaves the object, and nobody else does. -/
theorem Serves.blocked_woken (hu : v.Serves call id u) (h : v.Parked)
    (hw : u.Woke id reply w) {resource : Resource} {rest : List TaskId}
    (hfirst : v.blocked resource = id :: rest) : w.blocked resource = rest ∧
      ∀ other, other ≠ resource → w.blocked other = v.blocked other := by
  have hafter : ∀ other,
      w.blocked other = ((v.blocked other).erase id).erase id := by
    intro other
    have hblocked := hw.blocked_eq other
    rw [hu.lists] at hblocked
    exact hblocked
  have hmem : id ∈ v.blocked resource := by
    rw [hfirst]
    exact List.mem_cons_self
  have hwaits := (h.mem_blocked resource id).mp hmem
  constructor
  · have hnodup := h.blocked_nodup resource
    rw [hfirst, List.nodup_cons] at hnodup
    rw [hafter, hfirst, List.erase_cons_head, List.erase_of_not_mem hnodup.1]
  · intro other hne
    have hnot : id ∉ v.blocked other := by
      intro hmem
      have hother := (h.mem_blocked other id).mp hmem
      exact hne (Option.some.inj (hother.symm.trans hwaits))
    rw [hafter, List.erase_of_not_mem hnot, List.erase_of_not_mem hnot]

/-- What becomes of the task that is served, and that only the caller may have
to give way. -/
theorem Serves.task_woken (hu : v.Serves call id u) (ho : u.Orderly none)
    (hw : u.Woke id reply w) (other : TaskId) :
    w.task other =
      if id = other then
        { (v.task id).withoutWait with
          deadline := 0
          pending := some reply
          status := if v.scheduled = none then .active else .ready }
      else if v.scheduled = none ∧ v.running = some other then
        { v.task other with status := .ready }
      else v.task other := by
  have htask := hw.task_eq ho other
  have hself : u.task id = (v.task id).withoutWait := by
    rw [hu.lists]
    exact if_pos rfl
  have hother : id ≠ other → u.task other = v.task other := by
    intro hne
    rw [hu.lists]
    exact if_neg hne
  have hscheduled : u.scheduled = v.scheduled := by
    rw [hu.lists]
    rfl
  have hrunning : u.running = v.running := by
    rw [hu.lists]
    rfl
  rw [hscheduled, hrunning, hself] at htask
  refine htask.trans ?_
  by_cases hne : id = other
  · rw [if_pos hne, if_pos hne]
    rfl
  · rw [if_neg hne, if_neg hne, hother hne]

end Woke

/-! ### Who is served -/

section Serves

variable {v w : View} {id : TaskId} {rest : List TaskId} {mutex : MutexId}
  {queue : QueueId} {timeout : Tick}

theorem Released.serves (hw : v.Released mutex (.ok ()) w) (h : v.Orderly none)
    (hlevel : v.level mutex = 1)
    (hfirst : v.blocked (.mutex mutex) = id :: rest) :
    ∃ u, v.Serves (.release mutex) id u ∧ u.Orderly none ∧
      u.Woke id Reply.done w := by
  cases hw with
  | once _ _ hmore => exact absurd hlevel hmore
  | freed _ _ _ hnobody =>
      rw [hfirst] at hnobody
      cases hnobody
  | passedOn hrunning howner _ hnext hw =>
      obtain ⟨rfl, rfl⟩ := List.cons.inj (hnext.symm.trans hfirst)
      exact ⟨_, h.owned.serves hrunning howner hnext, h.handedOver _, hw⟩

theorem Sent.serves {message : Message}
    (hw : v.Sent queue message timeout (.ok ()) w) (h : v.Orderly none)
    (hside : v.waiters queue = .receivers)
    (hfirst : v.blocked (.queue queue) = id :: rest) :
    ∃ u, v.Serves (.send queue message timeout) id u ∧ u.Orderly none ∧
      u.Woke id (Reply.ok message) w := by
  cases hw with
  | handed hrunning _ _ hnext hw hfree =>
      obtain ⟨rfl, rfl⟩ := List.cons.inj (hnext.symm.trans hfirst)
      exact ⟨_, h.parked.serves hrunning hfree hnext rfl v.ring, h.unblocked,
        hw⟩
  | stored _ _ hnobody =>
      rw [hside] at hnobody
      cases hnobody

theorem Received.serves {message : Message}
    (hw : v.Received queue timeout (.ok message) w) (h : v.Orderly none)
    (hside : v.waiters queue = .senders)
    (hfirst : v.blocked (.queue queue) = id :: rest) :
    ∃ u, v.Serves (.receive queue timeout) id u ∧ u.Orderly none ∧
      u.Woke id Reply.done w := by
  cases hw with
  | taken _ _ _ hnobody =>
      rw [hside] at hnobody
      cases hnobody
  | refilled hrunning hcreated hpop _ hnext hw hfree =>
      obtain ⟨rfl, rfl⟩ := List.cons.inj (hnext.symm.trans hfirst)
      exact ⟨_, h.parked.serves hrunning hfree hnext rfl _,
        h.refilled hcreated hpop hside, hw⟩

end Serves

end View

namespace Kernel

section HandsOver

variable {k k' : Kernel} {u : View} {current woken : TaskId}
  {resource : Resource} {rest : List TaskId} {call : Call} {answer : Answer}
  {reply : Reply}

/-- All that happens to the others is that the caller may have to give way. -/
theorem Sound.handedOver (h : k.Sound) (hu : k.view.Serves call woken u)
    (ho : u.Orderly none) (hw : u.Woke woken reply k'.view)
    (hfirst : k.blockedIds resource = woken :: rest)
    (hrunning : k.running = some current) :
    k.HandedOver current woken resource rest reply k' := by
  obtain ⟨hblocked, hblocked_other⟩ :=
    hu.blocked_woken h.orderly.parked hw hfirst
  have hblockedOn : woken ∈ k.view.blocked resource := by
    rw [show k.view.blocked resource = woken :: rest from hfirst]
    exact List.mem_cons_self
  have hmem : woken ∈ k.waitingIds := h.orderly.waiting_of_blocked hblockedOn
  have hne : woken ≠ current := by
    rintro rfl
    exact hu.other hrunning
  have htask : ∀ id, k'.task id = if woken = id then
      { (k.task woken).withoutWait with
        deadline := 0
        pending := some reply
        status := if k.scheduled = none then .active else .ready }
      else if k.scheduled = none ∧ k.running = some id then
        { k.task id with status := .ready }
      else k.task id := hu.task_woken ho hw
  have hself := htask woken
  have hcaller := htask current
  rw [if_pos rfl] at hself
  rw [if_neg hne] at hcaller
  have hscheduled := hw.scheduled_eq
  have hplatform := hw.platform_eq
  have hwaiting := hw.waiting_eq ho
  have hready := hw.fallsIn ho
  have hrunning' := hw.running_eq
  rw [hu.urgency_eq] at hready
  rw [hu.lists] at hscheduled hplatform hwaiting hready hrunning'
  refine ⟨hblocked, hblocked_other, hmem, hwaiting, hready hmem, hrunning',
    fun hnone => ?_, fun hpending => ?_, fun id hid hother => ?_⟩
  · rw [if_pos ⟨hnone, hrunning⟩] at hcaller
    rw [if_pos hnone] at hself
    exact ⟨hscheduled.trans (if_pos hnone), hplatform.trans (if_pos hnone),
      hself, hcaller⟩
  · rw [if_neg fun hboth => hpending hboth.1] at hcaller
    rw [if_neg hpending] at hself
    exact ⟨hscheduled.trans (if_neg hpending),
      hplatform.trans (if_neg hpending), hself, hcaller⟩
  · rw [htask, if_neg (Ne.symm hid), if_neg]
    rintro ⟨-, hruns⟩
    exact hother (Option.some.inj (hruns.symm.trans hrunning))

/-- The last release of a mutex is not refused. -/
theorem release_eq_ok {mutex : MutexId} {result : Except Error Unit}
    (hmutex : k.hasMutex mutex = true) (hrunning : k.running = some current)
    (hlevel : (k.mutex mutex).level = 1)
    (hok : k.release mutex = .ok (result, k')) :
    result = .ok () := by
  simp only [release, hmutex, Bool.not_true, Bool.false_eq_true, if_false,
    hrunning, hlevel, if_true] at hok
  obtain ⟨_, -, hok⟩ := eq_ok_of_bind hok
  obtain ⟨_, -, hok⟩ := eq_ok_of_bind hok
  cases hok
  rfl

/-- Neither is a message for which somebody waits. -/
theorem send_eq_ok {queue : QueueId} {message : Message} {timeout : Tick}
    {result : Except Error Unit} (hqueue : k.hasQueue queue = true)
    (hrunning : k.running = some current) (hmax : timeout ≤ Tick.maxTimeout)
    (hpop : k.popWaiter? queue .receivers ≠ none)
    (hok : k.send queue message timeout = .ok (result, k')) :
    result = .ok () := by
  obtain ⟨popped, hpop⟩ := Option.ne_none_iff_exists'.mp hpop
  simp only [send, hqueue, Bool.not_true, Bool.false_eq_true, if_false,
    hrunning, Tick.acceptTimeout_of_le hmax, hpop] at hok
  obtain ⟨_, -, hok⟩ := eq_ok_of_bind hok
  obtain ⟨_, -, hok⟩ := eq_ok_of_bind hok
  cases hok
  rfl

/-- Neither is taking a message that is there. -/
theorem receive_eq_ok {queue : QueueId} {timeout : Tick}
    {result : Except Error Message} (hqueue : k.hasQueue queue = true)
    (hrunning : k.running = some current) (hmax : timeout ≤ Tick.maxTimeout)
    (hcount : (k.queue queue).ring.count ≠ 0)
    (hok : k.receive queue timeout = .ok (result, k')) :
    ∃ message, result = .ok message := by
  cases hpop : (k.queue queue).ring.pop? with
  | none =>
      rw [Ring.pop?, if_neg hcount] at hpop
      cases hpop
  | some popped =>
      simp only [receive, hqueue, Bool.not_true, Bool.false_eq_true, if_false,
        hrunning, Tick.acceptTimeout_of_le hmax, hpop] at hok
      obtain ⟨_, -, hok⟩ := eq_ok_of_bind hok
      obtain ⟨_, -, hok⟩ := eq_ok_of_bind hok
      cases hok
      exact ⟨popped.1, rfl⟩

/-- A call that has something for the first task that waits serves that task. -/
theorem Sound.serves_of_handsOver (h : k.Sound)
    (hcall : k.HandsOver call resource)
    (hfirst : k.blockedIds resource = woken :: rest)
    (hrunning : k.running = some current)
    (hperform : k.perform call = .ok (answer, k')) :
    answer.toReply.status = .success ∧ ∃ reply u, call.brings = some reply ∧
      k.view.Serves call woken u ∧ u.Orderly none ∧
      u.Woke woken reply k'.view := by
  have hw := (h.performs hperform).1
  have hcreated : k.view.Created resource := by
    apply h.orderly.parked.created resource woken
    apply (h.orderly.parked.mem_blocked resource woken).mp
    rw [show k.view.blocked resource = woken :: rest from hfirst]
    exact List.mem_cons_self
  generalize k'.view = w at hw
  cases hcall with
  | @release mutex hlevel =>
      obtain ⟨⟨result, _⟩, hok, hanswer⟩ := eq_ok_of_map hperform
      cases hanswer
      obtain rfl :=
        release_eq_ok ((h.shows.hasMutex_iff mutex).mpr hcreated) hrunning
          hlevel hok
      cases hw with
      | release hw =>
          obtain ⟨u, hu⟩ := hw.serves h.orderly hlevel hfirst
          exact ⟨rfl, Reply.done, u, rfl, hu⟩
  | @send queue message timeout hside hmax =>
      obtain ⟨⟨result, _⟩, hok, hanswer⟩ := eq_ok_of_map hperform
      cases hanswer
      have hpop : k.popWaiter? queue .receivers ≠ none := by
        obtain ⟨k₂, hpopped, -⟩ := h.shows.popBlocked hfirst
        rw [popWaiter?, if_pos hside, hpopped]
        exact Option.some_ne_none _
      obtain rfl :=
        send_eq_ok ((h.shows.hasQueue_iff queue).mpr hcreated) hrunning hmax
          hpop hok
      cases hw with
      | send hw =>
          obtain ⟨u, hu⟩ := hw.serves h.orderly hside hfirst
          exact ⟨rfl, Reply.ok message, u, rfl, hu⟩
  | @receive queue timeout hside hmax =>
      obtain ⟨⟨result, _⟩, hok, hanswer⟩ := eq_ok_of_map hperform
      cases hanswer
      have hcount : (k.queue queue).ring.count ≠ 0 := by
        have hfull := h.orderly.supplied.full_of_senders queue hside
        have hvalid := h.orderly.supplied.ring_valid queue hcreated
        rw [show (k.queue queue).ring.count = _ from hfull]
        exact Nat.ne_of_gt hvalid.capacity_pos
      obtain ⟨message, rfl⟩ :=
        receive_eq_ok ((h.shows.hasQueue_iff queue).mpr hcreated)
          hrunning hmax hcount hok
      cases hw with
      | receive hw =>
          obtain ⟨u, hu⟩ := hw.serves h.orderly hside hfirst
          exact ⟨rfl, Reply.done, u, rfl, hu⟩

end HandsOver

end Kernel

/-- A call that hands something over wakes whoever has waited longest for it,
and disturbs no other task. -/
theorem Run.handsOver {step : Step} {earlier : List Step} {k : Kernel}
    {current woken : TaskId} {resource : Resource} {rest : List TaskId}
    (hrun : Run (step :: earlier) k)
    (hcall : step.before.HandsOver step.call.direct resource)
    (hfirst : step.before.blockedIds resource = woken :: rest)
    (hrunning : step.before.running = some current) :
    step.answer.toReply.status = .success ∧
      ∃ reply, step.call.direct.brings = some reply ∧
        step.before.HandedOver current woken resource rest reply k := by
  obtain ⟨hbefore, rfl, hperform⟩ := hrun.last
  obtain ⟨other, hdirect, hreply⟩ := Kernel.perform_direct hperform
  obtain ⟨hsuccess, reply, u, hbrings, hu, ho, hw⟩ :=
    hbefore.sound.serves_of_handsOver hcall hfirst hrunning hdirect
  rw [hreply] at hsuccess
  exact ⟨hsuccess, reply, hbrings,
    hbefore.sound.handedOver hu ho hw hfirst hrunning⟩

namespace Witness

/-- Tasks B and C wait for the mutex that task A releases. -/
def inherited : List Call :=
  trio ++ [.createMutex, .acquire lock 0, .beat, .acquire lock 9, .switchOver,
    .acquire lock 9, .switchOver, .release lock]

/-- Task C is promised the processor when task B sends a message for task A. -/
def heldBack : List Call :=
  trio ++ [.createQueue 1, .receive box 9, .switchOver, .tick, .send box 7 0]

theorem handsOver_both :
    (∃ step earlier k, Run (step :: earlier) k ∧ step.before.scheduled = none ∧
      step.before.HandsOver step.call.direct (.mutex lock) ∧
      step.before.blockedIds (.mutex lock) = [taskB, taskC] ∧
      step.before.running = some taskA ∧ ∃ reply,
        step.before.HandedOver taskA taskB (.mutex lock) [taskC] reply k) ∧
    ∃ step earlier k, Run (step :: earlier) k ∧
    step.before.scheduled = some taskC ∧
      step.before.HandsOver step.call.direct (.queue box) ∧
      step.before.blockedIds (.queue box) = [taskA] ∧
      step.before.running = some taskB ∧ ∃ reply,
        step.before.HandedOver taskB taskA (.queue box) [] reply k := by
  constructor
  · obtain ⟨step, earlier, hrun, hstep⟩ := exists_last inherited
      (fun step => step.call == .release lock &&
        step.before.scheduled == none && (step.before.mutex lock).level == 1 &&
        step.before.blockedIds (.mutex lock) == [taskB, taskC] &&
        step.before.running == some taskA) (by decide +kernel)
    simp only [Bool.and_eq_true, beq_iff_eq] at hstep
    obtain ⟨⟨⟨⟨hcall, hscheduled⟩, hlevel⟩, hfirst⟩, hrunning⟩ := hstep
    have hhands : step.before.HandsOver step.call.direct (.mutex lock) := by
      rw [hcall]
      exact .release hlevel
    obtain ⟨-, reply, -, hhanded⟩ := hrun.handsOver hhands hfirst hrunning
    exact ⟨step, earlier, _, hrun, hscheduled, hhands, hfirst, hrunning, reply,
      hhanded⟩
  · obtain ⟨step, earlier, hrun, hstep⟩ := exists_last heldBack
      (fun step => step.call == .send box 7 0 && step.before.scheduled ==
        some taskC && (step.before.queue box).waiters == .receivers &&
        step.before.blockedIds (.queue box) == [taskA] &&
        step.before.running == some taskB) (by decide +kernel)
    simp only [Bool.and_eq_true, beq_iff_eq] at hstep
    obtain ⟨⟨⟨⟨hcall, hscheduled⟩, hside⟩, hfirst⟩, hrunning⟩ := hstep
    have hhands : step.before.HandsOver step.call.direct (.queue box) := by
      rw [hcall]
      exact .send hside (by decide)
    obtain ⟨-, reply, -, hhanded⟩ := hrun.handsOver hhands hfirst hrunning
    exact ⟨step, earlier, _, hrun, hscheduled, hhands, hfirst, hrunning, reply,
      hhanded⟩

end Witness

end TickKernel
