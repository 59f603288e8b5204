/-
The shapes that calls have for the tasks.  Most calls leave every task where it
is.  The others are a scheduling point or a switch, or the running task stops in
them, or they serve the task that has waited longest for an object, or somebody
else is resumed, set aside, registered or entered.  What holds of tasks over a
history is proved shape by shape, and not call by call.
-/
import TickKernel.Proofs.History

namespace TickKernel

namespace Call

/-- The object that the call is about. -/
def object : Call → Option Resource
  | .acquire id _ | .release id => some (.mutex id)
  | .send id _ _ | .receive id _ => some (.queue id)
  | _ => none

/-- How long the call may keep its caller waiting. -/
def timeout : Call → Tick
  | .delay ticks | .acquire _ ticks | .send _ _ ticks | .receive _ ticks =>
      ticks
  | _ => 0

/-- The reply that the call has for a task which waited for it. -/
def brings : Call → Option Reply
  | .release _ | .receive _ _ => some Reply.done
  | .send _ message _ => some (Reply.ok message)
  | _ => none

/-- How far the call moves the clock of a kernel that schedules. -/
def lasts : Call → Tick
  | .advance ticks => ticks
  | .beat => 1
  | _ => 0

/-- Whether the call may leave every task where it is, scheduling points
aside. -/
def mayRest : Call → Bool
  | .tick | .schedule | .beat | .switchOver | .switchFrom _ | .tearDown => false
  | _ => true

end Call

namespace View

/-! ### Shapes -/

/-- Every task stays where it is, and mutexes that the call is not about stay
with their owners. -/
structure Rests (v : View) (call : Call) (w : View) : Prop where
  taskCount : w.taskCount = v.taskCount
  idle : w.idle = v.idle
  running : w.running = v.running
  scheduled : w.scheduled = v.scheduled
  ready : w.ready = v.ready
  waiting : w.waiting = v.waiting
  blocked : w.blocked = v.blocked
  started_iff : w.phase = .started ↔ v.phase = .started
  task : ∀ id, w.task id = { v.task id with stack := (w.task id).stack }
  stack : (∀ id index word, call ≠ .poke id index word) → v.SameStacks w
  clock : v.phase = .started → (∀ ticks, call ≠ .setClock ticks) →
    w.platform.clock = v.platform.clock + call.lasts
  requests : v.phase = .started → w.platform.requests = v.platform.requests
  mutex : ∀ id, v.Created (.mutex id) → call.object ≠ some (.mutex id) →
    w.owner id = v.owner id ∧ w.level id = v.level id
  free : ∀ id, ¬v.Created (.mutex id) → w.Created (.mutex id) →
    w.owner id = none

/-- The ways in which the running task stops, before anybody takes its place. -/
inductive Stops (v : View) (id : TaskId) : Call → Reply → View → Prop
  | dozes {ticks : Tick} {reply : Reply} (hticks : ticks ≠ 0)
      (hmax : ticks ≤ Tick.maxTimeout) :
      Stops v id (.delay ticks) reply (v.dozing id (v.platform.clock + ticks))
  | parks {call : Call} {reply : Reply} {resource : Resource} (side : Waiters)
      (message : Message) (hobject : call.object = some resource)
      (hreply : reply.status = .timeout) (htimeout : call.timeout ≠ 0)
      (hmax : call.timeout ≤ Tick.maxTimeout) :
      Stops v id call reply
        (v.parked id resource side message (v.platform.clock + call.timeout))
  | quits {call : Call} {reply : Reply} {status : TaskStatus}
      (hcall : call = .suspend id ∧ status = .suspended ∨
        call = .finish ∧ status = .finished) :
      Stops v id call reply (v.setTask id fun task => { task with status })

/-- The task that has waited longest for the object of the call leaves it,
before it is woken. -/
structure Serves (v : View) (call : Call) (id : TaskId) (u : View) : Prop where
  first : ∃ resource rest, call.object = some resource ∧
    v.blocked resource = id :: rest
  running : v.running ≠ none
  other : v.running ≠ some id
  lists : u =
    { v.unblocked id with owner := u.owner, level := u.level, ring := u.ring }
  mutex : ∀ mutex, call.object ≠ some (.mutex mutex) →
    u.owner mutex = v.owner mutex ∧ u.level mutex = v.level mutex

/-- What becomes of the tasks in a call. -/
inductive Shape (v : View) : Call → Reply → View → Prop
  | rests {call : Call} {reply : Reply} {w : View} (hcall : call.mayRest = true)
      (hw : v.Rests call w) : Shape v call reply w
  | ticks {call : Call} {reply : Reply} {w : View}
      (hcall : call = .tick ∨ call = .schedule)
      (hw : v.Ticked w) : Shape v call reply w
  | beats {reply : Reply} {u : View} (saved : Option StackPointer)
      (hu : { v with platform := v.platform.advance 1 }.Ticked u) :
      Shape v .beat reply (u.switchedFrom saved)
  | switches {call : Call} {reply : Reply} (saved : Option StackPointer)
      (hcall : call = .switchOver ∨ call = .switchFrom saved) :
      Shape v call reply (v.switchedFrom saved)
  | stops {call : Call} {reply : Reply} {id : TaskId} {u w : View}
      (hrunning : v.running = some id) (hready : id ∈ v.ready)
      (hidle : v.idle ≠ some id)
      (hu : v.Stops id call reply u) (ho : u.Orderly (some id))
      (hw : u.GaveUp id w) :
      Shape v call reply w
  | serves {call : Call} {reply brought : Reply} {id : TaskId} {u w : View}
      (hu : v.Serves call id u) (hbrings : call.brings = some brought)
      (hreply : reply.status = .success) (ho : u.Orderly none)
      (hw : u.Woke id brought w) : Shape v call reply w
  | resumes {id : TaskId} {reply : Reply} (hreg : v.Registered id)
      (hstatus : (v.task id).status = .suspended) :
      Shape v (.resume id) reply (v.readied id)
  | shelves {id : TaskId} {reply : Reply} (hidle : v.idle ≠ some id)
      (hnext : v.next ≠ some id) : Shape v (.suspend id) reply (v.shelved id)
  | enrols {spec : TaskSpec} {reply : Reply} {id : TaskId} {stack : Stack}
      {offset : Nat}
      (hid : id.val = v.taskCount)
      (hphase : v.phase = .prepared ∨ v.phase = .populated) :
      Shape v (.register spec) reply
        (v.enrolled id (v.newcomer id spec stack offset) spec.mode)
  | enters {reply : Reply} (first : TaskId) (platform : Platform)
      (hphase : v.phase = .populated) (hfirst : v.ready.head? = some first) :
      Shape v .start reply (v.entered first platform)
  | clears {reply : Reply} : Shape v .tearDown reply (blank v.platform)

section Shape

variable {u v w : View} {call : Call} {answer : Answer} {reply : Reply}

/-- Tasks do not notice that time goes by. -/
theorem Orderly.advanced (h : v.Orderly none) :
    { v with platform := v.platform.advance 1 }.Orderly none :=
  h.congr rfl fun _ => Task.Alike.refl _

/-! ### Calls that leave tasks alone -/

/-- Nothing at all happens. -/
theorem Rests.refl (hlasts : call.lasts = 0) : v.Rests call v :=
  ⟨rfl, rfl, rfl, rfl, rfl, rfl, rfl, Iff.rfl, fun _ => rfl,
    fun _ => SameStacks.refl v, fun _ _ => by rw [hlasts, UInt32.add_zero],
    fun _ => rfl, fun _ _ _ => ⟨rfl, rfl⟩,
    fun _ hnew hcreated => absurd hcreated hnew⟩

/-- Something happens to the platform only. -/
theorem Rests.platform (platform : Platform)
    (hclock : v.phase = .started → (∀ ticks, call ≠ .setClock ticks) →
      platform.clock = v.platform.clock + call.lasts)
    (hrequests : v.phase = .started → platform.requests = v.platform.requests) :
    v.Rests call { v with platform } :=
  ⟨rfl, rfl, rfl, rfl, rfl, rfl, rfl, Iff.rfl, fun _ => rfl,
    fun _ => SameStacks.refl v, hclock, hrequests, fun _ _ _ => ⟨rfl, rfl⟩,
    fun _ hnew hcreated => absurd hcreated hnew⟩

theorem Rests.setOwner {mutex : MutexId} (owner : Option TaskId)
    (level : UInt16) (hobject : call.object = some (.mutex mutex))
    (hlasts : call.lasts = 0) :
    v.Rests call (v.setOwner mutex owner level) := by
  refine ⟨rfl, rfl, rfl, rfl, rfl, rfl, rfl, Iff.rfl, fun _ => rfl,
    fun _ => SameStacks.refl v, fun _ _ => by rw [hlasts, UInt32.add_zero]; rfl,
    fun _ => rfl, fun id _ hother => ?_,
    fun _ hnew hcreated => absurd hcreated hnew⟩
  have hne : mutex ≠ id := fun heq => hother (heq ▸ hobject)
  exact ⟨if_neg hne, if_neg hne⟩

theorem Rests.setRing (queue : QueueId) (ring : Ring)
    (hlasts : call.lasts = 0) :
    v.Rests call (v.setRing queue ring) :=
  ⟨rfl, rfl, rfl, rfl, rfl, rfl, rfl, Iff.rfl, fun _ => rfl,
    fun _ => SameStacks.refl v, fun _ _ => by rw [hlasts, UInt32.add_zero]; rfl,
    fun _ => rfl, fun _ _ _ => ⟨rfl, rfl⟩,
    fun _ hnew hcreated => absurd hcreated hnew⟩

theorem Prepared.rests {result : Except Error Unit} (hw : v.Prepared result w) :
    v.Rests .setUp w := by
  cases hw with
  | refused => exact .refl rfl
  | prepared hphase =>
      have hnot : v.phase ≠ .started := by
        rw [hphase]
        decide
      exact ⟨rfl, rfl, rfl, rfl, rfl, rfl, rfl, iff_of_false (by simp) hnot,
        fun _ => rfl, fun _ => SameStacks.refl v,
        fun hstarted => absurd hstarted hnot,
        fun hstarted => absurd hstarted hnot, fun _ _ _ => ⟨rfl, rfl⟩,
        fun _ hnew hcreated => absurd hcreated hnew⟩

/-- A new mutex is none of those that were there before, and free. -/
theorem MutexMade.rests {made : Except Error MutexId}
    (hw : v.MutexMade made w) :
    v.Rests .createMutex w := by
  cases hw with
  | refused => exact .refl rfl
  | made hroom =>
      refine ⟨rfl, rfl, rfl, rfl, rfl, rfl, rfl, Iff.rfl, fun _ => rfl,
        fun _ => SameStacks.refl v, fun _ _ => (UInt32.add_zero _).symm,
        fun _ => rfl, fun id hcreated _ => ?_,
        fun id hnew hcreated => if_pos (Fin.ext ?_)⟩
      · have hne : (⟨v.mutexCount, hroom⟩ : MutexId) ≠ id := by
          rintro rfl
          exact Nat.lt_irrefl _ hcreated
        exact ⟨if_neg hne, if_neg hne⟩
      · have hlt : id.val < v.mutexCount + 1 := hcreated
        have hge : ¬id.val < v.mutexCount := hnew
        change v.mutexCount = id.val
        omega

theorem QueueMade.rests {capacity : UInt64} {made : Except Error QueueId}
    (hw : v.QueueMade capacity made w) : v.Rests (.createQueue capacity) w := by
  cases hw with
  | refused => exact .refl rfl
  | made =>
      exact ⟨rfl, rfl, rfl, rfl, rfl, rfl, rfl, Iff.rfl, fun _ => rfl,
        fun _ => SameStacks.refl v, fun _ _ => (UInt32.add_zero _).symm,
        fun _ => rfl, fun _ _ _ => ⟨rfl, rfl⟩,
        fun _ hnew hcreated => absurd hcreated hnew⟩

theorem rests_poke (v : View) (id : TaskId) (index : Nat) (word : Word) :
    v.Rests (.poke id index word) (v.setTask id fun task => { task with
      stack := { task.stack with
        words := task.stack.words.setIfInBounds index word } }) := by
  refine ⟨rfl, rfl, rfl, rfl, rfl, rfl, rfl, Iff.rfl, fun other => ?_,
    fun hcall => absurd rfl (hcall id index word),
    fun _ _ => (UInt32.add_zero _).symm, fun _ => rfl, fun _ _ _ => ⟨rfl, rfl⟩,
    fun _ hnew hcreated => absurd hcreated hnew⟩
  simp only [setTask]
  split
  · rename_i heq
    rw [← heq]
  · rfl

/-! ### Calls that move a task -/

theorem Delayed.shape {ticks : Tick} {result : Except Error Unit}
    (hw : v.Delayed ticks result w) (h : v.Orderly none) :
    v.Shape (.delay ticks) reply w := by
  cases hw with
  | refused => exact .rests rfl (.refl rfl)
  | nothing => exact .rests rfl (.refl rfl)
  | @slept current _ hrunning hready hidle hw hticks hmax =>
      refine .stops hrunning hready hidle (.dozes hticks hmax) ?_ hw
      have hflag := (h.parked.unblocked_task current (h.not_blocked hready)).1
      exact h.setTask hready hidle rfl (fun hne => absurd rfl hne) (by simp) rfl
        hflag.symm rfl

/-- The running task turns to something that is no wait. -/
theorem Orderly.quits {id : TaskId} (h : v.Orderly none) (hready : id ∈ v.ready)
    (hidle : v.idle ≠ some id) {status : TaskStatus}
    (hactive : status ≠ .active) :
    (v.setTask id fun task => { task with status }).Orderly (some id) :=
  h.setTask hready hidle rfl
    (fun _ => h.queued.deadline_eq id
      (h.not_waiting_of_ready hready (Option.some_ne_none id).symm)) hactive
        rfl rfl rfl

theorem Suspended.shape {id : TaskId} {result : Except Error Unit}
    (hw : v.Suspended id result w) (h : v.Orderly none) :
    v.Shape (.suspend id) reply w := by
  cases hw with
  | refused => exact .rests rfl (.refl rfl)
  | stopped hrunning hready hidle hw =>
      exact .stops hrunning hready hidle (.quits (Or.inl ⟨rfl, rfl⟩))
        (h.quits hready hidle (by decide)) hw
  | setAside hidle hnext => exact .shelves hidle hnext

theorem Resumed.shape {id : TaskId} {result : Except Error Unit}
    (hw : v.Resumed id result w) : v.Shape (.resume id) reply w := by
  cases hw with
  | refused => exact .rests rfl (.refl rfl)
  | readied hreg hstatus => exact .resumes hreg hstatus

theorem Finished.shape (hw : v.Finished w) (h : v.Orderly none) :
    v.Shape .finish reply w := by
  cases hw with
  | stopped hrunning hready hidle hw =>
      exact .stops hrunning hready hidle (.quits (Or.inr ⟨rfl, rfl⟩))
        (h.quits hready hidle (by decide)) hw

theorem Enrolled.shape {spec : TaskSpec} {result : Except Error TaskId}
    (hw : v.Enrolled spec result w) : v.Shape (.register spec) reply w := by
  cases hw with
  | refused => exact .rests rfl (.refl rfl)
  | enrolled hroom hphase => exact .enrols rfl hphase

theorem Started.shape {result : Except Error Unit} (hw : v.Started result w) :
    v.Shape .start reply w := by
  cases hw with
  | refused => exact .rests rfl (.refl rfl)
  | failed error hphase =>
      have hnot : v.phase ≠ .started := by
        rw [hphase]
        decide
      exact .rests rfl (.platform _ (fun hstarted => absurd hstarted hnot)
        fun hstarted => absurd hstarted hnot)
  | entered first hphase _ hfirst => exact .enters first _ hphase hfirst

theorem Acquired.shape {mutex : MutexId} {timeout : Tick}
    {result : Except Error Unit} (hw : v.Acquired mutex timeout result w)
    (h : v.Orderly none) :
    v.Shape (.acquire mutex timeout) (Answer.unit result).toReply w := by
  cases hw with
  | refused => exact .rests rfl (.refl rfl)
  | taken => exact .rests rfl (.setOwner _ _ rfl rfl)
  | again => exact .rests rfl (.setOwner _ _ rfl rfl)
  | parked hrunning hcreated howner hother hready hidle hw htimeout hmax =>
      refine .stops hrunning hready hidle
        (.parks .nobody 0 rfl rfl htimeout hmax) ?_ hw
      refine h.queuedUp .nobody 0 _ hready hidle hcreated (fun other heq => ?_)
        fun queue heq => by cases heq
      obtain rfl := Resource.mutex.inj heq
      exact ⟨howner, hother⟩

/-- The first task that waits for a mutex gets it from its owner. -/
theorem Owned.serves {mutex : MutexId} {current next : TaskId}
    {rest : List TaskId} (h : v.Owned) (hrunning : v.running = some current)
    (howner : v.owner mutex = some current)
    (hnext : v.blocked (.mutex mutex) = next :: rest) :
    v.Serves (.release mutex) next (v.handedOver mutex next) := by
  refine ⟨⟨_, rest, rfl, hnext⟩, ?_, ?_, rfl, fun other hother => ?_⟩
  · rw [hrunning]
    exact Option.some_ne_none current
  · rw [hrunning]
    rintro heq
    obtain rfl := Option.some.inj heq
    refine h.owner_not_blocked mutex current howner ?_
    rw [hnext]
    exact List.mem_cons_self
  · have hne : mutex ≠ other := by
      rintro rfl
      exact hother rfl
    exact ⟨if_neg hne, if_neg hne⟩

theorem Released.shape {mutex : MutexId} {result : Except Error Unit}
    (hw : v.Released mutex result w) (h : v.Orderly none) :
    v.Shape (.release mutex) (Answer.unit result).toReply w := by
  cases hw with
  | refused => exact .rests rfl (.refl rfl)
  | once => exact .rests rfl (.setOwner _ _ rfl rfl)
  | freed => exact .rests rfl (.setOwner _ _ rfl rfl)
  | passedOn hrunning howner hlevel hnext hw =>
      exact .serves (h.owned.serves hrunning howner hnext) rfl rfl
        (h.handedOver _) hw

/-- A running task that is blocked on nothing is not the first one blocked. -/
theorem Parked.running_ne {resource : Resource} {current id : TaskId}
    {rest : List TaskId} (h : v.Parked) (hrunning : v.running = some current)
    (hfree : (v.task current).waitsFor = none)
    (hfirst : v.blocked resource = id :: rest) :
    v.running ≠ some id := by
  rw [hrunning]
  rintro heq
  obtain rfl := Option.some.inj heq
  refine h.not_mem_blocked hfree resource ?_
  rw [hfirst]
  exact List.mem_cons_self

/-- The first task that waits at a queue is served by one that does not wait. -/
theorem Parked.serves {queue : QueueId} {current id : TaskId}
    {rest : List TaskId} (h : v.Parked) (hrunning : v.running = some current)
    (hfree : (v.task current).waitsFor = none)
    (hnext : v.blocked (.queue queue) = id :: rest)
    (hobject : call.object = some (.queue queue)) (ring : QueueId → Ring) :
    v.Serves call id { v.unblocked id with ring } := by
  refine ⟨⟨_, rest, hobject, hnext⟩, ?_, h.running_ne hrunning hfree hnext, rfl,
    fun _ _ => ⟨rfl, rfl⟩⟩
  rw [hrunning]
  exact Option.some_ne_none current

theorem Sent.shape {queue : QueueId} {message : Message} {timeout : Tick}
    {result : Except Error Unit} (hw : v.Sent queue message timeout result w)
    (h : v.Orderly none) :
    v.Shape (.send queue message timeout) (Answer.unit result).toReply w := by
  cases hw with
  | refused => exact .rests rfl (.refl rfl)
  | handed hrunning hcreated hside hnext hw hfree =>
      exact .serves (h.parked.serves hrunning hfree hnext rfl v.ring) rfl rfl
        h.unblocked hw
  | stored => exact .rests rfl (.setRing _ _ rfl)
  | parked hrunning hcreated hside hfull hready hidle hw htimeout hmax =>
      refine .stops hrunning hready hidle
        (.parks .senders message rfl rfl htimeout hmax) ?_ hw
      refine h.queuedUp .senders message _ hready hidle hcreated
        (fun mutex heq => by cases heq) fun other heq => ?_
      obtain rfl := Resource.queue.inj heq
      exact Or.inl ⟨rfl, hfull⟩

theorem Received.shape {queue : QueueId} {timeout : Tick}
    {result : Except Error Message} (hw : v.Received queue timeout result w)
    (h : v.Orderly none) :
    v.Shape (.receive queue timeout) (Answer.message result).toReply w := by
  cases hw with
  | refused => exact .rests rfl (.refl rfl)
  | taken => exact .rests rfl (.setRing _ _ rfl)
  | refilled hrunning hcreated hpop hside hnext hw hfree =>
      exact .serves (h.parked.serves hrunning hfree hnext rfl _) rfl rfl
        (h.refilled hcreated hpop hside) hw
  | parked hrunning hcreated hempty hready hidle hw htimeout hmax =>
      refine .stops hrunning hready hidle
        (.parks .receivers 0 rfl rfl htimeout hmax) ?_ hw
      refine h.queuedUp .receivers 0 _ hready hidle hcreated
        (fun mutex heq => by cases heq) fun other heq => ?_
      obtain rfl := Resource.queue.inj heq
      exact Or.inr ⟨rfl, hempty⟩

/-- A call by number is the call that it stands for. -/
theorem Performs.direct (hw : v.Performs call answer w) :
    ∃ other, v.Performs call.direct other w ∧
      other.toReply = answer.toReply := by
  cases call with
  | serve number args =>
      cases hw with
      | @serve _ _ direct other _ hcall hw =>
          have hdirect : (Call.serve number args).direct = direct := by
            rw [Call.direct, hcall, Option.getD_some]
          rw [hdirect]
          exact ⟨other, hw, rfl⟩
      | unserved hcall reply =>
          have hdirect : (Call.serve number args).direct =
              .serve number args := by
            rw [Call.direct, hcall, Option.getD_none]
          rw [hdirect]
          exact ⟨_, .unserved hcall reply, rfl⟩
  | _ => exact ⟨answer, hw, rfl⟩

/-- Nothing is left once the kernel is torn down. -/
theorem Performs.tornDown (hw : v.Performs call answer w)
    (hcall : call.direct = .tearDown) :
    w = blank v.platform := by
  obtain ⟨other, hw, -⟩ := hw.direct
  rw [hcall] at hw
  cases hw
  rfl

theorem Performs.ne_tearDown {resource : Resource}
    (hw : v.Performs call answer w) (hcreated : w.Created resource) :
    call.direct ≠ .tearDown := by
  intro hcall
  rw [hw.tornDown hcall] at hcreated
  cases resource <;> exact absurd hcreated (Nat.not_lt_zero _)

/-- Every call has one of the shapes. -/
theorem Performs.shape (hw : v.Performs call answer w) (h : v.Orderly none) :
    v.Shape call.direct answer.toReply w := by
  induction hw with
  | setUp hw => exact .rests rfl hw.rests
  | register hw => exact hw.shape
  | start hw => exact hw.shape
  | tearDown => exact .clears
  | advance ticks =>
      exact .rests rfl (.platform _ (fun _ _ => rfl) fun _ => rfl)
  | setClock ticks =>
      exact .rests rfl
        (.platform _ (fun _ hcall => absurd rfl (hcall ticks)) fun _ => rfl)
  | setHooks setupFailure entryFailure =>
      exact .rests rfl
        (.platform _ (fun _ _ => (UInt32.add_zero _).symm) fun _ => rfl)
  | tick hw => exact .ticks (Or.inl rfl) hw
  | schedule hw => exact .ticks (Or.inr rfl) hw
  | switchOver switched saved => exact .switches saved (Or.inl rfl)
  | beat switched saved hu => exact .beats saved hu
  | @switchFrom saved resumed => exact .switches saved (Or.inr rfl)
  | exitRoutine => exact .rests rfl (.refl rfl)
  | delay hw => exact hw.shape h
  | spin result platform hstarted =>
      refine .rests rfl (.platform _ (fun hphase _ => ?_) fun hphase => ?_)
      · rw [hstarted hphase]
        exact (UInt32.add_zero _).symm
      · rw [hstarted hphase]
  | suspend hw => exact hw.shape h
  | resume hw => exact hw.shape
  | finish hw => exact hw.shape h
  | createMutex hw => exact .rests rfl hw.rests
  | acquire hw => exact hw.shape h
  | release hw => exact hw.shape h
  | createQueue hw => exact .rests rfl hw.rests
  | send hw => exact hw.shape h
  | receive hw => exact hw.shape h
  | poke id index word => exact .rests rfl (rests_poke v id index word)
  | serve hcall hw ih =>
      have hdirect := ih
      rw [Call.direct_ofService hcall] at hdirect
      change v.Shape ((Call.ofService _ _).getD _) _ _
      rw [hcall]
      exact hdirect
  | unserved hcall reply =>
      simp only [Call.direct, hcall, Option.getD_none]
      exact .rests rfl (.refl rfl)

end Shape

end View

end TickKernel
