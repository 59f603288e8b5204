/-
Errors leave no trace.  A call that reports an error has looked at the kernel
and changed nothing, with two exceptions.  A call on a mutex or a queue that was
ready to wait reports a timeout when it has put its caller to sleep, and only
then.  And a start that could not enter the first task has begun scheduling all
the same.
-/
import TickKernel.Proofs.Deadlines

namespace TickKernel

/-! ### Errors and their effects -/

/-- Whether the answer reports an error. -/
def Answer.isError (answer : Answer) : Bool :=
  !answer.toReply.status.isSuccess

theorem Answer.isError_unit_error (error : Error) :
    (Answer.unit (.error error)).isError = true := by
  cases error <;> rfl

/-- Whether the call waits for a mutex or a queue if it has to. -/
def Call.awaits : Call → Bool
  | .acquire _ _ | .send _ _ _ | .receive _ _ => true
  | _ => false

/-- Whether the call may put its caller to sleep and report a timeout. -/
def Call.mayBlock (call : Call) : Bool :=
  call.awaits && call.timeout != 0

/-- The kernel with one more attempt to bring its platform up. -/
def Kernel.broughtUp (k : Kernel) : Kernel :=
  { k with platform.setups := k.platform.setups + 1 }

namespace Step

/-- The call was ready to wait for a mutex or a queue, and reports a timeout. -/
def timesOut (step : Step) : Bool :=
  step.call.direct.mayBlock && step.answer.toReply.status == .timeout

/-- The platform came up, but its first task could not be entered. -/
def failsToEnter (step : Step) : Bool :=
  step.call == .start && step.before.phase == .populated &&
    step.before.platform.setupFailure.isNone &&
    step.before.platform.entryFailure.isSome

/-- The call puts its caller to sleep. -/
def Sleeps (step : Step) : Prop :=
  ∃ id, step.before.running = some id ∧
    (step.before.task id).status ≠ .waiting ∧
    (step.after.task id).status = .waiting

/-- An error tells that nothing was done, and a timeout that the caller
sleeps. -/
structure Harmless (step : Step) : Prop where
  unchanged : step.answer.isError = true → step.timesOut = false →
    step.failsToEnter = false → step.after = step.before ∨
      step.call = .start ∧ step.after = step.before.broughtUp
  sleeps_iff : step.call.direct.awaits = true →
    (step.timesOut = true ↔ step.Sleeps)

end Step

/-! ### Rules that refuse -/

namespace Kernel

variable {α β : Type} {k k' : Kernel} {mayBlock : Bool}

/-- An error that the rule ends with leaves the kernel as it was, unless it is a
timeout and the rule may put its caller to sleep. -/
def Refuses (k : Kernel) (mayBlock : Bool) (result : Except Halt (Verdict α)) :
    Prop :=
  ∀ error k', result = .ok (k'.refuse error) → k' = k ∨
    mayBlock = true ∧ error = .timeout

namespace Refuses

theorem refuse (error : Error) :
    k.Refuses mayBlock (α := α) (.ok (k.refuse error)) := by
  intro _ _ heq
  cases heq
  exact Or.inl rfl

theorem accept (k' : Kernel) (value : α) :
    k.Refuses mayBlock (.ok (k'.accept value)) := by
  intro _ _ heq
  cases heq

theorem halt (stop : Halt) : k.Refuses mayBlock (α := α) (.error stop) := by
  intro _ _ heq
  cases heq

/-- Whatever the kernel has become, a caller that sleeps is told of a
timeout. -/
theorem timeout (k' : Kernel) (h : mayBlock = true) :
    k.Refuses mayBlock (α := α) (.ok (k'.refuse .timeout)) := by
  intro _ _ heq
  cases heq
  exact Or.inr ⟨h, rfl⟩

theorem bind {result : Except Halt β} {rest : β → Except Halt (Verdict α)}
    (h : ∀ b, k.Refuses mayBlock (rest b)) :
    k.Refuses mayBlock (result >>= rest) := by
  intro error k' heq
  obtain ⟨b, -, hrest⟩ := eq_ok_of_bind heq
  exact h b error k' hrest

/-- An error seen in the answer of a call is one that its rule ended with. -/
theorem answer {result : Except Halt (Verdict α)}
    {toAnswer : Except Error α → Answer} {answer : Answer}
    (h : k.Refuses mayBlock result)
    (hok : answering toAnswer <$> result = .ok (answer, k'))
    {value : α → UInt64}
    (htells : ∀ outcome,
      (toAnswer outcome).toReply = Reply.ofResult (outcome.map value))
    (herror : answer.isError = true) :
    k' = k ∨ mayBlock = true ∧ answer.toReply.status = .timeout := by
  obtain ⟨⟨outcome, k₁⟩, hresult, hanswer⟩ := eq_ok_of_map hok
  cases hanswer
  rw [Answer.isError, htells] at herror
  rw [htells]
  cases outcome with
  | ok _ => cases herror
  | error error =>
      refine (h error k₁ hresult).imp_right ?_
      rintro ⟨hblock, rfl⟩
      exact ⟨hblock, rfl⟩

end Refuses

/-! ### The calls -/

theorem refuses_setUp : k.Refuses false (.ok k.setUp) := by
  unfold setUp
  split
  · exact .accept _ ()
  · exact .refuse .alreadyRunning

theorem refuses_register (spec : TaskSpec) :
    k.Refuses false (k.register spec) := by
  unfold register
  cases k.admission spec with
  | error error => exact .refuse error
  | ok id =>
      dsimp only
      split
      · exact .halt _
      · exact .refuse _
      · exact .accept _ id

theorem refuses_delay (ticks : Tick) : k.Refuses false (k.delay ticks) := by
  unfold delay
  split
  · exact .refuse .notRunning
  cases Tick.acceptTimeout ticks with
  | error error => exact .refuse error
  | ok _ =>
      dsimp only
      split
      · exact .accept k ()
      split
      · exact .refuse .invalid
      · exact .bind fun k' => .accept k' ()

theorem refuses_spin (ticks : Tick) : k.Refuses false (.ok (k.spin ticks)) := by
  unfold spin
  split
  · exact .refuse .alreadyRunning
  · exact .accept _ ()

theorem refuses_suspend (id : TaskId) : k.Refuses false (k.suspend id) := by
  unfold suspend
  split
  · exact .refuse .unknownTask
  split
  · exact .refuse .suspendIdle
  cases (k.task id).status with
  | suspended | finished => exact .refuse .notSuspendable
  | active =>
      dsimp only
      split
      · exact .bind fun k' => .accept k' ()
      · exact .refuse .notSuspendable
  | ready | waiting => exact .bind fun k' => .accept _ ()

theorem refuses_resume (id : TaskId) : k.Refuses false (k.resume id) := by
  unfold resume
  split
  · exact .refuse .unknownTask
  split
  · exact .refuse .notSuspended
  · exact .bind fun k' => .accept k' ()

theorem refuses_createMutex : k.Refuses false (.ok k.createMutex) := by
  unfold createMutex
  split
  · exact .accept _ _
  · exact .refuse .poolEmpty

theorem refuses_acquire (id : MutexId) (timeout : Tick) :
    k.Refuses (timeout != 0) (k.acquire id timeout) := by
  unfold acquire
  split
  · exact .refuse .unknownMutex
  cases Tick.acceptTimeout timeout with
  | error error => exact .refuse error
  | ok _ =>
      cases k.running with
      | none => exact .refuse .notRunning
      | some current =>
          dsimp only
          cases (k.mutex id).owner with
          | none => exact .accept _ ()
          | some owner =>
              dsimp only
              split
              · split
                · exact .refuse .mutexOverflow
                · exact .accept _ ()
              split
              · exact .refuse .timeout
              rename_i htimeout
              split
              · exact .refuse .invalid
              · exact .bind fun _ => .bind fun k' =>
                  .timeout k' (bne_iff_ne.mpr htimeout)

theorem refuses_release (id : MutexId) : k.Refuses false (k.release id) := by
  unfold release
  split
  · exact .refuse .unknownMutex
  cases k.running with
  | none => exact .refuse .notRunning
  | some current =>
      refine .bind fun _ => ?_
      split
      · exact .bind fun k' => .accept k' ()
      · exact .accept _ ()

theorem refuses_createQueue (capacity : UInt64) :
    k.Refuses false (.ok (k.createQueue capacity)) := by
  unfold createQueue
  split
  · exact .refuse .queueCapacity
  split
  · exact .accept _ _
  · exact .refuse .poolEmpty

theorem refuses_awaitQueue (id : QueueId) (current : TaskId) (side : Waiters)
    (message : Option Message) {timeout : Tick} (htimeout : timeout ≠ 0) :
    k.Refuses (timeout != 0) (α := α)
      (k.awaitQueue id current side message timeout) :=
  .bind fun k' => .timeout k' (bne_iff_ne.mpr htimeout)

theorem refuses_sendToRing (id : QueueId) (current : TaskId) (message : Message)
    (timeout : Tick) :
    k.Refuses (timeout != 0) (k.sendToRing id current message timeout) := by
  unfold sendToRing
  dsimp only
  split
  swap
  · exact .accept _ ()
  split
  · exact .refuse .queueFull
  rename_i htimeout
  split
  · exact .refuse .invalid
  · exact refuses_awaitQueue id current .senders (some message) htimeout

theorem refuses_send (id : QueueId) (message : Message) (timeout : Tick) :
    k.Refuses (timeout != 0) (k.send id message timeout) := by
  unfold send
  split
  · exact .refuse .unknownQueue
  cases Tick.acceptTimeout timeout with
  | error error => exact .refuse error
  | ok _ =>
      cases k.running with
      | none => exact .refuse .notRunning
      | some current =>
          refine .bind fun _ => ?_
          cases k.popWaiter? id .receivers with
          | none => exact refuses_sendToRing id current message timeout
          | some popped => exact .bind fun k' => .accept k' ()

theorem refuses_receive (id : QueueId) (timeout : Tick) :
    k.Refuses (timeout != 0) (k.receive id timeout) := by
  unfold receive
  split
  · exact .refuse .unknownQueue
  cases Tick.acceptTimeout timeout with
  | error error => exact .refuse error
  | ok _ =>
      cases k.running with
      | none => exact .refuse .notRunning
      | some current =>
          refine .bind fun _ => ?_
          cases (k.queue id).ring.pop? with
          | some popped => exact .bind fun k' => .accept k' popped.1
          | none =>
              dsimp only
              split
              · exact .refuse .queueEmpty
              rename_i htimeout
              split
              · exact .refuse .invalid
              · exact refuses_awaitQueue id current .receivers none htimeout

/-! ### What an error leaves behind -/

variable {call : Call} {answer : Answer}

/-- A call that is neither a start nor made by number. -/
theorem eq_of_isError_direct (hperform : k.perform call = .ok (answer, k'))
    (hstart : call ≠ .start) (hserve : ∀ number args, call ≠ .serve number args)
    (herror : answer.isError = true) :
    k' = k ∨ call.mayBlock = true ∧ answer.toReply.status = .timeout := by
  have hunit : ∀ outcome : Except Error Unit,
      (Answer.unit outcome).toReply = Reply.ofResult (outcome.map fun _ => 0) :=
    fun _ => rfl
  cases call with
  | setUp => exact refuses_setUp.answer hperform hunit herror
  | register spec =>
      exact (refuses_register spec).answer hperform (fun _ => rfl) herror
  | start => exact absurd rfl hstart
  | delay ticks => exact (refuses_delay ticks).answer hperform hunit herror
  | spin ticks => exact (refuses_spin ticks).answer hperform hunit herror
  | suspend id => exact (refuses_suspend id).answer hperform hunit herror
  | resume id => exact (refuses_resume id).answer hperform hunit herror
  | createMutex =>
      exact refuses_createMutex.answer hperform (fun _ => rfl) herror
  | acquire id timeout =>
      exact (refuses_acquire id timeout).answer hperform hunit herror
  | release id => exact (refuses_release id).answer hperform hunit herror
  | createQueue capacity =>
      exact (refuses_createQueue capacity).answer hperform (fun _ => rfl) herror
  | send id message timeout =>
      exact (refuses_send id message timeout).answer hperform hunit herror
  | receive id timeout =>
      have hmessage : ∀ outcome : Except Error Message,
          (Answer.message outcome).toReply =
            Reply.ofResult (outcome.map fun m => m) :=
        fun outcome => by cases outcome <;> rfl
      exact (refuses_receive id timeout).answer hperform hmessage herror
  | serve number args => exact absurd rfl (hserve number args)
  | tearDown | advance | setClock | setHooks | switchOver | switchFrom
  | exitRoutine | poke =>
      cases hperform
      cases herror
  | tick | schedule | beat | finish =>
      obtain ⟨_, -, hanswer⟩ := eq_ok_of_map hperform
      cases hanswer
      cases herror

/-- A service is refused as the call that it stands for. -/
theorem eq_of_isError (hperform : k.perform call = .ok (answer, k'))
    (hstart : call ≠ .start) (herror : answer.isError = true) :
    k' = k ∨ call.direct.mayBlock = true ∧ answer.toReply.status =
      .timeout := by
  by_cases hserve : ∃ number args, call = .serve number args
  swap
  · have hdirect : call.direct = call := by
      cases call with
      | serve number args => exact absurd ⟨number, args, rfl⟩ hserve
      | _ => rfl
    rw [hdirect]
    exact eq_of_isError_direct hperform hstart
      (fun number args heq => hserve ⟨number, args, heq⟩) herror
  obtain ⟨number, args, rfl⟩ := hserve
  cases hcall : Call.ofService number args with
  | none =>
      obtain ⟨reply, hrefused⟩ := perform_serve_of_none (k := k) hcall
      rw [hrefused] at hperform
      cases hperform
      exact Or.inl rfl
  | some direct =>
      rw [perform_serve hcall] at hperform
      obtain ⟨⟨other, k₁⟩, hdirect, hanswer⟩ := eq_ok_of_map hperform
      cases hanswer
      have hne : direct ≠ .start := by
        rintro rfl
        cases Call.isService_of_ofService hcall
      have hother : other.isError = true := herror
      rw [Call.direct, hcall, Option.getD_some]
      have hend :=
        eq_of_isError_direct hdirect hne (Call.ofService_ne_serve hcall) hother
      exact hend

/-- The start of a kernel that has tasks. -/
def launch (k : Kernel) : Verdict Unit :=
  match Platform.outcome k.platform.setupFailure with
  | .error error => k.broughtUp.refuse error
  | .ok () =>
      match k.ready.head with
      | none => k.broughtUp.refuse .noTask
      | some first => k.broughtUp.enter first

theorem start_eq (k : Kernel) :
    k.start = match k.phase with
      | .blank => k.refuse .notPrepared
      | .prepared => k.refuse .noTask
      | .started => k.refuse .alreadyRunning
      | .populated => k.launch :=
  rfl

/-- What a start comes to. -/
theorem start_cases (k : Kernel) :
    (∃ error, k.phase ≠ .populated ∧ k.start = k.refuse error) ∨
      (∃ error, k.platform.setupFailure = some error ∧
        k.start = k.broughtUp.refuse error) ∨
      (k.phase = .populated ∧ k.ready.head = none ∧
        k.start = k.broughtUp.refuse .noTask) ∨
      ∃ first, k.phase = .populated ∧ k.platform.setupFailure = none ∧
        k.ready.head = some first ∧ k.start = k.broughtUp.enter first := by
  rw [start_eq]
  cases k.phase with
  | blank | prepared | started => exact Or.inl ⟨_, by decide, rfl⟩
  | populated =>
      refine Or.inr ?_
      unfold launch
      cases k.platform.setupFailure with
      | some error => exact Or.inl ⟨error, rfl, rfl⟩
      | none =>
          cases k.ready.head with
          | none => exact Or.inr (Or.inl ⟨rfl, rfl, rfl⟩)
          | some first => exact Or.inr (Or.inr ⟨first, rfl, rfl, rfl, rfl⟩)

/-- A start that is refused has at most counted, unless the first task could not
be entered. -/
theorem start_of_isError {step : Step} (hcall : step.call = .start)
    (hperform : step.before.perform step.call = .ok (step.answer, step.after))
    (herror : step.answer.isError = true)
    (henters : step.failsToEnter = false) :
    step.after = step.before ∨ step.after = step.before.broughtUp := by
  rw [hcall] at hperform
  obtain ⟨hanswer, hafter⟩ := Prod.mk.inj (Except.ok.inj hperform)
  rw [← hafter]
  rcases step.before.start_cases with ⟨_, -, hstart⟩ | ⟨_, -, hstart⟩ | ⟨-, -,
    hstart⟩ | ⟨first, hphase, hsetup, -, hstart⟩
  · exact Or.inl (congrArg Prod.snd hstart)
  · exact Or.inr (congrArg Prod.snd hstart)
  · exact Or.inr (congrArg Prod.snd hstart)
  · have hentry : step.before.platform.entryFailure = none := by
      simpa [Step.failsToEnter, hcall, hphase, hsetup] using henters
    have hentered : (step.before.broughtUp.enter first).1 = .ok () :=
      congrArg Platform.outcome hentry
    rw [← hanswer, hstart, hentered] at herror
    cases herror

end Kernel

/-! ### Who falls asleep -/

namespace View

/-- The running task falls asleep between the two views. -/
def Sleeps (v w : View) : Prop :=
  ∃ id, v.running = some id ∧ (v.task id).status ≠ .waiting ∧
    (w.task id).status = .waiting

/-- A call that may keep its caller waiting for `timeout` ticks tells by its
reply whether it does. -/
def Tells (v : View) (timeout : Tick) (reply : Reply) (w : View) : Prop :=
  (timeout != 0 && reply.status == .timeout) = true ↔ v.Sleeps w

section Sleeps

variable {v w : View} {call : Call} {answer : Answer} {timeout : Tick}
  {reply : Reply} {current : TaskId}

/-- Where nobody falls asleep the running task does not. -/
theorem Rouses.not_sleeps (hw : v.Rouses w) (h : v.Orderly none)
    (ho : w.Orderly none) (hall : w.all = v.all) : ¬v.Sleeps w := by
  rintro ⟨id, hrunning, hawake, hasleep⟩
  have hreg : w.Registered id := by
    rw [← ho.staffed.mem_all, hall, h.staffed.mem_all]
    exact h.staffed.running_registered id hrunning
  have hid : id ∈ w.waiting :=
    (ho.queued.mem_waiting id).mpr ⟨hreg, hasleep,
      (Option.some_ne_none id).symm⟩
  exact hawake ((h.queued.mem_waiting id).mp (hw.waiting.subset hid)).2.1

/-- An answer other than a timeout after which nobody has fallen asleep. -/
theorem Rouses.tells (hw : v.Rouses w) (h : v.Orderly none)
    (ho : w.Orderly none) (hall : w.all = v.all)
    (hreply : reply.status = .timeout → timeout = 0) :
    v.Tells timeout reply w := by
  refine iff_of_false (fun htimeout => ?_) (hw.not_sleeps h ho hall)
  rw [Bool.and_eq_true, bne_iff_ne, beq_iff_eq] at htimeout
  exact htimeout.1 (hreply htimeout.2)

/-- A task that has queued up falls asleep, and is told. -/
theorem GaveUp.tells {resource : Resource} {side : Waiters} {message : Message}
    {deadline : Tick}
    (hw : (v.parked current resource side message deadline).GaveUp current w)
    (h : v.Orderly none) (ho : w.Orderly none)
    (hrunning : v.running = some current) (hready : current ∈ v.ready)
    (htimeout : timeout ≠ 0) (hreply : reply.status = .timeout) :
    v.Tells timeout reply w := by
  have hid : current ∈ w.waiting := by
    obtain ⟨rest, -, hplace, -⟩ :=
      (hw.settles (congrArg Task.status (if_pos rfl))
        h.queued.waiting_nodup).waiting
    rw [hplace]
    exact mem_insertBefore.mpr (Or.inl rfl)
  refine iff_of_true ?_ ⟨current, hrunning, ?_, ?_⟩
  · rw [hreply, Bool.and_eq_true]
    exact ⟨bne_iff_ne.mpr htimeout, rfl⟩
  · exact h.not_waiting_of_ready hready (Option.some_ne_none current).symm
  · exact ((ho.queued.mem_waiting current).mp hid).2.1

/-- A task that leaves the queue of an object goes on waiting for now. -/
theorem rouses_unblocked (v : View) (id : TaskId) :
    v.Rouses (v.unblocked id) := by
  refine ⟨List.Sublist.refl _, fun other _ => ?_⟩
  simp only [unblocked, Task.withoutWait]
  split
  · rename_i heq
    rw [heq]
  · rfl

/-- Only one error is of the class of timeouts. -/
theorem eq_timeout_of_status {error : Error} (h : error.status = .timeout) :
    error = .timeout := by
  cases error <;> first | rfl | cases h

theorem Acquired.tells {mutex : MutexId} {result : Except Error Unit}
    (hw : v.Acquired mutex timeout result w) (h : v.Orderly none)
    (ho : w.Orderly none) (hall : w.all = v.all) :
    v.Tells timeout (Answer.unit result).toReply w := by
  cases hw with
  | refused error herror =>
      exact (Rouses.refl v).tells h ho hall fun hstatus =>
        herror (eq_timeout_of_status hstatus)
  | taken | again =>
      refine Rouses.tells ⟨List.Sublist.refl _,
        fun _ _ => rfl⟩ h ho hall fun hstatus => ?_
      cases hstatus
  | parked hrunning _ _ _ hready _ hw htimeout =>
      exact hw.tells h ho hrunning hready htimeout rfl

theorem Sent.tells {queue : QueueId} {message : Message}
    {result : Except Error Unit} (hw : v.Sent queue message timeout result w)
    (h : v.Orderly none) (ho : w.Orderly none) (hall : w.all = v.all) :
    v.Tells timeout (Answer.unit result).toReply w := by
  cases hw with
  | refused error hne =>
      exact (Rouses.refl v).tells h ho hall fun hstatus =>
        absurd (eq_timeout_of_status hstatus) hne
  | @handed _ receiver _ _ _ _ _ _ hw =>
      have hrouses :=
        (rouses_unblocked v receiver).trans (hw.rouses h.unblocked)
      exact hrouses.tells h ho hall fun hstatus => by cases hstatus
  | stored =>
      refine Rouses.tells ⟨List.Sublist.refl _,
        fun _ _ => rfl⟩ h ho hall fun hstatus => ?_
      cases hstatus
  | parked hrunning _ _ _ hready _ hw htimeout =>
      exact hw.tells h ho hrunning hready htimeout rfl

theorem Received.tells {queue : QueueId} {result : Except Error Message}
    (hw : v.Received queue timeout result w) (h : v.Orderly none)
    (ho : w.Orderly none) (hall : w.all = v.all) :
    v.Tells timeout (Answer.message result).toReply w := by
  cases hw with
  | refused error hne =>
      exact (Rouses.refl v).tells h ho hall fun hstatus =>
        absurd (eq_timeout_of_status hstatus) hne
  | taken =>
      refine Rouses.tells ⟨List.Sublist.refl _,
        fun _ _ => rfl⟩ h ho hall fun hstatus => ?_
      cases hstatus
  | @refilled _ sender _ _ ring _ _ hcreated hpop hside _ hw =>
      have hleaves := rouses_unblocked v sender
      have hrefilled : v.Rouses (v.refilled queue ring sender) :=
        ⟨hleaves.waiting, hleaves.deadline⟩
      have hrouses :=
        hrefilled.trans (hw.rouses (h.refilled hcreated hpop hside))
      exact hrouses.tells h ho hall fun hstatus => by cases hstatus
  | parked hrunning _ _ hready _ hw htimeout =>
      exact hw.tells h ho hrunning hready htimeout rfl

/-- Calls that wait for mutexes and queues tell whether their caller sleeps. -/
theorem Performs.tells (hw : v.Performs call answer w) (h : v.Orderly none)
    (ho : w.Orderly none) (hcall : call.direct.awaits = true) :
    v.Tells call.direct.timeout answer.toReply w := by
  have hall : w.all = v.all := by
    refine hw.all_eq h (fun spec heq => ?_) fun heq => ?_
    · rw [heq] at hcall
      cases hcall
    · rw [heq] at hcall
      cases hcall
  obtain ⟨other, hdirect, hreply⟩ := hw.direct
  rw [← hreply]
  generalize call.direct = direct at hdirect hcall ⊢
  cases hdirect with
  | acquire hw => exact hw.tells h ho hall
  | send hw => exact hw.tells h ho hall
  | receive hw => exact hw.tells h ho hall
  | _ => cases hcall

end Sleeps

end View

/-! ### Histories -/

/-- Whatever happened before, an error leaves everything as it was, unless it
tells that the caller sleeps or that the first task could not be entered; and
calls on mutexes and queues that may wait report a timeout exactly when they
have put their caller to sleep. -/
theorem Run.harmless {step : Step} {steps : List Step} {k : Kernel}
    (hrun : Run (step :: steps) k) : step.Harmless := by
  obtain ⟨hbefore, -, hperform⟩ := hrun.last
  obtain ⟨h, hw, ho⟩ := hrun.performs
  constructor
  · intro herror hawake henters
    by_cases hstart : step.call = .start
    · exact (Kernel.start_of_isError hstart hperform herror henters).imp_right
        fun heq => ⟨hstart, heq⟩
    · rcases Kernel.eq_of_isError hperform hstart herror with heq | ⟨hblock,
        hstatus⟩
      · exact Or.inl heq
      · rw [Step.timesOut, hblock, hstatus] at hawake
        cases hawake
  · intro hcall
    have htells := hw.tells h ho hcall
    rw [Step.timesOut, Call.mayBlock, hcall, Bool.true_and]
    exact htells

namespace Witness

/-- Task A fills a queue and tries to send once more without waiting. -/
def packed : List Call :=
  trio ++ [.createQueue 1, .send box 7 0, .send box 8 0]

theorem harmless_packed :
    ∃ step steps, (history packed).1 = step :: steps ∧
      Run (step :: steps) step.after ∧
      step.answer.isError = true ∧ step.timesOut = false ∧
      step.failsToEnter = false ∧
      step.Harmless := by
  obtain ⟨step, steps, hsteps, hstep⟩ := exists_split (history packed).1 0
    (fun step => step.answer.isError && !step.timesOut && !step.failsToEnter)
    (by decide +kernel)
  simp only [Bool.and_eq_true, Bool.not_eq_true'] at hstep
  obtain ⟨⟨herror, hawake⟩, henters⟩ := hstep
  rw [List.take_zero, List.nil_append] at hsteps
  have hrun := run_history packed
  rw [hsteps] at hrun
  have hlast : Run (step :: steps) step.after := hrun.last.2.1 ▸ hrun
  exact ⟨step, steps, hsteps, hlast, herror, hawake, henters, hlast.harmless⟩

end Witness

end TickKernel
