/-
One call of any kind.  `View.Performs` collects the outcomes of all calls, and
`Kernel.permits` says when a call is sure to have one: who runs must be able to
go on, mutexes are released by their owners, and guards are left alone.
-/
import TickKernel.Proofs.Lifecycle
import TickKernel.Proofs.Services

namespace TickKernel

/-! ### What the users of a kernel owe it -/

namespace Kernel

/-- The running task, if any, is runnable. -/
def isAble (k : Kernel) : Bool :=
  k.running.all fun id => (k.task id).isRunnable

/-- The call keeps the rules that the kernel has no error for. -/
def permits (k : Kernel) (call : Call) : Bool :=
  match call.direct with
  | .delay _ | .acquire _ _ | .send _ _ _ | .receive _ _ => k.isAble
  | .release id =>
      k.isAble && (!k.hasMutex id ||
        k.running.all fun current => (k.mutex id).owner == some current)
  | .finish => k.isAble && k.phase == .started && k.running != k.idle
  | .poke id index word =>
      !k.isRegistered id || index != 0 || word == Stack.guardPattern
  | _ => true

end Kernel

namespace View

/-! ### Outcomes of all calls -/

/-- The outcomes of a call. -/
inductive Performs (v : View) : Call → Answer → View → Prop
  | setUp {result : Except Error Unit} {w : View} (hw : v.Prepared result w) :
      Performs v .setUp (.unit result) w
  | register {spec : TaskSpec} {result : Except Error TaskId} {w : View}
      (hw : v.Enrolled spec result w) :
      Performs v (.register spec) (.task result) w
  | start {result : Except Error Unit} {w : View} (hw : v.Started result w) :
      Performs v .start (.unit result) w
  | tearDown : Performs v .tearDown .nothing (blank v.platform)
  | advance (ticks : Tick) :
      Performs v (.advance ticks) .nothing
        { v with platform := v.platform.advance ticks }
  | setClock (ticks : Tick) :
      Performs v (.setClock ticks) .nothing { v with platform.clock := ticks }
  | setHooks (setupFailure entryFailure : Option Error) :
      Performs v (.setHooks setupFailure entryFailure) .nothing
        { v with
          platform.setupFailure := setupFailure
          platform.entryFailure := entryFailure }
  | tick {w : View} (hw : v.Ticked w) : Performs v .tick .nothing w
  | schedule {w : View} (hw : v.Ticked w) : Performs v .schedule .nothing w
  | switchOver (switched : Bool) (saved : Option StackPointer) :
      Performs v .switchOver (.flag switched) (v.switchedFrom saved)
  | beat {u : View} (switched : Bool) (saved : Option StackPointer)
      (hu : { v with platform := v.platform.advance 1 }.Ticked u) :
      Performs v .beat (.flag switched) (u.switchedFrom saved)
  | switchFrom {saved : Option StackPointer} (resumed : Option StackPointer) :
      Performs v (.switchFrom saved) (.frame resumed) (v.switchedFrom saved)
  | exitRoutine : Performs v .exitRoutine .nothing v
  | delay {ticks : Tick} {result : Except Error Unit} {w : View}
      (hw : v.Delayed ticks result w) :
      Performs v (.delay ticks) (.unit result) w
  | spin {ticks : Tick} (result : Except Error Unit) (platform : Platform)
      (hstarted : v.phase = .started → platform = v.platform) :
      Performs v (.spin ticks) (.unit result) { v with platform }
  | suspend {id : TaskId} {result : Except Error Unit} {w : View}
      (hw : v.Suspended id result w) : Performs v (.suspend id) (.unit result) w
  | resume {id : TaskId} {result : Except Error Unit} {w : View}
      (hw : v.Resumed id result w) : Performs v (.resume id) (.unit result) w
  | finish {w : View} (hw : v.Finished w) : Performs v .finish .nothing w
  | createMutex {result : Except Error MutexId} {w : View}
      (hw : v.MutexMade result w) : Performs v .createMutex (.mutex result) w
  | acquire {mutex : MutexId} {timeout : Tick} {result : Except Error Unit}
      {w : View} (hw : v.Acquired mutex timeout result w) :
      Performs v (.acquire mutex timeout) (.unit result) w
  | release {mutex : MutexId} {result : Except Error Unit} {w : View}
      (hw : v.Released mutex result w) :
      Performs v (.release mutex) (.unit result) w
  | createQueue {capacity : UInt64} {result : Except Error QueueId} {w : View}
      (hw : v.QueueMade capacity result w) :
      Performs v (.createQueue capacity) (.queue result) w
  | send {queue : QueueId} {message : Message} {timeout : Tick}
      {result : Except Error Unit} {w : View}
      (hw : v.Sent queue message timeout result w) :
      Performs v (.send queue message timeout) (.unit result) w
  | receive {queue : QueueId} {timeout : Tick} {result : Except Error Message}
      {w : View} (hw : v.Received queue timeout result w) :
      Performs v (.receive queue timeout) (.message result) w
  | poke (id : TaskId) (index : Nat) (word : Word) :
      Performs v (.poke id index word) .nothing
        (v.setTask id fun task => { task with
          stack := { task.stack with
            words := task.stack.words.setIfInBounds index word } })
  | serve {number : UInt32} {args : Arguments} {call : Call} {answer : Answer}
      {w : View}
      (hcall : Call.ofService number args = some call)
      (hw : Performs v call answer w) :
      Performs v (.serve number args) (.reply answer.toReply) w
  | unserved {number : UInt32} {args : Arguments}
      (hcall : Call.ofService number args = none) (reply : Reply) :
      Performs v (.serve number args) (.reply reply) v

end View

namespace Kernel

variable {k k' : Kernel} {v : View}

/-- A call by number does what the call that it stands for does, and answers
alike. -/
theorem perform_direct {call : Call} {answer : Answer}
    (hperform : k.perform call = .ok (answer, k')) :
    ∃ other, k.perform call.direct = .ok (other, k') ∧
      other.toReply = answer.toReply := by
  cases call with
  | serve number args =>
      cases hcall : Call.ofService number args with
      | none =>
          rw [Call.direct, hcall, Option.getD_none]
          exact ⟨answer, hperform, rfl⟩
      | some direct =>
          rw [perform_serve hcall] at hperform
          obtain ⟨⟨other, k₁⟩, hdirect, hanswer⟩ := eq_ok_of_map hperform
          cases hanswer
          rw [Call.direct, hcall, Option.getD_some]
          exact ⟨other, hdirect, rfl⟩
  | _ => exact ⟨answer, hperform, rfl⟩

/-- Calls by number keep the rules if the calls that they stand for do. -/
theorem permits_congr {call other : Call} (h : call.direct = other.direct) :
    k.permits call = k.permits other := by
  unfold permits
  rw [h]

theorem permits_serve {number : UInt32} {args : Arguments} {call : Call}
    (hcall : Call.ofService number args = some call) :
    k.permits (.serve number args) = k.permits call := by
  refine permits_congr ?_
  rw [Call.direct_ofService hcall, Call.direct, hcall]
  rfl

theorem Shows.able_of_isAble (h : k.Shows v) (hable : k.isAble = true) :
    v.Able := by
  intro id hid
  rw [isAble, h.running_eq, hid] at hable
  rw [← h.task_eq]
  exact hable

/-- Whatever a call that is no service leads to. -/
theorem Shows.performDirect (h : k.Shows v) (ho : v.Orderly none) (call : Call)
    (hcall : ∀ number args, call ≠ .serve number args) :
    Fulfils (k.perform call) (v.Guarded ∧ k.permits call = true)
      fun performed => ∃ w, v.Performs call performed.1 w ∧
        performed.2.Shows w := by
  cases call with
  | setUp =>
      obtain ⟨w, hw, hk'⟩ := h.setUp
      exact Fulfils.ok ⟨w, .setUp hw, hk'⟩
  | register spec =>
      obtain ⟨verdict, hok, w, hw, hk'⟩ := h.register ho spec
      simp only [perform, hok]
      exact Fulfils.ok ⟨w, .register hw, hk'⟩
  | start =>
      obtain ⟨w, hw, hk'⟩ := h.start
      exact Fulfils.ok ⟨w, .start hw, hk'⟩
  | tearDown => exact Fulfils.ok ⟨_, .tearDown, h.tearDown⟩
  | advance ticks =>
      obtain ⟨hlinked, rfl⟩ := h
      exact Fulfils.ok ⟨_, .advance ticks, hlinked.shows.setPlatform _⟩
  | setClock ticks =>
      obtain ⟨hlinked, rfl⟩ := h
      exact Fulfils.ok ⟨_, .setClock ticks, hlinked.shows.setPlatform _⟩
  | setHooks setupFailure entryFailure =>
      obtain ⟨hlinked, rfl⟩ := h
      exact Fulfils.ok ⟨_, .setHooks setupFailure entryFailure,
        hlinked.shows.setPlatform _⟩
  | tick =>
      refine Fulfils.map ((h.tick ho).imp And.left ?_)
      rintro k' ⟨w, hw, hk'⟩
      exact ⟨w, .tick hw, hk'⟩
  | schedule =>
      refine Fulfils.map ((h.tick ho).imp And.left ?_)
      rintro k' ⟨w, hw, hk'⟩
      exact ⟨w, .schedule hw, hk'⟩
  | switchOver =>
      obtain ⟨saved, hk'⟩ := h.switchOver
      exact Fulfils.ok ⟨_, .switchOver _ saved, hk'⟩
  | beat =>
      obtain ⟨hlinked, rfl⟩ := h
      have hadvance := hlinked.shows.setPlatform (k.platform.advance 1)
      have hadvanced :
          { k.view with platform := k.platform.advance 1 }.Orderly none :=
        ho.congr rfl fun _ => Task.Alike.refl _
      refine Fulfils.map (Fulfils.bind ((hadvance.tick hadvanced).imp And.left
        fun _ hk' => hk') ?_)
      rintro k' ⟨u, hu, hk'⟩
      obtain ⟨saved, hk''⟩ := hk'.switchOver
      exact Fulfils.ok ⟨_, .beat _ saved hu, hk''⟩
  | switchFrom saved =>
      exact Fulfils.ok ⟨_, .switchFrom _, h.switchFrom saved⟩
  | exitRoutine => exact Fulfils.ok ⟨v, .exitRoutine, h⟩
  | delay ticks =>
      refine Fulfils.map ((h.delay ho ticks).imp ?_ ?_)
      · exact fun hsafe => ⟨h.able_of_isAble hsafe.2, hsafe.1⟩
      · rintro verdict ⟨w, hw, hk'⟩
        exact ⟨w, .delay hw, hk'⟩
  | spin ticks =>
      have hspin : ∃ platform, (v.phase = .started → platform = v.platform) ∧
          (k.spin ticks).2.Shows { v with platform } := by
        obtain ⟨hlinked, rfl⟩ := h
        unfold Kernel.spin
        split
        · exact ⟨k.platform, fun _ => rfl, hlinked.shows⟩
        · rename_i hphase
          exact ⟨_, fun hstarted => absurd hstarted hphase,
            hlinked.shows.setPlatform _⟩
      obtain ⟨platform, hstarted, hk'⟩ := hspin
      exact Fulfils.ok ⟨_, .spin _ platform hstarted, hk'⟩
  | suspend id =>
      refine Fulfils.map ((h.suspend ho id).imp And.left ?_)
      rintro verdict ⟨w, hw, hk'⟩
      exact ⟨w, .suspend hw, hk'⟩
  | resume id =>
      refine Fulfils.map ((h.resume ho id).imp And.left ?_)
      rintro verdict ⟨w, hw, hk'⟩
      exact ⟨w, .resume hw, hk'⟩
  | finish =>
      refine Fulfils.map ((h.finish ho).imp ?_ ?_)
      · rintro ⟨hguarded, hpermits⟩
        simp only [permits, Call.direct, Bool.and_eq_true, beq_iff_eq,
          bne_iff_ne, h.phase_eq, h.running_eq, h.idle_eq] at hpermits
        obtain ⟨⟨hable, hphase⟩, hidle⟩ := hpermits
        exact ⟨h.able_of_isAble hable, hguarded,
          ho.staffed.started_iff.mp hphase, hidle⟩
      · rintro k' ⟨w, hw, hk'⟩
        exact ⟨w, .finish hw, hk'⟩
  | createMutex =>
      obtain ⟨w, hw, hk'⟩ := h.createMutex ho
      exact Fulfils.ok ⟨w, .createMutex hw, hk'⟩
  | acquire mutex timeout =>
      refine Fulfils.map ((h.acquire ho mutex timeout).imp ?_ ?_)
      · exact fun hsafe => ⟨h.able_of_isAble hsafe.2, hsafe.1⟩
      · rintro verdict ⟨w, hw, hk'⟩
        exact ⟨w, .acquire hw, hk'⟩
  | release mutex =>
      refine Fulfils.map ((h.release ho mutex).imp ?_ ?_)
      · rintro ⟨hguarded, hpermits⟩
        refine ⟨hguarded, fun hcreated id hrunning => ?_⟩
        have hmutex := (h.hasMutex_iff mutex).mpr hcreated
        simp only [permits, Call.direct, Bool.and_eq_true, hmutex,
          Bool.not_true, Bool.false_or, h.running_eq, hrunning, Option.all_some,
          beq_iff_eq] at hpermits
        exact (h.owner_eq mutex).symm.trans hpermits.2
      · rintro verdict ⟨w, hw, hk'⟩
        exact ⟨w, .release hw, hk'⟩
  | createQueue capacity =>
      obtain ⟨w, hw, hk'⟩ := h.createQueue ho capacity
      exact Fulfils.ok ⟨w, .createQueue hw, hk'⟩
  | send queue message timeout =>
      refine Fulfils.map ((h.send ho queue message timeout).imp ?_ ?_)
      · exact fun hsafe => ⟨h.able_of_isAble hsafe.2, hsafe.1⟩
      · rintro verdict ⟨w, hw, hk'⟩
        exact ⟨w, .send hw, hk'⟩
  | receive queue timeout =>
      refine Fulfils.map ((h.receive ho queue timeout).imp ?_ ?_)
      · exact fun hsafe => ⟨h.able_of_isAble hsafe.2, hsafe.1⟩
      · rintro verdict ⟨w, hw, hk'⟩
        exact ⟨w, .receive hw, hk'⟩
  | serve number args => exact absurd rfl (hcall number args)
  | poke id index word =>
      exact Fulfils.ok ⟨_, .poke id index word, h.modifyTask id _⟩

theorem Shows.perform (h : k.Shows v) (ho : v.Orderly none) (call : Call) :
    Fulfils (k.perform call) (v.Guarded ∧ k.permits call = true)
      fun performed => ∃ w, v.Performs call performed.1 w ∧
        performed.2.Shows w := by
  by_cases hserve : ∃ number args, call = .serve number args
  swap
  · refine h.performDirect ho call fun number args heq => ?_
    exact hserve ⟨number, args, heq⟩
  obtain ⟨number, args, rfl⟩ := hserve
  cases hcall : Call.ofService number args with
  | none =>
      obtain ⟨reply, hperform⟩ := perform_serve_of_none (k := k) hcall
      rw [hperform]
      exact Fulfils.ok ⟨v, .unserved hcall reply, h⟩
  | some call =>
      rw [perform_serve hcall, permits_serve hcall]
      refine Fulfils.map ((h.performDirect ho call ?_).imp id ?_)
      · exact Call.ofService_ne_serve hcall
      · rintro ⟨answer, k'⟩ ⟨w, hw, hk'⟩
        exact ⟨w, .serve hcall hw, hk'⟩

end Kernel

end TickKernel
