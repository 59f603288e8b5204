/-
What a call does at large.  Few calls do more than let tasks leave the queues:
tasks are registered, the kernel is torn down, and queues are made and traded
on.  The invariant and the guards follow from that for all calls alike.
-/
import TickKernel.Proofs.Performing

namespace TickKernel

/-- Whether the call is neither about the life of the kernel nor about a
queue. -/
def Call.isPlain : Call → Bool
  | .register _ | .tearDown | .createQueue _ | .send _ _ _ | .receive _ _ =>
      false
  | _ => true

namespace View

/-- The call leaves the guards of stacks as they have to be. -/
def Spares (v : View) : Call → Prop
  | .poke id index word =>
      v.Registered id → index = 0 → word = Stack.guardPattern
  | _ => True

/-- A step of the kernel that leaves its tasks and queues alone, but for the
tasks that leave a queue. -/
structure Proceeds (v : View) (call : Call) (w : View) : Prop where
  orderly : w.Orderly none
  guarded : v.Spares call → v.Guarded → w.Guarded
  keeps : v.Keeps (fun id => call = .suspend id) w

/-- What becomes of tasks and queues in a call. -/
inductive Effect (v : View) : Call → Reply → View → Prop
  | proceeds {call : Call} {reply : Reply} {w : View}
      (hcall : call.isPlain = true)
      (hw : v.Proceeds call w) : Effect v call reply w
  | enrolled {spec : TaskSpec} {result : Except Error TaskId} {reply : Reply}
      {w : View}
      (hw : v.Enrolled spec result w) : Effect v (.register spec) reply w
  | tornDown {reply : Reply} : Effect v .tearDown reply (blank v.platform)
  | made {capacity : UInt64} {result : Except Error QueueId} {reply : Reply}
      {w : View}
      (hw : v.QueueMade capacity result w) :
      Effect v (.createQueue capacity) reply w
  | sent {queue : QueueId} {message : Message} {timeout : Tick}
      {result : Except Error Unit} {w : View}
      (hw : v.Sent queue message timeout result w) :
      Effect v (.send queue message timeout) (Answer.unit result).toReply w
  | received {queue : QueueId} {timeout : Tick} {result : Except Error Message}
      {w : View} (hw : v.Received queue timeout result w) :
      Effect v (.receive queue timeout) (Answer.message result).toReply w

section Effect

variable {u v w : View} {call : Call} {answer : Answer} {reply : Reply}

theorem Passes.proceeds (hw : v.Passes (fun id => call = .suspend id) w) :
    v.Proceeds call w :=
  ⟨hw.orderly, fun _ => hw.sameStacks.guarded hw.keeps.taskCount, hw.keeps⟩

theorem Switched.proceeds (hw : v.Switched w) (h : v.Orderly none) :
    v.Proceeds call w := by
  refine ⟨hw.orderly h, fun _ hguarded id hid => ?_, hw.quiet.keeps h.supplied⟩
  rw [Registered, hw.quiet.taskCount] at hid
  exact (hw.guarded id).trans (hguarded id hid)

/-- A switch may follow. -/
theorem Proceeds.switched (hu : v.Proceeds call u) (hw : u.Switched w) :
    v.Proceeds call w := by
  have hswitched : u.Proceeds .switchOver w := hw.proceeds hu.orderly
  refine ⟨hswitched.orderly, fun hspares hguarded => ?_, ?_⟩
  · exact hswitched.guarded trivial (hu.guarded hspares hguarded)
  · exact hu.keeps.trans_quiet hw.quiet (by rw [hw.lists])

/-- A word on a stack is no concern of anything but the guard. -/
theorem proceeds_poke (h : v.Orderly none) (id : TaskId) (index : Nat)
    (word : Word) :
    v.Proceeds (.poke id index word) (v.setTask id fun task => { task with
      stack := { task.stack with
        words := task.stack.words.setIfInBounds index word } }) := by
  have htask : ∀ other, ((v.setTask id fun task => { task with
      stack := { task.stack with
        words := task.stack.words.setIfInBounds index word } }).task
          other).Alike (v.task other) := by
    intro other
    simp only [View.setTask]
    split
    · rename_i heq
      exact heq ▸ ⟨rfl, rfl, rfl, rfl, rfl, rfl⟩
    · exact Task.Alike.refl _
  refine ⟨h.congr rfl htask, fun hspares hguarded other hother => ?_, ?_⟩
  · have hold := hguarded other hother
    simp only [View.setTask]
    split
    swap
    · exact hold
    rename_i heq
    subst heq
    simp only [Task.isGuarded, Task.lowestWord, getD_setIfInBounds] at hold ⊢
    split
    · rename_i hindex
      rw [hspares hother hindex.1]
      rfl
    · exact hold
  · have hquiet : v.Quiet (v.setTask id fun task => { task with
        stack := { task.stack with
          words := task.stack.words.setIfInBounds index word } }) :=
      ⟨rfl, rfl, fun queue => .of_task (fun h => h) rfl rfl rfl fun other _ =>
        ⟨(htask other).message, (htask other).deadline⟩⟩
    exact hquiet.keeps h.supplied

/-- Every call has one of the effects. -/
theorem Performs.effect (hw : v.Performs call answer w) (h : v.Orderly none) :
    v.Effect call.direct answer.toReply w := by
  have hplain : ∀ {call : Call} {reply : Reply} {u : View},
      call.isPlain = true →
      v.Passes (fun id => call = .suspend id) u → v.Effect call reply u :=
    fun hcall hu => .proceeds hcall hu.proceeds
  induction hw with
  | setUp hw => exact hplain rfl (hw.passes h)
  | register hw => exact .enrolled hw
  | start hw => exact hplain rfl (hw.passes h)
  | tearDown => exact .tornDown
  | advance ticks => exact hplain rfl (Passes.platform h _ _)
  | setClock ticks => exact hplain rfl (Passes.platform h _ _)
  | setHooks setupFailure entryFailure =>
      exact hplain rfl (Passes.platform h _ _)
  | tick hw => exact hplain rfl (hw.passes h)
  | schedule hw => exact hplain rfl (hw.passes h)
  | switchOver switched saved =>
      exact .proceeds rfl ((switched_switchedFrom v saved).proceeds h)
  | beat switched saved hu =>
      have hadvanced :=
        (Passes.platform h (fun _ => False) (v.platform.advance 1)).orderly
      have hpasses : v.Passes (fun id => Call.beat = .suspend id) _ :=
        (hu.passes hadvanced).of_quiet (Quiet.platform v _) fun _ => rfl
      exact .proceeds rfl
        (hpasses.proceeds.switched (switched_switchedFrom _ saved))
  | @switchFrom saved resumed =>
      exact .proceeds rfl ((switched_switchedFrom v saved).proceeds h)
  | exitRoutine => exact hplain rfl (Passes.refl h)
  | delay hw => exact hplain rfl (hw.passes h)
  | spin result platform => exact hplain rfl (Passes.platform h _ platform)
  | suspend hw => exact hplain rfl (hw.passes h rfl)
  | resume hw => exact hplain rfl (hw.passes h)
  | finish hw => exact hplain rfl (hw.passes h)
  | createMutex hw => exact hplain rfl (hw.passes h)
  | acquire hw => exact hplain rfl (hw.passes h)
  | release hw => exact hplain rfl (hw.passes h)
  | createQueue hw => exact .made hw
  | send hw => exact .sent hw
  | receive hw => exact .received hw
  | poke id index word => exact .proceeds rfl (proceeds_poke h id index word)
  | serve hcall hw ih =>
      have hdirect := ih
      rw [Call.direct_ofService hcall] at hdirect
      change v.Effect ((Call.ofService _ _).getD _) _ _
      rw [hcall]
      exact hdirect
  | unserved hcall reply =>
      simp only [Call.direct, hcall, Option.getD_none]
      exact .proceeds rfl (Passes.refl h).proceeds

theorem Effect.orderly (hw : v.Effect call reply w) (h : v.Orderly none) :
    w.Orderly none := by
  cases hw with
  | proceeds hcall hw => exact hw.orderly
  | enrolled hw => exact hw.orderly h
  | tornDown => exact orderly_blank v.platform
  | made hw => exact hw.orderly h
  | sent hw => exact (hw.trades h).orderly
  | received hw => exact (hw.trades h).orderly

theorem Effect.guarded (hw : v.Effect call reply w) (h : v.Orderly none)
    (hspares : v.Spares call) (hguarded : v.Guarded) : w.Guarded := by
  cases hw with
  | proceeds hcall hw => exact hw.guarded hspares hguarded
  | enrolled hw => exact hw.guarded hguarded
  | tornDown => exact fun id hid => absurd hid (Nat.not_lt_zero _)
  | made hw => exact hw.guarded hguarded
  | sent hw =>
      exact (hw.trades h).sameStacks.guarded (hw.trades h).taskCount hguarded
  | received hw =>
      exact (hw.trades h).sameStacks.guarded (hw.trades h).taskCount hguarded

/-- Only registering tasks and tearing the kernel down change who is
registered. -/
theorem Performs.all_eq (hw : v.Performs call answer w) (h : v.Orderly none)
    (hregister : ∀ spec, call ≠ .register spec) (htearDown : call ≠ .tearDown) :
    w.all = v.all := by
  have hdirect := hw.effect h
  generalize heq : call.direct = direct at hdirect
  generalize answer.toReply = reply at hdirect
  cases hdirect with
  | proceeds hcall hw => exact hw.keeps.all
  | @enrolled spec result _ _ hw =>
      refine absurd ?_ (hregister spec)
      rw [← heq, Call.direct_eq_self (by rw [heq]; rfl)]
  | tornDown =>
      refine absurd ?_ htearDown
      rw [← heq, Call.direct_eq_self (by rw [heq]; rfl)]
  | made hw =>
      cases hw with
      | refused => rfl
      | made => rfl
  | sent hw => exact (hw.trades h).all
  | received hw => exact (hw.trades h).all

end Effect

end View

end TickKernel
