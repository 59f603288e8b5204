/-
Replies on their way.  A task whose wait was served has a reply to take along;
it keeps it, whatever happens to it, until it is on the processor again, and
then finds it in its frame.  Only tasks that may get there have a reply, and in
no call but a switch does anybody get there.
-/
import TickKernel.Proofs.Waits

namespace TickKernel

namespace Task

/-- The task goes on from the same frame, and with the same replies. -/
structure SameFrame (task other : Task) : Prop where
  pending : task.pending = other.pending
  delivered : task.delivered = other.delivered
  savedAt : task.savedAt = other.savedAt

theorem SameFrame.refl (task : Task) : task.SameFrame task :=
  ⟨rfl, rfl, rfl⟩

theorem SameFrame.trans {one two three : Task} (h : two.SameFrame one)
    (h' : three.SameFrame two) : three.SameFrame one :=
  ⟨h'.pending.trans h.pending, h'.delivered.trans h.delivered,
    h'.savedAt.trans h.savedAt⟩

/-- Whether a reply may wait for the task: it neither waits itself nor is it
done. -/
def mayBeOwed (task : Task) : Bool :=
  task.status != .waiting && task.status != .finished

end Task

namespace View

/-! ### Calm steps -/

/-- Nobody is handed or promised a reply, and only the running task may stop. -/
structure Calm (v w : View) : Prop where
  running : w.running = v.running
  taskCount : w.taskCount = v.taskCount
  frame : ∀ id, (w.task id).SameFrame (v.task id)
  mayBeOwed : ∀ id, v.running ≠ some id → (v.task id).mayBeOwed = true →
    (w.task id).mayBeOwed = true

section Calm

variable {u v w : View} {call : Call} {reply : Reply} {current id : TaskId}

theorem Calm.refl (v : View) : v.Calm v :=
  ⟨rfl, rfl, fun _ => Task.SameFrame.refl _, fun _ _ h => h⟩

theorem Calm.trans (h : u.Calm v) (h' : v.Calm w) : u.Calm w :=
  ⟨h'.running.trans h.running, h'.taskCount.trans h.taskCount,
    fun id => (h.frame id).trans (h'.frame id), fun id hid howed =>
      h'.mayBeOwed id (by rw [h.running]; exact hid) (h.mayBeOwed id hid howed)⟩

/-- It is enough to look at the one task that changes. -/
theorem Calm.of_task {changed : Task} (hrunning : w.running = v.running)
    (hcount : w.taskCount = v.taskCount)
    (htask : ∀ other, w.task other = if id = other then changed
      else v.task other)
    (hframe : changed.SameFrame (v.task id))
    (howed : v.running = some id ∨ ((v.task id).mayBeOwed = true →
      changed.mayBeOwed = true)) : v.Calm w := by
  refine ⟨hrunning, hcount, fun other => ?_, fun other hother hmay => ?_⟩
  · rw [htask]
    by_cases heq : id = other
    · rw [if_pos heq, ← heq]
      exact hframe
    · rw [if_neg heq]
      exact Task.SameFrame.refl _
  · rw [htask]
    by_cases heq : id = other
    · subst heq
      rw [if_pos rfl]
      rcases howed with hself | howed
      · exact absurd hself hother
      · exact howed hmay
    · rw [if_neg heq]
      exact hmay

theorem calm_unblocked (v : View) (id : TaskId) : v.Calm (v.unblocked id) :=
  .of_task rfl rfl (fun _ => rfl) ⟨rfl, rfl, rfl⟩ (Or.inr fun h => h)

theorem calm_readied (v : View) (id : TaskId) : v.Calm (v.readied id) :=
  .of_task rfl rfl (fun _ => rfl) ⟨rfl, rfl, rfl⟩ (Or.inr fun _ => rfl)

theorem calm_shelved (v : View) (id : TaskId) : v.Calm (v.shelved id) :=
  .of_task rfl rfl (fun _ => rfl) ⟨rfl, rfl, rfl⟩ (Or.inr fun _ => rfl)

theorem calm_promoted (v : View) (id : TaskId) : v.Calm (v.promoted id) :=
  .of_task rfl rfl (fun _ => rfl) ⟨rfl, rfl, rfl⟩ (Or.inr fun _ => rfl)

theorem calm_stoodDown (v : View) (id : TaskId) : v.Calm (v.stoodDown id) := by
  by_cases hable : (v.task id).isRunnable = true
  · have htask : ∀ other, (v.stoodDown id).task other =
        if id = other then { v.task id with status := .ready }
          else v.task other :=
      fun other => by simp only [stoodDown, hable, and_true]
    exact .of_task rfl rfl htask ⟨rfl, rfl, rfl⟩ (Or.inr fun _ => rfl)
  · have hsame : (v.stoodDown id).task = v.task :=
      funext fun other => if_neg fun hmoves => hable hmoves.2
    refine ⟨rfl, rfl, fun other => ?_, fun other _ hmay => ?_⟩
    · rw [hsame]
      exact Task.SameFrame.refl _
    · rw [hsame]
      exact hmay

theorem calm_dispatched (v : View) (current target : TaskId) :
    v.Calm (v.dispatched current target) :=
  ((calm_readied v target).trans (calm_stoodDown _ current)).trans
    (calm_promoted _ target)

theorem Rescheduled.calm (hw : v.Rescheduled current w) : v.Calm w := by
  cases hw with
  | stays => exact .refl v
  | due target => exact calm_dispatched v current target
  | chosen target => exact calm_dispatched v current target

theorem GaveUp.calm (hw : v.GaveUp current w) : v.Calm w := by
  cases hw with
  | pending => exact calm_stoodDown v current
  | now _ hw => exact hw.calm

theorem Ticked.calm (hw : v.Ticked w) : v.Calm w := by
  cases hw with
  | stopped => exact .refl v
  | pending => exact .refl v
  | now _ _ hw => exact hw.calm

theorem Ticked.sameStacks (hw : v.Ticked w) : v.SameStacks w := by
  cases hw with
  | stopped => exact .refl v
  | pending => exact .refl v
  | now _ _ hw => exact SameStacks.rescheduled hw

/-- Once the reply is promised, nothing more is said about replies. -/
theorem Woke.calm (hw : v.Woke id reply w) : (v.promised id reply).Calm w := by
  cases hw with
  | now current => exact calm_dispatched _ current id
  | later => exact calm_readied _ id

theorem Stops.calm (hu : v.Stops current call reply u)
    (hrunning : v.running = some current) :
    v.Calm u := by
  cases hu with
  | dozes =>
      exact .of_task rfl rfl (fun _ => rfl) ⟨rfl, rfl, rfl⟩ (Or.inl hrunning)
  | parks =>
      exact .of_task rfl rfl (fun _ => rfl) ⟨rfl, rfl, rfl⟩ (Or.inl hrunning)
  | quits =>
      exact .of_task rfl rfl (fun _ => rfl) ⟨rfl, rfl, rfl⟩ (Or.inl hrunning)

theorem Rests.calm (hw : v.Rests call w) : v.Calm w := by
  refine ⟨hw.running, hw.taskCount, fun id => ?_, fun id _ hmay => ?_⟩
  · rw [hw.task id]
    exact ⟨rfl, rfl, rfl⟩
  · rw [hw.task id]
    exact hmay

end Calm

/-! ### Handing a reply over -/

/-- The task is on the processor, and has what it was owed in its frame. -/
inductive Resumes (v : View) (id : TaskId) : Option Reply → View → Prop
  | plainly {w : View}
      (hdelivered : (w.task id).delivered = (v.task id).delivered)
      (hstacks : v.SameStacks w) : Resumes v id none w
  | answered {w : View} (reply : Reply) (pointer : StackPointer)
      (hsaved : (v.task id).savedAt = some pointer)
      (hdelivered : (w.task id).delivered = some reply)
      (hstacks : ∀ other, (w.task other).stack = if pointer.owner = other then
        { (v.task other).stack with
          words :=
            Frame.writeReply (v.task other).stack.words pointer.offset reply }
        else (v.task other).stack) : Resumes v id (some reply) w

/-- Nothing but the reply of one task changed hands. -/
structure HandsOver (v : View) (id : TaskId) (w : View) : Prop where
  taskCount : w.taskCount = v.taskCount
  pending : (w.task id).pending = none
  others : ∀ other, other ≠ id → (w.task other).pending = (v.task other).pending
  framed : ∀ other, (v.task other).savedAt ≠ none →
    (w.task other).savedAt ≠ none
  status : ∀ other, (w.task other).status = (v.task other).status
  resumes : v.Resumes id (v.task id).pending w

theorem Resumes.congr {u v w : View} {id : TaskId} {reply : Option Reply}
    (h : u.Resumes id reply w)
    (hdelivered : (u.task id).delivered = (v.task id).delivered)
    (hsaved : (u.task id).savedAt = (v.task id).savedAt)
    (hstacks : v.SameStacks u) :
    v.Resumes id reply w := by
  cases h with
  | plainly hsame hkept =>
      exact .plainly (hsame.trans hdelivered) (hstacks.trans hkept)
  | answered reply pointer hpointer hgiven hwritten =>
      refine .answered reply pointer (hsaved.symm.trans hpointer) hgiven
        fun other => ?_
      rw [hwritten other, hstacks other]

section HandsOver

variable {u v w : View} {id next : TaskId} {saved : Option StackPointer}

/-- Writing on a stack changes nothing but that stack. -/
theorem task_written (v : View) (id : TaskId) (f : Stack → Stack)
    (other : TaskId) :
    (v.setTask id fun task => { task with stack := f task.stack }).task other =
      { v.task other with
        stack := if id = other then f (v.task other).stack
          else (v.task other).stack } := by
  by_cases heq : id = other
  · subst heq
    rw [task_setTask_self, if_pos rfl]
  · rw [task_setTask_of_ne v _ heq, if_neg heq]

theorem handsOver_delivered (hsaved : (v.task id).savedAt ≠ none) :
    v.HandsOver id (v.delivered id) := by
  cases hpending : (v.task id).pending with
  | none =>
      have hsame : v.delivered id = v := by
        rw [delivered, hpending]
      rw [hsame]
      refine ⟨rfl, hpending, fun _ _ => rfl, fun _ h => h, fun _ => rfl, ?_⟩
      rw [hpending]
      exact .plainly rfl (.refl v)
  | some reply =>
      obtain ⟨pointer, hpointer⟩ := Option.ne_none_iff_exists'.mp hsaved
      have hdelivered : v.delivered id = (v.setTask id fun task =>
          { task with pending := none, delivered := some reply }).setTask
            pointer.owner
            fun task =>
              { task with
                stack := { task.stack with
                  words :=
                    Frame.writeReply task.stack.words pointer.offset
                      reply } } := by
        rw [delivered, hpending]
        dsimp only
        rw [hpointer]
      have hwritten := task_written (v.setTask id fun task =>
          { task with pending := none, delivered := some reply }) pointer.owner
            fun stack =>
        { stack with
          words := Frame.writeReply stack.words pointer.offset reply }
      have hself : (v.setTask id fun task =>
          { task with pending := none, delivered := some reply }).task id =
            { v.task id with pending := none, delivered := some reply } :=
        task_setTask_self ..
      have hother : ∀ other, other ≠ id → (v.setTask id fun task =>
          { task with pending := none, delivered := some reply }).task other =
            v.task other := fun other hne => task_setTask_of_ne v _ hne.symm
      rw [hdelivered]
      refine ⟨rfl, ?_, fun other hne => ?_, fun other hframe => ?_,
        fun other => ?_, ?_⟩
      · rw [hwritten, hself]
      · rw [hwritten, hother other hne]
      · rw [hwritten]
        by_cases heq : other = id
        · rw [heq, hself]
          exact heq ▸ hframe
        · rw [hother other heq]
          exact hframe
      · rw [hwritten]
        by_cases heq : other = id
        · rw [heq, hself]
        · rw [hother other heq]
      · rw [hpending]
        refine .answered reply pointer hpointer ?_ fun other => ?_
        · rw [hwritten, hself]
        · rw [hwritten]
          by_cases heq : other = id
          · rw [heq, hself]
          · rw [hother other heq]

/-- The outgoing task may be given another frame to resume from. -/
structure Saves (v u : View) : Prop where
  scheduled : u.scheduled = v.scheduled
  taskCount : u.taskCount = v.taskCount
  task : ∀ id, u.task id = { v.task id with savedAt := (u.task id).savedAt }
  savedAt : ∀ id, v.running ≠ some id →
    (u.task id).savedAt = (v.task id).savedAt
  framed : ∀ id, (v.task id).savedAt ≠ none → (u.task id).savedAt ≠ none

theorem Saves.refl (v : View) : v.Saves v :=
  ⟨rfl, rfl, fun _ => rfl, fun _ _ => rfl, fun _ h => h⟩

theorem saves_savedAt (v : View) (pointer : StackPointer) :
    v.Saves (v.savedAt pointer) := by
  cases hrunning : v.running with
  | none =>
      have hsame : v.savedAt pointer = v := by
        rw [View.savedAt, hrunning]
      rw [hsame]
      exact .refl v
  | some current =>
      have hsaved : v.savedAt pointer =
          v.setTask current fun task =>
          { task with savedAt := some pointer } := by
        rw [View.savedAt, hrunning]
      rw [hsaved]
      refine ⟨rfl, rfl, fun id => ?_, fun id hid => ?_, fun id hid => ?_⟩
      · by_cases heq : current = id
        · rw [← heq, task_setTask_self]
        · rw [task_setTask_of_ne v _ heq]
      · rw [task_setTask_of_ne v]
        rintro rfl
        exact hid hrunning
      · by_cases heq : current = id
        · rw [← heq, task_setTask_self]
          exact Option.some_ne_none pointer
        · rw [task_setTask_of_ne v _ heq]
          exact hid

theorem HandsOver.of_saves (hw : u.HandsOver next w) (hu : v.Saves u)
    (hother : v.running ≠ some next) : v.HandsOver next w := by
  have hpending : ∀ id, (u.task id).pending = (v.task id).pending :=
    fun id => by
    rw [hu.task id]
  refine ⟨hw.taskCount.trans hu.taskCount, hw.pending,
    fun id hid => (hw.others id hid).trans (hpending id),
    fun id hid => hw.framed id (hu.framed id hid), fun id => ?_, ?_⟩
  · rw [hw.status id, hu.task id]
  · refine (hpending next ▸ hw.resumes).congr ?_ (hu.savedAt next hother)
      fun id => ?_
    · rw [hu.task next]
    · rw [hu.task id]

/-- A switch to the scheduled task hands over what waits for that task. -/
theorem handsOver_switchedFrom (hnext : v.scheduled = some next)
    (hother : v.running ≠ some next) (hframe : (v.task next).savedAt ≠ none)
    (saved : Option StackPointer) : (v.switchedFrom saved).running = some next ∧
      v.HandsOver next (v.switchedFrom saved) := by
  have hsaves : ∃ u, v.Saves u ∧ v.switchedFrom saved = u.relieved.resumed := by
    cases saved with
    | none => exact ⟨v, .refl v, rfl⟩
    | some pointer =>
        refine ⟨v.savedAt pointer, saves_savedAt v pointer, ?_⟩
        rw [switchedFrom, hnext]
        rfl
  obtain ⟨u, hu, hswitched⟩ := hsaves
  have hresumed : u.relieved.resumed =
      { u with running := some next, scheduled := none }.delivered next := by
    have hrelieved : u.relieved =
        { u with running := some next, scheduled := none } := by
      rw [relieved, hu.scheduled, hnext]
    rw [hrelieved]
    rfl
  rw [hswitched, hresumed]
  refine ⟨?_, ?_⟩
  · rw [(touched_delivered _ next).lists]
  · have hhands : u.HandsOver next
        ({ u with running := some next, scheduled := none }.delivered
          next) := by
      have hframe' : (u.task next).savedAt ≠ none := hu.framed next hframe
      have hstep :
          HandsOver { u with running := some next, scheduled := none } next
          ({ u with running := some next, scheduled := none }.delivered next) :=
        handsOver_delivered hframe'
      exact ⟨hstep.taskCount, hstep.pending, hstep.others, hstep.framed,
        hstep.status, hstep.resumes.congr rfl rfl fun _ => rfl⟩
    exact hhands.of_saves hu hother

end HandsOver

/-! ### The invariant -/

/-- Replies wait only for tasks that are about to run, and there is a frame for
them. -/
structure Faithful (v : View) : Prop where
  pending : ∀ id, (v.task id).pending ≠ none → v.Registered id ∧
    v.running ≠ none ∧ v.running ≠ some id ∧ (v.task id).mayBeOwed = true
  framed : ∀ id, v.Registered id → (v.task id).savedAt ≠ none

section Faithful

variable {u v w : View} {call : Call} {reply : Reply} {id : TaskId}

theorem Faithful.calm (h : v.Faithful) (hw : v.Calm w) : w.Faithful := by
  refine ⟨fun id hid => ?_, fun id hid => ?_⟩
  · rw [(hw.frame id).pending] at hid
    obtain ⟨hreg, hsome, hother, hmay⟩ := h.pending id hid
    rw [Registered, hw.taskCount, hw.running]
    exact ⟨hreg, hsome, hother, hw.mayBeOwed id hother hmay⟩
  · rw [(hw.frame id).savedAt]
    rw [Registered, hw.taskCount] at hid
    exact h.framed id hid

/-- Without anybody scheduled a switch does nothing. -/
theorem Faithful.switchedFrom_eq (h : v.Faithful) (hnone : v.scheduled = none)
    (saved : Option StackPointer) : v.switchedFrom saved = v := by
  cases saved with
  | none =>
      have hrelieved : v.relieved = v := by
        rw [relieved, hnone]
      rw [switchedFrom, hrelieved, resumed]
      cases hrunning : v.running with
      | none => rfl
      | some current =>
          have hpending : (v.task current).pending = none := by
            by_contra hpending
            exact (h.pending current hpending).2.2.1 hrunning
          dsimp only
          rw [delivered, hpending]
  | some pointer =>
      rw [switchedFrom, hnone]
      rfl

theorem Faithful.switchedFrom (h : v.Faithful) (ho : v.Orderly none)
    (saved : Option StackPointer) : (v.switchedFrom saved).Faithful := by
  cases hnext : v.scheduled with
  | none =>
      rw [h.switchedFrom_eq hnext]
      exact h
  | some next =>
      obtain ⟨hreg, hsome, hother⟩ := ho.staffed.scheduled_other next hnext
      obtain ⟨hrunning, hhands⟩ :=
        handsOver_switchedFrom hnext hother (h.framed next hreg) saved
      refine ⟨fun id hid => ?_, fun id hid => ?_⟩
      · have hne : id ≠ next := by
          rintro rfl
          exact hid hhands.pending
        rw [hhands.others id hne] at hid
        obtain ⟨hreg, -, -, hmay⟩ := h.pending id hid
        rw [Registered, hhands.taskCount, hrunning, Task.mayBeOwed,
          hhands.status id]
        exact ⟨hreg, Option.some_ne_none next,
          fun heq => hne (Option.some.inj heq).symm, hmay⟩
      · rw [Registered, hhands.taskCount] at hid
        exact hhands.framed id (h.framed id hid)

/-- Nobody is owed anything before the start. -/
theorem Faithful.pending_eq_none (h : v.Faithful) (hrunning : v.running = none)
    (id : TaskId) : (v.task id).pending = none := by
  by_contra hid
  exact (h.pending id hid).2.1 hrunning

theorem faithful_blank (platform : Platform) : (blank platform).Faithful :=
  ⟨fun _ hid => absurd rfl hid, fun _ hid => absurd hid (Nat.not_lt_zero _)⟩

theorem Serves.calm (hu : v.Serves call id u) : v.Calm u := by
  have hcalm := calm_unblocked v id
  rw [hu.lists]
  exact ⟨rfl, rfl, hcalm.frame, hcalm.mayBeOwed⟩

theorem Woke.mayBeOwed (hw : v.Woke id reply w) :
    (w.task id).mayBeOwed = true := by
  have hstatus : (w.task id).status = .active ∨
      (w.task id).status = .ready := by
    cases hw with
    | now current => exact Or.inl (status_dispatched _ current id)
    | later => exact Or.inr (by simp [readied])
  rcases hstatus with hstatus | hstatus <;> rw [Task.mayBeOwed, hstatus] <;> rfl

/-- Whoever is not woken has no other reply than before. -/
theorem Woke.frame (hw : v.Woke id reply w) {other : TaskId}
    (hne : other ≠ id) :
    (w.task other).SameFrame (v.task other) := by
  have hframe := hw.calm.frame other
  rwa [promised, task_setTask_of_ne v _ hne.symm] at hframe

theorem calm_platform (v : View) (platform : Platform) :
    v.Calm { v with platform } :=
  ⟨rfl, rfl, fun _ => Task.SameFrame.refl _, fun _ _ h => h⟩

theorem Faithful.served (h : v.Faithful) (ho : v.Orderly none)
    (hu : v.Serves call id u) (hw : u.Woke id reply w) : w.Faithful := by
  have hcalm := hu.calm
  have hrunning : w.running = v.running := hw.calm.running.trans hcalm.running
  have hcount : w.taskCount = v.taskCount :=
    hw.calm.taskCount.trans hcalm.taskCount
  refine ⟨fun other hother => ?_, fun other hreg => ?_⟩
  · rw [Registered, hcount, hrunning]
    by_cases heq : other = id
    · subst heq
      obtain ⟨resource, rest, -, hfirst⟩ := hu.first
      have hmem : other ∈ v.blocked resource := by
        rw [hfirst]
        exact List.mem_cons_self
      exact ⟨((ho.queued.mem_waiting other).mp (ho.waiting_of_blocked hmem)).1,
        hu.running, hu.other, hw.mayBeOwed⟩
    · rw [(hw.frame heq).pending, (hcalm.frame other).pending] at hother
      obtain ⟨hreg, hsome, hnot, hmay⟩ := h.pending other hother
      have hmay' := hcalm.mayBeOwed other hnot hmay
      refine ⟨hreg, hsome, hnot, hw.calm.mayBeOwed other ?_ ?_⟩
      · exact hcalm.running ▸ hnot
      · rwa [promised, task_setTask_of_ne u _ (Ne.symm heq)]
  · rw [Registered, hcount] at hreg
    rw [(hw.calm.frame other).savedAt]
    have hframe : ((u.promised id reply).task other).savedAt =
        (u.task other).savedAt := by
      by_cases heq : id = other
      · rw [← heq, promised, task_setTask_self]
      · rw [promised, task_setTask_of_ne u _ heq]
    rw [hframe, (hcalm.frame other).savedAt]
    exact h.framed other hreg

theorem Shape.faithful (hw : v.Shape call reply w) (ho : v.Orderly none)
    (h : v.Faithful) :
    w.Faithful := by
  cases hw with
  | rests _ hw => exact h.calm hw.calm
  | ticks _ hw => exact h.calm hw.calm
  | beats saved hu =>
      have hadvanced := ho.advanced
      have hpasses : View.Passes _ (fun _ => False) _ := hu.passes hadvanced
      exact ((h.calm (calm_platform v _)).calm hu.calm).switchedFrom
        hpasses.orderly saved
  | switches saved => exact h.switchedFrom ho saved
  | stops hrunning _ _ hu _ hw =>
      exact h.calm ((hu.calm hrunning).trans hw.calm)
  | serves hu _ _ _ hw => exact h.served ho hu hw
  | @resumes id => exact h.calm (calm_readied v id)
  | @shelves id => exact h.calm (calm_shelved v id)
  | @enrols spec _ new stack offset hnew hphase =>
      have hrunning :=
        (ho.nobody_next (by rcases hphase with h | h <;> simp [h])).1
      refine ⟨fun other hother => ?_, fun other hreg => ?_⟩
      · refine absurd ?_ hother
        rw [task_enrolled]
        split
        · rfl
        · exact h.pending_eq_none hrunning other
      · rw [task_enrolled]
        split
        · exact Option.some_ne_none _
        · rename_i hne
          have hcount : other.val < v.taskCount + 1 := by
            cases hmode : spec.mode <;> rw [hmode] at hreg <;> exact hreg
          have hval : new.val ≠ other.val := fun heq => hne (Fin.ext heq)
          exact h.framed other (show other.val < v.taskCount by omega)
  | enters first platform hphase =>
      have hrunning := (ho.nobody_next (by rw [hphase]; decide)).1
      have hframe : ∀ other, ((v.entered first platform).task other).SameFrame
          (v.task other) := (calm_promoted v first).frame
      refine ⟨fun other hother => ?_, fun other hreg => ?_⟩
      · rw [(hframe other).pending] at hother
        exact absurd (h.pending_eq_none hrunning other) hother
      · rw [(hframe other).savedAt]
        exact h.framed other hreg
  | clears => exact faithful_blank v.platform

/-! ### What becomes of the reply of a task -/

/-- The reply of a task in a call: the task is promised one, or gets to the
processor and is handed what it was promised before, or its reply stays where it
is. -/
inductive Attends (v : View) (call : Call) (reply : Reply) (id : TaskId)
    (w : View) : Prop
  | served (hserved : v.Served call reply id w)
  | entered (hbefore : v.running ≠ some id) (hafter : w.running = some id)
      (hpending : (w.task id).pending = none)
      (hresumes : v.Resumes id (v.task id).pending w)
  | kept (hpending : (w.task id).pending = (v.task id).pending)
      (hstays : w.running = some id → v.running = some id)

theorem Calm.attends (hw : v.Calm w) : v.Attends call reply id w :=
  .kept (hw.frame id).pending (by rw [hw.running]; exact fun h => h)

/-- A switch hands the reply of the scheduled task over. -/
theorem Attends.switched (hu : v.Calm u) (hstacks : v.SameStacks u)
    (h : v.Faithful) (ho : u.Orderly none) (saved : Option StackPointer) :
    v.Attends call reply id (u.switchedFrom saved) := by
  have hfaithful := h.calm hu
  cases hnext : u.scheduled with
  | none =>
      rw [hfaithful.switchedFrom_eq hnext]
      exact hu.attends
  | some next =>
      obtain ⟨hreg, -, hother⟩ := ho.staffed.scheduled_other next hnext
      obtain ⟨hrunning, hhands⟩ :=
        handsOver_switchedFrom hnext hother (hfaithful.framed next hreg) saved
      by_cases heq : id = next
      · subst heq
        have hframe := hu.frame id
        refine .entered (by rw [← hu.running]; exact hother) hrunning
          hhands.pending ?_
        rw [← hframe.pending]
        exact hhands.resumes.congr hframe.delivered hframe.savedAt hstacks
      · refine .kept ((hhands.others id heq).trans (hu.frame id).pending)
          fun hid => ?_
        rw [hrunning] at hid
        exact absurd (Option.some.inj hid).symm heq

theorem Shape.attends (hw : v.Shape call reply w) (ho : v.Orderly none)
    (h : v.Faithful) (hcall : call ≠ .tearDown) (id : TaskId) :
    v.Attends call reply id w := by
  cases hw with
  | rests _ hw => exact hw.calm.attends
  | ticks _ hw => exact hw.calm.attends
  | @beats _ u saved hu =>
      have hadvanced := ho.advanced
      have hpasses : View.Passes _ (fun _ => False) _ := hu.passes hadvanced
      exact .switched ((calm_platform v _).trans hu.calm) hu.sameStacks h
        hpasses.orderly saved
  | switches saved => exact .switched (.refl v) (.refl v) h ho saved
  | stops hrunning _ _ hu _ hw =>
      exact ((hu.calm hrunning).trans hw.calm).attends
  | @serves _ _ brought first u _ hu hbrings hreply _ hw =>
      by_cases heq : id = first
      · subst heq
        refine .served ⟨hu.first, hu.running, hreply, ?_,
          hw.pending.trans hbrings.symm⟩
        rw [hbrings]
        exact Option.some_ne_none brought
      · refine .kept ((hw.frame heq).pending.trans (hu.calm.frame id).pending)
          fun hid => ?_
        rw [hw.calm.running] at hid
        exact hu.calm.running ▸ hid
  | @resumes other => exact (calm_readied v other).attends
  | @shelves other => exact (calm_shelved v other).attends
  | @enrols spec _ new stack offset hnew hphase =>
      have hrunning :=
        (ho.nobody_next (by rcases hphase with h | h <;> simp [h])).1
      refine .kept ?_ fun hid => ?_
      · rw [task_enrolled, h.pending_eq_none hrunning]
        split
        · rfl
        · exact h.pending_eq_none hrunning id
      · cases hmode : spec.mode <;> rw [hmode] at hid <;> exact hid
  | enters first platform hphase =>
      have hrunning := (ho.nobody_next (by rw [hphase]; decide)).1
      have hframe : ((v.entered first platform).task id).SameFrame
          (v.task id) :=
        (calm_promoted v first).frame id
      have hnone := h.pending_eq_none hrunning id
      by_cases heq : first = id
      · refine .entered ?_ (congrArg some heq) (hframe.pending.trans hnone) ?_
        · rw [hrunning]
          exact (Option.some_ne_none id).symm
        · rw [hnone]
          exact .plainly hframe.delivered (sameStacks_promoted v first)
      · exact .kept hframe.pending fun hid => absurd (Option.some.inj hid) heq
  | clears => exact absurd rfl hcall

end Faithful

end View

end TickKernel
