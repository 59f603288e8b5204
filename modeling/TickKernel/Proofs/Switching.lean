/-
The register switch, and what else touches the stacks of tasks.  None of it
moves a task between lists; the switch changes which task is running, and what
it writes on a stack never reaches the guard.
-/
import TickKernel.Proofs.Queues

namespace TickKernel

/-- A reply lies above the software part of a frame, and so above the guard. -/
theorem Frame.lt_replyOffset (memory : Array Word) (start : Nat) :
    0 < Frame.replyOffset memory start := by
  unfold Frame.replyOffset
  split <;> omega

theorem Frame.guard_writeReply (memory : Array Word) (start : Nat)
    (reply : Reply) :
    (Frame.writeReply memory start reply).getD 0 0 = memory.getD 0 0 := by
  have hpos := Frame.lt_replyOffset memory start
  unfold Frame.writeReply
  dsimp only
  rw [getD_setIfInBounds, if_neg (by omega), getD_setIfInBounds,
    if_neg (by omega)]

namespace View

/-! ### Touching tasks -/

/-- Tasks were changed in what lists and guards do not depend on. -/
structure Touched (v w : View) : Prop where
  lists : w = { v with task := w.task }
  alike : ∀ id, (w.task id).Alike (v.task id)
  guarded : ∀ id, (w.task id).isGuarded = (v.task id).isGuarded

/-- The outcomes of the switch: it takes place if it is pending. -/
structure Switched (v w : View) : Prop where
  lists : w =
    { v with task := w.task, running := w.running, scheduled := w.scheduled }
  alike : ∀ id, (w.task id).Alike (v.task id)
  guarded : ∀ id, (w.task id).isGuarded = (v.task id).isGuarded
  place : w.running = v.running ∧ w.scheduled = v.scheduled ∨
    v.scheduled ≠ none ∧ w.running = v.scheduled ∧ w.scheduled = none

/-- Task `id` is handed the reply that waits for it, in the frame that it
resumes from. -/
def delivered (v : View) (id : TaskId) : View :=
  match (v.task id).pending with
  | none => v
  | some reply =>
      let w := v.setTask id fun task =>
        { task with pending := none, delivered := some reply }
      match (v.task id).savedAt with
      | none => w
      | some pointer =>
          w.setTask pointer.owner fun task =>
            { task with
              stack := { task.stack with
                words :=
                  Frame.writeReply task.stack.words pointer.offset reply } }

/-- The scheduled task, if any, is the running one. -/
def relieved (v : View) : View :=
  match v.scheduled with
  | none => v
  | some next => { v with running := some next, scheduled := none }

/-- The running task is to resume from `pointer`. -/
def savedAt (v : View) (pointer : StackPointer) : View :=
  match v.running with
  | none => v
  | some id => v.setTask id fun task => { task with savedAt := some pointer }

/-- The running task is handed its reply. -/
def resumed (v : View) : View :=
  match v.running with
  | none => v
  | some id => v.delivered id

/-- The switch took place, with `saved` stored for the outgoing task. -/
def switchedFrom (v : View) (saved : Option StackPointer) : View :=
  match saved with
  | none => v.relieved.resumed
  | some pointer =>
      if v.scheduled.isNone then v else (v.savedAt pointer).relieved.resumed

section Touched

variable {u v w : View} {id : TaskId}

theorem Touched.refl (v : View) : v.Touched v :=
  ⟨rfl, fun _ => Task.Alike.refl _, fun _ => rfl⟩

theorem Touched.trans (h : u.Touched v) (h' : v.Touched w) : u.Touched w := by
  refine ⟨?_, fun id => Task.Alike.trans (h'.alike id) (h.alike id),
    fun id => (h'.guarded id).trans (h.guarded id)⟩
  rw [h'.lists, h.lists]

theorem Touched.setTask {f : Task → Task}
    (halike : (f (v.task id)).Alike (v.task id))
    (hguarded : (f (v.task id)).isGuarded = (v.task id).isGuarded) :
    v.Touched (v.setTask id f) := by
  refine ⟨rfl, fun other => ?_, fun other => ?_⟩
  · simp only [View.setTask]
    split
    · rename_i heq
      exact heq ▸ halike
    · exact Task.Alike.refl _
  · simp only [View.setTask]
    split
    · rename_i heq
      exact heq ▸ hguarded
    · rfl

theorem Touched.switched (h : v.Touched w) : v.Switched w :=
  ⟨by rw [h.lists], h.alike, h.guarded,
    Or.inl (by rw [h.lists]; exact ⟨rfl, rfl⟩)⟩

theorem Touched.switched_trans (h : u.Touched v) (h' : v.Switched w) :
    u.Switched w := by
  refine ⟨?_, fun id => (h'.alike id).trans (h.alike id),
    fun id => (h'.guarded id).trans (h.guarded id), ?_⟩
  · rw [h'.lists, h.lists]
  · have hplace := h'.place
    rw [h.lists] at hplace
    exact hplace

theorem Switched.touched_trans (h : u.Switched v) (h' : v.Touched w) :
    u.Switched w := by
  refine ⟨?_, fun id => (h'.alike id).trans (h.alike id),
    fun id => (h'.guarded id).trans (h.guarded id), ?_⟩
  · rw [h'.lists, h.lists]
  · rw [h'.lists]
    exact h.place

/-- Whoever is on the processor after a switch was expected there before. -/
theorem Switched.next_eq (h : v.Switched w) : w.next = v.next := by
  rcases h.place with ⟨hrunning, hscheduled⟩ | ⟨hpending, hrunning, hscheduled⟩
  · rw [next, next, hrunning, hscheduled]
  · obtain ⟨id, hid⟩ := Option.ne_none_iff_exists'.mp hpending
    rw [next, next, hscheduled, hrunning, hid]
    rfl

theorem Switched.orderly (h : v.Switched w) (hv : v.Orderly none) :
    w.Orderly none := by
  have htouched : { v with task := w.task }.Orderly none := hv.congr rfl h.alike
  have hnext := h.next_eq
  have hrunning : w.running ≠ none ↔ v.running ≠ none := by
    rcases h.place with ⟨hsame, -⟩ | ⟨hpending, hsame, -⟩
    · rw [hsame]
    · obtain ⟨id, hid⟩ := Option.ne_none_iff_exists'.mp hpending
      rw [hsame]
      exact iff_of_true hpending (hv.staffed.scheduled_other id hid).2.1
  have hregistered : ∀ id, w.running = some id → v.Registered id := by
    intro id hid
    rcases h.place with ⟨hsame, -⟩ | ⟨-, hsame, -⟩
    · exact hv.staffed.running_registered id (hsame ▸ hid)
    · exact (hv.staffed.scheduled_other id (hsame ▸ hid)).1
  have hother : ∀ id, w.scheduled = some id →
      v.Registered id ∧ w.running ≠ none ∧ w.running ≠ some id := by
    intro id hid
    rcases h.place with ⟨hsame, hscheduled⟩ | ⟨-, -, hnone⟩
    · rw [hsame]
      exact hv.staffed.scheduled_other id (hscheduled ▸ hid)
    · rw [hnone] at hid
      cases hid
  rw [h.lists] at hnext ⊢
  obtain ⟨hqueued, hparked, howned, hsupplied, hstaffed⟩ := htouched
  refine ⟨hqueued.congr rfl rfl rfl fun _ => ⟨rfl, rfl, rfl⟩,
    hparked.congr (Nat.le_refl _) (Nat.le_refl _) (Nat.le_refl _) rfl fun _ =>
      ⟨rfl, rfl, rfl, fun _ => rfl⟩, howned.congr rfl rfl rfl,
    hsupplied.congr rfl rfl rfl rfl,
    ⟨hstaffed.count_le, hstaffed.mem_all, hstaffed.all_sorted,
      hstaffed.populated_iff, hstaffed.started_iff.trans hrunning.symm,
      hstaffed.idle_iff, hstaffed.idle_runnable, hregistered, hother, ?_, ?_⟩⟩
  · intro id hactive
    rw [hnext]
    exact hstaffed.next_of_active id hactive
  · intro id hid
    rw [hnext] at hid
    exact hstaffed.active_of_next id hid

theorem Switched.quiet (h : v.Switched w) : v.Quiet w := by
  rw [h.lists]
  exact ⟨rfl, rfl, fun queue => .of_task (fun h => h) rfl rfl rfl fun id _ =>
    ⟨(h.alike id).message, (h.alike id).deadline⟩⟩

theorem touched_delivered (v : View) (id : TaskId) :
    v.Touched (v.delivered id) := by
  unfold delivered
  split
  · exact .refl v
  · rename_i reply hpending
    have hfirst : v.Touched (v.setTask id fun task =>
        { task with pending := none, delivered := some reply }) :=
      .setTask ⟨rfl, rfl, rfl, rfl, rfl, rfl⟩ rfl
    dsimp only
    split
    · exact hfirst
    · refine hfirst.trans (.setTask ⟨rfl, rfl, rfl, rfl, rfl, rfl⟩ ?_)
      simp only [Task.isGuarded, Task.lowestWord, Frame.guard_writeReply]

theorem touched_savedAt (v : View) (pointer : StackPointer) :
    v.Touched (v.savedAt pointer) := by
  unfold savedAt
  split
  · exact .refl v
  · exact .setTask ⟨rfl, rfl, rfl, rfl, rfl, rfl⟩ rfl

theorem touched_resumed (v : View) : v.Touched v.resumed := by
  unfold resumed
  split
  · exact .refl v
  · exact touched_delivered v _

theorem switched_relieved (v : View) : v.Switched v.relieved := by
  unfold relieved
  split
  · exact (Touched.refl v).switched
  · rename_i next hnext
    refine ⟨rfl, fun id => Task.Alike.refl _, fun _ => rfl,
      Or.inr ⟨?_, hnext.symm, rfl⟩⟩
    rw [hnext]
    exact Option.some_ne_none next

theorem switched_switchedFrom (v : View) (saved : Option StackPointer) :
    v.Switched (v.switchedFrom saved) := by
  unfold switchedFrom
  split
  · exact (switched_relieved v).touched_trans (touched_resumed _)
  · rename_i pointer
    split
    · exact (Touched.refl v).switched
    · exact ((touched_savedAt v pointer).switched_trans
        (switched_relieved _)).touched_trans (touched_resumed _)

end Touched

end View

/-! ### The switch -/

namespace Kernel

variable {k : Kernel} {v : View} {id : TaskId}

theorem Shows.deliver (h : k.Shows v) (id : TaskId) :
    (k.deliver id).Shows (v.delivered id) := by
  unfold Kernel.deliver View.delivered
  rw [h.task_eq]
  cases (v.task id).pending with
  | none => exact h
  | some reply =>
      have hfirst := h.modifyTask id fun task =>
        { task with pending := none, delivered := some reply }
      have hsaved : ((k.modifyTask id fun task =>
          { task with pending := none, delivered := some reply }).task
            id).savedAt = (v.task id).savedAt := by
        rw [task_modifyTask, if_pos rfl, h.task_eq]
      dsimp only
      rw [hsaved]
      cases (v.task id).savedAt with
      | none => exact hfirst
      | some pointer => exact hfirst.modifyTask pointer.owner _

theorem Shows.takeScheduled (h : k.Shows v) :
    k.takeScheduled.Shows v.relieved := by
  unfold Kernel.takeScheduled View.relieved
  rw [h.scheduled_eq]
  cases v.scheduled with
  | none => exact h
  | some next =>
      refine ⟨h.linked.of_same rfl rfl rfl rfl fun _ => rfl, ?_⟩
      rw [← h.view_eq]
      rfl

theorem Shows.saveRunning (h : k.Shows v) (pointer : StackPointer) :
    (k.saveRunning pointer).Shows (v.savedAt pointer) := by
  unfold Kernel.saveRunning View.savedAt
  rw [h.running_eq]
  cases v.running with
  | none => exact h
  | some id => exact h.modifyTask id _

theorem Shows.resumeRunning (h : k.Shows v) (saved : Option StackPointer) :
    (k.resumeRunning saved).2.Shows v.resumed := by
  unfold Kernel.resumeRunning View.resumed
  rw [h.running_eq]
  cases v.running with
  | none => exact h
  | some id => exact h.deliver id

theorem Shows.switchFrom (h : k.Shows v) (saved : Option StackPointer) :
    (k.switchFrom saved).2.Shows (v.switchedFrom saved) := by
  unfold Kernel.switchFrom View.switchedFrom
  split
  · exact h.takeScheduled.resumeRunning none
  · rename_i pointer
    rw [h.scheduled_eq]
    split
    · exact h
    · exact (h.saveRunning pointer).takeScheduled.resumeRunning (some pointer)

/-- Without a switch pending, nothing is as good as the switch from any
frame. -/
theorem Shows.switchOver (h : k.Shows v) :
    ∃ saved, k.switchOver.2.Shows (v.switchedFrom saved) := by
  unfold Kernel.switchOver
  split
  · rename_i hscheduled
    rw [h.scheduled_eq] at hscheduled
    refine ⟨some ⟨0, 0⟩, ?_⟩
    simpa only [View.switchedFrom, hscheduled, if_true] using h
  · exact ⟨_, h.switchFrom _⟩

end Kernel

end TickKernel
