/-
How waits end, over a history.  What a task is owed is made from the history
alone: the reply of the call that served its last wait, unless the task got to
the processor since.  The kernel keeps exactly that for it, whatever becomes of
the task, and hands it over at the switch to the task; a wait that ends in
another way leaves nothing.
-/
import TickKernel.Proofs.Replies

namespace TickKernel

/-! ### What a task is owed -/

namespace Step

/-- The task gets to the processor in the step. -/
def enters (step : Step) (id : TaskId) : Bool :=
  step.before.running != some id && step.after.running == some id

/-- The reply that the step has for a task whose wait it serves. -/
def grants (step : Step) (id : TaskId) : Option Reply :=
  if step.rouses id ∧ step.answer.toReply.status = .success then
    step.call.direct.brings
  else none

end Step

/-- The reply that the task is owed after a history. -/
def owed (id : TaskId) : List Step → Option Reply
  | [] => none
  | step :: steps =>
      if step.enters id ∨ step.call.direct = .tearDown then none
      else (step.grants id).or (owed id steps)

/-- The task gets to the processor with what it was owed: the reply itself, and
its status and the low half of its value in the saved r0 and r1.  Nothing else
is written. -/
inductive Step.Resumes (step : Step) (id : TaskId) : Option Reply → Prop
  | plainly (hdelivered : (step.after.task id).delivered =
    (step.before.task id).delivered)
      (hwords : ∀ other,
        step.after.stackWords other = step.before.stackWords other) :
      Resumes step id none
  | answered (reply : Reply) (pointer : StackPointer) (offset : Nat)
      (hsaved : (step.before.task id).savedAt = some pointer)
      (hoffset : offset =
        Frame.replyOffset (step.before.stackWords pointer.owner) pointer.offset)
      (hdelivered : (step.after.task id).delivered = some reply)
      (hwords : ∀ other, step.after.stackWords other =
        if pointer.owner = other then
          ((step.before.stackWords other).setIfInBounds offset
            reply.status.code).setIfInBounds (offset + 1) reply.value.toUInt32
        else step.before.stackWords other) :
      Resumes step id (some reply)

section Steps

variable {step : Step} {earlier steps : List Step} {k : Kernel} {id : TaskId}

theorem Step.enters_iff : step.enters id = true ↔
    step.before.view.running ≠ some id ∧ step.after.view.running = some id := by
  rw [enters, Bool.and_eq_true, bne_iff_ne, beq_iff_eq]
  rfl

/-- A wait that was not served leaves no reply. -/
theorem Step.grants_of_lapsed (h : step.before.view.Lapsed step.call.direct
    step.answer.toReply id step.after.view) : step.grants id = none := by
  rw [grants]
  split
  · rename_i hserved
    exact h.unserved.resolve_right fun hfails => hfails hserved.2
  · rfl

/-- A wait that was served leaves the reply of the call, and the task does not
run yet. -/
theorem Step.grants_of_served
    (h : step.before.view.Served step.call.direct step.answer.toReply id
      step.after.view)
    (ho : step.before.view.Orderly none) (ho' : step.after.view.Orderly none)
    (hfaithful : step.after.view.Faithful) :
    step.grants id = step.call.direct.brings ∧ step.enters id = false := by
  have hpending : (step.after.view.task id).pending ≠ none := by
    rw [h.pending]
    exact h.brings
  obtain ⟨-, -, hother, hmay⟩ := hfaithful.pending id hpending
  have hrouses : step.rouses id = true := by
    obtain ⟨resource, rest, -, hfirst⟩ := h.first
    have hmem : id ∈ step.before.view.blocked resource := by
      rw [hfirst]
      exact List.mem_cons_self
    refine step.rouses_iff.mpr ⟨ho.waiting_of_blocked hmem, ?_⟩
    refine ho'.not_mem_waiting fun hwaiting => ?_
    rw [Task.mayBeOwed, hwaiting] at hmay
    cases hmay
  refine ⟨if_pos ⟨hrouses, h.success⟩, ?_⟩
  rw [← Bool.not_eq_true, step.enters_iff]
  exact fun hnow => hother hnow.2

theorem Step.resumes {owed : Option Reply}
    (h : step.before.view.Resumes id owed step.after.view) :
    step.Resumes id owed := by
  cases h with
  | plainly hdelivered hstacks =>
      exact .plainly hdelivered fun other =>
        congrArg Stack.words (hstacks other)
  | answered reply pointer hsaved hdelivered hstacks =>
      refine .answered reply pointer _ hsaved rfl hdelivered fun other => ?_
      have hwords : step.after.stackWords other = _ :=
        congrArg Stack.words (hstacks other)
      rw [hwords]
      by_cases heq : pointer.owner = other
      · subst heq
        rw [if_pos rfl, if_pos rfl]
        rfl
      · rw [if_neg heq, if_neg heq]
        rfl

/-! ### Over a run -/

theorem Run.faithful (hrun : Run steps k) : k.view.Faithful := by
  induction steps generalizing k with
  | nil =>
      cases hrun with
      | fresh platform =>
          rw [(Kernel.fresh_shows platform).view_eq]
          exact View.faithful_blank platform
  | cons step earlier ih =>
      obtain ⟨ho, hw, -⟩ := hrun.performs
      obtain ⟨hbefore, rfl, -⟩ := hrun.last
      exact (hw.shape ho).faithful ho (ih hbefore)

/-- Nothing waits for a task that runs, waits itself or is done. -/
theorem Run.pending_eq_none (hrun : Run steps k)
    (h : k.running = some id ∨ (k.task id).status = .waiting ∨
      (k.task id).status = .finished) : (k.task id).pending = none := by
  by_contra hpending
  obtain ⟨-, -, hother, hmay⟩ := hrun.faithful.pending id hpending
  rcases h with hrunning | hstatus | hstatus
  · exact hother hrunning
  · have hmay' : (k.task id).mayBeOwed = true := hmay
    rw [Task.mayBeOwed, hstatus] at hmay'
    cases hmay'
  · have hmay' : (k.task id).mayBeOwed = true := hmay
    rw [Task.mayBeOwed, hstatus] at hmay'
    cases hmay'

theorem Run.pending_of_waiting (hrun : Run steps k)
    (hid : id ∈ k.view.waiting) :
    (k.task id).pending = none :=
  hrun.pending_eq_none
    (Or.inr (Or.inl ((hrun.sound.orderly.queued.mem_waiting id).mp hid).2.1))

/-- What waits for a task is what it is owed. -/
theorem Run.pending_eq (hrun : Run steps k) :
    (k.task id).pending = owed id steps := by
  induction steps generalizing k with
  | nil =>
      have hnone : (k.view.task id).pending = none :=
        hrun.faithful.pending_eq_none (by cases hrun; rfl) id
      exact hnone
  | cons step earlier ih =>
      obtain ⟨ho, hw, ho'⟩ := hrun.performs
      have hfaithful := hrun.faithful
      obtain ⟨hbefore, rfl, -⟩ := hrun.last
      rw [owed]
      by_cases htearDown : step.call.direct = .tearDown
      · rw [if_pos (Or.inr htearDown)]
        exact hfaithful.pending_eq_none (by rw [hw.tornDown htearDown]; rfl) id
      have hbook := ih hbefore
      cases (hw.shape ho).attends ho hbefore.faithful htearDown id with
      | served hserved =>
          obtain ⟨hgrants, hstays⟩ :=
            Step.grants_of_served hserved ho ho' hfaithful
          obtain ⟨reply, hreply⟩ := Option.ne_none_iff_exists'.mp hserved.brings
          rw [if_neg (by simp [hstays, htearDown]), hgrants, hreply,
            Option.some_or]
          exact hserved.pending.trans hreply
      | entered hother hnow hpending =>
          rw [if_pos (Or.inl (step.enters_iff.mpr ⟨hother, hnow⟩))]
          exact hpending
      | kept hpending hstays =>
          have hnot : ¬step.enters id = true := fun henters =>
            (step.enters_iff.mp henters).1
              (hstays (step.enters_iff.mp henters).2)
          have hgrants : step.grants id = none := by
            by_cases hrouses : step.rouses id = true
            · obtain ⟨hwaiting, hgone⟩ := step.rouses_iff.mp hrouses
              rcases (hw.shape ho).served_or_lapsed ho htearDown hwaiting
                hgone with hserved | hlapsed
              · refine absurd ?_ hserved.brings
                rw [← hserved.pending, hpending]
                exact hbefore.pending_of_waiting hwaiting
              · exact step.grants_of_lapsed hlapsed
            · exact if_neg fun hboth => hrouses hboth.1
          rw [if_neg (by simp [hnot, htearDown]), hgrants, Option.none_or,
            ← hbook]
          exact hpending

/-- How waits of the task end in a history that leads to the kernel. -/
structure Answered (id : TaskId) (steps : List Step) (k : Kernel) : Prop where
  /-- A wait ends because the call serves it, and then the reply of the call
  waits for the task; or because the task is suspended or its time is over, and
  then nothing does. -/
  ended : ∀ step earlier, step :: earlier <:+ steps → step.rouses id = true →
    step.call.direct ≠ .tearDown →
      step.before.view.Served step.call.direct step.answer.toReply id
      step.after.view ∨
        step.before.view.Lapsed step.call.direct step.answer.toReply id
        step.after.view ∧
          (step.after.task id).pending = none
  /-- What the task is owed waits for it, -/
  pending_eq : (k.task id).pending = owed id steps
  /-- is left alone by all calls that do not bring it to the processor, -/
  kept : ∀ step earlier reply, step :: earlier <:+ steps →
    owed id earlier = some reply →
    step.enters id = false → step.call.direct ≠ .tearDown →
      (step.after.task id).pending = some reply
  /-- and is handed over, once, when the task gets there. -/
  resumed : ∀ step earlier, step :: earlier <:+ steps → step.enters id = true →
    step.Resumes id (owed id earlier) ∧ (step.after.task id).pending = none
  pending_eq_none : k.running = some id ∨ (k.task id).status = .waiting ∨
    (k.task id).status = .finished → (k.task id).pending = none

/-- After any calls all replies were handed over, or wait for their tasks. -/
theorem Run.answered (hrun : Run steps k) (id : TaskId) :
    Answered id steps k := by
  refine ⟨fun step earlier hsuffix hrouses htearDown => ?_, hrun.pending_eq,
    fun step earlier reply hsuffix howed hstays htearDown => ?_,
    fun step earlier hsuffix henters => ?_, hrun.pending_eq_none⟩
  · have hpart := hrun.of_suffix hsuffix
    obtain ⟨ho, hw, ho'⟩ := hpart.performs
    obtain ⟨hbefore, -, -⟩ := hpart.last
    obtain ⟨hwaiting, hgone⟩ := step.rouses_iff.mp hrouses
    rcases (hw.shape ho).served_or_lapsed ho htearDown hwaiting
      hgone with hserved | hlapsed
    · exact Or.inl hserved
    · refine Or.inr ⟨hlapsed, ?_⟩
      rw [hpart.pending_eq, owed]
      split
      · rfl
      · rw [step.grants_of_lapsed hlapsed, Option.none_or, ← hbefore.pending_eq]
        exact hbefore.pending_of_waiting hwaiting
  · have hpart := hrun.of_suffix hsuffix
    obtain ⟨hbefore, -, -⟩ := hpart.last
    have hgrants : step.grants id = none := by
      refine if_neg fun hserved => ?_
      obtain ⟨hwaiting, -⟩ := step.rouses_iff.mp hserved.1
      have hnone := hbefore.pending_of_waiting hwaiting
      rw [hbefore.pending_eq, howed] at hnone
      cases hnone
    rw [hpart.pending_eq, owed, if_neg (by simp [hstays, htearDown]), hgrants,
      Option.none_or, howed]
  · have hpart := hrun.of_suffix hsuffix
    obtain ⟨ho, hw, -⟩ := hpart.performs
    obtain ⟨hbefore, -, -⟩ := hpart.last
    obtain ⟨hother, hnow⟩ := step.enters_iff.mp henters
    refine ⟨?_, hpart.pending_eq_none (Or.inl hnow)⟩
    have htearDown : step.call.direct ≠ .tearDown := by
      intro htearDown
      rw [hw.tornDown htearDown] at hnow
      cases hnow
    cases (hw.shape ho).attends ho hbefore.faithful htearDown id with
    | served hserved =>
        have hpending :=
          hserved.pending.symm.trans (hpart.pending_eq_none (Or.inl hnow))
        exact absurd hpending hserved.brings
    | entered _ _ _ hresumes =>
        rw [← hbefore.pending_eq]
        exact step.resumes hresumes
    | kept _ hstays => exact absurd (hstays hnow) hother

end Steps

namespace Witness

/-- Task A waits for a message and is sent one while a switch to task C is
pending.  It is set aside and resumed before it is on the processor again.  Task
C waits for a message too, until its time is over. -/
def keptForLater : List Call :=
  trio ++ [.createQueue 1, .receive box 90, .switchOver, .tick,
    .send box 0x700000005 0,
    .suspend taskA, .resume taskA, .switchOver, .receive box 2, .switchOver,
    .beat, .beat]

theorem answered_keptForLater :
    Run (history keptForLater).1 (history keptForLater).2 ∧
      ((history keptForLater).2.task taskA).delivered = some (.ok 0x700000005) ∧
      (history keptForLater).2.savedReply ⟨taskA, 31⟩ = .ok 5 ∧
      ((history keptForLater).2.task taskC).delivered = none ∧
      Answered taskA (history keptForLater).1 (history keptForLater).2 ∧
      Answered taskC (history keptForLater).1 (history keptForLater).2 :=
  ⟨run_history _, by decide +kernel, by decide +kernel, by decide +kernel,
    (run_history _).answered taskA, (run_history _).answered taskC⟩

end Witness

end TickKernel
