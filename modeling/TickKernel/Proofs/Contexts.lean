/-
Where tasks go on.  A history alone says from which frame a task is to resume:
the one stored when it was last taken off the processor, or the first one that
was laid out for it.  The kernel resumes it from exactly that frame, stores a
frame for nobody but the outgoing task, and writes on a stack only the reply of
the task that it resumes.
-/
import TickKernel.Proofs.Frames
import TickKernel.Proofs.Lists

namespace TickKernel

/-! ### Frames by the history -/

namespace Kernel

/-- The frame lies on the task's own stack. -/
def holdsFrame (k : Kernel) (id : TaskId) (pointer : StackPointer) : Bool :=
  pointer.owner == id && Frame.fits (k.stackWords id) pointer.offset

/-- The frame that is stored for the task, if any, lies on its own stack. -/
def keepsFrame (k : Kernel) (id : TaskId) : Bool :=
  (k.task id).savedAt.all (k.holdsFrame id)

/-- The task can be resumed from a frame on its own stack. -/
def Framed (k : Kernel) (id : TaskId) : Prop :=
  ∃ start, (k.task id).savedAt = some ⟨id, start⟩ ∧
    Frame.fits (k.stackWords id) start = true

/-- Every task that does not run has such a frame. -/
def OthersFramed (k : Kernel) : Prop :=
  ∀ id, k.view.Registered id → k.running ≠ some id → k.Framed id

end Kernel

namespace Step

/-- The task writes on its stack in the step. -/
def writesOn (step : Step) (id : TaskId) : Bool :=
  match step.call with
  | .poke other _ _ => other == id
  | _ => false

/-- The frame that the step stores for the task. -/
def saves (step : Step) (id : TaskId) : Option StackPointer :=
  match step.call with
  | .switchFrom saved =>
      if step.before.scheduled ≠ none ∧ step.before.running = some id then saved
        else none
  | _ => none

/-- A frame that is handed over lies on the stack of the running task.  Where
none is handed over, whoever is taken off the processor has one stored, unless
it never wrote on its stack.  Only a task that runs may write over the frame
that is stored for it. -/
def keepsFrames (step : Step) (earlier : List Step) : Bool :=
  match step.call with
  | .switchFrom (some pointer) =>
      step.before.running.all (step.before.holdsFrame · pointer)
  | .switchFrom none | .switchOver | .beat =>
      step.before.running.all fun id => step.after.running == some id ||
        step.before.keepsFrame id || !earlier.any (·.writesOn id)
  | .poke id _ _ => step.before.running == some id || step.after.keepsFrame id
  | _ => true

end Step

/-- All frames were kept. -/
def framed : List Step → Bool
  | [] => true
  | step :: earlier => framed earlier && step.keepsFrames earlier

/-- The frame from which the task is to resume. -/
def resumePoint (id : TaskId) : List Step → Option StackPointer
  | [] => none
  | step :: steps =>
      match step.call, step.answer with
      | .tearDown, _ => none
      | .register spec, .task (.ok new) =>
          if new = id then some ⟨id, spec.stack.firstFrame⟩
            else resumePoint id steps
      | _, _ => (step.saves id).or (resumePoint id steps)

/-- The task, which has a reply, gets to the processor and finds the reply in
its frame: the status in the saved r0 and the low half of the value in the saved
r1. -/
structure Step.Fills (step : Step) (id : TaskId) (start : Nat) (reply : Reply) :
    Prop where
  saved : (step.before.task id).savedAt = some ⟨id, start⟩
  room : Frame.replyOffset (step.before.stackWords id) start + 1 <
    (step.before.stackWords id).size
  words : step.after.stackWords id =
    ((step.before.stackWords id).setIfInBounds
      (Frame.replyOffset (step.before.stackWords id) start)
      reply.status.code).setIfInBounds
        (Frame.replyOffset (step.before.stackWords id) start + 1)
        reply.value.toUInt32

section Steps

variable {step : Step} {earlier steps : List Step} {k : Kernel} {id : TaskId}
  {pointer : StackPointer} {saved : Option StackPointer}

theorem Kernel.holdsFrame_iff : k.holdsFrame id pointer = true ↔
    pointer = ⟨id, pointer.offset⟩ ∧
    Frame.fits (k.stackWords id) pointer.offset = true := by
  obtain ⟨owner, offset⟩ := pointer
  simp [Kernel.holdsFrame]

theorem Kernel.framed_of_keepsFrame (h : k.keepsFrame id = true)
    (hsaved : (k.task id).savedAt ≠ none) : k.Framed id := by
  obtain ⟨pointer, hpointer⟩ := Option.ne_none_iff_exists'.mp hsaved
  rw [Kernel.keepsFrame, hpointer, Option.all_some, Kernel.holdsFrame_iff] at h
  rw [h.1] at hpointer
  exact ⟨pointer.offset, hpointer, h.2⟩

/-! ### Registrations and stored frames -/

theorem Run.registered_iff (hrun : Run steps k) :
    k.view.Registered id ↔ id ∈ registrations steps := by
  rw [hrun.registrations_eq]
  exact (hrun.sound.orderly.staffed.mem_all id).symm

/-- A task that is there has just been registered, or was there before. -/
theorem Run.registered_before (hrun : Run (step :: earlier) k)
    (hid : k.view.Registered id) :
    (∃ spec, step.call = .register spec ∧ step.answer = .task (.ok id)) ∨
      step.before.view.Registered id := by
  obtain ⟨hbefore, -, -⟩ := hrun.last
  rw [hrun.registered_iff, registrations] at hid
  rw [hbefore.registered_iff]
  split at hid
  · cases hid
  · rename_i spec new hcall hanswer
    rcases List.mem_cons.mp hid with rfl | hid
    · exact Or.inl ⟨spec, hcall, hanswer⟩
    · exact Or.inr hid
  · exact Or.inr hid

/-- A task is registered on a stack of its own, and only once. -/
theorem Run.registers (hrun : Run (step :: earlier) k) {spec : TaskSpec}
    (hcall : step.call = .register spec)
    (hanswer : step.answer = .task (.ok id)) :
    ¬step.before.view.Registered id ∧
      spec.stack.prepare step.before.platform.seeded spec.entry spec.param
        step.before.platform.exitAddress (UInt64.ofNat id.val) =
          .ok (.ok ((step.after.task id).stack, spec.stack.firstFrame)) ∧
      (step.after.task id).savedAt = some ⟨id, spec.stack.firstFrame⟩ := by
  obtain ⟨hbefore, -, hperform⟩ := hrun.last
  rw [hcall, hanswer] at hperform
  refine hbefore.sound.registered ?_
  change Kernel.answering Answer.task <$> step.before.register spec =
    _ at hperform
  cases hregister : step.before.register spec with
  | error halt =>
      rw [hregister] at hperform
      cases hperform
  | ok verdict =>
      rw [hregister] at hperform
      obtain ⟨result, k'⟩ := verdict
      cases hperform
      rfl

theorem Run.ne_tearDown_of_registered (hrun : Run (step :: earlier) k)
    (hid : k.view.Registered id) : step.call ≠ .tearDown := by
  intro hcall
  rw [hrun.registered_iff, registrations, hcall] at hid
  cases hid

theorem Step.saves_eq_none (hcall : step.call.isSwitch = false) :
    step.saves id = none := by
  rw [Step.saves]
  split
  · rename_i saved hfrom
    rw [hfrom] at hcall
    cases hcall
  · rfl

/-- The frame that a task resumes from after a call is the one that the call
stores, or else the one from before. -/
theorem Run.savedAt_cons (hrun : Run (step :: earlier) k)
    (hcall : step.call ≠ .tearDown) (hid : step.before.view.Registered id) :
    (step.after.task id).savedAt =
      (step.saves id).or (step.before.task id).savedAt := by
  obtain ⟨ho, hw, -⟩ := hrun.performs
  obtain ⟨hbefore, -, hperform⟩ := hrun.last
  cases hswitch : step.call.isSwitch with
  | false =>
      rw [Step.saves_eq_none hswitch, Option.none_or]
      exact ((hw.shape ho).unswitched ho (Call.direct_ne_tearDown hcall)
        (Call.isSwitch_direct hswitch)).savedAt id hid
  | true =>
      rw [Step.saves]
      rcases Call.eq_of_isSwitch hswitch with hkind | hkind | ⟨saved, hkind⟩ <;>
        rw [hkind] at hperform ⊢
      · obtain ⟨answer, hresult, hafter⟩ := eq_ok_of_map hperform
        have hsecond : answer.2 = step.after := congrArg Prod.snd hafter
        rw [← hsecond, Option.none_or]
        exact hbefore.sound.savedAt_beat id hresult
      · have hafter : step.before.switchOver.2 = step.after :=
          congrArg Prod.snd (Except.ok.inj hperform)
        rw [← hafter, Option.none_or]
        exact hbefore.sound.shows.savedAt_switchOver id
      · have hafter : (step.before.switchFrom saved).2 = step.after :=
          congrArg Prod.snd (Except.ok.inj hperform)
        rw [← hafter, (hbefore.sound.shows.switchFrom saved).task_eq]
        exact step.before.view.savedAt_switchedFrom saved id

theorem resumePoint_registered {spec : TaskSpec}
    (hcall : step.call = .register spec)
    (hanswer : step.answer = .task (.ok id)) :
    resumePoint id (step :: earlier) = some ⟨id, spec.stack.firstFrame⟩ := by
  rw [resumePoint, hcall, hanswer]
  exact if_pos rfl

theorem resumePoint_cons (hcall : step.call ≠ .tearDown)
    (hother : ∀ spec, step.call = .register spec →
      step.answer ≠ .task (.ok id)) :
    resumePoint id (step :: earlier) = (step.saves id).or
      (resumePoint id earlier) := by
  rw [resumePoint]
  split
  · rename_i htearDown
    exact absurd htearDown hcall
  · rename_i spec new hregister hanswer
    have hne : new ≠ id := by
      rintro rfl
      exact hother spec hregister hanswer
    rw [if_neg hne, Step.saves, hregister]
    rfl
  · rfl

/-- The kernel knows from which frame each task is to resume. -/
theorem Run.savedAt_eq (hrun : Run steps k) (hid : k.view.Registered id) :
    (k.task id).savedAt = resumePoint id steps := by
  induction steps generalizing k with
  | nil => exact absurd (hrun.registered_iff.mp hid) List.not_mem_nil
  | cons step earlier ih =>
      have hcall := hrun.ne_tearDown_of_registered hid
      have hbefore' := hrun.registered_before hid
      obtain ⟨hbefore, rfl, -⟩ := hrun.last
      rcases hbefore' with ⟨spec, hregister, hanswer⟩ | hold
      · rw [resumePoint_registered hregister hanswer]
        exact (hrun.registers hregister hanswer).2.2
      · have hother : ∀ spec, step.call = .register spec →
            step.answer ≠ .task (.ok id) :=
          fun spec hregister hanswer =>
            (hrun.registers hregister hanswer).1 hold
        rw [hrun.savedAt_cons hcall hold, resumePoint_cons hcall hother,
          ih hbefore hold]

/-! ### Words on the stacks -/

theorem Run.poked (hrun : Run (step :: earlier) k) {other : TaskId}
    {index : Nat} {word : Word} (hcall : step.call = .poke other index word) :
    step.after = step.before.poke other index word := by
  obtain ⟨-, -, hperform⟩ := hrun.last
  rw [hcall] at hperform
  exact (congrArg Prod.snd (Except.ok.inj hperform)).symm

/-- Writing on one stack leaves the other tasks alone. -/
theorem Kernel.task_poke_of_ne {other : TaskId} (index : Nat) (word : Word)
    (hne : other ≠ id) : (k.poke other index word).task id = k.task id := by
  rw [Kernel.poke, Kernel.modifyStack, Kernel.task_modifyTask, if_neg hne]

/-- What the step does to the stacks, unless a task writes on its own. -/
theorem Run.writes (hrun : Run (step :: earlier) k)
    (hcall : step.call ≠ .tearDown)
    (hpoke : ∀ id index word, step.call ≠ .poke id index word) :
    step.before.view.Writes step.after.view := by
  obtain ⟨ho, hw, -⟩ := hrun.performs
  obtain ⟨hbefore, -, -⟩ := hrun.last
  exact (hw.shape ho).writes ho hbefore.faithful (Call.direct_ne_tearDown hcall)
    fun id index word h => hpoke id index word (Call.eq_of_direct h rfl)

theorem Step.not_enters_of_running
    (hrunning : step.after.running = step.before.running) :
    step.enters id = false := by
  rw [← Bool.not_eq_true, Step.enters_iff]
  rintro ⟨hother, hnow⟩
  exact hother (hrunning.symm.trans hnow)

/-- The stack of a task is left alone unless the task gets to the processor with
a reply. -/
theorem Run.unwritten (hrun : Run (step :: earlier) k)
    (hcall : step.call ≠ .tearDown) (hframes : step.before.OthersFramed)
    (hid : step.before.view.Registered id) (hpoke : step.writesOn id = false)
    (h : step.enters id = false ∨ (step.before.task id).pending = none) :
    step.after.stackWords id = step.before.stackWords id := by
  by_cases hpokes : ∃ other index word, step.call = .poke other index word
  · obtain ⟨other, index, word, hpokes⟩ := hpokes
    have hne : other ≠ id := by
      rintro rfl
      rw [Step.writesOn, hpokes] at hpoke
      simp at hpoke
    rw [hrun.poked hpokes, Kernel.stackWords,
      Kernel.task_poke_of_ne index word hne]
    rfl
  · cases hrun.writes hcall fun other index word h =>
      hpokes ⟨other, index, word, h⟩ with
    | nothing hstacks => exact congrArg Stack.words (hstacks id hid)
    | reply next hreg hother hrunning hresumes =>
        obtain ⟨start, hsaved, -⟩ := hframes next hreg hother
        cases hpending : (step.before.view.task next).pending with
        | none =>
            rw [hpending] at hresumes
            cases hresumes with
            | plainly _ hstacks => exact congrArg Stack.words (hstacks id)
        | some reply =>
            rw [hpending] at hresumes
            cases hresumes with
            | answered _ pointer hpointer _ hstacks =>
                have howner : pointer.owner = next :=
                  (congrArg StackPointer.owner
                    (Option.some.inj (hsaved.symm.trans hpointer))).symm
                have hne : pointer.owner ≠ id := by
                  rw [howner]
                  rintro rfl
                  rcases h with hout | hnone
                  · have henters := Step.enters_iff.mpr ⟨hother, hrunning⟩
                    rw [hout] at henters
                    cases henters
                  · have hsome := hpending.symm.trans hnone
                    cases hsome
                have hsame := hstacks id
                rw [if_neg hne] at hsame
                exact congrArg Stack.words hsame

/-- A task that gets to the processor with a reply finds it in its frame. -/
theorem Run.fills (hrun : Run (step :: earlier) k) {reply : Reply}
    (hframes : step.before.OthersFramed) (henters : step.enters id = true)
    (hpending : (step.before.task id).pending = some reply) :
    ∃ start, step.Fills id start reply := by
  obtain ⟨hother, hnow⟩ := Step.enters_iff.mp henters
  have hcall : step.call ≠ .tearDown := by
    intro hcall
    obtain ⟨-, hw, -⟩ := hrun.performs
    rw [hw.tornDown (by rw [hcall]; rfl)] at hnow
    cases hnow
  have hpoke : ∀ other index word, step.call ≠ .poke other index word := by
    intro other index word hpokes
    have hsame : step.after.running = step.before.running := by
        rw [hrun.poked hpokes]; rfl
    rw [Step.not_enters_of_running hsame] at henters
    cases henters
  have hpending' : (step.before.view.task id).pending = some reply := hpending
  cases hrun.writes hcall hpoke with
  | nothing _ hnobody =>
      rcases hnobody id hnow with hsame | hnone
      · exact absurd hsame hother
      · rw [hpending'] at hnone
        cases hnone
  | reply next hreg _ hrunning hresumes =>
      obtain rfl : next = id := Option.some.inj (hrunning.symm.trans hnow)
      obtain ⟨start, hsaved, hfits⟩ := hframes next hreg hother
      rw [hpending'] at hresumes
      cases hresumes with
      | answered _ pointer hpointer _ hstacks =>
          obtain rfl : ⟨next, start⟩ = pointer :=
            Option.some.inj (hsaved.symm.trans hpointer)
          refine ⟨start, hsaved, of_decide_eq_true hfits, ?_⟩
          have hwritten := hstacks next
          rw [if_pos rfl] at hwritten
          exact congrArg Stack.words hwritten

/-! ### Frames over a run -/

theorem framed_cons (h : framed (step :: earlier) = true) :
    framed earlier = true ∧ step.keepsFrames earlier = true := by
  rwa [framed, Bool.and_eq_true] at h

theorem Step.saves_eq_some (h : step.saves id = some pointer) :
    step.call = .switchFrom (some pointer) ∧ step.before.scheduled ≠ none ∧
      step.before.running = some id := by
  rw [Step.saves] at h
  split at h
  · rename_i saved hcall
    split at h
    · rename_i hgoes
      rw [h] at hcall
      exact ⟨hcall, hgoes⟩
    · cases h
  · cases h

/-- A frame in memory that a task is to resume from after a step is still
there. -/
theorem Run.frame_stays (hrun : Run (step :: earlier) k)
    (hcall : step.call ≠ .tearDown) (hframes : step.before.OthersFramed)
    (hid : step.before.view.Registered id) (hpoke : step.writesOn id = false)
    {start : Nat} (hsaved : (step.after.task id).savedAt = some ⟨id, start⟩)
    (hfits : Frame.fits (step.before.stackWords id) start = true) :
    step.after.Framed id := by
  refine ⟨start, hsaved, ?_⟩
  by_cases hgets : step.enters id = true ∧ (step.before.task id).pending ≠ none
  · obtain ⟨reply, hpending⟩ := Option.ne_none_iff_exists'.mp hgets.2
    obtain ⟨other, hfills⟩ := hrun.fills hframes hgets.1 hpending
    have hnone : step.saves id = none := by
      by_contra hsome
      obtain ⟨pointer, hpointer⟩ := Option.ne_none_iff_exists'.mp hsome
      exact (Step.enters_iff.mp hgets.1).1 (Step.saves_eq_some hpointer).2.2
    rw [hrun.savedAt_cons hcall hid, hnone, Option.none_or, hfills.saved]
      at hsaved
    obtain rfl : other = start :=
      congrArg StackPointer.offset (Option.some.inj hsaved)
    rw [hfills.words]
    exact (Frame.fits_writeReply ..).trans hfits
  · have hstays : step.enters id = false ∨ (step.before.task id).pending =
        none := by
      rw [← Bool.not_eq_true]
      exact (not_and_or.mp hgets).imp_right not_not.mp
    rw [hrun.unwritten hcall hframes hid hpoke hstays]
    exact hfits

/-- Whoever leaves the processor without handing over a frame has one stored. -/
theorem Run.framed_of_leaves (hrun : Run (step :: earlier) k)
    (hcall : step.call ≠ .tearDown) (hkeeps : step.keepsFrames earlier = true)
    (hframe : earlier.any (·.writesOn id) = false → step.before.Framed id)
    (hid : step.before.view.Registered id)
    (hrunning : step.before.running = some id)
    (hleaves : step.after.running ≠ some id) (hsaves : step.saves id = none) :
    step.before.Framed id := by
  obtain ⟨ho, hw, -⟩ := hrun.performs
  obtain ⟨hbefore, -, hperform⟩ := hrun.last
  have hsaved : (step.before.task id).savedAt ≠ none :=
    hbefore.faithful.framed id hid
  have hstored :
      (step.before.running.all fun id => step.after.running == some id ||
      step.before.keepsFrame id || !earlier.any (·.writesOn id)) = true →
        step.before.Framed id := by
    intro hall
    rw [hrunning, Option.all_some, Bool.or_eq_true, Bool.or_eq_true, beq_iff_eq,
      Bool.not_eq_true'] at hall
    rcases hall with (hsame | hkept) | hnever
    · exact absurd hsame hleaves
    · exact Kernel.framed_of_keepsFrame hkept hsaved
    · exact hframe hnever
  have hswitch : step.call.isSwitch = true := by
    by_contra hno
    rw [Bool.not_eq_true] at hno
    exact hleaves (((hw.shape ho).unswitched ho (Call.direct_ne_tearDown hcall)
      (Call.isSwitch_direct hno)).running id hrunning)
  rw [Step.keepsFrames] at hkeeps
  rcases Call.eq_of_isSwitch hswitch with hkind | hkind | ⟨saved, hkind⟩
  · rw [hkind] at hkeeps
    exact hstored hkeeps
  · rw [hkind] at hkeeps
    exact hstored hkeeps
  · cases saved with
    | none =>
        rw [hkind] at hkeeps
        exact hstored hkeeps
    | some pointer =>
        rw [hkind] at hperform
        have hscheduled : step.before.scheduled ≠ none := by
          intro hnone
          have hafter := congrArg Prod.snd (Except.ok.inj hperform)
          dsimp only at hafter
          rw [step.before.switchFrom_of_nobody pointer hnone] at hafter
          exact hleaves (hafter ▸ hrunning)
        rw [Step.saves, hkind] at hsaves
        dsimp only at hsaves
        rw [if_pos ⟨hscheduled, hrunning⟩] at hsaves
        cases hsaves

/-- A task that runs may write over the frame that is stored for it, another one
may not. -/
theorem Run.framed_of_writesOn (hrun : Run (step :: earlier) k)
    (hkeeps : step.keepsFrames earlier = true)
    (hid : step.after.view.Registered id) (hpoke : step.writesOn id = true)
    (hout : step.after.running ≠ some id) :
    step.after.Framed id := by
  obtain ⟨-, rfl, -⟩ := hrun.last
  rw [Step.writesOn] at hpoke
  split at hpoke
  · rename_i other index word hpokes
    obtain rfl : other = id := eq_of_beq hpoke
    have hsame : step.after.running = step.before.running := by
      rw [hrun.poked hpokes]
      rfl
    rw [Step.keepsFrames, hpokes, Bool.or_eq_true, beq_iff_eq, ← hsame]
      at hkeeps
    exact Kernel.framed_of_keepsFrame (hkeeps.resolve_left hout)
      (hrun.faithful.framed other hid)
  · cases hpoke

/-- A frame that the platform hands over lies on the stack of the task that it
is stored for. -/
theorem Run.framed_of_saves (hrun : Run (step :: earlier) k)
    (hcall : step.call ≠ .tearDown) (hkeeps : step.keepsFrames earlier = true)
    (hframes : step.before.OthersFramed) (hid : step.before.view.Registered id)
    (hpoke : step.writesOn id = false) (hsaves : step.saves id = some pointer) :
    step.after.Framed id := by
  obtain ⟨hfrom, -, hrunning⟩ := Step.saves_eq_some hsaves
  rw [Step.keepsFrames, hfrom] at hkeeps
  dsimp only at hkeeps
  rw [hrunning, Option.all_some, Kernel.holdsFrame_iff] at hkeeps
  refine hrun.frame_stays hcall hframes hid hpoke ?_ hkeeps.2
  rw [hrun.savedAt_cons hcall hid, hsaves, Option.some_or, ← hkeeps.1]

/-- Without a new frame the one from before the step is still there. -/
theorem Run.framed_of_framed (hrun : Run (step :: earlier) k)
    (hcall : step.call ≠ .tearDown) (hframes : step.before.OthersFramed)
    (hid : step.before.view.Registered id) (hpoke : step.writesOn id = false)
    (hsaves : step.saves id = none) (hstands : step.before.Framed id) :
    step.after.Framed id := by
  obtain ⟨start, hsaved, hfits⟩ := hstands
  refine hrun.frame_stays hcall hframes hid hpoke ?_ hfits
  rw [hrun.savedAt_cons hcall hid, hsaves, Option.none_or, hsaved]

/-- Every task that does not run, or that never wrote on its stack, has a frame
there to resume from. -/
theorem Run.framed (hrun : Run steps k)
    (hframed : TickKernel.framed steps = true) (hid : k.view.Registered id)
    (h : k.running ≠ some id ∨ steps.any (·.writesOn id) = false) :
    k.Framed id := by
  induction steps generalizing k id with
  | nil => exact absurd (hrun.registered_iff.mp hid) List.not_mem_nil
  | cons step earlier ih =>
      obtain ⟨hearlier, hkeeps⟩ := framed_cons hframed
      have hcall := hrun.ne_tearDown_of_registered hid
      have hbefore' := hrun.registered_before hid
      obtain ⟨hbefore, rfl, -⟩ := hrun.last
      rcases hbefore' with ⟨spec, hregister, hanswer⟩ | hold
      · obtain ⟨-, hprepare, hsaved⟩ := hrun.registers hregister hanswer
        exact ⟨spec.stack.firstFrame, hsaved, (Stack.prepare_frame hprepare).2⟩
      have hframes : step.before.OthersFramed :=
        fun next hnext hother => ih hbefore hearlier hnext (Or.inl hother)
      rw [List.any_cons, Bool.or_eq_false_iff] at h
      cases hpoke : step.writesOn id with
      | true =>
          have hout := h.resolve_right fun hnever => by
            rw [hpoke] at hnever
            cases hnever.1
          exact hrun.framed_of_writesOn hkeeps hid hpoke hout
      | false =>
          have hnever : earlier.any (·.writesOn id) = false →
              step.before.Framed id :=
            fun hnever => ih hbefore hearlier hold (Or.inr hnever)
          cases hsaves : step.saves id with
          | some pointer =>
              exact hrun.framed_of_saves hcall hkeeps hframes hold hpoke hsaves
          | none =>
              refine hrun.framed_of_framed hcall hframes hold hpoke hsaves ?_
              by_cases hrunning : step.before.running = some id
              · rcases h with hleaves | huntouched
                · exact hrun.framed_of_leaves hcall hkeeps hnever hold
                    hrunning hleaves hsaves
                · exact hnever huntouched.2
              · exact hframes id hold hrunning

/-- The frames before the last call. -/
theorem Run.framed_before (hrun : Run (step :: earlier) k)
    (hframed : TickKernel.framed (step :: earlier) = true) :
    step.before.OthersFramed :=
  fun _ hnext hother =>
    hrun.last.1.framed (framed_cons hframed).1 hnext (Or.inl hother)

/-- How tasks are taken off the processor and brought back in a history that
leads to the kernel. -/
structure Intact (steps : List Step) (k : Kernel) : Prop where
  /-- What is stored for a task is the frame that it was last taken off with, or
  else its first one, -/
  savedAt_eq : ∀ id, k.isRegistered id = true →
    (k.task id).savedAt = resumePoint id steps
  /-- and a switch to the task answers with it. -/
  resumed : ∀ step earlier saved id, step :: earlier <:+ steps →
    step.call = .switchFrom saved → saved = none ∨
    step.before.scheduled ≠ none →
      step.after.running = some id →
        ∃ pointer, resumePoint id earlier = some pointer ∧
        step.answer = .frame (some pointer)
  /-- With nobody to switch to, the frame handed over comes back and nothing
  happens. -/
  goesOn : ∀ step earlier pointer, step :: earlier <:+ steps →
    step.call = .switchFrom (some pointer) → step.before.scheduled = none →
      step.answer = .frame (some pointer) ∧ step.after = step.before
  /-- A frame is stored for the outgoing task of a switch only. -/
  stored : ∀ step earlier id, step :: earlier <:+ steps →
    step.before.isRegistered id = true → step.after.isRegistered id = true →
      (step.after.task id).savedAt ≠ (step.before.task id).savedAt →
        step.before.running = some id ∧ step.before.scheduled ≠ none ∧
          ∃ pointer, step.call = .switchFrom (some pointer) ∧
            (step.after.task id).savedAt = some pointer
  /-- The first frame is laid out when the task is registered. -/
  laidOut : ∀ step earlier spec id, step :: earlier <:+ steps →
    step.call = .register spec → step.answer = .task (.ok id) →
      spec.stack.prepare step.before.platform.seeded spec.entry spec.param
        step.before.platform.exitAddress (UInt64.ofNat id.val) =
          .ok (.ok ((step.after.task id).stack, spec.stack.firstFrame))
  /-- Other calls leave the stack of a task alone, as long as it does not write
  there itself, -/
  unwritten : ∀ step earlier id, step :: earlier <:+ steps →
    step.before.isRegistered id = true → step.after.isRegistered id = true →
      step.writesOn id = false →
        step.enters id = false ∨ (step.before.task id).pending = none →
          step.after.stackWords id = step.before.stackWords id
  /-- but a task that gets to the processor with a reply finds that in its
  frame, in exactly two words. -/
  filled : ∀ step earlier id reply, step :: earlier <:+ steps →
    step.enters id = true → (step.before.task id).pending = some reply →
      ∃ start, resumePoint id earlier = some ⟨id, start⟩ ∧
      step.Fills id start reply

/-- A switch answers with the frame from which the incoming task is to
resume. -/
theorem Run.resumed (hrun : Run (step :: earlier) k)
    (hcall : step.call = .switchFrom saved)
    (hgoes : saved = none ∨ step.before.scheduled ≠ none)
    (hid : step.after.running = some id) :
    ∃ pointer, resumePoint id earlier = some pointer ∧
      step.answer = .frame (some pointer) := by
  obtain ⟨ho, -, ho'⟩ := hrun.performs
  obtain ⟨hbefore, hafter, hperform⟩ := hrun.last
  have hreg : step.before.view.Registered id := by
    have hthere := ho'.staffed.running_registered id hid
    rcases hrun.registered_before (hafter ▸ hthere) with ⟨spec, hregister,
      -⟩ | hold
    · rw [hcall] at hregister
      cases hregister
    · exact hold
  have hnone : step.saves id = none := by
    by_contra hsome
    obtain ⟨pointer, hpointer⟩ := Option.ne_none_iff_exists'.mp hsome
    obtain ⟨-, hscheduled, hrunning⟩ := Step.saves_eq_some hpointer
    obtain ⟨next, hnext⟩ := Option.ne_none_iff_exists'.mp hscheduled
    obtain ⟨hnextreg, -, hother⟩ := ho.staffed.scheduled_other next hnext
    obtain ⟨hplace, -⟩ := View.handsOver_switchedFrom hnext hother
      (hbefore.faithful.framed next hnextreg) saved
    rw [hcall] at hperform
    have hkernel : (step.before.switchFrom saved).2 = step.after :=
      congrArg Prod.snd (Except.ok.inj hperform)
    rw [← (hbefore.sound.shows.switchFrom saved).running_eq, hkernel, hid]
      at hplace
    rw [Option.some.inj hplace] at hrunning
    exact hother hrunning
  obtain ⟨pointer, hpointer⟩ :=
    Option.ne_none_iff_exists'.mp (hbefore.faithful.framed id hreg)
  refine ⟨pointer, (hbefore.savedAt_eq hreg).symm.trans hpointer, ?_⟩
  have hsaved := hrun.savedAt_cons (by rw [hcall]; exact Call.noConfusion) hreg
  rw [hcall] at hperform
  have hpair := Except.ok.inj hperform
  have hkernel : (step.before.switchFrom saved).2 = step.after :=
    congrArg Prod.snd hpair
  have hanswer : Answer.frame (step.before.switchFrom saved).1 = step.answer :=
    congrArg Prod.fst hpair
  have hfirst := Kernel.switchFrom_fst hgoes (hkernel ▸ hid)
  rw [← hanswer, hfirst, hkernel, hsaved, hnone, Option.none_or]
  exact congrArg Answer.frame hpointer

/-- As long as frames are kept, every task goes on from where it was taken off,
with nothing changed on its stack but for its reply. -/
theorem Run.intact (hrun : Run steps k)
    (hframed : TickKernel.framed steps = true) :
    Intact steps k := by
  have hsome : ∀ {k : Kernel} {id : TaskId} {steps : List Step}, Run steps k →
      k.isRegistered id = true → k.view.Registered id :=
    fun hrun hid => (hrun.sound.shows.isRegistered_iff _).mp hid
  have hpast : ∀ {earlier : List Step}, earlier <:+ steps →
      TickKernel.framed earlier = true :=
    of_suffix_of_cons (P := fun steps => TickKernel.framed steps = true)
      (fun _ _ h => (framed_cons h).1) hframed
  refine ⟨fun id hid => hrun.savedAt_eq (hsome hrun hid), ?_, ?_, ?_, ?_, ?_,
    ?_⟩
  · exact fun step earlier saved id hsuffix hcall hgoes hid =>
      (hrun.of_suffix hsuffix).resumed hcall hgoes hid
  · intro step earlier pointer hsuffix hcall hnone
    obtain ⟨-, -, hperform⟩ := (hrun.of_suffix hsuffix).last
    rw [hcall] at hperform
    have hpair := Except.ok.inj hperform
    rw [Kernel.switchFrom_of_nobody pointer hnone] at hpair
    exact ⟨(congrArg Prod.fst hpair).symm, (congrArg Prod.snd hpair).symm⟩
  · intro step earlier id hsuffix hid hid' hchanged
    have hpart := hrun.of_suffix hsuffix
    have hcall := hpart.ne_tearDown_of_registered (hsome hpart hid')
    have hsaved := hpart.savedAt_cons hcall (hsome hpart.last.1 hid)
    cases hsaves : step.saves id with
    | none =>
        rw [hsaves, Option.none_or] at hsaved
        exact absurd hsaved hchanged
    | some pointer =>
        obtain ⟨hfrom, hscheduled, hrunning⟩ := Step.saves_eq_some hsaves
        rw [hsaves, Option.some_or] at hsaved
        exact ⟨hrunning, hscheduled, pointer, hfrom, hsaved⟩
  · exact fun step earlier spec id hsuffix hcall hanswer =>
      ((hrun.of_suffix hsuffix).registers hcall hanswer).2.1
  · intro step earlier id hsuffix hid hid' hpoke hstays
    have hpart := hrun.of_suffix hsuffix
    have hframes := hpart.framed_before (hpast hsuffix)
    exact hpart.unwritten (hpart.ne_tearDown_of_registered (hsome hpart hid'))
      hframes (hsome hpart.last.1 hid) hpoke hstays
  · intro step earlier id reply hsuffix henters hpending
    have hpart := hrun.of_suffix hsuffix
    have hframes := hpart.framed_before (hpast hsuffix)
    obtain ⟨start, hfills⟩ := hpart.fills hframes henters hpending
    obtain ⟨hbefore, -, -⟩ := hpart.last
    have howed : (step.before.view.task id).pending ≠ none := by
      intro hnone
      cases hpending.symm.trans hnone
    have hreg := (hbefore.faithful.pending id howed).1
    exact ⟨start, (hbefore.savedAt_eq hreg).symm.trans hfills.saved, hfills⟩

end Steps

namespace Witness

/-- Task A is taken off before it ever ran.  Task B waits for a message, with a
frame that it laid out further down on its stack and with its first frame
overwritten; task C sends the message and goes off with a frame of its own; then
task B goes on, and goes on again when nobody else is scheduled. -/
def switched : List Call :=
  trio ++ [.tick, .switchFrom none, .createQueue 1, .receive box 90,
    .poke taskB 18 0xFFFFFFED,
    .poke taskB 39 0, .switchFrom (some ⟨taskB, 10⟩), .send box 0x700000005 0,
    .poke taskC 28 0xFFFFFFFD, .switchFrom (some ⟨taskC, 20⟩),
    .switchFrom (some ⟨taskB, 12⟩), .beat]

theorem intact_switched :
    Run (history switched).1 (history switched).2 ∧
      framed (history switched).1 = true ∧
      (history switched).1.length = 18 ∧
      resumePoint taskA (history switched).1 = some ⟨taskA, 31⟩ ∧
      resumePoint taskB (history switched).1 = some ⟨taskB, 10⟩ ∧
      resumePoint taskC (history switched).1 = some ⟨taskC, 20⟩ ∧
      (history switched).2.savedReply ⟨taskB, 10⟩ = .ok 5 ∧
      Intact (history switched).1 (history switched).2 :=
  ⟨run_history _, by decide +kernel, by decide +kernel, by decide +kernel,
    by decide +kernel, by decide +kernel, by decide +kernel,
    (run_history _).intact (by decide +kernel)⟩

end Witness

end TickKernel
