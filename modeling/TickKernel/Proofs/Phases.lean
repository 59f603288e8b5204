/-
The life of a kernel by its history.  The calls since the kernel was last torn
down tell its phase: it is new until it is set up, takes tasks until it is
started, and then schedules.  A start that reports an error can be tried again,
with one exception: when the platform has come up but does not enter the first
task, the error comes too late, and scheduling has begun.
-/
import TickKernel.Proofs.Refusals

namespace TickKernel

/-! ### What was done since the kernel was torn down -/

namespace Step

/-- The kernel is set up. -/
def prepares (step : Step) : Bool :=
  step.call == .setUp && !step.answer.isError

/-- A task is registered. -/
def enrols (step : Step) : Bool :=
  match step.call with
  | .register _ => !step.answer.isError
  | _ => false

/-- The kernel is started without an error. -/
def starts (step : Step) : Bool :=
  step.call == .start && !step.answer.isError

/-- Scheduling begins. -/
def launches (step : Step) : Bool :=
  step.starts || step.failsToEnter

end Step

/-- The calls since the kernel was last torn down, newest first. -/
def era (steps : List Step) : List Step :=
  steps.takeWhile fun step => step.call != .tearDown

/-- The kernel was set up since it was last torn down. -/
def wasPrepared (steps : List Step) : Bool :=
  (era steps).any Step.prepares

/-- The kernel was started without an error since it was last torn down. -/
def wasStarted (steps : List Step) : Bool :=
  (era steps).any Step.starts

/-- Scheduling has begun since the kernel was last torn down. -/
def wasLaunched (steps : List Step) : Bool :=
  (era steps).any Step.launches

/-- The history of the kernel tells how far it has come, and which calls may
bring it further. -/
structure Lifecycle (steps : List Step) (k : Kernel) : Prop where
  running_iff : k.running.isSome = true ↔ k.phase = .started
  launched_iff : k.phase = .started ↔ wasLaunched steps = true
  started_iff : (∀ step ∈ era steps, step.failsToEnter = false) →
    (k.phase = .started ↔ wasStarted steps = true)
  prepares_iff : ∀ step earlier, step :: earlier <:+ steps →
    step.call = .setUp → (step.prepares = true ↔ wasPrepared earlier = false)
  enrols : ∀ step earlier, step :: earlier <:+ steps → step.enrols = true →
    wasPrepared earlier = true ∧ wasLaunched earlier = false
  starts_iff : ∀ step earlier, step :: earlier <:+ steps → step.call = .start →
    (step.starts = true ↔ step.before.phase = .populated ∧
      step.before.platform.setupFailure = none ∧
      step.before.platform.entryFailure = none)
  retry : ∀ step earlier, step :: earlier <:+ steps → step.call = .start →
    step.answer.isError = true → step.failsToEnter = false →
      step.after = step.before ∨ step.after = step.before.broughtUp

/-! ### Calls that leave the phase alone -/

/-- Whether the call is about the life of the kernel. -/
def Call.isVital : Call → Bool
  | .setUp | .register _ | .start | .tearDown => true
  | _ => false

/-- No service is about the life of the kernel. -/
theorem Call.isVital_of_isService {call : Call} (h : call.isService = true) :
    call.isVital = false := by
  cases call <;> first | rfl | cases h

namespace View

variable {v w : View} {call : Call} {answer : Answer}

theorem phase_switchedFrom (v : View) (saved : Option StackPointer) :
    (v.switchedFrom saved).phase = v.phase := by
  rw [(switched_switchedFrom v saved).lists]

theorem Delayed.phase_eq {ticks : Tick} {result : Except Error Unit}
    (hw : v.Delayed ticks result w) : w.phase = v.phase := by
  cases hw with
  | refused | nothing => rfl
  | slept _ _ _ hw => exact hw.phase_eq

theorem Suspended.phase_eq {id : TaskId} {result : Except Error Unit}
    (hw : v.Suspended id result w) : w.phase = v.phase := by
  cases hw with
  | refused | setAside => rfl
  | stopped _ _ _ hw => exact hw.phase_eq

theorem Acquired.phase_eq {mutex : MutexId} {timeout : Tick}
    {result : Except Error Unit} (hw : v.Acquired mutex timeout result w) :
    w.phase = v.phase := by
  cases hw with
  | refused | taken | again => rfl
  | parked _ _ _ _ _ _ hw => exact hw.phase_eq

theorem Released.phase_eq {mutex : MutexId} {result : Except Error Unit}
    (hw : v.Released mutex result w) : w.phase = v.phase := by
  cases hw with
  | refused | once | freed => rfl
  | passedOn _ _ _ _ hw => exact hw.phase_eq

theorem Sent.phase_eq {queue : QueueId} {message : Message} {timeout : Tick}
    {result : Except Error Unit} (hw : v.Sent queue message timeout result w) :
    w.phase = v.phase := by
  cases hw with
  | refused | stored => rfl
  | handed _ _ _ _ hw => exact hw.phase_eq
  | parked _ _ _ _ _ _ hw => exact hw.phase_eq

theorem Received.phase_eq {queue : QueueId} {timeout : Tick}
    {result : Except Error Message} (hw : v.Received queue timeout result w) :
    w.phase = v.phase := by
  cases hw with
  | refused | taken => rfl
  | refilled _ _ _ _ _ hw => exact hw.phase_eq
  | parked _ _ _ _ _ hw => exact hw.phase_eq

/-- Only the calls about the life of the kernel move it from phase to phase. -/
theorem Performs.phase_eq (hw : v.Performs call answer w)
    (hcall : call.isVital = false) :
    w.phase = v.phase := by
  induction hw with
  | setUp | register | start | tearDown => cases hcall
  | advance | setClock | setHooks | exitRoutine | spin | poke | unserved => rfl
  | tick hw | schedule hw => exact hw.phase_eq
  | switchOver switched saved => exact phase_switchedFrom v saved
  | @switchFrom saved => exact phase_switchedFrom v saved
  | @beat u _ saved hu => exact (phase_switchedFrom u saved).trans hu.phase_eq
  | delay hw => exact hw.phase_eq
  | suspend hw => exact hw.phase_eq
  | resume hw => cases hw <;> rfl
  | finish hw =>
      cases hw with
      | stopped _ _ _ hw => exact hw.phase_eq
  | createMutex hw => cases hw <;> rfl
  | acquire hw => exact hw.phase_eq
  | release hw => exact hw.phase_eq
  | createQueue hw => cases hw <;> rfl
  | send hw => exact hw.phase_eq
  | receive hw => exact hw.phase_eq
  | serve hservice _ ih =>
      exact ih
        (Call.isVital_of_isService (Call.isService_of_ofService hservice))

/-- A task is registered in a kernel that was set up and does not schedule
yet. -/
theorem Enrolled.phase_eq {spec : TaskSpec} {result : Except Error TaskId}
    (hw : v.Enrolled spec result w) :
    (Answer.task result).isError = true ∧ w.phase = v.phase ∨
      (Answer.task result).isError = false ∧
      (v.phase = .prepared ∨ v.phase = .populated) ∧
        w.phase = .populated := by
  cases hw with
  | refused error =>
      refine Or.inl ⟨?_, rfl⟩
      cases error <;> rfl
  | enrolled _ hphase =>
      refine Or.inr ⟨rfl, hphase, ?_⟩
      cases spec.mode <;> rfl

/-- There is somebody to start with as soon as a task is registered. -/
theorem Orderly.ready_ne_nil (h : v.Orderly none)
    (hphase : v.phase = .populated) :
    v.ready ≠ [] := by
  have hcount : 0 < v.taskCount := h.staffed.populated_iff.mp (Or.inl hphase)
  let first : TaskId := ⟨0, by decide⟩
  have hidle : v.idle = some first :=
    (h.staffed.idle_iff first).mpr ⟨rfl, hcount⟩
  have hready : first ∈ v.ready :=
    (h.queued.mem_ready first).mpr ⟨hcount,
      Or.inr (h.staffed.idle_runnable first hidle).1⟩
  exact List.ne_nil_of_mem hready

end View

/-! ### Phase by phase -/

/-- What a call means for the life of the kernel. -/
inductive Step.Turn (step : Step) : Prop
  | clears (hcall : step.call = .tearDown) (hafter : step.after.phase = .blank)
  | prepares (h : step.prepares = true) (hbefore : step.before.phase = .blank)
      (hafter : step.after.phase = .prepared)
  | enrols (h : step.enrols = true)
      (hbefore : step.before.phase = .prepared ∨ step.before.phase = .populated)
      (hafter : step.after.phase = .populated)
  | launches (h : step.launches = true)
      (hbefore : step.before.phase = .populated)
      (hafter : step.after.phase = .started)
  | rests (hcall : step.call ≠ .tearDown) (hprepares : step.prepares = false)
      (henrols : step.enrols = false) (hlaunches : step.launches = false)
      (hafter : step.after.phase = step.before.phase)

section Turns

variable {step : Step} {steps : List Step} {k : Kernel}

theorem Step.call_of_prepares (h : step.prepares = true) :
    step.call = .setUp := by
  rw [prepares, Bool.and_eq_true, beq_iff_eq] at h
  exact h.1

theorem Step.call_of_launches (h : step.launches = true) :
    step.call = .start := by
  simp only [launches, starts, failsToEnter, Bool.or_eq_true, Bool.and_eq_true,
    beq_iff_eq] at h
  rcases h with ⟨hcall, -⟩ | ⟨⟨⟨hcall, -⟩, -⟩, -⟩ <;> exact hcall

/-- A call of another kind neither sets up nor registers nor starts. -/
theorem Step.Turn.of_phase_eq (hcall : step.call.isVital = false)
    (hafter : step.after.phase = step.before.phase) : step.Turn := by
  have hne : ∀ call : Call, call.isVital = true → step.call ≠ call := by
    rintro call hvital rfl
    rw [hvital] at hcall
    cases hcall
  refine .rests (hne _ rfl) ?_ ?_ ?_ hafter
  · simp [Step.prepares, hne .setUp rfl]
  · unfold Step.enrols
    split
    · rename_i spec heq
      exact absurd heq (hne _ rfl)
    · rfl
  · simp [Step.launches, Step.starts, Step.failsToEnter, hne .start rfl]

theorem Step.call_of_enrols (h : step.enrols = true) :
    ∃ spec, step.call = .register spec := by
  unfold enrols at h
  split at h
  · rename_i spec heq
    exact ⟨spec, heq⟩
  · cases h

namespace Kernel

/-- The kernel is set up exactly when it is new. -/
theorem prepares_iff (k : Kernel) :
    Step.prepares ⟨k, .setUp, .unit k.setUp.1, k.setUp.2⟩ = true ↔
      k.phase = .blank := by
  unfold setUp
  split
  · rename_i hphase
    exact iff_of_true rfl hphase
  · rename_i hphase
    exact iff_of_false (fun hprepares => by cases hprepares) hphase

theorem turn_setUp (k : Kernel) :
    Step.Turn ⟨k, .setUp, .unit k.setUp.1, k.setUp.2⟩ := by
  by_cases hphase : k.phase = .blank
  · have hsetUp : k.setUp = { k with phase := .prepared }.accept () :=
      if_pos hphase
    exact .prepares (k.prepares_iff.mpr hphase) hphase (by rw [hsetUp]; rfl)
  · have hsetUp : k.setUp = k.refuse .alreadyRunning := if_neg hphase
    rw [hsetUp]
    exact .rests (fun heq => by cases heq) rfl rfl rfl rfl

/-- A start is refused, or the platform does not come up, or scheduling
begins. -/
theorem Sound.start_cases (h : k.Sound) :
    (∃ error, k.phase ≠ .populated ∧ k.start = k.refuse error) ∨
      (∃ error, k.platform.setupFailure = some error ∧
        k.start = k.broughtUp.refuse error) ∨
      ∃ first, k.phase = .populated ∧ k.platform.setupFailure = none ∧
        k.start = k.broughtUp.enter first := by
  rcases k.start_cases with hrefused | hfailed | ⟨hphase, hhead, -⟩ |
    ⟨first, hphase, hsetup, -, hstart⟩
  · exact Or.inl hrefused
  · exact Or.inr (Or.inl hfailed)
  · have hnil : k.readyIds = [] :=
      List.head?_eq_none_iff.mp (h.linked.ready.head_eq.symm.trans hhead)
    exact absurd hnil (h.orderly.ready_ne_nil hphase)
  · exact Or.inr (Or.inr ⟨first, hphase, hsetup, hstart⟩)

theorem Sound.turn_start (h : k.Sound) :
    Step.Turn ⟨k, .start, .unit k.start.1, k.start.2⟩ := by
  rcases h.start_cases with ⟨error, hphase, hstart⟩ | ⟨error, hsetup, hstart⟩ |
    ⟨first, hphase, hsetup, hstart⟩
  · rw [hstart]
    refine .rests (fun heq => by cases heq) rfl rfl ?_ rfl
    simp [Step.launches, Step.starts, Step.failsToEnter, refuse, hphase,
      Answer.isError_unit_error]
  · rw [hstart]
    refine .rests (fun heq => by cases heq) rfl rfl ?_ rfl
    simp [Step.launches, Step.starts, Step.failsToEnter, refuse, hsetup,
      Answer.isError_unit_error]
  · rw [hstart]
    refine .launches ?_ hphase rfl
    have hentered : (k.broughtUp.enter first).1 =
        Platform.outcome k.platform.entryFailure :=
      rfl
    rw [hentered]
    cases hentry : k.platform.entryFailure with
    | none => rfl
    | some error =>
        simp [Step.launches, Step.failsToEnter, hphase, hsetup, hentry]

/-- A start succeeds exactly when tasks are registered and the platform does its
part. -/
theorem Sound.starts_iff (h : k.Sound) :
    Step.starts ⟨k, .start, .unit k.start.1, k.start.2⟩ = true ↔
      k.phase = .populated ∧ k.platform.setupFailure = none ∧
        k.platform.entryFailure = none := by
  rcases h.start_cases with ⟨error, hphase, hstart⟩ | ⟨error, hsetup, hstart⟩ |
    ⟨first, hphase, hsetup, hstart⟩
  · simp [Step.starts, hstart, refuse, hphase, Answer.isError_unit_error]
  · simp [Step.starts, hstart, refuse, hsetup, Answer.isError_unit_error]
  · have hentered : (k.broughtUp.enter first).1 =
        Platform.outcome k.platform.entryFailure :=
      rfl
    rw [hstart, hentered]
    cases hentry : k.platform.entryFailure with
    | none => exact iff_of_true rfl ⟨hphase, hsetup, rfl⟩
    | some error =>
        simp [Step.starts, Platform.outcome, Answer.isError_unit_error]

/-- Every call has one of these meanings. -/
theorem Sound.turn (h : k.Sound) {k' : Kernel} {call : Call} {answer : Answer}
    (hperform : k.perform call = .ok (answer, k')) :
    Step.Turn ⟨k, call, answer, k'⟩ := by
  obtain ⟨hw, -⟩ := h.performs hperform
  by_cases hvital : call.isVital = false
  · exact .of_phase_eq hvital (hw.phase_eq hvital)
  cases call with
  | setUp =>
      cases hperform
      exact k.turn_setUp
  | start =>
      cases hperform
      exact h.turn_start
  | tearDown =>
      cases hperform
      exact .clears rfl rfl
  | register spec =>
      generalize hview : k'.view = w at hw
      have hphase : k'.phase = w.phase := congrArg View.phase hview
      cases hw with
      | register hw =>
          rcases hw.phase_eq with ⟨herror, hsame⟩ | ⟨hok, hbefore, hafter⟩
          · refine .rests (fun heq => by cases heq) rfl ?_ rfl
              (hphase.trans hsame)
            simp [Step.enrols, herror]
          · refine .enrols ?_ hbefore (hphase.trans hafter)
            simp [Step.enrols, hok]
  | _ => exact absurd rfl hvital

end Kernel

/-! ### Histories -/

theorem era_cons (h : step.call ≠ .tearDown) :
    era (step :: steps) = step :: era steps := by
  rw [era, List.takeWhile_cons, if_pos (bne_iff_ne.mpr h), era]

theorem era_tearDown (h : step.call = .tearDown) :
    era (step :: steps) = [] := by
  rw [era, List.takeWhile_cons, h]
  rfl

theorem wasPrepared_cons (h : step.call ≠ .tearDown) :
    wasPrepared (step :: steps) = (step.prepares || wasPrepared steps) := by
  rw [wasPrepared, era_cons h, List.any_cons, wasPrepared]

theorem wasLaunched_cons (h : step.call ≠ .tearDown) :
    wasLaunched (step :: steps) = (step.launches || wasLaunched steps) := by
  rw [wasLaunched, era_cons h, List.any_cons, wasLaunched]

/-- Where no start fails late, scheduling begins with starts that succeed. -/
theorem wasLaunched_eq (h : ∀ step ∈ era steps, step.failsToEnter = false) :
    wasLaunched steps = wasStarted steps := by
  have hlaunches : ∀ step ∈ era steps, step.launches = step.starts :=
    fun step hstep => by
    rw [Step.launches, h step hstep, Bool.or_false]
  rw [wasLaunched, wasStarted, Bool.eq_iff_iff, List.any_eq_true,
    List.any_eq_true]
  exact exists_congr fun step =>
    and_congr_right fun hstep => by rw [hlaunches step hstep]

/-- The calls since the kernel was torn down tell whether it is new and whether
it schedules. -/
structure Told (steps : List Step) (phase : Phase) : Prop where
  blank_iff : phase = .blank ↔ wasPrepared steps = false
  started_iff : phase = .started ↔ wasLaunched steps = true

theorem ne_of_open {phase : Phase}
    (h : phase = .prepared ∨ phase = .populated) :
    phase ≠ .blank ∧ phase ≠ .started := by
  rcases h with rfl | rfl <;> decide

theorem told_cons {phase : Phase} (hcall : step.call ≠ .tearDown)
    (hblank : phase = .blank ↔ step.prepares = false ∧
      wasPrepared steps = false)
    (hstarted : phase = .started ↔ step.launches = true ∨
      wasLaunched steps = true) :
    Told (step :: steps) phase where
  blank_iff := by rw [hblank, wasPrepared_cons hcall, Bool.or_eq_false_iff]
  started_iff := by rw [hstarted, wasLaunched_cons hcall, Bool.or_eq_true]

theorem Step.Turn.told (hturn : step.Turn) (h : Told steps step.before.phase) :
    Told (step :: steps) step.after.phase := by
  have hblank := h.blank_iff
  have hstarted := h.started_iff
  cases hturn with
  | clears hcall hafter =>
      have hera : era (step :: steps) = [] := era_tearDown hcall
      constructor <;> simp [hafter, wasPrepared, wasLaunched, hera]
  | prepares hprepares hbefore hafter =>
      have hcall := Step.call_of_prepares hprepares
      have hlaunches : step.launches = false := by
        simp [Step.launches, Step.starts, Step.failsToEnter, hcall]
      rw [hbefore] at hstarted
      apply told_cons <;> simp [hcall, hafter, hprepares, hlaunches, ← hstarted]
  | enrols henrols hbefore hafter =>
      obtain ⟨spec, hcall⟩ := Step.call_of_enrols henrols
      have hlaunches : step.launches = false := by
        simp [Step.launches, Step.starts, Step.failsToEnter, hcall]
      have hne := ne_of_open hbefore
      apply told_cons <;>
        simp [hcall, hafter, hlaunches, ← hblank, ← hstarted, hne.1, hne.2]
  | launches hlaunches hbefore hafter =>
      have hcall := Step.call_of_launches hlaunches
      rw [hbefore] at hblank
      apply told_cons <;> simp [hcall, hafter, hlaunches, ← hblank]
  | rests hcall hprepares _ hlaunches hafter =>
      apply told_cons <;> simp [hcall, hafter, hprepares, hlaunches, hblank,
        hstarted]

theorem Run.told (hrun : Run steps k) : Told steps k.phase := by
  induction hrun with
  | fresh platform =>
      constructor <;> simp [Kernel.fresh, wasPrepared, wasLaunched, era]
  | step hrun hperform ih => exact (hrun.sound.turn hperform).told ih

/-- A task is registered between the two. -/
theorem Step.Turn.told_of_enrols (hturn : step.Turn)
    (h : Told steps step.before.phase) (henrols : step.enrols = true) :
    wasPrepared steps = true ∧ wasLaunched steps = false := by
  obtain ⟨spec, hregister⟩ := Step.call_of_enrols henrols
  have hne : step.before.phase ≠ .blank ∧ step.before.phase ≠ .started := by
    cases hturn with
    | enrols _ hbefore => exact ne_of_open hbefore
    | clears hcall =>
        rw [hcall] at hregister
        cases hregister
    | prepares hprepares =>
        rw [Step.call_of_prepares hprepares] at hregister
        cases hregister
    | launches hlaunches =>
        rw [Step.call_of_launches hlaunches] at hregister
        cases hregister
    | rests _ _ hnot =>
        rw [hnot] at henrols
        cases henrols
  rw [ne_eq, h.blank_iff, Bool.not_eq_false] at hne
  rw [ne_eq, h.started_iff, Bool.not_eq_true] at hne
  exact hne

/-- After every history the calls since the kernel was torn down tell whether it
schedules; it is set up only when it is new, takes tasks only between that and
its start, and is left as it was by a start that reports an error, unless that
comes from entering the first task. -/
theorem Run.lifecycle (hrun : Run steps k) : Lifecycle steps k where
  running_iff := by
    have hstarted : k.phase = .started ↔ k.running ≠ none :=
      hrun.sound.orderly.staffed.started_iff
    rw [hstarted, Option.isSome_iff_ne_none]
  launched_iff := hrun.told.started_iff
  started_iff hlate := by
    rw [hrun.told.started_iff, wasLaunched_eq hlate]
  prepares_iff step earlier hsuffix hcall := by
    obtain ⟨hbefore, -, hperform⟩ := (hrun.of_suffix hsuffix).last
    obtain ⟨before, call, answer, after⟩ := step
    obtain rfl : call = .setUp := hcall
    have hsetUp : before.perform .setUp = .ok (answer, after) := hperform
    cases hsetUp
    rw [← hbefore.told.blank_iff]
    exact before.prepares_iff
  enrols step earlier hsuffix henrols := by
    obtain ⟨hbefore, -, hperform⟩ := (hrun.of_suffix hsuffix).last
    exact (hbefore.sound.turn hperform).told_of_enrols hbefore.told henrols
  starts_iff step earlier hsuffix hcall := by
    obtain ⟨hbefore, -, hperform⟩ := (hrun.of_suffix hsuffix).last
    obtain ⟨before, call, answer, after⟩ := step
    obtain rfl : call = .start := hcall
    have hstart : before.perform .start = .ok (answer, after) := hperform
    cases hstart
    exact hbefore.sound.starts_iff
  retry step earlier hsuffix hcall herror henters := by
    obtain ⟨-, -, hperform⟩ := (hrun.of_suffix hsuffix).last
    exact Kernel.start_of_isError hcall hperform herror henters

end Turns

namespace Witness

/-- The platform fails to come up at first, and is started a second time. -/
def retried : List Call :=
  [.setUp, .register (spec "idle" 0), .setHooks (some .failure) none, .start,
    .setHooks none none, .start]

theorem lifecycle_retried :
    Run (history retried).1 (history retried).2 ∧
      wasStarted (history retried).1 = true ∧
      Lifecycle (history retried).1 (history retried).2 :=
  ⟨run_history _, by decide +kernel, (run_history _).lifecycle⟩

/-- The first task cannot be entered, and the start is tried again. -/
def stranded : List Call :=
  [.setUp, .register (spec "idle" 0), .setHooks none (some .failure),
    .start, .start]

/-- No start has succeeded, and yet the kernel schedules; the second one finds
it running. -/
theorem started_stranded :
    Run (history stranded).1 (history stranded).2 ∧
      (history stranded).2.phase = .started ∧
      (history stranded).2.running.isSome = true ∧
      wasStarted (history stranded).1 = false ∧
      ∃ step ∈ (history stranded).1, step.call = .start ∧
      step.answer.isError = true ∧
        step.before.phase = .populated ∧ step.after.phase = .started := by
  refine ⟨run_history _, by decide +kernel, by decide +kernel,
    by decide +kernel, ?_⟩
  obtain ⟨step, earlier, hsteps, hstep⟩ := exists_split (history stranded).1 1
    (fun step => step.call == .start && step.answer.isError &&
      step.before.phase == .populated && step.after.phase == .started)
        (by decide +kernel)
  simp only [Bool.and_eq_true, beq_iff_eq] at hstep
  obtain ⟨⟨⟨hcall, herror⟩, hbefore⟩, hafter⟩ := hstep
  refine ⟨step, ?_, hcall, herror, hbefore, hafter⟩
  rw [hsteps]
  exact List.mem_append_right _ List.mem_cons_self

end Witness

end TickKernel
