/-
Who is on the processor, and who is asked for.  Exactly one task is active: the
one that a requested switch is to bring to the processor, or else the running
one.  While a switch is pending nothing else is asked for and nothing happens to
the task that is to come, so that requests and completed switches take turns.
-/
import TickKernel.Proofs.Frames
import TickKernel.Proofs.Lists
import TickKernel.Proofs.Sleeping

namespace TickKernel

namespace View

variable {u v w : View} {call : Call} {reply : Reply}
  {current target id : TaskId} {saved : Option StackPointer}

/-! ### Requests in a call -/

/-- A switch is asked for only while none is pending, and once. -/
inductive Asks (v w : View) : Prop
  | nothing (hscheduled : w.scheduled = v.scheduled)
      (hrequests : w.platform.requests = v.platform.requests)
  | request (hbefore : v.scheduled = none) (hafter : w.scheduled ≠ none)
      (hrequests : w.platform.requests = v.platform.requests + 1)

/-- What does not touch the schedule and the platform does not ask for
anything. -/
theorem Asks.congr (h : u.Asks w) (hscheduled : u.scheduled = v.scheduled)
    (hrequests : u.platform.requests = v.platform.requests) : v.Asks w := by
  cases h with
  | nothing hsame hcount =>
      exact .nothing (hsame.trans hscheduled) (hcount.trans hrequests)
  | request hbefore hafter hcount =>
      exact .request (hscheduled ▸ hbefore) hafter (hrequests ▸ hcount)

theorem asks_dispatched (hscheduled : v.scheduled = none)
    (current target : TaskId) :
    v.Asks (v.dispatched current target) :=
  .request hscheduled (Option.some_ne_none target) rfl

theorem Rescheduled.asks (hw : v.Rescheduled current w)
    (hscheduled : v.scheduled = none) :
    v.Asks w := by
  cases hw with
  | stays => exact .nothing rfl rfl
  | due target => exact asks_dispatched hscheduled current target
  | chosen target => exact asks_dispatched hscheduled current target

theorem GaveUp.asks (hw : v.GaveUp current w) : v.Asks w := by
  cases hw with
  | pending => exact .nothing rfl rfl
  | now hscheduled hw => exact hw.asks hscheduled

theorem Ticked.asks (hw : v.Ticked w) : v.Asks w := by
  cases hw with
  | stopped => exact .nothing rfl rfl
  | pending => exact .nothing rfl rfl
  | now _ hscheduled hw => exact hw.asks hscheduled

theorem Woke.asks (hw : v.Woke id reply w) : v.Asks w := by
  cases hw with
  | now current _ hscheduled =>
      exact (asks_dispatched (v := v.promised id reply) hscheduled current
        id).congr rfl rfl
  | later => exact .nothing rfl rfl

/-- While the kernel schedules, a call that is no switch asks for at most
one. -/
theorem Shape.asks (hw : v.Shape call reply w) (hstarted : v.phase = .started)
    (hcall : call ≠ .tearDown) (hswitch : call.isSwitch = false) :
    v.Asks w := by
  cases hw with
  | rests _ hw => exact .nothing hw.scheduled (hw.requests hstarted)
  | ticks _ hw => exact hw.asks
  | beats => cases hswitch
  | switches _ hcalls => rcases hcalls with rfl | rfl <;> cases hswitch
  | stops _ _ _ hu _ hw =>
      refine hw.asks.congr ?_ (by rw [hu.platform_eq])
      rw [hu.lists_eq]
  | serves hu _ _ _ hw =>
      refine hw.asks.congr ?_ ?_
      · rw [hu.lists]
        rfl
      · rw [hu.lists]
        rfl
  | resumes => exact .nothing rfl rfl
  | shelves => exact .nothing rfl rfl
  | enrols _ hphase => exact absurd hstarted (not_started_of_open hphase)
  | enters _ _ hphase =>
      exact absurd hstarted (not_started_of_open (Or.inr hphase))
  | clears => exact absurd rfl hcall

/-- Nothing is pending after a switch. -/
theorem scheduled_switchedFrom (v : View) (saved : Option StackPointer) :
    (v.switchedFrom saved).scheduled = none := by
  cases hscheduled : v.scheduled with
  | none =>
      rcases (switched_switchedFrom v saved).place with ⟨-, hsame⟩ | ⟨-,
        -, hnone⟩
      · exact hsame.trans hscheduled
      · exact hnone
  | some next =>
      have hrelieved : ∀ u : View, u.scheduled = some next →
          u.relieved.resumed.scheduled = none := by
        intro u hu
        rw [(touched_resumed _).lists, relieved, hu]
      cases saved with
      | none => exact hrelieved v hscheduled
      | some pointer =>
          rw [switchedFrom, hscheduled]
          exact hrelieved _
            ((saves_savedAt v pointer).scheduled.trans hscheduled)

theorem platform_switchedFrom (v : View) (saved : Option StackPointer) :
    (v.switchedFrom saved).platform = v.platform := by
  rw [(switched_switchedFrom v saved).lists]

/-- Nothing is pending when scheduling starts. -/
theorem Shape.scheduled_eq_none (hw : v.Shape call reply w)
    (ho : v.Orderly none) (hbefore : v.phase ≠ .started)
    (hafter : w.phase = .started) : w.scheduled = none := by
  obtain ⟨hrunning, hscheduled, -⟩ := ho.nobody_next hbefore
  cases hw with
  | rests _ hw => exact absurd (hw.started_iff.mp hafter) hbefore
  | ticks _ hw => exact absurd (hw.phase_eq.symm.trans hafter) hbefore
  | beats saved => exact scheduled_switchedFrom _ saved
  | switches saved => exact scheduled_switchedFrom v saved
  | stops hcurrent =>
      rw [hrunning] at hcurrent
      cases hcurrent
  | serves hu => exact absurd hrunning hu.running
  | resumes => exact absurd hafter hbefore
  | shelves => exact absurd hafter hbefore
  | @enrols spec =>
      cases hmode : spec.mode <;> rw [hmode] at hafter <;> cases hafter
  | enters => rfl
  | clears => rfl

end View

/-! ### The kernel on the processor -/

namespace Kernel

/-- One if a switch is pending. -/
def awaited (k : Kernel) : Nat :=
  if k.scheduled.isSome then 1 else 0

/-- Who is on the processor, given the registrations. -/
structure Manned (k : Kernel) (registered : List TaskId) : Prop where
  /-- Exactly one task is active: the scheduled one, or else the running one. -/
  active : ∃ current, k.scheduled.or k.running = some current ∧
    ∀ id, (k.task id).status = .active ↔ id = current
  running : ∃ current, k.running = some current ∧ k.isRegistered current = true
  scheduled : ∀ next, k.scheduled = some next →
    k.running ≠ some next ∧ next ∈ k.readyIds
  /-- The idle task, which was registered first, can always run. -/
  idle : ∃ idle, k.idle = some idle ∧ registered.getLast? = some idle ∧
    (k.task idle).priority = Priority.idle ∧ idle ∈ k.readyIds ∧
      ((k.task idle).status = .ready ∨ (k.task idle).status = .active)

end Kernel

namespace View

variable {v : View}

/-- The first slot is taken first. -/
theorem getLast?_of_descending {ids : List TaskId} {first : TaskId}
    (hsorted : ids.Pairwise fun newer older => older < newer)
    (hfirst : first ∈ ids) (hleast : first.val = 0) :
    ids.getLast? = some first := by
  rcases List.eq_nil_or_concat ids with rfl | ⟨front, last, rfl⟩
  · cases hfirst
  · rw [List.concat_eq_append, List.getLast?_concat]
    rw [List.concat_eq_append] at hsorted hfirst
    rcases List.mem_append.mp hfirst with hfront | hlast
    · have hlt := (List.pairwise_append.mp hsorted).2.2 first hfront last
        (List.mem_singleton_self last)
      rw [Fin.lt_def, hleast] at hlt
      exact absurd hlt (Nat.not_lt_zero _)
    · rw [List.mem_singleton.mp hlast]

theorem Orderly.idle_first (h : v.Orderly none)
    (hstarted : v.phase = .started) :
    ∃ idle, v.idle = some idle ∧ v.all.getLast? = some idle := by
  have hpos : 0 < v.taskCount := h.staffed.populated_iff.mp (Or.inr hstarted)
  have hreg : v.Registered 0 := hpos
  refine ⟨0, (h.staffed.idle_iff 0).mpr ⟨rfl, hreg⟩, ?_⟩
  exact getLast?_of_descending h.staffed.all_sorted
    ((h.staffed.mem_all 0).mpr hreg) rfl

end View

theorem Kernel.Sound.manned {k : Kernel} (h : k.Sound)
    (hstarted : k.phase = .started) :
    k.Manned k.allIds := by
  have ho := h.orderly
  obtain ⟨current, hcurrent⟩ :=
    Option.ne_none_iff_exists'.mp (ho.staffed.started_iff.mp hstarted)
  have hready : ∀ id, k.view.Registered id → (k.task id).isRunnable = true →
      id ∈ k.readyIds := fun id hreg hable => (h.mem_readyIds id).mpr
    ⟨(h.shows.isRegistered_iff id).mpr hreg, (Task.isRunnable_iff _).mp hable⟩
  refine ⟨?_, ⟨current, hcurrent, ?_⟩, fun next hnext => ?_, ?_⟩
  · obtain ⟨next, hnext⟩ : ∃ next, k.view.next = some next := by
      rw [View.next, hcurrent]
      cases k.view.scheduled with
      | none => exact ⟨current, rfl⟩
      | some next => exact ⟨next, rfl⟩
    refine ⟨next, hnext, fun id => ⟨fun hactive => ?_, ?_⟩⟩
    · exact Option.some.inj
        ((ho.staffed.next_of_active id hactive).symm.trans hnext)
    · rintro rfl
      exact ho.staffed.active_of_next id hnext (Option.some_ne_none id).symm
  · exact (h.shows.isRegistered_iff current).mpr
      (ho.staffed.running_registered current hcurrent)
  · obtain ⟨hreg, -, hother⟩ := ho.staffed.scheduled_other next hnext
    have hplace : k.view.next = some next := by
      rw [View.next]
      exact (congrArg (Option.or · k.view.running) hnext).trans rfl
    refine ⟨hother, hready next hreg ((Task.isRunnable_iff _).mpr (Or.inr ?_))⟩
    exact ho.staffed.active_of_next next hplace (Option.some_ne_none next).symm
  · obtain ⟨idle, hidle, hlast⟩ := ho.idle_first hstarted
    obtain ⟨hable, hpriority⟩ := ho.staffed.idle_runnable idle hidle
    have hreg := ((ho.staffed.idle_iff idle).mp hidle).2
    exact ⟨idle, hidle, hlast, hpriority, hready idle hreg hable,
      (Task.isRunnable_iff _).mp hable⟩

/-! ### Requests over a run -/

/-- The switch that was pending takes place in the step. -/
def Step.completes (step : Step) : Bool :=
  match step.call, step.answer with
  | .switchOver, .flag switched | .beat, .flag switched => switched
  | .switchFrom _, _ => step.before.scheduled.isSome
  | _, _ => false

section Steps

variable {step : Step} {earlier later steps : List Step} {k : Kernel}
  {id : TaskId}

theorem View.Asks.awaited {k k' : Kernel} (h : k.view.Asks k'.view) :
    k'.platform.requests + k.awaited = k.platform.requests + k'.awaited := by
  cases h with
  | nothing hscheduled hrequests =>
      have hsame : k'.scheduled = k.scheduled := hscheduled
      have hcount : k'.platform.requests = k.platform.requests := hrequests
      rw [Kernel.awaited, Kernel.awaited, hsame, hcount]
  | request hbefore hafter hrequests =>
      have hnone : k.scheduled = none := hbefore
      have hsome : k'.scheduled.isSome = true :=
        Option.isSome_iff_ne_none.mpr hafter
      have hcount : k'.platform.requests = k.platform.requests + 1 := hrequests
      rw [Kernel.awaited, Kernel.awaited, hnone, if_pos hsome, hcount]
      rfl

/-- After a switch of the kernel the one that was pending has been carried
out. -/
theorem Kernel.awaited_switched {k k' : Kernel} {saved : Option StackPointer}
    (h : k'.Shows (k.view.switchedFrom saved)) : k'.awaited = 0 ∧
      k'.platform.requests = k.platform.requests := by
  have hscheduled : k'.scheduled = none :=
    h.scheduled_eq.trans (View.scheduled_switchedFrom _ saved)
  have hplatform : k'.platform = k.platform :=
    h.platform_eq.trans (View.platform_switchedFrom _ saved)
  rw [Kernel.awaited, hscheduled, hplatform]
  exact ⟨rfl, rfl⟩

theorem Kernel.switchOver_fst (k : Kernel) :
    k.switchOver.1 = k.scheduled.isSome := by
  unfold Kernel.switchOver
  cases k.scheduled <;> rfl

theorem Step.completes_eq_false (hswitch : step.call.isSwitch = false) :
    step.completes = false := by
  rw [Step.completes]
  split
  · rename_i hcall _
    rw [hcall] at hswitch
    cases hswitch
  · rename_i hcall _
    rw [hcall] at hswitch
    cases hswitch
  · rename_i hcall
    rw [hcall] at hswitch
    cases hswitch
  · rfl

/-- A switch of the kernel carries out what is pending and asks for nothing. -/
theorem Kernel.Shows.awaited_switchOver {k : Kernel} (h : k.Shows k.view) :
    k.switchOver.2.platform.requests + k.awaited =
      k.platform.requests + (if k.switchOver.1 then 1
        else 0) + k.switchOver.2.awaited := by
  obtain ⟨saved, hafter⟩ := h.switchOver
  obtain ⟨hnone, hrequests⟩ := Kernel.awaited_switched hafter
  rw [hnone, hrequests, k.switchOver_fst]
  rfl

/-- A tick may ask for the switch that it carries out. -/
theorem Kernel.Sound.awaited_beat {k k' : Kernel} (h : k.Sound)
    {switched : Bool} (hbeat : k.beat = .ok (switched, k')) :
    k'.platform.requests + k.awaited =
      k.platform.requests + (if switched then 1 else 0) + k'.awaited := by
  obtain ⟨k₁, htick, hover⟩ := Kernel.beat_eq_ok hbeat
  have hadvance := h.shows.setPlatform (k.platform.advance 1)
  obtain ⟨u, hu, hk₁⟩ := (hadvance.tick h.orderly.advanced).holds k₁ htick
  obtain ⟨hlinked, rfl⟩ := hk₁
  have hover' := hlinked.shows.awaited_switchOver
  have hasked := View.Asks.awaited (k := k) (hu.asks.congr rfl rfl)
  rw [hover] at hover'
  dsimp only at hover'
  omega

/-- Every request is pending until its switch takes place. -/
theorem Run.requests_cons (hrun : Run (step :: earlier) k)
    (hstarted : step.before.phase = .started) (hcall : step.call ≠ .tearDown) :
    step.after.platform.requests + step.before.awaited =
      step.before.platform.requests + (if step.completes then 1 else 0) +
        step.after.awaited := by
  obtain ⟨ho, hw, -⟩ := hrun.performs
  obtain ⟨hbefore, -, hperform⟩ := hrun.last
  cases hswitch : step.call.isSwitch with
  | false =>
      rw [Step.completes_eq_false hswitch]
      exact ((hw.shape ho).asks hstarted (Call.direct_ne_tearDown hcall)
        (Call.isSwitch_direct hswitch)).awaited
  | true =>
      rcases Call.eq_of_isSwitch hswitch with hkind | hkind | ⟨saved, hkind⟩
      · rw [hkind] at hperform
        obtain ⟨⟨switched, k'⟩, hbeat, hpair⟩ := eq_ok_of_map hperform
        have hanswer : Answer.flag switched = step.answer :=
          congrArg Prod.fst hpair
        have hafter : k' = step.after := congrArg Prod.snd hpair
        rw [Step.completes, hkind, ← hanswer, ← hafter]
        exact hbefore.sound.awaited_beat hbeat
      · rw [hkind] at hperform
        have hpair := Except.ok.inj hperform
        have hanswer : Answer.flag step.before.switchOver.1 = step.answer :=
          congrArg Prod.fst hpair
        have hafter : step.before.switchOver.2 = step.after :=
          congrArg Prod.snd hpair
        rw [Step.completes, hkind, ← hanswer, ← hafter]
        exact hbefore.sound.shows.awaited_switchOver
      · rw [hkind] at hperform
        have hafter : (step.before.switchFrom saved).2 = step.after :=
          congrArg Prod.snd (Except.ok.inj hperform)
        obtain ⟨hnone, hrequests⟩ :=
          Kernel.awaited_switched (hbefore.sound.shows.switchFrom saved)
        rw [Step.completes, hkind, ← hafter, hnone, hrequests]
        rfl

/-- Scheduling goes on until the kernel is torn down, and each step keeps the
count. -/
theorem Run.requests_eq {first : Step}
    (hrun : Run (later ++ first :: earlier) k)
    (hbefore : first.before.phase ≠ .started)
    (hafter : first.after.phase = .started)
    (hlater : ∀ step ∈ later, step.call ≠ .tearDown) :
    k.phase = .started ∧ k.platform.requests =
      first.after.platform.requests + later.countP Step.completes +
      k.awaited := by
  induction later generalizing k with
  | nil =>
      obtain ⟨ho, hw, -⟩ := hrun.performs
      obtain ⟨-, rfl, -⟩ := hrun.last
      have hnone : first.after.scheduled = none :=
        (hw.shape ho).scheduled_eq_none ho hbefore hafter
      refine ⟨hafter, ?_⟩
      rw [Kernel.awaited, hnone]
      rfl
  | cons step rest ih =>
      obtain ⟨ho, hw, -⟩ := hrun.performs
      have hcount := Run.requests_cons hrun
      obtain ⟨hlast, rfl, -⟩ := hrun.last
      obtain ⟨hcall, hrest⟩ := List.forall_mem_cons.mp hlater
      obtain ⟨hstarted, hrequests⟩ := ih hlast hrest
      have hgoes := hcount hstarted hcall
      refine ⟨(hw.shape ho).started hstarted (Call.direct_ne_tearDown hcall),
        ?_⟩
      rw [List.countP_cons]
      omega

/-- Who is on the processor and who is asked for, in a history that leads to the
kernel. -/
structure Requested (steps : List Step) (k : Kernel) : Prop where
  manned : k.phase = .started → k.Manned (registrations steps)
  /-- While a switch is pending nothing happens to the task that is to come, and
  nothing else is asked for, until the switch takes place. -/
  pending : ∀ step earlier next, step :: earlier <:+ steps →
    step.before.scheduled = some next → step.call.isSwitch = false →
      step.call ≠ .tearDown → step.after.scheduled = some next ∧
        (step.after.task next).status = (step.before.task next).status ∧
          step.after.platform.requests = step.before.platform.requests
  /-- Since the start all requests but the pending one have been carried out. -/
  counted : ∀ later first earlier, steps = later ++ first :: earlier →
    first.before.phase ≠ .started → first.after.phase = .started →
      (∀ step ∈ later, step.call ≠ .tearDown) → k.platform.requests =
        first.after.platform.requests + later.countP Step.completes + k.awaited

/-- The processor is passed on one request at a time. -/
theorem Run.requested (hrun : Run steps k) : Requested steps k := by
  refine ⟨fun hstarted => ?_,
    fun step earlier next hsuffix hnext hswitch hcall => ?_,
    fun later first earlier hsteps hbefore hafter hlater => ?_⟩
  · rw [hrun.registrations_eq]
    exact hrun.sound.manned hstarted
  · have hpart := hrun.of_suffix hsuffix
    obtain ⟨ho, hw, ho'⟩ := hpart.performs
    obtain ⟨-, hrunning, -⟩ := ho.staffed.scheduled_other next hnext
    cases (hw.shape ho).asks (ho.staffed.started_iff.mpr hrunning)
        (Call.direct_ne_tearDown hcall) (Call.isSwitch_direct hswitch) with
    | nothing hscheduled hrequests =>
        have hactive : ∀ v : View, v.Orderly none → v.scheduled = some next →
            (v.task next).status = .active := fun v ho hplace =>
          ho.staffed.active_of_next next (by rw [View.next, hplace]; rfl)
            (Option.some_ne_none next).symm
        have hafter : step.after.view.scheduled = some next :=
          hscheduled.trans hnext
        exact ⟨hafter, (hactive _ ho' hafter).trans (hactive _ ho hnext).symm,
          hrequests⟩
    | request hnone =>
        have hpending : step.before.view.scheduled = some next := hnext
        rw [hpending] at hnone
        cases hnone
  · subst hsteps
    exact (hrun.requests_eq hbefore hafter hlater).2

end Steps

namespace Witness

/-- A switch to task B is pending while task A, which waits for a message, is
set aside and resumed, and more is done that would call for a switch.  Then task
B finishes, and others follow at ticks. -/
def crowded : List Call :=
  trio ++ [.createQueue 1, .receive box 90, .suspend taskA,
    .resume taskA, .tick,
    .send box 5 0, .switchOver, .finish, .schedule, .switchFrom none, .beat,
    .delay 4]

theorem requested_crowded :
    Run (history crowded).1 (history crowded).2 ∧
      (history crowded).2.phase = .started ∧
      (history crowded).2.platform.requests = 4 ∧
      (history crowded).2.awaited = 1 ∧
      (history crowded).1.countP Step.completes = 3 ∧
      Requested (history crowded).1 (history crowded).2 :=
  ⟨run_history _, by decide +kernel, by decide +kernel, by decide +kernel,
    by decide +kernel, (run_history _).requested⟩

end Witness

end TickKernel
