/-
Histories.  A run is a history of calls from a new kernel none of which stopped
the machine, with the kernels before and after each call, newest call first.
In such a history the kernel is orderly all the time.
-/
import TickKernel.Proofs.Effects

namespace TickKernel

/-- One call of a history. -/
structure Step where
  before : Kernel
  call : Call
  answer : Answer
  after : Kernel

/-- The histories from a new kernel on any platform, with what they lead to. -/
inductive Run : List Step → Kernel → Prop
  | fresh (platform : Platform) : Run [] (Kernel.fresh platform)
  | step {steps : List Step} {k k' : Kernel} {call : Call} {answer : Answer}
      (hrun : Run steps k) (hperform : k.perform call = .ok (answer, k')) :
      Run (⟨k, call, answer, k'⟩ :: steps) k'

/-- Go on with a history, unless the machine stops. -/
def Kernel.proceed? (k : Kernel) (steps : List Step) :
    List Call → Option (List Step × Kernel)
  | [] => some (steps, k)
  | call :: rest =>
      match k.perform call with
      | .error _ => none
      | .ok (answer, k') => k'.proceed? (⟨k, call, answer, k'⟩ :: steps) rest

theorem Run.proceed {steps steps' : List Step} {k k' : Kernel}
    {calls : List Call} (hrun : Run steps k)
    (h : k.proceed? steps calls = some (steps', k')) :
    Run steps' k' := by
  induction calls generalizing steps k with
  | nil =>
      cases h
      exact hrun
  | cons call rest ih =>
      rw [Kernel.proceed?] at h
      split at h
      · cases h
      · rename_i answer k₁ hperform
        exact ih (hrun.step hperform) h

/-- The last call of a run, and the run up to it. -/
theorem Run.last {step : Step} {steps : List Step} {k : Kernel}
    (hrun : Run (step :: steps) k) : Run steps step.before ∧ k = step.after ∧
      step.before.perform step.call = .ok (step.answer, step.after) := by
  cases hrun with
  | step hrun hperform => exact ⟨hrun, rfl, hperform⟩

/-- A run was a run all the time. -/
theorem Run.of_suffix {step : Step} {earlier steps : List Step} {k : Kernel}
    (hrun : Run steps k) (hsuffix : step :: earlier <:+ steps) :
    Run (step :: earlier) step.after := by
  induction hrun with
  | fresh platform =>
      exact absurd (List.suffix_nil.mp hsuffix) (List.cons_ne_nil _ _)
  | step hrun hperform ih =>
      rcases List.suffix_cons_iff.mp hsuffix with heq | hsuffix
      · cases heq
        exact hrun.step hperform
      · exact ih hsuffix

/-- What holds of a history and is kept by leaving out its last call held all
the time. -/
theorem of_suffix_of_cons {P : List Step → Prop}
    (hcons : ∀ step earlier, P (step :: earlier) → P earlier)
    {steps : List Step} (h : P steps) {earlier : List Step}
    (hsuffix : earlier <:+ steps) : P earlier := by
  obtain ⟨later, rfl⟩ := hsuffix
  induction later with
  | nil => exact h
  | cons step rest ih => exact ih (hcons step _ h)

/-- There is a step with the property after `n` others. -/
theorem exists_split (steps : List Step) (n : Nat) (p : Step → Bool)
    (h : (steps.drop n).head?.any p = true) :
    ∃ first earlier, steps = steps.take n ++ first :: earlier ∧
      p first = true := by
  obtain ⟨first, hhead, hfirst⟩ := (Option.any_eq_true _ _).mp h
  obtain ⟨earlier, hrest⟩ := List.head?_eq_some_iff.mp hhead
  exact ⟨first, earlier, by rw [← hrest, List.take_append_drop], hfirst⟩

/-- The kernels that runs lead to are the reachable ones. -/
theorem reachable_iff_exists_run {k : Kernel} :
    Reachable k ↔ ∃ steps, Run steps k := by
  constructor
  · intro h
    induction h with
    | fresh platform => exact ⟨[], .fresh platform⟩
    | step _ hperform ih =>
        obtain ⟨steps, hrun⟩ := ih
        exact ⟨_, hrun.step hperform⟩
  · rintro ⟨steps, hrun⟩
    induction hrun with
    | fresh platform => exact .fresh platform
    | step _ hperform ih => exact ih.step hperform

/-! ### Orderly kernels -/

/-- The chains of the kernel are in order, and what they hold is orderly. -/
structure Kernel.Sound (k : Kernel) : Prop where
  linked : k.Linked
  orderly : k.view.Orderly none

namespace Kernel

variable {k k' : Kernel} {call : Call} {answer : Answer}

theorem Sound.shows (h : k.Sound) : k.Shows k.view :=
  h.linked.shows

theorem Shows.sound {v : View} (h : k.Shows v) (ho : v.Orderly none) :
    k.Sound :=
  ⟨h.linked, h.view_eq ▸ ho⟩

theorem sound_fresh (platform : Platform) : (fresh platform).Sound :=
  (fresh_shows platform).sound (View.orderly_blank platform)

theorem Sound.performs (h : k.Sound)
    (hperform : k.perform call = .ok (answer, k')) :
    k.view.Performs call answer k'.view ∧ k'.Sound := by
  obtain ⟨w, hw, hk'⟩ := (h.shows.perform h.orderly call).holds _ hperform
  obtain rfl : k'.view = w := hk'.view_eq
  exact ⟨hw, hk'.linked, (hw.effect h.orderly).orderly h.orderly⟩

end Kernel

theorem Run.sound {steps : List Step} {k : Kernel} (hrun : Run steps k) :
    k.Sound := by
  induction hrun with
  | fresh platform => exact Kernel.sound_fresh platform
  | step _ hperform ih => exact (ih.performs hperform).2

/-- The outcome of the last call of a run. -/
theorem Run.performs {step : Step} {steps : List Step} {k : Kernel}
    (hrun : Run (step :: steps) k) : step.before.view.Orderly none ∧
      step.before.view.Performs step.call step.answer step.after.view ∧
      step.after.view.Orderly none := by
  obtain ⟨hbefore, -, hperform⟩ := hrun.last
  obtain ⟨hw, hafter⟩ := hbefore.sound.performs hperform
  exact ⟨hbefore.sound.orderly, hw, hafter.orderly⟩

namespace Witness

/-- The three tasks besides the idle one, and the first mutex and queue. -/
def taskA : TaskId := 1

def taskB : TaskId := 2

def taskC : TaskId := 3

def lock : MutexId := 0

def box : QueueId := 0

/-- Scheduling has started with three equally urgent tasks besides the idle
one. -/
def trio : List Call :=
  [.setUp, .register (spec "idle" 0), .register (spec "a" 5),
    .register (spec "b" 5), .register (spec "c" 5), .start]

/-- The history that calls make on a fresh platform; the empty one if they stop
the machine. -/
def history (calls : List Call) : List Step × Kernel :=
  ((Kernel.fresh Platform.fresh).proceed? [] calls).getD
    ([], Kernel.fresh Platform.fresh)

theorem run_history (calls : List Call) :
    Run (history calls).1 (history calls).2 := by
  unfold history
  cases hproceed : (Kernel.fresh Platform.fresh).proceed? [] calls with
  | none => exact .fresh _
  | some reached => exact (Run.fresh _).proceed hproceed

/-- The last call of a history, with what is seen of it. -/
theorem exists_last (calls : List Call) (p : Step → Bool)
    (h : (history calls).1.head?.any p = true) :
    ∃ step earlier, Run (step :: earlier) (history calls).2 ∧
      p step = true := by
  obtain ⟨step, hhead, hstep⟩ := (Option.any_eq_true _ _).mp h
  obtain ⟨earlier, hsteps⟩ := List.head?_eq_some_iff.mp hhead
  have hrun := run_history calls
  rw [hsteps] at hrun
  exact ⟨step, earlier, hrun, hstep⟩

end Witness

end TickKernel
