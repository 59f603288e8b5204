/-
The machine does not stop.  Users who keep the rules of `Kernel.permits` never
make an assertion of the kernel fail, never meet a damaged guard and never leave
the scheduler without a task to run.
-/
import TickKernel.Proofs.History

namespace TickKernel

namespace Kernel

/-- Every one of the calls keeps the rules in the state that it is made in, as
far as the machine gets. -/
def heeds (k : Kernel) : List Call → Bool
  | [] => true
  | call :: rest =>
      k.permits call &&
        match k.perform call with
        | .error _ => true
        | .ok (_, k') => k'.heeds rest

variable {k k' : Kernel} {v : View} {call : Call} {answer : Answer}

theorem Shows.spares_of_permits (h : k.Shows v)
    (hpermits : k.permits call = true) :
    v.Spares call.direct := by
  unfold permits at hpermits
  cases hcall : call.direct with
  | poke id index word =>
      intro hid hindex
      rw [hcall] at hpermits
      simpa [(h.isRegistered_iff id).mpr hid, hindex] using hpermits
  | _ => trivial

/-- A call that keeps the rules returns, and the guards are undamaged after
it. -/
theorem Sound.returns (h : k.Sound) (hguarded : k.view.Guarded)
    (hpermits : k.permits call = true) :
    ∃ answer k', k.perform call = .ok (answer, k') ∧
      k'.Sound ∧ k'.view.Guarded := by
  obtain ⟨⟨answer, k'⟩, hperform⟩ :=
    (h.shows.perform h.orderly call).returns ⟨hguarded, hpermits⟩
  obtain ⟨hw, hsound⟩ := h.performs hperform
  have hspares := h.shows.spares_of_permits hpermits
  exact ⟨answer, k', hperform, hsound,
    (hw.effect h.orderly).guarded h.orderly hspares hguarded⟩

theorem Sound.performAll (h : k.Sound) (hguarded : k.view.Guarded)
    {calls : List Call} (hheeds : k.heeds calls = true) :
    ∃ answers k', k.performAll calls = .ok (answers, k') := by
  induction calls generalizing k with
  | nil => exact ⟨[], k, rfl⟩
  | cons call rest ih =>
      rw [heeds, Bool.and_eq_true] at hheeds
      obtain ⟨hpermits, hrest⟩ := hheeds
      obtain ⟨answer, k₁, hperform, hsound, hguarded₁⟩ :=
        h.returns hguarded hpermits
      rw [hperform] at hrest
      obtain ⟨answers, k', hall⟩ := ih hsound hguarded₁ hrest
      refine ⟨answer :: answers, k', ?_⟩
      simp only [Kernel.performAll, hperform, hall, bind, Except.bind, pure,
        Except.pure]

/-- No calls that keep the rules stop the machine. -/
theorem performAll_of_heeds (platform : Platform) {calls : List Call}
    (hheeds : (fresh platform).heeds calls = true) :
    ∃ answers k, (fresh platform).performAll calls = .ok (answers, k) := by
  refine (sound_fresh platform).performAll (fun id hid => ?_) hheeds
  exact absurd hid (Nat.not_lt_zero _)

end Kernel

namespace Witness

/-- Task B is set aside and resumed while it waits for a mutex and for its
switch, and task A so too before it releases the mutex. -/
def disturbed : List Call :=
  equals ++ [.createMutex, .acquire lock 5, .beat, .acquire lock 5,
    .suspend taskB,
    .resume taskB, .switchOver, .suspend taskA, .resume taskA, .release lock]

theorem performAll_disturbed :
    (Kernel.fresh Platform.fresh).heeds disturbed = true ∧
      ∃ answers k, (Kernel.fresh Platform.fresh).performAll disturbed =
        .ok (answers, k) :=
  ⟨by decide +kernel, Kernel.performAll_of_heeds _ (by decide +kernel)⟩

/-- A task that releases a mutex of another one stops the machine. -/
example : ((Kernel.fresh Platform.fresh).proceed? []
    (equals ++ [.createMutex, .acquire lock 5, .beat, .release lock])).isNone =
      true := by
  decide +kernel

end Witness

end TickKernel
