/-
The life of a mutex, from the call that creates it to the end of the history.
The books of the mutex agree with the tasks blocked on it after every call, so
that the first of those that wait by the books is the next owner; and the level
of a mutex that has an owner is what the books of its ownership add up to.
-/
import TickKernel.Proofs.Ownership

namespace TickKernel

variable {step : Step} {earlier steps : List Step} {k : Kernel}
  {mutex : MutexId} {owner : TaskId}

/-! ### Who waits by the books -/

namespace Step

/-- The books of those that wait stay in order. -/
theorem stands {line served : List Entry}
    (hw : step.before.view.Performs step.call step.answer step.after.view)
    (ho : step.before.view.Orderly none) (ho' : step.after.view.Orderly none)
    (hafter : step.after.view.Created (.mutex mutex))
    (hline : Stands line served
      ((step.before.view.blocked (.mutex mutex)).map (Entry.claim .waiting))) :
    Stands (step.enterClaims mutex line)
      (served ++ (step.passesTo mutex).toList.map (Entry.claim .served))
      ((step.after.view.blocked (.mutex mutex)).map
        (Entry.claim .waiting)) := by
  by_cases hreleases : step.releases mutex = none
  · rw [passesTo_eq_none hreleases, Option.toList_none, List.map_nil,
      List.append_nil]
    exact stands_kept hw ho ho' hafter hreleases hline
  · exact stands_released hw ho ho' hreleases hline

end Step

/-- A mutex that was not there before is free. -/
theorem View.Performs.free_of_new {v w : View} {call : Call} {answer : Answer}
    (hw : v.Performs call answer w) (h : v.Orderly none)
    (hnew : ¬v.Created (.mutex mutex)) (hcreated : w.Created (.mutex mutex)) :
    w.owner mutex = none :=
  (hw.shape h).free_of_new (hw.ne_tearDown hcreated) hnew hcreated

/-- Those served by the books had the mutex passed on to them, and those that
wait by the books are blocked on it. -/
theorem Run.stands (hrun : Run steps k) (hmutex : k.hasMutex mutex = true) :
    Stands (claims mutex steps)
      ((inheritors mutex steps).map (Entry.claim .served))
      ((k.blockedIds (.mutex mutex)).map (Entry.claim .waiting)) := by
  induction steps generalizing k with
  | nil =>
      cases hrun with
      | fresh platform =>
          exact absurd (of_decide_eq_true hmutex) (Nat.not_lt_zero _)
  | cons step earlier ih =>
      obtain ⟨ho, hw, ho'⟩ := hrun.performs
      obtain ⟨hbefore, rfl, -⟩ := hrun.last
      have hafter := (hrun.sound.shows.hasMutex_iff mutex).mp hmutex
      rw [claims, inheritors]
      by_cases hthere : step.before.hasMutex mutex = true
      · rw [if_pos hthere, if_pos hthere, List.map_append]
        exact step.stands hw ho ho' hafter (ih hbefore hthere)
      · rw [if_neg hthere, if_neg hthere]
        have hfree := hw.free_of_new ho
          (fun hcreated =>
            hthere ((hbefore.sound.shows.hasMutex_iff mutex).mpr hcreated))
          hafter
        have hnobody : step.after.blockedIds (.mutex mutex) = [] :=
          ho'.owned.blocked_of_free mutex hfree
        rw [hnobody]
        exact .nil

/-- Who waits by the books is blocked on the mutex, in the same order. -/
theorem Run.heirs_eq (hrun : Run steps k) (hmutex : k.hasMutex mutex = true) :
    heirs mutex steps = k.blockedIds (.mutex mutex) := by
  rw [heirs, (hrun.stands hmutex).waiting_eq, List.map_map]
  exact List.map_id _

/-- Every step in the life of the mutex handles it, for those that wait by the
books. -/
theorem Run.handles (hrun : Run (step :: earlier) k)
    (hbefore : step.before.hasMutex mutex = true)
    (hafter : step.after.hasMutex mutex = true) :
    step.Handles mutex (heirs mutex earlier) := by
  obtain ⟨ho, hw, -⟩ := hrun.performs
  obtain ⟨hrun', rfl, -⟩ := hrun.last
  rw [hrun'.heirs_eq hbefore]
  exact step.handles hw ho ((hrun'.sound.shows.hasMutex_iff mutex).mp hbefore)
    ((hrun.sound.shows.hasMutex_iff mutex).mp hafter)

/-! ### The level by the books -/

/-- How often the task acquired the mutex in the steps, or was passed it. -/
def gained (id : MutexId) (owner : TaskId) (steps : List Step) : Nat :=
  steps.countP (Step.gains · id owner)

/-- How often the task released the mutex in the steps. -/
def dropped (id : MutexId) (owner : TaskId) (steps : List Step) : Nat :=
  steps.countP (Step.drops · id owner)

namespace Step

theorem tenure_kept
    (h : (step.after.mutex mutex).owner = (step.before.mutex mutex).owner) :
    tenure mutex (step :: earlier) = step :: tenure mutex earlier :=
  if_pos h

theorem tenure_changed
    (h : (step.after.mutex mutex).owner ≠ (step.before.mutex mutex).owner) :
    tenure mutex (step :: earlier) = [step] :=
  if_neg h

theorem gained_cons : gained mutex owner (step :: steps) =
    gained mutex owner steps + if step.acquires mutex = some owner ∨
      step.passesTo mutex = some owner then 1 else 0 := by
  simp only [gained, List.countP_cons, gains, Bool.or_eq_true, beq_iff_eq]

theorem dropped_cons : dropped mutex owner (step :: steps) =
    dropped mutex owner steps + if step.releases mutex = some owner then 1
    else 0 := by
  simp only [dropped, List.countP_cons, drops, beq_iff_eq]

/-- What a step adds to the level of a mutex it adds to the books as well. -/
theorem Handles.level_eq {heirs : List TaskId}
    (hstep : step.Handles mutex heirs)
    (howner : (step.after.mutex mutex).owner = some owner)
    (hlevel : (step.before.mutex mutex).owner = some owner →
      (step.before.mutex mutex).level.toNat + dropped mutex owner
      (tenure mutex earlier) = gained mutex owner (tenure mutex earlier)) :
    (step.after.mutex mutex).level.toNat +
        dropped mutex owner (tenure mutex (step :: earlier)) =
      gained mutex owner (tenure mutex (step :: earlier)) := by
  cases hstep with
  | kept hacquires hreleases hsame hkept =>
      have hpasses := passesTo_eq_none hreleases
      rw [tenure_kept hsame, gained_cons, dropped_cons, hacquires, hreleases,
        hpasses, hkept]
      simpa using hlevel (hsame.symm.trans howner)
  | taken caller hacquires hreleases hfree htaken hone =>
      have hpasses := passesTo_eq_none hreleases
      have hchanged : (step.after.mutex mutex).owner ≠
          (step.before.mutex mutex).owner := by
        rw [hfree, howner]
        exact Option.some_ne_none owner
      rw [tenure_changed hchanged, gained_cons, dropped_cons, hacquires,
        hreleases, hone, htaken.symm.trans howner]
      simp [gained, dropped]
  | again caller hacquires hreleases howns hkeeps hmore =>
      have hpasses := passesTo_eq_none hreleases
      have hold := hlevel (howns.trans (hkeeps.symm.trans howner))
      rw [tenure_kept (hkeeps.trans howns.symm), gained_cons, dropped_cons,
        hacquires, hreleases, hmore, hkeeps.symm.trans howner]
      simp
      omega
  | once caller hacquires hreleases howns hkeeps hless =>
      have hpasses := passesTo_kept (hkeeps.trans hreleases.symm)
      have hold := hlevel (howns.trans (hkeeps.symm.trans howner))
      rw [tenure_kept (hkeeps.trans howns.symm), gained_cons, dropped_cons,
        hacquires, hreleases, hpasses, hkeeps.symm.trans howner]
      simp
      omega
  | freed caller hacquires hreleases howns hlast hnobody hfreed =>
      rw [hfreed] at howner
      cases howner
  | passed caller heir rest hacquires hreleases howns hlast hheirs hother
    hpassed hone =>
      have hpasses := passesTo_passed hreleases hpassed hother
      have hchanged : (step.after.mutex mutex).owner ≠
          (step.before.mutex mutex).owner := by
        rw [hpassed, howns]
        exact fun heq => hother (Option.some.inj heq)
      obtain rfl : heir = owner := Option.some.inj (hpassed.symm.trans howner)
      have hnot : some caller ≠ some heir := fun heq =>
        hother (Option.some.inj heq).symm
      rw [tenure_changed hchanged, gained_cons, dropped_cons, hreleases,
        hpasses, hone, if_neg hnot, if_pos (Or.inr rfl)]
      rfl

end Step

/-- The level and the releases of the owner make up for what it acquired. -/
theorem Run.level_eq (hrun : Run steps k) (hmutex : k.hasMutex mutex = true)
    (howner : (k.mutex mutex).owner = some owner) :
    (k.mutex mutex).level.toNat + dropped mutex owner (tenure mutex steps) =
      gained mutex owner (tenure mutex steps) := by
  induction steps generalizing k with
  | nil =>
      cases hrun with
      | fresh platform =>
          exact absurd (of_decide_eq_true hmutex) (Nat.not_lt_zero _)
  | cons step earlier ih =>
      obtain ⟨ho, hw, -⟩ := hrun.performs
      obtain ⟨hbefore, rfl, -⟩ := hrun.last
      have hafter := (hrun.sound.shows.hasMutex_iff mutex).mp hmutex
      by_cases hthere : step.before.hasMutex mutex = true
      · exact (hrun.handles hthere hmutex).level_eq howner (ih hbefore hthere)
      · have hfree : (step.after.mutex mutex).owner = none := hw.free_of_new ho
          (fun hcreated =>
            hthere ((hbefore.sound.shows.hasMutex_iff mutex).mpr hcreated))
          hafter
        rw [hfree] at howner
        cases howner

/-! ### The life of a mutex -/

/-- The life of a mutex in a history that leads to the kernel. -/
structure Custody (id : MutexId) (steps : List Step) (k : Kernel) : Prop where
  /-- The mutex is free when it is created, -/
  created : ∀ step earlier, step :: earlier <:+ steps →
    step.before.hasMutex id = false → step.after.hasMutex id = true →
      (step.after.mutex id).owner = none
  /-- every later step handles it, for the tasks that wait by the books, -/
  handled : ∀ step earlier, step :: earlier <:+ steps →
    step.before.hasMutex id = true → step.after.hasMutex id = true →
      step.Handles id (heirs id earlier)
  /-- and steps that are not about it leave it alone. -/
  undisturbed : ∀ step earlier, step :: earlier <:+ steps →
    step.before.hasMutex id = true → step.after.hasMutex id = true →
      step.call.direct.object ≠ some (.mutex id) →
        (step.after.mutex id).owner = (step.before.mutex id).owner ∧
          (step.after.mutex id).level = (step.before.mutex id).level
  free_iff : (k.mutex id).level = 0 ↔ (k.mutex id).owner = none
  /-- The level of an owner is what it acquired less what it released. -/
  level_eq : ∀ owner, (k.mutex id).owner = some owner →
    (k.mutex id).level.toNat + dropped id owner (tenure id steps) =
      gained id owner (tenure id steps)
  /-- The acquires that had to wait and whose waits did not end in vain, in the
  order of the calls: the mutex was passed on to the first of them, and the
  others still wait. -/
  line : (claims id steps).filter Entry.counts =
    (inheritors id steps).map (Entry.claim .served) ++
      (k.blockedIds (.mutex id)).map (Entry.claim .waiting)

/-- After any calls every mutex has changed hands by the rules only. -/
theorem Run.custody (hrun : Run steps k) (hmutex : k.hasMutex mutex = true) :
    Custody mutex steps k := by
  refine ⟨fun step earlier hsuffix hbefore hafter => ?_,
    fun step earlier hsuffix hbefore hafter => ?_,
    fun step earlier hsuffix hbefore hafter hobject => ?_, ?_,
    fun owner => hrun.level_eq hmutex, (hrun.stands hmutex).counts_eq⟩
  · have hpart := hrun.of_suffix hsuffix
    obtain ⟨ho, hw, -⟩ := hpart.performs
    obtain ⟨hrun', -, -⟩ := hpart.last
    refine hw.free_of_new ho ?_
      ((hpart.sound.shows.hasMutex_iff mutex).mp hafter)
    rw [← hrun'.sound.shows.hasMutex_iff mutex, hbefore]
    exact Bool.false_ne_true
  · exact (hrun.of_suffix hsuffix).handles hbefore hafter
  · have hpart := hrun.of_suffix hsuffix
    obtain ⟨ho, hw, -⟩ := hpart.performs
    obtain ⟨hrun', -, -⟩ := hpart.last
    have hthere := (hrun'.sound.shows.hasMutex_iff mutex).mp hbefore
    exact (hw.shape ho).mutex_eq
      (hw.ne_tearDown ((hpart.sound.shows.hasMutex_iff mutex).mp hafter))
      hthere hobject
  · have hpos := hrun.sound.orderly.owned.level_pos_iff mutex
    change k.view.level mutex = 0 ↔ k.view.owner mutex = none
    rw [← not_iff_not, ← ne_eq (k.view.owner mutex), ← hpos,
      UInt16.pos_iff_ne_zero]

namespace Witness

/-- Task A owns the mutex twice over.  The wait of task B is over before its
turn comes, the wait of task C is not, and task B, which waits again, is set
aside.  Task C is passed the mutex and acquires it once more. -/
def handedOn : List Call :=
  trio ++ [.createMutex, .acquire lock 0, .acquire lock 0, .beat,
    .acquire lock 1,
    .switchOver, .acquire lock 9, .switchOver, .beat, .acquire lock 20,
    .switchOver,
    .suspend taskB, .release lock, .release lock, .beat, .acquire lock 0]

theorem custody_handedOn :
    Run (history handedOn).1 (history handedOn).2 ∧
      (history handedOn).2.hasMutex lock = true ∧
      claims lock (history handedOn).1 = [.claim .withdrawn taskB,
        .claim .served taskC,
        .claim .withdrawn taskB] ∧
      inheritors lock (history handedOn).1 = [taskC] ∧
      ((history handedOn).2.mutex lock).owner = some taskC ∧
      ((history handedOn).2.mutex lock).level = 2 ∧
      Custody lock (history handedOn).1 (history handedOn).2 :=
  ⟨run_history _, by decide +kernel, by decide +kernel, by decide +kernel,
    by decide +kernel, by decide +kernel,
    (run_history _).custody (by decide +kernel)⟩

end Witness

end TickKernel
