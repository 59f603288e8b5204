/-
Who owns a mutex.  Over its life a mutex changes hands only when it is acquired
while nobody owns it and when its owner releases it for the last time, and then
it goes to the task that has waited longest, if any still waits.  The books of a
mutex are made from a history alone: who acquired and released it, whose
acquires had to wait, and how their waits ended.
-/
import TickKernel.Proofs.Ledger
import TickKernel.Proofs.Waits

namespace TickKernel

/-! ### Books of a mutex -/

/-- An acquire that had to wait, in a line. -/
def Entry.claim (fate : Fate) (id : TaskId) : Entry :=
  ⟨id, 0, fate⟩

namespace Step

/-- The task that acquired the mutex in the step. -/
def acquires (step : Step) (id : MutexId) : Option TaskId :=
  match step.call.direct, step.answer.toReply.status with
  | .acquire other _, .success =>
      if other = id then step.before.running else none
  | _, _ => none

/-- The task that released the mutex in the step. -/
def releases (step : Step) (id : MutexId) : Option TaskId :=
  match step.call.direct, step.answer.toReply.status with
  | .release other, .success => if other = id then step.before.running else none
  | _, _ => none

/-- The task that has to wait for the mutex from the step on.  A timeout that is
replied at once says so, unless the call does not want to wait. -/
def awaits (step : Step) (id : MutexId) : Option TaskId :=
  match step.call.direct, step.answer.toReply.status with
  | .acquire other timeout, .timeout =>
      if other = id ∧ timeout ≠ 0 then step.before.running else none
  | _, _ => none

/-- The task to which the mutex was passed on by a release in the step. -/
def passesTo (step : Step) (id : MutexId) : Option TaskId :=
  if step.releases id = none ∨ (step.after.mutex id).owner = step.releases id
  then none
  else (step.after.mutex id).owner

/-- The task became an owner of the mutex once more, by an acquire of its own or
by the release of another task. -/
def gains (step : Step) (id : MutexId) (owner : TaskId) : Bool :=
  step.acquires id == some owner || step.passesTo id == some owner

/-- The task released the mutex once. -/
def drops (step : Step) (id : MutexId) (owner : TaskId) : Bool :=
  step.releases id == some owner

/-- Enter a step into the line of acquires that had to wait.  Who leaves at a
release was served; otherwise the waits of those that leave have ended in
vain. -/
def enterClaims (step : Step) (id : MutexId) (line : List Entry) : List Entry :=
  if step.releases id = none then
    closeLine .withdrawn step.lapses line ++
      (step.awaits id).toList.map (Entry.claim .waiting)
  else closeLine .served step.rouses line

end Step

/-- The acquires of a mutex that had to wait since it was created, in the order
of the calls. -/
def claims (id : MutexId) : List Step → List Entry
  | [] => []
  | step :: steps =>
      if step.before.hasMutex id then step.enterClaims id
        (claims id steps) else []

/-- The tasks whose acquires still wait, in the order of the calls. -/
def heirs (id : MutexId) (steps : List Step) : List TaskId :=
  ((claims id steps).filter Entry.isWaiting).map Entry.task

/-- The tasks to which the mutex was passed on since it was created, in that
order. -/
def inheritors (id : MutexId) : List Step → List TaskId
  | [] => []
  | step :: steps =>
      if step.before.hasMutex id then
        inheritors id steps ++ (step.passesTo id).toList
      else []

/-- The steps since the mutex got its owner, that one included. -/
def tenure (id : MutexId) : List Step → List Step
  | [] => []
  | step :: steps =>
      if (step.after.mutex id).owner = (step.before.mutex id).owner then
        step :: tenure id steps
      else [step]

/-! ### One step -/

/-- What a step may do to a mutex for which `heirs` wait. -/
inductive Step.Handles (step : Step) (id : MutexId) (heirs : List TaskId) : Prop
  | kept (hacquires : step.acquires id = none)
      (hreleases : step.releases id = none)
      (howner : (step.after.mutex id).owner = (step.before.mutex id).owner)
      (hlevel : (step.after.mutex id).level = (step.before.mutex id).level)
  /-- The running task acquires the free mutex. -/
  | taken (caller : TaskId) (hacquires : step.acquires id = some caller)
      (hreleases : step.releases id = none)
      (hfree : (step.before.mutex id).owner = none)
      (howner : (step.after.mutex id).owner = some caller)
      (hlevel : (step.after.mutex id).level.toNat = 1)
  /-- The owner acquires the mutex once more. -/
  | again (caller : TaskId) (hacquires : step.acquires id = some caller)
      (hreleases : step.releases id = none)
      (howns : (step.before.mutex id).owner = some caller)
      (howner : (step.after.mutex id).owner = some caller)
      (hlevel : (step.after.mutex id).level.toNat =
        (step.before.mutex id).level.toNat + 1)
  /-- The owner releases the mutex, but not for the last time. -/
  | once (caller : TaskId) (hacquires : step.acquires id = none)
      (hreleases : step.releases id = some caller)
      (howns : (step.before.mutex id).owner = some caller)
      (howner : (step.after.mutex id).owner = some caller)
      (hlevel : (step.after.mutex id).level.toNat + 1 =
        (step.before.mutex id).level.toNat)
      (hpos : 0 < (step.after.mutex id).level.toNat)
  /-- The owner releases the mutex for the last time, and nobody waits for
  it. -/
  | freed (caller : TaskId) (hacquires : step.acquires id = none)
      (hreleases : step.releases id = some caller)
      (howns : (step.before.mutex id).owner = some caller)
      (hlast : (step.before.mutex id).level.toNat = 1) (hnobody : heirs = [])
      (howner : (step.after.mutex id).owner = none)
      (hlevel : (step.after.mutex id).level.toNat = 0)
  /-- The owner releases the mutex for the last time, and the first of those
  that wait for it is the next owner. -/
  | passed (caller heir : TaskId) (rest : List TaskId)
      (hacquires : step.acquires id = none)
      (hreleases : step.releases id = some caller)
      (howns : (step.before.mutex id).owner = some caller)
      (hlast : (step.before.mutex id).level.toNat = 1)
      (hheirs : heirs = heir :: rest)
      (hother : heir ≠ caller)
      (howner : (step.after.mutex id).owner = some heir)
      (hlevel : (step.after.mutex id).level.toNat = 1)

namespace View

variable {u v w : View} {call : Call} {answer : Answer} {reply : Reply}
  {current id : TaskId} {mutex : MutexId}

theorem Performs.acquired {timeout : Tick} (hw : v.Performs call answer w)
    (hcall : call.direct = .acquire mutex timeout) :
    ∃ result, v.Acquired mutex timeout result w ∧
      answer.toReply = (Answer.unit result).toReply := by
  obtain ⟨other, hw, hreply⟩ := hw.direct
  rw [hcall] at hw
  cases hw with
  | acquire hw => exact ⟨_, hw, hreply.symm⟩

theorem Performs.released (hw : v.Performs call answer w)
    (hcall : call.direct = .release mutex) :
    ∃ result, v.Released mutex result w ∧
      answer.toReply = (Answer.unit result).toReply := by
  obtain ⟨other, hw, hreply⟩ := hw.direct
  rw [hcall] at hw
  cases hw with
  | release hw => exact ⟨_, hw, hreply.symm⟩

theorem Released.eq_of_refused {error : Error}
    (hw : v.Released mutex (.error error) w) :
    w = v := by
  cases hw
  rfl

theorem Released.running_ne_none (hw : v.Released mutex (.ok ()) w) :
    v.running ≠ none := by
  cases hw with
  | once hrunning => exact hrunning ▸ Option.some_ne_none _
  | freed hrunning => exact hrunning ▸ Option.some_ne_none _
  | passedOn hrunning => exact hrunning ▸ Option.some_ne_none _

/-! ### Mutexes that the call is not about -/

/-- The mutexes stay with their owners, and there are no new ones. -/
structure SameMutexes (v w : View) : Prop where
  mutexCount : w.mutexCount = v.mutexCount
  owner : w.owner = v.owner
  level : w.level = v.level

theorem SameMutexes.trans (h : u.SameMutexes v) (h' : v.SameMutexes w) :
    u.SameMutexes w :=
  ⟨h'.mutexCount.trans h.mutexCount, h'.owner.trans h.owner,
    h'.level.trans h.level⟩

theorem sameMutexes_promised (v : View) (id : TaskId) (reply : Reply) :
    v.SameMutexes (v.promised id reply) :=
  ⟨rfl, rfl, rfl⟩

theorem sameMutexes_readied (v : View) (id : TaskId) :
    v.SameMutexes (v.readied id) :=
  ⟨rfl, rfl, rfl⟩

theorem sameMutexes_dispatched (v : View) (current target : TaskId) :
    v.SameMutexes (v.dispatched current target) := by
  constructor <;> simp only [dispatched, promoted, setTask, stoodDown, readied,
    unblocked]

theorem Rescheduled.sameMutexes (hw : v.Rescheduled current w) :
    v.SameMutexes w := by
  cases hw with
  | stays => exact ⟨rfl, rfl, rfl⟩
  | due target => exact sameMutexes_dispatched v current target
  | chosen target => exact sameMutexes_dispatched v current target

theorem GaveUp.sameMutexes (hw : v.GaveUp current w) : v.SameMutexes w := by
  cases hw with
  | pending => exact ⟨rfl, rfl, rfl⟩
  | now _ hw => exact hw.sameMutexes

theorem Ticked.sameMutexes (hw : v.Ticked w) : v.SameMutexes w := by
  cases hw with
  | stopped => exact ⟨rfl, rfl, rfl⟩
  | pending => exact ⟨rfl, rfl, rfl⟩
  | now _ _ hw => exact hw.sameMutexes

theorem Woke.sameMutexes (hw : v.Woke id reply w) : v.SameMutexes w := by
  refine (sameMutexes_promised v id reply).trans ?_
  cases hw with
  | now current => exact sameMutexes_dispatched _ current id
  | later => exact sameMutexes_readied _ id

theorem Switched.sameMutexes (hw : v.Switched w) : v.SameMutexes w := by
  rw [hw.lists]
  exact ⟨rfl, rfl, rfl⟩

theorem Shape.mutex_eq (hw : v.Shape call reply w) (hcall : call ≠ .tearDown)
    (hcreated : v.Created (.mutex mutex))
    (hother : call.object ≠ some (.mutex mutex)) :
    w.owner mutex = v.owner mutex ∧ w.level mutex = v.level mutex := by
  have hsame : ∀ {u w : View}, u.SameMutexes w → u.owner mutex = v.owner mutex ∧
      u.level mutex = v.level mutex → w.owner mutex = v.owner mutex ∧
        w.level mutex = v.level mutex := fun h hu =>
    ⟨(congrFun h.owner mutex).trans hu.1, (congrFun h.level mutex).trans hu.2⟩
  cases hw with
  | rests _ hw => exact hw.mutex mutex hcreated hother
  | ticks _ hw => exact hsame hw.sameMutexes ⟨rfl, rfl⟩
  | @beats _ u saved hu =>
      exact hsame (switched_switchedFrom u saved).sameMutexes
        (hsame hu.sameMutexes ⟨rfl, rfl⟩)
  | switches saved =>
      exact hsame (switched_switchedFrom v saved).sameMutexes ⟨rfl, rfl⟩
  | stops _ _ _ hu _ hw =>
      refine hsame hw.sameMutexes ?_
      rw [hu.lists_eq]
      exact ⟨rfl, rfl⟩
  | serves hu _ _ _ hw => exact hsame hw.sameMutexes (hu.mutex mutex hother)
  | resumes => exact ⟨rfl, rfl⟩
  | shelves => exact ⟨rfl, rfl⟩
  | @enrols spec => cases spec.mode <;> exact ⟨rfl, rfl⟩
  | enters => exact ⟨rfl, rfl⟩
  | clears => exact absurd rfl hcall

/-- A mutex that was not there before is free. -/
theorem Shape.free_of_new (hw : v.Shape call reply w) (hcall : call ≠ .tearDown)
    (hnew : ¬v.Created (.mutex mutex)) (hcreated : w.Created (.mutex mutex)) :
    w.owner mutex = none := by
  have hno : ∀ {u w : View}, u.SameMutexes w → u.mutexCount = v.mutexCount →
      ¬w.Created (.mutex mutex) := by
    intro u w h hu hcreated
    rw [Created, h.mutexCount, hu] at hcreated
    exact hnew hcreated
  cases hw with
  | rests _ hw => exact hw.free mutex hnew hcreated
  | ticks _ hw => exact absurd hcreated (hno hw.sameMutexes rfl)
  | @beats _ u saved hu =>
      exact absurd hcreated
        (hno (hu.sameMutexes.trans (switched_switchedFrom u saved).sameMutexes)
          rfl)
  | switches saved =>
      exact absurd hcreated
        (hno (switched_switchedFrom v saved).sameMutexes rfl)
  | stops _ _ _ hu _ hw =>
      refine absurd hcreated (hno hw.sameMutexes ?_)
      rw [hu.lists_eq]
  | serves hu _ _ _ hw =>
      refine absurd hcreated (hno hw.sameMutexes ?_)
      rw [hu.lists]
      rfl
  | resumes => exact absurd hcreated hnew
  | shelves => exact absurd hcreated hnew
  | @enrols spec =>
      refine absurd ?_ hnew
      cases hmode : spec.mode <;> rw [hmode] at hcreated <;> exact hcreated
  | enters => exact absurd hcreated hnew
  | clears => exact absurd rfl hcall

end View

namespace View

variable {v w : View} {mutex : MutexId}

/-- A release leaves those that wait alone, or the first of them becomes the
owner. -/
theorem Released.stays_or_passes (hw : v.Released mutex (.ok ()) w)
    (ho : v.Orderly none) (ho' : w.Orderly none) :
    w.blocked (.mutex mutex) = v.blocked (.mutex mutex) ∧
        (w.owner mutex = none ∨ w.owner mutex = v.running) ∨
      ∃ heir, v.blocked (.mutex mutex) = heir :: w.blocked (.mutex mutex) ∧
        heir ∉ w.waiting ∧ w.owner mutex = some heir ∧
        v.running ≠ some heir := by
  cases hw with
  | once hrunning =>
      refine Or.inl ⟨rfl, Or.inr ?_⟩
      rw [hrunning]
      exact if_pos rfl
  | freed => exact Or.inl ⟨rfl, Or.inl (if_pos rfl)⟩
  | @passedOn current heir rest _ hrunning howner hlevel hnext hw =>
      have hnodup := ho.parked.blocked_nodup (.mutex mutex)
      rw [hnext, List.nodup_cons] at hnodup
      have hblocked : w.blocked (.mutex mutex) = rest := by
        have herase : w.blocked (.mutex mutex) =
            ((v.handedOver mutex heir).blocked (.mutex mutex)).erase heir := by
          cases hw <;> rfl
        have hhanded : (v.handedOver mutex heir).blocked (.mutex mutex) =
            rest := by
          change (v.blocked (.mutex mutex)).erase heir = rest
          rw [hnext, List.erase_cons_head]
        rw [herase, hhanded, List.erase_of_not_mem hnodup.1]
      have hgone : heir ∉ w.waiting := by
        refine ho'.not_mem_waiting ?_
        cases hw with
        | now current =>
            rw [status_dispatched]
            decide
        | later => simp [readied]
      refine Or.inr ⟨heir, hblocked ▸ hnext, hgone, ?_, ?_⟩
      · exact (congrFun hw.sameMutexes.owner mutex).trans (if_pos rfl)
      · rw [hrunning]
        rintro heq
        obtain rfl := Option.some.inj heq
        refine ho.owned.owner_not_blocked mutex current howner ?_
        rw [hnext]
        exact List.mem_cons_self

end View

/-! ### Counting levels -/

theorem Mutex.toNat_level_add_one {level : UInt16}
    (h : level ≠ Mutex.maxLevel) :
    (level + 1).toNat = level.toNat + 1 := by
  have hne : level.toNat ≠ 65535 := fun heq => h (UInt16.toNat.inj heq)
  have hlt := level.toNat_lt
  rw [UInt16.toNat_add]
  simp
  omega

theorem Mutex.toNat_level_sub_one {level : UInt16} (hpos : 0 < level) :
    (level - 1).toNat + 1 = level.toNat := by
  rw [UInt16.lt_iff_toNat_lt] at hpos
  have hlt := level.toNat_lt
  rw [UInt16.toNat_sub]
  simp at hpos ⊢
  omega

namespace Step

variable {step : Step} {mutex : MutexId} {w : View} {timeout : Tick}
  {result : Except Error Unit} {error : Error} {id : TaskId}

theorem status_refused
    (hreply : step.answer.toReply = (Answer.unit (.error error)).toReply) :
    step.answer.toReply.status = error.status := by
  rw [hreply]
  rfl

theorem status_accepted
    (hreply : step.answer.toReply = (Answer.unit (.ok ())).toReply) :
    step.answer.toReply.status = .success := by
  rw [hreply]
  rfl

/-! ### What a step does to a mutex -/

theorem acquires_eq_none
    (h : ∀ timeout, step.call.direct ≠ .acquire mutex timeout) :
    step.acquires mutex = none := by
  unfold acquires
  split
  · rename_i other timeout hcall _
    refine if_neg ?_
    rintro rfl
    exact h timeout hcall
  · rfl

theorem releases_eq_none (h : step.call.direct ≠ .release mutex) :
    step.releases mutex = none := by
  unfold releases
  split
  · rename_i other hcall _
    refine if_neg ?_
    rintro rfl
    exact h hcall
  · rfl

theorem awaits_eq_none
    (h : ∀ timeout, step.call.direct ≠ .acquire mutex timeout) :
    step.awaits mutex = none := by
  unfold awaits
  split
  · rename_i other timeout hcall _
    refine if_neg ?_
    rintro ⟨rfl, -⟩
    exact h timeout hcall
  · rfl

/-- A call that is not about the mutex neither acquires nor releases it. -/
theorem ne_of_object_ne (h : step.call.direct.object ≠ some (.mutex mutex)) :
    (∀ timeout, step.call.direct ≠ .acquire mutex timeout) ∧
      step.call.direct ≠ .release mutex := by
  refine ⟨fun timeout heq => ?_, fun heq => ?_⟩
  · rw [heq] at h
    exact h rfl
  · rw [heq] at h
    exact h rfl

theorem releases_refused
    (hreply : step.answer.toReply = (Answer.unit (.error error)).toReply) :
    step.releases mutex = none := by
  unfold releases
  split
  · rename_i hstatus
    rw [status_refused hreply] at hstatus
    exact absurd hstatus error.status_ne_success
  · rfl

theorem releases_accepted (hcall : step.call.direct = .release mutex)
    (hreply : step.answer.toReply = (Answer.unit (.ok ())).toReply) :
    step.releases mutex = step.before.running := by
  simp only [releases, hcall, status_accepted hreply, if_true]

theorem passesTo_eq_none (h : step.releases mutex = none) :
    step.passesTo mutex = none :=
  if_pos (Or.inl h)

/-- The mutex goes nowhere if its owner keeps it. -/
theorem passesTo_kept
    (h : (step.after.mutex mutex).owner = step.releases mutex) :
    step.passesTo mutex = none :=
  if_pos (Or.inr h)

theorem passesTo_freed (h : (step.after.mutex mutex).owner = none) :
    step.passesTo mutex = none := by
  rw [passesTo, h]
  exact ite_self none

theorem passesTo_passed {caller heir : TaskId}
    (hreleases : step.releases mutex = some caller)
    (howner : (step.after.mutex mutex).owner = some heir)
    (hother : heir ≠ caller) :
    step.passesTo mutex = some heir := by
  rw [passesTo, hreleases, howner, if_neg]
  rintro (hnone | hsame)
  · cases hnone
  · exact hother (Option.some.inj hsame)

theorem handles_acquired (hview : step.after.view = w)
    (hw : step.before.view.Acquired mutex timeout result w)
    (hcall : step.call.direct = .acquire mutex timeout)
    (hreply : step.answer.toReply = (Answer.unit result).toReply)
    (heirs : List TaskId) :
    step.Handles mutex heirs := by
  have howner : (step.after.mutex mutex).owner = w.owner mutex := by
    rw [← hview]
    rfl
  have hlevel : (step.after.mutex mutex).level = w.level mutex := by
    rw [← hview]
    rfl
  have hreleases : step.releases mutex = none :=
    releases_eq_none (by rw [hcall]; simp)
  have hacquires : step.answer.toReply.status = .success →
      step.acquires mutex = step.before.running := by
    intro hstatus
    simp only [acquires, hcall, hstatus, if_true]
  have hnone : step.answer.toReply.status ≠ .success →
      step.acquires mutex = none := by
    intro hstatus
    unfold acquires
    split
    · exact absurd ‹_› hstatus
    · rfl
  cases hw with
  | refused error =>
      refine .kept (hnone ?_) hreleases howner hlevel
      rw [status_refused hreply]
      exact error.status_ne_success
  | @taken caller hrunning hcreated hfree =>
      refine .taken caller ((hacquires (status_accepted hreply)).trans hrunning)
        hreleases hfree (howner.trans ?_) ?_
      · exact if_pos rfl
      · rw [hlevel]
        exact congrArg UInt16.toNat (if_pos rfl)
  | @again caller hrunning hcreated howns hmax =>
      refine .again caller ((hacquires (status_accepted hreply)).trans hrunning)
        hreleases howns (howner.trans ?_) ?_
      · exact if_pos rfl
      · rw [hlevel]
        exact (congrArg UInt16.toNat (if_pos rfl)).trans
          (Mutex.toNat_level_add_one hmax)
  | @parked caller _ hrunning hcreated hsome hother hready hidle hw =>
      refine .kept (hnone ?_) hreleases (howner.trans ?_) (hlevel.trans ?_)
      · rw [status_refused hreply]
        decide
      · exact congrFun hw.sameMutexes.owner mutex
      · exact congrFun hw.sameMutexes.level mutex

theorem handles_released (hview : step.after.view = w)
    (hw : step.before.view.Released mutex result w)
    (ho : step.before.view.Orderly none)
    (hcall : step.call.direct = .release mutex)
    (hreply : step.answer.toReply = (Answer.unit result).toReply) :
    step.Handles mutex (step.before.blockedIds (.mutex mutex)) := by
  have howner : (step.after.mutex mutex).owner = w.owner mutex := by
    rw [← hview]
    rfl
  have hlevel : (step.after.mutex mutex).level = w.level mutex := by
    rw [← hview]
    rfl
  have hacquires : step.acquires mutex = none :=
    acquires_eq_none fun timeout => by rw [hcall]; simp
  have hreleases : step.answer.toReply.status = .success →
      step.releases mutex = step.before.running := by
    intro hstatus
    simp only [releases, hcall, hstatus, if_true]
  cases hw with
  | refused error =>
      exact .kept hacquires (releases_refused hreply) howner hlevel
  | @once caller hrunning howns hone =>
      have hpos := (ho.owned.level_pos_iff mutex).mpr
        (by rw [howns]; exact Option.some_ne_none caller)
      have hafter : (step.after.mutex mutex).level =
          step.before.view.level mutex - 1 :=
        hlevel.trans (if_pos rfl)
      refine .once caller hacquires
        ((hreleases (status_accepted hreply)).trans hrunning)
        howns (howner.trans (if_pos rfl)) ?_ ?_
      · rw [hafter]
        exact Mutex.toNat_level_sub_one hpos
      · rw [hafter]
        exact UInt16.lt_iff_toNat_lt.mp (Mutex.level_sub_one_pos hpos hone)
  | @freed caller hrunning howns hone hnobody =>
      refine .freed caller hacquires
        ((hreleases (status_accepted hreply)).trans hrunning)
        howns (congrArg UInt16.toNat hone) hnobody
        (howner.trans (if_pos rfl)) ?_
      rw [hlevel]
      exact congrArg UInt16.toNat (if_pos rfl)
  | @passedOn caller heir rest _ hrunning howns hone hnext hw =>
      have hsame := hw.sameMutexes
      refine .passed caller heir rest hacquires
        ((hreleases (status_accepted hreply)).trans hrunning) howns
        (congrArg UInt16.toNat hone) hnext ?_ (howner.trans ?_) ?_
      · rintro rfl
        refine ho.owned.owner_not_blocked mutex heir howns ?_
        rw [hnext]
        exact List.mem_cons_self
      · exact (congrFun hsame.owner mutex).trans (if_pos rfl)
      · rw [hlevel]
        exact congrArg UInt16.toNat
          ((congrFun hsame.level mutex).trans (if_pos rfl))

/-- The handling of a mutex in any step of its life. -/
theorem handles
    (hw : step.before.view.Performs step.call step.answer step.after.view)
    (ho : step.before.view.Orderly none)
    (hbefore : step.before.view.Created (.mutex mutex))
    (hafter : step.after.view.Created (.mutex mutex)) :
    step.Handles mutex (step.before.blockedIds (.mutex mutex)) := by
  by_cases hobject : step.call.direct.object = some (.mutex mutex)
  · cases hcall : step.call.direct with
    | acquire other timeout =>
        rw [hcall] at hobject
        obtain rfl := Resource.mutex.inj (Option.some.inj hobject)
        obtain ⟨result, hacquired, hreply⟩ := hw.acquired hcall
        exact handles_acquired rfl hacquired hcall hreply _
    | release other =>
        rw [hcall] at hobject
        obtain rfl := Resource.mutex.inj (Option.some.inj hobject)
        obtain ⟨result, hreleased, hreply⟩ := hw.released hcall
        exact handles_released rfl hreleased ho hcall hreply
    | _ =>
        rw [hcall] at hobject
        cases hobject
  · obtain ⟨hacquire, hrelease⟩ := ne_of_object_ne hobject
    obtain ⟨howner, hlevel⟩ :=
      (hw.shape ho).mutex_eq (hw.ne_tearDown hafter) hbefore hobject
    exact .kept (acquires_eq_none hacquire) (releases_eq_none hrelease)
      howner hlevel

/-! ### What a step does to those that wait -/

/-- Whoever is blocked on a mutex that is not released stops waiting in vain. -/
theorem lapses_iff_gone
    (hw : step.before.view.Performs step.call step.answer step.after.view)
    (ho : step.before.view.Orderly none)
    (hafter : step.after.view.Created (.mutex mutex))
    (hreleases : step.releases mutex = none)
    (hid : id ∈ step.before.view.blocked (.mutex mutex)) :
    step.lapses id = true ↔ id ∉ step.after.view.waiting := by
  have hwaiting := ho.waiting_of_blocked hid
  rw [lapses_iff, rouses_iff]
  refine ⟨fun h => h.1.2, fun hgone => ⟨⟨hwaiting, hgone⟩, ?_⟩⟩
  rcases (hw.shape ho).served_or_lapsed ho (hw.ne_tearDown hafter) hwaiting
    hgone with hserved | hlapsed
  · obtain ⟨resource, rest, hobject, hfirst⟩ := hserved.first
    have hmem : id ∈ step.before.view.blocked resource := by
      rw [hfirst]
      exact List.mem_cons_self
    rw [ho.parked.mem_blocked] at hid hmem
    obtain rfl := Option.some.inj (hid.symm.trans hmem)
    exfalso
    cases hcall : step.call.direct with
    | release other =>
        rw [hcall] at hobject
        obtain rfl := Resource.mutex.inj (Option.some.inj hobject)
        refine hserved.running ?_
        have hrunning : step.releases other = step.before.running := by
          simp only [releases, hcall, hserved.success, if_true]
        exact hrunning.symm.trans hreleases
    | acquire other timeout => exact hserved.brings (by rw [hcall]; rfl)
    | _ =>
        rw [hcall] at hobject
        cases hobject
  · exact hlapsed.cause

/-- What becomes of the tasks blocked on a mutex that is acquired. -/
theorem blocked_acquired (hw : step.before.view.Acquired mutex timeout result w)
    (ho : step.before.view.Orderly none) (ho' : w.Orderly none)
    (hcall : step.call.direct = .acquire mutex timeout)
    (hreply : step.answer.toReply = (Answer.unit result).toReply) :
    w.blocked (.mutex mutex) =
      (step.before.view.blocked (.mutex mutex)).filter w.waiting.contains ++
        (step.awaits mutex).toList := by
  have hnone : ∀ {v : View}, v.Sheds (.mutex mutex) w →
      step.awaits mutex = none → w.blocked (.mutex mutex) =
        (v.blocked (.mutex mutex)).filter w.waiting.contains ++
          (step.awaits mutex).toList := by
    intro v hsheds hawaits
    rw [hawaits, Option.toList_none, List.append_nil]
    exact hsheds
  have hsucceeds : result = .ok () → step.awaits mutex = none := by
    rintro rfl
    simp only [awaits, hcall, status_accepted hreply]
  cases hw with
  | refused error herror =>
      refine hnone (.of_same ho' rfl) ?_
      unfold awaits
      split
      · rename_i other timeout' heq hstatus
        rw [status_refused hreply] at hstatus
        rw [hcall] at heq
        cases heq
        refine if_neg fun hcond => hcond.2 (herror ?_)
        cases error <;> first | rfl | cases hstatus
      · rfl
  | taken =>
      exact hnone (v := step.before.view) (.of_same ho' rfl) (hsucceeds rfl)
  | again =>
      exact hnone (v := step.before.view) (.of_same ho' rfl) (hsucceeds rfl)
  | @parked current _ hrunning hcreated howner hother hready hidle hw
    htimeout =>
      have hmoving := ho.queuedUp .nobody 0
        (step.before.view.platform.clock + timeout) hready hidle hcreated
        (fun other heq => by
          obtain rfl := Resource.mutex.inj heq
          exact ⟨howner, hother⟩)
        (fun queue heq => by cases heq)
      have hsheds := View.Sheds.gaveUp hmoving ho' hw (.mutex mutex)
      have hblocked : (step.before.view.parked current (.mutex mutex) .nobody 0
          (step.before.view.platform.clock + timeout)).blocked (.mutex mutex) =
            step.before.view.blocked (.mutex mutex) ++ [current] := if_pos rfl
      have hawaits : step.awaits mutex = some current := by
        simp only [awaits, hcall, status_refused hreply, Error.status]
        rw [if_pos ⟨trivial, htimeout⟩]
        exact hrunning
      have hself : current ∈ w.waiting := by
        refine ho'.waiting_of_blocked
          ((ho'.parked.mem_blocked (.mutex mutex) current).mpr ?_)
        rw [hw.waitsFor_eq]
        simp [View.parked]
      rw [hsheds, hblocked, hawaits, List.filter_append]
      congr 1
      exact List.filter_cons_of_pos (List.contains_iff_mem.mpr hself)

/-- Who is blocked on a mutex after a step that does not release it. -/
theorem blocked_kept
    (hw : step.before.view.Performs step.call step.answer step.after.view)
    (ho : step.before.view.Orderly none) (ho' : step.after.view.Orderly none)
    (hafter : step.after.view.Created (.mutex mutex))
    (hreleases : step.releases mutex = none) :
    step.after.view.blocked (.mutex mutex) =
      (step.before.view.blocked (.mutex mutex)).filter
          step.after.view.waiting.contains ++ (step.awaits mutex).toList := by
  have hsheds : step.before.view.Sheds (.mutex mutex) step.after.view →
      (∀ timeout, step.call.direct ≠ .acquire mutex timeout) →
        step.after.view.blocked (.mutex mutex) =
          (step.before.view.blocked (.mutex mutex)).filter
              step.after.view.waiting.contains ++
              (step.awaits mutex).toList := by
    intro hsheds hacquire
    rw [awaits_eq_none hacquire, Option.toList_none, List.append_nil]
    exact hsheds
  by_cases hobject : step.call.direct.object = some (.mutex mutex)
  · cases hcall : step.call.direct with
    | acquire other timeout =>
        rw [hcall] at hobject
        obtain rfl := Resource.mutex.inj (Option.some.inj hobject)
        obtain ⟨result, hacquired, hreply⟩ := hw.acquired hcall
        exact blocked_acquired hacquired ho ho' hcall hreply
    | release other =>
        rw [hcall] at hobject
        obtain rfl := Resource.mutex.inj (Option.some.inj hobject)
        obtain ⟨result, hreleased, hreply⟩ := hw.released hcall
        refine hsheds ?_ fun timeout => by rw [hcall]; simp
        cases result with
        | error error => exact .of_same ho' (by rw [hreleased.eq_of_refused])
        | ok =>
            exact absurd ((releases_accepted hcall hreply).symm.trans hreleases)
              hreleased.running_ne_none
    | _ =>
        rw [hcall] at hobject
        cases hobject
  · refine hsheds ?_ (ne_of_object_ne hobject).1
    exact (hw.shape ho).sheds ho ho' (hw.ne_tearDown hafter) hobject

/-- A step that does not release the mutex serves none of those that wait for
it. -/
theorem stands_kept {line served : List Entry}
    (hw : step.before.view.Performs step.call step.answer step.after.view)
    (ho : step.before.view.Orderly none) (ho' : step.after.view.Orderly none)
    (hafter : step.after.view.Created (.mutex mutex))
    (hreleases : step.releases mutex = none)
    (hline : Stands line served
      ((step.before.view.blocked (.mutex mutex)).map (Entry.claim .waiting))) :
    Stands (step.enterClaims mutex line) served
      ((step.after.view.blocked (.mutex mutex)).map
        (Entry.claim .waiting)) := by
  have hstay :
      ((step.before.view.blocked (.mutex mutex)).map
        (Entry.claim .waiting)).filter
      (fun entry => !step.lapses entry.task) =
        ((step.before.view.blocked (.mutex mutex)).filter
          step.after.view.waiting.contains).map (Entry.claim .waiting) := by
    rw [List.filter_map]
    congr 1
    refine List.filter_congr fun id hid => ?_
    have hgone := lapses_iff_gone hw ho hafter hreleases hid
    rw [Function.comp_apply, Bool.eq_iff_iff, Bool.not_eq_true',
      ← Bool.not_eq_true, List.contains_iff_mem]
    exact (not_congr hgone).trans not_not
  have hlapsed := hline.withdraw step.lapses
  rw [hstay] at hlapsed
  rw [enterClaims, if_pos hreleases, blocked_kept hw ho ho' hafter hreleases]
  cases step.awaits mutex with
  | none =>
      simpa only [Option.toList_none, List.map_nil, List.append_nil]
        using hlapsed
  | some caller =>
      rw [List.map_append]
      exact hlapsed.pushWaiting rfl

/-- A step that releases the mutex serves the first of those that wait for it,
if it passes the mutex on. -/
theorem stands_released {line served : List Entry}
    (hw : step.before.view.Performs step.call step.answer step.after.view)
    (ho : step.before.view.Orderly none) (ho' : step.after.view.Orderly none)
    (hreleases : step.releases mutex ≠ none)
    (hline : Stands line served
      ((step.before.view.blocked (.mutex mutex)).map (Entry.claim .waiting))) :
    Stands (step.enterClaims mutex line)
      (served ++ (step.passesTo mutex).toList.map (Entry.claim .served))
      ((step.after.view.blocked (.mutex mutex)).map
        (Entry.claim .waiting)) := by
  have hcall : step.call.direct = .release mutex := by
    by_contra hcall
    exact hreleases (releases_eq_none hcall)
  obtain ⟨result, hreleased, hreply⟩ := hw.released hcall
  cases result with
  | error error => exact absurd (releases_refused hreply) hreleases
  | ok =>
      have hrunning := releases_accepted hcall hreply
      have hrouses : ∀ id ∈ step.before.view.blocked (.mutex mutex),
          step.rouses id = decide (id ∉ step.after.view.waiting) := by
        intro id hid
        rw [Bool.eq_iff_iff, rouses_iff, decide_eq_true_eq]
        exact and_iff_right (ho.waiting_of_blocked hid)
      have hwaits : ∀ id ∈ step.after.view.blocked (.mutex mutex),
          decide (id ∉ step.after.view.waiting) = false := fun id hid =>
        decide_eq_false fun hgone => hgone (ho'.waiting_of_blocked hid)
      rw [enterClaims, if_neg hreleases]
      rcases hreleased.stays_or_passes ho ho' with ⟨hblocked, howner⟩ |
        ⟨heir, hheir, hgone, howner, hother⟩
      · have hpasses : step.passesTo mutex = none := by
          rcases howner with hfreed | hkept
          · exact passesTo_freed hfreed
          · exact passesTo_kept (hkept.trans hrunning.symm)
        rw [hpasses, Option.toList_none, List.map_nil, List.append_nil,
          hblocked]
        refine hline.serveNone fun entry hentry => ?_
        obtain ⟨id, hid, rfl⟩ := List.mem_map.mp hentry
        exact (hrouses id hid).trans (hwaits id (hblocked ▸ hid))
      · obtain ⟨caller, hcaller⟩ := Option.ne_none_iff_exists'.mp hreleases
        have hne : heir ≠ caller := by
          rintro rfl
          exact hother (hrunning.symm.trans hcaller)
        have hpasses := passesTo_passed hcaller howner hne
        have hmem : heir ∈ step.before.view.blocked (.mutex mutex) := by
          rw [hheir]
          exact List.mem_cons_self
        rw [hheir] at hline
        rw [hpasses]
        refine hline.serve ?_ fun entry hentry => ?_
        · exact (hrouses heir hmem).trans (decide_eq_true hgone)
        · obtain ⟨id, hid, rfl⟩ := List.mem_map.mp hentry
          have hold : id ∈ step.before.view.blocked (.mutex mutex) := by
            rw [hheir]
            exact List.mem_cons_of_mem heir hid
          exact (hrouses id hold).trans (hwaits id hid)

end Step

end TickKernel
