/-
The calls on mutexes, each with the outcomes it can have on the view of an
orderly kernel.  Waiting for a mutex is common to mutexes and queues: the task
queues up (`View.parked`) and gives up the processor.
-/
import TickKernel.Proofs.Tasks

namespace TickKernel

/-- Neither end of the range of levels is left by counting. -/
theorem Mutex.level_add_one_pos {level : UInt16} (h : level ≠ Mutex.maxLevel) :
    0 < level + 1 := by
  have hne : level.toNat ≠ 65535 := fun heq => h (UInt16.toNat.inj heq)
  have hlt := level.toNat_lt
  rw [UInt16.lt_iff_toNat_lt, UInt16.toNat_add]
  simp
  omega

theorem Mutex.level_sub_one_pos {level : UInt16} (hpos : 0 < level)
    (h : level ≠ 1) :
    0 < level - 1 := by
  have hne : level.toNat ≠ 1 := fun heq => h (UInt16.toNat.inj heq)
  have hlt := level.toNat_lt
  rw [UInt16.lt_iff_toNat_lt] at hpos ⊢
  rw [UInt16.toNat_sub]
  simp at hpos ⊢
  omega

namespace View

/-! ### Outcomes -/

/-- The outcomes of taking a mutex from the pool. -/
inductive MutexMade (v : View) : Except Error MutexId → View → Prop
  | refused (error : Error) : MutexMade v (.error error) v
  | made (hroom : v.mutexCount < maxMutexes) :
      MutexMade v (.ok ⟨v.mutexCount, hroom⟩)
        ({ v with mutexCount := v.mutexCount + 1 }.setOwner ⟨v.mutexCount,
          hroom⟩ none 0)

/-- The outcomes of acquiring a mutex. -/
inductive Acquired (v : View) (mutex : MutexId) (timeout : Tick) :
    Except Error Unit → View → Prop
  | refused (error : Error) (herror : error = .timeout → timeout = 0) :
      Acquired v mutex timeout (.error error) v
  | taken {current : TaskId} (hrunning : v.running = some current)
      (hcreated : v.Created (.mutex mutex)) (howner : v.owner mutex = none) :
      Acquired v mutex timeout (.ok ()) (v.setOwner mutex (some current) 1)
  | again {current : TaskId} (hrunning : v.running = some current)
      (hcreated : v.Created (.mutex mutex))
      (howner : v.owner mutex = some current)
      (hlevel : v.level mutex ≠ Mutex.maxLevel) :
      Acquired v mutex timeout (.ok ())
        (v.setOwner mutex (some current) (v.level mutex + 1))
  | parked {current : TaskId} {w : View} (hrunning : v.running = some current)
      (hcreated : v.Created (.mutex mutex)) (howner : v.owner mutex ≠ none)
      (hother : v.owner mutex ≠ some current) (hready : current ∈ v.ready)
      (hidle : v.idle ≠ some current)
      (hw : (v.parked current (.mutex mutex) .nobody 0
        (v.platform.clock + timeout)).GaveUp current w)
      (htimeout : timeout ≠ 0) (hmax : timeout ≤ Tick.maxTimeout) :
      Acquired v mutex timeout (.error .timeout) w

/-- Mutex `mutex` belongs to `next`, which has waited for it. -/
def handedOver (v : View) (mutex : MutexId) (next : TaskId) : View :=
  (v.unblocked next).setOwner mutex (some next) 1

/-- The outcomes of releasing a mutex. -/
inductive Released (v : View) (mutex : MutexId) :
    Except Error Unit → View → Prop
  | refused (error : Error) : Released v mutex (.error error) v
  | once {current : TaskId} (hrunning : v.running = some current)
      (howner : v.owner mutex = some current) (hlevel : v.level mutex ≠ 1) :
      Released v mutex (.ok ())
        (v.setOwner mutex (some current) (v.level mutex - 1))
  | freed {current : TaskId} (hrunning : v.running = some current)
      (howner : v.owner mutex = some current) (hlevel : v.level mutex = 1)
      (hnobody : v.blocked (.mutex mutex) = []) :
      Released v mutex (.ok ()) (v.setOwner mutex none 0)
  | passedOn {current next : TaskId} {rest : List TaskId} {w : View}
      (hrunning : v.running = some current)
      (howner : v.owner mutex = some current) (hlevel : v.level mutex = 1)
      (hnext : v.blocked (.mutex mutex) = next :: rest)
      (hw : (v.handedOver mutex next).Woke next Reply.done w) :
      Released v mutex (.ok ()) w

/-! ### Outcomes keep the invariant -/

section Passes

variable {v w : View} {departs : TaskId → Prop} {mutex : MutexId} {id : TaskId}
  {result : Except Error Unit}

theorem Orderly.setOwner (h : v.Orderly none) {owner : Option TaskId}
    {level : UInt16} (hlevel : 0 < level ↔ owner ≠ none)
    (hfree : owner = none → v.blocked (.mutex mutex) = [])
    (howner : ∀ id, owner = some id → id ∉ v.blocked (.mutex mutex)) :
    (v.setOwner mutex owner level).Orderly none := by
  refine ⟨h.queued.congr rfl rfl rfl fun _ => ⟨rfl, rfl, rfl⟩,
    h.parked.congr (Nat.le_refl _) (Nat.le_refl _) (Nat.le_refl _) rfl
      fun _ => ⟨rfl, rfl, rfl, fun _ => rfl⟩, ⟨?_, ?_, ?_⟩,
    h.supplied.congr rfl rfl rfl rfl,
    h.staffed.congr rfl rfl rfl rfl rfl rfl fun _ => ⟨rfl, rfl⟩⟩
  · intro other
    simp only [View.setOwner]
    split
    · exact hlevel
    · exact h.owned.level_pos_iff other
  · intro other
    simp only [View.setOwner]
    split
    · rename_i heq
      exact heq ▸ hfree
    · exact h.owned.blocked_of_free other
  · intro other
    simp only [View.setOwner]
    split
    · rename_i heq
      exact heq ▸ howner
    · exact h.owned.owner_not_blocked other

theorem Quiet.setOwner (v : View) (mutex : MutexId) (owner : Option TaskId)
    (level : UInt16) : v.Quiet (v.setOwner mutex owner level) :=
  ⟨rfl, rfl, fun _ => .of_task (fun h => h) rfl rfl rfl fun _ _ => ⟨rfl, rfl⟩⟩

theorem Passes.setOwner (h : v.Orderly none) {owner : Option TaskId}
    {level : UInt16} (hlevel : 0 < level ↔ owner ≠ none)
    (hfree : owner = none → v.blocked (.mutex mutex) = [])
    (howner : ∀ id, owner = some id → id ∉ v.blocked (.mutex mutex)) :
    v.Passes departs (v.setOwner mutex owner level) :=
  ⟨h.setOwner hlevel hfree howner, SameStacks.refl v,
    (Quiet.setOwner v mutex owner level).keeps h.supplied⟩

/-- Objects that do not exist yet have nobody waiting for them. -/
theorem Orderly.blocked_of_not_created (h : v.Orderly none)
    {resource : Resource} (hcreated : ¬v.Created resource) :
    v.blocked resource = [] := by
  rw [List.eq_nil_iff_forall_not_mem]
  intro id hid
  exact hcreated
    (h.parked.created resource id ((h.parked.mem_blocked resource id).mp hid))

theorem MutexMade.passes {made : Except Error MutexId} (hw : v.MutexMade made w)
    (h : v.Orderly none) : v.Passes departs w := by
  cases hw with
  | refused => exact Passes.refl h
  | made hroom =>
      have hmore : { v with mutexCount := v.mutexCount + 1 }.Orderly none :=
        ⟨h.queued.congr rfl rfl rfl fun _ => ⟨rfl, rfl, rfl⟩,
          h.parked.congr (Nat.le_refl _) (Nat.le_succ _) (Nat.le_refl _) rfl
            fun _ => ⟨rfl, rfl, rfl, fun _ => rfl⟩,
          h.owned.congr rfl rfl rfl, h.supplied.congr rfl rfl rfl rfl,
          h.staffed.congr rfl rfl rfl rfl rfl rfl fun _ => ⟨rfl, rfl⟩⟩
      have hnobody : v.blocked (.mutex ⟨v.mutexCount, hroom⟩) = [] :=
        h.blocked_of_not_created (Nat.lt_irrefl _)
      have hquiet : v.Quiet { v with mutexCount := v.mutexCount + 1 } :=
        ⟨rfl, rfl, fun _ => .of_task (fun h => h) rfl rfl rfl fun _ _ =>
          ⟨rfl, rfl⟩⟩
      refine (Passes.setOwner hmore (by decide) (fun _ => hnobody) ?_).of_quiet
        hquiet
        fun _ => rfl
      exact fun id hid => absurd hid (Option.some_ne_none id).symm

/-- Queueing up somewhere is no concern of other queues. -/
theorem QuietAt.parked (h : v.Orderly none) (hready : id ∈ v.ready)
    {resource : Resource} {side : Waiters} {message : Message} {deadline : Tick}
    {queue : QueueId} (hother : resource ≠ .queue queue) :
    v.QuietAt queue (v.parked id resource side message deadline) := by
  refine .of_task (fun h => h) rfl ?_ ?_ fun other hmem => ?_
  · simp only [View.parked, if_neg hother]
  · simp only [View.parked, if_neg hother]
  · have hne : id ≠ other := by
      rintro rfl
      exact h.not_blocked_of_ready hready (Option.some_ne_none _).symm _ hmem
    simp only [View.parked, if_neg hne, and_self]

theorem status_parked {resource : Resource} {side : Waiters} {message : Message}
    {deadline : Tick} :
    ((v.parked id resource side message deadline).task id).isRunnable =
      false := by
  simp [View.parked, Task.isRunnable, TaskStatus.isRunnable]

/-- A task queues up at a mutex and falls asleep in three steps. -/
theorem parked_mutex (hmessage : (v.task id).message = 0) (deadline : Tick) :
    v.parked id (.mutex mutex) .nobody 0 deadline =
      ((v.setBlocked (.mutex mutex) (v.blocked (.mutex mutex) ++
        [id])).setTask id
        fun task => { task with waitsFor := some (.mutex mutex) }).setTask id
          fun task =>
            { task with status := .waiting, deadline, flag := .mutex } := by
  apply View.ext <;> try rfl
  funext other
  simp only [View.parked, View.setTask, View.setBlocked, Resource.flag]
  split <;> simp_all

theorem sameStacks_parked (v : View) (id : TaskId) (resource : Resource)
    (side : Waiters) (message : Message) (deadline : Tick) :
    v.SameStacks (v.parked id resource side message deadline) := by
  intro other
  simp only [View.parked]
  split <;> simp_all

theorem Acquired.passes {timeout : Tick}
    (hw : v.Acquired mutex timeout result w) (h : v.Orderly none) :
    v.Passes departs w := by
  cases hw with
  | refused => exact Passes.refl h
  | @taken current hrunning hcreated howner =>
      have hnobody := h.owned.blocked_of_free mutex howner
      refine Passes.setOwner h ?_
        (fun hnone => absurd hnone (Option.some_ne_none _)) ?_
      · exact iff_of_true (by decide) (Option.some_ne_none current)
      · rw [hnobody]
        exact fun _ _ => List.not_mem_nil
  | @again current hrunning hcreated howner hlevel =>
      refine Passes.setOwner h ?_
        (fun hnone => absurd hnone (Option.some_ne_none _)) ?_
      · exact iff_of_true (Mutex.level_add_one_pos hlevel)
          (Option.some_ne_none current)
      · rw [← howner]
        exact fun id hid => h.owned.owner_not_blocked mutex id hid
  | @parked current _ hrunning hcreated howner hother hready hidle hw =>
      have hmoving := h.queuedUp .nobody 0 (v.platform.clock + timeout) hready
        hidle hcreated
        (fun other heq => by
          obtain rfl := Resource.mutex.inj heq
          exact ⟨howner, hother⟩)
        (fun queue heq => by cases heq)
      have hstacks := sameStacks_parked v current (.mutex mutex) .nobody 0
        (v.platform.clock + timeout)
      have hquiet : v.Quiet (v.parked current (.mutex mutex) .nobody 0
          (v.platform.clock + timeout)) :=
        ⟨rfl, rfl, fun queue => .parked h hready (by simp)⟩
      exact ⟨hmoving.gaveUp hrunning status_parked hw,
        hstacks.trans (SameStacks.gaveUp hw),
        hquiet.keeps_trans (Keeps.gaveUp hmoving hw)⟩

theorem Orderly.handedOver (h : v.Orderly none) (next : TaskId) :
    (v.handedOver mutex next).Orderly none := by
  have hnodup := h.parked.blocked_nodup (.mutex mutex)
  refine h.unblocked.setOwner
    (iff_of_true (by decide) (Option.some_ne_none next))
    (fun hnone => absurd hnone (Option.some_ne_none _)) fun id hid => ?_
  obtain rfl := Option.some.inj hid
  exact hnodup.not_mem_erase

/-- A task that leaves one object is no concern of other queues. -/
theorem QuietAt.unblocked (h : v.Orderly none) {resource : Resource}
    (hid : id ∈ v.blocked resource) {queue : QueueId}
    (hother : resource ≠ .queue queue) : v.QuietAt queue (v.unblocked id) := by
  have hfree : id ∉ v.blocked (.queue queue) := by
    intro hmem
    rw [h.parked.mem_blocked] at hid hmem
    exact hother (Option.some.inj (hid.symm.trans hmem))
  have hblocked : (v.blocked (.queue queue)).erase id =
      v.blocked (.queue queue) :=
    List.erase_of_not_mem hfree
  refine .of_task (fun h => h) rfl ?_ hblocked fun other hmem => ?_
  · simp only [View.unblocked, hblocked]
    split
    · exact ((h.supplied.nobody_iff queue).mpr ‹_›).symm
    · rfl
  · have hne : id ≠ other := by
      rintro rfl
      exact hfree hmem
    simp only [View.unblocked, if_neg hne, and_self]

theorem Orderly.waiting_of_blocked (h : v.Orderly none) {resource : Resource}
    (hid : id ∈ v.blocked resource) : id ∈ v.waiting := by
  obtain ⟨hreg, hstatus, -⟩ := h.parked.blocked_task resource id
    ((h.parked.mem_blocked resource id).mp hid)
  exact (h.queued.mem_waiting id).mpr ⟨hreg, hstatus,
    (Option.some_ne_none id).symm⟩

theorem waitsFor_unblocked (v : View) (id : TaskId) :
    ((v.unblocked id).task id).waitsFor = none := by
  simp [View.unblocked, Task.withoutWait]

theorem Released.passes (hw : v.Released mutex result w) (h : v.Orderly none) :
    v.Passes departs w := by
  cases hw with
  | refused => exact Passes.refl h
  | @once current hrunning howner hlevel =>
      refine Passes.setOwner h ?_
        (fun hnone => absurd hnone (Option.some_ne_none _)) ?_
      · have hpos : 0 < v.level mutex := (h.owned.level_pos_iff mutex).mpr
          (by rw [howner]; exact Option.some_ne_none current)
        exact iff_of_true (Mutex.level_sub_one_pos hpos hlevel)
          (Option.some_ne_none current)
      · rw [← howner]
        exact fun id hid => h.owned.owner_not_blocked mutex id hid
  | freed hrunning howner hlevel hnobody =>
      refine Passes.setOwner h (by decide) (fun _ => hnobody) fun id hid => ?_
      exact absurd hid (Option.some_ne_none id).symm
  | @passedOn current next rest _ hrunning howner hlevel hnext hw =>
      have hmem : next ∈ v.blocked (.mutex mutex) := by
        rw [hnext]
        exact List.mem_cons_self
      have hstacks : v.SameStacks (v.handedOver mutex next) :=
        sameStacks_unblocked v next
      have hquiet : v.Quiet (v.handedOver mutex next) := by
        refine ⟨rfl, rfl, fun queue => ?_⟩
        have hleft : v.QuietAt queue (v.unblocked next) :=
          .unblocked h hmem (by simp)
        exact ⟨hleft.created, hleft.ring, hleft.waiters, hleft.blocked,
          hleft.message, hleft.deadline⟩
      exact (Passes.woke (h.handedOver next) (h.waiting_of_blocked hmem)
        (waitsFor_unblocked v next) hw).of_quiet hquiet hstacks

end Passes

end View

/-! ### The calls -/

namespace Kernel

variable {k : Kernel} {v : View} {current id : TaskId} {mutex : MutexId}

theorem Shows.createMutex (h : k.Shows v) (ho : v.Orderly none) :
    ∃ w, v.MutexMade k.createMutex.1 w ∧ k.createMutex.2.Shows w := by
  obtain ⟨hlinked, rfl⟩ := h
  unfold Kernel.createMutex
  by_cases hroom : k.mutexCount < maxMutexes
  swap
  · rw [dif_neg hroom]
    exact ⟨k.view, .refused _, hlinked.shows⟩
  rw [dif_pos hroom]
  have hnobody : k.view.blocked (.mutex ⟨k.mutexCount, hroom⟩) = [] :=
    ho.blocked_of_not_created (Nat.lt_irrefl _)
  have hempty : (k.mutex ⟨k.mutexCount, hroom⟩).blocked = Chain.empty :=
    hlinked.shows.blockedChain_eq_empty hnobody
  have hfree : Mutex.free =
      { k.mutex ⟨k.mutexCount, hroom⟩ with owner := none, level := 0 } := by
    simp only [hempty]
    rfl
  have hmore : Shows { k with mutexCount := k.mutexCount + 1 }
      { k.view with mutexCount := k.mutexCount + 1 } :=
    ⟨hlinked.of_same rfl rfl rfl rfl fun _ => rfl, rfl⟩
  refine ⟨_, .made hroom, ?_⟩
  rw [hfree]
  exact hmore.putMutex ⟨k.mutexCount, hroom⟩ none 0

/-- The task on the processor is not blocked, if it is able to go on. -/
theorem Shows.requireUnblocked (h : k.Shows v) (ho : v.Orderly none)
    (hrunning : v.running = some current) {γ : Type}
    {rest : Unit → Except Halt γ} {post : γ → Prop}
    (hrest : (v.task current).waitsFor = none →
      Fulfils (rest ()) (v.Able ∧ v.Guarded) post) :
    Fulfils (k.require (!(k.task current).isBlocked) >>= rest) (v.Able ∧
      v.Guarded) post := by
  rw [h.task_eq]
  apply Fulfils.require
  · rintro ⟨hable, -⟩
    rw [Task.isBlocked, ho.not_blocked (ho.ready_of_able hable hrunning)]
    rfl
  · intro hfree
    apply hrest
    simpa [Task.isBlocked] using hfree

/-- A task that queues up for a mutex and falls asleep is parked. -/
theorem Shows.awaitMutex (h : k.Shows v) (ho : v.Orderly none) {timeout : Tick}
    (hrunning : v.running = some current) (hcreated : v.Created (.mutex mutex))
    (howner : v.owner mutex ≠ none) (hother : v.owner mutex ≠ some current)
    (hidle : v.idle ≠ some current) (htimeout : timeout ≠ 0)
    (hmax : timeout ≤ Tick.maxTimeout) :
    Fulfils (k.awaitMutex mutex current timeout) (v.Able ∧ v.Guarded)
      fun verdict => ∃ w, v.Acquired mutex timeout verdict.1 w ∧
        verdict.2.Shows w := by
  unfold Kernel.awaitMutex
  refine h.requireUnblocked ho hrunning fun hwaits => ?_
  have hmessage := (ho.parked.unblocked_task current hwaits).2
  have hjoined := (h.joinBlocked (.mutex mutex)
    (ho.parked.not_mem_blocked hwaits)).modifyTask current fun task =>
      { task with waitsFor := some (.mutex mutex) }
  refine Fulfils.bind ((hjoined.sleep .mutex hrunning
    (ho.started_of_running hrunning) hidle (ho.running_ready hrunning)
    (View.parked_mutex hmessage _) fun hready => ?_).imp ?_ fun _ hk' => hk') ?_
  · refine ho.queuedUp .nobody 0 _ hready hidle hcreated (fun other heq => ?_)
      fun queue heq => ?_
    · obtain rfl := Resource.mutex.inj heq
      exact ⟨howner, hother⟩
    · cases heq
  · rintro ⟨hable, hguarded⟩
    refine ⟨ho.ready_of_able hable hrunning, ?_⟩
    exact (View.SameStacks.setTask (v := v.setBlocked _ _) current rfl).guarded
      rfl hguarded
  · rintro k' ⟨w, hready, hw, hk'⟩
    refine Fulfils.ok ⟨w, ?_, hk'⟩
    exact .parked hrunning hcreated howner hother hready hidle hw htimeout hmax

theorem Shows.acquire (h : k.Shows v) (ho : v.Orderly none) (mutex : MutexId)
    (timeout : Tick) :
    Fulfils (k.acquire mutex timeout) (v.Able ∧ v.Guarded)
      fun verdict => ∃ w, v.Acquired mutex timeout verdict.1 w ∧
        verdict.2.Shows w := by
  have hrefuse : ∀ error, (error = .timeout → timeout = 0) →
      Fulfils (.ok (k.refuse (α := Unit) error)) (v.Able ∧ v.Guarded)
      fun verdict => ∃ w, v.Acquired mutex timeout verdict.1 w ∧
        verdict.2.Shows w :=
    fun error herror => Fulfils.ok ⟨v, .refused error herror, h⟩
  unfold Kernel.acquire
  by_cases hcreated : v.Created (.mutex mutex)
  swap
  · rw [if_pos (by simpa using mt (h.hasMutex_iff mutex).mp hcreated)]
    exact hrefuse _ (by simp)
  rw [if_neg (by simpa using (h.hasMutex_iff mutex).mpr hcreated), h.running_eq]
  cases haccept : Tick.acceptTimeout timeout with
  | error error =>
      exact hrefuse _ fun heq => absurd heq (Tick.acceptTimeout_ne haccept)
  | ok accepted =>
      cases hrunning : v.running with
      | none => exact hrefuse _ (by simp)
      | some current =>
          have howner := h.owner_eq mutex
          have hlevel := h.level_eq mutex
          dsimp only
          rw [howner]
          cases hcase : v.owner mutex with
          | none =>
              refine Fulfils.ok ⟨_, .taken hrunning hcreated hcase, ?_⟩
              exact h.putMutex mutex (some current) 1
          | some owner =>
              dsimp only
              by_cases hself : owner = current
              · subst hself
                rw [if_pos rfl, hlevel]
                by_cases hmax : v.level mutex = Mutex.maxLevel
                · rw [if_pos hmax]
                  exact hrefuse _ (by simp)
                rw [if_neg hmax]
                refine Fulfils.ok ⟨_, .again hrunning hcreated hcase hmax, ?_⟩
                exact h.putMutex mutex (some owner) (v.level mutex + 1)
              · rw [if_neg hself]
                split
                · exact hrefuse _ fun _ => ‹_›
                · by_cases hidle : v.idle = some current
                  · rw [if_pos (by rw [h.idle_eq, hidle])]
                    exact hrefuse _ (by simp)
                  rw [if_neg (by rwa [h.idle_eq])]
                  refine h.awaitMutex ho hrunning hcreated ?_ ?_ hidle ‹_›
                    (Tick.le_maxTimeout_of_accept haccept)
                  · rw [hcase]
                    exact Option.some_ne_none owner
                  · rw [hcase]
                    exact fun heq => hself (Option.some.inj heq)

theorem Shows.passOn (h : k.Shows v) (ho : v.Orderly none)
    (hrunning : v.running = some current)
    (howner : v.owner mutex = some current) (hlevel : v.level mutex = 1) :
    Fulfils (k.passOn mutex) v.Guarded
      fun k' => ∃ w, v.Released mutex (.ok ()) w ∧ k'.Shows w := by
  unfold Kernel.passOn
  cases hnext : v.blocked (.mutex mutex) with
  | nil =>
      rw [h.popBlocked_eq_none hnext]
      exact Fulfils.ok ⟨_, .freed hrunning howner hlevel hnext,
        h.putMutex mutex none 0⟩
  | cons next rest =>
      obtain ⟨k₁, hpop, -, -, hk₁⟩ := h.popBlocked_forgetWait ho.parked
        ho.supplied.nobody_iff hnext
      rw [hpop]
      have hmem : next ∈ v.blocked (.mutex mutex) := by
        rw [hnext]
        exact List.mem_cons_self
      have hwaiting : next ∈ v.waiting := ho.waiting_of_blocked hmem
      -- forgetting the wait and naming the owner may change places
      have hforget : ((k₁.putMutex mutex
          { k₁.mutex mutex with owner := some next, level := 1 }).forgetWait
            next).Shows
          (v.handedOver mutex next) := hk₁.putMutex mutex (some next) 1
      have hrunning' : (v.handedOver mutex next).running ≠ none := by
        change v.running ≠ none
        rw [hrunning]
        exact Option.some_ne_none current
      refine (hforget.wake (ho.handedOver next) hwaiting hrunning'
        Reply.done).imp ?_ ?_
      · exact (View.sameStacks_unblocked v next).guarded rfl
      · rintro k' ⟨w, hw, hk'⟩
        exact ⟨w, .passedOn hrunning howner hlevel hnext hw, hk'⟩

theorem Shows.release (h : k.Shows v) (ho : v.Orderly none) (mutex : MutexId) :
    Fulfils (k.release mutex)
      (v.Guarded ∧ (v.Created (.mutex mutex) → ∀ id, v.running = some id →
        v.owner mutex = some id))
      fun verdict => ∃ w, v.Released mutex verdict.1 w ∧ verdict.2.Shows w := by
  unfold Kernel.release
  by_cases hcreated : v.Created (.mutex mutex)
  swap
  · rw [if_pos (by simpa using mt (h.hasMutex_iff mutex).mp hcreated)]
    exact Fulfils.ok ⟨v, .refused _, h⟩
  rw [if_neg (by simpa using (h.hasMutex_iff mutex).mpr hcreated), h.running_eq]
  cases hrunning : v.running with
  | none => exact Fulfils.ok ⟨v, .refused _, h⟩
  | some current =>
      have howner := h.owner_eq mutex
      have hlevel := h.level_eq mutex
      dsimp only
      refine Fulfils.require (fun hsafe => ?_) fun hheld => ?_
      · have howns := hsafe.2 hcreated current rfl
        have hpos := (ho.owned.level_pos_iff mutex).mpr
          (by rw [howns]; exact Option.some_ne_none current)
        simp [Mutex.isHeldBy, howner, hlevel, howns, hpos]
      have howns : v.owner mutex = some current := by
        rw [Mutex.isHeldBy, howner] at hheld
        simp at hheld
        exact hheld.2
      rw [hlevel]
      by_cases hone : v.level mutex = 1
      · rw [if_pos hone]
        refine Fulfils.bind ((h.passOn ho hrunning howns hone).imp And.left
          fun _ hk' => hk') ?_
        rintro k' ⟨w, hw, hk'⟩
        exact Fulfils.ok ⟨w, hw, hk'⟩
      · rw [if_neg hone]
        refine Fulfils.ok ⟨_, .once hrunning howns hone, ?_⟩
        rw [howner, howns]
        exact h.putMutex mutex (some current) (v.level mutex - 1)

end Kernel

end TickKernel
