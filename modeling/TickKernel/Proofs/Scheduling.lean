/-
What the rules of scheduling do to the view of an orderly kernel: each of them
is one of the moves, provided that the guards which it checks are undamaged.

A step that may stop the machine is described by `Fulfils`: when it certainly
returns, and what holds of anything that it returns.
-/
import TickKernel.Proofs.Moves
import TickKernel.Proofs.Orderly

namespace TickKernel

/-! ### Steps that may stop the machine -/

/-- What comes of two steps comes of the second one after the first. -/
theorem eq_ok_of_bind {ε α β : Type} {first : Except ε α}
    {rest : α → Except ε β} {b : β} (h : (first >>= rest) = .ok b) :
    ∃ a, first = .ok a ∧ rest a = .ok b := by
  cases first with
  | error => cases h
  | ok a => exact ⟨a, rfl, h⟩

theorem eq_ok_of_map {ε α β : Type} {f : α → β} {result : Except ε α} {b : β}
    (h : f <$> result = .ok b) : ∃ a, result = .ok a ∧ f a = b := by
  cases result with
  | error => cases h
  | ok a => exact ⟨a, rfl, Except.ok.inj h⟩

theorem eq_error_of_map {ε α β : Type} {f : α → β} {result : Except ε α}
    {error : ε} (h : f <$> result = .error error) : result = .error error := by
  cases result with
  | error => exact congrArg Except.error (Except.error.inj h)
  | ok => cases h

section Fulfils

variable {β γ : Type} {safe : Prop}

/-- The step returns if `safe` holds, and whatever it returns satisfies
`post`. -/
structure Fulfils (result : Except Halt β) (safe : Prop) (post : β → Prop) :
    Prop where
  returns : safe → ∃ b, result = .ok b
  holds : ∀ b, result = .ok b → post b

namespace Fulfils

theorem ok {post : β → Prop} {b : β} (h : post b) :
    Fulfils (.ok b) safe post where
  returns _ := ⟨b, rfl⟩
  holds := by
    rintro _ ⟨⟩
    exact h

theorem of_exists {result : Except Halt β} {post : β → Prop}
    (h : ∃ b, result = .ok b ∧ post b) : Fulfils result safe post := by
  obtain ⟨b, rfl, hb⟩ := h
  exact ok hb

theorem halt {post : β → Prop} {k : Kernel} {fault : Fault} (h : ¬safe) :
    Fulfils (k.halt fault) safe post where
  returns hsafe := absurd hsafe h
  holds := by rintro _ ⟨⟩

theorem bind {result : Except Halt β} {rest : β → Except Halt γ}
    {mid : β → Prop} {post : γ → Prop} (h : Fulfils result safe mid)
    (hrest : ∀ b, mid b → Fulfils (rest b) safe post) :
    Fulfils (result >>= rest) safe post := by
  cases result with
  | error halt =>
      refine ⟨fun hsafe => ?_, by rintro _ ⟨⟩⟩
      obtain ⟨b, hb⟩ := h.returns hsafe
      cases hb
  | ok b => exact hrest b (h.holds b rfl)

theorem imp {result : Except Halt β} {safe' : Prop} {post post' : β → Prop}
    (h : Fulfils result safe post) (hsafe : safe' → safe)
    (hpost : ∀ b, post b → post' b) : Fulfils result safe' post' :=
  ⟨fun hs => h.returns (hsafe hs), fun b hb => hpost b (h.holds b hb)⟩

theorem map {result : Except Halt β} {f : β → γ} {post : γ → Prop}
    (h : Fulfils result safe fun b => post (f b)) :
    Fulfils (f <$> result) safe post := by
  cases result with
  | error halt =>
      refine ⟨fun hsafe => ?_, by rintro _ ⟨⟩⟩
      obtain ⟨b, hb⟩ := h.returns hsafe
      cases hb
  | ok b => exact ok (h.holds b rfl)

/-- A requirement may be relied on by what comes after it. -/
theorem require {k : Kernel} {condition : Bool} {rest : Unit → Except Halt γ}
    {post : γ → Prop} (hsafe : safe → condition = true)
    (hrest : condition = true → Fulfils (rest ()) safe post) :
    Fulfils (k.require condition >>= rest) safe post := by
  cases condition with
  | true => exact hrest rfl
  | false =>
      refine ⟨fun hs => ?_, by rintro _ ⟨⟩⟩
      exact absurd (hsafe hs) Bool.false_ne_true

theorem ite_bind {condition : Prop} [Decidable condition]
    {yes no : Except Halt β} {rest : β → Except Halt γ} {post : γ → Prop}
    (h : Fulfils ((if condition then yes else no) >>= rest) safe post) :
    Fulfils (if condition then yes >>= rest else no >>= rest) safe post := by
  split <;> simp_all

theorem checkGuard {k : Kernel} {id : TaskId} {rest : Unit → Except Halt γ}
    {post : γ → Prop} (hsafe : safe → (k.task id).isGuarded = true)
    (hrest : (k.task id).isGuarded = true → Fulfils (rest ()) safe post) :
    Fulfils (k.checkGuard id >>= rest) safe post := by
  unfold Kernel.checkGuard
  by_cases hguard : (k.task id).isGuarded = true
  · rw [if_pos hguard]
    exact hrest hguard
  · rw [if_neg hguard]
    refine ⟨fun hs => ?_, by rintro _ ⟨⟩⟩
    exact absurd (hsafe hs) hguard

end Fulfils

end Fulfils

/-! ### Moves that change nothing, and moves in two steps -/

namespace View

variable {v : View} {moving : Option TaskId} {id : TaskId}

theorem unblocked_of_free (h : v.Orderly moving)
    (hid : (v.task id).waitsFor = none) :
    v.unblocked id = v.setTask id Task.withoutWait := by
  have hfresh := h.parked.not_mem_blocked hid
  apply View.ext <;> try rfl
  · funext resource
    exact List.erase_of_not_mem (hfresh resource)
  · funext queue
    simp only [unblocked, setTask]
    rw [List.erase_of_not_mem (hfresh _)]
    split
    · exact ((h.supplied.nobody_iff queue).mpr ‹_›).symm
    · rfl

/-- Only the waiting side of a queue settles, and only if nobody is blocked. -/
theorem settle_eq (v : View) (resource : Resource) :
    v.settle resource = { v with
      waiters := fun queue =>
        if resource = .queue queue ∧ v.blocked resource = [] then .nobody
        else v.waiters queue } := by
  cases resource with
  | mutex mutex => simp [settle]
  | queue queue =>
      rw [settle]
      by_cases hnil : v.blocked (.queue queue) = []
      · simp [setWaiters, hnil]
      · simp [hnil]

theorem blocked_settle (v : View) (resource : Resource) :
    (v.settle resource).blocked = v.blocked := by
  rw [settle_eq]

theorem task_settle (v : View) (resource : Resource) :
    (v.settle resource).task = v.task := by
  rw [settle_eq]

theorem ring_settle (v : View) (resource : Resource) :
    (v.settle resource).ring = v.ring := by
  rw [settle_eq]

theorem unblocked_of_blocked (h : v.Parked)
    (hside : ∀ queue, v.waiters queue = .nobody ↔ v.blocked (.queue queue) = [])
    {resource : Resource} (hid : (v.task id).waitsFor = some resource) :
    v.unblocked id = ((v.setBlocked resource
      ((v.blocked resource).erase id)).settle resource).setTask id
        Task.withoutWait := by
  have hfresh : ∀ other, resource ≠ other → id ∉ v.blocked other := by
    intro other hne hmem
    rw [h.mem_blocked, hid] at hmem
    exact hne (Option.some.inj hmem)
  rw [settle_eq]
  apply View.ext <;> try rfl
  · funext other
    simp only [unblocked, setTask, setBlocked]
    by_cases heq : resource = other
    · rw [if_pos heq, heq]
    · rw [if_neg heq, List.erase_of_not_mem (hfresh other heq)]
  · funext queue
    simp only [unblocked, setTask, setBlocked]
    by_cases heq : resource = .queue queue
    · simp [heq]
    · rw [List.erase_of_not_mem (hfresh _ heq)]
      simp only [heq, false_and, if_false]
      split
      · exact ((hside queue).mpr ‹_›).symm
      · rfl

/-- A ready task has nothing to give up. -/
theorem readied_of_ready (h : v.Orderly moving) (hid : id ∈ v.ready)
    (hstatus : (v.task id).status = .ready) :
    v.readied id = v.unblocked id := by
  have hdeadline := h.queued.deadline_eq id (by rw [hstatus]; decide)
  apply View.ext <;> try rfl
  · funext other
    simp only [readied, unblocked]
    split
    · rw [← hdeadline, ← hstatus]
      rfl
    · rfl
  · simp only [readied, unblocked, if_pos hid]
  · simp only [readied, unblocked]
    exact List.erase_of_not_mem (h.queued.not_mem_waiting hid)

end View

/-! ### Moving tasks between chains -/

namespace Kernel

variable {k : Kernel} {v : View} {moving : Option TaskId} {id : TaskId}

theorem Shows.unblock (h : k.Shows v) (ho : v.Orderly moving) (id : TaskId) :
    ∃ k', k.unblock id = .ok k' ∧ k'.Shows (v.unblocked id) := by
  cases hwaits : (v.task id).waitsFor with
  | none =>
      refine ⟨k.forgetWait id, by rw [Kernel.unblock, h.task_eq, hwaits], ?_⟩
      have hshows := h.forgetWait (ho.parked.not_mem_blocked hwaits)
      exact hshows.of_eq (View.unblocked_of_free ho hwaits).symm
  | some resource =>
      have hmem : id ∈ v.blocked resource :=
        (ho.parked.mem_blocked resource id).mpr hwaits
      obtain ⟨k', hleave, hk'⟩ := h.leaveBlocked hmem
      refine ⟨k'.forgetWait id, ?_, ?_⟩
      · rw [Kernel.unblock, h.task_eq, hwaits]
        change (k.leaveBlocked id resource >>= _) = _
        rw [hleave]
        rfl
      · refine (hk'.forgetWait fun other hother => ?_).of_eq
          (View.unblocked_of_blocked ho.parked
            ho.supplied.nobody_iff hwaits).symm
        rw [View.blocked_settle] at hother
        simp only [View.setBlocked] at hother
        split at hother
        · exact (ho.parked.blocked_nodup resource).not_mem_erase hother
        · exact absurd (h.blocked_apart hmem hother) ‹_›

/-- The task that was blocked first gives up its place, in two steps. -/
theorem Shows.popBlocked_forgetWait (h : k.Shows v) (hp : v.Parked)
    (hside : ∀ queue, v.waiters queue = .nobody ↔ v.blocked (.queue queue) = [])
    {resource : Resource} {rest : List TaskId}
    (hids : v.blocked resource = id :: rest) :
    ∃ k', k.popBlocked? resource = some (id, k') ∧ k'.task = v.task ∧
      (∀ queue, (k'.queue queue).ring = v.ring queue) ∧
        (k'.forgetWait id).Shows (v.unblocked id) := by
  obtain ⟨k', hpop, hk'⟩ := h.popBlocked hids
  have hwaits : (v.task id).waitsFor = some resource := by
    rw [← hp.mem_blocked, hids]
    exact List.mem_cons_self
  have hnodup := hp.blocked_nodup resource
  rw [hids, List.nodup_cons] at hnodup
  refine ⟨k', hpop, ?_, fun queue => ?_,
    (hk'.forgetWait fun other hmem => ?_).of_eq ?_⟩
  · funext other
    rw [hk'.task_eq, View.task_settle]
    rfl
  · rw [hk'.ring_eq, View.ring_settle]
    rfl
  · rw [View.blocked_settle] at hmem
    simp only [View.setBlocked] at hmem
    split at hmem
    · exact hnodup.1 hmem
    · rw [hp.mem_blocked, hwaits] at hmem
      exact absurd (Option.some.inj hmem) ‹_›
  · rw [View.unblocked_of_blocked hp hside hwaits, hids, List.erase_cons_head]

theorem Shows.reinstate (h : k.Shows v) (ho : v.Orderly moving)
    (hready : id ∉ v.ready)
    (hwaiting : (v.task id).status = .waiting → id ∈ v.waiting) :
    ∃ k', k.reinstate id = .ok k' ∧ k'.Shows (v.readied id) := by
  obtain ⟨k₁, hunblock, hk₁⟩ := h.unblock ho id
  have hstatus : (k₁.task id).status = (v.task id).status := by
    rw [hk₁.task_eq]
    simp [View.unblocked, Task.withoutWait]
  -- the task leaves the waiting tasks if it is one of them
  have hleave : ∃ k₂, (if (k₁.task id).status = .waiting then k₁.leaveWaiting id
      else .ok k₁) = .ok k₂ ∧
        k₂.Shows { v.unblocked id with waiting := v.waiting.erase id } := by
    rw [hstatus]
    by_cases hwait : (v.task id).status = .waiting
    · rw [if_pos hwait]
      exact hk₁.leaveWaiting (hwaiting hwait)
    · rw [if_neg hwait]
      refine ⟨k₁, rfl, hk₁.of_eq ?_⟩
      have hmem : id ∉ v.waiting := fun hmem =>
        hwait ((ho.queued.mem_waiting id).mp hmem).2.1
      rw [List.erase_of_not_mem hmem]
      rfl
  obtain ⟨k₂, hleave, hk₂⟩ := hleave
  refine ⟨(k₂.modifyTask id fun task =>
    { task with deadline := 0, status := .ready }).joinReady id, ?_, ?_⟩
  · rw [Kernel.reinstate, hunblock]
    by_cases hwait : (k₁.task id).status = .waiting
    · rw [if_pos hwait] at hleave
      simp only [bind, Except.bind, pure, Except.pure, if_pos hwait, hleave]
    · rw [if_neg hwait] at hleave
      obtain rfl : k₁ = k₂ := Except.ok.inj hleave
      simp only [bind, Except.bind, pure, Except.pure, if_neg hwait]
  · have htask := hk₂.modifyTask id fun task =>
      { task with deadline := 0, status := .ready }
    refine (htask.joinReady hready ?_).of_eq ?_
    · exact ho.queued.waiting_nodup.not_mem_erase
    · have hprecedes : ∀ other, Task.outranks
          (((v.unblocked id).setTask id fun task =>
            { task with deadline := 0, status := .ready }).task id)
          (((v.unblocked id).setTask id fun task =>
            { task with deadline := 0, status := .ready }).task other) =
          (v.task id).outranks (v.task other) := by
        intro other
        simp only [View.setTask, View.unblocked, Task.outranks,
          Task.withoutWait]
        grind
      apply View.ext <;> try rfl
      · funext other
        simp only [View.joinReady, View.setTask, View.unblocked, View.readied]
        grind
      · simp only [View.readied, if_neg hready]
        exact congrArg (fun precedes => insertBefore precedes id v.ready)
          (funext hprecedes)

theorem Shows.standDown (h : k.Shows v) (ho : v.Orderly (some id))
    (hreg : v.Registered id) :
    ∃ k', k.standDown id = .ok k' ∧ k'.Shows (v.stoodDown id) := by
  have hid : id ∈ v.ready := (ho.queued.mem_ready id).mpr ⟨hreg, Or.inl rfl⟩
  obtain ⟨k', hleave, hk'⟩ := h.leaveReady hid
  have hgone : id ∉ v.ready.erase id := ho.queued.ready_nodup.not_mem_erase
  have hwait : id ∉ v.waiting := ho.queued.not_mem_waiting hid
  unfold Kernel.standDown
  rw [h.task_eq]
  cases hstatus : (v.task id).status with
  | active | ready =>
      refine ⟨_, rfl, (h.modifyTask id _).of_eq ?_⟩
      simp [View.setTask, View.stoodDown, Task.isRunnable,
        TaskStatus.isRunnable, hstatus]
  | waiting =>
      refine ⟨k'.joinWaiting id, ?_, (hk'.joinWaiting hgone hwait).of_eq ?_⟩
      · change (k.leaveReady id >>= _) = _
        rw [hleave]
        rfl
      · simp [View.joinWaiting, View.stoodDown, Task.isRunnable,
          TaskStatus.isRunnable, hstatus]
  | suspended | finished =>
      refine ⟨k', hleave, hk'.of_eq ?_⟩
      simp [View.stoodDown, Task.isRunnable, TaskStatus.isRunnable, hstatus]

/-- Only a runnable task can leave the processor for good. -/
theorem Shows.mem_of_standDown (h : k.Shows v) {k' : Kernel}
    (hstatus : (v.task id).isRunnable = false) (hok : k.standDown id = .ok k') :
    id ∈ v.ready := by
  rw [Kernel.standDown, h.task_eq] at hok
  cases hcase : (v.task id).status with
  | active | ready =>
      simp [Task.isRunnable, TaskStatus.isRunnable, hcase] at hstatus
  | waiting =>
      rw [hcase] at hok
      cases hleave : k.leaveReady id with
      | error halt =>
          change (k.leaveReady id >>= _) = _ at hok
          rw [hleave] at hok
          cases hok
      | ok k₁ => exact h.mem_of_leaveReady hleave
  | suspended | finished =>
      rw [hcase] at hok
      exact h.mem_of_leaveReady hok

end Kernel

/-! ### Choosing and recording the next task -/

namespace View

variable {v : View} {id : TaskId}

/-- No registered task has overwritten the guard of its stack. -/
def Guarded (v : View) : Prop :=
  ∀ id, v.Registered id → (v.task id).isGuarded = true

/-- The stack of every task is as it was. -/
def SameStacks (v w : View) : Prop :=
  ∀ id, (w.task id).stack = (v.task id).stack

theorem isGuarded_of_stack {task other : Task} (h : task.stack = other.stack) :
    task.isGuarded = other.isGuarded := by
  rw [Task.isGuarded, Task.lowestWord, h]
  rfl

theorem SameStacks.trans {u w : View} (h : u.SameStacks v)
    (h' : v.SameStacks w) :
    u.SameStacks w :=
  fun id => (h' id).trans (h id)

theorem sameStacks_unblocked (v : View) (id : TaskId) :
    v.SameStacks (v.unblocked id) := by
  intro other
  simp only [unblocked, Task.withoutWait]
  split <;> simp_all

theorem sameStacks_readied (v : View) (id : TaskId) :
    v.SameStacks (v.readied id) := by
  intro other
  simp only [readied, Task.withoutWait]
  split <;> simp_all

theorem sameStacks_shelved (v : View) (id : TaskId) :
    v.SameStacks (v.shelved id) := by
  intro other
  simp only [shelved, Task.withoutWait]
  split <;> simp_all

theorem sameStacks_stoodDown (v : View) (id : TaskId) :
    v.SameStacks (v.stoodDown id) := by
  intro other
  simp only [stoodDown]
  split <;> simp_all

theorem sameStacks_promoted (v : View) (id : TaskId) :
    v.SameStacks (v.promoted id) := by
  intro other
  simp only [promoted, setTask]
  split <;> simp_all

theorem sameStacks_dispatched (v : View) (previous target : TaskId) :
    v.SameStacks (v.dispatched previous target) :=
  ((sameStacks_readied v target).trans (sameStacks_stoodDown _ previous)).trans
    (sameStacks_promoted _ target)

end View

namespace Kernel

variable {k : Kernel} {v : View} {moving : Option TaskId}
  {id current target : TaskId}

/-- The last step of a dispatch, up to the guards. -/
theorem Shows.promote (h : k.Shows v) (id : TaskId) :
    Shows { k.setStatus id .active with
      scheduled := some id
      platform := k.platform.askForSwitch } (v.promoted id) := by
  have htask := h.modifyTask id fun task => { task with status := .active }
  refine ⟨htask.linked.of_same rfl rfl rfl rfl fun _ => rfl, ?_⟩
  rw [View.promoted, ← htask.view_eq, ← h.platform_eq]
  rfl

/-- Whoever is to take the processor is made runnable. -/
theorem Shows.arrive (h : k.Shows v) (ho : v.Orderly (some current))
    (htarget : target ∈ v.ready ∨ target ∈ v.waiting)
    (hmove : some current ≠ some target) (hnext : v.next ≠ some target) :
    ∃ k', (if (k.task target).status = .waiting then k.reinstate target
      else k.unblock target) = .ok k' ∧ k'.Shows (v.readied target) := by
  rw [h.task_eq]
  by_cases hwait : (v.task target).status = .waiting
  · rw [if_pos hwait]
    have hreg : v.Registered target :=
      htarget.elim ho.registered_of_ready ho.registered_of_waiting
    have hmem : target ∈ v.waiting :=
      (ho.queued.mem_waiting target).mpr ⟨hreg, hwait, hmove⟩
    exact h.reinstate ho (fun hready => ho.queued.not_mem_waiting hready hmem)
      fun _ => hmem
  · rw [if_neg hwait]
    have hmem : target ∈ v.ready := htarget.resolve_right fun hmem =>
      hwait ((ho.queued.mem_waiting target).mp hmem).2.1
    have hready : (v.task target).status = .ready := by
      have hrunnable :=
        ((ho.queued.mem_ready target).mp hmem).2.resolve_left hmove
      exact ((Task.isRunnable_iff _).mp hrunnable).resolve_right
        (ho.staffed.not_active hnext)
    rw [View.readied_of_ready ho hmem hready]
    exact h.unblock ho target

theorem Shows.dispatch (h : k.Shows v) (ho : v.Orderly (some current))
    (hrunning : v.running = some current) (hscheduled : v.scheduled = none)
    (htarget : target ∈ v.ready ∨ target ∈ v.waiting) (hne : target ≠ current) :
    Fulfils (k.dispatch target) v.Guarded
      (Shows · (v.dispatched current target)) := by
  have hreg : v.Registered target :=
    htarget.elim ho.registered_of_ready ho.registered_of_waiting
  have hcurrent : v.Registered current :=
    ho.staffed.running_registered current hrunning
  have hmove : some current ≠ some target := fun heq =>
    hne (Option.some.inj heq).symm
  have hnext : v.next ≠ some target := by
    rw [View.next, hscheduled, hrunning]
    exact hmove
  have hreadied : (v.readied target).Orderly (some current) :=
    ho.readied hreg hmove hnext
  have hstacks := (View.sameStacks_readied v target).trans
    (View.sameStacks_stoodDown _ current)
  obtain ⟨k₁, hif, hk₁⟩ := h.arrive ho htarget hmove hnext
  have hstatus : ((k₁.task target).status == .ready) = true := by
    rw [hk₁.task_eq]
    simp [View.readied]
  obtain ⟨k₂, hdown, hk₂⟩ := hk₁.standDown hreadied hcurrent
  unfold Kernel.dispatch
  refine Fulfils.require (fun _ => by rw [h.scheduled_eq, hscheduled]; rfl)
    fun _ => ?_
  rw [h.running_eq, hrunning]
  refine Fulfils.require (fun _ => bne_iff_ne.mpr hne) fun _ => ?_
  refine Fulfils.ite_bind ?_
  rw [hif]
  refine Fulfils.require (fun _ => hstatus) fun _ => ?_
  rw [hdown]
  -- neither guard was overwritten since the call began
  have hpromote := hk₂.promote target
  have hguarded : v.Guarded → ∀ id, v.Registered id →
      (({ k₂.setStatus target .active with
        scheduled := some target } : Kernel).task id).isGuarded = true := by
    intro hguarded id hid
    have hstack := (hstacks.trans (View.sameStacks_promoted _ target)) id
    rw [← hpromote.task_eq] at hstack
    exact (View.isGuarded_of_stack hstack).trans (hguarded id hid)
  refine Fulfils.checkGuard (fun hsafe => hguarded hsafe current hcurrent)
    fun _ => ?_
  refine Fulfils.checkGuard (fun hsafe => hguarded hsafe target hreg) fun _ =>
    ?_
  exact Fulfils.ok hpromote

end Kernel

end TickKernel
