/-
Frames on stacks, and what a switch does to them.  The first frame of a task is
laid out when the task is registered.  From then on a call touches the stack of
a task only at a switch to the task, and only to write its reply into its frame;
the frame itself stays where it is, and another one is stored only for the task
that the switch takes off the processor.
-/
import TickKernel.Proofs.Answers

namespace TickKernel

/-! ### Frames in memory -/

namespace Frame

/-- The saved r0 and r1 of the frame at `start` lie in the memory. -/
def fits (memory : Array Word) (start : Nat) : Bool :=
  decide (replyOffset memory start + 1 < memory.size)

/-- A reply lies above the return code, which says where to write it. -/
theorem returnCode_lt_replyOffset (memory : Array Word) (start : Nat) :
    start + returnCodeOffset < replyOffset memory start := by
  unfold replyOffset
  split <;> omega

theorem replyOffset_writeReply (memory : Array Word) (start : Nat)
    (reply : Reply) :
    replyOffset (writeReply memory start reply) start =
      replyOffset memory start := by
  have hlt := returnCode_lt_replyOffset memory start
  have hcode : (writeReply memory start reply).getD
      (start + returnCodeOffset) 0 =
      memory.getD (start + returnCodeOffset) 0 := by
    unfold writeReply
    dsimp only
    rw [getD_setIfInBounds, if_neg (by omega), getD_setIfInBounds,
      if_neg (by omega)]
  rw [replyOffset, hcode]
  rfl

theorem size_writeReply (memory : Array Word) (start : Nat) (reply : Reply) :
    (writeReply memory start reply).size = memory.size := by
  rw [writeReply, Array.size_setIfInBounds, Array.size_setIfInBounds]

theorem fits_writeReply (memory : Array Word) (start : Nat) (reply : Reply) :
    fits (writeReply memory start reply) start = fits memory start := by
  rw [fits, replyOffset_writeReply, size_writeReply]
  rfl

/-- A reply can be written into a basic frame that lies in the memory. -/
theorem fits_of_basic {memory : Array Word} {start : Nat}
    (hcode : memory.getD (start + returnCodeOffset) 0 = basicReturn)
    (hroom : start + size ≤ memory.size) : fits memory start = true := by
  have hoffset : replyOffset memory start = start + returnCodeOffset + 1 := by
    rw [replyOffset, hcode]
    rfl
  rw [fits, hoffset, decide_eq_true_eq]
  simp only [returnCodeOffset, size] at hroom ⊢
  omega

end Frame

/-- A new task begins with a basic frame. -/
theorem Frame.returnCode_fresh {seeded : Bool}
    {entry param exit index : Address} {frame : Frame}
    (h : Frame.fresh seeded entry param exit index = .ok frame) :
    frame.returnCode = basicReturn := by
  unfold Frame.fresh at h
  obtain ⟨r4, -, h⟩ := eq_ok_of_bind h
  obtain ⟨r5, -, h⟩ := eq_ok_of_bind h
  obtain ⟨r6, -, h⟩ := eq_ok_of_bind h
  obtain ⟨r7, -, h⟩ := eq_ok_of_bind h
  obtain ⟨r8, -, h⟩ := eq_ok_of_bind h
  obtain ⟨r9, -, h⟩ := eq_ok_of_bind h
  obtain ⟨r10, -, h⟩ := eq_ok_of_bind h
  obtain ⟨r11, -, h⟩ := eq_ok_of_bind h
  obtain ⟨r1, -, h⟩ := eq_ok_of_bind h
  obtain ⟨r2, -, h⟩ := eq_ok_of_bind h
  obtain ⟨r3, -, h⟩ := eq_ok_of_bind h
  obtain ⟨r12, -, h⟩ := eq_ok_of_bind h
  cases h
  rfl

namespace Stack

/-- The lowest word of the first frame of a task. -/
def firstFrame (stack : Stack) : Nat :=
  stack.top - Frame.size

/-- The layout has the frame where it says. -/
theorem getD_layout {size top : Nat} {frame : Frame} (hframe : Frame.size < top)
    (htop : top ≤ size) :
    (layout size top frame).getD (top - Frame.size + Frame.returnCodeOffset) 0 =
      frame.returnCode := by
  have hinside : top - Frame.size + Frame.returnCodeOffset < top := by
    simp only [Frame.size, Frame.returnCodeOffset] at hframe ⊢
    omega
  rw [Array.getD_eq_getD_getElem?, getElem?_layout hframe htop,
    if_neg (by omega), if_neg (by omega), if_pos hinside,
    Nat.add_sub_cancel_left]
  rfl

/-- A prepared stack has the first frame of its task where it says. -/
theorem prepare_frame {stack prepared : Stack} {seeded : Bool}
    {entry param exit index : Address} {offset : Nat}
    (h : stack.prepare seeded entry param exit index =
      .ok (.ok (prepared, offset))) :
    offset = stack.firstFrame ∧ Frame.fits prepared.words offset = true := by
  obtain ⟨hroom, rfl, frame, hframe, rfl⟩ := exists_layout_of_prepare h
  have htop := frameSize_lt_top hroom
  have hle := stack.top_le
  refine ⟨rfl, Frame.fits_of_basic ?_ ?_⟩
  · rw [getD_layout htop hle.1]
    exact Frame.returnCode_fresh hframe
  · dsimp only
    rw [size_layout htop hle.1]
    omega

end Stack

namespace View

variable {u v w : View} {call : Call} {reply : Reply} {current id : TaskId}

/-! ### Where tasks resume from -/

theorem savedAt_setTask (v : View) {f : Task → Task}
    (hf : ∀ task, (f task).savedAt = task.savedAt) (id other : TaskId) :
    ((v.setTask id f).task other).savedAt = (v.task other).savedAt := by
  by_cases heq : id = other
  · rw [heq, task_setTask_self, hf]
  · rw [task_setTask_of_ne v f heq]

theorem savedAt_delivered (v : View) (id other : TaskId) :
    ((v.delivered id).task other).savedAt = (v.task other).savedAt := by
  unfold delivered
  split
  · rfl
  · rename_i reply _
    have hfirst := v.savedAt_setTask
      (f := fun task => { task with pending := none, delivered := some reply })
      (fun _ => rfl) id other
    dsimp only
    split
    · exact hfirst
    · refine Eq.trans (savedAt_setTask _ ?_ _ other) hfirst
      exact fun _ => rfl

theorem savedAt_resumed (v : View) (id : TaskId) :
    (v.resumed.task id).savedAt = (v.task id).savedAt := by
  unfold resumed
  split
  · rfl
  · exact savedAt_delivered v _ id

theorem task_relieved (v : View) : v.relieved.task = v.task := by
  unfold relieved
  split <;> rfl

/-- A switch that takes place stores a frame for the outgoing task, if it is
given one. -/
theorem savedAt_switchedFrom (v : View) (saved : Option StackPointer)
    (id : TaskId) :
    ((v.switchedFrom saved).task id).savedAt =
      (if v.scheduled ≠ none ∧ v.running = some id then saved else none).or
        (v.task id).savedAt := by
  unfold switchedFrom
  split
  · rw [savedAt_resumed, task_relieved, ite_self, Option.none_or]
  · rename_i pointer
    split
    · rename_i hnone
      rw [if_neg fun hpending =>
        hpending.1 (Option.isNone_iff_eq_none.mp hnone), Option.none_or]
    · rename_i hsome
      have hpending : v.scheduled ≠ none := fun hnone =>
        hsome (by rw [hnone]; rfl)
      rw [savedAt_resumed, task_relieved]
      by_cases hrunning : v.running = some id
      · rw [if_pos ⟨hpending, hrunning⟩, View.savedAt, hrunning, Option.some_or]
        dsimp only
        rw [task_setTask_self]
      · rw [if_neg fun hboth => hrunning hboth.2, Option.none_or]
        exact (saves_savedAt v pointer).savedAt id hrunning

/-- Given the frame that is stored for it anyway, the outgoing task keeps it. -/
theorem savedAt_switchedFrom_stored (v : View) (id : TaskId) :
    ((v.switchedFrom (v.running.bind fun current =>
      (v.task current).savedAt)).task id).savedAt = (v.task id).savedAt := by
  rw [savedAt_switchedFrom]
  split
  · rename_i hgoes
    rw [hgoes.2, Option.bind_some, Option.or_self]
  · rw [Option.none_or]

/-! ### What stays on the stacks -/

theorem Stops.sameStacks (hu : v.Stops current call reply u) :
    v.SameStacks u := by
  cases hu with
  | dozes => exact .setTask current rfl
  | parks side message => exact sameStacks_parked v current _ side message _
  | quits => exact .setTask current rfl

theorem Serves.sameStacks (hu : v.Serves call current u) : v.SameStacks u := by
  intro id
  rw [hu.lists]
  exact sameStacks_unblocked v current id

/-- What is written on the stacks: nothing, or the reply of the task that gets
to the processor. -/
inductive Writes (v w : View) : Prop
  | nothing (hstacks : ∀ id, v.Registered id →
    (w.task id).stack = (v.task id).stack)
      (hnobody : ∀ id, w.running = some id → v.running = some id ∨
        (v.task id).pending = none)
  | reply (next : TaskId) (hreg : v.Registered next)
      (hother : v.running ≠ some next) (hrunning : w.running = some next)
      (hresumes : v.Resumes next (v.task next).pending w)

theorem Calm.writes (hw : v.Calm w) (hstacks : v.SameStacks w) : v.Writes w :=
  .nothing (fun id _ => hstacks id) fun id hid => Or.inl (by rwa [← hw.running])

/-- A switch writes the reply of the task that it brings to the processor. -/
theorem Faithful.writes (h : v.Faithful) (ho : v.Orderly none)
    (saved : Option StackPointer) : v.Writes (v.switchedFrom saved) := by
  cases hnext : v.scheduled with
  | none =>
      rw [h.switchedFrom_eq hnext]
      exact (Calm.refl v).writes (.refl v)
  | some next =>
      obtain ⟨hreg, -, hother⟩ := ho.staffed.scheduled_other next hnext
      obtain ⟨hrunning, hhands⟩ :=
        handsOver_switchedFrom hnext hother (h.framed next hreg) saved
      exact .reply next hreg hother hrunning hhands.resumes

/-- A calm step before a switch does not matter. -/
theorem Calm.writes_trans (hu : v.Calm u) (hstacks : v.SameStacks u)
    (hw : u.Writes w) :
    v.Writes w := by
  cases hw with
  | nothing hsame hnobody =>
      refine .nothing (fun id hid => ?_) fun id hid => ?_
      · refine (hsame id ?_).trans (hstacks id)
        rw [Registered, hu.taskCount]
        exact hid
      · rw [← hu.running, ← (hu.frame id).pending]
        exact hnobody id hid
  | reply next hreg hother hrunning hresumes =>
      have hframe := hu.frame next
      rw [Registered, hu.taskCount] at hreg
      rw [hu.running] at hother
      rw [hframe.pending] at hresumes
      exact .reply next hreg hother hrunning
        (hresumes.congr hframe.delivered hframe.savedAt hstacks)

/-- Besides tasks that write on their own stacks, only a switch writes on
any. -/
theorem Shape.writes (hw : v.Shape call reply w) (ho : v.Orderly none)
    (h : v.Faithful) (hcall : call ≠ .tearDown)
    (hpoke : ∀ id index word, call ≠ .poke id index word) :
    v.Writes w := by
  cases hw with
  | rests _ hw => exact hw.calm.writes (hw.stack hpoke)
  | ticks _ hw => exact hw.calm.writes hw.sameStacks
  | @beats _ u saved hu =>
      have hadvanced := ho.advanced
      have hpasses : View.Passes _ (fun _ => False) _ := hu.passes hadvanced
      have hcalm := (calm_platform v (v.platform.advance 1)).trans hu.calm
      exact hcalm.writes_trans hu.sameStacks
        ((h.calm hcalm).writes hpasses.orderly saved)
  | switches saved => exact h.writes ho saved
  | stops hrunning _ _ hu _ hw =>
      exact ((hu.calm hrunning).trans hw.calm).writes
        (hu.sameStacks.trans (.gaveUp hw))
  | serves hu _ _ _ hw =>
      refine .nothing (fun id _ => (hu.sameStacks.trans (.woke hw)) id)
        fun id hid => ?_
      rw [hw.calm.running] at hid
      exact Or.inl (hu.calm.running ▸ hid)
  | @resumes id => exact (calm_readied v id).writes (sameStacks_readied v id)
  | @shelves id => exact (calm_shelved v id).writes (sameStacks_shelved v id)
  | @enrols spec _ new stack offset hnew =>
      refine .nothing (fun id hreg => ?_) fun id hid => Or.inl ?_
      · rw [task_enrolled, if_neg]
        rintro rfl
        exact not_registered_of_count hnew hreg
      · cases hmode : spec.mode <;> rw [hmode] at hid <;> exact hid
  | enters first platform hphase =>
      have hrunning := (ho.nobody_next (by rw [hphase]; decide)).1
      exact .nothing (fun id _ => sameStacks_promoted v first id)
        fun id _ => Or.inr (h.pending_eq_none hrunning id)
  | clears => exact absurd rfl hcall

end View

/-- A call that is no service stands for itself. -/
theorem Call.eq_of_direct {call other : Call} (h : call.direct = other)
    (hother : other.isService = false) : call = other := by
  subst h
  exact (Call.direct_eq_self hother).symm

theorem Call.direct_ne_tearDown {call : Call} (h : call ≠ .tearDown) :
    call.direct ≠ .tearDown :=
  fun hdirect => h (Call.eq_of_direct hdirect rfl)

/-- The calls in which the processor may change hands. -/
def Call.isSwitch : Call → Bool
  | .beat | .switchOver | .switchFrom _ => true
  | _ => false

theorem Call.eq_of_isSwitch {call : Call} (h : call.isSwitch = true) :
    call = .beat ∨ call = .switchOver ∨ ∃ saved, call = .switchFrom saved := by
  cases call with
  | beat => exact Or.inl rfl
  | switchOver => exact Or.inr (Or.inl rfl)
  | switchFrom saved => exact Or.inr (Or.inr ⟨saved, rfl⟩)
  | _ => cases h

theorem Call.isSwitch_direct {call : Call} (h : call.isSwitch = false) :
    call.direct.isSwitch = false := by
  by_contra hdirect
  rw [Bool.not_eq_false] at hdirect
  have hservice : call.direct.isService = false := by
    cases hcall : call.direct <;>
      first | rfl | (rw [hcall] at hdirect; cases hdirect)
  rw [Call.direct_eq_self hservice, h] at hdirect
  cases hdirect

namespace View

variable {u v w : View} {call : Call} {reply : Reply} {current id : TaskId}

/-- Nobody leaves the processor, and no frame is stored. -/
structure Unswitched (v w : View) : Prop where
  running : ∀ id, v.running = some id → w.running = some id
  savedAt : ∀ id, v.Registered id → (w.task id).savedAt = (v.task id).savedAt

theorem Calm.unswitched (hw : v.Calm w) : v.Unswitched w :=
  ⟨fun _ hid => hw.running ▸ hid, fun id _ => (hw.frame id).savedAt⟩

/-- In no call but a switch does anybody leave the processor. -/
theorem Shape.unswitched (hw : v.Shape call reply w) (ho : v.Orderly none)
    (hcall : call ≠ .tearDown) (hswitch : call.isSwitch = false) :
    v.Unswitched w := by
  cases hw with
  | rests _ hw => exact hw.calm.unswitched
  | ticks _ hw => exact hw.calm.unswitched
  | beats => cases hswitch
  | switches saved hcalls => rcases hcalls with rfl | rfl <;> cases hswitch
  | stops hrunning _ _ hu _ hw =>
      exact ((hu.calm hrunning).trans hw.calm).unswitched
  | @serves _ _ brought first u _ hu _ _ _ hw =>
      refine ⟨fun id hid => ?_, fun id _ => ?_⟩
      · rw [hw.calm.running]
        exact hu.calm.running ▸ hid
      · have hpromised : ((u.promised first brought).task id).savedAt =
            (u.task id).savedAt := by
          refine savedAt_setTask u ?_ first id
          exact fun _ => rfl
        exact ((hw.calm.frame id).savedAt.trans hpromised).trans
          (hu.calm.frame id).savedAt
  | @resumes other => exact (calm_readied v other).unswitched
  | @shelves other => exact (calm_shelved v other).unswitched
  | @enrols spec _ new stack offset hnew =>
      refine ⟨fun id hid => ?_, fun id hreg => ?_⟩
      · cases spec.mode <;> exact hid
      · rw [task_enrolled, if_neg]
        rintro rfl
        exact not_registered_of_count hnew hreg
  | enters first platform hphase =>
      have hrunning := (ho.nobody_next (by rw [hphase]; decide)).1
      refine ⟨fun id hid => ?_,
        fun id _ => ((calm_promoted v first).frame id).savedAt⟩
      rw [hrunning] at hid
      cases hid
  | clears => exact absurd rfl hcall

end View

/-! ### Switches of the kernel -/

namespace Kernel

variable {k k' : Kernel} {v : View} {id : TaskId} {saved : Option StackPointer}

/-- With nobody to switch to, the outgoing task goes on from the frame handed
over. -/
theorem switchFrom_of_nobody (pointer : StackPointer) (h : k.scheduled = none) :
    k.switchFrom (some pointer) = (some pointer, k) := by
  rw [switchFrom, h]
  rfl

theorem running_deliver (k : Kernel) (id : TaskId) :
    (k.deliver id).running = k.running := by
  unfold deliver
  split
  · rfl
  · dsimp only
    split <;> rfl

theorem resumeRunning_fst (hid : (k.resumeRunning saved).2.running = some id) :
    (k.resumeRunning saved).1 =
      ((k.resumeRunning saved).2.task id).savedAt := by
  unfold resumeRunning at hid ⊢
  split at hid
  · rename_i hnone
    rw [hnone] at hid
    cases hid
  · rename_i current hcurrent
    dsimp only at hid ⊢
    rw [running_deliver, hcurrent] at hid
    obtain rfl := Option.some.inj hid
    rfl

/-- A switch answers where the task that it leaves on the processor resumes
from. -/
theorem switchFrom_fst (hgoes : saved = none ∨ k.scheduled ≠ none)
    (hid : (k.switchFrom saved).2.running = some id) :
    (k.switchFrom saved).1 = ((k.switchFrom saved).2.task id).savedAt := by
  unfold switchFrom at hid ⊢
  cases saved with
  | none => exact resumeRunning_fst hid
  | some pointer =>
      have hpending := hgoes.resolve_left (Option.some_ne_none pointer)
      rw [Ne, ← Option.isNone_iff_eq_none] at hpending
      dsimp only at hid ⊢
      rw [if_neg hpending] at hid ⊢
      exact resumeRunning_fst hid

/-- Without hardware nobody gets another frame to resume from. -/
theorem Shows.savedAt_switchOver (h : k.Shows v) (id : TaskId) :
    (k.switchOver.2.task id).savedAt = (k.task id).savedAt := by
  obtain ⟨hlinked, rfl⟩ := h
  unfold Kernel.switchOver
  split
  · rfl
  · have hshows := hlinked.shows.switchFrom
      (k.running.bind fun current => (k.task current).savedAt)
    rw [hshows.task_eq]
    exact k.view.savedAt_switchedFrom_stored id

/-- What a tick leads to before its switch takes place. -/
theorem beat_eq_ok {answer : Bool × Kernel} (h : k.beat = .ok answer) :
    ∃ k₁, { k with platform := k.platform.advance 1 }.tick = .ok k₁ ∧
      k₁.switchOver = answer := by
  obtain ⟨k₁, htick, hrest⟩ := eq_ok_of_bind h
  exact ⟨k₁, htick, Except.ok.inj hrest⟩

theorem Sound.savedAt_beat (h : k.Sound) {switched : Bool} (id : TaskId)
    (hbeat : k.beat = .ok (switched, k')) :
    (k'.task id).savedAt = (k.task id).savedAt := by
  obtain ⟨k₁, htick, hover⟩ := beat_eq_ok hbeat
  obtain rfl : k₁.switchOver.2 = k' := congrArg Prod.snd hover
  have hadvance := h.shows.setPlatform (k.platform.advance 1)
  obtain ⟨u, hu, hk₁⟩ := (hadvance.tick h.orderly.advanced).holds k₁ htick
  rw [hk₁.savedAt_switchOver, hk₁.task_eq]
  exact (hu.calm.frame id).savedAt

/-- A task is registered on the stack that was prepared for it. -/
theorem register_eq_ok {spec : TaskSpec} {verdict : Verdict TaskId}
    (h : k.register spec = .ok verdict) :
    (∃ error, verdict = k.refuse error) ∨ ∃ new stack offset,
      k.admission spec = .ok new ∧
        spec.stack.prepare k.platform.seeded spec.entry spec.param
        k.platform.exitAddress
          (UInt64.ofNat new.val) = .ok (.ok (stack, offset)) ∧
        verdict = (k.enrol new spec stack offset).accept new := by
  unfold register at h
  split at h
  · exact Or.inl ⟨_, (Except.ok.inj h).symm⟩
  · rename_i new hadmission
    split at h
    · cases h
    · exact Or.inl ⟨_, (Except.ok.inj h).symm⟩
    · rename_i stack offset hprepare
      exact Or.inr ⟨new, stack, offset, hadmission, hprepare,
        (Except.ok.inj h).symm⟩

/-- A registered task has the stack that was prepared for it, and its first
frame. -/
theorem Sound.registered (h : k.Sound) {spec : TaskSpec}
    (hregister : k.register spec = .ok (.ok id, k')) : ¬k.view.Registered id ∧
      spec.stack.prepare k.platform.seeded spec.entry spec.param
      k.platform.exitAddress
        (UInt64.ofNat id.val) =
          .ok (.ok ((k'.task id).stack, spec.stack.firstFrame)) ∧
      (k'.task id).savedAt = some ⟨id, spec.stack.firstFrame⟩ := by
  rcases register_eq_ok hregister with ⟨error, hrefused⟩ |
    ⟨new, stack, offset, hadmission, hprepare, haccepted⟩
  · cases hrefused
  · cases haccepted
    obtain ⟨hcount, -, -⟩ := h.shows.admission hadmission
    have hnew := View.not_registered_of_count hcount
    obtain ⟨hoffset, -⟩ := Stack.prepare_frame hprepare
    have htask := (h.shows.enrol h.orderly spec stack offset hnew).task_eq id
    rw [View.task_enrolled, if_pos rfl] at htask
    rw [htask, hprepare, hoffset]
    exact ⟨hnew, rfl, rfl⟩

end Kernel

end TickKernel
