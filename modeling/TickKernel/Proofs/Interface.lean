/-
What a service comes to.  A task asks for it by number and with three registers.
A service that works on an object takes the whole first register for its index,
so that a number of which only the low byte is an index names nothing.  If the
object is there, the service is the call that could as well be made directly: it
leaves the same kernel or stops the machine for the same reason, and the reply
carries the result.
-/
import TickKernel.Proofs.Services

namespace TickKernel

/-! ### Objects and calls -/

/-- The kinds of objects that registers name. -/
inductive Handle where
  | task
  | mutex
  | queue
deriving DecidableEq, Repr

/-- The kind of object that a service needs in its first register. -/
def Service.handle? : Service → Option Handle
  | .suspend | .resume => some .task
  | .acquire | .release => some .mutex
  | .send | .receive => some .queue
  | .delay | .createMutex | .createQueue | .finish | .self => none

/-- What a service answers if its number or its object is not there. -/
def Answer.invalid : Answer :=
  .reply ⟨.invalid, 0⟩

namespace Kernel

variable {k : Kernel} {number : UInt32} {args : Arguments} {service : Service}
  {call : Call} {handle : Handle} {raw : UInt64}

/-- The number is the index of a registered task or of a created mutex or
queue. -/
def Names (k : Kernel) (handle : Handle) (number : Nat) : Prop :=
  match handle with
  | .task => ∃ id : TaskId, id.val = number ∧ k.isRegistered id = true
  | .mutex => ∃ id : MutexId, id.val = number ∧ k.hasMutex id = true
  | .queue => ∃ id : QueueId, id.val = number ∧ k.hasQueue id = true

/-- The calls that services stand for.  Handles are whole registers and name
objects that exist, ticks are the low half of their register, messages and
capacities are all of it. -/
inductive Means (k : Kernel) (args : Arguments) : Service → Call → Prop where
  | delay {ticks : Tick}
      (hticks : ticks.toNat = args.first.toNat % UInt32.size) :
      Means k args .delay (.delay ticks)
  | createMutex : Means k args .createMutex .createMutex
  | acquire {id : MutexId} {ticks : Tick} (hid : id.val = args.first.toNat)
      (hcreated : k.hasMutex id = true)
      (hticks : ticks.toNat = args.second.toNat % UInt32.size) :
      Means k args .acquire (.acquire id ticks)
  | release {id : MutexId} (hid : id.val = args.first.toNat)
      (hcreated : k.hasMutex id = true) :
      Means k args .release (.release id)
  | createQueue : Means k args .createQueue (.createQueue args.first)
  | send {id : QueueId} {ticks : Tick} (hid : id.val = args.first.toNat)
      (hcreated : k.hasQueue id = true)
      (hticks : ticks.toNat = args.third.toNat % UInt32.size) :
      Means k args .send (.send id args.second ticks)
  | receive {id : QueueId} {ticks : Tick} (hid : id.val = args.first.toNat)
      (hcreated : k.hasQueue id = true)
      (hticks : ticks.toNat = args.second.toNat % UInt32.size) :
      Means k args .receive (.receive id ticks)
  | suspend {id : TaskId} (hid : id.val = args.first.toNat)
      (hregistered : k.isRegistered id = true) :
      Means k args .suspend (.suspend id)
  | resume {id : TaskId} (hid : id.val = args.first.toNat)
      (hregistered : k.isRegistered id = true) :
      Means k args .resume (.resume id)
  | finish : Means k args .finish .finish

/-- How a kernel responds to a number and three registers. -/
structure Responds (k : Kernel) (number : UInt32) (args : Arguments) :
    Prop where
  /-- A number of no service is refused. -/
  unknown : (∀ service : Service, service.number ≠ number) →
    k.perform (.serve number args) = .ok (.invalid, k)
  /-- The service that asks who is running is told. -/
  self : Service.self.number = number →
    k.perform (.serve number args) =
      .ok (.reply (Reply.ofResult (match k.running with
      | some id => .ok (UInt64.ofNat id.val)
      | none => .error .notRunning)), k)
  /-- Every other service needs an object that does not exist or stands for a
  call. -/
  either : ∀ service : Service, service.number = number → service ≠ .self →
    (∃ handle, service.handle? = some handle ∧
      ¬k.Names handle args.first.toNat) ∨ ∃ call, k.Means args service call
  /-- Without its object it is refused, -/
  unnamed : ∀ (service : Service) (handle : Handle), service.number = number →
    service.handle? = some handle → ¬k.Names handle args.first.toNat →
      k.perform (.serve number args) = .ok (.invalid, k)
  /-- as it is if the index does not fit a byte, whatever the low byte names, -/
  wide : ∀ service : Service, service.number = number →
    service.handle?.isSome = true →
    256 ≤ args.first.toNat → k.perform (.serve number args) = .ok (.invalid, k)
  /-- and as a call it has the outcome of the call, with the result as a
  reply. -/
  direct : ∀ (service : Service) (call : Call), service.number = number →
    k.Means args service call → k.perform (.serve number args) = replying <$>
      k.perform call

/-! ### Refusals -/

theorem lt_of_names {index : Nat} (h : k.Names handle index) : index < 256 := by
  cases handle with
  | task | mutex | queue =>
      obtain ⟨id, rfl, -⟩ := h
      exact Nat.lt_trans id.isLt (by decide)

/-- A lookup fails on what is the index of no object. -/
theorem named_eq_error {n : Nat} {found : Fin n → Bool} {error : Error}
    (h : ¬∃ id : Fin n, id.val = raw.toNat ∧ found id = true) :
    (if hslot : raw.toNat < n then
      if found ⟨raw.toNat, hslot⟩ then .ok ⟨raw.toNat, hslot⟩ else .error error
    else .error error : Except Error (Fin n)) = .error error := by
  split
  · rename_i hslot
    exact if_neg fun hfound => h ⟨⟨raw.toNat, hslot⟩, rfl, hfound⟩
  · rfl

theorem perform_of_not_names (hhandle : service.handle? = some handle)
    (h : ¬k.Names handle args.first.toNat) :
    k.perform (.serve service.number args) = .ok (.invalid, k) := by
  simp only [perform, serve, Service.ofNumber_number]
  cases service with
  | delay | createMutex | createQueue | finish | self => cases hhandle
  | acquire | release =>
      cases hhandle
      have hnone : k.mutexNamed args.first = .error .unknownMutex :=
        named_eq_error h
      rw [serviceReply, hnone]
      rfl
  | send | receive =>
      cases hhandle
      have hnone : k.queueNamed args.first = .error .unknownQueue :=
        named_eq_error h
      rw [serviceReply, hnone]
      rfl
  | suspend | resume =>
      cases hhandle
      have hnone : k.taskNamed args.first = .error .unknownTask :=
        named_eq_error h
      rw [serviceReply, hnone]
      rfl

theorem perform_of_unknown (h : ∀ service : Service, service.number ≠ number) :
    k.perform (.serve number args) = .ok (.invalid, k) := by
  have hnone : (Service.all.find? fun service => service.number == number) =
      none := by
    rw [List.find?_eq_none]
    intro service _ hnumber
    exact h service (beq_iff_eq.mp hnumber)
  simp only [perform, serve, Service.ofNumber, hnone]
  rfl

/-! ### Calls -/

theorem toUInt32_eq_of_toNat {word : UInt32}
    (h : word.toNat = raw.toNat % UInt32.size) :
    raw.toUInt32 = word :=
  UInt32.toNat_inj.mp ((UInt64.toNat_toUInt32 raw).trans h.symm)

theorem slot_eq {n : Nat} {id : Fin n} (hid : id.val = raw.toNat)
    (named : Fin n → Call) :
    (if hslot : raw.toNat < n then some (named ⟨raw.toNat, hslot⟩) else none) =
      some (named id) := by
  have hslot : raw.toNat < n := hid ▸ id.isLt
  have heq : ⟨raw.toNat, hslot⟩ = id := Fin.ext hid.symm
  rw [dif_pos hslot, heq]

theorem Means.ofService_eq (h : k.Means args service call) :
    Call.ofService service.number args = some call := by
  simp only [Call.ofService, Service.ofNumber_number]
  cases h with
  | createMutex | createQueue | finish => rfl
  | delay hticks => rw [toUInt32_eq_of_toNat hticks]
  | acquire hid _ hticks =>
      rw [toUInt32_eq_of_toNat hticks]
      exact slot_eq hid fun id => .acquire id _
  | release hid => exact slot_eq hid .release
  | send hid _ hticks =>
      rw [toUInt32_eq_of_toNat hticks]
      exact slot_eq hid fun id => .send id _ _
  | receive hid _ hticks =>
      rw [toUInt32_eq_of_toNat hticks]
      exact slot_eq hid fun id => .receive id _
  | suspend hid => exact slot_eq hid .suspend
  | resume hid => exact slot_eq hid .resume

/-- A service other than the question who is running finds the object that it
needs and stands for a call, or it does not find it. -/
theorem exists_means (k : Kernel) (args : Arguments) (hself : service ≠ .self) :
    (∃ handle, service.handle? = some handle ∧
      ¬k.Names handle args.first.toNat) ∨
      ∃ call, k.Means args service call := by
  have hlow (register : UInt64) : register.toUInt32.toNat =
      register.toNat % UInt32.size :=
    UInt64.toNat_toUInt32 register
  by_cases hnames : ∃ handle, service.handle? = some handle ∧
    ¬k.Names handle args.first.toNat
  · exact Or.inl hnames
  · right
    have hfound : ∀ handle, service.handle? = some handle →
        k.Names handle args.first.toNat :=
      fun handle hhandle => Classical.byContradiction fun hnone =>
        hnames ⟨handle, hhandle, hnone⟩
    cases service with
    | delay => exact ⟨_, .delay (hlow _)⟩
    | createMutex => exact ⟨_, .createMutex⟩
    | createQueue => exact ⟨_, .createQueue⟩
    | finish => exact ⟨_, .finish⟩
    | self => exact absurd rfl hself
    | acquire =>
        obtain ⟨id, hid, hcreated⟩ := hfound .mutex rfl
        exact ⟨_, .acquire hid hcreated (hlow _)⟩
    | release =>
        obtain ⟨id, hid, hcreated⟩ := hfound .mutex rfl
        exact ⟨_, .release hid hcreated⟩
    | send =>
        obtain ⟨id, hid, hcreated⟩ := hfound .queue rfl
        exact ⟨_, .send hid hcreated (hlow _)⟩
    | receive =>
        obtain ⟨id, hid, hcreated⟩ := hfound .queue rfl
        exact ⟨_, .receive hid hcreated (hlow _)⟩
    | suspend =>
        obtain ⟨id, hid, hregistered⟩ := hfound .task rfl
        exact ⟨_, .suspend hid hregistered⟩
    | resume =>
        obtain ⟨id, hid, hregistered⟩ := hfound .task rfl
        exact ⟨_, .resume hid hregistered⟩

theorem perform_self (k : Kernel) (args : Arguments) :
    k.perform (.serve Service.self.number args) =
      .ok (.reply (Reply.ofResult (match k.running with
        | some id => .ok (UInt64.ofNat id.val)
        | none => .error .notRunning)), k) := by
  simp only [perform, serve, Service.ofNumber_number, serviceReply, selfReply]
  cases k.running <;> rfl

/-- Every kernel responds to every number and any registers. -/
theorem responds (k : Kernel) (number : UInt32) (args : Arguments) :
    k.Responds number args := by
  refine ⟨perform_of_unknown, ?_, ?_, ?_, ?_, ?_⟩
  · rintro rfl
    exact perform_self k args
  · intro service _ hself
    exact exists_means k args hself
  · rintro service handle rfl hhandle hnone
    exact perform_of_not_names hhandle hnone
  · rintro service rfl hsome hwide
    obtain ⟨handle, hhandle⟩ := Option.isSome_iff_exists.mp hsome
    exact perform_of_not_names hhandle fun hnames =>
      absurd (lt_of_names hnames) (Nat.not_lt.mpr hwide)
  · rintro service call rfl hmeans
    exact perform_serve hmeans.ofService_eq

end Kernel

namespace Witness

/-- The running task is suspended by its index, but not by a number with this
low byte. -/
example :
    runningAfter (equals ++ [.serve 8 ⟨0x001, 0, 0⟩, .switchOver]) = some 2 ∧
      runningAfter (equals ++ [.serve 8 ⟨0x101, 0, 0⟩, .switchOver]) =
        some 1 := by
  decide +kernel

end Witness

end TickKernel
