/-
A service is a call of the kernel made by number.  `Call.ofService` reads a
number and three registers as a call, and carrying out the service is carrying
out that call and answering with a reply.  Numbers and registers that name
nothing leave the kernel as it is.
-/
import TickKernel.Kernel.Call

namespace TickKernel

/-! ### Services as calls -/

/-- The call that a service number and its registers stand for.  A handle that
no slot has stands for none, and neither does asking for the running task. -/
def Call.ofService (number : UInt32) (args : Arguments) : Option Call :=
  match Service.ofNumber number with
  | .error _ => none
  | .ok .delay => some (.delay args.first.toUInt32)
  | .ok .createMutex => some .createMutex
  | .ok .acquire =>
      if h : args.first.toNat < maxMutexes then
        some (.acquire ⟨args.first.toNat, h⟩ args.second.toUInt32)
      else none
  | .ok .release =>
      if h : args.first.toNat < maxMutexes then some
        (.release ⟨args.first.toNat, h⟩)
      else none
  | .ok .createQueue => some (.createQueue args.first)
  | .ok .send =>
      if h : args.first.toNat < maxQueues then
        some (.send ⟨args.first.toNat, h⟩ args.second args.third.toUInt32)
      else none
  | .ok .receive =>
      if h : args.first.toNat < maxQueues then
        some (.receive ⟨args.first.toNat, h⟩ args.second.toUInt32)
      else none
  | .ok .suspend =>
      if h : args.first.toNat < maxTasks then some
        (.suspend ⟨args.first.toNat, h⟩)
      else none
  | .ok .resume =>
      if h : args.first.toNat < maxTasks then some
        (.resume ⟨args.first.toNat, h⟩)
      else none
  | .ok .finish => some .finish
  | .ok .self => none

/-- A call with the detour over its number left out. -/
def Call.direct : Call → Call
  | .serve number args => (Call.ofService number args).getD (.serve number args)
  | call => call

/-- Whether some service stands for the call. -/
def Call.isService : Call → Bool
  | .delay _ | .createMutex | .acquire _ _ | .release _ | .createQueue
      _ | .send _ _ _
  | .receive _ _ | .suspend _ | .resume _ | .finish => true
  | _ => false

theorem Call.isService_of_ofService {number : UInt32} {args : Arguments}
    {call : Call} (h : Call.ofService number args = some call) :
    call.isService = true := by
  unfold Call.ofService at h
  split at h <;> (try split at h) <;> cases h <;> rfl

/-- No service stands for asking for a service. -/
theorem Call.ofService_ne_serve {number : UInt32} {args : Arguments}
    {call : Call} (h : Call.ofService number args = some call) (other : UInt32)
    (others : Arguments) :
    call ≠ .serve other others := by
  rintro rfl
  cases Call.isService_of_ofService h

theorem Call.direct_ofService {number : UInt32} {args : Arguments} {call : Call}
    (h : Call.ofService number args = some call) : call.direct = call := by
  cases call with
  | serve other others =>
      exact absurd rfl (Call.ofService_ne_serve h other others)
  | _ => rfl

theorem Call.direct_eq_self {call : Call} (h : call.direct.isService = false) :
    call.direct = call := by
  cases call with
  | serve number args =>
      cases hcall : Call.ofService number args with
      | none => simp only [direct, hcall, Option.getD_none]
      | some call =>
          simp only [direct, hcall, Option.getD_some,
            Call.isService_of_ofService hcall] at h
          cases h
  | _ => rfl

/-- An answer as the two registers of a reply carry it. -/
def Answer.toReply : Answer → Reply
  | .nothing | .flag _ | .frame _ => Reply.done
  | .reply carried => carried
  | .unit result => Reply.ofResult (result.map fun _ => 0)
  | .task result => Reply.ofResult (result.map fun id => UInt64.ofNat id.val)
  | .mutex result => Reply.ofResult (result.map fun id => UInt64.ofNat id.val)
  | .queue result => Reply.ofResult (result.map fun id => UInt64.ofNat id.val)
  | .message result => Reply.ofResult result

/-- A call answered with a reply. -/
def replying (performed : Answer × Kernel) : Answer × Kernel :=
  (.reply performed.1.toReply, performed.2)

namespace Kernel

variable {α β : Type} {k : Kernel}

/-- A handle that names a slot leads to the call or to its refusal. -/
theorem withHandle_eq {handle : Except Error α} {id : α} {created : Bool}
    {error : Error} {call : α → Except Halt (Verdict β)}
    (hhandle : handle = if created then .ok id else .error error)
    (hrefused : created = false → call id = .ok (k.refuse error)) :
    k.withHandle handle call = call id := by
  subst hhandle
  cases created with
  | true => rfl
  | false => exact (hrefused rfl).symm

theorem mutexNamed_eq (k : Kernel) {raw : UInt64} (h : raw.toNat < maxMutexes) :
    k.mutexNamed raw = if k.hasMutex ⟨raw.toNat, h⟩ then .ok ⟨raw.toNat, h⟩
      else .error .unknownMutex :=
  dif_pos h

theorem queueNamed_eq (k : Kernel) {raw : UInt64} (h : raw.toNat < maxQueues) :
    k.queueNamed raw = if k.hasQueue ⟨raw.toNat, h⟩ then .ok ⟨raw.toNat, h⟩
      else .error .unknownQueue :=
  dif_pos h

theorem taskNamed_eq (k : Kernel) {raw : UInt64} (h : raw.toNat < maxTasks) :
    k.taskNamed raw = if k.isRegistered ⟨raw.toNat, h⟩ then .ok ⟨raw.toNat, h⟩
      else .error .unknownTask :=
  dif_pos h

theorem map_unitReply (result : Except Halt (Verdict Unit)) :
    (fun served => (Answer.reply served.1, served.2)) <$> unitReply <$> result =
      replying <$> answering .unit <$> result := by
  cases result <;> rfl

theorem map_messageReply (result : Except Halt (Verdict Message)) :
    (fun served => (Answer.reply served.1, served.2)) <$> messageReply <$>
      result =
      replying <$> answering .message <$> result := by
  cases result <;> rfl

/-- Carrying out a service is carrying out its call. -/
theorem perform_serve {number : UInt32} {args : Arguments} {call : Call}
    (h : Call.ofService number args = some call) :
    k.perform (.serve number args) = replying <$> k.perform call := by
  unfold Call.ofService at h
  simp only [perform, serve]
  cases hservice : Service.ofNumber number with
  | error error =>
      rw [hservice] at h
      cases h
  | ok service =>
      rw [hservice] at h
      cases service with
      | delay =>
          cases h
          exact map_unitReply _
      | createMutex =>
          cases h
          rfl
      | acquire | release =>
          dsimp only at h
          split at h
          · rename_i hslot
            cases h
            simp only [serviceReply]
            rw [withHandle_eq (k.mutexNamed_eq hslot) fun hnone => by
              simp [acquire, release, hnone]; rfl]
            exact map_unitReply _
          · cases h
      | createQueue =>
          cases h
          rfl
      | send =>
          dsimp only at h
          split at h
          · rename_i hslot
            cases h
            simp only [serviceReply]
            rw [withHandle_eq (k.queueNamed_eq hslot) fun hnone => by
              simp [send, hnone]; rfl]
            exact map_unitReply _
          · cases h
      | receive =>
          dsimp only at h
          split at h
          · rename_i hslot
            cases h
            simp only [serviceReply]
            rw [withHandle_eq (k.queueNamed_eq hslot) fun hnone => by
              simp [receive, hnone]; rfl]
            exact map_messageReply _
          · cases h
      | suspend | resume =>
          dsimp only at h
          split at h
          · rename_i hslot
            cases h
            simp only [serviceReply]
            rw [withHandle_eq (k.taskNamed_eq hslot) fun hnone => by
              simp [suspend, resume, hnone]; rfl]
            exact map_unitReply _
          · cases h
      | finish =>
          cases h
          simp only [serviceReply]
          cases k.finish <;> rfl
      | self => cases h

/-- What stands for no call is refused, or only asks who is running. -/
theorem perform_unserved {number : UInt32} {args : Arguments}
    (h : Call.ofService number args = none) :
    ∃ reply : Option TaskId → Reply, ∀ k : Kernel,
      k.perform (.serve number args) = .ok (.reply (reply k.running), k) := by
  have hmutex : ¬args.first.toNat < maxMutexes → ∀ k : Kernel,
      k.mutexNamed args.first = .error .unknownMutex :=
      fun hslot _ => dif_neg hslot
  have hqueue : ¬args.first.toNat < maxQueues → ∀ k : Kernel,
      k.queueNamed args.first = .error .unknownQueue :=
      fun hslot _ => dif_neg hslot
  have htask : ¬args.first.toNat < maxTasks → ∀ k : Kernel,
      k.taskNamed args.first = .error .unknownTask :=
      fun hslot _ => dif_neg hslot
  unfold Call.ofService at h
  simp only [perform, serve]
  cases hservice : Service.ofNumber number with
  | error error => exact ⟨fun _ => Reply.err error.status, fun _ => rfl⟩
  | ok service =>
      rw [hservice] at h
      cases service with
      | delay | createMutex | createQueue | finish => cases h
      | acquire | release =>
          dsimp only at h
          split at h
          · cases h
          · refine ⟨fun _ => Reply.ofResult (.error .unknownMutex), fun k => ?_⟩
            simp only [serviceReply]
            rw [hmutex ‹_›]
            rfl
      | send | receive =>
          dsimp only at h
          split at h
          · cases h
          · refine ⟨fun _ => Reply.ofResult (.error .unknownQueue), fun k => ?_⟩
            simp only [serviceReply]
            rw [hqueue ‹_›]
            rfl
      | suspend | resume =>
          dsimp only at h
          split at h
          · cases h
          · refine ⟨fun _ => Reply.ofResult (.error .unknownTask), fun k => ?_⟩
            simp only [serviceReply]
            rw [htask ‹_›]
            rfl
      | self =>
          refine ⟨fun running =>
            running.elim (Reply.err Error.notRunning.status) fun id =>
            Reply.ok (UInt64.ofNat id.val), fun k => ?_⟩
          simp only [serviceReply, selfReply]
          cases k.running <;> rfl

theorem perform_serve_of_none {number : UInt32} {args : Arguments}
    (h : Call.ofService number args = none) :
    ∃ reply, k.perform (.serve number args) = .ok (.reply reply, k) := by
  obtain ⟨reply, hperform⟩ := perform_unserved h
  exact ⟨reply k.running, hperform k⟩

end Kernel

end TickKernel
