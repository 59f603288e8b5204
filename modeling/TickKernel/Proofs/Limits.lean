/-
Timeouts that are too long.  Deadlines are compared over half the range of the
clock, so every call that may wait refuses a longer timeout, whether or not it
would have to wait.  A service reads its timeout from a register twice as wide
and looks at the low half only: a timeout whose low half is in range is taken
for that half, however long it is.
-/
import TickKernel.Proofs.Blocking
import TickKernel.Proofs.Shapes

namespace TickKernel

/-- The register that carries the timeout of a service that may wait. -/
def Service.patience? (args : Arguments) : Service → Option UInt64
  | .delay => some args.first
  | .acquire | .receive => some args.second
  | .send => some args.third
  | _ => none

/-- The registers of a service with the low half of its timeout alone. -/
def Service.narrowed (args : Arguments) : Service → Arguments
  | .delay => { args with first := args.first.toUInt32.toUInt64 }
  | .acquire | .receive => { args with second := args.second.toUInt32.toUInt64 }
  | .send => { args with third := args.third.toUInt32.toUInt64 }
  | _ => args

namespace Call

/-- The timeout of a call that may wait, as wide as its caller hands it over. -/
def patience? : Call → Option UInt64
  | .delay timeout | .acquire _ timeout | .send _ _ timeout | .receive _
    timeout =>
      some timeout.toUInt64
  | .serve number args =>
      match Service.ofNumber number with
      | .error _ => none
      | .ok service => service.patience? args
  | _ => none

/-- The call with the low half of its timeout alone. -/
def narrowed : Call → Call
  | .serve number args =>
      match Service.ofNumber number with
      | .error _ => .serve number args
      | .ok service => .serve number (service.narrowed args)
  | call => call

/-- How a call that may wait reports an error. -/
def refusal (error : Error) : Call → Answer
  | .receive _ _ => .message (.error error)
  | .serve _ _ => .reply (Reply.err error.status)
  | _ => .unit (.error error)

end Call

theorem Tick.acceptTimeout_of_lt {timeout : Tick}
    (h : Tick.maxTimeout < timeout) :
    Tick.acceptTimeout timeout = .error .invalid :=
  if_pos h

namespace Kernel

variable {k : Kernel} {timeout : Tick}

theorem delay_of_lt (hstarted : k.phase = .started)
    (h : Tick.maxTimeout < timeout) :
    k.delay timeout = .ok (k.refuse .invalid) := by
  simp [delay, hstarted, Tick.acceptTimeout_of_lt h, pure, Except.pure]

theorem acquire_of_lt {id : MutexId} (hmutex : k.hasMutex id = true)
    (h : Tick.maxTimeout < timeout) :
    k.acquire id timeout = .ok (k.refuse .invalid) := by
  simp [acquire, hmutex, Tick.acceptTimeout_of_lt h, pure, Except.pure]

theorem send_of_lt {id : QueueId} {message : Message}
    (hqueue : k.hasQueue id = true) (h : Tick.maxTimeout < timeout) :
    k.send id message timeout = .ok (k.refuse .invalid) := by
  simp [send, hqueue, Tick.acceptTimeout_of_lt h, pure, Except.pure]

theorem receive_of_lt {id : QueueId} (hqueue : k.hasQueue id = true)
    (h : Tick.maxTimeout < timeout) :
    k.receive id timeout = .ok (k.refuse .invalid) := by
  simp [receive, hqueue, Tick.acceptTimeout_of_lt h, pure, Except.pure]

/-! ### Services -/

theorem mutexNamed_cases (k : Kernel) (raw : UInt64) :
    k.mutexNamed raw = .error .unknownMutex ∨
      ∃ id, k.mutexNamed raw = .ok id ∧ k.hasMutex id = true := by
  unfold mutexNamed
  split
  · split
    · exact Or.inr ⟨_, rfl, ‹_›⟩
    · exact Or.inl rfl
  · exact Or.inl rfl

theorem queueNamed_cases (k : Kernel) (raw : UInt64) :
    k.queueNamed raw = .error .unknownQueue ∨
      ∃ id, k.queueNamed raw = .ok id ∧ k.hasQueue id = true := by
  unfold queueNamed
  split
  · split
    · exact Or.inr ⟨_, rfl, ‹_›⟩
    · exact Or.inl rfl
  · exact Or.inl rfl

/-- A service refuses a timeout whose low half is too long.  A handle that names
nothing is an error of the same class. -/
theorem serviceReply_of_lt {service : Service} {args : Arguments}
    {timeout : UInt64} (hstarted : k.phase = .started)
    (htimeout : service.patience? args = some timeout)
    (h : Tick.maxTimeout < timeout.toUInt32) :
    k.serviceReply service args = .ok (Reply.err .invalid, k) := by
  cases service with
  | delay =>
      cases htimeout
      simp only [serviceReply, delay_of_lt hstarted h]
      rfl
  | acquire =>
      cases htimeout
      rcases k.mutexNamed_cases args.first with hnone | ⟨id, hid, hmutex⟩
      · simp only [serviceReply, hnone]
        rfl
      · simp only [serviceReply, hid, withHandle, acquire_of_lt hmutex h]
        rfl
  | send =>
      cases htimeout
      rcases k.queueNamed_cases args.first with hnone | ⟨id, hid, hqueue⟩
      · simp only [serviceReply, hnone]
        rfl
      · simp only [serviceReply, hid, withHandle, send_of_lt hqueue h]
        rfl
  | receive =>
      cases htimeout
      rcases k.queueNamed_cases args.first with hnone | ⟨id, hid, hqueue⟩
      · simp only [serviceReply, hnone]
        rfl
      · simp only [serviceReply, hid, withHandle, receive_of_lt hqueue h]
        rfl
  | createMutex | release | createQueue | suspend | resume | finish | self =>
      cases htimeout

theorem perform_serve_of_lt {number : UInt32} {args : Arguments}
    {timeout : UInt64} (hstarted : k.phase = .started)
    (htimeout : (Call.serve number args).patience? = some timeout)
    (h : Tick.maxTimeout < timeout.toUInt32) :
    k.perform (.serve number args) = .ok (.reply (Reply.err .invalid), k) := by
  simp only [Call.patience?] at htimeout
  split at htimeout
  · cases htimeout
  · rename_i service hservice
    simp only [perform, serve, hservice, serviceReply_of_lt hstarted htimeout h]
    rfl

/-- No service looks at the high half of its timeout. -/
theorem perform_narrowed (k : Kernel) (call : Call) :
    k.perform call.narrowed = k.perform call := by
  cases call with
  | serve number args =>
      simp only [Call.narrowed]
      split
      · rfl
      · rename_i service hservice
        simp only [perform, serve, hservice]
        cases service <;>
          simp only [serviceReply, Service.narrowed, UInt32.toUInt32_toUInt64]
  | _ => rfl

/-- Every call that may wait refuses a timeout whose low half cannot be
represented, and changes nothing; and the low half is all that it looks at. -/
theorem perform_overlong {call : Call} {timeout : UInt64}
    (hstarted : k.phase = .started)
    (hhandle : ∀ resource, call.object = some resource → k.has resource = true)
    (htimeout : call.patience? = some timeout) :
    (Tick.maxTimeout < timeout.toUInt32 →
      k.perform call = .ok (call.refusal .invalid, k)) ∧
    k.perform call.narrowed = k.perform call := by
  refine ⟨fun h => ?_, perform_narrowed k call⟩
  cases call with
  | serve number args => exact perform_serve_of_lt hstarted htimeout h
  | delay ticks =>
      cases htimeout
      rw [UInt32.toUInt32_toUInt64] at h
      simp only [perform, delay_of_lt hstarted h]
      rfl
  | acquire id ticks =>
      cases htimeout
      rw [UInt32.toUInt32_toUInt64] at h
      simp only [perform, acquire_of_lt (hhandle _ rfl) h]
      rfl
  | send id message ticks =>
      cases htimeout
      rw [UInt32.toUInt32_toUInt64] at h
      simp only [perform, send_of_lt (hhandle _ rfl) h]
      rfl
  | receive id ticks =>
      cases htimeout
      rw [UInt32.toUInt32_toUInt64] at h
      simp only [perform, receive_of_lt (hhandle _ rfl) h]
      rfl
  | _ => cases htimeout

end Kernel

namespace Witness

/-- Task A may run, and there is a queue with room in it. -/
def roomy : List Call :=
  trio ++ [.createQueue 1]

/-- Even a message for which there is room is refused with a timeout that is too
long. -/
theorem perform_overlong_roomy :
    (history roomy).2.phase = .started ∧
      (∀ resource, (Call.send box 7 0x80000000).object = some resource →
        (history roomy).2.has resource = true) ∧
      (Call.send box 7 0x80000000).patience? = some 0x80000000 ∧
      (history roomy).2.perform (.send box 7 0x80000000) =
        .ok (.unit (.error .invalid), (history roomy).2) := by
  have hstarted : (history roomy).2.phase = .started := by decide +kernel
  have hhandle : ∀ resource,
      (Call.send box 7 0x80000000).object = some resource →
      (history roomy).2.has resource = true := by
    rintro _ ⟨⟩
    decide +kernel
  exact ⟨hstarted, hhandle, rfl,
    (Kernel.perform_overlong hstarted hhandle rfl).1 (by decide)⟩

/-- A service that is asked to wait for 2³² + 5 ticks waits for 5 of them: at
full width a timeout that is too long is not always refused. -/
theorem not_refused_at_full_width :
    ¬∀ (k : Kernel) (call : Call) (timeout : UInt64), Reachable k →
      k.phase = .started →
      (∀ resource, call.direct.object = some resource → k.has resource = true) →
      call.patience? = some timeout → Tick.maxTimeout.toUInt64 < timeout →
      k.perform call = .ok (call.refusal .invalid, k) := by
  intro hrefused
  have hreachable : Reachable (history trio).2 :=
    reachable_iff_exists_run.mpr ⟨_, run_history trio⟩
  have hservice : (history trio).2.perform (.serve 1 ⟨0x100000005, 0, 0⟩) =
      .ok (.reply (Reply.err .invalid), (history trio).2) :=
    hrefused _ (.serve 1 ⟨0x100000005, 0, 0⟩) _ hreachable (by decide +kernel)
      (fun _ hnone => by cases hnone) rfl (by decide)
  have hasleep : ((history trio).2.perform (.serve 1 ⟨0x100000005, 0, 0⟩)).map
      (fun performed => performed.2.waitingIds) = .ok [taskA] := by
    decide +kernel
  rw [hservice] at hasleep
  revert hasleep
  decide +kernel

end Witness

end TickKernel
