/-
Messages are opaque.  Two histories from new kernels that differ only in the
messages sent go the same way: every call answers the same, but for the messages
received, or stops the machine for the same reason, and the kernels are twins
all the time, so that what one history has in some place was sent by the same
call as what the other has there.
-/
import TickKernel.Proofs.Likewise
import TickKernel.Proofs.Wraparound

namespace TickKernel

/-! ### Histories that differ in messages -/

namespace Call

/-- The message that a call sends. -/
def message? : Call → Option Message
  | .send _ message _ => some message
  | .serve number args =>
      match Service.ofNumber number with
      | .ok .send => some args.second
      | _ => none
  | _ => none

/-- Whether the call receives messages. -/
def receives : Call → Bool
  | .receive _ _ => true
  | .serve number _ =>
      match Service.ofNumber number with
      | .ok .receive => true
      | _ => false
  | _ => false

/-- The same call, but for the message sent. -/
inductive Twins (R : Message → Message → Prop) : Call → Call → Prop
  | same {call : Call} (h : call.message? = none) : Twins R call call
  | send (id : QueueId) (timeout : Tick) {message message' : Message}
      (h : R message message') :
      Twins R (.send id message timeout) (.send id message' timeout)
  | serve {number : UInt32} (first third : UInt64) {message message' : Message}
      (hservice : Service.ofNumber number = .ok .send)
      (h : R message message') :
      Twins R (.serve number ⟨first, message, third⟩)
        (.serve number ⟨first, message', third⟩)

/-- The same call, whatever messages are sent. -/
def Rewords : Call → Call → Prop :=
  Twins fun _ _ => True

end Call

/-- Messages that the same call sends in two histories. -/
def SentAlike (calls calls' : List Call) (message message' : Message) : Prop :=
  ∃ n : Nat, calls[n]?.bind Call.message? = some message ∧
    calls'[n]?.bind Call.message? = some message'

theorem Call.Twins.sentAlike {R : Message → Message → Prop} {call call' : Call}
    (h : call.Twins R call') {calls calls' : List Call} {n : Nat}
    (hcall : calls[n]? = some call) (hcall' : calls'[n]? = some call') :
    call.Twins (SentAlike calls calls') call' := by
  cases h with
  | same hnone => exact .same hnone
  | send id timeout =>
      refine .send id timeout ⟨n, ?_, ?_⟩
      · rw [hcall]
        rfl
      · rw [hcall']
        rfl
  | serve first third hservice =>
      refine .serve first third hservice ⟨n, ?_, ?_⟩
      · rw [hcall, Option.bind_some, Call.message?, hservice]
      · rw [hcall', Option.bind_some, Call.message?, hservice]

/-- The calls of two histories that differ only in messages send messages
alike. -/
theorem SentAlike.of_rewords {calls calls' : List Call}
    (h : List.Forall₂ Call.Rewords calls calls') :
    List.Forall₂ (Call.Twins (SentAlike calls calls')) calls calls' := by
  obtain ⟨hlength, hget⟩ := List.forall₂_iff_get.mp h
  refine List.forall₂_iff_get.mpr ⟨hlength, fun n hn hn' => ?_⟩
  exact (hget n hn hn').sentAlike (List.getElem?_eq_getElem hn)
    (List.getElem?_eq_getElem hn')

/-- The same answer, unless the call receives messages: then they are
related. -/
inductive Answer.Twins (R : Message → Message → Prop) (call : Call) :
    Answer → Answer → Prop
  | same (answer : Answer)
      (hcall : call.receives = false) : Answer.Twins R call answer answer
  | message {result result' : Except Error Message}
      (hcall : call.receives = true) (h : Fetched R result result') :
      Answer.Twins R call (.message result) (.message result')
  | reply {result result' : Except Error Message} (hcall : call.receives = true)
      (h : Fetched R result result') :
      Answer.Twins R call (.reply (Reply.ofResult result))
        (.reply (Reply.ofResult result'))

/-- Calls that answer the same, but for the message received, and leave
twins. -/
abbrev TwinAnswers (R : Message → Message → Prop) (call : Call) :
    Except Halt (Answer × Kernel) → Except Halt (Answer × Kernel) → Prop :=
  Mirrors R (Beside R (Answer.Twins R call))

section Answered

variable {β : Type} {R : Message → Message → Prop} {call : Call}

theorem Beside.toAnswer {result result' : β × Kernel}
    (h : Beside R Eq result result') (hcall : call.receives = false)
    (answer : β → Answer) :
    Beside R (Answer.Twins R call) (answer result.1,
      result.2) (answer result'.1, result'.2) := by
  refine ⟨?_, h.2⟩
  rw [h.1]
  exact .same _ hcall

theorem Mirrors.toAnswer {result result' : Except Halt (β × Kernel)}
    (h : TwinResults R result result') (hcall : call.receives = false)
    (answer : β → Answer) :
    TwinAnswers R call ((fun returned => (answer returned.1, returned.2)) <$>
      result)
      ((fun returned => (answer returned.1, returned.2)) <$> result') :=
  h.map fun _ _ hbeside => hbeside.toAnswer hcall answer

/-- A call that returns nothing answers nothing. -/
theorem Mirrors.toNothing {result result' : Except Halt Kernel}
    (h : TwinKernels R result result') (hcall : call.receives = false) :
    TwinAnswers R call ((fun k => (Answer.nothing, k)) <$> result)
      ((fun k => (Answer.nothing, k)) <$> result') :=
  h.map fun _ _ htwins => ⟨.same _ hcall, htwins⟩

end Answered

namespace Kernel

variable {R : Message → Message → Prop} {k k' : Kernel} {id : TaskId}

namespace Twins

/-! ### Services -/

theorem taskNamed_eq (h : k.Twins R k') (raw : UInt64) :
    k'.taskNamed raw = k.taskNamed raw := by
  simp only [taskNamed, h.isRegistered_eq]

theorem mutexNamed_eq (h : k.Twins R k') (raw : UInt64) :
    k'.mutexNamed raw = k.mutexNamed raw := by
  simp only [mutexNamed, h.hasMutex_eq]

theorem queueNamed_eq (h : k.Twins R k') (raw : UInt64) :
    k'.queueNamed raw = k.queueNamed raw := by
  simp only [queueNamed, h.hasQueue_eq]

theorem withHandle {β γ : Type} (h : k.Twins R k')
    {same : Except Error β → Except Error β → Prop}
    (hsame : ∀ error, same (.error error) (.error error))
    {handle handle' : Except Error γ} (hhandle : handle' = handle)
    {call call' : γ → Except Halt (Verdict β)}
    (hcall : ∀ id, Mirrors R (Beside R same) (call id) (call' id)) :
    Mirrors R (Beside R same) (k.withHandle handle call)
      (k'.withHandle handle' call') := by
  subst hhandle
  cases handle' with
  | error error => exact .ok ⟨hsame error, h⟩
  | ok id => exact hcall id

/-- A service that neither sends nor receives. -/
theorem serviceReply (h : k.Twins R k') {service : Service}
    (hsend : service ≠ .send)
    (hreceive : service ≠ .receive) (args : Arguments) :
    TwinResults R (k.serviceReply service args)
      (k'.serviceReply service args) := by
  have hunit : ∀ result result' : Except Halt (Verdict Unit),
      TwinResults R result result' →
      TwinResults R (unitReply <$> result) (unitReply <$> result') :=
    fun _ _ hresult => hresult.map fun verdict verdict' hbeside =>
      ⟨by rw [unitReply, hbeside.1, unitReply], hbeside.2⟩
  have hslot : ∀ {n : Nat} (verdict verdict' : Verdict (Fin n)),
      Beside R Eq verdict verdict' →
      TwinResults R (.ok (slotReply verdict)) (.ok (slotReply verdict')) :=
    fun verdict verdict' hbeside =>
      .ok ⟨by rw [slotReply, hbeside.1, slotReply], hbeside.2⟩
  cases service with
  | delay => exact hunit _ _ (h.delay _)
  | createMutex => exact hslot _ _ h.createMutex
  | acquire =>
      exact hunit _ _ (h.withHandle (fun _ => rfl) (h.mutexNamed_eq _) fun id =>
        h.acquire id _)
  | release =>
      exact hunit _ _
        (h.withHandle (fun _ => rfl) (h.mutexNamed_eq _) fun id => h.release id)
  | createQueue => exact hslot _ _ (h.createQueue _)
  | send => exact absurd rfl hsend
  | receive => exact absurd rfl hreceive
  | suspend =>
      exact hunit _ _
        (h.withHandle (fun _ => rfl) (h.taskNamed_eq _) fun id => h.suspend id)
  | resume =>
      exact hunit _ _
        (h.withHandle (fun _ => rfl) (h.taskNamed_eq _) fun id => h.resume id)
  | finish => exact h.finish.map fun _ _ htwins => ⟨rfl, htwins⟩
  | self =>
      refine .ok ⟨?_, h⟩
      unfold selfReply
      rw [h.running_eq]

theorem serve (h : k.Twins R k') (hsound : k.Sound) {number : UInt32}
    {args : Arguments} (hsend : (Call.serve number args).message? = none) :
    TwinAnswers R (.serve number args) (k.perform (.serve number args))
      (k'.perform (.serve number args)) := by
  simp only [Kernel.perform, Kernel.serve]
  cases hservice : Service.ofNumber number with
  | error error =>
      exact .ok ⟨.same _ (by rw [Call.receives, hservice]), h⟩
  | ok service =>
      by_cases hreceive : service = .receive
      · subst hreceive
        have hreceives : (Call.serve number args).receives = true := by
          rw [Call.receives, hservice]
        have hreceived :=
          h.withHandle .error (h.queueNamed_eq args.first) fun id =>
          h.receive hsound id args.second.toUInt32
        simp only [Kernel.serviceReply, Functor.map_map]
        exact hreceived.map fun _ _ hbeside =>
          ⟨.reply hreceives hbeside.1, hbeside.2⟩
      · refine (h.serviceReply ?_ hreceive args).toAnswer ?_ .reply
        · rintro rfl
          rw [Call.message?, hservice] at hsend
          cases hsend
        · rw [Call.receives, hservice]
          cases service <;> first | rfl | exact absurd rfl hreceive

/-! ### Histories -/

theorem poke (h : k.Twins R k') (id : TaskId) (index : Nat) (word : Word) :
    (k.poke id index word).Twins R (k'.poke id index word) :=
  h.modifyTask ((h.tasks id).putStack ((h.tasks id).stack.poke index word)
    Array.size_setIfInBounds) fun queue hwaits hside => h.stashed id queue
      hwaits hside

/-- A call answers the same, but for the message received. -/
theorem perform (h : k.Twins R k') (hsound : k.Sound) {call call' : Call}
    (hcall : call.Twins R call') (hswitch : ∀ saved, call ≠ .switchFrom saved) :
    TwinAnswers R call (k.perform call) (k'.perform call') := by
  cases hcall with
  | send id timeout hmessage =>
      exact (h.send hsound id hmessage timeout).toAnswer rfl .unit
  | @serve number first third message message' hservice hmessage =>
      have hreceives : (Call.serve number ⟨first, message, third⟩).receives =
          false := by
        rw [Call.receives, hservice]
      have hsent :=
        h.withHandle (fun _ => rfl) (h.queueNamed_eq first) fun id =>
        h.send hsound id hmessage third.toUInt32
      simp only [Kernel.perform, Kernel.serve, hservice, Kernel.serviceReply,
        Functor.map_map]
      exact hsent.toAnswer hreceives fun result =>
        .reply (Reply.ofResult (result.map fun _ => 0))
  | same hnone =>
      cases call with
      | setUp => exact .ok (h.setUp.toAnswer rfl .unit)
      | register spec => exact (h.register spec).toAnswer rfl .task
      | start => exact .ok (h.start.toAnswer rfl .unit)
      | tearDown => exact .ok ⟨.same _ rfl, h.tearDown⟩
      | advance ticks =>
          exact .ok ⟨.same _ rfl, h.update (fun k => { k with
            platform := k.platform.advance ticks }) fun _ _ _ => rfl⟩
      | setClock ticks =>
          exact .ok ⟨.same _ rfl,
            h.update (fun k => { k with platform.clock := ticks })
            fun _ _ _ => rfl⟩
      | setHooks setupFailure entryFailure =>
          exact .ok ⟨.same _ rfl, h.update (fun k => { k with
            platform.setupFailure := setupFailure
            platform.entryFailure := entryFailure }) fun _ _ _ => rfl⟩
      | tick | schedule => exact h.schedule.toNothing rfl
      | switchOver => exact .ok (h.switchOver.toAnswer rfl .flag)
      | beat => exact h.beat.toAnswer rfl .flag
      | switchFrom saved => exact absurd rfl (hswitch saved)
      | exitRoutine => exact .ok ⟨.same _ rfl, h⟩
      | delay ticks => exact (h.delay ticks).toAnswer rfl .unit
      | spin ticks => exact .ok ((h.spin ticks).toAnswer rfl .unit)
      | suspend id => exact (h.suspend id).toAnswer rfl .unit
      | resume id => exact (h.resume id).toAnswer rfl .unit
      | finish => exact h.finish.toNothing rfl
      | createMutex => exact .ok (h.createMutex.toAnswer rfl .mutex)
      | acquire id timeout => exact (h.acquire id timeout).toAnswer rfl .unit
      | release id => exact (h.release id).toAnswer rfl .unit
      | createQueue capacity =>
          exact .ok ((h.createQueue capacity).toAnswer rfl .queue)
      | send id message timeout => cases hnone
      | receive id timeout =>
          exact (h.receive hsound id timeout).map fun _ _ hbeside =>
            ⟨.message rfl hbeside.1, hbeside.2⟩
      | serve number args => exact h.serve hsound hnone
      | poke id index word => exact .ok ⟨.same _ rfl, h.poke id index word⟩

/-- Histories of related calls go the same way from twins. -/
theorem course (h : k.Twins R k') (hsound : k.Sound) {calls calls' : List Call}
    (hcalls : List.Forall₂ (Call.Twins R) calls calls')
    (hswitch : ∀ call ∈ calls, ∀ saved, call ≠ .switchFrom saved) {n : Nat}
    {call : Call} (hcall : calls[n]? = some call) :
    Option.Rel (TwinAnswers R call) (k.course calls)[n]?
      (k'.course calls')[n]? := by
  induction hcalls generalizing k k' n with
  | nil => cases hcall
  | @cons first first' rest rest' hfirst _ ih =>
      have hperformed :=
        h.perform hsound hfirst (hswitch first List.mem_cons_self)
      rw [Kernel.course, Kernel.course]
      cases n with
      | zero =>
          obtain rfl := Option.some.inj hcall
          exact .some hperformed
      | succ n =>
          generalize hresult : k.perform first = result at hperformed ⊢
          generalize k'.perform first' = result' at hperformed ⊢
          cases hperformed with
          | ok hbeside =>
              exact ih hbeside.2 (hsound.performs hresult).2
                (fun other hother =>
                  hswitch other (List.mem_cons_of_mem first hother)) hcall
          | halt => exact .none

end Twins

/-- What a call comes to depends on the calls up to it. -/
theorem course_take (k : Kernel) (calls : List Call) (n : Nat) :
    (k.course (calls.take (n + 1)))[n]? = (k.course calls)[n]? := by
  induction calls generalizing k n with
  | nil => rfl
  | cons call rest ih =>
      rw [List.take_succ_cons, course, course]
      cases n with
      | zero => rfl
      | succ n =>
          rw [List.getElem?_cons_succ, List.getElem?_cons_succ]
          cases k.perform call with
          | error stop => rfl
          | ok performed => exact ih performed.2 n

/-- Messages are opaque: two histories from new kernels on the same platform
that differ only in the messages sent go the same way.  Call by call both have
the same answer or the same fault, and kernels that are the same, but for
messages in corresponding places; and these were sent by the same call.  As one
of the two histories may number its messages, this tells for every place which
call its message comes from. -/
theorem course_reworded (platform : Platform) {calls calls' : List Call}
    (hcalls : List.Forall₂ Call.Rewords calls calls')
    (hswitch : ∀ call ∈ calls, ∀ saved, call ≠ .switchFrom saved) {n : Nat}
    {call : Call} (hcall : calls[n]? = some call) :
    Option.Rel
      (TwinAnswers (SentAlike (calls.take (n + 1)) (calls'.take (n + 1))) call)
      ((fresh platform).course calls)[n]?
      ((fresh platform).course calls')[n]? := by
  have hprefixes : List.Forall₂ Call.Rewords (calls.take (n + 1))
      (calls'.take (n + 1)) :=
    List.forall₂_take (n + 1) hcalls
  rw [← course_take _ calls, ← course_take _ calls']
  refine (twins_fresh platform).course (sound_fresh platform)
    (SentAlike.of_rewords hprefixes)
    (fun other hother => hswitch other (List.mem_of_mem_take hother)) ?_
  rw [List.getElem?_take_of_lt (Nat.lt_succ_self n), hcall]

end Kernel

namespace Witness

/-- Task A sends two messages, and has to wait with the second one until task B
has received the first. -/
def parcels (first second : Message) : List Call :=
  trio ++ [.createQueue 1, .send box first 0, .serve 6 ⟨0, second, 9⟩,
    .switchOver, .receive box 0, .serve 7 ⟨0, 0, 0⟩]

theorem parcels_reworded (first second first' second' : Message) :
    List.Forall₂ Call.Rewords (parcels first second)
      (parcels first' second') := by
  have htrio : List.Forall₂ Call.Rewords trio trio :=
    List.forall₂_same.mpr fun call hcall => .same ((by decide :
      ∀ call ∈ trio, call.message? = none) call hcall)
  exact List.rel_append htrio (.cons (.same rfl) (.cons (.send box 0 trivial)
    (.cons (.serve 0 9 rfl trivial) (.cons (.same rfl) (.cons (.same rfl)
      (.cons (.same rfl) .nil))))))

/-- What a history comes to with its call number `n`, if that is a reply. -/
def replyAt (n : Nat) (calls : List Call) : Option Reply :=
  match ((Kernel.fresh Platform.fresh).course calls)[n]? with
  | some (.ok (.reply reply, _)) => some reply
  | _ => none

/-- The messages look like an empty slot and like the guard of a stack. -/
theorem course_reworded_parcels :
    List.Forall₂ Call.Rewords (parcels 0 7) (parcels 0xDEADBEEF 0) ∧
      (∀ call ∈ parcels 0 7, ∀ saved, call ≠ .switchFrom saved) ∧
      (parcels 0 7)[11]? = some (.serve 7 ⟨0, 0, 0⟩) ∧
      replyAt 11 (parcels 0 7) = some (Reply.ok 7) ∧
      replyAt 11 (parcels 0xDEADBEEF 0) = some (Reply.ok 0) ∧
      Option.Rel
        (TwinAnswers
          (SentAlike ((parcels 0 7).take 12) ((parcels 0xDEADBEEF 0).take 12))
          (.serve 7 ⟨0, 0, 0⟩))
        ((Kernel.fresh Platform.fresh).course (parcels 0 7))[11]?
        ((Kernel.fresh Platform.fresh).course (parcels 0xDEADBEEF 0))[11]? :=
  ⟨parcels_reworded .., by simp [parcels, trio], rfl, by decide +kernel,
    by decide +kernel,
    Kernel.course_reworded Platform.fresh (parcels_reworded ..)
      (by simp [parcels, trio]) rfl⟩

end Witness

end TickKernel
