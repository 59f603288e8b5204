/-
Service calls: the kernel's calls as a task makes them, by number and with
three register-wide arguments.  Handles are looked up at full width before they
become slots, ticks are the low half of their argument, and the result comes
back as a reply.
-/
import TickKernel.Kernel.Mutex
import TickKernel.Kernel.Queue

namespace TickKernel

inductive Service where
  | delay
  | createMutex
  | acquire
  | release
  | createQueue
  | send
  | receive
  | suspend
  | resume
  | finish
  | self
deriving DecidableEq, Repr

namespace Service

def number : Service → UInt32
  | delay => 1
  | createMutex => 2
  | acquire => 3
  | release => 4
  | createQueue => 5
  | send => 6
  | receive => 7
  | suspend => 8
  | resume => 9
  | finish => 10
  | self => 11

def all : List Service :=
  [delay, createMutex, acquire, release, createQueue, send, receive, suspend,
    resume, finish, self]

def ofNumber (number : UInt32) : Except Error Service :=
  match all.find? fun service => service.number == number with
  | some service => .ok service
  | none => .error .unknownService

@[simp] theorem ofNumber_number (service : Service) :
    ofNumber service.number = .ok service := by
  cases service <;> rfl

end Service

structure Arguments where
  first : UInt64
  second : UInt64
  third : UInt64
deriving DecidableEq, Repr

namespace Kernel

/-- The registered task that a register names. -/
def taskNamed (k : Kernel) (raw : UInt64) : Except Error TaskId :=
  if h : raw.toNat < maxTasks then
    if k.isRegistered ⟨raw.toNat, h⟩ then .ok ⟨raw.toNat, h⟩
    else .error .unknownTask
  else .error .unknownTask

def mutexNamed (k : Kernel) (raw : UInt64) : Except Error MutexId :=
  if h : raw.toNat < maxMutexes then
    if k.hasMutex ⟨raw.toNat, h⟩ then .ok ⟨raw.toNat, h⟩
    else .error .unknownMutex
  else .error .unknownMutex

def queueNamed (k : Kernel) (raw : UInt64) : Except Error QueueId :=
  if h : raw.toNat < maxQueues then
    if k.hasQueue ⟨raw.toNat, h⟩ then .ok ⟨raw.toNat, h⟩
    else .error .unknownQueue
  else .error .unknownQueue

/-- Go on with the slot that a register names, or refuse the call. -/
def withHandle {α β : Type} (k : Kernel) (handle : Except Error α)
    (call : α → Except Halt (Verdict β)) : Except Halt (Verdict β) :=
  match handle with
  | .error error => .ok (k.refuse error)
  | .ok id => call id

/-- The value of a call that has nothing to tell is zero. -/
def unitReply (verdict : Verdict Unit) : Reply × Kernel :=
  (Reply.ofResult (verdict.1.map fun _ => 0), verdict.2)

/-- The value of a call that creates an object is its slot. -/
def slotReply {n : Nat} (verdict : Verdict (Fin n)) : Reply × Kernel :=
  (Reply.ofResult (verdict.1.map fun id => UInt64.ofNat id.val), verdict.2)

def messageReply (verdict : Verdict Message) : Reply × Kernel :=
  (Reply.ofResult verdict.1, verdict.2)

def selfReply (k : Kernel) : Reply :=
  match k.running with
  | some id => Reply.ok (UInt64.ofNat id.val)
  | none => Reply.err Error.notRunning.status

def serviceReply (k : Kernel) (service : Service) (args : Arguments) :
    Except Halt (Reply × Kernel) :=
  match service with
  | .delay => unitReply <$> k.delay args.first.toUInt32
  | .createMutex => .ok (slotReply k.createMutex)
  | .acquire =>
      unitReply <$> k.withHandle (k.mutexNamed args.first) fun id =>
        k.acquire id args.second.toUInt32
  | .release =>
      unitReply <$> k.withHandle (k.mutexNamed args.first) fun id =>
        k.release id
  | .createQueue => .ok (slotReply (k.createQueue args.first))
  | .send =>
      unitReply <$> k.withHandle (k.queueNamed args.first) fun id =>
        k.send id args.second args.third.toUInt32
  | .receive =>
      messageReply <$> k.withHandle (k.queueNamed args.first) fun id =>
        k.receive id args.second.toUInt32
  | .suspend =>
      unitReply <$> k.withHandle (k.taskNamed args.first) fun id => k.suspend id
  | .resume =>
      unitReply <$> k.withHandle (k.taskNamed args.first) fun id => k.resume id
  | .finish => (fun k => (Reply.done, k)) <$> k.finish
  | .self => .ok (k.selfReply, k)

/-- Carry out the service of a number; no other number does anything. -/
def serve (k : Kernel) (number : UInt32) (args : Arguments) :
    Except Halt (Reply × Kernel) :=
  match Service.ofNumber number with
  | .error error => .ok (Reply.err error.status, k)
  | .ok service => k.serviceReply service args

end Kernel

end TickKernel
