/-
The state of the kernel, and the small steps that its rules are made of.

A call can end in three ways: with a value, with an `Error` that its caller
sees and after which the kernel goes on, or with a `Fault` that stops the
machine.  The first two are a `Verdict`; the last one is the error side of an
`Except Halt`, so that no rule can go on after it by accident.
-/
import TickKernel.Platform
import TickKernel.Resource

namespace TickKernel

/-- How far the kernel has come. -/
inductive Phase where
  /-- New, or torn down. -/
  | blank
  /-- Ready to take tasks. -/
  | prepared
  /-- At least one task is registered. -/
  | populated
  /-- Scheduling. -/
  | started
deriving DecidableEq, Repr

/-- The number by which a phase is known outside the kernel. -/
def Phase.code : Phase → UInt8
  | blank => 1
  | prepared => 2
  | populated => 3
  | started => 4

structure Kernel where
  platform : Platform
  phase : Phase
  /-- How many slots of the task table are taken, from the first one on. -/
  taskCount : Nat
  idle : Option TaskId
  tasks : Pool Task maxTasks
  links : LinkFields maxTasks
  /-- Every registered task, newest first. -/
  all : Chain maxTasks
  /-- The runnable tasks, most urgent first. -/
  ready : Chain maxTasks
  /-- The waiting tasks, earliest deadline first. -/
  waiting : Chain maxTasks
  running : Option TaskId
  /-- The task that a requested switch will bring to the processor. -/
  scheduled : Option TaskId
  /-- How many slots of the mutex pool are taken, from the first one on. -/
  mutexCount : Nat
  mutexes : Pool Mutex maxMutexes
  /-- How many slots of the queue pool are taken, from the first one on. -/
  queueCount : Nat
  queues : Pool Queue maxQueues
deriving DecidableEq

/-- The machine has stopped: why, and in what state it was left. -/
structure Halt where
  fault : Fault
  kernel : Kernel
deriving DecidableEq

/-- A call's value or error, with the kernel as the call leaves it. -/
abbrev Verdict (α : Type) := Except Error α × Kernel

namespace Kernel

def fresh (platform : Platform) : Kernel where
  platform
  phase := .blank
  taskCount := 0
  idle := none
  tasks := Pool.filled maxTasks Task.vacant
  links := LinkFields.unlinked maxTasks
  all := Chain.empty
  ready := Chain.empty
  waiting := Chain.empty
  running := none
  scheduled := none
  mutexCount := 0
  mutexes := Pool.filled maxMutexes Mutex.free
  queueCount := 0
  queues := Pool.filled maxQueues (Queue.ofCapacity 0)

variable {α : Type}

/-! ### How a call ends -/

def accept (k : Kernel) (value : α) : Verdict α :=
  (.ok value, k)

def refuse (k : Kernel) (error : Error) : Verdict α :=
  (.error error, k)

def halt (k : Kernel) (fault : Fault) : Except Halt α :=
  .error ⟨fault, k⟩

/-- Stop the machine unless `condition` holds. -/
def require (k : Kernel) (condition : Bool) : Except Halt Unit :=
  if condition then .ok () else k.halt .assertion

/-! ### Slots -/

def task (k : Kernel) (id : TaskId) : Task :=
  k.tasks.slot id

def mutex (k : Kernel) (id : MutexId) : Mutex :=
  k.mutexes.slot id

def queue (k : Kernel) (id : QueueId) : Queue :=
  k.queues.slot id

def modifyTask (k : Kernel) (id : TaskId) (f : Task → Task) : Kernel :=
  { k with tasks := k.tasks.modify id f }

def putMutex (k : Kernel) (id : MutexId) (mutex : Mutex) : Kernel :=
  { k with mutexes := k.mutexes.put id mutex }

def putQueue (k : Kernel) (id : QueueId) (queue : Queue) : Kernel :=
  { k with queues := k.queues.put id queue }

def setStatus (k : Kernel) (id : TaskId) (status : TaskStatus) : Kernel :=
  k.modifyTask id fun task => { task with status }

def isRegistered (k : Kernel) (id : TaskId) : Bool :=
  decide (id.val < k.taskCount)

/-- The registered tasks, by slot. -/
def registeredIds (k : Kernel) : List TaskId :=
  (List.finRange maxTasks).filter k.isRegistered

def hasMutex (k : Kernel) (id : MutexId) : Bool :=
  decide (id.val < k.mutexCount)

def hasQueue (k : Kernel) (id : QueueId) : Bool :=
  decide (id.val < k.queueCount)

/-! ### Chains -/

def allIds (k : Kernel) : List TaskId :=
  k.all.toList k.links.all

def readyIds (k : Kernel) : List TaskId :=
  k.ready.toList k.links.queue

def waitingIds (k : Kernel) : List TaskId :=
  k.waiting.toList k.links.queue

def blockedChain (k : Kernel) : Resource → Chain maxTasks
  | .mutex id => (k.mutex id).blocked
  | .queue id => (k.queue id).blocked

/-- The tasks blocked on a resource, longest wait first. -/
def blockedIds (k : Kernel) (resource : Resource) : List TaskId :=
  (k.blockedChain resource).toList k.links.blocked

/-- Store the chain of runnable tasks and its links after a change. -/
def putReady (k : Kernel) (changed : Chain maxTasks × Links maxTasks) :
    Kernel :=
  { k with ready := changed.1, links := { k.links with queue := changed.2 } }

def putWaiting (k : Kernel) (changed : Chain maxTasks × Links maxTasks) :
    Kernel :=
  { k with waiting := changed.1, links := { k.links with queue := changed.2 } }

def putBlockedLinks (k : Kernel) (links : Links maxTasks) : Kernel :=
  { k with links := { k.links with blocked := links } }

def putBlocked (k : Kernel) (resource : Resource)
    (changed : Chain maxTasks × Links maxTasks) : Kernel :=
  match resource with
  | .mutex id =>
      (k.putMutex id { k.mutex id with blocked := changed.1 }).putBlockedLinks
        changed.2
  | .queue id =>
      (k.putQueue id { k.queue id with blocked := changed.1 }).putBlockedLinks
        changed.2

/-- Let a queue forget on which side its tasks waited once none is left. -/
def settle (k : Kernel) : Resource → Kernel
  | .mutex _ => k
  | .queue id => k.putQueue id (k.queue id).settle

/-- Put a task among the runnable ones: behind those that are at least as
urgent, before the less urgent ones. -/
def joinReady (k : Kernel) (id : TaskId) : Kernel :=
  k.putReady (k.ready.insertBy k.links.queue
    (fun other => (k.task id).outranks (k.task other)) id)

/-- Put a task among the waiting ones: behind those whose deadline is not
later, before those with a later one. -/
def joinWaiting (k : Kernel) (id : TaskId) : Kernel :=
  k.putWaiting (k.waiting.insertBy k.links.queue
    (fun other => (k.task id).dueBefore (k.task other)) id)

/-- Put a task behind all that are blocked on a resource. -/
def joinBlocked (k : Kernel) (id : TaskId) (resource : Resource) : Kernel :=
  k.putBlocked resource ((k.blockedChain resource).pushBack k.links.blocked id)

/-- Take a task out of the runnable ones, where it has to be. -/
def leaveReady (k : Kernel) (id : TaskId) : Except Halt Kernel :=
  match k.ready.erase? k.links.queue id with
  | none => k.halt .assertion
  | some changed => .ok (k.putReady changed)

def leaveWaiting (k : Kernel) (id : TaskId) : Except Halt Kernel :=
  match k.waiting.erase? k.links.queue id with
  | none => k.halt .assertion
  | some changed => .ok (k.putWaiting changed)

def leaveBlocked (k : Kernel) (id : TaskId) (resource : Resource) :
    Except Halt Kernel :=
  match (k.blockedChain resource).erase? k.links.blocked id with
  | none => k.halt .assertion
  | some changed => .ok ((k.putBlocked resource changed).settle resource)

/-- Take the task that was blocked on a resource first, unless there is
none. -/
def popBlocked? (k : Kernel) (resource : Resource) : Option (TaskId × Kernel) :=
  match (k.blockedChain resource).popFront? k.links.blocked with
  | none => none
  | some (id, changed) =>
      some (id, (k.putBlocked resource changed).settle resource)

def forgetWait (k : Kernel) (id : TaskId) : Kernel :=
  (k.modifyTask id Task.withoutWait).putBlockedLinks
    (k.links.blocked.put id none)

/-! ### Guards -/

/-- Stop the machine if the guard of a task's stack was overwritten. -/
def checkGuard (k : Kernel) (id : TaskId) : Except Halt Unit :=
  if (k.task id).isGuarded then .ok () else k.halt .stackOverflow

end Kernel

end TickKernel
