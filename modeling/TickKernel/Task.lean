/-
Tasks: what the kernel keeps for each slot of its task table.  The links that
thread tasks into chains are kept beside the table, one field for each kind of
chain.
-/
import TickKernel.Chain
import TickKernel.Stack
import TickKernel.Tick

namespace TickKernel

/-- Slots in the task table, the idle task included. -/
abbrev maxTasks : Nat := 16

abbrev maxMutexes : Nat := 8

abbrev maxQueues : Nat := 8

/-- The slot of a task. -/
abbrev TaskId := Fin maxTasks

abbrev MutexId := Fin maxMutexes

abbrev QueueId := Fin maxQueues

/-- How urgent a task is; a greater number is more urgent. -/
abbrev Priority := UInt8

def Priority.idle : Priority := 0

/-- The priority of a task registered without one. -/
def Priority.normal : Priority := 0x10

/-- A message, which the kernel carries and never looks into. -/
abbrev Message := UInt64

/-- The three kinds of chain that a task can be threaded into. -/
inductive LinkField where
  /-- The chain of all tasks. -/
  | all
  /-- The chain of runnable tasks or the chain of waiting tasks. -/
  | queue
  /-- The chain of tasks blocked on one mutex or message queue. -/
  | blocked
deriving DecidableEq, Repr

structure LinkFields (n : Nat) where
  all : Links n
  queue : Links n
  blocked : Links n
deriving DecidableEq

namespace LinkFields

variable {n : Nat}

def unlinked (n : Nat) : LinkFields n :=
  ⟨Links.unlinked n, Links.unlinked n, Links.unlinked n⟩

def get (fields : LinkFields n) : LinkField → Links n
  | .all => fields.all
  | .queue => fields.queue
  | .blocked => fields.blocked

def set (fields : LinkFields n) (field : LinkField) (links : Links n) :
    LinkFields n :=
  match field with
  | .all => { fields with all := links }
  | .queue => { fields with queue := links }
  | .blocked => { fields with blocked := links }

def unlink (fields : LinkFields n) (id : Fin n) : LinkFields n :=
  ⟨fields.all.put id none, fields.queue.put id none, fields.blocked.put id none⟩

@[simp] theorem get_set_self (fields : LinkFields n) (field : LinkField)
    (links : Links n) : (fields.set field links).get field = links := by
  cases field <;> rfl

theorem get_set_ne (fields : LinkFields n) {field other : LinkField}
    (links : Links n) (h : field ≠ other) :
    (fields.set field links).get other = fields.get other := by
  cases field <;> cases other <;> simp_all [get, set]

end LinkFields

inductive TaskStatus where
  /-- Runnable, but not on the processor. -/
  | ready
  /-- On the processor, or chosen to be there next. -/
  | active
  /-- Asleep until its deadline or until it is woken. -/
  | waiting
  /-- Set aside until it is resumed. -/
  | suspended
  /-- Done: its entry routine returned. -/
  | finished
deriving DecidableEq, Repr

/-- Whether the scheduler may pick a task of this status. -/
def TaskStatus.isRunnable : TaskStatus → Bool
  | ready | active => true
  | waiting | suspended | finished => false

/-- What a waiting task waits for besides its deadline. -/
inductive WaitFlag where
  | none
  | mutex
  | queue
deriving DecidableEq, Repr

def WaitFlag.code : WaitFlag → UInt32
  | none => 0
  | mutex => 1
  | queue => 2

/-- An object with a chain of blocked tasks. -/
inductive Resource where
  | mutex (id : MutexId)
  | queue (id : QueueId)
deriving DecidableEq, Repr

/-- A word on the stack of some task. -/
structure StackPointer where
  owner : TaskId
  offset : Nat
deriving DecidableEq, Repr

structure Task where
  name : String
  status : TaskStatus
  priority : Priority
  entry : Address
  /-- What the entry routine is called with. -/
  param : Address
  stack : Stack
  /-- The frame to resume from, while the task is not running. -/
  savedAt : Option StackPointer
  /-- The tick at which a wait ends, zero outside a wait. -/
  deadline : Tick
  flag : WaitFlag
  /-- The object whose chain of blocked tasks holds this task. -/
  waitsFor : Option Resource
  /-- The message of a task that waits for room in a queue. -/
  message : Message
  /-- The reply to hand over when the task runs again. -/
  pending : Option Reply
  /-- The last reply handed over, at full width: the frame keeps only the low
  half of its value. -/
  delivered : Option Reply
deriving DecidableEq, Repr

namespace Task

def vacant : Task where
  name := ""
  status := .ready
  priority := 0
  entry := 0
  param := 0
  stack := ⟨#[], false⟩
  savedAt := none
  deadline := 0
  flag := .none
  waitsFor := none
  message := 0
  pending := none
  delivered := none

def isRunnable (task : Task) : Bool :=
  task.status.isRunnable

/-- Whether some object's chain of blocked tasks holds the task. -/
def isBlocked (task : Task) : Bool :=
  task.waitsFor.isSome

def lowestWord (task : Task) : Word :=
  task.stack.words.getD 0 0

def isGuarded (task : Task) : Bool :=
  task.lowestWord == Stack.guardPattern

/-- Whether the task is strictly more urgent than `other`. -/
def outranks (task other : Task) : Bool :=
  decide (other.priority < task.priority)

def dueBefore (task other : Task) : Bool :=
  Tick.precedes task.deadline other.deadline

/-- The task without anything that belongs to a wait but its deadline. -/
def withoutWait (task : Task) : Task :=
  { task with waitsFor := none, flag := .none, message := 0 }

end Task

end TickKernel
