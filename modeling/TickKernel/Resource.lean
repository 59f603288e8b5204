/-
The objects that tasks wait for: recursive mutexes and bounded message queues.
Either kind has a chain of blocked tasks, served in the order in which they
came.
-/
import TickKernel.Ring

namespace TickKernel

structure Mutex where
  owner : Option TaskId
  /-- How many acquisitions of the owner are still to be released. -/
  level : UInt16
  /-- The tasks that wait to acquire the mutex. -/
  blocked : Chain maxTasks
deriving DecidableEq, Repr

def Mutex.free : Mutex :=
  ⟨none, 0, Chain.empty⟩

/-- The level beyond which a mutex is not acquired again. -/
def Mutex.maxLevel : UInt16 := 0xFFFF

def Mutex.isHeldBy (mutex : Mutex) (id : TaskId) : Bool :=
  decide (0 < mutex.level) && mutex.owner == some id

inductive Waiters where
  | nobody
  | senders
  | receivers
deriving DecidableEq, Repr

structure Queue where
  ring : Ring
  waiters : Waiters
  /-- The blocked senders or receivers. -/
  blocked : Chain maxTasks
deriving DecidableEq, Repr

def Queue.ofCapacity (capacity : Nat) : Queue :=
  ⟨Ring.ofCapacity capacity, .nobody, Chain.empty⟩

/-- The queue with its waiters forgotten once its chain of blocked tasks is
empty. -/
def Queue.settle (queue : Queue) : Queue :=
  if queue.blocked.isEmpty then { queue with waiters := .nobody } else queue

end TickKernel
