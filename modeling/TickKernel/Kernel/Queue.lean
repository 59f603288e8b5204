/-
Calls on message queues.  Senders wait while a queue is full and receivers
while it is empty, so the two never wait together.  A message for a receiver
that waits goes to it directly; a sender that waits keeps its message until a
receiver makes room for it.
-/
import TickKernel.Kernel.Control

namespace TickKernel

namespace Kernel

def createQueue (k : Kernel) (capacity : UInt64) : Verdict QueueId :=
  if capacity = 0 || maxCapacity < capacity.toNat then k.refuse .queueCapacity
  else if h : k.queueCount < maxQueues then
    let id : QueueId := ⟨k.queueCount, h⟩
    ({ k with queueCount := k.queueCount + 1 }.putQueue id
      (Queue.ofCapacity capacity.toNat)).accept id
  else k.refuse .poolEmpty

/-- Let `current` wait at a queue, as a sender with a message to keep or as a
receiver without one, and sleep.  The timeout reported here only says that it
sleeps: how the wait ends is handed over when it resumes. -/
def awaitQueue {α : Type} (k : Kernel) (id : QueueId) (current : TaskId)
    (side : Waiters) (message : Option Message) (timeout : Tick) :
    Except Halt (Verdict α) := do
  let k := k.putQueue id { k.queue id with waiters := side }
  let k := k.joinBlocked current (.queue id)
  let k := k.modifyTask current fun task => { task with
    message := message.getD task.message
    waitsFor := some (.queue id) }
  let k ← k.sleep timeout .queue
  return k.refuse .timeout

/-- Take the task that waits first at a queue, unless nobody waits on the given
side. -/
def popWaiter? (k : Kernel) (id : QueueId) (side : Waiters) :
    Option (TaskId × Kernel) :=
  if (k.queue id).waiters = side then k.popBlocked? (.queue id) else none

def sendToRing (k : Kernel) (id : QueueId) (current : TaskId)
    (message : Message) (timeout : Tick) : Except Halt (Verdict Unit) := do
  let queue := k.queue id
  if queue.ring.isFull then
    if timeout = 0 then return k.refuse .queueFull
    if k.idle = some current then return k.refuse .invalid
    k.awaitQueue id current .senders (some message) timeout
  else
    return (k.putQueue id { queue with
      waiters := .nobody
      ring := queue.ring.push message }).accept ()

/-- Send a message, waiting at most `timeout` ticks for room.  The receiver
that has waited longest gets it directly.  The idle task does not wait. -/
def send (k : Kernel) (id : QueueId) (message : Message) (timeout : Tick) :
    Except Halt (Verdict Unit) := do
  if !k.hasQueue id then return k.refuse .unknownQueue
  match Tick.acceptTimeout timeout, k.running with
  | .error error, _ => return k.refuse error
  | .ok (), none => return k.refuse .notRunning
  | .ok (), some current =>
      k.require (!(k.task current).isBlocked)
      match k.popWaiter? id .receivers with
      | some (receiver, k) =>
          let k ← (k.forgetWait receiver).wake receiver (Reply.ok message)
          return k.accept ()
      | none => k.sendToRing id current message timeout

def putRing (k : Kernel) (id : QueueId) (ring : Ring) : Kernel :=
  k.putQueue id { k.queue id with ring }

/-- Put the message of the first waiting sender into the room of a queue, and
wake that sender. -/
def refill (k : Kernel) (id : QueueId) : Except Halt Kernel :=
  match k.popWaiter? id .senders with
  | none => .ok k
  | some (sender, k) =>
      let k := k.putRing id ((k.queue id).ring.push (k.task sender).message)
      (k.forgetWait sender).wake sender Reply.done

/-- Receive a message, waiting at most `timeout` ticks for one.  The room that
a message leaves goes to the sender that has waited longest.  The idle task does
not wait. -/
def receive (k : Kernel) (id : QueueId) (timeout : Tick) :
    Except Halt (Verdict Message) := do
  if !k.hasQueue id then return k.refuse .unknownQueue
  match Tick.acceptTimeout timeout, k.running with
  | .error error, _ => return k.refuse error
  | .ok (), none => return k.refuse .notRunning
  | .ok (), some current =>
      k.require (!(k.task current).isBlocked)
      match (k.queue id).ring.pop? with
      | some (message, ring) =>
          let k ← (k.putRing id ring).refill id
          return k.accept message
      | none =>
          if timeout = 0 then return k.refuse .queueEmpty
          if k.idle = some current then return k.refuse .invalid
          k.awaitQueue id current .receivers none timeout

/-- How many messages a queue stores, none if there is no such queue. -/
def queueLength (k : Kernel) (id : QueueId) : Nat :=
  if k.hasQueue id then (k.queue id).ring.count else 0

def queueCapacity (k : Kernel) (id : QueueId) : Nat :=
  if k.hasQueue id then (k.queue id).ring.capacity else 0

def queueWaiters (k : Kernel) (id : QueueId) : Option Waiters :=
  if k.hasQueue id then some (k.queue id).waiters else none

end Kernel

end TickKernel
