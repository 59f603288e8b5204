/-
Calls on mutexes.  A mutex has one owner, who may acquire it again and has to
release it as often.  Tasks that find it taken queue up, and the last release
hands it to the one that came first, whatever the priorities.
-/
import TickKernel.Kernel.Control

namespace TickKernel

namespace Kernel

def createMutex (k : Kernel) : Verdict MutexId :=
  if h : k.mutexCount < maxMutexes then
    let id : MutexId := ⟨k.mutexCount, h⟩
    ({ k with mutexCount := k.mutexCount + 1 }.putMutex id Mutex.free).accept id
  else k.refuse .poolEmpty

/-- Let `current` queue up for a mutex and sleep.  The timeout reported here
only says that it sleeps: how the wait ends is handed over when it resumes. -/
def awaitMutex (k : Kernel) (id : MutexId) (current : TaskId) (timeout : Tick) :
    Except Halt (Verdict Unit) := do
  k.require (!(k.task current).isBlocked)
  let k := k.joinBlocked current (.mutex id)
  let k := k.modifyTask current fun task =>
    { task with waitsFor := some (.mutex id) }
  let k ← k.sleep timeout .mutex
  return k.refuse .timeout

/-- Acquire a mutex for the running task, waiting at most `timeout` ticks for
another owner to release it.  The idle task does not wait. -/
def acquire (k : Kernel) (id : MutexId) (timeout : Tick) :
    Except Halt (Verdict Unit) := do
  if !k.hasMutex id then return k.refuse .unknownMutex
  match Tick.acceptTimeout timeout, k.running with
  | .error error, _ => return k.refuse error
  | .ok (), none => return k.refuse .notRunning
  | .ok (), some current =>
      let mutex := k.mutex id
      match mutex.owner with
      | none =>
          return (k.putMutex id
            { mutex with owner := some current, level := 1 }).accept ()
      | some owner =>
          if owner = current then
            if mutex.level = Mutex.maxLevel then return k.refuse .mutexOverflow
            return (k.putMutex id { mutex with
              level := mutex.level + 1 }).accept ()
          if timeout = 0 then return k.refuse .timeout
          if k.idle = some current then return k.refuse .invalid
          k.awaitMutex id current timeout

/-- Pass a mutex that was just released on to the first task that waits for
it, or free it. -/
def passOn (k : Kernel) (id : MutexId) : Except Halt Kernel :=
  match k.popBlocked? (.mutex id) with
  | none => .ok (k.putMutex id { k.mutex id with owner := none, level := 0 })
  | some (next, k) =>
      let k := k.putMutex id { k.mutex id with owner := some next, level := 1 }
      (k.forgetWait next).wake next Reply.done

/-- Release a mutex once.  Releasing one that the running task does not hold
stops the machine. -/
def release (k : Kernel) (id : MutexId) : Except Halt (Verdict Unit) := do
  if !k.hasMutex id then return k.refuse .unknownMutex
  match k.running with
  | none => return k.refuse .notRunning
  | some current =>
      let mutex := k.mutex id
      k.require (mutex.isHeldBy current)
      if mutex.level = 1 then
        let k ← k.passOn id
        return k.accept ()
      return (k.putMutex id { mutex with level := mutex.level - 1 }).accept ()

def mutexOwner (k : Kernel) (id : MutexId) : Option TaskId :=
  if k.hasMutex id then (k.mutex id).owner else none

def mutexLevel (k : Kernel) (id : MutexId) : UInt16 :=
  if k.hasMutex id then (k.mutex id).level else 0

end Kernel

end TickKernel
