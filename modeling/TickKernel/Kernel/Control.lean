/-
Calls that steer tasks: suspending and resuming them, ending them, and letting
time pass.
-/
import TickKernel.Kernel.Lifecycle

namespace TickKernel

namespace Kernel

def suspendWaiting (k : Kernel) (id : TaskId) : Except Halt Kernel := do
  let k ← k.unblock id
  let k ← k.leaveWaiting id
  return k.modifyTask id fun task =>
    { task with deadline := 0, status := .suspended }

/-- Set a task aside.  A task that waits for a mutex or a queue gives up its
place there, and the call it waits in keeps the timeout it already reported.
The idle task is always needed, and a task that a pending switch will bring to
the processor cannot be held back. -/
def suspend (k : Kernel) (id : TaskId) : Except Halt (Verdict Unit) := do
  if !k.isRegistered id then return k.refuse .unknownTask
  if k.idle = some id then return k.refuse .suspendIdle
  match (k.task id).status with
  | .suspended | .finished => return k.refuse .notSuspendable
  | .active =>
      if k.running = some id then
        let k ← (k.setStatus id .suspended).giveUp id
        return k.accept ()
      else
        return k.refuse .notSuspendable
  | .ready =>
      let k ← k.leaveReady id
      return (k.setStatus id .suspended).accept ()
  | .waiting =>
      let k ← k.suspendWaiting id
      return k.accept ()

/-- Make a suspended task runnable again.  A wait that it was suspended in is
not taken up again. -/
def resume (k : Kernel) (id : TaskId) : Except Halt (Verdict Unit) := do
  if !k.isRegistered id then return k.refuse .unknownTask
  if (k.task id).status ≠ .suspended then return k.refuse .notSuspended
  let k ← k.reinstate id
  return k.accept ()

/-- The entry routine of the running task returned.  The idle task's must
not. -/
def finish (k : Kernel) : Except Halt Kernel :=
  match k.running with
  | none => k.halt .assertion
  | some id =>
      if k.idle = some id then k.halt .application
      else (k.setStatus id .finished).giveUp id

def delay (k : Kernel) (ticks : Tick) : Except Halt (Verdict Unit) := do
  if k.phase ≠ .started then return k.refuse .notRunning
  match Tick.acceptTimeout ticks with
  | .error error => return k.refuse error
  | .ok () =>
      if ticks = 0 then return k.accept ()
      if k.running = k.idle then return k.refuse .invalid
      let k ← k.sleep ticks .none
      return k.accept ()

/-- Spin for `ticks` ticks, which is allowed only while nothing is scheduled. -/
def spin (k : Kernel) (ticks : Tick) : Verdict Unit :=
  if k.phase = .started then k.refuse .alreadyRunning
  else { k with platform := k.platform.advance ticks }.accept ()

end Kernel

end TickKernel
