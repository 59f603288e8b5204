/-
Scheduling: who runs next.

The scheduler is preemptive, by fixed priorities, and takes turns among equals.
A wait whose deadline has elapsed is served before anything else.  Otherwise
the choice falls on the most urgent task among the others, met in the order of
the chain of runnable tasks from the running one onwards and around.

Deciding who runs next does not switch registers: `dispatch` records the choice
and asks the platform for the switch, which happens later (`Kernel.switchFrom`).
While a switch is pending no other choice is made.
-/
import TickKernel.Kernel.Basic

namespace TickKernel

namespace Kernel

/-! ### Moving tasks between chains -/

/-- Take a task off the chain of the object it is blocked on, if any, and
forget what it waits for. -/
def unblock (k : Kernel) (id : TaskId) : Except Halt Kernel :=
  match (k.task id).waitsFor with
  | none => .ok (k.forgetWait id)
  | some resource => do
      let k ← k.leaveBlocked id resource
      return k.forgetWait id

/-- End a task's wait or suspension: it is runnable again. -/
def reinstate (k : Kernel) (id : TaskId) : Except Halt Kernel := do
  let k ← k.unblock id
  let k ← if (k.task id).status = .waiting then k.leaveWaiting id else .ok k
  let k := k.modifyTask id fun task =>
    { task with deadline := 0, status := .ready }
  return k.joinReady id

/-- Move a task that leaves the processor to where its status sends it. -/
def standDown (k : Kernel) (id : TaskId) : Except Halt Kernel :=
  match (k.task id).status with
  | .active | .ready => .ok (k.setStatus id .ready)
  | .waiting => do
      let k ← k.leaveReady id
      return k.joinWaiting id
  | .suspended | .finished => k.leaveReady id

/-! ### Choosing and recording the next task -/

/-- Make `target` the next task and ask the platform for the switch.  No
switch is asked for with a damaged guard on either side. -/
def dispatch (k : Kernel) (target : TaskId) : Except Halt Kernel := do
  k.require k.scheduled.isNone
  match k.running with
  | none => k.halt .assertion
  | some previous =>
      k.require (target != previous)
      let k ← if (k.task target).status = .waiting then k.reinstate target
        else k.unblock target
      k.require ((k.task target).status == .ready)
      let k ← k.standDown previous
      let k := k.setStatus target .active
      let k := { k with scheduled := some target }
      k.checkGuard previous
      k.checkGuard target
      return { k with platform := k.platform.askForSwitch }

/-- The first waiting task, when its deadline has elapsed. -/
def dueTask (k : Kernel) : Option TaskId :=
  match k.waiting.head with
  | none => none
  | some id =>
      if Tick.reached k.platform.clock (k.task id).deadline then some id
        else none

/-- The other tasks of the runnable chain, from the one behind `current` to
its end and then from its front up to `current`. -/
def rotation (k : Kernel) (current : TaskId) : List TaskId :=
  (k.readyIds.dropWhile (· != current)).tail ++
    k.readyIds.takeWhile (· != current)

/-- The better of a choice made so far and a further task: the further task
only if it is runnable and strictly more urgent. -/
def preferred (k : Kernel) (best : Option TaskId) (id : TaskId) :
    Option TaskId :=
  if (k.task id).isRunnable && best.all fun b => (k.task id).outranks (k.task b)
  then some id else best

def mostUrgent (k : Kernel) (ids : List TaskId) : Option TaskId :=
  ids.foldl k.preferred none

inductive Decision where
  | stay
  | switchTo (id : TaskId)
  /-- The running task cannot go on, and nobody can take its place. -/
  | stuck
deriving DecidableEq, Repr

/-- Decide between the running task and the most urgent of the others: it gives
way when it cannot go on, and to anyone who is at least as urgent. -/
def decision (k : Kernel) (current : TaskId) : Decision :=
  match k.mostUrgent (k.rotation current) with
  | some best =>
      if !(k.task current).isRunnable ||
          !(k.task current).outranks (k.task best) then .switchTo best
      else .stay
  | none => if (k.task current).isRunnable then .stay else .stuck

/-- The scheduling point, reached on every tick and by every call that makes
the running task give up the processor. -/
def schedule (k : Kernel) : Except Halt Kernel := do
  if k.phase ≠ .started then return k
  match k.running with
  | none => k.halt .assertion
  | some current =>
      k.checkGuard current
      if k.scheduled.isSome then return k
      k.require (k.readyIds.contains current)
      match k.dueTask with
      | some due => k.dispatch due
      | none =>
          match k.decision current with
          | .stay => return k
          | .switchTo id => k.dispatch id
          | .stuck => k.halt .assertion

def tick (k : Kernel) : Except Halt Kernel :=
  k.schedule

/-! ### Sleeping and waking -/

/-- The running task `id` cannot go on: choose who runs next, unless that is
already chosen. -/
def giveUp (k : Kernel) (id : TaskId) : Except Halt Kernel :=
  if k.scheduled.isNone then k.schedule else k.standDown id

/-- Put the running task to sleep for at most `timeout` ticks.  It has to be on
the chain of what it waits for already, if it waits for anything. -/
def sleep (k : Kernel) (timeout : Tick) (flag : WaitFlag) :
    Except Halt Kernel :=
  match k.running with
  | none => k.halt .assertion
  | some current => do
      k.require (k.idle != some current)
      let k := k.modifyTask current fun task =>
        { task with
          status := .waiting, deadline := k.platform.clock + timeout, flag }
      k.giveUp current

/-- Hand a reply to a sleeping task and give it the processor.  When that is
already promised to another task, this one competes for it from the next tick
on. -/
def wake (k : Kernel) (id : TaskId) (reply : Reply) : Except Halt Kernel :=
  let k := k.modifyTask id fun task => { task with pending := some reply }
  if k.scheduled.isNone then k.dispatch id else k.reinstate id

end Kernel

end TickKernel
