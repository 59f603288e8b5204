/-
Everything that can happen to a kernel, as data: the calls of its users, the
switches and ticks of its platform, the passing of time, and words that tasks
write on their stacks.  `Kernel.perform` carries out one of them,
`Kernel.performAll` a whole history, and `Reachable` says which kernels some
history leads to.
-/
import TickKernel.Kernel.Service

namespace TickKernel

inductive Call where
  | setUp
  | register (spec : TaskSpec)
  | start
  | tearDown
  | advance (ticks : Tick)
  | setClock (ticks : Tick)
  /-- The platform's hooks are made to end in another way. -/
  | setHooks (setupFailure entryFailure : Option Error)
  | tick
  | schedule
  | switchOver
  /-- A tick passes and the switch that it causes takes place. -/
  | beat
  /-- The platform's switch handler saved a frame and asks for the next one. -/
  | switchFrom (saved : Option StackPointer)
  /-- The platform's own exit routine is entered. -/
  | exitRoutine
  | delay (ticks : Tick)
  | spin (ticks : Tick)
  | suspend (id : TaskId)
  | resume (id : TaskId)
  | finish
  | createMutex
  | acquire (id : MutexId) (timeout : Tick)
  | release (id : MutexId)
  | createQueue (capacity : UInt64)
  | send (id : QueueId) (message : Message) (timeout : Tick)
  | receive (id : QueueId) (timeout : Tick)
  | serve (number : UInt32) (args : Arguments)
  /-- A task writes a word on its stack. -/
  | poke (id : TaskId) (index : Nat) (word : Word)
deriving DecidableEq, Repr

inductive Answer where
  | nothing
  | flag (value : Bool)
  | frame (pointer : Option StackPointer)
  | reply (reply : Reply)
  | unit (result : Except Error Unit)
  | task (result : Except Error TaskId)
  | mutex (result : Except Error MutexId)
  | queue (result : Except Error QueueId)
  | message (result : Except Error Message)

namespace Kernel

variable {α : Type}

def answering (answer : Except Error α → Answer) (verdict : Verdict α) :
    Answer × Kernel :=
  (answer verdict.1, verdict.2)

/-- The platform's own exit routine does nothing: a task that returns to it is
not finished by that. -/
def exitRoutine (k : Kernel) : Kernel :=
  k

def perform (k : Kernel) : Call → Except Halt (Answer × Kernel)
  | .setUp => .ok (answering .unit k.setUp)
  | .register spec => answering .task <$> k.register spec
  | .start => .ok (answering .unit k.start)
  | .tearDown => .ok (.nothing, k.tearDown)
  | .advance ticks =>
      .ok (.nothing, { k with platform := k.platform.advance ticks })
  | .setClock ticks => .ok (.nothing, { k with platform.clock := ticks })
  | .setHooks setupFailure entryFailure =>
      .ok (.nothing, { k with
        platform.setupFailure := setupFailure
        platform.entryFailure := entryFailure })
  | .tick => (fun k => (.nothing, k)) <$> k.tick
  | .schedule => (fun k => (.nothing, k)) <$> k.schedule
  | .switchOver => .ok (.flag k.switchOver.1, k.switchOver.2)
  | .beat => (fun switched => (.flag switched.1, switched.2)) <$> k.beat
  | .switchFrom saved =>
      .ok (.frame (k.switchFrom saved).1, (k.switchFrom saved).2)
  | .exitRoutine => .ok (.nothing, k.exitRoutine)
  | .delay ticks => answering .unit <$> k.delay ticks
  | .spin ticks => .ok (answering .unit (k.spin ticks))
  | .suspend id => answering .unit <$> k.suspend id
  | .resume id => answering .unit <$> k.resume id
  | .finish => (fun k => (.nothing, k)) <$> k.finish
  | .createMutex => .ok (answering .mutex k.createMutex)
  | .acquire id timeout => answering .unit <$> k.acquire id timeout
  | .release id => answering .unit <$> k.release id
  | .createQueue capacity => .ok (answering .queue (k.createQueue capacity))
  | .send id message timeout => answering .unit <$> k.send id message timeout
  | .receive id timeout => answering .message <$> k.receive id timeout
  | .serve number args =>
      (fun served => (.reply served.1, served.2)) <$> k.serve number args
  | .poke id index word => .ok (.nothing, k.poke id index word)

def performAll (k : Kernel) : List Call → Except Halt (List Answer × Kernel)
  | [] => .ok ([], k)
  | call :: rest => do
      let (answer, k) ← k.perform call
      let (answers, k) ← k.performAll rest
      return (answer :: answers, k)

end Kernel

namespace Witness

def spec (name : String) (priority : Priority) : TaskSpec where
  name
  entry := 0x1001
  param := 0
  stack := Stack.zeroed Stack.minTaskWords false
  priority

/-- Scheduling has started with the idle task and two equally urgent tasks. -/
def equals : List Call :=
  [.setUp, .register (spec "idle" 0), .register (spec "a" 5),
    .register (spec "b" 5), .start]

def runningAfter (calls : List Call) : Option TaskId :=
  match (Kernel.fresh Platform.fresh).performAll calls with
  | .ok (_, k) => k.running
  | .error _ => none

example : runningAfter equals = some 1 := by decide +kernel

/-- Equally urgent tasks take turns. -/
example : runningAfter (equals ++ [.beat]) = some 2 ∧
    runningAfter (equals ++ [.beat, .beat]) = some 1 := by
  decide +kernel

/-- A task that waits is back once its deadline is reached. -/
example : runningAfter (equals ++ [.delay 2, .switchOver, .beat]) = some 2 ∧
    runningAfter (equals ++ [.delay 2, .switchOver, .beat, .beat]) =
      some 1 := by
  decide +kernel

end Witness

/-- The kernels that a history of calls leads to without stopping the machine,
from a new kernel on any platform. -/
inductive Reachable : Kernel → Prop where
  | fresh (platform : Platform) : Reachable (Kernel.fresh platform)
  | step {k k' : Kernel} {call : Call} {answer : Answer} :
      Reachable k → k.perform call = .ok (answer, k') → Reachable k'

end TickKernel
