/-
The life of a kernel: prepared, populated with tasks, started, torn down.

The first task registered is the idle task.  It has the least priority and is
never out of the chain of runnable tasks, so that there is always somebody to
run.
-/
import TickKernel.Kernel.Switch

namespace TickKernel

/-- Whether a task enters the chain of runnable tasks when it is registered. -/
inductive StartMode where
  | running
  | suspended
deriving DecidableEq, Repr

def StartMode.status : StartMode → TaskStatus
  | running => .ready
  | suspended => .suspended

structure TaskSpec where
  name : String
  mode : StartMode := .running
  entry : Address
  param : Address
  stack : Stack
  priority : Priority := Priority.normal
deriving DecidableEq, Repr

namespace Kernel

def setUp (k : Kernel) : Verdict Unit :=
  if k.phase = .blank then { k with phase := .prepared }.accept ()
  else k.refuse .alreadyRunning

def enter (k : Kernel) (first : TaskId) : Verdict Unit :=
  let k := k.setStatus first .active
  let k :=
    { k with running := some first, scheduled := none, phase := .started }
  let entered := k.platform.enterFirst
  (entered.1, { k with platform := entered.2 })

/-- Bring the platform up and run the first of the most urgent tasks. -/
def start (k : Kernel) : Verdict Unit :=
  match k.phase with
  | .blank => k.refuse .notPrepared
  | .prepared => k.refuse .noTask
  | .started => k.refuse .alreadyRunning
  | .populated =>
      let brought := k.platform.bringUp
      let k := { k with platform := brought.2 }
      match brought.1 with
      | .error error => k.refuse error
      | .ok () =>
          match k.ready.head with
          | none => k.refuse .noTask
          | some first => k.enter first

/-- Drop every task, mutex and queue.  The platform is left as it is. -/
def tearDown (k : Kernel) : Kernel :=
  fresh k.platform

/-- Whether a task of this kind may be registered now: the phase is looked at
first, then the stack, the room in the table and the idle task's mode. -/
def admission (k : Kernel) (spec : TaskSpec) : Except Error TaskId :=
  match k.phase with
  | .blank => .error .notPrepared
  | .started => .error .alreadyRunning
  | .prepared | .populated =>
      if spec.stack.words.size < Stack.minTaskWords then .error .stackTooSmall
      else if h : k.taskCount < maxTasks then
        if k.idle.isNone && spec.mode != .running then .error .idleSuspended
        else .ok ⟨k.taskCount, h⟩
      else .error .taskTableFull

/-- Fill slot `id` with a new task whose frame starts at word `offset` of the
prepared stack. -/
def enrol (k : Kernel) (id : TaskId) (spec : TaskSpec) (stack : Stack)
    (offset : Nat) : Kernel :=
  let task : Task :=
    { Task.vacant with
      name := spec.name
      status := spec.mode.status
      priority := if k.idle.isNone then Priority.idle else spec.priority
      entry := spec.entry
      param := spec.param
      stack
      savedAt := some ⟨id, offset⟩ }
  let links := k.links.unlink id
  let changed := k.all.pushFront links.all id
  let k :=
    { k with
      tasks := k.tasks.put id task
      taskCount := k.taskCount + 1
      idle := if k.idle.isNone then some id else k.idle
      links := { links with all := changed.2 }
      all := changed.1
      phase := .populated }
  match spec.mode with
  | .running => k.joinReady id
  | .suspended => k

/-- Register a task.  The first one becomes the idle task, whatever its
priority. -/
def register (k : Kernel) (spec : TaskSpec) : Except Halt (Verdict TaskId) :=
  match k.admission spec with
  | .error error => .ok (k.refuse error)
  | .ok id =>
      match spec.stack.prepare k.platform.seeded spec.entry spec.param
          k.platform.exitAddress (UInt64.ofNat id.val) with
      | .error fault => k.halt fault
      | .ok (.error error) => .ok (k.refuse error)
      | .ok (.ok (stack, offset)) =>
          .ok ((k.enrol id spec stack offset).accept id)

end Kernel

end TickKernel
