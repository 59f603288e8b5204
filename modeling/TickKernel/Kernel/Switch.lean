/-
The register switch as the kernel sees it: the platform hands over the frame it
has just saved for the outgoing task and gets back the frame to resume from.
A reply that waits for the incoming task is written into its frame on the way.
-/
import TickKernel.Kernel.Schedule

namespace TickKernel

namespace Kernel

/-! ### Words on the stacks -/

def modifyStack (k : Kernel) (id : TaskId) (f : Array Word → Array Word) :
    Kernel :=
  k.modifyTask id fun task =>
    { task with stack := { task.stack with words := f task.stack.words } }

def stackWords (k : Kernel) (id : TaskId) : Array Word :=
  (k.task id).stack.words

def peek (k : Kernel) (id : TaskId) (index : Nat) : Word :=
  (k.stackWords id).getD index 0

/-- Overwrite one word of a task's stack, as the task itself might. -/
def poke (k : Kernel) (id : TaskId) (index : Nat) (word : Word) : Kernel :=
  k.modifyStack id fun words => words.setIfInBounds index word

/-- The basic part of the frame at `pointer`, lowest word first. -/
def frameWords (k : Kernel) (pointer : StackPointer) : List Word :=
  (List.range Frame.size).map fun i => k.peek pointer.owner (pointer.offset + i)

def savedReply (k : Kernel) (pointer : StackPointer) : Reply :=
  Frame.readReply (k.stackWords pointer.owner) pointer.offset

/-! ### The switch -/

/-- Write a waiting reply into the frame that a task resumes from. -/
def deliver (k : Kernel) (id : TaskId) : Kernel :=
  match (k.task id).pending with
  | none => k
  | some reply =>
      let k := k.modifyTask id fun task =>
        { task with pending := none, delivered := some reply }
      match (k.task id).savedAt with
      | none => k
      | some pointer =>
          k.modifyStack pointer.owner fun words =>
            Frame.writeReply words pointer.offset reply

def takeScheduled (k : Kernel) : Kernel :=
  match k.scheduled with
  | none => k
  | some next => { k with running := some next, scheduled := none }

def saveRunning (k : Kernel) (pointer : StackPointer) : Kernel :=
  match k.running with
  | none => k
  | some id => k.modifyTask id fun task => { task with savedAt := some pointer }

/-- Resume the running task: hand over its reply and its frame.  Without a
running task nothing is resumed. -/
def resumeRunning (k : Kernel) (saved : Option StackPointer) :
    Option StackPointer × Kernel :=
  match k.running with
  | none => (saved, k)
  | some id =>
      let k := k.deliver id
      ((k.task id).savedAt, k)

/-- Swap the running task for the scheduled one.  `saved` is the frame just
saved for the outgoing task, none before any task was entered; the frame to
resume from comes back.  With a frame saved and nothing scheduled the outgoing
task goes on from that frame. -/
def switchFrom (k : Kernel) (saved : Option StackPointer) :
    Option StackPointer × Kernel :=
  match saved with
  | none => k.takeScheduled.resumeRunning none
  | some pointer =>
      if k.scheduled.isNone then (some pointer, k)
      else (k.saveRunning pointer).takeScheduled.resumeRunning saved

/-- Carry out a pending switch from the frame stored for the running task, and
tell whether there was one. -/
def switchOver (k : Kernel) : Bool × Kernel :=
  if k.scheduled.isNone then (false, k)
  else
    let saved := k.running.bind fun id => (k.task id).savedAt
    (true, (k.switchFrom saved).2)

/-- One tick passes: the clock moves, the scheduler decides, and the switch it
asks for takes place. -/
def beat (k : Kernel) : Except Halt (Bool × Kernel) := do
  let k ← { k with platform := k.platform.advance 1 }.tick
  return k.switchOver

end Kernel

end TickKernel
