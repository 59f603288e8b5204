/-
Task stacks and the register frame of a task that is not running.

A suspended task's frame lies on its own stack, lowest word first:

    r4 r5 r6 r7 r8 r9 r10 r11 return-code     pushed by the switch
    s16 .. s31                                of extended frames only
    r0 r1 r2 r3 r12 lr pc status              pushed by the hardware
    s0 .. s15 fpscr                           of extended frames only

Bit 4 of the return code is clear in an extended frame.  A new task gets a
basic frame that looks as if it had been interrupted right before the first
instruction of its entry routine.  The lowest word of a stack is a guard, and
words that were never used keep a fill pattern.
-/
import TickKernel.Fault
import TickKernel.Reply

namespace TickKernel

abbrev Word := UInt32

/-- Reading a word after one was written: a write outside the memory is lost. -/
theorem getD_setIfInBounds (memory : Array Word) (i j : Nat) (word : Word) :
    (memory.setIfInBounds i word).getD j 0 =
      if i = j ∧ i < memory.size then word else memory.getD j 0 := by
  rw [Array.getD_eq_getD_getElem?, Array.getD_eq_getD_getElem?,
    Array.getElem?_setIfInBounds]
  grind

/-- An address, or any other datum as wide as one. -/
abbrev Address := UInt64

/-- The nine registers that the switch saves and the eight that the hardware
saves, in a basic frame. -/
structure Frame where
  r4 : Word
  r5 : Word
  r6 : Word
  r7 : Word
  r8 : Word
  r9 : Word
  r10 : Word
  r11 : Word
  returnCode : Word
  r0 : Word
  r1 : Word
  r2 : Word
  r3 : Word
  r12 : Word
  lr : Word
  pc : Word
  status : Word
deriving DecidableEq, Repr

namespace Frame

/-- Words in a basic frame. -/
def size : Nat := 17

/-- Words that an extended frame has between the two halves of a basic one. -/
def extension : Nat := 16

/-- Words that an extended frame has above the two halves of a basic one. -/
def extensionAbove : Nat := 17

def returnCodeOffset : Nat := 8

/-- The return code of a basic frame: back to thread mode, on the task's own
stack. -/
def basicReturn : Word := 0xFFFFFFFD

/-- The bit of the return code that is clear in an extended frame. -/
def basicBit : Word := 0x10

def freshStatus : Word := 0x01000000

/-- The frame as it lies in memory, lowest address first. -/
def words (frame : Frame) : List Word :=
  [frame.r4, frame.r5, frame.r6, frame.r7, frame.r8, frame.r9, frame.r10,
    frame.r11, frame.returnCode, frame.r0, frame.r1, frame.r2, frame.r3,
    frame.r12, frame.lr, frame.pc, frame.status]

@[simp] theorem length_words (frame : Frame) : frame.words.length = size :=
  rfl

/-- What register number `register` of task number `index` starts with: zero,
or with `seeded` a value that tells the task and the register apart. -/
def seed (seeded : Bool) (index : Address) (register : Word) :
    Except Fault Word :=
  if seeded then do
    let number ← checkedAdd index.toUInt32 1
    let base ← checkedMul 1000 number
    checkedAdd base register
  else
    .ok 0

/-- The frame of a task that is about to enter `entry` with `param`, and that
returns to `exit`. -/
def fresh (seeded : Bool) (entry param exit index : Address) :
    Except Fault Frame := do
  let r4 ← seed seeded index 4
  let r5 ← seed seeded index 5
  let r6 ← seed seeded index 6
  let r7 ← seed seeded index 7
  let r8 ← seed seeded index 8
  let r9 ← seed seeded index 9
  let r10 ← seed seeded index 10
  let r11 ← seed seeded index 11
  let r1 ← seed seeded index 1
  let r2 ← seed seeded index 2
  let r3 ← seed seeded index 3
  let r12 ← seed seeded index 12
  return {
    r4, r5, r6, r7, r8, r9, r10, r11
    returnCode := basicReturn
    r0 := param.toUInt32
    r1, r2, r3, r12
    lr := exit.toUInt32
    pc := entry.toUInt32 &&& 0xFFFFFFFE
    status := freshStatus }

/-- Where the frame at `start` keeps its saved r0. -/
def replyOffset (memory : Array Word) (start : Nat) : Nat :=
  if memory.getD (start + returnCodeOffset) 0 &&& basicBit = 0 then
    start + returnCodeOffset + 1 + extension
  else
    start + returnCodeOffset + 1

def writeReply (memory : Array Word) (start : Nat) (reply : Reply) :
    Array Word :=
  let offset := replyOffset memory start
  (memory.setIfInBounds offset reply.status.code).setIfInBounds (offset + 1)
    reply.value.toUInt32

def readReply (memory : Array Word) (start : Nat) : Reply :=
  let offset := replyOffset memory start
  ⟨Status.ofCode (memory.getD offset 0), (memory.getD (offset + 1) 0).toUInt64⟩

end Frame

structure Stack where
  words : Array Word
  /-- Whether the lowest word lies four bytes past an eight-byte boundary. -/
  skewed : Bool
deriving DecidableEq, Repr

namespace Stack

/-- Stands in the lowest word of every stack. -/
def guardPattern : Word := 0xDEADBEEF

/-- Stands in every word that was never used. -/
def fillPattern : Word := 0xCCCCCCCC

/-- The least number of words that holds the guard, one word lost to alignment
and a basic frame. -/
def minFrameWords : Nat := Frame.size + 2

def minTaskWords : Nat := 48

def zeroed (size : Nat) (skewed : Bool) : Stack :=
  ⟨Array.replicate size 0, skewed⟩

/-- How many words of the stack lie below its highest eight-byte boundary. -/
def top (stack : Stack) : Nat :=
  if stack.skewed then (stack.words.size + 1) / 2 * 2 - 1
  else stack.words.size / 2 * 2

theorem top_le (stack : Stack) :
    stack.top ≤ stack.words.size ∧ stack.words.size ≤ stack.top + 1 := by
  unfold top
  split <;> omega

/-- Store words one after another, the first one at index `start`. -/
def store (memory : Array Word) (start : Nat) : List Word → Array Word
  | [] => memory
  | word :: rest => store (memory.setIfInBounds start word) (start + 1) rest

/-- Prepare a stack for its task's first switch in, and tell where the frame
starts: fill it, put the guard into its lowest word, and write the frame below
the highest eight-byte boundary.  A stack that is too small is refused as it
is. -/
def prepare (stack : Stack) (seeded : Bool) (entry param exit index : Address) :
    Except Fault (Except Error (Stack × Nat)) :=
  if stack.words.size < minFrameWords then .ok (.error .stackTooSmall)
  else do
    let filled := Array.replicate stack.words.size fillPattern
    let guarded := filled.setIfInBounds 0 guardPattern
    let frame ← Frame.fresh seeded entry param exit index
    let start := stack.top - Frame.size
    return .ok ({ stack with words := store guarded start frame.words }, start)

/-- The deepest use of the stack so far in words: all words from the top down
to the lowest one, the guard aside, that no longer holds the fill pattern.  An
empty stack has no guard to set aside. -/
def highWater (memory : Array Word) : Except Fault Nat :=
  if memory.isEmpty then .error (.overflow .subtraction)
  else
    .ok (memory.size - 1 -
      (memory.toList.tail.takeWhile (· == fillPattern)).length)

end Stack

end TickKernel
