/-
Errors that a kernel call reports to its caller, and the status classes that
remain of them once a result has to travel through two machine registers.
-/

namespace TickKernel

/-- Why a kernel call was refused. -/
inductive Error where
  /-- Unspecified failure. -/
  | failure
  /-- The resource was not available in time, or the call blocked. -/
  | timeout
  | interrupted
  /-- Not enough memory or capacity. -/
  | memory
  | queueFull
  | queueEmpty
  /-- The capacity asked for a queue is out of range. -/
  | queueCapacity
  /-- No object is left in the mutex or queue pool. -/
  | poolEmpty
  | taskTableFull
  | notPrepared
  /-- The kernel was already prepared or is running. -/
  | alreadyRunning
  | notRunning
  /-- No task was registered before the start. -/
  | noTask
  | invalid
  | stackTooSmall
  /-- The idle task has to be registered running. -/
  | idleSuspended
  | unknownService
  | unknownTask
  | suspendIdle
  | notSuspended
  /-- The task cannot be suspended in its current state. -/
  | notSuspendable
  | unknownMutex
  /-- The recursion counter of the mutex is saturated. -/
  | mutexOverflow
  | unknownQueue
deriving DecidableEq, Repr

/-- The class of a result, as the first of the two registers carries it. -/
inductive Status where
  | success
  | failure
  | timeout
  | memory
  | interrupted
  | invalid
deriving DecidableEq, Repr

namespace Status

def code : Status → UInt32
  | success => 0
  | failure => 1
  | timeout => 2
  | memory => 3
  | interrupted => 4
  | invalid => 5

/-- Read a register word; a word that no class has counts as a failure. -/
def ofCode (word : UInt32) : Status :=
  if word = 0 then success
  else if word = 2 then timeout
  else if word = 3 then memory
  else if word = 4 then interrupted
  else if word = 5 then invalid
  else failure

def isSuccess (status : Status) : Bool :=
  status == success

@[simp] theorem ofCode_code (status : Status) :
    ofCode status.code = status := by
  cases status <;> rfl

/-- Reading a word back loses nothing exactly when it is the word of a class. -/
theorem code_ofCode_eq_iff (word : UInt32) :
    (ofCode word).code = word ↔ ∃ status : Status, status.code = word := by
  constructor
  · intro h
    exact ⟨ofCode word, h⟩
  · rintro ⟨status, rfl⟩
    rw [ofCode_code]

end Status

namespace Error

/-- The number by which an error is known outside the kernel: the hundreds
tell its family. -/
def code : Error → UInt16
  | failure => 1
  | timeout => 100
  | interrupted => 101
  | memory => 200
  | queueFull => 201
  | queueEmpty => 202
  | queueCapacity => 203
  | poolEmpty => 204
  | taskTableFull => 205
  | notPrepared => 300
  | alreadyRunning => 301
  | notRunning => 302
  | noTask => 303
  | invalid => 400
  | stackTooSmall => 401
  | idleSuspended => 402
  | unknownService => 403
  | unknownTask => 500
  | suspendIdle => 501
  | notSuspended => 502
  | notSuspendable => 503
  | unknownMutex => 600
  | mutexOverflow => 601
  | unknownQueue => 602

/-- The class of an error.  A capacity that is out of range is a bad argument,
while a lack of room is a lack of memory. -/
def status : Error → Status
  | failure | notPrepared | alreadyRunning | notRunning | noTask => .failure
  | timeout => .timeout
  | interrupted => .interrupted
  | memory | queueFull | queueEmpty | poolEmpty | taskTableFull => .memory
  | queueCapacity | invalid | stackTooSmall | idleSuspended | unknownService
  | unknownTask | suspendIdle | notSuspended | notSuspendable
  | unknownMutex | mutexOverflow | unknownQueue => .invalid

/-- The error that stands for a class.  Success has none, so it counts as an
unspecified failure. -/
def ofStatus : Status → Error
  | .success | .failure => failure
  | .timeout => timeout
  | .memory => memory
  | .interrupted => interrupted
  | .invalid => invalid

/-- Whether the caller may simply try again later. -/
def isTimeout (error : Error) : Bool :=
  error.status == .timeout

theorem status_ne_success (error : Error) : error.status ≠ .success := by
  cases error <;> decide

end Error

end TickKernel
