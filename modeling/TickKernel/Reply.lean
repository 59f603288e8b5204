/-
A reply is the result of a service call as two registers carry it: the class
of the result and its value.
-/
import TickKernel.Error

namespace TickKernel

/-- The class of a result together with its value, zero for an error. -/
structure Reply where
  status : Status
  value : UInt64
deriving DecidableEq, Repr

namespace Reply

def ok (value : UInt64) : Reply :=
  ⟨.success, value⟩

def err (status : Status) : Reply :=
  ⟨status, 0⟩

/-- The reply of a call that succeeded with nothing to tell. -/
def done : Reply :=
  ok 0

/-- What is left of a result once only its class can travel. -/
def ofResult : Except Error UInt64 → Reply
  | .ok value => ok value
  | .error error => err error.status

def toResult (reply : Reply) : Except Error UInt64 :=
  match reply.status with
  | .success => .ok reply.value
  | status => .error (Error.ofStatus status)

end Reply

end TickKernel
