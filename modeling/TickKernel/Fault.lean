/-
Faults stop the machine.  They are kept apart from the errors that a call
reports to its caller: after an error the kernel goes on, after a fault
nothing does.
-/

namespace TickKernel

/-- The arithmetic operations whose result may leave the range of a word. -/
inductive Arithmetic where
  | addition
  | subtraction
  | multiplication
deriving DecidableEq, Repr

inductive Fault where
  /-- An invariant of the kernel does not hold. -/
  | assertion
  /-- The guard word at the base of a stack was overwritten. -/
  | stackOverflow
  /-- The application broke a rule, for instance the idle task returned. -/
  | application
  /-- A result left the range of its word. -/
  | overflow (operation : Arithmetic)
deriving DecidableEq, Repr

/-- The sum of two words, when it is a word. -/
def checkedAdd (a b : UInt32) : Except Fault UInt32 :=
  if a.toNat + b.toNat < UInt32.size then .ok (a + b)
  else .error (.overflow .addition)

def checkedMul (a b : UInt32) : Except Fault UInt32 :=
  if a.toNat * b.toNat < UInt32.size then .ok (a * b)
  else .error (.overflow .multiplication)

end TickKernel
