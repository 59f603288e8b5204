/-
Critical sections.  A section is open as long as a guard of it is alive, and
guards nest.  How deep they nest is kept in one byte, which wraps: with 256
guards alive it reads as if there were none.
-/

namespace TickKernel

/-- The nesting counter, the guards that are alive, and a cell that is changed
only inside a section. -/
structure Critical where
  depth : UInt8
  guards : Nat
  cell : UInt64
deriving DecidableEq, Repr

namespace Critical

def ofCell (cell : UInt64) : Critical :=
  ⟨0, 0, cell⟩

/-- Whether the nesting counter tells of an open section. -/
def isOpen (critical : Critical) : Bool :=
  decide (0 < critical.depth)

def enter (critical : Critical) : Critical :=
  { critical with depth := critical.depth + 1, guards := critical.guards + 1 }

/-- Drop the newest guard, if there is one. -/
def leave (critical : Critical) : Critical :=
  if critical.guards = 0 then critical
  else
    { critical with depth := critical.depth - 1, guards := critical.guards - 1 }

def within {α : Type} (critical : Critical) (body : Critical → α × Critical) :
    α × Critical :=
  let ended := body critical.enter
  (ended.1, ended.2.leave)

def enterTimes (critical : Critical) : Nat → Critical
  | 0 => critical
  | times + 1 => critical.enter.enterTimes times

/-- Drop `times` guards, as far as there are any. -/
def leaveTimes (critical : Critical) : Nat → Critical
  | 0 => critical
  | times + 1 => critical.leave.leaveTimes times

/-- Add to the cell inside a section: the new content, and whether the section
reads as open from inside. -/
def addInside (critical : Critical) (amount : UInt64) :
    (UInt64 × Bool) × Critical :=
  critical.within fun inner =>
    let inner := { inner with cell := inner.cell + amount }
    ((inner.cell, inner.isOpen), inner)

/-- Open a section inside a section: whether the inner one reads as open from
inside, and whether the outer one does after it. -/
def nested (critical : Critical) : (Bool × Bool) × Critical :=
  critical.within fun outer =>
    let inner := outer.within fun inner => (inner.isOpen, inner)
    ((inner.1, inner.2.isOpen), inner.2)

namespace Witness

/-- The counter wraps at 256 guards. -/
example : ((ofCell 0).enterTimes 256).isOpen = false ∧
    ((ofCell 0).enterTimes 256).guards = 256 := by
  decide +kernel

example : (ofCell 41).addInside 1 = ((42, true), ofCell 42) := by decide

end Witness

end Critical

end TickKernel
