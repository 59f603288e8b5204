/-
The platform under the kernel, simulated: time moves only when it is moved,
and a request to switch tasks is counted where hardware would raise an
exception.  How its two hooks end is part of its state.
-/
import TickKernel.Task

namespace TickKernel

structure Platform where
  clock : Tick
  /-- How often the hook that asks for a switch was called.  A counter that the
  platform keeps of its own, and that may wrap around, is another matter. -/
  requests : Nat
  /-- How often the hook that brings the platform up was called. -/
  setups : Nat
  entered : Bool
  /-- The address that a task returns to when its entry routine ends. -/
  exitAddress : Address
  /-- How bringing the platform up ends. -/
  setupFailure : Option Error
  entryFailure : Option Error
  /-- Whether the registers of a new task tell the task and the register. -/
  seeded : Bool
deriving DecidableEq, Repr

namespace Platform

def defaultExitAddress : Address := 0x08000101

def fresh (exitAddress : Address := defaultExitAddress)
    (setupFailure entryFailure : Option Error := none)
    (seeded : Bool := false) : Platform where
  clock := 0
  requests := 0
  setups := 0
  entered := false
  exitAddress
  setupFailure
  entryFailure
  seeded

def advance (platform : Platform) (ticks : Tick) : Platform :=
  { platform with clock := platform.clock + ticks }

def askForSwitch (platform : Platform) : Platform :=
  { platform with requests := platform.requests + 1 }

def outcome : Option Error → Except Error Unit
  | none => .ok ()
  | some error => .error error

def bringUp (platform : Platform) : Except Error Unit × Platform :=
  (outcome platform.setupFailure,
    { platform with setups := platform.setups + 1 })

/-- Arrange for the first task to be entered. -/
def enterFirst (platform : Platform) : Except Error Unit × Platform :=
  (outcome platform.entryFailure, { platform with entered := true })

end Platform

end TickKernel
