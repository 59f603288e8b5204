/-
Tick arithmetic.  The clock is a 32-bit counter that wraps, so a deadline is
compared with the clock by the sign of their difference.  That is an order
only inside a window of half the counter range, which is why no timeout may
be longer than `Tick.maxTimeout`.
-/
import TickKernel.Error

namespace TickKernel

/-- A point on the wrapping clock, or a number of ticks. -/
abbrev Tick := UInt32

namespace Tick

def rate : UInt64 := 1000

/-- The longest timeout that the wrapping comparison can represent. -/
def maxTimeout : Tick := 0x7FFFFFFF

/-- Whether `deadline` is `now` or lies in the half of the range before it. -/
def reached (now deadline : Tick) : Bool :=
  decide (now - deadline ≤ maxTimeout)

/-- Whether deadline `a` lies strictly before deadline `b`. -/
def precedes (a b : Tick) : Bool :=
  decide (maxTimeout < a - b)

def acceptTimeout (timeout : Tick) : Except Error Unit :=
  if maxTimeout < timeout then .error .invalid else .ok ()

/-- The ticks in a span given in hours, minutes, seconds and milliseconds,
when every field is in its range and the ticks fit the counter. -/
def ofClock (hours : UInt16) (minutes seconds : UInt8)
    (milliseconds : UInt16) : Except Error Tick :=
  if minutes > 59 || seconds > 59 || milliseconds > 999 then .error .invalid
  else
    let total : UInt64 := hours.toUInt64 * 3600000 + minutes.toUInt64 * 60000 +
      seconds.toUInt64 * 1000 + milliseconds.toUInt64
    let ticks := total * rate / 1000
    if ticks ≤ 0xFFFFFFFF then .ok ticks.toUInt32 else .error .invalid

/-- A deadline is reached exactly when it is not still ahead of the clock. -/
theorem reached_eq_not_precedes (now deadline : Tick) :
    reached now deadline = !precedes now deadline := by
  rw [reached, precedes, ← decide_not]
  simp only [UInt32.not_lt]

/-- Both comparisons see differences only, so moving every tick by the same
amount changes neither. -/
theorem reached_add (now deadline offset : Tick) :
    reached (now + offset) (deadline + offset) = reached now deadline := by
  have h : now + offset - (deadline + offset) = now - deadline := by
    grind
  simp only [reached, h]

theorem precedes_add (a b offset : Tick) :
    precedes (a + offset) (b + offset) = precedes a b := by
  have h : a + offset - (b + offset) = a - b := by
    grind
  simp only [precedes, h]

namespace Witness

example : reached 3 (0 - 3) = true := by decide

example : precedes 0xFFFFFFFF 1 = true := by decide

/-- Half the range apart, each of two ticks lies before the other. -/
example :
    precedes 0 0x80000000 = true ∧ precedes 0x80000000 0 = true := by decide

example : ofClock 0 0 1 500 = .ok 1500 := by rfl

end Witness

end Tick

end TickKernel
