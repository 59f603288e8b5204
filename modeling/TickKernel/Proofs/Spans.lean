/-
Spans of time in clock fields.  A span is converted into ticks in 64 bits, and
no step on the way can leave that range.  So the conversion gives the exact
number of ticks whenever all fields are in range and the number fits the clock,
it respects the order of the fields, and beyond the first span that does not fit
none does.
-/
import TickKernel.Fault
import TickKernel.Tick

namespace TickKernel

/-- A span of time in hours, minutes, seconds and milliseconds. -/
structure Span where
  hours : UInt16
  minutes : UInt8
  seconds : UInt8
  milliseconds : UInt16
deriving DecidableEq, Repr

namespace Span

/-- The ticks in the span, when it has them. -/
def toTicks (span : Span) : Except Error Tick :=
  Tick.ofClock span.hours span.minutes span.seconds span.milliseconds

/-- All fields but the first are less than one of the field before. -/
def InRange (span : Span) : Prop :=
  span.minutes ≤ 59 ∧ span.seconds ≤ 59 ∧ span.milliseconds ≤ 999

instance (span : Span) : Decidable span.InRange :=
  inferInstanceAs (Decidable (_ ∧ _ ∧ _))

/-- The milliseconds in the span, however many. -/
def exactMilliseconds (span : Span) : Nat :=
  span.hours.toNat * 3600000 + span.minutes.toNat * 60000 +
    span.seconds.toNat * 1000 + span.milliseconds.toNat

/-- The whole ticks in the span, however many. -/
def exactTicks (span : Span) : Nat :=
  span.exactMilliseconds * Tick.rate.toNat / 1000

/-- The first field in which the spans differ is less in this one. -/
inductive Before (span other : Span) : Prop
  | hours (hless : span.hours < other.hours)
  | minutes (hhours : span.hours = other.hours)
      (hless : span.minutes < other.minutes)
  | seconds (hhours : span.hours = other.hours)
      (hminutes : span.minutes = other.minutes)
      (hless : span.seconds < other.seconds)
  | milliseconds (hhours : span.hours = other.hours)
      (hminutes : span.minutes = other.minutes)
      (hseconds : span.seconds = other.seconds)
      (hless : span.milliseconds < other.milliseconds)

/-! ### Arithmetic that stops -/

/-- A 64-bit number, or a stop when the result of the operation is none. -/
def checked (operation : Arithmetic) (result : Nat) : Except Fault UInt64 :=
  if result < UInt64.size then .ok (.ofNat result)
    else .error (.overflow operation)

/-- The conversion by arithmetic that stops the machine at the first result out
of range. -/
def checkedTicks (span : Span) : Except Fault (Except Error Tick) :=
  if span.minutes > 59 || span.seconds > 59 || span.milliseconds > 999 then
    .ok (.error .invalid)
  else do
    let hours ← checked .multiplication (span.hours.toUInt64.toNat * 3600000)
    let minutes ← checked .multiplication (span.minutes.toUInt64.toNat * 60000)
    let upToMinutes ← checked .addition (hours.toNat + minutes.toNat)
    let seconds ← checked .multiplication (span.seconds.toUInt64.toNat * 1000)
    let upToSeconds ← checked .addition (upToMinutes.toNat + seconds.toNat)
    let total ← checked .addition
      (upToSeconds.toNat + span.milliseconds.toUInt64.toNat)
    let scaled ← checked .multiplication (total.toNat * Tick.rate.toNat)
    let ticks := scaled / 1000
    return if ticks ≤ 0xFFFFFFFF then .ok ticks.toUInt32 else .error .invalid

/-! ### Exact results -/

section Exact

variable {span other : Span}

theorem outOfRange_iff :
    (span.minutes > 59 || span.seconds > 59 || span.milliseconds > 999) = true ↔
      ¬span.InRange := by
  simp only [InRange, Bool.or_eq_true, decide_eq_true_eq, gt_iff_lt,
    ← UInt8.not_le, ← UInt16.not_le, Decidable.not_and_iff_or_not, or_assoc]

theorem not_outOfRange (hrange : span.InRange) :
    ¬(span.minutes > 59 || span.seconds > 59 || span.milliseconds >
      999) = true :=
  fun hout => outOfRange_iff.mp hout hrange

theorem rate_eq : Tick.rate.toNat = 1000 :=
  rfl

/-- There is a tick in every millisecond. -/
theorem exactTicks_eq (span : Span) :
    span.exactTicks = span.exactMilliseconds := by
  rw [exactTicks, rate_eq, Nat.mul_div_cancel _ (Nat.succ_pos 999)]

/-- Even with every field at its greatest the milliseconds are far from the end
of 64 bits. -/
theorem exactMilliseconds_lt (span : Span) :
    span.exactMilliseconds < 300000000000 := by
  have hhours := span.hours.toNat_lt
  have hminutes := span.minutes.toNat_lt
  have hseconds := span.seconds.toNat_lt
  have hmilliseconds := span.milliseconds.toNat_lt
  rw [exactMilliseconds]
  omega

/-- What is in range does not stop the machine. -/
theorem bind_checked {α : Type} {operation : Arithmetic} {result : Nat}
    {rest : UInt64 → Except Fault α} {outcome : Except Fault α}
    (h : result < UInt64.size)
    (hrest : ∀ value, value.toNat = result → rest value = outcome) :
    (checked operation result >>= rest) = outcome := by
  rw [checked, if_pos h]
  exact hrest _ (UInt64.toNat_ofNat_of_lt' h)

/-- The ticks of a number of milliseconds, as the counter has them. -/
theorem scaled_eq {scaled : UInt64}
    (h : scaled.toNat = span.exactMilliseconds * 1000) :
    (if scaled / 1000 ≤ 0xFFFFFFFF then .ok (scaled / 1000).toUInt32
      else .error .invalid) =
      (if span.exactTicks < UInt32.size then .ok (.ofNat span.exactTicks)
        else .error .invalid : Except Error Tick) := by
  have hticks : (scaled / 1000).toNat = span.exactTicks := by
    have hthousand : (1000 : UInt64).toNat = 1000 := rfl
    rw [UInt64.toNat_div, h, hthousand, exactTicks, rate_eq]
  have hfits : scaled / 1000 ≤ 0xFFFFFFFF ↔ span.exactTicks < UInt32.size := by
    have hmax : (0xFFFFFFFF : UInt64).toNat = 4294967295 := rfl
    rw [UInt64.le_iff_toNat_le, hticks, hmax, UInt32.size]
    omega
  simp only [hfits]
  have hword : (scaled / 1000).toUInt32 = .ofNat span.exactTicks := by
    rw [← hticks, UInt32.ofNat_uInt64ToNat]
  rw [hword]

/-- The conversion counts exactly. -/
theorem toTicks_eq (hrange : span.InRange) :
    span.toTicks =
      if span.exactTicks < UInt32.size then .ok (.ofNat span.exactTicks)
      else .error .invalid := by
  have hlt := span.exactMilliseconds_lt
  rw [toTicks, Tick.ofClock, if_neg (not_outOfRange hrange)]
  apply scaled_eq
  rw [exactMilliseconds] at hlt ⊢
  have hhour : (3600000 : UInt64).toNat = 3600000 := rfl
  have hminute : (60000 : UInt64).toNat = 60000 := rfl
  have hsecond : (1000 : UInt64).toNat = 1000 := rfl
  simp only [UInt64.toNat_mul, UInt64.toNat_add, UInt16.toNat_toUInt64,
    UInt8.toNat_toUInt64, hhour, hminute, hsecond, rate_eq]
  omega

theorem toTicks_eq_invalid (hrange : ¬span.InRange) :
    span.toTicks = .error .invalid := by
  rw [toTicks, Tick.ofClock, if_pos (outOfRange_iff.mpr hrange)]

/-- Arithmetic that stops comes to the same end: it never stops. -/
theorem checkedTicks_eq (span : Span) :
    span.checkedTicks = .ok span.toTicks := by
  by_cases hrange : span.InRange
  · -- Every result on the way is at most the last one, a thousand times the
    -- milliseconds.
    have hfits : ∀ result, result ≤ span.exactMilliseconds * 1000 →
        result < UInt64.size := by
      intro result hle
      have hlt := span.exactMilliseconds_lt
      rw [UInt64.size]
      omega
    rw [exactMilliseconds] at hfits
    rw [checkedTicks, if_neg (not_outOfRange hrange), toTicks_eq hrange,
      UInt16.toNat_toUInt64, UInt8.toNat_toUInt64, UInt8.toNat_toUInt64,
      UInt16.toNat_toUInt64, rate_eq]
    apply bind_checked (hfits _ (by omega))
    intro hours hhours
    apply bind_checked (hfits _ (by omega))
    intro minutes hminutes
    apply bind_checked (hfits _ (by omega))
    intro upToMinutes hupToMinutes
    apply bind_checked (hfits _ (by omega))
    intro seconds hseconds
    apply bind_checked (hfits _ (by omega))
    intro upToSeconds hupToSeconds
    apply bind_checked (hfits _ (by omega))
    intro total htotal
    apply bind_checked (hfits _ (by omega))
    intro scaled hscaled
    apply congrArg Except.ok
    apply scaled_eq
    rw [hscaled, htotal, hupToSeconds, hseconds, hupToMinutes, hminutes, hhours,
      exactMilliseconds]
  · rw [checkedTicks, if_pos (outOfRange_iff.mpr hrange),
      toTicks_eq_invalid hrange]

/-- The lesser fields of a span in range do not make up for a greater one. -/
theorem Before.exactTicks_lt (h : span.Before other) (hrange : span.InRange) :
    span.exactTicks < other.exactTicks := by
  obtain ⟨hminutes, hseconds, hmilliseconds⟩ := hrange
  rw [UInt8.le_iff_toNat_le] at hminutes hseconds
  rw [UInt16.le_iff_toNat_le] at hmilliseconds
  change span.minutes.toNat ≤ 59 at hminutes
  change span.seconds.toNat ≤ 59 at hseconds
  change span.milliseconds.toNat ≤ 999 at hmilliseconds
  rw [exactTicks_eq, exactTicks_eq, exactMilliseconds, exactMilliseconds]
  cases h with
  | hours hless =>
      rw [UInt16.lt_iff_toNat_lt] at hless
      omega
  | minutes hhours hless =>
      rw [UInt8.lt_iff_toNat_lt] at hless
      rw [hhours]
      omega
  | seconds hhours heq hless =>
      rw [UInt8.lt_iff_toNat_lt] at hless
      rw [hhours, heq]
      omega
  | milliseconds hhours heq heq' hless =>
      rw [UInt16.lt_iff_toNat_lt] at hless
      rw [hhours, heq, heq']
      omega

end Exact

/-! ### The conversion -/

/-- How a span is converted. -/
structure Converts (span : Span) : Prop where
  /-- No result on the way leaves its range. -/
  exact : span.checkedTicks = .ok span.toTicks
  /-- The span has to be in range and its ticks in that of the counter, and then
  they are what comes out. -/
  ok_iff : ∀ ticks, span.toTicks = .ok ticks ↔
    span.InRange ∧ span.exactTicks < UInt32.size ∧ ticks.toNat = span.exactTicks
  /-- Otherwise there is an error. -/
  error_iff : span.toTicks = .error .invalid ↔
    ¬(span.InRange ∧ span.exactTicks < UInt32.size)
  /-- A later span has more ticks, -/
  increases : ∀ later ticks ticks', span.InRange → later.InRange →
    span.Before later →
    span.toTicks = .ok ticks → later.toTicks = .ok ticks' → ticks < ticks'
  /-- and none if this one has none already. -/
  fails : ∀ later, span.InRange → later.InRange → span.Before later →
    (∃ error, span.toTicks = .error error) →
    ∃ error, later.toTicks = .error error

section Conversion

variable {span later : Span} {ticks ticks' : Tick}

theorem toTicks_eq_ite (span : Span) : span.toTicks =
    if span.InRange ∧ span.exactTicks < UInt32.size then
      .ok (.ofNat span.exactTicks)
    else .error .invalid := by
  by_cases hrange : span.InRange
  · rw [toTicks_eq hrange]
    simp only [hrange, true_and]
  · rw [toTicks_eq_invalid hrange, if_neg fun h => hrange h.1]

theorem toTicks_eq_ok_iff : span.toTicks = .ok ticks ↔
    span.InRange ∧ span.exactTicks < UInt32.size ∧
    ticks.toNat = span.exactTicks := by
  rw [toTicks_eq_ite]
  split
  · rename_i hfits
    have hvalue : (UInt32.ofNat span.exactTicks).toNat = span.exactTicks :=
      UInt32.toNat_ofNat_of_lt' hfits.2
    constructor
    · intro hok
      obtain rfl := Except.ok.inj hok
      exact ⟨hfits.1, hfits.2, hvalue⟩
    · rintro ⟨-, -, hticks⟩
      rw [← hticks, UInt32.ofNat_toNat]
  · rename_i hnot
    constructor
    · intro hok
      cases hok
    · rintro ⟨hrange, hlt, -⟩
      exact absurd ⟨hrange, hlt⟩ hnot

theorem toTicks_eq_error_iff : span.toTicks = .error .invalid ↔
    ¬(span.InRange ∧ span.exactTicks < UInt32.size) := by
  rw [toTicks_eq_ite]
  split
  · rename_i hfits
    exact ⟨nofun, fun hnot => absurd hfits hnot⟩
  · rename_i hnot
    exact ⟨fun _ => hnot, fun _ => rfl⟩

end Conversion

/-- Every span is converted exactly, in the order of spans. -/
theorem converts (span : Span) : span.Converts where
  exact := span.checkedTicks_eq
  ok_iff _ := toTicks_eq_ok_iff
  error_iff := toTicks_eq_error_iff
  increases later ticks ticks' hrange _ hbefore hok hok' := by
    obtain ⟨-, -, hticks⟩ := toTicks_eq_ok_iff.mp hok
    obtain ⟨-, -, hticks'⟩ := toTicks_eq_ok_iff.mp hok'
    rw [UInt32.lt_iff_toNat_lt, hticks, hticks']
    exact hbefore.exactTicks_lt hrange
  fails later hrange _ hbefore herror := by
    refine ⟨_, toTicks_eq_error_iff.mpr ?_⟩
    rintro ⟨-, hfits⟩
    have hless := hbefore.exactTicks_lt hrange
    have hok := toTicks_eq_ok_iff.mpr
      ⟨hrange, Nat.lt_trans hless hfits,
        UInt32.toNat_ofNat_of_lt' (Nat.lt_trans hless hfits)⟩
    obtain ⟨error, herror⟩ := herror
    rw [hok] at herror
    cases herror

/-- The longest span that fits the counter, and the shortest that does not. -/
example : toTicks ⟨1193, 2, 47, 295⟩ = .ok 0xFFFFFFFF ∧
    toTicks ⟨1193, 2, 47, 296⟩ = .error .invalid :=
  ⟨rfl, rfl⟩

end Span

end TickKernel
