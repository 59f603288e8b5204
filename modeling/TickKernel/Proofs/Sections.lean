/-
Guards that come and go.  A routine creates guards, drops them, and runs other
routines in sections of their own, one inside the other.  At every moment the
nesting counter holds the number of guards alive, modulo its range: it tells
whether there is one as long as there are fewer than 256, and with 256 of them
it does not.
-/
import TickKernel.Critical

namespace TickKernel

namespace Critical

/-! ### Routines -/

/-- What a piece of code does with critical sections, one thing after the
other. -/
inductive Routine where
  /-- It is over. -/
  | done
  /-- It creates a guard. -/
  | enter (rest : Routine)
  /-- It drops a guard, if there is one that it may drop. -/
  | leave (rest : Routine)
  /-- It runs a body in a section. -/
  | within (body rest : Routine)
deriving DecidableEq, Repr

/-- A moment at which nothing is under way: before a thing is done, or at the
end of a routine.  Each of the sections around it has a guard that nobody else
may drop. -/
structure Moment where
  sections : Nat
  critical : Critical
deriving DecidableEq, Repr

/-- Drop a guard that belongs to none of the sections around, if there is
one. -/
def release (critical : Critical) (sections : Nat) : Critical :=
  if sections < critical.guards then critical.leave else critical

/-- The moments that a routine goes through inside so many sections, and how it
leaves the guards. -/
def Routine.run : Routine → Nat → Critical → List Moment × Critical
  | .done, sections, critical => ([⟨sections, critical⟩], critical)
  | .enter rest, sections, critical =>
      let later := rest.run sections critical.enter
      (⟨sections, critical⟩ :: later.1, later.2)
  | .leave rest, sections, critical =>
      let later := rest.run sections (critical.release sections)
      (⟨sections, critical⟩ :: later.1, later.2)
  | .within body rest, sections, critical =>
      let inside := critical.within (body.run (sections + 1))
      let later := rest.run sections inside.2
      (⟨sections, critical⟩ :: (inside.1 ++ later.1), later.2)

def Routine.moments (routine : Routine) (cell : UInt64) : List Moment :=
  (routine.run 0 (ofCell cell)).1

/-! ### The counter -/

/-- The counter holds the number of guards alive as far as it can, and the
sections around have theirs. -/
structure Counted (sections : Nat) (critical : Critical) : Prop where
  depth_eq : critical.depth = UInt8.ofNat critical.guards
  sections_le : sections ≤ critical.guards

section Counted

variable {sections : Nat} {critical : Critical}

theorem counted_ofCell (cell : UInt64) : Counted 0 (ofCell cell) :=
  ⟨rfl, Nat.le_refl 0⟩

theorem Counted.enter (h : Counted sections critical) :
    Counted sections critical.enter := by
  refine ⟨?_, Nat.le_succ_of_le h.sections_le⟩
  change critical.depth + 1 = UInt8.ofNat (critical.guards + 1)
  rw [h.depth_eq, UInt8.ofNat_add]
  rfl

/-- A section brings a guard of its own, -/
theorem Counted.opened (h : Counted sections critical) :
    Counted (sections + 1) critical.enter :=
  ⟨h.enter.depth_eq, Nat.succ_le_succ h.sections_le⟩

/-- and takes it away again, -/
theorem Counted.closed (h : Counted (sections + 1) critical) :
    Counted sections critical.leave := by
  have hle := h.sections_le
  have hsome : critical.guards ≠ 0 :=
    Nat.ne_of_gt (Nat.lt_of_lt_of_le (Nat.succ_pos _) hle)
  obtain ⟨others, hothers⟩ := Nat.exists_eq_succ_of_ne_zero hsome
  rw [leave, if_neg hsome]
  refine ⟨?_, Nat.le_sub_of_add_le hle⟩
  change critical.depth - 1 = UInt8.ofNat (critical.guards - 1)
  rw [h.depth_eq, hothers, Nat.succ_eq_add_one, Nat.add_sub_cancel,
    UInt8.ofNat_add]
  exact UInt8.add_sub_cancel _ _

/-- which nobody else does. -/
theorem Counted.release (h : Counted sections critical) :
    Counted sections (critical.release sections) := by
  rw [Critical.release]
  split
  · rename_i hfree
    exact Counted.closed ⟨h.depth_eq, hfree⟩
  · exact h

/-- The counter reads as open unless the guards alive fill its range, once or
several times. -/
theorem Counted.isOpen_iff (h : Counted sections critical) :
    critical.isOpen = true ↔ ¬256 ∣ critical.guards := by
  have hdepth := congrArg UInt8.toNat h.depth_eq
  rw [UInt8.toNat_ofNat'] at hdepth
  have hzero : (0 : UInt8).toNat = 0 := rfl
  rw [isOpen, decide_eq_true_eq, UInt8.lt_iff_toNat_lt, hzero, hdepth,
    Nat.dvd_iff_mod_eq_zero, Nat.pos_iff_ne_zero]

end Counted

/-! ### Every moment -/

/-- The counter is right at every moment of a routine, and after it. -/
theorem Routine.counted_run (routine : Routine) {sections : Nat}
    {critical : Critical} (h : Counted sections critical) :
    (∀ moment ∈ (routine.run sections critical).1,
      Counted moment.sections moment.critical) ∧
      Counted sections (routine.run sections critical).2 := by
  induction routine generalizing sections critical with
  | done => exact ⟨List.forall_mem_singleton.mpr h, h⟩
  | enter rest ih =>
      obtain ⟨hlater, hend⟩ := ih h.enter
      exact ⟨List.forall_mem_cons.mpr ⟨h, hlater⟩, hend⟩
  | leave rest ih =>
      obtain ⟨hlater, hend⟩ := ih h.release
      exact ⟨List.forall_mem_cons.mpr ⟨h, hlater⟩, hend⟩
  | within body rest ihBody ih =>
      obtain ⟨hinside, hclosing⟩ := ihBody h.opened
      obtain ⟨hlater, hend⟩ := ih hclosing.closed
      have hboth := List.forall_mem_append.mpr ⟨hinside, hlater⟩
      exact ⟨List.forall_mem_cons.mpr ⟨h, hboth⟩, hend⟩

/-- What the counter tells at a moment. -/
structure Moment.Told (moment : Moment) : Prop where
  isOpen_iff : moment.critical.isOpen = true ↔ ¬256 ∣ moment.critical.guards
  /-- Below its range it tells whether a guard is alive, -/
  right : moment.critical.guards < 256 →
    (moment.critical.isOpen = true ↔ 0 < moment.critical.guards)
  /-- and inside a section one is. -/
  alive : moment.sections ≤ moment.critical.guards

/-- Whatever a routine does, between any two things that it does and inside
every section the counter tells of the guards alive what its range allows. -/
theorem Routine.told_of_mem {routine : Routine} {cell : UInt64}
    {moment : Moment} (h : moment ∈ routine.moments cell) : moment.Told := by
  have hcounted := (routine.counted_run (counted_ofCell cell)).1 moment h
  refine ⟨hcounted.isOpen_iff, ?_, hcounted.sections_le⟩
  intro hfew
  rw [hcounted.isOpen_iff]
  constructor
  · intro hnot
    apply Nat.pos_of_ne_zero
    intro hzero
    exact hnot (hzero ▸ Nat.dvd_zero 256)
  · intro hpos hdvd
    exact Nat.not_lt.mpr (Nat.le_of_dvd hpos hdvd) hfew

namespace Witness

def entering (rest : Routine) : Nat → Routine
  | 0 => rest
  | times + 1 => .enter (entering rest times)

/-- Inside two sections a guard is created and one is dropped, which leaves one
to the outside. -/
def lending : Routine :=
  .within (.enter (.within (.enter (.leave .done)) .done)) .done

theorem told_lending :
    ⟨2, 4, 4, 0⟩ ∈ lending.moments 0 ∧ (lending.run 0 (ofCell 0)).2 =
      ⟨1, 1, 0⟩ ∧
      Moment.Told ⟨2, 4, 4, 0⟩ := by
  have hmem : ⟨2, 4, 4, 0⟩ ∈ lending.moments 0 := by decide
  exact ⟨hmem, by decide, Routine.told_of_mem hmem⟩

/-- With 255 guards alive a section reads from inside as if there were none. -/
theorem not_told_crowded :
    ¬∀ (routine : Routine) (cell : UInt64), ∀ moment ∈ routine.moments cell,
      (moment.critical.isOpen = true ↔ 0 < moment.critical.guards) := by
  intro htold
  have hmem : ⟨1, 0, 256, 0⟩ ∈
      (entering (.within .done .done) 255).moments 0 := by
    decide +kernel
  have hopen := (htold _ 0 _ hmem).mpr (Nat.succ_pos 255)
  cases hopen

end Witness

end Critical

end TickKernel
