/-
Fixed pools: `n` slots, all present from the start, reached by an index that
cannot leave the pool.  A slot is read with `slot`, replaced with `put` and
changed in place with `modify`; the three equations below are all that later
modules need to know about them.
-/

namespace TickKernel

universe u

variable {α : Type u} {n : Nat}

/-- `n` slots of one kind, none of them ever added or taken away. -/
abbrev Pool (α : Type u) (n : Nat) := Vector α n

def Pool.filled (n : Nat) (a : α) : Pool α n :=
  Vector.replicate n a

def Pool.slot (pool : Pool α n) (i : Fin n) : α :=
  pool[i.val]

def Pool.put (pool : Pool α n) (i : Fin n) (a : α) : Pool α n :=
  pool.set i.val a

def Pool.modify (pool : Pool α n) (i : Fin n) (f : α → α) : Pool α n :=
  pool.put i (f (pool.slot i))

@[simp] theorem Pool.slot_filled (a : α) (i : Fin n) :
    (Pool.filled n a).slot i = a := by
  simp [Pool.filled, Pool.slot]

@[simp] theorem Pool.slot_put (pool : Pool α n) (i j : Fin n) (a : α) :
    (pool.put i a).slot j = if i = j then a else pool.slot j := by
  simp only [Pool.slot, Pool.put, Vector.getElem_set, Fin.ext_iff]

@[simp] theorem Pool.slot_modify (pool : Pool α n) (i j : Fin n) (f : α → α) :
    (pool.modify i f).slot j = if i = j then f (pool.slot i)
      else pool.slot j := by
  simp [Pool.modify]

/-- A pool is what its slots hold. -/
theorem Pool.ext_slot {pool other : Pool α n}
    (h : ∀ i, pool.slot i = other.slot i) : pool = other := by
  apply Vector.ext
  intro i hi
  exact h ⟨i, hi⟩

end TickKernel
