/-
The ring of a message queue: a bounded first-in first-out store in a fixed
array.  Full and empty rings have equal indices, so the number of messages is
kept beside them.  `Ring.toList` is what a ring holds, oldest message first.
-/
import TickKernel.Task

namespace TickKernel

abbrev maxCapacity : Nat := 16

structure Ring where
  slots : Vector Message maxCapacity
  /-- How many of the slots are in use. -/
  capacity : Nat
  count : Nat
  /-- The next slot to write. -/
  write : Nat
  /-- The next slot to read. -/
  read : Nat
deriving DecidableEq, Repr

namespace Ring

def ofCapacity (capacity : Nat) : Ring :=
  ⟨Vector.replicate maxCapacity 0, capacity, 0, 0, 0⟩

def slot (ring : Ring) (index : Nat) : Message :=
  ring.slots[index]?.getD 0

def toList (ring : Ring) : List Message :=
  (List.range ring.count).map fun i =>
    ring.slot ((ring.read + i) % ring.capacity)

def isFull (ring : Ring) : Bool :=
  ring.count == ring.capacity

def push (ring : Ring) (message : Message) : Ring :=
  { ring with
    slots := ring.slots.setIfInBounds ring.write message
    write := (ring.write + 1) % ring.capacity
    count := ring.count + 1 }

/-- Take the oldest message out, unless there is none.  Its slot is blanked. -/
def pop? (ring : Ring) : Option (Message × Ring) :=
  if ring.count = 0 then none
  else
    some (ring.slot ring.read,
      { ring with
        slots := ring.slots.setIfInBounds ring.read 0
        read := (ring.read + 1) % ring.capacity
        count := ring.count - 1 })

/-- The ring without its oldest message. -/
def dropped (ring : Ring) : Ring :=
  { ring with
    slots := ring.slots.setIfInBounds ring.read 0
    read := (ring.read + 1) % ring.capacity
    count := ring.count - 1 }

/-- The bookkeeping of a ring is in order: the indices stay inside the part in
use, and the next slot to write follows the stored messages. -/
structure Valid (ring : Ring) : Prop where
  capacity_pos : 0 < ring.capacity
  capacity_le : ring.capacity ≤ maxCapacity
  count_le : ring.count ≤ ring.capacity
  read_lt : ring.read < ring.capacity
  write_eq : ring.write = (ring.read + ring.count) % ring.capacity

theorem valid_ofCapacity {capacity : Nat} (hpos : 0 < capacity)
    (hle : capacity ≤ maxCapacity) : (ofCapacity capacity).Valid :=
  ⟨hpos, hle, Nat.zero_le _, hpos, by simp [ofCapacity, Nat.zero_mod]⟩

@[simp] theorem toList_ofCapacity (capacity : Nat) :
    (ofCapacity capacity).toList = [] :=
  rfl

@[simp] theorem length_toList (ring : Ring) :
    ring.toList.length = ring.count := by
  simp [toList]

theorem slot_setIfInBounds {ring : Ring} {message : Message} {i j : Nat}
    (hi : i < maxCapacity) :
    (ring.slots.setIfInBounds i message)[j]?.getD 0 =
      if i = j then message else ring.slot j := by
  rw [Vector.getElem?_setIfInBounds, slot]
  by_cases hij : i = j
  · subst hij
    simp [hi]
  · simp [hij]

theorem slot_ofCapacity (capacity index : Nat) :
    (ofCapacity capacity).slot index = 0 := by
  rw [slot, ofCapacity, Vector.getElem?_replicate]
  split <;> rfl

theorem slot_push {ring : Ring} {message : Message}
    (hwrite : ring.write < maxCapacity) (index : Nat) :
    (ring.push message).slot index =
      if ring.write = index then message else ring.slot index :=
  slot_setIfInBounds hwrite

theorem slot_dropped {ring : Ring} (hread : ring.read < maxCapacity)
    (index : Nat) :
    ring.dropped.slot index = if ring.read = index then 0
      else ring.slot index :=
  slot_setIfInBounds hread

/-- There was a message, and the ring goes on without it. -/
theorem eq_dropped_of_pop {ring rest : Ring} {message : Message}
    (hpop : ring.pop? = some (message, rest)) :
    ring.count ≠ 0 ∧ message = ring.slot ring.read ∧ rest = ring.dropped := by
  rw [pop?] at hpop
  split at hpop
  · cases hpop
  · rename_i hcount
    cases hpop
    exact ⟨hcount, rfl, rfl⟩

/-- Two positions less than a whole round apart lie in different slots. -/
theorem mod_ne_of_lt {capacity a b : Nat} (hab : a < b)
    (hround : b < a + capacity) :
    a % capacity ≠ b % capacity := by
  intro heq
  have hzero : (b - a) % capacity = 0 := Nat.sub_mod_eq_zero_of_mod_eq heq.symm
  rw [Nat.mod_eq_of_lt (by omega)] at hzero
  omega

theorem Valid.write_lt {ring : Ring} (h : ring.Valid) :
    ring.write < maxCapacity := by
  rw [h.write_eq]
  exact Nat.lt_of_lt_of_le (Nat.mod_lt _ h.capacity_pos) h.capacity_le

theorem Valid.read_lt_maxCapacity {ring : Ring} (h : ring.Valid) :
    ring.read < maxCapacity :=
  Nat.lt_of_lt_of_le h.read_lt h.capacity_le

theorem toList_push {ring : Ring} (h : ring.Valid)
    (hroom : ring.count < ring.capacity) (message : Message) :
    (ring.push message).toList = ring.toList ++ [message] := by
  simp only [toList, push, slot, List.range_succ, List.map_append,
    List.map_cons, List.map_nil]
  congr 1
  · apply List.map_congr_left
    intro i hi
    rw [List.mem_range] at hi
    rw [slot_setIfInBounds h.write_lt, if_neg, slot]
    rw [h.write_eq]
    exact (mod_ne_of_lt (by omega) (by omega)).symm
  · rw [slot_setIfInBounds h.write_lt, if_pos h.write_eq]

theorem valid_push {ring : Ring} (h : ring.Valid)
    (hroom : ring.count < ring.capacity) (message : Message) :
    (ring.push message).Valid where
  capacity_pos := h.capacity_pos
  capacity_le := h.capacity_le
  count_le := hroom
  read_lt := h.read_lt
  write_eq := by
    simp only [push, h.write_eq, Nat.mod_add_mod, Nat.add_assoc]

/-- Nothing is taken out of an empty ring, and of another one the oldest
message is. -/
theorem pop?_eq_none_iff (ring : Ring) :
    ring.pop? = none ↔ ring.toList = [] := by
  rw [← List.length_eq_zero_iff, length_toList, pop?]
  split <;> simp_all

theorem toList_pop {ring rest : Ring} {message : Message} (h : ring.Valid)
    (hpop : ring.pop? = some (message, rest)) :
    ring.toList = message :: rest.toList := by
  obtain ⟨hcount, rfl, rfl⟩ := eq_dropped_of_pop hpop
  obtain ⟨count, hsucc⟩ := Nat.exists_eq_succ_of_ne_zero hcount
  have hle := h.count_le
  simp only [toList, dropped, hsucc, Nat.succ_eq_add_one, Nat.add_sub_cancel,
    List.range_succ_eq_map, List.map_cons, List.map_map, Nat.add_zero,
    Nat.mod_eq_of_lt h.read_lt]
  congr 1
  apply List.map_congr_left
  intro i hi
  rw [List.mem_range] at hi
  simp only [Function.comp_apply, Nat.mod_add_mod, slot]
  rw [slot_setIfInBounds h.read_lt_maxCapacity, if_neg, slot]
  · congr 3
    omega
  · have hne : ring.read % ring.capacity ≠
        (ring.read + 1 + i) % ring.capacity :=
      mod_ne_of_lt (by omega) (by omega)
    rwa [Nat.mod_eq_of_lt h.read_lt] at hne

theorem valid_pop {ring rest : Ring} {message : Message} (h : ring.Valid)
    (hpop : ring.pop? = some (message, rest)) : rest.Valid := by
  obtain ⟨hcount, rfl, rfl⟩ := eq_dropped_of_pop hpop
  have hle := h.count_le
  refine ⟨h.capacity_pos, h.capacity_le, ?_, Nat.mod_lt _ h.capacity_pos, ?_⟩
  · exact Nat.le_trans (Nat.sub_le ring.count 1) hle
  · simp only [dropped, h.write_eq, Nat.mod_add_mod]
    congr 1
    omega

namespace Witness

/-- A ring of two that has wrapped around. -/
def wrapped : Ring :=
  match ((ofCapacity 2).push 1 |>.push 2).pop? with
  | some (_, ring) => ring.push 3
  | none => ofCapacity 2

example : wrapped.toList = [2, 3] ∧ wrapped.isFull = true := by decide

example :
    (wrapped.pop?.bind fun taken => taken.2.pop?).map Prod.fst = some 3 := by
  decide

end Witness

end Ring

end TickKernel
