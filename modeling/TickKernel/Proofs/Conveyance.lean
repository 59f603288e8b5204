/-
Messages on their way through a ring.  They are pushed into it and popped from
it in any order, as long as none is pushed while it is full.  However often the
indices go round, the messages come out as they went in, those still to come are
stored from the next slot to read on, every other slot is blank, and no step of
an operation is without a result.
-/
import TickKernel.Proofs.History

namespace TickKernel

namespace Ring

/-! ### Operations step by step -/

/-- Why a step of an operation has no result. -/
inductive Trap where
  /-- There is no slot with this index. -/
  | outside
  /-- There is no remainder of a division by zero. -/
  | zeroDivisor
  /-- The result does not fit its 64 bits. -/
  | overflow (operation : Arithmetic)
deriving DecidableEq, Repr

/-- The sum of two numbers, when it fits. -/
def sum (a b : Nat) : Except Trap Nat :=
  if a + b < UInt64.size then .ok (a + b) else .error (.overflow .addition)

/-- The difference of two numbers, when it is none below zero. -/
def difference (a b : Nat) : Except Trap Nat :=
  if b ≤ a then .ok (a - b) else .error (.overflow .subtraction)

/-- The remainder of a division, when there is one. -/
def remainder (a b : Nat) : Except Trap Nat :=
  if b = 0 then .error .zeroDivisor else .ok (a % b)

/-- The message in a slot and the slots with another one in its place, when
there is such a slot. -/
def exchange (slots : Vector Message maxCapacity) (index : Nat)
    (message : Message) :
    Except Trap (Message × Vector Message maxCapacity) :=
  if h : index < maxCapacity then .ok (slots[index], slots.set index message)
  else .error .outside

/-- The index after another one, around the end. -/
def successor (ring : Ring) (index : Nat) : Except Trap Nat := do
  remainder (← sum index 1) ring.capacity

/-- Store a message behind all others by steps that need a result each. -/
def checkedPush (ring : Ring) (message : Message) : Except Trap Ring := do
  let (_, slots) ← exchange ring.slots ring.write message
  let write ← ring.successor ring.write
  let count ← sum ring.count 1
  return { ring with slots, write, count }

/-- Take the oldest message out, unless there is none, by steps that need a
result each. -/
def checkedPop? (ring : Ring) : Except Trap (Option (Message × Ring)) :=
  if ring.count = 0 then .ok none
  else do
    let (message, slots) ← exchange ring.slots ring.read 0
    let read ← ring.successor ring.read
    let count ← difference ring.count 1
    return some (message, { ring with slots, read, count })

section Steps

variable {ring : Ring} {index : Nat} {message : Message}

theorem slot_eq_getElem (hindex : index < maxCapacity) :
    ring.slot index = ring.slots[index] := by
  rw [slot, Vector.getElem?_eq_getElem hindex, Option.getD_some]

theorem exchange_eq (hindex : index < maxCapacity) :
    exchange ring.slots index message =
      .ok (ring.slot index, ring.slots.setIfInBounds index message) := by
  have hset : ring.slots.set index message hindex =
      ring.slots.setIfInBounds index message := by
    apply Vector.ext
    intro other hother
    rw [Vector.getElem_set, Vector.getElem_setIfInBounds]
  rw [exchange, dif_pos hindex, slot_eq_getElem hindex, hset]

/-- The numbers in a ring are far from the end of 64 bits. -/
theorem sum_one_eq {number : Nat} (hle : number ≤ maxCapacity) :
    sum number 1 = .ok (number + 1) :=
  if_pos (Nat.lt_of_le_of_lt (Nat.succ_le_succ hle) (by decide))

theorem Valid.successor_eq (h : ring.Valid) (hindex : index < maxCapacity) :
    ring.successor index = .ok ((index + 1) % ring.capacity) := by
  rw [successor, sum_one_eq (Nat.le_of_lt hindex)]
  exact if_neg (Nat.ne_of_gt h.capacity_pos)

theorem Valid.checkedPush_eq (h : ring.Valid) (message : Message) :
    ring.checkedPush message = .ok (ring.push message) := by
  have hcount : ring.count ≤ maxCapacity :=
    Nat.le_trans h.count_le h.capacity_le
  rw [checkedPush, exchange_eq h.write_lt, h.successor_eq h.write_lt,
    sum_one_eq hcount]
  rfl

theorem Valid.checkedPop?_eq (h : ring.Valid) :
    ring.checkedPop? = .ok ring.pop? := by
  rw [checkedPop?, pop?]
  split
  · rfl
  · rename_i hcount
    have hdifference : difference ring.count 1 = .ok (ring.count - 1) :=
      if_pos (Nat.one_le_iff_ne_zero.mpr hcount)
    have hread := h.read_lt_maxCapacity
    rw [exchange_eq hread, h.successor_eq hread, hdifference]
    rfl

end Steps

/-! ### Live and blank slots -/

/-- The slot holds one of the stored messages. -/
def IsLive (ring : Ring) (index : Nat) : Prop :=
  ∃ i < ring.count, (ring.read + i) % ring.capacity = index

/-- No slot holds a message that is not stored. -/
def Blank (ring : Ring) : Prop :=
  ∀ index, ¬ring.IsLive index → ring.slot index = 0

section Blank

variable {ring rest : Ring} {index : Nat} {message : Message}

/-- The slots that are live hold the stored messages in order. -/
theorem Valid.getElem?_live (h : ring.Valid) {i : Nat} (hi : i < ring.count) :
    ring.slots[(ring.read + i) % ring.capacity]? = ring.toList[i]? := by
  have hindex : (ring.read + i) % ring.capacity < maxCapacity :=
    Nat.lt_of_lt_of_le (Nat.mod_lt _ h.capacity_pos) h.capacity_le
  rw [toList, List.getElem?_map, List.getElem?_range hi, Option.map_some,
    Vector.getElem?_eq_getElem hindex, slot_eq_getElem hindex]

theorem blank_ofCapacity (capacity : Nat) : (ofCapacity capacity).Blank :=
  fun index _ => slot_ofCapacity capacity index

theorem Blank.push (hblank : ring.Blank) (h : ring.Valid) (message : Message) :
    (ring.push message).Blank := by
  intro index hdead
  have hwrite : ring.write ≠ index := by
    intro heq
    exact hdead ⟨ring.count, Nat.lt_succ_self _, h.write_eq.symm.trans heq⟩
  rw [slot_push h.write_lt, if_neg hwrite]
  apply hblank
  rintro ⟨i, hi, hindex⟩
  exact hdead ⟨i, Nat.lt_succ_of_lt hi, hindex⟩

theorem Blank.pop (hblank : ring.Blank) (h : ring.Valid)
    (hpop : ring.pop? = some (message, rest)) : rest.Blank := by
  obtain ⟨-, rfl, rfl⟩ := eq_dropped_of_pop hpop
  intro index hdead
  rw [slot_dropped h.read_lt_maxCapacity]
  split
  · rfl
  · rename_i hread
    apply hblank
    rintro ⟨i, hi, hindex⟩
    cases i with
    | zero =>
        rw [Nat.add_zero, Nat.mod_eq_of_lt h.read_lt] at hindex
        exact hread hindex
    | succ i =>
        -- Seen from the next slot to read the live ones are all one closer.
        refine hdead ⟨i, Nat.lt_sub_of_add_lt hi, ?_⟩
        change ((ring.read + 1) % ring.capacity + i) % ring.capacity = index
        rw [← hindex, Nat.mod_add_mod, Nat.add_assoc, Nat.add_comm 1 i]

theorem Blank.eq_zero (hblank : ring.Blank)
    (hmessage : ring.slots[index]? = some message)
    (hdead : ∀ i < ring.count, (ring.read + i) % ring.capacity ≠ index) :
    message = 0 := by
  have hslot : ring.slot index = message := by
    rw [slot, hmessage, Option.getD_some]
  rw [← hslot]
  apply hblank
  rintro ⟨i, hi, hlive⟩
  exact hdead i hi hlive

end Blank

/-! ### Traffic -/

/-- What is asked of a ring. -/
inductive Request where
  | push (message : Message)
  | pop
deriving DecidableEq, Repr

/-- A ring, with the messages that went into it and those that came out, oldest
first. -/
structure Traffic where
  ring : Ring
  pushed : List Message
  popped : List Message
deriving DecidableEq, Repr

namespace Traffic

/-- The ring before anything went into it. -/
def start (ring : Ring) : Traffic :=
  ⟨ring, [], []⟩

/-- The messages that went in and did not come out. -/
def stored (traffic : Traffic) : List Message :=
  traffic.pushed.drop traffic.popped.length

/-- A message went in. -/
def addPushed (traffic : Traffic) (message : Message) (ring : Ring) : Traffic :=
  ⟨ring, traffic.pushed ++ [message], traffic.popped⟩

/-- A message came out, unless there was none. -/
def addPopped (traffic : Traffic) : Option (Message × Ring) → Traffic
  | none => traffic
  | some (message, ring) => ⟨ring, traffic.pushed, traffic.popped ++ [message]⟩

/-- Do what is asked. -/
def serve (traffic : Traffic) : Request → Traffic
  | .push message => traffic.addPushed message (traffic.ring.push message)
  | .pop => traffic.addPopped traffic.ring.pop?

/-- Do what is asked by steps that need a result each. -/
def checkedServe (traffic : Traffic) : Request → Except Trap Traffic
  | .push message =>
      traffic.addPushed message <$> traffic.ring.checkedPush message
  | .pop => traffic.addPopped <$> traffic.ring.checkedPop?

/-- Do what is asked, one thing after the other. -/
def serveAll (traffic : Traffic) (requests : List Request) : Traffic :=
  requests.foldl serve traffic

/-- Do what is asked, one thing after the other, by steps that need a result
each. -/
def checkedServeAll (traffic : Traffic) (requests : List Request) :
    Except Trap Traffic :=
  requests.foldlM checkedServe traffic

/-- There is room for what is pushed. -/
def Admits (traffic : Traffic) : Request → Prop
  | .push _ => traffic.ring.isFull = false
  | .pop => True

/-- There is room for what is pushed whenever something is. -/
def AdmitsAll : Traffic → List Request → Prop
  | _, [] => True
  | traffic, request :: rest =>
      traffic.Admits request ∧ (traffic.serve request).AdmitsAll rest

instance (traffic : Traffic) :
    (request : Request) → Decidable (traffic.Admits request)
  | .push _ => inferInstanceAs (Decidable (_ = _))
  | .pop => .isTrue trivial

instance decidableAdmitsAll : (traffic : Traffic) → (requests : List Request) →
    Decidable (traffic.AdmitsAll requests)
  | _, [] => .isTrue trivial
  | traffic, request :: rest =>
      have := decidableAdmitsAll (traffic.serve request) rest
      inferInstanceAs (Decidable (_ ∧ _))

/-- The ring is in order, and what went in is accounted for. -/
structure Sound (capacity : Nat) (traffic : Traffic) : Prop where
  valid : traffic.ring.Valid
  capacity_eq : traffic.ring.capacity = capacity
  pushed_eq : traffic.pushed = traffic.popped ++ traffic.ring.toList
  blank : traffic.ring.Blank

/-- Messages come out of a ring of `capacity` slots as they went in. -/
structure Fifo (capacity : Nat) (traffic : Traffic) : Prop where
  capacity_eq : traffic.ring.capacity = capacity
  pushed_eq : traffic.pushed = traffic.popped ++ traffic.stored
  count_eq : traffic.ring.count = traffic.stored.length
  count_le : traffic.ring.count ≤ capacity
  read_lt : traffic.ring.read < capacity
  write_lt : traffic.ring.write < capacity
  write_eq : traffic.ring.write = (traffic.ring.read + traffic.ring.count) %
    capacity
  /-- The next slots to read hold the stored messages in order, -/
  slots_eq : ∀ i < traffic.ring.count,
    traffic.ring.slots[(traffic.ring.read + i) % capacity]? = traffic.stored[i]?
  /-- and the others hold none. -/
  blank : ∀ index message, traffic.ring.slots[index]? = some message →
    (∀ i < traffic.ring.count, (traffic.ring.read + i) % capacity ≠ index) →
    message = 0
  pop?_eq_none_iff : traffic.ring.pop? = none ↔ traffic.stored = []
  isFull_iff : traffic.ring.isFull = true ↔ traffic.stored.length = capacity

section Sound

variable {capacity : Nat} {traffic : Traffic} {requests : List Request}

theorem sound_start (hpos : 0 < capacity) (hle : capacity ≤ maxCapacity) :
    (start (ofCapacity capacity)).Sound capacity :=
  ⟨valid_ofCapacity hpos hle, rfl, rfl, blank_ofCapacity capacity⟩

theorem Sound.push (h : traffic.Sound capacity)
    (hroom : traffic.ring.isFull = false) (message : Message) :
    (traffic.serve (.push message)).Sound capacity := by
  have hcount : traffic.ring.count < traffic.ring.capacity :=
    Nat.lt_of_le_of_ne h.valid.count_le (ne_of_beq_false hroom)
  refine ⟨valid_push h.valid hcount message, h.capacity_eq, ?_,
    h.blank.push h.valid message⟩
  calc traffic.pushed ++ [message]
      = traffic.popped ++ (traffic.ring.toList ++ [message]) := by
        rw [h.pushed_eq, List.append_assoc]
    _ = traffic.popped ++ (traffic.ring.push message).toList := by
        rw [toList_push h.valid hcount]

theorem Sound.pop (h : traffic.Sound capacity) :
    (traffic.serve .pop).Sound capacity := by
  rw [serve]
  cases hpop : traffic.ring.pop? with
  | none => exact h
  | some taken =>
      obtain ⟨message, rest⟩ := taken
      refine ⟨valid_pop h.valid hpop, ?_, ?_, h.blank.pop h.valid hpop⟩
      · obtain ⟨-, -, rfl⟩ := eq_dropped_of_pop hpop
        exact h.capacity_eq
      · calc traffic.pushed
            = traffic.popped ++ (message :: rest.toList) := by
              rw [h.pushed_eq, toList_pop h.valid hpop]
          _ = traffic.popped ++ [message] ++ rest.toList :=
          List.append_cons _ _ _

theorem Sound.serve (h : traffic.Sound capacity) {request : Request}
    (hadmits : traffic.Admits request) :
    (traffic.serve request).Sound capacity := by
  cases request with
  | push message => exact h.push hadmits message
  | pop => exact h.pop

theorem Sound.checkedServe_eq (h : traffic.Sound capacity) (request : Request) :
    traffic.checkedServe request = .ok (traffic.serve request) := by
  cases request with
  | push message =>
      rw [checkedServe, h.valid.checkedPush_eq, Traffic.serve]; rfl
  | pop => rw [checkedServe, h.valid.checkedPop?_eq, Traffic.serve]; rfl

/-- Whatever is asked, as long as there is room for what is pushed, every step
has a result and the traffic stays sound. -/
theorem Sound.serveAll (h : traffic.Sound capacity)
    (hadmits : traffic.AdmitsAll requests) :
    traffic.checkedServeAll requests = .ok (traffic.serveAll requests) ∧
      (traffic.serveAll requests).Sound capacity := by
  induction requests generalizing traffic with
  | nil => exact ⟨rfl, h⟩
  | cons request rest ih =>
      obtain ⟨hfirst, hrest⟩ := hadmits
      rw [checkedServeAll, List.foldlM_cons, h.checkedServe_eq]
      exact ih (h.serve hfirst) hrest

theorem Sound.stored_eq (h : traffic.Sound capacity) :
    traffic.stored = traffic.ring.toList := by
  rw [stored, h.pushed_eq, List.drop_left]

/-- In sound traffic messages come out as they went in. -/
theorem Sound.fifo (h : traffic.Sound capacity) : traffic.Fifo capacity := by
  obtain rfl := h.capacity_eq
  have hvalid := h.valid
  exact
    { capacity_eq := rfl
      pushed_eq := by
        rw [h.stored_eq]
        exact h.pushed_eq
      count_eq := by rw [h.stored_eq, length_toList]
      count_le := hvalid.count_le
      read_lt := hvalid.read_lt
      write_lt := by
        rw [hvalid.write_eq]
        exact Nat.mod_lt _ hvalid.capacity_pos
      write_eq := hvalid.write_eq
      slots_eq := by
        intro i hi
        rw [h.stored_eq]
        exact hvalid.getElem?_live hi
      blank := fun _ _ => h.blank.eq_zero
      pop?_eq_none_iff := by
        rw [h.stored_eq]
        exact traffic.ring.pop?_eq_none_iff
      isFull_iff := by rw [h.stored_eq, length_toList, isFull, beq_iff_eq] }

end Sound

end Traffic

/-- The ring does what is asked as a first-in first-out store of `capacity`
messages. -/
structure Conveys (capacity : Nat) (ring : Ring) (requests : List Request) :
    Prop where
  /-- No step on the way is without a result, -/
  exact : (Traffic.start ring).checkedServeAll requests =
    .ok ((Traffic.start ring).serveAll requests)
  /-- and the messages are where they belong afterwards. -/
  fifo : ((Traffic.start ring).serveAll requests).Fifo capacity

end Ring

/-! ### Created queues -/

namespace Kernel

variable {k k' : Kernel} {capacity : UInt64} {id : QueueId}
  {requests : List Ring.Request}

theorem ring_of_createQueue (hcreate : k.createQueue capacity = (.ok id, k')) :
    0 < capacity.toNat ∧ capacity.toNat ≤ maxCapacity ∧
      (k'.queue id).ring = Ring.ofCapacity capacity.toNat := by
  rw [createQueue] at hcreate
  split at hcreate
  · cases hcreate
  rename_i hcapacity
  split at hcreate
  · cases hcreate
    rw [Bool.or_eq_true, decide_eq_true_eq, decide_eq_true_eq, not_or,
      Nat.not_lt]
      at hcapacity
    refine ⟨Nat.pos_of_ne_zero fun hzero => ?_, hcapacity.2, ?_⟩
    · exact hcapacity.1 (UInt64.toNat_inj.mp hzero)
    · rw [queue, putQueue, Pool.slot_put, if_pos rfl]
      rfl
  · cases hcreate

/-- The ring of a new queue has room for as many messages as was asked for, and
conveys them in order. -/
theorem conveys_of_createQueue (hcreate : k.createQueue capacity = (.ok id, k'))
    (hadmits : (Ring.Traffic.start (k'.queue id).ring).AdmitsAll requests) :
    (k'.queue id).ring.Conveys capacity.toNat requests := by
  obtain ⟨hpos, hle, hring⟩ := ring_of_createQueue hcreate
  rw [hring] at hadmits ⊢
  obtain ⟨hexact, hsound⟩ :=
    (Ring.Traffic.sound_start hpos hle).serveAll hadmits
  exact ⟨hexact, hsound.fifo⟩

end Kernel

namespace Witness

/-- The kernel of three tasks has taken a queue with three slots from the
pool. -/
def supplied : Kernel :=
  ((history trio).2.createQueue 3).2

/-- Nothing went into its ring yet. -/
def untouched : Ring.Traffic :=
  .start (supplied.queue box).ring

/-- The ring is filled across its end, emptied, asked for more than it has, and
used again. -/
def errands : List Ring.Request :=
  [.push 7, .push 8, .pop, .push 9, .push 10, .pop, .pop, .pop, .pop, .push 11,
    .push 12]

theorem conveys_errands :
    (history trio).2.createQueue 3 = (.ok box, supplied) ∧
      untouched.AdmitsAll errands ∧
      (untouched.serveAll (errands.take 5)).ring.isFull = true ∧
      (untouched.serveAll errands).popped = [7, 8, 9, 10] ∧
      (untouched.serveAll errands).stored = [11, 12] ∧
      (supplied.queue box).ring.Conveys 3 errands := by
  have hcreate : (history trio).2.createQueue 3 = (.ok box, supplied) := by
      decide +kernel
  have hadmits : untouched.AdmitsAll errands := by decide +kernel
  exact ⟨hcreate, hadmits, by decide +kernel, by decide +kernel,
    by decide +kernel, Kernel.conveys_of_createQueue hcreate hadmits⟩

end Witness

end TickKernel
