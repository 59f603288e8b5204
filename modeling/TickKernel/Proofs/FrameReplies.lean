/-
Replies in frames.  A reply travels in the saved r0 and r1 of a frame, and one
bit of the return code says how far above the return code these two words lie.
So a frame tells itself where its reply belongs, and a reply that is written
does not change that.  What is written reads back, but for the high half of the
value, and a frame keeps its words when what was read is written back, unless
its r0 is the word of no class.
-/
import Mathlib.Data.Nat.Bitwise
import TickKernel.Proofs.Frames

namespace TickKernel

/-- A word that no class has reads as a failure. -/
theorem Status.ofCode_eq_failure {word : Word}
    (h : ∀ status : Status, status.code ≠ word) :
    ofCode word = failure := by
  have hsuccess := h success
  have htimeout := h timeout
  have hmemory := h memory
  have hinterrupted := h interrupted
  have hinvalid := h invalid
  simp only [code, ne_eq, eq_comm]
    at hsuccess htimeout hmemory hinterrupted hinvalid
  simp only [ofCode, hsuccess, htimeout, hmemory, hinterrupted, hinvalid,
    if_false]

namespace Frame

/-! ### The kinds of frame -/

/-- The kinds of frame that a stack may hold. -/
inductive Kind where
  | basic
  /-- The frame of a task that used the floating-point unit. -/
  | extended
deriving DecidableEq, Repr

/-- How many words a frame of the kind has. -/
def Kind.length : Kind → Nat
  | basic => size
  | extended => size + extension + extensionAbove

/-- How far above its lowest word a frame of the kind keeps its r0. -/
def Kind.r0 : Kind → Nat
  | basic => 9
  | extended => 25

/-- The kind of a frame with the given return code. -/
def Kind.ofCode (code : Word) : Kind :=
  if code.toNat.testBit 4 then basic else extended

/-- The kind of the frame at `start`. -/
def kindAt (memory : Array Word) (start : Nat) : Kind :=
  .ofCode (memory.getD (start + 8) 0)

/-- The word that holds the saved r0 of the frame at `start`; the next one holds
r1. -/
def r0At (memory : Array Word) (start : Nat) : Nat :=
  start + (kindAt memory start).r0

theorem and_basicBit_eq_zero_iff (code : Word) :
    code &&& basicBit = 0 ↔ code.toNat.testBit 4 = false := by
  have hbit : (code &&& basicBit).toNat =
      (code.toNat.testBit 4).toNat * 2 ^ 4 := by
    rw [UInt32.toNat_and]
    exact Nat.and_two_pow code.toNat 4
  rw [← UInt32.toNat_inj, hbit]
  cases code.toNat.testBit 4 <;> simp

/-- The return code is looked at where the switch stores it, and r0 is looked
for where the kind of frame has it. -/
theorem replyOffset_eq (memory : Array Word) (start : Nat) :
    replyOffset memory start = r0At memory start := by
  simp only [replyOffset, r0At, kindAt, Kind.ofCode, and_basicBit_eq_zero_iff,
    returnCodeOffset, extension]
  cases (memory.getD (start + 8) 0).toNat.testBit 4 <;> simp [Kind.r0]

variable {memory : Array Word} {start i : Nat} {reply other : Reply}

theorem fits_iff :
    fits memory start = true ↔ r0At memory start + 1 < memory.size := by
  rw [fits, decide_eq_true_iff, replyOffset_eq]

/-- A frame that lies in the memory as a whole has its r0 and r1 there. -/
theorem fits_of_length
    (h : start + (kindAt memory start).length ≤ memory.size) :
    fits memory start = true := by
  rw [fits_iff, r0At]
  cases hkind : kindAt memory start with
  | basic =>
      rw [hkind] at h
      simp only [Kind.length, Kind.r0, size] at h ⊢
      omega
  | extended =>
      rw [hkind] at h
      simp only [Kind.length, Kind.r0, size, extension, extensionAbove] at h ⊢
      omega

/-! ### Writing and reading -/

theorem getElem?_writeReply (h : fits memory start = true) (i : Nat) :
    (writeReply memory start reply)[i]? =
      if i = r0At memory start then some reply.status.code
      else if i = r0At memory start + 1 then some reply.value.toUInt32
      else memory[i]? := by
  rw [fits_iff] at h
  simp only [writeReply, replyOffset_eq, Array.getElem?_setIfInBounds,
    Array.size_setIfInBounds]
  grind

/-- No reply lies on the return code of its frame. -/
theorem kindAt_writeReply : kindAt (writeReply memory start reply) start =
    kindAt memory start := by
  have hlt := returnCode_lt_replyOffset memory start
  rw [returnCodeOffset] at hlt
  simp only [kindAt, writeReply, getD_setIfInBounds]
  rw [if_neg (by omega), if_neg (by omega)]

theorem r0At_writeReply : r0At (writeReply memory start reply) start =
    r0At memory start := by
  rw [r0At, kindAt_writeReply, r0At]

/-- What is read are the words at r0 and r1. -/
theorem readReply_eq {status value : Word}
    (hstatus : memory[r0At memory start]? = some status)
    (hvalue : memory[r0At memory start + 1]? = some value) :
    readReply memory start = ⟨Status.ofCode status, value.toUInt64⟩ := by
  simp only [readReply, replyOffset_eq, Array.getD_eq_getD_getElem?, hstatus,
    hvalue, Option.getD_some]

theorem readReply_writeReply (h : fits memory start = true) :
    readReply (writeReply memory start reply) start =
      ⟨reply.status, UInt64.ofNat (reply.value.toNat % UInt32.size)⟩ := by
  have hstatus :
      (writeReply memory start reply)[r0At (writeReply memory start reply)
      start]? = some reply.status.code := by
    rw [r0At_writeReply, getElem?_writeReply h, if_pos rfl]
  have hvalue :
      (writeReply memory start reply)[r0At (writeReply memory start reply)
      start + 1]? = some reply.value.toUInt32 := by
    rw [r0At_writeReply, getElem?_writeReply h, if_neg (by omega), if_pos rfl]
  have hhalf : reply.value.toUInt32.toUInt64 =
      UInt64.ofNat (reply.value.toNat % UInt32.size) := by
    rw [← UInt64.toNat_inj]
    simp only [UInt32.toNat_toUInt64, UInt64.toNat_toUInt32,
      UInt64.toNat_ofNat', UInt32.size]
    omega
  rw [readReply_eq hstatus hvalue, Status.ofCode_code, hhalf]

theorem writeReply_writeReply (h : fits memory start = true) :
    writeReply (writeReply memory start reply) start other =
      writeReply memory start other := by
  have hfits : fits (writeReply memory start reply) start = true := by
    rw [fits_writeReply, h]
  apply Array.ext_getElem?
  intro i
  rw [getElem?_writeReply hfits, getElem?_writeReply h, r0At_writeReply,
    getElem?_writeReply h]
  grind

/-- Writing back what was read changes the word of r0 alone, and only if it is
the word of no class. -/
theorem writeReply_readReply {status : Word} (h : fits memory start = true)
    (hstatus : memory[r0At memory start]? = some status) (i : Nat) :
    (writeReply memory start (readReply memory start))[i]? =
      if i = r0At memory start then some (Status.ofCode status).code
        else memory[i]? := by
  have hlt := fits_iff.mp h
  have hvalue : memory[r0At memory start + 1]? =
      some memory[r0At memory start + 1] :=
    Array.getElem?_eq_getElem hlt
  rw [getElem?_writeReply h, readReply_eq hstatus hvalue]
  simp only [UInt32.toUInt32_toUInt64]
  split
  · rfl
  · split
    · rename_i heq
      rw [heq, hvalue]
    · rfl

/-- The frame stays what it is exactly if its r0 is the word of a class. -/
theorem writeReply_readReply_eq_iff (h : fits memory start = true) :
    writeReply memory start (readReply memory start) = memory ↔
      ∃ status : Status, memory[r0At memory start]? = some status.code := by
  have hlt := fits_iff.mp h
  have hword : memory[r0At memory start]? = some memory[r0At memory start] :=
    Array.getElem?_eq_getElem (by omega)
  have hwritten := writeReply_readReply h hword
  constructor
  · intro hsame
    have hkept := hwritten (r0At memory start)
    rw [hsame, if_pos rfl] at hkept
    exact ⟨_, hkept⟩
  · rintro ⟨status, hstatus⟩
    have hclass : (Status.ofCode memory[r0At memory start]).code =
        memory[r0At memory start] := by
      rw [Status.code_ofCode_eq_iff]
      exact ⟨status, Option.some.inj (hstatus.symm.trans hword)⟩
    apply Array.ext_getElem?
    intro i
    rw [hwritten, hclass]
    split
    · rename_i heq
      rw [heq, hword]
    · rfl

/-- What becomes of the frame at `start` when replies are written and read. -/
structure Exchanges (memory : Array Word) (start : Nat) : Prop where
  /-- A reply reads back as it was written, but for the high half of its
  value. -/
  reads : ∀ reply, readReply (writeReply memory start reply) start =
    ⟨reply.status, UInt64.ofNat (reply.value.toNat % UInt32.size)⟩
  /-- It is written into two words, by the kind of the frame, -/
  status_eq : ∀ reply, (writeReply memory start reply)[r0At memory start]? =
    some reply.status.code
  value_eq : ∀ reply, (writeReply memory start reply)[r0At memory start + 1]? =
    some reply.value.toUInt32
  /-- and into no others: not into the return code, nor outside the frame. -/
  others_eq : ∀ reply i, i ≠ r0At memory start → i ≠ r0At memory start + 1 →
    (writeReply memory start reply)[i]? = memory[i]?
  /-- So the frame is of the same kind afterwards, -/
  kind_eq : ∀ reply, kindAt (writeReply memory start reply) start =
    kindAt memory start
  /-- and a second reply replaces the first. -/
  overwrites : ∀ reply other,
    writeReply (writeReply memory start reply) start other =
    writeReply memory start other
  /-- To write back what was read changes nothing exactly if r0 is the word of a
  class, -/
  restores_iff : writeReply memory start (readReply memory start) = memory ↔
    ∃ status : Status, memory[r0At memory start]? = some status.code
  /-- and any other r0 reads as a failure. -/
  failure : (∀ status : Status, memory[r0At memory start]? ≠ some status.code) →
    (readReply memory start).status = .failure

/-- In every memory, wherever a frame lies there, replies can be exchanged in
it. -/
theorem exchanges (h : fits memory start = true) : Exchanges memory start where
  reads reply := readReply_writeReply h
  status_eq reply := by rw [getElem?_writeReply h, if_pos rfl]
  value_eq reply := by rw [getElem?_writeReply h, if_neg (by omega), if_pos rfl]
  others_eq reply i hr0 hr1 := by
    rw [getElem?_writeReply h, if_neg hr0, if_neg hr1]
  kind_eq reply := kindAt_writeReply
  overwrites reply other := writeReply_writeReply h
  restores_iff := writeReply_readReply_eq_iff h
  failure hclass := by
    have hlt := fits_iff.mp h
    have hword : memory[r0At memory start]? = some memory[r0At memory start] :=
      Array.getElem?_eq_getElem (by omega)
    rw [readReply_eq hword (Array.getElem?_eq_getElem hlt)]
    apply Status.ofCode_eq_failure
    intro status heq
    exact hclass status (heq ▸ hword)

end Frame

namespace Witness

/-- A memory with an extended frame from its second word on.  The r0 of that is
0x77, the word of no class, and the words where a basic frame would have its
reply hold 7 and 8. -/
def used : Array Word :=
  #[0xDEADBEEF, 0, 0, 0, 0, 0, 0, 0, 0, 0xFFFFFFED, 7, 8, 0, 0, 0, 0, 0, 0, 0,
    0, 0, 0, 0, 0, 0, 0, 0x77, 9, 0]

theorem exchanges_used :
    Frame.fits used 1 = true ∧ Frame.kindAt used 1 = .extended ∧
      Frame.readReply used 1 = ⟨.failure, 9⟩ ∧
      Frame.readReply (Frame.writeReply used 1 ⟨.memory, 0x500000003⟩) 1 =
        ⟨.memory, 3⟩ ∧
      Frame.Exchanges used 1 :=
  ⟨by decide +kernel, by decide +kernel, by decide +kernel, by decide +kernel,
    Frame.exchanges (by decide +kernel)⟩

end Witness

end TickKernel
