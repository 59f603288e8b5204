/-
The frame that a task starts from, in plain numbers.  In every slot of the task
table the registers of a new frame stay in the range of a word, so that a frame
can always be made, and a stack is prepared unless it is too small to hold one.
-/
import TickKernel.Task

namespace TickKernel

/-! ### Words that stay in range -/

theorem checkedAdd_eq_ok {a b : UInt32} (h : a.toNat + b.toNat < UInt32.size) :
    checkedAdd a b = .ok (UInt32.ofNat (a.toNat + b.toNat)) := by
  rw [checkedAdd, if_pos h, UInt32.ofNat_add, UInt32.ofNat_toNat,
    UInt32.ofNat_toNat]

theorem checkedMul_eq_ok {a b : UInt32} (h : a.toNat * b.toNat < UInt32.size) :
    checkedMul a b = .ok (UInt32.ofNat (a.toNat * b.toNat)) := by
  rw [checkedMul, if_pos h, UInt32.ofNat_mul, UInt32.ofNat_toNat,
    UInt32.ofNat_toNat]

/-- The mask that clears the lowest bit of a word. -/
theorem toNat_and_evenMask (word : UInt32) :
    (word &&& 0xFFFFFFFE).toNat = word.toNat / 2 * 2 := by
  have hmask : (0xFFFFFFFE : UInt32).toNat = (2 ^ 31 - 1) <<< 1 := rfl
  have heven : word.toNat / 2 * 2 = (word.toNat >>> 1) <<< 1 := by
    rw [Nat.shiftRight_eq_div_pow, Nat.shiftLeft_eq]
  have hword := word.toNat_lt
  rw [UInt32.toNat_and, hmask, heven]
  apply Nat.eq_of_testBit_eq
  intro i
  simp only [Nat.testBit_and, Nat.testBit_shiftLeft, Nat.testBit_shiftRight,
    Nat.testBit_two_pow_sub_one]
  by_cases hlow : 1 ≤ i
  · have hsum : 1 + (i - 1) = i := by omega
    by_cases hhigh : i - 1 < 31
    · simp [hlow, hhigh, hsum]
    · have hzero : word.toNat.testBit i = false := by
        apply Nat.testBit_lt_two_pow
        exact Nat.lt_of_lt_of_le hword
          (Nat.pow_le_pow_right (by decide) (by omega))
      simp [hlow, hhigh, hsum, hzero]
  · simp [hlow]

namespace Frame

/-! ### The first frame -/

/-- What register number `register` of the task in slot `index` starts with. -/
def firstValue (seeded : Bool) (index register : Nat) : Word :=
  UInt32.ofNat (if seeded then 1000 * (index + 1) + register else 0)

/-- The frame from which the task in slot `index` starts: it enters `entry`,
with the lowest bit cleared, finds `param` in its first register, and returns to
`exit`. -/
def first (seeded : Bool) (entry param exit : Address) (index : Nat) :
    Frame where
  r4 := firstValue seeded index 4
  r5 := firstValue seeded index 5
  r6 := firstValue seeded index 6
  r7 := firstValue seeded index 7
  r8 := firstValue seeded index 8
  r9 := firstValue seeded index 9
  r10 := firstValue seeded index 10
  r11 := firstValue seeded index 11
  returnCode := 0xFFFFFFFD
  r0 := UInt32.ofNat (param.toNat % UInt32.size)
  r1 := firstValue seeded index 1
  r2 := firstValue seeded index 2
  r3 := firstValue seeded index 3
  r12 := firstValue seeded index 12
  lr := UInt32.ofNat (exit.toNat % UInt32.size)
  pc := UInt32.ofNat (entry.toNat % UInt32.size / 2 * 2)
  status := 0x01000000

theorem toUInt32_eq (address : Address) :
    address.toUInt32 = UInt32.ofNat (address.toNat % UInt32.size) := by
  rw [← UInt32.toNat_inj, UInt64.toNat_toUInt32, UInt32.toNat_ofNat',
    UInt32.size]
  omega

variable {index : Address}

theorem seed_eq {register : Word} (seeded : Bool)
    (hindex : index.toNat < maxTasks) (hregister : register.toNat < 16) :
    seed seeded index register =
      .ok (firstValue seeded index.toNat register.toNat) := by
  have hlt : index.toNat < 16 := hindex
  have hnumber : index.toUInt32.toNat = index.toNat := by
    rw [UInt64.toNat_toUInt32]
    omega
  cases seeded with
  | false => rfl
  | true =>
      have hone : (1 : UInt32).toNat = 1 := rfl
      have hthousand : (1000 : UInt32).toNat = 1000 := rfl
      have hnext : (UInt32.ofNat (index.toNat + 1)).toNat = index.toNat + 1 :=
        UInt32.toNat_ofNat_of_lt' (by simp only [UInt32.size]; omega)
      have hbase : (UInt32.ofNat (1000 * (index.toNat + 1))).toNat =
          1000 * (index.toNat + 1) :=
        UInt32.toNat_ofNat_of_lt' (by simp only [UInt32.size]; omega)
      have hfirst : checkedAdd index.toUInt32 1 =
          .ok (UInt32.ofNat (index.toNat + 1)) := by
        rw [checkedAdd_eq_ok, hnumber, hone]
        rw [hnumber, hone, UInt32.size]
        omega
      have hsecond : checkedMul 1000 (UInt32.ofNat (index.toNat + 1)) =
          .ok (UInt32.ofNat (1000 * (index.toNat + 1))) := by
        rw [checkedMul_eq_ok, hnext, hthousand]
        rw [hnext, hthousand, UInt32.size]
        omega
      have hthird : checkedAdd (UInt32.ofNat (1000 * (index.toNat + 1)))
          register =
          .ok (UInt32.ofNat (1000 * (index.toNat + 1) + register.toNat)) := by
        rw [checkedAdd_eq_ok, hbase]
        rw [hbase, UInt32.size]
        omega
      simp only [seed, if_true, hfirst, firstValue]
      change (checkedMul 1000 _ >>= fun base => checkedAdd base register) = _
      rw [hsecond]
      exact hthird

theorem fresh_eq (seeded : Bool) (entry param exit : Address)
    (hindex : index.toNat < maxTasks) :
    fresh seeded entry param exit index =
      .ok (first seeded entry param exit index.toNat) := by
  have hpc : UInt32.ofNat (entry.toNat % UInt32.size) &&& 0xFFFFFFFE =
      UInt32.ofNat (entry.toNat % UInt32.size / 2 * 2) := by
    rw [← UInt32.toNat_inj, toNat_and_evenMask, UInt32.toNat_ofNat',
      UInt32.toNat_ofNat']
    omega
  simp (disch := decide) only [fresh, seed_eq seeded hindex, toUInt32_eq, hpc]
  rfl

end Frame

/-- The number of a slot, as wide as an address. -/
theorem toNat_slot_lt (id : TaskId) :
    (UInt64.ofNat id.val).toNat < maxTasks := by
  have hlt : id.val < 16 := id.isLt
  rw [UInt64.toNat_ofNat']
  omega

namespace Stack

/-! ### Storing words -/

section Store

variable {memory : Array Word} {start : Nat} {words : List Word}

/-- Words that were stored are found where they were put, and everywhere else is
what was there before. -/
theorem getElem?_store (hroom : start + words.length ≤ memory.size) (i : Nat) :
    (store memory start words)[i]? =
      if start ≤ i ∧ i < start + words.length then words[i - start]?
      else memory[i]? := by
  induction words generalizing memory start with
  | nil =>
      rw [if_neg (by simp)]
      rfl
  | cons word rest ih =>
      rw [List.length_cons] at hroom
      have hrest :
          start + 1 + rest.length ≤ (memory.setIfInBounds start word).size := by
        rw [Array.size_setIfInBounds]
        omega
      rw [store, ih hrest, List.length_cons]
      rcases Nat.lt_trichotomy i start with hbelow | rfl | habove
      · rw [if_neg (by omega), if_neg (by omega),
          Array.getElem?_setIfInBounds_ne (by omega)]
      · rw [if_neg (by omega), if_pos (by omega), Nat.sub_self,
          Array.getElem?_setIfInBounds_self_of_lt (by omega)]
        rfl
      · have hbehind : i - start = i - (start + 1) + 1 := by omega
        rw [hbehind, List.getElem?_cons_succ,
          Array.getElem?_setIfInBounds_ne (by omega)]
        by_cases hinside : i < start + (rest.length + 1)
        · rw [if_pos (by omega), if_pos (by omega)]
        · rw [if_neg (by omega), if_neg (by omega)]

end Store

/-! ### What is laid out -/

/-- A stack of `size` words with a guard word, with the frame right below word
`top`, and with the fill pattern everywhere else. -/
def layout (size top : Nat) (frame : Frame) : Array Word :=
  (guardPattern :: (List.replicate (top - Frame.size - 1) fillPattern ++
    frame.words ++ List.replicate (size - top) fillPattern)).toArray

/-- A layout fills its stack exactly. -/
theorem size_layout {size top : Nat} {frame : Frame} (hframe : Frame.size < top)
    (htop : top ≤ size) : (layout size top frame).size = size := by
  simp only [layout, List.size_toArray, List.length_cons, List.length_append,
    List.length_replicate, Frame.length_words]
  omega

/-- What a layout holds, word by word: the guard, words of the fill pattern, the
frame, and at most one more word of the pattern. -/
theorem getElem?_layout {size top : Nat} {frame : Frame}
    (hframe : Frame.size < top) (htop : top ≤ size) (i : Nat) :
    (layout size top frame)[i]? =
      if i = 0 then some guardPattern
      else if i < top - Frame.size then some fillPattern
      else if i < top then frame.words[i - (top - Frame.size)]?
      else if i < size then some fillPattern else none := by
  cases i with
  | zero => rfl
  | succ i =>
      rw [layout, List.getElem?_toArray, List.getElem?_cons_succ,
        if_neg (Nat.succ_ne_zero i)]
      simp only [List.getElem?_append, List.length_append,
        List.length_replicate, Frame.length_words, List.getElem?_replicate]
      by_cases hbelow : i < top - Frame.size - 1
      · rw [if_pos (by omega), if_pos hbelow, if_pos hbelow, if_pos (by omega)]
      · rw [if_neg hbelow, if_neg (by omega : ¬i + 1 < top - Frame.size)]
        by_cases hinside : i + 1 < top
        · rw [if_pos (by omega), if_pos hinside]
          congr 1
          omega
        · rw [if_neg (by omega), if_neg hinside]
          by_cases hsize : i + 1 < size
          · rw [if_pos (by omega), if_pos hsize]
          · rw [if_neg (by omega), if_neg hsize]

/-- Whatever was on a stack, filling it and storing the guard and the frame
leaves the layout. -/
theorem store_eq_layout {size top : Nat} {frame : Frame}
    (hframe : Frame.size < top) (htop : top ≤ size) :
    store ((Array.replicate size fillPattern).setIfInBounds 0 guardPattern)
      (top - Frame.size) frame.words = layout size top frame := by
  have hroom : top - Frame.size + frame.words.length ≤
      ((Array.replicate size fillPattern).setIfInBounds 0
        guardPattern).size := by
    rw [Frame.length_words, Array.size_setIfInBounds, Array.size_replicate]
    omega
  apply Array.ext_getElem?
  intro i
  rw [getElem?_layout hframe htop, getElem?_store hroom, Frame.length_words]
  cases i with
  | zero =>
      rw [if_neg (by omega), if_pos rfl,
        Array.getElem?_setIfInBounds_self_of_lt]
      rw [Array.size_replicate]
      omega
  | succ i =>
      rw [if_neg (Nat.succ_ne_zero i),
        Array.getElem?_setIfInBounds_ne (Nat.succ_ne_zero i).symm,
        Array.getElem?_replicate]
      by_cases hbelow : i + 1 < top - Frame.size
      · rw [if_neg (by omega), if_pos hbelow, if_pos (by omega)]
      · rw [if_neg hbelow]
        by_cases hinside : i + 1 < top
        · rw [if_pos (by omega), if_pos hinside]
        · rw [if_neg (by omega), if_neg hinside]

/-! ### Preparing a stack -/

theorem frameSize_lt_top {stack : Stack}
    (hroom : minFrameWords ≤ stack.words.size) :
    Frame.size < stack.top := by
  have hle := stack.top_le
  simp only [minFrameWords, Frame.size] at hroom ⊢
  omega

/-- A stack that is prepared has room for a frame, and one is laid out on it. -/
theorem exists_layout_of_prepare {stack prepared : Stack} {seeded : Bool}
    {entry param exit index : Address} {start : Nat}
    (h : stack.prepare seeded entry param exit index =
      .ok (.ok (prepared, start))) :
    minFrameWords ≤ stack.words.size ∧ start = stack.top - Frame.size ∧
      ∃ frame, Frame.fresh seeded entry param exit index = .ok frame ∧
        prepared =
          { stack with words := layout stack.words.size stack.top frame } := by
  unfold prepare at h
  split at h
  · cases h
  · rename_i hroom
    have hroom := Nat.not_lt.mp hroom
    cases hframe : Frame.fresh seeded entry param exit index with
    | error fault =>
        rw [hframe] at h
        cases h
    | ok frame =>
        simp only [hframe, bind, Except.bind, pure, Except.pure,
          Except.ok.injEq, Prod.mk.injEq,
          store_eq_layout (frameSize_lt_top hroom) stack.top_le.1] at h
        obtain ⟨rfl, rfl⟩ := h
        exact ⟨hroom, rfl, frame, rfl, rfl⟩

/-- Whether a stack is prepared depends on its size alone. -/
theorem prepare_eq (stack : Stack) (seeded : Bool) (entry param exit : Address)
    {index : Address} (hindex : index.toNat < maxTasks) :
    stack.prepare seeded entry param exit index =
      .ok (if stack.words.size < minFrameWords then .error .stackTooSmall
        else .ok ({ stack with
            words := layout stack.words.size stack.top
              (Frame.first seeded entry param exit index.toNat) },
          stack.top - Frame.size)) := by
  unfold prepare
  split
  · rfl
  · rename_i hroom
    rw [Frame.fresh_eq seeded entry param exit hindex,
      ← store_eq_layout (frameSize_lt_top (Nat.not_lt.mp hroom)) stack.top_le.1]
    rfl

end Stack

end TickKernel
