/-
The stack of a task that has not run yet.  A stack with room for a frame is
filled with the pattern of unused words, its lowest word is the guard, and the
first frame of the task lies right below the highest eight-byte boundary, above
the guard.  The frame is basic, so that its reply is where such frames have it,
and the stack counts as used from the frame upwards.
-/
import TickKernel.Proofs.FirstFrame
import TickKernel.Proofs.FrameReplies

namespace TickKernel

/-- The prefix on which a property holds ends at the first element without
it. -/
theorem length_takeWhile_eq {α : Type} {p : α → Bool} {l : List α} {n : Nat}
    {a : α} (hbelow : ∀ i b, i < n → l[i]? = some b → p b = true)
    (hat : l[n]? = some a) (ha : p a = false) : (l.takeWhile p).length = n := by
  induction l generalizing n with
  | nil => simp at hat
  | cons head tail ih =>
      cases n with
      | zero =>
          rw [List.getElem?_cons_zero] at hat
          obtain rfl := Option.some.inj hat
          rw [List.takeWhile_cons_of_neg (by simp [ha])]
          rfl
      | succ n =>
          have hhead : p head = true := hbelow 0 head (Nat.succ_pos n) rfl
          rw [List.takeWhile_cons_of_pos hhead, List.length_cons]
          rw [List.getElem?_cons_succ] at hat
          rw [ih (fun i b hi hb =>
            hbelow (i + 1) b (by omega) (by simpa using hb)) hat]

namespace Stack

variable {stack : Stack} {memory : Array Word} {frame : Frame} {start : Nat}

/-! ### The use of a stack -/

/-- The use of a stack is told by its lowest word, the guard aside, that does
not hold the fill pattern. -/
theorem highWater_eq {memory : Array Word} {start : Nat} {word : Word}
    (hpos : 0 < start)
    (hbelow : ∀ i, 0 < i → i < start → memory[i]? = some fillPattern)
    (hat : memory[start]? = some word) (hword : word ≠ fillPattern) :
    highWater memory = .ok (memory.size - start) := by
  obtain ⟨last, rfl⟩ := Nat.exists_eq_succ_of_ne_zero (Nat.ne_of_gt hpos)
  have hlt : last + 1 < memory.size := (Array.getElem?_eq_some_iff.mp hat).1
  have htail : ∀ i, memory.toList.tail[i]? = memory[i + 1]? := by
    intro i
    rw [List.getElem?_tail, Array.getElem?_toList]
  have huntouched : (memory.toList.tail.takeWhile (· == fillPattern)).length =
      last := by
    apply length_takeWhile_eq (a := word)
    · intro i other hi hother
      rw [htail, hbelow (i + 1) (Nat.succ_pos i) (by omega)] at hother
      rw [← Option.some.inj hother, beq_self_eq_true]
    · rw [htail, hat]
    · simpa using hword
  have hsome : memory.isEmpty = false := by
    rw [Array.isEmpty_eq_false_iff_exists_mem]
    exact ⟨word, Array.mem_of_getElem? hat⟩
  rw [highWater, hsome, huntouched, if_neg Bool.false_ne_true]
  congr 1
  omega

/-! ### Where the top is -/

/-- The lowest word of the stack may lie at the byte address `base`. -/
def LiesAt (stack : Stack) (base : Nat) : Prop :=
  base % 8 = if stack.skewed then 4 else 0

/-- The top is the highest eight-byte boundary that is not above the end of the
stack. -/
theorem LiesAt.top {base : Nat} (h : stack.LiesAt base)
    (hsize : 0 < stack.words.size) :
    base + 4 * stack.top = (base + 4 * stack.words.size) / 8 * 8 := by
  rw [LiesAt] at h
  rw [Stack.top]
  cases hskewed : stack.skewed with
  | false =>
      rw [hskewed, if_neg Bool.false_ne_true] at h
      rw [if_neg Bool.false_ne_true]
      omega
  | true =>
      rw [hskewed, if_pos rfl] at h
      rw [if_pos rfl]
      omega

/-! ### What is laid out -/

/-- The stack that its owner is left with: the one that was prepared, or the one
that was refused, as it was. -/
def left (stack : Stack) : Except Error (Stack × Nat) → Stack
  | .ok (prepared, _) => prepared
  | .error _ => stack

/-- The stack `prepared` is `stack` with the frame at word `start` and nothing
else on it. -/
structure Laid (stack : Stack) (frame : Frame) (prepared : Stack)
    (start : Nat) : Prop where
  size_eq : prepared.words.size = stack.words.size
  skewed_eq : prepared.skewed = stack.skewed
  /-- The frame ends at the highest eight-byte boundary of the stack, -/
  ends : ∀ base, stack.LiesAt base →
    base + 4 * (start + 17) = (base + 4 * stack.words.size) / 8 * 8
  /-- and the part that the hardware pushed begins at such a boundary. -/
  hardware : ∀ base, stack.LiesAt base → (base + 4 * (start + 9)) % 8 = 0
  /-- It begins above the lowest word, -/
  start_pos : 1 ≤ start
  /-- and holds its registers in their order. -/
  frame_eq : ∀ i, i < 17 → prepared.words[start + i]? = frame.words[i]?
  guard_eq : prepared.words[0]? = some guardPattern
  fill_eq : ∀ i, 0 < i → i < stack.words.size → i < start ∨ start + 17 ≤ i →
    prepared.words[i]? = some fillPattern
  /-- Replies are read from its r0 and r1, and written there. -/
  reads : Frame.readReply prepared.words start =
    ⟨Status.ofCode frame.r0, frame.r1.toUInt64⟩
  writes : ∀ reply, Frame.writeReply prepared.words start reply =
    (prepared.words.setIfInBounds (start + 9) reply.status.code).setIfInBounds
    (start + 10)
      reply.value.toUInt32
  /-- The stack counts as used from the frame upwards. -/
  highWater_eq : highWater prepared.words = .ok (stack.words.size - start)
  used : stack.words.size - start = 17 ∨ stack.words.size - start = 18

/-- How it turns out to prepare the stack for a task. -/
structure Prepares (stack : Stack) (seeded : Bool)
    (entry param exit index : Address) (result : Except Error (Stack × Nat)) :
    Prop where
  /-- It fails exactly if the stack is too small, -/
  fails_iff : (∃ error, result = .error error) ↔
    stack.words.size < minFrameWords
  /-- and then the stack is left alone. -/
  refused : stack.words.size < minFrameWords →
    result = .error .stackTooSmall ∧ stack.left result = stack
  /-- Otherwise the first frame of the task is laid out on it. -/
  laid : minFrameWords ≤ stack.words.size →
    ∃ start, result = .ok (stack.left result, start) ∧
      stack.Laid (Frame.first seeded entry param exit index.toNat)
      (stack.left result) start

/-- The first frame lies between the lowest word and the top. -/
theorem firstFrame_eq (hsize : minFrameWords ≤ stack.words.size) :
    1 ≤ stack.firstFrame ∧ stack.firstFrame + 17 = stack.top := by
  have hle := stack.top_le
  simp only [minFrameWords, Frame.size] at hsize
  rw [firstFrame, Frame.size]
  omega

theorem size_firstLayout (hsize : minFrameWords ≤ stack.words.size) :
    (layout stack.words.size stack.top frame).size = stack.words.size := by
  have hfirst := firstFrame_eq hsize
  exact size_layout (by rw [Frame.size]; omega) stack.top_le.1

theorem getElem?_firstLayout (hsize : minFrameWords ≤ stack.words.size)
    (i : Nat) :
    (layout stack.words.size stack.top frame)[i]? =
      if i = 0 then some guardPattern
      else if i < stack.firstFrame then some fillPattern
      else if i < stack.firstFrame + 17 then frame.words[i - stack.firstFrame]?
      else if i < stack.words.size then some fillPattern else none := by
  have hfirst := firstFrame_eq hsize
  rw [getElem?_layout (by rw [Frame.size]; omega) stack.top_le.1, hfirst.2]
  rfl

theorem getElem?_firstFrame (hsize : minFrameWords ≤ stack.words.size) {i : Nat}
    (hi : i < 17) :
    (layout stack.words.size stack.top frame)[stack.firstFrame + i]? =
      frame.words[i]? := by
  have hfirst := firstFrame_eq hsize
  rw [getElem?_firstLayout hsize, if_neg (by omega), if_neg (by omega),
    if_pos (by omega), Nat.add_sub_cancel_left]

/-- The first frame of a task is basic. -/
theorem r0At_firstFrame (hsize : minFrameWords ≤ stack.words.size)
    (hcode : frame.returnCode = Frame.basicReturn) :
    Frame.r0At (layout stack.words.size stack.top frame) stack.firstFrame =
      stack.firstFrame + 9 := by
  rw [Frame.r0At, Frame.kindAt, Array.getD_eq_getD_getElem?,
    getElem?_firstFrame hsize (by decide)]
  change stack.firstFrame + (Frame.Kind.ofCode frame.returnCode).r0 = _
  rw [hcode]
  rfl

theorem highWater_firstLayout (hsize : minFrameWords ≤ stack.words.size)
    (hr4 : frame.r4 ≠ fillPattern) :
    highWater (layout stack.words.size stack.top frame) =
      .ok (stack.words.size - stack.firstFrame) := by
  have hbelow : ∀ i, 0 < i → i < stack.firstFrame →
      (layout stack.words.size stack.top frame)[i]? = some fillPattern := by
    intro i hi hlt
    rw [getElem?_firstLayout hsize, if_neg (by omega), if_pos hlt]
  have hat : (layout stack.words.size stack.top frame)[stack.firstFrame]? =
      some frame.r4 := getElem?_firstFrame hsize (i := 0) (by decide)
  rw [highWater_eq (firstFrame_eq hsize).1 hbelow hat hr4,
    size_firstLayout hsize]

theorem laid_layout (hsize : minFrameWords ≤ stack.words.size)
    (hcode : frame.returnCode = Frame.basicReturn)
    (hr4 : frame.r4 ≠ fillPattern) :
    stack.Laid frame
      { stack with words := layout stack.words.size stack.top frame }
      stack.firstFrame := by
  obtain ⟨hpos, htop⟩ := firstFrame_eq hsize
  have hle := stack.top_le
  have hkind := r0At_firstFrame hsize hcode
  refine ⟨size_firstLayout hsize, rfl, ?_, ?_, hpos, ?_, rfl, ?_, ?_, ?_, ?_,
    ?_⟩
  · intro base hbase
    rw [htop]
    exact hbase.top (by omega)
  · intro base hbase
    have hend := hbase.top (by omega)
    rw [← htop] at hend
    omega
  · exact fun i hi => getElem?_firstFrame hsize hi
  · intro i hi hlt hout
    rw [getElem?_firstLayout hsize, if_neg (by omega)]
    rcases hout with hbelow | habove
    · rw [if_pos hbelow]
    · rw [if_neg (by omega), if_neg (by omega), if_pos hlt]
  · apply Frame.readReply_eq
    · rw [hkind]
      exact getElem?_firstFrame hsize (by decide)
    · rw [hkind]
      exact getElem?_firstFrame hsize (i := 10) (by decide)
  · intro reply
    rw [Frame.writeReply, Frame.replyOffset_eq, hkind]
  · exact highWater_firstLayout hsize hr4
  · omega

end Stack

namespace Frame

/-- What a register starts with ends in the digits of its own number, and those
of the fill pattern are no register's. -/
theorem seed_ne_fill {seeded : Bool} {index : Address} {register value : Word}
    (hregister : register.toNat < 16)
    (h : seed seeded index register = .ok value) :
    value ≠ Stack.fillPattern := by
  have hfill : Stack.fillPattern.toNat = 3435973836 := rfl
  intro heq
  subst heq
  cases seeded with
  | false =>
      have hzero : (0 : Word) = Stack.fillPattern := Except.ok.inj h
      cases hzero
  | true =>
      obtain ⟨number, -, hrest⟩ := eq_ok_of_bind h
      obtain ⟨base, hbase, hsum⟩ := eq_ok_of_bind hrest
      rw [checkedMul] at hbase
      split at hbase
      · rename_i hproduct
        obtain rfl := Except.ok.inj hbase
        rw [checkedAdd] at hsum
        split at hsum
        · rename_i hsumFits
          have hvalue := congrArg UInt32.toNat (Except.ok.inj hsum)
          have hthousand : (1000 : Word).toNat = 1000 := rfl
          rw [UInt32.toNat_add, Nat.mod_eq_of_lt hsumFits, UInt32.toNat_mul,
            Nat.mod_eq_of_lt hproduct, hthousand, hfill] at hvalue
          omega
        · cases hsum
      · cases hbase

/-- The first register of a first frame tells it from words that were never
used. -/
theorem r4_ne_fill {seeded : Bool} {entry param exit index : Address}
    {frame : Frame} (h : fresh seeded entry param exit index = .ok frame) :
    frame.r4 ≠ Stack.fillPattern := by
  obtain ⟨r4, hr4, h⟩ := eq_ok_of_bind h
  -- The other eleven registers do not matter.
  iterate 11 (obtain ⟨_, -, h⟩ := eq_ok_of_bind h)
  obtain rfl := Except.ok.inj h
  exact seed_ne_fill (by decide) hr4

end Frame

theorem Stack.laid_of_prepare {stack prepared : Stack} {seeded : Bool}
    {entry param exit index : Address} {start : Nat}
    (hindex : index.toNat < maxTasks)
    (h : stack.prepare seeded entry param exit index =
      .ok (.ok (prepared, start))) :
    stack.Laid (Frame.first seeded entry param exit index.toNat) prepared
      start := by
  rw [stack.prepare_eq seeded entry param exit hindex] at h
  split at h
  · cases h
  · rename_i hroom
    cases h
    exact laid_layout (Nat.not_lt.mp hroom) rfl
      (Frame.r4_ne_fill (Frame.fresh_eq seeded entry param exit hindex))

/-- Every stack with room for a frame is prepared for any task, and every other
one is refused. -/
theorem Stack.exists_prepares (stack : Stack) (seeded : Bool)
    (entry param exit : Address) {index : Address}
    (hindex : index.toNat < maxTasks) :
    ∃ result, stack.prepare seeded entry param exit index = .ok result ∧
      stack.Prepares seeded entry param exit index result := by
  refine ⟨_, stack.prepare_eq seeded entry param exit hindex, ?_, ?_, ?_⟩
  · split
    · rename_i hsmall
      exact ⟨fun _ => hsmall, fun _ => ⟨_, rfl⟩⟩
    · rename_i hroom
      constructor
      · rintro ⟨error, herror⟩
        cases herror
      · exact fun hsmall => absurd hsmall hroom
  · intro hsmall
    rw [if_pos hsmall]
    exact ⟨rfl, rfl⟩
  · intro hroom
    have hprepare := stack.prepare_eq seeded entry param exit hindex
    rw [if_neg (Nat.not_lt.mpr hroom)] at hprepare ⊢
    exact ⟨_, rfl, laid_of_prepare hindex hprepare⟩

namespace Witness

/-- Twenty used words that begin and end in the middle between two eight-byte
boundaries. -/
def scratched : Stack :=
  ⟨Array.replicate 20 0xCCCCCCCC, true⟩

/-- The last slot's task gets its first frame from word 2 on, below one word of
alignment. -/
theorem exists_prepares_scratched :
    (15 : Address).toNat < maxTasks ∧
      (scratched.prepare true 0x500001235 0x1FFFFFFFF 0x700000101 15).map
        (Except.map fun prepared =>
          (prepared.2, prepared.1.words[16]?, prepared.1.words[17]?)) =
        .ok (.ok (2, some 0x101, some 0x1234)) ∧
      ∃ result, scratched.prepare true 0x500001235 0x1FFFFFFFF 0x700000101 15 =
        .ok result ∧
        scratched.Prepares true 0x500001235 0x1FFFFFFFF 0x700000101 15 result :=
  ⟨by decide, by decide +kernel, scratched.exists_prepares _ _ _ _ (by decide)⟩

end Witness

end TickKernel
