/-
The high-water mark of a stack.  On a stack that was prepared for its task all
words between the guard and the first frame hold the fill pattern.  Whatever is
written there later, in whatever order, the use of the stack is told by the
lowest word that was reached, and what was counted as used once is counted for
good.
-/
import Mathlib.Order.Bounds.Basic
import TickKernel.Proofs.Layout

namespace TickKernel

namespace Stack

/-! ### The lowest word in use -/

/-- Above the guard, `lowest` is the first word that does not hold the fill
pattern. -/
structure UsedFrom (memory : Array Word) (lowest : Nat) : Prop where
  pos : 0 < lowest
  untouched : ∀ i, 0 < i → i < lowest → memory[i]? = some fillPattern
  used : ∃ word, memory[lowest]? = some word ∧ word ≠ fillPattern

section UsedFrom

variable {memory : Array Word} {lowest : Nat}

theorem UsedFrom.lt (h : UsedFrom memory lowest) : lowest < memory.size := by
  obtain ⟨word, hword, -⟩ := h.used
  exact (Array.getElem?_eq_some_iff.mp hword).1

/-- The use of the stack is counted from there. -/
theorem UsedFrom.highWater_eq (h : UsedFrom memory lowest) :
    highWater memory = .ok (memory.size - lowest) := by
  obtain ⟨word, hword, hne⟩ := h.used
  exact Stack.highWater_eq h.pos h.untouched hword hne

/-- What stands in the guard is of no account. -/
theorem UsedFrom.setGuard (h : UsedFrom memory lowest) (word : Word) :
    UsedFrom (memory.setIfInBounds 0 word) lowest := by
  have hsame : ∀ i, 0 < i → (memory.setIfInBounds 0 word)[i]? = memory[i]? := by
    intro i hi
    exact Array.getElem?_setIfInBounds_ne (Nat.ne_of_lt hi)
  refine ⟨h.pos, ?_, ?_⟩
  · intro i hi hlt
    rw [hsame i hi]
    exact h.untouched i hi hlt
  · rw [hsame lowest h.pos]
    exact h.used

end UsedFrom

/-! ### Stacks that were prepared -/

section Prepared

variable {stack prepared : Stack} {seeded : Bool}
  {entry param exit index : Address} {start : Nat}

/-- At first a stack is in use from its frame on. -/
theorem usedFrom_of_prepare
    (h : stack.prepare seeded entry param exit index =
      .ok (.ok (prepared, start))) :
    prepared.words.size = stack.words.size ∧ UsedFrom prepared.words start := by
  obtain ⟨hsize, rfl, frame, hframe, rfl⟩ := exists_layout_of_prepare h
  refine ⟨size_firstLayout hsize, (firstFrame_eq hsize).1, ?_, ?_⟩
  · intro i hi hlt
    rw [getElem?_firstLayout hsize, if_neg (Nat.ne_of_gt hi)]
    exact if_pos hlt
  · have hr4 := Frame.r4_ne_fill hframe
    exact ⟨frame.r4, getElem?_firstFrame hsize (i := 0) (by decide), hr4⟩

end Prepared

/-! ### Writing to a stack -/

/-- A word is written above the guard, and not the fill pattern. -/
structure Write where
  index : Nat
  word : Word
  index_pos : 0 < index
  word_ne : word ≠ fillPattern
deriving DecidableEq

/-- What a memory holds after a write. -/
def Write.on (write : Write) (memory : Array Word) : Array Word :=
  memory.setIfInBounds write.index write.word

/-- What a memory holds after writes, which come one after another. -/
def written (memory : Array Word) (writes : List Write) : Array Word :=
  writes.foldl (fun memory write => write.on memory) memory

/-- The lowest word of those that writes reach and of the word `start`. -/
def lowest (start : Nat) (writes : List Write) : Nat :=
  writes.foldl (fun reached write => min reached write.index) start

section Writes

variable {memory : Array Word} {start reached : Nat}
  {writes others : List Write}

theorem size_written (memory : Array Word) (writes : List Write) :
    (written memory writes).size = memory.size := by
  induction writes generalizing memory with
  | nil => rfl
  | cons write rest ih =>
      rw [written, List.foldl_cons]
      exact (ih (write.on memory)).trans Array.size_setIfInBounds

theorem lowest_append (start : Nat) (writes more : List Write) :
    lowest start (writes ++ more) = lowest (lowest start writes) more :=
  List.foldl_append

/-- A write below the words in use is reached next, and any other one changes
nothing about which word is the lowest. -/
theorem UsedFrom.on (h : UsedFrom memory reached) (write : Write) :
    UsedFrom (write.on memory) (min reached write.index) := by
  have hlt := h.lt
  rcases Nat.lt_or_ge write.index reached with hbelow | habove
  · rw [Nat.min_eq_right (Nat.le_of_lt hbelow)]
    refine ⟨write.index_pos, ?_, ?_⟩
    · intro i hi hless
      rw [Write.on, Array.getElem?_setIfInBounds_ne (Nat.ne_of_gt hless)]
      exact h.untouched i hi (Nat.lt_trans hless hbelow)
    · refine ⟨write.word, ?_, write.word_ne⟩
      rw [Write.on,
        Array.getElem?_setIfInBounds_self_of_lt (Nat.lt_trans hbelow hlt)]
  · rw [Nat.min_eq_left habove]
    refine ⟨h.pos, ?_, ?_⟩
    · intro i hi hless
      rw [Write.on, Array.getElem?_setIfInBounds_ne (by omega)]
      exact h.untouched i hi hless
    · by_cases hsame : write.index = reached
      · refine ⟨write.word, ?_, write.word_ne⟩
        rw [Write.on, hsame, Array.getElem?_setIfInBounds_self_of_lt hlt]
      · rw [Write.on, Array.getElem?_setIfInBounds_ne hsame]
        exact h.used

/-- The lowest word in use is kept track of along any writes. -/
theorem UsedFrom.written (h : UsedFrom memory start) (writes : List Write) :
    UsedFrom (written memory writes) (lowest start writes) := by
  -- The first write moves memory and start together, so the rest goes on from
  -- any stack in use.
  induction writes generalizing memory start with
  | nil => exact h
  | cons write rest ih => exact ih (h.on write)

theorem UsedFrom.highWater_written (h : UsedFrom memory start)
    (writes : List Write) :
    highWater (Stack.written memory writes) =
      .ok (memory.size - lowest start writes) := by
  rw [(h.written writes).highWater_eq, size_written]

theorem lowest_le (start : Nat) (writes : List Write) :
    lowest start writes ≤ start := by
  induction writes generalizing start with
  | nil => exact Nat.le_refl start
  | cons write rest ih => exact Nat.le_trans (ih _) (Nat.min_le_left _ _)

theorem lowest_le_of_mem {write : Write} (hwrite : write ∈ writes) :
    lowest start writes ≤ write.index := by
  induction writes generalizing start with
  | nil => cases hwrite
  | cons first rest ih =>
      rcases List.mem_cons.mp hwrite with rfl | hrest
      · exact Nat.le_trans (lowest_le _ rest) (Nat.min_le_right _ _)
      · exact ih hrest

theorem lowest_mem (start : Nat) (writes : List Write) :
    lowest start writes = start ∨ ∃ write ∈ writes,
      write.index = lowest start writes := by
  induction writes generalizing start with
  | nil => exact Or.inl rfl
  | cons first rest ih =>
      rcases ih (min start first.index) with hstart | ⟨write, hwrite, hindex⟩
      · rcases Nat.le_total start first.index with hle | hle
        · exact Or.inl (hstart.trans (Nat.min_eq_left hle))
        · exact Or.inr ⟨first, List.mem_cons_self,
            (hstart.trans (Nat.min_eq_right hle)).symm⟩
      · exact Or.inr ⟨write, List.mem_cons_of_mem first hwrite, hindex⟩

/-- The word `start` and those that writes go to. -/
def reaches (start : Nat) (writes : List Write) : Set Nat :=
  { i | i = start ∨ ∃ write ∈ writes, write.index = i }

theorem isLeast_lowest (start : Nat) (writes : List Write) :
    IsLeast (reaches start writes) (lowest start writes) := by
  refine ⟨lowest_mem start writes, ?_⟩
  rintro i (rfl | ⟨write, hwrite, rfl⟩)
  · exact lowest_le i writes
  · exact lowest_le_of_mem hwrite

/-- In what order words are written does not matter. -/
theorem lowest_perm (h : writes.Perm others) :
    lowest start writes = lowest start others := by
  have hsame : reaches start writes = reaches start others := by
    simp only [reaches, h.mem_iff]
  have hleast := isLeast_lowest start writes
  rw [hsame] at hleast
  exact hleast.unique (isLeast_lowest start others)

end Writes

/-! ### The mark -/

/-- What the high-water mark of a stack of `size` words tells after `writes`,
when the stack was in use from word `start` on before. -/
structure Gauges (memory : Array Word) (size start : Nat)
    (writes : List Write) : Prop where
  /-- It counts the words from the lowest one that was ever used. -/
  counts : ∃ least, IsLeast (reaches start writes) least ∧
    highWater (written memory writes) = .ok (size - least)
  /-- It never sinks, -/
  rises : ∀ more, ∃ before after,
    highWater (written memory writes) = .ok before ∧
    highWater (written memory (writes ++ more)) = .ok after ∧ before ≤ after
  /-- is the same whatever became of the guard, -/
  guard : ∀ word, highWater ((written memory writes).setIfInBounds 0 word) =
    highWater (written memory writes)
  /-- and in whatever order the words were written, -/
  order : ∀ others, writes.Perm others →
    highWater (written memory others) = highWater (written memory writes)
  /-- and never counts the guard. -/
  bounded : ∃ words, highWater (written memory writes) = .ok words ∧
    words ≤ size - 1

theorem UsedFrom.gauges {memory : Array Word} {start : Nat}
    (h : UsedFrom memory start) (writes : List Write) :
    Gauges memory memory.size start writes := by
  have hmark := h.highWater_written writes
  have hused := h.written writes
  refine ⟨⟨_, isLeast_lowest start writes, hmark⟩, ?_, ?_, ?_, ?_⟩
  · intro more
    refine ⟨_, _, hmark, h.highWater_written (writes ++ more), ?_⟩
    rw [lowest_append]
    exact Nat.sub_le_sub_left (lowest_le _ more) _
  · intro word
    rw [(hused.setGuard word).highWater_eq, Array.size_setIfInBounds,
      hused.highWater_eq]
  · intro others hperm
    rw [hmark, h.highWater_written others, lowest_perm hperm]
  · exact ⟨_, hmark, Nat.sub_le_sub_left hused.pos _⟩

/-- On every stack that was prepared for a task the high-water mark keeps the
deepest use. -/
theorem gauges_of_prepare {stack prepared : Stack} {seeded : Bool}
    {entry param exit index : Address} {start : Nat}
    (h : stack.prepare seeded entry param exit index =
      .ok (.ok (prepared, start)))
    (writes : List Write) :
    Gauges prepared.words stack.words.size start writes := by
  obtain ⟨hsize, hused⟩ := usedFrom_of_prepare h
  rw [← hsize]
  exact hused.gauges writes

end Stack

namespace Witness

/-- The scratched stack, prepared for a task with a number beyond the task
table. -/
def outfitted : Stack :=
  { scratched with
    words :=
      Stack.layout 20 19
        (Frame.first true 0x500001235 0x1FFFFFFFF 0x700000101 70000) }

/-- Writes into the frame, below it, and last into the word next to the
guard. -/
def scribbles : List Stack.Write :=
  [⟨7, 0, by decide, by decide⟩, ⟨1, 0xCCCCCCCD, by decide, by decide⟩,
    ⟨19, 5, by decide, by decide⟩]

/-- Everything but the guard is used up. -/
theorem gauges_scribbled :
    scratched.prepare true 0x500001235 0x1FFFFFFFF 0x700000101 70000 =
        .ok (.ok (outfitted, 2)) ∧
      Stack.highWater outfitted.words = .ok 18 ∧
      Stack.highWater (Stack.written outfitted.words scribbles) = .ok 19 ∧
      Stack.Gauges outfitted.words 20 2 scribbles := by
  have hprepare : scratched.prepare true 0x500001235 0x1FFFFFFFF
      0x700000101 70000 = .ok (.ok (outfitted, 2)) := by decide +kernel
  exact ⟨hprepare, by decide +kernel, by decide +kernel,
    Stack.gauges_of_prepare hprepare scribbles⟩

end Witness

end TickKernel
