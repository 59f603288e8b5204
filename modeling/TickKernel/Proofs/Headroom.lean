/-
Room for frames.  A task that is taken off the processor has its frame saved on
its own stack, and a frame that ends at the top of the stack must not reach down
to the guard.  On every stack that a task may be registered with there is room
for a basic frame.  The least such stack is two words too short for an extended
one, even without its guard: that needs fifty words below the top.
-/
import TickKernel.Proofs.Layout

namespace TickKernel

namespace Stack

variable {stack : Stack} {kind : Frame.Kind} {words : List Word} {start i : Nat}

/-! ### Frames at the top -/

/-- The stack with a frame saved on it that ends at its top.  What of the frame
is longer than the stack lies below its lowest word, where the stack does not
hold it. -/
def pushed (stack : Stack) (words : List Word) : Stack :=
  { stack with words := stack.words.mapIdx fun i word =>
      if stack.top ≤ i + words.length ∧ i < stack.top then
        words.getD (i + words.length - stack.top) word
      else word }

/-- Frames of the kind that end at the top leave the lowest word alone. -/
def Spares (stack : Stack) (kind : Frame.Kind) : Prop :=
  ∀ words : List Word, words.length = kind.length →
    (stack.pushed words).words[0]? = stack.words[0]?

theorem size_pushed (stack : Stack) (words : List Word) :
    (stack.pushed words).words.size = stack.words.size :=
  Array.size_mapIdx

theorem getElem?_pushed (hstart : start + words.length = stack.top)
    (hi : i < words.length) :
    (stack.pushed words).words[start + i]? = words[i]? := by
  have hle := stack.top_le
  have hindex : start + i + words.length - stack.top = i := by omega
  have hlt : start + i < stack.words.size := by omega
  rw [pushed, Array.getElem?_mapIdx, Array.getElem?_eq_getElem hlt,
    Option.map_some, if_pos ⟨by omega, by omega⟩, hindex,
    List.getD_eq_getElem _ _ hi, List.getElem?_eq_getElem hi]

theorem getElem?_pushed_of_lt (hi : i + words.length < stack.top) :
    (stack.pushed words).words[i]? = stack.words[i]? := by
  rw [pushed, Array.getElem?_mapIdx]
  cases stack.words[i]? with
  | none => rfl
  | some word => rw [Option.map_some, if_neg (by omega)]

/-- The lowest word is spared by exactly those frames that are shorter than the
stack below its top. -/
theorem spares_iff (htop : 0 < stack.top) :
    stack.Spares kind ↔ kind.length < stack.top := by
  constructor
  · intro hspares
    by_contra hlong
    have hle := stack.top_le
    have hlt : 0 < stack.words.size := by omega
    have hsame := hspares (List.replicate kind.length (stack.words[0] + 1))
      List.length_replicate
    rw [pushed, Array.getElem?_mapIdx, Array.getElem?_eq_getElem hlt,
      Option.map_some, List.length_replicate, if_pos ⟨by omega, htop⟩,
      List.getD_eq_getElem _ _ (by rw [List.length_replicate]; omega),
      List.getElem_replicate] at hsame
    have hword := Option.some.inj hsame
    simp at hword
  · intro hshort frame hlength
    apply getElem?_pushed_of_lt
    omega

/-! ### Replies in frames at the top -/

/-- A frame of the kind, as its return code tells, which lies above the lowest
word. -/
structure Bears (stack : Stack) (kind : Frame.Kind) (words : List Word)
    (start : Nat) :
    Prop where
  length_eq : words.length = kind.length
  kind_eq : Frame.Kind.ofCode (words.getD 8 0) = kind
  start_pos : 0 < start
  ends : start + words.length = stack.top

theorem Bears.kindAt_eq (h : stack.Bears kind words start) :
    Frame.kindAt (stack.pushed words).words start = kind := by
  have hcode : 8 < words.length := by
    rw [h.length_eq]
    cases kind <;> decide
  rw [Frame.kindAt, Array.getD_eq_getD_getElem?, getElem?_pushed h.ends hcode,
    ← List.getD_eq_getElem?_getD]
  exact h.kind_eq

/-- The reply of such a frame lies on the stack, -/
theorem Bears.fits (h : stack.Bears kind words start) :
    Frame.fits (stack.pushed words).words start = true := by
  apply Frame.fits_of_length
  have hle := stack.top_le
  have hends := h.ends
  rw [h.kindAt_eq, size_pushed, ← h.length_eq]
  omega

/-- and above its lowest word. -/
theorem Bears.lowest_eq (h : stack.Bears kind words start) (reply : Reply) :
    (Frame.writeReply (stack.pushed words).words start reply)[0]? =
      stack.words[0]? := by
  have hends := h.ends
  have hpos := h.start_pos
  rw [Frame.getElem?_writeReply h.fits, Frame.r0At, if_neg (by omega),
    if_neg (by omega), getElem?_pushed_of_lt (by omega)]

/-! ### Stacks of tasks -/

/-- What the stack of a task has room for. -/
structure Houses (stack : Stack) : Prop where
  size_ge : minTaskWords ≤ stack.words.size
  guard_eq : stack.words[0]? = some guardPattern
  /-- Basic frames spare the guard, -/
  basic : stack.Spares .basic
  /-- and extended ones do if there are fifty words between the guard and the
  top. -/
  extended_iff : stack.Spares .extended ↔
    52 ≤ stack.words.size ∨ stack.words.size = 51 ∧ stack.skewed = true
  /-- A frame that spares the guard lies on the stack from its first word to its
  last. -/
  bears : ∀ kind words, stack.Spares kind → words.length = kind.length →
    Frame.Kind.ofCode (words.getD 8 0) = kind →
      stack.Bears kind words (stack.top - kind.length)
  /-- A reply to its task stays on the stack and spares the guard too. -/
  replied : ∀ kind words start reply, stack.Bears kind words start →
    Frame.fits (stack.pushed words).words start = true ∧
      (Frame.writeReply (stack.pushed words).words start reply)[0]? =
        some guardPattern
  /-- Even where a frame reaches further down, its r0 and r1 lie above the
  guard. -/
  r0_inside : ∀ kind : Frame.Kind, ∃ slot,
    slot + kind.length = stack.top + kind.r0 ∧
    0 < slot ∧ slot + 1 < stack.words.size

theorem houses_of_size (hsize : minTaskWords ≤ stack.words.size)
    (hguard : stack.words[0]? = some guardPattern) : stack.Houses := by
  have hle := stack.top_le
  have hleast : 48 ≤ stack.words.size := hsize
  have htop : 0 < stack.top := by omega
  refine ⟨hsize, hguard, ?_, ?_, ?_, ?_, ?_⟩
  · rw [spares_iff htop]
    change 17 < stack.top
    omega
  · rw [spares_iff htop]
    change 50 < stack.top ↔ _
    rw [top]
    cases hskewed : stack.skewed with
    | false =>
        rw [if_neg Bool.false_ne_true]
        simp only [Bool.false_eq_true, and_false, or_false]
        omega
    | true =>
        rw [if_pos rfl]
        simp only [and_true]
        omega
  · intro kind words hspares hlength hkind
    rw [spares_iff htop] at hspares
    exact ⟨hlength, hkind, by omega, by omega⟩
  · intro kind words start reply hbears
    rw [hbears.lowest_eq]
    exact ⟨hbears.fits, hguard⟩
  · intro kind
    cases kind with
    | basic =>
        refine ⟨stack.top - 8, ?_, by omega, by omega⟩
        change stack.top - 8 + 17 = stack.top + 9
        omega
    | extended =>
        refine ⟨stack.top - 25, ?_, by omega, by omega⟩
        change stack.top - 25 + 50 = stack.top + 25
        omega

end Stack

namespace Kernel

variable {k k' : Kernel} {spec : TaskSpec} {id : TaskId}

/-- Only stacks of the least size or more are admitted. -/
theorem admission_eq_ok (h : k.admission spec = .ok id) :
    Stack.minTaskWords ≤ spec.stack.words.size := by
  by_contra hsmall
  rw [admission] at h
  have hlt : spec.stack.words.size < Stack.minTaskWords :=
    Nat.lt_of_not_le hsmall
  cases hphase : k.phase with
  | blank | started =>
      rw [hphase] at h
      cases h
  | prepared | populated =>
      simp only [hphase, if_pos hlt] at h
      cases h

/-- A registered task has a stack of the size that it came with, and room there
for frames as that size allows. -/
theorem housed_of_register (hreachable : Reachable k)
    (h : k.perform (.register spec) = .ok (.task (.ok id), k')) :
    (k'.task id).stack.words.size = spec.stack.words.size ∧
      (k'.task id).stack.skewed = spec.stack.skewed ∧
      (k'.task id).stack.Houses := by
  obtain ⟨steps, hrun⟩ := reachable_iff_exists_run.mp hreachable
  obtain ⟨verdict, hregister, hanswer⟩ := eq_ok_of_map h
  obtain ⟨result, k₁⟩ := verdict
  cases hanswer
  rcases register_eq_ok hregister with ⟨error, hrefused⟩ |
    ⟨new, stack, offset, hadmission, -, haccepted⟩
  · cases hrefused
  · cases haccepted
    have hsize := admission_eq_ok hadmission
    obtain ⟨-, hprepare, -⟩ := hrun.sound.registered hregister
    have hlaid := Stack.laid_of_prepare (toNat_slot_lt id) hprepare
    refine ⟨hlaid.size_eq, hlaid.skewed_eq,
      Stack.houses_of_size ?_ hlaid.guard_eq⟩
    rw [hlaid.size_eq]
    exact hsize

end Kernel

namespace Witness

/-- A task on `size` words. -/
def tenant (size : Nat) (skewed : Bool) : TaskSpec :=
  { spec "tenant" 5 with stack := Stack.zeroed size skewed }

def settled (size : Nat) (skewed : Bool) : Kernel :=
  (history [.setUp, .register (tenant size skewed)]).2

/-- On 51 words that begin between two boundaries there is just room for an
extended frame. -/
theorem housed_of_register_tight :
    Reachable (history [.setUp]).2 ∧
      (history [.setUp]).2.perform (.register (tenant 51 true)) =
        .ok (.task (.ok 0), settled 51 true) ∧
      ((settled 51 true).task 0).stack.Spares .extended ∧
      ((settled 51 true).task 0).stack.Houses := by
  have hreachable : Reachable (history [.setUp]).2 :=
    reachable_iff_exists_run.mpr ⟨_, run_history _⟩
  have hperform : (history [.setUp]).2.perform (.register (tenant 51 true)) =
      .ok (.task (.ok 0), settled 51 true) := rfl
  obtain ⟨hsize, hskewed, hhouses⟩ :=
    Kernel.housed_of_register hreachable hperform
  exact ⟨hreachable, hperform,
    hhouses.extended_iff.mpr (Or.inr ⟨hsize, hskewed⟩), hhouses⟩

/-- A task may be registered on 48 words, but an extended frame at their top
overwrites the guard. -/
theorem not_spared_at_least_size :
    ¬∀ (k k' : Kernel) (spec : TaskSpec) (id : TaskId), Reachable k →
      k.perform (.register spec) = .ok (.task (.ok id), k') →
        ∀ kind, (k'.task id).stack.Spares kind := by
  intro hspared
  have hreachable : Reachable (history [.setUp]).2 :=
    reachable_iff_exists_run.mpr ⟨_, run_history _⟩
  have hperform : (history [.setUp]).2.perform (.register (tenant 48 false)) =
      .ok (.task (.ok 0), settled 48 false) := rfl
  have hsame :=
    hspared _ _ _ _ hreachable hperform .extended (List.replicate 50 0)
      List.length_replicate
  revert hsame
  decide +kernel

end Witness

end TickKernel
