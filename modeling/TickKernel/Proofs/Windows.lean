/-
Windows of the clock.  On a clock that goes round two ticks half the range apart
lie before each other, so its comparison is no order.  Among the ticks of any
window of half the range it is one: the order in which the window meets them.
So a chain of tasks whose deadlines lie in a window stays sorted when one more
of them is put in its place.
-/
import Mathlib.Data.List.TakeWhile
import Mathlib.Order.RelIso.Basic
import TickKernel.Proofs.Deadlines

namespace TickKernel

namespace Tick

/-- How many ticks after `base` the tick comes. -/
def after (base tick : Tick) : Nat :=
  (tick - base).toNat

/-- The tick is one of the 2147483648, half of all, that come from `base` on. -/
def InWindow (base tick : Tick) : Prop :=
  after base tick ≤ 2147483647

/-- The ticks of the window from `base` on. -/
def Window (base : Tick) : Type :=
  { tick : Tick // InWindow base tick }

/-- The comparison of deadlines, in a window. -/
def Window.Precedes {base : Tick} (a b : Window base) : Prop :=
  precedes a.val b.val = true

instance (base tick : Tick) : Decidable (InWindow base tick) :=
  inferInstanceAs (Decidable (_ ≤ _))

section Window

variable {base a b : Tick}

theorem add_after (base tick : Tick) :
    base + .ofNat (after base tick) = tick := by
  rw [after, UInt32.ofNat_toNat, UInt32.add_comm, UInt32.sub_add_cancel]

/-- Different ticks are met at different times. -/
theorem after_inj (h : after base a = after base b) : a = b := by
  rw [← add_after base a, h, add_after]

/-- In a window deadlines are compared by when they are met. -/
theorem precedes_iff_after (ha : InWindow base a) (hb : InWindow base b) :
    precedes a b = true ↔ after base a < after base b := by
  have hmax : maxTimeout.toNat = 2147483647 := rfl
  have hsync : ∀ tick : Tick,
      tick + .ofNat 0 = base + .ofNat (after base tick) := by
    intro tick
    rw [add_after]
    exact UInt32.add_zero tick
  rw [InWindow] at ha hb
  exact precedes_iff (hsync a) (hsync b) (by omega) (by omega)

/-- The comparison in a window is that of the times at which ticks are met. -/
def Window.embedding (base : Tick) :
    @Window.Precedes base ↪r ((· < ·) : Nat → Nat → Prop) where
  toFun tick := after base tick.val
  inj' _ _ h := Subtype.ext (after_inj h)
  map_rel_iff' {a b} := (precedes_iff_after a.property b.property).symm

end Window

end Tick

/-! ### Chains in a window -/

section Chains

variable {n : Nat} {base : Tick} {task : Fin n → Task} {ids : List (Fin n)}
  {id : Fin n}

/-- No task is due later than one behind it, as their deadlines come after
`base`. -/
def SortedFrom (base : Tick) (task : Fin n → Task) (ids : List (Fin n)) :
    Prop :=
  ids.Pairwise fun earlier later =>
    Tick.after base (task earlier).deadline ≤
      Tick.after base (task later).deadline

/-- Task `id` takes its place in a sorted list of tasks. -/
structure Placed (base : Tick) (task : Fin n → Task) (id : Fin n)
    (ids ids' : List (Fin n)) :
    Prop where
  /-- The others keep their order, and it comes in behind those whose deadlines
  are not later, equal ones among them. -/
  place : ∃ front back, ids = front ++ back ∧ ids' = front ++ id :: back ∧
    (∀ other ∈ front, Tick.after base (task other).deadline ≤
      Tick.after base (task id).deadline) ∧
    ∀ other ∈ back, Tick.after base (task id).deadline <
      Tick.after base (task other).deadline
  sorted : SortedFrom base task ids'

theorem placed_insertBefore
    (hwindow : ∀ other ∈ id :: ids, Tick.InWindow base (task other).deadline)
    (hsorted : SortedFrom base task ids) :
    Placed base task id ids
      (insertBefore (fun other => (task id).dueBefore (task other)) id
        ids) := by
  obtain ⟨hid, hids⟩ := List.forall_mem_cons.mp hwindow
  have hdue : ∀ other ∈ ids, (task id).dueBefore (task other) = true ↔
      Tick.after base (task id).deadline <
        Tick.after base (task other).deadline := by
    intro other hother
    exact Tick.precedes_iff_after hid (hids other hother)
  have hnot : ∀ other ∈ ids, (task id).dueBefore (task other) = false →
      Tick.after base (task other).deadline ≤
        Tick.after base (task id).deadline := by
    intro other hother hlater
    apply Nat.le_of_not_lt
    intro hless
    rw [(hdue other hother).mpr hless] at hlater
    cases hlater
  refine ⟨⟨_, _, List.takeWhile_append_dropWhile.symm, rfl, ?_, ?_⟩, ?_⟩
  · intro other hother
    have hpassed := List.mem_takeWhile_imp hother
    exact hnot other (List.takeWhile_subset _ hother) (by simpa using hpassed)
  · intro other hother
    have hmem : other ∈ ids := List.dropWhile_subset _ hother
    apply (hdue other hmem).mp
    -- Behind a task that is due later than the new one all are.
    apply precedes_of_mem_dropWhile _ hother
    apply hsorted.imp_of_mem
    intro earlier later hearlier hlater hle hfirst
    apply (hdue later hlater).mpr
    exact Nat.lt_of_lt_of_le ((hdue earlier hearlier).mp hfirst) hle
  · apply pairwise_insertBefore hsorted
    · intro other hother hfirst
      exact Nat.le_of_lt ((hdue other hother).mp hfirst)
    · exact hnot
    · intro other hother later _ hfirst hle
      exact Nat.le_trans (Nat.le_of_lt ((hdue other hother).mp hfirst)) hle

end Chains

namespace Tick

/-- The deadline of a wait that begins at `now`, with a timeout that is accepted
and not zero. -/
def Awaits (now deadline : Tick) : Prop :=
  ∃ timeout : Tick, 1 ≤ timeout ∧ timeout ≤ maxTimeout ∧
    deadline = now + timeout

theorem Awaits.inWindow {now deadline : Tick} (h : Awaits now deadline) :
    InWindow now deadline := by
  obtain ⟨timeout, -, hmax, rfl⟩ := h
  have hafter : after now (now + timeout) = timeout.toNat := by
    rw [after, UInt32.add_comm, UInt32.add_sub_cancel]
  rw [InWindow, hafter]
  exact UInt32.le_iff_toNat_le.mp hmax

/-- A task that is put into a sorted chain takes its place, if the deadlines of
all of them are such as said. -/
def Inserts (base : Tick) (deadlines : Tick → Prop) : Prop :=
  ∀ (n : Nat) (chain : Chain n) (links : Links n) (task : Fin n → Task)
    (ids : List (Fin n)) (id : Fin n),
      chain.Spells links ids → id ∉ ids →
      (∀ other ∈ id :: ids, deadlines (task other).deadline) →
      SortedFrom base task ids →
      ∃ changed ids',
      chain.insertBy links (fun other => (task id).dueBefore (task other)) id =
        changed ∧ changed.1.Spells changed.2 ids' ∧ Placed base task id ids ids'

theorem inserts_inWindow (base : Tick) : Inserts base (InWindow base) := by
  intro n chain links task ids id hspells hid hwindow hsorted
  exact ⟨_, _, rfl, hspells.insertBy hid, placed_insertBefore hwindow hsorted⟩

/-- What the comparison of deadlines does in the window from `base` on. -/
structure Orders (base : Tick) : Prop where
  strict : IsStrictTotalOrder (Window base) Window.Precedes
  agrees : ∀ a b : Window base, a.Precedes b ↔
    after base a.val < after base b.val
  inserts : Inserts base (InWindow base)
  /-- The deadlines of waits that are accepted at one tick lie in the window
  from it on, -/
  awaits : ∀ deadline, Awaits base deadline → InWindow base deadline
  /-- so that they can be kept sorted. -/
  waits : Inserts base (Awaits base)

/-- Wherever a window lies, it orders the deadlines in it. -/
theorem orders (base : Tick) : base.Orders where
  strict := (Window.embedding base).isStrictTotalOrder
  agrees _ _ := (Window.embedding base).map_rel_iff.symm
  inserts := inserts_inWindow base
  awaits _ := Awaits.inWindow
  waits n chain links task ids id hspells hid hawaits hsorted :=
    inserts_inWindow base n chain links task ids id hspells hid
      (fun other hother => (hawaits other hother).inWindow) hsorted

end Tick

namespace Witness

/-- The deadlines of four tasks, the last of them as far after the first as a
window reaches. -/
def acrossTheEnd (id : Fin 4) : Task :=
  { Task.vacant with deadline := #v[0xFFFFFFF0, 5, 5, 0x7FFFFFEF].get id }

/-- Three of the tasks, in their order. -/
def sortedChain : Chain 4 × Links 4 :=
  (⟨some 0⟩, #v[some 1, some 3, none, none])

/-- The fourth is put among them. -/
def filled : Chain 4 × Links 4 :=
  sortedChain.1.insertBy sortedChain.2
    (fun other => (acrossTheEnd 2).dueBefore (acrossTheEnd other)) 2

/-- Across the end of the range it comes in behind the one with the same
deadline. -/
theorem orders_acrossTheEnd :
    Tick.Orders 0xFFFFFFF0 ∧ sortedChain.1.Spells sortedChain.2 [0, 1, 3] ∧
      filled.1.toList filled.2 = [0, 1, 2, 3] ∧
      ∃ changed ids', filled = changed ∧ changed.1.Spells changed.2 ids' ∧
        Placed 0xFFFFFFF0 acrossTheEnd 2 [0, 1, 3] ids' := by
  have hspells : sortedChain.1.Spells sortedChain.2 [0, 1, 3] :=
    ⟨rfl, rfl, rfl, rfl⟩
  have hsorted : SortedFrom 0xFFFFFFF0 acrossTheEnd [0, 1, 3] := by
    rw [SortedFrom]
    decide
  have horders := Tick.orders 0xFFFFFFF0
  refine ⟨horders, hspells, by decide +kernel, ?_⟩
  exact horders.inserts 4 _ _ acrossTheEnd _ 2 hspells (by decide)
    (by decide) hsorted

end Witness

end TickKernel
