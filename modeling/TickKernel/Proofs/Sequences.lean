/-
Chains as lists.  A roster is in order when none of its chains runs in a circle
and no two chains of one link field share a task.  Such a roster may be thought
of as a family of lists, one for each chain, and a call on one chain as an
operation on one of the lists.

`ChainCall.on` and `ChainCall.answer` say which operation a call is.  The main
result is that the call does this to its own list and leaves every other list,
every task and every link that is not its business alone.  A pass along a chain
comes to its end, and what bounds it is the chain and not the number of tasks:
`Links.Seeks` has no limit built in.
-/
import TickKernel.Chain.Lemmas
import TickKernel.Roster
import TickKernel.Proofs.View

namespace TickKernel

variable {n : Nat}

/-! ### Passes -/

/-- One pass along the links, which has just left `previous` and stands at
`current`.  It goes on to the first task for which `stop` holds, or to the end,
and comes to rest there: at `place`, with `before` behind it. -/
inductive Links.Seeks (links : Links n) (stop : Fin n → Bool) :
    (previous current before place : Option (Fin n)) → Prop
  | ended {previous : Option (Fin n)} :
      Seeks links stop previous none previous none
  | found {previous : Option (Fin n)} {id : Fin n} (hstop : stop id = true) :
      Seeks links stop previous (some id) previous (some id)
  | passed {previous before place : Option (Fin n)} {id : Fin n}
      (hstop : stop id = false)
      (hrest : Seeks links stop (some id) (links.slot id) before place) :
      Seeks links stop previous (some id) before place

/-- A pass comes to rest in one way only. -/
theorem Links.Seeks.unique {links : Links n} {stop : Fin n → Bool}
    {previous current before place before' place' : Option (Fin n)}
    (h : links.Seeks stop previous current before place)
    (h' : links.Seeks stop previous current before' place') :
    before = before' ∧ place = place' := by
  induction h with
  | ended =>
      cases h'
      exact ⟨rfl, rfl⟩
  | found hstop =>
      cases h' with
      | found => exact ⟨rfl, rfl⟩
      | passed hgo => simp [hstop] at hgo
  | passed hgo _ ih =>
      cases h' with
      | found hstop => simp [hgo] at hstop
      | passed _ hrest => exact ih hrest

/-- Along links that spell a list the pass ends: behind the last task before
the first one for which `stop` holds. -/
theorem Links.Spells.seeks {links : Links n} {current : Option (Fin n)}
    {ids : List (Fin n)} (h : links.Spells current ids) (stop : Fin n → Bool)
    (previous : Option (Fin n)) :
    links.Seeks stop previous current
      ((ids.takeWhile fun id => !stop id).getLast?.or previous)
      (ids.dropWhile fun id => !stop id).head? := by
  induction ids generalizing previous current with
  | nil =>
      obtain rfl : current = none := h
      exact .ended
  | cons id rest ih =>
      obtain ⟨rfl, hrest⟩ := h
      cases hstop : stop id with
      | true => simpa [hstop] using Links.Seeks.found hstop
      | false =>
          have hlast : ((id :: rest).takeWhile fun id => !stop id).getLast?.or
              previous =
              (rest.takeWhile fun id => !stop id).getLast?.or (some id) := by
            cases hpassed : rest.takeWhile (fun id => !stop id) with
            | nil => simp [hstop, hpassed]
            | cons other passed => simp [hstop, hpassed, List.getLast?_cons]
          rw [hlast, List.dropWhile_cons_of_pos (by simp [hstop])]
          exact .passed hstop (ih hrest (some id))

/-- A walk that meets fewer tasks than it may has met all of them. -/
theorem Links.spells_walk {links : Links n} {limit : Nat}
    {start : Option (Fin n)} (h : (links.walk limit start).length < limit) :
    links.Spells start (links.walk limit start) := by
  induction limit generalizing start with
  | zero => omega
  | succ limit ih =>
      cases start with
      | none => rfl
      | some id => exact ⟨rfl, ih (by simpa [Links.walk] using h)⟩

/-- The task behind a listed one is the one that its link names. -/
theorem Links.Spells.slot_eq_idxOf {links : Links n} {start : Option (Fin n)}
    {ids : List (Fin n)} {id : Fin n} (h : links.Spells start ids)
    (hid : id ∈ ids) :
    links.slot id = ids[ids.idxOf id + 1]? := by
  induction ids generalizing start with
  | nil => cases hid
  | cons first rest ih =>
      by_cases hfirst : first = id
      · subst hfirst
        cases rest with
        | nil => simpa using h.2
        | cons second rest => simpa using h.2.1
      · rw [List.idxOf_cons_ne _ hfirst]
        have hrest : id ∈ rest := by simpa [Ne.symm hfirst] using hid
        simpa using ih h.2 hrest

/-- A chain that does not run in a circle holds the tasks that its links
spell. -/
theorem Chain.spells_toList {chain : Chain n} {links : Links n}
    (h : chain.isCircular links = false) :
    chain.Spells links (chain.toList links) := by
  have hlength : (links.walk (n + 1) chain.head).length < n + 1 := by
    simpa [Chain.isCircular, Nat.lt_succ_iff] using h
  have hspells : chain.Spells links (links.walk (n + 1) chain.head) :=
    Links.spells_walk hlength
  rwa [← hspells.toList_eq] at hspells

/-- A pass that looks for one task comes to rest there, or at the end. -/
theorem head?_dropWhile_ne (ids : List (Fin n)) (id : Fin n) :
    (ids.dropWhile fun other => !(other == id)).head? =
      if id ∈ ids then some id else none := by
  induction ids with
  | nil => rfl
  | cons first rest ih =>
      by_cases hfirst : first = id
      · simp [hfirst]
      · simp only [List.dropWhile_cons, beq_false_of_ne hfirst, Bool.not_false,
          if_true, ih, List.mem_cons, Ne.symm hfirst, false_or]

/-- A pass along the chain comes to its end, and the operations that look for
a place act where it comes to rest. -/
structure Chain.Passes (chain : Chain n) (links : Links n) (stop : Fin n → Bool)
    (before place : Option (Fin n)) : Prop where
  ends : links.Seeks stop none chain.head before place
  inserts : ∀ id, chain.insertBy links stop id =
    chain.lead (links.put id place) before (some id)
  appends : place = none → ∀ id, chain.contains links id = false →
    chain.pushBack links id = chain.lead (links.put id none) before (some id)
  finds : ∀ id, stop = (· == id) → chain.contains links id = place.isSome
  erases : ∀ id, stop = (· == id) → chain.erase? links id = place.map fun _ =>
    let led := chain.lead links before (links.slot id)
    (led.1, led.2.put id none)

theorem Chain.Spells.passes {chain : Chain n} {links : Links n}
    {ids : List (Fin n)} (h : chain.Spells links ids) (stop : Fin n → Bool) :
    chain.Passes links stop (ids.takeWhile fun id => !stop id).getLast?
      (ids.dropWhile fun id => !stop id).head? where
  ends := by simpa using Links.Spells.seeks h stop none
  inserts id := by simp only [Chain.insertBy, h.toList_eq]
  appends hplace id hid := by
    have hall : ids.dropWhile (fun id => !stop id) = [] :=
      List.head?_eq_none_iff.mp hplace
    have hpassed : ids.takeWhile (fun id => !stop id) = ids := by
      simpa [hall] using List.takeWhile_append_dropWhile
        (p := fun id => !stop id) (l := ids)
    have hput : chain.Spells (links.put id none) ids :=
      Links.Spells.put h (by simpa [Chain.contains, h.toList_eq] using hid)
    rw [Chain.pushBack, hput.toList_eq, hpassed]
  finds id hstop := by
    subst hstop
    rw [head?_dropWhile_ne, Chain.contains, h.toList_eq]
    by_cases hid : id ∈ ids <;> simp [hid]
  erases id hstop := by
    subst hstop
    rw [head?_dropWhile_ne]
    by_cases hid : id ∈ ids
    · simp [Chain.erase?, h.toList_eq, hid, bne]
    · simp [h.erase_eq_none hid, hid]

/-! ### The operations on lists -/

namespace ChainCall

/-- The task that a call puts into its chain. -/
def joins : ChainCall n → Option (Fin n)
  | .pushFront id | .pushBack id | .insert _ id => some id
  | _ => none

/-- The task that a call takes out of a chain that holds `ids`. -/
def takes (ids : List (Fin n)) : ChainCall n → Option (Fin n)
  | .popFront => ids.head?
  | .erase id => if id ∈ ids then some id else none
  | _ => none

/-- What a call makes of the list that its chain holds. -/
def on (row : Fin n → Row n) (ids : List (Fin n)) : ChainCall n → List (Fin n)
  | .pushFront id => id :: ids
  | .pushBack id => ids ++ [id]
  | .popFront => ids.tail
  | .erase id => ids.erase id
  | .insert precedence id =>
      insertBefore (fun other => precedence.holds (row id) (row other)) id ids
  | .clear => []
  | .contains _ | .length | .head | .isEmpty | .next _ => ids

/-- What a call answers on a chain that holds `ids`. -/
def answer (ids : List (Fin n)) : ChainCall n → ChainAnswer n
  | .popFront | .head => .task ids.head?
  | .erase id | .contains id => .flag (decide (id ∈ ids))
  | .length => .count ids.length
  | .isEmpty => .flag (decide (ids = []))
  | .next id => .task ids[ids.idxOf id + 1]?
  | .pushFront _ | .pushBack _ | .insert _ _ | .clear => .done

end ChainCall

/-! ### Rosters in order -/

namespace Roster

/-- The tasks of chain `index`, none when there is no such chain. -/
def held (roster : Roster n) (index : Nat) : List (Fin n) :=
  match roster.chains[index]? with
  | none => []
  | some (field, chain) => chain.toList (roster.links.get field)

/-- The link field through which chain `index` runs. -/
def field? (roster : Roster n) (index : Nat) : Option LinkField :=
  roster.chains[index]?.map Prod.fst

/-- Two different chains share no task when they run through one field. -/
def Apart (roster : Roster n) (i j : Nat) : Prop :=
  i ≠ j → roster.field? i = roster.field? j →
    ∀ id ∈ roster.held i, id ∉ roster.held j

instance (roster : Roster n) (i j : Nat) : Decidable (roster.Apart i j) :=
  inferInstanceAs (Decidable
    (i ≠ j → roster.field? i = roster.field? j →
      ∀ id ∈ roster.held i, id ∉ roster.held j))

/-- No chain runs in a circle, and two chains of one field share no task. -/
structure WellFormed (roster : Roster n) : Prop where
  acyclic : roster.hasCircle = false
  apart : ∀ i, i < roster.chains.size → ∀ j, j < roster.chains.size →
    roster.Apart i j

instance (roster : Roster n) : Decidable roster.WellFormed :=
  decidable_of_iff
    (roster.hasCircle = false ∧
      ∀ i, i < roster.chains.size → ∀ j, j < roster.chains.size →
      roster.Apart i j)
    ⟨fun h => ⟨h.1, h.2⟩, fun h => ⟨h.acyclic, h.apart⟩⟩

/-- What a call on chain `index` asks of the roster: a task that it puts in is
in no chain of that field yet. -/
def Fits (roster : Roster n) (index : Nat) (call : ChainCall n) : Prop :=
  ∀ id, call.joins = some id → ∀ i, i < roster.chains.size →
    roster.field? i = roster.field? index → id ∉ roster.held i

/-- What a call on chain `index`, which runs through `field`, answers and
leaves behind: it acts on the list of that chain and on nothing else. -/
structure Acts (roster : Roster n) (index : Nat) (field : LinkField)
    (call : ChainCall n) (result : ChainAnswer n × Roster n) : Prop where
  /-- Only a task in the chain has a place there, and so a successor. -/
  answers : (∀ id, call = .next id → id ∈ roster.held index) →
    result.1 = call.answer (roster.held index)
  acts : result.2.held index = call.on roster.row (roster.held index)
  /-- The other chains hold what they held. -/
  others : ∀ i, i ≠ index → result.2.held i = roster.held i ∧
    result.2.chains[i]? = roster.chains[i]?
  wellFormed : result.2.WellFormed
  fields : ∀ i, result.2.field? i = roster.field? i
  /-- A task that is taken out loses its link. -/
  cleared : ∀ id, call.takes (roster.held index) = some id →
    (result.2.links.get field).slot id = none
  tasks : result.2.tasks = roster.tasks
  links : ∀ other, other ≠ field →
    result.2.links.get other = roster.links.get other
  /-- Of the field itself only the links of the chain's tasks and of the task
  that is put in may change. -/
  slots : ∀ id, id ∉ roster.held index → call.joins ≠ some id →
    (result.2.links.get field).slot id = (roster.links.get field).slot id

variable {roster : Roster n} {index : Nat} {field : LinkField} {chain : Chain n}

theorem held_eq (hchain : roster.chains[index]? = some (field, chain)) :
    roster.held index = chain.toList (roster.links.get field) := by
  rw [held, hchain]

theorem field?_eq (hchain : roster.chains[index]? = some (field, chain)) :
    roster.field? index = some field := by
  rw [field?, hchain, Option.map_some]

theorem lt_size (hchain : roster.chains[index]? = some (field, chain)) :
    index < roster.chains.size :=
  (Array.getElem?_eq_some_iff.mp hchain).1

/-- A chain of a roster in order holds the tasks that its links spell. -/
theorem WellFormed.spells (h : roster.WellFormed)
    (hchain : roster.chains[index]? = some (field, chain)) :
    chain.Spells (roster.links.get field) (roster.held index) := by
  rw [held_eq hchain]
  refine Chain.spells_toList ?_
  have hmem : (field, chain) ∈ roster.chains := Array.mem_of_getElem? hchain
  have hnone := h.acyclic
  rw [hasCircle, Array.any_eq_false'] at hnone
  simpa using hnone _ hmem

/-- A roster is in order as soon as its links spell some list for each chain,
and no two of the lists share a task of one field. -/
theorem wellFormed_of_spells (lists : Nat → List (Fin n))
    (hspells : ∀ (i : Nat) (field : LinkField) (chain : Chain n),
      roster.chains[i]? = some (field, chain) →
        chain.Spells (roster.links.get field) (lists i))
    (hapart : ∀ i j, i ≠ j → i < roster.chains.size → j < roster.chains.size →
      roster.field? i = roster.field? j → ∀ id ∈ lists i, id ∉ lists j) :
    roster.WellFormed := by
  have hheld : ∀ i, i < roster.chains.size → roster.held i = lists i := by
    intro i hi
    obtain ⟨⟨field, chain⟩, hchain⟩ : ∃ entry, roster.chains[i]? = some entry :=
      ⟨_, Array.getElem?_eq_getElem hi⟩
    rw [held_eq hchain, (hspells i field chain hchain).toList_eq]
  refine ⟨?_, fun i hi j hj hne hfield => ?_⟩
  · rw [hasCircle, Array.any_eq_false']
    rintro ⟨field, chain⟩ hmem
    obtain ⟨i, hchain⟩ := Array.getElem?_of_mem hmem
    simp [(hspells i field chain hchain).isCircular_eq]
  · rw [hheld i hi, hheld j hj]
    exact hapart i j hne hi hj hfield

/-! ### Changes of one chain -/

end Roster

/-- A chain and its links after a change that makes `next` of the list `ids` and
may put `fresh` in: no link changes but those of the listed tasks and of the
one put in. -/
structure Chain.Becomes (links : Links n) (ids : List (Fin n))
    (fresh : Option (Fin n))
    (changed : Chain n × Links n) (next : List (Fin n)) : Prop where
  spells : changed.1.Spells changed.2 next
  mem : ∀ id ∈ next, id ∈ ids ∨ fresh = some id
  slots : ∀ id, id ∉ ids → fresh ≠ some id → changed.2.slot id = links.slot id

namespace Roster

variable {roster : Roster n} {index : Nat} {field : LinkField} {chain : Chain n}
  {changed : Chain n × Links n} {fresh : Option (Fin n)} {next : List (Fin n)}

theorem chains_update (hchain : roster.chains[index]? = some (field, chain)) :
    (roster.update index field changed).chains[index]? =
      some (field, changed.1) := by
  simp [update, lt_size hchain]

theorem chains_update_of_ne {other : Nat} (hne : other ≠ index) :
    (roster.update index field changed).chains[other]? =
      roster.chains[other]? := by
  simp [update, Ne.symm hne]

theorem field?_update (hchain : roster.chains[index]? = some (field, chain))
    (i : Nat) :
    (roster.update index field changed).field? i = roster.field? i := by
  by_cases hi : i = index
  · subst hi
    rw [field?_eq (chains_update hchain), field?_eq hchain]
  · rw [field?, chains_update_of_ne hi, field?]

theorem size_update :
    (roster.update index field changed).chains.size = roster.chains.size := by
  simp [update]

theorem get_update_self :
    (roster.update index field changed).links.get field = changed.2 :=
  LinkFields.get_set_self ..

theorem get_update_of_ne {other : LinkField} (hne : other ≠ field) :
    (roster.update index field changed).links.get other =
      roster.links.get other :=
  LinkFields.get_set_ne _ _ (Ne.symm hne)

/-- Another chain spells what it spelled: it runs through another field or
shares no task with the one that changes. -/
theorem WellFormed.spells_update (h : roster.WellFormed)
    (hchain : roster.chains[index]? = some (field, chain))
    (hbecomes : Chain.Becomes (roster.links.get field) (roster.held index) fresh
      changed next)
    (hfresh : ∀ id, fresh = some id → ∀ i, i < roster.chains.size →
      roster.field? i = roster.field? index → id ∉ roster.held i)
    {i : Nat} {field' : LinkField} {chain' : Chain n} (hi : i ≠ index)
    (hchain' : roster.chains[i]? = some (field', chain')) :
    chain'.Spells ((roster.update index field changed).links.get field')
      (roster.held i) := by
  have hspells := h.spells hchain'
  by_cases hfield : field' = field
  · subst hfield
    rw [get_update_self]
    have hsame : roster.field? i = roster.field? index := by
      rw [field?_eq hchain', field?_eq hchain]
    refine Links.Spells.congr hspells fun id hid => hbecomes.slots id ?_ ?_
    · exact h.apart i (lt_size hchain') index (lt_size hchain) hi hsame id hid
    · exact fun heq => hfresh id heq i (lt_size hchain') hsame hid
  · rwa [get_update_of_ne hfield]

/-- A change of one chain makes its list the new one, keeps the lists of the
others and leaves the roster in order. -/
theorem WellFormed.update (h : roster.WellFormed)
    (hchain : roster.chains[index]? = some (field, chain))
    (hbecomes : Chain.Becomes (roster.links.get field) (roster.held index) fresh
      changed next)
    (hfresh : ∀ id, fresh = some id → ∀ i, i < roster.chains.size →
      roster.field? i = roster.field? index → id ∉ roster.held i) :
    (roster.update index field changed).WellFormed ∧
      (roster.update index field changed).held index = next ∧
      ∀ i, i ≠ index → (roster.update index field changed).held i =
        roster.held i := by
  have hother : ∀ i field' chain', i ≠ index →
      roster.chains[i]? = some (field', chain') →
      chain'.Spells ((roster.update index field changed).links.get field')
      (roster.held i) :=
    fun i field' chain' hi hchain' =>
      h.spells_update hchain hbecomes hfresh hi hchain'
  have hthis : changed.1.Spells
      ((roster.update index field changed).links.get field) next := by
    rw [get_update_self]
    exact hbecomes.spells
  have hnot : ∀ i, i ≠ index → i < roster.chains.size →
      roster.field? i = roster.field? index →
      ∀ id ∈ next, id ∉ roster.held i := by
    intro i hi hlt hsame id hid
    rcases hbecomes.mem id hid with hheld | hput
    · exact h.apart index (lt_size hchain) i hlt (Ne.symm hi) hsame.symm
        id hheld
    · exact hfresh id hput i hlt hsame
  refine ⟨wellFormed_of_spells (fun i => if i = index then next
    else roster.held i) ?_ ?_, ?_, fun i hi => ?_⟩
  · intro i field' chain' hchain'
    by_cases hi : i = index
    · subst hi
      obtain ⟨rfl, rfl⟩ : field = field' ∧ changed.1 = chain' := by
        simpa [chains_update hchain] using hchain'
      simpa using hthis
    · rw [chains_update_of_ne hi] at hchain'
      simpa [hi] using hother i field' chain' hi hchain'
  · intro i j hne hi hj hfield id
    rw [size_update] at hi hj
    rw [field?_update hchain, field?_update hchain] at hfield
    by_cases hii : i = index
    · subst hii
      simpa [Ne.symm hne] using hnot j (Ne.symm hne) hj hfield.symm id
    · by_cases hjj : j = index
      · subst hjj
        simpa [hii] using fun hid hmem => hnot i hii hi hfield id hmem hid
      · simpa [hii, hjj] using h.apart i hi j hj hne hfield id
  · rw [held_eq (chains_update hchain), hthis.toList_eq]
  · cases hchain' : roster.chains[i]? with
    | none => rw [held, chains_update_of_ne hi, hchain', held, hchain']
    | some entry =>
        obtain ⟨field', chain'⟩ := entry
        have hkept : (roster.update index field changed).chains[i]? =
            some (field', chain') := by
          rw [chains_update_of_ne hi, hchain']
        rw [held_eq hkept, (hother i field' chain' hi hchain').toList_eq]

end Roster

/-! ### One call -/

namespace Chain.Spells

variable {chain : Chain n} {links : Links n} {ids : List (Fin n)} {id : Fin n}

theorem becomes_pushFront (h : chain.Spells links ids) (hid : id ∉ ids) :
    Becomes links ids (some id) (chain.pushFront links id) (id :: ids) where
  spells := h.pushFront hid
  mem other hother := by
    rcases List.mem_cons.mp hother with rfl | hids
    · exact Or.inr rfl
    · exact Or.inl hids
  slots other _ hne := by
    rw [Chain.pushFront, Pool.slot_put,
      if_neg fun heq => hne (congrArg some heq)]

theorem becomes_pushBack (h : chain.Spells links ids) (hid : id ∉ ids) :
    Becomes links ids (some id) (chain.pushBack links id) (ids ++ [id]) where
  spells := h.pushBack hid
  mem other hother := by
    rcases List.mem_append.mp hother with hids | hlast
    · exact Or.inl hids
    · exact Or.inr (congrArg some (List.mem_singleton.mp hlast).symm)
  slots other hother hne := h.slot_pushBack hid hother fun heq =>
    hne (congrArg some heq)

theorem becomes_insertBy {precedes : Fin n → Bool} (h : chain.Spells links ids)
    (hid : id ∉ ids) :
    Becomes links ids (some id) (chain.insertBy links precedes id)
      (insertBefore precedes id ids) where
  spells := h.insertBy hid
  mem other hother := by
    rcases mem_insertBefore.mp hother with rfl | hids
    · exact Or.inr rfl
    · exact Or.inl hids
  slots other hother hne := h.slot_insertBy hother fun heq =>
    hne (congrArg some heq)

theorem becomes_popFront (h : chain.Spells links (id :: ids)) :
    ∃ changed, chain.popFront? links = some (id, changed) ∧
      Becomes links (id :: ids) none changed ids ∧
      changed.2.slot id = none := by
  obtain ⟨changed, hpop, hspells, hlinks⟩ := h.popFront
  refine ⟨changed, hpop,
    ⟨hspells, fun other hother => ?_, fun other hother _ => ?_⟩, ?_⟩
  · exact Or.inl (List.mem_cons_of_mem id hother)
  · rw [hlinks, Pool.slot_put, if_neg]
    rintro rfl
    exact hother List.mem_cons_self
  · rw [hlinks, Pool.slot_put, if_pos rfl]

theorem becomes_erase (h : chain.Spells links ids) (hid : id ∈ ids) :
    ∃ changed, chain.erase? links id = some changed ∧
      Becomes links ids none changed (ids.erase id) ∧
      changed.2.slot id = none := by
  obtain ⟨changed, herase, hspells, hslot⟩ := h.erase hid
  refine ⟨changed, herase,
    ⟨hspells, fun other hother => ?_, fun other hother _ => ?_⟩, hslot⟩
  · exact Or.inl (List.mem_of_mem_erase hother)
  · exact h.slot_erase herase hother

theorem becomes_empty (links : Links n) (ids : List (Fin n)) :
    Becomes links ids none (empty, links) [] :=
  ⟨spells_empty links, fun _ hmem => absurd hmem List.not_mem_nil,
    fun _ _ _ => rfl⟩

end Chain.Spells

namespace Roster

variable {roster : Roster n} {index : Nat} {field : LinkField} {chain : Chain n}
  {call : ChainCall n}

/-- A call that changes its chain acts on it alone. -/
theorem WellFormed.acts_update (h : roster.WellFormed)
    (hchain : roster.chains[index]? = some (field, chain))
    (hfits : roster.Fits index call) {answer : ChainAnswer n}
    {changed : Chain n × Links n}
    (hanswer : answer = call.answer (roster.held index))
    (hbecomes : Chain.Becomes (roster.links.get field) (roster.held index)
      call.joins changed (call.on roster.row (roster.held index)))
    (hcleared : ∀ id, call.takes (roster.held index) = some id →
      changed.2.slot id = none) :
    roster.Acts index field call (answer,
      roster.update index field changed) := by
  obtain ⟨hform, hthis, hothers⟩ := h.update hchain hbecomes hfits
  exact {
    answers := fun _ => hanswer
    acts := hthis
    others := fun i hi => ⟨hothers i hi, chains_update_of_ne hi⟩
    wellFormed := hform
    fields := field?_update hchain
    cleared := fun id hid => by rw [get_update_self, hcleared id hid]
    tasks := rfl
    links := fun other hother => get_update_of_ne hother
    slots := fun id hid hne => by rw [get_update_self,
      hbecomes.slots id hid hne] }

/-- A call that only asks, or that finds nothing to take out, changes
nothing. -/
theorem WellFormed.acts_same (h : roster.WellFormed) {answer : ChainAnswer n}
    (hanswer : (∀ id, call = .next id → id ∈ roster.held index) →
      answer = call.answer (roster.held index))
    (hon : call.on roster.row (roster.held index) = roster.held index)
    (htakes : call.takes (roster.held index) = none) :
    roster.Acts index field call (answer, roster) where
  answers := hanswer
  acts := hon.symm
  others _ _ := ⟨rfl, rfl⟩
  wellFormed := h
  fields _ := rfl
  cleared id hid := by simp [htakes] at hid
  tasks := rfl
  links _ _ := rfl
  slots _ _ _ := rfl

/-- A call on a chain of a roster in order acts on the list of that chain and on
nothing else. -/
theorem WellFormed.acts_perform (h : roster.WellFormed)
    (hchain : roster.chains[index]? = some (field, chain))
    (hfits : roster.Fits index call) :
    roster.Acts index field call (roster.perform index call) := by
  have hspells := h.spells hchain
  have hfresh : ∀ id, call.joins = some id → id ∉ roster.held index :=
    fun id hid =>
    hfits id hid index (lt_size hchain) rfl
  rw [perform, hchain]
  cases call with
  | pushFront id =>
      exact h.acts_update hchain hfits rfl
        (hspells.becomes_pushFront (hfresh id rfl)) nofun
  | pushBack id =>
      exact h.acts_update hchain hfits rfl
        (hspells.becomes_pushBack (hfresh id rfl)) nofun
  | insert precedence id =>
      exact h.acts_update hchain hfits rfl
        (hspells.becomes_insertBy (hfresh id rfl)) nofun
  | clear =>
      exact h.acts_update hchain hfits rfl
        (Chain.Spells.becomes_empty _ _) nofun
  | popFront =>
      cases hheld : roster.held index with
      | nil =>
          have hhead : chain.popFront? (roster.links.get field) = none := by
            rw [Chain.popFront?, hspells.head_eq, hheld]
            rfl
          simp only [onChain, hhead]
          exact h.acts_same (fun _ => by rw [hheld]; rfl) (by rw [hheld]; rfl)
            (by rw [hheld]; rfl)
      | cons id rest =>
          rw [hheld] at hspells
          obtain ⟨changed, hpop, hbecomes, hslot⟩ := hspells.becomes_popFront
          simp only [onChain, hpop]
          refine h.acts_update hchain hfits (by rw [hheld]; rfl)
            (by rwa [hheld]) ?_
          intro other hother
          rw [hheld] at hother
          cases hother
          exact hslot
  | erase id =>
      by_cases hid : id ∈ roster.held index
      · obtain ⟨changed, herase, hbecomes, hslot⟩ := hspells.becomes_erase hid
        simp only [onChain, herase]
        refine h.acts_update hchain hfits (by simp [ChainCall.answer, hid])
          hbecomes ?_
        intro other hother
        obtain rfl : id = other := by simpa [ChainCall.takes, hid] using hother
        exact hslot
      · simp only [onChain, hspells.erase_eq_none hid]
        exact h.acts_same (fun _ => by simp [ChainCall.answer, hid])
          (List.erase_of_not_mem hid) (by simp [ChainCall.takes, hid])
  | contains id =>
      refine h.acts_same (fun _ => ?_) rfl rfl
      simp [ChainCall.answer, Chain.contains, hspells.toList_eq]
  | length =>
      refine h.acts_same (fun _ => ?_) rfl rfl
      simp [ChainCall.answer, Chain.length, hspells.toList_eq]
  | head =>
      refine h.acts_same (fun _ => ?_) rfl rfl
      simp [ChainCall.answer, hspells.head_eq]
  | isEmpty =>
      refine h.acts_same (fun _ => ?_) rfl rfl
      cases hheld : roster.held index <;>
        simp [ChainCall.answer, Chain.isEmpty, hspells.head_eq, hheld]
  | next id =>
      refine h.acts_same (fun hlisted => ?_) rfl rfl
      simp [ChainCall.answer, hspells.slot_eq_idxOf (hlisted id rfl)]

/-! ### Rosters that calls lead to -/

/-- Calls that fit the roster they meet lead from one roster to another. -/
inductive Reaches (roster : Roster n) : Roster n → Prop
  | refl : Reaches roster roster
  | call {middle : Roster n} {index : Nat} {call : ChainCall n}
      (hreach : Reaches roster middle) (hindex : index < middle.chains.size)
      (hfits : middle.Fits index call) :
      Reaches roster (middle.perform index call).2

/-- However many calls come, the roster stays in order and the tasks and the
fields of the chains stay what they are. -/
theorem Reaches.wellFormed {after : Roster n} (hreach : roster.Reaches after)
    (h : roster.WellFormed) :
    after.WellFormed ∧ after.tasks = roster.tasks ∧
      ∀ i, after.field? i = roster.field? i := by
  induction hreach with
  | refl => exact ⟨h, rfl, fun _ => rfl⟩
  | call _ hindex hfits ih =>
      obtain ⟨hmiddle, htasks, hfields⟩ := ih
      have hacts :=
        hmiddle.acts_perform (Array.getElem?_eq_getElem hindex) hfits
      exact ⟨hacts.wellFormed, hacts.tasks.trans htasks,
        fun i => (hacts.fields i).trans (hfields i)⟩

/-! ### The refinement -/

/-- A roster that calls lead to from one in order is a family of lists: a call
on a chain acts on the list of that chain and on nothing else, and every pass
along the chain comes to its end. -/
theorem Reaches.refines {after : Roster n} (hreach : roster.Reaches after)
    (h : roster.WellFormed)
    (hchain : after.chains[index]? = some (field, chain))
    (hfits : after.Fits index call) :
    after.Acts index field call (after.perform index call) ∧
      ∀ stop, ∃ before place,
      chain.Passes (after.links.get field) stop before place := by
  have hform : after.WellFormed := (hreach.wellFormed h).1
  exact ⟨hform.acts_perform hchain hfits,
    fun stop => ⟨_, _, (hform.spells hchain).passes stop⟩⟩

end Roster

namespace Witness

/-- Five tasks: three of them in one chain, a fourth in another chain of the
same field, and two of the three in a chain of blocked tasks. -/
def lists : Roster 5 where
  tasks := #v[16, 16, 32, 0, 16].map fun priority =>
    { Task.vacant with priority }
  links := ⟨Links.unlinked 5, #v[none, some 3, some 1, none, none],
    #v[none, none, none, some 1, none]⟩
  chains := #[(.queue, ⟨some 2⟩), (.queue, ⟨some 0⟩), (.blocked, ⟨some 3⟩)]

/-- The first task of the second chain is taken off. -/
def popped : Roster 5 :=
  (lists.perform 1 .popFront).2

/-- The task taken off is put into the first chain, behind the task that is as
urgent as it is. -/
theorem refines_insert :
    lists.WellFormed ∧ lists.Reaches popped ∧
      popped.chains[0]? = some (.queue, ⟨some 2⟩) ∧
      popped.Fits 0 (.insert .urgent 0) ∧
      popped.held 0 = [2, 1, 3] ∧
      (popped.perform 0 (.insert .urgent 0)).2.held 0 = [2, 1, 0, 3] ∧
      popped.Acts 0 .queue (.insert .urgent 0)
      (popped.perform 0 (.insert .urgent 0)) ∧
      ∀ stop, ∃ before place,
      Chain.Passes ⟨some 2⟩ popped.links.queue stop before place := by
  have hform : lists.WellFormed := by decide +kernel
  have hreach : lists.Reaches popped :=
    .call .refl (by decide +kernel) nofun
  have hchain : popped.chains[0]? = some (.queue, ⟨some 2⟩) := by decide +kernel
  have hfits : popped.Fits 0 (.insert .urgent 0) := by
    intro id hid
    obtain rfl : 0 = id := Option.some.inj hid
    decide +kernel
  have hrefines := Roster.Reaches.refines hreach hform hchain hfits
  exact ⟨hform, hreach, hchain, hfits, by decide +kernel, by decide +kernel,
    hrefines.1, hrefines.2⟩

end Witness

end TickKernel
