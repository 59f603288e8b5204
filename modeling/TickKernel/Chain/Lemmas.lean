/-
What each change of a chain does to the list of tasks that it holds.

A chain is in order when the links spell some list from its first task on.
That list is unique, holds no task twice and is what `Chain.toList` computes.
Under the conditions that callers keep, every operation turns a chain in order
into one that spells the list with that operation applied to it, and changes no
link outside the tasks of the chain and the task it moves.
-/
import Mathlib.Data.Fintype.Card
import TickKernel.Chain

namespace TickKernel

variable {n : Nat}

namespace Links

@[simp] theorem spells_nil {links : Links n} {start : Option (Fin n)} :
    links.Spells start [] ↔ start = none :=
  Iff.rfl

@[simp] theorem spells_cons {links : Links n} {start : Option (Fin n)}
    {id : Fin n} {rest : List (Fin n)} :
    links.Spells start (id :: rest) ↔
      start = some id ∧ links.Spells (links.slot id) rest :=
  Iff.rfl

/-- From one start the links spell one list only. -/
theorem Spells.unique {links : Links n} {start : Option (Fin n)}
    {ids others : List (Fin n)} (hids : links.Spells start ids)
    (hothers : links.Spells start others) : ids = others := by
  induction ids generalizing start others with
  | nil =>
      cases others with
      | nil => rfl
      | cons other tail => simp_all
  | cons id rest ih =>
      cases others with
      | nil => simp_all
      | cons other tail =>
          obtain ⟨hstart, hrest⟩ := hids
          obtain ⟨hother, htail⟩ := hothers
          obtain rfl : id = other := by simpa [hstart] using hother
          rw [ih hrest htail]

/-- The links spell the rest of a list from any of its tasks. -/
theorem Spells.of_append {links : Links n} {start : Option (Fin n)}
    {front back : List (Fin n)} {id : Fin n}
    (h : links.Spells start (front ++ id :: back)) :
    links.Spells (some id) (id :: back) := by
  induction front generalizing start with
  | nil => exact ⟨rfl, h.2⟩
  | cons other rest ih => exact ih h.2

/-- A list that the links spell to its end visits no task twice. -/
theorem Spells.nodup {links : Links n} {start : Option (Fin n)}
    {ids : List (Fin n)} (h : links.Spells start ids) : ids.Nodup := by
  induction ids generalizing start with
  | nil => exact List.nodup_nil
  | cons id rest ih =>
      refine List.nodup_cons.mpr ⟨fun hmem => ?_, ih h.2⟩
      obtain ⟨front, back, rfl⟩ := List.append_of_mem hmem
      have hhead : links.Spells (some id) (id :: (front ++ id :: back)) :=
        spells_cons.mpr ⟨rfl, h.2⟩
      have hagain : links.Spells (some id) (id :: back) :=
        Spells.of_append h.2
      have hlength := congrArg List.length (hhead.unique hagain)
      simp at hlength
      omega

/-- Hence it has no more tasks than there are. -/
theorem Spells.length_le {links : Links n} {start : Option (Fin n)}
    {ids : List (Fin n)} (h : links.Spells start ids) : ids.length ≤ n := by
  simpa using h.nodup.length_le_card

/-- A walk with a large enough limit meets exactly the tasks spelled. -/
theorem Spells.walk_eq {links : Links n} {start : Option (Fin n)}
    {ids : List (Fin n)} {limit : Nat} (h : links.Spells start ids)
    (hlimit : ids.length ≤ limit) : links.walk limit start = ids := by
  induction ids generalizing start limit with
  | nil =>
      obtain rfl : start = none := h
      cases limit <;> rfl
  | cons id rest ih =>
      obtain ⟨rfl, hrest⟩ := h
      cases limit with
      | zero => simp at hlimit
      | succ limit => rw [walk, ih hrest (by simpa using hlimit)]

/-- What the links spell depends on the links of the listed tasks only. -/
theorem Spells.congr {links others : Links n} {start : Option (Fin n)}
    {ids : List (Fin n)} (h : links.Spells start ids)
    (hsame : ∀ id ∈ ids, others.slot id = links.slot id) :
    others.Spells start ids := by
  induction ids generalizing start with
  | nil => exact h
  | cons id rest ih =>
      refine ⟨h.1, ?_⟩
      rw [hsame id List.mem_cons_self]
      exact ih h.2 fun other hother =>
        hsame other (List.mem_cons_of_mem id hother)

/-- A link of a task outside the list does not matter. -/
theorem Spells.put {links : Links n} {start next : Option (Fin n)}
    {ids : List (Fin n)} {id : Fin n} (h : links.Spells start ids)
    (hid : id ∉ ids) : Links.Spells (links.put id next) start ids := by
  refine h.congr fun other hother => ?_
  rw [Pool.slot_put, if_neg]
  exact fun heq => hid (heq ▸ hother)

/-- Redirecting the last task of a front part replaces what follows it. -/
theorem Spells.redirect {links : Links n} {start next : Option (Fin n)}
    {front back rest : List (Fin n)} {id : Fin n}
    (h : links.Spells start (front ++ id :: back))
    (hnext : Links.Spells (links.put id next) next rest) :
    Links.Spells (links.put id next) start (front ++ id :: rest) := by
  have hfresh : id ∉ front := by
    have hnodup := h.nodup
    simp only [List.nodup_append, List.mem_cons] at hnodup
    exact fun hmem => hnodup.2.2 id hmem id (Or.inl rfl) rfl
  induction front generalizing start with
  | nil => exact ⟨h.1, by simpa using hnext⟩
  | cons other front ih =>
      simp only [List.mem_cons, not_or] at hfresh
      refine ⟨h.1, ?_⟩
      rw [Pool.slot_put, if_neg hfresh.1]
      exact ih h.2 hfresh.2

end Links

namespace Chain

/-- A chain in order holds the tasks that the links spell. -/
theorem Spells.toList_eq {chain : Chain n} {links : Links n}
    {ids : List (Fin n)} (h : chain.Spells links ids) :
    chain.toList links = ids :=
  Links.Spells.walk_eq h (Links.Spells.length_le h)

theorem Spells.head_eq {chain : Chain n} {links : Links n} {ids : List (Fin n)}
    (h : chain.Spells links ids) : chain.head = ids.head? := by
  cases ids with
  | nil => exact h
  | cons id rest => exact h.1

/-- A chain in order does not run in a circle. -/
theorem Spells.isCircular_eq {chain : Chain n} {links : Links n}
    {ids : List (Fin n)} (h : chain.Spells links ids) :
    chain.isCircular links = false := by
  have hlength := Links.Spells.length_le h
  have hwalk := Links.Spells.walk_eq h (Nat.le_succ_of_le hlength)
  simp only [isCircular, hwalk, decide_eq_false_iff_not]
  omega

theorem spells_empty (links : Links n) : (empty : Chain n).Spells links [] :=
  rfl

/-- Leading the last task of a front part to `next` replaces what follows. -/
theorem Spells.lead {chain : Chain n} {links : Links n} {next : Option (Fin n)}
    {front back rest : List (Fin n)} (h : chain.Spells links (front ++ back))
    (hnext : links.Spells next rest) (hdisjoint : ∀ id ∈ front, id ∉ rest) :
    (chain.lead links front.getLast? next).1.Spells
      (chain.lead links front.getLast? next).2 (front ++ rest) := by
  induction front using List.reverseRecOn with
  | nil => exact hnext
  | append_singleton front last _ =>
      rw [List.getLast?_concat, List.append_assoc]
      rw [List.append_assoc] at h
      exact Links.Spells.redirect h
        (hnext.put (hdisjoint last (by simp)))

theorem Spells.pushFront {chain : Chain n} {links : Links n}
    {ids : List (Fin n)} {id : Fin n} (h : chain.Spells links ids)
    (hid : id ∉ ids) :
    (chain.pushFront links id).1.Spells (chain.pushFront links id).2
      (id :: ids) := by
  have hput : Links.Spells (links.put id chain.head) chain.head ids :=
    Links.Spells.put h hid
  exact ⟨rfl, by simpa [Chain.pushFront] using hput⟩

theorem Spells.pushBack {chain : Chain n} {links : Links n} {ids : List (Fin n)}
    {id : Fin n} (h : chain.Spells links ids) (hid : id ∉ ids) :
    (chain.pushBack links id).1.Spells (chain.pushBack links id).2
      (ids ++ [id]) := by
  have hput : chain.Spells (links.put id none) ids := Links.Spells.put h hid
  have hend : chain.Spells (links.put id none) (ids ++ []) := by
      simpa using hput
  simp only [Chain.pushBack, hput.toList_eq]
  refine Spells.lead hend ⟨rfl, by simp⟩ ?_
  intro other hother hmem
  exact hid (by simpa [List.mem_singleton.mp hmem] using hother)

/-- A task is put directly before the first one that it precedes. -/
theorem Spells.insertBy {chain : Chain n} {links : Links n} {ids : List (Fin n)}
    {precedes : Fin n → Bool} {id : Fin n} (h : chain.Spells links ids)
    (hid : id ∉ ids) :
    (chain.insertBy links precedes id).1.Spells
      (chain.insertBy links precedes id).2
      (ids.takeWhile (fun other => !precedes other) ++
        id :: ids.dropWhile (fun other => !precedes other)) := by
  have hsplit := List.takeWhile_append_dropWhile
    (p := fun other => !precedes other) (l := ids)
  simp only [Chain.insertBy, h.toList_eq]
  generalize ids.takeWhile (fun other => !precedes other) = passed at *
  generalize ids.dropWhile (fun other => !precedes other) = kept at *
  subst hsplit
  simp only [List.mem_append, not_or] at hid
  have hput : chain.Spells (links.put id kept.head?) (passed ++ kept) :=
    Links.Spells.put h (by simpa using hid)
  refine Spells.lead hput ⟨rfl, ?_⟩ ?_
  · rw [Pool.slot_put, if_pos rfl]
    cases kept with
    | nil => rfl
    | cons first rest => exact Links.Spells.of_append hput
  · intro other hother hmem
    rcases List.mem_cons.mp hmem with rfl | hkept
    · exact hid.1 hother
    · have hnodup := Links.Spells.nodup h
      rw [List.nodup_append] at hnodup
      exact hnodup.2.2 other hother other hkept rfl

theorem Spells.popFront {chain : Chain n} {links : Links n} {ids : List (Fin n)}
    {id : Fin n} (h : chain.Spells links (id :: ids)) :
    ∃ rest, chain.popFront? links = some (id, rest) ∧ rest.1.Spells rest.2 ids ∧
      rest.2 = links.put id none := by
  refine ⟨(⟨links.slot id⟩, links.put id none), ?_, ?_, rfl⟩
  · rw [popFront?, h.1]
  · exact Links.Spells.put h.2 (List.nodup_cons.mp (Links.Spells.nodup h)).1

/-- A task that the chain does not hold is not taken out. -/
theorem Spells.erase_eq_none {chain : Chain n} {links : Links n}
    {ids : List (Fin n)} {id : Fin n} (h : chain.Spells links ids)
    (hid : id ∉ ids) : chain.erase? links id = none := by
  simp [erase?, h.toList_eq, hid]

/-- A task that the chain holds is taken out, and loses its link. -/
theorem Spells.erase {chain : Chain n} {links : Links n} {ids : List (Fin n)}
    {id : Fin n} (h : chain.Spells links ids) (hid : id ∈ ids) :
    ∃ rest, chain.erase? links id = some rest ∧
      rest.1.Spells rest.2 (ids.erase id) ∧
      rest.2.slot id = none := by
  obtain ⟨front, back, rfl, hfront⟩ := List.eq_append_cons_of_mem hid
  have hnodup := Links.Spells.nodup h
  simp only [List.nodup_append, List.nodup_cons, List.mem_cons] at hnodup
  have htake : (front ++ id :: back).takeWhile (· != id) = front := by
    rw [List.takeWhile_append_of_pos]
    · simp
    · intro other hother
      simp only [bne_iff_ne]
      exact fun heq => hfront (heq ▸ hother)
  have hback : links.Spells (links.slot id) back := (Links.Spells.of_append h).2
  have hled := Spells.lead h hback fun other hother hmem =>
    hnodup.2.2 other hother other (Or.inr hmem) rfl
  refine ⟨(_, _), by simp [erase?, h.toList_eq, htake]; exact ⟨rfl, rfl⟩, ?_,
    by simp⟩
  rw [List.erase_append_right _ hfront, List.erase_cons_head]
  refine Links.Spells.put hled ?_
  simp only [List.mem_append, not_or]
  exact ⟨hfront, hnodup.2.1.1⟩

/-! ### Links that stay as they are -/

theorem slot_lead_of_ne {chain : Chain n} {links : Links n}
    {previous next : Option (Fin n)} {other : Fin n}
    (h : previous ≠ some other) :
    (chain.lead links previous next).2.slot other = links.slot other := by
  cases previous with
  | none => rfl
  | some id =>
      rw [lead, Pool.slot_put, if_neg]
      exact fun heq => h (congrArg some heq)

theorem Spells.slot_pushBack {chain : Chain n} {links : Links n}
    {ids : List (Fin n)} {id other : Fin n} (h : chain.Spells links ids)
    (hid : id ∉ ids) (hother : other ∉ ids) (hne : id ≠ other) :
    (chain.pushBack links id).2.slot other = links.slot other := by
  have hput : chain.Spells (links.put id none) ids := Links.Spells.put h hid
  rw [Chain.pushBack, hput.toList_eq, slot_lead_of_ne, Pool.slot_put,
    if_neg hne]
  exact fun hlast => hother (List.mem_of_getLast? hlast)

theorem Spells.slot_insertBy {chain : Chain n} {links : Links n}
    {ids : List (Fin n)} {precedes : Fin n → Bool} {id other : Fin n}
    (h : chain.Spells links ids) (hother : other ∉ ids) (hne : id ≠ other) :
    (chain.insertBy links precedes id).2.slot other = links.slot other := by
  simp only [Chain.insertBy, h.toList_eq]
  rw [slot_lead_of_ne, Pool.slot_put, if_neg hne]
  intro hlast
  have hmem := List.mem_of_getLast? hlast
  exact hother ((List.takeWhile_subset _) hmem)

theorem Spells.slot_erase {chain : Chain n} {links : Links n}
    {ids : List (Fin n)} {id other : Fin n} {rest : Chain n × Links n}
    (h : chain.Spells links ids) (hrest : chain.erase? links id = some rest)
    (hother : other ∉ ids) : rest.2.slot other = links.slot other := by
  simp only [erase?, h.toList_eq] at hrest
  split at hrest
  · rename_i hid
    cases hrest
    have hne : id ≠ other := by
      rintro rfl
      exact hother (by simpa using hid)
    rw [Pool.slot_put, if_neg hne, slot_lead_of_ne]
    intro hlast
    exact hother ((List.takeWhile_subset _) (List.mem_of_getLast? hlast))
  · cases hrest

end Chain

end TickKernel
