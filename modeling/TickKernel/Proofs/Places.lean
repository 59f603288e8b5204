/-
Places among the runnable tasks.  In a call nobody changes places, and at most
one task comes: it stands behind all that are at least as urgent.  Whoever is
next on the processor was so before, or the scan has chosen it, which goes
around from behind the running task, or its wait is over.
-/
import TickKernel.Proofs.Sleeping

namespace TickKernel

universe u

/-! ### Standing ahead -/

section Ahead

variable {α : Type u} {as bs front back : List α} {a b c : α}

/-- `a` stands somewhere ahead of `b`. -/
def Ahead (as : List α) (a b : α) : Prop :=
  [a, b].Sublist as

instance [DecidableEq α] (as : List α) (a b : α) : Decidable (Ahead as a b) :=
  inferInstanceAs (Decidable ([a, b].Sublist as))

theorem Ahead.mem (h : Ahead as a b) : a ∈ as ∧ b ∈ as :=
  ⟨h.subset List.mem_cons_self,
    h.subset (List.mem_cons_of_mem a List.mem_cons_self)⟩

theorem Ahead.of_sublist (h : Ahead bs a b) (hsub : bs.Sublist as) :
    Ahead as a b :=
  List.Sublist.trans h hsub

theorem ahead_append : Ahead (as ++ bs) a b ↔
    Ahead as a b ∨ a ∈ as ∧ b ∈ bs ∨ Ahead bs a b := by
  constructor
  · intro h
    obtain ⟨one, two, hsplit, hone, htwo⟩ := List.sublist_append_iff.mp h
    match one with
    | [] =>
        refine Or.inr (Or.inr ?_)
        rw [List.nil_append] at hsplit
        rw [Ahead, hsplit]
        exact htwo
    | [first] =>
        obtain ⟨rfl, hrest⟩ := List.cons.inj hsplit
        change [b] = two at hrest
        rw [← hrest] at htwo
        exact Or.inr (Or.inl
          ⟨List.singleton_sublist.mp hone, List.singleton_sublist.mp htwo⟩)
    | first :: second :: rest =>
        obtain ⟨rfl, hrest⟩ := List.cons.inj hsplit
        obtain ⟨rfl, -⟩ := List.cons.inj hrest
        have hpair : [a, b].Sublist (a :: b :: rest) := by simp
        exact Or.inl (hpair.trans hone)
  · rintro (h | ⟨ha, hb⟩ | h)
    · exact h.of_sublist (List.sublist_append_left as bs)
    · exact (List.singleton_sublist.mpr ha).append
        (List.singleton_sublist.mpr hb)
    · exact h.of_sublist (List.sublist_append_right as bs)

theorem ahead_cons : Ahead (c :: as) a b ↔ a = c ∧ b ∈ as ∨ Ahead as a b := by
  rw [Ahead, List.cons_sublist_cons', List.singleton_sublist, or_comm]
  rfl

/-- Nobody stands ahead of itself. -/
theorem not_ahead_self (has : as.Nodup) (a : α) : ¬Ahead as a a :=
  List.nodup_iff_sublist.mp has a

theorem ahead_middle (has : (front ++ b :: back).Nodup) :
    Ahead (front ++ b :: back) a b ↔ a ∈ front := by
  have hb := (List.nodup_cons.mp (List.nodup_middle.mp has)).1
  rw [List.mem_append, not_or] at hb
  rw [ahead_append, ahead_cons]
  refine ⟨?_, fun ha => Or.inr (Or.inl ⟨ha, List.mem_cons_self⟩)⟩
  rintro (h | ⟨ha, -⟩ | ⟨-, hback⟩ | h)
  · exact absurd h.mem.2 hb.1
  · exact ha
  · exact absurd hback hb.2
  · exact absurd h.mem.2 hb.2

theorem middle_ahead (has : (front ++ a :: back).Nodup) :
    Ahead (front ++ a :: back) a b ↔ b ∈ back := by
  have ha := (List.nodup_cons.mp (List.nodup_middle.mp has)).1
  rw [List.mem_append, not_or] at ha
  rw [ahead_append, ahead_cons]
  refine ⟨?_, fun hb => Or.inr (Or.inr (Or.inl ⟨rfl, hb⟩))⟩
  rintro (h | ⟨hfront, -⟩ | ⟨-, hb⟩ | h)
  · exact absurd h.mem.1 ha.1
  · exact absurd hfront ha.1
  · exact hb
  · exact absurd h.mem.1 ha.2

theorem Ahead.trans (has : as.Nodup) (h : Ahead as a b) (h' : Ahead as b c) :
    Ahead as a c := by
  obtain ⟨front, back, rfl⟩ := List.append_of_mem h.mem.2
  rw [ahead_middle has] at h
  rw [middle_ahead has] at h'
  exact ahead_append.mpr (Or.inr (Or.inl ⟨h, List.mem_cons_of_mem b h'⟩))

theorem Ahead.asymm (has : as.Nodup) (h : Ahead as a b) : ¬Ahead as b a :=
  fun h' => not_ahead_self has a (h.trans has h')

theorem ahead_total (ha : a ∈ as) (hb : b ∈ as) (hne : a ≠ b) :
    Ahead as a b ∨ Ahead as b a := by
  obtain ⟨front, back, rfl⟩ := List.append_of_mem ha
  rw [List.mem_append, List.mem_cons] at hb
  rw [ahead_append, ahead_append, ahead_cons]
  grind

/-- Whoever is left keeps its place. -/
theorem Ahead.restrict (has : as.Nodup) (hsub : bs.Sublist as)
    (h : Ahead as a b) (ha : a ∈ bs) (hb : b ∈ bs) : Ahead bs a b := by
  have hne : a ≠ b := by
    rintro rfl
    exact not_ahead_self has a h
  exact (ahead_total ha hb hne).resolve_right fun h' =>
    h.asymm has (h'.of_sublist hsub)

/-- Going around from behind `c`, whoever comes first is met first. -/
theorem Ahead.of_rotation [DecidableEq α] (has : as.Nodup) (hc : c ∈ as)
    (h : Ahead ((as.dropWhile (· != c)).tail ++ as.takeWhile (· != c)) a b) :
    Ahead as c a ∧ Ahead as a b ∨ Ahead as b c ∧ Ahead as c a ∨
      Ahead as a b ∧ Ahead as b c := by
  obtain ⟨front, back, rfl, hfront⟩ := List.eq_append_cons_of_mem hc
  rw [dropWhile_tail_append_takeWhile hfront, ahead_append] at h
  rw [ahead_middle has, middle_ahead has, ahead_append, ahead_cons]
  rcases h with h | ⟨ha, hb⟩ | h
  · exact Or.inl ⟨h.mem.1, Or.inr (Or.inr (Or.inr h))⟩
  · exact Or.inr (Or.inl ⟨hb, ha⟩)
  · exact Or.inr (Or.inr ⟨Or.inl h, h.mem.2⟩)

/-- The element that is put in stands ahead only of what it precedes, and of
what stands behind that. -/
theorem Ahead.of_insertBefore {precedes : α → Bool}
    (hnodup : (insertBefore precedes a as).Nodup)
    (h : Ahead (insertBefore precedes a as) a b) :
    ∃ c, precedes c = true ∧ (c = b ∨ Ahead as c b) := by
  rw [insertBefore, middle_ahead hnodup] at h
  have hsub : (as.dropWhile fun b => !precedes b).Sublist as :=
    List.dropWhile_sublist _
  have hhead := List.head?_dropWhile_not (fun b => !precedes b) as
  cases hdrop : as.dropWhile fun b => !precedes b with
  | nil =>
      rw [hdrop] at h
      cases h
  | cons c rest =>
      rw [hdrop] at h hsub hhead
      refine ⟨c, by simpa using hhead, ?_⟩
      rcases List.mem_cons.mp h with rfl | hb
      · exact Or.inl rfl
      · exact Or.inr ((ahead_cons.mpr (Or.inl ⟨rfl, hb⟩)).of_sublist hsub)

end Ahead

theorem sublist_insertBefore {α : Type u} (precedes : α → Bool) (a : α)
    (as : List α) :
    as.Sublist (insertBefore precedes a as) := by
  have hsub : (as.takeWhile (fun b => !precedes b) ++
      as.dropWhile (fun b => !precedes b)).Sublist
        (insertBefore precedes a as) :=
    (List.Sublist.refl _).append (List.sublist_cons_self a _)
  rwa [List.takeWhile_append_dropWhile] at hsub

/-- Whoever is chosen first stands ahead of all others that are as urgent. -/
theorem Foremost.ahead {task : TaskId → Task} {ids : List TaskId}
    {id other : TaskId} (h : Foremost task ids id) (hother : other ∈ ids)
    (hne : other ≠ id) (hle : (task id).priority ≤ (task other).priority) :
    Ahead ids id other := by
  obtain ⟨front, back, rfl, hfront, -⟩ := h
  rw [List.mem_append, List.mem_cons] at hother
  rcases hother with hother | rfl | hother
  · exact absurd (hfront other hother) (UInt8.not_lt.mpr hle)
  · exact absurd rfl hne
  · exact ahead_append.mpr
      (Or.inr (Or.inr (ahead_cons.mpr (Or.inl ⟨rfl, hother⟩))))

namespace View

/-! ### The runnable tasks -/

/-- How urgent a task is. -/
def urgency (v : View) (id : TaskId) : Priority :=
  (v.task id).priority

/-- What a call does to the runnable tasks. -/
structure LinesUp (v w : View) : Prop where
  urgency : w.urgency = v.urgency
  ready : w.ready.Sublist v.ready ∨ ∃ id, id ∉ v.ready ∧ w.ready.Sublist
    (insertBefore (fun other => decide (v.urgency other < v.urgency id)) id
      v.ready)

section LinesUp

variable {u v w : View} {call : Call} {reply : Reply}
  {current target id other : TaskId}

theorem LinesUp.of_sublist (hurgency : w.urgency = v.urgency)
    (hready : w.ready.Sublist v.ready) : v.LinesUp w :=
  ⟨hurgency, Or.inl hready⟩

theorem LinesUp.refl (v : View) : v.LinesUp v :=
  .of_sublist rfl (List.Sublist.refl _)

/-- Somebody may leave afterwards. -/
theorem LinesUp.shrink (h : u.LinesUp v) (hurgency : w.urgency = v.urgency)
    (hready : w.ready.Sublist v.ready) : u.LinesUp w := by
  refine ⟨hurgency.trans h.urgency, ?_⟩
  rcases h.ready with hsub | ⟨id, hnew, hsub⟩
  · exact Or.inl (hready.trans hsub)
  · exact Or.inr ⟨id, hnew, hready.trans hsub⟩

/-- Something else may have changed before. -/
theorem LinesUp.congr (h : v.LinesUp w) (hurgency : v.urgency = u.urgency)
    (hready : v.ready = u.ready) : u.LinesUp w := by
  refine ⟨h.urgency.trans hurgency, ?_⟩
  rw [← hready, ← hurgency]
  exact h.ready

/-- Both lists are part of one. -/
theorem LinesUp.within (h : v.LinesUp w) (hv : v.ready.Nodup) :
    ∃ ids : List TaskId, ids.Nodup ∧ v.ready.Sublist ids ∧
      w.ready.Sublist ids := by
  rcases h.ready with hsub | ⟨id, hnew, hsub⟩
  · exact ⟨v.ready, hv, List.Sublist.refl _, hsub⟩
  · exact ⟨_, nodup_insertBefore hv hnew, sublist_insertBefore _ id v.ready,
      hsub⟩

/-- Nobody changes places. -/
theorem LinesUp.ahead_iff (h : v.LinesUp w) (hv : v.ready.Nodup)
    (hid : id ∈ v.ready) (hid' : id ∈ w.ready) (hother : other ∈ v.ready)
    (hother' : other ∈ w.ready) :
    Ahead w.ready id other ↔ Ahead v.ready id other := by
  obtain ⟨ids, hids, hbefore, hafter⟩ := h.within hv
  constructor
  · intro hahead
    exact (hahead.of_sublist hafter).restrict hids hbefore hid hother
  · intro hahead
    exact (hahead.of_sublist hbefore).restrict hids hafter hid' hother'

/-- Whoever comes stands ahead of less urgent tasks only. -/
theorem LinesUp.urgency_lt (h : v.LinesUp w) (hv : v.Queued none)
    (hnew : id ∉ v.ready) (hahead : Ahead w.ready id other)
    (hother : other ∈ v.ready) :
    v.urgency other < v.urgency id := by
  rcases h.ready with hsub | ⟨comer, hcomer, hsub⟩
  · exact absurd (hsub.subset hahead.mem.1) hnew
  · have hmem := mem_insertBefore.mp (hsub.subset hahead.mem.1)
    obtain rfl := hmem.resolve_right hnew
    obtain ⟨behind, hless, hplace⟩ := (hahead.of_sublist hsub).of_insertBefore
      (nodup_insertBefore hv.ready_nodup hcomer)
    have hless := of_decide_eq_true hless
    rcases hplace with rfl | hplace
    · exact hless
    · exact UInt8.lt_of_le_of_lt
        (List.pairwise_iff_forall_sublist.mp hv.ready_sorted hplace) hless

/-! ### Moves -/

/-- It is enough to look at the one task that changes. -/
theorem urgency_eq_of_task {changed : Task}
    (htask : ∀ other, w.task other = if id = other then changed
      else v.task other)
    (hpriority : changed.priority = (v.task id).priority) :
    w.urgency = v.urgency := by
  funext other
  rw [urgency, htask, urgency]
  by_cases heq : id = other
  · rw [if_pos heq, hpriority, heq]
  · rw [if_neg heq]

theorem urgency_readied (v : View) (id : TaskId) :
    (v.readied id).urgency = v.urgency :=
  urgency_eq_of_task (fun _ => rfl) rfl

theorem urgency_stoodDown (v : View) (id : TaskId) :
    (v.stoodDown id).urgency = v.urgency := by
  funext other
  rw [urgency, stoodDown]
  dsimp only
  split
  · rename_i hmoves
    rw [urgency, ← hmoves.1]
  · rfl

theorem ready_stoodDown_sublist (v : View) (id : TaskId) :
    (v.stoodDown id).ready.Sublist v.ready := by
  rw [stoodDown]
  dsimp only
  split
  · exact List.Sublist.refl _
  · exact List.erase_sublist

theorem linesUp_readied (v : View) (id : TaskId) :
    v.LinesUp (v.readied id) := by
  refine ⟨urgency_readied v id, ?_⟩
  by_cases hid : id ∈ v.ready
  · rw [readied, if_pos hid]
    exact Or.inl (List.Sublist.refl _)
  · rw [readied, if_neg hid]
    exact Or.inr ⟨id, hid, List.Sublist.refl _⟩

theorem linesUp_shelved (v : View) (id : TaskId) : v.LinesUp (v.shelved id) :=
  .of_sublist (urgency_eq_of_task (fun _ => rfl) rfl) List.erase_sublist

theorem linesUp_dispatched (v : View) (current target : TaskId) :
    v.LinesUp (v.dispatched current target) := by
  have hstood : v.LinesUp ((v.readied target).stoodDown current) :=
    (linesUp_readied v target).shrink (urgency_stoodDown _ current)
      (ready_stoodDown_sublist _ current)
  exact hstood.shrink (urgency_eq_of_task (fun _ => rfl) rfl)
    (List.Sublist.refl _)

/-! ### Outcomes -/

theorem Rescheduled.linesUp (hw : v.Rescheduled current w) : v.LinesUp w := by
  cases hw with
  | stays => exact .refl v
  | due target => exact linesUp_dispatched v current target
  | chosen target => exact linesUp_dispatched v current target

theorem GaveUp.linesUp (hw : v.GaveUp current w) : v.LinesUp w := by
  cases hw with
  | pending =>
      exact .of_sublist (urgency_stoodDown v current)
        (ready_stoodDown_sublist v current)
  | now _ hw => exact hw.linesUp

theorem Ticked.linesUp (hw : v.Ticked w) : v.LinesUp w := by
  cases hw with
  | stopped => exact .refl v
  | pending => exact .refl v
  | now _ _ hw => exact hw.linesUp

theorem Woke.linesUp (hw : v.Woke id reply w) : v.LinesUp w := by
  have hpromised : (v.promised id reply).urgency = v.urgency :=
    urgency_eq_of_task (fun _ => rfl) rfl
  cases hw with
  | now current => exact (linesUp_dispatched _ current id).congr hpromised rfl
  | later => exact (linesUp_readied _ id).congr hpromised rfl

theorem Switched.urgency_eq (hw : v.Switched w) : w.urgency = v.urgency :=
  funext fun id => (hw.alike id).priority

theorem Switched.ready_eq (hw : v.Switched w) : w.ready = v.ready := by
  rw [hw.lists]

theorem Stops.urgency_eq (hu : v.Stops id call reply u) :
    u.urgency = v.urgency := by
  cases hu with
  | dozes => exact urgency_eq_of_task (fun _ => rfl) rfl
  | parks => exact urgency_eq_of_task (fun _ => rfl) rfl
  | quits => exact urgency_eq_of_task (fun _ => rfl) rfl

theorem Serves.urgency_eq (hu : v.Serves call id u) :
    u.urgency = v.urgency := by
  rw [hu.lists]
  exact urgency_eq_of_task (fun _ => rfl) rfl

/-- While the kernel schedules every call keeps the runnable tasks in line. -/
theorem Shape.linesUp (hw : v.Shape call reply w)
    (hstarted : v.phase = .started) (hcall : call ≠ .tearDown) :
    v.LinesUp w := by
  cases hw with
  | rests _ hw =>
      refine .of_sublist (funext fun id => ?_) (by rw [hw.ready])
      rw [urgency, hw.task id]
      rfl
  | ticks _ hw => exact hw.linesUp
  | @beats _ u saved hu =>
      have hswitched := switched_switchedFrom u saved
      have hticked : v.LinesUp u := hu.linesUp.congr rfl rfl
      exact hticked.shrink hswitched.urgency_eq (by rw [hswitched.ready_eq])
  | switches saved =>
      have hswitched := switched_switchedFrom v saved
      exact .of_sublist hswitched.urgency_eq (by rw [hswitched.ready_eq])
  | stops _ _ _ hu _ hw =>
      exact hw.linesUp.congr hu.urgency_eq (by rw [hu.lists_eq])
  | serves hu _ _ _ hw =>
      refine hw.linesUp.congr hu.urgency_eq ?_
      rw [hu.lists]
      rfl
  | @resumes id => exact linesUp_readied v id
  | @shelves id => exact linesUp_shelved v id
  | enrols _ hphase => exact absurd hstarted (not_started_of_open hphase)
  | enters first platform hphase =>
      exact absurd hstarted (not_started_of_open (Or.inr hphase))
  | clears => exact absurd rfl hcall

end LinesUp

/-! ### Who is next -/

/-- Who is next on the processor after a call. -/
inductive Elects (v w : View) : Prop
  | nobody (hnext : w.next = v.next)
  | scanned (current target : TaskId) (hcurrent : v.next = some current)
      (hready : current ∈ v.ready) (htarget : target ∈ v.ready)
      (hnext : w.next = some target)
      (hfirst : ∀ other ∈ v.ready, other ≠ current → other ≠ target →
        v.urgency other = v.urgency target →
        Ahead (v.rotation current) target other)
  | roused (target : TaskId) (htarget : target ∈ v.waiting)
      (hnext : w.next = some target)

section Elects

variable {u v w : View} {call : Call} {reply : Reply} {current id : TaskId}

/-- Something else may have changed before. -/
theorem Elects.congr (h : v.Elects w) (hnext : v.next = u.next)
    (hready : v.ready = u.ready) (hwaiting : v.waiting = u.waiting)
    (hurgency : v.urgency = u.urgency) : u.Elects w := by
  cases h with
  | nobody hsame => exact .nobody (hsame.trans hnext)
  | scanned current target hcurrent hin htarget hchosen hfirst =>
      rw [hready] at hin htarget hfirst
      rw [rotation, hready, hurgency] at hfirst
      exact .scanned current target (hnext ▸ hcurrent) hin htarget
        hchosen hfirst
  | roused target htarget hchosen =>
      exact .roused target (hwaiting ▸ htarget) hchosen

theorem Rescheduled.elects (hw : v.Rescheduled current w)
    (hnodup : v.ready.Nodup) (hcurrent : v.next = some current)
    (hready : current ∈ v.ready) : v.Elects w := by
  cases hw with
  | stays => exact .nobody rfl
  | due target htarget => exact .roused target htarget rfl
  | chosen target htarget hne hnone hforemost =>
      refine .scanned current target hcurrent hready htarget rfl ?_
      intro other hother hothers hlast hequal
      have hmem : other ∈ v.rotation current :=
        (mem_dropWhile_append_takeWhile hnodup hready).mpr ⟨hother, hothers⟩
      exact hforemost.ahead hmem hlast (UInt8.le_of_eq hequal.symm)

theorem GaveUp.elects (hw : v.GaveUp current w) (hnodup : v.ready.Nodup)
    (hrunning : v.running = some current) (hready : current ∈ v.ready) :
    v.Elects w := by
  cases hw with
  | pending => exact .nobody rfl
  | now hscheduled hw =>
      exact hw.elects hnodup (next_of_running hrunning hscheduled) hready

theorem Ticked.elects (hw : v.Ticked w) (h : v.Orderly none) : v.Elects w := by
  cases hw with
  | stopped => exact .nobody rfl
  | pending => exact .nobody rfl
  | now hrunning hscheduled hw =>
      exact hw.elects h.queued.ready_nodup (next_of_running hrunning hscheduled)
        (h.running_ready hrunning hscheduled)

theorem Woke.elects (hw : v.Woke id reply w) (hid : id ∈ v.waiting) :
    v.Elects w := by
  cases hw with
  | now => exact .roused id hid rfl
  | later => exact .nobody rfl

/-- While the kernel schedules a call hands the processor on in one of these
ways. -/
theorem Shape.elects (hw : v.Shape call reply w) (h : v.Orderly none)
    (hstarted : v.phase = .started) (hcall : call ≠ .tearDown) :
    v.Elects w := by
  cases hw with
  | rests _ hw => exact .nobody (by rw [next, hw.running, hw.scheduled, next])
  | ticks _ hw => exact hw.elects h
  | @beats _ u saved hu =>
      have hadvanced := h.advanced
      have hnext := (switched_switchedFrom u saved).next_eq
      cases hu.elects hadvanced with
      | nobody hsame => exact .nobody (hnext.trans hsame)
      | scanned current target hcurrent hready htarget hchosen hfirst =>
          exact .scanned current target hcurrent hready htarget
            (hnext.trans hchosen) hfirst
      | roused target htarget hchosen =>
          exact .roused target htarget (hnext.trans hchosen)
  | switches saved => exact .nobody (switched_switchedFrom v saved).next_eq
  | @stops _ _ id u _ hrunning hready _ hu _ hw =>
      have hlists := hu.lists_eq
      have hsame : u.ready = v.ready := by rw [hlists]
      have hprocessor : u.running = v.running := by rw [hlists]
      have helects : u.Elects w := by
        refine hw.elects ?_ (hprocessor.trans hrunning) ?_
        · rw [hsame]
          exact h.queued.ready_nodup
        · rw [hsame]
          exact hready
      refine helects.congr ?_ hsame (by rw [hlists]) hu.urgency_eq
      rw [hlists]
      rfl
  | @serves _ _ _ id u _ hu _ _ _ hw =>
      obtain ⟨resource, rest, -, hblocked⟩ := hu.first
      have hmem : id ∈ v.blocked resource := by
        rw [hblocked]
        exact List.mem_cons_self
      have hwaiting := h.waiting_of_blocked hmem
      have hsame : u.waiting = v.waiting := by
        rw [hu.lists]
        rfl
      refine (hw.elects (hsame ▸ hwaiting)).congr ?_ ?_ hsame hu.urgency_eq
      · rw [hu.lists]
        rfl
      · rw [hu.lists]
        rfl
  | resumes => exact .nobody rfl
  | shelves => exact .nobody rfl
  | enrols _ hphase => exact absurd hstarted (not_started_of_open hphase)
  | enters first platform hphase =>
      exact absurd hstarted (not_started_of_open (Or.inr hphase))
  | clears => exact absurd rfl hcall

end Elects

end View

end TickKernel
