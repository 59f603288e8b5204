/-
Delivery.  A queue hands messages out in the order in which they were sent, each
of them once: the messages of the sends that count are those handed out, then
those in the ring, then those that blocked senders keep.  `Ledger.Balanced` is
that statement on views, with the lines behind it.
-/
import TickKernel.Proofs.Ledger

namespace TickKernel

namespace View

/-! ### The sides of a queue -/

/-- The tasks that wait on one side of a queue. -/
def lined (v : View) (queue : QueueId) (side : Waiters) : List TaskId :=
  if v.waiters queue = side then v.blocked (.queue queue) else []

/-- What a blocked task is in the books of its queue. -/
def entry (v : View) (id : TaskId) : Entry :=
  ⟨id, (v.task id).message, .waiting⟩

section Lined

variable {u v w : View} {queue : QueueId} {side : Waiters}
  {left others : List TaskId} {first id : TaskId} {rest : List TaskId}
  {reply : Reply} {line served : List Entry} {leaves : TaskId → Bool}

theorem lined_eq_nil (h : v.waiters queue ≠ side) : v.lined queue side = [] :=
  if_neg h

theorem mem_blocked_of_mem_lined (h : id ∈ v.lined queue side) :
    id ∈ v.blocked (.queue queue) := by
  unfold lined at h
  split at h
  · exact h
  · cases h

theorem Undisturbed.lined_eq (h : v.Undisturbed queue left w)
    (hside : side ≠ .nobody) :
    w.lined queue side = (v.lined queue side).filter (decide <| · ∉ left) := by
  rw [lined, lined, h.waiters]
  by_cases hnobody : w.blocked (.queue queue) = []
  · rw [if_pos hnobody, if_neg (Ne.symm hside)]
    split
    · rw [← h.blocked, hnobody]
    · rfl
  · rw [if_neg hnobody]
    split
    · exact h.blocked
    · rfl

theorem Undisturbed.trans (h : u.Undisturbed queue left v)
    (h' : v.Undisturbed queue others w) :
    u.Undisturbed queue (left ++ others) w := by
  refine ⟨fun hid => h.created (h'.created hid), h'.ring.trans h.ring, ?_, ?_,
    fun id hid => ?_⟩
  · rw [h'.blocked, h.blocked, List.filter_filter]
    refine List.filter_congr fun id _ => ?_
    rw [← Bool.decide_and, decide_eq_decide, List.mem_append, not_or, and_comm]
  · rw [h'.waiters, h.waiters]
    by_cases hnobody : w.blocked (.queue queue) = []
    · rw [if_pos hnobody, if_pos hnobody]
    · have hsome : v.blocked (.queue queue) ≠ [] := by
        intro hnil
        rw [h'.blocked, hnil] at hnobody
        exact hnobody rfl
      rw [if_neg hnobody, if_neg hnobody, if_neg hsome]
  · have hmem := hid
    rw [h'.blocked] at hmem
    exact (h'.message id hid).trans (h.message id (List.mem_of_mem_filter hmem))

/-- Somebody who is woken takes the reply along, and nobody else leaves. -/
theorem Woke.undisturbed (h : v.Parked) (hw : v.Woke id reply w)
    (queue : QueueId) :
    v.Undisturbed queue [id] w := by
  have hparked : (v.promised id reply).Parked := by
    refine h.congr (Nat.le_refl _) (Nat.le_refl _) (Nat.le_refl _) rfl
      fun other => ?_
    simp only [View.promised, View.setTask]
    split <;> simp_all
  refine ((Quiet.promised v id reply).queues queue).undisturbed_trans ?_
  cases hw with
  | now current => exact undisturbed_dispatched hparked current id queue
  | later => exact undisturbed_readied hparked id queue

/-! ### Lines under the moves -/

/-- Tasks that leave in vain are withdrawn from the books. -/
theorem Undisturbed.withdraw (h : v.Undisturbed queue left w)
    (hside : side ≠ .nobody)
    (hleaves : ∀ id ∈ v.blocked (.queue queue), leaves id = true ↔ id ∈ left)
    (hline : Stands line served ((v.lined queue side).map v.entry)) :
    Stands (closeLine .withdrawn leaves line) served
      ((w.lined queue side).map w.entry) := by
  have hwithdrawn := hline.withdraw leaves
  have hstay : (v.lined queue side).filter
      ((fun entry => !leaves entry.task) ∘ v.entry) =
      w.lined queue side := by
    rw [h.lined_eq hside]
    refine List.filter_congr fun id hid => ?_
    have hiff := hleaves id (mem_blocked_of_mem_lined hid)
    rw [Function.comp_apply, entry, Bool.eq_iff_iff, Bool.not_eq_true',
      decide_eq_true_eq, ← hiff, Bool.not_eq_true]
  have hentry : (w.lined queue side).map v.entry =
      (w.lined queue side).map w.entry := by
    refine List.map_congr_left fun id hid => ?_
    rw [entry, entry, h.message id (mem_blocked_of_mem_lined hid)]
  rwa [List.filter_map, hstay, hentry] at hwithdrawn

/-- If only the first task leaves the others stay. -/
theorem Undisturbed.blocked_eq_rest (h : v.Undisturbed queue [first, first] w)
    (hnodup : (v.blocked (.queue queue)).Nodup)
    (hfirst : v.blocked (.queue queue) = first :: rest) :
    w.blocked (.queue queue) = rest ∧ first ∉ rest := by
  rw [hfirst] at hnodup
  have hnot : first ∉ rest := (List.nodup_cons.mp hnodup).1
  refine ⟨?_, hnot⟩
  rw [h.blocked, hfirst, List.filter_cons, if_neg (by simp),
    List.filter_eq_self]
  intro id hid
  simp only [List.mem_cons, List.not_mem_nil, or_false, or_self,
    decide_eq_true_eq]
  rintro rfl
  exact hnot hid

/-- The task that waited longest is served. -/
theorem Undisturbed.serve (h : v.Undisturbed queue [first, first] w)
    (hside : side ≠ .nobody) (hnodup : (v.blocked (.queue queue)).Nodup)
    (hwaiters : v.waiters queue = side)
    (hfirst : v.blocked (.queue queue) = first :: rest)
    (hleaves : ∀ id, leaves id = true ↔ id ∉ w.blocked (.queue queue))
    (hline : Stands line served ((v.lined queue side).map v.entry)) :
    Stands (closeLine .served leaves line)
      (served ++ [{ v.entry first with fate := .served }])
      ((w.lined queue side).map w.entry) := by
  obtain ⟨hrest, hnot⟩ := h.blocked_eq_rest hnodup hfirst
  have hlined : v.lined queue side = first :: rest := by
    rw [lined, if_pos hwaiters, hfirst]
  have hlined' : w.lined queue side = rest := by
    rw [lined, h.waiters, hwaiters, hrest]
    by_cases hnil : rest = []
    · rw [if_pos hnil, if_neg (Ne.symm hside), hnil]
    · rw [if_neg hnil, if_pos rfl]
  have hentry : rest.map v.entry = rest.map w.entry := by
    refine List.map_congr_left fun id hid => ?_
    rw [entry, entry, h.message id (hrest ▸ hid)]
  rw [hlined, List.map_cons, hentry] at hline
  rw [hlined']
  refine hline.serve ((hleaves first).mpr ?_) fun other hother => ?_
  · rwa [hrest]
  · obtain ⟨id, hid, rfl⟩ := List.mem_map.mp hother
    rw [← Bool.not_eq_true, hleaves, hrest, not_not]
    exact hid

/-- Who queues up is the last on its side, and nobody is on the other one. -/
theorem lined_parked {message : Message} {deadline : Tick} {other : Waiters}
    (h : v.Orderly none) (hside : side ≠ .nobody)
    (hold : v.waiters queue = side ∨ v.waiters queue = .nobody) :
    (v.parked id (.queue queue) side message deadline).lined queue other =
      if side = other then v.lined queue side ++ [id] else [] := by
  have hlined : v.lined queue side = v.blocked (.queue queue) := by
    rcases hold with hold | hold
    · exact if_pos hold
    · rw [lined, hold, if_neg (Ne.symm hside),
        (h.supplied.nobody_iff queue).mp hold]
  rw [hlined]
  simp only [lined, parked, if_true]

theorem parked_line {message : Message} {deadline : Tick} (h : v.Orderly none)
    (hid : id ∈ v.ready) (hside : side ≠ .nobody)
    (hold : v.waiters queue = side ∨ v.waiters queue = .nobody)
    (hline : Stands line served ((v.lined queue side).map v.entry)) :
    Stands (line ++ [⟨id, message, .waiting⟩]) served
      (((v.parked id (.queue queue) side message deadline).lined queue side).map
        (v.parked id (.queue queue) side message deadline).entry) := by
  have hfree : id ∉ v.lined queue side := fun hmem =>
    h.not_blocked_of_ready hid (Option.some_ne_none _).symm _
      (mem_blocked_of_mem_lined hmem)
  have hothers : (v.lined queue side).map
      (v.parked id (.queue queue) side message deadline).entry =
        (v.lined queue side).map v.entry := by
    refine List.map_congr_left fun other hother => ?_
    have hne : id ≠ other := by
      rintro rfl
      exact hfree hother
    simp only [entry, parked, if_neg hne]
  have hself : (v.parked id (.queue queue) side message deadline).entry id =
      ⟨id, message, .waiting⟩ := by
    simp only [entry, parked, if_true]
  rw [lined_parked h hside hold, if_pos rfl, List.map_append, hothers,
    List.map_cons, hself]
  exact hline.pushWaiting rfl

theorem parked_other {message : Message} {deadline : Tick} {other : Waiters}
    (h : v.Orderly none) (hside : side ≠ .nobody)
    (hold : v.waiters queue = side ∨ v.waiters queue = .nobody)
    (hother : side ≠ other) (hother' : other ≠ .nobody)
    (hline : Stands line served ((v.lined queue other).map v.entry)) :
    Stands line served
      (((v.parked id (.queue queue) side message deadline).lined
        queue other).map
        (v.parked id (.queue queue) side message deadline).entry) := by
  have hnone : v.lined queue other = [] := by
    refine lined_eq_nil ?_
    rcases hold with hold | hold
    · rwa [hold]
    · rw [hold]
      exact Ne.symm hother'
  rw [lined_parked h hside hold, if_neg hother]
  rwa [hnone] at hline

end Lined

end View

/-! ### Books in balance -/

/-- The books agree with what the queue holds and who is blocked on it. -/
structure Ledger.Balanced (ledger : Ledger) (queue : QueueId) (v : View) :
    Prop where
  sends : ∃ served,
    Stands ledger.sends served ((v.lined queue .senders).map v.entry) ∧
    served.map Entry.message = ledger.handed ++ (v.ring queue).toList
  receives : ∃ served,
    Stands ledger.receives served ((v.lined queue .receivers).map v.entry) ∧
      served.map Entry.task = ledger.recipients

namespace Ledger.Balanced

variable {v w : View} {queue : QueueId} {ledger : Ledger} {left : List TaskId}
  {leaves : TaskId → Bool} {leftWith : TaskId → Message} {message : Message}
  {current first : TaskId} {rest : List TaskId}

theorem empty (hring : (v.ring queue).toList = [])
    (hblocked : v.blocked (.queue queue) = []) :
    Ledger.empty.Balanced queue v := by
  have hlined : ∀ side, v.lined queue side = [] := by
    intro side
    rw [View.lined, hblocked, ite_self]
  refine ⟨⟨[], ?_, ?_⟩, ⟨[], ?_, rfl⟩⟩
  · rw [hlined]
    exact Stands.nil
  · rw [hring]
    rfl
  · rw [hlined]
    exact Stands.nil

/-- Only waits end, and in vain. -/
theorem withdraw (hb : ledger.Balanced queue v) (h : v.Undisturbed queue left w)
    (hleaves : ∀ id ∈ v.blocked (.queue queue), leaves id = true ↔ id ∈ left) :
    (ledger.withdraw leaves).Balanced queue w := by
  obtain ⟨⟨sent, hsends, hmessages⟩, ⟨received, hreceives, htasks⟩⟩ := hb
  refine ⟨⟨sent, h.withdraw (by decide) hleaves hsends, ?_⟩,
    ⟨received, h.withdraw (by decide) hleaves hreceives, htasks⟩⟩
  rw [h.ring]
  exact hmessages

/-- A message is stored. -/
theorem stored (hb : ledger.Balanced queue v)
    (hside : v.waiters queue = .nobody) (hvalid : (v.ring queue).Valid)
    (hroom : (v.ring queue).count < (v.ring queue).capacity) :
    (ledger.addSent current message leaves leftWith).Balanced queue
      (v.setRing queue ((v.ring queue).push message)) := by
  obtain ⟨⟨sent, hsends, hmessages⟩, ⟨received, hreceives, htasks⟩⟩ := hb
  have hlined : ∀ side, side ≠ .nobody → v.lined queue side = [] := by
    intro side hne
    exact View.lined_eq_nil (by rw [hside]; exact Ne.symm hne)
  rw [hlined _ (by decide)] at hsends hreceives
  have hnone : ledger.receives.filter (fun entry => entry.isLeaving leaves) =
      [] :=
    hreceives.leaving_eq leaves
  have hlined' : ∀ side, side ≠ .nobody →
      (v.setRing queue ((v.ring queue).push message)).lined queue side =
        [] := hlined
  refine ⟨⟨sent ++ [⟨current, message, .served⟩], ?_, ?_⟩, ⟨received, ?_, ?_⟩⟩
  · rw [hlined' _ (by decide)]
    exact hsends.pushServed rfl
  · simp only [addSent, hnone, List.map_nil, List.append_nil, List.map_append,
      List.map_cons, hmessages, View.setRing, if_true,
      Ring.toList_push hvalid hroom, List.append_assoc]
  · rw [hlined' _ (by decide)]
    exact hreceives.serveNone fun _ hnil => absurd hnil List.not_mem_nil
  · simp only [addSent, hnone, List.map_nil, List.append_nil, htasks]

/-- A message goes directly to the receiver that waited longest. -/
theorem handed (hb : ledger.Balanced queue v) (ho : v.Orderly none)
    (hside : v.waiters queue = .receivers)
    (hfirst : v.blocked (.queue queue) = first :: rest)
    (hleaves : ∀ id, leaves id = true ↔ id ∉ w.blocked (.queue queue))
    (hleft : v.Undisturbed queue [first, first] w)
    (hreply : leftWith first = message) :
    (ledger.addSent current message leaves leftWith).Balanced queue w := by
  obtain ⟨⟨sent, hsends, hmessages⟩, ⟨received, hreceives, htasks⟩⟩ := hb
  have hempty : (v.ring queue).toList = [] := by
    rw [← List.length_eq_zero_iff, Ring.length_toList]
    exact ho.supplied.empty_of_receivers queue hside
  have hnodup := ho.parked.blocked_nodup (.queue queue)
  have hserved := hleft.serve (by decide) hnodup hside hfirst hleaves hreceives
  have hnone : v.lined queue .senders = [] :=
    View.lined_eq_nil (by rw [hside]; decide)
  have hnone' : w.lined queue .senders = [] := by
    rw [hleft.lined_eq (by decide), hnone]
    rfl
  have hlined : v.lined queue .receivers = first :: rest := by
    rw [View.lined, if_pos hside, hfirst]
  have hreceivers :
      (ledger.receives.filter fun entry => entry.isLeaving leaves).map
      Entry.task = [first] := by
    obtain ⟨hrest, hnot⟩ := hleft.blocked_eq_rest hnodup hfirst
    have hleaving : leaves (v.entry first).task = true :=
      (hleaves first).mpr (by rwa [hrest])
    have hstay : (rest.map v.entry).filter (fun entry => leaves entry.task) =
        [] := by
      rw [List.filter_eq_nil_iff]
      intro entry hentry
      obtain ⟨id, hid, rfl⟩ := List.mem_map.mp hentry
      rw [hleaves, hrest, not_not]
      exact hid
    rw [hreceives.leaving_eq, hlined, List.map_cons, List.filter_cons,
      if_pos hleaving, hstay]
    rfl
  rw [hnone] at hsends
  refine ⟨⟨sent ++ [⟨current, message, .served⟩], ?_, ?_⟩, ⟨_, hserved, ?_⟩⟩
  · rw [hnone']
    exact hsends.pushServed rfl
  · simp only [addSent, hreceivers, List.map_cons, List.map_nil,
      List.map_append, hmessages, hleft.ring, hempty, hreply, List.append_nil]
  · simp only [addSent, hreceivers, List.map_append, List.map_cons,
      List.map_nil, htasks, View.entry]

/-- A message is received while no sender waits. -/
theorem taken {ring : Ring} (hb : ledger.Balanced queue v)
    (hside : v.waiters queue = .nobody) (hvalid : (v.ring queue).Valid)
    (hpop : (v.ring queue).pop? = some (message, ring)) :
    (ledger.addReceived message leaves).Balanced queue
      (v.setRing queue ring) := by
  obtain ⟨⟨sent, hsends, hmessages⟩, ⟨received, hreceives, htasks⟩⟩ := hb
  have hlined : v.lined queue .senders = [] :=
    View.lined_eq_nil (by rw [hside]; decide)
  refine ⟨⟨sent, ?_, ?_⟩, ⟨received, hreceives, htasks⟩⟩
  · refine hsends.serveNone fun entry hentry => ?_
    rw [hlined] at hentry
    exact absurd hentry List.not_mem_nil
  · simp only [addReceived, hmessages, Ring.toList_pop hvalid hpop,
      View.setRing, if_true, List.append_assoc, List.cons_append,
      List.nil_append]

/-- A message is received, and the sender that waited longest stores its own. -/
theorem refilled {ring : Ring} (hb : ledger.Balanced queue v)
    (ho : v.Orderly none) (hcreated : v.Created (.queue queue))
    (hside : v.waiters queue = .senders)
    (hpop : (v.ring queue).pop? = some (message, ring))
    (hfirst : v.blocked (.queue queue) = first :: rest)
    (hleaves : ∀ id, leaves id = true ↔ id ∉ w.blocked (.queue queue))
    (hleft : (v.setRing queue (ring.push (v.task first).message)).Undisturbed
      queue [first, first] w) :
    (ledger.addReceived message leaves).Balanced queue w := by
  obtain ⟨⟨sent, hsends, hmessages⟩, ⟨received, hreceives, htasks⟩⟩ := hb
  have hvalid := ho.supplied.ring_valid queue hcreated
  have hnodup := ho.parked.blocked_nodup (.queue queue)
  have hroom := (View.ring_refilled (v.task first).message hvalid
    (ho.supplied.full_of_senders queue hside) hpop).2.2
  have hring : (w.ring queue).toList = ring.toList ++
      [(v.task first).message] := by
    rw [hleft.ring, ← Ring.toList_push (Ring.valid_pop hvalid hpop) hroom]
    simp only [View.setRing, if_true]
  have hserved := hleft.serve (by decide) hnodup hside hfirst hleaves hsends
  have hnone : v.lined queue .receivers = [] :=
    View.lined_eq_nil (by rw [hside]; decide)
  have hnone' : w.lined queue .receivers = [] := by
    rw [hleft.lined_eq (by decide)]
    change (v.lined queue .receivers).filter _ = []
    rw [hnone]
    rfl
  refine ⟨⟨_, hserved, ?_⟩, ⟨received, ?_, htasks⟩⟩
  · simp only [addReceived, List.map_append, List.map_cons, List.map_nil,
      hmessages, Ring.toList_pop hvalid hpop, hring, View.entry, View.setRing,
      List.append_assoc, List.cons_append, List.nil_append]
  · rw [hnone']
    rw [hnone] at hreceives
    exact hreceives

/-- A sender queues up. -/
theorem addSender {deadline : Tick} (hb : ledger.Balanced queue v)
    (ho : v.Orderly none) (hcurrent : current ∈ v.ready)
    (hold : v.waiters queue = .senders ∨ v.waiters queue = .nobody) :
    (ledger.addSender current message).Balanced queue
      (v.parked current (.queue queue) .senders message deadline) := by
  obtain ⟨⟨sent, hsends, hmessages⟩, ⟨received, hreceives, htasks⟩⟩ := hb
  refine ⟨⟨sent, ?_, hmessages⟩, ⟨received, ?_, htasks⟩⟩
  · exact View.parked_line ho hcurrent (by decide) hold hsends
  · exact View.parked_other ho (by decide) hold (by decide) (by decide)
      hreceives

/-- A receiver queues up. -/
theorem addReceiver {deadline : Tick} (hb : ledger.Balanced queue v)
    (ho : v.Orderly none) (hcurrent : current ∈ v.ready)
    (hold : v.waiters queue = .receivers ∨ v.waiters queue = .nobody) :
    (ledger.addReceiver current).Balanced queue
      (v.parked current (.queue queue) .receivers 0 deadline) := by
  obtain ⟨⟨sent, hsends, hmessages⟩, ⟨received, hreceives, htasks⟩⟩ := hb
  refine ⟨⟨sent, ?_, hmessages⟩, ⟨received, ?_, htasks⟩⟩
  · exact View.parked_other ho (by decide) hold (by decide) (by decide) hsends
  · exact View.parked_line ho hcurrent (by decide) hold hreceives

end Ledger.Balanced

/-! ### Books over one step -/

section Step

variable {step : Step} {queue : QueueId} {ledger : Ledger} {left : List TaskId}
  {id current : TaskId} {message : Message} {timeout : Tick}

theorem Step.leaves_iff : step.leaves queue id = true ↔
    id ∉ step.after.view.blocked (.queue queue) := by
  change (!(step.after.blockedIds (.queue queue)).contains id) = true ↔
    id ∉ step.after.blockedIds (.queue queue)
  simp

theorem Step.leaves_iff_mem {u : View}
    (h : u.Undisturbed queue left step.after.view)
    (hid : id ∈ u.blocked (.queue queue)) :
    step.leaves queue id = true ↔ id ∈ left := by
  rw [Step.leaves_iff, h.blocked, List.mem_filter, decide_eq_true_eq, not_and,
    not_not]
  exact ⟨fun himp => himp hid, fun hmem _ => hmem⟩

/-- Whoever leaves a queue otherwise than by trade has a reason to. -/
theorem Step.withdraws_iff
    (h : step.before.view.Undisturbed queue left step.after.view)
    (hreason : ∀ id ∈ left, id ∈ step.before.view.blocked (.queue queue) →
      step.call.direct = .suspend id ∨
      Tick.reached step.after.platform.clock (step.before.task id).deadline =
      true)
    (hid : id ∈ step.before.view.blocked (.queue queue)) :
    step.withdraws queue id = true ↔ id ∈ left := by
  rw [Step.withdraws, Bool.and_eq_true, Step.leaves_iff_mem h hid,
    Bool.or_eq_true, decide_eq_true_eq]
  exact ⟨And.left, fun hmem => ⟨hmem, hreason id hmem hid⟩⟩

theorem Ledger.Balanced.enterNothing
    (hb : ledger.Balanced queue step.before.view)
    (hdeal : step.deal queue = .nothing)
    (h : step.before.view.Undisturbed queue left step.after.view)
    (hreason : ∀ id ∈ left, id ∈ step.before.view.blocked (.queue queue) →
      step.call.direct = .suspend id ∨
      Tick.reached step.after.platform.clock (step.before.task id).deadline =
      true) :
    (ledger.enter queue step).Balanced queue step.after.view := by
  rw [Ledger.enter, hdeal]
  exact hb.withdraw h fun id hid => Step.withdraws_iff h hreason hid

/-- Whoever leaves the queue while a task queues up on it has a reason to, and
that task does not leave. -/
theorem Step.withdraws_parked {side : Waiters} {deadline : Tick}
    (ho : step.after.view.Orderly none)
    (hw : (step.before.view.parked current (.queue queue) side message
      deadline).GaveUp current step.after.view)
    (hkeeps : (step.before.view.parked current (.queue queue) side message
      deadline).Keeps (fun _ => False) step.after.view) :
    ∃ left, (step.before.view.parked current (.queue queue) side message
        deadline).Undisturbed queue left step.after.view ∧
      (∀ id ∈ (step.before.view.parked current (.queue queue) side message
        deadline).blocked (.queue queue), step.withdraws queue id = true ↔
          id ∈ left) ∧
      step.withdraws queue current = false := by
  obtain ⟨left, hleft, hreason⟩ := hkeeps.queues queue
  have hcurrent : current ∈ step.after.view.blocked (.queue queue) := by
    rw [ho.parked.mem_blocked, hw.waitsFor_eq]
    simp only [View.parked, if_true]
  have hstays : step.leaves queue current = false := by
    rw [← Bool.not_eq_true, Step.leaves_iff, not_not]
    exact hcurrent
  have hnever : step.withdraws queue current = false := by
    rw [Step.withdraws, hstays, Bool.false_and]
  refine ⟨left, hleft, fun id hid => ?_, hnever⟩
  have hleaves := Step.leaves_iff_mem hleft hid
  by_cases heq : current = id
  · subst heq
    rw [hnever, ← hleaves, hstays]
  · rw [Step.withdraws, Bool.and_eq_true, hleaves, Bool.or_eq_true]
    refine ⟨And.left, fun hmem => ⟨hmem, Or.inr ?_⟩⟩
    have hreached := (hreason id hmem hid).resolve_left not_false
    simp only [View.parked, if_neg heq] at hreached
    exact hreached

/-- A refusal leaves no trace in the books. -/
theorem Step.deal_refused {error : Error} (hne : error ≠ .timeout)
    (hreply : step.answer.toReply = Reply.err error.status) :
    step.deal queue = .nothing := by
  have hsuccess := error.status_ne_success
  have htimeout : error.status ≠ .timeout := by
    cases error <;> simp_all [Error.status]
  unfold Step.deal
  rw [hreply, Reply.err]
  split <;> simp_all

theorem Ledger.Balanced.enterRefused {error : Error}
    (hb : ledger.Balanced queue step.before.view)
    (ho : step.before.view.Orderly none) (hne : error ≠ .timeout)
    (hreply : step.answer.toReply = Reply.err error.status)
    (hview : step.after.view = step.before.view) :
    (ledger.enter queue step).Balanced queue step.before.view := by
  have hquiet : step.before.view.Undisturbed queue [] step.after.view := by
    rw [hview]
    exact ((View.Quiet.refl step.before.view).queues queue).undisturbed
      ho.supplied
  have hentered := hb.enterNothing (Step.deal_refused hne hreply) hquiet
    fun _ hid => absurd hid List.not_mem_nil
  rwa [hview] at hentered

theorem Ledger.Balanced.enterSent {result : Except Error Unit}
    (hb : ledger.Balanced queue step.before.view)
    (ho : step.before.view.Orderly none)
    (hcall : step.call.direct = .send queue message timeout)
    (hreply : step.answer.toReply = (Answer.unit result).toReply)
    (hw : step.before.view.Sent queue message timeout result step.after.view) :
    (ledger.enter queue step).Balanced queue step.after.view := by
  have hafter := (hw.trades ho).orderly
  generalize hview : step.after.view = w at hw hafter ⊢
  cases hw with
  | refused error hne => exact hb.enterRefused ho hne hreply hview
  | @handed current receiver rest _ hrunning hcreated hside hnext hw =>
      have hrunning' : step.before.running = some current := hrunning
      have hdeal : step.deal queue = .sent current message := by
        rw [Step.deal, hrunning', hcall, hreply]
        exact if_pos rfl
      have hleft := (View.undisturbed_unblocked ho.parked receiver queue).trans
        (hw.undisturbed ho.unblocked.parked queue)
      subst hview
      rw [Ledger.enter, hdeal]
      refine hb.handed ho hside hnext (fun id => Step.leaves_iff) hleft ?_
      have hpending : (step.after.task receiver).pending =
          some (Reply.ok message) :=
        hw.pending
      rw [Step.leftWith, hpending]
      rfl
  | @stored current hrunning hcreated hside hroom =>
      have hrunning' : step.before.running = some current := hrunning
      have hdeal : step.deal queue = .sent current message := by
        rw [Step.deal, hrunning', hcall, hreply]
        exact if_pos rfl
      rw [Ledger.enter, hdeal]
      exact hb.stored hside (ho.supplied.ring_valid queue hcreated) hroom
  | @parked current _ hrunning hcreated hside hfull hready hidle hw =>
      have hrunning' : step.before.running = some current := hrunning
      have hdeal : step.deal queue = .senderWaits current message := by
        rw [Step.deal, hrunning', hcall, hreply]
        exact if_pos rfl
      have hold : step.before.view.waiters queue = .senders ∨
          step.before.view.waiters queue = .nobody := by
        cases heq : step.before.view.waiters queue <;> simp_all
      have hkeeps :=
        (View.Trades.parked ho hrunning hcreated (Or.inl ⟨rfl, hfull⟩) hready
          hidle hw).2
      subst hview
      obtain ⟨left, hleft, hleaves, hstays⟩ :=
        Step.withdraws_parked hafter hw hkeeps
      rw [Ledger.enter, hdeal]
      change Ledger.Balanced ((ledger.withdraw _).addSender current message) _ _
      rw [← ledger.withdraw_addSender message hstays]
      exact (hb.addSender ho hready hold).withdraw hleft hleaves

theorem Ledger.Balanced.enterReceived {result : Except Error Message}
    (hb : ledger.Balanced queue step.before.view)
    (ho : step.before.view.Orderly none)
    (hcall : step.call.direct = .receive queue timeout)
    (hreply : step.answer.toReply = (Answer.message result).toReply)
    (hw : step.before.view.Received queue timeout result step.after.view) :
    (ledger.enter queue step).Balanced queue step.after.view := by
  have hafter := (hw.trades ho).orderly
  generalize hview : step.after.view = w at hw hafter ⊢
  cases hw with
  | refused error hne => exact hb.enterRefused ho hne hreply hview
  | @taken current message ring hrunning hcreated hpop hside =>
      have hrunning' : step.before.running = some current := hrunning
      have hdeal : step.deal queue = .received message := by
        rw [Step.deal, hrunning', hcall, hreply]
        exact if_pos rfl
      rw [Ledger.enter, hdeal]
      exact hb.taken hside (ho.supplied.ring_valid queue hcreated) hpop
  | @refilled current sender rest message ring _ hrunning hcreated hpop hside
    hnext hw =>
      have hrunning' : step.before.running = some current := hrunning
      have hdeal : step.deal queue = .received message := by
        rw [Step.deal, hrunning', hcall, hreply]
        exact if_pos rfl
      have hparked : (step.before.view.setRing queue
          (ring.push (step.before.view.task sender).message)).Parked :=
        ho.parked.congr (Nat.le_refl _) (Nat.le_refl _) (Nat.le_refl _) rfl
          fun _ => ⟨rfl, rfl, rfl, fun _ => rfl⟩
      have hleft := (View.undisturbed_unblocked hparked sender queue).trans
        (hw.undisturbed (ho.refilled hcreated hpop hside).parked queue)
      subst hview
      rw [Ledger.enter, hdeal]
      exact hb.refilled ho hcreated hside hpop hnext
        (fun id => Step.leaves_iff) hleft
  | @parked current _ hrunning hcreated hempty hready hidle hw =>
      have hrunning' : step.before.running = some current := hrunning
      have hdeal : step.deal queue = .receiverWaits current := by
        rw [Step.deal, hrunning', hcall, hreply]
        exact if_pos rfl
      have hold : step.before.view.waiters queue = .receivers ∨
          step.before.view.waiters queue = .nobody := by
        cases heq : step.before.view.waiters queue with
        | nobody => exact Or.inr rfl
        | receivers => exact Or.inl rfl
        | senders =>
            have hfull := ho.supplied.full_of_senders queue heq
            have hpos := (ho.supplied.ring_valid queue hcreated).capacity_pos
            omega
      have hkeeps :=
        (View.Trades.parked ho hrunning hcreated (Or.inr ⟨rfl, hempty⟩) hready
          hidle hw).2
      subst hview
      obtain ⟨left, hleft, hleaves, hstays⟩ :=
        Step.withdraws_parked hafter hw hkeeps
      rw [Ledger.enter, hdeal]
      change Ledger.Balanced ((ledger.withdraw _).addReceiver current) _ _
      rw [← ledger.withdraw_addReceiver hstays]
      exact (hb.addReceiver ho hready hold).withdraw hleft hleaves

/-- Steps that are not about the queue have no entry in its books. -/
theorem Step.deal_eq_nothing
    (hsend : ∀ message timeout, step.call.direct ≠ .send queue message timeout)
    (hreceive : ∀ timeout, step.call.direct ≠ .receive queue timeout) :
    step.deal queue = .nothing := by
  unfold Step.deal
  split
  · split
    · simp_all
    · rfl
  · split
    · simp_all
    · rfl
  · split
    · simp_all
    · rfl
  · split
    · simp_all
    · rfl
  · rfl

/-- The books stay in balance. -/
theorem Ledger.Balanced.enter (hb : ledger.Balanced queue step.before.view)
    (ho : step.before.view.Orderly none)
    (hw : step.before.view.Effect step.call.direct step.answer.toReply
      step.after.view)
    (hbefore : step.before.view.Created (.queue queue))
    (hafter : step.after.view.Created (.queue queue)) :
    (ledger.enter queue step).Balanced queue step.after.view := by
  generalize hcall : step.call.direct = direct at hw
  generalize hreply : step.answer.toReply = reply at hw
  generalize hview : step.after.view = w at hw
  have hquiet : step.deal queue = .nothing → step.before.view.QuietAt queue w →
      (ledger.enter queue step).Balanced queue w := by
    intro hdeal hquiet
    subst hview
    exact hb.enterNothing hdeal (hquiet.undisturbed ho.supplied)
      fun _ hid => absurd hid List.not_mem_nil
  have hother : ∀ other, other ≠ queue → step.before.view.Trades other w →
      step.deal queue = .nothing →
      (ledger.enter queue step).Balanced queue w := by
    intro other hne htrades hdeal
    subst hview
    obtain ⟨left, hleft, hreason⟩ := htrades.others queue hne
    exact hb.enterNothing hdeal hleft fun id hid hmem =>
      Or.inr (hreason id hid hmem)
  cases hw with
  | proceeds hplain hw =>
      have hdeal : step.deal queue = .nothing :=
        Step.deal_eq_nothing (fun _ _ heq => by
          rw [← hcall, heq] at hplain
          cases hplain) fun _ heq => by
            rw [← hcall, heq] at hplain
            cases hplain
      obtain ⟨left, hleft, hreason⟩ := hw.keeps.queues queue
      subst hview
      rw [← hcall] at hreason
      exact hb.enterNothing hdeal hleft hreason
  | enrolled hw =>
      refine hquiet (Step.deal_eq_nothing ?_ ?_) (hw.quietAt ho queue) <;>
        simp [hcall]
  | tornDown =>
      rw [hview] at hafter
      exact absurd hafter (Nat.not_lt_zero _)
  | made hw =>
      refine hquiet (Step.deal_eq_nothing ?_ ?_) (hw.quietAt hbefore) <;>
        simp [hcall]
  | @sent other _ _ _ _ hw =>
      by_cases heq : other = queue
      · subst heq hview
        exact hb.enterSent ho hcall hreply hw
      · refine hother other heq (hw.trades ho) (Step.deal_eq_nothing ?_ ?_) <;>
          simp [hcall, heq]
  | @received other _ _ _ hw =>
      by_cases heq : other = queue
      · subst heq hview
        exact hb.enterReceived ho hcall hreply hw
      · refine hother other heq (hw.trades ho) (Step.deal_eq_nothing ?_ ?_) <;>
          simp [hcall, heq]

/-- A queue that was not there before is empty, and nobody is blocked on it. -/
theorem View.Effect.empty_of_new {v w : View} {call : Call} {reply : Reply}
    (hw : v.Effect call reply w) (ho : v.Orderly none)
    (hbefore : ¬v.Created (.queue queue)) (hafter : w.Created (.queue queue)) :
    (w.ring queue).toList = [] ∧ w.blocked (.queue queue) = [] := by
  cases hw with
  | proceeds hplain hw =>
      obtain ⟨left, hleft, -⟩ := hw.keeps.queues queue
      exact absurd (hleft.created hafter) hbefore
  | enrolled hw => exact absurd ((hw.quietAt ho queue).created hafter) hbefore
  | tornDown => exact absurd hafter (Nat.not_lt_zero _)
  | made hw => exact hw.empty ho hbefore hafter
  | @sent other _ _ _ _ hw =>
      by_cases heq : other = queue
      · subst heq
        exact absurd (hw.created hafter) hbefore
      · obtain ⟨left, hleft, -⟩ := (hw.trades ho).others queue heq
        exact absurd (hleft.created hafter) hbefore
  | @received other _ _ _ hw =>
      by_cases heq : other = queue
      · subst heq
        exact absurd (hw.created hafter) hbefore
      · obtain ⟨left, hleft, -⟩ := (hw.trades ho).others queue heq
        exact absurd (hleft.created hafter) hbefore

end Step

/-! ### Books over a run -/

theorem Run.balanced {steps : List Step} {k : Kernel} (hrun : Run steps k)
    {queue : QueueId} (hqueue : k.hasQueue queue = true) :
    (ledger queue steps).Balanced queue k.view := by
  induction hrun with
  | fresh platform =>
      exact absurd (of_decide_eq_true hqueue) (Nat.not_lt_zero _)
  | @step steps k k' call answer hrun hperform ih =>
      obtain ⟨hw, hsound⟩ := hrun.sound.performs hperform
      have heffect := hw.effect hrun.sound.orderly
      have hafter := (hsound.shows.hasQueue_iff queue).mp hqueue
      rw [ledger]
      split
      · rename_i hbefore
        exact Ledger.Balanced.enter (ih hbefore)
          hrun.sound.orderly heffect
          ((hrun.sound.shows.hasQueue_iff queue).mp hbefore) hafter
      · rename_i hbefore
        obtain ⟨hring, hblocked⟩ := heffect.empty_of_new hrun.sound.orderly
          (fun hcreated =>
            hbefore ((hrun.sound.shows.hasQueue_iff queue).mpr hcreated))
          hafter
        exact .empty hring hblocked

/-- The tasks that still wait by the books are the blocked ones. -/
theorem Ledger.Balanced.waiting_eq {ledger : Ledger} {queue : QueueId}
    {v : View} (hb : ledger.Balanced queue v) :
    ledger.waitingSenders = v.lined queue .senders ∧
      ledger.waitingReceivers = v.lined queue .receivers := by
  obtain ⟨⟨sent, hsends, -⟩, ⟨received, hreceives, -⟩⟩ := hb
  have htask : ∀ ids : List TaskId, (ids.map v.entry).map Entry.task = ids := by
    intro ids
    rw [List.map_map]
    exact List.map_id ids
  rw [waitingSenders, waitingReceivers, hsends.waiting_eq, hreceives.waiting_eq,
    htask, htask]
  exact ⟨rfl, rfl⟩

/-- The queue has delivered what the books say, and holds the rest. -/
structure Ledger.Delivered (ledger : Ledger) (k : Kernel) (queue : QueueId) :
    Prop where
  /-- The messages of all sends that count, in the order of the calls. -/
  messages : (ledger.sends.filter Entry.counts).map Entry.message =
    ledger.handed ++ (k.queue queue).ring.toList ++
      (k.blockedSide queue .senders).map fun id => (k.task id).message
  senders : ledger.waitingSenders = k.blockedSide queue .senders
  /-- The receivers that had to wait and did not leave, in the order of the
  calls. -/
  receivers : (ledger.receives.filter Entry.counts).map Entry.task =
    ledger.recipients ++ k.blockedSide queue .receivers

/-- After any calls every queue has delivered its messages in order and once. -/
theorem Run.delivered {steps : List Step} {k : Kernel} (hrun : Run steps k)
    {queue : QueueId} (hqueue : k.hasQueue queue = true) :
    (ledger queue steps).Delivered k queue := by
  have hb := hrun.balanced hqueue
  have hwaiting := hb.waiting_eq
  obtain ⟨⟨sent, hsends, hmessages⟩, ⟨received, hreceives, htasks⟩⟩ := hb
  refine ⟨?_, hwaiting.1, ?_⟩
  · rw [hsends.counts_eq, List.map_append, hmessages, List.map_map]
    rfl
  · rw [hreceives.counts_eq, List.map_append, htasks, List.map_map]
    exact congrArg (_ ++ ·) (List.map_id _)

namespace Witness

/-- Task A waits for a message and is set aside, and task B is handed one.  Then
task B waits for room, the time of task C is over, and task C waits again. -/
def traded : List Call :=
  trio ++ [.createQueue 1, .receive box 3, .switchOver, .receive box 30,
    .switchOver,
    .suspend taskA, .send box 7 0, .switchOver, .send box 8 0, .send box 9 5,
    .switchOver, .send box 10 1, .switchOver, .beat, .send box 11 9,
    .switchOver, .receive box 0]

theorem delivered_traded :
    Run (history traded).1 (history traded).2 ∧
      (history traded).2.hasQueue box = true ∧
      (ledger box (history traded).1).handed = [7, 8] ∧
      ((history traded).2.queue box).ring.toList = [9] ∧
      (history traded).2.blockedSide box .senders = [taskC] ∧
      (ledger box (history traded).1).Delivered (history traded).2 box :=
  ⟨run_history _, by decide +kernel, by decide +kernel, by decide +kernel,
    by decide +kernel, (run_history _).delivered (by decide +kernel)⟩

end Witness

end TickKernel
