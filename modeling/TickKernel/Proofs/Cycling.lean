/-
Equals take turns.  While nobody waits, every tick with the switch that it asks
for brings the next of the most urgent runnable tasks to the processor, in the
order in which they stand, and after the last of them the first again.  Less
urgent tasks stand behind them and are passed over, and a task without an equal
goes on.
-/
import TickKernel.Proofs.Requests
import TickKernel.Proofs.Scanning

namespace TickKernel

namespace Kernel

/-! ### The most urgent tasks -/

/-- The runnable tasks than which no other is more urgent, in the order in which
they stand. -/
def peers (k : Kernel) : List TaskId :=
  k.readyIds.filter fun id => k.readyIds.all fun other =>
    decide ((k.task other).priority ≤ (k.task id).priority)

/-- The calls of `n` ticks, each with the switch that it asks for. -/
def rounds : Nat → List Call
  | 0 => []
  | n + 1 => .tick :: .switchOver :: rounds n

section Peers

variable {k k' : Kernel} {id other : TaskId}

theorem mem_peers : id ∈ k.peers ↔ id ∈ k.readyIds ∧
    ∀ other ∈ k.readyIds, (k.task other).priority ≤ (k.task id).priority := by
  simp [peers]

/-- A list that is sorted by urgency begins with those as urgent as any. -/
theorem filter_urgent_append {task : TaskId → Task} {ids : List TaskId}
    {top : Priority}
    (hsorted : ids.Pairwise fun earlier later =>
      (task later).priority ≤ (task earlier).priority)
    (htop : ∀ id ∈ ids, (task id).priority ≤ top) :
    ∃ rest,
      ids = ids.filter (fun id => decide (top ≤ (task id).priority)) ++ rest ∧
      ∀ id ∈ rest, (task id).priority < top := by
  induction ids with
  | nil => exact ⟨[], rfl, fun id hid => absurd hid List.not_mem_nil⟩
  | cons first ids ih =>
      rw [List.pairwise_cons] at hsorted
      by_cases hfirst : top ≤ (task first).priority
      · obtain ⟨rest, hids, hrest⟩ :=
          ih hsorted.2 fun id hid => htop id (List.mem_cons_of_mem first hid)
        refine ⟨rest, ?_, hrest⟩
        simp only [List.filter_cons, decide_eq_true hfirst, if_true,
          List.cons_append]
        rw [← hids]
      · have hless : ∀ id ∈ first :: ids, (task id).priority < top := by
          intro id hid
          rcases List.mem_cons.mp hid with rfl | hid
          · exact UInt8.not_le.mp hfirst
          · exact UInt8.lt_of_le_of_lt (hsorted.1 id hid)
              (UInt8.not_le.mp hfirst)
        refine ⟨first :: ids, ?_, hless⟩
        rw [List.filter_eq_nil_iff.mpr, List.nil_append]
        intro id hid
        simpa using hless id hid

/-- The first of the runnable tasks is as urgent as any. -/
theorem Sound.mem_peers_of_first (h : k.Sound) {first : TaskId}
    {ids : List TaskId} (hids : k.readyIds = first :: ids) :
    first ∈ k.peers := by
  have hsorted : k.readyIds.Pairwise fun earlier later =>
      (k.task later).priority ≤ (k.task earlier).priority :=
        h.orderly.queued.ready_sorted
  rw [hids, List.pairwise_cons] at hsorted
  rw [mem_peers, hids]
  refine ⟨List.mem_cons_self, fun other hother => ?_⟩
  rcases List.mem_cons.mp hother with rfl | hother
  · exact UInt8.le_refl _
  · exact hsorted.1 other hother

/-- The most urgent tasks stand in front of all others. -/
theorem Sound.peers_append (h : k.Sound) :
    ∃ rest, k.readyIds = k.peers ++ rest ∧
      ∀ id ∈ rest, ∀ other ∈ k.peers,
      (k.task id).priority < (k.task other).priority := by
  cases hids : k.readyIds with
  | nil =>
      exact ⟨[], by simp [peers, hids],
        fun id hid => absurd hid List.not_mem_nil⟩
  | cons first ids =>
      obtain ⟨hfirst, htop⟩ := mem_peers.mp (h.mem_peers_of_first hids)
      have hsorted : k.readyIds.Pairwise fun earlier later =>
          (k.task later).priority ≤ (k.task earlier).priority :=
            h.orderly.queued.ready_sorted
      obtain ⟨rest, hsplit, hless⟩ := filter_urgent_append hsorted htop
      have hpeers : k.readyIds.filter
          (fun id => decide ((k.task first).priority ≤ (k.task id).priority)) =
            k.peers := by
        apply List.filter_congr
        intro id hid
        rw [Bool.eq_iff_iff, decide_eq_true_eq, List.all_eq_true]
        constructor
        · intro hle other hother
          exact decide_eq_true (UInt8.le_trans (htop other hother) hle)
        · exact fun hall => of_decide_eq_true (hall first hfirst)
      rw [hpeers, hids] at hsplit
      refine ⟨rest, hsplit, fun id hid other hother => ?_⟩
      exact UInt8.lt_of_lt_of_le (hless id hid)
        ((mem_peers.mp hother).2 first hfirst)

/-- A peer is chosen when only less urgent tasks are met before it. -/
theorem Scans.foremost_of_peer {current next : TaskId}
    {front back : List TaskId} (h : k.Scans current) (hnext : next ∈ k.peers)
    (hrotation : k.rotation current = front ++ next :: back)
    (hless : ∀ id ∈ front, (k.task id).priority < (k.task next).priority) :
    Foremost k.task (k.rotation current) next := by
  refine ⟨front, back, hrotation, hless, fun id hid => ?_⟩
  have hmem : id ∈ k.rotation current := by
    rw [hrotation]
    exact List.mem_append_right front (List.mem_cons_of_mem next hid)
  exact (mem_peers.mp hnext).2 id ((h.mem_iff id).mp hmem).1

/-- A list around its `i`th element. -/
theorem exists_append_of_getElem? {ids : List TaskId} {i : Nat}
    (h : ids[i]? = some id) :
    ∃ front back, ids = front ++ id :: back ∧ front.length = i := by
  obtain ⟨hi, rfl⟩ := List.getElem?_eq_some_iff.mp h
  refine ⟨ids.take i, ids.drop (i + 1), ?_,
    List.length_take_of_le (Nat.le_of_lt hi)⟩
  rw [List.getElem_cons_drop, List.take_append_drop]

theorem rotation_of_append {current : TaskId} {front back : List TaskId}
    (hids : k.readyIds = front ++ current :: back) (hfront : current ∉ front) :
    k.rotation current = back ++ front := by
  rw [rotation, hids, dropWhile_tail_append_takeWhile hfront]

end Peers

/-! ### One round -/

/-- The kernel schedules, no switch is pending, nobody waits and no guard is
damaged. -/
structure Steady (k : Kernel) : Prop where
  sound : k.Sound
  started : k.phase = .started
  scheduled : k.scheduled = none
  waiting : k.waitingIds = []
  guarded : k.Guarded

/-- A tick and the switch that it asks for bring `next` to the processor, and
nobody changes places. -/
structure Round (k : Kernel) (next : TaskId) (asked : Nat) (k' : Kernel) :
    Prop where
  calls : ∃ k₁, k.schedule = .ok k₁ ∧ k₁.switchOver.2 = k'
  steady : k'.Steady
  running : k'.running = some next
  ready_eq : k'.readyIds = k.readyIds
  priority_eq : ∀ id, (k'.task id).priority = (k.task id).priority
  requests : k'.platform.requests = k.platform.requests + asked

section Round

variable {k k' k₁ : Kernel} {current target next : TaskId} {i asked : Nat}

theorem Steady.noneDue (h : k.Steady) : k.view.NoneDue := by
  intro first hfirst
  rw [show k.view.waiting = [] from h.waiting] at hfirst
  cases hfirst

theorem Steady.running_ready (h : k.Steady)
    (hrunning : k.running = some current) :
    current ∈ k.readyIds :=
  h.sound.orderly.running_ready hrunning h.scheduled

theorem Steady.isRunnable (h : k.Steady) (hrunning : k.running = some current) :
    (k.task current).isRunnable = true :=
  (Task.isRunnable_iff _).mpr
    (Or.inr (h.sound.orderly.running_active hrunning h.scheduled))

theorem Steady.decides (h : k.Steady) (hrunning : k.running = some current) :
    ∃ k', k.schedule = .ok k' ∧ k.Decides current k' :=
  h.sound.linked.decides (h.sound.orderly.onTheMove (h.running_ready hrunning))
    h.started hrunning h.scheduled h.guarded

/-- The running task goes on. -/
theorem Steady.round_stay (h : k.Steady) (hrunning : k.running = some current)
    (hok : k.schedule = .ok k) : k.Round current 0 k := by
  have hover : k.switchOver.2 = k := by
    rw [switchOver, h.scheduled]
    rfl
  exact ⟨⟨k, hok, hover⟩, h, hrunning, rfl, fun _ => rfl, rfl⟩

/-- A runnable task takes over. -/
theorem Steady.round_switch (h : k.Steady) (hrunning : k.running = some current)
    (htarget : target ∈ k.readyIds) (hne : target ≠ current)
    (hok : k.schedule = .ok k₁) (hto : k.SwitchesTo current target k₁) :
    k.Round target 1 k₁.switchOver.2 := by
  have hperform : k.perform .tick = .ok (.nothing, k₁) := by
    rw [perform, tick, hok]
    rfl
  have hsound := (h.sound.performs hperform).2
  have hover : k₁.perform .switchOver = .ok (.flag k₁.switchOver.1,
        k₁.switchOver.2) := rfl
  have hsound' := (hsound.performs hover).2
  obtain ⟨saved, hshows⟩ := hsound.shows.switchOver
  have hdispatched := hto.view_eq
  rw [hdispatched] at hshows
  have hswitched :=
    View.switched_switchedFrom (k.view.dispatched current target) saved
  have hpending :=
    View.scheduled_switchedFrom (k.view.dispatched current target) saved
  have hlists := hswitched.lists
  have hurgency :=
    hswitched.urgency_eq.trans (View.linesUp_dispatched ..).urgency
  rw [← hshows.view_eq] at hswitched hpending hlists hurgency
  have hawake := h.sound.orderly.running_awake hrunning h.scheduled
  have hable := h.isRunnable hrunning
  refine ⟨⟨k₁, hok, rfl⟩, ⟨hsound', ?_, hpending, ?_, ?_⟩, ?_, ?_, ?_, ?_⟩
  · exact (congrArg View.phase hlists).trans h.started
  · refine (congrArg View.waiting hlists).trans ?_
    refine (View.waiting_dispatched_awake hawake hne).trans ?_
    rw [show k.view.waiting = [] from h.waiting]
    rfl
  · rw [hsound'.linked.guarded_iff]
    intro id hreg
    rw [hswitched.guarded]
    have hstacks := View.sameStacks_dispatched k.view current target
    refine hstacks.guarded rfl (h.sound.linked.guarded_iff.mp h.guarded) id ?_
    rwa [hlists] at hreg
  · rcases hswitched.place with ⟨-, hsame⟩ | ⟨-, hrunning', -⟩
    · rw [hpending] at hsame
      cases hsame
    · exact hrunning'
  · refine (congrArg View.ready hlists).trans ?_
    refine (View.ready_dispatched htarget hne).trans ?_
    exact if_pos hable
  · exact fun id => congrFun hurgency id
  · exact congrArg (fun view => view.platform.requests) hlists

/-- The peer that is chosen takes over, as nobody is more urgent. -/
theorem Steady.round_peer (h : k.Steady) (hrunning : k.running = some current)
    (hnext : next ∈ k.peers)
    (hforemost : Foremost k.task (k.rotation current) next) :
    ∃ k', k.Round next 1 k' := by
  obtain ⟨k₁, hok, hdecides⟩ := h.decides hrunning
  have hle := (mem_peers.mp hnext).2 current (h.running_ready hrunning)
  have hto := hdecides.yields h.noneDue next hforemost (Or.inr hle)
  obtain ⟨hready, hne⟩ := (hdecides.scans.mem_iff next).mp hforemost.mem
  exact ⟨_, h.round_switch hrunning hready hne hok hto⟩

/-- A task that is more urgent than all others goes on. -/
theorem Steady.round_alone (h : k.Steady) (hrunning : k.running = some current)
    (hless : ∀ id ∈ k.rotation current,
      (k.task id).priority < (k.task current).priority) :
    k.Round current 0 k := by
  obtain ⟨k₁, hok, hdecides⟩ := h.decides hrunning
  have hstays : k₁ = k := by
    by_cases halone : k.rotation current = []
    · exact hdecides.alone h.noneDue halone
    · obtain ⟨best, hbest⟩ := hdecides.scans.foremost halone
      exact hdecides.stays h.noneDue best hbest (h.isRunnable hrunning)
        (hless best hbest.mem)
  rw [hstays] at hok
  exact h.round_stay hrunning hok

/-- After one of the peers comes the next one, and after the last one the
first. -/
theorem Steady.round_turn (h : k.Steady) (hrunning : k.running = some current)
    (hi : k.peers[i]? = some current) :
    ∃ next k', k.peers[(i + 1) % k.peers.length]? = some next ∧
      k.Round next (if 1 < k.peers.length then 1 else 0) k' := by
  obtain ⟨rest, hids, hrest⟩ := h.sound.peers_append
  obtain ⟨front, back, hpeers, hfront⟩ := exists_append_of_getElem? hi
  obtain ⟨k₁, -, hdecides⟩ := h.decides hrunning
  have hnodup : k.readyIds.Nodup := h.sound.orderly.queued.ready_nodup
  have hcurrent : current ∈ k.peers := List.mem_of_getElem? hi
  have hnot : current ∉ front := by
    rw [hids, hpeers, List.append_assoc, List.cons_append, List.nodup_middle,
      List.nodup_cons] at hnodup
    exact fun hmem => hnodup.1 (List.mem_append_left _ hmem)
  have hrotation : k.rotation current = (back ++ rest) ++ front := by
    apply rotation_of_append _ hnot
    rw [hids, hpeers, List.append_assoc, List.cons_append]
  cases back with
  | cons next back =>
      -- somebody stands behind the running task
      have hnext : next ∈ k.peers := by simp [hpeers]
      have hfirst : k.rotation current = [] ++ next ::
          (back ++ rest ++ front) := hrotation
      have hforemost := hdecides.scans.foremost_of_peer hnext hfirst
        fun id hid => absurd hid List.not_mem_nil
      obtain ⟨k', hround⟩ := h.round_peer hrunning hnext hforemost
      have hlength : k.peers.length = i + (back.length + 2) := by
        simp [hpeers, hfront]
      refine ⟨next, k', ?_, ?_⟩
      · rw [Nat.mod_eq_of_lt (by omega), hpeers, ← hfront]
        simp
      · rw [if_pos (by omega)]
        exact hround
  | nil =>
      have hlength : k.peers.length = i + 1 := by simp [hpeers, hfront]
      cases front with
      | nil =>
          -- nobody else is as urgent
          have hzero : i = 0 := hfront.symm
          subst hzero
          refine ⟨current, k, by simpa [hlength] using hi, ?_⟩
          rw [if_neg (by omega)]
          apply h.round_alone hrunning
          intro id hid
          rw [hrotation] at hid
          exact hrest id (by simpa using hid) current hcurrent
      | cons first front =>
          -- the running task is the last of several
          have hnext : first ∈ k.peers := by simp [hpeers]
          have hforemost := hdecides.scans.foremost_of_peer hnext hrotation
            fun id hid => hrest id hid first hnext
          obtain ⟨k', hround⟩ := h.round_peer hrunning hnext hforemost
          rw [List.length_cons] at hfront
          refine ⟨first, k', ?_, ?_⟩
          · rw [hlength, Nat.mod_self, hpeers]
            simp
          · rw [if_pos (by omega)]
            exact hround

/-- A task that is less urgent than others gives way to the first of the
peers. -/
theorem Steady.round_join (h : k.Steady) (hrunning : k.running = some current)
    (hnot : current ∉ k.peers) :
    ∃ first k', k.peers.head? = some first ∧ k.Round first 1 k' := by
  obtain ⟨rest, hids, hrest⟩ := h.sound.peers_append
  obtain ⟨k₁, -, hdecides⟩ := h.decides hrunning
  have hcurrent : current ∈ rest := by
    have hready := h.running_ready hrunning
    rw [hids] at hready
    exact (List.mem_append.mp hready).resolve_left hnot
  obtain ⟨front, back, rfl, hfront⟩ := List.eq_append_cons_of_mem hcurrent
  have hrotation : k.rotation current = back ++ (k.peers ++ front) := by
    apply rotation_of_append
    · rw [hids, List.append_assoc]
    · exact fun hmem => (List.mem_append.mp hmem).elim hnot hfront
  cases hpeers : k.peers with
  | nil =>
      obtain ⟨first, others, hfirst⟩ :=
        List.exists_cons_of_ne_nil
          (List.ne_nil_of_mem (h.running_ready hrunning))
      have hmem := h.sound.mem_peers_of_first hfirst
      rw [hpeers] at hmem
      cases hmem
  | cons first others =>
      have hnext : first ∈ k.peers := by simp [hpeers]
      rw [hpeers] at hrotation
      have hforemost := hdecides.scans.foremost_of_peer hnext hrotation
        fun id hid => hrest id (by simp [hid]) first hnext
      obtain ⟨k', hround⟩ := h.round_peer hrunning hnext hforemost
      exact ⟨first, k', rfl, hround⟩

end Round

/-! ### Many rounds -/

section Rounds

variable {k k' k'' : Kernel} {current next : TaskId} {i n asked : Nat}

/-- A round makes nobody more or less urgent. -/
theorem Round.peers_eq (h : k.Round next asked k') : k'.peers = k.peers := by
  simp only [peers, h.ready_eq, h.priority_eq]

/-- One round is followed by the others. -/
theorem Round.performAll (h : k.Round next asked k') {answers : List Answer}
    (hrest : k'.performAll (rounds n) = .ok (answers, k'')) :
    ∃ answers, k.performAll (rounds (n + 1)) = .ok (answers, k'') := by
  obtain ⟨k₁, hok, rfl⟩ := h.calls
  refine ⟨.nothing :: .flag k₁.switchOver.1 :: answers, ?_⟩
  simp only [rounds, Kernel.performAll, perform, tick, hok, bind, Except.bind,
    pure, Except.pure, Functor.map, Except.map, hrest]

/-- Round by round the processor goes around among the peers. -/
theorem Steady.performAll_rounds (h : k.Steady)
    (hrunning : k.running = some current) (hi : k.peers[i]? = some current)
    (n : Nat) :
    ∃ answers k', k.performAll (rounds n) = .ok (answers, k') ∧
      k'.running = k.peers[(i + n) % k.peers.length]? ∧
      k'.readyIds = k.readyIds ∧
      k'.platform.requests =
        k.platform.requests + (if 1 < k.peers.length then n else 0) := by
  induction n generalizing k current i with
  | zero =>
      obtain ⟨hlt, -⟩ := List.getElem?_eq_some_iff.mp hi
      refine ⟨[], k, rfl, ?_, rfl, by simp⟩
      rw [Nat.add_zero, Nat.mod_eq_of_lt hlt, hi, hrunning]
  | succ n ih =>
      obtain ⟨next, k₁, hnext, hround⟩ := h.round_turn hrunning hi
      rw [← hround.peers_eq] at hnext
      obtain ⟨answers, k', hrest, hrunning', hready, hrequests⟩ :=
        ih hround.steady hround.running hnext
      obtain ⟨answers, hall⟩ := hround.performAll hrest
      rw [hround.peers_eq] at hrunning' hrequests
      refine ⟨answers, k', hall, ?_, hready.trans hround.ready_eq, ?_⟩
      · rw [hrunning', Nat.mod_add_mod, Nat.add_assoc, Nat.add_comm 1 n]
      · rw [hrequests, hround.requests]
        split <;> omega

end Rounds

end Kernel

/-- How the most urgent tasks take turns while `current` is on the processor. -/
structure Kernel.Cycles (k : Kernel) (current : TaskId) : Prop where
  running : k.running = some current
  /-- The most urgent tasks stand in front. -/
  front : k.peers <+: k.readyIds
  /-- One of them after the other gets the processor, and after the last one the
  first. -/
  turns : ∀ i, k.peers[i]? = some current → ∀ n,
    ∃ answers k', k.performAll (rounds n) = .ok (answers, k') ∧
      k'.running = k.peers[(i + n) % k.peers.length]? ∧
      k'.readyIds = k.readyIds ∧ k'.platform.requests =
        k.platform.requests + (if 1 < k.peers.length then n else 0)
  /-- A less urgent task gives way to the first of them. -/
  joins : current ∉ k.peers → ∃ first answers k', k.peers.head? = some first ∧
    k.performAll (rounds 1) = .ok (answers, k') ∧ k'.running = some first

/-- While nobody waits the most urgent tasks take turns, each as often as any
other. -/
theorem Run.cycles {steps : List Step} {k : Kernel} (hrun : Run steps k)
    (hstarted : k.phase = .started) (hscheduled : k.scheduled = none)
    (hwaiting : k.waitingIds = []) (hguarded : k.Guarded) :
    ∃ current, k.Cycles current := by
  have hsteady : k.Steady :=
    ⟨hrun.sound, hstarted, hscheduled, hwaiting, hguarded⟩
  obtain ⟨current, hrunning⟩ :=
    Option.ne_none_iff_exists'.mp
      (hrun.sound.orderly.staffed.started_iff.mp hstarted)
  obtain ⟨rest, hids, -⟩ := hrun.sound.peers_append
  refine ⟨current, hrunning, ⟨rest, hids.symm⟩, fun i hi =>
    hsteady.performAll_rounds hrunning hi, fun hnot => ?_⟩
  obtain ⟨first, k', hfirst, hround⟩ := hsteady.round_join hrunning hnot
  obtain ⟨answers, hall⟩ := hround.performAll (n := 0) rfl
  exact ⟨first, answers, k', hfirst, hall, hround.running⟩

namespace Witness

theorem cycles_trio :
    Run (history trio).1 (history trio).2 ∧ (history trio).2.phase = .started ∧
      (history trio).2.scheduled = none ∧ (history trio).2.waitingIds = [] ∧
      (history trio).2.Guarded ∧ (history trio).2.peers =
        [taskA, taskB, taskC] ∧
      ∃ current, (history trio).2.Cycles current :=
  ⟨run_history _, by decide +kernel, by decide +kernel, by decide +kernel,
    by decide +kernel, by decide +kernel,
    (run_history _).cycles (by decide +kernel) (by decide +kernel)
      (by decide +kernel) (by decide +kernel)⟩

end Witness

end TickKernel
