/-
The books of a queue.  A ledger is made from a history alone: which sends were
not refused, which receives had to wait, how their waits ended, and which
messages were handed out.  A line of sends or receives stands well when the
entries that count are those already served, followed by those that still wait.
-/
import TickKernel.Proofs.History

namespace TickKernel

/-! ### Lines -/

/-- How a call that joined a line fared. -/
inductive Fate where
  | waiting
  | served
  /-- Its wait ended in vain. -/
  | withdrawn
deriving DecidableEq, Repr

/-- A send with its message, or a receive. -/
structure Entry where
  task : TaskId
  message : Message
  fate : Fate
deriving DecidableEq, Repr

namespace Entry

/-- Entries count unless they were withdrawn. -/
def counts (entry : Entry) : Bool :=
  entry.fate != .withdrawn

def isWaiting (entry : Entry) : Bool :=
  entry.fate == .waiting

/-- The entry still waits, and its task leaves. -/
def isLeaving (entry : Entry) (leaves : TaskId → Bool) : Bool :=
  entry.isWaiting && leaves entry.task

/-- Let the wait of the entry end with the given fate if its task leaves. -/
def close (fate : Fate) (leaves : TaskId → Bool) (entry : Entry) : Entry :=
  if entry.isLeaving leaves then { entry with fate } else entry

end Entry

/-- Let the waits of all tasks that leave end with the given fate. -/
def closeLine (fate : Fate) (leaves : TaskId → Bool) (line : List Entry) :
    List Entry :=
  line.map (Entry.close fate leaves)

/-- The entries of the line that count are those served, then those that
wait. -/
structure Stands (line served waits : List Entry) : Prop where
  counts_eq : line.filter Entry.counts = served ++ waits
  fate_served : ∀ entry ∈ served, entry.fate = .served
  fate_waiting : ∀ entry ∈ waits, entry.fate = .waiting

section Lines

variable {line served waits rest : List Entry} {entry : Entry}
  {leaves : TaskId → Bool} {fate : Fate}

theorem Entry.isLeaving_of_served (h : entry.fate = .served) :
    entry.isLeaving leaves = false := by
  simp [Entry.isLeaving, Entry.isWaiting, h]

theorem Entry.isLeaving_of_waiting (h : entry.fate = .waiting) :
    entry.isLeaving leaves = leaves entry.task := by
  simp [Entry.isLeaving, Entry.isWaiting, h]

theorem Entry.close_of_not_leaving (h : entry.isLeaving leaves = false) :
    entry.close fate leaves = entry :=
  if_neg (by rw [h]; exact Bool.false_ne_true)

theorem closeLine_eq_self (h : ∀ entry ∈ line, entry.isLeaving leaves = false) :
    closeLine fate leaves line = line := by
  rw [closeLine, List.map_congr_left fun entry hentry =>
    Entry.close_of_not_leaving (h entry hentry)]
  exact List.map_id' line

theorem closeLine_append (line others : List Entry) :
    closeLine fate leaves (line ++ others) =
      closeLine fate leaves line ++ closeLine fate leaves others :=
  List.map_append

theorem counts_closeLine_withdrawn (leaves : TaskId → Bool)
    (line : List Entry) :
    (closeLine .withdrawn leaves line).filter Entry.counts =
      (line.filter Entry.counts).filter fun entry =>
      !entry.isLeaving leaves := by
  have hcounts : ∀ entry : Entry, (entry.close .withdrawn leaves).counts =
      (!entry.isLeaving leaves && entry.counts) := by
    intro entry
    cases hleaving : entry.isLeaving leaves <;>
      simp [Entry.close, hleaving, Entry.counts]
  have hfilter : Entry.counts ∘ Entry.close .withdrawn leaves =
      fun entry => !entry.isLeaving leaves && entry.counts := funext hcounts
  rw [closeLine, List.filter_map, List.filter_filter, hfilter]
  refine closeLine_eq_self fun entry hentry => ?_
  have hstays := (List.mem_filter.mp hentry).2
  rw [Bool.and_eq_true, Bool.not_eq_true'] at hstays
  exact hstays.1

theorem counts_closeLine_served (leaves : TaskId → Bool) (line : List Entry) :
    (closeLine .served leaves line).filter Entry.counts =
      closeLine .served leaves (line.filter Entry.counts) := by
  rw [closeLine, closeLine, List.filter_map]
  congr 1
  refine List.filter_congr fun entry _ => ?_
  rw [Function.comp_apply]
  cases hleaving : entry.isLeaving leaves with
  | false => rw [Entry.close_of_not_leaving hleaving]
  | true =>
      have hwaiting := hleaving
      rw [Entry.isLeaving, Bool.and_eq_true, Entry.isWaiting, beq_iff_eq]
        at hwaiting
      rw [Entry.close, if_pos hleaving, Entry.counts, Entry.counts, hwaiting.1]
      rfl

namespace Stands

theorem nil : Stands [] [] [] :=
  ⟨rfl, fun _ h => absurd h List.not_mem_nil,
    fun _ h => absurd h List.not_mem_nil⟩

theorem waiting_eq (h : Stands line served waits) :
    line.filter Entry.isWaiting = waits := by
  have hwaiting : ∀ entry : Entry, entry.isWaiting =
      (entry.isWaiting && entry.counts) := by
    intro entry
    cases hfate : entry.fate <;> simp [Entry.isWaiting, Entry.counts, hfate]
  rw [List.filter_congr fun entry _ => hwaiting entry, ← List.filter_filter,
    h.counts_eq, List.filter_append]
  have hnone : served.filter Entry.isWaiting = [] := by
    rw [List.filter_eq_nil_iff]
    intro entry hentry
    simp [Entry.isWaiting, h.fate_served entry hentry]
  have hall : waits.filter Entry.isWaiting = waits := by
    rw [List.filter_eq_self]
    intro entry hentry
    simp [Entry.isWaiting, h.fate_waiting entry hentry]
  rw [hnone, hall, List.nil_append]

/-- Who leaves is one of those who wait. -/
theorem leaving_eq (h : Stands line served waits) (leaves : TaskId → Bool) :
    line.filter (fun entry => entry.isLeaving leaves) =
      waits.filter fun entry => leaves entry.task := by
  rw [← h.waiting_eq, List.filter_filter]
  refine List.filter_congr fun entry _ => ?_
  rw [Entry.isLeaving, Bool.and_comm]

/-- Nobody waits, and one more is served. -/
theorem pushServed (h : Stands line served []) (hfate : entry.fate = .served) :
    Stands (line ++ [entry]) (served ++ [entry]) [] := by
  refine ⟨?_, ?_, h.fate_waiting⟩
  · have hcounts : [entry].filter Entry.counts = [entry] := by
      simp [Entry.counts, hfate]
    rw [List.filter_append, h.counts_eq, hcounts, List.append_nil,
      List.append_nil]
  · intro other hother
    rcases List.mem_append.mp hother with hother | hother
    · exact h.fate_served other hother
    · rw [List.mem_singleton.mp hother, hfate]

theorem pushWaiting (h : Stands line served waits)
    (hfate : entry.fate = .waiting) :
    Stands (line ++ [entry]) served (waits ++ [entry]) := by
  refine ⟨?_, h.fate_served, ?_⟩
  · have hcounts : [entry].filter Entry.counts = [entry] := by
      simp [Entry.counts, hfate]
    rw [List.filter_append, h.counts_eq, hcounts, List.append_assoc]
  · intro other hother
    rcases List.mem_append.mp hother with hother | hother
    · exact h.fate_waiting other hother
    · rw [List.mem_singleton.mp hother, hfate]

/-- Those who leave in vain are left out of those who wait. -/
theorem withdraw (h : Stands line served waits) (leaves : TaskId → Bool) :
    Stands (closeLine .withdrawn leaves line) served
      (waits.filter fun entry => !leaves entry.task) := by
  refine ⟨?_, h.fate_served, fun entry hentry =>
    h.fate_waiting entry (List.mem_of_mem_filter hentry)⟩
  rw [counts_closeLine_withdrawn, h.counts_eq, List.filter_append]
  congr 1
  · rw [List.filter_eq_self]
    intro entry hentry
    rw [Entry.isLeaving_of_served (h.fate_served entry hentry)]
    rfl
  · refine List.filter_congr fun entry hentry => ?_
    rw [Entry.isLeaving_of_waiting (h.fate_waiting entry hentry)]

theorem serveNone (h : Stands line served waits)
    (hnone : ∀ entry ∈ waits, leaves entry.task = false) :
    Stands (closeLine .served leaves line) served waits := by
  refine ⟨?_, h.fate_served, h.fate_waiting⟩
  rw [counts_closeLine_served, h.counts_eq]
  refine closeLine_eq_self fun entry hentry => ?_
  rcases List.mem_append.mp hentry with hentry | hentry
  · exact Entry.isLeaving_of_served (h.fate_served entry hentry)
  · rw [Entry.isLeaving_of_waiting (h.fate_waiting entry hentry),
      hnone entry hentry]

theorem serve (h : Stands line served (entry :: rest))
    (hentry : leaves entry.task = true)
    (hrest : ∀ other ∈ rest, leaves other.task = false) :
    Stands (closeLine .served leaves line)
      (served ++ [{ entry with fate := .served }]) rest := by
  have hwaiting : ∀ other ∈ rest, other.fate = .waiting := fun other hother =>
    h.fate_waiting other (List.mem_cons_of_mem entry hother)
  refine ⟨?_, ?_, hwaiting⟩
  · rw [counts_closeLine_served, h.counts_eq, closeLine_append]
    have hserved : closeLine .served leaves served = served :=
      closeLine_eq_self fun other hother =>
        Entry.isLeaving_of_served (h.fate_served other hother)
    have hstay : closeLine .served leaves rest = rest :=
      closeLine_eq_self fun other hother => by
        rw [Entry.isLeaving_of_waiting (hwaiting other hother),
          hrest other hother]
    have hfirst : entry.close .served leaves =
        { entry with fate := .served } := by
      refine if_pos ?_
      rw [Entry.isLeaving_of_waiting (h.fate_waiting entry List.mem_cons_self),
        hentry]
    rw [List.append_assoc, hserved]
    congr 1
    change entry.close .served leaves :: closeLine .served leaves rest = _
    rw [hfirst, hstay]
    rfl
  · intro other hother
    rcases List.mem_append.mp hother with hother | hother
    · exact h.fate_served other hother
    · rw [List.mem_singleton.mp hother]

end Stands

end Lines

/-! ### Ledgers -/

/-- What a call did on one queue. -/
inductive Deal where
  | nothing
  /-- A message was sent. -/
  | sent (sender : TaskId) (message : Message)
  /-- A sender has to wait for room. -/
  | senderWaits (sender : TaskId) (message : Message)
  /-- A message was received. -/
  | received (message : Message)
  /-- A receiver has to wait for a message. -/
  | receiverWaits (receiver : TaskId)

namespace Step

/-- What the step did on the queue, by the call and its reply alone.  A timeout
that is replied at once says that the caller waits. -/
def deal (step : Step) (queue : QueueId) : Deal :=
  match step.before.running, step.call.direct, step.answer.toReply with
  | some caller, .send other message _, ⟨.success, _⟩ =>
      if other = queue then .sent caller message else .nothing
  | some caller, .send other message _, ⟨.timeout, _⟩ =>
      if other = queue then .senderWaits caller message else .nothing
  | some _, .receive other _, ⟨.success, message⟩ =>
      if other = queue then .received message else .nothing
  | some caller, .receive other _, ⟨.timeout, _⟩ =>
      if other = queue then .receiverWaits caller else .nothing
  | _, _, _ => .nothing

/-- The task is not blocked on the queue after the step. -/
def leaves (step : Step) (queue : QueueId) (id : TaskId) : Bool :=
  !(step.after.blockedIds (.queue queue)).contains id

/-- The task is not blocked on the queue after the step because it was suspended
or because the time that it waited for is over. -/
def withdraws (step : Step) (queue : QueueId) (id : TaskId) : Bool :=
  step.leaves queue id && (decide (step.call.direct = .suspend id) ||
    Tick.reached step.after.platform.clock (step.before.task id).deadline)

/-- The value of the reply that the task was left with. -/
def leftWith (step : Step) (id : TaskId) : Message :=
  ((step.after.task id).pending.map Reply.value).getD 0

end Step

/-- The books of one queue. -/
structure Ledger where
  /-- The sends that were not refused, in the order of the calls. -/
  sends : List Entry
  /-- The receives that had to wait, in the order of the calls. -/
  receives : List Entry
  /-- The messages handed out so far. -/
  handed : List Message
  /-- The receivers among the tasks that waited, in the order in which messages
  were handed to them. -/
  recipients : List TaskId

namespace Ledger

def empty : Ledger :=
  ⟨[], [], [], []⟩

/-- Let the waits of the tasks that leave end in vain. -/
def withdraw (ledger : Ledger) (leaves : TaskId → Bool) : Ledger :=
  { ledger with
    sends := closeLine .withdrawn leaves ledger.sends
    receives := closeLine .withdrawn leaves ledger.receives }

def addSender (ledger : Ledger) (sender : TaskId) (message : Message) :
    Ledger :=
  { ledger with sends := ledger.sends ++ [⟨sender, message, .waiting⟩] }

def addReceiver (ledger : Ledger) (receiver : TaskId) : Ledger :=
  { ledger with receives := ledger.receives ++ [⟨receiver, 0, .waiting⟩] }

/-- A message was sent.  The waiting receivers that leave are handed the message
that they are left with. -/
def addSent (ledger : Ledger) (sender : TaskId) (message : Message)
    (leaves : TaskId → Bool) (leftWith : TaskId → Message) : Ledger :=
  let receivers :=
    (ledger.receives.filter fun entry => entry.isLeaving leaves).map Entry.task
  { sends := ledger.sends ++ [⟨sender, message, .served⟩]
    receives := closeLine .served leaves ledger.receives
    handed := ledger.handed ++ receivers.map leftWith
    recipients := ledger.recipients ++ receivers }

/-- A message was received.  The waiting senders that leave have sent theirs. -/
def addReceived (ledger : Ledger) (message : Message) (leaves : TaskId → Bool) :
    Ledger :=
  { ledger with
    sends := closeLine .served leaves ledger.sends
    handed := ledger.handed ++ [message] }

/-- Who joins now is not among those who leave. -/
theorem withdraw_addSender (ledger : Ledger) {leaves : TaskId → Bool}
    {sender : TaskId} (message : Message) (h : leaves sender = false) :
    (ledger.addSender sender message).withdraw leaves =
      (ledger.withdraw leaves).addSender sender message := by
  have hstays : closeLine .withdrawn leaves [⟨sender, message, .waiting⟩] =
      [⟨sender, message, .waiting⟩] :=
    closeLine_eq_self fun entry hentry => by
      rw [List.mem_singleton.mp hentry, Entry.isLeaving_of_waiting rfl, h]
  rw [withdraw, addSender, closeLine_append, hstays]
  rfl

theorem withdraw_addReceiver (ledger : Ledger) {leaves : TaskId → Bool}
    {receiver : TaskId} (h : leaves receiver = false) :
    (ledger.addReceiver receiver).withdraw leaves =
      (ledger.withdraw leaves).addReceiver receiver := by
  have hstays : closeLine .withdrawn leaves [⟨receiver, 0, .waiting⟩] =
      [⟨receiver, 0, .waiting⟩] :=
    closeLine_eq_self fun entry hentry => by
      rw [List.mem_singleton.mp hentry, Entry.isLeaving_of_waiting rfl, h]
  rw [withdraw, addReceiver, closeLine_append, hstays]
  rfl

def enter (ledger : Ledger) (queue : QueueId) (step : Step) : Ledger :=
  match step.deal queue with
  | .nothing => ledger.withdraw (step.withdraws queue)
  | .sent sender message =>
      ledger.addSent sender message (step.leaves queue) step.leftWith
  | .senderWaits sender message =>
      (ledger.withdraw (step.withdraws queue)).addSender sender message
  | .received message => ledger.addReceived message (step.leaves queue)
  | .receiverWaits receiver =>
      (ledger.withdraw (step.withdraws queue)).addReceiver receiver

end Ledger

namespace Ledger

/-- The tasks whose sends still wait, in the order of the calls. -/
def waitingSenders (ledger : Ledger) : List TaskId :=
  (ledger.sends.filter Entry.isWaiting).map Entry.task

def waitingReceivers (ledger : Ledger) : List TaskId :=
  (ledger.receives.filter Entry.isWaiting).map Entry.task

end Ledger

/-- The books of a queue since it was created. -/
def ledger (queue : QueueId) : List Step → Ledger
  | [] => .empty
  | step :: steps =>
      if step.before.hasQueue queue then (ledger queue steps).enter queue step
      else .empty

/-- The tasks that wait on one side of a queue, longest wait first. -/
def Kernel.blockedSide (k : Kernel) (queue : QueueId) (side : Waiters) :
    List TaskId :=
  if (k.queue queue).waiters = side then k.blockedIds (.queue queue) else []

end TickKernel
