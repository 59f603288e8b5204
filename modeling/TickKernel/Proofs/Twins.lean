/-
Two kernels that hold different messages.  `Kernel.Twins R` says that two
kernels are the same but for messages, and that messages at corresponding places
are related by `R`: those stored in the rings, kept by senders that wait, on
their way to a task and delivered to it.  Where no message is kept both hold
null, and words on stacks differ at most in the saved register that carries a
received message.

Null is a message like any other, so a place that is empty cannot be told from
one that holds it by looking; whether there is a message follows from what is
the same in both.
-/
import TickKernel.Proofs.Frames

namespace TickKernel

universe u

/-! ### Messages and words -/

/-- Two related messages, or no message in either place. -/
def Carried (R : Message → Message → Prop) (message message' : Message) :
    Prop :=
  R message message' ∨ message = 0 ∧ message' = 0

/-- Replies that tell the same, but for the message they bring. -/
inductive Reply.Twins (R : Message → Message → Prop) : Reply → Reply → Prop
  | done : Reply.Twins R Reply.done Reply.done
  | message {message message' : Message} (h : R message message') :
      Reply.Twins R (Reply.ok message) (Reply.ok message')

/-- The same word, unless it `carries` a message: then the low halves of two
related ones. -/
def Word.Twins (R : Message → Message → Prop) (carries : Prop)
    (word word' : Word) : Prop :=
  word' = word ∨ carries ∧ ∃ message message', R message message' ∧
    word = message.toUInt32 ∧ word' = message'.toUInt32

/-- Where a basic frame keeps its saved r1. -/
def Frame.valueOffset : Nat :=
  Frame.returnCodeOffset + 2

/-! ### Rings and queues -/

/-- Rings that store related messages, and null in all other slots. -/
structure Ring.Twins (R : Message → Message → Prop) (ring ring' : Ring) :
    Prop where
  rest : ring' = { ring with slots := ring'.slots }
  slot : ∀ index, Carried R (ring.slot index) (ring'.slot index)
  stored : List.Forall₂ R ring.toList ring'.toList

/-- Queues with such rings. -/
structure Queue.Twins (R : Message → Message → Prop) (queue queue' : Queue) :
    Prop where
  rest : queue' = { queue with ring := queue'.ring }
  ring : queue.ring.Twins R queue'.ring

section Rings

variable {R : Message → Message → Prop} {ring ring' : Ring}
  {message message' : Message}

namespace Ring

theorem twins_ofCapacity (capacity : Nat) :
    (ofCapacity capacity).Twins R (ofCapacity capacity) := by
  refine ⟨rfl, fun index => Or.inr ?_, ?_⟩
  · exact ⟨slot_ofCapacity capacity index, slot_ofCapacity capacity index⟩
  · rw [toList_ofCapacity]
    exact .nil

namespace Twins

theorem capacity_eq (h : ring.Twins R ring') :
    ring'.capacity = ring.capacity := by
  rw [h.rest]

theorem count_eq (h : ring.Twins R ring') : ring'.count = ring.count := by
  rw [h.rest]

theorem write_eq (h : ring.Twins R ring') : ring'.write = ring.write := by
  rw [h.rest]

theorem read_eq (h : ring.Twins R ring') : ring'.read = ring.read := by
  rw [h.rest]

theorem isFull_eq (h : ring.Twins R ring') : ring'.isFull = ring.isFull := by
  rw [isFull, isFull, h.count_eq, h.capacity_eq]

theorem valid (h : ring.Twins R ring') (hvalid : ring.Valid) : ring'.Valid := by
  obtain ⟨hpos, hle, hcount, hread, hwrite⟩ := hvalid
  constructor
  · rwa [h.capacity_eq]
  · rwa [h.capacity_eq]
  · rwa [h.capacity_eq, h.count_eq]
  · rwa [h.capacity_eq, h.read_eq]
  · rwa [h.capacity_eq, h.count_eq, h.read_eq, h.write_eq]

theorem push (h : ring.Twins R ring') (hvalid : ring.Valid)
    (hroom : ring.count < ring.capacity) (hmessage : R message message') :
    (ring.push message).Twins R (ring'.push message') := by
  have hroom' : ring'.count < ring'.capacity := by
    rwa [h.count_eq, h.capacity_eq]
  refine ⟨?_, fun index => ?_, ?_⟩
  · simp only [Ring.push, h.capacity_eq, h.count_eq, h.write_eq, h.read_eq]
  · rw [slot_push hvalid.write_lt, slot_push (h.valid hvalid).write_lt,
      h.write_eq]
    split
    · exact Or.inl hmessage
    · exact h.slot index
  · rw [toList_push hvalid hroom, toList_push (h.valid hvalid) hroom']
    exact List.rel_append h.stored (.cons hmessage .nil)

/-- Either ring has a message or neither does. -/
theorem pop (h : ring.Twins R ring') (hvalid : ring.Valid) :
    Option.Rel (fun popped popped' => R popped.1 popped'.1 ∧
      popped.2.Twins R popped'.2)
      ring.pop? ring'.pop? := by
  by_cases hcount : ring.count = 0
  · have hempty : ring.pop? = none := if_pos hcount
    have hempty' : ring'.pop? = none := if_pos (h.count_eq.trans hcount)
    rw [hempty, hempty']
    exact .none
  · have hpop : ring.pop? = some (ring.slot ring.read, ring.dropped) :=
      if_neg hcount
    have hpop' : ring'.pop? = some (ring'.slot ring'.read, ring'.dropped) :=
      if_neg fun hcount' => hcount (h.count_eq.symm.trans hcount')
    have hstored := h.stored
    rw [toList_pop hvalid hpop, toList_pop (h.valid hvalid) hpop'] at hstored
    obtain ⟨hmessage, hrest⟩ := List.forall₂_cons.mp hstored
    rw [hpop, hpop']
    refine .some ⟨hmessage, ?_, fun index => ?_, hrest⟩
    · simp only [dropped, h.capacity_eq, h.count_eq, h.write_eq, h.read_eq]
    · rw [slot_dropped hvalid.read_lt_maxCapacity,
        slot_dropped (h.valid hvalid).read_lt_maxCapacity, h.read_eq]
      split
      · exact Or.inr ⟨rfl, rfl⟩
      · exact h.slot index

end Twins

end Ring

namespace Queue.Twins

variable {queue queue' : Queue}

theorem waiters_eq (h : queue.Twins R queue') :
    queue'.waiters = queue.waiters := by
  rw [h.rest]

theorem blocked_eq (h : queue.Twins R queue') :
    queue'.blocked = queue.blocked := by
  rw [h.rest]

/-- What is done to the two without looking at the ring. -/
theorem update (h : queue.Twins R queue') (f : Queue → Queue)
    (hf : ∀ queue ring, f { queue with ring } = { f queue with ring }) :
    (f queue).Twins R (f queue') := by
  have hring : ∀ queue, (f queue).ring = queue.ring := fun queue => by
    have hsame := congrArg Queue.ring (hf queue queue.ring)
    exact hsame
  constructor
  · rw [hring, ← hf, ← h.rest]
  · rw [hring, hring]
    exact h.ring

theorem putRing (h : queue.Twins R queue') (hring : ring.Twins R ring') :
    { queue with ring }.Twins R { queue' with ring := ring' } := by
  refine ⟨?_, hring⟩
  rw [h.rest]

theorem settle (h : queue.Twins R queue') :
    queue.settle.Twins R queue'.settle := by
  refine h.update Queue.settle fun queue ring => ?_
  unfold Queue.settle
  split <;> rfl

end Queue.Twins

theorem Queue.twins_ofCapacity (capacity : Nat) :
    (Queue.ofCapacity capacity).Twins R (Queue.ofCapacity capacity) :=
  ⟨rfl, Ring.twins_ofCapacity capacity⟩

end Rings

/-! ### Tasks -/

/-- Stacks that differ at most in the saved register of the frame at
`savedAt`. -/
structure Stack.Twins (R : Message → Message → Prop)
    (savedAt : Option StackPointer) (stack stack' : Stack) : Prop where
  skewed : stack'.skewed = stack.skewed
  size : stack'.words.size = stack.words.size
  word : ∀ index, Word.Twins R
    (∃ pointer, savedAt = some pointer ∧
      index = pointer.offset + Frame.valueOffset)
    (stack.words.getD index 0) (stack'.words.getD index 0)

/-- Tasks that are the same but for the messages they keep.  The frame of a task
lies at the end of its own stack, where no larger one has room. -/
structure Task.Twins (R : Message → Message → Prop) (id : TaskId)
    (task task' : Task) :
    Prop where
  rest : task' = { task with
    message := task'.message
    pending := task'.pending
    delivered := task'.delivered
    stack := task'.stack }
  message : Carried R task.message task'.message
  pending : Option.Rel (Reply.Twins R) task.pending task'.pending
  delivered : Option.Rel (Reply.Twins R) task.delivered task'.delivered
  stack : task.stack.Twins R task.savedAt task'.stack
  place : ∀ pointer, task.savedAt = some pointer →
    pointer.owner = id ∧ task.stack.words.size ≤ pointer.offset + Frame.size + 1

section Tasks

variable {R : Message → Message → Prop} {task task' : Task} {id : TaskId}

namespace Stack

variable {stack stack' : Stack} {savedAt : Option StackPointer}
  {pointer : StackPointer}

theorem Twins.refl (stack : Stack) : stack.Twins R savedAt stack :=
  ⟨rfl, rfl, fun _ => Or.inl rfl⟩

theorem Twins.poke (h : stack.Twins R savedAt stack') (index : Nat)
    (word : Word) :
    { stack with words := stack.words.setIfInBounds index word }.Twins R savedAt
      { stack' with words := stack'.words.setIfInBounds index word } := by
  refine ⟨h.skewed, ?_, fun other => ?_⟩
  · rw [Array.size_setIfInBounds, Array.size_setIfInBounds, h.size]
  · rw [getD_setIfInBounds, getD_setIfInBounds, h.size]
    split
    · exact Or.inl rfl
    · exact h.word other

/-- No message is carried where a frame keeps its return code. -/
theorem Twins.replyOffset_eq (h : stack.Twins R (some pointer) stack') :
    Frame.replyOffset stack'.words pointer.offset =
      Frame.replyOffset stack.words pointer.offset := by
  have hcode : stack'.words.getD (pointer.offset + Frame.returnCodeOffset) 0 =
      stack.words.getD (pointer.offset + Frame.returnCodeOffset) 0 := by
    rcases h.word (pointer.offset + Frame.returnCodeOffset) with
      hsame | ⟨⟨other, hother, hindex⟩, -⟩
    · exact hsame
    · obtain rfl := Option.some.inj hother
      simp only [Frame.valueOffset] at hindex
      omega
  rw [Frame.replyOffset, hcode, Frame.replyOffset]

/-- Where no larger frame has room, the value of a reply goes into a basic
one. -/
theorem valueOffset_of_lt {memory : Array Word} {start index : Nat}
    (hplace : memory.size ≤ start + Frame.size + 1)
    (hindex : index = Frame.replyOffset memory start + 1)
    (hroom : Frame.replyOffset memory start + 1 < memory.size) :
    index = start + Frame.valueOffset := by
  rw [hindex]
  unfold Frame.replyOffset at hroom ⊢
  split at hroom
  · simp only [Frame.returnCodeOffset, Frame.extension, Frame.size]
      at hroom hplace
    omega
  · rename_i hbasic
    rw [if_neg hbasic]
    rfl

theorem Twins.writeReply (h : stack.Twins R (some pointer) stack')
    (hplace : stack.words.size ≤ pointer.offset + Frame.size + 1)
    {reply reply' : Reply} (hreply : reply.Twins R reply') :
    { stack with
      words := Frame.writeReply stack.words pointer.offset reply }.Twins R
      (some pointer)
      { stack' with
        words := Frame.writeReply stack'.words pointer.offset reply' } := by
  have hstatus : reply'.status = reply.status := by
    cases hreply <;> rfl
  refine ⟨h.skewed, ?_, fun index => ?_⟩
  · rw [Frame.size_writeReply, Frame.size_writeReply, h.size]
  · simp only [Frame.writeReply, getD_setIfInBounds, Array.size_setIfInBounds,
      h.replyOffset_eq, h.size, hstatus]
    split
    · rename_i hvalue
      cases hreply with
      | done => exact Or.inl rfl
      | message hmessage =>
          exact Or.inr ⟨⟨pointer, rfl,
            valueOffset_of_lt hplace hvalue.1.symm hvalue.2⟩,
            _, _, hmessage, rfl, rfl⟩
    split
    · exact Or.inl rfl
    · exact h.word index

end Stack

namespace Task

/-- A change of tasks that has nothing to do with what messages they keep. -/
def Neutral (f : Task → Task) : Prop :=
  ∀ task message pending delivered stack,
    f { task with message, pending, delivered, stack } =
      { f task with message, pending, delivered, stack }

theorem Neutral.kept {f : Task → Task} (hf : Neutral f) (task : Task) :
    f task = { f task with
      message := task.message
      pending := task.pending
      delivered := task.delivered
      stack := task.stack } :=
  hf task task.message task.pending task.delivered task.stack

theorem Neutral.message_eq {f : Task → Task} (hf : Neutral f) (task : Task) :
    (f task).message = task.message := by
  rw [hf.kept]

theorem Neutral.pending_eq {f : Task → Task} (hf : Neutral f) (task : Task) :
    (f task).pending = task.pending := by
  rw [hf.kept]

theorem Neutral.delivered_eq {f : Task → Task} (hf : Neutral f) (task : Task) :
    (f task).delivered = task.delivered := by
  rw [hf.kept]

theorem Neutral.stack_eq {f : Task → Task} (hf : Neutral f) (task : Task) :
    (f task).stack = task.stack := by
  rw [hf.kept]

theorem Twins.update (h : task.Twins R id task') {f : Task → Task}
    (hf : Neutral f) (hsaved : (f task).savedAt = task.savedAt) :
    (f task).Twins R id (f task') := by
  constructor
  · rw [hf.message_eq, hf.pending_eq, hf.delivered_eq, hf.stack_eq, ← hf,
      ← h.rest]
  · rw [hf.message_eq, hf.message_eq]
    exact h.message
  · rw [hf.pending_eq, hf.pending_eq]
    exact h.pending
  · rw [hf.delivered_eq, hf.delivered_eq]
    exact h.delivered
  · rw [hf.stack_eq, hf.stack_eq, hsaved]
    exact h.stack
  · rw [hf.stack_eq, hsaved]
    exact h.place

namespace Twins

theorem status_eq (h : task.Twins R id task') : task'.status = task.status := by
  rw [h.rest]

theorem waitsFor_eq (h : task.Twins R id task') :
    task'.waitsFor = task.waitsFor := by
  rw [h.rest]

theorem isBlocked_eq (h : task.Twins R id task') :
    task'.isBlocked = task.isBlocked := by
  rw [isBlocked, h.waitsFor_eq, isBlocked]

theorem savedAt_eq (h : task.Twins R id task') :
    task'.savedAt = task.savedAt := by
  rw [h.rest]

theorem deadline_eq (h : task.Twins R id task') :
    task'.deadline = task.deadline := by
  rw [h.rest]

theorem priority_eq (h : task.Twins R id task') :
    task'.priority = task.priority := by
  rw [h.rest]

/-- The guard of a stack lies below every saved register. -/
theorem isGuarded_eq (h : task.Twins R id task') :
    task'.isGuarded = task.isGuarded := by
  have hword : task'.lowestWord = task.lowestWord := by
    rcases h.stack.word 0 with hsame | ⟨⟨pointer, -, hzero⟩, -⟩
    · exact hsame
    · simp only [Frame.valueOffset, Frame.returnCodeOffset] at hzero
      omega
  rw [isGuarded, hword, isGuarded]

theorem withoutWait (h : task.Twins R id task') :
    task.withoutWait.Twins R id task'.withoutWait := by
  refine ⟨?_, Or.inr ⟨rfl, rfl⟩, h.pending, h.delivered, h.stack, h.place⟩
  rw [h.rest]
  rfl

/-- A task that brings no message keeps what it has. -/
theorem stash (h : task.Twins R id task') {message message' : Option Message}
    (hmessage : Option.Rel R message message') (waitsFor : Option Resource) :
    { task with message := message.getD task.message, waitsFor }.Twins R id
      { task' with message := message'.getD task'.message, waitsFor } := by
  refine ⟨?_, ?_, h.pending, h.delivered, h.stack, h.place⟩
  · rw [h.rest]
  · cases hmessage with
    | some hrelated => exact Or.inl hrelated
    | none => exact h.message

theorem promise (h : task.Twins R id task') {reply reply' : Reply}
    (hreply : reply.Twins R reply') :
    { task with pending := some reply }.Twins R id
      { task' with pending := some reply' } := by
  refine ⟨?_, h.message, .some hreply, h.delivered, h.stack, h.place⟩
  rw [h.rest]

theorem handOver (h : task.Twins R id task') {reply reply' : Reply}
    (hreply : reply.Twins R reply') :
    { task with pending := none, delivered := some reply }.Twins R id
      { task' with pending := none, delivered := some reply' } := by
  refine ⟨?_, h.message, .none, .some hreply, h.stack, h.place⟩
  rw [h.rest]

theorem putStack (h : task.Twins R id task') {stack stack' : Stack}
    (hstack : stack.Twins R task.savedAt stack')
    (hsize : stack.words.size = task.stack.words.size) :
    { task with stack }.Twins R id { task' with stack := stack' } := by
  refine ⟨?_, h.message, h.pending, h.delivered, hstack,
    fun pointer hpointer => ?_⟩
  · rw [h.rest]
  · have hplace := h.place pointer hpointer
    rwa [← hsize] at hplace

end Twins

/-- A slot in which no message was ever kept. -/
theorem twins_self (hmessage : task.message = 0)
    (hpending : task.pending = none) (hdelivered : task.delivered = none)
    (hplace : ∀ pointer, task.savedAt = some pointer → pointer.owner = id ∧
      task.stack.words.size ≤ pointer.offset + Frame.size + 1) :
    task.Twins R id task := by
  refine ⟨rfl, Or.inr ⟨hmessage, hmessage⟩, ?_, ?_, Stack.Twins.refl task.stack,
    hplace⟩
  · rw [hpending]
    exact .none
  · rw [hdelivered]
    exact .none

end Task

end Tasks

/-! ### Kernels -/

/-- Kernels that are the same but for the messages they hold.  A task that waits
to send keeps a message. -/
structure Kernel.Twins (R : Message → Message → Prop) (k k' : Kernel) :
    Prop where
  rest : k' = { k with tasks := k'.tasks, queues := k'.queues }
  tasks : ∀ id, (k.task id).Twins R id (k'.task id)
  queues : ∀ id, (k.queue id).Twins R (k'.queue id)
  stashed : ∀ id queue, (k.task id).waitsFor = some (.queue queue) →
    (k.queue queue).waiters = .senders →
    R (k.task id).message (k'.task id).message

namespace Kernel

variable {R : Message → Message → Prop} {k k' : Kernel} {id : TaskId}

theorem twins_fresh (platform : Platform) :
    (fresh platform).Twins R (fresh platform) := by
  have htask : ∀ id, (fresh platform).task id = Task.vacant := fun id =>
    Pool.slot_filled Task.vacant id
  have hqueue : ∀ id, (fresh platform).queue id = Queue.ofCapacity 0 :=
    fun id =>
    Pool.slot_filled (Queue.ofCapacity 0) id
  refine ⟨rfl, fun id => ?_, fun id => ?_, fun id queue hwaits => ?_⟩
  · rw [htask]
    exact Task.twins_self rfl rfl rfl fun pointer hpointer => by cases hpointer
  · rw [hqueue]
    exact Queue.twins_ofCapacity 0
  · rw [htask] at hwaits
    cases hwaits

namespace Twins

theorem platform_eq (h : k.Twins R k') : k'.platform = k.platform := by
  rw [h.rest]

theorem phase_eq (h : k.Twins R k') : k'.phase = k.phase := by
  rw [h.rest]

theorem taskCount_eq (h : k.Twins R k') : k'.taskCount = k.taskCount := by
  rw [h.rest]

theorem idle_eq (h : k.Twins R k') : k'.idle = k.idle := by
  rw [h.rest]

theorem links_eq (h : k.Twins R k') : k'.links = k.links := by
  rw [h.rest]

theorem ready_eq (h : k.Twins R k') : k'.ready = k.ready := by
  rw [h.rest]

theorem waiting_eq (h : k.Twins R k') : k'.waiting = k.waiting := by
  rw [h.rest]

theorem running_eq (h : k.Twins R k') : k'.running = k.running := by
  rw [h.rest]

theorem scheduled_eq (h : k.Twins R k') : k'.scheduled = k.scheduled := by
  rw [h.rest]

theorem mutexCount_eq (h : k.Twins R k') : k'.mutexCount = k.mutexCount := by
  rw [h.rest]

theorem mutex_eq (h : k.Twins R k') (id : MutexId) :
    k'.mutex id = k.mutex id := by
  rw [h.rest]
  rfl

theorem queueCount_eq (h : k.Twins R k') : k'.queueCount = k.queueCount := by
  rw [h.rest]

theorem readyIds_eq (h : k.Twins R k') : k'.readyIds = k.readyIds := by
  rw [readyIds, h.ready_eq, h.links_eq, readyIds]

theorem blockedChain_eq (h : k.Twins R k') (resource : Resource) :
    k'.blockedChain resource = k.blockedChain resource := by
  cases resource with
  | mutex id => exact congrArg Mutex.blocked (h.mutex_eq id)
  | queue id => exact (h.queues id).blocked_eq

/-! ### Changes of both -/

/-- What is done to both without looking at their tasks and queues. -/
theorem update (h : k.Twins R k') (f : Kernel → Kernel)
    (hf : ∀ k tasks queues,
      f { k with tasks, queues } = { f k with tasks, queues }) :
    (f k).Twins R (f k') := by
  have hkept : ∀ k, f k = { f k with tasks := k.tasks, queues := k.queues } :=
    fun k => hf k k.tasks k.queues
  have htasks : ∀ k, (f k).tasks = k.tasks := fun k => by rw [hkept]
  have hqueues : ∀ k, (f k).queues = k.queues := fun k => by rw [hkept]
  have htask : ∀ k id, (f k).task id = k.task id := fun k id => by
    rw [Kernel.task, htasks, Kernel.task]
  have hqueue : ∀ k id, (f k).queue id = k.queue id := fun k id => by
    rw [Kernel.queue, hqueues, Kernel.queue]
  constructor
  · rw [htasks, hqueues, ← hf, ← h.rest]
  · intro id
    rw [htask, htask]
    exact h.tasks id
  · intro id
    rw [hqueue, hqueue]
    exact h.queues id
  · intro id queue hwaits hside
    rw [htask] at hwaits
    rw [hqueue] at hside
    rw [htask, htask]
    exact h.stashed id queue hwaits hside

theorem modifyTask (h : k.Twins R k') {f f' : Task → Task}
    (htask : (f (k.task id)).Twins R id (f' (k'.task id)))
    (hstash : ∀ queue, (f (k.task id)).waitsFor = some (.queue queue) →
      (k.queue queue).waiters = .senders →
        R (f (k.task id)).message (f' (k'.task id)).message) :
    (k.modifyTask id f).Twins R (k'.modifyTask id f') := by
  constructor
  · exact congrArg (fun k : Kernel => { k with tasks := k'.tasks.modify id f' })
      h.rest
  · intro other
    rw [task_modifyTask, task_modifyTask]
    split
    · rename_i heq
      exact heq ▸ htask
    · exact h.tasks other
  · exact h.queues
  · intro other queue hwaits hside
    rw [task_modifyTask] at hwaits ⊢
    rw [task_modifyTask]
    split at hwaits
    · rename_i heq
      rw [if_pos heq, if_pos heq]
      exact hstash queue hwaits hside
    · rename_i hne
      rw [if_neg hne, if_neg hne]
      exact h.stashed other queue hwaits hside

/-- A change of a task that has nothing to do with messages. -/
theorem modifyTask_same (h : k.Twins R k') {f : Task → Task}
    (hf : Task.Neutral f)
    (hsaved : (f (k.task id)).savedAt = (k.task id).savedAt)
    (hwaits : (f (k.task id)).waitsFor = (k.task id).waitsFor) :
    (k.modifyTask id f).Twins R (k'.modifyTask id f) := by
  refine h.modifyTask ((h.tasks id).update hf hsaved) fun queue hqueue hside =>
    ?_
  rw [hwaits] at hqueue
  rw [hf.message_eq, hf.message_eq]
  exact h.stashed id queue hqueue hside

theorem setStatus (h : k.Twins R k') (status : TaskStatus) :
    (k.setStatus id status).Twins R (k'.setStatus id status) :=
  h.modifyTask_same (fun _ _ _ _ _ => rfl) rfl rfl

theorem putQueue (h : k.Twins R k') (queue : QueueId) {content content' : Queue}
    (hcontent : content.Twins R content')
    (hstash : content.waiters = .senders →
      ∀ id, (k.task id).waitsFor = some (.queue queue) →
      R (k.task id).message (k'.task id).message) :
    (k.putQueue queue content).Twins R (k'.putQueue queue content') := by
  constructor
  · exact congrArg
      (fun k : Kernel => { k with queues := k'.queues.put queue content' })
      h.rest
  · exact h.tasks
  · intro other
    rw [queue_putQueue, queue_putQueue]
    split
    · exact hcontent
    · exact h.queues other
  · intro id other hwaits hside
    rw [queue_putQueue] at hside
    split at hside
    · rename_i heq
      exact hstash hside id (heq ▸ hwaits)
    · exact h.stashed id other hwaits hside

end Twins

end Kernel

end TickKernel
