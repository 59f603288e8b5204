/-
A roster is a task table together with any number of chains through its three
link fields.  It is the kernel's table seen without the scheduling rules: any
chain may be changed in any way, also in ways that the rules would forbid.
-/
import TickKernel.Chain
import TickKernel.Task

namespace TickKernel

variable {n : Nat}

structure Row (n : Nat) where
  task : Task
  next : LinkField → Option (Fin n)

/-- When a task goes in front of another one in a sorted chain. -/
structure Precedence (n : Nat) where
  holds : Row n → Row n → Bool

namespace Precedence

def urgent : Precedence n :=
  ⟨fun row other => row.task.outranks other.task⟩

def atLeastAsUrgent : Precedence n :=
  ⟨fun row other => !other.task.outranks row.task⟩

def sooner : Precedence n :=
  ⟨fun row other => row.task.dueBefore other.task⟩

end Precedence

/-- Tasks, their link fields, and chains that each run through one of them. -/
structure Roster (n : Nat) where
  tasks : Pool Task n
  links : LinkFields n
  chains : Array (LinkField × Chain n)
deriving DecidableEq

inductive ChainCall (n : Nat) where
  | pushFront (id : Fin n)
  | pushBack (id : Fin n)
  | popFront
  | erase (id : Fin n)
  | insert (precedence : Precedence n) (id : Fin n)
  | clear
  | contains (id : Fin n)
  | length
  | head
  | isEmpty
  | next (id : Fin n)

inductive ChainAnswer (n : Nat) where
  | done
  | flag (value : Bool)
  | count (value : Nat)
  | task (id : Option (Fin n))
deriving DecidableEq, Repr

namespace Roster

def ofTasks (tasks : Pool Task n) (fields : Array LinkField) : Roster n :=
  ⟨tasks, LinkFields.unlinked n, fields.map fun field => (field, Chain.empty)⟩

def row (roster : Roster n) (id : Fin n) : Row n :=
  ⟨roster.tasks.slot id, fun field => (roster.links.get field).slot id⟩

/-- The tasks of a chain, or nothing when it runs in a circle. -/
def ids? (roster : Roster n) (field : LinkField) (chain : Chain n) :
    Option (List (Fin n)) :=
  let links := roster.links.get field
  if chain.isCircular links then none else some (chain.toList links)

def hasCircle (roster : Roster n) : Bool :=
  roster.chains.any fun entry => entry.2.isCircular (roster.links.get entry.1)

/-- Store a chain and its link field after a change. -/
def update (roster : Roster n) (index : Nat) (field : LinkField)
    (changed : Chain n × Links n) : Roster n :=
  { roster with
    links := roster.links.set field changed.2
    chains := roster.chains.setIfInBounds index (field, changed.1) }

/-- Carry out one call on chain `index`, which runs through `field`. -/
def onChain (roster : Roster n) (index : Nat) (field : LinkField)
    (chain : Chain n) : ChainCall n → ChainAnswer n × Roster n
  | .pushFront id =>
      (.done,
        roster.update index field (chain.pushFront (roster.links.get field) id))
  | .pushBack id =>
      (.done,
        roster.update index field (chain.pushBack (roster.links.get field) id))
  | .popFront =>
      match chain.popFront? (roster.links.get field) with
      | none => (.task none, roster)
      | some (id, changed) =>
          (.task (some id), roster.update index field changed)
  | .erase id =>
      match chain.erase? (roster.links.get field) id with
      | none => (.flag false, roster)
      | some changed => (.flag true, roster.update index field changed)
  | .insert precedence id =>
      let precedes other :=
        precedence.holds (roster.row id) (roster.row other)
      (.done, roster.update index field
        (chain.insertBy (roster.links.get field) precedes id))
  | .clear =>
      (.done, roster.update index field (Chain.empty, roster.links.get field))
  | .contains id => (.flag (chain.contains (roster.links.get field) id), roster)
  | .length => (.count (chain.length (roster.links.get field)), roster)
  | .head => (.task chain.head, roster)
  | .isEmpty => (.flag chain.isEmpty, roster)
  | .next id => (.task ((roster.links.get field).slot id), roster)

/-- Carry out one call on chain `index`; a chain that is not there is left
alone. -/
def perform (roster : Roster n) (index : Nat) (call : ChainCall n) :
    ChainAnswer n × Roster n :=
  match roster.chains[index]? with
  | none => (.done, roster)
  | some (field, chain) => roster.onChain index field chain call

end Roster

end TickKernel
