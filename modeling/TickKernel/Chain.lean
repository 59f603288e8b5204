/-
Task chains.  A chain is a list of tasks that costs no memory of its own: it
stores its first task only, and every task stores its successor in a link
field.  Several chains may run through one link field as long as they share no
task.

`Chain.toList` is what a chain holds, front to back.  A walk along the links
stops after as many tasks as there are, so it ends on every table of links;
`Chain.Spells` says that the links really lead from the first task along a
given list to its end.
-/
import TickKernel.Pool

namespace TickKernel

variable {n : Nat}

/-- A link field: the successor of each of `n` tasks. -/
abbrev Links (n : Nat) := Pool (Option (Fin n)) n

def Links.unlinked (n : Nat) : Links n :=
  Pool.filled n none

/-- The tasks met on the way from `start`, at most `limit` of them. -/
def Links.walk (links : Links n) : Nat → Option (Fin n) → List (Fin n)
  | 0, _ => []
  | _ + 1, none => []
  | limit + 1, some id => id :: links.walk limit (links.slot id)

/-- The links lead from `start` along exactly the given tasks and end there. -/
def Links.Spells (links : Links n) : Option (Fin n) → List (Fin n) → Prop
  | start, [] => start = none
  | start, id :: rest => start = some id ∧ links.Spells (links.slot id) rest

structure Chain (n : Nat) where
  head : Option (Fin n)
deriving DecidableEq, Repr

namespace Chain

def empty : Chain n :=
  ⟨none⟩

def isEmpty (chain : Chain n) : Bool :=
  chain.head.isNone

def toList (chain : Chain n) (links : Links n) : List (Fin n) :=
  links.walk n chain.head

def Spells (chain : Chain n) (links : Links n) (ids : List (Fin n)) : Prop :=
  links.Spells chain.head ids

/-- Whether more tasks are met along the chain than there are: it runs in a
circle then. -/
def isCircular (chain : Chain n) (links : Links n) : Bool :=
  decide (n < (links.walk (n + 1) chain.head).length)

def contains (chain : Chain n) (links : Links n) (id : Fin n) : Bool :=
  (chain.toList links).contains id

def length (chain : Chain n) (links : Links n) : Nat :=
  (chain.toList links).length

/-- Let the task `previous`, or the chain itself when there is none, lead to
`next`. -/
def lead (chain : Chain n) (links : Links n) (previous next : Option (Fin n)) :
    Chain n × Links n :=
  match previous with
  | some id => (chain, links.put id next)
  | none => (⟨next⟩, links)

def pushFront (chain : Chain n) (links : Links n) (id : Fin n) :
    Chain n × Links n :=
  (⟨some id⟩, links.put id chain.head)

def pushBack (chain : Chain n) (links : Links n) (id : Fin n) :
    Chain n × Links n :=
  let links := links.put id none
  chain.lead links (chain.toList links).getLast? (some id)

/-- Put `id` directly before the first task that it precedes, at the end when
it precedes none.  With a strict `precedes`, tasks that precede each other in
neither direction keep the order in which they came. -/
def insertBy (chain : Chain n) (links : Links n) (precedes : Fin n → Bool)
    (id : Fin n) : Chain n × Links n :=
  let ids := chain.toList links
  let passed := ids.takeWhile fun other => !precedes other
  let kept := ids.dropWhile fun other => !precedes other
  chain.lead (links.put id kept.head?) passed.getLast? (some id)

def popFront? (chain : Chain n) (links : Links n) :
    Option (Fin n × Chain n × Links n) :=
  match chain.head with
  | none => none
  | some id => some (id, ⟨links.slot id⟩, links.put id none)

def erase? (chain : Chain n) (links : Links n) (id : Fin n) :
    Option (Chain n × Links n) :=
  let ids := chain.toList links
  if ids.contains id then
    let led := chain.lead links (ids.takeWhile (· != id)).getLast?
      (links.slot id)
    some (led.1, led.2.put id none)
  else none

end Chain

end TickKernel
