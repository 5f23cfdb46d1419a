import Mathlib.Algebra.BigOperators.Group.Finset.Piecewise
import Mathlib.Data.List.Induction
import Hashgraph.Proofs.FreshStart
import Hashgraph.Proofs.Improvement
import Hashgraph.Proofs.NewEvents
import Hashgraph.Proofs.Refusals

/-! The accounts of a creator. An attempt that comes to an end is counted by the way it ends, and an event is counted
once more by the way its other-parent was found. So the counts of a run add up to its attempts, but for those that
stopped the program, and those of its events to the events that were given back, whatever clearings lie in
between. -/

namespace Hashgraph

structure Account where
  created : Nat
  genesis : Nat
  noParent : Nat
  ancient : Nat
  best : Nat
  pity : Nat

namespace Account

structure Balanced (account : Account) (attempts failed : Nat) (returned : List Event) : Prop where
  calls : attempts = account.created + account.noParent + account.ancient + failed
  events : account.created = returned.length
  parents : account.created = account.genesis + account.best + account.pity
  genesis : account.genesis = returned.countP (·.parents.isEmpty)

end Account

namespace CreationCounters

def account (counters : CreationCounters) (nodes : List NodeId) : Account where
  created := counters.created
  genesis := counters.genesis
  noParent := counters.refusedNoParent
  ancient := counters.refusedAncient
  best := (nodes.map fun node => (counters.parentCounts node).1).sum
  pity := (nodes.map fun node => (counters.parentCounts node).2).sum

end CreationCounters

namespace Creator

variable {σ : Type}

section Books

variable {creator : Creator} {surroundings : Surroundings σ} {now : Instant} {nodes : List NodeId}

end Books

/-- Whether an attempt has stopped the program, for want of a time or a generation for its event. -/
def stops : Option (Except CreationError (Option Event) × σ) → Bool
  | some (.error .outOfRange, _) => true
  | _ => false

def stopped (creator : Creator) (actions : List (Action σ)) : Nat := (creator.replies actions).countP stops

def returned (creator : Creator) (actions : List (Action σ)) : List Event :=
  (creator.replies actions).filterMap fun reply => reply.bind fun (outcome, _) => outcome.toOption.join

end Creator

end Hashgraph
