import Hashgraph.Ancestry
import Hashgraph.ChildlessEvents
import Hashgraph.Seat

/-! How a node's events move the hashgraph forward. A snapshot is the tipset of one of its events; when a
later event is ahead of it by a supermajority, that event's tipset becomes the next snapshot. Members that
a snapshot leaves behind although they have a newer childless event are ignored selfishly, and are scored. -/

namespace Hashgraph

/-- The scores are natural numbers, like the sums over them. Each event of the node raises a score by one at most,
and no run makes as many events as a machine word can count. -/
structure Progress where
  snapshot : Tipset
  previous : Advancement
  scores : List Nat

namespace Progress

def start (roster : Roster) : Progress := ⟨.empty roster, .zero, List.replicate roster.size 0⟩

structure Step where
  improvement : Advancement
  replaced : Bool
  progress : Progress

def isDecisive (seat : Seat) (advancement : Advancement) : Bool :=
  isSupermajority (saturatingAdd advancement.weight seat.weight) seat.roster.total

/-- A member that moved is not ignored any more; one that stayed behind although it has a childless event
above its old tip is ignored once more. -/
def nextScore (progress : Progress) (seat : Seat) (childless : ChildlessEvents) (next : Tipset)
    (node : NodeId) (score : Nat) : Nat :=
  let old := progress.snapshot.tip seat.roster node
  if node = seat.node then score
  else if Tipset.isBelow old (next.tip seat.roster node) then 0
  else if (childless.eventFor node).any fun event => Tipset.isBelow old event.nGen then score + 1
  else score

/-- Counts an event of the node, which has to be known; the improvement is over the events since the
snapshot. -/
def record? (progress : Progress) (seat : Seat) (ancestry : Ancestry) (childless : ChildlessEvents)
    (descriptor : EventDescriptor) : Option Step :=
  (ancestry.tipset? descriptor).map fun tipset =>
    let advancement := Tipset.advancement seat.roster seat.node progress.snapshot tipset
    let improvement := advancement.minus progress.previous
    if isDecisive seat advancement then
      let scores := List.zipWith (progress.nextScore seat childless tipset) seat.roster.nodes progress.scores
      ⟨improvement, true, ⟨tipset, .zero, scores⟩⟩
    else ⟨improvement, false, { progress with previous := advancement }⟩

def theoretical (progress : Progress) (seat : Seat) (ancestry : Ancestry) (parents : List EventDescriptor) :
    Advancement :=
  if parents.isEmpty then .zero
  else
    let merged := ancestry.mergedParents seat.roster parents
    (Tipset.advancement seat.roster seat.node progress.snapshot merged).minus progress.previous

def score (progress : Progress) (roster : Roster) (node : NodeId) : Nat :=
  ((roster.position? node).bind fun position => progress.scores[position]?).getD 0

def maxScore (progress : Progress) : Nat := progress.scores.foldl max 0

def text (progress : Progress) (roster : Roster) : String :=
  let scores := (roster.nodes.zip progress.scores).map fun (node, score) =>
    " " ++ node.text ++ "=" ++ digitText score
  "Snapshot: " ++ progress.snapshot.text roster ++ "\nPrevious advancement weight: " ++
    progress.previous.text ++ "\nSelfishness scores:" ++ String.join scores ++ "\n"

end Progress

end Hashgraph
