import Hashgraph.Roster

/-! A node's place in a roster that it is a member of. -/

namespace Hashgraph

structure Seat where
  roster : Roster
  node : NodeId
  member : roster.contains node = true

namespace Seat

def take? (roster : Roster) (node : NodeId) : Option Seat :=
  if member : roster.contains node = true then some ⟨roster, node, member⟩ else none

def refusal (node : NodeId) : String := "Self node " ++ node.text ++ " is not in the roster"

def weight (seat : Seat) : UInt64 := seat.roster.weight seat.node

def othersWeight (seat : Seat) : UInt64 := seat.roster.total - seat.weight

end Seat

end Hashgraph
