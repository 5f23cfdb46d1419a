import Hashgraph.Consensus
import Hashgraph.Creation.Creator
import Hashgraph.Signing.Signer

/-! What can go wrong while a scenario is read and played. -/

namespace Hashgraph

/-- `badField` and `unknownName` say which field cannot be read and which event is not known. A value that lacks the
form it should have is `malformed`, and a time, a span or a sum outside its range is `outOfRange`. -/
inductive Fault where
  | badField (field : String)
  | unknownName (name : String)
  | malformed
  | outOfRange
  | roster (fault : RosterError)
  | window (fault : WindowError)
  | stranger (node : NodeId)
  | untracked (descriptor : EventDescriptor)
  | signature (fault : SignatureError)
deriving DecidableEq

namespace Fault

def ofCreation : CreationError → Fault
  | .untracked descriptor => .untracked descriptor
  | .outOfRange => .outOfRange

def ofRound : RoundError → Fault
  | .overflow => .outOfRange
  | .window fault => .window fault

def message : Fault → String
  | .badField field => field
  | .unknownName name => name
  | .malformed => ""
  | .outOfRange => ""
  | .roster fault => fault.message
  | .window fault => fault.message
  | .stranger node => Seat.refusal node
  | .untracked descriptor => (CreationError.untracked descriptor).message
  | .signature fault => fault.message

def ofOverflow : Overflow → Fault
  | .overflow => .outOfRange

def check {α : Type} (fault : Fault) : Option α → Except Fault α
  | some value => .ok value
  | none => .error fault

def seat (roster : Roster) (node : NodeId) : Except Fault Seat := check (.stranger node) (Seat.take? roster node)

end Fault

end Hashgraph
