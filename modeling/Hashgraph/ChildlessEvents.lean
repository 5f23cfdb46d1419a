import Hashgraph.EventWindow
import Hashgraph.Table

/-! The events that no known event builds on. Of each creator the newest event is remembered as well, also
after a self event has built on it. -/

namespace Hashgraph

structure ChildlessEvents where
  childless : Table EventDescriptor Event
  newest : Table NodeId Event

namespace ChildlessEvents

def empty : ChildlessEvents := ⟨.empty, .empty⟩

def remove (tracked : ChildlessEvents) (descriptor : EventDescriptor) : ChildlessEvents :=
  if tracked.childless.contains descriptor then
    ⟨tracked.childless.erase descriptor, tracked.newest.erase descriptor.creator⟩
  else tracked

def put (tracked : ChildlessEvents) (event : Event) : ChildlessEvents :=
  ⟨tracked.childless.insert event.descriptor event, tracked.newest.insert event.creator event⟩

/-- Whether the creator's newest event is at least as high, an event without a number being lowest. -/
def isOutdated (tracked : ChildlessEvents) (event : Event) : Bool :=
  match tracked.newest.find? event.creator with
  | none => false
  | some known =>
      match known.nGen, event.nGen with
      | _, none => true
      | none, some _ => false
      | some old, some new => new ≤ old

/-- A newer event of its creator replaces the one before and makes its parents childless no more. -/
def add (tracked : ChildlessEvents) (event : Event) : ChildlessEvents :=
  if tracked.isOutdated event then tracked
  else
    let cleared :=
      match tracked.newest.find? event.creator with
      | some known => tracked.remove known.descriptor
      | none => tracked
    event.parents.foldl remove (cleared.put event)

/-- A self event builds on these events: they stay the newest of their creators. -/
def retire (tracked : ChildlessEvents) (parents : List EventDescriptor) : ChildlessEvents :=
  { tracked with childless := parents.foldl Table.erase tracked.childless }

def prune (tracked : ChildlessEvents) (window : EventWindow) : ChildlessEvents :=
  (tracked.childless.keys.filter window.isAncient).foldl remove tracked

def events (tracked : ChildlessEvents) : List Event := tracked.childless.values

def eventFor (tracked : ChildlessEvents) (node : NodeId) : Option Event :=
  (tracked.newest.find? node).filter fun event => tracked.childless.contains event.descriptor

def size (tracked : ChildlessEvents) : Nat := tracked.childless.size

def isEmpty (tracked : ChildlessEvents) : Bool := tracked.childless.isEmpty

def listing (tracked : ChildlessEvents) : String × List String :=
  if tracked.isEmpty then ("Childless events: none\n", [])
  else ("Childless events:\n", tracked.childless.keys.map fun descriptor => "  - " ++ descriptor.text ++ "\n")

end ChildlessEvents

end Hashgraph
