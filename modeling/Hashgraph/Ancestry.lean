import Hashgraph.EventWindow
import Hashgraph.Table
import Hashgraph.Tipset

/-! The tipsets of known events. Each is built from those of the event's parents when the event arrives,
and kept until the event becomes ancient. -/

namespace Hashgraph

structure Ancestry where
  tipsets : Table EventDescriptor Tipset
  latest : Tipset
  window : EventWindow

namespace Ancestry

def start (roster : Roster) (mode : AncientMode) : Ancestry :=
  ⟨.empty, .empty roster, .genesis mode⟩

def tipset? (ancestry : Ancestry) (descriptor : EventDescriptor) : Option Tipset :=
  ancestry.tipsets.find? descriptor

def setWindow (ancestry : Ancestry) (window : EventWindow) : Ancestry :=
  { ancestry with
    tipsets := ancestry.tipsets.filter fun descriptor _ => !window.isAncient descriptor
    window := window }

def mergedParents (ancestry : Ancestry) (roster : Roster) (parents : List EventDescriptor) : Tipset :=
  .mergeAll roster (parents.filterMap ancestry.tipset?)

def store (ancestry : Ancestry) (descriptor : EventDescriptor) (tipset : Tipset) : Ancestry :=
  if ancestry.window.isAncient descriptor then ancestry
  else { ancestry with tipsets := ancestry.tipsets.insert descriptor tipset }

/-- The tipset of a node's own event leaves out the node itself. -/
def addSelfEvent (ancestry : Ancestry) (roster : Roster) (descriptor : EventDescriptor)
    (parents : List EventDescriptor) : Tipset × Ancestry :=
  let tipset := (ancestry.mergedParents roster parents).excluding roster descriptor.creator
  (tipset, ancestry.store descriptor tipset)

def peerTipset (ancestry : Ancestry) (roster : Roster) (event : Event) : Tipset :=
  let merged := ancestry.mergedParents roster event.parents
  match event.nGen with
  | some nGen => merged.advance roster event.creator nGen
  | none => merged

def raiseLatest (ancestry : Ancestry) (roster : Roster) (event : Event) : Ancestry :=
  match event.nGen with
  | some nGen => { ancestry with latest := ancestry.latest.advance roster event.creator nGen }
  | none => ancestry

def addPeerEvent (ancestry : Ancestry) (roster : Roster) (event : Event) : Tipset × Ancestry :=
  let tipset := ancestry.peerTipset roster event
  (tipset, (ancestry.raiseLatest roster event).store event.descriptor tipset)

def latestFor (ancestry : Ancestry) (roster : Roster) (node : NodeId) : Option Generation :=
  ancestry.latest.tip roster node

def size (ancestry : Ancestry) : Nat := ancestry.tipsets.size

end Ancestry

end Hashgraph
