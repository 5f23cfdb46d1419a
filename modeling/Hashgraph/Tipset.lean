import Hashgraph.Advancement
import Hashgraph.Roster

/-! Tipsets: for every member of a roster the highest order number of its events in some part of the
hashgraph, or nothing where that part has no event of the member. Nothing lies below every number. -/

namespace Hashgraph

structure Tipset where
  tips : List (Option Generation)
deriving DecidableEq

namespace Tipset

def empty (roster : Roster) : Tipset := ⟨List.replicate roster.size none⟩

def tip (tipset : Tipset) (roster : Roster) (node : NodeId) : Option Generation :=
  (roster.position? node).bind fun position => (tipset.tips[position]?).join

def higher : Option Generation → Option Generation → Option Generation
  | none, other => other
  | some a, none => some a
  | some a, some b => if a ≤ b then some b else some a

def isBelow : Option Generation → Option Generation → Bool
  | _, none => false
  | none, some _ => true
  | some a, some b => a < b

def mergeTips : List (Option Generation) → List (Option Generation) → List (Option Generation)
  | [], _ => []
  | tips, [] => tips
  | a :: as, b :: bs => higher a b :: mergeTips as bs

def merge (a b : Tipset) : Tipset := ⟨mergeTips a.tips b.tips⟩

def mergeAll (roster : Roster) (tipsets : List Tipset) : Tipset := tipsets.foldl merge (empty roster)

def advance (tipset : Tipset) (roster : Roster) (node : NodeId) (nGen : Generation) : Tipset :=
  match roster.position? node with
  | some position => ⟨tipset.tips.modify position (higher · (some nGen))⟩
  | none => tipset

def excluding (tipset : Tipset) (roster : Roster) (node : NodeId) : Tipset :=
  match roster.position? node with
  | some position => ⟨tipset.tips.set position none⟩
  | none => tipset

def advances (roster : Roster) (self : NodeId) (old new : Tipset) (node : NodeId) : Bool :=
  node ≠ self && isBelow (old.tip roster node) (new.tip roster node)

def advancement (roster : Roster) (self : NodeId) (old new : Tipset) : Advancement :=
  (roster.entries.filter fun entry => advances roster self old new entry.node).foldl
    (fun sum entry => sum.count entry.weight) .zero

def entries (tipset : Tipset) (roster : Roster) : List (NodeId × Option Generation) :=
  roster.nodes.zip tipset.tips

def text (tipset : Tipset) (roster : Roster) : String :=
  "(" ++ ", ".intercalate ((tipset.entries roster).map fun (node, tip) =>
    node.text ++ ":" ++ match tip with
      | some nGen => digitText nGen.toNat
      | none => "-") ++ ")"

end Tipset

end Hashgraph
