import Hashgraph.NodeId
import Hashgraph.Saturating

/-! How far one tipset is ahead of another: the weight of the members that moved, and the number of moved
members without weight, which only decides between equal weights. -/

namespace Hashgraph

structure Advancement where
  weight : UInt64
  zeroWeightCount : UInt64
deriving DecidableEq

namespace Advancement

def zero : Advancement := ⟨0, 0⟩

def plus (a b : Advancement) : Advancement :=
  ⟨saturatingAdd a.weight b.weight, saturatingAdd a.zeroWeightCount b.zeroWeightCount⟩

def minus (a b : Advancement) : Advancement :=
  ⟨saturatingSub a.weight b.weight, saturatingSub a.zeroWeightCount b.zeroWeightCount⟩

def exceeds (a b : Advancement) : Bool :=
  b.weight < a.weight || (a.weight = b.weight && b.zeroWeightCount < a.zeroWeightCount)

def order (a b : Advancement) : Ordering := if a.exceeds b then .gt else if b.exceeds a then .lt else .eq

def isNonZero (a : Advancement) : Bool := a ≠ zero

def count (a : Advancement) (weight : UInt64) : Advancement :=
  if weight = 0 then { a with zeroWeightCount := a.zeroWeightCount + 1 }
  else { a with weight := a.weight + weight }

def text (a : Advancement) : String :=
  "(" ++ digitText a.weight.toNat ++ ", " ++ digitText a.zeroWeightCount.toNat ++ ")"

end Advancement

end Hashgraph
