import Hashgraph.Decimal.Text

/-! Identities of nodes, and the numbers that order their events. -/

namespace Hashgraph

structure NodeId where
  number : UInt64
deriving DecidableEq, Inhabited

namespace NodeId

def text (id : NodeId) : String := "node-" ++ digitText id.number.toNat

def inspect (id : NodeId) : String := "NodeId(" ++ digitText id.number.toNat ++ ")"

def order (a b : NodeId) : Ordering := compare a.number.toNat b.number.toNat

end NodeId

abbrev Generation := UInt64

abbrev Round := UInt64

def firstGeneration : Generation := 0

def roundBeforeAll : Round := 0

def firstRound : Round := 1

end Hashgraph
