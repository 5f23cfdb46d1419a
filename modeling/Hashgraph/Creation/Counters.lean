import Hashgraph.Metrics.Exposition
import Hashgraph.Roster
import Hashgraph.Table

/-! What a creator counts while it works. -/

namespace Hashgraph

/-- An attempt adds one at most to each count. A run cannot make as many attempts as a machine word can count, so
the counts are natural numbers. -/
structure CreationCounters where
  created : Nat
  genesis : Nat
  refusedNoParent : Nat
  refusedAncient : Nat
  bestParents : Table NodeId Nat
  pityParents : Table NodeId Nat
  maxSelfishness : Int
  advancementRatio : Float

structure CreationStats where
  eventsCreated : Nat
  genesisEvents : Nat
  pityParentsUsed : Nat
  refusedNoParent : Nat
  refusedAncient : Nat
  lastAdvancementRatio : Float
  maxSelfishness : Nat

namespace CreationCounters

def zero : CreationCounters := ⟨0, 0, 0, 0, .empty, .empty, 0, 0.0⟩

def recordCreated (counters : CreationCounters) (genesis : Bool) (ratio : Float) : CreationCounters :=
  { counters with
    created := counters.created + 1
    genesis := if genesis then counters.genesis + 1 else counters.genesis
    advancementRatio := ratio }

def recordRefusedNoParent (counters : CreationCounters) : CreationCounters :=
  { counters with refusedNoParent := counters.refusedNoParent + 1 }

def recordRefusedAncient (counters : CreationCounters) : CreationCounters :=
  { counters with refusedAncient := counters.refusedAncient + 1 }

def recordBestParent (counters : CreationCounters) (node : NodeId) : CreationCounters :=
  { counters with bestParents := counters.bestParents.modify node 0 (· + 1) }

def recordPityParent (counters : CreationCounters) (node : NodeId) : CreationCounters :=
  { counters with pityParents := counters.pityParents.modify node 0 (· + 1) }

def setMaxSelfishness (counters : CreationCounters) (score : Nat) : CreationCounters :=
  { counters with maxSelfishness := min score 9223372036854775807 }

def parentCounts (counters : CreationCounters) (node : NodeId) : Nat × Nat :=
  ((counters.bestParents.find? node).getD 0, (counters.pityParents.find? node).getD 0)

def pityCount (counters : CreationCounters) (node : NodeId) : Nat := (counters.pityParents.find? node).getD 0

def showParents (counters : CreationCounters) (node : NodeId) : CreationCounters :=
  { counters with
    bestParents := counters.bestParents.modify node 0 id
    pityParents := counters.pityParents.modify node 0 id }

def showPity (counters : CreationCounters) (nodes : List NodeId) : CreationCounters :=
  { counters with pityParents := nodes.foldl (fun table node => table.modify node 0 id) counters.pityParents }

def stats (counters : CreationCounters) (nodes : List NodeId) : CreationStats where
  eventsCreated := counters.created
  genesisEvents := counters.genesis
  pityParentsUsed := nodes.foldl (fun sum node => sum + counters.pityCount node) 0
  refusedNoParent := counters.refusedNoParent
  refusedAncient := counters.refusedAncient
  lastAdvancementRatio := counters.advancementRatio
  maxSelfishness := counters.maxSelfishness.toNat

def byNode (table : Table NodeId Nat) : List (String × Float) :=
  table.entries.map fun (node, count) => (digitText node.number.toNat, floatOfInt count)

def families (counters : CreationCounters) : List MetricFamily :=
  [.single .counter "tipset_events_created_total" "Self events created" (floatOfInt counters.created),
    .single .counter "tipset_genesis_events_total" "Parentless self events created" (floatOfInt counters.genesis),
    .single .counter "tipset_refused_no_parent_total"
      "Creation attempts without a parent that advances the hashgraph" (floatOfInt counters.refusedNoParent),
    .single .counter "tipset_refused_ancient_total"
      "Creation attempts whose event would have been ancient" (floatOfInt counters.refusedAncient),
    .labelled "tipset_parent_total" "Other-parents chosen by advancement weight" "node"
      (byNode counters.bestParents),
    .labelled "tipset_pity_parent_total" "Other-parents chosen to reduce selfishness" "node"
      (byNode counters.pityParents),
    .single .gauge "tipset_max_selfishness" "Highest selfishness score" (floatOfInt counters.maxSelfishness),
    .single .gauge "tipset_advancement_ratio" "Advancement of the latest self event over the maximum possible"
      counters.advancementRatio]

end CreationCounters

end Hashgraph
