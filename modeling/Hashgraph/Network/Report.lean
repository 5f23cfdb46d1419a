import Hashgraph.Document
import Hashgraph.Network.Simulation

/-! Simulation reports as documents. -/

namespace Hashgraph

def CreationStats.toDocument (stats : CreationStats) : Document :=
  .table
    [("events_created", .nat stats.eventsCreated), ("genesis_events", .nat stats.genesisEvents),
      ("pity_parents_used", .nat stats.pityParentsUsed), ("refused_no_parent", .nat stats.refusedNoParent),
      ("refused_ancient", .nat stats.refusedAncient),
      ("last_advancement_ratio", .float stats.lastAdvancementRatio), ("max_selfishness", .nat stats.maxSelfishness)]

def NodeReport.toDocument (report : NodeReport) : Document :=
  .table
    [("node_id", .word report.node.number), ("weight", .word report.weight), ("stats", report.stats.toDocument)]

def SimulationReport.toDocument (report : SimulationReport) : Document :=
  .table
    [("steps", .nat report.steps), ("events_created", .nat report.eventsCreated),
      ("latest_consensus_round", .word report.latestConsensusRound),
      ("max_generation", .word report.maxGeneration), ("nodes", .list (report.nodes.map NodeReport.toDocument))]

end Hashgraph
