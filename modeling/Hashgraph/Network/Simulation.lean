import Hashgraph.Network

/-! Simulations: a number of creation attempts by nodes in random order, with a new round every so many
attempts, and a report of what each node did. -/

namespace Hashgraph

structure SimulationSettings where
  nodes : Nat
  zeroWeightNodes : Nat
  steps : Nat
  stepsPerRound : Nat
  seed : UInt64
  mode : AncientMode
  creation : CreationSettings

structure NodeReport where
  node : NodeId
  weight : UInt64
  stats : CreationStats

structure SimulationReport where
  steps : Nat
  eventsCreated : Nat
  latestConsensusRound : Round
  maxGeneration : Generation
  nodes : List NodeReport

inductive SimulationError where
  | noWeight
  | invalidRoster (fault : RosterError)
  | creation (fault : CreationError)
  | round (fault : RoundError)
deriving DecidableEq

def SimulationError.message : SimulationError → String
  | .noWeight => "At least one node must have weight"
  | .invalidRoster _ => "Invalid roster"
  | .creation fault => fault.message
  | .round fault => fault.message

structure Simulation where
  network : Network
  schedule : RandomStream
  created : Nat

namespace Simulation

def roster (settings : SimulationSettings) : Except RosterError Roster :=
  Roster.ofEntries ((List.range (settings.nodes + settings.zeroWeightNodes)).map fun number =>
    ⟨⟨number.toUInt64⟩, if number < settings.nodes then 1 else 0⟩)

def masterSeed (seed : UInt64) : Bytes := ((RandomStream.ofSeed seed).nextBytes 8).1

def start (settings : SimulationSettings) (roster : Roster) : Simulation :=
  let master := masterSeed settings.seed
  let signer (node : NodeId) : Signer := .ed25519 (.ofMaster master node)
  ⟨.start roster settings.mode { settings.creation with seed := settings.seed } signer, .ofSeed settings.seed, 0⟩

def isRoundEnd (stepsPerRound step : Nat) : Bool := 0 < stepsPerRound && step % stepsPerRound = 0

def step (simulation : Simulation) (stepsPerRound step : Nat) : Except SimulationError Simulation :=
  let (position, schedule) := simulation.schedule.below64 simulation.network.peers.length
  match simulation.network.attempt position [] with
  | (.error fault, _) => .error (.creation fault)
  | (.ok event, network) =>
      let created := if event.isSome then simulation.created + 1 else simulation.created
      if isRoundEnd stepsPerRound step then
        (network.advanceRound.mapError .round).map fun network => ⟨network, schedule, created⟩
      else .ok ⟨network, schedule, created⟩

def steps (stepsPerRound last : Nat) : Nat → Simulation → Except SimulationError Simulation
  | 0, simulation => .ok simulation
  | remaining + 1, simulation =>
      (simulation.step stepsPerRound (last - remaining)).bind (steps stepsPerRound last remaining)

def reportOf (simulation : Simulation) (roster : Roster) (steps : Nat) : SimulationReport where
  steps := steps
  eventsCreated := simulation.created
  latestConsensusRound := simulation.network.consensus.window.latestConsensusRound
  maxGeneration := simulation.network.consensus.maxGeneration
  nodes := simulation.network.peers.map fun peer =>
    ⟨peer.creator.seat.node, roster.weight peer.creator.seat.node, peer.creator.stats⟩

def run (settings : SimulationSettings) : Except SimulationError SimulationReport :=
  if settings.nodes = 0 then .error .noWeight
  else
    match roster settings with
    | .error fault => .error (.invalidRoster fault)
    | .ok roster =>
        (steps settings.stepsPerRound settings.steps settings.steps (start settings roster)).map fun simulation =>
          simulation.reportOf roster settings.steps

end Simulation

namespace SimulationReport

def row (cells : List String) : String :=
  " ".intercalate (List.zipWith padLeft [6, 6, 8, 8, 6, 10, 8, 8, 11] cells) ++ "\n"

def NodeReport.cells (report : NodeReport) : List String :=
  [digitText report.node.number.toNat, digitText report.weight.toNat, digitText report.stats.eventsCreated,
    digitText report.stats.genesisEvents, digitText report.stats.pityParentsUsed,
    digitText report.stats.refusedNoParent, digitText report.stats.refusedAncient,
    digitText report.stats.maxSelfishness, fixedText 3 report.stats.lastAdvancementRatio]

def text (report : SimulationReport) : String :=
  digitText report.eventsCreated ++ " events in " ++ digitText report.steps ++
    " steps, latest consensus round " ++ digitText report.latestConsensusRound.toNat ++ ", max generation " ++
    digitText report.maxGeneration.toNat ++ "\n" ++
    row ["node", "weight", "created", "genesis", "pity", "no parent", "ancient", "selfish", "last ratio"] ++
    String.join (report.nodes.map fun node => row (NodeReport.cells node))

end SimulationReport

end Hashgraph
