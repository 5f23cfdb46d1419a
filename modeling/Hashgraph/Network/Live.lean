import Hashgraph.Consensus
import Hashgraph.Node.Service
import Hashgraph.Signing.Signer

/-! A network of services that tick together. Events published at a tick are numbered by one consensus and
sent to every service, which takes them up before its next tick. -/

namespace Hashgraph

structure LiveSettings where
  nodes : Nat
  duration : Span
  mode : AncientMode
  creation : CreationSettings

inductive LiveError where
  | invalidRoster (fault : RosterError)
  | noAttempts
  | outOfRange
  | window (fault : WindowError)
deriving DecidableEq

def LiveError.ofRound : RoundError → LiveError
  | .overflow => .outOfRange
  | .window fault => .window fault

def LiveError.message : LiveError → String
  | .invalidRoster _ => "Invalid roster"
  | .noAttempts => "creation_attempt_rate must be positive"
  | .outOfRange => ""
  | .window fault => fault.message

structure LiveNetwork where
  services : List (Service × Signer)
  consensus : Consensus
  created : Table NodeId Nat
  total : Nat

namespace LiveNetwork

def eventsPerRoundPerNode : Nat := 4

def masterSeed : Bytes := List.replicate 32 7

def service (settings : LiveSettings) (interval : Span) (seat : Seat) : Service × Signer :=
  let creation := { settings.creation with seed := settings.creation.seed + seat.node.number }
  let manager := (Manager.start seat settings.mode creation).setPlatformStatus .active
  (.start manager interval, .ed25519 (.ofMaster masterSeed seat.node))

def start (settings : LiveSettings) (roster : Roster) (interval : Span) : LiveNetwork where
  services := (roster.nodes.filterMap (Seat.take? roster)).map (service settings interval)
  consensus := .start settings.mode roster.size.toUInt64
  created := .empty
  total := 0

def broadcast (network : LiveNetwork) (command : Command) : LiveNetwork :=
  { network with
    services := network.services.map fun (service, signer) => ((service.send command).getD service, signer) }

def route (network : LiveNetwork) (event : Event) : Except LiveError LiveNetwork :=
  match network.consensus.order event with
  | (.error _, _) => .error .outOfRange
  | (.ok ordered, consensus) =>
      let network :=
        { network with
          consensus := consensus
          created := network.created.modify event.creator 0 (· + 1)
          total := network.total + 1 }.broadcast (.register ordered)
      if network.total % (network.services.length * eventsPerRoundPerNode) = 0 then
        (network.consensus.advanceRound.mapError .ofRound).map fun consensus =>
          { network with consensus := consensus }.broadcast (.setWindow consensus.window)
      else .ok network

def tick (network : LiveNetwork) (now : Instant) : Except LiveError LiveNetwork :=
  let ticked := network.services.map fun (service, signer) => (service.handleWaiting.tick signer.sign now, signer)
  let published := ticked.flatMap fun (service, _) => service.published
  let taken := ticked.map fun (service, signer) => ((service.takePublished).2, signer)
  published.foldlM route { network with services := taken }

def ticks (start : Instant) (interval : Span) : Nat → Nat → LiveNetwork → Except LiveError LiveNetwork
  | 0, _, network => .ok network
  | remaining + 1, number, network =>
      let now := (start.plus? (number * interval : Nat)).getD start
      (network.tick now).bind (ticks start interval remaining (number + 1))

def run (settings : LiveSettings) (start : Instant) : Except LiveError LiveNetwork :=
  match Roster.uniform settings.nodes with
  | .error fault => .error (.invalidRoster fault)
  | .ok roster =>
      match settings.creation.attemptInterval with
      | .disabled => .error .noAttempts
      | .outOfRange => .error .outOfRange
      | .every interval =>
          let count := if interval = 0 then 0 else settings.duration / interval + 1
          ticks start interval count 0 (LiveNetwork.start settings roster interval)

end LiveNetwork

end Hashgraph
