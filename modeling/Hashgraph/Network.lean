import Hashgraph.Consensus
import Hashgraph.Creation.Creator
import Hashgraph.Signing.Signer

/-! A network of creators, one for each member of a roster, that share a clock and one consensus. Every
created event is numbered and then delivered to all creators. -/

namespace Hashgraph

structure Peer where
  creator : Creator
  signer : Signer
  held : List Event

structure Network where
  peers : List Peer
  clock : Instant
  consensus : Consensus

namespace Network

def noTransactions (signer : Signer) : Surroundings Unit := ⟨signer.sign, fun _ => ([], ())⟩

def seats (roster : Roster) : List Seat := roster.nodes.filterMap (Seat.take? roster)

def start (roster : Roster) (mode : AncientMode) (settings : CreationSettings) (signer : NodeId → Signer) :
    Network where
  peers := (seats roster).map fun seat =>
    ⟨.start seat mode { settings with seed := settings.seed + seat.node.number }, signer seat.node, []⟩
  clock := .epoch
  consensus := .start mode roster.size.toUInt64

def deliver (network : Network) (event : Event) (withheld : List Nat) : Network :=
  { network with
    peers := network.peers.mapIdx fun position peer =>
      if position ∈ withheld then { peer with held := peer.held ++ [event] }
      else { peer with creator := peer.creator.register event } }

/-- Numbers a created event and delivers it. -/
def publish (network : Network) (event : Event) (withheld : List Nat) : Except Overflow Event × Network :=
  match network.consensus.order event with
  | (.error fault, _) => (.error fault, network)
  | (.ok event, consensus) => (.ok event, { network with consensus := consensus }.deliver event withheld)

def attempt (network : Network) (position : Nat) (withheld : List Nat) :
    Except CreationError (Option Event) × Network :=
  match network.clock.plusMillis? 1, network.peers[position]? with
  | none, _ => (.error .outOfRange, network)
  | some clock, none => (.ok none, { network with clock := clock })
  | some clock, some peer =>
      let attempt := peer.creator.attempt (noTransactions peer.signer) clock ()
      let network :=
        { network with
          clock := clock
          peers := network.peers.set position { peer with creator := attempt.creator } }
      match attempt.outcome with
      | .error fault => (.error fault, network)
      | .ok none => (.ok none, network)
      | .ok (some event) =>
          let (event, network) := network.publish event withheld
          ((event.mapError fun _ => .outOfRange).map some, network)

def release (network : Network) (position : Nat) : Nat × Network :=
  match network.peers[position]? with
  | none => (0, network)
  | some peer =>
      let creator := peer.held.foldl Creator.register peer.creator
      (peer.held.length,
        { network with peers := network.peers.set position { peer with creator := creator, held := [] } })

def advanceRound (network : Network) : Except RoundError Network :=
  network.consensus.advanceRound.map fun consensus =>
    { network with
      consensus := consensus
      peers := network.peers.map fun peer => { peer with creator := peer.creator.setWindow consensus.window } }

def clear (network : Network) (position : Nat) : Network :=
  { network with
    peers := network.peers.modify position fun peer => { peer with creator := peer.creator.clear } }

end Network

end Hashgraph
