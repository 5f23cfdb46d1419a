import Hashgraph.Network.Simulation
import Hashgraph.Proofs.Liveness
import Hashgraph.Proofs.OrderNumbers

/-! Runs of a network: any order of attempts and of rounds. An attempt that leads to an event changes its maker
like any creation does, and brings the numbered event to all others; the echo does not change the maker, whose
last event has no number. Hence each creator goes through a history of its own, under the window of consensus.
Simulations are such runs. -/

namespace Hashgraph

namespace Network

def startEach (roster : Roster) (mode : AncientMode) (settings : NodeId → CreationSettings)
    (signer : NodeId → Signer) : Network where
  peers := (seats roster).map fun seat => ⟨.start seat mode (settings seat.node), signer seat.node, []⟩
  clock := .epoch
  consensus := .start mode roster.size.toUInt64

def creators (network : Network) : List Creator := network.peers.map Peer.creator

inductive Move where
  | attempt (position : Nat)
  | round

/-- A network and the numbered events that were made in it, the latest one first. -/
structure Course where
  network : Network
  created : List Event

namespace Course

/-- An attempt that fails makes no event, and a round that fails changes nothing. -/
def next (course : Course) : Move → Course
  | .attempt position =>
      match course.network.attempt position [] with
      | (.ok (some event), network) => ⟨network, event :: course.created⟩
      | (_, network) => ⟨network, course.created⟩
  | .round =>
      match course.network.advanceRound with
      | .ok network => ⟨network, course.created⟩
      | .error _ => course

/-- What was made since a node's last event, or everything if it has made none. -/
def since (course : Course) (node : NodeId) : List Event :=
  course.created.takeWhile fun event => decide (event.creator ≠ node)

end Course

def course (network : Network) (moves : List Move) : Course := moves.foldl Course.next ⟨network, []⟩

theorem course_concat (network : Network) (moves : List Move) (move : Move) :
    network.course (moves ++ [move]) = (network.course moves).next move := by
  simp [course]

theorem nodes_of_seats (roster : Roster) {nodes : List NodeId}
    (members : ∀ node ∈ nodes, roster.contains node = true) :
    (nodes.filterMap (Seat.take? roster)).map Seat.node = nodes := by
  induction nodes with
  | nil => rfl
  | cons node rest ih =>
      have taken : Seat.take? roster node = some ⟨roster, node, members node List.mem_cons_self⟩ :=
        dif_pos (members node List.mem_cons_self)
      rw [List.filterMap_cons_some taken, List.map_cons,
        ih fun node later => members node (List.mem_cons_of_mem _ later)]

@[simp] theorem nodes_seats (roster : Roster) : (seats roster).map Seat.node = roster.nodes := by
  apply nodes_of_seats
  intro node listed
  obtain ⟨entry, member, rfl⟩ := List.mem_map.mp listed
  exact Roster.contains_iff.mpr ⟨entry, member, rfl⟩

theorem roster_of_seat {roster : Roster} {seat : Seat} (listed : seat ∈ seats roster) : seat.roster = roster := by
  obtain ⟨node, _, taken⟩ := List.mem_filterMap.mp listed
  unfold Seat.take? at taken
  split at taken
  · cases taken
    rfl
  · simp at taken

end Network

namespace Creator

variable {σ : Type}

/-- A node takes no notice of events of its own as long as its last one has no number. -/
theorem register_of_unnumbered {creator : Creator} {last event : Event} (held : creator.lastSelfEvent = some last)
    (unnumbered : last.nGen = none) (own : event.creator = creator.seat.node) : creator.register event = creator := by
  rcases creator.register_cases event with same | ⟨_, _, newer, _⟩ | ⟨_, other, _⟩
  · exact same
  · rw [isNewerSelfEvent_of_unnumbered held unnumbered event] at newer
    exact Bool.noConfusion newer
  · exact absurd own other

def Lived (mode : AncientMode) (creator : Creator) : Prop :=
  ∃ settings, ∃ actions : List (Action Unit), (∀ window, Action.install window ∈ actions → window.mode = mode) ∧
    creator = ((Creator.start creator.seat mode settings).history actions).creator

theorem Lived.start (seat : Seat) (mode : AncientMode) (settings : CreationSettings) :
    Lived mode (.start seat mode settings) := ⟨settings, [], by simp, rfl⟩

theorem Lived.next {mode : AncientMode} {before after : Creator} (lived : Lived mode before) (action : Action Unit)
    (fits : ∀ window, action = .install window → window.mode = mode) (seat : after.seat = before.seat)
    (result : ∀ creations, after = (Chronicle.next ⟨before, creations⟩ action).creator) : Lived mode after := by
  obtain ⟨settings, actions, installs, equal⟩ := lived
  refine ⟨settings, actions ++ [action], ?_, ?_⟩
  · intro window listed
    rcases List.mem_append.mp listed with earlier | last
    · exact installs window earlier
    · exact fits window (List.mem_singleton.mp last).symm
  · have appended : (Creator.start after.seat mode settings).history (actions ++ [action]) =
        ((Creator.start before.seat mode settings).history actions).next action := by
      simp [history, seat]
    rw [appended]
    exact (result _).trans (congrArg (fun creator => (Chronicle.next ⟨creator, _⟩ action).creator) equal)

theorem Lived.register {mode : AncientMode} {creator : Creator} (lived : Lived mode creator) (event : Event) :
    Lived mode (creator.register event) :=
  lived.next (.register event) (by simp) (seat_register _ _) fun _ => rfl

theorem Lived.setWindow {mode : AncientMode} {creator : Creator} (lived : Lived mode creator) {window : EventWindow}
    (fits : window.mode = mode) : Lived mode (creator.setWindow window) := by
  apply lived.next (.install window)
  · intro other same
    cases same
    exact fits
  · rfl
  · exact fun _ => rfl

theorem Lived.attempt {mode : AncientMode} {creator : Creator} (lived : Lived mode creator)
    (surroundings : Surroundings Unit) (now : Instant) :
    Lived mode (creator.attempt surroundings now ()).creator := by
  apply lived.next (.attempt surroundings now ()) (by simp) (seat_attempt _ _ _ _)
  intro creations
  simp only [Chronicle.next]
  split
  · rfl
  · rfl

end Creator

theorem toNat_max (a b : UInt64) : (max a b).toNat = max a.toNat b.toNat := by
  simp only [max, UInt64.le_iff_toNat_le]
  split <;> omega

namespace Consensus

/-- What stays behind the latest round, or the first indicator, as a number. -/
def nextThreshold (consensus : Consensus) (latest : Round) : Nat :=
  max (match consensus.window.mode with
    | .birthRoundThreshold => latest.toNat - roundsNonAncient.toNat
    | .generationThreshold => consensus.maxGeneration.toNat - roundsNonAncient.toNat * consensus.rosterSize.toNat)
    consensus.window.mode.firstIndicator.toNat

theorem toNat_nextThreshold {consensus : Consensus} {latest : Round} {threshold : UInt64}
    (found : consensus.nextThreshold? latest = some threshold) :
    threshold.toNat = consensus.nextThreshold latest := by
  simp only [nextThreshold?, threshold?] at found
  unfold nextThreshold
  cases mode : consensus.window.mode with
  | birthRoundThreshold =>
      rw [mode] at found
      cases found
      rw [toNat_max, toNat_saturatingSub]
  | generationThreshold =>
      rw [mode] at found
      obtain ⟨behind, subtracted, rfl⟩ := Option.map_eq_some_iff.mp found
      obtain ⟨product, multiplied, rfl⟩ := Option.map_eq_some_iff.mp subtracted
      rw [toNat_max, toNat_saturatingSub, checkedMul_eq_some_iff.mp multiplied]

structure Moved (before after : Consensus) : Prop where
  latest : after.window.latestConsensusRound.toNat = before.window.latestConsensusRound.toNat + 1
  birthRound : after.window.newEventBirthRound.toNat = after.window.latestConsensusRound.toNat + 1
  threshold : after.window.ancientThreshold.toNat = before.nextThreshold after.window.latestConsensusRound
  mode : after.window.mode = before.window.mode
  maxGeneration : after.maxGeneration = before.maxGeneration
  rosterSize : after.rosterSize = before.rosterSize
  numbers : after.numbers = before.numbers.filter fun _ entry => !after.window.isAncient entry.1

theorem moved_of_advanceRound {before after : Consensus} (advanced : before.advanceRound = .ok after) :
    Moved before after := by
  simp only [advanceRound, nextWindow] at advanced
  split at advanced
  · cases advanced
  rename_i latest next
  split at advanced
  · rename_i threshold birth found later
    have first : latest.toNat = _ + 1 := checkedAdd_eq_some_iff.mp next
    have second : birth.toNat = _ + 1 := checkedAdd_eq_some_iff.mp later
    simp only [EventWindow.ofParts] at advanced
    split at advanced
    · cases advanced
    split at advanced
    · cases advanced
    cases advanced
    exact ⟨first, second, toNat_nextThreshold found, rfl, rfl, rfl, rfl⟩
  · cases advanced

theorem Moved.numbersBelow {before after : Consensus} (moved : Moved before after) {bound : Nat}
    (below : before.NumbersBelow bound) : after.NumbersBelow bound := by
  intro hash entry found
  rw [moved.numbers, Table.find?_filter, Option.filter_eq_some_iff] at found
  exact below hash entry found.1

end Consensus

/-! ### Steps of a network -/

namespace Network

open Creator (Agrees Extended Lived Made MayBuildOn)

@[simp] theorem creators_deliver (network : Network) (event : Event) :
    (network.deliver event []).creators = network.creators.map fun creator => creator.register event := by
  apply List.ext_getElem?
  intro place
  simp only [creators, deliver, List.not_mem_nil, if_false, List.getElem?_map, List.getElem?_mapIdx, Option.map_map]
  rfl

def numbered (network : Network) (event : Event) : Event := event.withNGen (network.consensus.nextNumber event)

@[simp] theorem descriptor_numbered (network : Network) (event : Event) :
    (network.numbered event).descriptor = event.descriptor := rfl

@[simp] theorem creator_numbered (network : Network) (event : Event) :
    (network.numbered event).creator = event.creator := rfl

@[simp] theorem parents_numbered (network : Network) (event : Event) :
    (network.numbered event).parents = event.parents := rfl

def told (network : Network) (event : Event) : Network :=
  { network with consensus := network.consensus.enter event (network.consensus.nextNumber event) }.deliver
    (network.numbered event) []

theorem creators_told (network : Network) (event : Event) :
    (network.told event).creators = network.creators.map fun creator => creator.register (network.numbered event) :=
  creators_deliver _ _

theorem publish_of_numbered {network : Network} {event : Event} {nGen : Generation}
    (found : network.consensus.nextNumber? event = some nGen) :
    network.publish event [] = (.ok (network.numbered event), network.told event) := by
  rw [publish, Consensus.order_of_numbered found, told, numbered, Consensus.nextNumber, found]
  rfl

def asked (network : Network) (position : Nat) (clock : Instant) (peer : Peer) : Network :=
  let attempt := peer.creator.attempt (noTransactions peer.signer) clock ()
  { network with clock := clock, peers := network.peers.set position { peer with creator := attempt.creator } }

theorem creators_asked (network : Network) (position : Nat) (clock : Instant) (peer : Peer) :
    (network.asked position clock peer).creators =
      network.creators.set position (peer.creator.attempt (noTransactions peer.signer) clock ()).creator := by
  simp [asked, creators, List.map_set]

/-- No two creators have one node, and consensus has a number for whatever they make. -/
structure Ready (network : Network) : Prop where
  apart : (network.creators.map fun creator => creator.seat.node).Nodup
  numbers : ∀ event, ∃ nGen, network.consensus.nextNumber? event = some nGen

theorem attempt_of_peer {network : Network} (ready : Ready network) {position : Nat} {clock : Instant} {peer : Peer}
    (moved : network.clock.plusMillis? 1 = some clock) (present : network.peers[position]? = some peer) :
    network.attempt position [] =
      match (peer.creator.attempt (noTransactions peer.signer) clock ()).outcome with
      | .ok (some event) =>
          (.ok (some (network.numbered event)), (network.asked position clock peer).told event)
      | outcome => (outcome, network.asked position clock peer) := by
  simp only [attempt, moved, present]
  split
  · rename_i failed
    simp [failed, asked]
  · rename_i nothing
    simp [nothing, asked]
  · rename_i event made
    obtain ⟨nGen, found⟩ := ready.numbers event
    have published : (network.asked position clock peer).publish event [] = _ := publish_of_numbered found
    simp only [made]
    rw [← asked, published]
    rfl

structure Spread (before : Network) (maker next : Creator) (event : Event) (after : Network) : Prop where
  listed : maker ∈ before.creators
  clock : before.clock.plusMillis? 1 = some after.clock
  built : ∃ signer other, MayBuildOn maker other ∧ Made maker (noTransactions signer) after.clock other event ∧
    (maker.attempt (noTransactions signer) after.clock ()).outcome = .ok (some event) ∧
    next = (maker.attempt (noTransactions signer) after.clock ()).creator
  extended : Extended maker event next
  number : before.consensus.nextNumber? event = some (before.consensus.nextNumber event)
  consensus : after.consensus = before.consensus.enter event (before.consensus.nextNumber event)
  seats : after.creators.map Creator.seat = before.creators.map Creator.seat
  creators : ∀ creator ∈ after.creators, creator = next ∨
    ∃ old ∈ before.creators, old.seat.node ≠ maker.seat.node ∧
      creator = old.register (before.numbered event)

structure Idle (before after : Network) : Prop where
  clock : before.clock.nanos ≤ after.clock.nanos
  consensus : after.consensus = before.consensus
  seats : after.creators.map Creator.seat = before.creators.map Creator.seat
  creators : ∀ creator ∈ after.creators, ∃ old ∈ before.creators, Agrees old creator ∧
    (creator = old ∨ ∃ signer, creator = (old.attempt (noTransactions signer) after.clock ()).creator)

theorem nanos_of_plusMillis? {before after : Instant} (moved : before.plusMillis? 1 = some after) :
    after.nanos = before.nanos + 1000000 := by
  simpa [Instant.plusMillis?, Instant.plus?, Instant.ofNanos?_eq_some] using moved

theorem Idle.of_creators {before after : Network} (clock : before.clock.nanos ≤ after.clock.nanos)
    (consensus : after.consensus = before.consensus) (creators : after.creators = before.creators) :
    Idle before after where
  clock := clock
  consensus := consensus
  seats := by rw [creators]
  creators := by
    intro creator listed
    rw [creators] at listed
    exact ⟨creator, listed, .refl creator, Or.inl rfl⟩

theorem mem_set_cases {creators : List Creator} {position : Nat} {maker next creator : Creator}
    (apart : (creators.map fun creator => creator.seat.node).Nodup) (placed : creators[position]? = some maker)
    (listed : creator ∈ creators.set position next) :
    creator = next ∨ (creator ∈ creators ∧ creator.seat.node ≠ maker.seat.node) := by
  obtain ⟨place, found⟩ := List.mem_iff_getElem?.mp listed
  rw [List.getElem?_set] at found
  split at found
  · split at found
    · exact Or.inl (Option.some.inj found).symm
    · simp at found
  · rename_i elsewhere
    -- A creator of the maker's node would stand at the position that was set.
    refine Or.inr ⟨List.mem_of_getElem? found, ?_⟩
    intro same
    obtain ⟨bound, _⟩ := List.getElem?_eq_some_iff.mp placed
    apply elsewhere
    apply (List.getElem?_inj (by simpa using bound) apart).mp
    simp [placed, found, same]

theorem seats_asked {network : Network} {position : Nat} {peer : Peer} (clock : Instant)
    (placed : network.creators[position]? = some peer.creator) :
    (network.asked position clock peer).creators.map Creator.seat = network.creators.map Creator.seat := by
  rw [creators_asked, List.map_set, Creator.seat_attempt]
  apply List.ext_getElem?
  intro place
  obtain ⟨bound, found⟩ := List.getElem?_eq_some_iff.mp placed
  rw [List.getElem?_set]
  split
  · rename_i same
    subst same
    simp [bound, found]
  · rfl

section Asked

variable {network : Network} {position : Nat} {clock : Instant} {peer : Peer} (ready : Ready network)
  (placed : network.creators[position]? = some peer.creator) (moved : network.clock.plusMillis? 1 = some clock)
include ready placed moved

theorem spread_asked {other : Option Event} {event : Event}
    (created : (peer.creator.attempt (noTransactions peer.signer) clock ()).outcome = .ok (some event))
    (may : MayBuildOn peer.creator other) (made : Made peer.creator (noTransactions peer.signer) clock other event)
    (extended : Extended peer.creator event (peer.creator.attempt (noTransactions peer.signer) clock ()).creator) :
    Spread network peer.creator (peer.creator.attempt (noTransactions peer.signer) clock ()).creator event
      ((network.asked position clock peer).told event) where
  listed := List.mem_of_getElem? placed
  clock := moved
  built := ⟨peer.signer, other, may, made, created, rfl⟩
  extended := extended
  number := by
    obtain ⟨nGen, found⟩ := ready.numbers event
    rw [Consensus.nextNumber, found]
    rfl
  consensus := rfl
  seats := by
    rw [creators_told, List.map_map, ← seats_asked clock placed]
    simp
  creators := by
    intro creator present
    rw [creators_told, List.mem_map] at present
    obtain ⟨old, among, rfl⟩ := present
    rw [creators_asked] at among
    rcases mem_set_cases ready.apart placed among with rfl | ⟨kept, elsewhere⟩
    · left
      apply Creator.register_of_unnumbered extended.lastSelfEvent made.nGen
      exact made.creator.trans (congrArg Seat.node (Creator.seat_attempt ..).symm)
    · exact Or.inr ⟨old, kept, elsewhere, rfl⟩

theorem idle_asked
    (agrees : Agrees peer.creator (peer.creator.attempt (noTransactions peer.signer) clock ()).creator) :
    Idle network (network.asked position clock peer) where
  clock := by
    have later := nanos_of_plusMillis? moved
    change network.clock.nanos ≤ clock.nanos
    omega
  consensus := rfl
  seats := seats_asked clock placed
  creators := by
    intro creator present
    rw [creators_asked] at present
    rcases mem_set_cases ready.apart placed present with rfl | ⟨kept, _⟩
    · exact ⟨peer.creator, List.mem_of_getElem? placed, agrees, Or.inr ⟨peer.signer, rfl⟩⟩
    · exact ⟨creator, kept, .refl creator, Or.inl rfl⟩

end Asked

theorem attempt_cases {network : Network} (ready : Ready network) (position : Nat) :
    (∃ maker next event, network.creators[position]? = some maker ∧
        (network.attempt position []).1 = .ok (some (network.numbered event)) ∧
        Spread network maker next event (network.attempt position []).2) ∨
      ((∀ event, (network.attempt position []).1 ≠ .ok (some event)) ∧
        Idle network (network.attempt position []).2) := by
  cases moved : network.clock.plusMillis? 1 with
  | none =>
      refine Or.inr ⟨by simp [attempt, moved], ?_⟩
      simp only [attempt, moved]
      exact .of_creators (Int.le_refl _) rfl rfl
  | some clock =>
      cases present : network.peers[position]? with
      | none =>
          have later := nanos_of_plusMillis? moved
          refine Or.inr ⟨by simp [attempt, moved, present], ?_⟩
          simp only [attempt, moved, present]
          exact .of_creators (by simp only; omega) rfl rfl
      | some peer =>
          have placed : network.creators[position]? = some peer.creator := by simp [creators, present]
          rw [attempt_of_peer ready moved present]
          rcases peer.creator.attempt_cases (noTransactions peer.signer) clock () with
            ⟨other, event, created, may, made, extended⟩ | ⟨refused, agrees⟩
          · left
            have spread := spread_asked ready placed moved created may made extended
            simp only [created]
            exact ⟨_, _, event, placed, rfl, spread⟩
          · right
            split
            · rename_i event created
              exact absurd created (refused event)
            · exact ⟨refused, idle_asked ready placed moved agrees⟩

structure Turned (before after : Network) : Prop where
  consensus : before.consensus.advanceRound = .ok after.consensus
  clock : after.clock = before.clock
  creators : after.creators = before.creators.map fun creator => creator.setWindow after.consensus.window

theorem Turned.of_advanceRound {before after : Network} (advanced : before.advanceRound = .ok after) :
    Turned before after := by
  unfold advanceRound at advanced
  cases result : before.consensus.advanceRound with
  | error fault =>
      rw [result] at advanced
      cases advanced
  | ok consensus =>
      rw [result] at advanced
      cases advanced
      exact ⟨result, rfl, by simp [Network.creators]⟩

namespace Course

theorem next_attempt_cases {course : Course} (ready : Ready course.network) (position : Nat) :
    (∃ maker next event, course.network.creators[position]? = some maker ∧
        Spread course.network maker next event (course.next (.attempt position)).network ∧
        (course.next (.attempt position)).created = course.network.numbered event :: course.created) ∨
      ((∀ event, (course.network.attempt position []).1 ≠ .ok (some event)) ∧
        Idle course.network (course.next (.attempt position)).network ∧
        (course.next (.attempt position)).created = course.created) := by
  rcases attempt_cases ready position with
    ⟨maker, next, event, placed, created, spread⟩ | ⟨refused, idle⟩
  · left
    have result : course.next (.attempt position) =
        ⟨(course.network.attempt position []).2, course.network.numbered event :: course.created⟩ := by
      rw [Course.next, ← Prod.mk.eta (p := course.network.attempt position []), created]
    rw [result]
    exact ⟨maker, next, event, placed, spread, rfl⟩
  · right
    have result : course.next (.attempt position) = ⟨(course.network.attempt position []).2, course.created⟩ := by
      rw [Course.next]
      split
      · rename_i event network created
        exact absurd (congrArg Prod.fst created) (refused event)
      · rename_i outcome network equal
        rw [equal]
    rw [result]
    exact ⟨refused, idle, rfl⟩

theorem next_cases {course : Course} (ready : Ready course.network) (move : Move) :
    (∃ maker next event, Spread course.network maker next event (course.next move).network ∧
        (course.next move).created = course.network.numbered event :: course.created) ∨
      ((course.next move).created = course.created ∧
        (Idle course.network (course.next move).network ∨ Turned course.network (course.next move).network)) := by
  cases move with
  | attempt position =>
      rcases next_attempt_cases ready position with
        ⟨maker, next, event, _, spread, created⟩ | ⟨_, idle, created⟩
      · exact Or.inl ⟨maker, next, event, spread, created⟩
      · exact Or.inr ⟨created, Or.inl idle⟩
  | round =>
      right
      unfold Course.next
      simp only
      split
      · rename_i network advanced
        exact ⟨rfl, Or.inr (.of_advanceRound advanced)⟩
      · exact ⟨rfl, Or.inl (.of_creators (Int.le_refl _) rfl rfl)⟩

end Course

/-! ### Runs -/

structure Sound (roster : Roster) (mode : AncientMode) (network : Network) : Prop where
  seats : network.creators.map Creator.seat = Network.seats roster
  inMode : network.consensus.window.mode = mode
  windows : ∀ creator ∈ network.creators, creator.window = network.consensus.window
  lived : ∀ creator ∈ network.creators, Lived mode creator
  paced : ∃ bound : Nat, network.consensus.NumbersBelow bound ∧ (bound : Int) * 1000000 ≤ network.clock.nanos

section Sound

variable {roster : Roster} {mode : AncientMode} {before after : Network}

theorem Sound.nodes (sound : Sound roster mode before) :
    (before.creators.map fun creator => creator.seat.node) = roster.nodes := by
  rw [← nodes_seats, ← sound.seats, List.map_map]
  rfl

theorem Sound.ready (sound : Sound roster mode before) : Ready before where
  apart := by
    rw [sound.nodes]
    exact roster.distinct
  numbers := by
    intro event
    -- Each number has taken a millisecond, and the calendar ends before there are too many.
    obtain ⟨bound, below, paced⟩ := sound.paced
    have latest := before.clock.le_latest
    have range : bound < UInt64.size := by
      simp only [UInt64.size]
      omega
    obtain ⟨nGen, found, _⟩ := below.exists_nextNumber range event
    exact ⟨nGen, found⟩

theorem Sound.roster_of_mem (sound : Sound roster mode before) {creator : Creator}
    (listed : creator ∈ before.creators) : creator.seat.roster = roster := by
  apply roster_of_seat
  rw [← sound.seats]
  exact List.mem_map_of_mem listed

theorem Sound.startEach (roster : Roster) (mode : AncientMode) (settings : NodeId → CreationSettings)
    (signer : NodeId → Signer) : Sound roster mode (startEach roster mode settings signer) := by
  have creators : (Network.startEach roster mode settings signer).creators =
      (Network.seats roster).map fun seat => .start seat mode (settings seat.node) := by
    simp [Network.startEach, Network.creators]
  constructor
  case seats =>
    rw [creators, List.map_map]
    exact List.map_id _
  case inMode => rfl
  case windows =>
    intro creator listed
    rw [creators] at listed
    obtain ⟨seat, _, rfl⟩ := List.mem_map.mp listed
    rfl
  case lived =>
    intro creator listed
    rw [creators] at listed
    obtain ⟨seat, _, rfl⟩ := List.mem_map.mp listed
    exact .start seat mode (settings seat.node)
  case paced => exact ⟨0, by simp [Consensus.NumbersBelow, Network.startEach, Consensus.start], Int.le_refl _⟩

theorem Sound.spread (sound : Sound roster mode before) {maker next : Creator} {event : Event}
    (spread : Spread before maker next event after) : Sound roster mode after := by
  have window : after.consensus.window = before.consensus.window := by
    rw [spread.consensus]
    rfl
  constructor
  case seats => exact spread.seats.trans sound.seats
  case inMode => rw [window, sound.inMode]
  case windows =>
    intro creator listed
    rw [window]
    rcases spread.creators creator listed with rfl | ⟨old, among, _, rfl⟩
    · rw [← sound.windows maker spread.listed]
      exact spread.extended.window
    · rw [Creator.window_register]
      exact sound.windows old among
  case lived =>
    intro creator listed
    rcases spread.creators creator listed with rfl | ⟨old, among, _, rfl⟩
    · obtain ⟨signer, _, _, _, _, rfl⟩ := spread.built
      exact (sound.lived maker spread.listed).attempt _ _
    · exact (sound.lived old among).register _
  case paced =>
    obtain ⟨bound, below, paced⟩ := sound.paced
    have later := nanos_of_plusMillis? spread.clock
    have latest := before.clock.le_latest
    obtain ⟨nGen, found, low⟩ := below.exists_nextNumber (by simp only [UInt64.size]; omega) event
    cases spread.number.symm.trans found
    refine ⟨bound + 1, ?_, ?_⟩
    · rw [spread.consensus]
      exact below.enter (Nat.le_succ bound) event (Nat.lt_succ_of_le low)
    · push_cast
      omega

theorem Sound.idle (sound : Sound roster mode before) (idle : Idle before after) : Sound roster mode after := by
  constructor
  case seats => exact idle.seats.trans sound.seats
  case inMode => rw [idle.consensus, sound.inMode]
  case windows =>
    intro creator listed
    obtain ⟨old, among, agrees, _⟩ := idle.creators creator listed
    rw [Creator.window, agrees.ancestry, idle.consensus]
    exact sound.windows old among
  case lived =>
    intro creator listed
    obtain ⟨old, among, _, rfl | ⟨signer, rfl⟩⟩ := idle.creators creator listed
    · exact sound.lived _ among
    · exact (sound.lived old among).attempt _ _
  case paced =>
    obtain ⟨bound, below, paced⟩ := sound.paced
    rw [idle.consensus]
    exact ⟨bound, below, Int.le_trans paced idle.clock⟩

theorem Sound.turned (sound : Sound roster mode before) (turned : Turned before after) :
    Sound roster mode after := by
  have kept : after.consensus.window.mode = mode := by
    rw [(Consensus.moved_of_advanceRound turned.consensus).mode, sound.inMode]
  constructor
  case seats =>
    rw [turned.creators, List.map_map, ← sound.seats]
    rfl
  case inMode => exact kept
  case windows =>
    intro creator listed
    rw [turned.creators, List.mem_map] at listed
    obtain ⟨old, _, rfl⟩ := listed
    rfl
  case lived =>
    intro creator listed
    rw [turned.creators, List.mem_map] at listed
    obtain ⟨old, among, rfl⟩ := listed
    exact (sound.lived old among).setWindow kept
  case paced =>
    obtain ⟨bound, below, paced⟩ := sound.paced
    rw [turned.clock]
    exact ⟨bound, (Consensus.moved_of_advanceRound turned.consensus).numbersBelow below, paced⟩

theorem Sound.next {course : Course} (sound : Sound roster mode course.network) (move : Move) :
    Sound roster mode (course.next move).network := by
  rcases Course.next_cases sound.ready move with ⟨_, _, _, spread, _⟩ | ⟨_, idle | turned⟩
  · exact sound.spread spread
  · exact sound.idle idle
  · exact sound.turned turned

theorem sound_course (roster : Roster) (mode : AncientMode) (settings : NodeId → CreationSettings)
    (signer : NodeId → Signer) (moves : List Move) :
    Sound roster mode ((startEach roster mode settings signer).course moves).network := by
  apply List.foldlRecOn moves Course.next (motive := fun course => Sound roster mode course.network)
  · exact .startEach roster mode settings signer
  · exact fun course sound move _ => sound.next move

end Sound

end Network

/-! ### Simulations -/

namespace Simulation

open Network (Course Move)

theorem step_eq_ok {simulation after : Simulation} {stepsPerRound number : Nat}
    (done : simulation.step stepsPerRound number = .ok after) :
    ∃ event network, simulation.network.attempt
        (simulation.schedule.below64 simulation.network.peers.length).1 [] = (.ok event, network) ∧
      after.created = simulation.created + event.toList.length ∧
      (after.network = network ∨ network.advanceRound = .ok after.network) := by
  simp only [Simulation.step] at done
  cases outcome : simulation.network.attempt
      (simulation.schedule.below64 simulation.network.peers.length).1 [] with
  | mk result network =>
      rw [outcome] at done
      cases result with
      | error fault => cases done
      | ok event =>
          refine ⟨event, network, rfl, ?_⟩
          have counted : (if event.isSome then simulation.created + 1 else simulation.created) =
              simulation.created + event.toList.length := by
            cases event <;> rfl
          simp only [counted] at done
          split at done
          · cases turned : network.advanceRound with
            | error fault =>
                rw [turned] at done
                cases done
            | ok later =>
                rw [turned] at done
                cases done
                exact ⟨rfl, Or.inr rfl⟩
          · cases done
            exact ⟨rfl, Or.inl rfl⟩

structure Follows (simulation : Simulation) (course : Course) : Prop where
  network : simulation.network = course.network
  created : simulation.created = course.created.length

theorem Follows.step {simulation after : Simulation} {course : Course} (follows : Follows simulation course)
    {stepsPerRound number : Nat} (done : simulation.step stepsPerRound number = .ok after) :
    ∃ moves : List Move, Follows after (moves.foldl Course.next course) := by
  obtain ⟨event, network, outcome, created, rounds⟩ := step_eq_ok done
  rw [follows.created] at created
  rw [follows.network] at outcome
  generalize (simulation.schedule.below64 course.network.peers.length).1 = position at outcome
  have tried : course.next (.attempt position) = ⟨network, event.toList ++ course.created⟩ := by
    cases event <;> simp [Course.next, outcome]
  have counted : after.created = (event.toList ++ course.created).length := by
    rw [created, List.length_append, Nat.add_comm]
  rcases rounds with same | turned
  · refine ⟨[.attempt position], ?_⟩
    rw [List.foldl_cons, List.foldl_nil, tried]
    exact ⟨same, counted⟩
  · refine ⟨[.attempt position, .round], ?_⟩
    rw [List.foldl_cons, List.foldl_cons, List.foldl_nil, tried, Course.next, turned]
    exact ⟨rfl, counted⟩

theorem Follows.steps {simulation after : Simulation} {course : Course} (follows : Follows simulation course)
    {stepsPerRound last remaining : Nat}
    (done : Simulation.steps stepsPerRound last remaining simulation = .ok after) :
    ∃ moves : List Move, Follows after (moves.foldl Course.next course) := by
  induction remaining generalizing simulation course with
  | zero =>
      cases done
      exact ⟨[], follows⟩
  | succ remaining ih =>
      rw [Simulation.steps] at done
      cases result : simulation.step stepsPerRound (last - remaining) with
      | error fault =>
          rw [result] at done
          cases done
      | ok next =>
          rw [result] at done
          obtain ⟨moves, first⟩ := follows.step result
          obtain ⟨later, rest⟩ := ih first done
          refine ⟨moves ++ later, ?_⟩
          rw [List.foldl_append]
          exact rest

theorem exists_course {settings : SimulationSettings} {roster : Roster} {stepsPerRound last count : Nat}
    {simulation : Simulation}
    (done : Simulation.steps stepsPerRound last count (start settings roster) = .ok simulation) :
    ∃ ownSettings signer moves,
      Follows simulation ((Network.startEach roster settings.mode ownSettings signer).course moves) := by
  have begun : Follows (start settings roster) ⟨(start settings roster).network, []⟩ := ⟨rfl, rfl⟩
  obtain ⟨moves, follows⟩ := begun.steps done
  exact ⟨fun node => { settings.creation with seed := settings.seed + node.number },
    fun node => .ed25519 (.ofMaster (masterSeed settings.seed) node), moves, follows⟩

end Simulation

end Hashgraph
