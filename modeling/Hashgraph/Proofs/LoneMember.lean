import Hashgraph.Proofs.SimulationRun

/-! Simulations with a single node. It may always build on its own last event, which its next event names twice,
and however far rounds and generations have come the next event is not ancient: so every attempt makes one. -/

namespace Hashgraph

namespace Network

open Creator (MayBuildOn)

def last (network : Network) : Option EventDescriptor := network.creators.head?.bind Creator.lastDescriptor

theorem last_startEach (roster : Roster) (mode : AncientMode) (settings : NodeId → CreationSettings)
    (signer : NodeId → Signer) : (startEach roster mode settings signer).last = none := by
  simp only [last, creators, startEach, List.map_map, List.head?_map]
  cases (seats roster).head? <;> rfl

theorem Turned.last {before after : Network} (turned : Turned before after) : after.last = before.last := by
  rw [Network.last, Network.last, turned.creators, List.head?_map]
  cases before.creators.head? <;> rfl

section Single

variable {roster : Roster} {mode : AncientMode} {attempts rounds : Nat} {before after : Network}

theorem Regular.single_spread (regular : Regular roster mode attempts rounds before) (alone : roster.size = 1)
    {maker next : Creator} {event : Event} (spread : Spread before maker next event after) :
    event.selfParent = before.last ∧ event.otherParents = before.last.toList ∧
      after.last = some event.descriptor := by
  have seated := regular.sound.roster_of_mem spread.listed
  have remembered : before.last = maker.lastDescriptor := by
    obtain ⟨only, whole⟩ := regular.sound.exists_only alone
    have member := spread.listed
    rw [whole, List.mem_singleton] at member
    rw [last, whole, member]
    rfl
  obtain ⟨_, _, may, made, _, _⟩ := spread.built
  refine ⟨made.selfParent.trans remembered.symm, ?_, ?_⟩
  · rw [made.otherParents, remembered]
    cases may with
    | alone _ => rfl
    | candidate several _ _ => exact absurd (seated ▸ alone) several
    | first several _ _ => exact absurd (seated ▸ alone) several
  · obtain ⟨only, whole⟩ := (regular.sound.spread spread).exists_only alone
    have same := spread.eq_next regular.sound alone only (by simp [whole])
    rw [last, whole, same, List.head?_cons, Option.bind_some, Creator.lastDescriptor, spread.extended.lastSelfEvent]
    rfl

theorem Regular.single_attempt (regular : Regular roster mode attempts rounds before) (alone : roster.size = 1)
    {position : Nat} {peer : Peer} (present : before.peers[position]? = some peer)
    (timed : (before.clock.plusMillis? 1).isSome = true) :
    ∃ event, (before.attempt position []).1 = .ok (some event) ∧ event.selfParent = before.last ∧
      event.otherParents = before.last.toList ∧ (before.attempt position []).2.last = some event.descriptor := by
  obtain ⟨clock, moved⟩ := Option.isSome_iff_exists.mp timed
  have listed : peer.creator ∈ before.creators := List.mem_map_of_mem (List.mem_of_getElem? present)
  rcases attempt_cases regular.sound.ready position with
    ⟨maker, next, event, _, created, spread⟩ | ⟨refused, _⟩
  · obtain ⟨selfParent, otherParents, last⟩ := regular.single_spread alone spread
    exact ⟨before.numbered event, created, selfParent, otherParents, last⟩
  · have may : MayBuildOn peer.creator peer.creator.lastSelfEvent :=
      .alone (regular.sound.roster_of_mem listed ▸ alone)
    rcases regular.outcome listed moved (noTransactions peer.signer) with ⟨event, created⟩ | ⟨nobody, _⟩
    · apply absurd _ (refused (before.numbered event))
      rw [attempt_of_peer regular.sound.ready moved present, created]
    · exact absurd may (nobody _)

end Single

end Network

namespace Simulation

def attempted (simulation : Simulation) : Option Event :=
  (simulation.network.attempt (simulation.schedule.below64 simulation.network.peers.length).1 []).1.toOption.join

def made (stepsPerRound last : Nat) : Nat → Simulation → List Event
  | 0, _ => []
  | remaining + 1, simulation =>
      simulation.attempted.toList ++
        match simulation.step stepsPerRound (last - remaining) with
        | .ok next => made stepsPerRound last remaining next
        | .error _ => []

theorem created_of_step {simulation after : Simulation} {stepsPerRound number : Nat}
    (done : simulation.step stepsPerRound number = .ok after) :
    after.created = simulation.created + simulation.attempted.toList.length := by
  obtain ⟨event, network, outcome, created, _⟩ := step_eq_ok done
  rw [created, attempted, outcome]
  rfl

theorem last_of_step {simulation after : Simulation} {stepsPerRound number : Nat}
    (done : simulation.step stepsPerRound number = .ok after) :
    after.network.last = (simulation.network.attempt
      (simulation.schedule.below64 simulation.network.peers.length).1 []).2.last := by
  obtain ⟨event, network, outcome, _, same | turned⟩ := step_eq_ok done
  · rw [outcome, same]
  · rw [outcome, (Network.Turned.of_advanceRound turned).last]

theorem created_of_steps {stepsPerRound last remaining : Nat} {simulation after : Simulation}
    (done : Simulation.steps stepsPerRound last remaining simulation = .ok after) :
    after.created = simulation.created + (made stepsPerRound last remaining simulation).length := by
  induction remaining generalizing simulation with
  | zero =>
      cases done
      rfl
  | succ remaining ih =>
      rw [Simulation.steps] at done
      rw [made, List.length_append]
      cases result : simulation.step stepsPerRound (last - remaining) with
      | error fault =>
          rw [result] at done
          cases done
      | ok next =>
          rw [result] at done
          have later := ih done
          have first := created_of_step result
          simp only
          omega

section Behind

variable {roster : Roster} {mode : AncientMode} {stepsPerRound : Nat} {simulation : Simulation}

theorem Behind.attempted_of_single {attempts : Nat} (behind : Behind roster mode stepsPerRound attempts simulation)
    (alone : roster.size = 1) (timed : (simulation.network.clock.plusMillis? 1).isSome = true) :
    ∃ event, simulation.attempted = some event ∧ event.selfParent = simulation.network.last ∧
      event.otherParents = simulation.network.last.toList ∧
      ∀ number after, simulation.step stepsPerRound number = .ok after →
        after.network.last = some event.descriptor := by
  obtain ⟨peer, present⟩ := behind.exists_peer
  obtain ⟨event, created, selfParent, otherParents, last⟩ := behind.regular.single_attempt alone present timed
  refine ⟨event, by rw [attempted, created]; rfl, selfParent, otherParents, ?_⟩
  intro number after done
  rw [last_of_step done, last]

theorem Behind.made_of_single {last remaining : Nat} (alone : roster.size = 1) (bound : remaining ≤ last)
    (behind : Behind roster mode stepsPerRound (last - remaining) simulation)
    (range : (Instant.epoch.plusMillis? last).isSome = true) :
    let events := made stepsPerRound last remaining simulation
    events.length = remaining ∧
      (∀ first ∈ events.head?, first.selfParent = simulation.network.last ∧
        first.otherParents = simulation.network.last.toList) ∧
      events.IsChain fun earlier later =>
        later.selfParent = some earlier.descriptor ∧ later.otherParents = [earlier.descriptor] := by
  induction remaining generalizing simulation with
  | zero => exact ⟨rfl, by simp [made], List.IsChain.nil⟩
  | succ remaining ih =>
      have timed := Network.isSome_plusMillis? behind.regular.clock (by omega) range
      obtain ⟨event, attempted, selfParent, otherParents, remembers⟩ := behind.attempted_of_single alone timed
      obtain ⟨next, done, further⟩ := behind.step timed
      have number : last - (remaining + 1) + 1 = last - remaining := by omega
      rw [number] at done further
      obtain ⟨length, first, chain⟩ := ih (by omega) further
      have whole : made stepsPerRound last (remaining + 1) simulation =
          event :: made stepsPerRound last remaining next := by
        simp [made, attempted, done]
      rw [whole]
      refine ⟨by rw [List.length_cons, length], ?_, List.isChain_cons.mpr ⟨?_, chain⟩⟩
      · intro head named
        cases named
        exact ⟨selfParent, otherParents⟩
      · intro later named
        have follows := first later named
        rw [remembers _ next done] at follows
        exact follows

end Behind

/-- As long as the clock stays within the calendar, every attempt of a network with a single node makes an event,
and each event but the first names the one before it as its self-parent and as its only other-parent. -/
theorem single_member_is_never_blocked (settings : SimulationSettings) (single : settings.nodes = 1)
    (weightless : settings.zeroWeightNodes = 0) (range : (Instant.epoch.plusMillis? settings.steps).isSome = true) :
    ∃ roster report, Simulation.roster settings = .ok roster ∧ run settings = .ok report ∧
      report.eventsCreated = settings.steps ∧
      let events := made settings.stepsPerRound settings.steps settings.steps (start settings roster)
      events.length = settings.steps ∧ (∀ first ∈ events.head?, first.parents = []) ∧
        events.IsChain fun earlier later =>
          later.selfParent = some earlier.descriptor ∧ later.otherParents = [earlier.descriptor] := by
  have numbered : settings.nodes + settings.zeroWeightNodes < UInt64.size := by
    rw [single, weightless]
    decide
  obtain ⟨roster, accepted, nodes⟩ := exists_roster (by omega) numbered
  have alone : roster.size = 1 := by rw [size_of_nodes nodes, single, weightless]
  have begun := Behind.start settings roster settings.stepsPerRound fun _ => by rw [alone]; decide
  rw [← Nat.sub_self settings.steps] at begun
  obtain ⟨simulation, done, _⟩ := begun.steps (Nat.le_refl _) range
  obtain ⟨length, first, chain⟩ := begun.made_of_single alone (Nat.le_refl _) range
  have counted := created_of_steps done
  refine ⟨roster, _, accepted, run_of_steps (by omega) accepted done, ?_, length, ?_, chain⟩
  · rw [length] at counted
    exact counted.trans (Nat.zero_add _)
  · intro event named
    obtain ⟨selfParent, otherParents⟩ := first event named
    rw [network_start, Network.last_startEach] at selfParent otherParents
    have content : event.parents = event.selfParent.toList ++ event.otherParents := rfl
    rw [content, selfParent, otherParents]
    rfl

def loneSettings : SimulationSettings := ⟨1, 0, 5, 2, 0, .generationThreshold, .default⟩

theorem loneSettings_make_five_events :
    ∃ roster report, Simulation.roster loneSettings = .ok roster ∧ run loneSettings = .ok report ∧
      report.eventsCreated = 5 ∧
      let events := made 2 5 5 (start loneSettings roster)
      events.length = 5 ∧ (∀ first ∈ events.head?, first.parents = []) ∧
        events.IsChain fun earlier later =>
          later.selfParent = some earlier.descriptor ∧ later.otherParents = [earlier.descriptor] :=
  single_member_is_never_blocked loneSettings rfl rfl (by decide)

end Simulation

end Hashgraph
