import Hashgraph.Proofs.NetworkLiveness
import Hashgraph.Proofs.RosterEntries
import Hashgraph.Proofs.Tallies
import Hashgraph.Proofs.Youth

/-! Whole simulations. Their rosters are valid, every draw of a node is a member, and neither an attempt nor a
round fails, so a simulation always ends with a report, in which all attempts and rounds are accounted for. -/

namespace Hashgraph

namespace Roster

theorem weightSum_le_length {entries : List RosterEntry} (light : ∀ entry ∈ entries, entry.weight.toNat ≤ 1) :
    weightSum entries ≤ entries.length := by
  induction entries with
  | nil => exact Nat.le_refl _
  | cons first rest ih =>
      have own := light first List.mem_cons_self
      have others := ih fun entry later => light entry (List.mem_cons_of_mem _ later)
      simp only [weightSum, List.length_cons]
      omega

end Roster

namespace Simulation

open Network (Balanced Regular)

def members (settings : SimulationSettings) : List NodeId :=
  (List.range (settings.nodes + settings.zeroWeightNodes)).map fun number => ⟨number.toUInt64⟩

theorem nodup_members {settings : SimulationSettings}
    (numbered : settings.nodes + settings.zeroWeightNodes < UInt64.size) : (members settings).Nodup := by
  rw [members, List.Nodup, List.pairwise_map]
  apply List.Pairwise.imp_of_mem _ List.nodup_range
  intro a b listedA listedB different same
  rw [List.mem_range] at listedA listedB
  have numbers := congrArg (fun node : NodeId => node.number.toNat) same
  simp only [Nat.toUInt64_eq, UInt64.toNat_ofNat'] at numbers
  simp only [UInt64.size] at numbered
  exact different (by omega)

theorem exists_roster {settings : SimulationSettings} (inhabited : 0 < settings.nodes)
    (numbered : settings.nodes + settings.zeroWeightNodes < UInt64.size) :
    ∃ roster, Simulation.roster settings = .ok roster ∧ roster.nodes = members settings := by
  unfold Simulation.roster
  generalize equal : ((List.range (settings.nodes + settings.zeroWeightNodes)).map fun number =>
    (⟨⟨number.toUInt64⟩, if number < settings.nodes then 1 else 0⟩ : RosterEntry)) = entries
  have length : entries.length = settings.nodes + settings.zeroWeightNodes := by simp [← equal]
  have nodes : entries.map RosterEntry.node = members settings := by
    rw [← equal, List.map_map]
    rfl
  have light : ∀ entry ∈ entries, entry.weight.toNat ≤ 1 := by
    intro entry listed
    rw [← equal, List.mem_map] at listed
    obtain ⟨number, _, rfl⟩ := listed
    simp only
    split <;> decide
  have some_ : entries ≠ [] := List.ne_nil_of_length_pos (by omega)
  have weight := Roster.weightSum_le_length light
  have bounded : Roster.weightSum entries < UInt64.size := by omega
  obtain ⟨roster, accepted⟩ :=
    Roster.exists_ofEntries_iff.mpr ⟨some_, nodes ▸ nodup_members numbered, bounded⟩
  exact ⟨roster, accepted, by rw [Roster.nodes, Roster.entries_of_ofEntries accepted, nodes]⟩

theorem size_of_nodes {settings : SimulationSettings} {roster : Roster} (nodes : roster.nodes = members settings) :
    roster.size = settings.nodes + settings.zeroWeightNodes := by
  have length := congrArg List.length nodes
  simpa [Roster.nodes, Roster.size, members] using length

theorem isRoundEnd_iff (stepsPerRound step : Nat) :
    isRoundEnd stepsPerRound (step + 1) = true ↔ stepsPerRound ∣ step + 1 := by
  rw [isRoundEnd, Bool.and_eq_true, decide_eq_true_eq, decide_eq_true_eq, Nat.dvd_iff_mod_eq_zero]
  constructor
  · exact fun ends => ends.2
  · intro ends
    refine ⟨?_, ends⟩
    by_contra none_
    have zero : stepsPerRound = 0 := by omega
    simp [zero] at ends

structure Behind (roster : Roster) (mode : AncientMode) (stepsPerRound attempts : Nat) (simulation : Simulation) :
    Prop where
  regular : Regular roster mode attempts (attempts / stepsPerRound) simulation.network
  balanced : Balanced simulation.created attempts simulation.network

section Behind

variable {roster : Roster} {mode : AncientMode} {stepsPerRound attempts : Nat} {simulation : Simulation}

theorem network_start (settings : SimulationSettings) (roster : Roster) :
    (start settings roster).network = Network.startEach roster settings.mode
      (fun node => { settings.creation with seed := settings.seed + node.number })
      fun node => .ed25519 (.ofMaster (masterSeed settings.seed) node) := rfl

theorem Behind.start (settings : SimulationSettings) (roster : Roster) (stepsPerRound : Nat)
    (fits : settings.mode = .generationThreshold → roundsNonAncient.toNat * roster.size < UInt64.size) :
    Behind roster settings.mode stepsPerRound 0 (start settings roster) := by
  constructor
  · rw [Nat.zero_div, network_start]
    exact .startEach roster settings.mode _ _ fits
  · rw [network_start]
    exact .start roster settings.mode _ _

theorem Behind.exists_peer (behind : Behind roster mode stepsPerRound attempts simulation) :
    ∃ peer, simulation.network.peers[(simulation.schedule.below64 simulation.network.peers.length).1]? = some peer := by
  have members := congrArg List.length behind.regular.sound.nodes
  simp only [Network.creators, Roster.nodes, List.length_map] at members
  have inhabited : 0 < simulation.network.peers.length := members ▸ List.length_pos_of_ne_nil roster.nonempty
  exact ⟨_, List.getElem?_eq_getElem (RandomStream.below64_lt inhabited simulation.schedule)⟩

theorem Behind.step (behind : Behind roster mode stepsPerRound attempts simulation)
    (timed : (simulation.network.clock.plusMillis? 1).isSome = true) :
    ∃ after, simulation.step stepsPerRound (attempts + 1) = .ok after ∧
      Behind roster mode stepsPerRound (attempts + 1) after := by
  obtain ⟨peer, present⟩ := behind.exists_peer
  obtain ⟨clock, moved⟩ := Option.isSome_iff_exists.mp timed
  have listed : peer.creator ∈ simulation.network.creators := List.mem_map_of_mem (List.mem_of_getElem? present)
  have rounds : (attempts + 1) / stepsPerRound =
      attempts / stepsPerRound + if stepsPerRound ∣ attempts + 1 then 1 else 0 := Nat.succ_div
  simp only [Simulation.step]
  generalize (simulation.schedule.below64 simulation.network.peers.length).1 = position at present ⊢
  obtain ⟨⟨result, succeeded⟩, regular⟩ := behind.regular.attempt position timed
  have balanced := behind.balanced.attempt behind.regular.sound.ready moved present (fun _ => behind.regular.young listed) succeeded
  generalize simulation.network.attempt position [] = outcome at succeeded regular balanced ⊢
  obtain ⟨_, network⟩ := outcome
  simp only at succeeded regular balanced
  subst succeeded
  by_cases ends : stepsPerRound ∣ attempts + 1
  · rw [if_pos ends] at rounds
    have range : attempts / stepsPerRound + 2 < UInt64.size := by
      have clock := regular.clock
      have latest := network.clock.le_latest
      have fewer := Nat.div_le_self attempts stepsPerRound
      simp only [UInt64.size]
      omega
    obtain ⟨after, advanced, turned, later⟩ := regular.advanceRound range
    simp only [if_pos ((isRoundEnd_iff _ _).mpr ends), advanced]
    exact ⟨_, rfl, rounds ▸ later, balanced.turned turned⟩
  · rw [if_neg ends] at rounds
    have open_ : isRoundEnd stepsPerRound (attempts + 1) = false := by
      rw [← Bool.not_eq_true, isRoundEnd_iff]
      exact ends
    simp only [open_]
    exact ⟨_, rfl, rounds ▸ regular, balanced⟩

theorem Behind.steps {last remaining : Nat} (bound : remaining ≤ last)
    (behind : Behind roster mode stepsPerRound (last - remaining) simulation)
    (range : (Instant.epoch.plusMillis? last).isSome = true) :
    ∃ after, Simulation.steps stepsPerRound last remaining simulation = .ok after ∧
      Behind roster mode stepsPerRound last after := by
  induction remaining generalizing simulation with
  | zero => exact ⟨simulation, rfl, behind⟩
  | succ remaining ih =>
      have timed := Network.isSome_plusMillis? behind.regular.clock (by omega) range
      obtain ⟨next, done, further⟩ := behind.step timed
      have number : last - (remaining + 1) + 1 = last - remaining := by omega
      rw [number] at done further
      obtain ⟨after, rest, kept⟩ := ih (by omega) further
      refine ⟨after, ?_, kept⟩
      rw [Simulation.steps, done]
      exact rest

end Behind

theorem run_of_steps {settings : SimulationSettings} (inhabited : 0 < settings.nodes) {roster : Roster}
    (accepted : Simulation.roster settings = .ok roster) {simulation : Simulation}
    (done : steps settings.stepsPerRound settings.steps settings.steps (start settings roster) = .ok simulation) :
    run settings = .ok (simulation.reportOf roster settings.steps) := by
  have weighted : settings.nodes ≠ 0 := by omega
  simp only [run, if_neg weighted, accepted, done, Except.map]

/-- A simulation with at least one weighted node, which ends before the clock leaves the calendar, reports on all
its nodes. No attempt has been refused because of age; the events are those of the nodes; each step is an event of
one node or an attempt that one has given up for want of a parent; and the rounds are those of the steps. -/
theorem simulations_account_for_all_steps (settings : SimulationSettings) (inhabited : 0 < settings.nodes)
    (numbered : settings.nodes + settings.zeroWeightNodes < UInt64.size)
    (fits : settings.mode = .generationThreshold →
      roundsNonAncient.toNat * (settings.nodes + settings.zeroWeightNodes) < UInt64.size)
    (range : (Instant.epoch.plusMillis? settings.steps).isSome = true) :
    ∃ report, run settings = .ok report ∧ report.nodes.map NodeReport.node = members settings ∧
      (∀ node ∈ report.nodes, node.stats.refusedAncient = 0) ∧
      report.eventsCreated = (report.nodes.map fun node => node.stats.eventsCreated).sum ∧
      (report.nodes.map fun node => node.stats.eventsCreated + node.stats.refusedNoParent).sum = settings.steps ∧
      report.latestConsensusRound.toNat = settings.steps / settings.stepsPerRound := by
  obtain ⟨roster, accepted, nodes⟩ := exists_roster inhabited numbered
  have begun := Behind.start settings roster settings.stepsPerRound (by rwa [size_of_nodes nodes])
  rw [← Nat.sub_self settings.steps] at begun
  obtain ⟨simulation, done, behind⟩ := begun.steps (Nat.le_refl _) range
  have members := behind.regular.sound.nodes
  have balanced := behind.balanced
  refine ⟨_, run_of_steps inhabited accepted done, ?_, ?_, ?_, ?_, behind.regular.advanced.latest⟩
  · rw [← nodes, ← members]
    simp [reportOf, Network.creators]
  · intro node listed
    simp only [reportOf, List.mem_map] at listed
    obtain ⟨peer, among, rfl⟩ := listed
    apply balanced.ancient peer.creator.tally
    exact List.mem_map_of_mem (List.mem_map_of_mem among)
  · rw [reportOf, ← balanced.created]
    simp only [Network.tallies, Network.creators, List.map_map]
    rfl
  · rw [← balanced.attempts]
    simp only [reportOf, Network.tallies, Network.creators, List.map_map]
    rfl

def smallSettings : SimulationSettings := ⟨2, 1, 7, 3, 0, .birthRoundThreshold, .default⟩

theorem smallSettings_account_for_seven_steps :
    ∃ report, run smallSettings = .ok report ∧ report.nodes.map NodeReport.node = [⟨0⟩, ⟨1⟩, ⟨2⟩] ∧
      (∀ node ∈ report.nodes, node.stats.refusedAncient = 0) ∧
      report.eventsCreated = (report.nodes.map fun node => node.stats.eventsCreated).sum ∧
      (report.nodes.map fun node => node.stats.eventsCreated + node.stats.refusedNoParent).sum = 7 ∧
      report.latestConsensusRound.toNat = 2 :=
  simulations_account_for_all_steps smallSettings (by decide) (by decide) (by decide) (by decide)

end Simulation

end Hashgraph
