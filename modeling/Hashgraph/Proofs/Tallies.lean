import Mathlib.Algebra.Ring.Nat
import Hashgraph.Proofs.Burst
import Hashgraph.Proofs.NetworkRun

/-! What creators count. An attempt that does not fail is counted once by the way it ended, and nothing else is
counted, so all counts of a network together are as many as the attempts that were made in it. -/

namespace Hashgraph

structure Tally where
  created : Nat
  noParent : Nat
  ancient : Nat

def Tally.count (tally : Tally) : Option Event → Tally
  | some _ => { tally with created := tally.created + 1 }
  | none => { tally with noParent := tally.noParent + 1 }

def CreationCounters.tally (counters : CreationCounters) : Tally :=
  ⟨counters.created, counters.refusedNoParent, counters.refusedAncient⟩

namespace Creator

variable {σ : Type}

def tally (creator : Creator) : Tally := creator.counters.tally

inductive Ends (creator : Creator) (attempt : Attempt σ) : Prop
  | counted (result : Option Event) : attempt.outcome = .ok result →
      attempt.creator.tally = creator.tally.count result → Ends creator attempt
  | ancient (other : Option Event) : MayBuildOn creator other → creator.nextAncient? other = some true →
      Ends creator attempt
  | failed (fault : CreationError) : attempt.outcome = .error fault → attempt.creator.tally = creator.tally →
      Ends creator attempt

theorem build_ends {creator : Creator} {other : Option Event} (may : MayBuildOn creator other)
    (surroundings : Surroundings σ) (now : Instant) (supply : σ) :
    Ends creator (creator.build surroundings now supply other) := by
  cases creator.build_built surroundings now supply other with
  | exhausted _ failed _ same => exact .failed .outOfRange failed (congrArg CreationCounters.tally same)
  | ancient old _ _ _ => exact .ancient other may old
  | failed fault _ failed _ same => exact .failed fault failed (congrArg CreationCounters.tally same)
  | made event ratio _ created _ counted =>
      exact .counted (some event) created (congrArg CreationCounters.tally counted)

theorem Ends.whenCreated {creator : Creator} {attempt : Attempt σ} (ends : Ends creator attempt)
    (change : CreationCounters → CreationCounters) (keeps : ∀ counters, (change counters).tally = counters.tally) :
    Ends creator (Attempt.whenCreated attempt change) := by
  have outcome := whenCreated_outcome attempt change
  have same : (Attempt.whenCreated attempt change).creator.tally = attempt.creator.tally := by
    unfold Attempt.whenCreated
    split
    · exact keeps _
    · rfl
  cases ends with
  | counted result made grown => exact .counted result (outcome.trans made) (same.trans grown)
  | ancient other may old => exact .ancient other may old
  | failed fault failed kept => exact .failed fault (outcome.trans failed) (same.trans kept)

theorem Ends.of_agrees {before after : Creator} {attempt : Attempt σ} (ends : Ends after attempt)
    (same : Agrees before after) (counted : after.tally = before.tally) : Ends before attempt := by
  cases ends with
  | counted result made grown => exact .counted result made (counted ▸ grown)
  | ancient other may old => exact .ancient other (same.mayBuildOn may) ((same.nextAncient? other).symm.trans old)
  | failed fault failed kept => exact .failed fault failed (kept.trans counted)

theorem follow_ends {creator : Creator} {choice : ParentChoice} (several : creator.seat.roster.size ≠ 1)
    (eligible : ∀ parent, choice.parent? = some parent →
      parent ∈ creator.childless.events ∧ (creator.gain parent).isNonZero = true)
    (nobody : choice.parent? = none → ∀ event ∈ creator.childless.events, (creator.gain event).isNonZero = false)
    (surroundings : Surroundings σ) (now : Instant) (supply : σ) :
    Ends creator (creator.follow surroundings now supply choice) := by
  cases choice with
  | pity parent =>
      obtain ⟨listed, gain⟩ := eligible parent rfl
      have ends := build_ends (.candidate several listed gain) surroundings now supply
      exact ends.whenCreated (·.recordPityParent parent.creator) fun _ => rfl
  | best parent =>
      obtain ⟨listed, gain⟩ := eligible parent rfl
      have ends := build_ends (.candidate several listed gain) surroundings now supply
      exact ends.whenCreated (·.recordBestParent parent.creator) fun _ => rfl
  | nothing =>
      simp only [follow]
      split
      · rename_i starts
        exact build_ends (.first several starts (nobody rfl)) surroundings now supply
      · exact .counted none rfl rfl

theorem attempt_ends (creator : Creator) (surroundings : Surroundings σ) (now : Instant) (supply : σ) :
    Ends creator (creator.attempt surroundings now supply) := by
  by_cases alone : creator.seat.roster.size = 1
  · rw [attempt, if_pos alone]
    exact build_ends (.alone alone) surroundings now supply
  · -- The draw changes neither what may be built on nor what has been counted.
    rw [attempt_of_several alone]
    apply Ends.of_agrees _ creator.agrees_drawn rfl
    have several : creator.drawn.seat.roster.size ≠ 1 := alone
    apply follow_ends several
    · intro parent chosen
      have eligible : parent ∈ creator.childless.events ∧ (creator.gain parent).isNonZero = true :=
        chooseParent_some chosen
      exact eligible
    · intro missing
      have nobody : ∀ event ∈ creator.childless.events, (creator.gain event).isNonZero = false :=
        chooseParent_none missing
      exact nobody

@[simp] theorem tally_register (creator : Creator) (event : Event) : (creator.register event).tally = creator.tally :=
  congrArg CreationCounters.tally (creator.counters_register event)

end Creator

namespace Network

open Creator (MayBuildOn)

def tallies (network : Network) : List Tally := network.creators.map Creator.tally

theorem tallies_told (network : Network) (event : Event) : (network.told event).tallies = network.tallies := by
  simp [tallies, creators_told]

theorem tallies_attempt {network : Network} (ready : Ready network) {position : Nat} {clock : Instant} {peer : Peer}
    (moved : network.clock.plusMillis? 1 = some clock) (present : network.peers[position]? = some peer) :
    (network.attempt position []).2.tallies =
      network.tallies.set position (peer.creator.attempt (noTransactions peer.signer) clock ()).creator.tally := by
  have asked : (network.asked position clock peer).tallies =
      network.tallies.set position (peer.creator.attempt (noTransactions peer.signer) clock ()).creator.tally := by
    rw [tallies, creators_asked, List.map_set]
    rfl
  rw [attempt_of_peer ready moved present]
  split
  · rw [tallies_told, asked]
  · exact asked

theorem Turned.tallies {before after : Network} (turned : Turned before after) : after.tallies = before.tallies := by
  rw [Network.tallies, turned.creators, List.map_map]
  rfl

theorem sum_map_set {α : Type} (worth : α → Nat) {items : List α} {position : Nat} {old : α}
    (placed : items[position]? = some old) (new : α) :
    ((items.set position new).map worth).sum + worth old = (items.map worth).sum + worth new := by
  induction items generalizing position with
  | nil => simp at placed
  | cons first rest ih =>
      cases position with
      | zero =>
          simp only [List.getElem?_cons_zero, Option.some.injEq] at placed
          subst placed
          simp only [List.set_cons_zero, List.map_cons, List.sum_cons]
          omega
      | succ position =>
          have later := ih (by simpa using placed)
          simp only [List.set_cons_succ, List.map_cons, List.sum_cons]
          omega

structure Balanced (created attempts : Nat) (network : Network) : Prop where
  created : (network.tallies.map Tally.created).sum = created
  attempts : (network.tallies.map fun tally => tally.created + tally.noParent).sum = attempts
  ancient : ∀ tally ∈ network.tallies, tally.ancient = 0

theorem Balanced.start (roster : Roster) (mode : AncientMode) (settings : NodeId → CreationSettings)
    (signer : NodeId → Signer) : Balanced 0 0 (startEach roster mode settings signer) := by
  have nothing : ∀ tally ∈ (startEach roster mode settings signer).tallies, tally = ⟨0, 0, 0⟩ := by
    intro tally listed
    simp only [tallies, creators, startEach, List.map_map, List.mem_map] at listed
    obtain ⟨seat, _, rfl⟩ := listed
    rfl
  have whole := List.eq_replicate_of_mem nothing
  constructor
  · rw [whole]
    simp
  · rw [whole]
    simp
  · intro tally listed
    rw [nothing tally listed]

theorem Balanced.attempt {created attempts : Nat} {network : Network} (ready : Ready network)
    (balanced : Balanced created attempts network) {position : Nat} {clock : Instant} {peer : Peer} (moved : network.clock.plusMillis? 1 = some clock)
    (present : network.peers[position]? = some peer)
    (young : ∀ other, MayBuildOn peer.creator other → peer.creator.nextAncient? other = some false)
    {result : Option Event} (succeeded : (network.attempt position []).1 = .ok result) :
    Balanced (if result.isSome then created + 1 else created) (attempts + 1) (network.attempt position []).2 := by
  have placed : network.tallies[position]? = some peer.creator.tally := by simp [tallies, creators, present]
  have after := tallies_attempt ready moved present
  rw [attempt_of_peer ready moved present] at succeeded
  have ends := peer.creator.attempt_ends (noTransactions peer.signer) clock ()
  generalize peer.creator.attempt (noTransactions peer.signer) clock () = attempt at ends after succeeded
  have events := sum_map_set Tally.created placed attempt.creator.tally
  have total := sum_map_set (fun tally => tally.created + tally.noParent) placed attempt.creator.tally
  rw [← after, balanced.created] at events
  rw [← after, balanced.attempts] at total
  have before := balanced.ancient _ (List.mem_of_getElem? placed)
  have ancient : attempt.creator.tally.ancient = peer.creator.tally.ancient →
      ∀ tally ∈ (network.attempt position []).2.tallies, tally.ancient = 0 := by
    intro same tally listed
    rw [after] at listed
    rcases List.mem_or_eq_of_mem_set listed with kept | rfl
    · exact balanced.ancient tally kept
    · exact same.trans before
  cases ends with
  | counted made outcome grown =>
      rw [outcome] at succeeded
      rw [grown] at events total ancient
      cases made with
      | some event =>
          cases succeeded
          simp only [Tally.count] at events total
          exact ⟨by simp only [Option.isSome_some, if_true]; omega, by omega, ancient rfl⟩
      | none =>
          cases succeeded
          simp only [Tally.count] at events total
          exact ⟨by simp only [Option.isSome_none, Bool.false_eq_true, if_false]; omega, by omega, ancient rfl⟩
  | ancient other may old =>
      rw [young other may] at old
      cases old
  | failed fault failed _ =>
      rw [failed] at succeeded
      cases succeeded

theorem Balanced.turned {created attempts : Nat} {before after : Network}
    (balanced : Balanced created attempts before) (turned : Turned before after) :
    Balanced created attempts after := by
  constructor
  · rw [turned.tallies, balanced.created]
  · rw [turned.tallies, balanced.attempts]
  · rw [turned.tallies]
    exact balanced.ancient

end Network

end Hashgraph
